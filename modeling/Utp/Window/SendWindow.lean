import Utp.Buffer.BlockingMap
import Utp.Util.Hostname
import Utp.Window.RttTracker
import Utp.Wire.Packet

/-! # The send window

Packets in flight by sequence number. A packet leaves on a SACK that lists it,
on a cumulative acknowledgement at or past it, or when its retransmission limit
is used up. `handledAcks` is a history of the acknowledgements processed.
-/

namespace Utp

structure UtpPacketWithExtraInfo where
  packet : UtpPacket
  resendTimes : Nat
  sentTime : Nat
  remoteAddr : UtpAddr
  deriving DecidableEq

structure UtpSendWindow where
  packetMap : BlockingMap Nat UtpPacketWithExtraInfo
  latestSeqReceivedOfOtherSide : Option Nat
  congestionControl : UtpCongestionControl
  rttTracker : UtpRttTracker
  remoteWindowBytes : Option Nat
  handledAcks : List UtpPacket

/-- `Utp.DEFAULT_MTU` -/
def DEFAULT_MTU : Nat := 1400

namespace UtpSendWindow

def RESEND_TIMES_LIMIT : Nat := 3

def MAX_WINDOW_SIZE : ℚ := 64

def MIN_WINDOW_SIZE : ℚ := 4

def create : UtpSendWindow where
  packetMap := .create MIN_WINDOW_SIZE
  latestSeqReceivedOfOtherSide := none
  congestionControl := .create MIN_WINDOW_SIZE
  rttTracker := .create
  remoteWindowBytes := none
  handledAcks := []

def isPacketAcked (self : UtpSendWindow) (seqNr : Nat) : Bool :=
  match self.latestSeqReceivedOfOtherSide with
  | none => false
  | some latest => Seq.ge latest seqNr

/-- The capacity both the congestion window and the peer's buffer allow. -/
def windowCapacity (self : UtpSendWindow) : ℚ :=
  let ccWindow := max MIN_WINDOW_SIZE (min MAX_WINDOW_SIZE self.congestionControl.windowSize)
  match self.remoteWindowBytes with
  | none => ccWindow
  | some bytes => min ccWindow (max 1 (bytes / DEFAULT_MTU : Nat))

/-- Both bounds leave room for one packet. -/
theorem windowCapacity_ge (self : UtpSendWindow) : 1 ≤ self.windowCapacity := by
  have hcongestion : (1 : ℚ) ≤ max MIN_WINDOW_SIZE
      (min MAX_WINDOW_SIZE self.congestionControl.windowSize) :=
    le_max_of_le_left (by decide)
  unfold windowCapacity
  split
  next => exact hcongestion
  next => exact le_min hcongestion (le_max_left _ _)

def applyWindowSize (self : UtpSendWindow) : UtpSendWindow :=
  { self with packetMap := self.packetMap.updateCapacity self.windowCapacity }

def getAllSeqNrs (self : UtpSendWindow) : List Nat := self.packetMap.map.keys

def isEmpty (self : UtpSendWindow) : Bool := self.packetMap.size = 0

def delete (self : UtpSendWindow) (seqNr : Nat) : UtpSendWindow :=
  { self with packetMap := self.packetMap.delete seqNr }

/-- Karn's rule: only packets that were never retransmitted give a sample. -/
def sample (self : UtpSendWindow) (now : Nat) (info : UtpPacketWithExtraInfo) : UtpSendWindow :=
  if info.resendTimes = 0 then
    { self with rttTracker := self.rttTracker.update now info.sentTime }
  else self

/-! ## Retransmission -/

/-- One round of the loop in `resend`: the window after it and the packet to
hand to the socket, if the round retransmits one. -/
def resendOne (self : UtpSendWindow) (now seqNr : Nat) :
    UtpSendWindow × Option UtpPacketWithExtraInfo :=
  match self.packetMap.get seqNr with
  | none => (self, none)
  | some info =>
      if self.rttTracker.rto < (now : ℚ) - info.sentTime then
        if RESEND_TIMES_LIMIT ≤ info.resendTimes then
          let lossy := { self with congestionControl := self.congestionControl.onPacketLoss }
          (lossy.applyWindowSize.delete seqNr, none)
        else
          let again := { info with resendTimes := info.resendTimes + 1, sentTime := now }
          ({ self with packetMap := self.packetMap.update seqNr again }, some again)
      else (self, none)

/-! ## Acknowledgement -/

def noteAck (self : UtpSendWindow) (ackPacket : UtpPacket) : UtpSendWindow :=
  { self with
    remoteWindowBytes := some ackPacket.windowSize
    latestSeqReceivedOfOtherSide :=
      match self.latestSeqReceivedOfOtherSide with
      | none => some ackPacket.ackNr
      | some latest => if Seq.gt ackPacket.ackNr latest then some ackPacket.ackNr else some latest
    handledAcks := self.handledAcks ++ [ackPacket] }

def sackOne (now : Nat) (self : UtpSendWindow) (seqNr : Nat) : UtpSendWindow :=
  match self.packetMap.get seqNr with
  | none => self
  | some info => (self.sample now info).delete seqNr

def ackOne (now : Nat) (self : UtpSendWindow) (seqNr : Nat) : UtpSendWindow :=
  if self.isPacketAcked seqNr then
    match self.packetMap.get seqNr with
    | none => self.delete seqNr
    | some info => (self.sample now info).delete seqNr
  else self

/-- The numbers the SACK extension of a packet reports, if it has one. -/
def sackedSeqNrs (ackPacket : UtpPacket) : List Nat :=
  match ackPacket.sackExtension with
  | none => []
  | some sack => sack.getRemoteReceivedSeqNrs

def sackLoop (now : Nat) (self : UtpSendWindow) (seqNrs : List Nat) : UtpSendWindow :=
  seqNrs.foldl (sackOne now) self

def ackLoop (now : Nat) (self : UtpSendWindow) (seqNrs : List Nat) : UtpSendWindow :=
  seqNrs.foldl (ackOne now) self

def adjust (self : UtpSendWindow) : UtpSendWindow :=
  ({ self with congestionControl := self.congestionControl.updateRtt self.rttTracker.rtt } :
    UtpSendWindow).applyWindowSize

def handleAck (self : UtpSendWindow) (now : Nat) (ackPacket : UtpPacket) : UtpSendWindow :=
  let sacked := (self.noteAck ackPacket).sackLoop now (sackedSeqNrs ackPacket)
  (sacked.ackLoop now sacked.getAllSeqNrs).adjust

/-- The history of acknowledgements outlives a reset. -/
def reset (self : UtpSendWindow) : UtpSendWindow :=
  { self with
    packetMap := self.packetMap.clear.updateCapacity MIN_WINDOW_SIZE
    latestSeqReceivedOfOtherSide := none
    remoteWindowBytes := none
    congestionControl := self.congestionControl.reset }

/-! ## What the operations do to the map -/

/-- An acknowledgement, with what was acknowledged before, covers a number. -/
def Covers (self : UtpSendWindow) (ackPacket : UtpPacket) (seqNr : Nat) : Prop :=
  seqNr ∈ sackedSeqNrs ackPacket ∨ (self.noteAck ackPacket).isPacketAcked seqNr = true

instance instDecidableCovers (self : UtpSendWindow) (ackPacket : UtpPacket) (seqNr : Nat) :
    Decidable (self.Covers ackPacket seqNr) := inferInstanceAs (Decidable (_ ∨ _))

/-- A packet whose last retransmission has timed out as well. -/
def IsExhausted (self : UtpSendWindow) (now : Nat) (info : UtpPacketWithExtraInfo) : Prop :=
  self.rttTracker.rto < (now : ℚ) - info.sentTime ∧ RESEND_TIMES_LIMIT ≤ info.resendTimes

@[simp] theorem sample_packetMap (self : UtpSendWindow) (now : Nat)
    (info : UtpPacketWithExtraInfo) :
    (self.sample now info).packetMap = self.packetMap := by
  unfold sample
  split <;> rfl

@[simp] theorem isPacketAcked_sample (self : UtpSendWindow) (now : Nat)
    (info : UtpPacketWithExtraInfo) (seqNr : Nat) :
    (self.sample now info).isPacketAcked seqNr = self.isPacketAcked seqNr := by
  unfold sample
  split <;> rfl

@[simp] theorem isPacketAcked_delete (self : UtpSendWindow) (deleted seqNr : Nat) :
    (self.delete deleted).isPacketAcked seqNr = self.isPacketAcked seqNr := rfl

section Loops

variable {α : Type} (view : UtpSendWindow → α)
  (htracker : ∀ window tracker, view { window with rttTracker := tracker } = view window)
  (hmap : ∀ window map, view { window with packetMap := map } = view window)

include htracker hmap in
theorem sample_delete_keeps (self : UtpSendWindow) (now : Nat) (info : UtpPacketWithExtraInfo)
    (seqNr : Nat) : view ((self.sample now info).delete seqNr) = view self := by
  unfold sample delete
  split
  next => rw [hmap, htracker]
  next => rw [hmap]

include htracker hmap in
/-- The loops of `handleAck` change nothing but the map and the tracker. -/
theorem sackLoop_keeps (now : Nat) (seqNrs : List Nat) (self : UtpSendWindow) :
    view (self.sackLoop now seqNrs) = view self := by
  unfold sackLoop
  induction seqNrs generalizing self with
  | nil => rfl
  | cons seqNr rest ih =>
      rw [List.foldl_cons, ih]
      unfold sackOne
      split
      next => rfl
      next => exact sample_delete_keeps view htracker hmap _ _ _ _

include htracker hmap in
theorem ackLoop_keeps (now : Nat) (seqNrs : List Nat) (self : UtpSendWindow) :
    view (self.ackLoop now seqNrs) = view self := by
  unfold ackLoop
  induction seqNrs generalizing self with
  | nil => rfl
  | cons seqNr rest ih =>
      rw [List.foldl_cons, ih]
      unfold ackOne
      split
      next =>
        split
        next => exact hmap _ _
        next => exact sample_delete_keeps view htracker hmap _ _ _ _
      next => rfl

end Loops

theorem sackLoop_latest (now : Nat) (seqNrs : List Nat) (self : UtpSendWindow) :
    (self.sackLoop now seqNrs).latestSeqReceivedOfOtherSide =
      self.latestSeqReceivedOfOtherSide :=
  sackLoop_keeps (fun window => window.latestSeqReceivedOfOtherSide) (fun _ _ => rfl)
    (fun _ _ => rfl) now seqNrs self

theorem ackLoop_latest (now : Nat) (seqNrs : List Nat) (self : UtpSendWindow) :
    (self.ackLoop now seqNrs).latestSeqReceivedOfOtherSide =
      self.latestSeqReceivedOfOtherSide :=
  ackLoop_keeps (fun window => window.latestSeqReceivedOfOtherSide) (fun _ _ => rfl)
    (fun _ _ => rfl) now seqNrs self

theorem handleAck_latest (self : UtpSendWindow) (now : Nat) (ackPacket : UtpPacket) :
    (self.handleAck now ackPacket).latestSeqReceivedOfOtherSide =
      (self.noteAck ackPacket).latestSeqReceivedOfOtherSide :=
  (ackLoop_latest _ _ _).trans (sackLoop_latest _ _ _)

theorem isPacketAcked_congr {self other : UtpSendWindow}
    (hlatest : self.latestSeqReceivedOfOtherSide = other.latestSeqReceivedOfOtherSide)
    (seqNr : Nat) : self.isPacketAcked seqNr = other.isPacketAcked seqNr := by
  unfold isPacketAcked
  rw [hlatest]

theorem isPacketAcked_sackLoop (self : UtpSendWindow) (now : Nat) (seqNrs : List Nat)
    (seqNr : Nat) : (self.sackLoop now seqNrs).isPacketAcked seqNr = self.isPacketAcked seqNr :=
  isPacketAcked_congr (sackLoop_latest now seqNrs self) seqNr

section Preserves

variable (property : BlockingMap Nat UtpPacketWithExtraInfo → Prop)

theorem sackLoop_preserves (now : Nat) (seqNrs : List Nat)
    (hdelete : ∀ map, ∀ seqNr ∈ seqNrs, property map → property (map.delete seqNr))
    {self : UtpSendWindow} (hself : property self.packetMap) :
    property (self.sackLoop now seqNrs).packetMap := by
  unfold sackLoop
  induction seqNrs generalizing self with
  | nil => exact hself
  | cons seqNr rest ih =>
      refine ih (fun map other hother => hdelete map other (List.mem_cons_of_mem _ hother)) ?_
      unfold sackOne
      split
      next => exact hself
      next => exact hdelete _ _ List.mem_cons_self (by simpa using hself)

theorem ackLoop_preserves (now : Nat) (seqNrs : List Nat) {self : UtpSendWindow}
    (hdelete : ∀ map seqNr, self.isPacketAcked seqNr = true → property map →
      property (map.delete seqNr))
    (hself : property self.packetMap) : property (self.ackLoop now seqNrs).packetMap := by
  unfold ackLoop
  induction seqNrs generalizing self with
  | nil => exact hself
  | cons seqNr rest ih =>
      by_cases hacked : self.isPacketAcked seqNr = true
      · rw [List.foldl_cons, ackOne, if_pos hacked]
        split
        next => exact ih hdelete (hdelete _ _ hacked hself)
        next info _ =>
          refine ih (fun map other hother => hdelete map other (by simpa using hother)) ?_
          exact hdelete _ _ hacked (by simpa using hself)
      · rw [List.foldl_cons, ackOne, if_neg hacked]
        exact ih hdelete hself

/-- An acknowledgement only deletes what it covers and changes the capacity. -/
theorem handleAck_preserves (now : Nat) (ackPacket : UtpPacket) {self : UtpSendWindow}
    (hdelete : ∀ map seqNr, self.Covers ackPacket seqNr → property map →
      property (map.delete seqNr))
    (hcapacity : ∀ map capacity, 1 ≤ capacity → property map →
      property (map.updateCapacity capacity))
    (hself : property self.packetMap) : property (self.handleAck now ackPacket).packetMap := by
  refine hcapacity _ _ (windowCapacity_ge _)
    (ackLoop_preserves property now _ (fun map seqNr hacked => ?_)
    (sackLoop_preserves property now _ (fun map seqNr hsacked => ?_) hself))
  · rw [isPacketAcked_sackLoop] at hacked
    exact hdelete map seqNr (.inr hacked)
  · exact hdelete map seqNr (.inl hsacked)

/-- A retransmission round deletes an exhausted packet, or overwrites an entry with
the packet kept. -/
theorem resendOne_preserves (now seqNr : Nat) {self : UtpSendWindow}
    (hdelete : ∀ map info, self.packetMap.get seqNr = some info → self.IsExhausted now info →
      property map → property (map.delete seqNr))
    (hcapacity : ∀ map capacity, 1 ≤ capacity → property map →
      property (map.updateCapacity capacity))
    (hupdate : ∀ info resendTimes sentTime, self.packetMap.get seqNr = some info → property
      (self.packetMap.update seqNr { info with resendTimes := resendTimes, sentTime := sentTime }))
    (hself : property self.packetMap) : property (self.resendOne now seqNr).1.packetMap := by
  unfold resendOne
  split
  next => exact hself
  next info hinfo =>
    split
    next hrto =>
      split
      next hlimit =>
        exact hdelete _ info hinfo ⟨hrto, hlimit⟩ (hcapacity _ _ (windowCapacity_ge _) hself)
      next => exact hupdate _ _ _ hinfo
    next => exact hself

theorem reset_preserves (hclear : ∀ map, property map → property map.clear)
    (hcapacity : ∀ map capacity, 1 ≤ capacity → property map →
      property (map.updateCapacity capacity))
    {self : UtpSendWindow} (hself : property self.packetMap) : property self.reset.packetMap :=
  hcapacity _ _ (by decide) (hclear _ hself)

end Preserves

theorem handleAck_evolves (self : UtpSendWindow) (now : Nat) (ackPacket : UtpPacket) :
    self.packetMap.Evolves (self.handleAck now ackPacket).packetMap :=
  handleAck_preserves _ now ackPacket (fun map seqNr _ h => h.trans (map.evolves_delete seqNr))
    (fun map capacity _ h => h.trans (map.evolves_updateCapacity capacity)) (.refl _)

theorem resendOne_evolves (self : UtpSendWindow) (now seqNr : Nat) :
    self.packetMap.Evolves (self.resendOne now seqNr).1.packetMap :=
  resendOne_preserves _ now seqNr (fun map _ _ _ h => h.trans (map.evolves_delete seqNr))
    (fun map capacity _ h => h.trans (map.evolves_updateCapacity capacity))
    (fun _ _ _ _ => ⟨fun _ => id, fun _ => .inl⟩) (.refl _)

theorem reset_evolves (self : UtpSendWindow) : self.packetMap.Evolves self.reset.packetMap :=
  reset_preserves _ (fun _ h => ⟨h.entered, h.waiting⟩)
    (fun map capacity _ h => h.trans (map.evolves_updateCapacity capacity)) (.refl _)

/-- What a retransmission round hands to the socket is in the map. -/
theorem resendOne_again {self : UtpSendWindow} {now seqNr : Nat} {again : UtpPacketWithExtraInfo}
    (hagain : (self.resendOne now seqNr).2 = some again) :
    (self.resendOne now seqNr).1.packetMap.get seqNr = some again := by
  unfold resendOne at hagain ⊢
  split at hagain
  next => cases hagain
  next =>
    split at hagain
    next =>
      split at hagain
      next => cases hagain
      next hlimit =>
        cases hagain
        simp [BlockingMap.get, BlockingMap.update, *]
    next => cases hagain

end UtpSendWindow

end Utp
