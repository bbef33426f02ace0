import Mathlib.Data.List.Basic
import Utp.Buffer.Admission
import Utp.Window.SendWindow

/-! # The limits of the send window

The capacity is computed anew on every acknowledgement, loss and reset, always between 1 and
64, and never above what the last acknowledgement has room for. Packets enter only below the
capacity.
-/

namespace Utp

open Relation (ReflTransGen)

/-! ## Sizes -/

namespace BlockingMap

variable {κ ν : Type} [DecidableEq κ] {before after : BlockingMap κ ν}

/-- Below a bound on the capacity there is room for one entry more. -/
theorem Enters.size {bound : Nat} (hadmits : Enters before after) (hsize : before.size ≤ bound)
    (hcapacity : before.capacity ≤ bound) : after.size ≤ bound := by
  cases hadmits with
  | admits hadmits =>
      cases hadmits with
      | enters key value hroom hmap =>
          have hlt : before.size < bound := by exact_mod_cast hroom.trans_le hcapacity
          unfold BlockingMap.size at hlt ⊢
          rw [hmap, OrderedMap.size_set]
          split <;> omega
      | lines hmap =>
          unfold BlockingMap.size at hsize ⊢
          rwa [hmap]
  | quiet hmap =>
      unfold BlockingMap.size at hsize ⊢
      rw [← OrderedMap.length_keys] at hsize ⊢
      exact (List.subperm_of_subset after.map.keys_nodup hmap).length_le.trans hsize
  | capacity hmap =>
      unfold BlockingMap.size at hsize ⊢
      rwa [hmap]

theorem within_size {bound : Nat} (hchain : ReflTransGen (EntersWithin bound) before after)
    (hsize : before.size ≤ bound) : after.size ≤ bound := by
  induction hchain with
  | refl => exact hsize
  | tail _ hstep ih => exact hstep.enters.size ih hstep.capacity

end BlockingMap

namespace UtpSendWindow

variable {self next : UtpSendWindow}

/-! ## The capacity -/

theorem windowCapacity_le (self : UtpSendWindow) : self.windowCapacity ≤ MAX_WINDOW_SIZE := by
  have hcongestion : max MIN_WINDOW_SIZE (min MAX_WINDOW_SIZE self.congestionControl.windowSize) ≤
      MAX_WINDOW_SIZE := max_le (by decide) (min_le_left _ _)
  unfold windowCapacity
  split
  next => exact hcongestion
  next => exact (min_le_left _ _).trans hcongestion

/-- The packets that the other end has room for, as it has told; one at least. -/
def remotePackets (bytes : Nat) : ℚ := max 1 (bytes / DEFAULT_MTU : Nat)

theorem windowCapacity_le_remote {bytes : Nat} (hbytes : self.remoteWindowBytes = some bytes) :
    self.windowCapacity ≤ remotePackets bytes := by
  unfold windowCapacity
  rw [hbytes]
  exact min_le_right _ _

theorem handleAck_remote (self : UtpSendWindow) (now : Nat) (ackPacket : UtpPacket) :
    (self.handleAck now ackPacket).remoteWindowBytes = some ackPacket.windowSize := by
  have hack := ackLoop_keeps (fun window => window.remoteWindowBytes) (fun _ _ => rfl)
    (fun _ _ => rfl) now
  have hsack := sackLoop_keeps (fun window => window.remoteWindowBytes) (fun _ _ => rfl)
    (fun _ _ => rfl) now
  exact (hack _ _).trans (hsack _ _)

/-- What the deletions of an acknowledgement leave, before the capacity is computed. -/
def acknowledged (self : UtpSendWindow) (now : Nat) (ackPacket : UtpPacket) : UtpSendWindow :=
  let sacked := (self.noteAck ackPacket).sackLoop now (sackedSeqNrs ackPacket)
  sacked.ackLoop now sacked.getAllSeqNrs

/-- The window whose capacity is computed then. -/
def adjusted (self : UtpSendWindow) : UtpSendWindow :=
  { self with congestionControl := self.congestionControl.updateRtt self.rttTracker.rtt }

theorem handleAck_packetMap (self : UtpSendWindow) (now : Nat) (ackPacket : UtpPacket) :
    (self.handleAck now ackPacket).packetMap =
      (self.acknowledged now ackPacket).packetMap.updateCapacity
        (self.acknowledged now ackPacket).adjusted.windowCapacity := rfl

/-- The deletions let packets in, within the capacity that was. -/
theorem acknowledged_within (self : UtpSendWindow) (now : Nat) (ackPacket : UtpPacket) {bound : ℚ}
    (hbound : self.packetMap.capacity ≤ bound) :
    ReflTransGen (BlockingMap.EntersWithin bound) self.packetMap
        (self.acknowledged now ackPacket).packetMap ∧
      (self.acknowledged now ackPacket).packetMap.capacity ≤ bound := by
  let property (map : BlockingMap Nat UtpPacketWithExtraInfo) : Prop :=
    ReflTransGen (BlockingMap.EntersWithin bound) self.packetMap map ∧ map.capacity ≤ bound
  have hdelete : ∀ map seqNr, property map → property (map.delete seqNr) := by
    rintro map seqNr ⟨hchain, hcapacity⟩
    refine ⟨hchain.trans (BlockingMap.delete_within hcapacity seqNr), ?_⟩
    rw [BlockingMap.delete_capacity]
    exact hcapacity
  apply ackLoop_preserves property now _ fun map seqNr _ => hdelete map seqNr
  apply sackLoop_preserves property now _ fun map seqNr _ => hdelete map seqNr
  exact ⟨.refl, hbound⟩

/-! ## Runs of a window -/

/-- The operations on a window: a registration up to where it waits, an acknowledgement, a round
of a retransmission, and a reset. -/
inductive Step (self : UtpSendWindow) : UtpSendWindow → Prop
  | register (seqNr : Nat) (info : UtpPacketWithExtraInfo) :
      Step self { self with packetMap := ((BlockingMap.set seqNr info).turn self.packetMap).1 }
  | handleAck (now : Nat) (ackPacket : UtpPacket) : Step self (self.handleAck now ackPacket)
  | resendOne (now seqNr : Nat) : Step self (self.resendOne now seqNr).1
  | reset : Step self self.reset

/-- Every window of every run. -/
def Reached : UtpSendWindow → Prop := ReflTransGen Step create

/-- The bounds on a window: those that never change, and the one of the other end. -/
structure Limited (window : UtpSendWindow) : Prop where
  least : 1 ≤ window.packetMap.capacity
  most : window.packetMap.capacity ≤ 64
  size : window.packetMap.size ≤ 64
  remote : ∀ bytes, window.remoteWindowBytes = some bytes →
    window.packetMap.capacity ≤ remotePackets bytes

theorem Limited.chain (hself : self.Limited) {map : BlockingMap Nat UtpPacketWithExtraInfo}
    (hchain : ReflTransGen (BlockingMap.EntersWithin 64) self.packetMap map) : map.size ≤ 64 :=
  @BlockingMap.within_size _ _ _ _ _ 64 (by exact_mod_cast hchain) hself.size

theorem Limited.handleAck (hself : self.Limited) (now : Nat) (ackPacket : UtpPacket) :
    (self.handleAck now ackPacket).Limited := by
  obtain ⟨hchain, hcapacity⟩ := self.acknowledged_within now ackPacket hself.most
  have hremote : (self.acknowledged now ackPacket).adjusted.remoteWindowBytes =
      some ackPacket.windowSize := self.handleAck_remote now ackPacket
  refine ⟨?_, ?_, ?_, fun bytes hbytes => ?_⟩
  all_goals rw [handleAck_packetMap]
  · rw [BlockingMap.updateCapacity_capacity]
    exact windowCapacity_ge _
  · rw [BlockingMap.updateCapacity_capacity]
    exact windowCapacity_le _
  · apply hself.chain
    exact hchain.trans (BlockingMap.updateCapacity_within hcapacity (windowCapacity_le _))
  · rw [handleAck_remote] at hbytes
    cases hbytes
    rw [BlockingMap.updateCapacity_capacity]
    exact windowCapacity_le_remote hremote

/-- What a retransmission round does to the map. -/
theorem resendOne_cases (self : UtpSendWindow) (now seqNr : Nat) :
    (self.resendOne now seqNr).1.remoteWindowBytes = self.remoteWindowBytes ∧
      ((self.resendOne now seqNr).1.packetMap = self.packetMap ∨
        (∃ info, self.packetMap.get seqNr = some info ∧ ∃ again,
          (self.resendOne now seqNr).1.packetMap = self.packetMap.update seqNr again) ∨
        ∃ lossy : UtpSendWindow, lossy.remoteWindowBytes = self.remoteWindowBytes ∧
          (self.resendOne now seqNr).1.packetMap =
            (self.packetMap.updateCapacity lossy.windowCapacity).delete seqNr) := by
  unfold resendOne
  split
  next => exact ⟨rfl, .inl rfl⟩
  next info hinfo =>
    split
    next =>
      split
      next =>
        exact ⟨rfl, .inr (.inr ⟨{ self with
          congestionControl := self.congestionControl.onPacketLoss }, rfl, rfl⟩)⟩
      next => exact ⟨rfl, .inr (.inl ⟨info, hinfo, _, rfl⟩)⟩
    next => exact ⟨rfl, .inl rfl⟩

theorem update_within {map : BlockingMap Nat UtpPacketWithExtraInfo} {bound : ℚ}
    (hbound : map.capacity ≤ bound) {seqNr : Nat} {info again : UtpPacketWithExtraInfo}
    (hinfo : map.get seqNr = some info) :
    ReflTransGen (BlockingMap.EntersWithin bound) map (map.update seqNr again) := by
  refine .single ⟨hbound, .quiet (fun key hkey => ?_) rfl rfl⟩
  rcases OrderedMap.mem_keys_set.mp hkey with hold | rfl
  · exact hold
  · exact OrderedMap.mem_keys_of_get? hinfo

/-- A round lets packets in only below any bound that the capacity keeps to, also after a
loss. -/
theorem resendOne_within {bound : ℚ} (hbound : self.packetMap.capacity ≤ bound)
    (hlossy : ∀ lossy : UtpSendWindow, lossy.remoteWindowBytes = self.remoteWindowBytes →
      lossy.windowCapacity ≤ bound) (now seqNr : Nat) :
    ReflTransGen (BlockingMap.EntersWithin bound) self.packetMap
        (self.resendOne now seqNr).1.packetMap ∧
      (self.resendOne now seqNr).1.packetMap.capacity ≤ bound := by
  obtain ⟨-, hsame | ⟨info, hinfo, again, hupdate⟩ | ⟨lossy, hremote, hloss⟩⟩ :=
    self.resendOne_cases now seqNr
  · rw [hsame]
    exact ⟨.refl, hbound⟩
  · rw [hupdate]
    exact ⟨update_within hbound hinfo, hbound⟩
  · have hcapacity := hlossy lossy hremote
    have hafter : (self.packetMap.updateCapacity lossy.windowCapacity).capacity ≤ bound := by
      rwa [BlockingMap.updateCapacity_capacity]
    rw [hloss]
    refine ⟨(BlockingMap.updateCapacity_within hbound hcapacity).trans
      (BlockingMap.delete_within hafter seqNr), ?_⟩
    rwa [BlockingMap.delete_capacity]

theorem Limited.resendOne (hself : self.Limited) (now seqNr : Nat) :
    (self.resendOne now seqNr).1.Limited := by
  obtain ⟨hremote, hcases⟩ := self.resendOne_cases now seqNr
  have hwithin := resendOne_within hself.most (fun lossy _ => lossy.windowCapacity_le) now seqNr
  refine ⟨?_, hwithin.2, hself.chain hwithin.1, fun bytes hbytes => ?_⟩
  · rcases hcases with hsame | ⟨info, -, again, hupdate⟩ | ⟨lossy, -, hloss⟩
    · rw [hsame]
      exact hself.least
    · rw [hupdate]
      exact hself.least
    · rw [hloss, BlockingMap.delete_capacity, BlockingMap.updateCapacity_capacity]
      exact windowCapacity_ge _
  · rw [hremote] at hbytes
    exact (resendOne_within (hself.remote bytes hbytes) (fun lossy hlossy =>
      windowCapacity_le_remote (hlossy.trans hbytes)) now seqNr).2

theorem Limited.step (hself : self.Limited) (hstep : self.Step next) : next.Limited := by
  cases hstep with
  | register seqNr info =>
      have hcapacity := BlockingMap.turn_set_capacity self.packetMap seqNr info
      refine ⟨?_, ?_, hself.chain (BlockingMap.turn_set_within hself.most seqNr info),
        fun bytes hbytes => ?_⟩
      all_goals rw [hcapacity]
      · exact hself.least
      · exact hself.most
      · exact hself.remote bytes hbytes
  | handleAck now ackPacket => exact hself.handleAck now ackPacket
  | resendOne now seqNr => exact hself.resendOne now seqNr
  | reset =>
      have hcleared : self.packetMap.clear.capacity ≤ 64 := hself.most
      have hcapacity : self.reset.packetMap.capacity = MIN_WINDOW_SIZE :=
        BlockingMap.updateCapacity_capacity _ _
      refine ⟨?_, ?_, ?_, nofun⟩
      · rw [hcapacity]
        decide
      · rw [hcapacity]
        decide
      · apply @BlockingMap.within_size _ _ _ self.packetMap.clear _ 64
        · exact BlockingMap.updateCapacity_within hcleared (by decide)
        · exact Nat.zero_le _

theorem Reached.limited (hrun : self.Reached) : self.Limited := by
  induction hrun with
  | refl => exact ⟨by decide, by decide, by decide, nofun⟩
  | tail _ hstep ih => exact ih.step hstep

/-- Until the next acknowledgement or reset. -/
inductive Waiting (self : UtpSendWindow) : UtpSendWindow → Prop
  | refl : Waiting self self
  | register {next : UtpSendWindow} (hrun : Waiting self next) (seqNr : Nat)
      (info : UtpPacketWithExtraInfo) :
      Waiting self { next with packetMap := ((BlockingMap.set seqNr info).turn next.packetMap).1 }
  | resendOne {next : UtpSendWindow} (hrun : Waiting self next) (now seqNr : Nat) :
      Waiting self (next.resendOne now seqNr).1

/-- Losses change the capacity, but not beyond what the other end has room for. -/
theorem Waiting.within {bytes : Nat} (hrun : self.Waiting next)
    (hbytes : self.remoteWindowBytes = some bytes)
    (hcapacity : self.packetMap.capacity ≤ remotePackets bytes) :
    next.remoteWindowBytes = some bytes ∧ next.packetMap.capacity ≤ remotePackets bytes ∧
      ReflTransGen (BlockingMap.EntersWithin (remotePackets bytes)) self.packetMap
        next.packetMap := by
  induction hrun with
  | refl => exact ⟨hbytes, hcapacity, .refl⟩
  | register _ seqNr info ih =>
      obtain ⟨hbytes, hcapacity, hchain⟩ := ih
      refine ⟨hbytes, ?_, hchain.trans (BlockingMap.turn_set_within hcapacity seqNr info)⟩
      exact (BlockingMap.turn_set_capacity _ _ _).trans_le hcapacity
  | @resendOne next _ now seqNr ih =>
      obtain ⟨hbytes, hcapacity, hchain⟩ := ih
      obtain ⟨hround, hafter⟩ := resendOne_within hcapacity (fun lossy hlossy =>
        windowCapacity_le_remote (hlossy.trans hbytes)) now seqNr
      exact ⟨(next.resendOne_cases now seqNr).1.trans hbytes, hafter, hchain.trans hround⟩

/-- In every run the capacity lies between 1 and 64, and at most 64 packets are in flight. An
acknowledgement leaves a capacity of no more than the packets that the other end has room for,
one at least, and until the next one no packet enters but below that. -/
theorem window_limits (hrun : self.Reached) :
    (1 ≤ self.packetMap.capacity ∧ self.packetMap.capacity ≤ 64) ∧ self.packetMap.size ≤ 64 ∧
      ∀ now (ackPacket : UtpPacket),
        (self.handleAck now ackPacket).packetMap.capacity ≤
            max 1 ((ackPacket.windowSize / 1400 : Nat) : ℚ) ∧
          ∀ later, (self.handleAck now ackPacket).Waiting later →
            ReflTransGen
              (BlockingMap.EntersWithin (max 1 ((ackPacket.windowSize / 1400 : Nat) : ℚ)))
              (self.handleAck now ackPacket).packetMap later.packetMap := by
  have hlimited := hrun.limited
  refine ⟨⟨hlimited.least, hlimited.most⟩, hlimited.size, fun now ackPacket => ?_⟩
  have hremote := self.handleAck_remote now ackPacket
  have hcapacity := (hlimited.handleAck now ackPacket).remote _ hremote
  exact ⟨hcapacity, fun later hlater => (hlater.within hremote hcapacity).2.2⟩

/-- What the window holds of the `i`-th packet of one byte. -/
def flying (i : Nat) : UtpPacketWithExtraInfo where
  packet := { type := .ST_DATA, connId := 1, seqNr := i, data := some [7] }
  resendTimes := 0
  sentTime := 5
  remoteAddr := .localhost 9000

/-- A registration, up to where it waits. -/
def registered (window : UtpSendWindow) (i : Nat) : UtpSendWindow :=
  { window with packetMap := ((BlockingMap.set i (flying i)).turn window.packetMap).1 }

/-- Two packets in flight. -/
def flight : UtpSendWindow := registered (registered create 2) 3

/-- The acknowledgement of packet 2, with room for three packets and a bit. -/
def flightAck : UtpPacket :=
  { type := .ST_STATE, connId := 1, seqNr := 100, ackNr := 2, windowSize := 5000 }

theorem flight_reached : flight.Reached := .tail (.single (.register 2 _)) (.register 3 _)

/-- The acknowledgement leaves packet 3, and another packet finds room below the bound. -/
theorem window_limits_sample :
    (flight.packetMap.size = 2 ∧ (flight.handleAck 9 flightAck).packetMap.size = 1) ∧
    ((1 ≤ flight.packetMap.capacity ∧ flight.packetMap.capacity ≤ 64) ∧
      flight.packetMap.size ≤ 64) ∧
    (flight.handleAck 9 flightAck).packetMap.capacity ≤ max 1 ((5000 / 1400 : Nat) : ℚ) ∧
    ReflTransGen (BlockingMap.EntersWithin (max 1 ((5000 / 1400 : Nat) : ℚ)))
      (flight.handleAck 9 flightAck).packetMap
      (registered (flight.handleAck 9 flightAck) 4).packetMap := by
  obtain ⟨hcapacity, hsize, hack⟩ := window_limits flight_reached
  obtain ⟨hbound, hlater⟩ := hack 9 flightAck
  have hsizes : flight.packetMap.size = 2 ∧ (flight.handleAck 9 flightAck).packetMap.size = 1 := by
    decide +kernel
  exact ⟨hsizes, ⟨hcapacity, hsize⟩, hbound, hlater _ (.register .refl 4 _)⟩

end UtpSendWindow

end Utp
