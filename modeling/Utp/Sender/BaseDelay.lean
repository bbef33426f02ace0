import Mathlib.Order.Bounds.Basic
import Utp.Buffer.Backlog
import Utp.Conn.History
import Utp.Sender.Forgery
import Utp.Window.Estimation

/-! # What the congestion control takes for the base delay

Every acknowledgement hands the estimate of the round-trip time to the congestion control,
also the one that answers the SYN, when nothing has been measured and the estimate is 0.
As long as acknowledgements come with a measurement, or after one, the base delay is the
least of the estimates.
-/

namespace Utp

namespace UtpSendWindow

variable {self : UtpSendWindow} {ackPacket : UtpPacket} {now seqNr key : Nat}
  {info : UtpPacketWithExtraInfo}

/-! ## Measurements -/

/-- All that the tracker knows are samples. -/
def Tracks (self : UtpSendWindow) : Prop :=
  ∃ samples, self.rttTracker = UtpRttTracker.feeds samples

/-- The estimate derives from at least one sample. -/
def Measured (self : UtpSendWindow) : Prop :=
  ∃ samples, samples ≠ [] ∧ self.rttTracker = UtpRttTracker.feeds samples

/-- What derives from samples is all samples. -/
theorem Measured.tracks (hself : self.Measured) : self.Tracks := by
  obtain ⟨samples, -, hsamples⟩ := hself
  exact ⟨samples, hsamples⟩

/-- A measured rtt is at least a millisecond. -/
theorem Measured.one_le (hself : self.Measured) : 1 ≤ self.rttTracker.rtt := by
  obtain ⟨samples, hne, hsamples⟩ := hself
  obtain ⟨haverage, hone⟩ := UtpRttTracker.feeds_rtt samples
  rw [hsamples, haverage]
  exact hone hne

/-- Only before the first sample is the estimate 0. -/
theorem Tracks.measured (hself : self.Tracks) (hrtt : self.rttTracker.rtt ≠ 0) : self.Measured := by
  obtain ⟨samples, hsamples⟩ := hself
  refine ⟨samples, ?_, hsamples⟩
  rintro rfl
  exact hrtt (by rw [hsamples]; rfl)

/-- The first sample is a measurement. -/
theorem Tracks.measured_sample (hself : self.Tracks) (hfirst : info.resendTimes = 0) :
    (self.sample now info).Measured := by
  obtain ⟨samples, hsamples⟩ := hself
  refine ⟨samples ++ [⟨now, info.sentTime⟩], by simp, ?_⟩
  rw [UtpRttTracker.feeds_append, ← hsamples, sample, if_pos hfirst]
  rfl

/-- A sample adds a sample. -/
theorem Tracks.sample (hself : self.Tracks) : (self.sample now info).Tracks := by
  by_cases hfirst : info.resendTimes = 0
  · exact (hself.measured_sample hfirst).tracks
  · rw [UtpSendWindow.sample, if_neg hfirst]
    exact hself

/-- A further sample leaves the estimate measured. -/
theorem Measured.sample (hself : self.Measured) : (self.sample now info).Measured := by
  by_cases hfirst : info.resendTimes = 0
  · exact hself.tracks.measured_sample hfirst
  · rw [UtpSendWindow.sample, if_neg hfirst]
    exact hself

/-! ## What an acknowledgement measures -/

/-- No packet under this number has been sent again. -/
def Unrepeated (self : UtpSendWindow) (seqNr : Nat) : Prop :=
  (∀ entry ∈ self.packetMap.map.entries, entry.1 = seqNr → entry.2.resendTimes = 0) ∧
    ∀ waiter ∈ self.packetMap.waitingSetters, waiter.1 = seqNr → waiter.2.1.resendTimes = 0

/-- Something has been measured before, or the acknowledgement covers a packet in flight that
has not been sent again. -/
def Informs (self : UtpSendWindow) (ackPacket : UtpPacket) : Prop :=
  self.rttTracker.rtt ≠ 0 ∨
    ∃ seqNr ∈ self.getAllSeqNrs, self.Covers ackPacket seqNr ∧ self.Unrepeated seqNr

instance instDecidableUnrepeated (self : UtpSendWindow) (seqNr : Nat) :
    Decidable (self.Unrepeated seqNr) := inferInstanceAs (Decidable (_ ∧ _))

instance instDecidableInforms (self : UtpSendWindow) (ackPacket : UtpPacket) :
    Decidable (self.Informs ackPacket) := inferInstanceAs (Decidable (_ ∨ _))

/-- Something has been measured, or will be when the loop comes to this number. -/
def Awaits (self : UtpSendWindow) (seqNr : Nat) : Prop :=
  self.Measured ∨ self.Tracks ∧ seqNr ∈ self.getAllSeqNrs ∧ self.Unrepeated seqNr

/-- When a packet is acknowledged, the one awaited is still there, or has given its sample. -/
theorem Awaits.clear (hself : self.Awaits seqNr) (hinfo : self.packetMap.get key = some info) :
    ((self.sample now info).delete key).Awaits seqNr ∧
      (key = seqNr → ((self.sample now info).delete key).Measured) := by
  rcases hself with hmeasured | ⟨htracks, hmem, hpresent, hwaiting⟩
  · have hsampled : ((self.sample now info).delete key).Measured := hmeasured.sample
    exact ⟨Or.inl hsampled, fun _ => hsampled⟩
  · by_cases hkey : key = seqNr
    · have hfirst := hpresent _ (OrderedMap.get?_eq_some.mp hinfo) hkey
      have hsampled : ((self.sample now info).delete key).Measured := htracks.measured_sample hfirst
      exact ⟨Or.inl hsampled, fun _ => hsampled⟩
    · have hmap : ((self.sample now info).delete key).packetMap = self.packetMap.delete key :=
        congrArg (fun map => BlockingMap.delete map key) (sample_packetMap self now info)
      refine ⟨Or.inr ⟨htracks.sample, ?_, ?_⟩, fun hsame => absurd hsame hkey⟩
      · obtain ⟨stored, hstored⟩ := OrderedMap.exists_get? hmem
        have hkeeps := ((BlockingMap.Keeps.refl (fun info => Eq.refl info) self.packetMap).delete
          (show key = key from rfl)).entries seqNr stored hstored
        rw [getAllSeqNrs, hmap]
        rcases hkeeps with hgone | ⟨after, hafter, -⟩
        · exact absurd (Eq.symm hgone) (Ne.symm hkey)
        · exact OrderedMap.mem_keys_of_get? hafter
      · have hstores : self.packetMap.Stores fun other info => other = seqNr →
          info.resendTimes = 0 :=
          ⟨hpresent, hwaiting⟩
        have hdeleted := hstores.delete key
        rw [Unrepeated, hmap]
        exact ⟨hdeleted.present, hdeleted.waiting⟩

/-- Deleting what is not there changes nothing. -/
theorem delete_of_none (hinfo : self.packetMap.get key = none) : self.delete key = self := by
  have hkey : key ∉ self.packetMap.map.keys := OrderedMap.get?_eq_none.mp hinfo
  unfold delete BlockingMap.delete
  rw [if_neg hkey]

/-- A selective report of one packet leaves something measured or awaited. -/
theorem awaits_sackOne (hself : self.Awaits seqNr) : (sackOne now self key).Awaits seqNr := by
  unfold sackOne
  split
  next => exact hself
  next hinfo => exact (hself.clear hinfo).1

/-- A cumulative report of one packet leaves something measured or awaited. -/
theorem awaits_ackOne (hself : self.Awaits seqNr) : (ackOne now self key).Awaits seqNr := by
  unfold ackOne
  split
  next =>
    split
    next hnone =>
      rw [delete_of_none hnone]
      exact hself
    next hinfo => exact (hself.clear hinfo).1
  next => exact hself

/-- A selective report forgets no measurement. -/
theorem measured_sackOne (hself : self.Measured) : (sackOne now self key).Measured := by
  unfold sackOne
  split
  next => exact hself
  next => exact hself.sample

/-- A cumulative report forgets no measurement. -/
theorem measured_ackOne (hself : self.Measured) : (ackOne now self key).Measured := by
  unfold ackOne
  split
  next =>
    split
    next => exact hself
    next => exact hself.sample
  next => exact hself

/-- The round of the number itself measures. -/
theorem Awaits.measured (hself : self.Awaits seqNr) :
    (sackOne now self seqNr).Measured ∧
      (self.isPacketAcked seqNr = true → (ackOne now self seqNr).Measured) := by
  rcases hself with hmeasured | hawaits
  · exact ⟨measured_sackOne hmeasured, fun _ => measured_ackOne hmeasured⟩
  · obtain ⟨info, hinfo⟩ := OrderedMap.exists_get? hawaits.2.1
    have hget : self.packetMap.get seqNr = some info := hinfo
    have hclear : ((self.sample now info).delete seqNr).Measured :=
      (Awaits.clear (Or.inr hawaits) hinfo).2 rfl
    refine ⟨?_, fun hacked => ?_⟩
    · simp only [sackOne, hget]
      exact hclear
    · simp only [ackOne, if_pos hacked, hget]
      exact hclear

/-- What every round keeps holds after the loop. -/
theorem foldl_keeps (step : UtpSendWindow → Nat → UtpSendWindow) (keep : UtpSendWindow → Prop)
    (hkeep : ∀ window key, keep window → keep (step window key)) (seqNrs : List Nat)
    (hself : keep self) : keep (seqNrs.foldl step self) := by
  induction seqNrs generalizing self with
  | nil => exact hself
  | cons key rest ih => exact ih (hkeep self key hself)

/-- What one round brings about, when all rounds keep what it needs and what it brings. -/
theorem foldl_reaches (step : UtpSendWindow → Nat → UtpSendWindow)
    (keep reach : UtpSendWindow → Prop)
    (hkeep : ∀ window key, keep window → keep (step window key))
    (hhit : ∀ window, keep window → reach (step window seqNr))
    (hreach : ∀ window key, reach window → reach (step window key)) {seqNrs : List Nat}
    (hmem : seqNr ∈ seqNrs) (hself : keep self) : reach (seqNrs.foldl step self) := by
  obtain ⟨before, after, rfl⟩ := List.append_of_mem hmem
  rw [List.foldl_append, List.foldl_cons]
  exact foldl_keeps step reach hreach after (hhit _ (foldl_keeps step keep hkeep before hself))

theorem awaits_sackLoop (hself : self.Awaits seqNr) (seqNrs : List Nat) :
    (self.sackLoop now seqNrs).Awaits seqNr :=
  foldl_keeps (sackOne now) (fun window => window.Awaits seqNr) (fun _ _ => awaits_sackOne) seqNrs
    hself

theorem measured_sackLoop (hself : self.Measured) (seqNrs : List Nat) :
    (self.sackLoop now seqNrs).Measured :=
  foldl_keeps (sackOne now) Measured (fun _ _ => measured_sackOne) seqNrs hself

theorem measured_ackLoop (hself : self.Measured) (seqNrs : List Nat) :
    (self.ackLoop now seqNrs).Measured :=
  foldl_keeps (ackOne now) Measured (fun _ _ => measured_ackOne) seqNrs hself

/-- The packet awaited has given its sample when the selective report is through. -/
theorem Awaits.sacked (hself : self.Awaits seqNr) {seqNrs : List Nat} (hmem : seqNr ∈ seqNrs) :
    (self.sackLoop now seqNrs).Measured :=
  foldl_reaches (sackOne now) (fun window => window.Awaits seqNr) Measured
    (fun _ _ => awaits_sackOne) (fun _ hwindow => hwindow.measured.1)
      (fun _ _ => measured_sackOne) hmem hself

/-- The packet awaited has given its sample when the cumulative report is through. -/
theorem Awaits.acked (hself : self.Awaits seqNr) (hacked : self.isPacketAcked seqNr = true)
    {seqNrs : List Nat} (hmem : seqNr ∈ seqNrs) : (self.ackLoop now seqNrs).Measured := by
  refine foldl_reaches (ackOne now)
    (fun window => window.Awaits seqNr ∧ window.isPacketAcked seqNr = true) Measured ?_ ?_
    (fun _ _ => measured_ackOne) hmem ⟨hself, hacked⟩
  · intro window key hwindow
    have hsame := isPacketAcked_congr (ackLoop_latest now [key] window) seqNr
    exact ⟨awaits_ackOne hwindow.1, hsame.trans hwindow.2⟩
  · exact fun window hwindow => hwindow.1.measured.2 hwindow.2

/-- An acknowledgement that informs leaves a measured estimate. -/
theorem handleAck_measured (hself : self.Tracks) (hinforms : self.Informs ackPacket) :
    (self.handleAck now ackPacket).Measured := by
  have hnoted : (self.noteAck ackPacket).Tracks := hself
  rcases hinforms with hrtt | ⟨seqNr, hmem, hcovers, hunrepeated⟩
  · have hmeasured : (self.noteAck ackPacket).Measured := hnoted.measured hrtt
    exact measured_ackLoop (measured_sackLoop hmeasured _) _
  · have hawaits : (self.noteAck ackPacket).Awaits seqNr := Or.inr ⟨hnoted, hmem, hunrepeated⟩
    rcases hcovers with hsacked | hacked
    · exact measured_ackLoop (hawaits.sacked hsacked) _
    · -- What the SACK has not taken out is still there when the loop starts.
      have hlater : ((self.noteAck ackPacket).sackLoop now (sackedSeqNrs ackPacket)).Awaits seqNr :=
        awaits_sackLoop hawaits _
      rw [← isPacketAcked_sackLoop _ now (sackedSeqNrs ackPacket)] at hacked
      rcases hlater with hmeasured | hpending
      · exact measured_ackLoop hmeasured _
      · exact Awaits.acked (Or.inr hpending) hacked hpending.2.1

/-- An acknowledgement adds samples only. -/
theorem Tracks.handleAck (hself : self.Tracks) : (self.handleAck now ackPacket).Tracks := by
  have hsacked : ((self.noteAck ackPacket).sackLoop now (sackedSeqNrs ackPacket)).Tracks := by
    refine foldl_keeps (sackOne now) Tracks ?_ _ hself
    intro window key hwindow
    unfold sackOne
    split
    next => exact hwindow
    next => exact hwindow.sample
  refine foldl_keeps (ackOne now) Tracks ?_ _ hsacked
  intro window key hwindow
  unfold ackOne
  split
  next =>
    split
    next => exact hwindow
    next => exact hwindow.sample
  next => exact hwindow

/-- The base delay takes in the estimate that the acknowledgement leaves. -/
theorem handleAck_baseDelay : (self.handleAck now ackPacket).congestionControl.baseDelay =
    min self.congestionControl.baseDelay (self.handleAck now ackPacket).rttTracker.rtt := by
  have hack := ackLoop_keeps (fun window => window.congestionControl) (fun _ _ => rfl)
    (fun _ _ => rfl) now
  have hsack := sackLoop_keeps (fun window => window.congestionControl) (fun _ _ => rfl)
    (fun _ _ => rfl) now (sackedSeqNrs ackPacket) (self.noteAck ackPacket)
  have hsame := (hack ((self.noteAck ackPacket).sackLoop now (sackedSeqNrs ackPacket)).getAllSeqNrs
    _).trans hsack
  change min (UtpSendWindow.congestionControl _).baseDelay _ = _
  rw [hsame]
  rfl

end UtpSendWindow

namespace World

open Async (Trace)
open UtpCongestionControl (MAX_SAFE_INTEGER)

variable {receiving closing writing : Bool} {world next : World}

/-! ## What runs hand over -/

/-- The acknowledgement that a write has handled, if any. -/
def handledBy (write : World × World) : List UtpPacket :=
  write.2.conn.sendWindow.handledAcks.drop write.1.conn.sendWindow.handledAcks.length

/-- The acknowledgement that a write handles comes with a measurement, or after one. -/
def Informed (write : World × World) : Prop :=
  ∀ ackPacket ∈ handledBy write, write.1.conn.sendWindow.Informs ackPacket

instance instDecidableInformed (write : World × World) : Decidable (Informed write) :=
  inferInstanceAs (Decidable (∀ ackPacket ∈ handledBy write, _))

/-- What a write has `updateRtt` called with. A reset forgets what was handed over before,
as it forgets the acknowledgements. -/
def handsOver (values : List ℚ) (write : World × World) : List ℚ :=
  if write.2.conn.sendWindow.latestSeqReceivedOfOtherSide = none then []
  else values ++ (handledBy write).map fun _ => write.2.conn.sendWindow.rttTracker.rtt

def handedOver (writes : List (Option Nat × World × World)) : List ℚ :=
  (writes.map Prod.snd).foldl handsOver []

/-- What was handed over grows with each write. -/
theorem handedOver_append (writes : List (Option Nat × World × World)) (author : Option Nat)
    (write : World × World) :
    handedOver (writes ++ [(author, write)]) = handsOver (handedOver writes) write := by
  simp only [handedOver, List.map_append, List.foldl_append]
  rfl

/-- The writes that leave the estimators and the acknowledgements alone. -/
structure SameControl (world next : World) : Prop where
  rttTracker : next.conn.sendWindow.rttTracker = world.conn.sendWindow.rttTracker
  handledAcks : next.conn.sendWindow.handledAcks = world.conn.sendWindow.handledAcks
  latest : next.conn.sendWindow.latestSeqReceivedOfOtherSide =
    world.conn.sendWindow.latestSeqReceivedOfOtherSide
  baseDelay : next.conn.sendWindow.congestionControl.baseDelay =
    world.conn.sendWindow.congestionControl.baseDelay

/-- A write that leaves the acknowledgements alone has handled none. -/
theorem SameControl.handledBy (hsame : SameControl world next) : handledBy (world, next) = [] := by
  simp only [World.handledBy, hsame.handledAcks, List.drop_length]

/-- Sending a packet again measures nothing. -/
theorem sameControl_resendOne (world : World) (now seqNr : Nat) :
    SameControl world (world.setWindow (world.conn.sendWindow.resendOne now seqNr).1) := by
  unfold UtpSendWindow.resendOne
  split
  next => exact ⟨rfl, rfl, rfl, rfl⟩
  next =>
    split
    next => split <;> exact ⟨rfl, rfl, rfl, rfl⟩
    next => exact ⟨rfl, rfl, rfl, rfl⟩

/-- Only acknowledgements and resets touch the base delay. -/
theorem Act.control (hact : Act receiving closing writing world next) :
    SameControl world next ∨ (∃ ackPacket, next = world.handleAck ackPacket) ∨
      next = world.resetNow := by
  cases hact with
  | env henv =>
      left
      constructor <;> rw [henv.conn]
  | resendOne now seqNr => exact Or.inl (sameControl_resendOne world now seqNr)
  | resetNow => exact Or.inr (Or.inr rfl)
  | handleAck ackPacket => exact Or.inr (Or.inl ⟨ackPacket, rfl⟩)
  | _ => exact Or.inl ⟨rfl, rfl, rfl, rfl⟩

/-- What holds along a run of acknowledgements that inform. -/
structure Minimal (writes : List (Option Nat × World × World)) (world : World) : Prop where
  tracks : world.conn.sendWindow.Tracks
  measured : ∀ write ∈ writes, handledBy write.2 ≠ [] → write.2.2.conn.sendWindow.Measured
  least : IsLeast (insert MAX_SAFE_INTEGER {value | value ∈ handedOver writes})
    world.conn.sendWindow.congestionControl.baseDelay
  forgotten : world.conn.sendWindow.latestSeqReceivedOfOtherSide = none →
    world.conn.sendWindow.congestionControl.baseDelay = MAX_SAFE_INTEGER

variable {writes : List (Option Nat × World × World)} {author : Option Nat}

/-- Measurements along a run stay so when a write comes that is measured too. -/
theorem measured_append
    (hwrites : ∀ write ∈ writes, handledBy write.2 ≠ [] → write.2.2.conn.sendWindow.Measured)
    (hwrite : handledBy (world, next) ≠ [] → next.conn.sendWindow.Measured) :
    ∀ write ∈ writes ++ [(author, world, next)], handledBy write.2 ≠ [] →
      write.2.2.conn.sendWindow.Measured := by
  intro write hmem
  rcases List.mem_append.mp hmem with hold | hnew
  · exact hwrites write hold
  · rw [List.mem_singleton.mp hnew]
    exact hwrite

/-- Nothing was handed over, and so the base delay is where it began. -/
theorem isLeast_forgotten {base : ℚ} (hbase : base = MAX_SAFE_INTEGER) :
    IsLeast (insert MAX_SAFE_INTEGER {value | value ∈ ([] : List ℚ)}) base := by
  rw [hbase]
  constructor
  · exact Set.mem_insert _ _
  · rintro value (rfl | hvalue)
    · exact le_refl _
    · cases hvalue

/-- Writes that leave the estimators alone keep the least of what was handed over. -/
theorem Minimal.same (hworld : Minimal writes world) (hsame : SameControl world next) :
    Minimal (writes ++ [(author, world, next)]) next := by
  refine ⟨?_, measured_append hworld.measured fun h => absurd hsame.handledBy h, ?_, ?_⟩
  · obtain ⟨samples, hsamples⟩ := hworld.tracks
    exact ⟨samples, hsame.rttTracker.trans hsamples⟩
  · rw [handedOver_append, handsOver]
    simp only [hsame.handledBy, List.map_nil, List.append_nil, hsame.latest, hsame.baseDelay]
    split
    next hnone => exact isLeast_forgotten (hworld.forgotten hnone)
    next => exact hworld.least
  · rw [hsame.latest, hsame.baseDelay]
    exact hworld.forgotten

/-- A reset begins anew. -/
theorem Minimal.reset (hworld : Minimal writes world) :
    Minimal (writes ++ [(author, world, world.resetNow)]) world.resetNow := by
  have hhandled : handledBy (world, world.resetNow) = [] := List.drop_length
  refine ⟨hworld.tracks, measured_append hworld.measured fun h => absurd hhandled h, ?_,
    fun _ => rfl⟩
  have hnone : world.resetNow.conn.sendWindow.latestSeqReceivedOfOtherSide = none := rfl
  rw [handedOver_append, handsOver, if_pos hnone]
  exact isLeast_forgotten rfl

/-- After an acknowledgement one is known. -/
theorem latest_handleAck (world : World) (ackPacket : UtpPacket) :
    (world.handleAck ackPacket).conn.sendWindow.latestSeqReceivedOfOtherSide ≠ none := by
  have hlatest : (world.handleAck ackPacket).conn.sendWindow.latestSeqReceivedOfOtherSide =
      (world.conn.sendWindow.noteAck ackPacket).latestSeqReceivedOfOtherSide :=
    UtpSendWindow.handleAck_latest _ _ _
  rw [hlatest, UtpSendWindow.noteAck]
  split
  next => simp
  next => split <;> simp

/-- An acknowledgement that is handled is the one that a write has handled. -/
theorem handledBy_handleAck (world : World) (ackPacket : UtpPacket) :
    handledBy (world, world.handleAck ackPacket) = [ackPacket] := by
  have hhandled : (world.handleAck ackPacket).conn.sendWindow.handledAcks =
      world.conn.sendWindow.handledAcks ++ [ackPacket] := handledAcks_handleAck _ _ _
  simp only [handledBy, hhandled, List.drop_left]

/-- An acknowledgement that informs hands over a measurement, and the least is kept. -/
theorem Minimal.handleAck (hworld : Minimal writes world) {ackPacket : UtpPacket}
    (hinforms : world.conn.sendWindow.Informs ackPacket) :
    Minimal (writes ++ [(author, world, world.handleAck ackPacket)])
      (world.handleAck ackPacket) := by
  have hmeasured : (world.handleAck ackPacket).conn.sendWindow.Measured :=
    UtpSendWindow.handleAck_measured hworld.tracks hinforms
  refine ⟨hmeasured.tracks, measured_append hworld.measured fun _ => hmeasured, ?_,
    fun hnone => absurd hnone (latest_handleAck _ _)⟩
  have hbase : (world.handleAck ackPacket).conn.sendWindow.congestionControl.baseDelay =
      min world.conn.sendWindow.congestionControl.baseDelay
        (world.handleAck ackPacket).conn.sendWindow.rttTracker.rtt :=
    UtpSendWindow.handleAck_baseDelay
  rw [handedOver_append, handsOver, if_neg (latest_handleAck _ _), handledBy_handleAck, hbase,
    min_comm]
  have hvalues : insert MAX_SAFE_INTEGER {value | value ∈ handedOver writes ++ [ackPacket].map
      fun _ => (world.handleAck ackPacket).conn.sendWindow.rttTracker.rtt} =
      insert (world.handleAck ackPacket).conn.sendWindow.rttTracker.rtt
        (insert MAX_SAFE_INTEGER {value | value ∈ handedOver writes}) := by
    ext value
    simp only [Set.mem_insert_iff, Set.mem_ofPred_eq, List.mem_append, List.map_cons, List.map_nil,
      List.mem_singleton]
    tauto
  rw [hvalues]
  exact hworld.least.insert _

/-! ## Every run -/

section Run

variable {self : Nat} {utp : UtpSocket} {isInitiator : Bool} {remoteAddr : UtpAddr}
  {sendId recvId seqNr ackNr : Nat} {trace : Trace World Label}

/-- At the start nothing was handed over. -/
theorem create_minimal :
    Minimal [] (create self utp isInitiator remoteAddr sendId recvId seqNr ackNr) := by
  refine ⟨⟨[], rfl⟩, ?_, isLeast_forgotten rfl, fun _ => rfl⟩
  intro write hwrite
  cases hwrite

/-- In every run all of whose acknowledgements come with a measurement, or after one, the
values handed to `updateRtt` derive from samples and are at least 1, and the base delay is
the least of those since the last reset. -/
theorem baseDelay_least (hseqNr : seqNr < 65536)
    (hrun : (connSystem anyLabel anyPacket).Traced
      (connecting self utp isInitiator remoteAddr sendId recvId seqNr ackNr) trace)
    (hinformed : ∀ write ∈ trace.writes, Informed write.2) :
    (∀ write ∈ trace.writes, handledBy write.2 ≠ [] →
      1 ≤ write.2.2.conn.sendWindow.rttTracker.rtt ∧ ∃ samples, samples ≠ [] ∧
        write.2.2.conn.sendWindow.rttTracker = UtpRttTracker.feeds samples) ∧
    IsLeast (insert MAX_SAFE_INTEGER {value | value ∈ handedOver trace.writes})
      trace.config.state.conn.sendWindow.congestionControl.baseDelay := by
  have hminimal := @connecting_recorded _ _ _ _ _ _ _ _ _ (fun writes world =>
    (∀ write ∈ writes, Informed write.2) → Minimal writes world) hseqNr hrun
    (fun _ => create_minimal) ?_ ?_ hinformed
  · refine ⟨fun write hwrite hhandled => ?_, hminimal.least⟩
    have hmeasured := hminimal.measured write hwrite hhandled
    exact ⟨hmeasured.one_le, hmeasured⟩
  · intro before author world hbefore hwrites
    have hsame : SameControl world world.takeSyn := ⟨rfl, rfl, rfl, rfl⟩
    exact (hbefore fun write hwrite => hwrites write (List.mem_append_left _ hwrite)).same hsame
  · intro before author start target hbefore hact hwrites
    have hworld := hbefore fun write hwrite => hwrites write (List.mem_append_left _ hwrite)
    rcases hact.control with hsame | ⟨ackPacket, rfl⟩ | rfl
    · exact hworld.same hsame
    · apply hworld.handleAck
      apply hwrites _ (List.mem_append_right _ (List.mem_singleton.mpr rfl))
      rw [handledBy_handleAck]
      exact List.mem_singleton.mpr rfl
    · exact hworld.reset

end Run

/-! ## Concrete runs -/

/-- A responder hands its first estimate over when the packet that it wrote is acknowledged. -/
def firstMeasured : Trace World Label :=
  let waiting := (connecting 0 .sample false (.localhost 9000) 1 2 100 1).resumes [0, 0, 0, 0]
  let connected := (waiting.launch .receive (Async.discard (UtpConn.handleIncomingPacket
    { type := .ST_DATA, connId := 2, seqNr := 2, ackNr := 99, data := some [65] }))).resumes
      (List.replicate 12 0)
  let wrote := (connected.launch .write (Async.discard (UtpConn.write [66]))).resumes
    (List.replicate 6 0)
  wrote.launch .receive (Async.discard (UtpConn.handleIncomingPacket
    { type := .ST_STATE, connId := 2, seqNr := 3, ackNr := 100 }))

/-- The responder's first measurement is a run of the system. -/
theorem firstMeasured_traced : (connSystem anyLabel anyPacket).Traced
    (connecting 0 .sample false (.localhost 9000) 1 2 100 1) firstMeasured := by
  apply traced_receive
  · apply Async.TaskSystem.Traced.resumes
    apply traced_write
    · apply Async.TaskSystem.Traced.resumes
      apply traced_receive
      · exact .resumes .refl _
      · decide +kernel
    · decide +kernel
  · decide +kernel

/-- One measurement of 1 ms is the least one. -/
theorem baseDelay_least_sample : handedOver firstMeasured.writes = [1] ∧
    IsLeast (insert MAX_SAFE_INTEGER {value | value ∈ handedOver firstMeasured.writes})
      firstMeasured.config.state.conn.sendWindow.congestionControl.baseDelay := by
  have hinformed : ∀ write ∈ firstMeasured.writes, Informed write.2 := by decide +kernel
  exact ⟨by decide +kernel, (baseDelay_least (by decide) firstMeasured_traced hinformed).2⟩

/-- The answer to the SYN acknowledges nothing in flight, and makes the base delay 0. -/
theorem baseDelay_unmeasured : ¬ ∀ trace, (connSystem anyLabel anyPacket).Traced
      (connecting 0 .sample true (.localhost 9000) 2 1 1 0) trace →
    (∀ write ∈ trace.writes, handledBy write.2 ≠ [] →
      1 ≤ write.2.2.conn.sendWindow.rttTracker.rtt ∧ ∃ samples, samples ≠ [] ∧
        write.2.2.conn.sendWindow.rttTracker = UtpRttTracker.feeds samples) ∧
    IsLeast (insert MAX_SAFE_INTEGER {value | value ∈ handedOver trace.writes})
      trace.config.state.conn.sendWindow.congestionControl.baseDelay := by
  intro hclaim
  have hzero : shook.writes.any (fun write => decide (handledBy write.2 ≠ []) &&
      decide (write.2.2.conn.sendWindow.rttTracker.rtt = 0)) = true := by decide +kernel
  obtain ⟨write, hwrite, hboth⟩ := List.any_eq_true.mp hzero
  rw [Bool.and_eq_true, decide_eq_true_eq, decide_eq_true_eq] at hboth
  have hone := ((hclaim shook shook_traced).1 write hwrite hboth.1).1
  rw [hboth.2] at hone
  exact absurd hone (by decide)

end World

end Utp
