import Utp.Buffer.Backlog
import Utp.Window.Estimation
import Utp.Window.SendWindow

/-! # What an acknowledgement feeds to the tracker

The packets that the loops of `handleAck` take out and that were never sent again, in the
order in which the tracker gets their samples.
-/

namespace Utp

namespace UtpSendWindow

variable {self : UtpSendWindow} {ackPacket : UtpPacket} {now seqNr : Nat}
  {info : UtpPacketWithExtraInfo}

/-- The packet that a round of a loop takes a sample of, if any. -/
def sampledOne (self : UtpSendWindow) (seqNr : Nat) : List UtpPacketWithExtraInfo :=
  (self.packetMap.get seqNr).toList.filter fun info => info.resendTimes = 0

/-- The packets that a loop samples. `takes` tells which numbers it takes out. -/
def sampledIn (takes : UtpSendWindow → Nat → Bool) (step : UtpSendWindow → Nat → UtpSendWindow) :
    UtpSendWindow → List Nat → List UtpPacketWithExtraInfo
  | _, [] => []
  | self, seqNr :: rest =>
      (if takes self seqNr then self.sampledOne seqNr else []) ++
        sampledIn takes step (step self seqNr) rest

/-- The packets that an acknowledgement samples. -/
def sampled (self : UtpSendWindow) (now : Nat) (ackPacket : UtpPacket) :
    List UtpPacketWithExtraInfo :=
  let noted := self.noteAck ackPacket
  let sacked := noted.sackLoop now (sackedSeqNrs ackPacket)
  sampledIn (fun _ _ => true) (sackOne now) noted (sackedSeqNrs ackPacket) ++
    sampledIn isPacketAcked (ackOne now) sacked sacked.getAllSeqNrs

/-- What the tracker gets at a time for packets that are acknowledged. -/
def samplesAt (now : Nat) (infos : List UtpPacketWithExtraInfo) : List RttSample :=
  infos.map fun info => ⟨now, info.sentTime⟩

theorem samplesAt_append (first second : List UtpPacketWithExtraInfo) :
    samplesAt now (first ++ second) = samplesAt now first ++ samplesAt now second :=
  List.map_append

/-! ## The tracker -/

theorem tracker_sample (hinfo : self.packetMap.get seqNr = some info) :
    (self.sample now info).rttTracker =
      (samplesAt now (self.sampledOne seqNr)).foldl UtpRttTracker.feed self.rttTracker := by
  unfold sample
  by_cases hfirst : info.resendTimes = 0
  · simp [sampledOne, samplesAt, hinfo, hfirst]
    rfl
  · simp [sampledOne, samplesAt, hinfo, hfirst]

theorem tracker_sackOne (self : UtpSendWindow) (seqNr : Nat) : (sackOne now self seqNr).rttTracker =
    (samplesAt now (self.sampledOne seqNr)).foldl UtpRttTracker.feed self.rttTracker := by
  unfold sackOne
  split
  next hnone => simp [sampledOne, samplesAt, hnone]
  next hinfo => exact tracker_sample hinfo

theorem tracker_ackOne (self : UtpSendWindow) (seqNr : Nat) : (ackOne now self seqNr).rttTracker =
    (samplesAt now (if self.isPacketAcked seqNr then self.sampledOne seqNr else [])).foldl
      UtpRttTracker.feed self.rttTracker := by
  unfold ackOne
  by_cases hacked : self.isPacketAcked seqNr = true
  · rw [if_pos hacked, if_pos hacked]
    split
    next hnone => simp [sampledOne, samplesAt, hnone, delete]
    next hinfo => exact tracker_sample hinfo
  · rw [if_neg hacked, if_neg hacked]
    rfl

theorem tracker_sampledIn (takes : UtpSendWindow → Nat → Bool)
    (step : UtpSendWindow → Nat → UtpSendWindow)
    (hstep : ∀ window seqNr, (step window seqNr).rttTracker =
      (samplesAt now (if takes window seqNr then window.sampledOne seqNr else [])).foldl
        UtpRttTracker.feed window.rttTracker) (seqNrs : List Nat) (self : UtpSendWindow) :
    (seqNrs.foldl step self).rttTracker =
      (samplesAt now (sampledIn takes step self seqNrs)).foldl UtpRttTracker.feed
        self.rttTracker := by
  induction seqNrs generalizing self with
  | nil => rfl
  | cons seqNr rest ih =>
      rw [List.foldl_cons, ih, hstep, sampledIn, samplesAt_append, List.foldl_append]

/-- The tracker gets these samples and no others. -/
theorem tracker_handleAck (self : UtpSendWindow) (now : Nat) (ackPacket : UtpPacket) :
    (self.handleAck now ackPacket).rttTracker =
      (samplesAt now (self.sampled now ackPacket)).foldl UtpRttTracker.feed self.rttTracker := by
  have hsack := tracker_sampledIn (fun _ _ => true) (sackOne now) tracker_sackOne
    (sackedSeqNrs ackPacket) (self.noteAck ackPacket)
  have hack := tracker_sampledIn isPacketAcked (ackOne now) tracker_ackOne
    ((self.noteAck ackPacket).sackLoop now (sackedSeqNrs ackPacket)).getAllSeqNrs
    ((self.noteAck ackPacket).sackLoop now (sackedSeqNrs ackPacket))
  have hsacked : ((self.noteAck ackPacket).sackLoop now (sackedSeqNrs ackPacket)).rttTracker = _ :=
    hsack
  rw [hsacked] at hack
  unfold sampled
  rw [samplesAt_append, List.foldl_append]
  exact hack

/-- No estimate makes the time-out shorter than its least value. -/
theorem min_rto_le_feeds {tracker : UtpRttTracker} (htracker : UtpRttTracker.MIN_RTO ≤ tracker.rto)
    (samples : List RttSample) :
    UtpRttTracker.MIN_RTO ≤ (samples.foldl UtpRttTracker.feed tracker).rto := by
  induction samples generalizing tracker with
  | nil => exact htracker
  | cons sample rest ih =>
      apply ih
      rw [UtpRttTracker.feed_eq]
      split
      next => exact htracker
      next => exact le_max_right _ _

/-! ## Where the samples come from -/

theorem gains_sackOne (self : UtpSendWindow) (seqNr : Nat) :
    self.packetMap.Gains (sackOne now self seqNr).packetMap := by
  unfold sackOne
  split
  next => exact .refl _
  next info _ =>
    rw [← sample_packetMap self now info]
    exact BlockingMap.gains_delete _ _

theorem gains_ackOne (self : UtpSendWindow) (seqNr : Nat) :
    self.packetMap.Gains (ackOne now self seqNr).packetMap := by
  unfold ackOne
  split
  next =>
    split
    next => exact BlockingMap.gains_delete _ _
    next info _ =>
      rw [← sample_packetMap self now info]
      exact BlockingMap.gains_delete _ _
  next => exact .refl _

/-- The entry was in the map, or has entered it by then. -/
def Among (before after : UtpSendWindow) (seqNr : Nat) (info : UtpPacketWithExtraInfo) : Prop :=
  (seqNr, info) ∈ before.packetMap.map.entries ∨
    (seqNr, info) ∈ after.packetMap.entered.drop before.packetMap.entered.length

theorem Among.earlier {first second third : UtpSendWindow} (hfirst : first.packetMap.Gains
    second.packetMap) (hsecond : second.packetMap.Gains third.packetMap)
    (hamong : second.Among third seqNr info) : first.Among third seqNr info := by
  have hlength := hfirst.entered.length_le
  rcases hamong with hpresent | hentered
  · apply (hfirst.present _ hpresent).imp_right
    exact (BlockingMap.mem_drop_extend hsecond.entered hlength).1
  · exact Or.inr ((BlockingMap.mem_drop_extend hsecond.entered hlength).2 hentered)

theorem Among.later {first second third : UtpSendWindow} (hfirst : first.packetMap.Gains
    second.packetMap) (hsecond : second.packetMap.Gains third.packetMap)
    (hamong : first.Among second seqNr info) : first.Among third seqNr info := by
  rcases hamong with hpresent | hentered
  · exact Or.inl hpresent
  · exact Or.inr ((BlockingMap.mem_drop_extend hsecond.entered hfirst.entered.length_le).1 hentered)

theorem gains_foldl {step : UtpSendWindow → Nat → UtpSendWindow}
    (hstep : ∀ (window : UtpSendWindow) (seqNr : Nat),
      window.packetMap.Gains (step window seqNr).packetMap)
    (seqNrs : List Nat) (self : UtpSendWindow) :
    self.packetMap.Gains (seqNrs.foldl step self).packetMap := by
  induction seqNrs generalizing self with
  | nil => exact .refl _
  | cons seqNr rest ih => exact (hstep self seqNr).trans (ih _)

/-- A loop samples what it takes out, under a number that it is to take. -/
theorem among_of_sampledIn {takes : UtpSendWindow → Nat → Bool}
    {step : UtpSendWindow → Nat → UtpSendWindow} {named : Nat → Prop}
    (hgains : ∀ (window : UtpSendWindow) (seqNr : Nat),
      window.packetMap.Gains (step window seqNr).packetMap)
    {seqNrs : List Nat} (hnamed : ∀ window : UtpSendWindow, window.latestSeqReceivedOfOtherSide =
      self.latestSeqReceivedOfOtherSide → ∀ seqNr ∈ seqNrs, takes window seqNr = true → named seqNr)
    (hlatest : ∀ (window : UtpSendWindow) (seqNr : Nat),
      (step window seqNr).latestSeqReceivedOfOtherSide = window.latestSeqReceivedOfOtherSide)
    (hinfo : info ∈ sampledIn takes step self seqNrs) :
    info.resendTimes = 0 ∧ ∃ seqNr, named seqNr ∧
      self.Among (seqNrs.foldl step self) seqNr info := by
  induction seqNrs generalizing self with
  | nil => cases hinfo
  | cons seqNr rest ih =>
      rcases List.mem_append.mp hinfo with hnow | hlater
      · split at hnow
        next htakes =>
          obtain ⟨hstored, hfirst⟩ := List.mem_filter.mp hnow
          have hpresent := OrderedMap.get?_eq_some.mp (Option.mem_toList.mp hstored)
          exact ⟨of_decide_eq_true hfirst, seqNr, hnamed self rfl seqNr List.mem_cons_self htakes,
            Or.inl hpresent⟩
        next => cases hnow
      · obtain ⟨hfirst, other, hother, hamong⟩ := ih (fun window hwindow other hmem =>
          hnamed window (hwindow.trans (hlatest self seqNr)) other (List.mem_cons_of_mem _ hmem))
            hlater
        exact ⟨hfirst, other, hother, hamong.earlier (hgains self seqNr)
          (gains_foldl hgains rest _)⟩

theorem gains_handleAck (self : UtpSendWindow) (now : Nat) (ackPacket : UtpPacket) :
    self.packetMap.Gains (self.handleAck now ackPacket).packetMap :=
  handleAck_preserves self.packetMap.Gains now ackPacket
    (fun map seqNr _ hmap => hmap.trans (BlockingMap.gains_delete map seqNr))
    (fun map capacity _ hmap => hmap.trans (BlockingMap.gains_updateCapacity map capacity))
    (.refl _)

/-- What is sampled was never sent again, and the acknowledgement covers it. It was in the
window, or has just entered it. -/
theorem among_of_sampled (hinfo : info ∈ self.sampled now ackPacket) :
    info.resendTimes = 0 ∧ ∃ seqNr, self.Covers ackPacket seqNr ∧
      self.Among (self.handleAck now ackPacket) seqNr info := by
  have hsack : self.packetMap.Gains
      ((self.noteAck ackPacket).sackLoop now (sackedSeqNrs ackPacket)).packetMap :=
    gains_foldl gains_sackOne (sackedSeqNrs ackPacket) (self.noteAck ackPacket)
  have hack : ((self.noteAck ackPacket).sackLoop now (sackedSeqNrs ackPacket)).packetMap.Gains
      (((self.noteAck ackPacket).sackLoop now (sackedSeqNrs ackPacket)).ackLoop now
        ((self.noteAck ackPacket).sackLoop now (sackedSeqNrs ackPacket)).getAllSeqNrs).packetMap :=
    gains_foldl gains_ackOne _ _
  have hadjust : (((self.noteAck ackPacket).sackLoop now (sackedSeqNrs ackPacket)).ackLoop now
      ((self.noteAck ackPacket).sackLoop now (sackedSeqNrs ackPacket)).getAllSeqNrs).packetMap.Gains
        (self.handleAck now ackPacket).packetMap := BlockingMap.gains_updateCapacity _ _
  rcases List.mem_append.mp hinfo with hsacked | hacked
  · have hnamed : ∀ window : UtpSendWindow, window.latestSeqReceivedOfOtherSide =
        (self.noteAck ackPacket).latestSeqReceivedOfOtherSide → ∀ seqNr ∈ sackedSeqNrs ackPacket,
          (fun _ _ => true : UtpSendWindow → Nat → Bool) window seqNr = true →
            self.Covers ackPacket seqNr := fun _ _ _ hmem _ => Or.inl hmem
    obtain ⟨hfirst, seqNr, hcovers, hamong⟩ := among_of_sampledIn gains_sackOne hnamed
      (fun window seqNr => sackLoop_latest now [seqNr] window) hsacked
    have hnoted : self.Among
        ((self.noteAck ackPacket).sackLoop now (sackedSeqNrs ackPacket)) seqNr info := hamong
    exact ⟨hfirst, seqNr, hcovers, hnoted.later hsack (hack.trans hadjust)⟩
  · have hnamed : ∀ window : UtpSendWindow, window.latestSeqReceivedOfOtherSide =
        ((self.noteAck ackPacket).sackLoop now
          (sackedSeqNrs ackPacket)).latestSeqReceivedOfOtherSide →
        ∀ seqNr ∈ ((self.noteAck ackPacket).sackLoop now (sackedSeqNrs ackPacket)).getAllSeqNrs,
          window.isPacketAcked seqNr = true → self.Covers ackPacket seqNr := by
      intro window hwindow seqNr _ htakes
      rw [isPacketAcked_congr hwindow, isPacketAcked_sackLoop] at htakes
      exact Or.inr htakes
    obtain ⟨hfirst, seqNr, hcovers, hamong⟩ := among_of_sampledIn gains_ackOne hnamed
      (fun window seqNr => ackLoop_latest now [seqNr] window) hacked
    exact ⟨hfirst, seqNr, hcovers, (hamong.earlier hsack hack).later (hsack.trans hack) hadjust⟩

end UtpSendWindow

end Utp
