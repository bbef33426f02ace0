import Mathlib.Tactic.Linarith
import Mathlib.Data.List.Induction
import Utp.Window.RttTracker

/-! # What the estimators do over time

The round-trip time is the weighted mean of all samples, also of those that the sanity check
turns down: the check comes after the assignments. The congestion window grows when the
queueing delay is beyond its target and grows further still.
-/

namespace Utp

/-! ## Round-trip times -/

/-- When a packet was acknowledged, and when it was sent. -/
structure RttSample where
  now : Nat
  sentTime : Nat
  deriving DecidableEq

/-- The elapsed time, at least one millisecond. -/
def RttSample.ertt (sample : RttSample) : ℚ := max ((sample.now : ℚ) - sample.sentTime) 1

theorem RttSample.one_le_ertt (sample : RttSample) : 1 ≤ sample.ertt := le_max_right _ _

namespace UtpRttTracker

/-- The mean in which every sample weighs an eighth against all before it. -/
def average : List RttSample → ℚ
  | [] => 0
  | first :: rest => rest.foldl (fun mean sample => mean * 7 / 8 + sample.ertt / 8) first.ertt

theorem average_append {samples : List RttSample} (hsamples : samples ≠ []) (sample : RttSample) :
    average (samples ++ [sample]) = average samples * 7 / 8 + sample.ertt / 8 := by
  cases samples with
  | nil => exact absurd rfl hsamples
  | cons first rest => rw [List.cons_append, average, List.foldl_append, average]; rfl

/-- The estimate that a sample gives, before the sanity check. -/
def mixed (self : UtpRttTracker) (sample : RttSample) : ℚ :=
  if self.rtt = 0 then sample.ertt else self.rtt * 7 / 8 + sample.ertt / 8

/-- The sanity check lets the sample pass. -/
def Accepts (self : UtpRttTracker) (sample : RttSample) : Prop := self.mixed sample < MAX_RTO

instance (self : UtpRttTracker) (sample : RttSample) : Decidable (self.Accepts sample) :=
  inferInstanceAs (Decidable (_ < _))

/-- A call of `update` when the packet of the sample is acknowledged. -/
def feed (self : UtpRttTracker) (sample : RttSample) : UtpRttTracker :=
  self.update sample.now sample.sentTime

def feeds (samples : List RttSample) : UtpRttTracker := samples.foldl feed create

/-- The samples that pass the sanity check. -/
def accepted (samples : List RttSample) (self : UtpRttTracker) : List RttSample :=
  match samples with
  | [] => []
  | sample :: rest =>
      if self.Accepts sample then sample :: accepted rest (self.feed sample)
      else accepted rest (self.feed sample)

/-- What the sample leaves behind before the sanity check. -/
def blended (self : UtpRttTracker) (sample : RttSample) : UtpRttTracker :=
  { self with
    rtt := self.mixed sample
    rttVar := if self.rtt = 0 then sample.ertt / 2
      else self.rttVar + (|self.rtt - sample.ertt| - self.rttVar) / 4 }

theorem feed_eq (self : UtpRttTracker) (sample : RttSample) :
    self.feed sample =
      if MAX_RTO ≤ (self.blended sample).rtt then self.blended sample
      else
        { self.blended sample with
          baseDelay := if (self.blended sample).baseDelay = 0 ∨
              (self.blended sample).rtt < (self.blended sample).baseDelay then
            (self.blended sample).rtt else (self.blended sample).baseDelay
          rto := max ((self.blended sample).rtt + (self.blended sample).rttVar * 4) MIN_RTO } := by
  have hsampled : self.blended sample =
      if self.rtt = 0 then { self with rtt := sample.ertt, rttVar := sample.ertt / 2 }
      else
        { self with
          rttVar := self.rttVar + (|self.rtt - sample.ertt| - self.rttVar) / 4
          rtt := self.rtt * 7 / 8 + sample.ertt / 8 } := by
    unfold blended mixed
    split_ifs <;> rfl
  rw [hsampled]
  rfl

theorem feed_rtt (self : UtpRttTracker) (sample : RttSample) :
    (self.feed sample).rtt = self.mixed sample := by
  rw [feed_eq]
  split_ifs <;> rfl

theorem feed_rto {self : UtpRttTracker} {sample : RttSample} (haccepts : self.Accepts sample) :
    (self.feed sample).rto =
      max ((self.feed sample).rtt + 4 * (self.feed sample).rttVar) MIN_RTO := by
  have hpass : ¬ MAX_RTO ≤ (self.blended sample).rtt := not_le.mpr haccepts
  rw [feed_eq, if_neg hpass, mul_comm]

theorem feeds_append (samples : List RttSample) (sample : RttSample) :
    feeds (samples ++ [sample]) = (feeds samples).feed sample := by
  rw [feeds, List.foldl_append]
  rfl

/-- Accepted or not, every sample counts. -/
theorem feeds_rtt (samples : List RttSample) :
    (feeds samples).rtt = average samples ∧ (samples ≠ [] → 1 ≤ average samples) := by
  induction samples using List.reverseRecOn with
  | nil => exact ⟨rfl, fun hne => absurd rfl hne⟩
  | append_singleton samples sample ih =>
      obtain ⟨hrtt, hpos⟩ := ih
      have hsample := sample.one_le_ertt
      rw [feeds_append, feed_rtt, mixed, hrtt]
      by_cases hempty : samples = []
      · subst hempty
        exact ⟨if_pos rfl, fun _ => hsample⟩
      · have hmean := hpos hempty
        have hne : average samples ≠ 0 := by linarith
        rw [if_neg hne, average_append hempty]
        refine ⟨rfl, fun _ => ?_⟩
        linarith

/-- The estimate before any sample is 0, and no mean of samples is. -/
theorem mixed_feeds (samples : List RttSample) (sample : RttSample) :
    (feeds samples).mixed sample = average (samples ++ [sample]) := by
  rw [← feed_rtt, ← feeds_append, (feeds_rtt _).1]

/-! ## Sane estimates -/

/-- After the samples and one more: either the last one was accepted and the estimate is within
bounds, or it was turned down and the estimate is what it was. -/
structure SaneAfter (samples : List RttSample) (sample : RttSample) : Prop where
  accepted : (feeds samples).Accepts sample →
    (1 ≤ (feeds (samples ++ [sample])).rtt ∧ (feeds (samples ++ [sample])).rtt < 6000) ∧
    ((∃ low ∈ accepted (samples ++ [sample]) create,
        low.ertt ≤ (feeds (samples ++ [sample])).rtt) ∧
      ∃ high ∈ accepted (samples ++ [sample]) create,
        (feeds (samples ++ [sample])).rtt ≤ high.ertt) ∧
    (feeds (samples ++ [sample])).rto =
      max ((feeds (samples ++ [sample])).rtt + 4 * (feeds (samples ++ [sample])).rttVar) 1000
  rejected : ¬ (feeds samples).Accepts sample →
    (feeds (samples ++ [sample])).rtt = (feeds samples).rtt ∧
    (feeds (samples ++ [sample])).rttVar = (feeds samples).rttVar ∧
    (feeds (samples ++ [sample])).rto = (feeds samples).rto

def Sane (samples : List RttSample) : Prop :=
  ∀ before sample, before ++ [sample] <+: samples → SaneAfter before sample

/-- No sample takes the mean to the limit. -/
def Temperate (samples : List RttSample) : Prop :=
  ∀ before, before <+: samples → average before < 6000

theorem accepted_of_all {samples : List RttSample} {self : UtpRttTracker}
    (hall : ∀ before sample, before ++ [sample] <+: samples →
      (before.foldl feed self).Accepts sample) : accepted samples self = samples := by
  induction samples generalizing self with
  | nil => rfl
  | cons sample rest ih =>
      have hfirst : self.Accepts sample := hall [] sample (by simp)
      rw [accepted, if_pos hfirst, ih]
      intro before later hlater
      apply hall (sample :: before) later
      exact List.cons_prefix_cons.mpr ⟨rfl, hlater⟩

theorem Temperate.of_prefix {samples earlier : List RttSample} (htemperate : Temperate samples)
    (hearlier : earlier <+: samples) : Temperate earlier :=
  fun before hbefore => htemperate before (hbefore.trans hearlier)

theorem Temperate.accepts {samples : List RttSample} (htemperate : Temperate samples)
    {before : List RttSample} {sample : RttSample} (hbefore : before ++ [sample] <+: samples) :
    (feeds before).Accepts sample := by
  unfold Accepts
  rw [mixed_feeds]
  exact htemperate _ hbefore

/-- A mean lies between the least and the greatest of what it is taken of. -/
theorem average_within {samples : List RttSample} (hsamples : samples ≠ []) :
    (∃ low ∈ samples, low.ertt ≤ average samples) ∧
      ∃ high ∈ samples, average samples ≤ high.ertt := by
  induction samples using List.reverseRecOn with
  | nil => exact absurd rfl hsamples
  | append_singleton samples sample ih =>
      by_cases hempty : samples = []
      · subst hempty
        exact ⟨⟨sample, by simp, le_refl _⟩, sample, by simp, le_refl _⟩
      · obtain ⟨⟨low, hlow, hle⟩, high, hhigh, hge⟩ := ih hempty
        rw [average_append hempty]
        have hlast : sample ∈ samples ++ [sample] := by simp
        rcases le_total sample.ertt (average samples) with hbelow | habove
        · refine ⟨⟨sample, hlast, ?_⟩, high, List.mem_append_left _ hhigh, ?_⟩
          all_goals linarith
        · refine ⟨⟨low, List.mem_append_left _ hlow, ?_⟩, sample, hlast, ?_⟩
          all_goals linarith

theorem Temperate.saneAfter {samples : List RttSample} {sample : RttSample}
    (htemperate : Temperate (samples ++ [sample])) : SaneAfter samples sample := by
  have haccepts : (feeds samples).Accepts sample := htemperate.accepts List.prefix_rfl
  have hne : samples ++ [sample] ≠ [] := by simp
  obtain ⟨hrtt, hpos⟩ := feeds_rtt (samples ++ [sample])
  refine ⟨fun _ => ⟨⟨?_, ?_⟩, ?_, ?_⟩, fun hrejects => absurd haccepts hrejects⟩
  · rw [hrtt]
    exact hpos hne
  · rw [hrtt]
    exact htemperate _ List.prefix_rfl
  · have hall : accepted (samples ++ [sample]) create = samples ++ [sample] :=
      accepted_of_all fun _ _ => htemperate.accepts
    rw [hall, hrtt]
    exact average_within hne
  · rw [feeds_append]
    exact feed_rto haccepts

/-- The first sample that is turned down changes the estimate, which was below the limit. -/
theorem not_saneAfter_of_rejected {samples : List RttSample} {sample : RttSample}
    (htemperate : Temperate samples) (hrejects : ¬ (feeds samples).Accepts sample) :
    ¬ SaneAfter samples sample := by
  intro hsane
  obtain ⟨hsame, -, -⟩ := hsane.rejected hrejects
  have hbefore := htemperate _ List.prefix_rfl
  have hafter := not_lt.mp hrejects
  rw [← feed_rtt, ← feeds_append, hsame, (feeds_rtt samples).1, MAX_RTO] at hafter
  linarith

/-- The estimates stay sane exactly for as long as the mean of the samples stays below the
limit, that is, no sample is turned down. -/
theorem sane_iff_temperate (samples : List RttSample) : Sane samples ↔ Temperate samples := by
  refine ⟨fun hsane => ?_, fun htemperate before sample hbefore => ?_⟩
  · induction samples using List.reverseRecOn with
    | nil =>
        intro before hbefore
        rw [List.prefix_nil.mp hbefore, average]
        norm_num
    | append_singleton samples sample ih =>
        have hearlier : Temperate samples := ih fun before other hbefore =>
          hsane before other (hbefore.trans (List.prefix_append _ _))
        intro before hbefore
        rcases List.prefix_concat_iff.mp hbefore with rfl | hbefore
        · by_contra hover
          rw [← mixed_feeds] at hover
          exact not_saneAfter_of_rejected hearlier hover (hsane _ _ List.prefix_rfl)
        · exact hearlier before hbefore
  · exact (htemperate.of_prefix hbefore).saneAfter

/-- One sample of six seconds is turned down, and is the estimate from then on. -/
theorem sane_fails : ¬ ∀ samples, Sane samples := by
  intro hsane
  have hreject : ¬ (feeds []).Accepts ⟨6000, 0⟩ := by decide +kernel
  have hchanged : (feeds [⟨6000, 0⟩]).rtt ≠ (feeds []).rtt := by decide +kernel
  exact hchanged ((hsane [⟨6000, 0⟩] [] ⟨6000, 0⟩ List.prefix_rfl).rejected hreject).1

end UtpRttTracker

/-! ## Congestion control -/

namespace UtpCongestionControl

variable {self : UtpCongestionControl} {initial measuredRtt : ℚ}

/-- The controllers that an initial window leads to. -/
inductive Reached (initial : ℚ) : UtpCongestionControl → Prop
  | create : Reached initial (create initial)
  | updateRtt {self : UtpCongestionControl} (hself : Reached initial self) (measuredRtt : ℚ)
      (hpos : 0 < measuredRtt) : Reached initial (self.updateRtt measuredRtt)
  | onPacketLoss {self : UtpCongestionControl} (hself : Reached initial self) :
      Reached initial self.onPacketLoss
  | reset {self : UtpCongestionControl} (hself : Reached initial self) : Reached initial self.reset

/-- What no operation changes, and the least window. -/
structure Tuned (control : UtpCongestionControl) : Prop where
  windowSize : 1 ≤ control.windowSize
  targetDelay : control.targetDelay = 100
  gain : control.gain = 1

theorem Tuned.updateRtt (hself : self.Tuned) (measuredRtt : ℚ) :
    (self.updateRtt measuredRtt).Tuned := by
  refine ⟨?_, hself.targetDelay, hself.gain⟩
  exact le_trans (le_max_right _ _) (Int.le_ceil _)

theorem Reached.tuned (hrun : Reached initial self) (hinitial : 1 ≤ initial) : self.Tuned := by
  induction hrun with
  | create => exact ⟨hinitial, rfl, rfl⟩
  | updateRtt _ measuredRtt _ ih => exact ih.updateRtt measuredRtt
  | onPacketLoss _ ih => exact ⟨le_max_right _ _, ih.targetDelay, ih.gain⟩
  | reset _ ih => exact ⟨le_refl _, ih.targetDelay, ih.gain⟩

/-- How much longer the round trip took than the fastest one. -/
def queueingDelay (self : UtpCongestionControl) (measuredRtt : ℚ) : ℚ :=
  measuredRtt - min self.baseDelay measuredRtt

/-- The window follows the queueing delay in the right direction. -/
structure Responds (control : UtpCongestionControl) (measuredRtt : ℚ) : Prop where
  grows : control.queueingDelay measuredRtt ≤ control.targetDelay →
    control.windowSize ≤ (control.updateRtt measuredRtt).windowSize
  yields : control.targetDelay < control.queueingDelay measuredRtt →
    (control.updateRtt measuredRtt).windowSize ≤ ⌈control.windowSize⌉

/-- The delay is within its target, or has not grown, or the window is so far below the next
whole number that rounding up hides what it is multiplied by. -/
def Damped (self : UtpCongestionControl) (measuredRtt : ℚ) : Prop :=
  self.queueingDelay measuredRtt ≤ self.targetDelay ∨
    self.queueingDelay measuredRtt ≤ self.lastMaxDelay ∨
    self.windowSize * self.queueingDelay measuredRtt ≤ ⌈self.windowSize⌉ * self.targetDelay

theorem windowSize_of_near (hnear : self.queueingDelay measuredRtt ≤ self.targetDelay) :
    (self.updateRtt measuredRtt).windowSize =
      ⌈max (self.windowSize +
        self.gain * ((self.targetDelay - self.queueingDelay measuredRtt) / self.targetDelay))
          1⌉ := by
  unfold queueingDelay at hnear ⊢
  simp only [updateRtt, updateWindowSize, if_pos hnear]

theorem windowSize_of_settled (hfar : self.targetDelay < self.queueingDelay measuredRtt)
    (hsettled : self.queueingDelay measuredRtt ≤ self.lastMaxDelay) :
    (self.updateRtt measuredRtt).windowSize = ⌈max self.windowSize 1⌉ := by
  unfold queueingDelay at hfar hsettled
  simp only [updateRtt, updateWindowSize, if_neg hfar.not_ge, if_neg hsettled.not_gt]

/-- With the target passed and the delay still growing, the factor is more than one. -/
theorem windowSize_of_growing (hself : self.Tuned)
    (hfar : self.targetDelay < self.queueingDelay measuredRtt)
    (hgrowing : self.lastMaxDelay < self.queueingDelay measuredRtt) :
    (self.updateRtt measuredRtt).windowSize =
      ⌈max (self.windowSize * self.queueingDelay measuredRtt / self.targetDelay) 1⌉ := by
  have hfactor : self.windowSize * (1 - self.gain *
      ((self.targetDelay - self.queueingDelay measuredRtt) / self.targetDelay)) =
        self.windowSize * self.queueingDelay measuredRtt / self.targetDelay := by
    rw [hself.gain, hself.targetDelay]
    ring
  rw [← hfactor]
  unfold queueingDelay at hfar hgrowing ⊢
  simp only [updateRtt, updateWindowSize, if_neg hfar.not_ge, if_pos hgrowing]

theorem Tuned.grows (hself : self.Tuned)
    (hnear : self.queueingDelay measuredRtt ≤ self.targetDelay) :
    self.windowSize ≤ (self.updateRtt measuredRtt).windowSize := by
  rw [windowSize_of_near hnear, hself.gain, hself.targetDelay]
  rw [hself.targetDelay] at hnear
  have hincrease : 0 ≤ 1 * ((100 - self.queueingDelay measuredRtt) / 100) := by linarith
  calc self.windowSize
      ≤ self.windowSize + 1 * ((100 - self.queueingDelay measuredRtt) / 100) := by linarith
    _ ≤ max _ 1 := le_max_left _ _
    _ ≤ _ := Int.le_ceil _

theorem Tuned.yields_iff (hself : self.Tuned)
    (hfar : self.targetDelay < self.queueingDelay measuredRtt) :
    (self.updateRtt measuredRtt).windowSize ≤ ⌈self.windowSize⌉ ↔ self.Damped measuredRtt := by
  have hceil : (1 : ℚ) ≤ ⌈self.windowSize⌉ := hself.windowSize.trans (Int.le_ceil _)
  have htarget : 0 < self.targetDelay := by rw [hself.targetDelay]; norm_num
  unfold Damped
  rcases le_or_gt (self.queueingDelay measuredRtt) self.lastMaxDelay with hsettled | hgrowing
  · rw [windowSize_of_settled hfar hsettled, max_eq_left hself.windowSize]
    exact ⟨fun _ => .inr (.inl hsettled), fun _ => le_refl _⟩
  · rw [windowSize_of_growing hself hfar hgrowing, Int.cast_le, Int.ceil_le, max_le_iff,
      div_le_iff₀ htarget]
    constructor
    · exact fun hdamped => .inr (.inr hdamped.1)
    · rintro (hnear | hsettled | hdamped)
      · exact absurd hnear hfar.not_ge
      · exact absurd hsettled hgrowing.not_ge
      · exact ⟨hdamped, hceil⟩

/-- The window stays at least 1, and it follows the queueing delay unless a delay beyond the
target grows. -/
theorem responds_iff_damped (hinitial : 1 ≤ initial) (hrun : Reached initial self)
    (hpos : 0 < measuredRtt) :
    1 ≤ self.windowSize ∧ 1 ≤ (self.updateRtt measuredRtt).windowSize ∧
      (self.Responds measuredRtt ↔ self.Damped measuredRtt) := by
  have hself := hrun.tuned hinitial
  refine ⟨hself.windowSize, ((hrun.updateRtt _ hpos).tuned hinitial).windowSize,
    fun hresponds => ?_, fun hdamped => ?_⟩
  · rcases le_or_gt (self.queueingDelay measuredRtt) self.targetDelay with hnear | hfar
    · exact .inl hnear
    · exact (hself.yields_iff hfar).mp (hresponds.yields hfar)
  · exact ⟨hself.grows, fun hfar => (hself.yields_iff hfar).mpr hdamped⟩

/-- A window of 4 and round trips of 50 and then 350 milliseconds. -/
theorem responds_iff_damped_sample :
    1 ≤ ((create 4).updateRtt 50).windowSize ∧
      1 ≤ (((create 4).updateRtt 50).updateRtt 350).windowSize ∧
      (((create 4).updateRtt 50).Responds 350 ↔ ((create 4).updateRtt 50).Damped 350) :=
  responds_iff_damped (by norm_num) (.updateRtt (@Reached.create 4) 50 (by norm_num))
    (by norm_num)

/-- There the window goes from 5 to 15. -/
theorem responds_fails : ¬ ∀ self, Reached 4 self → ∀ measuredRtt, 0 < measuredRtt →
    self.Responds measuredRtt := by
  intro hresponds
  have hrun : Reached 4 ((create 4).updateRtt 50) := .updateRtt .create 50 (by norm_num)
  have hyields := (hresponds _ hrun 350 (by norm_num)).yields (by decide +kernel)
  have hgrew : ¬ (((create 4).updateRtt 50).updateRtt 350).windowSize ≤
      ⌈((create 4).updateRtt 50).windowSize⌉ := by decide +kernel
  exact hgrew hyields

end UtpCongestionControl

end Utp
