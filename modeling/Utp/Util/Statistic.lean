import Mathlib.Algebra.Order.BigOperators.Group.List
import Mathlib.Algebra.Order.Field.Rat
import Mathlib.Data.List.Induction
import Mathlib.Order.Bounds.Basic
import Mathlib.Tactic.Linarith
import Utp.Foundation.Intervals

/-! # The statistics of a connection

How much was sent and received, in all and within the current second. An interval closes the
second: a second in which something was sent counts for the greatest, the least and the average
speed. Every connection has statistics of its own, and all of them set intervals of one runtime.
-/

namespace Utp

/-- What is kept for one direction. Without a least speed it is infinite. -/
structure Speed where
  data : Nat
  dataInLastSecond : Nat
  totalSpeedAccumulator : Nat
  speedMeasurements : Nat
  maxSpeed : Nat
  minSpeed : Option Nat
  deriving DecidableEq

namespace Speed

def zero : Speed := ⟨0, 0, 0, 0, 0, none⟩

def averageSpeed (speed : Speed) : ℚ :=
  if speed.speedMeasurements > 0 then
    (speed.totalSpeedAccumulator : ℚ) / speed.speedMeasurements
  else 0

def finiteMinSpeed (speed : Speed) : Nat := speed.minSpeed.getD 0

def update (speed : Speed) (amount : Nat) : Speed :=
  { speed with
    data := speed.data + amount
    dataInLastSecond := speed.dataInLastSecond + amount }

/-- The interval's part for one direction. -/
def measure (speed : Speed) : Speed :=
  let speedThisSecond := speed.dataInLastSecond
  if speedThisSecond > 0 then
    { speed with
      maxSpeed := max speed.maxSpeed speedThisSecond
      minSpeed := some (match speed.minSpeed with
        | none => speedThisSecond
        | some least => min least speedThisSecond)
      totalSpeedAccumulator := speed.totalSpeedAccumulator + speedThisSecond
      speedMeasurements := speed.speedMeasurements + 1
      dataInLastSecond := 0 }
  else { speed with dataInLastSecond := 0 }

end Speed

structure Statistic where
  sent : Speed
  recv : Speed
  intervalId : Option Nat
  started : Bool
  deriving DecidableEq

namespace Statistic

variable {ι : Type}

def create : Statistic := ⟨.zero, .zero, none, false⟩

def totalSentData (statistic : Statistic) : Nat := statistic.sent.data

def averageSentSpeed (statistic : Statistic) : ℚ := statistic.sent.averageSpeed

def maxSentSpeed (statistic : Statistic) : Nat := statistic.sent.maxSpeed

def minSentSpeed (statistic : Statistic) : Nat := statistic.sent.finiteMinSpeed

def lastSentSpeed (statistic : Statistic) : Nat := statistic.sent.dataInLastSecond

def totalRecvData (statistic : Statistic) : Nat := statistic.recv.data

def averageRecvSpeed (statistic : Statistic) : ℚ := statistic.recv.averageSpeed

def maxRecvSpeed (statistic : Statistic) : Nat := statistic.recv.maxSpeed

def minRecvSpeed (statistic : Statistic) : Nat := statistic.recv.finiteMinSpeed

def lastRecvSpeed (statistic : Statistic) : Nat := statistic.recv.dataInLastSecond

/-- The interval that is set has `owner` for its callback. -/
def startSpeedMeasurement (owner : ι) (statistic : Statistic) (intervals : Intervals ι) :
    Statistic × Intervals ι :=
  if statistic.started then (statistic, intervals)
  else
    let cleared := match statistic.intervalId with
      | some id => intervals.clearInterval id
      | none => intervals
    let (intervals, id) := cleared.setInterval owner
    ({ statistic with started := true, intervalId := some id }, intervals)

def updateSentData (owner : ι) (amount : Nat) (statistic : Statistic) (intervals : Intervals ι) :
    Statistic × Intervals ι :=
  let (statistic, intervals) :=
    if statistic.started then (statistic, intervals)
    else startSpeedMeasurement owner statistic intervals
  ({ statistic with sent := statistic.sent.update amount }, intervals)

def updateRecvData (owner : ι) (amount : Nat) (statistic : Statistic) (intervals : Intervals ι) :
    Statistic × Intervals ι :=
  let (statistic, intervals) :=
    if statistic.started then (statistic, intervals)
    else startSpeedMeasurement owner statistic intervals
  ({ statistic with recv := statistic.recv.update amount }, intervals)

/-- The callback of the interval. -/
def measure (statistic : Statistic) : Statistic :=
  { statistic with sent := statistic.sent.measure, recv := statistic.recv.measure }

def release (statistic : Statistic) (intervals : Intervals ι) : Statistic × Intervals ι :=
  match statistic.intervalId with
  | some id =>
      ({ statistic with intervalId := none, started := false }, intervals.clearInterval id)
  | none => (statistic, intervals)

def clear (statistic : Statistic) (intervals : Intervals ι) : Statistic × Intervals ι :=
  let (statistic, intervals) := statistic.release intervals
  ({ statistic with sent := .zero, recv := .zero }, intervals)

end Statistic

/-! ## Runs -/

inductive StatisticCall where
  | updateSentData (amount : Nat)
  | updateRecvData (amount : Nat)
  | startSpeedMeasurement
  | clear
  | release
  deriving DecidableEq

/-- What happens to one of the statistics. -/
inductive StatisticEvent where
  | call (call : StatisticCall)
  | second
  deriving DecidableEq

/-- A call of one of the statistics, or the runtime lets an interval fire. -/
inductive StatisticAction (ι : Type) where
  | call (owner : ι) (call : StatisticCall)
  | fire (id : Nat)

/-- The statistics of a process. `events` records what has happened, and to which of them. -/
structure Statistics (ι : Type) where
  statistic : ι → Statistic
  intervals : Intervals ι
  events : List (ι × StatisticEvent)

def StatisticCall.apply {ι : Type} (owner : ι) (call : StatisticCall) (statistic : Statistic)
    (intervals : Intervals ι) : Statistic × Intervals ι :=
  match call with
  | .updateSentData amount => statistic.updateSentData owner amount intervals
  | .updateRecvData amount => statistic.updateRecvData owner amount intervals
  | .startSpeedMeasurement => statistic.startSpeedMeasurement owner intervals
  | .clear => statistic.clear intervals
  | .release => statistic.release intervals

namespace Statistics

variable {ι : Type} [DecidableEq ι]

omit [DecidableEq ι] in
def start : Statistics ι := ⟨fun _ => .create, .idle, []⟩

def act (statistics : Statistics ι) : StatisticAction ι → Statistics ι
  | .call owner call =>
      let (next, intervals) := call.apply owner (statistics.statistic owner) statistics.intervals
      ⟨Function.update statistics.statistic owner next, intervals,
        statistics.events ++ [(owner, .call call)]⟩
  | .fire id =>
      match statistics.intervals.live.get? id with
      | some owner =>
          ⟨Function.update statistics.statistic owner (statistics.statistic owner).measure,
            statistics.intervals, statistics.events ++ [(owner, .second)]⟩
      | none => statistics

def run (actions : List (StatisticAction ι)) : Statistics ι := actions.foldl act start

def eventsOf (statistics : Statistics ι) (owner : ι) : List StatisticEvent :=
  (statistics.events.filter fun event => event.1 = owner).map Prod.snd

end Statistics

/-! ## What has happened -/

/-- The seconds that are closed, and the current one. -/
structure Ledger where
  seconds : List Nat
  current : Nat

namespace Ledger

def empty : Ledger := ⟨[], 0⟩

def step (amount : StatisticCall → Nat) (ledger : Ledger) : StatisticEvent → Ledger
  | .call .clear => empty
  | .call call => ⟨ledger.seconds, ledger.current + amount call⟩
  | .second => ⟨ledger.seconds ++ [ledger.current], 0⟩

def of (amount : StatisticCall → Nat) (events : List StatisticEvent) : Ledger :=
  events.foldl (step amount) empty

/-- The seconds in which there was something. -/
def busy (ledger : Ledger) : List Nat := ledger.seconds.filter (0 < ·)

/-- One more event is a step of the ledger. -/
theorem of_append (amount : StatisticCall → Nat) (events : List StatisticEvent)
    (event : StatisticEvent) :
    of amount (events ++ [event]) = (of amount events).step amount event :=
  List.foldl_concat ..

end Ledger

namespace StatisticCall

def sentAmount : StatisticCall → Nat
  | .updateSentData amount => amount
  | _ => 0

def recvAmount : StatisticCall → Nat
  | .updateRecvData amount => amount
  | _ => 0

end StatisticCall

/-- Whether the interval runs after one more event. A release stops it, and anything that is sent
or received afterwards starts it again. -/
def StatisticEvent.runs (running : Bool) : StatisticEvent → Bool
  | .call .clear => false
  | .call .release => false
  | .call _ => true
  | .second => running

namespace Speed

variable {speed : Speed} {ledger : Ledger}

/-- The fields tell of the seconds so far. -/
structure Shows (speed : Speed) (ledger : Ledger) : Prop where
  data : speed.data = ledger.seconds.sum + ledger.current
  current : speed.dataInLastSecond = ledger.current
  accumulated : speed.totalSpeedAccumulator = ledger.busy.sum
  measured : speed.speedMeasurements = ledger.busy.length
  greatest : IsGreatest (insert 0 {second | second ∈ ledger.seconds}) speed.maxSpeed
  noLeast : speed.minSpeed = none → ledger.busy = []
  least : ∀ least, speed.minSpeed = some least → IsLeast {second | second ∈ ledger.busy} least

/-- Fresh fields tell of an empty ledger. -/
theorem shows_zero : zero.Shows .empty where
  data := rfl
  current := rfl
  accumulated := rfl
  measured := rfl
  greatest := by
    constructor
    · exact Set.mem_insert 0 _
    · rintro second (rfl | hsecond)
      · exact Nat.le_refl _
      · cases hsecond
  noLeast _ := rfl
  least least hleast := by cases hleast

/-- Bytes that go through are added to the current second. -/
theorem Shows.update (hshows : speed.Shows ledger) (amount : Nat) :
    (speed.update amount).Shows ⟨ledger.seconds, ledger.current + amount⟩ where
  data := by
    show speed.data + amount = _
    rw [hshows.data, Nat.add_assoc]
  current := congrArg (· + amount) hshows.current
  accumulated := hshows.accumulated
  measured := hshows.measured
  greatest := hshows.greatest
  noLeast := hshows.noLeast
  least := hshows.least

/-- A second in which there was nothing changes nothing but the sum of all. -/
theorem Shows.measure_quiet (hshows : speed.Shows ledger) (hquiet : ledger.current = 0) :
    { speed with dataInLastSecond := 0 }.Shows ⟨ledger.seconds ++ [ledger.current], 0⟩ := by
  have hbusy : Ledger.busy ⟨ledger.seconds ++ [ledger.current], 0⟩ = ledger.busy := by
    simp [Ledger.busy, hquiet]
  constructor
  · show speed.data = _
    rw [hshows.data, List.sum_append, List.sum_singleton, Nat.add_zero]
  · rfl
  · rw [hbusy]
    exact hshows.accumulated
  · rw [hbusy]
    exact hshows.measured
  · have hsame : insert 0 {second | second ∈ ledger.seconds ++ [ledger.current]} =
        insert 0 {second | second ∈ ledger.seconds} := by
      ext second
      simp [hquiet, or_comm]
    show IsGreatest (insert 0 {second | second ∈ ledger.seconds ++ [ledger.current]}) _
    rw [hsame]
    exact hshows.greatest
  · rw [hbusy]
    exact hshows.noLeast
  · rw [hbusy]
    exact hshows.least

/-- The least speed after a second in which there was something. -/
theorem Shows.isLeast (hshows : speed.Shows ledger) {speedThisSecond : Nat} :
    IsLeast {second | second ∈ ledger.busy ++ [speedThisSecond]} (match speed.minSpeed with
      | none => speedThisSecond
      | some least => min least speedThisSecond) := by
  have hset : {second | second ∈ ledger.busy ++ [speedThisSecond]} =
      insert speedThisSecond {second | second ∈ ledger.busy} := by
    ext second
    simp [or_comm]
  rw [hset]
  cases hmin : speed.minSpeed with
  | none =>
      have hempty : {second | second ∈ ledger.busy} = ∅ := by
        rw [hshows.noLeast hmin]
        ext second
        simp
      rw [hempty, insert_empty_eq]
      exact isLeast_singleton
  | some least =>
      have hleast := (hshows.least least hmin).insert speedThisSecond
      rw [min_comm] at hleast
      exact hleast

/-- The interval closes the second: the greatest, least and last speed tell of it as well. -/
theorem Shows.measure (hshows : speed.Shows ledger) :
    speed.measure.Shows ⟨ledger.seconds ++ [ledger.current], 0⟩ := by
  unfold Speed.measure
  rw [hshows.current]
  by_cases hcurrent : ledger.current > 0
  · have hbusy : Ledger.busy ⟨ledger.seconds ++ [ledger.current], 0⟩ =
        ledger.busy ++ [ledger.current] := by
      simp [Ledger.busy, hcurrent]
    dsimp only
    rw [if_pos hcurrent]
    constructor
    · show speed.data = _
      rw [hshows.data, List.sum_append, List.sum_singleton, Nat.add_zero]
    · rfl
    · rw [hbusy, List.sum_append, List.sum_singleton, hshows.accumulated]
    · rw [hbusy, List.length_append, List.length_singleton, hshows.measured]
    · have hset : insert 0 {second | second ∈ ledger.seconds ++ [ledger.current]} =
          insert ledger.current (insert 0 {second | second ∈ ledger.seconds}) := by
        ext second
        show second = 0 ∨ second ∈ ledger.seconds ++ [ledger.current] ↔
          second = ledger.current ∨ second = 0 ∨ second ∈ ledger.seconds
        rw [List.mem_append, List.mem_singleton]
        tauto
      show IsGreatest (insert 0 {second | second ∈ ledger.seconds ++ [ledger.current]}) _
      rw [hset, max_comm]
      exact hshows.greatest.insert ledger.current
    · rintro ⟨⟩
    · rintro least ⟨⟩
      rw [hbusy]
      exact hshows.isLeast
  · dsimp only
    rw [if_neg hcurrent]
    exact hshows.measure_quiet (Nat.eq_zero_of_not_pos hcurrent)

end Speed

/-! ## What a call does -/

section Calls

variable {ι : Type} [DecidableEq ι] {owner : ι} {statistic : Statistic} {intervals : Intervals ι}
  {held : ι → Option Nat} {wanted : ι → Option ι}

/-- The interval runs if and only if the statistic has started. -/
def Statistic.Ticks (owner : ι) (statistic : Statistic) (held : ι → Option Nat)
    (wanted : ι → Option ι) (intervals : Intervals ι) : Prop :=
  Intervals.Holds (Function.update held owner statistic.intervalId)
    (Function.update wanted owner (if statistic.started then some owner else none)) intervals

namespace Statistic

/-- An interval runs if and only if the statistic has started. -/
theorem Ticks.isSome (hticks : statistic.Ticks owner held wanted intervals) :
    statistic.intervalId.isSome = statistic.started := by
  have hsome := Intervals.Holds.isSome hticks owner
  rw [Function.update_self, Function.update_self] at hsome
  rw [hsome]
  cases statistic.started <;> rfl

theorem Ticks.again {next : Statistic} (hticks : statistic.Ticks owner held wanted intervals)
    (hid : next.intervalId = statistic.intervalId) (hstarted : next.started = statistic.started) :
    next.Ticks owner held wanted intervals := by
  unfold Ticks
  rw [hid, hstarted]
  exact hticks

/-- Starting sets the interval unless one runs already. -/
theorem startSpeedMeasurement_ticks (hticks : statistic.Ticks owner held wanted intervals) :
    (startSpeedMeasurement owner statistic intervals).1.Ticks owner held wanted
        (startSpeedMeasurement owner statistic intervals).2 ∧
      ∃ id, (startSpeedMeasurement owner statistic intervals).1 =
        { statistic with intervalId := id, started := true } := by
  unfold startSpeedMeasurement
  have hsome := hticks.isSome
  cases hstarted : statistic.started with
  | true =>
      refine ⟨hticks, statistic.intervalId, ?_⟩
      rw [if_pos rfl, ← hstarted]
  | false =>
      rw [hstarted] at hsome
      have hnone := Option.not_isSome_iff_eq_none.mp (by rw [hsome]; exact Bool.false_ne_true)
      rw [hnone, if_neg Bool.false_ne_true]
      refine ⟨?_, some intervals.next, rfl⟩
      unfold Ticks at hticks
      rw [hnone] at hticks
      have hset := hticks.setInterval (Function.update_self owner none held) owner
      rw [Function.update_idem, Function.update_idem] at hset
      exact hset

/-- A release clears the interval that runs, and no other. -/
theorem release_ticks (hticks : statistic.Ticks owner held wanted intervals) :
    (release statistic intervals).1.Ticks owner held wanted (release statistic intervals).2 ∧
      (release statistic intervals).1 =
        { statistic with intervalId := none, started := false } := by
  have hsome := hticks.isSome
  obtain ⟨sent, recv, intervalId, started⟩ := statistic
  cases intervalId with
  | none =>
      refine ⟨hticks, ?_⟩
      rw [Option.isSome_none] at hsome
      subst hsome
      rfl
  | some id =>
      refine ⟨?_, rfl⟩
      have hcleared := Intervals.Holds.clearInterval hticks
        (Function.update_self owner (some id) held)
      rw [Function.update_idem, Function.update_idem] at hcleared
      exact hcleared

omit [DecidableEq ι] in
/-- An update starts the interval first. -/
theorem ite_startSpeedMeasurement (owner : ι) (statistic : Statistic) (intervals : Intervals ι) :
    (if statistic.started then (statistic, intervals)
      else startSpeedMeasurement owner statistic intervals) =
        startSpeedMeasurement owner statistic intervals := by
  by_cases hstarted : statistic.started
  · rw [if_pos hstarted, startSpeedMeasurement, if_pos hstarted]
  · rw [if_neg hstarted]

omit [DecidableEq ι] in
/-- `updateSentData` starts the measurement and adds the bytes. -/
theorem updateSentData_eq (amount : Nat) : updateSentData owner amount statistic intervals =
    ({ (startSpeedMeasurement owner statistic intervals).1 with
        sent := (startSpeedMeasurement owner statistic intervals).1.sent.update amount },
      (startSpeedMeasurement owner statistic intervals).2) := by
  unfold updateSentData
  rw [ite_startSpeedMeasurement]

omit [DecidableEq ι] in
/-- `updateRecvData` starts the measurement and adds the bytes. -/
theorem updateRecvData_eq (amount : Nat) : updateRecvData owner amount statistic intervals =
    ({ (startSpeedMeasurement owner statistic intervals).1 with
        recv := (startSpeedMeasurement owner statistic intervals).1.recv.update amount },
      (startSpeedMeasurement owner statistic intervals).2) := by
  unfold updateRecvData
  rw [ite_startSpeedMeasurement]

end Statistic

/-- What a statistic shows of its events. -/
structure Statistic.Shows (statistic : Statistic) (events : List StatisticEvent) : Prop where
  sent : statistic.sent.Shows (.of StatisticCall.sentAmount events)
  recv : statistic.recv.Shows (.of StatisticCall.recvAmount events)
  started : statistic.started = events.foldl StatisticEvent.runs false

namespace Statistic.Shows

variable {events : List StatisticEvent}

/-- A second of the interval is told in both directions. -/
theorem second (hshows : statistic.Shows events) :
    statistic.measure.Shows (events ++ [.second]) where
  sent := by
    rw [Ledger.of_append]
    exact hshows.sent.measure
  recv := by
    rw [Ledger.of_append]
    exact hshows.recv.measure
  started := by
    rw [List.foldl_concat]
    exact hshows.started

/-- The start of the measurement is told. -/
theorem startSpeedMeasurement (hshows : statistic.Shows events) (id : Option Nat) :
    { statistic with intervalId := id, started := true }.Shows
      (events ++ [StatisticEvent.call .startSpeedMeasurement]) where
  sent := by
    rw [Ledger.of_append]
    exact hshows.sent
  recv := by
    rw [Ledger.of_append]
    exact hshows.recv
  started :=
    (List.foldl_concat StatisticEvent.runs false (.call .startSpeedMeasurement) events).symm

/-- Bytes that are sent are told. -/
theorem updateSentData (hshows : statistic.Shows events) (id : Option Nat) (amount : Nat) :
    { statistic with sent := statistic.sent.update amount, intervalId := id, started := true }.Shows
      (events ++ [StatisticEvent.call (.updateSentData amount)]) where
  sent := by
    rw [Ledger.of_append]
    exact hshows.sent.update amount
  recv := by
    rw [Ledger.of_append]
    exact hshows.recv
  started :=
    (List.foldl_concat StatisticEvent.runs false (.call (.updateSentData amount)) events).symm

/-- Bytes that are received are told. -/
theorem updateRecvData (hshows : statistic.Shows events) (id : Option Nat) (amount : Nat) :
    { statistic with recv := statistic.recv.update amount, intervalId := id, started := true }.Shows
      (events ++ [StatisticEvent.call (.updateRecvData amount)]) where
  sent := by
    rw [Ledger.of_append]
    exact hshows.sent
  recv := by
    rw [Ledger.of_append]
    exact hshows.recv.update amount
  started :=
    (List.foldl_concat StatisticEvent.runs false (.call (.updateRecvData amount)) events).symm

/-- A release is told. -/
theorem release (hshows : statistic.Shows events) :
    { statistic with intervalId := none, started := false }.Shows
      (events ++ [StatisticEvent.call .release]) where
  sent := by
    rw [Ledger.of_append]
    exact hshows.sent
  recv := by
    rw [Ledger.of_append]
    exact hshows.recv
  started := (List.foldl_concat StatisticEvent.runs false (.call .release) events).symm

end Statistic.Shows

/-- After `clear` the fields tell of nothing that was before. -/
theorem Statistic.shows_clear (events : List StatisticEvent) :
    Statistic.create.Shows (events ++ [StatisticEvent.call .clear]) where
  sent := by
    rw [Ledger.of_append]
    exact Speed.shows_zero
  recv := by
    rw [Ledger.of_append]
    exact Speed.shows_zero
  started := (List.foldl_concat StatisticEvent.runs false (.call .clear) events).symm

/-- A call keeps the statistic in step with its events, and its interval with both. -/
theorem StatisticCall.apply_shows {events : List StatisticEvent} (call : StatisticCall)
    (hshows : statistic.Shows events) (hticks : statistic.Ticks owner held wanted intervals) :
    (call.apply owner statistic intervals).1.Shows (events ++ [StatisticEvent.call call]) ∧
      (call.apply owner statistic intervals).1.Ticks owner held wanted
        (call.apply owner statistic intervals).2 := by
  obtain ⟨hstart, id, hstarted⟩ := Statistic.startSpeedMeasurement_ticks hticks
  obtain ⟨hrelease, hreleased⟩ := Statistic.release_ticks hticks
  cases call with
  | updateSentData amount =>
      rw [apply, Statistic.updateSentData_eq]
      refine ⟨?_, hstart.again rfl rfl⟩
      rw [hstarted]
      exact hshows.updateSentData id amount
  | updateRecvData amount =>
      rw [apply, Statistic.updateRecvData_eq]
      refine ⟨?_, hstart.again rfl rfl⟩
      rw [hstarted]
      exact hshows.updateRecvData id amount
  | startSpeedMeasurement =>
      refine ⟨?_, hstart⟩
      rw [apply, hstarted]
      exact hshows.startSpeedMeasurement id
  | clear =>
      refine ⟨?_, hrelease.again rfl rfl⟩
      show Statistic.Shows { (statistic.release intervals).1 with sent := .zero, recv := .zero } _
      rw [hreleased]
      exact Statistic.shows_clear events
  | release =>
      refine ⟨?_, hrelease⟩
      rw [apply, hreleased]
      exact hshows.release

end Calls

namespace Statistics

variable {ι : Type} [DecidableEq ι] {statistics : Statistics ι}

/-- Every statistic shows its own events, and exactly the intervals of those that have started
run. -/
structure Kept (statistics : Statistics ι) : Prop where
  shows : ∀ owner, (statistics.statistic owner).Shows (statistics.eventsOf owner)
  holds : Intervals.Holds (fun owner => (statistics.statistic owner).intervalId)
    (fun owner => if (statistics.statistic owner).started then some owner else none)
    statistics.intervals

/-- Nothing has happened yet, and nothing is told. -/
theorem kept_start : (start : Statistics ι).Kept where
  shows _ := ⟨Speed.shows_zero, Speed.shows_zero, rfl⟩
  holds := Intervals.holds_idle

theorem eventsOf_append (events : List (ι × StatisticEvent)) (owner other : ι)
    (event : StatisticEvent) (next : ι → Statistic) (intervals : Intervals ι) :
    eventsOf ⟨next, intervals, events ++ [(owner, event)]⟩ other =
      if owner = other then eventsOf ⟨next, intervals, events⟩ other ++ [event]
      else eventsOf ⟨next, intervals, events⟩ other := by
  unfold eventsOf
  rw [List.filter_append, List.map_append]
  by_cases howner : owner = other
  · rw [if_pos howner]
    simp [howner]
  · rw [if_neg howner]
    simp [howner]

/-- One of the statistics has an event. -/
theorem Kept.event (hkept : statistics.Kept) {owner : ι} {next : Statistic}
    {intervals : Intervals ι} {event : StatisticEvent}
    (hshows : next.Shows (statistics.eventsOf owner ++ [event]))
    (hticks : next.Ticks owner (fun owner => (statistics.statistic owner).intervalId)
      (fun owner => if (statistics.statistic owner).started then some owner else none) intervals) :
    Kept ⟨Function.update statistics.statistic owner next, intervals,
      statistics.events ++ [(owner, event)]⟩ where
  shows other := by
    rw [eventsOf_append]
    by_cases hother : owner = other
    · subst hother
      rw [if_pos rfl]
      show (Function.update statistics.statistic owner next owner).Shows _
      rw [Function.update_self]
      exact hshows
    · rw [if_neg hother]
      show (Function.update statistics.statistic owner next other).Shows _
      rw [Function.update_of_ne (Ne.symm hother)]
      exact hkept.shows other
  holds := by
    have hheld := Function.apply_update (fun _ (statistic : Statistic) => statistic.intervalId)
      statistics.statistic owner next
    have hwanted := Function.apply_update
      (fun other (statistic : Statistic) => if statistic.started then some other else none)
      statistics.statistic owner next
    unfold Statistic.Ticks at hticks
    rw [← funext hheld, ← funext hwanted] at hticks
    exact hticks

/-- What runs for a statistic before an event of its own. -/
theorem Kept.ticks (hkept : statistics.Kept) (owner : ι) :
    (statistics.statistic owner).Ticks owner (fun owner => (statistics.statistic owner).intervalId)
      (fun owner => if (statistics.statistic owner).started then some owner else none)
      statistics.intervals := by
  unfold Statistic.Ticks
  rw [Function.update_eq_self_iff.mpr rfl, Function.update_eq_self_iff.mpr rfl]
  exact hkept.holds

/-- Whatever happens to one statistic, the others keep showing their own events. -/
theorem Kept.act (hkept : statistics.Kept) (action : StatisticAction ι) :
    (statistics.act action).Kept := by
  cases action with
  | call owner call =>
      obtain ⟨hshows, hticks⟩ := call.apply_shows (hkept.shows owner) (hkept.ticks owner)
      exact hkept.event hshows hticks
  | fire id =>
      cases hlive : statistics.intervals.live.get? id with
      | none =>
          have hact : statistics.act (.fire id) = statistics := by
            simp only [Statistics.act, hlive]
          rw [hact]
          exact hkept
      | some owner =>
          have hact : statistics.act (.fire id) =
              ⟨Function.update statistics.statistic owner (statistics.statistic owner).measure,
                statistics.intervals, statistics.events ++ [(owner, .second)]⟩ := by
            simp only [Statistics.act, hlive]
          rw [hact]
          exact hkept.event (hkept.shows owner).second ((hkept.ticks owner).again rfl rfl)

/-- The run lemma. -/
theorem kept_run (actions : List (StatisticAction ι)) : (run actions).Kept := by
  unfold run
  induction actions using List.reverseRecOn with
  | nil => exact kept_start
  | append_singleton actions action ih =>
      rw [List.foldl_concat]
      exact ih.act action

end Statistics

/-! ## What the getters tell -/

namespace Speed

variable {speed : Speed} {ledger : Ledger}

/-- What the getters of one direction tell of the seconds. Without a second in which there was
something the least and the average speed are zero. -/
structure Tells (speed : Speed) (ledger : Ledger) : Prop where
  total : speed.data = ledger.seconds.sum + ledger.current
  last : speed.dataInLastSecond = ledger.current
  greatest : IsGreatest (insert 0 {second | second ∈ ledger.seconds}) speed.maxSpeed
  idle : ledger.busy = [] → speed.finiteMinSpeed = 0 ∧ speed.averageSpeed = 0
  least : ledger.busy ≠ [] → IsLeast {second | second ∈ ledger.busy} speed.finiteMinSpeed
  average : speed.averageSpeed * ledger.busy.length = ledger.seconds.sum
  between : (speed.finiteMinSpeed : ℚ) ≤ speed.averageSpeed ∧ speed.averageSpeed ≤ speed.maxSpeed

end Speed

namespace Ledger

/-- The other seconds add nothing. -/
theorem sum_busy (ledger : Ledger) : ledger.busy.sum = ledger.seconds.sum := by
  unfold busy
  induction ledger.seconds with
  | nil => rfl
  | cons second rest ih =>
      by_cases hsecond : 0 < second
      · simp [hsecond, ih]
      · simp [Nat.eq_zero_of_not_pos hsecond, ih]

end Ledger

namespace Speed

variable {speed : Speed} {ledger : Ledger}

/-- The average is that of the seconds in which there was something. -/
theorem Shows.averageSpeed (hshows : speed.Shows ledger) :
    speed.averageSpeed = (ledger.seconds.sum : ℚ) / ledger.busy.length := by
  unfold Speed.averageSpeed
  rw [hshows.measured, hshows.accumulated, ledger.sum_busy]
  split
  next => rfl
  next hnone =>
    rw [Nat.eq_zero_of_not_pos hnone, Nat.cast_zero, div_zero]

/-- The getters tell of the seconds. -/
theorem Shows.tells (hshows : speed.Shows ledger) : speed.Tells ledger := by
  have hidle : ledger.busy = [] → speed.finiteMinSpeed = 0 := by
    intro hempty
    unfold finiteMinSpeed
    cases hmin : speed.minSpeed with
    | none => rfl
    | some least =>
        have hmem := (hshows.least least hmin).1
        rw [hempty] at hmem
        cases hmem
  have hleast : ledger.busy ≠ [] →
      IsLeast {second | second ∈ ledger.busy} speed.finiteMinSpeed := by
    intro hbusy
    unfold finiteMinSpeed
    cases hmin : speed.minSpeed with
    | none => exact absurd (hshows.noLeast hmin) hbusy
    | some least => exact hshows.least least hmin
  have hzero : ledger.busy = [] → speed.averageSpeed = 0 := by
    intro hempty
    rw [hshows.averageSpeed, hempty, List.length_nil, Nat.cast_zero, div_zero]
  by_cases hbusy : ledger.busy = []
  · have hsum := ledger.sum_busy
    rw [hbusy, List.sum_nil] at hsum
    refine ⟨hshows.data, hshows.current, hshows.greatest, fun _ => ⟨hidle hbusy, hzero hbusy⟩,
      hleast, ?_, ?_, ?_⟩
    · rw [hzero hbusy, ← hsum, zero_mul, Nat.cast_zero]
    · rw [hidle hbusy, hzero hbusy, Nat.cast_zero]
    · rw [hzero hbusy]
      exact Nat.cast_nonneg _
  · have hlength : (0 : ℚ) < ledger.busy.length :=
      Nat.cast_pos.mpr (List.length_pos_of_ne_nil hbusy)
    refine ⟨hshows.data, hshows.current, hshows.greatest, fun hempty => absurd hempty hbusy,
      hleast, ?_, ?_, ?_⟩
    · rw [hshows.averageSpeed, div_mul_cancel₀ _ hlength.ne']
    · have hsum := ledger.busy.card_nsmul_le_sum speed.finiteMinSpeed fun second hsecond =>
        (hleast hbusy).2 hsecond
      rw [hshows.averageSpeed, le_div_iff₀ hlength, mul_comm, ← ledger.sum_busy]
      exact_mod_cast hsum
    · have hsum := ledger.busy.sum_le_card_nsmul speed.maxSpeed fun second hsecond =>
        hshows.greatest.2 (.inr (List.mem_of_mem_filter hsecond))
      rw [hshows.averageSpeed, div_le_iff₀ hlength, mul_comm, ← ledger.sum_busy]
      exact_mod_cast hsum

end Speed

namespace Statistics

variable {ι : Type} [DecidableEq ι]

/-- Whatever is called on which of the statistics, and whenever intervals fire: the getters of each
tell of its own calls and seconds, and an interval runs for it, one and no more, if and only if
something was sent, received or started after its last release. -/
theorem statistics_exact (actions : List (StatisticAction ι)) (owner : ι) :
    ((run actions).statistic owner).sent.Tells
        (.of StatisticCall.sentAmount ((run actions).eventsOf owner)) ∧
      ((run actions).statistic owner).recv.Tells
        (.of StatisticCall.recvAmount ((run actions).eventsOf owner)) ∧
      (∀ id, (run actions).intervals.live.get? id = some owner ↔
        ((run actions).statistic owner).intervalId = some id) ∧
      (((run actions).statistic owner).intervalId.isSome =
        ((run actions).eventsOf owner).foldl StatisticEvent.runs false) := by
  have hkept := kept_run actions
  refine ⟨(hkept.shows owner).sent.tells, (hkept.shows owner).recv.tells, fun id => ?_, ?_⟩
  · constructor
    · intro hlive
      obtain ⟨other, hheld⟩ := hkept.holds.only id owner hlive
      have hwanted := (hkept.holds.wanted_eq hheld).symm.trans hlive
      split at hwanted
      next =>
        cases hwanted
        exact hheld
      next => cases hwanted
    · intro hheld
      obtain ⟨-, callback, hlive, hwanted⟩ := hkept.holds.runs owner id hheld
      split at hwanted
      next => rw [hlive, hwanted]
      next => cases hwanted
  · rw [(hkept.ticks owner).isSome, (hkept.shows owner).started]

/-- A write that comes back after the release starts the interval of its statistic again. -/
example : ((run [.call true (.updateSentData 5), .fire 1, .call true .release,
    .call true (.updateSentData 7)]).intervals.live.values) = [true] := by decide

end Statistics

end Utp
