import Mathlib.Data.List.Induction
import Mathlib.Data.Sum.Basic
import Utp.Foundation.Intervals

/-! # The timer manager

The timers of a process, by key. Every socket has its timeout check run under a key of its own.
Other code of the process sets and clears intervals as well, among them the ones of `close`.
-/

universe u

namespace Utp

variable {γ : Type u}

/-- `timers`, next to the intervals of the runtime, each with its callback and its period. -/
structure TimerManager (γ : Type u) where
  timers : OrderedMap String Nat
  intervals : Intervals (γ × Nat)

namespace TimerManager

def exist (manager : TimerManager γ) (key : String) : Bool := manager.timers.has key

/-- An id that is zero would count as none. -/
def clearTimer (manager : TimerManager γ) (key : String) : TimerManager γ :=
  match manager.timers.get? key with
  | some timer =>
      if timer ≠ 0 then ⟨manager.timers.erase key, manager.intervals.clearInterval timer⟩
      else manager
  | none => manager

def setTimer (manager : TimerManager γ) (key : String) (callback : γ) (interval : Nat) :
    TimerManager γ :=
  let cleared := if manager.exist key then manager.clearTimer key else manager
  let (intervals, timer) := cleared.intervals.setInterval (callback, interval)
  ⟨cleared.timers.set key timer, intervals⟩

def clearAllTimers (manager : TimerManager γ) : TimerManager γ :=
  ⟨∅, manager.intervals.clearIntervals manager.timers.values⟩

end TimerManager

/-! ## Runs -/

/-- A call of the manager, or of the runtime by other code: this clears the interval it has set
at a position. -/
inductive TimerCall (γ : Type u) where
  | setTimer (key : String) (callback : γ) (interval : Nat)
  | clearTimer (key : String)
  | clearAllTimers
  | setInterval (callback : γ) (interval : Nat)
  | clearInterval (position : Nat)

/-- The manager, and the ids that other code holds. -/
structure TimerProcess (γ : Type u) where
  manager : TimerManager γ
  others : List (Option Nat)

namespace TimerProcess

def start : TimerProcess γ := ⟨⟨∅, .idle⟩, []⟩

def intervals (process : TimerProcess γ) : Intervals (γ × Nat) := process.manager.intervals

def other (process : TimerProcess γ) (position : Nat) : Option Nat :=
  (process.others[position]?).join

def call (process : TimerProcess γ) : TimerCall γ → TimerProcess γ
  | .setTimer key callback interval =>
      ⟨process.manager.setTimer key callback interval, process.others⟩
  | .clearTimer key => ⟨process.manager.clearTimer key, process.others⟩
  | .clearAllTimers => ⟨process.manager.clearAllTimers, process.others⟩
  | .setInterval callback interval =>
      let (intervals, id) := process.intervals.setInterval (callback, interval)
      ⟨⟨process.manager.timers, intervals⟩, process.others ++ [some id]⟩
  | .clearInterval position =>
      match process.other position with
      | some id =>
          ⟨⟨process.manager.timers, process.intervals.clearInterval id⟩,
            process.others.set position none⟩
      | none => process

def run (calls : List (TimerCall γ)) : TimerProcess γ := calls.foldl call start

end TimerProcess

/-! ## What the callers want -/

/-- The timers by key, and the intervals of other code by position. -/
structure Wishes (γ : Type u) where
  timers : String → Option (γ × Nat)
  others : List (Option (γ × Nat))

namespace Wishes

def start : Wishes γ := ⟨fun _ => none, []⟩

def call (wishes : Wishes γ) : TimerCall γ → Wishes γ
  | .setTimer key callback interval =>
      ⟨Function.update wishes.timers key (some (callback, interval)), wishes.others⟩
  | .clearTimer key => ⟨Function.update wishes.timers key none, wishes.others⟩
  | .clearAllTimers => ⟨fun _ => none, wishes.others⟩
  | .setInterval callback interval =>
      ⟨wishes.timers, wishes.others ++ [some (callback, interval)]⟩
  | .clearInterval position => ⟨wishes.timers, wishes.others.set position none⟩

def run (calls : List (TimerCall γ)) : Wishes γ := calls.foldl call start

end Wishes

namespace TimerProcess

variable {process : TimerProcess γ} {wishes : Wishes γ}

/-- The ids that are held, by the manager under a key or by other code at a position. -/
def held (process : TimerProcess γ) : String ⊕ Nat → Option Nat :=
  Sum.elim process.manager.timers.get? process.other

def wanted (wishes : Wishes γ) : String ⊕ Nat → Option (γ × Nat) :=
  Sum.elim wishes.timers fun position => (wishes.others[position]?).join

/-- Exactly what the callers want runs, and `exist` tells of it. -/
structure Represents (process : TimerProcess γ) (wishes : Wishes γ) : Prop where
  holds : Intervals.Holds (held process) (wanted wishes) process.intervals
  positions : process.others.length = wishes.others.length

theorem Represents.exist (hrepresents : process.Represents wishes) (key : String) :
    process.manager.exist key = (wishes.timers key).isSome := by
  have hsome := hrepresents.holds.isSome (.inl key)
  change (process.manager.timers.get? key).isSome = (wishes.timers key).isSome at hsome
  rw [← hsome, TimerManager.exist, OrderedMap.has, ← Bool.decide_coe (Option.isSome _)]
  exact decide_eq_decide.mpr OrderedMap.isSome_get?.symm

theorem represents_start : (start : TimerProcess γ).Represents .start where
  holds := by
    have hheld : held (start : TimerProcess γ) = fun _ => none := by
      funext holder
      rcases holder with key | position <;> rfl
    have hwanted : wanted (.start : Wishes γ) = fun _ => none := by
      funext holder
      rcases holder with key | position <;> rfl
    rw [hheld, hwanted]
    exact Intervals.holds_idle
  positions := rfl

theorem held_erase (process : TimerProcess γ) (key : String) (intervals : Intervals (γ × Nat)) :
    held ⟨⟨process.manager.timers.erase key, intervals⟩, process.others⟩ =
      Function.update (held process) (.inl key) none := by
  unfold held
  rw [Sum.update_elim_inl]
  congr 1
  funext other
  rw [Function.update_apply, OrderedMap.get?_erase]

/-- The manager lets go of a key. -/
theorem Represents.clearTimer (hrepresents : process.Represents wishes) (key : String) :
    (process.call (.clearTimer key)).Represents (wishes.call (.clearTimer key)) := by
  refine ⟨?_, hrepresents.positions⟩
  have hwanted : wanted (wishes.call (.clearTimer key)) =
      Function.update (wanted wishes) (.inl key) none := (Sum.update_elim_inl ..).symm
  rw [hwanted]
  cases hget : process.manager.timers.get? key with
  | none =>
      have hsame : process.call (.clearTimer key) = process := by
        simp only [call, TimerManager.clearTimer, hget]
      have hrests := hrepresents.holds.rests (.inl key) hget
      rw [hsame, Function.update_eq_self_iff.mpr hrests.symm]
      exact hrepresents.holds
  | some timer =>
      have hheld : held process (.inl key) = some timer := hget
      have hpositive := (hrepresents.holds.runs _ _ hheld).1
      have hnext : process.call (.clearTimer key) =
          ⟨⟨process.manager.timers.erase key, process.intervals.clearInterval timer⟩,
            process.others⟩ := by
        simp only [call, TimerManager.clearTimer, hget]
        rw [if_pos (Nat.ne_of_gt hpositive), intervals]
      rw [hnext, held_erase]
      exact hrepresents.holds.clearInterval hheld

theorem clearTimer_held (process : TimerProcess γ) (hrepresents : process.Represents wishes)
    (key : String) : (process.call (.clearTimer key)).held (.inl key) = none := by
  have hsome := (hrepresents.clearTimer key).holds.isSome (.inl key)
  have hnone : wanted (wishes.call (.clearTimer key)) (.inl key) = none := by
    show Function.update wishes.timers key none key = none
    rw [Function.update_self]
  rw [hnone] at hsome
  exact Option.not_isSome_iff_eq_none.mp (by rw [hsome]; exact Bool.false_ne_true)

/-- Setting a timer comes down to clearing its key first. -/
theorem setTimer_eq (manager : TimerManager γ) (key : String) (callback : γ) (interval : Nat) :
    manager.setTimer key callback interval =
      ⟨(manager.clearTimer key).timers.set key (manager.clearTimer key).intervals.next,
        ((manager.clearTimer key).intervals.setInterval (callback, interval)).1⟩ := by
  have hcleared : (if manager.exist key then manager.clearTimer key else manager) =
      manager.clearTimer key := by
    by_cases hexist : manager.exist key
    · rw [if_pos hexist]
    · have hnone : manager.timers.get? key = none := by
        rw [OrderedMap.get?_eq_none]
        intro hmem
        exact hexist (decide_eq_true hmem)
      rw [if_neg hexist, TimerManager.clearTimer, hnone]
  unfold TimerManager.setTimer
  rw [hcleared]
  rfl

/-- The manager has a new interval under a key. -/
theorem Represents.setTimer (hrepresents : process.Represents wishes) (key : String) (callback : γ)
    (interval : Nat) : (process.call (.setTimer key callback interval)).Represents
      (wishes.call (.setTimer key callback interval)) := by
  have hcleared := hrepresents.clearTimer key
  have hset := hcleared.holds.setInterval (clearTimer_held process hrepresents key)
    (callback, interval)
  refine ⟨?_, hrepresents.positions⟩
  have hwanted : wanted (wishes.call (.setTimer key callback interval)) =
      Function.update (wanted (wishes.call (.clearTimer key))) (.inl key)
        (some (callback, interval)) := by
    unfold wanted
    rw [Sum.update_elim_inl]
    congr 1
    exact (Function.update_idem ..).symm
  have hheld : held (process.call (.setTimer key callback interval)) =
      Function.update (held (process.call (.clearTimer key))) (.inl key)
        (some (process.call (.clearTimer key)).intervals.next) := by
    unfold held
    rw [Sum.update_elim_inl, call, setTimer_eq]
    congr 1
    funext other
    rw [Function.update_apply, OrderedMap.get?_set]
    rfl
  have hintervals : (process.call (.setTimer key callback interval)).intervals =
      ((process.call (.clearTimer key)).intervals.setInterval (callback, interval)).1 := by
    rw [call, setTimer_eq]
    rfl
  rw [hwanted, hheld, hintervals]
  exact hset

/-- Only what the manager holds is cleared. -/
theorem Represents.clearAllTimers (hrepresents : process.Represents wishes) :
    (process.call .clearAllTimers).Represents (wishes.call .clearAllTimers) := by
  refine ⟨?_, hrepresents.positions⟩
  have hcleared := hrepresents.holds.clearIntervals Sum.isLeft fun id => by
    show id ∈ process.manager.timers.values ↔ _
    unfold OrderedMap.values
    rw [List.mem_map]
    constructor
    · rintro ⟨⟨key, timer⟩, hentry, rfl⟩
      exact ⟨.inl key, rfl, OrderedMap.get?_eq_some.mpr hentry⟩
    · rintro ⟨key | position, hleft, hheld⟩
      · exact ⟨(key, id), OrderedMap.get?_eq_some.mp hheld, rfl⟩
      · cases hleft
  have hwanted : wanted (wishes.call .clearAllTimers) =
      fun holder => if holder.isLeft then none else wanted wishes holder := by
    funext holder
    rcases holder with key | position <;> rfl
  have hheld : held (process.call .clearAllTimers) =
      fun holder => if holder.isLeft then none else held process holder := by
    funext holder
    rcases holder with key | position <;> rfl
  rw [hwanted, hheld]
  exact hcleared

theorem join_append {ν : Type u} (values : List (Option ν)) (value : Option ν) (position : Nat) :
    ((values ++ [value])[position]?).join =
      Function.update (fun other => (values[other]?).join) values.length value position := by
  rw [Function.update_apply]
  split
  next hlast =>
    subst hlast
    rw [List.getElem?_concat_length, Option.join_some]
  next hother =>
    by_cases hlt : position < values.length
    · rw [List.getElem?_append_left hlt]
    · rw [List.getElem?_eq_none, List.getElem?_eq_none]
      · omega
      · rw [List.length_append, List.length_singleton]
        omega

theorem join_set {ν : Type u} (values : List (Option ν)) (position other : Nat) :
    ((values.set position none)[other]?).join =
      Function.update (fun other => (values[other]?).join) position none other := by
  rw [Function.update_apply, List.getElem?_set]
  by_cases hother : other = position
  · subst hother
    by_cases hlt : other < values.length <;> simp [hlt]
  · simp [hother, Ne.symm hother]

/-- Other code has an interval of its own. -/
theorem Represents.setInterval (hrepresents : process.Represents wishes) (callback : γ)
    (interval : Nat) : (process.call (.setInterval callback interval)).Represents
      (wishes.call (.setInterval callback interval)) := by
  have hfree : held process (.inr process.others.length) = none := by
    show (process.others[process.others.length]?).join = none
    rw [List.getElem?_eq_none (Nat.le_refl _), Option.join_none]
  have hset := hrepresents.holds.setInterval hfree (callback, interval)
  constructor
  · have hwanted : wanted (wishes.call (.setInterval callback interval)) =
        Function.update (wanted wishes) (.inr process.others.length)
          (some (callback, interval)) := by
      unfold wanted
      rw [Sum.update_elim_inr, hrepresents.positions]
      congr 1
      funext position
      exact join_append ..
    have hheld : held (process.call (.setInterval callback interval)) =
        Function.update (held process) (.inr process.others.length)
          (some process.intervals.next) := by
      unfold held
      rw [Sum.update_elim_inr]
      congr 1
      funext position
      exact join_append ..
    rw [hwanted, hheld]
    exact hset
  · simp only [call, Wishes.call, List.length_append, hrepresents.positions, List.length_singleton]

/-- Other code clears an interval of its own. -/
theorem Represents.clearInterval (hrepresents : process.Represents wishes) (position : Nat) :
    (process.call (.clearInterval position)).Represents
      (wishes.call (.clearInterval position)) := by
  have hwanted : wanted (wishes.call (.clearInterval position)) =
      Function.update (wanted wishes) (.inr position) none := by
    unfold wanted
    rw [Sum.update_elim_inr]
    congr 1
    funext other
    exact join_set ..
  cases hother : process.other position with
  | none =>
      have hsame : process.call (.clearInterval position) = process := by
        simp only [call, hother]
      rw [hsame]
      constructor
      · have hrests := hrepresents.holds.rests (.inr position) hother
        rw [hwanted, Function.update_eq_self_iff.mpr hrests.symm]
        exact hrepresents.holds
      · rw [hrepresents.positions]
        exact (List.length_set ..).symm
  | some id =>
      have hcleared := hrepresents.holds.clearInterval
        (show held process (.inr position) = some id from hother)
      have hnext : process.call (.clearInterval position) =
          ⟨⟨process.manager.timers, process.intervals.clearInterval id⟩,
            process.others.set position none⟩ := by
        simp only [call, hother]
      rw [hnext]
      constructor
      · have hheld : held ⟨⟨process.manager.timers, process.intervals.clearInterval id⟩,
            process.others.set position none⟩ =
              Function.update (held process) (.inr position) none := by
          unfold held
          rw [Sum.update_elim_inr]
          congr 1
          funext other
          exact join_set ..
        rw [hwanted, hheld]
        exact hcleared
      · rw [List.length_set, hrepresents.positions]
        exact (List.length_set ..).symm

theorem Represents.call (hrepresents : process.Represents wishes) (call : TimerCall γ) :
    (process.call call).Represents (wishes.call call) := by
  cases call with
  | setTimer key callback interval => exact hrepresents.setTimer key callback interval
  | clearTimer key => exact hrepresents.clearTimer key
  | clearAllTimers => exact hrepresents.clearAllTimers
  | setInterval callback interval => exact hrepresents.setInterval callback interval
  | clearInterval position => exact hrepresents.clearInterval position

theorem represents_run (calls : List (TimerCall γ)) :
    (run calls).Represents (Wishes.run calls) := by
  unfold run Wishes.run
  induction calls using List.reverseRecOn with
  | nil => exact represents_start
  | append_singleton calls call ih =>
      rw [List.foldl_concat, List.foldl_concat]
      exact ih.call call

/-- After any calls of the manager and of other code: `exist` tells which keys have a timer, under
each id that is held runs the last callback it was set for and no two holders share one, and no
other interval runs. -/
theorem timers_exact (calls : List (TimerCall γ)) :
    (∀ key, (run calls).manager.exist key = ((Wishes.run calls).timers key).isSome) ∧
      Intervals.Holds (held (run calls)) (wanted (Wishes.run calls)) (run calls).intervals :=
  ⟨(represents_run calls).exist, (represents_run calls).holds⟩

/-- Two sockets close one after the other, next to an interval of other code. -/
example : (run [.setTimer "first" 1 300, .setInterval 2 1000, .setTimer "second" 3 300,
    .clearTimer "first", .clearTimer "second"]).intervals.live.values = [(2, 1000)] := by decide

end TimerProcess

/-! ## The sockets of a process -/

section Sockets

variable {ι : Type} (timerName : ι → String)

/-- A socket starts or stops its timeout check, or other code calls the runtime. -/
inductive SocketTimerCall (ι : Type) where
  | startTimeoutCheck (socket : ι)
  | stopTimeoutCheck (socket : ι)
  | setInterval (interval : Nat)
  | clearInterval (position : Nat)

namespace SocketTimerCall

def TIMEOUT_CHECK_INTERVAL : Nat := 300

/-- The callback is the socket whose timeout check it runs, or none of them. -/
def call : SocketTimerCall ι → TimerCall (Option ι)
  | .startTimeoutCheck socket =>
      .setTimer (timerName socket) (some socket) TIMEOUT_CHECK_INTERVAL
  | .stopTimeoutCheck socket => .clearTimer (timerName socket)
  | .setInterval interval => .setInterval none interval
  | .clearInterval position => .clearInterval position

variable {timerName}

/-- The manager has keys of sockets only, and other code has callbacks of its own. -/
structure Foreign (timerName : ι → String) (wishes : Wishes (Option ι)) : Prop where
  named : ∀ key value, wishes.timers key = some value → ∃ socket, timerName socket = key
  others : ∀ value, some value ∈ wishes.others → value.1 = none

theorem Foreign.call {wishes : Wishes (Option ι)} (hforeign : Foreign timerName wishes)
    (last : SocketTimerCall ι) : Foreign timerName (wishes.call (last.call timerName)) := by
  cases last with
  | startTimeoutCheck socket =>
      refine ⟨fun key value hvalue => ?_, hforeign.others⟩
      by_cases hkey : key = timerName socket
      · exact ⟨socket, hkey.symm⟩
      · apply hforeign.named key value
        exact (Function.update_of_ne hkey ..).symm.trans hvalue
  | stopTimeoutCheck socket =>
      refine ⟨fun key value hvalue => ?_, hforeign.others⟩
      by_cases hkey : key = timerName socket
      · exact ⟨socket, hkey.symm⟩
      · apply hforeign.named key value
        exact (Function.update_of_ne hkey ..).symm.trans hvalue
  | setInterval interval =>
      refine ⟨hforeign.named, fun value hvalue => ?_⟩
      rcases List.mem_append.mp hvalue with hold | hnew
      · exact hforeign.others value hold
      · cases List.mem_singleton.mp hnew
        rfl
  | clearInterval position =>
      refine ⟨hforeign.named, fun value hvalue => ?_⟩
      rcases List.mem_or_eq_of_mem_set hvalue with hold | hcleared
      · exact hforeign.others value hold
      · cases hcleared

theorem foreign_run (calls : List (SocketTimerCall ι)) :
    Foreign timerName (Wishes.run (calls.map (call timerName))) := by
  unfold Wishes.run
  induction calls using List.reverseRecOn with
  | nil =>
      constructor
      · rintro key value ⟨⟩
      · rintro value ⟨⟩
  | append_singleton calls last ih =>
      rw [List.map_append, List.map_singleton, List.foldl_concat]
      exact ih.call last

variable [DecidableEq ι]

/-- A socket's timer is set by its own calls alone. -/
def sets (socket : ι) (set : Bool) : SocketTimerCall ι → Bool
  | .startTimeoutCheck other => if socket = other then true else set
  | .stopTimeoutCheck other => if socket = other then false else set
  | .setInterval _ => set
  | .clearInterval _ => set

theorem wishes_timers (hdistinct : Function.Injective timerName)
    (calls : List (SocketTimerCall ι)) (socket : ι) :
    (Wishes.run (calls.map (call timerName))).timers (timerName socket) =
      if calls.foldl (sets socket) false then some (some socket, TIMEOUT_CHECK_INTERVAL)
      else none := by
  unfold Wishes.run
  induction calls using List.reverseRecOn with
  | nil => rfl
  | append_singleton calls last ih =>
      rw [List.map_append, List.map_singleton, List.foldl_concat, List.foldl_concat]
      cases last with
      | startTimeoutCheck other =>
          show Function.update _ (timerName other) _ (timerName socket) = _
          by_cases hother : socket = other
          · subst hother
            simp [sets]
          · rw [Function.update_of_ne (hdistinct.ne hother), ih]
            simp [sets, hother]
      | stopTimeoutCheck other =>
          show Function.update _ (timerName other) _ (timerName socket) = _
          by_cases hother : socket = other
          · subst hother
            simp [sets]
          · rw [Function.update_of_ne (hdistinct.ne hother), ih]
            simp [sets, hother]
      | setInterval interval => exact ih
      | clearInterval position => exact ih

/-- The sockets of a process do not get in each other's way: after any calls the timeout check of a
socket is in an interval if and only if the socket's own last call has started it. -/
theorem timeoutChecks_apart (hdistinct : Function.Injective timerName)
    (calls : List (SocketTimerCall ι)) (socket : ι) :
    (∃ id interval, (TimerProcess.run (calls.map (call timerName))).intervals.live.get? id =
        some (some socket, interval)) ↔ calls.foldl (sets socket) false = true := by
  have hrun := TimerProcess.represents_run (calls.map (call timerName))
  have hforeign := @foreign_run _ timerName calls
  constructor
  · rintro ⟨id, interval, hlive⟩
    obtain ⟨key | position, hheld⟩ := hrun.holds.only id _ hlive
    · rw [hrun.holds.wanted_eq hheld] at hlive
      obtain ⟨other, rfl⟩ := hforeign.named key _ hlive
      have htimers := (wishes_timers hdistinct calls other).symm.trans hlive
      split at htimers
      next hset =>
        cases htimers
        exact hset
      next => cases htimers
    · rw [hrun.holds.wanted_eq hheld] at hlive
      have hmem := List.mem_of_getElem? (Option.join_eq_some_iff.mp hlive)
      cases hforeign.others _ hmem
  · intro hset
    have htimers := wishes_timers hdistinct calls socket
    rw [if_pos hset] at htimers
    have hsome := hrun.holds.isSome (.inl (timerName socket))
    obtain ⟨id, hheld⟩ := Option.isSome_iff_exists.mp (hsome.trans (by
      rw [TimerProcess.wanted, Sum.elim_inl, htimers, Option.isSome_some]))
    exact ⟨id, _, (hrun.holds.wanted_eq hheld).trans htimers⟩

/-- The first of two sockets has stopped, and the second goes on. -/
theorem timeoutChecks_apart_sample : ∃ id interval, (TimerProcess.run
    (([.startTimeoutCheck false, .startTimeoutCheck true, .setInterval 100,
      .stopTimeoutCheck false] : List (SocketTimerCall Bool)).map (call fun socket =>
        if socket then "first" else "second"))).intervals.live.get? id =
          some (some true, interval) :=
  (timeoutChecks_apart (by
    rintro (_ | _) (_ | _) hsame
    · rfl
    · exact absurd hsame (by decide)
    · exact absurd hsame (by decide)
    · rfl) _ true).mpr (by decide)

end SocketTimerCall

end Sockets

end Utp
