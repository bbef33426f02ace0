import Mathlib.Logic.Function.Basic
import Utp.Foundation.OrderedMap

/-! # The runtime's intervals

An interval runs its callback under the positive id it is given, until the id is cleared. Ids are
not given twice, and clearing an id under which nothing runs does nothing.

Holders keep the ids of what they have started. `Holds` tells that the intervals that run are those
which the holders want, one each.
-/

universe u v w

structure Intervals (γ : Type u) where
  live : OrderedMap Nat γ
  next : Nat
  positive : 0 < next
  fresh : ∀ id ∈ live.keys, id < next

namespace Intervals

variable {γ : Type u} {κ : Type v} {intervals : Intervals γ}

/-- Nothing runs. -/
def idle : Intervals γ where
  live := ∅
  next := 1
  positive := Nat.one_pos
  fresh id hid := by simp at hid

instance : Inhabited (Intervals γ) := ⟨idle⟩

def setInterval (intervals : Intervals γ) (callback : γ) : Intervals γ × Nat :=
  ({ live := intervals.live.set intervals.next callback
     next := intervals.next + 1
     positive := Nat.succ_pos _
     fresh := by
       intro id hid
       rcases OrderedMap.mem_keys_set.mp hid with hold | rfl
       · exact Nat.lt_succ_of_lt (intervals.fresh id hold)
       · exact Nat.lt_succ_self _ },
    intervals.next)

def clearInterval (intervals : Intervals γ) (id : Nat) : Intervals γ where
  live := intervals.live.erase id
  next := intervals.next
  positive := intervals.positive
  fresh other hother := intervals.fresh other (OrderedMap.mem_keys_erase.mp hother).1

def clearIntervals (intervals : Intervals γ) (ids : List Nat) : Intervals γ :=
  ids.foldl clearInterval intervals

theorem get?_setInterval (intervals : Intervals γ) (callback : γ) (id : Nat) :
    (intervals.setInterval callback).1.live.get? id =
      if id = intervals.next then some callback else intervals.live.get? id :=
  OrderedMap.get?_set _ _ _ _

theorem get?_clearInterval (intervals : Intervals γ) (id other : Nat) :
    (intervals.clearInterval id).live.get? other =
      if other = id then none else intervals.live.get? other :=
  OrderedMap.get?_erase _ _ _

theorem get?_clearIntervals (intervals : Intervals γ) (ids : List Nat) (other : Nat) :
    (intervals.clearIntervals ids).live.get? other =
      if other ∈ ids then none else intervals.live.get? other := by
  induction ids generalizing intervals with
  | nil => simp [clearIntervals]
  | cons id rest ih =>
      have hrest := ih (intervals.clearInterval id)
      simp only [clearIntervals, List.foldl_cons, get?_clearInterval, List.mem_cons] at hrest ⊢
      rw [hrest]
      by_cases hid : other = id <;> by_cases hother : other ∈ rest <;> simp [hid, hother]

theorem lt_next {id : Nat} {callback : γ} (hget : intervals.live.get? id = some callback) :
    id < intervals.next :=
  intervals.fresh id (OrderedMap.mem_keys_of_get? hget)

/-! ## Holders -/

/-- What a holder wants runs under the id that it holds, and nothing else runs. -/
structure Holds (held : κ → Option Nat) (wanted : κ → Option γ) (intervals : Intervals γ) :
    Prop where
  runs : ∀ key id, held key = some id → 0 < id ∧ ∃ callback,
    intervals.live.get? id = some callback ∧ wanted key = some callback
  rests : ∀ key, held key = none → wanted key = none
  apart : ∀ key other id, held key = some id → held other = some id → key = other
  only : ∀ id callback, intervals.live.get? id = some callback → ∃ key, held key = some id

theorem holds_idle : Holds (fun _ : κ => none) (fun _ => none) (idle : Intervals γ) where
  runs _ _ hheld := by cases hheld
  rests _ _ := rfl
  apart _ _ _ hheld := by cases hheld
  only _ _ hget := by cases hget

theorem update_none [DecidableEq κ] {ν : Type w} (kept : κ → Option ν) (key : κ) :
    Function.update kept key none =
      fun other => if decide (other = key) then none else kept other := by
  funext other
  rw [Function.update_apply]
  simp only [decide_eq_true_eq]

namespace Holds

variable {held : κ → Option Nat} {wanted : κ → Option γ}

/-- Who holds an id has its callback run. -/
theorem wanted_eq (hholds : Holds held wanted intervals) {key : κ} {id : Nat}
    (hheld : held key = some id) : intervals.live.get? id = wanted key := by
  obtain ⟨-, callback, hlive, hwanted⟩ := hholds.runs key id hheld
  rw [hlive, hwanted]

theorem isSome (hholds : Holds held wanted intervals) (key : κ) :
    (held key).isSome = (wanted key).isSome := by
  cases hheld : held key with
  | none => rw [hholds.rests key hheld, Option.isSome_none, Option.isSome_none]
  | some id =>
      obtain ⟨-, callback, -, hwanted⟩ := hholds.runs key id hheld
      rw [hwanted, Option.isSome_some, Option.isSome_some]

theorem lt_next (hholds : Holds held wanted intervals) {key : κ} {id : Nat}
    (hheld : held key = some id) : id < intervals.next := by
  obtain ⟨-, callback, hlive, -⟩ := hholds.runs key id hheld
  exact Intervals.lt_next hlive

/-- Some holders have all that they hold cleared. -/
theorem clearIntervals (hholds : Holds held wanted intervals) (leaves : κ → Bool) {ids : List Nat}
    (hids : ∀ id, id ∈ ids ↔ ∃ key, leaves key ∧ held key = some id) :
    Holds (fun key => if leaves key then none else held key)
      (fun key => if leaves key then none else wanted key) (intervals.clearIntervals ids) where
  runs key id hheld := by
    split at hheld
    next => cases hheld
    next hstays =>
      rw [get?_clearIntervals, if_neg, if_neg hstays]
      · exact hholds.runs key id hheld
      · intro hid
        obtain ⟨other, hleaves, hother⟩ := (hids id).mp hid
        rw [hholds.apart other key id hother hheld] at hleaves
        exact hstays hleaves
  rests key hheld := by
    split at hheld
    next hleaves => rw [if_pos hleaves]
    next hstays =>
      rw [if_neg hstays]
      exact hholds.rests key hheld
  apart first second id hfirst hsecond := by
    split at hfirst
    next => cases hfirst
    next =>
      split at hsecond
      next => cases hsecond
      next => exact hholds.apart first second id hfirst hsecond
  only id callback hget := by
    rw [get?_clearIntervals] at hget
    split at hget
    next => cases hget
    next hkept =>
      obtain ⟨key, hheld⟩ := hholds.only id callback hget
      refine ⟨key, ?_⟩
      rw [if_neg, hheld]
      intro hleaves
      exact hkept ((hids id).mpr ⟨key, hleaves, hheld⟩)

variable [DecidableEq κ]

/-- A holder clears what it holds. -/
theorem clearInterval (hholds : Holds held wanted intervals) {key : κ} {id : Nat}
    (hheld : held key = some id) :
    Holds (Function.update held key none) (Function.update wanted key none)
      (intervals.clearInterval id) := by
  have hcleared := hholds.clearIntervals (fun other => decide (other = key)) fun kept => by
    rw [List.mem_singleton]
    constructor
    · rintro rfl
      exact ⟨key, decide_eq_true rfl, hheld⟩
    · rintro ⟨other, hother, hkept⟩
      rw [of_decide_eq_true hother, hheld] at hkept
      exact (Option.some.inj hkept).symm
  rw [update_none, update_none]
  exact hcleared

/-- A holder that holds nothing starts an interval. -/
theorem setInterval (hholds : Holds held wanted intervals) {key : κ} (hnone : held key = none)
    (callback : γ) :
    Holds (Function.update held key (some intervals.next))
      (Function.update wanted key (some callback)) (intervals.setInterval callback).1 where
  runs other id hheld := by
    rw [get?_setInterval]
    by_cases hother : other = key
    · subst hother
      rw [Function.update_self] at hheld ⊢
      cases hheld
      exact ⟨intervals.positive, callback, if_pos rfl, rfl⟩
    · rw [Function.update_of_ne hother] at hheld ⊢
      rw [if_neg (Nat.ne_of_lt (hholds.lt_next hheld))]
      exact hholds.runs other id hheld
  rests other hheld := by
    by_cases hother : other = key
    · subst hother
      rw [Function.update_self] at hheld
      cases hheld
    · rw [Function.update_of_ne hother] at hheld ⊢
      exact hholds.rests other hheld
  apart first second id hfirst hsecond := by
    -- The new id is above all that are held.
    by_cases hkey : first = key <;> by_cases hother : second = key
    · rw [hkey, hother]
    · subst hkey
      rw [Function.update_self] at hfirst
      rw [Function.update_of_ne hother] at hsecond
      cases hfirst
      exact absurd (hholds.lt_next hsecond) (Nat.lt_irrefl _)
    · subst hother
      rw [Function.update_self] at hsecond
      rw [Function.update_of_ne hkey] at hfirst
      cases hsecond
      exact absurd (hholds.lt_next hfirst) (Nat.lt_irrefl _)
    · rw [Function.update_of_ne hkey] at hfirst
      rw [Function.update_of_ne hother] at hsecond
      exact hholds.apart first second id hfirst hsecond
  only id stored hget := by
    rw [get?_setInterval] at hget
    split at hget
    next hnew =>
      subst hnew
      exact ⟨key, Function.update_self ..⟩
    next =>
      obtain ⟨other, hother⟩ := hholds.only id stored hget
      refine ⟨other, ?_⟩
      rw [Function.update_of_ne, hother]
      rintro rfl
      rw [hnone] at hother
      cases hother

end Holds

end Intervals
