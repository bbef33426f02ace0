import Mathlib.Algebra.Order.Field.Rat
import Utp.Foundation.Async
import Utp.Foundation.OrderedMap

/-! # The bounded map behind the send window

A `set` that finds the map full waits until room appears; waiters enter in the
order in which they came. The capacity is a rational, as the congestion window
need not be whole. `entered` is a history: every entry that ever entered.
-/

namespace Utp

structure BlockingMap (κ ν : Type) where
  map : OrderedMap κ ν
  capacity : ℚ
  waitingSetters : List (κ × ν × Nat)
  nextSetter : Nat
  entered : List (κ × ν)

namespace BlockingMap

variable {κ ν : Type}

def create (capacity : ℚ) : BlockingMap κ ν where
  map := ∅
  capacity := capacity
  waitingSetters := []
  nextSetter := 0
  entered := []

def size (self : BlockingMap κ ν) : Nat := self.map.size

def hasRoom (self : BlockingMap κ ν) : Bool := (self.map.size : ℚ) < self.capacity

variable [DecidableEq κ]

def get (self : BlockingMap κ ν) (key : κ) : Option ν := self.map.get? key

/-- Overwrite the value of an entry, which the code does by mutating it. -/
def update (self : BlockingMap κ ν) (key : κ) (value : ν) : BlockingMap κ ν :=
  { self with map := self.map.set key value }

def put (self : BlockingMap κ ν) (key : κ) (value : ν) : BlockingMap κ ν :=
  { self with map := self.map.set key value, entered := self.entered ++ [(key, value)] }

/-- Admit waiting setters from the front for as long as there is room. -/
def admitWaiting : List (κ × ν × Nat) → BlockingMap κ ν → BlockingMap κ ν
  | [], self => { self with waitingSetters := [] }
  | (key, value, id) :: rest, self =>
      if self.hasRoom then admitWaiting rest (self.put key value)
      else { self with waitingSetters := (key, value, id) :: rest }

def resolveNextSetter (self : BlockingMap κ ν) : BlockingMap κ ν :=
  admitWaiting self.waitingSetters self

def enqueueSetter (self : BlockingMap κ ν) (key : κ) (value : ν) : BlockingMap κ ν :=
  { self with
    waitingSetters := self.waitingSetters ++ [(key, value, self.nextSetter)]
    nextSetter := self.nextSetter + 1 }

/-- The setter with this number has been let in. -/
def isResolved (self : BlockingMap κ ν) (id : Nat) : Bool :=
  self.waitingSetters.all fun waiter => waiter.2.2 ≠ id

def set (key : κ) (value : ν) : Async (BlockingMap κ ν) Unit := do
  let self ← .get
  if self.hasRoom then
    .modify fun self => (self.put key value).resolveNextSetter
  else do
    .modify fun self => self.enqueueSetter key value
    .waitUntil fun now => now.isResolved self.nextSetter

def delete (self : BlockingMap κ ν) (key : κ) : BlockingMap κ ν :=
  if key ∈ self.map.keys then
    ({ self with map := self.map.erase key } : BlockingMap κ ν).resolveNextSetter
  else self

def clear (self : BlockingMap κ ν) : BlockingMap κ ν := { self with map := ∅ }

def updateCapacity (self : BlockingMap κ ν) (capacity : ℚ) : BlockingMap κ ν :=
  ({ self with capacity := capacity } : BlockingMap κ ν).resolveNextSetter

/-! ## Entries come from setters, and setters are not forgotten -/

/-- Every entry, past, present or waiting. -/
structure Every (property : κ → ν → Prop) (whole : BlockingMap κ ν) : Prop where
  present : ∀ entry ∈ whole.map.entries, property entry.1 entry.2
  entered : ∀ entry ∈ whole.entered, property entry.1 entry.2
  waiting : ∀ waiter ∈ whole.waitingSetters, property waiter.1 waiter.2.1

omit [DecidableEq κ] in
/-- A new map has no entries. -/
theorem every_create (property : κ → ν → Prop) (capacity : ℚ) :
    Every property (create capacity : BlockingMap κ ν) := ⟨nofun, nofun, nofun⟩

/-- What entered stays on record, and a waiter keeps waiting until it enters. -/
structure Evolves (before after : BlockingMap κ ν) : Prop where
  entered : ∀ entry ∈ before.entered, entry ∈ after.entered
  waiting : ∀ waiter ∈ before.waitingSetters,
    waiter ∈ after.waitingSetters ∨ (waiter.1, waiter.2.1) ∈ after.entered

omit [DecidableEq κ] in
theorem Evolves.refl (self : BlockingMap κ ν) : self.Evolves self :=
  ⟨fun _ => id, fun _ => .inl⟩

omit [DecidableEq κ] in
theorem Evolves.trans {first second third : BlockingMap κ ν} (hfirst : first.Evolves second)
    (hsecond : second.Evolves third) : first.Evolves third := by
  refine ⟨fun entry hentry => hsecond.entered _ (hfirst.entered _ hentry), fun waiter hwaiter => ?_⟩
  rcases hfirst.waiting waiter hwaiter with hwaits | hentered
  · exact hsecond.waiting waiter hwaits
  · exact .inr (hsecond.entered _ hentered)

/-- A new entry must have the property. -/
theorem every_put {property : κ → ν → Prop} {self : BlockingMap κ ν} {key : κ} {value : ν}
    (hself : Every property self) (hnew : property key value) :
    Every property (self.put key value) := by
  refine ⟨?_, ?_, hself.waiting⟩
  · rintro ⟨other, stored⟩ hentry
    rcases OrderedMap.mem_entries_set.mp hentry with ⟨rfl, rfl⟩ | ⟨_, hold⟩
    · exact hnew
    · exact hself.present _ hold
  · intro entry hentry
    rcases List.mem_append.mp hentry with hold | hlast
    · exact hself.entered _ hold
    · rw [List.mem_singleton.mp hlast]
      exact hnew

/-- Waiters that are let in have the property already. -/
theorem every_admitWaiting {property : κ → ν → Prop} {waiting : List (κ × ν × Nat)}
    {self : BlockingMap κ ν} (hself : Every property self)
    (hwaiting : ∀ waiter ∈ waiting, property waiter.1 waiter.2.1) :
    Every property (admitWaiting waiting self) := by
  induction waiting generalizing self with
  | nil => exact ⟨hself.present, hself.entered, by simp [admitWaiting]⟩
  | cons waiter rest ih =>
      obtain ⟨key, value, id⟩ := waiter
      simp only [admitWaiting]
      split
      next =>
        exact ih (every_put hself (hwaiting _ List.mem_cons_self))
          fun other hother => hwaiting other (List.mem_cons_of_mem _ hother)
      next => exact ⟨hself.present, hself.entered, hwaiting⟩

theorem every_resolveNextSetter {property : κ → ν → Prop} {self : BlockingMap κ ν}
    (hself : Every property self) : Every property self.resolveNextSetter :=
  every_admitWaiting hself hself.waiting

omit [DecidableEq κ] in
/-- A setter that comes to wait must have the property. -/
theorem every_enqueueSetter {property : κ → ν → Prop} {self : BlockingMap κ ν} {key : κ} {value : ν}
    (hself : Every property self) (hnew : property key value) :
    Every property (self.enqueueSetter key value) := by
  refine ⟨hself.present, hself.entered, fun waiter hwaiter => ?_⟩
  rcases List.mem_append.mp hwaiter with hold | hlast
  · exact hself.waiting _ hold
  · rw [List.mem_singleton.mp hlast]
    exact hnew

/-- A value that overwrites another must have the property. -/
theorem every_update {property : κ → ν → Prop} {self : BlockingMap κ ν} {key : κ} {value : ν}
    (hself : Every property self) (hnew : property key value) :
    Every property (self.update key value) :=
  ⟨(every_put hself hnew).present, hself.entered, hself.waiting⟩

/-- A deletion only lets waiters in. -/
theorem every_delete {property : κ → ν → Prop} {self : BlockingMap κ ν} (key : κ)
    (hself : Every property self) : Every property (self.delete key) := by
  unfold delete
  split
  next =>
    refine every_resolveNextSetter ⟨fun entry hentry => ?_, hself.entered, hself.waiting⟩
    exact hself.present _ (OrderedMap.mem_entries_erase.mp hentry).1
  next => exact hself

omit [DecidableEq κ] in
theorem every_clear {property : κ → ν → Prop} {self : BlockingMap κ ν}
    (hself : Every property self) : Every property self.clear :=
  ⟨fun _ hentry => absurd hentry List.not_mem_nil, hself.entered, hself.waiting⟩

/-- A new capacity only lets waiters in. -/
theorem every_updateCapacity {property : κ → ν → Prop} {self : BlockingMap κ ν} (capacity : ℚ)
    (hself : Every property self) : Every property (self.updateCapacity capacity) :=
  every_resolveNextSetter ⟨hself.present, hself.entered, hself.waiting⟩

/-- Who waits is let in or goes on waiting, and what has entered stays on record. -/
theorem evolves_admitWaiting (waiting : List (κ × ν × Nat)) (self : BlockingMap κ ν) :
    (∀ entry ∈ self.entered, entry ∈ (admitWaiting waiting self).entered) ∧
      ∀ waiter ∈ waiting, waiter ∈ (admitWaiting waiting self).waitingSetters ∨
        (waiter.1, waiter.2.1) ∈ (admitWaiting waiting self).entered := by
  induction waiting generalizing self with
  | nil => exact ⟨fun _ => id, by simp⟩
  | cons waiter rest ih =>
      obtain ⟨key, value, id⟩ := waiter
      simp only [admitWaiting]
      split
      next =>
        obtain ⟨hentered, hrest⟩ := ih (self.put key value)
        refine ⟨fun entry hentry => hentered _ (List.mem_append_left _ hentry), ?_⟩
        rintro other (_ | ⟨_, hother⟩)
        · exact .inr (hentered _ (by simp [put]))
        · exact hrest other hother
      next => exact ⟨fun _ hentry => hentry, fun _ => .inl⟩

/-- Nobody is forgotten when waiters are let in. -/
theorem evolves_resolveNextSetter (self : BlockingMap κ ν) :
    self.Evolves self.resolveNextSetter :=
  ⟨(evolves_admitWaiting _ self).1, (evolves_admitWaiting _ self).2⟩

theorem evolves_put (self : BlockingMap κ ν) (key : κ) (value : ν) :
    self.Evolves (self.put key value) :=
  ⟨fun _ hentry => List.mem_append_left _ hentry, fun _ => .inl⟩

omit [DecidableEq κ] in
/-- A new setter stands behind those that wait. -/
theorem evolves_enqueueSetter (self : BlockingMap κ ν) (key : κ) (value : ν) :
    self.Evolves (self.enqueueSetter key value) :=
  ⟨fun _ => id, fun _ hwaiter => .inl (List.mem_append_left _ hwaiter)⟩

/-- A deletion forgets no waiter. -/
theorem evolves_delete (self : BlockingMap κ ν) (key : κ) : self.Evolves (self.delete key) := by
  unfold delete
  split
  next =>
    have hresolved := evolves_resolveNextSetter { self with map := self.map.erase key }
    exact ⟨hresolved.entered, hresolved.waiting⟩
  next => exact .refl self

/-- A new capacity forgets no waiter. -/
theorem evolves_updateCapacity (self : BlockingMap κ ν) (capacity : ℚ) :
    self.Evolves (self.updateCapacity capacity) :=
  have hresolved := evolves_resolveNextSetter { self with capacity := capacity }
  ⟨hresolved.entered, hresolved.waiting⟩

/-! ## With nobody waiting -/

/-- With nobody waiting there is nobody to let in. -/
theorem resolveNextSetter_unblocked {self : BlockingMap κ ν} (hself : self.waitingSetters = []) :
    self.resolveNextSetter = self := by
  cases self
  cases hself
  rfl

/-- A deletion brings nobody to wait. -/
theorem delete_unblocked {self : BlockingMap κ ν} (key : κ) (hself : self.waitingSetters = []) :
    (self.delete key).waitingSetters = [] := by
  unfold delete
  split
  next =>
    rw [resolveNextSetter_unblocked (by exact hself)]
    exact hself
  next => exact hself

/-- With nobody waiting only the capacity changes. -/
theorem updateCapacity_unblocked {self : BlockingMap κ ν} (capacity : ℚ)
    (hself : self.waitingSetters = []) :
    self.updateCapacity capacity = { self with capacity := capacity } :=
  resolveNextSetter_unblocked hself

/-- Empty, and nobody waits to enter. -/
def Idle (whole : BlockingMap κ ν) : Prop := whole.map = ∅ ∧ whole.waitingSetters = []

/-- An empty map has nothing to delete. -/
theorem idle_delete {self : BlockingMap κ ν} (key : κ) (hself : self.Idle) :
    (self.delete key).Idle := by
  unfold delete
  rw [if_neg (by simp [hself.1])]
  exact hself

/-- Who is in stays in while others are let in. -/
theorem mem_keys_admitWaiting {key : κ} {waiting : List (κ × ν × Nat)} {self : BlockingMap κ ν}
    (hkey : key ∈ self.map.keys) : key ∈ (admitWaiting waiting self).map.keys := by
  induction waiting generalizing self with
  | nil => exact hkey
  | cons waiter rest ih =>
      obtain ⟨other, value, id⟩ := waiter
      simp only [admitWaiting]
      split
      next => exact ih (OrderedMap.mem_keys_set.mpr (.inl hkey))
      next => exact hkey

/-- A cleared map lets somebody in, if anybody waits. -/
theorem updateCapacity_admits {self : BlockingMap κ ν} {capacity : ℚ} (hcapacity : 0 < capacity)
    (hblocked : self.waitingSetters ≠ []) : ¬ (self.clear.updateCapacity capacity).Idle := by
  rintro ⟨hempty, -⟩
  obtain ⟨⟨key, value, id⟩, rest, hwaiting⟩ := List.exists_cons_of_ne_nil hblocked
  have hroom : hasRoom { self.clear with capacity := capacity } = true := by
    refine decide_eq_true ?_
    show ((0 : Nat) : ℚ) < capacity
    simpa using hcapacity
  have hin : key ∈ (self.clear.updateCapacity capacity).map.keys := by
    show key ∈ (admitWaiting self.waitingSetters { self.clear with capacity := capacity }).map.keys
    rw [hwaiting, admitWaiting, if_pos hroom]
    exact mem_keys_admitWaiting (OrderedMap.mem_keys_set.mpr (.inr rfl))
  rw [hempty] at hin
  cases hin

/-- An idle map stays idle under any capacity. -/
theorem idle_updateCapacity {self : BlockingMap κ ν} (capacity : ℚ) (hself : self.Idle) :
    (self.updateCapacity capacity).Idle := by
  rw [updateCapacity_unblocked capacity hself.2]
  exact hself

/-! ## What happens to an entry -/

/-- Each entry is still there, with a value that `same` relates to the old one,
unless it is `gone` or a later setter took its key. -/
structure Keeps (same : ν → ν → Prop) (gone : κ → Prop) (before after : BlockingMap κ ν) :
    Prop where
  entered : before.entered <+: after.entered
  entries : ∀ key value, before.get key = some value → gone key ∨
    ∃ stored, after.get key = some stored ∧
      (same value stored ∨ (key, stored) ∈ after.entered.drop before.entered.length)

section Keeps

variable {same : ν → ν → Prop} {gone : κ → Prop} {before after : BlockingMap κ ν}

theorem Keeps.refl (hsame : ∀ value, same value value) (self : BlockingMap κ ν) :
    self.Keeps same gone self :=
  ⟨List.prefix_rfl, fun _ value hvalue => .inr ⟨value, hvalue, .inl (hsame value)⟩⟩

/-- Whoever takes the key of an entry is on record. -/
theorem Keeps.put (hkeeps : before.Keeps same gone after) (key : κ) (value : ν) :
    before.Keeps same gone (after.put key value) := by
  refine ⟨hkeeps.entered.trans (List.prefix_append _ _), fun other old hold => ?_⟩
  have hdrop : (after.put key value).entered.drop before.entered.length =
      after.entered.drop before.entered.length ++ [(key, value)] :=
    List.drop_append_of_le_length hkeeps.entered.length_le
  refine (hkeeps.entries other old hold).imp_right ?_
  rintro ⟨stored, hstored, hsame⟩
  by_cases hkey : other = key
  · subst hkey
    refine ⟨value, by simp [get, BlockingMap.put], .inr ?_⟩
    rw [hdrop]
    exact List.mem_append_right _ (List.mem_singleton.mpr rfl)
  · refine ⟨stored, by simpa [get, BlockingMap.put, hkey] using hstored, hsame.imp_right ?_⟩
    rw [hdrop]
    exact List.mem_append_left _

/-- Those that are let in take away nothing but by their keys. -/
theorem Keeps.admitWaiting {waiting : List (κ × ν × Nat)} (hkeeps : before.Keeps same gone after) :
    before.Keeps same gone (BlockingMap.admitWaiting waiting after) := by
  induction waiting generalizing after with
  | nil => exact ⟨hkeeps.entered, hkeeps.entries⟩
  | cons waiter rest ih =>
      obtain ⟨key, value, id⟩ := waiter
      simp only [BlockingMap.admitWaiting]
      split
      next => exact ih (hkeeps.put key value)
      next => exact ⟨hkeeps.entered, hkeeps.entries⟩

/-- A new capacity takes away nothing. -/
theorem Keeps.updateCapacity (hkeeps : before.Keeps same gone after) (capacity : ℚ) :
    before.Keeps same gone (after.updateCapacity capacity) :=
  Keeps.admitWaiting ⟨hkeeps.entered, hkeeps.entries⟩

/-- A deletion takes away what is `gone`. -/
theorem Keeps.delete (hkeeps : before.Keeps same gone after) {key : κ} (hgone : gone key) :
    before.Keeps same gone (after.delete key) := by
  unfold BlockingMap.delete
  split
  next =>
    refine Keeps.admitWaiting ⟨hkeeps.entered, fun other old hold => ?_⟩
    by_cases hkey : other = key
    · exact .inl (hkey ▸ hgone)
    · refine (hkeeps.entries other old hold).imp_right ?_
      rintro ⟨stored, hstored, hsame⟩
      exact ⟨stored, by simpa [get, hkey] using hstored, hsame⟩
  next => exact hkeeps

/-- An overwritten value is related to the one before. -/
theorem Keeps.overwrite (hsame : ∀ value, same value value) {key : κ} {old new : ν}
    (hold : before.get key = some old) (hnew : same old new) :
    before.Keeps same gone (before.update key new) := by
  refine ⟨List.prefix_rfl, fun other value hvalue => .inr ?_⟩
  by_cases hkey : other = key
  · subst hkey
    rw [hold] at hvalue
    cases hvalue
    exact ⟨new, by simp [get, update], .inl hnew⟩
  · exact ⟨value, by simpa [get, update, hkey] using hvalue, .inl (hsame value)⟩

end Keeps

end BlockingMap

end Utp
