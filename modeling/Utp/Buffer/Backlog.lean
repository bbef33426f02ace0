import Utp.Buffer.BlockingMap

/-! # What a bounded map still has to deal with

The keys in the map and those whose setters wait. Admitting a waiter keeps its key
among them, and a key goes only with a deletion. Setters wait only for room, so
nobody waits at an empty map.
-/

namespace Utp

namespace BlockingMap

variable {κ ν : Type}

/-- The keys in the map, and those that wait to enter it. -/
def backlog (self : BlockingMap κ ν) : List κ :=
  self.map.keys ++ self.waitingSetters.map Prod.fst

/-- A key of the backlog is in the map or waits to enter it. -/
theorem mem_backlog {self : BlockingMap κ ν} {key : κ} :
    key ∈ self.backlog ↔ key ∈ self.map.keys ∨ ∃ waiter ∈ self.waitingSetters, waiter.1 = key := by
  rw [backlog, List.mem_append, List.mem_map]

/-- An idle map has no backlog. -/
theorem backlog_of_idle {self : BlockingMap κ ν} (hidle : self.Idle) : self.backlog = [] := by
  rw [backlog, hidle.1, hidle.2]
  rfl

variable [DecidableEq κ] {before after self : BlockingMap κ ν} {key : κ}

/-! ## What stays -/

/-- Letting setters in loses no key. -/
theorem mem_backlog_admitWaiting {waiting : List (κ × ν × Nat)}
    (hkey : key ∈ self.map.keys ∨ ∃ waiter ∈ waiting, waiter.1 = key) :
    key ∈ (admitWaiting waiting self).backlog := by
  induction waiting generalizing self with
  | nil =>
      rcases hkey with hpresent | ⟨waiter, hwaiter, -⟩
      · exact mem_backlog.mpr (.inl hpresent)
      · cases hwaiter
  | cons waiter rest ih =>
      obtain ⟨other, value, id⟩ := waiter
      simp only [admitWaiting]
      split
      next =>
        apply ih
        rcases hkey with hpresent | ⟨waiter, hwaiter, hkey⟩
        · exact .inl (by simp [put, hpresent])
        · rcases List.mem_cons.mp hwaiter with rfl | hrest
          · exact .inl (by simp [put, ← hkey])
          · exact .inr ⟨waiter, hrest, hkey⟩
      next => exact mem_backlog.mpr hkey

/-- A new capacity loses no key. -/
theorem mem_backlog_updateCapacity (capacity : ℚ) (hkey : key ∈ self.backlog) :
    key ∈ (self.updateCapacity capacity).backlog := mem_backlog_admitWaiting (mem_backlog.mp hkey)

/-- A deletion takes no other key. -/
theorem mem_backlog_delete {other : κ} (hother : key ≠ other) (hkey : key ∈ self.backlog) :
    key ∈ (self.delete other).backlog := by
  unfold delete
  split
  next =>
    apply mem_backlog_admitWaiting
    refine (mem_backlog.mp hkey).imp_left fun hpresent => ?_
    exact OrderedMap.mem_keys_erase.mpr ⟨hpresent, hother⟩
  next => exact hkey

/-- A change of a value takes no key. -/
theorem mem_backlog_update (other : κ) (value : ν) (hkey : key ∈ self.backlog) :
    key ∈ (self.update other value).backlog := by
  rw [mem_backlog] at hkey ⊢
  refine hkey.imp_left fun hpresent => ?_
  exact OrderedMap.mem_keys_set.mpr (.inl hpresent)

/-! ## What comes -/

/-- Only what waited is let in, and nobody else comes to wait. -/
structure Admits (before after : BlockingMap κ ν) : Prop where
  entered : before.entered <+: after.entered
  waiting : ∀ waiter ∈ after.waitingSetters, waiter ∈ before.waitingSetters
  admitted : ∀ entry ∈ after.entered.drop before.entered.length,
    ∃ waiter ∈ before.waitingSetters, waiter.1 = entry.1

omit [DecidableEq κ] in
theorem Admits.refl (self : BlockingMap κ ν) : self.Admits self :=
  ⟨List.prefix_rfl, fun _ => id, by simp⟩

/-- The setters that are let in are those that have waited. -/
theorem Admits.admitWaiting {waiting : List (κ × ν × Nat)} (hadmits : before.Admits after)
    (hwaiting : ∀ waiter ∈ waiting, waiter ∈ before.waitingSetters) :
    before.Admits (BlockingMap.admitWaiting waiting after) := by
  induction waiting generalizing after with
  | nil => exact ⟨hadmits.entered, by simp [BlockingMap.admitWaiting], hadmits.admitted⟩
  | cons waiter rest ih =>
      obtain ⟨other, value, id⟩ := waiter
      simp only [BlockingMap.admitWaiting]
      split
      next =>
        have hput : before.Admits (after.put other value) := by
          refine ⟨hadmits.entered.trans (List.prefix_append _ _), hadmits.waiting, ?_⟩
          intro entry hentry
          have hdrop : (after.put other value).entered.drop before.entered.length =
              after.entered.drop before.entered.length ++ [(other, value)] :=
            List.drop_append_of_le_length hadmits.entered.length_le
          rw [hdrop] at hentry
          rcases List.mem_append.mp hentry with hold | hnew
          · exact hadmits.admitted entry hold
          · rw [List.mem_singleton.mp hnew]
            exact ⟨_, hwaiting _ List.mem_cons_self, rfl⟩
        exact ih hput fun waiter hwaiter => hwaiting waiter (List.mem_cons_of_mem _ hwaiter)
      next => exact ⟨hadmits.entered, hwaiting, hadmits.admitted⟩

theorem Admits.updateCapacity (hadmits : before.Admits after) (capacity : ℚ) :
    before.Admits (after.updateCapacity capacity) :=
  Admits.admitWaiting ⟨hadmits.entered, hadmits.waiting, hadmits.admitted⟩ hadmits.waiting

/-- A deletion lets in only those that have waited. -/
theorem Admits.delete (hadmits : before.Admits after) (other : κ) :
    before.Admits (after.delete other) := by
  unfold BlockingMap.delete
  split
  next =>
    exact Admits.admitWaiting ⟨hadmits.entered, hadmits.waiting, hadmits.admitted⟩ hadmits.waiting
  next => exact hadmits

/-- A change of a value lets nobody in. -/
theorem admits_update (key : κ) (value : ν) : self.Admits (self.update key value) :=
  ⟨List.prefix_rfl, fun _ => id, by simp [BlockingMap.update]⟩

/-- An entry of its own, and then what waited. -/
theorem entered_put_resolve (key : κ) (value : ν) :
    self.entered <+: (self.put key value).resolveNextSetter.entered ∧
      ∀ entry ∈ (self.put key value).resolveNextSetter.entered.drop self.entered.length,
        entry.1 = key ∨ ∃ waiter ∈ self.waitingSetters, waiter.1 = entry.1 := by
  have hadmits : (self.put key value).Admits (self.put key value).resolveNextSetter :=
    (Admits.refl _).admitWaiting fun _ => id
  obtain ⟨more, hmore⟩ := hadmits.entered
  refine ⟨(List.prefix_append _ _).trans hadmits.entered, fun entry hentry => ?_⟩
  have hput : (self.put key value).entered = self.entered ++ [(key, value)] := rfl
  rw [← hmore, hput, List.append_assoc, List.drop_left] at hentry
  rcases List.mem_cons.mp hentry with hnew | hlater
  · exact .inl (congrArg Prod.fst hnew)
  · have hadmitted := hadmits.admitted entry
    rw [← hmore, List.drop_left] at hadmitted
    exact .inr (hadmitted hlater)

/-! ## The values -/

/-- What is in the map or waits to enter it. -/
structure Stores (property : κ → ν → Prop) (whole : BlockingMap κ ν) : Prop where
  present : ∀ entry ∈ whole.map.entries, property entry.1 entry.2
  waiting : ∀ waiter ∈ whole.waitingSetters, property waiter.1 waiter.2.1

/-- Letting setters in stores what they bring. -/
theorem stores_admitWaiting {property : κ → ν → Prop} {waiting : List (κ × ν × Nat)}
    (hself : ∀ entry ∈ self.map.entries, property entry.1 entry.2)
    (hwaiting : ∀ waiter ∈ waiting, property waiter.1 waiter.2.1) :
    Stores property (admitWaiting waiting self) := by
  induction waiting generalizing self with
  | nil => exact ⟨hself, hwaiting⟩
  | cons waiter rest ih =>
      obtain ⟨other, value, id⟩ := waiter
      simp only [admitWaiting]
      split
      next =>
        apply ih
        · rintro ⟨stored, info⟩ hentry
          rcases OrderedMap.mem_entries_set.mp hentry with ⟨rfl, rfl⟩ | ⟨_, hold⟩
          · exact hwaiting _ List.mem_cons_self
          · exact hself _ hold
        · exact fun waiter hwaiter => hwaiting waiter (List.mem_cons_of_mem _ hwaiter)
      next => exact ⟨hself, hwaiting⟩

/-- A deletion keeps a property of the entries. -/
theorem Stores.delete {property : κ → ν → Prop} (hself : Stores property self) (other : κ) :
    Stores property (self.delete other) := by
  unfold BlockingMap.delete
  split
  next =>
    apply stores_admitWaiting
    · intro entry hentry
      exact hself.present _ (OrderedMap.mem_entries_erase.mp hentry).1
    · exact hself.waiting
  next => exact hself

/-- What is there was there before, or has entered since. -/
structure Gains (before after : BlockingMap κ ν) : Prop where
  entered : before.entered <+: after.entered
  present : ∀ entry ∈ after.map.entries,
    entry ∈ before.map.entries ∨ entry ∈ after.entered.drop before.entered.length

omit [DecidableEq κ] in
theorem Gains.refl (self : BlockingMap κ ν) : self.Gains self :=
  ⟨List.prefix_rfl, fun _ hentry => .inl hentry⟩

omit [DecidableEq κ] in
/-- The entries that a list gained on the way are among those it has gained in the end. -/
theorem mem_drop_extend {first second third : List (κ × ν)} {entry : κ × ν}
    (hmore : second <+: third) (hfirst : first.length ≤ second.length) :
    (entry ∈ second.drop first.length → entry ∈ third.drop first.length) ∧
      (entry ∈ third.drop second.length → entry ∈ third.drop first.length) := by
  obtain ⟨more, rfl⟩ := hmore
  constructor
  · intro hentry
    rw [List.drop_append_of_le_length hfirst]
    exact List.mem_append_left _ hentry
  · intro hentry
    rw [List.drop_left] at hentry
    rw [List.drop_append_of_le_length hfirst]
    exact List.mem_append_right _ hentry

omit [DecidableEq κ] in
/-- What two changes gain is gained by both together. -/
theorem Gains.trans {first second third : BlockingMap κ ν} (hfirst : first.Gains second)
    (hsecond : second.Gains third) : first.Gains third := by
  have hmore : ∀ {entry : κ × ν}, _ := fun {entry} =>
    @mem_drop_extend κ ν first.entered second.entered third.entered entry hsecond.entered
      hfirst.entered.length_le
  refine ⟨hfirst.entered.trans hsecond.entered, fun entry hentry => ?_⟩
  rcases hsecond.present entry hentry with hold | hnew
  · exact (hfirst.present entry hold).imp_right hmore.1
  · exact .inr (hmore.2 hnew)

/-- An entry that is put is gained. -/
theorem gains_put (self : BlockingMap κ ν) (other : κ) (value : ν) :
    self.Gains (self.put other value) := by
  refine ⟨List.prefix_append _ _, ?_⟩
  rintro ⟨stored, info⟩ hentry
  rcases OrderedMap.mem_entries_set.mp hentry with ⟨rfl, rfl⟩ | ⟨_, hold⟩
  · refine .inr ?_
    simp [put]
  · exact .inl hold

/-- The setters that are let in gain their entries. -/
theorem gains_admitWaiting (waiting : List (κ × ν × Nat)) (self : BlockingMap κ ν) :
    self.Gains (admitWaiting waiting self) := by
  induction waiting generalizing self with
  | nil => exact ⟨List.prefix_rfl, fun _ hentry => .inl hentry⟩
  | cons waiter rest ih =>
      obtain ⟨other, value, id⟩ := waiter
      simp only [admitWaiting]
      split
      next => exact (gains_put self other value).trans (ih _)
      next => exact ⟨List.prefix_rfl, fun _ hentry => .inl hentry⟩

theorem gains_updateCapacity (self : BlockingMap κ ν) (capacity : ℚ) :
    self.Gains (self.updateCapacity capacity) :=
  have hadmits := gains_admitWaiting self.waitingSetters { self with capacity := capacity }
  ⟨hadmits.entered, hadmits.present⟩

/-- A deletion gains the entries it lets in, and no others. -/
theorem gains_delete (self : BlockingMap κ ν) (other : κ) : self.Gains (self.delete other) := by
  unfold BlockingMap.delete
  split
  next =>
    have hadmits := gains_admitWaiting self.waitingSetters
      { self with map := self.map.erase other }
    refine ⟨hadmits.entered, fun entry hentry => (hadmits.present entry hentry).imp_left ?_⟩
    exact fun hold => (OrderedMap.mem_entries_erase.mp hold).1
  next => exact .refl self

/-! ## Setters wait for room -/

/-- Whoever waits, waits because there is no room, and there is room for one. -/
structure Saturated (whole : BlockingMap κ ν) : Prop where
  full : whole.waitingSetters ≠ [] → whole.hasRoom = false
  capacity : 1 ≤ whole.capacity

omit [DecidableEq κ] in
/-- Nobody waits at an empty map. -/
theorem Saturated.idle (hself : self.Saturated) (hempty : self.size = 0) : self.Idle := by
  refine ⟨OrderedMap.size_eq_zero.mp hempty, ?_⟩
  by_contra hwaiting
  have hfull := hself.full hwaiting
  have hroom : ((self.map.size : Nat) : ℚ) < self.capacity := by
    rw [show self.map.size = 0 from hempty, Nat.cast_zero]
    exact zero_lt_one.trans_le hself.capacity
  simp [hasRoom, hroom] at hfull

/-- Whoever still waits after the others are let in finds no room. -/
theorem saturated_admitWaiting {waiting : List (κ × ν × Nat)} (hcapacity : 1 ≤ self.capacity) :
    (admitWaiting waiting self).Saturated := by
  induction waiting generalizing self with
  | nil => exact ⟨fun h => absurd rfl h, hcapacity⟩
  | cons waiter rest ih =>
      obtain ⟨other, value, id⟩ := waiter
      simp only [admitWaiting]
      split
      next => exact ih hcapacity
      next hroom => exact ⟨fun _ => Bool.eq_false_iff.mpr hroom, hcapacity⟩

/-- A new capacity of at least one lets in all there is room for. -/
theorem saturated_updateCapacity {capacity : ℚ} (hcapacity : 1 ≤ capacity) :
    (self.updateCapacity capacity).Saturated := saturated_admitWaiting hcapacity

/-- A deletion lets in the next one. -/
theorem Saturated.delete (hself : self.Saturated) (other : κ) : (self.delete other).Saturated := by
  unfold BlockingMap.delete
  split
  next => exact saturated_admitWaiting hself.capacity
  next => exact hself

omit [DecidableEq κ] in
/-- A setter waits only where the map is full. -/
theorem Saturated.enqueueSetter (hself : self.Saturated) (hfull : self.hasRoom = false)
    (other : κ) (value : ν) : (self.enqueueSetter other value).Saturated :=
  ⟨fun _ => hfull, hself.capacity⟩

theorem Saturated.update (hself : self.Saturated) (value : ν) (hkey : key ∈ self.map.keys) :
    (self.update key value).Saturated := by
  have hsize : (self.map.set key value).size = self.map.size := by
    rw [OrderedMap.size_set, if_pos hkey]
  refine ⟨fun hwaiting => ?_, hself.capacity⟩
  have hfull := hself.full hwaiting
  unfold hasRoom at hfull ⊢
  rw [← hfull]
  simp only [BlockingMap.update, hsize]

end BlockingMap

end Utp
