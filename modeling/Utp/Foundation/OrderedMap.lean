import Mathlib.Data.List.Nodup
import Mathlib.Tactic.Common

/-! # Finite maps in insertion order

A map that is iterated in the order in which its keys were first inserted:
storing under a present key replaces the value in place, storing under a new
key appends. Every key occurs once, by construction.
-/

universe u v

structure OrderedMap (κ : Type u) (ν : Type v) where
  entries : List (κ × ν)
  nodup : (entries.map Prod.fst).Nodup

namespace OrderedMap

variable {κ : Type u} {ν : Type v}

/-- Maps with the same entries in the same order are equal. -/
@[ext] theorem ext {left right : OrderedMap κ ν} (h : left.entries = right.entries) :
    left = right := by
  cases left
  cases right
  cases h
  rfl

instance [DecidableEq κ] [DecidableEq ν] : DecidableEq (OrderedMap κ ν) := fun left right =>
  decidable_of_iff (left.entries = right.entries) OrderedMap.ext_iff.symm

instance : EmptyCollection (OrderedMap κ ν) := ⟨⟨[], List.nodup_nil⟩⟩

instance : Inhabited (OrderedMap κ ν) := ⟨∅⟩

def keys (map : OrderedMap κ ν) : List κ := map.entries.map Prod.fst

def values (map : OrderedMap κ ν) : List ν := map.entries.map Prod.snd

def size (map : OrderedMap κ ν) : Nat := map.entries.length

theorem keys_nodup (map : OrderedMap κ ν) : map.keys.Nodup := map.nodup

@[simp] theorem keys_empty : (∅ : OrderedMap κ ν).keys = [] := rfl

@[simp] theorem size_empty : (∅ : OrderedMap κ ν).size = 0 := rfl

@[simp] theorem length_keys (map : OrderedMap κ ν) : map.keys.length = map.size := by
  simp [keys, size]

theorem size_eq_zero {map : OrderedMap κ ν} : map.size = 0 ↔ map = ∅ := by
  constructor
  · exact fun h => OrderedMap.ext (List.length_eq_zero_iff.mp h)
  · rintro rfl
    rfl

variable [DecidableEq κ]

def get? (map : OrderedMap κ ν) (key : κ) : Option ν := map.entries.lookup key

def has (map : OrderedMap κ ν) (key : κ) : Bool := decide (key ∈ map.keys)

/-- Replace the value stored under a key, where it stands. -/
def replace (entries : List (κ × ν)) (key : κ) (value : ν) : List (κ × ν) :=
  entries.map fun entry => if entry.1 = key then (key, value) else entry

/-- A value is replaced where it stands. -/
theorem replace_keys (entries : List (κ × ν)) (key : κ) (value : ν) :
    (replace entries key value).map Prod.fst = entries.map Prod.fst := by
  induction entries with
  | nil => rfl
  | cons entry rest ih =>
      simp only [replace, List.map_cons, List.cons.injEq] at ih ⊢
      refine ⟨?_, ih⟩
      split
      next h => exact h.symm
      next => rfl

def set (map : OrderedMap κ ν) (key : κ) (value : ν) : OrderedMap κ ν :=
  if h : key ∈ map.keys then
    { entries := replace map.entries key value
      nodup := by rw [replace_keys]; exact map.nodup }
  else
    { entries := map.entries ++ [(key, value)]
      nodup := by
        rw [List.map_append, List.nodup_append]
        refine ⟨map.nodup, by simp, ?_⟩
        intro other hother last hlast
        simp only [List.map_cons, List.map_nil, List.mem_singleton] at hlast
        subst hlast
        rintro rfl
        exact h hother }

def erase (map : OrderedMap κ ν) (key : κ) : OrderedMap κ ν where
  entries := map.entries.filter fun entry => entry.1 ≠ key
  nodup := map.nodup.sublist (List.Sublist.map _ (List.filter_sublist))

/-! ## Lookup -/

/-- A key is found if and only if some entry has it. -/
theorem lookup_isSome {entries : List (κ × ν)} {key : κ} :
    (entries.lookup key).isSome ↔ key ∈ entries.map Prod.fst := by
  induction entries with
  | nil => simp
  | cons entry rest ih =>
      obtain ⟨first, value⟩ := entry
      by_cases h : key = first
      · subst h
        simp
      · have hbeq : (key == first) = false := by simpa using h
        simp only [List.lookup_cons, hbeq, List.map_cons, List.mem_cons, h, false_or]
        exact ih

/-- `get` finds something if and only if the map has the key. -/
theorem isSome_get? {map : OrderedMap κ ν} {key : κ} :
    (map.get? key).isSome ↔ key ∈ map.keys := lookup_isSome

theorem get?_eq_none {map : OrderedMap κ ν} {key : κ} : map.get? key = none ↔ key ∉ map.keys := by
  rw [← isSome_get?, Option.isSome_iff_ne_none, not_not]

/-- As keys are distinct, the entry that is found is the only one. -/
theorem lookup_eq_some {entries : List (κ × ν)} (hnodup : (entries.map Prod.fst).Nodup)
    {key : κ} {value : ν} : entries.lookup key = some value ↔ (key, value) ∈ entries := by
  induction entries with
  | nil => simp
  | cons entry rest ih =>
      obtain ⟨first, stored⟩ := entry
      obtain ⟨hnot, hrest⟩ := List.nodup_cons.mp hnodup
      by_cases h : key = first
      · subst h
        have hno : ∀ other, (key, other) ∉ rest := fun other hmem =>
          hnot (List.mem_map.mpr ⟨_, hmem, rfl⟩)
        simp [hno, eq_comm]
      · have hbeq : (key == first) = false := by simpa using h
        simp only [List.lookup_cons, hbeq, List.mem_cons, Prod.mk.injEq, h, false_and, false_or]
        exact ih hrest

/-- `get` finds the value that stands under the key. -/
theorem get?_eq_some {map : OrderedMap κ ν} {key : κ} {value : ν} :
    map.get? key = some value ↔ (key, value) ∈ map.entries := lookup_eq_some map.nodup

theorem mem_keys_of_get? {map : OrderedMap κ ν} {key : κ} {value : ν}
    (h : map.get? key = some value) : key ∈ map.keys := isSome_get?.mp (by simp [h])

theorem exists_get? {map : OrderedMap κ ν} {key : κ} (h : key ∈ map.keys) :
    ∃ value, map.get? key = some value := Option.isSome_iff_exists.mp (isSome_get?.mpr h)

@[simp] theorem get?_empty (key : κ) : (∅ : OrderedMap κ ν).get? key = none := rfl

/-! ## Updates -/

/-- A new key comes last, and a known one stays where it is. -/
theorem keys_set (map : OrderedMap κ ν) (key : κ) (value : ν) :
    (map.set key value).keys = if key ∈ map.keys then map.keys else map.keys ++ [key] := by
  unfold set
  split
  next h => exact replace_keys _ _ _
  next h => simp [keys]

@[simp] theorem mem_keys_set {map : OrderedMap κ ν} {key other : κ} {value : ν} :
    other ∈ (map.set key value).keys ↔ other ∈ map.keys ∨ other = key := by
  rw [keys_set]
  split
  next h =>
    constructor
    · exact .inl
    · rintro (hmem | rfl)
      · exact hmem
      · exact h
  next => simp

/-- `set` overwrites the entry under the key and leaves the others. -/
theorem mem_entries_set {map : OrderedMap κ ν} {key other : κ} {value stored : ν} :
    (other, stored) ∈ (map.set key value).entries ↔
      (other = key ∧ stored = value) ∨ (other ≠ key ∧ (other, stored) ∈ map.entries) := by
  unfold set
  split
  next h =>
    simp only [replace, List.mem_map]
    constructor
    · rintro ⟨⟨first, old⟩, hmem, heq⟩
      split at heq
      next => exact .inl (by simpa [eq_comm] using heq)
      next hne =>
        cases heq
        exact .inr ⟨hne, hmem⟩
    · rintro (⟨rfl, rfl⟩ | ⟨hne, hmem⟩)
      · obtain ⟨entry, hentry, hkey⟩ := List.mem_map.mp h
        exact ⟨entry, hentry, by simp [hkey]⟩
      · exact ⟨_, hmem, by simp [hne]⟩
  next h =>
    simp only [List.mem_append, List.mem_singleton, Prod.mk.injEq]
    constructor
    · rintro (hmem | heq)
      · refine .inr ⟨?_, hmem⟩
        rintro rfl
        exact h (List.mem_map.mpr ⟨_, hmem, rfl⟩)
      · exact .inl heq
    · tauto

/-- `set` is seen under its own key only. -/
@[simp] theorem get?_set (map : OrderedMap κ ν) (key other : κ) (value : ν) :
    (map.set key value).get? other = if other = key then some value else map.get? other := by
  ext stored
  rw [get?_eq_some, mem_entries_set]
  split
  next h => simp [h, eq_comm]
  next h => simp [h, get?_eq_some]

/-- A known key does not make the map larger. -/
theorem size_set (map : OrderedMap κ ν) (key : κ) (value : ν) :
    (map.set key value).size = if key ∈ map.keys then map.size else map.size + 1 := by
  rw [← length_keys, keys_set]
  split <;> simp

theorem keys_erase (map : OrderedMap κ ν) (key : κ) :
    (map.erase key).keys = map.keys.filter (· ≠ key) := by
  simp only [keys, erase, List.filter_map]
  rfl

@[simp] theorem mem_keys_erase {map : OrderedMap κ ν} {key other : κ} :
    other ∈ (map.erase key).keys ↔ other ∈ map.keys ∧ other ≠ key := by
  simp [keys_erase]

theorem mem_entries_erase {map : OrderedMap κ ν} {key : κ} {entry : κ × ν} :
    entry ∈ (map.erase key).entries ↔ entry ∈ map.entries ∧ entry.1 ≠ key := by
  simp [erase]

/-- A key that is deleted is not found any more. -/
@[simp] theorem get?_erase (map : OrderedMap κ ν) (key other : κ) :
    (map.erase key).get? other = if other = key then none else map.get? other := by
  ext stored
  rw [get?_eq_some, mem_entries_erase]
  split
  next h => simp [h]
  next h => simp [h, get?_eq_some]

/-- Deleting an unknown key changes nothing. -/
theorem erase_eq_self {map : OrderedMap κ ν} {key : κ} (h : key ∉ map.keys) :
    map.erase key = map := by
  apply OrderedMap.ext
  simp only [erase, List.filter_eq_self, decide_eq_true_eq]
  rintro entry hentry rfl
  exact h (List.mem_map.mpr ⟨_, hentry, rfl⟩)

/-- A deletion takes one entry, if there is one. -/
theorem size_erase (map : OrderedMap κ ν) (key : κ) :
    (map.erase key).size = if key ∈ map.keys then map.size - 1 else map.size := by
  split
  next h =>
    have hlength : (map.keys.erase key).length = map.keys.length - 1 :=
      List.length_erase_of_mem h
    rw [List.Nodup.erase_eq_filter map.keys_nodup] at hlength
    rw [← length_keys, keys_erase, ← length_keys, ← hlength]
    congr 1
    apply List.filter_congr
    intro other _
    by_cases hother : other = key <;> simp [hother]
  next h => rw [erase_eq_self h]

theorem size_erase_le (map : OrderedMap κ ν) (key : κ) : (map.erase key).size ≤ map.size := by
  rw [size_erase]
  split <;> omega

/-! ## Erasing several keys -/

def eraseAll (map : OrderedMap κ ν) (keys : List κ) : OrderedMap κ ν := keys.foldl erase map

theorem eraseAll_append (map : OrderedMap κ ν) (keys more : List κ) :
    map.eraseAll (keys ++ more) = (map.eraseAll keys).eraseAll more := List.foldl_append

@[simp] theorem mem_keys_eraseAll {map : OrderedMap κ ν} {keys : List κ} {other : κ} :
    other ∈ (map.eraseAll keys).keys ↔ other ∈ map.keys ∧ other ∉ keys := by
  induction keys generalizing map with
  | nil => simp [eraseAll]
  | cons key rest ih =>
      have := @ih (map.erase key)
      simp only [eraseAll, List.foldl_cons, mem_keys_erase, List.mem_cons, not_or] at this ⊢
      rw [this, and_assoc]

/-- The keys that are deleted are not found any more, and the others are. -/
theorem get?_eraseAll (map : OrderedMap κ ν) (keys : List κ) (other : κ) :
    (map.eraseAll keys).get? other = if other ∈ keys then none else map.get? other := by
  induction keys generalizing map with
  | nil => simp [eraseAll]
  | cons key rest ih =>
      have := ih (map.erase key)
      simp only [eraseAll, List.foldl_cons, get?_erase, List.mem_cons] at this ⊢
      rw [this]
      by_cases hkey : other = key <;> by_cases hrest : other ∈ rest <;> simp [hkey, hrest]

/-- Each key that is deleted takes one entry. -/
theorem size_eraseAll {map : OrderedMap κ ν} {keys : List κ} (hnodup : keys.Nodup)
    (hkeys : ∀ key ∈ keys, key ∈ map.keys) :
    (map.eraseAll keys).size + keys.length = map.size := by
  induction keys generalizing map with
  | nil => simp [eraseAll]
  | cons key rest ih =>
      rw [List.nodup_cons] at hnodup
      have hrest := @ih (map.erase key) hnodup.2 fun other hother =>
        mem_keys_erase.mpr ⟨hkeys other (List.mem_cons_of_mem _ hother),
          fun h => hnodup.1 (h ▸ hother)⟩
      have hkey := hkeys key List.mem_cons_self
      have hpos : 0 < map.size := by
        rw [← length_keys]
        exact List.length_pos_of_mem hkey
      have hsize := map.size_erase key
      rw [if_pos hkey] at hsize
      simp only [eraseAll, List.foldl_cons, List.length_cons] at hrest ⊢
      omega

/-! ## Sums over the values -/

omit [DecidableEq κ] in
theorem entries_nodup (map : OrderedMap κ ν) : map.entries.Nodup := .of_map _ map.nodup

/-- An entry next to the other keys. -/
theorem nodup_cons_erase (map : OrderedMap κ ν) (key : κ) (value : ν) :
    ((key, value) :: (map.erase key).entries).Nodup :=
  List.nodup_cons.mpr ⟨fun hmem => (mem_entries_erase.mp hmem).2 rfl, entries_nodup _⟩

/-- But for their order, the entries are one and the others. -/
theorem entries_perm {map : OrderedMap κ ν} {key : κ} {value : ν}
    (hget : map.get? key = some value) :
    map.entries.Perm ((key, value) :: (map.erase key).entries) := by
  apply (List.perm_ext_iff_of_nodup map.entries_nodup (map.nodup_cons_erase key value)).mpr
  rintro ⟨other, stored⟩
  rw [List.mem_cons, mem_entries_erase]
  constructor
  · intro hentry
    by_cases hother : other = key
    · subst hother
      rw [get?_eq_some.mpr hentry] at hget
      exact .inl (by rw [Option.some.inj hget])
    · exact .inr ⟨hentry, hother⟩
  · rintro (hsame | ⟨hentry, -⟩)
    · cases hsame
      exact get?_eq_some.mp hget
    · exact hentry

/-- But for their order, the entries after `set` are the new one and the others. -/
theorem entries_set_perm (map : OrderedMap κ ν) (key : κ) (value : ν) :
    (map.set key value).entries.Perm ((key, value) :: (map.erase key).entries) := by
  apply (List.perm_ext_iff_of_nodup (entries_nodup _) (map.nodup_cons_erase key value)).mpr
  rintro ⟨other, stored⟩
  rw [List.mem_cons, mem_entries_erase, mem_entries_set, Prod.mk.injEq]
  exact or_congr Iff.rfl and_comm

/-- The values, each with its weight, taken together. -/
def total (weight : ν → Nat) (map : OrderedMap κ ν) : Nat :=
  map.entries.foldr (fun entry sum => weight entry.2 + sum) 0

section Total

variable {weight : ν → Nat} {map : OrderedMap κ ν} {key : κ} {value : ν}

omit [DecidableEq κ] in
/-- Weights that agree on the values in the map have the same total. -/
theorem total_congr {other : ν → Nat}
    (hsame : ∀ entry ∈ map.entries, weight entry.2 = other entry.2) :
    map.total weight = map.total other :=
  List.foldr_ext _ _ _ fun entry hentry sum => by rw [hsame entry hentry]

omit [DecidableEq κ] in
/-- The order of the entries does not count. -/
theorem total_of_perm {rest : OrderedMap κ ν}
    (hperm : map.entries.Perm ((key, value) :: rest.entries)) :
    map.total weight = rest.total weight + weight value := by
  have hsum := hperm.foldr_eq' (f := fun entry sum => weight entry.2 + sum)
    (fun _ _ _ _ _ => Nat.add_left_comm _ _ _) 0
  rw [List.foldr_cons, Nat.add_comm] at hsum
  exact hsum

/-- The total is that of one value and of the others. -/
theorem total_of_get (hget : map.get? key = some value) :
    map.total weight = (map.erase key).total weight + weight value :=
  total_of_perm (entries_perm hget)

/-- After `set` the total is that of the new value and of the others. -/
theorem total_set :
    (map.set key value).total weight = (map.erase key).total weight + weight value :=
  total_of_perm (map.entries_set_perm key value)

theorem total_erase_le : (map.erase key).total weight ≤ map.total weight := by
  cases hget : map.get? key with
  | none =>
      apply Nat.le_of_eq
      rw [erase_eq_self (get?_eq_none.mp hget)]
  | some value =>
      rw [total_of_get hget]
      exact Nat.le_add_right _ _

omit [DecidableEq κ] in
/-- No total exceeds what so many values can weigh. -/
theorem total_le {bound : Nat} (hbound : ∀ entry ∈ map.entries, weight entry.2 ≤ bound) :
    map.total weight ≤ bound * map.size := by
  unfold total size
  generalize map.entries = entries at hbound
  induction entries with
  | nil => exact Nat.zero_le _
  | cons entry rest ih =>
      obtain ⟨hfirst, hrest⟩ := List.forall_mem_cons.mp hbound
      have hsum := ih hrest
      rw [List.foldr_cons, List.length_cons, Nat.mul_succ]
      omega

end Total

end OrderedMap
