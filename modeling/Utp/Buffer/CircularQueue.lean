import Mathlib.Data.List.Sort
import Mathlib.Order.MinMax
import Utp.Foundation.OrderedMap

/-! # The reorder queue

A bounded map from sequence numbers to packets. A new key that finds the queue
full evicts the smallest key, which is the tracked `oldestKey`. The
representation invariant is part of the type.
-/

namespace Utp

structure CircularQueue (α : Type) where
  capacity : Nat
  items : OrderedMap Nat α
  oldestKey : Option Nat
  oldest_eq : oldestKey = items.keys.min?
  capacity_pos : 0 < capacity
  bounded : items.size ≤ capacity

namespace CircularQueue

variable {α : Type}

@[ext] theorem ext {left right : CircularQueue α} (hcapacity : left.capacity = right.capacity)
    (hitems : left.items = right.items) : left = right := by
  obtain ⟨_, _, _, holdest, _, _⟩ := left
  obtain ⟨_, _, _, holdest', _, _⟩ := right
  simp only at hcapacity hitems
  subst hcapacity hitems holdest holdest'
  rfl

def create (capacity : Nat) (hpos : 0 < capacity) : CircularQueue α :=
  ⟨capacity, ∅, none, rfl, hpos, Nat.zero_le _⟩

def size (queue : CircularQueue α) : Nat := queue.items.size

/-- The keys in ascending order. -/
def keys (queue : CircularQueue α) : List Nat := queue.items.keys.insertionSort (· ≤ ·)

def has (queue : CircularQueue α) (key : Nat) : Bool := queue.items.has key

def isAtCapacity (queue : CircularQueue α) : Bool := queue.capacity ≤ queue.items.size

theorem mem_keys {queue : CircularQueue α} {key : Nat} :
    key ∈ queue.keys ↔ key ∈ queue.items.keys := List.mem_insertionSort _

theorem keys_sorted (queue : CircularQueue α) : queue.keys.Pairwise (· < ·) := by
  have hsorted : queue.keys.Pairwise (· ≤ ·) := List.pairwise_insertionSort _ _
  have hnodup : queue.keys.Nodup :=
    (List.perm_insertionSort _ _).nodup_iff.mpr queue.items.keys_nodup
  exact (hsorted.and hnodup).imp fun h => lt_of_le_of_ne h.1 h.2

theorem length_keys (queue : CircularQueue α) : queue.keys.length = queue.size := by
  rw [keys, List.length_insertionSort, OrderedMap.length_keys, size]

theorem oldestKey_eq_some {queue : CircularQueue α} {key : Nat} :
    queue.oldestKey = some key ↔ key ∈ queue.items.keys ∧ ∀ other ∈ queue.items.keys,
      key ≤ other := by
  rw [queue.oldest_eq, List.min?_eq_some_iff]

/-- A full queue has an oldest key, since its capacity is positive. -/
theorem exists_oldestKey {queue : CircularQueue α} (hfull : queue.capacity ≤ queue.size) :
    ∃ key, queue.oldestKey = some key := by
  rw [← Option.isSome_iff_exists, queue.oldest_eq, List.isSome_min?_iff]
  intro hempty
  have hpos := queue.capacity_pos
  have hlength := queue.items.length_keys
  rw [hempty] at hlength
  simp only [size, List.length_nil] at hfull hlength
  omega

/-- The items left after making room for a new key. -/
def makeRoom (queue : CircularQueue α) : OrderedMap Nat α :=
  if queue.isAtCapacity then
    match queue.oldestKey with
    | some oldest => queue.items.erase oldest
    | none => queue.items
  else queue.items

theorem makeRoom_size_lt (queue : CircularQueue α) : queue.makeRoom.size < queue.capacity := by
  have hpos := queue.capacity_pos
  have hbounded := queue.bounded
  unfold makeRoom isAtCapacity
  split
  next hfull =>
    simp only [decide_eq_true_eq] at hfull
    obtain ⟨oldest, holdest⟩ := exists_oldestKey hfull
    rw [holdest]
    simp only [OrderedMap.size_erase, (oldestKey_eq_some.mp holdest).1, if_true]
    omega
  next hroom =>
    simp only [decide_eq_true_eq] at hroom
    omega

def enqueue (queue : CircularQueue α) (key : Nat) (item : α) : CircularQueue α :=
  if hpresent : key ∈ queue.items.keys then
    { queue with
      items := queue.items.set key item
      oldest_eq := by rw [OrderedMap.keys_set, if_pos hpresent]; exact queue.oldest_eq
      bounded := by rw [OrderedMap.size_set, if_pos hpresent]; exact queue.bounded }
  else
    { capacity := queue.capacity
      items := queue.makeRoom.set key item
      oldestKey := (queue.makeRoom.set key item).keys.min?
      oldest_eq := rfl
      capacity_pos := queue.capacity_pos
      bounded := by
        have hroom := queue.makeRoom_size_lt
        rw [OrderedMap.size_set]
        split <;> omega }

/-- Dropping a key other than the least leaves the least. -/
theorem min?_filter_ne {κ : Type} [LinearOrder κ] {keys : List κ} {key : κ}
    (hkey : some key ≠ keys.min?) :
    (keys.filter (· ≠ key)).min? = keys.min? := by
  cases hmin : keys.min? with
  | none =>
      rw [List.min?_eq_none_iff] at hmin
      simp [hmin]
  | some least =>
      rw [hmin] at hkey
      rw [List.min?_eq_some_iff] at hmin ⊢
      have hne : least ≠ key := fun h => hkey (congrArg some h.symm)
      refine ⟨by simpa using ⟨hmin.1, hne⟩, fun other hother => ?_⟩
      exact hmin.2 other (List.mem_of_mem_filter hother)

/-- Take the item stored under a key out of the queue. -/
def dequeueByKey (queue : CircularQueue α) (key : Nat) : Option α × CircularQueue α :=
  match queue.items.get? key with
  | none => (none, queue)
  | some item =>
      (some item,
        { capacity := queue.capacity
          items := queue.items.erase key
          oldestKey := if some key = queue.oldestKey then (queue.items.erase key).keys.min?
            else queue.oldestKey
          oldest_eq := by
            split
            next => rfl
            next h => rw [OrderedMap.keys_erase, min?_filter_ne (queue.oldest_eq ▸ h),
                queue.oldest_eq]
          capacity_pos := queue.capacity_pos
          bounded := (queue.items.size_erase_le key).trans queue.bounded })

def clear (queue : CircularQueue α) : CircularQueue α :=
  ⟨queue.capacity, ∅, none, rfl, queue.capacity_pos, Nat.zero_le _⟩

/-! ## What the operations do to the stored items -/

@[simp] theorem create_items (capacity : Nat) (hpos : 0 < capacity) :
    (create capacity hpos : CircularQueue α).items = ∅ := rfl

@[simp] theorem create_capacity (capacity : Nat) (hpos : 0 < capacity) :
    (create capacity hpos : CircularQueue α).capacity = capacity := rfl

@[simp] theorem clear_items (queue : CircularQueue α) : queue.clear.items = ∅ := rfl

@[simp] theorem clear_capacity (queue : CircularQueue α) :
    queue.clear.capacity = queue.capacity := rfl

@[simp] theorem enqueue_capacity (queue : CircularQueue α) (key : Nat) (item : α) :
    (queue.enqueue key item).capacity = queue.capacity := by
  unfold enqueue
  split <;> rfl

theorem enqueue_of_room {queue : CircularQueue α} (key : Nat) (item : α)
    (h : key ∈ queue.items.keys ∨ queue.size < queue.capacity) :
    (queue.enqueue key item).items = queue.items.set key item := by
  unfold enqueue
  split
  next => rfl
  next hnew =>
    have hroom : queue.size < queue.capacity := h.resolve_left hnew
    have hnotFull : ¬ queue.capacity ≤ queue.items.size := Nat.not_le.mpr hroom
    simp [makeRoom, isAtCapacity, hnotFull]

theorem enqueue_of_full {queue : CircularQueue α} {key oldest : Nat} (item : α)
    (hnew : key ∉ queue.items.keys) (hfull : queue.capacity ≤ queue.size)
    (holdest : queue.oldestKey = some oldest) :
    (queue.enqueue key item).items = (queue.items.erase oldest).set key item := by
  have hfull' : queue.capacity ≤ queue.items.size := hfull
  simp [enqueue, hnew, makeRoom, isAtCapacity, hfull', holdest]

/-- Whatever is in the queue after an enqueue is the new item or was there. -/
theorem mem_entries_enqueue {queue : CircularQueue α} {key other : Nat} {item stored : α}
    (h : (other, stored) ∈ (queue.enqueue key item).items.entries) :
    (other = key ∧ stored = item) ∨ (other ≠ key ∧ (other, stored) ∈ queue.items.entries) := by
  unfold enqueue at h
  split at h
  next => exact OrderedMap.mem_entries_set.mp h
  next =>
    refine (OrderedMap.mem_entries_set.mp h).imp_right fun hold => ⟨hold.1, ?_⟩
    have hroom := hold.2
    unfold makeRoom at hroom
    split at hroom
    next =>
      split at hroom
      next => exact (OrderedMap.mem_entries_erase.mp hroom).1
      next => exact hroom
    next => exact hroom

@[simp] theorem dequeueByKey_fst (queue : CircularQueue α) (key : Nat) :
    (queue.dequeueByKey key).1 = queue.items.get? key := by
  unfold dequeueByKey
  split <;> simp_all

@[simp] theorem dequeueByKey_items (queue : CircularQueue α) (key : Nat) :
    (queue.dequeueByKey key).2.items = queue.items.erase key := by
  unfold dequeueByKey
  split
  next h => exact (OrderedMap.erase_eq_self (OrderedMap.get?_eq_none.mp h)).symm
  next => rfl

@[simp] theorem dequeueByKey_capacity (queue : CircularQueue α) (key : Nat) :
    (queue.dequeueByKey key).2.capacity = queue.capacity := by
  unfold dequeueByKey
  split <;> rfl

end CircularQueue

end Utp
