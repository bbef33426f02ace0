import Mathlib.Data.Set.Card
import Utp.Buffer.CircularQueue

/-! # Eviction by the tracked key

A map of bounded size that makes room by dropping its least key, first as what
it is for, then as the queue keeps it: three fields, the tracked key among them,
written on some paths only. The fields stand here on their own, for keys of any
linear order; that they belong together is a fact about runs.
-/

namespace Utp

namespace Eviction

variable {κ α : Type}

inductive Request (κ α : Type) where
  | enqueue (key : κ) (item : α)
  | dequeueByKey (key : κ)
  | clear

/-! ## Bounded maps -/

/-- The keys a map has an item for. -/
def present (stored : κ → Option α) : Set κ :=
  {key | stored key ≠ none}

/-- One request to a map that holds at most `capacity` keys: what is handed out,
and the map after it. Only a new key at a full map evicts, and it evicts the
least key. -/
inductive Performs [LinearOrder κ] (capacity : Nat) (stored : κ → Option α) :
    Request κ α → Option α → (κ → Option α) → Prop
  | replace {key item} : stored key ≠ none →
      Performs capacity stored (.enqueue key item) none (Function.update stored key (some item))
  | insert {key item} : stored key = none → (present stored).encard < capacity →
      Performs capacity stored (.enqueue key item) none (Function.update stored key (some item))
  | evict {key item least} : stored key = none → (present stored).encard = capacity →
      IsLeast (present stored) least →
      Performs capacity stored (.enqueue key item) none
        (Function.update (Function.update stored least none) key (some item))
  | dequeue {key} :
      Performs capacity stored (.dequeueByKey key) (stored key) (Function.update stored key none)
  | clear : Performs capacity stored .clear none (fun _ => none)

/-- The item last put in under a key, unless it was taken out or cleared since. -/
def renew [DecidableEq κ] (key : κ) (item : Option α) : Request κ α → Option α
  | .enqueue other fresh => if key = other then some fresh else item
  | .dequeueByKey other => if key = other then none else item
  | .clear => none

def lastItem [DecidableEq κ] (requests : List (Request κ α)) (key : κ) : Option α :=
  requests.foldl (renew key) none

/-- What a map holds is renewed by each request, or evicted by it. -/
theorem Performs.renewed [LinearOrder κ] {capacity : Nat} {stored stored' : κ → Option α}
    {request : Request κ α} {output : Option α}
    (h : Performs capacity stored request output stored') (key : κ) :
    stored' key = none ∨ stored' key = renew key (stored key) request := by
  cases h with
  | replace | insert | dequeue =>
    right
    simp [renew, Function.update_apply]
  | @evict other item least =>
    by_cases hkey : key = other
    · right
      simp [renew, hkey]
    · by_cases hleast : key = least
      · left
        rw [Function.update_of_ne hkey, hleast, Function.update_self]
      · right
        simp [renew, hkey, hleast]
  | clear =>
    left
    rfl

/-! ## The fields of the queue -/

structure Fields (κ α : Type) where
  capacity : Nat
  items : OrderedMap κ α
  oldestKey : Option κ

namespace Fields

variable [LinearOrder κ]

def create (capacity : Nat) : Fields κ α :=
  ⟨capacity, ∅, none⟩

def size (queue : Fields κ α) : Nat := queue.items.size

def has (queue : Fields κ α) (key : κ) : Bool := queue.items.has key

def isAtCapacity (queue : Fields κ α) : Bool := queue.capacity ≤ queue.items.size

def isEmpty (queue : Fields κ α) : Bool := queue.items.size = 0

/-- Find the oldest key. -/
def updateOldestKey (queue : Fields κ α) : Fields κ α :=
  if queue.isEmpty then { queue with oldestKey := none }
  else { queue with oldestKey := queue.items.keys.min? }

def enqueue (queue : Fields κ α) (key : κ) (item : α) : Fields κ α :=
  if queue.items.has key then { queue with items := queue.items.set key item }
  else
    let items :=
      if queue.isAtCapacity then
        match queue.oldestKey with
        | some oldest => queue.items.erase oldest
        | none => queue.items
      else queue.items
    updateOldestKey { queue with items := items.set key item }

def dequeueByKey (queue : Fields κ α) (key : κ) : Option α × Fields κ α :=
  match queue.items.get? key with
  | none => (none, queue)
  | some item =>
      let left := { queue with items := queue.items.erase key }
      (some item, if some key = queue.oldestKey then left.updateOldestKey else left)

def clear (queue : Fields κ α) : Fields κ α :=
  { queue with items := ∅, oldestKey := none }

/-- What the queue holds under each key. -/
def lookup (queue : Fields κ α) : κ → Option α := queue.items.get?

/-- Serve one request. -/
def serve (queue : Fields κ α) : Request κ α → Option α × Fields κ α
  | .enqueue key item => (none, queue.enqueue key item)
  | .dequeueByKey key => queue.dequeueByKey key
  | .clear => (none, queue.clear)

/-- The queue after a list of requests. -/
def run (capacity : Nat) (requests : List (Request κ α)) : Fields κ α :=
  requests.foldl (fun queue request => (queue.serve request).2) (create capacity)

/-- The tracked key is the least one, and the queue keeps its bound. -/
structure Tracked (queue : Fields κ α) : Prop where
  oldest : queue.oldestKey = queue.items.keys.min?
  positive : 0 < queue.capacity
  bounded : queue.items.size ≤ queue.capacity

/-! ## What is stored -/

theorem lookup_ne_none {queue : Fields κ α} {key : κ} :
    queue.lookup key ≠ none ↔ key ∈ queue.items.keys := by
  rw [lookup, ne_eq, OrderedMap.get?_eq_none, not_not]

theorem present_lookup (queue : Fields κ α) :
    present queue.lookup = {key | key ∈ queue.items.keys} := by
  ext key
  exact lookup_ne_none

theorem encard_present (queue : Fields κ α) :
    (present queue.lookup).encard = queue.items.size := by
  have hkeys : present queue.lookup = ↑queue.items.keys.toFinset := by
    ext key
    simp [present_lookup]
  rw [hkeys, Set.encard_coe_eq_coe_finsetCard,
    List.toFinset_card_of_nodup queue.items.keys_nodup, OrderedMap.length_keys]

theorem get?_set_eq (items : OrderedMap κ α) (key : κ) (item : α) :
    (items.set key item).get? = Function.update items.get? key (some item) := by
  funext other
  rw [OrderedMap.get?_set, Function.update_apply]

theorem get?_erase_eq (items : OrderedMap κ α) (key : κ) :
    (items.erase key).get? = Function.update items.get? key none := by
  funext other
  rw [OrderedMap.get?_erase, Function.update_apply]

/-! ## What each operation does -/

theorem updateOldestKey_eq (queue : Fields κ α) :
    queue.updateOldestKey = { queue with oldestKey := queue.items.keys.min? } := by
  unfold updateOldestKey isEmpty
  split
  next hempty =>
    have hitems : queue.items = ∅ := OrderedMap.size_eq_zero.mp (by simpa using hempty)
    simp [hitems]
  next => rfl

theorem Tracked.isLeast {queue : Fields κ α} (h : queue.Tracked) (least : κ) :
    queue.oldestKey = some least ↔ IsLeast (present queue.lookup) least := by
  rw [h.oldest, List.min?_eq_some_iff, present_lookup]
  rfl

theorem Tracked.isEmpty {queue : Fields κ α} (h : queue.Tracked) :
    queue.oldestKey = none ↔ present queue.lookup = ∅ := by
  rw [h.oldest, List.min?_eq_none_iff, present_lookup, List.eq_nil_iff_forall_not_mem,
    Set.eq_empty_iff_forall_notMem]
  rfl

/-- A full queue tracks a key. -/
theorem Tracked.exists_oldest {queue : Fields κ α} (h : queue.Tracked)
    (hfull : queue.capacity ≤ queue.items.size) : ∃ oldest, queue.oldestKey = some oldest := by
  rw [← Option.isSome_iff_exists, h.oldest, List.isSome_min?_iff]
  intro hempty
  have hlength := queue.items.length_keys
  rw [hempty, List.length_nil] at hlength
  have hpos := h.positive
  omega

/-- The three ways in: over an item, into a free place, into the place of the
oldest key. -/
theorem Tracked.enqueue_cases {queue : Fields κ α} (h : queue.Tracked) (key : κ) (item : α) :
    (key ∈ queue.items.keys ∧
      queue.enqueue key item = { queue with items := queue.items.set key item }) ∨
    (key ∉ queue.items.keys ∧ queue.items.size < queue.capacity ∧
      queue.enqueue key item = ⟨queue.capacity, queue.items.set key item,
        (queue.items.set key item).keys.min?⟩) ∨
    (key ∉ queue.items.keys ∧ queue.items.size = queue.capacity ∧
      ∃ oldest, queue.oldestKey = some oldest ∧
        queue.enqueue key item = ⟨queue.capacity, (queue.items.erase oldest).set key item,
          ((queue.items.erase oldest).set key item).keys.min?⟩) := by
  by_cases hkey : key ∈ queue.items.keys
  · left
    simp [enqueue, OrderedMap.has, hkey]
  · by_cases hroom : queue.items.size < queue.capacity
    · right
      left
      have hopen : ¬ queue.capacity ≤ queue.items.size := Nat.not_le.mpr hroom
      simp [enqueue, OrderedMap.has, hkey, isAtCapacity, hroom, hopen, updateOldestKey_eq]
    · right
      right
      have hfull : queue.capacity ≤ queue.items.size := Nat.le_of_not_lt hroom
      obtain ⟨oldest, holdest⟩ := h.exists_oldest hfull
      refine ⟨hkey, le_antisymm h.bounded hfull, oldest, holdest, ?_⟩
      simp [enqueue, OrderedMap.has, hkey, isAtCapacity, hfull, holdest, updateOldestKey_eq]

/-- Taking out another key than the oldest leaves the tracked key right. -/
theorem Tracked.dequeueByKey_eq {queue : Fields κ α} (h : queue.Tracked) (key : κ) :
    queue.dequeueByKey key =
      (queue.lookup key, ⟨queue.capacity, queue.items.erase key,
        (queue.items.erase key).keys.min?⟩) := by
  unfold dequeueByKey
  split
  next hnone =>
    have hitems := OrderedMap.erase_eq_self (OrderedMap.get?_eq_none.mp hnone)
    rw [hitems, ← h.oldest, lookup, hnone]
  next item hitem =>
    rw [lookup, hitem]
    by_cases holdest : some key = queue.oldestKey
    · simp [holdest, updateOldestKey_eq]
    · have hother : some key ≠ queue.items.keys.min? := by rwa [← h.oldest]
      have hmin : (queue.items.erase key).keys.min? = queue.oldestKey := by
        rw [OrderedMap.keys_erase, CircularQueue.min?_filter_ne hother, h.oldest]
      simp [holdest, hmin]

/-! ## Every run -/

theorem tracked_create {capacity : Nat} (hcapacity : 1 ≤ capacity) :
    (create capacity : Fields κ α).Tracked := by
  constructor
  · rfl
  · exact hcapacity
  · exact Nat.zero_le _

/-- One request keeps the tracked key and the bound. -/
theorem Tracked.serve {queue : Fields κ α} (h : queue.Tracked) (request : Request κ α) :
    (queue.serve request).2.Tracked ∧ (queue.serve request).2.capacity = queue.capacity := by
  have hbounded := h.bounded
  have hpos := h.positive
  cases request with
  | enqueue key item =>
    rcases h.enqueue_cases key item with ⟨hkey, heq⟩ | ⟨hkey, hroom, heq⟩ |
      ⟨hkey, hfull, oldest, holdest, heq⟩
    · simp only [Fields.serve, heq, and_true]
      constructor
      · simpa [OrderedMap.keys_set, hkey] using h.oldest
      · exact hpos
      · simpa [OrderedMap.size_set, hkey] using hbounded
    · simp only [Fields.serve, heq, and_true]
      refine ⟨rfl, hpos, ?_⟩
      simpa [OrderedMap.size_set, hkey] using hroom
    · -- The oldest key is among the keys, so its place becomes free.
      have hmem : oldest ∈ queue.items.keys := by
        rw [h.oldest, List.min?_eq_some_iff] at holdest
        exact holdest.1
      have hkey' : key ∉ (queue.items.erase oldest).keys := by simp [hkey]
      simp only [Fields.serve, heq, and_true]
      refine ⟨rfl, hpos, ?_⟩
      simp only [OrderedMap.size_set, hkey', if_false, OrderedMap.size_erase, hmem, if_true]
      omega
  | dequeueByKey key =>
    simp only [Fields.serve, h.dequeueByKey_eq, and_true]
    exact ⟨rfl, hpos, (queue.items.size_erase_le key).trans hbounded⟩
  | clear =>
    refine ⟨⟨rfl, hpos, Nat.zero_le _⟩, rfl⟩

/-- One request does to what is stored what it does to a bounded map. -/
theorem Tracked.performs {queue : Fields κ α} (h : queue.Tracked) (request : Request κ α) :
    Performs queue.capacity queue.lookup request (queue.serve request).1
      (queue.serve request).2.lookup := by
  cases request with
  | enqueue key item =>
    rcases h.enqueue_cases key item with ⟨hkey, heq⟩ | ⟨hkey, hroom, heq⟩ |
      ⟨hkey, hfull, oldest, holdest, heq⟩
    · simp only [Fields.serve, heq, lookup, get?_set_eq]
      exact Performs.replace (lookup_ne_none.mpr hkey)
    · have hnone : queue.lookup key = none := OrderedMap.get?_eq_none.mpr hkey
      simp only [Fields.serve, heq, lookup, get?_set_eq]
      apply Performs.insert hnone
      rw [encard_present]
      exact_mod_cast hroom
    · have hnone : queue.lookup key = none := OrderedMap.get?_eq_none.mpr hkey
      simp only [Fields.serve, heq, lookup, get?_set_eq, get?_erase_eq]
      apply Performs.evict hnone
      · rw [encard_present, hfull]
      · exact (h.isLeast oldest).mp holdest
  | dequeueByKey key =>
    simp only [Fields.serve, h.dequeueByKey_eq, lookup, get?_erase_eq]
    exact Performs.dequeue
  | clear => exact Performs.clear

theorem run_snoc (capacity : Nat) (requests : List (Request κ α)) (request : Request κ α) :
    run capacity (requests ++ [request]) = ((run capacity requests).serve request).2 := by
  simp [run]

theorem run_tracked {capacity : Nat} (hcapacity : 1 ≤ capacity) (requests : List (Request κ α)) :
    (run capacity requests).Tracked ∧ (run capacity requests).capacity = capacity := by
  induction requests using List.reverseRecOn with
  | nil => exact ⟨tracked_create hcapacity, rfl⟩
  | append_singleton requests request ih =>
    obtain ⟨htracked, hcap⟩ := ih
    rw [run_snoc]
    exact ⟨(htracked.serve request).1, (htracked.serve request).2.trans hcap⟩

/-- A key holds the item last put in under it, or nothing. -/
theorem run_lookup {capacity : Nat} (hcapacity : 1 ≤ capacity) (requests : List (Request κ α))
    (key : κ) :
    (run capacity requests).lookup key = none ∨
      (run capacity requests).lookup key = lastItem requests key := by
  induction requests using List.reverseRecOn with
  | nil =>
    left
    rfl
  | append_singleton requests request ih =>
    have hrenewed := ((run_tracked hcapacity requests).1.performs request).renewed key
    have hlast : lastItem (requests ++ [request]) key =
        renew key (lastItem requests key) request := by
      simp [lastItem]
    rw [run_snoc, hlast]
    rcases hrenewed with hnone | hrenewed
    · exact Or.inl hnone
    · rw [hrenewed]
      rcases ih with hnone | hitem
      · rw [hnone]
        -- Nothing before: the request itself decides, unless it leaves the key alone.
        cases request with
        | enqueue other fresh =>
          by_cases hkey : key = other
          · right
            simp [renew, hkey]
          · left
            simp [renew, hkey]
        | dequeueByKey other =>
          left
          simp [renew]
        | clear =>
          left
          rfl
      · right
        rw [hitem]

/-- Whatever was asked of it, the queue keeps to its bound, tracks its least key,
and goes on as a bounded map does that holds the items put in last. -/
theorem run_represents {capacity : Nat} (hcapacity : 1 ≤ capacity)
    (requests : List (Request κ α)) :
    (run capacity requests).size ≤ capacity ∧
      (∀ least, (run capacity requests).oldestKey = some least ↔
        IsLeast (present (run capacity requests).lookup) least) ∧
      ((run capacity requests).oldestKey = none ↔
        present (run capacity requests).lookup = ∅) ∧
      (∀ request, Performs capacity (run capacity requests).lookup request
        ((run capacity requests).serve request).1
        ((run capacity requests).serve request).2.lookup) ∧
      ∀ key, (run capacity requests).lookup key = none ∨
        (run capacity requests).lookup key = lastItem requests key := by
  obtain ⟨htracked, hcap⟩ := run_tracked hcapacity requests
  refine ⟨?_, htracked.isLeast, htracked.isEmpty, ?_, run_lookup hcapacity requests⟩
  · exact htracked.bounded.trans hcap.le
  · intro request
    have hperforms := htracked.performs request
    rwa [hcap] at hperforms

def evictionSample : List (Request Nat Nat) :=
  [.enqueue 5 50, .enqueue 3 30, .enqueue 5 51, .enqueue 7 70]

/-- A third key at a queue of two takes the place of the least, not of the first. -/
theorem run_represents_sample :
    (run 2 evictionSample).size ≤ 2 ∧ (run 2 evictionSample).oldestKey = some 5 ∧
      (run 2 evictionSample).lookup 3 = none ∧
      (run 2 evictionSample).lookup 5 = some 51 := by
  constructor
  · exact (run_represents (by decide) evictionSample).1
  · decide

end Fields

/-! ## The queue with its invariant -/

/-- The queue's fields, without what its type says of them. -/
def fields (queue : CircularQueue α) : Fields Nat α :=
  ⟨queue.capacity, queue.items, queue.oldestKey⟩

theorem fields_tracked (queue : CircularQueue α) : (fields queue).Tracked := by
  constructor
  · exact queue.oldest_eq
  · exact queue.capacity_pos
  · exact queue.bounded

/-- A queue is known by its capacity and its items, the tracked key being the least. -/
theorem Fields.Tracked.ext {left right : Fields Nat α} (hleft : left.Tracked)
    (hright : right.Tracked) (hcapacity : left.capacity = right.capacity)
    (hitems : left.items = right.items) : left = right := by
  have holdest : left.oldestKey = right.oldestKey := by
    rw [hleft.oldest, hright.oldest, hitems]
  cases left
  cases right
  simp_all

/-- Storing a packet writes the fields as the code does. -/
theorem fields_enqueue (queue : CircularQueue α) (key : Nat) (item : α) :
    fields (queue.enqueue key item) = (fields queue).enqueue key item := by
  have htracked := fields_tracked queue
  obtain ⟨hserved, hcapacity⟩ := htracked.serve (.enqueue key item)
  apply (fields_tracked _).ext hserved
  · exact (CircularQueue.enqueue_capacity queue key item).trans hcapacity.symm
  · change (queue.enqueue key item).items = ((fields queue).enqueue key item).items
    rcases htracked.enqueue_cases key item with ⟨hkey, heq⟩ | ⟨hkey, hroom, heq⟩ |
      ⟨hkey, hfull, oldest, holdest, heq⟩
    · rw [heq]
      exact CircularQueue.enqueue_of_room key item (Or.inl hkey)
    · rw [heq]
      exact CircularQueue.enqueue_of_room key item (Or.inr hroom)
    · rw [heq]
      exact CircularQueue.enqueue_of_full item hkey hfull.ge holdest

theorem fields_dequeueByKey (queue : CircularQueue α) (key : Nat) :
    ((queue.dequeueByKey key).1, fields (queue.dequeueByKey key).2) =
      (fields queue).dequeueByKey key := by
  rw [(fields_tracked queue).dequeueByKey_eq, CircularQueue.dequeueByKey_fst]
  congr 1
  have hserved := ((fields_tracked queue).serve (.dequeueByKey key)).1
  simp only [Fields.serve, (fields_tracked queue).dequeueByKey_eq] at hserved
  apply (fields_tracked _).ext hserved
  · exact CircularQueue.dequeueByKey_capacity queue key
  · exact CircularQueue.dequeueByKey_items queue key

theorem fields_clear (queue : CircularQueue α) : fields queue.clear = (fields queue).clear := by
  rfl

/-- What the receive path asks of its queue, it asks of a bounded map. -/
theorem fields_performs (queue : CircularQueue α) (request : Request Nat α) :
    Performs queue.capacity queue.items.get? request ((fields queue).serve request).1
      ((fields queue).serve request).2.lookup := by
  exact (fields_tracked queue).performs request

end Eviction

end Utp
