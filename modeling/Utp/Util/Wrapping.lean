import Mathlib.Order.Defs.Unbundled
import Utp.Util.Seq

/-! # Sequence numbers as counters

A 16-bit number stands for every counter it is the remainder of. Among counters
less than half a cycle apart the circular order is the order of the counters,
the distance is their difference, and adding to the number adds to the counter.
-/

namespace Utp

namespace Seq

/-- The 16-bit number of a counter. -/
def wrap (counter : Int) : Nat :=
  (counter % 65536).toNat

/-- `x & 0xFFFF`, as the language computes it: on the 32-bit value of `x`. -/
def mask (x : Int) : Int :=
  (BitVec.ofInt 32 x &&& 0xFFFF#32).toInt

/-! ## The mask -/

/-- The mask takes the remainder, also where `x` leaves the 32 bits. -/
theorem mask_eq (x : Int) : mask x = x % 65536 := by
  have hnat : (BitVec.ofInt 32 x &&& 0xFFFF#32).toNat = (x % 65536).toNat := by
    rw [BitVec.toNat_and, BitVec.toNat_ofInt]
    have hmask : (0xFFFF#32).toNat = 2 ^ 16 - 1 := by rfl
    rw [hmask, Nat.and_two_pow_sub_one_eq_mod]
    omega
  rw [mask, BitVec.toInt_eq_toNat_of_lt, hnat]
  · omega
  · rw [hnat]
    omega

theorem add_eq_mask (a : Nat) (n : Int) : (add a n : Int) = mask (a + n) := by
  rw [mask_eq, add]
  omega

theorem diff_eq_mask (a b : Nat) : (diff a b : Int) = mask (a - b) := by
  rw [mask_eq, diff]
  omega

/-! ## Counters and their numbers -/

/-- Adding to the number adds to the counter, however far. -/
theorem add_wrap (i n : Int) : add (wrap i) n = wrap (i + n) := by
  unfold add wrap
  omega

section Close

variable {i j : Int}

theorem wrap_inj (h : (i - j).natAbs < 2 ^ 15) : wrap i = wrap j ↔ i = j := by
  unfold wrap
  omega

theorem diff_wrap (h : (i - j).natAbs < 2 ^ 15) (hle : j ≤ i) :
    (diff (wrap i) (wrap j) : Int) = i - j := by
  unfold diff wrap
  omega

/-- A later counter is less than half a cycle ahead, an earlier one is not. -/
theorem diff_wrap_lt_iff (h : (i - j).natAbs < 2 ^ 15) :
    diff (wrap j) (wrap i) < 0x8000 ↔ i ≤ j := by
  unfold diff wrap
  omega

theorem lt_wrap (h : (i - j).natAbs < 2 ^ 15) : lt (wrap i) (wrap j) = true ↔ i < j := by
  rw [lt_iff, diff_wrap_lt_iff h, ne_eq, wrap_inj h]
  omega

theorem close_symm (h : (i - j).natAbs < 2 ^ 15) : (j - i).natAbs < 2 ^ 15 := by
  omega

theorem le_wrap (h : (i - j).natAbs < 2 ^ 15) : le (wrap i) (wrap j) = true ↔ i ≤ j := by
  rw [le, Bool.or_eq_true, decide_eq_true_eq, wrap_inj h, lt_wrap h]
  omega

theorem gt_wrap (h : (i - j).natAbs < 2 ^ 15) : gt (wrap i) (wrap j) = true ↔ j < i := by
  rw [gt, lt_wrap (close_symm h)]

theorem ge_wrap (h : (i - j).natAbs < 2 ^ 15) : ge (wrap i) (wrap j) = true ↔ j ≤ i := by
  rw [ge, Bool.or_eq_true, decide_eq_true_eq, wrap_inj h, gt_wrap h]
  omega

end Close

/-! ## Sets of close counters -/

/-- Counters that all lie less than half a cycle apart. -/
def Close (counters : Set Int) : Prop :=
  ∀ i ∈ counters, ∀ j ∈ counters, (i - j).natAbs < 2 ^ 15

/-- The circular order on the numbers of a set of counters. -/
def Before (counters : Set Int) (a b : wrap '' counters) : Prop :=
  lt a b = true

/-- The numbers of close counters are ordered as the counters are. -/
theorem Close.isStrictTotalOrder {counters : Set Int} (h : Close counters) :
    IsStrictTotalOrder (wrap '' counters) (Before counters) where
  trichotomous := by
    rintro ⟨_, i, hi, rfl⟩ ⟨_, j, hj, rfl⟩ hij hji
    simp only [Before, lt_wrap (h i hi j hj), lt_wrap (h j hj i hi)] at hij hji
    apply Subtype.ext
    exact congrArg wrap (le_antisymm (not_lt.mp hji) (not_lt.mp hij))
  irrefl := by
    rintro ⟨_, i, hi, rfl⟩ hii
    simp only [Before, lt_wrap (h i hi i hi)] at hii
    exact lt_irrefl i hii
  trans := by
    rintro ⟨_, i, hi, rfl⟩ ⟨_, j, hj, rfl⟩ ⟨_, k, hk, rfl⟩ hij hjk
    simp only [Before, lt_wrap (h i hi j hj), lt_wrap (h j hj k hk), lt_wrap (h i hi k hk)] at *
    exact hij.trans hjk

/-- Adding the same to two numbers does not change their order. -/
theorem Close.lt_add {counters : Set Int} (h : Close counters) {i j : Int} (hi : i ∈ counters)
    (hj : j ∈ counters) (n : Int) :
    lt (add (wrap i) n) (add (wrap j) n) = true ↔ lt (wrap i) (wrap j) = true := by
  have hclose := h i hi j hj
  have hshifted : (i + n - (j + n)).natAbs < 2 ^ 15 := by omega
  rw [add_wrap, add_wrap, lt_wrap hshifted, lt_wrap hclose]
  omega

/-- The arithmetic of 16-bit numbers is that of the counters they stand for. -/
theorem wrap_refines {i j : Int} (h : (i - j).natAbs < 2 ^ 15) :
    (lt (wrap i) (wrap j) = true ↔ i < j) ∧ (le (wrap i) (wrap j) = true ↔ i ≤ j) ∧
      (gt (wrap i) (wrap j) = true ↔ i > j) ∧ (ge (wrap i) (wrap j) = true ↔ i ≥ j) ∧
      (∀ n, add (wrap i) n = wrap (i + n)) ∧
      (i ≥ j → (diff (wrap i) (wrap j) : Int) = i - j) ∧
      ∀ counters, Close counters →
        IsStrictTotalOrder (wrap '' counters) (Before counters) ∧
          ∀ k ∈ counters, ∀ l ∈ counters, ∀ n,
            lt (add (wrap k) n) (add (wrap l) n) = true ↔ lt (wrap k) (wrap l) = true := by
  refine ⟨lt_wrap h, le_wrap h, gt_wrap h, ge_wrap h, add_wrap i, diff_wrap h, ?_⟩
  intro counters hcounters
  constructor
  · exact hcounters.isStrictTotalOrder
  · intro k hk l hl
    exact hcounters.lt_add hk hl

/-- Across the wrap: 65530 is before 3 when they stand for 65530 and 65539. -/
theorem wrap_refines_sample :
    (65530 - 65539 : Int).natAbs < 2 ^ 15 ∧ wrap 65539 = 3 ∧
      (lt (wrap 65530) (wrap 65539) = true ↔ (65530 : Int) < 65539) := by
  have hclose : (65530 - 65539 : Int).natAbs < 2 ^ 15 := by decide
  exact ⟨hclose, by decide, (wrap_refines hclose).1⟩

end Seq

end Utp
