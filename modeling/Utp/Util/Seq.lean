import Mathlib.Data.Int.ModEq
import Mathlib.Tactic.Common

/-! # 16-bit sequence numbers

Sequence numbers live in `0 .. 65535` and wrap around. `a` counts as before
`b` when the forward distance from `a` to `b` is below `0x8000`. -/

namespace Utp

namespace Seq

/-- `(a + n) mod 65536`; `n` may be negative. -/
def add (a : Nat) (n : Int) : Nat := ((a + n) % 65536).toNat

/-- `(a - b) mod 65536`, the forward distance from `b` to `a`. -/
def diff (a b : Nat) : Nat := (((a : Int) - b) % 65536).toNat

def lt (a b : Nat) : Bool := a ≠ b && decide (diff b a < 0x8000)

def le (a b : Nat) : Bool := a = b || lt a b

def gt (a b : Nat) : Bool := lt b a

def ge (a b : Nat) : Bool := a = b || gt a b

theorem add_lt (a : Nat) (n : Int) : add a n < 65536 := by
  unfold add
  omega

theorem diff_lt (a b : Nat) : diff a b < 65536 := by
  unfold diff
  omega

theorem lt_iff {a b : Nat} : lt a b = true ↔ a ≠ b ∧ diff b a < 0x8000 := by
  simp [lt]

theorem gt_iff {a b : Nat} : gt a b = true ↔ b ≠ a ∧ diff a b < 0x8000 := by
  simp [gt, lt]

theorem ge_iff {a b : Nat} : ge a b = true ↔ a = b ∨ diff a b < 0x8000 := by
  by_cases h : a = b
  · simp [ge, h]
  · simp [ge, h, gt_iff, Ne.symm h]

/-- The numbers of a stream that starts behind `base`: its `i`-th packet. -/
theorem add_nat (base i : Nat) : add base i = (base + i) % 65536 := by
  unfold add
  omega

theorem add_one (a : Nat) : add a 1 = (a + 1) % 65536 := add_nat a 1

theorem diff_self (a : Nat) : diff a a = 0 := by
  unfold diff
  omega

theorem diff_add (a b : Nat) (hb : b < 65536) : add a (diff b a) = b := by
  unfold add diff
  omega

end Seq

end Utp
