import Utp.Foundation.OrderedMap
import Utp.Util.Seq

/-! # One pass over the reorder queue

`processReceivedPackets` walks once over the queue's keys in ascending order and
takes a key whenever it is the next one. Which keys it takes depends on the keys
alone. The pass stops short only where the numbers wrap around.
-/

namespace Utp

namespace Pass

/-- The keys that a pass takes out of the queue, in order. -/
def taken (ackNr : Nat) : List Nat → List Nat
  | [] => []
  | seq :: rest => if Seq.add ackNr 1 = seq then seq :: taken seq rest else taken ackNr rest

/-- The acknowledgement number after a pass. -/
def advance (ackNr : Nat) : List Nat → Nat
  | [] => ackNr
  | seq :: rest => if Seq.add ackNr 1 = seq then advance seq rest else advance ackNr rest

theorem taken_append (ackNr : Nat) (keys more : List Nat) :
    taken ackNr (keys ++ more) = taken ackNr keys ++ taken (advance ackNr keys) more := by
  induction keys generalizing ackNr with
  | nil => rfl
  | cons seq rest ih =>
      simp only [List.cons_append, taken, advance]
      split
      next => rw [ih, List.cons_append]
      next => exact ih ackNr

theorem advance_append (ackNr : Nat) (keys more : List Nat) :
    advance ackNr (keys ++ more) = advance (advance ackNr keys) more := by
  induction keys generalizing ackNr with
  | nil => rfl
  | cons seq rest ih =>
      simp only [List.cons_append, advance]
      split
      next => exact ih seq
      next => exact ih ackNr

theorem taken_sublist (ackNr : Nat) (keys : List Nat) : (taken ackNr keys).Sublist keys := by
  induction keys generalizing ackNr with
  | nil => exact .slnil
  | cons seq rest ih =>
      simp only [taken]
      split
      next => exact (ih seq).cons_cons seq
      next => exact (ih ackNr).cons seq

theorem taken_eq_nil {ackNr : Nat} {keys : List Nat} (hnext : Seq.add ackNr 1 ∉ keys) :
    taken ackNr keys = [] := by
  induction keys with
  | nil => rfl
  | cons seq rest ih =>
      rw [List.mem_cons, not_or] at hnext
      simp only [taken, if_neg hnext.1]
      exact ih hnext.2

/-- The taken keys follow on the acknowledgement number one by one. -/
theorem taken_getElem? {ackNr index seq : Nat} {keys : List Nat}
    (hseq : (taken ackNr keys)[index]? = some seq) : seq = (ackNr + 1 + index) % 65536 := by
  induction keys generalizing ackNr index with
  | nil => cases hseq
  | cons first rest ih =>
      simp only [taken] at hseq
      split at hseq
      next hfirst =>
        rw [Seq.add_one] at hfirst
        cases index with
        | zero =>
            simp only [List.getElem?_cons_zero, Option.some.injEq] at hseq
            omega
        | succ index =>
            have := ih (by simpa using hseq)
            omega
      next => exact ih hseq

theorem advance_eq {ackNr : Nat} (hackNr : ackNr < 65536) (keys : List Nat) :
    advance ackNr keys = (ackNr + (taken ackNr keys).length) % 65536 := by
  induction keys generalizing ackNr with
  | nil => exact (Nat.mod_eq_of_lt hackNr).symm
  | cons seq rest ih =>
      simp only [advance, taken]
      split
      next hseq =>
        rw [Seq.add_one] at hseq
        rw [ih (by omega), List.length_cons]
        omega
      next => exact ih hackNr

theorem advance_lt {ackNr : Nat} (hackNr : ackNr < 65536) (keys : List Nat) :
    advance ackNr keys < 65536 := by
  rw [advance_eq hackNr]
  omega

theorem advance_mem {ackNr : Nat} {keys : List Nat} (hmoved : advance ackNr keys ≠ ackNr) :
    advance ackNr keys ∈ keys := by
  induction keys generalizing ackNr with
  | nil => exact absurd rfl hmoved
  | cons seq rest ih =>
      simp only [advance] at hmoved ⊢
      split
      next =>
        by_cases hrest : advance seq rest = seq
        · rw [hrest]
          exact List.mem_cons_self
        · exact List.mem_cons_of_mem _ (ih hrest)
      next hseq =>
        rw [if_neg hseq] at hmoved
        exact List.mem_cons_of_mem _ (ih hmoved)

/-- A pass over ascending keys that does not start at the last number does not
get past it. -/
theorem taken_le {ackNr : Nat} {keys : List Nat} (hsorted : keys.Pairwise (· < ·))
    (hackNr : ackNr < 65535) : ackNr + (taken ackNr keys).length ≤ 65535 := by
  induction keys generalizing ackNr with
  | nil => simpa [taken] using hackNr.le
  | cons seq rest ih =>
      rw [List.pairwise_cons] at hsorted
      simp only [taken]
      split
      next hseq =>
        rw [Seq.add_one] at hseq
        rw [List.length_cons]
        by_cases hlast : seq = 65535
        · have hnone : Seq.add seq 1 ∉ rest := fun hmem => by
            have := hsorted.1 _ hmem
            rw [hlast] at this
            exact absurd this (by decide)
          rw [taken_eq_nil hnone, List.length_nil]
          omega
        · have := ih hsorted.2 (show seq < 65535 by omega)
          omega
      next => exact ih hsorted.2 hackNr

/-- If the next key is left after a pass over ascending keys, the pass arrived at
the last number from below. -/
theorem advance_stops {ackNr : Nat} {keys : List Nat} (hackNr : ackNr < 65536)
    (hsorted : keys.Pairwise (· < ·)) (hnext : Seq.add (advance ackNr keys) 1 ∈ keys) :
    Seq.add (advance ackNr keys) 1 ∈ taken ackNr keys ∨
      (advance ackNr keys = 65535 ∧ ackNr ≠ 65535) := by
  induction keys generalizing ackNr with
  | nil => cases hnext
  | cons seq rest ih =>
      rw [List.pairwise_cons] at hsorted
      simp only [advance, taken] at hnext ⊢
      split at hnext
      next hseq =>
        have hlt : seq < 65536 := hseq ▸ Seq.add_lt _ _
        rw [if_pos hseq, if_pos hseq]
        rcases List.mem_cons.mp hnext with heq | hrest
        · exact .inl (List.mem_cons.mpr (.inl heq))
        · rcases ih hlt hsorted.2 hrest with htaken | ⟨hlast, -⟩
          · exact .inl (List.mem_cons_of_mem _ htaken)
          · by_cases hstart : ackNr = 65535
            · refine .inl ?_
              rw [hlast, ← hseq, hstart]
              exact List.mem_cons_self
            · exact .inr ⟨hlast, hstart⟩
      next hseq =>
        rw [if_neg hseq, if_neg hseq]
        rcases List.mem_cons.mp hnext with heq | hrest
        · have hmoved : advance ackNr rest ≠ ackNr := fun h => hseq (by rw [← heq, h])
          have hgreater := hsorted.1 _ (advance_mem hmoved)
          have hlt := advance_lt hackNr rest
          rw [Seq.add_one] at heq
          exact .inr ⟨by omega, by omega⟩
        · exact ih hackNr hsorted.2 hrest

/-- As long as the next key is there, a pass takes it. -/
theorem mem_taken {ackNr : Nat} {keys : List Nat} (hnext : Seq.add ackNr 1 ∈ keys) :
    Seq.add ackNr 1 ∈ taken ackNr keys := by
  induction keys with
  | nil => cases hnext
  | cons seq rest ih =>
      simp only [taken]
      split
      next hseq => exact hseq ▸ List.mem_cons_self
      next hseq => exact ih ((List.mem_cons.mp hnext).resolve_left hseq)

end Pass

end Utp
