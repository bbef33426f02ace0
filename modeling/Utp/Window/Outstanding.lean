import Mathlib.Algebra.Order.Archimedean.Basic
import Mathlib.Tactic.Linarith
import Utp.Window.SendWindow

/-! # What a send window has yet to do

A packet is retransmitted a few times and then given up, and a writer that waits enters as room
comes free. The attempts that are left, of the packets in the window and of those that wait,
never become more by retransmission, and become fewer when a packet is due.
-/

namespace Utp

namespace BlockingMap

variable {κ ν : Type} [DecidableEq κ] {weight : ν → Nat} {self : BlockingMap κ ν} {key : κ}

/-- The values in the map and those that wait, each with its weight, taken together. -/
def total (weight : ν → Nat) (self : BlockingMap κ ν) : Nat :=
  self.map.total weight + (self.waitingSetters.map fun waiter => weight waiter.2.1).sum

theorem map_total_put (value : ν) :
    (self.put key value).map.total weight ≤ self.map.total weight + weight value := by
  change (self.map.set key value).total weight ≤ _
  rw [OrderedMap.total_set]
  exact Nat.add_le_add_right OrderedMap.total_erase_le _

/-- Who waits counts as much as who has entered. -/
theorem total_admitWaiting (waiting : List (κ × ν × Nat)) (self : BlockingMap κ ν) :
    (admitWaiting waiting self).total weight ≤
      self.map.total weight + (waiting.map fun waiter => weight waiter.2.1).sum := by
  induction waiting generalizing self with
  | nil => exact Nat.le_refl _
  | cons waiter rest ih =>
      obtain ⟨key, value, id⟩ := waiter
      unfold admitWaiting
      split
      next =>
        have hput := @map_total_put _ _ _ weight self key value
        have hrest := ih (self.put key value)
        rw [List.map_cons, List.sum_cons]
        dsimp only
        omega
      next => exact Nat.le_refl _

theorem total_updateCapacity (capacity : ℚ) :
    (self.updateCapacity capacity).total weight ≤ self.total weight := total_admitWaiting _ _

/-- What is deleted counts no longer. -/
theorem total_delete (hpos : ∀ value, 0 < weight value) (hkey : key ∈ self.map.keys) :
    (self.delete key).total weight < self.total weight := by
  obtain ⟨value, hget⟩ := OrderedMap.exists_get? hkey
  have hrest := @total_admitWaiting κ ν _ weight self.waitingSetters
    { self with map := self.map.erase key }
  have htotal := @OrderedMap.total_of_get _ _ _ weight _ _ _ hget
  have hvalue := hpos value
  unfold delete
  rw [if_pos hkey]
  apply Nat.lt_of_le_of_lt hrest
  change (self.map.erase key).total weight + _ < self.map.total weight + _
  rw [htotal]
  omega

theorem total_update {value old : ν} (hget : self.get key = some old) :
    (self.update key value).total weight + weight old = self.total weight + weight value := by
  have htotal := @OrderedMap.total_of_get _ _ _ weight _ _ _ hget
  have hset := @OrderedMap.total_set _ _ _ weight self.map key value
  unfold total update
  dsimp only
  omega

end BlockingMap

namespace UtpSendWindow

/-- How often a packet may still be retransmitted, and once more for giving it up. -/
def attempts (info : UtpPacketWithExtraInfo) : Nat := RESEND_TIMES_LIMIT - info.resendTimes + 1

def outstanding (self : UtpSendWindow) : Nat := self.packetMap.total attempts

/-- The retransmission timeout of the packet is over. -/
def IsDue (self : UtpSendWindow) (now : Nat) (info : UtpPacketWithExtraInfo) : Prop :=
  self.rttTracker.rto < (now : ℚ) - info.sentTime

/-- Another attempt is used up. -/
theorem attempts_again {info : UtpPacketWithExtraInfo} (now : Nat)
    (hlimit : ¬ RESEND_TIMES_LIMIT ≤ info.resendTimes) :
    attempts { info with resendTimes := info.resendTimes + 1, sentTime := now } <
      attempts info := by
  unfold attempts
  dsimp only
  omega

/-- A packet that is due is given up, or there is one attempt less. -/
theorem resendOne_due {self : UtpSendWindow} {now seqNr : Nat} {info : UtpPacketWithExtraInfo}
    (hget : self.packetMap.get seqNr = some info) (hdue : self.IsDue now info) :
    (∃ capacity, (self.resendOne now seqNr).1.packetMap =
      (self.packetMap.updateCapacity capacity).delete seqNr) ∨
    ∃ again, (self.resendOne now seqNr).1.packetMap = self.packetMap.update seqNr again ∧
      attempts again < attempts info := by
  unfold IsDue at hdue
  unfold resendOne
  rw [hget]
  dsimp only
  rw [if_pos hdue]
  split
  next => exact .inl ⟨_, rfl⟩
  next hlimit => exact .inr ⟨_, rfl, attempts_again now hlimit⟩

theorem resendOne_idle {self : UtpSendWindow} {now seqNr : Nat}
    (hidle : ∀ info, self.packetMap.get seqNr = some info → ¬ self.IsDue now info) :
    self.resendOne now seqNr = (self, none) := by
  unfold resendOne
  split
  next => rfl
  next info hget =>
    have hnot := hidle info hget
    unfold IsDue at hnot
    rw [if_neg hnot]

/-- A packet that is due costs one of its attempts. -/
theorem outstanding_resendOne_lt {self : UtpSendWindow} {now seqNr : Nat}
    {info : UtpPacketWithExtraInfo} (hget : self.packetMap.get seqNr = some info)
    (hdue : self.IsDue now info) : (self.resendOne now seqNr).1.outstanding < self.outstanding := by
  unfold outstanding
  obtain ⟨capacity, hlost⟩ | ⟨again, hagain, hfewer⟩ := resendOne_due hget hdue
  · rw [hlost]
    have hkey : seqNr ∈ (self.packetMap.updateCapacity capacity).map.keys :=
      BlockingMap.mem_keys_admitWaiting (OrderedMap.mem_keys_of_get? hget)
    apply (BlockingMap.total_delete (fun _ => Nat.succ_pos _) hkey).trans_le
    exact BlockingMap.total_updateCapacity capacity
  · rw [hagain]
    have htotal := @BlockingMap.total_update _ _ _ attempts _ _ again _ hget
    omega

theorem outstanding_resendOne_le (self : UtpSendWindow) (now seqNr : Nat) :
    (self.resendOne now seqNr).1.outstanding ≤ self.outstanding := by
  by_cases hdue : ∃ info, self.packetMap.get seqNr = some info ∧ self.IsDue now info
  · obtain ⟨info, hget, hdue⟩ := hdue
    exact (outstanding_resendOne_lt hget hdue).le
  · rw [resendOne_idle fun info hget hinfo => hdue ⟨info, hget, hinfo⟩]

theorem outstanding_pos {self : UtpSendWindow} (hbusy : self.isEmpty = false) :
    0 < self.outstanding := by
  have hkeys : self.packetMap.map.keys ≠ [] := by
    intro hnil
    have hsize : self.packetMap.size = 0 := by
      rw [BlockingMap.size, ← OrderedMap.length_keys, hnil]
      rfl
    simp [isEmpty, hsize] at hbusy
  obtain ⟨key, hkey⟩ := List.exists_mem_of_ne_nil _ hkeys
  obtain ⟨info, hget⟩ := OrderedMap.exists_get? hkey
  have htotal := @OrderedMap.total_of_get _ _ _ attempts _ _ _ hget
  have hattempts : 0 < attempts info := Nat.succ_pos _
  unfold outstanding BlockingMap.total
  omega

/-- In time every packet in the window is due. -/
theorem exists_due (self : UtpSendWindow) (now : Nat) : ∃ later, now ≤ later ∧
    ∀ seqNr info, self.packetMap.get seqNr = some info → self.IsDue later info := by
  obtain ⟨rounds, hrounds⟩ := exists_nat_gt self.rttTracker.rto
  refine ⟨now + self.packetMap.map.total (fun info => info.sentTime) + rounds, by omega, ?_⟩
  intro seqNr info hget
  have htotal := @OrderedMap.total_of_get _ _ _ (fun info => info.sentTime) _ _ _ hget
  have hlate : info.sentTime + rounds ≤
      now + self.packetMap.map.total (fun info => info.sentTime) + rounds := by omega
  have hlate' : (info.sentTime : ℚ) + rounds ≤
      ((now + self.packetMap.map.total (fun info => info.sentTime) + rounds : Nat) : ℚ) := by
    exact_mod_cast hlate
  unfold IsDue
  linarith

end UtpSendWindow

end Utp
