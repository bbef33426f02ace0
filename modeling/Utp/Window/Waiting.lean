import Mathlib.Algebra.Order.BigOperators.Group.List
import Utp.Buffer.Backlog
import Utp.Window.Outstanding

/-! # Who waits in line, and what is ahead

A setter waits behind the entries of the map and the setters that came before it. Whatever happens
to the map, nothing gets ahead of a setter that waits, and what is ahead becomes less with every
retransmission that is due.
-/

namespace Utp

namespace BlockingMap

variable {κ ν : Type} [DecidableEq κ] {weight : ν → Nat} {id : Nat} {key : κ}
  {before after self : BlockingMap κ ν}

/-- The setters stand in line in the order of their numbers. -/
structure Lined (whole : BlockingMap κ ν) : Prop where
  sorted : whole.waitingSetters.Pairwise fun first second => first.2.2 < second.2.2
  fresh : ∀ waiter ∈ whole.waitingSetters, waiter.2.2 < whole.nextSetter

/-- What waits with a smaller number. -/
def waitingAhead (id : Nat) (waiting : List (κ × ν × Nat)) : List (κ × ν × Nat) :=
  waiting.filter fun waiter => waiter.2.2 < id

/-- The values ahead of a setter, in the map and in the line, each with its weight. -/
def ahead (weight : ν → Nat) (id : Nat) (self : BlockingMap κ ν) : Nat :=
  self.map.total weight + ((waitingAhead id self.waitingSetters).map fun waiter =>
    weight waiter.2.1).sum

/-- A setter that still waits has waited before, and nothing has got ahead of it. -/
structure Follows (weight : ν → Nat) (id : Nat) (before after : BlockingMap κ ν) : Prop where
  lined : after.Lined
  numbered : before.nextSetter ≤ after.nextSetter
  waited : id < before.nextSetter → after.isResolved id = false →
    before.isResolved id = false ∧ after.ahead weight id ≤ before.ahead weight id

omit [DecidableEq κ] in
theorem isResolved_eq_false : self.isResolved id = false ↔
    ∃ waiter ∈ self.waitingSetters, waiter.2.2 = id := by
  simp [isResolved]

omit [DecidableEq κ] in
theorem Lined.numbered (hself : self.Lined) (hwaits : self.isResolved id = false) :
    id < self.nextSetter := by
  obtain ⟨waiter, hwaiter, rfl⟩ := isResolved_eq_false.mp hwaits
  exact hself.fresh waiter hwaiter

omit [DecidableEq κ] in
theorem Follows.refl (hself : self.Lined) : Follows weight id self self :=
  ⟨hself, Nat.le_refl _, fun _ hwaits => ⟨hwaits, Nat.le_refl _⟩⟩

omit [DecidableEq κ] in
theorem Follows.trans {middle : BlockingMap κ ν} (hfirst : Follows weight id before middle)
    (hsecond : Follows weight id middle after) : Follows weight id before after where
  lined := hsecond.lined
  numbered := hfirst.numbered.trans hsecond.numbered
  waited hid hwaits := by
    obtain ⟨hmiddle, hless⟩ := hsecond.waited (hid.trans_le hfirst.numbered) hwaits
    obtain ⟨hbefore, hfewer⟩ := hfirst.waited hid hmiddle
    exact ⟨hbefore, hless.trans hfewer⟩

/-- How many entries are ahead of a setter. -/
def entriesAhead (id : Nat) (self : BlockingMap κ ν) : Nat :=
  self.size + (waitingAhead id self.waitingSetters).length

omit [DecidableEq κ] in
theorem ahead_le {bound : Nat} (hbound : ∀ value, weight value ≤ bound) :
    self.ahead weight id ≤ bound * self.entriesAhead id := by
  have hmap := @OrderedMap.total_le _ _ weight self.map bound fun entry _ => hbound entry.2
  have hline : ((waitingAhead id self.waitingSetters).map fun waiter => weight waiter.2.1).sum ≤
      ((waitingAhead id self.waitingSetters).map fun waiter => weight waiter.2.1).length *
        bound := by
    apply List.sum_le_card_nsmul
    intro value hvalue
    obtain ⟨waiter, -, rfl⟩ := List.mem_map.mp hvalue
    exact hbound waiter.2.1
  rw [List.length_map, Nat.mul_comm] at hline
  unfold ahead entriesAhead size
  rw [Nat.mul_add]
  exact Nat.add_le_add hmap hline

/-! ## Letting setters in -/

theorem admitWaiting_suffix (waiting : List (κ × ν × Nat)) (self : BlockingMap κ ν) :
    (admitWaiting waiting self).waitingSetters <:+ waiting ∧
      (admitWaiting waiting self).nextSetter = self.nextSetter := by
  induction waiting generalizing self with
  | nil => exact ⟨List.suffix_rfl, rfl⟩
  | cons waiter rest ih =>
      obtain ⟨key, value, number⟩ := waiter
      unfold admitWaiting
      split
      next => exact ⟨(ih _).1.trans (List.suffix_cons _ _), (ih _).2⟩
      next => exact ⟨List.suffix_rfl, rfl⟩

/-- Who is let in moves from the line into the map, and was ahead before. -/
theorem ahead_admitWaiting {waiting : List (κ × ν × Nat)}
    (hsorted : waiting.Pairwise fun first second => first.2.2 < second.2.2)
    (hwaits : (admitWaiting waiting self).isResolved id = false) :
    (admitWaiting waiting self).ahead weight id ≤
      self.map.total weight + ((waitingAhead id waiting).map fun waiter =>
        weight waiter.2.1).sum := by
  induction waiting generalizing self with
  | nil => exact Nat.le_refl _
  | cons waiter rest ih =>
      obtain ⟨key, value, number⟩ := waiter
      obtain ⟨hfirst, hrest⟩ := List.pairwise_cons.mp hsorted
      unfold admitWaiting at hwaits ⊢
      split
      next hroom =>
        rw [if_pos hroom] at hwaits
        have hput := @map_total_put _ _ _ weight self key value
        have hlater := ih hrest hwaits
        -- The one who is let in has a smaller number than all who still wait.
        obtain ⟨other, hother, rfl⟩ := isResolved_eq_false.mp hwaits
        have hless : number < other.2.2 :=
          hfirst other ((admitWaiting_suffix _ _).1.subset hother)
        have hahead : waitingAhead other.2.2 ((key, value, number) :: rest) =
            (key, value, number) :: waitingAhead other.2.2 rest :=
          List.filter_cons_of_pos (decide_eq_true hless)
        rw [hahead, List.map_cons, List.sum_cons]
        dsimp only
        omega
      next => exact Nat.le_refl _

theorem follows_resolveNextSetter (hself : self.Lined) :
    Follows weight id self self.resolveNextSetter := by
  obtain ⟨hsuffix, hnumber⟩ := admitWaiting_suffix self.waitingSetters self
  refine ⟨⟨hself.sorted.sublist hsuffix.sublist, ?_⟩, hnumber.ge, ?_⟩
  · intro waiter hwaiter
    rw [resolveNextSetter, hnumber]
    exact hself.fresh waiter (hsuffix.subset hwaiter)
  · intro _ hwaits
    refine ⟨?_, ahead_admitWaiting hself.sorted hwaits⟩
    obtain ⟨waiter, hwaiter, hid⟩ := isResolved_eq_false.mp hwaits
    exact isResolved_eq_false.mpr ⟨waiter, hsuffix.subset hwaiter, hid⟩

theorem follows_updateCapacity (hself : self.Lined) (capacity : ℚ) :
    Follows weight id self (self.updateCapacity capacity) := by
  have hchanged : Lined { self with capacity := capacity } := ⟨hself.sorted, hself.fresh⟩
  have hresolved := @follows_resolveNextSetter _ _ _ weight id _ hchanged
  exact ⟨hresolved.lined, hresolved.numbered, hresolved.waited⟩

/-- What is deleted is no longer ahead. -/
theorem ahead_erase (key : κ) :
    ahead weight id { self with map := self.map.erase key } ≤ self.ahead weight id :=
  Nat.add_le_add_right OrderedMap.total_erase_le _

theorem follows_delete (hself : self.Lined) (key : κ) :
    Follows weight id self (self.delete key) := by
  unfold delete
  split
  next =>
    have herased : Lined { self with map := self.map.erase key } := ⟨hself.sorted, hself.fresh⟩
    have hresolved := @follows_resolveNextSetter _ _ _ weight id _ herased
    refine ⟨hresolved.lined, hresolved.numbered, fun hid hwaits => ?_⟩
    obtain ⟨hbefore, hless⟩ := hresolved.waited hid hwaits
    exact ⟨hbefore, hless.trans (ahead_erase key)⟩
  next => exact .refl hself

theorem ahead_delete_lt (hself : self.Lined) (hid : id < self.nextSetter)
    (hpos : ∀ value, 0 < weight value) (hkey : key ∈ self.map.keys)
    (hwaits : (self.delete key).isResolved id = false) :
    (self.delete key).ahead weight id < self.ahead weight id := by
  obtain ⟨value, hget⟩ := OrderedMap.exists_get? hkey
  have htotal := @OrderedMap.total_of_get _ _ _ weight _ _ _ hget
  have hvalue := hpos value
  have herased : Lined { self with map := self.map.erase key } := ⟨hself.sorted, hself.fresh⟩
  unfold delete at hwaits ⊢
  rw [if_pos hkey] at hwaits ⊢
  apply Nat.lt_of_le_of_lt ((follows_resolveNextSetter herased).waited hid hwaits).2
  unfold ahead
  dsimp only
  omega

omit [DecidableEq κ] in
theorem follows_clear (hself : self.Lined) : Follows weight id self self.clear :=
  ⟨⟨hself.sorted, hself.fresh⟩, Nat.le_refl _,
    fun _ hwaits => ⟨hwaits, Nat.add_le_add_right (Nat.zero_le _) _⟩⟩

omit [DecidableEq κ] in
/-- Who comes later waits behind. -/
theorem follows_enqueueSetter (hself : self.Lined) (key : κ) (value : ν) :
    Follows weight id self (self.enqueueSetter key value) := by
  refine ⟨⟨?_, ?_⟩, Nat.le_succ _, ?_⟩
  · apply List.pairwise_append.mpr
    refine ⟨hself.sorted, List.pairwise_singleton _ _, fun waiter hwaiter other hother => ?_⟩
    rw [List.mem_singleton.mp hother]
    exact hself.fresh waiter hwaiter
  · intro waiter hwaiter
    rcases List.mem_append.mp hwaiter with hold | hnew
    · exact Nat.lt_succ_of_lt (hself.fresh waiter hold)
    · rw [List.mem_singleton.mp hnew]
      exact Nat.lt_succ_self _
  · intro hid hwaits
    obtain ⟨waiter, hwaiter, rfl⟩ := isResolved_eq_false.mp hwaits
    have hbehind : waitingAhead waiter.2.2 (self.enqueueSetter key value).waitingSetters =
        waitingAhead waiter.2.2 self.waitingSetters := by
      unfold waitingAhead enqueueSetter
      have hlate : decide (self.nextSetter < waiter.2.2) = false :=
        decide_eq_false (Nat.lt_asymm hid)
      rw [List.filter_append, List.filter_singleton]
      dsimp only
      rw [hlate, cond_false, List.append_nil]
    constructor
    · rcases List.mem_append.mp hwaiter with hold | hnew
      · exact isResolved_eq_false.mpr ⟨waiter, hold, rfl⟩
      · rw [List.mem_singleton.mp hnew] at hid
        exact absurd hid (Nat.lt_irrefl _)
    · unfold ahead
      rw [hbehind]
      exact Nat.le_refl _

theorem ahead_update {value old : ν} (hget : self.get key = some old) :
    (self.update key value).ahead weight id + weight old =
      self.ahead weight id + weight value := by
  have htotal := @OrderedMap.total_of_get _ _ _ weight _ _ _ hget
  have hset := @OrderedMap.total_set _ _ _ weight self.map key value
  unfold ahead update
  dsimp only
  omega

end BlockingMap

namespace UtpSendWindow

variable {id : Nat}

/-! ## The operations of the window -/

theorem follows_handleAck {self : UtpSendWindow} (hself : self.packetMap.Lined) (now : Nat)
    (ackPacket : UtpPacket) :
    self.packetMap.Follows attempts id (self.handleAck now ackPacket).packetMap := by
  apply handleAck_preserves (fun map => self.packetMap.Follows attempts id map) now ackPacket
  · intro map seqNr _ hmap
    exact hmap.trans (BlockingMap.follows_delete hmap.lined seqNr)
  · intro map capacity _ hmap
    exact hmap.trans (BlockingMap.follows_updateCapacity hmap.lined capacity)
  · exact .refl hself

theorem follows_reset {self : UtpSendWindow} (hself : self.packetMap.Lined) :
    self.packetMap.Follows attempts id self.reset.packetMap := by
  have hclear := @BlockingMap.follows_clear _ _ attempts id _ hself
  exact hclear.trans (BlockingMap.follows_updateCapacity hclear.lined _)

/-- A packet that is due leaves less ahead of those who wait on. -/
theorem ahead_resendOne_lt {self : UtpSendWindow} (hself : self.packetMap.Lined)
    (hid : id < self.packetMap.nextSetter) {now seqNr : Nat} {info : UtpPacketWithExtraInfo}
    (hget : self.packetMap.get seqNr = some info) (hdue : self.IsDue now info)
    (hwaits : (self.resendOne now seqNr).1.packetMap.isResolved id = false) :
    (self.resendOne now seqNr).1.packetMap.ahead attempts id <
      self.packetMap.ahead attempts id := by
  obtain ⟨capacity, hlost⟩ | ⟨again, hagain, hfewer⟩ := resendOne_due hget hdue
  · rw [hlost] at hwaits ⊢
    have hcapacity := @BlockingMap.follows_updateCapacity _ _ _ attempts id _ hself capacity
    have hkey : seqNr ∈ (self.packetMap.updateCapacity capacity).map.keys :=
      BlockingMap.mem_keys_admitWaiting (OrderedMap.mem_keys_of_get? hget)
    have hdelete := @BlockingMap.follows_delete _ _ _ attempts id _ hcapacity.lined seqNr
    have hid' := hid.trans_le hcapacity.numbered
    apply Nat.lt_of_lt_of_le
    · exact BlockingMap.ahead_delete_lt hcapacity.lined hid' (fun _ => Nat.succ_pos _) hkey hwaits
    · exact (hcapacity.waited hid (hdelete.waited hid' hwaits).1).2
  · rw [hagain]
    have hahead := @BlockingMap.ahead_update _ _ _ attempts id _ _ again _ hget
    omega

theorem follows_resendOne {self : UtpSendWindow} (hself : self.packetMap.Lined) (now seqNr : Nat) :
    self.packetMap.Follows attempts id (self.resendOne now seqNr).1.packetMap := by
  by_cases hdue : ∃ info, self.packetMap.get seqNr = some info ∧ self.IsDue now info
  · obtain ⟨info, hget, hdue⟩ := hdue
    obtain ⟨capacity, hlost⟩ | ⟨again, hagain, hfewer⟩ := resendOne_due hget hdue
    · rw [hlost]
      have hcapacity := @BlockingMap.follows_updateCapacity _ _ _ attempts id _ hself capacity
      exact hcapacity.trans (BlockingMap.follows_delete hcapacity.lined seqNr)
    · rw [hagain]
      have hahead := @BlockingMap.ahead_update _ _ _ attempts id _ _ again _ hget
      exact ⟨⟨hself.sorted, hself.fresh⟩, Nat.le_refl _, fun _ hwaits => ⟨hwaits, by omega⟩⟩
  · rw [resendOne_idle fun info hget hinfo => hdue ⟨info, hget, hinfo⟩]
    exact .refl hself

end UtpSendWindow

end Utp
