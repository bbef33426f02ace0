import Mathlib.Data.List.Basic
import Mathlib.Data.List.Induction
import Mathlib.Data.List.Perm.Basic
import Mathlib.Tactic.Common

/-! # The blocking queue

Producers and consumers of a bounded queue share one slot for the call that waits. A call that
starts to wait while another one does takes its place, and nothing wakes the other one again.
-/

namespace Utp

/-- Promises are numbered. `resolved` is the history of those that were resolved, `pushed` and
`shifted` those of the items that were put in and taken out. -/
structure BlockingQueue (α : Type) where
  queue : List α
  maxSize : Nat
  resolveWaiting : Option Nat
  nextPromise : Nat
  resolved : List Nat
  pushed : List α
  shifted : List α

/-- A call, with its argument. -/
inductive QueueCall (α : Type) where
  | enqueue (item : α)
  | dequeue
  deriving DecidableEq

/-- A call waits for a promise or has returned, `dequeue` with an item. -/
inductive QueueProgress (α : Type) where
  | waits (id : Nat)
  | returned (item : Option α)
  deriving DecidableEq

namespace BlockingQueue

variable {α : Type}

def create (maxSize : Nat) : BlockingQueue α where
  queue := []
  maxSize := maxSize
  resolveWaiting := none
  nextPromise := 0
  resolved := []
  pushed := []
  shifted := []

def isFull (control : BlockingQueue α) : Bool := control.maxSize ≤ control.queue.length

def isEmpty (control : BlockingQueue α) : Bool := control.queue.length == 0

/-- `await new Promise((resolve) => { this.resolveWaiting = resolve })` -/
def wait (control : BlockingQueue α) : BlockingQueue α × QueueProgress α :=
  ({ control with
     resolveWaiting := some control.nextPromise
     nextPromise := control.nextPromise + 1 },
    .waits control.nextPromise)

/-- `if (this.resolveWaiting) { this.resolveWaiting(); this.resolveWaiting = null }` -/
def wake (control : BlockingQueue α) : BlockingQueue α :=
  match control.resolveWaiting with
  | some id => { control with resolved := control.resolved ++ [id], resolveWaiting := none }
  | none => control

def push (control : BlockingQueue α) (item : α) : BlockingQueue α :=
  { control with queue := control.queue ++ [item], pushed := control.pushed ++ [item] }

def shift (control : BlockingQueue α) : BlockingQueue α :=
  { control with
    queue := control.queue.tail
    shifted := control.shifted ++ control.queue.head?.toList }

/-- From the test of the loop to the next `await` or the end. -/
def enqueue (control : BlockingQueue α) (item : α) : BlockingQueue α × QueueProgress α :=
  if control.isFull then control.wait else ((control.push item).wake, .returned none)

def dequeue (control : BlockingQueue α) : BlockingQueue α × QueueProgress α :=
  if control.isEmpty then control.wait else (control.shift.wake, .returned control.queue.head?)

theorem wake_queue (control : BlockingQueue α) :
    control.wake.queue = control.queue ∧ control.wake.maxSize = control.maxSize ∧
      control.wake.pushed = control.pushed ∧ control.wake.shifted = control.shifted := by
  unfold wake
  split <;> simp

/-- After `wake` the slot is free and its promise resolved. -/
theorem wake_resolved (control : BlockingQueue α) {id : Nat}
    (hid : id ∈ control.resolved ∨ control.resolveWaiting = some id) :
    id ∈ control.wake.resolved := by
  unfold wake
  split
  next other hslot =>
    rcases hid with hid | hid
    · exact List.mem_append_left _ hid
    · cases hslot.symm.trans hid
      exact List.mem_append_right _ (List.mem_singleton.mpr rfl)
  next hslot =>
    rcases hid with hid | hid
    · exact hid
    · cases hslot.symm.trans hid

end BlockingQueue

namespace QueueCall

variable {α : Type}

/-- The test of the call's loop. -/
def Blocked (control : BlockingQueue α) : QueueCall α → Prop
  | .enqueue _ => control.isFull = true
  | .dequeue => control.isEmpty = true

instance (control : BlockingQueue α) (call : QueueCall α) : Decidable (call.Blocked control) := by
  cases call <;> exact inferInstanceAs (Decidable (_ = true))

def proceed (control : BlockingQueue α) : QueueCall α → BlockingQueue α × QueueProgress α
  | .enqueue item => control.enqueue item
  | .dequeue => control.dequeue

/-- A call waits, or it changes the queue and wakes the one that waits. -/
theorem proceed_cases (control : BlockingQueue α) (call : QueueCall α) :
    (call.Blocked control ∧ call.proceed control = control.wait) ∨
      (∃ item, call = .enqueue item ∧ control.queue.length < control.maxSize ∧
        call.proceed control = ((control.push item).wake, .returned none)) ∨
      (∃ item rest, call = .dequeue ∧ control.queue = item :: rest ∧
        call.proceed control = (control.shift.wake, .returned (some item))) := by
  cases call with
  | enqueue item =>
      by_cases hfull : control.isFull = true
      · exact .inl ⟨hfull, by simp [proceed, BlockingQueue.enqueue, hfull]⟩
      · apply Or.inr ∘ Or.inl
        refine ⟨item, rfl, ?_, by simp [proceed, BlockingQueue.enqueue, hfull]⟩
        simpa [BlockingQueue.isFull] using hfull
  | dequeue =>
      cases hqueue : control.queue with
      | nil =>
          have hempty : control.isEmpty = true := by simp [BlockingQueue.isEmpty, hqueue]
          exact .inl ⟨hempty, by simp [proceed, BlockingQueue.dequeue, hempty]⟩
      | cons item rest =>
          have hsome : control.isEmpty = false := by simp [BlockingQueue.isEmpty, hqueue]
          apply Or.inr ∘ Or.inr
          exact ⟨item, rest, rfl, rfl, by simp [proceed, BlockingQueue.dequeue, hsome, hqueue]⟩

end QueueCall

/-! ## Runs -/

/-- A call is made, or one whose promise was resolved goes on. -/
inductive TrafficEvent (α : Type) where
  | call (made : QueueCall α)
  | resume (index : Nat)
  deriving DecidableEq

/-- A queue with all calls so far. -/
structure Traffic (α : Type) where
  control : BlockingQueue α
  calls : List (QueueCall α × QueueProgress α)

namespace Traffic

variable {α : Type}

def step (traffic : Traffic α) : TrafficEvent α → Option (Traffic α)
  | .call made =>
      let (control, progress) := made.proceed traffic.control
      some ⟨control, traffic.calls ++ [(made, progress)]⟩
  | .resume index =>
      match traffic.calls[index]? with
      | some (made, .waits id) =>
          if id ∈ traffic.control.resolved then
            let (control, progress) := made.proceed traffic.control
            some ⟨control, traffic.calls.set index (made, progress)⟩
          else none
      | _ => none

def run (maxSize : Nat) (events : List (TrafficEvent α)) : Option (Traffic α) :=
  events.foldlM step ⟨.create maxSize, []⟩

/-- The item that a call has put in. -/
def put : QueueCall α × QueueProgress α → Option α
  | (.enqueue item, .returned _) => some item
  | _ => none

/-- The item that a call has returned. -/
def given : QueueCall α × QueueProgress α → Option α
  | (.dequeue, .returned item) => item
  | _ => none

/-- The queue is bounded and first in, first out; its items are those of the calls that have
returned, each once; and when no call is about to go on, one that waits has reason to. -/
structure Sound (maxSize : Nat) (traffic : Traffic α) : Prop where
  bounded : traffic.control.queue.length ≤ maxSize
  order : traffic.control.shifted ++ traffic.control.queue = traffic.control.pushed
  puts : (traffic.calls.filterMap put).Perm traffic.control.pushed
  gives : (traffic.calls.filterMap given).Perm traffic.control.shifted
  awake : (∀ call ∈ traffic.calls, ∀ id, call.2 = .waits id → id ∉ traffic.control.resolved) →
    ∀ call ∈ traffic.calls, ∀ id, call.2 = .waits id → call.1.Blocked traffic.control

/-- A call that has to wait finds no other one in the slot. -/
def Permits (traffic : Traffic α) : TrafficEvent α → Prop
  | .call made => made.Blocked traffic.control → traffic.control.resolveWaiting = none
  | .resume index => ∀ call, traffic.calls[index]? = some call →
      call.1.Blocked traffic.control → traffic.control.resolveWaiting = none

def Alone (maxSize : Nat) (events : List (TrafficEvent α)) : Prop :=
  ∀ before event, before ++ [event] <+: events → ∀ traffic, run maxSize before = some traffic →
    traffic.Permits event

/-! ## What a call leaves -/

variable {traffic next : Traffic α} {maxSize : Nat}

theorem filterMap_set_perm {β γ : Type} (pick : β → Option γ) {entries : List β} {index : Nat}
    {old : β} (hold : entries[index]? = some old) (hnone : pick old = none) (new : β) :
    ((entries.set index new).filterMap pick).Perm
      (entries.filterMap pick ++ (pick new).toList) := by
  obtain ⟨hindex, rfl⟩ := List.getElem?_eq_some_iff.mp hold
  have hsplit : entries = entries.take index ++ entries[index] :: entries.drop (index + 1) := by
    simp
  rw [List.set_eq_take_append_cons_drop, if_pos hindex]
  conv_rhs => rw [hsplit]
  simp only [List.filterMap_append, List.append_assoc]
  apply List.Perm.append_left
  rw [List.filterMap_cons_none hnone]
  cases hnew : pick new with
  | none => simp [List.filterMap_cons_none hnew]
  | some item =>
      rw [List.filterMap_cons_some hnew]
      exact (List.perm_append_singleton _ _).symm

/-- A call that was not there, or waited, goes on: that is all a step does. -/
inductive Goes (traffic next : Traffic α) (made : QueueCall α) : Prop
  | new (hcontrol : next.control = (made.proceed traffic.control).1)
      (hcalls : next.calls = traffic.calls ++ [(made, (made.proceed traffic.control).2)]) :
      Goes traffic next made
  | again (index id : Nat) (hmade : traffic.calls[index]? = some (made, .waits id))
      (hresolved : id ∈ traffic.control.resolved)
      (hcontrol : next.control = (made.proceed traffic.control).1)
      (hcalls : next.calls = traffic.calls.set index (made, (made.proceed traffic.control).2)) :
      Goes traffic next made

theorem step_goes {event : TrafficEvent α} (hstep : traffic.step event = some next) :
    ∃ made, Goes traffic next made ∧
      (traffic.Permits event → made.Blocked traffic.control →
        traffic.control.resolveWaiting = none) := by
  cases event with
  | call made =>
      cases hstep
      exact ⟨made, .new rfl rfl, fun hpermits => hpermits⟩
  | resume index =>
      simp only [step] at hstep
      split at hstep
      next made id hmade =>
        split at hstep
        next hresolved =>
          cases hstep
          exact ⟨made, .again index id hmade hresolved rfl rfl, fun hpermits => hpermits _ hmade⟩
        next => cases hstep
      next => cases hstep

theorem Goes.control {made : QueueCall α} (hgoes : Goes traffic next made) :
    next.control = (made.proceed traffic.control).1 := by
  cases hgoes with
  | new hcontrol _ => exact hcontrol
  | again _ _ _ _ hcontrol _ => exact hcontrol

theorem Goes.mem {made : QueueCall α} (hgoes : Goes traffic next made)
    {call : QueueCall α × QueueProgress α} (hcall : call ∈ next.calls) :
    call ∈ traffic.calls ∨ call = (made, (made.proceed traffic.control).2) := by
  cases hgoes with
  | new _ hcalls =>
      rw [hcalls] at hcall
      rcases List.mem_append.mp hcall with hold | hnew
      · exact .inl hold
      · exact .inr (List.mem_singleton.mp hnew)
  | again index id _ _ _ hcalls =>
      rw [hcalls] at hcall
      exact List.mem_or_eq_of_mem_set hcall

theorem Goes.filterMap {made : QueueCall α} (hgoes : Goes traffic next made)
    (pick : QueueCall α × QueueProgress α → Option α)
    (hwaits : ∀ made id, pick (made, .waits id) = none) :
    (next.calls.filterMap pick).Perm (traffic.calls.filterMap pick ++
      (pick (made, (made.proceed traffic.control).2)).toList) := by
  cases hgoes with
  | new _ hcalls =>
      rw [hcalls, List.filterMap_append]
      cases hpick : pick (made, (made.proceed traffic.control).2) with
      | none => simp [hpick]
      | some item => simp [hpick]
  | again index id hmade _ _ hcalls =>
      rw [hcalls]
      exact filterMap_set_perm pick hmade (hwaits made id) _

/-! ## What every run keeps -/

/-- What a call puts in and takes out is what is recorded of it. -/
theorem proceed_history (control : BlockingQueue α) (made : QueueCall α) :
    (made.proceed control).1.pushed =
        control.pushed ++ (put (made, (made.proceed control).2)).toList ∧
      (made.proceed control).1.shifted =
        control.shifted ++ (given (made, (made.proceed control).2)).toList := by
  rcases made.proceed_cases control with
    ⟨-, hproceed⟩ | ⟨item, rfl, -, hproceed⟩ | ⟨item, rest, rfl, hqueue, hproceed⟩
  · simp [hproceed, BlockingQueue.wait, put, given]
  · obtain ⟨-, -, hpushed, hshifted⟩ := (control.push item).wake_queue
    rw [hproceed, hpushed, hshifted]
    simp [BlockingQueue.push, put, given]
  · obtain ⟨-, -, hpushed, hshifted⟩ := control.shift.wake_queue
    rw [hproceed, hpushed, hshifted]
    simp [BlockingQueue.shift, put, given, hqueue]

/-- The part of soundness that no order of the calls can break. -/
structure Kept (maxSize : Nat) (traffic : Traffic α) : Prop where
  capacity : traffic.control.maxSize = maxSize
  bounded : traffic.control.queue.length ≤ maxSize
  order : traffic.control.shifted ++ traffic.control.queue = traffic.control.pushed
  puts : (traffic.calls.filterMap put).Perm traffic.control.pushed
  gives : (traffic.calls.filterMap given).Perm traffic.control.shifted

theorem Kept.goes (hkept : Kept maxSize traffic) {made : QueueCall α}
    (hgoes : Goes traffic next made) : Kept maxSize next := by
  have hputs := hgoes.filterMap put fun _ _ => by simp [put]
  have hgives := hgoes.filterMap given fun _ _ => by simp [given]
  obtain ⟨hpushed, hshifted⟩ := proceed_history traffic.control made
  rw [← hgoes.control] at hpushed hshifted
  have hqueue : next.control.maxSize = maxSize ∧ next.control.queue.length ≤ maxSize ∧
      next.control.shifted ++ next.control.queue = next.control.pushed := by
    rw [hgoes.control]
    rcases made.proceed_cases traffic.control with
      ⟨-, hproceed⟩ | ⟨item, rfl, hroom, hproceed⟩ | ⟨item, rest, rfl, hqueue, hproceed⟩
    · rw [hproceed]
      exact ⟨hkept.capacity, hkept.bounded, hkept.order⟩
    · obtain ⟨hqueue, hmaxSize, hpushed, hshifted⟩ := (traffic.control.push item).wake_queue
      rw [hproceed, hqueue, hmaxSize, hpushed, hshifted]
      refine ⟨hkept.capacity, ?_, ?_⟩
      · rw [hkept.capacity] at hroom
        simpa [BlockingQueue.push] using Nat.succ_le_of_lt hroom
      · simp [BlockingQueue.push, ← hkept.order]
    · obtain ⟨hrest, hmaxSize, hpushed, hshifted⟩ := traffic.control.shift.wake_queue
      rw [hproceed, hrest, hmaxSize, hpushed, hshifted]
      have hbounded := hkept.bounded
      refine ⟨hkept.capacity, ?_, ?_⟩
      · simp only [BlockingQueue.shift, hqueue, List.length_cons, List.tail_cons] at hbounded ⊢
        exact Nat.le_of_succ_le hbounded
      · simp [BlockingQueue.shift, hqueue, ← hkept.order]
  refine ⟨hqueue.1, hqueue.2.1, hqueue.2.2, ?_, ?_⟩
  · rw [hpushed]
    exact hputs.trans (hkept.puts.append_right _)
  · rw [hshifted]
    exact hgives.trans (hkept.gives.append_right _)

/-! ## Who waits -/

/-- A call that waits is about to go on, or it is the one in the slot and has reason to wait. -/
def Placed (traffic : Traffic α) : Prop :=
  ∀ call ∈ traffic.calls, ∀ id, call.2 = .waits id → id ∈ traffic.control.resolved ∨
    traffic.control.resolveWaiting = some id ∧ call.1.Blocked traffic.control

theorem Placed.goes (hplaced : traffic.Placed) {made : QueueCall α}
    (hgoes : Goes traffic next made)
    (halone : made.Blocked traffic.control → traffic.control.resolveWaiting = none) :
    next.Placed := by
  intro call hcall id hwaits
  rw [hgoes.control]
  have hmem := hgoes.mem hcall
  rcases made.proceed_cases traffic.control with
    ⟨hblocked, hproceed⟩ | ⟨item, rfl, -, hproceed⟩ | ⟨item, rest, rfl, -, hproceed⟩
  · rw [hproceed] at hmem ⊢
    have hfree := halone hblocked
    rcases hmem with hold | rfl
    · rcases hplaced call hold id hwaits with hresolved | ⟨hslot, -⟩
      · exact .inl hresolved
      · cases hfree.symm.trans hslot
    · -- the queue is as it was when the loop tested it
      cases hwaits
      apply Or.inr
      refine ⟨rfl, ?_⟩
      cases made with
      | enqueue item => exact hblocked
      | dequeue => exact hblocked
  · rw [hproceed] at hmem ⊢
    rcases hmem with hold | rfl
    · apply Or.inl
      apply BlockingQueue.wake_resolved
      exact (hplaced call hold id hwaits).imp_right fun hslot => hslot.1
    · cases hwaits
  · rw [hproceed] at hmem ⊢
    rcases hmem with hold | rfl
    · apply Or.inl
      apply BlockingQueue.wake_resolved
      exact (hplaced call hold id hwaits).imp_right fun hslot => hslot.1
    · cases hwaits

/-! ## Every run -/

theorem run_append (before : List (TrafficEvent α)) (event : TrafficEvent α) :
    run maxSize (before ++ [event]) = (run maxSize before).bind (·.step event) := by
  unfold run
  rw [List.foldlM_append]
  cases before.foldlM step ⟨.create maxSize, []⟩ with
  | none => rfl
  | some traffic => cases hstep : traffic.step event <;> simp [hstep]

theorem kept_run {events : List (TrafficEvent α)} (hrun : run maxSize events = some traffic) :
    Kept maxSize traffic := by
  induction events using List.reverseRecOn generalizing traffic with
  | nil =>
      cases hrun
      exact ⟨rfl, Nat.zero_le _, rfl, .refl _, .refl _⟩
  | append_singleton before event ih =>
      rw [run_append, Option.bind_eq_some_iff] at hrun
      obtain ⟨earlier, hbefore, hstep⟩ := hrun
      obtain ⟨made, hgoes, -⟩ := step_goes hstep
      exact (ih hbefore).goes hgoes

theorem Alone.before {before : List (TrafficEvent α)} {event : TrafficEvent α}
    (halone : Alone maxSize (before ++ [event])) : Alone maxSize before := by
  intro earlier first hbeginning
  exact halone earlier first (hbeginning.trans (List.prefix_append _ _))

theorem placed_run {events : List (TrafficEvent α)} (hrun : run maxSize events = some traffic)
    (halone : Alone maxSize events) : traffic.Placed := by
  induction events using List.reverseRecOn generalizing traffic with
  | nil =>
      cases hrun
      intro call hcall
      cases hcall
  | append_singleton before event ih =>
      rw [run_append, Option.bind_eq_some_iff] at hrun
      obtain ⟨earlier, hbefore, hstep⟩ := hrun
      obtain ⟨made, hgoes, hpermits⟩ := step_goes hstep
      have hearlier := ih hbefore halone.before
      exact hearlier.goes hgoes (hpermits (halone before event List.prefix_rfl earlier hbefore))

/-- When a call that has to wait always finds the slot free, none is stranded. -/
theorem alone_sound {events : List (TrafficEvent α)} (hrun : run maxSize events = some traffic)
    (halone : Alone maxSize events) : Sound maxSize traffic := by
  have hkept := kept_run hrun
  refine ⟨hkept.bounded, hkept.order, hkept.puts, hkept.gives, ?_⟩
  intro hquiet call hcall id hwaits
  rcases placed_run hrun halone call hcall id hwaits with hresolved | ⟨-, hblocked⟩
  · exact absurd hresolved (hquiet call hcall id hwaits)
  · exact hblocked

theorem alone_nil : Alone maxSize ([] : List (TrafficEvent α)) := by
  intro before event hbeginning
  simp at hbeginning

theorem Alone.snoc {before : List (TrafficEvent α)} (halone : Alone maxSize before)
    {event : TrafficEvent α}
    (hpermits : ∀ traffic, run maxSize before = some traffic → traffic.Permits event) :
    Alone maxSize (before ++ [event]) := by
  intro earlier other hbeginning
  rcases List.prefix_concat_iff.mp hbeginning with heq | hearlier
  · obtain ⟨rfl, hsame⟩ := List.append_inj' heq rfl
    cases hsame
    exact hpermits
  · exact halone earlier other hearlier

/-- A consumer waits for the first item. -/
theorem alone_sound_sample :
    Sound 1 (⟨⟨[2], 1, none, 1, [0], [1, 2], [1]⟩,
      [(.dequeue, .returned (some 1)), (.enqueue 1, .returned none),
        (.enqueue 2, .returned none)]⟩ : Traffic Nat) := by
  have hfirst := @Alone.snoc Nat 1 [] alone_nil (.call .dequeue) (by
    rintro traffic ⟨⟩ -
    rfl)
  have hsecond := @Alone.snoc Nat 1 _ hfirst (.call (.enqueue 1)) (by
    rintro traffic ⟨⟩ hblocked
    cases hblocked)
  have hthird := @Alone.snoc Nat 1 _ hsecond (.resume 0) (by
    rintro traffic ⟨⟩ call hcall hblocked
    rfl)
  have hfourth := @Alone.snoc Nat 1 _ hthird (.call (.enqueue 2)) (by
    rintro traffic ⟨⟩ hblocked
    rfl)
  exact alone_sound (by rfl) hfourth

/-- Two consumers wait. The second is woken and takes the first item; nothing wakes the first
one, which waits although there is another item. -/
theorem sound_fails :
    ¬ ∀ (maxSize : Nat), 1 ≤ maxSize → ∀ (events : List (TrafficEvent Nat)) (traffic : Traffic Nat),
      run maxSize events = some traffic → Sound maxSize traffic := by
  intro hall
  have hsound := hall 1 (Nat.le_refl 1)
    [.call .dequeue, .call .dequeue, .call (.enqueue 1), .resume 1, .call (.enqueue 2)]
    ⟨⟨[2], 1, none, 2, [1], [1, 2], [1]⟩,
      [(.dequeue, .waits 0), (.dequeue, .returned (some 1)), (.enqueue 1, .returned none),
        (.enqueue 2, .returned none)]⟩ rfl
  have hblocked := hsound.awake (by
    intro call hcall id hwaits
    rcases List.mem_cons.mp hcall with rfl | hcall
    · cases hwaits
      decide
    · rcases List.mem_cons.mp hcall with rfl | hcall
      · cases hwaits
      · rcases List.mem_cons.mp hcall with rfl | hcall
        · cases hwaits
        · cases List.mem_singleton.mp hcall
          cases hwaits) (.dequeue, .waits 0) List.mem_cons_self 0 rfl
  cases hblocked

end Traffic

end Utp
