import Utp.Foundation.Outcome

/-! # Runs that complete

Total correctness of a task that runs with no other task in between: it does not
wait for others, it does not fail, and it ends in the postcondition.
-/

universe u v w

namespace Async

variable {σ : Type u} {α : Type v} {β : Type w}

/-- From the precondition on, the run ends without failure in the postcondition. -/
def Completes (pre : σ → Prop) (post : α → σ → Prop) (task : Async σ α) : Prop :=
  ∀ state, pre state → ∃ value next, task.run state = some (next, .ok value) ∧ post value next

namespace Completes

variable {pre : σ → Prop} {post : α → σ → Prop}

theorem mono {stronger : σ → Prop} {weaker : α → σ → Prop} {task : Async σ α}
    (htask : task.Completes pre post) (hpre : ∀ state, stronger state → pre state)
    (hpost : ∀ value state, post value state → weaker value state) :
    task.Completes stronger weaker := by
  intro state hstate
  obtain ⟨value, next, hrun, hnext⟩ := htask state (hpre state hstate)
  exact ⟨value, next, hrun, hpost value next hnext⟩

theorem pure {value : α} (h : ∀ state, pre state → post value state) :
    (Async.pure value).Completes pre post := fun state hstate => ⟨value, state, rfl, h state hstate⟩

theorem modify {post : Unit → σ → Prop} {change : σ → σ}
    (h : ∀ state, pre state → post () (change state)) :
    (Async.modify change).Completes pre post :=
  fun state hstate => ⟨(), change state, rfl, h state hstate⟩

theorem bind {last : β → σ → Prop} {task : Async σ α} {next : α → Async σ β}
    (htask : task.Completes pre post) (hnext : ∀ value, (next value).Completes (post value) last) :
    (task.bind next).Completes pre last := by
  intro state hstate
  obtain ⟨value, later, hrun, hlater⟩ := htask state hstate
  obtain ⟨result, final, hlast, hfinal⟩ := hnext value later hlater
  refine ⟨result, final, ?_, hfinal⟩
  rw [run_bind, hrun]
  exact hlast

/-- The continuation may use the state it read. -/
theorem read {next : σ → Async σ α}
    (hnext : ∀ state, pre state → (next state).Completes (fun now => now = state) post) :
    ((Async.get : Async σ σ).bind next).Completes pre post :=
  fun state hstate => hnext state hstate state rfl

theorem awaited {task : Async σ α} (htask : task.Completes pre post) :
    task.awaited.Completes pre post := by
  intro state hstate
  rw [run_awaited]
  exact htask state hstate

theorem discard {after : σ → Prop} {task : Async σ α}
    (htask : task.Completes pre fun _ => after) : task.discard.Completes pre fun _ => after :=
  htask.bind fun _ => .pure fun _ => id

/-- A task that completes needs no handler. -/
theorem attempt {task : Async σ α} {handler : String → Async σ α}
    (htask : task.Completes pre post) : (task.attempt handler).Completes pre post := by
  intro state hstate
  obtain ⟨value, next, hrun, hnext⟩ := htask state hstate
  refine ⟨value, next, ?_, hnext⟩
  rw [run_attempt, hrun]
  rfl

theorem ite {condition : Prop} [Decidable condition] {first second : Async σ α}
    (hfirst : condition → first.Completes pre post)
    (hsecond : ¬ condition → second.Completes pre post) :
    (if condition then first else second).Completes pre post := by
  split
  next h => exact hfirst h
  next h => exact hsecond h

end Completes

/-- Of a call that nobody awaits, the first turn is run. -/
theorem run_detached (task : Async σ α) (state : σ) :
    task.detached.run state = some ((task.detached.turn state).1, .ok ()) := by
  induction task generalizing state with
  | pure => rfl
  | throw => rfl
  | read task ih => exact ih _ state
  | write target task ih => exact ih target
  | await => rfl

end Async
