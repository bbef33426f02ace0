import Mathlib.Logic.Relation

/-! # Cooperative tasks over a shared state

A task reads and writes a shared state and hands control back only where it
awaits. Everything between two awaits is one turn, which no other task can
interrupt. A task may fail with an error message, and a caller may catch it.
-/

universe u v w

/-- A cooperative task over the shared state `σ` with a result in `α`. -/
inductive Async (σ : Type u) (α : Type v) where
  | pure (value : α)
  | throw (error : String)
  | read (next : σ → Async σ α)
  | write (state : σ) (next : Async σ α)
  | await (ready : σ → Bool) (next : Async σ α)

namespace Async

variable {σ : Type u} {α : Type v} {β : Type w}

/-! ## Sequencing -/

def bind : Async σ α → (α → Async σ β) → Async σ β
  | .pure value, next => next value
  | .throw error, _ => .throw error
  | .read task, next => .read fun state => (task state).bind next
  | .write state task, next => .write state (task.bind next)
  | .await ready task, next => .await ready (task.bind next)

/-- `try task catch handler`: the handler runs where the task would fail. -/
def attempt : Async σ α → (String → Async σ α) → Async σ α
  | .pure value, _ => .pure value
  | .throw error, handler => handler error
  | .read task, handler => .read fun state => (task state).attempt handler
  | .write state task, handler => .write state (task.attempt handler)
  | .await ready task, handler => .await ready (task.attempt handler)

/-- Awaiting a call: the callee starts in the caller's turn, and the caller
gives up its turn once more between the callee's end and its own next step. -/
def awaited : Async σ α → Async σ α
  | .pure value => .await (fun _ => true) (.pure value)
  | .throw error => .await (fun _ => true) (.throw error)
  | .read task => .read fun state => (task state).awaited
  | .write state task => .write state task.awaited
  | .await ready task => .await ready task.awaited

/-- A call nobody awaits: its synchronous part runs in the caller's turn, and
neither its result nor its failure reaches the caller. -/
def detached : Async σ α → Async σ Unit
  | .pure _ => .pure ()
  | .throw _ => .pure ()
  | .read task => .read fun state => (task state).detached
  | .write state task => .write state task.detached
  | .await _ _ => .pure ()

instance : Monad (Async σ) where
  pure := .pure
  bind := bind

@[simp] theorem pure_bind' (value : α) (next : α → Async σ β) :
    (Async.pure value).bind next = next value := rfl

@[simp] theorem bind_eq {γ : Type v} (task : Async σ α) (next : α → Async σ γ) :
    task >>= next = task.bind next := rfl

@[simp] theorem pure_eq (value : α) : (Pure.pure value : Async σ α) = .pure value := rfl

/-- Sequencing is associative, as in JavaScript it does not matter where a chain of awaits is cut.
-/
theorem bind_assoc {γ : Type*} (task : Async σ α) (next : α → Async σ β)
    (last : β → Async σ γ) :
    (task.bind next).bind last = task.bind fun value => (next value).bind last := by
  induction task with
  | pure => rfl
  | throw => rfl
  | read task ih => simp only [bind, ih]
  | write state task ih => simp only [bind, ih]
  | await ready task ih => simp only [bind, ih]

/-! ## Primitives -/

def get : Async σ σ := .read .pure

def gets (view : σ → α) : Async σ α := .read fun state => .pure (view state)

def modify (change : σ → σ) : Async σ Unit := .read fun state => .write (change state) (.pure ())

/-- Wait for a condition on the shared state. -/
def waitUntil (ready : σ → Bool) : Async σ Unit := .await ready (.pure ())

/-- Forget the result; used where a task is started and its value is not read. -/
def discard (task : Async σ α) : Async σ Unit := task.bind fun _ => .pure ()

/-- Run a task on a part of a larger state. -/
def zoom {τ : Type*} (view : τ → σ) (put : τ → σ → τ) : Async σ α → Async τ α
  | .pure value => .pure value
  | .throw error => .throw error
  | .read task => .read fun whole => (task (view whole)).zoom view put
  | .write state task => .read fun whole => .write (put whole state) (task.zoom view put)
  | .await ready task => .await (fun whole => ready (view whole)) (task.zoom view put)

/-- Acting on a part commutes with sequencing. -/
theorem zoom_bind {τ : Type*} (view : τ → σ) (put : τ → σ → τ) (task : Async σ α)
    (next : α → Async σ β) : (task.bind next).zoom view put =
      (task.zoom view put).bind fun value => (next value).zoom view put := by
  induction task with
  | pure => rfl
  | throw => rfl
  | read task ih => simp only [bind, zoom, ih]
  | write state task ih => simp only [bind, zoom, ih]
  | await ready task ih => simp only [bind, zoom, ih]

/-! ## Running -/

/-- One turn: everything up to the next await. The second component is what is
left of the task, if it neither ended nor failed. -/
def turn : Async σ α → σ → σ × Option (Async σ α)
  | .pure _, state => (state, none)
  | .throw _, state => (state, none)
  | .read task, state => (task state).turn state
  | .write state task, _ => task.turn state
  | .await ready task, state => (state, some (.await ready task))

/-- The writes of one turn, each with the state it found and the one it left. -/
def writes : Async σ α → σ → List (σ × σ)
  | .pure _, _ => []
  | .throw _, _ => []
  | .read task, state => (task state).writes state
  | .write target task, state => (state, target) :: task.writes target
  | .await _ _, _ => []

/-- The whole task with no other task in between. `none` is a task that waits
for something only another task could bring about. -/
def run : Async σ α → σ → Option (σ × Except String α)
  | .pure value, state => some (state, .ok value)
  | .throw error, state => some (state, .error error)
  | .read task, state => (task state).run state
  | .write state task, _ => task.run state
  | .await ready task, state => if ready state then task.run state else none

/-- A run of two tasks in sequence is a run of the first and then of the second. -/
theorem run_bind (task : Async σ α) (next : α → Async σ β) (state : σ) :
    (task.bind next).run state = (task.run state).bind fun result =>
      match result.2 with
      | .ok value => (next value).run result.1
      | .error error => some (result.1, .error error) := by
  induction task generalizing state with
  | pure => rfl
  | throw => rfl
  | read task ih => simp only [bind, run, ih]
  | write target task ih => simp only [bind, run, ih]
  | await ready task ih =>
      simp only [bind, run]
      split
      · exact ih state
      · rfl

/-- A run of a `try` block hands what was thrown to the handler. -/
theorem run_attempt (task : Async σ α) (handler : String → Async σ α) (state : σ) :
    (task.attempt handler).run state = (task.run state).bind fun result =>
      match result.2 with
      | .ok value => some (result.1, .ok value)
      | .error error => (handler error).run result.1 := by
  induction task generalizing state with
  | pure => rfl
  | throw => rfl
  | read task ih => simp only [attempt, run, ih]
  | write target task ih => simp only [attempt, run, ih]
  | await ready task ih =>
      simp only [attempt, run]
      split
      · exact ih state
      · rfl

/-- An await that nobody else runs in between changes nothing. -/
@[simp] theorem run_awaited (task : Async σ α) (state : σ) :
    task.awaited.run state = task.run state := by
  induction task generalizing state with
  | pure => rfl
  | throw => rfl
  | read task ih => simp only [awaited, run, ih]
  | write target task ih => simp only [awaited, run, ih]
  | await ready task ih => simp only [awaited, run, ih]

@[simp] theorem run_pure (value : α) (state : σ) :
    (Async.pure value).run state = some (state, .ok value) := rfl

@[simp] theorem run_throw (error : String) (state : σ) :
    (Async.throw error : Async σ α).run state = some (state, .error error) := rfl

@[simp] theorem run_get (state : σ) : (get : Async σ σ).run state = some (state, .ok state) := rfl

@[simp] theorem run_gets (view : σ → α) (state : σ) :
    (gets view).run state = some (state, .ok (view state)) := rfl

@[simp] theorem run_modify (change : σ → σ) (state : σ) :
    (modify change).run state = some (change state, .ok ()) := rfl

/-- A turn of a task on a part of the state is a turn on that part. -/
theorem turn_zoom {τ : Type*} (view : τ → σ) (put : τ → σ → τ)
    (hview : ∀ whole state, view (put whole state) = state)
    (hput : ∀ whole, put whole (view whole) = whole)
    (hputput : ∀ whole first second, put (put whole first) second = put whole second)
    (task : Async σ α) (whole : τ) :
    ((task.zoom view put).turn whole).1 = put whole (task.turn (view whole)).1 := by
  induction task generalizing whole with
  | pure => simp [zoom, turn, hput]
  | throw => simp [zoom, turn, hput]
  | read task ih => simp only [zoom, turn, ih]
  | write target task ih => simp only [zoom, turn, ih, hview, hputput]
  | await ready task => simp [zoom, turn, hput]

/-- A run of a task on a part of the state leaves the rest of it alone. -/
theorem run_zoom {τ : Type*} (view : τ → σ) (put : τ → σ → τ)
    (hview : ∀ whole state, view (put whole state) = state)
    (hput : ∀ whole, put whole (view whole) = whole)
    (hputput : ∀ whole first second, put (put whole first) second = put whole second)
    (task : Async σ α) (whole : τ) :
    (task.zoom view put).run whole =
      (task.run (view whole)).map fun result => (put whole result.1, result.2) := by
  induction task generalizing whole with
  | pure => simp [zoom, run, hput]
  | throw => simp [zoom, run, hput]
  | read task ih => simp only [zoom, run, ih]
  | write target task ih =>
      simp only [zoom, run, ih, hview]
      cases task.run target with
      | none => rfl
      | some result => simp [hputput]
  | await ready task ih =>
      simp only [zoom, run]
      split
      · exact ih whole
      · rfl

end Async
