import Utp.Foundation.TaskSystem

/-! # Invariants between turns

An invariant that a turn may break on its way, as long as it holds again at the next
await. Nothing else is asked of the tasks, and nothing else is known of the others.
-/

universe u v w

namespace Async

variable {σ : Type u} {α : Type v} {β : Type w} {inv : σ → Prop}

/-- What tasks know of each other that only keep an invariant between turns. -/
def between (inv : σ → Prop) : Contract σ := ⟨inv, fun _ _ => True, fun _ _ => True⟩

/-- From here on, every turn of the task ends with the invariant. -/
def UpholdsFrom (inv : σ → Prop) (task : Async σ α) (state : σ) : Prop :=
  ∀ start, task.Meets (between inv) (fun _ _ next => inv next) start state

/-- Every turn of the task that begins with the invariant ends with it. -/
def Upholds (inv : σ → Prop) (task : Async σ α) : Prop :=
  ∀ state, inv state → task.UpholdsFrom inv state

theorem UpholdsFrom.bind {task : Async σ α} {next : α → Async σ β} {state : σ}
    (htask : task.UpholdsFrom inv state) (hnext : ∀ value, (next value).Upholds inv) :
    (task.bind next).UpholdsFrom inv state := by
  intro start
  refine meets_bind.mpr ((htask start).mono fun result start later hlater => ?_)
  cases result with
  | ok value => exact hnext value later hlater start
  | error error => exact hlater

theorem UpholdsFrom.attempt {task : Async σ α} {handler : String → Async σ α} {state : σ}
    (htask : task.UpholdsFrom inv state) (hhandler : ∀ error, (handler error).Upholds inv) :
    (task.attempt handler).UpholdsFrom inv state := by
  intro start
  refine meets_attempt.mpr ((htask start).mono fun result start later hlater => ?_)
  cases result with
  | ok value => exact hlater
  | error error => exact hhandler error later hlater start

theorem UpholdsFrom.awaited {task : Async σ α} {state : σ} (htask : task.UpholdsFrom inv state) :
    task.awaited.UpholdsFrom inv state := fun start =>
  meets_awaited.mpr ((htask start).mono fun _ _ _ hlater =>
    ⟨hlater, trivial, fun _ hnext _ => hnext⟩)

/-- Only the synchronous part of a call that nobody awaits is left. -/
theorem UpholdsFrom.detached {task : Async σ α} {state : σ} (htask : task.UpholdsFrom inv state) :
    task.detached.UpholdsFrom inv state := by
  intro start
  have hmeets := htask start
  clear htask
  induction task generalizing state with
  | pure => exact hmeets
  | throw => exact hmeets
  | read task ih => exact ih _ hmeets
  | write target task ih => exact ih hmeets
  | await ready task => exact hmeets.1

namespace Upholds

theorem pure {value : α} : (Async.pure value : Async σ α).Upholds inv := fun _ hstate _ => hstate

theorem throw {error : String} : (Async.throw error : Async σ α).Upholds inv :=
  fun _ hstate _ => hstate

theorem bind {task : Async σ α} {next : α → Async σ β} (htask : task.Upholds inv)
    (hnext : ∀ value, (next value).Upholds inv) : (task.bind next).Upholds inv :=
  fun state hstate => (htask state hstate).bind hnext

theorem attempt {task : Async σ α} {handler : String → Async σ α} (htask : task.Upholds inv)
    (hhandler : ∀ error, (handler error).Upholds inv) : (task.attempt handler).Upholds inv :=
  fun state hstate => (htask state hstate).attempt hhandler

theorem awaited {task : Async σ α} (htask : task.Upholds inv) : task.awaited.Upholds inv :=
  fun state hstate => (htask state hstate).awaited

theorem discard {task : Async σ α} (htask : task.Upholds inv) : task.discard.Upholds inv :=
  htask.bind fun _ => pure

theorem modify {change : σ → σ} (hchange : ∀ state, inv state → inv (change state)) :
    (Async.modify change).Upholds inv := fun state hstate _ => hchange state hstate

/-- What the task reads first is the state it starts from. -/
theorem read {next : σ → Async σ β}
    (hnext : ∀ state, inv state → (next state).UpholdsFrom inv state) :
    ((Async.get : Async σ σ).bind next).Upholds inv := hnext

theorem ite {condition : Prop} [Decidable condition] {first second : Async σ α}
    (hfirst : first.Upholds inv) (hsecond : second.Upholds inv) :
    (if condition then first else second).Upholds inv := by
  split
  next => exact hfirst
  next => exact hsecond

/-- Code each write of which keeps the invariant. -/
theorem of_always {move : σ → σ → Prop}
    (hmove : ∀ state target, inv state → move state target → inv target) {task : Async σ α}
    (htask : task.MovesAlways move) : task.Upholds inv := by
  intro state hstate start
  have hmeets := Async.Moves.meets (between inv) (fun _ => True) hmove (fun _ _ _ _ _ => trivial)
    (fun _ => trivial) (fun _ _ _ => trivial) ⟨fun _ _ _ _ => trivial, fun _ _ _ _ => trivial⟩
    (htask state) hstate (show (between inv).guar start state from trivial) trivial
  exact hmeets.mono fun _ _ _ h => h.1

end Upholds

/-! ## Runs -/

variable {ι : Type w} {system : TaskSystem σ ι}

/-- The proof outline of such tasks. -/
def turns (inv : σ → Prop) : Outline σ ι where
  inv := inv
  rely _ _ _ := True
  guar _ _ _ := True
  rest _ _ := True

theorem UpholdsFrom.meets {task : Async σ Unit} {state : σ} (htask : task.UpholdsFrom inv state)
    (label : ι) : task.Meets ((turns inv).contract label) ((turns inv).post label) state state :=
  (htask state).mono fun _ _ _ hstate => ⟨hstate, trivial, trivial⟩

theorem turns_sound
    (hspawn : ∀ state label task, inv state → system.spawn state label task →
      task.UpholdsFrom inv state)
    (henv : ∀ state next, inv state → system.env state next → inv next) :
    (turns inv).Sound system where
  refl _ _ := trivial
  trans _ _ _ _ _ _ := trivial
  compatible _ _ _ _ _ _ _ _ := trivial
  rest _ _ _ _ _ _ _ _ _ := trivial
  idle _ _ _ := trivial
  env start state hstart hmove := ⟨henv start state hstart hmove, fun _ => trivial,
    fun _ _ => trivial⟩
  spawn state label task hstate _ htask := (hspawn state label task hstate htask).meets label

/-- A first task that upholds the invariant starts a run of which it holds throughout. -/
theorem Outline.Sound.upheld (hsound : (turns inv).Sound system) {state : σ} (hstate : inv state)
    {label : ι} {task : Async σ Unit} (htask : task.UpholdsFrom inv state) {config : Config σ ι}
    (hrun : system.Reachable (Config.launch ⟨state, []⟩ label task) config) : inv config.state := by
  have hstart : (turns inv).Holds system ⟨state, []⟩ := .start hstate fun _ => trivial
  have hfirst := hstart.launch hsound (htask.meets label) nofun
  exact (hfirst.reachable hsound hrun).inv

end Async
