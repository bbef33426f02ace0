import Mathlib.Data.List.Basic
import Mathlib.Data.List.Nodup
import Utp.Foundation.TaskSystem

/-! # Runs with their history

A run in which every call has a number. Its history tells in which states a call took its
turns, and who wrote what, in order. `Traced.recorded` is the induction rule for what a run has
written, `Traced.played` says what each call has done and where it stands, and `Logs` what a
single call writes whatever the others do.
-/

universe u v w

namespace Async

variable {σ : Type u} {α : Type v} {β : Type w}

/-! ## One call -/

/-- Where a task stands after a turn. -/
def rest : Async σ α → σ → Async σ α
  | .pure value, _ => .pure value
  | .throw error, _ => .throw error
  | .read task, state => (task state).rest state
  | .write target task, _ => task.rest target
  | .await ready task, _ => .await ready task

def isAwait : Async σ α → Bool
  | .await _ _ => true
  | _ => false

/-- A turn leaves a rest if and only if the task suspends. -/
theorem turn_rest (task : Async σ α) (state : σ) :
    (task.turn state).2 = if (task.rest state).isAwait then some (task.rest state) else none := by
  induction task generalizing state with
  | pure => rfl
  | throw => rfl
  | read task ih => exact ih _ _
  | write target task ih => exact ih _
  | await ready task => rfl

/-- Awaiting a task adds no write. -/
theorem writes_awaited (task : Async σ α) (state : σ) :
    task.awaited.writes state = task.writes state := by
  induction task generalizing state with
  | pure => rfl
  | throw => rfl
  | read task ih => exact ih _ _
  | write target task ih => exact congrArg (List.cons _) (ih _)
  | await ready task => rfl

/-- Turns taken in these states, one after the other, make these writes and leave the task
there. -/
inductive Played (task : Async σ α) : List σ → List (σ × σ) → Async σ α → Prop
  | start (state : σ) : Played task [state] (task.writes state) (task.rest state)
  | turn {states : List σ} {own : List (σ × σ)} {ready : σ → Bool} {next : Async σ α}
      (hplayed : Played task states own (.await ready next)) (state : σ)
      (hready : ready state = true) :
      Played task (states ++ [state]) (own ++ next.writes state) (next.rest state)

/-- A task whose error is dropped makes the same writes. -/
theorem discard_turn (task : Async σ α) (state : σ) :
    task.discard.writes state = task.writes state ∧
      task.discard.rest state = (task.rest state).discard := by
  induction task generalizing state with
  | pure => exact ⟨rfl, rfl⟩
  | throw => exact ⟨rfl, rfl⟩
  | read task ih => exact ih _ _
  | write target task ih =>
      obtain ⟨hwrites, hrest⟩ := ih target
      exact ⟨congrArg _ hwrites, hrest⟩
  | await ready task => exact ⟨rfl, rfl⟩

theorem isAwait_discard (task : Async σ α) : task.discard.isAwait = task.isAwait := by
  cases task <;> rfl

/-- Nothing but its result is forgotten of a call that is not awaited. -/
theorem Played.of_discard {task : Async σ α} {states : List σ} {own : List (σ × σ)}
    {later : Async σ Unit} (hplayed : task.discard.Played states own later) :
    ∃ rest, task.Played states own rest ∧ later = rest.discard := by
  induction hplayed with
  | start state =>
      obtain ⟨hwrites, hrest⟩ := discard_turn task state
      rw [hwrites]
      exact ⟨_, .start state, hrest⟩
  | @turn states own ready next _ state hready ih =>
      obtain ⟨rest, hplayed, hrest⟩ := ih
      cases rest with
      | await ready' next' =>
          cases hrest
          obtain ⟨hwrites, hnext⟩ := discard_turn next' state
          have hwrites' : (next'.bind fun _ => Async.pure ()).writes state = next'.writes state :=
            hwrites
          rw [hwrites']
          exact ⟨_, hplayed.turn state hready, hnext⟩
      | pure value => cases hrest
      | throw error => cases hrest
      | read task => cases hrest
      | write target task => cases hrest

/-! ## What a call writes -/

/-- Whatever state the task finds after an await, its writes and its result satisfy the
postcondition. `own` are those it has made. -/
def Logs (post : List (σ × σ) → Except String α → σ → Prop) :
    Async σ α → List (σ × σ) → σ → Prop
  | .pure value, own, state => post own (.ok value) state
  | .throw error, own, state => post own (.error error) state
  | .read task, own, state => (task state).Logs post own state
  | .write target task, own, state => task.Logs post (own ++ [(state, target)]) target
  | .await ready task, own, _ => ∀ later, ready later = true → task.Logs post own later

section Logs

variable {own : List (σ × σ)} {state : σ}

/-- The postcondition may be weakened. -/
theorem Logs.mono {post weaker : List (σ × σ) → Except String α → σ → Prop}
    (hpost : ∀ own result state, post own result state → weaker own result state)
    {task : Async σ α} (htask : task.Logs post own state) : task.Logs weaker own state := by
  induction task generalizing own state with
  | pure => exact hpost _ _ _ htask
  | throw => exact hpost _ _ _ htask
  | read task ih => exact ih _ htask
  | write target task ih => exact ih htask
  | await ready task ih => exact fun later hready => ih (htask later hready)

/-- The log of a sequence is the log of its parts. -/
theorem logs_bind {post : List (σ × σ) → Except String β → σ → Prop} {task : Async σ α}
    {next : α → Async σ β} :
    (task.bind next).Logs post own state ↔
      task.Logs (fun own result state =>
        match result with
        | .ok value => (next value).Logs post own state
        | .error error => post own (.error error) state) own state := by
  induction task generalizing own state with
  | pure => rfl
  | throw => rfl
  | read task ih => exact ih _
  | write target task ih => exact ih
  | await ready task ih => simp only [bind, Logs, ih]

/-- The writes of a task that always makes the same moves. -/
theorem MovesAlways.logs {move : σ → σ → Prop} {task : Async σ α} (htask : task.MovesAlways move) :
    task.Logs (fun later _ _ => ∃ more, later = own ++ more ∧
      ∀ write ∈ more, move write.1 write.2) own state := by
  have hmoves := htask state
  clear htask
  induction task generalizing own state with
  | pure => exact ⟨[], by simp, by simp⟩
  | throw => exact ⟨[], by simp, by simp⟩
  | read task ih => exact ih _ hmoves
  | write target task ih =>
      apply (ih hmoves.2).mono
      rintro later result final ⟨more, rfl, hmore⟩
      refine ⟨(state, target) :: more, by simp, ?_⟩
      intro write hwrite
      rcases List.mem_cons.mp hwrite with rfl | hwrite
      · exact hmoves.1
      · exact hmore write hwrite
  | await ready task ih => exact fun later hready => ih (hmoves later trivial hready)

/-- A turn moves its writes from what is ahead to what has been written. -/
theorem logs_rest {post : List (σ × σ) → Except String α → σ → Prop} {task : Async σ α} :
    (task.rest state).Logs post (own ++ task.writes state) (task.turn state).1 ↔
      task.Logs post own state := by
  induction task generalizing own state with
  | pure => simp [rest, writes, turn, Logs]
  | throw => simp [rest, writes, turn, Logs]
  | read task ih => exact ih _
  | write target task ih =>
      simp only [rest, writes, turn, Logs]
      rw [← ih]
      simp
  | await ready task => simp [rest, writes, turn, Logs]

/-- At any time the writes so far are on the way to the postcondition. -/
theorem Played.logs {post : List (σ × σ) → Except String α → σ → Prop} {task : Async σ α}
    (htask : ∀ state, task.Logs post [] state) {states : List σ} {own : List (σ × σ)}
    {rest : Async σ α} (hplayed : task.Played states own rest) :
    ∃ state, rest.Logs post own state := by
  induction hplayed with
  | start state => exact ⟨_, logs_rest.mpr (htask state)⟩
  | turn _ state hready ih =>
      obtain ⟨_, hlogs⟩ := ih
      exact ⟨_, logs_rest.mpr (hlogs state hready)⟩

end Logs

/-- As `Logs`, and the writes so far satisfy `keep` whenever the task pauses or ends. -/
def LogsThrough (keep : List (σ × σ) → Prop) (post : List (σ × σ) → Except String α → σ → Prop) :
    Async σ α → List (σ × σ) → σ → Prop
  | .pure value, own, state => keep own ∧ post own (.ok value) state
  | .throw error, own, state => keep own ∧ post own (.error error) state
  | .read task, own, state => (task state).LogsThrough keep post own state
  | .write target task, own, state => task.LogsThrough keep post (own ++ [(state, target)]) target
  | .await ready task, own, _ =>
      keep own ∧ ∀ later, ready later = true → task.LogsThrough keep post own later

section LogsThrough

variable {keep : List (σ × σ) → Prop} {own : List (σ × σ)} {state : σ}

/-- The postcondition may be weakened. -/
theorem LogsThrough.mono {post weaker : List (σ × σ) → Except String α → σ → Prop}
    (hpost : ∀ own result state, post own result state → weaker own result state)
    {task : Async σ α} (htask : task.LogsThrough keep post own state) :
    task.LogsThrough keep weaker own state := by
  induction task generalizing own state with
  | pure => exact ⟨htask.1, hpost _ _ _ htask.2⟩
  | throw => exact ⟨htask.1, hpost _ _ _ htask.2⟩
  | read task ih => exact ih _ htask
  | write target task ih => exact ih htask
  | await ready task ih =>
      exact ⟨htask.1, fun later hready => ih (htask.2 later hready)⟩

/-- At the end `keep` holds too. -/
theorem LogsThrough.kept {post : List (σ × σ) → Except String α → σ → Prop} {task : Async σ α}
    (htask : task.LogsThrough keep post own state) :
    task.LogsThrough keep (fun own result state => keep own ∧ post own result state) own state := by
  induction task generalizing own state with
  | pure => exact ⟨htask.1, htask⟩
  | throw => exact ⟨htask.1, htask⟩
  | read task ih => exact ih _ htask
  | write target task ih => exact ih htask
  | await ready task ih =>
      exact ⟨htask.1, fun later hready => ih (htask.2 later hready)⟩

/-- The log of a sequence, which keeps the condition at its awaits. -/
theorem LogsThrough.bind {post : List (σ × σ) → Except String β → σ → Prop} {task : Async σ α}
    {next : α → Async σ β} (htask : task.LogsThrough keep (fun own result state =>
      match result with
      | .ok value => (next value).LogsThrough keep post own state
      | .error error => post own (.error error) state) own state) :
    (task.bind next).LogsThrough keep post own state := by
  induction task generalizing own state with
  | pure => exact htask.2
  | throw => exact htask
  | read task ih => exact ih _ htask
  | write target task ih => exact ih htask
  | await ready task ih =>
      exact ⟨htask.1, fun later hready => ih (htask.2 later hready)⟩

/-- A task that always makes the same moves, none of which matters to `keep`. -/
theorem MovesAlways.logsThrough {move : σ → σ → Prop} {task : Async σ α}
    (htask : task.MovesAlways move)
    (hkeep : ∀ more : List (σ × σ), (∀ write ∈ more, move write.1 write.2) → keep (own ++ more)) :
    task.LogsThrough keep (fun later _ _ => ∃ more, later = own ++ more ∧
      ∀ write ∈ more, move write.1 write.2) own state := by
  have hmoves := htask state
  clear htask
  have hown : keep own := by simpa using hkeep []
  induction task generalizing own state with
  | pure => exact ⟨hown, [], by simp, by simp⟩
  | throw => exact ⟨hown, [], by simp, by simp⟩
  | read task ih => exact ih _ hkeep hmoves hown
  | write target task ih =>
      have hmore : ∀ more : List (σ × σ), (∀ write ∈ more, move write.1 write.2) →
          keep (own ++ [(state, target)] ++ more) := by
        intro more hmore
        rw [List.append_assoc]
        apply hkeep
        intro write hwrite
        rcases List.mem_cons.mp hwrite with rfl | hwrite
        · exact hmoves.1
        · exact hmore write hwrite
      apply LogsThrough.mono _ (ih hmore hmoves.2 (by simpa using hmore []))
      rintro later result final ⟨more, rfl, hmore⟩
      refine ⟨(state, target) :: more, by simp, ?_⟩
      intro write hwrite
      rcases List.mem_cons.mp hwrite with rfl | hwrite
      · exact hmoves.1
      · exact hmore write hwrite
  | await ready task ih =>
      exact ⟨hown, fun later hready => ih hkeep (hmoves later trivial hready) hown⟩

/-- At the end of a turn the writes so far satisfy `keep`, and the rest goes on from there. -/
theorem LogsThrough.rest {post : List (σ × σ) → Except String α → σ → Prop} {task : Async σ α}
    (htask : task.LogsThrough keep post own state) :
    keep (own ++ task.writes state) ∧
      (task.rest state).LogsThrough keep post (own ++ task.writes state) (task.turn state).1 := by
  induction task generalizing own state with
  | pure value =>
      change keep (own ++ []) ∧ LogsThrough keep post (.pure value) (own ++ []) state
      rw [List.append_nil]
      exact ⟨htask.1, htask⟩
  | throw error =>
      change keep (own ++ []) ∧ LogsThrough keep post (.throw error) (own ++ []) state
      rw [List.append_nil]
      exact ⟨htask.1, htask⟩
  | read task ih => exact ih _ htask
  | write target task ih =>
      have hwrites : own ++ (Async.write target task).writes state =
          own ++ [(state, target)] ++ task.writes target := by
        rw [List.append_assoc]
        rfl
      rw [hwrites]
      exact ih htask
  | await ready task ih =>
      change keep (own ++ []) ∧ LogsThrough keep post (.await ready task) (own ++ []) state
      rw [List.append_nil]
      exact ⟨htask.1, htask⟩

/-- Wherever a call stands, its writes so far satisfy `keep`. -/
theorem Played.through {post : List (σ × σ) → Except String α → σ → Prop} {task : Async σ α}
    (htask : ∀ state, task.LogsThrough keep post [] state) {states : List σ}
    {rest : Async σ α} (hplayed : task.Played states own rest) : keep own := by
  have hgoes : keep own ∧ ∃ state, rest.LogsThrough keep post own state := by
    induction hplayed with
    | start state =>
        obtain ⟨hkeep, hrest⟩ := (htask state).rest
        exact ⟨hkeep, _, hrest⟩
    | turn _ state hready ih =>
        obtain ⟨-, _, hawait⟩ := ih
        obtain ⟨hkeep, hrest⟩ := (hawait.2 state hready).rest
        exact ⟨hkeep, _, hrest⟩
  exact hgoes.1

end LogsThrough

/-! ## Runs and their history -/

/-- A configuration whose tasks are numbered, with what has been called, the states in
which calls took their turns, and the writes in order; those of the environment have no
author. -/
structure Trace (σ : Type u) (ι : Type v) where
  config : Config σ (ι × Nat)
  calls : List (ι × Async σ Unit)
  turns : List (Nat × σ)
  writes : List (Option Nat × σ × σ)

/-- The configuration without the numbers. -/
def Config.untag {σ : Type u} {ι : Type v} (config : Config σ (ι × Nat)) : Config σ ι where
  state := config.state
  tasks := config.tasks.map fun entry => (entry.1.1, entry.2)

namespace Trace

variable {σ : Type u} {ι : Type v}

/-- Nothing has been called yet. -/
def start (state : σ) : Trace σ ι :=
  ⟨⟨state, []⟩, [], [], []⟩

/-- What a turn leaves of the configuration, on record. -/
def record (trace : Trace σ ι) (number : Nat) (task : Async σ Unit)
    (config : Config σ (ι × Nat)) : Trace σ ι where
  config := config
  calls := trace.calls
  turns := trace.turns ++ [(number, trace.config.state)]
  writes := trace.writes ++
    (task.writes trace.config.state).map fun write => (some number, write)

/-- Call a task: it gets the next number, and its first turn runs at once. -/
def launch (trace : Trace σ ι) (label : ι) (task : Async σ Unit) : Trace σ ι :=
  { trace.record trace.calls.length task
      (trace.config.launch (label, trace.calls.length) task) with
    calls := trace.calls ++ [(label, task)] }

/-- Resume the task at a position for one turn, if it is ready. -/
def resume (trace : Trace σ ι) (position : Nat) : Trace σ ι :=
  match trace.config.tasks[position]? with
  | some ((_, number), .await ready task) =>
      if ready trace.config.state then
        trace.record number task (trace.config.resume position)
      else trace
  | _ => trace

def resumes (trace : Trace σ ι) (positions : List Nat) : Trace σ ι :=
  positions.foldl resume trace

/-- Either the task was not ready, or one call has taken a turn. -/
theorem resume_cases (trace : Trace σ ι) (position : Nat) : trace.resume position = trace ∨
    ∃ number task, trace.resume position =
      trace.record number task (trace.config.resume position) := by
  unfold resume
  split
  next label number ready task _ =>
    split
    next => exact .inr ⟨number, task, rfl⟩
    next => exact .inl rfl
  next => exact .inl rfl

/-- Going on calls nothing new. -/
theorem resumes_calls (trace : Trace σ ι) (positions : List Nat) :
    (trace.resumes positions).calls = trace.calls := by
  induction positions generalizing trace with
  | nil => rfl
  | cons position rest ih =>
      change ((trace.resume position).resumes rest).calls = _
      rw [ih]
      unfold resume
      split
      next => split <;> rfl
      next => rfl

/-- The environment moves. -/
def move (trace : Trace σ ι) (state : σ) : Trace σ ι :=
  { trace with
    config := { trace.config with state := state }
    writes := trace.writes ++ [(none, trace.config.state, state)] }

/-- The states in which a call took its turns. -/
def turnsOf (trace : Trace σ ι) (number : Nat) : List σ :=
  (trace.turns.filter fun turn => turn.1 = number).map Prod.snd

/-- What a call has written. -/
def writesOf (trace : Trace σ ι) (number : Nat) : List (σ × σ) :=
  (trace.writes.filter fun write => write.1 = some number).map Prod.snd

end Trace

namespace TaskSystem

variable {σ : Type u} {ι : Type v}

/-- Every run, with its history. -/
inductive Traced (system : TaskSystem σ ι) (initial : Trace σ ι) : Trace σ ι → Prop
  | refl : system.Traced initial initial
  | launch {trace : Trace σ ι} {label : ι} {task : Async σ Unit}
      (hrun : system.Traced initial trace)
      (hspawn : system.spawn trace.config.state label task)
      (hfree : system.exclusive label → ∀ other ∈ trace.config.tasks, other.1.1 ≠ label) :
      system.Traced initial (trace.launch label task)
  | resume {trace : Trace σ ι} (hrun : system.Traced initial trace) (position : Nat) :
      system.Traced initial (trace.resume position)
  | env {trace : Trace σ ι} {state : σ} (hrun : system.Traced initial trace)
      (henv : system.env trace.config.state state) : system.Traced initial (trace.move state)

end TaskSystem

namespace Config

variable {σ : Type u} {ι : Type v}

/-- Forgetting the numbers, a call is a call. -/
theorem untag_launch (config : Config σ (ι × Nat)) (label : ι) (number : Nat)
    (task : Async σ Unit) :
    (config.launch (label, number) task).untag = config.untag.launch label task := by
  simp only [launch, untag, List.map_append]
  congr 2
  unfold suspended
  split <;> rfl

/-- Forgetting the numbers, a turn is a turn. -/
theorem untag_resume (config : Config σ (ι × Nat)) (position : Nat) :
    (config.resume position).untag = config.untag.resume position := by
  have hentry : config.untag.tasks[position]? =
      (config.tasks[position]?).map fun entry => (entry.1.1, entry.2) := by
    simp [untag]
  unfold resume
  rw [hentry]
  cases config.tasks[position]? with
  | none => rfl
  | some entry =>
      obtain ⟨⟨label, number⟩, task⟩ := entry
      cases task with
      | await ready task =>
          simp only [Option.map_some]
          by_cases hready : ready config.state = true
          · have hready' : ready config.untag.state = true := hready
            rw [if_pos hready, if_pos hready']
            simp only [untag, List.map_append, List.map_take, List.map_drop]
            congr 3
            unfold suspended
            split <;> rfl
          · have hready' : ¬ ready config.untag.state = true := hready
            rw [if_neg hready, if_neg hready']
      | pure value => rfl
      | throw error => rfl
      | read task => rfl
      | write target task => rfl

end Config

namespace TaskSystem

variable {σ : Type u} {ι : Type v} {system : TaskSystem σ ι} {initial trace : Trace σ ι}

theorem untag_record (trace : Trace σ ι) (position : Nat) :
    (trace.resume position).config.untag = trace.config.untag.resume position := by
  rw [← Config.untag_resume]
  unfold Trace.resume
  split
  next label number ready task hentry =>
    split
    next => rfl
    next hready =>
      unfold Config.resume
      rw [hentry]
      simp only [if_neg hready]
  next hother =>
    unfold Config.resume
    split
    next label ready task hentry => exact absurd hentry (hother _ _ _ _)
    next => rfl

/-- A run is a run, whether its history is kept or not. -/
theorem Traced.reachable (hrun : system.Traced initial trace) :
    system.Reachable initial.config.untag trace.config.untag := by
  induction hrun with
  | refl => exact .refl
  | @launch trace label task _ hspawn hfree ih =>
      refine ih.step ?_
      rw [show (trace.launch label task).config = trace.config.launch (label, trace.calls.length)
        task from rfl, Config.untag_launch]
      refine .launch hspawn fun hexclusive other hother => ?_
      obtain ⟨entry, hentry, rfl⟩ := List.mem_map.mp hother
      exact hfree hexclusive entry hentry
  | @resume trace _ position ih =>
      rw [untag_record]
      exact ih.step (.resume position)
  | env _ henv ih => exact ih.step (.env henv)

/-- Turns at several positions go on with a run. -/
theorem Traced.resumes (hrun : system.Traced initial trace) (positions : List Nat) :
    system.Traced initial (trace.resumes positions) := by
  induction positions generalizing trace with
  | nil => exact hrun
  | cons position rest ih => exact ih (hrun.resume position)

/-- A run from where a run ends is a run. -/
theorem Traced.trans {later : Trace σ ι} (hrun : system.Traced initial trace)
    (hlater : system.Traced trace later) : system.Traced initial later := by
  induction hlater with
  | refl => exact hrun
  | launch _ hspawn hfree ih => exact ih.launch hspawn hfree
  | resume _ position ih => exact ih.resume position
  | env _ henv ih => exact ih.env henv

/-- Every run has a history. -/
theorem Reachable.traced {config : Config σ ι}
    (hrun : system.Reachable initial.config.untag config) :
    ∃ trace, system.Traced initial trace ∧ trace.config.untag = config := by
  induction hrun with
  | refl => exact ⟨initial, .refl, rfl⟩
  | step _ hstep ih =>
      obtain ⟨trace, htraced, rfl⟩ := ih
      cases hstep with
      | @launch label task hspawn hfree =>
          refine ⟨_, htraced.launch hspawn fun hexclusive other hother => ?_,
            Config.untag_launch _ label _ task⟩
          exact hfree hexclusive _ (List.mem_map.mpr ⟨other, hother, rfl⟩)
      | resume position => exact ⟨_, htraced.resume position, untag_record trace position⟩
      | env henv => exact ⟨_, htraced.env henv, rfl⟩

/-- Whatever has been called was spawned. -/
theorem Traced.spawned (hrun : system.Traced initial trace) {call : ι × Async σ Unit}
    (hcall : call ∈ trace.calls) :
    call ∈ initial.calls ∨ ∃ state, system.spawn state call.1 call.2 := by
  induction hrun with
  | refl => exact .inl hcall
  | launch _ hspawn _ ih =>
      rcases List.mem_append.mp hcall with hold | hnew
      · exact ih hold
      · rw [List.mem_singleton.mp hnew]
        exact .inr ⟨_, hspawn⟩
  | @resume trace _ position ih =>
      apply ih
      rcases trace.resume_cases position with hsame | ⟨number, task, hsame⟩
      · rwa [hsame] at hcall
      · rwa [hsame] at hcall
  | env _ _ ih => exact ih hcall

/-- What nobody has written, the environment has. -/
theorem Traced.unauthored (hrun : system.Traced initial trace)
    (hinitial : ∀ write ∈ initial.writes, write.1 ≠ none) {write : Option Nat × σ × σ}
    (hwrite : write ∈ trace.writes) (hauthor : write.1 = none) :
    system.env write.2.1 write.2.2 := by
  have hturn : ∀ {number : Nat} {writes : List (σ × σ)},
      write ∉ writes.map fun write => (some number, write) := by
    intro number writes hmem
    obtain ⟨own, -, rfl⟩ := List.mem_map.mp hmem
    cases hauthor
  induction hrun with
  | refl => exact absurd hauthor (hinitial write hwrite)
  | launch _ _ _ ih =>
      rcases List.mem_append.mp hwrite with hold | hnew
      · exact ih hold
      · exact absurd hnew hturn
  | @resume trace _ position ih =>
      rcases trace.resume_cases position with hsame | ⟨number, task, hsame⟩
      · rw [hsame] at hwrite
        exact ih hwrite
      · rw [hsame] at hwrite
        rcases List.mem_append.mp hwrite with hold | hnew
        · exact ih hold
        · exact absurd hnew hturn
  | env _ henv ih =>
      rcases List.mem_append.mp hwrite with hold | hnew
      · exact ih hold
      · rw [List.mem_singleton.mp hnew]
        exact henv

/-! ## What a run has written -/

/-- The writes of a turn lead from where it starts to where it ends. -/
theorem writes_induction {task : Async σ Unit} {state : σ}
    {keep : List (σ × σ) → σ → Prop} (hstart : keep [] state)
    (hwrite : ∀ before start target, keep before start →
      (start, target) ∈ task.writes state → keep (before ++ [(start, target)]) target) :
    keep (task.writes state) (task.turn state).1 := by
  induction task generalizing state keep with
  | pure => exact hstart
  | throw => exact hstart
  | read task ih => exact ih _ hstart hwrite
  | write target task ih =>
      have hfirst := hwrite [] state target hstart List.mem_cons_self
      refine @ih target (fun before final => keep ((state, target) :: before) final) hfirst ?_
      intro before start final hbefore hmem
      exact hwrite _ start final hbefore (List.mem_cons_of_mem _ hmem)
  | await ready task => exact hstart

/-- What the first history has and every write keeps, every history has. -/
theorem Traced.recorded {keep : List (Option Nat × σ × σ) → σ → Prop}
    (hrun : system.Traced initial trace) (hinitial : keep initial.writes initial.config.state)
    (hwrite : ∀ before author start target, keep before start →
      system.Write initial.config.untag start target →
        keep (before ++ [(author, start, target)]) target) :
    keep trace.writes trace.config.state := by
  induction hrun with
  | refl => exact hinitial
  | @launch trace label task hrun hspawn hfree ih =>
      refine @writes_induction _ task trace.config.state
        (fun before final => keep (trace.writes ++
          before.map fun write => (some trace.calls.length, write)) final) (by simpa using ih) ?_
      intro before start target hbefore hmem
      rw [List.map_append, ← List.append_assoc]
      refine hwrite _ _ _ _ hbefore (@Write.launch _ _ _ _ trace.config.untag label task
        (start, target) hrun.reachable hspawn ?_ hmem)
      intro hexclusive other hother
      obtain ⟨entry, hentry, rfl⟩ := List.mem_map.mp hother
      exact hfree hexclusive entry hentry
  | @resume trace hrun position ih =>
      unfold Trace.resume
      split
      next label number ready task hentry =>
        split
        next hready =>
          have hstate : (trace.config.resume position).state =
            (task.turn trace.config.state).1 := by
            rw [Config.resume, hentry]
            simp only [if_pos hready]
          change keep (trace.writes ++ (task.writes trace.config.state).map
            fun write => (some number, write)) (trace.config.resume position).state
          rw [hstate]
          refine @writes_induction _ task trace.config.state
            (fun before final => keep (trace.writes ++
              before.map fun write => (some number, write)) final) (by simpa using ih) ?_
          intro before start target hbefore hmem
          rw [List.map_append, ← List.append_assoc]
          refine hwrite _ _ _ _ hbefore (@Write.resume _ _ _ _ trace.config.untag label ready task
            (start, target) hrun.reachable ?_ hready hmem)
          exact List.mem_map.mpr ⟨_, List.mem_of_getElem? hentry, rfl⟩
        next => exact ih
      next => exact ih
  | env hrun henv ih => exact hwrite _ _ _ _ ih (.env hrun.reachable henv)

/-! ## What each call has done -/

end TaskSystem

namespace Trace

variable {σ : Type u} {ι : Type v}

/-- The history tells of every call how far it is: the turns it took made its writes and left
it where it stands, suspended in the configuration or at its end. -/
structure Faithful (trace : Trace σ ι) : Prop where
  tasks : ∀ entry ∈ trace.config.tasks, entry.1.2 < trace.calls.length
  nodup : (trace.config.tasks.map fun entry => entry.1.2).Nodup
  turns : ∀ turn ∈ trace.turns, turn.1 < trace.calls.length
  writes : ∀ write ∈ trace.writes, ∀ number, write.1 = some number → number < trace.calls.length
  played : ∀ number label task, trace.calls[number]? = some (label, task) →
    ∃ rest, task.Played (trace.turnsOf number) (trace.writesOf number) rest ∧
      (rest.isAwait = true → ((label, number), rest) ∈ trace.config.tasks) ∧
      (rest.isAwait = false → ∀ entry ∈ trace.config.tasks, entry.1.2 ≠ number)

/-- The history of the start is faithful. -/
theorem start_faithful (state : σ) : (start state : Trace σ ι).Faithful := by
  constructor <;> simp [start]

/-- The suspended task of a number is the one whose history it is. -/
theorem Faithful.entry {trace : Trace σ ι} (h : trace.Faithful)
    {entry other : (ι × Nat) × Async σ Unit} (hentry : entry ∈ trace.config.tasks)
    (hother : other ∈ trace.config.tasks) (hnumber : entry.1.2 = other.1.2) : entry = other := by
  exact List.inj_on_of_nodup_map h.nodup hentry hother hnumber

/-- Only the task that took the turn has one more. -/
theorem turnsOf_record (trace : Trace σ ι) (number other : Nat) (task : Async σ Unit)
    (config : Config σ (ι × Nat)) :
    (trace.record number task config).turnsOf other =
      if other = number then trace.turnsOf other ++ [trace.config.state]
      else trace.turnsOf other := by
  simp only [turnsOf, record, List.filter_append, List.map_append]
  by_cases hnumber : other = number
  · simp [hnumber]
  · simp [hnumber, Ne.symm hnumber]

/-- Only the task that took the turn has written. -/
theorem writesOf_record (trace : Trace σ ι) (number other : Nat) (task : Async σ Unit)
    (config : Config σ (ι × Nat)) :
    (trace.record number task config).writesOf other =
      if other = number then trace.writesOf other ++ task.writes trace.config.state
      else trace.writesOf other := by
  simp only [writesOf, record, List.filter_append, List.map_append, List.filter_map]
  by_cases hnumber : other = number
  · subst hnumber
    simp [Function.comp_def]
  · have hother : ¬ number = other := Ne.symm hnumber
    simp [Function.comp_def, hnumber, hother]

/-- A turn of one call, the others untouched. -/
theorem Faithful.turn {trace : Trace σ ι} (h : trace.Faithful) {label : ι} {number : Nat}
    {first task : Async σ Unit} {calls : List (ι × Async σ Unit)}
    {before after : List ((ι × Nat) × Async σ Unit)} {final : σ}
    (hothers : ∀ entry, entry ∈ before ++ after ↔
      entry ∈ trace.config.tasks ∧ entry.1.2 ≠ number)
    (hnodup : ((before ++ after).map fun entry => entry.1.2).Nodup)
    (hmore : trace.calls.length ≤ calls.length) (hcall : calls[number]? = some (label, first))
    (hcalls : ∀ other, other ≠ number → calls[other]? = trace.calls[other]?)
    (hplayed : first.Played (trace.turnsOf number ++ [trace.config.state])
      (trace.writesOf number ++ task.writes trace.config.state) (task.rest trace.config.state)) :
    Faithful { trace.record number task ⟨final, before ++ Config.suspended (label, number)
      (task.turn trace.config.state).2 ++ after⟩ with calls := calls } := by
  have hknown : number < calls.length := (List.getElem?_eq_some_iff.mp hcall).1
  have hmem : ∀ entry, entry ∈ before ++ Config.suspended (label, number)
      (task.turn trace.config.state).2 ++ after ↔
        (entry ∈ trace.config.tasks ∧ entry.1.2 ≠ number) ∨
          entry ∈ Config.suspended (label, number) (task.turn trace.config.state).2 := by
    intro entry
    rw [← hothers]
    simp only [List.mem_append]
    tauto
  have hleft : Config.suspended (label, number) (task.turn trace.config.state).2 =
      if (task.rest trace.config.state).isAwait then
        [((label, number), task.rest trace.config.state)] else [] := by
    rw [turn_rest]
    by_cases hawait : (task.rest trace.config.state).isAwait = true
    · simp [hawait, Config.suspended]
    · simp [hawait, Config.suspended]
  constructor
  · intro entry hentry
    rcases (hmem entry).mp hentry with ⟨hold, -⟩ | hnew
    · exact Nat.lt_of_lt_of_le (h.tasks entry hold) hmore
    · rw [hleft] at hnew
      split at hnew
      next =>
        rw [List.mem_singleton.mp hnew]
        exact hknown
      next => cases hnew
  · have hnew : number ∉ (before ++ after).map fun entry => entry.1.2 := by
      intro hnumber
      obtain ⟨entry, hentry, hsame⟩ := List.mem_map.mp hnumber
      exact ((hothers entry).mp hentry).2 hsame
    change ((before ++ Config.suspended (label, number) (task.turn trace.config.state).2 ++
      after).map fun entry => entry.1.2).Nodup
    rw [hleft]
    split
    next =>
      rw [List.append_assoc, List.singleton_append, List.map_append, List.map_cons,
        List.nodup_middle, ← List.map_append]
      exact List.nodup_cons.mpr ⟨hnew, hnodup⟩
    next => simpa using hnodup
  · intro turn hturn
    rcases List.mem_append.mp hturn with hold | hnew
    · exact Nat.lt_of_lt_of_le (h.turns turn hold) hmore
    · rw [List.mem_singleton.mp hnew]
      exact hknown
  · intro write hwrite other hauthor
    rcases List.mem_append.mp hwrite with hold | hnew
    · exact Nat.lt_of_lt_of_le (h.writes write hold other hauthor) hmore
    · obtain ⟨pair, -, rfl⟩ := List.mem_map.mp hnew
      rw [← Option.some.inj hauthor]
      exact hknown
  · intro other label' task' hother
    change ∃ rest, task'.Played ((trace.record number task trace.config).turnsOf other)
      ((trace.record number task trace.config).writesOf other) rest ∧ _
    rw [turnsOf_record, writesOf_record]
    by_cases hnumber : other = number
    · subst hnumber
      obtain ⟨rfl, rfl⟩ := Prod.mk.inj (Option.some.inj (hcall.symm.trans hother))
      rw [if_pos rfl, if_pos rfl]
      refine ⟨_, hplayed, ?_, ?_⟩
      · intro hawait
        apply (hmem _).mpr
        right
        rw [hleft, if_pos hawait]
        exact List.mem_singleton.mpr rfl
      · intro hdone entry hentry hsame
        rcases (hmem entry).mp hentry with ⟨-, hnot⟩ | hnew
        · exact hnot hsame
        · rw [hleft, hdone] at hnew
          cases hnew
    · rw [if_neg hnumber, if_neg hnumber]
      obtain ⟨rest, hrest, hsuspended, hdone⟩ := h.played other label' task'
        ((hcalls other hnumber).symm.trans hother)
      refine ⟨rest, hrest, ?_, ?_⟩
      · intro hawait
        exact (hmem _).mpr (Or.inl ⟨hsuspended hawait, hnumber⟩)
      · intro hend entry hentry
        rcases (hmem entry).mp hentry with ⟨hold, -⟩ | hnew
        · exact hdone hend entry hold
        · rw [hleft] at hnew
          split at hnew
          next =>
            rw [List.mem_singleton.mp hnew]
            exact Ne.symm hnumber
          next => cases hnew

/-- A call keeps the history faithful. -/
theorem Faithful.launch {trace : Trace σ ι} (h : trace.Faithful) (label : ι)
    (task : Async σ Unit) : (trace.launch label task).Faithful := by
  have hfresh : trace.turnsOf trace.calls.length = [] ∧ trace.writesOf trace.calls.length = [] := by
    simp only [turnsOf, writesOf, List.map_eq_nil_iff, List.filter_eq_nil_iff, decide_eq_true_eq]
    constructor
    · intro turn hturn hnumber
      exact absurd (h.turns turn hturn) (by omega)
    · intro write hwrite hnumber
      exact absurd (h.writes write hwrite _ hnumber) (Nat.lt_irrefl _)
  have hturn := @Faithful.turn _ _ trace h label trace.calls.length task task
    (trace.calls ++ [(label, task)]) trace.config.tasks [] (task.turn trace.config.state).1
  rw [List.append_nil, List.append_nil] at hturn
  apply hturn
  · intro entry
    constructor
    · intro hentry
      exact ⟨hentry, Nat.ne_of_lt (h.tasks entry hentry)⟩
    · exact And.left
  · exact h.nodup
  · simp
  · simp
  · intro other hother
    by_cases hold : other < trace.calls.length
    · rw [List.getElem?_append_left hold]
    · rw [List.getElem?_eq_none (by simp; omega), List.getElem?_eq_none (by omega)]
  · rw [hfresh.1, hfresh.2]
    exact .start _

/-- A turn keeps the history faithful. -/
theorem Faithful.resume {trace : Trace σ ι} (h : trace.Faithful) (position : Nat) :
    (trace.resume position).Faithful := by
  unfold Trace.resume
  split
  next label number ready task hentry =>
    split
    next hready =>
      have hmem := List.mem_of_getElem? hentry
      obtain ⟨hlt, hget⟩ := List.getElem?_eq_some_iff.mp hentry
      have hsplit : trace.config.tasks = trace.config.tasks.take position ++
          ((label, number), .await ready task) :: trace.config.tasks.drop (position + 1) := by
        rw [← hget, List.getElem_cons_drop, List.take_append_drop]
      -- The call that goes on is where its history left it.
      have hknown : number < trace.calls.length := h.tasks _ hmem
      obtain ⟨⟨label', first⟩, hcall⟩ : ∃ call, trace.calls[number]? = some call :=
        ⟨_, List.getElem?_eq_getElem hknown⟩
      obtain ⟨rest, hplayed, hsuspended, hdone⟩ := h.played number label' first hcall
      have hawait : rest.isAwait = true := by
        by_contra hnot
        exact hdone (Bool.eq_false_iff.mpr hnot) _ hmem rfl
      have hsame := h.entry (hsuspended hawait) hmem rfl
      obtain ⟨hlabels, rfl⟩ := Prod.mk.inj hsame
      obtain ⟨rfl, -⟩ := Prod.mk.inj hlabels
      have hnodup := h.nodup
      rw [hsplit, List.map_append, List.map_cons, List.nodup_middle, ← List.map_append] at hnodup
      obtain ⟨hnot, hothers⟩ := List.nodup_cons.mp hnodup
      have hconfig : trace.config.resume position = ⟨(task.turn trace.config.state).1,
          trace.config.tasks.take position ++
            Config.suspended (label', number) (task.turn trace.config.state).2 ++
              trace.config.tasks.drop (position + 1)⟩ := by
        rw [Config.resume, hentry]
        simp only [if_pos hready]
      rw [hconfig]
      refine h.turn (fun entry => ?_) hothers (Nat.le_refl _) hcall (fun _ _ => rfl)
        (hplayed.turn _ hready)
      constructor
      · intro hin
        refine ⟨?_, fun hnumber => hnot (List.mem_map.mpr ⟨entry, hin, hnumber⟩)⟩
        rw [hsplit]
        simp only [List.mem_append, List.mem_cons] at hin ⊢
        tauto
      · rintro ⟨hin, hnumber⟩
        rw [hsplit] at hin
        simp only [List.mem_append, List.mem_cons] at hin ⊢
        rcases hin with hbefore | rfl | hafter
        · exact Or.inl hbefore
        · exact absurd rfl hnumber
        · exact Or.inr hafter
    next => exact h
  next => exact h

/-- A move of the environment is nobody's turn. -/
theorem Faithful.move {trace : Trace σ ι} (h : trace.Faithful) (state : σ) :
    (trace.move state).Faithful := by
  have hwrites : ∀ number, (trace.move state).writesOf number = trace.writesOf number := by
    intro number
    simp [writesOf, Trace.move]
  refine ⟨h.tasks, h.nodup, h.turns, ?_, ?_⟩
  · intro write hwrite number hauthor
    rcases List.mem_append.mp hwrite with hold | hnew
    · exact h.writes write hold number hauthor
    · rw [List.mem_singleton.mp hnew] at hauthor
      cases hauthor
  · intro number label task hcall
    rw [hwrites]
    exact h.played number label task hcall

end Trace

namespace TaskSystem

variable {σ : Type u} {ι : Type v} {system : TaskSystem σ ι} {initial trace : Trace σ ι}

/-- Every history tells what each call has done. -/
theorem Traced.faithful (hrun : system.Traced initial trace) (hinitial : initial.Faithful) :
    trace.Faithful := by
  induction hrun with
  | refl => exact hinitial
  | launch _ _ _ ih => exact ih.launch _ _
  | resume _ position ih => exact ih.resume position
  | env _ _ ih => exact ih.move _

end TaskSystem

end Async
