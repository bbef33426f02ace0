import Utp.Foundation.TaskSystem

/-! # Runs that keep a condition

Runs in which every single write satisfies a condition. The condition sees the
label of the task that writes and the other tasks that are suspended meanwhile.
`MovesPer` is `MovesBy` with the admissible moves told apart by label; together
with the condition it bounds what a step does.
-/

universe u v

namespace Async

variable {σ : Type u} {ι : Type v}

/-- A condition on a write: the other suspended tasks, the label of the task that
writes, and the states before and after. -/
abbrev Guard (σ : Type u) (ι : Type v) := List (ι × Async σ Unit) → ι → σ → σ → Prop

namespace TaskSystem

/-- A step all of whose writes are allowed. The environment is not restricted. -/
inductive GuardedStep (system : TaskSystem σ ι) (allowed : Guard σ ι) :
    Config σ ι → Config σ ι → Prop
  | launch {config : Config σ ι} {label : ι} {task : Async σ Unit}
      (hspawn : system.spawn config.state label task)
      (hfree : system.exclusive label → ∀ other ∈ config.tasks, other.1 ≠ label)
      (hallowed : ∀ write ∈ task.writes config.state,
        allowed config.tasks label write.1 write.2) :
      system.GuardedStep allowed config (config.launch label task)
  | resume {config : Config σ ι} (position : Nat)
      (hallowed : ∀ label ready task, config.tasks[position]? = some (label, .await ready task) →
        ready config.state = true → ∀ write ∈ task.writes config.state,
          allowed (config.tasks.eraseIdx position) label write.1 write.2) :
      system.GuardedStep allowed config (config.resume position)
  | env {config : Config σ ι} {state : σ} (henv : system.env config.state state) :
      system.GuardedStep allowed config { config with state := state }

/-- The runs whose steps are all allowed. -/
abbrev Guarded (system : TaskSystem σ ι) (allowed : Guard σ ι) :
    Config σ ι → Config σ ι → Prop := Chain (system.GuardedStep allowed)

theorem GuardedStep.step {system : TaskSystem σ ι} {allowed : Guard σ ι}
    {config next : Config σ ι} (hstep : system.GuardedStep allowed config next) :
    system.Step config next := by
  cases hstep with
  | launch hspawn hfree => exact .launch hspawn hfree
  | resume position => exact .resume position
  | env henv => exact .env henv

theorem GuardedStep.mono {system : TaskSystem σ ι} {allowed weaker : Guard σ ι}
    (hweaker : ∀ others label start target, allowed others label start target →
      weaker others label start target) {config next : Config σ ι}
    (hstep : system.GuardedStep allowed config next) : system.GuardedStep weaker config next := by
  cases hstep with
  | launch hspawn hfree hallowed =>
      exact .launch hspawn hfree fun write hwrite => hweaker _ _ _ _ (hallowed write hwrite)
  | resume position hallowed =>
      exact .resume position fun label ready task hentry hready write hwrite =>
        hweaker _ _ _ _ (hallowed label ready task hentry hready write hwrite)
  | env henv => exact .env henv

theorem Guarded.mono {system : TaskSystem σ ι} {allowed weaker : Guard σ ι}
    (hweaker : ∀ others label start target, allowed others label start target →
      weaker others label start target) {initial config : Config σ ι}
    (hrun : system.Guarded allowed initial config) : system.Guarded weaker initial config :=
  hrun.lift id fun _ _ hstep => hstep.mono hweaker

theorem Guarded.reachable {system : TaskSystem σ ι} {allowed : Guard σ ι}
    {initial config : Config σ ι} (hrun : system.Guarded allowed initial config) :
    system.Reachable initial config := by
  induction hrun with
  | refl => exact .refl
  | tail _ hstep ih => exact ih.step hstep.step

/-- The writes of the turn that the task at a position takes next. -/
def resumeWrites (config : Config σ ι) (position : Nat) : List (σ × σ) :=
  match config.tasks[position]? with
  | some (_, .await _ task) => task.writes config.state
  | _ => []

def resumesWrites (config : Config σ ι) : List Nat → List (σ × σ)
  | [] => []
  | position :: rest => resumeWrites config position ++ resumesWrites (config.resume position) rest

theorem GuardedStep.resume_of_writes {system : TaskSystem σ ι} {allowed : Guard σ ι}
    {config : Config σ ι} (position : Nat) (hallowed : ∀ write ∈ resumeWrites config position,
      ∀ others label, allowed others label write.1 write.2) :
    system.GuardedStep allowed config (config.resume position) := by
  refine .resume position fun label ready task hentry _ write hwrite => hallowed write ?_ _ _
  rw [resumeWrites, hentry]
  exact hwrite

/-- Tasks that are resumed one after another, all of whose writes are allowed. -/
theorem Guarded.resumes {system : TaskSystem σ ι} {allowed : Guard σ ι} {config : Config σ ι}
    (positions : List Nat) (hallowed : ∀ write ∈ resumesWrites config positions,
      ∀ others label, allowed others label write.1 write.2) :
    system.Guarded allowed config (config.resumes positions) := by
  induction positions generalizing config with
  | nil => exact .refl
  | cons position rest ih =>
      have hstep : system.GuardedStep allowed config (config.resume position) :=
        .resume_of_writes position fun write hwrite =>
          hallowed write (List.mem_append_left _ hwrite)
      have hrest : system.Guarded allowed (config.resume position)
          ((config.resume position).resumes rest) :=
        ih fun write hwrite => hallowed write (List.mem_append_right _ hwrite)
      exact hrest.head hstep

theorem resume_labels {spared : ι → Prop} {config : Config σ ι}
    (hlabels : ∀ entry ∈ config.tasks, spared entry.1) (position : Nat) :
    ∀ entry ∈ (config.resume position).tasks, spared entry.1 := by
  unfold Config.resume
  split
  next own ready task hentry =>
    split
    next hready =>
      have hown : spared own := hlabels _ (List.mem_of_getElem? hentry)
      intro entry hmem
      rcases List.mem_append.mp hmem with hmem | hafter
      · rcases List.mem_append.mp hmem with hbefore | hnew
        · exact hlabels entry (List.mem_of_mem_take hbefore)
        · rw [Config.label_of_suspended hnew]
          exact hown
      · exact hlabels entry (List.mem_of_mem_drop hafter)
    next => exact hlabels
  next => exact hlabels

/-- Tasks go on, where the condition asks nothing of their labels. -/
theorem Guarded.resumes_of_label {system : TaskSystem σ ι} {allowed : Guard σ ι}
    {spared : ι → Prop} (hallowed : ∀ others label start target, spared label →
      allowed others label start target)
    {config : Config σ ι} (hlabels : ∀ entry ∈ config.tasks, spared entry.1)
    (positions : List Nat) : system.Guarded allowed config (config.resumes positions) := by
  induction positions generalizing config with
  | nil => exact .refl
  | cons position rest ih =>
      have hstep : system.GuardedStep allowed config (config.resume position) := by
        refine .resume position fun own _ _ hentry _ _ _ => ?_
        exact hallowed _ _ _ _ (hlabels _ (List.mem_of_getElem? hentry))
      exact (ih (resume_labels hlabels position)).head hstep

end TaskSystem

/-! ## The writes of a step -/

section Writes

variable {rely move : σ → σ → Prop}

/-- A turn is a chain of its own writes. -/
theorem turn_writes {post : Except String Unit → σ → Prop} {task : Async σ Unit} {state : σ}
    (htask : task.Moves rely move post state) {extra : σ → σ → Prop}
    (hextra : ∀ write ∈ task.writes state, extra write.1 write.2) :
    Chain (fun start target => move start target ∧ extra start target) state
      (task.turn state).1 := by
  induction task generalizing state with
  | pure => exact .refl
  | throw => exact .refl
  | read task ih => exact ih _ htask hextra
  | write target task ih =>
      have hlater := ih htask.2 fun write hwrite => hextra write (List.mem_cons_of_mem _ hwrite)
      exact hlater.head ⟨htask.1, hextra _ List.mem_cons_self⟩
  | await => exact .refl

/-- What a suspended task does on its own is known later, whatever happens. -/
def MovesOnBy (all move : σ → σ → Prop) (task : Async σ Unit) (state : σ) : Prop :=
  ∀ later, Chain all state later → task.Moves (Chain all) move (fun _ _ => True) later

theorem MovesOnBy.later {all move : σ → σ → Prop} {task : Async σ Unit} {state next : σ}
    (htask : MovesOnBy all move task state) (hnext : Chain all state next) :
    MovesOnBy all move task next :=
  fun later hlater => htask later (hnext.trans hlater)

/-- What is left of a task after a turn makes the same moves. -/
theorem Moves.suspended {move : σ → σ → Prop} {task : Async σ Unit} {state : σ}
    (htask : task.Moves (fun _ _ => True) move (fun _ _ => True) state) {label : ι}
    {entry : ι × Async σ Unit} (hentry : entry ∈ Config.suspended label (task.turn state).2) :
    entry.2.MovesAlways move := by
  induction task generalizing state with
  | pure => cases hentry
  | throw => cases hentry
  | read task ih => exact ih _ htask hentry
  | write target task ih => exact ih htask.2 hentry
  | await ready task =>
      rw [List.mem_singleton.mp hentry]
      exact fun _ later hlater hready => htask later hlater hready

theorem turn_movesOnBy {all move : σ → σ → Prop} (hall : ∀ start target, move start target →
    all start target) {task : Async σ Unit} {state : σ}
    (htask : task.Moves (Chain all) move (fun _ _ => True) state) :
    Chain all state (task.turn state).1 ∧
      ∀ rest, (task.turn state).2 = some rest → MovesOnBy all move rest (task.turn state).1 := by
  induction task generalizing state with
  | pure => exact ⟨.refl, nofun⟩
  | throw => exact ⟨.refl, nofun⟩
  | read task ih => exact ih _ htask
  | write target task ih =>
      obtain ⟨hchain, hrest⟩ := ih htask.2
      exact ⟨hchain.head (hall _ _ htask.1), hrest⟩
  | await ready task =>
      refine ⟨.refl, ?_⟩
      rintro rest ⟨⟩ later hlater final hfinal hready
      exact htask final (hlater.trans hfinal) hready

end Writes

/-! ## Moves by label -/

/-- Tasks whose moves depend on their label. All of them, and the environment,
make the moves `all`, which preserve an invariant. -/
structure TaskSystem.MovesPer (system : TaskSystem σ ι) (all : σ → σ → Prop)
    (move : ι → σ → σ → Prop) (inv : σ → Prop) : Prop where
  preserves : ∀ start target, inv start → all start target → inv target
  spawn : ∀ state label task, inv state → system.spawn state label task →
    task.Moves (Chain all) (move label) (fun _ _ => True) state
  weaken : ∀ label start target, move label start target → all start target
  env : ∀ state next, inv state → system.env state next → all state next

/-- A configuration whose suspended tasks go on to make the moves of their label. -/
structure Config.MovingPer (all : σ → σ → Prop) (move : ι → σ → σ → Prop) (inv : σ → Prop)
    (config : Config σ ι) : Prop where
  inv : inv config.state
  tasks : ∀ entry ∈ config.tasks, MovesOnBy all (move entry.1) entry.2 config.state

variable {system : TaskSystem σ ι} {all : σ → σ → Prop} {move : ι → σ → σ → Prop}
  {inv : σ → Prop} {allowed : Guard σ ι}

theorem Config.MovingPer.start {state : σ} (hstate : inv state) :
    Config.MovingPer all move inv (⟨state, []⟩ : Config σ ι) := ⟨hstate, by simp⟩

/-- Moves that are not told apart by label. -/
theorem TaskSystem.MovesBy.per (hsystem : system.MovesBy all inv) :
    system.MovesPer all (fun _ => all) inv where
  preserves := hsystem.preserves
  spawn := hsystem.spawn
  weaken _ _ _ := id
  env := hsystem.env

theorem Config.Moving.per {config : Config σ ι} (hconfig : config.Moving all inv) :
    config.MovingPer all (fun _ => all) inv := ⟨hconfig.inv, hconfig.tasks⟩

/-- What one write of a guarded step does. -/
inductive TaskSystem.GuardedWrite (system : TaskSystem σ ι) (move : ι → σ → σ → Prop)
    (allowed : Guard σ ι) (start target : σ) : Prop
  | turn (others : List (ι × Async σ Unit)) (label : ι) (hmove : move label start target)
      (hallowed : allowed others label start target)
  | env (henv : system.env start target)

/-- One turn of one task, the others untouched. -/
theorem Config.MovingPer.turn (hsystem : system.MovesPer all move inv) {state : σ} {label : ι}
    {task : Async σ Unit} (before after : List (ι × Async σ Unit)) (hinv : inv state)
    (htask : task.Moves (Chain all) (move label) (fun _ _ => True) state)
    (hothers : ∀ entry ∈ before ++ after, MovesOnBy all (move entry.1) entry.2 state) :
    Config.MovingPer all move inv
      ⟨(task.turn state).1, before ++ suspended label (task.turn state).2 ++ after⟩ := by
  obtain ⟨hchain, hrest⟩ := turn_movesOnBy (hsystem.weaken label) htask
  refine ⟨hchain.preserves hsystem.preserves hinv, fun entry hentry => ?_⟩
  simp only [List.mem_append] at hentry
  rcases hentry with (hbefore | hnew) | hafter
  · exact (hothers entry (List.mem_append_left _ hbefore)).later hchain
  · cases hleft : (task.turn state).2 with
    | none => simp [suspended, hleft] at hnew
    | some rest =>
        simp only [suspended, hleft, List.mem_singleton] at hnew
        subst hnew
        exact hrest rest hleft
  · exact (hothers entry (List.mem_append_right _ hafter)).later hchain

theorem Config.MovingPer.launch (hsystem : system.MovesPer all move inv) {config : Config σ ι}
    (hconfig : config.MovingPer all move inv) {label : ι} {task : Async σ Unit}
    (htask : task.Moves (Chain all) (move label) (fun _ _ => True) config.state) :
    (config.launch label task).MovingPer all move inv := by
  have hturn := Config.MovingPer.turn hsystem config.tasks [] hconfig.inv htask
    (by simpa using hconfig.tasks)
  rw [List.append_nil] at hturn
  exact hturn

/-- The writes of a guarded step are allowed moves of one label. -/
theorem TaskSystem.MovesPer.step (hsystem : system.MovesPer all move inv)
    {config next : Config σ ι} (hconfig : config.MovingPer all move inv)
    (hstep : system.GuardedStep allowed config next) :
    Chain (system.GuardedWrite move allowed) config.state next.state ∧
      next.MovingPer all move inv := by
  cases hstep with
  | @launch label task hspawn _ hallowed =>
      have htask := hsystem.spawn _ _ _ hconfig.inv hspawn
      refine ⟨?_, hconfig.launch hsystem htask⟩
      exact (turn_writes htask hallowed).lift id fun start target h =>
        .turn config.tasks label h.1 h.2
  | resume position hallowed =>
      unfold Config.resume
      split
      next label ready task hentry =>
        split
        next hready =>
          have htask := hconfig.tasks _ (List.mem_of_getElem? hentry) config.state .refl
            config.state .refl hready
          refine ⟨?_, .turn hsystem _ _ hconfig.inv htask fun entry h => ?_⟩
          · exact (turn_writes htask (hallowed label ready task hentry hready)).lift id
              fun start target h => .turn (config.tasks.eraseIdx position) label h.1 h.2
          · rcases List.mem_append.mp h with hbefore | hafter
            · exact hconfig.tasks entry (List.mem_of_mem_take hbefore)
            · exact hconfig.tasks entry (List.mem_of_mem_drop hafter)
        next => exact ⟨.refl, hconfig⟩
      next => exact ⟨.refl, hconfig⟩
  | env henv =>
      have hmove := hsystem.env _ _ hconfig.inv henv
      exact ⟨.single (.env henv), hsystem.preserves _ _ hconfig.inv hmove,
        fun entry hentry => (hconfig.tasks entry hentry).later (.single hmove)⟩

/-- A guarded run is a chain of allowed moves. -/
theorem TaskSystem.MovesPer.guarded (hsystem : system.MovesPer all move inv)
    {config later : Config σ ι} (hconfig : config.MovingPer all move inv)
    (hrun : system.Guarded allowed config later) :
    Chain (system.GuardedWrite move allowed) config.state later.state ∧
      later.MovingPer all move inv := by
  induction hrun with
  | refl => exact ⟨.refl, hconfig⟩
  | tail _ hstep ih =>
      obtain ⟨hchain, hnext⟩ := hsystem.step ih.2 hstep
      exact ⟨ih.1.trans hchain, hnext⟩

/-- Without a condition every run is guarded. -/
theorem TaskSystem.Reachable.guarded {initial config : Config σ ι}
    (hrun : system.Reachable initial config) :
    system.Guarded (fun _ _ _ _ => True) initial config := by
  induction hrun with
  | refl => exact .refl
  | step _ hstep ih =>
      refine ih.tail ?_
      cases hstep with
      | launch hspawn hfree => exact .launch hspawn hfree fun _ _ => trivial
      | resume position => exact .resume position fun _ _ _ _ _ _ _ => trivial
      | env henv => exact .env henv

theorem TaskSystem.MovesPer.reachable (hsystem : system.MovesPer all move inv)
    {config later : Config σ ι} (hconfig : config.MovingPer all move inv)
    (hrun : system.Reachable config later) : later.MovingPer all move inv :=
  (hsystem.guarded hconfig hrun.guarded).2

end Async
