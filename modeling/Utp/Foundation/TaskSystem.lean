import Mathlib.Tactic.Tauto
import Utp.Foundation.Contract

/-! # Systems of cooperative tasks

A configuration is a shared state and the tasks suspended on it. A step starts
a task, resumes a suspended one for one turn, or lets the environment move. A
label may be exclusive: while a task carries it, no other task with that label
starts. `Outline.invariant` is the rely-guarantee rule for all runs.
-/

universe u v

namespace Async

/-- Which tasks may start, how the environment moves, and which labels admit
one task at a time. -/
structure TaskSystem (σ : Type u) (ι : Type v) where
  spawn : σ → ι → Async σ Unit → Prop
  env : σ → σ → Prop
  exclusive : ι → Prop

structure Config (σ : Type u) (ι : Type v) where
  state : σ
  tasks : List (ι × Async σ Unit)

namespace Config

variable {σ : Type u} {ι : Type v}

/-- Label what a turn left of a task. -/
def suspended (label : ι) (rest : Option (Async σ Unit)) : List (ι × Async σ Unit) :=
  match rest with
  | none => []
  | some task => [(label, task)]

/-- What a turn leaves carries the label of its task. -/
theorem label_of_suspended {label : ι} {rest : Option (Async σ Unit)}
    {entry : ι × Async σ Unit} (hentry : entry ∈ suspended label rest) : entry.1 = label := by
  cases rest with
  | none => cases hentry
  | some task => rw [List.mem_singleton.mp hentry]

/-- Start a task: its first turn runs at once. -/
def launch (config : Config σ ι) (label : ι) (task : Async σ Unit) : Config σ ι where
  state := (task.turn config.state).1
  tasks := config.tasks ++ suspended label (task.turn config.state).2

/-- A read at the front of a call is done in the first turn. -/
theorem launch_get {config : Config σ ι} {label : ι} {next : σ → Async σ Unit} :
    config.launch label ((get : Async σ σ).bind next) =
      config.launch label (next config.state) := rfl

/-- So is a write. -/
theorem launch_modify {config : Config σ ι} {label : ι} {change : σ → σ}
    {next : Unit → Async σ Unit} :
    config.launch label ((modify change).bind next) =
      ({ config with state := change config.state } : Config σ ι).launch label (next ()) := rfl

/-- Resume the task at a position for one turn, if it is ready. -/
def resume (config : Config σ ι) (position : Nat) : Config σ ι :=
  match config.tasks[position]? with
  | some (label, .await ready task) =>
      if ready config.state then
        { state := (task.turn config.state).1
          tasks := config.tasks.take position ++ suspended label (task.turn config.state).2 ++
            config.tasks.drop (position + 1) }
      else config
  | _ => config

def resumes (config : Config σ ι) (positions : List Nat) : Config σ ι :=
  positions.foldl resume config

/-- A task that runs to its end without the help of others does so when nothing
else is scheduled. -/
theorem resumes_of_run {task : Async σ Unit} {state final : σ} {result : Except String Unit}
    (hrun : task.run state = some (final, result)) (label : ι) :
    ∃ count, (launch ⟨state, []⟩ label task).resumes (List.replicate count 0) = ⟨final, []⟩ := by
  induction task generalizing state with
  | pure =>
      cases hrun
      exact ⟨0, rfl⟩
  | throw =>
      cases hrun
      exact ⟨0, rfl⟩
  | read task ih => exact ih _ hrun
  | write target task ih => exact ih hrun
  | await ready task ih =>
      simp only [run] at hrun
      split at hrun
      next hready =>
        obtain ⟨count, hcount⟩ := ih hrun
        refine ⟨count + 1, ?_⟩
        rw [← hcount, List.replicate_succ, resumes, List.foldl_cons]
        simp [resume, launch, suspended, turn, hready, resumes]
      next => cases hrun

/-- The others stay suspended meanwhile. -/
theorem resumes_of_run_among {task : Async σ Unit} {state final : σ} {result : Except String Unit}
    (hrun : task.run state = some (final, result)) (label : ι) (others : List (ι × Async σ Unit)) :
    ∃ count, (launch ⟨state, others⟩ label task).resumes (List.replicate count others.length) =
      ⟨final, others⟩ := by
  have hnone : ∀ state : σ, (⟨state, others ++ suspended label none⟩ : Config σ ι) =
      ⟨state, others⟩ := fun state => by rw [suspended, List.append_nil]
  induction task generalizing state with
  | pure =>
      cases hrun
      exact ⟨0, hnone _⟩
  | throw =>
      cases hrun
      exact ⟨0, hnone _⟩
  | read task ih => exact ih _ hrun
  | write target task ih => exact ih hrun
  | await ready task ih =>
      simp only [run] at hrun
      split at hrun
      next hready =>
        obtain ⟨count, hcount⟩ := ih hrun
        refine ⟨count + 1, ?_⟩
        rw [← hcount, List.replicate_succ, resumes, List.foldl_cons]
        simp [resume, launch, suspended, turn, hready, resumes]
      next => cases hrun

end Config

namespace TaskSystem

variable {σ : Type u} {ι : Type v}

inductive Step (system : TaskSystem σ ι) : Config σ ι → Config σ ι → Prop
  | launch {config : Config σ ι} {label : ι} {task : Async σ Unit}
      (hspawn : system.spawn config.state label task)
      (hfree : system.exclusive label → ∀ other ∈ config.tasks, other.1 ≠ label) :
      system.Step config (config.launch label task)
  | resume {config : Config σ ι} (position : Nat) : system.Step config (config.resume position)
  | env {config : Config σ ι} {state : σ} (henv : system.env config.state state) :
      system.Step config { config with state := state }

/-- The steps in which a task under this label takes a turn. -/
inductive StepBy (system : TaskSystem σ ι) (label : ι) : Config σ ι → Config σ ι → Prop
  | launch {config : Config σ ι} {task : Async σ Unit}
      (hspawn : system.spawn config.state label task)
      (hfree : system.exclusive label → ∀ other ∈ config.tasks, other.1 ≠ label) :
      system.StepBy label config (config.launch label task)
  | resume {config : Config σ ι} (position : Nat) {ready : σ → Bool} {task : Async σ Unit}
      (hentry : config.tasks[position]? = some (label, .await ready task)) :
      system.StepBy label config (config.resume position)

/-- A step in which a label takes a turn is a step of the system. -/
theorem StepBy.step {system : TaskSystem σ ι} {label : ι} {config next : Config σ ι}
    (hstep : system.StepBy label config next) : system.Step config next := by
  cases hstep with
  | launch hspawn hfree => exact .launch hspawn hfree
  | resume position => exact .resume position

/-- Every configuration of every run. -/
inductive Reachable (system : TaskSystem σ ι) (initial : Config σ ι) : Config σ ι → Prop
  | refl : system.Reachable initial initial
  | step {config next : Config σ ι} (hrun : system.Reachable initial config)
      (hstep : system.Step config next) : system.Reachable initial next

/-- The single writes of all runs, those of the environment included. -/
inductive Write (system : TaskSystem σ ι) (initial : Config σ ι) : σ → σ → Prop
  | launch {config : Config σ ι} {label : ι} {task : Async σ Unit} {write : σ × σ}
      (hrun : system.Reachable initial config) (hspawn : system.spawn config.state label task)
      (hfree : system.exclusive label → ∀ other ∈ config.tasks, other.1 ≠ label)
      (hwrite : write ∈ task.writes config.state) : system.Write initial write.1 write.2
  | resume {config : Config σ ι} {label : ι} {ready : σ → Bool} {task : Async σ Unit}
      {write : σ × σ} (hrun : system.Reachable initial config)
      (hentry : (label, .await ready task) ∈ config.tasks) (hready : ready config.state = true)
      (hwrite : write ∈ task.writes config.state) : system.Write initial write.1 write.2
  | env {config : Config σ ι} {state : σ} (hrun : system.Reachable initial config)
      (henv : system.env config.state state) : system.Write initial config.state state

/-- What is known of the new and the suspended tasks under a label is known of the one whose
turn it is. -/
theorem StepBy.turn {system : TaskSystem σ ι} {label : ι} {known : Async σ Unit → σ → Prop}
    {config next : Config σ ι} (hstep : system.StepBy label config next)
    (hspawn : ∀ task, system.spawn config.state label task → known task config.state)
    (hresume : ∀ ready task, (label, Async.await ready task) ∈ config.tasks →
      ready config.state = true → known task config.state) :
    next.state = config.state ∨
      ∃ task, known task config.state ∧ next.state = (task.turn config.state).1 := by
  cases hstep with
  | launch hspawned hfree => exact .inr ⟨_, hspawn _ hspawned, rfl⟩
  | @resume position ready task hentry =>
      unfold Config.resume
      rw [hentry]
      by_cases hready : ready config.state = true
      · exact .inr ⟨task, hresume ready task (List.mem_of_getElem? hentry) hready, by simp [hready]⟩
      · exact .inl (by simp [hready])

/-- Runs can be put one after the other. -/
theorem Reachable.trans {system : TaskSystem σ ι} {first second third : Config σ ι}
    (hfirst : system.Reachable first second) (hsecond : system.Reachable second third) :
    system.Reachable first third := by
  induction hsecond with
  | refl => exact hfirst
  | step _ hstep ih => exact ih.step hstep

/-- Turns at several positions go on with a run. -/
theorem Reachable.resumes {system : TaskSystem σ ι} {initial config : Config σ ι}
    (hrun : system.Reachable initial config) (positions : List Nat) :
    system.Reachable initial (config.resumes positions) := by
  induction positions generalizing config with
  | nil => exact hrun
  | cons position rest ih => exact ih (hrun.step (.resume position))

/-- A task may run to its end before anything else happens. -/
theorem Reachable.of_run {system : TaskSystem σ ι} {initial : Config σ ι} {state final : σ}
    (hrun : system.Reachable initial ⟨state, []⟩) {label : ι} {task : Async σ Unit}
    {result : Except String Unit} (hspawn : system.spawn state label task)
    (htask : task.run state = some (final, result)) : system.Reachable initial ⟨final, []⟩ := by
  obtain ⟨count, hcount⟩ := Config.resumes_of_run htask label
  rw [← hcount]
  exact (hrun.step (.launch hspawn nofun)).resumes _

/-- It may do so while others are suspended, unless it excludes one of them. -/
theorem Reachable.of_run_among {system : TaskSystem σ ι} {initial config : Config σ ι}
    (hrun : system.Reachable initial config) {label : ι} {task : Async σ Unit}
    (hspawn : system.spawn config.state label task)
    (hfree : system.exclusive label → ∀ other ∈ config.tasks, other.1 ≠ label) {final : σ}
    {result : Except String Unit} (htask : task.run config.state = some (final, result)) :
    system.Reachable initial { config with state := final } := by
  obtain ⟨count, hcount⟩ := Config.resumes_of_run_among htask label config.tasks
  rw [← hcount]
  exact (hrun.step (.launch hspawn hfree)).resumes _

/-- A system with fewer tasks and a quieter environment in a state has fewer steps there. -/
theorem Step.mono {small large : TaskSystem σ ι} {config next : Config σ ι}
    (hspawn : ∀ label task, small.spawn config.state label task →
      large.spawn config.state label task)
    (henv : ∀ state, small.env config.state state → large.env config.state state)
    (hexclusive : ∀ label, large.exclusive label → small.exclusive label)
    (hstep : small.Step config next) : large.Step config next := by
  cases hstep with
  | launch hsmall hfree => exact .launch (hspawn _ _ hsmall) (hfree ∘ hexclusive _)
  | resume position => exact .resume position
  | env hsmall => exact .env (henv _ hsmall)

/-- A system that spawns and moves more, and excludes less, has all the runs. -/
theorem Reachable.mono {small large : TaskSystem σ ι}
    (hspawn : ∀ state label task, small.spawn state label task → large.spawn state label task)
    (henv : ∀ state next, small.env state next → large.env state next)
    (hexclusive : ∀ label, large.exclusive label → small.exclusive label)
    {initial config : Config σ ι} (hrun : small.Reachable initial config) :
    large.Reachable initial config := by
  induction hrun with
  | refl => exact .refl
  | step _ hstep ih => exact ih.step (hstep.mono (hspawn _) (henv _) hexclusive)

end TaskSystem

/-! ## Runs as chains of single moves -/

section Moves

variable {σ : Type u} {ι : Type v} {move : σ → σ → Prop}

/-- The states that single moves lead to. -/
abbrev Chain (move : σ → σ → Prop) : σ → σ → Prop := Relation.ReflTransGen move

/-- What every move keeps is kept by a chain of moves. -/
theorem Chain.preserves {keep : σ → Prop} (hkeep : ∀ start target, keep start →
    move start target → keep target) {start state : σ} (hstart : keep start)
    (hchain : Chain move start state) : keep state := by
  induction hchain with
  | refl => exact hstart
  | tail _ hmove ih => exact hkeep _ _ ih hmove

/-- What every move keeps is stable under the chains. -/
theorem stable_chain {keep : σ → Prop} (hkeep : ∀ start target, keep start →
    move start target → keep target) : Stable (Chain move) move keep :=
  ⟨fun _ _ hstart hchain => hchain.preserves hkeep hstart, hkeep⟩

/-- A suspended task goes on to make admissible moves only. -/
def MovesOn (move : σ → σ → Prop) (task : Async σ Unit) (state : σ) : Prop :=
  ∀ later, Chain move state later → task.Moves (Chain move) move (fun _ _ => True) later

/-- A suspended task does not mind the moves of the others. -/
theorem MovesOn.later {task : Async σ Unit} {state next : σ} (htask : MovesOn move task state)
    (hnext : Chain move state next) : MovesOn move task next :=
  fun later hlater => htask later (hnext.trans hlater)

/-- A turn makes a chain of moves, and what it leaves goes on with such moves. -/
theorem turn_chain {task : Async σ Unit} {state : σ}
    (htask : task.Moves (Chain move) move (fun _ _ => True) state) :
    Chain move state (task.turn state).1 ∧
      ∀ rest, (task.turn state).2 = some rest → MovesOn move rest (task.turn state).1 := by
  induction task generalizing state with
  | pure => exact ⟨.refl, nofun⟩
  | throw => exact ⟨.refl, nofun⟩
  | read task ih => exact ih _ htask
  | write target task ih => exact ⟨(ih htask.2).1.head htask.1, (ih htask.2).2⟩
  | await ready task =>
      refine ⟨.refl, ?_⟩
      rintro rest ⟨⟩ later hlater final hfinal hready
      exact htask final (hlater.trans hfinal) hready

/-- Tasks and environment that only make admissible moves, which preserve an
invariant. -/
structure TaskSystem.MovesBy (system : TaskSystem σ ι) (move : σ → σ → Prop)
    (inv : σ → Prop) : Prop where
  preserves : ∀ start target, inv start → move start target → inv target
  spawn : ∀ state label task, inv state → system.spawn state label task →
    task.Moves (Chain move) move (fun _ _ => True) state
  env : ∀ state next, inv state → system.env state next → move state next

variable {system : TaskSystem σ ι} {inv : σ → Prop}

/-- A configuration whose state satisfies the invariant and whose tasks go on to
make admissible moves only. -/
structure Config.Moving (move : σ → σ → Prop) (inv : σ → Prop) (config : Config σ ι) : Prop where
  inv : inv config.state
  tasks : ∀ entry ∈ config.tasks, MovesOn move entry.2 config.state

/-- Nothing is called yet, and the invariant holds. -/
theorem Config.Moving.start {state : σ} (hstate : inv state) :
    Config.Moving move inv (⟨state, []⟩ : Config σ ι) := ⟨hstate, by simp⟩

/-- One turn of one task, the others untouched. -/
theorem Config.Moving.turn (hpreserves : ∀ start target, inv start → move start target →
    inv target) {state : σ} (hstate : inv state) {task : Async σ Unit}
    (htask : task.Moves (Chain move) move (fun _ _ => True) state) (label : ι)
    (before after : List (ι × Async σ Unit))
    (hothers : ∀ entry ∈ before ++ after, MovesOn move entry.2 state) :
    Chain move state (task.turn state).1 ∧
      Config.Moving move inv
        ⟨(task.turn state).1, before ++ suspended label (task.turn state).2 ++ after⟩ := by
  obtain ⟨hchain, hrest⟩ := turn_chain htask
  refine ⟨hchain, hchain.preserves hpreserves hstate, fun entry hentry => ?_⟩
  simp only [List.mem_append] at hentry
  rcases hentry with (hbefore | hnew) | hafter
  · exact (hothers entry (List.mem_append_left _ hbefore)).later hchain
  · cases hleft : (task.turn state).2 with
    | none => simp [suspended, hleft] at hnew
    | some rest =>
        simp only [suspended, hleft, List.mem_singleton] at hnew
        subst hnew
        exact hrest rest hleft
  · exact (hothers entry (List.mem_append_right _ hafter)).later hchain

/-- A call makes a chain of moves. -/
theorem Config.Moving.launch (hpreserves : ∀ start target, inv start → move start target →
    inv target) {config : Config σ ι} (hconfig : config.Moving move inv) {task : Async σ Unit}
    (htask : task.Moves (Chain move) move (fun _ _ => True) config.state) (label : ι) :
    Chain move config.state (config.launch label task).state ∧
      (config.launch label task).Moving move inv := by
  have hturn := Config.Moving.turn hpreserves hconfig.inv htask label config.tasks []
    (by simpa using hconfig.tasks)
  rw [List.append_nil] at hturn
  exact hturn

/-- A step of a configuration whose new tasks and whose environment make admissible moves. -/
theorem Config.Moving.step (hpreserves : ∀ start target, inv start → move start target →
    inv target) {config next : Config σ ι} (hconfig : config.Moving move inv)
    (hspawn : ∀ label task, system.spawn config.state label task →
      task.Moves (Chain move) move (fun _ _ => True) config.state)
    (henv : ∀ state, system.env config.state state → move config.state state)
    (hstep : system.Step config next) :
    Chain move config.state next.state ∧ next.Moving move inv := by
  cases hstep with
  | launch htask hfree => exact hconfig.launch hpreserves (hspawn _ _ htask) _
  | resume position =>
      unfold Config.resume
      split
      next label ready task hentry =>
        split
        next hready =>
          have htask := hconfig.tasks _ (List.mem_of_getElem? hentry) config.state .refl
            config.state .refl hready
          refine Config.Moving.turn hpreserves hconfig.inv htask label _ _ fun entry h => ?_
          rcases List.mem_append.mp h with hbefore | hafter
          · exact hconfig.tasks entry (List.mem_of_mem_take hbefore)
          · exact hconfig.tasks entry (List.mem_of_mem_drop hafter)
        next => exact ⟨.refl, hconfig⟩
      next => exact ⟨.refl, hconfig⟩
  | env hchange =>
      have hmove := henv _ hchange
      exact ⟨.single hmove, hpreserves _ _ hconfig.inv hmove,
        fun entry hentry => (hconfig.tasks entry hentry).later (.single hmove)⟩

/-- The step lemma: every step is a chain of moves. -/
theorem TaskSystem.MovesBy.step (hsystem : system.MovesBy move inv) {config next : Config σ ι}
    (hconfig : config.Moving move inv) (hstep : system.Step config next) :
    Chain move config.state next.state ∧ next.Moving move inv :=
  hconfig.step hsystem.preserves (fun _ _ => hsystem.spawn _ _ _ hconfig.inv)
    (fun _ => hsystem.env _ _ hconfig.inv) hstep

/-- A run is a chain of moves, and what every move preserves holds in every
state of it. -/
theorem TaskSystem.MovesBy.reachable (hsystem : system.MovesBy move inv)
    {initial config : Config σ ι} (hinitial : initial.Moving move inv)
    (hrun : system.Reachable initial config) :
    Chain move initial.state config.state ∧ config.Moving move inv := by
  induction hrun with
  | refl => exact ⟨.refl, hinitial⟩
  | step _ hstep ih =>
      obtain ⟨hchain, hnext⟩ := hsystem.step ih.2 hstep
      exact ⟨ih.1.trans hchain, hnext⟩

/-- The writes of a turn are moves. -/
theorem writes_move {rely : σ → σ → Prop} {post : Except String Unit → σ → Prop}
    {task : Async σ Unit} {state : σ} (htask : task.Moves rely move post state) :
    ∀ write ∈ task.writes state, move write.1 write.2 := by
  induction task generalizing state with
  | pure => simp [writes]
  | throw => simp [writes]
  | read task ih => exact ih _ htask
  | write target task ih =>
      rintro write (_ | ⟨_, hlater⟩)
      · exact htask.1
      · exact ih htask.2 write hlater
  | await => simp [writes]

/-- Every single write of every run is an admissible move. -/
theorem TaskSystem.MovesBy.write (hsystem : system.MovesBy move inv) {initial : Config σ ι}
    (hinitial : initial.Moving move inv) {state next : σ}
    (hwrite : system.Write initial state next) : move state next := by
  cases hwrite with
  | launch hrun hspawn _ hmem =>
      exact writes_move (hsystem.spawn _ _ _ (hsystem.reachable hinitial hrun).2.inv hspawn) _ hmem
  | resume hrun hentry hready hmem =>
      have htask := (hsystem.reachable hinitial hrun).2.tasks _ hentry
      exact writes_move (htask _ .refl _ .refl hready) _ hmem
  | env hrun henv => exact hsystem.env _ _ (hsystem.reachable hinitial hrun).2.inv henv

end Moves

/-! ## The rely-guarantee rule -/

variable {σ : Type u} {ι : Type v}

/-- A proof outline: the shared invariant, and for each label what its tasks
tolerate, what one of their turns may change, and, for an exclusive label, what
holds while no task carries it. -/
structure Outline (σ : Type u) (ι : Type v) where
  inv : σ → Prop
  rely : ι → σ → σ → Prop
  guar : ι → σ → σ → Prop
  rest : ι → σ → Prop

namespace Outline

def contract (outline : Outline σ ι) (label : ι) : Contract σ where
  inv := outline.inv
  rely := outline.rely label
  guar := outline.guar label

/-- How a task with this label has to end. -/
def post (outline : Outline σ ι) (label : ι) : Except String Unit → σ → σ → Prop :=
  fun _ start state => outline.inv state ∧ outline.guar label start state ∧
    outline.rest label state

/-- The side conditions that make the tasks of a system compatible. -/
structure Sound (outline : Outline σ ι) (system : TaskSystem σ ι) : Prop where
  refl : ∀ label state, outline.rely label state state
  trans : ∀ label first second third, outline.rely label first second →
    outline.rely label second third → outline.rely label first third
  compatible : ∀ mover waiter start state, (mover = waiter → ¬ system.exclusive mover) →
    outline.inv start → outline.inv state → outline.guar mover start state →
    outline.rely waiter start state
  rest : ∀ mover label start state, mover ≠ label → outline.inv start → outline.inv state →
    outline.guar mover start state → outline.rest label start → outline.rest label state
  idle : ∀ label state, ¬ system.exclusive label → outline.rest label state
  env : ∀ start state, outline.inv start → system.env start state → outline.inv state ∧
    (∀ label, outline.rely label start state) ∧
    (∀ label, outline.rest label start → outline.rest label state)
  spawn : ∀ state label task, outline.inv state → outline.rest label state →
    system.spawn state label task →
    task.Meets (outline.contract label) (outline.post label) state state

/-- A suspended task goes on to keep its contract from every state that the
others may lead to. -/
def Waits (outline : Outline σ ι) (label : ι) (task : Async σ Unit) (state : σ) : Prop :=
  ∃ ready next, task = .await ready next ∧
    ∀ later, outline.inv later → outline.rely label state later → ready later = true →
      next.Meets (outline.contract label) (outline.post label) later later

/-- The configuration invariant behind the rule. -/
structure Holds (outline : Outline σ ι) (system : TaskSystem σ ι)
    (config : Config σ ι) : Prop where
  inv : outline.inv config.state
  rest : ∀ label, (∀ other ∈ config.tasks, other.1 ≠ label) → outline.rest label config.state
  waits : ∀ entry ∈ config.tasks, outline.Waits entry.1 entry.2 config.state
  single : ∀ label, system.exclusive label →
    config.tasks.Pairwise fun first second => first.1 = label → second.1 ≠ label

variable {outline : Outline σ ι} {system : TaskSystem σ ι}

/-- What one turn of a task that meets its contract leaves behind. -/
theorem turn_spec {label : ι} {task : Async σ Unit} {start state : σ}
    (hmeets : task.Meets (outline.contract label) (outline.post label) start state) :
    outline.inv (task.turn state).1 ∧ outline.guar label start (task.turn state).1 ∧
      match (task.turn state).2 with
      | none => outline.rest label (task.turn state).1
      | some rest => outline.Waits label rest (task.turn state).1 := by
  induction task generalizing state with
  | pure => exact hmeets
  | throw => exact hmeets
  | read task ih => exact ih _ hmeets
  | write target task ih => exact ih hmeets
  | await ready task => exact ⟨hmeets.1, hmeets.2.1, ready, task, rfl, hmeets.2.2⟩

/-- A suspended task keeps its contract over what the others do. -/
theorem Waits.later (hsound : outline.Sound system) {label : ι} {task : Async σ Unit}
    {state next : σ} (hwaits : outline.Waits label task state)
    (hrely : outline.rely label state next) : outline.Waits label task next := by
  obtain ⟨ready, rest, rfl, hrest⟩ := hwaits
  exact ⟨ready, rest, rfl, fun later hinv hlater hready =>
    hrest later hinv (hsound.trans _ _ _ _ hrely hlater) hready⟩

/-- One turn of one task, the others untouched, keeps the configuration
invariant. `before` and `after` are the tasks on either side of it. -/
theorem Holds.turn (hsound : outline.Sound system) {state : σ} {label : ι}
    {task : Async σ Unit} (before after : List (ι × Async σ Unit))
    (hmeets : task.Meets (outline.contract label) (outline.post label) state state)
    (hinv : outline.inv state)
    (hrest : ∀ other, other ≠ label → (∀ entry ∈ before ++ after, entry.1 ≠ other) →
      outline.rest other state)
    (hwaits : ∀ entry ∈ before ++ after, outline.Waits entry.1 entry.2 state)
    (hothers : system.exclusive label → ∀ entry ∈ before ++ after, entry.1 ≠ label)
    (hsingle : ∀ other, system.exclusive other →
      (before ++ after).Pairwise fun first second => first.1 = other → second.1 ≠ other) :
    outline.Holds system
      { state := (task.turn state).1
        tasks := before ++ Config.suspended label (task.turn state).2 ++ after } := by
  obtain ⟨hinv', hguar, hturn⟩ := turn_spec hmeets
  have hmem : ∀ entry ∈ before ++ Config.suspended label (task.turn state).2 ++ after,
      entry ∈ before ++ after ∨ entry ∈ Config.suspended label (task.turn state).2 := by
    intro entry hentry
    simp only [List.mem_append] at hentry ⊢
    tauto
  refine ⟨hinv', ?_, ?_, ?_⟩
  · intro other hfree
    have hfree' : ∀ entry ∈ before ++ after, entry.1 ≠ other := fun entry hentry =>
      hfree entry (by simp only [List.mem_append] at hentry ⊢; tauto)
    by_cases hother : other = label
    · subst hother
      cases hleft : (task.turn state).2 with
      | none => simpa [hleft] using hturn
      | some rest =>
          exact absurd rfl (hfree (other, rest) (by simp [Config.suspended, hleft]))
    · exact hsound.rest label other state _ (Ne.symm hother) hinv hinv' hguar
        (hrest other hother hfree')
  · intro entry hentry
    rcases hmem entry hentry with hold | hnew
    · refine (hwaits entry hold).later hsound
        (hsound.compatible label entry.1 _ _ ?_ hinv hinv' hguar)
      intro hlabel hexclusive
      exact hothers hexclusive entry hold hlabel.symm
    · cases hleft : (task.turn state).2 with
      | none => simp [Config.suspended, hleft] at hnew
      | some rest =>
          simp only [Config.suspended, hleft, List.mem_singleton] at hnew
          subst hnew
          simpa [hleft] using hturn
  · intro other hexclusive
    have hpair := hsingle other hexclusive
    cases hleft : (task.turn state).2 with
    | none => simpa [Config.suspended] using hpair
    | some rest =>
        have hnew : label = other → ∀ entry ∈ before ++ after, entry.1 ≠ other := by
          rintro rfl
          exact hothers hexclusive
        simp only [Config.suspended, List.append_assoc, List.singleton_append] at hpair ⊢
        rw [List.pairwise_append] at hpair ⊢
        refine ⟨hpair.1, List.pairwise_cons.mpr ⟨?_, hpair.2.1⟩, ?_⟩
        · intro entry hentry hlabel
          exact hnew hlabel entry (List.mem_append_right _ hentry)
        · intro first hfirst second hsecond hlabel
          rcases List.mem_cons.mp hsecond with rfl | hsecond
          · exact fun heq => hnew heq first (List.mem_append_left _ hfirst) hlabel
          · exact hpair.2.2 first hfirst second hsecond hlabel

/-- A turn keeps the proof outline. -/
theorem Holds.resume (hsound : outline.Sound system) {config : Config σ ι}
    (hconfig : outline.Holds system config) (position : Nat) :
    outline.Holds system (config.resume position) := by
  unfold Config.resume
  split
  next label ready task hentry =>
    split
    next hready =>
      obtain ⟨hlt, hget⟩ := List.getElem?_eq_some_iff.mp hentry
      have hsplit : config.tasks = config.tasks.take position ++
          (label, .await ready task) :: config.tasks.drop (position + 1) := by
        rw [← hget, List.getElem_cons_drop, List.take_append_drop]
      have hin : ∀ entry ∈ config.tasks.take position ++ config.tasks.drop (position + 1),
          entry ∈ config.tasks := by
        intro entry h
        rw [hsplit]
        simp only [List.mem_append, List.mem_cons] at h ⊢
        tauto
      have hself : (label, .await ready task) ∈ config.tasks := List.mem_of_getElem? hentry
      obtain ⟨ready', task', heq, hmeets⟩ := hconfig.waits _ hself
      cases heq
      have hpair := fun other hexclusive => hsplit ▸ hconfig.single other hexclusive
      refine Holds.turn hsound _ _ (hmeets config.state hconfig.inv (hsound.refl _ _) hready)
        hconfig.inv ?_ (fun entry h => hconfig.waits entry (hin entry h)) ?_ ?_
      · intro other hother hfree
        refine hconfig.rest other ?_
        intro entry h
        rw [hsplit] at h
        simp only [List.mem_append, List.mem_cons] at h
        rcases h with h | rfl | h
        · exact hfree entry (by simp [h])
        · exact Ne.symm hother
        · exact hfree entry (by simp [h])
      · intro hexclusive entry h
        have hpair := List.pairwise_append.mp (hpair label hexclusive)
        simp only [List.mem_append] at h
        rcases h with h | h
        · intro hlabel
          exact hpair.2.2 entry h _ (List.mem_cons_self) hlabel rfl
        · exact (List.pairwise_cons.mp hpair.2.1).1 entry h rfl
      · intro other hexclusive
        exact (hpair other hexclusive).sublist
          (List.Sublist.append_left (List.sublist_cons_self _ _) _)
    next => exact hconfig
  next => exact hconfig

/-- A call keeps the proof outline, if its label is free where it has to be. -/
theorem Holds.launch (hsound : outline.Sound system) {config : Config σ ι}
    (hconfig : outline.Holds system config) {label : ι} {task : Async σ Unit}
    (hmeets : task.Meets (outline.contract label) (outline.post label) config.state config.state)
    (hfree : system.exclusive label → ∀ other ∈ config.tasks, other.1 ≠ label) :
    outline.Holds system (config.launch label task) := by
  have hturn := Holds.turn hsound config.tasks [] hmeets hconfig.inv
  simp only [List.append_nil] at hturn
  exact hturn (fun other _ => hconfig.rest other) hconfig.waits hfree hconfig.single

/-- The step lemma of proof outlines. -/
theorem Holds.step (hsound : outline.Sound system) {config next : Config σ ι}
    (hconfig : outline.Holds system config) (hstep : system.Step config next) :
    outline.Holds system next := by
  cases hstep with
  | @launch label task hspawn hfree =>
      have hrest : outline.rest label config.state := by
        by_cases hexclusive : system.exclusive label
        · exact hconfig.rest label (hfree hexclusive)
        · exact hsound.idle label _ hexclusive
      exact hconfig.launch hsound (hsound.spawn _ _ _ hconfig.inv hrest hspawn) hfree
  | resume position => exact hconfig.resume hsound position
  | env henv =>
      obtain ⟨hinv, hrely, hrest⟩ := hsound.env _ _ hconfig.inv henv
      exact ⟨hinv, fun label hfree => hrest label (hconfig.rest label hfree),
        fun entry h => (hconfig.waits entry h).later hsound (hrely entry.1), hconfig.single⟩

/-- The rely-guarantee rule: a sound outline that holds at the start holds in
every configuration of every run. -/
theorem Holds.reachable (hsound : outline.Sound system) {initial config : Config σ ι}
    (hinitial : outline.Holds system initial) (hrun : system.Reachable initial config) :
    outline.Holds system config := by
  induction hrun with
  | refl => exact hinitial
  | step _ hstep ih => exact ih.step hsound hstep

/-- The outline holds at the start. -/
theorem Holds.start {state : σ} (hinv : outline.inv state)
    (hrest : ∀ label, outline.rest label state) :
    outline.Holds system { state := state, tasks := [] } :=
  ⟨hinv, fun label _ => hrest label, by simp, by simp⟩

end Outline

end Async
