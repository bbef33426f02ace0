import Utp.Foundation.Guarded
import Utp.Foundation.Trace

/-! # Who wrote what

The moves that a call may make depend on the call. In every run with its history, each write is
a move of the call that made it, or of the environment.
-/

universe u v

namespace Async

variable {σ : Type u} {ι : Type v}

/-- Tasks whose moves depend on the task. All of them, and the environment, make the moves
`all`, which preserve an invariant. -/
structure TaskSystem.MovesEach (system : TaskSystem σ ι) (all : σ → σ → Prop)
    (own : ι → Async σ Unit → σ → σ → Prop) (inv : σ → Prop) : Prop where
  preserves : ∀ start target, inv start → all start target → inv target
  spawn : ∀ state label task, inv state → system.spawn state label task →
    task.Moves (Chain all) (own label task) (fun _ _ => True) state
  weaken : ∀ label task start target, own label task start target → all start target
  env : ∀ state next, inv state → system.env state next → all state next

namespace Trace

/-- The write is a move of the call that made it, or of the environment. -/
def Authored (system : TaskSystem σ ι) (own : ι → Async σ Unit → σ → σ → Prop)
    (calls : List (ι × Async σ Unit)) (write : Option Nat × σ × σ) : Prop :=
  match write.1 with
  | none => system.env write.2.1 write.2.2
  | some number => ∃ label task, calls[number]? = some (label, task) ∧
      own label task write.2.1 write.2.2

theorem Authored.mono {system : TaskSystem σ ι} {own : ι → Async σ Unit → σ → σ → Prop}
    {calls more : List (ι × Async σ Unit)} {write : Option Nat × σ × σ}
    (hwrite : Authored system own calls write) : Authored system own (calls ++ more) write := by
  unfold Authored at *
  split
  next heq =>
    rw [heq] at hwrite
    exact hwrite
  next number heq =>
    rw [heq] at hwrite
    obtain ⟨label, task, hcall, hown⟩ := hwrite
    refine ⟨label, task, ?_, hown⟩
    rw [List.getElem?_append_left (List.getElem?_eq_some_iff.mp hcall).1, hcall]

/-- The suspended tasks go on to make the moves of their calls. -/
structure MovingEach (system : TaskSystem σ ι) (all : σ → σ → Prop)
    (own : ι → Async σ Unit → σ → σ → Prop) (inv : σ → Prop) (trace : Trace σ ι) : Prop where
  inv : inv trace.config.state
  tasks : ∀ entry ∈ trace.config.tasks, ∃ label task, trace.calls[entry.1.2]? = some (label, task) ∧
    MovesOnBy all (own label task) entry.2 trace.config.state
  writes : ∀ write ∈ trace.writes, Authored system own trace.calls write

variable {system : TaskSystem σ ι} {all : σ → σ → Prop} {own : ι → Async σ Unit → σ → σ → Prop}
  {inv : σ → Prop} {trace : Trace σ ι}

/-- One turn of one call, the others untouched. -/
theorem MovingEach.turn (hsystem : system.MovesEach all own inv)
    (hinv : inv trace.config.state) {number : Nat} {label label' : ι} {first task' : Async σ Unit}
    {calls : List (ι × Async σ Unit)} (hcall : calls[number]? = some (label, first))
    (htask : task'.Moves (Chain all) (own label first) (fun _ _ => True) trace.config.state)
    {before after : List ((ι × Nat) × Async σ Unit)}
    (hothers : ∀ entry ∈ before ++ after, ∃ label task, calls[entry.1.2]? = some (label, task) ∧
      MovesOnBy all (own label task) entry.2 trace.config.state)
    (hwrites : ∀ write ∈ trace.writes, Authored system own calls write) :
    MovingEach system all own inv { trace.record number task' ⟨(task'.turn trace.config.state).1,
      before ++ Config.suspended (label', number) (task'.turn trace.config.state).2 ++ after⟩ with
        calls := calls } := by
  obtain ⟨hchain, hrest⟩ := turn_movesOnBy (hsystem.weaken label first) htask
  refine ⟨hchain.preserves hsystem.preserves hinv, fun entry hentry => ?_, fun write hwrite => ?_⟩
  · simp only [record, List.mem_append] at hentry
    have hlater : ∀ entry ∈ before ++ after, ∃ label task, calls[entry.1.2]? = some (label, task) ∧
        MovesOnBy all (own label task) entry.2 (task'.turn trace.config.state).1 := by
      intro entry hentry
      obtain ⟨label, task, hcall, hmoves⟩ := hothers entry hentry
      exact ⟨label, task, hcall, hmoves.later hchain⟩
    rcases hentry with (hbefore | hnew) | hafter
    · exact hlater entry (List.mem_append_left _ hbefore)
    · cases hleft : (task'.turn trace.config.state).2 with
      | none => simp [Config.suspended, hleft] at hnew
      | some rest =>
          simp only [Config.suspended, hleft, List.mem_singleton] at hnew
          subst hnew
          exact ⟨label, first, hcall, hrest rest hleft⟩
    · exact hlater entry (List.mem_append_right _ hafter)
  · rcases List.mem_append.mp hwrite with hold | hnew
    · exact hwrites write hold
    · obtain ⟨pair, hpair, rfl⟩ := List.mem_map.mp hnew
      exact ⟨label, first, hcall, writes_move htask pair hpair⟩

theorem MovingEach.launch (hsystem : system.MovesEach all own inv)
    (htrace : MovingEach system all own inv trace) {label : ι} {task : Async σ Unit}
    (hspawn : system.spawn trace.config.state label task) :
    MovingEach system all own inv (trace.launch label task) := by
  have hcall : (trace.calls ++ [(label, task)])[trace.calls.length]? = some (label, task) := by simp
  have hturn := @MovingEach.turn _ _ _ _ _ _ trace hsystem htrace.inv _ label label _ _ _ hcall
    (hsystem.spawn _ _ _ htrace.inv hspawn) trace.config.tasks [] (fun entry hentry => by
      rw [List.append_nil] at hentry
      obtain ⟨label, task, hold, hmoves⟩ := htrace.tasks entry hentry
      have hlt := (List.getElem?_eq_some_iff.mp hold).1
      exact ⟨label, task, by rw [List.getElem?_append_left hlt, hold], hmoves⟩)
    fun write hwrite => (htrace.writes write hwrite).mono
  rw [List.append_nil] at hturn
  exact hturn

theorem MovingEach.resume (hsystem : system.MovesEach all own inv)
    (htrace : MovingEach system all own inv trace) (position : Nat) :
    MovingEach system all own inv (trace.resume position) := by
  unfold Trace.resume
  split
  next label number ready task hentry =>
    split
    next hready =>
      obtain ⟨label', first, hcall, hmoves⟩ := htrace.tasks _ (List.mem_of_getElem? hentry)
      have htask := hmoves trace.config.state .refl trace.config.state .refl hready
      have hturn := @MovingEach.turn _ _ _ _ _ _ trace hsystem htrace.inv _ label' label _ _ _ hcall
        htask (trace.config.tasks.take position) (trace.config.tasks.drop (position + 1))
        (fun entry h => htrace.tasks entry ((List.mem_append.mp h).elim List.mem_of_mem_take
          List.mem_of_mem_drop)) htrace.writes
      rw [Config.resume, hentry]
      simp only [if_pos hready]
      exact hturn
    next => exact htrace
  next => exact htrace

theorem MovingEach.move (hsystem : system.MovesEach all own inv)
    (htrace : MovingEach system all own inv trace) {state : σ}
    (henv : system.env trace.config.state state) :
    MovingEach system all own inv (trace.move state) := by
  have hmove := hsystem.env _ _ htrace.inv henv
  refine ⟨hsystem.preserves _ _ htrace.inv hmove, fun entry hentry => ?_, fun write hwrite => ?_⟩
  · obtain ⟨label, task, hcall, hmoves⟩ := htrace.tasks entry hentry
    exact ⟨label, task, hcall, hmoves.later (.single hmove)⟩
  · rcases List.mem_append.mp hwrite with hold | hnew
    · exact htrace.writes write hold
    · rw [List.mem_singleton.mp hnew]
      exact henv

end Trace

/-- In every run, from a start at which nothing has been called. -/
theorem TaskSystem.MovesEach.traced {system : TaskSystem σ ι} {all : σ → σ → Prop}
    {own : ι → Async σ Unit → σ → σ → Prop} {inv : σ → Prop}
    (hsystem : system.MovesEach all own inv)
    {state : σ} (hstate : inv state) {trace : Trace σ ι}
    (hrun : system.Traced (Trace.start state) trace) :
    Trace.MovingEach system all own inv trace := by
  induction hrun with
  | refl => exact ⟨hstate, by simp [Trace.start], by simp [Trace.start]⟩
  | launch _ hspawn _ ih => exact ih.launch hsystem hspawn
  | resume _ position ih => exact ih.resume hsystem position
  | env _ henv ih => exact ih.move hsystem henv

end Async
