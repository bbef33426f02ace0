import Utp.Foundation.Guarded

/-! # How tasks end

`Yields` says what holds when a task ends, provided that its writes are allowed;
`Suspends` says what holds of the rest of a task at every await.
-/

universe u v w

namespace Async

variable {σ : Type u} {α : Type v} {β : Type w}

/-- If all writes of the task are allowed, and a condition holds wherever it goes
on after an await, then it ends in the postcondition, if it ends. -/
def Yields (here : σ → Prop) (allowed : σ → σ → Prop) (post : Except String α → σ → Prop) :
    Async σ α → σ → Prop
  | .pure value, state => post (.ok value) state
  | .throw error, state => post (.error error) state
  | .read task, state => (task state).Yields here allowed post state
  | .write target task, state => allowed state target → task.Yields here allowed post target
  | .await ready task, _ =>
      ∀ later, here later → ready later = true → task.Yields here allowed post later

/-- Every end of the task is a failure. -/
def Fails (here : σ → Prop) (allowed : σ → σ → Prop) (task : Async σ α) (state : σ) : Prop :=
  task.Yields here allowed (fun result _ => result.isOk = false) state

section Yields

variable {here : σ → Prop} {allowed : σ → σ → Prop} {state : σ}

/-- The postcondition may be weakened. -/
theorem Yields.mono {post weaker : Except String α → σ → Prop}
    (hpost : ∀ result state, post result state → weaker result state) {task : Async σ α}
    (htask : task.Yields here allowed post state) : task.Yields here allowed weaker state := by
  induction task generalizing state with
  | pure => exact hpost _ _ htask
  | throw => exact hpost _ _ htask
  | read task ih => exact ih _ htask
  | write target task ih => exact fun hallowed => ih (htask hallowed)
  | await ready task ih => exact fun later hlater hready => ih (htask later hlater hready)

/-- A sequence yields what its second part yields after the first. -/
theorem yields_bind {post : Except String β → σ → Prop} {task : Async σ α}
    {next : α → Async σ β} :
    (task.bind next).Yields here allowed post state ↔
      task.Yields here allowed (fun result state =>
        match result with
        | .ok value => (next value).Yields here allowed post state
        | .error error => post (.error error) state) state := by
  induction task generalizing state with
  | pure => rfl
  | throw => rfl
  | read task ih => exact ih _
  | write target task ih => simp only [bind, Yields, ih]
  | await ready task ih => simp only [bind, Yields, ih]

/-- A handler takes over where the task fails. -/
theorem yields_attempt {post : Except String α → σ → Prop} {task : Async σ α}
    {handler : String → Async σ α} :
    (task.attempt handler).Yields here allowed post state ↔
      task.Yields here allowed (fun result state =>
        match result with
        | .ok value => post (.ok value) state
        | .error error => (handler error).Yields here allowed post state) state := by
  induction task generalizing state with
  | pure => rfl
  | throw => rfl
  | read task ih => exact ih _
  | write target task ih => simp only [attempt, Yields, ih]
  | await ready task ih => simp only [attempt, Yields, ih]

/-- Behind an await the result meets any state that is `here`. -/
theorem yields_awaited {post : Except String α → σ → Prop} {task : Async σ α} :
    task.awaited.Yields here allowed post state ↔
      task.Yields here allowed (fun result _ => ∀ later, here later → post result later)
        state := by
  induction task generalizing state with
  | pure => simp [awaited, Yields]
  | throw => simp [awaited, Yields]
  | read task ih => exact ih _
  | write target task ih => simp only [awaited, Yields, ih]
  | await ready task ih => simp only [awaited, Yields, ih]

/-- A task that writes nothing ends where it goes on after its last await. -/
theorem Yields.of_idle {task : Async σ α} (hidle : task.Moves (fun _ _ => True)
    (fun _ _ => False) (fun _ _ => True) state) (hstate : here state) :
    task.Yields here allowed (fun _ state => here state) state := by
  induction task generalizing state with
  | pure => exact hstate
  | throw => exact hstate
  | read task ih => exact ih _ hidle hstate
  | write => exact hidle.1.elim
  | await ready task ih => exact fun later hlater hready => ih (hidle later trivial hready) hlater

end Yields

/-! ## The rest of a task at its awaits -/

/-- What a call has come to. -/
def finished : Except String α → Async σ α
  | .ok value => .pure value
  | .error error => .throw error

/-- What is left of the task satisfies `fate` at every await, and its result `post`. -/
def Suspends (fate : Async σ α → Prop) (post : Except String α → Prop) : Async σ α → Prop
  | .pure value => post (.ok value)
  | .throw error => post (.error error)
  | .read task => ∀ state, (task state).Suspends fate post
  | .write _ task => task.Suspends fate post
  | .await ready task => fate (.await ready task) ∧ task.Suspends fate post

/-- The fate and the postcondition may be weakened. -/
theorem Suspends.mono {fate weaker : Async σ α → Prop} {post last : Except String α → Prop}
    (hfate : ∀ rest, fate rest → weaker rest) (hpost : ∀ result, post result → last result)
    {task : Async σ α} (htask : task.Suspends fate post) : task.Suspends weaker last := by
  induction task with
  | pure => exact hpost _ htask
  | throw => exact hpost _ htask
  | read task ih => exact fun state => ih state (htask state)
  | write target task ih => exact ih htask
  | await ready task ih => exact ⟨hfate _ htask.1, ih htask.2⟩

/-- The awaits of a sequence are those of its parts. -/
theorem suspends_bind {fate : Async σ β → Prop} {post : Except String β → Prop}
    {task : Async σ α} {next : α → Async σ β} :
    (task.bind next).Suspends fate post ↔
      task.Suspends (fun rest => fate (rest.bind next)) fun result =>
        match result with
        | .ok value => (next value).Suspends fate post
        | .error error => post (.error error) := by
  induction task with
  | pure => rfl
  | throw => rfl
  | read task ih => simp only [bind, Suspends, ih]
  | write target task ih => simp only [bind, Suspends, ih]
  | await ready task ih => simp only [bind, Suspends, ih]

/-- An awaited task suspends once more, with its result. -/
theorem suspends_awaited {fate : Async σ α → Prop} {post : Except String α → Prop}
    {task : Async σ α} :
    task.awaited.Suspends fate post ↔
      task.Suspends (fun rest => fate rest.awaited) fun result =>
        fate (.await (fun _ => true) (finished result)) ∧ post result := by
  induction task with
  | pure => rfl
  | throw => rfl
  | read task ih => simp only [awaited, Suspends, ih]
  | write target task ih => simp only [awaited, Suspends, ih]
  | await ready task ih => simp only [awaited, Suspends, ih]

/-- A task over a part of the state ends as it does on the part. -/
theorem Suspends.zoom {τ : Type*} {view : τ → σ} {put : τ → σ → τ}
    {post : Except String α → Prop} {task : Async σ α}
    (htask : task.Suspends (fun _ => True) post) :
    (task.zoom view put).Suspends (fun _ => True) post := by
  induction task with
  | pure => exact htask
  | throw => exact htask
  | read task ih => exact fun whole => ih _ (htask _)
  | write target task ih => exact fun whole => ih htask
  | await ready task ih => exact ⟨trivial, ih htask.2⟩

/-- A postcondition on the results alone is yielded from any state. -/
theorem Suspends.yields {here : σ → Prop} {allowed : σ → σ → Prop} {fate : Async σ α → Prop}
    {post : Except String α → Prop} {task : Async σ α} (htask : task.Suspends fate post)
    (state : σ) : task.Yields here allowed (fun result _ => post result) state := by
  induction task generalizing state with
  | pure => exact htask
  | throw => exact htask
  | read task ih => exact ih _ (htask _) state
  | write target task ih => exact fun _ => ih htask target
  | await ready task ih => exact fun later _ _ => ih htask.2 later

/-- After a turn whose writes are allowed a task ends as before. -/
theorem Yields.suspended {ι : Type w} {here : σ → Prop} {allowed : σ → σ → Prop}
    {post : Except String Unit → σ → Prop} {task : Async σ Unit} {state : σ}
    (htask : task.Yields here allowed post state)
    (hallowed : ∀ write ∈ task.writes state, allowed write.1 write.2) {label : ι}
    {entry : ι × Async σ Unit} (hentry : entry ∈ Config.suspended label (task.turn state).2)
    (later : σ) : entry.2.Yields here allowed post later := by
  induction task generalizing state with
  | pure => cases hentry
  | throw => cases hentry
  | read task ih => exact ih _ htask hallowed hentry
  | write target task ih =>
      exact ih (htask (hallowed _ List.mem_cons_self))
        (fun write hwrite => hallowed write (List.mem_cons_of_mem _ hwrite)) hentry
  | await ready task =>
      rw [List.mem_singleton.mp hentry]
      exact htask

/-- What a turn leaves has its fate, and suspends alike. -/
theorem Suspends.turn {fate : Async σ α → Prop} {post : Except String α → Prop}
    {task rest : Async σ α} (htask : task.Suspends fate post) {state : σ}
    (hrest : (task.turn state).2 = some rest) : fate rest ∧ rest.Suspends fate post := by
  induction task generalizing state with
  | pure => cases hrest
  | throw => cases hrest
  | read task ih => exact ih _ (htask _) hrest
  | write target task ih => exact ih htask hrest
  | await ready task =>
      cases hrest
      exact ⟨htask.1, htask⟩

/-! ## The next write of a task -/

/-- If the task gets on to a write, whatever it finds behind its awaits, then the first one is
of the given kind. -/
def Begins (first : σ → σ → Prop) : Async σ α → σ → Prop
  | .pure _, _ => True
  | .throw _, _ => True
  | .read task, state => (task state).Begins first state
  | .write target _, state => first state target
  | .await ready task, _ => ∀ later, ready later = true → task.Begins first later

/-- The task can come to a value without a write, in states that are `here`. -/
def Passes (here : σ → Prop) : Async σ α → Prop
  | .pure _ => True
  | .throw _ => False
  | .read task => ∀ state, (task state).Passes here
  | .write _ _ => False
  | .await ready task => (∃ later, here later ∧ ready later = true) ∧ task.Passes here

section Begins

variable {first : σ → σ → Prop} {here : σ → Prop} {state : σ}

/-- A task that passes writes nothing. -/
theorem Passes.idle {task : Async σ α} (htask : task.Passes here) :
    task.MovesAlways fun _ _ => False := by
  intro state
  induction task generalizing state with
  | pure => trivial
  | throw => trivial
  | read task ih => exact ih _ (htask state) state
  | write => exact htask.elim
  | await ready task ih => exact fun later _ _ => ih htask.2 later

theorem Passes.awaited (hstate : here state) {task : Async σ α} (htask : task.Passes here) :
    task.awaited.Passes here := by
  induction task with
  | pure => exact ⟨⟨state, hstate, rfl⟩, trivial⟩
  | throw => exact htask.elim
  | read task ih => exact fun found => ih found (htask found)
  | write => exact htask
  | await ready task ih => exact ⟨htask.1, ih htask.2⟩

/-- Behind a task that passes the next one begins. -/
theorem Begins.of_passes {task : Async σ α} {next : α → Async σ β} (htask : task.Passes here)
    (hstate : here state) (hbegins : (task.bind next).Begins first state) :
    ∃ value later, here later ∧ (next value).Begins first later := by
  induction task generalizing state with
  | pure value => exact ⟨value, state, hstate, hbegins⟩
  | throw => exact htask.elim
  | read task ih => exact ih _ (htask state) hstate hbegins
  | write => exact htask.elim
  | await ready task ih =>
      obtain ⟨later, hlater, hready⟩ := htask.1
      exact ih htask.2 hlater (hbegins later hready)

/-- A sequence begins with the first write of its first part, if that has one. -/
theorem Begins.of_bind {task : Async σ α} {next : α → Async σ β}
    (hbegins : (task.bind next).Begins first state) : task.Begins first state := by
  induction task generalizing state with
  | pure => trivial
  | throw => trivial
  | read task ih => exact ih _ hbegins
  | write => exact hbegins
  | await ready task ih => exact fun later hready => ih (hbegins later hready)

/-- Awaiting a task does not change how it begins. -/
theorem Begins.of_awaited {task : Async σ α} (hbegins : task.awaited.Begins first state) :
    task.Begins first state := by
  induction task generalizing state with
  | pure => trivial
  | throw => trivial
  | read task ih => exact ih _ hbegins
  | write => exact hbegins
  | await ready task ih => exact fun later hready => ih (hbegins later hready)

end Begins

/-! ## What follows an event -/

/-- Behind a write that counts as an event, the task only makes such moves. -/
def Thereafter (event move : σ → σ → Prop) : Async σ α → σ → Prop
  | .pure _, _ => True
  | .throw _, _ => True
  | .read task, state => (task state).Thereafter event move state
  | .write target task, state =>
      (event state target → task.Moves (fun _ _ => True) move (fun _ _ => True) target) ∧
        task.Thereafter event move target
  | .await ready task, _ => ∀ later, ready later = true → task.Thereafter event move later

section Thereafter

variable {event move : σ → σ → Prop} {state : σ}

/-- A task that makes no other moves at all. -/
theorem Thereafter.of_moves {task : Async σ α}
    (htask : task.Moves (fun _ _ => True) move (fun _ _ => True) state) :
    task.Thereafter event move state := by
  induction task generalizing state with
  | pure => trivial
  | throw => trivial
  | read task ih => exact ih _ htask
  | write target task ih => exact ⟨fun _ => htask.2, ih htask.2⟩
  | await ready task ih => exact fun later hready => ih (htask later trivial hready)

/-- The moves may be weakened. -/
theorem Thereafter.mono {weaker : σ → σ → Prop} (hmove : ∀ start target, move start target →
    weaker start target) {task : Async σ α} (htask : task.Thereafter event move state) :
    task.Thereafter event weaker state := by
  induction task generalizing state with
  | pure => trivial
  | throw => trivial
  | read task ih => exact ih _ htask
  | write target task ih =>
      exact ⟨fun hevent => (htask.1 hevent).mono (fun _ _ => id) hmove fun _ _ => id, ih htask.2⟩
  | await ready task ih => exact fun later hready => ih (htask later hready)

/-- A task to which the event happens at most in what follows it. -/
theorem Thereafter.bind_never {task : Async σ α} {next : α → Async σ β}
    (htask : task.Moves (fun _ _ => True) (fun start target => ¬ event start target)
      (fun _ _ => True) state)
    (hnext : ∀ value later, (next value).Thereafter event move later) :
    (task.bind next).Thereafter event move state := by
  induction task generalizing state with
  | pure value => exact hnext value state
  | throw => trivial
  | read task ih => exact ih _ htask
  | write target task ih => exact ⟨fun hevent => absurd hevent htask.1, ih htask.2⟩
  | await ready task ih => exact fun later hready => ih (htask later trivial hready)

/-- If the first part makes the event, the second part comes behind it. -/
theorem Thereafter.bind {task : Async σ α} {next : α → Async σ β}
    (htask : task.Thereafter event move state) (hnext : ∀ value, (next value).MovesAlways move) :
    (task.bind next).Thereafter event move state := by
  induction task generalizing state with
  | pure value => exact .of_moves (hnext value state)
  | throw => trivial
  | read task ih => exact ih _ htask
  | write target task ih =>
      refine ⟨fun hevent => moves_bind.mpr ((htask.1 hevent).post fun result later _ => ?_),
        ih htask.2⟩
      cases result with
      | ok value => exact hnext value later
      | error error => trivial
  | await ready task ih => exact fun later hready => ih (htask later hready)

/-- Awaiting a task adds no write. -/
theorem Thereafter.awaited {task : Async σ α} (htask : task.Thereafter event move state) :
    task.awaited.Thereafter event move state := by
  induction task generalizing state with
  | pure => exact fun _ _ => trivial
  | throw => exact fun _ _ => trivial
  | read task ih => exact ih _ htask
  | write target task ih =>
      exact ⟨fun hevent => moves_awaited.mpr ((htask.1 hevent).post fun _ _ _ _ _ => trivial),
        ih htask.2⟩
  | await ready task ih => exact fun later hready => ih (htask later hready)

/-- What a turn leaves of such a task is such a task, whatever it finds. -/
theorem Thereafter.suspended {ι : Type w} {task : Async σ Unit}
    (htask : task.Thereafter event move state) {label : ι} {entry : ι × Async σ Unit}
    (hentry : entry ∈ Config.suspended label (task.turn state).2) (later : σ) :
    entry.2.Thereafter event move later := by
  induction task generalizing state with
  | pure => cases hentry
  | throw => cases hentry
  | read task ih => exact ih _ htask hentry
  | write target task ih => exact ih htask.2 hentry
  | await ready task =>
      rw [List.mem_singleton.mp hentry]
      exact htask

/-- A turn that starts in the first phase ends in it, or it comes to the event and ends in the
second phase. -/
theorem Thereafter.turn {rely act : σ → σ → Prop} {before behind : σ → Prop}
    {task : Async σ Unit} (htask : task.Thereafter event move state)
    (hacts : task.Moves rely act (fun _ _ => True) state)
    (hbefore : ∀ start target, before start → act start target →
      before target ∨ event start target ∧ behind target)
    (hbehind : ∀ start target, behind start → act start target → move start target →
      behind target) (hstate : before state) :
    before (task.turn state).1 ∨ behind (task.turn state).1 := by
  have hrest : ∀ (task : Async σ Unit) state, task.Moves rely act (fun _ _ => True) state →
      task.Moves (fun _ _ => True) move (fun _ _ => True) state → behind state →
        behind (task.turn state).1 := by
    intro task state hacts hmoves hstate
    induction task generalizing state with
    | pure => exact hstate
    | throw => exact hstate
    | read task ih => exact ih _ _ hacts hmoves hstate
    | write target task ih =>
        exact ih _ hacts.2 hmoves.2 (hbehind _ _ hstate hacts.1 hmoves.1)
    | await => exact hstate
  induction task generalizing state with
  | pure => exact .inl hstate
  | throw => exact .inl hstate
  | read task ih => exact ih _ htask hacts hstate
  | write target task ih =>
      rcases hbefore _ _ hstate hacts.1 with hstill | ⟨hevent, htarget⟩
      · exact ih htask.2 hacts.2 hstill
      · exact .inr (hrest task target hacts.2 (htask.1 hevent) htarget)
  | await => exact .inl hstate

end Thereafter

/-! ## Counting on others -/

/-- At each await the task either goes on wherever it finds itself, or it counts on a
condition: that holds when it suspends, what is left `relies` on it, and the task goes
on where it still holds. What is `here` always holds, and all writes are allowed. -/
def CountsOn (here : σ → Prop) (allowed : σ → σ → Prop) (relies : Async σ α → Prop)
    (hold : σ → Prop) (post : Except String α → σ → Prop) : Async σ α → σ → Prop
  | .pure value, state => post (.ok value) state
  | .throw error, state => post (.error error) state
  | .read task, state => (task state).CountsOn here allowed relies hold post state
  | .write target task, state =>
      allowed state target → task.CountsOn here allowed relies hold post target
  | .await ready task, state =>
      (∀ later, here later → ready later = true →
          task.CountsOn here allowed relies hold post later) ∨
        (hold state ∧ relies (.await ready task) ∧ ∀ later, here later → hold later →
          ready later = true → task.CountsOn here allowed relies hold post later)

section CountsOn

variable {here : σ → Prop} {allowed : σ → σ → Prop} {relies : Async σ α → Prop}
  {hold : σ → Prop} {state : σ}

/-- What a sequence counts on is what its parts count on. -/
theorem countsOn_bind {post : Except String β → σ → Prop} {relies : Async σ β → Prop}
    {task : Async σ α} {next : α → Async σ β} :
    (task.bind next).CountsOn here allowed relies hold post state ↔
      task.CountsOn here allowed (fun rest => relies (rest.bind next)) hold (fun result state =>
        match result with
        | .ok value => (next value).CountsOn here allowed relies hold post state
        | .error error => post (.error error) state) state := by
  induction task generalizing state with
  | pure => rfl
  | throw => rfl
  | read task ih => exact ih _
  | write target task ih => simp only [bind, CountsOn, ih]
  | await ready task ih => simp only [bind, CountsOn, ih]

/-- A handler takes over where the task fails. -/
theorem countsOn_attempt {post : Except String α → σ → Prop} {task : Async σ α}
    {handler : String → Async σ α} :
    (task.attempt handler).CountsOn here allowed relies hold post state ↔
      task.CountsOn here allowed (fun rest => relies (rest.attempt handler)) hold
        (fun result state =>
        match result with
        | .ok value => post (.ok value) state
        | .error error => (handler error).CountsOn here allowed relies hold post state) state := by
  induction task generalizing state with
  | pure => rfl
  | throw => rfl
  | read task ih => exact ih _
  | write target task ih => simp only [attempt, CountsOn, ih]
  | await ready task ih => simp only [attempt, CountsOn, ih]

/-- An awaited call gives up its turn once more. -/
theorem countsOn_awaited {post : Except String α → σ → Prop} {task : Async σ α} :
    task.awaited.CountsOn here allowed relies hold post state ↔
      task.CountsOn here allowed (fun rest => relies rest.awaited) hold (fun result state =>
        (Async.await (fun _ => true) (finished result)).CountsOn here allowed relies hold
          post state)
          state := by
  induction task generalizing state with
  | pure => rfl
  | throw => rfl
  | read task ih => exact ih _
  | write target task ih => simp only [awaited, CountsOn, ih]
  | await ready task ih => simp only [awaited, CountsOn, ih]

/-- Both the condition on the rest and the postcondition may be weakened. -/
theorem CountsOn.mono {relies weaker : Async σ α → Prop} {post last : Except String α → σ → Prop}
    (hrelies : ∀ rest, relies rest → weaker rest)
    (hpost : ∀ result state, post result state → last result state) {task : Async σ α}
    (htask : task.CountsOn here allowed relies hold post state) :
    task.CountsOn here allowed weaker hold last state := by
  induction task generalizing state with
  | pure => exact hpost _ _ htask
  | throw => exact hpost _ _ htask
  | read task ih => exact ih _ htask
  | write target task ih => exact fun hallowed => ih (htask hallowed)
  | await ready task ih =>
      refine htask.imp (fun h later hlater hready => ih (h later hlater hready)) fun h => ?_
      exact ⟨h.1, hrelies _ h.2.1, fun later hlater hheld hready =>
        ih (h.2.2 later hlater hheld hready)⟩

/-- A task that counts on nothing. -/
theorem Yields.countsOn {post : Except String α → σ → Prop} {task : Async σ α}
    (htask : task.Yields here allowed post state) :
    task.CountsOn here allowed relies hold post state := by
  induction task generalizing state with
  | pure => exact htask
  | throw => exact htask
  | read task ih => exact ih _ htask
  | write target task ih => exact fun hallowed => ih (htask hallowed)
  | await ready task ih =>
      exact .inl fun later hlater hready => ih (htask later hlater hready)

/-- What a suspended task counts on may go on to hold, or not matter to it. -/
theorem CountsOn.later {post : Except String α → σ → Prop} {ready : σ → Bool}
    {task : Async σ α} {next : σ}
    (htask : (Async.await ready task).CountsOn here allowed relies hold post state)
    (hkept : relies (.await ready task) → hold state → hold next) :
    (Async.await ready task).CountsOn here allowed relies hold post next :=
  htask.imp id fun h => ⟨hkept h.2.1 h.1, h.2⟩

end CountsOn

/-- The result of a turn, if it ends the task. -/
def ending : Async σ α → σ → Option (Except String α)
  | .pure value, _ => some (.ok value)
  | .throw error, _ => some (.error error)
  | .read task, state => (task state).ending state
  | .write target task, _ => task.ending target
  | .await _ _, _ => none

/-- After a turn the task has ended in the postcondition, or it is suspended and counts on the
condition again. -/
theorem CountsOn.turn {here : σ → Prop} {allowed : σ → σ → Prop} {relies : Async σ α → Prop}
    {hold : σ → Prop} {state : σ}
    {post : Except String α → σ → Prop} {task : Async σ α}
    (htask : task.CountsOn here allowed relies hold post state)
    (hwrites : ∀ write ∈ task.writes state, allowed write.1 write.2) :
    (∀ result, task.ending state = some result → post result (task.turn state).1) ∧
      ∀ rest, (task.turn state).2 = some rest →
        (∃ ready next, rest = .await ready next) ∧
          rest.CountsOn here allowed relies hold post (task.turn state).1 := by
  induction task generalizing state with
  | pure =>
      refine ⟨fun result hresult => ?_, nofun⟩
      cases hresult
      exact htask
  | throw =>
      refine ⟨fun result hresult => ?_, nofun⟩
      cases hresult
      exact htask
  | read task ih => exact ih _ htask hwrites
  | write target task ih =>
      exact ih (htask (hwrites _ List.mem_cons_self))
        fun write hwrite => hwrites write (List.mem_cons_of_mem _ hwrite)
  | await ready task =>
      refine ⟨nofun, fun rest hrest => ?_⟩
      cases hrest
      exact ⟨⟨_, _, rfl⟩, htask⟩

/-- What all writes of a turn keep holds at its end. -/
theorem turn_keeps {keep : σ → Prop} {task : Async σ Unit} {state : σ}
    (hwrites : ∀ write ∈ task.writes state, keep write.1 → keep write.2) (hstate : keep state) :
    keep (task.turn state).1 := by
  induction task generalizing state with
  | pure => exact hstate
  | throw => exact hstate
  | read task ih => exact ih _ hwrites hstate
  | write target task ih =>
      exact ih (fun write hwrite => hwrites write (List.mem_cons_of_mem _ hwrite))
        (hwrites _ List.mem_cons_self hstate)
  | await => exact hstate

namespace TaskSystem

variable {ι : Type w} {system : TaskSystem σ ι} {fate : Async σ Unit → Prop}

/-- What the tasks under a label suspend with is there in every configuration. -/
theorem suspended {label : ι} (hspawn : ∀ state task, system.spawn state label task →
    task.Suspends fate fun _ => True) {initial config : Config σ ι}
    (hinitial : ∀ entry ∈ initial.tasks, entry.1 ≠ label)
    (hrun : system.Reachable initial config) :
    ∀ entry ∈ config.tasks, entry.1 = label →
      fate entry.2 ∧ entry.2.Suspends fate fun _ => True := by
  induction hrun with
  | refl => exact fun entry hentry heq => absurd heq (hinitial entry hentry)
  | @step config next _ hstep ih =>
      have hturn : ∀ {other : ι} {task : Async σ Unit} {state : σ},
          (other = label → task.Suspends fate fun _ => True) →
          ∀ entry ∈ Config.suspended other (task.turn state).2, entry.1 = label →
            fate entry.2 ∧ entry.2.Suspends fate fun _ => True := by
        intro other task state htask entry hentry heq
        cases hleft : (task.turn state).2 with
        | none => simp [Config.suspended, hleft] at hentry
        | some rest =>
            simp only [Config.suspended, hleft, List.mem_singleton] at hentry
            subst hentry
            exact (htask heq).turn hleft
      cases hstep with
      | @launch other task hspawned _ =>
          intro entry hentry heq
          rcases List.mem_append.mp hentry with hold | hnew
          · exact ih entry hold heq
          · exact hturn (fun h => hspawn _ _ (h ▸ hspawned)) entry hnew heq
      | resume position =>
          unfold Config.resume
          split
          next other ready task hat =>
            split
            next =>
              intro entry hentry heq
              simp only [List.mem_append] at hentry
              rcases hentry with (hbefore | hnew) | hafter
              · exact ih entry (List.mem_of_mem_take hbefore) heq
              · exact hturn (fun h => (ih _ (List.mem_of_getElem? hat) h).2.2) entry hnew heq
              · exact ih entry (List.mem_of_mem_drop hafter) heq
            next => exact ih
          next => exact ih
      | env => exact ih

/-- What the tasks under a label keep by their allowed turns, while a condition holds that the
run keeps, is there at its end. -/
theorem Guarded.fates {label : ι} {allowed : Guard σ ι} {stays : σ → Prop}
    (hspawn : ∀ others state task, stays state → system.spawn state label task →
      (∀ write ∈ task.writes state, allowed others label write.1 write.2) →
        ∀ entry ∈ Config.suspended label (task.turn state).2, fate entry.2)
    (hresume : ∀ others state ready task, stays state → fate (.await ready task) →
      ready state = true →
        (∀ write ∈ task.writes state, allowed others label write.1 write.2) →
          ∀ entry ∈ Config.suspended label (task.turn state).2, fate entry.2)
    {initial config : Config σ ι}
    (hstays : ∀ middle, system.Guarded allowed initial middle → stays middle.state)
    (hinitial : ∀ entry ∈ initial.tasks, entry.1 = label → fate entry.2)
    (hrun : system.Guarded allowed initial config) :
    ∀ entry ∈ config.tasks, entry.1 = label → fate entry.2 := by
  induction hrun with
  | refl => exact hinitial
  | @tail config next hbefore hstep ih =>
      have hstate := hstays config hbefore
      cases hstep with
      | @launch other task hspawned _ hallowed =>
          intro entry hentry heq
          rcases List.mem_append.mp hentry with hold | hnew
          · exact ih entry hold heq
          · have hother : other = label := (Config.label_of_suspended hnew).symm.trans heq
            subst hother
            exact hspawn _ _ _ hstate hspawned hallowed entry hnew
      | resume position hallowed =>
          unfold Config.resume
          split
          next other ready task hat =>
            split
            next hready =>
              intro entry hentry heq
              simp only [List.mem_append] at hentry
              rcases hentry with (hbefore | hnew) | hafter
              · exact ih entry (List.mem_of_mem_take hbefore) heq
              · have hother : other = label := (Config.label_of_suspended hnew).symm.trans heq
                subst hother
                exact hresume _ _ _ _ hstate (ih _ (List.mem_of_getElem? hat) rfl) hready
                  (hallowed _ ready task hat hready) entry hnew
              · exact ih entry (List.mem_of_mem_drop hafter) heq
            next => exact ih
          next => exact ih
      | env => exact ih

/-- No write ends the condition while another task relies on it. -/
def keepsHold (relies : Async σ Unit → Prop) (hold : σ → Prop) : Guard σ ι :=
  fun others _ start target => (∃ other ∈ others, relies other.2) → hold start → hold target

section Counting

variable {here : σ → Prop} {allowed : σ → σ → Prop} {relies : Async σ Unit → Prop}
  {hold : σ → Prop} {post : Except String Unit → σ → Prop} {watched : ι → Prop}

/-- A suspended task that may count on the condition. -/
def Counts (here : σ → Prop) (allowed : σ → σ → Prop) (relies : Async σ Unit → Prop)
    (hold : σ → Prop) (post : Except String Unit → σ → Prop) (task : Async σ Unit)
    (state : σ) : Prop :=
  (∃ ready next, task = .await ready next) ∧ task.CountsOn here allowed relies hold post state

/-- A suspended task does not mind what the others do if they keep what it counts on. -/
theorem Counts.later {task : Async σ Unit} {state next : σ}
    (htask : Counts here allowed relies hold post task state)
    (hkept : relies task → hold state → hold next) :
    Counts here allowed relies hold post task next := by
  obtain ⟨⟨ready, rest, rfl⟩, hcounts⟩ := htask
  exact ⟨⟨ready, rest, rfl⟩, hcounts.later hkept⟩

/-- One turn of one task, the others untouched. -/
theorem counts_turn {state : σ} {label : ι} {task : Async σ Unit}
    {before after : List (ι × Async σ Unit)}
    (hkeeps : ∀ write ∈ task.writes state,
      keepsHold relies hold (before ++ after) label write.1 write.2)
    (hwrites : ∀ write ∈ task.writes state, allowed write.1 write.2)
    (htask : watched label → task.CountsOn here allowed relies hold post state)
    (hothers : ∀ entry ∈ before ++ after, watched entry.1 →
      Counts here allowed relies hold post entry.2 state) :
    ∀ entry ∈ before ++ Config.suspended label (task.turn state).2 ++ after,
      watched entry.1 → Counts here allowed relies hold post entry.2 (task.turn state).1 := by
  have hkept : ∀ entry ∈ before ++ after, watched entry.1 →
      Counts here allowed relies hold post entry.2 (task.turn state).1 :=
        fun entry hentry hwatched =>
    (hothers entry hentry hwatched).later fun hrelies hstate =>
      turn_keeps (fun write hwrite => hkeeps write hwrite ⟨entry, hentry, hrelies⟩) hstate
  intro entry hentry hwatched
  simp only [List.mem_append] at hentry
  rcases hentry with (hbefore | hnew) | hafter
  · exact hkept entry (List.mem_append_left _ hbefore) hwatched
  · cases hleft : (task.turn state).2 with
    | none => simp [Config.suspended, hleft] at hnew
    | some rest =>
        simp only [Config.suspended, hleft, List.mem_singleton] at hnew
        subst hnew
        exact ((htask hwatched).turn hwrites).2 rest hleft
  · exact hkept entry (List.mem_append_right _ hafter) hwatched

/-- If no write ends the condition while another task relies on it, then the watched
tasks find it wherever they count on it. -/
theorem counts (hspawn : ∀ state label task, watched label → here state →
      system.spawn state label task → task.CountsOn here allowed relies hold post state)
    (henv : ∀ start target, system.env start target → hold start → hold target)
    {initial config : Config σ ι} (hinitial : ∀ entry ∈ initial.tasks, ¬ watched entry.1)
    (hwrites : ∀ start target, system.Write initial start target → allowed start target)
    (hhere : ∀ config, system.Guarded (keepsHold relies hold) initial config → here config.state)
    (hrun : system.Guarded (keepsHold relies hold) initial config) :
    ∀ entry ∈ config.tasks, watched entry.1 → Counts here allowed relies hold post entry.2
      config.state := by
  induction hrun with
  | refl => exact fun entry hentry hwatched => absurd hwatched (hinitial entry hentry)
  | @tail config next hbefore hstep ih =>
      cases hstep with
      | @launch label task hspawned hfree hallowed =>
          have hturn := @counts_turn _ _ here allowed relies hold post watched config.state
            label task
            config.tasks [] (by simpa using hallowed) (fun write hwrite => hwrites _ _
              (.launch (TaskSystem.Guarded.reachable hbefore) hspawned hfree hwrite))
                (fun h => hspawn _ _ _ h (hhere _ hbefore) hspawned)
            (by simpa using ih)
          rw [List.append_nil] at hturn
          exact hturn
      | resume position hallowed =>
          unfold Config.resume
          split
          next label ready task hat =>
            split
            next hready =>
              refine counts_turn ?_ (fun write hwrite => hwrites _ _
                (.resume (TaskSystem.Guarded.reachable hbefore)
                (List.mem_of_getElem? hat) hready hwrite))
                  (fun h => ?_) fun entry hentry hwatched => ?_
              · rw [← List.eraseIdx_eq_take_drop_succ]
                exact hallowed label ready task hat hready
              · rcases (ih _ (List.mem_of_getElem? hat) h).2 with hfree | hheld
                · exact hfree _ (hhere _ hbefore) hready
                · exact hheld.2.2 _ (hhere _ hbefore) hheld.1 hready
              · rcases List.mem_append.mp hentry with hfirst | hafter
                · exact ih entry (List.mem_of_mem_take hfirst) hwatched
                · exact ih entry (List.mem_of_mem_drop hafter) hwatched
            next => exact ih
          next => exact ih
      | env hmoved =>
          exact fun entry hentry hwatched =>
            (ih entry hentry hwatched).later fun _ => henv _ _ hmoved

end Counting

end TaskSystem

end Async
