import Utp.Foundation.Async

/-! # Rely-guarantee contracts for cooperative tasks

A contract names what holds of the shared state at every await, what one turn
of the task may change, and what the other tasks may change while it waits.
`Meets` is the weakest precondition of a task under a contract, turn by turn.
`Moves` is the finer judgement, write by write: each single write of a task is
admissible, where `rely` bounds what the others do while it waits.
-/

universe u v w

namespace Async

variable {σ : Type u} {α : Type v} {β : Type w}

/-- What a task is promised while it waits, and what it promises in a turn. -/
structure Contract (σ : Type u) where
  inv : σ → Prop
  rely : σ → σ → Prop
  guar : σ → σ → Prop

/-- `task.Meets contract post start state`: running on from `state`, in a turn
that began in `start`, the task keeps the contract and ends in `post`. The
postcondition sees the start of the last turn, which is the caller's. -/
def Meets (contract : Contract σ) (post : Except String α → σ → σ → Prop) :
    Async σ α → σ → σ → Prop
  | .pure value, start, state => post (.ok value) start state
  | .throw error, start, state => post (.error error) start state
  | .read task, start, state => (task state).Meets contract post start state
  | .write target task, start, _ => task.Meets contract post start target
  | .await ready task, start, state =>
      contract.inv state ∧ contract.guar start state ∧
        ∀ later, contract.inv later → contract.rely state later → ready later = true →
          task.Meets contract post later later

/-- A postcondition may be weakened. -/
theorem Meets.mono {contract : Contract σ} {post weaker : Except String α → σ → σ → Prop}
    (hpost : ∀ result start state, post result start state → weaker result start state)
    {task : Async σ α} {start state : σ} (hmeets : task.Meets contract post start state) :
    task.Meets contract weaker start state := by
  induction task generalizing start state with
  | pure => exact hpost _ _ _ hmeets
  | throw => exact hpost _ _ _ hmeets
  | read task ih => exact ih _ hmeets
  | write target task ih => exact ih hmeets
  | await ready task ih =>
      exact ⟨hmeets.1, hmeets.2.1, fun later hinv hrely hready =>
        ih (hmeets.2.2 later hinv hrely hready)⟩

/-- A sequence meets a contract if its first task does, up to where the second goes on. -/
theorem meets_bind {contract : Contract σ} {post : Except String β → σ → σ → Prop}
    {task : Async σ α} {next : α → Async σ β} {start state : σ} :
    (task.bind next).Meets contract post start state ↔
      task.Meets contract (fun result start state =>
        match result with
        | .ok value => (next value).Meets contract post start state
        | .error error => post (.error error) start state) start state := by
  induction task generalizing start state with
  | pure => rfl
  | throw => rfl
  | read task ih => exact ih _
  | write target task ih => exact ih
  | await ready task ih => simp only [bind, Meets, ih]

/-- A `try` meets a contract if its body does, up to where the handler goes on. -/
theorem meets_attempt {contract : Contract σ} {post : Except String α → σ → σ → Prop}
    {task : Async σ α} {handler : String → Async σ α} {start state : σ} :
    (task.attempt handler).Meets contract post start state ↔
      task.Meets contract (fun result start state =>
        match result with
        | .ok value => post (.ok value) start state
        | .error error => (handler error).Meets contract post start state) start state := by
  induction task generalizing start state with
  | pure => rfl
  | throw => rfl
  | read task ih => exact ih _
  | write target task ih => exact ih
  | await ready task ih => simp only [attempt, Meets, ih]

/-- An await is the end of a turn: the contract must hold, and others may run. -/
theorem meets_awaited {contract : Contract σ} {post : Except String α → σ → σ → Prop}
    {task : Async σ α} {start state : σ} :
    task.awaited.Meets contract post start state ↔
      task.Meets contract (fun result start state =>
        contract.inv state ∧ contract.guar start state ∧
          ∀ later, contract.inv later → contract.rely state later → post result later later)
        start state := by
  induction task generalizing start state with
  | pure => simp [awaited, Meets]
  | throw => simp [awaited, Meets]
  | read task ih => exact ih _
  | write target task ih => exact ih
  | await ready task ih => simp only [awaited, Meets, ih]

@[simp] theorem meets_pure {contract : Contract σ} {post : Except String α → σ → σ → Prop}
    {value : α} {start state : σ} :
    (Async.pure value).Meets contract post start state ↔ post (.ok value) start state := Iff.rfl

@[simp] theorem meets_throw {contract : Contract σ} {post : Except String α → σ → σ → Prop}
    {error : String} {start state : σ} :
    (Async.throw error).Meets contract post start state ↔ post (.error error) start state :=
  Iff.rfl

@[simp] theorem meets_get {contract : Contract σ} {post : Except String σ → σ → σ → Prop}
    {start state : σ} :
    get.Meets contract post start state ↔ post (.ok state) start state := Iff.rfl

@[simp] theorem meets_gets {contract : Contract σ} {post : Except String α → σ → σ → Prop}
    {view : σ → α} {start state : σ} :
    (gets view).Meets contract post start state ↔ post (.ok (view state)) start state := Iff.rfl

@[simp] theorem meets_modify {contract : Contract σ} {post : Except String Unit → σ → σ → Prop}
    {change : σ → σ} {start state : σ} :
    (modify change).Meets contract post start state ↔ post (.ok ()) start (change state) := Iff.rfl

/-! ## Write-by-write admissibility -/

/-- Every single write of the task is admissible, where `rely` bounds what the
task may find after an await. -/
def Moves (rely move : σ → σ → Prop) (post : Except String α → σ → Prop) : Async σ α → σ → Prop
  | .pure value, state => post (.ok value) state
  | .throw error, state => post (.error error) state
  | .read task, state => (task state).Moves rely move post state
  | .write target task, state => move state target ∧ task.Moves rely move post target
  | .await ready task, state =>
      ∀ later, rely state later → ready later = true → task.Moves rely move post later

/-- Admissible from every state, whatever happens at the awaits. -/
def MovesAlways (move : σ → σ → Prop) (task : Async σ α) : Prop :=
  ∀ state, task.Moves (fun _ _ => True) move (fun _ _ => True) state

/-- What the others do may be bounded more tightly, and what the task does more loosely. -/
theorem Moves.mono {rely stronger move weaker : σ → σ → Prop}
    {post weakerPost : Except String α → σ → Prop}
    (hrely : ∀ start state, stronger start state → rely start state)
    (hmove : ∀ start state, move start state → weaker start state)
    (hpost : ∀ result state, post result state → weakerPost result state)
    {task : Async σ α} {state : σ} (hmoves : task.Moves rely move post state) :
    task.Moves stronger weaker weakerPost state := by
  induction task generalizing state with
  | pure => exact hpost _ _ hmoves
  | throw => exact hpost _ _ hmoves
  | read task ih => exact ih _ hmoves
  | write target task ih => exact ⟨hmove _ _ hmoves.1, ih hmoves.2⟩
  | await ready task ih =>
      exact fun later hlater hready => ih (hmoves later (hrely _ _ hlater) hready)

theorem Moves.post {rely move : σ → σ → Prop} {post weaker : Except String α → σ → Prop}
    (hpost : ∀ result state, post result state → weaker result state) {task : Async σ α}
    {state : σ} (hmoves : task.Moves rely move post state) :
    task.Moves rely move weaker state :=
  hmoves.mono (fun _ _ => id) (fun _ _ => id) hpost

section Rules

variable {rely move : σ → σ → Prop} {state : σ}

/-- The writes of a sequence are those of its first task and those of the second. -/
theorem moves_bind {post : Except String β → σ → Prop} {task : Async σ α} {next : α → Async σ β} :
    (task.bind next).Moves rely move post state ↔
      task.Moves rely move (fun result state =>
        match result with
        | .ok value => (next value).Moves rely move post state
        | .error error => post (.error error) state) state := by
  induction task generalizing state with
  | pure => rfl
  | throw => rfl
  | read task ih => exact ih _
  | write target task ih => simp only [bind, Moves, ih]
  | await ready task ih => simp only [bind, Moves, ih]

/-- The writes of a `try` are those of its body and those of its handler. -/
theorem moves_attempt {post : Except String α → σ → Prop} {task : Async σ α}
    {handler : String → Async σ α} :
    (task.attempt handler).Moves rely move post state ↔
      task.Moves rely move (fun result state =>
        match result with
        | .ok value => post (.ok value) state
        | .error error => (handler error).Moves rely move post state) state := by
  induction task generalizing state with
  | pure => rfl
  | throw => rfl
  | read task ih => exact ih _
  | write target task ih => simp only [attempt, Moves, ih]
  | await ready task ih => simp only [attempt, Moves, ih]

/-- Behind an await others may have run. -/
theorem moves_awaited {post : Except String α → σ → Prop} {task : Async σ α} :
    task.awaited.Moves rely move post state ↔
      task.Moves rely move (fun result state =>
        ∀ later, rely state later → post result later) state := by
  induction task generalizing state with
  | pure => simp [awaited, Moves]
  | throw => simp [awaited, Moves]
  | read task ih => exact ih _
  | write target task ih => simp only [awaited, Moves, ih]
  | await ready task ih => simp only [awaited, Moves, ih]

/-- What a detached task comes to is lost, but not what it writes. -/
theorem Moves.detached {post : Except String α → σ → Prop} {task : Async σ α}
    (htask : task.Moves rely move post state) :
    task.detached.Moves rely move (fun _ _ => True) state := by
  induction task generalizing state with
  | pure => trivial
  | throw => trivial
  | read task ih => exact ih _ htask
  | write target task ih => exact ⟨htask.1, ih htask.2⟩
  | await => trivial

@[simp] theorem moves_pure {post : Except String α → σ → Prop} {value : α} :
    (Async.pure value).Moves rely move post state ↔ post (.ok value) state := Iff.rfl

@[simp] theorem moves_throw {post : Except String α → σ → Prop} {error : String} :
    (Async.throw error).Moves rely move post state ↔ post (.error error) state := Iff.rfl

@[simp] theorem moves_get {post : Except String σ → σ → Prop} :
    get.Moves rely move post state ↔ post (.ok state) state := Iff.rfl

@[simp] theorem moves_modify {post : Except String Unit → σ → Prop} {change : σ → σ} :
    (modify change).Moves rely move post state ↔
      move state (change state) ∧ post (.ok ()) (change state) := Iff.rfl

/-- What an await waits for holds when it goes on. -/
@[simp] theorem moves_waitUntil {post : Except String Unit → σ → Prop} {ready : σ → Bool} :
    (waitUntil ready).Moves rely move post state ↔
      ∀ later, rely state later → ready later = true → post (.ok ()) later := Iff.rfl

/-- What moves and the other tasks preserve is known at the end. -/
theorem Moves.keep (keep : σ → Prop) {post : Except String α → σ → Prop}
    (hrely : ∀ start later, keep start → rely start later → keep later)
    (hmove : ∀ start target, keep start → move start target → keep target)
    {task : Async σ α} (hmoves : task.Moves rely move post state) (hstate : keep state) :
    task.Moves rely move (fun result state => post result state ∧ keep state) state := by
  induction task generalizing state with
  | pure => exact ⟨hmoves, hstate⟩
  | throw => exact ⟨hmoves, hstate⟩
  | read task ih => exact ih _ hmoves hstate
  | write target task ih => exact ⟨hmoves.1, ih hmoves.2 (hmove _ _ hstate hmoves.1)⟩
  | await ready task ih =>
      exact fun later hlater hready => ih (hmoves later hlater hready) (hrely _ _ hstate hlater)

/-- Two judgements under the same bound on the others are one about each write. -/
theorem Moves.both {more : σ → σ → Prop} {post : Except String α → σ → Prop} {task : Async σ α}
    (htask : task.Moves rely move post state)
    (hmore : task.Moves rely more (fun _ _ => True) state) :
    task.Moves rely (fun start target => move start target ∧ more start target) post state := by
  induction task generalizing state with
  | pure => exact htask
  | throw => exact htask
  | read task ih => exact ih _ htask hmore
  | write target task ih => exact ⟨⟨htask.1, hmore.1⟩, ih htask.2 hmore.2⟩
  | await ready task ih =>
      exact fun later hlater hready => ih (htask later hlater hready) (hmore later hlater hready)

/-- What is known of each write on its own adds to the judgement. -/
theorem Moves.and {more : σ → σ → Prop} {post : Except String α → σ → Prop} {task : Async σ α}
    (htask : task.Moves rely move post state)
    (hmore : task.Moves (fun _ _ => True) more (fun _ _ => True) state) :
    task.Moves rely (fun start target => move start target ∧ more start target) post state :=
  htask.both (hmore.mono (fun _ _ _ => trivial) (fun _ _ => id) fun _ _ => id)

/-- Writes to a part of the state are writes to the whole. -/
theorem Moves.zoom {τ : Type*} {view : τ → σ} {put : τ → σ → τ} {relyOn moveOn : τ → τ → Prop}
    {post : Except String α → σ → Prop} (hview : ∀ whole part, view (put whole part) = part)
    (hrely : ∀ whole later, relyOn whole later → rely (view whole) (view later))
    (hmove : ∀ whole part, move (view whole) part → moveOn whole (put whole part))
    {task : Async σ α} {whole : τ} (hmoves : task.Moves rely move post (view whole)) :
    (task.zoom view put).Moves relyOn moveOn (fun result whole => post result (view whole))
      whole := by
  induction task generalizing whole with
  | pure => exact hmoves
  | throw => exact hmoves
  | read task ih => exact ih _ hmoves
  | write target task ih =>
      refine ⟨hmove _ _ hmoves.1, ih ?_⟩
      rw [hview]
      exact hmoves.2
  | await ready task ih =>
      exact fun later hlater hready => ih (hmoves (view later) (hrely _ _ hlater) hready)

end Rules

namespace MovesAlways

variable {move : σ → σ → Prop}

/-- What is admissible may be widened. -/
theorem mono {weaker : σ → σ → Prop} (hmove : ∀ start state, move start state →
    weaker start state) {task : Async σ α} (htask : task.MovesAlways move) :
    task.MovesAlways weaker :=
  fun state => (htask state).mono (fun _ _ => id) hmove fun _ _ => id

/-- Every write is some write. -/
theorem any {task : Async σ α} : task.MovesAlways fun _ _ => True := by
  intro state
  induction task generalizing state with
  | pure => trivial
  | throw => trivial
  | read task ih => exact ih _ _
  | write target task ih => exact ⟨trivial, ih _⟩
  | await ready task ih => exact fun later _ _ => ih later

/-- Such a task is admissible under any bound on what the others do. -/
theorem moves {rely : σ → σ → Prop} {task : Async σ α} (htask : task.MovesAlways move) (state : σ) :
    task.Moves rely move (fun _ _ => True) state :=
  (htask state).mono (fun _ _ _ => trivial) (fun _ _ => id) fun _ _ => id

/-- All writes of a sequence are admissible if those of its tasks are. -/
theorem bind {task : Async σ α} {next : α → Async σ β} (htask : task.MovesAlways move)
    (hnext : ∀ value, (next value).MovesAlways move) : (task.bind next).MovesAlways move := by
  intro state
  refine moves_bind.mpr ((htask state).post fun result later _ => ?_)
  cases result with
  | ok value => exact hnext value later
  | error error => trivial

/-- All writes of a `try` are admissible if those of its body and its handler are. -/
theorem attempt {task : Async σ α} {handler : String → Async σ α} (htask : task.MovesAlways move)
    (hhandler : ∀ error, (handler error).MovesAlways move) :
    (task.attempt handler).MovesAlways move := by
  intro state
  refine moves_attempt.mpr ((htask state).post fun result later _ => ?_)
  cases result with
  | ok value => trivial
  | error error => exact hhandler error later

theorem awaited {task : Async σ α} (htask : task.MovesAlways move) :
    task.awaited.MovesAlways move :=
  fun state => moves_awaited.mpr ((htask state).post fun _ _ _ _ _ => trivial)

theorem detached {task : Async σ α} (htask : task.MovesAlways move) :
    task.detached.MovesAlways move := fun state => (htask state).detached

theorem discard {task : Async σ α} (htask : task.MovesAlways move) :
    task.discard.MovesAlways move := htask.bind fun _ _ => trivial

theorem pure {value : α} : (Async.pure value).MovesAlways move := fun _ => trivial

theorem throw {error : String} : (Async.throw error : Async σ α).MovesAlways move :=
  fun _ => trivial

theorem waitUntil {ready : σ → Bool} : (Async.waitUntil ready).MovesAlways move :=
  fun _ _ _ _ => trivial

theorem modify {change : σ → σ} (hchange : ∀ state, move state (change state)) :
    (Async.modify change).MovesAlways move := fun state => ⟨hchange state, trivial⟩

/-- The continuation may use the state it read: no other task runs in between. -/
theorem read {next : σ → Async σ β}
    (hnext : ∀ state, (next state).Moves (fun _ _ => True) move (fun _ _ => True) state) :
    ((Async.get : Async σ σ).bind next).MovesAlways move := fun state => hnext state

/-- The continuation is admissible whatever state it read. -/
theorem reads {next : σ → Async σ β} (hnext : ∀ state, (next state).MovesAlways move) :
    ((Async.get : Async σ σ).bind next).MovesAlways move := fun state => hnext state state

/-- Both branches must be admissible. -/
theorem ite {condition : Prop} [Decidable condition] {first second : Async σ α}
    (hfirst : first.MovesAlways move) (hsecond : second.MovesAlways move) :
    (if condition then first else second).MovesAlways move := by
  split
  next => exact hfirst
  next => exact hsecond

/-- What is admissible on a part of the state is so on the whole. -/
theorem zoom {τ : Type*} {view : τ → σ} {put : τ → σ → τ} {moveOn : τ → τ → Prop}
    (hview : ∀ whole part, view (put whole part) = part)
    (hmove : ∀ whole part, move (view whole) part → moveOn whole (put whole part))
    {task : Async σ α} (htask : task.MovesAlways move) :
    (task.zoom view put).MovesAlways moveOn :=
  fun whole => (htask (view whole)).zoom hview (fun _ _ _ => trivial) hmove

end MovesAlways

/-! ## With a condition that nobody breaks -/

/-- A condition that survives the awaits and the moves. -/
structure Stable (rely move : σ → σ → Prop) (keep : σ → Prop) : Prop where
  rely : ∀ start later, keep start → rely start later → keep later
  move : ∀ start target, keep start → move start target → keep target

/-- Admissible from the states that satisfy a condition. -/
def MovesFrom (rely move : σ → σ → Prop) (keep : σ → Prop) (task : Async σ α) : Prop :=
  ∀ state, keep state → task.Moves rely move (fun _ _ => True) state

/-- Each write finds a condition that nobody breaks. -/
theorem Moves.under {rely move : σ → σ → Prop} {keep : σ → Prop} (hstable : Stable rely move keep)
    {post : Except String α → σ → Prop} {task : Async σ α} {state : σ}
    (htask : task.Moves rely move post state) (hstate : keep state) :
    task.Moves rely (fun start target => keep start ∧ move start target) post state := by
  induction task generalizing state with
  | pure => exact htask
  | throw => exact htask
  | read task ih => exact ih _ htask hstate
  | write target task ih =>
      exact ⟨⟨hstate, htask.1⟩, ih htask.2 (hstable.move _ _ hstate htask.1)⟩
  | await ready task ih =>
      exact fun later hlater hready =>
        ih (htask later hlater hready) (hstable.rely _ _ hstate hlater)

namespace MovesFrom

variable {rely move : σ → σ → Prop} {keep : σ → Prop}

/-- A condition that survives holds where the second task begins. -/
theorem bind (hstable : Stable rely move keep) {task : Async σ α} {next : α → Async σ β}
    (htask : task.MovesFrom rely move keep)
    (hnext : ∀ value, (next value).MovesFrom rely move keep) :
    (task.bind next).MovesFrom rely move keep := by
  intro state hstate
  have hkept := (htask state hstate).keep keep hstable.rely hstable.move hstate
  refine moves_bind.mpr (hkept.post fun result later hlater => ?_)
  cases result with
  | ok value => exact hnext value later hlater.2
  | error error => trivial

/-- A condition that survives holds where the handler begins. -/
theorem attempt (hstable : Stable rely move keep) {task : Async σ α}
    {handler : String → Async σ α} (htask : task.MovesFrom rely move keep)
    (hhandler : ∀ error, (handler error).MovesFrom rely move keep) :
    (task.attempt handler).MovesFrom rely move keep := by
  intro state hstate
  have hkept := (htask state hstate).keep keep hstable.rely hstable.move hstate
  refine moves_attempt.mpr (hkept.post fun result later hlater => ?_)
  cases result with
  | ok value => trivial
  | error error => exact hhandler error later hlater.2

theorem awaited {task : Async σ α} (htask : task.MovesFrom rely move keep) :
    task.awaited.MovesFrom rely move keep :=
  fun state hstate => moves_awaited.mpr ((htask state hstate).post fun _ _ _ _ _ => trivial)

theorem discard (hstable : Stable rely move keep) {task : Async σ α}
    (htask : task.MovesFrom rely move keep) : task.discard.MovesFrom rely move keep :=
  htask.bind hstable fun _ _ _ => trivial

theorem pure {value : α} : (Async.pure value).MovesFrom rely move keep := fun _ _ => trivial

theorem modify {change : σ → σ} (hchange : ∀ state, keep state → move state (change state)) :
    (Async.modify change).MovesFrom rely move keep :=
  fun state hstate => ⟨hchange state hstate, trivial⟩

/-- What is admissible from every state is so under a condition. -/
theorem of_always {task : Async σ α} (htask : task.MovesAlways move) :
    task.MovesFrom rely move keep := fun state _ => htask.moves state

/-- Code that begins with a look at the state. -/
theorem reads {next : σ → Async σ β} (hnext : ∀ state, (next state).MovesFrom rely move keep) :
    (Async.bind get next).MovesFrom rely move keep := fun state hstate => hnext state state hstate

theorem ite {condition : Prop} [Decidable condition] {first second : Async σ α}
    (hfirst : first.MovesFrom rely move keep) (hsecond : second.MovesFrom rely move keep) :
    (if condition then first else second).MovesFrom rely move keep := by
  split
  next => exact hfirst
  next => exact hsecond

end MovesFrom

/-- Continuing a task in the middle of a turn. -/
theorem Moves.bind {rely move : σ → σ → Prop} {keep : σ → Prop} (hstable : Stable rely move keep)
    {task : Async σ α} {next : α → Async σ β} {state : σ}
    (htask : task.Moves rely move (fun _ _ => True) state) (hstate : keep state)
    (hnext : ∀ value, (next value).MovesFrom rely move keep) :
    (task.bind next).Moves rely move (fun _ _ => True) state := by
  have hkept := htask.keep keep hstable.rely hstable.move hstate
  refine moves_bind.mpr (hkept.post fun result later hlater => ?_)
  cases result with
  | ok value => exact hnext value later hlater.2
  | error error => trivial

/-! ## From single writes to turns -/

/-- Write-by-write admissibility gives the turns of a contract whose guarantee
is closed under single moves and whose invariant the moves preserve. What else
moves and rely preserve is known at the end. -/
theorem Moves.meets (contract : Contract σ) (keep : σ → Prop) {rely move : σ → σ → Prop}
    {post : Except String α → σ → Prop}
    (hinv : ∀ state target, contract.inv state → move state target → contract.inv target)
    (hguar : ∀ start state target, contract.guar start state → move state target →
      contract.guar start target)
    (hrefl : ∀ state, contract.guar state state)
    (hrely : ∀ state later, contract.rely state later → rely state later)
    (hkeep : Stable contract.rely move keep) {task : Async σ α} {start state : σ}
    (htask : task.Moves rely move post state) (hstate : contract.inv state)
    (hstart : contract.guar start state) (hknown : keep state) :
    task.Meets contract (fun result start state =>
      contract.inv state ∧ contract.guar start state ∧ keep state ∧ post result state)
      start state := by
  induction task generalizing start state with
  | pure => exact ⟨hstate, hstart, hknown, htask⟩
  | throw => exact ⟨hstate, hstart, hknown, htask⟩
  | read task ih => exact ih _ htask hstate hstart hknown
  | write target task ih =>
      exact ih htask.2 (hinv _ _ hstate htask.1) (hguar _ _ _ hstart htask.1)
        (hkeep.move _ _ hknown htask.1)
  | await ready task ih =>
      exact ⟨hstate, hstart, fun later hlater hrelied hready =>
        ih (htask later (hrely _ _ hrelied) hready) hlater (hrefl later)
          (hkeep.rely _ _ hknown hrelied)⟩

/-- The same bound on the others serves a contract and write-by-write admissibility:
the task then has both. -/
theorem Meets.and_moves (stronger : Contract σ) (keep : σ → Prop) {contract : Contract σ}
    {rely move : σ → σ → Prop} {post : Except String α → σ → σ → Prop}
    {bound : Except String α → σ → Prop}
    (hinv : ∀ state, stronger.inv state ↔ contract.inv state ∧ keep state)
    (hrely : ∀ state later, stronger.rely state later →
      contract.rely state later ∧ rely state later)
    (hguar : ∀ start state target, stronger.guar start state → move state target →
      stronger.guar start target)
    (hrefl : ∀ state, stronger.guar state state)
    (hkeep : ∀ state target, keep state → move state target → keep target)
    {task : Async σ α} {start state : σ} (hmeets : task.Meets contract post start state)
    (hmoves : task.Moves rely move bound state) (hstart : stronger.guar start state)
    (hknown : keep state) :
    task.Meets stronger (fun result start state =>
      post result start state ∧ stronger.guar start state ∧ keep state) start state := by
  induction task generalizing start state with
  | pure => exact ⟨hmeets, hstart, hknown⟩
  | throw => exact ⟨hmeets, hstart, hknown⟩
  | read task ih => exact ih _ hmeets hmoves hstart hknown
  | write target task ih =>
      exact ih hmeets hmoves.2 (hguar _ _ _ hstart hmoves.1) (hkeep _ _ hknown hmoves.1)
  | await ready task ih =>
      refine ⟨(hinv _).mpr ⟨hmeets.1, hknown⟩, hstart, fun later hlater hrelied hready => ?_⟩
      have hboth := (hinv _).mp hlater
      have hrelies := hrely _ _ hrelied
      exact ih (hmeets.2.2 later hboth.1 hrelies.1 hready) (hmoves later hrelies.2 hready)
        (hrefl later) hboth.2

/-- What a contract without an invariant gives at the end is known write by write, too. -/
theorem Meets.moves {contract : Contract σ} {move : σ → σ → Prop}
    {post : Except String α → σ → Prop}
    (hinv : ∀ state, contract.inv state) {task : Async σ α} {start state : σ}
    (hmeets : task.Meets contract (fun result _ next => post result next) start state)
    (hmoves : task.Moves contract.rely move (fun _ _ => True) state) :
    task.Moves contract.rely move post state := by
  induction task generalizing start state with
  | pure => exact hmeets
  | throw => exact hmeets
  | read task ih => exact ih _ hmeets hmoves
  | write target task ih => exact ⟨hmoves.1, ih hmeets hmoves.2⟩
  | await ready task ih =>
      intro later hlater hready
      exact ih (hmeets.2.2 later (hinv later) hlater hready) (hmoves later hlater hready)

/-! ## Runs without interference -/

/-- A task that never has to wait for another. -/
def Prompt : Async σ α → Prop
  | .pure _ => True
  | .throw _ => True
  | .read task => ∀ state, (task state).Prompt
  | .write _ task => task.Prompt
  | .await ready task => (∀ state, ready state = true) ∧ task.Prompt

/-- A sequence of tasks that never wait never waits. -/
theorem Prompt.bind {task : Async σ α} {next : α → Async σ β} (htask : task.Prompt)
    (hnext : ∀ value, (next value).Prompt) : (task.bind next).Prompt := by
  induction task with
  | pure value => exact hnext value
  | throw => trivial
  | read task ih => exact fun state => ih state (htask state)
  | write target task ih => exact ih htask
  | await ready task ih => exact ⟨htask.1, ih htask.2⟩

/-- A `try` never waits if its body and its handler do not. -/
theorem Prompt.attempt {task : Async σ α} {handler : String → Async σ α} (htask : task.Prompt)
    (hhandler : ∀ error, (handler error).Prompt) : (task.attempt handler).Prompt := by
  induction task with
  | pure => trivial
  | throw error => exact hhandler error
  | read task ih => exact fun state => ih state (htask state)
  | write target task ih => exact ih htask
  | await ready task ih => exact ⟨htask.1, ih htask.2⟩

/-- An await that nobody runs at is no wait. -/
theorem Prompt.awaited {task : Async σ α} (htask : task.Prompt) : task.awaited.Prompt := by
  induction task with
  | pure => exact ⟨fun _ => rfl, trivial⟩
  | throw => exact ⟨fun _ => rfl, trivial⟩
  | read task ih => exact fun state => ih state (htask state)
  | write target task ih => exact ih htask
  | await ready task ih => exact ⟨htask.1, ih htask.2⟩

theorem Prompt.discard {task : Async σ α} (htask : task.Prompt) : task.discard.Prompt :=
  htask.bind fun _ => trivial

theorem Prompt.get : (Async.get : Async σ σ).Prompt := fun _ => trivial

theorem Prompt.modify {change : σ → σ} : (Async.modify change).Prompt := fun _ => trivial

theorem Prompt.zoom {τ : Type*} {view : τ → σ} {put : τ → σ → τ} {task : Async σ α}
    (htask : task.Prompt) : (task.zoom view put).Prompt := by
  induction task with
  | pure => trivial
  | throw => trivial
  | read task ih => exact fun whole => ih _ (htask _)
  | write target task ih => exact fun whole => ih htask
  | await ready task ih => exact ⟨fun whole => htask.1 _, ih htask.2⟩

/-- A task that never waits runs to its end. -/
theorem Prompt.exists_run {task : Async σ α} (htask : task.Prompt) (state : σ) :
    ∃ final result, task.run state = some (final, result) := by
  induction task generalizing state with
  | pure value => exact ⟨state, _, rfl⟩
  | throw error => exact ⟨state, _, rfl⟩
  | read task ih => exact ih state (htask state) state
  | write target task ih => exact ih htask target
  | await ready task ih =>
      simp only [run, htask.1 state, if_true]
      exact ih htask.2 state

/-- A run without interference is one of the runs a contract speaks about. -/
theorem Meets.of_run {contract : Contract σ} {post : Except String α → σ → σ → Prop}
    (hrefl : ∀ state, contract.rely state state) {task : Async σ α} {start state final : σ}
    {result : Except String α} (hmeets : task.Meets contract post start state)
    (hrun : task.run state = some (final, result)) : ∃ start, post result start final := by
  induction task generalizing start state with
  | pure =>
      cases hrun
      exact ⟨start, hmeets⟩
  | throw =>
      cases hrun
      exact ⟨start, hmeets⟩
  | read task ih => exact ih _ hmeets hrun
  | write target task ih => exact ih hmeets hrun
  | await ready task ih =>
      simp only [run] at hrun
      split at hrun
      next hready => exact ih (hmeets.2.2 state hmeets.1 (hrefl state) hready) hrun
      next => cases hrun

end Async
