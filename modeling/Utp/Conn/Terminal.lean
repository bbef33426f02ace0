import Utp.Conn.Exits

/-! # The end of a connection

`CS_CLOSED` and `CS_RESET` are meant to be final. A handler that awaits between
its test of the state and the FIN branch can still leave them, and so can a
reset of a closed connection and the error path of the interval of `close`.
-/

namespace Utp

open Async (Chain Config Guard TaskSystem)

namespace World

/-- The connection was closed or reset. -/
def Terminal (world : World) : Prop :=
  world.conn.localState = .CS_CLOSED ∨ world.conn.localState = .CS_RESET

instance instDecidableTerminal (world : World) : Decidable world.Terminal :=
  inferInstanceAs (Decidable (_ ∨ _))

theorem Terminal.ne {world : World} (hterminal : world.Terminal) {state : UtpConnState}
    (hstate : world.conn.localState = state) (hclosed : state ≠ .CS_CLOSED)
    (hreset : state ≠ .CS_RESET) : False := by
  rcases hterminal with h | h
  · exact hclosed (hstate.symm.trans h)
  · exact hreset (hstate.symm.trans h)

theorem Terminal.of_state {world next : World} (hterminal : world.Terminal)
    (hstate : next.conn.localState = world.conn.localState) : next.Terminal := by
  unfold Terminal
  rw [hstate]
  exact hterminal

/-- The FIN branch of a packet handler. -/
def AcceptsFin (world next : World) : Prop := ∃ packet, next = world.acceptFin packet

/-- Nothing else takes a connection out of the terminal states. -/
theorem Act.terminal {receiving closing writing : Bool} {world next : World}
    (hact : Act receiving closing writing world next) (hterminal : world.Terminal)
    (hfin : receiving = true → ¬ world.AcceptsFin next) : next.Terminal := by
  cases hact with
  | env henv => exact hterminal.of_state (by rw [henv.conn])
  | beginClose hclosed hreset => exact (hterminal.elim hclosed hreset).elim
  | resetNow => exact .inr rfl
  | release => exact .inl rfl
  | forceClose => exact .inl rfl
  | acceptHandshake _ hstate => exact (hterminal.ne hstate nofun nofun).elim
  | acceptFirstData _ hstate => exact (hterminal.ne hstate nofun nofun).elim
  | acceptFin packet hreceiving => exact absurd ⟨packet, rfl⟩ (hfin hreceiving)
  | _ => exact hterminal

/-- Within them the state changes by a reset after the close, and by a forced close of the
interval after the reset. -/
theorem Act.absorbed {label : Label} {world next : World} (hact : label.Acts world next)
    (hexits : ExitsBy label world next) (hterminal : world.Terminal)
    (hfin : label = .receive → ¬ world.AcceptsFin next)
    (hreset : label = .reset → world.conn.localState ≠ .CS_CLOSED)
    (hpoll : label = .closePoll → world.conn.localState ≠ .CS_RESET) :
    next.conn.localState = world.conn.localState := by
  unfold Label.Acts at hact
  cases hact with
  | env henv => rw [henv.conn]
  | beginClose hclosed hother => exact (hterminal.elim hclosed hother).elim
  | release hstate => exact (hterminal.ne hstate nofun nofun).elim
  | acceptHandshake _ hstate => exact (hterminal.ne hstate nofun nofun).elim
  | acceptFirstData _ hstate => exact (hterminal.ne hstate nofun nofun).elim
  | acceptFin packet hreceiving => exact absurd ⟨packet, rfl⟩ (hfin (of_decide_eq_true hreceiving))
  | resetNow hclosing =>
      rcases (hexits hclosing).state with hsame | hexit
      · exact hsame
      · have hlabel : label = .reset := by
          cases label with
          | reset => rfl
          | _ => cases hexit
        exact (hterminal.resolve_left (hreset hlabel)).symm
  | forceClose hstate =>
      rcases hterminal with hclosed | hother
      · exact hclosed.symm
      · have hclosing : label.isClosing = true := by
          rcases hstate with hsent | hwait | hclosing
          · exact absurd (hother.symm.trans hsent) nofun
          · exact absurd (hother.symm.trans hwait) nofun
          · exact hclosing
        rcases (hexits hclosing).state with hsame | hexit
        · exact hsame
        · have hlabel : label = .closePoll := by
            cases label with
            | closePoll => rfl
            | _ => cases hexit
          exact absurd hother (hpoll hlabel)
  | _ => rfl

/-! ## Packet handlers -/

/-- The task that handles a packet. -/
def handling (packet : UtpPacket) : ConnM Unit :=
  Async.discard (UtpConn.handleIncomingPacket packet)

/-- A handler that finds a terminal state changes no state. -/
theorem handling_terminal (packet : UtpPacket) :
    (handling packet).MovesFrom (fun start target => start.Terminal → target.Terminal)
      (fun start target => target.conn.localState = start.conn.localState) Terminal := by
  have hstable : Async.Stable (fun start target : World => start.Terminal → target.Terminal)
      (fun start target => target.conn.localState = start.conn.localState) Terminal :=
    ⟨fun _ _ h hrely => hrely h, fun _ _ h hsame => h.of_state hsame⟩
  have hack : (UtpConn.awaitHandleAck packet).MovesAlways fun start target =>
      target.conn.localState = start.conn.localState := .awaited (.modify fun _ => rfl)
  refine .discard hstable ?_
  simp only [UtpConn.handleIncomingPacket, Async.bind_eq]
  have hfinal : ∀ world : World, world.Terminal →
      UtpConn.handleInState packet world.conn.localState = .pure false := by
    rintro world (hstate | hstate)
    · rw [hstate]
      rfl
    · rw [hstate]
      rfl
  have hrest : ((Async.get : ConnM World).bind fun world =>
      (UtpConn.handleInState packet world.conn.localState).bind fun handled =>
        if handled = true then (Async.modify World.noteHandled).bind fun _ => Async.pure handled
        else Async.pure handled).MovesFrom
          (fun start target : World => start.Terminal → target.Terminal)
          (fun start target => target.conn.localState = start.conn.localState) Terminal := by
    intro world hterminal
    refine Async.moves_bind.mpr (Async.moves_get.mpr ?_)
    simp only [hfinal world hterminal]
    trivial
  split
  next => exact .bind hstable (.of_always hack) fun _ => hrest
  next => exact hrest

/-- A task that accepts no FIN in a terminal state. -/
abbrev Finless {α : Type} (task : ConnM α) : Prop :=
  task.MovesAlways fun start target => start.Terminal → ¬ start.AcceptsFin target

/-- The FIN branch is the only write that leaves a terminal state for close-wait. -/
theorem not_acceptsFin {start target : World}
    (hstate : target.conn.localState = start.conn.localState ∨
      target.conn.localState ≠ .CS_CLOSE_WAIT) (hterminal : start.Terminal) :
    ¬ start.AcceptsFin target := by
  rintro ⟨packet, rfl⟩
  rcases hstate with hsame | hother
  · exact hterminal.ne hsame.symm nofun nofun
  · exact hother rfl

theorem modify_finless {change : World → World} (hchange : ∀ world,
    (change world).conn.localState = world.conn.localState ∨
      (change world).conn.localState ≠ .CS_CLOSE_WAIT) : Finless (Async.modify change) :=
  .modify fun world => not_acceptsFin (hchange world)

theorem sendUtpPacket_finless (packet : UtpPacket) : Finless (UtpConn.sendUtpPacket packet) := by
  have hexiting : Exiting .read (UtpConn.sendUtpPacket packet) := sendUtpPacket_exiting packet
  refine hexiting.mono fun _ _ hexits => not_acceptsFin (hexits.state.imp_right ?_)
  rintro ⟨⟩

theorem writeRecvBuffer_finless (data : Bytes) : Finless (UtpConn.writeRecvBuffer data) := by
  have hput : ∀ (world : World) (buffer : BlockingBuffer), True → world.Terminal →
      ¬ world.AcceptsFin (world.onConn fun conn => { conn with recvBuffer := buffer }) :=
    fun _ _ _ => not_acceptsFin (.inl rfl)
  exact (Async.MovesAlways.any.zoom (fun _ _ => rfl) hput).awaited.discard

theorem processKeys_finless (keys : List Nat) : Finless (UtpConn.processKeys keys) := by
  induction keys with
  | nil => exact .pure
  | cons seq rest ih =>
      refine .reads fun world => .ite ih (.bind (modify_finless fun _ => .inl rfl) fun _ => ?_)
      split
      next => exact ih
      next packet _ =>
        refine .bind ?_ fun _ => ih
        unfold UtpConn.deliver
        split
        next => exact .pure
        next data _ => exact .ite (.attempt (writeRecvBuffer_finless data) fun _ => .pure) .pure

theorem handleAtConnected_finless {packet : UtpPacket} (hfin : packet.type ≠ .ST_FIN) :
    Finless (UtpConn.handleAtConnected packet) := by
  have hpass : Finless (Async.awaited UtpConn.processReceivedPackets) :=
    .awaited (.reads fun _ => processKeys_finless _)
  have hack : Finless UtpConn.sendAck :=
    .reads fun _ => .ite .pure (.attempt (sendUtpPacket_finless _).awaited.discard fun _ => .pure)
  have hinsert : Finless (UtpConn.insertPacket packet) := by
    refine .bind (modify_finless fun _ => .inl rfl) fun _ => .bind hpass fun _ => ?_
    dsimp only
    rw [if_neg hfin]
    exact hack.bind fun _ => .pure
  refine .reads fun _ => .ite .pure (.ite .pure (.ite .pure ?_))
  split
  next => exact hpass.bind fun _ => hinsert
  next => exact hinsert

theorem handleAtSynReceived_finless (packet : UtpPacket) :
    Finless (UtpConn.handleAtSynReceived packet) := by
  have hanswer : Finless ((Async.get : ConnM World).bind fun world =>
      (Async.discard (Async.awaited (UtpConn.sendUtpPacket world.ackPacket))).bind fun _ =>
        Async.pure true) :=
    .reads fun _ => (sendUtpPacket_finless _).awaited.discard.bind fun _ => .pure
  refine .reads fun _ => .ite .pure
    (.ite .pure (.bind (modify_finless fun _ => .inr nofun) fun _ => ?_))
  split
  next => exact hanswer
  next data _ => exact (writeRecvBuffer_finless data).bind fun _ => hanswer

/-- Only the handler of a FIN accepts one. -/
theorem handling_finless {packet : UtpPacket} (hfin : packet.type ≠ .ST_FIN) :
    Finless (handling packet) := by
  have hack : Finless (UtpConn.awaitHandleAck packet) := .awaited (modify_finless fun _ => .inl rfl)
  have hstates : ∀ state, Finless (UtpConn.handleInState packet state) := by
    intro state
    cases state with
    | CS_SYN_SENT =>
        exact .awaited (.ite .pure (.bind (modify_finless fun _ => .inr nofun) fun _ => .pure))
    | CS_SYN_RECV => exact (handleAtSynReceived_finless packet).awaited
    | CS_CONNECTED => exact (handleAtConnected_finless hfin).awaited
    | CS_CLOSE_WAIT => exact .ite (hack.bind fun _ => .pure) .pure
    | CS_CLOSED => exact .pure
    | CS_RESET => exact .pure
  have hrest : Finless ((Async.get : ConnM World).bind fun world =>
      (UtpConn.handleInState packet world.conn.localState).bind fun handled =>
        if handled = true then (Async.modify World.noteHandled).bind fun _ => Async.pure handled
        else Async.pure handled) :=
    .reads fun world => (hstates _).bind fun _ =>
      .ite (.bind (modify_finless fun _ => .inl rfl) fun _ => .pure) .pure
  refine .discard ?_
  simp only [UtpConn.handleIncomingPacket, Async.bind_eq]
  split
  next => exact hack.bind fun _ => hrest
  next => exact hrest

/-- No packet handler is suspended that has a FIN still to accept. -/
def FinSpent (tasks : List (Label × ConnM Unit)) : Prop :=
  ∀ entry ∈ tasks, entry.1 = .receive → Finless entry.2

/-- A suspended or a new task accepts no FIN in a terminal state. -/
def finless (label : Label) (start target : World) : Prop :=
  label = .receive → start.Terminal → ¬ start.AcceptsFin target

theorem spawns_finless {admits : World → UtpPacket → Prop} {world : World} {label : Label}
    {task : ConnM Unit} (hterminal : world.Terminal) (hspawns : Spawns admits world label task) :
    Onward Terminal (finless label) task world := by
  cases hspawns with
  | receive packet =>
      exact (handling_terminal packet world hterminal).mono (fun _ _ => id)
        (fun _ _ hsame _ => not_acceptsFin (.inl hsame)) fun _ _ => id
  | _ =>
      refine Async.MovesAlways.moves (Async.MovesAlways.any.mono ?_) world
      rintro _ _ - ⟨⟩

theorem FinSpent.onward {tasks : List (Label × ConnM Unit)} (hspent : FinSpent tasks)
    {entry : Label × ConnM Unit} (hentry : entry ∈ tasks) (world : World) :
    Onward Terminal (finless entry.1) entry.2 world := by
  by_cases hlabel : entry.1 = .receive
  · exact Async.MovesAlways.moves ((hspent entry hentry hlabel).mono fun _ _ h _ => h) world
  · exact Async.MovesAlways.moves (Async.MovesAlways.any.mono fun _ _ _ h => absurd h hlabel) world

theorem finless_terminal (label : Label) (start target : World) (hterminal : start.Terminal)
    (hact : label.Acts start target) (hfinless : finless label start target) : target.Terminal :=
  Act.terminal hact hterminal fun h => hfinless (of_decide_eq_true h) hterminal

/-! ## Terminal states are final -/

/-- A connection is not reset after its close, and the interval of `close` does not go on
after a reset. -/
def sparesTerminal : Guard World Label := fun _ label start _ =>
  (label = .reset → start.conn.localState ≠ .CS_CLOSED) ∧
    (label = .closePoll → start.conn.localState ≠ .CS_RESET)

/-- Terminal states are final, if no handler was suspended with a FIN still to accept when the
connection was closed or reset, in the runs in which it is not reset after its close and
the interval of its close does not go on after its reset. -/
theorem terminal_absorbing {self : Nat} {utp : UtpSocket} {isInitiator : Bool}
    {remoteAddr : UtpAddr} {sendId recvId seqNr ackNr : Nat} (hseqNr : seqNr < 65536)
    {config later : Config World Label}
    (hconfig : (connSystem anyLabel anyPacket).Reachable
      (connectTo self utp isInitiator remoteAddr sendId recvId seqNr ackNr) config)
    (hterminal : config.state.Terminal) (hspent : FinSpent config.tasks)
    (hrun : (connSystem anyLabel anyPacket).Guarded sparesTerminal config later) :
    later.state.conn.localState = config.state.conn.localState := by
  have hfirst : ∀ packet, (UtpConn.sendHandshake packet).MovesAlways (ExitsBy .connect) := by
    intro packet
    refine Async.MovesAlways.any.mono ?_
    rintro _ _ - ⟨⟩
  refine (onward_keeps hseqNr hfirst (fun _ _ _ hspawns => spawns_also hspawns)
    (fun _ _ _ => spawns_finless) finless_terminal (fun _ _ hconn h => h.of_state (by rw [hconn]))
    hconfig hterminal (fun _ hentry world _ => hspent.onward hentry world) hrun
    (fun world => world.conn.localState = config.state.conn.localState) ?_ ?_ rfl).2
  · intro _ label start target hstart hsame hact hexits hfinless hallowed
    exact (Act.absorbed hact hexits hstart (fun h => hfinless h hstart) hallowed.1 hallowed.2).trans
      hsame
  · intro start target hsame henv
    rw [henv.conn, hsame]

/-! ## Concrete runs -/

/-- A FIN whose number is not the next one. -/
def earlyFin : UtpPacket := { type := .ST_FIN, connId := 1, seqNr := 105, ackNr := 1 }

/-- A data packet whose number is the next one. -/
def dataInOrder : UtpPacket :=
  { type := .ST_DATA, connId := 1, seqNr := 100, ackNr := 1, data := some [65] }

/-- The connection is reset while the handler of a data packet waits for the buffer. -/
def cutShort : Config World Label :=
  ((established 0 .sample (.localhost 9000) 1 100).launch .receive (handling dataInOrder)).launch
    .reset UtpConn.reset

theorem cutShort_reachable : (connSystem anyLabel anyPacket).Reachable
    (connectTo 0 .sample true (.localhost 9000) 2 1 1 0) cutShort :=
  (sample_receiving dataInOrder).step (.launch ⟨trivial, .reset⟩ nofun)

/-- The handler is the only task left, and has no FIN to accept. -/
theorem cutShort_tasks : (∀ entry ∈ cutShort.tasks, entry.1 = .receive) ∧
    FinSpent cutShort.tasks := by
  have hlabels : cutShort.tasks.all (fun entry => decide (entry.1 = .receive)) = true := by
    decide +kernel
  refine ⟨fun entry hentry => of_decide_eq_true (List.all_eq_true.mp hlabels entry hentry), ?_⟩
  intro entry hentry _
  have hdata : Finless (handling dataInOrder) := handling_finless nofun
  have hreset : Finless UtpConn.reset := by
    refine .bind (.modify fun world => ?_) fun _ => .reads fun _ =>
      (sendUtpPacket_finless _).detached
    rintro - ⟨packet, hfin⟩
    have hstate : world.resetNow.conn.localState = .CS_CLOSE_WAIT := hfin ▸ rfl
    cases hstate
  rcases List.mem_append.mp hentry with hold | hnew
  · rcases List.mem_append.mp hold with hfirst | hhandler
    · rw [sample_idle] at hfirst
      cases hfirst
    · exact Async.Moves.suspended (hdata _) hhandler
  · exact Async.Moves.suspended (hreset _) hnew

/-- The handler goes on to its end, a timer fires, and a FIN arrives. -/
theorem terminal_absorbing_sample : cutShort.state.conn.localState = .CS_RESET ∧
    (((cutShort.resumes [0, 0, 0, 0, 0, 0, 0]).launch .timeoutCheck UtpConn.timeoutCheck).launch
      .receive (handling earlyFin)).state.conn.localState = .CS_RESET := by
  have hreset : cutShort.state.conn.localState = .CS_RESET := by decide +kernel
  obtain ⟨hlabels, hspent⟩ := cutShort_tasks
  have hspared : ∀ others label start target, label = Label.receive →
      sparesTerminal others label start target := by
    rintro others _ start target rfl
    exact ⟨nofun, nofun⟩
  have hresumed : (connSystem anyLabel anyPacket).Guarded sparesTerminal cutShort
      (cutShort.resumes [0, 0, 0, 0, 0, 0, 0]) :=
    .resumes_of_label hspared hlabels _
  have hchecked : (connSystem anyLabel anyPacket).Guarded sparesTerminal cutShort
      ((cutShort.resumes [0, 0, 0, 0, 0, 0, 0]).launch .timeoutCheck UtpConn.timeoutCheck) :=
    hresumed.tail (.launch ⟨trivial, .timeoutCheck⟩ nofun fun _ _ => ⟨nofun, nofun⟩)
  have hidle : ((cutShort.resumes [0, 0, 0, 0, 0, 0, 0]).launch .timeoutCheck
      UtpConn.timeoutCheck).tasks = [] := List.length_eq_zero_iff.mp (by decide +kernel)
  have hrun := hchecked.tail (.launch ⟨trivial, .receive earlyFin trivial⟩
    (fun _ other hother => by rw [hidle] at hother; cases hother) fun _ _ => ⟨nofun, nofun⟩)
  exact ⟨hreset,
    (terminal_absorbing (by decide) cutShort_reachable (.inr hreset) hspent hrun).trans hreset⟩

/-- A reset while the handler of a FIN is suspended: the handler goes on to put
the connection back into close-wait. -/
theorem reset_undone_by_fin :
    ¬ ∀ config later, (connSystem anyLabel anyPacket).Reachable
        (connectTo 0 .sample true (.localhost 9000) 2 1 1 0) config →
      (connSystem anyLabel anyPacket).Reachable config later →
      config.state.Terminal → later.state.conn.localState = config.state.conn.localState := by
  intro hclaim
  let handled := (established 0 .sample (.localhost 9000) 1 100).launch .receive
    (handling earlyFin)
  let terminated := handled.launch .reset UtpConn.reset
  have hhandled : (connSystem anyLabel anyPacket).Reachable
      (connectTo 0 .sample true (.localhost 9000) 2 1 1 0) handled := sample_receiving earlyFin
  have hterminated : (connSystem anyLabel anyPacket).Reachable
      (connectTo 0 .sample true (.localhost 9000) 2 1 1 0) terminated :=
    hhandled.step (.launch ⟨trivial, .reset⟩ nofun)
  have hsame := hclaim terminated (terminated.resumes [0]) hterminated (.resumes .refl _)
    (.inr (by decide +kernel))
  have hreopened : (terminated.resumes [0]).state.conn.localState ≠
      terminated.state.conn.localState := by decide +kernel
  exact hreopened hsame

end World

end Utp
