import Utp.Foundation.Outcome
import Utp.Pair.Party

/-! # Handshakes that fail

A connection whose promise is rejected because it was reset or closed is out of the
table by then. The promise's own timer and a failed first send reject it as well, and
they leave the connection as it is.
-/

namespace Utp

open Async (Chain Config Guard TaskSystem)

namespace World

variable {world next : World} {syn : UtpPacket}

/-- The promise of `connectTo` has been rejected. -/
def Rejected (world : World) : Prop := ∃ error, world.conn.connecting = .rejected error

/-- Nothing of a failed handshake is left. -/
structure Undone (world : World) : Prop where
  terminal : world.Terminal
  unlisted : ¬ world.Listed

/-- Only a termination leads to a terminal state. -/
theorem Act.enters_terminal {receiving closing writing : Bool}
    (hact : Act receiving closing writing world next) (hterminal : next.Terminal) :
    world.Terminal ∨ world.Terminates next := by
  cases hact with
  | env henv =>
      unfold Terminal at hterminal ⊢
      rw [henv.conn] at hterminal
      exact .inl hterminal
  | release => exact .inr .release
  | forceClose => exact .inr .forceClose
  | resetNow => exact .inr .resetNow
  | beginClose => exact (hterminal.ne rfl nofun nofun).elim
  | acceptHandshake => exact (hterminal.ne rfl nofun nofun).elim
  | acceptFirstData => exact (hterminal.ne rfl nofun nofun).elim
  | acceptFin => exact (hterminal.ne rfl nofun nofun).elim
  | _ => exact .inl hterminal

theorem Terminates.unlisted (hterminates : world.Terminates next) (hself : world.SameConn next) :
    ¬ next.Listed := by
  unfold Listed
  rw [hterminates.connTable, hself.uniqueId, OrderedMap.get?_erase, if_pos rfl]
  exact nofun

theorem Word.unlisted (hword : Word syn world next)
    (hworld : world.Terminal → ¬ world.Listed) (hterminal : next.Terminal) : ¬ next.Listed := by
  have hstays : world.Terminal → ¬ next.Listed :=
    fun hbefore hlisted => hworld hbefore (hword.listed hlisted)
  obtain ⟨hact, ⟨-, hleaves⟩ | hruntime⟩ := hword
  · rcases hact.enters_terminal hterminal with hbefore | hterminates
    · exact hstays hbefore
    · exact hterminates.unlisted hleaves.toSameConn
  · apply hstays
    unfold Terminal at hterminal ⊢
    rwa [hruntime.conn] at hterminal

/-- A promise is rejected by a termination, or given up. -/
theorem notify_rejected {promise : ConnectPromise} {state : UtpConnState} {error : String}
    (h : promise.notify state = .rejected error) :
    promise = .rejected error ∨ state = .CS_CLOSED ∨ state = .CS_RESET := by
  cases promise <;> cases state <;> simp_all [ConnectPromise.notify]

theorem setLocalState_rejected {conn : UtpConn} {state : UtpConnState} {error : String}
    (h : (conn.setLocalState state).connecting = .rejected error) :
    conn.connecting = .rejected error ∨ state = .CS_CLOSED ∨ state = .CS_RESET := by
  simp only [UtpConn.setLocalState] at h
  split at h
  next => exact .inl h
  next => exact notify_rejected h

/-- What rejects the promise ends the connection, or leaves its state. -/
theorem Act.rejected {receiving closing writing : Bool}
    (hact : Act receiving closing writing world next) (hrejected : next.Rejected) :
    world.Rejected ∨ world.Terminates next ∨
      next.conn.localState = world.conn.localState := by
  obtain ⟨error, herror⟩ := hrejected
  have hstate : ∀ {conn : UtpConn} {state : UtpConnState},
      (conn.setLocalState state).connecting = .rejected error →
      conn.connecting = world.conn.connecting → state ≠ .CS_CLOSED → state ≠ .CS_RESET →
      world.Rejected := by
    intro conn state hset hconn hclosed hreset
    rcases setLocalState_rejected hset with hold | hends | hends
    · exact ⟨error, hconn ▸ hold⟩
    · exact absurd hends hclosed
    · exact absurd hends hreset
  cases hact with
  | env henv =>
      rw [henv.conn] at herror
      exact .inl ⟨error, herror⟩
  | setConnecting promise => exact .inr (.inr rfl)
  | release => exact .inr (.inl .release)
  | forceClose => exact .inr (.inl .forceClose)
  | resetNow => exact .inr (.inl .resetNow)
  | beginClose => exact .inl (hstate herror rfl nofun nofun)
  | acceptHandshake => exact .inl (hstate herror rfl nofun nofun)
  | acceptFirstData => exact .inl (hstate herror rfl nofun nofun)
  | acceptFin => exact .inl (hstate herror rfl nofun nofun)
  | _ => exact .inl ⟨error, herror⟩

/-- Code that settles the promise with the state only rejects it by ending the connection. -/
theorem PromiseFollows.rejected {receiving closing writing : Bool}
    (hpromise : world.PromiseFollows next) (hact : Act receiving closing writing world next)
    (hrejected : next.Rejected) : world.Rejected ∨ world.Terminates next := by
  rcases hact.rejected hrejected with hbefore | hterminates | hstate
  · exact .inl hbefore
  · exact .inr hterminates
  · obtain ⟨error, herror⟩ := hrejected
    rcases hpromise with hsame | hchanged
    · exact .inl ⟨error, hsame ▸ herror⟩
    · exact absurd hstate hchanged

/-! ## The handler of a FIN -/

/-- The write that rejects the promise. -/
def Rejects (world next : World) : Prop := ¬ world.Rejected ∧ next.Rejected

theorem not_rejects (hsame : next.conn.connecting = world.conn.connecting) :
    ¬ world.Rejects next := by
  rintro ⟨hpending, error, herror⟩
  exact hpending ⟨error, hsame ▸ herror⟩

/-- Once a handler has rejected the promise, it accepts no FIN. -/
abbrev Final {α : Type} (task : ConnM α) : Prop := ∀ world, task.Thereafter Rejects
  (fun start target => start.Terminal → ¬ start.AcceptsFin target) world

theorem Finless.final {α : Type} {task : ConnM α} (hfinless : Finless task) : Final task :=
  fun world => .of_moves (hfinless world)

/-- Code that does not touch the promise. -/
abbrev Patient {α : Type} (task : ConnM α) : Prop :=
  task.MovesAlways fun start target => ¬ start.Rejects target

theorem Patient.final {α β : Type} {task : ConnM α} {next : α → ConnM β} (hpatient : Patient task)
    (hnext : ∀ value, Final (next value)) : Final (task.bind next) :=
  fun world => .bind_never (hpatient world) hnext

theorem processKeys_patient (keys : List Nat) : Patient (UtpConn.processKeys keys) := by
  induction keys with
  | nil => exact .pure
  | cons seq rest ih =>
      refine .reads fun world => .ite ih (.bind (.modify fun _ => not_rejects rfl) fun _ => ?_)
      split
      next => exact ih
      next packet _ =>
        refine .bind ?_ fun _ => ih
        unfold UtpConn.deliver
        split
        next => exact .pure
        next data _ =>
          have hwrite : Patient (UtpConn.writeRecvBuffer data) :=
            (writeRecvBuffer_sends data).mono fun _ _ h => not_rejects h.connecting
          exact .ite (.attempt hwrite fun _ => .pure) .pure

theorem trySafeRelease_finless : Finless UtpConn.trySafeRelease := by
  have hforce : Finless (Async.modify forceClose) := modify_finless fun _ => .inr nofun
  have hrelease : Finless (Async.modify release) := modify_finless fun _ => .inr nofun
  have hfin : ∀ packet, Finless ((Async.modify takeFin).bind fun _ =>
      Async.discard (Async.awaited (UtpConn.sendUtpPacket packet))) := fun packet =>
    .bind (modify_finless fun _ => .inl rfl) fun _ => (sendUtpPacket_finless _).awaited.discard
  exact .reads fun _ => .ite .throw
    (.ite hforce (.ite hforce (.ite .pure (.ite (hfin _) hrelease))))

/-- What follows the acceptance of a FIN accepts no other. -/
theorem handleFin_final (packet : UtpPacket) : Final ((UtpConn.handleFin packet).bind fun _ =>
    UtpConn.sendAck.bind fun _ => .pure true) := by
  have hack : Finless UtpConn.sendAck :=
    .reads fun _ => .ite .pure (.attempt (sendUtpPacket_finless _).awaited.discard fun _ => .pure)
  have hreply : Finless UtpConn.replyFin :=
    .reads fun _ => .ite (.attempt (.bind (modify_finless fun _ => .inl rfl) fun _ =>
      (sendUtpPacket_finless _).awaited.discard) fun _ => .pure) .pure
  have haccept : Patient (Async.modify fun world => world.acceptFin packet) := by
    refine .modify fun world => ?_
    rintro ⟨hpending, error, herror⟩
    rcases setLocalState_rejected herror with hold | hends | hends
    · exact hpending ⟨error, hold⟩
    · cases hends
    · cases hends
  have hrest : Finless ((UtpConn.replyFin.bind fun _ => (Async.modify drain).bind fun _ =>
      Async.awaited UtpConn.trySafeRelease).bind fun _ => UtpConn.sendAck.bind fun _ =>
        .pure true) :=
    .bind (hreply.bind fun _ => .bind (modify_finless fun _ => .inl rfl) fun _ =>
      trySafeRelease_finless.awaited) fun _ => hack.bind fun _ => .pure
  exact haccept.final fun _ => hrest.final

theorem handleAtConnected_final (packet : UtpPacket) :
    Final (UtpConn.handleAtConnected packet) := by
  by_cases hfin : packet.type = .ST_FIN
  · have hpass : Patient (Async.awaited UtpConn.processReceivedPackets) :=
      .awaited (.reads fun _ => processKeys_patient _)
    have henqueue : Patient (Async.modify fun world => world.enqueue packet) :=
      .modify fun _ => not_rejects rfl
    have hinsert : Final (UtpConn.insertPacket packet) := by
      refine henqueue.final fun _ => hpass.final fun _ => ?_
      dsimp only
      rw [if_pos hfin]
      exact handleFin_final packet
    intro world
    show Async.Thereafter _ _ (ite _ _ _) world
    split
    next => trivial
    next =>
      split
      next => trivial
      next =>
        split
        next => trivial
        next =>
          split
          next => exact hpass.final (fun _ => hinsert) world
          next => exact hinsert world
  · exact (handleAtConnected_finless hfin).final

theorem handling_final (packet : UtpPacket) : Final (handling packet) := by
  have hack : Patient (UtpConn.awaitHandleAck packet) :=
    .awaited (.modify fun _ => not_rejects rfl)
  by_cases hfin : packet.type = .ST_FIN
  · have hrest : ∀ handled : Bool, Finless (if handled = true then
        (Async.modify World.noteHandled).bind fun _ => (Async.pure handled : ConnM Bool)
        else Async.pure handled) := fun _ =>
      .ite (.bind (modify_finless fun _ => .inl rfl) fun _ => .pure) .pure
    have hstates : ∀ state, Final (UtpConn.handleInState packet state) := by
      intro state
      cases state with
      | CS_SYN_SENT =>
          have hanswer : Finless (UtpConn.handleAtSynSent packet) :=
            .ite .pure (.bind (modify_finless fun _ => .inr fun hend => by cases hend) fun _ =>
              .pure)
          exact Finless.final hanswer.awaited
      | CS_SYN_RECV => exact Finless.final (handleAtSynReceived_finless packet).awaited
      | CS_CONNECTED => exact fun world => (handleAtConnected_final packet world).awaited
      | CS_CLOSE_WAIT =>
          exact Finless.final (.ite (.bind (.awaited (modify_finless fun _ => .inl rfl))
            fun _ => .pure) .pure)
      | CS_CLOSED => exact Finless.final .pure
      | CS_RESET => exact Finless.final .pure
    have hall : Final (UtpConn.handleIncomingPacket packet) := by
      intro world
      simp only [UtpConn.handleIncomingPacket, Async.bind_eq]
      rw [if_neg (by rw [hfin]; decide)]
      have hstate := Async.Thereafter.bind (hstates world.conn.localState world) hrest
      exact hstate
    exact fun world => (hall world).bind fun _ => .pure
  · exact (handling_finless hfin).final

/-! ## Every turn -/

/-- What is known of each write under a label: it ends the connection for a reason, and the
promise only follows the state, or it leaves the state. -/
structure Handshakes (label : Label) (start target : World) : Prop where
  ends : start.EndsBy label target
  rests : label.settles = true → start.Rests target

theorem spawns_handshakes {admits : World → UtpPacket → Prop} {world : World} {label : Label}
    {task : ConnM Unit} (hspawns : Spawns admits world label task) :
    task.MovesAlways (Handshakes label) := by
  have hends := spawns_ends hspawns
  cases hspawns with
  | connectTimeout =>
      exact (setConnecting_rests _).mono fun _ _ h => ⟨h.ends nofun, fun _ => h⟩
  | _ => exact hends.mono fun _ _ h => ⟨h, nofun⟩

/-- What is known of a task when it takes a turn. -/
structure Playing (label : Label) (task : ConnM Unit) (world : World) : Prop where
  acts : task.Moves (Chain (Act true true true))
    (fun start target => label.Acts start target ∧ Handshakes label start target)
    (fun _ _ => True) world
  final : label = .receive → task.Thereafter Rejects
    (fun start target => start.Terminal → ¬ start.AcceptsFin target) world

/-- A turn of code that settles the promise with the state leaves it open, or it ends the
connection for good. -/
theorem Playing.turn {label : Label} {task : ConnM Unit} (hplaying : Playing label task world)
    (hlabel : label.settles = false) (hpending : ¬ world.Rejected)
    (hrejected : (task.turn world).1.Rejected) : (task.turn world).1.Terminal := by
  have hfinal : task.Thereafter Rejects (fun start target => label = .receive →
      start.Terminal → ¬ start.AcceptsFin target) world := by
    by_cases hreceive : label = .receive
    · exact (hplaying.final hreceive).mono fun _ _ h _ => h
    · exact .of_moves (Async.MovesAlways.any.mono (fun _ _ _ h => absurd h hreceive) world)
  have hbefore : ∀ start target : World, ¬ start.Rejected →
      label.Acts start target ∧ Handshakes label start target →
        ¬ target.Rejected ∨ start.Rejects target ∧ target.Terminal := by
    intro start target hstart hact
    by_cases htarget : target.Rejected
    · have hterminates := ((hact.2.ends.promise hlabel).rejected hact.1 htarget).resolve_left hstart
      exact .inr ⟨⟨hstart, htarget⟩, hterminates.terminal⟩
    · exact .inl htarget
  refine (hfinal.turn hplaying.acts hbefore ?_ hpending).resolve_left (fun h => h hrejected)
  intro start target hterminal hact hfin
  exact Act.terminal hact.1 hterminal fun h => hfin (of_decide_eq_true h) hterminal

/-- A turn of `waitForConnecting` leaves the state. -/
theorem Playing.rests {label : Label} {task : ConnM Unit} (hplaying : Playing label task world)
    (hlabel : label.settles = true) :
    (task.turn world).1.conn.localState = world.conn.localState := by
  have hkeeps : ∀ write ∈ task.writes world, write.1.conn.localState = world.conn.localState →
      write.2.conn.localState = world.conn.localState := fun write hwrite hsame =>
    ((Async.writes_move hplaying.acts write hwrite).2.rests hlabel).localState.trans hsame
  exact @Async.turn_keeps _ (fun later : World => later.conn.localState = world.conn.localState)
    task world hkeeps rfl

/-! ## Runs -/

section Run

variable {self : Nat} {utp : UtpSocket} {isInitiator : Bool} {remoteAddr : UtpAddr}
  {sendId recvId seqNr ackNr : Nat} {labels : Label → Prop} {heard : World → UtpPacket → Prop}
  {config moment later : Config World Label}

/-- A connection that has ended is not in the table. -/
theorem party_unlisted (hseqNr : seqNr < 65536)
    (hconfig : (partySystem labels heard).Reachable
      (connectTo self utp isInitiator remoteAddr sendId recvId seqNr ackNr) config)
    (hterminal : config.state.Terminal) : ¬ config.state.Listed := by
  have hchain := ((partySystem_words labels heard).reachable (connectTo_words hseqNr).2 hconfig).1
  have hconn := connectTo_conn self utp isInitiator remoteAddr sendId recvId seqNr ackNr
  refine hchain.preserves (fun start target (h : start.Terminal → ¬ start.Listed) hword =>
    hword.unlisted h) (fun hfirst => ?_) hterminal
  unfold Terminal at hfirst
  rw [hconn] at hfirst
  cases isInitiator <;> rcases hfirst with h | h <;> cases h

/-- The runs of an end among all others are runs of the connection. -/
theorem party_conn {first : Config World Label}
    (hrun : (partySystem labels heard).Reachable first config) :
    (connSystem labels heard).Reachable first config := by
  have henv : ∀ start target : World, (partySystem labels heard).env start target →
      (connSystem labels heard).env start target := fun _ _ hruntime =>
    Runtime.toEnvironment hruntime
  exact @Async.TaskSystem.Reachable.mono _ _ (partySystem labels heard) (connSystem labels heard)
    (fun _ _ _ => id) henv (fun _ => id) _ _ hrun

/-- What is known of whoever takes a turn in a run. -/
theorem party_playing (hseqNr : seqNr < 65536)
    (hconfig : (partySystem labels heard).Reachable
      (connectTo self utp isInitiator remoteAddr sendId recvId seqNr ackNr) config)
    {label : Label} (hturn : (partySystem labels heard).StepBy label config moment) :
    moment.state = config.state ∨
      ∃ task, Playing label task config.state ∧ moment.state = (task.turn config.state).1 := by
  have hconn := party_conn hconfig
  have hfirst : ∀ packet, (UtpConn.sendHandshake packet).MovesAlways (Handshakes .connect) :=
    fun packet => (sendHandshake_rests packet).mono fun _ _ h => ⟨h.ends nofun, fun _ => h⟩
  have hmoving := reachable_movingPer hseqNr hfirst (fun _ _ _ => spawns_handshakes) hconn
  have hfinal : ∀ entry ∈ config.tasks, entry.1 = .receive → Final entry.2 := by
    refine @Async.TaskSystem.Guarded.fates World Label _ _ .receive _ (fun _ => True) ?_ ?_
      _ _ (fun _ _ => trivial) ?_ hconn.guarded
    · rintro _ state task - ⟨-, hspawned⟩ - entry hentry
      cases hspawned with
      | receive packet => exact (handling_final packet state).suspended hentry
    · intro _ state ready task _ hfate hready _ entry hentry
      exact (hfate state state hready).suspended hentry
    · intro entry hentry hlabel
      rw [connectTo_labels self utp isInitiator remoteAddr sendId recvId seqNr ackNr entry hentry]
        at hlabel
      cases hlabel
  have hspawns : ∀ world other task, Spawns heard world other task →
      task.MovesAlways (Handshakes other) := fun _ _ _ => spawns_handshakes
  refine hturn.turn (fun task hspawn => ⟨?_, fun hlabel => ?_⟩) fun ready task hentry hready => ?_
  · exact (connSystem_movesPer_and hspawns).spawn config.state label task hmoving.inv hspawn
  · subst hlabel
    cases hspawn.2 with
    | receive packet => exact handling_final packet config.state
  · exact ⟨hmoving.tasks _ hentry config.state .refl config.state .refl hready, fun hlabel =>
      hfinal _ hentry hlabel config.state config.state hready⟩

/-- What a turn that rejects the promise leaves: the connection has ended, unless it was
`waitForConnecting` itself that gave up. -/
theorem terminal_of_rejected (hseqNr : seqNr < 65536)
    (hconfig : (partySystem labels heard).Reachable
      (connectTo self utp isInitiator remoteAddr sendId recvId seqNr ackNr) config)
    {label : Label} (hturn : (partySystem labels heard).StepBy label config moment)
    (hpending : ¬ config.state.Rejected) (hrejected : moment.state.Rejected) :
    moment.state.Terminal ↔ label.settles = false ∨ config.state.Terminal := by
  rcases party_playing hseqNr hconfig hturn with hsame | ⟨task, hplaying, hstate⟩
  · exact absurd (hsame ▸ hrejected) hpending
  rw [hstate] at hrejected ⊢
  cases hlabel : label.settles with
  | false => exact ⟨fun _ => .inl rfl, fun _ => hplaying.turn hlabel hpending hrejected⟩
  | true =>
      have hrests := hplaying.rests hlabel
      refine ⟨fun hterminal => .inr (hterminal.of_state hrests.symm), fun h => ?_⟩
      rcases h with hother | hterminal
      · cases hother
      · exact hterminal.of_state hrests

/-- A connection that has ended stays so, if no handler has a FIN to accept by then. -/
theorem terminal_from (hseqNr : seqNr < 65536)
    (hmoment : (partySystem labels heard).Reachable
      (connectTo self utp isInitiator remoteAddr sendId recvId seqNr ackNr) moment)
    (hterminal : moment.state.Terminal) (hspent : FinSpent moment.tasks)
    (hlater : (partySystem labels heard).Reachable moment later) : later.state.Terminal := by
  have hfirst : ∀ packet, (UtpConn.sendHandshake packet).MovesAlways (Handshakes .connect) :=
    fun packet => (sendHandshake_rests packet).mono fun _ _ h => ⟨h.ends nofun, fun _ => h⟩
  exact (onward_keeps hseqNr hfirst (fun _ _ _ => spawns_handshakes)
    (fun _ _ _ => spawns_finless) finless_terminal (fun _ _ hconn h => h.of_state (by rw [hconn]))
    (party_conn hmoment) hterminal (fun _ hentry world _ => hspent.onward hentry world)
    (party_conn hlater).guarded (fun _ => True) (fun _ _ _ _ _ _ _ _ _ _ => trivial)
    (fun _ _ _ _ => trivial) trivial).1

/-- The turn that rejects the promise leaves nothing of the connection, unless it is one of
`waitForConnecting` itself, on its timer or on an error of its first packet, and the connection
had not ended before. What is left of nothing is nothing for good, if no handler has a FIN to
accept by then; and the periodic check that finds the limit exceeded undoes an attempt. -/
theorem rejected_undone (hseqNr : seqNr < 65536)
    (hconfig : (partySystem labels heard).Reachable
      (connectTo self utp isInitiator remoteAddr sendId recvId seqNr ackNr) config) :
    (∀ label moment, (partySystem labels heard).StepBy label config moment →
      ¬ config.state.Rejected → moment.state.Rejected →
        (moment.state.Undone ↔ label.settles = false ∨ config.state.Terminal) ∧
        (moment.state.Undone → FinSpent moment.tasks → ∀ later,
          (partySystem labels heard).Reachable moment later →
            later.state.Undone ∧ later.state.conn.localState ≠ .CS_CONNECTED)) ∧
    (config.state.conn.localState = .CS_SYN_SENT →
      config.state.conn.isConnectTimeout config.state.utp.currentMicroseconds = true →
        (config.launch .timeoutCheck UtpConn.timeoutCheck).state.Undone ∧
        (config.state.conn.connecting = .pending →
          (config.launch .timeoutCheck UtpConn.timeoutCheck).state.Rejected)) := by
  refine ⟨fun label moment hturn hpending hrejected => ?_, fun hstate hlimit => ?_⟩
  · have hmoment := hconfig.step hturn.step
    have hundone : moment.state.Undone ↔ moment.state.Terminal :=
      ⟨Undone.terminal, fun hterminal => ⟨hterminal, party_unlisted hseqNr hmoment hterminal⟩⟩
    rw [hundone]
    refine ⟨terminal_of_rejected hseqNr hconfig hturn hpending hrejected, ?_⟩
    intro hterminal hspent later hlater
    have hlast := terminal_from hseqNr hmoment hterminal hspent hlater
    exact ⟨⟨hlast, party_unlisted hseqNr (hmoment.trans hlater) hlast⟩,
      fun hconnected => hlast.ne hconnected nofun nofun⟩
  · have hclosed : (config.launch .timeoutCheck UtpConn.timeoutCheck).state =
        config.state.forceClose := by
      simp only [Config.launch, UtpConn.timeoutCheck, Async.bind_eq, Async.get, Async.bind,
        Async.turn,
        hstate, hlimit, if_true, Async.modify]
    rw [hclosed]
    refine ⟨⟨.inl rfl, Terminates.unlisted .forceClose ⟨rfl, rfl, rfl, rfl, rfl⟩⟩,
      fun hpending => ?_⟩
    refine ⟨"Connection is closed", ?_⟩
    simp [forceClose, release, removeCon, drain, setLocalState, onConn, UtpConn.setLocalState,
      hstate,
      hpending, ConnectPromise.notify]

end Run

/-! ## Concrete runs -/

/-- A handshake whose first packet is out. -/
def awaitingAnswer (isInitiator : Bool) : Config World Label :=
  (connectTo 0 .sample isInitiator (.localhost 9000) 2 1 1 0).resumes [0, 0, 0, 0]

/-- No answer has come within the limit, and the periodic check ends the attempt. -/
def expired : Config World Label :=
  { awaitingAnswer true with state := { (awaitingAnswer true).state with
    utp := { (awaitingAnswer true).state.utp with dateNow := 1006000 } } }

theorem expired_reachable : (partySystem anyLabel anyPacket).Reachable
    (connectTo 0 .sample true (.localhost 9000) 2 1 1 0) expired := by
  refine .step (.resumes .refl [0, 0, 0, 0]) (.env ?_)
  exact ⟨⟨rfl, rfl, fun hhonest => hhonest⟩, rfl, id, fun hclosed _ => hclosed, id⟩

/-- The attempt is over. -/
def gaveUp : Config World Label := expired.launch .timeoutCheck UtpConn.timeoutCheck

/-- The answer that comes too late changes nothing. -/
theorem rejected_undone_sample : gaveUp.state.Rejected ∧
    (gaveUp.launch .receive (handling (synAck 1 100))).state.Undone := by
  have hidle : gaveUp.tasks = [] := List.length_eq_zero_iff.mp (by decide +kernel)
  have hspent : FinSpent gaveUp.tasks := by
    rw [hidle]
    exact nofun
  have hpending : expired.state.conn.connecting = .pending := by decide +kernel
  have hstate : expired.state.conn.localState = .CS_SYN_SENT := by decide +kernel
  have hlimit : expired.state.conn.isConnectTimeout expired.state.utp.currentMicroseconds =
    true := by
    decide +kernel
  obtain ⟨hturns, htimeout⟩ := rejected_undone (by decide) expired_reachable
  obtain ⟨hundone, hrejected⟩ := htimeout hstate hlimit
  have hturn : (partySystem anyLabel anyPacket).StepBy .timeoutCheck expired gaveUp :=
    .launch ⟨trivial, .timeoutCheck⟩ nofun
  have hopen : ¬ expired.state.Rejected := by
    rintro ⟨error, herror⟩
    rw [hpending] at herror
    cases herror
  have hlate : (partySystem anyLabel anyPacket).Reachable gaveUp
      (gaveUp.launch .receive (handling (synAck 1 100))) := by
    refine .step .refl (.launch ⟨trivial, .receive _ trivial⟩ fun _ other hother => ?_)
    rw [hidle] at hother
    cases hother
  exact ⟨hrejected hpending, ((hturns _ _ hturn hopen (hrejected hpending)).2 hundone hspent _
    hlate).1⟩

/-- A responder waits for its first data packet in vain, and the promise times out. -/
theorem timeout_leaves_entry : ¬ ∀ config later : Config World Label,
    (partySystem anyLabel anyPacket).Reachable
      (connectTo 0 .sample false (.localhost 9000) 2 1 1 0) config →
    config.state.Rejected → (partySystem anyLabel anyPacket).Reachable config later →
    later.state.Undone ∧ later.state.conn.localState ≠ .CS_CONNECTED := by
  intro hclaim
  have hpending : (awaitingAnswer false).state.conn.connecting = .pending := by decide +kernel
  have hreached : (partySystem anyLabel anyPacket).Reachable
      (connectTo 0 .sample false (.localhost 9000) 2 1 1 0)
      ((awaitingAnswer false).launch .connectTimeout UtpConn.connectTimeout) :=
    (Async.TaskSystem.Reachable.resumes .refl _).step
      (.launch ⟨trivial, .connectTimeout hpending⟩ nofun)
  have hlisted : ((awaitingAnswer false).launch .connectTimeout
      UtpConn.connectTimeout).state.Listed := by decide +kernel
  exact (hclaim _ _ hreached ⟨_, rfl⟩ .refl).1.unlisted hlisted

end World

end Utp
