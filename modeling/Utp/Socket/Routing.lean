import Utp.Conn.Completion
import Utp.Conn.Effects
import Utp.Socket.Dispatch

/-! # Which connections a datagram reaches

A packet that is not a SYN may belong to two connections with the same peer and the
same receive id. `dispatch` tries both, until one of them handles the packet.
-/

namespace Utp

/-- The state machine, receive queue and buffer, and send window of a connection. -/
structure UtpConn.Core where
  localState : UtpConnState
  recvPacketQueue : CircularQueue UtpPacket
  recvBuffer : BlockingBuffer
  sendWindow : UtpSendWindow

def UtpConn.core (conn : UtpConn) : UtpConn.Core where
  localState := conn.localState
  recvPacketQueue := conn.recvPacketQueue
  recvBuffer := conn.recvBuffer
  sendWindow := { conn.sendWindow with handledAcks := [] }

namespace World

/-! ## Packets that are not handled -/

/-- A run that ends with `false` has changed nothing. -/
def Untouched (task : ConnM Bool) : Prop :=
  ∀ world next, task.run world = some (next, .ok false) → next = world

theorem Untouched.pure (value : Bool) : Untouched (Async.pure value) := by
  intro world next hrun
  cases hrun
  rfl

/-- Code that changes nothing whenever it says `false` leaves the connection untouched. -/
theorem Says.untouched {task : ConnM Bool} (htask : Says true task) : Untouched task := by
  intro world next hrun
  cases htask world next false hrun

theorem Untouched.read {next : World → ConnM Bool} (hnext : ∀ world, Untouched (next world)) :
    Untouched ((Async.get : ConnM World).bind next) := fun world => hnext world world

theorem Untouched.awaited {task : ConnM Bool} (htask : Untouched task) :
    Untouched task.awaited := by
  intro world next hrun
  rw [Async.run_awaited] at hrun
  exact htask world next hrun

theorem Untouched.ite {condition : Prop} [Decidable condition] {first second : ConnM Bool}
    (hfirst : Untouched first) (hsecond : Untouched second) :
    Untouched (if condition then first else second) := by
  split
  next => exact hfirst
  next => exact hsecond

/-- In CS_SYN_RECV a packet that is not taken changes nothing. -/
theorem handleAtSynReceived_untouched (packet : UtpPacket) :
    Untouched (UtpConn.handleAtSynReceived packet) := by
  refine .read fun world => .ite (.pure false) (.ite (.pure false) (Says.untouched ?_))
  have hanswer : Says true ((Async.get : ConnM World).bind fun world =>
      (Async.discard (Async.awaited (UtpConn.sendUtpPacket world.ackPacket))).bind fun _ =>
        Async.pure true) := .bind fun _ => .bind fun _ => .pure true
  refine .bind fun _ => ?_
  cases packet.data with
  | none => exact hanswer
  | some data => exact .bind fun _ => hanswer

/-- In CS_CONNECTED a packet that is not taken changes nothing. -/
theorem handleAtConnected_untouched (packet : UtpPacket) :
    Untouched (UtpConn.handleAtConnected packet) := by
  refine .read fun world => .ite (.pure false) (.ite (.pure false) (.ite (.pure false) ?_))
  have hinsert := insertPacket_answers packet
  refine Says.untouched ?_
  show Says true (ite _ _ _)
  split
  next => exact .bind fun _ => hinsert
  next => exact hinsert

/-- Only an acknowledgement may leave traces on a connection that does not handle it. -/
theorem handleIncomingPacket_untouched {packet : UtpPacket} (htype : packet.type ≠ .ST_STATE) :
    Untouched (UtpConn.handleIncomingPacket packet) := by
  intro world next hrun
  have hstate : Untouched (UtpConn.handleInState packet world.conn.localState) := by
    cases world.conn.localState with
    | CS_SYN_SENT =>
        refine Untouched.awaited ?_
        unfold UtpConn.handleAtSynSent
        rw [if_pos htype]
        exact .pure false
    | CS_SYN_RECV => exact (handleAtSynReceived_untouched packet).awaited
    | CS_CONNECTED => exact (handleAtConnected_untouched packet).awaited
    | CS_CLOSE_WAIT =>
        show Untouched (ite _ _ _)
        rw [if_neg htype]
        exact .pure false
    | CS_CLOSED => exact .pure false
    | CS_RESET => exact .pure false
  have htask : UtpConn.handleIncomingPacket packet = (Async.get : ConnM World).bind fun world =>
      (UtpConn.handleInState packet world.conn.localState).bind fun handled =>
        if handled = true then (Async.modify noteHandled).bind fun _ => .pure handled
        else .pure handled := by
    unfold UtpConn.handleIncomingPacket
    rw [if_neg htype]
    rfl
  rw [htask] at hrun
  simp only [Async.run_bind, Async.run_get, Option.bind_some] at hrun
  cases hhandled : (UtpConn.handleInState packet world.conn.localState).run world with
  | none => simp [hhandled] at hrun
  | some step =>
      obtain ⟨later, result⟩ := step
      rw [hhandled] at hrun
      cases result with
      | error error => cases hrun
      | ok handled =>
          cases handled with
          | true => simp [Async.run_bind] at hrun
          | false =>
              cases hrun
              exact hstate world _ hhandled

/-- The states in which an acknowledgement counts as handled. -/
def Absorbs (state : UtpConnState) : Prop := state = .CS_SYN_SENT ∨ state = .CS_CLOSE_WAIT

instance (state : UtpConnState) : Decidable (Absorbs state) :=
  inferInstanceAs (Decidable (_ ∨ _))

/-- The window has seen an acknowledgement. -/
def Acked (world : World) : Prop :=
  world.conn.sendWindow.latestSeqReceivedOfOtherSide.isSome = true

/-- An acknowledgement leaves the window aware of it. -/
theorem handleAck_acked (world : World) (packet : UtpPacket) : (world.handleAck packet).Acked := by
  unfold Acked World.handleAck setWindow
  simp only [onConn, UtpSendWindow.handleAck_latest]
  unfold UtpSendWindow.noteAck
  split
  next => rfl
  next => split <;> rfl

theorem Acked.noteHandled {world : World} (h : world.Acked) : world.noteHandled.Acked := h

theorem Acked.acceptHandshake {world : World} (h : world.Acked) (ackNr : Nat) :
    (world.acceptHandshake ackNr).Acked := h

/-- An acknowledgement always reaches the window, and counts as handled in two states. -/
theorem run_handleIncomingPacket_ack {packet : UtpPacket} (htype : packet.type = .ST_STATE)
    (world : World) : ∃ next, (UtpConn.handleIncomingPacket packet).run world =
      some (next, .ok (decide (Absorbs world.conn.localState))) ∧ next.Acked := by
  have hack : UtpConn.handleIncomingPacket packet = (UtpConn.awaitHandleAck packet).bind fun _ =>
      (Async.get : ConnM World).bind fun world =>
        (UtpConn.handleInState packet world.conn.localState).bind fun handled =>
          if handled = true then (Async.modify noteHandled).bind fun _ => .pure handled
          else .pure handled := by
    unfold UtpConn.handleIncomingPacket
    rw [if_pos htype]
    rfl
  have hstate : (world.handleAck packet).conn.localState = world.conn.localState := rfl
  have hacked := world.handleAck_acked packet
  rw [hack, Async.run_bind]
  unfold UtpConn.awaitHandleAck
  rw [Async.run_awaited, Async.run_modify, Option.bind_some]
  simp only [Async.run_bind, Async.run_get, Option.bind_some, hstate]
  cases hcase : world.conn.localState with
  | CS_SYN_SENT =>
      refine ⟨((world.handleAck packet).acceptHandshake (Seq.add packet.seqNr (-1))).noteHandled,
        ?_, (hacked.acceptHandshake _).noteHandled⟩
      simp [UtpConn.handleInState, UtpConn.handleAtSynSent, htype, Async.run_bind, Absorbs]
  | CS_CLOSE_WAIT =>
      refine ⟨((world.handleAck packet).handleAck packet).noteHandled, ?_,
        (handleAck_acked (world.handleAck packet) packet).noteHandled⟩
      simp [UtpConn.handleInState, UtpConn.awaitHandleAck, htype, Async.run_bind, Absorbs]
  | CS_SYN_RECV =>
      refine ⟨world.handleAck packet, ?_, hacked⟩
      simp [UtpConn.handleInState, UtpConn.handleAtSynReceived, htype, Async.run_bind, Absorbs]
  | CS_CONNECTED =>
      refine ⟨world.handleAck packet, ?_, hacked⟩
      simp [UtpConn.handleInState, UtpConn.handleAtConnected, htype, Async.run_bind, Absorbs]
  | CS_CLOSED =>
      refine ⟨world.handleAck packet, ?_, hacked⟩
      simp [UtpConn.handleInState, Absorbs]
  | CS_RESET =>
      refine ⟨world.handleAck packet, ?_, hacked⟩
      simp [UtpConn.handleInState, Absorbs]

/-- A reset runs to its end at once. -/
theorem run_reset (world : World) : ∃ next, UtpConn.reset.run world = some (next, .ok ()) ∧
    world.resetNow.Rests next := by
  have hreset : UtpConn.reset = (Async.modify resetNow).bind fun _ =>
      (Async.get : ConnM World).bind fun world => Async.detached (UtpConn.sendUtpPacket
        (.createResetPacket world.conn world.utp.currentMicroseconds)) := rfl
  rw [hreset]
  simp only [Async.run_bind, Async.run_modify, Async.run_get, Option.bind_some, Async.run_detached]
  exact ⟨_, rfl, turn_rests (Sends.rests (sendUtpPacket_sends _)).detached _⟩

end World

namespace Socket

variable {packet : UtpPacket} {remoteAddr : UtpAddr}

/-! ## One connection's code, seen from the socket -/

/-- A connection's code runs on its own world, which is put back into the socket. -/
theorem run_onConn {α : Type} (id : Nat) (task : ConnM α) (socket : Socket) :
    (onConn id task).run socket =
      (task.run (worldOf id socket)).map fun result => (putWorld id socket result.1, result.2) :=
  Async.run_zoom _ _ (worldOf_putWorld id) (putWorld_worldOf id) (putWorld_putWorld id) task socket

/-- A reset goes through all the connections of the list. -/
theorem run_handlePacket_reset (hreset : packet.type = .ST_RESET) (id : Nat) (rest : List Nat)
    (socket : Socket) : ∃ world, (worldOf id socket).resetNow.Rests world ∧
      (handlePacket packet (id :: rest)).run socket =
        (handlePacket packet rest).run (putWorld id socket world) := by
  obtain ⟨world, hrun, hworld⟩ := World.run_reset (worldOf id socket)
  refine ⟨world, hworld, ?_⟩
  rw [handlePacket, if_pos hreset]
  show ((onConn id UtpConn.reset).bind fun _ => handlePacket packet rest).run socket = _
  rw [Async.run_bind, run_onConn, hrun]
  rfl

/-- Any other packet goes on to the next connection if the first one says `false`. -/
theorem run_handlePacket (hreset : packet.type ≠ .ST_RESET) (id : Nat) (rest : List Nat)
    (socket : Socket) : (handlePacket packet (id :: rest)).run socket =
      ((UtpConn.handleIncomingPacket packet).run (worldOf id socket)).bind fun result =>
        match result.2 with
        | .ok true => some (putWorld id socket result.1, .ok ())
        | .ok false => (handlePacket packet rest).run (putWorld id socket result.1)
        | .error error => some (putWorld id socket result.1, .error error) := by
  rw [handlePacket, if_neg hreset]
  show ((Async.awaited (onConn id (UtpConn.handleIncomingPacket packet))).bind fun handled =>
    if handled = true then Async.pure () else handlePacket packet rest).run socket = _
  rw [Async.run_bind, Async.run_awaited, run_onConn]
  cases (UtpConn.handleIncomingPacket packet).run (worldOf id socket) with
  | none => rfl
  | some step =>
      obtain ⟨world, result⟩ := step
      cases result with
      | error error => rfl
      | ok handled => cases handled <;> rfl

/-- Connections that are not tried are left alone. -/
theorem run_handlePacket_others {targets : List Nat} {socket next : Socket}
    {result : Except String Unit} (hrun : (handlePacket packet targets).run socket =
      some (next, result)) {other : Nat} (hother : other ∉ targets) :
    next.objects other = socket.objects other := by
  induction targets generalizing socket with
  | nil =>
      cases hrun
      rfl
  | cons id rest ih =>
      have hne : other ≠ id := fun h => hother (h ▸ List.mem_cons_self)
      have hrest : other ∉ rest := fun h => hother (List.mem_cons_of_mem _ h)
      by_cases hreset : packet.type = .ST_RESET
      · obtain ⟨world, -, heq⟩ := run_handlePacket_reset hreset id rest socket
        rw [heq] at hrun
        rw [ih hrun hrest, objects_putWorld_of_ne hne]
      · rw [run_handlePacket hreset] at hrun
        obtain ⟨⟨world, handled⟩, -, hstep⟩ := Option.bind_eq_some_iff.mp hrun
        have hput := objects_putWorld_of_ne hne socket world
        split at hstep
        next =>
          cases hstep
          exact hput
        next => rw [ih hstep hrest, hput]
        next =>
          cases hstep
          exact hput

/-- A packet that the first connection does not handle, and which is no
acknowledgement, finds the others as they were. -/
theorem run_handlePacket_stops (hreset : packet.type ≠ .ST_RESET) {id : Nat} {rest : List Nat}
    {socket next : Socket} (hack : packet.type = .ST_STATE →
      World.Absorbs (socket.objects id).conn.localState) {result : Except String Unit}
    (hrun : (handlePacket packet (id :: rest)).run socket = some (next, result)) :
    (∀ other ≠ id, next.objects other = socket.objects other) ∨
      (handlePacket packet rest).run socket = some (next, result) := by
  rw [run_handlePacket hreset] at hrun
  obtain ⟨⟨world, handled⟩, hhandle, hstep⟩ := Option.bind_eq_some_iff.mp hrun
  split at hstep
  next =>
    cases hstep
    exact .inl fun other hother => objects_putWorld_of_ne hother socket world
  next _ hfalse =>
    simp only at hfalse
    rw [hfalse] at hhandle
    right
    have hsame : world = worldOf id socket := by
      by_cases htype : packet.type = .ST_STATE
      · obtain ⟨later, hlater, -⟩ := World.run_handleIncomingPacket_ack htype (worldOf id socket)
        rw [hhandle] at hlater
        have habsorbs : World.Absorbs (worldOf id socket).conn.localState := hack htype
        simp [habsorbs] at hlater
      · exact World.handleIncomingPacket_untouched htype _ _ hhandle
    rwa [hsame, putWorld_worldOf] at hstep
  next =>
    cases hstep
    exact .inl fun other hother => objects_putWorld_of_ne hother socket world

/-! ## At most one connection -/

/-- Whether `dispatch` has changed the state of a connection. -/
def Touched (before after : Socket) (id : Nat) : Prop :=
  (before.objects id).conn.core ≠ (after.objects id).conn.core

theorem not_touched {before after : Socket} {id : Nat}
    (h : after.objects id = before.objects id) : ¬ Touched before after id := by
  intro htouched
  exact htouched (by rw [h])

/-- The packet changes the state of at most one connection. -/
def TouchesOne (drawn : Fin 65535) (packet : UtpPacket) (remoteAddr : UtpAddr)
    (socket : Socket) : Prop :=
  ∀ next result, (dispatchPacket drawn packet remoteAddr).run socket = some (next, result) →
    ∀ first second, Touched socket next first → Touched socket next second → first = second

/-- The sockets with the same table, whose connections are in the same states. -/
structure Alike (socket other : Socket) : Prop where
  connTable : other.utp.connTable = socket.utp.connTable
  localState : ∀ id, (other.objects id).conn.localState = (socket.objects id).conn.localState

/-- Two connections are tried, and neither a reset nor the first one's handling of an
acknowledgement ends the loop. -/
def Spreads (packet : UtpPacket) (remoteAddr : UtpAddr) (socket : Socket) : Prop :=
  ∃ first second, first ≠ second ∧ socket.targetConns packet remoteAddr = [first, second] ∧
    (packet.type = .ST_RESET ∨ packet.type = .ST_STATE ∧
      ¬ World.Absorbs (socket.objects first).conn.localState)

/-- At most two connections are looked up. -/
theorem targetConns_cases (socket : Socket) (packet : UtpPacket) (remoteAddr : UtpAddr) :
    socket.targetConns packet remoteAddr = [] ∨
      (∃ only, socket.targetConns packet remoteAddr = [only]) ∨
      ∃ first second, socket.targetConns packet remoteAddr = [first, second] := by
  unfold targetConns localSendIds
  simp only [List.filterMap_cons, List.filterMap_nil]
  split
  next =>
    split
    next => exact .inl rfl
    next only _ => exact .inr (.inl ⟨only, rfl⟩)
  next first _ =>
    split
    next => exact .inr (.inl ⟨first, rfl⟩)
    next second _ => exact .inr (.inr ⟨first, second, rfl⟩)

/-- Sockets with the same table look up the same connections. -/
theorem targetConns_alike {socket other : Socket} (halike : socket.Alike other)
    (packet : UtpPacket) (remoteAddr : UtpAddr) :
    other.targetConns packet remoteAddr = socket.targetConns packet remoteAddr := by
  unfold targetConns findConn
  rw [halike.connTable]

/-- But for a SYN, `dispatch` is the loop over the connections that are looked up. -/
theorem run_dispatchPacket (htype : packet.type ≠ .ST_SYN) (drawn : Fin 65535) (socket : Socket) :
    (dispatchPacket drawn packet remoteAddr).run socket =
      (handlePacket packet (socket.targetConns packet remoteAddr)).run socket := by
  unfold dispatchPacket
  rw [if_neg htype]
  rfl

/-- With a single connection to try, at most that one is touched. -/
theorem touchesOne_of_single {drawn : Fin 65535} (htype : packet.type ≠ .ST_SYN)
    {socket : Socket} {only : Nat}
    (htargets : ∀ target ∈ socket.targetConns packet remoteAddr, target = only) :
    TouchesOne drawn packet remoteAddr socket := by
  intro next result hrun first second hfirst hsecond
  rw [run_dispatchPacket htype] at hrun
  have honly : ∀ id, Touched socket next id → id = only := fun id htouched => by
    by_contra hne
    exact not_touched (run_handlePacket_others hrun fun hmem => hne (htargets id hmem)) htouched
  rw [honly first hfirst, honly second hsecond]

/-- Where the packet does not spread, the loop ends behind the first connection that it touches.
-/
theorem touchesOne_of_not_spreads {drawn : Fin 65535} (htype : packet.type ≠ .ST_SYN)
    {socket : Socket} (hspreads : ¬ Spreads packet remoteAddr socket) :
    TouchesOne drawn packet remoteAddr socket := by
  rcases targetConns_cases socket packet remoteAddr with hnone | ⟨only, hone⟩ | ⟨i, j, htwo⟩
  · exact @touchesOne_of_single packet remoteAddr drawn htype socket 0 (by simp [hnone])
  · exact @touchesOne_of_single packet remoteAddr drawn htype socket only (by simp [hone])
  by_cases hsame : i = j
  · exact @touchesOne_of_single packet remoteAddr drawn htype socket j (by simp [htwo, hsame])
  have hreset : packet.type ≠ .ST_RESET :=
    fun h => hspreads ⟨i, j, hsame, htwo, .inl h⟩
  have hack : packet.type = .ST_STATE → World.Absorbs (socket.objects i).conn.localState := by
    intro h
    by_contra habsorbs
    exact hspreads ⟨i, j, hsame, htwo, .inr ⟨h, habsorbs⟩⟩
  intro next result hrun first second hfirst hsecond
  rw [run_dispatchPacket htype, htwo] at hrun
  -- Whichever of the two is left alone, the other one is the only one touched.
  have honly : ∃ only, ∀ id, Touched socket next id → id = only := by
    rcases run_handlePacket_stops hreset hack hrun with hothers | hrest
    · refine ⟨i, fun id htouched => ?_⟩
      by_contra hne
      exact not_touched (hothers id hne) htouched
    · refine ⟨j, fun id htouched => ?_⟩
      by_contra hne
      exact not_touched (run_handlePacket_others hrest (by simpa using hne)) htouched
  obtain ⟨only, honly⟩ := honly
  rw [honly first hfirst, honly second hsecond]

/-- A connection with a packet in its queue, in a given state. -/
def stockedConn (state : UtpConnState) (packet : UtpPacket) (remoteAddr : UtpAddr) : UtpConn :=
  let conn := UtpConn.create false remoteAddr 0 0 0 0 0
  { conn with
    localState := state
    recvPacketQueue := conn.recvPacketQueue.enqueue 0 packet }

/-- The same socket, each connection with a packet in its queue. -/
def stocked (packet : UtpPacket) (remoteAddr : UtpAddr) (socket : Socket) : Socket :=
  { socket with objects := fun id =>
      ⟨id, stockedConn (socket.objects id).conn.localState packet remoteAddr, []⟩ }

/-- Packets in the queues make no difference to the table and the states. -/
theorem stocked_alike (packet : UtpPacket) (remoteAddr : UtpAddr) (socket : Socket) :
    socket.Alike (stocked packet remoteAddr socket) := ⟨rfl, fun _ => rfl⟩

theorem stockedConn_queue (state : UtpConnState) (packet : UtpPacket) (remoteAddr : UtpAddr) :
    (stockedConn state packet remoteAddr).recvPacketQueue.items ≠ ∅ := by
  intro hempty
  have hstored : 0 ∈ (stockedConn state packet remoteAddr).recvPacketQueue.items.keys := by
    have hroom : (UtpConn.create false remoteAddr 0 0 0 0 0).recvPacketQueue.size <
        (UtpConn.create false remoteAddr 0 0 0 0 0).recvPacketQueue.capacity :=
      UtpConn.queueSize_pos false
    show 0 ∈ (CircularQueue.enqueue _ 0 packet).items.keys
    rw [CircularQueue.enqueue_of_room 0 packet (.inr hroom)]
    exact OrderedMap.mem_keys_set.mpr (.inr rfl)
  rw [hempty] at hstored
  cases hstored

/-- A reset connection has lost what was in its queue. -/
theorem reset_touches {before after : Socket} {id : Nat} {world : World}
    (hafter : (after.objects id).conn = world.conn) {start : World}
    (hreset : start.resetNow.Rests world)
    (hstocked : (before.objects id).conn.recvPacketQueue.items ≠ ∅) : Touched before after id := by
  intro hsame
  have hqueue : (before.objects id).conn.recvPacketQueue = start.conn.recvPacketQueue.clear := by
    have hafterQueue := congrArg UtpConn.Core.recvPacketQueue hsame
    simp only [UtpConn.core, hafter] at hafterQueue
    exact hafterQueue.trans hreset.recvPacketQueue
  rw [hqueue] at hstocked
  exact hstocked rfl

/-- A connection that has seen its first acknowledgement has changed. -/
theorem ack_touches {before after : Socket} {id : Nat} {world : World}
    (hafter : (after.objects id).conn = world.conn) (hacked : world.Acked)
    (hbefore : (before.objects id).conn.sendWindow.latestSeqReceivedOfOtherSide = none) :
    Touched before after id := by
  intro hsame
  have hlatest := congrArg (fun core =>
    core.sendWindow.latestSeqReceivedOfOtherSide.isSome) hsame
  simp only [UtpConn.core, hafter, hbefore] at hlatest
  have hseen : world.conn.sendWindow.latestSeqReceivedOfOtherSide.isSome = true := hacked
  rw [hseen] at hlatest
  cases hlatest

/-- Two runs of connection code, one after the other. -/
theorem objects_put_twice {i j : Nat} (hne : i ≠ j) (socket : Socket) (first second : World) :
    ((putWorld j (putWorld i socket first) second).objects i).conn = first.conn := by
  rw [objects_putWorld_of_ne hne, objects_putWorld_self]

/-- Where the packet spreads, it touches two connections if their queues have packets in them. -/
theorem spreads_touches_two {drawn : Fin 65535} (htype : packet.type ≠ .ST_SYN) {socket : Socket}
    (hspreads : Spreads packet remoteAddr socket) :
    ¬ TouchesOne drawn packet remoteAddr (stocked packet remoteAddr socket) := by
  obtain ⟨i, j, hne, htargets, hcase⟩ := hspreads
  intro hone
  have hdispatch := @run_dispatchPacket packet remoteAddr htype drawn
    (stocked packet remoteAddr socket)
  rw [targetConns_alike (stocked_alike packet remoteAddr socket), htargets] at hdispatch
  rcases hcase with hreset | ⟨hack, hpasses⟩
  · obtain ⟨first, hfirst, hi⟩ := run_handlePacket_reset hreset i [j]
      (stocked packet remoteAddr socket)
    obtain ⟨second, hsecond, hj⟩ := run_handlePacket_reset hreset j []
      (putWorld i (stocked packet remoteAddr socket) first)
    rw [hi, hj] at hdispatch
    refine hne (hone _ _ hdispatch i j ?_ ?_)
    · exact reset_touches (objects_put_twice hne _ first second) hfirst (stockedConn_queue _ _ _)
    · exact reset_touches (objects_putWorld_self j _ second) hsecond (stockedConn_queue _ _ _)
  · have hother : packet.type ≠ .ST_RESET := by simp [hack]
    obtain ⟨first, hfirst, hseenFirst⟩ := World.run_handleIncomingPacket_ack hack
      (worldOf i (stocked packet remoteAddr socket))
    have hstate : ¬ World.Absorbs
        (worldOf i (stocked packet remoteAddr socket)).conn.localState := hpasses
    rw [decide_eq_false hstate] at hfirst
    obtain ⟨second, hsecond, hseenSecond⟩ := World.run_handleIncomingPacket_ack hack
      (worldOf j (putWorld i (stocked packet remoteAddr socket) first))
    have hlast : (handlePacket packet [j]).run
      (putWorld i (stocked packet remoteAddr socket) first) =
        some (putWorld j (putWorld i (stocked packet remoteAddr socket) first) second, .ok ()) := by
      rw [run_handlePacket hother, hsecond, Option.bind_some]
      split
      next => rfl
      next => rfl
      next _ _ herror => cases herror
    rw [run_handlePacket hother, hfirst, Option.bind_some] at hdispatch
    refine hne (hone _ _ (hdispatch.trans hlast) i j ?_ ?_)
    · exact ack_touches (objects_put_twice hne _ first second) hseenFirst rfl
    · exact ack_touches (objects_putWorld_self j _ second) hseenSecond rfl

/-- For the packets other than SYN: whatever the connections of a socket hold, at most
one of them changes, unless two are tried and nothing ends the loop at the first. -/
theorem touchesOne_iff (drawn : Fin 65535) {packet : UtpPacket} (htype : packet.type ≠ .ST_SYN)
    (remoteAddr : UtpAddr) (socket : Socket) :
    (∀ other, socket.Alike other → TouchesOne drawn packet remoteAddr other) ↔
      ¬ Spreads packet remoteAddr socket := by
  constructor
  · intro hone hspreads
    exact spreads_touches_two htype hspreads (hone _ (stocked_alike packet remoteAddr socket))
  · intro hspreads other halike
    refine touchesOne_of_not_spreads htype ?_
    rintro ⟨i, j, hne, htargets, hcase⟩
    rw [targetConns_alike halike] at htargets
    rw [halike.localState] at hcase
    exact hspreads ⟨i, j, hne, htargets, hcase⟩

/-! ## Concrete datagrams -/

/-- A packet of the peer that has the receive id 5. -/
def peerPacket (type : UtpPacketType) : UtpPacket :=
  { type := type, connId := 5, seqNr := 100, ackNr := 1 }

/-- A socket that has connected to a peer with the receive id 5, and has been connected
to from there with the same receive id on its side. -/
def paired : Socket :=
  ((create .sample).after (connect 5 9000 "localhost")).after (dispatchPacket 7
    { type := .ST_SYN, connId := 4, seqNr := 1 } (.localhost 9000))

/-- The condition can be met: data that the first connection takes. -/
theorem touchesOne_data : ¬ Spreads (peerPacket .ST_DATA) (.localhost 9000) paired ∧
    TouchesOne 0 (peerPacket .ST_DATA) (.localhost 9000) paired := by
  have hspreads : ¬ Spreads (peerPacket .ST_DATA) (.localhost 9000) paired := by
    rintro ⟨i, j, -, -, hreset | ⟨hack, -⟩⟩
    · cases hreset
    · cases hack
  exact ⟨hspreads, (touchesOne_iff 0 (by decide) (.localhost 9000) paired).mpr hspreads paired
    ⟨rfl, fun _ => rfl⟩⟩

/-- A reset for one connection resets another one, too. -/
theorem reset_touches_two : ¬ ∀ (drawn : Fin 65535) (packet : UtpPacket) (remoteAddr : UtpAddr)
    (socket : Socket), packet.type ≠ .ST_SYN → TouchesOne drawn packet remoteAddr socket := by
  intro hclaim
  have hone := hclaim 0 (peerPacket .ST_RESET) (.localhost 9000) paired (by decide)
  have hrun : ((dispatchPacket 0 (peerPacket .ST_RESET) (.localhost 9000)).run paired).any
      (fun step => decide ((step.1.objects 0).conn.localState ≠
          (paired.objects 0).conn.localState) &&
        decide ((step.1.objects 1).conn.localState ≠ (paired.objects 1).conn.localState)) =
      true := by decide +kernel
  cases hnext : (dispatchPacket 0 (peerPacket .ST_RESET) (.localhost 9000)).run paired with
  | none => simp [hnext] at hrun
  | some step =>
      obtain ⟨next, result⟩ := step
      simp only [hnext, Option.any_some, Bool.and_eq_true, decide_eq_true_eq] at hrun
      have htouched : ∀ id, (next.objects id).conn.localState ≠
          (paired.objects id).conn.localState → Touched paired next id :=
        fun id hstate hsame => hstate (congrArg UtpConn.Core.localState hsame).symm
      have hsame := hone next result hnext 0 1 (htouched 0 hrun.1) (htouched 1 hrun.2)
      exact absurd hsame (by decide)

end Socket

end Utp
