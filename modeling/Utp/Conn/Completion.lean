import Utp.Conn.Receive
import Utp.Foundation.Total

/-! # Handling a packet without interruption

With a runtime that takes every datagram whole, the code that handles a packet runs to
its end and does not fail, in every state of the connection.
-/

namespace Utp

/-- The runtime's `send` takes every datagram whole. -/
def UtpSocket.SendsWhole (utp : UtpSocket) : Prop :=
  ∀ bytes remoteAddr, utp.udpSend bytes remoteAddr = .ok bytes.length

namespace World

/-- The connection is in one of the states, on a runtime that takes datagrams whole. -/
structure Within (states : UtpConnState → Prop) (world : World) : Prop where
  send : world.utp.SendsWhole
  localState : states world.conn.localState

/-- Run alone, the task completes and keeps the connection in these states. -/
def Stays {α : Type} (states : UtpConnState → Prop) (task : ConnM α) : Prop :=
  task.Completes (Within states) fun _ => Within states

variable {states : UtpConnState → Prop}

/-- A write that leaves the state and the runtime's `send` alone. -/
theorem stays_modify {change : World → World}
    (hsend : ∀ world, (change world).utp.udpSend = world.utp.udpSend)
    (hstate : ∀ world, (change world).conn.localState = world.conn.localState) :
    Stays states (Async.modify change) := by
  refine .modify fun world h => ⟨fun bytes remoteAddr => ?_, ?_⟩
  · rw [hsend]
    exact h.send bytes remoteAddr
  · rw [hstate]
    exact h.localState

/-- A task that reads, and goes on in the same states. -/
theorem stays_read {α : Type} {next : World → ConnM α}
    (hnext : ∀ world, Within states world → Stays states (next world)) :
    Stays states ((Async.get : ConnM World).bind next) :=
  .read fun world h => (hnext world h).mono (fun _ heq => heq ▸ h) fun _ _ => id

/-! ## Sending -/

/-- A datagram that is taken whole is sent without a failure. -/
theorem udpSend_stays (calledIn : Option UtpConnState) (packet : UtpPacket)
    (remoteAddr : UtpAddr) : Stays states (UtpSocket.sendUtpPacket calledIn packet remoteAddr) := by
  refine stays_read fun world h => .ite (fun _ => .pure fun _ => id) fun _ => ?_
  have htransmit : Stays states (.modify fun world =>
      world.transmit calledIn packet remoteAddr) := stays_modify (fun _ => rfl) fun _ => rfl
  refine htransmit.bind fun _ => ?_
  rw [h.send]
  intro later hlater
  refine ⟨packet.toBytes.length, later, ?_, hlater⟩
  simp [Async.run, Async.waitUntil, Async.bind]

/-- Outside of `CS_CONNECTED`, or for a packet that needs no acknowledgement, nothing
enters the window. -/
theorem sendUtpPacket_stays {packet : UtpPacket} (hclosed : ¬ states .CS_CLOSED)
    (hunreliable : states .CS_CONNECTED → packet.isReliable = false) :
    Stays states (UtpConn.sendUtpPacket packet) := by
  have htouch : Stays states (Async.modify touch) := stays_modify (fun _ => rfl) fun _ => rfl
  refine htouch.bind fun _ => stays_read fun world h => .ite (fun hends => ?_) fun _ => ?_
  · refine absurd h.localState ?_
    rw [of_decide_eq_true hends]
    exact hclosed
  · refine .ite (fun hregisters => ?_) fun _ => (udpSend_stays _ packet _).awaited
    simp only [Bool.and_eq_true] at hregisters
    have hstate := h.localState
    rw [of_decide_eq_true hregisters.1] at hstate
    rw [hunreliable hstate] at hregisters
    cases hregisters.2

/-- The acknowledgement is sent, and the state is kept. -/
theorem sendAck_stays : Stays states UtpConn.sendAck := by
  refine .read fun world h => .ite (fun _ => .pure fun now hnow => hnow ▸ h) fun hopen => ?_
  -- What is sent does not change the state that was read.
  have hsend : Stays (fun state => state = world.conn.localState)
      (UtpConn.sendUtpPacket world.ackPacket) := by
    refine sendUtpPacket_stays (fun hclosed => hopen ?_) fun _ => rfl
    exact decide_eq_true hclosed.symm
  have hattempt : Stays (fun state => state = world.conn.localState)
      (Async.attempt (Async.discard (Async.awaited (UtpConn.sendUtpPacket world.ackPacket)))
        fun _ => Async.pure ()) := (Async.Completes.discard hsend.awaited).attempt
  exact hattempt.mono (fun now hnow => ⟨hnow ▸ h.send, congrArg _ (congrArg _ hnow)⟩)
    fun _ now hnow => ⟨hnow.send, hnow.localState ▸ h.localState⟩

/-! ## Delivery -/

/-- Serving the readers comes to its end. -/
theorem resolveReaders_completes (laps : Nat) :
    (BlockingBuffer.resolveReaders laps).Completes (fun _ => True) fun _ _ => True := by
  induction laps with
  | zero => exact .pure fun _ => id
  | succ laps ih =>
      refine .read fun buffer _ => ?_
      have hround : ∀ task : Async BlockingBuffer Unit,
          task.Completes (fun _ => True) (fun _ _ => True) →
            task.Completes (fun now => now = buffer) fun _ _ => True :=
        fun task htask => htask.mono (fun _ _ => trivial) fun _ _ => id
      split
      next => exact .pure fun _ _ => trivial
      next =>
        refine .ite (fun _ => .pure fun _ _ => trivial) fun _ => hround _ ?_
        have hmodify : ∀ change : BlockingBuffer → BlockingBuffer,
            (Async.modify change).Completes (fun _ => True) fun _ _ => True :=
          fun change => .modify fun _ _ => trivial
        exact (hmodify _).awaited.bind fun _ => (hmodify _).bind fun _ => ih

/-- Received data is appended, and the state is kept. -/
theorem writeRecvBuffer_stays (data : Bytes) : Stays states (UtpConn.writeRecvBuffer data) := by
  have hwrite : (BlockingBuffer.write data).Completes (fun _ => True) fun _ _ => True := by
    have happend : (Async.modify fun buffer : BlockingBuffer => buffer.append data).Completes
        (fun _ => True) fun _ _ => True := .modify fun _ _ => trivial
    refine happend.awaited.bind fun _ => .read fun buffer _ => ?_
    exact ((resolveReaders_completes _).bind fun _ => .pure fun _ _ => trivial).mono
      (fun _ _ => trivial) fun _ _ => id
  have hzoom : Stays states (World.onRecvBuffer (BlockingBuffer.write data)) := by
    intro world h
    obtain ⟨value, buffer, hrun, -⟩ := hwrite world.conn.recvBuffer trivial
    refine ⟨value, world.onConn fun conn => { conn with recvBuffer := buffer }, ?_, h.send,
      h.localState⟩
    have hzoom := Async.run_zoom (fun world : World => world.conn.recvBuffer)
      (fun world buffer => world.onConn fun conn => { conn with recvBuffer := buffer })
      (fun _ _ => rfl) (fun _ => rfl) (fun _ _ _ => rfl) (BlockingBuffer.write data) world
    rw [hrun] at hzoom
    exact hzoom
  exact Async.Completes.discard hzoom.awaited

/-- The pass over the queue keeps the state, -/
theorem processKeys_stays (keys : List Nat) : Stays states (UtpConn.processKeys keys) := by
  induction keys with
  | nil => exact .pure fun _ => id
  | cons seq rest ih =>
      refine stays_read fun world _ => .ite (fun _ => ih) fun _ => ?_
      have hadvance : Stays states (.modify fun world => world.advanceTo seq) :=
        stays_modify (fun _ => rfl) fun _ => rfl
      refine hadvance.bind fun _ => ?_
      split
      next => exact ih
      next packet _ =>
        refine Async.Completes.bind (?_ : Stays states (UtpConn.deliver packet)) fun _ => ih
        unfold UtpConn.deliver
        split
        next => exact .pure fun _ => id
        next =>
          exact .ite (fun _ => (writeRecvBuffer_stays _).attempt) fun _ => .pure fun _ => id

/-- and so does the whole of it. -/
theorem processReceivedPackets_stays : Stays states UtpConn.processReceivedPackets :=
  stays_read fun _ _ => processKeys_stays _

/-! ## The end of the peer's stream -/

/-- A connection that waits for its release, or was released. -/
def Leaving (state : UtpConnState) : Prop := state = .CS_CLOSE_WAIT ∨ state = .CS_CLOSED

def IsWaiting (state : UtpConnState) : Prop := state = .CS_CLOSE_WAIT

/-- In CS_CLOSE_WAIT the FIN is sent without waiting for an acknowledgement. -/
theorem sendFin_stays (packet : UtpPacket) : Stays IsWaiting (UtpConn.sendUtpPacket packet) :=
  sendUtpPacket_stays nofun nofun

/-- With nothing in between, the release finds the connection waiting. -/
theorem trySafeRelease_completes : UtpConn.trySafeRelease.Completes (Within IsWaiting)
    fun _ => Within Leaving := by
  have hkeep : ∀ world, Within IsWaiting world → Within Leaving world :=
    fun world h => ⟨h.send, .inl h.localState⟩
  have hforce : (Async.modify forceClose).Completes (Within IsWaiting) fun _ => Within Leaving :=
    .modify fun world h => ⟨h.send, .inr rfl⟩
  have hrelease : (Async.modify World.release).Completes (Within IsWaiting)
      fun _ => Within Leaving := .modify fun world h => ⟨h.send, .inr rfl⟩
  have hfin : ∀ packet, ((Async.modify takeFin).bind fun _ =>
      Async.discard (Async.awaited (UtpConn.sendUtpPacket packet))).Completes (Within IsWaiting)
        fun _ => Within Leaving := by
    intro packet
    have htake : Stays IsWaiting (Async.modify takeFin) :=
      stays_modify (fun _ => rfl) fun _ => rfl
    exact (htake.bind fun _ => (Async.Completes.discard (sendFin_stays packet).awaited)).mono
      (fun _ => id) fun _ world h => hkeep world h
  refine .read fun world h => ?_
  refine Async.Completes.mono ?_ (fun now (hnow : now = world) => (hnow ▸ h : Within IsWaiting now))
    fun _ _ => id
  refine .ite (fun hother => absurd h.localState hother) fun _ => .ite (fun _ => hforce)
    fun _ => .ite (fun _ => hforce) fun _ => .ite (fun _ => .pure hkeep) fun _ => ?_
  exact .ite (fun _ => hfin _) fun _ => hrelease

/-- The answer to a FIN comes to its end. -/
theorem replyFin_stays : Stays IsWaiting UtpConn.replyFin := by
  refine stays_read fun world _ => .ite (fun _ => ?_) fun _ => .pure fun _ => id
  have htake : Stays IsWaiting (Async.modify takeFin) := stays_modify (fun _ => rfl) fun _ => rfl
  exact (htake.bind fun _ => Async.Completes.discard (sendFin_stays _).awaited).attempt

/-- The handling of a FIN, from any state. -/
theorem handleFin_completes (packet : UtpPacket) : (UtpConn.handleFin packet).Completes
    (Within fun _ => True) fun _ => Within Leaving := by
  have haccept : (Async.modify fun world : World => world.acceptFin packet).Completes
      (Within fun _ => True) fun _ => Within IsWaiting := .modify fun world h => ⟨h.send, rfl⟩
  have hdrain : Stays IsWaiting (Async.modify drain) := stays_modify (fun _ => rfl) fun _ => rfl
  exact haccept.bind fun _ => replyFin_stays.bind fun _ => hdrain.bind fun _ =>
    trySafeRelease_completes.awaited

/-- What becomes of a connection in a state by a packet that goes into its queue. -/
def after (packet : UtpPacket) (states : UtpConnState → Prop) : UtpConnState → Prop :=
  if packet.type = .ST_FIN then Leaving else states

/-- A packet that goes into the queue has the effect of a FIN, or none, on the state. -/
theorem insertPacket_completes (packet : UtpPacket) : (UtpConn.insertPacket packet).Completes
    (Within states) fun _ => Within (after packet states) := by
  have henqueue : Stays states (.modify fun world => world.enqueue packet) :=
    stays_modify (fun _ => rfl) fun _ => rfl
  have hanswer : ∀ {states : UtpConnState → Prop}, (UtpConn.sendAck.bind fun _ =>
      Async.pure true).Completes (Within states) fun _ => Within states :=
    sendAck_stays.bind fun _ => .pure fun _ => id
  refine henqueue.bind fun _ => processReceivedPackets_stays.awaited.bind fun _ => ?_
  unfold after
  show Async.Completes _ _ (ite _ _ _)
  split
  next =>
    exact ((handleFin_completes packet).mono (fun _ h => ⟨h.send, trivial⟩) fun _ _ => id).bind
      fun _ => hanswer
  next => exact hanswer

/-! ## Incoming packets -/

/-- The task gives no other result than `value`. -/
def Says {α : Type} (value : α) (task : ConnM α) : Prop :=
  ∀ world next other, task.run world = some (next, .ok other) → other = value

theorem Says.pure {α : Type} (value : α) : Says value (Async.pure value) := by
  intro world next other hrun
  cases hrun
  rfl

/-- A sequence says what its last part says. -/
theorem Says.bind {α β : Type} {value : β} {task : ConnM α} {next : α → ConnM β}
    (hnext : ∀ result, Says value (next result)) : Says value (task.bind next) := by
  intro world final other hrun
  rw [Async.run_bind] at hrun
  cases htask : task.run world with
  | none => simp [htask] at hrun
  | some step =>
      obtain ⟨later, result⟩ := step
      rw [htask] at hrun
      cases result with
      | ok result => exact hnext result later final other hrun
      | error error => cases hrun

/-- A packet that goes into the queue is always handled. -/
theorem insertPacket_answers (packet : UtpPacket) : Says true (UtpConn.insertPacket packet) := by
  have hanswer : Says true (UtpConn.sendAck.bind fun _ => Async.pure true) :=
    .bind fun _ => .pure true
  refine .bind fun _ => .bind fun _ => ?_
  show Says true (ite _ _ _)
  split
  next => exact .bind fun _ => hanswer
  next => exact hanswer

/-- A connection of which nothing is said but that its runtime takes datagrams whole. -/
def Able (world : World) : Prop := world.utp.SendsWhole

/-- The packet is the first data packet of a connection that answered a SYN. -/
structure Opens (packet : UtpPacket) (world : World) : Prop where
  localState : world.conn.localState = .CS_SYN_RECV
  type : packet.type = .ST_DATA
  ackNr : packet.ackNr = Seq.add world.conn.localSeqNr (-1)

/-- The packet is the FIN of the peer. -/
structure Finishes (packet : UtpPacket) (world : World) : Prop where
  localState : world.conn.localState = .CS_CONNECTED
  type : packet.type = .ST_FIN
  taken : world.conn.isRefused packet = false

/-- The packet is one that changes the state of the connection. -/
def Advances (packet : UtpPacket) (world : World) : Prop :=
  Opens packet world ∨ Finishes packet world

/-- What the handling of a packet comes to. -/
structure Concludes (packet : UtpPacket) (world : World) (handled : Bool) (now : World) : Prop where
  able : now.Able
  advances : Advances packet world →
    handled = true ∧ now.conn.localState ≠ world.conn.localState

theorem Concludes.of_able {packet : UtpPacket} {world now : World} {handled : Bool}
    (hable : now.Able) (h : ¬ Advances packet world) : Concludes packet world handled now :=
  ⟨hable, fun hadvances => absurd hadvances h⟩

theorem Concludes.of_pure {packet : UtpPacket} {world : World} {handled : Bool}
    (hable : world.Able) (h : ¬ Advances packet world) : (Async.pure handled : ConnM Bool).Completes
      (fun now => now = world) (Concludes packet world) := by
  refine .pure fun now hnow => ?_
  subst hnow
  exact .of_able hable h

/-- In CS_SYN_RECV the handler completes, and opens the connection if the packet does. -/
theorem handleAtSynReceived_completes (packet : UtpPacket) (world : World) (hable : world.Able)
    (hstate : world.conn.localState = .CS_SYN_RECV) :
    (UtpConn.handleAtSynReceived packet).Completes (fun now => now = world)
      (Concludes packet world) := by
  have hanswer : ((Async.get : ConnM World).bind fun world => (Async.discard
      (Async.awaited (UtpConn.sendUtpPacket world.ackPacket))).bind fun _ =>
        Async.pure true).Completes (Within fun state => state = .CS_CONNECTED)
      (Concludes packet world) := by
    refine .read fun later hlater => Async.Completes.mono ?_
      (fun now (hnow : now = later) => (hnow ▸ hlater : Within _ now)) fun _ _ => id
    have hsend : Stays (fun state => state = .CS_CONNECTED)
        (UtpConn.sendUtpPacket later.ackPacket) := sendUtpPacket_stays nofun fun _ => rfl
    refine (Async.Completes.discard hsend.awaited).bind fun _ => .pure fun now h => ⟨h.send, ?_⟩
    rw [hstate, h.localState]
    exact fun _ => ⟨rfl, nofun⟩
  have haccept : (Async.modify fun world : World => world.acceptFirstData packet.seqNr).Completes
      (fun now => now = world) fun _ => Within fun state => state = .CS_CONNECTED := by
    refine .modify fun now hnow => ⟨?_, rfl⟩
    subst hnow
    exact hable
  have hrefused : ¬ Opens packet world → (Async.pure false : ConnM Bool).Completes
      (fun now => now = world) (Concludes packet world) := by
    refine fun h => Concludes.of_pure hable (not_or.mpr ⟨h, fun hfin => ?_⟩)
    cases hstate.symm.trans hfin.localState
  refine .read fun later hlater => ?_
  subst hlater
  refine .ite (fun htype => hrefused fun h => htype h.type) fun _ =>
    .ite (fun hack => hrefused fun h => hack h.ackNr) fun _ => haccept.bind fun _ => ?_
  cases packet.data with
  | none => exact hanswer
  | some data => exact (writeRecvBuffer_stays data).bind fun _ => hanswer

/-- In CS_CONNECTED the handler completes, and ends the connection if the packet does. -/
theorem handleAtConnected_completes (packet : UtpPacket) (world : World) (hable : world.Able)
    (hstate : world.conn.localState = .CS_CONNECTED) :
    (UtpConn.handleAtConnected packet).Completes (fun now => now = world)
      (Concludes packet world) := by
  have hinsert : (UtpConn.insertPacket packet).Completes
      (Within fun state => state = .CS_CONNECTED) (Concludes packet world) := by
    intro start hstart
    obtain ⟨handled, now, hrun, hnow⟩ := insertPacket_completes packet start hstart
    refine ⟨handled, now, hrun, hnow.send, fun hadvances => ?_⟩
    rcases hadvances with hopens | hfin
    · cases hstate.symm.trans hopens.localState
    · refine ⟨insertPacket_answers packet start now handled hrun, ?_⟩
      have hleft := hnow.localState
      rw [after, if_pos hfin.type] at hleft
      rw [hstate]
      rcases hleft with hwait | hclosed
      · simp [hwait]
      · simp [hclosed]
  have hrefused : ¬ Finishes packet world → (Async.pure false : ConnM Bool).Completes
      (fun now => now = world) (Concludes packet world) := by
    refine fun h => Concludes.of_pure hable (not_or.mpr ⟨fun hopens => ?_, h⟩)
    cases hstate.symm.trans hopens.localState
  have hstart : ∀ now, now = world → Within (fun state => state = .CS_CONNECTED) now := by
    intro now hnow
    subst hnow
    exact ⟨hable, hstate⟩
  refine .read fun later hlater => ?_
  subst hlater
  refine .ite (fun hclosed => ?_) fun _ => .ite (fun htype => hrefused fun h => htype.1 h.type)
    fun _ => .ite (fun hold => hrefused fun h => ?_) fun _ => .ite (fun _ => ?_) fun _ => ?_
  · simp [UtpConn.isClosed, hstate] at hclosed
  · rw [h.taken] at hold
    cases hold
  · exact (processReceivedPackets_stays.awaited.mono hstart fun _ _ => id).bind fun _ => hinsert
  · exact hinsert.mono hstart fun _ _ => id

/-- The handler completes in every state. -/
theorem handleInState_completes (packet : UtpPacket) (world : World) (hable : world.Able) :
    (UtpConn.handleInState packet world.conn.localState).Completes (fun now => now = world)
      (Concludes packet world) := by
  have hstill : ∀ {task : ConnM Bool}, task.Completes Able (fun _ => Able) →
      ¬ Advances packet world → task.Completes (fun now => now = world) (Concludes packet world) :=
    fun htask hstate => htask.mono (fun now hnow => hnow ▸ hable) fun _ now hnow =>
      .of_able hnow hstate
  have hfalse : (Async.pure false : ConnM Bool).Completes Able fun _ => Able := .pure fun _ => id
  have hother : world.conn.localState ≠ .CS_SYN_RECV → world.conn.localState ≠ .CS_CONNECTED →
      ¬ Advances packet world := fun hreceived hconnected =>
    not_or.mpr ⟨fun h => hreceived h.localState, fun h => hconnected h.localState⟩
  cases hcase : world.conn.localState with
  | CS_SYN_SENT =>
      refine hstill ?_ (hother (by simp [hcase]) (by simp [hcase]))
      refine Async.Completes.awaited (.ite (fun _ => hfalse) fun _ => ?_)
      have haccept : (Async.modify fun world : World =>
          world.acceptHandshake (Seq.add packet.seqNr (-1))).Completes Able fun _ => Able :=
        .modify fun _ => id
      exact haccept.bind fun _ => .pure fun _ => id
  | CS_SYN_RECV => exact (handleAtSynReceived_completes packet world hable hcase).awaited
  | CS_CONNECTED => exact (handleAtConnected_completes packet world hable hcase).awaited
  | CS_CLOSE_WAIT =>
      refine hstill (.ite (fun _ => ?_) fun _ => hfalse)
        (hother (by simp [hcase]) (by simp [hcase]))
      have hack : (Async.modify fun world : World => world.handleAck packet).Completes Able
          fun _ => Able := .modify fun _ => id
      exact hack.awaited.bind fun _ => .pure fun _ => id
  | CS_CLOSED => exact hstill hfalse (hother (by simp [hcase]) (by simp [hcase]))
  | CS_RESET => exact hstill hfalse (hother (by simp [hcase]) (by simp [hcase]))

/-- Handling a packet completes, in every state of the connection. -/
theorem handleIncomingPacket_completes (packet : UtpPacket) (world : World)
    (hable : world.Able) : (UtpConn.handleIncomingPacket packet).Completes
      (fun now => now = world) (Concludes packet world) := by
  have hhandle : ∀ start : World, start.Able → ((Async.get : ConnM World).bind fun world =>
      (UtpConn.handleInState packet world.conn.localState).bind fun handled =>
        if handled = true then (Async.modify noteHandled).bind fun _ => Async.pure handled
        else .pure handled).Completes (fun now => now = start) (Concludes packet start) := by
    intro start hstart
    refine .read fun later hlater => ?_
    subst hlater
    refine (handleInState_completes packet later hstart).bind fun handled => ?_
    have hnote : (Async.modify noteHandled).Completes (Concludes packet later handled)
        fun _ => Concludes packet later handled := .modify fun now h => ⟨h.able, h.advances⟩
    exact .ite (fun _ => hnote.bind fun _ => .pure fun _ => id) fun _ => .pure fun _ => id
  show Async.Completes _ _ (ite _ _ _)
  split
  next hack =>
    have hwindow : (UtpConn.awaitHandleAck packet).Completes (fun now => now = world)
        fun _ now => now = world.handleAck packet := by
      refine Async.Completes.awaited (.modify fun now hnow => ?_)
      rw [hnow]
    refine hwindow.bind fun _ => (hhandle (world.handleAck packet) hable).mono (fun _ => id)
      fun handled now hnow => .of_able hnow.able ?_
    rintro (hopens | hfin)
    · cases hack.symm.trans hopens.type
    · cases hack.symm.trans hfin.type
  next => exact hhandle world hable

end World

end Utp
