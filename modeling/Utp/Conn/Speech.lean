import Utp.Conn.System
import Utp.Foundation.Turns

/-! # What connection code builds and sends

Apart from packets that are sent again, a connection sends its SYN, acknowledgements,
resets, and the data and FIN packets it has built. It builds at most one FIN.
-/

namespace Utp

namespace World

/-- A packet as connections send them. The only SYN is `syn`. -/
structure Spoken (syn packet : UtpPacket) : Prop where
  version : packet.version = 1
  only : packet.type = .ST_SYN → packet = syn

/-- Nothing is built, and what is sent is `Spoken` or sent again. -/
structure Utters (syn : UtpPacket) (world next : World) : Prop where
  state : next.utp.state = world.utp.state
  created : next.conn.created = world.conn.created
  localFinPacket : next.conn.localFinPacket = world.conn.localFinPacket
  sent : next.utp.sent = world.utp.sent ∨ ∃ datagram, next.utp.sent = world.utp.sent ++ [datagram] ∧
    (datagram.calledIn = none ∨ Spoken syn datagram.packet)

/-- The writes of a connection's code, by what they build and send. `fins` tells whether
the code may build the FIN. -/
inductive Speaks (syn : UtpPacket) (fins : Bool) (world : World) : World → Prop
  | utter {next : World} (hutters : Utters syn world next) : Speaks syn fins world next
  | data (chunk : Bytes) (hpos : 0 < chunk.length) (hfits : chunk.length ≤ UtpConn.chunkSize) :
      Speaks syn fins world (world.consumeSeqNr (world.dataPacket chunk))
  | fin (hfirst : world.conn.localFinPacket = none) (hfins : fins = true) :
      Speaks syn fins world world.takeFin

variable {syn : UtpPacket} {fins : Bool}

/-- A write that builds and sends nothing. -/
theorem utters_of_same {world next : World} (hstate : next.utp.state = world.utp.state)
    (hcreated : next.conn.created = world.conn.created)
    (hfin : next.conn.localFinPacket = world.conn.localFinPacket)
    (hsent : next.utp.sent = world.utp.sent) : Utters syn world next :=
  ⟨hstate, hcreated, hfin, .inl hsent⟩

/-! ## Sending -/

/-- Code that builds nothing. -/
abbrev Uttering {α : Type} (syn : UtpPacket) (task : ConnM α) : Prop :=
  task.MovesAlways (Utters syn)

/-- The socket sends what it is handed. -/
theorem udpSend_uttering {calledIn : Option UtpConnState} {packet : UtpPacket}
    (remoteAddr : UtpAddr) (hpacket : calledIn = none ∨ Spoken syn packet) :
    Uttering syn (UtpSocket.sendUtpPacket calledIn packet remoteAddr) := by
  have htransmit : Uttering syn (.modify fun world => world.transmit calledIn packet remoteAddr) :=
    .modify fun world => ⟨rfl, rfl, rfl, .inr ⟨_, rfl, hpacket⟩⟩
  refine .reads fun world => .ite .pure (htransmit.bind fun _ => .bind .waitUntil fun _ => ?_)
  split
  next => exact .throw
  next => exact .ite .pure .throw

theorem waitForAck_uttering (packet : UtpPacket) (remoteAddr : UtpAddr) :
    Uttering syn (UtpSendWindow.waitForAck packet remoteAddr) := by
  have hset : ∀ (seqNr : Nat) (info : UtpPacketWithExtraInfo),
      (BlockingMap.set seqNr info).MovesAlways fun _ _ => True := by
    intro seqNr info
    refine .reads fun map => .ite (.modify fun _ => trivial) ?_
    exact (Async.MovesAlways.modify fun _ => trivial).bind fun _ => .waitUntil
  apply Async.MovesAlways.reads
  intro world
  apply Async.MovesAlways.awaited
  refine (hset _ _).zoom (fun _ _ => rfl) fun world map _ => ?_
  exact utters_of_same rfl rfl rfl rfl

/-- What is sent again was built before. -/
theorem resendLoop_uttering (now : Nat) (seqNrs : List Nat) :
    Uttering syn (UtpSendWindow.resendLoop now seqNrs) := by
  induction seqNrs with
  | nil => exact .pure
  | cons seqNr rest ih =>
      apply Async.MovesAlways.reads
      intro world
      have hresend : Uttering syn (.modify fun world =>
          world.setWindow (world.conn.sendWindow.resendOne now seqNr).1) :=
        .modify fun _ => utters_of_same rfl rfl rfl rfl
      refine hresend.bind fun _ => ?_
      split
      next => exact ih
      next => exact (udpSend_uttering _ (.inl rfl)).awaited.discard.bind fun _ => ih

theorem resend_uttering : Uttering syn UtpSendWindow.resend :=
  .reads fun _ => resendLoop_uttering _ _

/-- `sendUtpPacket` builds nothing itself. -/
theorem sendUtpPacket_uttering {packet : UtpPacket} (hpacket : Spoken syn packet) :
    Uttering syn (UtpConn.sendUtpPacket packet) := by
  have htouch : Uttering syn (.modify World.touch) := .modify fun _ =>
    utters_of_same rfl rfl rfl rfl
  refine htouch.bind fun _ => .reads fun world => .ite .throw ?_
  have hsend : Uttering syn (UtpSocket.sendUtpPacket (some world.conn.localState) packet
      world.conn.remoteAddr) := udpSend_uttering _ (.inr hpacket)
  exact .ite ((waitForAck_uttering _ _).awaited.bind fun _ => hsend.awaited) hsend.awaited

theorem send_uttering {packet : UtpPacket} (hpacket : Spoken syn packet) :
    Uttering syn (Async.discard (Async.awaited (UtpConn.sendUtpPacket packet))) :=
  (sendUtpPacket_uttering hpacket).awaited.discard

theorem spoken_ack (world : World) : Spoken syn world.ackPacket := ⟨rfl, nofun⟩

theorem spoken_data (world : World) (data : Bytes) : Spoken syn (world.dataPacket data) :=
  ⟨rfl, nofun⟩

theorem spoken_fin (world : World) : Spoken syn world.finPacket := ⟨rfl, nofun⟩

/-! ## Calls of the application -/

/-- A task on the receive buffer. -/
theorem onRecvBuffer_uttering {α : Type} {task : Async BlockingBuffer α}
    (htask : task.MovesAlways fun _ _ => True) : Uttering syn (World.onRecvBuffer task) := by
  refine htask.zoom (fun _ _ => rfl) fun world buffer _ => ?_
  exact utters_of_same rfl rfl rfl rfl

/-- `read` sends nothing. -/
theorem read_uttering (size : Nat) : Uttering syn (UtpConn.read size) := by
  have hread : (BlockingBuffer.read size).MovesAlways fun _ _ => True :=
    (BlockingBuffer.read_moves size).mono fun _ _ _ => trivial
  have hlog : ∀ result, Uttering syn (.modify fun world => world.logRead result) := fun _ =>
    .modify fun _ => utters_of_same rfl rfl rfl rfl
  exact (onRecvBuffer_uttering hread).awaited.bind fun result => (hlog result).bind fun _ => .pure

theorem setConnecting_uttering (promise : ConnectPromise) :
    Uttering syn (.modify fun world => world.setConnecting promise) :=
  .modify fun _ => utters_of_same rfl rfl rfl rfl

/-- The first packet of a connection is given. -/
theorem sendHandshake_uttering {packet : UtpPacket} (hpacket : Spoken syn packet) :
    Uttering syn (UtpConn.sendHandshake packet) :=
  .attempt ((send_uttering hpacket).bind fun _ => setConnecting_uttering _)
    fun _ => setConnecting_uttering _

/-- Code that may build packets. -/
abbrev Speaking {α : Type} (syn : UtpPacket) (fins : Bool) (task : ConnM α) : Prop :=
  task.MovesAlways (Speaks syn fins)

theorem Uttering.speaking {α : Type} {task : ConnM α} (htask : task.MovesAlways (Utters syn)) :
    Speaking syn fins task := htask.mono fun _ _ => .utter

/-- The chunks that `write` cuts are never empty and never too long. -/
theorem chunkAt_length {data : Bytes} {offset : Nat} (hoffset : offset < data.length) :
    0 < (UtpConn.chunkAt data offset).length ∧
      (UtpConn.chunkAt data offset).length ≤ UtpConn.chunkSize := by
  have hpos : 0 < UtpConn.chunkSize := by decide
  rw [UtpConn.chunkAt, List.length_take, List.length_drop]
  omega

/-- `writeLoop` builds a data packet for each chunk. -/
theorem writeLoop_speaking (data : Bytes) (rounds offset : Nat) :
    Speaking syn fins (UtpConn.writeLoop data rounds offset) := by
  induction rounds generalizing offset with
  | zero => exact .pure
  | succ rounds ih =>
      unfold UtpConn.writeLoop
      split
      next hoffset =>
        apply Async.MovesAlways.read
        intro world
        obtain ⟨hpos, hfits⟩ := chunkAt_length hoffset
        have hsend : Speaking syn fins (Async.awaited (UtpConn.sendUtpPacket
            (world.dataPacket (UtpConn.chunkAt data offset)))) :=
          Uttering.speaking (sendUtpPacket_uttering (spoken_data _ _)).awaited
        exact ⟨.data _ hpos hfits, (hsend.bind fun _ => .ite (ih _) .throw) _⟩
      next => exact .pure

theorem write_speaking (data : Bytes) : Speaking syn fins (UtpConn.write data) :=
  (writeLoop_speaking _ _ _).bind fun _ => .ite .pure .throw

/-! ## Closing -/

/-- The first FIN is built and sent. -/
theorem fin_speaking {world : World} (hfirst : world.conn.localFinPacket = none) :
    Async.Moves (fun _ _ => True) (Speaks syn true) (fun _ _ => True)
      ((Async.modify World.takeFin).bind fun _ =>
        Async.discard (Async.awaited (UtpConn.sendUtpPacket world.finPacket))) world :=
  ⟨.fin hfirst rfl, Uttering.speaking (send_uttering (spoken_fin world)) _⟩

theorem forceClose_uttering : Uttering syn (Async.modify forceClose) :=
  .modify fun _ => utters_of_same rfl rfl rfl rfl

/-- `trySafeRelease` builds a FIN if there is none yet. -/
theorem trySafeRelease_speaking : Speaking syn true UtpConn.trySafeRelease := by
  have hrelease : Uttering syn (Async.modify World.release) :=
    .modify fun _ => utters_of_same rfl rfl rfl rfl
  apply Async.MovesAlways.read
  intro world
  split
  next => trivial
  next =>
    split
    next => exact Uttering.speaking forceClose_uttering world
    next =>
      split
      next => exact Uttering.speaking forceClose_uttering world
      next =>
        split
        next => trivial
        next =>
          split
          next hfin =>
            rw [Bool.and_eq_true, Option.isNone_iff_eq_none, Option.isNone_iff_eq_none] at hfin
            exact fin_speaking hfin.2
          next => exact Uttering.speaking hrelease world

/-- `close` builds a FIN if there is none yet. -/
theorem close_speaking : Speaking syn true UtpConn.close := by
  have hbegin : Uttering syn (Async.modify beginClose) :=
    .modify fun _ => utters_of_same rfl rfl rfl rfl
  have hpolling : Uttering syn (Async.modify startPolling) :=
    .modify fun _ => utters_of_same rfl rfl rfl rfl
  refine .reads fun world => .ite .pure (.ite .pure (.ite .pure ?_))
  refine (Uttering.speaking hbegin).bind fun _ => .read fun world => ?_
  split
  next => exact Uttering.speaking hpolling world
  next hfin =>
    rw [Bool.not_eq_true, Option.isSome_eq_false_iff, Option.isNone_iff_eq_none] at hfin
    have hsend : Speaking syn true (Async.discard (Async.awaited (UtpConn.sendUtpPacket
        world.finPacket))) := Uttering.speaking (send_uttering (spoken_fin world))
    exact ⟨.fin hfin rfl, (hsend.bind fun _ => Uttering.speaking hpolling) _⟩

/-- The interval of `close` builds a FIN if there is none yet. -/
theorem closePoll_speaking : Speaking syn true UtpConn.closePoll := by
  have hfinish : Speaking syn true (Async.modify finishClose) :=
    Uttering.speaking (.modify fun _ => utters_of_same rfl rfl rfl rfl)
  have hforce : Speaking syn true
    ((Async.modify forceClose).bind fun _ => Async.modify finishClose) :=
    (Uttering.speaking forceClose_uttering).bind fun _ => hfinish
  refine .attempt (.reads fun world => .ite hfinish (.ite hforce ?_)) fun _ => hforce
  exact trySafeRelease_speaking.awaited.bind fun _ => .reads fun world => .ite hfinish .pure

/-- `reset` sends a RESET packet. -/
theorem reset_uttering : Uttering syn UtpConn.reset := by
  have hreset : Uttering syn (Async.modify resetNow) :=
    .modify fun _ => utters_of_same rfl rfl rfl rfl
  refine hreset.bind fun _ => .reads fun world => Async.MovesAlways.detached ?_
  exact sendUtpPacket_uttering ⟨rfl, nofun⟩

/-- The timer's check of an open connection. -/
theorem keepAlive_uttering (world : World) : Uttering syn (if UtpConn.KEEP_ALIVE_INTERVAL <
    world.utp.performanceNow - world.conn.lastLiveTime then
      (Async.discard (Async.awaited (UtpConn.sendUtpPacket world.ackPacket))).bind fun _ =>
        (Async.modify fun now => now.setLastLiveTime world.utp.performanceNow).bind fun _ =>
          Async.awaited UtpSendWindow.timeoutCheck
    else Async.awaited UtpSendWindow.timeoutCheck) := by
  have hresend : Uttering syn (Async.awaited UtpSendWindow.timeoutCheck) :=
    resend_uttering.awaited.awaited
  have hlive : Uttering syn (.modify fun now => now.setLastLiveTime world.utp.performanceNow) :=
    .modify fun _ => utters_of_same rfl rfl rfl rfl
  exact .ite ((send_uttering (spoken_ack world)).bind fun _ => hlive.bind fun _ => hresend) hresend

/-- The timer sends what is due, or lets `trySafeRelease` build the FIN. -/
theorem timeoutCheck_speaking : Speaking syn true UtpConn.timeoutCheck := by
  apply Async.MovesAlways.reads
  intro world
  split
  next => exact .ite (Uttering.speaking forceClose_uttering) .pure
  next => exact Uttering.speaking (keepAlive_uttering world)
  next => exact Uttering.speaking (keepAlive_uttering world)
  next =>
    exact (Uttering.speaking resend_uttering.awaited.awaited).bind fun _ =>
      trySafeRelease_speaking.awaited
  next => exact .pure
  next => exact .pure

/-! ## Receiving -/

/-- Writing to the receive buffer sends nothing. -/
theorem writeRecvBuffer_uttering (data : Bytes) : Uttering syn (UtpConn.writeRecvBuffer data) := by
  have hwrite : (BlockingBuffer.write data).MovesAlways fun _ _ => True :=
    (Async.MovesAlways.modify fun _ => trivial).awaited.bind fun _ => .reads fun buffer =>
      ((BlockingBuffer.resolveReaders_moves _).mono fun _ _ _ => trivial).bind fun _ => .pure
  exact (onRecvBuffer_uttering hwrite).awaited.discard

/-- A pass over the queue sends nothing. -/
theorem processKeys_uttering (keys : List Nat) : Uttering syn (UtpConn.processKeys keys) := by
  induction keys with
  | nil => exact .pure
  | cons seq rest ih =>
      have hadvance : Uttering syn (.modify fun world => world.advanceTo seq) :=
        .modify fun _ => utters_of_same rfl rfl rfl rfl
      refine .reads fun world => .ite ih (hadvance.bind fun _ => ?_)
      split
      next => exact ih
      next packet _ =>
        refine Async.MovesAlways.bind ?_ fun _ => ih
        unfold UtpConn.deliver
        split
        next => exact .pure
        next => exact .ite (.attempt (writeRecvBuffer_uttering _) fun _ => .pure) .pure

theorem processReceivedPackets_uttering : Uttering syn UtpConn.processReceivedPackets :=
  .reads fun _ => processKeys_uttering _

theorem sendAck_uttering : Uttering syn UtpConn.sendAck :=
  .reads fun world => .ite .pure (.attempt (send_uttering (spoken_ack world)) fun _ => .pure)

/-- The answer to a FIN is the own FIN. -/
theorem replyFin_speaking : Speaking syn true UtpConn.replyFin := by
  apply Async.MovesAlways.read
  intro world
  split
  next hfin =>
    rw [Bool.and_eq_true, Option.isNone_iff_eq_none] at hfin
    refine Async.moves_attempt.mpr ((fin_speaking hfin.1).post fun result _ _ => ?_)
    cases result <;> trivial
  next => trivial

/-- A FIN that is taken may be answered. -/
theorem handleFin_speaking (packet : UtpPacket) : Speaking syn true (UtpConn.handleFin packet) := by
  have haccept : Uttering syn (.modify fun world => world.acceptFin packet) :=
    .modify fun _ => utters_of_same rfl rfl rfl rfl
  have hdrain : Uttering syn (Async.modify drain) := .modify fun _ => utters_of_same rfl rfl rfl rfl
  exact (Uttering.speaking haccept).bind fun _ => replyFin_speaking.bind fun _ =>
    (Uttering.speaking hdrain).bind fun _ => trySafeRelease_speaking.awaited

/-- What is received in `CS_CONNECTED` is acknowledged, and a FIN is answered. -/
theorem handleAtConnected_speaking (packet : UtpPacket) :
    Speaking syn true (UtpConn.handleAtConnected packet) := by
  have hpass : Speaking syn true (Async.awaited UtpConn.processReceivedPackets) :=
    Uttering.speaking processReceivedPackets_uttering.awaited
  have hanswer : Speaking syn true (UtpConn.sendAck.bind fun _ => .pure true) :=
    (Uttering.speaking sendAck_uttering).bind fun _ => .pure
  have henqueue : Uttering syn (.modify fun world => world.enqueue packet) :=
    .modify fun _ => utters_of_same rfl rfl rfl rfl
  have hinsert : Speaking syn true (UtpConn.insertPacket packet) :=
    (Uttering.speaking henqueue).bind fun _ => hpass.bind fun _ =>
      .ite ((handleFin_speaking packet).bind fun _ => hanswer) hanswer
  exact .reads fun world => .ite .pure (.ite .pure (.ite .pure
    (.ite (hpass.bind fun _ => hinsert) hinsert)))

/-- The first data packet is acknowledged. -/
theorem handleAtSynReceived_uttering (packet : UtpPacket) :
    Uttering syn (UtpConn.handleAtSynReceived packet) := by
  have hanswer : Uttering syn ((Async.get : ConnM World).bind fun world =>
      (Async.discard (Async.awaited (UtpConn.sendUtpPacket world.ackPacket))).bind fun _ =>
        Async.pure true) :=
    .reads fun world => (send_uttering (spoken_ack world)).bind fun _ => .pure
  have haccept : Uttering syn (.modify fun world => world.acceptFirstData packet.seqNr) :=
    .modify fun _ => utters_of_same rfl rfl rfl rfl
  refine .reads fun world => .ite .pure (.ite .pure (haccept.bind fun _ => ?_))
  split
  next => exact hanswer
  next => exact (writeRecvBuffer_uttering _).bind fun _ => hanswer

theorem awaitHandleAck_uttering (packet : UtpPacket) :
    Uttering syn (UtpConn.awaitHandleAck packet) := by
  have hack : Uttering syn (.modify fun world => world.handleAck packet) :=
    .modify fun _ => utters_of_same rfl rfl rfl rfl
  exact hack.awaited

/-- An initiator's handshake ends without a packet. -/
theorem handleAtSynSent_uttering (packet : UtpPacket) :
    Uttering syn (UtpConn.handleAtSynSent packet) := by
  have haccept : Uttering syn (.modify fun world =>
      world.acceptHandshake (Seq.add packet.seqNr (-1))) :=
    .modify fun _ => utters_of_same rfl rfl rfl rfl
  exact .ite .pure (haccept.bind fun _ => .pure)

/-- The handler of a packet builds nothing but the FIN. -/
theorem handleIncomingPacket_speaking (packet : UtpPacket) :
    Speaking syn true (UtpConn.handleIncomingPacket packet) := by
  have hack : Speaking syn true (UtpConn.awaitHandleAck packet) :=
    Uttering.speaking (awaitHandleAck_uttering packet)
  have hstate : ∀ state, Speaking syn true (UtpConn.handleInState packet state) := by
    intro state
    cases state with
    | CS_SYN_SENT => exact Uttering.speaking (handleAtSynSent_uttering packet).awaited
    | CS_SYN_RECV => exact Uttering.speaking (handleAtSynReceived_uttering packet).awaited
    | CS_CONNECTED => exact (handleAtConnected_speaking packet).awaited
    | CS_CLOSE_WAIT => exact .ite (hack.bind fun _ => .pure) .pure
    | CS_CLOSED => exact .pure
    | CS_RESET => exact .pure
  have hnote : Uttering syn (Async.modify noteHandled) :=
    .modify fun _ => utters_of_same rfl rfl rfl rfl
  have hhandle : Speaking syn true ((Async.get : ConnM World).bind fun world =>
      (UtpConn.handleInState packet world.conn.localState).bind fun handled =>
        if handled = true then (Async.modify noteHandled).bind fun _ => Async.pure handled
        else .pure handled) :=
    .reads fun _ => (hstate _).bind fun _ =>
      .ite ((Uttering.speaking hnote).bind fun _ => .pure) .pure
  exact .ite (hack.bind fun _ => hhandle) hhandle

/-- All code of a connection. -/
theorem spawns_speaking {admits : World → UtpPacket → Prop} {world : World} {label : Label}
    {task : ConnM Unit} (hspawns : Spawns admits world label task) : Speaking syn true task := by
  cases hspawns with
  | receive packet => exact (handleIncomingPacket_speaking packet).discard
  | write data => exact (write_speaking data).discard
  | read size => exact (Uttering.speaking (read_uttering size)).discard
  | close => exact close_speaking
  | closePoll => exact closePoll_speaking
  | reset => exact Uttering.speaking reset_uttering
  | timeoutCheck => exact timeoutCheck_speaking
  | connectTimeout => exact Uttering.speaking (setConnecting_uttering _)

/-! ## A FIN is sent in the turn that builds it -/

/-- Every FIN that was built has been sent, if the socket was open. -/
def Paid (world : World) : Prop :=
  world.utp.state = .CLOSED ∨ ∀ fin, world.conn.localFinPacket = some fin →
    ∃ datagram ∈ world.utp.sent, datagram.packet = fin

/-- Code that builds no FIN owes none. -/
theorem Speaks.paid {world next : World} (hpaid : world.Paid)
    (hspeaks : Speaks syn false world next) :
    next.Paid := by
  cases hspeaks with
  | utter hutters =>
      rcases hpaid with hstate | hsent
      · exact .inl (hutters.state.trans hstate)
      · refine .inr fun fin hfin => ?_
        obtain ⟨datagram, hmem, hpacket⟩ := hsent fin (hutters.localFinPacket.symm.trans hfin)
        refine ⟨datagram, ?_, hpacket⟩
        rcases hutters.sent with hsame | ⟨_, hmore, -⟩
        · exact hsame ▸ hmem
        · exact hmore ▸ List.mem_append_left _ hmem
  | data => exact hpaid
  | fin _ hfins => cases hfins

/-- Code that builds no FIN. -/
theorem Speaking.paid {α : Type} {task : ConnM α} (htask : task.MovesAlways (Speaks syn false)) :
    task.Upholds Paid := by
  have hmove : ∀ world next : World, world.Paid → Speaks syn false world next → next.Paid :=
    fun _ _ => Speaks.paid
  exact .of_always hmove htask

theorem Uttering.paid {α : Type} {task : ConnM α} (htask : task.MovesAlways (Utters syn)) :
    task.Upholds Paid := Speaking.paid (Uttering.speaking htask)

/-- A FIN that is handed to the socket is sent, or the socket is closed. -/
theorem udpSend_paid {world : World} {packet : UtpPacket} (calledIn : Option UtpConnState)
    (remoteAddr : UtpAddr) (hfin : world.conn.localFinPacket = some packet) :
    (UtpSocket.sendUtpPacket calledIn packet remoteAddr).UpholdsFrom Paid world := by
  intro start
  show (ite _ _ _ : ConnM Nat).Meets _ _ start world
  split
  next hstate => exact .inl hstate
  next =>
    have hsent : (world.transmit calledIn packet remoteAddr).Paid := .inr fun fin hother =>
      ⟨_, List.mem_append_right _ List.mem_cons_self, Option.some.inj (hfin.symm.trans hother)⟩
    refine ⟨hsent, trivial, fun later hlater _ _ => ?_⟩
    unfold Async.bind
    cases world.utp.udpSend packet.toBytes remoteAddr with
    | error error => exact hlater
    | ok n =>
        show (ite _ _ _ : ConnM Nat).Meets _ _ later later
        split <;> exact hlater

/-- In the state in which it is built, a FIN need not wait for room in the window. -/
theorem fin_paid {world : World} (hstate : world.conn.localState = .CS_CLOSE_WAIT) :
    ((Async.modify World.takeFin).bind fun _ =>
      Async.discard (Async.awaited (UtpConn.sendUtpPacket world.finPacket))).UpholdsFrom Paid
        world := by
  have hlocalState : world.takeFin.touch.conn.localState = .CS_CLOSE_WAIT := hstate
  have hsend : (UtpConn.sendUtpPacket world.finPacket).UpholdsFrom Paid world.takeFin := by
    show Async.UpholdsFrom Paid (ite _ _ _ : ConnM Nat) world.takeFin.touch
    rw [if_neg (by simp [UtpConn.isClosed, hlocalState])]
    show Async.UpholdsFrom Paid (ite _ _ _ : ConnM Nat) world.takeFin.touch
    rw [if_neg (by simp [UtpConn.isConnected, hlocalState])]
    exact (udpSend_paid _ _ rfl).awaited
  exact hsend.awaited.bind fun _ => .pure

/-- The FIN that `trySafeRelease` builds is sent in the same turn. -/
theorem trySafeRelease_paid : UtpConn.trySafeRelease.Upholds Paid := by
  have hforce : (Async.modify forceClose).Upholds Paid := fun _ hpaid _ => hpaid
  have hrelease : (Async.modify World.release).Upholds Paid := fun _ hpaid _ => hpaid
  apply Async.Upholds.read
  intro world hpaid
  split
  next => exact Async.Upholds.throw world hpaid
  next hstate =>
    split
    next => exact hforce world hpaid
    next =>
      split
      next => exact hforce world hpaid
      next =>
        split
        next => exact Async.Upholds.pure world hpaid
        next =>
          split
          next => exact fin_paid (not_not.mp hstate)
          next => exact hrelease world hpaid

/-- The FIN that `close` builds is sent in the same turn. -/
theorem close_paid : UtpConn.close.Upholds Paid := by
  have hpolling : (Async.modify startPolling).Upholds Paid := fun _ hpaid _ => hpaid
  have hbegun : ∀ world : World, world.Paid → ((Async.get : ConnM World).bind fun world =>
      if world.conn.localFinPacket.isSome then Async.modify startPolling
      else (Async.modify takeFin).bind fun _ =>
        (Async.discard (Async.awaited (UtpConn.sendUtpPacket world.finPacket))).bind fun _ =>
          Async.modify startPolling).UpholdsFrom Paid world.beginClose := by
    intro world hpaid
    show Async.UpholdsFrom Paid (ite _ _ _ : ConnM Unit) world.beginClose
    split
    next => exact hpolling _ hpaid
    next =>
      have hfin := @fin_paid world.beginClose rfl
      exact hfin.bind fun _ => hpolling
  apply Async.Upholds.read
  intro world hpaid
  split
  next => exact Async.Upholds.pure world hpaid
  next =>
    split
    next => exact Async.Upholds.pure world hpaid
    next =>
      split
      next => exact Async.Upholds.pure world hpaid
      next => exact hbegun world hpaid

/-- The FIN that the interval of `close` builds is sent in the same turn. -/
theorem closePoll_paid : UtpConn.closePoll.Upholds Paid := by
  have hfinish : (Async.modify finishClose).Upholds Paid := fun _ hpaid _ => hpaid
  have hforce : ((Async.modify forceClose).bind fun _ => Async.modify finishClose).Upholds Paid :=
    fun _ hpaid _ => hpaid
  refine .attempt (.read fun world hpaid => ?_) fun _ => hforce
  split
  next => exact hfinish world hpaid
  next =>
    split
    next => exact hforce world hpaid
    next =>
      refine (trySafeRelease_paid.awaited world hpaid).bind fun _ => .read fun later hlater => ?_
      split
      next => exact hfinish later hlater
      next => exact Async.Upholds.pure later hlater

/-- The FIN that the timer builds is sent in the same turn. -/
theorem timeoutCheck_paid (syn : UtpPacket) : UtpConn.timeoutCheck.Upholds Paid := by
  have hresend : Uttering syn (Async.awaited UtpSendWindow.timeoutCheck) :=
    resend_uttering.awaited.awaited
  have hforce : (Async.modify forceClose).Upholds Paid := fun _ hpaid _ => hpaid
  apply Async.Upholds.read
  intro world hpaid
  split
  next => exact Async.Upholds.ite hforce .pure world hpaid
  next => exact Uttering.paid (@keepAlive_uttering syn world) world hpaid
  next => exact Uttering.paid (@keepAlive_uttering syn world) world hpaid
  next =>
    exact Async.Upholds.bind (Uttering.paid hresend) (fun _ => trySafeRelease_paid.awaited) world
      hpaid
  next => exact Async.Upholds.pure world hpaid
  next => exact Async.Upholds.pure world hpaid

/-- The answer to a FIN is sent in the turn in which it is built. -/
theorem replyFin_paid {world : World} (hpaid : world.Paid)
    (hstate : world.conn.localState = .CS_CLOSE_WAIT) :
    UtpConn.replyFin.UpholdsFrom Paid world := by
  show Async.UpholdsFrom Paid (ite _ _ _ : ConnM Unit) world
  split
  next => exact (fin_paid hstate).attempt fun _ => .pure
  next => exact Async.Upholds.pure world hpaid

theorem handleFin_paid (packet : UtpPacket) : (UtpConn.handleFin packet).Upholds Paid := by
  have hdrain : (Async.modify drain).Upholds Paid := fun _ hpaid _ => hpaid
  intro world hpaid
  have hreply : UtpConn.replyFin.UpholdsFrom Paid (world.acceptFin packet) :=
    replyFin_paid hpaid rfl
  exact hreply.bind fun _ => hdrain.bind fun _ => trySafeRelease_paid.awaited

theorem handleAtConnected_paid (syn packet : UtpPacket) :
    (UtpConn.handleAtConnected packet).Upholds Paid := by
  have hpass : (Async.awaited UtpConn.processReceivedPackets).Upholds Paid :=
    Uttering.paid (@processReceivedPackets_uttering syn).awaited
  have hanswer : (UtpConn.sendAck.bind fun _ => Async.pure true).Upholds Paid :=
    (Uttering.paid (@sendAck_uttering syn)).bind fun _ => .pure
  have henqueue : (Async.modify fun world => world.enqueue packet).Upholds Paid :=
    fun _ hpaid _ => hpaid
  have hinsert : (UtpConn.insertPacket packet).Upholds Paid :=
    henqueue.bind fun _ => hpass.bind fun _ =>
      .ite ((handleFin_paid packet).bind fun _ => hanswer) hanswer
  refine .read fun world hpaid => Async.Upholds.ite .pure (.ite .pure (.ite .pure ?_)) world hpaid
  exact .ite (hpass.bind fun _ => hinsert) hinsert

/-- The handler of a packet leaves no FIN unsent. -/
theorem handleIncomingPacket_paid (syn packet : UtpPacket) :
    (UtpConn.handleIncomingPacket packet).Upholds Paid := by
  have hack : (UtpConn.awaitHandleAck packet).Upholds Paid :=
    Uttering.paid (@awaitHandleAck_uttering syn packet)
  have hstate : ∀ state, (UtpConn.handleInState packet state).Upholds Paid := by
    intro state
    cases state with
    | CS_SYN_SENT => exact Uttering.paid (@handleAtSynSent_uttering syn packet).awaited
    | CS_SYN_RECV => exact Uttering.paid (@handleAtSynReceived_uttering syn packet).awaited
    | CS_CONNECTED => exact (handleAtConnected_paid syn packet).awaited
    | CS_CLOSE_WAIT => exact .ite (hack.bind fun _ => .pure) .pure
    | CS_CLOSED => exact .pure
    | CS_RESET => exact .pure
  have hnote : (Async.modify noteHandled).Upholds Paid := fun _ hpaid _ => hpaid
  have hhandle : ((Async.get : ConnM World).bind fun world =>
      (UtpConn.handleInState packet world.conn.localState).bind fun handled =>
        if handled = true then (Async.modify noteHandled).bind fun _ => Async.pure handled
        else .pure handled).Upholds Paid :=
    .read fun world hpaid => Async.Upholds.bind (hstate _)
      (fun _ => .ite (hnote.bind fun _ => .pure) .pure) world hpaid
  exact .ite (hack.bind fun _ => hhandle) hhandle

/-- No task leaves a FIN unsent at the end of a turn. -/
theorem spawns_paid (syn : UtpPacket) {admits : World → UtpPacket → Prop} {world : World}
    {label : Label} {task : ConnM Unit} (hspawns : Spawns admits world label task) :
    task.Upholds Paid := by
  cases hspawns with
  | receive packet => exact (handleIncomingPacket_paid syn packet).discard
  | write data => exact (Speaking.paid (@write_speaking syn false data)).discard
  | read size => exact (Uttering.paid (@read_uttering syn size)).discard
  | close => exact close_paid
  | closePoll => exact closePoll_paid
  | reset => exact Uttering.paid (@reset_uttering syn)
  | timeoutCheck => exact timeoutCheck_paid syn
  | connectTimeout => exact Uttering.paid (@setConnecting_uttering syn _)

end World

end Utp
