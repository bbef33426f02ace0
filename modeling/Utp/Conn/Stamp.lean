import Utp.Conn.System
import Utp.Foundation.Turns

/-! # Whose packets they are

Everything a connection sends after its SYN bears its send id, and so do the packets
it keeps for retransmission.
-/

namespace Utp

namespace World

variable {sendId : Nat}

/-- What the connection has sent and may send again bears its send id. -/
structure Stamped (sendId : Nat) (world : World) : Prop where
  localSendId : world.conn.localSendId = sendId
  sent : ∀ datagram ∈ world.utp.sent, datagram.packet.connId = sendId
  window : world.window.Every fun _ info => info.packet.connId = sendId

/-- A write that keeps to it. -/
def Stamps (sendId : Nat) (world next : World) : Prop := world.Stamped sendId → next.Stamped sendId

/-- A write that leaves the ids, the window and what was sent as they are. -/
theorem stamps_of_same {world next : World}
    (hsendId : next.conn.localSendId = world.conn.localSendId)
    (hsent : next.utp.sent = world.utp.sent) (hwindow : next.window = world.window) :
    Stamps sendId world next := fun hstamped =>
  ⟨hsendId.trans hstamped.localSendId, hsent ▸ hstamped.sent, hwindow ▸ hstamped.window⟩

/-- Code whose packets, if any, are given. -/
abbrev Stamping {α : Type} (sendId : Nat) (task : ConnM α) : Prop :=
  task.MovesAlways (Stamps sendId)

/-- Code that keeps to the send id at every write does so at the end of a turn. -/
theorem Stamping.upholds {α : Type} {task : ConnM α} (htask : task.MovesAlways (Stamps sendId)) :
    task.Upholds (Stamped sendId) := by
  have hmove : ∀ world next : World, world.Stamped sendId → Stamps sendId world next →
      next.Stamped sendId := fun _ _ hstamped hmove => hmove hstamped
  exact .of_always hmove htask

/-! ## Sending -/

/-- What is handed to the socket must bear the send id. -/
theorem udpSend_stamping {packet : UtpPacket} (hpacket : packet.connId = sendId)
    (calledIn : Option UtpConnState) (remoteAddr : UtpAddr) :
    Stamping sendId (UtpSocket.sendUtpPacket calledIn packet remoteAddr) := by
  have htransmit : Stamping sendId
      (.modify fun world => world.transmit calledIn packet remoteAddr) := by
    refine .modify fun world hstamped => ⟨hstamped.localSendId, ?_, hstamped.window⟩
    intro datagram hdatagram
    rcases List.mem_append.mp hdatagram with hold | hnew
    · exact hstamped.sent datagram hold
    · rw [List.mem_singleton.mp hnew]
      exact hpacket
  refine .reads fun world => .ite .pure (htransmit.bind fun _ => .bind .waitUntil fun _ => ?_)
  split
  next => exact .throw
  next => exact .ite .pure .throw

/-- What enters the window must bear the send id. -/
theorem waitForAck_stamping {packet : UtpPacket} (hpacket : packet.connId = sendId)
    (remoteAddr : UtpAddr) : Stamping sendId (UtpSendWindow.waitForAck packet remoteAddr) := by
  have hset : ∀ (info : UtpPacketWithExtraInfo), info.packet = packet →
      (BlockingMap.set packet.seqNr info).MovesAlways fun before after =>
        before.Every (fun _ info => info.packet.connId = sendId) →
        after.Every fun _ info => info.packet.connId = sendId := by
    intro info hinfo
    have hnew : info.packet.connId = sendId := hinfo ▸ hpacket
    refine .reads fun map => .ite (.modify fun _ hevery => ?_) ?_
    · exact BlockingMap.every_resolveNextSetter
        (BlockingMap.every_put hevery hnew)
    · refine (Async.MovesAlways.modify fun _ hevery => ?_).bind fun _ => .waitUntil
      exact BlockingMap.every_enqueueSetter hevery hnew
  apply Async.MovesAlways.reads
  intro world
  apply Async.MovesAlways.awaited
  refine (hset _ rfl).zoom (fun _ _ => rfl) fun world map hmap hstamped => ?_
  exact ⟨hstamped.localSendId, hstamped.sent, hmap hstamped.window⟩

theorem sendUtpPacket_stamping {packet : UtpPacket} (hpacket : packet.connId = sendId) :
    Stamping sendId (UtpConn.sendUtpPacket packet) := by
  have htouch : Stamping sendId (.modify World.touch) := .modify fun _ => stamps_of_same rfl rfl rfl
  refine htouch.bind fun _ => .reads fun world => .ite .throw ?_
  have hsend := (udpSend_stamping hpacket
    (some world.conn.localState) world.conn.remoteAddr).awaited
  exact .ite ((waitForAck_stamping hpacket _).awaited.bind fun _ => hsend) hsend

theorem send_stamping {packet : UtpPacket} (hpacket : packet.connId = sendId) :
    Stamping sendId (Async.discard (Async.awaited (UtpConn.sendUtpPacket packet))) :=
  (sendUtpPacket_stamping hpacket).awaited.discard

/-- What is sent again bears the send id already. -/
theorem Stamped.resendOne {world : World} (hstamped : world.Stamped sendId) (now seqNr : Nat) :
    (world.setWindow (world.conn.sendWindow.resendOne now seqNr).1).Stamped sendId := by
  refine ⟨hstamped.localSendId, hstamped.sent, ?_⟩
  refine UtpSendWindow.resendOne_preserves _ now seqNr
    (fun map info _ _ h => BlockingMap.every_delete seqNr h)
    (fun map capacity _ h => BlockingMap.every_updateCapacity capacity h)
    (fun info resendTimes sentTime hinfo => ?_) hstamped.window
  exact BlockingMap.every_update hstamped.window
    (hstamped.window.present (seqNr, info) (OrderedMap.get?_eq_some.mp hinfo))

theorem resendLoop_stamped (now : Nat) (seqNrs : List Nat) :
    (UtpSendWindow.resendLoop now seqNrs).Upholds (Stamped sendId) := by
  induction seqNrs with
  | nil => exact .pure
  | cons seqNr rest ih =>
      have hresend : (Async.modify fun world : World =>
          world.setWindow (world.conn.sendWindow.resendOne now seqNr).1).Upholds
            (Stamped sendId) := .modify fun world hstamped => hstamped.resendOne now seqNr
      refine .read fun world hstamped => (hresend world hstamped).bind fun _ => ?_
      split
      next => exact ih
      next again hagain =>
        have hpacket : again.packet.connId = sendId :=
          (hstamped.resendOne now seqNr).window.present (seqNr, again)
            (OrderedMap.get?_eq_some.mp (UtpSendWindow.resendOne_again hagain))
        have hsend : Stamping sendId (Async.discard (Async.awaited
            (UtpSocket.sendUtpPacket none again.packet again.remoteAddr))) :=
          (udpSend_stamping hpacket none again.remoteAddr).awaited.discard
        exact (Stamping.upholds hsend).bind fun _ => ih

theorem windowTimeoutCheck_stamped : (Async.awaited UtpSendWindow.timeoutCheck).Upholds
    (Stamped sendId) :=
  (Async.Upholds.read fun world hstamped => resendLoop_stamped _ _ world hstamped).awaited.awaited

/-! ## The application and the timers -/

theorem onRecvBuffer_stamping {α : Type} {task : Async BlockingBuffer α}
    (htask : task.MovesAlways fun _ _ => True) : Stamping sendId (World.onRecvBuffer task) := by
  refine htask.zoom (fun _ _ => rfl) fun world buffer _ => ?_
  exact stamps_of_same rfl rfl rfl

theorem read_stamping (size : Nat) : Stamping sendId (UtpConn.read size) := by
  have hread : (BlockingBuffer.read size).MovesAlways fun _ _ => True :=
    (BlockingBuffer.read_moves size).mono fun _ _ _ => trivial
  have hlog : ∀ result, Stamping sendId (.modify fun world => world.logRead result) := fun _ =>
    .modify fun _ => stamps_of_same rfl rfl rfl
  exact (onRecvBuffer_stamping hread).awaited.bind fun result => (hlog result).bind fun _ => .pure

theorem setConnecting_stamping (promise : ConnectPromise) :
    Stamping sendId (.modify fun world => world.setConnecting promise) :=
  .modify fun _ => stamps_of_same rfl rfl rfl

theorem sendHandshake_stamping {packet : UtpPacket} (hpacket : packet.connId = sendId) :
    Stamping sendId (UtpConn.sendHandshake packet) :=
  .attempt ((send_stamping hpacket).bind fun _ => setConnecting_stamping _)
    fun _ => setConnecting_stamping _

/-- A data packet is built with the send id. -/
theorem writeLoop_stamped (data : Bytes) (rounds offset : Nat) :
    (UtpConn.writeLoop data rounds offset).Upholds (Stamped sendId) := by
  induction rounds generalizing offset with
  | zero => exact .pure
  | succ rounds ih =>
      unfold UtpConn.writeLoop
      split
      next =>
        refine .read fun world hstamped => ?_
        have hsend : Stamping sendId (Async.awaited (UtpConn.sendUtpPacket
            (world.dataPacket (UtpConn.chunkAt data offset)))) :=
          (sendUtpPacket_stamping hstamped.localSendId).awaited
        have htake : Stamping sendId (.modify fun later : World =>
            later.consumeSeqNr (world.dataPacket (UtpConn.chunkAt data offset))) :=
          .modify fun _ => stamps_of_same rfl rfl rfl
        exact ((Stamping.upholds htake).bind fun _ => (Stamping.upholds hsend).bind fun _ =>
          .ite (ih _) .throw) world hstamped
      next => exact .pure

theorem write_stamped (data : Bytes) : (UtpConn.write data).Upholds (Stamped sendId) :=
  (writeLoop_stamped _ _ _).bind fun _ => .ite .pure .throw

/-- The FIN is built and sent. -/
theorem fin_stamped {world : World} (hstamped : world.Stamped sendId) :
    ((Async.modify World.takeFin).bind fun _ =>
      Async.discard (Async.awaited (UtpConn.sendUtpPacket world.finPacket))).Upholds
        (Stamped sendId) := by
  have htake : Stamping sendId (Async.modify World.takeFin) :=
    .modify fun _ => stamps_of_same rfl rfl rfl
  have hsend : Stamping sendId (Async.discard (Async.awaited (UtpConn.sendUtpPacket
      world.finPacket))) := send_stamping hstamped.localSendId
  exact Stamping.upholds (htake.bind fun _ => hsend)

theorem forceClose_stamped : (Async.modify forceClose).Upholds (Stamped sendId) :=
  Stamping.upholds (.modify fun _ => stamps_of_same rfl rfl rfl)

/-- The FIN is built with the send id. -/
theorem trySafeRelease_stamped : UtpConn.trySafeRelease.Upholds (Stamped sendId) := by
  have hrelease : (Async.modify World.release).Upholds (Stamped sendId) :=
    Stamping.upholds (.modify fun _ => stamps_of_same rfl rfl rfl)
  exact .read fun world hstamped => Async.Upholds.ite .throw (.ite forceClose_stamped
    (.ite forceClose_stamped (.ite .pure (.ite (fin_stamped hstamped) hrelease)))) world hstamped

theorem close_stamped : UtpConn.close.Upholds (Stamped sendId) := by
  have hpolling : (Async.modify startPolling).Upholds (Stamped sendId) :=
    Stamping.upholds (.modify fun _ => stamps_of_same rfl rfl rfl)
  have hbegin : (Async.modify beginClose).Upholds (Stamped sendId) :=
    Stamping.upholds (.modify fun _ => stamps_of_same rfl rfl rfl)
  refine .read fun world hstamped => Async.Upholds.ite .pure (.ite .pure (.ite .pure ?_)) world
    hstamped
  refine hbegin.bind fun _ => .read fun begun hbegun => ?_
  have hfin := (fin_stamped hbegun).bind fun _ => hpolling
  rw [Async.bind_assoc] at hfin
  exact Async.Upholds.ite hpolling hfin begun hbegun

theorem closePoll_stamped : UtpConn.closePoll.Upholds (Stamped sendId) := by
  have hfinish : (Async.modify finishClose).Upholds (Stamped sendId) :=
    Stamping.upholds (.modify fun _ => stamps_of_same rfl rfl rfl)
  have hforce : ((Async.modify forceClose).bind fun _ => Async.modify finishClose).Upholds
      (Stamped sendId) := forceClose_stamped.bind fun _ => hfinish
  refine .attempt (.read fun world => Async.Upholds.ite hfinish (.ite hforce ?_) world)
    fun _ => hforce
  exact trySafeRelease_stamped.awaited.bind fun _ => .read fun later =>
    Async.Upholds.ite hfinish .pure later

/-- A reset forgets the window, and nothing new enters it. -/
theorem Stamped.resetNow {world : World} (hstamped : world.Stamped sendId) :
    world.resetNow.Stamped sendId := by
  refine ⟨hstamped.localSendId, hstamped.sent, ?_⟩
  exact UtpSendWindow.reset_preserves _ (fun map h => BlockingMap.every_clear h)
    (fun map capacity _ h => BlockingMap.every_updateCapacity capacity h) hstamped.window

theorem reset_stamped : UtpConn.reset.Upholds (Stamped sendId) := by
  have hreset : (Async.modify World.resetNow).Upholds (Stamped sendId) :=
    .modify fun _ hstamped => hstamped.resetNow
  refine hreset.bind fun _ => .read fun world hstamped => Async.UpholdsFrom.detached ?_
  exact Stamping.upholds (sendUtpPacket_stamping hstamped.localSendId) world hstamped

/-- The timer's check of an open connection. -/
theorem keepAlive_stamped {world : World} (hstamped : world.Stamped sendId) :
    (if UtpConn.KEEP_ALIVE_INTERVAL < world.utp.performanceNow - world.conn.lastLiveTime then
      (Async.discard (Async.awaited (UtpConn.sendUtpPacket world.ackPacket))).bind fun _ =>
        (Async.modify fun now => now.setLastLiveTime world.utp.performanceNow).bind fun _ =>
          Async.awaited UtpSendWindow.timeoutCheck
    else Async.awaited UtpSendWindow.timeoutCheck).Upholds (Stamped sendId) := by
  have hsend : Stamping sendId (Async.discard (Async.awaited (UtpConn.sendUtpPacket
      world.ackPacket))) := send_stamping hstamped.localSendId
  have hlive : Stamping sendId (.modify fun now =>
      now.setLastLiveTime world.utp.performanceNow) := .modify fun _ => stamps_of_same rfl rfl rfl
  exact .ite ((Stamping.upholds hsend).bind fun _ => (Stamping.upholds hlive).bind fun _ =>
    windowTimeoutCheck_stamped) windowTimeoutCheck_stamped

/-- A keep-alive is built with the send id. -/
theorem timeoutCheck_stamped : UtpConn.timeoutCheck.Upholds (Stamped sendId) := by
  apply Async.Upholds.read
  intro world hstamped
  split
  next => exact Async.Upholds.ite forceClose_stamped .pure world hstamped
  next => exact keepAlive_stamped hstamped world hstamped
  next => exact keepAlive_stamped hstamped world hstamped
  next =>
    exact (windowTimeoutCheck_stamped.bind fun _ => trySafeRelease_stamped.awaited) world hstamped
  next => exact Async.Upholds.pure world hstamped
  next => exact Async.Upholds.pure world hstamped

/-! ## Receiving -/

theorem writeRecvBuffer_stamping (data : Bytes) :
    Stamping sendId (UtpConn.writeRecvBuffer data) := by
  have hwrite : (BlockingBuffer.write data).MovesAlways fun _ _ => True :=
    (Async.MovesAlways.modify fun _ => trivial).awaited.bind fun _ => .reads fun buffer =>
      ((BlockingBuffer.resolveReaders_moves _).mono fun _ _ _ => trivial).bind fun _ => .pure
  exact (onRecvBuffer_stamping hwrite).awaited.discard

/-- A pass over the queue sends nothing. -/
theorem processKeys_stamping (keys : List Nat) : Stamping sendId (UtpConn.processKeys keys) := by
  induction keys with
  | nil => exact .pure
  | cons seq rest ih =>
      have hadvance : Stamping sendId (.modify fun world => world.advanceTo seq) :=
        .modify fun _ => stamps_of_same rfl rfl rfl
      refine .reads fun world => .ite ih (hadvance.bind fun _ => ?_)
      split
      next => exact ih
      next packet _ =>
        refine Async.MovesAlways.bind ?_ fun _ => ih
        unfold UtpConn.deliver
        split
        next => exact .pure
        next => exact .ite (.attempt (writeRecvBuffer_stamping _) fun _ => .pure) .pure

theorem processReceivedPackets_stamped :
    (Async.awaited UtpConn.processReceivedPackets).Upholds (Stamped sendId) :=
  (Async.Upholds.read fun world hstamped =>
    Stamping.upholds (processKeys_stamping _) world hstamped).awaited

/-- An acknowledgement of the present state. -/
theorem ack_stamped {world : World} (hstamped : world.Stamped sendId) :
    (Async.discard (Async.awaited (UtpConn.sendUtpPacket world.ackPacket))).Upholds
      (Stamped sendId) := Stamping.upholds (send_stamping hstamped.localSendId)

theorem sendAck_stamped : UtpConn.sendAck.Upholds (Stamped sendId) :=
  .read fun world hstamped => Async.Upholds.ite .pure
    (.attempt (ack_stamped hstamped) fun _ => .pure) world hstamped

theorem replyFin_stamped : UtpConn.replyFin.Upholds (Stamped sendId) :=
  .read fun world hstamped => Async.Upholds.ite
    (.attempt (fin_stamped hstamped) fun _ => .pure) .pure world hstamped

/-- The answer to a FIN bears the send id. -/
theorem handleFin_stamped (packet : UtpPacket) :
    (UtpConn.handleFin packet).Upholds (Stamped sendId) := by
  have haccept : Stamping sendId (.modify fun world => world.acceptFin packet) :=
    .modify fun _ => stamps_of_same rfl rfl rfl
  have hdrain : Stamping sendId (Async.modify drain) := .modify fun _ => stamps_of_same rfl rfl rfl
  exact (Stamping.upholds haccept).bind fun _ => replyFin_stamped.bind fun _ =>
    (Stamping.upholds hdrain).bind fun _ => trySafeRelease_stamped.awaited

/-- What answers a packet bears the send id. -/
theorem handleAtConnected_stamped (packet : UtpPacket) :
    (UtpConn.handleAtConnected packet).Upholds (Stamped sendId) := by
  have hanswer : (UtpConn.sendAck.bind fun _ => .pure true).Upholds (Stamped sendId) :=
    sendAck_stamped.bind fun _ => .pure
  have henqueue : Stamping sendId (.modify fun world => world.enqueue packet) :=
    .modify fun _ => stamps_of_same rfl rfl rfl
  have hinsert : (UtpConn.insertPacket packet).Upholds (Stamped sendId) :=
    (Stamping.upholds henqueue).bind fun _ => processReceivedPackets_stamped.bind fun _ =>
      .ite ((handleFin_stamped packet).bind fun _ => hanswer) hanswer
  exact .read fun world => Async.Upholds.ite .pure (.ite .pure (.ite .pure
    (.ite (processReceivedPackets_stamped.bind fun _ => hinsert) hinsert))) world

theorem handleAtSynReceived_stamped (packet : UtpPacket) :
    (UtpConn.handleAtSynReceived packet).Upholds (Stamped sendId) := by
  have hanswer : ((Async.get : ConnM World).bind fun world =>
      (Async.discard (Async.awaited (UtpConn.sendUtpPacket world.ackPacket))).bind fun _ =>
        Async.pure true).Upholds (Stamped sendId) :=
    .read fun world hstamped => ((ack_stamped hstamped).bind fun _ => .pure) world hstamped
  have haccept : Stamping sendId (.modify fun world => world.acceptFirstData packet.seqNr) :=
    .modify fun _ => stamps_of_same rfl rfl rfl
  refine .read fun world => Async.Upholds.ite .pure (.ite .pure
    ((Stamping.upholds haccept).bind fun _ => ?_)) world
  split
  next => exact hanswer
  next => exact (Stamping.upholds (writeRecvBuffer_stamping _)).bind fun _ => hanswer

/-- An acknowledgement lets in only what waited. -/
theorem Stamped.handleAck {world : World} (hstamped : world.Stamped sendId) (packet : UtpPacket) :
    (world.handleAck packet).Stamped sendId := by
  refine ⟨hstamped.localSendId, hstamped.sent, ?_⟩
  exact UtpSendWindow.handleAck_preserves _ _ packet
    (fun map seqNr _ h => BlockingMap.every_delete seqNr h)
    (fun map capacity _ h => BlockingMap.every_updateCapacity capacity h) hstamped.window

theorem awaitHandleAck_stamped (packet : UtpPacket) :
    (UtpConn.awaitHandleAck packet).Upholds (Stamped sendId) := by
  have hack : (Async.modify fun world : World => world.handleAck packet).Upholds (Stamped sendId) :=
    .modify fun _ hstamped => hstamped.handleAck packet
  exact hack.awaited

theorem handleAtSynSent_stamping (packet : UtpPacket) :
    Stamping sendId (UtpConn.handleAtSynSent packet) := by
  have haccept : Stamping sendId (.modify fun world =>
      world.acceptHandshake (Seq.add packet.seqNr (-1))) :=
    .modify fun _ => stamps_of_same rfl rfl rfl
  exact .ite .pure (haccept.bind fun _ => .pure)

theorem handleIncomingPacket_stamped (packet : UtpPacket) :
    (UtpConn.handleIncomingPacket packet).Upholds (Stamped sendId) := by
  have hack : (UtpConn.awaitHandleAck packet).Upholds (Stamped sendId) :=
    awaitHandleAck_stamped packet
  have hstate : ∀ state, (UtpConn.handleInState packet state).Upholds (Stamped sendId) := by
    intro state
    cases state with
    | CS_SYN_SENT => exact (Stamping.upholds (handleAtSynSent_stamping packet)).awaited
    | CS_SYN_RECV => exact (handleAtSynReceived_stamped packet).awaited
    | CS_CONNECTED => exact (handleAtConnected_stamped packet).awaited
    | CS_CLOSE_WAIT => exact .ite (hack.bind fun _ => .pure) .pure
    | CS_CLOSED => exact .pure
    | CS_RESET => exact .pure
  have hnote : Stamping sendId (Async.modify noteHandled) :=
    .modify fun _ => stamps_of_same rfl rfl rfl
  have hhandle : ((Async.get : ConnM World).bind fun world =>
      (UtpConn.handleInState packet world.conn.localState).bind fun handled =>
        if handled = true then (Async.modify noteHandled).bind fun _ => Async.pure handled
        else .pure handled).Upholds (Stamped sendId) :=
    .read fun world hstamped => Async.Upholds.bind (hstate _)
      (fun _ => .ite ((Stamping.upholds hnote).bind fun _ => .pure) .pure) world hstamped
  exact .ite (hack.bind fun _ => hhandle) hhandle

/-! ## Runs -/

/-- All code of a connection but its start. -/
theorem spawns_stamped {admits : World → UtpPacket → Prop} {world : World} {label : Label}
    {task : ConnM Unit} (hspawns : Spawns admits world label task) :
    task.Upholds (Stamped sendId) := by
  cases hspawns with
  | receive packet => exact (handleIncomingPacket_stamped packet).discard
  | write data => exact (write_stamped data).discard
  | read size => exact Stamping.upholds (read_stamping size).discard
  | close => exact close_stamped
  | closePoll => exact closePoll_stamped
  | reset => exact reset_stamped
  | timeoutCheck => exact timeoutCheck_stamped
  | connectTimeout => exact Stamping.upholds (setConnecting_stamping _)

/-- Whatever the tasks do, all that is sent bears the send id. -/
theorem connSystem_stamped (labels : Label → Prop) (admits : World → UtpPacket → Prop) :
    (Async.turns (Stamped sendId)).Sound (connSystem labels admits) := by
  refine Async.turns_sound (fun world label task hstamped hspawn => ?_)
    fun world next hstamped henv => ?_
  · exact spawns_stamped hspawn.2 world hstamped
  · refine stamps_of_same ?_ henv.sent ?_ hstamped
    · rw [henv.conn]
    · rw [window, henv.conn, ← window]

/-- In every run of a responder, everything it has sent bears its send id. -/
theorem responder_stamped {self : Nat} {utp : UtpSocket} {remoteAddr : UtpAddr}
    {sendId recvId seqNr ackNr : Nat} {labels : Label → Prop} {admits : World → UtpPacket → Prop}
    {config : Async.Config World Label} (hrun : (connSystem labels admits).Reachable
      (connectTo self utp false remoteAddr sendId recvId seqNr ackNr) config) :
    config.state.Stamped sendId := by
  have hsent : (begun self utp false remoteAddr sendId recvId seqNr ackNr).utp.sent = [] := rfl
  have hbegun : (begun self utp false remoteAddr sendId recvId seqNr ackNr).Stamped sendId :=
    ⟨rfl, by simp [hsent], BlockingMap.every_create _ _⟩
  rw [connectTo_responder] at hrun
  apply (connSystem_stamped labels admits).upheld hbegun _ hrun
  have hanswer : Stamping sendId (UtpConn.sendHandshake (.createAckPacket
      (create self utp false remoteAddr sendId recvId seqNr ackNr).conn
      utp.currentMicroseconds none)) :=
    sendHandshake_stamping rfl
  exact Stamping.upholds hanswer _ hbegun

end World

end Utp
