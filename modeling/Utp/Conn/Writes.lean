import Utp.Conn.System

/-! # What a single write does

Every write of connection code changes the connection's own fields, reports a read, builds a
packet, takes the connection out of the table, or hands a datagram to a socket that is not
closed. Only `read` reports, and only `write` builds packets that carry data.
-/

namespace Utp

namespace World

inductive Writes (reading writing : Bool) (world : World) : World → Prop
  | own (conn : UtpConn) (hreads : conn.reads = world.conn.reads)
      (hcreated : conn.created = world.conn.created)
      (hstate : conn.localState = world.conn.localState) :
      Writes reading writing world { world with conn := conn }
  | enter (conn : UtpConn) (hreads : conn.reads = world.conn.reads)
      (hcreated : conn.created = world.conn.created)
      (hstate : conn.localState = .CS_CONNECTED ∨ conn.localState = .CS_CLOSE_WAIT) :
      Writes reading writing world { world with conn := conn }
  | leave (conn : UtpConn) (hreads : conn.reads = world.conn.reads)
      (hcreated : conn.created = world.conn.created)
      (hstate : conn.localState = .CS_CLOSED ∨ conn.localState = .CS_RESET) :
      Writes reading writing world { world.removeCon with conn := conn }
  | logRead (result : Option Bytes) (hreading : reading = true) :
      Writes reading writing world (world.logRead result)
  | takeFin : Writes reading writing world world.takeFin
  | takeData (packet : UtpPacket) (hwriting : writing = true) :
      Writes reading writing world (world.consumeSeqNr packet)
  | transmit (calledIn : Option UtpConnState) (packet : UtpPacket) (remoteAddr : UtpAddr)
      (hopen : world.utp.state ≠ .CLOSED) :
      Writes reading writing world (world.transmit calledIn packet remoteAddr)

/-- Code that makes no other writes. -/
abbrev Writing (reading writing : Bool) {α : Type} (task : ConnM α) : Prop :=
  task.MovesAlways (Writes reading writing)

variable {reading writing : Bool} {world next : World}

namespace Writes

/-- Only `read` changes the list of reads. -/
theorem reads (hwrites : Writes false writing world next) : next.conn.reads = world.conn.reads := by
  cases hwrites with
  | own conn hreads => exact hreads
  | enter conn hreads => exact hreads
  | leave conn hreads => exact hreads
  | logRead result hreading => cases hreading
  | takeFin => rfl
  | takeData => rfl
  | transmit => rfl

/-- The weakest form: any of the writes. -/
theorem any (hwrites : Writes reading writing world next) : Writes true true world next := by
  cases hwrites with
  | own conn hreads hcreated hstate => exact .own conn hreads hcreated hstate
  | enter conn hreads hcreated hstate => exact .enter conn hreads hcreated hstate
  | leave conn hreads hcreated hstate => exact .leave conn hreads hcreated hstate
  | logRead result => exact .logRead result rfl
  | takeFin => exact .takeFin
  | takeData packet => exact .takeData packet rfl
  | transmit calledIn packet remoteAddr hopen => exact .transmit calledIn packet remoteAddr hopen

/-- Connection code does not change the state of the socket. -/
theorem utpState (hwrites : Writes reading writing world next) :
    next.utp.state = world.utp.state := by
  cases hwrites <;> rfl

/-- Nothing is handed to a closed socket. -/
theorem sent (hwrites : Writes reading writing world next) (hclosed : world.utp.state = .CLOSED) :
    next.utp.sent = world.utp.sent := by
  cases hwrites with
  | transmit _ _ _ hopen => exact absurd hclosed hopen
  | _ => rfl

end Writes

/-! ## Sending -/

/-- Handing a packet to the socket writes what was sent and nothing of the connection. -/
theorem udpSend_writes (calledIn : Option UtpConnState) (packet : UtpPacket)
    (remoteAddr : UtpAddr) :
    Writing reading writing (UtpSocket.sendUtpPacket calledIn packet remoteAddr) := by
  refine .read fun world => ?_
  split
  next => trivial
  next hopen =>
    -- The datagram is handed over in the turn that finds the socket open.
    refine ⟨.transmit calledIn packet remoteAddr hopen, fun _ _ _ => ?_⟩
    split
    next => trivial
    next => split <;> trivial

/-- `waitForAck` registers the packet and hands it to the socket. -/
theorem waitForAck_writes (packet : UtpPacket) (remoteAddr : UtpAddr) :
    Writing reading writing (UtpSendWindow.waitForAck packet remoteAddr) := by
  have hput : ∀ (world : World) (map : BlockingMap Nat UtpPacketWithExtraInfo), True →
      Writes reading writing world (world.setPacketMap map) := fun _ _ _ => .own _ rfl rfl rfl
  exact .reads fun _ => (Async.MovesAlways.any.zoom (fun _ _ => rfl) hput).awaited

/-- What a reliable packet writes: the state, the window and what was sent. -/
theorem sendUtpPacket_writes (packet : UtpPacket) :
    Writing reading writing (UtpConn.sendUtpPacket packet) := by
  refine .bind (.modify fun _ => .own _ rfl rfl rfl) fun _ => .reads fun world => .ite .throw ?_
  have hsend : Writing reading writing (Async.awaited (UtpSocket.sendUtpPacket
      (some world.conn.localState) packet world.conn.remoteAddr)) := (udpSend_writes _ _ _).awaited
  exact .ite ((waitForAck_writes _ _).awaited.bind fun _ => hsend) hsend

/-- The same when the caller drops the error. -/
theorem send_writes (packet : UtpPacket) :
    Writing reading writing (Async.discard (Async.awaited (UtpConn.sendUtpPacket packet))) :=
  (sendUtpPacket_writes packet).awaited.discard

theorem sendHandshake_writes (packet : UtpPacket) :
    Writing reading writing (UtpConn.sendHandshake packet) :=
  .attempt ((send_writes packet).bind fun _ => .modify fun _ => .own _ rfl rfl rfl)
    fun _ => .modify fun _ => .own _ rfl rfl rfl

/-- Waiting for the handshake only settles waiters. -/
theorem waitForConnecting_writes : Writing reading writing UtpConn.waitForConnecting :=
  .reads fun _ => .ite (.modify fun _ => .own _ rfl rfl rfl)
    (.ite (.bind (.modify fun _ => .own _ rfl rfl rfl) fun _ => sendHandshake_writes _)
      (sendHandshake_writes _))

/-- The resend loop writes the window's entries and what is sent again. -/
theorem resendLoop_writes (now : Nat) (seqNrs : List Nat) :
    Writing reading writing (UtpSendWindow.resendLoop now seqNrs) := by
  induction seqNrs with
  | nil => exact .pure
  | cons seqNr rest ih =>
      refine .reads fun world => .bind (.modify fun _ => .own _ rfl rfl rfl) fun _ => ?_
      split
      next => exact ih
      next => exact (udpSend_writes _ _ _).awaited.discard.bind fun _ => ih

theorem windowTimeoutCheck_writes : Writing reading writing UtpSendWindow.timeoutCheck :=
  .awaited (.reads fun _ => resendLoop_writes _ _)

/-- `write()` is the code that enters data. -/
theorem write_writes (data : Bytes) : Writing reading true (UtpConn.write data) := by
  have hloop : ∀ rounds offset, Writing reading true (UtpConn.writeLoop data rounds offset) := by
    intro rounds
    induction rounds with
    | zero => exact fun _ => .pure
    | succ rounds ih =>
        intro offset
        refine .ite (.reads fun _ => .bind (.modify fun _ => .takeData _ rfl) fun _ => ?_) .pure
        exact (sendUtpPacket_writes _).awaited.bind fun _ => .ite (ih _) .throw
  exact (hloop _ _).bind fun _ => .ite .pure .throw

/-- `read()` is the code that takes data. -/
theorem read_writes (size : Nat) : Writing true writing (UtpConn.read size) := by
  have hput : ∀ (world : World) (buffer : BlockingBuffer), True →
      Writes true writing world (world.onConn fun conn => { conn with recvBuffer := buffer }) :=
    fun _ _ _ => .own _ rfl rfl rfl
  exact (Async.MovesAlways.any.zoom (fun _ _ => rfl) hput).awaited.bind fun _ =>
    .bind (.modify fun _ => .logRead _ rfl) fun _ => .pure

/-! ## The ways out -/

/-- The FIN: its number is taken, and it is sent like any reliable packet. -/
theorem sendFin_writes (packet : UtpPacket) :
    Writing reading writing ((Async.modify takeFin).bind fun _ =>
    Async.discard (Async.awaited (UtpConn.sendUtpPacket packet))) :=
  .bind (.modify fun _ => .takeFin) fun _ => send_writes packet

theorem forceClose_writes : Writing reading writing (Async.modify forceClose) :=
  .modify fun _ => .leave _ rfl rfl (.inl rfl)

theorem trySafeRelease_writes : Writing reading writing UtpConn.trySafeRelease :=
  .reads fun _ => .ite .throw (.ite forceClose_writes (.ite forceClose_writes (.ite .pure
    (.ite (sendFin_writes _) (.modify fun _ => .leave _ rfl rfl (.inl rfl))))))

/-- `close` changes the state and may send the FIN. -/
theorem close_writes : Writing reading writing UtpConn.close := by
  have hpolling : Writing reading writing (Async.modify startPolling) :=
    .modify fun _ => .own _ rfl rfl rfl
  refine .reads fun _ => .ite .pure
    (.ite .pure (.ite .pure (.bind (.modify fun _ => .enter _ rfl rfl (.inr rfl))
    fun _ => .reads fun world => .ite hpolling ?_)))
  exact (sendFin_writes _).bind fun _ => hpolling

theorem closePoll_writes : Writing reading writing UtpConn.closePoll := by
  have hfinish : Writing reading writing (Async.modify finishClose) :=
    .modify fun _ => .own _ rfl rfl rfl
  have hforce := (@forceClose_writes reading writing).bind fun _ => hfinish
  exact .attempt (.reads fun _ => .ite hfinish (.ite hforce
    (trySafeRelease_writes.awaited.bind fun _ => .reads fun _ => .ite hfinish .pure)))
    fun _ => hforce

/-- `reset` ends the connection and settles who waits. -/
theorem reset_writes : Writing reading writing UtpConn.reset :=
  .bind (.modify fun _ => .leave _ rfl rfl (.inr rfl)) fun _ =>
    .reads fun _ => (sendUtpPacket_writes _).detached

/-- The connection's timer makes the writes of the window's check and of a release. -/
theorem timeoutCheck_writes : Writing reading writing UtpConn.timeoutCheck := by
  have hopen : ∀ world : World, Writing reading writing (if UtpConn.KEEP_ALIVE_INTERVAL <
      world.utp.performanceNow - world.conn.lastLiveTime then
        (Async.discard (Async.awaited (UtpConn.sendUtpPacket world.ackPacket))).bind fun _ =>
          (Async.modify fun now => now.setLastLiveTime world.utp.performanceNow).bind fun _ =>
            Async.awaited UtpSendWindow.timeoutCheck
      else Async.awaited UtpSendWindow.timeoutCheck) := fun world =>
    .ite ((send_writes _).bind fun _ => .bind (.modify fun _ => .own _ rfl rfl rfl) fun _ =>
      windowTimeoutCheck_writes.awaited) windowTimeoutCheck_writes.awaited
  refine .reads fun world => ?_
  split
  next => exact .ite forceClose_writes .pure
  next => exact hopen world
  next => exact hopen world
  next => exact windowTimeoutCheck_writes.awaited.bind fun _ => trySafeRelease_writes.awaited
  next => exact .pure
  next => exact .pure

/-! ## Receiving -/

/-- Received data is appended to the receive buffer. -/
theorem writeRecvBuffer_writes (data : Bytes) :
    Writing reading writing (UtpConn.writeRecvBuffer data) := by
  have hput : ∀ (world : World) (buffer : BlockingBuffer), True →
      Writes reading writing world (world.onConn fun conn => { conn with recvBuffer := buffer }) :=
    fun _ _ _ => .own _ rfl rfl rfl
  exact (Async.MovesAlways.any.zoom (fun _ _ => rfl) hput).awaited.discard

/-- The pass over the queue moves the position and fills the buffer. -/
theorem processKeys_writes (keys : List Nat) :
    Writing reading writing (UtpConn.processKeys keys) := by
  induction keys with
  | nil => exact .pure
  | cons seq rest ih =>
      refine .reads fun world => .ite ih (.bind (.modify fun _ => .own _ rfl rfl rfl) fun _ => ?_)
      split
      next => exact ih
      next packet _ =>
        refine Async.MovesAlways.bind ?_ fun _ => ih
        unfold UtpConn.deliver
        split
        next => exact .pure
        next => exact .ite (.attempt (writeRecvBuffer_writes _) fun _ => .pure) .pure

theorem processReceivedPackets_writes : Writing reading writing UtpConn.processReceivedPackets :=
  .reads fun _ => processKeys_writes _

theorem sendAck_writes : Writing reading writing UtpConn.sendAck :=
  .reads fun _ => .ite .pure (.attempt (send_writes _) fun _ => .pure)

/-- The handler of a FIN. -/
theorem handleFin_writes (packet : UtpPacket) :
    Writing reading writing (UtpConn.handleFin packet) := by
  have hreply : Writing reading writing UtpConn.replyFin :=
    .reads fun _ => .ite (.attempt (sendFin_writes _) fun _ => .pure) .pure
  exact .bind (.modify fun _ => .enter _ rfl rfl (.inr rfl)) fun _ => hreply.bind fun _ =>
    .bind (.modify fun _ => .own _ rfl rfl rfl) fun _ => trySafeRelease_writes.awaited

/-- The handler of a packet in CS_CONNECTED. -/
theorem handleAtConnected_writes (packet : UtpPacket) :
    Writing reading writing (UtpConn.handleAtConnected packet) := by
  have hanswer : Writing reading writing (UtpConn.sendAck.bind fun _ => .pure true) :=
    sendAck_writes.bind fun _ => .pure
  have hinsert : Writing reading writing (UtpConn.insertPacket packet) :=
    .bind (.modify fun _ => .own _ rfl rfl rfl) fun _ =>
      processReceivedPackets_writes.awaited.bind fun _ =>
        .ite ((handleFin_writes packet).bind fun _ => hanswer) hanswer
  exact .reads fun _ => .ite .pure (.ite .pure (.ite .pure
    (.ite (processReceivedPackets_writes.awaited.bind fun _ => hinsert) hinsert)))

/-- The handler of a packet in CS_SYN_RECV. -/
theorem handleAtSynReceived_writes (packet : UtpPacket) :
    Writing reading writing (UtpConn.handleAtSynReceived packet) := by
  have hanswer : Writing reading writing ((Async.get : ConnM World).bind fun world =>
      (Async.discard (Async.awaited (UtpConn.sendUtpPacket world.ackPacket))).bind fun _ =>
        .pure true) :=
    .reads fun _ => (send_writes _).bind fun _ => .pure
  refine .reads fun _ => .ite .pure
    (.ite .pure (.bind (.modify fun _ => .enter _ rfl rfl (.inl rfl))
    fun _ => ?_))
  split
  next => exact hanswer
  next => exact (writeRecvBuffer_writes _).bind fun _ => hanswer

/-- No packet makes the connection do any other write, whatever the state. -/
theorem handleIncomingPacket_writes (packet : UtpPacket) :
    Writing reading writing (UtpConn.handleIncomingPacket packet) := by
  have hack : Writing reading writing (UtpConn.awaitHandleAck packet) :=
    .awaited (.modify fun _ => .own _ rfl rfl rfl)
  have hstate : ∀ state, Writing reading writing (UtpConn.handleInState packet state) := by
    intro state
    cases state with
    | CS_SYN_SENT =>
        exact .awaited (.ite .pure (.bind (.modify fun _ => .enter _ rfl rfl (.inl rfl))
          fun _ => .pure))
    | CS_SYN_RECV => exact (handleAtSynReceived_writes packet).awaited
    | CS_CONNECTED => exact (handleAtConnected_writes packet).awaited
    | CS_CLOSE_WAIT => exact .ite (hack.bind fun _ => .pure) .pure
    | CS_CLOSED => exact .pure
    | CS_RESET => exact .pure
  have hhandle : Writing reading writing ((Async.get : ConnM World).bind fun world =>
      (UtpConn.handleInState packet world.conn.localState).bind fun handled =>
        if handled = true then (Async.modify noteHandled).bind fun _ => Async.pure handled
        else .pure handled) :=
    .reads fun _ => (hstate _).bind fun _ =>
      .ite (.bind (.modify fun _ => .own _ rfl rfl rfl) fun _ => .pure) .pure
  exact .ite (hack.bind fun _ => hhandle) hhandle

/-- Only `read` reports, and only `write` builds packets with data. -/
theorem spawns_writes {admits : World → UtpPacket → Prop} {world : World} {label : Label}
    {task : ConnM Unit} (hspawns : Spawns admits world label task) :
    Writing (label = .read) (label = .write) task := by
  cases hspawns with
  | receive packet => exact (handleIncomingPacket_writes packet).discard
  | write data => exact (write_writes data).discard
  | read size => exact (read_writes size).discard
  | close => exact close_writes
  | closePoll => exact closePoll_writes
  | reset => exact reset_writes
  | timeoutCheck => exact timeoutCheck_writes
  | connectTimeout => exact .modify fun _ => .own _ rfl rfl rfl

end World

end Utp
