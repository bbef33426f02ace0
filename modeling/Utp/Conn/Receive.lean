import Utp.Conn.Close

/-! # Receiving

What a connection does with a packet the socket hands to it: acknowledge its
window, go through the handshake, put data and FIN into order, and answer.
-/

namespace Utp

namespace World

/-- `this.sendWindow.handleAck(packet)` -/
def handleAck (world : World) (ackPacket : UtpPacket) : World :=
  world.setWindow (world.conn.sendWindow.handleAck world.utp.dateNow ackPacket)

/-- The acknowledgement number is assigned, not advanced. -/
def acceptHandshake (world : World) (ackNr : Nat) : World :=
  (world.onConn fun conn => conn.setLocalAckNr ackNr).setLocalState .CS_CONNECTED

/-- As `acceptHandshake`, by a data packet. -/
def acceptFirstData (world : World) (seqNr : Nat) : World :=
  (world.acceptHandshake seqNr).onConn fun conn => { conn with advanced := conn.advanced + 1 }

def enqueue (world : World) (packet : UtpPacket) : World :=
  world.onConn fun conn =>
    { conn with recvPacketQueue := conn.recvPacketQueue.enqueue packet.seqNr packet }

/-- `this.localAckNr = seq`, and the packet under that number leaves the queue. -/
def advanceTo (world : World) (seq : Nat) : World :=
  world.onConn fun conn =>
    { conn.setLocalAckNr seq with
      recvPacketQueue := (conn.recvPacketQueue.dequeueByKey seq).2
      advanced := conn.advanced + 1 }

/-- `this.#remoteFinPacket = packet`, and the state changes to close-wait. -/
def acceptFin (world : World) (packet : UtpPacket) : World :=
  (world.onConn fun conn => { conn with remoteFinPacket := some packet }).setLocalState
    .CS_CLOSE_WAIT

def noteHandled (world : World) : World :=
  world.onConn fun conn =>
    { conn with lastPacketTimestampMicroseconds := some world.utp.currentMicroseconds }

end World

namespace UtpConn

/-- `await this.recvBuffer.write(data)` -/
def writeRecvBuffer (data : Bytes) : ConnM Unit :=
  Async.discard (Async.awaited (World.onRecvBuffer (BlockingBuffer.write data)))

/-! ## The reorder queue -/

/-- The payload of a packet that left the queue goes to the receive buffer. -/
def deliver (packet : UtpPacket) : ConnM Unit :=
  match packet.data with
  | none => pure ()
  | some data =>
      if packet.type = .ST_DATA then
        Async.attempt (writeRecvBuffer data) fun _ => pure ()
      else pure ()

/-- The loop of `processReceivedPackets` over the keys it found at its start. -/
def processKeys : List Nat → ConnM Unit
  | [] => pure ()
  | seq :: rest => do
      let world ← .get
      if Seq.add world.conn.localAckNr 1 ≠ seq then processKeys rest
      else do
        .modify fun world => world.advanceTo seq
        match (world.conn.recvPacketQueue.dequeueByKey seq).1 with
        | none => processKeys rest
        | some packet => do
            deliver packet
            processKeys rest

def processReceivedPackets : ConnM Unit := do
  let world ← .get
  processKeys world.conn.recvPacketQueue.keys

/-! ## The states -/

def handleAtSynSent (packet : UtpPacket) : ConnM Bool :=
  if packet.type ≠ .ST_STATE then pure false
  else do
    .modify fun world => world.acceptHandshake (Seq.add packet.seqNr (-1))
    pure true

def handleAtSynReceived (packet : UtpPacket) : ConnM Bool := do
  let world ← .get
  if packet.type ≠ .ST_DATA then pure false
  else if packet.ackNr ≠ Seq.add world.conn.localSeqNr (-1) then pure false
  else do
    .modify fun world => world.acceptFirstData packet.seqNr
    match packet.data with
    | none => pure ()
    | some data => writeRecvBuffer data
    let world ← .get
    Async.discard (Async.awaited (sendUtpPacket world.ackPacket))
    pure true

/-- A reply to a remote FIN; its failure is only logged. -/
def replyFin : ConnM Unit := do
  let world ← .get
  if world.conn.localFinPacket.isNone && !world.conn.isClosed then
    Async.attempt
      (do
        .modify World.takeFin
        Async.discard (Async.awaited (sendUtpPacket world.finPacket)))
      fun _ => pure ()
  else pure ()

/-- The branch of `handleAtConnected` for a FIN. -/
def handleFin (packet : UtpPacket) : ConnM Unit := do
  .modify fun world => world.acceptFin packet
  replyFin
  .modify World.drain
  Async.awaited trySafeRelease

/-- The acknowledgement at the end of `handleAtConnected`. -/
def sendAck : ConnM Unit := do
  let world ← .get
  if world.conn.isClosed then pure ()
  else
    Async.attempt (Async.discard (Async.awaited (sendUtpPacket world.ackPacket)))
      fun _ => pure ()

/-- The tests in front of the reorder queue: the packet is a repetition of the
last one, or lies behind the peer's FIN. -/
def isRefused (conn : UtpConn) (packet : UtpPacket) : Bool :=
  decide (packet.seqNr = conn.localAckNr) ||
    conn.remoteFinPacket.any fun fin => Seq.gt packet.seqNr fin.seqNr

/-- What `handleAtConnected` does from the enqueue on. `enqueue` never fails, so
the `catch` around it has nothing to catch. -/
def insertPacket (packet : UtpPacket) : ConnM Bool := do
  .modify fun world => world.enqueue packet
  Async.awaited processReceivedPackets
  if packet.type = .ST_FIN then handleFin packet else pure ()
  sendAck
  pure true

def handleAtConnected (packet : UtpPacket) : ConnM Bool := do
  let world ← .get
  if world.conn.isClosed then pure false
  else if packet.type ≠ .ST_FIN ∧ packet.type ≠ .ST_DATA then pure false
  else if world.conn.isRefused packet then pure false
  else do
    if world.conn.recvPacketQueue.capacity ≤ world.conn.recvPacketQueue.size then
      Async.awaited processReceivedPackets
    else pure ()
    insertPacket packet

/-! ## Incoming packets -/

/-- `await this.sendWindow.handleAck(packet)` -/
def awaitHandleAck (packet : UtpPacket) : ConnM Unit :=
  Async.awaited (.modify fun world => world.handleAck packet)

def handleInState (packet : UtpPacket) : UtpConnState → ConnM Bool
  | .CS_SYN_SENT => Async.awaited (handleAtSynSent packet)
  | .CS_SYN_RECV => Async.awaited (handleAtSynReceived packet)
  | .CS_CONNECTED => Async.awaited (handleAtConnected packet)
  | .CS_CLOSE_WAIT =>
      if packet.type = .ST_STATE then do
        awaitHandleAck packet
        pure true
      else pure false
  | .CS_CLOSED | .CS_RESET => pure false

def handleIncomingPacket (packet : UtpPacket) : ConnM Bool := do
  if packet.type = .ST_STATE then awaitHandleAck packet else pure ()
  let world ← .get
  let handled ← handleInState packet world.conn.localState
  if handled then .modify World.noteHandled else pure ()
  pure handled

end UtpConn

end Utp
