import Utp.Conn.State

/-! # Sending and retransmission

The methods of a connection that put packets on the wire, as tasks on the
world. A call that is awaited is `awaited`; what stands between two awaits of
the source is one turn here.
-/

namespace Utp

/-- Code of one connection. -/
abbrev ConnM := Async World

namespace World

/-- `conn.recvBuffer` as a part of the world. -/
def onRecvBuffer {α : Type} (task : Async BlockingBuffer α) : ConnM α :=
  task.zoom (fun world => world.conn.recvBuffer) fun world buffer =>
    world.onConn fun conn => { conn with recvBuffer := buffer }

def setPacketMap (world : World) (map : BlockingMap Nat UtpPacketWithExtraInfo) : World :=
  world.onConn fun conn => { conn with sendWindow := { conn.sendWindow with packetMap := map } }

/-- The send window's `packetMap` as a part of the world. -/
def onPacketMap {α : Type} (task : Async (BlockingMap Nat UtpPacketWithExtraInfo) α) : ConnM α :=
  task.zoom (fun world => world.conn.sendWindow.packetMap) setPacketMap

/-- `this.lastLiveTime = performance.now()` -/
def touch (world : World) : World :=
  world.onConn fun conn => { conn with lastLiveTime := world.utp.performanceNow }

def setLastLiveTime (world : World) (now : Nat) : World :=
  world.onConn fun conn => { conn with lastLiveTime := now }

def consumeSeqNr (world : World) (packet : UtpPacket) : World :=
  world.onConn fun conn => conn.consumeSeqNr packet

def setWindow (world : World) (window : UtpSendWindow) : World :=
  world.onConn fun conn => { conn with sendWindow := window }

def setConnecting (world : World) (promise : ConnectPromise) : World :=
  world.onConn fun conn => { conn with connecting := promise }

/-- An acknowledgement of the present state, with the received numbers. -/
def ackPacket (world : World) : UtpPacket :=
  .createAckPacket world.conn world.utp.currentMicroseconds
    (UtpSelectiveAckExtension.createFromConn world.conn)

def dataPacket (world : World) (data : Bytes) : UtpPacket :=
  .createDataPacket world.conn world.utp.currentMicroseconds data

def finPacket (world : World) : UtpPacket :=
  .createFinPacket world.conn world.utp.currentMicroseconds

/-- `this.#localFinPacket = UtpPacket.createFinPacket(this)` -/
def takeFin (world : World) : World :=
  (world.consumeSeqNr world.finPacket).onConn fun conn =>
    { conn with localFinPacket := some world.finPacket }

/-- The SYN goes on record and consumes a sequence number. -/
def takeSyn (world : World) : World :=
  world.onConn fun conn =>
    { conn with
      localSynPacket := some (.createSynPacket conn world.utp.currentMicroseconds)
      localSeqNr := (conn.localSeqNr + 1) % 65536 }

def logRead (world : World) (result : Option Bytes) : World :=
  world.onConn fun conn => { conn with reads := conn.reads ++ [result] }

end World

/-! ## The UDP socket -/

/-- `Utp.sendUtpPacket`. `calledIn` only labels the datagram. -/
def UtpSocket.sendUtpPacket (calledIn : Option UtpConnState) (outgoingPacket : UtpPacket)
    (remoteAddr : UtpAddr) : ConnM Nat := do
  let world ← .get
  if world.utp.state = .CLOSED then pure 0
  else do
    .modify fun world => world.transmit calledIn outgoingPacket remoteAddr
    .waitUntil fun _ => true
    match world.utp.udpSend outgoingPacket.toBytes remoteAddr with
    | .error error => .throw error
    | .ok n =>
        if n = outgoingPacket.toBytes.length then pure n
        else .throw "UDP:发送的数据包长度与实际发送的数据包长度不一致"

/-! ## The send window's asynchronous methods -/

namespace UtpSendWindow

/-- Register a packet, waiting for room in the window. -/
def waitForAck (packet : UtpPacket) (remoteAddr : UtpAddr) : ConnM Unit := do
  let world ← .get
  Async.awaited (World.onPacketMap (BlockingMap.set packet.seqNr
    { packet := packet, resendTimes := 0, sentTime := world.utp.dateNow,
      remoteAddr := remoteAddr }))

/-- The loop of `resend` over the numbers it found at its start. -/
def resendLoop (now : Nat) : List Nat → ConnM Unit
  | [] => pure ()
  | seqNr :: rest => do
      let world ← .get
      .modify fun world => world.setWindow (world.conn.sendWindow.resendOne now seqNr).1
      match (world.conn.sendWindow.resendOne now seqNr).2 with
      | none => resendLoop now rest
      | some again => do
          Async.discard
            (Async.awaited (UtpSocket.sendUtpPacket none again.packet again.remoteAddr))
          resendLoop now rest

def resend : ConnM Unit := do
  let world ← .get
  resendLoop world.utp.dateNow world.conn.sendWindow.getAllSeqNrs

def timeoutCheck : ConnM Unit := Async.awaited resend

end UtpSendWindow

/-! ## The connection's own methods -/

namespace UtpConn

/-- Only data and FIN packets enter the window, and only while connected. -/
def sendUtpPacket (outgoingPacket : UtpPacket) : ConnM Nat := do
  .modify World.touch
  let world ← .get
  if world.conn.isClosed then
    .throw s!"Cannot send packet on closed connection {world.conn.tag}"
  else do
    if world.conn.isConnected && outgoingPacket.isReliable then
      Async.awaited (UtpSendWindow.waitForAck outgoingPacket world.conn.remoteAddr)
    else pure ()
    Async.awaited (UtpSocket.sendUtpPacket (some world.conn.localState) outgoingPacket
      world.conn.remoteAddr)

/-- `Math.min(DEFAULT_CHUNK_SIZE, DEFAULT_MTU - HEADER_SIZE)` -/
def chunkSize : Nat := min DEFAULT_CHUNK_SIZE (DEFAULT_MTU - UtpPacket.HEADER_SIZE)

def chunkAt (dataToSend : Bytes) (offset : Nat) : Bytes := (dataToSend.drop offset).take chunkSize

/-- The loop of `write` from an offset on. No chunk is empty, so the length of
the data bounds the rounds. -/
def writeLoop (dataToSend : Bytes) : Nat → Nat → ConnM Nat
  | 0, offset => pure offset
  | rounds + 1, offset =>
      if offset < dataToSend.length then do
        let world ← .get
        let dataPacket := world.dataPacket (chunkAt dataToSend offset)
        .modify fun world => world.consumeSeqNr dataPacket
        let n ← Async.awaited (sendUtpPacket dataPacket)
        if n = dataPacket.length then
          writeLoop dataToSend rounds (offset + (chunkAt dataToSend offset).length)
        else .throw "发送的数据包长度不等于要发送的数据包长度"
      else pure offset

def write (dataToSend : Bytes) : ConnM Nat := do
  let offset ← writeLoop dataToSend dataToSend.length 0
  if dataToSend.length = offset then pure dataToSend.length
  else .throw "发送的数据长度不等于要发送的数据长度"

def read (size : Nat) : ConnM (Option Bytes) := do
  let result ← Async.awaited (World.onRecvBuffer (BlockingBuffer.read size))
  .modify fun world => world.logRead result
  pure result

/-- The end of `waitForConnecting`: send the first packet, then install the
listener of the promise. A failed send rejects it. -/
def sendHandshake (packet : UtpPacket) : ConnM Unit :=
  Async.attempt
    (do
      Async.discard (Async.awaited (sendUtpPacket packet))
      .modify fun world => world.setConnecting .pending)
    fun error => .modify fun world => world.setConnecting (.rejected error)

/-- `waitForConnecting` up to the promise it returns. -/
def waitForConnecting : ConnM Unit := do
  let world ← .get
  if world.conn.isConnected then .modify fun world => world.setConnecting .resolved
  else if world.conn.isInitiator then do
    .modify World.takeSyn
    sendHandshake (.createSynPacket world.conn world.utp.currentMicroseconds)
  else
    sendHandshake (.createAckPacket world.conn world.utp.currentMicroseconds none)

/-- The `setTimeout` callback of `waitForConnecting`. -/
def connectTimeout : ConnM Unit :=
  .modify fun world => world.setConnecting
    (.rejected s!"Connection timeout after {CONNECT_TIMEOUT_DURATION}ms")

end UtpConn

end Utp
