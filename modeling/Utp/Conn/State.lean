import Utp.Buffer.CircularQueue
import Utp.Window.SendWindow

/-! # Connections and the socket they share

The state of one connection, the part of the socket its code touches, and the
packets it builds. Four fields are histories: the reliable packets a connection
built (`created`), the results of its `read` calls (`reads`), how many packets
`localAckNr` has moved past (`advanced`), and the datagrams handed to the UDP
socket (`sent`).
-/

namespace Utp

inductive UtpConnState where
  | CS_SYN_SENT
  | CS_SYN_RECV
  | CS_CONNECTED
  | CS_RESET
  | CS_CLOSE_WAIT
  | CS_CLOSED
  deriving DecidableEq

def UtpConnState.name : UtpConnState → String
  | .CS_SYN_SENT => "CS_SYN_SENT"
  | .CS_SYN_RECV => "CS_SYN_RECV"
  | .CS_CONNECTED => "CS_CONNECTED"
  | .CS_RESET => "CS_RESET"
  | .CS_CLOSE_WAIT => "CS_CLOSE_WAIT"
  | .CS_CLOSED => "CS_CLOSED"

/-- The promise `connectTo` returns. Its listener is installed once the first
packet is out; state changes before that pass unnoticed. -/
inductive ConnectPromise where
  | starting
  | pending
  | resolved
  | rejected (error : String)
  deriving DecidableEq

/-- `onStateChange` -/
def ConnectPromise.notify : ConnectPromise → UtpConnState → ConnectPromise
  | .pending, .CS_CONNECTED => .resolved
  | .pending, .CS_RESET => .rejected "Connection reset by remote"
  | .pending, .CS_CLOSED => .rejected "Connection is closed"
  | promise, _ => promise

structure UtpConn where
  localRecvId : Nat
  localSendId : Nat
  localSeqNr : Nat
  localAckNr : Nat
  localState : UtpConnState
  remoteFinPacket : Option UtpPacket
  localFinPacket : Option UtpPacket
  localSynPacket : Option UtpPacket
  isInitiator : Bool
  remoteAddr : UtpAddr
  lastPacketTimestampMicroseconds : Option Nat
  lastLiveTime : Nat
  recvPacketQueue : CircularQueue UtpPacket
  recvBuffer : BlockingBuffer
  sendWindow : UtpSendWindow
  closeStartTime : Option Nat
  connecting : ConnectPromise
  closePolling : Bool
  closeResolved : Bool
  created : List UtpPacket
  reads : List (Option Bytes)
  advanced : Nat

inductive UtpState where
  | ACTIVE
  | CLOSE_WAIT
  | CLOSED
  deriving DecidableEq

/-- A datagram handed to the UDP socket. For a packet's first transmission,
`calledIn` is the state its connection was in when `sendUtpPacket` was called;
`registered` tells whether the packet had entered the send window by then, and
`delivered` how many bytes the connection had put into its receive buffer. -/
structure Datagram where
  packet : UtpPacket
  remoteAddr : UtpAddr
  calledIn : Option UtpConnState
  registered : Bool
  delivered : Nat
  deriving DecidableEq

/-- What a connection sees of its socket, with the clocks it reads. `udpSend` is
the runtime's `send`, which reports the bytes it sent or fails. -/
structure UtpSocket where
  state : UtpState
  connTable : OrderedMap String Nat
  udpSend : Bytes → UtpAddr → Except String Nat
  dateNow : Nat
  performanceNow : Nat
  sent : List Datagram

/-- A socket without connections. -/
def UtpSocket.create (udpSend : Bytes → UtpAddr → Except String Nat)
    (dateNow performanceNow : Nat) : UtpSocket where
  state := .ACTIVE
  connTable := ∅
  udpSend := udpSend
  dateNow := dateNow
  performanceNow := performanceNow
  sent := []

/-- The runtime's `send` when it takes every datagram whole. -/
def UtpSocket.sendWhole (bytes : Bytes) (_ : UtpAddr) : Except String Nat := .ok bytes.length

/-- A socket for concrete runs. -/
def UtpSocket.sample : UtpSocket := .create UtpSocket.sendWhole 1000000 5000

/-- `Util.currentMicroseconds` -/
def UtpSocket.currentMicroseconds (utp : UtpSocket) : Nat := utp.dateNow * 1000

/-- The state a connection's code runs on: itself, under its object identity,
and its socket. -/
structure World where
  self : Nat
  conn : UtpConn
  utp : UtpSocket

namespace UtpConn

def CONNECT_TIMEOUT_DURATION : Nat := 5000

def CLOSE_TIMEOUT_DURATION : Nat := 10000

def KEEP_ALIVE_INTERVAL : Nat := 29000

def MAX_RECV_QUEUE_SIZE : Nat := 8192

def MIN_RECV_QUEUE_SIZE : Nat := 4096

def DEFAULT_CHUNK_SIZE : Nat := 64 * 1024

def queueSize (isInitiator : Bool) : Nat :=
  if isInitiator then MAX_RECV_QUEUE_SIZE else MIN_RECV_QUEUE_SIZE

theorem queueSize_pos (isInitiator : Bool) : 0 < queueSize isInitiator := by
  cases isInitiator <;> decide

/-- The two states a connection is created in. -/
def initState (isInitiator : Bool) : UtpConnState :=
  if isInitiator then .CS_SYN_SENT else .CS_SYN_RECV

def create (isInitiator : Bool) (remoteAddr : UtpAddr) (sendId recvId seqNr ackNr now : Nat) :
    UtpConn where
  localRecvId := recvId
  localSendId := sendId
  localSeqNr := seqNr
  localAckNr := ackNr
  localState := initState isInitiator
  remoteFinPacket := none
  localFinPacket := none
  localSynPacket := none
  isInitiator := isInitiator
  remoteAddr := remoteAddr
  lastPacketTimestampMicroseconds := none
  lastLiveTime := now
  recvPacketQueue := .create (queueSize isInitiator) (queueSize_pos isInitiator)
  recvBuffer := .create (256 * 1024)
  sendWindow := .create
  closeStartTime := none
  connecting := .starting
  closePolling := false
  closeResolved := false
  created := []
  reads := []
  advanced := 0

def generateUniqueId (remoteAddr : UtpAddr) (localSendId localRecvId : Int) : String :=
  s!"addr({remoteAddr.toString})|send_id({localSendId})|recv_id({localRecvId})"

def uniqueId (self : UtpConn) : String :=
  generateUniqueId self.remoteAddr self.localSendId self.localRecvId

def tag (self : UtpConn) : String :=
  s!"[CONNECTION|{self.uniqueId}|state({self.localState.name})]"

def isClosed (self : UtpConn) : Bool := self.localState = .CS_CLOSED

def isConnected (self : UtpConn) : Bool := self.localState = .CS_CONNECTED

/-- The `localState` setter, which tells the listeners if the state is a new one. -/
def setLocalState (self : UtpConn) (state : UtpConnState) : UtpConn :=
  { self with
    localState := state
    connecting := if self.localState = state then self.connecting
      else self.connecting.notify state }

/-- The `localAckNr` setter. -/
def setLocalAckNr (self : UtpConn) (ackNr : Nat) : UtpConn :=
  { self with localAckNr := ackNr % 65536 }

def getIncomingBufferLeftBytes (self : UtpConn) : Nat := self.recvBuffer.freeSpace

end UtpConn

/-! ## Packet construction -/

namespace UtpSelectiveAckExtension

def createFromConn (conn : UtpConn) : Option UtpSelectiveAckExtension :=
  create conn.localAckNr conn.recvPacketQueue.keys

end UtpSelectiveAckExtension

namespace UtpPacket

/-- `currentMicroseconds() - conn.lastPacketTimestampMicroseconds`. Before the
first packet this is `NaN`, which is encoded like zero. -/
def timestampDifference (conn : UtpConn) (now : Nat) : Int :=
  match conn.lastPacketTimestampMicroseconds with
  | none => 0
  | some last => (now : Int) - last

def createSynPacket (conn : UtpConn) (now : Nat) : UtpPacket where
  type := .ST_SYN
  connId := conn.localRecvId
  seqNr := conn.localSeqNr
  ackNr := 0
  timestampMicroseconds := now
  windowSize := 0
  extension := 2
  extensions := [.extensionBits .create]

def createAckPacket (conn : UtpConn) (now : Nat) (sack : Option UtpSelectiveAckExtension) :
    UtpPacket where
  type := .ST_STATE
  extension := if sack.isSome then 1 else 0
  connId := conn.localSendId
  seqNr := conn.localSeqNr
  ackNr := conn.localAckNr
  timestampMicroseconds := now
  timestampDifferenceMicroseconds := timestampDifference conn now
  windowSize := conn.getIncomingBufferLeftBytes
  extensions := sack.toList.map .selectiveAck

def createDataPacket (conn : UtpConn) (now : Nat) (data : Bytes) : UtpPacket where
  type := .ST_DATA
  timestampMicroseconds := now
  timestampDifferenceMicroseconds := timestampDifference conn now
  seqNr := conn.localSeqNr
  connId := conn.localSendId
  ackNr := conn.localAckNr
  windowSize := conn.getIncomingBufferLeftBytes
  data := some data

def createFinPacket (conn : UtpConn) (now : Nat) : UtpPacket where
  type := .ST_FIN
  connId := conn.localSendId
  seqNr := conn.localSeqNr
  ackNr := conn.localAckNr
  timestampMicroseconds := now
  timestampDifferenceMicroseconds := timestampDifference conn now
  windowSize := conn.getIncomingBufferLeftBytes

def createResetPacket (conn : UtpConn) (now : Nat) : UtpPacket where
  type := .ST_RESET
  connId := conn.localSendId
  seqNr := conn.localSeqNr
  ackNr := conn.localAckNr
  timestampMicroseconds := now
  timestampDifferenceMicroseconds := timestampDifference conn now
  windowSize := 0
  extension := 0

end UtpPacket

namespace UtpConn

/-- `conn.localSeqNr++`, after which the packet built with the old number is on
record. -/
def consumeSeqNr (self : UtpConn) (packet : UtpPacket) : UtpConn :=
  { self with
    localSeqNr := (self.localSeqNr + 1) % 65536
    created := self.created ++ [packet] }

end UtpConn

/-! ## Updates of the world -/

namespace World

def onConn (world : World) (change : UtpConn → UtpConn) : World :=
  { world with conn := change world.conn }

/-- `utp.removeCon(this)` -/
def removeCon (world : World) : World :=
  { world with utp := { world.utp with
      connTable := world.utp.connTable.erase world.conn.uniqueId } }

/-- `utp.addConn(this)` -/
def addConn (world : World) : World :=
  { world with utp := { world.utp with
      connTable := world.utp.connTable.set world.conn.uniqueId world.self } }

def setLocalState (world : World) (state : UtpConnState) : World :=
  world.onConn fun conn => conn.setLocalState state

/-- Leave the connection table and change the state to closed. -/
def release (world : World) : World := world.removeCon.setLocalState .CS_CLOSED

/-- `recvBuffer.drain()` -/
def drain (world : World) : World :=
  world.onConn fun conn => { conn with recvBuffer := conn.recvBuffer.drain }

def forceClose (world : World) : World := world.drain.release

/-- Hand a packet to the UDP socket. `registered` records whether the packet has
entered the send window by now, `delivered` how much has been received. -/
def transmit (world : World) (calledIn : Option UtpConnState) (packet : UtpPacket)
    (remoteAddr : UtpAddr) : World :=
  let registered := world.conn.sendWindow.packetMap.entered.any fun entry =>
    entry.2.packet = packet
  { world with utp := { world.utp with
      sent := world.utp.sent ++ [⟨packet, remoteAddr, calledIn, registered,
        world.conn.recvBuffer.appended.length⟩] } }

end World

end Utp
