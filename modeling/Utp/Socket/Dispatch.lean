import Utp.Conn.System
import Utp.Foundation.Total

/-! # The socket and its connections

The socket's side of the protocol: it creates connections, keeps them in a table
under their ids, and hands every datagram to the connections it may belong to.
-/

namespace Utp

/-- A connection as an object: its identity, its fields, and the history of what it
handed to the UDP socket. -/
structure ConnObject where
  self : Nat
  conn : UtpConn
  sent : List Datagram

/-- A socket with all connections it has created so far, in the table or not. The
table refers to them by their identities, which are below `count`. -/
structure Socket where
  utp : UtpSocket
  objects : Nat → ConnObject
  count : Nat

namespace Socket

/-- What the code of one connection runs on. -/
def worldOf (id : Nat) (socket : Socket) : World where
  self := (socket.objects id).self
  conn := (socket.objects id).conn
  utp := { socket.utp with sent := (socket.objects id).sent }

def putWorld (id : Nat) (socket : Socket) (world : World) : Socket :=
  { socket with
    utp := { world.utp with sent := socket.utp.sent }
    objects := Function.update socket.objects id ⟨world.self, world.conn, world.utp.sent⟩ }

/-- Code of one of the connections. -/
def onConn {α : Type} (id : Nat) (task : ConnM α) : Async Socket α :=
  task.zoom (worldOf id) (putWorld id)

@[simp] theorem worldOf_putWorld (id : Nat) (socket : Socket) (world : World) :
    worldOf id (putWorld id socket world) = world := by
  simp [worldOf, putWorld]

@[simp] theorem putWorld_worldOf (id : Nat) (socket : Socket) :
    putWorld id socket (worldOf id socket) = socket := by
  simp [worldOf, putWorld]

@[simp] theorem putWorld_putWorld (id : Nat) (socket : Socket) (first second : World) :
    putWorld id (putWorld id socket first) second = putWorld id socket second := by
  simp [putWorld]

theorem objects_putWorld_of_ne {id other : Nat} (hother : other ≠ id) (socket : Socket)
    (world : World) : (putWorld id socket world).objects other = socket.objects other := by
  simp [putWorld, hother]

theorem objects_putWorld_self (id : Nat) (socket : Socket) (world : World) :
    ((putWorld id socket world).objects id).conn = world.conn := by
  simp [putWorld]

/-! ## The connection table -/

def findConn (socket : Socket) (uniqueId : String) : Option Nat :=
  socket.utp.connTable.get? uniqueId

def hasConn (socket : Socket) (uniqueId : String) : Bool := (socket.findConn uniqueId).isSome

/-- `new UtpConn(...)`, which enters the table. -/
def newConn (isInitiator : Bool) (remoteAddr : UtpAddr) (sendId recvId seqNr ackNr : Nat)
    (socket : Socket) : Socket :=
  { putWorld socket.count socket
      (.create socket.count socket.utp isInitiator remoteAddr sendId recvId seqNr ackNr) with
    count := socket.count + 1 }

/-- `UtpConn.connectTo` -/
def connectTo (isInitiator : Bool) (remoteAddr : UtpAddr) (sendId recvId seqNr ackNr : Nat) :
    Async Socket Unit := do
  let socket ← .get
  .modify (newConn isInitiator remoteAddr sendId recvId seqNr ackNr)
  onConn socket.count UtpConn.waitForConnecting

/-- `connect`. `drawn` is what `Util.randomUn16Int` gives for the receive id; it never
gives 65535. -/
def connect (drawn : Fin 65535) (port : Nat) (hostname : String) : Async Socket Unit :=
  match UtpAddr.create port hostname with
  | .error error => .throw error
  | .ok remoteAddr => connectTo true remoteAddr (drawn + 1) drawn 1 0

/-! ## Incoming datagrams -/

/-- The answer to a SYN. `drawn` is the number drawn for the first sequence number. -/
def acceptSyn (drawn : Fin 65535) (packet : UtpPacket) (remoteAddr : UtpAddr) :
    Async Socket Unit := do
  let socket ← .get
  if socket.hasConn (UtpConn.generateUniqueId remoteAddr packet.connId (packet.connId + 1)) then
    pure ()
  else connectTo false remoteAddr packet.connId (packet.connId + 1) drawn packet.seqNr

/-- The send id is the receive id plus or minus one, as it is not known which end
initiated. -/
def localSendIds (localRecvId : Nat) : List Int := [localRecvId + 1, localRecvId - 1]

def targetConns (socket : Socket) (packet : UtpPacket) (remoteAddr : UtpAddr) : List Nat :=
  (localSendIds packet.connId).filterMap fun sendId =>
    socket.findConn (UtpConn.generateUniqueId remoteAddr sendId packet.connId)

/-- The loop of `dispatch` over the connections it found at its start. -/
def handlePacket (packet : UtpPacket) : List Nat → Async Socket Unit
  | [] => pure ()
  | id :: rest =>
      if packet.type = .ST_RESET then do
        onConn id UtpConn.reset
        handlePacket packet rest
      else do
        let handled ← Async.awaited (onConn id (UtpConn.handleIncomingPacket packet))
        if handled then pure () else handlePacket packet rest

/-- `dispatch` once the datagram is decoded. Nobody awaits a new connection. -/
def dispatchPacket (drawn : Fin 65535) (packet : UtpPacket) (remoteAddr : UtpAddr) :
    Async Socket Unit :=
  if packet.type = .ST_SYN then Async.detached (acceptSyn drawn packet remoteAddr)
  else do
    let socket ← .get
    handlePacket packet (socket.targetConns packet remoteAddr)

def dispatch (drawn : Fin 65535) (udpBytes : Bytes) (remoteUdpAddr : DenoAddr) :
    Async Socket Unit := do
  let isPacket ← Async.finished (UtpPacket.isPacket udpBytes)
  if !isPacket then pure ()
  else do
    let packet ← Async.finished (UtpPacket.fromBytes udpBytes)
    let remoteAddr ← Async.finished (UtpAddr.fromDenoAddr remoteUdpAddr)
    dispatchPacket drawn packet remoteAddr

/-- A socket that has created no connection yet. Nothing refers to the objects at the
identities it has still to give out. -/
def create (utp : UtpSocket) : Socket where
  utp := { utp with connTable := ∅ }
  objects id := ⟨id, .create false (.localhost 0) 0 0 0 0 0, []⟩
  count := 0

/-- The socket after a task that ran with nothing in between. -/
def after (task : Async Socket Unit) (socket : Socket) : Socket :=
  match task.run socket with
  | some (next, _) => next
  | none => socket

end Socket

end Utp
