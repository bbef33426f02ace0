import Utp.Socket.Listener
import Utp.Socket.Table

/-! # The socket as the application holds it

The UDP socket under the connections, the listener in front of them, the timer of the timeout
check, and closing: a closing socket waits for its table to become empty, which it looks up at
once and then in an interval.
-/

namespace Utp

open Async (Chain Config TaskSystem)

/-- `#udpSocket`, which is bound on first use. -/
inductive UdpSocket where
  | none
  | bound
  | closed
  deriving DecidableEq

/-- `timeoutCheckTimer` tells whether the timer of the timeout check is set, `checkInterval`
whether the interval of `close` runs, and `closeResolved` whether the promise of the call of
`close` that began the closing is resolved. -/
structure Endpoint where
  socket : Socket
  listener : UTPListener Nat
  udpSocket : UdpSocket
  timeoutCheckTimer : Bool
  checkInterval : Bool
  closeResolved : Bool

namespace Socket

def setState (socket : Socket) (state : UtpState) : Socket :=
  { socket with utp := { socket.utp with state := state } }

def connSize (socket : Socket) : Nat := socket.utp.connTable.size

/-- The connections that `tryCloseSocket` closes. -/
def canCloseConns (socket : Socket) : List Nat :=
  socket.utp.connTable.values.filter fun id =>
    (socket.objects id).conn.localState ≠ .CS_CLOSE_WAIT ∧
      (socket.objects id).conn.localState ≠ .CS_CLOSED

/-- The next entry of the table that the loop has not come to. -/
def nextConn (socket : Socket) (seen : List String) : Option (String × Nat) :=
  socket.utp.connTable.entries.find? fun entry => entry.1 ∉ seen

/-- The loop of `timeoutCheck`, for so many rounds. It finds entries that are added while it
waits. -/
def timeoutCheckLoop : Nat → List String → Async Socket Unit
  | 0, _ => pure ()
  | rounds + 1, seen => do
      let socket ← .get
      match socket.nextConn seen with
      | none => pure ()
      | some (uniqueId, id) =>
          if (socket.objects id).conn.localState = .CS_CLOSED ∨
              (socket.objects id).conn.localState = .CS_RESET then
            timeoutCheckLoop rounds (uniqueId :: seen)
          else do
            Async.awaited (onConn id UtpConn.timeoutCheck)
            timeoutCheckLoop rounds (uniqueId :: seen)

end Socket

namespace Endpoint

def create (utp : UtpSocket) : Endpoint where
  socket := .create { utp with state := .ACTIVE }
  listener := .create
  udpSocket := .none
  timeoutCheckTimer := false
  checkInterval := false
  closeResolved := false

def isActive (endpoint : Endpoint) : Prop := endpoint.socket.utp.state = .ACTIVE

def isCloseWait (endpoint : Endpoint) : Prop := endpoint.socket.utp.state = .CLOSE_WAIT

def isClosed (endpoint : Endpoint) : Prop := endpoint.socket.utp.state = .CLOSED

instance (endpoint : Endpoint) : Decidable endpoint.isActive := inferInstanceAs (Decidable (_ = _))

instance (endpoint : Endpoint) : Decidable endpoint.isCloseWait :=
  inferInstanceAs (Decidable (_ = _))

instance (endpoint : Endpoint) : Decidable endpoint.isClosed := inferInstanceAs (Decidable (_ = _))

def setSocket (endpoint : Endpoint) (socket : Socket) : Endpoint :=
  { endpoint with socket := socket }

/-- Code of the connections and their table. -/
def onSocket {α : Type} (task : Async Socket α) : Async Endpoint α := task.zoom socket setSocket

/-! ## Opening -/

/-- `startListen` has the loop run that hands over datagrams, `startTimeoutCheck` sets the timer. -/
def bind (endpoint : Endpoint) : Endpoint :=
  { endpoint with udpSocket := .bound, timeoutCheckTimer := true }

/-- `listened` is what `Deno.listenDatagram` does. -/
def createUdpSocketIfNone (listened : Except String Unit) : Async Endpoint Unit := do
  let endpoint ← .get
  if endpoint.udpSocket ≠ .none then pure ()
  else
    match listened with
    | .error error => .throw error
    | .ok () => .modify bind

def connect (listened : Except String Unit) (drawn : Fin 65535) (port : Nat) (hostname : String) :
    Async Endpoint Unit := do
  createUdpSocketIfNone listened
  onSocket (Socket.connect drawn port hostname)

def listen (listened : Except String Unit) (port : Nat) (hostname : String) :
    Async Endpoint Unit :=
  match UtpAddr.create port hostname with
  | .error error => .throw error
  | .ok _ => createUdpSocketIfNone listened

/-! ## The listener -/

def setListener (endpoint : Endpoint) (listener : UTPListener Nat) : Endpoint :=
  { endpoint with listener := listener }

/-- `listener.addConnection(conn)`. A listener that is closed closes the connection. -/
def addConnection (id : Nat) : Async Endpoint Unit := do
  let endpoint ← .get
  .modify fun endpoint => endpoint.setListener (endpoint.listener.addConnection id)
  if endpoint.listener.isClosed then onSocket (Socket.onConn id UtpConn.close) else pure ()

/-- The answer to a SYN, with what follows once its connection is up. -/
def acceptSyn (drawn : Fin 65535) (packet : UtpPacket) (remoteAddr : UtpAddr) :
    Async Endpoint Unit := do
  let endpoint ← .get
  let id := endpoint.socket.count
  if endpoint.socket.hasConn
      (UtpConn.generateUniqueId remoteAddr packet.connId (packet.connId + 1)) then pure ()
  else do
    onSocket (Socket.connectTo false remoteAddr packet.connId (packet.connId + 1) drawn
      packet.seqNr)
    .waitUntil fun endpoint => (endpoint.socket.objects id).conn.connecting ≠ .pending
    let endpoint ← .get
    if (endpoint.socket.objects id).conn.connecting = .resolved then addConnection id else pure ()

/-- `listener.accept()`, whose failures the caller gets. -/
def accept : Async Endpoint Unit :=
  .modify fun endpoint => endpoint.setListener endpoint.listener.accept.1

/-- `listener.close()`, called by the application. The calls of `conn.close()` that it makes are
calls of their own. -/
def closeListener : Async Endpoint Unit :=
  .modify fun endpoint => endpoint.setListener endpoint.listener.close

/-! ## Closing -/

/-- The state and the listener change first. -/
def beginClose (endpoint : Endpoint) : Endpoint :=
  { endpoint with
    socket := endpoint.socket.setState .CLOSE_WAIT
    listener := endpoint.listener.close }

def stopTimeoutCheck (endpoint : Endpoint) : Endpoint :=
  { endpoint with timeoutCheckTimer := false }

/-- `this.#udpSocket.close()`, and the state changes to closed. -/
def closeUdpSocket (endpoint : Endpoint) : Endpoint :=
  { endpoint with
    udpSocket := .closed
    socket := endpoint.socket.setState .CLOSED }

/-- An endpoint that was never used has no UDP socket to close. The connections that are in the
way are closed by calls of their own. -/
def tryCloseSocket (endpoint : Endpoint) : Endpoint × Except String Bool :=
  if endpoint.socket.connSize ≠ 0 then (endpoint, .ok false)
  else if endpoint.udpSocket = .none then
    (endpoint.stopTimeoutCheck, .error "Cannot read properties of undefined (reading 'close')")
  else (endpoint.stopTimeoutCheck.closeUdpSocket, .ok true)

/-- `close` up to the promise it returns. A call that finds the endpoint closing returns a promise
that is resolved already, while that of the first call still waits. -/
def close (endpoint : Endpoint) : Endpoint × Except String Unit :=
  if endpoint.isClosed then (endpoint, .ok ())
  else if endpoint.isCloseWait then (endpoint, .ok ())
  else
    match endpoint.beginClose.tryCloseSocket with
    | (next, .ok true) => ({ next with closeResolved := true }, .ok ())
    | (next, .ok false) => ({ next with checkInterval := true }, .ok ())
    | (next, .error error) => (next, .error error)

/-- One tick of the interval of `close`. -/
def closePoll (endpoint : Endpoint) : Endpoint × Except String Unit :=
  match endpoint.tryCloseSocket with
  | (next, .ok true) => ({ next with checkInterval := false, closeResolved := true }, .ok ())
  | (next, .ok false) => (next, .ok ())
  | (next, .error error) => (next, .error error)

/-- A function that never waits, as a task. -/
def synchronous (change : Endpoint → Endpoint × Except String Unit) : Async Endpoint Unit := do
  let endpoint ← .get
  .modify fun endpoint => (change endpoint).1
  Async.finished (change endpoint).2

end Endpoint

/-! ## Runs -/

/-- What a task of the endpoint was started for. -/
inductive EndpointLabel where
  | call
  | syn
  | receive
  | timer
  | own (id : Nat) (label : Label)
  deriving DecidableEq

namespace Endpoint

/-- The tasks that may start. The application may call the endpoint at any time, and so it may
the connections; datagrams come in while the UDP socket is bound. -/
inductive Spawns (endpoint : Endpoint) : EndpointLabel → Async Endpoint Unit → Prop
  | connect (listened : Except String Unit) (drawn : Fin 65535) (port : Nat) (hostname : String) :
      Spawns endpoint .call (connect listened drawn port hostname)
  | listen (listened : Except String Unit) (port : Nat) (hostname : String) :
      Spawns endpoint .call (listen listened port hostname)
  | accept : Spawns endpoint .call accept
  | closeListener : Spawns endpoint .call closeListener
  | close : Spawns endpoint .call (synchronous close)
  | syn (drawn : Fin 65535) (packet : UtpPacket) (remoteAddr : UtpAddr)
      (hbound : endpoint.udpSocket = .bound) (htype : packet.type = .ST_SYN) :
      Spawns endpoint .syn (acceptSyn drawn packet remoteAddr)
  | packet (drawn : Fin 65535) (packet : UtpPacket) (remoteAddr : UtpAddr)
      (hbound : endpoint.udpSocket = .bound) (htype : packet.type ≠ .ST_SYN) :
      Spawns endpoint .receive (onSocket (Socket.dispatchPacket drawn packet remoteAddr))
  | timeoutCheck (rounds : Nat) (htimer : endpoint.timeoutCheckTimer = true) :
      Spawns endpoint .timer (onSocket (Socket.timeoutCheckLoop rounds []))
  | closePoll (hinterval : endpoint.checkInterval = true) :
      Spawns endpoint .timer (synchronous closePoll)
  | own (id : Nat) (label : Label) (task : ConnM Unit) (hid : id < endpoint.socket.count)
      (hlabel : label ≠ .receive)
      (hspawns : Utp.Spawns anyPacket (endpoint.socket.worldOf id) label task) :
      Spawns endpoint (.own id label) (onSocket (Socket.onConn id task))

/-- Clocks and the runtime's `send` may change on their own. -/
structure Environment (endpoint next : Endpoint) : Prop where
  socket : next = endpoint.setSocket next.socket
  objects : next.socket.objects = endpoint.socket.objects
  count : next.socket.count = endpoint.socket.count
  connTable : next.socket.utp.connTable = endpoint.socket.utp.connTable
  state : next.socket.utp.state = endpoint.socket.utp.state

end Endpoint

/-- An endpoint with all its tasks. Packets other than SYN are handled one at a time. -/
def endpointSystem : TaskSystem Endpoint EndpointLabel where
  spawn := Endpoint.Spawns
  env := Endpoint.Environment
  exclusive label := label = .receive

end Utp
