import Utp.Conn.Send

/-! # Closing, resetting and the timer

The ways out of a connection: the orderly release, the forced close, the reset,
and the periodic check that drives retransmission and release. -/

namespace Utp

namespace World

/-- The synchronous start of `close`. -/
def beginClose (world : World) : World :=
  (world.onConn fun conn =>
    { conn with closeStartTime := some world.utp.performanceNow }).setLocalState .CS_CLOSE_WAIT

/-- The interval of `close` starts to run. -/
def startPolling (world : World) : World :=
  world.onConn fun conn => { conn with closePolling := true }

/-- The interval is cleared and the promise of `close` resolved. -/
def finishClose (world : World) : World :=
  world.onConn fun conn => { conn with closePolling := false, closeResolved := true }

/-- The synchronous part of `reset` in front of its packet. -/
def resetNow (world : World) : World :=
  (world.removeCon.setLocalState .CS_RESET).onConn fun conn =>
    { conn with
      recvPacketQueue := conn.recvPacketQueue.clear
      remoteFinPacket := none
      sendWindow := conn.sendWindow.reset }

end World

namespace UtpConn

/-- `closeStartTime || performance.now()`, for which a start at zero counts as
none, is more than the limit ago. -/
def isCloseTimeout (conn : UtpConn) (performanceNow : Nat) : Bool :=
  match conn.closeStartTime with
  | none => false
  | some start => start ≠ 0 && decide (CLOSE_TIMEOUT_DURATION < performanceNow - start)

/-- The same test in the interval of `close`, which has no default. -/
def isPollTimeout (conn : UtpConn) (performanceNow : Nat) : Bool :=
  match conn.closeStartTime with
  | none => false
  | some start => CLOSE_TIMEOUT_DURATION < performanceNow - start

def trySafeRelease : ConnM Unit := do
  let world ← .get
  if world.conn.localState ≠ .CS_CLOSE_WAIT then
    .throw "Connection is not in CLOSE_WAIT state"
  else if world.conn.isCloseTimeout world.utp.performanceNow then
    .modify World.forceClose
  else if world.conn.remoteFinPacket.isSome && world.conn.sendWindow.isEmpty then
    .modify World.forceClose
  else if !world.conn.sendWindow.isEmpty then
    pure ()
  else if world.conn.remoteFinPacket.isNone && world.conn.localFinPacket.isNone then do
    .modify World.takeFin
    Async.discard (Async.awaited (sendUtpPacket world.finPacket))
  else
    .modify World.release

/-- `close` up to the promise it returns. -/
def close : ConnM Unit := do
  let world ← .get
  if world.conn.isClosed then pure ()
  else if world.conn.localState = .CS_CLOSE_WAIT then pure ()
  else if world.conn.localState = .CS_RESET then pure ()
  else do
    .modify World.beginClose
    let world ← .get
    if world.conn.localFinPacket.isSome then pure ()
    else do
      .modify World.takeFin
      Async.discard (Async.awaited (sendUtpPacket world.finPacket))
    .modify World.startPolling

/-- One tick of the interval of `close`. -/
def closePoll : ConnM Unit :=
  Async.attempt
    (do
      let world ← .get
      if world.conn.isClosed then .modify World.finishClose
      else if world.conn.isPollTimeout world.utp.performanceNow then do
        .modify World.forceClose
        .modify World.finishClose
      else do
        Async.awaited trySafeRelease
        let world ← .get
        if world.conn.isClosed then .modify World.finishClose else pure ())
    fun _ => do
      .modify World.forceClose
      .modify World.finishClose

def reset : ConnM Unit := do
  .modify World.resetNow
  let world ← .get
  Async.detached
    (sendUtpPacket (.createResetPacket world.conn world.utp.currentMicroseconds))

/-- The SYN was sent longer than the connect timeout ago. -/
def isConnectTimeout (conn : UtpConn) (currentMicroseconds : Nat) : Bool :=
  match conn.localSynPacket with
  | none => false
  | some syn =>
      decide ((CONNECT_TIMEOUT_DURATION * 1000 : Int) <
        currentMicroseconds - syn.timestampMicroseconds)

def timeoutCheck : ConnM Unit := do
  let world ← .get
  match world.conn.localState with
  | .CS_SYN_SENT =>
      if world.conn.isConnectTimeout world.utp.currentMicroseconds then
        .modify World.forceClose
      else pure ()
  | .CS_SYN_RECV | .CS_CONNECTED => do
      if KEEP_ALIVE_INTERVAL < world.utp.performanceNow - world.conn.lastLiveTime then do
        Async.discard (Async.awaited (sendUtpPacket world.ackPacket))
        .modify fun now => now.setLastLiveTime world.utp.performanceNow
      else pure ()
      Async.awaited UtpSendWindow.timeoutCheck
  | .CS_CLOSE_WAIT => do
      Async.awaited UtpSendWindow.timeoutCheck
      Async.awaited trySafeRelease
  | .CS_CLOSED | .CS_RESET => pure ()

end UtpConn

end Utp
