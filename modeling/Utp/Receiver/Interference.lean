import Utp.Conn.Acts
import Utp.Foundation.TaskSystem

/-! # What the receiving side may count on

While the packet handler waits, the other tasks leave the acknowledgement
number, the delivered bytes and the reorder queue alone, unless they end the
connection. The handler's own sends do so too.
-/

namespace Utp

open Async (MovesAlways)

namespace World

/-- The connection takes no more data. -/
def Gone (world : World) : Prop := world.Started ∧ world.conn.localState ≠ .CS_CONNECTED

/-- The receive buffer is only shut once the connection takes no more data, and
a buffer whose end was reported is empty. -/
structure Sealed (world : World) : Prop where
  drained : world.conn.recvBuffer.closedForWriting = true → world.Gone
  finished : world.conn.recvBuffer.closed = true → world.conn.recvBuffer.closedForWriting = true
  empty : world.conn.recvBuffer.closed = true → world.conn.recvBuffer.buffer = []

/-- What others may change of the receiving side. Unless the connection is being
closed from this side, they leave it connected. -/
structure Aside (closing : Bool) (world next : World) : Prop where
  ackNr : next.conn.localAckNr = world.conn.localAckNr
  advanced : next.conn.advanced = world.conn.advanced
  appended : next.conn.recvBuffer.appended = world.conn.recvBuffer.appended
  capacity : next.conn.recvPacketQueue.capacity = world.conn.recvPacketQueue.capacity
  queue : next.conn.recvPacketQueue = world.conn.recvPacketQueue ∨
    (next.conn.recvPacketQueue.items = ∅ ∧ next.Gone)
  state : next.conn.localState = world.conn.localState ∨ next.Gone
  connected : closing = false → world.conn.localState = .CS_CONNECTED →
    next.conn.localState = .CS_CONNECTED
  gone : world.Gone → next.Gone
  finless : world.conn.remoteFinPacket = none → next.conn.remoteFinPacket = none
  sealed : world.Sealed → next.Sealed

variable {closing : Bool}

theorem Aside.refl (world : World) : Aside closing world world :=
  ⟨rfl, rfl, rfl, rfl, .inl rfl, .inl rfl, fun _ => id, id, id, id⟩

theorem Aside.trans {first second third : World} (hfirst : Aside closing first second)
    (hsecond : Aside closing second third) : Aside closing first third where
  ackNr := hsecond.ackNr.trans hfirst.ackNr
  advanced := hsecond.advanced.trans hfirst.advanced
  appended := hsecond.appended.trans hfirst.appended
  capacity := hsecond.capacity.trans hfirst.capacity
  queue := by
    rcases hsecond.queue with hsame | hcleared
    · rcases hfirst.queue with hbefore | ⟨hempty, hgone⟩
      · exact .inl (hsame.trans hbefore)
      · exact .inr ⟨hsame ▸ hempty, hsecond.gone hgone⟩
    · exact .inr hcleared
  state := by
    rcases hsecond.state with hsame | hgone
    · exact hfirst.state.imp hsame.trans hsecond.gone
    · exact .inr hgone
  connected hopen hstate := hsecond.connected hopen (hfirst.connected hopen hstate)
  gone := hsecond.gone ∘ hfirst.gone
  finless := hsecond.finless ∘ hfirst.finless
  sealed := hsecond.sealed ∘ hfirst.sealed

/-- A write that leaves the receiving side as it is. -/
theorem Aside.of_same {world next : World} (hackNr : next.conn.localAckNr = world.conn.localAckNr)
    (hadvanced : next.conn.advanced = world.conn.advanced)
    (hqueue : next.conn.recvPacketQueue = world.conn.recvPacketQueue)
    (hbuffer : next.conn.recvBuffer = world.conn.recvBuffer)
    (hstate : next.conn.localState = world.conn.localState)
    (hfin : next.conn.remoteFinPacket = world.conn.remoteFinPacket) : Aside closing world next where
  ackNr := hackNr
  advanced := hadvanced
  appended := by rw [hbuffer]
  capacity := by rw [hqueue]
  queue := .inl hqueue
  state := .inl hstate
  connected _ h := hstate.trans h
  gone := by simp only [Gone, Started, hstate, imp_self]
  finless := hfin.trans
  sealed hsealed := by
    have hgone : world.Gone → next.Gone := by simp only [Gone, Started, hstate, imp_self]
    refine ⟨?_, ?_, ?_⟩
    all_goals rw [hbuffer]
    · exact hgone ∘ hsealed.drained
    · exact hsealed.finished
    · exact hsealed.empty

/-- A write outside the connection leaves the receiving side alone. -/
theorem Aside.of_conn {world next : World} (hconn : next.conn = world.conn) :
    Aside closing world next :=
  .of_same (by rw [hconn]) (by rw [hconn]) (by rw [hconn]) (by rw [hconn]) (by rw [hconn])
    (by rw [hconn])

/-! ## Single writes -/

/-- Behind the established state no more data is taken. -/
theorem gone_of_state {world : World} {state : UtpConnState}
    (hworld : world.conn.localState = state) (hstate : state = .CS_CLOSE_WAIT ∨
      state = .CS_CLOSED ∨ state = .CS_RESET) : world.Gone := by
  simp only [Gone, Started, hworld]
  rcases hstate with rfl | rfl | rfl <;> simp

/-- A change of state that ends the connection, with the buffer as it is. -/
theorem Aside.of_gone {world next : World} (hackNr : next.conn.localAckNr = world.conn.localAckNr)
    (hadvanced : next.conn.advanced = world.conn.advanced)
    (hcapacity : next.conn.recvPacketQueue.capacity = world.conn.recvPacketQueue.capacity)
    (hqueue : next.conn.recvPacketQueue = world.conn.recvPacketQueue ∨
      next.conn.recvPacketQueue.items = ∅)
    (hbuffer : next.conn.recvBuffer = world.conn.recvBuffer ∨
      next.conn.recvBuffer = world.conn.recvBuffer.drain)
    (hgone : next.Gone) (hclosing : closing = false → world.conn.localState ≠ .CS_CONNECTED)
    (hfin : next.conn.remoteFinPacket = none ∨
      next.conn.remoteFinPacket = world.conn.remoteFinPacket) : Aside closing world next where
  ackNr := hackNr
  advanced := hadvanced
  appended := by
    rcases hbuffer with h | h
    · rw [h]
    · rw [h, BlockingBuffer.drain_appended]
  capacity := hcapacity
  queue := hqueue.imp_right fun h => ⟨h, hgone⟩
  state := .inr hgone
  connected hopen hstate := absurd hstate (hclosing hopen)
  gone _ := hgone
  finless h := hfin.elim id fun hsame => hsame.trans h
  sealed hsealed := by
    rcases hbuffer with h | h
    · exact ⟨fun _ => hgone, h ▸ hsealed.finished, h ▸ hsealed.empty⟩
    · refine ⟨fun _ => hgone, ?_, ?_⟩
      all_goals rw [h]
      · exact fun _ => BlockingBuffer.drain_closedForWriting hsealed.finished
      · exact BlockingBuffer.drain_empty hsealed.empty

/-- `read` takes from the front of the buffer. -/
theorem aside_readBuffer {world : World} {buffer : BlockingBuffer}
    (hmove : world.conn.recvBuffer.ReadMove buffer) :
    Aside closing world (world.onConn fun conn => { conn with recvBuffer := buffer }) where
  ackNr := rfl
  advanced := rfl
  appended := hmove.appended
  capacity := rfl
  queue := .inl rfl
  state := .inl rfl
  connected _ := id
  gone := id
  finless := id
  sealed hsealed := by
    obtain ⟨hwriting, hclosed⟩ := hmove.closed
    refine ⟨fun h => hsealed.drained (hwriting ▸ h), fun h => ?_, fun h => ?_⟩
    · rcases hclosed h with hbefore | ⟨_, hdrained⟩
      · exact hwriting.trans (hsealed.finished hbefore)
      · exact hwriting.trans hdrained
    · rcases hclosed h with hbefore | ⟨hempty, _⟩
      · exact hmove.empty (hsealed.empty hbefore)
      · exact hmove.empty hempty

/-- The end of the connection leaves what was received to be read. -/
theorem aside_forceClose {world : World}
    (hclosing : closing = false → world.conn.localState ≠ .CS_CONNECTED) :
    Aside closing world world.forceClose :=
  .of_gone rfl rfl rfl (.inl rfl) (.inr rfl) (gone_of_state rfl (.inr (.inl rfl))) hclosing
    (.inr rfl)

/-- A release leaves what was received to be read. -/
theorem aside_release {world : World} (hstate : world.conn.localState = .CS_CLOSE_WAIT) :
    Aside closing world world.release :=
  .of_gone rfl rfl rfl (.inl rfl) (.inl rfl) (gone_of_state rfl (.inr (.inl rfl)))
    (fun _ h => by rw [hstate] at h; cases h) (.inr rfl)

/-- The acts of everything but the packet handler leave the receiving side alone. -/
theorem Act.aside {world next : World} (hact : Act false closing true world next) :
    Aside closing world next := by
  cases hact with
  | env henv => exact .of_conn henv.conn
  | touch => exact .of_same rfl rfl rfl rfl rfl rfl
  | setLastLiveTime => exact .of_same rfl rfl rfl rfl rfl rfl
  | setConnecting => exact .of_same rfl rfl rfl rfl rfl rfl
  | logRead => exact .of_same rfl rfl rfl rfl rfl rfl
  | transmit => exact .of_same rfl rfl rfl rfl rfl rfl
  | takeData => exact .of_same rfl rfl rfl rfl rfl rfl
  | takeFin => exact .of_same rfl rfl rfl rfl rfl rfl
  | register => exact .of_same rfl rfl rfl rfl rfl rfl
  | waitForRoom => exact .of_same rfl rfl rfl rfl rfl rfl
  | resendOne => exact .of_same rfl rfl rfl rfl rfl rfl
  | readBuffer buffer hmove => exact aside_readBuffer hmove
  | beginClose _ _ hclosing =>
      exact .of_gone rfl rfl rfl (.inl rfl) (.inl rfl) (gone_of_state rfl (.inl rfl))
        (fun hopen => by rw [hclosing] at hopen; cases hopen) (.inr rfl)
  | startPolling => exact .of_same rfl rfl rfl rfl rfl rfl
  | finishClose => exact .of_same rfl rfl rfl rfl rfl rfl
  | resetNow hclosing =>
      exact .of_gone rfl rfl rfl (.inr rfl) (.inl rfl) (gone_of_state rfl (.inr (.inr rfl)))
        (fun hopen => by rw [hclosing] at hopen; cases hopen) (.inl rfl)
  | release hstate => exact aside_release hstate
  | forceClose hstate =>
      refine aside_forceClose fun hopen hconnected => ?_
      rw [hconnected, hopen] at hstate
      rcases hstate with h | h | h <;> cases h
  | handleAck _ h => cases h
  | acceptHandshake _ _ _ h => cases h
  | acceptFirstData _ _ h => cases h
  | enqueue _ h => cases h
  | advanceTo _ _ h => cases h
  | append _ h => cases h
  | acceptFin _ h => cases h
  | drain h => cases h
  | noteHandled h => cases h

/-! ## In the middle of a pass -/

/-- A pass that waits here has nothing more to take: the next packet is not in the queue, or
the number is the last one, behind which no key of the pass lies. -/
def Rested (world : World) : Prop :=
  world.conn.localAckNr = 65535 ∨
    Seq.add world.conn.localAckNr 1 ∉ world.conn.recvPacketQueue.items.keys

/-- What the others do while a handler waits. Unless they are `clearing`, they empty the
queue only where a pass has nothing more to take. -/
structure Among (closing clearing : Bool) (world next : World) : Prop
    extends Aside closing world next where
  spared : clearing = false →
    next.conn.recvPacketQueue = world.conn.recvPacketQueue ∨ world.Rested

variable {clearing : Bool}

/-- Whoever leaves the queue alone is among the others. -/
theorem Aside.among {world next : World} (haside : Aside closing world next)
    (hqueue : next.conn.recvPacketQueue = world.conn.recvPacketQueue) :
    Among closing clearing world next := ⟨haside, fun _ => .inl hqueue⟩

/-- Leaving the receiving side alone is allowed to everybody. -/
theorem Aside.anyhow {world next : World} (haside : Aside closing world next) :
    Among closing true world next := ⟨haside, nofun⟩

theorem Among.refl (world : World) : Among closing clearing world world :=
  (Aside.refl world).among rfl

theorem Among.trans {first second third : World} (hfirst : Among closing clearing first second)
    (hsecond : Among closing clearing second third) : Among closing clearing first third := by
  refine ⟨hfirst.toAside.trans hsecond.toAside, fun hspare => ?_⟩
  rcases hfirst.spared hspare with hsame | hrested
  · refine (hsecond.spared hspare).imp (fun h => h.trans hsame) fun hrested => ?_
    unfold Rested at hrested ⊢
    rwa [hfirst.ackNr, hsame] at hrested
  · exact .inr hrested

/-- Only the fields of the receiving side count. -/
theorem Among.of_same {world next : World} (hackNr : next.conn.localAckNr = world.conn.localAckNr)
    (hadvanced : next.conn.advanced = world.conn.advanced)
    (hqueue : next.conn.recvPacketQueue = world.conn.recvPacketQueue)
    (hbuffer : next.conn.recvBuffer = world.conn.recvBuffer)
    (hstate : next.conn.localState = world.conn.localState)
    (hfin : next.conn.remoteFinPacket = world.conn.remoteFinPacket) :
    Among closing clearing world next :=
  (Aside.of_same hackNr hadvanced hqueue hbuffer hstate hfin).among hqueue

theorem Among.of_conn {world next : World} (hconn : next.conn = world.conn) :
    Among closing clearing world next := (Aside.of_conn hconn).among (by rw [hconn])

/-! ## The handler's own sends -/

/-- Sending leaves the receiving side alone, -/
theorem udpSend_aside (calledIn : Option UtpConnState) (packet : UtpPacket)
    (remoteAddr : UtpAddr) :
    (UtpSocket.sendUtpPacket calledIn packet remoteAddr).MovesAlways (Among closing clearing) := by
  intro world
  simp only [UtpSocket.sendUtpPacket, Async.bind_eq, Async.moves_bind, Async.moves_get]
  split
  next => trivial
  next =>
    simp only [Async.moves_bind, Async.moves_modify, Async.moves_waitUntil]
    refine ⟨.of_conn rfl, fun later _ _ => ?_⟩
    split
    next => trivial
    next => split <;> trivial

/-- and so does what waits for an acknowledgement. -/
theorem waitForAck_aside (packet : UtpPacket) (remoteAddr : UtpAddr) :
    (UtpSendWindow.waitForAck packet remoteAddr).MovesAlways (Among closing clearing) := by
  have hset : ∀ info, (BlockingMap.set packet.seqNr info :
      Async (BlockingMap Nat UtpPacketWithExtraInfo) Unit).MovesAlways fun _ _ => True := by
    intro info map
    simp only [BlockingMap.set, Async.bind_eq, Async.moves_bind, Async.moves_get]
    split
    next => exact ⟨trivial, trivial⟩
    next => exact Async.moves_bind.mpr ⟨trivial, fun _ _ _ => trivial⟩
  refine .read fun world => Async.MovesAlways.moves (.awaited ?_) world
  exact (hset _).zoom (fun _ _ => rfl) fun _ _ _ => .of_same rfl rfl rfl rfl rfl rfl

/-- A reliable packet changes nothing of the receiving side. -/
theorem sendUtpPacket_aside (packet : UtpPacket) :
    (UtpConn.sendUtpPacket packet).MovesAlways (Among closing clearing) := by
  refine .bind (.modify fun _ => .of_same rfl rfl rfl rfl rfl rfl) fun _ => .read fun world => ?_
  split
  next => trivial
  next =>
    have hsend : (Async.awaited (UtpSocket.sendUtpPacket (some world.conn.localState) packet
        world.conn.remoteAddr)).MovesAlways (Among closing clearing) := .awaited
          (udpSend_aside _ _ _)
    split
    next => exact (Async.MovesAlways.bind (.awaited (waitForAck_aside _ _)) fun _ => hsend) world
    next => exact hsend world

/-- The same when the caller drops the error. -/
theorem send_aside (packet : UtpPacket) :
    (Async.discard (Async.awaited (UtpConn.sendUtpPacket packet))).MovesAlways
    (Among closing clearing) :=
  .discard (.awaited (sendUtpPacket_aside packet))

/-- The acknowledgement itself only reads the receiving side. -/
theorem sendAck_aside : UtpConn.sendAck.MovesAlways (Among closing clearing) := by
  refine .read fun world => ?_
  split
  next => trivial
  next => exact (Async.MovesAlways.attempt (send_aside world.ackPacket) fun _ => .pure) world

/-- The own FIN takes a number of the sending side. -/
theorem sendFin_aside (packet : UtpPacket) :
    ((Async.modify World.takeFin).bind fun _ =>
      Async.discard (Async.awaited (UtpConn.sendUtpPacket packet))).MovesAlways
        (Among closing clearing) :=
  .bind (.modify fun _ => .of_same rfl rfl rfl rfl rfl rfl) fun _ => send_aside packet

theorem replyFin_aside : UtpConn.replyFin.MovesAlways (Among closing clearing) := by
  refine .read fun world => ?_
  split
  next => exact (Async.MovesAlways.attempt (sendFin_aside world.finPacket) fun _ => .pure) world
  next => trivial

/-- A release shuts a buffer that takes no more data. -/
theorem trySafeRelease_aside : UtpConn.trySafeRelease.MovesAlways (Among closing clearing) := by
  refine .read fun world => ?_
  split
  next => trivial
  next hstate =>
    rw [not_not] at hstate
    have hforce : Among closing clearing world world.forceClose :=
      (aside_forceClose fun _ h => by rw [hstate] at h; cases h).among rfl
    split
    next => exact ⟨hforce, trivial⟩
    next =>
      split
      next => exact ⟨hforce, trivial⟩
      next =>
        split
        next => trivial
        next =>
          split
          next => exact sendFin_aside world.finPacket world
          next => exact ⟨(aside_release hstate).among rfl, trivial⟩

/-- An acknowledgement is a matter of the sending side. -/
theorem handleAck_aside (packet : UtpPacket) :
    (UtpConn.awaitHandleAck packet).MovesAlways (Among closing clearing) :=
  .awaited (.modify fun _ => .of_same rfl rfl rfl rfl rfl rfl)

end World

end Utp
