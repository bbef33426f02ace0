import Utp.Conn.Terminal
import Utp.Foundation.Total

/-! # Releases that find the connection waiting

`trySafeRelease` throws unless it finds `CS_CLOSE_WAIT`. The handler of a FIN and the
timer call it outside a `try`, after awaits that follow their own test of the state.
The tasks are told apart by whether what is left of them comes to such a call.
-/

namespace Utp

open Async (Chain Config Guard TaskSystem)

namespace World

/-- The text of the failure of `trySafeRelease`. -/
def notInCloseWait : String := "Connection is not in CLOSE_WAIT state"

/-- A result other than the failure of `trySafeRelease`. -/
def Blameless {α : Type} (result : Except String α) : Prop := result ≠ .error notInCloseWait

/-- The connection waits for its release. -/
def Waiting (world : World) : Prop := world.conn.localState = .CS_CLOSE_WAIT

/-- The write leaves the failures of the runtime's `send` their texts. -/
def KeepsSend (world next : World) : Prop := world.HonestSend → next.HonestSend

theorem blameless_ok {α : Type} (value : α) : Blameless (Except.ok value) := nofun

/-- An error is blameless unless it is the one of `trySafeRelease`. -/
theorem blameless_error {α : Type} {error : String} :
    Blameless (Except.error error : Except String α) ↔ error ≠ notInCloseWait := by
  simp [Blameless]

/-- What a failed call hands on is as blameless as the call. -/
theorem Blameless.error {α β : Type} {error : String}
    (h : Blameless (Except.error error : Except String α)) :
    Blameless (Except.error error : Except String β) :=
  blameless_error.mpr (blameless_error.mp h)

/-- The failure on a closed connection has another text. -/
theorem closed_text_ne (tag : String) :
    s!"Cannot send packet on closed connection {tag}" ≠ notInCloseWait := by
  intro heq
  have hletters := congrArg (fun text => text.toList.take 2) heq
  simp [notInCloseWait, toString] at hletters

/-! ## Tasks without such a call -/

/-- The task never fails as `trySafeRelease` does, whatever happens at its awaits. -/
def PlainAt {α : Type} (task : ConnM α) (world : World) : Prop :=
  task.Yields HonestSend KeepsSend
    (fun result later => Blameless result ∧ later.HonestSend) world

def Plain {α : Type} (task : ConnM α) : Prop :=
  ∀ world : World, world.HonestSend → PlainAt task world

section Plain

variable {α β : Type} {world : World}

/-- A sequence of plain tasks is plain. -/
theorem PlainAt.bind {task : ConnM α} {next : α → ConnM β} (htask : PlainAt task world)
    (hnext : ∀ value, Plain (next value)) : PlainAt (task.bind next) world := by
  refine Async.yields_bind.mpr (htask.mono fun result later hresult => ?_)
  cases result with
  | ok value => exact hnext value later hresult.2
  | error error => exact ⟨hresult.1.error, hresult.2⟩

/-- A plain handler keeps a `try` plain. -/
theorem PlainAt.attempt {task : ConnM α} {handler : String → ConnM α} (htask : PlainAt task world)
    (hhandler : ∀ error, Plain (handler error)) : PlainAt (task.attempt handler) world := by
  refine Async.yields_attempt.mpr (htask.mono fun result later hresult => ?_)
  cases result with
  | ok value => exact ⟨blameless_ok value, hresult.2⟩
  | error error => exact hhandler error later hresult.2

/-- An await adds no failure. -/
theorem PlainAt.awaited {task : ConnM α} (htask : PlainAt task world) :
    PlainAt task.awaited world :=
  Async.yields_awaited.mpr (htask.mono fun _ _ h _ hlater => ⟨h.1, hlater⟩)

namespace Plain

theorem pure (value : α) : Plain (Async.pure value) := fun _ h => ⟨blameless_ok value, h⟩

theorem throw {error : String} (herror : error ≠ notInCloseWait) :
    Plain (Async.throw error : ConnM α) := fun _ h => ⟨blameless_error.mpr herror, h⟩

theorem bind {task : ConnM α} {next : α → ConnM β} (htask : Plain task)
    (hnext : ∀ value, Plain (next value)) : Plain (task.bind next) :=
  fun world h => (htask world h).bind hnext

theorem attempt {task : ConnM α} {handler : String → ConnM α} (htask : Plain task)
    (hhandler : ∀ error, Plain (handler error)) : Plain (task.attempt handler) :=
  fun world h => (htask world h).attempt hhandler

theorem awaited {task : ConnM α} (htask : Plain task) : Plain task.awaited :=
  fun world h => (htask world h).awaited

theorem discard {task : ConnM α} (htask : Plain task) : Plain task.discard :=
  htask.bind fun _ => .pure ()

theorem modify (change : World → World) : Plain (Async.modify change) :=
  fun _ h hallowed => ⟨blameless_ok (), hallowed h⟩

/-- A task that starts by reading the world. -/
theorem read {next : World → ConnM α}
    (hnext : ∀ world, world.HonestSend → PlainAt (next world) world) :
    Plain ((Async.get : ConnM World).bind next) := hnext

/-- A task on a part of the world that never fails. -/
theorem of_part {σ : Type} {view : World → σ} {put : World → σ → World} {task : Async σ α}
    (htask : task.Suspends (fun _ => True) fun result => result.isOk = true) :
    Plain (task.zoom view put) := by
  induction task with
  | pure value => exact .pure value
  | throw => cases htask
  | read task ih => exact fun world h => ih _ (htask _) world h
  | write target task ih => exact fun world h hallowed => ih htask _ (hallowed h)
  | await ready task ih => exact fun world _ later hlater _ => ih htask.2 later hlater

end Plain

end Plain

/-! ## Sending -/

/-- What a datagram's `send` comes to in the world where it was called. -/
def sendResult (world : World) (packet : UtpPacket) (remoteAddr : UtpAddr) : Except String Nat :=
  match world.utp.udpSend packet.toBytes remoteAddr with
  | .error error => .error error
  | .ok n =>
      if n = packet.toBytes.length then .ok n
      else .error "UDP:发送的数据包长度与实际发送的数据包长度不一致"

/-- All that `sendUtpPacket` of the socket does behind its first test is to wait for the datagram.
-/
theorem sendUtpPacket_eq (calledIn : Option UtpConnState) (packet : UtpPacket)
    (remoteAddr : UtpAddr) : UtpSocket.sendUtpPacket calledIn packet remoteAddr =
      (Async.get : ConnM World).bind fun world =>
        if world.utp.state = .CLOSED then .pure 0
        else (Async.modify fun world => world.transmit calledIn packet remoteAddr).bind fun _ =>
          .await (fun _ => true) (Async.finished (world.sendResult packet remoteAddr)) := by
  unfold UtpSocket.sendUtpPacket Async.waitUntil
  simp only [Async.bind_eq, Async.pure_eq]
  congr 1
  funext world
  split
  next => rfl
  next =>
    simp only [Async.bind, sendResult]
    congr 1
    funext _
    cases world.utp.udpSend packet.toBytes remoteAddr with
    | error error => rfl
    | ok n =>
        simp only
        split
        next => rfl
        next => rfl

/-- An honest runtime does not fail as `trySafeRelease` does. -/
theorem sendResult_blameless {world : World} (hsend : world.HonestSend) (packet : UtpPacket)
    (remoteAddr : UtpAddr) : Blameless (world.sendResult packet remoteAddr) := by
  unfold sendResult
  have hhonest := hsend packet.toBytes remoteAddr
  split
  next error herror =>
    rw [herror] at hhonest
    exact blameless_error.mpr fun heq => hhonest (by rw [heq]; rfl)
  next n _ =>
    split
    next => exact blameless_ok n
    next => exact blameless_error.mpr (by decide)

theorem finished_plain {α : Type} {result : Except String α} (hresult : Blameless result) :
    Plain (Async.finished result) := by
  cases result with
  | ok value => exact .pure value
  | error error => exact .throw (blameless_error.mp hresult)

/-- Handing a packet to the socket is plain. -/
theorem udpSend_plain (calledIn : Option UtpConnState) (packet : UtpPacket)
    (remoteAddr : UtpAddr) : Plain (UtpSocket.sendUtpPacket calledIn packet remoteAddr) := by
  rw [sendUtpPacket_eq]
  refine .read fun world hsend => ?_
  split
  next => exact Plain.pure 0 world hsend
  next =>
    intro hallowed later hlater _
    exact finished_plain (sendResult_blameless hsend packet remoteAddr) later hlater

/-- Waiting for room in the window is plain. -/
theorem waitForAck_plain (packet : UtpPacket) (remoteAddr : UtpAddr) :
    Plain (UtpSendWindow.waitForAck packet remoteAddr) := by
  refine .read fun world hsend => (Plain.of_part ?_).awaited world hsend
  intro self
  show Async.Suspends _ _ (ite _ _ _)
  split
  next => exact fun _ => rfl
  next => exact fun _ => ⟨trivial, rfl⟩

/-- `sendUtpPacket` of the connection is plain. -/
theorem sendUtpPacket_plain (packet : UtpPacket) : Plain (UtpConn.sendUtpPacket packet) := by
  refine (Plain.modify _).bind fun _ => .read fun world hsend => ?_
  show PlainAt (ite _ _ _) world
  split
  next => exact Plain.throw (closed_text_ne _) world hsend
  next =>
    have hnext := (udpSend_plain (some world.conn.localState) packet world.conn.remoteAddr).awaited
    show PlainAt (ite _ _ _) world
    split
    next => exact (waitForAck_plain _ _).awaited.bind (fun _ => hnext) world hsend
    next => exact hnext world hsend

/-- Sending again what is due is plain. -/
theorem resendLoop_plain (now : Nat) (seqNrs : List Nat) :
    Plain (UtpSendWindow.resendLoop now seqNrs) := by
  induction seqNrs with
  | nil => exact .pure ()
  | cons seqNr rest ih =>
      refine .read fun world => (Plain.modify _).bind (fun _ => ?_) world
      cases (world.conn.sendWindow.resendOne now seqNr).2 with
      | none => exact ih
      | some again => exact (udpSend_plain _ _ _).awaited.discard.bind fun _ => ih

theorem resend_plain : Plain UtpSendWindow.resend :=
  .read fun _ => resendLoop_plain _ _ _

/-! ## Receiving -/

/-- Handing data to pending reads does not fail. -/
theorem resolveReaders_suspends (laps : Nat) :
    (BlockingBuffer.resolveReaders laps).Suspends (fun _ => True)
      fun result => result.isOk = true := by
  induction laps with
  | zero => rfl
  | succ laps ih =>
      unfold BlockingBuffer.resolveReaders
      intro self
      simp only [Async.bind]
      split
      next => rfl
      next =>
        split
        next => rfl
        next => exact fun _ => ⟨trivial, fun _ => ih⟩

/-- Writing to the receive buffer is plain. -/
theorem writeRecvBuffer_plain (data : Bytes) : Plain (UtpConn.writeRecvBuffer data) := by
  refine (Plain.of_part (?_ : (BlockingBuffer.write data).Suspends _ _)).awaited.discard
  refine fun self => ⟨trivial, fun self => ?_⟩
  show Async.Suspends _ _ ((BlockingBuffer.resolveReaders _).bind _)
  refine Async.suspends_bind.mpr ((resolveReaders_suspends _).mono (fun _ _ => trivial) ?_)
  intro result hok
  cases result with
  | ok => rfl
  | error => exact hok

/-- A pass over the queue is plain. -/
theorem processKeys_plain (keys : List Nat) : Plain (UtpConn.processKeys keys) := by
  induction keys with
  | nil => exact .pure ()
  | cons seq rest ih =>
      refine .read fun world hsend => ?_
      split
      next => exact ih world hsend
      next =>
        refine (Plain.modify _).bind (fun _ => ?_) world hsend
        cases (world.conn.recvPacketQueue.dequeueByKey seq).1 with
        | none => exact ih
        | some packet =>
            refine Plain.bind ?_ fun _ => ih
            unfold UtpConn.deliver
            split
            next => exact .pure ()
            next data _ =>
              split
              next => exact (writeRecvBuffer_plain data).attempt fun _ => .pure ()
              next => exact .pure ()

theorem processReceivedPackets_plain : Plain UtpConn.processReceivedPackets :=
  .read fun _ => processKeys_plain _ _

/-- Sending an acknowledgement is plain. -/
theorem sendAck_plain : Plain UtpConn.sendAck := by
  refine .read fun world hsend => ?_
  split
  next => exact Plain.pure () world hsend
  next => exact ((sendUtpPacket_plain _).awaited.discard.attempt fun _ => .pure ()) world hsend

theorem awaitHandleAck_plain (packet : UtpPacket) : Plain (UtpConn.awaitHandleAck packet) :=
  (Plain.modify _).awaited

/-- The handler of an initiator's first answer is plain. -/
theorem handleAtSynSent_plain (packet : UtpPacket) : Plain (UtpConn.handleAtSynSent packet) := by
  unfold UtpConn.handleAtSynSent
  split
  next => exact .pure false
  next => exact (Plain.modify _).bind fun _ => .pure true

/-- The handler of a responder's first data packet is plain. -/
theorem handleAtSynReceived_plain (packet : UtpPacket) :
    Plain (UtpConn.handleAtSynReceived packet) := by
  refine .read fun world hsend => ?_
  split
  next => exact Plain.pure false world hsend
  next =>
    split
    next => exact Plain.pure false world hsend
    next =>
      have hanswer : Plain ((Async.get : ConnM World).bind fun world =>
          (Async.discard (Async.awaited (UtpConn.sendUtpPacket world.ackPacket))).bind fun _ =>
            .pure true) :=
        .read fun world => ((sendUtpPacket_plain _).awaited.discard.bind fun _ => .pure true) world
      refine (Plain.modify _).bind (fun _ => ?_) world hsend
      cases packet.data with
      | none => exact hanswer
      | some data => exact (writeRecvBuffer_plain data).bind fun _ => hanswer

/-! ## What stands before such a call -/

/-- The connection was reset while nothing keeps datagrams from being sent. -/
def Dead (world : World) : Prop :=
  world.utp.udpSend = UtpSocket.sendWhole ∧ world.conn.localState = .CS_RESET

/-- Run on a reset connection, the task leaves it reset. -/
def Returns {α : Type} (task : ConnM α) : Prop :=
  ∀ world, Dead world → ∃ next result, task.run world = some (next, result) ∧ Dead next

/-- Run on a reset connection, the task leaves it reset and does not fail. -/
def Passes {α : Type} (task : ConnM α) : Prop := task.Completes Dead fun _ => Dead

/-- Run on some reset connection, the task fails as `trySafeRelease` does. -/
def RunsInto {α : Type} (task : ConnM α) : Prop :=
  ∃ world final, Dead world ∧ task.run world = some (final, .error notInCloseWait)

section Passes

variable {α β : Type}

/-- Tasks that pass, one after the other, pass. -/
theorem Passes.bind {task : ConnM α} {next : α → ConnM β} (htask : Passes task)
    (hnext : ∀ value, Passes (next value)) : Passes (task.bind next) :=
  Async.Completes.bind htask hnext

theorem Passes.awaited {task : ConnM α} (htask : Passes task) : Passes task.awaited :=
  Async.Completes.awaited htask

theorem Passes.pure (value : α) : Passes (Async.pure value) := Async.Completes.pure fun _ => id

/-- A write passes if it leaves a reset connection reset. -/
theorem Passes.modify {change : World → World}
    (hchange : ∀ world, Dead world → Dead (change world)) :
    Passes (Async.modify change) := Async.Completes.modify hchange

theorem Passes.discard {task : ConnM α} (htask : Passes task) : Passes task.discard :=
  Async.Completes.discard htask

theorem Passes.returns {task : ConnM α} (htask : Passes task) : Returns task := by
  intro world hdead
  obtain ⟨value, next, hrun, hnext⟩ := htask world hdead
  exact ⟨next, .ok value, hrun, hnext⟩

/-- Tasks that return, one after the other, return. -/
theorem Returns.bind {task : ConnM α} {next : α → ConnM β} (htask : Returns task)
    (hnext : ∀ value, Returns (next value)) : Returns (task.bind next) := by
  intro world hdead
  obtain ⟨later, result, hrun, hlater⟩ := htask world hdead
  cases result with
  | ok value =>
      obtain ⟨final, last, hlast, hfinal⟩ := hnext value later hlater
      refine ⟨final, last, ?_, hfinal⟩
      rw [Async.run_bind, hrun]
      exact hlast
  | error error =>
      refine ⟨later, .error error, ?_, hlater⟩
      rw [Async.run_bind, hrun]
      rfl

theorem Returns.awaited {task : ConnM α} (htask : Returns task) : Returns task.awaited := by
  intro world hdead
  rw [Async.run_awaited]
  exact htask world hdead

/-- What a task fails with is handled, so that the `try` passes. -/
theorem Returns.attempt {task : ConnM α} {handler : String → ConnM α} (htask : Returns task)
    (hhandler : ∀ error, Passes (handler error)) : Passes (task.attempt handler) := by
  intro world hdead
  obtain ⟨later, result, hrun, hlater⟩ := htask world hdead
  cases result with
  | ok value =>
      refine ⟨value, later, ?_, hlater⟩
      rw [Async.run_attempt, hrun]
      rfl
  | error error =>
      obtain ⟨last, final, hlast, hfinal⟩ := hhandler error later hlater
      refine ⟨last, final, ?_, hfinal⟩
      rw [Async.run_attempt, hrun]
      exact hlast

/-- A failure of the first task is one of the sequence. -/
theorem RunsInto.bind {task : ConnM α} {next : α → ConnM β} (htask : RunsInto task) :
    RunsInto (task.bind next) := by
  obtain ⟨world, final, hdead, hrun⟩ := htask
  refine ⟨world, final, hdead, ?_⟩
  rw [Async.run_bind, hrun]
  rfl

theorem RunsInto.awaited {task : ConnM α} (htask : RunsInto task) : RunsInto task.awaited := by
  obtain ⟨world, final, hdead, hrun⟩ := htask
  exact ⟨world, final, hdead, by rw [Async.run_awaited, hrun]⟩

end Passes

/-- A runtime that takes every datagram whole does not fail. -/
theorem sendResult_ok {world : World} (hsend : world.utp.udpSend = UtpSocket.sendWhole)
    (packet : UtpPacket) (remoteAddr : UtpAddr) :
    world.sendResult packet remoteAddr = .ok packet.toBytes.length := by
  simp [sendResult, hsend, UtpSocket.sendWhole]

/-- Handing a packet to the socket passes. -/
theorem udpSend_passes (calledIn : Option UtpConnState) (packet : UtpPacket)
    (remoteAddr : UtpAddr) : Passes (UtpSocket.sendUtpPacket calledIn packet remoteAddr) := by
  intro world hdead
  rw [sendUtpPacket_eq, Async.run_bind]
  simp only [Async.run_get, Option.bind_some]
  split
  next => exact ⟨0, world, rfl, hdead⟩
  next =>
    rw [sendResult_ok hdead.1]
    exact ⟨packet.toBytes.length, world.transmit calledIn packet remoteAddr, rfl, hdead⟩

/-- What a datagram that is out comes to on its way back through its caller. -/
theorem await_ends {α : Type} (result : Except String α) :
    Returns (Async.await (fun _ => true) (Async.finished result)) := by
  intro world hdead
  refine ⟨world, result, ?_, hdead⟩
  cases result with
  | ok => rfl
  | error => rfl

/-- What the loop of `resend` does after it has looked at one packet. -/
def resendRest (now : Nat) (rest : List Nat) : Option UtpPacketWithExtraInfo → ConnM Unit
  | none => UtpSendWindow.resendLoop now rest
  | some again => (Async.discard (Async.awaited (UtpSocket.sendUtpPacket none again.packet
      again.remoteAddr))).bind fun _ => UtpSendWindow.resendLoop now rest

/-- Sending again what is due passes. -/
theorem resendLoop_passes (now : Nat) (seqNrs : List Nat) :
    Passes (UtpSendWindow.resendLoop now seqNrs) := by
  induction seqNrs with
  | nil => exact .pure ()
  | cons seqNr rest ih =>
      intro world hdead
      have hwindow : ∀ (window : UtpSendWindow) world, Dead world → Dead (world.setWindow window) :=
        fun _ _ h => h
      have hrest : ∀ again, Passes (resendRest now rest again) := by
        intro again
        cases again with
        | none => exact ih
        | some again => exact (udpSend_passes _ _ _).awaited.discard.bind fun _ => ih
      have hnext : Passes ((Async.modify fun world =>
          world.setWindow (world.conn.sendWindow.resendOne now seqNr).1).bind fun _ =>
            resendRest now rest (world.conn.sendWindow.resendOne now seqNr).2) :=
        (Passes.modify fun world => hwindow _ world).bind fun _ => hrest _
      exact hnext world hdead

/-! ## Tasks that count on the state -/

section Counting

variable {α β : Type} {relies weaker : ConnM α → Prop} {post : Except String α → World → Prop}

/-- The task counts, at its awaits, on the connection to wait for its release. -/
def Depends (relies : ConnM α → Prop) (post : Except String α → World → Prop) (task : ConnM α)
    (world : World) : Prop :=
  task.CountsOn HonestSend KeepsSend relies Waiting
    (fun result later => Blameless result ∧ later.HonestSend ∧ post result later) world

/-- The task holds the state to its end, however it ends. -/
def Holding (task : ConnM α) : Prop := ∀ world : World, world.HonestSend → world.Waiting →
  Depends Returns (fun _ later => later.Waiting) task world

/-- The task holds the state to its end, unless it fails. -/
def Passing (task : ConnM α) : Prop := ∀ world : World, world.HonestSend → world.Waiting →
  Depends Passes (fun result later => result.isOk = true → later.Waiting) task world

/-- The task calls `trySafeRelease` only in the state it counts on. -/
def Careful (task : ConnM α) : Prop := ∀ world : World, world.HonestSend →
  Depends RunsInto (fun _ _ => True) task world

/-- A sequence counts on the state if both tasks do. -/
theorem Depends.bind {task : ConnM α} {next : α → ConnM β} {relies : ConnM β → Prop}
    {last : Except String β → World → Prop} {early : ConnM α → Prop}
    {world : World} (htask : Depends early post task world)
    (hrelies : ∀ rest, early rest → relies (rest.bind next))
    (hnext : ∀ value later, later.HonestSend → post (.ok value) later →
      Depends relies last (next value) later)
    (hfailed : ∀ error later, post (.error error) later → last (.error error) later) :
    Depends relies last (task.bind next) world := by
  refine Async.countsOn_bind.mpr (htask.mono hrelies fun result later hresult => ?_)
  cases result with
  | ok value => exact hnext value later hresult.2.1 hresult.2.2
  | error error => exact ⟨hresult.1.error, hresult.2.1, hfailed error later hresult.2.2⟩

/-- What a call comes to, on its way back through a caller that counts on the state. -/
theorem Depends.returned {result : Except String α} {world : World} (hwaiting : world.Waiting)
    (hrelies : relies (.await (fun _ => true) (Async.finished result)))
    (hblameless : Blameless result)
    (hpost : ∀ later : World, later.Waiting → post result later) :
    Depends relies post (.await (fun _ => true) (Async.finished result)) world := by
  refine .inr ⟨hwaiting, hrelies, fun later hlater hheld _ => ?_⟩
  cases result with
  | ok value => exact ⟨hblameless, hlater, hpost later hheld⟩
  | error error => exact ⟨hblameless, hlater, hpost later hheld⟩

/-- As `Depends.returned`, where nothing of what follows needs the state. -/
theorem Depends.returned_anyhow {result : Except String α} {world : World}
    (hblameless : Blameless result) (hpost : ∀ later, post result later) :
    Depends relies post (.await (fun _ => true) (Async.finished result)) world := by
  refine .inl fun later hlater _ => ?_
  cases result with
  | ok value => exact ⟨hblameless, hlater, hpost later⟩
  | error error => exact ⟨hblameless, hlater, hpost later⟩

theorem Holding.awaited {task : ConnM α} (htask : Holding task) : Holding task.awaited := by
  intro world hsend hwaiting
  refine Async.countsOn_awaited.mpr
    ((htask world hsend hwaiting).mono (fun rest hrest => hrest.awaited) fun result later h => ?_)
  exact Depends.returned h.2.2 (await_ends result) h.1 fun _ hheld => hheld

theorem Passing.awaited {task : ConnM α} (htask : Passing task) : Passing task.awaited := by
  intro world hsend hwaiting
  refine Async.countsOn_awaited.mpr
    ((htask world hsend hwaiting).mono (fun rest hrest => hrest.awaited) fun result later h => ?_)
  cases result with
  | ok value =>
      exact Depends.returned (h.2.2 rfl) (Passes.awaited (.pure value)) h.1 fun _ hheld _ => hheld
  | error error => exact Depends.returned_anyhow h.1 fun _ => nofun

/-- An await adds nothing to count on. -/
theorem Careful.awaited {task : ConnM α} (htask : Careful task) : Careful task.awaited := by
  intro world hsend
  refine Async.countsOn_awaited.mpr
    ((htask world hsend).mono (fun rest hrest => hrest.awaited) fun result later h => ?_)
  exact Depends.returned_anyhow h.1 fun _ => trivial

theorem Holding.discard {task : ConnM α} (htask : Holding task) : Holding task.discard := by
  intro world hsend hwaiting
  refine (htask world hsend hwaiting).bind (fun rest hrest => hrest.bind fun _ => ?_)
    (fun value later hlater hheld => ⟨blameless_ok (), hlater, hheld⟩) fun _ _ hheld => hheld
  exact (Passes.pure ()).returns

/-- A task that holds the state, followed by one that does. -/
theorem Passing.bind {task : ConnM α} {next : α → ConnM β} (htask : Passing task)
    (hpasses : ∀ value, Passes (next value)) (hnext : ∀ value, Passing (next value)) :
    Passing (task.bind next) := by
  intro world hsend hwaiting
  refine (htask world hsend hwaiting).bind (fun rest hrest => hrest.bind hpasses)
    (fun value later hlater hheld => hnext value later hlater (hheld rfl)) fun _ _ _ => nofun

theorem Careful.bind {task : ConnM α} {next : α → ConnM β} (htask : Careful task)
    (hnext : ∀ value, Careful (next value)) : Careful (task.bind next) :=
  fun world hsend => (htask world hsend).bind (fun _ hrest => hrest.bind)
    (fun value later hlater _ => hnext value later hlater) fun _ _ _ => trivial

/-- A plain task counts on nothing. -/
theorem Plain.careful {task : ConnM α} (htask : Plain task) : Careful task :=
  fun world hsend => ((htask world hsend).mono fun _ _ h => ⟨h.1, h.2, trivial⟩).countsOn

/-- A failure is caught, so the task that held the state does not fail. -/
theorem Holding.attempt {task : ConnM α} {value : α} (htask : Holding task) :
    Passing (task.attempt fun _ => .pure value) := by
  intro world hsend hwaiting
  refine Async.countsOn_attempt.mpr ((htask world hsend hwaiting).mono
    (fun rest hrest => hrest.attempt fun _ => .pure value) fun result later h => ?_)
  cases result with
  | ok value => exact ⟨blameless_ok value, h.2.1, fun _ => h.2.2⟩
  | error error => exact ⟨blameless_ok value, h.2.1, fun _ => h.2.2⟩

end Counting

theorem Waiting.transmit {world : World} (h : world.Waiting) (calledIn : Option UtpConnState)
    (packet : UtpPacket) (remoteAddr : UtpAddr) :
    (world.transmit calledIn packet remoteAddr).Waiting := h

/-- Handing a packet to the socket holds the state. -/
theorem udpSend_holding (calledIn : Option UtpConnState) (packet : UtpPacket)
    (remoteAddr : UtpAddr) : Holding (UtpSocket.sendUtpPacket calledIn packet remoteAddr) := by
  intro world hsend hwaiting
  rw [sendUtpPacket_eq]
  show Depends _ _ (ite _ _ _) world
  split
  next => exact ⟨blameless_ok 0, hsend, hwaiting⟩
  next =>
    exact fun _ => Depends.returned (hwaiting.transmit _ _ _) (await_ends _)
      (sendResult_blameless hsend packet remoteAddr) fun _ hheld => hheld

/-- Handing a packet to the socket holds the state and does not fail on a reset connection. -/
theorem udpSend_passing (calledIn : Option UtpConnState) (packet : UtpPacket)
    (remoteAddr : UtpAddr) : Passing (UtpSocket.sendUtpPacket calledIn packet remoteAddr) := by
  intro world hsend hwaiting
  rw [sendUtpPacket_eq]
  show Depends _ _ (ite _ _ _) world
  split
  next => exact ⟨blameless_ok 0, hsend, fun _ => hwaiting⟩
  next =>
    have hblameless := sendResult_blameless hsend packet remoteAddr
    cases hresult : world.sendResult packet remoteAddr with
    | ok n =>
        exact fun _ => Depends.returned (hwaiting.transmit _ _ _) (Passes.awaited (.pure n))
          (blameless_ok n) fun _ hheld _ => hheld
    | error error =>
        rw [hresult] at hblameless
        exact fun _ => Depends.returned_anyhow hblameless fun _ => nofun

/-- Nothing enters the window any more, so only the datagram is awaited. -/
theorem sendUtpPacket_holding (packet : UtpPacket) : Holding (UtpConn.sendUtpPacket packet) := by
  intro world hsend hwaiting hallowed
  have hstate : world.touch.conn.localState = .CS_CLOSE_WAIT := hwaiting
  show Depends _ _ (ite _ _ _) world.touch
  rw [if_neg (by simp [UtpConn.isClosed, hstate])]
  show Depends _ _ (ite _ _ _) world.touch
  rw [if_neg (by simp [UtpConn.isConnected, hstate])]
  exact (udpSend_holding _ packet _).awaited world.touch (hallowed hsend) hwaiting

/-- The answer to a FIN holds the state. -/
theorem replyFin_passing : Passing UtpConn.replyFin := by
  intro world hsend hwaiting
  show Depends _ _ (ite _ _ _) world
  split
  next =>
    have hsending : Holding ((Async.modify World.takeFin).bind fun _ =>
        Async.discard (Async.awaited (UtpConn.sendUtpPacket world.finPacket))) :=
      fun world hsend hwaiting hallowed =>
        (sendUtpPacket_holding _).awaited.discard world.takeFin (hallowed hsend) hwaiting
    exact hsending.attempt world hsend hwaiting
  next => exact ⟨blameless_ok (), hsend, fun _ => hwaiting⟩

/-- Sending again what is due holds the state. -/
theorem resendLoop_passing (now : Nat) (seqNrs : List Nat) :
    Passing (UtpSendWindow.resendLoop now seqNrs) := by
  induction seqNrs with
  | nil => exact fun world hsend hwaiting => ⟨blameless_ok (), hsend, fun _ => hwaiting⟩
  | cons seqNr rest ih =>
      intro world hsend hwaiting hallowed
      have hnext : Passing
          (resendRest now rest (world.conn.sendWindow.resendOne now seqNr).2) := by
        cases (world.conn.sendWindow.resendOne now seqNr).2 with
        | none => exact ih
        | some again =>
            have hdiscard : Passing (Async.discard (Async.awaited (UtpSocket.sendUtpPacket none
                again.packet again.remoteAddr))) :=
              (udpSend_passing _ _ _).awaited.bind (fun _ => .pure ())
                fun _ world hsend hwaiting => ⟨blameless_ok (), hsend, fun _ => hwaiting⟩
            exact hdiscard.bind (fun _ => resendLoop_passes now rest) fun _ => ih
      exact hnext _ (hallowed hsend) hwaiting

theorem resend_passing : Passing UtpSendWindow.resend :=
  fun world => resendLoop_passing _ _ world

/-! ## The two callers -/

/-- A release that finds the connection waiting does not fail as it would otherwise. -/
theorem trySafeRelease_plain {world : World} (hsend : world.HonestSend) (hwaiting : world.Waiting) :
    PlainAt UtpConn.trySafeRelease world := by
  have hstate : ¬ world.conn.localState ≠ .CS_CLOSE_WAIT := not_not_intro hwaiting
  show PlainAt (ite _ _ _) world
  rw [if_neg hstate]
  have hforce : PlainAt (.modify forceClose) world := Plain.modify _ world hsend
  split
  next => exact hforce
  next =>
    split
    next => exact hforce
    next =>
      split
      next => exact Plain.pure () world hsend
      next =>
        split
        next =>
          refine (Plain.modify _).bind (fun _ => ?_) world hsend
          exact (sendUtpPacket_plain _).awaited.discard
        next => exact Plain.modify _ world hsend

/-- A reset connection to run tasks on. -/
def someDead : World :=
  (create 0 .sample true (.localhost 9000) 2 1 1 0).setLocalState .CS_RESET

theorem someDead_dead : Dead someDead := ⟨rfl, rfl⟩

/-- A release behind a task that passes fails on a reset connection. -/
theorem Passes.runsInto {α β : Type} {task : ConnM α} {next : α → ConnM β} (htask : Passes task)
    (hnext : ∀ value world, Dead world →
      ∃ final, (next value).run world = some (final, .error notInCloseWait)) :
    RunsInto (task.bind next) := by
  obtain ⟨value, later, hrun, hdead⟩ := htask someDead someDead_dead
  obtain ⟨final, hfinal⟩ := hnext value later hdead
  refine ⟨someDead, final, someDead_dead, ?_⟩
  rw [Async.run_bind, hrun]
  exact hfinal

/-- On a reset connection `trySafeRelease` fails at once. -/
theorem run_trySafeRelease {world : World} (hdead : Dead world) :
    UtpConn.trySafeRelease.run world = some (world, .error notInCloseWait) := by
  have hstate : world.conn.localState ≠ .CS_CLOSE_WAIT := by simp [hdead.2]
  show Async.run (ite _ _ _) world = _
  rw [if_pos hstate]
  rfl

/-- The handler of a FIN calls `trySafeRelease` behind its answer. -/
theorem handleFin_careful (packet : UtpPacket) : Careful (UtpConn.handleFin packet) := by
  intro world hsend hallowed
  have hrelease : ∀ world, Dead world →
      ((Async.modify drain).bind fun _ => UtpConn.trySafeRelease.awaited).run world =
        some (world.drain, .error notInCloseWait) := by
    intro world hdead
    rw [Async.run_bind, Async.run_modify]
    simp only [Option.bind_some, Async.run_awaited]
    exact run_trySafeRelease hdead
  refine (replyFin_passing _ (hallowed hsend) rfl).bind
    (fun rest hrest => hrest.runsInto fun _ world hdead => ⟨_, hrelease world hdead⟩)
    (fun _ later hlater hheld hallowed => ?_) fun _ _ _ => trivial
  have hplain := (trySafeRelease_plain (hallowed hlater) (hheld rfl)).awaited
  exact (hplain.mono fun _ _ h => ⟨h.1, h.2, trivial⟩).countsOn

/-- Only a FIN leads from the queue to `trySafeRelease`. -/
theorem insertPacket_careful (packet : UtpPacket) : Careful (UtpConn.insertPacket packet) := by
  have hanswer : Plain (UtpConn.sendAck.bind fun _ => .pure true) :=
    sendAck_plain.bind fun _ => .pure true
  refine (Plain.modify _).careful.bind fun _ =>
    processReceivedPackets_plain.awaited.careful.bind fun _ => ?_
  show Careful (ite _ _ _)
  split
  next => exact (handleFin_careful packet).bind fun _ => hanswer.careful
  next => exact hanswer.careful

/-- In `CS_CONNECTED` only a FIN leads to `trySafeRelease`. -/
theorem handleAtConnected_careful (packet : UtpPacket) :
    Careful (UtpConn.handleAtConnected packet) := by
  intro world hsend
  show Depends _ _ (ite _ _ _) world
  split
  next => exact (Plain.pure false).careful world hsend
  next =>
    show Depends _ _ (ite _ _ _) world
    split
    next => exact (Plain.pure false).careful world hsend
    next =>
      show Depends _ _ (ite _ _ _) world
      split
      next => exact (Plain.pure false).careful world hsend
      next =>
        show Depends _ _ (ite _ _ _) world
        have hinsert := insertPacket_careful packet
        split
        next =>
          exact (processReceivedPackets_plain.awaited.careful.bind fun _ => hinsert) world hsend
        next => exact hinsert world hsend

/-- In no state is `trySafeRelease` called without its condition. -/
theorem handleInState_careful (packet : UtpPacket) (state : UtpConnState) :
    Careful (UtpConn.handleInState packet state) := by
  cases state with
  | CS_SYN_SENT => exact (handleAtSynSent_plain packet).awaited.careful
  | CS_SYN_RECV => exact (handleAtSynReceived_plain packet).awaited.careful
  | CS_CONNECTED => exact (handleAtConnected_careful packet).awaited
  | CS_CLOSE_WAIT =>
      show Careful (ite _ _ _)
      split
      next => exact ((awaitHandleAck_plain packet).bind fun _ => .pure true).careful
      next => exact (Plain.pure false).careful
  | CS_CLOSED => exact (Plain.pure false).careful
  | CS_RESET => exact (Plain.pure false).careful

/-- The handler of a packet is careful. -/
theorem handleIncomingPacket_careful (packet : UtpPacket) :
    Careful (UtpConn.handleIncomingPacket packet) := by
  have hhandle : Careful ((Async.get : ConnM World).bind fun world =>
      (UtpConn.handleInState packet world.conn.localState).bind fun handled =>
        if handled then (Async.modify noteHandled).bind fun _ => .pure handled
        else .pure handled) := by
    refine fun world => (handleInState_careful packet _).bind (fun handled => ?_) world
    split
    next => exact ((Plain.modify _).bind fun _ => .pure handled).careful
    next => exact (Plain.pure handled).careful
  show Careful (ite _ _ _)
  split
  next => exact (awaitHandleAck_plain packet).careful.bind fun _ => hhandle
  next => exact hhandle

/-- The timer calls `trySafeRelease` in the state that it has just found. -/
theorem timeoutCheck_careful : Careful UtpConn.timeoutCheck := by
  have hresend : Plain UtpSendWindow.timeoutCheck := resend_plain.awaited
  unfold UtpConn.timeoutCheck
  intro world hsend
  have hopen : ∀ (condition : Prop) [Decidable condition], Careful (if condition then
      (Async.discard (Async.awaited (UtpConn.sendUtpPacket world.ackPacket))).bind fun _ =>
        (Async.modify fun now => now.setLastLiveTime world.utp.performanceNow).bind fun _ =>
          Async.awaited UtpSendWindow.timeoutCheck
      else Async.awaited UtpSendWindow.timeoutCheck) := by
    intro condition _
    split
    next =>
      exact ((sendUtpPacket_plain _).awaited.discard.bind fun _ =>
        (Plain.modify _).bind fun _ => hresend.awaited).careful
    next => exact hresend.awaited.careful
  simp only [Depends, Async.bind_eq, Async.bind, Async.get, Async.CountsOn]
  split
  next =>
    show Depends _ _ (ite _ _ _) world
    split
    next => exact (Plain.modify _).careful world hsend
    next => exact (Plain.pure ()).careful world hsend
  next => exact hopen _ world hsend
  next => exact hopen _ world hsend
  next hwaiting =>
    refine (resend_passing.awaited.awaited world hsend hwaiting).bind
      (fun rest hrest => hrest.runsInto fun _ world hdead => ⟨world, ?_⟩)
      (fun _ later hlater hheld => ?_) fun _ _ _ => trivial
    · rw [Async.run_awaited]
      exact run_trySafeRelease hdead
    · have hplain := (trySafeRelease_plain hlater (hheld rfl)).awaited
      exact (hplain.mono fun _ _ h => ⟨h.1, h.2, trivial⟩).countsOn
  next => exact (Plain.pure ()).careful world hsend
  next => exact (Plain.pure ()).careful world hsend

/-! ## All interleavings -/

/-- No write changes what the runtime's `send` fails with. -/
theorem Act.keepsSend {receiving closing writing : Bool} {world next : World}
    (hact : Act receiving closing writing world next) : world.KeepsSend next := by
  intro hsend
  cases hact with
  | env henv => exact henv.honest hsend
  | _ => exact hsend

/-- The tasks that call `trySafeRelease` outside a `try`. -/
def Releasing (label : Label) : Prop := label = .receive ∨ label = .timeoutCheck

/-- All tasks that call `trySafeRelease` are careful. -/
theorem spawns_careful {admits : World → UtpPacket → Prop} {world : World} {label : Label}
    {task : ConnM Unit} (hreleasing : Releasing label)
    (hspawns : Spawns admits world label task) : Careful task := by
  cases hspawns with
  | receive packet =>
      exact (handleIncomingPacket_careful packet).bind fun _ => (Plain.pure ()).careful
  | timeoutCheck => exact timeoutCheck_careful
  | _ => simp [Releasing] at hreleasing

/-- A turn that can be taken now does not end in the failure of `trySafeRelease`. -/
structure Releases (config : Config World Label) : Prop where
  starts : ∀ label task, Releasing label → Spawns anyPacket config.state label task →
    task.ending config.state ≠ some (.error notInCloseWait)
  goes_on : ∀ label ready rest, (label, .await ready rest) ∈ config.tasks → Releasing label →
    ready config.state = true → rest.ending config.state ≠ some (.error notInCloseWait)

/-- No write takes the connection out of close-wait while what is left of another task
comes to a `trySafeRelease` outside a `try`. -/
def waitsForRelease : Guard World Label := TaskSystem.keepsHold RunsInto Waiting

/-- Creating a connection leaves the runtime's `send` as it is. -/
theorem connectTo_udpSend (self : Nat) (utp : UtpSocket) (isInitiator : Bool)
    (remoteAddr : UtpAddr) (sendId recvId seqNr ackNr : Nat) :
    (connectTo self utp isInitiator remoteAddr sendId recvId seqNr ackNr).state.utp.udpSend =
      utp.udpSend := by
  cases utp with
  | mk state => cases isInitiator <;> cases state <;> rfl

/-- If nothing takes the connection out of close-wait while a FIN handler or a timer
check is still to release it, then no such release fails. The failures of the
runtime's `send` have other texts. -/
theorem releases_waiting {self : Nat} {utp : UtpSocket} {isInitiator : Bool}
    {remoteAddr : UtpAddr} {sendId recvId seqNr ackNr : Nat} (hseqNr : seqNr < 65536)
    (hsend : ∀ bytes remoteAddr, utp.udpSend bytes remoteAddr ≠ .error notInCloseWait)
    {config : Config World Label}
    (hrun : (connSystem anyLabel anyPacket).Guarded waitsForRelease
      (connectTo self utp isInitiator remoteAddr sendId recvId seqNr ackNr) config) :
    Releases config := by
  have hhere : ∀ {config}, (connSystem anyLabel anyPacket).Guarded waitsForRelease
      (connectTo self utp isInitiator remoteAddr sendId recvId seqNr ackNr) config →
        config.state.HonestSend := by
    intro config hrun
    refine guarded_keeps hseqNr .refl hrun HonestSend
      (fun _ _ _ _ hhonest hact _ => hact.keepsSend hhonest)
      (fun _ _ hhonest henv => henv.honest hhonest) ?_
    intro bytes remoteAddr
    rw [connectTo_udpSend]
    exact hsend bytes remoteAddr
  have hmoving := connectTo_moving self utp isInitiator remoteAddr sendId recvId seqNr ackNr hseqNr
  have hwrites : ∀ start target, (connSystem anyLabel anyPacket).Write
      (connectTo self utp isInitiator remoteAddr sendId recvId seqNr ackNr) start target →
        start.KeepsSend target :=
    fun start target hwrite => (connSystem_acts.write hmoving hwrite).keepsSend
  have hspawn : ∀ (world : World) label task, Releasing label → world.HonestSend →
      (connSystem anyLabel anyPacket).spawn world label task →
        Depends RunsInto (fun _ _ => True) task world :=
    fun world _ _ hreleasing hhonest hspawned =>
      spawns_careful hreleasing hspawned.2 world hhonest
  have hinitial : ∀ entry ∈ (connectTo self utp isInitiator remoteAddr sendId recvId seqNr
      ackNr).tasks, ¬ Releasing entry.1 := by
    intro entry hentry hreleasing
    rw [connectTo_labels self utp isInitiator remoteAddr sendId recvId seqNr ackNr entry hentry]
      at hreleasing
    simp [Releasing] at hreleasing
  have hcounts := TaskSystem.counts hspawn
    (fun start target henv hwaiting => by
      unfold Waiting
      rwa [henv.conn])
    hinitial hwrites (fun config hrun => hhere hrun) hrun
  have hreachable := TaskSystem.Guarded.reachable hrun
  refine ⟨fun label task hreleasing hspawns hfailed => ?_,
    fun label ready rest hentry hreleasing hready hfailed => ?_⟩
  · have hmoves : task.Moves (Async.Chain (Act true true true)) (Act true true true)
        (fun _ _ => True) config.state :=
      spawns_acts (connSystem_acts.reachable hmoving hreachable).2.inv hspawns (fun _ => rfl)
        (fun _ => rfl) fun _ => rfl
    have hturn := (spawns_careful hreleasing hspawns config.state (hhere hrun)).turn
      fun write hwrite => (Async.writes_move hmoves write hwrite).keepsSend
    exact (hturn.1 _ hfailed).1 rfl
  · have htask : Depends RunsInto (fun _ _ => True) rest config.state :=
      (hcounts _ hentry hreleasing).2.elim (fun hfree => hfree _ (hhere hrun) hready)
        fun hheld => hheld.2.2 _ (hhere hrun) hheld.1 hready
    have hturn := htask.turn fun write hwrite =>
      hwrites _ _ (.resume hreachable hentry hready hwrite)
    exact (hturn.1 _ hfailed).1 rfl

/-! ## Concrete runs -/

/-- A write that does not take the connection out of close-wait. -/
def keepsWaiting (write : World × World) : Bool :=
  decide (write.1.conn.localState = .CS_CLOSE_WAIT → write.2.conn.localState = .CS_CLOSE_WAIT)

/-- A task is launched whose first turn stays in close-wait. -/
theorem launch_waitsForRelease {config : Config World Label} {label : Label} {task : ConnM Unit}
    (hspawns : Spawns anyPacket config.state label task)
    (hfree : label = .receive →
      config.tasks.all (fun other => decide (other.1 ≠ .receive)) = true)
    (hkeeps : (task.writes config.state).all keepsWaiting = true) :
    (connSystem anyLabel anyPacket).GuardedStep waitsForRelease config
      (config.launch label task) := by
  refine .launch ⟨trivial, hspawns⟩ (fun hreceive other hother => ?_) fun write hwrite _ hwaiting =>
    of_decide_eq_true (List.all_eq_true.mp hkeeps write hwrite) hwaiting
  rw [show label = .receive from hreceive]
  exact of_decide_eq_true (List.all_eq_true.mp (hfree hreceive) other hother)

/-- Tasks go on in turns that stay in close-wait. -/
theorem resumes_waitsForRelease {config : Config World Label} {positions : List Nat}
    (hkeeps : (TaskSystem.resumesWrites config positions).all keepsWaiting = true) :
    (connSystem anyLabel anyPacket).Guarded waitsForRelease config (config.resumes positions) :=
  .resumes _ fun write hwrite _ _ _ hwaiting =>
    of_decide_eq_true (List.all_eq_true.mp hkeeps write hwrite) hwaiting

/-- The handler of a FIN waits for its reply to be sent, and so does a timer check for what it
sends again. -/
def replying : Config World Label :=
  (((established 0 .sample (.localhost 9000) 1 100).launch .receive (handling earlyFin)).resumes
    [0, 0]).launch .timeoutCheck UtpConn.timeoutCheck

/-- A FIN handler and a timer check are both suspended, and neither fails its release. -/
theorem releases_waiting_sample :
    replying.tasks.map Prod.fst = [.receive, .timeoutCheck] ∧
      replying.state.conn.localState = .CS_CLOSE_WAIT ∧ Releases replying := by
  have hsyn : (connSystem anyLabel anyPacket).Guarded waitsForRelease
      (connectTo 0 .sample true (.localhost 9000) 2 1 1 0)
      ((connectTo 0 .sample true (.localhost 9000) 2 1 1 0).resumes [0, 0, 0, 0]) :=
    resumes_waitsForRelease (by decide +kernel)
  have hanswer := hsyn.tail (launch_waitsForRelease (.receive (synAck 1 100) trivial)
    (fun _ => by decide +kernel) (by decide +kernel))
  have hopen : (connSystem anyLabel anyPacket).Guarded waitsForRelease
      (connectTo 0 .sample true (.localhost 9000) 2 1 1 0)
      (established 0 .sample (.localhost 9000) 1 100) :=
    hanswer.trans (resumes_waitsForRelease (by decide +kernel))
  have hfin := hopen.tail (launch_waitsForRelease (.receive earlyFin trivial)
    (fun _ => by decide +kernel) (by decide +kernel))
  have hreplies := hfin.trans (@resumes_waitsForRelease _ [0, 0] (by decide +kernel))
  have hchecks := hreplies.tail
    (launch_waitsForRelease .timeoutCheck nofun (by decide +kernel))
  exact ⟨by decide +kernel, by decide +kernel,
    releases_waiting (by decide) (fun _ _ hfailed => by cases hfailed) hchecks⟩

/-- A suspended handler that is about to fail its release. -/
def failsRelease (world : World) (entry : Label × ConnM Unit) : Bool :=
  decide (entry.1 = .receive) &&
    match entry.2 with
    | .await ready rest => ready world &&
        match rest.ending world with
        | some (.error error) => decide (error = notInCloseWait)
        | _ => false
    | _ => false

/-- A reset while the handler of a FIN waits for its reply to be sent: the handler
goes on to a release that fails, and so the receive loop of the socket ends. -/
theorem reset_fails_release :
    ¬ ∀ config, (connSystem anyLabel anyPacket).Reachable
        (connectTo 0 .sample true (.localhost 9000) 2 1 1 0) config → Releases config := by
  intro hclaim
  let answering := ((established 0 .sample (.localhost 9000) 1 100).launch .receive
    (handling earlyFin)).resumes [0, 0]
  let failing := (answering.launch .reset UtpConn.reset).resumes [0, 0, 0]
  have hanswering : (connSystem anyLabel anyPacket).Reachable
      (connectTo 0 .sample true (.localhost 9000) 2 1 1 0) answering :=
    (sample_receiving earlyFin).resumes _
  have hreleases := hclaim failing (.resumes (hanswering.step
    (.launch ⟨trivial, .reset⟩ (by intro hreceive; cases hreceive))) _)
  have hfailing : failing.tasks.any (failsRelease failing.state) = true := by decide +kernel
  obtain ⟨⟨label, task⟩, hentry, hfails⟩ := List.any_eq_true.mp hfailing
  cases task with
  | await ready rest =>
      simp only [failsRelease, Bool.and_eq_true, decide_eq_true_eq] at hfails
      obtain ⟨hlabel, hready, hends⟩ := hfails
      refine hreleases.goes_on label ready rest hentry (.inl hlabel) hready ?_
      split at hends
      next error herror => rw [herror, of_decide_eq_true hends]
      next => cases hends
  | _ => simp [failsRelease] at hfails

end World

end Utp
