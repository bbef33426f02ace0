import Utp.Conn.Terminal

/-! # What connection code does to the connection and its table

Sending spares the state, the queue and the table. Only a termination touches the
table, and then it removes the entry under the connection's own id. A write that
closes the connection does so for one of five reasons.
-/

namespace Utp

/-- The tasks of `waitForConnecting`, which settle the promise of `connectTo`. -/
def Label.settles : Label → Bool
  | .connect | .connectTimeout => true
  | _ => false

namespace World

/-- The connection is still the same one, on the same runtime. -/
structure SameConn (world next : World) : Prop where
  self : next.self = world.self
  remoteAddr : next.conn.remoteAddr = world.conn.remoteAddr
  localSendId : next.conn.localSendId = world.conn.localSendId
  localRecvId : next.conn.localRecvId = world.conn.localRecvId
  udpSend : next.utp.udpSend = world.utp.udpSend

/-- Neither the state nor the queue of the connection changes, nor the table. -/
structure Rests (world next : World) : Prop extends world.SameConn next where
  localState : next.conn.localState = world.conn.localState
  recvPacketQueue : next.conn.recvPacketQueue = world.conn.recvPacketQueue
  connTable : next.utp.connTable = world.utp.connTable

/-- Nor does the promise of `connectTo`. -/
structure Spares (world next : World) : Prop extends world.Rests next where
  connecting : next.conn.connecting = world.conn.connecting

/-- The writes that end the connection and remove its entry from the table. -/
inductive Terminates (world : World) : World → Prop
  | resetNow : Terminates world world.resetNow
  | forceClose : Terminates world world.forceClose
  | release : Terminates world world.release

/-- The table keeps its entries, unless the connection is ended. -/
structure Leaves (world next : World) : Prop extends world.SameConn next where
  connTable : next.utp.connTable = world.utp.connTable ∨ world.Terminates next

/-- Why a write closes the connection. `polling` admits the error path of the interval of
`close`, which closes without looking. -/
inductive Closes (polling : Bool) (world : World) : World → Prop
  | abandoned (hstate : world.conn.localState = .CS_SYN_SENT) :
      Closes polling world world.forceClose
  | expired (hlimit : world.conn.isPollTimeout world.utp.performanceNow = true) :
      Closes polling world world.forceClose
  | finished (hstate : world.conn.localState = .CS_CLOSE_WAIT)
      (hremote : world.conn.remoteFinPacket.isSome = true)
      (hempty : world.conn.sendWindow.isEmpty = true) : Closes polling world world.forceClose
  | released (hstate : world.conn.localState = .CS_CLOSE_WAIT)
      (hremote : world.conn.remoteFinPacket.isSome = false)
      (hlocal : world.conn.localFinPacket.isSome = true)
      (hempty : world.conn.sendWindow.isEmpty = true) : Closes polling world world.release
  | gaveUp (hpolling : polling = true) : Closes polling world world.forceClose

/-- The promise of `connectTo` changes with the state only. -/
def PromiseFollows (world next : World) : Prop :=
  next.conn.connecting = world.conn.connecting ∨ next.conn.localState ≠ world.conn.localState

/-- The table keeps its entries unless the connection is ended, the connection is closed for
a reason, and only `waitForConnecting` settles its promise on its own. -/
structure EndsBy (label : Label) (world next : World) : Prop extends world.Leaves next where
  closed : next.conn.localState = .CS_CLOSED → world.conn.localState ≠ .CS_CLOSED →
    world.Closes (decide (label = .closePoll)) next
  promise : label.settles = false → world.PromiseFollows next

/-- A connection that ends takes its own entry out of the table. -/
theorem Terminates.connTable {world next : World} (h : world.Terminates next) :
    next.utp.connTable = world.utp.connTable.erase world.conn.uniqueId := by
  cases h <;> rfl

/-- A connection that ends is closed or reset. -/
theorem Terminates.terminal {world next : World} (h : world.Terminates next) : next.Terminal := by
  cases h with
  | resetNow => exact .inr rfl
  | forceClose => exact .inl rfl
  | release => exact .inl rfl

/-- The same connection has the same key in the table. -/
theorem SameConn.uniqueId {world next : World} (h : world.SameConn next) :
    next.conn.uniqueId = world.conn.uniqueId := by
  simp [UtpConn.uniqueId, h.remoteAddr, h.localSendId, h.localRecvId]

/-- A state that is not a new one tells the promise nothing. -/
theorem setLocalState_promise (conn : UtpConn) (state : UtpConnState) :
    (conn.setLocalState state).connecting = conn.connecting ∨ state ≠ conn.localState := by
  by_cases hsame : conn.localState = state
  · exact .inl (if_pos hsame)
  · exact .inr fun h => hsame h.symm

theorem Rests.refl (world : World) : world.Rests world := ⟨⟨rfl, rfl, rfl, rfl, rfl⟩, rfl, rfl, rfl⟩

theorem Rests.trans {world later next : World} (hfirst : world.Rests later)
    (hsecond : later.Rests next) : world.Rests next where
  self := hsecond.self.trans hfirst.self
  remoteAddr := hsecond.remoteAddr.trans hfirst.remoteAddr
  localSendId := hsecond.localSendId.trans hfirst.localSendId
  localRecvId := hsecond.localRecvId.trans hfirst.localRecvId
  udpSend := hsecond.udpSend.trans hfirst.udpSend
  localState := hsecond.localState.trans hfirst.localState
  recvPacketQueue := hsecond.recvPacketQueue.trans hfirst.recvPacketQueue
  connTable := hsecond.connTable.trans hfirst.connTable

/-- Code that rests leaves the table to the others. -/
theorem Rests.leaves {world next : World} (h : world.Rests next) : world.Leaves next :=
  ⟨h.toSameConn, .inl h.connTable⟩

/-- Code that rests ends nothing. -/
theorem Rests.ends {label : Label} {world next : World} (h : world.Rests next)
    (hpromise : label.settles = false → world.PromiseFollows next) : world.EndsBy label next :=
  ⟨h.leaves, fun hclosed hopen => absurd (h.localState.symm.trans hclosed) hopen, hpromise⟩

/-- A turn of code that lets the state, the queue and the table be. -/
theorem turn_rests {task : ConnM Unit} (htask : task.MovesAlways Rests) (world : World) :
    world.Rests (task.turn world).1 := by
  have hchain := (Async.turn_chain (htask.moves world)).1
  exact hchain.preserves (fun start target h hmove => h.trans hmove) (.refl world)

/-! ## Sending -/

/-- Sending code. -/
abbrev Sends {α : Type} (task : ConnM α) : Prop := task.MovesAlways Spares

/-- A change of fields that `Spares` does not mention. -/
theorem sends_modify {change : World → World} (h : ∀ world : World, world.Spares (change world)) :
    Sends (Async.modify change) := .modify h

/-- Handing a packet to the socket changes nothing but what was sent. -/
theorem udpSend_sends (calledIn : Option UtpConnState) (packet : UtpPacket)
    (remoteAddr : UtpAddr) : Sends (UtpSocket.sendUtpPacket calledIn packet remoteAddr) := by
  refine .reads fun world => .ite .pure ((sends_modify fun world => ?_).bind fun _ =>
    .bind .waitUntil fun _ => ?_)
  · exact ⟨⟨⟨rfl, rfl, rfl, rfl, rfl⟩, rfl, rfl, rfl⟩, rfl⟩
  · split
    next => exact .throw
    next => exact .ite .pure .throw

theorem waitForAck_sends (packet : UtpPacket) (remoteAddr : UtpAddr) :
    Sends (UtpSendWindow.waitForAck packet remoteAddr) := by
  have hset : ∀ (seqNr : Nat) (info : UtpPacketWithExtraInfo),
      (BlockingMap.set seqNr info).MovesAlways fun _ _ => True := by
    intro seqNr info
    refine .reads fun map => .ite (.modify fun _ => trivial) ?_
    exact (Async.MovesAlways.modify fun _ => trivial).bind fun _ => .waitUntil
  refine .reads fun world => ((hset _ _).zoom (fun _ _ => rfl) fun world map _ => ?_).awaited
  exact ⟨⟨⟨rfl, rfl, rfl, rfl, rfl⟩, rfl, rfl, rfl⟩, rfl⟩

/-- Sending again what is due changes nothing but the window. -/
theorem resendLoop_sends (now : Nat) (seqNrs : List Nat) :
    Sends (UtpSendWindow.resendLoop now seqNrs) := by
  induction seqNrs with
  | nil => exact .pure
  | cons seqNr rest ih =>
      refine .reads fun world => (sends_modify fun world => ?_).bind fun _ => ?_
      · exact ⟨⟨⟨rfl, rfl, rfl, rfl, rfl⟩, rfl, rfl, rfl⟩, rfl⟩
      · split
        next => exact ih
        next => exact (udpSend_sends _ _ _).awaited.discard.bind fun _ => ih

theorem resend_sends : Sends UtpSendWindow.resend := .reads fun _ => resendLoop_sends _ _

theorem sendUtpPacket_sends (packet : UtpPacket) : Sends (UtpConn.sendUtpPacket packet) := by
  refine (sends_modify fun world => ?_).bind fun _ => .reads fun world => .ite .throw ?_
  · exact ⟨⟨⟨rfl, rfl, rfl, rfl, rfl⟩, rfl, rfl, rfl⟩, rfl⟩
  · have hsend := (udpSend_sends (some world.conn.localState) packet world.conn.remoteAddr).awaited
    exact .ite ((waitForAck_sends _ _).awaited.bind fun _ => hsend) hsend

theorem writeLoop_sends (data : Bytes) (rounds offset : Nat) :
    Sends (UtpConn.writeLoop data rounds offset) := by
  induction rounds generalizing offset with
  | zero => exact .pure
  | succ rounds ih =>
      refine .ite (.reads fun world => (sends_modify fun world => ?_).bind fun _ =>
        (sendUtpPacket_sends _).awaited.bind fun _ => .ite (ih _) .throw) .pure
      exact ⟨⟨⟨rfl, rfl, rfl, rfl, rfl⟩, rfl, rfl, rfl⟩, rfl⟩

/-- `write` changes neither the state nor the queue. -/
theorem write_sends (data : Bytes) : Sends (UtpConn.write data) :=
  (writeLoop_sends _ _ _).bind fun _ => .ite .pure .throw

/-- A task on the receive buffer. -/
theorem onRecvBuffer_sends {α : Type} {task : Async BlockingBuffer α}
    (htask : task.MovesAlways fun _ _ => True) : Sends (World.onRecvBuffer task) :=
  htask.zoom (fun _ _ => rfl) fun _ _ _ => ⟨⟨⟨rfl, rfl, rfl, rfl, rfl⟩, rfl, rfl, rfl⟩, rfl⟩

/-- `read` changes nothing but the receive buffer. -/
theorem read_sends (size : Nat) : Sends (UtpConn.read size) := by
  have hread : (BlockingBuffer.read size).MovesAlways fun _ _ => True := by
    refine .reads fun buffer => .ite (.ite .throw (.ite .throw .pure)) (.ite ?_ (.ite ?_ ?_))
    · exact (Async.MovesAlways.modify fun _ => trivial).awaited.bind fun _ => .pure
    · exact (Async.MovesAlways.modify fun _ => trivial).bind fun _ => .pure
    · exact (Async.MovesAlways.modify fun _ => trivial).bind fun _ =>
        .bind .waitUntil fun _ => .reads fun _ => .pure
  refine (onRecvBuffer_sends hread).awaited.bind fun _ =>
    (sends_modify fun world => ?_).bind fun _ => .pure
  exact ⟨⟨⟨rfl, rfl, rfl, rfl, rfl⟩, rfl, rfl, rfl⟩, rfl⟩

theorem Sends.rests {α : Type} {task : ConnM α} (htask : task.MovesAlways Spares) :
    task.MovesAlways Rests := htask.mono fun _ _ h => h.toRests

/-! ## Waiting for the connection -/

theorem setConnecting_rests (promise : ConnectPromise) :
    (Async.modify fun world : World => world.setConnecting promise).MovesAlways Rests :=
  .modify fun _ => ⟨⟨rfl, rfl, rfl, rfl, rfl⟩, rfl, rfl, rfl⟩

theorem sendHandshake_rests (packet : UtpPacket) :
    (UtpConn.sendHandshake packet).MovesAlways Rests :=
  .attempt ((Sends.rests (sendUtpPacket_sends _)).awaited.discard.bind fun _ =>
    setConnecting_rests _) fun _ => setConnecting_rests _

/-- `waitForConnecting` changes nothing but the promise. -/
theorem waitForConnecting_rests : UtpConn.waitForConnecting.MovesAlways Rests := by
  have htakeSyn : (Async.modify takeSyn).MovesAlways Rests :=
    .modify fun _ => ⟨⟨rfl, rfl, rfl, rfl, rfl⟩, rfl, rfl, rfl⟩
  exact .reads fun world => .ite (setConnecting_rests _)
    (.ite (htakeSyn.bind fun _ => sendHandshake_rests _) (sendHandshake_rests _))

/-! ## Terminating -/

variable {label : Label}

/-- Code that leaves the table to the other connections. -/
abbrev LeavesTable {α : Type} (task : ConnM α) : Prop := task.MovesAlways Leaves

theorem Rests.leavesTable {α : Type} {task : ConnM α} (htask : task.MovesAlways Rests) :
    LeavesTable task := htask.mono fun _ _ => Rests.leaves

/-- Code that closes the connection for a reason only. -/
abbrev EndsFor {α : Type} (label : Label) (task : ConnM α) : Prop := task.MovesAlways (EndsBy label)

/-- Code that ends the connection for a reason takes out no entry but its own. -/
theorem EndsFor.leavesTable {α : Type} {task : ConnM α} (htask : task.MovesAlways (EndsBy label)) :
    LeavesTable task := htask.mono fun _ _ h => h.toLeaves

theorem Sends.ends {α : Type} {task : ConnM α} (htask : task.MovesAlways Spares) :
    EndsFor label task := htask.mono fun _ _ h => h.toRests.ends fun _ => .inl h.connecting

/-- Code of `waitForConnecting`. -/
theorem Rests.endsFor (hlabel : label.settles = true) {α : Type} {task : ConnM α}
    (htask : task.MovesAlways Rests) : EndsFor label task :=
  htask.mono fun _ _ h => h.ends fun hother => absurd (hlabel.symm.trans hother) nofun

/-- A write that touches neither the table nor the promise, and does not close the
connection. -/
theorem ends_modify {change : World → World}
    (hsame : ∀ world : World, world.SameConn (change world))
    (htable : ∀ world, (change world).utp.connTable = world.utp.connTable)
    (hstate : ∀ world, (change world).conn.localState = .CS_CLOSED →
      world.conn.localState = .CS_CLOSED)
    (hpromise : ∀ world : World, world.PromiseFollows (change world)) :
    EndsFor label (.modify change) :=
  .modify fun world => ⟨⟨hsame world, .inl (htable world)⟩, fun hclosed hopen =>
    absurd (hstate world hclosed) hopen, fun _ => hpromise world⟩

/-- A write that only leads to another state than the closed one. -/
theorem ends_modify_to {change : World → World} {state : UtpConnState}
    (hsame : ∀ world : World, world.SameConn (change world))
    (htable : ∀ world, (change world).utp.connTable = world.utp.connTable)
    (hstate : ∀ world, (change world).conn.localState = state) (hopen : state ≠ .CS_CLOSED)
    (hpromise : ∀ world : World, world.PromiseFollows (change world)) :
    EndsFor label (.modify change) :=
  ends_modify hsame htable (fun world hclosed => absurd ((hstate world).symm.trans hclosed) hopen)
    hpromise

/-- Closing by force needs a reason. -/
theorem forceClose_ends {world : World}
    (hcloses : world.Closes (decide (label = .closePoll)) world.forceClose) :
    world.EndsBy label world.forceClose :=
  ⟨⟨⟨rfl, rfl, rfl, rfl, rfl⟩, .inr .forceClose⟩, fun _ _ => hcloses,
    fun _ => setLocalState_promise world.conn .CS_CLOSED⟩

theorem takeFin_sends : Sends (Async.modify takeFin) :=
  sends_modify fun _ => ⟨⟨⟨rfl, rfl, rfl, rfl, rfl⟩, rfl, rfl, rfl⟩, rfl⟩

theorem finishClose_sends : Sends (Async.modify finishClose) :=
  sends_modify fun _ => ⟨⟨⟨rfl, rfl, rfl, rfl, rfl⟩, rfl, rfl, rfl⟩, rfl⟩

/-- The timer's test of the limit counts a start at zero as none. -/
theorem isPollTimeout_of_isCloseTimeout {conn : UtpConn} {now : Nat}
    (hlimit : conn.isCloseTimeout now = true) : conn.isPollTimeout now = true := by
  unfold UtpConn.isCloseTimeout at hlimit
  unfold UtpConn.isPollTimeout
  cases hstart : conn.closeStartTime with
  | none => simp [hstart] at hlimit
  | some start =>
      simp only [hstart, Bool.and_eq_true] at hlimit
      exact hlimit.2

/-- `trySafeRelease` closes what is finished. -/
theorem trySafeRelease_ends : EndsFor label UtpConn.trySafeRelease := by
  refine .read fun world => ?_
  split
  next => trivial
  next hstate =>
    rw [not_not] at hstate
    split
    next hlimit =>
      exact ⟨forceClose_ends (.expired (isPollTimeout_of_isCloseTimeout hlimit)), trivial⟩
    next =>
      split
      next hdone =>
        rw [Bool.and_eq_true] at hdone
        exact ⟨forceClose_ends (.finished hstate hdone.1 hdone.2), trivial⟩
      next hopen =>
        split
        next => trivial
        next hempty =>
          rw [Bool.not_eq_true', Bool.not_eq_false] at hempty
          split
          next =>
            exact Sends.ends (takeFin_sends.bind fun _ =>
              (sendUtpPacket_sends _).awaited.discard) world
          next hfins =>
            have hremote : world.conn.remoteFinPacket.isSome = false := by
              simpa [hempty] using hopen
            have hlocal : world.conn.localFinPacket.isSome = true := by
              cases hfin : world.conn.localFinPacket with
              | some => rfl
              | none => simp [hfin, Option.isSome_eq_false_iff.mp hremote] at hfins
            refine ⟨⟨⟨⟨rfl, rfl, rfl, rfl, rfl⟩, .inr .release⟩, fun _ _ => ?_, fun _ =>
              setLocalState_promise _ _⟩, trivial⟩
            exact .released hstate hremote hlocal hempty

/-- `close` closes nothing itself. -/
theorem close_ends : EndsFor label UtpConn.close := by
  have hpolling : Sends (Async.modify startPolling) :=
    sends_modify fun _ => ⟨⟨⟨rfl, rfl, rfl, rfl, rfl⟩, rfl, rfl, rfl⟩, rfl⟩
  have hbegin : EndsFor label (Async.modify beginClose) :=
    ends_modify_to (fun _ => ⟨rfl, rfl, rfl, rfl, rfl⟩) (fun _ => rfl) (fun _ => rfl) nofun
      fun _ => setLocalState_promise _ _
  refine .reads fun world => .ite .pure (.ite .pure (.ite .pure (hbegin.bind fun _ =>
    .reads fun world => .ite (Sends.ends hpolling) (Sends.ends ?_))))
  exact takeFin_sends.bind fun _ => (sendUtpPacket_sends _).awaited.discard.bind fun _ => hpolling

/-- The interval of `close` closes what is finished or late, or on an error. -/
theorem closePoll_ends : EndsFor .closePoll UtpConn.closePoll := by
  have hfinish : EndsFor .closePoll (Async.modify finishClose) := Sends.ends finishClose_sends
  have hforce : EndsFor .closePoll (Async.modify forceClose) :=
    .modify fun _ => forceClose_ends (.gaveUp (by decide))
  refine .attempt (.reads fun world => .ite hfinish (.ite (hforce.bind fun _ => hfinish)
      (trySafeRelease_ends.awaited.bind fun _ => .reads fun world => .ite hfinish .pure)))
    fun _ => hforce.bind fun _ => hfinish

/-- `reset` ends the connection by a reset. -/
theorem reset_ends : EndsFor label UtpConn.reset := by
  have hreset : EndsFor label (Async.modify resetNow) :=
    .modify fun _ => ⟨⟨⟨rfl, rfl, rfl, rfl, rfl⟩, .inr .resetNow⟩, nofun, fun _ =>
      setLocalState_promise _ _⟩
  exact hreset.bind fun _ => .reads fun _ => (Sends.ends (sendUtpPacket_sends _)).detached

/-- The timer closes what is finished or late. -/
theorem timeoutCheck_ends : EndsFor label UtpConn.timeoutCheck := by
  have hresend : EndsFor label UtpSendWindow.timeoutCheck := Sends.ends resend_sends.awaited
  have hlive : ∀ now, Sends (.modify fun world => world.setLastLiveTime now) :=
    fun now => sends_modify fun _ => ⟨⟨⟨rfl, rfl, rfl, rfl, rfl⟩, rfl, rfl, rfl⟩, rfl⟩
  have hopen : ∀ world : World, EndsFor label (if UtpConn.KEEP_ALIVE_INTERVAL <
      world.utp.performanceNow - world.conn.lastLiveTime then
        (Async.discard (Async.awaited (UtpConn.sendUtpPacket world.ackPacket))).bind fun _ =>
          (Async.modify fun now => now.setLastLiveTime world.utp.performanceNow).bind fun _ =>
            Async.awaited UtpSendWindow.timeoutCheck
      else Async.awaited UtpSendWindow.timeoutCheck) := fun world =>
    .ite ((Sends.ends (sendUtpPacket_sends _).awaited.discard).bind fun _ =>
      (Sends.ends (hlive _)).bind fun _ => hresend.awaited) hresend.awaited
  refine .read fun world => ?_
  split
  next hstate =>
    split
    next => exact ⟨forceClose_ends (.abandoned hstate), trivial⟩
    next => trivial
  next => exact hopen world world
  next => exact hopen world world
  next => exact (hresend.awaited.bind fun _ => trySafeRelease_ends.awaited) world
  next => trivial
  next => trivial

/-! ## Receiving -/

theorem writeRecvBuffer_sends (data : Bytes) : Sends (UtpConn.writeRecvBuffer data) := by
  have hresolve : ∀ laps, (BlockingBuffer.resolveReaders laps).MovesAlways fun _ _ => True := by
    intro laps
    induction laps with
    | zero => exact .pure
    | succ laps ih =>
        refine .reads fun buffer => ?_
        split
        next => exact .pure
        next =>
          exact .ite .pure ((Async.MovesAlways.modify fun _ => trivial).awaited.bind fun _ =>
            (Async.MovesAlways.modify fun _ => trivial).bind fun _ => ih)
  have hwrite : (BlockingBuffer.write data).MovesAlways fun _ _ => True :=
    (Async.MovesAlways.modify fun _ => trivial).awaited.bind fun _ =>
      .reads fun _ => (hresolve _).bind fun _ => .pure
  exact (onRecvBuffer_sends hwrite).awaited.discard

/-- A pass over the queue ends nothing. -/
theorem processKeys_ends (keys : List Nat) : EndsFor label (UtpConn.processKeys keys) := by
  induction keys with
  | nil => exact .pure
  | cons seq rest ih =>
      have hadvance : EndsFor label (.modify fun world => world.advanceTo seq) :=
        ends_modify (fun _ => ⟨rfl, rfl, rfl, rfl, rfl⟩) (fun _ => rfl) (fun _ => id) fun _ =>
          .inl rfl
      refine .reads fun world => .ite ih (hadvance.bind fun _ => ?_)
      split
      next => exact ih
      next packet _ =>
        refine Async.MovesAlways.bind (Sends.ends ?_) fun _ => ih
        unfold UtpConn.deliver
        split
        next => exact .pure
        next => exact .ite (.attempt (writeRecvBuffer_sends _) fun _ => .pure) .pure

theorem processReceivedPackets_ends : EndsFor label UtpConn.processReceivedPackets :=
  .reads fun _ => processKeys_ends _

theorem sendAck_sends : Sends UtpConn.sendAck :=
  .reads fun _ => .ite .pure (.attempt (sendUtpPacket_sends _).awaited.discard fun _ => .pure)

/-- A FIN lets `trySafeRelease` close what is finished. -/
theorem handleFin_ends (packet : UtpPacket) : EndsFor label (UtpConn.handleFin packet) := by
  have hreply : Sends UtpConn.replyFin := .reads fun _ => .ite (.attempt
    (takeFin_sends.bind fun _ => (sendUtpPacket_sends _).awaited.discard) fun _ => .pure) .pure
  have hdrain : Sends (Async.modify drain) :=
    sends_modify fun _ => ⟨⟨⟨rfl, rfl, rfl, rfl, rfl⟩, rfl, rfl, rfl⟩, rfl⟩
  have haccept : EndsFor label (.modify fun world => world.acceptFin packet) :=
    ends_modify_to (fun _ => ⟨rfl, rfl, rfl, rfl, rfl⟩) (fun _ => rfl) (fun _ => rfl) nofun
      fun _ => setLocalState_promise _ _
  exact haccept.bind fun _ => (Sends.ends hreply).bind fun _ => (Sends.ends hdrain).bind fun _ =>
    trySafeRelease_ends.awaited

/-- In `CS_CONNECTED` only a FIN can end the connection. -/
theorem handleAtConnected_ends (packet : UtpPacket) :
    EndsFor label (UtpConn.handleAtConnected packet) := by
  have hanswer : EndsFor label (UtpConn.sendAck.bind fun _ => .pure true) :=
    (Sends.ends sendAck_sends).bind fun _ => .pure
  have henqueue : EndsFor label (.modify fun world => world.enqueue packet) :=
    ends_modify (fun _ => ⟨rfl, rfl, rfl, rfl, rfl⟩) (fun _ => rfl) (fun _ => id) fun _ => .inl rfl
  have hinsert : EndsFor label (UtpConn.insertPacket packet) :=
    henqueue.bind fun _ => processReceivedPackets_ends.awaited.bind fun _ =>
      .ite ((handleFin_ends packet).bind fun _ => hanswer) hanswer
  exact .reads fun world => .ite .pure (.ite .pure (.ite .pure
    (.ite (processReceivedPackets_ends.awaited.bind fun _ => hinsert) hinsert)))

/-- The first data packet ends nothing. -/
theorem handleAtSynReceived_ends (packet : UtpPacket) :
    EndsFor label (UtpConn.handleAtSynReceived packet) := by
  have hanswer : EndsFor label ((Async.get : ConnM World).bind fun world =>
      (Async.discard (Async.awaited (UtpConn.sendUtpPacket world.ackPacket))).bind fun _ =>
        .pure true) :=
    .reads fun _ => (Sends.ends (sendUtpPacket_sends _).awaited.discard).bind fun _ => .pure
  have haccept : EndsFor label (.modify fun world => world.acceptFirstData packet.seqNr) :=
    ends_modify_to (fun _ => ⟨rfl, rfl, rfl, rfl, rfl⟩) (fun _ => rfl) (fun _ => rfl) nofun
      fun _ => setLocalState_promise _ _
  refine .reads fun world => .ite .pure (.ite .pure (haccept.bind fun _ => ?_))
  split
  next => exact hanswer
  next => exact (Sends.ends (writeRecvBuffer_sends _)).bind fun _ => hanswer

theorem awaitHandleAck_ends (packet : UtpPacket) :
    EndsFor label (UtpConn.awaitHandleAck packet) := by
  have hack : EndsFor label (.modify fun world => world.handleAck packet) :=
    ends_modify (fun _ => ⟨rfl, rfl, rfl, rfl, rfl⟩) (fun _ => rfl) (fun _ => id) fun _ => .inl rfl
  exact hack.awaited

theorem handleAtSynSent_ends (packet : UtpPacket) :
    EndsFor label (UtpConn.handleAtSynSent packet) := by
  have haccept : EndsFor label (.modify fun world =>
      world.acceptHandshake (Seq.add packet.seqNr (-1))) :=
    ends_modify_to (fun _ => ⟨rfl, rfl, rfl, rfl, rfl⟩) (fun _ => rfl) (fun _ => rfl) nofun
      fun _ => setLocalState_promise _ _
  exact .ite .pure (haccept.bind fun _ => .pure)

/-- The handler of a packet closes what is finished. -/
theorem handleIncomingPacket_ends (packet : UtpPacket) :
    EndsFor label (UtpConn.handleIncomingPacket packet) := by
  have hstate : ∀ state, EndsFor label (UtpConn.handleInState packet state) := by
    intro state
    cases state with
    | CS_SYN_SENT => exact (handleAtSynSent_ends packet).awaited
    | CS_SYN_RECV => exact (handleAtSynReceived_ends packet).awaited
    | CS_CONNECTED => exact (handleAtConnected_ends packet).awaited
    | CS_CLOSE_WAIT => exact .ite ((awaitHandleAck_ends packet).bind fun _ => .pure) .pure
    | CS_CLOSED => exact .pure
    | CS_RESET => exact .pure
  have hnote : EndsFor label (Async.modify noteHandled) :=
    ends_modify (fun _ => ⟨rfl, rfl, rfl, rfl, rfl⟩) (fun _ => rfl) (fun _ => id) fun _ => .inl rfl
  have hhandle : EndsFor label ((Async.get : ConnM World).bind fun world =>
      (UtpConn.handleInState packet world.conn.localState).bind fun handled =>
        if handled = true then (Async.modify noteHandled).bind fun _ => Async.pure handled
        else .pure handled) :=
    .reads fun _ => (hstate _).bind fun _ => .ite (hnote.bind fun _ => .pure) .pure
  exact .ite ((awaitHandleAck_ends packet).bind fun _ => hhandle) hhandle

/-- All code of a connection. -/
theorem spawns_ends {admits : World → UtpPacket → Prop} {world : World} {label : Label}
    {task : ConnM Unit} (hspawns : Spawns admits world label task) :
    EndsFor label task := by
  cases hspawns with
  | receive packet => exact (handleIncomingPacket_ends packet).discard
  | write data => exact Sends.ends (write_sends data).discard
  | read size => exact Sends.ends (read_sends size).discard
  | close => exact close_ends
  | closePoll => exact closePoll_ends
  | reset => exact reset_ends
  | timeoutCheck => exact timeoutCheck_ends
  | connectTimeout => exact Rests.endsFor rfl (setConnecting_rests _)

end World

end Utp
