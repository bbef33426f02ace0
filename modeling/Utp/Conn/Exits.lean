import Utp.Conn.System

/-! # The ways out of a connection

What `close`, its interval and `reset` do to the state, and that only a reset empties the
reorder queue. The tasks under all other labels end a connection from `CS_SYN_SENT` or
`CS_CLOSE_WAIT` only.
-/

namespace Utp

/-- The state that a task which ends the connection may assign. -/
def Label.exit : Label → Option UtpConnState
  | .close => some .CS_CLOSE_WAIT
  | .closePoll => some .CS_CLOSED
  | .reset => some .CS_RESET
  | _ => none

namespace World

/-- A write keeps the state or assigns the one of its label, and only a reset touches the
reorder queue. -/
structure Exits (label : Label) (world next : World) : Prop where
  state : next.conn.localState = world.conn.localState ∨
    some next.conn.localState = label.exit
  queue : label ≠ .reset → next.conn.recvPacketQueue = world.conn.recvPacketQueue

/-- A task all of whose writes do so. -/
abbrev Exiting (label : Label) {α : Type} (task : ConnM α) : Prop := task.MovesAlways (Exits label)

variable {label : Label}

theorem exits_of_same {world next : World}
    (hstate : next.conn.localState = world.conn.localState)
    (hqueue : next.conn.recvPacketQueue = world.conn.recvPacketQueue) : Exits label world next :=
  ⟨.inl hstate, fun _ => hqueue⟩

theorem exits_of_assigned {world next : World} {state : UtpConnState}
    (hstate : next.conn.localState = state) (hexit : label.exit = some state)
    (hqueue : next.conn.recvPacketQueue = world.conn.recvPacketQueue) : Exits label world next :=
  ⟨.inr (by rw [hstate, hexit]), fun _ => hqueue⟩

/-! ## Sending -/

theorem udpSend_exiting (calledIn : Option UtpConnState) (packet : UtpPacket)
    (remoteAddr : UtpAddr) :
    Exiting label (UtpSocket.sendUtpPacket calledIn packet remoteAddr) := by
  intro world
  simp only [UtpSocket.sendUtpPacket, Async.bind_eq, Async.moves_bind, Async.moves_get]
  split
  next => trivial
  next =>
    simp only [Async.moves_bind, Async.moves_modify, Async.moves_waitUntil]
    refine ⟨exits_of_same rfl rfl, fun later _ _ => ?_⟩
    split
    next => trivial
    next => split <;> trivial

/-- The send window is no part of the receiving side. -/
theorem waitForAck_exiting (packet : UtpPacket) (remoteAddr : UtpAddr) :
    Exiting label (UtpSendWindow.waitForAck packet remoteAddr) := by
  have hput : ∀ (world : World) (map : BlockingMap Nat UtpPacketWithExtraInfo), True →
      Exits label world (world.setPacketMap map) := fun _ _ _ => exits_of_same rfl rfl
  exact .reads fun _ => (Async.MovesAlways.any.zoom (fun _ _ => rfl) hput).awaited

theorem sendUtpPacket_exiting (packet : UtpPacket) :
    Exiting label (UtpConn.sendUtpPacket packet) := by
  refine .bind (.modify fun _ => exits_of_same rfl rfl) fun _ => .reads fun world => .ite .throw ?_
  have hsend : Exiting label (Async.awaited (UtpSocket.sendUtpPacket
      (some world.conn.localState) packet world.conn.remoteAddr)) :=
    (udpSend_exiting _ _ _).awaited
  exact .ite ((waitForAck_exiting _ _).awaited.bind fun _ => hsend) hsend

theorem sendFin_exiting (packet : UtpPacket) :
    Exiting label ((Async.modify takeFin).bind fun _ =>
      Async.discard (Async.awaited (UtpConn.sendUtpPacket packet))) :=
  .bind (.modify fun _ => exits_of_same rfl rfl) fun _ =>
    (sendUtpPacket_exiting packet).awaited.discard

/-! ## Ending the connection -/

theorem close_exiting : Exiting .close UtpConn.close := by
  have hpolling : Exiting .close (Async.modify startPolling) :=
    .modify fun _ => exits_of_same rfl rfl
  have hbegin : Exiting .close (Async.modify beginClose) :=
    .modify fun _ => exits_of_assigned rfl rfl rfl
  refine .reads fun _ => .ite .pure (.ite .pure (.ite .pure (hbegin.bind fun _ => ?_)))
  exact .reads fun world => .ite hpolling ((sendFin_exiting _).bind fun _ => hpolling)

theorem closePoll_exiting : Exiting .closePoll UtpConn.closePoll := by
  have hfinish : Exiting .closePoll (Async.modify finishClose) :=
    .modify fun _ => exits_of_same rfl rfl
  have hforce : Exiting .closePoll (Async.modify forceClose) :=
    .modify fun _ => exits_of_assigned rfl rfl rfl
  have hrelease : Exiting .closePoll (Async.modify release) :=
    .modify fun _ => exits_of_assigned rfl rfl rfl
  have hforced := hforce.bind fun _ => hfinish
  have htry : Exiting .closePoll UtpConn.trySafeRelease :=
    .reads fun _ => .ite .throw (.ite hforce (.ite hforce (.ite .pure
      (.ite (sendFin_exiting _) hrelease))))
  exact .attempt (.reads fun _ => .ite hfinish (.ite hforced
    (htry.awaited.bind fun _ => .reads fun _ => .ite hfinish .pure))) fun _ => hforced

theorem reset_exiting : Exiting .reset UtpConn.reset := by
  have hreset : Exiting .reset (Async.modify resetNow) :=
    .modify fun _ => ⟨.inr rfl, fun hne => absurd rfl hne⟩
  exact hreset.bind fun _ => .reads fun _ => (sendUtpPacket_exiting _).detached

theorem spawns_exiting {admits : World → UtpPacket → Prop} {world : World} {task : ConnM Unit}
    (hspawns : Spawns admits world label task) (hclosing : label.isClosing = true) :
    Exiting label task := by
  cases hspawns with
  | close => exact close_exiting
  | closePoll => exact closePoll_exiting
  | reset => exact reset_exiting
  | receive => cases hclosing
  | write => cases hclosing
  | read => cases hclosing
  | timeoutCheck => cases hclosing
  | connectTimeout => cases hclosing

/-- Nothing else than a packet handler or a reset touches the reorder queue. -/
theorem Act.queue {writing : Bool} {world next : World}
    (hact : Act false false writing world next) :
    next.conn.recvPacketQueue = world.conn.recvPacketQueue := by
  cases hact with
  | env henv => rw [henv.conn]
  | resetNow hclosing => cases hclosing
  | enqueue _ hreceiving => cases hreceiving
  | advanceTo _ _ hreceiving => cases hreceiving
  | _ => rfl

/-- What the tasks that end a connection do, write by write. -/
def ExitsBy (label : Label) (world next : World) : Prop :=
  label.isClosing = true → Exits label world next

theorem spawns_also {admits : World → UtpPacket → Prop} {world : World} {task : ConnM Unit}
    (hspawns : Spawns admits world label task) : task.MovesAlways (ExitsBy label) := by
  by_cases hclosing : label.isClosing = true
  · exact (spawns_exiting hspawns hclosing).mono fun _ _ hexits _ => hexits
  · exact Async.MovesAlways.any.mono fun _ _ _ h => absurd h hclosing

/-- A task that neither handles packets nor resets keeps the reorder queue. -/
theorem acts_queue {world next : World} (hact : label.Acts world next)
    (halso : ExitsBy label world next) (hreceive : label ≠ .receive)
    (hreset : label ≠ .reset) : next.conn.recvPacketQueue = world.conn.recvPacketQueue := by
  unfold Label.Acts at hact
  by_cases hclosing : label.isClosing = true
  · exact (halso hclosing).queue hreset
  · rw [Bool.eq_false_iff.mpr hclosing, decide_eq_false hreceive] at hact
    exact hact.queue

end World

end Utp
