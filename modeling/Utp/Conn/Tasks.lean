import Utp.Conn.Acts
import Utp.Foundation.TaskSystem

/-! # Connection code only acts

Every write of every method is one of the acts, whatever the other tasks of the
connection do at its awaits. -/

namespace Utp

open Async (Chain Stable)

namespace World

variable {receiving closing writing : Bool} {first : Nat}

/-- An act stays one where more is admitted. -/
theorem Act.weaken {world next : World} {anyReceiving anyClosing anyWriting : Bool}
    (hreceiving : receiving = true → anyReceiving = true)
    (hclosing : closing = true → anyClosing = true) (hwriting : writing = true → anyWriting = true)
    (hact : Act receiving closing writing world next) :
    Act anyReceiving anyClosing anyWriting world next := by
  cases hact with
  | env henv => exact .env henv
  | touch => exact .touch
  | setLastLiveTime now => exact .setLastLiveTime now
  | setConnecting promise hpromise => exact .setConnecting promise hpromise
  | logRead result => exact .logRead result
  | transmit calledIn packet remoteAddr h hwrites =>
      exact .transmit calledIn packet remoteAddr h fun hdata hcalled =>
        hwriting (hwrites hdata hcalled)
  | takeData data h hwrites => exact .takeData data h (hwriting hwrites)
  | takeFin h => exact .takeFin h
  | register info howns hconnected hroom => exact .register info howns hconnected hroom
  | waitForRoom info howns hconnected hfull => exact .waitForRoom info howns hconnected hfull
  | resendOne now seqNr => exact .resendOne now seqNr
  | readBuffer buffer h => exact .readBuffer buffer h
  | beginClose hclosed hreset h => exact .beginClose hclosed hreset (hclosing h)
  | startPolling => exact .startPolling
  | finishClose => exact .finishClose
  | resetNow h => exact .resetNow (hclosing h)
  | release h => exact .release h
  | forceClose h => exact .forceClose (h.imp_right (Or.imp_right hclosing))
  | handleAck packet h htype => exact .handleAck packet (hreceiving h) htype
  | acceptHandshake ackNr hstate hinitiator h =>
      exact .acceptHandshake ackNr hstate hinitiator (hreceiving h)
  | acceptFirstData seqNr hstate h => exact .acceptFirstData seqNr hstate (hreceiving h)
  | enqueue packet h => exact .enqueue packet (hreceiving h)
  | advanceTo seq hseq h => exact .advanceTo seq hseq (hreceiving h)
  | append data h => exact .append data (hreceiving h)
  | acceptFin packet h => exact .acceptFin packet (hreceiving h)
  | drain h => exact .drain (hreceiving h)
  | noteHandled h => exact .noteHandled (hreceiving h)

/-- What a task may do, any task may do. -/
theorem Act.widen {world next : World} {anyClosing : Bool}
    (hclosing : closing = true → anyClosing = true)
    (hact : Act receiving closing writing world next) : Act true anyClosing true world next :=
  hact.weaken (fun _ => rfl) hclosing fun _ => rfl

/-- Whatever acts do, they undo nothing. -/
theorem Grows.of_chain {world later : World}
    (hchain : Chain (Act receiving closing writing) world later) : world.Grows later := by
  induction hchain with
  | refl => exact .refl _
  | tail _ hact ih => exact ih.trans hact.grows

/-- Every write of the task is an act, from the states that satisfy `keep`. -/
def Acts {α : Type} (receiving closing writing : Bool) (keep : World → Prop)
    (task : ConnM α) : Prop :=
  task.MovesFrom (Chain (Act true true true)) (Act receiving closing writing) keep

/-- Fewer others leave fewer states to be found after an await. -/
theorem moves_among {α : Type} {others : Bool} {move : World → World → Prop}
    {post : Except String α → World → Prop} {task : ConnM α} {world : World}
    (htask : task.Moves (Chain (Act true true true)) move post world) :
    task.Moves (Chain (Act true others true)) move post world :=
  htask.mono (fun _ _ hchain => hchain.lift id fun _ _ hact => hact.widen fun _ => rfl)
    (fun _ _ => id) fun _ _ => id

/-- What the acts of all tasks preserve. -/
abbrev Lasting (receiving closing writing : Bool) (keep : World → Prop) : Prop :=
  Stable (Chain (Act true true true)) (Act receiving closing writing) keep

/-- What every act keeps still holds after an await. -/
theorem lasting_of_act {keep : World → Prop}
    (hkeep : ∀ world next, keep world → Act true true true world next → keep next) :
    Lasting receiving closing writing keep :=
  ⟨fun _ _ hworld hchain => hchain.preserves hkeep hworld,
    fun _ _ hworld hact => hkeep _ _ hworld (hact.widen fun _ => rfl)⟩

/-- That the connection is tracked still holds after an await. -/
theorem lasting_tracked : Lasting receiving closing writing (Tracked first) :=
  lasting_of_act fun _ _ htracked hact => hact.tracked htracked

/-- That the handshake is over still holds after an await. -/
theorem lasting_started :
    Lasting receiving closing writing fun world => world.Tracked first ∧ world.Started :=
  lasting_of_act fun _ _ h hact => ⟨hact.tracked h.1, hact.grows.started h.2⟩

/-- That the connection has been joined still holds after an await. -/
theorem lasting_joined :
    Lasting receiving closing writing fun world => world.Tracked first ∧ world.Joined :=
  lasting_of_act fun _ _ h hact => ⟨hact.tracked h.1, hact.grows.joined h.2⟩

/-! ## Sending -/

/-- What a caller of `sendUtpPacket` has to know of the packet. -/
structure Sendable (world : World) (packet : UtpPacket) : Prop where
  owned : packet.isReliable = true → packet ∈ world.conn.created
  acknowledges : packet.type = .ST_STATE → world.Acknowledges packet
  fin : packet.type = .ST_FIN → world.conn.localState = .CS_CLOSE_WAIT

/-- The socket sends what its caller knows to be fit for sending. -/
theorem udpSend_acts {world : World} {calledIn : Option UtpConnState} {packet : UtpPacket}
    {remoteAddr : UtpAddr} (htransmits : world.Transmits calledIn packet)
    (hwriting : packet.type = .ST_DATA → calledIn.isSome = true → writing = true) :
    (UtpSocket.sendUtpPacket calledIn packet remoteAddr).Moves (Chain (Act true true true))
      (Act receiving closing writing) (fun _ _ => True) world := by
  simp only [UtpSocket.sendUtpPacket, Async.bind_eq, Async.moves_bind, Async.moves_get]
  split
  next => trivial
  next =>
    simp only [Async.moves_bind, Async.moves_modify, Async.moves_waitUntil]
    refine ⟨.transmit _ _ _ htransmits hwriting, fun later _ _ => ?_⟩
    split
    next => trivial
    next =>
      split
      next => trivial
      next => trivial

/-- A writer that gets past `waitForAck` has its packet in the window. -/
theorem waitForAck_acts {world : World} {packet : UtpPacket} {remoteAddr : UtpAddr}
    (howns : world.Owns packet) (hconnected : world.conn.localState = .CS_CONNECTED) :
    (UtpSendWindow.waitForAck packet remoteAddr).Moves (Chain (Act true true true))
      (Act receiving closing writing) (fun _ later => later.Registered packet) world := by
  let info : UtpPacketWithExtraInfo := ⟨packet, 0, world.utp.dateNow, remoteAddr⟩
  refine Async.moves_awaited.mpr ?_
  show ((ite _ _ _ : Async (BlockingMap Nat UtpPacketWithExtraInfo) Unit).zoom _ _).Moves _ _ _ _
  split
  next hroom =>
    refine ⟨.register info howns hconnected hroom,
      fun later hlater => (Grows.of_chain hlater).registered ?_⟩
    have hput := (world.window.put packet.seqNr info).evolves_resolveNextSetter
    exact ⟨(packet.seqNr, info), hput.entered _ (by simp [BlockingMap.put]), rfl⟩
  next hfull =>
    refine ⟨.waitForRoom info howns hconnected (Bool.eq_false_iff.mpr hfull), ?_⟩
    intro resolved hresolved hready later hlater
    refine (Grows.of_chain hlater).registered ?_
    have hwaits := (Grows.of_chain hresolved).window.waiting
      (packet.seqNr, info, world.window.nextSetter)
      (List.mem_append_right _ (List.mem_singleton.mpr rfl))
    rcases hwaits with hwaits | hentered
    · have hgone := List.all_eq_true.mp hready _ hwaits
      simp [window] at hgone
    · exact ⟨_, hentered, rfl⟩

/-- `sendUtpPacket` registers a reliable packet before it hands it to the socket. -/
theorem sendUtpPacket_acts {world : World} {packet : UtpPacket}
    (hsendable : world.Sendable packet) (hwriting : packet.type = .ST_DATA → writing = true) :
    (UtpConn.sendUtpPacket packet).Moves (Chain (Act true true true))
      (Act receiving closing writing) (fun _ _ => True) world := by
  simp only [UtpConn.sendUtpPacket, Async.bind_eq, Async.moves_bind, Async.moves_modify,
    Async.moves_get]
  refine ⟨.touch, ?_⟩
  split
  next => trivial
  next =>
    split
    next hregisters =>
      simp only [Bool.and_eq_true] at hregisters
      have howns : world.touch.Owns packet := ⟨hregisters.2, hsendable.owned hregisters.2⟩
      have hconnected : world.touch.conn.localState = .CS_CONNECTED := by
        simpa [UtpConn.isConnected] using hregisters.1
      rw [Async.moves_bind, Async.moves_awaited]
      refine (waitForAck_acts howns hconnected).keep (fun later => later.Owns packet)
        (fun _ _ howns hlater => (Grows.of_chain hlater).owns howns)
        (fun _ _ howns hact => hact.grows.owns howns) howns |>.post ?_
      intro result registered hregistered later hlater
      have hgrows := Grows.of_chain hlater
      cases result with
      | ok _ =>
          refine Async.moves_awaited.mpr ((udpSend_acts ?_ fun htype _ => hwriting htype).post
            fun _ _ _ _ _ => trivial)
          refine ⟨fun _ => (hgrows.owns hregistered.2).2,
            fun _ _ => hgrows.registered hregistered.1, fun htype => ?_, fun htype _ => ?_,
            by
              intro hnone
              cases hnone⟩
          · simp [UtpPacket.isReliable, htype] at hregisters
          · have hwaiting : world.touch.conn.localState = .CS_CLOSE_WAIT := hsendable.fin htype
            rw [hconnected] at hwaiting
            cases hwaiting
      | error _ => trivial
    next hdirect =>
      refine Async.moves_awaited.mpr ((udpSend_acts ?_ fun htype _ => hwriting htype).post
        fun _ _ _ _ _ => trivial)
      refine ⟨hsendable.owned, fun hstate hreliable => absurd ?_ hdirect, fun htype => ?_,
        fun htype _ => hsendable.fin htype, by
          intro hnone
          cases hnone⟩
      · simp only [Option.some.injEq] at hstate
        simp [UtpConn.isConnected, hstate, hreliable]
      · obtain ⟨hconnId, hseqNr, hackNr, hwindow, hsack, hconnected⟩ := hsendable.acknowledges htype
        exact ⟨hconnId, hseqNr, hackNr, hwindow, hsack, hconnected⟩

/-- The awaited form in which every caller uses it. -/
theorem send_acts {world : World} {packet : UtpPacket} (hsendable : world.Sendable packet)
    (hother : packet.type ≠ .ST_DATA) :
    (Async.discard (Async.awaited (UtpConn.sendUtpPacket packet))).Moves
      (Chain (Act true true true)) (Act receiving closing writing) (fun _ _ => True) world := by
  refine Async.moves_bind.mpr (Async.moves_awaited.mpr
    ((sendUtpPacket_acts hsendable fun htype => absurd htype hother).post fun result _ _ _ _ => ?_))
  cases result <;> trivial

/-- A packet that is neither reliable nor an acknowledgement may always be sent. -/
theorem sendable_other {world : World} {packet : UtpPacket} (hreliable : packet.isReliable = false)
    (hstate : packet.type ≠ .ST_STATE) : world.Sendable packet := by
  refine ⟨fun h => ?_, fun h => absurd h hstate, fun h => ?_⟩
  · simp [hreliable] at h
  · simp [UtpPacket.isReliable, h] at hreliable

/-- The SYN may always be sent. -/
theorem sendable_syn (world : World) (conn : UtpConn) (now : Nat) :
    world.Sendable (.createSynPacket conn now) := sendable_other rfl nofun

/-- The answer to a SYN carries no selective acknowledgement. -/
theorem sendable_synAck {world : World} (hstate : world.conn.localState = .CS_SYN_RECV) :
    world.Sendable (.createAckPacket world.conn world.utp.currentMicroseconds none) :=
  ⟨nofun, fun _ => ⟨rfl, rfl, rfl, rfl, .inl rfl, .inl hstate⟩, nofun⟩

/-- An acknowledgement of the present state may be sent once there is something to acknowledge. -/
theorem sendable_ack {world : World}
    (hconnected : world.conn.localState = .CS_SYN_RECV ∨ world.Joined) :
    world.Sendable world.ackPacket := by
  refine ⟨nofun, fun _ => ⟨rfl, rfl, rfl, rfl, ?_, hconnected⟩, nofun⟩
  simp only [ackPacket, UtpPacket.createAckPacket, UtpPacket.sackExtension]
  cases UtpSelectiveAckExtension.createFromConn world.conn with
  | none => exact .inl rfl
  | some sack => exact .inr rfl

/-- The FIN may be sent in the state in which it was built. -/
theorem sendable_fin {world : World} (hstate : world.conn.localState = .CS_CLOSE_WAIT) :
    world.takeFin.Sendable world.finPacket :=
  ⟨fun _ => List.mem_append_right _ (List.mem_singleton.mpr rfl), nofun, fun _ => hstate⟩

/-! ## The window and the application's calls -/

/-- Each round of `resend` sends again what it has found in the window. -/
theorem resendLoop_acts (now : Nat) (seqNrs : List Nat) :
    Acts receiving closing writing (Tracked first) (UtpSendWindow.resendLoop now seqNrs) := by
  induction seqNrs with
  | nil => exact .pure
  | cons seqNr rest ih =>
      intro world htracked
      simp only [UtpSendWindow.resendLoop, Async.bind_eq, Async.moves_bind, Async.moves_get,
        Async.moves_modify]
      have hact : Act receiving closing writing world
          (world.setWindow (world.conn.sendWindow.resendOne now seqNr).1) := .resendOne now seqNr
      refine ⟨hact, ?_⟩
      split
      next => exact ih _ (hact.tracked htracked)
      next again hagain =>
        have htracked' := hact.tracked htracked
        have howns := (htracked'.window.present (seqNr, again)
          (OrderedMap.get?_eq_some.mp (UtpSendWindow.resendOne_again hagain))).1
        have htransmits : (world.setWindow
            (world.conn.sendWindow.resendOne now seqNr).1).Transmits none again.packet := by
          have hnever : ∀ state : UtpConnState, none ≠ some state := by simp
          refine ⟨fun _ => howns.2, fun hstate => absurd hstate (hnever _), fun htype => ?_,
            fun _ hcalled => absurd hcalled (by simp),
            fun _ => ⟨seqNr, again, UtpSendWindow.resendOne_again hagain, rfl⟩⟩
          have hreliable := howns.1
          simp [UtpPacket.isReliable, htype] at hreliable
        refine Async.Moves.bind lasting_tracked ?_ htracked' fun _ => ih
        refine Async.moves_bind.mpr (Async.moves_awaited.mpr
          ((udpSend_acts htransmits fun _ hcalled => absurd hcalled (by simp)).post
            fun result _ _ _ _ => ?_))
        cases result <;> trivial

/-- The timer of the window only sends packets again. -/
theorem windowTimeoutCheck_acts :
    Acts receiving closing writing (Tracked first) UtpSendWindow.timeoutCheck :=
  .awaited fun world htracked => resendLoop_acts _ _ world htracked

/-- `writeLoop` takes a number for each chunk and sends it. -/
theorem writeLoop_acts (data : Bytes) (rounds offset : Nat) :
    Acts receiving closing true (fun world => world.Tracked first ∧ world.Started)
      (UtpConn.writeLoop data rounds offset) := by
  induction rounds generalizing offset with
  | zero => exact .pure
  | succ rounds ih =>
      intro world hworld
      simp only [UtpConn.writeLoop]
      split
      next =>
        have hact : Act receiving closing true world
            (world.consumeSeqNr (world.dataPacket (UtpConn.chunkAt data offset))) :=
          .takeData _ hworld.2 rfl
        have hsendable : (world.consumeSeqNr
            (world.dataPacket (UtpConn.chunkAt data offset))).Sendable
              (world.dataPacket (UtpConn.chunkAt data offset)) :=
          ⟨fun _ => List.mem_append_right _ (List.mem_singleton.mpr rfl), nofun, nofun⟩
        refine Async.moves_bind.mpr (Async.moves_bind.mpr ⟨hact,
          Async.Moves.bind lasting_started ?_
            ⟨hact.tracked hworld.1, hact.grows.started hworld.2⟩ fun n => ?_⟩)
        · exact Async.moves_awaited.mpr ((sendUtpPacket_acts hsendable fun _ => rfl).post
            fun _ _ _ _ _ => trivial)
        · split
          next => exact ih _
          next => exact fun _ _ => trivial
      next => trivial

/-- `write` acts as a writer. -/
theorem write_acts (data : Bytes) :
    Acts receiving closing true (fun world => world.Tracked first ∧ world.Started)
      (UtpConn.write data) := by
  refine .bind lasting_started (writeLoop_acts data _ _) fun offset => ?_
  split
  next => exact .pure
  next => exact fun _ _ => trivial

/-- What moves the receive buffer for a read is an act. -/
theorem readBuffer_acts {α : Type} {task : Async BlockingBuffer α}
    (htask : task.MovesAlways BlockingBuffer.ReadMove) :
    (onRecvBuffer task).MovesAlways (Act receiving closing writing) :=
  htask.zoom (fun _ _ => rfl) fun _ _ hmove => .readBuffer _ hmove

/-- `read` only moves the receive buffer. -/
theorem read_acts (size : Nat) : (UtpConn.read size).MovesAlways (Act receiving closing writing) :=
  .bind (.awaited (readBuffer_acts (BlockingBuffer.read_moves size))) fun result =>
    .bind (.modify fun _ => .logRead result) fun _ => .pure

/-! ## Closing -/

/-- `trySafeRelease` sends a FIN or releases the connection, in `CS_CLOSE_WAIT` only. -/
theorem trySafeRelease_acts :
    Acts receiving closing writing (Tracked first) UtpConn.trySafeRelease := by
  intro world _
  simp only [UtpConn.trySafeRelease, Async.bind_eq, Async.moves_bind, Async.moves_get]
  split
  next => trivial
  next hstate =>
    simp only [not_not] at hstate
    split
    next => exact ⟨.forceClose (.inr (.inl hstate)), trivial⟩
    next =>
      split
      next => exact ⟨.forceClose (.inr (.inl hstate)), trivial⟩
      next =>
        split
        next => trivial
        next =>
          split
          next =>
            exact Async.moves_bind.mpr ⟨.takeFin hstate, send_acts (sendable_fin hstate)
              (by intro htype; cases htype)⟩
          next => exact ⟨.release hstate, trivial⟩

/-- `close` leaves any open state for `CS_CLOSE_WAIT`. -/
theorem close_acts : Acts receiving true writing (Tracked first) UtpConn.close := by
  intro world htracked
  simp only [UtpConn.close, Async.bind_eq, Async.moves_bind, Async.moves_get]
  split
  next => trivial
  next hclosed =>
    split
    next => trivial
    next =>
      split
      next => trivial
      next hreset =>
        have hact : Act receiving true writing world world.beginClose :=
          .beginClose (by simpa [UtpConn.isClosed] using hclosed) hreset rfl
        refine Async.moves_bind.mpr ⟨hact, Async.moves_bind.mpr ?_⟩
        simp only [Async.moves_get]
        split
        next => exact ⟨.startPolling, trivial⟩
        next =>
          have hfin : Act receiving true writing world.beginClose world.beginClose.takeFin :=
            .takeFin rfl
          refine Async.moves_bind.mpr ⟨hfin, Async.Moves.bind lasting_tracked
            (send_acts (sendable_fin rfl) (by intro htype; cases htype))
              (hfin.tracked (hact.tracked htracked))
            fun _ => ?_⟩
          exact .modify fun _ _ => .startPolling

/-- A round of the interval of `close` closes by force or waits on. -/
theorem closePoll_acts : Acts receiving true writing (Tracked first) UtpConn.closePoll := by
  have hfinish : Acts receiving true writing (Tracked first) (Async.modify World.finishClose) :=
    .modify fun _ _ => .finishClose
  have hforce : Acts receiving true writing (Tracked first)
      ((Async.modify World.forceClose).bind fun _ => Async.modify World.finishClose) :=
    .bind lasting_tracked (.modify fun _ _ => .forceClose (.inr (.inr rfl))) fun _ => hfinish
  refine .attempt lasting_tracked ?_ fun _ => hforce
  intro world htracked
  simp only [Async.bind_eq, Async.moves_bind, Async.moves_get]
  split
  next => exact hfinish world htracked
  next =>
    split
    next => exact hforce world htracked
    next =>
      refine Async.MovesFrom.bind lasting_tracked (.awaited trySafeRelease_acts) (fun _ => ?_)
        world htracked
      intro later hlater
      simp only [Async.moves_bind, Async.moves_get]
      split
      next => exact hfinish later hlater
      next => trivial

/-- `reset` tells the other end and forgets the connection. -/
theorem reset_acts : Acts receiving true writing (Tracked first) UtpConn.reset := by
  intro world _
  have hsendable : world.resetNow.Sendable
      (.createResetPacket world.resetNow.conn world.resetNow.utp.currentMicroseconds) :=
    sendable_other rfl nofun
  exact ⟨.resetNow rfl, (sendUtpPacket_acts hsendable nofun).detached⟩

/-- The timer sends keep-alives, sends packets again and releases what is finished. -/
theorem timeoutCheck_acts :
    Acts receiving closing writing (Tracked first) UtpConn.timeoutCheck := by
  intro world htracked
  have hresend : Acts receiving closing writing (Tracked first)
      (Async.awaited UtpSendWindow.timeoutCheck) :=
    .awaited windowTimeoutCheck_acts
  have halive : (world.conn.localState = .CS_SYN_RECV ∨ world.Joined) →
      Async.Moves (Chain (Act true true true)) (Act receiving closing writing) (fun _ _ => True)
        ((Async.discard (Async.awaited (UtpConn.sendUtpPacket world.ackPacket))).bind fun _ =>
          (Async.modify fun now => now.setLastLiveTime world.utp.performanceNow).bind fun _ =>
            Async.awaited UtpSendWindow.timeoutCheck) world := fun hconnected =>
    Async.Moves.bind lasting_tracked (send_acts (sendable_ack hconnected) nofun) htracked fun _ =>
      .bind lasting_tracked (.modify fun _ _ => .setLastLiveTime _) fun _ => hresend
  simp only [UtpConn.timeoutCheck, Async.bind_eq, Async.moves_bind, Async.moves_get]
  split
  next hstate =>
    split
    next => exact ⟨.forceClose (.inl hstate), trivial⟩
    next => trivial
  next hstate =>
    split
    next => exact halive (.inl hstate)
    next => exact hresend world htracked
  next hstate =>
    split
    next => exact halive (.inr (htracked.joined hstate))
    next => exact hresend world htracked
  next =>
    exact Async.MovesFrom.bind lasting_tracked hresend
      (fun _ => .awaited trySafeRelease_acts) world htracked
  next => trivial
  next => trivial

/-! ## Connecting -/

/-- The first packet goes out before the promise of `connectTo` waits. -/
theorem sendHandshake_acts {packet : UtpPacket} {world : World} (htracked : world.Tracked first)
    (hsendable : world.Sendable packet) (hother : packet.type ≠ .ST_DATA) :
    (UtpConn.sendHandshake packet).Moves (Chain (Act true true true))
      (Act receiving closing writing) (fun _ _ => True) world := by
  have hsent : Async.Moves (Chain (Act true true true)) (Act receiving closing writing)
      (fun _ _ => True)
      ((Async.discard (Async.awaited (UtpConn.sendUtpPacket packet))).bind fun _ =>
        Async.modify fun world => world.setConnecting .pending) world :=
    Async.Moves.bind lasting_tracked (send_acts hsendable hother) htracked fun _ =>
      .modify fun _ _ => .setConnecting _ nofun
  refine Async.moves_attempt.mpr (hsent.post fun result later _ => ?_)
  cases result with
  | ok _ => trivial
  | error error => exact ⟨.setConnecting _ nofun, trivial⟩

/-- The timer of `waitForConnecting` only settles the promise. -/
theorem connectTimeout_acts : UtpConn.connectTimeout.MovesAlways (Act receiving closing writing) :=
  .modify fun _ => .setConnecting _ nofun

/-! ## Receiving -/

/-- Data is appended to the receive buffer and handed to those that read. -/
theorem writeRecvBuffer_acts (data : Bytes) :
    (UtpConn.writeRecvBuffer data).MovesAlways (Act true closing writing) := by
  refine .discard (.awaited ?_)
  intro world
  refine ⟨.append data rfl, fun later _ _ => ?_⟩
  have hread : (onRecvBuffer (do
      let self ← Async.get
      BlockingBuffer.resolveReaders self.readResolvers.length
      pure data.length)).MovesAlways (Act true closing writing) :=
    readBuffer_acts (.read fun self =>
      Async.moves_bind.mpr ((BlockingBuffer.resolveReaders_moves _ self).post
        fun result _ _ => by cases result <;> trivial))
  exact hread later

/-- Data that a pass takes goes to the receive buffer. -/
theorem deliver_acts (packet : UtpPacket) :
    (UtpConn.deliver packet).MovesAlways (Act true closing writing) := by
  unfold UtpConn.deliver
  split
  next => exact .pure
  next data _ =>
    split
    next => exact .attempt (writeRecvBuffer_acts data) fun _ => .pure
    next => exact .pure

/-- A pass moves the position on by the keys that it takes. -/
theorem processKeys_acts (keys : List Nat) :
    (UtpConn.processKeys keys).MovesAlways (Act true closing writing) := by
  induction keys with
  | nil => exact .pure
  | cons seq rest ih =>
      intro world
      simp only [UtpConn.processKeys, Async.bind_eq, Async.moves_bind, Async.moves_get]
      split
      next => exact ih world
      next hseq =>
        refine Async.moves_bind.mpr ⟨.advanceTo seq (by simpa using hseq) rfl, ?_⟩
        split
        next => exact ih _
        next packet _ => exact Async.MovesAlways.bind (deliver_acts packet) (fun _ => ih) _

/-- A pass over the queue makes only acts of the receiver. -/
theorem processReceivedPackets_acts :
    UtpConn.processReceivedPackets.MovesAlways (Act true closing writing) :=
  .read fun world => processKeys_acts _ world

/-- The first data packet establishes a responder. -/
theorem handleAtSynReceived_acts {packet : UtpPacket} {world : World}
    (htracked : world.Tracked first) (hstate : world.conn.localState = .CS_SYN_RECV) :
    (UtpConn.handleAtSynReceived packet).Moves (Chain (Act true true true))
      (Act true closing writing) (fun _ _ => True) world := by
  simp only [UtpConn.handleAtSynReceived, Async.bind_eq, Async.moves_bind, Async.moves_get]
  have hack : Acts true closing writing (fun world => world.Tracked first ∧ world.Joined)
      ((Async.get : ConnM World).bind fun world =>
        (Async.discard (Async.awaited (UtpConn.sendUtpPacket world.ackPacket))).bind fun _ =>
          Async.pure true) := fun later hlater =>
    Async.moves_bind.mpr (Async.Moves.bind lasting_tracked
      (send_acts (sendable_ack (.inr hlater.2)) (by intro htype; cases htype)) hlater.1
        fun _ => .pure)
  split
  next => trivial
  next =>
    split
    next => trivial
    next =>
      have hact : Act true closing writing world (world.acceptFirstData packet.seqNr) :=
        .acceptFirstData _ hstate rfl
      have haccepted : (world.acceptFirstData packet.seqNr).Tracked first ∧
          (world.acceptFirstData packet.seqNr).Joined :=
        ⟨hact.tracked htracked, .inr (Nat.succ_pos _)⟩
      refine Async.moves_bind.mpr ⟨hact, ?_⟩
      split
      next => exact hack _ haccepted
      next data _ =>
        exact Async.Moves.bind lasting_joined ((writeRecvBuffer_acts data).moves _) haccepted
          fun _ => hack

/-- The answer to a FIN is sent in `CS_CLOSE_WAIT`. -/
theorem replyFin_acts {world : World} (hstate : world.conn.localState = .CS_CLOSE_WAIT) :
    UtpConn.replyFin.Moves (Chain (Act true true true)) (Act true closing writing)
      (fun _ _ => True) world := by
  simp only [UtpConn.replyFin, Async.bind_eq, Async.moves_bind, Async.moves_get]
  split
  next =>
    have hsent : ((Async.modify World.takeFin).bind fun _ =>
        Async.discard (Async.awaited (UtpConn.sendUtpPacket world.finPacket))).Moves
          (Chain (Act true true true)) (Act true closing writing) (fun _ _ => True) world :=
      Async.moves_bind.mpr ⟨.takeFin hstate, send_acts (sendable_fin hstate)
        (by intro htype; cases htype)⟩
    refine Async.moves_attempt.mpr (hsent.post fun result _ _ => ?_)
    cases result <;> trivial
  next => trivial

/-- `sendAck` acknowledges the present state. -/
theorem sendAck_acts : Acts true closing writing (fun world => world.Tracked first ∧ world.Joined)
    UtpConn.sendAck := by
  intro world hworld
  simp only [UtpConn.sendAck, Async.bind_eq, Async.moves_bind, Async.moves_get]
  split
  next => trivial
  next =>
    refine Async.moves_attempt.mpr ((send_acts (sendable_ack (.inr hworld.2))
      (by intro htype; cases htype)).post
      fun result _ _ => ?_)
    cases result <;> trivial

/-- A FIN that is taken ends the connection's own stream too. -/
theorem handleFin_acts (packet : UtpPacket) :
    Acts true closing writing (Tracked first) (UtpConn.handleFin packet) := by
  intro world htracked
  have hact : Act true closing writing world (world.acceptFin packet) := .acceptFin packet rfl
  refine Async.moves_bind.mpr ⟨hact, Async.Moves.bind lasting_tracked (replyFin_acts rfl)
    (hact.tracked htracked) fun _ => ?_⟩
  exact .bind lasting_tracked (.modify fun _ _ => .drain rfl) fun _ => .awaited trySafeRelease_acts

/-- A packet is queued, and what follows on the position is delivered. -/
theorem insertPacket_acts (packet : UtpPacket) :
    Acts true closing writing (fun world => world.Tracked first ∧ world.Joined)
      (UtpConn.insertPacket packet) := by
  have hanswer : Acts true closing writing (fun world => world.Tracked first ∧ world.Joined)
      (UtpConn.sendAck.bind fun _ => Async.pure true) :=
    .bind lasting_joined sendAck_acts fun _ => .pure
  refine .bind lasting_joined (.modify fun _ _ => .enqueue packet rfl) fun _ =>
    .bind lasting_joined (.awaited (.of_always processReceivedPackets_acts)) fun _ => ?_
  split
  next =>
    exact .bind lasting_joined (fun later hlater => handleFin_acts packet later hlater.1)
      fun _ => hanswer
  next => exact hanswer

/-- A connected receiver takes a packet and acknowledges it. -/
theorem handleAtConnected_acts (packet : UtpPacket) :
    Acts true closing writing (fun world => world.Tracked first ∧ world.Joined)
      (UtpConn.handleAtConnected packet) := by
  intro world hworld
  simp only [UtpConn.handleAtConnected, Async.bind_eq, Async.moves_bind, Async.moves_get]
  split
  next => trivial
  next =>
    split
    next => trivial
    next =>
      split
      next => trivial
      next =>
        split
        next =>
          exact Async.MovesFrom.bind lasting_joined
            (.awaited (.of_always processReceivedPackets_acts))
            (fun _ => insertPacket_acts packet) world hworld
        next => exact insertPacket_acts packet world hworld

/-- An acknowledgement goes to the send window. -/
theorem awaitHandleAck_acts {packet : UtpPacket} (htype : packet.type = .ST_STATE) :
    (UtpConn.awaitHandleAck packet).MovesAlways (Act true closing writing) :=
  .awaited (.modify fun _ => .handleAck packet rfl htype)

/-- What a packet does depends on the state that it finds. -/
theorem handleInState_acts (packet : UtpPacket) {world : World} (htracked : world.Tracked first) :
    (UtpConn.handleInState packet world.conn.localState).Moves (Chain (Act true true true))
      (Act true closing writing) (fun _ _ => True) world := by
  have hawaited : ∀ {task : ConnM Bool}, task.Moves (Chain (Act true true true))
      (Act true closing writing) (fun _ _ => True) world →
        (Async.awaited task).Moves (Chain (Act true true true)) (Act true closing writing)
          (fun _ _ => True) world := fun htask =>
    Async.moves_awaited.mpr (htask.post fun _ _ _ _ _ => trivial)
  cases hstate : world.conn.localState with
  | CS_SYN_SENT =>
      refine hawaited ?_
      unfold UtpConn.handleAtSynSent
      split
      next => trivial
      next => exact ⟨.acceptHandshake _ hstate (htracked.initiator hstate) rfl, trivial⟩
  | CS_SYN_RECV => exact hawaited (handleAtSynReceived_acts htracked hstate)
  | CS_CONNECTED =>
      exact hawaited (handleAtConnected_acts packet world ⟨htracked, htracked.joined hstate⟩)
  | CS_CLOSE_WAIT =>
      simp only [UtpConn.handleInState]
      split
      next htype =>
        exact ((awaitHandleAck_acts htype).bind fun _ => .pure).moves world
      next => trivial
  | CS_CLOSED => trivial
  | CS_RESET => trivial

/-- The handler of a packet makes only acts of the receiver. -/
theorem handleIncomingPacket_acts (packet : UtpPacket) :
    Acts true closing writing (Tracked first) (UtpConn.handleIncomingPacket packet) := by
  have hhandle : Acts true closing writing (Tracked first)
      ((Async.get : ConnM World).bind fun world =>
        (UtpConn.handleInState packet world.conn.localState).bind fun handled =>
          if handled = true then (Async.modify World.noteHandled).bind fun _ => Async.pure handled
          else Async.pure handled) := by
    intro world htracked
    refine Async.moves_bind.mpr (Async.Moves.bind lasting_tracked
      (handleInState_acts packet htracked) htracked fun handled => ?_)
    split
    next => exact .bind lasting_tracked (.modify fun _ _ => .noteHandled rfl) fun _ => .pure
    next => exact .pure
  simp only [UtpConn.handleIncomingPacket, Async.bind_eq]
  split
  next htype =>
    exact .bind lasting_tracked (.of_always (awaitHandleAck_acts htype)) fun _ => hhandle
  next => exact hhandle

end World

end Utp
