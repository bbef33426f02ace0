import Utp.Conn.Completion
import Utp.Window.Outstanding

/-! # The release of a connection comes to an end

A connection that waits for its release has a bounded number of things to do: the attempts that
its send window has left, and its FIN. Each check of the timer at which the window is due does one
of them, or the connection leaves the table.
-/

namespace Utp

namespace World

/-- What a connection that waits for its release has yet to do: its attempts, its FIN and to
leave the table. -/
def remaining (world : World) : Nat :=
  world.conn.sendWindow.outstanding + (if world.conn.localFinPacket.isNone then 1 else 0) + 1

/-- The connection waits on, and nothing outside of it has changed but what was sent. -/
structure Waits (start world : World) : Prop where
  self : world.self = start.self
  utp : world.utp = { start.utp with sent := world.utp.sent }
  uniqueId : world.conn.uniqueId = start.conn.uniqueId
  localState : world.conn.localState = .CS_CLOSE_WAIT

/-- The connection has left the table. -/
structure Departed (start world : World) : Prop where
  self : world.self = start.self
  utp : world.utp = { start.utp with
    connTable := start.utp.connTable.erase start.conn.uniqueId, sent := world.utp.sent }
  uniqueId : world.conn.uniqueId = start.conn.uniqueId
  localState : world.conn.localState = .CS_CLOSED

variable {start world : World}

/-! ## Retransmission -/

theorem udpSend_keeps {keep : World → Prop} (hsend : ∀ world, keep world → world.utp.SendsWhole)
    (htransmit : ∀ world calledIn packet remoteAddr, keep world →
      keep (world.transmit calledIn packet remoteAddr))
    (calledIn : Option UtpConnState) (packet : UtpPacket) (remoteAddr : UtpAddr) :
    (UtpSocket.sendUtpPacket calledIn packet remoteAddr).Completes keep fun _ => keep := by
  refine .read fun world hworld => ?_
  have hkeep : ∀ now, now = world → keep now := fun now hnow => hnow ▸ hworld
  split
  next => exact .pure hkeep
  next =>
    have hmodify : (Async.modify fun world : World => world.transmit calledIn packet
        remoteAddr).Completes (fun now => now = world) fun _ => keep :=
      .modify fun now hnow => htransmit _ _ _ _ (hkeep now hnow)
    refine hmodify.bind fun _ => ?_
    rw [hsend world hworld]
    intro later hlater
    refine ⟨packet.toBytes.length, later, ?_, hlater⟩
    simp [Async.run, Async.waitUntil, Async.bind]

/-- A connection that retransmits, with so many attempts left at most. -/
structure Resends (start : World) (bound : Nat) (world : World) : Prop where
  waits : Waits start world
  localFinPacket : world.conn.localFinPacket = start.conn.localFinPacket
  outstanding : world.conn.sendWindow.outstanding ≤ bound

theorem Waits.sendsWhole (hwaits : Waits start world) (hsend : start.utp.SendsWhole) :
    world.utp.SendsWhole := by
  intro bytes remoteAddr
  rw [hwaits.utp]
  exact hsend bytes remoteAddr

theorem Waits.transmit (hwaits : Waits start world) (calledIn : Option UtpConnState)
    (packet : UtpPacket) (remoteAddr : UtpAddr) :
    Waits start (world.transmit calledIn packet remoteAddr) := by
  refine ⟨hwaits.self, ?_, hwaits.uniqueId, hwaits.localState⟩
  unfold World.transmit
  dsimp only
  rw [hwaits.utp]

/-- One round of the loop, and the others after it. -/
theorem resendRound_resends (hsend : start.utp.SendsWhole) {now seqNr bound : Nat}
    {rest : List Nat} (hwaits : Waits start world)
    (hfin : world.conn.localFinPacket = start.conn.localFinPacket)
    (houtstanding : (world.conn.sendWindow.resendOne now seqNr).1.outstanding ≤ bound)
    (hrest : (UtpSendWindow.resendLoop now rest).Completes (Resends start bound)
      fun _ => Resends start bound) :
    (UtpSendWindow.resendLoop now (seqNr :: rest)).Completes (fun now => now = world)
      fun _ => Resends start bound := by
  refine .read fun world hworld => ?_
  subst hworld
  have hmodify : (Async.modify fun world : World => world.setWindow
      (world.conn.sendWindow.resendOne now seqNr).1).Completes (fun now => now = world)
        fun _ => Resends start bound := by
    apply Async.Completes.modify
    rintro later rfl
    exact ⟨⟨hwaits.self, hwaits.utp, hwaits.uniqueId, hwaits.localState⟩, hfin, houtstanding⟩
  refine hmodify.bind fun _ => ?_
  split
  next => exact hrest
  next again _ =>
    have hagain := @udpSend_keeps (Resends start bound) (fun _ h => h.waits.sendsWhole hsend)
      (fun _ _ _ _ h => ⟨h.waits.transmit _ _ _, h.localFinPacket, h.outstanding⟩) none again.packet
      again.remoteAddr
    exact (Async.Completes.discard hagain.awaited).bind fun _ => hrest

theorem resendLoop_resends (hsend : start.utp.SendsWhole) (now : Nat) (seqNrs : List Nat)
    (bound : Nat) : (UtpSendWindow.resendLoop now seqNrs).Completes (Resends start bound)
      fun _ => Resends start bound := by
  induction seqNrs with
  | nil => exact .pure fun _ h => h
  | cons seqNr rest ih =>
      intro world hworld
      exact resendRound_resends hsend hworld.waits hworld.localFinPacket
        ((UtpSendWindow.outstanding_resendOne_le _ _ _).trans hworld.outstanding) ih world rfl

/-- All packets in the window are due. -/
def Due (world : World) : Prop :=
  ∀ seqNr info, world.conn.sendWindow.packetMap.get seqNr = some info →
    world.conn.sendWindow.IsDue world.utp.dateNow info

theorem Waits.refl (hstate : start.conn.localState = .CS_CLOSE_WAIT) : Waits start start :=
  ⟨rfl, rfl, rfl, hstate⟩

/-- A window that is not empty has its packets retransmitted. -/
theorem windowTimeoutCheck_resends (hsend : start.utp.SendsWhole)
    (hstate : start.conn.localState = .CS_CLOSE_WAIT) {bound : Nat}
    (hbound : start.Due → start.conn.sendWindow.outstanding ≤ bound + 1)
    (hless : ¬ start.Due → start.conn.sendWindow.outstanding ≤ bound)
    (hbusy : start.conn.sendWindow.isEmpty = false) :
    UtpSendWindow.timeoutCheck.Completes (fun now => now = start)
      fun _ => Resends start bound := by
  apply Async.Completes.awaited
  refine .read fun world hworld => ?_
  subst hworld
  cases hkeys : world.conn.sendWindow.getAllSeqNrs with
  | nil =>
      have hempty : world.conn.sendWindow.isEmpty = true := by
        rw [UtpSendWindow.isEmpty, BlockingMap.size, ← OrderedMap.length_keys]
        exact decide_eq_true (congrArg List.length hkeys)
      rw [hempty] at hbusy
      cases hbusy
  | cons seqNr rest =>
      have hmem : seqNr ∈ world.conn.sendWindow.getAllSeqNrs := by
        rw [hkeys]
        exact List.mem_cons_self
      obtain ⟨info, hget⟩ := OrderedMap.exists_get? hmem
      refine resendRound_resends hsend (.refl hstate) rfl ?_ (resendLoop_resends hsend _ rest bound)
      by_cases hdue : world.Due
      · have hround := UtpSendWindow.outstanding_resendOne_lt hget (hdue seqNr info hget)
        have hlimit := hbound hdue
        omega
      · exact (UtpSendWindow.outstanding_resendOne_le _ _ _).trans (hless hdue)

/-- An empty window is left as it is. -/
theorem windowTimeoutCheck_idle (hempty : start.conn.sendWindow.isEmpty = true) :
    UtpSendWindow.timeoutCheck.Completes (fun now => now = start) fun _ now => now = start := by
  apply Async.Completes.awaited
  refine .read fun world hworld => ?_
  subst hworld
  have hkeys : world.conn.sendWindow.getAllSeqNrs = [] := by
    apply List.eq_nil_of_length_eq_zero
    rw [UtpSendWindow.getAllSeqNrs, OrderedMap.length_keys]
    exact of_decide_eq_true hempty
  rw [hkeys]
  exact .pure fun _ h => h

/-! ## The release -/

/-- A check has brought the connection out of the table, or left it with so much to do at most. -/
inductive Checked (start : World) (bound : Nat) (world : World) : Prop
  | gone (hgone : Departed start world)
  | waits (hwaits : Waits start world) (hremaining : world.remaining ≤ bound)

/-- Past the handshake's end nothing enters the window. -/
theorem sendFin_waits (hsend : start.utp.SendsWhole) {bound : Nat} (packet : UtpPacket) :
    (UtpConn.sendUtpPacket packet).Completes
      (fun now => Waits start now ∧ now.remaining ≤ bound)
      fun _ now => Waits start now ∧ now.remaining ≤ bound := by
  have htouch : (Async.modify touch).Completes
      (fun now => Waits start now ∧ now.remaining ≤ bound)
      fun _ now => Waits start now ∧ now.remaining ≤ bound := by
    apply Async.Completes.modify
    rintro now ⟨hwaits, hremaining⟩
    exact ⟨⟨hwaits.self, hwaits.utp, hwaits.uniqueId, hwaits.localState⟩, hremaining⟩
  refine htouch.bind fun _ => .read fun world hworld => ?_
  refine .ite (fun hclosed => ?_) fun _ => .ite (fun hconnected => ?_) fun _ => ?_
  · exact nomatch hworld.1.localState.symm.trans (of_decide_eq_true hclosed)
  · simp only [Bool.and_eq_true] at hconnected
    exact nomatch hworld.1.localState.symm.trans (of_decide_eq_true hconnected.1)
  · have hudp := @udpSend_keeps (fun now => Waits start now ∧ now.remaining ≤ bound)
      (fun _ h => h.1.sendsWhole hsend) (fun _ _ _ _ h => ⟨h.1.transmit _ _ _, h.2⟩)
      (some world.conn.localState) packet world.conn.remoteAddr
    exact hudp.awaited.mono (fun now hnow => hnow ▸ hworld) fun _ _ h => h

theorem trySafeRelease_checks (hsend : start.utp.SendsWhole)
    (hstate : start.conn.localState = .CS_CLOSE_WAIT) {bound : Nat}
    (hbound : start.remaining ≤ bound + 1)
    (hbusy : start.conn.sendWindow.isEmpty = false → start.remaining ≤ bound) :
    UtpConn.trySafeRelease.Completes (fun now => now = start) fun _ => Checked start bound := by
  refine .read fun world hworld => ?_
  subst hworld
  have hforce : (Async.modify forceClose).Completes (fun now => now = world)
      fun _ => Checked world bound := by
    apply Async.Completes.modify
    rintro later rfl
    exact .gone ⟨rfl, rfl, rfl, rfl⟩
  refine .ite (fun hother => absurd hstate hother) fun _ => .ite (fun _ => hforce)
    fun _ => .ite (fun _ => hforce) fun _ => .ite (fun hempty => ?_) fun hempty => .ite
      (fun hfin => ?_)
      fun _ => ?_
  · apply Async.Completes.pure
    rintro later rfl
    exact .waits (.refl hstate) (hbusy (by simpa using hempty))
  · -- The FIN is the last thing to do.
    simp only [Bool.and_eq_true] at hfin
    have htake : (Async.modify takeFin).Completes (fun now => now = world)
        fun _ now => Waits world now ∧ now.remaining ≤ bound := by
      apply Async.Completes.modify
      rintro later rfl
      refine ⟨⟨rfl, rfl, rfl, hstate⟩, ?_⟩
      rw [remaining, if_pos hfin.2] at hbound
      exact Nat.le_of_succ_le_succ hbound
    apply (htake.bind fun _ => Async.Completes.discard (sendFin_waits hsend _).awaited).mono
    · exact fun _ h => h
    · exact fun _ _ h => .waits h.1 h.2
  · apply Async.Completes.modify
    rintro later rfl
    exact .gone ⟨rfl, rfl, rfl, rfl⟩

/-! ## The check of the timer -/

theorem Waits.trans {later : World} (hfirst : Waits start world) (hsecond : Waits world later) :
    Waits start later := by
  refine ⟨hsecond.self.trans hfirst.self, ?_, hsecond.uniqueId.trans hfirst.uniqueId,
    hsecond.localState⟩
  rw [hsecond.utp, hfirst.utp]

theorem Waits.gone {later : World} (hfirst : Waits start world) (hsecond : Departed world later) :
    Departed start later := by
  refine ⟨hsecond.self.trans hfirst.self, ?_, hsecond.uniqueId.trans hfirst.uniqueId,
    hsecond.localState⟩
  rw [hsecond.utp, hfirst.utp, hfirst.uniqueId]

/-- When the packets in the window are due there is less to do afterwards, and never more. -/
theorem timeoutCheck_checks (hsend : start.utp.SendsWhole)
    (hstate : start.conn.localState = .CS_CLOSE_WAIT) {bound : Nat}
    (hbound : start.Due → start.remaining ≤ bound + 1)
    (hless : ¬ start.Due → start.remaining ≤ bound) :
    UtpConn.timeoutCheck.Completes (fun now => now = start) fun _ => Checked start bound := by
  refine .read fun world hworld => ?_
  subst hworld
  rw [hstate]
  dsimp only
  have hlimit : world.remaining ≤ bound + 1 := by
    by_cases hdue : world.Due
    · exact hbound hdue
    · exact (hless hdue).trans (Nat.le_succ _)
  cases hempty : world.conn.sendWindow.isEmpty with
  | true =>
      apply (windowTimeoutCheck_idle hempty).awaited.bind
      intro _
      apply (trySafeRelease_checks hsend hstate hlimit fun hbusy => ?_).awaited
      rw [hempty] at hbusy
      cases hbusy
  | false =>
      have hpos := UtpSendWindow.outstanding_pos hempty
      unfold remaining at hbound hless
      -- The FIN may be left to do, besides what the window has.
      generalize hfin : (if world.conn.localFinPacket.isNone then 1 else 0) = fin at hbound hless
      have hwindow : UtpSendWindow.timeoutCheck.Completes (fun now => now = world)
          fun _ => Resends world (bound - fin - 1) := by
        apply windowTimeoutCheck_resends hsend hstate _ _ hempty
        · intro hdue
          have := hbound hdue
          omega
        · intro hdue
          have := hless hdue
          omega
      apply hwindow.awaited.bind
      rintro - later ⟨hwaits, hkept, houtstanding⟩
      have hremaining : later.remaining ≤ bound := by
        rw [remaining, hkept, hfin]
        rw [remaining, hfin] at hlimit
        omega
      obtain ⟨value, final, hrun, hfinal⟩ := (trySafeRelease_checks (hwaits.sendsWhole hsend)
        hwaits.localState (hremaining.trans (Nat.le_succ _)) fun _ => hremaining).awaited later rfl
      refine ⟨value, final, hrun, ?_⟩
      cases hfinal with
      | gone hgone => exact .gone (hwaits.gone hgone)
      | waits hmore hleft => exact .waits (hwaits.trans hmore) hleft

/-! ## Closing -/

/-- A connection that is up, or on its way there. -/
def Open (world : World) : Prop :=
  world.conn.localState ≠ .CS_CLOSE_WAIT ∧ world.conn.localState ≠ .CS_CLOSED ∧
    world.conn.localState ≠ .CS_RESET

/-- Closing adds nothing to what the connection has to do. -/
theorem close_waits (hsend : start.utp.SendsWhole) (hopen : start.Open) :
    UtpConn.close.Completes (fun now => now = start)
      fun _ now => Waits start now ∧ now.remaining ≤ start.remaining := by
  obtain ⟨hwait, hclosed, hreset⟩ := hopen
  have hbegin : (Async.modify beginClose).Completes (fun now => now = start)
      fun _ now => Waits start now ∧ now.remaining ≤ start.remaining := by
    apply Async.Completes.modify
    rintro now rfl
    exact ⟨⟨rfl, rfl, rfl, rfl⟩, Nat.le_refl _⟩
  have hpoll : (Async.modify startPolling).Completes
      (fun now => Waits start now ∧ now.remaining ≤ start.remaining)
      fun _ now => Waits start now ∧ now.remaining ≤ start.remaining :=
    .modify fun now h => ⟨⟨h.1.self, h.1.utp, h.1.uniqueId, h.1.localState⟩, h.2⟩
  refine .read fun world hworld => ?_
  subst hworld
  refine .ite (fun hends => absurd (of_decide_eq_true hends) hclosed) fun _ =>
    .ite (fun h => absurd h hwait) fun _ => .ite (fun h => absurd h hreset) fun _ =>
      hbegin.bind fun _ => .read fun later hlater => ?_
  refine .ite (fun _ => hpoll.mono (fun now hnow => hnow ▸ hlater) fun _ _ h => h) fun _ => ?_
  have htake : (Async.modify takeFin).Completes (fun now => now = later)
      fun _ now => Waits world now ∧ now.remaining ≤ world.remaining := by
    apply Async.Completes.modify
    rintro now rfl
    refine ⟨⟨hlater.1.self, hlater.1.utp, hlater.1.uniqueId, hlater.1.localState⟩, ?_⟩
    have htaken : now.takeFin.remaining = now.conn.sendWindow.outstanding + 1 := rfl
    rw [htaken]
    exact (Nat.add_le_add_right (Nat.le_add_right _ _) 1).trans hlater.2
  exact (htake.bind fun _ =>
    Async.Completes.discard (sendFin_waits hsend later.finPacket).awaited).bind fun _ => hpoll

end World

end Utp
