import Utp.Sender.Fragments
import Utp.Sender.Graceful
import Utp.Window.Waiting

/-! # Writers get their turn

A `write` that finds the send window full waits for room. No acknowledgement need ever come: the
timer retransmits the packets that are due and then gives them up. Each time it finds one there is
less ahead of a writer that waits, whatever else goes on, so a bounded number of them lets the
writer in. On a connection that was closed or reset there are no checks any more.
-/

namespace Utp

open Async (Trace)

namespace World

variable {receiving closing writing : Bool} {world next : World} {id : Nat}

/-! ## Acts -/

/-- Nothing gets ahead of a writer that waits. -/
theorem Act.follows (hact : Act receiving closing writing world next)
    (hlined : world.window.Lined) (hsaturated : world.window.Saturated) :
    world.window.Follows UtpSendWindow.attempts id next.window := by
  cases hact with
  | env henv =>
      unfold window at hlined ⊢
      rw [henv.conn]
      exact .refl hlined
  | register info _ _ hroom =>
      -- There is room, so nobody waits.
      have hnobody : world.window.waitingSetters = [] := by
        by_contra hwaiting
        rw [hsaturated.full hwaiting] at hroom
        cases hroom
      have hput : (world.window.put info.packet.seqNr info).Lined := ⟨hlined.sorted, hlined.fresh⟩
      have hresolved := @BlockingMap.follows_resolveNextSetter _ _ _ UtpSendWindow.attempts
        id _ hput
      refine ⟨hresolved.lined, hresolved.numbered, fun hid hwaits => ?_⟩
      obtain ⟨waiter, hwaiter, -⟩ :=
        BlockingMap.isResolved_eq_false.mp (hresolved.waited hid hwaits).1
      change waiter ∈ world.window.waitingSetters at hwaiter
      rw [hnobody] at hwaiter
      cases hwaiter
  | waitForRoom => exact BlockingMap.follows_enqueueSetter hlined _ _
  | resendOne => exact UtpSendWindow.follows_resendOne hlined _ _
  | resetNow => exact UtpSendWindow.follows_reset hlined
  | handleAck => exact UtpSendWindow.follows_handleAck hlined _ _
  | _ => exact .refl hlined

/-- The timer finds a packet due: it is sent again, or given up. -/
def FindsDue (write : World × World) : Prop :=
  ∃ now seqNr info, write.1.window.get seqNr = some info ∧
    write.1.conn.sendWindow.IsDue now info ∧
    write.2 = write.1.setWindow (write.1.conn.sendWindow.resendOne now seqNr).1

/-- The first packet that is due is found before anything else happens. -/
theorem resendLoop_finds {world : World} {now : Nat} {seqNrs : List Nat}
    (hdue : ∃ seqNr ∈ seqNrs, ∃ info, world.window.get seqNr = some info ∧
      world.conn.sendWindow.IsDue now info) :
    ∃ write ∈ (UtpSendWindow.resendLoop now seqNrs).writes world, FindsDue write := by
  induction seqNrs with
  | nil =>
      obtain ⟨seqNr, hseqNr, -⟩ := hdue
      cases hseqNr
  | cons first rest ih =>
      by_cases hfirst : ∃ info, world.window.get first = some info ∧
          world.conn.sendWindow.IsDue now info
      · obtain ⟨info, hget, hinfo⟩ := hfirst
        exact ⟨_, List.mem_cons_self, now, first, info, hget, hinfo, rfl⟩
      · have hidle := @UtpSendWindow.resendOne_idle world.conn.sendWindow now first
          fun info hget hinfo => hfirst ⟨info, hget, hinfo⟩
        have hlater : ∃ seqNr ∈ rest, ∃ info, world.window.get seqNr = some info ∧
            world.conn.sendWindow.IsDue now info := by
          obtain ⟨seqNr, hseqNr, info, hget, hinfo⟩ := hdue
          rcases List.mem_cons.mp hseqNr with rfl | hrest
          · exact absurd ⟨info, hget, hinfo⟩ hfirst
          · exact ⟨seqNr, hrest, info, hget, hinfo⟩
        obtain ⟨write, hwrite, hfinds⟩ := ih hlater
        have hwrites : (UtpSendWindow.resendLoop now (first :: rest)).writes world =
            (world, world) :: (UtpSendWindow.resendLoop now rest).writes world := by
          conv_lhs => rw [UtpSendWindow.resendLoop]
          simp only [Async.bind_eq, Async.get, Async.modify, Async.bind, Async.writes, hidle]
          rfl
        rw [hwrites]
        exact ⟨write, List.mem_cons_of_mem _ hwrite, hfinds⟩

/-- A check at which a packet is due finds one at once. -/
theorem timeoutCheck_finds {world : World} {seqNr : Nat} {info : UtpPacketWithExtraInfo}
    (hget : world.window.get seqNr = some info)
    (hdue : world.conn.sendWindow.IsDue world.utp.dateNow info) :
    ∃ write ∈ UtpSendWindow.timeoutCheck.writes world, FindsDue write := by
  have hkey : seqNr ∈ world.conn.sendWindow.getAllSeqNrs := OrderedMap.mem_keys_of_get? hget
  rw [UtpSendWindow.timeoutCheck, Async.writes_awaited]
  exact resendLoop_finds ⟨seqNr, hkey, info, hget, hdue⟩

open Classical in
/-- How many packets the timer has found due. -/
noncomputable def foundDue (writes : List (Option Nat × World × World)) : Nat :=
  writes.countP fun write => FindsDue write.2

theorem foundDue_snoc (writes : List (Option Nat × World × World)) (author : Option Nat)
    (write : World × World) (hold : ¬ FindsDue write) :
    foundDue (writes ++ [(author, write)]) = foundDue writes := by
  simp [foundDue, List.countP_append, hold]

theorem foundDue_snoc_due (writes : List (Option Nat × World × World)) (author : Option Nat)
    (write : World × World) (hdue : FindsDue write) :
    foundDue (writes ++ [(author, write)]) = foundDue writes + 1 := by
  simp [foundDue, List.countP_append, hdue]

/-! ## Runs -/

/-- Writers stand in line, and for room only. -/
structure Queueing (world : World) : Prop where
  lined : world.window.Lined
  saturated : world.window.Saturated

theorem create_queueing (self : Nat) (utp : UtpSocket) (isInitiator : Bool) (remoteAddr : UtpAddr)
    (sendId recvId seqNr ackNr : Nat) :
    Queueing (create self utp isInitiator remoteAddr sendId recvId seqNr ackNr) := by
  have hcapacity : 1 ≤ UtpSendWindow.MIN_WINDOW_SIZE := by decide
  exact ⟨⟨List.Pairwise.nil, nofun⟩, fun hwaiting => absurd rfl hwaiting, hcapacity⟩

theorem Act.queueing (hact : Act receiving closing writing world next)
    (hqueueing : world.Queueing) : next.Queueing := by
  have hfollows := @Act.follows _ _ _ _ _ 0 hact hqueueing.lined hqueueing.saturated
  exact ⟨hfollows.lined, hact.saturated hqueueing.saturated⟩

/-- What was ahead of a writer in `earlier` is still there, or has been found due. -/
structure Queued (id : Nat) (earlier : World) (found : Nat) (world : World) : Prop where
  queueing : world.Queueing
  numbered : id < world.window.nextSetter
  waited : world.window.isResolved id = false →
    world.window.ahead UtpSendWindow.attempts id + found ≤
      earlier.window.ahead UtpSendWindow.attempts id

theorem Queued.step {earlier : World} {found : Nat} (hqueued : Queued id earlier found world)
    (hact : Act receiving closing writing world next) : Queued id earlier found next := by
  have hfollows := @Act.follows _ _ _ _ _ id hact hqueued.queueing.lined hqueued.queueing.saturated
  refine ⟨hact.queueing hqueued.queueing, hqueued.numbered.trans_le hfollows.numbered, ?_⟩
  intro hwaits
  obtain ⟨hbefore, hless⟩ := hfollows.waited hqueued.numbered hwaits
  exact (Nat.add_le_add_right hless found).trans (hqueued.waited hbefore)

/-- A packet that is found due is no longer ahead as often. -/
theorem Queued.due {earlier : World} {found : Nat} (hqueued : Queued id earlier found world)
    (hact : Act receiving closing writing world next) (hdue : FindsDue (world, next)) :
    Queued id earlier (found + 1) next := by
  have hstep := hqueued.step hact
  refine ⟨hstep.queueing, hstep.numbered, fun hwaits => ?_⟩
  obtain ⟨now, seqNr, info, hget, hdue, hnext⟩ := hdue
  have hnext : next = world.setWindow (world.conn.sendWindow.resendOne now seqNr).1 := hnext
  subst hnext
  have hfollows := @Act.follows _ _ _ _ _ id hact hqueued.queueing.lined hqueued.queueing.saturated
  have hbefore := hqueued.waited (hfollows.waited hqueued.numbered hwaits).1
  have hless := UtpSendWindow.ahead_resendOne_lt hqueued.queueing.lined hqueued.numbered hget hdue
    hwaits
  change (world.conn.sendWindow.resendOne now seqNr).1.packetMap.ahead _ id + (found + 1) ≤ _
  change world.conn.sendWindow.packetMap.ahead _ id + found ≤ _ at hbefore
  omega

section Run

variable {self : Nat} {utp : UtpSocket} {isInitiator : Bool} {remoteAddr : UtpAddr}
  {sendId recvId seqNr ackNr : Nat} {earlier trace : Trace World Label}

theorem traced_queueing (hseqNr : seqNr < 65536)
    (hrun : (connSystem anyLabel anyPacket).Traced
      (connecting self utp isInitiator remoteAddr sendId recvId seqNr ackNr) trace) :
    trace.config.state.Queueing :=
  @connecting_recorded _ _ _ _ _ _ _ _ _ (fun _ world => world.Queueing) hseqNr hrun
    (create_queueing _ _ _ _ _ _ _ _)
    (fun _ _ _ hworld => ⟨hworld.lined, hworld.saturated⟩)
    (fun _ _ _ _ hstart hact => hact.queueing hstart)

/-- While a writer waits there are packets in the window. -/
theorem Queueing.occupied (hqueueing : world.Queueing)
    (hwaits : world.window.isResolved id = false) :
    ∃ seqNr info, world.window.get seqNr = some info := by
  by_contra hnone
  have hkeys : world.window.map.keys = [] := by
    apply List.eq_nil_iff_forall_not_mem.mpr
    intro seqNr hkey
    obtain ⟨info, hget⟩ := OrderedMap.exists_get? hkey
    exact hnone ⟨seqNr, info, hget⟩
  have hsize : world.window.size = 0 := by
    rw [BlockingMap.size, ← OrderedMap.length_keys, hkeys]
    rfl
  obtain ⟨waiter, hwaiter, -⟩ := BlockingMap.isResolved_eq_false.mp hwaits
  rw [(hqueueing.saturated.idle hsize).2] at hwaiter
  cases hwaiter

/-- While a writer waits, a check of the window finds a packet due if it comes late enough; and
the writer has been let in once checks have found as many packets due as the packets and the
writers ahead of it have attempts, whatever else has happened. Where no check is made any more,
as on a connection that was closed or reset, neither lets it in. -/
theorem let_in_by_checks (hseqNr : seqNr < 65536)
    (hearlier : (connSystem anyLabel anyPacket).Traced
      (connecting self utp isInitiator remoteAddr sendId recvId seqNr ackNr) earlier)
    (hrun : (connSystem anyLabel anyPacket).Traced earlier trace)
    (hbefore : earlier.config.state.window.isResolved id = false) :
    (trace.config.state.window.isResolved id = false →
      ∃ later, trace.config.state.utp.dateNow ≤ later ∧
        ∃ write ∈ UtpSendWindow.timeoutCheck.writes (trace.config.state.setDateNow later),
          FindsDue write) ∧
    ((UtpSendWindow.RESEND_TIMES_LIMIT + 1) * earlier.config.state.window.entriesAhead id ≤
        foundDue (trace.writes.drop earlier.writes.length) →
      trace.config.state.window.isResolved id = true) := by
  have hstart := traced_queueing hseqNr hearlier
  have hqueued : ∃ more, trace.writes = earlier.writes ++ more ∧
      Queued id earlier.config.state (foundDue more) trace.config.state := by
    apply @continued_recorded _ _ _ _ _ _ _ _ _ (fun writes world => ∃ more,
      writes = earlier.writes ++ more ∧ Queued id earlier.config.state (foundDue more) world)
      _ hseqNr hearlier hrun
    · exact ⟨[], (List.append_nil _).symm, hstart, hstart.lined.numbered hbefore,
        fun _ => Nat.le_refl _⟩
    · rintro before author start target ⟨more, rfl, hqueued⟩ hact
      refine ⟨more ++ [(author, start, target)], List.append_assoc _ _ _, ?_⟩
      by_cases hdue : FindsDue (start, target)
      · rw [foundDue_snoc_due _ _ _ hdue]
        exact hqueued.due hact hdue
      · rw [foundDue_snoc _ _ _ hdue]
        exact hqueued.step hact
  obtain ⟨more, hwrites, hqueued⟩ := hqueued
  constructor
  · intro hwaits
    obtain ⟨seqNr, info, hget⟩ := hqueued.queueing.occupied hwaits
    obtain ⟨later, hlate, hdue⟩ := trace.config.state.conn.sendWindow.exists_due
      trace.config.state.utp.dateNow
    refine ⟨later, hlate, ?_⟩
    exact @timeoutCheck_finds (trace.config.state.setDateNow later) _ _ hget (hdue seqNr info hget)
  · intro hfound
    by_contra hresolved
    have hwaits := Bool.eq_false_iff.mpr hresolved
    obtain ⟨seqNr, info, hget⟩ := hqueued.queueing.occupied hwaits
    rw [hwrites, List.drop_left] at hfound
    have hless := hqueued.waited hwaits
    have hmost := @BlockingMap.ahead_le _ _ UtpSendWindow.attempts id earlier.config.state.window
      (UtpSendWindow.RESEND_TIMES_LIMIT + 1) fun info => Nat.succ_le_succ (Nat.sub_le _ _)
    have htotal := @OrderedMap.total_of_get _ _ _ UtpSendWindow.attempts _ _ _ hget
    have hpos : 0 < UtpSendWindow.attempts info := Nat.succ_pos _
    have hahead : 0 < trace.config.state.window.ahead UtpSendWindow.attempts id := by
      unfold BlockingMap.ahead
      omega
    omega

/-- The second writer waits behind one packet, which is sent again after two seconds. -/
def stillWaiting : Trace World Label :=
  (tick twoWriters 1002300).launch .timeoutCheck UtpConn.timeoutCheck

theorem stillWaiting_traced : (connSystem anyLabel anyPacket).Traced twoWriters stillWaiting := by
  apply Async.TaskSystem.Traced.launch (traced_tick _ .refl)
  · exact ⟨trivial, .timeoutCheck⟩
  · intro hexclusive
    cases hexclusive

/-- The check has found the packet due, the writer still waits, and the next check finds it again
if it comes late enough; three more finds let the writer in. -/
theorem let_in_by_checks_sample :
    (∃ later, 1002300 ≤ later ∧
      ∃ write ∈ UtpSendWindow.timeoutCheck.writes (stillWaiting.config.state.setDateNow later),
        FindsDue write) ∧
    foundDue (stillWaiting.writes.drop twoWriters.writes.length) < 4 * 1 := by
  have hahead : twoWriters.config.state.window.entriesAhead 0 = 1 := by decide +kernel
  have hbefore : twoWriters.config.state.window.isResolved 0 = false := by decide +kernel
  have hwaits : stillWaiting.config.state.window.isResolved 0 = false := by decide +kernel
  have hnow : stillWaiting.config.state.utp.dateNow = 1002300 := by decide +kernel
  obtain ⟨hfinds, hletIn⟩ :=
    let_in_by_checks (by decide) twoWriters_traced stillWaiting_traced hbefore
  refine ⟨?_, ?_⟩
  · rw [← hnow]
    exact hfinds hwaits
  · rw [← hahead]
    by_contra hfound
    rw [hletIn (Nat.le_of_not_lt hfound)] at hwaits
    cases hwaits

end Run

end World

end Utp
