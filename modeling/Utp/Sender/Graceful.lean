import Utp.Buffer.Backlog
import Utp.Conn.Effects
import Utp.Sender.Ending
import Utp.Sender.Forgery

/-! # Closing gracefully

What `trySafeRelease` is documented to wait for: all data acknowledged, and the FIN of
the peer. An own `close` leaves `CS_CONNECTED`, after which a FIN that arrives is
ignored, and the release falls through to its last branch. The runs that keep clear of
this branch and of four others close only when both are there.
-/

namespace Utp

open Async (Chain Config Guard)

namespace World

variable {receiving closing writing : Bool} {world next : World} {seqNr : Nat}

/-! ## What no act breaks -/

theorem Act.saturated (hact : Act receiving closing writing world next)
    (hsaturated : world.window.Saturated) : next.window.Saturated := by
  have hdelete := fun (map : BlockingMap Nat UtpPacketWithExtraInfo) (key : Nat)
    (h : map.Saturated) => h.delete key
  have hcapacity : ∀ (map : BlockingMap Nat UtpPacketWithExtraInfo) capacity, 1 ≤ capacity →
      map.Saturated → (map.updateCapacity capacity).Saturated :=
    fun _ _ h _ => BlockingMap.saturated_updateCapacity h
  cases hact with
  | env henv =>
      unfold window
      rw [henv.conn]
      exact hsaturated
  | register => exact BlockingMap.saturated_admitWaiting hsaturated.capacity
  | waitForRoom info _ _ hfull => exact hsaturated.enqueueSetter hfull _ _
  | resendOne now seqNr =>
      refine UtpSendWindow.resendOne_preserves BlockingMap.Saturated now seqNr
        (fun map _ _ _ => hdelete map seqNr) hcapacity (fun info _ _ hinfo => ?_) hsaturated
      exact hsaturated.update _ (OrderedMap.mem_keys_of_get? hinfo)
  | resetNow => exact BlockingMap.saturated_updateCapacity (by decide)
  | handleAck packet =>
      exact UtpSendWindow.handleAck_preserves BlockingMap.Saturated _ packet
        (fun map seqNr _ => hdelete map seqNr) hcapacity hsaturated
  | _ => exact hsaturated

/-- A reset forgets the FIN of the peer. -/
theorem Act.finless (hact : Act receiving closing writing world next)
    (hfinless : world.conn.localState = .CS_RESET → world.conn.remoteFinPacket = none)
    (hreset : next.conn.localState = .CS_RESET) : next.conn.remoteFinPacket = none := by
  cases hact with
  | env henv =>
      rw [henv.conn] at hreset ⊢
      exact hfinless hreset
  | beginClose => cases hreset
  | resetNow => rfl
  | release => cases hreset
  | forceClose => cases hreset
  | acceptHandshake => cases hreset
  | acceptFirstData => cases hreset
  | acceptFin => cases hreset
  | _ => exact hfinless hreset

/-- What an act lets into the window waited before, but for a packet it registers itself. -/
theorem Act.admits (hact : Act receiving closing writing world next) :
    world.window.entered <+: next.window.entered ∧
      ∀ entry ∈ next.window.entered.drop world.window.entered.length,
        entry.1 ∈ world.window.backlog ∨ entry.1 ∈ next.window.backlog := by
  have hadmits : world.window.Admits next.window → world.window.entered <+: next.window.entered ∧
      ∀ entry ∈ next.window.entered.drop world.window.entered.length,
        entry.1 ∈ world.window.backlog ∨ entry.1 ∈ next.window.backlog := fun h =>
    ⟨h.entered, fun entry hentry => .inl
      (BlockingMap.mem_backlog.mpr (.inr (h.admitted entry hentry)))⟩
  cases hact with
  | env henv =>
      apply hadmits
      unfold window
      rw [henv.conn]
      exact .refl _
  | register info =>
      obtain ⟨hbeginning, hentries⟩ :=
        world.window.entered_put_resolve info.packet.seqNr info
      refine ⟨hbeginning, fun entry hentry => ?_⟩
      rcases hentries entry hentry with hnew | hwaited
      · rw [hnew]
        exact .inr (BlockingMap.mem_backlog_admitWaiting (.inl (by simp [BlockingMap.put])))
      · exact .inl (BlockingMap.mem_backlog.mpr (.inr hwaited))
  | waitForRoom info =>
      refine ⟨List.prefix_rfl, fun entry hentry => ?_⟩
      have hnone : world.window.entered.drop world.window.entered.length = [] := List.drop_length
      exact absurd (hnone ▸ hentry) List.not_mem_nil
  | resendOne now seqNr =>
      apply hadmits
      exact UtpSendWindow.resendOne_preserves _ now seqNr (fun map _ _ _ h => h.delete seqNr)
        (fun map capacity _ h => h.updateCapacity capacity)
        (fun _ _ _ _ => BlockingMap.admits_update _ _) (.refl _)
  | resetNow =>
      apply hadmits
      exact UtpSendWindow.reset_preserves _ (fun map h => ⟨h.entered, h.waiting, h.admitted⟩)
        (fun map capacity _ h => h.updateCapacity capacity) (.refl _)
  | handleAck packet =>
      apply hadmits
      exact UtpSendWindow.handleAck_preserves _ _ packet (fun map seqNr _ h => h.delete seqNr)
        (fun map capacity _ h => h.updateCapacity capacity) (.refl _)
  | _ => exact hadmits (.refl _)

theorem Act.handledAcks (hact : Act receiving closing writing world next) :
    world.conn.sendWindow.handledAcks <+: next.conn.sendWindow.handledAcks := by
  cases hact with
  | env henv => exact henv.conn ▸ List.prefix_rfl
  | resendOne now seqNr =>
      have hsame := (resendOne_remembers world.conn.sendWindow now seqNr).2
      exact hsame ▸ List.prefix_rfl
  | handleAck packet => exact handledAcks_handleAck _ _ packet ▸ List.prefix_append _ _
  | _ => exact List.prefix_rfl

/-! ## The runs in question -/

/-- No packet in the window, nor one that waits to enter, has a number that the window
takes for acknowledged already. -/
def Fresh (world : World) : Prop :=
  ∀ seqNr ∈ world.window.backlog, world.conn.sendWindow.isPacketAcked seqNr = false

/-- What the last branch of `trySafeRelease` finds: nothing is left to be acknowledged,
the own FIN was built, and that of the peer is not there. -/
def Unanswered (world : World) : Prop :=
  world.conn.sendWindow.isEmpty = true ∧ world.conn.remoteFinPacket.isSome = false ∧
    world.conn.localFinPacket.isSome = true

/-- Only what ends within the limit of `close` is in question. -/
def inTime : Guard World Label := fun _ _ start target =>
  target.conn.localState = .CS_CLOSED → start.conn.localState ≠ .CS_CLOSED →
    start.conn.isPollTimeout start.utp.performanceNow = false

/-- What the writes of a graceful run keep clear of. -/
structure Graceful (label : Label) (start target : World) : Prop where
  fresh : start.Fresh
  answered : target = start.release → ¬ start.Unanswered
  poll : label = .closePoll → target = start.forceClose →
    start.conn.remoteFinPacket.isSome = true ∧ start.conn.sendWindow.isEmpty = true
  retried : ∀ now seqNr info,
    target = start.setWindow (start.conn.sendWindow.resendOne now seqNr).1 →
      start.window.get seqNr = some info → ¬ start.conn.sendWindow.IsExhausted now info
  tracked : ∀ calledIn packet remoteAddr,
    target = start.transmit (some calledIn) packet remoteAddr → packet.type = .ST_DATA →
      calledIn = .CS_CONNECTED
  fin : ∀ packet, target = start.acceptFin packet → start.conn.localState ≠ .CS_RESET

def gracefully : Guard World Label := fun others label start target =>
  inTime others label start target ∧ start.Graceful label target

/-! ## What a write of such a run preserves -/

/-- What is in the window or waits to enter it stays until it is acknowledged. -/
theorem Act.backlog (hact : Act receiving closing writing world next) (hfresh : world.Fresh)
    (hretried : ∀ now seqNr info,
      next = world.setWindow (world.conn.sendWindow.resendOne now seqNr).1 →
        world.window.get seqNr = some info → ¬ world.conn.sendWindow.IsExhausted now info)
    (hreset : next.conn.localState ≠ .CS_RESET) (hseqNr : seqNr ∈ world.window.backlog) :
    seqNr ∈ next.window.backlog ∨ ∃ ackPacket,
      next.conn.sendWindow.handledAcks = world.conn.sendWindow.handledAcks ++ [ackPacket] ∧
        UtpSendWindow.Acks ackPacket seqNr := by
  cases hact with
  | env henv =>
      unfold window
      rw [henv.conn]
      exact .inl hseqNr
  | register info =>
      apply Or.inl
      apply BlockingMap.mem_backlog_admitWaiting
      refine (BlockingMap.mem_backlog.mp hseqNr).imp_left fun hpresent => ?_
      exact OrderedMap.mem_keys_set.mpr (.inl hpresent)
  | waitForRoom info =>
      apply Or.inl
      rw [BlockingMap.mem_backlog] at hseqNr ⊢
      exact hseqNr.imp_right fun ⟨waiter, hwaiter, hkey⟩ =>
        ⟨waiter, List.mem_append_left _ hwaiter, hkey⟩
  | resendOne now other =>
      refine .inl (UtpSendWindow.resendOne_preserves (fun map => seqNr ∈ map.backlog) now other
        (fun map info hinfo hexhausted _ => ?_)
        (fun map capacity _ => BlockingMap.mem_backlog_updateCapacity capacity)
        (fun _ _ _ _ => BlockingMap.mem_backlog_update _ _ hseqNr) hseqNr)
      exact absurd hexhausted (hretried now other info rfl hinfo)
  | resetNow => exact absurd rfl hreset
  | handleAck packet =>
      have hacks : UtpSendWindow.Acks packet seqNr ∨
          seqNr ∈ (world.handleAck packet).window.backlog := by
        refine UtpSendWindow.handleAck_preserves
          (fun map => UtpSendWindow.Acks packet seqNr ∨ seqNr ∈ map.backlog) _ packet
          (fun map other hcovers h => ?_)
          (fun map capacity _ h => h.imp_right (BlockingMap.mem_backlog_updateCapacity capacity))
          (.inr hseqNr)
        by_cases hother : seqNr = other
        · subst hother
          rcases hcovers with hsacked | hacked
          · exact .inl (.inl hsacked)
          · rcases UtpSendWindow.isPacketAcked_noteAck hacked with hbefore | hacked
            · rw [hfresh seqNr hseqNr] at hbefore
              cases hbefore
            · exact .inl (.inr hacked)
        · exact h.imp_right (BlockingMap.mem_backlog_delete hother)
      rcases hacks with hacks | hstays
      · exact .inr ⟨packet, handledAcks_handleAck _ _ packet, hacks⟩
      · exact .inl hstays
  | _ => exact .inl hseqNr

/-- A write that closes a connection in time finds the FIN and an empty window, and leaves
both. -/
theorem Graceful.closed {others : List (Label × ConnM Unit)} {label : Label}
    (hallowed : gracefully others label world next)
    (hends : world.EndsBy label next)
    (hstarted : world.conn.localState ≠ .CS_SYN_SENT)
    (hclosed : next.conn.localState = .CS_CLOSED) (hopen : world.conn.localState ≠ .CS_CLOSED) :
    (world.conn.remoteFinPacket.isSome = true ∧ world.conn.sendWindow.isEmpty = true) ∧
      next.conn.remoteFinPacket = world.conn.remoteFinPacket ∧ next.window = world.window := by
  obtain ⟨htime, hgraceful⟩ := hallowed
  cases hends.closed hclosed hopen with
  | abandoned hstate => exact absurd hstate hstarted
  | expired hlimit =>
      rw [htime hclosed hopen] at hlimit
      cases hlimit
  | finished _ hremote hempty => exact ⟨⟨hremote, hempty⟩, rfl, rfl⟩
  | released _ hremote hlocal hempty =>
      exact absurd ⟨hempty, hremote, hlocal⟩ (hgraceful.answered rfl)
  | gaveUp hpolling => exact ⟨hgraceful.poll (of_decide_eq_true hpolling) rfl, rfl, rfl⟩

/-- A reset connection is never closed, as it has no FIN. -/
theorem Graceful.reset {others : List (Label × ConnM Unit)} {label : Label}
    (hact : label.Acts world next) (hallowed : gracefully others label world next)
    (hends : world.EndsBy label next)
    (hfinless : world.conn.localState = .CS_RESET → world.conn.remoteFinPacket = none)
    (hreset : world.conn.localState = .CS_RESET) : next.conn.localState = .CS_RESET := by
  have hother : ∀ state, state ≠ .CS_RESET → world.conn.localState ≠ state := by
    intro state hstate hsame
    exact hstate (hsame.symm.trans hreset)
  have hopen : next.conn.localState ≠ .CS_CLOSED := by
    intro hclosed
    have hfin := (Graceful.closed hallowed hends (hother .CS_SYN_SENT nofun) hclosed
      (hother .CS_CLOSED nofun)).1.1
    rw [hfinless hreset] at hfin
    cases hfin
  refine (Act.terminal hact (.inr hreset) fun _ => ?_).resolve_left hopen
  rintro ⟨packet, rfl⟩
  exact hallowed.2.fin packet rfl hreset

/-- A closed connection has the FIN of the peer and an idle window. -/
structure Answered (world : World) : Prop where
  started : world.Started
  saturated : world.window.Saturated
  closed : world.conn.localState = .CS_CLOSED →
    world.conn.remoteFinPacket.isSome = true ∧ world.window.Idle

theorem Answered.act {others : List (Label × ConnM Unit)} {label : Label}
    (hanswered : world.Answered) (hact : label.Acts world next)
    (hends : world.EndsBy label next)
    (hallowed : gracefully others label world next) : next.Answered := by
  refine ⟨Act.grows hact |>.started hanswered.started, Act.saturated hact hanswered.saturated,
    fun hclosed => ?_⟩
  by_cases hopen : world.conn.localState = .CS_CLOSED
  · obtain ⟨hfin, hidle⟩ := hanswered.closed hopen
    refine ⟨?_, Act.idle hact (Terminal.over (.inl hopen)) hidle⟩
    cases hact with
    | env henv =>
        rw [henv.conn]
        exact hfin
    | resetNow => cases hclosed
    | acceptFin => cases hclosed
    | _ => exact hfin
  · obtain ⟨⟨hfin, hempty⟩, hremote, hwindow⟩ :=
      Graceful.closed hallowed hends hanswered.started.1 hclosed hopen
    rw [hremote, hwindow]
    exact ⟨hfin, hanswered.saturated.idle (of_decide_eq_true hempty)⟩

/-- What has entered the window since is there still, or was acknowledged since. -/
structure Acquitted (past world : World) : Prop where
  entered : past.window.entered <+: world.window.entered
  handled : past.conn.sendWindow.handledAcks <+: world.conn.sendWindow.handledAcks
  acquitted : world.conn.localState ≠ .CS_RESET →
    ∀ entry ∈ world.window.entered.drop past.window.entered.length,
      entry.1 ∈ world.window.backlog ∨
        ∃ ackPacket ∈ world.conn.sendWindow.handledAcks.drop
            past.conn.sendWindow.handledAcks.length,
          UtpSendWindow.Acks ackPacket entry.1

theorem Acquitted.act {past : World} (hacquitted : past.Acquitted world)
    (hact : Act receiving closing writing world next) (hfresh : world.Fresh)
    (hretried : ∀ now seqNr info,
      next = world.setWindow (world.conn.sendWindow.resendOne now seqNr).1 →
        world.window.get seqNr = some info → ¬ world.conn.sendWindow.IsExhausted now info)
    (hreset : world.conn.localState = .CS_RESET → next.conn.localState = .CS_RESET) :
    past.Acquitted next := by
  obtain ⟨hbeginning, hadmitted⟩ := hact.admits
  refine ⟨hacquitted.entered.trans hbeginning, hacquitted.handled.trans hact.handledAcks,
    fun hnext entry hentry => ?_⟩
  -- What was in the backlog stays there, or the acknowledgement just handled is for it.
  have hstep : entry.1 ∈ world.window.backlog → entry.1 ∈ next.window.backlog ∨
      ∃ ackPacket ∈ next.conn.sendWindow.handledAcks.drop
        past.conn.sendWindow.handledAcks.length, UtpSendWindow.Acks ackPacket entry.1 := by
    intro hbacklog
    refine (hact.backlog hfresh hretried hnext hbacklog).imp_right ?_
    rintro ⟨ackPacket, hhandled, hacks⟩
    refine ⟨ackPacket, ?_, hacks⟩
    rw [hhandled, List.drop_append_of_le_length hacquitted.handled.length_le]
    exact List.mem_append_right _ (List.mem_singleton.mpr rfl)
  obtain ⟨more, hmore⟩ := hbeginning
  rw [← hmore, List.drop_append_of_le_length hacquitted.entered.length_le] at hentry
  rcases List.mem_append.mp hentry with hold | hnew
  · rcases hacquitted.acquitted (hnext ∘ hreset) entry hold with hbacklog | ⟨ackPacket, hmem, hacks⟩
    · exact hstep hbacklog
    · obtain ⟨later, hlater⟩ := hact.handledAcks
      refine .inr ⟨ackPacket, ?_, hacks⟩
      rw [← hlater, List.drop_append_of_le_length hacquitted.handled.length_le]
      exact List.mem_append_left _ hmem
  · have hentered : entry ∈ next.window.entered.drop world.window.entered.length := by
      rw [← hmore, List.drop_left]
      exact hnew
    rcases hadmitted entry hentered with hbefore | hafter
    · exact hstep hbefore
    · exact .inl hafter

/-- Every data packet entered the window before it was sent first. -/
def Accounted (world : World) : Prop :=
  ∀ datagram ∈ world.utp.sent, datagram.packet.type = .ST_DATA → datagram.calledIn.isSome = true →
    world.Registered datagram.packet

theorem Accounted.act {others : List (Label × ConnM Unit)} {label : Label}
    (haccounted : world.Accounted) (hact : label.Acts world next)
    (hallowed : gracefully others label world next) : next.Accounted := by
  have hgrows := Act.grows hact
  have hsame : next.utp.sent = world.utp.sent → next.Accounted := by
    intro hsent datagram hdatagram htype hcalled
    rw [hsent] at hdatagram
    exact hgrows.registered (haccounted datagram hdatagram htype hcalled)
  cases hact with
  | env henv => exact hsame henv.sent
  | transmit calledIn packet remoteAddr htransmits =>
      intro datagram hdatagram htype hcalled
      rcases List.mem_append.mp hdatagram with hold | hnew
      · exact hgrows.registered (haccounted datagram hold htype hcalled)
      · rw [List.mem_singleton.mp hnew] at htype hcalled ⊢
        obtain ⟨state, hstate⟩ := Option.isSome_iff_exists.mp hcalled
        simp only at hstate htype
        subst hstate
        have hconnected := hallowed.2.tracked state packet remoteAddr rfl htype
        apply hgrows.registered
        apply htransmits.registered (congrArg some hconnected)
        simp [UtpPacket.isReliable, htype]
  | _ => exact hsame rfl

/-! ## Runs -/

/-- What a connection has behind it that is closed gracefully: the FIN of the peer, and all
data acknowledged. Each data packet it sent was in the window before, and each that
entered the window since `past` has been acknowledged since. -/
structure Exchanged (past world : World) : Prop where
  fin : world.conn.remoteFinPacket.isSome = true
  accounted : world.Accounted
  acknowledged : ∀ entry ∈ world.window.entered.drop past.window.entered.length,
    ∃ ackPacket ∈ world.conn.sendWindow.handledAcks.drop past.conn.sendWindow.handledAcks.length,
      UtpSendWindow.Acks ackPacket entry.1

section Runs

variable {self : Nat} {utp : UtpSocket} {isInitiator : Bool} {remoteAddr : UtpAddr}
  {sendId recvId ackNr first : Nat}

theorem connectTo_unstarted (hfirst : first < 65536) :
    ¬ (connectTo self utp isInitiator remoteAddr sendId recvId first ackNr).state.Started ∧
      (connectTo self utp isInitiator remoteAddr sendId recvId first ackNr).state.Accounted ∧
      (connectTo self utp isInitiator remoteAddr sendId recvId first
        ackNr).state.window.Saturated := by
  have hconn := connectTo_conn self utp isInitiator remoteAddr sendId recvId first ackNr
  have htracked := (connectTo_moving self utp isInitiator remoteAddr sendId recvId first ackNr
    hfirst).inv
  have hunstarted :
      ¬ (connectTo self utp isInitiator remoteAddr sendId recvId first ackNr).state.Started := by
    unfold Started
    rw [hconn]
    cases isInitiator
    · exact fun h => h.2 rfl
    · exact fun h => h.1 rfl
  refine ⟨hunstarted, fun datagram hdatagram htype _ => ?_, ?_⟩
  · have hcreated := htracked.sent datagram hdatagram (by simp [UtpPacket.isReliable, htype])
    rw [htracked.unstarted hunstarted] at hcreated
    cases hcreated
  · unfold window
    rw [hconn]
    have hcapacity : (1 : ℚ) ≤ UtpSendWindow.MIN_WINDOW_SIZE := by decide
    cases isInitiator <;> exact ⟨fun h => absurd rfl h, hcapacity⟩

/-- A run of the kind in question keeps what its writes keep. -/
theorem gracefully_keeps (hfirst : first < 65536) {config later : Config World Label}
    (hconfig : (connSystem anyLabel anyPacket).Guarded gracefully
      (connectTo self utp isInitiator remoteAddr sendId recvId first ackNr) config)
    (hrun : (connSystem anyLabel anyPacket).Guarded gracefully config later)
    (keep : World → Prop)
    (hact : ∀ others label start target, keep start → label.Acts start target →
      start.EndsBy label target →
      gracefully others label start target → keep target)
    (henv : ∀ start target, keep start → start.Environment target → keep target)
    (hstart : keep config.state) : keep later.state :=
  guarded_keeps_and hfirst (fun packet => Rests.endsFor rfl (sendHandshake_rests packet))
    (fun _ _ _ hspawns => spawns_ends hspawns) hconfig.reachable hrun keep hact henv hstart

/-- A connection that was connected, on which `close` is called, is closed within the limit
only after the FIN of the peer is there and all its data was acknowledged. -/
theorem closed_gracefully (hfirst : first < 65536) {config past later : Config World Label}
    (hconfig : (connSystem anyLabel anyPacket).Guarded gracefully
      (connectTo self utp isInitiator remoteAddr sendId recvId first ackNr) config)
    (hconnected : config.state.conn.localState = .CS_CONNECTED)
    (hclose : (connSystem anyLabel anyPacket).GuardedStep gracefully config
      (config.launch .close UtpConn.close))
    (hlater : (connSystem anyLabel anyPacket).Guarded gracefully
      (config.launch .close UtpConn.close) later)
    (hpast : (connSystem anyLabel anyPacket).Guarded gracefully
      (connectTo self utp isInitiator remoteAddr sendId recvId first ackNr) past)
    (hsince : (connSystem anyLabel anyPacket).Guarded gracefully past later)
    (hclosed : later.state.conn.localState = .CS_CLOSED) :
    past.state.Exchanged later.state := by
  obtain ⟨hunstarted, haccounted, hsaturated⟩ :=
    @connectTo_unstarted self utp isInitiator remoteAddr sendId recvId ackNr first hfirst
  have hsaturatedLater : config.state.window.Saturated := by
    refine gracefully_keeps hfirst .refl hconfig (fun world => world.window.Saturated)
      (fun _ _ _ _ h hact _ _ => Act.saturated hact h) (fun _ _ h henv => ?_) hsaturated
    have hact : Act true true true _ _ := .env henv
    exact hact.saturated h
  have hanswered : later.state.Answered := by
    refine gracefully_keeps hfirst hconfig (hlater.head hclose) Answered
      (fun _ _ _ _ h hact hends hallowed => h.act hact hends hallowed) (fun _ _ h henv => ?_)
      ⟨?_, hsaturatedLater, fun h => ?_⟩
    · refine ⟨?_, ?_, ?_⟩
      · rw [Started, henv.conn]
        exact h.started
      · rw [window, henv.conn]
        exact h.saturated
      · rw [window, henv.conn]
        exact h.closed
    · simp [Started, hconnected]
    · rw [hconnected] at h
      cases h
  have haccountedLater : later.state.Accounted := by
    refine gracefully_keeps hfirst .refl (hpast.trans hsince) Accounted
      (fun _ _ _ _ h hact _ hallowed => h.act hact hallowed) (fun start target h henv => ?_)
      haccounted
    have hact : Act true true true start target := .env henv
    intro datagram hdatagram htype hcalled
    rw [henv.sent] at hdatagram
    exact hact.grows.registered (h datagram hdatagram htype hcalled)
  -- From the past on, the window only loses what is acknowledged.
  have hfinless : past.state.conn.localState = .CS_RESET →
      past.state.conn.remoteFinPacket = none := by
    refine gracefully_keeps hfirst .refl hpast
      (fun world => world.conn.localState = .CS_RESET → world.conn.remoteFinPacket = none)
      (fun _ _ _ _ h hact _ _ => Act.finless hact h) (fun _ _ h henv => ?_)
      fun hreset => absurd ⟨?_, ?_⟩ hunstarted
    · rw [henv.conn]
      exact h
    · simp [hreset]
    · simp [hreset]
  have hacquitted := (gracefully_keeps hfirst hpast hsince
    (fun world => (world.conn.localState = .CS_RESET → world.conn.remoteFinPacket = none) ∧
      past.state.Acquitted world)
    (fun _ _ _ _ h hact hends hallowed => ⟨Act.finless hact h.1,
      h.2.act hact hallowed.2.fresh hallowed.2.retried
        (Graceful.reset hact hallowed hends h.1)⟩)
    (fun _ _ h henv => ?_)
    ⟨hfinless, List.prefix_rfl, List.prefix_rfl, fun _ entry hentry => ?_⟩).2
  · obtain ⟨hfin, hidle⟩ := hanswered.closed hclosed
    refine ⟨hfin, haccountedLater, fun entry hentry => ?_⟩
    have hopen : later.state.conn.localState ≠ .CS_RESET := by
      simp [hclosed]
    rcases hacquitted.acquitted hopen entry hentry with hbacklog | hacked
    · rw [BlockingMap.backlog_of_idle hidle] at hbacklog
      cases hbacklog
    · exact hacked
  · obtain ⟨hfin, hentered, hhandled, hentries⟩ := h
    refine ⟨?_, ?_, ?_, ?_⟩
    all_goals simp only [window, henv.conn]
    · exact hfin
    · exact hentered
    · exact hhandled
    · exact hentries
  · rw [List.drop_length] at hentry
    cases hentry

end Runs

/-! ## Concrete runs -/

/-- A test on a write that it keeps clear of all that is in question. -/
def keepsClear (start target : World) : Bool :=
  start.window.backlog.all (fun seqNr => !start.conn.sendWindow.isPacketAcked seqNr) &&
  (decide (target.conn.localState ≠ .CS_CLOSED) ||
    start.conn.remoteFinPacket.isSome && start.conn.sendWindow.isEmpty &&
      !start.conn.isPollTimeout start.utp.performanceNow) &&
  start.window.map.entries.all
    (fun entry => decide (entry.2.resendTimes < UtpSendWindow.RESEND_TIMES_LIMIT)) &&
  (target.utp.sent.drop start.utp.sent.length).all
    (fun datagram => decide (datagram.packet.type ≠ .ST_DATA) ||
      decide (datagram.calledIn = some .CS_CONNECTED)) &&
  decide (start.conn.localState ≠ .CS_RESET)

theorem keepsClear_allowed {start target : World} (hclear : keepsClear start target = true)
    (others : List (Label × ConnM Unit)) (label : Label) :
    gracefully others label start target := by
  simp only [keepsClear, Bool.and_eq_true, Bool.or_eq_true, List.all_eq_true, decide_eq_true_eq,
    Bool.not_eq_true'] at hclear
  obtain ⟨⟨⟨⟨hfresh, hclosing⟩, hretried⟩, hsent⟩, hreset⟩ := hclear
  have hclosed : target.conn.localState = .CS_CLOSED →
      (start.conn.remoteFinPacket.isSome = true ∧ start.conn.sendWindow.isEmpty = true) ∧
        start.conn.isPollTimeout start.utp.performanceNow = false :=
    fun h => hclosing.resolve_left fun hopen => hopen h
  refine ⟨fun h _ => (hclosed h).2, hfresh, fun htarget hunanswered => ?_, fun _ htarget => ?_,
    fun now seqNr info _ hinfo hexhausted => ?_, fun calledIn packet remoteAddr htarget htype => ?_,
    fun _ _ => hreset⟩
  · have hfin := (hclosed (by rw [htarget]; rfl)).1.1
    rw [hunanswered.2.1] at hfin
    cases hfin
  · exact (hclosed (by rw [htarget]; rfl)).1
  · have hlimit := hretried _ (OrderedMap.get?_eq_some.mp hinfo)
    exact absurd hexhausted.2 (Nat.not_le.mpr hlimit)
  · have hnew := hsent
    rw [htarget] at hnew
    simp only [transmit, List.drop_left, List.mem_singleton, forall_eq, Option.some.injEq] at hnew
    exact hnew.resolve_left fun hother => hother htype

theorem launch_gracefully {config : Config World Label} {label : Label} {task : ConnM Unit}
    (hspawns : Spawns anyPacket config.state label task)
    (hfree : config.tasks.all (fun other => decide (other.1 ≠ .receive)) = true)
    (hclear : (task.writes config.state).all (fun write => keepsClear write.1 write.2) = true) :
    (connSystem anyLabel anyPacket).GuardedStep gracefully config (config.launch label task) := by
  refine .launch ⟨trivial, hspawns⟩ (fun hreceive other hother => ?_) fun write hwrite =>
    keepsClear_allowed (List.all_eq_true.mp hclear write hwrite) _ _
  rw [show label = .receive from hreceive]
  exact of_decide_eq_true (List.all_eq_true.mp hfree other hother)

theorem resumes_gracefully {config : Config World Label} {positions : List Nat}
    (hclear : (Async.TaskSystem.resumesWrites config positions).all
      (fun write => keepsClear write.1 write.2) = true) :
    (connSystem anyLabel anyPacket).Guarded gracefully config (config.resumes positions) :=
  Async.TaskSystem.Guarded.resumes _ fun write hwrite =>
    keepsClear_allowed (List.all_eq_true.mp hclear write hwrite)

theorem established_gracefully : (connSystem anyLabel anyPacket).Guarded gracefully
    (connectTo 0 .sample true (.localhost 9000) 2 1 1 0)
    (established 0 .sample (.localhost 9000) 1 100) := by
  have hanswer : (connSystem anyLabel anyPacket).GuardedStep gracefully
      ((connectTo 0 .sample true (.localhost 9000) 2 1 1 0).resumes [0, 0, 0, 0])
      (((connectTo 0 .sample true (.localhost 9000) 2 1 1 0).resumes [0, 0, 0, 0]).launch .receive
        (handling (synAck 1 100))) :=
    launch_gracefully (.receive _ trivial) (by decide +kernel) (by decide +kernel)
  have hconnected := (resumes_gracefully (by decide +kernel)).tail hanswer
  exact hconnected.trans (resumes_gracefully (by decide +kernel))

theorem wroteByte_gracefully : (connSystem anyLabel anyPacket).Guarded gracefully
    (connectTo 0 .sample true (.localhost 9000) 2 1 1 0) wroteByte := by
  have hwrite : (connSystem anyLabel anyPacket).GuardedStep gracefully
      (established 0 .sample (.localhost 9000) 1 100)
      ((established 0 .sample (.localhost 9000) 1 100).launch .write
        (Async.discard (UtpConn.write [65]))) :=
    launch_gracefully (.write _ sample_resolved) (by rw [sample_idle]; rfl) (by decide +kernel)
  exact (established_gracefully.tail hwrite).trans (resumes_gracefully (by decide +kernel))

/-- The acknowledgement of the byte. -/
def byteAck : UtpPacket := { type := .ST_STATE, connId := 1, seqNr := 100, ackNr := 2 }

/-- The FIN of a peer that has sent nothing. -/
def lastFin : UtpPacket := { type := .ST_FIN, connId := 1, seqNr := 100, ackNr := 2 }

/-- The byte is acknowledged, and the handler of the FIN is suspended. -/
def finInHand : Config World Label :=
  ((wroteByte.launch .receive (handling byteAck)).resumes [0, 0]).launch .receive (handling lastFin)

theorem finInHand_gracefully : (connSystem anyLabel anyPacket).Guarded gracefully
    (connectTo 0 .sample true (.localhost 9000) 2 1 1 0) finInHand := by
  have hack : (connSystem anyLabel anyPacket).GuardedStep gracefully wroteByte
      (wroteByte.launch .receive (handling byteAck)) :=
    launch_gracefully (.receive _ trivial) (by decide +kernel) (by decide +kernel)
  have hfin : (connSystem anyLabel anyPacket).GuardedStep gracefully
      ((wroteByte.launch .receive (handling byteAck)).resumes [0, 0]) finInHand :=
    launch_gracefully (.receive _ trivial) (by decide +kernel) (by decide +kernel)
  exact ((wroteByte_gracefully.tail hack).trans (resumes_gracefully (by decide +kernel))).tail hfin

/-- A `close` while the FIN is being handled waits for what it should. -/
theorem closed_gracefully_sample :
    ((finInHand.launch .close UtpConn.close).resumes [0]).state.conn.localState = .CS_CLOSED ∧
      (connectTo 0 .sample true (.localhost 9000) 2 1 1 0).state.Exchanged
        ((finInHand.launch .close UtpConn.close).resumes [0]).state := by
  have hclosed : ((finInHand.launch .close UtpConn.close).resumes [0]).state.conn.localState =
      .CS_CLOSED := by decide +kernel
  have hconnected : finInHand.state.conn.localState = .CS_CONNECTED := by decide +kernel
  have hclose : (connSystem anyLabel anyPacket).GuardedStep gracefully finInHand
      (finInHand.launch .close UtpConn.close) := by
    have hclear : (UtpConn.close.writes finInHand.state).all
        (fun write => keepsClear write.1 write.2) = true := by decide +kernel
    exact .launch ⟨trivial, .close⟩ nofun fun write hwrite =>
      keepsClear_allowed (List.all_eq_true.mp hclear write hwrite) _ _
  have hlater : (connSystem anyLabel anyPacket).Guarded gracefully
      (finInHand.launch .close UtpConn.close)
      ((finInHand.launch .close UtpConn.close).resumes [0]) :=
    resumes_gracefully (by decide +kernel)
  have hconfig := finInHand_gracefully
  generalize finInHand = config at *
  generalize hnext : (config.launch .close UtpConn.close).resumes [0] = later at *
  exact ⟨hclosed, closed_gracefully (by decide) hconfig hconnected hclose hlater .refl
    ((hconfig.tail hclose).trans hlater) hclosed⟩

/-- An idle connection on which `close` was called, and whose interval runs. -/
def awaitingInterval : Config World Label :=
  ((established 0 .sample (.localhost 9000) 1 100).launch .close UtpConn.close).resumes [0, 0, 0]

/-- The first tick of the interval closes it, and nothing has come from the peer. -/
theorem closed_unanswered :
    ¬ ∀ config past later : Config World Label, (connSystem anyLabel anyPacket).Guarded inTime
        (connectTo 0 .sample true (.localhost 9000) 2 1 1 0) config →
      config.state.conn.localState = .CS_CONNECTED →
      (connSystem anyLabel anyPacket).Guarded inTime (config.launch .close UtpConn.close) later →
      (connSystem anyLabel anyPacket).Guarded inTime
        (connectTo 0 .sample true (.localhost 9000) 2 1 1 0) past →
      (connSystem anyLabel anyPacket).Guarded inTime past later →
      later.state.conn.localState = .CS_CLOSED → past.state.Exchanged later.state := by
  intro hclaim
  have hinTime : ∀ {config later : Config World Label}, (connSystem anyLabel anyPacket).Guarded
      gracefully config later → (connSystem anyLabel anyPacket).Guarded inTime config later :=
    fun hrun => hrun.mono fun _ _ _ _ h => h.1
  have hclear : (UtpConn.close.writes (established 0 .sample (.localhost 9000) 1 100).state).all
      (fun write => keepsClear write.1 write.2) = true := by decide +kernel
  have hclose : (connSystem anyLabel anyPacket).GuardedStep inTime
      (established 0 .sample (.localhost 9000) 1 100)
      ((established 0 .sample (.localhost 9000) 1 100).launch .close UtpConn.close) :=
    .launch ⟨trivial, .close⟩ nofun fun write hwrite =>
      (keepsClear_allowed (List.all_eq_true.mp hclear write hwrite) [] .close).1
  have hwaits : (connSystem anyLabel anyPacket).Guarded inTime
      ((established 0 .sample (.localhost 9000) 1 100).launch .close UtpConn.close)
        awaitingInterval :=
    hinTime (resumes_gracefully (by decide +kernel))
  have hpolling : awaitingInterval.state.conn.closePolling = true := by decide +kernel
  have hearly : (UtpConn.closePoll.writes awaitingInterval.state).all
      (fun write => !write.1.conn.isPollTimeout write.1.utp.performanceNow) = true := by
    decide +kernel
  have htick : (connSystem anyLabel anyPacket).GuardedStep inTime awaitingInterval
      (awaitingInterval.launch .closePoll UtpConn.closePoll) := by
    refine .launch ⟨trivial, .closePoll hpolling⟩ nofun fun write hwrite _ _ => ?_
    simpa using List.all_eq_true.mp hearly write hwrite
  have hstart := hinTime established_gracefully
  have hconnected : (established 0 .sample (.localhost 9000) 1 100).state.conn.localState =
      .CS_CONNECTED := by decide +kernel
  have hclosed : (awaitingInterval.launch .closePoll UtpConn.closePoll).state.conn.localState =
      .CS_CLOSED := by decide +kernel
  have hnone : (awaitingInterval.launch .closePoll
      UtpConn.closePoll).state.conn.remoteFinPacket.isSome = false := by decide +kernel
  have hfin := (hclaim _ _ _ hstart hconnected (hwaits.tail htick) .refl
    (((hstart.tail hclose).trans hwaits).tail htick) hclosed).fin
  rw [hnone] at hfin
  cases hfin

end World

end Utp
