import Utp.Sender.Refusal

/-! # The end of the send window

What is left of the packets in flight, and of the writers that wait for room, once
the connection has been reset or closed, and what is still sent then.
-/

namespace Utp

open Async (Config)

namespace World

/-! ## The window of a connection that is over -/

/-- Nobody starts to wait for room in a window that is over, and the waiting are
let in or not, but no others. -/
theorem Act.unblocked {receiving closing writing : Bool} {world next : World}
    (hact : Act receiving closing writing world next) (hover : world.Over)
    (hunblocked : world.window.waitingSetters = []) : next.window.waitingSetters = [] := by
  have hdelete := fun (map : BlockingMap Nat UtpPacketWithExtraInfo) key
    (h : map.waitingSetters = []) => BlockingMap.delete_unblocked key h
  have hcapacity : ∀ (map : BlockingMap Nat UtpPacketWithExtraInfo) capacity, 1 ≤ capacity →
      map.waitingSetters = [] → (map.updateCapacity capacity).waitingSetters = [] := by
    intro map capacity _ h
    rw [BlockingMap.updateCapacity_unblocked capacity h]
    exact h
  cases hact with
  | env henv =>
      unfold window
      rw [henv.conn]
      exact hunblocked
  | register _ _ hconnected => exact absurd hconnected hover.2.2
  | waitForRoom _ _ hconnected => exact absurd hconnected hover.2.2
  | resendOne now seqNr =>
      exact UtpSendWindow.resendOne_preserves (fun map => map.waitingSetters = []) now seqNr
        (fun map _ _ _ => hdelete map seqNr) hcapacity (fun _ _ _ _ => hunblocked) hunblocked
  | resetNow =>
      exact UtpSendWindow.reset_preserves (fun map => map.waitingSetters = []) (fun _ h => h)
        hcapacity hunblocked
  | handleAck packet =>
      exact UtpSendWindow.handleAck_preserves (fun map => map.waitingSetters = []) _ packet
        (fun map seqNr _ => hdelete map seqNr) hcapacity hunblocked
  | _ => exact hunblocked

/-- An idle window that is over stays idle. -/
theorem Act.idle {receiving closing writing : Bool} {world next : World}
    (hact : Act receiving closing writing world next) (hover : world.Over)
    (hidle : world.window.Idle) : next.window.Idle := by
  cases hact with
  | env henv =>
      unfold window
      rw [henv.conn]
      exact hidle
  | register _ _ hconnected => exact absurd hconnected hover.2.2
  | waitForRoom _ _ hconnected => exact absurd hconnected hover.2.2
  | resendOne now seqNr =>
      refine UtpSendWindow.resendOne_preserves BlockingMap.Idle now seqNr
        (fun _ _ _ _ => BlockingMap.idle_delete seqNr)
        (fun _ capacity _ => BlockingMap.idle_updateCapacity capacity)
          (fun info _ _ hinfo => ?_) hidle
      have hempty : world.window.map = ∅ := hidle.1
      have hnone : world.conn.sendWindow.packetMap.get seqNr = none := by
        show world.window.map.get? seqNr = none
        rw [hempty]
        rfl
      rw [hnone] at hinfo
      cases hinfo
  | resetNow =>
      exact UtpSendWindow.reset_preserves BlockingMap.Idle (fun _ h => ⟨rfl, h.2⟩)
        (fun _ capacity _ => BlockingMap.idle_updateCapacity capacity) hidle
  | handleAck packet =>
      exact UtpSendWindow.handleAck_preserves BlockingMap.Idle _ packet
        (fun _ seqNr _ => BlockingMap.idle_delete seqNr)
        (fun _ capacity _ => BlockingMap.idle_updateCapacity capacity) hidle
  | _ => exact hidle

/-! ## Releasing the window -/

/-- The window of a connection is emptied by a reset, unless a writer is let in. -/
theorem idle_resetNow_iff {world : World} :
    world.resetNow.window.Idle ↔ world.window.waitingSetters = [] := by
  have hwindow : world.resetNow.window =
      world.window.clear.updateCapacity UtpSendWindow.MIN_WINDOW_SIZE := rfl
  rw [hwindow]
  constructor
  · intro hidle
    by_contra hblocked
    exact BlockingMap.updateCapacity_admits (by decide) hblocked hidle
  · exact fun hunblocked => BlockingMap.idle_updateCapacity _ ⟨rfl, hunblocked⟩

/-- Closing a connection leaves the window as it is. -/
theorem Act.closes_window {receiving closing writing : Bool} {world next : World}
    (hact : Act receiving closing writing world next)
    (hclosed : next.conn.localState = .CS_CLOSED) (hopen : world.conn.localState ≠ .CS_CLOSED) :
    next.window = world.window := by
  cases hact with
  | env henv =>
      unfold window
      rw [henv.conn]
  | release => rfl
  | forceClose => rfl
  | beginClose => cases hclosed
  | resetNow => cases hclosed
  | acceptHandshake => cases hclosed
  | acceptFirstData => cases hclosed
  | acceptFin => cases hclosed
  | _ => exact absurd hclosed hopen

/-- Nothing reliable was sent since there were `count` datagrams. -/
def NothingReliable (count : Nat) (world : World) : Prop :=
  ∀ datagram ∈ world.utp.sent.drop count, datagram.packet.isReliable = false

theorem NothingReliable.grow {count : Nat} {world next : World} {more : List Datagram}
    (hnothing : world.NothingReliable count) (hsent : next.utp.sent = world.utp.sent ++ more)
    (hmore : ∀ datagram ∈ more, datagram.packet.isReliable = false) :
    next.NothingReliable count := by
  intro datagram hdatagram
  rw [hsent, List.drop_append] at hdatagram
  rcases List.mem_append.mp hdatagram with hold | hnew
  · exact hnothing datagram hold
  · exact hmore datagram (List.mem_of_mem_drop hnew)

/-- What holds from a reset on. -/
structure Silenced (count : Nat) (world : World) : Prop where
  terminal : world.Terminal
  idle : world.window.Idle
  silent : world.NothingReliable count

theorem Silenced.environment {count : Nat} {world next : World} (hsilenced : world.Silenced count)
    (henv : world.Environment next) : next.Silenced count := by
  refine ⟨?_, ?_, ?_⟩
  · rw [Terminal, henv.conn]
    exact hsilenced.terminal
  · rw [window, henv.conn]
    exact hsilenced.idle
  · rw [NothingReliable, henv.sent]
    exact hsilenced.silent

theorem Act.silenced {count : Nat} {receiving closing writing : Bool} {world next : World}
    (hsilenced : world.Silenced count) (hact : Act receiving closing writing world next)
    (hfin : ¬ world.AcceptsFin next)
    (hwriting : writing = true → ¬ world.HandsOver next) : next.Silenced count := by
  obtain ⟨hterminal, hidle, hsilent⟩ := hsilenced
  have hkeptIdle := hact.idle hterminal.over hidle
  cases hact with
  | env henv => exact Silenced.environment ⟨hterminal, hidle, hsilent⟩ henv
  | transmit calledIn packet remoteAddr htransmits hwrite =>
      refine ⟨hterminal, hkeptIdle, hsilent.grow rfl ?_⟩
      intro datagram hdatagram
      rw [List.mem_singleton.mp hdatagram]
      by_contra hreliable
      have hempty : world.window.map = ∅ := hidle.1
      cases hcalled : calledIn with
      | none =>
          obtain ⟨seqNr, info, hinfo, -⟩ := htransmits.resent hcalled
          have hpresent : world.window.map.get? seqNr = some info := hinfo
          rw [hempty] at hpresent
          cases hpresent
      | some state =>
          have hsome : calledIn.isSome = true := by rw [hcalled]; rfl
          cases htype : packet.type with
          | ST_DATA => exact hwriting (hwrite htype hsome) ⟨_, _, _, rfl⟩
          | ST_FIN => exact hterminal.ne (htransmits.fin htype hsome) (by decide) (by decide)
          | _ => simp [UtpPacket.isReliable, htype] at hreliable
  | beginClose hclosed hreset => exact (hterminal.elim hclosed hreset).elim
  | release hstate => exact (hterminal.ne hstate (by decide) (by decide)).elim
  | acceptHandshake _ hstate => exact (hterminal.ne hstate (by decide) (by decide)).elim
  | acceptFirstData _ hstate => exact (hterminal.ne hstate (by decide) (by decide)).elim
  | acceptFin packet => exact absurd ⟨packet, rfl⟩ hfin
  | resetNow => exact ⟨.inr rfl, hkeptIdle, hsilent⟩
  | forceClose => exact ⟨.inl rfl, hkeptIdle, hsilent⟩
  | _ => exact ⟨hterminal, hkeptIdle, hsilent⟩

/-! ## The turn of a reset -/

/-- A reset clears the connection and sends its packet, all in one turn. -/
theorem reset_turn (world : World) : ∃ remoteAddr,
    (UtpConn.reset.turn world).1 = world.resetNow.touch ∨
      (UtpConn.reset.turn world).1 = world.resetNow.touch.transmit (some .CS_RESET)
        (.createResetPacket world.resetNow.conn world.resetNow.utp.currentMicroseconds)
        remoteAddr := by
  refine ⟨world.resetNow.touch.conn.remoteAddr, ?_⟩
  have hopen : world.resetNow.touch.conn.isClosed = false := rfl
  have hconnected : world.resetNow.touch.conn.isConnected = false := rfl
  by_cases hsocket : world.resetNow.touch.utp.state = .CLOSED
  · left
    simp only [UtpConn.reset, UtpConn.sendUtpPacket, UtpSocket.sendUtpPacket, Async.bind_eq,
      Async.bind, Async.get, Async.modify, Async.awaited, Async.detached, Async.turn, hopen,
      hconnected, hsocket, Bool.false_eq_true, if_false, Bool.false_and, Async.pure_eq, if_true]
  · right
    simp only [UtpConn.reset, UtpConn.sendUtpPacket, UtpSocket.sendUtpPacket, Async.bind_eq,
      Async.bind, Async.get, Async.modify, Async.waitUntil, Async.awaited, Async.detached,
      Async.turn, hopen, hconnected, hsocket, Bool.false_eq_true, if_false, Bool.false_and,
      Async.pure_eq]
    rfl

/-- What is there behind the turn of a reset. -/
theorem reset_launched (config : Config World Label) :
    (config.launch .reset UtpConn.reset).state.conn.localState = .CS_RESET ∧
      (config.launch .reset UtpConn.reset).state.window = config.state.resetNow.window ∧
      ∀ datagram ∈ (config.launch .reset UtpConn.reset).state.utp.sent.drop
        config.state.utp.sent.length, datagram.packet.type = .ST_RESET := by
  obtain ⟨remoteAddr, hturn | hturn⟩ := reset_turn config.state
  · have hstate : (config.launch .reset UtpConn.reset).state = config.state.resetNow.touch := hturn
    have hsent : config.state.resetNow.touch.utp.sent = config.state.utp.sent := rfl
    rw [hstate, hsent, List.drop_length]
    exact ⟨rfl, rfl, nofun⟩
  · have hstate : (config.launch .reset UtpConn.reset).state = config.state.resetNow.touch.transmit
        (some .CS_RESET) (.createResetPacket config.state.resetNow.conn
          config.state.resetNow.utp.currentMicroseconds) remoteAddr := hturn
    rw [hstate]
    refine ⟨rfl, rfl, fun datagram hdatagram => ?_⟩
    have hsent : config.state.resetNow.touch.utp.sent = config.state.utp.sent := rfl
    simp only [World.transmit, hsent, List.drop_left, List.mem_singleton] at hdatagram
    rw [hdatagram]
    rfl

section Run

variable {self : Nat} {utp : UtpSocket} {isInitiator : Bool} {remoteAddr : UtpAddr}
  {sendId recvId seqNr ackNr : Nat} {config later : Config World Label}

/-- Where a connection is over and nobody waits, nobody ever will. -/
theorem unblocked_from (hseqNr : seqNr < 65536)
    (hconfig : (connSystem anyLabel anyPacket).Reachable
      (connectTo self utp isInitiator remoteAddr sendId recvId seqNr ackNr) config)
    (hover : config.state.Over) (hunblocked : config.state.window.waitingSetters = [])
    (hlater : (connSystem anyLabel anyPacket).Reachable config later) :
    later.state.window.waitingSetters = [] := by
  refine (guarded_keeps hseqNr hconfig hlater.guarded
    (fun world => world.Over ∧ world.window.waitingSetters = [])
    (fun _ _ _ _ h hact _ => ⟨Act.over hact h.1, Act.unblocked hact h.1 h.2⟩)
    (fun _ _ h henv => ?_) ⟨hover, hunblocked⟩).2
  have hact : Act true true true _ _ := .env henv
  exact ⟨hact.over h.1, hact.unblocked h.1 h.2⟩

/-- Where a connection was reset with an idle window and has no packet to hand over and no
FIN to accept, a run in which every `write` is refused sends nothing reliable. -/
theorem silenced_from (hseqNr : seqNr < 65536)
    (hconfig : (connSystem anyLabel anyPacket).Reachable
      (connectTo self utp isInitiator remoteAddr sendId recvId seqNr ackNr) config)
    {count : Nat} (hsilenced : config.state.Silenced count) (hspent : FinSpent config.tasks)
    (hbetween : BetweenPackets config.tasks)
    (hlater : (connSystem anyLabel anyPacket).Guarded writesRefused config later) :
    later.state.Silenced count := by
  have hfirst : ∀ packet, (UtpConn.sendHandshake packet).MovesAlways (ExitsBy .connect) := by
    intro packet
    refine Async.MovesAlways.any.mono ?_
    rintro _ _ - ⟨⟩
  have hspawn : ∀ world label task, world.Terminal → Spawns anyPacket world label task →
      Onward Terminal (fun start target => finless label start target ∧
        writesWithheld label start target) task world :=
    fun world label task hterminal hspawns =>
      (spawns_finless hterminal hspawns).both (spawns_withheld ongoing_terminal hterminal hspawns)
  refine (onward_keeps hseqNr hfirst (fun _ _ _ hspawns => spawns_also hspawns) hspawn
    (fun label start target hterminal hact hmore =>
      finless_terminal label start target hterminal hact hmore.1)
    (fun _ _ hconn h => h.of_state (by rw [hconn])) hconfig hsilenced.terminal ?_ hlater
    (Silenced count) ?_ (fun _ _ h henv => h.environment henv) hsilenced).2
  · intro entry hentry world hterminal
    have hwriter := hbetween.between ongoing_terminal hconfig entry hentry
    exact (hspent.onward hentry world).both (Between.onward hwriter world hterminal)
  · intro _ label start target hterminal h hact _ hmore hallowed
    refine Act.silenced h hact (fun hfin => ?_) fun hwriting => ?_
    · by_cases hlabel : label = .receive
      · exact hmore.1 hlabel hterminal hfin
      · obtain ⟨packet, hfin⟩ := hfin
        have hstate : target.conn.localState = .CS_CLOSE_WAIT := hfin ▸ rfl
        exact (Act.terminal hact hterminal fun h => absurd (of_decide_eq_true h) hlabel).ne hstate
          (by decide) (by decide)
    · have hlabel := of_decide_eq_true hwriting
      exact (hmore.2 hlabel).2 (hallowed hlabel)

/-- A new `write` that is not refused sends its first packet. -/
theorem write_silent_iff {data : Bytes} (hdata : data ≠ []) {world : World} (hover : world.Over) :
    ((Async.discard (UtpConn.write data)).turn world).1.NothingReliable world.utp.sent.length ↔
      world.Refuses := by
  constructor
  · intro hnothing
    by_contra hsends
    obtain ⟨datagram, hsent, htype, -⟩ := sends_of_not_refused hdata hover hsends
    have hunreliable := hnothing datagram (by rw [hsent, List.drop_left]; exact .head _)
    simp [UtpPacket.isReliable, htype] at hunreliable
  · intro hrefuses datagram hdatagram
    rw [sends_nothing_of_refused hdata hover hrefuses, List.drop_length] at hdatagram
    cases hdatagram

/-- A reset empties the window exactly if no writer waits for room. Then nobody waits in any
state from there on, and besides its own packet nothing reliable is sent any more, if no
`write` had a packet to hand over, no handler a FIN to accept, and every `write` that goes on
is refused; a new one that is not refused sends its data. Closing the connection leaves the
writers that wait, and who does not wait when the connection has ended never will. -/
theorem window_released (hseqNr : seqNr < 65536)
    (hconfig : (connSystem anyLabel anyPacket).Reachable
      (connectTo self utp isInitiator remoteAddr sendId recvId seqNr ackNr) config) :
    ((config.launch .reset UtpConn.reset).state.window.Idle ↔
      config.state.window.waitingSetters = []) ∧
    (config.state.window.waitingSetters = [] → FinSpent config.tasks →
      BetweenPackets config.tasks → ∀ later,
        (connSystem anyLabel anyPacket).Guarded writesRefused
          (config.launch .reset UtpConn.reset) later →
        later.state.window.Idle ∧ later.state.NothingReliable config.state.utp.sent.length) ∧
    (config.state.Terminal → ∀ data ≠ [],
      (((Async.discard (UtpConn.write data)).turn config.state).1.NothingReliable
        config.state.utp.sent.length ↔ config.state.Refuses)) ∧
    (∀ start target, (connSystem anyLabel anyPacket).Write
        (connectTo self utp isInitiator remoteAddr sendId recvId seqNr ackNr) start target →
      target.conn.localState = .CS_CLOSED → start.conn.localState ≠ .CS_CLOSED →
        target.window = start.window) ∧
    (config.state.Terminal → (config.state.window.waitingSetters = [] ↔
      ∀ later, (connSystem anyLabel anyPacket).Reachable config later →
        later.state.window.waitingSetters = [])) := by
  obtain ⟨hstate, hwindow, hsent⟩ := reset_launched config
  have hreset : (connSystem anyLabel anyPacket).Reachable
      (connectTo self utp isInitiator remoteAddr sendId recvId seqNr ackNr)
      (config.launch .reset UtpConn.reset) := hconfig.step (.launch ⟨trivial, .reset⟩ nofun)
  have hidle : (config.launch .reset UtpConn.reset).state.window.Idle ↔
      config.state.window.waitingSetters = [] := by
    rw [hwindow]
    exact idle_resetNow_iff
  refine ⟨hidle, fun hunblocked hspent hbetween later hlater => ?_,
    fun hterminal data hdata => write_silent_iff hdata hterminal.over,
    fun start target hwrite => ?_, fun hterminal =>
      ⟨fun hunblocked later hlater => ?_, fun h => h config .refl⟩⟩
  · have hsilenced : (config.launch .reset UtpConn.reset).state.Silenced
        config.state.utp.sent.length := by
      refine ⟨.inr hstate, hidle.mpr hunblocked, fun datagram hdatagram => ?_⟩
      simp [UtpPacket.isReliable, hsent datagram hdatagram]
    have hnew : ∀ entry ∈ (config.launch .reset UtpConn.reset).tasks,
        entry ∈ config.tasks ∨ entry.1 = .reset := fun entry hentry =>
      (List.mem_append.mp hentry).imp_right Config.label_of_suspended
    have hlast := silenced_from hseqNr hreset hsilenced (fun entry hentry hlabel => ?_)
      (fun entry hentry hlabel => ?_) hlater
    · exact ⟨hlast.idle, hlast.silent⟩
    · rcases hnew entry hentry with hold | hother
      · exact hspent entry hold hlabel
      · rw [hlabel] at hother
        cases hother
    · rcases hnew entry hentry with hold | hother
      · exact hbetween entry hold hlabel
      · rw [hlabel] at hother
        cases hother
  · have hmoving := connectTo_moving self utp isInitiator remoteAddr sendId recvId seqNr
      ackNr hseqNr
    exact (connSystem_acts.write hmoving hwrite).closes_window
  · exact unblocked_from hseqNr hconfig hterminal.over hunblocked hlater

end Run

/-! ## Concrete runs -/

/-- Start to write one byte. -/
def writing (config : Config World Label) (byte : UInt8) : Config World Label :=
  config.launch .write (Async.discard (UtpConn.write [byte]))

/-- The peer advertises a window that takes more than one packet. -/
def roomy : Config World Label :=
  ((established 0 .sample (.localhost 9000) 1 100).launch .receive (handling
    { type := .ST_STATE, connId := 1, windowSize := 100000, seqNr := 100, ackNr := 1 })).resumes
      [0, 0, 0, 0]

/-- Two packets are in flight, and nobody is left to send one. -/
def inFlight : Config World Label := (writing (writing roomy 65) 66).resumes
  [0, 0, 0, 0, 0, 0, 0, 0, 0, 0, 0, 0]

/-- Two packets are in flight while the handler of a third waits for the buffer. -/
def inFlightHandling : Config World Label := inFlight.launch .receive (handling dataInOrder)

theorem inFlight_idle : inFlight.tasks = [] := List.length_eq_zero_iff.mp (by decide +kernel)

theorem inFlightHandling_reachable : (connSystem anyLabel anyPacket).Reachable
    (connectTo 0 .sample true (.localhost 9000) 2 1 1 0) inFlightHandling := by
  have hroomy : (connSystem anyLabel anyPacket).Reachable
      (connectTo 0 .sample true (.localhost 9000) 2 1 1 0) roomy :=
    (sample_receiving _).resumes _
  have hfirst := hroomy.step (.launch ⟨trivial, .write [65] (by decide +kernel)⟩ nofun)
  have hsecond := hfirst.step (.launch ⟨trivial, .write [66] (by decide +kernel)⟩ nofun)
  refine .step (hsecond.resumes [0, 0, 0, 0, 0, 0, 0, 0, 0, 0, 0, 0])
    (.launch ⟨trivial, .receive dataInOrder trivial⟩ fun _ other hother => ?_)
  have hidle : other ∈ inFlight.tasks := hother
  rw [inFlight_idle] at hidle
  cases hidle

/-- The connection is reset with packets in flight, the handler goes on and a timer fires. -/
theorem window_released_sample :
    inFlightHandling.state.window.map.size = 2 ∧
    (((inFlightHandling.launch .reset UtpConn.reset).resumes [0, 0, 0, 0, 0, 0, 0]).launch
      .timeoutCheck UtpConn.timeoutCheck).state.window.Idle := by
  have hfull : inFlightHandling.state.window.map.size = 2 := by decide +kernel
  have hunblocked : inFlightHandling.state.window.waitingSetters = [] :=
    List.length_eq_zero_iff.mp (by decide +kernel)
  have hhandler : ∀ entry ∈ inFlightHandling.tasks, entry.1 = .receive ∧ Finless entry.2 := by
    intro entry hentry
    have hdata : Finless (handling dataInOrder) := handling_finless nofun
    rcases List.mem_append.mp hentry with hold | hnew
    · rw [inFlight_idle] at hold
      cases hold
    · exact ⟨Config.label_of_suspended hnew, Async.Moves.suspended (hdata _) hnew⟩
  have hlabels : ∀ entry ∈ (inFlightHandling.launch .reset UtpConn.reset).tasks,
      entry.1 = .receive := by
    have hall : (inFlightHandling.launch .reset UtpConn.reset).tasks.all
        (fun entry => decide (entry.1 = .receive)) = true := by decide +kernel
    exact fun entry hentry => of_decide_eq_true (List.all_eq_true.mp hall entry hentry)
  have hspared : ∀ others label start target, label = Label.receive →
      writesRefused others label start target := by
    rintro others _ start target rfl
    exact nofun
  have hresumed : (connSystem anyLabel anyPacket).Guarded writesRefused
      (inFlightHandling.launch .reset UtpConn.reset)
      ((inFlightHandling.launch .reset UtpConn.reset).resumes [0, 0, 0, 0, 0, 0, 0]) :=
    .resumes_of_label hspared hlabels _
  have hrun := hresumed.tail
    (.launch ⟨trivial, .timeoutCheck⟩ nofun fun _ _ => nofun)
  refine ⟨hfull, ((window_released (by decide) inFlightHandling_reachable).2.1 hunblocked
    (fun entry hentry _ => (hhandler entry hentry).2) (fun entry hentry hlabel => ?_) _ hrun).1⟩
  rw [(hhandler entry hentry).1] at hlabel
  cases hlabel

/-- Five writers, of which the window admits one. -/
def crowded : Config World Label :=
  writing (writing (writing (writing (writing (established 0 .sample (.localhost 9000) 1 100)
    65) 66) 67) 68) 69

theorem crowded_reachable : (connSystem anyLabel anyPacket).Reachable
    (connectTo 0 .sample true (.localhost 9000) 2 1 1 0) crowded := by
  have hwrite : ∀ config byte, (connSystem anyLabel anyPacket).Reachable
      (connectTo 0 .sample true (.localhost 9000) 2 1 1 0) config →
        config.state.conn.connecting = .resolved →
          (connSystem anyLabel anyPacket).Reachable
            (connectTo 0 .sample true (.localhost 9000) 2 1 1 0) (writing config byte) :=
    fun config byte hrun hresolved => hrun.step (.launch ⟨trivial, .write [byte] hresolved⟩ nofun)
  refine hwrite _ _ (hwrite _ _ (hwrite _ _ (hwrite _ _ (hwrite _ _ sample_established
    ?_) ?_) ?_) ?_) ?_
  all_goals decide +kernel

/-- A reset with a writer waiting lets the writer in, who then sends its packet. -/
theorem reset_admits_writer :
    ¬ ∀ config later, (connSystem anyLabel anyPacket).Reachable
        (connectTo 0 .sample true (.localhost 9000) 2 1 1 0) config →
      config.state.Terminal →
      (connSystem anyLabel anyPacket).Reachable config later →
        later.state.window.waitingSetters = [] ∧
        (config.state.conn.localState = .CS_RESET → later.state.window.Idle ∧
          ∀ datagram ∈ later.state.utp.sent.drop config.state.utp.sent.length,
            datagram.packet.isReliable = false) := by
  intro hclaim
  have hreset : (connSystem anyLabel anyPacket).Reachable
      (connectTo 0 .sample true (.localhost 9000) 2 1 1 0)
        (crowded.launch .reset UtpConn.reset) :=
    crowded_reachable.step (.launch ⟨trivial, .reset⟩ nofun)
  have hsent := ((hclaim _ ((crowded.launch .reset UtpConn.reset).resumes [4, 4, 4]) hreset
    (.inr (by decide +kernel)) (.resumes .refl _)).2 (by decide +kernel)).2
  have hdata : ((((crowded.launch .reset UtpConn.reset).resumes [4, 4, 4]).state.utp.sent.drop
      (crowded.launch .reset UtpConn.reset).state.utp.sent.length).all
        fun datagram => !datagram.packet.isReliable) = false := by decide +kernel
  rw [List.all_eq_true.mpr fun datagram hdatagram => by simpa using hsent datagram hdatagram]
    at hdata
  cases hdata

end World

end Utp
