import Mathlib.Data.List.Infix
import Utp.Pair.Rounds
import Utp.Pair.Streaming
import Utp.Receiver.Room
import Utp.Sender.Budget

/-! # Flow control

An end tells the other one how much room its receive buffer has left, and the sender admits no
more packets to its window than there is room for. That keeps the buffer within its bounds as
long as acknowledgements confirm what was delivered and data goes through the window. But the
window always admits one packet, forgets packets that were acknowledged out of order or given up,
and believes acknowledgements that come late, and the receiver appends whatever comes.
-/

namespace Utp

open Async (Chain Config)

namespace World

variable {first sendId limit : Nat} {syn : UtpPacket} {heard : List Datagram}

/-! ## One end -/

/-- The packets in the window are no larger than an mtu. -/
theorem Recorded.fits {world : World} (hworld : world.Recorded first sendId syn) :
    ∀ entry ∈ world.window.map.entries, entry.2.packet.payload.length ≤ DEFAULT_MTU := by
  intro entry hentry
  have hshaped := hworld.shaped _ (hworld.tracked.window.present entry hentry).1.2
  unfold UtpPacket.payload
  split
  next htype =>
    obtain ⟨chunk, hchunk, -, hlength⟩ := hshaped.data htype
    rw [hchunk]
    exact hlength.trans (by decide)
  next => exact Nat.zero_le _

/-- The window files each packet under its own number. -/
theorem Recorded.keyed {world : World} (hworld : world.Recorded first sendId syn) :
    world.window.Every fun key info => key = info.packet.seqNr :=
  ⟨fun entry hentry => (hworld.tracked.window.present entry hentry).2,
    fun entry hentry => (hworld.tracked.window.entered entry hentry).2,
    fun waiter hwaiter => (hworld.tracked.window.waiting waiter hwaiter).2⟩

/-- What is heard of a receiver tells no room behind the edge of its buffer. -/
theorem Held.tells {receiver : World} (hheld : receiver.Held)
    (hworld : receiver.Recorded first sendId syn) : Tells receiver.edge receiver.utp.sent := by
  intro datagram hdatagram packet hdecodes htype
  have hversion := hworld.version_lt hdatagram
  have hwindow := UtpPacket.fromBytes_windowSize hversion hdecodes
  have hsame := (UtpPacket.fromBytes_narrow hversion hdecodes).1
  rcases hheld.told datagram hdatagram (hsame.symm.trans htype) with hnone | hroom
  · exact .inl (Nat.le_zero.mp (hnone ▸ hwindow))
  · exact .inr ((Nat.add_le_add_left hwindow _).trans hroom)

/-- Nothing changes, or every write heeds what was heard of the other end. -/
def Heeding (heard : List Datagram) (config next : Config World Label) : Prop :=
  next = config ∨
    (partySystem anyLabel anyPacket).GuardedStep (heeds heard) config next

/-- A sender that heeds what it hears keeps to the room of the receiver. -/
theorem Ledger.heeding {config next : Config World Label}
    (hmoving : config.Moving (Word syn) (Recorded first sendId syn))
    (htells : Tells limit heard) (hledger : config.state.Ledger limit)
    (hheeding : Heeding heard config next) : next.state.Ledger limit := by
  rcases hheeding with rfl | hstep
  · exact hledger
  · have hchain := ((partySystem_words anyLabel anyPacket).per.step hmoving.per hstep).1
    have hkeeps : ∀ start target : World,
        start.Recorded first sendId syn ∧ start.Ledger limit →
        (partySystem anyLabel anyPacket).GuardedWrite (fun _ => Word syn) (heeds heard) start
          target →
        target.Recorded first sendId syn ∧ target.Ledger limit := by
      rintro start target ⟨hworld, hbefore⟩ hwrite
      cases hwrite with
      | turn others label hword hallowed =>
          have hnext := hworld.word hword
          exact ⟨hnext, hbefore.act hword.1 hworld.keyed hnext.fits htells hallowed⟩
      | env henv =>
          have hword : Word syn start target := ⟨.env henv.toEnvironment, .inr henv⟩
          exact ⟨hworld.word hword, hbefore.of_conn henv.conn⟩
    exact (hchain.preserves hkeeps ⟨hmoving.inv, hledger⟩).2

/-- A connection begins with the ledger balanced at the whole receive buffer. -/
theorem connectTo_ledger (self : Nat) (utp : UtpSocket) (isInitiator : Bool)
    (remoteAddr : UtpAddr) (sendId recvId seqNr ackNr : Nat) :
    (connectTo self utp isInitiator remoteAddr sendId recvId seqNr ackNr).state.Ledger
      (256 * 1024) := by
  have hlimited : UtpSendWindow.create.Limited := UtpSendWindow.Reached.limited .refl
  have hroom : UtpSendWindow.create.released + UtpSendWindow.create.remoteWindow ≤ 256 * 1024 := by
    decide +kernel
  have htouched : (begun self utp isInitiator remoteAddr sendId recvId seqNr ackNr).touch.Ledger
      (256 * 1024) := by
    cases isInitiator <;>
      exact ⟨hlimited, Nat.zero_le _, .inr ⟨List.nodup_nil, fun _ => hroom⟩⟩
  exact htouched.of_conn (connectTo_conn self utp isInitiator remoteAddr sendId recvId seqNr ackNr)

/-! ## What goes through the send window -/

/-- Up to every data packet that is in the network, what was built has entered the window. -/
def Windowed (world : World) : Prop :=
  ∀ index packet, world.conn.created[index]? = some packet → packet.payload ≠ [] →
    world.Posted (index + 1) →
      ((world.conn.created.take (index + 1)).flatMap UtpPacket.payload).length ≤
        world.conn.sendWindow.enteredBytes

/-- An end whose data has all entered the window is within it. -/
theorem Windowed.of_created {world : World}
    (hcreated : (world.conn.created.flatMap UtpPacket.payload).length ≤
      world.conn.sendWindow.enteredBytes) : world.Windowed := by
  intro index _ _ _ _
  have hsplit := congrArg (List.flatMap UtpPacket.payload)
    (List.take_append_drop (index + 1) world.conn.created)
  rw [List.flatMap_append] at hsplit
  have hlength := congrArg List.length hsplit
  rw [List.length_append] at hlength
  omega

/-- What a receiver has reached went through the window. -/
theorem Windowed.reached {world : World} (hwindowed : world.Windowed) {k : Nat}
    (hposted : ∀ i, 0 < i → i ≤ k → world.Posted i) :
    ((world.conn.created.take k).flatMap UtpPacket.payload).length ≤
      world.conn.sendWindow.enteredBytes := by
  induction k with
  | zero => exact Nat.zero_le _
  | succ k ih =>
      have hbefore := ih fun i hpos hle => hposted i hpos (Nat.le_succ_of_le hle)
      cases hpacket : world.conn.created[k]? with
      | none =>
          rw [List.take_add_one, hpacket, Option.toList_none, List.append_nil]
          exact hbefore
      | some packet =>
          by_cases hempty : packet.payload = []
          · rw [List.take_add_one, hpacket, Option.toList_some, List.flatMap_append,
              List.flatMap_singleton, hempty, List.append_nil]
            exact hbefore
          · exact hwindowed k packet hpacket hempty (hposted (k + 1) k.succ_pos le_rfl)

/-- A receiver that keeps to the stream of such a sender has room for it. -/
theorem Ledger.bounded {sender receiver : World} {reach : Reach}
    (hledger : sender.Ledger receiver.edge) (hwindowed : sender.Windowed) (hheld : receiver.Held)
    (hphase : receiver.Phase (.built reach first sender.conn.created sender.Posted)) :
    receiver.conn.recvBuffer.length ≤ 256 * 1024 := by
  obtain ⟨k, hreached, happended⟩ := hphase.prefix
  have hentered := hledger.entered
  have hthrough := hwindowed.reached hreached
  have hlength := hheld.length
  rw [happended, Stream.bytes_built] at hlength
  unfold BlockingBuffer.length
  unfold edge at hentered
  omega

end World

namespace Pair

variable {setup : Setup} {pair next : Pair} {reach : Reach}

/-! ## Both ends -/

/-- Both ends hold what they have told of their room. -/
theorem Ends.held (hends : pair.Ends setup) : pair.initiator.state.Held ∧
    ∀ responder, pair.responder = some responder → responder.state.Held := by
  have hkeeps : ∀ start target : World, start.Held → World.Act true true true start target →
      target.Held := fun _ _ hheld hact => hact.held hheld
  refine ⟨?_, fun responder hresponder => ?_⟩
  · obtain ⟨self, utp, hrun⟩ := hends.initiator
    exact (World.party_acts (by decide) hrun).preserves hkeeps World.begun_held
  · obtain ⟨self, utp, packet, -, -, -, hrun⟩ := hends.responder responder hresponder
    exact (World.party_acts setup.seqNr_lt hrun).preserves hkeeps World.begun_held

/-- The connection at the other end. -/
def opposite (pair : Pair) (world : World) : Option World :=
  if world.conn.isInitiator then pair.responder.map Party.state else some pair.initiator.state

/-- A packet that is taken is within reach of the receiver's position, and the first one that
the responder takes is the first that the initiator has built. -/
def timely (reach : Reach) (pair : Pair) : Terms where
  fresh world packet := ∀ peer ∈ pair.opposite world, World.Timely reach peer world packet
  ready _ := True

/-- What the responder has sent, and where its receive buffer ends. -/
def answers (pair : Pair) : List Datagram :=
  (pair.responder.map fun responder => responder.state.utp.sent).getD []

def edge (pair : Pair) : Nat :=
  (pair.responder.map fun responder => responder.state.edge).getD (256 * 1024)

/-- Each end heeds what it has heard of the other one. -/
structure Heeded (pair next : Pair) : Prop where
  initiator : World.Heeding pair.answers pair.initiator.config next.initiator.config
  responder : ∀ before after, pair.responder = some before → next.responder = some after →
    World.Heeding pair.initiator.state.utp.sent before.config after.config

/-- Both ends send data through their windows. -/
structure Windowed (pair : Pair) : Prop where
  initiator : pair.initiator.state.Windowed
  responder : ∀ responder ∈ pair.responder, responder.state.Windowed

/-- The runs in which packets are timely, data goes through the windows, and both ends heed what
the other one tells. -/
inductive Paced (reach : Reach) (setup : Setup) : Pair → Prop
  | connect (self : Nat) (utp : UtpSocket) : Paced reach setup ⟨setup.connect self utp, none⟩
  | step {pair next : Pair} (hrun : Paced reach setup pair)
      (hstep : pair.Step setup (pair.timely reach) next) (hheeded : pair.Heeded next)
      (hwindowed : next.Windowed) : Paced reach setup next

/-- A paced run is a run of the two ends. -/
theorem Paced.reachable (hrun : Paced reach setup pair) : Reachable setup anyTerms pair := by
  induction hrun with
  | connect self utp => exact .connect self utp
  | step _ hstep _ _ ih => exact ih.step hstep.any

/-- The windowed part of a paced state. -/
theorem Paced.windowed (hrun : Paced reach setup pair) : pair.Windowed := by
  cases hrun with
  | connect self utp =>
      have hconn := World.connectTo_conn self utp true setup.responderAddr (setup.drawn + 1)
        setup.drawn 1 0
      have hcreated : (setup.connect self utp).state.conn.created = [] :=
        congrArg UtpConn.created hconn
      refine ⟨?_, fun _ hnone => by cases hnone⟩
      intro index packet hpacket
      rw [hcreated] at hpacket
      cases hpacket
  | step _ _ _ hwindowed => exact hwindowed

/-- A step in which packets are timely keeps both ends on the streams. -/
theorem Streaming.timely_step {terms : Terms} (hrun : Reachable setup anyTerms pair)
    (hstreaming : pair.Streaming reach setup)
    (htimely : ∀ world packet, terms.fresh world packet → (pair.timely reach).fresh world packet)
    (hstep : pair.Step setup terms next) : next.Streaming reach setup := by
  obtain ⟨_, -, -, hinitiator⟩ := (ends hrun).initiator_regular
  obtain ⟨_, hwired⟩ := hinitiator.wired
  cases hstep with
  | answer self utp packet hfirst hheard htype hopen =>
      exact hstreaming.answer_step hrun hfirst self utp hheard htype
  | initiator hstep =>
      apply hstreaming.initiator_step hrun hstep
      intro responder hresponder packet _ hfresh
      apply htimely _ _ hfresh
      have hrole : pair.initiator.state.conn.isInitiator = true := hwired.isInitiator
      rw [opposite, if_pos hrole, hresponder]
      rfl
  | @responder responder party hresponder hstep =>
      obtain ⟨⟨_, hregular⟩, -⟩ := (ends hrun).responder_regular hresponder
      obtain ⟨_, hwired'⟩ := hregular.wired
      apply hstreaming.responder_step hrun hresponder hstep
      intro packet _ hfresh
      apply htimely _ _ hfresh
      have hrole : responder.state.conn.isInitiator = false := hwired'.isInitiator
      rw [opposite, hrole]
      rfl

/-- A paced run streams: its packets are taken within reach. -/
theorem Paced.streaming (hrun : Paced reach setup pair) : pair.Streaming reach setup := by
  induction hrun with
  | connect self utp => exact .start _ _ self utp
  | step hrun hstep _ _ ih => exact ih.timely_step hrun.reachable (fun _ _ => id) hstep

/-! ## The room of both ends -/

/-- What either end may send fits into the receive buffer of the other. -/
structure Ledgers (pair : Pair) : Prop where
  initiator : pair.initiator.state.Ledger pair.edge
  responder : ∀ responder, pair.responder = some responder →
    responder.state.Ledger pair.initiator.state.edge

/-- What an end has sent tells of the room in its receive buffer. -/
theorem Ends.tells (hends : pair.Ends setup) : World.Tells pair.edge pair.answers := by
  unfold edge answers
  cases hresponder : pair.responder with
  | none => exact fun _ hnone => by cases hnone
  | some responder =>
      obtain ⟨⟨_, hregular⟩, -⟩ := hends.responder_regular hresponder
      exact (hends.held.2 responder hresponder).tells hregular.moving.inv

/-- The step lemma: heeding what was heard keeps both ledgers balanced. -/
theorem Ledgers.step (hrun : Reachable setup anyTerms pair) (hledgers : pair.Ledgers)
    {terms : Terms} (hstep : pair.Step setup terms next) (hheeded : pair.Heeded next) :
    next.Ledgers := by
  obtain ⟨syn, -, -, hinitiator⟩ := (ends hrun).initiator_regular
  cases hstep with
  | answer self utp packet hfirst _ _ _ =>
      have hbefore := hledgers.initiator
      unfold edge at hbefore
      rw [hfirst] at hbefore
      refine ⟨hbefore.mono (Nat.le_add_right _ _), fun responder hresponder => ?_⟩
      cases hresponder
      exact (World.connectTo_ledger _ _ _ _ _ _ _ _).mono (Nat.le_add_right _ _)
  | initiator hstep =>
      refine ⟨hledgers.initiator.heeding hinitiator.moving (ends hrun).tells hheeded.initiator,
        fun responder hresponder => (hledgers.responder responder hresponder).mono ?_⟩
      exact World.edge_le_of_acts ((ends hrun).initiator_acts hstep)
  | @responder responder party hresponder hstep =>
      obtain ⟨⟨_, hregular⟩, -⟩ := (ends hrun).responder_regular hresponder
      refine ⟨?_, fun other hother => ?_⟩
      · have hbefore := hledgers.initiator
        unfold edge at hbefore
        rw [hresponder] at hbefore
        exact hbefore.mono (World.edge_le_of_acts ((ends hrun).responder_acts hresponder hstep))
      · cases hother
        exact (hledgers.responder responder hresponder).heeding hregular.moving
          ((ends hrun).held.1.tells hinitiator.moving.inv)
          (hheeded.responder responder _ hresponder rfl)

/-- The run lemma: in every paced run the ledgers balance. -/
theorem Paced.ledgers (hrun : Paced reach setup pair) : pair.Ledgers := by
  induction hrun with
  | connect self utp =>
      exact ⟨World.connectTo_ledger _ _ _ _ _ _ _ _, fun _ hnone => by cases hnone⟩
  | step hrun hstep hheeded _ ih => exact ih.step hrun.reachable hstep hheeded

/-- If both ends heed what the other one tells, neither receive buffer ever holds more than its
maximum. -/
theorem recvBuffer_bounded (hrun : Paced reach setup pair) :
    pair.initiator.state.conn.recvBuffer.length ≤ 256 * 1024 ∧
      ∀ responder, pair.responder = some responder →
        responder.state.conn.recvBuffer.length ≤ 256 * 1024 := by
  obtain ⟨hheld, hheld'⟩ := (ends hrun.reachable).held
  have hstreaming := hrun.streaming
  have hledgers := hrun.ledgers
  have hwindowed := hrun.windowed
  refine ⟨?_, fun responder hresponder => ?_⟩
  · cases hresponder : pair.responder with
    | none =>
        -- Nobody has sent anything that could be in the buffer.
        have hphase := (hstreaming.initiator [] (fun _ => False) fun responder hsome => by
          rw [hresponder] at hsome
          cases hsome).inv.2
        obtain ⟨k, hreached, happended⟩ := hphase.prefix
        rcases Stream.sent_of_reached hreached with rfl | hposted
        · have hnone : pair.initiator.state.conn.recvBuffer.appended = [] := happended
          have hlength := hheld.length
          rw [hnone, List.length_nil] at hlength
          unfold BlockingBuffer.length
          omega
        · exact hposted.elim
    | some responder =>
        refine (hledgers.responder responder hresponder).bounded
          (hwindowed.responder responder hresponder) hheld (hstreaming.initiator _ _ ?_).inv.2
        intro other hother
        cases hresponder.symm.trans hother
        exact ⟨List.prefix_rfl, fun _ => id⟩
  · have hledger := hledgers.initiator
    unfold edge at hledger
    rw [hresponder] at hledger
    refine World.Ledger.bounded hledger hwindowed.initiator (hheld' responder hresponder)
      (hstreaming.responder responder hresponder _ _ ?_).inv.2
    exact ⟨List.prefix_rfl, fun _ => id⟩

/-! ## A run within the room -/

end Pair

namespace World

/-- A test on an acknowledgement that was handled. -/
def keepsTold (heard : List Datagram) (start target : World) : Bool :=
  match target.conn.sendWindow.handledAcks.getLast? with
  | none => true
  | some packet =>
      (heard.any fun datagram =>
        decide ((UtpPacket.fromBytes datagram.packet.toBytes).toOption = some packet) &&
        decide (start.conn.sendWindow.released + start.conn.sendWindow.coveredBytes packet ≤
          datagram.delivered)) &&
      (decide (target.window.entered = start.window.entered) ||
        decide (start.window.capacity ≤ (packet.windowSize / DEFAULT_MTU : Nat)))

/-- A test on a write that it heeds what was heard. -/
def keepsRoom (heard : List Datagram) (start target : World) : Bool :=
  (decide (target.window.entered = start.window.entered) ||
    decide (DEFAULT_MTU ≤ target.conn.sendWindow.remoteWindow)) &&
  (decide (start.window.backlog = []) ||
    decide (target.window.entered.length = start.window.entered.length) &&
      decide (target.window.waitingSetters.length = start.window.waitingSetters.length)) &&
  (start.window.map.entries.all
    (fun entry => decide (entry.2.resendTimes < UtpSendWindow.RESEND_TIMES_LIMIT)) &&
  start.window.waitingSetters.isEmpty) &&
  (decide (target.conn.sendWindow.handledAcks.length =
    start.conn.sendWindow.handledAcks.length) || keepsTold heard start target)

/-- The test on an acknowledgement finds it confirmed. -/
theorem keepsTold_confirms {heard : List Datagram} {start target : World} {packet : UtpPacket}
    (htarget : target = start.handleAck packet) (htold : keepsTold heard start target = true) :
    Confirms heard start target packet := by
  have hlast : target.conn.sendWindow.handledAcks.getLast? = some packet := by
    rw [htarget]
    exact (congrArg List.getLast? (handledAcks_handleAck _ _ packet)).trans List.getLast?_concat
  unfold keepsTold at htold
  rw [hlast] at htold
  simp only [Bool.and_eq_true, Bool.or_eq_true, List.any_eq_true, decide_eq_true_eq] at htold
  obtain ⟨⟨datagram, hdatagram, hdecodes, hcovered⟩, hcapacity⟩ := htold
  refine ⟨⟨datagram, hdatagram, ?_, hcovered⟩, fun hletsIn => hcapacity.resolve_left hletsIn⟩
  cases hresult : UtpPacket.fromBytes datagram.packet.toBytes with
  | error =>
      rw [hresult] at hdecodes
      cases hdecodes
  | ok other =>
      rw [hresult] at hdecodes
      cases hdecodes
      rfl

/-- The test on a write finds that it heeds what was heard. -/
theorem keepsRoom_heeds {heard : List Datagram} {start target : World}
    (hroom : keepsRoom heard start target = true) : Heeds heard start target := by
  simp only [keepsRoom, Bool.and_eq_true, Bool.or_eq_true, List.all_eq_true, decide_eq_true_eq,
    List.isEmpty_iff] at hroom
  obtain ⟨⟨⟨hmtu, hfresh⟩, hretried, hunblocked⟩, hacked⟩ := hroom
  refine ⟨fun hletsIn => hmtu.resolve_left hletsIn, fun info htarget => ?_,
    fun _ _ info _ hinfo hexhausted => ?_, fun _ => hunblocked, fun packet htarget => ?_⟩
  · rcases hfresh with hempty | ⟨hentered, hwaiting⟩
    · rw [hempty]
      exact List.not_mem_nil
    · exfalso
      rcases htarget with rfl | rfl
      · have hadmits : (start.window.put info.packet.seqNr info).Admits
            (start.window.put info.packet.seqNr info).resolveNextSetter :=
          (BlockingMap.Admits.refl _).admitWaiting fun _ => id
        have hlength := hadmits.entered.length_le
        have hsame : (start.window.put info.packet.seqNr info).resolveNextSetter.entered.length =
            start.window.entered.length := hentered
        rw [hsame] at hlength
        simp [BlockingMap.put] at hlength
      · have hlength : (start.window.enqueueSetter info.packet.seqNr info).waitingSetters.length =
            start.window.waitingSetters.length := hwaiting
        simp [BlockingMap.enqueueSetter] at hlength
  · have hlimit := hretried _ (OrderedMap.get?_eq_some.mp hinfo)
    exact absurd hexhausted.2 (Nat.not_le.mpr hlimit)
  · refine keepsTold_confirms htarget (hacked.resolve_left fun hsame => ?_)
    rw [htarget] at hsame
    have hmore := congrArg List.length (handledAcks_handleAck start.conn.sendWindow
      start.utp.dateNow packet)
    rw [List.length_append, List.length_singleton] at hmore
    exact absurd (hsame.symm.trans hmore) (Nat.succ_ne_self _).symm

end World

namespace World

/-- A test that all data that was built has entered the send window. -/
def keepsEntered (world : World) : Bool :=
  (world.conn.created.flatMap UtpPacket.payload).length ≤ world.conn.sendWindow.enteredBytes

/-- The test on an end finds its data in the window. -/
theorem keepsEntered_windowed {world : World} (hentered : keepsEntered world = true) :
    world.Windowed := .of_created (of_decide_eq_true hentered)

/-- A test on the turns of an end that goes on at some positions. -/
def keepsPace (heard : List Datagram) (config : Config World Label) : List Nat → Bool
  | [] => true
  | position :: rest =>
      (Async.TaskSystem.resumeWrites config position).all
        (fun write => keepsRoom heard write.1 write.2) &&
      keepsEntered (config.resume position).state &&
      keepsPace heard (config.resume position) rest

/-- A test on the first turn of a task. -/
def keepsLaunch (heard : List Datagram) (config : Config World Label) (label : Label)
    (task : ConnM Unit) : Bool :=
  (task.writes config.state).all (fun write => keepsRoom heard write.1 write.2) &&
  keepsEntered (config.launch label task).state

/-- The test on a task's first turn finds that it heeds what was heard. -/
theorem keepsLaunch_heeding {heard : List Datagram} {config : Config World Label} {label : Label}
    {task : ConnM Unit} (hspawns : Spawns anyPacket config.state label task)
    (hfree : label = .receive → ∀ other ∈ config.tasks, other.1 ≠ label)
    (hkeeps : keepsLaunch heard config label task = true) :
    Heeding heard config (config.launch label task) ∧
      (config.launch label task).state.Windowed := by
  simp only [keepsLaunch, Bool.and_eq_true, List.all_eq_true] at hkeeps
  refine ⟨.inr (.launch ⟨trivial, hspawns⟩ hfree fun write hwrite => .inr ?_),
    keepsEntered_windowed hkeeps.2⟩
  exact keepsRoom_heeds (hkeeps.1 write hwrite)

end World

namespace Pair

variable {setup : Setup} {pair next : Pair} {reach : Reach}

/-- The pair heeds what the initiator's step heeds. -/
theorem Heeded.of_initiator {party next : Party} {other : Option Party}
    (hheeding : World.Heeding (Pair.mk party other).answers party.config next.config) :
    Heeded ⟨party, other⟩ ⟨next, other⟩ where
  initiator := hheeding
  responder before after hbefore hafter := by
    cases hbefore.symm.trans hafter
    exact .inl rfl

/-- The same for the responder. -/
theorem Heeded.of_responder {party responder next : Party}
    (hheeding : World.Heeding party.state.utp.sent responder.config next.config) :
    Heeded ⟨party, some responder⟩ ⟨party, some next⟩ where
  initiator := .inl rfl
  responder before after hbefore hafter := by
    cases hbefore
    cases hafter
    exact hheeding

/-- A call at the initiator goes on with a paced run. -/
theorem Paced.initiator_launches {config : Config World Label} {written data : Bytes}
    {other : Option Party} {label : Label} {task : ConnM Unit}
    (hrun : Paced reach setup ⟨⟨config, written⟩, other⟩)
    (hstep : (Party.mk config written).Step ((Pair.mk ⟨config, written⟩ other).timely reach)
      (Pair.mk ⟨config, written⟩ other).ToInitiator ⟨config.launch label task, data⟩)
    (hspawns : Spawns anyPacket config.state label task)
    (hfree : label = .receive → ∀ other ∈ config.tasks, other.1 ≠ label)
    (hkeeps :
      World.keepsLaunch (Pair.mk ⟨config, written⟩ other).answers config label task = true) :
    Paced reach setup ⟨⟨config.launch label task, data⟩, other⟩ := by
  obtain ⟨hheeding, hwindowed⟩ := World.keepsLaunch_heeding hspawns hfree hkeeps
  exact hrun.step (.initiator hstep) (.of_initiator hheeding) ⟨hwindowed, hrun.windowed.responder⟩

/-- Turns of the initiator go on with a paced run. -/
theorem Paced.initiator_resumes {config : Config World Label} {written : Bytes}
    {other : Option Party} (hrun : Paced reach setup ⟨⟨config, written⟩, other⟩)
    (positions : List Nat)
    (hkeeps : World.keepsPace (Pair.mk ⟨config, written⟩ other).answers config positions = true) :
    Paced reach setup ⟨⟨config.resumes positions, written⟩, other⟩ := by
  induction positions generalizing config with
  | nil => exact hrun
  | cons position rest ih =>
      simp only [World.keepsPace, Bool.and_eq_true, List.all_eq_true] at hkeeps
      obtain ⟨⟨hwrites, hentered⟩, hrest⟩ := hkeeps
      refine ih (hrun.step (.initiator (.other (.resume position))) (.of_initiator ?_)
        ⟨World.keepsEntered_windowed hentered, hrun.windowed.responder⟩) hrest
      exact .inr (.resume_of_writes position fun write hwrite _ _ =>
        .inr (World.keepsRoom_heeds (hwrites write hwrite)))

/-- Turns of the responder go on with a paced run. -/
theorem Paced.responder_resumes {config : Config World Label} {written : Bytes} {party : Party}
    (hrun : Paced reach setup ⟨party, some ⟨config, written⟩⟩) (positions : List Nat)
    (hkeeps : World.keepsPace party.state.utp.sent config positions = true) :
    Paced reach setup ⟨party, some ⟨config.resumes positions, written⟩⟩ := by
  induction positions generalizing config with
  | nil => exact hrun
  | cons position rest ih =>
      simp only [World.keepsPace, Bool.and_eq_true, List.all_eq_true] at hkeeps
      obtain ⟨⟨hwrites, hentered⟩, hrest⟩ := hkeeps
      have hstep : Pair.Step setup ((Pair.mk party (some ⟨config, written⟩)).timely reach)
          ⟨party, some ⟨config, written⟩⟩ ⟨party, some ⟨config.resume position, written⟩⟩ :=
        .responder rfl (.other (.resume position))
      refine ih (hrun.step hstep (.of_responder ?_) ⟨hrun.windowed.initiator, ?_⟩) hrest
      · exact .inr (.resume_of_writes position fun write hwrite _ _ =>
          .inr (World.keepsRoom_heeds (hwrites write hwrite)))
      · rintro responder ⟨⟩
        exact World.keepsEntered_windowed hentered

/-- The first data packet of the sample run as it arrives. -/
def sampleFirst : UtpPacket where
  type := .ST_DATA
  connId := 2
  seqNr := 2
  ackNr := 99
  timestampMicroseconds := 1000000000
  windowSize := 262144
  data := some [65]

/-- The answer to it. -/
def sampleFirstAck : UtpPacket where
  type := .ST_STATE
  connId := 1
  seqNr := 100
  ackNr := 2
  timestampMicroseconds := 1000000000
  windowSize := 262143

/-- The responder after it has taken the first byte, and the initiator after the answer. -/
def sampleTook : Config World Label :=
  (sampleAnswered.config.launch .receive
    (Async.discard (UtpConn.handleIncomingPacket sampleFirst))).resumes (List.replicate 9 0)

def sampleAcked : Config World Label :=
  (sampleWrote.launch .receive
    (Async.discard (UtpConn.handleIncomingPacket sampleFirstAck))).resumes [0, 0]

theorem of_idle {config : Config World Label} (hidle : config.tasks.length = 0) :
    config = ⟨config.state, []⟩ := by
  rw [← List.length_eq_zero_iff.mp hidle]

/-- An acknowledgement is always timely. -/
theorem fresh_of_state {world : World} {packet : UtpPacket} (htype : packet.type = .ST_STATE) :
    (pair.timely reach).fresh world packet := by
  rintro peer _ (⟨hdata, -⟩ | ⟨hreliable, -⟩)
  · cases htype.symm.trans hdata
  · rw [UtpPacket.isReliable, htype] at hreliable
    cases hreliable

theorem carries_arrival {party : Party} {position index : Nat} {packet : UtpPacket}
    (harrival : arrival party position = some packet)
    (hbuilt : party.state.conn.created[index]? =
      party.state.utp.sent[position]?.map Datagram.packet) :
    party.state.Carries index packet := by
  obtain ⟨datagram, hdatagram, hdecodes⟩ := sent_of_arrival harrival
  rw [hdatagram] at hbuilt
  exact ⟨datagram, List.mem_of_getElem? hdatagram, hbuilt, hdecodes⟩

/-- An idle initiator handles an acknowledgement. -/
theorem Paced.initiator_hears {config : Config World Label} {written : Bytes}
    {responder : Party} {packet : UtpPacket}
    (hrun : Paced reach setup ⟨⟨config, written⟩, some responder⟩)
    (hheard : Heard responder.state.utp.sent packet) (htype : packet.type = .ST_STATE)
    (hidle : config.tasks.length = 0)
    (hkeeps : World.keepsLaunch responder.state.utp.sent config .receive
      (Async.discard (UtpConn.handleIncomingPacket packet)) = true) :
    Paced reach setup ⟨⟨config.launch .receive
      (Async.discard (UtpConn.handleIncomingPacket packet)), written⟩, some responder⟩ := by
  have hfree : Label.receive = .receive → ∀ other ∈ config.tasks, other.1 ≠ .receive := by
    intro _ other hother
    rw [of_idle hidle] at hother
    cases hother
  have hhanded : Handed responder.state.utp.sent packet := by
    refine ⟨hheard, ?_, ?_⟩
    all_goals rw [htype]
    · exact nofun
    · exact nofun
  refine hrun.initiator_launches ?_ (.receive packet trivial) hfree hkeeps
  apply Party.Step.other
  refine .launch ⟨nofun, .receive packet ⟨⟨_, rfl, hhanded⟩, fresh_of_state htype⟩⟩ hfree

/-- The sample run is paced up to the connection, -/
theorem sampleConnected_paced :
    Paced .ahead Setup.sample ⟨⟨sampleConnected, []⟩, some sampleAnswered⟩ := by
  have hsyn : Paced .ahead Setup.sample
      ⟨⟨(Setup.sample.connect 0 .sample).config.resumes [0, 0, 0, 0], []⟩, none⟩ :=
    (Paced.connect 0 .sample).initiator_resumes _ (by decide +kernel)
  have hanswered : Paced .ahead Setup.sample
      ⟨⟨(Setup.sample.connect 0 .sample).config.resumes [0, 0, 0, 0], []⟩,
        some sampleAnswered⟩ := by
    refine hsyn.step (.answer 1 .sample sampleSyn rfl (@heard_arrival _ 0 _ (by decide +kernel))
      rfl (by decide)) ⟨.inl rfl, fun _ _ hnone => by cases hnone⟩ ⟨hsyn.windowed.initiator, ?_⟩
    rintro responder ⟨⟩
    exact World.keepsEntered_windowed (by decide +kernel)
  have hheard : Heard sampleAnswered.state.utp.sent sampleSynAck :=
    @heard_arrival _ 0 _ (by decide +kernel)
  have hhears := hanswered.initiator_hears hheard rfl (by decide +kernel) (by decide +kernel)
  exact hhears.initiator_resumes _ (by decide +kernel)

/-- with the first byte written, -/
theorem sampleWrote_paced :
    Paced .ahead Setup.sample ⟨⟨sampleWrote, [65]⟩, some sampleAnswered⟩ := by
  have hresolved : sampleConnected.state.conn.connecting = .resolved := by decide +kernel
  refine Paced.initiator_resumes ?_ _ (by decide +kernel)
  exact sampleConnected_paced.initiator_launches (.write [65] hresolved trivial)
    (.write [65] hresolved) nofun (by decide +kernel)

/-- and with the byte taken by the responder. -/
theorem sampleTook_paced :
    Paced .ahead Setup.sample ⟨⟨sampleWrote, [65]⟩, some ⟨sampleTook, []⟩⟩ := by
  have harrival : arrival ⟨sampleWrote, []⟩ 1 = some sampleFirst := by decide +kernel
  have hfirst : Heard sampleWrote.state.utp.sent sampleFirst := heard_arrival harrival
  have hconnects : sampleAnswered.config.tasks.all (·.1 ≠ .receive) = true := by decide +kernel
  have hfree : Label.receive = .receive →
      ∀ other ∈ sampleAnswered.config.tasks, other.1 ≠ .receive :=
    fun _ other hother => of_decide_eq_true (List.all_eq_true.mp hconnects other hother)
  obtain ⟨hheeding, hwindowed⟩ := @World.keepsLaunch_heeding sampleWrote.state.utp.sent
    sampleAnswered.config .receive (Async.discard (UtpConn.handleIncomingPacket sampleFirst))
    (.receive sampleFirst trivial) hfree (by decide +kernel)
  refine Paced.responder_resumes ?_ _ (by decide +kernel)
  refine sampleWrote_paced.step (.responder rfl (.other (.launch ⟨nofun, .receive sampleFirst
    ⟨⟨hfirst, nofun, nofun⟩, ?_⟩⟩ hfree))) (.of_responder hheeding)
    ⟨sampleWrote_paced.windowed.initiator, ?_⟩
  · rintro _ hpeer -
    have hinitiator : opposite ⟨⟨sampleWrote, [65]⟩, some sampleAnswered⟩
        sampleAnswered.state = some sampleWrote.state := rfl
    cases hinitiator.symm.trans hpeer
    refine ⟨0, carries_arrival harrival (by decide +kernel), ?_, fun _ => rfl⟩
    have hadvanced : sampleAnswered.config.state.conn.advanced = 0 := by decide +kernel
    rw [hadvanced]
    exact ⟨by norm_num, by norm_num⟩
  · rintro responder ⟨⟩
    exact hwindowed

/-- The initiator writes another byte, below the room that it has heard of. -/
def sampleWroteMore : Config World Label :=
  sampleAcked.launch .write (Async.discard (UtpConn.write [66]))

/-- The initiator writes a byte, which the responder's application does not read, hears that
there is one byte less of room, and writes again. -/
theorem recvBuffer_bounded_sample :
    sampleTook.state.conn.recvBuffer.length = 1 ∧
      sampleWroteMore.state.conn.sendWindow.remoteWindow = 262143 ∧
      sampleWroteMore.state.conn.sendWindow.enteredBytes = 2 ∧
      sampleTook.state.conn.recvBuffer.length ≤ 256 * 1024 := by
  have hheard : Heard sampleTook.state.utp.sent sampleFirstAck :=
    @heard_arrival ⟨sampleTook, []⟩ 1 _ (by decide +kernel)
  have hacked : Paced .ahead Setup.sample
      ⟨⟨sampleAcked, [65]⟩, some ⟨sampleTook, []⟩⟩ :=
    (sampleTook_paced.initiator_hears hheard rfl (by decide +kernel)
      (by decide +kernel)).initiator_resumes _ (by decide +kernel)
  have hresolved : sampleAcked.state.conn.connecting = .resolved := by decide +kernel
  have hmore : Paced .ahead Setup.sample
      ⟨⟨sampleWroteMore, [65, 66]⟩, some ⟨sampleTook, []⟩⟩ :=
    hacked.initiator_launches (.write [66] hresolved trivial) (.write [66] hresolved) nofun
      (by decide +kernel)
  exact ⟨by decide +kernel, by decide +kernel, by decide +kernel,
    (recvBuffer_bounded hmore).2 _ rfl⟩

end Pair

end Utp
