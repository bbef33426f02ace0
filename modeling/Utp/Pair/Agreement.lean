import Utp.Pair.Network

/-! # Agreement after the handshake

As long as the responder has sent acknowledgements only, the initiator's numbers follow
from the number the responder drew, whatever the network does to the datagrams.
-/

namespace Utp

open Async (Chain Config Stable TaskSystem)

/-- The acknowledgement number that the initiator takes from the answer to its SYN. -/
def Setup.ackNr (setup : Setup) : Nat := Seq.add setup.seqNr (-1)

/-- A setup for concrete runs. -/
def Setup.sample : Setup where
  initiatorAddr := .localhost 9001
  responderAddr := .localhost 9000
  drawn := 1
  seqNr := 100
  seqNr_lt := by decide

namespace World

/-! ## Code that delivers nothing -/

/-- Nothing is delivered, and a handshake ends with an agreed acknowledgement number. -/
structure Agreeing (agreed : Nat → Prop) (world next : World) : Prop where
  act : Act true true true world next
  advanced : next.conn.advanced = world.conn.advanced
  handshake : world.conn.localState = .CS_SYN_SENT → next.conn.localState = .CS_CONNECTED →
    agreed next.conn.localAckNr

/-- Code that does not receive neither connects nor delivers. -/
theorem Act.unreceived {closing writing : Bool} {world next : World}
    (hact : Act false closing writing world next) :
    next.conn.advanced = world.conn.advanced ∧
      (next.conn.localState = .CS_CONNECTED → world.conn.localState = .CS_CONNECTED) := by
  cases hact with
  | env henv =>
      rw [henv.conn]
      exact ⟨rfl, id⟩
  | beginClose => exact ⟨rfl, nofun⟩
  | resetNow => exact ⟨rfl, nofun⟩
  | release => exact ⟨rfl, nofun⟩
  | forceClose => exact ⟨rfl, nofun⟩
  | _ => first | exact ⟨rfl, id⟩ | contradiction

theorem Act.agreeing {agreed : Nat → Prop} {writing : Bool} {world next : World}
    (hact : Act false true writing world next) : Agreeing agreed world next := by
  obtain ⟨hadvanced, hconnected⟩ := hact.unreceived
  refine ⟨hact.widen id, hadvanced, fun hstate hnext => ?_⟩
  rw [hconnected hnext] at hstate
  cases hstate

/-- What the handler does with a packet that is neither data nor FIN. -/
structure Overhears (packet : UtpPacket) (world next : World) : Prop where
  advanced : next.conn.advanced = world.conn.advanced
  handshake : world.conn.localState = .CS_SYN_SENT → next.conn.localState = .CS_CONNECTED →
    next.conn.localAckNr = Seq.add packet.seqNr (-1)

theorem overhears_handleAck (packet : UtpPacket) :
    (UtpConn.awaitHandleAck packet).MovesAlways (Overhears packet) := by
  apply Async.MovesAlways.awaited
  apply Async.MovesAlways.modify
  intro world
  refine ⟨rfl, fun hstate hnext => ?_⟩
  have hsame : world.conn.localState = .CS_CONNECTED := hnext
  rw [hsame] at hstate
  cases hstate

theorem overhears_handleInState {packet : UtpPacket} (hreliable : packet.isReliable = false)
    (state : UtpConnState) : (UtpConn.handleInState packet state).MovesAlways
    (Overhears packet) := by
  have hignored : packet.type ≠ .ST_DATA ∧ packet.type ≠ .ST_FIN := by
    simpa [UtpPacket.isReliable] using hreliable
  cases state with
  | CS_SYN_SENT =>
      have haccept : (Async.modify fun world : World =>
          world.acceptHandshake (Seq.add packet.seqNr (-1))).MovesAlways (Overhears packet) :=
        .modify fun world => ⟨rfl, fun _ _ => Nat.mod_eq_of_lt (Seq.add_lt _ _)⟩
      exact (Async.MovesAlways.ite .pure (haccept.bind fun _ => .pure)).awaited
  | CS_SYN_RECV =>
      apply Async.MovesAlways.awaited
      apply Async.MovesAlways.reads
      intro world
      rw [if_pos hignored.1]
      exact .pure
  | CS_CONNECTED =>
      apply Async.MovesAlways.awaited
      apply Async.MovesAlways.reads
      intro world
      refine .ite .pure ?_
      rw [if_pos hignored.symm]
      exact .pure
  | CS_CLOSE_WAIT =>
      exact .ite ((overhears_handleAck packet).bind fun _ => .pure) .pure
  | CS_CLOSED => exact .pure
  | CS_RESET => exact .pure

theorem overhears_handleIncomingPacket {packet : UtpPacket}
    (hreliable : packet.isReliable = false) :
    (UtpConn.handleIncomingPacket packet).MovesAlways (Overhears packet) := by
  have hnote : (Async.modify noteHandled).MovesAlways (Overhears packet) := by
    apply Async.MovesAlways.modify
    intro world
    refine ⟨rfl, fun hstate hnext => ?_⟩
    have hsame : world.conn.localState = .CS_CONNECTED := hnext
    rw [hsame] at hstate
    cases hstate
  have hhandle : ((Async.get : ConnM World).bind fun world =>
      (UtpConn.handleInState packet world.conn.localState).bind fun handled =>
        if handled = true then (Async.modify noteHandled).bind fun _ => Async.pure handled
        else .pure handled).MovesAlways (Overhears packet) :=
    .reads fun world => (overhears_handleInState hreliable _).bind fun _ =>
      .ite (hnote.bind fun _ => .pure) .pure
  exact .ite ((overhears_handleAck packet).bind fun _ => hhandle) hhandle

/-- Tasks agree if neither data nor a FIN is handed over, and what may end the handshake
carries an agreed number. -/
theorem spawns_agreeing {first : Nat} {agreed : Nat → Prop} {heard : World → UtpPacket → Prop}
    {world : World} (htracked : world.Tracked first)
    (hheard : ∀ packet, heard world packet → packet.isReliable = false ∧
      (world.Started ∨ agreed (Seq.add packet.seqNr (-1)))) {label : Label} {task : ConnM Unit}
    (hspawns : Spawns heard world label task) :
    task.Moves (Chain (Agreeing agreed)) (Agreeing agreed) (fun _ _ => True) world := by
  have hrely : ∀ start later, Chain (Agreeing agreed) start later →
      Chain (Act true true true) start later :=
    fun _ _ hchain => hchain.lift id fun _ _ hmove => hmove.act
  by_cases hlabel : label = .receive
  · subst hlabel
    cases hspawns with
    | receive packet hhanded =>
        obtain ⟨hreliable, hagreed⟩ := hheard packet hhanded
        have hacts : Acts true true true (Tracked first)
            (Async.discard (UtpConn.handleIncomingPacket packet)) :=
          Async.MovesFrom.discard lasting_tracked (handleIncomingPacket_acts packet)
        have hboth := (hacts world htracked).and
          ((overhears_handleIncomingPacket hreliable).discard world)
        rcases hagreed with hstarted | hagreed
        · have hstable : Stable (Chain (Act true true true)) (fun start target =>
              Act true true true start target ∧ Overhears packet start target) Started :=
            ⟨(Async.stable_chain fun _ _ hstarted hact => hact.grows.started hstarted).rely,
              fun _ _ hstarted hmove => hmove.1.grows.started hstarted⟩
          refine (hboth.under hstable hstarted).mono hrely (fun start target hmove => ?_)
            fun _ _ => id
          obtain ⟨hstarted, hact, hoverhears⟩ := hmove
          exact ⟨hact, hoverhears.advanced, fun hstate => absurd hstate hstarted.1⟩
        · refine hboth.mono hrely (fun start target hmove => ?_) fun _ _ => id
          obtain ⟨hact, hoverhears⟩ := hmove
          refine ⟨hact, hoverhears.advanced, fun hstate hnext => ?_⟩
          rw [hoverhears.handshake hstate hnext]
          exact hagreed
  · have hacts : task.Moves (Chain (Act true true true)) (Act false true true) (fun _ _ => True)
        world :=
      spawns_acts htracked hspawns (fun h => absurd h hlabel) (fun _ => rfl) fun _ => rfl
    exact hacts.mono hrely (fun _ _ => Act.agreeing) fun _ _ => id

/-! ## The initiator's numbers -/

/-- While connected, the connection acknowledges `ackNr`, and so does all its data. -/
def Answers (ackNr : Nat) (world : World) : Prop :=
  world.conn.localState = .CS_CONNECTED → world.conn.localAckNr = ackNr ∧
    ∀ packet ∈ world.conn.created, packet.type = .ST_DATA → packet.ackNr = ackNr

theorem Agreeing.answers {first ackNr : Nat} {world next : World} (htracked : world.Tracked first)
    (hanswers : world.Answers ackNr) (hmove : Agreeing (· = ackNr) world next) :
    next.Answers ackNr := by
  have hadvanced := hmove.advanced
  intro hnext
  cases hmove.act with
  | env henv =>
      rw [henv.conn] at hnext ⊢
      exact hanswers hnext
  | takeData data =>
      obtain ⟨hackNr, hdata⟩ := hanswers hnext
      refine ⟨hackNr, fun packet hpacket htype => ?_⟩
      rcases List.mem_append.mp hpacket with hold | hnew
      · exact hdata packet hold htype
      · rw [List.mem_singleton.mp hnew]
        exact hackNr
  | takeFin hstate => exact absurd (hstate.symm.trans hnext) nofun
  | acceptHandshake number hstate _ _ =>
      refine ⟨hmove.handshake hstate hnext, fun packet hpacket => ?_⟩
      have hempty := htracked.unstarted fun hstarted => hstarted.1 hstate
      rw [show (world.acceptHandshake number).conn.created = [] from hempty] at hpacket
      cases hpacket
  | acceptFirstData => exact absurd hadvanced (Nat.succ_ne_self _)
  | advanceTo => exact absurd hadvanced (Nat.succ_ne_self _)
  | beginClose => cases hnext
  | resetNow => cases hnext
  | release => cases hnext
  | forceClose => cases hnext
  | acceptFin => cases hnext
  | _ => exact hanswers hnext

section Start

variable {self : Nat} {utp : UtpSocket} {isInitiator : Bool} {remoteAddr : UtpAddr}
  {sendId recvId seqNr ackNr : Nat}

theorem connectTo_agreeing (hseqNr : seqNr < 65536) {agreed : Nat → Prop} {inv : World → Prop}
    (hpreserves : ∀ world next, inv world → Agreeing agreed world next → inv next)
    (hbegun : inv (begun self utp isInitiator remoteAddr sendId recvId seqNr ackNr)) :
    (connectTo self utp isInitiator remoteAddr sendId recvId seqNr ackNr).Moving (Agreeing agreed)
      inv := by
  have hrecorded := @begun_recorded sendId (synOf self utp isInitiator remoteAddr sendId recvId
    seqNr ackNr) self utp isInitiator remoteAddr recvId seqNr ackNr hseqNr
  have hstart : Config.Moving (Agreeing agreed) inv
      (⟨begun self utp isInitiator remoteAddr sendId recvId seqNr ackNr, []⟩ :
        Config World Label) :=
    .start hbegun
  have hmoves : ∀ packet : UtpPacket, (begun self utp isInitiator remoteAddr sendId recvId seqNr
      ackNr).Sendable packet → packet.type ≠ .ST_DATA →
        (UtpConn.sendHandshake packet).Moves (Chain (Agreeing agreed)) (Agreeing agreed)
          (fun _ _ => True) (begun self utp isInitiator remoteAddr sendId recvId seqNr ackNr) := by
    intro packet hsendable hother
    have hacts : (UtpConn.sendHandshake packet).Moves (Chain (Act true true true))
        (Act false true true) (fun _ _ => True)
        (begun self utp isInitiator remoteAddr sendId recvId seqNr ackNr) :=
      sendHandshake_acts hrecorded.tracked hsendable hother
    exact hacts.mono (fun _ _ hchain => hchain.lift id fun _ _ hmove => hmove.act)
      (fun _ _ => Act.agreeing) fun _ _ => id
  cases isInitiator with
  | true =>
      rw [connectTo_initiator]
      exact (hstart.launch hpreserves (hmoves _ (sendable_syn _ _ _) nofun) Label.connect).2
  | false =>
      rw [connectTo_responder]
      exact (hstart.launch hpreserves (hmoves _ (sendable_synAck rfl) nofun) Label.connect).2

end Start

/-! ## What is overheard -/

/-- Nothing but acknowledgements has been sent. -/
def OnlyAcks (world : World) : Prop :=
  ∀ datagram ∈ world.utp.sent, datagram.packet.type = .ST_STATE

instance (world : World) : Decidable world.OnlyAcks :=
  inferInstanceAs (Decidable (∀ datagram ∈ world.utp.sent, datagram.packet.type = .ST_STATE))

variable {first sendId : Nat} {syn packet : UtpPacket} {world : World}

/-- Before the handshake an end has built nothing that would be delivered. -/
theorem Recorded.heard_unstarted (hworld : world.Recorded first sendId syn)
    (hstarted : ¬ world.Started) (hheard : Heard world.utp.sent packet) :
    packet.isReliable = false := by
  obtain ⟨datagram, hdatagram, htype, -⟩ := hworld.heard hheard
  by_contra hreliable
  have hsent : datagram.packet.isReliable = true := by
    rw [UtpPacket.isReliable, ← htype]
    exact Bool.not_eq_false _ ▸ hreliable
  have hcreated := hworld.tracked.sent datagram hdatagram hsent
  rw [hworld.tracked.unstarted hstarted] at hcreated
  cases hcreated

/-- Acknowledgements carry the first number until the first data has come. -/
theorem Recorded.heard_acks (hworld : world.Recorded first sendId syn) (hacks : world.OnlyAcks)
    (hheard : Heard world.utp.sent packet) :
    packet.isReliable = false ∧ (packet.seqNr = first % 65536 ∨ world.Joined) := by
  obtain ⟨datagram, hdatagram, htype, -, hseqNr, -⟩ := hworld.heard hheard
  have hack := hacks datagram hdatagram
  constructor
  · simp [UtpPacket.isReliable, htype, hack]
  · rcases hworld.tracked.acknowledged datagram hdatagram hack with hfirst | hjoined
    · left
      rw [hseqNr, hfirst, Nat.mod_mod]
    · exact .inr hjoined

theorem agreeing_runtime {agreed : Nat → Prop} {next : World} (hruntime : world.Runtime next) :
    Agreeing agreed world next := by
  refine ⟨.env hruntime.toEnvironment, by rw [hruntime.conn], fun hstate hnext => ?_⟩
  rw [hruntime.conn, hstate] at hnext
  cases hnext

end World

namespace Pair

variable {setup : Setup} {terms : Terms} {pair next : Pair} {responder : Party}

/-- Until the initiator has been answered nothing is delivered to the responder, and until
the responder has sent more than acknowledgements nothing is delivered to the initiator. -/
structure Agreed (setup : Setup) (pair : Pair) : Prop where
  idle : ∀ responder, pair.responder = some responder → pair.initiator.state.Started ∨
    responder.config.Moving (World.Agreeing fun _ => True) fun world => world.conn.advanced = 0
  answers : (∀ responder, pair.responder = some responder → responder.state.OnlyAcks) →
    pair.initiator.config.Moving (World.Agreeing (· = setup.ackNr)) fun world =>
      world.Tracked 2 ∧ world.Answers setup.ackNr

theorem Agreed.answer_step (hagreed : pair.Agreed setup) (hfirst : pair.responder = none)
    (self : Nat)
    (utp : UtpSocket) (packet : UtpPacket) :
    Agreed setup { pair with responder := some (setup.answer self utp packet) } where
  idle responder hresponder := by
    cases hresponder
    right
    apply World.connectTo_agreeing setup.seqNr_lt
    · exact fun _ _ hnone hmove => hmove.advanced.trans hnone
    · rfl
  answers _ := by
    apply hagreed.answers
    intro responder hresponder
    rw [hfirst] at hresponder
    cases hresponder

theorem Agreed.initiator_step (hends : pair.Ends setup) (hagreed : pair.Agreed setup)
    {party : Party}
    (hstep : pair.initiator.Step terms pair.ToInitiator party) :
    Agreed setup { pair with initiator := party } where
  idle responder hresponder := by
    obtain ⟨syn, -, -, hregular⟩ := hends.initiator_regular
    obtain ⟨hchain, -⟩ := (World.partySystem_words anyLabel anyPacket).step hregular.moving
      hstep.wide
    refine (hagreed.idle responder hresponder).imp_left fun hstarted => ?_
    exact (World.Grows.of_chain (World.acts_of_words hchain)).started hstarted
  answers honly := by
    obtain ⟨syn, -, -, hregular⟩ := hends.initiator_regular
    refine ((hagreed.answers honly).step ?_ ?_ ?_ hstep.system).2
    · exact fun _ _ hinv hmove => ⟨hmove.act.tracked hinv.1, hmove.answers hinv.1 hinv.2⟩
    · intro label task hspawn
      refine World.spawns_agreeing hregular.moving.inv.tracked (fun packet hhanded => ?_) hspawn.2
      obtain ⟨responder, hresponder, hheard, -⟩ := hhanded
      obtain ⟨⟨_, hother⟩, -⟩ := hends.responder_regular hresponder
      obtain ⟨hreliable, hnumber⟩ := hother.moving.inv.heard_acks
        (honly responder hresponder) hheard
      refine ⟨hreliable, ?_⟩
      rcases hagreed.idle responder hresponder with hstarted | hidle
      · exact .inl hstarted
      · right
        rcases hnumber with hseqNr | hjoined
        · rw [hseqNr, Nat.mod_eq_of_lt setup.seqNr_lt]
          rfl
        · obtain ⟨object, hwired⟩ := hother.wired
          rcases hjoined with hinitiator | hadvanced
          · rw [hwired.isInitiator] at hinitiator
            cases hinitiator
          · exact absurd hidle.inv hadvanced.ne'
    · exact fun _ => World.agreeing_runtime

theorem Agreed.responder_step (hends : pair.Ends setup) (hagreed : pair.Agreed setup)
    {party : Party}
    (hresponder : pair.responder = some responder)
    (hstep : responder.Step terms (Handed pair.initiator.state.utp.sent) party) :
    Agreed setup { pair with responder := some party } where
  idle other hother := by
    cases hother
    obtain ⟨syn, -, -, hregular⟩ := hends.initiator_regular
    obtain ⟨⟨_, hown⟩, -⟩ := hends.responder_regular hresponder
    by_cases hstarted : pair.initiator.state.Started
    · exact .inl hstarted
    · refine .inr (((hagreed.idle responder hresponder).resolve_left hstarted).step ?_ ?_ ?_
        hstep.system).2
      · exact fun _ _ hnone hmove => hmove.advanced.trans hnone
      · intro label task hspawn
        refine World.spawns_agreeing hown.moving.inv.tracked (fun packet hhanded => ?_) hspawn.2
        exact ⟨hregular.moving.inv.heard_unstarted hstarted hhanded.1, .inr trivial⟩
      · exact fun _ => World.agreeing_runtime
  answers honly := by
    obtain ⟨⟨_, hown⟩, -⟩ := hends.responder_regular hresponder
    obtain ⟨hchain, -⟩ := (World.partySystem_words anyLabel anyPacket).step hown.moving hstep.wide
    have hsent := (World.Grows.of_chain (World.acts_of_words hchain)).sent
    refine hagreed.answers fun other hother => ?_
    cases hresponder.symm.trans hother
    exact fun datagram hdatagram => honly party rfl datagram (hsent.subset hdatagram)

theorem agreed (hrun : Reachable setup terms pair) : pair.Agreed setup := by
  induction hrun with
  | connect self utp =>
      refine ⟨fun _ hnone => absurd hnone.symm (Option.some_ne_none _), fun _ => ?_⟩
      apply World.connectTo_agreeing (by decide)
      · exact fun _ _ hinv hmove => ⟨hmove.act.tracked hinv.1, hmove.answers hinv.1 hinv.2⟩
      · exact ⟨(World.create_tracked self utp true setup.responderAddr (setup.drawn + 1)
          setup.drawn 1 0 (by decide)).takeSyn rfl rfl, nofun⟩
  | step hrun hstep ih =>
      cases hstep with
      | answer self utp packet hfirst _ _ _ => exact ih.answer_step hfirst self utp packet
      | initiator hstep => exact ih.initiator_step (ends hrun) hstep
      | responder hresponder hstep => exact ih.responder_step (ends hrun) hresponder hstep

end Pair

/-! ## Both ends after the handshake -/

namespace World

variable {first sendId : Nat} {syn packet : UtpPacket} {world : World}

/-- Data comes out of the network as it went in. -/
theorem Shaped.decodes (hshaped : Shaped sendId packet) (htype : packet.type = .ST_DATA) :
    UtpPacket.fromBytes packet.toBytes = .ok packet.narrow ∧
      UtpPacket.isPacket packet.toBytes = .ok true := by
  obtain ⟨chunk, hchunk, hpos, hfits⟩ := hshaped.data htype
  have hversion : packet.version < 16 := by
    rw [hshaped.version]
    decide
  have hdata : packet.data ≠ some [] := by
    rw [hchunk]
    intro hempty
    cases hempty
    cases hpos
  have hdecodes := UtpPacket.fromBytes_plain hversion hshaped.extension hshaped.extensions hdata
  have hlength : packet.toBytes.length = UtpPacket.HEADER_SIZE + chunk.length := by
    rw [UtpPacket.toBytes_length, UtpPacket.length, hshaped.extensions, hchunk]
    simp
  have hsize : UtpPacket.SizeFits packet.toBytes := by
    have hmax : UtpPacket.HEADER_SIZE + UtpConn.chunkSize ≤ UtpPacket.MAX_PACKET_SIZE := by decide
    have hmin : UtpPacket.MIN_PACKET_SIZE ≤ UtpPacket.HEADER_SIZE := by decide
    rw [UtpPacket.SizeFits, hlength]
    omega
  refine ⟨hdecodes, ?_⟩
  obtain ⟨fits, hvalid, hheader⟩ := UtpPacket.isPacket_of_ok hsize hdecodes
  have hread := UtpPacket.read_of_fromBytes hsize.1 hdecodes
  rw [hvalid, hheader.mpr (hread.headerFits_iff.mpr ⟨hshaped.version, ?_⟩)]
  rw [show packet.narrow.type = packet.type from rfl, htype]
  decide

end World

namespace Pair

variable {setup : Setup} {terms : Terms} {pair : Pair} {responder : Party}

/-! ## A concrete run -/

/-- The SYN of the sample run as it arrives. -/
def sampleSyn : UtpPacket where
  type := .ST_SYN
  connId := 1
  seqNr := 1
  ackNr := 0
  timestampMicroseconds := 1000000000
  windowSize := 0
  extension := 2
  extensions := [.extensionBits .create]

/-- The answer to it. -/
def sampleSynAck : UtpPacket where
  type := .ST_STATE
  connId := 1
  seqNr := 100
  ackNr := 1
  timestampMicroseconds := 1000000000
  windowSize := 262144

/-- The initiator after the handshake, and after it has written one byte. -/
def sampleConnected : Config World Label :=
  (((Setup.sample.connect 0 .sample).config.resumes [0, 0, 0, 0]).launch .receive
    (Async.discard (UtpConn.handleIncomingPacket sampleSynAck))).resumes [0, 0, 0, 0]

def sampleWrote : Config World Label :=
  (sampleConnected.launch .write (Async.discard (UtpConn.write [65]))).resumes [0, 0, 0, 0, 0, 0]

def sampleAnswered : Party := Setup.sample.answer 1 .sample sampleSyn

/-- Whatever the responder's socket has done before, the initiator hears its answer. -/
theorem sampleConnected_answered {self : Nat} {utp : UtpSocket} (terms : Terms)
    (hfresh : ∀ world packet, terms.fresh world packet) (hopen : utp.state ≠ .CLOSED)
    (hheard : Heard (Setup.sample.answer self utp sampleSyn).state.utp.sent sampleSynAck) :
    Reachable Setup.sample terms
      ⟨⟨sampleConnected, []⟩, some (Setup.sample.answer self utp sampleSyn)⟩ := by
  have hsent : Reachable Setup.sample terms
      ⟨⟨(Setup.sample.connect 0 .sample).config.resumes [0, 0, 0, 0], []⟩, none⟩ :=
    (Reachable.connect 0 .sample).initiator_resumes _
  have hanswered : Reachable Setup.sample terms
      ⟨⟨(Setup.sample.connect 0 .sample).config.resumes [0, 0, 0, 0], []⟩,
        some (Setup.sample.answer self utp sampleSyn)⟩ :=
    hsent.step (.answer self utp sampleSyn rfl (@heard_arrival _ 0 _ (by decide +kernel)) rfl hopen)
  refine (hanswered.step (.initiator ?_)).initiator_resumes _
  apply Party.Step.other
  apply TaskSystem.Step.launch
  · exact ⟨nofun, .receive sampleSynAck ⟨⟨_, rfl, hheard, nofun, nofun⟩, hfresh _ _⟩⟩
  · intro _ other hother
    have hidle :
        ((Setup.sample.connect 0 .sample).config.resumes [0, 0, 0, 0]).tasks.length = 0 := by
      decide +kernel
    rw [List.length_eq_zero_iff.mp hidle] at hother
    cases hother

theorem sampleConnected_reachable (terms : Terms)
    (hfresh : ∀ world packet, terms.fresh world packet) :
    Reachable Setup.sample terms ⟨⟨sampleConnected, []⟩, some sampleAnswered⟩ :=
  sampleConnected_answered terms hfresh nofun
    (@heard_arrival sampleAnswered 0 _ (by decide +kernel))

end Pair

end Utp
