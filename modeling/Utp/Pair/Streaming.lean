import Utp.Pair.Agreement
import Utp.Receiver.Handover

/-! # What one end takes from the other

The packets that an end builds, in the order of their numbers, are a stream for the other
end. As long as a packet is not taken for a later one with the same number, and the first
one that reaches the responder is the first of the stream, both ends keep to the streams.
-/

namespace Utp

open Async (Chain)

/-- How far packets may be from the position of the receiver that they are handed to. -/
structure Reach where
  near : Nat → Nat → Prop
  unique : ∀ base k i, near k i → (base + i) % 65536 = (base + k + 1) % 65536 → i = k + 1
  onward : ∀ k i, near k i → near k (k + 1) → i ≠ k + 1 → near (k + 1) i

namespace Reach

/-- Ahead of the position, by less than half a cycle. -/
def ahead : Reach where
  near k i := k < i ∧ i < k + 2 ^ 15
  unique base k i := by omega
  onward k i := by omega

/-- Anywhere in a stream that ends before the numbers come round. -/
def among (count : Nat) (hcount : count < 65536) : Reach where
  near k i := k ≤ count ∧ 0 < i ∧ i ≤ count
  unique base k i := by omega
  onward k i := by omega

end Reach

/-! ## The stream of the packets that are built -/

namespace Stream

/-- The stream of `packets`, numbered from `first` on, of which those that are `sent` may be
in the network. -/
def built (reach : Reach) (first : Nat) (packets : List UtpPacket) (sent : Nat → Prop) :
    Stream where
  base := first + 65535
  earlier := []
  payload i := (packets[i - 1]?.map UtpPacket.payload).getD []
  live k i := reach.near k i ∧ sent i
  reached k := ∀ i, 0 < i → i ≤ k → sent i
  zero i := by omega
  unique k i hlive := reach.unique _ k i hlive.1
  onward k i hlive hnext hne := ⟨reach.onward k i hlive.1 hnext.1 hne, hlive.2⟩
  arrived k hreached hlive i hpos hle := by
    rcases Nat.lt_or_eq_of_le hle with hlt | rfl
    · exact hreached i hpos (Nat.le_of_lt_succ hlt)
    · exact hlive.2

variable {reach : Reach} {first : Nat} {packets : List UtpPacket} {sent : Nat → Prop}

/-- The last packet that a receiver has reached was sent, if there is one. -/
theorem sent_of_reached {k : Nat} (hreached : (built reach first packets sent).reached k) :
    k = 0 ∨ sent k :=
  k.eq_zero_or_pos.imp_right fun hpos => hreached k hpos le_rfl

/-- The packets are numbered from `first` on, in 16 bits. -/
theorem number_built (index : Nat) :
    (built reach first packets sent).number (index + 1) = (first + index) % 65536 := by
  show (first + 65535 + (index + 1)) % 65536 = _
  omega

theorem number_built_zero : (built reach first packets sent).number 0 =
    (first + 65535) % 65536 := rfl

/-- A packet's payload is that of its place in the stream. -/
theorem payload_built {index : Nat} {packet : UtpPacket} (hpacket : packets[index]? = some packet) :
    (built reach first packets sent).payload (index + 1) = packet.payload := by
  show ((packets[index]?).map UtpPacket.payload).getD [] = _
  rw [hpacket]
  rfl

/-- The bytes of the first packets. -/
theorem bytes_built (k : Nat) :
    (built reach first packets sent).bytes k = (packets.take k).flatMap UtpPacket.payload := by
  induction k with
  | zero => rfl
  | succ k ih =>
      have hpayload : (built reach first packets sent).payload (k + 1) =
          ((packets[k]?).map UtpPacket.payload).getD [] := rfl
      rw [bytes, ih, hpayload, List.take_add_one, List.flatMap_append]
      cases packets[k]? <;> simp

end Stream

namespace World

/-! ## Packets on their way -/

theorem getElem?_of_prefix {α : Type} {shorter longer : List α} (hbegins : shorter <+: longer)
    {index : Nat} {entry : α} (hentry : shorter[index]? = some entry) :
    longer[index]? = some entry := by
  obtain ⟨rest, rfl⟩ := hbegins
  rwa [List.getElem?_append_left (List.getElem?_eq_some_iff.mp hentry).1]

/-- The packet is a copy of the one at this place among those the connection has built. -/
def Carries (world : World) (index : Nat) (packet : UtpPacket) : Prop :=
  ∃ datagram ∈ world.utp.sent, world.conn.created[index]? = some datagram.packet ∧
    UtpPacket.fromBytes datagram.packet.toBytes = .ok packet

/-- The `i`-th packet that the connection has built is in the network. -/
def Posted (world : World) (i : Nat) : Prop :=
  ∃ index, i = index + 1 ∧ ∃ datagram ∈ world.utp.sent,
    world.conn.created[index]? = some datagram.packet

/-- The connection has built a beginning of `packets`, and has sent some of those that are
`sent`. -/
structure Offers (packets : List UtpPacket) (sent : Nat → Prop) (world : World) : Prop where
  created : world.conn.created <+: packets
  posted : ∀ i, world.Posted i → sent i

/-- A packet that is carried was posted. -/
theorem Carries.posted {world : World} {index : Nat} {packet : UtpPacket}
    (hcarries : world.Carries index packet) : world.Posted (index + 1) := by
  obtain ⟨datagram, hdatagram, hcreated, -⟩ := hcarries
  exact ⟨index, rfl, datagram, hdatagram, hcreated⟩

/-- What a connection offers now, it has offered all along. -/
theorem Offers.earlier {packets : List UtpPacket} {sent : Nat → Prop} {world next : World}
    (hnext : next.Offers packets sent) (hgrows : world.Grows next) : world.Offers packets sent where
  created := hgrows.created.trans hnext.created
  posted i hposted := by
    obtain ⟨index, hi, datagram, hdatagram, hcreated⟩ := hposted
    refine hnext.posted i ⟨index, hi, datagram, hgrows.sent.subset hdatagram, ?_⟩
    exact getElem?_of_prefix hgrows.created hcreated

variable {first sendId : Nat} {syn : UtpPacket}

/-- The network changes neither the payload nor the number. -/
theorem Recorded.carries {world : World} (hworld : world.Recorded first sendId syn) {index : Nat}
    {packet : UtpPacket} (hcarries : world.Carries index packet) :
    ∃ original, world.conn.created[index]? = some original ∧
      packet.payload = original.payload ∧ packet.seqNr = (first + index) % 65536 := by
  obtain ⟨datagram, -, hcreated, hdecodes⟩ := hcarries
  have hshaped := hworld.shaped _ (List.mem_of_getElem? hcreated)
  have hversion : datagram.packet.version < 16 := by
    rw [hshaped.version]
    decide
  obtain ⟨htype, -, hseqNr, -⟩ := UtpPacket.fromBytes_narrow hversion hdecodes
  refine ⟨_, hcreated, ?_, ?_⟩
  · by_cases hdata : datagram.packet.type = .ST_DATA
    · rw [(hshaped.decodes hdata).1] at hdecodes
      cases hdecodes
      rfl
    · simp [UtpPacket.payload, htype, hdata]
  · rw [hseqNr, hworld.tracked.numbered index _ hcreated, Nat.mod_mod]

/-- The receiver takes data before anything else, and data and FIN packets once it is
established. -/
def Accepts (world : World) (packet : UtpPacket) : Prop :=
  packet.type = .ST_DATA ∧ world.conn.localState = .CS_SYN_RECV ∨
    packet.isReliable = true ∧ world.conn.localState = .CS_CONNECTED ∧
      world.conn.isRefused packet = false

/-- A packet that the receiver takes is a copy of one in reach, and of the very first one if
it establishes the connection. -/
def Timely (reach : Reach) (sender receiver : World) (packet : UtpPacket) : Prop :=
  receiver.Accepts packet → ∃ index, sender.Carries index packet ∧
    reach.near receiver.conn.advanced (index + 1) ∧
    (receiver.conn.localState = .CS_SYN_RECV → index = 0)

/-- A timely packet suits the stream of what the sender has built. -/
theorem Timely.suits {reach : Reach} {sender receiver : World} {packet : UtpPacket}
    {packets : List UtpPacket} {sent : Nat → Prop} (hsender : sender.Recorded first sendId syn)
    (hoffers : sender.Offers packets sent)
    (hphase : receiver.Phase (.built reach first packets sent))
    (hanswer : packet.type = .ST_STATE → receiver.conn.localState = .CS_SYN_SENT →
      Seq.add packet.seqNr (-1) = (first + 65535) % 65536)
    (htimely : Timely reach sender receiver packet) :
    receiver.Suits (.built reach first packets sent) packet := by
  have hcopy : ∀ {index}, sender.Carries index packet →
      sent (index + 1) ∧
        packet.payload = (Stream.built reach first packets sent).payload (index + 1) ∧
        packet.seqNr = (Stream.built reach first packets sent).number (index + 1) := by
    intro index hcarries
    obtain ⟨original, hcreated, hpayload, hseqNr⟩ := hsender.carries hcarries
    have hpacket := getElem?_of_prefix hoffers.created hcreated
    exact ⟨hoffers.posted _ hcarries.posted, hpayload.trans (Stream.payload_built hpacket).symm,
      hseqNr.trans (Stream.number_built index).symm⟩
  refine ⟨hanswer, fun htype hstate => ?_, fun hreliable hstate hrefused => ?_⟩
  · obtain ⟨index, hcarries, hnear, hfirst⟩ := htimely (.inl ⟨htype, hstate⟩)
    obtain rfl := hfirst hstate
    have hadvanced : receiver.conn.advanced = 0 := by
      cases hphase with
      | good hgood => exact (hgood.waiting hstate).1
      | void hgone => exact absurd hstate hgone.1.2
      | fresh _ hreceived => exact absurd hstate hreceived
    rw [hadvanced] at hnear
    exact ⟨⟨hnear, (hcopy hcarries).1⟩, (hcopy hcarries).2⟩
  · obtain ⟨index, hcarries, hnear, -⟩ := htimely (.inr ⟨hreliable, hstate, hrefused⟩)
    exact ⟨index + 1, ⟨hnear, (hcopy hcarries).1⟩, (hcopy hcarries).2⟩

end World

/-! ## Both ends -/

/-- A step under one set of terms is a step under another that allows as much of what is handed
over. -/
theorem Party.Step.handed_mono {terms other : Terms} {handed : UtpPacket → Prop}
    {party next : Party} (hstep : party.Step terms handed next)
    (hfresh : ∀ packet, handed packet → terms.fresh party.state packet →
      other.fresh party.state packet)
    (hready : terms.ready party → other.ready party) : party.Step other handed next := by
  cases hstep with
  | write data hresolved hterms => exact .write data hresolved (hready hterms)
  | other hstep =>
      apply Party.Step.other
      refine Async.TaskSystem.Step.mono ?_ ?_ ?_ hstep
      · intro label task hspawn
        exact ⟨hspawn.1, hspawn.2.mono fun packet hhanded =>
          ⟨hhanded.1, hfresh packet hhanded.1 hhanded.2⟩⟩
      · exact fun _ henv => henv
      · exact fun _ hexclusive => hexclusive

/-- The same when the terms allow as much of any packet. -/
theorem Party.Step.mono {terms other : Terms} {handed : UtpPacket → Prop} {party next : Party}
    (hstep : party.Step terms handed next)
    (hfresh : ∀ packet, terms.fresh party.state packet → other.fresh party.state packet)
    (hready : terms.ready party → other.ready party) : party.Step other handed next :=
  hstep.handed_mono (fun packet _ => hfresh packet) hready

/-- An end does what the rely-guarantee rule for a stream speaks about if the packets that are
handed to it suit the stream. -/
theorem Party.Step.suits {terms : Terms} {handed : UtpPacket → Prop} {stream : Stream}
    {party next : Party} (hstep : party.Step terms handed next)
    (hsuits : ∀ packet, handed packet → terms.fresh party.state packet →
      party.state.Suits stream packet) :
    (connSystem anyLabel (World.Suits stream)).Step party.config next.config := by
  cases hstep with
  | write data hresolved _ => exact .launch ⟨trivial, .write data hresolved⟩ nofun
  | other hstep =>
      refine Async.TaskSystem.Step.mono ?_ ?_ ?_ hstep
      · intro label task hspawn
        exact ⟨trivial, hspawn.2.mono fun packet hhanded => hsuits packet hhanded.1 hhanded.2⟩
      · exact fun _ hruntime => hruntime.toEnvironment
      · exact fun _ hexclusive => hexclusive

namespace Pair

variable {setup : Setup} {terms : Terms} {pair next : Pair} {responder : Party} {reach : Reach}

/-- A run that is restricted is a run. -/
theorem Step.any (hstep : pair.Step setup terms next) : pair.Step setup anyTerms next := by
  cases hstep with
  | answer self utp packet hfirst hheard htype hopen =>
      exact .answer self utp packet hfirst hheard htype hopen
  | initiator hstep => exact .initiator (hstep.mono (fun _ _ => trivial) fun _ => trivial)
  | responder hresponder hstep =>
      exact .responder hresponder (hstep.mono (fun _ _ => trivial) fun _ => trivial)

/-- Forgetting the terms, a run is a run of the two ends. -/
theorem Reachable.any (hrun : Reachable setup terms pair) : Reachable setup anyTerms pair := by
  induction hrun with
  | connect self utp => exact .connect self utp
  | step _ hstep ih => exact ih.step hstep.any

/-- What the initiator does are writes of a connection. -/
theorem Ends.initiator_acts (hends : pair.Ends setup) {handed : UtpPacket → Prop} {party : Party}
    (hstep : pair.initiator.Step terms handed party) :
    Chain (World.Act true true true) pair.initiator.state party.state := by
  obtain ⟨syn, -, -, hregular⟩ := hends.initiator_regular
  obtain ⟨hchain, -⟩ := (World.partySystem_words anyLabel anyPacket).step hregular.moving hstep.wide
  exact World.acts_of_words hchain

/-- What the responder does are writes of a connection. -/
theorem Ends.responder_acts (hends : pair.Ends setup)
    (hresponder : pair.responder = some responder)
    {handed : UtpPacket → Prop} {party : Party} (hstep : responder.Step terms handed party) :
    Chain (World.Act true true true) responder.state party.state := by
  obtain ⟨⟨_, hregular⟩, -⟩ := hends.responder_regular hresponder
  obtain ⟨hchain, -⟩ := (World.partySystem_words anyLabel anyPacket).step hregular.moving hstep.wide
  exact World.acts_of_words hchain

/-- The initiator's list of packets grows. -/
theorem Ends.initiator_grows (hends : pair.Ends setup) {handed : UtpPacket → Prop} {party : Party}
    (hstep : pair.initiator.Step terms handed party) : pair.initiator.state.Grows party.state :=
  .of_chain (hends.initiator_acts hstep)

/-- The responder's list of packets grows. -/
theorem Ends.responder_grows (hends : pair.Ends setup)
    (hresponder : pair.responder = some responder)
    {handed : UtpPacket → Prop} {party : Party} (hstep : responder.Step terms handed party) :
    responder.state.Grows party.state := .of_chain (hends.responder_acts hresponder hstep)

/-- What the initiator takes for the answer to its SYN carries the number that the responder
drew. -/
theorem answer_number (hrun : Reachable setup terms pair)
    (hresponder : pair.responder = some responder)
    {packet : UtpPacket} (hheard : Heard responder.state.utp.sent packet)
    (htype : packet.type = .ST_STATE)
    (hstate : pair.initiator.state.conn.localState = .CS_SYN_SENT) :
    packet.seqNr = setup.seqNr := by
  obtain ⟨⟨_, hregular⟩, -⟩ := (ends hrun).responder_regular hresponder
  obtain ⟨_, hwired⟩ := hregular.wired
  obtain ⟨datagram, hdatagram, htype', -, hseqNr, -⟩ := hregular.moving.inv.heard hheard
  have hidle := ((agreed hrun).idle responder hresponder).resolve_left fun hstarted =>
    hstarted.1 hstate
  rcases hregular.moving.inv.tracked.acknowledged datagram hdatagram (htype'.symm.trans htype) with
    hfirst | hinitiator | hadvanced
  · rw [hseqNr, hfirst, Nat.mod_mod, Nat.mod_eq_of_lt setup.seqNr_lt]
  · rw [hwired.isInitiator] at hinitiator
    cases hinitiator
  · exact absurd hidle.inv hadvanced.ne'

/-- Both ends keep to every stream that contains what the other end has built and sent. -/
structure Streaming (reach : Reach) (setup : Setup) (pair : Pair) : Prop where
  initiator : ∀ packets sent, (∀ responder, pair.responder = some responder →
      responder.state.Offers packets sent) →
    (World.outline true true 2 (World.Phase (.built reach setup.seqNr packets sent))).Holds
      (connSystem anyLabel (World.Suits (.built reach setup.seqNr packets sent)))
      pair.initiator.config
  responder : ∀ responder, pair.responder = some responder → ∀ packets sent,
    pair.initiator.state.Offers packets sent →
    (World.outline true true setup.seqNr (World.Phase (.built reach 2 packets sent))).Holds
      (connSystem anyLabel (World.Suits (.built reach 2 packets sent))) responder.config

/-- The initiator starts with a stream that is still empty. -/
theorem Streaming.start (reach : Reach) (setup : Setup) (self : Nat) (utp : UtpSocket) :
    Streaming reach setup ⟨setup.connect self utp, none⟩ where
  initiator _ _ _ := World.initiator_phase (by decide) rfl
  responder _ hnone := by cases hnone

/-- The responder starts at the front of the initiator's stream. -/
theorem Streaming.answer_step (hrun : Reachable setup anyTerms pair)
    (hstreaming : pair.Streaming reach setup) (hfirst : pair.responder = none) (self : Nat)
    (utp : UtpSocket) {packet : UtpPacket} (hheard : Heard pair.initiator.state.utp.sent packet)
    (htype : packet.type = .ST_SYN) :
    Streaming reach setup { pair with responder := some (setup.answer self utp packet) } where
  initiator packets sent _ := by
    apply hstreaming.initiator packets sent
    intro responder hresponder
    rw [hfirst] at hresponder
    cases hresponder
  responder responder hresponder packets sent _ := by
    cases hresponder
    obtain ⟨syn, -, hseqNr, hregular⟩ := (ends hrun).initiator_regular
    have hackNr := (hregular.moving.inv.heard_syn hheard htype).2
    rw [hseqNr] at hackNr
    exact World.responder_phase setup.seqNr_lt rfl
      (hackNr.trans (@Stream.number_built_zero reach 2 packets sent).symm)

/-- The step lemma at the initiator, which takes packets within reach. -/
theorem Streaming.initiator_step (hrun : Reachable setup anyTerms pair)
    (hstreaming : pair.Streaming reach setup) {party : Party}
    (hstep : pair.initiator.Step terms pair.ToInitiator party)
    (htimely : ∀ responder, pair.responder = some responder → ∀ packet,
      Handed responder.state.utp.sent packet → terms.fresh pair.initiator.state packet →
      World.Timely reach responder.state pair.initiator.state packet) :
    Streaming reach setup { pair with initiator := party } where
  initiator packets sent hoffers := by
    have hbefore := hstreaming.initiator packets sent hoffers
    refine hbefore.step (World.phase_sound _ _) (hstep.suits fun packet htaken hfresh => ?_)
    obtain ⟨responder, hresponder, hhanded⟩ := htaken
    obtain ⟨⟨_, hregular⟩, -⟩ := (ends hrun).responder_regular hresponder
    refine (htimely responder hresponder packet hhanded hfresh).suits hregular.moving.inv
      (hoffers responder hresponder) hbefore.inv.2 fun htype hstate => ?_
    rw [answer_number hrun hresponder hhanded.1 htype hstate]
    unfold Seq.add
    omega
  responder responder hresponder packets sent hoffers :=
    hstreaming.responder responder hresponder packets sent
      (hoffers.earlier ((ends hrun).initiator_grows hstep))

/-- The step lemma at the responder. -/
theorem Streaming.responder_step (hrun : Reachable setup anyTerms pair)
    (hstreaming : pair.Streaming reach setup) (hresponder : pair.responder = some responder)
    {party : Party} (hstep : responder.Step terms (Handed pair.initiator.state.utp.sent) party)
    (htimely : ∀ packet, Handed pair.initiator.state.utp.sent packet →
      terms.fresh responder.state packet →
      World.Timely reach pair.initiator.state responder.state packet) :
    Streaming reach setup { pair with responder := some party } where
  initiator packets sent hoffers := by
    apply hstreaming.initiator packets sent
    intro other hother
    cases hresponder.symm.trans hother
    exact (hoffers party rfl).earlier ((ends hrun).responder_grows hresponder hstep)
  responder other hother packets sent hoffers := by
    cases hother
    obtain ⟨syn, -, -, hregular⟩ := (ends hrun).initiator_regular
    have hbefore := hstreaming.responder responder hresponder packets sent hoffers
    refine hbefore.step (World.phase_sound _ _) (hstep.suits fun packet hhanded hfresh => ?_)
    refine (htimely packet hhanded hfresh).suits hregular.moving.inv hoffers hbefore.inv.2
      fun _ hstate => ?_
    -- Only an initiator sends a SYN.
    have hinitiator := hbefore.inv.1.initiator hstate
    obtain ⟨⟨_, hown⟩, -⟩ := (ends hrun).responder_regular hresponder
    obtain ⟨_, hwired⟩ := hown.wired
    rw [hwired.isInitiator] at hinitiator
    cases hinitiator

end Pair

end Utp
