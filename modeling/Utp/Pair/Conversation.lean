import Utp.Pair.FlowControl
import Utp.Sender.Portions

/-! # From `write` at one end to `read` at the other

Where packets are timely, an end receives a beginning of what the packets of the other end
carry. An end that calls `write` again only once all earlier bytes are in packets, as it does
when it awaits its calls, puts its bytes into packets in order. So what one end reads is a
beginning of what the other end has written.
-/

namespace Utp

open Async (Chain Config TaskSystem Trace)

namespace World

/-- What was handed to reads, and what waits for the next ones. -/
def incoming (world : World) : Bytes :=
  world.conn.recvBuffer.taken ++ world.conn.recvBuffer.buffer

/-- What the packets carry that the connection has built. -/
def cut (world : World) : Bytes := world.conn.created.flatMap UtpPacket.payload

/-- Reads take from the front of what was appended, and leave the rest. -/
theorem begun_keeps {self : Nat} {utp : UtpSocket} {isInitiator : Bool} {remoteAddr : UtpAddr}
    {sendId recvId seqNr ackNr : Nat} {world : World}
    (hkeeps : (begun self utp isInitiator remoteAddr sendId recvId seqNr
      ackNr).conn.recvBuffer.Keeps
      world.conn.recvBuffer) : world.incoming = world.conn.recvBuffer.appended := by
  obtain ⟨more, happended, hbytes⟩ := hkeeps
  cases isInitiator <;> exact hbytes.trans happended.symm

/-- A receiver that keeps to the stream of what the sender has built. -/
theorem Phase.incoming_cut {sender receiver : World} {reach : Reach} {first : Nat}
    (hphase : receiver.Phase (.built reach first sender.conn.created sender.Posted))
    (hkept : receiver.incoming = receiver.conn.recvBuffer.appended) :
    ∃ k, (k = 0 ∨ sender.Posted k) ∧
      receiver.incoming = (sender.conn.created.take k).flatMap UtpPacket.payload := by
  obtain ⟨k, hreached, happended⟩ := hphase.prefix
  rw [Stream.bytes_built] at happended
  exact ⟨k, Stream.sent_of_reached hreached, hkept.trans happended⟩

theorem take_cut (world : World) (k : Nat) :
    (world.conn.created.take k).flatMap UtpPacket.payload <+: world.cut := by
  refine ⟨(world.conn.created.drop k).flatMap UtpPacket.payload, ?_⟩
  rw [← List.flatMap_append, List.take_append_drop]
  rfl

/-- Nothing leads an established end, or an initiator, back to the responder's first state. -/
theorem Act.synRecv {receiving closing writing : Bool} {world next : World}
    (hact : Act receiving closing writing world next)
    (hstate : next.conn.localState = .CS_SYN_RECV) : world.conn.localState = .CS_SYN_RECV := by
  cases hact with
  | env henv => rwa [henv.conn] at hstate
  | beginClose => cases hstate
  | resetNow => cases hstate
  | release => cases hstate
  | forceClose => cases hstate
  | acceptHandshake => cases hstate
  | acceptFirstData => cases hstate
  | acceptFin => cases hstate
  | _ => exact hstate

/-- A receiver that may take a packet is no further than the sender. -/
theorem Phase.advanced_le {sender receiver : World} {reach : Reach} {first : Nat}
    (hphase : receiver.Phase (.built reach first sender.conn.created sender.Posted))
    {packet : UtpPacket} (haccepts : receiver.Accepts packet) :
    receiver.conn.advanced ≤ sender.conn.created.length := by
  cases hphase with
  | good hgood =>
      rcases Stream.sent_of_reached hgood.reached with
        hzero | ⟨index, hindex, datagram, -, hcreated⟩
      · omega
      · have hlt := (List.getElem?_eq_some_iff.mp hcreated).1
        omega
  | void hgone =>
      rcases haccepts with ⟨-, hstate⟩ | ⟨-, hstate, -⟩
      · exact absurd hstate hgone.1.2
      · exact absurd hstate hgone.2
  | fresh hconnected hreceived =>
      rcases haccepts with ⟨-, hstate⟩ | ⟨-, hstate, -⟩
      · exact absurd hstate hreceived
      · exact absurd hstate hconnected

/-- Data and FIN packets that are heard are copies of packets that were built. -/
theorem Recorded.carries_heard {sender : World} {first sendId : Nat} {syn packet : UtpPacket}
    (hsender : sender.Recorded first sendId syn) (hheard : Heard sender.utp.sent packet)
    (hreliable : packet.isReliable = true) :
    ∃ index < sender.conn.created.length, sender.Carries index packet := by
  obtain ⟨datagram, hdatagram, hdecodes⟩ := hheard
  have hversion : datagram.packet.version < 16 := by
    cases horiginal : datagram.packet.isReliable with
    | true =>
        rw [(hsender.shaped _ (hsender.tracked.sent datagram hdatagram horiginal)).version]
        decide
    | false =>
        rw [(hsender.said datagram hdatagram horiginal).version]
        decide
  obtain ⟨htype, -⟩ := UtpPacket.fromBytes_narrow hversion hdecodes
  have hcreated : datagram.packet ∈ sender.conn.created := by
    apply hsender.tracked.sent datagram hdatagram
    rw [UtpPacket.isReliable, ← htype]
    exact hreliable
  obtain ⟨index, hlt, hindex⟩ := List.getElem_of_mem hcreated
  exact ⟨index, hlt, datagram, hdatagram, List.getElem?_eq_some_iff.mpr ⟨hlt, hindex⟩, hdecodes⟩

/-- Before the numbers come round, all that is heard is in reach. -/
theorem timely_of_short {sender receiver : World} {first sendId count : Nat}
    {syn packet : UtpPacket}
    (hcount : count < 65536) (hsender : sender.Recorded first sendId syn)
    (hlength : sender.conn.created.length ≤ count)
    (hphase : receiver.Phase (.built (.among count hcount) first sender.conn.created sender.Posted))
    (hheard : Heard sender.utp.sent packet)
    (hfirst : receiver.conn.localState = .CS_SYN_RECV → packet.type = .ST_DATA →
      packet.seqNr = first % 65536) :
    Timely (.among count hcount) sender receiver packet := by
  intro haccepts
  have hadvanced := hphase.advanced_le haccepts
  have hreliable : packet.isReliable = true := by
    rcases haccepts with ⟨htype, -⟩ | ⟨hreliable, -⟩
    · rw [UtpPacket.isReliable, htype]
      rfl
    · exact hreliable
  obtain ⟨index, hlt, hcarries⟩ := hsender.carries_heard hheard hreliable
  refine ⟨index, hcarries, ⟨by omega, by omega, by omega⟩, fun hstate => ?_⟩
  obtain ⟨_, -, -, hseqNr⟩ := hsender.carries hcarries
  rcases haccepts with ⟨htype, -⟩ | ⟨-, hconnected, -⟩
  · have hnumber := hfirst hstate htype
    omega
  · cases hstate.symm.trans hconnected

end World

namespace Party

/-- All bytes that were passed to `write` are in packets. -/
def Flushed (party : Party) : Prop := party.state.cut = party.written

instance (party : Party) : Decidable party.Flushed :=
  inferInstanceAs (Decidable (party.state.cut = party.written))

/-- The end has a history in which its calls of `write` follow one another. -/
def Historic (party : Party) : Prop :=
  ∃ self utp isInitiator remoteAddr sendId recvId seqNr ackNr, seqNr < 65536 ∧
    ∃ trace share latest left, (connSystem anyLabel anyPacket).Traced
        (World.connecting self utp isInitiator remoteAddr sendId recvId seqNr ackNr) trace ∧
      trace.config.untag = party.config ∧
      World.InTurn party.written trace share latest left

theorem Historic.start (self : Nat) (utp : UtpSocket) (isInitiator : Bool) (remoteAddr : UtpAddr)
    (sendId recvId : Nat) {seqNr : Nat} (ackNr : Nat) (hseqNr : seqNr < 65536) :
    Historic ⟨World.connectTo self utp isInitiator remoteAddr sendId recvId seqNr ackNr, []⟩ := by
  obtain ⟨share, latest, left, hturn⟩ :=
    World.InTurn.start self utp isInitiator remoteAddr sendId recvId seqNr ackNr
  exact ⟨self, utp, isInitiator, remoteAddr, sendId, recvId, seqNr, ackNr, hseqNr, _, share,
    latest, left, .refl, World.connecting_untag, hturn⟩

/-- A call of `write` comes when the end is flushed, so that nothing is left of the last one. -/
theorem Historic.step {terms : Terms} {handed : UtpPacket → Prop} {party next : Party}
    (hparty : party.Historic) (hready : terms.ready party → party.Flushed)
    (hstep : party.Step terms handed next) : next.Historic := by
  obtain ⟨self, utp, isInitiator, remoteAddr, sendId, recvId, seqNr, ackNr, hseqNr, trace, share,
    latest, left, htraced, hconfig, hturn⟩ := hparty
  have hstate : trace.config.state = party.state := congrArg Config.state hconfig
  cases hstep with
  | write data hresolved hterms =>
      have hnothing : left = [] := by
        have hcut := World.carried_created hseqNr htraced
        have hflushed : party.state.cut = party.written := hready hterms
        rw [hstate] at hcut
        have hwritten := hturn.written
        rw [hcut, ← hflushed] at hwritten
        exact List.append_right_eq_self.mp hwritten
      obtain ⟨share, latest, left, hnext⟩ :=
        hturn.launch .write (World.write_contributes data) (.inl hnothing)
      refine ⟨self, utp, isInitiator, remoteAddr, sendId, recvId, seqNr, ackNr, hseqNr, _, share,
        latest, left, htraced.launch ⟨trivial, .write data (hstate ▸ hresolved)⟩ nofun, ?_, hnext⟩
      rw [← hconfig]
      exact Config.untag_launch _ _ _ _
  | @other config hstep =>
      rw [← hconfig] at hstep
      cases hstep with
      | @launch label task hspawn hfree =>
          have hspawns : Spawns anyPacket trace.config.state label task :=
            hspawn.2.mono fun _ _ => trivial
          obtain ⟨share, latest, left, hnext⟩ :=
            hturn.launch label (World.spawns_contributes hspawns hspawn.1) (.inr rfl)
          rw [List.append_nil] at hnext
          refine ⟨self, utp, isInitiator, remoteAddr, sendId, recvId, seqNr, ackNr, hseqNr, _,
            share, latest, left, htraced.launch ⟨trivial, hspawns⟩ ?_,
            Config.untag_launch _ _ _ _, hnext⟩
          intro hexclusive other hother
          exact hfree hexclusive _ (List.mem_map.mpr ⟨other, hother, rfl⟩)
      | resume position =>
          obtain ⟨left, hnext⟩ := hturn.resume position
          exact ⟨self, utp, isInitiator, remoteAddr, sendId, recvId, seqNr, ackNr, hseqNr, _, share,
            latest, left, htraced.resume position, TaskSystem.untag_record _ _, hnext⟩
      | env henv =>
          exact ⟨self, utp, isInitiator, remoteAddr, sendId, recvId, seqNr, ackNr, hseqNr, _, share,
            latest, left, htraced.env henv.toEnvironment, rfl, hturn.move henv.conn⟩

/-- What is in packets is a beginning of what was written. -/
theorem Historic.cut {party : Party} (hparty : party.Historic) :
    party.state.cut <+: party.written := by
  obtain ⟨self, utp, isInitiator, remoteAddr, sendId, recvId, seqNr, ackNr, hseqNr, trace, share,
    latest, left, htraced, hconfig, hturn⟩ := hparty
  have hstate : trace.config.state = party.state := congrArg Config.state hconfig
  have hcut := World.carried_created hseqNr htraced
  rw [hstate] at hcut
  have hbegins := hturn.cut
  rw [hcut] at hbegins
  exact hbegins

end Party

namespace Pair

variable {setup : Setup} {pair : Pair} {responder : Party} {reach : Reach} {ready : Party → Prop}

/-- The runs in which packets are timely, and in which `write` is called when an end is
`ready`. -/
inductive Timed (reach : Reach) (setup : Setup) (ready : Party → Prop) : Pair → Prop
  | connect (self : Nat) (utp : UtpSocket) : Timed reach setup ready ⟨setup.connect self utp, none⟩
  | step {pair next : Pair} (hrun : Timed reach setup ready pair)
      (hstep : pair.Step setup { pair.timely reach with ready := ready } next) :
      Timed reach setup ready next

theorem Timed.reachable (hrun : Timed reach setup ready pair) :
    Reachable setup anyTerms pair := by
  induction hrun with
  | connect self utp => exact .connect self utp
  | step _ hstep ih => exact ih.step hstep.any

theorem Timed.streaming (hrun : Timed reach setup ready pair) : pair.Streaming reach setup := by
  induction hrun with
  | connect self utp => exact .start _ _ self utp
  | step hrun hstep ih =>
      apply ih.timely_step hrun.reachable _ hstep
      exact fun _ _ => id

/-- Neither end loses or invents a byte between its receive buffer and its reads. -/
theorem Ends.incoming (hends : pair.Ends setup) :
    pair.initiator.state.incoming = pair.initiator.state.conn.recvBuffer.appended ∧
      ∀ responder, pair.responder = some responder →
        responder.state.incoming = responder.state.conn.recvBuffer.appended := by
  have hkeeps : ∀ {start world : World}, Chain (World.Act true true true) start world →
      start.conn.recvBuffer.Keeps world.conn.recvBuffer := fun hchain =>
    World.buffer_of_chain _ (fun _ _ htouches => htouches.keeps) hchain (.refl _)
  refine ⟨?_, fun responder hresponder => ?_⟩
  · obtain ⟨self, utp, hrun⟩ := hends.initiator
    exact World.begun_keeps (hkeeps (World.party_acts (by decide) hrun))
  · obtain ⟨self, utp, packet, -, -, -, hrun⟩ := hends.responder responder hresponder
    exact World.begun_keeps (hkeeps (World.party_acts setup.seqNr_lt hrun))

/-- Where packets are timely, what an end has read, with what waits in its buffer, is what the
first so many packets of the other end carry, the last of which is in the network. -/
theorem incoming_packets (hrun : Timed reach setup ready pair)
    (hresponder : pair.responder = some responder) :
    (∃ k, (k = 0 ∨ pair.initiator.state.Posted k) ∧ responder.state.incoming =
      (pair.initiator.state.conn.created.take k).flatMap UtpPacket.payload) ∧
    ∃ k, (k = 0 ∨ responder.state.Posted k) ∧ pair.initiator.state.incoming =
      (responder.state.conn.created.take k).flatMap UtpPacket.payload := by
  obtain ⟨hkept, hkept'⟩ := (ends hrun.reachable).incoming
  have hstreaming := hrun.streaming
  have hresponder' : responder.state.Phase (.built reach 2 pair.initiator.state.conn.created
      pair.initiator.state.Posted) :=
    (hstreaming.responder responder hresponder _ _ ⟨List.prefix_rfl, fun _ => id⟩).inv.2
  have hinitiator : pair.initiator.state.Phase (.built reach setup.seqNr
      responder.state.conn.created responder.state.Posted) := by
    refine (hstreaming.initiator _ _ fun other hother => ?_).inv.2
    cases hresponder.symm.trans hother
    exact ⟨List.prefix_rfl, fun _ => id⟩
  exact ⟨hresponder'.incoming_cut (hkept' responder hresponder), hinitiator.incoming_cut hkept⟩

/-- Both ends have histories in which their calls of `write` follow one another. -/
theorem Timed.historic (hrun : Timed reach setup Party.Flushed pair) :
    pair.initiator.Historic ∧
      ∀ responder, pair.responder = some responder → responder.Historic := by
  induction hrun with
  | connect self utp =>
      refine ⟨.start _ _ _ _ _ _ _ (by decide), fun _ hnone => ?_⟩
      cases hnone
  | step _ hstep ih =>
      cases hstep with
      | answer self utp packet hfirst hheard htype hopen =>
          refine ⟨ih.1, fun responder hresponder => ?_⟩
          cases hresponder
          exact .start _ _ _ _ _ _ _ setup.seqNr_lt
      | initiator hstep => exact ⟨ih.1.step id hstep, ih.2⟩
      | responder hresponder hstep =>
          refine ⟨ih.1, fun other hother => ?_⟩
          cases hother
          exact (ih.2 _ hresponder).step id hstep

/-- Both ends read a beginning of what the other one wrote: the packets that were taken are cut
from it in order. -/
theorem Timed.conveys (hrun : Timed reach setup Party.Flushed pair)
    (hresponder : pair.responder = some responder) :
    responder.state.incoming <+: pair.initiator.written ∧
      pair.initiator.state.incoming <+: responder.written := by
  obtain ⟨⟨k, -, hk⟩, l, -, hl⟩ := incoming_packets hrun hresponder
  obtain ⟨hinitiator, hhistoric⟩ := hrun.historic
  refine ⟨?_, ?_⟩
  · rw [hk]
    exact (World.take_cut _ k).trans hinitiator.cut
  · rw [hl]
    exact (World.take_cut _ l).trans (hhistoric responder hresponder).cut

/-- Where packets are timely and an end writes more only once all earlier bytes are in
packets: what an end has read, with what waits in its buffer, is a beginning of what was
written at the other end. -/
theorem incoming_written (hrun : Timed reach setup Party.Flushed pair)
    (hresponder : pair.responder = some responder) :
    responder.state.incoming <+: pair.initiator.written ∧
      pair.initiator.state.incoming <+: responder.written :=
  hrun.conveys hresponder

/-! ## Streams that end before the numbers come round -/

/-- The first data packet that establishes an end is the first of the stream. -/
def inOrder (ready : Party → Prop) : Terms where
  fresh world packet :=
    packet.type = .ST_DATA → world.conn.localState = .CS_SYN_RECV → packet.seqNr = 2
  ready := ready

/-- Neither end has built more than `count` packets. -/
def Short (count : Nat) (pair : Pair) : Prop :=
  pair.initiator.state.conn.created.length ≤ count ∧ ∀ responder, pair.responder = some responder →
    responder.state.conn.created.length ≤ count

theorem Short.earlier {count : Nat} {next : Pair} (hnext : next.Short count)
    (hrun : Reachable setup anyTerms pair) {terms : Terms} (hstep : pair.Step setup terms next) :
    pair.Short count := by
  have hends := ends hrun
  cases hstep with
  | answer self utp packet hfirst =>
      refine ⟨hnext.1, fun responder hresponder => ?_⟩
      rw [hfirst] at hresponder
      cases hresponder
  | initiator hstep =>
      exact ⟨(hends.initiator_grows hstep).created.length_le.trans hnext.1, hnext.2⟩
  | responder hresponder hstep =>
      refine ⟨hnext.1, fun responder hresponder' => ?_⟩
      cases hresponder.symm.trans hresponder'
      exact (hends.responder_grows hresponder hstep).created.length_le.trans (hnext.2 _ rfl)

theorem Ends.initiator_synRecv (hends : pair.Ends setup) :
    pair.initiator.state.conn.localState ≠ .CS_SYN_RECV := by
  obtain ⟨self, utp, hrun⟩ := hends.initiator
  have hkeeps : ∀ start target : World, start.conn.localState ≠ .CS_SYN_RECV →
      World.Act true true true start target → target.conn.localState ≠ .CS_SYN_RECV :=
    fun _ _ hstart hact htarget => hstart (hact.synRecv htarget)
  apply (World.party_acts (by decide) hrun).preserves hkeeps
  intro hstate
  cases hstate

/-- In such a run every packet is timely, whatever the network does. -/
theorem Timed.of_short {count : Nat} (hcount : count < 65536)
    (hrun : Reachable setup (inOrder ready) pair) (hshort : pair.Short count) :
    Timed (.among count hcount) setup ready pair := by
  induction hrun with
  | connect self utp => exact .connect self utp
  | @step pair next hrun hstep ih =>
      have hbefore := hshort.earlier hrun.any hstep
      have htimed := ih hbefore
      apply htimed.step
      have hends := ends hrun
      obtain ⟨_, -, -, hinitiator⟩ := hends.initiator_regular
      cases hstep with
      | answer self utp packet hfirst hheard htype hopen =>
          exact .answer self utp packet hfirst hheard htype hopen
      | initiator hstep =>
          refine .initiator (hstep.handed_mono ?_ id)
          rintro packet ⟨responder, hresponder, hhanded⟩ -
          intro peer hpeer
          have hrole : pair.initiator.state.conn.isInitiator = true := by
            obtain ⟨_, hwired⟩ := hinitiator.wired
            exact hwired.isInitiator
          rw [opposite, if_pos hrole, hresponder] at hpeer
          obtain rfl := Option.some.inj hpeer
          obtain ⟨⟨_, hregular⟩, -⟩ := hends.responder_regular hresponder
          apply World.timely_of_short hcount hregular.moving.inv
            (hbefore.2 _ hresponder) _ hhanded.1
          · intro hstate
            exact absurd hstate hends.initiator_synRecv
          · refine (htimed.streaming.initiator _ _ fun other hother => ?_).inv.2
            cases hresponder.symm.trans hother
            exact ⟨List.prefix_rfl, fun _ => id⟩
      | @responder responder party hresponder hstep =>
          refine .responder hresponder (hstep.handed_mono ?_ id)
          intro packet hhanded hfirst peer hpeer
          obtain ⟨⟨_, hregular⟩, -⟩ := hends.responder_regular hresponder
          have hrole : responder.state.conn.isInitiator = false := by
            obtain ⟨_, hwired⟩ := hregular.wired
            exact hwired.isInitiator
          rw [opposite, hrole] at hpeer
          obtain rfl := Option.some.inj hpeer
          apply World.timely_of_short hcount hinitiator.moving.inv hbefore.1 _ hhanded.1
          · exact fun hstate htype => hfirst htype hstate
          · exact (htimed.streaming.responder responder hresponder _ _
              ⟨List.prefix_rfl, fun _ => id⟩).inv.2

/-- Where neither end builds as many packets as there are numbers, and the first data that
establishes the responder is the first that was sent: whatever the network loses, repeats and
reorders, what an end reads is a beginning of what was written at the other end. -/
theorem incoming_written_of_short {count : Nat} (hcount : count < 65536)
    (hrun : Reachable setup (inOrder Party.Flushed) pair) (hshort : pair.Short count)
    (hresponder : pair.responder = some responder) :
    responder.state.incoming <+: pair.initiator.written ∧
      pair.initiator.state.incoming <+: responder.written :=
  (Timed.of_short hcount hrun hshort).conveys hresponder

/-! ## A concrete run -/

/-- The handshake of the sample run, in which the initiator then writes a byte that the
responder takes. -/
theorem sampleTook_reachable : Reachable Setup.sample (inOrder Party.Flushed)
    ⟨⟨sampleWrote, [65]⟩, some ⟨sampleTook, []⟩⟩ := by
  have hsyn : Reachable Setup.sample (inOrder Party.Flushed)
      ⟨⟨(Setup.sample.connect 0 .sample).config.resumes [0, 0, 0, 0], []⟩, none⟩ :=
    (Reachable.connect 0 .sample).initiator_resumes _
  have hanswered : Reachable Setup.sample (inOrder Party.Flushed)
      ⟨⟨(Setup.sample.connect 0 .sample).config.resumes [0, 0, 0, 0], []⟩, some sampleAnswered⟩ :=
    hsyn.step (.answer 1 .sample sampleSyn rfl (@heard_arrival _ 0 _ (by decide +kernel)) rfl nofun)
  have hsynAck : Heard sampleAnswered.state.utp.sent sampleSynAck :=
    @heard_arrival _ 0 _ (by decide +kernel)
  have hconnected : Reachable Setup.sample (inOrder Party.Flushed)
      ⟨⟨sampleConnected, []⟩, some sampleAnswered⟩ := by
    refine (hanswered.step (.initiator ?_)).initiator_resumes _
    apply Party.Step.other
    apply TaskSystem.Step.launch
    · exact ⟨nofun, .receive sampleSynAck ⟨⟨_, rfl, hsynAck, nofun, nofun⟩, nofun⟩⟩
    · intro _ other hother
      rw [of_idle (by decide +kernel :
        ((Setup.sample.connect 0 .sample).config.resumes [0, 0, 0, 0]).tasks.length = 0)] at hother
      cases hother
  have hwrote : Reachable Setup.sample (inOrder Party.Flushed)
      ⟨⟨sampleWrote, [65]⟩, some sampleAnswered⟩ := by
    refine (hconnected.step (.initiator ?_)).initiator_resumes _
    exact .write [65] (by decide +kernel) (by decide +kernel : Party.Flushed ⟨sampleConnected, []⟩)
  have hfirst : Heard sampleWrote.state.utp.sent sampleFirst :=
    @heard_arrival ⟨sampleWrote, []⟩ 1 _ (by decide +kernel)
  refine (hwrote.step (.responder rfl ?_)).responder_resumes _
  apply Party.Step.other
  apply TaskSystem.Step.launch
  · exact ⟨nofun, .receive sampleFirst ⟨⟨hfirst, nofun, nofun⟩, fun _ _ => rfl⟩⟩
  · have hconnects : sampleAnswered.config.tasks.all (·.1 ≠ .receive) = true := by decide +kernel
    exact fun _ other hother => of_decide_eq_true (List.all_eq_true.mp hconnects other hother)

theorem sampleTook_short : Short 1 ⟨⟨sampleWrote, [65]⟩, some ⟨sampleTook, []⟩⟩ := by
  refine ⟨by decide +kernel, fun responder hresponder => ?_⟩
  cases hresponder
  decide +kernel

theorem incoming_written_of_short_sample :
    World.incoming sampleTook.state = [65] ∧ World.incoming sampleTook.state <+: [65] :=
  ⟨by decide +kernel, (@incoming_written_of_short _ _ _ 1 (by decide) sampleTook_reachable
    sampleTook_short rfl).1⟩

theorem incoming_written_sample :
    World.incoming sampleTook.state = [65] ∧ World.incoming sampleTook.state <+: [65] :=
  ⟨by decide +kernel, (incoming_written
    (.of_short (by decide : 1 < 65536) sampleTook_reachable sampleTook_short) rfl).1⟩

end Pair

end Utp
