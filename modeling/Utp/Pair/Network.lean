import Utp.Pair.Party
import Utp.Socket.Robustness
import Utp.Wire.Codec

/-! # Two ends and the network between them

One end connects, the other answers its SYN. The network may deliver any datagram that was
ever sent, at any time, any number of times, or never.
-/

namespace Utp

open Async (Chain Config TaskSystem)

/-- An end of the connection, with all bytes that its `write` has been called with. -/
structure Party where
  config : Config World Label
  written : Bytes

/-- A packet that may arrive: a datagram of the other end decodes to it. -/
def Heard (sent : List Datagram) (packet : UtpPacket) : Prop :=
  ∃ datagram ∈ sent, UtpPacket.fromBytes datagram.packet.toBytes = .ok packet

/-- A packet that `dispatch` hands to the connection. A SYN finds the connection and is
dropped, and on a RESET the socket calls `reset`, which may happen at any time. -/
def Handed (sent : List Datagram) (packet : UtpPacket) : Prop :=
  Heard sent packet ∧ packet.type ≠ .ST_SYN ∧ packet.type ≠ .ST_RESET

/-- What a run is restricted to: which packets are handed to a connection in a state, and
when an end may call `write`. -/
structure Terms where
  fresh : World → UtpPacket → Prop
  ready : Party → Prop

/-- Every run. -/
def anyTerms : Terms := ⟨fun _ _ => True, fun _ => True⟩

namespace Party

def state (party : Party) : World := party.config.state

/-- A call of `write`, or anything else that one end does. -/
inductive Step (terms : Terms) (handed : UtpPacket → Prop) (party : Party) : Party → Prop
  | write (data : Bytes) (hresolved : party.state.conn.connecting = .resolved)
      (hready : terms.ready party) :
      Step terms handed party
        ⟨party.config.launch .write (Async.discard (UtpConn.write data)), party.written ++ data⟩
  | other {config : Config World Label}
      (hstep : (partySystem (· ≠ .write) fun world packet =>
        handed packet ∧ terms.fresh world packet).Step party.config config) :
      Step terms handed party ⟨config, party.written⟩

end Party

/-- The ends, the responder once it has answered the SYN. -/
structure Pair where
  initiator : Party
  responder : Option Party

/-- The addresses, the receive id that the initiator draws, and the sequence number that the
responder draws. -/
structure Setup where
  initiatorAddr : UtpAddr
  responderAddr : UtpAddr
  drawn : Fin 65535
  seqNr : Nat
  seqNr_lt : seqNr < 65536

namespace Setup

/-- `connect` -/
def connect (setup : Setup) (self : Nat) (utp : UtpSocket) : Party :=
  ⟨World.connectTo self utp true setup.responderAddr (setup.drawn + 1) setup.drawn 1 0, []⟩

/-- `dispatch` of a SYN for which there is no connection. -/
def answer (setup : Setup) (self : Nat) (utp : UtpSocket) (packet : UtpPacket) : Party :=
  ⟨World.connectTo self utp false setup.initiatorAddr packet.connId (packet.connId + 1)
    setup.seqNr packet.seqNr, []⟩

end Setup

namespace Pair

/-- What may be handed to the initiator. -/
def ToInitiator (pair : Pair) (packet : UtpPacket) : Prop :=
  ∃ responder, pair.responder = some responder ∧ Handed responder.state.utp.sent packet

/-- The steps of the two ends. A socket dispatches packets as long as it is not closed. -/
inductive Step (setup : Setup) (terms : Terms) (pair : Pair) : Pair → Prop
  | answer (self : Nat) (utp : UtpSocket) (packet : UtpPacket) (hfirst : pair.responder = none)
      (hheard : Heard pair.initiator.state.utp.sent packet) (htype : packet.type = .ST_SYN)
      (hopen : utp.state ≠ .CLOSED) :
      Step setup terms pair { pair with responder := some (setup.answer self utp packet) }
  | initiator {party : Party} (hstep : pair.initiator.Step terms pair.ToInitiator party) :
      Step setup terms pair { pair with initiator := party }
  | responder {responder party : Party} (hresponder : pair.responder = some responder)
      (hstep : responder.Step terms (Handed pair.initiator.state.utp.sent) party) :
      Step setup terms pair { pair with responder := some party }

/-- The pairs that the initiator's `connect` leads to. -/
inductive Reachable (setup : Setup) (terms : Terms) : Pair → Prop
  | connect (self : Nat) (utp : UtpSocket) :
      Reachable setup terms ⟨setup.connect self utp, none⟩
  | step {pair next : Pair} (hrun : Reachable setup terms pair)
      (hstep : pair.Step setup terms next) : Reachable setup terms next

end Pair

/-! ## What the network leaves of a packet -/

namespace UtpPacket

/-- The header comes back narrowed. -/
theorem fromBytes_fields {self packet : UtpPacket} (hversion : self.version < 16)
    (hdecodes : fromBytes self.toBytes = .ok packet) :
    ∃ extensions data, packet = { self.narrow with extensions := extensions, data := data } := by
  have hsplit : self.toBytes = self.encodeHeader ++
      (encodeExtensions self.extensions ++ self.data.getD []) := List.append_assoc _ _ _
  rw [hsplit, fromBytes_header self hversion] at hdecodes
  generalize decodeExtensions _ _ _ _ _ = chain at hdecodes
  cases chain with
  | error => cases hdecodes
  | ok result =>
      cases hdecodes
      exact ⟨_, _, rfl⟩

theorem fromBytes_narrow {self packet : UtpPacket} (hversion : self.version < 16)
    (hdecodes : fromBytes self.toBytes = .ok packet) :
    packet.type = self.type ∧ packet.connId = self.connId % 65536 ∧
      packet.seqNr = self.seqNr % 65536 ∧ packet.ackNr = self.ackNr % 65536 := by
  obtain ⟨_, _, rfl⟩ := fromBytes_fields hversion hdecodes
  exact ⟨rfl, rfl, rfl, rfl⟩

/-- The window that a datagram tells is never wider than the one of the packet. -/
theorem fromBytes_windowSize {self packet : UtpPacket} (hversion : self.version < 16)
    (hdecodes : fromBytes self.toBytes = .ok packet) : packet.windowSize ≤ self.windowSize := by
  obtain ⟨_, _, rfl⟩ := fromBytes_fields hversion hdecodes
  exact Nat.mod_le _ _

/-- A packet without extensions comes back whole. -/
theorem fromBytes_plain {self : UtpPacket} (hversion : self.version < 16)
    (hextension : self.extension = 0) (hextensions : self.extensions = [])
    (hdata : self.data ≠ some []) : fromBytes self.toBytes = .ok self.narrow := by
  apply fromBytes_toBytes self hversion ?_ ?_ hdata
  · rw [hextension, hextensions]
    rfl
  · rw [hextensions]
    exact nofun

end UtpPacket

namespace World

variable {first sendId : Nat} {syn : UtpPacket} {world : World} {packet : UtpPacket}

theorem Recorded.version_lt (hworld : world.Recorded first sendId syn) {datagram : Datagram}
    (hdatagram : datagram ∈ world.utp.sent) : datagram.packet.version < 16 := by
  cases hreliable : datagram.packet.isReliable with
  | true =>
      rw [(hworld.shaped _ (hworld.tracked.sent datagram hdatagram hreliable)).version]
      decide
  | false =>
      rw [(hworld.said datagram hdatagram hreliable).version]
      decide

/-- What is heard of an end comes from one of its packets. -/
theorem Recorded.heard (hworld : world.Recorded first sendId syn)
    (hheard : Heard world.utp.sent packet) : ∃ datagram ∈ world.utp.sent,
      packet.type = datagram.packet.type ∧ packet.connId = datagram.packet.connId % 65536 ∧
        packet.seqNr = datagram.packet.seqNr % 65536 ∧
        packet.ackNr = datagram.packet.ackNr % 65536 := by
  obtain ⟨datagram, hdatagram, hdecodes⟩ := hheard
  exact ⟨datagram, hdatagram, UtpPacket.fromBytes_narrow (hworld.version_lt hdatagram) hdecodes⟩

/-- The only SYN that is heard is the initiator's. -/
theorem Recorded.heard_syn (hworld : world.Recorded first sendId syn)
    (hheard : Heard world.utp.sent packet) (htype : packet.type = .ST_SYN) :
    packet.connId = syn.connId % 65536 ∧ packet.seqNr = syn.seqNr % 65536 := by
  obtain ⟨datagram, hdatagram, htype', hconnId, hseqNr, -⟩ := hworld.heard hheard
  have hsyn : datagram.packet.type = .ST_SYN := htype'.symm.trans htype
  have hsaid := hworld.said datagram hdatagram (by rw [UtpPacket.isReliable, hsyn]; rfl)
  obtain rfl := hsaid.only hsyn
  exact ⟨hconnId, hseqNr⟩

end World

/-! ## Each end by itself -/

theorem Party.Step.system {terms : Terms} {handed : UtpPacket → Prop} {party next : Party}
    (hstep : party.Step terms handed next) :
    (partySystem anyLabel fun _ packet => handed packet).Step party.config next.config := by
  cases hstep with
  | write data hresolved _ => exact .launch ⟨trivial, .write data hresolved⟩ nofun
  | other hstep =>
      refine TaskSystem.Step.mono ?_ ?_ ?_ hstep
      · exact fun _ _ hspawn => ⟨trivial, hspawn.2.mono fun _ hhanded => hhanded.1⟩
      · exact fun _ henv => henv
      · exact fun _ hexclusive => hexclusive

theorem Party.Step.wide {terms : Terms} {handed : UtpPacket → Prop} {party next : Party}
    (hstep : party.Step terms handed next) :
    (partySystem anyLabel anyPacket).Step party.config next.config := by
  refine TaskSystem.Step.mono ?_ ?_ ?_ hstep.system
  · exact fun _ _ hspawn => ⟨trivial, hspawn.2.mono fun _ _ => trivial⟩
  · exact fun _ henv => henv
  · exact fun _ hexclusive => hexclusive

namespace Pair

variable {setup : Setup} {terms : Terms} {pair next : Pair} {responder : Party}

/-- Whatever the other end does, each end runs as a connection with any packets. -/
structure Ends (setup : Setup) (pair : Pair) : Prop where
  initiator : ∃ self utp, (partySystem anyLabel anyPacket).Reachable
    (setup.connect self utp).config pair.initiator.config
  responder : ∀ responder, pair.responder = some responder → ∃ self utp,
    ∃ packet : UtpPacket, utp.state ≠ .CLOSED ∧ packet.connId = setup.drawn ∧ packet.seqNr = 1 ∧
      (partySystem anyLabel anyPacket).Reachable (setup.answer self utp packet).config
        responder.config

theorem Ends.initiator_regular (hends : pair.Ends setup) :
    ∃ syn : UtpPacket, syn.connId = setup.drawn ∧ syn.seqNr = 1 ∧
      World.Regular syn 2 true setup.responderAddr (setup.drawn + 1) setup.drawn
        pair.initiator.config := by
  obtain ⟨self, utp, hrun⟩ := hends.initiator
  exact ⟨_, rfl, rfl, World.party_regular (by decide) hrun⟩

theorem Ends.responder_regular (hends : pair.Ends setup)
    (hresponder : pair.responder = some responder) :
    (∃ syn, World.Regular syn setup.seqNr false setup.initiatorAddr setup.drawn (setup.drawn + 1)
      responder.config) ∧ responder.state.Emptied := by
  obtain ⟨self, utp, packet, hopen, hconnId, -, hrun⟩ := hends.responder responder hresponder
  unfold Setup.answer at hrun
  rw [hconnId] at hrun
  exact ⟨⟨_, World.party_regular setup.seqNr_lt hrun⟩,
    World.party_emptied setup.seqNr_lt hopen hrun⟩

theorem ends (hrun : Reachable setup terms pair) : pair.Ends setup := by
  induction hrun with
  | connect self utp =>
      have hstart : (partySystem anyLabel anyPacket).Reachable (setup.connect self utp).config
          (setup.connect self utp).config := .refl
      refine ⟨⟨self, utp, hstart⟩, fun _ hnone => ?_⟩
      cases hnone
  | step _ hstep ih =>
      cases hstep with
      | answer self utp packet hfirst hheard htype hopen =>
          obtain ⟨syn, hconnId, hseqNr, hregular⟩ := ih.initiator_regular
          obtain ⟨hconnId', hseqNr'⟩ := hregular.moving.inv.heard_syn hheard htype
          have hdrawn := setup.drawn.isLt
          refine ⟨ih.initiator, fun responder hresponder => ?_⟩
          cases hresponder
          exact ⟨self, utp, packet, hopen, by omega, by omega, .refl⟩
      | initiator hstep =>
          obtain ⟨self, utp, hinitiator⟩ := ih.initiator
          exact ⟨⟨self, utp, hinitiator.step hstep.wide⟩, ih.responder⟩
      | responder hresponder hstep =>
          refine ⟨ih.initiator, fun responder hresponder' => ?_⟩
          cases hresponder'
          obtain ⟨self, utp, packet, hopen, hconnId, hseqNr, hrun⟩ := ih.responder _ hresponder
          exact ⟨self, utp, packet, hopen, hconnId, hseqNr, hrun.step hstep.wide⟩

/-! ## Building runs -/

theorem Reachable.initiator_resumes {written : Bytes} {config : Config World Label}
    {other : Option Party} (hrun : Reachable setup terms ⟨⟨config, written⟩, other⟩)
    (positions : List Nat) :
    Reachable setup terms ⟨⟨config.resumes positions, written⟩, other⟩ := by
  induction positions generalizing config with
  | nil => exact hrun
  | cons position rest ih => exact ih (hrun.step (.initiator (.other (.resume position))))

theorem Reachable.responder_resumes {written : Bytes} {config : Config World Label}
    {party : Party} (hrun : Reachable setup terms ⟨party, some ⟨config, written⟩⟩)
    (positions : List Nat) :
    Reachable setup terms ⟨party, some ⟨config.resumes positions, written⟩⟩ := by
  induction positions generalizing config with
  | nil => exact hrun
  | cons position rest ih => exact ih (hrun.step (.responder rfl (.other (.resume position))))

/-- What the network leaves of the datagram at a position. -/
def arrival (party : Party) (position : Nat) : Option UtpPacket :=
  party.state.utp.sent[position]?.bind fun datagram =>
    (UtpPacket.fromBytes datagram.packet.toBytes).toOption

theorem sent_of_arrival {party : Party} {position : Nat} {packet : UtpPacket}
    (harrival : arrival party position = some packet) :
    ∃ datagram, party.state.utp.sent[position]? = some datagram ∧
      UtpPacket.fromBytes datagram.packet.toBytes = .ok packet := by
  obtain ⟨datagram, hdatagram, hdecodes⟩ := Option.bind_eq_some_iff.mp harrival
  refine ⟨datagram, hdatagram, ?_⟩
  cases hresult : UtpPacket.fromBytes datagram.packet.toBytes with
  | error =>
      rw [hresult] at hdecodes
      cases hdecodes
  | ok other =>
      rw [hresult] at hdecodes
      cases hdecodes
      rfl

theorem heard_arrival {party : Party} {position : Nat} {packet : UtpPacket}
    (harrival : arrival party position = some packet) :
    Heard party.state.utp.sent packet := by
  obtain ⟨datagram, hdatagram, hdecodes⟩ := sent_of_arrival harrival
  exact ⟨datagram, List.mem_of_getElem? hdatagram, hdecodes⟩

end Pair

end Utp
