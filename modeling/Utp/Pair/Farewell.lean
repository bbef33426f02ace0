import Utp.Pair.Agreement

/-! # One FIN each way

A FIN is built once at most, is sent in the turn that builds it, and is the same packet whenever it
is sent again. So the other end hears of one FIN only, however often the network delivers it.
-/

namespace Utp

open Async (Config TaskSystem)

namespace World

variable {first sendId : Nat} {syn packet : UtpPacket} {world : World}

/-- What is heard of the FIN of a connection. -/
structure Farewell (first : Nat) (world : World) : Prop where
  unique : ∀ packet other, Heard world.utp.sent packet → Heard world.utp.sent other →
    packet.type = .ST_FIN → other.type = .ST_FIN → packet = other
  built : ∀ packet, Heard world.utp.sent packet → packet.type = .ST_FIN →
    ∃ fin index, world.conn.localFinPacket = some fin ∧ world.conn.created[index]? = some fin ∧
      packet.seqNr = (first + index) % 65536 ∧ UtpPacket.fromBytes fin.toBytes = .ok packet
  sent : world.utp.state ≠ .CLOSED → ∀ fin, world.conn.localFinPacket = some fin →
    ∃ datagram ∈ world.utp.sent, datagram.packet = fin

/-- Every FIN that is sent is the one that was built. -/
theorem Recorded.sent_fin (hworld : world.Recorded first sendId syn) {datagram : Datagram}
    (hdatagram : datagram ∈ world.utp.sent) (htype : datagram.packet.type = .ST_FIN) :
    world.conn.localFinPacket = some datagram.packet := by
  have hreliable : datagram.packet.isReliable = true := by
    rw [UtpPacket.isReliable, htype]
    rfl
  have hmem : datagram.packet ∈ world.conn.created.filter fun packet => packet.type = .ST_FIN :=
    List.mem_filter.mpr ⟨hworld.tracked.sent datagram hdatagram hreliable, decide_eq_true htype⟩
  rw [hworld.fins] at hmem
  exact Option.mem_toList.mp hmem

theorem Recorded.heard_fin (hworld : world.Recorded first sendId syn)
    (hheard : Heard world.utp.sent packet) (htype : packet.type = .ST_FIN) :
    ∃ fin, world.conn.localFinPacket = some fin ∧ UtpPacket.fromBytes fin.toBytes = .ok packet := by
  obtain ⟨datagram, hdatagram, hdecodes⟩ := hheard
  have hsame := (UtpPacket.fromBytes_narrow (hworld.version_lt hdatagram) hdecodes).1
  exact ⟨datagram.packet, hworld.sent_fin hdatagram (hsame.symm.trans htype), hdecodes⟩

theorem Recorded.farewell (hworld : world.Recorded first sendId syn) (hpaid : world.Paid) :
    Farewell first world where
  unique packet other hpacket hother htype htype' := by
    obtain ⟨fin, hfin, hdecodes⟩ := hworld.heard_fin hpacket htype
    obtain ⟨fin', hfin', hdecodes'⟩ := hworld.heard_fin hother htype'
    cases hfin.symm.trans hfin'
    exact Except.ok.inj (hdecodes.symm.trans hdecodes')
  built packet hpacket htype := by
    obtain ⟨fin, hfin, hdecodes⟩ := hworld.heard_fin hpacket htype
    have hmem : fin ∈ world.conn.created := by
      apply List.mem_of_mem_filter (p := fun packet => packet.type = .ST_FIN)
      rw [hworld.fins, hfin]
      exact List.mem_singleton.mpr rfl
    obtain ⟨index, hindex⟩ := List.mem_iff_getElem?.mp hmem
    have hversion : fin.version < 16 := by
      rw [(hworld.shaped fin hmem).version]
      decide
    have hseqNr := (UtpPacket.fromBytes_narrow hversion hdecodes).2.2.1
    refine ⟨fin, index, hfin, hindex, ?_, hdecodes⟩
    rw [hseqNr, hworld.tracked.numbered index fin hindex, Nat.mod_mod]
  sent hopen := hpaid.resolve_left hopen

end World

namespace Pair

variable {setup : Setup} {terms : Terms} {pair : Pair} {responder : Party}

/-- However the network loses, repeats and reorders: each end hears of one FIN at most, which is the
packet that the other end has built, under the number of its turn, and has sent. -/
theorem farewells (hrun : Reachable setup terms pair)
    (hresponder : pair.responder = some responder) :
    World.Farewell 2 pair.initiator.state ∧ World.Farewell setup.seqNr responder.state := by
  have hends := ends hrun
  obtain ⟨_, -, -, hinitiator⟩ := hends.initiator_regular
  obtain ⟨⟨_, hregular⟩, -⟩ := hends.responder_regular hresponder
  exact ⟨hinitiator.moving.inv.farewell hinitiator.paid,
    hregular.moving.inv.farewell hregular.paid⟩

/-- The initiator of the sample run closes. -/
theorem farewells_sample : ∃ fin,
    (arrival ⟨sampleConnected.launch .close UtpConn.close, []⟩ 1) = some fin ∧
      fin.type = .ST_FIN ∧ ∀ other,
        Heard (sampleConnected.launch .close UtpConn.close).state.utp.sent other →
          other.type = .ST_FIN → other = fin := by
  have hconnected := sampleConnected_reachable anyTerms fun _ _ => trivial
  have hclosed : Reachable Setup.sample anyTerms
      ⟨⟨sampleConnected.launch .close UtpConn.close, []⟩, some sampleAnswered⟩ := by
    apply hconnected.step
    exact .initiator (.other (.launch ⟨nofun, .close⟩ nofun))
  have harrives : (arrival ⟨sampleConnected.launch .close UtpConn.close, []⟩ 1).any
      (fun fin => fin.type = .ST_FIN) = true := by decide +kernel
  obtain ⟨fin, hfin, htype⟩ := Option.any_eq_true .. |>.mp harrives
  refine ⟨fin, hfin, of_decide_eq_true htype, fun other hother hsame => ?_⟩
  exact (farewells hclosed rfl).1.unique other fin hother (heard_arrival hfin) hsame
    (of_decide_eq_true htype)

end Pair

end Utp
