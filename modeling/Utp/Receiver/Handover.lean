import Utp.Receiver.Handler

/-! # Keeping to a stream from the handshake on

The answer to the SYN tells the initiator where the stream begins; the responder knows it
from the SYN, and is established by the first packet. From there on a packet has to be live
when it is handed over.
-/

namespace Utp

namespace World

variable {stream : Stream} {world : World} {packet : UtpPacket}

/-- What a packet has to be, when it is handed over, for the receiver to keep to the
stream. Packets that the receiver ignores may be anything. -/
structure Suits (stream : Stream) (world : World) (packet : UtpPacket) : Prop where
  synSent : packet.type = .ST_STATE → world.conn.localState = .CS_SYN_SENT →
    Seq.add packet.seqNr (-1) = stream.number 0
  synRecv : packet.type = .ST_DATA → world.conn.localState = .CS_SYN_RECV →
    stream.live 0 1 ∧ packet.payload = stream.payload 1 ∧ packet.seqNr = stream.number 1
  connected : packet.isReliable = true → world.conn.localState = .CS_CONNECTED →
    world.conn.isRefused packet = false → ∃ i, stream.live world.conn.advanced i ∧
      packet.payload = stream.payload i ∧ packet.seqNr = stream.number i

/-- The handshake of the initiator begins the stream. -/
theorem Phase.acceptHandshake (hphase : world.Phase stream)
    (hstate : world.conn.localState = .CS_SYN_SENT) {ackNr : Nat}
    (hackNr : ackNr = stream.number 0) :
    (world.acceptHandshake ackNr).Phase stream ∧ (world.acceptHandshake ackNr).Settled := by
  cases hphase with
  | good hgood => exact absurd hstate hgood.accepted
  | void hgone => exact absurd hstate hgone.1.1
  | fresh _ _ hempty hadvanced happended =>
      refine ⟨.good ⟨?_, ?_, ?_, ?_, nofun, nofun⟩, settled_of_empty hempty⟩
      · have hnone : (world.acceptHandshake ackNr).conn.advanced = 0 := hadvanced
        rw [hnone, hackNr]
        exact Nat.mod_eq_of_lt (Nat.mod_lt _ (by decide))
      · have hnone : (world.acceptHandshake ackNr).conn.advanced = 0 := hadvanced
        rw [hnone]
        exact happended
      · have hnone : (world.acceptHandshake ackNr).conn.advanced = 0 := hadvanced
        rw [hnone]
        exact stream.zero
      · intro key other hother
        have hqueue : (world.acceptHandshake ackNr).conn.recvPacketQueue.items = ∅ := hempty
        rw [hqueue] at hother
        cases hother

/-- The responder is established by the first packet of the stream. -/
theorem Phase.acceptFirstData (hphase : world.Phase stream)
    (hstate : world.conn.localState = .CS_SYN_RECV) (hlive : stream.live 0 1)
    (hpayload : packet.payload = stream.payload 1) (hseqNr : packet.seqNr = stream.number 1) :
    ((world.acceptFirstData packet.seqNr).append packet.payload).Phase stream ∧
      ((world.acceptFirstData packet.seqNr).append packet.payload).Settled := by
  cases hphase with
  | void hgone => exact absurd hstate hgone.1.2
  | fresh _ hreceived => exact absurd hstate hreceived
  | good hgood =>
      obtain ⟨hadvanced, hempty⟩ := hgood.waiting hstate
      have hone : ((world.acceptFirstData packet.seqNr).append packet.payload).conn.advanced = 1 :=
        congrArg (· + 1) hadvanced
      refine ⟨.good ⟨?_, ?_, ?_, ?_, nofun, nofun⟩, settled_of_empty hempty⟩
      · rw [hone, hseqNr]
        exact Nat.mod_eq_of_lt (Nat.mod_lt _ (by decide))
      · have happended := hgood.appended
        rw [hadvanced] at happended
        rw [hone, Stream.bytes, ← happended, ← hpayload]
        rfl
      · rw [hone]
        exact stream.arrived 0 stream.zero hlive
      · intro key other hother
        have hqueue : ((world.acceptFirstData packet.seqNr).append
          packet.payload).conn.recvPacketQueue.items =
            ∅ := hempty
        rw [hqueue] at hother
        cases hother

theorem Suits.receive {first : Nat} {closing : Bool} (htracked : world.Tracked first)
    (hphase : world.Phase stream) (hsettled : world.Settled) (hsuits : world.Suits stream packet) :
    (Async.discard (UtpConn.handleIncomingPacket packet)).Meets
      ((outline closing true first (Phase stream)).contract .receive)
      ((outline closing true first (Phase stream)).post .receive) world world := by
  refine receive_meets htracked (handleIncomingPacket_meets
    (tolerant_quietly fun _ _ hphase => hphase.aside) hphase hsettled
    fun later hlater haside hsame => ⟨fun htype hstate => ?_, fun htype hstate _ => ?_,
      fun hstate hreliable hrefused => ?_⟩)
  · have hbefore : world.conn.localState = .CS_SYN_SENT :=
      haside.state.elim (fun h => h.symm.trans hstate) fun hgone => absurd hstate hgone.1.1
    exact hlater.acceptHandshake hstate (hsuits.synSent htype hbefore)
  · obtain rfl := hsame (by simp [htype])
    obtain ⟨hlive, hpayload, hseqNr⟩ := hsuits.synRecv htype hstate
    exact hlater.acceptFirstData hstate hlive hpayload hseqNr
  · have htype : packet.type ≠ .ST_STATE := fun h => by simp [UtpPacket.isReliable, h] at hreliable
    obtain rfl := hsame htype
    exact (hlater.connected hstate).takes hstate (hsuits.connected hreliable hstate hrefused)
      fun _ _ hnext _ => hnext

/-- Any number of tasks keep the receiver to the stream. -/
theorem phase_sound (first : Nat) (stream : Stream) :
    (outline true true first (Phase stream)).Sound (connSystem anyLabel (Suits stream)) := by
  apply outline_sound
  · exact fun _ _ _ => rfl
  · rintro ⟨⟩
  · exact fun _ _ hphase hact => hphase.aside hact.aside
  · exact fun _ _ htracked hphase hsettled hsuits => hsuits.receive htracked hphase hsettled

/-! ## Before the handshake -/

section Start

variable {self : Nat} {utp : UtpSocket} {remoteAddr : UtpAddr} {sendId recvId seqNr ackNr : Nat}

theorem initiator_phase (hseqNr : seqNr < 65536) (hearlier : stream.earlier = []) :
    (outline true true (firstSeqNr true seqNr) (Phase stream)).Holds
    (connSystem anyLabel (Suits stream))
      (connectTo self utp true remoteAddr sendId recvId seqNr ackNr) := by
  refine connectTo_holds hseqNr (phase_sound _ stream)
    (fun _ _ hphase hact => hphase.aside hact.aside)
    (.fresh nofun nofun rfl rfl ?_) (settled_of_empty rfl)
  rw [hearlier]
  rfl

theorem responder_phase (hseqNr : seqNr < 65536) (hearlier : stream.earlier = [])
    (hackNr : ackNr = stream.number 0) :
    (outline true true (firstSeqNr false seqNr) (Phase stream)).Holds
    (connSystem anyLabel (Suits stream))
      (connectTo self utp false remoteAddr sendId recvId seqNr ackNr) := by
  refine connectTo_holds hseqNr (phase_sound _ stream)
    (fun _ _ hphase hact => hphase.aside hact.aside)
    (.good ⟨?_, ?_, stream.zero, Stream.holds_empty _, nofun, fun _ => ⟨rfl, rfl⟩⟩)
    (settled_of_empty rfl)
  · exact hackNr
  · exact hearlier.symm

end Start

end World

end Utp
