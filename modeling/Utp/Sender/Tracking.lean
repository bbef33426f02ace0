import Utp.Conn.System

/-! # Which packets are tracked

A data or FIN packet handed to `sendUtpPacket` while the connection is
connected is in the send window before it reaches the UDP socket. In every
other state the call leaves the window alone, and so nothing retransmits it.
-/

namespace Utp

open Async (Chain Config TaskSystem)

/-- The moves that leave the send window alone. -/
def World.SameWindow (world next : World) : Prop := next.conn.sendWindow = world.conn.sendWindow

theorem udpSend_sameWindow (calledIn : Option UtpConnState) (packet : UtpPacket)
    (remoteAddr : UtpAddr) :
    (UtpSocket.sendUtpPacket calledIn packet remoteAddr).MovesAlways World.SameWindow := by
  intro world
  simp only [UtpSocket.sendUtpPacket, Async.bind_eq, Async.moves_bind, Async.moves_get]
  split
  next => trivial
  next =>
    simp only [Async.moves_bind, Async.moves_modify, Async.moves_waitUntil]
    refine ⟨rfl, fun later _ _ => ?_⟩
    split
    next => trivial
    next => split <;> trivial

theorem sendUtpPacket_sameWindow {world : World} (packet : UtpPacket)
    (hstate : world.conn.localState ≠ .CS_CONNECTED) :
    (UtpConn.sendUtpPacket packet).Moves (fun _ _ => True) World.SameWindow (fun _ _ => True)
      world := by
  simp only [UtpConn.sendUtpPacket, Async.bind_eq, Async.moves_bind, Async.moves_modify,
    Async.moves_get]
  refine ⟨rfl, ?_⟩
  split
  next => trivial
  next =>
    split
    next hregisters =>
      simp only [Bool.and_eq_true, UtpConn.isConnected, decide_eq_true_eq] at hregisters
      exact absurd hregisters.1 hstate
    next => exact (udpSend_sameWindow _ _ _).awaited _

/-- In every run, a reliable packet whose `sendUtpPacket` was called in the state
`CS_CONNECTED` is registered when it is handed to the UDP socket, from where `resend` sends it
again `RESEND_TIMES_LIMIT` times at most; a call in any other state does not touch the send
window. -/
theorem reliable_registered_of_connected {self : Nat} {utp : UtpSocket} {isInitiator : Bool}
    {remoteAddr : UtpAddr} {sendId recvId seqNr ackNr : Nat} (hseqNr : seqNr < 65536)
    {config : Config World Label}
    (hrun : (connSystem anyLabel anyPacket).Reachable
      (World.connectTo self utp isInitiator remoteAddr sendId recvId seqNr ackNr) config) :
    (∀ datagram ∈ config.state.utp.sent, datagram.packet.isReliable = true →
      datagram.calledIn = some .CS_CONNECTED → datagram.registered = true) ∧
    (∀ packet, config.state.conn.localState ≠ .CS_CONNECTED →
      (UtpConn.sendUtpPacket packet).Moves (fun _ _ => True) World.SameWindow (fun _ _ => True)
        config.state) := by
  have hmoving := World.connectTo_moving self utp isInitiator remoteAddr sendId recvId seqNr ackNr
    hseqNr
  have htracked := (connSystem_acts.reachable hmoving hrun).2.inv
  refine ⟨fun datagram hdatagram hreliable hcalled => ?_, fun packet hstate => ?_⟩
  · exact htracked.registered datagram hdatagram hcalled hreliable
  · exact sendUtpPacket_sameWindow packet hstate

theorem reliable_registered_of_connected_sample :
    (World.wroteByte.state.utp.sent.any fun datagram => datagram.packet.isReliable &&
      decide (datagram.calledIn = some .CS_CONNECTED)) = true ∧
    ∀ datagram ∈ World.wroteByte.state.utp.sent, datagram.packet.isReliable = true →
      datagram.calledIn = some .CS_CONNECTED → datagram.registered = true :=
  ⟨by decide +kernel,
    (reliable_registered_of_connected (by decide) World.wroteByte_reachable).1⟩

/-- After the handshake, `close` sends its FIN without registering it. -/
theorem close_sends_unregistered_fin :
    ¬ ∀ config, (connSystem anyLabel anyPacket).Reachable
      (World.connectTo 0 .sample true (.localhost 9000) 2 1 1 0) config →
      ∀ datagram ∈ config.state.utp.sent, datagram.packet.isReliable = true →
        datagram.calledIn.isSome = true → datagram.registered = true := by
  intro hclaim
  have hclosed := World.sample_established.step (.launch ⟨trivial, .close⟩ nofun)
  have hfin : ((World.established 0 .sample (.localhost 9000) 1 100).launch .close
      UtpConn.close).state.utp.sent.any (fun datagram => datagram.packet.isReliable &&
        datagram.calledIn.isSome && !datagram.registered) = true := by decide +kernel
  obtain ⟨datagram, hdatagram, hunregistered⟩ := List.any_eq_true.mp hfin
  simp only [Bool.and_eq_true, Bool.not_eq_true'] at hunregistered
  have hregistered := hclaim _ hclosed datagram hdatagram hunregistered.1.1 hunregistered.1.2
  rw [hunregistered.2] at hregistered
  cases hregistered

end Utp
