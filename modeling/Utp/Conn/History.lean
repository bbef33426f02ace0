import Utp.Conn.System
import Utp.Foundation.Trace

/-! # The history of a connection

A run from the creation of a connection on, with all that has been written. What the new
connection has and every act keeps, the history has: `connecting_recorded`.
-/

namespace Utp

open Async (Config TaskSystem Trace)

namespace World

/-- The history of a connection from its creation on. -/
def connecting (self : Nat) (utp : UtpSocket) (isInitiator : Bool) (remoteAddr : UtpAddr)
    (sendId recvId seqNr ackNr : Nat) : Trace World Label :=
  (Trace.start (create self utp isInitiator remoteAddr sendId recvId seqNr ackNr)).launch .connect
    UtpConn.waitForConnecting

/-- The datagram that a write hands to the UDP socket, if any. -/
def handedTo (write : World × World) : List Datagram :=
  write.2.utp.sent.drop write.1.utp.sent.length

theorem handedTo_of_same {world next : World} (hsent : next.utp.sent = world.utp.sent) :
    handedTo (world, next) = [] := by
  simp only [handedTo, hsent, List.drop_length]

/-- What is handed over is what the code knows it sends. -/
theorem Act.transmits {receiving closing writing : Bool} {world next : World}
    {datagram : Datagram} (hact : Act receiving closing writing world next)
    (hdatagram : datagram ∈ handedTo (world, next)) :
    world.Transmits datagram.calledIn datagram.packet := by
  have hnothing : ∀ {later : World}, later.utp.sent = world.utp.sent →
      datagram ∉ handedTo (world, later) := by
    intro later hsent hmem
    rw [handedTo_of_same hsent] at hmem
    cases hmem
  cases hact with
  | transmit calledIn packet remoteAddr htransmits =>
      have hsent : handedTo (world, world.transmit calledIn packet remoteAddr) =
          [⟨packet, remoteAddr, calledIn, _, _⟩] := List.drop_left
      rw [hsent] at hdatagram
      rw [List.mem_singleton.mp hdatagram]
      exact htransmits
  | env henv => exact absurd hdatagram (hnothing henv.sent)
  | _ => exact absurd hdatagram (hnothing rfl)

section History

variable {self : Nat} {utp : UtpSocket} {isInitiator : Bool} {remoteAddr : UtpAddr}
  {sendId recvId seqNr ackNr : Nat} {trace : Trace World Label}

theorem connecting_untag :
    (connecting self utp isInitiator remoteAddr sendId recvId seqNr ackNr).config.untag =
      connectTo self utp isInitiator remoteAddr sendId recvId seqNr ackNr :=
  Config.untag_launch _ _ _ _

/-- The first turn of `connectTo` takes the SYN, and only acts besides. -/
theorem connecting_writes (hseqNr : seqNr < 65536) :
    ∀ write ∈ UtpConn.waitForConnecting.writes
        (create self utp isInitiator remoteAddr sendId recvId seqNr ackNr),
      write.2 = write.1.takeSyn ∨ Act true true true write.1 write.2 := by
  have hcreated := create_tracked self utp isInitiator remoteAddr sendId recvId seqNr ackNr hseqNr
  intro write hwrite
  cases isInitiator with
  | true =>
      rcases List.mem_cons.mp hwrite with rfl | hrest
      · exact Or.inl rfl
      · exact Or.inr (Async.writes_move (sendHandshake_acts (hcreated.takeSyn rfl rfl)
          (sendable_syn _ _ _) (by intro hdata; cases hdata)) _ hrest)
  | false =>
      exact Or.inr (Async.writes_move (sendHandshake_acts hcreated (sendable_synAck rfl)
        (by intro hdata; cases hdata)) _ hwrite)

/-- What the new connection has, and neither its SYN nor any act undoes, the history has. -/
theorem connecting_recorded {keep : List (Option Nat × World × World) → World → Prop}
    (hseqNr : seqNr < 65536)
    (hrun : (connSystem anyLabel anyPacket).Traced
      (connecting self utp isInitiator remoteAddr sendId recvId seqNr ackNr) trace)
    (hcreate : keep [] (create self utp isInitiator remoteAddr sendId recvId seqNr ackNr))
    (htakeSyn : ∀ before author world, keep before world →
      keep (before ++ [(author, world, world.takeSyn)]) world.takeSyn)
    (hact : ∀ before author start target, keep before start → Act true true true start target →
      keep (before ++ [(author, start, target)]) target) :
    keep trace.writes trace.config.state := by
  have hmoving := connectTo_moving self utp isInitiator remoteAddr sendId recvId seqNr ackNr hseqNr
  apply TaskSystem.Traced.recorded hrun
  · refine @TaskSystem.writes_induction _ UtpConn.waitForConnecting
      (create self utp isInitiator remoteAddr sendId recvId seqNr ackNr)
      (fun before state => keep ([] ++ before.map fun write => (some 0, write)) state) hcreate ?_
    intro before start target hbefore hmem
    rw [List.map_append, ← List.append_assoc]
    rcases connecting_writes hseqNr _ hmem with hsyn | hacts
    · have hkept := htakeSyn _ (some 0) start hbefore
      rw [← show target = start.takeSyn from hsyn] at hkept
      exact hkept
    · exact hact _ _ _ _ hbefore hacts
  · intro before author start target hbefore hwrite
    rw [connecting_untag] at hwrite
    exact hact _ _ _ _ hbefore (connSystem_acts.write hmoving hwrite)

/-- What acts keep, a run keeps that goes on from an earlier history. -/
theorem continued_recorded {keep : List (Option Nat × World × World) → World → Prop}
    {earlier : Trace World Label} (hseqNr : seqNr < 65536)
    (hearlier : (connSystem anyLabel anyPacket).Traced
      (connecting self utp isInitiator remoteAddr sendId recvId seqNr ackNr) earlier)
    (hrun : (connSystem anyLabel anyPacket).Traced earlier trace)
    (hstart : keep earlier.writes earlier.config.state)
    (hact : ∀ before author start target, keep before start → Act true true true start target →
      keep (before ++ [(author, start, target)]) target) :
    keep trace.writes trace.config.state := by
  have hreach := hearlier.reachable
  rw [connecting_untag] at hreach
  have hmoving := (connSystem_acts.reachable (connectTo_moving self utp isInitiator remoteAddr
    sendId recvId seqNr ackNr hseqNr) hreach).2
  apply TaskSystem.Traced.recorded hrun hstart
  intro before author start target hbefore hwrite
  exact hact _ _ _ _ hbefore (connSystem_acts.write hmoving hwrite)

/-- The last write leads to the present state. -/
theorem last_write (hseqNr : seqNr < 65536)
    (hrun : (connSystem anyLabel anyPacket).Traced
      (connecting self utp isInitiator remoteAddr sendId recvId seqNr ackNr) trace)
    (hwrites : trace.writes ≠ []) :
    ∃ before author start, trace.writes = before ++ [(author, start, trace.config.state)] := by
  have hrecorded := @connecting_recorded self utp isInitiator remoteAddr sendId recvId seqNr ackNr
    trace (fun writes world => writes = [] ∨
      ∃ before author start, writes = before ++ [(author, start, world)]) hseqNr hrun
    (Or.inl rfl) (fun before author start _ => Or.inr ⟨before, author, start, rfl⟩)
    (fun before author start target _ _ => Or.inr ⟨before, author, start, rfl⟩)
  exact hrecorded.resolve_left hwrites

end History

/-! ## Concrete runs -/

/-- The handshake, on record. -/
def shook : Trace World Label :=
  (((connecting 0 .sample true (.localhost 9000) 2 1 1 0).resumes [0, 0, 0, 0]).launch .receive
    (Async.discard (UtpConn.handleIncomingPacket (synAck 1 100)))).resumes [0, 0, 0, 0]

/-- With nothing suspended a packet may come. -/
theorem traced_receive {initial trace : Trace World Label} (packet : UtpPacket)
    (hrun : (connSystem anyLabel anyPacket).Traced initial trace)
    (hidle : trace.config.tasks.length = 0) : (connSystem anyLabel anyPacket).Traced initial
      (trace.launch .receive (Async.discard (UtpConn.handleIncomingPacket packet))) := by
  apply hrun.launch ⟨trivial, .receive packet trivial⟩
  intro _ other hother
  rw [List.length_eq_zero_iff.mp hidle] at hother
  cases hother

/-- On a connection that is up, anything may be written at any time. -/
theorem traced_write {initial trace : Trace World Label} (data : Bytes)
    (hrun : (connSystem anyLabel anyPacket).Traced initial trace)
    (hresolved : trace.config.state.conn.connecting = .resolved) :
    (connSystem anyLabel anyPacket).Traced initial
      (trace.launch .write (Async.discard (UtpConn.write data))) := by
  apply hrun.launch ⟨trivial, .write data hresolved⟩
  intro hexclusive
  cases hexclusive

/-- Only the clock goes on. -/
def setDateNow (world : World) (now : Nat) : World :=
  { world with utp := { world.utp with dateNow := now } }

def tick (trace : Trace World Label) (now : Nat) : Trace World Label :=
  trace.move (trace.config.state.setDateNow now)

theorem traced_tick {initial trace : Trace World Label} (now : Nat)
    (hrun : (connSystem anyLabel anyPacket).Traced initial trace) :
    (connSystem anyLabel anyPacket).Traced initial (tick trace now) :=
  hrun.env ⟨rfl, rfl, id⟩

theorem shook_traced : (connSystem anyLabel anyPacket).Traced
    (connecting 0 .sample true (.localhost 9000) 2 1 1 0) shook := by
  apply TaskSystem.Traced.resumes
  apply traced_receive
  · exact .resumes .refl _
  · decide +kernel

end World

end Utp
