import Utp.Receiver.Spacing

/-! # Packets that come again

What the receiver does with a data packet that it has delivered before. It answers unless
the packet is the very last one, or the next packet already waits in the queue.
-/

namespace Utp

open Async (Chain Config)

namespace World

variable {world : World} {packet : UtpPacket}

/-- The packet carries the acknowledgement number or lies behind it, within half a cycle. -/
def Delivered (world : World) (packet : UtpPacket) : Prop :=
  Seq.diff world.conn.localAckNr packet.seqNr < 2 ^ 15

instance : Decidable (world.Delivered packet) :=
  inferInstanceAs (Decidable (Seq.diff world.conn.localAckNr packet.seqNr < 2 ^ 15))

/-- Handling the packet sends an acknowledgement with the present number, and nothing is
delivered. -/
def Reacknowledges (world : World) (packet : UtpPacket) : Prop :=
  ∃ next result, (Async.discard (UtpConn.handleIncomingPacket packet)).run world =
      some (next, result) ∧
    (∃ datagram ∈ next.utp.sent.drop world.utp.sent.length, datagram.packet.type = .ST_STATE ∧
      datagram.packet.ackNr = world.conn.localAckNr) ∧
    next.conn.localAckNr = world.conn.localAckNr ∧
    next.conn.recvBuffer = world.conn.recvBuffer

/-! ## Between packets -/

/-- Between two packets no packet waits that could be delivered, but for one behind the
wraparound. -/
theorem narrow_sound {first : Nat} :
    (outline true true first InRange).Sound (connSystem anyLabel narrow) := by
  refine outline_sound (fun _ _ _ => rfl) (fun h => Bool.noConfusion h)
    (fun _ _ h hact => h.aside hact.aside) ?_
  intro world packet htracked hrange hsettled hnarrow
  refine receive_meets htracked (handleIncomingPacket_meets
    (tolerant_quietly fun _ _ h => h.aside) hrange hsettled fun later hlater _ _ => ?_)
  refine ⟨fun _ hstate => ?_, fun _ hstate _ => ?_, fun hstate _ _ => hlater.takes hstate hnarrow⟩
  · have hstarted : ¬ later.Started := fun h => h.1 hstate
    exact ⟨hlater.accept hstarted _, settled_of_empty (hlater.waiting hstarted)⟩
  · have hstarted : ¬ later.Started := fun h => h.2 hstate
    exact ⟨hlater.acceptData hstarted _ _, settled_of_empty (hlater.waiting hstarted)⟩

theorem narrow_between {self : Nat} {utp : UtpSocket} {isInitiator : Bool} {remoteAddr : UtpAddr}
    {sendId recvId seqNr ackNr : Nat} (hseqNr : seqNr < 65536) {config : Config World Label}
    (hrun : (connSystem anyLabel narrow).Reachable
      (connectTo self utp isInitiator remoteAddr sendId recvId seqNr ackNr) config)
    (hidle : ∀ other ∈ config.tasks, other.1 ≠ .receive) :
    config.state.InRange ∧ config.state.Settled := by
  obtain ⟨hrange, -⟩ := begun_inRange self utp isInitiator remoteAddr sendId recvId seqNr ackNr
  have hempty : (begun self utp isInitiator remoteAddr sendId recvId
      seqNr ackNr).conn.recvPacketQueue.items = ∅ := by cases isInitiator <;> rfl
  have hstart : (outline true true (firstSeqNr isInitiator seqNr) InRange).Holds
      (connSystem anyLabel narrow) _ :=
    connectTo_holds hseqNr narrow_sound (fun _ _ h hact => h.aside hact.aside) hrange
      (settled_of_empty hempty)
  have hholds := hstart.reachable narrow_sound hrun
  exact ⟨hholds.inv.2, hholds.rest .receive hidle rfl⟩

/-! ## One packet -/

/-- What a call of `sendAck` leaves behind when nothing else goes on: the acknowledgement
goes out unless the socket is closed. -/
def acked (world : World) : World :=
  if world.utp.state = .CLOSED then world.touch
  else world.touch.transmit (some world.conn.localState) world.ackPacket world.conn.remoteAddr

theorem run_udpSend (calledIn : Option UtpConnState) (packet : UtpPacket) (remoteAddr : UtpAddr) :
    ∃ result, (UtpSocket.sendUtpPacket calledIn packet remoteAddr).run world = some
      (if world.utp.state = .CLOSED then world else world.transmit calledIn packet remoteAddr,
        result) := by
  simp only [UtpSocket.sendUtpPacket, Async.bind_eq, Async.run_bind, Async.run_get,
    Option.bind_some]
  split
  next => exact ⟨_, rfl⟩
  next =>
    simp only [Async.run_bind, Async.run_modify, Option.bind_some, Async.waitUntil, Async.run,
      if_true]
    split
    next => exact ⟨_, rfl⟩
    next => split <;> exact ⟨_, rfl⟩

theorem run_sendAck (hopen : world.conn.isClosed = false) :
    UtpConn.sendAck.run world = some (world.acked, .ok ()) := by
  obtain ⟨result, hsend⟩ := @run_udpSend world.touch (some world.conn.localState) world.ackPacket
    world.conn.remoteAddr
  have hopen' : world.touch.conn.isClosed = false := hopen
  have hstate : world.touch.conn.localState = world.conn.localState := rfl
  have haddr : world.touch.conn.remoteAddr = world.conn.remoteAddr := rfl
  have hreliable : world.ackPacket.isReliable = false := rfl
  simp only [UtpConn.sendAck, UtpConn.sendUtpPacket, Async.discard, Async.bind_eq, Async.run_bind,
    Async.run_get, Option.bind_some, hopen, Bool.false_eq_true, if_false, Async.run_attempt,
    Async.run_awaited, Async.run_modify, hopen', hreliable, Bool.and_false, hstate, haddr, hsend,
    Async.pure_eq]
  cases result <;> rfl

/-- A data packet without which, and with which, the queue has nothing to deliver. -/
theorem run_insertPacket_idle (hdata : packet.type = .ST_DATA)
    (hopen : world.conn.isClosed = false)
    (hidle : Seq.add world.conn.localAckNr 1 ∉ (world.enqueue packet).conn.recvPacketQueue.keys) :
    (UtpConn.insertPacket packet).run world = some ((world.enqueue packet).acked, .ok true) := by
  have hpass : UtpConn.processReceivedPackets.run (world.enqueue packet) =
      some (world.enqueue packet, .ok ()) := run_processKeys_idle hidle
  have hack := @run_sendAck (world.enqueue packet) hopen
  simp [UtpConn.insertPacket, Async.run_bind, hpass, hdata, hack]

/-- A packet that is refused changes nothing. -/
theorem run_refused (hstate : world.conn.localState = .CS_CONNECTED)
    (hdata : packet.type = .ST_DATA) (hrefused : world.conn.isRefused packet = true) :
    (Async.discard (UtpConn.handleIncomingPacket packet)).run world = some (world, .ok ()) := by
  have hopen : world.conn.isClosed = false := by simp [UtpConn.isClosed, hstate]
  simp [UtpConn.handleIncomingPacket, UtpConn.handleInState, UtpConn.handleAtConnected,
    Async.discard,
    Async.run_bind, hdata, hstate, hopen, hrefused]

/-- A packet that is not refused stays in the queue, and is answered. -/
theorem run_repeated (hstate : world.conn.localState = .CS_CONNECTED)
    (hdata : packet.type = .ST_DATA) (hrefused : world.conn.isRefused packet = false)
    (hbehind : packet.seqNr ≠ Seq.add world.conn.localAckNr 1)
    (hidle : Seq.add world.conn.localAckNr 1 ∉ world.conn.recvPacketQueue.keys) :
    (Async.discard (UtpConn.handleIncomingPacket packet)).run world =
      some ((world.enqueue packet).acked.noteHandled, .ok ()) := by
  have hopen : world.conn.isClosed = false := by simp [UtpConn.isClosed, hstate]
  have hqueued : Seq.add world.conn.localAckNr 1 ∉
      (world.enqueue packet).conn.recvPacketQueue.keys := by
    intro hkey
    rcases mem_keys_enqueue hkey with hnew | hold
    · exact hbehind hnew.symm
    · exact hidle hold
  have hinsert := run_insertPacket_idle hdata hopen hqueued
  rw [← run_handleAtConnected hstate hdata hrefused
    (.inr fun h => hidle (CircularQueue.mem_keys.mpr h))] at hinsert
  simp [UtpConn.handleIncomingPacket, UtpConn.handleInState, Async.discard, Async.run_bind, hdata,
    hstate, hinsert]

theorem acked_sent : world.acked.utp.sent =
    if world.utp.state = .CLOSED then world.utp.sent
    else world.utp.sent ++ [⟨world.ackPacket, world.conn.remoteAddr, some world.conn.localState,
      world.conn.sendWindow.packetMap.entered.any fun entry =>
        entry.2.packet = world.ackPacket, world.conn.recvBuffer.appended.length⟩] := by
  unfold acked
  split <;> rfl

theorem acked_conn : world.acked.conn = world.touch.conn := by
  unfold acked
  split <;> rfl

/-- A pass that finds the next packet changes the acknowledgement number. -/
theorem Passed.moves_on {next : World} (hrange : world.InRange)
    (hackNr : world.conn.localAckNr < 65536)
    (hnext : Seq.add world.conn.localAckNr 1 ∈ world.conn.recvPacketQueue.keys)
    (hpassed : Passed true world world.conn.recvPacketQueue.keys next) :
    next.conn.localAckNr ≠ world.conn.localAckNr := by
  have htaken := List.length_pos_of_mem (Pass.mem_taken hnext)
  have hfew := (Pass.taken_sublist world.conn.localAckNr world.conn.recvPacketQueue.keys).length_le
  have hbounded := world.conn.recvPacketQueue.bounded
  have hcapacity : world.conn.recvPacketQueue.capacity ≤ 8192 := hrange.capacity
  rw [CircularQueue.length_keys, CircularQueue.size] at hfew
  rw [hpassed.ackNr, Pass.advance_eq hackNr]
  omega

/-- A delivered packet that comes again is acknowledged, and nothing else happens, unless it
is the last one delivered, or the next packet waits, or the socket is closed. -/
theorem reacknowledges_of_between (hstate : world.conn.localState = .CS_CONNECTED)
    (hrange : world.InRange) (hsettled : world.Settled) (hdata : packet.type = .ST_DATA)
    (hseqNr : packet.seqNr < 65536) (hdelivered : world.Delivered packet) :
    world.Reacknowledges packet ↔ packet.seqNr ≠ world.conn.localAckNr ∧
      Seq.add world.conn.localAckNr 1 ∉ world.conn.recvPacketQueue.keys ∧
      world.utp.state ≠ .CLOSED := by
  have hackNr := hrange.ackNr hstate
  have hfin : world.conn.remoteFinPacket = none :=
    hrange.fin.resolve_left fun hgone => hgone.2 hstate
  have hrefused : world.conn.isRefused packet = decide (packet.seqNr = world.conn.localAckNr) := by
    simp [UtpConn.isRefused, hfin]
  have hbehind : packet.seqNr ≠ Seq.add world.conn.localAckNr 1 := by
    intro hnext
    rw [Delivered, hnext, Seq.add_one, Seq.diff] at hdelivered
    omega
  constructor
  · rintro ⟨next, result, hrun, ⟨datagram, hdatagram, -⟩, hsame, -⟩
    have hother : packet.seqNr ≠ world.conn.localAckNr := by
      intro hlast
      rw [run_refused hstate hdata (by simp [hrefused, hlast])] at hrun
      cases hrun
      simp at hdatagram
    have hopen : world.conn.isRefused packet = false := by simp [hrefused, hother]
    have hidle : Seq.add world.conn.localAckNr 1 ∉ world.conn.recvPacketQueue.keys := by
      intro hnext
      have hmem := CircularQueue.mem_keys.mp hnext
      have hroom := (hsettled hmem).2
      obtain ⟨passed, _, hpasses, hpassed⟩ :=
        @run_handleIncomingPacket true _ _ hstate hdata hopen (.inl hroom)
      rw [hpasses] at hrun
      cases hrun
      have hqueued : Seq.add world.conn.localAckNr 1 ∈
          (world.enqueue packet).conn.recvPacketQueue.keys := by
        have hitems := CircularQueue.enqueue_of_room packet.seqNr packet (.inr hroom)
        refine CircularQueue.mem_keys.mpr ?_
        show _ ∈ (world.conn.recvPacketQueue.enqueue packet.seqNr packet).items.keys
        rw [hitems]
        simp [hmem]
      have hstarted := started_of_connected hstate
      exact hpassed.moves_on (hrange.enqueue hseqNr hstarted) hackNr hqueued hsame
    refine ⟨hother, hidle, fun hclosed => ?_⟩
    rw [run_repeated hstate hdata hopen hbehind hidle] at hrun
    cases hrun
    have hsent : (world.enqueue packet).acked.noteHandled.utp.sent = world.utp.sent :=
      acked_sent.trans (if_pos hclosed)
    rw [hsent] at hdatagram
    simp at hdatagram
  · rintro ⟨hother, hidle, hopen⟩
    have hsent : (world.enqueue packet).acked.noteHandled.utp.sent = world.utp.sent ++ _ :=
      acked_sent.trans (if_neg hopen)
    have hconn : (world.enqueue packet).acked.conn = (world.enqueue packet).touch.conn := acked_conn
    refine ⟨_, _, run_repeated hstate hdata (by simp [hrefused, hother]) hbehind hidle, ?_, ?_, ?_⟩
    · rw [hsent, List.drop_left]
      exact ⟨_, List.mem_singleton.mpr rfl, rfl, rfl⟩
    · show (world.enqueue packet).acked.conn.localAckNr = world.conn.localAckNr
      rw [hconn]
      rfl
    · show (world.enqueue packet).acked.conn.recvBuffer = world.conn.recvBuffer
      rw [hconn]
      rfl

/-- The same in every run, whatever packets came before and whatever else went on. -/
theorem reacknowledges_iff {self : Nat} {utp : UtpSocket} {isInitiator : Bool}
    {remoteAddr : UtpAddr} {sendId recvId seqNr ackNr : Nat} (hseqNr : seqNr < 65536)
    {config : Config World Label}
    (hrun : (connSystem anyLabel narrow).Reachable
      (connectTo self utp isInitiator remoteAddr sendId recvId seqNr ackNr) config)
    (hidle : ∀ other ∈ config.tasks, other.1 ≠ .receive)
    (hstate : config.state.conn.localState = .CS_CONNECTED) {packet : UtpPacket}
    (hdata : packet.type = .ST_DATA) (hnarrow : packet.seqNr < 65536)
    (hdelivered : config.state.Delivered packet) :
    config.state.Reacknowledges packet ↔ packet.seqNr ≠ config.state.conn.localAckNr ∧
      Seq.add config.state.conn.localAckNr 1 ∉ config.state.conn.recvPacketQueue.keys ∧
      config.state.utp.state ≠ .CLOSED := by
  obtain ⟨hrange, hsettled⟩ := narrow_between hseqNr hrun hidle
  exact reacknowledges_of_between hstate hrange hsettled hdata hnarrow hdelivered

/-- The first data packet of the peer. -/
def firstPacket : UtpPacket := { type := .ST_DATA, connId := 1, seqNr := 100, data := some [65] }

/-- The receiver that has delivered it. -/
def received : World := handled firstPacket (awaiting 100)

theorem received_reachable : (connSystem anyLabel narrow).Reachable
    (connectTo 0 .sample true (.localhost 9000) 2 1 1 0) ⟨received, []⟩ := by
  obtain ⟨result, hhandled⟩ := run_handled firstPacket (awaiting 100) (by decide +kernel)
  have hsynAck : (synAck 1 100).seqNr < 65536 := by decide
  have hfirst : firstPacket.seqNr < 65536 := by decide
  have hstart : (connSystem anyLabel narrow).Reachable
      (connectTo 0 .sample true (.localhost 9000) 2 1 1 0) ⟨awaiting 100, []⟩ :=
    sample_reachable fun _ => hsynAck
  exact hstart.of_run ⟨trivial, .receive firstPacket hfirst⟩ hhandled

theorem reacknowledges_iff_sample : received.Reacknowledges oldPacket :=
  (reacknowledges_iff (by decide) received_reachable nofun (by decide +kernel) rfl (by decide)
    (by decide +kernel)).mpr (by decide +kernel)

theorem last_packet_unanswered : ¬ ∀ config : Config World Label,
    (connSystem anyLabel narrow).Reachable
      (connectTo 0 .sample true (.localhost 9000) 2 1 1 0) config →
    (∀ other ∈ config.tasks, other.1 ≠ .receive) → config.state.conn.localState = .CS_CONNECTED →
    ∀ packet : UtpPacket, packet.type = .ST_DATA → packet.seqNr < 65536 →
      config.state.Delivered packet → config.state.Reacknowledges packet := by
  intro hclaim
  have hstate : received.conn.localState = .CS_CONNECTED ∧ received.Delivered firstPacket ∧
      received.conn.isRefused firstPacket = true := by decide +kernel
  have hreached := received_reachable
  generalize received = world at hreached hstate
  obtain ⟨next, result, hrun, ⟨datagram, hdatagram, -⟩, -⟩ :=
    hclaim _ hreached nofun hstate.1 firstPacket rfl (by decide) hstate.2.1
  rw [run_refused hstate.1 rfl hstate.2.2] at hrun
  cases hrun
  simp at hdatagram

end World

end Utp
