import Utp.Pair.FlowControl

/-! # A buffer that overflows

A sender that has nothing in flight always sends one packet, however little room the other end
has told. With an application that does not read, the receive buffer grows past its maximum, one
acknowledged packet after the other.
-/

namespace Utp

open Async (Chain Config)

namespace Pair

variable {setup : Setup}

/-- After one byte and `count` full chunks, of which the responder's application has read
nothing: all is acknowledged. -/
structure Round (count : Nat) (sender receiver : World) : Prop where
  clear : sender.Clear
  resolved : sender.conn.connecting = .resolved
  localSeqNr : sender.conn.localSeqNr = count + 3
  latest : sender.conn.sendWindow.latestSeqReceivedOfOtherSide = some (count + 2)
  expecting : receiver.Expecting
  opened : receiver.utp.state ≠ .CLOSED
  localAckNr : receiver.conn.localAckNr = count + 2
  length : receiver.conn.recvBuffer.length = 1 + UtpConn.chunkSize * count

/-- Another chunk is written, delivered and acknowledged. -/
theorem Round.next {count : Nat} {sender receiver : World} {written chunk : Bytes}
    (hlength : chunk.length = UtpConn.chunkSize) (hround : Round count sender receiver)
    (hcount : count < 2 ^ 10)
    (hrun : Reachable setup anyTerms ⟨⟨⟨sender, []⟩, written⟩, some ⟨⟨receiver, []⟩, []⟩⟩) :
    ∃ sender receiver written, Round (count + 1) sender receiver ∧
      Reachable setup anyTerms ⟨⟨⟨sender, []⟩, written⟩, some ⟨⟨receiver, []⟩, []⟩⟩ := by
  have hpos : 0 < chunk.length := by
    rw [hlength]
    decide
  obtain ⟨_, hwrites⟩ := World.run_write hround.clear hpos hlength.le
  have hwrote := hrun.initiator_writes hround.resolved hwrites
  -- The chunk arrives.
  have hdecodes := ((World.shaped_data sender hpos hlength.le).decodes rfl).1
  have hheard : Heard (sender.wroteChunk chunk).utp.sent (sender.dataPacket chunk).narrow :=
    ⟨_, List.mem_append_right _ (List.mem_singleton.mpr rfl), hdecodes⟩
  have hseqNr : (sender.dataPacket chunk).narrow.seqNr = count + 3 := by
    have hnumber : (sender.dataPacket chunk).narrow.seqNr = sender.conn.localSeqNr % 65536 := rfl
    rw [hnumber, hround.localSeqNr]
    omega
  have hnext : (sender.dataPacket chunk).narrow.seqNr = Seq.add receiver.conn.localAckNr 1 := by
    rw [hseqNr, hround.localAckNr, Seq.add_one]
    omega
  have htook := hwrote.responder_handles ⟨hheard, nofun, nofun⟩
    (World.run_handleNext hround.expecting rfl rfl hnext)
  generalize hpacket : (sender.dataPacket chunk).narrow = packet at hseqNr htook
  have hpayload : packet.payload = chunk := by
    rw [← hpacket]
    rfl
  -- The answer arrives.
  obtain ⟨hopened, datagram, hdatagram, hack⟩ := World.answered_sent hround.opened packet
  obtain ⟨hplain, -⟩ := World.ackPacket_plain (hround.expecting.tookNext_empty packet)
  have hacked : Heard (receiver.answered packet).utp.sent
      (receiver.tookNext packet).ackPacket.narrow := by
    refine ⟨datagram, hdatagram, ?_⟩
    rw [hack]
    exact hplain
  have hconnected : (sender.wroteChunk chunk).conn.localState = .CS_CONNECTED :=
    hround.clear.connected
  have hfinal := htook.initiator_handles ⟨hacked, nofun, nofun⟩ (World.run_handleAck hconnected rfl)
  have hackNr : (receiver.tookNext packet).ackPacket.narrow.ackNr = count + 2 + 1 := by
    have hnumber : (receiver.tookNext packet).ackPacket.narrow.ackNr =
        packet.seqNr % 65536 % 65536 := rfl
    rw [hnumber, hseqNr]
    omega
  have hwindow : (sender.wroteChunk chunk).conn.sendWindow.latestSeqReceivedOfOtherSide =
      some (count + 2) := hround.latest
  obtain ⟨hcovers, hlatest⟩ := World.covers_next hwindow hackNr
    (sender.wroteChunk chunk).utp.dateNow
  refine ⟨(sender.wroteChunk chunk).handleAck (receiver.tookNext packet).ackPacket.narrow,
    receiver.answered packet, written ++ chunk,
    ⟨?_, ?_, ?_, ?_, hround.expecting.answered packet, hopened, ?_, ?_⟩, hfinal⟩
  · apply hround.clear.acknowledged
    rwa [hround.localSeqNr]
  · exact hround.resolved
  · have hsent : (sender.wroteChunk chunk).conn.localSeqNr = Seq.add sender.conn.localSeqNr 1 := rfl
    have hkept : ((sender.wroteChunk chunk).handleAck
        (receiver.tookNext packet).ackPacket.narrow).conn.localSeqNr =
          (sender.wroteChunk chunk).conn.localSeqNr := rfl
    rw [hkept, hsent, hround.localSeqNr, Seq.add_one]
    omega
  · exact hlatest
  · have htaken : (receiver.tookNext packet).touch.noteHandled.conn.localAckNr =
        packet.seqNr % 65536 := rfl
    rw [World.answered_conn, htaken, hseqNr]
    omega
  · have htaken : (receiver.tookNext packet).touch.noteHandled.conn.recvBuffer.buffer =
        receiver.conn.recvBuffer.buffer ++ packet.payload := rfl
    rw [World.answered_conn, BlockingBuffer.length, htaken, List.length_append, hpayload, hlength]
    have hheld := hround.length
    rw [BlockingBuffer.length] at hheld
    rw [hheld]
    ring

theorem sampleAcked_reachable : Reachable Setup.sample anyTerms
    ⟨⟨⟨sampleAcked.state, []⟩, [65]⟩, some ⟨⟨sampleTook.state, []⟩, []⟩⟩ := by
  have hwrote : Reachable Setup.sample anyTerms ⟨⟨sampleWrote, [65]⟩, some sampleAnswered⟩ :=
    ((sampleConnected_reachable anyTerms fun _ _ => trivial).step (.initiator
      (.write [65] (by decide +kernel) trivial))).initiator_resumes _
  have hfirst : Heard sampleWrote.state.utp.sent sampleFirst :=
    @heard_arrival ⟨sampleWrote, []⟩ 1 _ (by decide +kernel)
  have htook : Reachable Setup.sample anyTerms
      ⟨⟨sampleWrote, [65]⟩, some ⟨sampleTook, []⟩⟩ := by
    refine (hwrote.step (.responder rfl ?_)).responder_resumes _
    apply Party.Step.other
    apply Async.TaskSystem.Step.launch
    · exact ⟨nofun, .receive sampleFirst ⟨⟨hfirst, nofun, nofun⟩, trivial⟩⟩
    · have hconnects : sampleAnswered.config.tasks.all (·.1 ≠ .receive) = true := by decide +kernel
      exact fun _ other hother => of_decide_eq_true (List.all_eq_true.mp hconnects other hother)
  have hack : Heard sampleTook.state.utp.sent sampleFirstAck :=
    @heard_arrival ⟨sampleTook, []⟩ 1 _ (by decide +kernel)
  have hacked : Reachable Setup.sample anyTerms
      ⟨⟨sampleAcked, [65]⟩, some ⟨sampleTook, []⟩⟩ := by
    refine (htook.step (.initiator ?_)).initiator_resumes _
    apply Party.Step.other
    apply Async.TaskSystem.Step.launch
    · exact ⟨nofun, .receive sampleFirstAck ⟨⟨_, rfl, hack, nofun, nofun⟩, trivial⟩⟩
    · intro _ other hother
      rw [of_idle (by decide +kernel : sampleWrote.tasks.length = 0)] at hother
      cases hother
  rw [of_idle (by decide +kernel : sampleAcked.tasks.length = 0),
    of_idle (by decide +kernel : sampleTook.tasks.length = 0)] at hacked
  exact hacked

theorem Round.first : Round 0 sampleAcked.state sampleTook.state where
  clear :=
    { connected := by decide +kernel
      opened := by decide +kernel
      empty := by
        rw [← OrderedMap.size_eq_zero]
        decide +kernel
      waiting := by
        rw [← List.length_eq_zero_iff]
        decide +kernel
      capacity := by decide +kernel }
  resolved := by decide +kernel
  localSeqNr := by decide +kernel
  latest := by decide +kernel
  expecting :=
    { connected := by decide +kernel
      finless := by decide +kernel
      localAckNr := by decide +kernel
      empty := by
        rw [← OrderedMap.size_eq_zero]
        decide +kernel
      unread := by
        rw [← List.length_eq_zero_iff]
        decide +kernel }
  opened := by decide +kernel
  localAckNr := by decide +kernel
  length := by decide +kernel

theorem Round.reachable {chunk : Bytes} (hlength : chunk.length = UtpConn.chunkSize) {count : Nat}
    (hcount : count ≤ 2 ^ 10) : ∃ sender receiver written, Round count sender receiver ∧
      Reachable Setup.sample anyTerms
        ⟨⟨⟨sender, []⟩, written⟩, some ⟨⟨receiver, []⟩, []⟩⟩ := by
  induction count with
  | zero => exact ⟨_, _, _, .first, sampleAcked_reachable⟩
  | succ count ih =>
      obtain ⟨sender, receiver, written, hround, hrun⟩ := ih (by omega)
      exact hround.next hlength (by omega) hrun

/-- With a responder whose application reads nothing the buffer grows beyond its capacity: as
long as all is acknowledged, the initiator sends one packet after the other. -/
theorem recvBuffer_overflows : ¬ ∀ pair, Reachable Setup.sample anyTerms pair →
    ∀ responder, pair.responder = some responder →
      responder.state.conn.recvBuffer.length ≤ 256 * 1024 := by
  intro hbounded
  obtain ⟨sender, receiver, written, hround, hrun⟩ := @Round.reachable
    (List.replicate UtpConn.chunkSize 0) List.length_replicate 190 (by norm_num)
  have hlength : receiver.conn.recvBuffer.length ≤ 256 * 1024 := hbounded _ hrun _ rfl
  have hsize : UtpConn.chunkSize = 1380 := by decide
  rw [hround.length, hsize] at hlength
  omega

end Pair

end Utp
