import Utp.Conn.Serving
import Utp.Receiver.Reassembly
import Utp.Receiver.Delivery

/-! # The end of a finite stream

The peer sends data packets and a FIN behind them, and the network loses, repeats and
reorders. The receiver stops at the first FIN that it takes, wherever it stands. So the
stream is read to its end if the FIN is taken once all data has arrived: what has not been
delivered by then waits in the queue, and the pass behind the FIN delivers it.
-/

namespace Utp

open Async (Config Outline)

/-- The network may change what a packet acknowledges, and its clocks. -/
structure Copies (original packet : UtpPacket) : Prop where
  type : packet.type = original.type
  seqNr : packet.seqNr = original.seqNr
  payload : packet.payload = original.payload

namespace World

/-- Data packets that follow on a number, and a FIN behind them. -/
structure EndsWith (ackNr : Nat) (packets : List UtpPacket) (fin : UtpPacket) : Prop where
  data : ∀ packet ∈ packets, packet.type = .ST_DATA
  last : fin.type = .ST_FIN
  follows : Follows ackNr (packets ++ [fin])
  few : packets.length < 2 ^ 15

namespace EndsWith

variable {ackNr : Nat} {packets : List UtpPacket} {fin packet : UtpPacket}

theorem length_lt (h : EndsWith ackNr packets fin) : (packets ++ [fin]).length < 65536 := by
  have hfew := h.few
  rw [List.length_append, List.length_singleton]
  omega

theorem fin_payload (h : EndsWith ackNr packets fin) : fin.payload = [] := by
  simp [UtpPacket.payload, h.last]

theorem payloads (h : EndsWith ackNr packets fin) :
    (packets ++ [fin]).flatMap UtpPacket.payload = packets.flatMap UtpPacket.payload := by
  rw [List.flatMap_append, List.flatMap_singleton, h.fin_payload, List.append_nil]

/-- Behind half a cycle of packets the comparison of numbers is that of places. -/
theorem le_of_seqLe (h : EndsWith ackNr packets fin) {index position : Nat}
    (hindex : index < packets.length) (hposition : position ≤ packets.length + 1)
    (hle : Seq.le ((ackNr + (index + 1)) % 65536) ((ackNr + position) % 65536) = true) :
    index < position := by
  have hfew := h.few
  simp only [Seq.le, Bool.or_eq_true, decide_eq_true_eq, Seq.lt_iff, Seq.diff] at hle
  omega

end EndsWith

/-- Every packet has been delivered or waits in the queue. -/
def Complete (packets : List UtpPacket) (world : World) : Prop :=
  ∀ packet ∈ packets, Seq.le packet.seqNr world.conn.localAckNr = true ∨
    packet.seqNr ∈ world.conn.recvPacketQueue.keys

instance (packets : List UtpPacket) (world : World) : Decidable (world.Complete packets) :=
  inferInstanceAs (Decidable (∀ packet ∈ packets, _))

/-- What the network hands over: copies of the packets in any order, and acknowledgements. No
copy of the FIN is taken before the data is complete. -/
def finLast (packets : List UtpPacket) (fin : UtpPacket) (world : World) (packet : UtpPacket) :
    Prop :=
  packet.isReliable = false ∨ (∃ original ∈ packets, Copies original packet) ∨
    Copies fin packet ∧ (world.conn.localState = .CS_CONNECTED → world.Complete packets)

variable {initial world next : World} {packets : List UtpPacket} {fin packet : UtpPacket}
  {first : Nat}

/-- The stream that ends with the FIN. -/
abbrev finStream (h : EndsWith initial.conn.localAckNr packets fin) : Stream :=
  .ofList initial.conn.localAckNr initial.conn.advanced initial.conn.recvBuffer.appended
    (packets ++ [fin]) h.length_lt

variable {h : EndsWith initial.conn.localAckNr packets fin}

/-- Behind the data packets, with or without the FIN, all their bytes have been delivered. -/
theorem bytes_finStream {position : Nat} (hleft : packets.length ≤ position)
    (hright : position ≤ packets.length + 1) :
    (finStream h).bytes (initial.conn.advanced + position) =
      initial.conn.recvBuffer.appended ++ packets.flatMap UtpPacket.payload := by
  have hall := @Stream.bytes_ofList initial.conn.localAckNr initial.conn.advanced
    initial.conn.recvBuffer.appended (packets ++ [fin]) h.length_lt
  rw [h.payloads, List.length_append, List.length_singleton] at hall
  rcases Nat.lt_or_ge packets.length position with hbehind | hbefore
  · obtain rfl : position = packets.length + 1 := by omega
    exact hall
  · obtain rfl : position = packets.length := by omega
    have hlast : (finStream h).payload (initial.conn.advanced + (packets.length + 1)) = [] := by
      rw [Stream.payload_ofList packets.length List.getElem?_concat_length]
      exact h.fin_payload
    rw [← hall, ← Nat.add_assoc, Stream.bytes, Nat.add_assoc, hlast, List.append_nil]

/-- A copy of a packet of the stream is live. -/
theorem Good.copy_live (hgood : world.Good (finStream h))
    (hbegun : initial.conn.advanced ≤ world.conn.advanced) {original : UtpPacket}
    (horiginal : original ∈ packets ++ [fin]) (hcopy : Copies original packet) :
    ∃ i, (finStream h).live world.conn.advanced i ∧ packet.payload = (finStream h).payload i ∧
      packet.seqNr = (finStream h).number i := by
  obtain ⟨index, hindex⟩ := List.mem_iff_getElem?.mp horiginal
  have hlt := (List.getElem?_eq_some_iff.mp hindex).1
  have hreached : world.conn.advanced ≤ initial.conn.advanced + (packets ++ [fin]).length :=
    hgood.reached
  refine ⟨initial.conn.advanced + (index + 1), ⟨hbegun, hreached, by omega, by omega⟩, ?_, ?_⟩
  · rw [hcopy.payload, Stream.payload_ofList index hindex]
  · rw [hcopy.seqNr, Stream.number_ofList, h.follows.seqNr hindex]

/-- The position in the stream, behind the one at which it begins. -/
theorem Good.position (hgood : world.Good (finStream h))
    (hbegun : initial.conn.advanced ≤ world.conn.advanced) : ∃ position ≤ packets.length + 1,
      world.conn.advanced = initial.conn.advanced + position ∧
        world.conn.localAckNr = (initial.conn.localAckNr + position) % 65536 := by
  obtain ⟨position, hposition⟩ := Nat.exists_eq_add_of_le hbegun
  have hreached : world.conn.advanced ≤ initial.conn.advanced + (packets ++ [fin]).length :=
    hgood.reached
  rw [List.length_append, List.length_singleton] at hreached
  refine ⟨position, by omega, hposition, ?_⟩
  rw [hgood.ackNr, hposition, Stream.number_ofList]

/-- A packet that the receiver has not come to waits in the queue. -/
theorem Complete.waits (hcomplete : world.Complete packets) {index position : Nat}
    (hindex : index < packets.length) (hposition : position ≤ packets.length + 1)
    (hackNr : world.conn.localAckNr = (initial.conn.localAckNr + position) % 65536)
    (hahead : position ≤ index) (h : EndsWith initial.conn.localAckNr packets fin) :
    (initial.conn.localAckNr + (index + 1)) % 65536 ∈ world.conn.recvPacketQueue.keys := by
  have hpacket : packets[index]? = some packets[index] := List.getElem?_eq_getElem hindex
  have hall : (packets ++ [fin])[index]? = some packets[index] := by
    rw [List.getElem?_append_left hindex, hpacket]
  have hnumber := h.follows.seqNr hall
  rcases hcomplete _ (List.getElem_mem hindex) with hbehind | hqueued
  · rw [hnumber, hackNr] at hbehind
    have hlt := h.le_of_seqLe hindex hposition hbehind
    omega
  · rwa [hnumber] at hqueued

/-- The pass behind the FIN delivers what waits, also across the last number. -/
theorem Good.completes (hgood : world.Good (finStream h))
    (hbegun : initial.conn.advanced ≤ world.conn.advanced) (hsettled : world.Settled)
    (hstate : world.conn.localState = .CS_CONNECTED) (hcomplete : world.Complete packets)
    (hcopy : Copies fin packet)
    (hpassed : Passed false (world.enqueue packet) (world.enqueue packet).conn.recvPacketQueue.keys
      next) :
    next.conn.recvBuffer.appended =
      initial.conn.recvBuffer.appended ++ packets.flatMap UtpPacket.payload := by
  have hreceived : world.conn.localState ≠ .CS_SYN_RECV := fun hother =>
    nomatch hstate.symm.trans hother
  have hlive := hgood.copy_live hbegun (List.mem_append_right packets List.mem_cons_self) hcopy
  have hphase := (hgood.enqueue hreceived hlive).passed List.prefix_rfl hpassed
  have hgood' := hphase.connected (hpassed.connected rfl hstate)
  have hadvanced := hpassed.advanced
  obtain ⟨position, hle, hposition, hackNr⟩ := hgood.position hbegun
  have hbegun' : initial.conn.advanced ≤ next.conn.advanced := by
    rw [hadvanced]
    exact hbegun.trans (Nat.le_add_right _ _)
  obtain ⟨final, hle', hfinal, hackNr'⟩ := hgood'.position hbegun'
  have hall : packets.length ≤ final := by
    by_contra hshort
    rw [Nat.not_le] at hshort
    have hbefore : position ≤ final := by
      have hsame : (world.enqueue packet).conn.advanced = world.conn.advanced := rfl
      omega
    -- The next packet waits, so the last pass stopped at the last number, with room left.
    have hnext := hcomplete.waits (Nat.lt_of_le_of_lt hbefore hshort) hle hackNr (Nat.le_refl _) h
    have hlast := hsettled (by
      rw [Seq.add_one, hackNr, Nat.mod_add_mod, Nat.add_assoc]
      exact CircularQueue.mem_keys.mp hnext)
    have hitems : (world.enqueue packet).conn.recvPacketQueue.items =
        world.conn.recvPacketQueue.items.set packet.seqNr packet :=
      CircularQueue.enqueue_of_room _ _ (.inr hlast.2)
    have hlast' : (world.enqueue packet).conn.localAckNr = 65535 := hlast.1
    have hstops : Seq.add (Pass.advance 65535 (world.enqueue packet).conn.recvPacketQueue.keys) 1 ∈
        Pass.taken 65535 (world.enqueue packet).conn.recvPacketQueue.keys := by
      have hwaits := hcomplete.waits hshort hle hackNr hbefore h
      refine (Pass.advance_stops (by decide) (CircularQueue.keys_sorted _) ?_).resolve_right
        fun hmoved => hmoved.2 rfl
      rw [← hlast', ← hpassed.ackNr, hackNr', Seq.add_one, Nat.mod_add_mod, Nat.add_assoc,
        CircularQueue.mem_keys, hitems, OrderedMap.mem_keys_set]
      exact .inl (CircularQueue.mem_keys.mp hwaits)
    obtain ⟨index, hindex⟩ := List.mem_iff_getElem?.mp hstops
    have htaken := Pass.taken_getElem? hindex
    have hlt := (List.getElem?_eq_some_iff.mp hindex).1
    have hsame : (world.enqueue packet).conn.advanced = world.conn.advanced := rfl
    have hnumber := hpassed.ackNr
    rw [hlast', hackNr'] at hnumber
    rw [← hnumber, Seq.add_one] at htaken
    rw [hlast', hsame] at hadvanced
    have hfew := h.few
    omega
  rw [hgood'.appended, hfinal, bytes_finStream hall hle']

/-! ## Runs -/

/-- The receiver keeps to the stream, and has all of it once it takes no more. -/
structure Reads (h : EndsWith initial.conn.localAckNr packets fin) (world : World) : Prop where
  receiving : world.Receiving (finStream h)
  begun : initial.conn.advanced ≤ world.conn.advanced
  shut : world.Sealed
  ended : world.Gone → world.conn.recvBuffer.appended =
    initial.conn.recvBuffer.appended ++ packets.flatMap UtpPacket.payload

/-- With nothing that closes the connection from this side. -/
theorem Reads.aside (hworld : Reads h world) (haside : Aside false world next) : Reads h next where
  receiving := hworld.receiving.aside haside
  begun := haside.advanced ▸ hworld.begun
  shut := haside.sealed hworld.shut
  ended hgone := by
    rw [haside.appended]
    by_cases hstate : world.conn.localState = .CS_CONNECTED
    · exact absurd (haside.connected rfl hstate) hgone.2
    · exact hworld.ended ⟨hworld.receiving.1, hstate⟩

/-- A packet of the stream may be taken, the FIN once the data is complete. -/
theorem Reads.takes (hworld : Reads h world) (hsettled : world.Settled)
    (hstate : world.conn.localState = .CS_CONNECTED) {original : UtpPacket}
    (horiginal : original ∈ packets ++ [fin]) (hcopy : Copies original packet)
    (hfin : packet.type = .ST_FIN → Copies fin packet ∧ world.Complete packets) :
    Takes false true (quietly false true (Reads h)) world packet := by
  have hgood := hworld.receiving.2.connected hstate
  have hkept : Takes false true (quietly false true (Receiving (finStream h))) world packet :=
    hgood.takes hstate (hgood.copy_live hworld.begun horiginal hcopy) fun _ hstarted hphase _ =>
      ⟨hstarted, hphase⟩
  have hbegun : ∀ {later done next}, Aside false world later →
      Passed false (later.enqueue packet) done next →
        initial.conn.advanced ≤ next.conn.advanced := by
    intro later done next haside hpassed
    have hsame : (later.enqueue packet).conn.advanced = world.conn.advanced := haside.advanced
    rw [hpassed.advanced, hsame]
    exact hworld.begun.trans (Nat.le_add_right _ _)
  have hshut : ∀ {later done next}, Aside false world later →
      Passed false (later.enqueue packet) done next → next.Sealed := by
    intro later done next haside hpassed
    have hlater := haside.sealed hworld.shut
    exact hpassed.sealed rfl (haside.connected rfl hstate)
      ⟨hlater.drained, hlater.finished, hlater.empty⟩
  refine ⟨hkept.ackNr, ?_, ?_⟩
  · intro later done next haside hdone hpassed hcomplete
    refine ⟨hkept.pass later done next haside hdone hpassed hcomplete, hbegun haside hpassed,
      hshut haside hpassed, fun hgone => ?_⟩
    exact absurd (hpassed.connected rfl (haside.connected rfl hstate)) hgone.2
  · intro htype later next haside hpassed hcleared
    obtain ⟨hcopy', hcomplete⟩ := hfin htype
    have hsealed := hshut haside hpassed
    have hreached := hbegun haside hpassed
    refine ⟨hkept.fin htype later next haside hpassed hcleared, hreached,
      ⟨fun _ => gone_acceptFin next packet, hsealed.finished, hsealed.empty⟩, fun _ => ?_⟩
    have hconnected := haside.connected rfl hstate
    have hqueue : later.conn.recvPacketQueue = world.conn.recvPacketQueue :=
      haside.queue.resolve_right fun hgone => hgone.2.2 hconnected
    have hlater : later.Complete packets := by
      unfold Complete
      rw [haside.ackNr, hqueue]
      exact hcomplete
    have hall := (hgood.aside haside).completes (haside.advanced ▸ hworld.begun)
      (hsettled.aside haside) hconnected hlater hcopy' hpassed
    exact hall

theorem reads_sound {labels : Label → Prop}
    (hopen : ∀ label, labels label → label.isClosing = false) :
    (outline false true first (Reads h)).Sound (connSystem labels (finLast packets fin)) := by
  have hlabels : ∀ label, labels label → label.isClosing = true → false = true := by
    intro label hlabel hclosing
    rwa [hopen label hlabel] at hclosing
  refine outline_sound hlabels (fun h => Bool.noConfusion h)
    (fun _ _ hworld hact => hworld.aside hact.aside) ?_
  intro world packet htracked hworld hsettled hadmits
  apply receive_meets htracked
  apply handleIncomingPacket_meets (tolerant_quietly fun _ _ hworld => hworld.aside) hworld hsettled
  intro later hlater _ hsame
  refine hlater.receiving.1.handles fun hstate hreliable _ => ?_
  have htype : packet.type ≠ .ST_STATE := fun htype => by
    simp [UtpPacket.isReliable, htype] at hreliable
  rw [hsame htype] at hstate ⊢
  rcases hadmits with hunreliable | ⟨original, horiginal, hcopy⟩ | ⟨hcopy, hcomplete⟩
  · rw [hunreliable] at hreliable
    cases hreliable
  · apply hworld.takes hsettled hstate (List.mem_append_left _ horiginal) hcopy
    intro hfin
    have hdata := hcopy.type.trans (h.data original horiginal)
    cases hdata.symm.trans hfin
  · exact hworld.takes hsettled hstate (List.mem_append_right _ List.mem_cons_self) hcopy
      fun _ => ⟨hcopy, hcomplete hstate⟩

theorem Reads.start (hstate : initial.conn.localState = .CS_CONNECTED)
    (hackNr : initial.conn.localAckNr < 65536)
    (hempty : initial.conn.recvPacketQueue.items = ∅) (hsealed : initial.Sealed) :
    Reads h initial := by
  have hstarted : initial.Started :=
    ⟨fun hother => (by rw [hstate] at hother; cases hother),
      fun hother => (by rw [hstate] at hother; cases hother)⟩
  have hnumber := @Stream.number_ofList initial.conn.localAckNr initial.conn.advanced
    initial.conn.recvBuffer.appended (packets ++ [fin]) h.length_lt 0
  rw [Nat.add_zero, Nat.add_zero, Nat.mod_eq_of_lt hackNr] at hnumber
  have hgood : initial.Good (finStream h) :=
    ⟨hnumber.symm, Stream.bytes_ofList_start.symm, Nat.le_add_right _ _,
      hempty ▸ Stream.holds_empty _, hstarted.1, fun hother => absurd hother hstarted.2⟩
  exact ⟨⟨hstarted, .good hgood⟩, Nat.le_refl _, hsealed, fun hgone => absurd hstate hgone.2⟩

/-- Where no FIN is taken before the data is complete, the connection is not closed from this
side and each read is called after the one before has returned: a read that returns the end
has been preceded by reads that returned the whole stream. -/
theorem end_read_complete {labels : Label → Prop} {config : Config World Label}
    (hopen : ∀ label, labels label → label.isClosing = false)
    (h : EndsWith initial.conn.localAckNr packets fin) (htracked : initial.Tracked first)
    (hstate : initial.conn.localState = .CS_CONNECTED) (hackNr : initial.conn.localAckNr < 65536)
    (hempty : initial.conn.recvPacketQueue.items = ∅) (hsealed : initial.Sealed)
    (htruthful : initial.Truthful) (hbetween : initial.BetweenReads)
    (hrun : (oneReader labels (finLast packets fin)).Reachable ⟨initial, []⟩ config)
    (hread : none ∈ config.state.conn.reads) :
    config.state.returned = initial.returned ++ initial.conn.recvBuffer.buffer ++
      packets.flatMap UtpPacket.payload := by
  have hrun' := oneReader_reachable hrun
  have hstart : (outline false true first (Reads h)).Holds (connSystem labels (finLast packets fin))
      ⟨initial, []⟩ := .start ⟨htracked, .start hstate hackNr hempty hsealed⟩
        fun _ _ => settled_of_empty hempty
  have hreads := (hstart.reachable (reads_sound hopen) hrun').inv.2
  obtain ⟨hchain, hconfig⟩ := (connSystem_recording labels (finLast packets fin) first).reachable
    (.start ⟨htracked, htruthful⟩) hrun'
  have hclosed := hconfig.inv.2.reads hread
  have hgone := hreads.shut.drained (hreads.shut.finished hclosed)
  obtain ⟨more, happended, hbytes⟩ := buffer_of_chain initial.conn.recvBuffer.Keeps
    (fun _ _ htouches => htouches.keeps) (acts_of_recording hchain) (.refl _)
  rw [hreads.ended hgone, List.append_cancel_left_eq] at happended
  rw [hreads.shut.empty hclosed, List.append_nil] at hbytes
  -- What was taken has been returned, before the run and at its end.
  have hturn : inTurn.Holds (oneReader labels (finLast packets fin)) ⟨initial, []⟩ :=
    .start ⟨.inl ⟨[], hbetween⟩, fun hread => ⟨htruthful.reads hread, hbetween⟩⟩ fun _ _ => hbetween
  have hall := (returned_of_holds (hturn.reachable (inTurn_sound _ _) hrun)).2 (.inr hread)
  have hfirst : initial.returned = initial.conn.recvBuffer.taken :=
    (List.append_nil _).symm.trans hbetween.taken
  rw [hall, hbytes, happended, hfirst]

/-- A stream with one byte in each packet. -/
def bytePackets : List UtpPacket := [bytePacket 100 65, bytePacket 101 66]

/-- The packet that ends it. -/
def lastPacket : UtpPacket := { type := .ST_FIN, connId := 1, seqNr := 102 }

/-- The two packets come in the wrong order, and then the FIN. -/
def receivedSecond : Config World Label := thenReceive ⟨awaiting 100, []⟩ (bytePacket 101 66)

def receivedBoth : Config World Label := thenReceive receivedSecond (bytePacket 100 65)

def receivedFin : Config World Label := thenReceive receivedBoth lastPacket

/-- Neither `close` nor `reset` is called. -/
def onlyUsed (label : Label) : Prop := label.isClosing = false

theorem receivedFin_reachable : (oneReader onlyUsed (finLast bytePackets lastPacket)).Reachable
    ⟨awaiting 100, []⟩ receivedFin := by
  have hopen : onlyUsed .receive := rfl
  have hcopy : ∀ packet ∈ bytePackets, ∀ world, finLast bytePackets lastPacket world packet :=
    fun packet hpacket _ => .inr (.inl ⟨packet, hpacket, rfl, rfl, rfl⟩)
  have hsecond : (oneReader onlyUsed (finLast bytePackets lastPacket)).Reachable
      ⟨awaiting 100, []⟩ receivedSecond :=
    thenReceive_reachable _ .refl hopen (hcopy _ (List.mem_cons_of_mem _ List.mem_cons_self) _) rfl
  have hboth : (oneReader onlyUsed (finLast bytePackets lastPacket)).Reachable
      ⟨awaiting 100, []⟩ receivedBoth :=
    thenReceive_reachable _ hsecond hopen (hcopy _ List.mem_cons_self _) (by decide +kernel)
  have hcomplete : receivedBoth.state.Complete bytePackets := by decide +kernel
  exact thenReceive_reachable _ hboth hopen (.inr (.inr ⟨⟨rfl, rfl, rfl⟩, fun _ => hcomplete⟩))
    (by decide +kernel)

theorem end_read_complete_sample :
    none ∈ (thenRead (thenRead receivedFin 10) 10).state.conn.reads ∧
    (thenRead (thenRead receivedFin 10) 10).state.returned = [65, 66] := by
  have hread : none ∈ (thenRead (thenRead receivedFin 10) 10).state.conn.reads := by decide +kernel
  have hfirst := thenRead_reachable receivedFin_reachable rfl (by decide +kernel) 10
    (by decide +kernel)
  have hrun := thenRead_reachable hfirst rfl (by decide +kernel) 10 (by decide +kernel)
  have hfinishes : EndsWith (awaiting 100).conn.localAckNr bytePackets lastPacket :=
    ⟨by decide, rfl, by decide +kernel, by decide⟩
  have hbuffer : (awaiting 100).conn.recvBuffer = .create (256 * 1024) := by decide +kernel
  have hunread : (awaiting 100).conn.reads = [] := by decide +kernel
  have hsealed : (awaiting 100).Sealed := by
    refine ⟨?_, ?_, ?_⟩
    all_goals
      rw [hbuffer]
      rintro ⟨⟩
  have htruthful : (awaiting 100).Truthful := by
    refine ⟨?_, ?_⟩
    · rw [hbuffer]
      rintro _ ⟨⟩
    · rw [hunread]
      rintro ⟨⟩
  have hbetween : (awaiting 100).BetweenReads := by
    rw [BetweenReads, returned, hunread, hbuffer]
    exact ⟨rfl, fun other => by simp [BlockingBuffer.create], rfl⟩
  have hreturned := end_read_complete (fun _ => id) hfinishes (awaiting_tracked 100)
    (by decide +kernel) (by decide +kernel) (by decide +kernel) hsealed htruthful hbetween
      hrun hread
  refine ⟨hread, hreturned.trans ?_⟩
  decide +kernel

end World

end Utp
