import Utp.Receiver.Delivery

/-! # What waits in the reorder queue

Between packets the queue should hold numbers ahead of the next expected one only, and a
selective acknowledgement is built on that. A packet from behind the position breaks it,
and so does a pass that stops at the last number although 0 is there.
-/

namespace Utp

open Async (Chain Config Contract)

namespace World

variable {closing : Bool} {world next : World} {packet : UtpPacket}

/-- Every waiting number lies ahead of the next expected one, within half a cycle. -/
def Spaced (world : World) : Prop :=
  ∀ key ∈ world.conn.recvPacketQueue.keys, 2 ≤ Seq.diff key world.conn.localAckNr ∧
    Seq.diff key world.conn.localAckNr < 2 ^ 15

/-- All numbers from the next expected one up to the last are there, and 0 as well. -/
def FillsUp (world : World) : Prop :=
  world.conn.localAckNr ≠ 65535 ∧ 0 ∈ world.conn.recvPacketQueue.keys ∧
    ∀ seq, world.conn.localAckNr < seq → seq < 65536 → seq ∈ world.conn.recvPacketQueue.keys

/-- A 16-bit number which, if the queue takes it, lies ahead of the position and does not
fill the queue up to the wraparound and beyond. -/
def LiesAhead (world : World) (packet : UtpPacket) : Prop :=
  packet.seqNr < 65536 ∧ (world.conn.localState = .CS_CONNECTED → packet.isReliable = true →
    world.conn.isRefused packet = false →
      Seq.diff packet.seqNr world.conn.localAckNr < 2 ^ 15 ∧ ¬ (world.enqueue packet).FillsUp)

/-- Numbers have 16 bits, the queue is a small one, and nothing waits before the handshake is
over. A FIN is on record only behind the established state. -/
structure InRange (world : World) : Prop where
  ackNr : world.conn.localState = .CS_CONNECTED → world.conn.localAckNr < 65536
  keys : ∀ key ∈ world.conn.recvPacketQueue.items.keys, key < 65536
  capacity : world.conn.recvPacketQueue.capacity ≤ UtpConn.MAX_RECV_QUEUE_SIZE
  fin : world.Gone ∨ world.conn.remoteFinPacket = none
  waiting : ¬ world.Started → world.conn.recvPacketQueue.items = ∅

/-- An empty queue is spaced. -/
theorem spaced_of_empty (hempty : world.conn.recvPacketQueue.items = ∅) : world.Spaced := by
  intro key hkey
  have hmem := CircularQueue.mem_keys.mp hkey
  rw [hempty] at hmem
  cases hmem

/-- Spacing is kept by whatever leaves the receiving side alone. -/
theorem Spaced.aside (hspaced : world.Spaced) (haside : Aside closing world next) :
    next.Spaced := by
  rcases haside.queue with hsame | ⟨hempty, -⟩
  · unfold Spaced
    rw [haside.ackNr, hsame]
    exact hspaced
  · exact spaced_of_empty hempty

theorem InRange.aside (hrange : world.InRange) (haside : Aside closing world next) :
    next.InRange where
  ackNr hstate := by
    rcases haside.state with hsame | hgone
    · rw [haside.ackNr]
      exact hrange.ackNr (hsame.symm.trans hstate)
    · exact absurd hstate hgone.2
  keys key hkey := by
    rcases haside.queue with hsame | ⟨hempty, -⟩
    · exact hrange.keys key (hsame ▸ hkey)
    · rw [hempty] at hkey
      cases hkey
  capacity := haside.capacity ▸ hrange.capacity
  fin := hrange.fin.imp haside.gone haside.finless
  waiting hstarted := by
    have hbefore : ¬ world.Started := fun h => hstarted (h.aside haside)
    rcases haside.queue with hsame | ⟨hempty, -⟩
    · rw [hsame]
      exact hrange.waiting hbefore
    · exact hempty

/-! ## A pass -/

/-- A pass over numbers ahead of the position takes less than half a cycle of them. -/
theorem taken_length_lt {ackNr : Nat} {keys : List Nat}
    (hahead : ∀ key ∈ keys, Seq.diff key ackNr < 2 ^ 15) :
    (Pass.taken ackNr keys).length < 2 ^ 15 := by
  by_contra hlong
  have hlt : 2 ^ 15 - 1 < (Pass.taken ackNr keys).length := by omega
  have hget := List.getElem?_eq_getElem hlt
  have hkey := Pass.taken_getElem? hget
  have hbound := hahead _ ((Pass.taken_sublist _ _).subset (List.getElem_mem hlt))
  rw [hkey, Seq.diff] at hbound
  omega

/-- A number ahead of the position that a pass leaves lies behind all that it takes. -/
theorem taken_length_lt_diff {ackNr key : Nat} {keys : List Nat} (hkey : key < 65536)
    (hpos : 1 ≤ Seq.diff key ackNr) (hleft : key ∉ Pass.taken ackNr keys) :
    (Pass.taken ackNr keys).length < Seq.diff key ackNr := by
  by_contra hle
  have hlt : Seq.diff key ackNr - 1 < (Pass.taken ackNr keys).length := by omega
  have hget := Pass.taken_getElem? (List.getElem?_eq_getElem hlt)
  apply hleft
  have hsame : (Pass.taken ackNr keys)[Seq.diff key ackNr - 1] = key := by
    rw [hget]
    unfold Seq.diff at hpos ⊢
    omega
  exact hsame ▸ List.getElem_mem hlt

/-- One pass over the queue closes the gap, or leaves the waiting numbers ahead of the new
position, unless they fill the queue up. -/
theorem Passed.spaced (hackNr : world.conn.localAckNr < 65536)
    (hkeys : ∀ key ∈ world.conn.recvPacketQueue.keys, key < 65536 ∧
      1 ≤ Seq.diff key world.conn.localAckNr ∧ Seq.diff key world.conn.localAckNr < 2 ^ 15)
    (hfills : ¬ world.FillsUp)
    (hpassed : Passed closing world world.conn.recvPacketQueue.keys next) : next.Spaced := by
  rcases hpassed.queue with ⟨hitems, -⟩ | ⟨hempty, -⟩
  · intro key hkey
    have hleft := CircularQueue.mem_keys.mp hkey
    rw [hitems, OrderedMap.mem_keys_eraseAll] at hleft
    obtain ⟨hmem, hleft⟩ := hleft
    have hqueued := CircularQueue.mem_keys.mpr hmem
    obtain ⟨hlt, hpos, hhalf⟩ := hkeys key hqueued
    have hfew := taken_length_lt fun other hother => (hkeys other hother).2.2
    have hbeyond := taken_length_lt_diff hlt hpos hleft
    have hadvance := Pass.advance_eq hackNr world.conn.recvPacketQueue.keys
    rw [hpassed.ackNr]
    -- The number right behind the last taken one is left only at the wraparound.
    have hgap : Seq.add (Pass.advance world.conn.localAckNr world.conn.recvPacketQueue.keys) 1 ≠
        key := by
      rintro hnext
      have hstops := Pass.advance_stops hackNr world.conn.recvPacketQueue.keys_sorted
        (hnext.symm ▸ hqueued)
      rw [hnext] at hstops
      obtain ⟨hlast, hstart⟩ := hstops.resolve_left hleft
      apply hfills
      refine ⟨hstart, ?_, fun seq hahead hseq => ?_⟩
      · rw [hlast] at hnext
        exact (show key = 0 from hnext.symm) ▸ hqueued
      · have hindex : seq - (world.conn.localAckNr + 1) < (Pass.taken world.conn.localAckNr
            world.conn.recvPacketQueue.keys).length := by omega
        have hget := Pass.taken_getElem? (List.getElem?_eq_getElem hindex)
        have hsame : (Pass.taken world.conn.localAckNr
            world.conn.recvPacketQueue.keys)[seq - (world.conn.localAckNr + 1)] = seq := by
          rw [hget]
          omega
        exact (Pass.taken_sublist _ _).subset (hsame ▸ List.getElem_mem hindex)
    rw [Seq.add_one] at hgap
    unfold Seq.diff at hbeyond hhalf ⊢
    omega
  · exact spaced_of_empty hempty

/-- `#enqueuePacket` brings no number but the packet's own. -/
theorem mem_keys_enqueue {key : Nat}
    (hkey : key ∈ (world.enqueue packet).conn.recvPacketQueue.keys) :
    key = packet.seqNr ∨ key ∈ world.conn.recvPacketQueue.keys := by
  obtain ⟨stored, hstored⟩ := OrderedMap.exists_get? (CircularQueue.mem_keys.mp hkey)
  rcases CircularQueue.mem_entries_enqueue (OrderedMap.get?_eq_some.mp hstored) with
    ⟨rfl, -⟩ | ⟨-, hold⟩
  · exact .inl rfl
  · right
    exact CircularQueue.mem_keys.mpr
      (OrderedMap.mem_keys_of_get? (OrderedMap.get?_eq_some.mpr hold))

/-- Whatever happens while the handler waits for a first pass to end, the pass over the
queue with a packet from ahead in it leaves the queue spaced. -/
theorem LiesAhead.passesTo (hlies : world.LiesAhead packet)
    (hstate : world.conn.localState = .CS_CONNECTED) (hreliable : packet.isReliable = true)
    (hrefused : world.conn.isRefused packet = false) (hrange : world.InRange)
    (hspaced : world.Spaced) : PassesTo closing Spaced world packet := by
  intro later next haside hpassed
  obtain ⟨hseqNr, htaken⟩ := hlies
  obtain ⟨hahead, hfills⟩ := htaken hstate hreliable hrefused
  have hackNr := hrange.ackNr hstate
  have hne : packet.seqNr ≠ world.conn.localAckNr := fun h => by
    simp [UtpConn.isRefused, h] at hrefused
  have hlater := hspaced.aside haside
  have hlaterRange := hrange.aside haside
  have hsame : (later.enqueue packet).conn.localAckNr = world.conn.localAckNr := haside.ackNr
  apply hpassed.spaced (hsame ▸ hackNr)
  · intro key hkey
    rw [hsame]
    rcases mem_keys_enqueue hkey with rfl | hold
    · refine ⟨hseqNr, ?_, hahead⟩
      unfold Seq.diff
      omega
    · have hdistance := hlater key hold
      rw [haside.ackNr] at hdistance
      exact ⟨hlaterRange.keys key (CircularQueue.mem_keys.mp hold), by omega, hdistance.2⟩
  · rcases haside.queue with hqueue | ⟨hempty, -⟩
    · have hkeys : (later.enqueue packet).conn.recvPacketQueue =
          (world.enqueue packet).conn.recvPacketQueue :=
        congrArg (fun queue => queue.enqueue packet.seqNr packet) hqueue
      unfold FillsUp
      rw [hsame, hkeys]
      exact hfills
    · -- The packet alone is not both 0 and the last number.
      rintro ⟨hlast, hzero, hall⟩
      rw [hsame] at hlast hall
      have hsole : ∀ key ∈ (later.enqueue packet).conn.recvPacketQueue.keys, key =
        packet.seqNr := by
        intro key hkey
        refine (mem_keys_enqueue hkey).resolve_right fun hold => ?_
        have hmem := CircularQueue.mem_keys.mp hold
        rw [hempty] at hmem
        cases hmem
      have hfirst := hsole 0 hzero
      have hend := hsole 65535 (hall 65535 (by omega) (by omega))
      omega

/-! ## The handler -/

/-- A packet with a 16-bit number keeps the ranges once the handshake is over. -/
theorem InRange.enqueue (hrange : world.InRange) (hseqNr : packet.seqNr < 65536)
    (hstarted : world.Started) : (world.enqueue packet).InRange where
  ackNr := hrange.ackNr
  keys key hkey := by
    rcases mem_keys_enqueue (CircularQueue.mem_keys.mpr hkey) with rfl | hold
    · exact hseqNr
    · exact hrange.keys key (CircularQueue.mem_keys.mp hold)
  capacity := (CircularQueue.enqueue_capacity _ _ _).trans_le hrange.capacity
  fin := hrange.fin
  waiting hunstarted := absurd hstarted hunstarted

/-- A pass over the queue keeps the ranges. -/
theorem InRange.passed {done : List Nat} (hrange : world.InRange) (hstarted : world.Started)
    (hackNr : world.conn.localAckNr < 65536) (hpassed : Passed closing world done next) :
    next.InRange where
  ackNr _ := by
    rw [hpassed.ackNr]
    exact Pass.advance_lt hackNr _
  keys key hkey := by
    rcases hpassed.queue with ⟨hitems, -⟩ | ⟨hempty, -⟩
    · rw [hitems, OrderedMap.mem_keys_eraseAll] at hkey
      exact hrange.keys key hkey.1
    · rw [hempty] at hkey
      cases hkey
  capacity := hpassed.capacity ▸ hrange.capacity
  fin := by
    rcases hpassed.state with hsame | hgone
    · refine hrange.fin.imp (fun hgone => ?_) hpassed.finless
      simpa only [Gone, Started, hsame] using hgone
    · exact .inl hgone
  waiting hunstarted := by
    rcases hpassed.state with hsame | hgone
    · exact absurd (by rwa [Started, hsame]) hunstarted
    · exact absurd hgone.1 hunstarted

/-- The handshake is over in CS_CONNECTED. -/
theorem started_of_connected (hstate : world.conn.localState = .CS_CONNECTED) : world.Started := by
  simp [Started, hstate]

/-- The ranges are kept while a packet is taken in CS_CONNECTED. -/
theorem InRange.takes (hrange : world.InRange) (hstate : world.conn.localState = .CS_CONNECTED)
    (hseqNr : packet.seqNr < 65536) : Takes closing true (quietly closing true InRange)
      world packet := by
  have hstarted := started_of_connected hstate
  have hpass : ∀ later done next, Aside closing world later →
      Passed closing (later.enqueue packet) done next → next.InRange := by
    intro later done next haside hpassed
    have hlater : later.Started := hstarted.aside haside
    have hqueued := (hrange.aside haside).enqueue hseqNr hlater
    have hackNr : (later.enqueue packet).conn.localAckNr = world.conn.localAckNr := haside.ackNr
    exact hqueued.passed hlater (hackNr ▸ hrange.ackNr hstate) hpassed
  refine ⟨hrange.ackNr hstate, fun later done next haside _ hpassed _ => ?_, fun _ later next => ?_⟩
  · exact hpass later done next haside hpassed
  · intro haside hpassed _
    have hnext := hpass later _ next haside hpassed
    have hgone := gone_acceptFin next packet
    exact ⟨nofun, hnext.keys, hnext.capacity, .inl hgone, fun hunstarted =>
      absurd hgone.1 hunstarted⟩

/-- The next expected number is not among those that wait. -/
theorem Spaced.idle (hspaced : world.Spaced) :
    Seq.add world.conn.localAckNr 1 ∉ world.conn.recvPacketQueue.keys := by
  intro hnext
  have hdistance := (hspaced _ hnext).1
  rw [Seq.add_one, Seq.diff] at hdistance
  omega

/-- The number that the handshake brings. -/
theorem InRange.accept (hrange : world.InRange) (hstarted : ¬ world.Started) (ackNr : Nat) :
    (world.acceptHandshake ackNr).InRange where
  ackNr _ := Nat.mod_lt _ (by decide)
  keys := hrange.keys
  capacity := hrange.capacity
  fin := .inr (hrange.fin.resolve_left fun hgone => hstarted hgone.1)
  waiting _ := hrange.waiting hstarted

/-- The first data of a handshake keeps the ranges. -/
theorem InRange.acceptData (hrange : world.InRange) (hstarted : ¬ world.Started) (ackNr : Nat)
    (data : Bytes) : ((world.acceptFirstData ackNr).append data).InRange := by
  have haccepted := hrange.accept hstarted ackNr
  exact ⟨haccepted.ackNr, haccepted.keys, haccepted.capacity, haccepted.fin, haccepted.waiting⟩

/-- A packet that lies ahead leaves the queue spaced wherever the handler pauses or ends. -/
theorem LiesAhead.handles (hlies : world.LiesAhead packet) (hrange : world.InRange)
    (hspaced : world.Spaced) :
    HandlesTo closing true (quietly closing true InRange) Spaced world packet where
  synSent _ hstate := by
    have hstarted : ¬ world.Started := fun h => h.1 hstate
    exact ⟨hrange.accept hstarted _, spaced_of_empty (hrange.waiting hstarted)⟩
  synRecv _ hstate _ := by
    have hstarted : ¬ world.Started := fun h => h.2 hstate
    exact ⟨hrange.acceptData hstarted _ _, spaced_of_empty (hrange.waiting hstarted)⟩
  idle _ _ := hspaced.idle
  takes hstate hreliable hrefused :=
    ⟨hrange.takes hstate hlies.1, hlies.passesTo hstate hreliable hrefused hrange hspaced⟩

/-- An acknowledgement lies ahead whatever happens before the handler looks at the state. -/
theorem LiesAhead.later (hlies : world.LiesAhead packet)
    (hsame : packet.type ≠ .ST_STATE → next = world) : next.LiesAhead packet := by
  by_cases htype : packet.type = .ST_STATE
  · refine ⟨hlies.1, fun _ hreliable => ?_⟩
    simp [UtpPacket.isReliable, htype] at hreliable
  · exact hsame htype ▸ hlies

/-- A connection begins with its numbers in range and an empty queue. -/
theorem begun_inRange (self : Nat) (utp : UtpSocket) (isInitiator : Bool) (remoteAddr : UtpAddr)
    (sendId recvId seqNr ackNr : Nat) :
    (begun self utp isInitiator remoteAddr sendId recvId seqNr ackNr).InRange ∧
      (begun self utp isInitiator remoteAddr sendId recvId seqNr ackNr).Spaced := by
  cases isInitiator with
  | true =>
      have hcapacity : UtpConn.queueSize true ≤ UtpConn.MAX_RECV_QUEUE_SIZE := by decide
      exact ⟨⟨nofun, nofun, hcapacity, .inr rfl, fun _ => rfl⟩, spaced_of_empty rfl⟩
  | false =>
      have hcapacity : UtpConn.queueSize false ≤ UtpConn.MAX_RECV_QUEUE_SIZE := by decide
      exact ⟨⟨nofun, nofun, hcapacity, .inr rfl, fun _ => rfl⟩, spaced_of_empty rfl⟩

/-- The handshake as a run of the packets that a condition admits. -/
theorem sample_reachable {admits : World → UtpPacket → Prop}
    (hadmits : ∀ world, admits world (synAck 1 100)) :
    (connSystem anyLabel admits).Reachable (connectTo 0 .sample true (.localhost 9000) 2 1 1 0)
      ⟨awaiting 100, []⟩ := by
  have hrun : (connSystem anyLabel admits).Reachable
      (connectTo 0 .sample true (.localhost 9000) 2 1 1 0)
      (established 0 .sample (.localhost 9000) 1 100) :=
    established_reachable trivial hadmits sample_synSent
  exact (show ⟨awaiting 100, []⟩ = established 0 .sample (.localhost 9000) 1 100 by
    rw [awaiting, ← sample_idle]) ▸ hrun

/-- Packets whose number has 16 bits. -/
def narrow (_ : World) (packet : UtpPacket) : Prop := packet.seqNr < 65536

/-- A packet from before the first one. -/
def oldPacket : UtpPacket := { type := .ST_DATA, connId := 1, seqNr := 98, data := some [64] }

end World

end Utp
