import Utp.Conn.System
import Utp.Receiver.Stream

/-! # Reassembly in any order of arrival

Packets handed one after another to a connected receiver, each to the end before
the next. The last of them to arrive decides whether all are delivered: one pass
over the queue does not get across the wraparound.
-/

namespace Utp

open Async (Contract)

/-- The payload of a place in a list of packets, counted from 1. -/
def payloadAt (packets : List UtpPacket) (place : Nat) : Bytes :=
  ((packets[place - 1]?).map UtpPacket.payload).getD []

/-- The payloads of all places are the payloads of the packets. -/
theorem flatMap_payloadAt (packets : List UtpPacket) :
    (List.range packets.length).flatMap (fun index => payloadAt packets (index + 1)) =
      packets.flatMap UtpPacket.payload := by
  induction packets with
  | nil => rfl
  | cons packet rest ih =>
      rw [List.length_cons, List.range_succ_eq_map, List.flatMap_cons, List.flatMap_cons,
        List.flatMap_map, ← ih]
      rfl

/-- The packets of a list, behind a position and its number. -/
def Stream.ofList (ackNr start : Nat) (earlier : Bytes) (packets : List UtpPacket)
    (hfew : packets.length < 65536) : Stream where
  base := ackNr + 65535 * start
  earlier := earlier
  payload := shifted start (payloadAt packets)
  live k i := start ≤ k ∧ k ≤ start + packets.length ∧ start < i ∧ i ≤ start + packets.length
  reached k := k ≤ start + packets.length
  zero := Nat.zero_le _
  unique k i := by omega
  onward k i := by omega
  arrived _ _ hlive := hlive.2.2.2

namespace Stream

variable {ackNr start : Nat} {earlier : Bytes} {packets : List UtpPacket}
  {hfew : packets.length < 65536}

/-- Packets are numbered on from the position. -/
@[simp] theorem number_ofList (i : Nat) :
    (ofList ackNr start earlier packets hfew).number (start + i) = (ackNr + i) % 65536 :=
  number_behind _ rfl i

/-- The packet at a place has its payload. -/
theorem payload_ofList (index : Nat) {packet : UtpPacket}
    (hpacket : packets[index]? = some packet) :
    (ofList ackNr start earlier packets hfew).payload (start + (index + 1)) = packet.payload := by
  have hposition : ¬ start + (index + 1) ≤ start := by omega
  have hindex : start + (index + 1) - start - 1 = index := by omega
  simp only [ofList, shifted, if_neg hposition, payloadAt, hindex, hpacket, Option.map_some,
    Option.getD_some]

/-- Up to the position, there is what was received earlier. -/
theorem bytes_ofList_start : (ofList ackNr start earlier packets hfew).bytes start = earlier := by
  rw [bytes_behind _ rfl, Nat.sub_self]
  exact List.append_nil _

/-- Up to the last packet, all payloads follow. -/
theorem bytes_ofList : (ofList ackNr start earlier packets hfew).bytes (start + packets.length) =
    earlier ++ packets.flatMap UtpPacket.payload := by
  rw [bytes_behind _ rfl, Nat.add_sub_cancel_left, flatMap_payloadAt]
  rfl

end Stream

namespace UtpConn

/-- Hand packets to `handleAtConnected`, each to its end. -/
def handleAll : List UtpPacket → World → Option World
  | [], world => some world
  | packet :: rest, world => ((handleAtConnected packet).run world).bind fun result =>
      handleAll rest result.1

/-- Packets are handed over one after the other. -/
theorem handleAll_append (front rest : List UtpPacket) (world : World) :
    handleAll (front ++ rest) world = (handleAll front world).bind (handleAll rest) := by
  induction front generalizing world with
  | nil => rfl
  | cons packet front ih =>
      rw [List.cons_append, handleAll, handleAll, Option.bind_assoc]
      simp only [ih]

end UtpConn

namespace World

/-! ## Nothing in the handler waits for another task -/

/-- Handing a packet to the socket never waits for another task. -/
theorem udpSend_prompt (calledIn : Option UtpConnState) (packet : UtpPacket)
    (remoteAddr : UtpAddr) : (UtpSocket.sendUtpPacket calledIn packet remoteAddr).Prompt := by
  intro world
  simp only [Async.pure_bind', Async.bind_eq]
  split
  next => trivial
  next =>
    refine .bind .modify fun _ => .bind ⟨fun _ => rfl, trivial⟩ fun _ => ?_
    split
    next => trivial
    next => split <;> trivial

/-- Sending an unreliable packet never waits for another task. -/
theorem sendUtpPacket_prompt {packet : UtpPacket} (hpacket : packet.isReliable = false) :
    (UtpConn.sendUtpPacket packet).Prompt := by
  refine .bind .modify fun _ => fun world => ?_
  simp only [Async.pure_bind', hpacket, Bool.and_false, Bool.false_eq_true, if_false]
  split
  next => trivial
  next => exact .awaited (udpSend_prompt _ _ _)

theorem sendAck_prompt : UtpConn.sendAck.Prompt := by
  refine .bind .get fun world => ?_
  split
  next => trivial
  next => exact .attempt (.discard (.awaited (sendUtpPacket_prompt rfl))) fun _ => trivial

/-- Serving the pending reads never waits for another task. -/
theorem resolveReaders_prompt (laps : Nat) : (BlockingBuffer.resolveReaders laps).Prompt := by
  induction laps with
  | zero => trivial
  | succ laps ih =>
      intro buffer
      simp only [Async.pure_bind', Async.bind_eq]
      split
      next => trivial
      next =>
        split
        next => trivial
        next => exact .bind (.awaited .modify) fun _ => .bind .modify fun _ => ih

/-- Writing to the receive buffer never waits for another task. -/
theorem writeRecvBuffer_prompt (data : Bytes) : (UtpConn.writeRecvBuffer data).Prompt := by
  refine .discard (.awaited (.zoom (.bind (.awaited .modify) fun _ => .bind .get fun _ => ?_)))
  exact .bind (resolveReaders_prompt _) fun _ => trivial

theorem deliver_prompt (packet : UtpPacket) : (UtpConn.deliver packet).Prompt := by
  unfold UtpConn.deliver
  split
  next => trivial
  next data _ =>
    split
    next => exact .attempt (writeRecvBuffer_prompt data) fun _ => trivial
    next => trivial

/-- A pass over the queue never waits for another task. -/
theorem processKeys_prompt (keys : List Nat) : (UtpConn.processKeys keys).Prompt := by
  induction keys with
  | nil => trivial
  | cons seq rest ih =>
      intro world
      simp only [Async.pure_bind', Async.bind_eq]
      split
      next => exact ih
      next =>
        refine .bind .modify fun _ => ?_
        split
        next => exact ih
        next packet _ => exact .bind (deliver_prompt packet) fun _ => ih

/-- Taking a data packet never waits for another task. -/
theorem insertPacket_prompt {packet : UtpPacket} (hdata : packet.type = .ST_DATA) :
    (UtpConn.insertPacket packet).Prompt := by
  refine .bind .modify fun _ => .bind (.awaited fun world => processKeys_prompt _) fun _ => ?_
  rw [hdata]
  exact .bind sendAck_prompt fun _ => trivial

/-! ## One data packet -/

variable {closing : Bool}

/-- Behind the enqueue of a data packet comes one pass. -/
theorem insertPacket_passes {packet : UtpPacket} (hdata : packet.type = .ST_DATA) (world : World) :
    ∃ next result, (UtpConn.insertPacket packet).run world = some (next, result) ∧
      Passed closing (world.enqueue packet) (world.enqueue packet).conn.recvPacketQueue.keys
        next := by
  let quiet : Contract World := ⟨fun _ => True, Aside closing, fun _ _ => True⟩
  have htolerant : Tolerant closing true quiet :=
    ⟨fun _ _ _ _ => trivial, fun _ _ haside => haside.anyhow, fun _ _ => trivial⟩
  have hmeets : (UtpConn.insertPacket packet).Meets quiet (fun _ _ next =>
      Passed closing (world.enqueue packet) (world.enqueue packet).conn.recvPacketQueue.keys next)
      world world := by
    refine Async.meets_bind.mpr (Async.meets_modify.mpr (Async.meets_bind.mpr
      (htolerant.awaited ((processReceivedPackets_meets htolerant fun _ _ _ _ _ =>
        trivial).mono ?_))))
    rintro _ _ passed ⟨rfl, hpassed, -⟩
    refine ⟨trivial, fun later _ hrely => ?_⟩
    simp only [hdata, reduceCtorEq, if_false]
    refine Async.meets_bind.mpr ((htolerant.meets sendAck_aside trivial).mono ?_)
    rintro (error | _) _ next ⟨-, haside⟩ <;> exact
      (hpassed.aside hrely.toAside).aside haside.toAside
  obtain ⟨next, result, hrun⟩ := (insertPacket_prompt hdata).exists_run world
  obtain ⟨-, hpassed⟩ := hmeets.of_run (fun state => Aside.refl state) hrun
  exact ⟨next, result, hrun, hpassed⟩

/-- A pass that does not find the next number does nothing. -/
theorem run_processKeys_idle {world : World} {keys : List Nat}
    (hnext : Seq.add world.conn.localAckNr 1 ∉ keys) :
    (UtpConn.processKeys keys).run world = some (world, .ok ()) := by
  induction keys with
  | nil => rfl
  | cons seq rest ih =>
      rw [List.mem_cons, not_or] at hnext
      simp only [UtpConn.processKeys, Async.bind_eq, Async.run_bind, Async.run_get,
        Option.bind_some]
      rw [if_pos hnext.1]
      exact ih hnext.2

/-- A packet that is not refused is inserted. A full queue without a packet to deliver
makes no difference. -/
theorem run_handleAtConnected {world : World} {packet : UtpPacket}
    (hstate : world.conn.localState = .CS_CONNECTED) (hdata : packet.type = .ST_DATA)
    (hrefused : world.conn.isRefused packet = false)
    (hroom : world.conn.recvPacketQueue.size < world.conn.recvPacketQueue.capacity ∨
      Seq.add world.conn.localAckNr 1 ∉ world.conn.recvPacketQueue.items.keys) :
    (UtpConn.handleAtConnected packet).run world = (UtpConn.insertPacket packet).run world := by
  have hclosed : world.conn.isClosed = false := by simp [UtpConn.isClosed, hstate]
  by_cases hfull : world.conn.recvPacketQueue.capacity ≤ world.conn.recvPacketQueue.size
  · have hidle : UtpConn.processReceivedPackets.run world = some (world, .ok ()) :=
      run_processKeys_idle fun h =>
        hroom.resolve_left (Nat.not_lt.mpr hfull) (CircularQueue.mem_keys.mp h)
    simp [UtpConn.handleAtConnected, Async.run_bind, hclosed, hdata, hrefused, hfull, hidle]
  · simp [UtpConn.handleAtConnected, Async.run_bind, hclosed, hdata, hrefused, hfull]

/-- The same through `handleIncomingPacket`. -/
theorem run_handleIncomingPacket {world : World} {packet : UtpPacket}
    (hstate : world.conn.localState = .CS_CONNECTED) (hdata : packet.type = .ST_DATA)
    (hrefused : world.conn.isRefused packet = false)
    (hroom : world.conn.recvPacketQueue.size < world.conn.recvPacketQueue.capacity ∨
      Seq.add world.conn.localAckNr 1 ∉ world.conn.recvPacketQueue.items.keys) :
    ∃ next result,
      (Async.discard (UtpConn.handleIncomingPacket packet)).run world = some (next, result) ∧
      Passed closing (world.enqueue packet) (world.enqueue packet).conn.recvPacketQueue.keys
        next := by
  obtain ⟨next, result, hrun, hpassed⟩ := insertPacket_passes hdata world
  rw [← run_handleAtConnected hstate hdata hrefused hroom] at hrun
  have hnoted : Aside closing next next.noteHandled := .of_same rfl rfl rfl rfl rfl rfl
  cases result with
  | error error =>
      refine ⟨next, .error error, ?_, hpassed⟩
      simp [UtpConn.handleIncomingPacket, UtpConn.handleInState, Async.discard, Async.run_bind,
        hdata, hstate, hrun]
  | ok handled =>
      cases handled with
      | false =>
          refine ⟨next, .ok (), ?_, hpassed⟩
          simp [UtpConn.handleIncomingPacket, UtpConn.handleInState, Async.discard, Async.run_bind,
            hdata, hstate, hrun]
      | true =>
          refine ⟨next.noteHandled, .ok (), ?_, hpassed.aside hnoted⟩
          simp [UtpConn.handleIncomingPacket, UtpConn.handleInState, Async.discard, Async.run_bind,
            hdata, hstate, hrun]

/-! ## The packets of a range of numbers -/

/-- The packets carry the numbers that follow on `ackNr`, one by one. -/
def Follows (ackNr : Nat) (packets : List UtpPacket) : Prop :=
  packets.map UtpPacket.seqNr = (List.range packets.length).map fun index : Nat =>
    Seq.add ackNr (index + 1)

instance (ackNr : Nat) (packets : List UtpPacket) : Decidable (Follows ackNr packets) :=
  inferInstanceAs (Decidable (_ = _))

/-- The number of a packet tells its place. -/
theorem Follows.seqNr {ackNr : Nat} {packets : List UtpPacket} (hfollows : Follows ackNr packets)
    {index : Nat} {packet : UtpPacket} (hpacket : packets[index]? = some packet) :
    packet.seqNr = (ackNr + (index + 1)) % 65536 := by
  have hnumber := congrArg (fun numbers : List Nat => numbers[index]?) hfollows
  have hindex := (List.getElem?_eq_some_iff.mp hpacket).1
  simp only [List.getElem?_map, hpacket, Option.map_some, List.getElem?_range hindex,
    Option.some.injEq] at hnumber
  rw [hnumber]
  exact Seq.add_nat ackNr (index + 1)

/-- A packet's distance from the start is its place in the range. -/
theorem Follows.place {ackNr : Nat} {packets : List UtpPacket} (hfollows : Follows ackNr packets)
    (hfew : packets.length < 65536) {packet : UtpPacket} (hpacket : packet ∈ packets) :
    0 < Seq.diff packet.seqNr ackNr ∧ Seq.diff packet.seqNr ackNr ≤ packets.length ∧
      packets[Seq.diff packet.seqNr ackNr - 1]? = some packet := by
  obtain ⟨index, hindex⟩ := List.mem_iff_getElem?.mp hpacket
  have hlt := (List.getElem?_eq_some_iff.mp hindex).1
  have hplace : Seq.diff packet.seqNr ackNr = index + 1 := by
    rw [hfollows.seqNr hindex, Seq.diff]
    omega
  rw [hplace]
  exact ⟨Nat.succ_pos _, hlt, hindex⟩

/-- No two packets carry the same number. -/
theorem Follows.eq_of_seqNr {ackNr : Nat} {packets : List UtpPacket}
    (hfollows : Follows ackNr packets) (hfew : packets.length < 65536) {packet other : UtpPacket}
    (hpacket : packet ∈ packets) (hother : other ∈ packets) (hseqNr : packet.seqNr = other.seqNr) :
    packet = other := by
  have hleft := (hfollows.place hfew hpacket).2.2
  have hright := (hfollows.place hfew hother).2.2
  rw [hseqNr] at hleft
  exact Option.some.inj (hleft.symm.trans hright)

/-- The packets are distinct, as their numbers are. -/
theorem Follows.nodup {ackNr : Nat} {packets : List UtpPacket} (hfollows : Follows ackNr packets)
    (hfew : packets.length < 65536) : packets.Nodup := by
  refine .of_map UtpPacket.seqNr (hfollows ▸ List.nodup_range.map_on ?_)
  intro index hindex other hother heq
  rw [List.mem_range] at hindex hother
  unfold Seq.add at heq
  omega

/-! ## The invariant between two packets -/

/-- The packets in `arrived` have been handed over. Those up to `position` are
delivered, and the others are in the queue. -/
structure Reassembling (ackNr start : Nat) (earlier : Bytes) (packets : List UtpPacket)
    (hfew : packets.length < 65536) (arrived : List UtpPacket) (position : Nat) (world : World) :
    Prop where
  good : world.Good (.ofList ackNr start earlier packets hfew)
  connected : world.conn.localState = .CS_CONNECTED
  finless : world.conn.remoteFinPacket = none
  room : packets.length ≤ world.conn.recvPacketQueue.capacity
  advanced : world.conn.advanced = start + position
  keys : ∀ key, key ∈ world.conn.recvPacketQueue.items.keys ↔
    ∃ packet ∈ arrived, packet.seqNr = key ∧ position < Seq.diff key ackNr
  delivered : ∀ packet ∈ packets, Seq.diff packet.seqNr ackNr ≤ position → packet ∈ arrived
  settled : world.Settled

section Step

variable {ackNr start : Nat} {earlier : Bytes} {packets arrived : List UtpPacket}
  {hfew : packets.length < 65536} {position : Nat} {world : World}

/-- The number of the receiver tells the position. -/
theorem Reassembling.localAckNr
    (hworld : Reassembling ackNr start earlier packets hfew arrived position world) :
    world.conn.localAckNr = (ackNr + position) % 65536 := by
  rw [hworld.good.ackNr, hworld.advanced, Stream.number_ofList]

/-- No more is delivered than was sent. -/
theorem Reassembling.position_le
    (hworld : Reassembling ackNr start earlier packets hfew arrived position world) :
    position ≤ packets.length := by
  have hreached : world.conn.advanced ≤ start + packets.length := hworld.good.reached
  rw [hworld.advanced] at hreached
  omega

/-- The queue holds fewer packets than have arrived, and so has room. -/
theorem Reassembling.size_lt
    (hworld : Reassembling ackNr start earlier packets hfew arrived position world)
    {packet : UtpPacket} (hnodup : (arrived ++ [packet]).Nodup)
    (hsubset : ∀ other ∈ arrived ++ [packet], other ∈ packets) :
    world.conn.recvPacketQueue.size < world.conn.recvPacketQueue.capacity := by
  have hkeys : world.conn.recvPacketQueue.items.keys ⊆ arrived.map UtpPacket.seqNr :=
    fun key hkey => by
      obtain ⟨other, hother, hseqNr, -⟩ := (hworld.keys key).mp hkey
      exact List.mem_map.mpr ⟨other, hother, hseqNr⟩
  have hsize := (List.subperm_of_subset (OrderedMap.keys_nodup _) hkeys).length_le
  have hcount := (List.subperm_of_subset hnodup hsubset).length_le
  have hroom := hworld.room
  rw [OrderedMap.length_keys, List.length_map] at hsize
  rw [List.length_append, List.length_singleton] at hcount
  exact Nat.lt_of_lt_of_le (Nat.lt_of_le_of_lt hsize hcount) hroom

/-- A packet that has not arrived lies ahead of the position. -/
theorem Reassembling.ahead
    (hworld : Reassembling ackNr start earlier packets hfew arrived position world)
    {packet : UtpPacket} (hpacket : packet ∈ packets) (hnew : packet ∉ arrived) :
    position < Seq.diff packet.seqNr ackNr :=
  Nat.lt_of_not_le fun h => hnew (hworld.delivered packet hpacket h)

/-- A packet that has not arrived is not refused. -/
theorem Reassembling.not_refused
    (hworld : Reassembling ackNr start earlier packets hfew arrived position world)
    (hfollows : Follows ackNr packets) {packet : UtpPacket} (hpacket : packet ∈ packets)
    (hnew : packet ∉ arrived) : world.conn.isRefused packet = false := by
  have hahead := hworld.ahead hpacket hnew
  have hplace := hfollows.place hfew hpacket
  have hne : packet.seqNr ≠ world.conn.localAckNr := fun h => by
    rw [h, hworld.localAckNr, Seq.diff] at hahead
    omega
  simp [UtpConn.isRefused, hne, hworld.finless]

/-- A packet may enter the queue under its number. -/
theorem Reassembling.good_enqueue
    (hworld : Reassembling ackNr start earlier packets hfew arrived position world)
    (hfollows : Follows ackNr packets) {packet : UtpPacket} (hpacket : packet ∈ packets) :
    (world.enqueue packet).Good (.ofList ackNr start earlier packets hfew) := by
  obtain ⟨hpos, hle, hindex⟩ := hfollows.place hfew hpacket
  have hpred : Seq.diff packet.seqNr ackNr - 1 + 1 = Seq.diff packet.seqNr ackNr := by omega
  have hreached := hworld.position_le
  refine hworld.good.enqueue (fun h => nomatch hworld.connected.symm.trans h)
    ⟨start + Seq.diff packet.seqNr ackNr, ?_, ?_, ?_⟩
  · rw [hworld.advanced]
    simp only [Stream.ofList]
    omega
  · rw [← hpred, Stream.payload_ofList _ hindex]
  · rw [Stream.number_ofList]
    exact (hfollows.seqNr hindex).trans (by rw [hpred])

/-- The queue holds the packets that have arrived ahead of the position. -/
theorem Reassembling.mem_keys_enqueue
    (hworld : Reassembling ackNr start earlier packets hfew arrived position world)
    {packet : UtpPacket} (hahead : position < Seq.diff packet.seqNr ackNr)
    (hroom : world.conn.recvPacketQueue.size < world.conn.recvPacketQueue.capacity) (key : Nat) :
    key ∈ (world.enqueue packet).conn.recvPacketQueue.items.keys ↔
      ∃ other ∈ arrived ++ [packet], other.seqNr = key ∧ position < Seq.diff key ackNr := by
  have hitems : (world.enqueue packet).conn.recvPacketQueue.items =
      world.conn.recvPacketQueue.items.set packet.seqNr packet :=
    CircularQueue.enqueue_of_room _ _ (.inr hroom)
  rw [hitems, OrderedMap.mem_keys_set, hworld.keys]
  simp only [List.mem_append, List.mem_singleton, or_and_right, exists_or, exists_eq_left]
  exact or_congr Iff.rfl ⟨fun h => ⟨h.symm, h ▸ hahead⟩, fun h => h.1.symm⟩

/-- The keys that a pass takes are those of the next places. -/
theorem mem_taken_iff {keys : List Nat} {taken : List Nat}
    (htaken : taken = Pass.taken ((ackNr + position) % 65536) keys)
    (hbound : position + taken.length < 65536) {key : Nat} (hkey : key < 65536) :
    key ∈ taken ↔ position < Seq.diff key ackNr ∧
      Seq.diff key ackNr ≤ position + taken.length := by
  have hnumber : ∀ index key, taken[index]? = some key →
      key = (ackNr + position + 1 + index) % 65536 := fun index key hindex => by
    rw [htaken] at hindex
    have := Pass.taken_getElem? hindex
    omega
  constructor
  · intro hmem
    obtain ⟨index, hindex⟩ := List.mem_iff_getElem?.mp hmem
    have hlt := (List.getElem?_eq_some_iff.mp hindex).1
    have := hnumber index key hindex
    unfold Seq.diff
    omega
  · rintro ⟨hbehind, hle⟩
    have hlt : Seq.diff key ackNr - (position + 1) < taken.length := by omega
    have hget := hnumber _ _ (List.getElem?_eq_getElem hlt)
    have hsame : taken[Seq.diff key ackNr - (position + 1)] = key := by
      rw [hget]
      unfold Seq.diff at hbehind ⊢
      omega
    exact hsame ▸ List.getElem_mem hlt

/-- A packet that arrives is enqueued, and a pass moves the position on. -/
theorem Reassembling.step
    (hworld : Reassembling ackNr start earlier packets hfew arrived position world)
    (hfollows : Follows ackNr packets) {packet : UtpPacket} (hdata : packet.type = .ST_DATA)
    (hnodup : (arrived ++ [packet]).Nodup)
    (hsubset : ∀ other ∈ arrived ++ [packet], other ∈ packets) :
    ∃ next result taken, (UtpConn.handleAtConnected packet).run world = some (next, result) ∧
      taken = Pass.taken world.conn.localAckNr (world.enqueue packet).conn.recvPacketQueue.keys ∧
      Passed false (world.enqueue packet) (world.enqueue packet).conn.recvPacketQueue.keys next ∧
      Reassembling ackNr start earlier packets hfew (arrived ++ [packet])
        (position + taken.length) next := by
  have hpacket : packet ∈ packets := hsubset packet (by simp)
  have hnew : packet ∉ arrived := fun h =>
    (List.nodup_append.mp hnodup).2.2 packet h packet (by simp) rfl
  have hroom := hworld.size_lt hnodup hsubset
  obtain ⟨next, result, hrun, hpassed⟩ := insertPacket_passes hdata world
  rw [← run_handleAtConnected hworld.connected hdata
    (hworld.not_refused hfollows hpacket hnew) (.inl hroom)] at hrun
  obtain ⟨taken, htaken⟩ : ∃ taken, taken = Pass.taken world.conn.localAckNr
    (world.enqueue packet).conn.recvPacketQueue.keys := ⟨_, rfl⟩
  refine ⟨next, result, taken, hrun, htaken, hpassed, ?_⟩
  have hahead := hworld.ahead hpacket hnew
  have hconnected := hpassed.connected rfl hworld.connected
  have hgood : next.Good (.ofList ackNr start earlier packets hfew) :=
    Phase.connected ((hworld.good_enqueue hfollows hpacket).passed List.prefix_rfl hpassed)
      hconnected
  have hadvanced : next.conn.advanced = start + (position + taken.length) := by
    rw [hpassed.advanced, ← Nat.add_assoc, ← hworld.advanced, htaken]
    rfl
  have hbound : position + taken.length ≤ packets.length := by
    have hreached : next.conn.advanced ≤ start + packets.length := hgood.reached
    rw [hadvanced] at hreached
    omega
  have hkeys := hworld.mem_keys_enqueue hahead hroom
  have hmem : ∀ {key : Nat}, key < 65536 → (key ∈ taken ↔ position < Seq.diff key ackNr ∧
      Seq.diff key ackNr ≤ position + taken.length) := fun hkey =>
    mem_taken_iff (hworld.localAckNr ▸ htaken) (by omega) hkey
  have hseqNr : ∀ other ∈ packets, other.seqNr < 65536 := fun other hother => by
    rw [hfollows.seqNr (hfollows.place hfew hother).2.2]
    omega
  have hpresent : ∀ key ∈ taken, ∃ other ∈ arrived ++ [packet], other.seqNr = key := by
    intro key hkey
    have hqueued := (Pass.taken_sublist _ _).subset (htaken ▸ hkey)
    obtain ⟨other, hother, heq, -⟩ := (hkeys key).mp (CircularQueue.mem_keys.mp hqueued)
    exact ⟨other, hother, heq⟩
  refine ⟨hgood, hconnected, hpassed.finless hworld.finless, ?_, hadvanced, ?_, ?_,
    hpassed.settled (hworld.good_enqueue hfollows hpacket).localAckNr_lt⟩
  · rw [hpassed.capacity]
    exact hworld.room.trans (CircularQueue.enqueue_capacity _ _ _).ge
  · intro key
    rcases hpassed.queue with ⟨hitems, -⟩ | ⟨-, hgone, -⟩
    · have hleft : key ∉ Pass.taken (world.enqueue packet).conn.localAckNr
          (world.enqueue packet).conn.recvPacketQueue.keys ↔ key ∉ taken := by rw [htaken]; rfl
      rw [hitems, OrderedMap.mem_keys_eraseAll, hkeys, hleft]
      constructor
      · rintro ⟨⟨other, hother, rfl, hbehind⟩, hkey⟩
        rw [hmem (hseqNr other (hsubset other hother))] at hkey
        exact ⟨other, hother, rfl, by omega⟩
      · rintro ⟨other, hother, rfl, hbehind⟩
        rw [hmem (hseqNr other (hsubset other hother))]
        exact ⟨⟨other, hother, rfl, by omega⟩, by omega⟩
    · exact absurd hconnected hgone.2
  · intro other hother hle
    by_cases hbefore : Seq.diff other.seqNr ackNr ≤ position
    · exact List.mem_append_left _ (hworld.delivered other hother hbefore)
    · obtain ⟨same, hsame, heq⟩ := hpresent other.seqNr
        ((hmem (hseqNr other hother)).mpr ⟨by omega, hle⟩)
      exact hfollows.eq_of_seqNr hfew (hsubset same hsame) hother heq ▸ hsame

/-- Handing over any number of packets goes on with the reassembly. -/
theorem Reassembling.run
    (hworld : Reassembling ackNr start earlier packets hfew arrived position world)
    (hfollows : Follows ackNr packets) (hdata : ∀ packet ∈ packets, packet.type = .ST_DATA)
    (more : List UtpPacket) (hnodup : (arrived ++ more).Nodup)
    (hsubset : ∀ other ∈ arrived ++ more, other ∈ packets) :
    ∃ next position, UtpConn.handleAll more world = some next ∧
      Reassembling ackNr start earlier packets hfew (arrived ++ more) position next := by
  induction more generalizing arrived position world with
  | nil => exact ⟨world, position, rfl, by rwa [List.append_nil]⟩
  | cons packet more ih =>
      rw [List.append_cons] at hnodup hsubset ⊢
      obtain ⟨next, result, _, hrun, _, _, hnext⟩ := hworld.step hfollows
        (hdata packet (hsubset packet (by simp)))
        (hnodup.sublist (List.sublist_append_left _ _))
        fun other hother => hsubset other (List.mem_append_left _ hother)
      rw [UtpConn.handleAll, hrun]
      exact ih hnext hnodup hsubset

/-- The queue is empty and everything delivered exactly at the last position. -/
theorem Reassembling.delivered_iff
    (hworld : Reassembling ackNr start earlier packets hfew arrived position world)
    (hfollows : Follows ackNr packets) (hsubset : ∀ other ∈ arrived, other ∈ packets) :
    (world.conn.localAckNr = (ackNr + packets.length) % 65536 ∧
      world.conn.recvPacketQueue.items = ∅ ∧
      world.conn.recvBuffer.appended = earlier ++ packets.flatMap UtpPacket.payload) ↔
      position = packets.length := by
  have hle := hworld.position_le
  constructor
  · rintro ⟨hackNr, -, -⟩
    rw [hworld.localAckNr] at hackNr
    omega
  · rintro rfl
    refine ⟨hworld.localAckNr, ?_, ?_⟩
    · refine OrderedMap.size_eq_zero.mp ?_
      rw [← OrderedMap.length_keys, List.length_eq_zero_iff, List.eq_nil_iff_forall_not_mem]
      intro key hkey
      obtain ⟨other, hother, rfl, hbehind⟩ := (hworld.keys key).mp hkey
      have hplace := hfollows.place hfew (hsubset other hother)
      omega
    · rw [hworld.good.appended, hworld.advanced, Stream.bytes_ofList]

/-- A packet ahead of the position that has arrived is in the queue, under the number
of its place. -/
theorem Reassembling.next_queued
    (hworld : Reassembling ackNr start earlier packets hfew arrived position world)
    (hfollows : Follows ackNr packets) {packet : UtpPacket}
    (hpacket : packets[position]? = some packet) (harrived : packet ∈ arrived) :
    Seq.add world.conn.localAckNr 1 ∈ world.conn.recvPacketQueue.items.keys := by
  have hlt := (List.getElem?_eq_some_iff.mp hpacket).1
  have hseqNr := hfollows.seqNr hpacket
  refine (hworld.keys _).mpr ⟨packet, harrived, ?_, ?_⟩
  · rw [hseqNr, Seq.add_one, hworld.localAckNr]
    omega
  · rw [Seq.add_one, hworld.localAckNr, Seq.diff]
    omega

/-- All are delivered unless the numbers wrap around and the packet that comes last
lies before the wraparound. -/
theorem Reassembling.last
    (hworld : Reassembling ackNr start earlier packets hfew arrived position world)
    (hfollows : Follows ackNr packets) (hackNr : ackNr < 65536)
    (hcount : packets.length ≤ UtpConn.MAX_RECV_QUEUE_SIZE)
    {packet : UtpPacket} (hnodup : (arrived ++ [packet]).Nodup)
    (hsubset : ∀ other ∈ arrived ++ [packet], other ∈ packets)
    (hall : ∀ other ∈ packets, other ∈ arrived ++ [packet])
    {taken : List Nat} {next : World} (htaken : taken = Pass.taken world.conn.localAckNr
      (world.enqueue packet).conn.recvPacketQueue.keys)
    (hnext : Reassembling ackNr start earlier packets hfew (arrived ++ [packet])
      (position + taken.length) next) :
    position + taken.length = packets.length ↔
      ¬ (65536 ≤ ackNr + packets.length ∧ ackNr < packet.seqNr) := by
  have hle := hnext.position_le
  have hpacket := hsubset packet (by simp)
  have hnew : packet ∉ arrived := fun h =>
    (List.nodup_append.mp hnodup).2.2 packet h packet (by simp) rfl
  have hahead := hworld.ahead hpacket hnew
  obtain ⟨hpos, hplace, hindex⟩ := hfollows.place hfew hpacket
  have hseqNr := hfollows.seqNr hindex
  have hlocalAckNr := hworld.localAckNr
  have hqueue : packets.length ≤ 8192 := hcount
  constructor
  · rintro hcomplete ⟨hcrosses, hbefore⟩
    -- The position stays below the packet until it comes, and then at most reaches 65535.
    have hstop := Pass.taken_le (world.enqueue packet).conn.recvPacketQueue.keys_sorted
      (show world.conn.localAckNr < 65535 by omega)
    rw [← htaken] at hstop
    omega
  · intro hcondition
    by_contra hincomplete
    have hlt : position + taken.length < packets.length := by omega
    have hget := List.getElem?_eq_getElem hlt
    have hlast := hnext.settled (hnext.next_queued hfollows hget
      (hall _ (List.getElem_mem hlt)))
    have hlastAckNr := hnext.localAckNr
    have hfirst : position < packets.length := by omega
    have hgetFirst := List.getElem?_eq_getElem hfirst
    have hmoved : taken ≠ [] := by
      rintro rfl
      have hqueued : Seq.add world.conn.localAckNr 1 ∈
          (world.enqueue packet).conn.recvPacketQueue.keys := by
        have hnumber : packets[position].seqNr = Seq.add world.conn.localAckNr 1 := by
          rw [hfollows.seqNr hgetFirst, Seq.add_one, hlocalAckNr]
          omega
        refine CircularQueue.mem_keys.mpr ((hworld.mem_keys_enqueue hahead
          (hworld.size_lt hnodup hsubset) _).mpr
          ⟨packets[position], hall _ (List.getElem_mem _), hnumber, ?_⟩)
        rw [Seq.add_one, hlocalAckNr, Seq.diff]
        omega
      exact List.not_mem_nil (htaken ▸ Pass.mem_taken hqueued)
    have hlength := List.length_pos_iff.mpr hmoved
    -- The packet lies behind the wraparound, so the next one had arrived before.
    have hother : packets[position] ≠ packet := fun h => by
      have := hfollows.seqNr hgetFirst
      rw [h] at this
      omega
    have harrived : packets[position] ∈ arrived := by
      have hmem := hall _ (List.getElem_mem hfirst)
      simp only [List.mem_append, List.mem_singleton] at hmem
      exact hmem.resolve_right hother
    have hbefore := hworld.settled (hworld.next_queued hfollows hgetFirst harrived)
    omega

end Step

/-- Handing over `arrivals` delivers `packets`, in order. -/
def Reassembles (packets arrivals : List UtpPacket) (world : World) : Prop :=
  ∃ next, UtpConn.handleAll arrivals world = some next ∧
    next.conn.localAckNr = (world.conn.localAckNr + packets.length) % 65536 ∧
    next.conn.recvPacketQueue.items = ∅ ∧
    next.conn.recvBuffer.appended =
      world.conn.recvBuffer.appended ++ packets.flatMap UtpPacket.payload

/-- A connected receiver with nothing in its queue. -/
structure Awaiting (world : World) : Prop where
  connected : world.conn.localState = .CS_CONNECTED
  finless : world.conn.remoteFinPacket = none
  localAckNr : world.conn.localAckNr < 65536
  empty : world.conn.recvPacketQueue.items = ∅
  capacity : world.conn.recvPacketQueue.capacity ≤ UtpConn.MAX_RECV_QUEUE_SIZE

/-- A receiver with an empty queue has everything before it. -/
theorem Awaiting.reassembling {world : World} (hworld : world.Awaiting) {packets : List UtpPacket}
    (hfollows : Follows world.conn.localAckNr packets)
    (hcount : packets.length ≤ world.conn.recvPacketQueue.capacity)
    (hfew : packets.length < 65536) :
    Reassembling world.conn.localAckNr world.conn.advanced world.conn.recvBuffer.appended packets
      hfew [] 0 world where
  good :=
    { ackNr := by
        have hlt := hworld.localAckNr
        simp only [Stream.number, Stream.ofList]
        omega
      appended := Stream.bytes_ofList_start.symm
      reached := Nat.le_add_right _ _
      holds := hworld.empty ▸ Stream.holds_empty _
      accepted := fun h => nomatch hworld.connected.symm.trans h
      waiting := fun h => nomatch hworld.connected.symm.trans h }
  connected := hworld.connected
  finless := hworld.finless
  room := hcount
  advanced := rfl
  keys key := by simp [hworld.empty]
  delivered packet hpacket hle := by
    have hplace := hfollows.place hfew hpacket
    omega
  settled := settled_of_empty hworld.empty

/-- However the packets are ordered on arrival, they are all delivered in order,
except where their numbers wrap around and the last to arrive lies before the
wraparound. -/
theorem reassembles_iff {world : World} (hworld : world.Awaiting)
    {packets arrivals : List UtpPacket}
    (hdata : ∀ packet ∈ packets, packet.type = .ST_DATA)
    (hfollows : Follows world.conn.localAckNr packets)
    (hcount : packets.length ≤ world.conn.recvPacketQueue.capacity)
    (hperm : arrivals.Perm packets) :
    Reassembles packets arrivals world ↔
      ¬ (65536 ≤ world.conn.localAckNr + packets.length ∧
        ∃ last, arrivals.getLast? = some last ∧ world.conn.localAckNr < last.seqNr) := by
  have hcount' := hcount.trans hworld.capacity
  have hfew : packets.length < 65536 := Nat.lt_of_le_of_lt hcount' (by decide)
  have hstart := hworld.reassembling hfollows hcount hfew
  have hnodup : arrivals.Nodup := hperm.nodup_iff.mpr (hfollows.nodup hfew)
  have hsubset : ∀ other ∈ arrivals, other ∈ packets := fun _ => hperm.mem_iff.mp
  rcases List.eq_nil_or_concat' arrivals with rfl | ⟨front, last, rfl⟩
  · have hdelivered := (hstart.delivered_iff hfollows nofun).mpr
      (List.length_eq_zero_iff.mpr (List.perm_nil.mp hperm.symm)).symm
    simp only [List.getLast?_nil, reduceCtorEq, false_and, exists_false, and_false,
      not_false_eq_true,
      iff_true]
    exact ⟨world, rfl, hdelivered⟩
  · obtain ⟨mid, position, hrun, hmid⟩ := hstart.run hfollows hdata front
      (hnodup.sublist (List.sublist_append_left _ _))
      fun other hother => hsubset other (List.mem_append_left _ hother)
    rw [List.nil_append] at hmid
    obtain ⟨next, result, taken, hlast, htaken, -, hnext⟩ := hmid.step hfollows
      (hdata last (hsubset last (by simp))) hnodup hsubset
    have hall : UtpConn.handleAll (front ++ [last]) world = some next := by
      rw [UtpConn.handleAll_append, hrun]
      simp [UtpConn.handleAll, hlast]
    have hcomplete := hmid.last hfollows hworld.localAckNr hcount' hnodup hsubset
      (fun _ => hperm.mem_iff.mpr) htaken hnext
    have hcrosses : (∃ other, (front ++ [last]).getLast? = some other ∧
        world.conn.localAckNr < other.seqNr) ↔ world.conn.localAckNr < last.seqNr := by
      simp
    rw [Reassembles, hall, hcrosses, ← hcomplete, ← hnext.delivered_iff hfollows hsubset]
    simp

/-- Two packets that come in the wrong order. -/
def swapped (seqNr : Nat) : List UtpPacket :=
  [{ type := .ST_DATA, connId := 1, seqNr := Seq.add seqNr 1, data := some [66] },
    { type := .ST_DATA, connId := 1, seqNr := seqNr, data := some [65] }]

/-- An initiator after the handshake with a peer whose first number is `seqNr`. -/
def awaiting (seqNr : Nat) : World := (established 0 .sample (.localhost 9000) 1 seqNr).state

/-- The initiator after the handshake is tracked. -/
theorem awaiting_tracked (seqNr : Nat) : (awaiting seqNr).Tracked 2 := by
  have hrun : (connSystem anyLabel anyPacket).Reachable
      (connectTo 0 .sample true (.localhost 9000) 2 1 1 0)
      (established 0 .sample (.localhost 9000) 1 seqNr) :=
    established_reachable trivial (fun _ => trivial) sample_synSent
  exact (connSystem_acts.reachable (connectTo_moving _ _ _ _ _ _ _ _ (by decide)) hrun).2.inv

/-- Two packets in the wrong order are put in the right one. -/
theorem reassembles_swapped : Reassembles (swapped 100).reverse (swapped 100) (awaiting 100) :=
  (reassembles_iff
    ⟨by decide +kernel, by decide +kernel, by decide +kernel, by decide +kernel,
      by decide +kernel⟩
    (by decide) (by decide +kernel) (by decide +kernel) (List.reverse_perm _).symm).mpr
    (by decide +kernel)

/-- The packet 0 waits for 65535, which comes last, and stays in the queue. -/
theorem not_reassembles_wraparound :
    ¬ ∀ (world : World) (packets arrivals : List UtpPacket), world.Awaiting →
      (∀ packet ∈ packets, packet.type = .ST_DATA) → Follows world.conn.localAckNr packets →
      packets.length ≤ world.conn.recvPacketQueue.capacity → arrivals.Perm packets →
      Reassembles packets arrivals world := by
  intro hclaim
  obtain ⟨next, hrun, hackNr, -⟩ := hclaim (awaiting 65535) (swapped 65535).reverse
    (swapped 65535)
    ⟨by decide +kernel, by decide +kernel, by decide +kernel, by decide +kernel,
      by decide +kernel⟩
    (by decide) (by decide +kernel) (by decide +kernel) (List.reverse_perm _).symm
  have hstuck : (UtpConn.handleAll (swapped 65535) (awaiting 65535)).all
      (fun next => next.conn.localAckNr = 65535) = true := by decide +kernel
  rw [hrun] at hstuck
  simp only [Option.all_some, decide_eq_true_eq] at hstuck
  rw [hstuck] at hackNr
  revert hackNr
  decide +kernel

end World

end Utp
