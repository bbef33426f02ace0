import Utp.Pair.Network
import Utp.Receiver.Repetition
import Utp.Sender.Forgery

/-! # One chunk after the other

What happens to a chunk of data when nothing else goes on: one end writes it into an empty
send window, the other takes it in order and answers, and the answer empties the window.
-/

namespace Utp

open Async (Chain Config)

namespace World

variable {world : World} {chunk data : Bytes} {packet : UtpPacket}

/-! ## Writing -/

/-- The connection is established, and its send window is empty. -/
structure Clear (world : World) : Prop where
  connected : world.conn.localState = .CS_CONNECTED
  opened : world.utp.state ≠ .CLOSED
  empty : world.window.map = ∅
  waiting : world.window.waitingSetters = []
  capacity : 1 ≤ world.window.capacity

/-- The entry of a new packet in the send window. -/
def entryOf (world : World) (packet : UtpPacket) : UtpPacketWithExtraInfo :=
  ⟨packet, 0, world.utp.dateNow, world.conn.remoteAddr⟩

/-- What a call of `write` with one chunk leaves behind. -/
def wroteChunk (world : World) (chunk : Bytes) : World :=
  let taken := (world.consumeSeqNr (world.dataPacket chunk)).touch
  (taken.setPacketMap ((taken.window.put (world.dataPacket chunk).seqNr
    (taken.entryOf (world.dataPacket chunk))).resolveNextSetter)).transmit (some .CS_CONNECTED)
      (world.dataPacket chunk) world.conn.remoteAddr

/-- An empty window has room for a packet. -/
theorem Clear.hasRoom (hclear : world.Clear) : world.window.hasRoom = true := by
  have hcapacity := hclear.capacity
  rw [BlockingMap.hasRoom, hclear.empty, OrderedMap.size_empty]
  exact decide_eq_true (lt_of_lt_of_le (by norm_num) hcapacity)

/-- With room a packet enters the window at once, and nothing waits. -/
theorem run_onPacketMap_set (hroom : world.window.hasRoom = true) (key : Nat)
    (value : UtpPacketWithExtraInfo) :
    (onPacketMap (BlockingMap.set key value)).run world =
      some (world.setPacketMap ((world.window.put key value).resolveNextSetter), .ok ()) := by
  have hset : (BlockingMap.set key value).run world.window =
      some ((world.window.put key value).resolveNextSetter, .ok ()) := by
    simp [BlockingMap.set, Async.run_bind, hroom]
  have hzoom := Async.run_zoom (fun world : World => world.conn.sendWindow.packetMap)
    setPacketMap (fun _ _ => rfl) (fun _ => rfl) (fun _ _ _ => rfl)
      (BlockingMap.set key value) world
  rw [onPacketMap, hzoom]
  exact congrArg (Option.map _) hset

/-- A packet that needs an acknowledgement enters the window before it is sent, whatever comes
of the sending. -/
theorem run_sendUtpPacket (hclear : world.Clear) (hreliable : packet.isReliable = true) :
    ∃ result, (UtpConn.sendUtpPacket packet).run world = some
      ((world.touch.setPacketMap ((world.touch.window.put packet.seqNr
        (world.touch.entryOf packet)).resolveNextSetter)).transmit (some .CS_CONNECTED) packet
          world.conn.remoteAddr, result) := by
  have hstate : world.touch.conn.localState = .CS_CONNECTED := hclear.connected
  have hopen : world.touch.conn.isClosed = false := by simp [UtpConn.isClosed, hstate]
  have hconnected : world.touch.conn.isConnected = true := by simp [UtpConn.isConnected, hstate]
  have hroom : world.touch.window.hasRoom = true := hclear.hasRoom
  have hset := run_onPacketMap_set hroom packet.seqNr (world.touch.entryOf packet)
  have haddr : world.touch.conn.remoteAddr = world.conn.remoteAddr := rfl
  generalize hnext : world.touch.setPacketMap _ = registered at hset ⊢
  have hopened : registered.utp.state ≠ .CLOSED := hnext ▸ hclear.opened
  obtain ⟨result, hsend⟩ := @run_udpSend registered
    (some .CS_CONNECTED) packet world.conn.remoteAddr
  rw [if_neg hopened] at hsend
  rw [entryOf, haddr] at hset
  refine ⟨result, ?_⟩
  simp only [UtpConn.sendUtpPacket, UtpSendWindow.waitForAck, Async.bind_eq, Async.run_bind,
    Async.run_modify, Async.run_get, Option.bind_some, hopen, Bool.false_eq_true, if_false,
    hconnected, hreliable, Bool.and_self, if_true, Async.run_awaited, hset, hstate, haddr, hsend]

theorem writeLoop_done (rounds : Nat) {offset : Nat} (hdone : data.length ≤ offset) :
    UtpConn.writeLoop data rounds offset = .pure offset := by
  cases rounds with
  | zero => rfl
  | succ => exact if_neg (Nat.not_lt.mpr hdone)

/-- A call of `write` with one chunk, run alone. -/
theorem run_write (hclear : world.Clear) (hpos : 0 < chunk.length)
    (hfits : chunk.length ≤ UtpConn.chunkSize) :
    ∃ result, (Async.discard (UtpConn.write chunk)).run world =
      some (world.wroteChunk chunk, result) := by
  have hchunk : UtpConn.chunkAt chunk 0 = chunk := List.take_of_length_le hfits
  have htaken : (world.consumeSeqNr (world.dataPacket chunk)).Clear :=
    ⟨hclear.connected, hclear.opened, hclear.empty, hclear.waiting, hclear.capacity⟩
  obtain ⟨sent, hsend⟩ := @run_sendUtpPacket _ (world.dataPacket chunk) htaken rfl
  have hloop : ∀ rounds, 0 < rounds → ∃ result, (UtpConn.writeLoop chunk rounds 0).run world =
      some (world.wroteChunk chunk, result) := by
    rintro (_ | rounds) hrounds
    · cases hrounds
    · rw [UtpConn.writeLoop, if_pos hpos]
      simp only [Async.bind_eq, Async.run_bind, Async.run_get, Option.bind_some, hchunk,
        Async.run_modify, Async.run_awaited, hsend]
      cases sent with
      | error error => exact ⟨.error error, rfl⟩
      | ok n =>
          simp only [Nat.zero_add, writeLoop_done rounds (Nat.le_refl chunk.length)]
          split
          next => exact ⟨_, rfl⟩
          next => exact ⟨_, rfl⟩
  obtain ⟨looped, hlooped⟩ := hloop _ hpos
  simp only [UtpConn.write, Async.discard, Async.bind_eq, Async.run_bind, hlooped, Option.bind_some]
  cases looped with
  | error error => exact ⟨.error error, rfl⟩
  | ok offset =>
      simp only
      split
      next => exact ⟨_, rfl⟩
      next => exact ⟨_, rfl⟩

/-! ## Taking in order -/

/-- The connection waits for the next data packet, and no read is pending. -/
structure Expecting (world : World) : Prop where
  connected : world.conn.localState = .CS_CONNECTED
  finless : world.conn.remoteFinPacket = none
  localAckNr : world.conn.localAckNr < 65536
  empty : world.conn.recvPacketQueue.items = ∅
  unread : world.conn.recvBuffer.readResolvers = []

/-- With no read pending, received data is appended. -/
theorem run_writeRecvBuffer (hunread : world.conn.recvBuffer.readResolvers = []) (data : Bytes) :
    (UtpConn.writeRecvBuffer data).run world = some (world.append data, .ok ()) := by
  have hwrite : (BlockingBuffer.write data).run world.conn.recvBuffer =
      some (world.conn.recvBuffer.append data, .ok data.length) := by
    have hlaps : (world.conn.recvBuffer.append data).readResolvers = [] := hunread
    simp [BlockingBuffer.write, Async.run_bind, hlaps, BlockingBuffer.resolveReaders]
  have hzoom := Async.run_zoom (fun world : World => world.conn.recvBuffer)
    (fun world buffer => world.onConn fun conn => { conn with recvBuffer := buffer })
    (fun _ _ => rfl) (fun _ => rfl) (fun _ _ _ => rfl) (BlockingBuffer.write data) world
  rw [hwrite] at hzoom
  rw [UtpConn.writeRecvBuffer, Async.discard, Async.run_bind, Async.run_awaited,
    onRecvBuffer, hzoom]
  rfl

/-- What a pass takes from a queue with the next packet alone in it. -/
def tookNext (world : World) (packet : UtpPacket) : World :=
  ((world.enqueue packet).advanceTo packet.seqNr).append packet.payload

/-- The acknowledgement of the next packet, and what else its handler leaves behind. -/
def answered (world : World) (packet : UtpPacket) : World :=
  (world.tookNext packet).acked.noteHandled

/-- The packet is alone in the queue. -/
theorem Expecting.enqueued (hexpecting : world.Expecting) (packet : UtpPacket) :
    (world.enqueue packet).conn.recvPacketQueue.keys = [packet.seqNr] ∧
      (world.enqueue packet).conn.recvPacketQueue.items =
        (∅ : OrderedMap Nat UtpPacket).set packet.seqNr packet := by
  have hroom : world.conn.recvPacketQueue.size < world.conn.recvPacketQueue.capacity := by
    rw [CircularQueue.size, hexpecting.empty]
    exact world.conn.recvPacketQueue.capacity_pos
  have hitems : (world.enqueue packet).conn.recvPacketQueue.items =
      (∅ : OrderedMap Nat UtpPacket).set packet.seqNr packet := by
    rw [← hexpecting.empty]
    exact CircularQueue.enqueue_of_room _ _ (.inr hroom)
  refine ⟨?_, hitems⟩
  have hperm : (world.enqueue packet).conn.recvPacketQueue.keys.Perm [packet.seqNr] := by
    apply (List.perm_ext_iff_of_nodup ?_ (by simp)).mpr
    · intro key
      rw [CircularQueue.mem_keys, hitems]
      simp
    · exact (CircularQueue.keys_sorted _).imp fun h => Nat.ne_of_lt h
  exact List.perm_singleton.mp hperm

/-- The next data packet, handled alone: it is taken and acknowledged. -/
theorem run_handleNext (hexpecting : world.Expecting) (hdata : packet.type = .ST_DATA)
    (hchunk : packet.data = some data) (hseqNr : packet.seqNr = Seq.add world.conn.localAckNr 1) :
    (Async.discard (UtpConn.handleIncomingPacket packet)).run world =
      some (world.answered packet, .ok ()) := by
  obtain ⟨hkeys, hitems⟩ := hexpecting.enqueued packet
  have hne : packet.seqNr ≠ world.conn.localAckNr := by
    have hlt := hexpecting.localAckNr
    rw [hseqNr, Seq.add_one]
    omega
  have hrefused : world.conn.isRefused packet = false := by
    simp [UtpConn.isRefused, hne, hexpecting.finless]
  have hpayload : packet.payload = data := by simp [UtpPacket.payload, hdata, hchunk]
  have hdeliver : (UtpConn.deliver packet).run ((world.enqueue packet).advanceTo packet.seqNr) =
      some (world.tookNext packet, .ok ()) := by
    have hwrite := @run_writeRecvBuffer ((world.enqueue packet).advanceTo packet.seqNr)
      hexpecting.unread data
    simp [UtpConn.deliver, hchunk, hdata, Async.run_attempt, hwrite, tookNext, hpayload]
  have hqueued : (world.enqueue packet).conn.recvPacketQueue.items.get? packet.seqNr =
      some packet := by
    rw [hitems]
    simp
  have hpass : UtpConn.processReceivedPackets.run (world.enqueue packet) =
      some (world.tookNext packet, .ok ()) := by
    have hnext : Seq.add (world.enqueue packet).conn.localAckNr 1 = packet.seqNr := hseqNr.symm
    simp [UtpConn.processReceivedPackets, UtpConn.processKeys, Async.run_bind, hkeys, hnext,
      hqueued, hdeliver]
  have hopen : (world.tookNext packet).conn.isClosed = false := by
    have hstate : (world.tookNext packet).conn.localState = .CS_CONNECTED := hexpecting.connected
    simp [UtpConn.isClosed, hstate]
  have hinsert : (UtpConn.insertPacket packet).run world =
      some ((world.tookNext packet).acked, .ok true) := by
    simp [UtpConn.insertPacket, Async.run_bind, hpass, hdata, run_sendAck hopen]
  have hroom : Seq.add world.conn.localAckNr 1 ∉ world.conn.recvPacketQueue.items.keys := by
    simp [hexpecting.empty]
  rw [← run_handleAtConnected hexpecting.connected hdata hrefused (.inr hroom)] at hinsert
  simp [UtpConn.handleIncomingPacket, UtpConn.handleInState, Async.discard, Async.run_bind, hdata,
    hexpecting.connected, hinsert, answered]

theorem answered_conn (world : World) (packet : UtpPacket) :
    (world.answered packet).conn = (world.tookNext packet).touch.noteHandled.conn := by
  have hconn : (world.tookNext packet).acked.conn = (world.tookNext packet).touch.conn := acked_conn
  have hutp : (world.tookNext packet).acked.utp.dateNow = (world.tookNext packet).utp.dateNow := by
    unfold acked
    split <;> rfl
  unfold answered noteHandled
  simp only [onConn, hconn, UtpSocket.currentMicroseconds, hutp]
  rfl

/-- The acknowledgement is handed to the socket. -/
theorem answered_sent (hopen : world.utp.state ≠ .CLOSED) (packet : UtpPacket) :
    (world.answered packet).utp.state ≠ .CLOSED ∧
      ∃ datagram ∈ (world.answered packet).utp.sent,
        datagram.packet = (world.tookNext packet).ackPacket := by
  have hopened : (world.tookNext packet).utp.state ≠ .CLOSED := hopen
  unfold answered acked
  rw [if_neg hopened]
  exact ⟨hopen, _, List.mem_append_right _ (List.mem_singleton.mpr rfl), rfl⟩

/-- The queue is empty again. -/
theorem Expecting.tookNext_empty (hexpecting : world.Expecting) (packet : UtpPacket) :
    (world.tookNext packet).conn.recvPacketQueue.items = ∅ := by
  have hitems := (hexpecting.enqueued packet).2
  have htaken : (world.tookNext packet).conn.recvPacketQueue.items =
      (world.enqueue packet).conn.recvPacketQueue.items.erase packet.seqNr :=
    CircularQueue.dequeueByKey_items _ _
  rw [htaken, hitems, ← OrderedMap.size_eq_zero, ← OrderedMap.length_keys, List.length_eq_zero_iff]
  apply List.eq_nil_iff_forall_not_mem.mpr
  intro key hkey
  obtain ⟨hmem, hne⟩ := OrderedMap.mem_keys_erase.mp hkey
  simp only [OrderedMap.mem_keys_set, OrderedMap.keys_empty, List.not_mem_nil, false_or] at hmem
  exact hne hmem

/-- The connection waits for the packet after it. -/
theorem Expecting.answered (hexpecting : world.Expecting) (packet : UtpPacket) :
    (world.answered packet).Expecting := by
  have hconnected : (world.tookNext packet).conn.localState = .CS_CONNECTED := hexpecting.connected
  have hfinless : (world.tookNext packet).conn.remoteFinPacket = none := hexpecting.finless
  constructor
  all_goals rw [answered_conn]
  · exact hconnected
  · exact hfinless
  · exact Nat.mod_lt _ (by decide)
  · exact hexpecting.tookNext_empty packet
  · exact hexpecting.unread

/-- With an empty queue there is nothing to acknowledge out of order. -/
theorem ackPacket_plain (hempty : world.conn.recvPacketQueue.items = ∅) :
    UtpPacket.fromBytes world.ackPacket.toBytes = .ok world.ackPacket.narrow ∧
      world.ackPacket.narrow.sackExtension = none := by
  have hkeys : world.conn.recvPacketQueue.keys = [] := by
    apply List.eq_nil_iff_forall_not_mem.mpr
    intro key hkey
    rw [CircularQueue.mem_keys, hempty] at hkey
    cases hkey
  have hsack : UtpSelectiveAckExtension.createFromConn world.conn = none := by
    rw [UtpSelectiveAckExtension.createFromConn, hkeys]
    rfl
  have hversion : world.ackPacket.version < 16 := show 1 < 16 by decide
  have hextension : world.ackPacket.extension = 0 := by rw [ackPacket, hsack]; rfl
  have hextensions : world.ackPacket.extensions = [] := by rw [ackPacket, hsack]; rfl
  have hdata : world.ackPacket.data ≠ some [] := by
    simp [ackPacket, UtpPacket.createAckPacket]
  refine ⟨UtpPacket.fromBytes_plain hversion hextension hextensions hdata, ?_⟩
  have hnarrow : world.ackPacket.narrow.extensions = [] := hextensions
  rw [UtpPacket.sackExtension, hnarrow]
  rfl

/-! ## The answer -/

/-- An ST_STATE, handled alone: only the window sees it. -/
theorem run_handleAck (hstate : world.conn.localState = .CS_CONNECTED)
    (htype : packet.type = .ST_STATE) :
    (Async.discard (UtpConn.handleIncomingPacket packet)).run world =
      some (world.handleAck packet, .ok ()) := by
  have hafter : (world.handleAck packet).conn.localState = .CS_CONNECTED := hstate
  simp [UtpConn.handleIncomingPacket, UtpConn.awaitHandleAck, UtpConn.handleInState,
    UtpConn.handleAtConnected, Async.discard, Async.run_bind, htype, hafter]

/-- The map holds nothing but what is under the key, and nobody waits for room. -/
structure Sole (key : Nat) (past : List (Nat × UtpPacketWithExtraInfo))
    (map : BlockingMap Nat UtpPacketWithExtraInfo) : Prop where
  waiting : map.waitingSetters = []
  capacity : 1 ≤ map.capacity
  keys : ∀ other ∈ map.map.keys, other = key
  entered : map.entered = past

variable {key : Nat} {past : List (Nat × UtpPacketWithExtraInfo)}
  {map : BlockingMap Nat UtpPacketWithExtraInfo}

/-- Letting setters in finds none. -/
theorem Sole.resolve (hsole : Sole key past map) : Sole key past map.resolveNextSetter := by
  rw [BlockingMap.resolveNextSetter, hsole.waiting, BlockingMap.admitWaiting]
  exact ⟨rfl, hsole.capacity, hsole.keys, hsole.entered⟩

/-- A deletion leaves at most the one key. -/
theorem Sole.delete (hsole : Sole key past map) (deleted : Nat) :
    Sole key past (map.delete deleted) := by
  unfold BlockingMap.delete
  split
  next =>
    refine Sole.resolve ⟨hsole.waiting, hsole.capacity, fun other hother => ?_, hsole.entered⟩
    exact hsole.keys other (OrderedMap.mem_keys_erase.mp hother).1
  next => exact hsole

theorem Sole.updateCapacity (hsole : Sole key past map) {capacity : ℚ} (hcapacity : 1 ≤ capacity) :
    Sole key past (map.updateCapacity capacity) :=
  Sole.resolve ⟨hsole.waiting, hcapacity, hsole.keys, hsole.entered⟩

/-- The acknowledgement of the only packet empties the window. -/
theorem Clear.acknowledged (hclear : world.Clear)
    (hcovers : (world.wroteChunk chunk).conn.sendWindow.Covers packet world.conn.localSeqNr) :
    ((world.wroteChunk chunk).handleAck packet).Clear := by
  obtain ⟨past, hput⟩ : ∃ past, Sole world.conn.localSeqNr past
    (world.wroteChunk chunk).window := by
    refine ⟨_, Sole.resolve ⟨hclear.waiting, hclear.capacity, fun other hother => ?_, rfl⟩⟩
    have hkeys := OrderedMap.mem_keys_set.mp hother
    have hempty : world.conn.sendWindow.packetMap.map = ∅ := hclear.empty
    have hseqNr : (world.dataPacket chunk).seqNr = world.conn.localSeqNr := rfl
    simpa [touch, consumeSeqNr, onConn, UtpConn.consumeSeqNr, window, hempty, hseqNr] using hkeys
  have hafter : Sole world.conn.localSeqNr past
    ((world.wroteChunk chunk).handleAck packet).window :=
    UtpSendWindow.handleAck_preserves _ _ packet (fun _ deleted _ hsole => hsole.delete deleted)
      (fun _ _ hcapacity hsole => hsole.updateCapacity hcapacity) hput
  have hvacates := UtpSendWindow.handleAck_vacates (world.wroteChunk chunk).utp.dateNow hcovers
  have hnone : ((world.wroteChunk chunk).handleAck packet).window.map.get? world.conn.localSeqNr =
      none := by
    by_contra hsome
    obtain ⟨stored, hstored⟩ := Option.ne_none_iff_exists'.mp hsome
    have hlate := hvacates.vacant stored hstored
    have hbefore : (world.wroteChunk chunk).conn.sendWindow.packetMap.entered = past := hput.entered
    have hlater : ((world.wroteChunk chunk).conn.sendWindow.handleAck
        (world.wroteChunk chunk).utp.dateNow packet).packetMap.entered = past := hafter.entered
    rw [hbefore, hlater, List.drop_length] at hlate
    cases hlate
  refine ⟨hclear.connected, hclear.opened, ?_, hafter.waiting, hafter.capacity⟩
  rw [← OrderedMap.size_eq_zero, ← OrderedMap.length_keys, List.length_eq_zero_iff]
  apply List.eq_nil_iff_forall_not_mem.mpr
  intro other hother
  rw [hafter.keys other hother] at hother
  exact OrderedMap.get?_eq_none.mp hnone hother

/-- An acknowledgement of the number that follows on the last one covers it. -/
theorem covers_next {window : UtpSendWindow} {latest : Nat}
    (hwindow : window.latestSeqReceivedOfOtherSide = some latest)
    (hackNr : packet.ackNr = latest + 1) (now : Nat) : window.Covers packet (latest + 1) ∧
      (window.handleAck now packet).latestSeqReceivedOfOtherSide = some (latest + 1) := by
  have hnewer : Seq.gt (latest + 1) latest = true := by
    rw [Seq.gt_iff, Seq.diff]
    omega
  have hnoted : (window.noteAck packet).latestSeqReceivedOfOtherSide = some (latest + 1) := by
    simp [UtpSendWindow.noteAck, hwindow, hnewer, hackNr]
  refine ⟨.inr ?_, (UtpSendWindow.handleAck_latest _ _ _).trans hnoted⟩
  simp [UtpSendWindow.isPacketAcked, hnoted, Seq.ge]

end World

namespace Pair

variable {setup : Setup} {terms : Terms} {written : Bytes} {world next : World} {packet : UtpPacket}
  {result : Except String Unit}

/-! ## Undisturbed tasks -/

/-- The initiator writes a chunk. -/
theorem Reachable.initiator_writes {data : Bytes} {other : Option Party}
    (hrun : Reachable setup anyTerms ⟨⟨⟨world, []⟩, written⟩, other⟩)
    (hresolved : world.conn.connecting = .resolved)
    (htask : (Async.discard (UtpConn.write data)).run world = some (next, result)) :
    Reachable setup anyTerms ⟨⟨⟨next, []⟩, written ++ data⟩, other⟩ := by
  obtain ⟨count, hcount⟩ := Config.resumes_of_run htask Label.write
  rw [← hcount]
  exact (hrun.step (.initiator (.write data hresolved trivial))).initiator_resumes _

/-- The initiator handles a packet of the responder. -/
theorem Reachable.initiator_handles {responder : Party}
    (hrun : Reachable setup anyTerms ⟨⟨⟨world, []⟩, written⟩, some responder⟩)
    (hhanded : Handed responder.state.utp.sent packet)
    (htask : (Async.discard (UtpConn.handleIncomingPacket packet)).run world =
      some (next, result)) :
    Reachable setup anyTerms ⟨⟨⟨next, []⟩, written⟩, some responder⟩ := by
  obtain ⟨count, hcount⟩ := Config.resumes_of_run htask Label.receive
  rw [← hcount]
  refine (hrun.step (.initiator ?_)).initiator_resumes _
  apply Party.Step.other
  apply Async.TaskSystem.Step.launch
  · exact ⟨nofun, .receive packet ⟨⟨responder, rfl, hhanded⟩, trivial⟩⟩
  · exact fun _ _ hother => nomatch hother

/-- The responder handles a packet of the initiator. -/
theorem Reachable.responder_handles {initiator : Party}
    (hrun : Reachable setup anyTerms ⟨initiator, some ⟨⟨world, []⟩, written⟩⟩)
    (hhanded : Handed initiator.state.utp.sent packet)
    (htask : (Async.discard (UtpConn.handleIncomingPacket packet)).run world =
      some (next, result)) :
    Reachable setup anyTerms ⟨initiator, some ⟨⟨next, []⟩, written⟩⟩ := by
  obtain ⟨count, hcount⟩ := Config.resumes_of_run htask Label.receive
  rw [← hcount]
  refine (hrun.step (.responder rfl ?_)).responder_resumes _
  apply Party.Step.other
  apply Async.TaskSystem.Step.launch
  · exact ⟨nofun, .receive packet ⟨hhanded, trivial⟩⟩
  · exact fun _ _ hother => nomatch hother

end Pair

end Utp
