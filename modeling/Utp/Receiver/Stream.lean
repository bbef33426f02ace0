import Utp.Receiver.Reorder

/-! # The receiver's position in the peer's stream

The purpose of the receiving side, apart from its sequence numbers: it has
delivered the packets `1 .. k` of the peer's stream and nothing else. A packet
may be told by its 16-bit number only while it is `live`.
-/

namespace Utp

open Async (Contract)

/-- The peer's packets, counted from 1, behind what was received earlier. Packet `i`
carries the number `base + i`. `live k i` says that packet `i` may be in the network
or in the queue while the receiver is at position `k`. -/
structure Stream where
  base : Nat
  earlier : Bytes
  payload : Nat → Bytes
  live : Nat → Nat → Prop
  reached : Nat → Prop
  zero : reached 0
  unique : ∀ k i, live k i → (base + i) % 65536 = (base + k + 1) % 65536 → i = k + 1
  onward : ∀ k i, live k i → live k (k + 1) → i ≠ k + 1 → live (k + 1) i
  arrived : ∀ k, reached k → live k (k + 1) → reached (k + 1)

namespace Stream

variable (stream : Stream)

def number (i : Nat) : Nat := (stream.base + i) % 65536

/-- The bytes of the first packets. -/
def bytes : Nat → Bytes
  | 0 => stream.earlier
  | k + 1 => bytes k ++ stream.payload (k + 1)

/-- At position `k` the queue holds live packets under their numbers. -/
def Holds (k : Nat) (items : OrderedMap Nat UtpPacket) : Prop :=
  ∀ key packet, (key, packet) ∈ items.entries → ∃ i, stream.live k i ∧
    packet.payload = stream.payload i ∧ key = stream.number i

variable {stream}

/-! ## A stream whose packets are counted from a later position -/

/-- Payloads counted from behind `start`. -/
def shifted (start : Nat) (payload : Nat → Bytes) (i : Nat) : Bytes :=
  if i ≤ start then [] else payload (i - start)

/-- The numbers behind `start` count on from the receiver's own. -/
theorem number_behind (stream : Stream) {ackNr start : Nat}
    (hbase : stream.base = ackNr + 65535 * start) (i : Nat) :
    stream.number (start + i) = (ackNr + i) % 65536 := by
  rw [number, hbase]
  omega

/-- The bytes behind `start` follow what was received earlier. -/
theorem bytes_behind (stream : Stream) {start : Nat} {payload : Nat → Bytes}
    (hpayload : stream.payload = shifted start payload) (k : Nat) :
    stream.bytes k =
      stream.earlier ++ (List.range (k - start)).flatMap fun index => payload (index + 1) := by
  induction k with
  | zero => simp [bytes]
  | succ k ih =>
      rw [bytes, ih, hpayload, shifted]
      split
      next hbefore =>
        have hnone : k - start = 0 := by omega
        have hnone' : k + 1 - start = 0 := by omega
        rw [hnone, hnone', List.append_nil]
      next hbehind =>
        have hnew : k + 1 - start = k - start + 1 := by omega
        rw [hnew, List.range_succ, List.flatMap_append, List.append_assoc, List.flatMap_singleton]

/-! ## Taking packets out of the queue -/

theorem holds_empty (k : Nat) : stream.Holds k ∅ := fun _ _ h => nomatch h

/-- The packet under the next number is the next packet, and the others stay live. -/
theorem Holds.take {k : Nat} {items : OrderedMap Nat UtpPacket} (hholds : stream.Holds k items)
    {packet : UtpPacket} (hpacket : items.get? (stream.number (k + 1)) = some packet) :
    stream.live k (k + 1) ∧ packet.payload = stream.payload (k + 1) ∧
      stream.Holds (k + 1) (items.erase (stream.number (k + 1))) := by
  obtain ⟨i, hlive, hpayload, hnumber⟩ := hholds _ _ (OrderedMap.get?_eq_some.mp hpacket)
  have hi : i = k + 1 := stream.unique k i hlive hnumber.symm
  subst hi
  refine ⟨hlive, hpayload, fun key other hother => ?_⟩
  obtain ⟨hentry, hne⟩ := OrderedMap.mem_entries_erase.mp hother
  obtain ⟨j, hlive', hpayload', hnumber'⟩ := hholds key other hentry
  exact ⟨j, stream.onward k j hlive' hlive fun h => hne (h ▸ hnumber'), hpayload', hnumber'⟩

/-- Taking the packets that follow on the position one by one. -/
theorem Holds.takeAll {k : Nat} {items : OrderedMap Nat UtpPacket}
    (hholds : stream.Holds k items) (hreached : stream.reached k) (keys : List Nat)
    (hpresent : ∀ key ∈ keys, key ∈ items.keys) (hnodup : keys.Nodup)
    (hnext : ∀ (index key : Nat), keys[index]? = some key → key = stream.number (k + 1 + index)) :
    stream.bytes k ++ payloadOf items keys = stream.bytes (k + keys.length) ∧
      stream.Holds (k + keys.length) (items.eraseAll keys) ∧
      stream.reached (k + keys.length) := by
  induction keys generalizing k items with
  | nil => exact ⟨List.append_nil _, hholds, hreached⟩
  | cons key rest ih =>
      rw [List.nodup_cons] at hnodup
      have hkey : key = stream.number (k + 1) := hnext 0 key rfl
      obtain ⟨packet, hpacket⟩ := OrderedMap.exists_get? (hpresent key List.mem_cons_self)
      obtain ⟨hlive, hpayload, hrest⟩ := hholds.take (hkey ▸ hpacket)
      rw [← hkey] at hrest
      have hlater := ih hrest (stream.arrived k hreached hlive) (fun other hother =>
        OrderedMap.mem_keys_erase.mpr ⟨hpresent other (List.mem_cons_of_mem _ hother),
          fun h => hnodup.1 (h ▸ hother)⟩) hnodup.2 fun index other hother => by
            rw [hnext (index + 1) other (by simpa using hother)]
            congr 1
            omega
      have hlength : k + (key :: rest).length = k + 1 + rest.length := by
        rw [List.length_cons]
        omega
      rw [hlength]
      refine ⟨?_, hlater.2⟩
      rw [← hlater.1, payloadOf_erase hnodup.1]
      simp [bytes, payloadOf, hpacket, hpayload]

end Stream

namespace World

variable {closing : Bool} {stream : Stream}

/-- The receiver is at a position of the stream, and its number tells which. -/
structure Good (stream : Stream) (world : World) : Prop where
  ackNr : world.conn.localAckNr = stream.number world.conn.advanced
  appended : world.conn.recvBuffer.appended = stream.bytes world.conn.advanced
  reached : stream.reached world.conn.advanced
  holds : stream.Holds world.conn.advanced world.conn.recvPacketQueue.items
  accepted : world.conn.localState ≠ .CS_SYN_SENT
  waiting : world.conn.localState = .CS_SYN_RECV →
    world.conn.advanced = 0 ∧ world.conn.recvPacketQueue.items = ∅

/-- The number tells the position, and what was delivered is the stream up to there. -/
structure Level (stream : Stream) (world : World) : Prop where
  ackNr : world.conn.localAckNr = stream.number world.conn.advanced
  appended : world.conn.recvBuffer.appended = stream.bytes world.conn.advanced

/-- At a position of the stream the receiver is level with it. -/
theorem Good.level {world : World} (hgood : world.Good stream) : world.Level stream :=
  ⟨hgood.ackNr, hgood.appended⟩

/-- Nobody else moves the level. -/
theorem Level.aside {world next : World} (hlevel : world.Level stream)
    (haside : Aside closing world next) : next.Level stream := by
  refine ⟨?_, ?_⟩
  · rw [haside.ackNr, haside.advanced]
    exact hlevel.ackNr
  · rw [haside.appended, haside.advanced]
    exact hlevel.appended

/-- A FIN leaves the level. -/
theorem Level.acceptFin {world : World} (hlevel : world.Level stream) (packet : UtpPacket) :
    (world.acceptFin packet).Level stream := ⟨hlevel.ackNr, hlevel.appended⟩

/-- What holds of the receiving side in every run. Behind a reset the numbers no
longer tell the position; before the handshake they do not yet. -/
inductive Phase (stream : Stream) (world : World) : Prop
  | good (hgood : world.Good stream)
  | void (hgone : world.Gone) (hempty : world.conn.recvPacketQueue.items = ∅)
      (happended : ∃ k, stream.reached k ∧ world.conn.recvBuffer.appended = stream.bytes k)
  | fresh (hconnected : world.conn.localState ≠ .CS_CONNECTED)
      (hreceived : world.conn.localState ≠ .CS_SYN_RECV)
      (hempty : world.conn.recvPacketQueue.items = ∅) (hadvanced : world.conn.advanced = 0)
      (happended : world.conn.recvBuffer.appended = stream.earlier)

/-- Nobody else moves the receiver from its position. -/
theorem Good.aside {world next : World} (hgood : world.Good stream)
    (haside : Aside closing world next) : next.Good stream where
  ackNr := by rw [haside.ackNr, haside.advanced, hgood.ackNr]
  appended := by rw [haside.appended, haside.advanced, hgood.appended]
  reached := by rw [haside.advanced]; exact hgood.reached
  holds := by
    rw [haside.advanced]
    rcases haside.queue with hsame | ⟨hempty, -⟩
    · exact hsame ▸ hgood.holds
    · exact hempty ▸ Stream.holds_empty _
  accepted := by
    rcases haside.state with hsame | hgone
    · exact hsame ▸ hgood.accepted
    · exact hgone.1.1
  waiting hstate := by
    rcases haside.state with hsame | hgone
    · have hwaiting := hgood.waiting (hsame ▸ hstate)
      refine ⟨haside.advanced.trans hwaiting.1, ?_⟩
      exact haside.queue.elim (fun h => h ▸ hwaiting.2) And.left
    · exact absurd hstate hgone.1.2

/-- Nobody else takes the receiver out of its phase. -/
theorem Phase.aside {world next : World} (hphase : world.Phase stream)
    (haside : Aside closing world next) : next.Phase stream := by
  cases hphase with
  | good hgood => exact .good (hgood.aside haside)
  | void hgone hempty happended =>
      refine .void (haside.gone hgone) ?_ (haside.appended ▸ happended)
      exact haside.queue.elim (fun h => h ▸ hempty) And.left
  | fresh hconnected hreceived hempty hadvanced happended =>
      refine .fresh ?_ ?_ ?_ (haside.advanced.trans hadvanced) (haside.appended.trans happended)
      · exact haside.state.elim (fun h => h ▸ hconnected) And.right
      · exact haside.state.elim (fun h => h ▸ hreceived) fun h => h.1.2
      · exact haside.queue.elim (fun h => h ▸ hempty) And.left

/-- In CS_CONNECTED the receiver is at a position. -/
theorem Phase.connected {world : World} (hphase : world.Phase stream)
    (hstate : world.conn.localState = .CS_CONNECTED) : world.Good stream := by
  cases hphase with
  | good hgood => exact hgood
  | void hgone => exact absurd hstate hgone.2
  | fresh hconnected => exact absurd hstate hconnected

/-- What was delivered is always a beginning of the stream. -/
theorem Phase.prefix {world : World} (hphase : world.Phase stream) :
    ∃ k, stream.reached k ∧ world.conn.recvBuffer.appended = stream.bytes k := by
  cases hphase with
  | good hgood => exact ⟨_, hgood.reached, hgood.appended⟩
  | void _ _ happended => exact happended
  | fresh _ _ _ _ happended => exact ⟨0, stream.zero, happended⟩

theorem Good.localAckNr_lt {world : World} (hgood : world.Good stream) :
    world.conn.localAckNr < 65536 := by
  rw [hgood.ackNr, Stream.number]
  omega

/-! ## The steps of the packet handler -/

/-- The first keys that a pass takes are those of the next packets. -/
theorem Good.takes_front {world : World} (hgood : world.Good stream) {done front : List Nat}
    (hdone : done <+: world.conn.recvPacketQueue.keys)
    (hfront : front <+: Pass.taken world.conn.localAckNr done) :
    stream.bytes world.conn.advanced ++ payloadOf world.conn.recvPacketQueue.items front =
        stream.bytes (world.conn.advanced + front.length) ∧
      stream.Holds (world.conn.advanced + front.length)
        (world.conn.recvPacketQueue.items.eraseAll front) ∧
      stream.reached (world.conn.advanced + front.length) := by
  have hsublist : front.Sublist world.conn.recvPacketQueue.keys :=
    (hfront.sublist.trans (Pass.taken_sublist _ _)).trans hdone.sublist
  have hnodup : world.conn.recvPacketQueue.keys.Nodup :=
    world.conn.recvPacketQueue.keys_sorted.imp fun h => Nat.ne_of_lt h
  refine hgood.holds.takeAll hgood.reached front
    (fun key hkey => CircularQueue.mem_keys.mp (hsublist.subset hkey)) (hnodup.sublist hsublist)
    fun index key hkey => ?_
  obtain ⟨more, hmore⟩ := hfront
  have htaken : (Pass.taken world.conn.localAckNr done)[index]? = some key := by
    rw [← hmore, List.getElem?_append_left (List.getElem?_eq_some_iff.mp hkey).1, hkey]
  rw [Pass.taken_getElem? htaken, hgood.ackNr, Stream.number, Stream.number]
  omega

/-- After a pass the number tells the position again. -/
theorem Good.passed_ackNr {world next : World} (hgood : world.Good stream) {done : List Nat}
    (hpassed : Passed closing world done next) :
    next.conn.localAckNr = stream.number next.conn.advanced := by
  rw [hpassed.ackNr, Pass.advance_eq hgood.localAckNr_lt, hpassed.advanced, hgood.ackNr,
    Stream.number, Stream.number]
  omega

/-- A pass that has delivered all it took keeps the receiver level. -/
theorem Good.passed_level {world next : World} (hgood : world.Good stream) {done : List Nat}
    (hdone : done <+: world.conn.recvPacketQueue.keys) (hpassed : Passed closing world done next)
    (hcomplete : WritesAll world done next) : next.Level stream := by
  obtain ⟨hbytes, -⟩ := hgood.takes_front hdone List.prefix_rfl
  refine ⟨hgood.passed_ackNr hpassed, ?_⟩
  rw [hcomplete, hgood.appended, hbytes, hpassed.advanced]

/-- A pass moves the position on by the number of keys that it takes. -/
theorem Good.passed {world next : World} (hgood : world.Good stream) {done : List Nat}
    (hdone : done <+: world.conn.recvPacketQueue.keys) (hpassed : Passed closing world done next) :
    next.Phase stream := by
  have hsublist : (Pass.taken world.conn.localAckNr done).Sublist
      world.conn.recvPacketQueue.keys := (Pass.taken_sublist _ _).trans hdone.sublist
  rcases hpassed.queue with ⟨hitems, happended⟩ | ⟨hempty, hgone, front, hfront, happended⟩
  · obtain ⟨-, hholds, hreached⟩ := hgood.takes_front hdone List.prefix_rfl
    have hlevel := hgood.passed_level hdone hpassed happended
    refine .good ⟨hlevel.ackNr, hlevel.appended, ?_, ?_, ?_, ?_⟩
    · exact hpassed.advanced ▸ hreached
    · rw [hpassed.advanced, hitems]
      exact hholds
    · exact hpassed.state.elim (fun h => h ▸ hgood.accepted) fun h => h.1.1
    · intro hstate
      have hbefore : world.conn.localState = .CS_SYN_RECV :=
        hpassed.state.elim (fun h => h.symm.trans hstate) fun h => absurd hstate h.1.2
      obtain ⟨hadvanced, hempty⟩ := hgood.waiting hbefore
      have hnone : Pass.taken world.conn.localAckNr done = [] := by
        refine List.eq_nil_iff_forall_not_mem.mpr fun key hkey => ?_
        have hmem := CircularQueue.mem_keys.mp (hsublist.subset hkey)
        rw [hempty] at hmem
        cases hmem
      rw [hpassed.advanced, hitems, hnone, hempty]
      exact ⟨hadvanced, rfl⟩
  · obtain ⟨hbytes, -, hreached⟩ := hgood.takes_front hdone hfront
    exact .void hgone hempty ⟨_, hreached, by rw [happended, hgood.appended, hbytes]⟩

/-- A live packet may enter the queue, whatever the queue evicts for it. -/
theorem Good.enqueue {world : World} (hgood : world.Good stream)
    (hreceived : world.conn.localState ≠ .CS_SYN_RECV) {packet : UtpPacket}
    (hpacket : ∃ i, stream.live world.conn.advanced i ∧ packet.payload = stream.payload i ∧
      packet.seqNr = stream.number i) : (world.enqueue packet).Good stream where
  ackNr := hgood.ackNr
  appended := hgood.appended
  reached := hgood.reached
  holds key other hother := by
    rcases CircularQueue.mem_entries_enqueue hother with ⟨rfl, rfl⟩ | ⟨-, hold⟩
    · exact hpacket
    · exact hgood.holds key other hold
  accepted := hgood.accepted
  waiting hstate := absurd hstate hreceived

theorem gone_acceptFin (world : World) (packet : UtpPacket) : (world.acceptFin packet).Gone :=
  gone_of_state rfl (.inl rfl)

/-- A FIN ends the phase in which data is taken. -/
theorem Phase.acceptFin {world : World} (hphase : world.Phase stream) (packet : UtpPacket) :
    (world.acceptFin packet).Phase stream := by
  cases hphase with
  | good hgood =>
      exact .good ⟨hgood.ackNr, hgood.appended, hgood.reached, hgood.holds, nofun, nofun⟩
  | void hgone hempty happended => exact .void (gone_acceptFin world packet) hempty happended
  | fresh hconnected hreceived hempty hadvanced happended =>
      exact .fresh nofun nofun hempty hadvanced happended

/-- Draining a connection that takes no more data leaves it aside. -/
theorem aside_drain {world : World} (hgone : world.Gone) : Aside closing world world.drain :=
  .of_gone rfl rfl rfl (.inl rfl) (.inr rfl) hgone (fun _ h => hgone.2 h) (.inr rfl)

/-! ## The packet handler -/

variable {clearing : Bool} {contract : Contract World}

/-- What the handler has to know of its invariant to take a packet in the connected
state: the pass keeps it, and so does a FIN behind the pass. -/
structure Takes (closing clearing : Bool) (contract : Contract World) (world : World)
    (packet : UtpPacket) : Prop where
  ackNr : world.conn.localAckNr < 65536
  pass : ∀ later done next, Aside closing world later →
    done <+: (later.enqueue packet).conn.recvPacketQueue.keys →
    Passed closing (later.enqueue packet) done next →
    (clearing = false → WritesAll (later.enqueue packet) done next) → contract.inv next
  fin : packet.type = .ST_FIN → ∀ later next, Aside closing world later →
    Passed closing (later.enqueue packet) (later.enqueue packet).conn.recvPacketQueue.keys next →
    (clearing = false → WritesAll (later.enqueue packet)
      (later.enqueue packet).conn.recvPacketQueue.keys next) → contract.inv (next.acceptFin packet)

/-- A FIN is handled within the contract, if its acceptance keeps the invariant. -/
theorem handleFin_meets (htolerant : Tolerant closing clearing contract) {packet : UtpPacket}
    {start world : World} (hworld : contract.inv (world.acceptFin packet)) :
    (UtpConn.handleFin packet).Meets contract (fun _ _ next => contract.inv next ∧
      Aside closing (world.acceptFin packet) next) start world := by
  have hgone := gone_acceptFin world packet
  refine Async.meets_bind.mpr (Async.meets_modify.mpr (Async.meets_bind.mpr
    ((htolerant.meets replyFin_aside hworld).mono ?_)))
  rintro (error | _) _ replied ⟨hreplied, hamong⟩
  · exact ⟨hreplied, hamong.toAside⟩
  · have hdrain : Aside closing replied replied.drain := aside_drain (hamong.gone hgone)
    refine Async.meets_bind.mpr (Async.meets_modify.mpr ((htolerant.meets
      (.awaited trySafeRelease_aside) (htolerant.inv _ _ hreplied hdrain)).mono ?_))
    exact fun _ _ _ h => ⟨h.1, (hamong.toAside.trans hdrain).trans h.2.toAside⟩

/-- What a pass establishes, nobody breaks until the next packet. -/
structure Resting (closing : Bool) (rest : World → Prop) : Prop where
  aside : ∀ world next, rest world → Aside closing world next → rest next
  acceptFin : ∀ world packet, rest world → rest (world.acceptFin packet)

/-- Once a pass has settled the queue, nobody unsettles it. -/
theorem resting_settled : Resting closing Settled :=
  ⟨fun _ _ hsettled haside => hsettled.aside haside, fun _ _ hsettled => hsettled⟩

variable {rest : World → Prop}

/-- What a full pass over the queue with the packet in it leaves behind. -/
def PassesTo (closing : Bool) (rest : World → Prop) (world : World) (packet : UtpPacket) : Prop :=
  ∀ later next, Aside closing world later → Passed closing (later.enqueue packet)
    (later.enqueue packet).conn.recvPacketQueue.keys next → rest next

/-- A pass settles the queue. -/
theorem passesTo_settled {world : World} {packet : UtpPacket}
    (hackNr : world.conn.localAckNr < 65536) : PassesTo closing Settled world packet :=
  fun _ _ haside hpassed => hpassed.settled (haside.ackNr ▸ hackNr)

/-- A packet is put away within the contract, and the queue is left as the pass leaves it. -/
theorem insertPacket_rests (htolerant : Tolerant closing clearing contract)
    (hresting : Resting closing rest)
    {packet : UtpPacket} {before start world : World}
    (htakes : Takes closing clearing contract before packet)
    (hpasses : PassesTo closing rest before packet) (haside : Aside closing before world) :
    (UtpConn.insertPacket packet).Meets contract (fun _ _ next =>
      contract.inv next ∧ rest next) start world := by
  have hanswer : ∀ {start next : World}, contract.inv next → rest next →
      (UtpConn.sendAck.bind fun _ => Async.pure true).Meets contract (fun _ _ next =>
        contract.inv next ∧ rest next) start next := by
    intro start next hnext hrest
    refine Async.meets_bind.mpr ((htolerant.meets sendAck_aside hnext).mono ?_)
    rintro (error | _) _ later ⟨hlater, haside⟩ <;>
      exact ⟨hlater, hresting.aside _ _ hrest haside.toAside⟩
  refine Async.meets_bind.mpr (Async.meets_modify.mpr (Async.meets_bind.mpr
    (htolerant.awaited ((processReceivedPackets_meets htolerant fun done next hdone hpassed =>
      htakes.pass world done next haside hdone hpassed).mono ?_))))
  rintro _ _ passed ⟨rfl, hpassed, hcomplete⟩
  refine ⟨htakes.pass _ _ _ haside List.prefix_rfl hpassed hcomplete, fun later hlater hrely => ?_⟩
  have hlater' := hpassed.aside hrely.toAside
  have hcomplete' : clearing = false → WritesAll (world.enqueue packet)
      (world.enqueue packet).conn.recvPacketQueue.keys later :=
    fun hspare => hrely.appended.trans (hcomplete hspare)
  have hrest : rest later := hpasses _ _ haside hlater'
  have hclosing : rest (later.acceptFin packet) := hresting.acceptFin _ _ hrest
  simp only
  split
  next hfin =>
    refine Async.meets_bind.mpr ((handleFin_meets htolerant
      (htakes.fin hfin _ _ haside hlater' hcomplete')).mono ?_)
    rintro (error | _) _ next ⟨hnext, hafter⟩
    · exact ⟨hnext, hresting.aside _ _ hclosing hafter⟩
    · exact hanswer hnext (hresting.aside _ _ hclosing hafter)
  next => exact hanswer hlater hrest

/-- In the connected state, a packet that is not refused goes into a queue that has
no packet to deliver if it is full. -/
theorem handleAtConnected_rests (htolerant : Tolerant closing clearing contract)
    (hresting : Resting closing rest) {packet : UtpPacket} {start world : World}
    (hworld : contract.inv world) (hrest : rest world)
    (hidle : world.conn.recvPacketQueue.capacity ≤ world.conn.recvPacketQueue.size →
      Seq.add world.conn.localAckNr 1 ∉ world.conn.recvPacketQueue.keys)
    (htakes : packet.isReliable = true → world.conn.isRefused packet = false →
      Takes closing clearing contract world packet ∧ PassesTo closing rest world packet) :
    (UtpConn.handleAtConnected packet).Meets contract (fun _ _ next =>
      contract.inv next ∧ rest next) start world := by
  simp only [UtpConn.handleAtConnected, Async.bind_eq, Async.meets_bind, Async.meets_get]
  split
  next => exact ⟨hworld, hrest⟩
  next =>
    split
    next => exact ⟨hworld, hrest⟩
    next htype =>
      split
      next => exact ⟨hworld, hrest⟩
      next hrefused =>
        have hreliable : packet.isReliable = true := by
          simp only [UtpPacket.isReliable, Bool.or_eq_true, decide_eq_true_eq]
          tauto
        obtain ⟨htakes, hpasses⟩ := htakes hreliable (Bool.eq_false_iff.mpr hrefused)
        split
        next hfull =>
          refine Async.meets_bind.mpr (htolerant.awaited (processKeys_idle (hidle hfull)
            ⟨hworld, fun later _ hamong => ?_⟩))
          exact insertPacket_rests htolerant hresting htakes hpasses hamong.toAside
        next => exact insertPacket_rests htolerant hresting htakes hpasses (.refl world)

/-- The next expected number does not wait in a full queue that is settled. -/
theorem Settled.idle {world : World} (hsettled : world.Settled)
    (hfull : world.conn.recvPacketQueue.capacity ≤ world.conn.recvPacketQueue.size) :
    Seq.add world.conn.localAckNr 1 ∉ world.conn.recvPacketQueue.keys :=
  fun h => Nat.not_le.mpr (hsettled (CircularQueue.mem_keys.mp h)).2 hfull

end World

end Utp
