import Utp.Receiver.Handler
import Utp.Receiver.Reassembly

/-! # Delivery over unbounded runs

The peer sends one data packet after the other, and sequence numbers come round
again after 65536 of them. The network may lose, repeat and reorder, within half
a cycle. As long as no packet arrives from behind the receiver's position, and no reset empties
the queue in the middle of a pass, every byte is delivered once and in order. A packet from
behind stays in the queue until its number comes round.
-/

namespace Utp

open Async (Chain Config Outline)

/-- The packets `1 .. sent` of an endless stream, behind a position and its number. -/
def Stream.endless (ackNr start : Nat) (earlier : Bytes) (payload : Nat → Bytes) (sent : Nat) :
    Stream where
  base := ackNr + 65535 * start
  earlier := earlier
  payload := shifted start payload
  live k i := k < i ∧ i < k + 2 ^ 15 ∧ i ≤ start + sent
  reached k := k ≤ start + sent
  zero := Nat.zero_le _
  unique k i := by omega
  onward k i := by omega
  arrived _ _ hlive := hlive.2.2

/-- A copy of the peer's `i`-th data packet. Copies may differ in their clocks, and in
what they acknowledge. -/
structure IsCopy (ackNr : Nat) (payload : Nat → Bytes) (i : Nat) (packet : UtpPacket) : Prop where
  type : packet.type = .ST_DATA
  seqNr : packet.seqNr = Seq.add ackNr i
  payload : packet.payload = payload i

/-- Packets other than data and FIN. -/
def unreliable (_ : World) (packet : UtpPacket) : Prop := packet.isReliable = false

/-- The runs of a receiver, with the number of packets its peer has sent. Packet `i` is
not delivered any more once packet `i + 2 ^ 15` has been sent, and the peer keeps within
`2 ^ 15` of the receiver's position. Delivered packets satisfy `fresh`, and `reset` is called
where `spares` holds; the tasks of the receiver interleave in any way. -/
inductive Delivery (payload : Nat → Bytes) (fresh : World → UtpPacket → Prop)
    (spares : World → Prop) (initial : World) : Config World Label → Nat → Prop
  | start : Delivery payload fresh spares initial ⟨initial, []⟩ 0
  | send {config : Config World Label} {sent : Nat}
      (hrun : Delivery payload fresh spares initial config sent)
      (hwindow : sent + 1 < config.state.conn.advanced - initial.conn.advanced + 2 ^ 15) :
      Delivery payload fresh spares initial config (sent + 1)
  | deliver {config : Config World Label} {sent i : Nat} {packet : UtpPacket}
      (hrun : Delivery payload fresh spares initial config sent) (hsent : 1 ≤ i ∧ i ≤ sent)
      (hrecent : sent < i + 2 ^ 15) (hcopy : IsCopy initial.conn.localAckNr payload i packet)
      (hfresh : fresh config.state packet) (hfree : ∀ other ∈ config.tasks, other.1 ≠ .receive) :
      Delivery payload fresh spares initial
        (config.launch .receive (Async.discard (UtpConn.handleIncomingPacket packet))) sent
  | reset {config : Config World Label} {sent : Nat}
      (hrun : Delivery payload fresh spares initial config sent) (hspares : spares config.state) :
      Delivery payload fresh spares initial (config.launch .reset UtpConn.reset) sent
  | step {config next : Config World Label} {sent : Nat}
      (hrun : Delivery payload fresh spares initial config sent)
      (hstep : (connSystem (· ≠ .reset) unreliable).Step config next) :
      Delivery payload fresh spares initial next sent

/-- The packet does not lie behind the acknowledgement number when it arrives. -/
def notBehind (world : World) (packet : UtpPacket) : Prop :=
  Seq.lt packet.seqNr world.conn.localAckNr = false

namespace World

variable {payload : Nat → Bytes} {initial : World} {first sent : Nat}
  {config : Config World Label}

/-- The stream of the run, as far as it has been sent. -/
abbrev sentStream (initial : World) (payload : Nat → Bytes) (sent : Nat) : Stream :=
  .endless initial.conn.localAckNr initial.conn.advanced initial.conn.recvBuffer.appended payload
    sent

/-- Whatever goes on between the packets of the peer, but for a reset. -/
theorem sentStream_sound :
    (outline true false first (Abreast (sentStream initial payload sent))).Sound
      (connSystem (· ≠ .reset) unreliable) := by
  apply outline_sound
  · exact fun _ _ _ => rfl
  · exact fun _ hreset => hreset rfl
  · exact fun _ _ h hact => h.aside hact.aside
  · intro world packet htracked hworld hsettled hunreliable
    exact hworld.receive htracked hsettled fun _ _ hreliable =>
      absurd hreliable (Bool.eq_false_iff.mp hunreliable)

/-- A packet within half a cycle that is neither refused nor behind lies ahead. -/
theorem live_of_notBehind {world : World} {i : Nat} {packet : UtpPacket}
    (hgood : world.Good (sentStream initial payload sent))
    (hstart : initial.conn.advanced ≤ world.conn.advanced)
    (hwindow : sent < world.conn.advanced - initial.conn.advanced + 2 ^ 15)
    (hsent : 1 ≤ i ∧ i ≤ sent) (hrecent : sent < i + 2 ^ 15)
    (hcopy : IsCopy initial.conn.localAckNr payload i packet)
    (hfresh : notBehind world packet) (hrefused : world.conn.isRefused packet = false) :
    ∃ j, (sentStream initial payload sent).live world.conn.advanced j ∧
      packet.payload = (sentStream initial payload sent).payload j ∧
      packet.seqNr = (sentStream initial payload sent).number j := by
  have hreached : world.conn.advanced ≤ initial.conn.advanced + sent := hgood.reached
  obtain ⟨position, hposition⟩ := Nat.exists_eq_add_of_le hstart
  have hackNr := hgood.ackNr
  rw [hposition, Stream.number_behind _ rfl] at hackNr
  have hseqNr := hcopy.seqNr
  rw [Seq.add_nat] at hseqNr
  have hne : packet.seqNr ≠ world.conn.localAckNr := fun h => by
    simp [UtpConn.isRefused, h] at hrefused
  have hahead : position < i := by
    by_contra hle
    refine Bool.eq_false_iff.mp hfresh (Seq.lt_iff.mpr ⟨hne, ?_⟩)
    rw [hackNr, hseqNr, Seq.diff]
    omega
  refine ⟨initial.conn.advanced + i, ?_, ?_, ?_⟩
  · simp only [sentStream, Stream.endless]
    omega
  · rw [hcopy.payload]
    simp only [sentStream, Stream.endless, Stream.shifted]
    rw [if_neg (by omega)]
    congr 1
    omega
  · rw [Stream.number_behind _ rfl, hseqNr]

/-- What holds along the run: every stream that contains what has been sent is kept to. -/
structure Delivering (first : Nat) (initial : World) (payload : Nat → Bytes)
    (config : Config World Label) (sent : Nat) : Prop where
  moving : config.Moving (Act true true true) (Tracked first)
  begun : initial.conn.advanced ≤ config.state.conn.advanced
  window : sent < config.state.conn.advanced - initial.conn.advanced + 2 ^ 15
  holds : ∀ bound, sent ≤ bound →
    (outline true false first (Abreast (sentStream initial payload bound))).Holds
      (connSystem (· ≠ .reset) unreliable) config

theorem Delivering.moved {next : Config World Label}
    (hconfig : Delivering first initial payload config sent)
    (hchain : Chain (Act true true true) config.state next.state)
    (hmoving : next.Moving (Act true true true) (Tracked first))
    (hholds : ∀ bound, sent ≤ bound →
      (outline true false first (Abreast (sentStream initial payload bound))).Holds
        (connSystem (· ≠ .reset) unreliable) next) :
    Delivering first initial payload next sent := by
  have hadvanced := (Grows.of_chain hchain).advanced
  have hbegun := hconfig.begun
  have hwindow := hconfig.window
  exact ⟨hmoving, by omega, by omega, hholds⟩

theorem Delivering.of_run (htracked : initial.Tracked first)
    (hstate : initial.conn.localState = .CS_CONNECTED) (hackNr : initial.conn.localAckNr < 65536)
    (hempty : initial.conn.recvPacketQueue.items = ∅)
    (hrun : Delivery payload notBehind Rested initial config sent) :
    Delivering first initial payload config sent := by
  induction hrun with
  | start =>
      have hnotSent : ∀ {state : UtpConnState}, state ≠ .CS_CONNECTED →
          initial.conn.localState ≠ state := fun hne h => hne (h.symm.trans hstate)
      have hgood : ∀ bound, initial.Good (sentStream initial payload bound) := fun bound =>
        { ackNr := by
            have hnumber := (sentStream initial payload bound).number_behind rfl 0
            rw [Nat.add_zero, Nat.add_zero, Nat.mod_eq_of_lt hackNr] at hnumber
            exact hnumber.symm
          appended := by
            rw [Stream.bytes_behind _ rfl, Nat.sub_self]
            exact (List.append_nil _).symm
          reached := Nat.le_add_right _ _
          holds := hempty ▸ Stream.holds_empty _
          accepted := hnotSent nofun
          waiting := fun h => absurd h (hnotSent nofun) }
      refine ⟨.start htracked, Nat.le_refl _, Nat.lt_of_lt_of_le (by decide) (Nat.le_add_left _ _),
        fun bound _ => .start ⟨htracked,
          ⟨⟨hnotSent nofun, hnotSent nofun⟩, .good (hgood bound)⟩, (hgood bound).level⟩
          fun _ _ => settled_of_empty hempty⟩
  | send _ hwindow ih =>
      exact ⟨ih.moving, ih.begun, hwindow, fun bound hbound =>
        ih.holds bound (Nat.le_of_succ_le hbound)⟩
  | @deliver config sent i packet _ hsent hrecent hcopy hfresh hfree ih =>
      obtain ⟨hchain, hmoving⟩ := ih.moving.launch (fun _ _ h hact => hact.tracked h)
        (spawns_acts ih.moving.inv (show Spawns anyPacket _ _ _ from .receive packet trivial)
          (fun _ => rfl) (fun _ => rfl) fun _ => rfl) Label.receive
      refine ih.moved hchain hmoving fun bound hbound => ?_
      have hconfig := ih.holds bound hbound
      refine hconfig.launch sentStream_sound ?_ fun _ => hfree
      refine hconfig.inv.2.receive hconfig.inv.1 (hconfig.rest .receive hfree rfl)
        fun hstate _ _ hrefused => ?_
      have hgood := (ih.holds sent (Nat.le_refl _)).inv.2.receiving.2.connected hstate
      obtain ⟨j, hlive, hpayload, hnumber⟩ := live_of_notBehind hgood ih.begun ih.window hsent
        hrecent hcopy hfresh hrefused
      refine ⟨j, ⟨hlive.1, hlive.2.1, hlive.2.2.trans ?_⟩, hpayload, hnumber⟩
      exact Nat.add_le_add_left hbound _
  | @reset config sent _ hrested ih =>
      obtain ⟨hchain, hmoving⟩ := ih.moving.launch (fun _ _ h hact => hact.tracked h)
        (reset_acts _ ih.moving.inv) Label.reset
      refine ih.moved hchain hmoving fun bound hbound => ?_
      have hconfig := ih.holds bound hbound
      refine hconfig.launch sentStream_sound ?_ fun hexclusive => absurd hexclusive nofun
      exact other_meets (fun _ _ h hact => h.aside hact.aside) nofun hconfig.inv
        (reset_elsewhere hconfig.inv.1 hrested rfl)
  | step _ hstep ih =>
      obtain ⟨hchain, hmoving⟩ := connSystem_acts.step ih.moving hstep
      exact ih.moved hchain hmoving fun bound hbound =>
        (ih.holds bound hbound).step sentStream_sound hstep

/-- In every run whose packets do not arrive from behind, and in which nobody resets the
connection in the middle of a pass, `localAckNr` is the number of some packet `k`, and the
bytes delivered are those of the packets `1 .. k`. -/
theorem delivered_in_order (htracked : initial.Tracked first)
    (hstate : initial.conn.localState = .CS_CONNECTED) (hackNr : initial.conn.localAckNr < 65536)
    (hempty : initial.conn.recvPacketQueue.items = ∅)
    (hrun : Delivery payload notBehind Rested initial config sent) :
    ∃ k, config.state.conn.localAckNr = (initial.conn.localAckNr + k) % 65536 ∧
      config.state.conn.recvBuffer.appended = initial.conn.recvBuffer.appended ++
        (List.range k).flatMap fun index => payload (index + 1) := by
  have hdelivering := Delivering.of_run htracked hstate hackNr hempty hrun
  have hlevel := (hdelivering.holds sent (Nat.le_refl _)).inv.2.level
  obtain ⟨k, hk⟩ := Nat.exists_eq_add_of_le hdelivering.begun
  refine ⟨k, ?_, ?_⟩
  · rw [hlevel.ackNr, hk, Stream.number_behind _ rfl]
  · rw [hlevel.appended, hk, Stream.bytes_behind _ rfl, Nat.add_sub_cancel_left]
    rfl

/-! ## A stale copy comes round -/

/-- One byte a packet, and another byte in packet 65537. -/
def markedPayload (i : Nat) : Bytes := if i = 65537 then [2] else [1]

/-- The peer's `i`-th packet to a receiver that starts at the number 0. -/
def markedPacket (i : Nat) : UtpPacket :=
  { type := .ST_DATA, connId := 1, seqNr := i % 65536, data := some (markedPayload i) }

theorem isCopy_markedPacket (i : Nat) : IsCopy 0 markedPayload i (markedPacket i) :=
  ⟨rfl, by rw [Seq.add_nat, Nat.zero_add]; rfl, rfl⟩

/-- A packet may be handled to its end before anything else happens. -/
theorem deliver_run {fresh : World → UtpPacket → Prop} {spares : World → Prop}
    {world next : World} {i : Nat} {packet : UtpPacket} {result : Except String Unit}
    (hrun : Delivery payload fresh spares initial ⟨world, []⟩ sent) (hsent : 1 ≤ i ∧ i ≤ sent)
    (hrecent : sent < i + 2 ^ 15) (hcopy : IsCopy initial.conn.localAckNr payload i packet)
    (hfresh : fresh world packet)
    (hhandled : (Async.discard (UtpConn.handleIncomingPacket packet)).run world =
      some (next, result)) : Delivery payload fresh spares initial ⟨next, []⟩ sent := by
  obtain ⟨count, hcount⟩ := Config.resumes_of_run hhandled Label.receive
  rw [← hcount]
  have hlaunched := Delivery.deliver hrun hsent hrecent hcopy hfresh nofun
  clear hcount
  generalize Config.launch ⟨world, []⟩ Label.receive _ = config at hlaunched
  induction count generalizing config with
  | zero => exact hlaunched
  | succ count ih => exact ih _ (hlaunched.step (.resume 0))

/-- Every packet carries one byte. -/
theorem length_marked (count : Nat) :
    ((List.range count).flatMap fun index => markedPayload (index + 1)).length = count := by
  induction count with
  | zero => rfl
  | succ count ih =>
      rw [List.range_succ, List.flatMap_append, List.length_append, ih, List.flatMap_singleton,
        markedPayload]
      split <;> rfl

/-- The position is `k`, and a copy of packet 1 is left in the queue. -/
structure Stale (k : Nat) (world : World) : Prop where
  connected : world.conn.localState = .CS_CONNECTED
  finless : world.conn.remoteFinPacket = none
  localAckNr : world.conn.localAckNr = k
  advanced : world.conn.advanced = k
  capacity : 1 < world.conn.recvPacketQueue.capacity
  keys : ∀ key, key ∈ world.conn.recvPacketQueue.items.keys ↔ key = 1
  copy : world.conn.recvPacketQueue.items.get? 1 = some (markedPacket 1)
  appended : world.conn.recvBuffer.appended =
    (List.range k).flatMap fun index => markedPayload (index + 1)

theorem Stale.size {k : Nat} {world : World} (hstale : Stale k world) :
    world.conn.recvPacketQueue.size = 1 := by
  have hperm : world.conn.recvPacketQueue.items.keys.Perm [1] :=
    (List.perm_ext_iff_of_nodup (OrderedMap.keys_nodup _) (by simp)).mpr fun key => by
      rw [hstale.keys, List.mem_singleton]
  have hlength := hperm.length_eq
  rwa [OrderedMap.length_keys] at hlength

/-- The next packet is inserted and a pass begins. -/
theorem Stale.handle {k : Nat} {world : World} (hstale : Stale k world) :
    ∃ next result, (Async.discard (UtpConn.handleIncomingPacket (markedPacket (k + 1)))).run world =
        some (next, result) ∧
      Passed false (world.enqueue (markedPacket (k + 1)))
        (world.enqueue (markedPacket (k + 1))).conn.recvPacketQueue.keys next ∧
      (world.enqueue (markedPacket (k + 1))).conn.recvPacketQueue.items =
        world.conn.recvPacketQueue.items.set ((k + 1) % 65536) (markedPacket (k + 1)) := by
  have hroom : world.conn.recvPacketQueue.size < world.conn.recvPacketQueue.capacity := by
    rw [hstale.size]
    exact hstale.capacity
  have hrefused : world.conn.isRefused (markedPacket (k + 1)) = false := by
    have hne : (k + 1) % 65536 ≠ k := by omega
    simp [UtpConn.isRefused, markedPacket, hstale.localAckNr, hstale.finless, hne]
  obtain ⟨next, result, hrun, hpassed⟩ := run_handleIncomingPacket hstale.connected rfl hrefused
    (.inl hroom)
  exact ⟨next, result, hrun, hpassed, CircularQueue.enqueue_of_room _ _ (.inr hroom)⟩

theorem taken_one {k : Nat} {keys : List Nat}
    (hkeys : ∀ key, key ∈ keys ↔ key = 1 ∨ key = (k + 1) % 65536) (hpos : 2 ≤ k)
    (hlast : k < 65535) : Pass.taken k keys = [k + 1] := by
  have hnext : Seq.add k 1 ∈ Pass.taken k keys :=
    Pass.mem_taken ((hkeys _).mpr (.inr (Seq.add_one k)))
  have hget : ∀ index key, (Pass.taken k keys)[index]? = some key →
      key = (k + 1 + index) % 65536 := fun _ _ => Pass.taken_getElem?
  match htaken : Pass.taken k keys with
  | [] => simp [htaken] at hnext
  | [key] =>
      rw [hget 0 key (by rw [htaken]; rfl), Nat.mod_eq_of_lt (by omega)]
  | key :: other :: rest =>
      have hother := hget 1 other (by rw [htaken]; rfl)
      have hmem := (hkeys other).mp ((Pass.taken_sublist k keys).subset (by rw [htaken]; simp))
      omega

theorem taken_two {keys : List Nat} (hsorted : keys.Pairwise (· < ·))
    (hkeys : ∀ key, key ∈ keys ↔ key = 1 ∨ key = 0) : Pass.taken 65535 keys = [0, 1] := by
  have hnext : Seq.add 65535 1 ∈ Pass.taken 65535 keys :=
    Pass.mem_taken ((hkeys _).mpr (.inr (by decide)))
  have hget : ∀ index key, (Pass.taken 65535 keys)[index]? = some key →
      key = (65535 + 1 + index) % 65536 := fun _ _ => Pass.taken_getElem?
  match htaken : Pass.taken 65535 keys with
  | [] => simp [htaken] at hnext
  | [key] =>
      have hackNr : 65535 < 65536 := by decide
      have hadvance : Pass.advance 65535 keys = 0 := by
        rw [Pass.advance_eq hackNr, htaken, List.length_singleton]
      have hstop := Pass.advance_stops hackNr hsorted
        (by rw [hadvance]; exact (hkeys _).mpr (.inl (by decide)))
      rw [hadvance, htaken, hget 0 key (by rw [htaken]; rfl)] at hstop
      simp [Seq.add] at hstop
  | [key, other] =>
      rw [hget 0 key (by rw [htaken]; rfl), hget 1 other (by rw [htaken]; rfl)]
  | key :: other :: third :: rest =>
      have hthird := hget 2 third (by rw [htaken]; rfl)
      have hmem := (hkeys third).mp ((Pass.taken_sublist _ keys).subset (by rw [htaken]; simp))
      omega

/-- The next packet is delivered, and the copy stays. -/
theorem Stale.next {k : Nat} {world : World} (hstale : Stale k world) (hpos : 2 ≤ k)
    (hlast : k < 65535) :
    ∃ next result, (Async.discard (UtpConn.handleIncomingPacket (markedPacket (k + 1)))).run world =
        some (next, result) ∧ Stale (k + 1) next := by
  obtain ⟨next, result, hrun, hpassed, hitems⟩ := hstale.handle
  have hnumber : (k + 1) % 65536 = k + 1 := Nat.mod_eq_of_lt (by omega)
  have htaken : Pass.taken k (world.enqueue (markedPacket (k + 1))).conn.recvPacketQueue.keys =
      [k + 1] := by
    refine taken_one (fun key => ?_) hpos hlast
    rw [CircularQueue.mem_keys, hitems, OrderedMap.mem_keys_set, hstale.keys]
  have hackNr : (world.enqueue (markedPacket (k + 1))).conn.localAckNr = k := hstale.localAckNr
  have hconnected := hpassed.connected rfl hstale.connected
  rcases hpassed.queue with ⟨hleft, happended⟩ | ⟨-, hgone, -⟩
  · rw [hackNr, htaken, hitems, hnumber] at hleft happended
    refine ⟨next, result, hrun, hconnected, hpassed.finless hstale.finless, ?_, ?_, ?_, ?_, ?_, ?_⟩
    · rw [hpassed.ackNr, hackNr, Pass.advance_eq (by omega), htaken]
      exact hnumber
    · rw [hpassed.advanced, hackNr, htaken]
      exact congrArg (· + 1) hstale.advanced
    · rw [hpassed.capacity]
      exact hstale.capacity.trans_eq (CircularQueue.enqueue_capacity _ _ _).symm
    · intro key
      rw [hleft, OrderedMap.mem_keys_eraseAll, OrderedMap.mem_keys_set, hstale.keys,
        List.mem_singleton]
      omega
    · rw [hleft, OrderedMap.get?_eraseAll, OrderedMap.get?_set, hstale.copy, if_neg
        (by simp; omega),
        if_neg (by omega)]
    · rw [happended, List.range_succ, List.flatMap_append, List.flatMap_singleton, ←
        hstale.appended]
      simp [payloadOf, UtpPacket.payload, markedPacket, World.enqueue, onConn]
  · exact absurd hconnected hgone.2

/-- After packet 65536 the number 1 comes round, and the copy is delivered once more. -/
theorem Stale.wrap {world : World} (hstale : Stale 65535 world) :
    ∃ next result, (Async.discard (UtpConn.handleIncomingPacket (markedPacket 65536))).run world =
        some (next, result) ∧
      next.conn.recvBuffer.appended =
        (List.range 65536).flatMap (fun index => markedPayload (index + 1)) ++ [1] := by
  obtain ⟨next, result, hrun, hpassed, hitems⟩ := hstale.handle
  have htaken : Pass.taken 65535
      (world.enqueue (markedPacket (65535 + 1))).conn.recvPacketQueue.keys = [0, 1] := by
    refine taken_two (CircularQueue.keys_sorted _) fun key => ?_
    rw [CircularQueue.mem_keys, hitems, OrderedMap.mem_keys_set, hstale.keys]
  have hackNr : (world.enqueue (markedPacket (65535 + 1))).conn.localAckNr = 65535 :=
    hstale.localAckNr
  refine ⟨next, result, hrun, ?_⟩
  rcases hpassed.queue with ⟨-, happended⟩ | ⟨-, hgone, -⟩
  · rw [hackNr, htaken, hitems] at happended
    rw [happended, List.range_succ, List.flatMap_append, List.flatMap_singleton, List.append_assoc,
      ← hstale.appended]
    simp [payloadOf, UtpPacket.payload, markedPacket, markedPayload, World.enqueue, onConn,
      hstale.copy]
  · exact absurd (hpassed.connected rfl hstale.connected) hgone.2

/-- The state behind a packet that is handled to its end. -/
def handled (packet : UtpPacket) (world : World) : World :=
  ((Async.discard (UtpConn.handleIncomingPacket packet)).run world).elim world Prod.fst

theorem run_handled (packet : UtpPacket) (world : World)
    (hrun : ((Async.discard (UtpConn.handleIncomingPacket packet)).run world).isSome = true) :
    ∃ result, (Async.discard (UtpConn.handleIncomingPacket packet)).run world =
      some (handled packet world, result) := by
  obtain ⟨result, hresult⟩ := Option.isSome_iff_exists.mp hrun
  exact ⟨result.2, by rw [handled, hresult]; rfl⟩

/-- Packets 1 and 2, and packet 1 again. -/
def repeated : World :=
  handled (markedPacket 1) (handled (markedPacket 2) (handled (markedPacket 1) (awaiting 1)))

theorem stale_repeated : Stale 2 repeated := by
  have hevaluated : (repeated.conn.localState = .CS_CONNECTED ∧ repeated.conn.localAckNr = 2 ∧
      repeated.conn.advanced = 2 ∧ 1 < repeated.conn.recvPacketQueue.capacity) ∧
      repeated.conn.remoteFinPacket = none ∧ repeated.conn.recvPacketQueue.items.keys = [1] ∧
      repeated.conn.recvPacketQueue.items.get? 1 = some (markedPacket 1) ∧
      repeated.conn.recvBuffer.appended =
        (List.range 2).flatMap fun index => markedPayload (index + 1) := by
    decide +kernel
  obtain ⟨⟨hconnected, hackNr, hadvanced, hcapacity⟩, hfinless, hkeys, hcopy, happended⟩ :=
    hevaluated
  refine ⟨hconnected, hfinless, hackNr, hadvanced, hcapacity, fun key => ?_, hcopy, happended⟩
  rw [hkeys, List.mem_singleton]

/-- The deliveries of a run whose packets come from anywhere within half a cycle. -/
abbrev MarkedRun (config : Config World Label) (sent : Nat) : Prop :=
  Delivery markedPayload (fun _ _ => True) (fun _ => True) (awaiting 1) config sent

theorem markedRun_deliver {world next : World} {i : Nat} {result : Except String Unit}
    (hrun : MarkedRun ⟨world, []⟩ sent) (hsent : 1 ≤ i ∧ i ≤ sent) (hrecent : sent < i + 2 ^ 15)
    (hhandled : (Async.discard (UtpConn.handleIncomingPacket (markedPacket i))).run world =
      some (next, result)) : MarkedRun ⟨next, []⟩ sent := by
  have hackNr : (awaiting 1).conn.localAckNr = 0 := by decide +kernel
  exact deliver_run hrun hsent hrecent (hackNr ▸ isCopy_markedPacket i) trivial hhandled

theorem markedRun_repeated : MarkedRun ⟨repeated, []⟩ 2 := by
  have hsent : MarkedRun ⟨awaiting 1, []⟩ 2 :=
    .send (.send .start (by decide +kernel)) (by decide +kernel)
  obtain ⟨_, hfirst⟩ := run_handled (markedPacket 1) (awaiting 1) (by decide +kernel)
  obtain ⟨_, hsecond⟩ := run_handled (markedPacket 2) (handled (markedPacket 1) (awaiting 1))
    (by decide +kernel)
  obtain ⟨_, hthird⟩ := run_handled (markedPacket 1)
    (handled (markedPacket 2) (handled (markedPacket 1) (awaiting 1))) (by decide +kernel)
  have hdelivered := markedRun_deliver hsent (by decide) (by decide) hfirst
  exact markedRun_deliver (markedRun_deliver hdelivered (by decide) (by decide) hsecond)
    (by decide) (by decide) hthird

theorem MarkedRun.next {k : Nat} {world : World} (hrun : MarkedRun ⟨world, []⟩ k)
    (hstale : Stale k world) : MarkedRun ⟨world, []⟩ (k + 1) := by
  refine .send hrun ?_
  have hinitial : (awaiting 1).conn.advanced = 0 := by decide +kernel
  rw [hinitial]
  have hadvanced : world.conn.advanced = k := hstale.advanced
  show k + 1 < world.conn.advanced - 0 + 2 ^ 15
  omega

theorem markedRun_stale {k : Nat} (hpos : 2 ≤ k) (hlast : k ≤ 65535) :
    ∃ world, MarkedRun ⟨world, []⟩ k ∧ Stale k world := by
  induction k, hpos using Nat.le_induction with
  | base => exact ⟨repeated, markedRun_repeated, stale_repeated⟩
  | succ k hpos ih =>
      obtain ⟨world, hrun, hstale⟩ := ih (Nat.le_of_succ_le hlast)
      obtain ⟨next, result, hhandled, hnext⟩ := hstale.next hpos hlast
      exact ⟨next, markedRun_deliver (hrun.next hstale) (by omega) (by omega) hhandled, hnext⟩

/-- Without the first condition the copy of packet 1 is delivered in the place of packet
65537. -/
theorem stale_copy_delivered :
    ¬ ∀ config sent, MarkedRun config sent →
      ∃ k, config.state.conn.localAckNr = ((awaiting 1).conn.localAckNr + k) % 65536 ∧
        config.state.conn.recvBuffer.appended = (awaiting 1).conn.recvBuffer.appended ++
          (List.range k).flatMap fun index => markedPayload (index + 1) := by
  intro hclaim
  obtain ⟨world, hrun, hstale⟩ := markedRun_stale (by decide : 2 ≤ 65535) (Nat.le_refl _)
  obtain ⟨next, result, hhandled, happended⟩ := hstale.wrap
  have hnext := markedRun_deliver (hrun.next hstale) (by decide) (by decide) hhandled
  obtain ⟨k, -, hk⟩ := hclaim _ _ hnext
  have hinitial : (awaiting 1).conn.recvBuffer.appended = [] := by decide +kernel
  rw [hinitial, List.nil_append] at hk
  have hbytes := happended.symm.trans hk
  have hcount : k = 65537 := by
    have := congrArg List.length hbytes
    rw [List.length_append, length_marked, length_marked] at this
    simpa using this.symm
  have hcomplete : ∀ count,
      (List.range (count + 1)).flatMap (fun index => markedPayload (index + 1)) =
        (List.range count).flatMap (fun index => markedPayload (index + 1)) ++
          markedPayload (count + 1) := fun count => by
    rw [List.range_succ, List.flatMap_append, List.flatMap_singleton]
  rw [hcount, hcomplete 65536] at hbytes
  exact absurd (List.append_cancel_left hbytes) (by decide)

/-- The pass over packets 1 and 2 waits for the buffer, and the queue is emptied. -/
def interrupted : Config World Label :=
  let pass := Async.discard (UtpConn.handleIncomingPacket (markedPacket 1))
  (Config.launch ⟨handled (markedPacket 2) (awaiting 1), []⟩ .receive pass).launch .reset
    UtpConn.reset

/-- Without the second one the pass counts packet 2, which is gone. -/
theorem reset_skips_packet :
    ¬ ∀ config sent, Delivery markedPayload notBehind (fun _ => True) (awaiting 1) config sent →
      ∃ k, config.state.conn.localAckNr = ((awaiting 1).conn.localAckNr + k) % 65536 ∧
        config.state.conn.recvBuffer.appended = (awaiting 1).conn.recvBuffer.appended ++
          (List.range k).flatMap fun index => markedPayload (index + 1) := by
  intro hclaim
  have hackNr : (awaiting 1).conn.localAckNr = 0 := by decide +kernel
  have hsent : Delivery markedPayload notBehind (fun _ => True) (awaiting 1) ⟨awaiting 1, []⟩ 2 :=
    .send (.send .start (by decide +kernel)) (by decide +kernel)
  obtain ⟨_, hsecond⟩ := run_handled (markedPacket 2) (awaiting 1) (by decide +kernel)
  have hqueued := deliver_run hsent (by decide) (by decide) (hackNr ▸ isCopy_markedPacket 2)
    (show Seq.lt _ _ = false by decide +kernel) hsecond
  have hpass := hqueued.deliver (by decide) (by decide) (hackNr ▸ isCopy_markedPacket 1)
    (show Seq.lt _ _ = false by decide +kernel) nofun
  have hreset : Delivery markedPayload notBehind (fun _ => True) (awaiting 1) interrupted 2 :=
    hpass.reset trivial
  have hresumed := (hreset.step (.resume 0)).step (.resume 0)
  obtain ⟨k, hnumber, hbytes⟩ := hclaim _ _ hresumed
  have hafter : ((interrupted.resume 0).resume 0).state.conn.localAckNr = 2 ∧
      ((interrupted.resume 0).resume 0).state.conn.recvBuffer.appended = [1] := by
    decide +kernel
  have hinitial : (awaiting 1).conn.recvBuffer.appended = [] := by decide +kernel
  rw [hafter.1, hackNr] at hnumber
  have hlength := congrArg List.length hbytes
  rw [hafter.2, hinitial, List.nil_append, length_marked, List.length_singleton] at hlength
  omega

/-- Packet 1 is delivered to an initiator, which is reset behind the pass. -/
def resetBehind : Config World Label :=
  Config.launch ⟨handled (markedPacket 1) (awaiting 1), []⟩ .reset UtpConn.reset

theorem delivered_in_order_sample :
    ∃ k, resetBehind.state.conn.localAckNr = ((awaiting 1).conn.localAckNr + k) % 65536 ∧
      resetBehind.state.conn.recvBuffer.appended =
        (awaiting 1).conn.recvBuffer.appended ++
          (List.range k).flatMap fun index => markedPayload (index + 1) := by
  obtain ⟨_, hfirst⟩ := run_handled (markedPacket 1) (awaiting 1) (by decide +kernel)
  have hackNr : (awaiting 1).conn.localAckNr = 0 := by decide +kernel
  have hcopy : IsCopy (awaiting 1).conn.localAckNr markedPayload 1 (markedPacket 1) := by
    rw [hackNr]
    exact isCopy_markedPacket 1
  have hfresh : notBehind (awaiting 1) (markedPacket 1) :=
    show Seq.lt _ _ = false by decide +kernel
  have hsent : Delivery markedPayload notBehind Rested (awaiting 1) ⟨awaiting 1, []⟩ 1 :=
    .send .start (by decide +kernel)
  have hrun := deliver_run hsent (by decide) (by decide) hcopy hfresh hfirst
  have hrested : (handled (markedPacket 1) (awaiting 1)).Rested := .inr (by decide +kernel)
  have hreset : Delivery markedPayload notBehind Rested (awaiting 1) resetBehind 1 :=
    hrun.reset hrested
  exact delivered_in_order (awaiting_tracked 1) (by decide +kernel) (by decide +kernel)
    (by decide +kernel) hreset

end World

end Utp
