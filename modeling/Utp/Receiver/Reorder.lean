import Utp.Receiver.Interference
import Utp.Receiver.Pass

/-! # The pass over the reorder queue

What `processReceivedPackets` leaves behind, whatever the other tasks do while it
waits for the receive buffer. Where the connection is reset meanwhile, the queue
is gone, and the pass goes on over keys that are no longer there.
-/

namespace Utp

open Async (Contract)

/-- The payloads stored under some keys, in the order of the keys. -/
def payloadOf (items : OrderedMap Nat UtpPacket) (keys : List Nat) : Bytes :=
  keys.flatMap fun key => ((items.get? key).map UtpPacket.payload).getD []

theorem payloadOf_append (items : OrderedMap Nat UtpPacket) (keys more : List Nat) :
    payloadOf items (keys ++ more) = payloadOf items keys ++ payloadOf items more :=
  List.flatMap_append

theorem payloadOf_erase {items : OrderedMap Nat UtpPacket} {key : Nat} {keys : List Nat}
    (hkey : key ∉ keys) : payloadOf (items.erase key) keys = payloadOf items keys := by
  unfold payloadOf
  rw [List.flatMap_congr]
  intro other hother
  have hne : other ≠ key := fun h => hkey (h ▸ hother)
  rw [OrderedMap.get?_erase, if_neg hne]

namespace World

variable {closing clearing : Bool} {contract : Contract World}

/-- The payload goes to the receive buffer. -/
def append (world : World) (data : Bytes) : World :=
  world.onConn fun conn => { conn with recvBuffer := conn.recvBuffer.append data }

/-- A contract under which the others may do what they do to the receiving side. -/
structure Tolerant (closing clearing : Bool) (contract : Contract World) : Prop where
  inv : ∀ world next, contract.inv world → Aside closing world next → contract.inv next
  rely : ∀ world next, contract.rely world next → Among closing clearing world next
  guar : ∀ world next, contract.guar world next

/-- A task that leaves the receiving side alone meets such a contract. -/
theorem Tolerant.meets (htolerant : Tolerant closing clearing contract) {α : Type} {task : ConnM α}
    (htask : task.MovesAlways (Among closing clearing)) {start world : World}
    (hworld : contract.inv world) :
    task.Meets contract (fun _ _ next => contract.inv next ∧ Among closing clearing world next)
      start world := by
  have hmeets := Async.Moves.meets contract (Among closing clearing world)
    (fun _ _ hinv hamong => htolerant.inv _ _ hinv hamong.toAside)
    (fun _ _ _ _ _ => htolerant.guar _ _) (fun _ => htolerant.guar _ _) (fun _ _ _ => trivial)
    ⟨fun _ _ hnext hrely => hnext.trans (htolerant.rely _ _ hrely),
      fun _ _ hnext hmove => hnext.trans hmove⟩
    (htask world) hworld (htolerant.guar start world) (.refl world)
  exact hmeets.mono fun _ _ _ h => ⟨h.1, h.2.2.1⟩

/-- What is known after an await. -/
theorem Tolerant.awaited (htolerant : Tolerant closing clearing contract) {α : Type}
    {task : ConnM α}
    {post : Except String α → World → World → Prop} {start world : World}
    (htask : task.Meets contract (fun result _ next =>
      contract.inv next ∧ ∀ later, contract.inv later → Among closing clearing next later →
        post result later later) start world) :
    task.awaited.Meets contract post start world :=
  Async.meets_awaited.mpr (htask.mono fun _ _ _ h =>
    ⟨h.1, htolerant.guar _ _, fun later hlater hrely =>
      h.2 later hlater (htolerant.rely _ _ hrely)⟩)

theorem readBuffer_aside {α : Type} {task : Async BlockingBuffer α}
    (htask : task.MovesAlways BlockingBuffer.ReadMove) :
    (onRecvBuffer task).MovesAlways (Among closing clearing) := by
  have hmove : ∀ (world : World) (buffer : BlockingBuffer),
      world.conn.recvBuffer.ReadMove buffer →
        Among closing clearing world (world.onConn fun conn =>
          { conn with recvBuffer := buffer }) :=
    fun _ _ hmove => (aside_readBuffer hmove).among rfl
  exact htask.zoom (fun _ _ => rfl) hmove

theorem writeRecvBuffer_meets (htolerant : Tolerant closing clearing contract) {data : Bytes}
    {start world : World} (hworld : contract.inv (world.append data)) :
    (UtpConn.writeRecvBuffer data).Meets contract (fun _ _ next =>
      contract.inv next ∧ Among closing clearing (world.append data) next) start world := by
  have hreaders : (World.onRecvBuffer (do
      let self ← Async.get
      BlockingBuffer.resolveReaders self.readResolvers.length
      pure data.length)).MovesAlways (Among closing clearing) := by
    refine readBuffer_aside (.read fun self => Async.moves_bind.mpr
      ((BlockingBuffer.resolveReaders_moves _ self).post fun result _ _ => ?_))
    cases result <;> trivial
  have hrest : ∀ later, contract.inv later → Among closing clearing (world.append data) later →
      (Async.discard (Async.awaited (World.onRecvBuffer (do
        let self ← Async.get
        BlockingBuffer.resolveReaders self.readResolvers.length
        pure data.length)))).Meets contract (fun _ _ next =>
          contract.inv next ∧ Among closing clearing (world.append data) next) later later :=
    fun later hlater haside => (htolerant.meets (.discard (.awaited hreaders)) hlater).mono
      fun _ _ _ h => ⟨h.1, haside.trans h.2⟩
  exact ⟨hworld, htolerant.guar _ _, fun later hlater hrely _ =>
    hrest later hlater (htolerant.rely _ _ hrely)⟩

/-! ## The pass -/

/-- A pass that began in `world` has gone through the keys in `done`. -/
structure Passed (closing : Bool) (world : World) (done : List Nat) (next : World) : Prop where
  ackNr : next.conn.localAckNr = Pass.advance world.conn.localAckNr done
  advanced : next.conn.advanced =
    world.conn.advanced + (Pass.taken world.conn.localAckNr done).length
  capacity : next.conn.recvPacketQueue.capacity = world.conn.recvPacketQueue.capacity
  queue :
    (next.conn.recvPacketQueue.items =
        world.conn.recvPacketQueue.items.eraseAll (Pass.taken world.conn.localAckNr done) ∧
      next.conn.recvBuffer.appended = world.conn.recvBuffer.appended ++
        payloadOf world.conn.recvPacketQueue.items (Pass.taken world.conn.localAckNr done)) ∨
    (next.conn.recvPacketQueue.items = ∅ ∧ next.Gone ∧
      ∃ front, front <+: Pass.taken world.conn.localAckNr done ∧
        next.conn.recvBuffer.appended = world.conn.recvBuffer.appended ++
          payloadOf world.conn.recvPacketQueue.items front)
  state : next.conn.localState = world.conn.localState ∨ next.Gone
  connected : closing = false → world.conn.localState = .CS_CONNECTED →
    next.conn.localState = .CS_CONNECTED
  finless : world.conn.remoteFinPacket = none → next.conn.remoteFinPacket = none
  sealed : closing = false → world.conn.localState = .CS_CONNECTED → world.Sealed → next.Sealed

theorem Passed.start (world : World) : Passed closing world [] world :=
  ⟨rfl, rfl, rfl, .inl ⟨rfl, (List.append_nil _).symm⟩, .inl rfl, fun _ => id, id,
    fun _ _ => id⟩

theorem Passed.aside {world next later : World} {done : List Nat}
    (hpassed : Passed closing world done next) (haside : Aside closing next later) :
    Passed closing world done later where
  ackNr := haside.ackNr.trans hpassed.ackNr
  advanced := haside.advanced.trans hpassed.advanced
  capacity := haside.capacity.trans hpassed.capacity
  queue := by
    rw [haside.appended]
    rcases haside.queue with hsame | ⟨hempty, hgone⟩
    · rw [hsame]
      exact hpassed.queue.imp_right fun ⟨h, hgone, hfront⟩ => ⟨h, haside.gone hgone, hfront⟩
    · refine .inr ⟨hempty, hgone, ?_⟩
      rcases hpassed.queue with ⟨-, happended⟩ | ⟨-, -, hfront⟩
      · exact ⟨_, List.prefix_rfl, happended⟩
      · exact hfront
  state := by
    rcases haside.state with hsame | hgone
    · exact hpassed.state.imp hsame.trans haside.gone
    · exact .inr hgone
  connected hopen hstate := haside.connected hopen (hpassed.connected hopen hstate)
  finless := haside.finless ∘ hpassed.finless
  sealed hopen hstate hsealed := haside.sealed (hpassed.sealed hopen hstate hsealed)

theorem taken_skip {ackNr seq : Nat} {done : List Nat}
    (hseq : Seq.add (Pass.advance ackNr done) 1 ≠ seq) :
    Pass.taken ackNr (done ++ [seq]) = Pass.taken ackNr done := by
  rw [Pass.taken_append, Pass.taken, if_neg hseq, Pass.taken, List.append_nil]

theorem Passed.skip {world next : World} {done : List Nat} {seq : Nat}
    (hpassed : Passed closing world done next) (hseq : Seq.add next.conn.localAckNr 1 ≠ seq) :
    Passed closing world (done ++ [seq]) next := by
  rw [hpassed.ackNr] at hseq
  have htaken : Pass.taken world.conn.localAckNr (done ++ [seq]) =
      Pass.taken world.conn.localAckNr done := taken_skip hseq
  have hadvance : Pass.advance world.conn.localAckNr (done ++ [seq]) =
      Pass.advance world.conn.localAckNr done := by
    rw [Pass.advance_append, Pass.advance, if_neg hseq, Pass.advance]
  exact ⟨hadvance ▸ hpassed.ackNr, htaken ▸ hpassed.advanced, hpassed.capacity,
    htaken ▸ hpassed.queue, hpassed.state, hpassed.connected, hpassed.finless,
    hpassed.sealed⟩

theorem taken_snoc {ackNr : Nat} {done : List Nat} {seq : Nat}
    (hseq : Seq.add (Pass.advance ackNr done) 1 = seq) :
    Pass.taken ackNr (done ++ [seq]) = Pass.taken ackNr done ++ [seq] := by
  rw [Pass.taken_append, Pass.taken, if_pos hseq, Pass.taken]

/-- Past a key whose packet a reset has taken away. -/
theorem Passed.miss {world next : World} {done : List Nat} {seq : Nat}
    (hpassed : Passed closing world done next) (hseq : Seq.add next.conn.localAckNr 1 = seq)
    (hempty : next.conn.recvPacketQueue.items = ∅) (hgone : next.Gone)
    (hfront : ∃ front, front <+: Pass.taken world.conn.localAckNr done ∧
      next.conn.recvBuffer.appended = world.conn.recvBuffer.appended ++
        payloadOf world.conn.recvPacketQueue.items front) :
    Passed closing world (done ++ [seq]) (next.advanceTo seq) := by
  have hseq' := hseq
  rw [hpassed.ackNr] at hseq'
  have htaken := taken_snoc hseq'
  obtain ⟨front, hbeginning, happended⟩ := hfront
  refine ⟨?_, ?_, ?_, .inr ⟨?_, hgone, front, ?_, happended⟩, .inr hgone,
    hpassed.connected, hpassed.finless, fun hopen hstate hsealed => ?_⟩
  · rw [Pass.advance_append, Pass.advance, if_pos hseq', Pass.advance]
    exact Nat.mod_eq_of_lt (hseq ▸ Seq.add_lt _ _)
  · rw [htaken, List.length_append, List.length_singleton, ← Nat.add_assoc, ← hpassed.advanced]
    rfl
  · exact (CircularQueue.dequeueByKey_capacity _ _).trans hpassed.capacity
  · exact (CircularQueue.dequeueByKey_items _ _).trans (by rw [hempty]; rfl)
  · rw [htaken]
    exact hbeginning.trans (List.prefix_append _ _)
  · have hnext := hpassed.sealed hopen hstate hsealed
    exact ⟨hnext.drained, hnext.finished, hnext.empty⟩

/-- A pass has delivered all that it took. -/
def WritesAll (world : World) (done : List Nat) (next : World) : Prop :=
  next.conn.recvBuffer.appended = world.conn.recvBuffer.appended ++
    payloadOf world.conn.recvPacketQueue.items (Pass.taken world.conn.localAckNr done)

/-- The next packet leaves the queue, and its payload is delivered. -/
theorem Passed.take_queue {world next : World} {done : List Nat} {seq : Nat} {packet : UtpPacket}
    (hpassed : Passed closing world done next) (hseq : Seq.add next.conn.localAckNr 1 = seq)
    (hitems : next.conn.recvPacketQueue.items =
      world.conn.recvPacketQueue.items.eraseAll (Pass.taken world.conn.localAckNr done))
    (hcomplete : WritesAll world done next)
    (hpacket : world.conn.recvPacketQueue.items.get? seq = some packet) :
    ((next.advanceTo seq).append packet.payload).conn.recvPacketQueue.items =
        world.conn.recvPacketQueue.items.eraseAll
          (Pass.taken world.conn.localAckNr (done ++ [seq])) ∧
      WritesAll world (done ++ [seq]) ((next.advanceTo seq).append packet.payload) := by
  rw [hpassed.ackNr] at hseq
  rw [WritesAll, taken_snoc hseq]
  refine ⟨?_, ?_⟩
  · rw [OrderedMap.eraseAll_append, ← hitems]
    exact CircularQueue.dequeueByKey_items _ _
  · rw [payloadOf_append, ← List.append_assoc, ← hcomplete]
    simp [append, advanceTo, onConn, BlockingBuffer.append, payloadOf, hpacket,
      UtpConn.setLocalAckNr]

/-- Past a key whose packet is delivered. -/
theorem Passed.take {world next : World} {done : List Nat} {seq : Nat} {packet : UtpPacket}
    (hpassed : Passed closing world done next) (hseq : Seq.add next.conn.localAckNr 1 = seq)
    (hitems : next.conn.recvPacketQueue.items =
      world.conn.recvPacketQueue.items.eraseAll (Pass.taken world.conn.localAckNr done))
    (hcomplete : WritesAll world done next)
    (hpacket : world.conn.recvPacketQueue.items.get? seq = some packet) :
    Passed closing world (done ++ [seq]) ((next.advanceTo seq).append packet.payload) := by
  have hseq' := hseq
  rw [hpassed.ackNr] at hseq'
  have htaken := taken_snoc hseq'
  refine ⟨?_, ?_, ?_, .inl (hpassed.take_queue hseq hitems hcomplete hpacket), hpassed.state,
    hpassed.connected, hpassed.finless, ?_⟩
  · rw [Pass.advance_append, Pass.advance, if_pos hseq', Pass.advance]
    exact Nat.mod_eq_of_lt (hseq ▸ Seq.add_lt _ _)
  · rw [htaken, List.length_append, List.length_singleton, ← Nat.add_assoc, ← hpassed.advanced]
    rfl
  · exact (CircularQueue.dequeueByKey_capacity _ _).trans hpassed.capacity
  · intro hopen hstate hsealed
    -- Connected, so the buffer is open and the new bytes do not come too late.
    have hnext := hpassed.sealed hopen hstate hsealed
    have hconnected := hpassed.connected hopen hstate
    have hwriting : next.conn.recvBuffer.closedForWriting ≠ true := fun h =>
      (hnext.drained h).2 hconnected
    exact ⟨fun h => absurd h hwriting, fun h => absurd (hnext.finished h) hwriting,
      fun h => absurd (hnext.finished h) hwriting⟩

/-! ## What a pass has delivered -/

/-- The pass has delivered all that it took, and if the queue was emptied meanwhile, it has
nothing more to take. -/
structure Whole (world : World) (done left : List Nat) (next : World) : Prop where
  complete : WritesAll world done next
  kept : next.conn.recvPacketQueue.items =
      world.conn.recvPacketQueue.items.eraseAll (Pass.taken world.conn.localAckNr done) ∨
    (next.conn.recvPacketQueue.items = ∅ ∧ Seq.add next.conn.localAckNr 1 ∉ left)

theorem Whole.start (world : World) (left : List Nat) : Whole world [] left world :=
  ⟨(List.append_nil _).symm, .inl rfl⟩

theorem Whole.skip {world next : World} {done left : List Nat} {seq : Nat}
    (hwhole : Whole world done (seq :: left) next) (hpassed : Passed closing world done next)
    (hseq : Seq.add next.conn.localAckNr 1 ≠ seq) : Whole world (done ++ [seq]) left next := by
  rw [hpassed.ackNr] at hseq
  refine ⟨?_, ?_⟩
  · rw [WritesAll, taken_skip hseq]
    exact hwhole.complete
  · rw [taken_skip hseq]
    exact hwhole.kept.imp_right fun h => ⟨h.1, fun hmem => h.2 (List.mem_cons_of_mem _ hmem)⟩

/-- A pass that waits after its last packet has nothing to lose: if the others empty the
queue, the next packet is not among the keys that are left. -/
theorem Whole.among {world next later : World} {done left : List Nat}
    (hsorted : (done ++ left).Pairwise (· < ·)) (hdone : done ≠ [])
    (hpresent : ∀ key ∈ left, key ∈ world.conn.recvPacketQueue.items.keys)
    (hitems : next.conn.recvPacketQueue.items =
      world.conn.recvPacketQueue.items.eraseAll (Pass.taken world.conn.localAckNr done))
    (hcomplete : WritesAll world done next) (hamong : Among closing false next later) :
    Whole world done left later := by
  have hless := (List.pairwise_append.mp hsorted).2.2
  refine ⟨hamong.appended.trans hcomplete, ?_⟩
  rcases hamong.queue with hsame | ⟨hempty, -⟩
  · exact .inl (hsame ▸ hitems)
  · rcases hamong.spared rfl with hsame | hrested
    · exact .inl (hsame ▸ hitems)
    · refine .inr ⟨hempty, fun hleft => ?_⟩
      rw [hamong.ackNr] at hleft
      rcases hrested with hlast | hmissing
      · -- behind 65535 comes 0, and no key of an ascending list lies behind another and is 0
        obtain ⟨first, hfirst⟩ := List.exists_mem_of_ne_nil _ hdone
        have hpositive := hless first hfirst _ hleft
        rw [hlast] at hpositive
        exact absurd hpositive (Nat.not_lt_zero _)
      · rw [hitems, OrderedMap.mem_keys_eraseAll] at hmissing
        refine hmissing ⟨hpresent _ hleft, fun htaken => ?_⟩
        have hbefore := (Pass.taken_sublist _ _).subset htaken
        exact absurd (hless _ hbefore _ hleft) (Nat.lt_irrefl _)

theorem append_nil (world : World) : world.append [] = world := by
  simp [append, onConn, BlockingBuffer.append]

theorem deliver_meets (htolerant : Tolerant closing clearing contract) {packet : UtpPacket}
    {start world : World} (hworld : contract.inv (world.append packet.payload)) :
    (UtpConn.deliver packet).Meets contract (fun result _ next => result = .ok () ∧
      contract.inv next ∧ Among closing clearing (world.append packet.payload) next) start
        world := by
  have hnothing : packet.payload = [] → (Async.pure () : ConnM Unit).Meets contract
      (fun result _ next => result = .ok () ∧ contract.inv next ∧
        Among closing clearing (world.append packet.payload) next) start world := fun hempty => by
    rw [hempty, append_nil] at hworld ⊢
    exact ⟨rfl, hworld, .refl world⟩
  unfold UtpConn.deliver
  split
  next hnone => exact hnothing (by simp [UtpPacket.payload, hnone])
  next data hdata =>
    split
    next htype =>
      have hpayload : packet.payload = data := by simp [UtpPacket.payload, htype, hdata]
      rw [hpayload] at hworld ⊢
      refine Async.meets_attempt.mpr
        ((writeRecvBuffer_meets htolerant hworld).mono fun result _ _ h => ?_)
      cases result with
      | ok _ => exact ⟨rfl, h⟩
      | error _ => exact ⟨rfl, h⟩
    next htype => exact hnothing (by simp [UtpPacket.payload, htype])

theorem processKeys_meets (htolerant : Tolerant closing clearing contract) {world : World}
    {keys done rest : List Nat} (hkeys : done ++ rest = keys) (hsorted : keys.Pairwise (· < ·))
    (hpresent : ∀ key ∈ keys, key ∈ world.conn.recvPacketQueue.items.keys)
    (hinv : ∀ done next, done <+: keys → Passed closing world done next →
      (clearing = false → WritesAll world done next) → contract.inv next)
    {start next : World} (hpassed : Passed closing world done next)
    (hwhole : clearing = false → Whole world done rest next) :
    (UtpConn.processKeys rest).Meets contract (fun result _ next =>
      result = .ok () ∧ Passed closing world keys next ∧
        (clearing = false → Whole world keys [] next)) start next := by
  induction rest generalizing done start next with
  | nil =>
      rw [List.append_nil] at hkeys
      exact ⟨rfl, hkeys ▸ hpassed, hkeys ▸ hwhole⟩
  | cons seq rest ih =>
      have hkeys' : (done ++ [seq]) ++ rest = keys := by rw [← hkeys]; simp
      have hbeginning : done ++ [seq] <+: keys := ⟨rest, hkeys'⟩
      simp only [UtpConn.processKeys, Async.bind_eq, Async.meets_bind, Async.meets_get]
      split
      next hseq =>
        exact ih hkeys' (hpassed.skip hseq) fun hspare => (hwhole hspare).skip hpassed hseq
      next hseq =>
        rw [ne_eq, not_not] at hseq
        simp only [Async.meets_bind, Async.meets_modify, CircularQueue.dequeueByKey_fst]
        have hseqKey : seq ∈ keys := hbeginning.subset (by simp)
        obtain ⟨packet, hpacket⟩ := OrderedMap.exists_get? (hpresent seq hseqKey)
        have hless := (List.pairwise_append.mp (hkeys ▸ hsorted)).2.2
        have hnew : seq ∉ Pass.taken world.conn.localAckNr done := fun hmem =>
          absurd (hless seq ((Pass.taken_sublist _ _).subset hmem) seq List.mem_cons_self)
            (Nat.lt_irrefl _)
        rcases hpassed.queue with ⟨hitems, happended⟩ | ⟨hempty, hgone, hfront⟩
        · have hstored : next.conn.recvPacketQueue.items.get? seq = some packet := by
            rw [hitems, OrderedMap.get?_eraseAll, if_neg hnew, hpacket]
          have htake := hpassed.take hseq hitems happended hpacket
          obtain ⟨hleft, hcomplete⟩ := hpassed.take_queue hseq hitems happended hpacket
          rw [hstored]
          refine Async.meets_bind.mpr ((deliver_meets htolerant
            (hinv _ _ hbeginning htake fun _ => hcomplete)).mono ?_)
          rintro _ _ later ⟨rfl, _, hamong⟩
          refine ih hkeys' (htake.aside hamong.toAside) fun hspare => ?_
          subst hspare
          exact .among (hkeys' ▸ hsorted) (by simp) (fun key hkey =>
            hpresent key (hkeys ▸ List.mem_append_right _ (List.mem_cons_of_mem _ hkey)))
            hleft hcomplete hamong
        · rw [hempty, OrderedMap.get?_empty]
          refine ih hkeys' (hpassed.miss hseq hempty hgone hfront) fun hspare => ?_
          -- the pass would have had this packet to take when the queue was emptied
          rcases (hwhole hspare).kept with hitems | ⟨-, hnone⟩
          · have hkept : seq ∈ next.conn.recvPacketQueue.items.keys := by
              rw [hitems, OrderedMap.mem_keys_eraseAll]
              exact ⟨hpresent seq hseqKey, hnew⟩
            rw [hempty] at hkept
            cases hkept
          · exact absurd (hseq ▸ List.mem_cons_self) hnone

/-- A pass that takes nothing does nothing. -/
theorem processKeys_idle {keys : List Nat} {post : Except String Unit → World → World → Prop}
    {start world : World} (hnext : Seq.add world.conn.localAckNr 1 ∉ keys)
    (hpost : post (.ok ()) start world) :
    (UtpConn.processKeys keys).Meets contract post start world := by
  induction keys with
  | nil => exact hpost
  | cons seq rest ih =>
      rw [List.mem_cons, not_or] at hnext
      simp only [UtpConn.processKeys, Async.bind_eq, Async.meets_bind, Async.meets_get]
      rw [if_pos hnext.1]
      exact ih hnext.2

/-- `processReceivedPackets` goes through all keys that it finds at its start. -/
theorem processReceivedPackets_meets (htolerant : Tolerant closing clearing contract)
    {start world : World} (hinv : ∀ done next, done <+: world.conn.recvPacketQueue.keys →
      Passed closing world done next → (clearing = false → WritesAll world done next) →
        contract.inv next) :
    UtpConn.processReceivedPackets.Meets contract (fun result _ next => result = .ok () ∧
      Passed closing world world.conn.recvPacketQueue.keys next ∧
        (clearing = false → WritesAll world world.conn.recvPacketQueue.keys next)) start world := by
  refine (processKeys_meets htolerant (List.nil_append _) world.conn.recvPacketQueue.keys_sorted
    (fun key hkey => CircularQueue.mem_keys.mp hkey) hinv (.start world)
    fun _ => .start world _).mono ?_
  exact fun _ _ _ h => ⟨h.1, h.2.1, fun hspare => (h.2.2 hspare).complete⟩

/-- After a pass the next number is missing in the queue, except where the pass
came to the last number and made room. -/
def Settled (world : World) : Prop :=
  Seq.add world.conn.localAckNr 1 ∈ world.conn.recvPacketQueue.items.keys →
    world.conn.localAckNr = 65535 ∧
      world.conn.recvPacketQueue.size < world.conn.recvPacketQueue.capacity

theorem settled_of_empty {world : World} (hempty : world.conn.recvPacketQueue.items = ∅) :
    world.Settled := fun h => by
  rw [hempty] at h
  cases h

theorem Settled.aside {world next : World} (hsettled : world.Settled)
    (haside : Aside closing world next) : next.Settled := by
  rcases haside.queue with hsame | ⟨hempty, -⟩
  · unfold Settled
    rw [haside.ackNr, hsame]
    exact hsettled
  · exact settled_of_empty hempty

theorem Passed.settled {world next : World} (hackNr : world.conn.localAckNr < 65536)
    (hpassed : Passed closing world world.conn.recvPacketQueue.keys next) : next.Settled := by
  rcases hpassed.queue with ⟨hitems, -⟩ | ⟨hempty, -⟩
  · intro hnext
    rw [hitems, OrderedMap.mem_keys_eraseAll, hpassed.ackNr] at hnext
    have hstops := Pass.advance_stops hackNr world.conn.recvPacketQueue.keys_sorted
      (CircularQueue.mem_keys.mpr hnext.1)
    obtain ⟨hlast, hmoved⟩ := hstops.resolve_left hnext.2
    refine ⟨hpassed.ackNr.trans hlast, ?_⟩
    have hnodup : (Pass.taken world.conn.localAckNr world.conn.recvPacketQueue.keys).Nodup :=
      (world.conn.recvPacketQueue.keys_sorted.imp fun h => Nat.ne_of_lt h).sublist
        (Pass.taken_sublist _ _)
    have hsize := OrderedMap.size_eraseAll hnodup fun key hkey =>
      CircularQueue.mem_keys.mp ((Pass.taken_sublist _ _).subset hkey)
    have hpos : 0 < (Pass.taken world.conn.localAckNr world.conn.recvPacketQueue.keys).length := by
      rcases Nat.eq_zero_or_pos
        (Pass.taken world.conn.localAckNr world.conn.recvPacketQueue.keys).length with h | h
      · rw [Pass.advance_eq hackNr, h, Nat.add_zero, Nat.mod_eq_of_lt hackNr] at hlast
        exact absurd hlast hmoved
      · exact h
    have hbounded := world.conn.recvPacketQueue.bounded
    rw [hpassed.capacity, CircularQueue.size, hitems]
    omega
  · exact settled_of_empty hempty

end World

end Utp
