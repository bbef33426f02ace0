import Utp.Conn.History
import Utp.Conn.Terminal
import Utp.Receiver.Delivery
import Utp.Wire.Selective

/-! # What a selective acknowledgement promises

The peer forgets a packet that is reported as received, so the packet has to stay in the
reorder queue until it is delivered. A full queue makes room for a new number by dropping
the numerically least one, which may be one that is still to come.
-/

namespace Utp

open Async (Config TaskSystem Trace)

/-- The numbers in the reorder queue, as 16 bits. -/
def UtpConn.queued (conn : UtpConn) : List Nat :=
  conn.recvPacketQueue.items.keys.map (· % 65536)

namespace World

variable {world next : World} {packet : UtpPacket} {seqNr : Nat}
  {writes : List (World × World)}

instance instDecidableStarted (world : World) : Decidable world.Started :=
  inferInstanceAs (Decidable (_ ∧ _))

/-! ## Promises -/

/-- The numbers that the acknowledgements of an established connection report in a write. -/
def reportedBy (write : World × World) : List Nat :=
  if write.1.Started then
    ((handedTo write).filter fun datagram => datagram.packet.type = .ST_STATE).flatMap
      fun datagram => UtpSendWindow.sackedSeqNrs datagram.packet
  else []

def owes (owed : List Nat) (write : World × World) : List Nat :=
  if write.2.Terminal then []
  else (owed ++ reportedBy write).filter fun seqNr => seqNr ≠ write.2.conn.localAckNr

/-- The numbers that have been reported and have not been reached since. The end of the
connection settles all of them. -/
def owed (writes : List (World × World)) : List Nat := writes.foldl owes []

theorem owed_append (write : World × World) :
    owed (writes ++ [write]) = owes (owed writes) write := by
  rw [owed, List.foldl_append]
  rfl

/-- What has been reported stays in the queue. -/
def Kept (writes : List (World × World)) : Prop :=
  ∀ before write, before ++ [write] <+: writes →
    ∀ seqNr ∈ owed (before ++ [write]), seqNr ∈ write.2.conn.queued

/-- The number is still to be reached, and is no further ahead than what a bitmask reports. -/
def Awaited (world : World) (seqNr : Nat) : Prop :=
  1 ≤ Seq.diff seqNr world.conn.localAckNr ∧
    Seq.diff seqNr world.conn.localAckNr ≤ 2 ^ 15 + 1

instance instDecidableAwaited (world : World) (seqNr : Nat) : Decidable (world.Awaited seqNr) :=
  inferInstanceAs (Decidable (_ ∧ _))

/-- A number that is new to the queue finds room, or the least one is not awaited. -/
def FindsRoom (write : World × World) : Prop :=
  ∀ key ∈ write.2.conn.recvPacketQueue.items.keys,
    key ∉ write.1.conn.recvPacketQueue.items.keys →
      write.1.conn.recvPacketQueue.size < write.1.conn.recvPacketQueue.capacity ∨
        write.1.conn.recvPacketQueue.oldestKey.all (fun oldest => ¬ write.1.Awaited oldest) = true

/-! ## What a write does to the queue -/

inductive Queues (world : World) : World → Prop
  | same {next : World} (hqueue : next.conn.recvPacketQueue = world.conn.recvPacketQueue)
      (hackNr : next.conn.localAckNr = world.conn.localAckNr) : Queues world next
  | enqueue (packet : UtpPacket) : Queues world (world.enqueue packet)
  | advance (seq : Nat) (hseq : Seq.add world.conn.localAckNr 1 = seq) :
      Queues world (world.advanceTo seq)
  | handshake {next : World} (hstarted : ¬ world.Started) : Queues world next
  | reset {next : World} (hterminal : next.Terminal) : Queues world next

theorem Act.queues {receiving closing writing : Bool}
    (hact : Act receiving closing writing world next) : Queues world next := by
  cases hact with
  | env henv => exact .same (by rw [henv.conn]) (by rw [henv.conn])
  | resetNow => exact .reset (Or.inr rfl)
  | acceptHandshake ackNr hstate => exact .handshake fun hstarted => hstarted.1 hstate
  | acceptFirstData seqNr hstate => exact .handshake fun hstarted => hstarted.2 hstate
  | enqueue packet => exact .enqueue packet
  | advanceTo seq hseq => exact .advance seq hseq
  | _ => exact .same rfl rfl

/-- A reported number in the state of the report: it is in the queue and still to come. -/
structure Pending (world : World) (seqNr : Nat) : Prop where
  started : world.Started
  queued : seqNr ∈ world.conn.queued
  awaited : world.Awaited seqNr

theorem pending_of_sacked (hstarted : world.Started) {sack : UtpSelectiveAckExtension}
    (hsack : UtpSelectiveAckExtension.createFromConn world.conn = some sack)
    (hseqNr : seqNr ∈ sack.getRemoteReceivedSeqNrs) : world.Pending seqNr := by
  have hnonempty : world.conn.recvPacketQueue.keys ≠ [] := by
    intro hempty
    rw [UtpSelectiveAckExtension.createFromConn, hempty] at hsack
    cases hsack
  obtain ⟨built, hbuilt, hbase, hmarks⟩ :=
    UtpSelectiveAckExtension.create_marks world.conn.localAckNr hnonempty
  obtain rfl : built = sack := Option.some.inj (hbuilt.symm.trans hsack)
  rw [UtpSelectiveAckExtension.received_eq, hbase] at hseqNr
  obtain ⟨position, hposition, rfl⟩ := List.mem_map.mp hseqNr
  obtain ⟨key, hkey, hge, rfl⟩ := (hmarks.bits position).mp (List.mem_filter.mp hposition).2
  have hnear : Seq.diff key (Seq.add world.conn.localAckNr 2) < 2 ^ 15 := by
    rcases Seq.ge_iff.mp hge with rfl | hlt
    · rw [Seq.diff_self]
      decide
    · exact hlt
  have hnumber : Seq.add (Seq.add world.conn.localAckNr 2)
      (Seq.diff key (Seq.add world.conn.localAckNr 2) : Nat) = key % 65536 := by
    unfold Seq.diff Seq.add
    omega
  have hdistance : Seq.diff (key % 65536) world.conn.localAckNr =
      Seq.diff key (Seq.add world.conn.localAckNr 2) + 2 := by
    unfold Seq.diff Seq.add at hnear ⊢
    omega
  rw [hnumber]
  refine ⟨hstarted, List.mem_map.mpr ⟨key, CircularQueue.mem_keys.mp hkey, rfl⟩, ?_⟩
  unfold Awaited
  rw [hdistance]
  omega

theorem pending_of_reported {receiving closing writing : Bool}
    (hact : Act receiving closing writing world next) (hseqNr : seqNr ∈ reportedBy (world, next)) :
    world.Pending seqNr := by
  unfold reportedBy at hseqNr
  split at hseqNr
  next hstarted =>
    obtain ⟨datagram, hdatagram, hsacked⟩ := List.mem_flatMap.mp hseqNr
    obtain ⟨hhanded, htype⟩ := List.mem_filter.mp hdatagram
    have hsack := ((hact.transmits hhanded).acknowledges (of_decide_eq_true htype)).sack
    unfold UtpSendWindow.sackedSeqNrs at hsacked
    split at hsacked
    next => cases hsacked
    next sack hsome =>
      rw [hsome] at hsack
      rcases hsack with hnone | hsame
      · cases hnone
      · exact pending_of_sacked hstarted hsame.symm hsacked
  next => cases hseqNr

/-! ## What every write keeps -/

theorem mem_queued {conn : UtpConn} :
    seqNr ∈ conn.queued ↔ ∃ key ∈ conn.recvPacketQueue.items.keys, key % 65536 = seqNr := by
  rw [UtpConn.queued, List.mem_map]

/-- The queue does not drop an awaited number where a new one finds room. -/
theorem Pending.enqueue (hpending : world.Pending seqNr)
    (hroomy : FindsRoom (world, world.enqueue packet)) :
    seqNr ∈ (world.enqueue packet).conn.queued := by
  obtain ⟨key, hkey, hnumber⟩ := mem_queued.mp hpending.queued
  apply mem_queued.mpr
  refine ⟨key, ?_, hnumber⟩
  change key ∈ (world.conn.recvPacketQueue.enqueue packet.seqNr packet).items.keys
  by_cases hroom : packet.seqNr ∈ world.conn.recvPacketQueue.items.keys ∨
      world.conn.recvPacketQueue.size < world.conn.recvPacketQueue.capacity
  · rw [CircularQueue.enqueue_of_room _ _ hroom]
    exact OrderedMap.mem_keys_set.mpr (Or.inl hkey)
  · obtain ⟨hnew, hfull⟩ := not_or.mp hroom
    obtain ⟨oldest, holdest⟩ := CircularQueue.exists_oldestKey (Nat.le_of_not_lt hfull)
    have hitems := CircularQueue.enqueue_of_full packet hnew (Nat.le_of_not_lt hfull) holdest
    have hentered : packet.seqNr ∈ (world.enqueue packet).conn.recvPacketQueue.items.keys := by
      change packet.seqNr ∈ (world.conn.recvPacketQueue.enqueue packet.seqNr packet).items.keys
      rw [hitems]
      exact OrderedMap.mem_keys_set.mpr (Or.inr rfl)
    have hleast := (hroomy packet.seqNr hentered hnew).resolve_left hfull
    rw [hitems]
    apply OrderedMap.mem_keys_set.mpr
    left
    apply OrderedMap.mem_keys_erase.mpr
    refine ⟨hkey, ?_⟩
    -- The key that is dropped is not awaited, and this one is.
    rintro rfl
    have hawaited := hpending.awaited
    have hdropped : ¬ world.Awaited key := by
      rw [show world.conn.recvPacketQueue.oldestKey = some key from holdest] at hleast
      exact of_decide_eq_true hleast
    apply hdropped
    rw [← hnumber] at hawaited
    unfold Awaited Seq.diff at hawaited ⊢
    omega

/-- A position that moves on by one reaches the number or comes closer. -/
theorem Pending.advance (hpending : world.Pending seqNr) {seq : Nat}
    (hseq : Seq.add world.conn.localAckNr 1 = seq)
    (hnot : seqNr ≠ (world.advanceTo seq).conn.localAckNr) :
    seqNr ∈ (world.advanceTo seq).conn.queued ∧ (world.advanceTo seq).Awaited seqNr := by
  have hrange : seq < 65536 := hseq ▸ Seq.add_lt _ _
  have hackNr : (world.advanceTo seq).conn.localAckNr = seq := Nat.mod_eq_of_lt hrange
  obtain ⟨key, hkey, hnumber⟩ := mem_queued.mp hpending.queued
  rw [hackNr] at hnot
  constructor
  · apply mem_queued.mpr
    refine ⟨key, ?_, hnumber⟩
    change key ∈ (world.conn.recvPacketQueue.dequeueByKey seq).2.items.keys
    rw [CircularQueue.dequeueByKey_items]
    apply OrderedMap.mem_keys_erase.mpr
    refine ⟨hkey, ?_⟩
    rintro rfl
    exact hnot (hnumber.symm.trans (Nat.mod_eq_of_lt hrange))
  · have hawaited := hpending.awaited
    unfold Awaited at hawaited ⊢
    rw [hackNr]
    rw [← hnumber] at hawaited hnot ⊢
    unfold Seq.diff at hawaited ⊢
    unfold Seq.add at hseq
    omega

theorem Pending.step (hpending : world.Pending seqNr) (hqueues : Queues world next)
    (hstarted : world.Started → next.Started) (hroomy : FindsRoom (world, next))
    (hterminal : ¬ next.Terminal) (hnot : seqNr ≠ next.conn.localAckNr) : next.Pending seqNr := by
  have hnext := hstarted hpending.started
  cases hqueues with
  | same hqueue hackNr =>
      refine ⟨hnext, ?_, ?_⟩
      · rw [UtpConn.queued, hqueue]
        exact hpending.queued
      · rw [Awaited, hackNr]
        exact hpending.awaited
  | enqueue packet => exact ⟨hnext, hpending.enqueue hroomy, hpending.awaited⟩
  | advance seq hseq =>
      obtain ⟨hqueued, hawaited⟩ := hpending.advance hseq hnot
      exact ⟨hnext, hqueued, hawaited⟩
  | handshake hunstarted => exact absurd hpending.started hunstarted
  | reset hreset => exact absurd hreset hterminal

/-- What is owed is pending. -/
def Owing (writes : List (World × World)) (world : World) : Prop :=
  ∀ seqNr ∈ owed writes, world.Pending seqNr

theorem Owing.step (howing : Owing writes world) (hqueues : Queues world next)
    (hstarted : world.Started → next.Started) (hroomy : FindsRoom (world, next))
    (hreported : ∀ seqNr ∈ reportedBy (world, next), world.Pending seqNr) :
    Owing (writes ++ [(world, next)]) next := by
  intro seqNr hseqNr
  rw [owed_append, owes] at hseqNr
  split at hseqNr
  next => cases hseqNr
  next hterminal =>
    obtain ⟨hmem, hnot⟩ := List.mem_filter.mp hseqNr
    have hpending : world.Pending seqNr := by
      rcases List.mem_append.mp hmem with hold | hnew
      · exact howing seqNr hold
      · exact hreported seqNr hnew
    exact hpending.step hqueues hstarted hroomy hterminal (of_decide_eq_true hnot)

theorem Kept.append {write : World × World} (hkept : Kept writes)
    (hwrite : Owing (writes ++ [write]) write.2) : Kept (writes ++ [write]) := by
  intro before last hbefore
  rcases List.prefix_concat_iff.mp hbefore with hall | hold
  · obtain ⟨hinit, hlast⟩ := List.append_inj' hall rfl
    cases hlast
    rw [hinit]
    intro seqNr hseqNr
    exact (hwrite seqNr hseqNr).queued
  · exact hkept before last hold

/-! ## Every run -/

section Run

variable {self : Nat} {utp : UtpSocket} {isInitiator : Bool} {remoteAddr : UtpAddr}
  {sendId recvId seqNr ackNr : Nat} {trace : Trace World Label}

/-- In every run in which no awaited number is the least of a full queue when a new one comes,
what selective acknowledgements have reported stays in the queue until it is reached. -/
theorem promises_kept (hseqNr : seqNr < 65536)
    (hrun : (connSystem anyLabel anyPacket).Traced
      (connecting self utp isInitiator remoteAddr sendId recvId seqNr ackNr) trace)
    (hroomy : ∀ write ∈ trace.writes, FindsRoom write.2) : Kept (trace.writes.map Prod.snd) := by
  have hwrite : ∀ (before : List (Option Nat × World × World)) (author : Option Nat)
      (start target : World), ((∀ write ∈ before, FindsRoom write.2) →
        Owing (before.map Prod.snd) start ∧ Kept (before.map Prod.snd)) →
      Queues start target → (start.Started → target.Started) →
      (∀ seqNr ∈ reportedBy (start, target), start.Pending seqNr) →
      (∀ write ∈ before ++ [(author, start, target)], FindsRoom write.2) →
      Owing ((before ++ [(author, start, target)]).map Prod.snd) target ∧
        Kept ((before ++ [(author, start, target)]).map Prod.snd) := by
    intro before author start target hbefore hqueues hstarted hreported hwrites
    obtain ⟨howing, hkept⟩ := hbefore fun write hmem => hwrites write (List.mem_append_left _ hmem)
    have hlast : FindsRoom (start, target) :=
      hwrites (author, start, target) (List.mem_append_right _ (List.mem_singleton.mpr rfl))
    have hafter := howing.step hqueues hstarted hlast hreported
    rw [List.map_append]
    exact ⟨hafter, hkept.append hafter⟩
  have hrecorded := @connecting_recorded _ _ _ _ _ _ _ _ _ (fun writes world =>
    (∀ write ∈ writes, FindsRoom write.2) →
      Owing (writes.map Prod.snd) world ∧ Kept (writes.map Prod.snd)) hseqNr hrun ?_ ?_ ?_
  · exact (hrecorded hroomy).2
  · intro _
    constructor
    · intro seqNr howed
      cases howed
    · intro before write hbefore
      have hnil := List.prefix_nil.mp hbefore
      cases before <;> cases hnil
  · intro before author world hbefore
    apply hwrite before author world world.takeSyn hbefore (.same rfl rfl) id
    intro seqNr hreported
    have hhanded : handedTo (world, world.takeSyn) = [] := handedTo_of_same rfl
    have hnothing : reportedBy (world, world.takeSyn) = [] := by
      unfold reportedBy
      rw [hhanded]
      split <;> rfl
    rw [hnothing] at hreported
    cases hreported
  · intro before author start target hbefore hact
    exact hwrite before author start target hbefore hact.queues hact.grows.started
      fun _ => pending_of_reported hact

end Run

/-! ## Concrete runs -/

instance instDecidableFindsRoom (write : World × World) : Decidable (FindsRoom write) :=
  inferInstanceAs (Decidable (∀ key ∈ write.2.conn.recvPacketQueue.items.keys,
    key ∉ write.1.conn.recvPacketQueue.items.keys → _))

/-- Packet 101 comes before packet 100, and is reported. -/
def ahead : Trace World Label :=
  (shook.launch .receive (Async.discard (UtpConn.handleIncomingPacket (markedPacket 101)))).resumes
    (List.replicate 7 0)

theorem ahead_traced : (connSystem anyLabel anyPacket).Traced
    (connecting 0 .sample true (.localhost 9000) 2 1 1 0) ahead := by
  apply TaskSystem.Traced.resumes
  apply traced_receive _ shook_traced
  decide +kernel

theorem ahead_idle : ahead.config.tasks = [] := List.length_eq_zero_iff.mp (by decide +kernel)

theorem ahead_owed : 101 ∈ owed (ahead.writes.map Prod.snd) := by decide +kernel

/-- Both packets are delivered once packet 100 is there. -/
def closedUp : Trace World Label :=
  (ahead.launch .receive (Async.discard (UtpConn.handleIncomingPacket (markedPacket 100)))).resumes
    (List.replicate 12 0)

theorem promises_kept_sample : Kept (closedUp.writes.map Prod.snd) ∧
    closedUp.config.state.conn.localAckNr = 101 := by
  have hrun : (connSystem anyLabel anyPacket).Traced
      (connecting 0 .sample true (.localhost 9000) 2 1 1 0) closedUp := by
    apply TaskSystem.Traced.resumes
    apply traced_receive _ ahead_traced
    decide +kernel
  have hroomy : ∀ write ∈ closedUp.writes, FindsRoom write.2 := by decide +kernel
  exact ⟨promises_kept (by decide) hrun hroomy, by decide +kernel⟩

/-! ## A full queue -/

/-- Packets 101 and up wait, this many of them, and packet 100 is missing. -/
structure Filled (count : Nat) (world : World) : Prop where
  connected : world.conn.localState = .CS_CONNECTED
  finless : world.conn.remoteFinPacket = none
  localAckNr : world.conn.localAckNr = 99
  advanced : world.conn.advanced = 0
  capacity : world.conn.recvPacketQueue.capacity = UtpConn.MAX_RECV_QUEUE_SIZE
  keys : ∀ key, key ∈ world.conn.recvPacketQueue.items.keys ↔ 101 ≤ key ∧ key < 101 + count

theorem Filled.size {count : Nat} (hfilled : Filled count world) :
    world.conn.recvPacketQueue.size = count := by
  have hperm : world.conn.recvPacketQueue.items.keys.Perm (List.range' 101 count) := by
    apply (List.perm_ext_iff_of_nodup (OrderedMap.keys_nodup _) List.nodup_range').mpr
    intro key
    rw [hfilled.keys, List.mem_range'_1]
  have hlength := hperm.length_eq
  rwa [OrderedMap.length_keys, List.length_range'] at hlength

/-- The next packet is put into the queue, and nothing else happens. -/
theorem Filled.handle {count : Nat} (hfilled : Filled count world)
    (hcount : count ≤ UtpConn.MAX_RECV_QUEUE_SIZE) : ∃ next result,
      (Async.discard (UtpConn.handleIncomingPacket (markedPacket (101 + count)))).run world =
        some (next, result) ∧
      next.conn.localState = .CS_CONNECTED ∧ next.conn.remoteFinPacket = none ∧
      next.conn.localAckNr = 99 ∧ next.conn.advanced = 0 ∧
      next.conn.recvPacketQueue.capacity = UtpConn.MAX_RECV_QUEUE_SIZE ∧
      next.conn.recvPacketQueue.items = (world.conn.recvPacketQueue.enqueue (101 + count)
        (markedPacket (101 + count))).items := by
  have hlimit : UtpConn.MAX_RECV_QUEUE_SIZE = 8192 := rfl
  have hnumber : (markedPacket (101 + count)).seqNr = 101 + count :=
    Nat.mod_eq_of_lt (by omega)
  have hnext : Seq.add world.conn.localAckNr 1 = 100 := by
    rw [hfilled.localAckNr]
    rfl
  have hmissing : Seq.add world.conn.localAckNr 1 ∉ world.conn.recvPacketQueue.items.keys := by
    rw [hnext, hfilled.keys]
    omega
  have hrefused : world.conn.isRefused (markedPacket (101 + count)) = false := by
    have hne : 101 + count ≠ 99 := by omega
    simp [UtpConn.isRefused, hnumber, hfilled.localAckNr, hfilled.finless, hne]
  obtain ⟨next, result, hrun, hpassed⟩ := @run_handleIncomingPacket false world
    (markedPacket (101 + count)) hfilled.connected rfl hrefused (Or.inr hmissing)
  have hitems : (world.enqueue (markedPacket (101 + count))).conn.recvPacketQueue.items =
      (world.conn.recvPacketQueue.enqueue (markedPacket (101 + count)).seqNr
        (markedPacket (101 + count))).items := rfl
  rw [hnumber] at hitems
  have hstays : Seq.add (world.enqueue (markedPacket (101 + count))).conn.localAckNr 1 ∉
      (world.enqueue (markedPacket (101 + count))).conn.recvPacketQueue.keys := by
    intro hmem
    have hkey := CircularQueue.mem_keys.mp hmem
    obtain ⟨⟨key, stored⟩, hentry, hsame⟩ := List.mem_map.mp hkey
    rcases CircularQueue.mem_entries_enqueue hentry with ⟨hnew, -⟩ | ⟨-, hold⟩
    · rw [hnumber] at hnew
      have hwanted : key = 100 := hsame.trans hnext
      omega
    · apply hmissing
      rw [← show key = Seq.add world.conn.localAckNr 1 from hsame]
      exact List.mem_map.mpr ⟨_, hold, rfl⟩
  have htaken := Pass.taken_eq_nil hstays
  have hackNr : (world.enqueue (markedPacket (101 + count))).conn.localAckNr = 99 :=
    hfilled.localAckNr
  rw [hackNr] at htaken
  have hconnected := hpassed.connected rfl hfilled.connected
  refine ⟨next, result, hrun, hconnected, hpassed.finless hfilled.finless, ?_, ?_, ?_, ?_⟩
  · rw [hpassed.ackNr, hackNr, Pass.advance_eq (by decide), htaken]
    rfl
  · rw [hpassed.advanced, hackNr, htaken]
    exact hfilled.advanced
  · rw [hpassed.capacity, ← hfilled.capacity]
    exact CircularQueue.enqueue_capacity _ _ _
  · rcases hpassed.queue with ⟨hleft, -⟩ | ⟨-, hgone, -⟩
    · rw [hleft, hackNr, htaken, ← hitems]
      rfl
    · exact absurd hconnected hgone.2

theorem Filled.more {count : Nat} (hfilled : Filled count world)
    (hcount : count < UtpConn.MAX_RECV_QUEUE_SIZE) : ∃ next result,
      (Async.discard (UtpConn.handleIncomingPacket (markedPacket (101 + count)))).run world =
        some (next, result) ∧ Filled (count + 1) next := by
  obtain ⟨next, result, hrun, hconnected, hfinless, hackNr, hadvanced, hcapacity, hitems⟩ :=
    hfilled.handle (Nat.le_of_lt hcount)
  have hroom : world.conn.recvPacketQueue.size < world.conn.recvPacketQueue.capacity := by
    rw [hfilled.size, hfilled.capacity]
    exact hcount
  refine ⟨next, result, hrun, hconnected, hfinless, hackNr, hadvanced, hcapacity, ?_⟩
  intro key
  rw [hitems, CircularQueue.enqueue_of_room _ _ (Or.inr hroom), OrderedMap.mem_keys_set,
    hfilled.keys]
  omega

/-- One packet more, and packet 101 is gone. -/
theorem Filled.overflow (hfilled : Filled UtpConn.MAX_RECV_QUEUE_SIZE world) : ∃ next result,
      (Async.discard (UtpConn.handleIncomingPacket
        (markedPacket (101 + UtpConn.MAX_RECV_QUEUE_SIZE)))).run world = some (next, result) ∧
      next.conn.localState = .CS_CONNECTED ∧ next.conn.advanced = 0 ∧
      101 ∉ next.conn.queued := by
  have hlimit : UtpConn.MAX_RECV_QUEUE_SIZE = 8192 := rfl
  obtain ⟨next, result, hrun, hconnected, -, -, hadvanced, -, hitems⟩ :=
    hfilled.handle (Nat.le_refl _)
  refine ⟨next, result, hrun, hconnected, hadvanced, ?_⟩
  have hnew : 101 + UtpConn.MAX_RECV_QUEUE_SIZE ∉ world.conn.recvPacketQueue.items.keys := by
    rw [hfilled.keys]
    omega
  have hfull : world.conn.recvPacketQueue.capacity ≤ world.conn.recvPacketQueue.size := by
    rw [hfilled.size, hfilled.capacity]
  have holdest : world.conn.recvPacketQueue.oldestKey = some 101 := by
    apply CircularQueue.oldestKey_eq_some.mpr
    constructor
    · rw [hfilled.keys]
      omega
    · intro other hother
      exact ((hfilled.keys other).mp hother).1
  intro hqueued
  obtain ⟨key, hkey, hnumber⟩ := mem_queued.mp hqueued
  rw [hitems, CircularQueue.enqueue_of_full _ hnew hfull holdest, OrderedMap.mem_keys_set,
    OrderedMap.mem_keys_erase, hfilled.keys] at hkey
  omega

theorem ahead_filled : Filled 1 ahead.config.state := by
  have hevaluated : (ahead.config.state.conn.localState = .CS_CONNECTED ∧
      ahead.config.state.conn.localAckNr = 99 ∧ ahead.config.state.conn.advanced = 0) ∧
      ahead.config.state.conn.remoteFinPacket = none ∧
      ahead.config.state.conn.recvPacketQueue.capacity = UtpConn.MAX_RECV_QUEUE_SIZE ∧
      ahead.config.state.conn.recvPacketQueue.items.keys = [101] := by decide +kernel
  obtain ⟨⟨hconnected, hackNr, hadvanced⟩, hfinless, hcapacity, hkeys⟩ := hevaluated
  refine ⟨hconnected, hfinless, hackNr, hadvanced, hcapacity, ?_⟩
  intro key
  rw [hkeys, List.mem_singleton]
  omega

/-- The packets from 102 on come one by one. -/
theorem filled_reachable {count : Nat} (hcount : count < UtpConn.MAX_RECV_QUEUE_SIZE) :
    ∃ world, (connSystem anyLabel anyPacket).Reachable ahead.config.untag ⟨world, []⟩ ∧
      Filled (count + 1) world := by
  induction count with
  | zero =>
      have hidle : ahead.config.untag = ⟨ahead.config.state, []⟩ := by
        rw [Config.untag, ahead_idle]
        rfl
      rw [hidle]
      exact ⟨_, .refl, ahead_filled⟩
  | succ count ih =>
      obtain ⟨world, hrun, hfilled⟩ := ih (Nat.lt_of_succ_lt hcount)
      obtain ⟨next, result, hhandled, hmore⟩ := hfilled.more hcount
      exact ⟨next, hrun.of_run ⟨trivial, .receive _ trivial⟩ hhandled, hmore⟩

theorem Act.connected_before {receiving closing writing : Bool}
    (hact : Act receiving closing writing world next) (hstarted : world.Started)
    (hconnected : next.conn.localState = .CS_CONNECTED) :
    world.conn.localState = .CS_CONNECTED := by
  have hnot : ∀ state : UtpConnState, next.conn.localState = state → state ≠ .CS_CONNECTED →
      False := fun state hstate hother => hother (hstate.symm.trans hconnected)
  cases hact with
  | env henv => rwa [henv.conn] at hconnected
  | beginClose => exact (hnot .CS_CLOSE_WAIT rfl (by decide)).elim
  | resetNow => exact (hnot .CS_RESET rfl (by decide)).elim
  | release => exact (hnot .CS_CLOSED rfl (by decide)).elim
  | forceClose => exact (hnot .CS_CLOSED rfl (by decide)).elim
  | acceptFin => exact (hnot .CS_CLOSE_WAIT rfl (by decide)).elim
  | acceptHandshake ackNr hstate => exact absurd hstate hstarted.1
  | acceptFirstData seqNr hstate => exact absurd hstate hstarted.2
  | _ => exact hconnected

/-- As long as nothing is delivered, packet 101 is owed. -/
structure Overdue (writes : List (World × World)) (world : World) : Prop where
  started : world.Started
  waits : world.conn.localState = .CS_CONNECTED → world.conn.advanced = 0 →
    world.conn.localAckNr = 99 ∧ 101 ∈ owed writes

theorem Overdue.step {receiving closing writing : Bool} (hoverdue : Overdue writes world)
    (hact : Act receiving closing writing world next) :
    Overdue (writes ++ [(world, next)]) next := by
  refine ⟨hact.grows.started hoverdue.started, ?_⟩
  intro hconnected hadvanced
  have hbefore : world.conn.advanced = 0 :=
    Nat.eq_zero_of_le_zero (hadvanced ▸ hact.grows.advanced)
  obtain ⟨hackNr, howed⟩ :=
    hoverdue.waits (hact.connected_before hoverdue.started hconnected) hbefore
  have hterminal : ¬ next.Terminal := by
    unfold Terminal
    rw [hconnected]
    decide
  have hsame : next.conn.localAckNr = 99 := by
    cases hact.queues with
    | same _ hsame => exact hsame.trans hackNr
    | enqueue packet => exact hackNr
    | advance seq hseq => exact absurd hadvanced (Nat.succ_ne_zero _)
    | handshake hunstarted => exact absurd hoverdue.started hunstarted
    | reset hreset => exact absurd hreset hterminal
  refine ⟨hsame, ?_⟩
  rw [owed_append, owes, if_neg hterminal]
  apply List.mem_filter.mpr
  refine ⟨List.mem_append_left _ howed, ?_⟩
  rw [hsame]
  decide

/-- The packet that comes to a full queue makes it drop packet 101, which has been reported. -/
theorem promise_broken : ¬ ∀ trace, (connSystem anyLabel anyPacket).Traced
      (connecting 0 .sample true (.localhost 9000) 2 1 1 0) trace →
    Kept (trace.writes.map Prod.snd) := by
  intro hclaim
  have hlast : 8191 < UtpConn.MAX_RECV_QUEUE_SIZE := by decide
  obtain ⟨world, hfilling, hfilled⟩ := filled_reachable hlast
  obtain ⟨next, result, hhandled, hconnected, hadvanced, hgone⟩ := hfilled.overflow
  have hreach := hfilling.of_run ⟨trivial, .receive _ trivial⟩ hhandled
  obtain ⟨trace, htraced, huntag⟩ := hreach.traced
  have hstate : trace.config.state = next := congrArg Config.state huntag
  have hrun := ahead_traced.trans htraced
  have hoverdue := @continued_recorded 0 .sample true (.localhost 9000) 2 1 1 0 trace
    (fun writes world => Overdue (writes.map Prod.snd) world) ahead (by decide) ahead_traced htraced
    ⟨⟨by decide +kernel, by decide +kernel⟩, fun _ _ => ⟨by decide +kernel, ahead_owed⟩⟩ ?_
  · rw [← hstate] at hconnected hadvanced hgone
    obtain ⟨-, howed⟩ := hoverdue.waits hconnected hadvanced
    have hwrites : trace.writes ≠ [] := by
      intro hnone
      rw [hnone] at howed
      cases howed
    obtain ⟨before, author, start, hall⟩ := last_write (by decide) hrun hwrites
    have hkept := hclaim trace hrun
    rw [hall, List.map_append] at hkept howed
    exact hgone (hkept _ _ List.prefix_rfl 101 howed)
  · intro before author start target hbefore hact
    rw [List.map_append]
    exact hbefore.step hact

end World

end Utp
