import Utp.Sender.Confluence
import Utp.Window.Limits
import Utp.Window.Samples

/-! # Acknowledgements of an honest receiver

Packets are registered one after the other, under consecutive numbers that wrap around. The
receiver acknowledges only what it has received, and its acknowledgements are processed in the
order in which it built them, though some may be lost. The packets are counted from 0; the
number of a packet is its count ahead of the first number.
-/

namespace Utp

open Relation (ReflTransGen)

/-! ## The order of the setters -/

namespace BlockingMap

variable {κ ν : Type} [DecidableEq κ] {self : BlockingMap κ ν}

/-- The keys as they came: those that have entered, and then those that wait. -/
def order (self : BlockingMap κ ν) : List κ :=
  self.entered.map Prod.fst ++ self.waitingSetters.map Prod.fst

/-- Letting setters in takes the first ones and keeps the order. -/
theorem order_admitWaiting (waiting : List (κ × ν × Nat)) (self : BlockingMap κ ν) :
    (admitWaiting waiting self).order =
      self.entered.map Prod.fst ++ waiting.map Prod.fst := by
  induction waiting generalizing self with
  | nil => rfl
  | cons waiter rest ih =>
      obtain ⟨key, value, id⟩ := waiter
      simp only [admitWaiting]
      split
      next =>
        rw [ih]
        simp [put]
      next => rfl

/-- A new capacity lets setters in and keeps the order. -/
theorem order_updateCapacity (self : BlockingMap κ ν) (capacity : ℚ) :
    (self.updateCapacity capacity).order = self.order :=
  order_admitWaiting self.waitingSetters { self with capacity := capacity }

/-- A deletion keeps the order. -/
theorem order_delete (self : BlockingMap κ ν) (key : κ) : (self.delete key).order = self.order := by
  unfold delete
  split
  next => exact order_admitWaiting self.waitingSetters { self with map := self.map.erase key }
  next => rfl

/-- A setter comes last, as nobody waits while there is room. -/
theorem Saturated.turn_set (hself : self.Saturated) (key : κ) (value : ν) :
    ((BlockingMap.set key value).turn self).1.Saturated ∧
      ((BlockingMap.set key value).turn self).1.order = self.order ++ [key] := by
  cases hroom : self.hasRoom with
  | true =>
      have hnobody : self.waitingSetters = [] := by
        by_contra hwaiting
        rw [hself.full hwaiting] at hroom
        cases hroom
      rw [turn_set_room key value hroom]
      refine ⟨saturated_admitWaiting hself.capacity, ?_⟩
      rw [resolveNextSetter, order_admitWaiting]
      simp [order, put, hnobody]
  | false =>
      rw [turn_set_full key value hroom]
      refine ⟨hself.enqueueSetter hroom key value, ?_⟩
      simp [order, BlockingMap.enqueueSetter]

end BlockingMap

/-! ## The exchange -/

/-- An acknowledgement, and what had been received when it was built: every packet below
`upTo`, not that one, and whatever the SACK reports beyond it. -/
structure HonestAck (first : Nat) where
  packet : UtpPacket
  received : List Nat
  upTo : Nat
  complete : ∀ index < upTo, index ∈ received
  missing : upTo ∉ received
  ackNr : packet.ackNr = Seq.add first ((upTo : Int) - 1)
  selective : ∀ seqNr ∈ UtpSendWindow.sackedSeqNrs packet,
    ∃ index ∈ received, upTo < index ∧ seqNr = Seq.add first index

/-- A window and the receiver of its packets, with the acknowledgements under way and, as a
history, those that have been processed. -/
structure Exchange (first : Nat) where
  window : UtpSendWindow
  registered : Nat
  received : List Nat
  acks : List (HonestAck first)
  processed : List (HonestAck first)

namespace Exchange

variable {first : Nat}

def start : Exchange first := ⟨.create, 0, [], [], []⟩

/-- `waitForAck` up to where it waits. -/
def register (self : Exchange first) (packet : UtpPacket) (now : Nat) (remoteAddr : UtpAddr) :
    Exchange first :=
  { self with
    window := { self.window with
      packetMap := ((BlockingMap.set packet.seqNr
        { packet := packet, resendTimes := 0, sentTime := now, remoteAddr := remoteAddr }).turn
          self.window.packetMap).1 }
    registered := self.registered + 1 }

def resendOne (self : Exchange first) (now seqNr : Nat) : Exchange first :=
  { self with window := (self.window.resendOne now seqNr).1 }

def process (self : Exchange first) (now : Nat) (ack : HonestAck first)
    (rest : List (HonestAck first)) : Exchange first :=
  { self with
    window := self.window.handleAck now ack.packet
    acks := rest
    processed := self.processed ++ [ack] }

/-- A step of the sender, of the receiver or of the network. An acknowledgement is processed
where `may` has it. -/
inductive Step (may : Exchange first → HonestAck first → Prop) (self : Exchange first) :
    Exchange first → Prop
  | register (packet : UtpPacket) (now : Nat) (remoteAddr : UtpAddr)
      (hseqNr : packet.seqNr = Seq.add first self.registered) :
      Step may self (self.register packet now remoteAddr)
  | resendOne (now seqNr : Nat) : Step may self (self.resendOne now seqNr)
  | receive (index : Nat) (hindex : index < self.registered) :
      Step may self { self with received := index :: self.received }
  | build (ack : HonestAck first) (hreceived : ack.received = self.received) :
      Step may self { self with acks := self.acks ++ [ack] }
  | lose (ack : HonestAck first) (rest : List (HonestAck first))
      (hacks : self.acks = ack :: rest) : Step may self { self with acks := rest }
  | process (now : Nat) (ack : HonestAck first) (rest : List (HonestAck first))
      (hacks : self.acks = ack :: rest) (hmay : may self ack) :
      Step may self (self.process now ack rest)

/-- How many packets have entered the window. -/
def entered (self : Exchange first) : Nat := self.window.packetMap.entered.length

/-- The window holds the packet, the last one that entered under its number. -/
def Holds (self : Exchange first) (index : Nat) : Prop :=
  index < self.entered ∧ self.entered ≤ index + 65536 ∧
    Seq.add first index ∈ self.window.getAllSeqNrs

/-- The packet waits to enter the window, or the window holds it. -/
def InFlight (self : Exchange first) (index : Nat) : Prop :=
  index < self.registered ∧ (self.entered ≤ index ∨ self.Holds index)

/-- No packet in flight is half a cycle past the acknowledgement, nor is the acknowledgement
past the one before it. -/
structure Near (exchange : Exchange first) (ack : HonestAck first) : Prop where
  inFlight : ∀ index, exchange.InFlight index → index < ack.upTo + 2 ^ 15
  last : ∀ earlier, exchange.processed.getLast? = some earlier →
    ack.upTo < earlier.upTo + 2 ^ 15

/-! ## What every step keeps -/

variable {self next : Exchange first}

/-- The setters are the packets in their order, an acknowledgement reports no less than the one
before it, and the window remembers the last one. -/
structure Ordered (exchange : Exchange first) : Prop where
  saturated : exchange.window.packetMap.Saturated
  order : exchange.window.packetMap.order =
    (List.range exchange.registered).map fun index : Nat => Seq.add first index
  received : ∀ index ∈ exchange.received, index < exchange.registered
  known : ∀ ack ∈ exchange.processed ++ exchange.acks, ∀ index ∈ ack.received,
    index ∈ exchange.received
  acks : (exchange.processed ++ exchange.acks).Pairwise fun earlier later =>
    earlier.upTo ≤ later.upTo
  latest : exchange.window.latestSeqReceivedOfOtherSide =
    exchange.processed.getLast?.map fun ack => ack.packet.ackNr

/-- The exchange starts ordered. -/
theorem ordered_start : (start : Exchange first).Ordered :=
  ⟨⟨fun hwaiting => absurd rfl hwaiting, (by decide : 1 ≤ UtpSendWindow.MIN_WINDOW_SIZE)⟩, rfl,
    by simp [start], by simp [start], by simp [start], rfl⟩

/-- Sending again leaves the last acknowledgement as it is. -/
theorem resendOne_latest (window : UtpSendWindow) (now seqNr : Nat) :
    (window.resendOne now seqNr).1.latestSeqReceivedOfOtherSide =
      window.latestSeqReceivedOfOtherSide := by
  unfold UtpSendWindow.resendOne
  split
  next => rfl
  next =>
    split
    next => split <;> rfl
    next => rfl

/-- Sending again, or giving up, keeps the exchange ordered. -/
theorem Ordered.resendOne (hself : self.Ordered) (now seqNr : Nat) :
    (self.resendOne now seqNr).Ordered := by
  let property (map : BlockingMap Nat UtpPacketWithExtraInfo) : Prop :=
    map.Saturated ∧ map.order = self.window.packetMap.order
  have hmap : property (self.window.resendOne now seqNr).1.packetMap := by
    apply UtpSendWindow.resendOne_preserves property now seqNr
    · rintro map info - - ⟨hsaturated, horder⟩
      exact ⟨hsaturated.delete seqNr, (BlockingMap.order_delete map seqNr).trans horder⟩
    · rintro map capacity hcapacity ⟨-, horder⟩
      exact ⟨BlockingMap.saturated_updateCapacity hcapacity,
        (BlockingMap.order_updateCapacity map capacity).trans horder⟩
    · intro info resendTimes sentTime hinfo
      exact ⟨hself.saturated.update _ (OrderedMap.mem_keys_of_get? hinfo), rfl⟩
    · exact ⟨hself.saturated, rfl⟩
  exact ⟨hmap.1, hmap.2.trans hself.order, hself.received, hself.known, hself.acks,
    (resendOne_latest _ now seqNr).trans hself.latest⟩

/-- `handleAck` deletes entries and lets setters in, in their order. -/
theorem handleAck_order (window : UtpSendWindow) (hwindow : window.packetMap.Saturated) (now : Nat)
    (ackPacket : UtpPacket) : (window.handleAck now ackPacket).packetMap.Saturated ∧
      (window.handleAck now ackPacket).packetMap.order = window.packetMap.order := by
  let property (map : BlockingMap Nat UtpPacketWithExtraInfo) : Prop :=
    map.Saturated ∧ map.order = window.packetMap.order
  apply UtpSendWindow.handleAck_preserves property now ackPacket
  · rintro map seqNr - ⟨hsaturated, horder⟩
    exact ⟨hsaturated.delete seqNr, (BlockingMap.order_delete map seqNr).trans horder⟩
  · rintro map capacity hcapacity ⟨-, horder⟩
    exact ⟨BlockingMap.saturated_updateCapacity hcapacity,
      (BlockingMap.order_updateCapacity map capacity).trans horder⟩
  · exact ⟨hwindow, rfl⟩

/-- No acknowledgement processed before is ahead of the next one. -/
theorem Ordered.upTo_le (hself : self.Ordered) {ack : HonestAck first}
    {rest : List (HonestAck first)} (hacks : self.acks = ack :: rest) :
    ∀ earlier ∈ self.processed, earlier.upTo ≤ ack.upTo := by
  intro earlier hearlier
  have hpairs := hself.acks
  rw [hacks] at hpairs
  exact (List.pairwise_append.mp hpairs).2.2 earlier hearlier ack List.mem_cons_self

/-- The window takes over the number of an acknowledgement that is not half a cycle past the
one before it. -/
theorem Ordered.noteAck (hself : self.Ordered) {ack : HonestAck first}
    {rest : List (HonestAck first)} (hacks : self.acks = ack :: rest) (hnear : self.Near ack) :
    (self.window.noteAck ack.packet).latestSeqReceivedOfOtherSide = some ack.packet.ackNr := by
  have hlatest := hself.latest
  unfold UtpSendWindow.noteAck
  cases hlast : self.processed.getLast? with
  | none =>
      rw [hlast] at hlatest
      rw [hlatest]
      rfl
  | some earlier =>
      rw [hlast] at hlatest
      rw [hlatest]
      have hle := hself.upTo_le hacks earlier (List.mem_of_getLast? hlast)
      have hlt := hnear.last earlier hlast
      simp only [Option.map_some]
      split
      next => rfl
      next hsame =>
        rw [Seq.gt_iff, not_and_or, not_not] at hsame
        have hackNr : earlier.packet.ackNr = ack.packet.ackNr := by
          refine hsame.resolve_right fun hfar => hfar ?_
          rw [ack.ackNr, earlier.ackNr]
          unfold Seq.diff Seq.add
          omega
        rw [hackNr]

/-- Processing an acknowledgement that is near keeps the exchange ordered. -/
theorem Ordered.process (hself : self.Ordered) {ack : HonestAck first}
    {rest : List (HonestAck first)} (hacks : self.acks = ack :: rest) (hnear : self.Near ack)
    (now : Nat) : (self.process now ack rest).Ordered := by
  obtain ⟨hsaturated, horder⟩ := handleAck_order self.window hself.saturated now ack.packet
  have hsplit : self.processed ++ [ack] ++ rest = self.processed ++ self.acks := by
    rw [hacks, List.append_assoc]
    rfl
  refine ⟨hsaturated, horder.trans hself.order, hself.received, ?_, ?_, ?_⟩
  · intro earlier hearlier
    apply hself.known earlier
    rw [← hsplit]
    exact hearlier
  · have hpairs := hself.acks
    rw [← hsplit] at hpairs
    exact hpairs
  · have hnoted := hself.noteAck hacks hnear
    rw [← UtpSendWindow.handleAck_latest self.window now] at hnoted
    simp only [Exchange.process, List.getLast?_append, List.getLast?_singleton, Option.some_or,
      Option.map_some]
    exact hnoted

/-- A packet registered under the next number keeps the exchange ordered. -/
theorem Ordered.register (hself : self.Ordered) {packet : UtpPacket}
    (hseqNr : packet.seqNr = Seq.add first self.registered) (now : Nat) (remoteAddr : UtpAddr) :
    (self.register packet now remoteAddr).Ordered := by
  obtain ⟨hsaturated, horder⟩ := hself.saturated.turn_set packet.seqNr
    { packet := packet, resendTimes := 0, sentTime := now, remoteAddr := remoteAddr :
      UtpPacketWithExtraInfo }
  refine ⟨hsaturated, ?_, fun index hindex => Nat.lt_succ_of_lt (hself.received index hindex),
    hself.known, hself.acks, hself.latest⟩
  rw [Exchange.register, horder, hself.order, hseqNr, List.range_succ, List.map_append]
  rfl

/-- An acknowledgement of what has been received joins those under way. -/
theorem Ordered.build (hself : self.Ordered) {ack : HonestAck first}
    (hreceived : ack.received = self.received) :
    ({ self with acks := self.acks ++ [ack] } : Exchange first).Ordered := by
  have hsplit : self.processed ++ (self.acks ++ [ack]) = self.processed ++ self.acks ++ [ack] :=
    (List.append_assoc _ _ _).symm
  refine ⟨hself.saturated, hself.order, hself.received, ?_, ?_, hself.latest⟩
  · intro earlier hearlier index hindex
    rw [hsplit] at hearlier
    rcases List.mem_append.mp hearlier with hold | hnew
    · exact hself.known earlier hold index hindex
    · rw [List.mem_singleton.mp hnew, hreceived] at hindex
      exact hindex
  · rw [hsplit]
    apply List.pairwise_append.mpr
    refine ⟨hself.acks, List.pairwise_singleton _ _, fun earlier hearlier later hlater => ?_⟩
    rw [List.mem_singleton.mp hlater]
    -- what the earlier one had received has been received by now
    by_contra hless
    apply ack.missing
    rw [hreceived]
    exact hself.known earlier hearlier _ (earlier.complete _ (Nat.not_le.mp hless))

/-- The network may lose an acknowledgement. -/
theorem Ordered.lose (hself : self.Ordered) {ack : HonestAck first}
    {rest : List (HonestAck first)} (hacks : self.acks = ack :: rest) :
    ({ self with acks := rest } : Exchange first).Ordered := by
  have hless : (self.processed ++ rest).Sublist (self.processed ++ self.acks) := by
    rw [hacks]
    exact List.Sublist.append_left (List.sublist_cons_self ack rest) _
  exact ⟨hself.saturated, hself.order, hself.received,
    fun earlier hearlier => hself.known earlier (hless.subset hearlier), hself.acks.sublist hless,
    hself.latest⟩

/-- Every step of the exchange keeps it ordered. -/
theorem Ordered.step (hself : self.Ordered) (hstep : self.Step Near next) : next.Ordered := by
  cases hstep with
  | register packet now remoteAddr hseqNr => exact hself.register hseqNr now remoteAddr
  | resendOne now seqNr => exact hself.resendOne now seqNr
  | receive index hindex =>
      refine ⟨hself.saturated, hself.order, fun other hother => ?_, fun ack hack other hother =>
        List.mem_cons_of_mem _ (hself.known ack hack other hother), hself.acks, hself.latest⟩
      rcases List.mem_cons.mp hother with rfl | hold
      · exact hindex
      · exact hself.received other hold
  | build ack hreceived => exact hself.build hreceived
  | lose ack rest hacks => exact hself.lose hacks
  | process now ack rest hacks hmay => exact hself.process hacks hmay now

/-! ## What an acknowledgement takes from the window -/

/-- Who waits are the packets that have not entered. -/
theorem Ordered.mem_waiting (hself : self.Ordered) {seqNr : Nat} :
    seqNr ∈ self.window.packetMap.waitingSetters.map Prod.fst ↔
      ∃ index, self.entered ≤ index ∧ index < self.registered ∧ seqNr = Seq.add first index := by
  have hlength : (self.window.packetMap.entered.map Prod.fst).length = self.entered :=
    List.length_map _
  have hwaiting : self.window.packetMap.waitingSetters.map Prod.fst =
      ((List.range self.registered).drop self.entered).map
        fun index : Nat => Seq.add first index := by
    rw [List.map_drop, ← hself.order, BlockingMap.order, ← hlength, List.drop_left]
  rw [hwaiting, List.range_eq_range', List.drop_range', List.mem_map]
  constructor
  · rintro ⟨index, hindex, rfl⟩
    rw [List.mem_range'_1] at hindex
    exact ⟨index, by omega, by omega, rfl⟩
  · rintro ⟨index, hentered, hregistered, rfl⟩
    refine ⟨index, ?_, rfl⟩
    rw [List.mem_range'_1]
    omega

/-- A packet in flight has its number in the backlog of the window. -/
theorem Ordered.mem_backlog (hself : self.Ordered) {index : Nat} (hflight : self.InFlight index) :
    Seq.add first index ∈ self.window.packetMap.backlog := by
  apply List.mem_append.mpr
  rcases hflight.2 with hwaits | ⟨-, -, hholds⟩
  · exact .inr (hself.mem_waiting.mpr ⟨index, hwaits, hflight.1, rfl⟩)
  · exact .inl hholds

/-- A near acknowledgement does not cover a packet in flight that had not been received. -/
theorem Ordered.not_covers (hself : self.Ordered) {ack : HonestAck first}
    {rest : List (HonestAck first)} (hacks : self.acks = ack :: rest) (hnear : self.Near ack)
    {index : Nat} (hflight : self.InFlight index) (hunreceived : index ∉ ack.received) :
    ¬ self.window.Covers ack.packet (Seq.add first index) := by
  have hfrom : ack.upTo ≤ index := by
    by_contra hbelow
    exact hunreceived (ack.complete index (Nat.not_le.mp hbelow))
  have hclose := hnear.inFlight index hflight
  rintro (hsacked | hacked)
  · obtain ⟨other, hother, hbeyond, hsame⟩ := ack.selective _ hsacked
    have hdifferent : other ≠ index := fun heq => hunreceived (heq ▸ hother)
    have hmember : ack ∈ self.processed ++ self.acks := by simp [hacks]
    have hregistered := hself.received other (hself.known ack hmember other hother)
    rw [Seq.add_nat, Seq.add_nat] at hsame
    -- a packet of the same number further on is in flight itself, or took the place
    by_cases hentered : self.entered ≤ other
    · have hlater := hnear.inFlight other ⟨hregistered, .inl hentered⟩
      omega
    · rcases hflight.2 with hwaits | ⟨-, hlast, -⟩ <;> omega
  · have hlatest := hself.noteAck hacks hnear
    unfold UtpSendWindow.isPacketAcked at hacked
    rw [hlatest, ack.ackNr] at hacked
    rw [Seq.ge_iff] at hacked
    unfold Seq.diff Seq.add at hacked
    omega

/-- What is not covered stays in flight. -/
theorem Ordered.stays (hself : self.Ordered) {ack : HonestAck first}
    {rest : List (HonestAck first)} (hacks : self.acks = ack :: rest) (hnear : self.Near ack)
    {index : Nat} (hflight : self.InFlight index) (hunreceived : index ∉ ack.received)
    (now : Nat) : (self.process now ack rest).InFlight index := by
  have hafter := hself.process hacks hnear now
  have huncovered := hself.not_covers hacks hnear hflight hunreceived
  have hbacklog : Seq.add first index ∈ (self.process now ack rest).window.packetMap.backlog := by
    apply UtpSendWindow.handleAck_preserves
      (fun map => Seq.add first index ∈ map.backlog) now ack.packet
    · intro map seqNr hcovers hkey
      exact BlockingMap.mem_backlog_delete (fun heq => huncovered (heq ▸ hcovers)) hkey
    · exact fun map capacity _ hkey => BlockingMap.mem_backlog_updateCapacity capacity hkey
    · exact hself.mem_backlog hflight
  have hfrom : ack.upTo ≤ index := by
    by_contra hbelow
    exact hunreceived (ack.complete index (Nat.not_le.mp hbelow))
  -- nothing half a cycle past the packet is registered that has not entered
  have hbound : ∀ later, self.entered ≤ later → later < self.registered →
      later < index + 65536 := by
    intro later hwaits hregistered
    have hlater := hnear.inFlight later ⟨hregistered, .inl hwaits⟩
    omega
  have hmore : self.entered ≤ (self.process now ack rest).entered :=
    (self.window.gains_handleAck now ack.packet).entered.length_le
  have hwithin : (self.process now ack rest).entered ≤ self.registered := by
    have hlength := congrArg List.length hafter.order
    simp only [BlockingMap.order, List.length_append, List.length_map, List.length_range]
      at hlength
    exact Nat.le_of_add_right_le hlength.le
  refine ⟨hflight.1, ?_⟩
  by_cases hwaits : (self.process now ack rest).entered ≤ index
  · exact .inl hwaits
  · refine .inr ⟨Nat.not_le.mp hwaits, ?_, ?_⟩
    · by_contra hfar
      have hnew : self.entered ≤ (self.process now ack rest).entered - 1 := by
        rcases hflight.2 with hwaited | ⟨-, hlast, -⟩ <;> omega
      have hlater := hbound _ hnew (by omega)
      omega
    · rcases List.mem_append.mp hbacklog with hkey | hwaiting
      · exact hkey
      · obtain ⟨later, hentered, hregistered, hsame⟩ := hafter.mem_waiting.mp hwaiting
        rw [Seq.add_nat, Seq.add_nat] at hsame
        have hlater := hbound later (hmore.trans hentered) hregistered
        omega

/-! ## Runs -/

/-- Every state of every run in which acknowledgements are processed where `may` has it. -/
def Runs (may : Exchange first → HonestAck first → Prop) : Exchange first → Prop :=
  ReflTransGen (Step may) start

/-- The run lemma: every exchange reached is ordered. -/
theorem Runs.ordered (hrun : self.Runs Near) : self.Ordered := by
  induction hrun with
  | refl => exact ordered_start
  | tail _ hstep ih => exact ih.step hstep

/-- In every run in which acknowledgements are processed only where they are near, a packet is
taken from the window only if it had been received when one of those processed so far was
built. -/
theorem acked_received (hrun : self.Runs Near) {ack : HonestAck first}
    {rest : List (HonestAck first)} (hacks : self.acks = ack :: rest) (hnear : self.Near ack)
    (now : Nat) {index : Nat} (hflight : self.InFlight index)
    (hgone : ¬ (self.process now ack rest).InFlight index) :
    ∃ earlier ∈ self.processed ++ [ack], index ∈ earlier.received := by
  refine ⟨ack, List.mem_append_right _ (List.mem_singleton.mpr rfl), ?_⟩
  by_contra hunreceived
  exact hgone (hrun.ordered.stays hacks hnear hflight hunreceived now)

/-- The packets of a sender. -/
def packet (first index : Nat) : UtpPacket :=
  { type := .ST_DATA, connId := 1, seqNr := Seq.add first index, data := some [0] }

/-- The first packet has been received. -/
def firstReceived : HonestAck 1 where
  packet := { type := .ST_STATE, connId := 1, windowSize := 1048576, ackNr := 1 }
  received := [0]
  upTo := 1
  complete := by simp
  missing := by simp
  ackNr := by decide
  selective := by simp [UtpSendWindow.sackedSeqNrs, UtpPacket.sackExtension]

/-- The first packet is in flight, and its acknowledgement is under way. -/
def answered : Exchange 1 :=
  { start.register (packet 1 0) 0 (.localhost 9000) with received := [0], acks := [firstReceived] }

/-- The sample run: one packet, and its acknowledgement under way. -/
theorem runs_answered (may : Exchange 1 → HonestAck 1 → Prop) : answered.Runs may := by
  have hregister : Step may start _ := .register (packet 1 0) 0 (.localhost 9000) rfl
  have hreceive : Step may (start.register (packet 1 0) 0 (.localhost 9000)) _ :=
    .receive 0 (by decide)
  have hrun : Runs may { start.register (packet 1 0) 0 (.localhost 9000) with received := [0] } :=
    ((ReflTransGen.refl.tail hregister).tail hreceive)
  exact hrun.tail (.build firstReceived rfl)

theorem acked_received_sample :
    ∃ earlier ∈ answered.processed ++ [firstReceived], 0 ∈ earlier.received := by
  have hnear : answered.Near firstReceived :=
    ⟨fun index hflight => hflight.1.trans (by decide), fun earlier hearlier => by cases hearlier⟩
  have hflight : answered.InFlight 0 := by
    refine ⟨by decide, .inr ⟨by decide +kernel, by decide +kernel, by decide +kernel⟩⟩
  have hentered : (answered.process 1 firstReceived []).entered = 1 := by decide +kernel
  have hempty : (answered.process 1 firstReceived []).window.getAllSeqNrs = [] := by
    decide +kernel
  apply acked_received (runs_answered _) rfl hnear 1 hflight
  rintro ⟨-, hwaits | ⟨-, -, hholds⟩⟩
  · rw [hentered] at hwaits
    exact absurd hwaits (by decide)
  · rw [hempty] at hholds
    cases hholds

/-! ## A window that gives its packets up -/

/-- A packet is registered, sent again three times and given up. -/
def giveUp (self : Exchange first) (index : Nat) : Exchange first :=
  let seqNr := Seq.add first index
  let sent := self.register (packet first index) (5000 * index) (.localhost 9000)
  let again := ((sent.resendOne (5000 * index + 1001) seqNr).resendOne
    (5000 * index + 2002) seqNr).resendOne (5000 * index + 3003) seqNr
  again.resendOne (5000 * index + 4004) seqNr

/-- So many packets given up, and nothing heard of the receiver. -/
def givenUp (first : Nat) : Nat → Exchange first
  | 0 => start
  | count + 1 => (givenUp first count).giveUp count

/-- The entries in flight of a window that has never heard of the receiver. -/
structure Unheard (exchange : Exchange first) (count : Nat)
    (entries : List (Nat × UtpPacketWithExtraInfo)) : Prop where
  entries : exchange.window.packetMap.map.entries = entries
  waiting : exchange.window.packetMap.waitingSetters = []
  capacity : 1 ≤ exchange.window.packetMap.capacity
  entered : exchange.entered = count
  registered : exchange.registered = count
  rto : exchange.window.rttTracker.rto = 1000
  latest : exchange.window.latestSeqReceivedOfOtherSide = none
  received : exchange.received = []
  acks : exchange.acks = []
  processed : exchange.processed = []

theorem unheard_start : (start : Exchange first).Unheard 0 [] :=
  ⟨rfl, rfl, (by decide : 1 ≤ UtpSendWindow.MIN_WINDOW_SIZE), rfl, rfl, rfl, rfl, rfl, rfl, rfl⟩

/-- The next packet enters the empty window at once. -/
theorem Unheard.register {count : Nat} (hself : self.Unheard count []) (packet : UtpPacket)
    (now : Nat) (remoteAddr : UtpAddr) :
    (self.register packet now remoteAddr).Unheard (count + 1) [(packet.seqNr,
      { packet := packet, resendTimes := 0, sentTime := now, remoteAddr := remoteAddr })] := by
  have hempty : self.window.packetMap.map = ∅ := OrderedMap.ext hself.entries
  have hroom : self.window.packetMap.hasRoom = true := by
    unfold BlockingMap.hasRoom
    rw [hempty, decide_eq_true_eq, OrderedMap.size_empty, Nat.cast_zero]
    exact zero_lt_one.trans_le hself.capacity
  have hturn := BlockingMap.turn_set_room packet.seqNr
    { packet := packet, resendTimes := 0, sentTime := now, remoteAddr := remoteAddr :
      UtpPacketWithExtraInfo } hroom
  rw [BlockingMap.resolveNextSetter_unblocked (by exact hself.waiting)] at hturn
  unfold Exchange.register
  rw [hturn]
  constructor
  case entries =>
    simp only [BlockingMap.put, hempty]
    rfl
  case entered =>
    have hentered := hself.entered
    simp only [Exchange.entered, BlockingMap.put, List.length_append] at hentered ⊢
    rw [hentered]
    rfl
  case registered => exact congrArg (· + 1) hself.registered
  case waiting => exact hself.waiting
  case capacity => exact hself.capacity
  case rto => exact hself.rto
  case latest => exact hself.latest
  case received => exact hself.received
  case acks => exact hself.acks
  case processed => exact hself.processed

theorem Unheard.get {count seqNr : Nat} {info : UtpPacketWithExtraInfo}
    (hself : self.Unheard count [(seqNr, info)]) : self.window.packetMap.get seqNr = some info := by
  apply OrderedMap.get?_eq_some.mpr
  rw [hself.entries]
  exact List.mem_singleton.mpr rfl

/-- The entry is overdue once its timeout has passed. -/
theorem Unheard.overdue {count seqNr : Nat} {info : UtpPacketWithExtraInfo}
    (hself : self.Unheard count [(seqNr, info)]) {now : Nat} (hnow : info.sentTime + 1000 < now) :
    self.window.rttTracker.rto < (now : ℚ) - info.sentTime := by
  have hcast : (info.sentTime : ℚ) + 1000 < now := by exact_mod_cast hnow
  rw [hself.rto]
  linarith

/-- A timeout has a packet sent again. -/
theorem Unheard.again {count seqNr : Nat} {info : UtpPacketWithExtraInfo}
    (hself : self.Unheard count [(seqNr, info)]) (now : Nat) (hnow : info.sentTime + 1000 < now)
    (hlimit : ¬ UtpSendWindow.RESEND_TIMES_LIMIT ≤ info.resendTimes) :
    (self.resendOne now seqNr).Unheard count
      [(seqNr, { info with resendTimes := info.resendTimes + 1, sentTime := now })] := by
  have hround : (self.window.resendOne now seqNr).1 = { self.window with
      packetMap := self.window.packetMap.update seqNr
        ({ info with resendTimes := info.resendTimes + 1, sentTime := now } :
          UtpPacketWithExtraInfo) } := by
    unfold UtpSendWindow.resendOne
    rw [hself.get]
    simp only [if_pos (hself.overdue hnow), if_neg hlimit]
  unfold Exchange.resendOne
  rw [hround]
  refine ⟨?_, hself.waiting, hself.capacity, hself.entered, hself.registered, hself.rto,
    hself.latest, hself.received, hself.acks, hself.processed⟩
  have hkey : seqNr ∈ self.window.packetMap.map.keys := OrderedMap.mem_keys_of_get? hself.get
  simp only [BlockingMap.update, OrderedMap.set, dif_pos hkey, OrderedMap.replace, hself.entries]
  simp

/-- The timeout after that has it given up. -/
theorem Unheard.lost {count seqNr : Nat} {info : UtpPacketWithExtraInfo}
    (hself : self.Unheard count [(seqNr, info)]) (now : Nat) (hnow : info.sentTime + 1000 < now)
    (hlimit : UtpSendWindow.RESEND_TIMES_LIMIT ≤ info.resendTimes) :
    (self.resendOne now seqNr).Unheard count [] := by
  have hkey : seqNr ∈ self.window.packetMap.map.keys := OrderedMap.mem_keys_of_get? hself.get
  let lossy : UtpSendWindow := { self.window with
    congestionControl := self.window.congestionControl.onPacketLoss }
  have hmap : (self.window.packetMap.updateCapacity lossy.windowCapacity).delete seqNr =
      { self.window.packetMap with
        capacity := lossy.windowCapacity
        map := self.window.packetMap.map.erase seqNr } := by
    rw [BlockingMap.updateCapacity_unblocked _ hself.waiting, BlockingMap.delete, if_pos hkey]
    exact BlockingMap.resolveNextSetter_unblocked (by exact hself.waiting)
  have hround : (self.window.resendOne now seqNr).1 = { lossy with
      packetMap := { self.window.packetMap with
        capacity := lossy.windowCapacity
        map := self.window.packetMap.map.erase seqNr } } := by
    rw [← hmap]
    unfold UtpSendWindow.resendOne
    rw [hself.get]
    simp only [if_pos (hself.overdue hnow), if_pos hlimit]
    rfl
  unfold Exchange.resendOne
  rw [hround]
  refine ⟨?_, hself.waiting, lossy.windowCapacity_ge, hself.entered, hself.registered, hself.rto,
    hself.latest, hself.received, hself.acks, hself.processed⟩
  simp [OrderedMap.erase, hself.entries]

/-- A packet is given up after three times, and the window is empty again. -/
theorem Unheard.giveUp {count : Nat} (hself : self.Unheard count []) :
    (self.giveUp count).Unheard (count + 1) [] := by
  have hsent := hself.register (packet first count) (5000 * count) (.localhost 9000)
  have hmore : ∀ times < 3, ¬ UtpSendWindow.RESEND_TIMES_LIMIT ≤ times := by decide
  have honce := hsent.again (5000 * count + 1001) (by simp) (hmore 0 (by decide))
  have htwice := honce.again (5000 * count + 2002) (by simp) (hmore 1 (by decide))
  have hthrice := htwice.again (5000 * count + 3003) (by simp) (hmore 2 (by decide))
  exact hthrice.lost (5000 * count + 4004) (by simp) (Nat.le_refl 3)

theorem unheard_givenUp (first count : Nat) : (givenUp first count).Unheard count [] := by
  induction count with
  | zero => exact unheard_start
  | succ count ih => exact ih.giveUp

/-- Any number of packets can be given up in turn. -/
theorem runs_givenUp (may : Exchange first → HonestAck first → Prop) (count : Nat) :
    (givenUp first count).Runs may := by
  induction count with
  | zero => exact .refl
  | succ count ih =>
      have hregister : Step may (givenUp first count) _ :=
        .register (packet first count) (5000 * count) (.localhost 9000)
          (by rw [(unheard_givenUp first count).registered]; rfl)
      exact ((((ih.tail hregister).tail (.resendOne _ _)).tail (.resendOne _ _)).tail
        (.resendOne _ _)).tail (.resendOne _ _)

/-! ## An acknowledgement half a cycle behind -/

/-- The receiver has got no packet yet, and says so. -/
def nothingReceived : HonestAck 1 where
  packet := { type := .ST_STATE, connId := 1, windowSize := 1048576, ackNr := 0 }
  received := []
  upTo := 0
  complete := by simp
  missing := by simp
  ackNr := by decide
  selective := by simp [UtpSendWindow.sackedSeqNrs, UtpPacket.sackExtension]

/-- The next packet is registered, and the first acknowledgement comes. -/
def acknowledge (self : Exchange 1) (index : Nat) : Exchange 1 :=
  { self.register (packet 1 index) (5000 * index) (.localhost 9000) with
    acks := [nothingReceived] }

/-- The first acknowledgement comes when all packets but one are given up. -/
theorem Unheard.runs {may : Exchange 1 → HonestAck 1 → Prop} {self : Exchange 1} {count : Nat}
    (hself : self.Unheard count []) (hrun : self.Runs may) : (self.acknowledge count).Runs may := by
  have hregister : Step may self
      (self.register (packet 1 count) (5000 * count) (.localhost 9000)) :=
    .register _ _ _ (by rw [hself.registered]; rfl)
  have hsent := hself.register (packet 1 count) (5000 * count) (.localhost 9000)
  have hbuild := @Step.build _ may _ nothingReceived hsent.received.symm
  rw [hsent.acks] at hbuild
  exact (hrun.tail hregister).tail hbuild

/-- With half a cycle of packets given up, the next one is taken for acknowledged. -/
theorem Unheard.acknowledged {self : Exchange 1} (hself : self.Unheard 32768 []) (now : Nat) :
    (self.acknowledge 32768).processed = [] ∧ (self.acknowledge 32768).InFlight 32768 ∧
      ¬ ((self.acknowledge 32768).process now nothingReceived []).InFlight 32768 := by
  have hsent := hself.register (packet 1 32768) (5000 * 32768) (.localhost 9000)
  have hentered : (self.acknowledge 32768).entered = 32769 := hsent.entered
  have hregistered : (self.acknowledge 32768).registered = 32769 := hsent.registered
  have hlatest : (self.acknowledge 32768).window.latestSeqReceivedOfOtherSide = none :=
    hsent.latest
  have hget := hsent.get
  have hcovers : (self.acknowledge 32768).window.Covers nothingReceived.packet
      (Seq.add 1 32768) := by
    right
    unfold UtpSendWindow.noteAck UtpSendWindow.isPacketAcked
    simp only [hlatest]
    decide
  refine ⟨hself.processed, ⟨?_, .inr ⟨?_, ?_, OrderedMap.mem_keys_of_get? hget⟩⟩, ?_⟩
  · rw [hregistered]
    decide
  · rw [hentered]
    decide
  · rw [hentered]
    decide
  · have hsubsides := UtpSendWindow.handleAck_subsides hsent.waiting now nothingReceived.packet
    have hlater : ((self.acknowledge 32768).process now nothingReceived []).entered = 32769 :=
      (congrArg List.length hsubsides.entered).trans hentered
    rintro ⟨-, hwaits | ⟨-, -, hholds⟩⟩
    · rw [hlater] at hwaits
      exact absurd hwaits (by decide)
    · obtain ⟨info, hinfo⟩ := OrderedMap.exists_get? hholds
      exact ((UtpSendWindow.handleAck_get hsent.waiting now _).mp hinfo).2 hcovers

/-- A packet is taken for acknowledged, though nothing has been received. -/
theorem acked_unreceived :
    ((givenUp 1 32768).acknowledge 32768).Runs (fun _ _ => True) ∧
      ((givenUp 1 32768).acknowledge 32768).acks = [nothingReceived] ∧
      ((givenUp 1 32768).acknowledge 32768).InFlight 32768 ∧
      ¬ (((givenUp 1 32768).acknowledge 32768).process 163840001 nothingReceived []).InFlight
        32768 ∧
      ∀ earlier ∈ ((givenUp 1 32768).acknowledge 32768).processed ++ [nothingReceived],
        32768 ∉ earlier.received := by
  have hunheard := unheard_givenUp 1 32768
  obtain ⟨hprocessed, hflight, hgone⟩ := hunheard.acknowledged 163840001
  refine ⟨hunheard.runs (runs_givenUp _ 32768), rfl, hflight, hgone, fun earlier hearlier => ?_⟩
  rw [hprocessed] at hearlier
  rw [List.mem_singleton.mp hearlier]
  exact List.not_mem_nil

end Exchange

end Utp
