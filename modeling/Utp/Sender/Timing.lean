import Utp.Sender.BaseDelay
import Utp.Sender.Fragments
import Utp.Window.Samples

/-! # What the clock of the send window measures

A packet gets its time stamp when it is queued for the window, and `resend` stamps with the
time of its own start. Where a packet goes out at the time of its stamp, the time-out of
`resend` and the samples of the tracker run from the latest transmission.
-/

namespace Utp

open Async (Trace)

namespace World

variable {receiving closing writing : Bool} {world next : World} {packet : UtpPacket}
  {writes : List (World × World)}

/-! ## What a write does -/

/-- The packets that a write lets into the window. -/
def letIn (write : World × World) : List UtpPacket :=
  (write.2.window.entered.drop write.1.window.entered.length).map fun entry => entry.2.packet

/-- The entry that a write marks as sent again, if any. -/
def resentBy (write : World × World) : List UtpPacketWithExtraInfo :=
  if write.2.window.entered.length = write.1.window.entered.length then
    (write.2.window.map.entries.map Prod.snd).filter fun again =>
      (write.1.window.get again.packet.seqNr).any fun info =>
        info.packet = again.packet ∧ again.resendTimes = info.resendTimes + 1
  else []

/-- The packets whose round-trip times a write feeds to the tracker. -/
def measuredBy (write : World × World) : List UtpPacketWithExtraInfo :=
  (handledBy write).flatMap fun ackPacket =>
    write.1.conn.sendWindow.sampled write.1.utp.dateNow ackPacket

/-! ## What the clock shows -/

def clocks (packet : UtpPacket) (time : Option Nat) (write : World × World) : Option Nat :=
  if packet ∈ letIn write then none
  else if packet ∈ (handedTo write).map Datagram.packet then some write.1.utp.dateNow
  else time

/-- When a packet was sent last, since it entered the window. -/
def lastSent (writes : List (World × World)) (packet : UtpPacket) : Option Nat :=
  writes.foldl (clocks packet) none

def counts (packet : UtpPacket) (count : Nat) (write : World × World) : Nat :=
  if packet ∈ letIn write then 0
  else if packet ∈ (resentBy write).map UtpPacketWithExtraInfo.packet then count + 1
  else count

/-- How often a packet was sent again, since it entered the window. -/
def resends (writes : List (World × World)) (packet : UtpPacket) : Nat :=
  writes.foldl (counts packet) 0

/-- One more write sets the time, clears it, or leaves it. -/
theorem lastSent_append (write : World × World) (packet : UtpPacket) :
    lastSent (writes ++ [write]) packet = clocks packet (lastSent writes packet) write := by
  rw [lastSent, List.foldl_append]
  rfl

/-- One more write counts, starts again, or leaves the count. -/
theorem resends_append (write : World × World) (packet : UtpPacket) :
    resends (writes ++ [write]) packet = counts packet (resends writes packet) write := by
  rw [resends, List.foldl_append]
  rfl

/-- A packet that is in the window when it goes out was stamped with the time it goes out. What
an acknowledgement covers has gone out by then, and so has what `resend` takes up. -/
structure Punctual (before : List (World × World)) (write : World × World) : Prop where
  stamped : ∀ datagram ∈ handedTo write, ∀ entry ∈ write.1.window.map.entries,
    entry.2.packet = datagram.packet → entry.2.sentTime = write.1.utp.dateNow
  acked : ∀ ackPacket ∈ handledBy write, ∀ entry ∈ write.1.window.map.entries,
    write.1.conn.sendWindow.Covers ackPacket entry.1 →
      (lastSent before entry.2.packet).isSome = true
  waiting : ∀ ackPacket ∈ handledBy write, ∀ waiter ∈ write.1.window.waitingSetters,
    ¬ write.1.conn.sendWindow.Covers ackPacket waiter.1
  overdue : ∀ again ∈ resentBy write, (lastSent before again.packet).isSome = true

/-- What `resend` and the tracker do in a write is measured from the latest transmission, and
there was one. -/
structure Dated (before : List (World × World)) (write : World × World) : Prop where
  late : ∀ again ∈ resentBy write, ∃ time, lastSent before again.packet = some time ∧
    write.1.conn.sendWindow.rttTracker.rto < (again.sentTime : ℚ) - time
  fed : write.2.conn.sendWindow.rttTracker =
    (UtpSendWindow.samplesAt write.1.utp.dateNow (measuredBy write)).foldl UtpRttTracker.feed
      write.1.conn.sendWindow.rttTracker
  measured : ∀ info ∈ measuredBy write, info.resendTimes = 0 ∧
    lastSent (before ++ [write]) info.packet = some info.sentTime

/-! ## The kinds of writes -/

/-- Every packet is kept under its number. -/
abbrev Keyed (map : BlockingMap Nat UtpPacketWithExtraInfo) : Prop :=
  map.Every fun key info => key = info.packet.seqNr

/-- The entry of a packet that is sent again. -/
def again (info : UtpPacketWithExtraInfo) (now : Nat) : UtpPacketWithExtraInfo :=
  { info with resendTimes := info.resendTimes + 1, sentTime := now }

/-- A write lets packets in or takes them out, sends one, marks one as sent again, or handles
an acknowledgement. -/
inductive Clocked (world : World) : World → Prop
  | enter {next : World} (hgains : world.window.Gains next.window)
      (hkeyed : Keyed world.window → Keyed next.window)
      (htracker : next.conn.sendWindow.rttTracker = world.conn.sendWindow.rttTracker)
      (hacks : next.conn.sendWindow.handledAcks = world.conn.sendWindow.handledAcks)
      (hsent : next.utp.sent = world.utp.sent) : Clocked world next
  | transmit (calledIn : Option UtpConnState) (packet : UtpPacket) (remoteAddr : UtpAddr) :
      Clocked world (world.transmit calledIn packet remoteAddr)
  | again (now seqNr : Nat) (info : UtpPacketWithExtraInfo)
      (hinfo : world.window.get seqNr = some info)
      (hlate : world.conn.sendWindow.rttTracker.rto < (now : ℚ) - info.sentTime)
      (hlimit : info.resendTimes < UtpSendWindow.RESEND_TIMES_LIMIT) :
      Clocked world (world.setPacketMap (world.window.update seqNr (World.again info now)))
  | ack (ackPacket : UtpPacket) : Clocked world (world.handleAck ackPacket)

/-- A write that leaves window, tracker and socket alone is such a write. -/
theorem Clocked.same (hwindow : next.window = world.window)
    (htracker : next.conn.sendWindow.rttTracker = world.conn.sendWindow.rttTracker)
    (hacks : next.conn.sendWindow.handledAcks = world.conn.sendWindow.handledAcks)
    (hsent : next.utp.sent = world.utp.sent) : Clocked world next :=
  .enter (hwindow ▸ .refl _) (hwindow ▸ id) htracker hacks hsent

/-- `resendOne` marks one packet as sent again, or takes it out. -/
theorem resendOne_clocked (world : World) (now seqNr : Nat) :
    Clocked world (world.setWindow (world.conn.sendWindow.resendOne now seqNr).1) := by
  unfold UtpSendWindow.resendOne
  split
  next => exact .same rfl rfl rfl rfl
  next info hinfo =>
    split
    next hlate =>
      split
      next =>
        refine .enter ?_ (fun hkeyed => ?_) rfl rfl rfl
        · exact (BlockingMap.gains_updateCapacity _ _).trans (BlockingMap.gains_delete _ _)
        · exact BlockingMap.every_delete _ (BlockingMap.every_updateCapacity _ hkeyed)
      next hlimit => exact .again now seqNr info hinfo hlate (Nat.lt_of_not_le hlimit)
    next => exact .same rfl rfl rfl rfl

/-- Every write of the connection is one of these. -/
theorem Act.clocked (hact : Act receiving closing writing world next) : Clocked world next := by
  cases hact with
  | env henv =>
      apply Clocked.same
      · simp only [window, henv.conn]
      · rw [henv.conn]
      · rw [henv.conn]
      · exact henv.sent
  | transmit calledIn packet remoteAddr => exact .transmit calledIn packet remoteAddr
  | register info =>
      refine .enter ?_ (fun hkeyed => ?_) rfl rfl rfl
      · exact (BlockingMap.gains_put _ _ _).trans (BlockingMap.gains_admitWaiting _ _)
      · exact BlockingMap.every_resolveNextSetter (BlockingMap.every_put hkeyed rfl)
  | waitForRoom info =>
      refine .enter ⟨List.prefix_rfl, fun _ hentry => .inl hentry⟩ (fun hkeyed => ?_) rfl rfl rfl
      exact BlockingMap.every_enqueueSetter hkeyed rfl
  | resendOne now seqNr => exact resendOne_clocked world now seqNr
  | resetNow =>
      refine .enter ?_ (fun hkeyed => ?_) rfl rfl rfl
      · have hclear : world.window.Gains world.window.clear :=
          ⟨List.prefix_rfl, fun _ hentry => absurd hentry List.not_mem_nil⟩
        exact hclear.trans (BlockingMap.gains_updateCapacity _ _)
      · exact BlockingMap.every_updateCapacity _ (BlockingMap.every_clear hkeyed)
  | handleAck ackPacket => exact .ack ackPacket
  | _ => exact .same rfl rfl rfl rfl

/-! ## What they show -/

theorem letIn_of_same (hwindow : next.window = world.window) : letIn (world, next) = [] := by
  simp only [letIn, hwindow, List.drop_length, List.map_nil]

/-- Letting in and taking out marks nothing as sent again. -/
theorem resentBy_of_gains (hgains : world.window.Gains next.window)
    (hkeyed : Keyed next.window) : resentBy (world, next) = [] := by
  unfold resentBy
  split
  next hlength =>
    apply List.filter_eq_nil_iff.mpr
    intro again hagain hmarked
    obtain ⟨entry, hentry, rfl⟩ := List.mem_map.mp hagain
    have hkey : entry.1 = entry.2.packet.seqNr := hkeyed.present entry hentry
    have hold : entry ∈ world.window.map.entries := by
      rcases hgains.present entry hentry with hold | hnew
      · exact hold
      · rw [← hlength, List.drop_length] at hnew
        cases hnew
    have hget : world.window.get entry.2.packet.seqNr = some entry.2 :=
      hkey ▸ OrderedMap.get?_eq_some.mpr hold
    simp only [hget, Option.any_some, decide_eq_true_eq] at hmarked
    omega
  next => rfl

/-- The entry of a packet that has not just entered was there before. -/
theorem present_of_gains (hgains : world.window.Gains next.window) {entry : Nat ×
    UtpPacketWithExtraInfo} (hentry : entry ∈ next.window.map.entries)
    (hold : entry.2.packet ∉ letIn (world, next)) : entry ∈ world.window.map.entries := by
  rcases hgains.present entry hentry with hbefore | hnew
  · exact hbefore
  · exact absurd (List.mem_map.mpr ⟨entry, hnew, rfl⟩) hold

/-- What holds along a run whose packets go out at the time of their stamps. -/
structure Timed (writes : List (World × World)) (world : World) : Prop where
  keyed : Keyed world.window
  rto : UtpRttTracker.MIN_RTO ≤ world.conn.sendWindow.rttTracker.rto
  stamps : ∀ entry ∈ world.window.map.entries, ∀ time,
    lastSent writes entry.2.packet = some time →
      time ≤ entry.2.sentTime ∧ (entry.2.resendTimes = 0 → entry.2.sentTime = time)
  resent : ∀ entry ∈ world.window.map.entries,
    resends writes entry.2.packet ≤ entry.2.resendTimes
  limit : ∀ packet, resends writes packet ≤ UtpSendWindow.RESEND_TIMES_LIMIT

/-- A write that lets in or takes out, and does not send. -/
theorem Timed.gains (hworld : Timed writes world) (hgains : world.window.Gains next.window)
    (hkeyed : Keyed next.window)
    (hrto : UtpRttTracker.MIN_RTO ≤ next.conn.sendWindow.rttTracker.rto)
    (hsent : next.utp.sent = world.utp.sent) : Timed (writes ++ [(world, next)]) next := by
  have hhanded := handedTo_of_same hsent
  have hresentBy := resentBy_of_gains hgains hkeyed
  refine ⟨hkeyed, hrto, ?_, ?_, ?_⟩
  · intro entry hentry time htime
    rw [lastSent_append, clocks, hhanded] at htime
    split at htime
    next => cases htime
    next hold =>
      rw [if_neg (by simp)] at htime
      exact hworld.stamps entry (present_of_gains hgains hentry hold) time htime
  · intro entry hentry
    rw [resends_append, counts, hresentBy]
    split
    next => exact Nat.zero_le _
    next hold =>
      rw [if_neg (by simp)]
      exact hworld.resent entry (present_of_gains hgains hentry hold)
  · intro packet
    rw [resends_append, counts, hresentBy]
    split
    next => exact Nat.zero_le _
    next =>
      rw [if_neg (by simp)]
      exact hworld.limit packet

/-- A packet that goes out at the time of its stamp keeps the times. -/
theorem Timed.transmit (hworld : Timed writes world) {calledIn : Option UtpConnState}
    {remoteAddr : UtpAddr}
    (hpunctual : Punctual writes (world, world.transmit calledIn packet remoteAddr)) :
    Timed (writes ++ [(world, world.transmit calledIn packet remoteAddr)])
      (world.transmit calledIn packet remoteAddr) := by
  have hin : letIn (world, world.transmit calledIn packet remoteAddr) = [] := letIn_of_same rfl
  have hresentBy : resentBy (world, world.transmit calledIn packet remoteAddr) = [] :=
    resentBy_of_gains (.refl _) hworld.keyed
  refine ⟨hworld.keyed, hworld.rto, ?_, ?_, ?_⟩
  · intro entry hentry time htime
    rw [lastSent_append, clocks, hin, if_neg (by simp)] at htime
    split at htime
    next hsent =>
      obtain ⟨datagram, hdatagram, hpacket⟩ := List.mem_map.mp hsent
      have hstamp := hpunctual.stamped datagram hdatagram entry hentry hpacket.symm
      have hnow : world.utp.dateNow = time := Option.some.inj htime
      rw [hnow] at hstamp
      exact ⟨Nat.le_of_eq hstamp.symm, fun _ => hstamp⟩
    next => exact hworld.stamps entry hentry time htime
  · intro entry hentry
    rw [resends_append, counts, hin, hresentBy, if_neg (by simp), if_neg (by simp)]
    exact hworld.resent entry hentry
  · intro other
    rw [resends_append, counts, hin, hresentBy, if_neg (by simp), if_neg (by simp)]
    exact hworld.limit other

section Again

variable {now seqNr : Nat} {info : UtpPacketWithExtraInfo}

theorem letIn_again : letIn (world, world.setPacketMap (world.window.update seqNr
    (again info now))) = [] := congrArg (List.map _) List.drop_length

/-- Only the packet in question is marked. -/
theorem mem_resentBy_again (hkeyed : Keyed world.window) {other : UtpPacketWithExtraInfo}
    (hother : other ∈ resentBy (world, world.setPacketMap (world.window.update seqNr
      (again info now)))) : other = again info now := by
  have hentered : (world.setPacketMap (world.window.update seqNr
      (again info now))).window.entered.length = world.window.entered.length := rfl
  unfold resentBy at hother
  rw [if_pos hentered] at hother
  obtain ⟨hmem, hmarked⟩ := List.mem_filter.mp hother
  obtain ⟨⟨key, stored⟩, hentry, rfl⟩ := List.mem_map.mp hmem
  rcases OrderedMap.mem_entries_set.mp hentry with ⟨-, rfl⟩ | ⟨-, hold⟩
  · rfl
  · have hkey : key = stored.packet.seqNr := hkeyed.present _ hold
    have hget : world.window.get stored.packet.seqNr = some stored :=
      hkey ▸ OrderedMap.get?_eq_some.mpr hold
    simp only [hget, Option.any_some, decide_eq_true_eq] at hmarked
    omega

/-- A packet that is sent again keeps the times and counts one more. -/
theorem Timed.again (hworld : Timed writes world) (hinfo : world.window.get seqNr = some info)
    (hlate : world.conn.sendWindow.rttTracker.rto < (now : ℚ) - info.sentTime)
    (hlimit : info.resendTimes < UtpSendWindow.RESEND_TIMES_LIMIT) :
    Timed (writes ++ [(world, world.setPacketMap (world.window.update seqNr (again info now)))])
      (world.setPacketMap (world.window.update seqNr (again info now))) := by
  have hpresent := OrderedMap.get?_eq_some.mp hinfo
  have hkey : seqNr = info.packet.seqNr := hworld.keyed.present _ hpresent
  have hhanded : handedTo (world, world.setPacketMap (world.window.update seqNr
      (World.again info now))) = [] := handedTo_of_same rfl
  have hcount : ∀ other, resends (writes ++ [(world, world.setPacketMap (world.window.update seqNr
      (World.again info now)))]) other ≤ resends writes other + 1 ∧ (other ≠ info.packet →
        resends (writes ++ [(world, world.setPacketMap (world.window.update seqNr
          (World.again info now)))]) other = resends writes other) := by
    intro other
    rw [resends_append, counts, letIn_again, if_neg (by simp)]
    split
    next hmarked =>
      refine ⟨Nat.le_refl _, fun hother => absurd ?_ hother⟩
      obtain ⟨stored, hstored, rfl⟩ := List.mem_map.mp hmarked
      rw [mem_resentBy_again hworld.keyed hstored]
      rfl
    next => exact ⟨Nat.le_succ _, fun _ => rfl⟩
  have hothers : ∀ entry ∈ world.window.map.entries, entry.1 ≠ seqNr →
      entry.2.packet ≠ info.packet := by
    intro entry hentry hne hsame
    have hother : entry.1 = entry.2.packet.seqNr := hworld.keyed.present entry hentry
    rw [hsame, ← hkey] at hother
    exact hne hother
  have hrto : (0 : ℚ) < world.conn.sendWindow.rttTracker.rto :=
    lt_of_lt_of_le (by decide) hworld.rto
  refine ⟨BlockingMap.every_update hworld.keyed hkey, hworld.rto, ?_, ?_, ?_⟩
  · rintro ⟨key, stored⟩ hentry time htime
    rw [lastSent_append, clocks, letIn_again, hhanded, if_neg (by simp), if_neg (by simp)] at htime
    rcases OrderedMap.mem_entries_set.mp hentry with ⟨rfl, rfl⟩ | ⟨-, hold⟩
    · have hstamp := (hworld.stamps _ hpresent time htime).1
      have hbefore : (time : ℚ) ≤ info.sentTime := Nat.cast_le.mpr hstamp
      have hnow : (time : ℚ) ≤ now := by linarith
      exact ⟨Nat.cast_le.mp hnow, fun hfirst => absurd hfirst (Nat.succ_ne_zero _)⟩
    · exact hworld.stamps _ hold time htime
  · rintro ⟨key, stored⟩ hentry
    rcases OrderedMap.mem_entries_set.mp hentry with ⟨rfl, rfl⟩ | ⟨hne, hold⟩
    · exact (hcount info.packet).1.trans (Nat.succ_le_succ (hworld.resent _ hpresent))
    · have hsame := (hcount stored.packet).2 (hothers _ hold hne)
      exact hsame.trans_le (hworld.resent _ hold)
  · intro other
    by_cases hother : other = info.packet
    · have hresent := hworld.resent _ hpresent
      rw [hother]
      exact (hcount info.packet).1.trans ((Nat.succ_le_succ hresent).trans hlimit)
    · rw [(hcount other).2 hother]
      exact hworld.limit other

end Again

/-- A write that handles no acknowledgement has none on its list. -/
theorem handledBy_of_same (hacks : next.conn.sendWindow.handledAcks =
    world.conn.sendWindow.handledAcks) : handledBy (world, next) = [] := by
  simp only [handledBy, hacks, List.drop_length]

/-- A write that marks and measures nothing. -/
theorem dated_of_idle (hresentBy : resentBy (world, next) = [])
    (htracker : next.conn.sendWindow.rttTracker = world.conn.sendWindow.rttTracker)
    (hacks : next.conn.sendWindow.handledAcks = world.conn.sendWindow.handledAcks) :
    Dated writes (world, next) := by
  have hmeasured : measuredBy (world, next) = [] := by
    rw [measuredBy, handledBy_of_same hacks]
    rfl
  refine ⟨?_, ?_, ?_⟩
  · rw [hresentBy]
    intro again hagain
    cases hagain
  · rw [hmeasured]
    exact htracker
  · rw [hmeasured]
    intro info hinfo
    cases hinfo

/-- A packet is marked as sent again no earlier than its time-out after it was sent last. -/
theorem Timed.late_again {now seqNr : Nat} {info : UtpPacketWithExtraInfo}
    (hworld : Timed writes world) (hinfo : world.window.get seqNr = some info)
    (hlate : world.conn.sendWindow.rttTracker.rto < (now : ℚ) - info.sentTime)
    (hpunctual : Punctual writes (world, world.setPacketMap (world.window.update seqNr
      (World.again info now)))) :
    Dated writes (world, world.setPacketMap (world.window.update seqNr
      (World.again info now))) := by
  have hhandled : handledBy (world, world.setPacketMap (world.window.update seqNr
      (World.again info now))) = [] := handledBy_of_same rfl
  have hmeasured : measuredBy (world, world.setPacketMap (world.window.update seqNr
      (World.again info now))) = [] := by
    rw [measuredBy, hhandled]
    rfl
  constructor
  case late =>
    intro marked hmarked
    obtain ⟨time, htime⟩ := Option.isSome_iff_exists.mp (hpunctual.overdue marked hmarked)
    refine ⟨time, htime, ?_⟩
    have hpresent := OrderedMap.get?_eq_some.mp hinfo
    rw [mem_resentBy_again hworld.keyed hmarked] at htime ⊢
    have hstamp := (hworld.stamps _ hpresent time htime).1
    have hbefore : (time : ℚ) ≤ info.sentTime := Nat.cast_le.mpr hstamp
    have hnow : (now : ℚ) - info.sentTime ≤ (now : ℚ) - time := sub_le_sub_left hbefore _
    exact lt_of_lt_of_le hlate hnow
  case fed =>
    rw [hmeasured]
    rfl
  case measured =>
    rw [hmeasured]
    intro sampled hsampled
    cases hsampled

/-- An acknowledgement keeps every packet under its number. -/
theorem keyed_handleAck (hkeyed : Keyed world.window) (ackPacket : UtpPacket) :
    Keyed (world.handleAck ackPacket).window :=
  UtpSendWindow.handleAck_preserves Keyed _ ackPacket
    (fun _ seqNr _ => BlockingMap.every_delete seqNr)
    (fun _ capacity _ => BlockingMap.every_updateCapacity capacity) hkeyed

/-- What an acknowledgement lets into the window it does not cover. -/
theorem Punctual.letIn {ackPacket : UtpPacket}
    (hpunctual : Punctual writes (world, world.handleAck ackPacket))
    {entry : Nat × UtpPacketWithExtraInfo}
    (hentry : entry ∈ (world.handleAck ackPacket).window.entered.drop
      world.window.entered.length) : ¬ world.conn.sendWindow.Covers ackPacket entry.1 := by
  have hadmits : world.window.Admits (world.handleAck ackPacket).window :=
    UtpSendWindow.handleAck_preserves world.window.Admits world.utp.dateNow ackPacket
      (fun _ seqNr _ hmap => hmap.delete seqNr)
      (fun _ capacity _ hmap => hmap.updateCapacity capacity) (.refl _)
  obtain ⟨waiter, hwaiter, hkey⟩ := hadmits.admitted entry hentry
  rw [← hkey]
  apply hpunctual.waiting ackPacket _ waiter hwaiter
  rw [handledBy_handleAck]
  exact List.mem_singleton.mpr rfl

/-- What an acknowledgement measures was in flight since its stamp. -/
theorem Timed.ack (hworld : Timed writes world) {ackPacket : UtpPacket}
    (hpunctual : Punctual writes (world, world.handleAck ackPacket)) :
    Timed (writes ++ [(world, world.handleAck ackPacket)]) (world.handleAck ackPacket) ∧
      Dated writes (world, world.handleAck ackPacket) := by
  have hgains : world.window.Gains (world.handleAck ackPacket).window :=
    UtpSendWindow.gains_handleAck _ _ _
  have hkeyed := keyed_handleAck hworld.keyed ackPacket
  have hhandled : handledBy (world, world.handleAck ackPacket) = [ackPacket] :=
    handledBy_handleAck world ackPacket
  have hmeasured : measuredBy (world, world.handleAck ackPacket) =
      world.conn.sendWindow.sampled world.utp.dateNow ackPacket := by
    rw [measuredBy, hhandled, List.flatMap_singleton]
  have htracker : (world.handleAck ackPacket).conn.sendWindow.rttTracker = _ :=
    UtpSendWindow.tracker_handleAck world.conn.sendWindow world.utp.dateNow ackPacket
  have hafter : Timed (writes ++ [(world, world.handleAck ackPacket)])
      (world.handleAck ackPacket) := by
    apply hworld.gains hgains hkeyed _ rfl
    rw [htracker]
    exact UtpSendWindow.min_rto_le_feeds hworld.rto _
  refine ⟨hafter, ?_, ?_, ?_⟩
  · rw [resentBy_of_gains hgains hkeyed]
    intro again hagain
    cases hagain
  · rw [hmeasured]
    exact htracker
  · have hhanded : handedTo (world, world.handleAck ackPacket) = [] := handedTo_of_same rfl
    rw [hmeasured]
    intro info hinfo
    obtain ⟨hfirst, seqNr, hcovers, hpresent | hentered⟩ := UtpSendWindow.among_of_sampled hinfo
    · refine ⟨hfirst, ?_⟩
      have hkey : seqNr = info.packet.seqNr := hworld.keyed.present _ hpresent
      have hold : info.packet ∉ letIn (world, world.handleAck ackPacket) := by
        intro hnew
        obtain ⟨entry, hentry, hpacket⟩ := List.mem_map.mp hnew
        have hother : entry.1 = entry.2.packet.seqNr :=
          hkeyed.entered entry (List.mem_of_mem_drop hentry)
        apply hpunctual.letIn hentry
        rwa [hother, hpacket, ← hkey]
      have hsent := hpunctual.acked ackPacket (hhandled ▸ List.mem_singleton.mpr rfl)
        (seqNr, info) hpresent hcovers
      obtain ⟨time, htime⟩ := Option.isSome_iff_exists.mp hsent
      rw [lastSent_append, clocks, hhanded, if_neg hold, if_neg (by simp), htime]
      exact congrArg some ((hworld.stamps _ hpresent time htime).2 hfirst).symm
    · exact absurd hcovers (hpunctual.letIn hentered)

/-- The step lemma: a punctual write keeps the times, and what it measures is timed. -/
theorem Timed.step (hworld : Timed writes world) (hclocked : Clocked world next)
    (hpunctual : Punctual writes (world, next)) :
    Timed (writes ++ [(world, next)]) next ∧ Dated writes (world, next) := by
  cases hclocked with
  | enter hgains hkeyed htracker hacks hsent =>
      have hafter := hkeyed hworld.keyed
      have hrto := hworld.rto
      rw [← htracker] at hrto
      exact ⟨hworld.gains hgains hafter hrto hsent,
        dated_of_idle (resentBy_of_gains hgains hafter) htracker hacks⟩
  | transmit calledIn packet remoteAddr =>
      exact ⟨hworld.transmit hpunctual,
        dated_of_idle (resentBy_of_gains (.refl _) hworld.keyed) rfl rfl⟩
  | again now seqNr info hinfo hlate hlimit =>
      exact ⟨hworld.again hinfo hlate hlimit, hworld.late_again hinfo hlate hpunctual⟩
  | ack ackPacket => exact hworld.ack hpunctual

/-! ## Along a run -/

/-- No packet is sent again too often, and every write is timed by the latest transmission. -/
structure Paced (writes : List (World × World)) : Prop where
  limit : ∀ before, before <+: writes → ∀ packet,
    resends before packet ≤ UtpSendWindow.RESEND_TIMES_LIMIT
  dated : ∀ before write, before ++ [write] <+: writes → Dated before write

theorem Paced.nil : Paced [] := by
  constructor
  case limit =>
    intro before hbefore packet
    rw [List.prefix_nil.mp hbefore]
    exact Nat.zero_le _
  case dated =>
    intro before write hbefore
    have hnil := List.prefix_nil.mp hbefore
    cases before <;> cases hnil

/-- Timing is a property of the single writes. -/
theorem Paced.append {write : World × World} (hwrites : Paced writes)
    (hlimit : ∀ packet, resends (writes ++ [write]) packet ≤ UtpSendWindow.RESEND_TIMES_LIMIT)
    (hdated : Dated writes write) : Paced (writes ++ [write]) := by
  constructor
  case limit =>
    intro before hbefore packet
    rcases List.prefix_concat_iff.mp hbefore with hall | hold
    · rw [hall]
      exact hlimit packet
    · exact hwrites.limit before hold packet
  case dated =>
    intro before last hbefore
    rcases List.prefix_concat_iff.mp hbefore with hall | hold
    · obtain ⟨hinit, hlast⟩ := List.append_inj' hall rfl
      cases hlast
      rw [hinit]
      exact hdated
    · exact hwrites.dated before last hold

/-- Nothing is in the window of a new connection. -/
theorem create_timed (self : Nat) (utp : UtpSocket) (isInitiator : Bool) (remoteAddr : UtpAddr)
    (sendId recvId seqNr ackNr : Nat) :
    Timed [] (create self utp isInitiator remoteAddr sendId recvId seqNr ackNr) where
  keyed := BlockingMap.every_create _ _
  rto := (show UtpRttTracker.MIN_RTO ≤ UtpRttTracker.create.rto by decide)
  stamps := by
    intro entry hentry
    cases hentry
  resent := by
    intro entry hentry
    cases hentry
  limit _ := Nat.zero_le _

section Run

variable {self : Nat} {utp : UtpSocket} {isInitiator : Bool} {remoteAddr : UtpAddr}
  {sendId recvId seqNr ackNr : Nat} {trace : Trace World Label}

/-- Where the packets of the window go out at the time of their stamps, and before they are
acknowledged or found overdue, time-outs and samples are measured from the transmissions. -/
theorem paced_of_punctual (hseqNr : seqNr < 65536)
    (hrun : (connSystem anyLabel anyPacket).Traced
      (connecting self utp isInitiator remoteAddr sendId recvId seqNr ackNr) trace)
    (hpunctual : ∀ before write, before ++ [write] <+: trace.writes.map Prod.snd →
      Punctual before write) : Paced (trace.writes.map Prod.snd) := by
  -- One write more keeps both, whatever made it.
  have hwrite : ∀ (before : List (Option Nat × World × World)) (author : Option Nat)
      (start target : World), ((∀ earlier write, earlier ++ [write] <+: before.map Prod.snd →
        Punctual earlier write) → Timed (before.map Prod.snd) start ∧ Paced (before.map Prod.snd)) →
      Clocked start target → (∀ earlier write,
        earlier ++ [write] <+: (before ++ [(author, start, target)]).map Prod.snd →
          Punctual earlier write) →
      Timed ((before ++ [(author, start, target)]).map Prod.snd) target ∧
        Paced ((before ++ [(author, start, target)]).map Prod.snd) := by
    intro before author start target hbefore hclocked hwrites
    rw [List.map_append] at hwrites ⊢
    obtain ⟨htimed, hpaced⟩ := hbefore fun earlier write hinitial =>
      hwrites earlier write (hinitial.trans (List.prefix_append _ _))
    obtain ⟨hafter, hdated⟩ := htimed.step hclocked (hwrites _ _ List.prefix_rfl)
    exact ⟨hafter, hpaced.append hafter.limit hdated⟩
  have hkept := @connecting_recorded _ _ _ _ _ _ _ _ _ (fun writes world =>
    (∀ earlier write, earlier ++ [write] <+: writes.map Prod.snd → Punctual earlier write) →
      Timed (writes.map Prod.snd) world ∧ Paced (writes.map Prod.snd)) hseqNr hrun
    (fun _ => ⟨create_timed _ _ _ _ _ _ _ _, .nil⟩)
    (fun before author world hbefore =>
      hwrite before author world _ hbefore (.same rfl rfl rfl rfl))
    (fun before author start target hbefore hact =>
      hwrite before author start target hbefore hact.clocked)
  exact (hkept hpunctual).2

end Run

/-! ## Concrete runs -/

instance instDecidablePunctual (before : List (World × World)) (write : World × World) :
    Decidable (Punctual before write) :=
  haveI (ackPacket : UtpPacket) (seqNr : Nat) :
      Decidable (write.1.conn.sendWindow.Covers ackPacket seqNr) := instDecidableOr
  decidable_of_iff
    ((∀ datagram ∈ handedTo write, ∀ entry ∈ write.1.window.map.entries,
      entry.2.packet = datagram.packet → entry.2.sentTime = write.1.utp.dateNow) ∧
      (∀ ackPacket ∈ handledBy write, ∀ entry ∈ write.1.window.map.entries,
        write.1.conn.sendWindow.Covers ackPacket entry.1 →
          (lastSent before entry.2.packet).isSome = true) ∧
      (∀ ackPacket ∈ handledBy write, ∀ waiter ∈ write.1.window.waitingSetters,
        ¬ write.1.conn.sendWindow.Covers ackPacket waiter.1) ∧
      ∀ again ∈ resentBy write, (lastSent before again.packet).isSome = true)
    ⟨fun h => ⟨h.1, h.2.1, h.2.2.1, h.2.2.2⟩,
      fun h => ⟨h.stamped, h.acked, h.waiting, h.overdue⟩⟩

/-- It is enough to look at each write with those before it. -/
theorem punctual_of_index {writes : List (World × World)}
    (hwrites : ∀ index : Fin writes.length, Punctual (writes.take index) writes[index])
    {before : List (World × World)} {write : World × World}
    (hinitial : before ++ [write] <+: writes) : Punctual before write := by
  obtain ⟨rest, rfl⟩ := hinitial
  have hlength : before.length < ((before ++ [write]) ++ rest).length := by
    simp only [List.length_append, List.length_singleton]
    omega
  simpa [List.take_left'] using hwrites ⟨before.length, hlength⟩

/-- An acknowledgement for the connection that `shook` sets up. -/
def answer (ackNr : Nat) : UtpPacket :=
  { type := .ST_STATE, connId := 1, seqNr := 101, ackNr := ackNr }

/-- One packet is acknowledged after 300 ms, and the next is sent again after two seconds. -/
def onTime : Trace World Label :=
  let wrote := (shook.launch .write (Async.discard (UtpConn.write [65]))).resumes
    (List.replicate 7 0)
  let acked := ((tick wrote 1000300).launch .receive (Async.discard
    (UtpConn.handleIncomingPacket (answer 2)))).resumes (List.replicate 7 0)
  let again := (acked.launch .write (Async.discard (UtpConn.write [66]))).resumes
    (List.replicate 7 0)
  ((tick again 1002300).launch .timeoutCheck UtpConn.timeoutCheck).resumes (List.replicate 7 0)

/-- The sample run is a run. -/
theorem onTime_traced : (connSystem anyLabel anyPacket).Traced
    (connecting 0 .sample true (.localhost 9000) 2 1 1 0) onTime := by
  apply Async.TaskSystem.Traced.resumes
  apply Async.TaskSystem.Traced.launch
  · apply traced_tick
    apply Async.TaskSystem.Traced.resumes
    apply traced_write
    · apply Async.TaskSystem.Traced.resumes
      apply traced_receive
      · apply traced_tick
        apply Async.TaskSystem.Traced.resumes
        apply traced_write _ shook_traced
        decide +kernel
      · decide +kernel
    · decide +kernel
  · exact ⟨trivial, .timeoutCheck⟩
  · intro hexclusive
    cases hexclusive

/-- The condition can be met by a run with a retransmission and a sample. -/
theorem paced_of_punctual_sample : Paced (onTime.writes.map Prod.snd) ∧
    onTime.writes.any (fun write => decide (resentBy write.2 ≠ [])) = true ∧
    onTime.writes.any (fun write => decide (measuredBy write.2 ≠ [])) = true := by
  have hpunctual : ∀ index : Fin (onTime.writes.map Prod.snd).length,
      Punctual ((onTime.writes.map Prod.snd).take index) (onTime.writes.map Prod.snd)[index] := by
    decide +kernel
  exact ⟨paced_of_punctual (by decide) onTime_traced fun _ _ => punctual_of_index hpunctual,
    by decide +kernel, by decide +kernel⟩

/-- The second writer waits for room for five seconds. Its packet is acknowledged at once. -/
def waited : Trace World Label :=
  let admitted := ((tick twoWriters 1005000).launch .receive (Async.discard
    (UtpConn.handleIncomingPacket (answer 2)))).resumes (List.replicate 9 0)
  admitted.launch .receive (Async.discard (UtpConn.handleIncomingPacket (answer 3)))

/-- The run of the failing input is a run. -/
theorem waited_traced : (connSystem anyLabel anyPacket).Traced
    (connecting 0 .sample true (.localhost 9000) 2 1 1 0) waited := by
  apply traced_receive
  · apply Async.TaskSystem.Traced.resumes
    apply Async.TaskSystem.Traced.launch (traced_tick _ twoWriters_traced)
    · exact ⟨trivial, .receive _ trivial⟩
    · intro _
      decide +kernel
  · decide +kernel

theorem waited_writes : waited.writes.map Prod.snd ≠ [] := by decide +kernel

/-- The five seconds enter the sample. -/
theorem paced_waiting : ¬ ∀ trace, (connSystem anyLabel anyPacket).Traced
      (connecting 0 .sample true (.localhost 9000) 2 1 1 0) trace →
    Paced (trace.writes.map Prod.snd) := by
  intro hclaim
  have hpaced := hclaim waited waited_traced
  have hsplit := List.dropLast_concat_getLast waited_writes
  have hdated := hpaced.dated _ _ ⟨[], (List.append_nil _).trans hsplit⟩
  have hstale : (measuredBy ((waited.writes.map Prod.snd).getLast waited_writes)).any (fun info =>
      decide (lastSent (waited.writes.map Prod.snd) info.packet = some 1005000) &&
        decide (info.sentTime = 1000000)) = true := by decide +kernel
  obtain ⟨info, hinfo, hboth⟩ := List.any_eq_true.mp hstale
  rw [Bool.and_eq_true, decide_eq_true_eq, decide_eq_true_eq] at hboth
  have hsent := hboth.1
  rw [← hsplit] at hsent
  have hsame := (hdated.measured info hinfo).2.symm.trans hsent
  rw [hboth.2] at hsame
  exact absurd hsame (by decide)

end World

end Utp
