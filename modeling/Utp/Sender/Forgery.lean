import Utp.Sender.Retention

/-! # Acknowledgements of packets not yet sent

The window remembers the largest number it was ever told. An acknowledgement
that runs ahead of the sender, forged or left over, is remembered like any other,
and speaks for the packets that get the numbers up to it later.
-/

namespace Utp

open Async (Chain Config TaskSystem)

/-! ## What a deletion leaves -/

namespace BlockingMap

variable {κ ν : Type} [DecidableEq κ] {before after : BlockingMap κ ν} {key : κ}

/-- Under the key there is nothing, or only what has entered since. -/
structure Vacates (before : BlockingMap κ ν) (key : κ) (after : BlockingMap κ ν) : Prop where
  entered : before.entered <+: after.entered
  vacant : ∀ stored, after.get key = some stored →
    (key, stored) ∈ after.entered.drop before.entered.length

theorem Vacates.put (hvacates : before.Vacates key after) (other : κ) (value : ν) :
    before.Vacates key (after.put other value) := by
  refine ⟨hvacates.entered.trans (List.prefix_append _ _), fun stored hstored => ?_⟩
  have hdrop : (after.put other value).entered.drop before.entered.length =
      after.entered.drop before.entered.length ++ [(other, value)] :=
    List.drop_append_of_le_length hvacates.entered.length_le
  rw [hdrop]
  by_cases hkey : key = other
  · subst hkey
    simp only [get, BlockingMap.put, OrderedMap.get?_set, if_true, Option.some.injEq] at hstored
    exact List.mem_append_right _ (by simp [hstored])
  · simp only [get, BlockingMap.put, OrderedMap.get?_set, if_neg hkey] at hstored
    exact List.mem_append_left _ (hvacates.vacant stored hstored)

theorem Vacates.admitWaiting {waiting : List (κ × ν × Nat)} (hvacates : before.Vacates key after) :
    before.Vacates key (BlockingMap.admitWaiting waiting after) := by
  induction waiting generalizing after with
  | nil => exact ⟨hvacates.entered, hvacates.vacant⟩
  | cons waiter rest ih =>
      obtain ⟨other, value, id⟩ := waiter
      simp only [BlockingMap.admitWaiting]
      split
      next => exact ih (hvacates.put other value)
      next => exact ⟨hvacates.entered, hvacates.vacant⟩

theorem Vacates.updateCapacity (hvacates : before.Vacates key after) (capacity : ℚ) :
    before.Vacates key (after.updateCapacity capacity) :=
  Vacates.admitWaiting ⟨hvacates.entered, hvacates.vacant⟩

theorem Vacates.delete (hvacates : before.Vacates key after) (other : κ) :
    before.Vacates key (after.delete other) := by
  unfold BlockingMap.delete
  split
  next =>
    refine Vacates.admitWaiting ⟨hvacates.entered, fun stored hstored => ?_⟩
    apply hvacates.vacant stored
    simp only [get, OrderedMap.get?_erase] at hstored
    split at hstored
    next => cases hstored
    next => exact hstored
  next => exact hvacates

theorem vacates_of_get (hentered : before.entered <+: after.entered)
    (hnone : after.get key = none) : before.Vacates key after := by
  refine ⟨hentered, fun stored hstored => ?_⟩
  rw [hnone] at hstored
  cases hstored

theorem vacates_delete (hentered : before.entered <+: after.entered) :
    before.Vacates key (after.delete key) := by
  unfold BlockingMap.delete
  split
  next => exact Vacates.admitWaiting (vacates_of_get hentered (by simp [get]))
  next habsent => exact vacates_of_get hentered (OrderedMap.get?_eq_none.mpr habsent)

end BlockingMap

namespace UtpSendWindow

variable {window : UtpSendWindow} {before : BlockingMap Nat UtpPacketWithExtraInfo} {seqNr : Nat}

theorem sackOne_vacates (now : Nat) (hentered : before.entered <+: window.packetMap.entered) :
    before.Vacates seqNr (sackOne now window seqNr).packetMap := by
  unfold sackOne
  split
  next hnone => exact BlockingMap.vacates_of_get hentered hnone
  next info _ => exact BlockingMap.vacates_delete (by simpa using hentered)

theorem ackOne_vacates (now : Nat) (hentered : before.entered <+: window.packetMap.entered)
    (hacked : window.isPacketAcked seqNr = true) :
    before.Vacates seqNr (ackOne now window seqNr).packetMap := by
  rw [ackOne, if_pos hacked]
  split
  next => exact BlockingMap.vacates_delete hentered
  next info _ => exact BlockingMap.vacates_delete (by simpa using hentered)

/-- Nothing that is left is older than the loop. -/
theorem sackLoop_vacates (now : Nat) {seqNrs : List Nat}
    (hentered : before.entered <+: window.packetMap.entered) (hmem : seqNr ∈ seqNrs) :
    before.Vacates seqNr (window.sackLoop now seqNrs).packetMap := by
  induction seqNrs generalizing window with
  | nil => cases hmem
  | cons first rest ih =>
      by_cases hfirst : seqNr = first
      · subst hfirst
        exact sackLoop_preserves _ now rest (fun map other _ h => h.delete other)
          (sackOne_vacates now hentered)
      · refine ih ?_ (List.mem_of_ne_of_mem hfirst hmem)
        have hstep : before.Vacates first (window.sackOne now first).packetMap :=
          sackOne_vacates now hentered
        exact hstep.entered

theorem ackLoop_vacates (now : Nat) {seqNrs : List Nat}
    (hentered : before.entered <+: window.packetMap.entered)
    (hacked : window.isPacketAcked seqNr = true) (hmem : seqNr ∈ seqNrs) :
    before.Vacates seqNr (window.ackLoop now seqNrs).packetMap := by
  induction seqNrs generalizing window with
  | nil => cases hmem
  | cons first rest ih =>
      by_cases hfirst : seqNr = first
      · subst hfirst
        exact ackLoop_preserves _ now rest (fun map other _ h => h.delete other)
          (ackOne_vacates now hentered hacked)
      · have hlater : (ackOne now window first).isPacketAcked seqNr = true :=
          (isPacketAcked_congr (ackLoop_latest now [first] window) seqNr).trans hacked
        refine ih ?_ hlater (List.mem_of_ne_of_mem hfirst hmem)
        by_cases hother : window.isPacketAcked first = true
        · exact (ackOne_vacates now hentered hother).entered
        · rw [ackOne, if_neg hother]
          exact hentered

/-- The acknowledgement deletes all that it covers. -/
theorem handleAck_vacates (now : Nat) {ackPacket : UtpPacket}
    (hcovers : window.Covers ackPacket seqNr) :
    window.packetMap.Vacates seqNr (window.handleAck now ackPacket).packetMap := by
  apply BlockingMap.Vacates.updateCapacity
  rcases hcovers with hsacked | hacked
  · exact ackLoop_preserves _ now _ (fun map other _ h => h.delete other)
      (sackLoop_vacates now List.prefix_rfl hsacked)
  · have hlater := (isPacketAcked_sackLoop (window.noteAck ackPacket) now
      (sackedSeqNrs ackPacket) seqNr).trans hacked
    have hentered : window.packetMap.entered <+:
        ((window.noteAck ackPacket).sackLoop now (sackedSeqNrs ackPacket)).packetMap.entered :=
      sackLoop_preserves (fun map => window.packetMap.entered <+: map.entered) now _
        (fun map other _ h => (BlockingMap.vacates_delete h).entered) List.prefix_rfl
    generalize (window.noteAck ackPacket).sackLoop now (sackedSeqNrs ackPacket) = sacked
      at hlater hentered ⊢
    by_cases hmem : seqNr ∈ sacked.getAllSeqNrs
    · exact ackLoop_vacates now hentered hlater hmem
    · exact ackLoop_preserves _ now _ (fun map other _ h => h.delete other)
        (BlockingMap.vacates_of_get hentered (OrderedMap.get?_eq_none.mpr hmem))

/-- And what it deletes, it covers. -/
theorem covers_of_handleAck (now : Nat) {ackPacket : UtpPacket} {info : UtpPacketWithExtraInfo}
    (hinfo : window.packetMap.get seqNr = some info)
    (hgone : (window.handleAck now ackPacket).packetMap.get seqNr = none) :
    window.Covers ackPacket seqNr := by
  have hkeeps : window.packetMap.Keeps SamePacket (window.Covers ackPacket)
      (window.handleAck now ackPacket).packetMap :=
    handleAck_preserves _ now ackPacket (fun map other hcovers h => h.delete hcovers)
      (fun map capacity _ h => h.updateCapacity capacity) (.refl SamePacket.refl _)
  rcases hkeeps.entries seqNr info hinfo with hcovers | ⟨stored, hstored, -⟩
  · exact hcovers
  · rw [hgone] at hstored
    cases hstored

/-! ## What the window remembers -/

/-- An acknowledgement that covers a number by itself. -/
def Acks (ackPacket : UtpPacket) (seqNr : Nat) : Prop :=
  seqNr ∈ sackedSeqNrs ackPacket ∨ Seq.ge ackPacket.ackNr seqNr = true

theorem isPacketAcked_noteAck {ackPacket : UtpPacket}
    (hacked : (window.noteAck ackPacket).isPacketAcked seqNr = true) :
    window.isPacketAcked seqNr = true ∨ Seq.ge ackPacket.ackNr seqNr = true := by
  unfold isPacketAcked noteAck at *
  cases hlatest : window.latestSeqReceivedOfOtherSide with
  | none => exact .inr (by simpa [hlatest] using hacked)
  | some latest =>
      by_cases hnewer : Seq.gt ackPacket.ackNr latest = true
      · exact .inr (by simpa [hlatest, hnewer] using hacked)
      · exact .inl (by simpa [hlatest, hnewer] using hacked)

/-- The acknowledgement of the number before. -/
def staleAck (seqNr : Nat) : UtpPacket :=
  { type := .ST_STATE, connId := 0, seqNr := 0, ackNr := Seq.add seqNr (-1) }

theorem not_acks_staleAck (hseqNr : seqNr < 65536) : ¬ Acks (staleAck seqNr) seqNr := by
  rintro (hsacked | hacked)
  · cases hsacked
  · rw [Seq.ge_iff] at hacked
    simp only [staleAck, Seq.add, Seq.diff] at hacked
    omega

/-- It does not displace a number that is remembered already. -/
theorem covers_staleAck (hacked : window.isPacketAcked seqNr = true) :
    window.Covers (staleAck seqNr) seqNr := by
  right
  unfold isPacketAcked noteAck at *
  cases hlatest : window.latestSeqReceivedOfOtherSide with
  | none => simp [hlatest] at hacked
  | some latest =>
      simp only [hlatest] at hacked
      have hstale : ¬ Seq.gt (Seq.add seqNr (-1)) latest = true := by
        rw [Seq.ge_iff] at hacked
        rw [Seq.gt_iff]
        simp only [Seq.diff, Seq.add] at hacked ⊢
        omega
      simpa [staleAck, hstale] using hacked

/-! ## What a write makes of the memory -/

end UtpSendWindow

namespace World

/-- A number the window takes for acknowledged was acknowledged since: its history was
`past` acknowledgements long then. -/
def AckedSince (past seqNr : Nat) (world : World) : Prop :=
  past ≤ world.conn.sendWindow.handledAcks.length ∧
    (world.conn.sendWindow.isPacketAcked seqNr = true →
      ∃ ackPacket ∈ world.conn.sendWindow.handledAcks.drop past,
        UtpSendWindow.Acks ackPacket seqNr)

variable {past seqNr : Nat} {world next : World}

theorem AckedSince.of_same (hsince : world.AckedSince past seqNr)
    (hlatest : next.conn.sendWindow.latestSeqReceivedOfOtherSide =
      world.conn.sendWindow.latestSeqReceivedOfOtherSide)
    (hhandled : next.conn.sendWindow.handledAcks = world.conn.sendWindow.handledAcks) :
    next.AckedSince past seqNr := by
  unfold AckedSince at *
  rw [hhandled, UtpSendWindow.isPacketAcked_congr hlatest]
  exact hsince

/-- What the next acknowledgement covers, one since covers by itself. -/
theorem AckedSince.covers (hsince : world.AckedSince past seqNr) {ackPacket : UtpPacket}
    (hcovers : world.conn.sendWindow.Covers ackPacket seqNr) :
    ∃ other ∈ world.conn.sendWindow.handledAcks.drop past ++ [ackPacket],
      UtpSendWindow.Acks other seqNr := by
  have hnew : UtpSendWindow.Acks ackPacket seqNr →
      ∃ other ∈ world.conn.sendWindow.handledAcks.drop past ++ [ackPacket],
        UtpSendWindow.Acks other seqNr := fun hacks => ⟨ackPacket, by simp, hacks⟩
  rcases hcovers with hsacked | hacked
  · exact hnew (.inl hsacked)
  · rcases UtpSendWindow.isPacketAcked_noteAck hacked with hbefore | hacked
    · obtain ⟨other, hother, hacks⟩ := hsince.2 hbefore
      exact ⟨other, List.mem_append_left _ hother, hacks⟩
    · exact hnew (.inr hacked)

theorem AckedSince.handleAck (hsince : world.AckedSince past seqNr) (ackPacket : UtpPacket) :
    (world.handleAck ackPacket).AckedSince past seqNr := by
  have hhandled : (world.handleAck ackPacket).conn.sendWindow.handledAcks =
      world.conn.sendWindow.handledAcks ++ [ackPacket] := handledAcks_handleAck _ _ _
  refine ⟨?_, fun hacked => ?_⟩
  · rw [hhandled, List.length_append]
    exact hsince.1.trans (Nat.le_add_right _ _)
  · rw [hhandled, List.drop_append_of_le_length hsince.1]
    apply hsince.covers
    exact .inr ((UtpSendWindow.isPacketAcked_congr
      (UtpSendWindow.handleAck_latest _ _ _) seqNr).symm.trans hacked)

theorem resendOne_remembers (window : UtpSendWindow) (now sought : Nat) :
    (window.resendOne now sought).1.latestSeqReceivedOfOtherSide =
        window.latestSeqReceivedOfOtherSide ∧
      (window.resendOne now sought).1.handledAcks = window.handledAcks := by
  unfold UtpSendWindow.resendOne
  split
  next => exact ⟨rfl, rfl⟩
  next =>
    split
    next => split <;> exact ⟨rfl, rfl⟩
    next => exact ⟨rfl, rfl⟩

theorem AckedSince.act {receiving closing writing : Bool} (hsince : world.AckedSince past seqNr)
    (hact : Act receiving closing writing world next) : next.AckedSince past seqNr := by
  cases hact with
  | env henv =>
      exact hsince.of_same (by rw [henv.conn]) (by rw [henv.conn])
  | resendOne now sought =>
      exact hsince.of_same (resendOne_remembers _ now sought).1 (resendOne_remembers _ now sought).2
  | handleAck packet => exact hsince.handleAck packet
  | resetNow _ => exact ⟨hsince.1, nofun⟩
  | _ => exact hsince.of_same rfl rfl

/-! ## Runs -/

/-- Every entry has a 16-bit number. -/
theorem Tracked.narrow {first : Nat} (htracked : world.Tracked first)
    {info : UtpPacketWithExtraInfo} (hinfo : world.window.get seqNr = some info) :
    seqNr < 65536 := by
  obtain ⟨howns, hkey⟩ := htracked.window.present _ (OrderedMap.get?_eq_some.mp hinfo)
  obtain ⟨index, hindex⟩ := List.mem_iff_getElem?.mp howns.2
  have hnumber := htracked.numbered index info.packet hindex
  simp only at hkey
  omega

/-- A registered packet is removed only by what acknowledges it from then on, if and only if
the number the window remembers is not already at or past it. What an acknowledgement covers
goes from the window, except for what enters at once in its place, and nothing else goes. -/
theorem acked_since_iff {self : Nat} {utp : UtpSocket} {isInitiator : Bool}
    {remoteAddr : UtpAddr} {sendId recvId seqNr ackNr : Nat} (hseqNr : seqNr < 65536)
    {config : Config World Label}
    (hrun : (connSystem anyLabel anyPacket).Reachable
      (connectTo self utp isInitiator remoteAddr sendId recvId seqNr ackNr) config)
    {registered : Nat} {info : UtpPacketWithExtraInfo}
    (hregistered : config.state.window.get registered = some info) :
    ((∀ later, (connSystem anyLabel anyPacket).Reachable config later → ∀ ackPacket,
        later.state.conn.sendWindow.Covers ackPacket registered →
        ∃ other ∈ later.state.conn.sendWindow.handledAcks.drop
            config.state.conn.sendWindow.handledAcks.length ++ [ackPacket],
          UtpSendWindow.Acks other registered) ↔
      config.state.conn.sendWindow.isPacketAcked registered = false) ∧
    ∀ (later : World) ackPacket,
      (later.conn.sendWindow.Covers ackPacket registered →
        later.window.Vacates registered (later.handleAck ackPacket).window) ∧
      ((later.window.get registered).isSome = true →
        (later.handleAck ackPacket).window.get registered = none →
        later.conn.sendWindow.Covers ackPacket registered) := by
  have hmoving := (connSystem_acts.reachable (connectTo_moving self utp isInitiator remoteAddr
    sendId recvId seqNr ackNr hseqNr) hrun).2
  refine ⟨⟨fun hclaim => ?_, fun hunacked later hlater ackPacket hcovers => ?_⟩,
    fun later ackPacket => ⟨fun hcovers => ?_, fun hpresent hgone => ?_⟩⟩
  · apply Bool.eq_false_iff.mpr
    intro hacked
    obtain ⟨other, hother, hacks⟩ := hclaim config .refl _ (UtpSendWindow.covers_staleAck hacked)
    rw [List.drop_length, List.nil_append, List.mem_singleton] at hother
    subst hother
    exact UtpSendWindow.not_acks_staleAck (hmoving.inv.narrow hregistered) hacks
  · have hstart : config.state.AckedSince config.state.conn.sendWindow.handledAcks.length
        registered := by
      refine ⟨le_rfl, fun hacked => ?_⟩
      rw [hunacked] at hacked
      cases hacked
    have hchain := (connSystem_acts.reachable hmoving hlater).1
    exact (hchain.preserves (fun _ _ h hact => h.act hact) hstart).covers hcovers
  · exact UtpSendWindow.handleAck_vacates _ hcovers
  · obtain ⟨stored, hstored⟩ := Option.isSome_iff_exists.mp hpresent
    exact UtpSendWindow.covers_of_handleAck _ hstored hgone

/-! ## A forged acknowledgement -/

/-- It names a packet that is far from being sent. -/
def forgedAck : UtpPacket := { type := .ST_STATE, connId := 1, seqNr := 100, ackNr := 1000 }

/-- The connection has only sent its SYN, which took the number 1, when the forged
acknowledgement arrives. Then it writes a byte. -/
def forewarned : Config World Label :=
  (((established 0 .sample (.localhost 9000) 1 100).launch .receive
    (Async.discard (UtpConn.handleIncomingPacket forgedAck))).resumes [0, 0, 0, 0]).launch .write
      (Async.discard (UtpConn.write [65])) |>.resumes [0, 0, 0, 0, 0, 0]

theorem forewarned_reachable : (connSystem anyLabel anyPacket).Reachable
    (connectTo 0 .sample true (.localhost 9000) 2 1 1 0) forewarned := by
  have hforged := (sample_receiving forgedAck).resumes [0, 0, 0, 0]
  exact (hforged.step (.launch ⟨trivial, .write [65] (by decide +kernel)⟩ nofun)).resumes _

/-- Without it the byte stays until it is acknowledged. -/
theorem acked_since_iff_sample : (wroteByte.state.window.get 2).isSome = true ∧ ∀ later,
    (connSystem anyLabel anyPacket).Reachable wroteByte later → ∀ ackPacket,
      later.state.conn.sendWindow.Covers ackPacket 2 →
      ∃ other ∈ later.state.conn.sendWindow.handledAcks.drop
          wroteByte.state.conn.sendWindow.handledAcks.length ++ [ackPacket],
        UtpSendWindow.Acks other 2 := by
  have hpresent : (wroteByte.state.window.get 2).isSome = true := by decide +kernel
  obtain ⟨info, hinfo⟩ := Option.isSome_iff_exists.mp hpresent
  exact ⟨hpresent, (acked_since_iff (by decide) wroteByte_reachable hinfo).1.mpr
    (by decide +kernel)⟩

theorem forged_ack_remembered : ¬ ∀ config : Config World Label,
    (connSystem anyLabel anyPacket).Reachable
      (connectTo 0 .sample true (.localhost 9000) 2 1 1 0) config →
    ∀ seqNr, (config.state.window.get seqNr).isSome = true →
    ∀ later, (connSystem anyLabel anyPacket).Reachable config later → ∀ ackPacket,
      (later.state.window.get seqNr).isSome = true →
      (later.state.handleAck ackPacket).window.get seqNr = none →
      ∃ other ∈ later.state.conn.sendWindow.handledAcks.drop
          config.state.conn.sendWindow.handledAcks.length ++ [ackPacket],
        UtpSendWindow.Acks other seqNr := by
  intro hclaim
  have hgone : (forewarned.state.window.get 2).isSome = true ∧
      ((forewarned.state.handleAck (UtpSendWindow.staleAck 2)).window.get 2).isNone = true := by
    decide +kernel
  obtain ⟨other, hother, hacks⟩ := hclaim forewarned forewarned_reachable 2 hgone.1 forewarned .refl
    (UtpSendWindow.staleAck 2) hgone.1 (Option.isNone_iff_eq_none.mp hgone.2)
  rw [List.drop_length, List.nil_append, List.mem_singleton] at hother
  subst hother
  exact UtpSendWindow.not_acks_staleAck (by decide) hacks

end World

end Utp
