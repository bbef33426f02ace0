import Mathlib.Data.List.Induction
import Utp.Sender.Forgery

/-! # Acknowledgements in any order

With nobody waiting to enter the window, acknowledgements take out what they cover and put
nothing in. As long as all numbers are close to each other, what is covered does not depend on
the order in which the acknowledgements come.
-/

namespace Utp

/-! ## Numbers close to each other -/

namespace Seq

/-- The number lies within half a cycle from `base` on. -/
structure Near (base seqNr : Nat) : Prop where
  bounded : seqNr < 65536
  ahead : diff seqNr base < 2 ^ 15

instance (base seqNr : Nat) : Decidable (Near base seqNr) :=
  decidable_of_iff (seqNr < 65536 ∧ diff seqNr base < 2 ^ 15)
    ⟨fun h => ⟨h.1, h.2⟩, fun h => ⟨h.1, h.2⟩⟩

/-- Among numbers close to `base` the circular order is the order of the distances. -/
theorem ge_iff_of_near {base first second : Nat} (hfirst : Near base first)
    (hsecond : Near base second) :
    ge first second = true ↔ diff second base ≤ diff first base := by
  have hbound := hfirst.bounded
  have hbound' := hsecond.bounded
  have hahead := hfirst.ahead
  have hahead' := hsecond.ahead
  rw [ge_iff]
  unfold diff at *
  omega

theorem gt_iff_of_near {base first second : Nat} (hfirst : Near base first)
    (hsecond : Near base second) :
    gt first second = true ↔ diff second base < diff first base := by
  have hbound := hfirst.bounded
  have hbound' := hsecond.bounded
  have hahead := hfirst.ahead
  have hahead' := hsecond.ahead
  rw [gt_iff]
  unfold diff at *
  omega

end Seq

/-! ## Maps that nothing enters -/

namespace BlockingMap

variable {κ ν : Type} [DecidableEq κ] {before after : BlockingMap κ ν}

/-- Nothing has entered, nobody waits, and what is left was there before. -/
structure Subsides (before after : BlockingMap κ ν) : Prop where
  waiting : after.waitingSetters = []
  entered : after.entered = before.entered
  stored : ∀ key value, after.get key = some value → before.get key = some value

theorem Subsides.delete (hsubsides : before.Subsides after) (key : κ) :
    before.Subsides (after.delete key) := by
  have hunblocked : ({ after with map := after.map.erase key } : BlockingMap κ ν).waitingSetters =
      [] := hsubsides.waiting
  unfold BlockingMap.delete
  split
  next =>
    rw [resolveNextSetter_unblocked hunblocked]
    refine ⟨hsubsides.waiting, hsubsides.entered, fun other value hvalue => ?_⟩
    apply hsubsides.stored other value
    simp only [get, OrderedMap.get?_erase] at hvalue
    split at hvalue
    next => cases hvalue
    next => exact hvalue
  next => exact hsubsides

theorem Subsides.updateCapacity (hsubsides : before.Subsides after) (capacity : ℚ) :
    before.Subsides (after.updateCapacity capacity) := by
  rw [updateCapacity_unblocked capacity hsubsides.waiting]
  exact ⟨hsubsides.waiting, hsubsides.entered, hsubsides.stored⟩

/-- Under a vacated key there is nothing, as nothing has entered. -/
theorem Subsides.vacated (hsubsides : before.Subsides after) {key : κ}
    (hvacates : before.Vacates key after) : after.get key = none := by
  apply Option.eq_none_iff_forall_ne_some.mpr
  intro stored hstored
  have hlater := hvacates.vacant stored hstored
  rw [hsubsides.entered, List.drop_length] at hlater
  cases hlater

end BlockingMap

namespace UtpSendWindow

variable {window : UtpSendWindow} {base seqNr : Nat} {acks : List (Nat × UtpPacket)}
  {info : UtpPacketWithExtraInfo}

/-! ## One acknowledgement -/

theorem handleAck_subsides (hunblocked : window.packetMap.waitingSetters = []) (now : Nat)
    (ackPacket : UtpPacket) :
    window.packetMap.Subsides (window.handleAck now ackPacket).packetMap :=
  handleAck_preserves _ now ackPacket (fun _ other _ hmap => hmap.delete other)
    (fun _ capacity _ hmap => hmap.updateCapacity capacity) ⟨hunblocked, rfl, fun _ _ => id⟩

/-- The acknowledgement takes out what it covers, and leaves the rest as it was. -/
theorem handleAck_get (hunblocked : window.packetMap.waitingSetters = []) (now : Nat)
    (ackPacket : UtpPacket) :
    (window.handleAck now ackPacket).packetMap.get seqNr = some info ↔
      window.packetMap.get seqNr = some info ∧ ¬ window.Covers ackPacket seqNr := by
  have hsubsides := handleAck_subsides hunblocked now ackPacket
  constructor
  · intro hinfo
    refine ⟨hsubsides.stored _ _ hinfo, fun hcovers => ?_⟩
    rw [hsubsides.vacated (handleAck_vacates now hcovers)] at hinfo
    cases hinfo
  · rintro ⟨hinfo, huncovered⟩
    cases hafter : (window.handleAck now ackPacket).packetMap.get seqNr with
    | none => exact absurd (covers_of_handleAck now hinfo hafter) huncovered
    | some stored => rw [← hinfo, hsubsides.stored _ _ hafter]

/-- What the window takes for acknowledged afterwards. -/
theorem isPacketAcked_handleAck (now : Nat) (ackPacket : UtpPacket)
    (hseqNr : Seq.Near base seqNr) (hackNr : Seq.Near base ackPacket.ackNr)
    (hlatest : ∀ latest, window.latestSeqReceivedOfOtherSide = some latest →
      Seq.Near base latest) :
    (window.handleAck now ackPacket).isPacketAcked seqNr = true ↔
      window.isPacketAcked seqNr = true ∨
        Seq.diff seqNr base ≤ Seq.diff ackPacket.ackNr base := by
  rw [isPacketAcked_congr (handleAck_latest window now ackPacket)]
  unfold isPacketAcked noteAck
  cases hbefore : window.latestSeqReceivedOfOtherSide with
  | none => simp [Seq.ge_iff_of_near hackNr hseqNr]
  | some latest =>
      have hnear := hlatest latest hbefore
      by_cases hnewer : Seq.gt ackPacket.ackNr latest = true
      · have hlater := (Seq.gt_iff_of_near hackNr hnear).mp hnewer
        simp only [if_pos hnewer, Seq.ge_iff_of_near hackNr hseqNr, Seq.ge_iff_of_near hnear hseqNr]
        omega
      · have hearlier := mt (Seq.gt_iff_of_near hackNr hnear).mpr hnewer
        simp only [if_neg hnewer, Seq.ge_iff_of_near hnear hseqNr]
        omega

/-! ## Many acknowledgements -/

/-- Acknowledgements as they come, each with the time at which it is handled. -/
def handleAcks (window : UtpSendWindow) (acks : List (Nat × UtpPacket)) : UtpSendWindow :=
  acks.foldl (fun window entry => window.handleAck entry.1 entry.2) window

/-- All numbers lie within half a cycle. -/
structure Narrow (base : Nat) (window : UtpSendWindow) (acks : List (Nat × UtpPacket)) :
    Prop where
  inFlight : ∀ seqNr ∈ window.getAllSeqNrs, Seq.Near base seqNr
  remembered : ∀ latest, window.latestSeqReceivedOfOtherSide = some latest → Seq.Near base latest
  ackNr : ∀ entry ∈ acks, Seq.Near base entry.2.ackNr
  sacked : ∀ entry ∈ acks, ∀ seqNr ∈ sackedSeqNrs entry.2, Seq.Near base seqNr

/-- The packet is at or before an acknowledgement number, or reported by a SACK. -/
def AckedBy (base : Nat) (acks : List (Nat × UtpPacket)) (seqNr : Nat) : Prop :=
  ∃ entry ∈ acks, Seq.diff seqNr base ≤ Seq.diff entry.2.ackNr base ∨
    seqNr ∈ sackedSeqNrs entry.2

/-- The packet is at or before the number that the window remembers. -/
def Remembered (base : Nat) (window : UtpSendWindow) (seqNr : Nat) : Prop :=
  ∃ latest, window.latestSeqReceivedOfOtherSide = some latest ∧
    Seq.diff seqNr base ≤ Seq.diff latest base

theorem remembered_iff (hseqNr : Seq.Near base seqNr)
    (hlatest : ∀ latest, window.latestSeqReceivedOfOtherSide = some latest →
      Seq.Near base latest) :
    window.isPacketAcked seqNr = true ↔ window.Remembered base seqNr := by
  unfold isPacketAcked Remembered
  cases hbefore : window.latestSeqReceivedOfOtherSide with
  | none => simp
  | some latest => simp [Seq.ge_iff_of_near (hlatest latest hbefore) hseqNr]

theorem Narrow.tail {entry : Nat × UtpPacket} (hnarrow : Narrow base window (entry :: acks))
    (hunblocked : window.packetMap.waitingSetters = []) :
    Narrow base (window.handleAck entry.1 entry.2) acks where
  inFlight seqNr hseqNr := by
    obtain ⟨stored, hstored⟩ := OrderedMap.exists_get? hseqNr
    have hbefore := (handleAck_subsides hunblocked entry.1 entry.2).stored _ _ hstored
    exact hnarrow.inFlight seqNr (OrderedMap.mem_keys_of_get? hbefore)
  remembered latest hlatest := by
    rw [handleAck_latest] at hlatest
    unfold noteAck at hlatest
    have hackNr := hnarrow.ackNr entry List.mem_cons_self
    cases hbefore : window.latestSeqReceivedOfOtherSide with
    | none =>
        simp only [hbefore, Option.some.injEq] at hlatest
        exact hlatest ▸ hackNr
    | some earlier =>
        simp only [hbefore] at hlatest
        split at hlatest
        next =>
          cases hlatest
          exact hackNr
        next =>
          cases hlatest
          exact hnarrow.remembered latest hbefore
  ackNr other hother := hnarrow.ackNr other (List.mem_cons_of_mem _ hother)
  sacked other hother := hnarrow.sacked other (List.mem_cons_of_mem _ hother)

/-- The remembered number counts as soon as an acknowledgement is handled. -/
theorem handleAcks_get (hunblocked : window.packetMap.waitingSetters = [])
    (hnarrow : Narrow base window acks) (hseqNr : Seq.Near base seqNr) :
    (window.handleAcks acks).packetMap.get seqNr = some info ↔
      window.packetMap.get seqNr = some info ∧
        ¬ (acks ≠ [] ∧ window.Remembered base seqNr ∨ AckedBy base acks seqNr) := by
  induction acks generalizing window with
  | nil => simp [handleAcks, AckedBy]
  | cons entry rest ih =>
      have hlatest := hnarrow.remembered
      have hackNr := hnarrow.ackNr entry List.mem_cons_self
      have hafter := (handleAck_subsides hunblocked entry.1 entry.2).waiting
      have hnext := hnarrow.tail hunblocked
      have hacked := isPacketAcked_handleAck entry.1 entry.2 hseqNr hackNr hlatest
      have hcovers : window.Covers entry.2 seqNr ↔
          window.Remembered base seqNr ∨ AckedBy base [entry] seqNr := by
        unfold Covers
        rw [← isPacketAcked_congr (handleAck_latest window entry.1 entry.2), hacked,
          remembered_iff hseqNr hlatest]
        simp only [AckedBy, List.mem_singleton, exists_eq_left]
        rw [or_comm, or_assoc, or_comm]
      have hremembered : (window.handleAck entry.1 entry.2).Remembered base seqNr →
          window.Remembered base seqNr ∨ AckedBy base [entry] seqNr := by
        rw [← remembered_iff hseqNr hnext.remembered, hacked, remembered_iff hseqNr hlatest]
        simp only [AckedBy, List.mem_singleton, exists_eq_left]
        exact fun hnow => hnow.imp_right .inl
      have hsplit : AckedBy base (entry :: rest) seqNr ↔
          AckedBy base [entry] seqNr ∨ AckedBy base rest seqNr := by
        simp [AckedBy]
      have hcons : window.handleAcks (entry :: rest) =
          (window.handleAck entry.1 entry.2).handleAcks rest := rfl
      rw [hcons, ih hafter hnext, handleAck_get hunblocked, hcovers, hsplit]
      constructor
      · rintro ⟨⟨hinfo, hfirst⟩, hlater⟩
        refine ⟨hinfo, ?_⟩
        rintro (⟨-, hbefore⟩ | hnow | hthen)
        · exact hfirst (.inl hbefore)
        · exact hfirst (.inr hnow)
        · exact hlater (.inr hthen)
      · rintro ⟨hinfo, hnever⟩
        have hfirst : ¬ (window.Remembered base seqNr ∨ AckedBy base [entry] seqNr) := by
          rintro (hbefore | hnow)
          · exact hnever (.inl ⟨by simp, hbefore⟩)
          · exact hnever (.inr (.inl hnow))
        refine ⟨⟨hinfo, hfirst⟩, ?_⟩
        rintro (⟨-, hthen⟩ | hthen)
        · exact hfirst (hremembered hthen)
        · exact hnever (.inr (.inr hthen))

theorem handleAcks_subsides (hunblocked : window.packetMap.waitingSetters = []) :
    window.packetMap.Subsides (window.handleAcks acks).packetMap := by
  induction acks using List.reverseRecOn with
  | nil => exact ⟨hunblocked, rfl, fun _ _ => id⟩
  | append_singleton acks entry ih =>
      rw [handleAcks, List.foldl_append]
      exact handleAck_preserves _ entry.1 entry.2 (fun _ other _ hmap => hmap.delete other)
        (fun _ capacity _ hmap => hmap.updateCapacity capacity) ih

/-- In whatever order acknowledgements come, if there are any or nothing in flight is behind
what is remembered, they leave in flight what is neither at or before one of their numbers or
the remembered one, nor reported by a SACK. -/
theorem handleAcks_exact (hunblocked : window.packetMap.waitingSetters = [])
    (hnarrow : Narrow base window acks)
    (hsome : acks ≠ [] ∨ ∀ seqNr ∈ window.getAllSeqNrs, ¬ window.Remembered base seqNr)
    {order : List (Nat × UtpPacket)} (horder : order.Perm acks) (seqNr : Nat)
    (info : UtpPacketWithExtraInfo) :
    (window.handleAcks order).packetMap.get seqNr = some info ↔
      window.packetMap.get seqNr = some info ∧ ¬ window.Remembered base seqNr ∧
        ¬ AckedBy base acks seqNr := by
  have hnarrow' : Narrow base window order :=
    ⟨hnarrow.inFlight, hnarrow.remembered, fun entry hentry => hnarrow.ackNr entry
      (horder.mem_iff.mp hentry), fun entry hentry => hnarrow.sacked entry
      (horder.mem_iff.mp hentry)⟩
  have hacked : AckedBy base order seqNr ↔ AckedBy base acks seqNr := by
    simp only [AckedBy, horder.mem_iff]
  have hempty : order ≠ [] ↔ acks ≠ [] := by
    rw [ne_eq, ne_eq, ← List.length_eq_zero_iff, horder.length_eq, List.length_eq_zero_iff]
  by_cases hin : seqNr ∈ window.getAllSeqNrs
  · rw [handleAcks_get hunblocked hnarrow' (hnarrow.inFlight seqNr hin), hacked, hempty]
    apply and_congr_right
    intro
    rw [not_or]
    apply and_congr_left
    intro
    constructor
    · intro hfree hremembered
      by_cases hnone : acks ≠ []
      · exact hfree ⟨hnone, hremembered⟩
      · exact hsome.resolve_left hnone seqNr hin hremembered
    · exact fun hunremembered hfree => hunremembered hfree.2
  · have hnone : window.packetMap.get seqNr = none := OrderedMap.get?_eq_none.mpr hin
    constructor
    · intro hinfo
      rw [(handleAcks_subsides hunblocked).stored _ _ hinfo] at hnone
      cases hnone
    · rintro ⟨hinfo, -⟩
      rw [hinfo] at hnone
      cases hnone

/-! ## Concrete windows -/

def sampleInfo (seqNr : Nat) : UtpPacketWithExtraInfo :=
  ⟨{ type := .ST_DATA, connId := 1, seqNr := seqNr }, 0, 0, .localhost 9000⟩

/-- The window after a registration. -/
def sampleEntered (window : UtpSendWindow) (seqNr : Nat) : UtpSendWindow :=
  { window with packetMap := window.packetMap.put seqNr (sampleInfo seqNr) }

def sampleAck (ackNr : Nat) (sack : List Extension) : Nat × UtpPacket :=
  (0, { type := .ST_STATE, connId := 1, ackNr := ackNr, extensions := sack })

/-- Of the packets 2, 3 and 4, one acknowledgement is for 2, and another one reports 3. -/
theorem handleAcks_exact_sample :
    ((((create.sampleEntered 2).sampleEntered 3).sampleEntered 4).handleAcks
      [sampleAck 1 [.selectiveAck ⟨1, [1]⟩], sampleAck 2 []]).packetMap.get 4 =
        some (sampleInfo 4) ↔
      (((create.sampleEntered 2).sampleEntered 3).sampleEntered 4).packetMap.get 4 =
          some (sampleInfo 4) ∧
        ¬ (((create.sampleEntered 2).sampleEntered 3).sampleEntered 4).Remembered 0 4 ∧
          ¬ AckedBy 0 [sampleAck 2 [], sampleAck 1 [.selectiveAck ⟨1, [1]⟩]] 4 :=
  handleAcks_exact rfl
    ⟨by decide +kernel, fun _ hlatest => absurd hlatest (by exact nofun), by decide +kernel,
      by decide +kernel⟩ (.inl (by simp)) (.swap _ _ _) 4 _

/-- Without any acknowledgement the window keeps a packet that was registered behind the
number it remembers. -/
theorem handleAcks_exact_fails : ¬ ∀ (base : Nat) (window : UtpSendWindow)
    (acks order : List (Nat × UtpPacket)) (seqNr : Nat) (info : UtpPacketWithExtraInfo),
      window.packetMap.waitingSetters = [] → Narrow base window acks → order.Perm acks →
        ((window.handleAcks order).packetMap.get seqNr = some info ↔
          window.packetMap.get seqNr = some info ∧ ¬ window.Remembered base seqNr ∧
            ¬ AckedBy base acks seqNr) := by
  intro hexact
  have hiff := hexact 0 ((create.handleAck 0 (sampleAck 5 []).2).sampleEntered 3) [] [] 3
    (sampleInfo 3) (by decide +kernel) ⟨by decide +kernel, ?_, nofun, nofun⟩ (.refl [])
  · have hkept : (((create.handleAck 0 (sampleAck 5 []).2).sampleEntered 3).handleAcks
        []).packetMap.get 3 = some (sampleInfo 3) := by decide +kernel
    exact (hiff.mp hkept).2.1 ⟨5, by decide +kernel, by decide +kernel⟩
  · intro latest hlatest
    have hfive : ((create.handleAck 0 (sampleAck 5 []).2).sampleEntered
        3).latestSeqReceivedOfOtherSide = some 5 := by decide +kernel
    cases hfive.symm.trans hlatest
    decide +kernel

end UtpSendWindow

end Utp
