import Utp.Wire.Extension

/-! # Selective acknowledgements

Which numbers a bitmask stands for. Its bits are set by the received numbers at their
distance from the first one it covers, and read back in the order of the bits.
-/

namespace Utp

namespace UtpSelectiveAckExtension

/-! ## Bits -/

theorem setBit_length (bitmask : Bytes) (position : Nat) :
    (setBit bitmask position).length = bitmask.length := List.length_modify _ _ _

/-- Setting a bit changes no other. -/
theorem testBit_setBit {bitmask : Bytes} {position : Nat} (hinside : position < bitmask.length * 8)
    (other : Nat) : testBit (setBit bitmask position) other = true ↔
      other = position ∨ testBit bitmask other = true := by
  have hbyte : position / 8 < bitmask.length := by omega
  have hmask : (UInt8.ofNat (1 <<< (position % 8))).toNat = 2 ^ (position % 8) := by
    have hlt : 2 ^ (position % 8) < 2 ^ 8 := Nat.pow_lt_pow_right (by decide) (by omega)
    rw [UInt8.toNat_ofNat', Nat.one_shiftLeft]
    exact Nat.mod_eq_of_lt hlt
  unfold testBit setBit
  rw [List.getD_eq_getElem?_getD, List.getD_eq_getElem?_getD, List.getElem?_modify]
  by_cases hsame : position / 8 = other / 8
  · have hget : bitmask[other / 8]? = some bitmask[other / 8] :=
      List.getElem?_eq_getElem (hsame ▸ hbyte)
    rw [hget]
    simp only [hsame, if_true, Option.map_eq_map, Option.map_some, Option.getD_some, UInt8.toNat_or,
      Nat.testBit_or, hmask, Nat.testBit_two_pow, Bool.or_eq_true, decide_eq_true_eq]
    constructor
    · rintro (hset | hbit)
      · exact .inr hset
      · left
        omega
    · rintro (rfl | hset)
      · exact .inr rfl
      · exact .inl hset
  · have hother : other ≠ position := fun h => hsame (h ▸ rfl)
    simp [hsame, hother]

theorem markReceived_length (firstSeq : Nat) (bitmask : Bytes) (seqNr : Nat) :
    (markReceived firstSeq bitmask seqNr).length = bitmask.length := by
  unfold markReceived
  split
  next => exact setBit_length _ _
  next => rfl

theorem foldl_markReceived_length (firstSeq : Nat) (seqNrs : List Nat) (bitmask : Bytes) :
    (seqNrs.foldl (markReceived firstSeq) bitmask).length = bitmask.length := by
  induction seqNrs generalizing bitmask with
  | nil => rfl
  | cons seqNr rest ih => rw [List.foldl_cons, ih, markReceived_length]

theorem bitmaskLength_mod (lastDistance : Nat) : bitmaskLength lastDistance % 4 = 0 := by
  simp only [bitmaskLength]
  omega

/-- At most 252 bytes, the greatest multiple of four that fits a byte. -/
theorem bitmaskLength_le {lastDistance : Nat} :
    bitmaskLength lastDistance ≤ 252 ↔ lastDistance < 2016 := by
  simp only [bitmaskLength]
  omega

theorem sortFrom_last {firstSeq last : Nat} {seqNrs : List Nat}
    (hlast : (sortFrom firstSeq seqNrs).getLast? = some last) :
    last ∈ seqNrs ∧ ∀ seqNr ∈ seqNrs, Seq.diff seqNr firstSeq ≤ Seq.diff last firstSeq := by
  have hsorted : (sortFrom firstSeq seqNrs).Pairwise fun a b =>
      Seq.diff a firstSeq ≤ Seq.diff b firstSeq := List.pairwise_insertionSort _ _
  obtain ⟨front, hfront⟩ := List.getLast?_eq_some_iff.mp hlast
  rw [hfront, List.pairwise_append] at hsorted
  have hmem : ∀ seqNr, seqNr ∈ seqNrs ↔ seqNr ∈ front ++ [last] := fun seqNr => by
    rw [← hfront]
    exact (List.mem_insertionSort _).symm
  refine ⟨(hmem last).mpr (by simp), fun seqNr hseqNr => ?_⟩
  rcases List.mem_append.mp ((hmem seqNr).mp hseqNr) with hbefore | hlast
  · exact hsorted.2.2 seqNr hbefore last (by simp)
  · rw [List.mem_singleton.mp hlast]

/-! ## What the bits stand for -/

theorem testBit_replicate (length position : Nat) :
    testBit (List.replicate length 0) position = false := by
  have hbyte : (List.replicate length (0 : UInt8)).getD (position / 8) 0 = 0 := by
    rw [List.getD_eq_getElem?_getD, List.getElem?_replicate]
    split <;> rfl
  rw [testBit, hbyte]
  exact Nat.zero_testBit _

/-- A received number sets the bit at its distance, if it is covered. -/
theorem testBit_markReceived (firstSeq : Nat) (bitmask : Bytes) (seqNr position : Nat) :
    testBit (markReceived firstSeq bitmask seqNr) position = true ↔
      (Seq.ge seqNr firstSeq = true ∧ Seq.diff seqNr firstSeq < bitmask.length * 8 ∧
        position = Seq.diff seqNr firstSeq) ∨ testBit bitmask position = true := by
  unfold markReceived
  split
  next hcovered =>
    rw [Bool.and_eq_true, decide_eq_true_eq] at hcovered
    rw [testBit_setBit hcovered.2]
    tauto
  next huncovered =>
    rw [Bool.and_eq_true, decide_eq_true_eq] at huncovered
    tauto

theorem testBit_foldl (firstSeq : Nat) (seqNrs : List Nat) (bitmask : Bytes) (position : Nat) :
    testBit (seqNrs.foldl (markReceived firstSeq) bitmask) position = true ↔
      (∃ seqNr ∈ seqNrs, Seq.ge seqNr firstSeq = true ∧
        Seq.diff seqNr firstSeq < bitmask.length * 8 ∧ position = Seq.diff seqNr firstSeq) ∨
          testBit bitmask position = true := by
  induction seqNrs generalizing bitmask with
  | nil => simp
  | cons seqNr rest ih =>
      rw [List.foldl_cons, ih, markReceived_length, testBit_markReceived, List.exists_mem_cons_iff,
        or_left_comm, or_assoc]

/-! ## Building and reading -/

theorem bitmaskLength_pos (lastDistance : Nat) : 0 < bitmaskLength lastDistance :=
  Nat.lt_of_lt_of_le (by decide) (Nat.le_max_left 4 _)

/-- The bitmask reaches as far as asked for, and not around the numbers. -/
theorem bitmaskLength_bounds {lastDistance : Nat} (hlt : lastDistance < 65536) :
    lastDistance < bitmaskLength lastDistance * 8 ∧ bitmaskLength lastDistance * 8 ≤ 65536 := by
  simp only [bitmaskLength]
  omega

theorem diff_add_nat {first distance : Nat} (hlt : distance < 65536) :
    Seq.diff (Seq.add first distance) first = distance := by
  unfold Seq.diff Seq.add
  omega

/-- A bitmask that starts at `firstSeq` and has the bits of the given numbers. -/
structure Marks (firstSeq : Nat) (seqNrs : List Nat) (bitmask : Bytes) : Prop where
  pos : 0 < bitmask.length
  groups : bitmask.length % 4 = 0
  bound : bitmask.length * 8 ≤ 65536
  covers : ∀ seqNr ∈ seqNrs, Seq.diff seqNr firstSeq < bitmask.length * 8
  bits : ∀ position, testBit bitmask position = true ↔
    ∃ seqNr ∈ seqNrs, Seq.ge seqNr firstSeq = true ∧ position = Seq.diff seqNr firstSeq

theorem create_marks (localAckNr : Nat) {seqNrs : List Nat} (hnonempty : seqNrs ≠ []) :
    ∃ sack, create localAckNr seqNrs = some sack ∧ sack.base = localAckNr ∧
      Marks (Seq.add localAckNr 2) seqNrs sack.bitmask := by
  generalize hfirst : Seq.add localAckNr 2 = firstSeq
  have hsorted : sortFrom firstSeq seqNrs ≠ [] := by
    intro hempty
    have hlength : (sortFrom firstSeq seqNrs).length = seqNrs.length :=
      List.length_insertionSort _ _
    rw [hempty] at hlength
    exact hnonempty (List.length_eq_zero_iff.mp hlength.symm)
  obtain ⟨lastSeq, hlast⟩ := Option.ne_none_iff_exists'.mp (mt List.getLast?_eq_none_iff.mp hsorted)
  obtain ⟨-, hmax⟩ := sortFrom_last hlast
  have hcreate : create localAckNr seqNrs = some ⟨localAckNr,
      (sortFrom firstSeq seqNrs).foldl (markReceived firstSeq)
        (List.replicate (bitmaskLength (Seq.diff lastSeq firstSeq)) 0)⟩ := by
    simp only [create, hfirst, hlast]
  obtain ⟨hreach, hbound⟩ := bitmaskLength_bounds (Seq.diff_lt lastSeq firstSeq)
  refine ⟨_, hcreate, rfl, ?_⟩
  have hcovers : ∀ seqNr ∈ seqNrs, Seq.diff seqNr firstSeq <
      bitmaskLength (Seq.diff lastSeq firstSeq) * 8 :=
    fun seqNr hseqNr => Nat.lt_of_le_of_lt (hmax seqNr hseqNr) hreach
  constructor
  case bits =>
    intro position
    rw [testBit_foldl, testBit_replicate, List.length_replicate]
    constructor
    · rintro (⟨seqNr, hseqNr, hge, -, hposition⟩ | hbit)
      · exact ⟨seqNr, (List.mem_insertionSort _).mp hseqNr, hge, hposition⟩
      · cases hbit
    · rintro ⟨seqNr, hseqNr, hge, hposition⟩
      exact .inl ⟨seqNr, (List.mem_insertionSort _).mpr hseqNr, hge, hcovers seqNr hseqNr,
        hposition⟩
  all_goals rw [foldl_markReceived_length, List.length_replicate]
  · exact bitmaskLength_pos _
  · exact bitmaskLength_mod _
  · exact hbound
  · exact hcovers

/-- The numbers of the set bits. -/
theorem received_eq (self : UtpSelectiveAckExtension) : self.getRemoteReceivedSeqNrs =
    ((List.range (self.bitmask.length * 8)).filter (testBit self.bitmask)).map
      fun position : Nat => Seq.add (Seq.add self.base 2) position := by
  simp only [getRemoteReceivedSeqNrs, List.pure_def, List.bind_eq_flatMap, ← List.map_eq_flatMap,
    List.map_map]
  rfl

theorem notReceived_eq (self : UtpSelectiveAckExtension) : self.getRemoteNotReceivedSeqNrs =
    Seq.add self.base 1 ::
      ((List.range (self.bitmask.length * 8)).filter fun position =>
        !testBit self.bitmask position).map
          fun position : Nat => Seq.add (Seq.add self.base 2) position := by
  simp only [getRemoteNotReceivedSeqNrs, List.pure_def, List.bind_eq_flatMap, ← List.map_eq_flatMap,
    List.map_map]
  rfl

variable {firstSeq : Nat} {seqNrs : List Nat} {sack : UtpSelectiveAckExtension}

/-- The bit of a number of the window. -/
theorem Marks.testBit_iff (hmarks : Marks firstSeq seqNrs sack.bitmask)
    (hseqNrs : ∀ seqNr ∈ seqNrs, seqNr < 65536) {position : Nat}
    (hposition : position < sack.bitmask.length * 8) : testBit sack.bitmask position = true ↔
      Seq.add firstSeq position ∈ seqNrs ∧
        Seq.ge (Seq.add firstSeq position) firstSeq = true := by
  rw [hmarks.bits]
  constructor
  · rintro ⟨seqNr, hseqNr, hge, rfl⟩
    rw [Seq.diff_add firstSeq seqNr (hseqNrs seqNr hseqNr)]
    exact ⟨hseqNr, hge⟩
  · rintro ⟨hseqNr, hge⟩
    have hbound := hmarks.bound
    exact ⟨_, hseqNr, hge, (diff_add_nat (by omega)).symm⟩

/-- What is built from received numbers is read back exactly: those at or ahead of the first
number the bitmask covers, in the order of their distance, and between them the others. -/
theorem create_exact (ackNr : Nat) {seqNrs : List Nat} (hnonempty : seqNrs ≠ [])
    (hseqNrs : ∀ seqNr ∈ seqNrs, seqNr < 65536) :
    ∃ sack, create ackNr seqNrs = some sack ∧
      0 < sack.bitmask.length ∧ sack.bitmask.length % 4 = 0 ∧
      sack.getRemoteReceivedSeqNrs.Nodup ∧
      (sack.getRemoteReceivedSeqNrs.Pairwise fun a b =>
        Seq.diff a (Seq.add ackNr 2) < Seq.diff b (Seq.add ackNr 2)) ∧
      (∀ seqNr, seqNr ∈ sack.getRemoteReceivedSeqNrs ↔
        seqNr ∈ seqNrs ∧ Seq.ge seqNr (Seq.add ackNr 2) = true) ∧
      ((∀ seqNr ∈ seqNrs, Seq.ge seqNr (Seq.add ackNr 2) = true) →
        sack.getRemoteNotReceivedSeqNrs = Seq.add ackNr 1 ::
          ((List.range (8 * sack.bitmask.length)).map fun position : Nat =>
            Seq.add (Seq.add ackNr 2) position).filter fun seqNr => seqNr ∉ seqNrs) := by
  obtain ⟨sack, hcreate, hbase, hmarks⟩ := create_marks ackNr hnonempty
  have hbound := hmarks.bound
  have hordered : sack.getRemoteReceivedSeqNrs.Pairwise fun a b =>
      Seq.diff a (Seq.add ackNr 2) < Seq.diff b (Seq.add ackNr 2) := by
    rw [received_eq, hbase, List.pairwise_map]
    have hpositions := (@List.pairwise_lt_range (sack.bitmask.length * 8)).filter
      (testBit sack.bitmask)
    refine hpositions.imp_of_mem fun {a b} ha hb hlt => ?_
    have hainside := List.mem_range.mp (List.mem_filter.mp ha).1
    have hbinside := List.mem_range.mp (List.mem_filter.mp hb).1
    rw [diff_add_nat (by omega), diff_add_nat (by omega)]
    exact hlt
  refine ⟨sack, hcreate, hmarks.pos, hmarks.groups, ?_, hordered, fun seqNr => ?_, fun hahead => ?_⟩
  · exact hordered.imp fun hlt heq => by rw [heq] at hlt; exact Nat.lt_irrefl _ hlt
  · rw [received_eq, hbase, List.mem_map]
    constructor
    · rintro ⟨position, hposition, rfl⟩
      obtain ⟨hinside, hbit⟩ := List.mem_filter.mp hposition
      exact (hmarks.testBit_iff hseqNrs (List.mem_range.mp hinside)).mp hbit
    · rintro ⟨hseqNr, hge⟩
      have hinside := hmarks.covers seqNr hseqNr
      have hsame := Seq.diff_add (Seq.add ackNr 2) seqNr (hseqNrs seqNr hseqNr)
      refine ⟨Seq.diff seqNr (Seq.add ackNr 2), List.mem_filter.mpr
        ⟨List.mem_range.mpr hinside, ?_⟩,
        hsame⟩
      exact (hmarks.bits _).mpr ⟨seqNr, hseqNr, hge, rfl⟩
  · rw [notReceived_eq, hbase, List.filter_map, Nat.mul_comm 8]
    congr 2
    refine List.filter_congr fun position hposition => ?_
    have hbit := hmarks.testBit_iff hseqNrs (List.mem_range.mp hposition)
    by_cases hmem : Seq.add (Seq.add ackNr 2) position ∈ seqNrs
    · simp [hmem, hbit.mpr ⟨hmem, hahead _ hmem⟩]
    · have hclear : testBit sack.bitmask position = false := by
        rw [Bool.eq_false_iff]
        exact fun hset => hmem (hbit.mp hset).1
      simp [hmem, hclear]

/-- Received numbers around the wrap, one of them twice, and one far behind. -/
theorem create_exact_sample : ∃ sack, create 65533 [1, 65535, 1, 40000] = some sack ∧
    sack.getRemoteReceivedSeqNrs.Nodup := by
  obtain ⟨sack, hcreate, -, -, hnodup, -⟩ := @create_exact 65533 [1, 65535, 1, 40000]
    (by decide) (by decide)
  exact ⟨sack, hcreate, hnodup⟩

end UtpSelectiveAckExtension

end Utp
