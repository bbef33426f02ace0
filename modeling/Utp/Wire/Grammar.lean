import Utp.Wire.Codec

/-! # The grammar of the extension chain

What a well-formed chain is, apart from the decoder, and where the decoder
departs from it: `slice` stops at the end of the buffer, so the last extension
of a chain may declare more bytes than there are.
-/

namespace Utp

namespace UtpPacket

/-- The payload length suits the type. -/
def FormatFits (type length : Nat) : Prop :=
  (type = 1 → length % 4 = 0) ∧ (type = 2 → length = UtpExtensionBits.BITS_LENGTH)

/-- The packet's list of extensions, with one more in front unless its type is unknown. -/
def listed (ackNr type : Nat) (payload : Bytes) (rest : List Extension) : List Extension :=
  match type with
  | 1 => .selectiveAck ⟨ackNr, payload⟩ :: rest
  | 2 => .extensionBits ⟨payload⟩ :: rest
  | _ => rest

/-- The header of an extension: the type of the next, and the declared length. -/
def HeaderAt (bytes : Bytes) (offset next length : Nat) : Prop :=
  getUint8 bytes offset = .ok next ∧ getUint8 bytes (offset + 1) = .ok length

/-- The chain of extensions that begins at an offset with a type: what it lists, and
where it ends. Every header and every declared payload lies in the buffer. -/
inductive ChainAt (bytes : Bytes) (ackNr : Nat) : Nat → Nat → List Extension → Nat → Prop
  | done (offset : Nat) : ChainAt bytes ackNr 0 offset [] offset
  | more {type offset next length last : Nat} {rest : List Extension} (htype : type ≠ 0)
      (hheader : HeaderAt bytes offset next length)
      (hinside : offset + EXTENSION_HEADER_SIZE + length ≤ bytes.length)
      (hformat : FormatFits type length)
      (hrest : ChainAt bytes ackNr next (offset + EXTENSION_HEADER_SIZE + length) rest last) :
      ChainAt bytes ackNr type offset
        (listed ackNr type (slice bytes (offset + EXTENSION_HEADER_SIZE) length) rest) last

/-- The chain ends in an extension that declares more bytes than the buffer has, and what
is left of it suits its type. -/
inductive Overruns (bytes : Bytes) : Nat → Nat → Prop
  | here {type offset length : Nat} (htype : type ≠ 0) (hheader : HeaderAt bytes offset 0 length)
      (houtside : bytes.length < offset + EXTENSION_HEADER_SIZE + length)
      (hformat : FormatFits type (bytes.length - (offset + EXTENSION_HEADER_SIZE))) :
      Overruns bytes type offset
  | later {type offset next length : Nat} (htype : type ≠ 0)
      (hheader : HeaderAt bytes offset next length)
      (hinside : offset + EXTENSION_HEADER_SIZE + length ≤ bytes.length)
      (hformat : FormatFits type length)
      (hrest : Overruns bytes next (offset + EXTENSION_HEADER_SIZE + length)) :
      Overruns bytes type offset

/-! ## One extension -/

theorem bind_eq_ok {α β : Type} {first : Except String α} {next : α → Except String β}
    {result : β} :
    first.bind next = .ok result ↔ ∃ value, first = .ok value ∧ next value = .ok result := by
  cases first with
  | error => exact ⟨nofun, nofun⟩
  | ok value => exact ⟨fun h => ⟨value, rfl, h⟩, fun ⟨_, hvalue, h⟩ => by cases hvalue; exact h⟩

theorem decodeExtension_eq_ok {ackNr type : Nat} {payload : Bytes} {extension : List Extension} :
    decodeExtension ackNr type payload = .ok extension ↔
      FormatFits type payload.length ∧ extension = listed ackNr type payload [] := by
  unfold decodeExtension
  split
  next htype =>
    subst htype
    refine bind_eq_ok.trans ?_
    unfold UtpSelectiveAckExtension.createFromBytes
    split
    next hlength => exact ⟨nofun, fun h => absurd (h.1.1 rfl) hlength⟩
    next hlength =>
      constructor
      · rintro ⟨_, ⟨⟩, ⟨⟩⟩
        exact ⟨⟨fun _ => not_not.mp hlength, nofun⟩, rfl⟩
      · rintro ⟨-, rfl⟩
        exact ⟨_, rfl, rfl⟩
  next hsack =>
    split
    next htype =>
      subst htype
      refine bind_eq_ok.trans ?_
      unfold UtpExtensionBits.createFromBytes
      split
      next hlength => exact ⟨nofun, fun h => absurd (h.1.2 rfl) hlength⟩
      next hlength =>
        constructor
        · rintro ⟨_, ⟨⟩, ⟨⟩⟩
          exact ⟨⟨nofun, fun _ => not_not.mp hlength⟩, rfl⟩
        · rintro ⟨-, rfl⟩
          exact ⟨_, rfl, rfl⟩
    next hbits =>
      have hlisted : listed ackNr type payload [] = [] := by
        unfold listed
        split <;> first | contradiction | rfl
      rw [hlisted]
      constructor
      · rintro ⟨⟩
        exact ⟨⟨fun h => absurd h hsack, fun h => absurd h hbits⟩, rfl⟩
      · rintro ⟨-, rfl⟩
        rfl

theorem listed_append (ackNr type : Nat) (payload : Bytes) (rest : List Extension) :
    listed ackNr type payload [] ++ rest = listed ackNr type payload rest := by
  unfold listed
  split <;> rfl

theorem slice_length (bytes : Bytes) (start length : Nat) :
    (slice bytes start length).length = min length (bytes.length - start) := by
  rw [slice, List.length_take, List.length_drop]

theorem getUint8_lt {bytes : Bytes} {offset value : Nat} (h : getUint8 bytes offset = .ok value) :
    offset < bytes.length := by
  unfold getUint8 at h
  split at h
  next byte hbyte => exact (List.getElem?_eq_some_iff.mp hbyte).1
  next => cases h

/-- One round of the loop. -/
theorem decodeExtensions_succ_eq_ok {bytes : Bytes} {ackNr rounds type offset last : Nat}
    {extensions : List Extension} (htype : type ≠ 0) :
    decodeExtensions bytes ackNr (rounds + 1) type offset = .ok (extensions, last) ↔
      ∃ next length rest, HeaderAt bytes offset next length ∧
        FormatFits type (slice bytes (offset + EXTENSION_HEADER_SIZE) length).length ∧
        decodeExtensions bytes ackNr rounds next (offset + EXTENSION_HEADER_SIZE + length) =
          .ok (rest, last) ∧
        extensions =
          listed ackNr type (slice bytes (offset + EXTENSION_HEADER_SIZE) length) rest := by
  rw [decodeExtensions, if_neg htype]
  constructor
  · intro h
    obtain ⟨next, hnext, h⟩ := bind_eq_ok.mp h
    obtain ⟨length, hlength, h⟩ := bind_eq_ok.mp h
    obtain ⟨extension, hextension, h⟩ := bind_eq_ok.mp h
    obtain ⟨⟨rest, end'⟩, hrest, h⟩ := bind_eq_ok.mp h
    obtain ⟨hformat, rfl⟩ := decodeExtension_eq_ok.mp hextension
    cases h
    exact ⟨next, length, rest, ⟨hnext, hlength⟩, hformat, hrest, listed_append _ _ _ _⟩
  · rintro ⟨next, length, rest, ⟨hnext, hlength⟩, hformat, hrest, rfl⟩
    refine bind_eq_ok.mpr ⟨next, hnext, bind_eq_ok.mpr ⟨length, hlength, bind_eq_ok.mpr
      ⟨_, decodeExtension_eq_ok.mpr ⟨hformat, rfl⟩, bind_eq_ok.mpr ⟨_, hrest, ?_⟩⟩⟩⟩
    exact congrArg (fun extensions => Except.ok (extensions, last)) (listed_append _ _ _ _)

theorem decodeExtensions_done (bytes : Bytes) (ackNr rounds offset : Nat) :
    decodeExtensions bytes ackNr rounds 0 offset = .ok ([], offset) := by
  cases rounds <;> rfl

/-! ## The decoder and the grammar -/

/-- A well-formed chain is decoded as it stands. -/
theorem ChainAt.decodes {bytes : Bytes} {ackNr type offset last : Nat}
    {extensions : List Extension} (hchain : ChainAt bytes ackNr type offset extensions last)
    {rounds : Nat} (hrounds : bytes.length ≤ offset + rounds) :
    decodeExtensions bytes ackNr rounds type offset = .ok (extensions, last) := by
  induction hchain generalizing rounds with
  | done offset => exact decodeExtensions_done bytes ackNr rounds offset
  | @more type offset next length last rest htype hheader hinside hformat hrest ih =>
      cases rounds with
      | zero => 
          have := getUint8_lt hheader.1
          omega
      | succ rounds =>
          have hslice : (slice bytes (offset + EXTENSION_HEADER_SIZE) length).length = length := by
            rw [slice_length]
            omega
          refine (decodeExtensions_succ_eq_ok htype).mpr
            ⟨next, length, rest, hheader, hslice.symm ▸ hformat, ih ?_, rfl⟩
          simp only [EXTENSION_HEADER_SIZE]
          omega

/-- It ends in the buffer. -/
theorem ChainAt.last_le {bytes : Bytes} {ackNr type offset last : Nat}
    {extensions : List Extension} (hchain : ChainAt bytes ackNr type offset extensions last)
    (hoffset : offset ≤ bytes.length) : last ≤ bytes.length := by
  induction hchain with
  | done => exact hoffset
  | more _ _ hinside _ _ ih => exact ih hinside

/-- A chain that overruns is decoded too, and ends behind the buffer. -/
theorem Overruns.decodes {bytes : Bytes} {type offset : Nat}
    (hoverruns : Overruns bytes type offset)
    (ackNr : Nat) {rounds : Nat} (hrounds : bytes.length ≤ offset + rounds) :
    ∃ extensions last, decodeExtensions bytes ackNr rounds type offset = .ok (extensions, last) ∧
      bytes.length < last := by
  induction hoverruns generalizing rounds with
  | @here type offset length htype hheader houtside hformat =>
      cases rounds with
      | zero =>
          have := getUint8_lt hheader.1
          omega
      | succ rounds =>
          have hslice : (slice bytes (offset + EXTENSION_HEADER_SIZE) length).length =
              bytes.length - (offset + EXTENSION_HEADER_SIZE) := by
            rw [slice_length]
            omega
          exact ⟨_, _, (decodeExtensions_succ_eq_ok htype).mpr ⟨0, length, [], hheader,
            hslice.symm ▸ hformat, decodeExtensions_done _ _ _ _, rfl⟩, houtside⟩
  | @later type offset next length htype hheader hinside hformat hrest ih =>
      cases rounds with
      | zero =>
          have := getUint8_lt hheader.1
          omega
      | succ rounds =>
          have hslice : (slice bytes (offset + EXTENSION_HEADER_SIZE) length).length = length := by
            rw [slice_length]
            omega
          obtain ⟨rest, last, hdecodes, hlast⟩ := @ih rounds (by
            simp only [EXTENSION_HEADER_SIZE]
            omega)
          exact ⟨_, last, (decodeExtensions_succ_eq_ok htype).mpr
            ⟨next, length, rest, hheader, hslice.symm ▸ hformat, hdecodes, rfl⟩, hlast⟩

/-- There is no other way for the decoder to accept a chain. -/
theorem chainAt_or_overruns {bytes : Bytes} {ackNr rounds type offset last : Nat}
    {extensions : List Extension}
    (hdecodes : decodeExtensions bytes ackNr rounds type offset = .ok (extensions, last)) :
    ChainAt bytes ackNr type offset extensions last ∨ Overruns bytes type offset := by
  induction rounds generalizing type offset extensions with
  | zero =>
      unfold decodeExtensions at hdecodes
      split at hdecodes
      next htype =>
        subst htype
        cases hdecodes
        exact .inl (.done _)
      next => cases hdecodes
  | succ rounds ih =>
      by_cases htype : type = 0
      · subst htype
        rw [decodeExtensions_done] at hdecodes
        cases hdecodes
        exact .inl (.done _)
      · obtain ⟨next, length, rest, hheader, hformat, hrest, rfl⟩ :=
          (decodeExtensions_succ_eq_ok htype).mp hdecodes
        rw [slice_length] at hformat
        by_cases hinside : offset + EXTENSION_HEADER_SIZE + length ≤ bytes.length
        · rw [Nat.min_eq_left (by omega)] at hformat
          exact (ih hrest).imp (.more htype hheader hinside hformat)
            (.later htype hheader hinside hformat)
        · -- Behind the end there is no further header, so this is the last extension.
          have hnext : next = 0 := by
            by_contra hnext
            cases rounds with
            | zero => simp [decodeExtensions, hnext] at hrest
            | succ rounds =>
                obtain ⟨_, _, _, hbehind, -⟩ := (decodeExtensions_succ_eq_ok hnext).mp hrest
                have := getUint8_lt hbehind.1
                omega
          subst hnext
          rw [Nat.min_eq_right (by omega)] at hformat
          exact .inr (.here htype hheader (by omega) hformat)

/-- Each round reads a byte further on, so more rounds than bytes change nothing. -/
theorem decodeExtensions_rounds {bytes : Bytes} {ackNr rounds type offset : Nat}
    (hrounds : bytes.length ≤ offset + rounds) (more : Nat) :
    decodeExtensions bytes ackNr (rounds + more) type offset =
      decodeExtensions bytes ackNr rounds type offset := by
  induction rounds generalizing type offset with
  | zero =>
      cases more with
      | zero => rfl
      | succ more =>
          have hbehind : getUint8 bytes offset =
              .error "Offset is outside the bounds of the DataView" := by
            rw [getUint8, List.getElem?_eq_none (show bytes.length ≤ offset from hrounds)]
          rw [Nat.zero_add, decodeExtensions, decodeExtensions, hbehind]
          rfl
  | succ rounds ih =>
      rw [Nat.add_right_comm, decodeExtensions, decodeExtensions]
      have hlater : ∀ next length, decodeExtensions bytes ackNr (rounds + more) next
          (offset + EXTENSION_HEADER_SIZE + length) = decodeExtensions bytes ackNr rounds next
            (offset + EXTENSION_HEADER_SIZE + length) := fun next length => by
        refine ih ?_
        simp only [EXTENSION_HEADER_SIZE]
        omega
      simp only [hlater]

/-! ## Acceptance -/

theorem toNat_ofNibble {nibble : Nat} (h : nibble < 16) :
    (UtpPacketType.ofNibble nibble).toNat = nibble := by
  match nibble with
  | 0 | 1 | 2 | 3 | 4 => rfl
  | rest + 5 =>
      simp only [UtpPacketType.ofNibble, UtpPacketType.toNat, Fin.ofNat]
      omega

/-- The fixed part of a packet, in the ranges of its fields. -/
structure Header (bytes : Bytes) (header : UtpPacket) : Prop where
  first : ∃ first, getUint8 bytes 0 = .ok first ∧ header.type = .ofNibble (first / 2 ^ 4) ∧
    header.version = first % 2 ^ 4
  extension : getUint8 bytes 1 = .ok header.extension
  connId : header.connId < 65536
  seqNr : header.seqNr < 65536
  ackNr : header.ackNr < 65536
  timestamp : 0 ≤ header.timestampMicroseconds
  difference : 0 ≤ header.timestampDifferenceMicroseconds

/-- The packet with the extensions and the data that the decoder found. -/
def withTail (header : UtpPacket) (bytes : Bytes) (tail : List Extension × Nat) : UtpPacket :=
  { header with
    extensions := tail.1
    data := if tail.2 < bytes.length then some (bytes.drop tail.2) else none }

theorem exists_getUint8 {bytes : Bytes} {offset : Nat} (hoffset : offset < bytes.length) :
    ∃ value, getUint8 bytes offset = .ok value ∧ value < 256 := by
  refine ⟨bytes[offset].toNat, ?_, UInt8.toNat_lt _⟩
  rw [getUint8, List.getElem?_eq_getElem hoffset]

theorem getUint8_lt_256 {bytes : Bytes} {offset value : Nat}
    (h : getUint8 bytes offset = .ok value) : value < 256 := by
  obtain ⟨other, hother, hlt⟩ := exists_getUint8 (getUint8_lt h)
  cases h.symm.trans hother
  exact hlt

theorem exists_getUint16 {bytes : Bytes} {offset : Nat} (hoffset : offset + 1 < bytes.length) :
    ∃ value, getUint16 bytes offset = .ok value ∧ value < 65536 := by
  obtain ⟨high, hhigh, hhighLt⟩ := exists_getUint8 (Nat.lt_of_succ_lt hoffset)
  obtain ⟨low, hlow, hlowLt⟩ := exists_getUint8 hoffset
  refine ⟨high * 2 ^ 8 + low, ?_, by omega⟩
  rw [getUint16, hhigh, hlow]
  rfl

theorem exists_getUint32 {bytes : Bytes} {offset : Nat} (hoffset : offset + 3 < bytes.length) :
    ∃ value, getUint32 bytes offset = .ok value := by
  obtain ⟨high, hhigh, -⟩ := exists_getUint16 (show offset + 1 < bytes.length by omega)
  obtain ⟨low, hlow, -⟩ := exists_getUint16 hoffset
  refine ⟨high * 2 ^ 16 + low, ?_⟩
  rw [getUint32, hhigh, hlow]
  rfl

/-- With the header in the buffer, only the chain decides. -/
theorem fromBytes_eq {bytes : Bytes} (hlength : HEADER_SIZE ≤ bytes.length) :
    ∃ header, Header bytes header ∧ fromBytes bytes =
      (decodeExtensions bytes header.ackNr bytes.length header.extension HEADER_SIZE).map
        (header.withTail bytes) := by
  have hbound : ∀ offset, offset < HEADER_SIZE → offset < bytes.length :=
    fun _ h => Nat.lt_of_lt_of_le h hlength
  obtain ⟨first, hfirst, -⟩ := exists_getUint8 (hbound 0 (by decide))
  obtain ⟨extension, hextension, -⟩ := exists_getUint8 (hbound 1 (by decide))
  obtain ⟨connId, hconnId, hconnIdLt⟩ := exists_getUint16 (hbound 3 (by decide))
  obtain ⟨timestamp, htimestamp⟩ := exists_getUint32 (hbound 7 (by decide))
  obtain ⟨difference, hdifference⟩ := exists_getUint32 (hbound 11 (by decide))
  obtain ⟨windowSize, hwindowSize⟩ := exists_getUint32 (hbound 15 (by decide))
  obtain ⟨seqNr, hseqNr, hseqNrLt⟩ := exists_getUint16 (hbound 17 (by decide))
  obtain ⟨ackNr, hackNr, hackNrLt⟩ := exists_getUint16 (hbound 19 (by decide))
  let header : UtpPacket :=
    { type := .ofNibble (first / 2 ^ 4)
      version := first % 2 ^ 4
      extension := extension
      connId := connId
      timestampMicroseconds := timestamp
      timestampDifferenceMicroseconds := difference
      windowSize := windowSize
      seqNr := seqNr
      ackNr := ackNr }
  refine ⟨header, ⟨⟨first, hfirst, rfl, rfl⟩, hextension, hconnIdLt, hseqNrLt, hackNrLt,
    Int.natCast_nonneg _, Int.natCast_nonneg _⟩, ?_⟩
  unfold fromBytes
  rw [hfirst, hextension, hconnId, htimestamp, hdifference, hwindowSize, hseqNr, hackNr]
  show (decodeExtensions bytes _ _ _ _).bind _ = _
  cases decodeExtensions bytes header.ackNr bytes.length header.extension HEADER_SIZE <;> rfl

/-- The chain behind the header is well formed. -/
def WellFormed (bytes : Bytes) : Prop :=
  ∃ type ackNr extensions last, getUint8 bytes 1 = .ok type ∧
    ChainAt bytes ackNr type HEADER_SIZE extensions last

/-- The chain behind the header overruns the buffer. -/
def Overrun (bytes : Bytes) : Prop :=
  ∃ type, getUint8 bytes 1 = .ok type ∧ Overruns bytes type HEADER_SIZE

/-- The decoder ends without running out of rounds, accepts the well-formed chains and no
others, and gives the extensions and the data as they stand in the buffer. -/
structure DecodesGrammar (bytes : Bytes) : Prop where
  terminates : ∀ ackNr type more, decodeExtensions bytes ackNr (bytes.length + more) type
    HEADER_SIZE = decodeExtensions bytes ackNr bytes.length type HEADER_SIZE
  accepts : (∃ packet, fromBytes bytes = .ok packet) ↔ WellFormed bytes
  faithful : ∀ packet, fromBytes bytes = .ok packet → ∃ last,
    ChainAt bytes packet.ackNr packet.extension HEADER_SIZE packet.extensions last ∧
      packet.data = if last < bytes.length then some (bytes.drop last) else none

theorem ChainAt.any {bytes : Bytes} {ackNr type offset last : Nat} {extensions : List Extension}
    (hchain : ChainAt bytes ackNr type offset extensions last) (other : Nat) :
    ∃ extensions, ChainAt bytes other type offset extensions last := by
  induction hchain with
  | done offset => exact ⟨[], .done offset⟩
  | more htype hheader hinside hformat _ ih =>
      obtain ⟨rest, hrest⟩ := ih
      exact ⟨_, .more htype hheader hinside hformat hrest⟩

/-- What the decoder accepts: the well-formed chains, and those that overrun. -/
theorem fromBytes_accepts {bytes : Bytes} (hlength : HEADER_SIZE ≤ bytes.length) :
    (∃ packet, fromBytes bytes = .ok packet) ↔ WellFormed bytes ∨ Overrun bytes := by
  obtain ⟨header, hheader, hbytes⟩ := fromBytes_eq hlength
  rw [hbytes]
  constructor
  · rintro ⟨packet, hpacket⟩
    cases hdecodes : decodeExtensions bytes header.ackNr bytes.length header.extension
        HEADER_SIZE with
    | error => rw [hdecodes] at hpacket; cases hpacket
    | ok tail =>
        exact (chainAt_or_overruns hdecodes).imp
          (fun hchain => ⟨_, _, _, _, hheader.extension, hchain⟩)
          fun hoverruns => ⟨_, hheader.extension, hoverruns⟩
  · rintro (⟨type, ackNr, _, last, htype, hchain⟩ | ⟨type, htype, hoverruns⟩)
    · cases htype.symm.trans hheader.extension
      obtain ⟨extensions, hchain⟩ := hchain.any header.ackNr
      rw [hchain.decodes (Nat.le_add_left _ _)]
      exact ⟨_, rfl⟩
    · cases htype.symm.trans hheader.extension
      obtain ⟨_, _, hdecodes, -⟩ := hoverruns.decodes header.ackNr (Nat.le_add_left _ HEADER_SIZE)
      rw [hdecodes]
      exact ⟨_, rfl⟩

/-- The decoder accepts exactly the grammar, except where the last extension of the chain
declares more bytes than there are and what is left of it suits its type. -/
theorem decodesGrammar_iff {bytes : Bytes} (hlength : HEADER_SIZE ≤ bytes.length) :
    DecodesGrammar bytes ↔ ¬ Overrun bytes := by
  obtain ⟨header, hheader, hbytes⟩ := fromBytes_eq hlength
  constructor
  · rintro hgrammar ⟨type, htype, hoverruns⟩
    cases htype.symm.trans hheader.extension
    obtain ⟨_, last, hdecodes, hlast⟩ := hoverruns.decodes header.ackNr
      (Nat.le_add_left bytes.length HEADER_SIZE)
    rw [hdecodes] at hbytes
    obtain ⟨last', hchain, -⟩ := hgrammar.faithful _ hbytes
    have hsame := hdecodes.symm.trans (hchain.decodes (Nat.le_add_left bytes.length HEADER_SIZE))
    cases hsame
    exact absurd (hchain.last_le hlength) (Nat.not_le.mpr hlast)
  · intro hinside
    refine ⟨fun _ _ _ => decodeExtensions_rounds (Nat.le_add_left _ _) _, ?_, ?_⟩
    · rw [fromBytes_accepts hlength]
      exact or_iff_left hinside
    · intro packet hpacket
      rw [hbytes] at hpacket
      cases hdecodes : decodeExtensions bytes header.ackNr bytes.length header.extension
          HEADER_SIZE with
      | error => rw [hdecodes] at hpacket; cases hpacket
      | ok tail =>
          rw [hdecodes] at hpacket
          cases hpacket
          rcases chainAt_or_overruns hdecodes with hchain | hoverruns
          · exact ⟨tail.2, hchain, rfl⟩
          · exact absurd ⟨_, hheader.extension, hoverruns⟩ hinside

/-- A data packet with the header byte `extension` and these bytes behind its header. -/
def withChain (extension : UInt8) (chain : Bytes) : Bytes :=
  0x01 :: extension :: List.replicate 18 0 ++ chain

theorem decodesGrammar_sample : DecodesGrammar (withChain 1 [0, 4, 1, 0, 0, 0, 65]) := by
  refine (decodesGrammar_iff (by decide)).mpr ?_
  rintro ⟨type, htype, hoverruns⟩
  cases htype
  obtain ⟨extensions, last, hdecodes, hlast⟩ := hoverruns.decodes 0 (Nat.le_add_left _ HEADER_SIZE)
  cases hdecodes
  exact absurd hlast (by decide)

/-- A SACK that declares eight bytes and has four is accepted. -/
theorem not_decodesGrammar_truncated : ¬ DecodesGrammar (withChain 1 [0, 8, 1, 0, 0, 0]) := by
  intro hgrammar
  obtain ⟨last, hchain, -⟩ := hgrammar.faithful _ rfl
  have hinside := hchain.last_le (by decide)
  have hdecodes := hchain.decodes (Nat.le_add_left _ HEADER_SIZE)
  cases hdecodes
  exact absurd hinside (by decide)

end UtpPacket

end Utp
