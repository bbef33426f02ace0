import Utp.Wire.Grammar

/-! # Encoding what was decoded

The decoder skips an extension of an unknown type and takes as many bytes of the last one as there
are, so a decoded packet need not be encoded as it came. It is when the chain has known types and
stays inside of the buffer. The packet itself survives another round when the header announces a
known type.
-/

namespace Utp

namespace UtpPacket

variable {bytes : Bytes}

/-! ## Numbers -/

theorem slice_add (bytes : Bytes) (offset first second : Nat) :
    slice bytes offset (first + second) =
      slice bytes offset first ++ slice bytes (offset + first) second := by
  unfold slice
  rw [List.take_add, List.drop_drop]

theorem slice_drop (bytes : Bytes) (offset length : Nat) :
    bytes.drop offset = slice bytes offset length ++ bytes.drop (offset + length) := by
  rw [slice, ← List.drop_drop, List.take_append_drop]

theorem slice_getUint8 {offset value : Nat} (hvalue : getUint8 bytes offset = .ok value) :
    slice bytes offset 1 = setUint8 value := by
  unfold getUint8 at hvalue
  split at hvalue
  next byte hbyte =>
    obtain ⟨hinside, hget⟩ := List.getElem?_eq_some_iff.mp hbyte
    cases hvalue
    rw [slice, List.drop_eq_getElem_cons hinside, hget, setUint8, UInt8.ofNat_toNat]
    rfl
  next => cases hvalue

/-- A byte holds the lower eight bits. -/
theorem setUint8_congr {first second : Nat} (hsame : first % 256 = second % 256) :
    setUint8 first = setUint8 second := by
  unfold setUint8
  congr 1
  apply UInt8.toNat_inj.mp
  simp only [UInt8.toNat_ofNat']
  exact hsame

theorem slice_getUint16 {offset value : Nat} (hvalue : getUint16 bytes offset = .ok value) :
    slice bytes offset 2 = setUint16 value ∧ value < 65536 := by
  obtain ⟨high, hhigh, hvalue⟩ := bind_eq_ok.mp hvalue
  obtain ⟨low, hlow, hvalue⟩ := bind_eq_ok.mp hvalue
  cases hvalue
  have hhighLt := getUint8_lt_256 hhigh
  have hlowLt := getUint8_lt_256 hlow
  refine ⟨?_, by omega⟩
  rw [slice_add bytes offset 1 1, slice_getUint8 hhigh, slice_getUint8 hlow, setUint16]
  congr 1 <;> apply setUint8_congr <;> omega

theorem slice_getUint32 {offset value : Nat} (hvalue : getUint32 bytes offset = .ok value) :
    slice bytes offset 4 = setUint32 value ∧ value < 2 ^ 32 := by
  obtain ⟨high, hhigh, hvalue⟩ := bind_eq_ok.mp hvalue
  obtain ⟨low, hlow, hvalue⟩ := bind_eq_ok.mp hvalue
  cases hvalue
  obtain ⟨hfirst, hhighLt⟩ := slice_getUint16 hhigh
  obtain ⟨hsecond, hlowLt⟩ := slice_getUint16 hlow
  have hlt : high * 2 ^ 16 + low < 2 ^ 32 := by omega
  refine ⟨?_, hlt⟩
  have hword : (((high * 2 ^ 16 + low : Nat) : Int) % 2 ^ 32).toNat = high * 2 ^ 16 + low := by
    omega
  have hsplit : (high * 2 ^ 16 + low) / 2 ^ 16 = high := by omega
  rw [slice_add bytes offset 2 2, hfirst, hsecond]
  simp only [setUint32, hword, hsplit, setUint16]
  -- The last two bytes hold the lower half only.
  congr 2 <;> apply setUint8_congr <;> omega

/-! ## The header -/

/-- What a decoded packet has kept of the buffer: the header, in full, and what stands behind the
chain that the decoder has walked. -/
structure Decoded (bytes : Bytes) (packet : UtpPacket) : Prop where
  header : packet.encodeHeader = slice bytes 0 HEADER_SIZE
  version : packet.version < 16
  connId : packet.connId < 65536
  seqNr : packet.seqNr < 65536
  ackNr : packet.ackNr < 65536
  timestamp : 0 ≤ packet.timestampMicroseconds ∧ packet.timestampMicroseconds < 2 ^ 32
  difference : 0 ≤ packet.timestampDifferenceMicroseconds ∧
    packet.timestampDifferenceMicroseconds < 2 ^ 32
  windowSize : packet.windowSize < 2 ^ 32
  extension : packet.extension < 256
  chain : ∃ last, decodeExtensions bytes packet.ackNr bytes.length packet.extension HEADER_SIZE =
    .ok (packet.extensions, last) ∧
      packet.data = if last < bytes.length then some (bytes.drop last) else none

theorem decoded_of_fromBytes {packet : UtpPacket} (hdecodes : fromBytes bytes = .ok packet) :
    Decoded bytes packet := by
  unfold fromBytes at hdecodes
  obtain ⟨first, hfirst, hdecodes⟩ := bind_eq_ok.mp hdecodes
  obtain ⟨extension, hextension, hdecodes⟩ := bind_eq_ok.mp hdecodes
  obtain ⟨connId, hconnId, hdecodes⟩ := bind_eq_ok.mp hdecodes
  obtain ⟨timestamp, htimestamp, hdecodes⟩ := bind_eq_ok.mp hdecodes
  obtain ⟨difference, hdifference, hdecodes⟩ := bind_eq_ok.mp hdecodes
  obtain ⟨windowSize, hwindowSize, hdecodes⟩ := bind_eq_ok.mp hdecodes
  obtain ⟨seqNr, hseqNr, hdecodes⟩ := bind_eq_ok.mp hdecodes
  obtain ⟨ackNr, hackNr, hdecodes⟩ := bind_eq_ok.mp hdecodes
  obtain ⟨⟨extensions, last⟩, hchain, hdecodes⟩ := bind_eq_ok.mp hdecodes
  cases hdecodes
  have hfirstLt := getUint8_lt_256 hfirst
  obtain ⟨hslice2, hconnIdLt⟩ := slice_getUint16 hconnId
  obtain ⟨hslice4, htimestampLt⟩ := slice_getUint32 htimestamp
  obtain ⟨hslice8, hdifferenceLt⟩ := slice_getUint32 hdifference
  obtain ⟨hslice12, hwindowSizeLt⟩ := slice_getUint32 hwindowSize
  obtain ⟨hslice16, hseqNrLt⟩ := slice_getUint16 hseqNr
  obtain ⟨hslice18, hackNrLt⟩ := slice_getUint16 hackNr
  refine ⟨?_, Nat.mod_lt _ (by decide), hconnIdLt, hseqNrLt, hackNrLt, ⟨Int.natCast_nonneg _, ?_⟩,
    ⟨Int.natCast_nonneg _, ?_⟩, hwindowSizeLt, getUint8_lt_256 hextension, last, hchain, rfl⟩
  · have hnibbles : first / 2 ^ 4 * 2 ^ 4 + first % 2 ^ 4 = first := Nat.div_add_mod' _ _
    have hsplit : slice bytes 0 HEADER_SIZE = slice bytes 0 1 ++ slice bytes 1 1 ++
        slice bytes 2 2 ++ slice bytes 4 4 ++ slice bytes 8 4 ++ slice bytes 12 4 ++
        slice bytes 16 2 ++ slice bytes 18 2 := by
      simp only [← slice_add bytes 0]
      rfl
    rw [hsplit, slice_getUint8 hfirst, slice_getUint8 hextension, hslice2, hslice4, hslice8,
      hslice12, hslice16, hslice18, encodeHeader, toNat_ofNibble (by omega), hnibbles]
  · change (timestamp : Int) < 2 ^ 32
    omega
  · change (difference : Int) < 2 ^ 32
    omega

theorem Decoded.toBytes {packet : UtpPacket} (hdecoded : Decoded bytes packet) {last : Nat}
    (hdata : packet.data = if last < bytes.length then some (bytes.drop last) else none) :
    packet.toBytes =
      slice bytes 0 HEADER_SIZE ++ (encodeExtensions packet.extensions ++ bytes.drop last) := by
  have hrest : packet.data.getD [] = bytes.drop last := by
    rw [hdata]
    split
    next => rfl
    next hlast => exact (List.drop_of_length_le (Nat.le_of_not_lt hlast)).symm
  rw [UtpPacket.toBytes, hdecoded.header, hrest, List.append_assoc]

/-! ## The chain -/

/-- A chain of known extensions that lies in the buffer. -/
inductive Recognized (bytes : Bytes) : Nat → Nat → Prop
  | done (offset : Nat) : Recognized bytes 0 offset
  | more {type offset next length : Nat} (htype : type = 1 ∨ type = 2)
      (hheader : HeaderAt bytes offset next length)
      (hinside : offset + EXTENSION_HEADER_SIZE + length ≤ bytes.length)
      (hrest : Recognized bytes next (offset + EXTENSION_HEADER_SIZE + length)) :
      Recognized bytes type offset

theorem listed_known (ackNr : Nat) {type : Nat} (htype : type = 1 ∨ type = 2) (payload : Bytes)
    (rest : List Extension) : announced (listed ackNr type payload rest) = type ∧
      encodeExtensions (listed ackNr type payload rest) = setUint8 (announced rest) ++
        setUint8 payload.length ++ payload ++ encodeExtensions rest := by
  rcases htype with rfl | rfl
  · exact ⟨rfl, encodeExtensions_cons _ _⟩
  · exact ⟨rfl, encodeExtensions_cons _ _⟩

theorem listed_unknown (ackNr : Nat) {type : Nat} (htype : ¬ (type = 1 ∨ type = 2))
    (payload : Bytes) (rest : List Extension) : listed ackNr type payload rest = rest := by
  unfold listed
  split
  next => exact absurd (.inl rfl) htype
  next => exact absurd (.inr rfl) htype
  next => rfl

/-- The next extension begins behind its header. -/
theorem HeaderAt.drop {offset next length : Nat} (hheader : HeaderAt bytes offset next length) :
    bytes.drop offset =
      setUint8 next ++ setUint8 length ++ bytes.drop (offset + EXTENSION_HEADER_SIZE) := by
  rw [slice_drop bytes offset EXTENSION_HEADER_SIZE, EXTENSION_HEADER_SIZE,
    slice_add bytes offset 1 1, slice_getUint8 hheader.1, slice_getUint8 hheader.2]

/-- The chain gets no longer. It gets shorter when its first extension is of an unknown type. -/
theorem encode_length_le {ackNr rounds type offset last : Nat} {extensions : List Extension}
    (hdecodes : decodeExtensions bytes ackNr rounds type offset = .ok (extensions, last)) :
    (encodeExtensions extensions ++ bytes.drop last).length ≤ bytes.length - offset ∧
      (2 < type → (encodeExtensions extensions ++ bytes.drop last).length <
        bytes.length - offset) := by
  induction rounds generalizing type offset extensions with
  | zero =>
      unfold decodeExtensions at hdecodes
      split at hdecodes
      next htype =>
        cases hdecodes
        rw [htype]
        exact ⟨(List.length_drop ..).le, fun hunknown => absurd hunknown (Nat.not_lt_zero 2)⟩
      next => cases hdecodes
  | succ rounds ih =>
      by_cases htype : type = 0
      · subst htype
        rw [decodeExtensions_done] at hdecodes
        cases hdecodes
        exact ⟨(List.length_drop ..).le, fun hunknown => absurd hunknown (Nat.not_lt_zero 2)⟩
      · obtain ⟨next, length, rest, hheader, -, hrest, rfl⟩ :=
          (decodeExtensions_succ_eq_ok htype).mp hdecodes
        have hlater := (ih hrest).1
        have hbound := getUint8_lt hheader.2
        rw [List.length_append] at hlater ⊢
        simp only [EXTENSION_HEADER_SIZE] at hlater
        by_cases hknown : type = 1 ∨ type = 2
        · rw [(listed_known ackNr hknown _ rest).2]
          have hpayload := slice_length bytes (offset + EXTENSION_HEADER_SIZE) length
          simp only [EXTENSION_HEADER_SIZE] at hpayload
          simp only [List.length_append, setUint8_length, EXTENSION_HEADER_SIZE]
          omega
        · rw [listed_unknown ackNr hknown]
          omega

theorem Recognized.encodes {type offset : Nat} (hrecognized : Recognized bytes type offset)
    {ackNr rounds last : Nat} {extensions : List Extension}
    (hdecodes : decodeExtensions bytes ackNr rounds type offset = .ok (extensions, last)) :
    announced extensions = type ∧
      encodeExtensions extensions ++ bytes.drop last = bytes.drop offset := by
  induction hrecognized generalizing rounds extensions with
  | done offset =>
      rw [decodeExtensions_done] at hdecodes
      cases hdecodes
      exact ⟨rfl, rfl⟩
  | @more type offset next length htype hheader hinside hrest ih =>
      have hpos : type ≠ 0 := by omega
      cases rounds with
      | zero =>
          rw [decodeExtensions, if_neg hpos] at hdecodes
          cases hdecodes
      | succ rounds =>
          obtain ⟨next', length', rest, hheader', -, hlater, rfl⟩ :=
            (decodeExtensions_succ_eq_ok hpos).mp hdecodes
          cases hheader.1.symm.trans hheader'.1
          cases hheader.2.symm.trans hheader'.2
          obtain ⟨hannounced, hencodes⟩ := ih hlater
          obtain ⟨hlisted, hencoded⟩ := listed_known ackNr htype
            (slice bytes (offset + EXTENSION_HEADER_SIZE) length) rest
          have hlength : (slice bytes (offset + EXTENSION_HEADER_SIZE) length).length = length := by
            rw [slice_length]
            omega
          refine ⟨hlisted, ?_⟩
          rw [hencoded, hannounced, hlength, List.append_assoc, hencodes, List.append_assoc,
            ← slice_drop, ← hheader.drop]

/-- Where the encoding is the buffer, the types are known and the lengths are right. -/
theorem recognized_of_encodes {ackNr rounds type offset last : Nat} {extensions : List Extension}
    (hdecodes : decodeExtensions bytes ackNr rounds type offset = .ok (extensions, last))
    (hencodes : encodeExtensions extensions ++ bytes.drop last = bytes.drop offset) :
    Recognized bytes type offset := by
  induction rounds generalizing type offset extensions with
  | zero =>
      unfold decodeExtensions at hdecodes
      split at hdecodes
      next htype => exact htype ▸ .done offset
      next => cases hdecodes
  | succ rounds ih =>
      by_cases htype : type = 0
      · exact htype ▸ .done offset
      · have hlength := (encode_length_le hdecodes).2
        rw [hencodes, List.length_drop] at hlength
        have hknown : type = 1 ∨ type = 2 := by omega
        obtain ⟨next, length, rest, hheader, -, hrest, rfl⟩ :=
          (decodeExtensions_succ_eq_ok htype).mp hdecodes
        have hbound := getUint8_lt hheader.2
        have hlengthLt := getUint8_lt_256 hheader.2
        have hpayload := slice_length bytes (offset + EXTENSION_HEADER_SIZE) length
        rw [(listed_known ackNr hknown _ rest).2, hheader.drop,
          slice_drop bytes (offset + EXTENSION_HEADER_SIZE) length] at hencodes
        simp only [setUint8, List.cons_append, List.nil_append, List.append_assoc,
          List.cons.injEq, List.append_cancel_left_eq] at hencodes
        obtain ⟨-, hsize, hbehind⟩ := hencodes
        -- The byte for the length counts what there is of the payload.
        have hcounted := congrArg UInt8.toNat hsize
        simp only [UInt8.toNat_ofNat'] at hcounted
        have hinside : offset + EXTENSION_HEADER_SIZE + length ≤ bytes.length := by
          simp only [EXTENSION_HEADER_SIZE] at hpayload hcounted ⊢
          omega
        exact .more hknown hheader hinside (ih hrest hbehind)

/-! ## The datagram and the packet -/

/-- A datagram with a selective acknowledgement, and one with an unknown extension before it. -/
def sampleChain (type : UInt8) : Bytes :=
  [0x21, type, 0, 7, 0, 0, 0, 1, 0, 0, 0, 2, 0, 0, 4, 0, 0, 5, 0, 9] ++
    (if type = 1 then [] else [1, 1, 0xff]) ++ [0, 4, 1, 0, 0, 0]

/-- What the decoder makes of the samples. -/
def sampleAnswer (type : Nat) : UtpPacket where
  type := .ST_STATE
  extension := type
  connId := 7
  timestampMicroseconds := 1
  timestampDifferenceMicroseconds := 2
  windowSize := 1024
  seqNr := 5
  ackNr := 9
  extensions := [.selectiveAck ⟨9, [1, 0, 0, 0]⟩]

/-- The encoding gives the datagram back when its chain is recognized. -/
theorem encode_decoded_iff {packet : UtpPacket} (hdecodes : fromBytes bytes = .ok packet) :
    packet.toBytes = bytes ↔ Recognized bytes packet.extension HEADER_SIZE := by
  have hdecoded := decoded_of_fromBytes hdecodes
  obtain ⟨last, hchain, hdata⟩ := hdecoded.chain
  have hsplit : slice bytes 0 HEADER_SIZE ++ bytes.drop HEADER_SIZE = bytes :=
    (slice_drop bytes 0 HEADER_SIZE).symm
  rw [hdecoded.toBytes hdata]
  constructor
  · intro hsame
    exact recognized_of_encodes hchain (List.append_cancel_left (hsame.trans hsplit.symm))
  · intro hrecognized
    rw [(hrecognized.encodes hchain).2, hsplit]

theorem encode_decoded_iff_sample : (sampleAnswer 1).toBytes = sampleChain 1 ↔
    Recognized (sampleChain 1) (sampleAnswer 1).extension HEADER_SIZE :=
  encode_decoded_iff (by decide)

/-- The decoder lists what suits its type. -/
theorem fits_of_decodes {ackNr rounds type offset last : Nat} {extensions : List Extension}
    (hdecodes : decodeExtensions bytes ackNr rounds type offset = .ok (extensions, last)) :
    ∀ extension ∈ extensions, ExtensionFits ackNr extension := by
  induction rounds generalizing type offset extensions with
  | zero =>
      unfold decodeExtensions at hdecodes
      split at hdecodes
      next =>
        cases hdecodes
        exact List.forall_mem_nil _
      next => cases hdecodes
  | succ rounds ih =>
      by_cases htype : type = 0
      · subst htype
        rw [decodeExtensions_done] at hdecodes
        cases hdecodes
        exact List.forall_mem_nil _
      · obtain ⟨next, length, rest, hheader, hformat, hrest, rfl⟩ :=
          (decodeExtensions_succ_eq_ok htype).mp hdecodes
        have hlengthLt := getUint8_lt_256 hheader.2
        have hpayload := slice_length bytes (offset + EXTENSION_HEADER_SIZE) length
        unfold listed
        split
        next =>
          have hgroups := hformat.1 rfl
          rw [List.forall_mem_cons]
          refine ⟨⟨rfl, hgroups, ?_⟩, ih hrest⟩
          change (slice bytes (offset + EXTENSION_HEADER_SIZE) length).length ≤ 252
          omega
        next => exact List.forall_mem_cons.mpr ⟨hformat.2 rfl, ih hrest⟩
        next => exact ih hrest

/-- The chain begins with the type that the header announces, if that type is known. -/
theorem announced_of_decodes {ackNr rounds type offset last : Nat} {extensions : List Extension}
    (hdecodes : decodeExtensions bytes ackNr rounds type offset = .ok (extensions, last))
    (hknown : type ≤ 2) : announced extensions = type := by
  by_cases htype : type = 0
  · subst htype
    rw [decodeExtensions_done] at hdecodes
    cases hdecodes
    rfl
  · cases rounds with
    | zero =>
        rw [decodeExtensions, if_neg htype] at hdecodes
        cases hdecodes
    | succ rounds =>
        obtain ⟨next, length, rest, -, -, -, rfl⟩ :=
          (decodeExtensions_succ_eq_ok htype).mp hdecodes
        exact (listed_known ackNr (by omega) _ rest).1

/-- A decoded packet comes back from another round through the codec when its header announces
no unknown type. -/
theorem reparse_iff {packet : UtpPacket} (hdecodes : fromBytes bytes = .ok packet) :
    fromBytes packet.toBytes = .ok packet ↔ packet.extension ≤ 2 := by
  have hdecoded := decoded_of_fromBytes hdecodes
  obtain ⟨last, hchain, hdata⟩ := hdecoded.chain
  constructor
  · intro hagain
    obtain ⟨last', hchain', hdata'⟩ := (decoded_of_fromBytes hagain).chain
    have hbytes := congrArg List.length ((decoded_of_fromBytes hagain).toBytes hdata')
    by_contra hunknown
    -- Behind the unknown extension there is no room for what the packet lists.
    have hshorter := (encode_length_le hchain').2 (Nat.lt_of_not_le hunknown)
    rw [List.length_append, slice_length] at hbytes
    omega
  · intro hknown
    have hpresent : packet.data ≠ some [] := by
      intro hempty
      rw [hdata] at hempty
      split at hempty
      next hlast =>
        have hnil := List.drop_eq_nil_iff.mp (Option.some.inj hempty)
        omega
      next => cases hempty
    have hencodable : packet.Encodable := {
      version := hdecoded.version
      connId := hdecoded.connId
      seqNr := hdecoded.seqNr
      ackNr := hdecoded.ackNr
      timestamp := hdecoded.timestamp
      difference := hdecoded.difference
      windowSize := hdecoded.windowSize
      fits := fits_of_decodes hchain
      announced := (announced_of_decodes hchain hknown).symm
      data := hpresent }
    have hannounced : packet.extension % 256 = announced packet.extensions := by
      rw [Nat.mod_eq_of_lt hdecoded.extension, hencodable.announced]
    have hfits := hencodable.fits
    rw [← Nat.mod_eq_of_lt hdecoded.ackNr] at hfits
    rw [fromBytes_toBytes packet hdecoded.version hannounced hfits hpresent, hencodable.narrow]

theorem reparse_iff_sample :
    fromBytes (sampleAnswer 3).toBytes = .ok (sampleAnswer 3) ↔ (sampleAnswer 3).extension ≤ 2 :=
  reparse_iff (show fromBytes (sampleChain 3) = .ok (sampleAnswer 3) by decide)

end UtpPacket

end Utp
