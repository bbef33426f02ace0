import Utp.Wire.Packet

/-! # Encoding and decoding

What the decoder makes of an encoded packet: the fields narrowed to their widths
on the wire, the chain as it was written, and the data behind it.
-/

namespace Utp

namespace UtpPacket

/-! ## Numbers -/

@[simp] theorem setUint8_length (value : Nat) : (setUint8 value).length = 1 := rfl

@[simp] theorem setUint16_length (value : Nat) : (setUint16 value).length = 2 := rfl

@[simp] theorem setUint32_length (value : Int) : (setUint32 value).length = 4 := rfl

/-- The field stands in the buffer from the offset on. -/
def Stores (bytes : Bytes) (offset : Nat) (field : Bytes) : Prop :=
  ∃ front back, bytes = front ++ field ++ back ∧ front.length = offset

/-- The first part of a stored field is stored at its offset. -/
theorem Stores.left {bytes : Bytes} {offset : Nat} {first second : Bytes}
    (hstores : Stores bytes offset (first ++ second)) : Stores bytes offset first := by
  obtain ⟨front, back, hbytes, hfront⟩ := hstores
  refine ⟨front, second ++ back, ?_, hfront⟩
  rw [hbytes]
  simp only [List.append_assoc]

/-- The second part is stored behind the first. -/
theorem Stores.right {bytes : Bytes} {offset : Nat} {first second : Bytes}
    (hstores : Stores bytes offset (first ++ second)) :
    Stores bytes (offset + first.length) second := by
  obtain ⟨front, back, hbytes, hfront⟩ := hstores
  refine ⟨front ++ first, back, ?_, ?_⟩
  · rw [hbytes]
    simp only [List.append_assoc]
  · rw [List.length_append, hfront]

/-- A byte reads back without what does not fit into it. -/
theorem Stores.getUint8 {bytes : Bytes} {offset value : Nat}
    (hstores : Stores bytes offset (setUint8 value)) :
    UtpPacket.getUint8 bytes offset = .ok (value % 256) := by
  obtain ⟨front, back, rfl, rfl⟩ := hstores
  have hget : (front ++ setUint8 value ++ back)[front.length]? = some (UInt8.ofNat value) := by
    rw [List.append_assoc, List.getElem?_append_right (Nat.le_refl _), Nat.sub_self]
    rfl
  rw [UtpPacket.getUint8, hget]
  simp

/-- So do two bytes, -/
theorem Stores.getUint16 {bytes : Bytes} {offset value : Nat}
    (hstores : Stores bytes offset (setUint16 value)) :
    UtpPacket.getUint16 bytes offset = .ok (value % 65536) := by
  have hhigh := (Stores.left hstores).getUint8
  have hlow := (Stores.right hstores).getUint8
  rw [setUint8_length] at hlow
  rw [UtpPacket.getUint16, hhigh, hlow]
  refine congrArg Except.ok ?_
  omega

/-- and so do four. -/
theorem Stores.getUint32 {bytes : Bytes} {offset : Nat} {value : Int}
    (hstores : Stores bytes offset (setUint32 value)) :
    UtpPacket.getUint32 bytes offset = .ok (value % 2 ^ 32).toNat := by
  have hhigh := (Stores.left hstores).getUint16
  have hlow := (Stores.right hstores).getUint16
  rw [setUint16_length] at hlow
  rw [UtpPacket.getUint32, hhigh, hlow]
  refine congrArg Except.ok ?_
  show (value % 2 ^ 32).toNat / 2 ^ 16 % 65536 * 2 ^ 16 + (value % 2 ^ 32).toNat % 65536 = _
  omega

/-- The stored bytes read back as a slice. -/
theorem Stores.slice {bytes field : Bytes} {offset : Nat} (hstores : Stores bytes offset field) :
    UtpPacket.slice bytes offset field.length = field := by
  obtain ⟨front, back, rfl, rfl⟩ := hstores
  rw [UtpPacket.slice, List.append_assoc, List.drop_left, List.take_left]

/-! ## The header -/

@[simp] theorem encodeHeader_length (self : UtpPacket) :
    self.encodeHeader.length = HEADER_SIZE := rfl

/-- The fields as they come out of the header. -/
def narrow (self : UtpPacket) : UtpPacket :=
  { self with
    extension := self.extension % 256
    connId := self.connId % 65536
    timestampMicroseconds := self.timestampMicroseconds % 2 ^ 32
    timestampDifferenceMicroseconds := self.timestampDifferenceMicroseconds % 2 ^ 32
    windowSize := self.windowSize % 2 ^ 32
    seqNr := self.seqNr % 65536
    ackNr := self.ackNr % 65536 }

/-- The connection id as a reader of the datagram finds it. -/
theorem getUint16_connId (self : UtpPacket) :
    getUint16 self.toBytes 2 = .ok (self.connId % 65536) := by
  have hheader : Stores self.toBytes 0 self.encodeHeader :=
    ⟨[], encodeExtensions self.extensions ++ self.data.getD [], by
      rw [toBytes, List.append_assoc]
      rfl, rfl⟩
  exact hheader.left.left.left.left.left.right.getUint16

/-- Type and version share a byte. -/
theorem nibbles (self : UtpPacket) (hversion : self.version < 16) :
    UtpPacketType.ofNibble ((self.type.toNat * 2 ^ 4 + self.version) % 256 / 2 ^ 4) = self.type ∧
      (self.type.toNat * 2 ^ 4 + self.version) % 256 % 2 ^ 4 = self.version := by
  have htype := self.type.toNat_lt
  have hnibble : (self.type.toNat * 2 ^ 4 + self.version) % 256 / 2 ^ 4 = self.type.toNat := by
    omega
  refine ⟨?_, by omega⟩
  rw [hnibble, UtpPacketType.ofNibble_toNat]

/-- The decoder reads the fields of an encoded header back, as far as they fit their widths. -/
theorem fromBytes_header (self : UtpPacket) (hversion : self.version < 16) (tail : Bytes) :
    fromBytes (self.encodeHeader ++ tail) =
      (decodeExtensions (self.encodeHeader ++ tail) (self.ackNr % 65536)
        (self.encodeHeader ++ tail).length (self.extension % 256) HEADER_SIZE).map
        fun (extensions, offset) => { self.narrow with
          extensions := extensions
          data := if offset < (self.encodeHeader ++ tail).length then
              some ((self.encodeHeader ++ tail).drop offset)
            else none } := by
  generalize hbytes : self.encodeHeader ++ tail = bytes
  have hheader : Stores bytes 0 self.encodeHeader := ⟨[], tail, hbytes.symm, rfl⟩
  have hfirst := hheader.left.left.left.left.left.left.left.getUint8
  have hextension : getUint8 bytes 1 = .ok (self.extension % 256) :=
    hheader.left.left.left.left.left.left.right.getUint8
  have hconnId : getUint16 bytes 2 = .ok (self.connId % 65536) :=
    hheader.left.left.left.left.left.right.getUint16
  have htimestamp : getUint32 bytes 4 = .ok (self.timestampMicroseconds % 2 ^ 32).toNat :=
    hheader.left.left.left.left.right.getUint32
  have hdifference : getUint32 bytes 8 =
      .ok (self.timestampDifferenceMicroseconds % 2 ^ 32).toNat :=
    hheader.left.left.left.right.getUint32
  have hwindow : getUint32 bytes 12 = .ok ((self.windowSize : Int) % 2 ^ 32).toNat :=
    hheader.left.left.right.getUint32
  have hseqNr : getUint16 bytes 16 = .ok (self.seqNr % 65536) := hheader.left.right.getUint16
  have hackNr : getUint16 bytes 18 = .ok (self.ackNr % 65536) := hheader.right.getUint16
  obtain ⟨htype, hversion'⟩ := self.nibbles hversion
  have hwindow' : ((self.windowSize : Int) % 2 ^ 32).toNat = self.windowSize % 2 ^ 32 := by omega
  have htimestamp' := Int.toNat_of_nonneg
    (Int.emod_nonneg self.timestampMicroseconds (show (2 ^ 32 : Int) ≠ 0 by decide))
  have hdifference' := Int.toNat_of_nonneg
    (Int.emod_nonneg self.timestampDifferenceMicroseconds (show (2 ^ 32 : Int) ≠ 0 by decide))
  unfold fromBytes
  rw [hfirst, hextension, hconnId, htimestamp, hdifference, hwindow, hseqNr, hackNr]
  show (decodeExtensions bytes _ _ _ _).bind _ = _
  cases decodeExtensions bytes (self.ackNr % 65536) bytes.length (self.extension % 256)
      HEADER_SIZE with
  | error => rfl
  | ok result =>
      refine congrArg Except.ok ?_
      rw [htype, hversion', hwindow', htimestamp', hdifference']
      rfl

/-! ## The chain of extensions -/

/-- The type by which the header, or the extension before, announces the first of a chain. -/
def announced : List Extension → Nat
  | [] => 0
  | extension :: _ => extension.type

/-- The chain of extensions, each announced by the one before it. -/
theorem encodeExtensions_cons (extension : Extension) (rest : List Extension) :
    encodeExtensions (extension :: rest) = setUint8 (announced rest) ++
      setUint8 extension.toBytes.length ++ extension.toBytes ++ encodeExtensions rest := by
  cases rest <;> rfl

/-- The length of the chain. -/
theorem encodeExtensions_length (extensions : List Extension) :
    (encodeExtensions extensions).length = 2 * extensions.length +
      (extensions.map fun extension => extension.toBytes.length).sum := by
  induction extensions with
  | nil => rfl
  | cons extension rest ih =>
      rw [encodeExtensions_cons, List.length_append, List.length_append, List.length_append, ih,
        List.map_cons, List.sum_cons, List.length_cons, setUint8_length, setUint8_length]
      omega

/-- The encoder writes as many bytes as the `length` of the packet says. -/
theorem toBytes_length (self : UtpPacket) : self.toBytes.length = self.length := by
  rw [toBytes, List.length_append, List.length_append, encodeHeader_length,
    encodeExtensions_length, length]
  cases self.data with
  | none => rfl
  | some data => exact Nat.add_assoc _ _ _

/-- The length of an extension fits into its byte and suits its type. The decoder counts
a SACK from the packet's own acknowledgement number. -/
def ExtensionFits (ackNr : Nat) : Extension → Prop
  | .selectiveAck sack =>
      sack.base = ackNr ∧ sack.bitmask.length % 4 = 0 ∧ sack.bitmask.length ≤ 252
  | .extensionBits bits => bits.bits.length = UtpExtensionBits.BITS_LENGTH

/-- An extension that fits has its length in one byte. -/
theorem ExtensionFits.length_lt {ackNr : Nat} {extension : Extension}
    (hfits : ExtensionFits ackNr extension) : extension.toBytes.length < 256 := by
  cases extension with
  | selectiveAck sack => exact Nat.lt_of_le_of_lt hfits.2.2 (by decide)
  | extensionBits bits =>
      have hlength : bits.bits.length = 8 := hfits
      show bits.bits.length < 256
      omega

/-- An extension that fits is decoded to itself. -/
theorem ExtensionFits.decode {ackNr : Nat} {extension : Extension}
    (hfits : ExtensionFits ackNr extension) :
    decodeExtension ackNr extension.type extension.toBytes = .ok [extension] := by
  cases extension with
  | selectiveAck sack =>
      obtain ⟨hbase, hgroups, -⟩ := hfits
      have hcreate : UtpSelectiveAckExtension.createFromBytes ackNr sack.bitmask = .ok sack := by
        rw [UtpSelectiveAckExtension.createFromBytes, if_neg (by omega), ← hbase]
      show (UtpSelectiveAckExtension.createFromBytes ackNr sack.bitmask).bind _ = _
      rw [hcreate]
      rfl
  | extensionBits bits =>
      have hcreate : UtpExtensionBits.createFromBytes bits.bits = .ok bits := by
        have hlength : bits.bits.length = UtpExtensionBits.BITS_LENGTH := hfits
        rw [UtpExtensionBits.createFromBytes, if_neg (not_not.mpr hlength)]
      show (UtpExtensionBits.createFromBytes bits.bits).bind _ = _
      rw [hcreate]
      rfl

theorem extensionType_ne_zero (extension : Extension) : extension.type ≠ 0 := by
  cases extension <;> exact nofun

theorem announced_lt (extensions : List Extension) : announced extensions < 256 := by
  cases extensions with
  | nil => exact Nat.zero_lt_succ _
  | cons extension rest => cases extension <;> exact Nat.lt_of_sub_pos (Nat.zero_lt_succ _)

/-- The decoder walks the chain as it was written. -/
theorem decodeExtensions_encode {bytes : Bytes} {ackNr : Nat} {extensions : List Extension}
    (hfits : ∀ extension ∈ extensions, ExtensionFits ackNr extension) {offset rounds : Nat}
    (hstores : Stores bytes offset (encodeExtensions extensions))
    (hrounds : extensions.length ≤ rounds) :
    decodeExtensions bytes ackNr rounds (announced extensions) offset =
      .ok (extensions, offset + (encodeExtensions extensions).length) := by
  induction extensions generalizing offset rounds with
  | nil => cases rounds <;> rfl
  | cons extension rest ih =>
      obtain ⟨hfit, hrest⟩ := List.forall_mem_cons.mp hfits
      rw [encodeExtensions_cons] at hstores ⊢
      cases rounds with
      | zero => cases hrounds
      | succ rounds =>
          have hnext := hstores.left.left.left.getUint8
          have hlength : getUint8 bytes (offset + 1) = .ok (extension.toBytes.length % 256) :=
            hstores.left.left.right.getUint8
          have hpayload : slice bytes (offset + EXTENSION_HEADER_SIZE) extension.toBytes.length =
            extension.toBytes := hstores.left.right.slice
          rw [Nat.mod_eq_of_lt (announced_lt rest)] at hnext
          rw [Nat.mod_eq_of_lt hfit.length_lt] at hlength
          have hlater := ih hrest hstores.right (Nat.le_of_succ_le_succ hrounds)
          simp only [List.length_append, setUint8_length, ← Nat.add_assoc] at hlater ⊢
          rw [announced, decodeExtensions, if_neg (extensionType_ne_zero extension), hnext, hlength]
          show (decodeExtension ackNr extension.type (slice bytes _ _)).bind _ = _
          rw [hpayload, hfit.decode]
          show (decodeExtensions bytes ackNr rounds (announced rest) _).bind _ = _
          rw [show offset + EXTENSION_HEADER_SIZE + extension.toBytes.length =
            offset + 1 + 1 + extension.toBytes.length from rfl, hlater]
          rfl

/-! ## The round trip -/

/-- A packet comes back with its fields narrowed to their widths on the wire. -/
theorem fromBytes_toBytes (self : UtpPacket) (hversion : self.version < 16)
    (hannounced : self.extension % 256 = announced self.extensions)
    (hfits : ∀ extension ∈ self.extensions, ExtensionFits (self.ackNr % 65536) extension)
    (hdata : self.data ≠ some []) : fromBytes self.toBytes = .ok self.narrow := by
  have hstores : Stores self.toBytes HEADER_SIZE (encodeExtensions self.extensions) :=
    ⟨self.encodeHeader, self.data.getD [], rfl, rfl⟩
  have hmany : self.extensions.length ≤ self.toBytes.length := by
    rw [toBytes_length, length]
    omega
  have hchain := decodeExtensions_encode hfits hstores hmany
  have hsplit : self.toBytes = self.encodeHeader ++
      (encodeExtensions self.extensions ++ self.data.getD []) := List.append_assoc _ _ _
  rw [hsplit, fromBytes_header self hversion, ← hsplit, hannounced, hchain]
  refine congrArg Except.ok ?_
  have hlength : self.toBytes.length =
      HEADER_SIZE + (encodeExtensions self.extensions).length + (self.data.getD []).length := by
    rw [toBytes, List.length_append, List.length_append, encodeHeader_length]
  have hdrop : self.toBytes.drop (HEADER_SIZE + (encodeExtensions self.extensions).length) =
      self.data.getD [] := by
    rw [toBytes, ← encodeHeader_length self, ← List.length_append, List.drop_left]
  have hpresent : (if HEADER_SIZE + (encodeExtensions self.extensions).length <
      self.toBytes.length then some (self.toBytes.drop (HEADER_SIZE +
        (encodeExtensions self.extensions).length)) else none) = self.data := by
    rw [hdrop, hlength]
    cases hself : self.data with
    | none => rw [Option.getD_none, List.length_nil, if_neg (by omega)]
    | some data =>
        have hpos : 0 < data.length :=
          List.length_pos_iff.mpr fun hempty => hdata (by rw [hself, hempty])
        rw [Option.getD_some, if_pos (by omega)]
  show ({ self.narrow with extensions := _, data := _ } : UtpPacket) = self.narrow
  rw [hpresent]
  rfl

/-- A packet whose fields fit their widths on the wire. -/
structure Encodable (packet : UtpPacket) : Prop where
  version : packet.version < 16
  connId : packet.connId < 65536
  seqNr : packet.seqNr < 65536
  ackNr : packet.ackNr < 65536
  timestamp : 0 ≤ packet.timestampMicroseconds ∧ packet.timestampMicroseconds < 2 ^ 32
  difference : 0 ≤ packet.timestampDifferenceMicroseconds ∧
    packet.timestampDifferenceMicroseconds < 2 ^ 32
  windowSize : packet.windowSize < 2 ^ 32
  fits : ∀ extension ∈ packet.extensions, ExtensionFits packet.ackNr extension
  announced : packet.extension = announced packet.extensions
  data : packet.data ≠ some []

/-- An encodable packet has nothing to narrow. -/
theorem Encodable.narrow {self : UtpPacket} (hself : self.Encodable) : self.narrow = self := by
  have hextension := announced_lt self.extensions
  rw [← hself.announced] at hextension
  simp only [UtpPacket.narrow, Nat.mod_eq_of_lt hself.connId, Nat.mod_eq_of_lt hself.seqNr,
    Nat.mod_eq_of_lt hself.ackNr, Nat.mod_eq_of_lt hself.windowSize, Nat.mod_eq_of_lt hextension,
    Int.emod_eq_of_lt hself.timestamp.1 hself.timestamp.2,
    Int.emod_eq_of_lt hself.difference.1 hself.difference.2]

/-- Decoding the encoded packet gives the packet back, and the encoding is as long as
`length` says. -/
theorem decode_encode {self : UtpPacket} (hself : self.Encodable) :
    fromBytes self.toBytes = .ok self ∧ self.toBytes.length = self.length := by
  refine ⟨?_, self.toBytes_length⟩
  have hannounced : self.extension % 256 = UtpPacket.announced self.extensions := by
    rw [hself.announced, Nat.mod_eq_of_lt (announced_lt self.extensions)]
  have hfits := hself.fits
  rw [← Nat.mod_eq_of_lt hself.ackNr] at hfits
  rw [fromBytes_toBytes self hself.version hannounced hfits hself.data, hself.narrow]

/-- An acknowledgement with both kinds of extension, and data. -/
def sampleAck : UtpPacket where
  type := .ST_STATE
  extension := 1
  connId := 7
  timestampMicroseconds := 1000
  windowSize := 262144
  seqNr := 65535
  ackNr := 9
  extensions := [.selectiveAck ⟨9, [5, 0, 0, 0]⟩, .extensionBits .create]
  data := some [1, 2, 3]

/-- A packet with a SACK, its bits, and data. -/
theorem decode_encode_sample :
    fromBytes sampleAck.toBytes = .ok sampleAck ∧ sampleAck.toBytes.length = sampleAck.length :=
  decode_encode
    { version := by decide
      connId := by decide
      seqNr := by decide
      ackNr := by decide
      timestamp := by decide
      difference := by decide
      windowSize := by decide
      fits := by simp [sampleAck, ExtensionFits, UtpExtensionBits.create]
      announced := rfl
      data := by decide }

end UtpPacket

end Utp
