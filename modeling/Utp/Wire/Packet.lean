import Utp.Wire.Extension

/-! # The packet and its codec

A 20-byte big-endian header, a chain of extensions, and the payload. In memory
a field is an unbounded number; `toBytes` narrows it to its wire width.
-/

namespace Utp

/-- The packet types, and the nibbles no type is assigned to. -/
inductive UtpPacketType where
  | ST_DATA
  | ST_FIN
  | ST_STATE
  | ST_RESET
  | ST_SYN
  | reserved (code : Fin 11)
  deriving DecidableEq

namespace UtpPacketType

def toNat : UtpPacketType → Nat
  | .ST_DATA => 0
  | .ST_FIN => 1
  | .ST_STATE => 2
  | .ST_RESET => 3
  | .ST_SYN => 4
  | .reserved code => 5 + code

def ofNibble (nibble : Nat) : UtpPacketType :=
  match nibble with
  | 0 => .ST_DATA
  | 1 => .ST_FIN
  | 2 => .ST_STATE
  | 3 => .ST_RESET
  | 4 => .ST_SYN
  | rest + 5 => .reserved (Fin.ofNat 11 rest)

theorem toNat_lt (type : UtpPacketType) : type.toNat < 16 := by
  cases type with
  | reserved code =>
      have := code.isLt
      simp only [toNat]
      omega
  | _ => decide

theorem ofNibble_toNat (type : UtpPacketType) : ofNibble type.toNat = type := by
  cases type with
  | reserved code =>
      simp only [toNat, Nat.add_comm 5]
      exact congrArg reserved (by ext; simp [Fin.ofNat, Nat.mod_eq_of_lt code.isLt])
  | _ => rfl

end UtpPacketType

structure UtpPacket where
  type : UtpPacketType
  version : Nat := 1
  extension : Nat := 0
  connId : Nat
  timestampMicroseconds : Int := -1
  timestampDifferenceMicroseconds : Int := 0
  windowSize : Nat := 0
  seqNr : Nat := 0
  ackNr : Nat := 0
  extensions : List Extension := []
  data : Option Bytes := none
  deriving DecidableEq

namespace UtpPacket

def HEADER_SIZE : Nat := 20

def EXTENSION_HEADER_SIZE : Nat := 2

def MIN_PACKET_SIZE : Nat := 20

def MAX_PACKET_SIZE : Nat := 2 ^ 16

/-! ## Reading and writing numbers -/

/-- A byte of the view; reading past the end raises a `RangeError`. -/
def getUint8 (bytes : Bytes) (offset : Nat) : Except String Nat :=
  match bytes[offset]? with
  | some byte => .ok byte.toNat
  | none => .error "Offset is outside the bounds of the DataView"

def getUint16 (bytes : Bytes) (offset : Nat) : Except String Nat := do
  let high ← getUint8 bytes offset
  let low ← getUint8 bytes (offset + 1)
  pure (high * 2 ^ 8 + low)

def getUint32 (bytes : Bytes) (offset : Nat) : Except String Nat := do
  let high ← getUint16 bytes offset
  let low ← getUint16 bytes (offset + 2)
  pure (high * 2 ^ 16 + low)

def setUint8 (value : Nat) : Bytes := [UInt8.ofNat value]

def setUint16 (value : Nat) : Bytes := setUint8 (value / 2 ^ 8) ++ setUint8 value

/-- `setUint32` reduces its argument, which may be negative, modulo `2 ^ 32`. -/
def setUint32 (value : Int) : Bytes :=
  let word := (value % 2 ^ 32).toNat
  setUint16 (word / 2 ^ 16) ++ setUint16 word

/-! ## Decoding -/

/-- `bytes.slice(start, end)`, which stops at the end of the buffer. -/
def slice (bytes : Bytes) (start length : Nat) : Bytes := (bytes.drop start).take length

/-- One extension; an unknown type is skipped. -/
def decodeExtension (ackNr extensionType : Nat) (payload : Bytes) :
    Except String (List Extension) :=
  if extensionType = 1 then do
    let sack ← UtpSelectiveAckExtension.createFromBytes ackNr payload
    pure [.selectiveAck sack]
  else if extensionType = 2 then do
    let bits ← UtpExtensionBits.createFromBytes payload
    pure [.extensionBits bits]
  else pure []

/-- The extension loop from an offset on: the extensions in order, and the
offset behind the chain. Each round moves the offset on by at least two and
reads a byte there, so the length of the buffer bounds the rounds. -/
def decodeExtensions (bytes : Bytes) (ackNr : Nat) : Nat → Nat → Nat →
    Except String (List Extension × Nat)
  | 0, extensionType, offset =>
      if extensionType = 0 then .ok ([], offset)
      else .error "Offset is outside the bounds of the DataView"
  | rounds + 1, extensionType, offset =>
      if extensionType = 0 then .ok ([], offset)
      else do
        let nextExtensionType ← getUint8 bytes offset
        let extensionLength ← getUint8 bytes (offset + 1)
        let payload := slice bytes (offset + EXTENSION_HEADER_SIZE) extensionLength
        let extension ← decodeExtension ackNr extensionType payload
        let (extensions, last) ← decodeExtensions bytes ackNr rounds nextExtensionType
          (offset + EXTENSION_HEADER_SIZE + extensionLength)
        pure (extension ++ extensions, last)

def fromBytes (bytes : Bytes) : Except String UtpPacket := do
  let first ← getUint8 bytes 0
  let extension ← getUint8 bytes 1
  let connId ← getUint16 bytes 2
  let timestampMicroseconds ← getUint32 bytes 4
  let timestampDifferenceMicroseconds ← getUint32 bytes 8
  let windowSize ← getUint32 bytes 12
  let seqNr ← getUint16 bytes 16
  let ackNr ← getUint16 bytes 18
  let (extensions, offset) ← decodeExtensions bytes ackNr bytes.length extension HEADER_SIZE
  pure
    { type := .ofNibble (first / 2 ^ 4)
      version := first % 2 ^ 4
      extension := extension
      connId := connId
      timestampMicroseconds := timestampMicroseconds
      timestampDifferenceMicroseconds := timestampDifferenceMicroseconds
      windowSize := windowSize
      seqNr := seqNr
      ackNr := ackNr
      extensions := extensions
      data := if offset < bytes.length then some (bytes.drop offset) else none }

/-! ## Encoding -/

/-- The chain: each extension is preceded by the type of the next and its own
length in one byte. -/
def encodeExtensions : List Extension → Bytes
  | [] => []
  | extension :: rest =>
      setUint8 (match rest with | [] => 0 | next :: _ => next.type) ++
        setUint8 extension.toBytes.length ++ extension.toBytes ++ encodeExtensions rest

def encodeHeader (self : UtpPacket) : Bytes :=
  setUint8 (self.type.toNat * 2 ^ 4 + self.version) ++ setUint8 self.extension ++
    setUint16 self.connId ++ setUint32 self.timestampMicroseconds ++
    setUint32 self.timestampDifferenceMicroseconds ++ setUint32 self.windowSize ++
    setUint16 self.seqNr ++ setUint16 self.ackNr

def toBytes (self : UtpPacket) : Bytes :=
  self.encodeHeader ++ encodeExtensions self.extensions ++ self.data.getD []

def length (self : UtpPacket) : Nat :=
  HEADER_SIZE + (2 * self.extensions.length +
    (self.extensions.map fun extension => extension.toBytes.length).sum +
    (self.data.map List.length).getD 0)

/-! ## Validation and the SACK extension -/

/-- The size checks, the full decoder, then the checks on the decoded fields.
The field ranges the code tests besides version and type hold of every decoded
packet. A failure of the decoder is not caught. -/
def isPacket (buffer : Bytes) : Except String Bool :=
  if buffer.length < MIN_PACKET_SIZE then .ok false
  else if MAX_PACKET_SIZE < buffer.length then .ok false
  else do
    let decodedPacket ← fromBytes buffer
    pure (decide (decodedPacket.version = 1) && decide (decodedPacket.type.toNat ≤ 4) &&
      decide (decodedPacket.extension ≤ 255) && decide (decodedPacket.connId ≤ 65535) &&
      decide (0 ≤ decodedPacket.timestampMicroseconds) &&
      decide (0 ≤ decodedPacket.timestampDifferenceMicroseconds) &&
      decide (decodedPacket.seqNr ≤ 65535) && decide (decodedPacket.ackNr ≤ 65535))

def sackExtension (self : UtpPacket) : Option UtpSelectiveAckExtension :=
  self.extensions.findSome? fun
    | .selectiveAck sack => some sack
    | .extensionBits _ => none

/-- The packets that need an acknowledgement. -/
def isReliable (self : UtpPacket) : Bool := self.type = .ST_DATA || self.type = .ST_FIN

/-- What a packet adds to the byte stream. -/
def payload (packet : UtpPacket) : Bytes :=
  if packet.type = .ST_DATA then packet.data.getD [] else []

end UtpPacket

end Utp
