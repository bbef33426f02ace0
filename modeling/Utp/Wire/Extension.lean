import Mathlib.Data.List.Sort
import Utp.Buffer.BlockingBuffer
import Utp.Util.Seq

/-! # Packet extensions

Selective acknowledgement (type 1) and extension bits (type 2). Bit `j` of the
SACK bitmask stands for the packet `ackNr + 2 + j`; within a byte the lowest
bit comes first.
-/

namespace Utp

/-! ## Selective acknowledgement -/

structure UtpSelectiveAckExtension where
  base : Nat
  bitmask : Bytes
  deriving DecidableEq

namespace UtpSelectiveAckExtension

/-- `bitmask[byteIndex] & (1 << bitOffset)` of the bit at a position. -/
def testBit (bitmask : Bytes) (position : Nat) : Bool :=
  (bitmask.getD (position / 8) 0).toNat.testBit (position % 8)

/-- `bitmask[byteIndex] |= (1 << bitPosition)` -/
def setBit (bitmask : Bytes) (position : Nat) : Bytes :=
  bitmask.modify (position / 8) fun byte => byte ||| UInt8.ofNat (1 <<< (position % 8))

def createFromBytes (localAckNr : Nat) (bitmask : Bytes) :
    Except String UtpSelectiveAckExtension :=
  if bitmask.length % (32 / 8) ≠ 0 then
    .error s!"bitmask length must be a multiple of 32, but got {bitmask.length}"
  else .ok ⟨localAckNr, bitmask⟩

/-- Bytes for bits up to a forward distance: whole groups of four, at least one. -/
def bitmaskLength (lastDistance : Nat) : Nat :=
  let totalLength := lastDistance + 1
  let bytesLength := (totalLength + 7) / 8
  max 4 ((bytesLength + 3) / 4 * 4)

/-- Set the bit of one received number, if it lies ahead of `firstSeq`. -/
def markReceived (firstSeq : Nat) (bitmask : Bytes) (seqNr : Nat) : Bytes :=
  if Seq.ge seqNr firstSeq && decide (Seq.diff seqNr firstSeq < bitmask.length * 8) then
    setBit bitmask (Seq.diff seqNr firstSeq)
  else bitmask

/-- `seqNrs` sorted by their forward distance from `firstSeq`. -/
def sortFrom (firstSeq : Nat) (seqNrs : List Nat) : List Nat :=
  seqNrs.insertionSort fun a b => Seq.diff a firstSeq ≤ Seq.diff b firstSeq

def create (localAckNr : Nat) (recvRemoteSeqNrs : List Nat) : Option UtpSelectiveAckExtension :=
  let firstSeq := Seq.add localAckNr 2
  let seqNrs := sortFrom firstSeq recvRemoteSeqNrs
  match seqNrs.getLast? with
  | none => none
  | some lastSeq =>
      let bitmask := List.replicate (bitmaskLength (Seq.diff lastSeq firstSeq)) 0
      some ⟨localAckNr, seqNrs.foldl (markReceived firstSeq) bitmask⟩

/-- The numbers whose bit is set, in the order of the bits. -/
def getRemoteReceivedSeqNrs (self : UtpSelectiveAckExtension) : List Nat :=
  ((List.range (self.bitmask.length * 8)).filter (testBit self.bitmask)).map fun position =>
    Seq.add (Seq.add self.base 2) position

/-- `base + 1` and the numbers whose bit is clear. -/
def getRemoteNotReceivedSeqNrs (self : UtpSelectiveAckExtension) : List Nat :=
  Seq.add self.base 1 ::
    ((List.range (self.bitmask.length * 8)).filter fun position =>
      !testBit self.bitmask position).map fun position =>
        Seq.add (Seq.add self.base 2) position

end UtpSelectiveAckExtension

/-! ## Extension bits -/

structure UtpExtensionBits where
  bits : Bytes
  deriving DecidableEq

namespace UtpExtensionBits

def BITS_LENGTH : Nat := 8

def create : UtpExtensionBits := ⟨List.replicate BITS_LENGTH 0⟩

def createFromBytes (payload : Bytes) : Except String UtpExtensionBits :=
  if payload.length ≠ BITS_LENGTH then
    .error s!"Extension Bits payload must be {BITS_LENGTH} bytes, got {payload.length}"
  else .ok ⟨payload⟩

end UtpExtensionBits

/-! ## The common interface -/

inductive Extension where
  | selectiveAck (sack : UtpSelectiveAckExtension)
  | extensionBits (bits : UtpExtensionBits)
  deriving DecidableEq

namespace Extension

/-- The code of `ExtensionType`. -/
def type : Extension → Nat
  | .selectiveAck _ => 1
  | .extensionBits _ => 2

def toBytes : Extension → Bytes
  | .selectiveAck sack => sack.bitmask
  | .extensionBits bits => bits.bits

end Extension

end Utp
