import CWUSB.Library.Memory
import CWUSB.Library.Stitching

/-!
# Constants and packets of the USB side

The sizes, magic numbers and headers spoken on the wire, and the fixed-size
packets which travel through the queues.  Headers are packed and stored with
the least significant byte first, as on both ends of the cable.
-/

namespace CWUSB

@[simp] abbrev cMaxUSBPacketSize : Nat := 512

/-- The maximum 802.11 MTU. -/
@[simp] abbrev cMaxAsynchronousBuffer : Nat := 2304

@[simp] abbrev cAdhocRedirectorVersion : Nat := 190

/-! ## `eMagicType` and `HostFsCommands` -/

@[simp] abbrev HostFS : Nat := 0x782F0812
@[simp] abbrev Asynchronous : Nat := 0x782F0813
@[simp] abbrev DebugPrint : Nat := 0x909ACCEF
@[simp] abbrev Hello : Nat := 0x8FFC * 65536 + cAdhocRedirectorVersion

/-! ## Header sizes and field values -/

@[simp] abbrev cAsyncHeaderSize : Nat := 8
@[simp] abbrev cAsyncHeaderAndSubHeaderSize : Nat := 24
@[simp] abbrev cHostFSHeaderSize : Nat := 12

@[simp] abbrev cAsyncModeDebug : Nat := 1
@[simp] abbrev cAsyncModePacket : Nat := 2
@[simp] abbrev cAsyncCommandSendPacket : Nat := 77
@[simp] abbrev cAsyncUserChannel : Nat := 4

/-- `AsyncCommand`: magic, then channel. -/
def asyncCommandBytes (channel : Nat) : List UInt8 :=
  wordBytes Asynchronous ++ wordBytes channel

/-- `AsyncSubHeader`: magic, mode, size and ref, in this order. -/
def asyncSubHeaderBytes (mode size ref : Nat) : List UInt8 :=
  wordBytes DebugPrint ++ wordBytes mode ++ wordBytes size ++ wordBytes ref

@[simp] theorem length_asyncCommandBytes (channel : Nat) :
    (asyncCommandBytes channel).length = 8 := rfl

@[simp] theorem length_asyncSubHeaderBytes (mode size ref : Nat) :
    (asyncSubHeaderBytes mode size ref).length = 16 := rfl

/-! ## Packets -/

structure BinaryStitchWiFiPacket where
  data : FixedArray UInt8 cMaxAsynchronousBuffer
  length : UInt16
  stitch : Bool
deriving DecidableEq

structure BinaryStitchUSBPacket where
  data : FixedArray UInt8 cMaxUSBPacketSize
  length : UInt16
  stitch : Bool
deriving DecidableEq

structure BinaryWiFiPacket where
  data : FixedArray UInt8 cMaxAsynchronousBuffer
  length : UInt16
deriving DecidableEq

/-- The value-initialized packet `{}`. -/
def BinaryStitchWiFiPacket.zero : BinaryStitchWiFiPacket :=
  { data := .fill _ 0, length := 0, stitch := false }

def BinaryStitchUSBPacket.zero : BinaryStitchUSBPacket :=
  { data := .fill _ 0, length := 0, stitch := false }

def BinaryWiFiPacket.zero : BinaryWiFiPacket :=
  { data := .fill _ 0, length := 0 }

namespace BinaryStitchUSBPacket

/-- The bytes of a packet up to its length. -/
def bytes (packet : BinaryStitchUSBPacket) : List UInt8 :=
  packet.data.slice 0 packet.length.toNat

/-- A received packet seen as a piece of a stitched message. -/
def piece (packet : BinaryStitchUSBPacket) : Stitching.Piece UInt8 :=
  { body := packet.bytes, more := packet.stitch }

/-- The length does not exceed the data array. -/
def WellFormed (packet : BinaryStitchUSBPacket) : Prop :=
  packet.length.toNat ≤ cMaxUSBPacketSize

theorem WellFormed.length_bytes {packet : BinaryStitchUSBPacket}
    (wellFormed : packet.WellFormed) :
    packet.bytes.length = packet.length.toNat := by
  apply FixedArray.length_slice_of_le
  rw [Nat.zero_add]
  exact wellFormed

end BinaryStitchUSBPacket

end CWUSB
