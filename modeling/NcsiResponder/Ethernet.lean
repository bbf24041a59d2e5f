import NcsiResponder.Types

/-!
# NC-SI wire layout (Ethernet.h)

The structs of Ethernet.h are packed and made of single bytes, so a field is a
byte offset. Requests are read at these offsets from received memory; responses
are built in `NetworkFrame`s, the 74-byte union `NetworkFrame_t`.
-/

namespace NcsiResponder

/-! ## Sizes and constants -/

/-- Hardware adds the frame check sequence (last 4 bytes). -/
def ethernetFrameMin : Nat := 64 - 4

def etherTypeNcsiHi : UInt8 := 0x88
def etherTypeNcsiLo : UInt8 := 0xf8
def etherTypeNcsi : UInt16 := 0x88f8

def sizeofControlPacketHeader : Nat := 30
def sizeofResponsePacketHeader : Nat := 38
def sizeofLinkStatusResponsePacketHeader : Nat := 50
def sizeofCapabilitiesResponsePacket : Nat := 66
def sizeofVersionResponsePacket : Nat := 74

/-- The union is as large as its largest member, the Get Version ID response. -/
def sizeofNetworkFrame : Nat := sizeofVersionResponsePacket

/-! ## Control packet types -/

namespace ControlPacketType

def response : UInt8 := 0x80
def clearInitialState : UInt8 := 0x00
def selectPackage : UInt8 := 0x01
def deselectPackage : UInt8 := 0x02
def enableChannel : UInt8 := 0x03
def disableChannel : UInt8 := 0x04
def resetChannel : UInt8 := 0x05
def enableChannelNetworkTX : UInt8 := 0x06
def disableChannelNetworkTX : UInt8 := 0x07
def aenEnable : UInt8 := 0x08
def setLink : UInt8 := 0x09
def getLinkStatus : UInt8 := 0x0A
def setVLANFilter : UInt8 := 0x0B
def enableVLAN : UInt8 := 0x0C
def disableVLAN : UInt8 := 0x0D
def setMACAddress : UInt8 := 0x0E
def enableBroadcastFiltering : UInt8 := 0x10
def disableBroadcastFiltering : UInt8 := 0x11
def enableGlobalMulticastFiltering : UInt8 := 0x12
def getVersionID : UInt8 := 0x15
def getCapabilities : UInt8 := 0x16

end ControlPacketType

/-! ## Field offsets -/

-- NCSI_HEADER_FIELDS
namespace Header

abbrev sourceAddress : Nat := 6
abbrev etherType : Nat := 12
abbrev managmentControllerID : Nat := 14
abbrev instanceID : Nat := 17
abbrev controlPacketType : Nat := 18
abbrev channelID : Nat := 19
abbrev payloadLength : Nat := 20

end Header

namespace DisableChannel
abbrev ald : Nat := 33
end DisableChannel

namespace AENEnable
abbrev aenMcId : Nat := 33
abbrev aenControl : Nat := 34
end AENEnable

namespace SetLink
abbrev linkSettings : Nat := 30
abbrev oemLinkSettings : Nat := 34
end SetLink

namespace SetVLANFilter
abbrev vlanID : Nat := 32
abbrev filterSelector : Nat := 35
abbrev enable : Nat := 37
end SetVLANFilter

namespace EnableVLAN
abbrev mode : Nat := 33
end EnableVLAN

namespace SetMACAddr
abbrev macAddress : Nat := 30
abbrev macNumber : Nat := 36
abbrev macInfo : Nat := 37
end SetMACAddr

/-- `SETMAC_AT` -/
def setmacAT (info : UInt8) : UInt8 := info &&& 0x07

/-- `SETMAC_ENABLE` -/
def setmacEnable (info : UInt8) : UInt8 := (info >>> 7) &&& 0x01

namespace EnableBroadcastFilter
abbrev broadcastPacketFilterSettings : Nat := 30
end EnableBroadcastFilter

-- The fields all four response structs start their payload with.
namespace Response
abbrev responseCode : Nat := 30
abbrev reasonCode : Nat := 32
end Response

namespace LinkStatusResponse
abbrev linkStatus : Nat := 34
abbrev otherIndications : Nat := 38
abbrev oemLinkStatus : Nat := 42
end LinkStatusResponse

/-! ## Response frames -/

/-- The static response frames of ncsi.c. -/
inductive FrameVar where
  | gResponseFrame
  | gLinkStatusResponseFrame
  | gCapabilitiesFrame
  | gVersionFrame
  deriving DecidableEq, Repr

/-- The size of the union member a frame is built through. -/
def FrameVar.structSize : FrameVar → Nat
  | .gResponseFrame => sizeofResponsePacketHeader
  | .gLinkStatusResponseFrame => sizeofLinkStatusResponsePacketHeader
  | .gCapabilitiesFrame => sizeofCapabilitiesResponsePacket
  | .gVersionFrame => sizeofVersionResponsePacket

/-- `offsetof(structtype, checksum)`: the last four bytes of the struct. -/
def FrameVar.checksum : FrameVar → UInt32
  | .gResponseFrame => 34
  | .gLinkStatusResponseFrame => 46
  | .gCapabilitiesFrame => 62
  | .gVersionFrame => 70

/-- `packetSize` of the frame's response builder. -/
def FrameVar.packetSize (v : FrameVar) : Nat := max v.structSize ethernetFrameMin

/-- A `NetworkFrame_t` object. -/
@[ext]
structure NetworkFrame where
  bytes : List UInt8
  size_eq : bytes.length = sizeofNetworkFrame
  deriving DecidableEq

namespace NetworkFrame

/-- Static initialisation through one union member; the bytes past it are zero. -/
def ofMember (member : List UInt8) (h : member.length ≤ sizeofNetworkFrame) : NetworkFrame :=
  ⟨member ++ List.replicate (sizeofNetworkFrame - member.length) 0, by simp; omega⟩

/-- Assign the byte field at `off`. -/
def set8 (f : NetworkFrame) (off : Nat) (v : UInt8) : NetworkFrame :=
  ⟨f.bytes.set off v, by simp [f.size_eq]⟩

/-- `ncsi_wr16(frame.field, v)` -/
def wr16 (f : NetworkFrame) (off : Nat) (v : UInt16) : NetworkFrame :=
  ⟨ncsiWr16 f.bytes off v, by simp [f.size_eq]⟩

/-- `ncsi_wr32(frame.field, v)` -/
def wr32 (f : NetworkFrame) (off : Nat) (v : UInt32) : NetworkFrame :=
  ⟨ncsiWr32 f.bytes off v, by simp [f.size_eq]⟩

/-- `ncsi_compute_checksum` on a frame. -/
def computeChecksum (f : NetworkFrame) (regionStart regionLen checksumOffset : UInt32) :
    Option NetworkFrame := do
  return f.wr32 checksumOffset.toNat (← checksumWord f.bytes regionStart regionLen)

end NetworkFrame

end NcsiResponder
