import NcsiResponder.Frames
import NcsiResponder.Lib.BoundedWait
import NcsiResponder.Upstream

/-!
# The upstream engine (third_party/ncsi/ncsi.c)

The engine this one was ported from, which the repository keeps as the reference to diff
the port against. It keeps its channel state in memory shared with the main chip
(`ShmChannel`), builds responses as words with bit-fields, and writes them to a hardware
FIFO. The board headers it includes (APE.h, APE_SHM.h, MII.h) are not in the repository:
what ncsi.c takes from them is a `Board`.
-/

namespace NcsiResponder.Upstream

open BigEndian BitFields BoundedWait

/-! ## Board -/

/-- `RegSHM_CHANNELNcsiChannelStatus_t`, the bits that ncsi.c names. -/
structure ChannelStatus where
  linkup : Bool
  /-- the highest common denominator of the autonegotiation -/
  linkStatus : UInt8
  autonegotiationEnabled : Bool
  autonegotiationComplete : Bool
  deriving DecidableEq

/-- `RegMIIAuxiliaryStatusSummary_t`, the bits that ncsi.c names. -/
structure AuxiliaryStatus where
  linkStatus : Bool
  autoNegotiationHCD : UInt8
  autoNegotiationComplete : Bool

/-- The functions and registers of the chip that ncsi.c uses. -/
structure Board where
  /-- the driver functions that the port calls by the same names -/
  hal : Hal
  /-- `APE_PERI.BmcToNcTxStatus.bits.InFifo`, at the `i`-th read of a wait -/
  inFifo : List HalCall → ℕ → ℕ
  /-- `REG_MII_AUXILIARY_STATUS_SUMMARY` -/
  auxiliaryStatusSummary : UInt8
  /-- the bits of `stat.r16` -/
  auxiliaryStatus : UInt16 → AuxiliaryStatus
  /-- `linkStatus.r32` -/
  statusWord : ChannelStatus → UInt32
  /-- `(VERSION_MAJOR << 8) | VERSION_MINOR` -/
  versionHigh : UInt16
  /-- `VERSION_PATCH` -/
  versionPatch : UInt16
  /-- `device->PciVendorDeviceId.bits` -/
  vendorID : UInt16
  deviceID : UInt16
  /-- `device->PciSubsystemId.bits` -/
  subsystemVendorID : UInt16
  subsystemID : UInt16

/-! ## Frames -/

/-- The fields of the static response frames that are ever assigned. -/
structure ResponseFrame where
  channelID : UInt8
  controlPacketType : UInt8
  instanceID : UInt8
  responseCode : UInt16
  reasonCode : UInt16
  linkStatus : UInt32
  oemLinkStatus : UInt32
  otherIndications : UInt32
  pciVendor : UInt16
  pciDevice : UInt16
  pciSubsystemVendor : UInt16
  pciSubsystemDevice : UInt16

/-- A word of two half-words, the least significant one first. -/
def halves (low high : UInt16) : UInt32 := joinHalves low.toNat high.toNat

/-- A word of four bytes, the least significant one first. -/
def octets (b₀ b₁ b₂ b₃ : UInt8) : UInt32 := be32 b₃ b₂ b₁ b₀

/-- The low half of a value that is assigned in halves. -/
def lowHalf (v : UInt32) : UInt16 := v.toUInt16

/-- `v >> 16` -/
def highHalf (v : UInt32) : UInt16 := (v >>> 16).toUInt16

/-- `.PayloadLength` -/
def payloadLength : FrameVar → UInt16
  | .gResponseFrame => 4
  | .gLinkStatusResponseFrame => 16
  | .gCapabilitiesFrame => 32
  | .gVersionFrame => 40

/-- Bytes 0 - 31, the same in all four structs. -/
def headerWords (v : FrameVar) (f : ResponseFrame) : List UInt32 :=
  [0xFFFFFFFF, 0xFFFFFFFF, 0xFFFFFFFF,  -- DestinationAddress, SourceAddress
    halves (be16 0 1) 0x88f8,  -- HeaderRevision, ManagmentControllerID, EtherType
    octets f.channelID f.controlPacketType f.instanceID 0,
    halves 0 (payloadLength v),  -- 12 bits, then reserved_1
    0,
    halves f.responseCode 0]

/-- Bytes 32 on. -/
def payloadWords (board : Board) (f : ResponseFrame) : FrameVar → List UInt32
  | .gResponseFrame =>
    [halves 0 f.reasonCode,  -- Checksum_High, ReasonCode
      halves 0 0]  -- reserved_5, Checksum_Low
  | .gLinkStatusResponseFrame =>
    [halves (highHalf f.linkStatus) f.reasonCode,
      halves (highHalf f.otherIndications) (lowHalf f.linkStatus),
      halves (highHalf f.oemLinkStatus) (lowHalf f.otherIndications),
      halves 0 (lowHalf f.oemLinkStatus),
      halves 0 0]
  | .gCapabilitiesFrame =>
    [halves 0 f.reasonCode,  -- Capabilities_High, ReasonCode
      halves 0 0,  -- BroadcastCapabilities_High, Capabilities_Low
      halves 0 0xF,  -- MilticastCapabilities_High, BroadcastCapabilities_Low
      halves 0 0x7,  -- BufferingCapabilities_High, MilticastCapabilities_Low
      halves 0 0x7,  -- AENControlSupport_High, BufferingCapabilities_Low
      octets 1 1 0 0,  -- MixedFilterCount, VLANFilterCount, AENControlSupport_Low
      octets 0 0 1 1,  -- reserved_5, UnicastFilterCount, MulticastFilterCount
      octets 0 0 1 0x7,  -- Checksum_High, ChannelCount, VLANModeSupport
      halves 0 0]
  | .gVersionFrame =>
    [halves (be16 1 2) f.reasonCode,  -- NCSIMinor, NCSIMajor, ReasonCode
      octets 0 0 0x61 4,  -- reserved_5, NCSIAlpha1, NCSIUpdate
      octets 0x43 0x42 0x62 0,  -- name_10, name_11, NCSIAlpha2, reserved_6
      octets 0x31 0x37 0x35 0x4D,  -- name_6 to name_9
      octets 0x43 0x4E 0x20 0x39,  -- name_2 to name_5
      halves board.versionHigh (be16 0x53 0x49),  -- FWVersion_High, name_0, name_1
      halves f.pciVendor board.versionPatch,  -- PCIVendor, FWVersion_Low
      halves f.pciSubsystemVendor f.pciDevice,
      halves 0x5454 f.pciSubsystemDevice,  -- ManufacturerID_High, PCISubsystemDevice
      halves 0 0x3232,  -- Checksum_High, ManufacturerID_Low
      halves 0 0]

/-- `sizeof` of the struct a frame is built through. -/
def structSize : FrameVar → ℕ
  | .gResponseFrame => 40
  | .gLinkStatusResponseFrame => 52
  | .gCapabilitiesFrame => 68
  | .gVersionFrame => 76

/-- `packetSize` -/
def packetSize (v : FrameVar) : ℕ := max (structSize v) ethernetFrameMin

/-- A static frame as `(const uint32_t *)&frame`: 76 bytes, zero behind the struct. -/
def words (board : Board) (v : FrameVar) (f : ResponseFrame) : List UInt32 :=
  headerWords v f ++ payloadWords board f v ++ List.replicate ((76 - structSize v) / 4) 0

/-- The frames as they are initialised. -/
def initialFrame (v : FrameVar) : ResponseFrame where
  channelID := 0
  controlPacketType :=
    match v with
    | .gResponseFrame => 0
    | .gLinkStatusResponseFrame => ControlPacketType.response ||| ControlPacketType.getLinkStatus
    | .gCapabilitiesFrame => ControlPacketType.response ||| ControlPacketType.getCapabilities
    | .gVersionFrame => ControlPacketType.response ||| ControlPacketType.getVersionID
  instanceID := 0
  responseCode := 0
  reasonCode := 0
  linkStatus := 0
  oemLinkStatus := 0
  otherIndications := 0
  pciVendor := 0xFFFF
  pciDevice := 0xFFFF
  pciSubsystemVendor := 0xFFFF
  pciSubsystemDevice := 0xFFFF

/-! ## State -/

/-- `SHM_CHANNEL_t`, what ncsi.c uses of it. -/
structure ShmChannel where
  -- `NcsiChannelInfo.bits`
  ready : Bool
  enabled : Bool
  txPassthrough : Bool
  vlan : Bool
  ncsiChannelMcid : UInt32
  ncsiChannelAen : UInt32
  ncsiChannelSetting1 : UInt32
  ncsiChannelSetting2 : UInt32
  ncsiChannelStatus : ChannelStatus
  ncsiChannelNcsiRx : UInt32
  ncsiChannelNcsiTx : UInt32
  ncsiChannelNetworkRx : UInt32
  ncsiChannelNetworkTx : UInt32
  ncsiChannelNetworkDropped : UInt32
  ncsiChannelMac0High : UInt32
  ncsiChannelMac0Mid : UInt32
  ncsiChannelMac0Low : UInt32

/-- Static storage, the shared memory of the one channel, and the driver calls made so far,
    newest first; a packet for the FIFO counts as one, with whether there was room for it. -/
structure Machine where
  /-- `gPackageState.selected` -/
  selected : Bool
  /-- `gPackageState.port[0]` -/
  port0 : PortPtr
  frame : FrameVar → ResponseFrame
  shm : ShmChannel
  calls : List HalCall

/-- Upstream code. -/
abbrev Up := StateT Machine (Except Fault)

/-- `NUM_CHANNELS`, `MAX_CHANNELS` -/
def numChannels : ℕ := 1

/-- `gPackageState.port[ch]` with its bound. -/
def port (ch : UInt8) : Up PortPtr := do
  if ch.toNat < numChannels then return (← get).port0 else throw .outOfBounds

/-- `*port->shm_channel` -/
def derefShm (port : PortPtr) : Up ShmChannel := do
  match port with
  | .null => throw .nullDeref
  | .gPort => return (← get).shm

/-- Assign to the fields of `*port->shm_channel`. -/
def assignShm (port : PortPtr) (f : ShmChannel → ShmChannel) : Up Unit := do
  match port with
  | .null => throw .nullDeref
  | .gPort => modify fun u => { u with shm := f u.shm }

/-- Assign to a static response frame. -/
def modifyFrame (v : FrameVar) (f : ResponseFrame → ResponseFrame) : Up Unit :=
  modify fun u => { u with frame := Function.update u.frame v (f (u.frame v)) }

/-- Make a driver call. -/
def driverCall {α : Type} (answer : List HalCall → α) (entry : α → HalCall) : Up α :=
  modifyGet fun u => (answer u.calls, { u with calls := entry (answer u.calls) :: u.calls })

/-! ## Request header -/

namespace Header

variable (mem : ℕ → UInt8)

-- Bytes 16 - 19: ChannelID:8, ControlPacketType:8, InstanceID:8, reserved_0:8
def channelID : UInt8 := UInt8.ofNat (field mem 16 [8, 8, 8, 8] 0)
def controlPacketType : UInt8 := UInt8.ofNat (field mem 16 [8, 8, 8, 8] 1)
def instanceID : UInt8 := UInt8.ofNat (field mem 16 [8, 8, 8, 8] 2)

-- Bytes 20 - 23: reserved_2:16, PayloadLength:12, reserved_1:4
def payloadLength : UInt16 := UInt16.ofNat (field mem 20 [16, 12, 4] 1)

end Header

section Board

variable (board : Board)

/-! ## Transmit path -/

/-- The bytes the FIFO sends, each word from its most significant byte on. -/
def wire (ws : List UInt32) : List UInt8 := ws.flatMap bytes32

/-- `max_loops` -/
def maxLoops : ℕ := 0x10000

/-- The wait for room in the FIFO: is any of the loop budget left? -/
def fifoReady (calls : List HalCall) (packetWords : ℕ) : Bool :=
  (spin (fun i => packetWords ≤ board.inFifo calls i) 0 maxLoops).2 != 0

/-- `NCSI_TxPacket_internal` with native words: all but the last to the buffer, the last
    one behind `LastByteCount`. -/
def ncsiTxPacketInternal (packet : List UInt32) (packetLen : ℕ) : Up Bool :=
  let packetWords := (packetLen + 3) / 4
  driverCall (fun calls => fifoReady board calls packetWords)
    (.txFrame ((wire (packet.take packetWords)).take packetLen))

/-- `NCSI_TxPacket` -/
def ncsiTxPacket (packet : List UInt32) (packetLen : ℕ) : Up Unit := do
  if ← ncsiTxPacketInternal board packet packetLen then
    assignShm (← port 0) fun s => { s with ncsiChannelNcsiTx := s.ncsiChannelNcsiTx + 1 }

/-- How every builder ends. -/
def sendFrame (v : FrameVar) : Up Unit := do
  ncsiTxPacket board (words board v ((← get).frame v)) (packetSize v)

/-- `sendNCSILinkStatusResponse` -/
def sendNCSILinkStatusResponse (instanceID channelID : UInt8)
    (linkStatus oemLinkStatus otherIndications : UInt32) : Up Unit := do
  modifyFrame .gLinkStatusResponseFrame fun f =>
    { f with
      channelID := channelID
      instanceID := instanceID
      responseCode := ResponseCode.commandComplete
      reasonCode := ReasonCode.none
      linkStatus := linkStatus
      oemLinkStatus := oemLinkStatus
      otherIndications := otherIndications }
  sendFrame board .gLinkStatusResponseFrame

/-- `sendNCSIResponse` -/
def sendNCSIResponse (instanceID channelID : UInt8) (controlID responseCode reasonsCode : UInt16) :
    Up Unit := do
  modifyFrame .gResponseFrame fun f =>
    { f with
      channelID := channelID
      controlPacketType := (controlID ||| ControlPacketType.response.toUInt16).toUInt8
      instanceID := instanceID
      responseCode := responseCode
      reasonCode := reasonsCode }
  sendFrame board .gResponseFrame

/-- The call of `sendNCSIResponse` with the header of the request. -/
def answer (frame : ℕ → UInt8) (responseCode reasonsCode : UInt16) : Up Unit :=
  sendNCSIResponse board (Header.instanceID frame) (Header.channelID frame)
    (Header.controlPacketType frame).toUInt16 responseCode reasonsCode

/-- The shared tail of the handlers that accept the command. -/
def answerComplete (frame : ℕ → UInt8) : Up Unit :=
  answer board frame ResponseCode.commandComplete ReasonCode.none

/-! ## Channels -/

/-- `ChannelID & CHANNEL_ID_MASK` -/
def channel (frame : ℕ → UInt8) : UInt8 := Header.channelID frame &&& channelIdMask

/-- `resetChannel` -/
def resetChannel (ch : UInt8) : Up Unit := do
  let port ← port ch
  assignShm port fun s =>
    { s with
      ready := false
      enabled := false
      txPassthrough := false
      vlan := false
      ncsiChannelNcsiRx := 0
      ncsiChannelNcsiTx := 0
      ncsiChannelNetworkRx := 0
      ncsiChannelNetworkTx := 0 }
  let phy ← driverCall board.hal.getPhy .getPhy
  let _ ← driverCall (fun calls => board.hal.miiReset calls phy) (.miiReset phy)

/-- `reloadChannel`: the address comes from shared memory. -/
def reloadChannel (ch : UInt8) (resetPhy : ReloadType) : Up Unit := do
  let port ← port ch
  assignShm port fun s =>
    { s with
      ncsiChannelNcsiRx := 0
      ncsiChannelNcsiTx := 0
      ncsiChannelNetworkRx := 0
      ncsiChannelNetworkTx := 0 }
  let s ← derefShm port
  let low := s.ncsiChannelMac0Mid <<< 16 ||| s.ncsiChannelMac0Low
  let high := s.ncsiChannelMac0High.toUInt16
  driverCall (fun _ => ()) fun _ => .setMACAddr high low 0 true
  driverCall (fun _ => ()) fun _ => .initPort resetPhy

/-! ## Command handlers -/

/-- `unknownHandler` -/
def unknownHandler (frame : ℕ → UInt8) : Up Unit :=
  answer board frame ResponseCode.commandUnsupported ReasonCode.unknownUnsupported

/-- `clearInitialStateHandler`: no answer for a channel that does not exist. -/
def clearInitialStateHandler (frame : ℕ → UInt8) : Up Unit := do
  let ch := channel frame
  if ch.toNat < numChannels then
    assignShm (← port ch) fun s => { s with ready := true }
    answerComplete board frame

/-- `selectPackageHandler` -/
def selectPackageHandler (frame : ℕ → UInt8) : Up Unit := do
  modify fun u => { u with selected := true }
  answerComplete board frame

/-- `deselectPackageHandler` -/
def deselectPackageHandler (frame : ℕ → UInt8) : Up Unit := do
  answerComplete board frame
  modify fun u => { u with selected := false }

/-- The shared body of the handlers that store something in shared memory. -/
def settingHandler (set : ShmChannel → ShmChannel) (frame : ℕ → UInt8) : Up Unit := do
  assignShm (← port (channel frame)) set
  answerComplete board frame

/-- `enableChannelHandler` -/
def enableChannelHandler (frame : ℕ → UInt8) : Up Unit := do
  assignShm (← port (channel frame)) fun s => { s with enabled := true }
  driverCall (fun _ => ()) fun _ => .initPort .asNeeded
  answerComplete board frame

/-- `disableChannelHandler` -/
def disableChannelHandler : (ℕ → UInt8) → Up Unit :=
  settingHandler board fun s => { s with enabled := false }

/-- `resetChannelHandler` -/
def resetChannelHandler (frame : ℕ → UInt8) : Up Unit := do
  resetChannel board (channel frame)
  answerComplete board frame

/-- `enableChannelNetworkTXHandler` -/
def enableChannelNetworkTXHandler : (ℕ → UInt8) → Up Unit :=
  settingHandler board fun s => { s with txPassthrough := true }

/-- `disableChannelNetworkTXHandler` -/
def disableChannelNetworkTXHandler : (ℕ → UInt8) → Up Unit :=
  settingHandler board fun s => { s with txPassthrough := false }

-- Bytes 28 - 31: AEN_MC_ID:8, reserved_0:8, headerPadding:16
def AENEnable.aenMcId (mem : ℕ → UInt8) : ℕ := field mem 28 [8, 8, 16] 0

/-- `AENEnableHandler` -/
def aenEnableHandler (frame : ℕ → UInt8) : Up Unit :=
  settingHandler board (fun s =>
    { s with
      ncsiChannelMcid := UInt32.ofNat (AENEnable.aenMcId frame)
      ncsiChannelAen :=
        joinHalves (AENEnable.aenControlLow frame) (AENEnable.aenControlHigh frame) })
    frame

/-- `setLinkHandler` -/
def setLinkHandler (frame : ℕ → UInt8) : Up Unit :=
  settingHandler board (fun s =>
    { s with
      ncsiChannelSetting1 :=
        joinHalves (SetLink.linkSettingsLow frame) (SetLink.linkSettingsHigh frame)
      ncsiChannelSetting2 :=
        joinHalves (SetLink.oemLinkSettingsLow frame) (SetLink.oemLinkSettingsHigh frame) })
    frame

/-- The PHY has no link: ask the MAC, and restart the link if it has none either. -/
def restoreLink (phyLinkUp : Bool) : Up Unit := do
  if !phyLinkUp then
    if !(← driverCall board.hal.isLinkUp .isLinkUp) then
      driverCall (fun _ => ()) fun _ => .resetLink

/-- `getLinkStatusHandler` -/
def getLinkStatusHandler (frame : ℕ → UInt8) : Up Unit := do
  let port ← port (channel frame)
  -- `port->device`
  let _ ← derefShm port
  let phy ← driverCall board.hal.getPhy .getPhy
  let linkStatus := (← derefShm port).ncsiChannelStatus
  let reg ← driverCall
    (fun calls => board.hal.readRegister calls phy board.auxiliaryStatusSummary)
    (.readRegister phy board.auxiliaryStatusSummary)
  let stat : AuxiliaryStatus :=
    if 0 ≤ reg then board.auxiliaryStatus reg.toUInt32.toUInt16
    -- the register could not be read: the previous value
    else ⟨linkStatus.linkup, linkStatus.linkStatus, linkStatus.autonegotiationComplete⟩
  restoreLink board stat.linkStatus
  let linkStatus : ChannelStatus :=
    ⟨stat.linkStatus, stat.autoNegotiationHCD, true, stat.autoNegotiationComplete⟩
  assignShm port fun s => { s with ncsiChannelStatus := linkStatus }
  sendNCSILinkStatusResponse board (Header.instanceID frame) (Header.channelID frame)
    (board.statusWord linkStatus) 0 0

/-- `disableVLANHandler` -/
def disableVLANHandler : (ℕ → UInt8) → Up Unit :=
  settingHandler board fun s => { s with vlan := false }

/-- The header of a frame whose payload is preset. -/
def ResponseFrame.preset (frame : ℕ → UInt8) (f : ResponseFrame) : ResponseFrame :=
  { f with
    channelID := channel frame
    controlPacketType := Header.controlPacketType frame ||| ControlPacketType.response
    instanceID := Header.instanceID frame
    responseCode := ResponseCode.commandComplete
    reasonCode := ReasonCode.none }

/-- `getCapabilities` -/
def getCapabilities (frame : ℕ → UInt8) : Up Unit := do
  modifyFrame .gCapabilitiesFrame fun f => f.preset frame
  sendFrame board .gCapabilitiesFrame

/-- `getVersionID` -/
def getVersionID (frame : ℕ → UInt8) : Up Unit := do
  let port ← port (channel frame)
  -- `port->device`
  let _ ← derefShm port
  modifyFrame .gVersionFrame fun f =>
    { f.preset frame with
      pciVendor := board.vendorID
      pciDevice := board.deviceID
      pciSubsystemVendor := board.subsystemVendorID
      pciSubsystemDevice := board.subsystemID }
  sendFrame board .gVersionFrame

/-- `enableVLANHandler`, which switches VLAN off. -/
def enableVLANHandler : (ℕ → UInt8) → Up Unit :=
  settingHandler board fun s => { s with vlan := false }

/-- `setVLANFilter` -/
def setVLANFilter : (ℕ → UInt8) → Up Unit :=
  settingHandler board fun s => { s with vlan := false }

/-- `setMACAddressHandler` -/
def setMACAddressHandler (frame : ℕ → UInt8) : Up Unit := do
  let macNumber := UInt32.ofNat (SetMACAddr.macNumber frame)
  let _port ← port (channel frame)
  let macNumber := reindexMacNumber macNumber
  let low := joinHalves (SetMACAddr.mac10 frame) (SetMACAddr.mac32 frame)
  driverCall (fun _ => ()) fun _ =>
    .setMACAddr (UInt16.ofNat (SetMACAddr.mac54 frame)) low macNumber
      (SetMACAddr.enable frame != 0)
  answerComplete board frame

/-- `enableBroadcastFilteringHandler` -/
def enableBroadcastFilteringHandler : (ℕ → UInt8) → Up Unit := answerComplete board

/-! ## Dispatch -/

/-- `ncsi_handler_t` -/
structure NcsiHandler where
  ignoreInit : Bool
  packageCommand : Bool
  payloadLength : ℕ
  fn : Option ((ℕ → UInt8) → Up Unit)

/-- `gNCSIHandlers[]`: 27 entries, the one at 0x0F empty. -/
def gNCSIHandlers : List NcsiHandler := [
  ⟨true, false, 0, some (clearInitialStateHandler board)⟩,          -- 0x00
  ⟨false, true, 4, some (selectPackageHandler board)⟩,              -- 0x01
  ⟨false, true, 0, some (deselectPackageHandler board)⟩,            -- 0x02
  ⟨false, false, 0, some (enableChannelHandler board)⟩,             -- 0x03
  ⟨false, false, 4, some (disableChannelHandler board)⟩,            -- 0x04
  ⟨false, false, 4, some (resetChannelHandler board)⟩,              -- 0x05
  ⟨false, false, 0, some (enableChannelNetworkTXHandler board)⟩,    -- 0x06
  ⟨false, false, 0, some (disableChannelNetworkTXHandler board)⟩,   -- 0x07
  ⟨false, false, 8, some (aenEnableHandler board)⟩,                 -- 0x08
  ⟨false, false, 8, some (setLinkHandler board)⟩,                   -- 0x09
  ⟨false, false, 0, some (getLinkStatusHandler board)⟩,             -- 0x0A
  ⟨false, false, 8, some (setVLANFilter board)⟩,                    -- 0x0B
  ⟨false, false, 4, some (enableVLANHandler board)⟩,                -- 0x0C
  ⟨false, false, 0, some (disableVLANHandler board)⟩,               -- 0x0D
  ⟨false, false, 8, some (setMACAddressHandler board)⟩,             -- 0x0E
  ⟨false, false, 0, none⟩,                                          -- 0x0F
  ⟨false, false, 4, some (enableBroadcastFilteringHandler board)⟩,  -- 0x10
  ⟨false, false, 0, some (unknownHandler board)⟩,                   -- 0x11
  ⟨false, false, 4, some (unknownHandler board)⟩,                   -- 0x12
  ⟨false, false, 0, some (unknownHandler board)⟩,                   -- 0x13
  ⟨false, false, 4, some (unknownHandler board)⟩,                   -- 0x14
  ⟨false, false, 0, some (getVersionID board)⟩,                     -- 0x15
  ⟨false, false, 0, some (getCapabilities board)⟩,                  -- 0x16
  ⟨false, false, 0, some (unknownHandler board)⟩,                   -- 0x17
  ⟨false, false, 0, some (unknownHandler board)⟩,                   -- 0x18
  ⟨false, false, 0, some (unknownHandler board)⟩,                   -- 0x19
  ⟨false, false, 0, some (unknownHandler board)⟩]                   -- 0x1A

/-- `if (port) ++port->shm_channel->NcsiChannelNcsiRx.r32;` -/
def countRx (port : PortPtr) : Up Unit := do
  if port ≠ .null then
    assignShm port fun s => { s with ncsiChannelNcsiRx := s.ncsiChannelNcsiRx + 1 }

/-- The branches of `handleNCSIFrame` for an entry with a handler. -/
def dispatch (frame : ℕ → UInt8) (ch : UInt8) (payloadLength : UInt16) (port₀ : PortPtr)
    (handler : NcsiHandler) (fn : (ℕ → UInt8) → Up Unit) : Up Unit := do
  if handler.payloadLength ≠ payloadLength.toNat then
    answer board frame ResponseCode.commandFailed ReasonCode.invalidPayloadLength
  else if (handler.packageCommand && ch == channelIdPackage) || handler.ignoreInit then
    countRx port₀
    modify fun u => { u with selected := true }
    fn frame
  else if numChannels ≤ ch.toNat then
    answer board frame ResponseCode.commandFailed ReasonCode.invalidParam
  else
    modify fun u => { u with selected := true }
    if (← derefShm (← port ch)).ready = false then
      answer board frame ResponseCode.commandFailed ReasonCode.initializationRequired
    else
      countRx port₀
      fn frame

/-- `handleNCSIFrame` -/
def handleNCSIFrame (frame : ℕ → UInt8) : Up Unit := do
  let package := Header.channelID frame >>> packageIdShift
  if package ≠ 0 then
    return ()
  let ch := channel frame
  let command := Header.controlPacketType frame
  let payloadLength := Header.payloadLength frame
  match (gNCSIHandlers board)[command.toNat]? with
  -- `&gNCSIHandlers[command]` is not checked
  | none => throw .outOfBounds
  | some handler =>
    let port₀ ← if numChannels ≤ ch.toNat then pure .null else port ch
    match handler.fn with
    | some fn => dispatch board frame ch payloadLength port₀ handler fn
    | none => answer board frame ResponseCode.commandUnsupported ReasonCode.unknownUnsupported

/-! ## Other entry points -/

/-- `NCSI_init` -/
def ncsiInit : Up Unit := resetChannel board 0

/-- `NCSI_reload` -/
def ncsiReload (resetPhy : ReloadType) : Up Unit := reloadChannel 0 resetPhy

/-- `NCSI_handlePassthrough` -/
def ncsiHandlePassthrough : Up Unit := do
  let port ← port 0
  if (← derefShm port).ready then
    if !(← driverCall board.hal.passthroughRxPacket .passthroughRxPacket) then
      assignShm port fun s =>
        { s with ncsiChannelNetworkDropped := s.ncsiChannelNetworkDropped + 1 }

end Board

end NcsiResponder.Upstream
