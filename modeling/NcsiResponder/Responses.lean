import NcsiResponder.Machine

/-!
# Response builders (ncsi.c)

The four static response frames with their initial contents, the transmit path
`NCSI_TxPacket`, and the builders that fill a frame in and send it.
-/

namespace NcsiResponder

/-! ## Codes -/

namespace ResponseCode
def commandComplete : UInt16 := 0
def commandFailed : UInt16 := 1
def commandUnsupported : UInt16 := 3
end ResponseCode

namespace ReasonCode
def none : UInt16 := 0
def initializationRequired : UInt16 := 1
def invalidParam : UInt16 := 2
def invalidPayloadLength : UInt16 := 5
def unknownUnsupported : UInt16 := 0x7FFF
/-- the literal of `setVLANFilter` -/
def vlanTagIsInvalid : UInt16 := 0x0B07
end ReasonCode

/-! ## Static frames -/

/-- `NCSI_HEADER_FIELDS` as the four frames preset them. -/
def presetHeader (controlPacketType payloadLength : UInt8) : List UInt8 :=
  List.replicate 6 0xFF                  -- DestinationAddress
    ++ List.replicate 6 0xFF             -- SourceAddress
    ++ [etherTypeNcsiHi, etherTypeNcsiLo]
    ++ [0, 1, 0]                         -- ManagmentControllerID, HeaderRevision, reserved_0
    ++ [0, controlPacketType, 0]         -- InstanceID, ControlPacketType, ChannelID
    ++ [0, payloadLength]
    ++ List.replicate 8 0                -- reserved_2

/-- `NCSI_PACKAGE_CHANNEL_COUNT` -/
def packageChannelCount : UInt8 := 2

/-- `gResponseFrame.responsePacket` -/
def responseFrameInit : List UInt8 :=
  presetHeader 0 4
    ++ [0, 0]                            -- ResponseCode
    ++ [0, 0]                            -- ReasonCode
    ++ List.replicate 4 0                -- checksum

/-- `gLinkStatusResponseFrame.linkStatusResponse` -/
def linkStatusResponseFrameInit : List UInt8 :=
  presetHeader (ControlPacketType.response ||| ControlPacketType.getLinkStatus) 16
    ++ [0, 0]                            -- ResponseCode
    ++ [0, 0]                            -- ReasonCode
    ++ List.replicate 4 0                -- LinkStatus
    ++ List.replicate 4 0                -- OtherIndications
    ++ List.replicate 4 0                -- OEMLinkStatus
    ++ List.replicate 4 0                -- checksum

/-- The preset payload of `gCapabilitiesFrame.capabilities`. -/
def capabilitiesPayload : List UInt8 :=
  [0, 0, 0, 0]                           -- CapabilitiesFlags
    ++ [0, 0, 0, 0xF]                    -- BroadcastPacketFilterCapabilities
    ++ [0, 0, 0, 0]                      -- MulticastPacketFilterCapabilities
    ++ [0, 0, 0, 0]                      -- BufferingCapability
    ++ [0, 0, 0, 0x7]                    -- AENControlSupport
    ++ [1, 1, 1, 1]                      -- VLAN, Mixed, Multicast, UnicastFilterCount
    ++ [0, 0]                            -- reserved_1
    ++ [0x7, packageChannelCount]        -- VLANModeSupport, ChannelCount

/-- `gCapabilitiesFrame.capabilities` -/
def capabilitiesFrameInit : List UInt8 :=
  presetHeader (ControlPacketType.response ||| ControlPacketType.getCapabilities) 32
    ++ [0, 0]                            -- ResponseCode
    ++ [0, 0]                            -- ReasonCode
    ++ capabilitiesPayload
    ++ List.replicate 4 0                -- checksum

/-- The preset payload of `gVersionFrame.version`. -/
def versionPayload : List UInt8 :=
  [0xF1, 0xF2, 0xF0, 0x00]               -- NCSIMajor, NCSIMinor, NCSIUpdate, NCSIAlpha1
    ++ [0, 0, 0, 0x00]                   -- reserved_1, NCSIAlpha2
    ++ [0x4E, 0x43, 0x53, 0x49] ++ List.replicate 8 0x20 -- FirmwareNameString "NCSI"
    ++ [0, 0, 1, 0]                      -- FirmwareVersion
    ++ [0, 0] ++ [0, 0]                  -- PCIDID, PCIVID
    ++ [0, 0] ++ [0, 0]                  -- PCISSID, PCISVID
    ++ List.replicate 4 0xFF             -- ManufacturerID

/-- `gVersionFrame.version` -/
def versionFrameInit : List UInt8 :=
  presetHeader (ControlPacketType.response ||| ControlPacketType.getVersionID) 40
    ++ [0, 0]                            -- ResponseCode
    ++ [0, 0]                            -- ReasonCode
    ++ versionPayload
    ++ List.replicate 4 0                -- checksum

/-- The static response frames at power-on. -/
def initialFrame : FrameVar → NetworkFrame
  | .gResponseFrame => .ofMember responseFrameInit (by decide)
  | .gLinkStatusResponseFrame => .ofMember linkStatusResponseFrameInit (by decide)
  | .gCapabilitiesFrame => .ofMember capabilitiesFrameInit (by decide)
  | .gVersionFrame => .ofMember versionFrameInit (by decide)

/-- Assign to a static response frame. -/
def modifyFrame (v : FrameVar) (f : NetworkFrame → NetworkFrame) : Fw Unit :=
  modifyEngine fun e => { e with frame := Function.update e.frame v (f (e.frame v)) }

/-! ## Checksum switch -/

/-- `NCSI_SetComputeChecksum` -/
def ncsiSetComputeChecksum (enable : Bool) : Fw Unit :=
  modifyEngine fun e => { e with gNcsiComputeChecksum := enable }

/-- `NCSI_GetComputeChecksum` -/
def ncsiGetComputeChecksum : Fw Bool := do return (← getEngine).gNcsiComputeChecksum

/-- `NCSI_APPLY_CHECKSUM_IF_ENABLED`: no-op while the setting is off. -/
def applyChecksumIfEnabled (v : FrameVar) : Fw Unit := do
  let e ← getEngine
  -- switched off, the field is left as it is: nothing clears an earlier checksum
  if e.gNcsiComputeChecksum then
    let regionStart := UInt32.ofNat Header.managmentControllerID
    match (e.frame v).computeChecksum regionStart (v.checksum - regionStart) v.checksum with
    | some f => modifyFrame v fun _ => f
    | none => throw .diverges

/-! ## Transmit path -/

/-- `p[i]` with its bound. -/
def readAt (p : List UInt8) (i : Nat) : Except Fault UInt8 :=
  match p[i]? with
  | some b => return b
  | none => throw .outOfBounds

/-- `p[i] = b` with its bound. -/
def writeAt (p : List UInt8) (i : Nat) (b : UInt8) : Except Fault (List UInt8) :=
  if i < p.length then return p.set i b else throw .outOfBounds

/-- One iteration of the full-word loop: `swapped` gets group `i` of `packet` reversed. -/
def swapFullWord (packet swapped : List UInt8) (i : Nat) : Except Fault (List UInt8) := do
  let off := i * 4
  let swapped ← writeAt swapped (off + 0) (← readAt packet (off + 3))
  let swapped ← writeAt swapped (off + 1) (← readAt packet (off + 2))
  let swapped ← writeAt swapped (off + 2) (← readAt packet (off + 1))
  writeAt swapped (off + 3) (← readAt packet (off + 0))

/-- One iteration of the tail loop. -/
def copyTailByte (packet swapped : List UInt8) (i : Nat) : Except Fault (List UInt8) := do
  writeAt swapped i (← readAt packet i)

/-- `sizeof(swapped)` -/
def swapBufferSize : Nat := 256

/-- The two loops that fill `swapped`. The buffer is uninitialised in C; zeros stand
    for its contents, and every byte that is sent is assigned first. -/
def swapPacket (packet : List UInt8) (packetLen : Nat) : Except Fault (List UInt8) := do
  let fullWords := packetLen / 4
  let swapped ← (List.range fullWords).foldlM (swapFullWord packet)
    (List.replicate swapBufferSize 0)
  (List.range' (fullWords * 4) (packetLen - fullWords * 4)).foldlM (copyTailByte packet) swapped

section Hal

variable (hal : Hal)

/-- `NCSI_TxPacket_internal` -/
def ncsiTxPacketInternal (packet : List UInt8) (packetLen : Nat) (swapWords : Bool) :
    Fw Bool := do
  -- the callers have filled in the frame before this check
  if (← getEngine).port0 = .null then
    return false
  if !swapWords then
    return ← networkTxFrame hal (packet.take packetLen)
  -- a packet that does not fit is dropped, not cut
  if packetLen > swapBufferSize then
    return false
  let swapped ← swapPacket packet packetLen
  networkTxFrame hal (swapped.take packetLen)

/-- `NCSI_TxPacket` -/
def ncsiTxPacket (packet : List UInt8) (packetLen : Nat) : Fw Unit := do
  -- only a frame that was sent is counted
  if ← ncsiTxPacketInternal hal packet packetLen false then
    assign (← getEngine).port0 fun s => { s with statNcsiTx := s.statNcsiTx + 1 }

/-- `NCSI_TxBePacket` -/
def ncsiTxBePacket (packet : List UInt8) (packetLen : Nat) : Fw Unit := do
  let _ ← ncsiTxPacketInternal hal packet packetLen true

/-- How every builder ends: apply the checksum and send `packetSize` bytes. -/
def sendFrame (v : FrameVar) : Fw Unit := do
  applyChecksumIfEnabled v
  ncsiTxPacket hal ((← getEngine).frame v).bytes v.packetSize

/-! ## Builders -/

/-- `sendNCSIResponse` -/
def sendNCSIResponse (instanceID channelID : UInt8) (controlID responseCode reasonsCode : UInt16) :
    Fw Unit := do
  -- PayloadLength and the rest of the header stay as preset
  modifyFrame .gResponseFrame fun f =>
    ((((f.set8 Header.channelID channelID).set8 Header.controlPacketType
      (controlID ||| ControlPacketType.response.toUInt16).toUInt8).set8
      Header.instanceID instanceID).wr16 Response.responseCode responseCode).wr16
      Response.reasonCode reasonsCode
  sendFrame hal .gResponseFrame

/-- `sendNCSILinkStatusResponse`: the packet type is the preset one. -/
def sendNCSILinkStatusResponse (instanceID channelID : UInt8)
    (linkStatus oemLinkStatus otherIndications : UInt32) : Fw Unit := do
  modifyFrame .gLinkStatusResponseFrame fun f =>
    ((((((f.set8 Header.channelID channelID).set8 Header.instanceID instanceID).wr16
      Response.responseCode ResponseCode.commandComplete).wr16
      Response.reasonCode ReasonCode.none).wr32
      LinkStatusResponse.linkStatus linkStatus).wr32
      LinkStatusResponse.oemLinkStatus oemLinkStatus).wr32
      LinkStatusResponse.otherIndications otherIndications
  sendFrame hal .gLinkStatusResponseFrame

/-- The shared body of `getCapabilities` and `getVersionID`: echo the request's
    header bytes into a frame whose payload is preset. -/
def answerPreset (v : FrameVar) (frame : RxPtr) : Fw Unit := do
  let channelID ← frame.rd Header.channelID
  let controlPacketType ← frame.rd Header.controlPacketType
  let instanceID ← frame.rd Header.instanceID
  modifyFrame v fun f =>
    ((((f.set8 Header.channelID channelID).set8 Header.controlPacketType
      (controlPacketType ||| ControlPacketType.response)).set8
      Header.instanceID instanceID).wr16
      Response.responseCode ResponseCode.commandComplete).wr16
      Response.reasonCode ReasonCode.none
  sendFrame hal v

/-- The call `sendNCSIResponse(frame->controlPacket.InstanceID, …ChannelID,
    …ControlPacketType, response_code, reasons_code)` of the handlers. -/
def answer (frame : RxPtr) (responseCode reasonsCode : UInt16) : Fw Unit := do
  let instanceID ← frame.rd Header.instanceID
  let channelID ← frame.rd Header.channelID
  let controlPacketType ← frame.rd Header.controlPacketType
  sendNCSIResponse hal instanceID channelID controlPacketType.toUInt16 responseCode reasonsCode

end Hal

end NcsiResponder
