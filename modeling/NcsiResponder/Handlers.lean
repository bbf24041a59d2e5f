import NcsiResponder.Responses

/-!
# Command handlers (ncsi.c)

One definition per handler of `gNCSIHandlers[]`. `NCSI_LOG` compiles to nothing,
so what a handler only logs is not read; a local it computes is read even when
nothing uses it.
-/

namespace NcsiResponder

/-- `CHANNEL_ID_MASK` -/
def channelIdMask : UInt8 := 0x1F

/-- `CHANNEL_ID_PACKAGE` -/
def channelIdPackage : UInt8 := 0x1F

section Hal

variable (hal : Hal)

/-! ## Channel reset -/

/-- `resetChannel` -/
def resetChannel : Fw Unit := do
  let port := (← getEngine).port0
  assign port fun s =>
    -- not among them: aen_mc_id, aen_control, link_settings, oem_link_settings,
    -- link_status and stat_net_dropped
    { s with
      ready := false
      enabled := false
      txPassthroughEn := false
      vlanEnabled := false
      broadcastFilterSettings := 0
      macFilters := s.macFilters.map fun filter => { filter with enabled := false }
      statNcsiRx := 0
      statNcsiTx := 0
      statNetRx := 0
      statNetTx := 0 }
  let _ ← deref port
  let phy ← miiGetPhy hal
  let _ ← miiReset hal phy

/-- `reloadChannel` -/
def reloadChannel (resetPhy : ReloadType) : Fw Unit := do
  assign (← getEngine).port0 fun s =>
    { s with statNcsiRx := 0, statNcsiTx := 0, statNetRx := 0, statNetTx := 0 }
  networkInitPort resetPhy

/-! ## Package commands and initial state -/

/-- `unknownHandler` -/
def unknownHandler (frame : RxPtr) : Fw Unit :=
  answer hal frame ResponseCode.commandUnsupported ReasonCode.unknownUnsupported

/-- The shared tail of the handlers that accept the command. -/
def answerComplete (frame : RxPtr) : Fw Unit :=
  answer hal frame ResponseCode.commandComplete ReasonCode.none

/-- `clearInitialStateHandler` -/
def clearInitialStateHandler (frame : RxPtr) : Fw Unit := do
  assign (← getEngine).port0 fun s => { s with ready := true }
  answerComplete hal frame

/-- `selectPackageHandler` -/
def selectPackageHandler (frame : RxPtr) : Fw Unit := do
  modifyEngine fun e => { e with selected := true }
  answerComplete hal frame

/-- `deselectPackageHandler` -/
def deselectPackageHandler (frame : RxPtr) : Fw Unit := do
  answerComplete hal frame
  -- answered first: the dispatcher has just selected the package
  modifyEngine fun e => { e with selected := false }

/-! ## Channel commands -/

/-- `int ch = frame->controlPacket.ChannelID & CHANNEL_ID_MASK;` -/
def readChannel (frame : RxPtr) : Fw UInt8 := do
  return (← frame.rd Header.channelID) &&& channelIdMask

/-- The shared body of the handlers that store a fixed setting in the channel state. -/
def settingHandler (set : ChannelState → ChannelState) (frame : RxPtr) : Fw Unit := do
  let _ch ← readChannel frame
  assign (← getEngine).port0 set
  answerComplete hal frame

/-- `enableChannelHandler` -/
def enableChannelHandler (frame : RxPtr) : Fw Unit := do
  let _ch ← readChannel frame
  assign (← getEngine).port0 fun s => { s with enabled := true }
  networkInitPort .asNeeded
  answerComplete hal frame

/-- `disableChannelHandler`: the ALD bit is read but not acted on. -/
def disableChannelHandler (frame : RxPtr) : Fw Unit := do
  let _ch ← readChannel frame
  let _allowLinkDown := ((← frame.rd DisableChannel.ald) &&& 0x01) != 0
  assign (← getEngine).port0 fun s => { s with enabled := false }
  answerComplete hal frame

/-- `resetChannelHandler` -/
def resetChannelHandler (frame : RxPtr) : Fw Unit := do
  resetChannel hal
  answerComplete hal frame

/-- `enableChannelNetworkTXHandler` -/
def enableChannelNetworkTXHandler : RxPtr → Fw Unit :=
  settingHandler hal fun s => { s with txPassthroughEn := true }

/-- `disableChannelNetworkTXHandler` -/
def disableChannelNetworkTXHandler : RxPtr → Fw Unit :=
  settingHandler hal fun s => { s with txPassthroughEn := false }

/-- `AENEnableHandler` -/
def aenEnableHandler (frame : RxPtr) : Fw Unit := do
  let aenControl ← frame.rd32 AENEnable.aenControl
  let aenMcId ← frame.rd AENEnable.aenMcId
  assign (← getEngine).port0 fun s => { s with aenMcId := aenMcId, aenControl := aenControl }
  answerComplete hal frame

/-- `setLinkHandler` -/
def setLinkHandler (frame : RxPtr) : Fw Unit := do
  let linkSettings ← frame.rd32 SetLink.linkSettings
  let oemLinkSettings ← frame.rd32 SetLink.oemLinkSettings
  assign (← getEngine).port0 fun s =>
    { s with linkSettings := linkSettings, oemLinkSettings := oemLinkSettings }
  answerComplete hal frame

/-- The 32-bit Link Status field reported from the cached bits. -/
def LinkStatus.word (l : LinkStatus) : UInt32 :=
  l.linkUp.toUInt32 ||| l.autonegHcd.toUInt32 <<< 1 ||| l.autonegEnabled.toUInt32 <<< 5 |||
    l.autonegComplete.toUInt32 <<< 6

/-- The link bit of a BMSR value, `(uint16_t)reg & MII_BMSR_LINK_STATUS_BIT`. -/
def bmsrLinkUp (reg : Int32) : Bool := (reg.toUInt32.toUInt16 &&& miiBmsrLinkStatusBit) != 0

/-- `getLinkStatusHandler` -/
def getLinkStatusHandler (frame : RxPtr) : Fw Unit := do
  let port := (← getEngine).port0
  let _ ← deref port
  let phy ← miiGetPhy hal
  let reg ← miiReadRegister hal phy regMiiBasicStatus
  let phyLinkUp ←
    if 0 ≤ reg then do
      let phyLinkUp := bmsrLinkUp reg
      assign port fun s =>
        { s with linkStatus :=
            { s.linkStatus with linkUp := phyLinkUp, autonegHcd := phyLinkUp } }
      pure phyLinkUp
    else
      -- the status register could not be read: reuse the cached value
      pure (← deref port).linkStatus.linkUp
  -- the PHY has no link: ask the MAC, and restart the link if it has none either
  if !phyLinkUp then
    if !(← networkIsLinkUp hal) then
      networkResetLink
  assign port fun s =>
    { s with linkStatus := { s.linkStatus with linkUp := phyLinkUp, autonegEnabled := true } }
  let linkStatus := (← deref port).linkStatus.word
  let instanceID ← frame.rd Header.instanceID
  let channelID ← frame.rd Header.channelID
  sendNCSILinkStatusResponse hal instanceID channelID linkStatus 0 0

/-- `disableVLANHandler` -/
def disableVLANHandler : RxPtr → Fw Unit :=
  settingHandler hal fun s => { s with vlanEnabled := false }

/-- `getCapabilities` -/
def getCapabilities : RxPtr → Fw Unit := answerPreset hal .gCapabilitiesFrame

/-- `getVersionID` -/
def getVersionID : RxPtr → Fw Unit := answerPreset hal .gVersionFrame

/-- `enableVLANHandler` -/
def enableVLANHandler (frame : RxPtr) : Fw Unit := do
  let _ch ← readChannel frame
  let mode ← frame.rd EnableVLAN.mode
  -- the table of modes starts at 1; mode 0 switches VLAN off
  assign (← getEngine).port0 fun s => { s with vlanEnabled := mode != 0 }
  answerComplete hal frame

/-- `setVLANFilter`: the filter is checked, and nothing is stored. -/
def setVLANFilter (frame : RxPtr) : Fw Unit := do
  let _ch ← readChannel frame
  let vlanId := (← frame.rd16 SetVLANFilter.vlanID) &&& 0x0FFF
  let _filterSelector ← frame.rd SetVLANFilter.filterSelector
  let enable := ((← frame.rd SetVLANFilter.enable) &&& 0x01) != 0
  -- a filter that is disabled may carry any VLAN ID
  if enable && vlanId == 0 then
    answer hal frame ResponseCode.commandFailed ReasonCode.vlanTagIsInvalid
  else
    answerComplete hal frame

/-- The six bytes `mac[0..5]`, read one after another. -/
def readMac (mac : RxPtr) : Fw (Vector UInt8 6) := do
  let b₀ ← mac.rd 0
  let b₁ ← mac.rd 1
  let b₂ ← mac.rd 2
  let b₃ ← mac.rd 3
  let b₄ ← mac.rd 4
  let b₅ ← mac.rd 5
  return #v[b₀, b₁, b₂, b₃, b₄, b₅]

/-- NC-SI numbers MAC filters from 1, the code from 0; 0 stays 0. -/
def reindexMacNumber (macNumber : UInt32) : UInt32 :=
  if macNumber > 0 then macNumber - 1 else macNumber

/-- `mac_high16` -/
def macHigh16 (mac : Vector UInt8 6) : UInt16 := mac[0].toUInt16 <<< 8 ||| mac[1].toUInt16

/-- `mac_low32` -/
def macLow32 (mac : Vector UInt8 6) : UInt32 :=
  mac[2].toUInt32 <<< 24 ||| mac[3].toUInt32 <<< 16 ||| mac[4].toUInt32 <<< 8 |||
    mac[5].toUInt32

/-- `setMACAddressHandler`: the driver is called for every slot number, the tracked
    table is written only where the slot exists. -/
def setMACAddressHandler (frame : RxPtr) : Fw Unit := do
  let macNumber := (← frame.rd SetMACAddr.macNumber).toUInt32
  let _ch ← readChannel frame
  let port := (← getEngine).port0
  let mac := frame.add SetMACAddr.macAddress
  let enable := setmacEnable (← frame.rd SetMACAddr.macInfo)
  let at_ := setmacAT (← frame.rd SetMACAddr.macInfo)
  let macNumber := reindexMacNumber macNumber
  let bytes ← readMac mac
  -- called before the slot number is checked
  networkSetMACAddr (macHigh16 bytes) (macLow32 bytes) macNumber (enable != 0)
  if macNumber.toNat < maxMacFilters then
    -- the copy into the slot reads the address once more
    let bytes ← readMac mac
    let filter := { enabled := enable != 0, addressType := at_, mac := bytes }
    assign port fun s =>
      { s with macFilters := s.macFilters.setIfInBounds macNumber.toNat filter }
  answerComplete hal frame

/-- `enableBroadcastFilteringHandler` -/
def enableBroadcastFilteringHandler (frame : RxPtr) : Fw Unit := do
  let _ch ← readChannel frame
  let port := (← getEngine).port0
  let settings ← frame.rd32 EnableBroadcastFilter.broadcastPacketFilterSettings
  assign port fun s => { s with broadcastFilterSettings := settings }
  answerComplete hal frame

/-- `disableBroadcastFilteringHandler` -/
def disableBroadcastFilteringHandler : RxPtr → Fw Unit :=
  settingHandler hal fun s => { s with broadcastFilterSettings := 0 }

end Hal

end NcsiResponder
