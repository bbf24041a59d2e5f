import NcsiResponder.Handlers

/-!
# Frame dispatch and entry points (ncsi.c, ncsi_hal_template.c)

`handleNCSIFrame` with its handler table, and the other functions the board code
calls: start-up, reload, and the two pass-through directions.
-/

namespace NcsiResponder

section Hal

variable (hal : Hal)

/-! ## Handler table -/

/-- `ncsi_handler_t` -/
structure NcsiHandler where
  ignoreInit : Bool
  packageCommand : Bool
  payloadLength : Nat
  fn : Option (RxPtr → Fw Unit)

/-- `gNCSIHandlers[]`: 27 entries; the one at 0x0F has no initialiser and so no `fn`. -/
def gNCSIHandlers : List NcsiHandler := [
  -- package / initialization commands
  ⟨true, false, 0, some (clearInitialStateHandler hal)⟩,          -- 0x00
  ⟨false, true, 4, some (selectPackageHandler hal)⟩,              -- 0x01
  ⟨false, true, 0, some (deselectPackageHandler hal)⟩,            -- 0x02
  -- channel specific commands
  ⟨false, false, 0, some (enableChannelHandler hal)⟩,             -- 0x03
  ⟨false, false, 4, some (disableChannelHandler hal)⟩,            -- 0x04
  ⟨false, false, 4, some (resetChannelHandler hal)⟩,              -- 0x05
  ⟨false, false, 0, some (enableChannelNetworkTXHandler hal)⟩,    -- 0x06
  ⟨false, false, 0, some (disableChannelNetworkTXHandler hal)⟩,   -- 0x07
  ⟨false, false, 8, some (aenEnableHandler hal)⟩,                 -- 0x08
  ⟨false, false, 8, some (setLinkHandler hal)⟩,                   -- 0x09
  ⟨false, false, 0, some (getLinkStatusHandler hal)⟩,             -- 0x0A
  ⟨false, false, 8, some (setVLANFilter hal)⟩,                    -- 0x0B
  ⟨false, false, 4, some (enableVLANHandler hal)⟩,                -- 0x0C
  ⟨false, false, 0, some (disableVLANHandler hal)⟩,               -- 0x0D
  ⟨false, false, 8, some (setMACAddressHandler hal)⟩,             -- 0x0E
  ⟨false, false, 0, none⟩,                                        -- 0x0F
  ⟨false, false, 4, some (enableBroadcastFilteringHandler hal)⟩,  -- 0x10
  ⟨false, false, 0, some (disableBroadcastFilteringHandler hal)⟩, -- 0x11
  ⟨false, false, 4, some (unknownHandler hal)⟩,                   -- 0x12
  ⟨false, false, 0, some (unknownHandler hal)⟩,                   -- 0x13
  ⟨false, false, 4, some (unknownHandler hal)⟩,                   -- 0x14
  ⟨false, false, 0, some (getVersionID hal)⟩,                     -- 0x15
  ⟨false, false, 0, some (getCapabilities hal)⟩,                  -- 0x16
  ⟨false, false, 0, some (unknownHandler hal)⟩,                   -- 0x17
  ⟨false, false, 0, some (unknownHandler hal)⟩,                   -- 0x18
  ⟨false, false, 0, some (unknownHandler hal)⟩,                   -- 0x19
  ⟨false, false, 0, some (unknownHandler hal)⟩]                   -- 0x1A

/-! ## Dispatcher -/

/-- `PACKAGE_ID_SHIFT` -/
def packageIdShift : UInt8 := 5

/-- The branches of `handleNCSIFrame` once the frame is known to be addressed to
    this instance and its handler has been looked up. -/
def dispatch (frame : RxPtr) (ch : UInt8) (payloadLength : UInt16) (handler : NcsiHandler)
    (fn : RxPtr → Fw Unit) : Fw Unit := do
  let e ← getEngine
  let port := e.port0
  if handler.payloadLength ≠ payloadLength.toNat then
    answer hal frame ResponseCode.commandFailed ReasonCode.invalidPayloadLength
  else if (handler.packageCommand && ch == channelIdPackage) || handler.ignoreInit then
    -- package commands are always accepted
    if port ≠ .null then
      assign port fun s => { s with statNcsiRx := s.statNcsiRx + 1 }
    modifyEngine fun e => { e with selected := true }
    fn frame
  else if ch ≠ e.gLocalChannelId then
    -- a channel command sent to the package-wide indicator
    answer hal frame ResponseCode.commandFailed ReasonCode.invalidParam
  else
    modifyEngine fun e => { e with selected := true }
    if (← deref port).ready = false then
      answer hal frame ResponseCode.commandFailed ReasonCode.initializationRequired
    else
      -- counted only here and for package commands: a refused frame is not
      assign port fun s => { s with statNcsiRx := s.statNcsiRx + 1 }
      fn frame

/-- `handleNCSIFrame` -/
def handleNCSIFrame (frame : RxPtr) : Fw Unit := do
  let e ← getEngine
  let package := (← frame.rd Header.channelID) >>> packageIdShift
  -- not our package: stay silent
  if package ≠ e.gLocalPackageId then
    return ()
  let ch ← readChannel frame
  let addressedToUs := ch == channelIdPackage || ch == e.gLocalChannelId
  if !addressedToUs then
    return ()
  let command ← frame.rd Header.controlPacketType
  let payloadLength := (← frame.rd16 Header.payloadLength) &&& 0x0FFF
  match (gNCSIHandlers hal)[command.toNat]? with
  | some handler =>
    match handler.fn with
    | some fn => dispatch hal frame ch payloadLength handler fn
    -- the entry at 0x0F
    | none => answer hal frame ResponseCode.commandUnsupported ReasonCode.unknownUnsupported
  | none => answer hal frame ResponseCode.commandUnsupported ReasonCode.unknownUnsupported

/-! ## Start-up and reload -/

/-- `NCSI_usePort` -/
def ncsiUsePort (port : PortPtr) : Fw Unit := modifyEngine fun e => { e with port0 := port }

/-- `NCSI_init` -/
def ncsiInit : Fw Unit := do
  let package ← boardConfigReadPackageID hal
  modifyEngine fun e => { e with gLocalPackageId := package }
  let channel ← boardConfigReadChannelID hal
  modifyEngine fun e => { e with gLocalChannelId := channel }
  resetChannel hal

/-- `NCSI_reload` -/
def ncsiReload (resetPhy : ReloadType) : Fw Unit := reloadChannel resetPhy

/-! ## Pass-through -/

/-- `NCSI_handlePassthrough`: network to BMC. -/
def ncsiHandlePassthrough : Fw Unit := do
  let port := (← getEngine).port0
  if port ≠ .null then
    if (← deref port).enabled then
      -- the engine counts the frame only when it had to be dropped
      if !(← networkPassthroughRxPacket hal) then
        assign port fun s => { s with statNetDropped := s.statNetDropped + 1 }

/-- The byte loop of `ncsi_passthrough_tx_from_mc`: compare a filter's bytes from `b`
    on with the source address, up to the first difference. -/
def macMatches (sourceMac : RxPtr) : List UInt8 → Nat → Fw Bool
  | [], _ => return true
  | m :: mac, b => do
    if m != (← sourceMac.rd b) then
      return false
    macMatches sourceMac mac (b + 1)

/-- The filter loop of `ncsi_passthrough_tx_from_mc`: is there an enabled unicast
    filter with the source address? -/
def sourceMatches (sourceMac : RxPtr) : List MacFilter → Fw Bool
  | [] => return false
  | filter :: filters => do
    -- `continue`
    if !filter.enabled || filter.addressType != 0 then
      return ← sourceMatches sourceMac filters
    if ← macMatches sourceMac filter.mac.toList 0 then
      return true
    sourceMatches sourceMac filters

/-- `ncsi_passthrough_tx_from_mc`: BMC to network. -/
def ncsiPassthroughTxFromMc (port : PortPtr) (sourceMac frame : RxPtr) (frameLen : Nat) :
    Fw Bool := do
  if port = .null then
    return false
  let s ← deref port
  if !s.txPassthroughEn then
    return false
  if !(← sourceMatches sourceMac s.macFilters.toList) then
    return false
  let ok ← networkTxFrame hal (frame.take frameLen)
  if ok then
    assign port fun s => { s with statNetTx := s.statNetTx + 1 }
  return ok

/-- `ncsi_on_rx_frame`: control frames go to the engine, the others are pass-through
    frames. It hands on `&gPorts[0]`, not `gPackageState.port[0]`. -/
def ncsiOnRxFrame (mem : Nat → UInt8) (frameLen : Nat) : Fw Unit := do
  if frameLen < sizeofControlPacketHeader then
    return ()
  let ncsiFrame := RxPtr.ofFrame mem
  -- the length is checked no further, nor handed to the engine
  if (← ncsiFrame.rd16 Header.etherType) = etherTypeNcsi then
    handleNCSIFrame hal ncsiFrame
  else
    let _ ← ncsiPassthroughTxFromMc hal .gPort (ncsiFrame.add Header.sourceAddress) ncsiFrame
      frameLen

end Hal

/-! ## Power-on -/

/-- Static storage before `main`: no port registered, the port object zeroed, the
    checksum setting at `NCSI_COMPUTE_CHECKSUM_DEFAULT`. -/
def Engine.powerOn : Engine where
  gLocalPackageId := 0
  gLocalChannelId := 0
  gNcsiComputeChecksum := false
  frame := initialFrame
  selected := false
  port0 := .null
  state := ChannelState.zero

def Machine.powerOn : Machine := { engine := Engine.powerOn, calls := [], reads := [] }

end NcsiResponder
