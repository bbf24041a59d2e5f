import NcsiResponder.Dispatch

/-!
# What each command does

The engine in closed form. A `Command` is what an opcode of the handler table asks
for; for each one this file says which bytes of the request it reads, which HAL
calls it makes, what it does to the channel state and how it is answered.
`verdict` is the dispatcher's decision, and `Machine.handle` puts the two together:
what one received frame does to the machine. `Execution.lean` proves that the
engine's code computes exactly this.
-/

namespace NcsiResponder

open BigEndian

/-! ## Request fields -/

namespace Request

variable (mem : Nat → UInt8)

/-- The package bits of `ChannelID`. -/
def package : UInt8 := mem Header.channelID >>> packageIdShift

/-- The channel bits of `ChannelID`. -/
def channel : UInt8 := mem Header.channelID &&& channelIdMask

/-- `ControlPacketType` -/
def opcode : UInt8 := mem Header.controlPacketType

/-- `NCSI_PAYLOAD_LENGTH` -/
def payloadLength : UInt16 :=
  be16 (mem Header.payloadLength) (mem (Header.payloadLength + 1)) &&& 0x0FFF

/-- The big-endian 32-bit field at `off`. -/
def word (off : Nat) : UInt32 := be32 (mem off) (mem (off + 1)) (mem (off + 2)) (mem (off + 3))

/-- The 12-bit VLAN ID of Set VLAN Filter. -/
def vlanID : UInt16 := be16 (mem SetVLANFilter.vlanID) (mem (SetVLANFilter.vlanID + 1)) &&& 0x0FFF

/-- Set VLAN Filter enables VLAN ID 0, which names no VLAN. -/
def vlanTagInvalid : Bool :=
  ((mem SetVLANFilter.enable &&& 0x01) != 0) && vlanID mem == 0

/-- The MAC address bytes of Set MAC Address. -/
def macAddress : Vector UInt8 6 := #v[mem 30, mem 31, mem 32, mem 33, mem 34, mem 35]

/-- The slot index Set MAC Address hands to the driver. -/
def slot : UInt32 := reindexMacNumber (mem SetMACAddr.macNumber).toUInt32

/-- MACNumber `n` names slot `n - 1`; 0 names slot 0 too. -/
theorem slot_toNat : (slot mem).toNat = (mem SetMACAddr.macNumber).toNat - 1 := by
  have hlt := (mem SetMACAddr.macNumber).toNat_lt
  rw [slot, reindexMacNumber]
  -- the subtraction is guarded, so it does not wrap
  split
  · next hpos =>
    have hpos' := UInt32.lt_iff_toNat_lt.mp hpos
    simp only [UInt8.toNat_toUInt32, UInt32.toNat_zero] at hpos'
    have hone : (1 : UInt32) ≤ (mem SetMACAddr.macNumber).toUInt32 := by
      simpa [UInt32.le_iff_toNat_le] using Nat.succ_le_of_lt hpos'
    simp [UInt32.toNat_sub_of_le _ _ hone]
  · next hzero =>
    have hzero' : ¬ 0 < (mem SetMACAddr.macNumber).toNat := by
      simpa [UInt32.lt_iff_toNat_lt] using hzero
    simp only [UInt8.toNat_toUInt32]
    omega

/-- The enable bit of Set MAC Address, as `SETMAC_ENABLE` decodes it. -/
def macEnable : Bool := setmacEnable (mem SetMACAddr.macInfo) != 0

/-- The filter slot contents Set MAC Address asks for. -/
def macFilter : MacFilter :=
  { enabled := macEnable mem
    addressType := setmacAT (mem SetMACAddr.macInfo)
    mac := macAddress mem }

end Request

/-! ## Commands -/

/-- What an entry of the handler table asks for. -/
inductive Command where
  | clearInitialState
  | selectPackage
  | deselectPackage
  | enableChannel
  | disableChannel
  | resetChannel
  | enableChannelNetworkTX
  | disableChannelNetworkTX
  | aenEnable
  | setLink
  | getLinkStatus
  | setVLANFilter
  | enableVLAN
  | disableVLAN
  | setMACAddress
  | enableBroadcastFilter
  | disableBroadcastFilter
  | unsupported
  | getVersionID
  | getCapabilities
  deriving DecidableEq, Repr

namespace Command

/-- The handler behind a command. -/
def fn (hal : Hal) : Command → RxPtr → Fw Unit
  | clearInitialState => clearInitialStateHandler hal
  | selectPackage => selectPackageHandler hal
  | deselectPackage => deselectPackageHandler hal
  | enableChannel => enableChannelHandler hal
  | disableChannel => disableChannelHandler hal
  | resetChannel => resetChannelHandler hal
  | enableChannelNetworkTX => enableChannelNetworkTXHandler hal
  | disableChannelNetworkTX => disableChannelNetworkTXHandler hal
  | aenEnable => aenEnableHandler hal
  | setLink => setLinkHandler hal
  | getLinkStatus => getLinkStatusHandler hal
  | setVLANFilter => NcsiResponder.setVLANFilter hal
  | enableVLAN => enableVLANHandler hal
  | disableVLAN => disableVLANHandler hal
  | setMACAddress => setMACAddressHandler hal
  | enableBroadcastFilter => enableBroadcastFilteringHandler hal
  | disableBroadcastFilter => disableBroadcastFilteringHandler hal
  | unsupported => unknownHandler hal
  | getVersionID => NcsiResponder.getVersionID hal
  | getCapabilities => NcsiResponder.getCapabilities hal

/-- `.ignoreInit` -/
def ignoreInit : Command → Bool
  | clearInitialState => true
  | _ => false

/-- `.packageCommand` -/
def packageCommand : Command → Bool
  | selectPackage | deselectPackage => true
  | _ => false

end Command

/-- The handler table by opcode: command and `.payloadLength`. -/
def commandTable : List (Option (Command × Nat)) := [
  some (.clearInitialState, 0), some (.selectPackage, 4), some (.deselectPackage, 0),
  some (.enableChannel, 0), some (.disableChannel, 4), some (.resetChannel, 4),
  some (.enableChannelNetworkTX, 0), some (.disableChannelNetworkTX, 0),
  some (.aenEnable, 8), some (.setLink, 8), some (.getLinkStatus, 0),
  some (.setVLANFilter, 8), some (.enableVLAN, 4), some (.disableVLAN, 0),
  some (.setMACAddress, 8), none,
  some (.enableBroadcastFilter, 4), some (.disableBroadcastFilter, 0),
  some (.unsupported, 4), some (.unsupported, 0), some (.unsupported, 4),
  some (.getVersionID, 0), some (.getCapabilities, 0),
  some (.unsupported, 0), some (.unsupported, 0), some (.unsupported, 0), some (.unsupported, 0)]

/-- The table entry of a command. -/
def toHandler (hal : Hal) : Option (Command × Nat) → NcsiHandler
  | some (c, len) => ⟨c.ignoreInit, c.packageCommand, len, some (c.fn hal)⟩
  | none => ⟨false, false, 0, none⟩

theorem gNCSIHandlers_eq (hal : Hal) : gNCSIHandlers hal = commandTable.map (toHandler hal) := rfl

/-- The command and payload length an opcode stands for, if any. -/
def lookup (opcode : UInt8) : Option (Command × Nat) := (commandTable[opcode.toNat]?).join

/-- The opcode of a command; of `unsupported`, which has several, the first. -/
def Command.opcode : Command → UInt8
  | clearInitialState => ControlPacketType.clearInitialState
  | selectPackage => ControlPacketType.selectPackage
  | deselectPackage => ControlPacketType.deselectPackage
  | enableChannel => ControlPacketType.enableChannel
  | disableChannel => ControlPacketType.disableChannel
  | resetChannel => ControlPacketType.resetChannel
  | enableChannelNetworkTX => ControlPacketType.enableChannelNetworkTX
  | disableChannelNetworkTX => ControlPacketType.disableChannelNetworkTX
  | aenEnable => ControlPacketType.aenEnable
  | setLink => ControlPacketType.setLink
  | getLinkStatus => ControlPacketType.getLinkStatus
  | setVLANFilter => ControlPacketType.setVLANFilter
  | enableVLAN => ControlPacketType.enableVLAN
  | disableVLAN => ControlPacketType.disableVLAN
  | setMACAddress => ControlPacketType.setMACAddress
  | enableBroadcastFilter => ControlPacketType.enableBroadcastFiltering
  | disableBroadcastFilter => ControlPacketType.disableBroadcastFiltering
  | unsupported => ControlPacketType.enableGlobalMulticastFiltering
  | getVersionID => ControlPacketType.getVersionID
  | getCapabilities => ControlPacketType.getCapabilities

/-- A command other than `unsupported` has one opcode. -/
theorem lookup_opcode {opcode : UInt8} {c : Command} {len : Nat}
    (h : lookup opcode = some (c, len)) (hc : c ≠ .unsupported) : opcode = c.opcode := by
  -- every entry of the table, by its index
  have htable : ∀ i : Fin commandTable.length, ∀ entry ∈ commandTable[i],
      entry.1 ≠ .unsupported → i.val = entry.1.opcode.toNat := by decide
  simp only [lookup, Option.join_eq_some_iff] at h
  obtain ⟨hlt, hentry⟩ := List.getElem?_eq_some_iff.mp h
  have hopcode := htable ⟨opcode.toNat, hlt⟩ (c, len) hentry hc
  exact UInt8.toNat_inj.mp hopcode

/-! ## Dispatch -/

/-- What the dispatcher does with a frame addressed to this instance. -/
inductive Verdict where
  | refuse (responseCode reasonCode : UInt16)
  /-- refused before Clear Initial State; the package counts as selected all the same -/
  | uninitialized
  | run (c : Command)
  deriving DecidableEq

/-- Package and channel bits name this instance. -/
def Engine.addressed (e : Engine) (mem : Nat → UInt8) : Bool :=
  Request.package mem == e.gLocalPackageId &&
    (Request.channel mem == channelIdPackage || Request.channel mem == e.gLocalChannelId)

/-- The branches of `handleNCSIFrame` for an addressed frame. -/
def verdict (e : Engine) (mem : Nat → UInt8) : Verdict :=
  match lookup (Request.opcode mem) with
  | none => .refuse ResponseCode.commandUnsupported ReasonCode.unknownUnsupported
  | some (c, len) =>
    if len ≠ (Request.payloadLength mem).toNat then
      .refuse ResponseCode.commandFailed ReasonCode.invalidPayloadLength
    else if (c.packageCommand && Request.channel mem == channelIdPackage) || c.ignoreInit then
      .run c
    else if Request.channel mem ≠ e.gLocalChannelId then
      .refuse ResponseCode.commandFailed ReasonCode.invalidParam
    else if e.state.ready = false then
      .uninitialized
    else
      .run c

/-- When a frame is handed to a handler. -/
theorem verdict_eq_run {e : Engine} {mem : Nat → UInt8} {c : Command} :
    verdict e mem = .run c ↔
      lookup (Request.opcode mem) = some (c, (Request.payloadLength mem).toNat) ∧
        ((c.packageCommand = true ∧ Request.channel mem = channelIdPackage) ∨
          c.ignoreInit = true ∨
          (Request.channel mem = e.gLocalChannelId ∧ e.state.ready = true)) := by
  rw [verdict]
  rcases lookup (Request.opcode mem) with _ | ⟨c', len⟩
  · simp
  simp only [Option.some.injEq, Prod.mk.injEq, Bool.or_eq_true, Bool.and_eq_true, beq_iff_eq]
  -- a wrong payload length is refused before any other check
  by_cases hlen : len = (Request.payloadLength mem).toNat
  · split_ifs <;> grind
  · simp [hlen]

/-- A refusal carries an error code and a reason. -/
theorem verdict_eq_refuse {e : Engine} {mem : Nat → UInt8} {rc reason : UInt16}
    (h : verdict e mem = .refuse rc reason) :
    rc ≠ ResponseCode.commandComplete ∧ reason ≠ ReasonCode.none := by
  -- every refusing branch names its own codes
  rw [verdict] at h
  repeat' split at h
  all_goals cases h
  all_goals decide

/-! ## Channel state -/

namespace ChannelState

/-- `resetChannel` on the channel state. -/
def reset (s : ChannelState) : ChannelState :=
  { s with
    ready := false
    enabled := false
    txPassthroughEn := false
    vlanEnabled := false
    broadcastFilterSettings := 0
    macFilters := s.macFilters.map fun filter => { filter with enabled := false }
    statNcsiRx := 0
    statNcsiTx := 0
    statNetRx := 0
    statNetTx := 0 }

/-- Get Link Status on the channel state: `reading` is the link bit of the status
    register, if that could be read. -/
def reportLink (reading : Option Bool) (s : ChannelState) : ChannelState :=
  { s with
    linkStatus :=
      { s.linkStatus with
        linkUp := reading.getD s.linkStatus.linkUp
        autonegHcd := reading.getD s.linkStatus.autonegHcd
        autonegEnabled := true } }

/-- Set MAC Address on the channel state: only a slot that exists is written. -/
def trackMac (mem : Nat → UInt8) (s : ChannelState) : ChannelState :=
  let filter := Request.macFilter mem
  { s with macFilters := s.macFilters.setIfInBounds (Request.slot mem).toNat filter }

end ChannelState

/-! ## HAL calls -/

section Hal

variable (hal : Hal)

/-- The calls of `resetChannel`, newest first. -/
def resetCalls (calls : List HalCall) : List HalCall :=
  let phy := hal.getPhy calls
  [.miiReset phy (hal.miiReset (.getPhy phy :: calls) phy), .getPhy phy]

/-- The register read of Get Link Status. -/
def bmsr (calls : List HalCall) : Int32 :=
  hal.readRegister (.getPhy (hal.getPhy calls) :: calls) (hal.getPhy calls) regMiiBasicStatus

/-- The link bit read by Get Link Status, if the register could be read. -/
def linkReading (calls : List HalCall) : Option Bool :=
  if 0 ≤ bmsr hal calls then some (bmsrLinkUp (bmsr hal calls)) else none

/-- The calls of Get Link Status, newest first. -/
def linkCalls (cached : Bool) (calls : List HalCall) : List HalCall :=
  -- the MAC is asked only when the link bit is down
  let phyCalls := [HalCall.readRegister (hal.getPhy calls) regMiiBasicStatus (bmsr hal calls),
    .getPhy (hal.getPhy calls)]
  if (linkReading hal calls).getD cached then
    phyCalls
  else
    let macLinkUp := hal.isLinkUp (phyCalls ++ calls)
    (if macLinkUp then [] else [.resetLink]) ++ .isLinkUp macLinkUp :: phyCalls

/-- The call of Set MAC Address. -/
def programCall (mem : Nat → UInt8) : HalCall :=
  .setMACAddr (macHigh16 (Request.macAddress mem)) (macLow32 (Request.macAddress mem))
    (Request.slot mem) (Request.macEnable mem)

end Hal

/-! ## Replies -/

/-- The builders and what they are given besides the request's header bytes. -/
inductive Reply where
  | codes (responseCode reasonCode : UInt16)
  | linkStatus (word : UInt32)
  | capabilities
  | version
  deriving DecidableEq

namespace Reply

/-- The static frame a reply is built in. -/
def frameVar : Reply → FrameVar
  | codes _ _ => .gResponseFrame
  | linkStatus _ => .gLinkStatusResponseFrame
  | capabilities => .gCapabilitiesFrame
  | version => .gVersionFrame

def responseCode : Reply → UInt16
  | codes rc _ => rc
  | _ => ResponseCode.commandComplete

def reasonCode : Reply → UInt16
  | codes _ reason => reason
  | _ => ReasonCode.none

/-- The request bytes a reply echoes, in the order they are read. -/
def reads : Reply → List Nat
  | codes _ _ => [Header.instanceID, Header.channelID, Header.controlPacketType]
  | linkStatus _ => [Header.instanceID, Header.channelID]
  | capabilities | version => [Header.channelID, Header.controlPacketType, Header.instanceID]

/-- The assignments of the builders of a preset payload. -/
def fillPreset (mem : Nat → UInt8) (f : NetworkFrame) : NetworkFrame :=
  ((((f.set8 Header.channelID (mem Header.channelID)).set8 Header.controlPacketType
    (mem Header.controlPacketType ||| ControlPacketType.response)).set8
    Header.instanceID (mem Header.instanceID)).wr16
    Response.responseCode ResponseCode.commandComplete).wr16
    Response.reasonCode ReasonCode.none

/-- The assignments of the builder of a reply. -/
def fill (mem : Nat → UInt8) : Reply → NetworkFrame → NetworkFrame
  | codes rc reason, f =>
    ((((f.set8 Header.channelID (mem Header.channelID)).set8 Header.controlPacketType
      ((mem Header.controlPacketType).toUInt16 |||
        ControlPacketType.response.toUInt16).toUInt8).set8
      Header.instanceID (mem Header.instanceID)).wr16 Response.responseCode rc).wr16
      Response.reasonCode reason
  -- the packet type is not assigned
  | linkStatus word, f =>
    ((((((f.set8 Header.channelID (mem Header.channelID)).set8
      Header.instanceID (mem Header.instanceID)).wr16
      Response.responseCode ResponseCode.commandComplete).wr16
      Response.reasonCode ReasonCode.none).wr32
      LinkStatusResponse.linkStatus word).wr32
      LinkStatusResponse.oemLinkStatus 0).wr32
      LinkStatusResponse.otherIndications 0
  | capabilities, f => fillPreset mem f
  | version, f => fillPreset mem f

end Reply

/-! ## Effects -/

namespace Command

/-- The request bytes a command reads before it answers, in order. -/
def reads (mem : Nat → UInt8) : Command → List Nat
  | disableChannel => [Header.channelID, DisableChannel.ald]
  | enableChannel | enableChannelNetworkTX | disableChannelNetworkTX | disableVLAN
  | disableBroadcastFilter => [Header.channelID]
  | aenEnable => List.range' AENEnable.aenControl 4 ++ [AENEnable.aenMcId]
  | setLink => List.range' SetLink.linkSettings 4 ++ List.range' SetLink.oemLinkSettings 4
  | setVLANFilter =>
    [Header.channelID, SetVLANFilter.vlanID, SetVLANFilter.vlanID + 1,
      SetVLANFilter.filterSelector, SetVLANFilter.enable]
  | enableVLAN => [Header.channelID, EnableVLAN.mode]
  | setMACAddress =>
    [SetMACAddr.macNumber, Header.channelID, SetMACAddr.macInfo, SetMACAddr.macInfo] ++
      List.range' SetMACAddr.macAddress 6 ++
      if (Request.slot mem).toNat < maxMacFilters then List.range' SetMACAddr.macAddress 6 else []
  | enableBroadcastFilter =>
    Header.channelID :: List.range' EnableBroadcastFilter.broadcastPacketFilterSettings 4
  | clearInitialState | selectPackage | deselectPackage | resetChannel | getLinkStatus
  | unsupported | getVersionID | getCapabilities => []

/-- The HAL calls a command makes before it answers, newest first, on top of `calls`. -/
def newCalls (hal : Hal) (mem : Nat → UInt8) (s : ChannelState) (calls : List HalCall) :
    Command → List HalCall
  | enableChannel => [.initPort .asNeeded]
  | resetChannel => resetCalls hal calls
  | getLinkStatus => linkCalls hal s.linkStatus.linkUp calls
  | setMACAddress => [programCall mem]
  | _ => []

/-- What a command does to the channel state. -/
def newState (hal : Hal) (mem : Nat → UInt8) (calls : List HalCall) (s : ChannelState) :
    Command → ChannelState
  | clearInitialState => { s with ready := true }
  | enableChannel => { s with enabled := true }
  | disableChannel => { s with enabled := false }
  | resetChannel => s.reset
  | enableChannelNetworkTX => { s with txPassthroughEn := true }
  | disableChannelNetworkTX => { s with txPassthroughEn := false }
  | aenEnable =>
    { s with
      aenMcId := mem AENEnable.aenMcId
      aenControl := Request.word mem AENEnable.aenControl }
  | setLink =>
    { s with
      linkSettings := Request.word mem SetLink.linkSettings
      oemLinkSettings := Request.word mem SetLink.oemLinkSettings }
  | getLinkStatus => s.reportLink (linkReading hal calls)
  | enableVLAN => { s with vlanEnabled := mem EnableVLAN.mode != 0 }
  | disableVLAN => { s with vlanEnabled := false }
  | setMACAddress => s.trackMac mem
  | enableBroadcastFilter =>
    { s with broadcastFilterSettings :=
        Request.word mem EnableBroadcastFilter.broadcastPacketFilterSettings }
  | disableBroadcastFilter => { s with broadcastFilterSettings := 0 }
  | selectPackage | deselectPackage | setVLANFilter | unsupported | getVersionID
  | getCapabilities => s

/-- How a command is answered, from the channel state it leaves. -/
def reply (mem : Nat → UInt8) (s : ChannelState) : Command → Reply
  | getLinkStatus => .linkStatus s.linkStatus.word
  | getVersionID => .version
  | getCapabilities => .capabilities
  | unsupported => .codes ResponseCode.commandUnsupported ReasonCode.unknownUnsupported
  | setVLANFilter =>
    if Request.vlanTagInvalid mem then
      .codes ResponseCode.commandFailed ReasonCode.vlanTagIsInvalid
    else .codes ResponseCode.commandComplete ReasonCode.none
  | _ => .codes ResponseCode.commandComplete ReasonCode.none

/-- `gPackageState.selected` after a command that was run. -/
def selects : Command → Bool
  | deselectPackage => false
  | _ => true

end Command

/-- How a frame addressed to this instance is answered, from the channel state that the
    dispatcher's decision leaves. -/
def Verdict.reply (mem : Nat → UInt8) (s : ChannelState) : Verdict → Reply
  | .refuse rc reason => .codes rc reason
  | .uninitialized => .codes ResponseCode.commandFailed ReasonCode.initializationRequired
  | .run c => c.reply mem s

/-! ## The machine -/

/-- What `ncsi_compute_checksum` makes of a response frame. -/
def NetworkFrame.checksummed (f : NetworkFrame) (v : FrameVar) : NetworkFrame :=
  f.wr32 v.checksum.toNat
    (0 - wordSum (region f.bytes Header.managmentControllerID
      (v.checksum.toNat - Header.managmentControllerID)))

/-- The frame a reply is sent in. -/
def Engine.outFrame (e : Engine) (mem : Nat → UInt8) (r : Reply) : NetworkFrame :=
  let f := r.fill mem (e.frame r.frameVar)
  if e.gNcsiComputeChecksum then f.checksummed r.frameVar else f

/-- The bytes a reply goes out as. -/
def Engine.outBytes (e : Engine) (mem : Nat → UInt8) (r : Reply) : List UInt8 :=
  (e.outFrame mem r).bytes.take r.frameVar.packetSize

namespace Machine

/-- Log that the received bytes `is` were read, in this order. -/
def readAll (is : List Nat) (m : Machine) : Machine := { m with reads := is.reverse ++ m.reads }

/-- Build and send a reply. -/
def respond (hal : Hal) (mem : Nat → UInt8) (r : Reply) (m : Machine) : Machine :=
  let bytes := m.engine.outBytes mem r
  let sent := hal.txFrame m.calls bytes
  let s := m.engine.state
  { engine :=
      { m.engine with
        frame := Function.update m.engine.frame r.frameVar (m.engine.outFrame mem r)
        state := { s with statNcsiTx := if sent then s.statNcsiTx + 1 else s.statNcsiTx } }
    calls := .txFrame bytes sent :: m.calls
    reads := r.reads.reverse ++ m.reads }

/-- Select the package. -/
def select (m : Machine) : Machine := { m with engine := { m.engine with selected := true } }

/-- Count a frame that is handed to its handler. -/
def accept (m : Machine) : Machine :=
  let s := m.engine.state
  { m with engine := { m.engine with
      selected := true
      state := { s with statNcsiRx := s.statNcsiRx + 1 } } }

/-- Run a command up to its answer. -/
def perform (hal : Hal) (mem : Nat → UInt8) (c : Command) (m : Machine) : Machine :=
  { engine := { m.engine with
      selected := c.selects
      state := c.newState hal mem m.calls m.engine.state }
    calls := c.newCalls hal mem m.engine.state m.calls ++ m.calls
    reads := (c.reads mem).reverse ++ m.reads }

/-- Run a command and answer it. -/
def execute (hal : Hal) (mem : Nat → UInt8) (c : Command) (m : Machine) : Machine :=
  -- Get Link Status answers with the bits it has just updated
  let m := m.perform hal mem c
  m.respond hal mem (c.reply mem m.engine.state)

/-- What the dispatcher's decision does before the answer. -/
def work (hal : Hal) (mem : Nat → UInt8) (m : Machine) : Verdict → Machine
  | .refuse _ _ => m
  | .uninitialized => m.select
  | .run c => m.accept.perform hal mem c

/-- What the dispatcher's decision does. -/
def conclude (hal : Hal) (mem : Nat → UInt8) (m : Machine) (v : Verdict) : Machine :=
  let m := m.work hal mem v
  m.respond hal mem (v.reply mem m.engine.state)

/-- The header bytes the dispatcher reads, in order. -/
def headerReads (e : Engine) (mem : Nat → UInt8) : List Nat :=
  if Request.package mem ≠ e.gLocalPackageId then [Header.channelID]
  else if e.addressed mem then
    [Header.channelID, Header.channelID, Header.controlPacketType, Header.payloadLength,
      Header.payloadLength + 1]
  else [Header.channelID, Header.channelID]

/-- **What one received frame does**: `handleNCSIFrame` in closed form. -/
def handle (hal : Hal) (mem : Nat → UInt8) (m : Machine) : Machine :=
  let read := m.readAll (headerReads m.engine mem)
  if m.engine.addressed mem then read.conclude hal mem (verdict m.engine mem) else read

end Machine

end NcsiResponder
