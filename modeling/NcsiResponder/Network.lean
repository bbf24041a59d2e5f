import NcsiResponder.Ethernet

/-!
# Channel state and hardware abstraction layer (Network.h)

`ncsi_channel_state_t` is a record. The HAL is code outside the engine: a `Hal`
answers each call from the calls made so far, so a theorem over every `Hal`
covers every sequence of replies. A `HalCall` is one call with its arguments and
its reply. There is one port object, so the port argument is left out.
-/

namespace NcsiResponder

/-! ## Channel state -/

/-- `NCSI_MAX_MAC_FILTERS` -/
abbrev maxMacFilters : Nat := 8

/-- One Set MAC Address filter slot (`ncsi_mac_filter_t`). -/
structure MacFilter where
  enabled : Bool
  /-- Table 68: 0 = unicast, 1 = multicast -/
  addressType : UInt8
  /-- wire order, most significant byte first -/
  mac : Vector UInt8 6
  deriving DecidableEq, Repr

/-- The cached Get Link Status bits (`link_status`, all one bit wide). -/
structure LinkStatus where
  linkUp : Bool
  autonegHcd : Bool
  autonegEnabled : Bool
  autonegComplete : Bool
  deriving DecidableEq, Repr

/-- `ncsi_channel_state_t` -/
structure ChannelState where
  ready : Bool
  enabled : Bool
  txPassthroughEn : Bool
  vlanEnabled : Bool
  aenMcId : UInt8
  aenControl : UInt32
  linkSettings : UInt32
  oemLinkSettings : UInt32
  broadcastFilterSettings : UInt32
  macFilters : Vector MacFilter maxMacFilters
  linkStatus : LinkStatus
  statNcsiRx : UInt32
  statNcsiTx : UInt32
  statNetRx : UInt32
  statNetTx : UInt32
  statNetDropped : UInt32
  deriving DecidableEq, Repr

/-- A filter slot of zeroed memory. -/
def MacFilter.zero : MacFilter :=
  { enabled := false, addressType := 0, mac := Vector.replicate 6 0 }

/-- The channel state of zeroed memory. -/
def ChannelState.zero : ChannelState where
  ready := false
  enabled := false
  txPassthroughEn := false
  vlanEnabled := false
  aenMcId := 0
  aenControl := 0
  linkSettings := 0
  oemLinkSettings := 0
  broadcastFilterSettings := 0
  macFilters := Vector.replicate maxMacFilters MacFilter.zero
  linkStatus :=
    { linkUp := false, autonegHcd := false, autonegEnabled := false, autonegComplete := false }
  statNcsiRx := 0
  statNcsiTx := 0
  statNetRx := 0
  statNetTx := 0
  statNetDropped := 0

/-! ## HAL -/

/-- A call out of the engine, with its arguments and its reply. -/
inductive HalCall where
  | readPackageID (reply : UInt8)
  | readChannelID (reply : UInt8)
  | initPort (resetPhy : ReloadType)
  | isLinkUp (reply : Bool)
  | resetLink
  | setMACAddr (macHigh16 : UInt16) (macLow32 : UInt32) (index : UInt32) (enable : Bool)
  | passthroughRxPacket (reply : Bool)
  | txFrame (frame : List UInt8) (reply : Bool)
  | getPhy (reply : UInt8)
  | readRegister (phy reg : UInt8) (reply : Int32)
  | miiReset (phy : UInt8) (reply : Bool)
  deriving DecidableEq

/-- The board code behind Network.h and ncsi_board_config.h: each reply may depend
    on every call made so far (newest first). The C functions are also given the port;
    that no reply depends on `port->state` is assumed. -/
structure Hal where
  readPackageID : List HalCall → UInt8
  readChannelID : List HalCall → UInt8
  isLinkUp : List HalCall → Bool
  passthroughRxPacket : List HalCall → Bool
  txFrame : List HalCall → List UInt8 → Bool
  getPhy : List HalCall → UInt8
  readRegister : List HalCall → UInt8 → UInt8 → Int32
  miiReset : List HalCall → UInt8 → Bool

/-- `REG_MII_BASIC_STATUS` -/
def regMiiBasicStatus : UInt8 := 1

/-- `MII_BMSR_LINK_STATUS_BIT` -/
def miiBmsrLinkStatusBit : UInt16 := (1 : UInt16) <<< 2

end NcsiResponder
