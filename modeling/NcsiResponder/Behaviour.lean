import NcsiResponder.UpstreamEngine

/-!
# What an engine makes of a request

Both engines keep the same `Settings`, and take the same `Payload` from a request, each in its
own way: upstream's differs from the port's in four fields (`payload_eq`). With what an engine
asks the chip and how it sends, that is its `Behaviour`. A behaviour turns what the engine
decides about a frame into driver calls and settings (`Behaviour.output`).
-/

namespace NcsiResponder

open BitFields

/-! ## Settings and payloads -/

/-- The settings both engines keep. -/
structure Settings where
  /-- the package is selected -/
  selected : Bool
  ready : Bool
  enabled : Bool
  txPassthrough : Bool
  vlan : Bool
  aenMcId : UInt32
  aenControl : UInt32
  linkSettings : UInt32
  oemLinkSettings : UInt32
  deriving DecidableEq

def ChannelState.shared (s : ChannelState) (selected : Bool) : Settings where
  selected := selected
  ready := s.ready
  enabled := s.enabled
  txPassthrough := s.txPassthroughEn
  vlan := s.vlanEnabled
  aenMcId := s.aenMcId.toUInt32
  aenControl := s.aenControl
  linkSettings := s.linkSettings
  oemLinkSettings := s.oemLinkSettings

def Upstream.ShmChannel.shared (s : ShmChannel) (selected : Bool) : Settings where
  selected := selected
  ready := s.ready
  enabled := s.enabled
  txPassthrough := s.txPassthrough
  vlan := s.vlan
  aenMcId := s.ncsiChannelMcid
  aenControl := s.ncsiChannelAen
  linkSettings := s.ncsiChannelSetting1
  oemLinkSettings := s.ncsiChannelSetting2

def Upstream.Machine.shared (u : Machine) : Settings := u.shm.shared u.selected

/-- The settings a reset leaves. -/
def Settings.reset (s : Settings) : Settings :=
  { s with ready := false, enabled := false, txPassthrough := false, vlan := false }

/-- The package is selected by most of what is addressed to it. -/
def Settings.select (s : Settings) (selects : Bool) : Settings :=
  { s with selected := selects || s.selected }

/-- What the handlers take from a request. -/
structure Payload where
  aenMcId : UInt32
  aenControl : UInt32
  linkSettings : UInt32
  oemLinkSettings : UInt32
  macHigh16 : UInt16
  macLow32 : UInt32
  index : UInt32
  enable : Bool
  /-- Enable VLAN leaves VLAN on -/
  enablesVLAN : Bool
  /-- Set VLAN Filter leaves VLAN as it is -/
  keepsVLAN : Bool

/-- As the port decodes it. -/
def payload (mem : ℕ → UInt8) : Payload where
  aenMcId := (mem AENEnable.aenMcId).toUInt32
  aenControl := Request.word mem AENEnable.aenControl
  linkSettings := Request.word mem SetLink.linkSettings
  oemLinkSettings := Request.word mem SetLink.oemLinkSettings
  macHigh16 := macHigh16 (Request.macAddress mem)
  macLow32 := macLow32 (Request.macAddress mem)
  index := Request.slot mem
  enable := Request.macEnable mem
  enablesVLAN := mem EnableVLAN.mode != 0
  keepsVLAN := true

/-- As upstream decodes it; its VLAN handlers all switch VLAN off. -/
def Upstream.payload (mem : ℕ → UInt8) : Payload where
  aenMcId := UInt32.ofNat (AENEnable.aenMcId mem)
  aenControl := joinHalves (AENEnable.aenControlLow mem) (AENEnable.aenControlHigh mem)
  linkSettings := joinHalves (SetLink.linkSettingsLow mem) (SetLink.linkSettingsHigh mem)
  oemLinkSettings := joinHalves (SetLink.oemLinkSettingsLow mem) (SetLink.oemLinkSettingsHigh mem)
  macHigh16 := UInt16.ofNat (SetMACAddr.mac54 mem)
  macLow32 := joinHalves (SetMACAddr.mac10 mem) (SetMACAddr.mac32 mem)
  index := reindexMacNumber (UInt32.ofNat (SetMACAddr.macNumber mem))
  enable := SetMACAddr.enable mem != 0
  enablesVLAN := false
  keepsVLAN := false

/-- `AEN_MC_ID` as upstream reads it: two bytes in front of where the port does. -/
def Upstream.aenMcIdOffset : ℕ := 31

/-- The enable bit of `MACInfo` as upstream reads it: the other end of the byte. -/
def Upstream.macEnable (mem : ℕ → UInt8) : Bool :=
  (mem NcsiResponder.SetMACAddr.macInfo).toNat % 2 != 0

/-- **Payloads, field by field**: upstream differs in four. -/
theorem payload_eq (mem : ℕ → UInt8) : Upstream.payload mem =
    { payload mem with
      aenMcId := (mem Upstream.aenMcIdOffset).toUInt32
      enable := Upstream.macEnable mem
      enablesVLAN := false
      keepsVLAN := false } := by
  obtain ⟨henable, -, hnumber⟩ := lastWord_fields mem
  have hmcid : UInt32.ofNat (Upstream.AENEnable.aenMcId mem) = (mem 31).toUInt32 := by
    have hfield : Upstream.AENEnable.aenMcId mem = (mem 31).toNat :=
      (bitField_bytes (mem 28) (mem 29) (mem 30) (mem 31)).1
    rw [hfield, UInt32.ofNat_uInt8ToNat]
  simp only [Upstream.payload, payload, Upstream.SetLink.linkSettingsLow,
    Upstream.SetLink.linkSettingsHigh, Upstream.SetLink.oemLinkSettingsLow,
    Upstream.SetLink.oemLinkSettingsHigh, Upstream.AENEnable.aenControlLow,
    Upstream.AENEnable.aenControlHigh, Upstream.SetMACAddr.mac54, Upstream.SetMACAddr.mac32,
    Upstream.SetMACAddr.mac10, field_low, field_high, joinHalves_be16, UInt16.ofNat_toNat,
    UInt32.ofNat_uInt8ToNat, hmcid, henable, hnumber]
  rfl

/-! ## Behaviours -/

/-- What Get Link Status reports. -/
@[ext] structure LinkReport where
  /-- whether the PHY has a link -/
  up : Bool
  word : UInt32
  deriving DecidableEq

/-- The calls to the MAC, newest first: it is asked where the PHY has no link, and restarts the
    link if it has none either. -/
def macCalls (up macLinkUp : Bool) : List HalCall :=
  if up then [] else (if macLinkUp then [] else [.resetLink]) ++ [.isLinkUp macLinkUp]

/-- What an engine makes of a request, on the chip as it is. Calls are newest first. -/
structure Behaviour where
  payload : Payload
  /-- the calls of a reset -/
  resetCalls : List HalCall
  /-- the calls by which Get Link Status asks the PHY -/
  phyCalls : List HalCall
  /-- what the MAC replies to Get Link Status -/
  macLinkUp : Bool
  report : LinkReport
  /-- the packet of a reply that is sent after these calls -/
  sends : List HalCall → Reply → HalCall

/-- What a command does to the settings. -/
def Command.stores (p : Payload) (s : Settings) : Command → Settings
  | clearInitialState => { s with ready := true }
  | selectPackage => { s with selected := true }
  | deselectPackage => { s with selected := false }
  | enableChannel => { s with enabled := true }
  | disableChannel => { s with enabled := false }
  | resetChannel => s.reset
  | enableChannelNetworkTX => { s with txPassthrough := true }
  | disableChannelNetworkTX => { s with txPassthrough := false }
  | aenEnable => { s with aenMcId := p.aenMcId, aenControl := p.aenControl }
  | setLink => { s with linkSettings := p.linkSettings, oemLinkSettings := p.oemLinkSettings }
  | setVLANFilter => { s with vlan := p.keepsVLAN && s.vlan }
  | enableVLAN => { s with vlan := p.enablesVLAN }
  | disableVLAN => { s with vlan := false }
  | _ => s

/-- How a command that completes is answered. -/
def Command.completion (word : UInt32) : Command → Reply
  | getLinkStatus => .linkStatus word
  | getCapabilities => .capabilities
  | getVersionID => .version
  | _ => .codes ResponseCode.commandComplete ReasonCode.none

/-- The driver calls of a command before it answers. -/
def Behaviour.drives (b : Behaviour) : Command → List HalCall
  | .enableChannel => [.initPort .asNeeded]
  | .resetChannel => b.resetCalls
  | .getLinkStatus => macCalls b.report.up b.macLinkUp ++ b.phyCalls
  | .setMACAddress =>
    [.setMACAddr b.payload.macHigh16 b.payload.macLow32 b.payload.index b.payload.enable]
  | _ => []

/-- The driver calls of a step, newest first, and the settings it leaves. -/
abbrev Output : Type := List HalCall × Settings

/-- A command that completes. -/
def Behaviour.completes (b : Behaviour) (s : Settings) (c : Command) : Output :=
  (b.sends (b.drives c) (c.completion b.report.word) :: b.drives c, c.stores b.payload s)

/-- A command that is refused. -/
def Behaviour.refuses (b : Behaviour) (s : Settings) (responseCode reasonCode : UInt16) : Output :=
  ([b.sends [] (.codes responseCode reasonCode)], s)

/-! ## Decisions -/

/-- What an engine decides about a received frame. -/
inductive Decision where
  | fault
  | silent (selects : Bool)
  | refuse (responseCode reasonCode : UInt16) (selects : Bool)
  | complete (c : Command)
  deriving DecidableEq

/-- The output that a decision leads to. -/
def Behaviour.output (b : Behaviour) (s : Settings) : Decision → Option Output
  | .fault => none
  | .silent selects => some ([], s.select selects)
  | .refuse rc reason selects => some (b.refuses (s.select selects) rc reason)
  | .complete c => some (b.completes (s.select true) c)

theorem output_eq_none_iff {b : Behaviour} {s : Settings} {d : Decision} :
    b.output s d = none ↔ d = .fault := by
  cases d <;> simp [Behaviour.output]

end NcsiResponder
