import NcsiResponder.Counters

/-!
# Tracked settings

Five commands carry a setting that is to be recorded, though nothing enforces it. Set
VLAN Filter records nothing, and Enable VLAN only whether there is a mode: for which
pairs of acknowledged settings the channel state differs is `settings_recorded_iff`.
-/

namespace NcsiResponder

/-- The setting a configuration command carries. -/
inductive Setting where
  | aenEnable (aenMcId : UInt8) (aenControl : UInt32)
  | setLink (linkSettings oemLinkSettings : UInt32)
  | setVLANFilter (vlanID : UInt16) (filterSelector : UInt8) (enable : Bool)
  | enableVLAN (mode : UInt8)
  | enableBroadcastFilter (broadcastPacketFilterSettings : UInt32)
  deriving DecidableEq

/-- The setting a frame carries as this command, if that is a tracked one. -/
def Request.setting (mem : Nat → UInt8) : Command → Option Setting
  | .aenEnable =>
    some (.aenEnable (mem AENEnable.aenMcId) (Request.word mem AENEnable.aenControl))
  | .setLink =>
    some (.setLink (Request.word mem SetLink.linkSettings)
      (Request.word mem SetLink.oemLinkSettings))
  | .setVLANFilter =>
    some (.setVLANFilter (Request.vlanID mem) (mem SetVLANFilter.filterSelector)
      ((mem SetVLANFilter.enable &&& 0x01) != 0))
  | .enableVLAN => some (.enableVLAN (mem EnableVLAN.mode))
  | .enableBroadcastFilter =>
    some (.enableBroadcastFilter
      (Request.word mem EnableBroadcastFilter.broadcastPacketFilterSettings))
  | _ => none

/-- The difference between two settings is recorded: of a VLAN mode only whether it is
    zero, of a VLAN filter nothing. -/
def Recorded (mem mem' : Nat → UInt8) : Command → Prop
  | .aenEnable | .setLink | .enableBroadcastFilter => True
  | .enableVLAN => ¬ (mem EnableVLAN.mode = 0 ↔ mem' EnableVLAN.mode = 0)
  | _ => False

section Hal

variable {hal : Hal} {m : Machine} {mem mem' : Nat → UInt8} {c : Command}

/-- A command leaves different settings behind exactly when the difference is recorded. -/
theorem newState_settings_ne_iff (calls : List HalCall) (s : ChannelState)
    (hdiffer : Request.setting mem c ≠ Request.setting mem' c) :
    (c.newState hal mem calls s).settings ≠ (c.newState hal mem' calls s).settings ↔
      Recorded mem mem' c := by
  cases c with
  | aenEnable =>
    refine iff_of_true (fun hsame => hdiffer ?_) trivial
    exact congrArg (fun s : ChannelState => some (Setting.aenEnable s.aenMcId s.aenControl)) hsame
  | setLink =>
    refine iff_of_true (fun hsame => hdiffer ?_) trivial
    exact congrArg
      (fun s : ChannelState => some (Setting.setLink s.linkSettings s.oemLinkSettings)) hsame
  | enableBroadcastFilter =>
    refine iff_of_true (fun hsame => hdiffer ?_) trivial
    exact congrArg
      (fun s : ChannelState => some (Setting.enableBroadcastFilter s.broadcastFilterSettings)) hsame
  | setVLANFilter => exact iff_of_false (not_not_intro rfl) not_false
  | enableVLAN =>
    have hmode : (mem EnableVLAN.mode != 0) = (mem' EnableVLAN.mode != 0) ↔
        (mem EnableVLAN.mode = 0 ↔ mem' EnableVLAN.mode = 0) := by
      rw [Bool.eq_iff_iff, bne_iff_ne, bne_iff_ne, not_iff_not]
    refine not_congr (Iff.trans ⟨fun hsame => ?_, fun hsame => ?_⟩ hmode)
    · exact congrArg ChannelState.vlanEnabled hsame
    · exact congrArg (fun b => ({ s with vlanEnabled := b } : ChannelState).settings) hsame
  | _ => exact absurd rfl hdiffer

/-- What a command that keeps the counters leaves of the channel state. -/
theorem step_state_of_ran (hran : m.engine.runs mem = some c) (hreset : c ≠ .resetChannel) :
    (m.step hal (.rxFrame mem)).engine.state =
      { (c.newState hal mem m.calls m.engine.state).settings with
        statNcsiRx := m.engine.state.statNcsiRx + 1
        statNcsiTx := m.engine.state.statNcsiTx +
          UInt32.ofNat (transmitted ⟨m, .rxFrame mem, m.step hal (.rxFrame mem)⟩)
        statNetRx := m.engine.state.statNetRx
        statNetTx := m.engine.state.statNetTx
        statNetDropped := m.engine.state.statNetDropped } := by
  obtain ⟨haddressed, hverdict⟩ := Engine.runs_eq_some.mp hran
  have hworked : (m.worked hal mem).engine.state =
      c.newState hal mem m.calls m.accept.engine.state := by
    unfold Machine.worked
    rw [hverdict]
    rfl
  rw [transmitted_control rfl, if_pos haddressed, Machine.step_engine, Op.action, Machine.act,
    Machine.handle_engine, if_pos haddressed, Machine.conclude_state, hworked, ite_add_one_eq]
  cases c with
  | resetChannel => exact absurd rfl hreset
  | _ => rfl

/-- A frame is answered once at most, so the counter tells whether its response was sent. -/
theorem transmitted_inj (n : UInt32)
    (hsame : n + UInt32.ofNat (transmitted ⟨m, .rxFrame mem, m.step hal (.rxFrame mem)⟩) =
      n + UInt32.ofNat (transmitted ⟨m, .rxFrame mem', m.step hal (.rxFrame mem')⟩)) :
    transmitted ⟨m, .rxFrame mem, m.step hal (.rxFrame mem)⟩ =
      transmitted ⟨m, .rxFrame mem', m.step hal (.rxFrame mem')⟩ := by
  have hone : ∀ mem, transmitted ⟨m, .rxFrame mem, m.step hal (.rxFrame mem)⟩ < 2 ^ 32 := by
    intro mem
    rw [transmitted_control rfl]
    split
    · exact Nat.lt_of_le_of_lt (Bool.toNat_le _) (by decide)
    · decide
  have hcount := (UInt32.add_right_inj n).mp hsame
  rw [← UInt32.toNat_inj, UInt32.toNat_ofNat_of_lt' (hone mem),
    UInt32.toNat_ofNat_of_lt' (hone mem')] at hcount
  exact hcount

/-- **Which settings are recorded**: in every run, two frames of a tracked command that
    are both acknowledged and carry different settings leave different settings behind
    exactly when the difference is recorded; and different channel states exactly when it
    is, or when the transmitter took one of the two responses only. -/
theorem settings_recorded_iff {hist : List Call} (hrun : FwRun hal hist m) {after after' : Machine}
    (htakes : Takes hal m (.rxFrame mem) after) (htakes' : Takes hal m (.rxFrame mem') after')
    (haccepted : accepted c.opcode ⟨m, .rxFrame mem, after⟩ = true)
    (haccepted' : accepted c.opcode ⟨m, .rxFrame mem', after'⟩ = true)
    (hdiffer : Request.setting mem c ≠ Request.setting mem' c) :
    (after.engine.state.settings ≠ after'.engine.state.settings ↔ Recorded mem mem' c) ∧
    (after.engine.state ≠ after'.engine.state ↔
      Recorded mem mem' c ∨
        transmitted ⟨m, .rxFrame mem, after⟩ ≠ transmitted ⟨m, .rxFrame mem', after'⟩) := by
  have hport := FwRun.port0 hal hrun
  obtain rfl := (takes_iff hal hport _).mp htakes
  obtain rfl := (takes_iff hal hport _).mp htakes'
  have hran : m.engine.runs mem = some c := ran_of_accepted hrun.laid haccepted
  have hran' : m.engine.runs mem' = some c := ran_of_accepted hrun.laid haccepted'
  have hreset : c ≠ .resetChannel := by
    rintro rfl
    exact hdiffer rfl
  have hsettings := @newState_settings_ne_iff hal _ _ _ m.calls m.engine.state hdiffer
  rw [step_state_of_ran hran hreset, step_state_of_ran hran' hreset]
  refine ⟨hsettings, ?_⟩
  rw [← hsettings]
  constructor
  · intro hne
    by_contra hneither
    rw [not_or, not_not, not_not] at hneither
    exact hne (by rw [hneither.1, hneither.2])
  · rintro (hne | hne) hsame
    · have hsame' := congrArg ChannelState.settings hsame
      exact hne hsame'
    · have hsame' := congrArg ChannelState.statNcsiTx hsame
      exact hne (transmitted_inj _ hsame')

end Hal

/-- A Set VLAN Filter request that enables this VLAN in filter 1. -/
def vlanFilterRequest (vlan : UInt8) : Nat → UInt8 :=
  request 0 ControlPacketType.setVLANFilter [0, 0, 0, vlan, 0, 1, 0, 1]

/-- The filters for VLAN 1 and VLAN 2 leave the same channel state. -/
theorem not_settings_recorded_vlan :
    FwRun sampleHal (play sampleHal readyOps).1 readyMachine ∧
      readyMachine.engine.state.ready = true ∧
      ∃ after after', Takes sampleHal readyMachine (.rxFrame (vlanFilterRequest 1)) after ∧
        Takes sampleHal readyMachine (.rxFrame (vlanFilterRequest 2)) after' ∧
        accepted ControlPacketType.setVLANFilter
          ⟨readyMachine, .rxFrame (vlanFilterRequest 1), after⟩ = true ∧
        accepted ControlPacketType.setVLANFilter
          ⟨readyMachine, .rxFrame (vlanFilterRequest 2), after'⟩ = true ∧
        Request.setting (vlanFilterRequest 1) .setVLANFilter ≠
          Request.setting (vlanFilterRequest 2) .setVLANFilter ∧
        after.engine.state = after'.engine.state := by
  have hport := FwRun.port0 sampleHal fwRun_readyMachine
  refine ⟨fwRun_readyMachine, by decide +kernel, _, _, (takes_iff _ hport _).mpr rfl,
    (takes_iff _ hport _).mpr rfl, ?_, ?_, by decide +kernel, ?_⟩
  · decide +kernel
  · decide +kernel
  · decide +kernel

/-- An AEN Enable request with this control word. -/
def aenRequest (control : UInt8) : Nat → UInt8 :=
  request 0 ControlPacketType.aenEnable [0, 0, 0, 1, 0, 0, 0, control]

/-- The control word of AEN Enable is recorded. -/
theorem settings_recorded_iff_aen :
    (readyMachine.step sampleHal (.rxFrame (aenRequest 1))).engine.state.settings ≠
      (readyMachine.step sampleHal (.rxFrame (aenRequest 2))).engine.state.settings := by
  have hport := FwRun.port0 sampleHal fwRun_readyMachine
  refine (settings_recorded_iff (c := .aenEnable) fwRun_readyMachine
    ((takes_iff _ hport _).mpr rfl) ((takes_iff _ hport _).mpr rfl) ?_ ?_ ?_).1.mpr trivial
  · decide +kernel
  · decide +kernel
  · decide +kernel

end NcsiResponder
