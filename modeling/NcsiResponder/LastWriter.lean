import NcsiResponder.Reset

/-!
# The channel state is the history of accepted commands

The switches and settings of the channel are what the newest accepted frame, or reset,
that concerns them has left (`settings_followHistory`): no rejected frame writes
anything, and no command writes another one's setting.
-/

namespace NcsiResponder

open Runs.Run (since)

/-- The last one among the accepted Enable and Disable Channel and the resets was an
    Enable. -/
def ChannelEnabled (hist : List Call) : Prop :=
  ∃ st, lastSwitch ControlPacketType.enableChannel ControlPacketType.disableChannel hist = some st ∧
    accepted ControlPacketType.enableChannel st = true

/-- The last one among the accepted Enable and Disable VLAN and the resets was an Enable
    with a mode. -/
def VLANEnabled (hist : List Call) : Prop :=
  ∃ st mem, lastSwitch ControlPacketType.enableVLAN ControlPacketType.disableVLAN hist = some st ∧
    accepted ControlPacketType.enableVLAN st = true ∧ st.op.action = .control mem ∧
    mem EnableVLAN.mode ≠ 0

/-- The settings word of the last accepted Enable Broadcast Filter; 0 if there was none, or
    a Disable Broadcast Filter or a reset came later. -/
def broadcastSettings (hist : List Call) : UInt32 :=
  let last := lastSwitch ControlPacketType.enableBroadcastFiltering
    ControlPacketType.disableBroadcastFiltering hist
  (last.bind (acceptedWrite ControlPacketType.enableBroadcastFiltering fun mem =>
    Request.word mem EnableBroadcastFilter.broadcastPacketFilterSettings)).getD 0

/-- The channel state is what the history makes of it. -/
structure FollowsHistory (hist : List Call) (s : ChannelState) : Prop where
  ready : s.ready = true ↔
    ∃ st ∈ since isReset hist, accepted ControlPacketType.clearInitialState st = true
  enabled : s.enabled = true ↔ ChannelEnabled hist
  vlanEnabled : s.vlanEnabled = true ↔ VLANEnabled hist
  broadcastFilterSettings : s.broadcastFilterSettings = broadcastSettings hist
  aenEnable : ∀ st, (since isReset hist).find? (accepted ControlPacketType.aenEnable) = some st →
    ∃ mem, st.op.action = .control mem ∧ s.aenMcId = mem AENEnable.aenMcId ∧
      s.aenControl = Request.word mem AENEnable.aenControl
  setLink : ∀ st, (since isReset hist).find? (accepted ControlPacketType.setLink) = some st →
    ∃ mem, st.op.action = .control mem ∧
      s.linkSettings = Request.word mem SetLink.linkSettings ∧
      s.oemLinkSettings = Request.word mem SetLink.oemLinkSettings

section Hal

variable {hal : Hal} {m : Machine}

/-! ## Ready -/

theorem step_ready (hlaid : m.engine.Laid) (op : Op) :
    (m.step hal op).engine.state.ready =
      if isReset ⟨m, op, m.step hal op⟩ then false
      else (acceptedWrite ControlPacketType.clearInitialState (fun _ => true)
        ⟨m, op, m.step hal op⟩).getD m.engine.state.ready := by
  have hsettings := congrArg ChannelState.ready (m.step_settings hal op)
  have hclear := accepted_eq hal hlaid op .clearInitialState (by decide) (by decide)
  simp only [Command.opcode] at hclear
  rw [isReset_eq hal hlaid, acceptedWrite]
  apply hsettings.trans
  cases haction : op.action with
  | control mem =>
    simp only [hclear, haction]
    rw [Machine.newSettings, Machine.resets, Machine.ran_control]
    cases m.engine.runs mem with
    | none => rfl
    | some c => cases c <;> rfl
  | _ => rfl

theorem ready_iff {hist : List Call} (hrun : FwRun hal hist m) :
    m.engine.state.ready = true ↔
      ∃ st ∈ since isReset hist, accepted ControlPacketType.clearInitialState st = true := by
  have hlast := hrun.lastWriter_since (fun m => m.engine.state.ready) isReset
    (acceptedWrite ControlPacketType.clearInitialState fun _ => true)
    fun hbefore op => step_ready hbefore.laid op
  rw [hlast, Runs.Run.findSome?_eq_bind_find?,
    funext (acceptedWrite_isSome ControlPacketType.clearInitialState fun _ => true)]
  cases hfind : (since isReset hist).find?
      fun st => accepted ControlPacketType.clearInitialState st with
  | none =>
    apply iff_of_false Bool.false_ne_true
    intro h
    rcases h with ⟨st, hst, haccepted⟩
    exact List.find?_eq_none.mp hfind st hst haccepted
  | some st =>
    have haccepted : accepted ControlPacketType.clearInitialState st = true :=
      List.find?_some hfind
    obtain ⟨mem, haction⟩ := action_of_accepted haccepted
    rw [Option.bind_some, acceptedWrite_of_accepted haction haccepted]
    exact iff_of_true rfl ⟨st, List.mem_of_find?_eq_some hfind, haccepted⟩

/-! ## Kept settings -/

/-- What a reset keeps is in particular what was set since the last one. -/
theorem Kept.eq_of_since {α : Type} {read : ChannelState → α} {c : Command}
    {value : (Nat → UInt8) → α} (hkept : Kept read c value) {hist : List Call}
    (hrun : FwRun hal hist m) {st : Call}
    (hfind : (since isReset hist).find? (accepted c.opcode) = some st) :
    ∃ mem, st.op.action = .control mem ∧ read m.engine.state = value mem := by
  have haccepted : accepted c.opcode st = true := List.find?_some hfind
  obtain ⟨mem, haction⟩ := action_of_accepted haccepted
  refine ⟨mem, haction, ?_⟩
  rw [hkept.eq hrun, Runs.Run.find?_of_since hfind, Option.bind_some,
    acceptedWrite_of_accepted haction haccepted, Option.getD_some]

/-! ## The whole state -/

/-- **The channel state follows the history**: in every run, the switches and settings are
    the ones that the newest accepted commands and resets have left, and a poll asks the
    HAL for a packet exactly while the channel is enabled. -/
theorem settings_followHistory {hist : List Call} (hrun : FwRun hal hist m) :
    FollowsHistory hist m.engine.state ∧
      ∃ after, ncsiHandlePassthrough hal m = .ok ((), after) ∧
        ((∃ moved, HalCall.passthroughRxPacket moved ∈
          callsMade ⟨m, .handlePassthrough, after⟩) ↔ ChannelEnabled hist) := by
  have henabled : m.engine.state.enabled = true ↔ ChannelEnabled hist :=
    switched_enabled.iff_accepted hrun
  constructor
  · constructor
    · exact ready_iff hrun
    · exact henabled
    · have hvlan := switched_vlanEnabled.iff hrun
      simp only [bne_iff_ne] at hvlan
      exact hvlan
    · exact switched_broadcastFilterSettings.eq hrun
    · intro st hfind
      obtain ⟨mem, haction, hvalue⟩ := kept_aenEnable.eq_of_since hrun hfind
      exact ⟨mem, haction, Prod.mk.inj hvalue⟩
    · intro st hfind
      obtain ⟨mem, haction, hvalue⟩ := kept_setLink.eq_of_since hrun hfind
      exact ⟨mem, haction, Prod.mk.inj hvalue⟩
  · refine ⟨_, exec_run hal (FwRun.port0 hal hrun) .handlePassthrough, ?_⟩
    rw [callsMade_step, ← henabled]
    by_cases hon : m.engine.state.enabled = true <;> simp [Op.action, Machine.newCalls, hon]

end Hal

/-- A ready channel that all but the last setting is then written to. -/
def writtenOps : List Op := readyOps ++ [
  .rxFrame (request 0 ControlPacketType.enableVLAN [0, 0, 0, 1]),
  .rxFrame (request 0 ControlPacketType.enableBroadcastFiltering [0, 0, 0, 5]),
  .rxFrame (request 0 ControlPacketType.enableChannel []),
  .rxFrame (request 0 ControlPacketType.setLink [0, 0, 0, 2, 0, 0, 0, 3])]

/-- Every clause, on a run that ends with AEN Enable. -/
theorem settings_followHistory_written :
    let aen : Op := .rxFrame (request 0 ControlPacketType.aenEnable [0, 0, 0, 1, 0, 0, 0, 7])
    let hist := (play sampleHal (writtenOps ++ [aen])).1
    let m := (play sampleHal (writtenOps ++ [aen])).2
    (∃ st ∈ since isReset hist, accepted ControlPacketType.clearInitialState st = true) ∧
      ChannelEnabled hist ∧ VLANEnabled hist ∧ broadcastSettings hist = 5 ∧
      (∃ st mem, (since isReset hist).find? (accepted ControlPacketType.aenEnable) = some st ∧
        st.op.action = .control mem ∧ m.engine.state.aenMcId = mem AENEnable.aenMcId ∧
        m.engine.state.aenControl = Request.word mem AENEnable.aenControl) ∧
      ∃ after, ncsiHandlePassthrough sampleHal m = .ok ((), after) ∧
        ∃ moved, HalCall.passthroughRxPacket moved ∈ callsMade ⟨m, .handlePassthrough, after⟩ := by
  intro aen hist m
  obtain ⟨hfollows, after, hresult, hpoll⟩ :=
    settings_followHistory (fwRun_play sampleHal (writtenOps ++ [aen]))
  have henabled := hfollows.enabled.mp (by decide +kernel)
  refine ⟨hfollows.ready.mp (by decide +kernel), henabled,
    hfollows.vlanEnabled.mp (by decide +kernel),
    hfollows.broadcastFilterSettings.symm.trans (by decide +kernel), ?_, after, hresult,
    hpoll.mpr henabled⟩
  -- the newest call is an accepted AEN Enable
  have hlaid := (fwRun_play sampleHal writtenOps).laid
  let before := (play sampleHal writtenOps).2
  let st : Call := ⟨before, aen, before.step sampleHal aen⟩
  have haccepted : accepted ControlPacketType.aenEnable st = true :=
    (accepted_eq sampleHal hlaid aen .aenEnable (by decide) (by decide)).trans (by decide +kernel)
  have hkeeps : isReset st = false := (isReset_eq sampleHal hlaid aen).trans (by decide +kernel)
  have hfind : (since isReset hist).find? (accepted ControlPacketType.aenEnable) = some st := by
    have hhist : hist = st :: (play sampleHal writtenOps).1 := congrArg Prod.fst (play_snoc ..)
    rw [hhist, since, List.takeWhile_cons_of_pos (by rw [hkeeps]; rfl),
      List.find?_cons_of_pos haccepted]
  obtain ⟨mem, haction, hmcId, hcontrol⟩ := hfollows.aenEnable st hfind
  exact ⟨st, mem, hfind, haction, hmcId, hcontrol⟩

end NcsiResponder
