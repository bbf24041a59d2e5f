import NcsiResponder.History

/-!
# The Initial State

Until Clear Initial State arrives nothing is configured, and nothing but Clear Initial
State can configure anything (`initialState_inert`). The invariant behind it says that a
channel that is not ready has every switch off.
-/

namespace NcsiResponder

/-! ## Inert channels -/

/-- Every switch is off and every filter disabled. -/
structure ChannelState.Inert (s : ChannelState) : Prop where
  enabled : s.enabled = false
  txPassthroughEn : s.txPassthroughEn = false
  vlanEnabled : s.vlanEnabled = false
  broadcastFilterSettings : s.broadcastFilterSettings = 0
  macFilters : ∀ filter ∈ s.macFilters, filter.enabled = false

/-- A channel that is not ready is inert. -/
def ChannelState.Quiet (s : ChannelState) : Prop := s.ready = false → s.Inert

/-- The calls that configure the port, the MAC driver or the PHY. -/
def HalCall.configures : HalCall → Bool
  | initPort _ | setMACAddr _ _ _ _ | miiReset _ _ | readRegister _ _ _ | resetLink => true
  | _ => false

/-- A frame is received. -/
def Op.receives : Op → Bool
  | rxFrame _ | onRxFrame _ _ => true
  | _ => false

namespace ChannelState

/-- Counters do not matter. -/
theorem quiet_settings {s : ChannelState} : s.settings.Quiet ↔ s.Quiet :=
  ⟨fun h hready => ⟨(h hready).1, (h hready).2, (h hready).3, (h hready).4, (h hready).5⟩,
    fun h hready => ⟨(h hready).1, (h hready).2, (h hready).3, (h hready).4, (h hready).5⟩⟩

theorem reset_inert (s : ChannelState) : s.reset.Inert where
  enabled := rfl
  txPassthroughEn := rfl
  vlanEnabled := rfl
  broadcastFilterSettings := rfl
  macFilters := by simp [reset]

theorem zero_inert : zero.Inert where
  enabled := rfl
  txPassthroughEn := rfl
  vlanEnabled := rfl
  broadcastFilterSettings := rfl
  macFilters := by simp [zero, MacFilter.zero]

end ChannelState

/-! ## Which commands run -/

section Hal

variable {hal : Hal} {m : Machine} {mem : Nat → UInt8}

/-- The commands that run on a channel that is not ready. -/
theorem verdict_of_not_ready {e : Engine} {c : Command} (hready : e.state.ready = false)
    (hverdict : verdict e mem = .run c) :
    c = .clearInitialState ∨
      (c = .selectPackage ∨ c = .deselectPackage) ∧ Request.channel mem = channelIdPackage := by
  -- the three ways into a handler
  obtain ⟨-, ⟨hpackage, hchannel⟩ | hinit | ⟨-, hready'⟩⟩ := verdict_eq_run.mp hverdict
  · refine .inr ⟨?_, hchannel⟩
    cases c <;> simp_all [Command.packageCommand]
  · refine .inl ?_
    cases c <;> simp_all [Command.ignoreInit]
  · rw [hready] at hready'
    cases hready'

/-- Only Reset Channel leaves a ready channel that is not ready. -/
theorem newState_ready {calls : List HalCall} {s : ChannelState} {c : Command}
    (hready : s.ready = true) (hreset : c ≠ .resetChannel) :
    (c.newState hal mem calls s).ready = true := by
  cases c with
  | resetChannel => exact absurd rfl hreset
  | clearInitialState => rfl
  | _ => exact hready

/-- Every command keeps a channel that is not ready inert. -/
theorem newState_quiet {c : Command} (hquiet : m.engine.state.Quiet)
    (hruns : m.engine.runs mem = some c) :
    (c.newState hal mem m.calls m.engine.state).Quiet := by
  obtain ⟨-, hverdict⟩ := Engine.runs_eq_some.mp hruns
  -- not ready, the commands that run are harmless; ready, only a reset goes back
  cases hready : m.engine.state.ready with
  | false =>
    obtain rfl | ⟨rfl | rfl, -⟩ := verdict_of_not_ready hready hverdict
    · rintro ⟨⟩
    · exact hquiet
    · exact hquiet
  | true =>
    by_cases hreset : c = .resetChannel
    · subst hreset
      exact fun _ => m.engine.state.reset_inert
    · intro hnot
      rw [newState_ready hready hreset] at hnot
      cases hnot

theorem newSettings_quiet (a : Action) (hquiet : m.engine.state.Quiet) :
    (m.newSettings hal a).Quiet := by
  -- a reset leaves an inert channel, and everything else but a command keeps the settings
  cases a with
  | control mem =>
    rw [Machine.newSettings]
    cases hruns : m.engine.runs mem with
    | none => exact ChannelState.quiet_settings.mpr hquiet
    | some c => exact ChannelState.quiet_settings.mpr (newState_quiet hquiet hruns)
  | init => exact fun _ => ⟨rfl, rfl, rfl, rfl, m.engine.state.reset_inert.macFilters⟩
  | _ => exact ChannelState.quiet_settings.mpr hquiet

/-- **Not ready means inert**, in every run. -/
theorem FwRun.quiet {hist : List Call} (hrun : FwRun hal hist m) : m.engine.state.Quiet := by
  refine hrun.engine_invariant (fun e => e.state.Quiet)
    (fun _ => ChannelState.zero_inert) fun m a hquiet => ?_
  rw [← ChannelState.quiet_settings, Machine.act_settings]
  exact newSettings_quiet a hquiet

/-! ## What moves while the channel is not ready -/

/-- No filter admits anything. -/
theorem ChannelState.Inert.not_forwards {s : ChannelState} (hinert : s.Inert) (src : RxPtr) :
    s.forwards src = false := by
  rw [forwards, hinert.txPassthroughEn, Bool.false_and]

/-- What a received frame comes down to. -/
theorem Op.receives_action {op : Op} (hop : op.receives = true) :
    op.action = .ignore ∨ (∃ mem, op.action = .control mem) ∨
      ∃ src frame, op.action = .forward src frame := by
  cases op with
  | rxFrame mem => exact .inr (.inl ⟨mem, rfl⟩)
  | onRxFrame mem frameLen =>
    rw [action]
    split
    · exact .inl rfl
    split
    · exact .inr (.inl ⟨mem, rfl⟩)
    · exact .inr (.inr ⟨_, _, rfl⟩)
  | _ => cases hop

/-- Only its own opcode runs Clear Initial State. -/
theorem ran_ne_clear {a : Action}
    (hother : ∀ mem, a = .control mem →
      Request.opcode mem ≠ ControlPacketType.clearInitialState) :
    m.ran a ≠ some .clearInitialState := by
  intro hran
  cases a with
  | control mem =>
    obtain ⟨-, hverdict⟩ := Engine.runs_eq_some.mp hran
    exact hother mem rfl (lookup_opcode (verdict_eq_run.mp hverdict).1 (by decide))
  | _ => cases hran

/-- On a channel that is not ready, only Clear Initial State changes a setting. -/
theorem newSettings_of_not_ready (hready : m.engine.state.ready = false) {op : Op}
    (hop : op.receives = true) (hclear : m.ran op.action ≠ some .clearInitialState) :
    m.newSettings hal op.action = m.engine.state.settings := by
  rcases op.receives_action hop with haction | ⟨mem, haction⟩ | ⟨src, frame, haction⟩
  · rw [haction]
    rfl
  · rw [haction] at hclear ⊢
    rw [Machine.newSettings]
    cases hruns : m.engine.runs mem with
    | none => rfl
    | some c =>
      -- the package commands that run touch no setting
      obtain rfl | ⟨rfl | rfl, -⟩ :=
        verdict_of_not_ready hready (Engine.runs_eq_some.mp hruns).2
      · exact absurd hruns hclear
      · rfl
      · rfl
  · rw [haction]
    rfl

/-- On a channel that is not ready, no received frame configures anything. -/
theorem newCalls_of_not_ready (hready : m.engine.state.ready = false) {op : Op}
    (hop : op.receives = true) :
    ∀ call ∈ m.newCalls hal op.action, call.configures = false := by
  intro call hcall
  rcases op.receives_action hop with haction | ⟨mem, haction⟩ | ⟨src, frame, haction⟩
  · rw [haction] at hcall
    cases hcall
  · -- the answer is the only call: the commands that run make none
    have hnone : (verdict m.engine mem).newCalls hal mem m = [] := by
      cases hverdict : verdict m.engine mem with
      | run c =>
        obtain rfl | ⟨rfl | rfl, -⟩ := verdict_of_not_ready hready hverdict <;> rfl
      | _ => rfl
    rw [haction, Machine.newCalls, hnone] at hcall
    split at hcall
    · rw [List.mem_singleton.mp hcall]
      rfl
    · cases hcall
  · rw [haction, Machine.newCalls] at hcall
    split at hcall
    · rw [List.mem_singleton.mp hcall]
      rfl
    · cases hcall

/-- The frames that complete on a channel that is not ready. -/
theorem accepted_of_not_ready (hlaid : m.engine.Laid) (hready : m.engine.state.ready = false)
    {op : Op} (haction : op.action = .control mem)
    (haccepted : accepted (Request.opcode mem) ⟨m, op, m.step hal op⟩ = true) :
    Request.opcode mem = ControlPacketType.clearInitialState ∨
      (Request.opcode mem = ControlPacketType.selectPackage ∨
        Request.opcode mem = ControlPacketType.deselectPackage) ∧
        Request.channel mem = channelIdPackage := by
  obtain ⟨mem', haction', -, -, hcomplete⟩ := (accepted_eq_true hlaid op _).mp haccepted
  rw [haction] at haction'
  cases haction'
  obtain ⟨c, hverdict, hsupported⟩ := run_of_complete hcomplete
  have hopcode := lookup_opcode (verdict_eq_run.mp hverdict).1 hsupported
  rw [hopcode]
  obtain rfl | ⟨rfl | rfl, hchannel⟩ := verdict_of_not_ready hready hverdict
  · exact .inl rfl
  · exact .inr ⟨.inl rfl, hchannel⟩
  · exact .inr ⟨.inr rfl, hchannel⟩

/-- **The Initial State is inert**: in every run, a channel that is not ready has every
    switch off, and neither pass-through direction moves a frame. Of the frames it then
    receives, it completes only Clear Initial State and the package commands sent to the
    whole package, and no other frame than Clear Initial State changes a setting or
    configures the port, the MAC driver or the PHY. -/
theorem initialState_inert {hist : List Call} (hrun : FwRun hal hist m)
    (hready : m.engine.state.ready = false) :
    m.engine.state.Inert ∧
      (∃ after, ncsiHandlePassthrough hal m = .ok ((), after) ∧ after.calls = m.calls) ∧
      (∀ src frame frameLen, ∃ after,
        ncsiPassthroughTxFromMc hal .gPort src frame frameLen m = .ok (false, after) ∧
          after.calls = m.calls) ∧
      ∀ op after, op.receives = true → Takes hal m op after →
        (∀ mem, op.action = .control mem → accepted (Request.opcode mem) ⟨m, op, after⟩ = true →
          Request.opcode mem = ControlPacketType.clearInitialState ∨
            (Request.opcode mem = ControlPacketType.selectPackage ∨
              Request.opcode mem = ControlPacketType.deselectPackage) ∧
              Request.channel mem = channelIdPackage) ∧
        ((∀ mem, op.action = .control mem →
            Request.opcode mem ≠ ControlPacketType.clearInitialState) →
          after.engine.state.settings = m.engine.state.settings ∧
            ∀ call ∈ callsMade ⟨m, op, after⟩, call.configures = false) := by
  have hport := FwRun.port0 hal hrun
  have hinert := hrun.quiet hready
  refine ⟨hinert, ⟨_, ncsiHandlePassthrough_run hal hport, ?_⟩, fun src frame frameLen => ?_, ?_⟩
  · simp [Machine.pollPassthrough, hinert.enabled]
  · have hforward : (m.forward hal src (frame.take frameLen)).1 = false ∧
        (m.forward hal src (frame.take frameLen)).2.calls = m.calls := by
      simp [Machine.forward, hinert.not_forwards]
    refine ⟨(m.forward hal src (frame.take frameLen)).2, ?_, hforward.2⟩
    rw [ncsiPassthroughTxFromMc_run hal hport, ← hforward.1]
  · intro op after hop htakes
    obtain rfl := (takes_iff hal hport op).mp htakes
    refine ⟨fun mem haction => accepted_of_not_ready hrun.laid hready haction, fun hother => ?_⟩
    rw [Machine.step_settings, callsMade_step]
    exact ⟨newSettings_of_not_ready hready hop (ran_ne_clear hother),
      newCalls_of_not_ready hready hop⟩

end Hal

/-- The channel of the configured run, after Reset Channel. -/
def resetMachine : Machine :=
  (play sampleHal (forwardingOps ++
    [.rxFrame (request 0 ControlPacketType.resetChannel [0, 0, 0, 0])])).2

/-- A channel that was configured and then reset refuses the frame it had let pass, and Enable
    Channel with it. -/
theorem initialState_inert_reset :
    resetMachine.engine.state.Inert ∧
      (∃ after, ncsiHandlePassthrough sampleHal resetMachine = .ok ((), after) ∧
        after.calls = resetMachine.calls) ∧
      (∃ after, ncsiPassthroughTxFromMc sampleHal .gPort ⟨bmcFrame, Header.sourceAddress⟩
        (.ofFrame bmcFrame) 60 resetMachine = .ok (false, after) ∧
          after.calls = resetMachine.calls) ∧
      let op : Op := .rxFrame (request 0 ControlPacketType.enableChannel [])
      ∃ after, Takes sampleHal resetMachine op after ∧
        accepted ControlPacketType.enableChannel ⟨resetMachine, op, after⟩ = false ∧
        after.engine.state.settings = resetMachine.engine.state.settings ∧
        ∀ call ∈ callsMade ⟨resetMachine, op, after⟩, call.configures = false := by
  have hrun := fwRun_play sampleHal (forwardingOps ++
    [.rxFrame (request 0 ControlPacketType.resetChannel [0, 0, 0, 0])])
  obtain ⟨hinert, hpoll, hforward, hreceive⟩ := initialState_inert hrun (by decide +kernel)
  have htakes := (takes_iff sampleHal (FwRun.port0 sampleHal hrun)
    (.rxFrame (request 0 ControlPacketType.enableChannel []))).mpr rfl
  obtain ⟨haccepts, hkeeps⟩ := hreceive _ _ rfl htakes
  refine ⟨hinert, hpoll, hforward _ _ 60, _, htakes, ?_, hkeeps ?_⟩
  · rw [Bool.eq_false_iff]
    intro haccepted
    rcases haccepts _ rfl haccepted with hclear | ⟨hselect | hdeselect, -⟩
    · revert hclear
      decide
    · revert hselect
      decide
    · revert hdeselect
      decide
  · rintro mem ⟨⟩
    decide

end NcsiResponder
