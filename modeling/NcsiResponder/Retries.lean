import NcsiResponder.Bus
import NcsiResponder.Reset

/-!
# Repeated commands

A BMC that has lost a response sends its command again. The second delivery of a frame
leaves the package selection and the configuration of the channel as the first one has
left them, and completes only where the first one did (`retry_harmless`): the one command
that closes the gate it came through, Reset Channel, is refused the second time, and that
changes nothing.
-/

namespace NcsiResponder

/-! ## Configuration -/

/-- The configuration of a channel: its state without the counters and without the cached
    link bits. -/
def ChannelState.configuration (s : ChannelState) : ChannelState :=
  { s.settings with linkStatus := zero.linkStatus }

@[simp] theorem ChannelState.configuration_ready (s : ChannelState) :
    s.configuration.ready = s.ready := rfl

/-- The call sent a response that says COMMAND_COMPLETE. -/
def Completed (st : Call) : Prop :=
  ∃ frame ∈ sentFrames st, frameResponseCode frame = ResponseCode.commandComplete

/-- `gPackageState.selected` after a decision of the dispatcher. -/
def Verdict.selects (selected : Bool) : Verdict → Bool
  | .refuse _ _ => selected
  | .uninitialized => true
  | .run c => c.selects

/-- The configuration after a decision of the dispatcher. -/
def Verdict.configures (hal : Hal) (mem : Nat → UInt8) (calls : List HalCall) (s : ChannelState) :
    Verdict → ChannelState
  | .run c => (c.newState hal mem calls s).configuration
  | _ => s.configuration

section Hal

variable {hal : Hal} {m : Machine} {mem : Nat → UInt8} {s s' : ChannelState}
  {calls calls' : List HalCall}

/-- What a command makes of the configuration depends on nothing else. -/
theorem newState_configuration (c : Command) :
    (c.newState hal mem calls s).configuration =
      (c.newState hal mem calls' s.configuration).configuration := by
  cases c <;>
    simp only [Command.newState, ChannelState.configuration, ChannelState.settings,
      ChannelState.reset, ChannelState.trackMac, ChannelState.reportLink]

/-- A command that is run twice leaves the configuration it has left the first time. -/
theorem newState_newState_configuration (c : Command) :
    (c.newState hal mem calls' (c.newState hal mem calls s)).configuration =
      (c.newState hal mem calls s).configuration := by
  cases c with
  | resetChannel =>
    simp [Command.newState, ChannelState.configuration, ChannelState.settings, ChannelState.reset]
  | setMACAddress =>
    simp [Command.newState, ChannelState.configuration, ChannelState.settings,
      ChannelState.trackMac]
  | _ => rfl

/-! ## One delivery -/

/-- What a frame addressed to this instance does to the package selection. -/
theorem step_selected (haddressed : m.engine.addressed mem = true) :
    (m.step hal (.rxFrame mem)).engine.selected =
      (verdict m.engine mem).selects m.engine.selected := by
  rw [Machine.step_engine, Op.action, Machine.act, Machine.handle_engine, if_pos haddressed,
    Machine.conclude_engine, Machine.worked]
  cases verdict m.engine mem <;> rfl

/-- What it does to the configuration. -/
theorem step_configuration (haddressed : m.engine.addressed mem = true) :
    (m.step hal (.rxFrame mem)).engine.state.configuration =
      (verdict m.engine mem).configures hal mem m.calls m.engine.state := by
  have hsettings := m.step_settings hal (.rxFrame mem)
  rw [Op.action, Machine.newSettings, Engine.runs, if_pos haddressed] at hsettings
  rw [ChannelState.configuration, hsettings]
  cases verdict m.engine mem <;> rfl

/-- A frame for another instance leaves the storage alone. -/
theorem step_other (hother : m.engine.addressed mem = false) :
    (m.step hal (.rxFrame mem)).engine = m.engine := by
  rw [Machine.step_engine, Op.action, Machine.act, Machine.handle_engine, hother]
  rfl

/-- A second delivery is addressed as the first one was. -/
theorem addressed_step :
    (m.step hal (.rxFrame mem)).engine.addressed mem = m.engine.addressed mem := by
  obtain ⟨hpackage, hchannel⟩ := Prod.mk.inj (@handle_identity hal m mem)
  rw [Machine.step_engine, Op.action, Machine.act, Engine.addressed, Engine.addressed, hpackage,
    hchannel]

/-! ## The second delivery -/

/-- The decision on a frame depends on the channel of the instance and its ready flag only. -/
theorem verdict_congr {e e' : Engine} (hchannel : e'.gLocalChannelId = e.gLocalChannelId)
    (hready : e'.state.ready = e.state.ready) : verdict e' mem = verdict e mem := by
  unfold verdict
  rw [hchannel, hready]

/-- **The second decision** is the first one again, but for Reset Channel: the second one
    finds the channel in its Initial State. -/
theorem verdict_step (haddressed : m.engine.addressed mem = true) :
    verdict (m.step hal (.rxFrame mem)).engine mem = verdict m.engine mem ∨
      verdict m.engine mem = .run .resetChannel ∧
        verdict (m.step hal (.rxFrame mem)).engine mem = .uninitialized := by
  have hchannel : (m.step hal (.rxFrame mem)).engine.gLocalChannelId = m.engine.gLocalChannelId := by
    rw [Machine.step_engine]
    exact (Prod.mk.inj (@handle_identity hal m mem)).2
  have hready := congrArg ChannelState.ready (@step_configuration hal m mem haddressed)
  rw [ChannelState.configuration_ready] at hready
  cases hverdict : verdict m.engine mem with
  | refuse rc reason =>
    rw [hverdict] at hready
    exact .inl ((verdict_congr hchannel hready).trans hverdict)
  | uninitialized =>
    rw [hverdict] at hready
    exact .inl ((verdict_congr hchannel hready).trans hverdict)
  | run c =>
    rw [hverdict] at hready
    obtain ⟨hlookup, hgate⟩ := verdict_eq_run.mp hverdict
    by_cases hreset : c = .resetChannel
    · -- the channel is no longer ready, and only its own commands come this way
      subst hreset
      obtain ⟨⟨⟩, -⟩ | ⟨⟨⟩⟩ | ⟨hlocal, -⟩ := hgate
      refine .inr ⟨rfl, ?_⟩
      have hready' : (m.step hal (.rxFrame mem)).engine.state.ready = false := hready
      unfold verdict
      rw [hlookup, hchannel, hready', hlocal]
      simp [Command.packageCommand, Command.ignoreInit]
    · refine .inl (verdict_eq_run.mpr ⟨hlookup, ?_⟩)
      rw [hchannel]
      apply hgate.imp_right
      apply Or.imp_right
      intro h
      rcases h with ⟨hlocal, hwas⟩
      exact ⟨hlocal, hready.trans (newState_ready hwas hreset)⟩

/-- A repeated decision leaves the configuration of the first one. -/
theorem configures_configures (v : Verdict)
    (hconfiguration : s'.configuration = v.configures hal mem calls s) :
    v.configures hal mem calls' s' = s'.configuration := by
  cases v with
  | run c =>
    have hfirst : s'.configuration = (c.newState hal mem calls s).configuration := hconfiguration
    calc (c.newState hal mem calls' s').configuration
      _ = (c.newState hal mem calls' s'.configuration).configuration := newState_configuration c
      _ = (c.newState hal mem calls' (c.newState hal mem calls s).configuration).configuration := by
        rw [hfirst]
      _ = (c.newState hal mem calls' (c.newState hal mem calls s)).configuration :=
        (newState_configuration c).symm
      _ = (c.newState hal mem calls s).configuration := newState_newState_configuration c
      _ = s'.configuration := hfirst.symm
  | _ => rfl

theorem selects_selects (v : Verdict) (selected : Bool) :
    v.selects (v.selects selected) = v.selects selected := by
  cases v <;> rfl

/-- How a command is answered does not depend on what it finds. -/
theorem reply_responseCode_congr (c : Command) :
    (c.reply mem s').responseCode = (c.reply mem s).responseCode := by
  cases c <;> rfl

/-- Where a repeated decision completes, the first one did. -/
theorem answer_complete_of_step (haddressed : m.engine.addressed mem = true)
    (hcomplete : ((m.step hal (.rxFrame mem)).answer hal mem).responseCode =
      ResponseCode.commandComplete) :
    (m.answer hal mem).responseCode = ResponseCode.commandComplete := by
  obtain ⟨c, hverdict', -⟩ := run_of_complete hcomplete
  rcases @verdict_step hal m mem haddressed with hsame | ⟨-, hrefused⟩
  · have hverdict : verdict m.engine mem = .run c := hsame.symm.trans hverdict'
    rw [Machine.answer, hverdict'] at hcomplete
    rw [Machine.answer, hverdict]
    exact (reply_responseCode_congr c).symm.trans hcomplete
  · rw [hrefused] at hverdict'
    cases hverdict'

theorem completed_iff (hlaid : m.engine.Laid) :
    Completed ⟨m, .rxFrame mem, m.step hal (.rxFrame mem)⟩ ↔
      m.engine.addressed mem = true ∧
        (m.answer hal mem).responseCode = ResponseCode.commandComplete := by
  unfold Completed
  rw [sentFrames_control rfl]
  by_cases haddressed : m.engine.addressed mem = true <;>
    simp [haddressed, frameResponseCode_answerBytes hlaid]

/-- **Retries are harmless**: in every run, a frame that is delivered twice in a row leaves
    the package selection and the configuration that it leaves when it is delivered once,
    and if the second delivery is answered COMMAND_COMPLETE then so was the first. -/
theorem retry_harmless {hist : List Call} (hrun : FwRun hal hist m) (mem : Nat → UInt8) :
    ∃ once twice, Takes hal m (.rxFrame mem) once ∧ Takes hal once (.rxFrame mem) twice ∧
      twice.engine.selected = once.engine.selected ∧
      twice.engine.state.configuration = once.engine.state.configuration ∧
      (Completed ⟨once, .rxFrame mem, twice⟩ → Completed ⟨m, .rxFrame mem, once⟩) := by
  have hport := FwRun.port0 hal hrun
  have honce : FwRun hal _ (m.step hal (.rxFrame mem)) :=
    hrun.next ((takes_iff hal hport (.rxFrame mem)).mpr rfl)
  refine ⟨m.step hal (.rxFrame mem), (m.step hal (.rxFrame mem)).step hal (.rxFrame mem),
    (takes_iff hal hport _).mpr rfl, (takes_iff hal (FwRun.port0 hal honce) _).mpr rfl, ?_⟩
  cases haddressed : m.engine.addressed mem with
  | false =>
    have haddressed' := (@addressed_step hal m mem).trans haddressed
    rw [step_other haddressed']
    refine ⟨rfl, rfl, fun hcompleted => ?_⟩
    obtain ⟨hours, -⟩ := (completed_iff honce.laid).mp hcompleted
    exact absurd (haddressed'.symm.trans hours) (by decide)
  | true =>
    have haddressed' := (@addressed_step hal m mem).trans haddressed
    have hconfiguration := @step_configuration hal m mem haddressed
    refine ⟨?_, ?_, fun hcompleted => ?_⟩
    · rw [step_selected haddressed', step_selected haddressed]
      rcases @verdict_step hal m mem haddressed with hsame | ⟨hreset, hrefused⟩
      · rw [hsame, selects_selects]
      · rw [hreset, hrefused]
        rfl
    · rw [step_configuration haddressed']
      rcases @verdict_step hal m mem haddressed with hsame | ⟨-, hrefused⟩
      · rw [hsame]
        exact configures_configures _ hconfiguration
      · rw [hrefused]
        rfl
    · obtain ⟨-, hcomplete⟩ := (completed_iff honce.laid).mp hcompleted
      exact (completed_iff hrun.laid).mpr ⟨haddressed, answer_complete_of_step haddressed hcomplete⟩

end Hal

/-- A Reset Channel that is sent twice: the channel is back in its Initial State, and the
    second request changes nothing more. -/
theorem retry_harmless_reset :
    ∃ once twice, Takes sampleHal readyMachine (.rxFrame resetChannelRequest) once ∧
      Takes sampleHal once (.rxFrame resetChannelRequest) twice ∧
      once.engine.state.ready = false ∧
      twice.engine.state.configuration = once.engine.state.configuration := by
  obtain ⟨once, twice, honce, htwice, -, hconfiguration, -⟩ :=
    retry_harmless fwRun_readyMachine resetChannelRequest
  refine ⟨once, twice, honce, htwice, ?_, hconfiguration⟩
  rw [(takes_iff sampleHal (FwRun.port0 _ fwRun_readyMachine) _).mp honce]
  decide +kernel

end NcsiResponder
