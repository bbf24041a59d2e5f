import NcsiResponder.Answers

/-!
# Refused and unsupported commands

A command that is not completed leaves the channel as it was, counters aside, and
calls nothing but the transmitter (`handleNCSIFrame_atomic`).

Of the opcodes that are not implemented, those outside the handler table are always
answered COMMAND_UNSUPPORTED, but those mapped to `unknownHandler` only once the frame
has passed the checks that come before a handler (`answersUnsupported_iff`).
-/

namespace NcsiResponder

section Hal

variable {hal : Hal} {m : Machine} {mem : Nat → UInt8}

/-! ## Failed commands -/

/-- The call hands a frame to the transmitter. -/
def HalCall.transmits : HalCall → Bool
  | txFrame _ _ => true
  | _ => false

/-- The two commands whose handler can answer with an error. -/
theorem Command.eq_of_failed {c : Command} {s : ChannelState}
    (hfailed : (c.reply mem s).responseCode ≠ ResponseCode.commandComplete) :
    c = .unsupported ∨ c = .setVLANFilter := by
  by_contra hneither
  rw [not_or] at hneither
  exact hfailed (c.reply_responseCode s hneither.1 hneither.2)

/-- Up to its answer, a command that fails counts itself and does nothing else. -/
theorem worked_of_failed
    (hfailed : (m.answer hal mem).responseCode ≠ ResponseCode.commandComplete) :
    (m.worked hal mem).engine.state =
        { m.engine.state with statNcsiRx := (m.worked hal mem).engine.state.statNcsiRx } ∧
      (verdict m.engine mem).newCalls hal mem m = [] := by
  unfold Machine.answer at hfailed
  unfold Machine.worked at hfailed ⊢
  cases hverdict : verdict m.engine mem with
  | refuse rc reason => exact ⟨rfl, rfl⟩
  | uninitialized => exact ⟨rfl, rfl⟩
  | run c =>
    rw [hverdict] at hfailed
    -- neither of the two handlers stores anything
    rcases Command.eq_of_failed hfailed with rfl | rfl
    · exact ⟨rfl, rfl⟩
    · exact ⟨rfl, rfl⟩

/-- **Failed commands are atomic**: in every run, a frame that is not answered leaves the
    engine as it was. One that is answered with an error changes no field of the channel
    state but the two control frame counters, and makes no HAL call but the answer. -/
theorem handleNCSIFrame_atomic {hist : List Call} (hrun : FwRun hal hist m)
    (mem : Nat → UInt8) :
    ∃ after, handleNCSIFrame hal (.ofFrame mem) m = .ok ((), after) ∧
      (sentFrames ⟨m, .rxFrame mem, after⟩ = [] → after.engine = m.engine) ∧
      ∀ frame ∈ sentFrames ⟨m, .rxFrame mem, after⟩,
        frameResponseCode frame ≠ ResponseCode.commandComplete →
          after.engine.state =
              { m.engine.state with
                statNcsiRx := after.engine.state.statNcsiRx
                statNcsiTx := after.engine.state.statNcsiTx } ∧
            ∀ call ∈ callsMade ⟨m, .rxFrame mem, after⟩, call.transmits = true := by
  refine ⟨m.step hal (.rxFrame mem), handleNCSIFrame_run hal mem (FwRun.port0 hal hrun), ?_, ?_⟩
  · intro hsilent
    rw [sentFrames_control rfl] at hsilent
    rw [Machine.step_engine, Op.action, Machine.act, Machine.handle_engine]
    split at hsilent
    · cases hsilent
    · next hother => exact if_neg hother
  · intro frame hframe hfailed
    rw [sentFrames_control rfl] at hframe
    split at hframe
    · next haddressed =>
      rw [List.mem_singleton.mp hframe, frameResponseCode_answerBytes hrun.laid] at hfailed
      obtain ⟨hstate, hcalls⟩ := worked_of_failed hfailed
      constructor
      · -- the answer itself moves the transmit counter
        rw [Machine.step_engine, Op.action, Machine.act, Machine.handle_engine,
          if_pos haddressed, Machine.conclude_state, hstate]
      · intro call hcall
        rw [callsMade_step, Op.action, Machine.newCalls, if_pos haddressed, hcalls] at hcall
        rw [List.mem_singleton.mp hcall]
        rfl
    · cases hframe

end Hal

/-- A Set VLAN Filter that enables VLAN ID 0. -/
def vlanZeroRequest : Nat → UInt8 :=
  request 0 ControlPacketType.setVLANFilter [0, 0, 0, 0, 0, 1, 0, 1]

/-- It is answered with an error, and nothing but the answer is sent. -/
theorem handleNCSIFrame_atomic_vlanZero :
    ∃ after, handleNCSIFrame sampleHal (.ofFrame vlanZeroRequest) readyMachine = .ok ((), after) ∧
      after.engine.state.macFilters = readyMachine.engine.state.macFilters ∧
      ∀ call ∈ callsMade ⟨readyMachine, .rxFrame vlanZeroRequest, after⟩,
        call.transmits = true := by
  have hrun := fwRun_readyMachine
  obtain ⟨after, hresult, -, hfailed⟩ := handleNCSIFrame_atomic hrun vlanZeroRequest
  have htakes : Takes sampleHal readyMachine (.rxFrame vlanZeroRequest) after := hresult
  obtain rfl := (takes_iff sampleHal (FwRun.port0 _ hrun) _).mp htakes
  obtain ⟨hstate, hcalls⟩ := hfailed _
    (answerBytes_mem_sentFrames rfl (by decide +kernel))
    (by rw [frameResponseCode_answerBytes hrun.laid]; decide +kernel)
  exact ⟨_, hresult, by rw [hstate], hcalls⟩

/-! ## Unsupported commands -/

/-- The handler table has a handler for the opcode, and it is not `unknownHandler`. -/
def Implemented (opcode : UInt8) : Prop :=
  ∃ c len, lookup opcode = some (c, len) ∧ c ≠ .unsupported

/-- The frame is answered COMMAND_UNSUPPORTED, with the reason for it. -/
def AnswersUnsupported (hal : Hal) (m : Machine) (mem : Nat → UInt8) : Prop :=
  ∃ after frame, handleNCSIFrame hal (.ofFrame mem) m = .ok ((), after) ∧
    sentFrames ⟨m, .rxFrame mem, after⟩ = [frame] ∧
    frameResponseCode frame = ResponseCode.commandUnsupported ∧
    frameReasonCode frame = ReasonCode.unknownUnsupported

/-- The checks before a handler pass: the payload has the length of the table, and the
    frame is for this channel, which is ready. -/
def Gated (e : Engine) (mem : Nat → UInt8) : Prop :=
  lookup (Request.opcode mem) = some (.unsupported, (Request.payloadLength mem).toNat) ∧
    Request.channel mem = e.gLocalChannelId ∧ e.state.ready = true

section Hal

variable {hal : Hal} {m : Machine} {mem : Nat → UInt8}

theorem answersUnsupported_iff_answer (hport : m.engine.port0 = .gPort)
    (hlaid : m.engine.Laid) (haddressed : m.engine.addressed mem = true) :
    AnswersUnsupported hal m mem ↔
      (m.answer hal mem).responseCode = ResponseCode.commandUnsupported ∧
        (m.answer hal mem).reasonCode = ReasonCode.unknownUnsupported := by
  rw [← frameResponseCode_answerBytes hlaid, ← frameReasonCode_answerBytes hlaid]
  have hsent := @sentFrames_control hal m mem (.rxFrame mem) rfl
  rw [if_pos haddressed] at hsent
  constructor
  · intro h
    rcases h with ⟨after, frame, hresult, hframe, hcodes⟩
    obtain rfl := (takes_iff hal hport (.rxFrame mem)).mp hresult
    rw [hsent] at hframe
    obtain rfl := List.singleton_inj.mp hframe
    exact hcodes
  · intro hcodes
    exact ⟨_, _, handleNCSIFrame_run hal mem hport, hsent, hcodes⟩

/-- A frame whose opcode has a handler is refused, if at all, as a failed command. -/
theorem refuse_of_lookup {e : Engine} {entry : Command × Nat} {rc reason : UInt16}
    (hlookup : lookup (Request.opcode mem) = some entry)
    (hverdict : verdict e mem = .refuse rc reason) : rc = ResponseCode.commandFailed := by
  unfold verdict at hverdict
  rw [hlookup] at hverdict
  obtain ⟨c, len⟩ := entry
  dsimp only at hverdict
  split at hverdict
  · cases hverdict
    rfl
  split at hverdict
  · cases hverdict
  split at hverdict
  · cases hverdict
    rfl
  split at hverdict
  · cases hverdict
  · cases hverdict

/-- The checks pass exactly when the frame reaches `unknownHandler`. -/
theorem gated_iff {e : Engine} : Gated e mem ↔ verdict e mem = .run .unsupported := by
  rw [verdict_eq_run, Gated]
  simp [Command.packageCommand, Command.ignoreInit]

/-- **When an unimplemented command is answered as such**: in every run, a frame for this
    instance whose opcode is not implemented is answered COMMAND_UNSUPPORTED exactly when
    its opcode has no handler at all, or the frame passes the checks before a handler. -/
theorem answersUnsupported_iff {hist : List Call} (hrun : FwRun hal hist m)
    (hours : ForInstance m.engine mem) (hopcode : ¬ Implemented (Request.opcode mem)) :
    AnswersUnsupported hal m mem ↔
      lookup (Request.opcode mem) = none ∨ Gated m.engine mem := by
  rw [answersUnsupported_iff_answer (FwRun.port0 hal hrun) hrun.laid (addressed_iff.mpr hours),
    Machine.answer]
  cases hlookup : lookup (Request.opcode mem) with
  | none =>
    -- no handler: the dispatcher answers by itself
    have hverdict : verdict m.engine mem =
        .refuse ResponseCode.commandUnsupported ReasonCode.unknownUnsupported := by
      unfold verdict
      rw [hlookup]
    rw [hverdict]
    exact iff_of_true ⟨rfl, rfl⟩ (.inl rfl)
  | some entry =>
    obtain ⟨c, len⟩ := entry
    obtain rfl : c = .unsupported := by
      by_contra hc
      exact hopcode ⟨c, len, hlookup, hc⟩
    rw [gated_iff]
    cases hverdict : verdict m.engine mem with
    | refuse rc reason =>
      obtain rfl := refuse_of_lookup hlookup hverdict
      refine iff_of_false ?_ (by simp)
      intro h
      rcases h with ⟨hcode, -⟩
      exact absurd hcode (show ResponseCode.commandFailed ≠ _ by decide)
    | uninitialized =>
      refine iff_of_false ?_ (by simp)
      intro h
      rcases h with ⟨hcode, -⟩
      exact absurd hcode (show ResponseCode.commandFailed ≠ _ by decide)
    | run c =>
      have hrun' := (verdict_eq_run.mp hverdict).1
      rw [hlookup] at hrun'
      cases hrun'
      exact iff_of_true ⟨rfl, rfl⟩ (.inr rfl)

end Hal

/-- Get Parameters in place of the opcode of a Select Package frame. -/
def getParametersRequest : Nat → UInt8 := request channelIdPackage 0x17 [0, 0, 0, 1]

/-- An OEM Command in the same place. -/
def oemRequest : Nat → UInt8 := request channelIdPackage 0x50 [0, 0, 0, 1]

/-- Get Parameters is answered with a wrong payload length. -/
theorem not_answersUnsupported_getParameters :
    FwRun sampleHal (play sampleHal readyOps).1 readyMachine ∧
      ForInstance readyMachine.engine getParametersRequest ∧
      ¬ Implemented (Request.opcode getParametersRequest) ∧
      ¬ AnswersUnsupported sampleHal readyMachine getParametersRequest := by
  have hrun := fwRun_readyMachine
  have haddressed : readyMachine.engine.addressed getParametersRequest = true := by
    decide +kernel
  refine ⟨hrun, addressed_iff.mp haddressed, ?_, ?_⟩
  · intro h
    rcases h with ⟨c, len, hlookup, hc⟩
    cases hlookup
    exact hc rfl
  · rw [answersUnsupported_iff_answer (FwRun.port0 _ hrun) hrun.laid haddressed]
    decide +kernel

/-- The OEM Command is answered as unsupported. -/
theorem answersUnsupported_iff_oem :
    AnswersUnsupported sampleHal readyMachine oemRequest := by
  have hrun := fwRun_readyMachine
  have haddressed : readyMachine.engine.addressed oemRequest = true := by decide +kernel
  refine (answersUnsupported_iff hrun (addressed_iff.mp haddressed) ?_).mpr (.inl rfl)
  intro h
  rcases h with ⟨c, len, hlookup, -⟩
  cases hlookup

end NcsiResponder
