import NcsiResponder.Frames

/-!
# Reading a history

What an observer on the two interfaces of the engine can tell about a call that was
made: the HAL calls it led to, the frames it sent, and whether a command frame was
*accepted*, that is answered COMMAND_COMPLETE. `accepted_eq` says that those are the
commands the engine ran.
-/

namespace NcsiResponder

/-! ## What a call did -/

/-- The frame a HAL call transmits, if it does. -/
def HalCall.sentFrame : HalCall → Option (List UInt8)
  | txFrame frame _ => some frame
  | _ => none

/-- The HAL calls made during a call, newest first. -/
def callsMade (st : Call) : List HalCall :=
  st.after.calls.take (st.after.calls.length - st.before.calls.length)

/-- The frames handed to `Network_TxFrame` during a call. -/
def sentFrames (st : Call) : List (List UInt8) := (callsMade st).filterMap HalCall.sentFrame

/-- The response code a frame carries. -/
def frameResponseCode (frame : List UInt8) : UInt16 := ncsiRd16 frame Response.responseCode

/-- The reason code a frame carries. -/
def frameReasonCode (frame : List UInt8) : UInt16 := ncsiRd16 frame Response.reasonCode

/-- The call delivered a frame of this packet type, and it was answered COMMAND_COMPLETE. -/
def accepted (opcode : UInt8) (st : Call) : Bool :=
  match st.op.action with
  | .control mem =>
    Request.opcode mem == opcode &&
      (sentFrames st).any fun frame => frameResponseCode frame == ResponseCode.commandComplete
  | _ => false

/-- The channel was reset: by `NCSI_init` or by an accepted Reset Channel. -/
def isReset (st : Call) : Bool :=
  match st.op with
  | .init => true
  | _ => accepted ControlPacketType.resetChannel st

/-- The calls that command handlers make besides their answer. -/
def HalCall.isDevice : HalCall → Bool
  | initPort _ | isLinkUp _ | resetLink | setMACAddr _ _ _ _ | getPhy _ | readRegister _ _ _
  | miiReset _ _ => true
  | _ => false

/-- The command an action runs, if any. -/
def Machine.ran (m : Machine) : Action → Option Command
  | .control mem => m.engine.runs mem
  | _ => none

theorem Machine.ran_control (m : Machine) (mem : Nat → UInt8) :
    m.ran (.control mem) = m.engine.runs mem := rfl

/-- The action resets the channel. -/
def Machine.resets (m : Machine) : Action → Bool
  | .init => true
  | .control mem => m.engine.runs mem == some .resetChannel
  | _ => false

/-! ## In closed form -/

section Hal

variable {hal : Hal} {m : Machine} {mem : Nat → UInt8}

theorem callsMade_step (op : Op) :
    callsMade ⟨m, op, m.step hal op⟩ = m.newCalls hal op.action := by
  simp [callsMade, Machine.step_calls]

theorem Engine.runs_eq_some {e : Engine} {c : Command} :
    e.runs mem = some c ↔ e.addressed mem = true ∧ verdict e mem = .run c := by
  rw [Engine.runs]
  split
  · cases verdict e mem <;> simp [*]
  · simp [*]

/-- Before its answer, a command calls only the port, the MAC driver and the PHY. -/
theorem Verdict.newCalls_isDevice (v : Verdict) :
    ∀ call ∈ v.newCalls hal mem m, call.isDevice = true := by
  -- the commands that make calls of their own, one by one
  cases v with
  | run c =>
    cases c with
    | getLinkStatus =>
      simp only [Verdict.newCalls, Command.newCalls, linkCalls]
      split
      · simp [HalCall.isDevice]
      · split <;> simp [HalCall.isDevice]
    | enableChannel | resetChannel | setMACAddress =>
      simp [Verdict.newCalls, Command.newCalls, resetCalls, programCall, HalCall.isDevice]
    | _ => simp [Verdict.newCalls, Command.newCalls]
  | _ => simp [Verdict.newCalls]

/-- No command transmits anything but its answer. -/
theorem Verdict.newCalls_sentFrame (v : Verdict) :
    (v.newCalls hal mem m).filterMap HalCall.sentFrame = [] := by
  refine List.filterMap_eq_nil_iff.mpr fun call hcall => ?_
  have hdevice := v.newCalls_isDevice call hcall
  cases call <;> first | rfl | cases hdevice

/-- An addressed frame is answered once, every other one never. -/
theorem newCalls_control_sentFrame :
    (m.newCalls hal (.control mem)).filterMap HalCall.sentFrame =
      if m.engine.addressed mem then [m.answerBytes hal mem] else [] := by
  rw [Machine.newCalls]
  split
  · simp [HalCall.sentFrame, Verdict.newCalls_sentFrame]
  · rfl

theorem sentFrames_control {op : Op} (haction : op.action = .control mem) :
    sentFrames ⟨m, op, m.step hal op⟩ =
      if m.engine.addressed mem then [m.answerBytes hal mem] else [] := by
  rw [sentFrames, callsMade_step, haction, newCalls_control_sentFrame]

theorem answerBytes_mem_sentFrames {op : Op} (haction : op.action = .control mem)
    (haddressed : m.engine.addressed mem = true) :
    m.answerBytes hal mem ∈ sentFrames ⟨m, op, m.step hal op⟩ := by
  rw [sentFrames_control haction, if_pos haddressed]
  exact List.mem_singleton_self _

theorem frameResponseCode_answerBytes (hlaid : m.engine.Laid) :
    frameResponseCode (m.answerBytes hal mem) = (m.answer hal mem).responseCode := by
  rw [Machine.answerBytes_eq hlaid]
  exact ncsiRd16_responseCode_wire _ _

theorem frameReasonCode_answerBytes (hlaid : m.engine.Laid) :
    frameReasonCode (m.answerBytes hal mem) = (m.answer hal mem).reasonCode := by
  rw [Machine.answerBytes_eq hlaid]
  exact ncsiRd16_reasonCode_wire _ _

/-- Which calls are accepted commands: the frame is addressed to this instance, and the
    dispatcher's answer is a COMMAND_COMPLETE. -/
theorem accepted_eq_true (hlaid : m.engine.Laid) (op : Op) (opcode : UInt8) :
    accepted opcode ⟨m, op, m.step hal op⟩ = true ↔
      ∃ mem, op.action = .control mem ∧ Request.opcode mem = opcode ∧
        m.engine.addressed mem = true ∧
        (m.answer hal mem).responseCode = ResponseCode.commandComplete := by
  rw [accepted]
  cases haction : op.action with
  | control mem =>
    rw [sentFrames_control haction]
    by_cases haddressed : m.engine.addressed mem = true <;>
      simp [haddressed, frameResponseCode_answerBytes hlaid]
  | _ => simp

/-- A COMMAND_COMPLETE answers a command that the engine ran. -/
theorem run_of_complete (hcomplete : (m.answer hal mem).responseCode = ResponseCode.commandComplete) :
    ∃ c, verdict m.engine mem = .run c ∧ c ≠ .unsupported := by
  rw [Machine.answer] at hcomplete
  -- every refusal carries an error code
  cases hverdict : verdict m.engine mem with
  | refuse rc reason =>
    rw [hverdict] at hcomplete
    exact absurd hcomplete (verdict_eq_refuse hverdict).1
  | uninitialized =>
    rw [hverdict] at hcomplete
    exact absurd hcomplete (show ResponseCode.commandFailed ≠ _ by decide)
  | run c =>
    refine ⟨c, rfl, ?_⟩
    rintro rfl
    rw [hverdict] at hcomplete
    exact absurd hcomplete (show ResponseCode.commandUnsupported ≠ _ by decide)

theorem lookup_self : ∀ c : Command, ∃ len, lookup c.opcode = some (c, len) := by
  intro c
  cases c <;> exact ⟨_, rfl⟩

/-- A command that the engine runs completes, but for the unsupported ones and a Set VLAN
    Filter for no VLAN. -/
theorem Command.reply_responseCode (c : Command) (s : ChannelState)
    (hsupported : c ≠ .unsupported) (hvlan : c ≠ .setVLANFilter) :
    (c.reply mem s).responseCode = ResponseCode.commandComplete := by
  cases c with
  | unsupported => exact absurd rfl hsupported
  | setVLANFilter => exact absurd rfl hvlan
  | _ => rfl

/-- An accepted command is one that the engine ran. -/
theorem ran_of_accepted (hlaid : m.engine.Laid) {op : Op} {c : Command}
    (haccepted : accepted c.opcode ⟨m, op, m.step hal op⟩ = true) :
    m.ran op.action = some c := by
  obtain ⟨mem, haction, hopcode, haddressed, hcomplete⟩ :=
    (accepted_eq_true hlaid op c.opcode).mp haccepted
  rw [haction, Machine.ran, Engine.runs_eq_some]
  refine ⟨haddressed, ?_⟩
  obtain ⟨c', hverdict, -⟩ := run_of_complete hcomplete
  -- the opcode names one command only
  obtain ⟨len, hself⟩ := lookup_self c
  have hlookup := (verdict_eq_run.mp hverdict).1
  rw [hopcode, hself] at hlookup
  cases hlookup
  exact hverdict

variable (hal) in
/-- **Accepted commands** are those the engine ran. -/
theorem accepted_eq (hlaid : m.engine.Laid) (op : Op) (c : Command)
    (hsupported : c ≠ .unsupported) (hvlan : c ≠ .setVLANFilter) :
    accepted c.opcode ⟨m, op, m.step hal op⟩ = (m.ran op.action == some c) := by
  rw [Bool.eq_iff_iff, beq_iff_eq]
  constructor
  · exact ran_of_accepted hlaid
  · intro hran
    rw [accepted_eq_true hlaid]
    cases haction : op.action with
    | control mem =>
      rw [haction, Machine.ran, Engine.runs_eq_some] at hran
      obtain ⟨haddressed, hverdict⟩ := hran
      refine ⟨mem, rfl, lookup_opcode (verdict_eq_run.mp hverdict).1 hsupported, haddressed, ?_⟩
      rw [Machine.answer, hverdict]
      exact c.reply_responseCode _ hsupported hvlan
    | _ =>
      rw [haction] at hran
      cases hran

variable (hal) in
/-- Resets are `NCSI_init` and the Reset Channel commands the engine ran. -/
theorem isReset_eq (hlaid : m.engine.Laid) (op : Op) :
    isReset ⟨m, op, m.step hal op⟩ = m.resets op.action := by
  have haccepted := accepted_eq hal hlaid op .resetChannel (by decide) (by decide)
  -- a buffer that holds no control frame is never accepted
  cases op with
  | init => rfl
  | onRxFrame mem frameLen =>
    refine Eq.trans haccepted ?_
    rw [Op.action]
    split
    · rfl
    split <;> rfl
  | _ => exact haccepted

end Hal

end NcsiResponder
