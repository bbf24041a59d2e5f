import NcsiResponder.History

/-!
# Settings, call by call

What accepted commands and resets do to a setting, for the two kinds of settings there
are: a setting that one command writes and a reset keeps (`Kept`), and one that one
command turns on and another one and a reset turn off (`Switched`).
-/

namespace NcsiResponder

/-! ## What an accepted frame writes -/

/-- An accepted frame is a control frame. -/
theorem action_of_accepted {opcode : UInt8} {st : Call} (h : accepted opcode st = true) :
    ∃ mem, st.op.action = .control mem := by
  unfold accepted at h
  split at h
  · next mem haction => exact ⟨mem, haction⟩
  · cases h

/-- What a call writes to a setting: the value an accepted frame asks for. -/
def acceptedWrite {α : Type} (opcode : UInt8) (value : (Nat → UInt8) → α) (st : Call) : Option α :=
  match st.op.action with
  | .control mem => if accepted opcode st then some (value mem) else none
  | _ => none

theorem acceptedWrite_of_accepted {α : Type} {opcode : UInt8} {value : (Nat → UInt8) → α}
    {st : Call} {mem : Nat → UInt8} (haction : st.op.action = .control mem)
    (haccepted : accepted opcode st = true) :
    acceptedWrite opcode value st = some (value mem) := by
  unfold acceptedWrite
  rw [haction]
  exact if_pos haccepted

theorem acceptedWrite_isSome {α : Type} (opcode : UInt8) (value : (Nat → UInt8) → α) (st : Call) :
    (acceptedWrite opcode value st).isSome = accepted opcode st := by
  cases haccepted : accepted opcode st with
  | true =>
    obtain ⟨mem, haction⟩ := action_of_accepted haccepted
    rw [acceptedWrite_of_accepted haction haccepted]
    rfl
  | false => cases haction : st.op.action <;> simp [acceptedWrite, haction, haccepted]

/-! ## Settings that a reset keeps -/

/-- A setting that one command writes and a reset keeps. -/
structure Kept {α : Type} (read : ChannelState → α) (c : Command) (value : (Nat → UInt8) → α) :
    Prop where
  supported : c ≠ .unsupported
  hasCompletion : c ≠ .setVLANFilter
  settings : ∀ s, read s.settings = read s
  reset : ∀ s, read s.reset = read s
  command : ∀ hal mem calls s c',
    read (Command.newState hal mem calls s c') = if c' = c then value mem else read s

theorem kept_aenEnable :
    Kept (fun s => (s.aenMcId, s.aenControl)) .aenEnable
      fun mem => (mem AENEnable.aenMcId, Request.word mem AENEnable.aenControl) where
  supported := by decide
  hasCompletion := by decide
  settings _ := rfl
  reset _ := rfl
  command _ _ _ _ c' := by cases c' <;> rfl

theorem kept_setLink :
    Kept (fun s => (s.linkSettings, s.oemLinkSettings)) .setLink
      fun mem => (Request.word mem SetLink.linkSettings,
        Request.word mem SetLink.oemLinkSettings) where
  supported := by decide
  hasCompletion := by decide
  settings _ := rfl
  reset _ := rfl
  command _ _ _ _ c' := by cases c' <;> rfl

section Hal

variable {hal : Hal} {m : Machine}

theorem Kept.step {α : Type} {read : ChannelState → α} {c : Command} {value : (Nat → UInt8) → α}
    (hkept : Kept read c value) (hlaid : m.engine.Laid) (op : Op) :
    read (m.step hal op).engine.state =
      (acceptedWrite c.opcode value ⟨m, op, m.step hal op⟩).getD (read m.engine.state) := by
  have haccepted := accepted_eq hal hlaid op c hkept.supported hkept.hasCompletion
  unfold acceptedWrite
  rw [← hkept.settings, Machine.step_settings]
  -- only the one command writes the setting: a reset keeps it too
  cases haction : op.action with
  | control mem =>
    simp only [haccepted, haction]
    rw [Machine.newSettings, Machine.ran_control]
    cases m.engine.runs mem with
    | none => exact hkept.settings _
    | some c' => by_cases hc : c' = c <;> simp [hkept.settings, hkept.command, hc]
  | init => exact (hkept.settings _).trans (hkept.reset _)
  | _ => exact hkept.settings _

/-- A kept setting is what the newest accepted frame of its command asked for. -/
theorem Kept.eq {α : Type} {read : ChannelState → α} {c : Command} {value : (Nat → UInt8) → α}
    (hkept : Kept read c value) {hist : List Call} (hrun : FwRun hal hist m) :
    read m.engine.state =
      ((hist.find? (accepted c.opcode)).bind (acceptedWrite c.opcode value)).getD (read .zero) := by
  rw [hrun.lastWriter (fun m => read m.engine.state) (acceptedWrite c.opcode value)
      fun hbefore op => hkept.step hbefore.laid op,
    Runs.Run.findSome?_eq_bind_find?, funext (acceptedWrite_isSome c.opcode value)]
  rfl

end Hal

/-! ## Settings that are turned on and off -/

/-- A setting that the command `on` writes, and that the command `off` and a reset return
    to its default. -/
structure Switched {α : Type} (read : ChannelState → α) (on off : Command)
    (value : (Nat → UInt8) → α) (cleared : α) : Prop where
  on_supported : on ≠ .unsupported := by decide
  on_hasCompletion : on ≠ .setVLANFilter := by decide
  on_ne_reset : on ≠ .resetChannel := by decide
  off_supported : off ≠ .unsupported := by decide
  off_hasCompletion : off ≠ .setVLANFilter := by decide
  settings : ∀ s, read s.settings = read s := by exact fun _ => rfl
  zero : read .zero = cleared := by rfl
  reset : ∀ s : ChannelState, read s.reset = cleared := by exact fun _ => rfl
  command : ∀ hal mem calls s c, c ≠ .resetChannel →
    read (Command.newState hal mem calls s c) =
      if c = on then value mem else if c = off then cleared else read s

theorem switched_enabled :
    Switched ChannelState.enabled .enableChannel .disableChannel (fun _ => true) false where
  command _ _ _ _ c hc := by cases c <;> first | rfl | exact absurd rfl hc

theorem switched_txPassthroughEn :
    Switched ChannelState.txPassthroughEn .enableChannelNetworkTX .disableChannelNetworkTX
      (fun _ => true) false where
  command _ _ _ _ c hc := by cases c <;> first | rfl | exact absurd rfl hc

theorem switched_vlanEnabled :
    Switched ChannelState.vlanEnabled .enableVLAN .disableVLAN
      (fun mem => mem EnableVLAN.mode != 0) false where
  command _ _ _ _ c hc := by cases c <;> first | rfl | exact absurd rfl hc

theorem switched_broadcastFilterSettings :
    Switched ChannelState.broadcastFilterSettings .enableBroadcastFilter .disableBroadcastFilter
      (fun mem => Request.word mem EnableBroadcastFilter.broadcastPacketFilterSettings) 0 where
  command _ _ _ _ c hc := by cases c <;> first | rfl | exact absurd rfl hc

/-- What a call writes to a setting that is turned on and off. -/
def switchWrite {α : Type} (on off : UInt8) (value : (Nat → UInt8) → α) (cleared : α)
    (st : Call) : Option α :=
  (acceptedWrite on value st).or
    (if accepted off st || isReset st then some cleared else none)

/-- The newest one among the accepted frames of two packet types and the resets. -/
def lastSwitch (on off : UInt8) (hist : List Call) : Option Call :=
  hist.find? fun st => accepted on st || accepted off st || isReset st

theorem switchWrite_isSome {α : Type} (on off : UInt8) (value : (Nat → UInt8) → α) (cleared : α)
    (st : Call) :
    (switchWrite on off value cleared st).isSome =
      (accepted on st || accepted off st || isReset st) := by
  unfold switchWrite
  rw [Option.isSome_or, acceptedWrite_isSome, Bool.or_assoc]
  cases accepted off st || isReset st <;> rfl

section Hal

variable {hal : Hal} {m : Machine}

theorem Switched.step {α : Type} {read : ChannelState → α} {on off : Command}
    {value : (Nat → UInt8) → α} {cleared : α} (hswitched : Switched read on off value cleared)
    (hlaid : m.engine.Laid) (op : Op) :
    read (m.step hal op).engine.state =
      (switchWrite on.opcode off.opcode value cleared ⟨m, op, m.step hal op⟩).getD
        (read m.engine.state) := by
  have hon := accepted_eq hal hlaid op on hswitched.on_supported hswitched.on_hasCompletion
  have hoff := accepted_eq hal hlaid op off hswitched.off_supported hswitched.off_hasCompletion
  unfold switchWrite acceptedWrite
  rw [hoff, isReset_eq hal hlaid, ← hswitched.settings,
    Machine.step_settings]
  cases haction : op.action with
  | control mem =>
    simp only [hon, haction]
    rw [Machine.newSettings, Machine.resets, Machine.ran_control]
    cases m.engine.runs mem with
    | none => simp [hswitched.settings]
    | some c =>
      by_cases hreset : c = .resetChannel
      · subst hreset
        have hne := hswitched.on_ne_reset.symm
        simp [hne, hswitched.settings, hswitched.reset, Command.newState]
      · rw [hswitched.settings, hswitched.command _ _ _ _ _ hreset]
        by_cases hc : c = on
        · simp [hc]
        · by_cases hc' : c = off
          · subst hc'
            simp [hc]
          · simp [hc, hc', hreset]
  | init => exact (hswitched.settings _).trans (hswitched.reset _)
  | _ => exact hswitched.settings _

/-- A setting is what the newest switching call has left. -/
theorem Switched.eq {α : Type} {read : ChannelState → α} {on off : Command}
    {value : (Nat → UInt8) → α} {cleared : α} (hswitched : Switched read on off value cleared)
    {hist : List Call} (hrun : FwRun hal hist m) :
    read m.engine.state =
      ((lastSwitch on.opcode off.opcode hist).bind (acceptedWrite on.opcode value)).getD cleared := by
  have hlast := hrun.lastWriter (fun m => read m.engine.state)
    (switchWrite on.opcode off.opcode value cleared)
    fun hbefore op => hswitched.step hbefore.laid op
  have hzero : read Machine.registered.engine.state = cleared := hswitched.zero
  rw [hlast, hzero, Runs.Run.findSome?_eq_bind_find?,
    funext (switchWrite_isSome on.opcode off.opcode value cleared), lastSwitch]
  cases hfind : hist.find? fun st =>
      accepted on.opcode st || accepted off.opcode st || isReset st with
  | none => rfl
  | some st =>
    rw [Option.bind_some, Option.bind_some, switchWrite]
    -- turned off or never written, it has its default
    cases acceptedWrite on.opcode value st with
    | some a => rfl
    | none => cases accepted off.opcode st || isReset st <;> rfl

/-- A switch is on when the newest switching call was an accepted frame that asks for it. -/
theorem Switched.iff {read : ChannelState → Bool} {on off : Command}
    {value : (Nat → UInt8) → Bool} (hswitched : Switched read on off value false)
    {hist : List Call} (hrun : FwRun hal hist m) :
    read m.engine.state = true ↔
      ∃ st mem, lastSwitch on.opcode off.opcode hist = some st ∧ accepted on.opcode st = true ∧
        st.op.action = .control mem ∧ value mem = true := by
  rw [hswitched.eq hrun]
  cases lastSwitch on.opcode off.opcode hist with
  | none => simp
  | some st =>
    rw [Option.bind_some]
    cases haccepted : accepted on.opcode st with
    | true =>
      obtain ⟨mem, haction⟩ := action_of_accepted haccepted
      simp [acceptedWrite_of_accepted haction haccepted, haccepted, haction]
    | false =>
      have hnone : acceptedWrite on.opcode value st = none := by
        rw [← Option.isNone_iff_eq_none, ← Option.not_isSome, acceptedWrite_isSome, haccepted]
        rfl
      simp [hnone, haccepted]

/-- A switch that a frame can only turn on is on when the newest switching call was one. -/
theorem Switched.iff_accepted {read : ChannelState → Bool} {on off : Command}
    (hswitched : Switched read on off (fun _ => true) false)
    {hist : List Call} (hrun : FwRun hal hist m) :
    read m.engine.state = true ↔
      ∃ st, lastSwitch on.opcode off.opcode hist = some st ∧ accepted on.opcode st = true := by
  rw [hswitched.iff hrun]
  constructor
  · intro h
    rcases h with ⟨st, mem, hlast, haccepted, -, -⟩
    exact ⟨st, hlast, haccepted⟩
  · intro h
    rcases h with ⟨st, hlast, haccepted⟩
    obtain ⟨mem, haction⟩ := action_of_accepted haccepted
    exact ⟨st, mem, hlast, haccepted, haction, rfl⟩

end Hal

end NcsiResponder
