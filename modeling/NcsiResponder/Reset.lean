import Mathlib.Tactic.IntervalCases
import NcsiResponder.InitialState
import NcsiResponder.Settings

/-!
# What a reset forgets

`resetChannel` leaves five fields of the channel state as they were: the two of AEN
Enable, the two of Set Link and the drop counter. So whether a reset restores the
defaults depends on everything before it (`resetForgets_iff`).
-/

namespace NcsiResponder

/-! ## Defaults -/

/-- The transmissions of a call that succeeded. -/
def transmitted (st : Call) : Nat :=
  (callsMade st).countP fun
    | .txFrame _ sent => sent
    | _ => false

/-- Every setting and every counter has its default, but for the responses sent. -/
structure ChannelState.AtDefaults (responses : UInt32) (s : ChannelState) : Prop where
  ready : s.ready = false
  inert : s.Inert
  aenMcId : s.aenMcId = 0
  aenControl : s.aenControl = 0
  linkSettings : s.linkSettings = 0
  oemLinkSettings : s.oemLinkSettings = 0
  statNcsiRx : s.statNcsiRx = 0
  statNcsiTx : s.statNcsiTx = responses
  statNetRx : s.statNetRx = 0
  statNetTx : s.statNetTx = 0
  statNetDropped : s.statNetDropped = 0

/-- Every reset in these calls left the defaults; the response to a Reset Channel is
    counted. -/
def ResetForgets (hist : List Call) : Prop :=
  ∀ st ∈ hist, isReset st = true →
    st.after.engine.state.AtDefaults (UInt32.ofNat (transmitted st))

/-! ## What outlives a reset -/

/-- The last accepted frame of this packet type, if there was one, carried a payload
    that meets `Cleared`. -/
def LastCleared (opcode : UInt8) (Cleared : (Nat → UInt8) → Prop) (older : List Call) : Prop :=
  ∀ st, older.find? (accepted opcode) = some st →
    ∃ mem, st.op.action = .control mem ∧ Cleared mem

/-- A pass-through packet was offered to the channel and refused. -/
def drops (st : Call) : Bool := (callsMade st).contains (.passthroughRxPacket false)

/-- Nothing that outlives a reset was left behind: the last AEN Enable and the last Set
    Link set zeros, and the drop counter has not moved or has wrapped around. -/
structure NothingKept (older : List Call) : Prop where
  aenEnable : LastCleared ControlPacketType.aenEnable
    (fun mem => mem AENEnable.aenMcId = 0 ∧ Request.word mem AENEnable.aenControl = 0) older
  setLink : LastCleared ControlPacketType.setLink
    (fun mem => Request.word mem SetLink.linkSettings = 0 ∧
      Request.word mem SetLink.oemLinkSettings = 0) older
  drops : 2 ^ 32 ∣ older.countP NcsiResponder.drops

/-! ## The settings that are kept -/

section Hal

variable {hal : Hal} {m : Machine}

/-- A kept setting has its default exactly when the last accepted frame of its command,
    if there was one, asked for the default. -/
theorem Kept.eq_default_iff {α : Type} {read : ChannelState → α} {c : Command}
    {value : (Nat → UInt8) → α} (hkept : Kept read c value) {hist : List Call}
    (hrun : FwRun hal hist m) :
    read m.engine.state = read .zero ↔
      LastCleared c.opcode (fun mem => value mem = read .zero) hist := by
  rw [hkept.eq hrun, LastCleared]
  cases hfind : hist.find? (accepted c.opcode) with
  | none => exact iff_of_true rfl (by simp)
  | some st =>
    have haccepted : accepted c.opcode st = true := List.find?_some hfind
    obtain ⟨mem, haction⟩ := action_of_accepted haccepted
    simp [acceptedWrite_of_accepted haction haccepted, haction]

/-! ## The drop counter -/

/-- A packet is refused by a poll of an enabled channel, and by no other call. -/
theorem drops_eq (op : Op) :
    drops ⟨m, op, m.step hal op⟩ =
      match op.action with
      | .handlePassthrough => m.engine.state.enabled && !hal.passthroughRxPacket m.calls
      | _ => false := by
  rw [drops, callsMade_step]
  cases op.action with
  | control mem =>
    -- a command never polls the HAL for a packet
    have hnone : HalCall.passthroughRxPacket false ∉ m.newCalls hal (.control mem) := by
      intro hcall
      rw [Machine.newCalls] at hcall
      split at hcall
      · rcases List.mem_cons.mp hcall with heq | hcall
        · cases heq
        · cases Verdict.newCalls_isDevice _ _ hcall
      · cases hcall
    simpa using hnone
  | handlePassthrough =>
    cases henabled : m.engine.state.enabled <;>
      cases hmoved : hal.passthroughRxPacket m.calls <;>
      simp [Machine.newCalls, henabled, hmoved]
  | forward src frame =>
    by_cases hforwards : m.engine.state.forwards src <;> simp [Machine.newCalls, hforwards]
  | _ => rfl

/-- Every refused packet is counted, and nothing resets the counter. -/
theorem step_statNetDropped (op : Op) :
    (m.step hal op).engine.state.statNetDropped =
      if drops ⟨m, op, m.step hal op⟩ then m.engine.state.statNetDropped + 1
      else m.engine.state.statNetDropped := by
  rw [Machine.step_engine, drops_eq]
  cases op.action with
  | control mem =>
    have hkeeps : (m.worked hal mem).engine.state.statNetDropped =
        m.engine.state.statNetDropped := by
      rw [Machine.worked]
      cases verdict m.engine mem with
      | run c => cases c <;> rfl
      | _ => rfl
    rw [Machine.act, Machine.handle_engine, if_neg Bool.false_ne_true]
    split
    · rw [Machine.conclude_state]
      exact hkeeps
    · rfl
  | _ => rfl

theorem statNetDropped_eq {hist : List Call} (hrun : FwRun hal hist m) :
    m.engine.state.statNetDropped = UInt32.ofNat (hist.countP drops) := by
  -- by induction on the run: the counter is the number of refusals, modulo 2 ^ 32
  induction hrun with
  | start => rfl
  | @next hist m m' op hrun htakes ih =>
    obtain rfl := (takes_iff hal (FwRun.port0 hal hrun) op).mp htakes
    rw [step_statNetDropped, ih, List.countP_cons]
    split <;> simp [*, UInt32.ofNat_add]

theorem statNetDropped_eq_zero_iff {hist : List Call} (hrun : FwRun hal hist m) :
    m.engine.state.statNetDropped = 0 ↔ 2 ^ 32 ∣ hist.countP drops := by
  rw [statNetDropped_eq hrun, ← UInt32.toNat_inj, UInt32.toNat_ofNat]
  exact (Nat.dvd_iff_mod_eq_zero ..).symm

/-! ## Resets -/

/-- What a reset leaves: `resetChannel`, and then the response is counted. -/
theorem step_reset_state {op : Op} (hresets : m.resets op.action = true) :
    (m.step hal op).engine.state =
      { m.engine.state.reset with
        statNcsiTx := UInt32.ofNat (transmitted ⟨m, op, m.step hal op⟩) } := by
  rw [Machine.step_engine, transmitted, callsMade_step]
  -- `NCSI_init` sends nothing, Reset Channel is answered after the counters are cleared
  cases haction : op.action with
  | control mem =>
    rw [haction, Machine.resets, beq_iff_eq, Engine.runs_eq_some] at hresets
    obtain ⟨haddressed, hverdict⟩ := hresets
    have hworked : (m.worked hal mem).engine.state = m.engine.state.reset := by
      rw [Machine.worked, hverdict]
      rfl
    rw [Machine.act, Machine.handle_engine, if_pos haddressed, Machine.conclude_state,
      Machine.newCalls, if_pos haddressed, hverdict, hworked]
    cases hal.txFrame (m.worked hal mem).calls (m.answerBytes hal mem) <;> rfl
  | init => rfl
  | _ =>
    rw [haction] at hresets
    cases hresets

theorem reset_atDefaults_iff (s : ChannelState) (responses : UInt32) :
    ({ s.reset with statNcsiTx := responses } : ChannelState).AtDefaults responses ↔
      (s.aenMcId, s.aenControl) = (0, 0) ∧ (s.linkSettings, s.oemLinkSettings) = (0, 0) ∧
        s.statNetDropped = 0 := by
  constructor
  · intro h
    exact ⟨Prod.ext h.aenMcId h.aenControl, Prod.ext h.linkSettings h.oemLinkSettings,
      h.statNetDropped⟩
  · rintro ⟨haen, hlink, hdropped⟩
    obtain ⟨haenMcId, haenControl⟩ := Prod.mk.inj haen
    obtain ⟨hlinkSettings, hoemLinkSettings⟩ := Prod.mk.inj hlink
    have hinert := s.reset_inert
    exact
      { ready := rfl
        inert := ⟨rfl, rfl, rfl, rfl, hinert.macFilters⟩
        aenMcId := haenMcId
        aenControl := haenControl
        linkSettings := hlinkSettings
        oemLinkSettings := hoemLinkSettings
        statNcsiRx := rfl
        statNcsiTx := rfl
        statNetRx := rfl
        statNetTx := rfl
        statNetDropped := hdropped }

/-- What outlives a reset, read off the history. -/
theorem nothingKept_iff {hist : List Call} (hrun : FwRun hal hist m) :
    NothingKept hist ↔
      (m.engine.state.aenMcId, m.engine.state.aenControl) = (0, 0) ∧
        (m.engine.state.linkSettings, m.engine.state.oemLinkSettings) = (0, 0) ∧
        m.engine.state.statNetDropped = 0 := by
  have haen := kept_aenEnable.eq_default_iff hrun
  have hlink := kept_setLink.eq_default_iff hrun
  have hdropped := statNetDropped_eq_zero_iff hrun
  simp only [Prod.mk.injEq, ChannelState.zero] at haen hlink ⊢
  constructor
  · intro h
    exact ⟨haen.mpr h.aenEnable, hlink.mpr h.setLink, hdropped.mpr h.drops⟩
  · rintro ⟨h₁, h₂, h₃⟩
    exact ⟨haen.mp h₁, hlink.mp h₂, hdropped.mp h₃⟩

/-- **When a reset forgets history**: every reset of a run leaves every setting and every
    counter at its default exactly when, before each of them, the last AEN Enable and the
    last Set Link had set zeros and the drop counter was at zero. -/
theorem resetForgets_iff {hist : List Call} (hrun : FwRun hal hist m) :
    ResetForgets hist ↔
      ∀ older st, st :: older <:+ hist → isReset st = true → NothingKept older := by
  -- one reset, with the run before it
  have hone : ∀ older before op, FwRun hal older before →
      isReset ⟨before, op, before.step hal op⟩ = true →
      (NothingKept older ↔ (before.step hal op).engine.state.AtDefaults
        (UInt32.ofNat (transmitted ⟨before, op, before.step hal op⟩))) := by
    intro older before op hbefore hreset
    rw [isReset_eq hal hbefore.laid] at hreset
    rw [step_reset_state hreset, reset_atDefaults_iff, nothingKept_iff hbefore]
  constructor
  · intro hforgets older st hsuffix hreset
    obtain ⟨before, op, hbefore, rfl⟩ := hrun.of_suffix hsuffix
    exact (hone older before op hbefore hreset).mpr
      (hforgets _ (hsuffix.mem List.mem_cons_self) hreset)
  · intro hkept st hst hreset
    obtain ⟨older, before, op, hsuffix, hbefore, rfl⟩ := hrun.of_mem hst
    exact (hone older before op hbefore hreset).mp (hkept older _ hsuffix hreset)

end Hal

/-- A run that configures asynchronous notifications. -/
def aenOps : List Op := [
  .init,
  .rxFrame (request 0 ControlPacketType.clearInitialState []),
  .rxFrame (request 0 ControlPacketType.aenEnable [0, 0, 0, 1, 0, 0, 0, 7])]

/-- A Reset Channel request to channel 0. -/
def resetChannelRequest : Nat → UInt8 :=
  request 0 ControlPacketType.resetChannel [0, 0, 0, 0]

/-- Reset Channel keeps the controller ID and the control word of AEN Enable. -/
theorem not_resetForgets_aen :
    FwRun sampleHal (play sampleHal (aenOps ++ [.rxFrame resetChannelRequest])).1
        (play sampleHal (aenOps ++ [.rxFrame resetChannelRequest])).2 ∧
      ¬ ResetForgets (play sampleHal (aenOps ++ [.rxFrame resetChannelRequest])).1 := by
  refine ⟨fwRun_play _ _, fun hforgets => ?_⟩
  rw [play_snoc] at hforgets
  have hdefaults := hforgets _ List.mem_cons_self (by
    rw [isReset_eq sampleHal (fwRun_play sampleHal aenOps).laid]
    decide +kernel)
  exact absurd hdefaults.aenMcId (by decide +kernel)

/-- A run that sets notifications, clears them and the link settings, and then resets. -/
def clearedOps : List Op := aenOps ++ [
  .rxFrame (request 0 ControlPacketType.aenEnable [0, 0, 0, 0, 0, 0, 0, 0]),
  .rxFrame (request 0 ControlPacketType.setLink [0, 0, 0, 0, 0, 0, 0, 0])]

/-- Reset Channel leaves the defaults when zeros were set last. -/
theorem resetForgets_iff_cleared :
    let ops := clearedOps ++ [.rxFrame resetChannelRequest]
    ResetForgets (play sampleHal ops).1 ∧
      ∃ st ∈ (play sampleHal ops).1, accepted ControlPacketType.resetChannel st = true := by
  intro ops
  constructor
  · refine (resetForgets_iff (fwRun_play sampleHal ops)).mpr fun older st hsuffix hreset => ?_
    obtain ⟨n, op, hop, rfl, rfl⟩ := exists_of_suffix_play hsuffix
    have hrun := fwRun_play sampleHal (ops.take n)
    rw [isReset_eq sampleHal hrun.laid] at hreset
    rw [nothingKept_iff hrun]
    have hn : n < 6 := (List.getElem?_eq_some_iff.mp hop).1
    interval_cases n <;> cases hop <;> revert hreset <;> decide +kernel
  · rw [play_snoc]
    refine ⟨_, List.mem_cons_self, ?_⟩
    have haccepted := accepted_eq sampleHal (fwRun_play sampleHal clearedOps).laid
      (.rxFrame resetChannelRequest) .resetChannel (by decide) (by decide)
    refine haccepted.trans ?_
    decide +kernel

end NcsiResponder
