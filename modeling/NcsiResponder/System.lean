import Mathlib.Data.List.Induction
import NcsiResponder.EntryPoints
import NcsiResponder.Lib.Runs

/-!
# Runs of the firmware

An `Op` is one call into the engine, and a run is any sequence of calls made after
`NCSI_usePort` has registered the zeroed port. The engine never faults on one
(`exists_run`), every step of one is `Machine.step`, and what a step did can be
told from its history entry: the HAL calls it made (`newCalls`), the frames it sent
(`sentFrames`), the command it ran (`Machine.ran`).
-/

namespace NcsiResponder

open BigEndian

/-! ## Calls into the engine -/

/-- One call into the engine. -/
inductive Op where
  /-- `handleNCSIFrame` on a received frame -/
  | rxFrame (mem : Nat → UInt8)
  /-- `ncsi_on_rx_frame` on a received buffer -/
  | onRxFrame (mem : Nat → UInt8) (frameLen : Nat)
  | init
  | reload (resetPhy : ReloadType)
  | setComputeChecksum (enable : Bool)
  | handlePassthrough
  /-- `ncsi_passthrough_tx_from_mc` on the registered port -/
  | passthroughTx (sourceMac frame : Nat → UInt8) (frameLen : Nat)

section Hal

variable (hal : Hal)

/-- The engine's code behind a call. -/
def exec : Op → Fw Unit
  | .rxFrame mem => handleNCSIFrame hal (.ofFrame mem)
  | .onRxFrame mem frameLen => ncsiOnRxFrame hal mem frameLen
  | .init => ncsiInit hal
  | .reload resetPhy => ncsiReload resetPhy
  | .setComputeChecksum enable => ncsiSetComputeChecksum enable
  | .handlePassthrough => ncsiHandlePassthrough hal
  | .passthroughTx sourceMac frame frameLen => do
    let _ ← ncsiPassthroughTxFromMc hal .gPort (.ofFrame sourceMac) (.ofFrame frame) frameLen

end Hal

/-- What a call comes down to, once `ncsi_on_rx_frame` has looked at the buffer. -/
inductive Action where
  /-- a frame handed to `handleNCSIFrame` -/
  | control (mem : Nat → UInt8)
  /-- a frame handed to `ncsi_passthrough_tx_from_mc` -/
  | forward (sourceMac : RxPtr) (frame : List UInt8)
  | init
  | reload (resetPhy : ReloadType)
  | setComputeChecksum (enable : Bool)
  | handlePassthrough
  /-- a buffer too short for a header -/
  | ignore

namespace Op

def action : Op → Action
  | rxFrame mem => .control mem
  | onRxFrame mem frameLen =>
    if frameLen < sizeofControlPacketHeader then .ignore
    else if be16 (mem Header.etherType) (mem (Header.etherType + 1)) = etherTypeNcsi then
      .control mem
    else .forward ⟨mem, Header.sourceAddress⟩ ((RxPtr.ofFrame mem).take frameLen)
  | init => .init
  | reload resetPhy => .reload resetPhy
  | setComputeChecksum enable => .setComputeChecksum enable
  | handlePassthrough => .handlePassthrough
  | passthroughTx sourceMac frame frameLen =>
    .forward (.ofFrame sourceMac) ((RxPtr.ofFrame frame).take frameLen)

/-- The bytes `ncsi_on_rx_frame` itself reads. -/
def ownReads : Op → List Nat
  | onRxFrame _ frameLen =>
    if frameLen < sizeofControlPacketHeader then [] else [Header.etherType, Header.etherType + 1]
  | _ => []

end Op

section Hal

variable (hal : Hal)

/-- An action in closed form. -/
def Machine.act (m : Machine) : Action → Machine
  | .control mem => m.handle hal mem
  | .forward sourceMac frame => (m.forward hal sourceMac frame).2
  | .init => m.boot hal
  | .reload resetPhy => m.reload resetPhy
  | .setComputeChecksum enable => m.setComputeChecksum enable
  | .handlePassthrough => m.pollPassthrough hal
  | .ignore => m

/-- A call in closed form. -/
def Machine.step (m : Machine) (op : Op) : Machine := (m.readAll op.ownReads).act hal op.action

/-- **Calls in closed form**: with a port registered the engine never faults, and a
    call does what `Machine.step` says. -/
theorem exec_run {m : Machine} (h : m.engine.port0 = .gPort) (op : Op) :
    exec hal op m = .ok ((), m.step hal op) := by
  cases op with
  | rxFrame mem => exact handleNCSIFrame_run hal mem h
  | onRxFrame mem frameLen =>
    rw [exec, ncsiOnRxFrame_run hal h, Machine.step, Machine.receive, Op.action, Op.ownReads]
    split
    · rfl
    split <;> rfl
  | init => exact ncsiInit_run hal h
  | reload resetPhy => exact ncsiReload_run h resetPhy
  | setComputeChecksum enable => exact ncsiSetComputeChecksum_run enable
  | handlePassthrough => exact ncsiHandlePassthrough_run hal h
  | passthroughTx sourceMac frame frameLen =>
    simp only [exec, bind_run, ncsiPassthroughTxFromMc_run hal h]
    rfl

/-! ## Runs -/

/-- `Takes hal m op m'`: called from `m`, the engine returns and leaves `m'`. -/
def Takes (m : Machine) (op : Op) (m' : Machine) : Prop := exec hal op m = .ok ((), m')

/-- A call that was made, with the machine before and after it. -/
abbrev Call := Runs.Step Machine Op

end Hal

/-- Static storage with a zeroed port registered. -/
def Machine.registered : Machine :=
  { Machine.powerOn with engine := { Engine.powerOn with port0 := .gPort } }

theorem ncsiUsePort_powerOn :
    ncsiUsePort .gPort Machine.powerOn = .ok ((), Machine.registered) := rfl

section Hal

variable (hal : Hal)

/-- The runs of the firmware from a zeroed registered port. -/
abbrev FwRun : List Call → Machine → Prop := Runs.Run (Takes hal) Machine.registered

/-! ## What a step does -/

/-- The HAL calls of a decision before the answer is sent, newest first. -/
def Verdict.newCalls (mem : Nat → UInt8) (m : Machine) : Verdict → List HalCall
  | .run c => c.newCalls hal mem m.accept.engine.state m.calls
  | _ => []

/-- The command a received frame is handed to, if any. -/
def Engine.runs (e : Engine) (mem : Nat → UInt8) : Option Command :=
  if e.addressed mem then
    match verdict e mem with
    | .run c => some c
    | _ => none
  else none

namespace Machine

/-- The machine once the dispatcher has decided and the command, if any, has run. -/
def worked (mem : Nat → UInt8) (m : Machine) : Machine := m.work hal mem (verdict m.engine mem)

/-- How an addressed frame is answered. -/
def answer (mem : Nat → UInt8) (m : Machine) : Reply :=
  (verdict m.engine mem).reply mem (m.worked hal mem).engine.state

/-- The bytes an addressed frame is answered with. -/
def answerBytes (mem : Nat → UInt8) (m : Machine) : List UInt8 :=
  (m.worked hal mem).engine.outBytes mem (m.answer hal mem)

/-- The HAL calls of an action, newest first. -/
def newCalls (m : Machine) : Action → List HalCall
  | .control mem =>
    if m.engine.addressed mem then
      .txFrame (m.answerBytes hal mem)
        (hal.txFrame (m.worked hal mem).calls (m.answerBytes hal mem)) ::
        (verdict m.engine mem).newCalls hal mem m
    else []
  | .forward sourceMac frame =>
    if m.engine.state.forwards sourceMac then [.txFrame frame (hal.txFrame m.calls frame)] else []
  | .init =>
    let package := HalCall.readPackageID (hal.readPackageID m.calls)
    let channel := HalCall.readChannelID (hal.readChannelID (package :: m.calls))
    resetCalls hal (channel :: package :: m.calls) ++ [channel, package]
  | .reload resetPhy => [.initPort resetPhy]
  | .handlePassthrough =>
    if m.engine.state.enabled then
      [.passthroughRxPacket (hal.passthroughRxPacket m.calls)]
    else []
  | .setComputeChecksum _ | .ignore => []

variable {hal} {m : Machine} {mem : Nat → UInt8}

theorem conclude_readAll_engine (is : List Nat) (v : Verdict) :
    ((m.readAll is).conclude hal mem v).engine = (m.conclude hal mem v).engine := by
  cases v <;> rfl

theorem conclude_readAll_calls (is : List Nat) (v : Verdict) :
    ((m.readAll is).conclude hal mem v).calls = (m.conclude hal mem v).calls := by
  cases v <;> rfl

theorem handle_engine : (m.handle hal mem).engine =
    if m.engine.addressed mem then (m.conclude hal mem (verdict m.engine mem)).engine
    else m.engine := by
  simp only [handle]
  split
  · rw [conclude_readAll_engine]
  · rfl

theorem handle_calls : (m.handle hal mem).calls =
    if m.engine.addressed mem then (m.conclude hal mem (verdict m.engine mem)).calls
    else m.calls := by
  simp only [handle]
  split
  · rw [conclude_readAll_calls]
  · rfl

theorem work_calls (v : Verdict) :
    (m.work hal mem v).calls = v.newCalls hal mem m ++ m.calls := by
  cases v <;> rfl

theorem act_calls (a : Action) : (m.act hal a).calls = m.newCalls hal a ++ m.calls := by
  -- only a control frame makes a list that depends on what the command does
  cases a with
  | control mem =>
    rw [act, handle_calls, newCalls]
    split
    · rw [List.cons_append, ← work_calls]
      rfl
    · rfl
  | forward sourceMac frame =>
    by_cases hforwards : m.engine.state.forwards sourceMac <;>
      simp [act, forward, newCalls, hforwards]
  | init => simp [act, boot, newCalls]
  | handlePassthrough =>
    by_cases henabled : m.engine.state.enabled <;>
      simp [act, pollPassthrough, newCalls, henabled]
  | reload _ | setComputeChecksum _ | ignore => rfl

/-- What a call reads itself does not matter to the engine. -/
theorem step_engine (op : Op) : (m.step hal op).engine = (m.act hal op.action).engine := by
  rw [step]
  cases op.action with
  | control mem => simp only [act, handle_engine, readAll_engine, conclude_readAll_engine]
  | _ => rfl

theorem newCalls_readAll (is : List Nat) (a : Action) :
    (m.readAll is).newCalls hal a = m.newCalls hal a := by
  -- replies depend on calls, never on what was read
  cases a with
  | control mem =>
    simp only [newCalls, answerBytes, answer, worked, readAll_engine]
    cases verdict m.engine mem <;> rfl
  | _ => rfl

theorem step_calls (op : Op) :
    (m.step hal op).calls = m.newCalls hal op.action ++ m.calls := by
  rw [step, act_calls, newCalls_readAll, readAll_calls]

/-! ## What a step leaves -/

/-- The part of static storage that no handler writes. -/
theorem worked_fixed : (m.worked hal mem).engine =
    { m.engine with
      selected := (m.worked hal mem).engine.selected
      state := (m.worked hal mem).engine.state } := by
  rw [worked]
  cases verdict m.engine mem <;> rfl

theorem conclude_engine : (m.conclude hal mem (verdict m.engine mem)).engine =
    let e := (m.worked hal mem).engine
    let sent := hal.txFrame (m.worked hal mem).calls (m.answerBytes hal mem)
    { e with
      frame := Function.update m.engine.frame (m.answer hal mem).frameVar
        (e.outFrame mem (m.answer hal mem))
      state := { e.state with
        statNcsiTx := if sent then e.state.statNcsiTx + 1 else e.state.statNcsiTx } } := by
  have hframe : (m.worked hal mem).engine.frame = m.engine.frame := by rw [worked_fixed]
  rw [← hframe]
  rfl

/-- After the answer, the channel state is the one the command left, with the answer counted. -/
theorem conclude_state : (m.conclude hal mem (verdict m.engine mem)).engine.state =
    { (m.worked hal mem).engine.state with
      statNcsiTx :=
        if hal.txFrame (m.worked hal mem).calls (m.answerBytes hal mem) then
          (m.worked hal mem).engine.state.statNcsiTx + 1
        else (m.worked hal mem).engine.state.statNcsiTx } := rfl

end Machine

/-- A channel state without its counters. -/
def ChannelState.settings (s : ChannelState) : ChannelState :=
  { s with statNcsiRx := 0, statNcsiTx := 0, statNetRx := 0, statNetTx := 0, statNetDropped := 0 }

/-- The settings an action leaves: only a command and a reset change any. -/
def Machine.newSettings (m : Machine) : Action → ChannelState
  | .control mem =>
    match m.engine.runs mem with
    | some c => (c.newState hal mem m.calls m.engine.state).settings
    | none => m.engine.state.settings
  | .init => m.engine.state.reset.settings
  | _ => m.engine.state.settings

theorem Command.newState_settings {hal : Hal} {mem : Nat → UInt8} {calls : List HalCall}
    (s : ChannelState) (rx : UInt32) (c : Command) :
    (c.newState hal mem calls { s with statNcsiRx := rx }).settings =
      (c.newState hal mem calls s).settings := by
  cases c <;> rfl

namespace Machine

variable {hal} {m : Machine}

theorem act_settings (a : Action) :
    (m.act hal a).engine.state.settings = m.newSettings hal a := by
  -- reload, pass-through and the checksum switch move counters and flags only
  cases a with
  | control mem =>
    rw [act, handle_engine, newSettings, Engine.runs]
    split
    · rw [conclude_engine, worked]
      cases verdict m.engine mem with
      | run c => exact c.newState_settings m.engine.state _
      | refuse _ _ | uninitialized => rfl
    · rfl
  | _ => rfl

variable (hal) in
theorem step_settings (op : Op) :
    (m.step hal op).engine.state.settings = m.newSettings hal op.action := by
  rw [step_engine, act_settings]

/-- What no call ever changes: the port is the one that was registered. -/
theorem step_port0 (op : Op) : (m.step hal op).engine.port0 = m.engine.port0 := by
  rw [step_engine]
  cases op.action with
  | control mem =>
    rw [act, handle_engine]
    split
    · rw [conclude_engine, worked_fixed]
    · rfl
  | _ => rfl

end Machine

/-! ## Reachable machines -/

/-- From a registered port a call can only end in its closed form. -/
theorem takes_iff {m m' : Machine} (h : m.engine.port0 = .gPort) (op : Op) :
    Takes hal m op m' ↔ m' = m.step hal op := by
  rw [Takes, exec_run hal h]
  exact ⟨by rintro ⟨⟩; rfl, by rintro rfl; rfl⟩

theorem FwRun.port0 {hist : List Call} {m : Machine} (hrun : FwRun hal hist m) :
    m.engine.port0 = .gPort := by
  refine hrun.invariant (fun m => m.engine.port0 = .gPort) rfl fun m op m' h htakes => ?_
  rw [(takes_iff hal h op).mp htakes, Machine.step_port0, h]

/-- **Every sequence of calls has a run**: from a registered port the engine never
    faults and always returns. Calls are listed newest first. -/
theorem exists_run (ops : List Op) : ∃ hist m, FwRun hal hist m ∧ hist.map Runs.Step.op = ops := by
  refine Runs.Run.exists_of_total (fun m => m.engine.port0 = .gPort) rfl ?_ ?_ ops
  · intro m op m' h htakes
    rw [(takes_iff hal h op).mp htakes, Machine.step_port0, h]
  · exact fun m op h => ⟨m.step hal op, exec_run hal h op⟩

variable {hal}

/-- What every action keeps of the static storage holds in every run. -/
theorem FwRun.engine_invariant (Inv : Engine → Prop) (hstart : Inv Machine.registered.engine)
    (hact : ∀ (m : Machine) (a : Action), Inv m.engine → Inv (m.act hal a).engine)
    {hist : List Call} {m : Machine} (hrun : FwRun hal hist m) : Inv m.engine := by
  -- the registered port is part of the invariant: without it a call need not be its closed form
  have hboth := hrun.invariant (fun m => m.engine.port0 = .gPort ∧ Inv m.engine)
    ⟨rfl, hstart⟩ fun m op m' h htakes => by
      rw [(takes_iff hal h.1 op).mp htakes, Machine.step_port0, Machine.step_engine]
      exact ⟨h.1, hact m op.action h.2⟩
  exact hboth.2

/-- The calls before a call of the history are a run, and the call is a step. -/
theorem FwRun.of_suffix {hist older : List Call} {st : Call} {m : Machine}
    (hrun : FwRun hal hist m) (hsuffix : st :: older <:+ hist) :
    ∃ before op, FwRun hal older before ∧ st = ⟨before, op, before.step hal op⟩ := by
  obtain ⟨hbefore, htakes⟩ := Runs.Run.of_suffix hrun hsuffix
  refine ⟨st.before, st.op, hbefore, ?_⟩
  rw [← (takes_iff hal (FwRun.port0 hal hbefore) st.op).mp htakes]

theorem FwRun.of_mem {hist : List Call} {st : Call} {m : Machine} (hrun : FwRun hal hist m)
    (hmem : st ∈ hist) :
    ∃ older before op, st :: older <:+ hist ∧ FwRun hal older before ∧
      st = ⟨before, op, before.step hal op⟩ := by
  obtain ⟨older, hsuffix, -⟩ := Runs.Run.of_mem hrun hmem
  obtain ⟨before, op, hbefore, hst⟩ := hrun.of_suffix hsuffix
  exact ⟨older, before, op, hsuffix, hbefore, hst⟩

/-- Last writers, for calls in closed form. -/
theorem FwRun.lastWriter {α : Type} (read : Machine → α) (write : Call → Option α)
    (hstep : ∀ {older : List Call} {m : Machine}, FwRun hal older m → ∀ op,
      read (m.step hal op) = (write ⟨m, op, m.step hal op⟩).getD (read m))
    {hist : List Call} {m : Machine} (hrun : FwRun hal hist m) :
    read m = (hist.findSome? write).getD (read Machine.registered) := by
  refine Runs.Run.lastWriter read write (fun older m op m' hbefore htakes => ?_) hrun
  obtain rfl := (takes_iff hal (FwRun.port0 hal hbefore) op).mp htakes
  exact hstep hbefore op

/-- Last writers since the last reset, for calls in closed form. -/
theorem FwRun.lastWriter_since {α : Type} (read : Machine → α) (reset : Call → Bool)
    (write : Call → Option α)
    (hstep : ∀ {older : List Call} {m : Machine}, FwRun hal older m → ∀ op,
      read (m.step hal op) =
        if reset ⟨m, op, m.step hal op⟩ then read Machine.registered
        else (write ⟨m, op, m.step hal op⟩).getD (read m))
    {hist : List Call} {m : Machine} (hrun : FwRun hal hist m) :
    read m = ((Runs.Run.since reset hist).findSome? write).getD (read Machine.registered) := by
  refine Runs.Run.lastWriter_since read reset write (fun older m op m' hbefore htakes => ?_) hrun
  obtain rfl := (takes_iff hal (FwRun.port0 hal hbefore) op).mp htakes
  exact hstep hbefore op

/-- Counters modulo 2 ^ 32, for calls in closed form. -/
theorem FwRun.counter_since (read : Machine → UInt32) (zeroes : Call → Bool)
    (counts own : Call → ℕ) (hstart : read Machine.registered = 0)
    (hstep : ∀ {older : List Call} {m : Machine}, FwRun hal older m → ∀ op,
      read (m.step hal op) =
        if zeroes ⟨m, op, m.step hal op⟩ then UInt32.ofNat (own ⟨m, op, m.step hal op⟩)
        else read m + UInt32.ofNat (counts ⟨m, op, m.step hal op⟩))
    {hist : List Call} {m : Machine} (hrun : FwRun hal hist m) :
    read m = UInt32.ofNat (Runs.Run.countSince zeroes counts own hist) := by
  refine Runs.Run.counter_since UInt32.ofNat (fun a b => UInt32.ofNat_add a b) read zeroes counts
    own hstart (fun older m op m' hbefore htakes => ?_) hrun
  obtain rfl := (takes_iff hal (FwRun.port0 hal hbefore) op).mp htakes
  exact hstep hbefore op

/-- Conditional invariants, for calls in closed form. -/
theorem FwRun.along_iff (Inv : Machine → Prop) (Ok : Call → Prop)
    (hstart : Inv Machine.registered)
    (hstep : ∀ {older : List Call} {m : Machine}, FwRun hal older m → Inv m → ∀ op,
      (Inv (m.step hal op) ↔ Ok ⟨m, op, m.step hal op⟩))
    {hist : List Call} {m : Machine} (hrun : FwRun hal hist m) :
    (∀ st ∈ hist, Inv st.after) ↔ ∀ st ∈ hist, Ok st := by
  refine Runs.Run.along_iff Inv Ok hstart (fun older m op m' hbefore hinv htakes => ?_) hrun
  obtain rfl := (takes_iff hal (FwRun.port0 hal hbefore) op).mp htakes
  exact hstep hbefore hinv op

/-! ## Playing calls -/

/-- The history and the machine after these calls, in order. -/
def play (hal : Hal) (ops : List Op) : List Call × Machine :=
  ops.foldl (fun (hist, m) op => (⟨m, op, m.step hal op⟩ :: hist, m.step hal op))
    ([], Machine.registered)

theorem play_snoc (hal : Hal) (ops : List Op) (op : Op) :
    play hal (ops ++ [op]) =
      (⟨(play hal ops).2, op, (play hal ops).2.step hal op⟩ :: (play hal ops).1,
        (play hal ops).2.step hal op) := by
  simp [play]

theorem fwRun_play (hal : Hal) (ops : List Op) : FwRun hal (play hal ops).1 (play hal ops).2 := by
  have hfold : ∀ (hist : List Call) (m : Machine), FwRun hal hist m →
      let end_ := ops.foldl (fun (hist, m) op => (⟨m, op, m.step hal op⟩ :: hist, m.step hal op))
        (hist, m)
      FwRun hal end_.1 end_.2 := by
    -- for the run so far and the calls still to come
    induction ops with
    | nil => exact fun _ _ hrun => hrun
    | cons op ops ih =>
      intro hist m hrun
      exact ih _ _ (hrun.next ((takes_iff hal (FwRun.port0 hal hrun) op).mpr rfl))
  exact hfold [] _ .start

/-- A call of such a history comes after the calls that were played before it. -/
theorem exists_of_suffix_play {ops : List Op} {st : Call} {older : List Call}
    (h : st :: older <:+ (play hal ops).1) :
    ∃ n op, ops[n]? = some op ∧ older = (play hal (ops.take n)).1 ∧
      st = ⟨(play hal (ops.take n)).2, op, (play hal (ops.take n)).2.step hal op⟩ := by
  -- by induction on the calls, the newest one split off
  induction ops using List.reverseRecOn with
  | nil => cases List.suffix_nil.mp h
  | append_singleton ops op ih =>
    rw [play_snoc] at h
    rcases List.suffix_cons_iff.mp h with heq | h
    · obtain ⟨rfl, rfl⟩ := List.cons.inj heq
      refine ⟨ops.length, op, ?_, ?_, ?_⟩ <;> simp
    · obtain ⟨n, op', hop, rfl, rfl⟩ := ih h
      have hn : n < ops.length := (List.getElem?_eq_some_iff.mp hop).1
      refine ⟨n, op', ?_, ?_, ?_⟩
      · rw [List.getElem?_append_left hn, hop]
      · rw [List.take_append_of_le_length hn.le]
      · rw [List.take_append_of_le_length hn.le]

/-- A call of such a history is one of those that were played. -/
theorem exists_of_mem_play {ops : List Op} {st : Call} (h : st ∈ (play hal ops).1) :
    ∃ n op, ops[n]? = some op ∧
      st = ⟨(play hal (ops.take n)).2, op, (play hal (ops.take n)).2.step hal op⟩ := by
  obtain ⟨newer, older, hsplit⟩ := List.append_of_mem h
  have hsuffix : st :: older <:+ (play hal ops).1 := ⟨newer, hsplit.symm⟩
  obtain ⟨n, op, hop, -, hst⟩ := exists_of_suffix_play hsuffix
  exact ⟨n, op, hop, hst⟩

end Hal

/-- A board whose every HAL call succeeds: package 0, channel 0, link down. -/
def sampleHal : Hal where
  readPackageID _ := 0
  readChannelID _ := 0
  isLinkUp _ := false
  passthroughRxPacket _ := true
  txFrame _ _ := true
  getPhy _ := 0
  readRegister _ _ _ := 0
  miiReset _ _ := true

/-- A buffer that holds these bytes, then zeros. -/
def buffer (bytes : List UInt8) : Nat → UInt8 := fun i => bytes.getD i 0

/-- A request of this packet type to a channel ID, with its payload. -/
def request (channelID opcode : UInt8) (payload : List UInt8) : Nat → UInt8 :=
  buffer (List.replicate 12 0xFF ++ [etherTypeNcsiHi, etherTypeNcsiLo, 0, 1, 0] ++
    [1, opcode, channelID, 0, payload.length.toUInt8] ++ List.replicate 8 0 ++ payload)

/-- A channel that has left its Initial State. -/
def readyOps : List Op := [.init, .rxFrame (request 0 ControlPacketType.clearInitialState [])]

/-- The machine of such a channel. -/
def readyMachine : Machine := (play sampleHal readyOps).2

theorem fwRun_readyMachine : FwRun sampleHal (play sampleHal readyOps).1 readyMachine :=
  fwRun_play sampleHal readyOps

/-- A run that configures 02:00:00:00:00:01 in slot 0 and enables Channel Network TX. -/
def forwardingOps : List Op := [
  .init,
  .rxFrame (request 0 ControlPacketType.clearInitialState []),
  .rxFrame (request 0 ControlPacketType.setMACAddress [2, 0, 0, 0, 0, 1, 1, 0x80]),
  .rxFrame (request 0 ControlPacketType.enableChannelNetworkTX [])]

/-- A BMC frame from that address. -/
def bmcFrame : Nat → UInt8 := buffer [9, 9, 9, 9, 9, 9, 2, 0, 0, 0, 0, 1, 0x08, 0x00]

end NcsiResponder
