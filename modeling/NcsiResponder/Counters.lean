import NcsiResponder.Reset

/-!
# What the statistics counters count

The counters are moved at five places of the engine and zeroed at two. Read off the
history they are the responses, the dispatched commands and the pass-through frames
since they were last zeroed, and the packets that were dropped (`counters_account`).
-/

namespace NcsiResponder

open Runs.Run (since countSince)

/-! ## What is counted -/

/-- The call zeroes the counters: a reset, or `NCSI_reload`. -/
def zeroesCounters (st : Call) : Bool :=
  match st.op.action with
  | .reload _ => true
  | _ => isReset st

/-- The responses of a call for which `Network_TxFrame` returned true. -/
def responses (st : Call) : ℕ :=
  match st.op.action with
  | .control _ => transmitted st
  | _ => 0

/-- The pass-through frames of a call for which `Network_TxFrame` returned true. -/
def forwardings (st : Call) : ℕ :=
  match st.op.action with
  | .forward _ _ => transmitted st
  | _ => 0

/-- The call delivers a frame that is handed to a handler: it names this instance, its
    opcode has a handler and its payload the length of the table, and the handler is open
    to it, as a package command at 0x1F, as Clear Initial State, or as a command for the
    local channel once that is ready. -/
def dispatched (st : Call) : Bool :=
  match st.op.action with
  | .control mem =>
    let e := st.before.engine
    e.addressed mem &&
      match lookup (Request.opcode mem) with
      | none => false
      | some (c, len) =>
        len == (Request.payloadLength mem).toNat &&
          ((c.packageCommand && Request.channel mem == channelIdPackage) || c.ignoreInit ||
            (Request.channel mem == e.gLocalChannelId && e.state.ready))
  | _ => false

/-- The call polls an enabled channel, and `Network_PassthroughRxPacket` returns false. -/
def failedPoll (st : Call) : Bool :=
  match st.op.action with
  | .handlePassthrough => st.before.engine.state.enabled && drops st
  | _ => false

/-- The counters, as the history has them. -/
structure Accounted (hist : List Call) (s : ChannelState) : Prop where
  /-- a Reset Channel zeroes the counters before its own response -/
  statNcsiTx : s.statNcsiTx = UInt32.ofNat (countSince zeroesCounters responses responses hist)
  statNcsiRx : s.statNcsiRx = UInt32.ofNat ((since zeroesCounters hist).countP dispatched)
  statNetTx :
    s.statNetTx = UInt32.ofNat (((since zeroesCounters hist).map forwardings).sum)
  statNetDropped : s.statNetDropped = UInt32.ofNat (hist.countP failedPoll)

/-- The action zeroes the counters. -/
def Machine.zeroes (m : Machine) : Action → Bool
  | .control mem => m.engine.runs mem == some .resetChannel
  | .init | .reload _ => true
  | _ => false

section Hal

variable {hal : Hal} {m : Machine} {mem : Nat → UInt8}

/-! ## What one call adds -/

theorem zeroesCounters_eq (hlaid : m.engine.Laid) (op : Op) :
    zeroesCounters ⟨m, op, m.step hal op⟩ =
      m.zeroes op.action := by
  unfold zeroesCounters
  rw [isReset_eq hal hlaid]
  cases op.action <;> rfl

/-- A frame is dispatched when the engine runs a command for it. -/
theorem dispatched_eq (op : Op) :
    dispatched ⟨m, op, m.step hal op⟩ = (m.ran op.action).isSome := by
  unfold dispatched
  cases op.action with
  | control mem =>
    rw [Bool.eq_iff_iff, Option.isSome_iff_exists, Machine.ran]
    simp only [Engine.runs_eq_some, verdict_eq_run, Bool.and_eq_true]
    cases lookup (Request.opcode mem) with
    | none => simp
    | some entry =>
      obtain ⟨c, len⟩ := entry
      simp only [Option.some.injEq, Prod.mk.injEq, Bool.and_eq_true, Bool.or_eq_true, beq_iff_eq,
        or_assoc]
      constructor
      · intro h
        rcases h with ⟨haddressed, hlen, hopen⟩
        exact ⟨c, haddressed, ⟨rfl, hlen⟩, hopen⟩
      · rintro ⟨_, haddressed, ⟨rfl, hlen⟩, hopen⟩
        exact ⟨haddressed, hlen, hopen⟩
  | _ => rfl

/-- An addressed frame is answered once. -/
theorem transmitted_control {op : Op} (haction : op.action = .control mem) :
    transmitted ⟨m, op, m.step hal op⟩ =
      if m.engine.addressed mem then
        (hal.txFrame (m.worked hal mem).calls (m.answerBytes hal mem)).toNat
      else 0 := by
  unfold transmitted
  rw [callsMade_step, haction, Machine.newCalls]
  split
  · rw [List.countP_cons, List.countP_eq_zero.mpr]
    · cases hal.txFrame (m.worked hal mem).calls (m.answerBytes hal mem) <;> rfl
    · intro call hcall
      have hdevice := Verdict.newCalls_isDevice _ call hcall
      cases call with
      | txFrame frame sent => cases hdevice
      | _ => exact Bool.false_ne_true
  · rfl

theorem transmitted_forward {op : Op} {src : RxPtr} {frame : List UInt8}
    (haction : op.action = .forward src frame) :
    transmitted ⟨m, op, m.step hal op⟩ =
      (m.engine.state.forwards src && hal.txFrame m.calls frame).toNat := by
  unfold transmitted
  rw [callsMade_step, haction, Machine.newCalls]
  cases m.engine.state.forwards src with
  | false => rfl
  | true => cases hal.txFrame m.calls frame <;> rfl

/-! ## The counters, call by call -/

/-- A frame zeroes the counters when the dispatcher decides for Reset Channel. -/
theorem zeroes_control (haddressed : m.engine.addressed mem = true) :
    m.zeroes (.control mem) = decide (verdict m.engine mem = .run .resetChannel) := by
  rw [Bool.eq_iff_iff, Machine.zeroes, beq_iff_eq, Engine.runs_eq_some, decide_eq_true_iff]
  exact and_iff_right haddressed

theorem worked_statNcsiRx (haddressed : m.engine.addressed mem = true) :
    (m.worked hal mem).engine.state.statNcsiRx =
      if verdict m.engine mem = .run .resetChannel then 0
      else m.engine.state.statNcsiRx + UInt32.ofNat (m.ran (.control mem)).isSome.toNat := by
  unfold Machine.worked
  rw [Machine.ran, Engine.runs, if_pos haddressed]
  cases verdict m.engine mem with
  | run c => cases c <;> rfl
  | _ => exact (UInt32.add_zero _).symm

theorem worked_statNcsiTx :
    (m.worked hal mem).engine.state.statNcsiTx =
      if verdict m.engine mem = .run .resetChannel then 0 else m.engine.state.statNcsiTx := by
  unfold Machine.worked
  cases verdict m.engine mem with
  | run c => cases c <;> rfl
  | _ => rfl

theorem worked_statNetTx :
    (m.worked hal mem).engine.state.statNetTx =
      if verdict m.engine mem = .run .resetChannel then 0 else m.engine.state.statNetTx := by
  unfold Machine.worked
  cases verdict m.engine mem with
  | run c => cases c <;> rfl
  | _ => rfl

theorem ite_add_one_eq (b : Bool) (n : UInt32) :
    (if b = true then n + 1 else n) = n + UInt32.ofNat b.toNat := by
  cases b
  · exact (UInt32.add_zero n).symm
  · rfl

theorem step_statNcsiRx (hlaid : m.engine.Laid) (op : Op) :
    (m.step hal op).engine.state.statNcsiRx =
      if zeroesCounters ⟨m, op, m.step hal op⟩ then UInt32.ofNat 0
      else m.engine.state.statNcsiRx +
        UInt32.ofNat (dispatched ⟨m, op, m.step hal op⟩).toNat := by
  rw [Machine.step_engine, zeroesCounters_eq hlaid, dispatched_eq]
  cases op.action with
  | control mem =>
    unfold Machine.act
    rw [Machine.handle_engine]
    by_cases haddressed : m.engine.addressed mem = true
    · rw [if_pos haddressed, Machine.conclude_state, zeroes_control haddressed]
      simpa using worked_statNcsiRx haddressed
    · simp [haddressed, Machine.zeroes, Machine.ran, Engine.runs]
  | init | reload _ => rfl
  | _ => exact (UInt32.add_zero _).symm

/-- The response is counted on top of what the command has left: a Reset Channel zeroes
    the counter first. -/
theorem step_statNcsiTx (hlaid : m.engine.Laid) (op : Op) :
    (m.step hal op).engine.state.statNcsiTx =
      if zeroesCounters ⟨m, op, m.step hal op⟩ then
        UInt32.ofNat (responses ⟨m, op, m.step hal op⟩)
      else m.engine.state.statNcsiTx + UInt32.ofNat (responses ⟨m, op, m.step hal op⟩) := by
  rw [Machine.step_engine, zeroesCounters_eq hlaid, responses]
  cases haction : op.action with
  | control mem =>
    simp only [transmitted_control haction]
    unfold Machine.act
    rw [Machine.handle_engine]
    by_cases haddressed : m.engine.addressed mem = true
    · simp only [if_pos haddressed, zeroes_control haddressed, Machine.conclude_state,
        worked_statNcsiTx, ite_add_one_eq, decide_eq_true_eq]
      split
      · exact UInt32.zero_add _
      · rfl
    · simp [haddressed, Machine.zeroes, Engine.runs]
  | init | reload _ => rfl
  | _ => exact (UInt32.add_zero _).symm

theorem step_statNetTx (hlaid : m.engine.Laid) (op : Op) :
    (m.step hal op).engine.state.statNetTx =
      if zeroesCounters ⟨m, op, m.step hal op⟩ then UInt32.ofNat 0
      else m.engine.state.statNetTx + UInt32.ofNat (forwardings ⟨m, op, m.step hal op⟩) := by
  rw [Machine.step_engine, zeroesCounters_eq hlaid, forwardings]
  cases haction : op.action with
  | control mem =>
    unfold Machine.act
    rw [Machine.handle_engine]
    by_cases haddressed : m.engine.addressed mem = true
    · simp [haddressed, zeroes_control haddressed, Machine.conclude_state, worked_statNetTx]
    · simp [haddressed, Machine.zeroes, Engine.runs]
  | forward src frame =>
    simp only [transmitted_forward haction]
    exact ite_add_one_eq _ _
  | init | reload _ => rfl
  | _ => exact (UInt32.add_zero _).symm

/-- A packet is dropped by a poll that fails, and by no other call. -/
theorem failedPoll_eq (op : Op) :
    failedPoll ⟨m, op, m.step hal op⟩ = drops ⟨m, op, m.step hal op⟩ := by
  unfold failedPoll
  rw [drops_eq]
  cases op.action with
  | handlePassthrough => cases m.engine.state.enabled <;> rfl
  | _ => rfl

/-! ## The counters, over a run -/

/-- **What the counters count**: in every run, whatever the HAL answers, and modulo
    2 ^ 32, the counters are what the history says, and a call moves the drop counter, by
    one, exactly when it is a poll that fails. -/
theorem counters_account {hist : List Call} (hrun : FwRun hal hist m) :
    Accounted hist m.engine.state ∧
      ∀ st ∈ hist, st.after.engine.state.statNetDropped =
        if failedPoll st then st.before.engine.state.statNetDropped + 1
        else st.before.engine.state.statNetDropped := by
  have hdrops : ∀ st ∈ hist, failedPoll st = drops st := by
    intro st hst
    obtain ⟨older, before, op, -, -, rfl⟩ := hrun.of_mem hst
    exact failedPoll_eq op
  constructor
  · constructor
    · exact hrun.counter_since (fun m => m.engine.state.statNcsiTx) zeroesCounters
        responses responses rfl fun hbefore op => step_statNcsiTx hbefore.laid op
    · have hcounter := hrun.counter_since (fun m => m.engine.state.statNcsiRx) zeroesCounters
        (fun st => (dispatched st).toNat) (fun _ => 0) rfl
        fun hbefore op => step_statNcsiRx hbefore.laid op
      rw [Runs.Run.countSince_eq_sum, Runs.Run.sum_map_toNat] at hcounter
      exact hcounter
    · have hcounter := hrun.counter_since (fun m => m.engine.state.statNetTx) zeroesCounters
        forwardings (fun _ => 0) rfl fun hbefore op => step_statNetTx hbefore.laid op
      rw [Runs.Run.countSince_eq_sum] at hcounter
      exact hcounter
    · rw [statNetDropped_eq hrun]
      exact congrArg UInt32.ofNat (List.countP_congr fun st hst => by rw [hdrops st hst])
  · intro st hst
    rw [hdrops st hst]
    obtain ⟨older, before, op, -, -, rfl⟩ := hrun.of_mem hst
    exact step_statNetDropped op

end Hal

/-- A board that has no packet to move. -/
def emptyHal : Hal := { sampleHal with passthroughRxPacket := fun _ => false }

/-- The configured run, then Enable Channel and a frame from the BMC. -/
def busyOps : List Op := forwardingOps ++
  [.rxFrame (request 0 ControlPacketType.enableChannel []), .onRxFrame bmcFrame 60]

/-- Four commands are counted, with their responses, then the frame, and the packet that the last
    poll drops. -/
theorem counters_account_busy :
    let hist := (play emptyHal (busyOps ++ [.handlePassthrough])).1
    let s := (play emptyHal (busyOps ++ [.handlePassthrough])).2.engine.state
    s.statNcsiRx = 4 ∧ s.statNcsiTx = 4 ∧ s.statNetTx = 1 ∧ s.statNetDropped = 1 ∧
      ∃ st ∈ hist, failedPoll st = true ∧
        st.after.engine.state.statNetDropped = st.before.engine.state.statNetDropped + 1 := by
  obtain ⟨haccounted, hdrops⟩ :=
    counters_account (fwRun_play emptyHal (busyOps ++ [.handlePassthrough]))
  refine ⟨haccounted.statNcsiRx.trans ?_, haccounted.statNcsiTx.trans ?_,
    haccounted.statNetTx.trans ?_, haccounted.statNetDropped.trans ?_, ?_⟩
  · decide +kernel
  · decide +kernel
  · decide +kernel
  · decide +kernel
  · rw [play_snoc] at hdrops ⊢
    have hdrop := hdrops _ List.mem_cons_self
    have hfailed : failedPoll ⟨(play emptyHal busyOps).2, .handlePassthrough,
        (play emptyHal busyOps).2.step emptyHal .handlePassthrough⟩ = true := by decide +kernel
    rw [if_pos hfailed] at hdrop
    exact ⟨_, List.mem_cons_self, hfailed, hdrop⟩

end NcsiResponder
