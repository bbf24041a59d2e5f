import NcsiResponder.System

/-!
# Before a port is registered

Until `NCSI_usePort` is called, `gPackageState.port[0]` is NULL. The transmit and
pass-through paths test for that, and so does the dispatcher before it counts a package
command; `clearInitialStateHandler` and the dispatcher's test of `port->state.ready` do not.
`Engine.needsPort` says which frames get that far. A run without such a frame is `Silent`,
and one with such a frame dereferences NULL (`unregistered_iff`).
-/

namespace NcsiResponder

open BigEndian

/-- No HAL call was made, nor the identity, the registration or the port object changed. -/
structure Silent (m m' : Machine) : Prop where
  calls : m'.calls = m.calls
  port0 : m'.engine.port0 = m.engine.port0
  package : m'.engine.gLocalPackageId = m.engine.gLocalPackageId
  channel : m'.engine.gLocalChannelId = m.engine.gLocalChannelId
  state : m'.engine.state = m.engine.state

theorem Silent.refl (m : Machine) : Silent m m := ⟨rfl, rfl, rfl, rfl, rfl⟩

theorem Silent.trans {m₁ m₂ m₃ : Machine} (h : Silent m₁ m₂) (h' : Silent m₂ m₃) :
    Silent m₁ m₃ where
  calls := h'.calls.trans h.calls
  port0 := h'.port0.trans h.port0
  package := h'.package.trans h.package
  channel := h'.channel.trans h.channel
  state := h'.state.trans h.state

theorem silent_readAll (m : Machine) (is : List Nat) : Silent m (m.readAll is) :=
  ⟨rfl, rfl, rfl, rfl, rfl⟩

theorem silent_select (m : Machine) : Silent m m.select := ⟨rfl, rfl, rfl, rfl, rfl⟩

/-- Code called from `m` returns, and all that is left of it is silent. -/
def ReturnsSilently (m : Machine) (result : Except Fault (Unit × Machine)) : Prop :=
  ∃ m', result = .ok ((), m') ∧ Silent m m'

theorem ReturnsSilently.of_silent {m m' : Machine} {result : Except Fault (Unit × Machine)}
    (hreturns : ReturnsSilently m' result) (hsilent : Silent m m') : ReturnsSilently m result := by
  obtain ⟨m'', hrun, hsilent'⟩ := hreturns
  exact ⟨m'', hrun, hsilent.trans hsilent'⟩

/-- A frame whose handling comes to a dereference of the port without a test for NULL:
    Clear Initial State, or any other command that gets as far as the test of `ready`. -/
def Engine.needsPort (e : Engine) (mem : Nat → UInt8) : Bool :=
  e.addressed mem &&
    match lookup (Request.opcode mem) with
    | none => false
    | some (c, len) =>
      len == (Request.payloadLength mem).toNat &&
        (c.ignoreInit ||
          (!(c.packageCommand && Request.channel mem == channelIdPackage) &&
            Request.channel mem == e.gLocalChannelId))

/-- That depends on the identity only. -/
theorem Silent.needsPort {m m' : Machine} (h : Silent m m') (mem : Nat → UInt8) :
    m'.engine.needsPort mem = m.engine.needsPort mem := by
  simp only [Engine.needsPort, Engine.addressed, h.package, h.channel]

section Hal

variable (hal : Hal) {m : Machine}

/-! ## Transmit path -/

theorem ncsiTxPacket_null (h : m.engine.port0 = .null) (packet : List UInt8) (packetLen : Nat) :
    ncsiTxPacket hal packet packetLen m = .ok ((), m) := by
  simp [ncsiTxPacket, ncsiTxPacketInternal, h]

/-- A frame is filled in and then dropped. -/
theorem sendFrame_null (h : m.engine.port0 = .null) (v : FrameVar) :
    ReturnsSilently m (sendFrame hal v m) := by
  simp only [sendFrame, bind_run, applyChecksumIfEnabled_run, getEngine_run, ok_bind]
  rw [ncsiTxPacket_null hal (by exact h)]
  exact ⟨_, rfl, rfl, rfl, rfl, rfl, rfl⟩

theorem modifyFrame_silent (m : Machine) (v : FrameVar) (f : NetworkFrame → NetworkFrame) :
    ReturnsSilently m (modifyFrame v f m) :=
  ⟨_, modifyEngine_run m _, rfl, rfl, rfl, rfl, rfl⟩

theorem sendNCSIResponse_null (h : m.engine.port0 = .null) (instanceID channelID : UInt8)
    (controlID rc reason : UInt16) :
    ReturnsSilently m (sendNCSIResponse hal instanceID channelID controlID rc reason m) := by
  rw [sendNCSIResponse, bind_run]
  obtain ⟨m', hrun, hsilent⟩ := modifyFrame_silent m .gResponseFrame _
  rw [hrun, ok_bind]
  exact (sendFrame_null hal (hsilent.port0.trans h) _).of_silent hsilent

theorem answer_null (h : m.engine.port0 = .null) (mem : Nat → UInt8) (rc reason : UInt16) :
    ReturnsSilently m (answer hal (.ofFrame mem) rc reason m) := by
  have hread := silent_readAll m (Reply.codes rc reason).reads
  simp only [answer, bind_run, rd_run, ok_bind, Machine.readAll_readAll]
  exact (sendNCSIResponse_null hal (hread.port0.trans h) _ _ _ _ _).of_silent hread

/-! ## Handlers -/

/-- Package commands leave the port alone. -/
theorem packageCommand_null (h : m.engine.port0 = .null) (mem : Nat → UInt8) {c : Command}
    (hc : c.packageCommand = true) : ReturnsSilently m (c.fn hal (.ofFrame mem) m) := by
  cases c with
  | selectPackage =>
    have hselect := silent_select m
    have hrun : (Command.selectPackage.fn hal (.ofFrame mem)) m =
        answerComplete hal (.ofFrame mem) m.select := by
      simp only [Command.fn, selectPackageHandler, bind_run, modifyEngine_run, ok_bind]
      rfl
    rw [hrun]
    exact (answer_null hal (hselect.port0.trans h) mem _ _).of_silent hselect
  | deselectPackage =>
    obtain ⟨m', hrun, hsilent⟩ :=
      answer_null hal h mem ResponseCode.commandComplete ReasonCode.none
    refine ⟨{ m' with engine := { m'.engine with selected := false } }, ?_,
      hsilent.trans ⟨rfl, rfl, rfl, rfl, rfl⟩⟩
    simp only [Command.fn, deselectPackageHandler, answerComplete, bind_run, hrun, ok_bind,
      modifyEngine_run]
  | _ => cases hc

/-- Clear Initial State, the one command with `ignoreInit`, writes through it. -/
theorem ignoreInit_null (h : m.engine.port0 = .null) (mem : Nat → UInt8) {c : Command}
    (hc : c.ignoreInit = true) : c.fn hal (.ofFrame mem) m = .error .nullDeref := by
  cases c with
  | clearInitialState =>
    simp only [Command.fn, clearInitialStateHandler, bind_run, getEngine_run, ok_bind, h]
    rfl
  | _ => cases hc

/-! ## Dispatcher -/

/-- The dispatcher on a command of the table. -/
theorem dispatch_null (h : m.engine.port0 = .null) (mem : Nat → UInt8)
    (haddressed : m.engine.addressed mem = true) {c : Command} {len : Nat}
    (hlookup : lookup (Request.opcode mem) = some (c, len)) :
    let result := dispatch hal (.ofFrame mem) (Request.channel mem) (Request.payloadLength mem)
      (toHandler hal (some (c, len))) (c.fn hal) m
    if m.engine.needsPort mem then result = .error .nullDeref else ReturnsSilently m result := by
  obtain ⟨⟨pkg, chan, flag, frame, sel, port, s⟩, calls, reads⟩ := m
  obtain rfl : port = .null := h
  simp only [Engine.needsPort, haddressed, hlookup, Bool.true_and]
  simp only [dispatch, bind_run, getEngine_run, ok_bind, toHandler, ite_run, ne_eq,
    not_true_eq_false, if_false, modifyEngine_run]
  by_cases hlen : len = (Request.payloadLength mem).toNat
  · rw [if_neg (not_not_intro hlen), beq_iff_eq.mpr hlen, Bool.true_and]
    cases hinit : c.ignoreInit
    · rw [Bool.or_false, Bool.false_or]
      by_cases hpackage : (c.packageCommand && Request.channel mem == channelIdPackage) = true
      · rw [if_pos hpackage, hpackage]
        have hc := (Bool.and_eq_true_iff.mp hpackage).1
        exact (packageCommand_null hal rfl mem hc).of_silent ⟨rfl, rfl, rfl, rfl, rfl⟩
      · rw [if_neg hpackage, Bool.eq_false_of_not_eq_true hpackage]
        by_cases hchannel : Request.channel mem = chan
        · -- the test of `ready`
          rw [if_neg (not_not_intro hchannel), beq_iff_eq.mpr hchannel]
          rfl
        · rw [if_pos hchannel, beq_false_of_ne hchannel]
          exact answer_null hal rfl mem _ _
    · rw [Bool.or_true, if_pos rfl]
      exact ignoreInit_null hal rfl mem hinit
  · -- a wrong payload length is refused before any other check
    rw [if_pos hlen, beq_false_of_ne hlen]
    exact answer_null hal rfl mem _ _

theorem lookupAndDispatch_null (h : m.engine.port0 = .null) (mem : Nat → UInt8)
    (haddressed : m.engine.addressed mem = true) :
    let result := lookupAndDispatch hal mem m
    if m.engine.needsPort mem then result = .error .nullDeref else ReturnsSilently m result := by
  unfold lookupAndDispatch
  cases hlookup : lookup (Request.opcode mem) with
  | none =>
    simp only [Engine.needsPort, hlookup, Bool.and_false, Bool.false_eq_true, if_false]
    exact answer_null hal h mem _ _
  | some entry => exact dispatch_null hal h mem haddressed hlookup

/-- **A received frame**: it is silent, or NULL is dereferenced. -/
theorem handleNCSIFrame_null (h : m.engine.port0 = .null) (mem : Nat → UInt8) :
    let result := handleNCSIFrame hal (.ofFrame mem) m
    if m.engine.needsPort mem then result = .error .nullDeref else ReturnsSilently m result := by
  have hread := silent_readAll m (Machine.headerReads m.engine mem)
  rw [handleNCSIFrame_eq]
  dsimp only
  cases haddressed : m.engine.addressed mem with
  | false =>
    simp only [Engine.needsPort, haddressed, Bool.false_and, Bool.false_eq_true, if_false]
    exact ⟨_, rfl, hread⟩
  | true =>
    rw [if_pos rfl, ← hread.needsPort mem]
    have hdispatch := lookupAndDispatch_null hal (hread.port0.trans h) mem haddressed
    dsimp only at hdispatch
    split
    · next hneeds => rwa [if_pos hneeds] at hdispatch
    · next hneeds =>
      rw [if_neg hneeds] at hdispatch
      exact hdispatch.of_silent hread

/-! ## The other calls -/

theorem ncsiHandlePassthrough_null (h : m.engine.port0 = .null) :
    ncsiHandlePassthrough hal m = .ok ((), m) := by
  simp [ncsiHandlePassthrough, h]

theorem ncsiPassthroughTxFromMc_null (sourceMac frame : RxPtr) (frameLen : Nat) :
    ncsiPassthroughTxFromMc hal .null sourceMac frame frameLen m = .ok (false, m) := by
  simp [ncsiPassthroughTxFromMc]

/-- `ncsi_on_rx_frame` hands `&gPorts[0]` to the pass-through path, which nothing has enabled
    yet: what is left of it is `handleNCSIFrame`. -/
theorem ncsiOnRxFrame_null (htx : m.engine.state.txPassthroughEn = false) (mem : Nat → UInt8)
    (frameLen : Nat) :
    ncsiOnRxFrame hal mem frameLen m =
      if frameLen < sizeofControlPacketHeader then .ok ((), m)
      else
        let read := m.readAll [Header.etherType, Header.etherType + 1]
        if be16 (mem Header.etherType) (mem (Header.etherType + 1)) = etherTypeNcsi then
          handleNCSIFrame hal (.ofFrame mem) read
        else .ok ((), read) := by
  simp only [ncsiOnRxFrame, ite_run, bind_run, rd16_run, ok_bind, pure_run]
  split
  · rfl
  split
  · rfl
  · simp [ncsiPassthroughTxFromMc, htx]

end Hal

/-! ## Runs -/

/-- One call into the engine while no port is registered. -/
inductive UnregisteredOp where
  /-- `handleNCSIFrame` on a received frame -/
  | rxFrame (mem : Nat → UInt8)
  | handlePassthrough
  /-- `ncsi_passthrough_tx_from_mc` on the NULL port -/
  | passthroughTx (sourceMac frame : Nat → UInt8) (frameLen : Nat)
  | setComputeChecksum (enable : Bool)

namespace UnregisteredOp

/-- The engine's code behind a call. -/
def exec (hal : Hal) : UnregisteredOp → Fw Unit
  | rxFrame mem => handleNCSIFrame hal (.ofFrame mem)
  | handlePassthrough => ncsiHandlePassthrough hal
  | passthroughTx sourceMac frame frameLen => do
    let _ ← ncsiPassthroughTxFromMc hal .null (.ofFrame sourceMac) (.ofFrame frame) frameLen
  | setComputeChecksum enable => ncsiSetComputeChecksum enable

def needsPort (e : Engine) : UnregisteredOp → Bool
  | rxFrame mem => e.needsPort mem
  | _ => false

/-- Only a received frame can need the port. -/
theorem needsPort_iff {e : Engine} {op : UnregisteredOp} :
    op.needsPort e = true ↔ ∃ mem, op = .rxFrame mem ∧ e.needsPort mem = true := by
  cases op <;> simp [needsPort]

end UnregisteredOp

theorem Silent.op_needsPort {m m' : Machine} (h : Silent m m') (op : UnregisteredOp) :
    op.needsPort m'.engine = op.needsPort m.engine := by
  cases op with
  | rxFrame mem => exact h.needsPort mem
  | _ => rfl

section Hal

variable (hal : Hal) {m : Machine}

theorem exec_null (h : m.engine.port0 = .null) (op : UnregisteredOp) :
    if op.needsPort m.engine then op.exec hal m = .error .nullDeref
    else ReturnsSilently m (op.exec hal m) := by
  cases op with
  | rxFrame mem => exact handleNCSIFrame_null hal h mem
  | handlePassthrough => exact ⟨m, ncsiHandlePassthrough_null hal h, .refl m⟩
  | passthroughTx sourceMac frame frameLen =>
    refine ⟨m, ?_, .refl m⟩
    simp only [UnregisteredOp.exec, bind_run, ncsiPassthroughTxFromMc_null, ok_bind, pure_run]
  | setComputeChecksum enable =>
    exact ⟨_, ncsiSetComputeChecksum_run enable, rfl, rfl, rfl, rfl, rfl⟩

/-- What a silent call leaves behind does not decide what the next one does. -/
theorem exec_returns (h : m.engine.port0 = .null) (m' : Machine) (op : UnregisteredOp)
    (hsilent : Silent m m') (hop : ¬ op.needsPort m.engine = true) :
    ReturnsSilently m (op.exec hal m') := by
  have hexec := exec_null hal (hsilent.port0.trans h) op
  rw [hsilent.op_needsPort op, if_neg hop] at hexec
  exact hexec.of_silent hsilent

theorem exec_throws (h : m.engine.port0 = .null) (m' : Machine) (op : UnregisteredOp)
    (hsilent : Silent m m') (hop : op.needsPort m.engine = true) :
    op.exec hal m' = .error .nullDeref := by
  have hexec := exec_null hal (hsilent.port0.trans h) op
  rwa [hsilent.op_needsPort op, if_pos hop] at hexec

/-- A run without a frame that needs the port. -/
theorem forM_returns (h : m.engine.port0 = .null) {ops : List UnregisteredOp}
    (hnone : ∀ mem, .rxFrame mem ∈ ops → m.engine.needsPort mem = false) :
    ReturnsSilently m (ops.forM (UnregisteredOp.exec hal) m) := by
  refine Runs.forM_ok (exec_returns hal h) ops (.refl m) fun op hmem hneeds => ?_
  obtain ⟨mem, rfl, htrue⟩ := UnregisteredOp.needsPort_iff.mp hneeds
  rw [hnone mem hmem] at htrue
  cases htrue

/-- A run with one. -/
theorem forM_faults (h : m.engine.port0 = .null) {ops : List UnregisteredOp} {mem : Nat → UInt8}
    (hmem : .rxFrame mem ∈ ops) (hneeds : m.engine.needsPort mem = true) :
    ops.forM (UnregisteredOp.exec hal) m = .error .nullDeref :=
  Runs.forM_throws (exec_returns hal h) (exec_throws hal h) ops (.refl m)
    ⟨.rxFrame mem, hmem, hneeds⟩

/-- **Calls before a port is registered**, in any order and from any contents of the static
    storage: they return with nothing transmitted exactly when no received frame needs the
    port, and otherwise NULL is dereferenced. -/
theorem unregistered_iff (hport : m.engine.port0 = .null) (ops : List UnregisteredOp) :
    (ReturnsSilently m (ops.forM (UnregisteredOp.exec hal) m) ↔
      ∀ mem, .rxFrame mem ∈ ops → m.engine.needsPort mem = false) ∧
    (ops.forM (UnregisteredOp.exec hal) m = .error .nullDeref ↔
      ∃ mem, .rxFrame mem ∈ ops ∧ m.engine.needsPort mem = true) := by
  have hexclusive : ReturnsSilently m (ops.forM (UnregisteredOp.exec hal) m) →
      ops.forM (UnregisteredOp.exec hal) m ≠ .error .nullDeref := by
    rintro ⟨after, hrun, -⟩ hfault
    rw [hfault] at hrun
    cases hrun
  refine ⟨⟨fun hreturns mem hmem => ?_, forM_returns hal hport⟩, ⟨fun hfault => ?_, ?_⟩⟩
  · by_contra hneeds
    exact hexclusive hreturns (forM_faults hal hport hmem (Bool.eq_true_of_not_eq_false hneeds))
  · by_contra hnone
    refine hexclusive (forM_returns hal hport fun mem hmem => ?_) hfault
    exact Bool.eq_false_of_not_eq_true fun hneeds => hnone ⟨mem, hmem, hneeds⟩
  · rintro ⟨mem, hmem, hneeds⟩
    exact forM_faults hal hport hmem hneeds

end Hal

/-- Select Package and a poll, at power-on: both are harmless. -/
theorem unregistered_iff_powerOn :
    ReturnsSilently Machine.powerOn
      ([.rxFrame (request 0x1F ControlPacketType.selectPackage [0, 0, 0, 0]),
        .handlePassthrough].forM (UnregisteredOp.exec sampleHal) Machine.powerOn) := by
  refine (unregistered_iff sampleHal rfl _).1.mpr fun mem hmem => ?_
  obtain rfl : mem = request 0x1F ControlPacketType.selectPackage [0, 0, 0, 0] := by
    simpa using hmem
  decide

/-- Clear Initial State to package 0, channel 0, at power-on. -/
theorem clearInitialState_powerOn :
    handleNCSIFrame sampleHal
      (.ofFrame (request 0 ControlPacketType.clearInitialState [])) Machine.powerOn =
        .error .nullDeref := by
  rfl

-- so does any other channel command to them
example :
    handleNCSIFrame sampleHal
      (.ofFrame (request 0 ControlPacketType.getVersionID [])) Machine.powerOn =
        .error .nullDeref := by
  rfl

end NcsiResponder
