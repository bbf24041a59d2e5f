import NcsiResponder.Lib.BoundedWait
import NcsiResponder.History

/-!
# Transmission by DMA (ncsi_hal_template.c)

`Network_TxFrame` names a buffer in a descriptor, rings a doorbell and waits, for a
bounded time, until the descriptor says that the transfer is done. Meanwhile the
controller reads the buffer on its own. The responses are built in static buffers, so
what keeps a transfer from reading half of one response and half of the next is this
wait. It does so exactly when ringing the doorbell clears the DONE bit of the transfer
before (`faithful_iff_kickClears`), since nothing in the code clears it.

Of the controller it is assumed that nothing but the doorbell clears DONE, that reading the
status has no effect, and that the receive buffer is written only while the processor is idle.
The template leaves all three to the board.
-/

namespace NcsiResponder

open BoundedWait

/-! ## The wait -/

/-- `NCSI_TX_TIMEOUT_LOOPS` -/
def ncsiTxTimeoutLoops : Nat := 100000

/-- `NCSI_TX_STATUS_DONE` -/
def ncsiTxStatusDone : UInt32 := 1

/-- `(desc->status & NCSI_TX_STATUS_DONE) != 0` -/
def txDone (status : UInt32) : Bool := status &&& ncsiTxStatusDone != 0

/-- The wait of `Network_TxFrame`, when the `i`-th read of the status finds `status i`:
    how often it reads the status, and what `Network_TxFrame` returns. -/
def txWait (status : Nat → UInt32) : Nat × Bool :=
  let loop := spin (fun i => txDone (status i)) 0 ncsiTxTimeoutLoops
  (loop.1, loop.2 != 0)

/-! ## The transmitter -/

/-- The buffers that frames are sent from. -/
inductive TxSource where
  | frame (v : FrameVar)
  /-- the buffer a pass-through frame was received in -/
  | received
  deriving DecidableEq

/-- `ncsi_tx_descriptor_t`; an address is the buffer that lies there. -/
structure TxDescriptor where
  bufferAddr : TxSource
  length : Nat
  status : UInt32

/-- A transfer under way, with the bytes it has read so far. -/
structure Transfer where
  source : TxSource
  length : Nat
  fetched : List UInt8

/-- What a controller may do in one way or another. Of every one it is assumed that nothing but
    the doorbell clears DONE, and that a read of the status has no effect. -/
structure TxController where
  /-- whether the doorbell clears DONE -/
  kickClears : Bool
  /-- what a transfer under way becomes when the doorbell is rung for another one -/
  preempt : Transfer → Transfer → Transfer

/-- How far the processor has got with a call. -/
inductive TxCpu where
  | idle
  /-- the frame is in its buffer, and `Network_TxFrame` is called -/
  | built (op : Op)
  /-- in the wait, with this timeout left -/
  | waiting (op : Op) (timeout : Nat)

/-- The firmware and its transmitter. -/
structure TxBoard where
  /-- before the call under way, if there is one -/
  machine : Machine
  received : List UInt8
  cpu : TxCpu
  desc : TxDescriptor
  transfer : Option Transfer
  /-- the frames that went out, newest first -/
  wire : List (List UInt8)

/-- A step of the processor or of the controller. -/
inductive TxOp where
  /-- a call into the engine, up to `Network_TxFrame` if it transmits -/
  | call (op : Op)
  /-- the stores to the descriptor and to the doorbell -/
  | kick
  /-- one evaluation of the loop condition -/
  | poll
  /-- the controller reads the next `count` bytes -/
  | fetch (count : Nat)
  /-- the controller sends what it has read and sets DONE -/
  | complete
  /-- the receiver writes another frame to the receive buffer -/
  | receive (frame : List UInt8)

section Hal

variable (hal : Hal)

/-- The frame an action transmits, with its buffer. -/
def Machine.transmission (m : Machine) : Action → Option (TxSource × List UInt8)
  | .control mem =>
    if m.engine.addressed mem then
      some (.frame (m.answer hal mem).frameVar, m.answerBytes hal mem)
    else none
  | .forward sourceMac frame =>
    if m.engine.state.forwards sourceMac then some (.received, frame) else none
  | _ => none

/-- The last HAL call of the call was `Network_TxFrame` with this reply. -/
def Machine.replied (m : Machine) (op : Op) (reply : Bool) : Bool :=
  match (m.step hal op).calls with
  | .txFrame _ reply' :: _ => reply' == reply
  | _ => false

/-- The machine whose static frames are in memory: during a call the response is built. -/
def TxBoard.building (b : TxBoard) : Machine :=
  match b.cpu with
  | .idle => b.machine
  | .built op | .waiting op _ => b.machine.step hal op

/-- The contents of a buffer. -/
def TxBoard.memory (b : TxBoard) : TxSource → List UInt8
  | .received => b.received
  | .frame v => ((b.building hal).engine.frame v).bytes

/-- The doorbell: the controller starts on the buffer that the descriptor names. -/
def TxBoard.ring (ctl : TxController) (op : Op) (source : TxSource) (frame : List UInt8)
    (b : TxBoard) : TxBoard :=
  let transfer := { source := source, length := frame.length, fetched := [] }
  { b with
    cpu := .waiting op ncsiTxTimeoutLoops
    desc :=
      { bufferAddr := source
        length := frame.length
        status := if ctl.kickClears then b.desc.status &&& ~~~ncsiTxStatusDone else b.desc.status }
    transfer :=
      match b.transfer with
      | none => some transfer
      | some old => some (ctl.preempt old transfer) }

/-- One step, if it can be taken. The wait ends with the reply that the HAL gives; the receiver
    is assumed to write its buffer only while the processor is idle. -/
def TxBoard.next (ctl : TxController) (b : TxBoard) : TxOp → Option TxBoard
  | .call op =>
    match b.cpu with
    | .idle =>
      match b.machine.transmission hal op.action with
      | none => some { b with machine := b.machine.step hal op }
      | some (source, frame) =>
        some { b with
          cpu := .built op
          received := if source = .received then frame else b.received }
    | _ => none
  | .kick =>
    match b.cpu with
    | .built op =>
      (b.machine.transmission hal op.action).map fun (source, frame) => b.ring ctl op source frame
    | _ => none
  | .poll =>
    match b.cpu with
    | .waiting op timeout =>
      match check (txDone b.desc.status) timeout with
      | .again left => some { b with cpu := .waiting op left }
      | .ends left =>
        if b.machine.replied hal op (left != 0) then
          some { b with machine := b.machine.step hal op, cpu := .idle }
        else none
    | _ => none
  | .fetch count =>
    b.transfer.map fun tr =>
      let next := ((b.memory hal tr.source).take tr.length).drop tr.fetched.length
      { b with transfer := some { tr with fetched := tr.fetched ++ next.take count } }
  | .complete =>
    match b.transfer with
    | some tr =>
      if tr.length ≤ tr.fetched.length then
        some { b with
          desc := { b.desc with status := b.desc.status ||| ncsiTxStatusDone }
          transfer := none
          wire := tr.fetched :: b.wire }
      else none
    | none => none
  | .receive frame =>
    match b.cpu with
    | .idle => some { b with received := frame }
    | _ => none

end Hal

/-- The transmitter at rest, with a zeroed registered port. -/
def TxBoard.start : TxBoard where
  machine := .registered
  received := []
  cpu := .idle
  desc := { bufferAddr := .received, length := 0, status := 0 }
  transfer := none
  wire := []

abbrev TxStep := Runs.Step TxBoard TxOp

/-- Any interleaving of the processor's steps with the controller's. -/
abbrev TxRun (hal : Hal) (ctl : TxController) : List TxStep → TxBoard → Prop :=
  Runs.Run (fun b op b' => b.next hal ctl op = some b') .start

/-- The wait gives up. -/
def TimesOut (st : TxStep) : Prop :=
  st.op = .poll ∧ ∃ op timeout, st.before.cpu = .waiting op timeout ∧
    check (txDone st.before.desc.status) timeout = .ends 0

/-- The frames that were handed to `Network_TxFrame`, newest first. -/
def Machine.transmitted (m : Machine) : List (List UInt8) :=
  m.calls.filterMap HalCall.sentFrame

/-! ## What a call transmits -/

section Hal

variable {hal : Hal} {ctl : TxController} {m : Machine} {b b' : TxBoard}

/-- A call hands over its frame and nothing else. -/
theorem transmitted_step (op : Op) :
    (m.step hal op).transmitted =
      ((m.transmission hal op.action).map Prod.snd).toList ++ m.transmitted := by
  rw [Machine.transmitted, Machine.step_calls, List.filterMap_append, ← Machine.transmitted]
  congr 1
  cases op.action with
  | control mem =>
    rw [newCalls_control_sentFrame, Machine.transmission]
    split <;> rfl
  | forward sourceMac frame =>
    rw [Machine.newCalls, Machine.transmission]
    split <;> rfl
  | handlePassthrough =>
    rw [Machine.newCalls]
    split <;> rfl
  | _ => rfl

/-- The buffer of a response holds it from its building on. -/
theorem transmission_held {op : Op} {v : FrameVar} {frame : List UInt8}
    (h : m.transmission hal op.action = some (.frame v, frame)) :
    frame = ((m.step hal op).engine.frame v).bytes.take frame.length := by
  rw [Machine.step_engine]
  cases haction : op.action with
  | control mem =>
    rw [haction, Machine.transmission] at h
    split at h
    · next haddressed =>
      obtain ⟨hv, hframe⟩ := Prod.mk.inj (Option.some.inj h)
      obtain rfl := TxSource.frame.inj hv
      have hbuffer : (m.act hal (.control mem)).engine.frame (m.answer hal mem).frameVar =
          (m.worked hal mem).engine.outFrame mem (m.answer hal mem) := by
        rw [Machine.act, Machine.handle_engine, if_pos haddressed, Machine.conclude_engine]
        exact Function.update_self ..
      -- what is sent is the front of the buffer
      rw [hbuffer, ← hframe, Machine.answerBytes, Engine.outBytes, List.length_take,
        List.take_eq_take_iff]
      omega
    · cases h
  | forward sourceMac frame =>
    rw [haction, Machine.transmission] at h
    split at h
    · cases (Prod.mk.inj (Option.some.inj h)).1
    · cases h
  | _ =>
    rw [haction] at h
    cases h

/-! ## What a step does -/

theorem TxBoard.next_cases {op : TxOp} (hnext : b.next hal ctl op = some b') :
    (∃ call, op = .call call ∧ b.cpu = .idle ∧ b.machine.transmission hal call.action = none ∧
      b' = { b with machine := b.machine.step hal call }) ∨
    (∃ call source frame, op = .call call ∧ b.cpu = .idle ∧
      b.machine.transmission hal call.action = some (source, frame) ∧
      b' = { b with
        cpu := .built call
        received := if source = .received then frame else b.received }) ∨
    (∃ call source frame, op = .kick ∧ b.cpu = .built call ∧
      b.machine.transmission hal call.action = some (source, frame) ∧
      b' = b.ring ctl call source frame) ∨
    (∃ call timeout left, op = .poll ∧ b.cpu = .waiting call timeout ∧
      check (txDone b.desc.status) timeout = .again left ∧
      b' = { b with cpu := .waiting call left }) ∨
    (∃ call timeout left, op = .poll ∧ b.cpu = .waiting call timeout ∧
      check (txDone b.desc.status) timeout = .ends left ∧
      b.machine.replied hal call (left != 0) = true ∧
      b' = { b with machine := b.machine.step hal call, cpu := .idle }) ∨
    (∃ count tr, op = .fetch count ∧ b.transfer = some tr ∧
      b' = { b with transfer := some { tr with
        fetched := tr.fetched ++
          (((b.memory hal tr.source).take tr.length).drop tr.fetched.length).take count } }) ∨
    (∃ tr, op = .complete ∧ b.transfer = some tr ∧ tr.length ≤ tr.fetched.length ∧
      b' = { b with
        desc := { b.desc with status := b.desc.status ||| ncsiTxStatusDone }
        transfer := none
        wire := tr.fetched :: b.wire }) ∨
    (∃ frame, op = .receive frame ∧ b.cpu = .idle ∧ b' = { b with received := frame }) := by
  cases op with
  | call call =>
    simp only [TxBoard.next] at hnext
    split at hnext
    · next hcpu =>
      split at hnext
      · next hsilent =>
        cases hnext
        exact .inl ⟨call, rfl, hcpu, hsilent, rfl⟩
      · next source frame hframe =>
        cases hnext
        exact .inr (.inl ⟨call, source, frame, rfl, hcpu, hframe, rfl⟩)
    · cases hnext
  | kick =>
    simp only [TxBoard.next] at hnext
    split at hnext
    · next call hcpu =>
      obtain ⟨⟨source, frame⟩, hframe, rfl⟩ := Option.map_eq_some_iff.mp hnext
      exact .inr (.inr (.inl ⟨call, source, frame, rfl, hcpu, hframe, rfl⟩))
    · cases hnext
  | poll =>
    simp only [TxBoard.next] at hnext
    split at hnext
    · next call timeout hcpu =>
      split at hnext
      · next left hcheck =>
        cases hnext
        exact .inr (.inr (.inr (.inl ⟨call, timeout, left, rfl, hcpu, hcheck, rfl⟩)))
      · next left hcheck =>
        split at hnext
        · next hreplied =>
          cases hnext
          exact .inr (.inr (.inr (.inr (.inl
            ⟨call, timeout, left, rfl, hcpu, hcheck, hreplied, rfl⟩))))
        · cases hnext
    · cases hnext
  | fetch count =>
    obtain ⟨tr, htransfer, rfl⟩ := Option.map_eq_some_iff.mp hnext
    exact .inr (.inr (.inr (.inr (.inr (.inl ⟨count, tr, rfl, htransfer, rfl⟩)))))
  | complete =>
    simp only [TxBoard.next] at hnext
    split at hnext
    · next tr htransfer =>
      split at hnext
      · next hlength =>
        cases hnext
        exact .inr (.inr (.inr (.inr (.inr (.inr (.inl ⟨tr, rfl, htransfer, hlength, rfl⟩))))))
      · cases hnext
    · cases hnext
  | receive frame =>
    simp only [TxBoard.next] at hnext
    split at hnext
    · next hcpu =>
      cases hnext
      exact .inr (.inr (.inr (.inr (.inr (.inr (.inr ⟨frame, rfl, hcpu, rfl⟩))))))
    · cases hnext

/-! ## Transfers -/

/-- The transfer reads this frame from a buffer that holds it. -/
structure Transfer.Reads (tr : Transfer) (source : TxSource) (frame memory : List UInt8) :
    Prop where
  source : tr.source = source
  length : tr.length = frame.length
  held : memory.take frame.length = frame
  fetched : tr.fetched <+: frame

namespace Transfer.Reads

variable {tr : Transfer} {source : TxSource} {frame memory : List UInt8}

/-- What it reads next are the next bytes of the frame. -/
theorem fetch (h : tr.Reads source frame memory) (count : Nat) :
    { tr with fetched := tr.fetched ++
      ((memory.take tr.length).drop tr.fetched.length).take count }.Reads source frame memory := by
  refine { h with fetched := ?_ }
  obtain ⟨rest, hrest⟩ := h.fetched
  rw [h.length, h.held]
  conv_lhs => rw [← hrest]
  rw [List.drop_left, ← hrest, List.prefix_append_right_inj]
  exact List.take_prefix count rest

/-- A transfer that has read everything has read the frame. -/
theorem fetched_eq (h : tr.Reads source frame memory) (hall : tr.length ≤ tr.fetched.length) :
    tr.fetched = frame :=
  h.fetched.eq_of_length_le (h.length ▸ hall)

end Transfer.Reads

/-- Clearing DONE clears it. -/
theorem txDone_cleared (status : UInt32) : txDone (status &&& ~~~ncsiTxStatusDone) = false := by
  rw [txDone, UInt32.and_assoc, UInt32.not_and_self]
  simp

/-- Setting DONE sets it. -/
theorem txDone_set (status : UInt32) : txDone (status ||| ncsiTxStatusDone) = true := by
  have hbit : (status ||| ncsiTxStatusDone) &&& ncsiTxStatusDone = ncsiTxStatusDone := by
    apply UInt32.eq_of_toBitVec_eq
    ext i hi
    simp only [UInt32.toBitVec_and, UInt32.toBitVec_or, BitVec.getElem_and, BitVec.getElem_or]
    cases ncsiTxStatusDone.toBitVec[i] <;> simp
  rw [txDone, hbit]
  decide

/-- The transmitter as long as no wait has given up: a transfer is only under way during a
    wait, its DONE bit still clear, and reads the frame of the call from a buffer that holds
    it; what is on the wire is what was handed over before, with the frame of the call once
    the transfer is over. -/
def TxBoard.InStep (hal : Hal) (b : TxBoard) : Prop :=
  match b.cpu with
  | .idle => b.transfer = none ∧ b.wire = b.machine.transmitted
  | .built call =>
    b.transfer = none ∧ b.wire = b.machine.transmitted ∧
      ∃ source frame, b.machine.transmission hal call.action = some (source, frame) ∧
        (b.memory hal source).take frame.length = frame
  | .waiting call _ =>
    ∃ source frame, b.machine.transmission hal call.action = some (source, frame) ∧
      match b.transfer with
      | none => b.wire = frame :: b.machine.transmitted
      | some tr =>
        txDone b.desc.status = false ∧ b.wire = b.machine.transmitted ∧
          tr.Reads source frame (b.memory hal source)

/-! ## One step -/

theorem inStep_call {call : Op} {source : TxSource} {frame : List UInt8}
    (hcpu : b.cpu = .idle) (hin : b.InStep hal)
    (hframe : b.machine.transmission hal call.action = some (source, frame)) :
    { b with
      cpu := .built call
      received := if source = .received then frame else b.received : TxBoard }.InStep hal := by
  simp only [TxBoard.InStep, hcpu] at hin
  refine ⟨hin.1, hin.2, source, frame, hframe, ?_⟩
  cases source with
  | received => simp [TxBoard.memory]
  | frame v => exact (transmission_held hframe).symm

theorem inStep_ring {call : Op} {source : TxSource} {frame : List UInt8}
    (hclears : ctl.kickClears = true) (hcpu : b.cpu = .built call) (hin : b.InStep hal)
    (hframe : b.machine.transmission hal call.action = some (source, frame)) :
    (b.ring ctl call source frame).InStep hal := by
  simp only [TxBoard.InStep, hcpu] at hin
  obtain ⟨hnone, hwire, source', frame', hframe', hheld⟩ := hin
  obtain ⟨rfl, rfl⟩ := Prod.mk.inj (Option.some.inj (hframe'.symm.trans hframe))
  refine ⟨source', frame', hframe, ?_⟩
  -- the doorbell leaves the buffers as they are
  have hmemory : (b.ring ctl call source' frame').memory hal source' = b.memory hal source' := by
    cases source' with
    | received => rfl
    | frame v => simp only [TxBoard.memory, TxBoard.building, TxBoard.ring, hcpu]
  simp only [TxBoard.ring, hnone, hclears, if_true]
  exact ⟨txDone_cleared _, hwire, ⟨rfl, rfl, hmemory.symm ▸ hheld, List.nil_prefix⟩⟩

/-- A wait that ends before its timeout has waited for the whole transfer. -/
theorem inStep_ends {call : Op} {timeout left : Nat} (hcpu : b.cpu = .waiting call timeout)
    (hin : b.InStep hal) (hcheck : check (txDone b.desc.status) timeout = .ends left)
    (hleft : left ≠ 0) :
    { b with machine := b.machine.step hal call, cpu := .idle : TxBoard }.InStep hal := by
  simp only [TxBoard.InStep, hcpu] at hin ⊢
  obtain ⟨source, frame, hframe, htransfer⟩ := hin
  cases hb : b.transfer with
  | none =>
    simp only [hb] at htransfer
    rw [htransfer, transmitted_step, hframe]
    exact ⟨rfl, rfl⟩
  | some tr =>
    -- DONE is clear, so only the timeout can have ended the wait
    simp only [hb] at htransfer
    rw [htransfer.1, check, if_neg (by decide)] at hcheck
    split at hcheck
    · cases hcheck
      exact absurd rfl hleft
    · cases hcheck

/-- In step, a transfer is under way only during the wait for it. -/
theorem inStep_transfer {tr : Transfer} (hin : b.InStep hal) (htransfer : b.transfer = some tr) :
    ∃ call timeout source frame, b.cpu = .waiting call timeout ∧
      b.machine.transmission hal call.action = some (source, frame) ∧
      txDone b.desc.status = false ∧ b.wire = b.machine.transmitted ∧
      tr.Reads source frame (b.memory hal source) := by
  cases hcpu : b.cpu with
  | idle =>
    simp only [TxBoard.InStep, hcpu, htransfer] at hin
    cases hin.1
  | built call =>
    simp only [TxBoard.InStep, hcpu, htransfer] at hin
    cases hin.1
  | waiting call timeout =>
    simp only [TxBoard.InStep, hcpu, htransfer] at hin
    obtain ⟨source, frame, hframe, hreads⟩ := hin
    exact ⟨call, timeout, source, frame, rfl, hframe, hreads⟩

/-- With a doorbell that clears DONE, every step but a timeout keeps in step. -/
theorem inStep_next {op : TxOp} (hclears : ctl.kickClears = true) (hin : b.InStep hal)
    (hnext : b.next hal ctl op = some b') (htime : ¬ TimesOut ⟨b, op, b'⟩) : b'.InStep hal := by
  rcases TxBoard.next_cases hnext with
    ⟨call, rfl, hcpu, hsilent, rfl⟩ | ⟨call, source, frame, rfl, hcpu, hframe, rfl⟩ |
    ⟨call, source, frame, rfl, hcpu, hframe, rfl⟩ | ⟨call, timeout, left, rfl, hcpu, hcheck, rfl⟩ |
    ⟨call, timeout, left, rfl, hcpu, hcheck, hreplied, rfl⟩ | ⟨count, tr, rfl, htransfer, rfl⟩ |
    ⟨tr, rfl, htransfer, hall, rfl⟩ | ⟨frame, rfl, hcpu, rfl⟩
  · simp only [TxBoard.InStep, hcpu] at hin ⊢
    rw [transmitted_step, hsilent]
    exact hin
  · exact inStep_call hcpu hin hframe
  · exact inStep_ring hclears hcpu hin hframe
  · -- another evaluation: nothing has changed but the timeout
    obtain ⟨machine, received, cpu, desc, transfer, wire⟩ := b
    obtain rfl : cpu = .waiting call timeout := hcpu
    exact hin
  · refine inStep_ends hcpu hin hcheck fun hzero => htime ⟨rfl, call, timeout, hcpu, ?_⟩
    rw [hcheck, hzero]
  · obtain ⟨call, timeout, source, frame, hcpu, hframe, hdone, hwire, hreads⟩ :=
      inStep_transfer hin htransfer
    obtain rfl := hreads.source
    obtain ⟨machine, received, cpu, desc, transfer, wire⟩ := b
    obtain rfl : cpu = .waiting call timeout := hcpu
    exact ⟨tr.source, frame, hframe, hdone, hwire, hreads.fetch count⟩
  · obtain ⟨call, timeout, source, frame, hcpu, hframe, hdone, hwire, hreads⟩ :=
      inStep_transfer hin htransfer
    simp only [TxBoard.InStep, hcpu]
    exact ⟨source, frame, hframe, by rw [hreads.fetched_eq hall, hwire]⟩
  · simp only [TxBoard.InStep, hcpu] at hin ⊢
    exact hin

/-- In step, no step writes to the buffer that a transfer reads. -/
theorem memory_next {op : TxOp} {tr : Transfer} (hin : b.InStep hal)
    (hnext : b.next hal ctl op = some b') (htransfer : b.transfer = some tr) :
    b'.memory hal tr.source = b.memory hal tr.source := by
  obtain ⟨call, timeout, source, frame, hcpu, -, -, -, -⟩ := inStep_transfer hin htransfer
  obtain ⟨machine, received, cpu, desc, transfer, wire⟩ := b
  obtain rfl : cpu = .waiting call timeout := hcpu
  -- during a wait nothing is built and nothing received
  rcases TxBoard.next_cases hnext with
    ⟨_, rfl, hidle, -, rfl⟩ | ⟨_, _, _, rfl, hidle, -, rfl⟩ | ⟨_, _, _, rfl, hbuilt, -, rfl⟩ |
    ⟨_, _, _, rfl, hwaiting, -, rfl⟩ | ⟨_, _, _, rfl, hwaiting, -, -, rfl⟩ |
    ⟨_, _, rfl, -, rfl⟩ | ⟨_, rfl, -, -, rfl⟩ | ⟨_, rfl, hidle, rfl⟩
  · cases hidle
  · cases hidle
  · cases hbuilt
  · obtain ⟨rfl, -⟩ := TxCpu.waiting.inj hwaiting
    cases tr.source <;> rfl
  · obtain ⟨rfl, -⟩ := TxCpu.waiting.inj hwaiting
    cases tr.source <;> rfl
  · cases tr.source <;> rfl
  · cases tr.source <;> rfl
  · cases hidle

/-! ## Runs -/

/-- An interleaving in which no wait gives up leads here. -/
def TxReached (hal : Hal) (ctl : TxController) (b : TxBoard) : Prop :=
  ∃ hist, TxRun hal ctl hist b ∧ ∀ st ∈ hist, ¬ TimesOut st

theorem TxReached.start : TxReached hal ctl .start :=
  ⟨[], .start, fun _ hst => absurd hst List.not_mem_nil⟩

theorem TxReached.next (h : TxReached hal ctl b) (op : TxOp) (hnext : b.next hal ctl op = some b')
    (htime : ¬ TimesOut ⟨b, op, b'⟩) : TxReached hal ctl b' := by
  obtain ⟨hist, hrun, hquiet⟩ := h
  exact ⟨_, hrun.next hnext, List.forall_mem_cons.mpr ⟨htime, hquiet⟩⟩

theorem TxReached.inStep (h : TxReached hal ctl b) (hclears : ctl.kickClears = true) :
    b.InStep hal := by
  obtain ⟨hist, hrun, hquiet⟩ := h
  have hstart : TxBoard.start.InStep hal := ⟨rfl, rfl⟩
  exact hrun.invariant_along (TxBoard.InStep hal) (fun st => ¬ TimesOut st) hstart
    (fun _ _ _ hin hnext htime => inStep_next hclears hin hnext htime) hquiet

/-- The engine of the board has been through a run of its own. -/
theorem TxRun.fwRun {hist : List TxStep} (hrun : TxRun hal ctl hist b) :
    ∃ calls, FwRun hal calls b.machine := by
  refine hrun.invariant (fun b => ∃ calls, FwRun hal calls b.machine) ⟨[], .start⟩ ?_
  rintro b op b' ⟨calls, hcalls⟩ hnext
  have hstep : ∀ call, ∃ calls, FwRun hal calls (b.machine.step hal call) := fun call =>
    ⟨_, hcalls.next ((takes_iff hal (FwRun.port0 hal hcalls) call).mpr rfl)⟩
  -- a call is over when it transmits nothing, or when its wait ends
  rcases TxBoard.next_cases hnext with
    ⟨call, -, -, -, rfl⟩ | ⟨_, _, _, -, -, -, rfl⟩ | ⟨_, _, _, -, -, -, rfl⟩ |
    ⟨_, _, _, -, -, -, rfl⟩ | ⟨call, _, _, -, -, -, -, rfl⟩ | ⟨_, _, -, -, rfl⟩ |
    ⟨_, -, -, -, rfl⟩ | ⟨_, -, -, rfl⟩
  · exact hstep call
  · exact ⟨calls, hcalls⟩
  · exact ⟨calls, hcalls⟩
  · exact ⟨calls, hcalls⟩
  · exact hstep call
  · exact ⟨calls, hcalls⟩
  · exact ⟨calls, hcalls⟩
  · exact ⟨calls, hcalls⟩

end Hal

/-- Between two calls the wire carries exactly the frames that were handed to
    `Network_TxFrame`, and no step writes to the buffer that a transfer reads. -/
def TxBoard.Faithful (hal : Hal) (ctl : TxController) (b : TxBoard) : Prop :=
  (b.cpu = .idle → b.wire = b.machine.transmitted) ∧
    ∀ op b' tr, b.next hal ctl op = some b' → b.transfer = some tr →
      b'.memory hal tr.source = b.memory hal tr.source

/-! ## A DONE bit left set -/

section Stale

variable {hal : Hal} {ctl : TxController} {b : TxBoard} {call : Op} {source : TxSource}
  {frame : List UInt8}

/-- A call that transmits, up to `Network_TxFrame`. -/
theorem next_call (hcpu : b.cpu = .idle)
    (hframe : b.machine.transmission hal call.action = some (source, frame)) :
    b.next hal ctl (.call call) = some { b with
      cpu := .built call
      received := if source = .received then frame else b.received } := by
  simp only [TxBoard.next, hcpu, hframe]

theorem next_kick (hcpu : b.cpu = .built call)
    (hframe : b.machine.transmission hal call.action = some (source, frame)) :
    b.next hal ctl .kick = some (b.ring ctl call source frame) := by
  simp only [TxBoard.next, hcpu, hframe]
  rfl

/-- Only an evaluation of the loop condition times out. -/
theorem TxReached.next_of_ne_poll {b' : TxBoard} (h : TxReached hal ctl b) (op : TxOp)
    (hnext : b.next hal ctl op = some b') (hop : op ≠ .poll) : TxReached hal ctl b' :=
  h.next op hnext fun htime => hop htime.1

/-- A call builds its frame and rings the doorbell. -/
theorem TxReached.kick (h : TxReached hal ctl b) (hcpu : b.cpu = .idle)
    (hframe : b.machine.transmission hal call.action = some (source, frame)) :
    ∃ received, TxReached hal ctl ({ b with received := received }.ring ctl call source frame) ∧
      (({ b with received := received }.ring ctl call source frame).memory hal source).take
        frame.length = frame := by
  have hbuilt := h.next_of_ne_poll _ (next_call hcpu hframe) (by rintro ⟨⟩)
  refine ⟨_, hbuilt.next_of_ne_poll _ (next_kick rfl hframe) (by rintro ⟨⟩), ?_⟩
  cases source with
  | received => simp [TxBoard.memory, TxBoard.ring]
  | frame v => exact (transmission_held hframe).symm

/-- A wait that finds DONE set ends at once. -/
theorem TxReached.poll (h : TxReached hal ctl b) (hcpu : b.cpu = .waiting call ncsiTxTimeoutLoops)
    (hdone : txDone b.desc.status = true) (hreplied : b.machine.replied hal call true = true) :
    TxReached hal ctl { b with machine := b.machine.step hal call, cpu := .idle } := by
  have hcheck : check (txDone b.desc.status) ncsiTxTimeoutLoops = .ends ncsiTxTimeoutLoops := by
    rw [hdone, check_true]
  refine h.next .poll ?_ ?_
  · simp only [TxBoard.next, hcpu, hcheck]
    exact if_pos hreplied
  · rintro ⟨-, call', timeout, hwaiting, hends⟩
    obtain ⟨-, rfl⟩ := TxCpu.waiting.inj (hcpu.symm.trans hwaiting)
    cases hcheck.symm.trans hends

/-- A call that is played to its end: its frame goes out, and DONE stays set. -/
theorem TxReached.transmit (call : Op) (h : TxReached hal ctl b) (hcpu : b.cpu = .idle)
    (hnone : b.transfer = none)
    (htransmits : (b.machine.transmission hal call.action).isSome = true)
    (hreplied : b.machine.replied hal call true = true) :
    ∃ b', TxReached hal ctl b' ∧ b'.cpu = .idle ∧ txDone b'.desc.status = true ∧
      b'.machine = b.machine.step hal call ∧ b'.wire.length = b.wire.length + 1 := by
  obtain ⟨⟨source, frame⟩, hframe⟩ := Option.isSome_iff_exists.mp htransmits
  obtain ⟨received, hrung, hheld⟩ := h.kick hcpu hframe
  obtain ⟨machine, received', cpu, desc, transfer, wire⟩ := b
  obtain rfl : transfer = none := hnone
  -- one burst reads the whole frame
  have hfetched := hrung.next_of_ne_poll (.fetch frame.length) rfl (by rintro ⟨⟩)
  dsimp only [TxBoard.ring] at hfetched hheld
  rw [List.length_nil, List.drop_zero, List.nil_append, hheld, List.take_length] at hfetched
  have hcompleted := hfetched.next_of_ne_poll .complete (if_pos (Nat.le_refl _)) (by rintro ⟨⟩)
  exact ⟨_, hcompleted.poll rfl (txDone_set _) hreplied, rfl, txDone_set _, rfl, rfl⟩

/-- With DONE still set the wait for the next call ends at once, and nothing goes out. -/
theorem TxReached.stale (call : Op) (h : TxReached hal ctl b) (hkeeps : ctl.kickClears = false)
    (hcpu : b.cpu = .idle) (hdone : txDone b.desc.status = true)
    (htransmits : (b.machine.transmission hal call.action).isSome = true)
    (hreplied : b.machine.replied hal call true = true) :
    ∃ b', TxReached hal ctl b' ∧ b'.cpu = .idle ∧ b'.machine = b.machine.step hal call ∧
      b'.wire = b.wire := by
  obtain ⟨⟨source, frame⟩, hframe⟩ := Option.isSome_iff_exists.mp htransmits
  obtain ⟨received, hrung, -⟩ := h.kick hcpu hframe
  have hstatus : txDone
      ({ b with received := received }.ring ctl call source frame).desc.status = true := by
    simpa [TxBoard.ring, hkeeps] using hdone
  exact ⟨_, hrung.poll rfl hstatus hreplied, rfl, rfl, rfl⟩

end Stale

/-- **What keeps the static buffers intact**: in every interleaving in which no wait gives
    up the wire carries what was handed over, and no buffer is written while it is read,
    exactly when the doorbell clears DONE. -/
theorem faithful_iff_kickClears (ctl : TxController) :
    (∀ hal b, TxReached hal ctl b → b.Faithful hal ctl) ↔ ctl.kickClears = true := by
  constructor
  · intro hfaithful
    by_contra hkeeps
    rw [Bool.not_eq_true] at hkeeps
    -- two responses: the second wait finds the DONE bit of the first one
    let call : Op := .rxFrame (request 0 ControlPacketType.clearInitialState [])
    have hstart : TxReached sampleHal ctl .start := .start
    obtain ⟨b₁, hreached₁, hidle₁, hdone₁, hmachine₁, hwire₁⟩ :=
      hstart.transmit call rfl rfl (by decide +kernel) (by decide +kernel)
    obtain ⟨b₂, hreached₂, hidle₂, hmachine₂, hwire₂⟩ := hreached₁.stale call hkeeps hidle₁ hdone₁
      (by rw [hmachine₁]; decide +kernel) (by rw [hmachine₁]; decide +kernel)
    have hsent := congrArg List.length ((hfaithful _ _ hreached₂).1 hidle₂)
    rw [hwire₂, hwire₁, hmachine₂, hmachine₁] at hsent
    revert hsent
    decide +kernel
  · intro hclears hal b hreached
    have hin := hreached.inStep hclears
    refine ⟨fun hidle => ?_, fun op b' tr hnext htransfer => memory_next hin hnext htransfer⟩
    simp only [TxBoard.InStep, hidle] at hin
    exact hin.2

/-! ## After a timeout -/

section Splice

variable {hal : Hal} {ctl : TxController} {b b' b₀ : TxBoard} {call : Op} {v : FrameVar}
  {frame : List UInt8}

/-- Evaluations that find DONE clear count the timeout down. -/
theorem polls_again (n : Nat) (hcpu : b.cpu = .waiting call (n + 1))
    (hclear : txDone b.desc.status = false) :
    (List.replicate n TxOp.poll).foldlM (TxBoard.next hal ctl) b =
      some { b with cpu := .waiting call 1 } := by
  induction n generalizing b with
  | zero =>
    obtain ⟨machine, received, cpu, desc, transfer, wire⟩ := b
    obtain rfl : cpu = .waiting call 1 := hcpu
    rfl
  | succ n ih =>
    rw [List.replicate_succ, List.foldlM_cons, TxBoard.next, hcpu]
    simp only [hclear, check_again (Nat.succ_lt_succ (Nat.succ_pos n))]
    exact ih rfl hclear

/-- The last one gives up. -/
theorem next_giveUp (hcpu : b.cpu = .waiting call 1) (hclear : txDone b.desc.status = false)
    (hreplied : b.machine.replied hal call false = true) :
    b.next hal ctl .poll = some { b with machine := b.machine.step hal call, cpu := .idle } ∧
      ∀ b', TimesOut ⟨b, .poll, b'⟩ := by
  have hcheck : check (txDone b.desc.status) 1 = .ends 0 := by rw [hclear, check_last]
  refine ⟨?_, fun b' => ⟨rfl, call, 1, hcpu, hcheck⟩⟩
  simp only [TxBoard.next, hcpu, hcheck]
  exact if_pos hreplied

/-- A burst reads the next bytes of what the buffer holds. -/
theorem next_fetch {tr : Transfer} (htransfer : b.transfer = some tr)
    (hheld : (b.memory hal tr.source).take tr.length = frame) (count : Nat) :
    b.next hal ctl (.fetch count) = some { b with transfer := some { tr with
      fetched := tr.fetched ++ (frame.drop tr.fetched.length).take count } } := by
  rw [TxBoard.next, htransfer, Option.map_some, hheld]

/-- Some steps lead from the one to the other. -/
def TxBoard.LeadsTo (hal : Hal) (ctl : TxController) (b b' : TxBoard) : Prop :=
  ∃ ops : List TxOp, ops.foldlM (TxBoard.next hal ctl) b = some b'

theorem TxBoard.LeadsTo.trans {b'' : TxBoard} (h : b.LeadsTo hal ctl b')
    (h' : b'.LeadsTo hal ctl b'') : b.LeadsTo hal ctl b'' := by
  obtain ⟨ops, hops⟩ := h
  obtain ⟨ops', hops'⟩ := h'
  refine ⟨ops ++ ops', ?_⟩
  rw [List.foldlM_append, hops]
  exact hops'

theorem TxBoard.LeadsTo.next (h : b₀.LeadsTo hal ctl b) (op : TxOp)
    (hnext : b.next hal ctl op = some b') : b₀.LeadsTo hal ctl b' :=
  h.trans ⟨[op], by rw [List.foldlM_cons, hnext]; rfl⟩

/-- A wait can give up when any front of the frame has been read. -/
theorem leadsTo_giveUp (hcpu : b.cpu = .idle) (hnone : b.transfer = none)
    (hclear : ctl.kickClears = true ∨ txDone b.desc.status = false)
    (hframe : b.machine.transmission hal call.action = some (.frame v, frame))
    (hreplied : b.machine.replied hal call false = true) (k : Nat) :
    ∃ last b', b.LeadsTo hal ctl last ∧ last.cpu = .waiting call 1 ∧
      last.next hal ctl .poll = some b' ∧ TimesOut ⟨last, .poll, b'⟩ ∧ b'.cpu = .idle ∧
      b'.machine = b.machine.step hal call ∧
      b'.transfer = some ⟨.frame v, frame.length, frame.take k⟩ ∧ b'.wire = b.wire := by
  let rung := { b with cpu := .built call }.ring ctl call (.frame v) frame
  let stopped := { rung with transfer := some ⟨.frame v, frame.length, frame.take k⟩ }
  have hrung : b.LeadsTo hal ctl rung :=
    (TxBoard.LeadsTo.next ⟨[], rfl⟩ _ (next_call hcpu hframe)).next _ (next_kick rfl hframe)
  have htransfer : rung.transfer = some ⟨.frame v, frame.length, []⟩ := by
    simp only [rung, TxBoard.ring, hnone]
  have hstopped : b.LeadsTo hal ctl stopped :=
    hrung.next _ (next_fetch htransfer (transmission_held hframe).symm k)
  have hstatus : txDone stopped.desc.status = false := by
    cases hclears : ctl.kickClears with
    | true => simpa [stopped, rung, TxBoard.ring, hclears] using txDone_cleared b.desc.status
    | false => simpa [stopped, rung, TxBoard.ring, hclears] using hclear
  -- from here on the controller does nothing, and the timeout runs down
  let last : TxBoard := { stopped with cpu := .waiting call 1 }
  have hpolls : (List.replicate (ncsiTxTimeoutLoops - 1) TxOp.poll).foldlM
      (TxBoard.next hal ctl) stopped = some last := polls_again _ rfl hstatus
  have hgives : last.next hal ctl .poll =
      some { last with machine := b.machine.step hal call, cpu := .idle } ∧
        ∀ b', TimesOut ⟨last, .poll, b'⟩ := next_giveUp rfl hstatus hreplied
  exact ⟨last, _, hstopped.trans ⟨_, hpolls⟩, rfl, hgives.1, hgives.2 _, rfl, rfl, rfl, rfl⟩

/-- A transfer that is still under way when the next response is built in its buffer goes
    on with that one. -/
theorem leadsTo_overwrite {length : Nat} {front : List UInt8} (hcpu : b.cpu = .idle)
    (htransfer : b.transfer = some ⟨.frame v, length, front⟩)
    (hframe : b.machine.transmission hal call.action = some (.frame v, frame))
    (hlength : frame.length = length) :
    ∃ b', b.LeadsTo hal ctl b' ∧ b'.cpu = .built call ∧
      b'.wire = (front ++ frame.drop front.length) :: b.wire := by
  subst hlength
  let built := { b with cpu := .built call }
  have hbuilt : b.LeadsTo hal ctl built := TxBoard.LeadsTo.next ⟨[], rfl⟩ _ (next_call hcpu hframe)
  have htransfer' : built.transfer = some ⟨.frame v, frame.length, front⟩ := htransfer
  have hrest := hbuilt.next _
    (next_fetch htransfer' (transmission_held hframe).symm (frame.length - front.length))
  rw [List.take_of_length_le (Nat.le_of_eq List.length_drop)] at hrest
  have hall : frame.length ≤ (front ++ frame.drop front.length).length := by
    rw [List.length_append, List.length_drop]
    omega
  exact ⟨_, hrest.next .complete (if_pos hall), rfl, rfl⟩

variable {call₁ call₂ : Op} {frame₁ frame₂ : List UInt8}

/-- **After a timeout**: whatever the controller, a transfer that a wait has given up on
    goes on reading while the next response is built in the same buffer, so that any front
    of the first frame can go out with the rest of the second. -/
theorem exists_splice {hist : List TxStep} (hrun : TxRun hal ctl hist b) (hcpu : b.cpu = .idle)
    (hnone : b.transfer = none) (hclear : ctl.kickClears = true ∨ txDone b.desc.status = false)
    (h₁ : b.machine.transmission hal call₁.action = some (.frame v, frame₁))
    (hreplied : b.machine.replied hal call₁ false = true)
    (h₂ : (b.machine.step hal call₁).transmission hal call₂.action = some (.frame v, frame₂))
    (hlength : frame₂.length = frame₁.length) (k : Nat) (hk : k ≤ frame₁.length) :
    ∃ newer b', TxRun hal ctl (newer ++ hist) b' ∧
      (∃ st ∈ newer, TimesOut st ∧ st.before.cpu = .waiting call₁ 1) ∧
      b'.cpu = .built call₂ ∧ b'.wire = (frame₁.take k ++ frame₂.drop k) :: b.wire := by
  obtain ⟨last, b₁, ⟨ops, hops⟩, hwaiting, hlast, htime, hidle, hmachine, htransfer, hwire⟩ :=
    leadsTo_giveUp hcpu hnone hclear h₁ hreplied k
  rw [← hmachine] at h₂
  obtain ⟨b₂, ⟨ops', hops'⟩, hbuilt, hwire₂⟩ := leadsTo_overwrite hidle htransfer h₂ hlength
  -- the run up to the timeout, the timeout, and what comes after it
  obtain ⟨before, hbefore⟩ := Runs.Run.exists_of_foldlM (fun _ _ _ h => h) ops hrun hops
  obtain ⟨after, hafter⟩ :=
    Runs.Run.exists_of_foldlM (fun _ _ _ h => h) ops' (hbefore.next hlast) hops'
  refine ⟨after ++ ⟨last, .poll, b₁⟩ :: before, b₂, ?_, ?_, hbuilt, ?_⟩
  · rwa [List.append_assoc]
  · exact ⟨_, List.mem_append_right _ List.mem_cons_self, htime, hwaiting⟩
  · rw [hwire₂, hwire, List.length_take_of_le hk]

end Splice

/-- A board whose transfers take longer than the wait. -/
def slowHal : Hal := { sampleHal with txFrame := fun _ _ => false }

/-- The machine that has answered Clear Initial State, on the slow board. -/
def slowMachine : Machine :=
  Machine.registered.step slowHal (.rxFrame (request 0 ControlPacketType.clearInitialState []))

/-- The front of the answer to Clear Initial State goes out with the codes of the answer to
    an unknown command. -/
theorem exists_splice_unsupported :
    ∃ hist b, TxRun slowHal ⟨true, fun _ new => new⟩ hist b ∧ (∃ st ∈ hist, TimesOut st) ∧
      b.wire = [(Machine.registered.answerBytes slowHal
          (request 0 ControlPacketType.clearInitialState [])).take 20 ++
        (slowMachine.answerBytes slowHal (request 0 0x50 [])).drop 20] := by
  -- both answers are built in the frame of `sendNCSIResponse`
  have htransmits : ∀ (m : Machine) mem, m.engine.addressed mem = true →
      (m.answer slowHal mem).frameVar = .gResponseFrame →
      m.transmission slowHal (.control mem) =
          some (.frame .gResponseFrame, m.answerBytes slowHal mem) ∧
        (m.answerBytes slowHal mem).length = 60 := by
    intro m mem haddressed hv
    rw [Machine.transmission, if_pos haddressed, Machine.answerBytes, Engine.outBytes,
      List.length_take, NetworkFrame.size_eq, hv]
    exact ⟨rfl, rfl⟩
  obtain ⟨h₁, hlength₁⟩ := htransmits Machine.registered
    (request 0 ControlPacketType.clearInitialState []) (by decide +kernel) (by decide +kernel)
  obtain ⟨h₂, hlength₂⟩ := htransmits slowMachine (request 0 0x50 []) (by decide +kernel)
    (by decide +kernel)
  let op₁ : Op := .rxFrame (request 0 ControlPacketType.clearInitialState [])
  let op₂ : Op := .rxFrame (request 0 0x50 [])
  have hop₁ : TxBoard.start.machine.transmission slowHal op₁.action = _ := h₁
  have hop₂ : (TxBoard.start.machine.step slowHal op₁).transmission slowHal op₂.action = _ := h₂
  have hreplied : TxBoard.start.machine.replied slowHal op₁ false = true := by decide +kernel
  have hclears : (⟨true, fun _ new => new⟩ : TxController).kickClears = true := rfl
  obtain ⟨newer, b, hrun, ⟨st, hst, htime, -⟩, -, hwire⟩ :=
    exists_splice .start rfl rfl (.inl hclears) hop₁ hreplied hop₂
      (hlength₂.trans hlength₁.symm) 20 (by rw [hlength₁]; decide)
  exact ⟨newer ++ [], b, hrun, ⟨st, List.mem_append_left _ hst, htime⟩, hwire⟩

/-! ## The wait itself -/

/-- **The wait is bounded**: whatever the status reads come to, `Network_TxFrame` reads the
    status at most `NCSI_TX_TIMEOUT_LOOPS` times, and returns true exactly when one of these
    reads finds DONE set: then the first one that does is the last. -/
theorem txWait_spec (status : Nat → UInt32) :
    (txWait status).1 ≤ ncsiTxTimeoutLoops ∧
      ((txWait status).2 = true ↔ ∃ k < ncsiTxTimeoutLoops, txDone (status k) = true) ∧
      (∀ k < ncsiTxTimeoutLoops, txDone (status k) = true →
        (∀ j < k, txDone (status j) = false) → (txWait status).1 = k + 1) ∧
      ((∀ k < ncsiTxTimeoutLoops, txDone (status k) = false) →
        (txWait status).1 = ncsiTxTimeoutLoops) := by
  have hfst : (txWait status).1 = (spin (fun i => txDone (status i)) 0 ncsiTxTimeoutLoops).1 := rfl
  have hsnd : (txWait status).2 =
      ((spin (fun i => txDone (status i)) 0 ncsiTxTimeoutLoops).2 != 0) := rfl
  rw [hfst, hsnd]
  generalize ncsiTxTimeoutLoops = budget
  refine ⟨?_, ?_, fun k hk hdone hbefore => ?_, fun hnever => ?_⟩
  · simpa only [Nat.zero_add] using spin_asked_le (fun i => txDone (status i)) budget 0
  · simp only [bne_iff_ne, spin_left_pos_iff, Nat.zero_le, true_and, Nat.zero_add]
  · rw [spin_of_first _ hdone (Nat.zero_le k) (by rwa [Nat.zero_add]) fun j _ hj => hbefore j hj]
  · rw [spin_of_never _ fun j _ hj => hnever j (by rwa [Nat.zero_add] at hj), Nat.zero_add]

section Wait

/-- What a step finds when it reads the status. -/
def TxBoard.statusRead (b : TxBoard) : TxOp → List UInt32
  | .poll => [b.desc.status]
  | _ => []

/-- What the reads of the status find, from a board on. -/
def TxBoard.statusReads (hal : Hal) (ctl : TxController) (b : TxBoard) : List TxOp → List UInt32
  | [] => []
  | op :: ops =>
    b.statusRead op ++
      match b.next hal ctl op with
      | some b' => b'.statusReads hal ctl ops
      | none => []

variable {hal : Hal} {ctl : TxController} {b b₁ b' : TxBoard} {call : Op} {status : Nat → UInt32}

/-- After a call, only another call gets the processor going. -/
theorem idle_next {op : TxOp} (hidle : b.cpu = .idle) (hop : ∀ call, op ≠ .call call)
    (hnext : b.next hal ctl op = some b') : b'.cpu = .idle := by
  rcases TxBoard.next_cases hnext with
    ⟨call, rfl, -⟩ | ⟨call, _, _, rfl, -⟩ | ⟨_, _, _, -, hcpu, -⟩ | ⟨_, _, _, -, hcpu, -⟩ |
    ⟨_, _, _, -, hcpu, -⟩ | ⟨_, _, -, -, rfl⟩ | ⟨_, -, -, -, rfl⟩ | ⟨_, -, -, rfl⟩
  · exact absurd rfl (hop call)
  · exact absurd rfl (hop call)
  · cases hidle.symm.trans hcpu
  · cases hidle.symm.trans hcpu
  · cases hidle.symm.trans hcpu
  · exact hidle
  · exact hidle
  · exact hidle

theorem idle_foldlM {ops : List TxOp} (hops : ∀ op ∈ ops, ∀ call, op ≠ .call call) :
    ∀ {b : TxBoard}, b.cpu = .idle → ops.foldlM (TxBoard.next hal ctl) b = some b₁ →
      b₁.cpu = .idle := by
  induction ops with
  | nil =>
    rintro b hidle ⟨⟩
    exact hidle
  | cons op ops ih =>
    intro b hidle hplay
    rw [List.forall_mem_cons] at hops
    obtain ⟨b₂, hnext, hplay⟩ := Option.bind_eq_some_iff.mp hplay
    exact ih hops.2 (idle_next hidle hops.1 hnext) hplay

/-- An evaluation of the loop condition, on the board and in the loop. -/
theorem poll_spin {timeout k : Nat} (hcpu : b.cpu = .waiting call timeout) (hpos : 0 < timeout)
    (hstatus : status k = b.desc.status) (hnext : b.next hal ctl .poll = some b') :
    (∃ left, 0 < left ∧ b' = { b with cpu := .waiting call left } ∧
      spin (fun i => txDone (status i)) k timeout = spin (fun i => txDone (status i)) (k + 1) left) ∨
    (∃ left, b' = { b with machine := b.machine.step hal call, cpu := .idle } ∧
      b.machine.replied hal call (left != 0) = true ∧
      spin (fun i => txDone (status i)) k timeout = (k + 1, left)) := by
  have hspin := spin_eq_check (fun i => txDone (status i)) k hpos
  rw [hstatus] at hspin
  cases hcheck : check (txDone b.desc.status) timeout with
  | again left =>
    simp only [TxBoard.next, hcpu, hcheck] at hnext
    rw [hcheck] at hspin
    exact .inl ⟨left, check_again_pos hcheck, (Option.some.inj hnext).symm, hspin⟩
  | ends left =>
    simp only [TxBoard.next, hcpu, hcheck] at hnext
    rw [hcheck] at hspin
    split at hnext
    · next hreplied => exact .inr ⟨left, (Option.some.inj hnext).symm, hreplied, hspin⟩
    · cases hnext

/-- While a call waits, only the reads of the status get the processor on. -/
theorem waiting_next {timeout : Nat} {op : TxOp} (hcpu : b.cpu = .waiting call timeout)
    (hop : op ≠ .poll) (hnext : b.next hal ctl op = some b') :
    b'.cpu = b.cpu ∧ b'.machine = b.machine := by
  rcases TxBoard.next_cases hnext with
    ⟨_, -, hidle, -⟩ | ⟨_, _, _, -, hidle, -⟩ | ⟨_, _, _, -, hbuilt, -⟩ | ⟨_, _, _, rfl, -⟩ |
    ⟨_, _, _, rfl, -⟩ | ⟨_, _, -, -, rfl⟩ | ⟨_, -, -, -, rfl⟩ | ⟨_, -, hidle, -⟩
  · cases hcpu.symm.trans hidle
  · cases hcpu.symm.trans hidle
  · cases hcpu.symm.trans hbuilt
  · exact absurd rfl hop
  · exact absurd rfl hop
  · exact ⟨rfl, rfl⟩
  · exact ⟨rfl, rfl⟩
  · cases hcpu.symm.trans hidle

theorem statusReads_poll (ops : List TxOp) (hnext : b.next hal ctl .poll = some b') :
    b.statusReads hal ctl (.poll :: ops) = b.desc.status :: b'.statusReads hal ctl ops := by
  rw [TxBoard.statusReads, hnext]
  rfl

theorem statusReads_other {op : TxOp} (ops : List TxOp) (hop : op ≠ .poll)
    (hnext : b.next hal ctl op = some b') :
    b.statusReads hal ctl (op :: ops) = b'.statusReads hal ctl ops := by
  have hread : b.statusRead op = [] := by
    cases op with
    | poll => exact absurd rfl hop
    | _ => rfl
  rw [TxBoard.statusReads, hnext, hread, List.nil_append]

/-- The first of the values that the reads find. -/
theorem map_range'_eq_cons {k n : Nat} {v : UInt32} {vs : List UInt32}
    (h : v :: vs = (List.range' k n).map status) :
    ∃ n', n = n' + 1 ∧ status k = v ∧ vs = (List.range' (k + 1) n').map status := by
  cases n with
  | zero => cases h
  | succ n =>
    rw [List.range'_succ, List.map_cons] at h
    obtain ⟨rfl, rfl⟩ := List.cons_eq_cons.mp h
    exact ⟨n, rfl, rfl, rfl⟩

/-- The reads of a wait, from any of them on, are the loop from there on. -/
theorem wait_spin {ops : List TxOp} (hops : ∀ op ∈ ops, ∀ call, op ≠ .call call) :
    ∀ {b : TxBoard} {timeout k n : Nat}, b.cpu = .waiting call timeout → 0 < timeout →
      ops.foldlM (TxBoard.next hal ctl) b = some b₁ → b₁.next hal ctl .poll = some b' →
      b'.cpu = .idle →
      b.statusReads hal ctl (ops ++ [.poll]) = (List.range' k n).map status →
      ∃ left, spin (fun i => txDone (status i)) k timeout = (k + n, left) ∧
        b.machine.replied hal call (left != 0) = true ∧
        b'.machine = b.machine.step hal call := by
  induction ops with
  | nil =>
    rintro b timeout k n hcpu hpos ⟨⟩ hpoll hidle hreads
    rw [List.nil_append, statusReads_poll [] hpoll] at hreads
    obtain ⟨n, rfl, hstatus, hrest⟩ := map_range'_eq_cons hreads
    obtain rfl : n = 0 := by
      have hlength := congrArg List.length hrest
      rw [List.length_map, List.length_range'] at hlength
      exact hlength.symm
    rcases poll_spin hcpu hpos hstatus hpoll with ⟨left, -, rfl, -⟩ | ⟨left, rfl, hreplied, hspin⟩
    · cases hidle
    · exact ⟨left, hspin, hreplied, rfl⟩
  | cons op ops ih =>
    intro b timeout k n hcpu hpos hplay hpoll hidle hreads
    rw [List.forall_mem_cons] at hops
    obtain ⟨b₂, hnext, hplay⟩ := Option.bind_eq_some_iff.mp hplay
    rw [List.cons_append] at hreads
    by_cases hop : op = .poll
    · subst hop
      rw [statusReads_poll _ hnext] at hreads
      obtain ⟨n, rfl, hstatus, hrest⟩ := map_range'_eq_cons hreads
      rcases poll_spin hcpu hpos hstatus hnext with ⟨left, hleft, rfl, hspin⟩ | ⟨left, rfl, -, -⟩
      · -- another round
        obtain ⟨last, hlast, hreplied, hmachine⟩ := ih hops.2 rfl hleft hplay hpoll hidle hrest
        refine ⟨last, ?_, hreplied, hmachine⟩
        rw [hspin, hlast, Nat.add_right_comm, Nat.add_assoc]
      · -- the wait was over, and without a call there is no other
        have hover := idle_foldlM hops.2 rfl hplay
        rw [TxBoard.next, hover] at hpoll
        cases hpoll
    · obtain ⟨hkept, hmachine⟩ := waiting_next hcpu hop hnext
      rw [statusReads_other _ hop hnext] at hreads
      have hrest := ih hops.2 (hkept.trans hcpu) hpos hplay hpoll hidle hreads
      rwa [hmachine] at hrest

/-- **The wait, step by step**: whatever the controller does between the reads of the status,
    the processor reads it as often as the loop of `Network_TxFrame` reads those values, and
    the call ends with the reply that the loop gives. -/
theorem wait_eq_txWait {ops : List TxOp} (hcpu : b.cpu = .waiting call ncsiTxTimeoutLoops)
    (hops : ∀ op ∈ ops, ∀ call, op ≠ .call call)
    (hplay : ops.foldlM (TxBoard.next hal ctl) b = some b₁)
    (hpoll : b₁.next hal ctl .poll = some b') (hidle : b'.cpu = .idle) {n : Nat}
    (hreads : b.statusReads hal ctl (ops ++ [.poll]) = (List.range' 0 n).map status) :
    (txWait status).1 = n ∧ b.machine.replied hal call (txWait status).2 = true ∧
      b'.machine = b.machine.step hal call := by
  have hpos : 0 < ncsiTxTimeoutLoops := by decide
  obtain ⟨left, hspin, hreplied, hmachine⟩ :=
    wait_spin hops hcpu hpos hplay hpoll hidle hreads
  rw [Nat.zero_add] at hspin
  exact ⟨congrArg Prod.fst hspin, by rw [txWait, hspin]; exact hreplied, hmachine⟩

end Wait

/-- A card that waits for an answer to an OEM command, with nothing left to fetch. -/
def waitingBoard : TxBoard :=
  { TxBoard.start with
    cpu := .waiting (.rxFrame (request 0 0x50 [])) ncsiTxTimeoutLoops
    transfer := some { source := .received, length := 0, fetched := [] } }

/-- The first read comes too early, the second one finds DONE. -/
theorem wait_eq_txWait_secondRead :
    (txWait fun i => if i = 0 then 0 else 1).1 = 2 ∧
      waitingBoard.machine.replied sampleHal (.rxFrame (request 0 0x50 []))
        (txWait fun i => if i = 0 then 0 else 1).2 = true := by
  let ctl : TxController := ⟨true, fun _ new => new⟩
  let call : Op := .rxFrame (request 0 0x50 [])
  let sent : TxBoard :=
    { waitingBoard with
      cpu := .waiting call (ncsiTxTimeoutLoops - 1)
      desc := { waitingBoard.desc with status := ncsiTxStatusDone }
      transfer := none
      wire := [[]] }
  have hplay : [TxOp.poll, .complete].foldlM (TxBoard.next sampleHal ctl) waitingBoard = some sent :=
    rfl
  have hreplied : sent.machine.replied sampleHal call true = true := by decide +kernel
  have hpoll : sent.next sampleHal ctl .poll =
      some { sent with machine := sent.machine.step sampleHal call, cpu := .idle } := by
    have hdone : txDone ncsiTxStatusDone = true := by decide
    simp only [TxBoard.next, sent, hdone, check_true]
    exact if_pos hreplied
  have hreads : waitingBoard.statusReads sampleHal ctl ([.poll, .complete] ++ [.poll]) =
      (List.range' 0 2).map fun i => if i = 0 then 0 else 1 := rfl
  have hwait := wait_eq_txWait rfl (by simp) hplay hpoll rfl hreads
  exact ⟨hwait.1, hwait.2.1⟩

end NcsiResponder
