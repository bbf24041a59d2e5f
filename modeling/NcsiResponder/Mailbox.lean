import NcsiResponder.System

/-!
# Receive hand-off (ncsi_hal_template.c)

`NCSI_RxOk_ISR` leaves a received frame in three variables, and `NCSI_PollRx` takes it
out of them and hands it to the engine. The interrupt can land between any two steps of
the poll. Between the clearing of the flag and the reading of the length it breaks the
hand-off, elsewhere it does not (`handedOff_of_outsideWindow`).
-/

namespace NcsiResponder

/-! ## The board -/

/-- A value that an interrupt has stored, with the number of the interrupt: they are
    counted from 1 on, and 0 is the initial value. -/
structure Stored where
  value : UInt32
  interrupt : Nat
  deriving DecidableEq

/-- How far `NCSI_PollRx` has got. -/
inductive PollRx where
  | idle
  /-- `gRxPending` was found set -/
  | tested
  | cleared
  /-- the first argument of `ncsi_on_rx_frame` has been read -/
  | readFrame (frame : Stored)
  | readBoth (frame frameLen : Stored)

/-- The variables of the hand-off, the poll that is under way, and the engine. -/
structure Board where
  gRxPending : Bool
  gRxFrame : Stored
  gRxFrameLen : Stored
  poll : PollRx
  /-- the interrupts so far -/
  interrupts : Nat
  /-- the arguments `ncsi_on_rx_frame` was called with, newest first -/
  passed : List (Stored × Stored)
  engine : Machine

/-- An interrupt, or a step of the poll. -/
inductive BoardOp where
  /-- `NCSI_RxOk_ISR` with these fields in the descriptor -/
  | rxOkIsr (bufferAddr length : UInt32)
  | test
  | clear
  | readFrame
  | readFrameLen
  /-- `ncsi_on_rx_frame`, when the buffer holds these bytes -/
  | process (mem : Nat → UInt8)

/-- `NCSI_RxOk_ISR` -/
def Board.rxOkIsr (bufferAddr length : UInt32) (b : Board) : Board :=
  { b with
    gRxFrame := ⟨bufferAddr, b.interrupts + 1⟩
    gRxFrameLen := ⟨length, b.interrupts + 1⟩
    gRxPending := true
    interrupts := b.interrupts + 1 }

section Hal

variable (hal : Hal)

/-- One step, if the poll is at the point for it. That the flag is cleared first, then `gRxFrame`
    is read and then `gRxFrameLen`, is the order of the source; of the compiled code it is assumed,
    as the last two variables are not volatile. -/
def Board.next (b : Board) : BoardOp → Option Board
  | .rxOkIsr bufferAddr length => some (b.rxOkIsr bufferAddr length)
  | .test =>
    match b.poll with
    | .idle => some { b with poll := if b.gRxPending then .tested else .idle }
    | _ => none
  | .clear =>
    match b.poll with
    | .tested => some { b with gRxPending := false, poll := .cleared }
    | _ => none
  | .readFrame =>
    match b.poll with
    | .cleared => some { b with poll := .readFrame b.gRxFrame }
    | _ => none
  | .readFrameLen =>
    match b.poll with
    | .readFrame frame => some { b with poll := .readBoth frame b.gRxFrameLen }
    | _ => none
  | .process mem =>
    match b.poll with
    | .readBoth frame frameLen =>
      match exec hal (.onRxFrame mem frameLen.value.toNat) b.engine with
      | .ok ((), engine) =>
        some { b with poll := .idle, passed := (frame, frameLen) :: b.passed, engine := engine }
      | .error _ => none
    | _ => none

/-- The board after `ncsi_init_and_register_ports`. -/
def Board.start : Board where
  gRxPending := false
  gRxFrame := ⟨0, 0⟩
  gRxFrameLen := ⟨0, 0⟩
  poll := .idle
  interrupts := 0
  passed := []
  engine := (play hal [.init]).2

/-- A step of the board that was taken. -/
abbrev BoardStep := Runs.Step Board BoardOp

/-- The runs of the board: any interleaving of interrupts and polls. -/
abbrev BoardRun : List BoardStep → Board → Prop :=
  Runs.Run (fun b op b' => b.next hal op = some b') (Board.start hal)

end Hal

/-! ## The hand-off -/

/-- What was handed over is right: both arguments of a call were stored by one interrupt,
    and no two calls got the frame of the same interrupt. -/
structure HandedOff (b : Board) : Prop where
  together : ∀ pair ∈ b.passed, 1 ≤ pair.1.interrupt ∧ pair.2.interrupt = pair.1.interrupt
  once : (b.passed.map fun pair => pair.1.interrupt).Nodup

/-- The flag is cleared, and the length is not read yet. -/
def PollRx.inWindow : PollRx → Bool
  | cleared | readFrame _ => true
  | _ => false

/-- The step is not an interrupt in that window. -/
def OutsideWindow (st : BoardStep) : Prop :=
  ∀ bufferAddr length, st.op = .rxOkIsr bufferAddr length → st.before.poll.inWindow = false

/-! ## What a step does -/

section Hal

variable {hal : Hal} {b b' : Board}

/-- The steps of the board, with the point of the poll that each is taken at. -/
theorem Board.next_cases {op : BoardOp} (hnext : b.next hal op = some b') :
    (∃ bufferAddr length, op = .rxOkIsr bufferAddr length ∧ b' = b.rxOkIsr bufferAddr length) ∨
    (op = .test ∧ b.poll = .idle ∧
      b' = { b with poll := if b.gRxPending then .tested else .idle }) ∨
    (op = .clear ∧ b.poll = .tested ∧ b' = { b with gRxPending := false, poll := .cleared }) ∨
    (op = .readFrame ∧ b.poll = .cleared ∧ b' = { b with poll := .readFrame b.gRxFrame }) ∨
    (∃ frame, op = .readFrameLen ∧ b.poll = .readFrame frame ∧
      b' = { b with poll := .readBoth frame b.gRxFrameLen }) ∨
    (∃ mem frame frameLen engine, op = .process mem ∧ b.poll = .readBoth frame frameLen ∧
      Takes hal b.engine (.onRxFrame mem frameLen.value.toNat) engine ∧
      b' = { b with poll := .idle, passed := (frame, frameLen) :: b.passed, engine := engine }) := by
  cases op with
  | rxOkIsr bufferAddr length =>
    cases hnext
    exact .inl ⟨bufferAddr, length, rfl, rfl⟩
  | test =>
    simp only [Board.next] at hnext
    split at hnext
    · next hpoll =>
      cases hnext
      exact .inr (.inl ⟨rfl, hpoll, rfl⟩)
    · cases hnext
  | clear =>
    simp only [Board.next] at hnext
    split at hnext
    · next hpoll =>
      cases hnext
      exact .inr (.inr (.inl ⟨rfl, hpoll, rfl⟩))
    · cases hnext
  | readFrame =>
    simp only [Board.next] at hnext
    split at hnext
    · next hpoll =>
      cases hnext
      exact .inr (.inr (.inr (.inl ⟨rfl, hpoll, rfl⟩)))
    · cases hnext
  | readFrameLen =>
    simp only [Board.next] at hnext
    split at hnext
    · next frame hpoll =>
      cases hnext
      exact .inr (.inr (.inr (.inr (.inl ⟨frame, rfl, hpoll, rfl⟩))))
    · cases hnext
  | process mem =>
    simp only [Board.next] at hnext
    split at hnext
    · next frame frameLen hpoll =>
      split at hnext
      · next engine htakes =>
        cases hnext
        exact .inr (.inr (.inr (.inr (.inr ⟨mem, frame, frameLen, engine, rfl, hpoll, htakes, rfl⟩))))
      · cases hnext
    · cases hnext

/-! ## Runs outside the window -/

/-- An interrupt that has stored a frame which has not been passed. -/
def Board.Unspent (b : Board) (interrupt : Nat) : Prop :=
  1 ≤ interrupt ∧ ∀ pair ∈ b.passed, pair.1.interrupt ≠ interrupt

/-- What the poll has found out or read. -/
def Board.PollHolds (b : Board) : PollRx → Prop
  | .idle => True
  | .tested => b.gRxPending = true
  | .cleared => b.gRxPending = false ∧ b.Unspent b.interrupts
  | .readFrame frame =>
    frame.interrupt = b.interrupts ∧ b.gRxPending = false ∧ b.Unspent b.interrupts
  | .readBoth frame frameLen =>
    frameLen.interrupt = frame.interrupt ∧ b.Unspent frame.interrupt ∧
      frame.interrupt ≤ b.interrupts ∧
      (b.gRxPending = true → frame.interrupt < b.interrupts)

/-- The hand-off while no interrupt falls into the window. -/
structure Handing (b : Board) : Prop where
  frame : b.gRxFrame.interrupt = b.interrupts
  frameLen : b.gRxFrameLen.interrupt = b.interrupts
  handedOff : HandedOff b
  passed : ∀ pair ∈ b.passed, pair.1.interrupt ≤ b.interrupts
  pending : b.gRxPending = true → b.Unspent b.interrupts
  poll : b.PollHolds b.poll

theorem handing_start : Handing (Board.start hal) where
  frame := rfl
  frameLen := rfl
  handedOff := ⟨by simp [Board.start], by simp [Board.start]⟩
  passed := by simp [Board.start]
  pending := by simp [Board.start]
  poll := trivial

/-- An interrupt outside the window stores a frame that has not been passed. -/
theorem handing_rxOkIsr (hinv : Handing b) (houtside : b.poll.inWindow = false)
    (bufferAddr length : UInt32) : Handing (b.rxOkIsr bufferAddr length) := by
  have hnew : (b.rxOkIsr bufferAddr length).Unspent (b.interrupts + 1) :=
    ⟨Nat.le_add_left .., fun pair hpair => Nat.ne_of_lt (Nat.lt_succ_of_le (hinv.passed pair hpair))⟩
  refine ⟨rfl, rfl, ⟨hinv.handedOff.together, hinv.handedOff.once⟩, ?_, fun _ => hnew, ?_⟩
  · intro pair hpair
    exact Nat.le_succ_of_le (hinv.passed pair hpair)
  · have hpoll := hinv.poll
    show (b.rxOkIsr bufferAddr length).PollHolds b.poll
    cases hat : b.poll with
    | idle => trivial
    | tested => rfl
    | cleared =>
      rw [hat] at houtside
      cases houtside
    | readFrame frame =>
      rw [hat] at houtside
      cases houtside
    | readBoth frame frameLen =>
      -- what the poll has read is not touched
      rw [hat] at hpoll
      obtain ⟨htogether, hunspent, hle, -⟩ := hpoll
      exact ⟨htogether, hunspent, Nat.le_succ_of_le hle, fun _ => Nat.lt_succ_of_le hle⟩

/-- Every step outside the window keeps the hand-off. -/
theorem handing_step {op : BoardOp} (hinv : Handing b) (hnext : b.next hal op = some b')
    (houtside : OutsideWindow ⟨b, op, b'⟩) : Handing b' := by
  have hpoll := hinv.poll
  rcases Board.next_cases hnext with ⟨bufferAddr, length, rfl, rfl⟩ | ⟨rfl, hat, rfl⟩ |
    ⟨rfl, hat, rfl⟩ | ⟨rfl, hat, rfl⟩ | ⟨frame, rfl, hat, rfl⟩ |
    ⟨mem, frame, frameLen, engine, rfl, hat, -, rfl⟩
  · exact handing_rxOkIsr hinv (houtside bufferAddr length rfl) bufferAddr length
  · -- the test
    refine ⟨hinv.frame, hinv.frameLen, ⟨hinv.handedOff.together, hinv.handedOff.once⟩,
      hinv.passed, hinv.pending, ?_⟩
    cases hpending : b.gRxPending with
    | true => rfl
    | false => trivial
  · -- the flag was set, so the newest frame has not been passed
    rw [hat] at hpoll
    exact ⟨hinv.frame, hinv.frameLen, ⟨hinv.handedOff.together, hinv.handedOff.once⟩,
      hinv.passed, by rintro ⟨⟩, rfl, hinv.pending hpoll⟩
  · rw [hat] at hpoll
    exact ⟨hinv.frame, hinv.frameLen, ⟨hinv.handedOff.together, hinv.handedOff.once⟩,
      hinv.passed, hinv.pending, hinv.frame, hpoll⟩
  · -- no interrupt has come in between, so the length is of the same one
    rw [hat] at hpoll
    obtain ⟨hframe, hpending, hunspent⟩ := hpoll
    refine ⟨hinv.frame, hinv.frameLen, ⟨hinv.handedOff.together, hinv.handedOff.once⟩,
      hinv.passed, hinv.pending, hinv.frameLen.trans hframe.symm, ?_, Nat.le_of_eq hframe, ?_⟩
    · rw [hframe]
      exact hunspent
    · intro hset
      exact absurd (hset.symm.trans hpending) (by decide)
  · -- the pair is passed, and counts as spent from now on
    rw [hat] at hpoll
    obtain ⟨htogether, hunspent, hle, hnewer⟩ := hpoll
    refine ⟨hinv.frame, hinv.frameLen, ⟨?_, ?_⟩, ?_, ?_, trivial⟩
    · exact List.forall_mem_cons.mpr ⟨⟨hunspent.1, htogether⟩, hinv.handedOff.together⟩
    · refine List.nodup_cons.mpr ⟨?_, hinv.handedOff.once⟩
      intro hmem
      obtain ⟨pair, hpair, heq⟩ := List.mem_map.mp hmem
      exact hunspent.2 pair hpair heq
    · exact List.forall_mem_cons.mpr ⟨hle, hinv.passed⟩
    · intro hpending
      obtain ⟨hpos, hothers⟩ := hinv.pending hpending
      exact ⟨hpos, List.forall_mem_cons.mpr ⟨Nat.ne_of_lt (hnewer hpending), hothers⟩⟩

/-- The hand-off is right in every run whose interrupts all fall outside the window. -/
theorem handing_of_outsideWindow {hist : List BoardStep} (hrun : BoardRun hal hist b)
    (houtside : ∀ st ∈ hist, OutsideWindow st) : Handing b :=
  hrun.invariant_along Handing OutsideWindow handing_start
    (fun _ _ _ hinv hnext hok => handing_step hinv hnext hok) houtside

/-! ## The engine behind the poll -/

/-- The call of the engine that a step makes. -/
def engineCall (st : BoardStep) : Option Op :=
  match st.op, st.before.poll with
  | .process mem, .readBoth _ frameLen => some (.onRxFrame mem frameLen.value.toNat)
  | _, _ => none

/-- **The poll drives the engine**: in every run of the board the engine is in a run of its
    own, whose calls after `NCSI_init` are the ones of the poll. -/
theorem BoardRun.engine {hist : List BoardStep} (hrun : BoardRun hal hist b) :
    ∃ calls, FwRun hal calls b.engine ∧
      calls.map Runs.Step.op = hist.filterMap engineCall ++ [.init] := by
  induction hrun with
  | start => exact ⟨_, fwRun_play hal [.init], rfl⟩
  | @next hist b b' op _ hnext ih =>
    obtain ⟨calls, hcalls, hops⟩ := ih
    rcases Board.next_cases hnext with ⟨bufferAddr, length, rfl, rfl⟩ | ⟨rfl, hat, rfl⟩ |
      ⟨rfl, hat, rfl⟩ | ⟨rfl, hat, rfl⟩ | ⟨frame, rfl, hat, rfl⟩ |
      ⟨mem, frame, frameLen, engine, rfl, hat, htakes, rfl⟩
    case inr.inr.inr.inr.inr =>
      refine ⟨_, hcalls.next htakes, ?_⟩
      simp [hops, engineCall, hat]
    -- the other steps leave the engine alone
    all_goals exact ⟨calls, hcalls, by rw [List.filterMap_cons_none rfl, hops]⟩

/-! ## Interrupts in the window -/

/-- The board after these arguments have been passed. -/
def Board.pass (hal : Hal) (frame frameLen : Stored) (mem : Nat → UInt8) (b : Board) : Board :=
  { b with
    poll := .idle
    passed := (frame, frameLen) :: b.passed
    engine := b.engine.step hal (.onRxFrame mem frameLen.value.toNat) }

/-- What holds of the mailbox wherever the interrupts fall. -/
structure Latest (b : Board) : Prop where
  frame : b.gRxFrame.interrupt = b.interrupts
  frameLen : b.gRxFrameLen.interrupt = b.interrupts
  held : ∀ frame, b.poll = .readFrame frame → frame.interrupt ≤ b.interrupts

theorem latest_step {op : BoardOp} (hinv : Latest b) (hnext : b.next hal op = some b') :
    Latest b' := by
  obtain ⟨hframe, hframeLen, hheld⟩ := hinv
  rcases Board.next_cases hnext with ⟨bufferAddr, length, rfl, rfl⟩ | ⟨rfl, hat, rfl⟩ |
    ⟨rfl, hat, rfl⟩ | ⟨rfl, hat, rfl⟩ | ⟨frame, rfl, hat, rfl⟩ |
    ⟨mem, frame, frameLen, engine, rfl, hat, -, rfl⟩
  · exact ⟨rfl, rfl, fun frame hat => Nat.le_succ_of_le (hheld frame hat)⟩
  · refine ⟨hframe, hframeLen, fun frame hread => ?_⟩
    dsimp only at hread
    split at hread <;> cases hread
  · exact ⟨hframe, hframeLen, by rintro _ ⟨⟩⟩
  · refine ⟨hframe, hframeLen, ?_⟩
    rintro _ ⟨⟩
    exact Nat.le_of_eq hframe
  · exact ⟨hframe, hframeLen, by rintro _ ⟨⟩⟩
  · exact ⟨hframe, hframeLen, by rintro _ ⟨⟩⟩

theorem BoardRun.latest {hist : List BoardStep} (hrun : BoardRun hal hist b) : Latest b :=
  hrun.invariant Latest ⟨rfl, rfl, by rintro _ ⟨⟩⟩ fun _ _ _ hinv hnext => latest_step hinv hnext

theorem next_process (hport : b.engine.engine.port0 = .gPort) {frame frameLen : Stored}
    (hpoll : b.poll = .readBoth frame frameLen) (mem : Nat → UInt8) :
    b.next hal (.process mem) = some (b.pass hal frame frameLen mem) := by
  simp only [Board.next, hpoll, exec_run hal hport]
  rfl

/-- The rest of a poll that has cleared the flag passes what it finds. -/
theorem pass_of_cleared (hport : b.engine.engine.port0 = .gPort) (hpoll : b.poll = .cleared)
    (mem : Nat → UInt8) :
    [.readFrame, .readFrameLen, .process mem].foldlM (Board.next hal) b =
      some (b.pass hal b.gRxFrame b.gRxFrameLen mem) := by
  have hframe : b.next hal .readFrame = some { b with poll := .readFrame b.gRxFrame } := by
    simp only [Board.next, hpoll]
  have hframeLen : ({ b with poll := .readFrame b.gRxFrame } : Board).next hal .readFrameLen =
      some { b with poll := .readBoth b.gRxFrame b.gRxFrameLen } := rfl
  have hprocess : ({ b with poll := .readBoth b.gRxFrame b.gRxFrameLen } : Board).next hal
      (.process mem) = some (b.pass hal b.gRxFrame b.gRxFrameLen mem) :=
    @next_process hal { b with poll := .readBoth b.gRxFrame b.gRxFrameLen } hport _ _ rfl mem
  simp only [List.foldlM_cons, List.foldlM_nil, hframe, hframeLen, hprocess, Option.bind_eq_bind,
    Option.bind_some]
  rfl

/-- An interrupt between the clearing of the flag and the reading of the buffer: its frame
    is passed by this poll, and again by the next one. -/
theorem passed_twice (hport : b.engine.engine.port0 = .gPort) (hpoll : b.poll = .cleared)
    (hpending : b.gRxPending = true) :
    ∃ (ops : List BoardOp) (b' : Board), ops.foldlM (Board.next hal) b = some b' ∧
      ¬ HandedOff b' := by
  let poll : List BoardOp := [.readFrame, .readFrameLen, .process fun _ => 0]
  let b₁ := b.pass hal b.gRxFrame b.gRxFrameLen fun _ => 0
  let b₂ : Board := { b₁ with gRxPending := false, poll := .cleared }
  have hport₁ : b₁.engine.engine.port0 = .gPort := (Machine.step_port0 _).trans hport
  have htest : [BoardOp.test, .clear].foldlM (Board.next hal) b₁ = some b₂ := by
    have htested : b₁.next hal .test = some { b₁ with poll := .tested } := by
      simp [Board.next, b₁, Board.pass, hpending]
    rw [List.foldlM_cons, htested]
    rfl
  refine ⟨poll ++ ([.test, .clear] ++ poll), b₂.pass hal b.gRxFrame b.gRxFrameLen fun _ => 0, ?_, ?_⟩
  · rw [List.foldlM_append, pass_of_cleared hport hpoll, Option.bind_eq_bind, Option.bind_some,
      List.foldlM_append, htest, Option.bind_eq_bind, Option.bind_some]
    exact @pass_of_cleared hal b₂ hport₁ rfl _
  · intro hhanded
    have honce := hhanded.once
    simp [Board.pass, b₂, b₁] at honce

/-- An interrupt between the reading of the buffer and the reading of the length: the
    buffer is passed with the length of another frame. -/
theorem passed_mixed (hport : b.engine.engine.port0 = .gPort) {frame : Stored}
    (hpoll : b.poll = .readFrame frame) (hother : b.gRxFrameLen.interrupt ≠ frame.interrupt) :
    ∃ (ops : List BoardOp) (b' : Board), ops.foldlM (Board.next hal) b = some b' ∧
      ¬ HandedOff b' := by
  refine ⟨[.readFrameLen, .process fun _ => 0], b.pass hal frame b.gRxFrameLen fun _ => 0, ?_, ?_⟩
  · have hframeLen : b.next hal .readFrameLen =
        some { b with poll := .readBoth frame b.gRxFrameLen } := by
      simp only [Board.next, hpoll]
    have hprocess := @next_process hal { b with poll := .readBoth frame b.gRxFrameLen } hport _ _
      rfl fun _ => 0
    rw [List.foldlM_cons, hframeLen, Option.bind_eq_bind, Option.bind_some, List.foldlM_cons,
      hprocess]
    rfl
  · intro hhanded
    exact hother (hhanded.together _ List.mem_cons_self).2

/-- Any interrupt in the window can be followed by steps that break the hand-off. -/
theorem broken_of_inWindow {hist : List BoardStep} (hrun : BoardRun hal hist b)
    (hwindow : b.poll.inWindow = true) (bufferAddr length : UInt32) :
    ∃ newer b', BoardRun hal
        (newer ++ ⟨b, .rxOkIsr bufferAddr length, b.rxOkIsr bufferAddr length⟩ :: hist) b' ∧
      ¬ HandedOff b' := by
  obtain ⟨calls, hcalls, -⟩ := hrun.engine
  have hport : (b.rxOkIsr bufferAddr length).engine.engine.port0 = .gPort :=
    FwRun.port0 hal hcalls
  have hlatest := hrun.latest
  have hrun' : BoardRun hal
      (⟨b, .rxOkIsr bufferAddr length, b.rxOkIsr bufferAddr length⟩ :: hist)
      (b.rxOkIsr bufferAddr length) := hrun.next rfl
  have hbroken : ∃ (ops : List BoardOp) (b' : Board),
      ops.foldlM (Board.next hal) (b.rxOkIsr bufferAddr length) = some b' ∧ ¬ HandedOff b' := by
    cases hat : b.poll with
    | cleared => exact passed_twice hport hat rfl
    | readFrame frame =>
      apply passed_mixed hport hat
      have hle := hlatest.held frame hat
      show b.interrupts + 1 ≠ frame.interrupt
      omega
    | _ =>
      rw [hat] at hwindow
      cases hwindow
  obtain ⟨ops, b', hplay, hbroken⟩ := hbroken
  obtain ⟨newer, hrun''⟩ := Runs.Run.exists_of_foldlM (fun _ _ _ h => h) ops hrun' hplay
  exact ⟨newer, b', hrun'', hbroken⟩

/-- **When the hand-off is right**: in every run of the board whose interrupts all fall
    outside the window, every call of `ncsi_on_rx_frame` gets both arguments from one
    interrupt, and no two calls get the frame of the same one. Any interrupt in the window
    can break that. -/
theorem handedOff_of_outsideWindow {hist : List BoardStep} (hrun : BoardRun hal hist b) :
    ((∀ st ∈ hist, OutsideWindow st) → HandedOff b ∧ ∀ st ∈ hist, HandedOff st.after) ∧
      (b.poll.inWindow = true → ∀ bufferAddr length, ∃ newer b', BoardRun hal
          (newer ++ ⟨b, .rxOkIsr bufferAddr length, b.rxOkIsr bufferAddr length⟩ :: hist) b' ∧
        ¬ HandedOff b') := by
  refine ⟨fun houtside => ⟨(handing_of_outsideWindow hrun houtside).handedOff, ?_⟩,
    broken_of_inWindow hrun⟩
  intro st hst
  obtain ⟨older, hsuffix, holder, hnext⟩ := hrun.of_mem hst
  -- the steps up to this one are a run themselves
  have houtside' : ∀ st' ∈ st :: older, OutsideWindow st' :=
    fun st' hst' => houtside st' (hsuffix.mem hst')
  exact (handing_of_outsideWindow (holder.next hnext) houtside').handedOff

/-- Operations that can be played from the start have a run. -/
theorem exists_boardRun {ops : List BoardOp} {passed : List (Stored × Stored)}
    (hplay : (ops.foldlM (Board.next hal) (Board.start hal)).map Board.passed = some passed) :
    ∃ hist b, BoardRun hal hist b ∧ b.passed = passed := by
  obtain ⟨b, hplay, hpassed⟩ := Option.map_eq_some_iff.mp hplay
  obtain ⟨newer, hrun⟩ := Runs.Run.exists_of_foldlM (fun _ _ _ h => h) ops .start hplay
  exact ⟨_, b, hrun, hpassed⟩

end Hal

/-- The poll from the reading of the buffer on; the buffer holds zeros. -/
def restOfPoll : List BoardOp := [.readFrame, .readFrameLen, .process fun _ => 0]

/-- The second frame is passed twice and the first one never; or the first frame's buffer
    is passed with the second one's length. -/
theorem not_handedOff_secondFrame :
    (∃ hist b, BoardRun sampleHal hist b ∧
      b.passed = [(⟨0x2000, 2⟩, ⟨90, 2⟩), (⟨0x2000, 2⟩, ⟨90, 2⟩)] ∧ ¬ HandedOff b) ∧
    ∃ hist b, BoardRun sampleHal hist b ∧
      b.passed = [(⟨0x1000, 1⟩, ⟨90, 2⟩)] ∧ ¬ HandedOff b := by
  constructor
  · obtain ⟨hist, b, hrun, hpassed⟩ := @exists_boardRun sampleHal
      ([.rxOkIsr 0x1000 64, .test, .clear, .rxOkIsr 0x2000 90] ++ restOfPoll ++
        [.test, .clear] ++ restOfPoll)
      [(⟨0x2000, 2⟩, ⟨90, 2⟩), (⟨0x2000, 2⟩, ⟨90, 2⟩)] (by decide +kernel)
    refine ⟨hist, b, hrun, hpassed, fun hhanded => ?_⟩
    have honce := hhanded.once
    rw [hpassed] at honce
    exact absurd honce (by decide)
  · obtain ⟨hist, b, hrun, hpassed⟩ := @exists_boardRun sampleHal
      [.rxOkIsr 0x1000 64, .test, .clear, .readFrame, .rxOkIsr 0x2000 90, .readFrameLen,
        .process fun _ => 0] [(⟨0x1000, 1⟩, ⟨90, 2⟩)] (by decide +kernel)
    refine ⟨hist, b, hrun, hpassed, fun hhanded => ?_⟩
    have htogether := hhanded.together
    rw [hpassed] at htogether
    exact absurd htogether (by decide)

/-- A frame whose interrupt comes before the poll is passed as it was received. -/
theorem handedOff_of_outsideWindow_oneFrame :
    ∃ hist b, BoardRun sampleHal hist b ∧ b.passed = [(⟨0x1000, 1⟩, ⟨64, 1⟩)] ∧ HandedOff b := by
  let b₁ := (Board.start sampleHal).rxOkIsr 0x1000 64
  let b₂ : Board := { b₁ with poll := .tested }
  let b₃ : Board := { b₂ with gRxPending := false, poll := .cleared }
  let b₄ : Board := { b₃ with poll := .readFrame b₁.gRxFrame }
  let b₅ : Board := { b₄ with poll := .readBoth b₁.gRxFrame b₁.gRxFrameLen }
  let b₆ := b₅.pass sampleHal b₁.gRxFrame b₁.gRxFrameLen fun _ => 0
  have hport : b₅.engine.engine.port0 = .gPort := FwRun.port0 _ (fwRun_play sampleHal [.init])
  have hrun : BoardRun sampleHal
      [⟨b₅, .process fun _ => 0, b₆⟩, ⟨b₄, .readFrameLen, b₅⟩, ⟨b₃, .readFrame, b₄⟩,
        ⟨b₂, .clear, b₃⟩, ⟨b₁, .test, b₂⟩, ⟨Board.start sampleHal, .rxOkIsr 0x1000 64, b₁⟩] b₆ :=
    (((((Runs.Run.start.next rfl).next rfl).next rfl).next rfl).next rfl).next
      (next_process hport rfl _)
  refine ⟨_, b₆, hrun, rfl, ((handedOff_of_outsideWindow hrun).1 ?_).1⟩
  -- the poll has not begun when the interrupt comes
  simp [OutsideWindow, Board.start, PollRx.inWindow]

end NcsiResponder
