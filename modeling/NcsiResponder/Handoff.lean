import NcsiResponder.Lib.OnePlace
import NcsiResponder.Mailbox

/-!
# What the receive hand-off is for

As long as no interrupt falls into the window of `Mailbox.lean`, the three variables of
the hand-off are a mailbox with one place: an interrupt puts the fields of its
descriptor, clearing the flag takes them. So a frame is lost exactly when another
interrupt comes before the flag is cleared (`passed_eq_kept`), and once the interrupts
stop, six more steps of the main loop pass what is left (`passed_of_pollSteps`).
-/

namespace NcsiResponder

open OnePlace

/-! ## The mailbox behind the variables -/

/-- The arguments that the poll has taken and not passed yet. Before it reads them they are
    those in the variables. -/
def Board.inHand (b : Board) : Option (Stored × Stored) :=
  match b.poll with
  | .idle | .tested => none
  | .cleared => some (b.gRxFrame, b.gRxFrameLen)
  | .readFrame frame => some (frame, b.gRxFrameLen)
  | .readBoth frame frameLen => some (frame, frameLen)

/-- The arguments that wait for the next poll. -/
def Board.waiting (b : Board) : Option (Stored × Stored) :=
  if b.gRxPending then some (b.gRxFrame, b.gRxFrameLen) else none

def Board.mailbox (b : Board) : Mailbox (Stored × Stored) :=
  ⟨b.waiting, b.inHand.toList ++ b.passed⟩

/-- What a step does to the mailbox. -/
def mailboxEvent (st : BoardStep) : Option (Event (Stored × Stored)) :=
  match st.op with
  | .rxOkIsr bufferAddr length =>
    some (.put (⟨bufferAddr, st.before.interrupts + 1⟩, ⟨length, st.before.interrupts + 1⟩))
  | .clear => some .take
  | _ => none

section Hal

variable {hal : Hal} {b b' : Board}

/-- A poll that has found the flag set will find it set when it clears it. -/
def Board.TestHolds (b : Board) : Prop := b.poll = .tested → b.gRxPending = true

theorem testHolds_step {op : BoardOp} (hnext : b.next hal op = some b') : b'.TestHolds := by
  rcases Board.next_cases hnext with ⟨bufferAddr, length, rfl, rfl⟩ | ⟨rfl, hat, rfl⟩ |
    ⟨rfl, hat, rfl⟩ | ⟨rfl, hat, rfl⟩ | ⟨frame, rfl, hat, rfl⟩ |
    ⟨mem, frame, frameLen, engine, rfl, hat, -, rfl⟩
  · exact fun _ => rfl
  · intro htested
    cases hpending : b.gRxPending with
    | true => rfl
    | false => simp [hpending] at htested
  -- the other steps leave the poll elsewhere
  all_goals rintro ⟨⟩

theorem BoardRun.testHolds {hist : List BoardStep} (hrun : BoardRun hal hist b) : b.TestHolds :=
  hrun.invariant Board.TestHolds (by rintro ⟨⟩) fun _ _ _ _ hnext => testHolds_step hnext

/-- Outside the window a step acts on the mailbox as its event. -/
theorem mailbox_step {op : BoardOp} (hinv : b.TestHolds) (hnext : b.next hal op = some b')
    (houtside : OutsideWindow ⟨b, op, b'⟩) :
    b'.mailbox = ((mailboxEvent ⟨b, op, b'⟩).map b.mailbox.react).getD b.mailbox := by
  rcases Board.next_cases hnext with ⟨bufferAddr, length, rfl, rfl⟩ | ⟨rfl, hat, rfl⟩ |
    ⟨rfl, hat, rfl⟩ | ⟨rfl, hat, rfl⟩ | ⟨frame, rfl, hat, rfl⟩ |
    ⟨mem, frame, frameLen, engine, rfl, hat, -, rfl⟩
  · -- what the poll has taken is not touched
    have hwindow := houtside bufferAddr length rfl
    have hinHand : (b.rxOkIsr bufferAddr length).inHand = b.inHand := by
      unfold Board.inHand Board.rxOkIsr
      cases hat : b.poll with
      | idle | tested | readBoth _ _ => rfl
      | cleared | readFrame _ =>
        simp only [hat] at hwindow
        cases hwindow
    simp only [Board.mailbox, hinHand]
    rfl
  · have hinHand : ({ b with poll := if b.gRxPending then .tested else .idle } : Board).inHand =
        b.inHand := by
      unfold Board.inHand
      rw [hat]
      cases b.gRxPending <;> rfl
    simp only [Board.mailbox, hinHand]
    rfl
  · -- the flag is set, so what is taken is what waits
    have hpending := hinv hat
    simp [Board.mailbox, Board.waiting, Board.inHand, mailboxEvent, Mailbox.react, hat, hpending]
  · simp [Board.mailbox, Board.waiting, Board.inHand, mailboxEvent, hat]
  · simp [Board.mailbox, Board.waiting, Board.inHand, mailboxEvent, hat]
  · simp [Board.mailbox, Board.waiting, Board.inHand, mailboxEvent, hat]

/-- **The hand-off refines a mailbox with one place**, in every run whose interrupts all
    fall outside the window. -/
theorem mailbox_eq_after {hist : List BoardStep} (hrun : BoardRun hal hist b)
    (houtside : ∀ st ∈ hist, OutsideWindow st) :
    b.mailbox = after (hist.filterMap mailboxEvent) :=
  hrun.simulation_along Board.mailbox mailboxEvent Mailbox.react OutsideWindow
    (fun _ _ _ _ hbefore hnext hok _ => mailbox_step (BoardRun.testHolds hbefore) hnext hok)
    houtside

/-- What waits, what is in the poll's hands and what was passed were not overwritten. -/
theorem items_eq_kept {hist : List BoardStep} (hrun : BoardRun hal hist b)
    (houtside : ∀ st ∈ hist, OutsideWindow st) :
    b.waiting.toList ++ (b.inHand.toList ++ b.passed) =
      kept (hist.filterMap mailboxEvent) := by
  rw [← after_items, ← mailbox_eq_after hrun houtside]
  rfl

/-- **Which frames are passed**: the arguments that wait, those in the poll's hands and those
    that were passed are together, in order and each once, what the interrupts stored and no
    later interrupt overwrote. Nothing at all is lost exactly when between any two interrupts
    the flag was cleared. -/
theorem passed_eq_kept {hist : List BoardStep} (hrun : BoardRun hal hist b)
    (houtside : ∀ st ∈ hist, OutsideWindow st) :
    let events := hist.filterMap mailboxEvent
    b.waiting.toList ++ (b.inHand.toList ++ b.passed) = kept events ∧
      (kept events).Sublist (puts events) ∧
      (kept events = puts events ↔ events.IsChain Gentle) :=
  ⟨items_eq_kept hrun houtside, kept_sublist _, kept_eq_puts_iff _⟩

/-- Two interrupts before the poll, outside the window. -/
theorem boardRun_twoFrames : ∃ hist b, BoardRun sampleHal hist b ∧
    (∀ st ∈ hist, OutsideWindow st) ∧
    hist.filterMap mailboxEvent =
      [.put (⟨0x2000, 2⟩, ⟨90, 2⟩), .put (⟨0x1000, 1⟩, ⟨64, 1⟩)] := by
  let b₁ := (Board.start sampleHal).rxOkIsr 0x1000 64
  have hrun : BoardRun sampleHal
      [⟨b₁, .rxOkIsr 0x2000 90, b₁.rxOkIsr 0x2000 90⟩,
        ⟨Board.start sampleHal, .rxOkIsr 0x1000 64, b₁⟩] (b₁.rxOkIsr 0x2000 90) :=
    (Runs.Run.start.next rfl).next rfl
  refine ⟨_, _, hrun, ?_, rfl⟩
  -- the poll has not begun
  simp [OutsideWindow, b₁, Board.rxOkIsr, Board.start, PollRx.inWindow]

/-- The first one is lost. -/
theorem passed_eq_kept_twoFrames : ∃ hist b, BoardRun sampleHal hist b ∧
    b.waiting.toList ++ (b.inHand.toList ++ b.passed) = [(⟨0x2000, 2⟩, ⟨90, 2⟩)] ∧
    ¬ (hist.filterMap mailboxEvent).IsChain Gentle := by
  obtain ⟨hist, b, hrun, houtside, hevents⟩ := boardRun_twoFrames
  obtain ⟨hitems, -, hall⟩ := passed_eq_kept hrun houtside
  rw [hevents] at hitems hall
  refine ⟨hist, b, hrun, hitems, ?_⟩
  rw [hevents, ← hall]
  simp [kept, puts]

/-! ## Catching up -/

/-- A step of the main loop. -/
def IsPollStep : BoardOp → Prop
  | .rxOkIsr _ _ => False
  | _ => True

/-- The steps that the main loop takes until nothing waits and nothing is in its hands. -/
def Board.backlog (b : Board) : ℕ :=
  match b.poll with
  | .idle => if b.gRxPending then 5 else 0
  | .tested => 4
  | .cleared => 3
  | .readFrame _ => 2
  | .readBoth _ _ => if b.gRxPending then 6 else 1

theorem backlog_le (b : Board) : b.backlog ≤ 6 := by
  unfold Board.backlog
  split <;> grind

/-- The flag says whether a frame waits, and the point of the poll whether one is in hand. -/
theorem caughtUp_of_backlog (hzero : b.backlog = 0) :
    b.waiting = none ∧ b.inHand = none := by
  unfold Board.backlog at hzero
  unfold Board.waiting Board.inHand
  cases hat : b.poll with
  | idle =>
    cases hpending : b.gRxPending with
    | true => simp [hat, hpending] at hzero
    | false => exact ⟨rfl, rfl⟩
  | readBoth frame frameLen => cases hpending : b.gRxPending <;> simp [hat, hpending] at hzero
  | _ => simp [hat] at hzero

/-- Every step of the main loop takes one off. -/
theorem backlog_step {op : BoardOp} (hinv : Handing b) (hnext : b.next hal op = some b')
    (hop : IsPollStep op) : b'.backlog = b.backlog - 1 := by
  have hpoll := hinv.poll
  rcases Board.next_cases hnext with ⟨bufferAddr, length, rfl, rfl⟩ | ⟨rfl, hat, rfl⟩ |
    ⟨rfl, hat, rfl⟩ | ⟨rfl, hat, rfl⟩ | ⟨frame, rfl, hat, rfl⟩ |
    ⟨mem, frame, frameLen, engine, rfl, hat, -, rfl⟩
  · exact hop.elim
  · cases hpending : b.gRxPending <;> simp [Board.backlog, hat, hpending]
  · simp [Board.backlog, hat]
  · simp [Board.backlog, hat]
  · -- no interrupt has come since the flag was cleared
    rw [hat] at hpoll
    simp [Board.backlog, hat, hpoll.2.1]
  · cases hpending : b.gRxPending <;> simp [Board.backlog, hat, hpending]

/-- The main loop is never stuck. -/
theorem exists_pollStep (hport : b.engine.engine.port0 = .gPort) :
    ∃ op b', IsPollStep op ∧ b.next hal op = some b' := by
  cases hat : b.poll with
  | idle => exact ⟨.test, _, trivial, by simp only [Board.next, hat]; rfl⟩
  | tested => exact ⟨.clear, _, trivial, by simp only [Board.next, hat]; rfl⟩
  | cleared => exact ⟨.readFrame, _, trivial, by simp only [Board.next, hat]; rfl⟩
  | readFrame frame => exact ⟨.readFrameLen, _, trivial, by simp only [Board.next, hat]; rfl⟩
  | readBoth frame frameLen => exact ⟨.process fun _ => 0, _, trivial, next_process hport hat _⟩

theorem outsideWindow_of_isPollStep {st : BoardStep} (hop : IsPollStep st.op) :
    OutsideWindow st := by
  intro bufferAddr length hisr
  rw [hisr] at hop
  exact hop.elim

/-- A step of the main loop puts nothing into the mailbox. -/
theorem kept_pollSteps {newer : List BoardStep} (hpoll : ∀ st ∈ newer, IsPollStep st.op)
    (hist : List BoardStep) :
    kept ((newer ++ hist).filterMap mailboxEvent) = kept (hist.filterMap mailboxEvent) := by
  induction newer with
  | nil => rfl
  | cons st newer ih =>
    rw [List.forall_mem_cons] at hpoll
    obtain ⟨before, op, after⟩ := st
    rw [← ih hpoll.2, List.cons_append]
    cases op with
    | rxOkIsr bufferAddr length => exact hpoll.1.elim
    | clear => exact kept_take _
    | _ => rfl

/-- **Catching up**: six steps of the main loop without an interrupt pass everything that was
    stored and not overwritten, and the main loop is never kept from taking them. -/
theorem passed_of_pollSteps {hist : List BoardStep} (hrun : BoardRun hal hist b)
    (houtside : ∀ st ∈ hist, OutsideWindow st) :
    (∀ newer b', BoardRun hal (newer ++ hist) b' → (∀ st ∈ newer, IsPollStep st.op) →
      6 ≤ newer.length → b'.passed = kept (hist.filterMap mailboxEvent)) ∧
    ∀ n, ∃ newer b', BoardRun hal (newer ++ hist) b' ∧ (∀ st ∈ newer, IsPollStep st.op) ∧
      newer.length = n := by
  constructor
  · intro newer b' hrun' hpoll hlong
    have hall : ∀ st ∈ newer ++ hist, OutsideWindow st := by
      intro st hst
      rcases List.mem_append.mp hst with hst | hst
      · exact outsideWindow_of_isPollStep (hpoll st hst)
      · exact houtside st hst
    -- no backlog is left after so many steps
    have hbacklog := Runs.Run.rank_along Board.backlog Handing (fun st => IsPollStep st.op)
      (fun _ _ _ hinv hnext hop => ⟨handing_step hinv hnext (outsideWindow_of_isPollStep hop),
        backlog_step hinv hnext hop⟩)
      (fun b hrun => ⟨handing_of_outsideWindow hrun houtside, backlog_le b⟩) newer hrun' hpoll
    obtain ⟨hwaiting, hinHand⟩ :=
      caughtUp_of_backlog (Nat.le_zero.mp (hbacklog.2.trans (Nat.sub_eq_zero_of_le hlong).le))
    have hitems := items_eq_kept hrun' hall
    rwa [hwaiting, hinHand, kept_pollSteps hpoll] at hitems
  · refine Runs.Run.exists_longer IsPollStep (fun _ b hrun => ?_) hrun
    obtain ⟨calls, hcalls, -⟩ := BoardRun.engine hrun
    exact exists_pollStep (FwRun.port0 hal hcalls)

end Hal

theorem passed_of_pollSteps_twoFrames : ∃ hist b, BoardRun sampleHal hist b ∧
    b.passed = [(⟨0x2000, 2⟩, ⟨90, 2⟩)] := by
  obtain ⟨hist, b, hrun, houtside, hevents⟩ := boardRun_twoFrames
  obtain ⟨hpassed, hgo⟩ := passed_of_pollSteps hrun houtside
  obtain ⟨newer, b', hrun', hpoll, hlength⟩ := hgo 6
  refine ⟨_, b', hrun', ?_⟩
  rw [hpassed newer b' hrun' hpoll hlength.ge, hevents]
  rfl

end NcsiResponder
