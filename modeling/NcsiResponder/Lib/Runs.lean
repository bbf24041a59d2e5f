import Mathlib.Algebra.Ring.Nat
import Mathlib.Data.List.Nodup
import Mathlib.Tactic.Common

/-!
# Runs of a labelled transition system, with their history

A system is a step relation `step s op s'` over states and operations. A `Run`
keeps every step it took, newest first, so that a property may speak of what
happened before as well as of the state reached:

- **Invariants**: `Run.invariant` over every run, `Run.invariant_along` over the runs whose
  steps all meet a condition, `Run.along_iff` where that is what they depend on.
- **Prefixes**: every step of a history was taken from a state that the steps
  before it reach (`Run.of_suffix`, `Run.of_mem`).
- **Last writer**: a part of the state that each step either overwrites or keeps
  is what the newest overwriting step wrote (`Run.lastWriter`), counted from the
  last reset on where resets restore the default (`Run.lastWriter_since`).
- **Counters**: a counter that some steps zero and the others add to is the sum over the
  steps since it was last zeroed (`Run.counter_since`).
- **Simulations**: where each step acts on an abstraction of the state as an event or not
  at all, the abstraction has been through the events of the run (`Run.simulation_along`).
- **Progress**: where every step of a kind takes one off a rank, so many of them bring it to
  zero (`Run.rank_along`), and where one is always enabled there are as many as one likes
  (`Run.exists_longer`).
- **Invisible operations**: where the steps are a function, operations that an observer
  does not see can be dropped from a run (`foldl_filter_visible`) and swapped with one
  that it does (`foldl_swap_visible`).
- **Independent operations**: operations on different parts of the state can be taken in any
  order (`foldl_perm_of_nodup`).
- **Totality**: where no step is ever stuck, every sequence of operations has a
  run (`Run.exists_of_total`); where the steps are a partial function, playing operations
  that are all enabled extends a run (`Run.exists_of_foldlM`).
- **Faults**: where an operation either keeps the invariant or throws, and which of the two
  is known beforehand, so is what a sequence of them does (`forM_ok`, `forM_throws`).
-/

namespace Runs

/-- One step taken: the operation with the states around it. -/
structure Step (σ ι : Type*) where
  before : σ
  op : ι
  after : σ

variable {σ ι α : Type*}

/-- `Run step s₀ hist s`: the steps of `hist`, newest first, lead from `s₀` to `s`. -/
inductive Run (step : σ → ι → σ → Prop) (s₀ : σ) : List (Step σ ι) → σ → Prop
  | start : Run step s₀ [] s₀
  | next {hist : List (Step σ ι)} {s s' : σ} {op : ι} :
      Run step s₀ hist s → step s op s' → Run step s₀ (⟨s, op, s'⟩ :: hist) s'

variable {step : σ → ι → σ → Prop} {s₀ : σ}

namespace Run

/-! ## Invariants -/

/-- What holds at the start and is kept by every step holds after every run. -/
theorem invariant (Inv : σ → Prop) (hstart : Inv s₀)
    (hstep : ∀ s op s', Inv s → step s op s' → Inv s')
    {hist : List (Step σ ι)} {s : σ} (hrun : Run step s₀ hist s) : Inv s := by
  induction hrun with
  | start => exact hstart
  | next _ hs ih => exact hstep _ _ _ ih hs

/-- What every step that meets `Ok` keeps holds after a run of such steps. -/
theorem invariant_along (Inv : σ → Prop) (Ok : Step σ ι → Prop) (hstart : Inv s₀)
    (hstep : ∀ s op s', Inv s → step s op s' → Ok ⟨s, op, s'⟩ → Inv s')
    {hist : List (Step σ ι)} {s : σ} (hrun : Run step s₀ hist s)
    (hok : ∀ st ∈ hist, Ok st) : Inv s := by
  induction hrun with
  | start => exact hstart
  | next _ hs ih =>
    rw [List.forall_mem_cons] at hok
    exact hstep _ _ _ (ih hok.2) hs hok.1

/-- Where a step keeps what holds exactly when it meets `Ok`, every state of a run is
    good exactly when its steps all meet `Ok`. -/
theorem along_iff (Inv : σ → Prop) (Ok : Step σ ι → Prop) (hstart : Inv s₀)
    (hstep : ∀ (older : List (Step σ ι)) (s : σ) (op : ι) (s' : σ), Run step s₀ older s →
      Inv s → step s op s' → (Inv s' ↔ Ok ⟨s, op, s'⟩))
    {hist : List (Step σ ι)} {s : σ} (hrun : Run step s₀ hist s) :
    (∀ st ∈ hist, Inv st.after) ↔ ∀ st ∈ hist, Ok st := by
  induction hrun with
  | start => simp
  | @next hist s s' op hrun hs ih =>
    rw [List.forall_mem_cons, List.forall_mem_cons, ih]
    refine and_congr_left fun hok => ?_
    -- the steps so far are good, so the state they lead to is
    have hall := ih.mpr hok
    have hbefore : Inv s := by
      cases hrun with
      | start => exact hstart
      | next _ _ => exact hall _ List.mem_cons_self
    exact hstep hist s op s' hrun hbefore hs

/-! ## Prefixes -/

/-- The steps before a step of the history are a run to where it was taken. -/
theorem of_suffix {hist older : List (Step σ ι)} {st : Step σ ι} {s : σ}
    (hrun : Run step s₀ hist s) (hsuffix : st :: older <:+ hist) :
    Run step s₀ older st.before ∧ step st.before st.op st.after := by
  induction hrun with
  | start => simp at hsuffix
  | next hrun hs ih =>
    -- the step is the newest one, or lies further back
    rcases List.suffix_cons_iff.mp hsuffix with heq | hsuffix
    · obtain ⟨rfl, rfl⟩ := List.cons_eq_cons.mp heq
      exact ⟨hrun, hs⟩
    · exact ih hsuffix

/-- Every step of the history was taken from a state that some run reaches. -/
theorem of_mem {hist : List (Step σ ι)} {st : Step σ ι} {s : σ}
    (hrun : Run step s₀ hist s) (hmem : st ∈ hist) :
    ∃ older, st :: older <:+ hist ∧ Run step s₀ older st.before ∧
      step st.before st.op st.after := by
  obtain ⟨newer, older, rfl⟩ := List.append_of_mem hmem
  have hsuffix : st :: older <:+ newer ++ st :: older := List.suffix_append _ _
  exact ⟨older, hsuffix, hrun.of_suffix hsuffix⟩

/-! ## Last writer -/

/-- A part of the state that each step overwrites with `write` or keeps is what the
    newest overwriting step wrote. -/
theorem lastWriter (read : σ → α) (write : Step σ ι → Option α)
    (hstep : ∀ (older : List (Step σ ι)) (s : σ) (op : ι) (s' : σ), Run step s₀ older s →
      step s op s' → read s' = (write ⟨s, op, s'⟩).getD (read s))
    {hist : List (Step σ ι)} {s : σ} (hrun : Run step s₀ hist s) :
    read s = (hist.findSome? write).getD (read s₀) := by
  -- on the run: the newest step has written the part, or keeps what is there
  induction hrun with
  | start => rfl
  | @next hist s s' op hrun hs ih =>
    rw [hstep hist s op s' hrun hs, ih, List.findSome?_cons]
    cases write ⟨s, op, s'⟩ <;> rfl

/-- The steps taken since the last one that `reset` holds of. -/
def since (reset : Step σ ι → Bool) (hist : List (Step σ ι)) : List (Step σ ι) :=
  hist.takeWhile fun st => !reset st

/-- The last writer where some steps restore the default: only the steps since the
    last reset count. -/
theorem lastWriter_since (read : σ → α) (reset : Step σ ι → Bool) (write : Step σ ι → Option α)
    (hstep : ∀ (older : List (Step σ ι)) (s : σ) (op : ι) (s' : σ), Run step s₀ older s →
      step s op s' →
        read s' = if reset ⟨s, op, s'⟩ then read s₀ else (write ⟨s, op, s'⟩).getD (read s))
    {hist : List (Step σ ι)} {s : σ} (hrun : Run step s₀ hist s) :
    read s = ((since reset hist).findSome? write).getD (read s₀) := by
  induction hrun with
  | start => rfl
  | @next hist s s' op hrun hs ih =>
    rw [hstep hist s op s' hrun hs, ih, since, since, List.takeWhile_cons]
    -- a reset starts the count anew
    by_cases hreset : reset ⟨s, op, s'⟩
    · simp [hreset]
    · cases hwrite : write ⟨s, op, s'⟩ <;> simp [hreset, hwrite]

/-- The newest write is the one of the newest writing step. -/
theorem findSome?_eq_bind_find? {β : Type*} (write : β → Option α) (hist : List β) :
    hist.findSome? write = (hist.find? fun st => (write st).isSome).bind write := by
  induction hist with
  | nil => rfl
  | cons st hist ih =>
    cases hwrite : write st with
    | none => simpa [hwrite] using ih
    | some a => simp [hwrite]

/-- What is found since the last reset is the newest one of all. -/
theorem find?_of_since {reset event : Step σ ι → Bool} {hist : List (Step σ ι)} {st : Step σ ι}
    (hfind : (since reset hist).find? event = some st) : hist.find? event = some st := by
  rw [since] at hfind
  rw [← List.takeWhile_append_dropWhile (p := fun st => !reset st) (l := hist),
    List.find?_append, hfind, Option.some_or]

/-! ## Counters -/

/-- What the steps since the last zeroing one add up to, on top of what that one itself
    counted once it had zeroed. -/
def countSince (zeroes : Step σ ι → Bool) (counts own : Step σ ι → ℕ)
    (hist : List (Step σ ι)) : ℕ :=
  ((since zeroes hist).map counts).sum + ((hist.find? zeroes).map own).getD 0

theorem countSince_cons (zeroes : Step σ ι → Bool) (counts own : Step σ ι → ℕ)
    (st : Step σ ι) (hist : List (Step σ ι)) :
    countSince zeroes counts own (st :: hist) =
      if zeroes st then own st else countSince zeroes counts own hist + counts st := by
  rw [countSince, countSince, since, since, List.takeWhile_cons]
  by_cases hzeroes : zeroes st = true
  · simp [hzeroes]
  · simp only [hzeroes, Bool.not_false, Bool.false_eq_true, if_true, if_false,
      List.map_cons, List.sum_cons, List.find?_cons]
    omega

/-- Where a zeroing step counts nothing itself, only the steps since then count. -/
theorem countSince_eq_sum (zeroes : Step σ ι → Bool) (counts : Step σ ι → ℕ)
    (hist : List (Step σ ι)) :
    countSince zeroes counts (fun _ => 0) hist = ((since zeroes hist).map counts).sum := by
  rw [countSince]
  cases hist.find? zeroes <;> rfl

/-- Adding up one for each step that an event happens in counts these steps. -/
theorem sum_map_toNat {β : Type*} (event : β → Bool) (hist : List β) :
    (hist.map fun st => (event st).toNat).sum = hist.countP event := by
  induction hist with
  | nil => rfl
  | cons st hist ih =>
    rw [List.map_cons, List.sum_cons, ih, List.countP_cons, Nat.add_comm]
    cases event st <;> rfl

/-- A counter that each step zeroes or adds to, in any arithmetic that the naturals map
    into, counts what happened since it was last zeroed. -/
theorem counter_since [Add α] (cast : ℕ → α) (hadd : ∀ a b, cast (a + b) = cast a + cast b)
    (read : σ → α) (zeroes : Step σ ι → Bool) (counts own : Step σ ι → ℕ)
    (hstart : read s₀ = cast 0)
    (hstep : ∀ (older : List (Step σ ι)) (s : σ) (op : ι) (s' : σ), Run step s₀ older s →
      step s op s' →
        read s' = if zeroes ⟨s, op, s'⟩ then cast (own ⟨s, op, s'⟩)
          else read s + cast (counts ⟨s, op, s'⟩))
    {hist : List (Step σ ι)} {s : σ} (hrun : Run step s₀ hist s) :
    read s = cast (countSince zeroes counts own hist) := by
  induction hrun with
  | start => exact hstart
  | @next hist s s' op hrun hs ih =>
    rw [hstep hist s op s' hrun hs, countSince_cons, ih, ← hadd]
    split <;> rfl

/-! ## Totality -/

/-- Where an invariant keeps every operation enabled, every sequence of operations,
    newest first, is the one of some run. -/
theorem exists_of_total (Inv : σ → Prop) (hstart : Inv s₀)
    (hstep : ∀ s op s', Inv s → step s op s' → Inv s')
    (htotal : ∀ s op, Inv s → ∃ s', step s op s') (ops : List ι) :
    ∃ hist s, Run step s₀ hist s ∧ hist.map Step.op = ops := by
  -- on the operations, oldest innermost; the invariant of the run so far enables the next
  induction ops with
  | nil => exact ⟨[], s₀, .start, rfl⟩
  | cons op ops ih =>
    obtain ⟨hist, s, hrun, rfl⟩ := ih
    obtain ⟨s', hs⟩ := htotal s op (hrun.invariant Inv hstart hstep)
    exact ⟨⟨s, op, s'⟩ :: hist, s', hrun.next hs, rfl⟩

/-- Operations that a partial step function can play one after the other, oldest first,
    extend a run. -/
theorem exists_of_foldlM {next : σ → ι → Option σ}
    (hnext : ∀ s op s', next s op = some s' → step s op s') (ops : List ι) :
    ∀ {hist : List (Step σ ι)} {s s' : σ}, Run step s₀ hist s → ops.foldlM next s = some s' →
      ∃ newer, Run step s₀ (newer ++ hist) s' := by
  induction ops with
  | nil =>
    rintro hist s s' hrun ⟨⟩
    exact ⟨[], hrun⟩
  | cons op ops ih =>
    intro hist s s' hrun hplay
    obtain ⟨s₁, hs, hplay⟩ := Option.bind_eq_some_iff.mp hplay
    obtain ⟨newer, hrun'⟩ := ih (hrun.next (hnext s op s₁ hs)) hplay
    exact ⟨newer ++ [⟨s, op, s₁⟩], by rwa [List.append_assoc]⟩

/-! ## Simulations -/

/-- Where every step that meets `Ok` acts on an abstraction of the state as its event, if it
    has one, a run of such steps leaves what its events make of the initial abstraction. -/
theorem simulation_along {β ε : Type*} (abs : σ → β) (event : Step σ ι → Option ε)
    (react : β → ε → β) (Ok : Step σ ι → Prop)
    (hstep : ∀ (older : List (Step σ ι)) (s : σ) (op : ι) (s' : σ), Run step s₀ older s →
      step s op s' → Ok ⟨s, op, s'⟩ → (∀ st ∈ older, Ok st) →
        abs s' = ((event ⟨s, op, s'⟩).map (react (abs s))).getD (abs s))
    {hist : List (Step σ ι)} {s : σ} (hrun : Run step s₀ hist s) (hok : ∀ st ∈ hist, Ok st) :
    abs s = (hist.filterMap event).foldr (fun e b => react b e) (abs s₀) := by
  induction hrun with
  | start => rfl
  | @next hist s s' op hrun hs ih =>
    rw [List.forall_mem_cons] at hok
    rw [hstep hist s op s' hrun hs hok.1 hok.2, ih hok.2]
    -- a step without an event leaves the abstraction as it is
    cases hevent : event ⟨s, op, s'⟩ with
    | none => rw [List.filterMap_cons_none hevent]; rfl
    | some e => rw [List.filterMap_cons_some hevent]; rfl

/-! ## Progress -/

/-- Where every step that meets `Ok` takes one off the rank, so does a sequence of them. -/
theorem rank_along (rank : σ → ℕ) (Inv : σ → Prop) (Ok : Step σ ι → Prop)
    (hstep : ∀ s op s', Inv s → step s op s' → Ok ⟨s, op, s'⟩ → Inv s' ∧ rank s' = rank s - 1)
    {hist : List (Step σ ι)} {n : ℕ}
    (hhist : ∀ s, Run step s₀ hist s → Inv s ∧ rank s ≤ n) (newer : List (Step σ ι)) :
    ∀ {s : σ}, Run step s₀ (newer ++ hist) s → (∀ st ∈ newer, Ok st) →
      Inv s ∧ rank s ≤ n - newer.length := by
  induction newer with
  | nil => exact fun hrun _ => hhist _ hrun
  | cons st newer ih =>
    intro s hrun hok
    rw [List.forall_mem_cons] at hok
    cases hrun with
    | next hrun hs =>
      obtain ⟨hinv, hle⟩ := ih hrun hok.2
      obtain ⟨hinv', hrank⟩ := hstep _ _ _ hinv hs hok.1
      refine ⟨hinv', ?_⟩
      rw [hrank, List.length_cons]
      omega

/-- Where an operation that meets `Ok` is always enabled, a run has arbitrarily long
    continuations by such operations. -/
theorem exists_longer (Ok : ι → Prop)
    (hgo : ∀ hist s, Run step s₀ hist s → ∃ op s', Ok op ∧ step s op s')
    {hist : List (Step σ ι)} {s : σ} (hrun : Run step s₀ hist s) (n : ℕ) :
    ∃ newer s', Run step s₀ (newer ++ hist) s' ∧ (∀ st ∈ newer, Ok st.op) ∧
      newer.length = n := by
  induction n with
  | zero => exact ⟨[], s, hrun, by simp, rfl⟩
  | succ n ih =>
    obtain ⟨newer, s₁, hrun₁, hok, hlength⟩ := ih
    obtain ⟨op, s', hop, hs⟩ := hgo _ s₁ hrun₁
    refine ⟨⟨s₁, op, s'⟩ :: newer, s', hrun₁.next hs, ?_, by rw [List.length_cons, hlength]⟩
    exact List.forall_mem_cons.mpr ⟨hop, hok⟩

end Run

/-! ## Invisible operations -/

section Observations

variable {ω : Type*} (next : σ → ι → σ) (observe : σ → ω) (visible : ι → Bool) (Inv : σ → Prop)

/-- Where the next observation depends on the present one only, and an invisible operation
    leaves it as it is, a run without the invisible operations ends in the same one. -/
theorem foldl_filter_visible (hinv : ∀ s op, Inv s → Inv (next s op))
    (hcongr : ∀ s s' op, observe s = observe s' → observe (next s op) = observe (next s' op))
    (hinvisible : ∀ s op, Inv s → visible op = false → observe (next s op) = observe s)
    (ops : List ι) : ∀ s s', Inv s → Inv s' → observe s = observe s' →
      observe (ops.foldl next s) = observe ((ops.filter visible).foldl next s') := by
  induction ops with
  | nil => exact fun _ _ _ _ hsame => hsame
  | cons op ops ih =>
    intro s s' hs hs' hsame
    cases hvisible : visible op with
    | true =>
      rw [List.filter_cons_of_pos hvisible]
      exact ih _ _ (hinv s op hs) (hinv s' op hs') (hcongr s s' op hsame)
    | false =>
      rw [List.filter_cons_of_neg (by simp [hvisible])]
      exact ih _ _ (hinv s op hs) hs' ((hinvisible s op hs hvisible).trans hsame)

/-- Two neighbouring operations, not both visible, can change places. -/
theorem foldl_swap_visible (hinv : ∀ s op, Inv s → Inv (next s op))
    (hcongr : ∀ s s' op, observe s = observe s' → observe (next s op) = observe (next s' op))
    (hinvisible : ∀ s op, Inv s → visible op = false → observe (next s op) = observe s)
    {a b : ι} (hab : visible a = false ∨ visible b = false) (front back : List ι) {s : σ}
    (hs : Inv s) :
    observe ((front ++ a :: b :: back).foldl next s) =
      observe ((front ++ b :: a :: back).foldl next s) := by
  have hfilter : (front ++ a :: b :: back).filter visible =
      (front ++ b :: a :: back).filter visible := by
    rcases hab with h | h <;> simp [List.filter_cons, h]
  rw [foldl_filter_visible next observe visible Inv hinv hcongr hinvisible _ s s hs hs rfl,
    hfilter,
    ← foldl_filter_visible next observe visible Inv hinv hcongr hinvisible _ s s hs hs rfl]

end Observations

/-! ## Independent operations -/

/-- Operations on different parts of the state can be taken in any order, where operations on
    two parts commute. -/
theorem foldl_perm_of_nodup {κ : Type*} (next : σ → ι → σ) (part : ι → κ)
    (hcomm : ∀ s a b, part a ≠ part b → next (next s a) b = next (next s b) a)
    {ops ops' : List ι} (hperm : ops'.Perm ops) (hnodup : (ops.map part).Nodup) (s : σ) :
    ops'.foldl next s = ops.foldl next s := by
  refine (hperm.symm.foldl_eq' (fun a ha b hb s => ?_) s).symm
  by_cases hpart : part a = part b
  · rw [List.inj_on_of_nodup_map hnodup ha hb hpart]
  · exact hcomm s a b hpart

/-! ## Faults -/

section Faults

variable {ε : Type*} {f : ι → StateT σ (Except ε) PUnit} {Inv : σ → Prop} {bad : ι → Prop}

/-- Without a bad operation a sequence returns, with the invariant. -/
theorem forM_ok (hgood : ∀ s op, Inv s → ¬ bad op → ∃ s', f op s = .ok (⟨⟩, s') ∧ Inv s')
    (ops : List ι) : ∀ {s : σ}, Inv s → (∀ op ∈ ops, ¬ bad op) →
      ∃ s', forM ops f s = .ok (⟨⟩, s') ∧ Inv s' := by
  induction ops with
  | nil => exact fun {s} hs _ => ⟨s, rfl, hs⟩
  | cons op ops ih =>
    intro s hs hops
    rw [List.forall_mem_cons] at hops
    obtain ⟨s₁, hstep, hs₁⟩ := hgood s op hs hops.1
    obtain ⟨s', hrest, hs'⟩ := ih hs₁ hops.2
    refine ⟨s', ?_, hs'⟩
    calc (f op >>= fun _ => forM ops f) s
      _ = (f op s >>= fun p => forM ops f p.2) := rfl
      _ = forM ops f s₁ := by rw [hstep]; rfl
      _ = .ok (⟨⟩, s') := hrest

/-- With a bad one it throws what that one throws. -/
theorem forM_throws {e : ε}
    (hgood : ∀ s op, Inv s → ¬ bad op → ∃ s', f op s = .ok (⟨⟩, s') ∧ Inv s')
    (hbad : ∀ s op, Inv s → bad op → f op s = .error e)
    (ops : List ι) : ∀ {s : σ}, Inv s → (∃ op ∈ ops, bad op) → forM ops f s = .error e := by
  induction ops with
  | nil =>
    rintro s - ⟨op, hop, -⟩
    cases hop
  | cons op ops ih =>
    rintro s hs ⟨culprit, hmem, hculprit⟩
    change (f op s >>= fun p => forM ops f p.2) = .error e
    by_cases hop : bad op
    · rw [hbad s op hs hop]
      rfl
    · have hlater : culprit ∈ ops := by
        rcases List.mem_cons.mp hmem with rfl | hmem
        · exact absurd hculprit hop
        · exact hmem
      obtain ⟨s₁, hstep, hs₁⟩ := hgood s op hs hop
      rw [hstep]
      exact ih hs₁ ⟨culprit, hlater, hculprit⟩

end Faults

end Runs
