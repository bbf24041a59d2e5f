import Mathlib.Data.Nat.Find

/-!
# Bounded busy waits

The loop `while (!done() && --budget)` asks a device again and again, at most `budget`
times. `check` is one evaluation of its condition, `spin` the whole loop against a device
whose `i`-th answer is `done i`. What the loop comes to is told by what is left of the
budget (`spin_left_pos_iff`), and it never asks more often than the budget allows
(`spin_asked_le`).
-/

namespace BoundedWait

/-- What an evaluation of the loop condition leads to: another one, or the end of the loop
    with what is left of the budget. -/
inductive Check where
  | again (left : ℕ)
  | ends (left : ℕ)
  deriving DecidableEq

/-- `!done() && --budget` -/
def check (done : Bool) (budget : ℕ) : Check :=
  if done then .ends budget
  else if budget - 1 = 0 then .ends 0
  else .again (budget - 1)

theorem check_true (budget : ℕ) : check true budget = .ends budget := rfl

theorem check_last : check false 1 = .ends 0 := rfl

theorem check_again {budget : ℕ} (h : 1 < budget) : check false budget = .again (budget - 1) := by
  have hleft : budget - 1 ≠ 0 := by omega
  simp [check, hleft]

theorem check_again_pos {done : Bool} {budget left : ℕ} (h : check done budget = .again left) :
    0 < left := by
  rw [check] at h
  split at h
  · cases h
  split at h
  · cases h
  · next hleft =>
    obtain rfl := Check.again.inj h
    exact Nat.pos_of_ne_zero hleft

section Loop

variable (done : ℕ → Bool)

/-- The loop from the `i`-th answer on: how many answers it has taken in the end, and what
    is left of the budget. -/
def spin : ℕ → ℕ → ℕ × ℕ
  | i, 0 => (i, 0)
  | i, budget + 1 => if done i then (i + 1, budget + 1) else spin (i + 1) budget

/-- The loop, one evaluation of its condition at a time. -/
theorem spin_eq_check (i : ℕ) {budget : ℕ} (h : 0 < budget) :
    spin done i budget =
      match check (done i) budget with
      | .again left => spin done (i + 1) left
      | .ends left => (i + 1, left) := by
  obtain ⟨n, rfl⟩ := Nat.exists_eq_succ_of_ne_zero (Nat.pos_iff_ne_zero.mp h)
  cases hdone : done i with
  | true => simp [spin, check, hdone]
  | false =>
    -- the last decrement ends the loop, every other one goes on
    cases n with
    | zero => simp [spin, check, hdone]
    | succ n => simp [spin, check, hdone]

/-- No more answers are taken than the budget allows. -/
theorem spin_asked_le (budget : ℕ) : ∀ i, (spin done i budget).1 ≤ i + budget := by
  induction budget with
  | zero => exact fun i => Nat.le_refl i
  | succ budget ih =>
    intro i
    rw [spin]
    split
    · exact Nat.add_le_add_left (Nat.succ_le_succ (Nat.zero_le budget)) i
    · have hrest := ih (i + 1)
      omega

/-- A device that is done at the `k`-th answer and not before ends the loop there. -/
theorem spin_of_first {k : ℕ} (hdone : done k = true) :
    ∀ {i budget : ℕ}, i ≤ k → k < i + budget → (∀ j, i ≤ j → j < k → done j = false) →
      spin done i budget = (k + 1, budget - (k - i)) := by
  intro i budget
  induction budget generalizing i with
  | zero => intro hik hk _; omega
  | succ budget ih =>
    intro hik hk hbefore
    rcases Nat.eq_or_lt_of_le hik with rfl | hlt
    · simp [spin, hdone]
    · rw [spin, hbefore i (Nat.le_refl i) hlt, if_neg (by decide),
        ih (Nat.succ_le_of_lt hlt) (by omega) fun j hj => hbefore j (by omega)]
      congr 1
      omega

/-- A device that is not done within the budget uses it up. -/
theorem spin_of_never {budget : ℕ} : ∀ {i : ℕ}, (∀ j, i ≤ j → j < i + budget → done j = false) →
    spin done i budget = (i + budget, 0) := by
  induction budget with
  | zero => exact fun _ => rfl
  | succ budget ih =>
    intro i hnever
    rw [spin, hnever i (Nat.le_refl i) (by omega), if_neg (by decide),
      ih fun j hj hlt => hnever j (by omega) (by omega)]
    congr 1
    omega

/-- Something is left of the budget exactly when the device was done in time. -/
theorem spin_left_pos_iff (i budget : ℕ) :
    (spin done i budget).2 ≠ 0 ↔ ∃ k, i ≤ k ∧ k < i + budget ∧ done k = true := by
  constructor
  · intro hleft
    by_contra hnever
    refine hleft (congrArg Prod.snd (spin_of_never done fun j hj hlt => ?_))
    rw [← Bool.not_eq_true]
    exact fun hdone => hnever ⟨j, hj, hlt, hdone⟩
  · intro hex
    -- the first answer in time
    obtain ⟨hik, hlt, hdone⟩ := Nat.find_spec hex
    have hfirst : ∀ j, i ≤ j → j < Nat.find hex → done j = false := by
      intro j hj hbefore
      rw [← Bool.not_eq_true]
      exact fun h => Nat.find_min hex hbefore ⟨hj, by omega, h⟩
    rw [spin_of_first done hdone hik hlt hfirst]
    exact Nat.sub_ne_zero_of_lt (by omega)

end Loop

end BoundedWait
