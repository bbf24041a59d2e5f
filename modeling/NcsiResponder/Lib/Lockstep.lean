import Mathlib.Tactic.Common

/-!
# Two machines side by side

Two machines are fed the same inputs. On each input a machine gives an output and moves
on, or stops for good. Where a relation of their states decides, input by input, whether
both do the same (`hsame`), and is kept while they do (`hkeep`), their traces are equal
exactly when no input that the two come to makes a difference (`trace_eq_iff`).
-/

namespace Lockstep

variable {σ τ ι ω : Type*}

/-- The outputs of a machine, up to the input it stops on. -/
def trace (step : σ → ι → Option (ω × σ)) : σ → List ι → List (Option ω)
  | _, [] => []
  | s, i :: is =>
    match step s i with
    | none => [none]
    | some (o, s') => some o :: trace step s' is

/-- The inputs two machines come to together, each with the states it finds them in. -/
def visited (step : σ → ι → Option (ω × σ)) (step' : τ → ι → Option (ω × τ)) :
    σ → τ → List ι → List (σ × τ × ι)
  | _, _, [] => []
  | s, t, i :: is =>
    (s, t, i) ::
      match step s i, step' t i with
      | some (_, s'), some (_, t') => visited step step' s' t' is
      | _, _ => []

variable {step : σ → ι → Option (ω × σ)} {step' : τ → ι → Option (ω × τ)}

/-- What the two come to is among the inputs. -/
theorem mem_of_visited {s : σ} {t : τ} {i : ι} (is : List ι) : ∀ {s₀ : σ} {t₀ : τ},
    (s, t, i) ∈ visited step step' s₀ t₀ is → i ∈ is := by
  induction is with
  | nil => exact fun h => absurd h List.not_mem_nil
  | cons j is ih =>
    intro s₀ t₀ h
    rw [visited] at h
    rcases List.mem_cons.mp h with heq | h
    · obtain ⟨-, -, rfl⟩ := heq
      exact List.mem_cons_self
    split at h
    · exact List.mem_cons_of_mem _ (ih h)
    · exact absurd h List.not_mem_nil

/-- The traces are equal until an input makes a difference, and no longer. -/
theorem trace_eq_iff (R : σ → τ → Prop) (Same : σ → τ → ι → Prop)
    (hsame : ∀ s t i, R s t → ((step s i).map Prod.fst = (step' t i).map Prod.fst ↔ Same s t i))
    (hkeep : ∀ s t i o s' t', R s t → step s i = some (o, s') → step' t i = some (o, t') → R s' t')
    (is : List ι) : ∀ {s : σ} {t : τ}, R s t →
      (trace step s is = trace step' t is ↔
        ∀ p ∈ visited step step' s t is, Same p.1 p.2.1 p.2.2) := by
  induction is with
  | nil => exact fun _ => iff_of_true rfl fun p hp => absurd hp List.not_mem_nil
  | cons i is ih =>
    intro s t h
    have hfirst := hsame s t i h
    rw [trace, trace, visited, List.forall_mem_cons, ← hfirst]
    cases hs : step s i with
    | none =>
      cases ht : step' t i with
      | none => simp
      | some p => simp
    | some p =>
      obtain ⟨o, s'⟩ := p
      cases ht : step' t i with
      | none => simp
      | some p' =>
        obtain ⟨o', t'⟩ := p'
        simp only [List.cons.injEq, Option.some.injEq, Option.map_some]
        -- the rest is compared only where the outputs are the same
        refine and_congr_right fun ho => ?_
        subst ho
        exact ih (hkeep s t i o s' t' h hs ht)

end Lockstep
