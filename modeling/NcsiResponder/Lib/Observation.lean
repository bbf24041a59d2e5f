import Mathlib.Tactic.Common

/-!
# Telling states apart

A deterministic machine takes an operation, gives an output and moves on. Two states are
indistinguishable when every sequence of operations gives the same outputs from both. A
relation that outputs and steps respect implies that (`indistinguishable_of_congr`), and
indistinguishable states stay so, whatever is done to both (`Indistinguishable.play`): so
it is refuted by any experiment that ends in different outputs.
-/

namespace Observation

variable {σ ι ω : Type*} (next : σ → ι → σ) (output : σ → ι → ω)

/-- The outputs of a sequence of operations. -/
def outputs : σ → List ι → List ω
  | _, [] => []
  | s, op :: ops => output s op :: outputs (next s op) ops

/-- No sequence of operations tells the two states apart. -/
def Indistinguishable (s s' : σ) : Prop :=
  ∀ ops, outputs next output s ops = outputs next output s' ops

variable {next output} {s s' : σ}

/-- What outputs and steps respect is not told apart. -/
theorem indistinguishable_of_congr (R : σ → σ → Prop)
    (houtput : ∀ s s' op, R s s' → output s op = output s' op)
    (hnext : ∀ s s' op, R s s' → R (next s op) (next s' op)) (h : R s s') :
    Indistinguishable next output s s' := by
  intro ops
  induction ops generalizing s s' with
  | nil => rfl
  | cons op ops ih => rw [outputs, outputs, houtput s s' op h, ih (hnext s s' op h)]

namespace Indistinguishable

variable (h : Indistinguishable next output s s')

include h

theorem output_eq (op : ι) : output s op = output s' op :=
  (List.cons_eq_cons.mp (h [op])).1

theorem step (op : ι) : Indistinguishable next output (next s op) (next s' op) :=
  fun ops => (List.cons_eq_cons.mp (h (op :: ops))).2

/-- Indistinguishable states stay so under every experiment. -/
theorem play (ops : List ι) :
    Indistinguishable next output (ops.foldl next s) (ops.foldl next s') := by
  induction ops generalizing s s' with
  | nil => exact h
  | cons op ops ih => exact ih (h.step op)

end Indistinguishable

end Observation
