import Mathlib.Tactic.Common

/-!
# Reversing the groups of a list

A list is cut into groups of `w` elements, and each full group is reversed; what is left
over at the end stays as it is. On the positions this is a permutation, `index`, that is
its own inverse, and so is `reverse` on lists.
-/

namespace Groups

/-- Where the element at position `i` of the reversed groups comes from, in a list of
    length `n`. -/
def index (w n i : ℕ) : ℕ := if i < n / w * w then i / w * w + (w - 1 - i % w) else i

variable {w n i : ℕ}

/-- A position of a full group. -/
theorem group_lt {g j : ℕ} (hg : g < n / w) (hj : j < w) : g * w + j < n / w * w := by
  calc g * w + j
    _ < g * w + w := Nat.add_lt_add_left hj _
    _ = (g + 1) * w := (Nat.succ_mul g w).symm
    _ ≤ n / w * w := Nat.mul_le_mul_right w hg

/-- In a full group the order is reversed. -/
theorem index_group {g j : ℕ} (hg : g < n / w) (hj : j < w) :
    index w n (g * w + j) = g * w + (w - 1 - j) := by
  have hw : 0 < w := Nat.zero_lt_of_lt hj
  have hdiv : (g * w + j) / w = g := by
    rw [Nat.mul_comm, Nat.mul_add_div hw, Nat.div_eq_of_lt hj, Nat.add_zero]
  have hmod : (g * w + j) % w = j := by
    rw [Nat.mul_comm, Nat.mul_add_mod, Nat.mod_eq_of_lt hj]
  rw [index, if_pos (group_lt hg hj), hdiv, hmod]

/-- Behind the last full group nothing moves. -/
theorem index_tail (h : n / w * w ≤ i) : index w n i = i := if_neg (Nat.not_lt.mpr h)

/-- A position lies in a full group, or behind all of them. -/
theorem group_or_tail (w n i : ℕ) :
    (∃ g j, g < n / w ∧ j < w ∧ i = g * w + j) ∨ n / w * w ≤ i := by
  rcases Nat.lt_or_ge i (n / w * w) with hlt | hge
  · have hw : 0 < w := by
      apply Nat.pos_of_ne_zero
      rintro rfl
      exact Nat.not_lt_zero i hlt
    exact .inl ⟨i / w, i % w, (Nat.div_lt_iff_lt_mul hw).mpr hlt, Nat.mod_lt i hw,
      (Nat.div_add_mod' i w).symm⟩
  · exact .inr hge

theorem index_lt (h : i < n) : index w n i < n := by
  rcases group_or_tail w n i with ⟨g, j, hg, hj, rfl⟩ | htail
  · rw [index_group hg hj]
    exact Nat.lt_of_lt_of_le (group_lt hg (by omega)) (Nat.div_mul_le_self n w)
  · rw [index_tail htail]
    exact h

/-- Reversing twice leads back. -/
theorem index_index (w n i : ℕ) : index w n (index w n i) = i := by
  rcases group_or_tail w n i with ⟨g, j, hg, hj, rfl⟩ | htail
  · rw [index_group hg hj, index_group hg (by omega)]
    congr 1
    omega
  · rw [index_tail htail, index_tail htail]

section Lists

variable {α : Type*}

/-- The list with every full group of `w` elements reversed. -/
def reverse (w : ℕ) (l : List α) : List α :=
  List.ofFn fun i : Fin l.length => l.get ⟨index w l.length i, index_lt i.isLt⟩

@[simp] theorem length_reverse (w : ℕ) (l : List α) : (reverse w l).length = l.length :=
  List.length_ofFn

theorem getElem?_reverse {l : List α} (h : i < l.length) :
    (reverse w l)[i]? = l[index w l.length i]? := by
  have hsource : index w l.length i < l.length := index_lt h
  unfold reverse
  rw [List.getElem?_ofFn, dif_pos h, List.getElem?_eq_getElem hsource]
  rfl

/-- Inside a full group the order is reversed. -/
theorem getElem?_reverse_group {l : List α} {g j : ℕ} (hg : g < l.length / w) (hj : j < w) :
    (reverse w l)[g * w + j]? = l[g * w + (w - 1 - j)]? := by
  have hlt : g * w + j < l.length :=
    Nat.lt_of_lt_of_le (group_lt hg hj) (Nat.div_mul_le_self l.length w)
  rw [getElem?_reverse hlt, index_group hg hj]

/-- Behind the full groups nothing changes. -/
theorem getElem?_reverse_tail {l : List α} (h : l.length / w * w ≤ i) :
    (reverse w l)[i]? = l[i]? := by
  rcases Nat.lt_or_ge i l.length with hlt | hge
  · rw [getElem?_reverse hlt, index_tail h]
  · rw [List.getElem?_eq_none hge, List.getElem?_eq_none (by rwa [length_reverse])]

/-- **Reversing the groups twice gives the list back.** -/
theorem reverse_reverse (w : ℕ) (l : List α) : reverse w (reverse w l) = l := by
  apply List.ext_getElem?
  intro i
  rcases Nat.lt_or_ge i l.length with hlt | hge
  · rw [getElem?_reverse (by rwa [length_reverse]), length_reverse,
      getElem?_reverse (index_lt hlt), index_index]
  · rw [List.getElem?_eq_none hge, List.getElem?_eq_none (by simpa using hge)]

end Lists

end Groups
