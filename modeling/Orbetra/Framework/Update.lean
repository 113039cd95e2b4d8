import Mathlib

/-!
# Reading an updated function

A value that is read off an updated function is the new one, or one that was there before. -/

namespace Function

variable {ι α : Type} [DecidableEq ι] {f : ι → α} {g : ι → Option α} {i j : ι} {a b : α}

lemma update_eq_cases (h : update f i b j = a) : j = i ∧ b = a ∨ j ≠ i ∧ f j = a := by
  by_cases hj : j = i
  · subst hj
    exact .inl ⟨rfl, (update_self ..).symm.trans h⟩
  · exact .inr ⟨hj, (update_of_ne hj ..).symm.trans h⟩

lemma update_none_eq_some : update g i none j = some a ↔ j ≠ i ∧ g j = some a := by
  by_cases hj : j = i <;> simp [hj]

lemma update_some_eq_some :
    update g i (some b) j = some a ↔ j = i ∧ b = a ∨ j ≠ i ∧ g j = some a := by
  by_cases hj : j = i <;> simp [hj]

end Function
