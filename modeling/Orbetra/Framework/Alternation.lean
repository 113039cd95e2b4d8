import Orbetra.Framework.Transducer

/-!
# Alternation

A position changes from one value to another; the list of the values it takes is an *alternation*
when each of them differs from the one before.  A machine that shows every change of its position
shows an alternation, from the position it starts at to the one it ends at.
-/

/-- From `a`, the values of the list are taken one after another, each another than the one before.
The last of them is `b`. -/
inductive Alternation {π : Type*} : π → List π → π → Prop
  | nil (a : π) : Alternation a [] a
  | cons {a b c : π} {l : List π} (hne : a ≠ b) (rest : Alternation b l c) : Alternation a (b :: l) c

namespace Alternation

variable {π σ ι ο : Type*} {a b c : π} {l l' : List π}

lemma append (h : Alternation a l b) (h' : Alternation b l' c) : Alternation a (l ++ l') c := by
  induction h with
  | nil a => exact h'
  | cons hne _ ih => exact cons hne (ih h')

/-- **A machine that shows every change of its position** shows an alternation. -/
lemma outputs (step : σ → ι → σ × List ο) (pos : σ → π) {shown : ο → Option π} {xs : List ι}
    (h : ∀ s, ∀ x ∈ xs, Alternation (pos s) ((step s x).2.filterMap shown) (pos (step s x).1))
    (s : σ) : Alternation (pos s) ((Transducer.outputs step s xs).filterMap shown)
      (pos (Transducer.stateAfter step s xs)) := by
  induction xs generalizing s with
  | nil => exact nil _
  | cons x xs ih =>
    obtain ⟨hx, hxs⟩ := List.forall_mem_cons.1 fun y hy s => h s y hy
    rw [Transducer.outputs_cons, List.filterMap_append]
    exact (hx s).append (ih (fun s y hy => hxs y hy s) _)

end Alternation
