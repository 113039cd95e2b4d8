import Mathlib

/-!
# Spacing by one marker

A filter that lets a point pass when it is at least a gap away from a *marker*, the last point that
passed.  The marker may be forgotten at any time.  Every pair of the output is a gap apart exactly
when no point comes close to an older output without being close to the marker (`Tracks`).

An input is a point, or `none` where the marker is forgotten; outputs are listed newest first.
-/

namespace Spacing

open List

variable {α β : Type*} [AddCommGroup α] [LinearOrder α] [LinearOrder β]

/-- Two points are closer than the gap; `scale` measures a distance. -/
def Near (scale : α → β) (gap : β) (x y : α) : Prop := scale |x - y| < gap

instance (scale : α → β) (gap : β) (x y : α) : Decidable (Near scale gap x y) :=
  inferInstanceAs (Decidable (_ < _))

/-- The marker, and what has passed. -/
structure Filter (α : Type*) where
  marker : Option α
  passed : List α

variable (scale : α → β) (gap : β)

def Holds (marker : Option α) (x : α) : Prop := ∃ m ∈ marker, Near scale gap x m

instance (marker : Option α) (x : α) : Decidable (Holds scale gap marker x) :=
  decidable_of_iff (marker.any fun m => Near scale gap x m) (by
    cases marker <;> simp [Holds])

/-- One input. -/
def Filter.step (s : Filter α) : Option α → Filter α
  | none => { s with marker := none }
  | some x => if Holds scale gap s.marker x then s else ⟨some x, x :: s.passed⟩

/-- Any two outputs are a gap apart. -/
def Spaced (passed : List α) : Prop := passed.Pairwise fun x y => ¬ Near scale gap x y

/-- A point that comes close to an output is held back by the marker. -/
def Tracks (s : Filter α) : Option α → Prop
  | none => True
  | some x => (∃ y ∈ s.passed, Near scale gap x y) → Holds scale gap s.marker x

/-- At every input of a run, the marker stands for all outputs. -/
def TracksAll (s : Filter α) : List (Option α) → Prop
  | [] => True
  | x :: xs => Tracks scale gap s x ∧ TracksAll (s.step scale gap x) xs

instance (s : Filter α) : (x : Option α) → Decidable (Tracks scale gap s x)
  | none => .isTrue trivial
  | some x => inferInstanceAs (Decidable ((∃ y ∈ s.passed, Near scale gap x y) → _))

instance decidableTracksAll : (s : Filter α) → (xs : List (Option α)) →
    Decidable (TracksAll scale gap s xs)
  | _, [] => .isTrue trivial
  | s, x :: xs => @instDecidableAnd _ _ _ (decidableTracksAll (s.step scale gap x) xs)

variable {scale gap} {s : Filter α} {x : Option α} {xs : List (Option α)}

/-- One input keeps the outputs spaced exactly when the marker stands for all of them. -/
lemma spaced_step_iff (h : Spaced scale gap s.passed) :
    Spaced scale gap (s.step scale gap x).passed ↔ Tracks scale gap s x := by
  cases x with
  | none => exact iff_of_true h trivial
  | some x =>
    by_cases hheld : Holds scale gap s.marker x
    · simp only [Filter.step, Tracks, if_pos hheld]
      exact iff_of_true h fun _ => hheld
    · simp only [Filter.step, Tracks, hheld, if_false, imp_false, not_exists, not_and, Spaced,
        pairwise_cons]
      exact and_iff_left h

lemma passed_suffix_foldl (xs : List (Option α)) (s : Filter α) :
    s.passed <:+ (xs.foldl (Filter.step scale gap) s).passed := by
  induction xs generalizing s with
  | nil => exact suffix_rfl
  | cons x xs ih =>
    refine IsSuffix.trans ?_ (ih _)
    cases x with
    | none => exact suffix_rfl
    | some x =>
      by_cases hheld : Holds scale gap s.marker x
      · simp only [Filter.step, if_pos hheld]
        exact suffix_rfl
      · simp only [Filter.step, if_neg hheld]
        exact suffix_cons x s.passed

/-- **One marker spaces a run** exactly when it stands, at every input, for all outputs so far. -/
theorem spaced_foldl_iff (h : Spaced scale gap s.passed) :
    Spaced scale gap (xs.foldl (Filter.step scale gap) s).passed ↔ TracksAll scale gap s xs := by
  induction xs generalizing s with
  | nil => exact iff_of_true h trivial
  | cons x xs ih =>
    rw [foldl_cons, TracksAll]
    constructor
    · intro hspaced
      have hstep : Spaced scale gap (s.step scale gap x).passed :=
        hspaced.sublist (passed_suffix_foldl xs _).sublist
      exact ⟨(spaced_step_iff h).1 hstep, (ih hstep).1 hspaced⟩
    · intro ⟨hx, hxs⟩
      exact (ih ((spaced_step_iff h).2 hx)).2 hxs

end Spacing
