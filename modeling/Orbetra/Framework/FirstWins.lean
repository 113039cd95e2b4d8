import Mathlib

/-!
# Loops in which the first one wins

A loop looks at a part `view` of its state.  An element that concerns this part (`hits`) sets it
once, and closes it; every other element leaves it alone.  Such a loop ends where the first element
that hits has led (`foldl_first`).

`List.eraseDups`, which keeps the first of equal elements, leaves none twice.
-/

lemma nodup_eraseDups {α : Type*} [BEq α] [LawfulBEq α] (l : List α) : l.eraseDups.Nodup := by
  match l with
  | [] => exact List.nodup_nil
  | a :: l =>
    have hlength : (l.filter fun b => !b == a).length < l.length + 1 :=
      Nat.lt_succ_of_le (List.length_filter_le _ _)
    rw [List.eraseDups_cons, List.nodup_cons, List.mem_eraseDups]
    exact ⟨by simp, nodup_eraseDups _⟩
termination_by l.length

/-- The loop sets the part once. -/
structure FirstWins {σ τ ι : Type*} (step : σ → ι → σ) (view : σ → τ) (closed : τ → Bool)
    (hits : ι → Bool) (next : ι → τ → τ) : Prop where
  closes : ∀ x t, hits x → closed (next x t)
  step : ∀ s x, view (step s x) = if hits x && !closed (view s) then next x (view s) else view s

namespace FirstWins

variable {σ τ ι : Type*} {step : σ → ι → σ} {view : σ → τ} {closed : τ → Bool} {hits : ι → Bool}
  {next : ι → τ → τ}

lemma foldl_closed (h : FirstWins step view closed hits next) {s : σ} (hs : closed (view s))
    (xs : List ι) : view (xs.foldl step s) = view s := by
  induction xs generalizing s with
  | nil => rfl
  | cons x xs ih =>
    have hx : view (step s x) = view s := by
      rw [h.step, if_neg (by simp [hs])]
    rw [List.foldl_cons, ih (hx ▸ hs), hx]

/-- **The first element that hits** decides. -/
lemma foldl_first (h : FirstWins step view closed hits next) (xs : List ι) (s : σ) :
    view (xs.foldl step s) =
      if closed (view s) then view s else (xs.find? hits).elim (view s) fun x => next x (view s) := by
  cases hs : closed (view s) with
  | true => exact h.foldl_closed hs xs
  | false =>
    rw [if_neg Bool.false_ne_true]
    induction xs generalizing s with
    | nil => rfl
    | cons x xs ih =>
      have hx := h.step s x
      rw [List.foldl_cons, List.find?_cons]
      cases hhit : hits x with
      | true =>
        rw [if_pos (by simp [hhit, hs])] at hx
        exact (h.foldl_closed (hx ▸ h.closes x (view s) hhit) xs).trans hx
      | false =>
        rw [if_neg (by simp [hhit])] at hx
        rw [ih (step s x) (hx ▸ hs), hx]

end FirstWins
