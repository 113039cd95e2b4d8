import Mathlib

/-!
# Transducers

A transducer reads its input one symbol at a time and emits any number of outputs for each.  It is
given by its step function alone, so that one machine may be run from several states and two
machines may be compared on one input.

`stateAfter` and `outputs` are the two halves of `feed`.  An output of a run is emitted at one of its
symbols (`mem_outputs_iff`), which splits the input there; most arguments about a run start from that
split.  `outputs_map` transports a run along a homomorphism.
-/

namespace Transducer

open List

variable {σ τ ι κ ο π : Type*}

/-- Run the machine over an input, collecting what it emits. -/
def feed (step : σ → ι → σ × List ο) : σ → List ι → σ × List ο
  | s, [] => (s, [])
  | s, x :: xs =>
    let now := step s x
    let later := feed step now.1 xs
    (later.1, now.2 ++ later.2)

/-- The state a run ends in. -/
def stateAfter (step : σ → ι → σ × List ο) (s : σ) (xs : List ι) : σ := (feed step s xs).1

/-- What a run emits. -/
def outputs (step : σ → ι → σ × List ο) (s : σ) (xs : List ι) : List ο := (feed step s xs).2

variable {step : σ → ι → σ × List ο}

@[simp] lemma stateAfter_nil (s : σ) : stateAfter step s [] = s := rfl

@[simp] lemma stateAfter_cons (s : σ) (x : ι) (xs : List ι) :
    stateAfter step s (x :: xs) = stateAfter step (step s x).1 xs := rfl

@[simp] lemma outputs_nil (s : σ) : outputs step s [] = [] := rfl

@[simp] lemma outputs_cons (s : σ) (x : ι) (xs : List ι) :
    outputs step s (x :: xs) = (step s x).2 ++ outputs step (step s x).1 xs := rfl

lemma stateAfter_append (s : σ) (xs ys : List ι) :
    stateAfter step s (xs ++ ys) = stateAfter step (stateAfter step s xs) ys := by
  induction xs generalizing s with
  | nil => rfl
  | cons x xs ih => exact ih _

lemma outputs_append (s : σ) (xs ys : List ι) :
    outputs step s (xs ++ ys) = outputs step s xs ++ outputs step (stateAfter step s xs) ys := by
  induction xs generalizing s with
  | nil => rfl
  | cons x xs ih => simp [ih]

variable {s : σ} {xs : List ι} {I : σ → Prop}

lemma mem_outputs_iff {o : ο} :
    o ∈ outputs step s xs ↔
      ∃ before x after, xs = before ++ x :: after ∧ o ∈ (step (stateAfter step s before) x).2 := by
  constructor
  · intro h
    induction xs generalizing s with
    | nil => simp at h
    | cons x xs ih =>
      rcases mem_append.1 h with h | h
      · exact ⟨[], x, xs, rfl, h⟩
      · obtain ⟨before, y, after, rfl, ho⟩ := ih h
        exact ⟨x :: before, y, after, rfl, ho⟩
  · rintro ⟨before, x, after, rfl, ho⟩
    rw [outputs_append, outputs_cons]
    exact mem_append_right _ (mem_append_left _ ho)

lemma stateAfter_invariant (hs : I s) (hstep : ∀ s, ∀ x ∈ xs, I s → I (step s x).1) :
    I (stateAfter step s xs) := by
  induction xs generalizing s with
  | nil => exact hs
  | cons x xs ih =>
    exact ih (hstep s x mem_cons_self hs) fun s y hy => hstep s y (mem_cons_of_mem _ hy)

/-- A state that no symbol of the input stirs. -/
lemma feed_of_still (h : ∀ x ∈ xs, step s x = (s, [])) : feed step s xs = (s, []) := by
  induction xs with
  | nil => rfl
  | cons x xs ih =>
    obtain ⟨hx, hxs⟩ := forall_mem_cons.1 h
    simp only [feed, hx, ih hxs, nil_append]

/-- Every step of a run is of a kind. -/
def Along (step : σ → ι → σ × List ο) (P : σ → ι → Prop) : σ → List ι → Prop
  | _, [] => True
  | s, x :: xs => P s x ∧ Along step P (step s x).1 xs

instance decidableAlong (step : σ → ι → σ × List ο) (P : σ → ι → Prop) [∀ s x, Decidable (P s x)] :
    ∀ s xs, Decidable (Along step P s xs)
  | _, [] => isTrue trivial
  | s, x :: xs =>
    have := decidableAlong step P (step s x).1 xs
    inferInstanceAs (Decidable (_ ∧ _))

lemma Along.outputs {P : σ → ι → Prop} {Q : ο → Prop} (h : Along step P s xs) (hs : I s)
    (hstep : ∀ s x, I s → P s x → I (step s x).1 ∧ ∀ o ∈ (step s x).2, Q o) :
    ∀ o ∈ outputs step s xs, Q o := by
  induction xs generalizing s with
  | nil =>
    intro o ho
    cases ho
  | cons x xs ih =>
    obtain ⟨hI, hQ⟩ := hstep s x hs h.1
    intro o ho
    rw [outputs_cons] at ho
    exact (mem_append.1 ho).elim (hQ o) (ih h.2 hI o)

section Homomorphism

variable {step' : τ → κ → τ × List π} {f : σ → τ} {g : ι → κ} {k : ο → π}

/-- A homomorphism of machines carries runs to runs. -/
lemma feed_map (h : ∀ s x, step' (f s) (g x) = (f (step s x).1, (step s x).2.map k)) (s : σ)
    (xs : List ι) :
    feed step' (f s) (xs.map g) = (f (feed step s xs).1, (feed step s xs).2.map k) := by
  induction xs generalizing s with
  | nil => rfl
  | cons x xs ih =>
    simp only [map_cons, feed, h]
    rw [ih]
    simp

lemma outputs_map (h : ∀ s x, step' (f s) (g x) = (f (step s x).1, (step s x).2.map k)) (s : σ)
    (xs : List ι) : outputs step' (f s) (xs.map g) = (outputs step s xs).map k := by
  simp only [outputs, feed_map h]

end Homomorphism

end Transducer
