import Mathlib

/-!
# Redelivery into a deduplicating sink

Under at-least-once delivery a batch is handed to its processor again until it is acknowledged.  The
processor keeps a durable state and writes its outputs through a *sink* that claims a key for each
of them and drops the outputs whose key was claimed before.  A process may die after it has written
to the sink and before, while or after it has advanced the state, so that the next delivery may
start from a state that already accounts for the batch.

`Pending` describes what such deliveries leave.  As long as each of them shows no output that the
first one does not show (`Shown`), the delivery that completes ends where an undisturbed one would
(`Pending.accept`).
-/

namespace Redelivery

open List

variable {σ ι ο κ : Type}

/-! ## The sink -/

/-- The keys that are claimed, and the outputs that are written. -/
structure Sink (κ ο : Type) where
  claimed : List κ
  written : List ο

section Sink

variable [DecidableEq κ] (key : ο → κ)

/-- The outputs whose keys are free, where a key is claimed as it is met. -/
def fresh : List κ → List ο → List ο
  | _, [] => []
  | claimed, o :: os =>
    if key o ∈ claimed then fresh claimed os else o :: fresh (claimed ++ [key o]) os

/-- The keys that are claimed after an attempt to claim those of some outputs. -/
def claim : List κ → List ο → List κ
  | claimed, [] => claimed
  | claimed, o :: os => claim (if key o ∈ claimed then claimed else claimed ++ [key o]) os

/-- Write the outputs whose keys are free. -/
def Sink.take (s : Sink κ ο) (os : List ο) : Sink κ ο :=
  ⟨claim key s.claimed os, s.written ++ fresh key s.claimed os⟩

variable {key}

variable {os : List ο} {claimed : List κ}

lemma mem_claim {k : κ} : k ∈ claim key claimed os ↔ k ∈ claimed ∨ k ∈ os.map key := by
  induction os generalizing claimed with
  | nil => simp [claim]
  | cons o os ih =>
    rw [claim, ih]
    split
    · rename_i hkey
      simp only [map_cons, mem_cons]
      constructor
      · exact fun h => h.imp_right .inr
      · rintro (h | rfl | h)
        · exact .inl h
        · exact .inl hkey
        · exact .inr h
    · simp [or_assoc]

lemma claim_eq_self (h : ∀ o ∈ os, key o ∈ claimed) : claim key claimed os = claimed := by
  induction os with
  | nil => rfl
  | cons o os ih =>
    rw [claim, if_pos (h o mem_cons_self)]
    exact ih fun o ho => h o (mem_cons_of_mem _ ho)

lemma fresh_eq_nil (h : ∀ o ∈ os, key o ∈ claimed) : fresh key claimed os = [] := by
  induction os with
  | nil => rfl
  | cons o os ih =>
    rw [fresh, if_pos (h o mem_cons_self)]
    exact ih fun o ho => h o (mem_cons_of_mem _ ho)

lemma Sink.take_eq_self {s : Sink κ ο} (h : ∀ o ∈ os, key o ∈ s.claimed) : s.take key os = s := by
  simp [Sink.take, claim_eq_self h, fresh_eq_nil h]

end Sink

/-! ## The processor -/

/-- What a batch shows from a state, and the state it leads to. -/
structure Processor (σ ι ο : Type) where
  eval : σ → ι → List ο
  next : σ → ι → σ

variable [DecidableEq κ] (P : Processor σ ι ο) (key : ο → κ)

/-- The delivery of a batch that completes. -/
def accept (d : σ × Sink κ ο) (b : ι) : σ × Sink κ ο := (P.next d.1 b, d.2.take key (P.eval d.1 b))

/-- From the state of `d`, the batch shows nothing but what it shows from the state of `d₀`, or what
was written before. -/
def Shown (d₀ : σ × Sink κ ο) (b : ι) (d : σ × Sink κ ο) : Prop :=
  ∀ o ∈ P.eval d.1 b, key o ∈ d₀.2.claimed ∨ key o ∈ (P.eval d₀.1 b).map key

/-- What deliveries that did not complete may leave: the state before the batch, or a sink that has
the batch and a state from which the batch leads where it should. -/
def Pending (d₀ : σ × Sink κ ο) (b : ι) (d : σ × Sink κ ο) : Prop :=
  d = d₀ ∨ d.2 = (accept P key d₀ b).2 ∧ P.next d.1 b = P.next d₀.1 b

variable {P key} {d₀ d : σ × Sink κ ο} {b : ι}

/-- The sink has the batch after a delivery that got that far. -/
lemma Pending.take (h : Pending P key d₀ b d) (hshown : Shown P key d₀ b d) :
    d.2.take key (P.eval d.1 b) = (accept P key d₀ b).2 := by
  rcases h with rfl | ⟨hsink, -⟩
  · rfl
  · rw [hsink]
    refine Sink.take_eq_self fun o ho => ?_
    exact mem_claim.2 (hshown o ho)

/-- A delivery that dies once the sink has the batch stays pending, whatever it has saved of a state
from which the batch leads on as before. -/
lemma Pending.written (h : Pending P key d₀ b d) (hshown : Shown P key d₀ b d) {s : σ}
    (hs : P.next s b = P.next d.1 b) :
    Pending P key d₀ b (s, d.2.take key (P.eval d.1 b)) := by
  refine .inr ⟨h.take hshown, hs.trans ?_⟩
  rcases h with rfl | ⟨-, hnext⟩
  · rfl
  · exact hnext

/-- **The delivery that completes** ends where an undisturbed one does. -/
lemma Pending.accept (h : Pending P key d₀ b d) (hshown : Shown P key d₀ b d) :
    accept P key d b = accept P key d₀ b := by
  refine Prod.ext ?_ (h.take hshown)
  rcases h with rfl | ⟨-, hnext⟩
  · rfl
  · exact hnext

end Redelivery
