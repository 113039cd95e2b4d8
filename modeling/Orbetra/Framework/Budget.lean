import Mathlib

/-!
# A counter that admits, and hands back

A counter goes up by one for each attempt, which is admitted where the new value is within a limit.
An attempt may be handed back, which takes one off a counter that is above zero.

Over any stretch of the counter's life, the attempts that are admitted and not handed back are no
more than the limit, and those that were under way when the stretch began
(`Tallied.length_le`). -/

/-- An attempt is counted, and finds the counter at a value; or it is handed back. -/
inductive CounterEvent (ι : Type)
  | counted (attempt : ι) (value : ℕ)
  | refunded (attempt : ι)
  deriving DecidableEq

variable {ι : Type}

def admitted (limit : ℕ) (events : List (CounterEvent ι)) : List ι :=
  events.filterMap fun
    | .counted attempt value => if value ≤ limit then some attempt else none
    | .refunded _ => none

/-- The attempts that are handed back. -/
def refunds (events : List (CounterEvent ι)) : List ι :=
  events.filterMap fun
    | .counted _ _ => none
    | .refunded attempt => some attempt

section Last

variable (limit : ℕ) (events : List (CounterEvent ι)) (attempt : ι) (value : ℕ)

lemma admitted_counted : admitted limit (events ++ [.counted attempt value]) =
    admitted limit events ++ if value ≤ limit then [attempt] else [] := by
  unfold admitted
  rw [List.filterMap_append]
  by_cases hvalue : value ≤ limit
  · simp [hvalue]
  · simp [hvalue]

lemma admitted_refunded :
    admitted limit (events ++ [.refunded attempt]) = admitted limit events := by
  unfold admitted
  rw [List.filterMap_append]
  exact List.append_nil _

lemma refunds_counted : refunds (events ++ [.counted attempt value]) = refunds events := by
  unfold refunds
  rw [List.filterMap_append]
  exact List.append_nil _

lemma refunds_refunded : refunds (events ++ [.refunded attempt]) = refunds events ++ [attempt] := by
  unfold refunds
  rw [List.filterMap_append]
  rfl

end Last

inductive Tallied (v : ℕ) : List (CounterEvent ι) → ℕ → Prop
  | nil : Tallied v [] v
  | counted {v' : ℕ} {events : List (CounterEvent ι)} (attempt : ι) (h : Tallied v events v') :
      Tallied v (events ++ [.counted attempt (v' + 1)]) (v' + 1)
  | refunded {v' : ℕ} {events : List (CounterEvent ι)} (attempt : ι) (h : Tallied v events v') :
      Tallied v (events ++ [.refunded attempt]) (v' - 1)

namespace Tallied

open List

variable {limit v v' : ℕ} {events : List (CounterEvent ι)}

/-- The counter does not fall behind the attempts that it has admitted, but for those that were
handed back. -/
lemma admitted_le (h : Tallied v events v') :
    (admitted limit events).length ≤ v' + (refunds events).length ∧
      (admitted limit events).length ≤ limit + (refunds events).length := by
  induction h with
  | nil => exact ⟨Nat.zero_le _, Nat.zero_le _⟩
  | @counted v' events attempt _ ih =>
    rw [refunds_counted, admitted_counted, length_append]
    by_cases hvalue : v' + 1 ≤ limit
    · rw [if_pos hvalue, length_singleton]
      omega
    · rw [if_neg hvalue, length_nil]
      omega
  | @refunded v' events attempt _ ih =>
    rw [admitted_refunded, refunds_refunded, length_append, length_singleton]
    omega

/-- **The attempts that are not handed back** are no more than the limit, and those that were under
way. -/
theorem length_le {kept underway : List ι} (h : Tallied v events v')
    (hnodup : (kept ++ refunds events).Nodup)
    (hmem : ∀ i ∈ kept ++ refunds events, i ∈ admitted limit events ∨ i ∈ underway) :
    kept.length ≤ limit + underway.length := by
  have hsubset : kept ++ refunds events ⊆ admitted limit events ++ underway := fun i hi =>
    mem_append.mpr (hmem i hi)
  have hle := hnodup.length_le_of_subset hsubset
  rw [length_append, length_append] at hle
  have hadmitted : (admitted limit events).length ≤ limit + (refunds events).length :=
    h.admitted_le.2
  omega

end Tallied
