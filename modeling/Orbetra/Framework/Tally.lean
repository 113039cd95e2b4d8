import Mathlib

/-!
# Counters of members

A counter is kept by hand while the members of a set change their states one at a time.  `tally` is
what it should read: the sum of a weight over the members.  It changes by what the weight of one
member changes. -/

namespace Tally

open Function

variable {ι σ : Type} [DecidableEq ι] (members : Finset ι) (weight : σ → ℤ)

/-- The sum of the weights of the members. -/
def tally (state : ι → σ) : ℤ := ∑ i ∈ members, weight (state i)

variable {members weight} {state : ι → σ} {i : ι} {x : σ}

lemma tally_update (hi : i ∈ members) :
    tally members weight (update state i x) =
      tally members weight state + (weight x - weight (state i)) := by
  have hcomp : (fun j => weight (update state i x j)) =
      update (fun j => weight (state j)) i (weight x) :=
    comp_update weight state i x
  have hsplit : tally members weight state =
      weight (state i) + ∑ j ∈ members \ {i}, weight (state j) :=
    
    Finset.sum_eq_add_sum_sdiff_singleton_of_mem hi _
  calc tally members weight (update state i x)
      = ∑ j ∈ members, update (fun j => weight (state j)) i (weight x) j := by
        rw [tally, hcomp]
    _ = weight x + ∑ j ∈ members \ {i}, weight (state j) := Finset.sum_update_of_mem hi _ _
    _ = tally members weight state + (weight x - weight (state i)) := by
        rw [hsplit]
        omega

/-- A member joins. -/
lemma tally_insert (hi : i ∉ members) :
    tally (insert i members) weight (update state i x) = tally members weight state + weight x := by
  unfold tally
  rw [Finset.sum_insert hi, update_self, add_comm]
  congr 1
  refine Finset.sum_congr rfl fun j hj => ?_
  rw [update_of_ne (ne_of_mem_of_not_mem hj hi)]

omit [DecidableEq ι] in
lemma tally_eq_zero (h : ∀ i ∈ members, weight (state i) = 0) : tally members weight state = 0 :=
  Finset.sum_eq_zero h

end Tally
