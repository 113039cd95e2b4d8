import Mathlib

/-!
# Pages of a table that changes

A walk reads one page after another, each from the table as it stands at that time: the first rows,
in the order of their keys, that lie beyond the last row of the page before.  The last row is handed
back as a token, and a token that cannot be read stands for no token at all, which is the first page
again.  The walk is exact iff that happens only where nothing lies before the end of the page
(`exact_iff`). -/

namespace Paging

open List Nat

variable {α κ τ : Type} [LinearOrder κ]

structure IsPage (key : α → κ) (selection page : List α) : Prop where
  subset : page ⊆ selection
  sorted : (page.map key).Pairwise (· < ·)
  first : ∀ row ∈ selection, key row ∈ page.map key ∨ ∀ k ∈ page.map key, k < key row
  nonempty : selection ≠ [] → page ≠ []

structure Reads (key : α → κ) (readable : α → Prop) (token : α → τ) (tables : ℕ → List α)
    (read : ℕ → Option τ → List α) : Prop where
  subset : ∀ n after, read n after ⊆ tables n
  start : ∀ n, IsPage key (tables n) (read n none)
  beyond : ∀ m n, ∀ row ∈ tables m, readable row →
    IsPage key ((tables n).filter fun row' => key row < key row') (read n (some (token row)))
  again : ∀ m n, ∀ row ∈ tables m, ¬readable row → read n (some (token row)) = read n none

/-- One page after another, the token being that of the last row. -/
def walk (read : ℕ → Option τ → List α) (token : α → τ) : ℕ → List α
  | 0 => read 0 none
  | n + 1 =>
    match (walk read token n).getLast? with
    | none => []
    | some row => read (n + 1) (some (token row))

structure IsWalk (key : α → κ) (readable : α → Prop) (tables pages : ℕ → List α) : Prop where
  start : IsPage key (tables 0) (pages 0)
  beyond : ∀ n row, (pages n).getLast? = some row → readable row →
    IsPage key ((tables (n + 1)).filter fun row' => key row < key row') (pages (n + 1))
  again : ∀ n row, (pages n).getLast? = some row → ¬readable row →
    IsPage key (tables (n + 1)) (pages (n + 1))
  stop : ∀ n, pages n = [] → pages (n + 1) = []

def returned (key : α → κ) (pages : ℕ → List α) (n : ℕ) : List κ :=
  (range n).flatMap fun m => (pages m).map key

/-- The walk ends, what it returns is in order, and a key that every table of the walk has is
returned once. -/
def Exact (key : α → κ) (tables pages : ℕ → List α) : Prop :=
  ∃ n, pages n = [] ∧ (∀ m < n, pages m ≠ []) ∧ (returned key pages n).Pairwise (· < ·) ∧
    ∀ k, (∀ m ≤ n, k ∈ (tables m).map key) → (returned key pages n).count k = 1

/-- At the end of each page the token is read, or nothing of the table lies before it. -/
def MovesOn (key : α → κ) (readable : α → Prop) (tables pages : ℕ → List α) : Prop :=
  ∀ n row, (pages n).getLast? = some row →
    readable row ∨ ∀ row' ∈ tables (n + 1), key row < key row'

variable {key : α → κ} {readable : α → Prop} {tables pages : ℕ → List α}

/-! ## One page -/

variable {last : α} {page selection : List α}

lemma IsPage.le_last (h : IsPage key selection page) (hlast : page.getLast? = some last) :
    ∀ k ∈ page.map key, k ≤ key last := by
  obtain ⟨before, rfl⟩ := getLast?_eq_some_iff.mp hlast
  intro k hk
  rw [map_append, mem_append] at hk
  rcases hk with hk | hk
  · have hsorted := h.sorted
    rw [map_append, pairwise_append] at hsorted
    exact (hsorted.2.2 k hk (key last) mem_cons_self).le
  · rw [mem_singleton.mp hk]

lemma IsPage.last_mem (h : IsPage key selection page) (hlast : page.getLast? = some last) :
    last ∈ selection :=
  h.subset (mem_of_getLast? hlast)

lemma IsPage.of_sorted {sorted : List α} (hperm : sorted.Perm selection)
    (hsorted : (sorted.map key).Pairwise (· < ·)) {size : ℕ} (hsize : 0 < size) :
    IsPage key selection (sorted.take size) where
  subset _ hrow := hperm.subset (mem_of_mem_take hrow)
  sorted := by
    rw [map_take]
    exact hsorted.sublist (take_sublist size _)
  first row hrow := by
    have hmem := hperm.symm.subset hrow
    rw [← take_append_drop size sorted, mem_append] at hmem
    rw [← take_append_drop size sorted, map_append, pairwise_append] at hsorted
    exact hmem.imp (mem_map_of_mem ·) fun hdrop k hk =>
      hsorted.2.2 k hk _ (mem_map_of_mem hdrop)
  nonempty hne := by
    intro htake
    rcases take_eq_nil_iff.mp htake with hzero | hnil
    · exact absurd hzero hsize.ne'
    · rw [hnil] at hperm
      exact hne hperm.nil_eq.symm

lemma IsPage.map {β : Type} {shown : β → κ} {view : α → β}
    (hshown : ∀ row, shown (view row) = key row) (h : IsPage key selection page) :
    IsPage shown (selection.map view) (page.map view) := by
  have hkeys : (page.map view).map shown = page.map key := by
    rw [map_map]
    exact map_congr_left fun row _ => hshown row
  refine ⟨map_subset view h.subset, hkeys ▸ h.sorted, fun row hrow => ?_, fun hne => ?_⟩
  · obtain ⟨row, hrow', rfl⟩ := mem_map.mp hrow
    rw [hkeys, hshown]
    exact h.first row hrow'
  · have hne' : selection ≠ [] := fun hnil => hne (by rw [hnil]; rfl)
    exact fun hnil => h.nonempty hne' (map_eq_nil_iff.mp hnil)

lemma mem_ahead {table : List α} {row : α} (hrow : row ∈ table) (hlt : key last < key row) :
    row ∈ table.filter fun row' => key last < key row' :=
  mem_filter.mpr ⟨hrow, decide_eq_true hlt⟩

/-! ## The keys returned -/

omit [LinearOrder κ] in
lemma returned_succ (n : ℕ) :
    returned key pages (n + 1) = returned key pages n ++ (pages n).map key := by
  unfold returned
  rw [range_succ, flatMap_append, flatMap_singleton]

omit [LinearOrder κ] in
lemma mem_returned {n : ℕ} {k : κ} : k ∈ returned key pages n ↔ ∃ m < n, k ∈ (pages m).map key := by
  unfold returned
  simp only [mem_flatMap, mem_range]

omit [LinearOrder κ] in
lemma returned_sublist {m n : ℕ} (h : m ≤ n) :
    (returned key pages m).Sublist (returned key pages n) := by
  induction n, h using le_induction with
  | base => exact Sublist.refl _
  | succ n _ ih =>
    rw [returned_succ]
    exact ih.trans (sublist_append_left _ _)

lemma exists_last (h : page ≠ []) : ∃ last, page.getLast? = some last :=
  ⟨page.getLast h, getLast?_eq_some_getLast h⟩

namespace IsWalk

variable (h : IsWalk key readable tables pages)

include h

variable {n : ℕ} {last : α} {k : κ} {keys : Set κ}

lemma isPage_succ (hmoves : MovesOn key readable tables pages)
    (hlast : (pages n).getLast? = some last) :
    IsPage key ((tables (n + 1)).filter fun row => key last < key row) (pages (n + 1)) := by
  by_cases hread : readable last
  · exact h.beyond n last hlast hread
  · have hall := (hmoves n last hlast).resolve_left hread
    have hfilter : (tables (n + 1)).filter (fun row => key last < key row) = tables (n + 1) :=
      filter_eq_self.mpr fun row hrow => decide_eq_true (hall row hrow)
    rw [hfilter]
    exact h.again n last hlast hread

lemma isPage (n : ℕ) (hnonempty : ∀ m < n, pages m ≠ []) :
    ∃ selection, selection ⊆ tables n ∧ IsPage key selection (pages n) := by
  cases n with
  | zero => exact ⟨tables 0, Subset.refl _, h.start⟩
  | succ n =>
    obtain ⟨last, hlast⟩ := exists_last (hnonempty n (lt_succ_self n))
    by_cases hread : readable last
    · exact ⟨_, filter_sublist.subset, h.beyond n last hlast hread⟩
    · exact ⟨_, Subset.refl _, h.again n last hlast hread⟩

/-- The invariant of a walk that moves on: what was returned is in order and ends with the last row.
-/
lemma sorted_returned (hmoves : MovesOn key readable tables pages) (n : ℕ)
    (hnonempty : ∀ m < n, pages m ≠ []) :
    (returned key pages n).Pairwise (· < ·) ∧
      ∀ m, n = m + 1 → ∀ last, (pages m).getLast? = some last →
        ∀ k ∈ returned key pages n, k ≤ key last := by
  induction n with
  | zero => exact ⟨Pairwise.nil, fun _ hm => absurd hm (succ_ne_zero _).symm⟩
  | succ n ih =>
    have hbefore : ∀ m < n, pages m ≠ [] := fun m hm => hnonempty m (hm.trans (lt_succ_self n))
    obtain ⟨hsorted, hend⟩ := ih hbefore
    obtain ⟨last, hlast⟩ := exists_last (hnonempty n (lt_succ_self n))
    obtain ⟨selection, -, hpage⟩ := h.isPage n hbefore
    -- all that was returned lies before the page
    have hbelow : ∀ k ∈ returned key pages n, ∀ k' ∈ (pages n).map key, k < k' := by
      intro k hk k' hk'
      cases n with
      | zero => exact absurd hk not_mem_nil
      | succ m =>
        obtain ⟨last', hlast'⟩ := exists_last (hnonempty m (by omega))
        obtain ⟨row, hrow, rfl⟩ := mem_map.mp hk'
        have hpage' := h.isPage_succ hmoves hlast'
        have hlt := of_decide_eq_true (mem_filter.mp (hpage'.subset hrow)).2
        exact (hend m rfl last' hlast' k hk).trans_lt hlt
    rw [returned_succ]
    refine ⟨pairwise_append.mpr ⟨hsorted, hpage.sorted, hbelow⟩, fun m hm last' hlast' k hk =>
      ?_⟩
    obtain rfl : n = m := succ.inj hm
    rcases mem_append.mp hk with hk | hk
    · exact (hbelow k hk _ (mem_map_of_mem (mem_of_getLast? hlast'))).le
    · exact hpage.le_last hlast' k hk

lemma returned_or_ahead (hmoves : MovesOn key readable tables pages) (n : ℕ)
    (hnonempty : ∀ m ≤ n, pages m ≠ []) (hk : ∀ m ≤ n, k ∈ (tables m).map key) :
    k ∈ returned key pages (n + 1) ∨ ∀ last, (pages n).getLast? = some last → key last < k := by
  induction n with
  | zero =>
    obtain ⟨row, hrow, rfl⟩ := mem_map.mp (hk 0 (le_refl 0))
    rcases h.start.first row hrow with hon | hbeyond
    · exact .inl (mem_returned.mpr ⟨0, one_pos, hon⟩)
    · exact .inr fun last hlast => hbeyond _ (mem_map_of_mem (mem_of_getLast? hlast))
  | succ n ih =>
    have hbefore := ih (fun m hm => hnonempty m (by omega)) fun m hm => hk m (by omega)
    rcases hbefore with hreturned | hahead
    · exact .inl (by rw [returned_succ]; exact mem_append_left _ hreturned)
    · obtain ⟨row, hrow, rfl⟩ := mem_map.mp (hk (n + 1) (le_refl _))
      obtain ⟨last, hlast⟩ := exists_last (hnonempty n (by omega))
      have hpage := h.isPage_succ hmoves hlast
      rcases hpage.first row (mem_ahead hrow (hahead last hlast)) with hon | hbeyond
      · exact .inl (mem_returned.mpr ⟨n + 1, lt_succ_self _, hon⟩)
      · exact .inr fun last' hlast' =>
          hbeyond _ (mem_map_of_mem (mem_of_getLast? hlast'))

lemma mem_returned_of_empty (hmoves : MovesOn key readable tables pages) (hempty : pages n = [])
    (hnonempty : ∀ m < n, pages m ≠ []) (hk : ∀ m ≤ n, k ∈ (tables m).map key) :
    k ∈ returned key pages n := by
  cases n with
  | zero =>
    obtain ⟨row, hrow, -⟩ := mem_map.mp (hk 0 (le_refl 0))
    exact absurd hempty (h.start.nonempty (ne_nil_of_mem hrow))
  | succ n =>
    have hreturned := h.returned_or_ahead hmoves n (fun m hm => hnonempty m (lt_succ_of_le hm))
      fun m hm => hk m (le_succ_of_le hm)
    refine hreturned.resolve_right fun hahead => ?_
    obtain ⟨row, hrow, rfl⟩ := mem_map.mp (hk (n + 1) (le_refl _))
    obtain ⟨last, hlast⟩ := exists_last (hnonempty n (lt_succ_self n))
    exact (h.isPage_succ hmoves hlast).nonempty
      (ne_nil_of_mem (mem_ahead hrow (hahead last hlast))) hempty

lemma exists_empty (hmoves : MovesOn key readable tables pages) (hfinite : keys.Finite)
    (hkeys : ∀ n, ∀ row ∈ tables n, key row ∈ keys) : ∃ n, pages n = [] := by
  by_contra hnever
  have hnonempty : ∀ n, pages n ≠ [] := fun n hn => hnever ⟨n, hn⟩
  choose last hlast using fun n => exists_last (hnonempty n)
  have hmono : StrictMono fun n => key (last n) := by
    refine strictMono_nat_of_lt_succ fun n => ?_
    have hmem := (h.isPage_succ hmoves (hlast n)).last_mem (hlast (n + 1))
    exact of_decide_eq_true (mem_filter.mp hmem).2
  have hmem : ∀ n, key (last n) ∈ keys := by
    intro n
    obtain ⟨selection, hsubset, hpage⟩ := h.isPage n fun m _ => hnonempty m
    exact hkeys n _ (hsubset (hpage.last_mem (hlast n)))
  exact Set.infinite_of_injective_forall_mem hmono.injective hmem hfinite

lemma not_sorted_of_again {row : α} (hlast : (pages n).getLast? = some last)
    (hread : ¬readable last) (hrow : row ∈ tables (n + 1)) (hle : key row ≤ key last) :
    pages (n + 1) ≠ [] ∧ ¬(returned key pages (n + 2)).Pairwise (· < ·) := by
  have hpage := h.again n last hlast hread
  have hne := hpage.nonempty (ne_nil_of_mem hrow)
  refine ⟨hne, fun hsorted => ?_⟩
  -- some row of the page is not beyond `last`
  have hbehind : ∃ k ∈ (pages (n + 1)).map key, k ≤ key last := by
    rcases hpage.first row hrow with hon | hbeyond
    · exact ⟨key row, hon, hle⟩
    · obtain ⟨head, tail, hcons⟩ := exists_cons_of_ne_nil hne
      have hhead : key head ∈ (pages (n + 1)).map key := hcons ▸ mem_cons_self
      exact ⟨key head, hhead, (hbeyond _ hhead).le.trans hle⟩
  obtain ⟨k, hk, hkle⟩ := hbehind
  rw [returned_succ, returned_succ, pairwise_append] at hsorted
  have hmem := mem_map_of_mem (f := key) (mem_of_getLast? hlast)
  exact (hsorted.2.2 (key last) (mem_append_right _ hmem) k hk).not_ge hkle

/-- **A walk is exact iff it moves on.** -/
theorem exact_iff (hfinite : keys.Finite) (hkeys : ∀ n, ∀ row ∈ tables n, key row ∈ keys) :
    Exact key tables pages ↔ MovesOn key readable tables pages := by
  constructor
  · intro ⟨n, hempty, hnonempty, hsorted, _⟩ m last hlast
    by_contra hstuck
    obtain ⟨hread, hall⟩ := not_or.mp hstuck
    push Not at hall
    obtain ⟨row, hrow, hle⟩ := hall
    obtain ⟨hne, hnot⟩ := h.not_sorted_of_again hlast hread hrow hle
    have hstays : ∀ j, n ≤ j → pages j = [] := fun j hj =>
      le_induction hempty (fun i _ hi => h.stop i hi) j hj
    have hm : m + 1 < n := by
      by_contra hge
      exact hne (hstays (m + 1) (not_lt.mp hge))
    exact hnot (hsorted.sublist (returned_sublist (succ_le_of_lt hm)))
  · intro hmoves
    classical
    have hends := h.exists_empty hmoves hfinite hkeys
    have hnonempty : ∀ m < Nat.find hends, pages m ≠ [] := fun m hm => Nat.find_min hends hm
    have hsorted := (h.sorted_returned hmoves _ hnonempty).1
    refine ⟨Nat.find hends, Nat.find_spec hends, hnonempty, hsorted, fun k hk => ?_⟩
    have hnodup : (returned key pages (Nat.find hends)).Nodup := hsorted.imp fun hlt => hlt.ne
    exact count_eq_one_of_mem hnodup
      (h.mem_returned_of_empty hmoves (Nat.find_spec hends) hnonempty hk)

end IsWalk

namespace Reads

variable {token : α → τ} {read : ℕ → Option τ → List α}

lemma walk_succ {n : ℕ} {row : α} (hlast : (walk read token n).getLast? = some row) :
    walk read token (n + 1) = read (n + 1) (some (token row)) := by
  rw [walk, hlast]

variable (h : Reads key readable token tables read)

include h

lemma walk_subset (n : ℕ) : walk read token n ⊆ tables n := by
  cases n with
  | zero => exact h.subset 0 none
  | succ n =>
    cases hlast : (walk read token n).getLast? with
    | none =>
      rw [walk, hlast]
      exact nil_subset _
    | some row =>
      rw [walk_succ hlast]
      exact h.subset (n + 1) _

lemma isWalk : IsWalk key readable tables (walk read token) where
  start := h.start 0
  beyond n row hlast hread := by
    rw [walk_succ hlast]
    exact h.beyond n (n + 1) row (h.walk_subset n (mem_of_getLast? hlast)) hread
  again n row hlast hread := by
    rw [walk_succ hlast, h.again n (n + 1) row (h.walk_subset n (mem_of_getLast? hlast)) hread]
    exact h.start (n + 1)
  stop n hempty := by rw [walk, hempty, getLast?_nil]

/-- **The walk along a reader's tokens is exact iff it moves on.** -/
theorem exact_iff {keys : Set κ} (hfinite : keys.Finite)
    (hkeys : ∀ n, ∀ row ∈ tables n, key row ∈ keys) :
    Exact key tables (walk read token) ↔ MovesOn key readable tables (walk read token) :=
  h.isWalk.exact_iff hfinite hkeys

end Reads

end Paging
