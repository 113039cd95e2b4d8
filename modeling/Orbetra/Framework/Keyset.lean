import Mathlib

/-!
# Keyset pagination

A table is read in pages: each query asks for the first rows, in the order of the table, that lie beyond
a cursor, and the cursor is computed from the last row of the page before.  The order and the cursor are
two things.  The pages make up the table iff at the end of each full page the cursor cuts the table where
the page ends (`Cuts`, `pages_perm_iff`).
-/

namespace Keyset

open List Option

variable {α κ : Type} (size : ℕ) (beyond : κ → α → Bool) (cursor : α → κ) (rows : List α)

/-- The rows that a query may return. -/
def selected (after : Option κ) : List α := rows.filter fun row => after.all (beyond · row)

/-- One page after another, until a page is not full; `none` where that takes too many. -/
def pages : ℕ → Option κ → Option (List α)
  | 0, _ => none
  | fuel + 1, after =>
    let page := (selected beyond rows after).take size
    if page.length < size then some page
    else (pages fuel (page.getLast?.map cursor)).map (page ++ ·)

/-- At the end of each full page of `rest`, what lies beyond the cursor is what is left of it. -/
def Cuts (rest : List α) : Prop :=
  ∀ before row after, rest = before ++ row :: after → size ∣ before.length + 1 →
    selected beyond rows (some (cursor row)) = after

variable {size beyond cursor rows}

variable {rest out : List α} {after : Option κ} {fuel : ℕ}

/-- A list that is shorter than a page has no full page. -/
lemma Cuts.of_length_lt (h : rest.length < size) : Cuts size beyond cursor rows rest := by
  intro before row after hrest hdvd
  have hle := Nat.le_of_dvd (Nat.succ_pos _) hdvd
  rw [hrest, length_append, length_cons] at h
  omega

lemma cuts_append {page : List α} {row : α} (hpage : (page ++ [row]).length = size) :
    Cuts size beyond cursor rows (page ++ row :: rest) ↔
      selected beyond rows (some (cursor row)) = rest ∧ Cuts size beyond cursor rows rest := by
  rw [length_append, length_singleton] at hpage
  constructor
  · intro h
    refine ⟨h page row rest rfl ⟨1, by omega⟩, fun before row' after hrest hdvd => ?_⟩
    refine h (page ++ row :: before) row' after (by rw [hrest]; simp) ?_
    have hlength : (page ++ row :: before).length + 1 = size + (before.length + 1) := by
      rw [length_append, length_cons]
      omega
    rw [hlength]
    exact (Nat.dvd_add_right (Nat.dvd_refl size)).mpr hdvd
  · intro ⟨hfirst, hrest⟩ before row' after heq hdvd
    have hle := Nat.le_of_dvd (Nat.succ_pos _) hdvd
    -- the end of a later page lies behind the first one
    have hprefix : page ++ [row] <+: before ++ [row'] := by
      have hpage' : page ++ [row] <+: page ++ row :: rest := ⟨rest, by simp⟩
      refine prefix_of_prefix_length_le hpage' ⟨after, by rw [heq]; simp⟩ ?_
      rw [length_append, length_append, length_singleton, length_singleton]
      omega
    obtain ⟨between, hbetween⟩ := hprefix
    rcases eq_nil_or_concat between with rfl | ⟨before', row'', rfl⟩
    · rw [append_nil] at hbetween
      obtain ⟨rfl, hrow⟩ := append_inj' hbetween rfl
      obtain rfl := singleton_inj.mp hrow
      rw [append_cancel_left heq |> cons.inj |>.2] at hfirst
      exact hfirst
    · rw [concat_eq_append, ← append_assoc] at hbetween
      obtain ⟨rfl, hrow⟩ := append_inj' hbetween rfl
      obtain rfl := singleton_inj.mp hrow
      refine hrest before' row'' after ?_ ?_
      · have heq' : page ++ [row] ++ rest = page ++ [row] ++ (before' ++ row'' :: after) := by
          rw [append_assoc, singleton_append, heq]
          simp
        exact append_cancel_left heq'
      · have hlength : (page ++ [row] ++ before').length + 1 = size + (before'.length + 1) := by
          rw [length_append, length_append, length_singleton]
          omega
        rw [hlength] at hdvd
        exact (Nat.dvd_add_right (Nat.dvd_refl size)).mp hdvd

lemma take_eq_append (hsize : 0 < size) (hfull : size ≤ rest.length) :
    ∃ page row after, rest.take size = page ++ [row] ∧ rest = page ++ row :: after ∧
      (page ++ [row]).length = size := by
  have hlength : (rest.take size).length = size := length_take_of_le hfull
  rcases eq_nil_or_concat (rest.take size) with hnil | ⟨page, row, hpage⟩
  · rw [hnil, length_nil] at hlength
    omega
  · rw [concat_eq_append] at hpage
    refine ⟨page, row, rest.drop size, hpage, ?_, by rw [← hpage, hlength]⟩
    calc rest = rest.take size ++ rest.drop size := (take_append_drop size rest).symm
      _ = page ++ row :: rest.drop size := by rw [hpage]; simp

lemma pages_of_cuts (hsize : 0 < size) (hselected : selected beyond rows after = rest)
    (h : Cuts size beyond cursor rows rest) (hfuel : rest.length < fuel) :
    pages size beyond cursor rows fuel after = some rest := by
  induction fuel generalizing rest after with
  | zero => exact absurd hfuel (Nat.not_lt_zero _)
  | succ fuel ih =>
    unfold pages
    rw [hselected]
    dsimp only
    by_cases hfull : size ≤ rest.length
    · obtain ⟨page, row, after', htake, hrest, hlength⟩ := take_eq_append hsize hfull
      rw [htake, if_neg (by omega), getLast?_concat, map_some]
      rw [hrest, cuts_append hlength] at h
      have hshorter : after'.length < fuel := by
        rw [hrest, length_append, length_cons] at hfuel
        omega
      rw [ih h.1 h.2 hshorter, hrest]
      simp
    · rw [take_of_length_le (by omega), if_pos (by omega)]

lemma pages_mono {more : ℕ} (hmore : fuel ≤ more)
    (h : pages size beyond cursor rows fuel after = some out) :
    pages size beyond cursor rows more after = some out := by
  induction fuel generalizing more after out with
  | zero => cases h
  | succ fuel ih =>
    obtain ⟨more, rfl⟩ : ∃ n, more = n + 1 := ⟨more - 1, by omega⟩
    unfold pages at h ⊢
    dsimp only at h ⊢
    split at h
    · rename_i hshort
      rw [if_pos hshort]
      exact h
    · rename_i hfull
      obtain ⟨out', hout', rfl⟩ := map_eq_some_iff.mp h
      rw [if_neg hfull, ih (Nat.le_of_succ_le_succ hmore) hout', map_some]

lemma pages_subset (h : pages size beyond cursor rows fuel after = some out) : out ⊆ rows := by
  induction fuel generalizing after out with
  | zero => cases h
  | succ fuel ih =>
    have hpage : (selected beyond rows after).take size ⊆ rows := fun row hrow =>
      (mem_filter.mp (mem_of_mem_take hrow)).1
    unfold pages at h
    dsimp only at h
    split at h
    · exact some.inj h ▸ hpage
    · obtain ⟨out', hout', rfl⟩ := map_eq_some_iff.mp h
      exact append_subset.mpr ⟨hpage, ih hout'⟩

lemma take_prefix_pages (h : pages size beyond cursor rows fuel after = some out) :
    (selected beyond rows after).take size <+: out := by
  cases fuel with
  | zero => cases h
  | succ fuel =>
    unfold pages at h
    dsimp only at h
    split at h
    · exact some.inj h ▸ prefix_rfl
    · obtain ⟨out', -, rfl⟩ := map_eq_some_iff.mp h
      exact prefix_append _ out'

lemma beyond_of_mem_pages (hsize : 0 < size)
    (htrans : ∀ c row row', beyond c row = true → beyond (cursor row) row' = true →
      beyond c row' = true) {c : κ} (h : pages size beyond cursor rows fuel (some c) = some out) :
    ∀ row ∈ out, beyond c row = true := by
  induction fuel generalizing c out with
  | zero => cases h
  | succ fuel ih =>
    have hpage : ∀ row ∈ (selected beyond rows (some c)).take size, beyond c row = true :=
      fun row hrow => (mem_filter.mp (mem_of_mem_take hrow)).2
    unfold pages at h
    dsimp only at h
    split at h
    · rw [← some.inj h]
      exact hpage
    · rename_i hfull
      obtain ⟨out', hout', rfl⟩ := map_eq_some_iff.mp h
      intro row hrow
      rcases mem_append.mp hrow with hrow | hrow
      · exact hpage row hrow
      · cases hlast : ((selected beyond rows (some c)).take size).getLast? with
        | none =>
          rw [getLast?_eq_none_iff.mp hlast] at hfull
          exact absurd hsize hfull
        | some last =>
          rw [hlast] at hout'
          exact htrans c last row (hpage last (mem_of_getLast? hlast)) (ih hout' row hrow)

def Behind (size : ℕ) (beyond : κ → α → Bool) (cursor : α → κ) (rows : List α) : Prop :=
  ∀ before row after, rows = before ++ row :: after → ∀ fuel out,
    pages size beyond cursor rows fuel (some (cursor row)) = some out →
      ∀ row' ∈ out, row' ∈ after → beyond (cursor row) row' = true

lemma behind_of_trans (hsize : 0 < size)
    (htrans : ∀ c row row', beyond c row = true → beyond (cursor row) row' = true →
      beyond c row' = true) : Behind size beyond cursor rows :=
  fun _ _ _ _ _ _ hout row' hrow' _ => beyond_of_mem_pages hsize htrans hout row' hrow'

lemma behind_of_pairwise (h : rows.Pairwise fun row row' => beyond (cursor row) row' = true) :
    Behind size beyond cursor rows := by
  intro before row after hrows _ _ _ row' _ hafter
  rw [hrows, pairwise_append] at h
  exact (pairwise_cons.mp h.2.1).1 row' hafter

lemma cuts_of_perm (hsize : 0 < size) (hnodup : rows.Nodup)
    (hbehind : Behind size beyond cursor rows) {before : List α} (hrows : rows = before ++ rest)
    (hselected : selected beyond rows after = rest)
    (h : pages size beyond cursor rows fuel after = some out) (hperm : out.Perm rest) :
    Cuts size beyond cursor rows rest := by
  induction fuel generalizing before rest out after with
  | zero => cases h
  | succ fuel ih =>
    by_cases hfull : size ≤ rest.length
    · obtain ⟨page, row, rest', htake, hrest, hlength⟩ := take_eq_append hsize hfull
      unfold pages at h
      rw [hselected] at h
      dsimp only at h
      rw [htake, if_neg (by omega), getLast?_concat, map_some] at h
      obtain ⟨out', hout', rfl⟩ := map_eq_some_iff.mp h
      have hperm' : out'.Perm rest' := by
        rw [hrest, append_cons page row rest'] at hperm
        exact (perm_append_left_iff _).mp hperm
      have hrows' : rows = (before ++ page ++ [row]) ++ rest' := by
        rw [hrows, hrest]
        simp
      have hdisjoint := disjoint_of_nodup_append (hrows' ▸ hnodup)
      have hcut : selected beyond rows (some (cursor row)) = rest' := by
        have hread : ∀ row' ∈ rest', beyond (cursor row) row' = true := by
          intro row' hrow'
          refine hbehind (before ++ page) row rest' ?_ fuel out' hout' row' ?_ hrow'
          · rw [hrows', append_assoc _ [row]]
            rfl
          · exact hperm'.mem_iff.mpr hrow'
        have hsplit : selected beyond rows (some (cursor row)) =
            (before ++ page ++ [row]).filter (beyond (cursor row) ·) ++ rest' := by
          conv_lhs => rw [hrows']
          unfold selected
          rw [filter_append]
          congr 1
          exact filter_eq_self.mpr hread
        cases hagain : (before ++ page ++ [row]).filter (beyond (cursor row) ·) with
        | nil => rw [hsplit, hagain, nil_append]
        | cons again others =>
          -- a row that was read is the first to be read again
          have hmem : again ∈ out' := by
            refine (take_prefix_pages hout').subset ?_
            rw [hsplit, hagain]
            obtain ⟨n, rfl⟩ := Nat.exists_eq_succ_of_ne_zero (Nat.pos_iff_ne_zero.mp hsize)
            exact mem_cons_self
          have hbefore : again ∈ before ++ page ++ [row] :=
            (mem_filter.mp (hagain ▸ mem_cons_self)).1
          exact absurd (hperm'.mem_iff.mp hmem) (hdisjoint hbefore)
      rw [hrest, cuts_append hlength]
      exact ⟨hcut, ih hrows' hcut hout' hperm'⟩
    · exact .of_length_lt (by omega)

/-- **Pages make up the table iff the cursor cuts it where each full page ends.** -/
theorem pages_perm_iff (hsize : 0 < size) (hnodup : rows.Nodup)
    (hbehind : Behind size beyond cursor rows) :
    (∃ fuel out, pages size beyond cursor rows fuel none = some out ∧ out.Perm rows) ↔
      Cuts size beyond cursor rows rows := by
  have hselected : selected beyond rows none = rows := filter_eq_self.mpr fun _ _ => rfl
  constructor
  · intro ⟨fuel, out, hout, hperm⟩
    exact cuts_of_perm hsize hnodup hbehind (nil_append rows).symm hselected hout hperm
  · intro h
    exact ⟨rows.length + 1, rows, pages_of_cuts hsize hselected h (Nat.lt_succ_self _), .refl rows⟩

/-- Where a cursor cuts the table right. -/
lemma selected_eq_iff {before after : List α} {row : α} {c : κ} (hrows : rows = before ++ row :: after)
    (hnodup : rows.Nodup) : selected beyond rows (some c) = after ↔
      (∀ row' ∈ before, beyond c row' = false) ∧ beyond c row = false ∧
        ∀ row' ∈ after, beyond c row' = true := by
  have hdisjoint : ∀ row' ∈ before ++ [row], row' ∉ after := by
    rw [hrows, append_cons before row after] at hnodup
    exact fun row' hrow' => disjoint_of_nodup_append hnodup hrow'
  constructor
  · intro h
    have hmem : ∀ row' ∈ rows, beyond c row' = true → row' ∈ after :=
      fun row' hrow' hbeyond => h ▸ mem_filter.mpr ⟨hrow', hbeyond⟩
    have hbehind : ∀ row' ∈ before ++ [row], beyond c row' = false := by
      intro row' hrow'
      refine Bool.eq_false_iff.mpr fun hbeyond => hdisjoint row' hrow' (hmem row' ?_ hbeyond)
      rw [hrows, append_cons before row after]
      exact mem_append_left after hrow'
    refine ⟨fun row' hrow' => hbehind row' (mem_append_left _ hrow'),
      hbehind row (mem_append_right _ (mem_singleton_self row)), fun row' hrow' => ?_⟩
    rw [← h] at hrow'
    exact (mem_filter.mp hrow').2
  · intro ⟨hbefore, hrow, hafter⟩
    show rows.filter (beyond c ·) = after
    rw [hrows, filter_append, filter_cons_of_neg (Bool.eq_false_iff.mp hrow),
      filter_eq_nil_iff.mpr fun row' hrow' => Bool.eq_false_iff.mp (hbefore row' hrow'),
      nil_append, filter_eq_self.mpr hafter]

lemma cuts_of_pairwise (hnodup : rows.Nodup)
    (h : rows.Pairwise fun row row' => beyond (cursor row) row' = true ∧
      beyond (cursor row') row = false)
    (hself : ∀ row ∈ rows, beyond (cursor row) row = false) : Cuts size beyond cursor rows rows := by
  intro before row after hrows _
  refine (selected_eq_iff hrows hnodup).mpr ?_
  have hrow : row ∈ rows := hrows ▸ mem_append_right before mem_cons_self
  rw [hrows, pairwise_append] at h
  obtain ⟨-, hafter, hbefore⟩ := h
  exact ⟨fun row' hrow' => (hbefore row' hrow' row mem_cons_self).2, hself row hrow,
    fun row' hrow' => ((pairwise_cons.mp hafter).1 row' hrow').1⟩

end Keyset
