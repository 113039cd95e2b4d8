import Orbetra.Pipeline.Fed

/-!
# The stays that crossings end

Calls of `GeofenceEventPersister.persist` one after the other, each with the batch of crossings it
is passed: a batch that follows the crossings passed so far, or one that is passed again.  The claim
of a crossing is gone after `DEDUP_TTL_S`.

A call inserts the rows of its whole batch before it closes any, and the statement that closes a
stay searches by time.  What carries the proof is `IsTable`: after each `UPDATE` every row has the
end that the crossings handled so far give its stay (`endOf`). -/

namespace Orbetra.Stays

open GeofencePersister Relation List Eff

/-! ## Calls -/

def dedupTtlMs : Ms := 24 * 3600 * 1000

/-- A call of `persist`, made some time after the one before it. -/
structure Delivery where
  wait : ℕ
  registry : DeviceId → Option RuleScope
  batch : List GeofenceTransition
  replies : GeofenceReplies

structure World where
  store : GeofenceStore
  /-- when the key was claimed -/
  claimedAt : CrossingKey → Ms
  /-- the batches, in the order in which they were first passed; no code reads it -/
  passed : List (List GeofenceTransition)

def World.history (w : World) : List GeofenceTransition := w.passed.flatten

/-- When the claims of a call are sent. -/
def World.claimTime (w : World) (d : Delivery) : Ms :=
  w.store.now + d.wait + if d.batch = [] then 0 else (d.replies.elapsed .scope : Ms)

/-- The store that a call finds: the keys are gone whose time is up when it sends its claims. -/
def World.found (w : World) (d : Delivery) : GeofenceStore :=
  { w.store with
    now := w.store.now + d.wait
    evt := w.store.evt.filter fun key => w.claimTime d < w.claimedAt key + dedupTtlMs }

def World.deliver (w : World) (d : Delivery) (passed : List (List GeofenceTransition)) : World :=
  let after := (persist d.replies d.registry d.batch (w.found d)).state
  { store := after
    claimedAt := fun key =>
      if key ∈ after.evt ∧ key ∉ (w.found d).evt then w.claimTime d else w.claimedAt key
    passed := passed }

/-- A call that succeeds, of a batch that is new or was passed before. -/
inductive Passes (P : World → Delivery → Prop) : World → World → Prop
  | first {w d} (hok : ∀ c, d.replies.reply c = .ok) (h : P w d) :
      Passes P w (w.deliver d (w.passed ++ [d.batch]))
  | again {w d} (hok : ∀ c, d.replies.reply c = .ok) (h : P w d) (hbatch : d.batch ∈ w.passed) :
      Passes P w (w.deliver d w.passed)

/-- Nothing was written or passed yet. -/
structure World.Fresh (w : World) : Prop where
  events : w.store.events = []
  evt : w.store.evt = []
  passed : w.passed = []

/-! ## Stays -/

/-- The crossings of each pair alternate, at times that increase. -/
def Alternates (history : List GeofenceTransition) : Prop :=
  ∀ p, (history.filter (·.pair = p)).IsChain fun a b => a.atTime < b.atTime ∧ a.type ≠ b.type

/-- `next` is the crossing of the same pair that follows `tr`. -/
structure Succeeds (history : List GeofenceTransition) (tr next : GeofenceTransition) : Prop where
  mem : next ∈ history
  pair : next.pair = tr.pair
  later : tr.atTime < next.atTime
  first : ∀ other ∈ history, other.pair = tr.pair → tr.atTime < other.atTime →
    next.atTime ≤ other.atTime

/-- The row is one that the crossing wrote. -/
def IsRowOf (tr : GeofenceTransition) (row : GeofenceEventRow) : Prop :=
  ∃ scope endedAt, row = { crossingRow scope tr with endedAt := endedAt }

/-- Each row is ended by the next crossing of its pair, where that comes soon enough. -/
def World.StaysEnd (w : World) : Prop :=
  ∀ row ∈ w.store.events, ∀ tr ∈ w.history, IsRowOf tr row →
    (∀ next, Succeeds w.history tr next → next.atTime ≤ tr.atTime + pairWindowMs →
      row.endedAt = some next.atTime) ∧
    ((∀ next, Succeeds w.history tr next → tr.atTime + pairWindowMs < next.atTime) →
      row.endedAt = none)

/-- The claims of the batch that an earlier call made are still there. -/
def World.InTime (w : World) (d : Delivery) : Prop :=
  d.batch ∈ w.passed → ∀ tr ∈ registeredOf d.registry d.batch,
    w.claimTime d < w.claimedAt tr.dedupKey + dedupTtlMs

instance (w : World) (d : Delivery) : Decidable (w.InTime d) := inferInstanceAs (Decidable (_ → _))

/-- Exactly these devices are registered. -/
def Delivery.Knows (d : Delivery) (known : DeviceId → Bool) : Prop :=
  ∀ x, (d.registry x).isSome = known x

/-- The end of a stay that began at a time. -/
def endOf (history : List GeofenceTransition) (p : GeofencePair) (start : Ms) : Option Ms :=
  ((history.find? fun tr => tr.pair = p ∧ start < tr.atTime).filter
    fun tr => tr.atTime - pairWindowMs ≤ start).map (·.atTime)

structure IsTable (seen crossings : List GeofenceTransition) (rows : List GeofenceEventRow) :
    Prop where
  length : rows.length = crossings.length
  row : ∀ {k : ℕ} {tr row}, crossings[k]? = some tr → rows[k]? = some row →
    IsRowOf tr row ∧ row.endedAt = endOf seen tr.pair tr.atTime

/-! ## What a crossing closes -/

lemma newest_spec (l : List (GeofenceEventRow × ℕ)) (best : Option (GeofenceEventRow × ℕ)) :
    let newest := l.foldl (fun best earlier =>
      match best with
      | some newest => if newest.1.atTime < earlier.1.atTime then some earlier else some newest
      | none => some earlier) best
    (newest = none ↔ best = none ∧ l = []) ∧ ∀ x, newest = some x →
      (best = some x ∨ x ∈ l) ∧ ∀ y, best = some y ∨ y ∈ l → y.1.atTime ≤ x.1.atTime := by
  induction l generalizing best with
  | nil =>
    refine ⟨by simp, fun x hx => ⟨.inl hx, fun y hy => ?_⟩⟩
    cases hx.symm.trans (hy.resolve_right not_mem_nil)
    exact le_rfl
  | cons earlier l ih =>
    cases best with
    | none =>
      obtain ⟨hnone, hsome⟩ := ih (some earlier)
      refine ⟨by simpa using hnone, fun x hx => ?_⟩
      obtain ⟨hmem, hmax⟩ := hsome x hx
      refine ⟨?_, fun y hy => hmax y ?_⟩
      · simpa [eq_comm] using hmem
      · simpa [eq_comm] using hy
    | some newest =>
      simp only [foldl_cons]
      split
      all_goals
        rename_i hless
        obtain ⟨hnone, hsome⟩ := ih (some _)
        refine ⟨by simpa using hnone, fun x hx => ?_⟩
        obtain ⟨hmem, hmax⟩ := hsome x hx
        have hbest := hmax _ (.inl rfl)
      · refine ⟨?_, ?_⟩
        · rcases hmem with h | h
          · exact .inr (mem_cons.2 (.inl (Option.some.inj h).symm))
          · exact .inr (mem_cons_of_mem _ h)
        · rintro y (h | h)
          · cases h
            exact hless.le.trans hbest
          · rcases mem_cons.1 h with rfl | h
            · exact hbest
            · exact hmax y (.inr h)
      · refine ⟨?_, ?_⟩
        · exact hmem.imp_right (mem_cons_of_mem _)
        · rintro y (h | h)
          · exact hmax y (.inl h)
          · rcases mem_cons.1 h with rfl | h
            · exact (not_lt.1 hless).trans hbest
            · exact hmax y (.inr h)

variable {row : GeofenceEventRow} {rows : List GeofenceEventRow}

lemma openRow_eq_none (h : openRow row rows = none) {earlier : GeofenceEventRow}
    (hearlier : earlier ∈ rows) :
    ends? row earlier = false := by
  have hnil := (newest_spec _ none).1.1 (Option.map_eq_none_iff.1 h)
  obtain ⟨k, hk⟩ := getElem?_of_mem hearlier
  have hmem : (earlier, k) ∈ rows.zipIdx := mk_mem_zipIdx_iff_getElem?.2 hk
  simpa using filter_eq_nil_iff.1 hnil.2 _ hmem

lemma openRow_eq_some {i : ℕ} (h : openRow row rows = some i) :
    ∃ newest, rows[i]? = some newest ∧ ends? row newest = true ∧
      ∀ earlier ∈ rows, ends? row earlier = true → earlier.atTime ≤ newest.atTime := by
  obtain ⟨⟨newest, j⟩, hnewest, rfl⟩ := Option.map_eq_some_iff.1 h
  obtain ⟨hmem, hmax⟩ := (newest_spec _ none).2 _ hnewest
  obtain ⟨hmem, hends⟩ := mem_filter.1 (hmem.resolve_left nofun)
  refine ⟨newest, mk_mem_zipIdx_iff_getElem?.1 hmem, hends, fun earlier hearlier hopen => ?_⟩
  obtain ⟨k, hk⟩ := getElem?_of_mem hearlier
  exact hmax (earlier, k) (.inr (mem_filter.2 ⟨mk_mem_zipIdx_iff_getElem?.2 hk, hopen⟩))

def closeRow (rows : List GeofenceEventRow) (row : GeofenceEventRow) : List GeofenceEventRow :=
  match openRow row rows with
  | none => rows
  | some i => rows.modify i ({ · with endedAt := some row.atTime })

/-! ## The order of a history -/

variable {history : List GeofenceTransition}

lemma Alternates.pairwise (h : Alternates history) :
    history.Pairwise fun a b => a.pair = b.pair → a.atTime < b.atTime := by
  refine pairwise_iff_forall_sublist.2 fun {a b} hsub hpair => ?_
  have hchain : (history.filter (·.pair = b.pair)).Pairwise fun a b => a.atTime < b.atTime :=
    ((h b.pair).imp fun _ _ hab => hab.1).pairwise
  have hboth := hsub.filter (·.pair = b.pair)
  rw [filter_eq_self.2 (by simp [hpair])] at hboth
  exact pairwise_iff_forall_sublist.1 hchain hboth

lemma Alternates.index_eq (h : Alternates history) {k l : ℕ} {a b : GeofenceTransition}
    (ha : history[k]? = some a) (hb : history[l]? = some b) (hpair : a.pair = b.pair)
    (htime : a.atTime = b.atTime) : k = l := by
  obtain ⟨hk, rfl⟩ := List.getElem?_eq_some_iff.1 ha
  obtain ⟨hl, rfl⟩ := List.getElem?_eq_some_iff.1 hb
  have hpairs := List.pairwise_iff_getElem.1 h.pairwise
  rcases lt_trichotomy k l with hlt | heq | hlt
  · exact absurd htime (hpairs k l hk hl hlt hpair).ne
  · exact heq
  · exact absurd htime (hpairs l k hl hk hlt hpair.symm).ne'

section Order

variable {seen rest : List GeofenceTransition} {x tr : GeofenceTransition}

lemma Alternates.lt_of_mem_seen (h : Alternates (seen ++ x :: rest)) (htr : tr ∈ seen)
    (hpair : tr.pair = x.pair) : tr.atTime < x.atTime :=
  (pairwise_append.1 h.pairwise).2.2 tr htr x mem_cons_self hpair

lemma Alternates.mem_seen (h : Alternates (seen ++ x :: rest)) (htr : tr ∈ seen ++ x :: rest)
    (hpair : tr.pair = x.pair) (hlt : tr.atTime < x.atTime) : tr ∈ seen := by
  rcases mem_append.1 htr with htr | htr
  · exact htr
  · have hafter := (pairwise_cons.1 (pairwise_append.1 h.pairwise).2.1).1
    rcases mem_cons.1 htr with rfl | htr
    · exact absurd hlt (lt_irrefl _)
    · exact absurd (hafter tr htr hpair.symm) hlt.not_gt

lemma Alternates.exists_last (h : Alternates (seen ++ x :: rest)) (htr : tr ∈ seen)
    (hpair : tr.pair = x.pair) : ∃ z ∈ seen, z.pair = x.pair ∧ z.type ≠ x.type ∧
      ∀ y ∈ seen, y.pair = x.pair → y.atTime ≤ z.atTime := by
  have hchain := h x.pair
  have hmem : tr ∈ seen.filter (·.pair = x.pair) := mem_filter.2 ⟨htr, by simpa using hpair⟩
  obtain hnil | ⟨zs, z, hzs⟩ := eq_nil_or_concat (seen.filter (·.pair = x.pair))
  · rw [hnil] at hmem
    exact absurd hmem not_mem_nil
  have hlast : z ∈ seen.filter (·.pair = x.pair) := by simp [hzs]
  rw [filter_append, filter_cons_of_pos (by simp), hzs, concat_eq_append,
    append_assoc, singleton_append] at hchain
  have hzx := (isChain_append_cons_cons.1 hchain).2.1
  obtain ⟨hz, hzpair⟩ := mem_filter.1 hlast
  refine ⟨z, hz, by simpa using hzpair, hzx.2, fun y hy hypair => ?_⟩
  have hy : y ∈ zs ++ [z] := by
    rw [← concat_eq_append, ← hzs]
    exact mem_filter.2 ⟨hy, by simpa using hypair⟩
  have hpairs := (hchain.imp fun _ _ hab => hab.1).pairwise
  rcases mem_append.1 hy with hy | hy
  · exact ((pairwise_append.1 hpairs).2.2 y hy z mem_cons_self).le
  · exact (mem_singleton.1 hy ▸ le_rfl)

/-! ## Tables -/

lemma endOf_of_last {p : GeofencePair} {start : Ms}
    (h : ∀ y ∈ seen, y.pair = p → y.atTime ≤ start) : endOf seen p start = none := by
  have hnone : (seen.find? fun tr => tr.pair = p ∧ start < tr.atTime) = none :=
    find?_eq_none.2 fun y hy hlater => by
      obtain ⟨hpair, hlt⟩ := of_decide_eq_true hlater
      exact (h y hy hpair).not_gt hlt
  rw [endOf, hnone]
  rfl

/-- One more crossing ends the stay of the one before it, where it is soon enough. -/
lemma endOf_concat (p : GeofencePair) (start : Ms) :
    endOf (seen ++ [x]) p start =
      if (∀ y ∈ seen, y.pair = p → y.atTime ≤ start) ∧ x.pair = p ∧ start < x.atTime ∧
          x.atTime - pairWindowMs ≤ start then
        some x.atTime
      else endOf seen p start := by
  unfold endOf
  rw [find?_append]
  cases hfind : seen.find? fun tr => tr.pair = p ∧ start < tr.atTime with
  | some y =>
    have hy : y.pair = p ∧ start < y.atTime := by simpa using find?_some hfind
    rw [if_neg fun h => (h.1 y (mem_of_find?_eq_some hfind) hy.1).not_gt hy.2]
    rfl
  | none =>
    have hlast : ∀ y ∈ seen, y.pair = p → y.atTime ≤ start := by
      simpa using hfind
    rw [Option.none_or, find?_singleton]
    by_cases hnext : x.pair = p ∧ start < x.atTime
    · rw [if_pos (decide_eq_true hnext), Option.filter_some]
      by_cases hwindow : x.atTime - pairWindowMs ≤ start
      · rw [if_pos (decide_eq_true hwindow), if_pos ⟨hlast, hnext.1, hnext.2, hwindow⟩]
        rfl
      · rw [if_neg (by simpa using hwindow), if_neg fun h => hwindow h.2.2.2]
        rfl
    · rw [if_neg (by simpa using hnext), if_neg fun h => hnext ⟨h.2.1, h.2.2.1⟩]

variable {row : GeofenceEventRow}

lemma ends?_iff {earlier : GeofenceEventRow} (hrow : IsRowOf x row)
    (hearlier : IsRowOf tr earlier) :
    ends? row earlier = true ↔
      tr.pair = x.pair ∧ tr.type ≠ x.type ∧ earlier.endedAt = none ∧ tr.atTime < x.atTime ∧
        x.atTime - pairWindowMs ≤ tr.atTime := by
  obtain ⟨_, _, rfl⟩ := hrow
  obtain ⟨_, _, rfl⟩ := hearlier
  simp only [ends?, crossingRow, GeofenceTransition.pair, Prod.mk.injEq, and_assoc]
  exact decide_eq_true_iff

lemma IsRowOf.atTime (h : IsRowOf x row) : row.atTime = x.atTime := by
  obtain ⟨_, _, rfl⟩ := h
  rfl

lemma IsRowOf.same (h : IsRowOf x row) (h' : IsRowOf tr row) :
    x.pair = tr.pair ∧ x.atTime = tr.atTime := by
  obtain ⟨_, _, rfl⟩ := h
  obtain ⟨_, _, heq⟩ := h'
  exact ⟨Prod.ext (congrArg (·.deviceId) heq) (congrArg (·.geofenceId) heq),
    congrArg (·.atTime) heq⟩

lemma IsRowOf.ended (h : IsRowOf x row) (endedAt : Option Ms) :
    IsRowOf x { row with endedAt := endedAt } := by
  obtain ⟨scope, _, rfl⟩ := h
  exact ⟨scope, endedAt, rfl⟩

/-- **One `UPDATE`** gives the rows the ends that one more crossing gives them. -/
lemma IsTable.close {rows : List GeofenceEventRow} (halt : Alternates (seen ++ x :: rest))
    (h : IsTable seen (seen ++ x :: rest) rows) (hrow : IsRowOf x row) :
    IsTable (seen ++ [x]) (seen ++ x :: rest) (closeRow rows row) := by
  unfold closeRow
  cases hopen : openRow row rows with
  | none =>
    refine ⟨h.length, fun {k tr earlier} htr hearlier => ?_⟩
    obtain ⟨hof, hended⟩ := h.row htr hearlier
    refine ⟨hof, ?_⟩
    rw [hended, endOf_concat, if_neg]
    rintro ⟨hlast, hpair, hlt, hwindow⟩
    have hseen := halt.mem_seen (mem_of_getElem? htr) hpair.symm hlt
    obtain ⟨z, hz, hzpair, hztype, hzlast⟩ := halt.exists_last hseen hpair.symm
    -- the crossing is the last of its pair, so its row could have been closed
    have htime := le_antisymm (hzlast tr hseen hpair.symm) (hlast z hz (hzpair.trans hpair))
    obtain ⟨l, hl⟩ := getElem?_of_mem (mem_append_left (x :: rest) hz)
    obtain rfl := halt.index_eq htr hl (hpair.symm.trans hzpair.symm) htime
    cases htr.symm.trans hl
    have hcloses : ends? row earlier = true :=
      (ends?_iff hrow hof).2 ⟨hzpair, hztype, hended.trans (endOf_of_last hlast), hlt, hwindow⟩
    rw [openRow_eq_none hopen (mem_of_getElem? hearlier)] at hcloses
    cases hcloses
  | some i =>
    obtain ⟨newest, hnewest, hends, hmax⟩ := openRow_eq_some hopen
    obtain ⟨ended, hi⟩ : ∃ tr, (seen ++ x :: rest)[i]? = some tr := by
      have hlt := (List.getElem?_eq_some_iff.1 hnewest).1
      exact ⟨_, List.getElem?_eq_getElem (h.length ▸ hlt)⟩
    obtain ⟨hof, hnone⟩ := h.row hi hnewest
    obtain ⟨hpair, -, -, hlt, hwindow⟩ := (ends?_iff hrow hof).1 hends
    have hseen := halt.mem_seen (mem_of_getElem? hi) hpair hlt
    -- the newest row that the crossing may end is the one of the crossing before it
    have hlast : ∀ y ∈ seen, y.pair = x.pair → y.atTime ≤ ended.atTime := by
      obtain ⟨z, hz, hzpair, hztype, hzlast⟩ := halt.exists_last hseen hpair
      obtain ⟨l, hl⟩ := List.getElem?_of_mem (List.mem_append_left (x :: rest) hz)
      obtain ⟨earlier, hearlier⟩ : ∃ earlier, rows[l]? = some earlier := by
        have hlt := (List.getElem?_eq_some_iff.1 hl).1
        exact ⟨_, List.getElem?_eq_getElem (h.length ▸ hlt)⟩
      obtain ⟨hzof, hzended⟩ := h.row hl hearlier
      have hclosed := hzended.trans (endOf_of_last fun y hy hypair =>
        hzlast y hy (hypair.trans hzpair))
      have hz_le := hmax earlier (mem_of_getElem? hearlier) <| (ends?_iff hrow hzof).2
        ⟨hzpair, hztype, hclosed, halt.lt_of_mem_seen hz hzpair,
          hwindow.trans (hzlast ended hseen hpair)⟩
      rw [hzof.atTime, hof.atTime] at hz_le
      exact fun y hy hypair => (hzlast y hy hypair).trans hz_le
    refine ⟨(length_modify ..).trans h.length, fun {k tr after} htr hafter => ?_⟩
    rw [getElem?_modify] at hafter
    obtain ⟨earlier, hearlier, hmodified⟩ := Option.map_eq_some_iff.1 hafter
    obtain ⟨hkof, hkended⟩ := h.row htr hearlier
    by_cases hk : i = k
    · subst hk
      cases hi.symm.trans htr
      rw [if_pos rfl] at hmodified
      subst hmodified
      refine ⟨hkof.ended _, ?_⟩
      rw [endOf_concat, if_pos ⟨fun y hy hypair => hlast y hy (hypair.trans hpair), hpair.symm, hlt,
        hwindow⟩, ← hrow.atTime]
    · rw [if_neg hk] at hmodified
      obtain rfl : earlier = after := hmodified
      refine ⟨hkof, ?_⟩
      rw [hkended, endOf_concat, if_neg]
      rintro ⟨hklast, hkpair, hklt, -⟩
      have hkseen := halt.mem_seen (mem_of_getElem? htr) hkpair.symm hklt
      refine hk (halt.index_eq hi htr (hpair.trans hkpair) (le_antisymm ?_ ?_))
      · exact hklast ended hseen (hpair.trans hkpair)
      · exact hlast tr hkseen hkpair.symm

end Order

/-- The row was just inserted. -/
def IsNew (tr : GeofenceTransition) (row : GeofenceEventRow) : Prop :=
  IsRowOf tr row ∧ row.endedAt = none

section Tables

variable {seen batch : List GeofenceTransition} {rows new : List GeofenceEventRow}

/-- **The `INSERT`**: no crossing so far has ended a stay that is new. -/
lemma IsTable.insert (halt : Alternates (seen ++ batch)) (h : IsTable seen seen rows)
    (hnew : Forall₂ IsNew batch new) : IsTable seen (seen ++ batch) (rows ++ new) := by
  refine ⟨by simp [h.length, hnew.length_eq], fun {k tr row} htr hrow => ?_⟩
  by_cases hk : k < seen.length
  · rw [getElem?_append_left hk] at htr
    rw [getElem?_append_left (h.length ▸ hk)] at hrow
    exact h.row htr hrow
  · rw [getElem?_append_right (not_lt.1 hk)] at htr
    rw [List.getElem?_append_right (h.length ▸ not_lt.1 hk), h.length] at hrow
    obtain ⟨hlt, rfl⟩ := List.getElem?_eq_some_iff.1 htr
    obtain ⟨hlt', rfl⟩ := List.getElem?_eq_some_iff.1 hrow
    obtain ⟨hof, hnone⟩ := hnew.get hlt hlt'
    refine ⟨hof, hnone.trans (endOf_of_last fun y hy hypair => le_of_lt ?_).symm⟩
    exact (pairwise_append.1 halt.pairwise).2.2 y hy _ (getElem_mem hlt) hypair

/-- **The `UPDATE`s** of a call. -/
lemma IsTable.closes (halt : Alternates (seen ++ batch)) (h : IsTable seen (seen ++ batch) rows)
    (hnew : Forall₂ IsNew batch new) :
    IsTable (seen ++ batch) (seen ++ batch) (new.foldl closeRow rows) := by
  induction hnew generalizing seen rows with
  | nil => simpa using h
  | @cons x row rest new hrow hrest ih =>
    have happend : seen ++ x :: rest = seen ++ [x] ++ rest := by simp
    rw [happend]
    exact ih (happend ▸ halt) (happend ▸ h.close halt hrow.1)

end Tables

/-! ## A call of `persist` -/

section Persist

variable {f : GeofenceReplies} {registry : DeviceId → Option RuleScope}

def rowsOf (registry : DeviceId → Option RuleScope) (crossings : List GeofenceTransition) :
    List GeofenceEventRow :=
  crossings.filterMap fun tr => (registry tr.deviceId).map (crossingRow · tr)

variable {crossings : List GeofenceTransition} {s : GeofenceStore}

lemma rowsOf_new (h : ∀ tr ∈ crossings, (registry tr.deviceId).isSome) :
    Forall₂ IsNew crossings (rowsOf registry crossings) := by
  induction crossings with
  | nil => exact .nil
  | cons tr crossings ih =>
    obtain ⟨scope, hscope⟩ := Option.isSome_iff_exists.1 (h tr mem_cons_self)
    rw [rowsOf, filterMap_cons_some (by rw [hscope]; rfl)]
    exact .cons ⟨⟨scope, none, rfl⟩, rfl⟩ (ih fun tr htr => h tr (mem_cons_of_mem _ htr))

lemma closeGeofenceStates_ok (hok : ∀ c, f.reply c = .ok) (n : ℕ) (rows : List GeofenceEventRow)
    (s : GeofenceStore) : ∃ s', closeGeofenceStates f n rows s = .done () s' ∧
      s'.events = rows.foldl closeRow s.events ∧ s'.evt = s.evt ∧ s.now ≤ s'.now := by
  induction rows generalizing n s with
  | nil => exact ⟨s, rfl, rfl, rfl, le_rfl⟩
  | cons row rows ih =>
    have hfirst := @ask_ok f (.closeState n) Unit (fun s =>
      match openRow row s.events with
      | none => (s, ())
      | some i =>
        ({ s with events := s.events.modify i ({ · with endedAt := some row.atTime }) }, ()))
      (hok _) s
    obtain ⟨s', hrest, hevents, hevt, hnow⟩ := ih (n + 1) _
    refine ⟨s', (bind_done hfirst).trans hrest, hevents.trans ?_, hevt.trans ?_, ?_⟩
    · rw [foldl_cons, closeRow]
      dsimp only
      cases openRow row s.events <;> rfl
    · dsimp only
      cases openRow row s.events <;> rfl
    · refine le_trans ?_ hnow
      dsimp only
      cases openRow row s.events <;> exact le_add_of_nonneg_right (Int.natCast_nonneg _)

variable {fresh : List GeofenceTransition}

lemma insertFresh_ok (hok : ∀ c, f.reply c = .ok) (claimed : List CrossingKey) (s : GeofenceStore) :
    let after := (insertFresh f registry fresh claimed s).state
    after.events = (rowsOf registry fresh).foldl closeRow (s.events ++ rowsOf registry fresh) ∧
      after.evt = s.evt ∧ s.now ≤ after.now := by
  by_cases hrows : rowsOf registry fresh = []
  · have hnone : insertFresh f registry fresh claimed s = .done [] s := by
      rw [insertFresh]
      exact congrFun (if_pos hrows) s
    rw [hnone, hrows]
    exact ⟨(append_nil _).symm, rfl, le_rfl⟩
  have hinsert := @ask_ok f .insert Unit
    (fun s => ({ s with events := s.events ++ rowsOf registry fresh }, ())) (hok _) s
  obtain ⟨s₁, hclose, hevents, hevt, hnow⟩ :=
    closeGeofenceStates_ok hok 0 (rowsOf registry fresh) { s with
      now := s.now + f.elapsed .insert
      events := s.events ++ rowsOf registry fresh }
  obtain ⟨s₂, hsides, hkeeps⟩ : ∃ s₂, saveSides f fresh s₁ = .done () s₂ ∧
      s₂.events = s₁.events ∧ s₂.evt = s₁.evt ∧ s₂.now = s₁.now := by
    refine ⟨_, pipeline_done (fun entry _ => by rw [hok]; nofun) s₁, ?_⟩
    exact foldlRecOn (motive := fun s : GeofenceStore => s.events = s₁.events ∧ s.evt = s₁.evt ∧
      s.now = s₁.now) _ _ ⟨rfl, rfl, rfl⟩ fun _ hs _ _ => hs
  have hdone : insertFresh f registry fresh claimed s = .done fresh s₂ := by
    rw [insertFresh]
    refine (congrFun (if_neg hrows) s).trans ?_
    refine (bind_done (attempt_done ((bind_done hinsert).trans
      (attempt_done hclose)))).trans (bind_done hsides)
  rw [hdone]
  obtain ⟨hev, hkeys, htime⟩ := hkeeps
  refine ⟨hev.trans hevents, hkeys.trans hevt, ?_⟩
  exact (le_add_of_nonneg_right (Int.natCast_nonneg _)).trans (hnow.trans htime.ge)

/-- The claims of the crossings, whatever the time, let through `fresh`. -/
def Claims (s : GeofenceStore) (crossings fresh : List GeofenceTransition) : Prop :=
  ∀ now, ∃ answers, accum claimCrossing crossings { s with now := now } =
      ({ s with now := now, evt := s.evt ++ fresh.map (·.dedupKey) }, answers) ∧
    freshOf crossings (answers.map some) = fresh

lemma claims_taken (h : ∀ tr ∈ crossings, tr.dedupKey ∈ s.evt) : Claims s crossings [] := by
  intro now
  induction crossings with
  | nil => exact ⟨[], by simp [accum], rfl⟩
  | cons tr crossings ih =>
    obtain ⟨answers, haccum, hfresh⟩ := ih fun tr htr => h tr (mem_cons_of_mem _ htr)
    refine ⟨false :: answers, ?_, hfresh⟩
    rw [accum, claimCrossing, if_pos (h tr mem_cons_self), haccum]

lemma claims_free (h : ∀ tr ∈ crossings, tr.dedupKey ∉ s.evt)
    (hnodup : crossings.Pairwise fun a b => a.dedupKey ≠ b.dedupKey) :
    Claims s crossings crossings := by
  intro now
  induction crossings generalizing s with
  | nil => exact ⟨[], by simp [accum], rfl⟩
  | cons tr crossings ih =>
    obtain ⟨hne, hrest⟩ := pairwise_cons.1 hnodup
    obtain ⟨answers, haccum, hfresh⟩ := ih (s := { s with evt := s.evt ++ [tr.dedupKey] })
      (fun tr' htr' => by simpa using ⟨h tr' (mem_cons_of_mem _ htr'), (hne tr' htr').symm⟩)
      hrest
    refine ⟨true :: answers, ?_, ?_⟩
    · rw [accum, claimCrossing, if_neg (h tr mem_cons_self), haccum]
      simp
    · exact congrArg (tr :: ·) hfresh

/-- **A call that succeeds**: it writes the crossings that its claims let through. -/
lemma persist_ok (hok : ∀ c, f.reply c = .ok) {batch : List GeofenceTransition}
    (hclaims : Claims s (registeredOf registry batch) fresh) :
    let after := (persist f registry batch s).state
    after.events = (rowsOf registry fresh).foldl closeRow (s.events ++ rowsOf registry fresh) ∧
      after.evt = s.evt ++ fresh.map (·.dedupKey) ∧
      s.now + (if batch = [] then 0 else (f.elapsed .scope : Ms)) ≤ after.now := by
  have hnone : registeredOf registry batch = [] → fresh = [] := fun hnil => by
    obtain ⟨answers, -, hfresh⟩ := hclaims 0
    rw [hnil] at hfresh
    exact hfresh.symm
  by_cases hbatch : batch = []
  · have hsame : persist f registry batch s = .done [] s := congrFun (if_pos hbatch) s
    rw [hsame, hnone (by rw [hbatch]; rfl), if_pos hbatch]
    exact ⟨(append_nil _).symm, (append_nil _).symm, (add_zero _).le⟩
  rw [if_neg hbatch]
  have hscope := @ask_ok f .scope Unit (fun s => (s, ())) (hok _) s
  by_cases hscoped : registeredOf registry batch = []
  · have hsame : persist f registry batch s = .done [] { s with now := s.now + f.elapsed .scope } :=
      (congrFun (if_neg hbatch) s).trans ((bind_done hscope).trans (congrFun (if_pos hscoped) _))
    rw [hsame, hnone hscoped]
    exact ⟨(append_nil _).symm, (append_nil _).symm, le_rfl⟩
  obtain ⟨answers, haccum, hfresh⟩ := hclaims (s.now + f.elapsed .scope)
  have hanswers := @answers_ok GeofenceCall _ _ _ claimCrossing (f.reply ∘ .claim)
    (fun n => hok _) (registeredOf registry batch) { s with now := s.now + f.elapsed .scope }
  rw [haccum] at hanswers
  have hpersist : persist f registry batch s = insertFresh f registry fresh
      (claimedOf (registeredOf registry batch) (answers.map some))
      { s with now := s.now + f.elapsed .scope, evt := s.evt ++ fresh.map (·.dedupKey) } := by
    refine (congrFun (if_neg hbatch) s).trans ((bind_done hscope).trans ?_)
    refine (congrFun (if_neg hscoped) _).trans ((bind_done hanswers).trans ?_)
    rw [hfresh]
  rw [hpersist]
  exact insertFresh_ok hok _ _

end Persist

/-! ## Runs -/

section Runs

variable {known : DeviceId → Bool} {w : World} {d : Delivery} {history : List GeofenceTransition}

/-- The crossings of the devices that are registered. -/
def ofKnown (known : DeviceId → Bool) (history : List GeofenceTransition) :
    List GeofenceTransition := history.filter fun tr => known tr.deviceId

lemma registeredOf_eq (h : d.Knows known) (batch : List GeofenceTransition) :
    registeredOf d.registry batch = ofKnown known batch :=
  congrArg (fun p => filter p batch) (funext fun tr => h tr.deviceId)

lemma mem_registeredOf {registry : DeviceId → Option RuleScope} {batch : List GeofenceTransition} :
    ∀ tr ∈ registeredOf registry batch, (registry tr.deviceId).isSome :=
  fun _ htr => (mem_filter.1 htr).2

lemma Alternates.ofKnown (h : Alternates history) : Alternates (ofKnown known history) := by
  intro p
  have hfilter : (Stays.ofKnown known history).filter (·.pair = p) =
      (history.filter (·.pair = p)).filter fun _ => known p.1 := by
    rw [Stays.ofKnown, filter_filter, filter_filter]
    refine filter_congr fun tr _ => ?_
    by_cases hpair : tr.pair = p
    · subst hpair
      simp [GeofenceTransition.pair]
    · simp [hpair]
  rw [hfilter]
  cases known p.1 with
  | true => simpa using h p
  | false => simp

lemma Alternates.keys_ne (h : Alternates history) :
    history.Pairwise fun a b => a.dedupKey ≠ b.dedupKey := by
  refine h.pairwise.imp fun {a b} hab hkey => ?_
  simp only [GeofenceTransition.dedupKey, CrossingKey.mk.injEq] at hkey
  exact (hab (Prod.ext hkey.1 hkey.2.1)).ne hkey.2.2.2

/-- What a run keeps. -/
structure Inv (known : DeviceId → Bool) (w : World) : Prop where
  table : IsTable (ofKnown known w.history) (ofKnown known w.history) w.store.events
  alive : ∀ tr ∈ ofKnown known w.history,
    w.store.now < w.claimedAt tr.dedupKey + dedupTtlMs → tr.dedupKey ∈ w.store.evt
  claimed : ∀ key ∈ w.store.evt, ∃ tr ∈ ofKnown known w.history, tr.dedupKey = key

lemma World.now_le_claimTime : w.store.now ≤ w.claimTime d := by
  have hasked : (0 : Ms) ≤ if d.batch = [] then 0 else (d.replies.elapsed .scope : Ms) := by
    split
    · exact le_rfl
    · exact Int.natCast_nonneg _
  exact (le_add_of_nonneg_right (Int.natCast_nonneg _)).trans (le_add_of_nonneg_right hasked)

lemma Inv.alive_deliver (h : Inv known w) {passed : List (List GeofenceTransition)}
    {keys : List CrossingKey} (hevt : (w.deliver d passed).store.evt = (w.found d).evt ++ keys)
    (hnow : w.claimTime d ≤ (w.deliver d passed).store.now) {tr : GeofenceTransition}
    (htr : tr ∈ ofKnown known w.history)
    (htime : (w.deliver d passed).store.now <
      (w.deliver d passed).claimedAt tr.dedupKey + dedupTtlMs) :
    tr.dedupKey ∈ (w.deliver d passed).store.evt := by
  by_contra hnot
  have hsame : (w.deliver d passed).claimedAt tr.dedupKey = w.claimedAt tr.dedupKey :=
    if_neg fun hnew => hnot hnew.1
  rw [hsame] at htime
  have hlate := hnow.trans_lt htime
  refine hnot (hevt ▸ mem_append_left keys (mem_filter.2 ⟨?_, decide_eq_true hlate⟩))
  exact h.alive tr htr (World.now_le_claimTime.trans_lt hlate)

/-- **A batch that is new** is written, and closes what it ends. -/
lemma Inv.first (h : Inv known w) (hok : ∀ c, d.replies.reply c = .ok) (hknows : d.Knows known)
    (halt : Alternates (w.deliver d (w.passed ++ [d.batch])).history) :
    Inv known (w.deliver d (w.passed ++ [d.batch])) := by
  have hhistory : ofKnown known (w.deliver d (w.passed ++ [d.batch])).history =
      ofKnown known w.history ++ ofKnown known d.batch := by
    simp [World.history, World.deliver, ofKnown]
  have halt : Alternates (ofKnown known w.history ++ ofKnown known d.batch) :=
    hhistory ▸ halt.ofKnown
  have hkeys := pairwise_append.1 halt.keys_ne
  have hclaims : Claims (w.found d) (registeredOf d.registry d.batch)
      (registeredOf d.registry d.batch) := by
    refine claims_free (fun tr htr hmem => ?_) (registeredOf_eq hknows d.batch ▸ hkeys.2.1)
    obtain ⟨tr', htr', hkey⟩ := h.claimed _ (mem_filter.1 hmem).1
    exact hkeys.2.2 tr' htr' tr (registeredOf_eq hknows d.batch ▸ htr) hkey
  obtain ⟨hevents, hevt, hnow⟩ := persist_ok hok hclaims
  have hnew := rowsOf_new (@mem_registeredOf d.registry d.batch)
  rw [registeredOf_eq hknows] at hnew hevt hevents
  refine ⟨?_, fun tr htr htime => ?_, fun key hkey => ?_⟩
  · rw [hhistory]
    have htable := (h.table.insert halt hnew).closes halt hnew
    exact hevents ▸ htable
  · rw [hhistory] at htr
    rcases mem_append.1 htr with htr | htr
    · exact h.alive_deliver hevt hnow htr htime
    · exact hevt ▸ mem_append_right _ (mem_map_of_mem htr)
  · rw [hhistory]
    rcases mem_append.1 (hevt ▸ hkey) with hkey | hkey
    · obtain ⟨tr, htr, heq⟩ := h.claimed key (mem_filter.1 hkey).1
      exact ⟨tr, mem_append_left _ htr, heq⟩
    · obtain ⟨tr, htr, heq⟩ := mem_map.1 hkey
      exact ⟨tr, mem_append_right _ htr, heq⟩

/-- **A batch that is passed again**, in time, changes nothing. -/
lemma Inv.again (h : Inv known w) (hok : ∀ c, d.replies.reply c = .ok) (hknows : d.Knows known)
    (htime : w.InTime d) (hbatch : d.batch ∈ w.passed) : Inv known (w.deliver d w.passed) := by
  have hclaims : Claims (w.found d) (registeredOf d.registry d.batch) [] := by
    refine claims_taken fun tr htr => ?_
    have hlate := htime hbatch tr htr
    rw [registeredOf_eq hknows] at htr
    refine mem_filter.2 ⟨h.alive tr ?_ (World.now_le_claimTime.trans_lt hlate),
      decide_eq_true hlate⟩
    obtain ⟨hmem, hdevice⟩ := mem_filter.1 htr
    exact mem_filter.2 ⟨mem_flatten.2 ⟨d.batch, hbatch, hmem⟩, hdevice⟩
  obtain ⟨hevents, hevt, hnow⟩ := persist_ok hok hclaims
  refine ⟨?_, fun tr htr => h.alive_deliver hevt hnow htr, fun key hkey => ?_⟩
  · have hsame : (w.deliver d w.passed).store.events = w.store.events :=
      hevents.trans (append_nil _)
    exact hsame ▸ h.table
  · have hsame : (w.deliver d w.passed).store.evt = (w.found d).evt := hevt.trans (append_nil _)
    exact h.claimed key (mem_filter.1 (hsame ▸ hkey)).1

lemma Inv.run {w₀ : World} (hstart : w₀.Fresh)
    (hrun : ReflTransGen (Passes fun w d => d.Knows known ∧ w.InTime d) w₀ w)
    (halt : Alternates w.history) : Inv known w := by
  induction hrun with
  | refl =>
    have hnil : w₀.history = [] := by rw [World.history, hstart.passed]; rfl
    refine ⟨⟨?_, fun hk => ?_⟩, fun tr htr => ?_, fun key hkey => ?_⟩
    · rw [hnil, hstart.events]
      rfl
    · rw [hnil] at hk
      cases hk
    · rw [hnil] at htr
      cases htr
    · rw [hstart.evt] at hkey
      cases hkey
  | tail _ hstep ih =>
    cases hstep with
    | first hok h =>
      refine (ih fun p => ?_).first hok h.1 halt
      have hall := halt p
      rw [World.history, World.deliver, flatten_append, filter_append] at hall
      exact hall.left_of_append
    | again hok h hbatch => exact (ih halt).again hok h.1 h.2 hbatch

end Runs

/-! ## The end of each stay -/

lemma endOf_ofKnown {known : DeviceId → Bool} {p : GeofencePair} (hknown : known p.1 = true)
    (start : Ms) :
    endOf (ofKnown known history) p start = endOf history p start := by
  rw [endOf, endOf, ofKnown, find?_filter]
  congr 2
  refine congrArg (find? · history) (funext fun tr => ?_)
  by_cases hpair : tr.pair = p
  · subst hpair
    have hdevice : known tr.deviceId = true := hknown
    simp [hdevice]
  · simp [hpair]

/-- The end of a stay is the crossing that follows, where that comes soon enough. -/
lemma endOf_spec (halt : Alternates history) (tr : GeofenceTransition) :
    (∀ next, Succeeds history tr next → next.atTime ≤ tr.atTime + pairWindowMs →
      endOf history tr.pair tr.atTime = some next.atTime) ∧
    ((∀ next, Succeeds history tr next → tr.atTime + pairWindowMs < next.atTime) →
      endOf history tr.pair tr.atTime = none) := by
  unfold endOf
  cases hfind : history.find? fun y => y.pair = tr.pair ∧ tr.atTime < y.atTime with
  | none =>
    have hnone : ∀ y ∈ history, y.pair = tr.pair → y.atTime ≤ tr.atTime := by simpa using hfind
    exact ⟨fun next hnext _ => absurd hnext.later (hnone next hnext.mem hnext.pair).not_gt,
      fun _ => rfl⟩
  | some y =>
    obtain ⟨hy, before, after, rfl, hbefore⟩ := find?_eq_some_iff_append.1 hfind
    obtain ⟨hpair, hlater⟩ := of_decide_eq_true hy
    have hfirst : Succeeds (before ++ y :: after) tr y := by
      refine ⟨by simp, hpair, hlater, fun other hother hotherpair hlt => ?_⟩
      rcases mem_append.1 hother with hother | hother
      · have hearly := hbefore other hother
        simp [hotherpair, hlt] at hearly
      · rcases mem_cons.1 hother with rfl | hother
        · exact le_rfl
        · have hpairs := (pairwise_append.1 halt.pairwise).2.1
          exact ((pairwise_cons.1 hpairs).1 other hother (hpair.trans hotherpair.symm)).le
    refine ⟨fun next hnext hwindow => ?_, fun hlong => ?_⟩
    · have htime : next.atTime = y.atTime :=
        le_antisymm (hnext.first y hfirst.mem hpair hlater)
          (hfirst.first next hnext.mem hnext.pair hnext.later)
      rw [Option.filter_some, if_pos (decide_eq_true (sub_le_iff_le_add.2 (htime ▸ hwindow))), htime]
      rfl
    · have hout := hlong y hfirst
      rw [Option.filter_some, if_neg (by simpa using hout)]
      rfl

/-- In a run in which no batch is passed again after the claims of it are gone, and in which the
same devices are registered throughout, after every call the crossings of these devices have one row
each, and each row is ended by the crossing that follows, where that comes soon enough. -/
theorem stays_end {known : DeviceId → Bool} {w₀ w : World} (hstart : w₀.Fresh)
    (hrun : ReflTransGen (Passes fun w d => d.Knows known ∧ w.InTime d) w₀ w)
    (halt : Alternates w.history) :
    List.Forall₂ IsRowOf (w.history.filter fun tr => known tr.deviceId) w.store.events ∧
      w.StaysEnd := by
  have htable := (Inv.run hstart hrun halt).table
  refine ⟨List.forall₂_iff_get.2 ⟨htable.length.symm, fun k htr hrow => ?_⟩, ?_⟩
  · exact (htable.row (getElem?_eq_getElem htr) (getElem?_eq_getElem hrow)).1
  intro row hrow tr _ hof
  obtain ⟨k, hk⟩ := List.getElem?_of_mem hrow
  have hlt := htable.length ▸ (List.getElem?_eq_some_iff.1 hk).1
  obtain ⟨hkof, hended⟩ := htable.row (List.getElem?_eq_getElem hlt) hk
  obtain ⟨hpair, htime⟩ := hkof.same hof
  have hknown := (mem_filter.1 (getElem_mem hlt)).2
  rw [hended, endOf_ofKnown hknown, hpair, htime]
  exact endOf_spec halt tr

/-! ## A visit -/

def depotCrossing (type : TransitionType) (atTime : Ms) : GeofenceTransition where
  deviceId := 1
  geofenceId := "depot"
  geofenceName := "Depot"
  type := type
  atTime := atTime
  lat := 0
  lon := 0

def sampleDelivery (wait : ℕ) (registered : Bool) (batch : List GeofenceTransition) : Delivery where
  wait := wait
  registry := fun _ => if registered then some ⟨"tenant", "account"⟩ else none
  batch := batch
  replies := ⟨fun _ => .ok, fun _ => 0⟩

def newWorld : World where
  store := ⟨0, fun _ => false, [], [], fun _ => none, [], []⟩
  claimedAt := fun _ => 0
  passed := []

def entered : GeofenceTransition := depotCrossing .enter 0

def left : GeofenceTransition := depotCrossing .exit 1000

/-- A visit whose first batch is passed again before the second. -/
def visited (wait : ℕ) : World :=
  ((newWorld.deliver (sampleDelivery 0 true [entered]) [[entered]]).deliver
    (sampleDelivery wait true [entered]) [[entered]]).deliver
      (sampleDelivery 0 true [left]) [[entered], [left]]

/-- A visit whose device is registered after its first batch, which is passed again at the end. -/
def registeredLate : World :=
  ((newWorld.deliver (sampleDelivery 0 false [entered]) [[entered]]).deliver
    (sampleDelivery 0 true [left]) [[entered], [left]]).deliver
      (sampleDelivery 0 true [entered]) [[entered], [left]]

lemma runs_visited {P : World → Delivery → Prop} {wait : ℕ}
    (hfirst : P newWorld (sampleDelivery 0 true [entered]))
    (hagain : P (newWorld.deliver (sampleDelivery 0 true [entered]) [[entered]])
      (sampleDelivery wait true [entered]))
    (hleft : P ((newWorld.deliver (sampleDelivery 0 true [entered]) [[entered]]).deliver
      (sampleDelivery wait true [entered]) [[entered]]) (sampleDelivery 0 true [left])) :
    ReflTransGen (Passes P) newWorld (visited wait) :=
  ((ReflTransGen.single (.first (fun _ => rfl) hfirst)).tail
    (.again (fun _ => rfl) hagain (mem_singleton.2 rfl))).tail (.first (fun _ => rfl) hleft)

lemma alternates_visit : Alternates [entered, left] := by
  intro p
  by_cases hp : (1, "depot") = p
  · have hall : [entered, left].filter (·.pair = p) = [entered, left] :=
      filter_eq_self.2 (by simp [entered, left, depotCrossing, GeofenceTransition.pair, hp])
    rw [hall]
    decide
  · have hnone : [entered, left].filter (·.pair = p) = [] :=
      filter_eq_nil_iff.2 (by simp [entered, left, depotCrossing, GeofenceTransition.pair, hp])
    rw [hnone]
    exact .nil

lemma not_staysEnd {w : World} (hhistory : w.history = [entered, left])
    (hopen : crossingRow ⟨"tenant", "account"⟩ entered ∈ w.store.events) : ¬ w.StaysEnd := by
  intro h
  have hended := (h _ hopen entered (by simp [hhistory])
    ⟨⟨"tenant", "account"⟩, none, rfl⟩).1 left
    ⟨by simp [hhistory], rfl, by decide, by simp [hhistory, entered, left, depotCrossing]⟩
    (by decide)
  cases hended

/-- **A stay that is left open**: a batch is passed again a day later, when its claims are gone, or
the device of a crossing was registered only after the crossing was passed first. -/
theorem stay_left_open :
    (∃ w, ReflTransGen (Passes fun _ d => d.Knows fun _ => true) newWorld w ∧
      Alternates w.history ∧ ¬ w.StaysEnd) ∧
    ∃ w, ReflTransGen (Passes World.InTime) newWorld w ∧ Alternates w.history ∧ ¬ w.StaysEnd := by
  refine ⟨⟨visited (24 * 3600 * 1000), runs_visited ?_ ?_ ?_, alternates_visit, ?_⟩,
    registeredLate, ?_, alternates_visit, ?_⟩
  · exact fun _ => rfl
  · exact fun _ => rfl
  · exact fun _ => rfl
  · exact not_staysEnd rfl (by decide +kernel)
  · refine ((ReflTransGen.single (.first (fun _ => rfl) ?_)).tail (.first (fun _ => rfl) ?_)).tail
      (.again (fun _ => rfl) ?_ (mem_cons_self))
    all_goals decide +kernel
  · exact not_staysEnd rfl (by decide +kernel)

theorem stays_end_visited :
    Forall₂ IsRowOf ((visited 3600000).history.filter fun _ => true)
      (visited 3600000).store.events ∧ (visited 3600000).StaysEnd := by
  refine @stays_end (fun _ => true) newWorld (visited 3600000) ⟨rfl, rfl, rfl⟩
    (runs_visited ⟨fun _ => rfl, ?_⟩ ⟨fun _ => rfl, ?_⟩ ⟨fun _ => rfl, ?_⟩) alternates_visit
  all_goals decide +kernel

end Orbetra.Stays
