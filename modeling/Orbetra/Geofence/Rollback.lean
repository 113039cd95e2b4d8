import Orbetra.Framework.Alternation
import Orbetra.Geofence.Hysteresis

/-!
# Rolling a batch back

The transitions of a pair within a batch alternate, so that the first of them tells the side on
which the pair was before the batch (`feed_alternates`).  `rollback` writes it last, whatever else
the batch holds; and the pair crosses again when the records after the batch show it on the other
side. -/

namespace Orbetra

open Function List

def TransitionType.side : TransitionType → Side
  | .enter => .inside
  | .exit => .outside

def sideShown (p : GeofencePair) (t : GeofenceTransition) : Option Side :=
  if t.pair = p then some t.type.side else none

namespace GeofenceEngine

variable {fencesFor : DeviceId → List GeofenceDef} {insideFor : GeofencePair → Bool}
  {p : GeofencePair}

/-! ## Transitions alternate -/

lemma observe_alternates (threshold : Side → ℕ) (st : PairState) (r : NormalizedRecord)
    (gf : GeofenceDef) : Alternation st.confirmed
      ((st.observe threshold (r, gf)).2.filterMap (sideShown (r.deviceId, gf.id)))
      (st.observe threshold (r, gf)).1.confirmed := by
  unfold PairState.observe
  dsimp only
  split
  · exact .nil _
  · rename_i hside
    generalize (if st.pendingSide = some (gf.sideOf r) then _ else _ : ℕ) = count
    split
    · have hshown : sideShown (r.deviceId, gf.id)
          ⟨r.deviceId, gf.id, gf.name, (gf.sideOf r).crossing, r.fixTime, r.lat, r.lon⟩ =
            some (gf.sideOf r) := by
        show (if (r.deviceId, gf.id) = (r.deviceId, gf.id) then some (gf.sideOf r).crossing.side
          else none) = _
        rw [if_pos rfl]
        cases gf.sideOf r <;> rfl
      rw [filterMap_cons_some hshown, PairState.confirmed_settled]
      exact .cons (Ne.symm hside) (.nil _)
    · exact .nil _

variable {r : NormalizedRecord} {gf : GeofenceDef}

lemma filterMap_sideShown_of_ne {threshold : Side → ℕ} {st : PairState}
    (h : (r.deviceId, gf.id) ≠ p) :
    (st.observe threshold (r, gf)).2.filterMap (sideShown p) = [] := by
  refine filterMap_eq_nil_iff.2 fun t ht => if_neg fun hp => h ?_
  rw [← pair_of_observe ht, hp]

lemma step_alternates (e : GeofenceEngine) (r : NormalizedRecord) (gf : GeofenceDef) :
    Alternation (e.stateOf insideFor p).confirmed
      ((e.step insideFor r gf).2.filterMap (sideShown p))
      ((e.step insideFor r gf).1.stateOf insideFor p).confirmed := by
  by_cases hp : (r.deviceId, gf.id) = p
  · subst hp
    have hstate : (e.step insideFor r gf).1.stateOf insideFor (r.deviceId, gf.id) =
        ((e.stateOf insideFor (r.deviceId, gf.id)).observe e.threshold (r, gf)).1 := by
      unfold step stateOf
      dsimp only
      rw [update_self]
      rfl
    rw [hstate]
    exact observe_alternates _ _ _ _
  · rw [stateOf_step_of_ne hp]
    show Alternation _ ((PairState.observe _ _ _).2.filterMap _) _
    rw [filterMap_sideShown_of_ne hp]
    exact .nil _

lemma feedRecord_alternates (s : GeofenceEngine × (DeviceId → Option (List GeofenceDef)))
    (r : NormalizedRecord) : Alternation (s.1.stateOf insideFor p).confirmed
      ((feedRecord fencesFor insideFor s r).2.filterMap (sideShown p))
      ((feedRecord fencesFor insideFor s r).1.1.stateOf insideFor p).confirmed := by
  unfold feedRecord
  split
  · exact Alternation.outputs (step insideFor r) (fun e => (e.stateOf insideFor p).confirmed)
      (fun e gf _ => step_alternates e r gf)
      { s.1 with lastSeen := update s.1.lastSeen r.deviceId (some r.fixTime) }
  · exact .nil _

variable (fencesFor insideFor p) in
/-- **The transitions of a pair alternate**, from the side on which it was before the batch. -/
lemma feed_alternates (e : GeofenceEngine) (batch : List NormalizedRecord) :
    ∃ side, Alternation (e.stateOf insideFor p).confirmed
      ((e.feed fencesFor insideFor batch).2.filterMap (sideShown p)) side :=
  ⟨_, Alternation.outputs (feedRecord fencesFor insideFor)
    (fun s => (s.1.stateOf insideFor p).confirmed)
    (fun s r _ => feedRecord_alternates s r) (e, fun _ => none)⟩

/-! ## Rollback -/

/-- A transition that is rolled back. -/
def rollbackOne (t : GeofenceTransition) (e : GeofenceEngine) : GeofenceEngine :=
  match e.state t.pair with
  | none => e
  | some _ => { e with state := update e.state t.pair (some (.settled (t.type = .exit))) }

lemma rollback_cons (e : GeofenceEngine) (t : GeofenceTransition) (ts : List GeofenceTransition) :
    e.rollback (t :: ts) = rollbackOne t (e.rollback ts) := rfl

variable {t : GeofenceTransition} {e : GeofenceEngine}

lemma rollbackOne_of_ne (h : t.pair ≠ p) : (rollbackOne t e).state p = e.state p := by
  unfold rollbackOne
  split
  · rfl
  · exact update_of_ne (Ne.symm h) _ _

lemma rollbackOne_self (e : GeofenceEngine) (t : GeofenceTransition) :
    (rollbackOne t e).state t.pair = (e.state t.pair).map fun _ => .settled (t.type = .exit) := by
  unfold rollbackOne
  split
  · rename_i hnone
    rw [hnone]
    rfl
  · rename_i hsome
    rw [hsome]
    exact update_self _ _ _

lemma rollbackOne_fields (e : GeofenceEngine) (t : GeofenceTransition) :
    (rollbackOne t e).lastSeen = e.lastSeen ∧ (rollbackOne t e).threshold = e.threshold := by
  unfold rollbackOne
  split <;> exact ⟨rfl, rfl⟩

lemma rollback_fields (e : GeofenceEngine) (ts : List GeofenceTransition) :
    (e.rollback ts).lastSeen = e.lastSeen ∧ (e.rollback ts).threshold = e.threshold := by
  induction ts with
  | nil => exact ⟨rfl, rfl⟩
  | cons t ts ih =>
    rw [rollback_cons, (rollbackOne_fields _ t).1, (rollbackOne_fields _ t).2]
    exact ih

/-- A pair is rolled back to where the first of its transitions has found it. -/
lemma rollback_state (e : GeofenceEngine) (ts : List GeofenceTransition) :
    (e.rollback ts).state p =
      match ts.filterMap (sideShown p) with
      | [] => e.state p
      | side :: _ => (e.state p).map fun _ => .settled (side.other = .inside) := by
  induction ts with
  | nil => rfl
  | cons t ts ih =>
    rw [rollback_cons]
    by_cases hp : t.pair = p
    · subst hp
      have hshown : sideShown t.pair t = some t.type.side := if_pos rfl
      rw [rollbackOne_self, ih, filterMap_cons_some hshown]
      have htype : decide (t.type = .exit) = decide (t.type.side.other = .inside) := by
        cases t.type <;> rfl
      dsimp only
      rw [htype]
      cases ts.filterMap (sideShown t.pair) with
      | nil => rfl
      | cons side sides => exact Option.map_map _ _ _
    · have hshown : sideShown p t = none := if_neg hp
      rw [rollbackOne_of_ne hp, ih, filterMap_cons_none hshown]

/-! ## What a batch leaves of its pairs -/

/-- The pair has a state, and its fence is noted. -/
structure Kept (p : GeofencePair) (s : GeofenceEngine × (DeviceId → Option (List GeofenceDef))) :
    Prop where
  state : (s.1.state p).isSome = true
  noted : ∀ fences ∈ s.2 p.1, p.2 ∈ fences.map (·.id)

variable {s : GeofenceEngine × (DeviceId → Option (List GeofenceDef))}

lemma Kept.prune (h : Kept p s) : ((s.1.prune s.2).state p).isSome = true := by
  unfold GeofenceEngine.prune
  dsimp only
  split
  · exact h.state
  · rename_i fences hfences
    rw [if_pos (h.noted fences hfences)]
    exact h.state

lemma isSome_step (h : (e.state p).isSome = true) (r : NormalizedRecord) (gf : GeofenceDef) :
    ((e.step insideFor r gf).1.state p).isSome = true := by
  unfold step
  dsimp only
  by_cases hp : p = (r.deviceId, gf.id)
  · subst hp
    rw [update_self]
    rfl
  · rw [update_of_ne hp]
    exact h

lemma isSome_fences (h : (e.state p).isSome = true) (r : NormalizedRecord)
    (fences : List GeofenceDef) :
    ((Transducer.stateAfter (step insideFor r) e fences).state p).isSome = true := by
  induction fences generalizing e with
  | nil => exact h
  | cons gf gfs ih => exact ih (isSome_step h r gf)

/-- A pair that makes a transition at a record is one of the device's, and has a state from then
on. -/
lemma isSome_of_transition {fences : List GeofenceDef}
    (ht : t ∈ Transducer.outputs (step insideFor r) e fences) :
    (∃ gf ∈ fences, t.pair = (r.deviceId, gf.id)) ∧
      ((Transducer.stateAfter (step insideFor r) e fences).state t.pair).isSome = true := by
  obtain ⟨before, gf, after, rfl, hmem⟩ := Transducer.mem_outputs_iff.1 ht
  have hpair : t.pair = (r.deviceId, gf.id) := pair_of_observe hmem
  refine ⟨⟨gf, by simp, hpair⟩, ?_⟩
  rw [Transducer.stateAfter_append, Transducer.stateAfter_cons]
  refine isSome_fences ?_ r after
  rw [hpair]
  unfold step
  dsimp only
  rw [update_self]
  rfl

lemma Kept.feedRecord (h : Kept p s) (hfence : p.2 ∈ (fencesFor p.1).map (·.id))
    (r : NormalizedRecord) :
    Kept p (feedRecord fencesFor insideFor s r).1 := by
  unfold GeofenceEngine.feedRecord
  split
  · have hseen : ({ s.1 with
        lastSeen := update s.1.lastSeen r.deviceId (some r.fixTime) } :
          GeofenceEngine).state = s.1.state := rfl
    refine ⟨isSome_fences (hseen ▸ h.state) r _, fun fences hfences => ?_⟩
    dsimp only at hfences
    by_cases hd : p.1 = r.deviceId
    · rw [← hd, update_self] at hfences
      cases hfences
      exact hfence
    · rw [update_of_ne hd] at hfences
      exact h.noted fences hfences
  · exact h

variable {batch : List NormalizedRecord}

/-- **A pair that makes a transition in a batch** still has a state when the batch has been fed. -/
lemma isSome_of_mem_feed (ht : t ∈ (e.feed fencesFor insideFor batch).2) :
    (((e.feed fencesFor insideFor batch).1).state t.pair).isSome = true := by
  have hloop : t ∈ Transducer.outputs (GeofenceEngine.feedRecord fencesFor insideFor)
    (e, fun _ => none) batch := ht
  obtain ⟨before, r, after, rfl, hmem⟩ := Transducer.mem_outputs_iff.1 hloop
  generalize hs : Transducer.stateAfter (GeofenceEngine.feedRecord fencesFor insideFor)
    (e, fun _ => none) before = s at hmem
  have hnow : t.pair.2 ∈ (fencesFor t.pair.1).map (·.id) ∧
      Kept t.pair (GeofenceEngine.feedRecord fencesFor insideFor s r).1 := by
    unfold GeofenceEngine.feedRecord at hmem ⊢
    split at hmem
    · rename_i haccepts
      obtain ⟨⟨gf, hgf, hpair⟩, hstate⟩ := isSome_of_transition hmem
      have hfence : t.pair.2 ∈ (fencesFor t.pair.1).map (·.id) := by
        rw [hpair]
        exact mem_map_of_mem hgf
      refine ⟨hfence, ?_⟩
      rw [if_pos haccepts]
      refine ⟨hstate, fun fences hfences => ?_⟩
      have hd : t.pair.1 = r.deviceId := congrArg Prod.fst hpair
      dsimp only at hfences
      rw [hd, update_self] at hfences
      cases hfences
      rw [hd] at hfence
      exact hfence
    · cases hmem
  have hend : Kept t.pair (Transducer.stateAfter (GeofenceEngine.feedRecord fencesFor insideFor)
      (e, fun _ => none) (before ++ r :: after)) := by
    rw [Transducer.stateAfter_append, hs, Transducer.stateAfter_cons]
    exact Transducer.stateAfter_invariant hnow.2 fun s r _ hs => hs.feedRecord hnow.1 r
  exact hend.prune

/-! ## Crossing again -/

lemma pairStep_max (threshold : Side → ℕ) (gf : GeofenceDef) :
    pairStep threshold gf = pairStep (fun side => max 1 (threshold side)) gf := by
  have hobserve : ∀ (st : PairState) (x : NormalizedRecord × GeofenceDef),
      st.observe threshold x = st.observe (fun side => max 1 (threshold side)) x := by
    intro st x
    unfold PairState.observe
    dsimp only
    have hcount :
        1 ≤ if st.pendingSide = some (x.2.sideOf x.1) then st.pendingCount + 1 else 1 := by
      split
      · exact Nat.le_add_left 1 _
      · exact le_rfl
    simp only [max_le_iff, hcount, true_and]
  unfold pairStep
  simp only [hobserve _ _]

/-- Records on the other side, no more than a streak of them, confirm it at the end of the streak.
-/
lemma crossings_streak (threshold : Side → ℕ) {side : Side} (since : List NormalizedRecord)
    {records : List NormalizedRecord} (hsince : ∀ r ∈ since, gf.sideOf r = side.other)
    (hrecords : ∀ r ∈ records, gf.sideOf r = side.other) (hne : records ≠ [])
    (hlength : since.length + records.length = threshold side.other) :
    ∃ r ∈ records, crossings threshold gf side since records = [crossingAt gf side.other r] := by
  induction records generalizing since with
  | nil => exact absurd rfl hne
  | cons r rs ih =>
    obtain ⟨hr, hrs⟩ := forall_mem_cons.1 hrecords
    have hall : ∀ r' ∈ r :: since, gf.sideOf r' = side.other := forall_mem_cons.2 ⟨hr, hsince⟩
    unfold crossings
    cases rs with
    | nil =>
      have hconfirms : Confirms (threshold side.other) gf side.other (r :: since) := by
        refine ⟨?_, fun r' hr' => hall r' (mem_of_mem_take hr')⟩
        rw [← hlength]
        exact le_rfl
      rw [if_pos hconfirms]
      exact ⟨r, mem_cons_self, rfl⟩
    | cons r' rs =>
      have hconfirms : ¬Confirms (threshold side.other) gf side.other (r :: since) := by
        intro hconfirms
        have hle := hconfirms.1
        rw [← hlength] at hle
        simp only [length_cons] at hle
        omega
      rw [if_neg hconfirms]
      obtain ⟨r₁, hr₁, hcross⟩ := ih (r :: since) hall hrs (cons_ne_nil _ _) (by
        rw [← hlength]
        simp only [length_cons]
        omega)
      exact ⟨r₁, mem_cons_of_mem _ hr₁, hcross⟩

lemma rollback_settles (ht : t ∈ (e.feed fencesFor insideFor batch).2) :
    ((e.feed fencesFor insideFor batch).1.rollback (e.feed fencesFor insideFor batch).2).state
        t.pair = some (.settled ((e.stateOf insideFor t.pair).confirmed = .inside)) := by
  obtain ⟨st, hst⟩ := Option.isSome_iff_exists.1 (isSome_of_mem_feed ht)
  obtain ⟨side, halternates⟩ := e.feed_alternates fencesFor insideFor t.pair batch
  have hshown : t.type.side ∈ (e.feed fencesFor insideFor batch).2.filterMap (sideShown t.pair) :=
    mem_filterMap.2 ⟨t, ht, if_pos rfl⟩
  rw [rollback_state, hst]
  generalize (e.feed fencesFor insideFor batch).2.filterMap (sideShown t.pair) = shown
    at halternates hshown
  cases halternates with
  | nil => cases hshown
  | @cons _ first _ _ hne =>
    rw [Side.eq_other_of_ne hne]
    rfl

end GeofenceEngine

/-- **A batch that is rolled back.**  A pair that made a transition in it is again on the side where
it was before the batch, and crosses again to the side it had reached, if that is the other, when a
streak of records shows it there; the other pairs are as the batch left them. -/
theorem rollback_restores (fencesFor : DeviceId → List GeofenceDef)
    (insideFor : GeofencePair → Bool) (e : GeofenceEngine) (batch : List NormalizedRecord)
    (p : GeofencePair) :
    let fed := e.feed fencesFor insideFor batch
    let back := fed.1.rollback fed.2
    (p ∈ fed.2.map (·.pair) → (back.state p).map PairState.confirmed =
        some (e.stateOf insideFor p).confirmed) ∧
      (p ∉ fed.2.map (·.pair) → back.state p = fed.1.state p) ∧
      ∀ t, (fed.2.filter (·.pair = p)).getLast? = some t →
        t.type.side ≠ (e.stateOf insideFor p).confirmed →
        ∀ gf ∈ fencesFor p.1, gf.id = p.2 → ((fencesFor p.1).map (·.id)).Nodup →
        ∀ later : List NormalizedRecord,
          let streak := countedRecords (back.lastSeen p.1) (later.filter (·.deviceId = p.1))
          streak ≠ [] → streak.length = e.threshold t.type.side →
          (∀ r ∈ streak, gf.sideOf r = t.type.side) →
            ∃ r ∈ streak, (back.feed fencesFor insideFor later).2.filter (·.pair = p) =
              [crossingAt gf t.type.side r] := by
  intro fed back
  refine ⟨fun hp => ?_, fun hp => ?_, fun t ht hside gf hgf hid hnodup later => ?_⟩
  · obtain ⟨t, ht, rfl⟩ := mem_map.1 hp
    rw [GeofenceEngine.rollback_settles ht, Option.map_some, PairState.confirmed_settled]
  · rw [GeofenceEngine.rollback_state, filterMap_eq_nil_iff.2]
    exact fun t ht => if_neg fun hpair => hp (mem_map.2 ⟨t, ht, hpair⟩)
  · intro streak hne hlength hstreak
    obtain ⟨hmem, hpair⟩ := mem_filter.1 (mem_of_getLast? ht)
    obtain rfl := of_decide_eq_true hpair
    have hother : t.type.side = (e.stateOf insideFor t.pair).confirmed.other :=
      Side.eq_other_of_ne hside
    have hpairId : (t.pair.1, gf.id) = t.pair := Prod.ext rfl hid
    have hfed := (GeofenceEngine.feed_pair insideFor hgf hnodup back later).2.1
    rw [hpairId] at hfed
    have hthreshold : back.threshold = e.threshold :=
      (GeofenceEngine.rollback_fields _ _).2.trans
        (GeofenceEngine.feed_pair insideFor hgf hnodup e batch).2.2
    have hstate : back.stateOf insideFor t.pair =
        .settled ((e.stateOf insideFor t.pair).confirmed = .inside) := by
      unfold GeofenceEngine.stateOf
      rw [GeofenceEngine.rollback_settles hmem]
      rfl
    have hpositive : 1 ≤ e.threshold t.type.side := by
      rw [← hlength]
      exact length_pos_iff.2 hne
    rw [hother] at hlength hstreak hpositive ⊢
    obtain ⟨r, hr, hcross⟩ := GeofenceEngine.crossings_streak
      (fun side => max 1 (e.threshold side)) [] (fun r hr => by cases hr) hstreak hne (by
        rw [length_nil, zero_add, hlength]
        exact (max_eq_right hpositive).symm)
    refine ⟨r, hr, ?_⟩
    rw [hfed, hthreshold]
    unfold GeofenceEngine.pairOf
    rw [hstate, GeofenceEngine.pairStep_max]
    exact (outputs_pairStep (fun side => le_max_left 1 (e.threshold side)) _
      (remembers_settled _) _).trans hcross

/-- A vehicle enters the depot; the batch is rolled back, and the vehicle enters again. -/
theorem rollback_restores_arrival :
    let fed := GeofenceEngine.new.feed (fun _ => [depot]) (fun _ => false)
      [fixAt 0 5 5, fixAt 1 5 5]
    let back := fed.1.rollback fed.2
    let streak := countedRecords (back.lastSeen 1)
      ([fixAt 2 5 5, fixAt 3 5 5].filter (·.deviceId = 1))
    (back.state (1, "depot")).map PairState.confirmed = some .outside ∧
      ∃ r ∈ streak, (back.feed (fun _ => [depot]) (fun _ => false)
        [fixAt 2 5 5, fixAt 3 5 5]).2.filter (·.pair = (1, "depot")) =
          [crossingAt depot .inside r] := by
  intro fed back streak
  obtain ⟨hback, -, hagain⟩ := rollback_restores (fun _ => [depot]) (fun _ => false)
    GeofenceEngine.new [fixAt 0 5 5, fixAt 1 5 5] (1, "depot")
  refine ⟨hback (by decide +kernel), ?_⟩
  exact hagain (crossingAt depot .inside (fixAt 1 5 5)) (by decide +kernel) (by decide +kernel)
    depot (mem_singleton.2 rfl) rfl (by decide) [fixAt 2 5 5, fixAt 3 5 5]
    (by decide +kernel) (by decide +kernel) (by decide +kernel)

end Orbetra
