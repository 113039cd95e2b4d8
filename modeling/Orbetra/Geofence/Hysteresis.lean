import Orbetra.Framework.Update
import Orbetra.Geofence.Containment

/-!
# Hysteresis

What the engine emits of a device and a fence, over all batches, is what two rules say of the
records of the device.  The first picks the records that count (`countedRecords`), and the second
the records at which the device changes sides: those that end a streak on the other side, none of
whose records is older than the last change (`crossings`). -/

namespace Orbetra

open Function List

/-! ## The reference -/

def Side.other : Side → Side
  | .inside => .outside
  | .outside => .inside

/-- A record counts unless it is invalid, of a clock that runs ahead, or older than the last record
that counted. -/
def counts (last : Option Ms) (r : NormalizedRecord) : Bool :=
  r.fixValid && !isClockSkewed r && !last.any fun seen => r.fixTime < seen

def countedRecords : Option Ms → List NormalizedRecord → List NormalizedRecord
  | _, [] => []
  | last, r :: rs =>
    if counts last r then r :: countedRecords (some r.fixTime) rs else countedRecords last rs

def Confirms (n : ℕ) (gf : GeofenceDef) (side : Side) (newestFirst : List NormalizedRecord) :
    Prop :=
  n ≤ newestFirst.length ∧ ∀ r ∈ newestFirst.take n, gf.sideOf r = side

instance (n : ℕ) (gf : GeofenceDef) (side : Side) (newestFirst : List NormalizedRecord) :
    Decidable (Confirms n gf side newestFirst) := inferInstanceAs (Decidable (_ ∧ _))

def crossingAt (gf : GeofenceDef) (side : Side) (r : NormalizedRecord) : GeofenceTransition :=
  ⟨r.deviceId, gf.id, gf.name, side.crossing, r.fixTime, r.lat, r.lon⟩

/-- The crossings of a fence from a side.  `since` are the records since the last one, the newest
first. -/
def crossings (threshold : Side → ℕ) (gf : GeofenceDef) :
    Side → List NormalizedRecord → List NormalizedRecord → List GeofenceTransition
  | _, _, [] => []
  | side, since, r :: rs =>
    if Confirms (threshold side.other) gf side.other (r :: since) then
      crossingAt gf side.other r :: crossings threshold gf side.other [] rs
    else crossings threshold gf side (r :: since) rs

def GeofenceEngine.feedAll (fencesFor : DeviceId → List GeofenceDef)
    (insideFor : GeofencePair → Bool) (e : GeofenceEngine)
    (batches : List (List NormalizedRecord)) : List GeofenceTransition :=
  Transducer.outputs (fun e batch => e.feed fencesFor insideFor batch) e batches

/-! ## One pair -/

/-- A pair and the newest time of its device, after one more record of the device. -/
def pairStep (threshold : Side → ℕ) (gf : GeofenceDef) (s : Option Ms × PairState)
    (r : NormalizedRecord) : (Option Ms × PairState) × List GeofenceTransition :=
  if counts s.1 r then
    let next := s.2.observe threshold (r, gf)
    ((some r.fixTime, next.1), next.2)
  else (s, [])

section Reference

variable {threshold : Side → ℕ} {gf : GeofenceDef} {side : Side} {since : List NormalizedRecord}

def streak (gf : GeofenceDef) (side : Side) (since : List NormalizedRecord) : ℕ :=
  (since.takeWhile fun r => gf.sideOf r = side).length

lemma confirms_iff {n : ℕ} : Confirms n gf side since ↔ n ≤ streak gf side since := by
  unfold Confirms streak
  induction since generalizing n with
  | nil => simp
  | cons r since ih =>
    cases n with
    | zero => simp
    | succ n =>
      rw [take_succ_cons, forall_mem_cons, length_cons, takeWhile_cons]
      by_cases hside : gf.sideOf r = side
      · simp [hside, ← ih]
      · simp [hside]

/-- The engine's memory of a pair is the confirmed side and the streak on the other. -/
structure PairState.Remembers (gf : GeofenceDef) (side : Side) (since : List NormalizedRecord)
    (st : PairState) : Prop where
  confirmed : st.confirmed = side
  count : st.pendingCount = streak gf side.other since
  pending : st.pendingSide = if streak gf side.other since = 0 then none else some side.other

lemma Side.other_ne (side : Side) : side.other ≠ side := by
  cases side <;> decide

lemma Side.eq_other_of_ne {side side' : Side} (h : side' ≠ side) : side' = side.other := by
  cases side <;> cases side' <;> first | rfl | exact absurd rfl h

lemma PairState.confirmed_settled (side : Side) :
    (PairState.settled (side = .inside)).confirmed = side := by
  cases side <;> rfl

variable {st : PairState}

lemma PairState.settled_confirmed (h : st.confirmed = side) :
    PairState.settled st.inside = .settled (side = .inside) := by
  subst h
  unfold PairState.confirmed
  cases st.inside <;> rfl

lemma remembers_settled (side : Side) : (PairState.settled (side = .inside)).Remembers gf side [] :=
  ⟨PairState.confirmed_settled side, rfl, rfl⟩

/-- **One observation.** -/
lemma PairState.Remembers.observe (h : st.Remembers gf side since)
    (hpositive : ∀ side, 1 ≤ threshold side) (r : NormalizedRecord) :
    if Confirms (threshold side.other) gf side.other (r :: since) then
      st.observe threshold (r, gf) = (.settled (side.other = .inside), [crossingAt gf side.other r])
    else (st.observe threshold (r, gf)).2 = [] ∧
      (st.observe threshold (r, gf)).1.Remembers gf side (r :: since) := by
  unfold PairState.observe
  dsimp only
  rw [h.confirmed]
  by_cases hside : gf.sideOf r = side
  · -- an observation on the confirmed side ends the streak
    have hstreak : streak gf side.other (r :: since) = 0 := by
      unfold streak
      rw [takeWhile_cons, decide_eq_false (hside ▸ side.other_ne.symm), if_neg Bool.false_ne_true]
      rfl
    have hconfirms : ¬Confirms (threshold side.other) gf side.other (r :: since) := by
      rw [confirms_iff, hstreak, not_le]
      exact hpositive _
    rw [if_neg hconfirms, if_pos hside, PairState.settled_confirmed h.confirmed]
    exact ⟨rfl, PairState.confirmed_settled side, hstreak.symm, by rw [hstreak]; rfl⟩
  · have hother : gf.sideOf r = side.other := Side.eq_other_of_ne hside
    have hstreak : streak gf side.other (r :: since) = streak gf side.other since + 1 := by
      unfold streak
      rw [takeWhile_cons, decide_eq_true hother, if_pos rfl, length_cons]
    have hcount : (if st.pendingSide = some side.other then st.pendingCount + 1 else 1) =
        streak gf side.other (r :: since) := by
      rw [h.pending, h.count, hstreak]
      by_cases hzero : streak gf side.other since = 0
      · rw [hzero]
        rfl
      · rw [if_neg hzero, if_pos rfl]
    rw [if_neg hside, hother, hcount]
    by_cases hconfirms : Confirms (threshold side.other) gf side.other (r :: since)
    · rw [if_pos hconfirms, if_pos (confirms_iff.1 hconfirms)]
      rfl
    · rw [if_neg hconfirms, if_neg fun hn => hconfirms (confirms_iff.2 hn)]
      refine ⟨rfl, h.confirmed, rfl, ?_⟩
      rw [if_neg (hstreak ▸ Nat.succ_ne_zero _)]

lemma outputs_pairStep (hpositive : ∀ side, 1 ≤ threshold side) (last : Option Ms)
    (h : st.Remembers gf side since) (records : List NormalizedRecord) :
    Transducer.outputs (pairStep threshold gf) (last, st) records =
      crossings threshold gf side since (countedRecords last records) := by
  induction records generalizing last st side since with
  | nil => rfl
  | cons r rs ih =>
    rw [Transducer.outputs_cons]
    unfold pairStep countedRecords
    dsimp only
    split
    · have hobserve := h.observe hpositive r
      unfold crossings
      split at hobserve
      · rename_i hconfirms
        rw [if_pos hconfirms, hobserve]
        exact congrArg (_ :: ·) (ih _ (remembers_settled _))
      · rename_i hconfirms
        rw [if_neg hconfirms, hobserve.1]
        exact ih _ hobserve.2
    · exact ih _ h

end Reference

/-! ## A pair of the engine -/

namespace GeofenceEngine

variable {fencesFor : DeviceId → List GeofenceDef} {insideFor : GeofencePair → Bool}
  {d : DeviceId} {gf : GeofenceDef} {p : GeofencePair}

/-- What the engine knows of a pair, and the newest time of its device. -/
def pairOf (e : GeofenceEngine) (insideFor : GeofencePair → Bool) (p : GeofencePair) :
    Option Ms × PairState := (e.lastSeen p.1, e.stateOf insideFor p)

variable {r : NormalizedRecord} {threshold : Side → ℕ} {st : PairState} {e : GeofenceEngine}

lemma pair_of_observe {t : GeofenceTransition} (h : t ∈ (st.observe threshold (r, gf)).2) :
    t.pair = (r.deviceId, gf.id) := by
  unfold PairState.observe at h
  dsimp only at h
  split at h
  · cases h
  · generalize (if st.pendingSide = some (gf.sideOf r) then _ else _ : ℕ) = count at h
    split at h
    · obtain rfl := mem_singleton.1 h
      rfl
    · cases h

lemma filter_observe_self (threshold : Side → ℕ) (st : PairState) (r : NormalizedRecord)
    (gf : GeofenceDef) : (st.observe threshold (r, gf)).2.filter (·.pair = (r.deviceId, gf.id)) =
      (st.observe threshold (r, gf)).2 :=
  filter_eq_self.2 fun _ ht => decide_eq_true (pair_of_observe ht)

lemma filter_observe_of_ne (h : (r.deviceId, gf.id) ≠ p) :
    (st.observe threshold (r, gf)).2.filter (·.pair = p) = [] :=
  filter_eq_nil_iff.2 fun _ ht hp => h ((pair_of_observe ht).symm.trans (of_decide_eq_true hp))

lemma stateOf_step_of_ne (h : (r.deviceId, gf.id) ≠ p) :
    (e.step insideFor r gf).1.stateOf insideFor p = e.stateOf insideFor p := by
  unfold step stateOf
  dsimp only
  rw [update_of_ne (Ne.symm h)]

variable (insideFor) in
lemma feed_step_of_ne {r : NormalizedRecord} {fences : List GeofenceDef} (e : GeofenceEngine)
    (h : ∀ g ∈ fences, (r.deviceId, g.id) ≠ p) :
    let fed := Transducer.feed (step insideFor r) e fences
    fed.1.stateOf insideFor p = e.stateOf insideFor p ∧ fed.2.filter (·.pair = p) = [] := by
  induction fences generalizing e with
  | nil => exact ⟨rfl, rfl⟩
  | cons g gs ih =>
    obtain ⟨hg, hgs⟩ := forall_mem_cons.1 h
    obtain ⟨hstate, hnone⟩ := ih (e.step insideFor r g).1 hgs
    refine ⟨hstate.trans (stateOf_step_of_ne hg), ?_⟩
    show ((e.step insideFor r g).2 ++ _).filter _ = []
    rw [filter_append, hnone, append_nil]
    exact filter_observe_of_ne hg

variable (insideFor) in
lemma feed_step_fields (r : NormalizedRecord) (fences : List GeofenceDef) (e : GeofenceEngine) :
    (Transducer.feed (step insideFor r) e fences).1.lastSeen = e.lastSeen ∧
      (Transducer.feed (step insideFor r) e fences).1.threshold = e.threshold := by
  induction fences generalizing e with
  | nil => exact ⟨rfl, rfl⟩
  | cons g gs ih => exact ih (e.step insideFor r g).1

variable (insideFor) in
lemma feed_step_mem {r : NormalizedRecord} {fences : List GeofenceDef} (e : GeofenceEngine)
    (hnodup : (fences.map (·.id)).Nodup) (hgf : gf ∈ fences) :
    let fed := Transducer.feed (step insideFor r) e fences
    let seen := (e.stateOf insideFor (r.deviceId, gf.id)).observe e.threshold (r, gf)
    fed.1.stateOf insideFor (r.deviceId, gf.id) = seen.1 ∧
      fed.2.filter (·.pair = (r.deviceId, gf.id)) = seen.2 := by
  induction fences generalizing e with
  | nil => cases hgf
  | cons g gs ih =>
    obtain ⟨hfresh, hnodup⟩ := nodup_cons.1 hnodup
    show (Transducer.feed _ (e.step insideFor r g).1 gs).1.stateOf _ _ = _ ∧
      ((e.step insideFor r g).2 ++ (Transducer.feed _ (e.step insideFor r g).1 gs).2).filter _ = _
    rw [filter_append]
    rcases mem_cons.1 hgf with rfl | hgs
    · have hne : ∀ g' ∈ gs, (r.deviceId, g'.id) ≠ (r.deviceId, gf.id) := fun g' hg' heq =>
        hfresh (mem_map.2 ⟨g', hg', congrArg Prod.snd heq⟩)
      obtain ⟨hstate, hnone⟩ := feed_step_of_ne insideFor (e.step insideFor r gf).1 hne
      rw [hstate, hnone, append_nil]
      refine ⟨?_, filter_observe_self _ _ _ _⟩
      unfold step stateOf
      dsimp only
      rw [update_self]
      rfl
    · have hne : (r.deviceId, g.id) ≠ (r.deviceId, gf.id) := fun heq =>
        hfresh (mem_map.2 ⟨gf, hgs, (congrArg Prod.snd heq).symm⟩)
      obtain ⟨hstate, hout⟩ := ih (e.step insideFor r g).1 hnodup hgs
      rw [stateOf_step_of_ne hne] at hstate hout
      refine ⟨hstate, ?_⟩
      rw [hout]
      exact congrArg (· ++ _) (filter_observe_of_ne hne)

def Noted (fencesFor : DeviceId → List GeofenceDef)
    (lastFences : DeviceId → Option (List GeofenceDef)) : Prop :=
  ∀ d, ∀ fences ∈ lastFences d, fences = fencesFor d

variable (insideFor) in
/-- **One record**, as one pair sees it. -/
lemma feedRecord_pair (hgf : gf ∈ fencesFor d) (hnodup : ((fencesFor d).map (·.id)).Nodup)
    (s : GeofenceEngine × (DeviceId → Option (List GeofenceDef))) (hnoted : Noted fencesFor s.2)
    (r : NormalizedRecord) :
    let next := feedRecord fencesFor insideFor s r
    let seen := if r.deviceId = d then
        pairStep s.1.threshold gf (s.1.pairOf insideFor (d, gf.id)) r
      else (s.1.pairOf insideFor (d, gf.id), [])
    next.1.1.pairOf insideFor (d, gf.id) = seen.1 ∧
      next.2.filter (·.pair = (d, gf.id)) = seen.2 ∧
        next.1.1.threshold = s.1.threshold ∧ Noted fencesFor next.1.2 := by
  unfold feedRecord
  dsimp only
  by_cases haccepts : accepts s.1.lastSeen r = true
  · rw [if_pos haccepts]
    generalize hseen : ({ s.1 with
      lastSeen := update s.1.lastSeen r.deviceId (some r.fixTime) } : GeofenceEngine) = e
    have hstate : ∀ p, e.stateOf insideFor p = s.1.stateOf insideFor p := by
      subst hseen
      exact fun p => rfl
    have hthreshold : e.threshold = s.1.threshold := by
      subst hseen
      rfl
    obtain ⟨hlastSeen, hfed⟩ := feed_step_fields insideFor r (fencesFor r.deviceId) e
    have hnewest : e.lastSeen = update s.1.lastSeen r.deviceId (some r.fixTime) := by
      subst hseen
      rfl
    have hnoted' : Noted fencesFor (update s.2 r.deviceId (some (fencesFor r.deviceId))) := by
      intro d' fences hfences
      obtain ⟨rfl, rfl⟩ | ⟨-, hfences⟩ := update_some_eq_some.1 hfences
      · rfl
      · exact hnoted d' fences hfences
    by_cases hd : r.deviceId = d
    · subst hd
      obtain ⟨hnext, hout⟩ := feed_step_mem insideFor e hnodup hgf
      have hseen' : pairStep s.1.threshold gf (s.1.pairOf insideFor (r.deviceId, gf.id)) r =
          ((some r.fixTime, ((s.1.stateOf insideFor (r.deviceId, gf.id)).observe s.1.threshold
            (r, gf)).1), ((s.1.stateOf insideFor (r.deviceId, gf.id)).observe s.1.threshold
              (r, gf)).2) := if_pos haccepts
      rw [if_pos rfl, hseen', ← hstate, ← hthreshold, ← hnext, ← hout]
      refine ⟨?_, rfl, hfed, hnoted'⟩
      unfold pairOf
      rw [hlastSeen, hnewest, update_self]
    · have hne : ∀ g ∈ fencesFor r.deviceId, (r.deviceId, g.id) ≠ (d, gf.id) := fun g _ heq =>
        hd (congrArg Prod.fst heq)
      obtain ⟨hnext, hout⟩ := feed_step_of_ne insideFor e hne
      rw [if_neg hd]
      refine ⟨?_, hout, hfed.trans hthreshold, hnoted'⟩
      unfold pairOf
      rw [hlastSeen, hnewest, update_of_ne (Ne.symm hd), hnext, hstate]
  · rw [if_neg haccepts]
    have hskip : (if r.deviceId = d then
          pairStep s.1.threshold gf (s.1.pairOf insideFor (d, gf.id)) r
        else (s.1.pairOf insideFor (d, gf.id), [])) = (s.1.pairOf insideFor (d, gf.id), []) := by
      split
      · rename_i hd
        subst hd
        exact if_neg haccepts
      · rfl
    rw [hskip]
    exact ⟨rfl, rfl, rfl, hnoted⟩

variable (insideFor) in
lemma feed_feedRecord_pair (hgf : gf ∈ fencesFor d) (hnodup : ((fencesFor d).map (·.id)).Nodup)
    (s : GeofenceEngine × (DeviceId → Option (List GeofenceDef))) (hnoted : Noted fencesFor s.2)
    (records : List NormalizedRecord) :
    let fed := Transducer.feed (feedRecord fencesFor insideFor) s records
    let seen := Transducer.feed (pairStep s.1.threshold gf) (s.1.pairOf insideFor (d, gf.id))
      (records.filter (·.deviceId = d))
    fed.1.1.pairOf insideFor (d, gf.id) = seen.1 ∧
      fed.2.filter (·.pair = (d, gf.id)) = seen.2 ∧
        fed.1.1.threshold = s.1.threshold ∧ Noted fencesFor fed.1.2 := by
  induction records generalizing s with
  | nil => exact ⟨rfl, rfl, rfl, hnoted⟩
  | cons r rs ih =>
    obtain ⟨hpair, hout, hthreshold, hnoted⟩ := feedRecord_pair insideFor hgf hnodup s hnoted r
    have hlater := ih _ hnoted
    rw [hthreshold, hpair] at hlater
    obtain ⟨hpair', hout', hthreshold', hnoted'⟩ := hlater
    simp only [Transducer.feed, filter_append, hout, hout', hpair', hthreshold']
    by_cases hd : r.deviceId = d
    · rw [filter_cons_of_pos (by simp [hd])]
      simp only [if_pos hd, Transducer.feed]
      exact ⟨trivial, trivial, trivial, hnoted'⟩
    · rw [filter_cons_of_neg (by simp [hd])]
      simp only [if_neg hd, nil_append]
      exact ⟨trivial, trivial, trivial, hnoted'⟩

lemma pairOf_prune (hgf : gf ∈ fencesFor d) {lastFences : DeviceId → Option (List GeofenceDef)}
    (hnoted : Noted fencesFor lastFences) :
    (e.prune lastFences).pairOf insideFor (d, gf.id) = e.pairOf insideFor (d, gf.id) := by
  unfold pairOf stateOf prune
  dsimp only
  cases hfences : lastFences d with
  | none => rfl
  | some fences =>
    obtain rfl := hnoted d fences hfences
    dsimp only
    rw [if_pos (mem_map_of_mem hgf)]

variable (insideFor) in
/-- **One batch**, as one pair sees it. -/
lemma feed_pair (hgf : gf ∈ fencesFor d) (hnodup : ((fencesFor d).map (·.id)).Nodup)
    (e : GeofenceEngine) (batch : List NormalizedRecord) :
    let fed := e.feed fencesFor insideFor batch
    let seen := Transducer.feed (pairStep e.threshold gf) (e.pairOf insideFor (d, gf.id))
      (batch.filter (·.deviceId = d))
    fed.1.pairOf insideFor (d, gf.id) = seen.1 ∧ fed.2.filter (·.pair = (d, gf.id)) = seen.2 ∧
      fed.1.threshold = e.threshold := by
  have hnone : Noted fencesFor fun _ => none := fun _ _ h => by cases h
  obtain ⟨hpair, hout, hthreshold, hnoted⟩ :=
    feed_feedRecord_pair insideFor hgf hnodup (e, fun _ => none) hnone batch
  exact ⟨(pairOf_prune hgf hnoted).trans hpair, hout, hthreshold⟩

lemma feedAll_pair (hgf : gf ∈ fencesFor d) (hnodup : ((fencesFor d).map (·.id)).Nodup)
    (e : GeofenceEngine) (batches : List (List NormalizedRecord)) :
    (e.feedAll fencesFor insideFor batches).filter (·.pair = (d, gf.id)) =
      Transducer.outputs (pairStep e.threshold gf) (e.pairOf insideFor (d, gf.id))
        (batches.flatten.filter (·.deviceId = d)) := by
  unfold feedAll
  induction batches generalizing e with
  | nil => rfl
  | cons batch batches ih =>
    obtain ⟨hpair, hout, hthreshold⟩ := feed_pair insideFor hgf hnodup e batch
    rw [Transducer.outputs_cons, filter_append, ih, hout, hpair, hthreshold,
      flatten_cons, filter_append, Transducer.outputs_append]
    rfl

/-! ## Without envelopes -/

/-- The fences as they are before their envelopes are computed. -/
def withoutBBoxes (fencesFor : DeviceId → List GeofenceDef) (d : DeviceId) : List GeofenceDef :=
  (fencesFor d).map GeofenceDef.withoutBBox

/-- The envelopes are those of the outer rings. -/
def Enveloped (fences : List GeofenceDef) : Prop :=
  ∀ gf ∈ fences, ∀ b ∈ gf.bbox, b = bboxOf gf.geometry

lemma feed_withoutBBox {fences : List GeofenceDef} (h : Enveloped fences) (r : NormalizedRecord)
    (e : GeofenceEngine) :
    Transducer.feed (step insideFor r) e (fences.map GeofenceDef.withoutBBox) =
      Transducer.feed (step insideFor r) e fences := by
  induction fences generalizing e with
  | nil => rfl
  | cons gf gfs ih =>
    obtain ⟨hgf, hgfs⟩ := forall_mem_cons.1 h
    have hstep : e.step insideFor r gf.withoutBBox = e.step insideFor r gf := by
      unfold step PairState.observe
      dsimp only
      rw [GeofenceDef.sideOf_withoutBBox hgf]
      rfl
    simp only [map_cons, Transducer.feed, hstep, ih hgfs]

def stripNotes (s : GeofenceEngine × (DeviceId → Option (List GeofenceDef))) :
    GeofenceEngine × (DeviceId → Option (List GeofenceDef)) :=
  (s.1, fun d => (s.2 d).map (map GeofenceDef.withoutBBox))

lemma feedRecord_withoutBBox (h : ∀ d, Enveloped (fencesFor d))
    (s : GeofenceEngine × (DeviceId → Option (List GeofenceDef))) (r : NormalizedRecord) :
    feedRecord (withoutBBoxes fencesFor) insideFor (stripNotes s) r =
      (stripNotes (feedRecord fencesFor insideFor s r).1,
        (feedRecord fencesFor insideFor s r).2) := by
  unfold feedRecord withoutBBoxes stripNotes
  dsimp only
  split
  · rw [feed_withoutBBox (h r.deviceId)]
    refine congrArg (fun notes => ((_, notes), _)) (funext fun d => ?_)
    by_cases hd : d = r.deviceId
    · subst hd
      simp only [update_self, Option.map_some]
    · simp only [update_of_ne hd]
  · rfl

variable (insideFor) in
lemma feed_stripNotes (h : ∀ d, Enveloped (fencesFor d))
    (s : GeofenceEngine × (DeviceId → Option (List GeofenceDef))) (batch : List NormalizedRecord) :
    Transducer.feed (feedRecord (withoutBBoxes fencesFor) insideFor) (stripNotes s) batch =
      (stripNotes (Transducer.feed (feedRecord fencesFor insideFor) s batch).1,
        (Transducer.feed (feedRecord fencesFor insideFor) s batch).2) := by
  have hstep : ∀ s r, feedRecord (withoutBBoxes fencesFor) insideFor (stripNotes s) (id r) =
      (stripNotes (feedRecord fencesFor insideFor s r).1,
        (feedRecord fencesFor insideFor s r).2.map id) := fun s r => by
    rw [map_id]
    exact feedRecord_withoutBBox h s r
  have hfed := Transducer.feed_map hstep s batch
  rw [map_id, map_id] at hfed
  exact hfed

lemma prune_stripNotes (s : GeofenceEngine × (DeviceId → Option (List GeofenceDef))) :
    (stripNotes s).1.prune (stripNotes s).2 = s.1.prune s.2 := by
  unfold prune stripNotes
  refine congrArg (fun state => { s.1 with state := state }) (funext fun p => ?_)
  dsimp only
  cases s.2 p.1 with
  | none => rfl
  | some fences =>
    rw [Option.map_some]
    dsimp only
    rw [map_map]
    rfl

lemma feed_withoutBBoxes (h : ∀ d, Enveloped (fencesFor d)) (e : GeofenceEngine)
    (batch : List NormalizedRecord) :
    e.feed (withoutBBoxes fencesFor) insideFor batch = e.feed fencesFor insideFor batch := by
  have hfed := feed_stripNotes insideFor h (e, fun _ => none) batch
  have hstart : stripNotes (e, fun _ => none) = (e, fun _ => none) := rfl
  rw [hstart] at hfed
  unfold feed
  dsimp only
  rw [hfed, prune_stripNotes]

end GeofenceEngine

/-- **Hysteresis.**  What the engine emits of a fence, however the records are cut into batches, are
the crossings of the records that count; and it emits the same without the envelopes. -/
theorem feedAll_eq_crossings (fencesFor : DeviceId → List GeofenceDef)
    (insideFor : GeofencePair → Bool) {enterStreak exitStreak : ℕ} (henter : 1 ≤ enterStreak)
    (hexit : 1 ≤ exitStreak) (henveloped : ∀ d, GeofenceEngine.Enveloped (fencesFor d))
    (d : DeviceId) (hnodup : ((fencesFor d).map (·.id)).Nodup) {gf : GeofenceDef}
    (hgf : gf ∈ fencesFor d) (batches : List (List NormalizedRecord)) :
    let e := GeofenceEngine.withStreaks enterStreak exitStreak
    (e.feedAll fencesFor insideFor batches).filter (·.pair = (d, gf.id)) =
        crossings e.threshold gf (if insideFor (d, gf.id) then .inside else .outside) []
          (countedRecords none (batches.flatten.filter (·.deviceId = d))) ∧
      e.feedAll (GeofenceEngine.withoutBBoxes fencesFor) insideFor batches =
        e.feedAll fencesFor insideFor batches := by
  intro e
  constructor
  · have hpositive : ∀ side, 1 ≤ e.threshold side := fun side => by
      cases side with
      | inside => exact henter
      | outside => exact hexit
    rw [GeofenceEngine.feedAll_pair hgf hnodup]
    refine outputs_pairStep hpositive none ⟨?_, rfl, rfl⟩ _
    rfl
  · unfold GeofenceEngine.feedAll
    rw [show (fun (e : GeofenceEngine) batch =>
      e.feed (GeofenceEngine.withoutBBoxes fencesFor) insideFor batch) =
        fun e batch => e.feed fencesFor insideFor batch from
      funext fun e => funext fun batch => GeofenceEngine.feed_withoutBBoxes henveloped e batch]

/-! ## A depot -/

/-- A fence ten degrees wide. -/
def depot : GeofenceDef where
  id := "depot"
  name := "Depot"
  geometry := ⟨[[(0, 0), (10, 0), (10, 10), (0, 10)]]⟩
  bbox := some (bboxOf ⟨[[(0, 0), (10, 0), (10, 10), (0, 10)]]⟩)

/-- A valid fix of device 1. -/
def fixAt (t : Ms) (lon lat : ℚ) : NormalizedRecord where
  deviceId := 1
  fixTime := t
  serverTime := t
  lat := lat
  lon := lon
  altitude := none
  speed := none
  course := none
  satellites := 10
  fixValid := true
  ignition := none
  movement := none
  odometerM := none
  priority := 0
  recHash := t
  attrs := []

/-- A vehicle that comes to the depot. -/
def arrivalAtDepot : List (List NormalizedRecord) :=
  [[fixAt 0 20 5, fixAt 1 5 5], [fixAt 2 20 5, fixAt 3 5 5], [fixAt 4 5 6]]

example : (GeofenceEngine.new.feedAll (fun _ => [depot]) (fun _ => false) arrivalAtDepot).map
    (fun t => (t.type, t.atTime)) = [(.enter, 4)] := by decide +kernel

theorem feedAll_eq_crossings_arrival :
    (GeofenceEngine.new.feedAll (fun _ => [depot]) (fun _ => false) arrivalAtDepot).filter
        (·.pair = (1, depot.id)) =
        crossings GeofenceEngine.new.threshold depot .outside []
          (countedRecords none (arrivalAtDepot.flatten.filter (·.deviceId = 1))) ∧
      GeofenceEngine.new.feedAll (GeofenceEngine.withoutBBoxes fun _ => [depot]) (fun _ => false)
          arrivalAtDepot =
        GeofenceEngine.new.feedAll (fun _ => [depot]) (fun _ => false) arrivalAtDepot :=
  feedAll_eq_crossings (fun _ => [depot]) (fun _ => false) one_le_two one_le_two
    (fun _ gf hgf b hb => by
      obtain rfl := mem_singleton.1 hgf
      exact (Option.some.inj hb).symm)
    1 (by decide) (mem_singleton.2 rfl) arrivalAtDepot

end Orbetra
