import Orbetra.Geofence.Engine

/-!
# The envelope of a fence

The engine does not cast a ray for a position outside the envelope of the outer ring.  A ray misses
the ring from there, or crosses it an even number of times: the edges of a ring go up past a
latitude as often as they go down past it.  So the envelope is exact, and a fence without one has
the same sides (`GeofenceDef.sideOf_withoutBBox`). -/

namespace Orbetra

open List Bool

/-! ## Changes around a ring -/

/-- Whether an odd number of the values are true. -/
def oddlyMany (l : List Bool) : Bool := l.foldr xor false

variable {l l' : List Bool} {α : Type*} {lat lon : ℚ}

lemma oddlyMany_perm (h : l.Perm l') : oddlyMany l = oddlyMany l' := by
  induction h with
  | nil => rfl
  | cons b _ ih => exact congrArg (xor b) ih
  | swap b b' l => exact xor_left_comm b' b (oddlyMany l)
  | trans _ _ ih ih' => exact ih.trans ih'

lemma oddlyMany_zipWith (h : l.length = l'.length) :
    oddlyMany (zipWith xor l l') = xor (oddlyMany l) (oddlyMany l') := by
  induction l generalizing l' with
  | nil =>
    obtain rfl := length_eq_zero_iff.1 h.symm
    rfl
  | cons b l ih =>
    cases l' with
    | nil => cases h
    | cons b' l' =>
      have hlength : l.length = l'.length := Nat.succ.inj h
      show xor (xor b b') (oddlyMany (zipWith xor l l')) =
        xor (xor b (oddlyMany l)) (xor b' (oddlyMany l'))
      rw [ih hlength]
      cases b <;> cases b' <;> cases oddlyMany l <;> cases oddlyMany l' <;> rfl

lemma rotateRight_perm (l : List α) : l.rotateRight.Perm l := by
  unfold rotateRight
  dsimp only
  split
  · exact .refl l
  · exact perm_append_comm.trans (by rw [take_append_drop])

lemma oddlyMany_changes (f : α → Bool) (ring : List α) :
    oddlyMany ((ring.zip ring.rotateRight).map fun edge => xor (f edge.1) (f edge.2)) = false := by
  have hchanges : (ring.zip ring.rotateRight).map (fun edge => xor (f edge.1) (f edge.2)) =
      zipWith xor (ring.map f) (ring.rotateRight.map f) := by
    rw [zipWith_map, map_zip_eq_zipWith]
    rfl
  rw [hchanges, oddlyMany_zipWith (by simp [(rotateRight_perm ring).length_eq]),
    oddlyMany_perm ((rotateRight_perm ring).map f), Bool.xor_self]

/-! ## Rays from outside the envelope -/

lemma inRing_eq_oddlyMany (lon lat : ℚ) (ring : List LonLat) :
    inRing lon lat ring =
      oddlyMany ((ring.zip ring.rotateRight).map fun edge => intersect lon lat edge.1 edge.2) := by
  unfold inRing
  generalize ring.zip ring.rotateRight = edges
  have hfold : ∀ inside, edges.foldl
      (fun inside edge => if intersect lon lat edge.1 edge.2 then !inside else inside) inside =
        xor inside (oddlyMany (edges.map fun edge => intersect lon lat edge.1 edge.2)) := by
    induction edges with
    | nil => exact fun inside => (xor_false inside).symm
    | cons edge edges ih =>
      intro inside
      rw [foldl_cons, ih]
      show _ = xor inside (xor (intersect lon lat edge.1 edge.2) (oddlyMany _))
      cases intersect lon lat edge.1 edge.2 <;> cases inside <;> simp
  rw [hfold, false_xor]

/-- Where the ray meets an edge lies between the ends of the edge. -/
lemma intersect_between {pi pj : LonLat} (h : (lat < pi.2 : Bool) ≠ (lat < pj.2 : Bool)) :
    min pi.1 pj.1 ≤ (pj.1 - pi.1) * (lat - pi.2) / (pj.2 - pi.2) + pi.1 ∧
      (pj.1 - pi.1) * (lat - pi.2) / (pj.2 - pi.2) + pi.1 ≤ max pi.1 pj.1 := by
  -- how far along the edge the ray meets it
  obtain ⟨t, ht, hnonneg, hle⟩ : ∃ t, (lat - pi.2) / (pj.2 - pi.2) = t ∧ 0 ≤ t ∧ t ≤ 1 := by
    refine ⟨_, rfl, ?_⟩
    by_cases hi : lat < pi.2
    · have hj : pj.2 ≤ lat := by
        by_contra hj
        simp [hi, not_le.1 hj] at h
      have hden : pj.2 - pi.2 < 0 := by linarith
      refine ⟨div_nonneg_of_nonpos (by linarith) hden.le, ?_⟩
      rw [div_le_one_of_neg hden]
      linarith
    · have hj : lat < pj.2 := by
        by_contra hj
        simp [hi, hj] at h
      have hden : 0 < pj.2 - pi.2 := by linarith
      refine ⟨div_nonneg (by linarith) hden.le, ?_⟩
      rw [div_le_one hden]
      linarith
  rw [mul_div_assoc, ht]
  rcases le_total pi.1 pj.1 with hij | hij
  · rw [min_eq_left hij, max_eq_right hij]
    constructor <;> nlinarith
  · rw [min_eq_right hij, max_eq_left hij]
    constructor <;> nlinarith

/-- The envelope contains a point. -/
structure BBox.Contains (b : BBox) (p : LonLat) : Prop where
  minLon : b.minLon ≤ (p.1 : WithTop ℚ)
  minLat : b.minLat ≤ (p.2 : WithTop ℚ)
  maxLon : (p.1 : WithBot ℚ) ≤ b.maxLon
  maxLat : (p.2 : WithBot ℚ) ≤ b.maxLat

/-- The envelope with one more point. -/
def BBox.widen (b : BBox) (p : LonLat) : BBox :=
  ⟨min b.minLon p.1, min b.minLat p.2, max b.maxLon p.1, max b.maxLat p.2⟩

lemma BBox.Contains.widen {b : BBox} {p : LonLat} (h : b.Contains p) (q : LonLat) :
    (b.widen q).Contains p :=
  ⟨min_le_of_left_le h.minLon, min_le_of_left_le h.minLat, le_max_of_le_left h.maxLon,
    le_max_of_le_left h.maxLat⟩

lemma BBox.widen_contains (b : BBox) (p : LonLat) : (b.widen p).Contains p :=
  ⟨min_le_right _ _, min_le_right _ _, le_max_right _ _, le_max_right _ _⟩

/-- The envelope contains the points of the outer ring. -/
lemma bboxOf_contains (poly : GeoPolygon) :
    ∀ p ∈ poly.coordinates.headD [], (bboxOf poly).Contains p := by
  -- the envelope of some points contains those points, and what the envelope before contained
  have hgrows : ∀ (ring : List LonLat) (b : BBox),
      (∀ p, b.Contains p → (ring.foldl BBox.widen b).Contains p) ∧
        ∀ p ∈ ring, (ring.foldl BBox.widen b).Contains p := by
    intro ring
    induction ring with
    | nil => exact fun b => ⟨fun p hp => hp, fun p hp => by cases hp⟩
    | cons q ring ih =>
      intro b
      obtain ⟨hbefore, hring⟩ := ih (b.widen q)
      refine ⟨fun p hp => hbefore p (hp.widen q), forall_mem_cons.2 ⟨?_, hring⟩⟩
      exact hbefore q (b.widen_contains q)
  exact (hgrows _ _).2

/-- **A ring that lies on one side of a position** is crossed by no ray from there, or evenly. -/
lemma inRing_of_outside {ring : List LonLat}
    (h : (∀ p ∈ ring, lon < p.1) ∨ (∀ p ∈ ring, p.1 < lon) ∨ (∀ p ∈ ring, lat < p.2) ∨
      ∀ p ∈ ring, p.2 < lat) : inRing lon lat ring = false := by
  rw [inRing_eq_oddlyMany]
  have hends : ∀ edge ∈ ring.zip ring.rotateRight, edge.1 ∈ ring ∧ edge.2 ∈ ring :=
    fun edge hedge => (of_mem_zip hedge).imp_right (rotateRight_perm ring).mem_iff.1
  -- a ray that meets no edge
  have hnone : (∀ edge ∈ ring.zip ring.rotateRight, intersect lon lat edge.1 edge.2 = false) →
      oddlyMany ((ring.zip ring.rotateRight).map fun edge =>
        intersect lon lat edge.1 edge.2) = false := by
    intro hmiss
    rw [map_congr_left hmiss]
    generalize ring.zip ring.rotateRight = edges
    induction edges with
    | nil => rfl
    | cons edge edges ih => exact (false_xor _).trans ih
  rcases h with hwest | heast | hsouth | hnorth
  · -- every edge that goes up or down past the latitude is met
    have hmeets : ∀ edge ∈ ring.zip ring.rotateRight, intersect lon lat edge.1 edge.2 =
        xor (lat < edge.1.2 : Bool) (lat < edge.2.2 : Bool) := by
      intro edge hedge
      obtain ⟨hi, hj⟩ := hends edge hedge
      unfold intersect
      rw [bne_eq_xor]
      cases hpast : xor (lat < edge.1.2 : Bool) (lat < edge.2.2 : Bool) with
      | false => rfl
      | true =>
        have hbetween := (intersect_between (xor_iff_ne.1 hpast)).1
        exact decide_eq_true ((lt_min (hwest _ hi) (hwest _ hj)).trans_le hbetween)
    rw [map_congr_left hmeets]
    exact oddlyMany_changes (fun p => (lat < p.2 : Bool)) ring
  · refine hnone fun edge hedge => ?_
    obtain ⟨hi, hj⟩ := hends edge hedge
    unfold intersect
    rw [bne_eq_xor]
    cases hpast : xor (lat < edge.1.2 : Bool) (lat < edge.2.2 : Bool) with
    | false => rfl
    | true =>
      have hbetween := (intersect_between (xor_iff_ne.1 hpast)).2
      refine decide_eq_false (not_lt.2 (hbetween.trans ?_))
      exact (max_lt (heast _ hi) (heast _ hj)).le
  · refine hnone fun edge hedge => ?_
    obtain ⟨hi, hj⟩ := hends edge hedge
    have hsame : (lat < edge.1.2 : Bool) = (lat < edge.2.2 : Bool) := by
      rw [decide_eq_true (hsouth _ hi), decide_eq_true (hsouth _ hj)]
    unfold intersect
    rw [hsame, bne_self_eq_false, Bool.false_and]
  · refine hnone fun edge hedge => ?_
    obtain ⟨hi, hj⟩ := hends edge hedge
    have hsame : (lat < edge.1.2 : Bool) = (lat < edge.2.2 : Bool) := by
      rw [decide_eq_false (hnorth _ hi).not_gt, decide_eq_false (hnorth _ hj).not_gt]
    unfold intersect
    rw [hsame, bne_self_eq_false, Bool.false_and]

/-- A position outside the envelope is not inside the fence. -/
lemma pointInPolygon_of_outsideBBox {poly : GeoPolygon}
    (h : outsideBBox lon lat (bboxOf poly) = true) : pointInPolygon lon lat poly = false := by
  have hcontains := bboxOf_contains poly
  unfold pointInPolygon
  generalize bboxOf poly = b at h hcontains
  cases hrings : poly.coordinates with
  | nil => rfl
  | cons ring holes =>
    rw [hrings, headD_cons] at hcontains
    unfold outsideBBox at h
    simp only [or_eq_true, decide_eq_true_eq] at h
    have houter : inRing lon lat ring = false := by
      refine inRing_of_outside ?_
      rcases h with ((hwest | heast) | hsouth) | hnorth
      · exact .inl fun p hp => WithTop.coe_lt_coe.1 (hwest.trans_le (hcontains p hp).minLon)
      · exact .inr (.inl fun p hp => WithBot.coe_lt_coe.1 ((hcontains p hp).maxLon.trans_lt heast))
      · exact .inr (.inr (.inl fun p hp =>
          WithTop.coe_lt_coe.1 (hsouth.trans_le (hcontains p hp).minLat)))
      · exact .inr (.inr (.inr fun p hp =>
          WithBot.coe_lt_coe.1 ((hcontains p hp).maxLat.trans_lt hnorth)))
    simp only [houter, Bool.false_and]

/-- The fence as it is before its envelope is computed. -/
def GeofenceDef.withoutBBox (gf : GeofenceDef) : GeofenceDef := { gf with bbox := none }

/-- **The envelope is exact.** -/
lemma GeofenceDef.sideOf_withoutBBox {gf : GeofenceDef} (h : ∀ b ∈ gf.bbox, b = bboxOf gf.geometry)
    (r : NormalizedRecord) : gf.withoutBBox.sideOf r = gf.sideOf r := by
  unfold GeofenceDef.sideOf GeofenceDef.withoutBBox
  dsimp only
  rw [Option.any_none, if_neg Bool.false_ne_true]
  cases hbbox : gf.bbox with
  | none => rfl
  | some b =>
    obtain rfl := h b hbbox
    rw [Option.any_some]
    split
    · rename_i hin
      split
      · rename_i hout
        rw [pointInPolygon_of_outsideBBox hout] at hin
        cases hin
      · rfl
    · exact (ite_self _).symm

end Orbetra
