import Orbetra.Records

/-!
# The trail on the map

`dropStationaryJitter` and `buildTrailFeatures` of `apps/web/src/lib/liveStore.ts`, over any
distance between two coordinates. -/

namespace Orbetra.Live

open List

/-! ## The points -/

structure TrailPoint where
  lon : ℚ
  lat : ℚ
  fixValid : Bool
  fixTimeMs : Ms
  /-- `none` where the model does not report it. -/
  speed : Option ℚ
  movement : Option Bool
  deriving DecidableEq

/-- `isStationary` -/
def isStationary (p : TrailPoint) : Bool :=
  p.speed = some 0 || (p.speed = none && p.movement = some false)

def jitterGateM : ℚ := 25

def trailGapMs : Ms := 10 * 60000

variable (metresBetween : ℚ → ℚ → ℚ → ℚ → ℚ)

/-- The loop of `dropStationaryJitter`, from a point on. -/
def dropFrom (anchor : Option TrailPoint) : List TrailPoint → List TrailPoint
  | [] => []
  | p :: ps =>
    if !p.fixValid then p :: dropFrom anchor ps
    else if !isStationary p then p :: dropFrom (some p) ps
    else if anchor.all fun a => jitterGateM < metresBetween a.lat a.lon p.lat p.lon then
      p :: dropFrom (some p) ps
    else dropFrom anchor ps

/-- `dropStationaryJitter` -/
def dropStationaryJitter (points : List TrailPoint) : List TrailPoint :=
  dropFrom metresBetween none points

/-! ## The lines -/

/-- A `LineString` with its property `gap`. -/
structure LineFeature where
  coordinates : List (ℚ × ℚ)
  gap : Bool
  deriving DecidableEq

def TrailPoint.coordinate (p : TrailPoint) : ℚ × ℚ := (p.lon, p.lat)

/-- The silence between two neighbours that breaks a run.  A time at or before the epoch is no time.
-/
def silent (last p : TrailPoint) : Bool :=
  0 < last.fixTimeMs && 0 < p.fixTimeMs && trailGapMs < p.fixTimeMs - last.fixTimeMs

def runsFrom (run : List TrailPoint) : List TrailPoint → List (List TrailPoint)
  | [] => if run ≠ [] then [run] else []
  | p :: ps =>
    if p.fixValid then
      if run.getLast?.any (silent · p) then run :: runsFrom [p] ps else runsFrom (run ++ [p]) ps
    else if run ≠ [] then run :: runsFrom [] ps
    else runsFrom [] ps

def trailRuns (rawPoints : List TrailPoint) : List (List TrailPoint) :=
  runsFrom [] (dropStationaryJitter metresBetween rawPoints)

/-- The dashed line between two runs. -/
def connector (prev current : List TrailPoint) : List LineFeature :=
  match prev.getLast?, current.head? with
  | some from', some to' =>
    if from'.lon ≠ to'.lon ∨ from'.lat ≠ to'.lat then [⟨[from'.coordinate, to'.coordinate], true⟩]
    else []
  | _, _ => []

def solidLine (current : List TrailPoint) : List LineFeature :=
  if 2 ≤ current.length then [⟨current.map TrailPoint.coordinate, false⟩] else []

/-- The loop over the runs, from one of them on. -/
def featuresFrom (prev : Option (List TrailPoint)) : List (List TrailPoint) → List LineFeature
  | [] => []
  | current :: runs =>
    prev.elim [] (connector · current) ++ solidLine current ++ featuresFrom (some current) runs

def buildTrailFeatures (rawPoints : List TrailPoint) : List LineFeature :=
  featuresFrom none (trailRuns metresBetween rawPoints)

/-! ## What is dropped -/

/-- A point that the filter may not drop. -/
def mustStay (p : TrailPoint) : Bool := !p.fixValid || !isStationary p

def keeps (anchor : Option TrailPoint) (p : TrailPoint) : Bool :=
  !isStationary p || anchor.all fun a => jitterGateM < metresBetween a.lat a.lon p.lat p.lon

variable {metresBetween}

section Drop

variable {anchor : Option TrailPoint} {p : TrailPoint} {ps : List TrailPoint}

lemma dropFrom_invalid (h : p.fixValid = false) :
    dropFrom metresBetween anchor (p :: ps) = p :: dropFrom metresBetween anchor ps := by
  simp [dropFrom, h]

lemma dropFrom_valid (h : p.fixValid = true) : dropFrom metresBetween anchor (p :: ps) =
    if keeps metresBetween anchor p then p :: dropFrom metresBetween (some p) ps
    else dropFrom metresBetween anchor ps := by
  cases hstat : isStationary p <;> simp [dropFrom, keeps, h, hstat]

variable (metresBetween anchor ps)

lemma dropFrom_sublist : (dropFrom metresBetween anchor ps).Sublist ps := by
  induction ps generalizing anchor with
  | nil => exact Sublist.refl []
  | cons p ps ih =>
      cases h : p.fixValid with
      | false =>
          rw [dropFrom_invalid h]
          exact (ih anchor).cons_cons p
      | true =>
          rw [dropFrom_valid h]
          split
          · exact (ih (some p)).cons_cons p
          · exact (ih anchor).cons p

lemma dropFrom_mustStay :
    (dropFrom metresBetween anchor ps).filter mustStay = ps.filter mustStay := by
  induction ps generalizing anchor with
  | nil => rfl
  | cons p ps ih =>
      cases h : p.fixValid with
      | false => rw [dropFrom_invalid h, filter_cons, filter_cons, ih]
      | true =>
          rw [dropFrom_valid h]
          split
          · rw [filter_cons, filter_cons, ih]
          · next hdrop =>
              have hmay : mustStay p = false := by
                simp only [keeps, Bool.or_eq_true, not_or, Bool.not_eq_true] at hdrop
                simp [mustStay, h, hdrop.1]
              rw [ih, filter_cons, hmay]
              rfl

lemma dropFrom_idempotent :
    dropFrom metresBetween anchor (dropFrom metresBetween anchor ps) =
      dropFrom metresBetween anchor ps := by
  induction ps generalizing anchor with
  | nil => rfl
  | cons p ps ih =>
      cases h : p.fixValid with
      | false => rw [dropFrom_invalid h, dropFrom_invalid h, ih]
      | true =>
          rw [dropFrom_valid h]
          split
          · next hkeep => rw [dropFrom_valid h, if_pos hkeep, ih]
          · exact ih anchor

/-- An invalid point has no say in which valid ones are kept. -/
lemma filter_valid_dropFrom : (dropFrom metresBetween anchor ps).filter (·.fixValid) =
    dropFrom metresBetween anchor (ps.filter (·.fixValid)) := by
  induction ps generalizing anchor with
  | nil => rfl
  | cons p ps ih =>
      cases h : p.fixValid with
      | false =>
          rw [dropFrom_invalid h, filter_cons_of_neg (by simp [h]), ih,
            filter_cons_of_neg (by simp [h])]
      | true =>
          rw [dropFrom_valid h, filter_cons_of_pos (by simpa using h), dropFrom_valid h]
          split
          · rw [filter_cons_of_pos (by simpa using h), ih]
          · exact ih anchor

end Drop

/-! ## The runs -/

section Runs

variable {run : List TrailPoint} {ps : List TrailPoint}

lemma runsFrom_flatten (run ps : List TrailPoint) :
    (runsFrom run ps).flatten = run ++ ps.filter (·.fixValid) := by
  induction ps generalizing run with
  | nil =>
      rw [runsFrom]
      split <;> simp_all
  | cons p ps ih =>
      cases h : p.fixValid with
      | false =>
          rw [filter_cons_of_neg (by simp [h]), runsFrom, if_neg (by simp [h])]
          split
          · rw [flatten_cons, ih, nil_append]
          · next hrun => rw [ih, not_not.1 hrun]
      | true =>
          rw [filter_cons_of_pos (by simpa using h), runsFrom, if_pos h]
          split
          · rw [flatten_cons, ih]
            rfl
          · rw [ih, append_assoc]
            rfl

/-- A run is a stretch of valid neighbours, none after a silence. -/
structure IsRun (points run : List TrailPoint) : Prop where
  nonempty : run ≠ []
  infix' : run <:+: points
  valid : ∀ p ∈ run, p.fixValid
  steady : run.IsChain fun p q => silent p q = false

lemma IsRun.mono {points points' run : List TrailPoint} (h : IsRun points run)
    (hpoints : points <:+: points') : IsRun points' run :=
  ⟨h.nonempty, h.infix'.trans hpoints, h.valid, h.steady⟩

lemma isRun_open (hne : run ≠ []) (hvalid : ∀ p ∈ run, p.fixValid)
    (hsteady : run.IsChain fun p q => silent p q = false) (rest : List TrailPoint) :
    IsRun (run ++ rest) run :=
  ⟨hne, (prefix_append run rest).isInfix, hvalid, hsteady⟩

lemma runsFrom_isRun (hvalid : ∀ p ∈ run, p.fixValid)
    (hsteady : run.IsChain fun p q => silent p q = false) :
    ∀ r ∈ runsFrom run ps, IsRun (run ++ ps) r := by
  induction ps generalizing run with
  | nil =>
      intro r hr
      rw [runsFrom] at hr
      split at hr
      · next hne =>
          obtain rfl := mem_singleton.1 hr
          exact isRun_open hne hvalid hsteady []
      · exact absurd hr not_mem_nil
  | cons p ps ih =>
      intro r hr
      cases h : p.fixValid with
      | false =>
          have hnone : ∀ r ∈ runsFrom [] ps, IsRun (run ++ p :: ps) r := fun r hr =>
            (ih (by simp) IsChain.nil r hr).mono ⟨run ++ [p], [], by simp⟩
          rw [runsFrom, if_neg (by simp [h])] at hr
          split at hr
          · next hne =>
              rcases mem_cons.1 hr with rfl | hr
              · exact isRun_open hne hvalid hsteady _
              · exact hnone r hr
          · exact hnone r hr
      | true =>
          have hone : ∀ q ∈ [p], q.fixValid := by simpa using h
          rw [runsFrom, if_pos h] at hr
          split at hr
          · next hsilent =>
              have hne : run ≠ [] := by
                rintro rfl
                simp at hsilent
              rcases mem_cons.1 hr with rfl | hr
              · exact isRun_open hne hvalid hsteady _
              · exact (ih hone (isChain_singleton p) r hr).mono ⟨run, [], by simp⟩
          · next hsteadily =>
              have hvalid' : ∀ q ∈ run ++ [p], q.fixValid := forall_mem_append.2 ⟨hvalid, hone⟩
              have hsteady' : (run ++ [p]).IsChain fun p q => silent p q = false := by
                refine hsteady.append (isChain_singleton p) fun a ha b hb => ?_
                obtain rfl : p = b := by simpa using hb
                rw [Option.mem_def.1 ha] at hsteadily
                simpa using hsteadily
              have hrun := ih hvalid' hsteady' r hr
              rwa [append_assoc] at hrun

end Runs

/-! ## The lines -/

section Lines

variable {runs : List (List TrailPoint)}

lemma mem_featuresFrom {prev : Option (List TrailPoint)} {f : LineFeature}
    (h : f ∈ featuresFrom prev runs) :
    (∃ run ∈ runs, f ∈ solidLine run) ∨
      ∃ before a b after, prev.toList ++ runs = before ++ a :: b :: after ∧ f ∈ connector a b := by
  induction runs generalizing prev with
  | nil => exact absurd h not_mem_nil
  | cons current runs ih =>
      rw [featuresFrom, mem_append, mem_append] at h
      rcases h with (hjoin | hsolid) | hrest
      · cases prev with
        | none => exact absurd hjoin not_mem_nil
        | some prev => exact .inr ⟨[], prev, current, runs, rfl, hjoin⟩
      · exact .inl ⟨current, mem_cons_self, hsolid⟩
      · rcases ih hrest with ⟨run, hrun, hsolid⟩ | ⟨before, a, b, after, hruns, hjoin⟩
        · exact .inl ⟨run, mem_cons_of_mem current hrun, hsolid⟩
        · refine .inr ⟨prev.toList ++ before, a, b, after, ?_, hjoin⟩
          rw [append_assoc, ← hruns]
          rfl

lemma mem_solidLine {run : List TrailPoint} {f : LineFeature} (h : f ∈ solidLine run) :
    f = ⟨run.map TrailPoint.coordinate, false⟩ := by
  unfold solidLine at h
  split at h
  · exact mem_singleton.1 h
  · exact absurd h not_mem_nil

lemma mem_connector {a b : List TrailPoint} {f : LineFeature} (h : f ∈ connector a b) :
    ∃ p ∈ a.getLast?, ∃ q ∈ b.head?, f = ⟨[p.coordinate, q.coordinate], true⟩ := by
  unfold connector at h
  split at h
  case h_1 p q hp hq =>
    split at h
    · exact ⟨p, hp, q, hq, mem_singleton.1 h⟩
    · exact absurd h not_mem_nil
  case h_2 => exact absurd h not_mem_nil

end Lines

variable (metresBetween) (points : List TrailPoint)

lemma isRun_of_mem : ∀ run ∈ trailRuns metresBetween points,
    IsRun (dropStationaryJitter metresBetween points) run :=
  runsFrom_isRun (by simp) IsChain.nil

lemma flatten_trailRuns : (trailRuns metresBetween points).flatten =
    (dropStationaryJitter metresBetween points).filter (·.fixValid) :=
  runsFrom_flatten [] _

lemma filter_invalid_drop : (dropStationaryJitter metresBetween points).filter (!·.fixValid) =
    points.filter (!·.fixValid) := by
  have hstay : ∀ l : List TrailPoint,
      (l.filter mustStay).filter (!·.fixValid) = l.filter (!·.fixValid) := by
    intro l
    rw [filter_filter]
    exact filter_congr fun p _ => by cases h : p.fixValid <;> simp [mustStay, h]
  rw [← hstay, ← hstay points]
  exact congrArg _ (dropFrom_mustStay metresBetween none points)

/-- Between two points of a run the input has no invalid one: each that it has is kept, and would
stand between them. -/
lemma stretch_of_run {run : List TrailPoint}
    (h : IsRun (dropStationaryJitter metresBetween points) run) :
    ∃ stretch, stretch <:+: points ∧ run.Sublist stretch ∧ ∀ p ∈ stretch, p.fixValid := by
  obtain ⟨before, after, hkept⟩ := h.infix'
  have hsub : (before ++ run ++ after).Sublist points := by
    rw [hkept]
    exact dropFrom_sublist metresBetween none points
  obtain ⟨front, back, hpoints, hfront, hback⟩ := append_sublist_iff.1 hsub
  obtain ⟨ahead, stretch, hsplit, hahead, hrun⟩ := append_sublist_iff.1 hfront
  have hcount := congrArg length (filter_invalid_drop metresBetween points)
  rw [← hkept, hpoints, hsplit] at hcount
  simp only [filter_append, length_append] at hcount
  have hbefore := (hahead.filter (!·.fixValid)).length_le
  have hafter := (hback.filter (!·.fixValid)).length_le
  have hnone : (run.filter (!·.fixValid)).length = 0 := by
    rw [length_eq_zero_iff, filter_eq_nil_iff]
    exact fun p hp => by simp [h.valid p hp]
  have hstretch : (stretch.filter (!·.fixValid)).length = 0 := by omega
  refine ⟨stretch, ⟨ahead, back, by rw [hpoints, hsplit]⟩, hrun, fun p hp => ?_⟩
  simpa using filter_eq_nil_iff.1 (length_eq_zero_iff.1 hstretch) p hp

/-- A line of the trail is a run of two points or more, or joins the last point of a run to the
first of the next. -/
structure Drawn (f : LineFeature) : Prop where
  vertices : ∀ c ∈ f.coordinates,
    ∃ p ∈ dropStationaryJitter metresBetween points, p.fixValid ∧ c = p.coordinate
  solid : f.gap = false → ∃ run ∈ trailRuns metresBetween points,
    f.coordinates = run.map TrailPoint.coordinate ∧ (run.IsChain fun p q => silent p q = false) ∧
      ∃ stretch, stretch <:+: points ∧ run.Sublist stretch ∧ ∀ p ∈ stretch, p.fixValid
  dashed : f.gap = true → ∃ before a b after,
    trailRuns metresBetween points = before ++ a :: b :: after ∧
      ∃ p ∈ a.getLast?, ∃ q ∈ b.head?, f.coordinates = [p.coordinate, q.coordinate]

lemma drawn_of_mem {f : LineFeature} (h : f ∈ buildTrailFeatures metresBetween points) :
    Drawn metresBetween points f := by
  have hvertex : ∀ run ∈ trailRuns metresBetween points, ∀ p ∈ run,
      p ∈ dropStationaryJitter metresBetween points ∧ p.fixValid := fun run hrun p hp =>
    ⟨(isRun_of_mem metresBetween points run hrun).infix'.subset hp,
      (isRun_of_mem metresBetween points run hrun).valid p hp⟩
  rcases mem_featuresFrom h with ⟨run, hrun, hsolid⟩ | ⟨before, a, b, after, hruns, hjoin⟩
  · obtain rfl := mem_solidLine hsolid
    have hisRun := isRun_of_mem metresBetween points run hrun
    refine ⟨fun c hc => ?_, fun _ =>
      ⟨run, hrun, rfl, hisRun.steady, stretch_of_run _ _ hisRun⟩, nofun⟩
    obtain ⟨p, hp, rfl⟩ := mem_map.1 hc
    exact ⟨p, (hvertex run hrun p hp).1, (hvertex run hrun p hp).2, rfl⟩
  · obtain ⟨p, hp, q, hq, rfl⟩ := mem_connector hjoin
    have hruns' : trailRuns metresBetween points = before ++ a :: b :: after := hruns
    have ha : a ∈ trailRuns metresBetween points := by simp [hruns']
    have hb : b ∈ trailRuns metresBetween points := by simp [hruns']
    have hpa := hvertex a ha p (mem_of_getLast? hp)
    have hqb := hvertex b hb q (mem_of_mem_head? hq)
    refine ⟨fun c hc => ?_, nofun, fun _ => ⟨before, a, b, after, hruns', p, hp, q, hq, rfl⟩⟩
    rcases mem_cons.1 hc with rfl | hc
    · exact ⟨p, hpa.1, hpa.2, rfl⟩
    · obtain rfl := mem_singleton.1 hc
      exact ⟨q, hqb.1, hqb.2, rfl⟩

/-- **Invalid fixes do not decide what the trail draws.**  The filter keeps what it must, in order,
and dropping again drops nothing; the valid points that it keeps depend on the valid points only;
and the lines are those of `Drawn`, over runs that have these points. -/
theorem trail_of_valid_fixes :
    ((dropStationaryJitter metresBetween points).Sublist points ∧
      (dropStationaryJitter metresBetween points).filter mustStay = points.filter mustStay) ∧
    dropStationaryJitter metresBetween (dropStationaryJitter metresBetween points) =
      dropStationaryJitter metresBetween points ∧
    (∀ points', points'.filter (·.fixValid) = points.filter (·.fixValid) →
      (dropStationaryJitter metresBetween points').filter (·.fixValid) =
        (dropStationaryJitter metresBetween points).filter (·.fixValid)) ∧
    (trailRuns metresBetween points).flatten =
      (dropStationaryJitter metresBetween points).filter (·.fixValid) ∧
    ∀ f ∈ buildTrailFeatures metresBetween points, Drawn metresBetween points f := by
  refine ⟨⟨dropFrom_sublist metresBetween none points, dropFrom_mustStay metresBetween none points⟩,
    dropFrom_idempotent metresBetween none points, fun points' hvalid => ?_,
    flatten_trailRuns metresBetween points, fun f hf => drawn_of_mem metresBetween points hf⟩
  unfold dropStationaryJitter
  rw [filter_valid_dropFrom, filter_valid_dropFrom, hvalid]

/-- Two fixes an hour apart, the first without a time. -/
def untimed : List TrailPoint :=
  [⟨25, 54, true, 0, some 40, some true⟩, ⟨26, 55, true, 3600000, some 40, some true⟩]

/-- They are joined by a solid line. -/
theorem untimed_joined : ¬ ∀ (metresBetween : ℚ → ℚ → ℚ → ℚ → ℚ) (points : List TrailPoint),
    ∀ run ∈ trailRuns metresBetween points,
      solidLine run ≠ [] → run.IsChain fun p q => |q.fixTimeMs - p.fixTimeMs| ≤ trailGapMs := by
  intro h
  have hchain := h (fun _ _ _ _ => 0) untimed untimed (by decide +kernel) (by decide +kernel)
  exact absurd hchain (by decide)

end Orbetra.Live
