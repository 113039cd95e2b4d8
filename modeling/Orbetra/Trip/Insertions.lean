import Orbetra.Trip.Stream

/-!
# Invalid fixes put among the records

Two runs of the engine are compared: one on a list of records into which invalid fixes were
inserted, and one without them.  An inserted record may make later ones late; the run without
insertions is not given those either (`TripEngine.inTime`).

Of an open trip the inserted records touch the stop timer alone (`Phase.Agrees`).  They may start
it, which ends the trip sooner, and an ignition that is on resets it, which ends the trip later: the
runs differ first where one of them closes its trip (`insertions_differ`). -/

namespace Orbetra

open List Prod

variable (haversineM : Haversine)

def Phase.isMoving : Phase → Bool
  | .parked _ => false
  | .moving _ => true

/-- `hasOpenTrip` -/
def TripEngine.hasOpenTrip (e : TripEngine) (d : DeviceId) : Bool :=
  (e.state d).any (·.phase.isMoving)

/-- A record, and whether it was inserted. -/
abbrev Marked := Bool × NormalizedRecord

/-- The records of the run without insertions: those that were there before, and that do not come
late in the run with insertions. -/
def TripEngine.inTime (configFor : DeviceId → DeviceTripConfig) (e : TripEngine) :
    List Marked → List NormalizedRecord
  | [] => []
  | x :: xs =>
    (if x.1 || ((e.state x.2.deviceId).getD (.fresh (configFor x.2.deviceId))).isLate x.2 then []
      else [x.2]) ++ inTime configFor (e.step haversineM configFor x.2).1 xs

def DeviceState.inTime (config : DeviceTripConfig) (st : DeviceState) :
    List Marked → List NormalizedRecord
  | [] => []
  | x :: xs =>
    (if x.1 || st.isLate x.2 then [] else [x.2]) ++
      inTime config (st.step haversineM config x.2).1 xs

/-! ## Two stop timers -/

/-- The timer of the run with insertions is started no later than that of the other run, or by an
inserted record; and it is not reset, or by an inserted record that shows the ignition on. -/
structure TimersAgree (inserted : List NormalizedRecord) (since since' : Option Ms) : Prop where
  started : ∀ u ∈ since', (∃ y ∈ inserted, u ≤ y.fixTime) ∨ ∃ t ∈ since, t ≤ u
  kept : ∀ t ∈ since, (∃ y ∈ inserted, y.ignition = some true) ∨ ∃ u ∈ since', u ≤ t

/-- Two devices that differ in their stop timers alone. -/
inductive Phase.Agrees (inserted : List NormalizedRecord) : Phase → Phase → Prop
  | parked (cand : Option Candidate) : Phase.Agrees inserted (.parked cand) (.parked cand)
  | moving (trip : OpenTrip) {since since' : Option Ms} (h : TimersAgree inserted since since') :
      Phase.Agrees inserted (.moving { trip with stopSince := since })
        (.moving { trip with stopSince := since' })

/-- A device without the insertions, and with them. -/
structure TwoRuns where
  without : DeviceState
  extended : DeviceState

/-- One more record. -/
def TwoRuns.step (config : DeviceTripConfig) (s : TwoRuns) (x : Marked) : TwoRuns where
  without :=
    if x.1 || s.extended.isLate x.2 then s.without else (s.without.step haversineM config x.2).1
  extended := (s.extended.step haversineM config x.2).1

structure TwoRuns.Agrees (config : DeviceTripConfig) (inserted : List NormalizedRecord)
    (s : TwoRuns) : Prop where
  without : s.without.config = config
  extended : s.extended.config = config
  seen : ∀ t ∈ s.without.lastSeen, ∃ u ∈ s.extended.lastSeen, t ≤ u
  lies : ∃ after, s.without.Lies after
  lies' : ∃ after, s.extended.Lies after
  phase : s.without.phase.Agrees inserted s.extended.phase

/-- The record `x` closes the trip of the run with insertions alone, with what the other run has
accumulated, and no later than at an inserted record. -/
structure ClosesSooner (config : DeviceTripConfig) (inserted : List NormalizedRecord)
    (events : List TripEvent) (x : Marked) (s' : TwoRuns) (k : CloseEvent) (trip : OpenTrip) :
    Prop where
  closes : events = [.closed k]
  extended : s'.extended.phase = .idle
  without : s'.without.phase = .moving trip
  accumulated : k = trip.close config x.2.deviceId k.endTime
  ends : ∃ y ∈ inserted, k.endTime ≤ y.fixTime

/-- The record `x` closes the trip of the run without insertions alone, after an inserted record has
shown the ignition on. -/
structure ClosesLater (inserted : List NormalizedRecord) (x : Marked) (s s' : TwoRuns) : Prop where
  before : x.1 = false
  without : s.without.phase.isMoving = true ∧ s'.without.phase = .idle
  extended : s'.extended.phase.isMoving = true
  reset : ∃ y ∈ inserted, y.ignition = some true

section Insertions

variable {haversineM} {config : DeviceTripConfig} {inserted : List NormalizedRecord}

variable (haversineM config) in
/-- What a record does to a stop timer does not depend on the timer: it resets it, leaves it alone,
or lets it run. -/
lemma stopTimer_kind (lat lon : ℚ) (r : NormalizedRecord) :
    (∀ since, stopTimer haversineM config since lat lon r = .goesOn none) ∧
        (r.fixValid = false → r.ignition = some true) ∨
      (∀ since, stopTimer haversineM config since lat lon r = .goesOn since) ∨
      ∀ since, stopTimer haversineM config since lat lon r =
        if config.thresholds.stopThreshold ≤ secs r.fixTime (since.getD r.fixTime) then
          .runsOut (since.getD r.fixTime)
        else .goesOn (some (since.getD r.fixTime)) := by
  unfold stopTimer
  cases hvalid : r.fixValid with
  | true =>
    simp only [if_true]
    split
    · split
      · exact .inr (.inr fun since => rfl)
      · exact .inl ⟨fun since => rfl, fun h => by cases h⟩
    · split
      · exact .inr (.inr fun since => rfl)
      · exact .inl ⟨fun since => rfl, fun h => by cases h⟩
  | false =>
    simp only [Bool.false_eq_true, if_false]
    split
    · exact .inr (.inl fun since => rfl)
    · cases hignition : r.ignition with
      | none => exact .inr (.inl fun since => rfl)
      | some on =>
        cases on with
        | true => exact .inl ⟨fun since => rfl, fun _ => rfl⟩
        | false => exact .inr (.inr fun since => rfl)

variable {inserted' : List NormalizedRecord} {phase : Phase} {since now : Ms}

lemma TimersAgree.mono {since since' : Option Ms} (h : TimersAgree inserted since since')
    (hsub : inserted ⊆ inserted') :
    TimersAgree inserted' since since' :=
  ⟨fun u hu => (h.started u hu).imp_left fun ⟨y, hy, hle⟩ => ⟨y, hsub hy, hle⟩,
    fun t ht => (h.kept t ht).imp_left fun ⟨y, hy, hon⟩ => ⟨y, hsub hy, hon⟩⟩

lemma Phase.Agrees.mono {phase' : Phase} (h : phase.Agrees inserted phase')
    (hsub : inserted ⊆ inserted') :
    phase.Agrees inserted' phase' := by
  cases h with
  | parked cand => exact .parked cand
  | moving trip h => exact .moving trip (h.mono hsub)

lemma timersAgree_none (inserted : List NormalizedRecord) : TimersAgree inserted none none :=
  ⟨fun u hu => (Option.not_mem_none u hu).elim, fun t ht => (Option.not_mem_none t ht).elim⟩

lemma le_of_lasted {threshold : ℚ≥0} (h : (threshold : ℚ) ≤ secs now since) : since ≤ now := by
  have hlasted : 0 ≤ secs now since := (NNRat.coe_nonneg threshold).trans h
  unfold secs at hlasted
  have hcast : (0 : ℚ) ≤ ((now - since : ℤ) : ℚ) := by linarith
  exact Int.sub_nonneg.1 (by exact_mod_cast hcast)

lemma secs_le_secs {since' : Ms} (h : since ≤ since') : secs now since' ≤ secs now since := by
  have hcast : (since : ℚ) ≤ since' := by exact_mod_cast h
  unfold secs
  push_cast
  linarith

variable (haversineM config) in
/-- **A record that both devices read.** -/
lemma Phase.Agrees.step {phase phase' : Phase} {r : NormalizedRecord}
    (h : phase.Agrees inserted phase')
    (hstop : ∀ trip, phase = .moving trip → ∀ t ∈ trip.stopSince, t ≤ r.fixTime)
    (hstop' : ∀ trip, phase' = .moving trip → ∀ u ∈ trip.stopSince, u ≤ r.fixTime) :
    (phase.step haversineM config r).1.Agrees inserted (phase'.step haversineM config r).1 ∨
    (∃ k trip, (phase'.step haversineM config r) = (.idle, [.closed k]) ∧
      (phase.step haversineM config r).1 = .moving trip ∧
      k = trip.close config r.deviceId k.endTime ∧ ∃ y ∈ inserted, k.endTime ≤ y.fixTime) ∨
    (phase.isMoving = true ∧ (phase.step haversineM config r).1 = .idle ∧
      (phase'.step haversineM config r).1.isMoving = true ∧
      ∃ y ∈ inserted, y.ignition = some true) := by
  cases h with
  | parked cand =>
    left
    rw [Phase.step_parked]
    split
    · exact .parked _
    split
    · exact .parked _
    dsimp only
    split
    · exact .moving (.ofCandidate (candidateAt haversineM cand r) r) (timersAgree_none inserted)
    · exact .parked _
  | @moving trip since since' htimers =>
    have hle : ∀ t ∈ since, t ≤ r.fixTime := hstop _ rfl
    have hle' : ∀ u ∈ since', u ≤ r.fixTime := hstop' _ rfl
    rw [Phase.step_timed, Phase.step_timed]
    generalize trip.seen haversineM config.thresholds r = seen
    rcases stopTimer_kind haversineM config trip.lastLat trip.lastLon r
      with ⟨hkind, -⟩ | hkind | hkind
    · rw [hkind, hkind]
      exact .inl (.moving seen (timersAgree_none inserted))
    · rw [hkind, hkind]
      exact .inl (.moving seen htimers)
    · rw [hkind, hkind]
      -- the timer of the run with insertions runs out no sooner, unless an insertion started it
      have hstarted : (∃ y ∈ inserted, since'.getD r.fixTime ≤ y.fixTime) ∨
          since.getD r.fixTime ≤ since'.getD r.fixTime := by
        cases hs' : since' with
        | none =>
          refine .inr ?_
          cases hs : since with
          | none => exact le_rfl
          | some t => exact hle t hs
        | some u =>
          refine (htimers.started u hs').imp_right ?_
          rintro ⟨t, ht, htu⟩
          rw [Option.mem_def.1 ht]
          exact htu
      have hkept : (∃ y ∈ inserted, y.ignition = some true) ∨
          since'.getD r.fixTime ≤ since.getD r.fixTime := by
        cases hs : since with
        | none =>
          refine .inr ?_
          cases hs' : since' with
          | none => exact le_rfl
          | some u => exact hle' u hs'
        | some t =>
          refine (htimers.kept t hs).imp_right ?_
          rintro ⟨u, hu, hut⟩
          rw [Option.mem_def.1 hu]
          exact hut
      generalize since.getD r.fixTime = sA at hstarted hkept ⊢
      generalize since'.getD r.fixTime = sB at hstarted hkept ⊢
      by_cases hA : (config.thresholds.stopThreshold : ℚ) ≤ secs r.fixTime sA
      · by_cases hB : (config.thresholds.stopThreshold : ℚ) ≤ secs r.fixTime sB
        · rw [if_pos hA, if_pos hB]
          exact .inl (.parked none)
        · rw [if_pos hA, if_neg hB]
          refine .inr (.inr ⟨rfl, rfl, rfl, hkept.resolve_right fun hsooner => hB ?_⟩)
          exact hA.trans (secs_le_secs hsooner)
      · by_cases hB : (config.thresholds.stopThreshold : ℚ) ≤ secs r.fixTime sB
        · rw [if_neg hA, if_pos hB]
          refine .inr (.inl ⟨_, _, rfl, rfl, ?_, hstarted.resolve_right fun hlater => hA ?_⟩)
          · exact (seen.close_stopSince (some sA) r.deviceId sB).symm
          · exact hB.trans (secs_le_secs hlater)
        · rw [if_neg hA, if_neg hB]
          refine .inl (.moving seen ⟨fun u hu => ?_, fun t ht => ?_⟩)
          · cases hu
            exact hstarted.imp_right fun hle => ⟨sA, rfl, hle⟩
          · cases ht
            exact hkept.imp_right fun hle => ⟨sB, rfl, hle⟩

variable (haversineM config) in
/-- **An inserted record**, which one device alone reads. -/
lemma Phase.Agrees.insert {phase phase' : Phase} {r : NormalizedRecord}
    (h : phase.Agrees inserted phase') (hvalid : r.fixValid = false) :
    phase.Agrees (r :: inserted) (phase'.step haversineM config r).1 ∨
    ∃ k trip, (phase'.step haversineM config r) = (.idle, [.closed k]) ∧ phase = .moving trip ∧
      k = trip.close config r.deviceId k.endTime ∧ k.endTime ≤ r.fixTime := by
  cases h with
  | parked cand =>
    rw [Phase.step_parked, if_pos hvalid]
    exact .inl (.parked cand)
  | @moving trip since since' htimers =>
    have htimers := htimers.mono (subset_cons_self r inserted)
    rw [Phase.step_timed, OpenTrip.seen_of_invalid _ _ hvalid]
    rcases stopTimer_kind haversineM config trip.lastLat trip.lastLon r
      with ⟨hkind, hreset⟩ | hkind | hkind
    · rw [hkind]
      refine .inl (.moving trip ⟨fun u hu => (Option.not_mem_none u hu).elim, fun t ht => ?_⟩)
      exact .inl ⟨r, mem_cons_self, hreset hvalid⟩
    · rw [hkind]
      exact .inl (.moving trip htimers)
    · rw [hkind]
      split
      · rename_i hlasted
        exact .inr ⟨_, _, rfl, rfl, (trip.close_stopSince since r.deviceId _).symm,
          le_of_lasted hlasted⟩
      · refine .inl (.moving trip ⟨fun u hu => ?_, fun t ht => ?_⟩)
        · cases hu
          cases hs' : since' with
          | none => exact .inl ⟨r, mem_cons_self, le_rfl⟩
          | some u => exact htimers.started u hs'
        · refine (htimers.kept t ht).imp_right ?_
          rintro ⟨u, hu, hut⟩
          rw [Option.mem_def.1 hu]
          exact ⟨u, rfl, hut⟩

lemma Phase.Lies.stopSince {after : Option Ms} (h : phase.Lies after now) (trip : OpenTrip)
    (hphase : phase = .moving trip) : ∀ t ∈ trip.stopSince, t ≤ now := by
  subst hphase
  exact fun t ht => (h.2.2.1 t ht).2

variable (haversineM) in
/-- **One record** of the two runs. -/
lemma TwoRuns.Agrees.step {s : TwoRuns} {x : Marked} (h : s.Agrees config inserted)
    (hinvalid : x.1 = true → x.2.fixValid = false) {inserted' : List NormalizedRecord}
    (hsub : inserted ⊆ inserted') (hmem : x.1 = true → x.2 ∈ inserted') :
    (s.step haversineM config x).Agrees config inserted' ∨
    (∃ k trip, ClosesSooner config inserted' (s.extended.step haversineM config x.2).2 x
      (s.step haversineM config x) k trip) ∨
    ClosesLater inserted' x s (s.step haversineM config x) := by
  obtain ⟨after, hlies⟩ := h.lies
  obtain ⟨after', hlies'⟩ := h.lies'
  have hsame : s.step haversineM config x = s →
      (s.step haversineM config x).Agrees config inserted' := by
    intro hsame
    rw [hsame]
    exact ⟨h.without, h.extended, h.seen, h.lies, h.lies', h.phase.mono hsub⟩
  unfold TwoRuns.step at hsame ⊢
  rcases DeviceState.step_cases haversineM h.extended x.2 with
    ⟨hskip, hextended⟩ | ⟨hskew, hlate, hextended⟩
  · -- neither run reads the record
    refine .inl (hsame ?_)
    rw [hextended]
    refine congrArg (TwoRuns.mk · s.extended) ?_
    rcases hskip with hskew | hlate
    · have hwithout : s.without.step haversineM config x.2 = (s.without, []) := if_pos hskew
      rw [hwithout, ite_self]
    · rw [hlate, Bool.or_true, if_pos rfl]
  have hseen := DeviceState.isLate_eq_false.1 hlate
  have hreach : ∀ t ∈ s.without.lastSeen, t ≤ x.2.fixTime := fun t ht =>
    let ⟨u, hu, htu⟩ := h.seen t ht
    htu.trans (hseen u hu)
  have hupTo' := hlies'.upTo hlate
  obtain ⟨next', hnext', -⟩ := hupTo'.step haversineM config rfl
  cases hx : x.1 with
  | true =>
    -- an inserted record
    rw [Bool.true_or, if_pos rfl, hextended]
    have hsub' : x.2 :: inserted ⊆ inserted' := cons_subset.2 ⟨hmem hx, hsub⟩
    rcases h.phase.insert haversineM config (hinvalid hx) with
      hagrees | ⟨k, trip, hclose, hphase, hk, hend⟩
    · exact .inl ⟨h.without, rfl, fun t ht => ⟨_, rfl, hreach t ht⟩, h.lies, ⟨next', hnext'⟩,
        hagrees.mono hsub'⟩
    · refine .inr (.inl ⟨k, trip, ?_, ?_, hphase, hk, x.2, hmem hx, hend⟩)
      · rw [hclose]
      · rw [hclose]
  | false =>
    have hlate₀ : s.without.isLate x.2 = false := DeviceState.isLate_eq_false.2 hreach
    have hwithout : s.without.step haversineM config x.2 =
        (⟨(s.without.phase.step haversineM config x.2).1, some x.2.fixTime, config⟩,
          (s.without.phase.step haversineM config x.2).2) := by
      rcases DeviceState.step_cases haversineM h.without x.2 with
        ⟨hskip, -⟩ | ⟨-, -, hstep⟩
      · rw [hskew, hlate₀] at hskip
        simp at hskip
      · exact hstep
    have hupTo := hlies.upTo hlate₀
    obtain ⟨next, hnext, -⟩ := hupTo.step haversineM config rfl
    rw [hlate, Bool.or_false, if_neg Bool.false_ne_true, hextended, hwithout]
    rcases h.phase.step haversineM config (hupTo.stopSince)
      (hupTo'.stopSince) with hagrees | ⟨k, trip, hclose, hphase, hk, y, hy, hend⟩ |
        ⟨hmoving, hidle, hgoesOn, y, hy, hon⟩
    · exact .inl ⟨rfl, rfl, fun t ht => ⟨t, ht, le_rfl⟩, ⟨next, hnext⟩, ⟨next', hnext'⟩,
        hagrees.mono hsub⟩
    · refine .inr (.inl ⟨k, trip, ?_, ?_, hphase, hk, y, hsub hy, hend⟩)
      · rw [hclose]
      · rw [hclose]
    · exact .inr (.inr ⟨hx, ⟨hmoving, hidle⟩, hgoesOn, y, hsub hy, hon⟩)

lemma DeviceState.inTime_cons (st : DeviceState) (x : Marked) (xs : List Marked) :
    st.inTime haversineM config (x :: xs) = (if x.1 || st.isLate x.2 then [] else [x.2]) ++
      (st.step haversineM config x.2).1.inTime haversineM config xs := rfl

lemma TwoRuns.foldl_step (xs : List Marked) (a b : DeviceState) :
    xs.foldl (TwoRuns.step haversineM config) ⟨a, b⟩ =
      ⟨Transducer.stateAfter (DeviceState.step haversineM config) a (b.inTime haversineM config xs),
        Transducer.stateAfter (DeviceState.step haversineM config) b (xs.map snd)⟩ := by
  induction xs generalizing a b with
  | nil => rfl
  | cons x xs ih =>
    rw [foldl_cons, TwoRuns.step, ih, DeviceState.inTime_cons]
    dsimp only
    split
    · rfl
    · rfl

end Insertions

/-! ## Many devices -/

section Engine

variable (configFor : DeviceId → DeviceTripConfig) (d : DeviceId)

/-- What a device has become in the run without insertions, and in the run with them. -/
def twoRuns (xs : List Marked) : TwoRuns where
  without :=
    ((TripEngine.new.feed haversineM configFor
      (TripEngine.new.inTime haversineM configFor xs)).1.state d).getD (.fresh (configFor d))
  extended :=
    ((TripEngine.new.feed haversineM configFor (xs.map snd)).1.state d).getD
      (.fresh (configFor d))

def insertedOf (xs : List Marked) : List NormalizedRecord :=
  (xs.filter fun x => x.1 && x.2.deviceId = d).map snd

variable {haversineM configFor d}

lemma mem_insertedOf {xs : List Marked} {r : NormalizedRecord} :
    r ∈ insertedOf d xs ↔ (true, r) ∈ xs ∧ r.deviceId = d := by
  unfold insertedOf
  constructor
  · intro h
    obtain ⟨⟨mark, r'⟩, hx, rfl⟩ := mem_map.1 h
    obtain ⟨hmem, hboth⟩ := mem_filter.1 hx
    obtain ⟨rfl, hd⟩ := (Bool.and_eq_true_iff).1 hboth
    exact ⟨hmem, of_decide_eq_true hd⟩
  · rintro ⟨hmem, rfl⟩
    exact mem_map.2 ⟨(true, r), mem_filter.2 ⟨hmem, by simp⟩, rfl⟩

lemma TripEngine.inTime_own (e : TripEngine) (xs : List Marked) :
    (e.inTime haversineM configFor xs).filter (·.deviceId = d) =
      ((e.state d).getD (.fresh (configFor d))).inTime haversineM (configFor d)
        (xs.filter (·.2.deviceId = d)) := by
  induction xs generalizing e with
  | nil => rfl
  | cons x xs ih =>
    have hstate := (e.step_own haversineM configFor x.2).2 d
    unfold TripEngine.inTime
    rw [filter_append, ih, hstate]
    by_cases hd : x.2.deviceId = d
    · subst hd
      rw [filter_cons_of_pos (by simp), if_pos rfl]
      conv_rhs => unfold DeviceState.inTime
      congr 1
      split
      · rfl
      · simp
    · rw [filter_cons_of_neg (by simp [hd]), if_neg (Ne.symm hd)]
      split
      · rfl
      · simp [hd]

lemma twoRuns_eq (xs : List Marked) : twoRuns haversineM configFor d xs =
    (xs.filter (·.2.deviceId = d)).foldl (TwoRuns.step haversineM (configFor d))
      ⟨.fresh (configFor d), .fresh (configFor d)⟩ := by
  have hmap : (xs.map snd).filter (·.deviceId = d) = (xs.filter (·.2.deviceId = d)).map snd := by
    rw [filter_map]
    rfl
  unfold twoRuns
  rw [TwoRuns.foldl_step, (TripEngine.new.feed_own haversineM configFor d _).2,
    (TripEngine.new.feed_own haversineM configFor d _).2, TripEngine.inTime_own, hmap]
  rfl

lemma twoRuns_append (pre : List Marked) (x : Marked) :
    twoRuns haversineM configFor d (pre ++ [x]) =
      if x.2.deviceId = d then
        (twoRuns haversineM configFor d pre).step haversineM (configFor d) x
      else twoRuns haversineM configFor d pre := by
  rw [twoRuns_eq, twoRuns_eq, filter_append, foldl_append]
  by_cases hd : x.2.deviceId = d
  · rw [filter_cons_of_pos (by simp [hd]), if_pos hd]
    rfl
  · rw [filter_cons_of_neg (by simp [hd]), if_neg hd]
    rfl

variable (haversineM configFor d) in
lemma twoRuns_agree (pre : List Marked) (hinvalid : ∀ x ∈ pre, x.1 = true → x.2.fixValid = false)
    (hsame : ∀ p, p <+: pre → (twoRuns haversineM configFor d p).without.phase.isMoving =
      (twoRuns haversineM configFor d p).extended.phase.isMoving) :
    (twoRuns haversineM configFor d pre).Agrees (configFor d) (insertedOf d pre) := by
  induction pre using reverseRecOn with
  | nil => exact ⟨rfl, rfl, fun t ht => (Option.not_mem_none t ht).elim, ⟨none, rfl, rfl⟩,
      ⟨none, rfl, rfl⟩, .parked none⟩
  | append_singleton pre x ih =>
    have hagree := ih (fun y hy => hinvalid y (mem_append_left _ hy)) fun p hp =>
      hsame p (hp.trans (prefix_append pre [x]))
    have hsub : insertedOf d pre ⊆ insertedOf d (pre ++ [x]) := fun r hr =>
      mem_insertedOf.2 ((mem_insertedOf.1 hr).imp_left (mem_append_left _))
    have hnow := hsame (pre ++ [x]) (prefix_rfl)
    rw [twoRuns_append] at hnow ⊢
    split at hnow
    · rename_i hd
      rw [if_pos hd]
      have hx : x ∈ pre ++ [x] := mem_append_right _ mem_cons_self
      rcases hagree.step haversineM (hinvalid x hx) hsub (fun hins =>
          mem_insertedOf.2 ⟨by rw [← hins]; exact hx, hd⟩) with h | ⟨k, trip, h⟩ | h
      · exact h
      · rw [h.without, h.extended] at hnow
        cases hnow
      · rw [h.without.2, h.extended] at hnow
        cases hnow
    · rename_i hd
      rw [if_neg hd]
      exact ⟨hagree.without, hagree.extended, hagree.seen, hagree.lies, hagree.lies',
        hagree.phase.mono hsub⟩

end Engine

/-- A trip of three minutes, and a stop of three; beneath a roof, one record between the two last.
-/
def stopsBeneathRoof (ignition : Bool) : List Marked :=
  [(false, sampleRecord 0 true), (false, sampleRecord 90000 true),
    (false, sampleRecord 180000 false),
    (true, { sampleRecord 240000 ignition with fixValid := false }),
    (false, sampleRecord 360000 false)]

end Orbetra
