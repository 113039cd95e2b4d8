import Orbetra.Trip.Idle

/-!
# A batch that is fed again

A batch that was fed and not acknowledged is redelivered.  The records that are older than the
newest of their device are late by then, and the engine drops them.  Those that carry the newest fix
time are not late, and the engine reads them once more.

It does no harm if they say what the device has read last: the record is read again where it was
read first, and the trip has nothing to gain from it (`Phase.step_again`).  Records of one time that
say different things are another matter. -/

namespace Orbetra

open List Option Bool

variable (haversineM : Haversine)

/-- What the engine reads of a record. -/
structure TripReading where
  fixTime : Ms
  fixValid : Bool
  lat : ℚ
  lon : ℚ
  speed : Option ℚ
  ignition : Option Bool
  movement : Option Bool
  odometerM : Option ℤ
  ibutton : Option String
  deriving DecidableEq

def NormalizedRecord.tripReading (r : NormalizedRecord) : TripReading where
  fixTime := r.fixTime
  fixValid := r.fixValid
  lat := r.lat
  lon := r.lon
  speed := r.speed
  ignition := r.ignition
  movement := r.movement
  odometerM := r.odometerM
  ibutton := recordIbutton r

/-- Read once more, a record shows a vehicle that has not moved since.  A trip that the record began
is idling by then; a vehicle whose stops are told by its displacement has stopped. -/
def Phase.stirs (t : TripThresholds) (phase : Phase) (r : NormalizedRecord) : Bool :=
  r.fixValid &&
    match phase with
    | .parked cand => t.moving r && (candidateAt haversineM cand r).sustained t r && t.idling r
    | .moving trip =>
      t.noIgnition && decide (r.speedOr0 < t.moveSpeedKmh) && decide (0 < t.parkedDisplaceM) &&
        decide (t.parkedDisplaceM ≤ haversineM trip.lastLat trip.lastLon r.lat r.lon)

/-- The trip has taken the record in: to read it again adds nothing. -/
structure OpenTrip.Has (t : TripThresholds) (trip : OpenTrip) (r : NormalizedRecord) : Prop where
  lastLat : trip.lastLat = r.lat
  lastLon : trip.lastLon = r.lon
  lastTime : trip.lastTime = r.fixTime
  odoLast : r.odometerM.or trip.odoLast = trip.odoLast
  odoBroken : odoMonotonic trip.odoLast r.odometerM = true ∨ trip.odoBroken = true
  maxSpeed : r.speedOr0 ≤ trip.maxSpeed
  ibutton : (recordIbutton r).or trip.ibutton = trip.ibutton
  idleSince : trip.idleSince.isSome = t.idling r

def DeviceState.newest (config : DeviceTripConfig) :
    DeviceState → List NormalizedRecord → Option (DeviceState × NormalizedRecord)
  | _, [] => none
  | st, r :: rs =>
    (newest config (st.step haversineM config r).1 rs).or
      (if isClockSkewed r || st.isLate r then none else some (st, r))

/-- Among `records`, those that carry the newest time of the device say what it has read last, which
was nothing that stirs it again. -/
def DeviceState.Settled (config : DeviceTripConfig) (st : DeviceState)
    (own records : List NormalizedRecord) : Prop :=
  ∀ n ∈ st.newest haversineM config own, ∀ r ∈ records, isClockSkewed r = false →
    r.fixTime = n.2.fixTime →
      r.tripReading = n.2.tripReading ∧ n.1.phase.stirs haversineM config.thresholds n.2 = false

instance (config : DeviceTripConfig) (st : DeviceState) (own records : List NormalizedRecord) :
    Decidable (st.Settled haversineM config own records) :=
  inferInstanceAs (Decidable (∀ n ∈ st.newest haversineM config own, _))

section Replay

variable {haversineM} {config : DeviceTripConfig} {d : DeviceId}

/-! ## One record, twice -/

variable {r : NormalizedRecord}

lemma Phase.step_of_tripReading {r' : NormalizedRecord} (hdevice : r.deviceId = r'.deviceId)
    (h : r.tripReading = r'.tripReading) (phase : Phase) :
    phase.step haversineM config r = phase.step haversineM config r' := by
  cases r with
  | mk deviceId fixTime serverTime lat lon altitude speed course satellites fixValid ignition
      movement odometerM priority recHash attrs =>
  cases r' with
  | mk deviceId' fixTime' serverTime' lat' lon' altitude' speed' course' satellites' fixValid'
      ignition' movement' odometerM' priority' recHash' attrs' =>
  unfold NormalizedRecord.tripReading at h
  injection h with hfixTime hfixValid hlat hlon hspeed hignition hmovement hodometerM hibutton
  dsimp only at hdevice hfixTime hfixValid hlat hlon hspeed hignition hmovement hodometerM
  subst hdevice hfixTime hfixValid hlat hlon hspeed hignition hmovement hodometerM
  cases phase with
  | parked cand =>
    cases cand with
    | none =>
      simp only [Phase.step, Phase.parkedStep, Candidate.start, OpenTrip.ofCandidate, hibutton]
      rfl
    | some c =>
      simp only [Phase.step, Phase.parkedStep, Candidate.extend, OpenTrip.ofCandidate, hibutton]
      rfl
  | moving trip =>
    simp only [Phase.step, Phase.movingStep, OpenTrip.accumulate, hibutton]
    rfl

section Again

variable (hself : ∀ lat lon, haversineM lat lon lat lon = 0)

include hself

lemma Candidate.extend_again (cand : Option Candidate) (r : NormalizedRecord) :
    (candidateAt haversineM cand r).extend haversineM r = candidateAt haversineM cand r := by
  have hdisp : ∀ x : ℚ, x + (haversineM r.lat r.lon r.lat r.lon : ℚ) = x := fun x => by
    rw [hself, NNRat.coe_zero, add_zero]
  cases cand with
  | none =>
    unfold candidateAt Candidate.start Candidate.extend
    dsimp only
    rw [hdisp, ite_self, Option.or_self]
  | some c =>
    have hspeed : ¬(if c.maxSpeed < r.speedOr0 then r.speedOr0 else c.maxSpeed) < r.speedOr0 := by
      split
      · exact lt_irrefl _
      · assumption
    unfold candidateAt Candidate.extend
    dsimp only
    rw [hdisp, if_neg hspeed]
    cases recordIbutton r <;> rfl

lemma OpenTrip.Has.seen {t : TripThresholds} {trip : OpenTrip} {r : NormalizedRecord}
    (h : trip.Has t r) : trip.seen haversineM t r = trip := by
  have haccumulate : trip.accumulate haversineM r = trip := by
    have hbroken : (trip.odoBroken || !odoMonotonic trip.odoLast r.odometerM) = trip.odoBroken := by
      rcases h.odoBroken with hodo | hodo
      · rw [hodo, Bool.not_true, Bool.or_false]
      · rw [hodo, Bool.true_or]
    unfold OpenTrip.accumulate
    rw [hbroken, h.odoLast, h.ibutton, if_neg (not_lt.2 h.maxSpeed), ← h.lastLat, ← h.lastLon,
      ← h.lastTime, hself, NNRat.coe_zero, add_zero]
  unfold OpenTrip.seen OpenTrip.driven
  rw [haccumulate]
  split
  · have hidle := h.idleSince
    dsimp only
    split
    · rename_i hidling
      have hidling : t.idling r = true := decide_eq_true hidling
      obtain ⟨since, hsince⟩ := isSome_iff_exists.1 (hidle.trans hidling)
      rw [hsince, getD_some, ← hsince]
    · rename_i hidling
      have hidling : t.idling r = false := decide_eq_false hidling
      unfold OpenTrip.flushIdle
      rw [isSome_eq_false_iff.1 (hidle.trans hidling) |> isNone_iff_eq_none.1]
  · rfl

end Again

lemma OpenTrip.exists_flushIdle (trip : OpenTrip) (now : Ms) (sustain : ℚ≥0) :
    ∃ idleS, trip.flushIdle now sustain = { trip with idleS := idleS, idleSince := none } := by
  unfold OpenTrip.flushIdle
  cases h : trip.idleSince with
  | none =>
    refine ⟨trip.idleS, ?_⟩
    conv_rhs => rw [← h]
  | some since => exact ⟨_, rfl⟩

lemma or_or_self_left (a b : Option String) : a.or (a.or b) = a.or b := by
  cases a <;> rfl

lemma OpenTrip.has_seen (t : TripThresholds) (trip : OpenTrip) (hvalid : r.fixValid = true) :
    (trip.seen haversineM t r).Has t r := by
  have hodo : odoMonotonic (r.odometerM.or trip.odoLast) r.odometerM = true ∨
      (trip.odoBroken || !odoMonotonic trip.odoLast r.odometerM) = true := by
    cases hodometer : r.odometerM with
    | none =>
      right
      cases trip.odoLast <;> simp [odoMonotonic]
    | some m =>
      left
      simp [odoMonotonic]
  have hspeed : r.speedOr0 ≤ if trip.maxSpeed < r.speedOr0 then r.speedOr0 else trip.maxSpeed := by
    split
    · exact le_rfl
    · exact not_lt.1 ‹_›
  have hodoLast : r.odometerM.or (r.odometerM.or trip.odoLast) = r.odometerM.or trip.odoLast := by
    cases r.odometerM <;> rfl
  unfold OpenTrip.seen OpenTrip.driven
  rw [if_pos hvalid]
  dsimp only
  split
  · rename_i hidling
    exact ⟨rfl, rfl, rfl, hodoLast, hodo, hspeed, or_or_self_left _ _,
      (decide_eq_true hidling).symm⟩
  · rename_i hidling
    have hidling : t.idling r = false := decide_eq_false hidling
    obtain ⟨idleS, hflush⟩ :=
      (trip.accumulate haversineM r).exists_flushIdle r.fixTime t.idleSustainS
    rw [hflush]
    exact ⟨rfl, rfl, rfl, hodoLast, hodo, hspeed, or_or_self_left _ _, hidling.symm⟩

lemma OpenTrip.has_ofCandidate {t : TripThresholds} (cand : Option Candidate)
    (hidling : t.idling r = false) :
    (OpenTrip.ofCandidate (candidateAt haversineM cand r) r).Has t r := by
  have hodo : odoMonotonic r.odometerM r.odometerM = true ∨
      (!odoMonotonic (candidateAt haversineM cand r).startOdo r.odometerM) = true := by
    cases r.odometerM with
    | none =>
      right
      cases (candidateAt haversineM cand r).startOdo <;> rfl
    | some m =>
      left
      exact decide_eq_true le_rfl
  refine ⟨rfl, rfl, rfl, or_self, hodo, le_max_right _ _, ?_, hidling.symm⟩
  unfold OpenTrip.ofCandidate
  dsimp only
  cases cand with
  | none => exact or_or_self_left _ _
  | some c =>
    unfold candidateAt Candidate.extend
    dsimp only
    cases recordIbutton r <;> rfl

variable {since since' : Option Ms}

lemma timed_again {threshold : ℚ≥0} {now : Ms}
    (h : (if (threshold : ℚ) ≤ secs now (since.getD now) then StopTimer.runsOut (since.getD now)
      else .goesOn (some (since.getD now))) = .goesOn since') :
    (if (threshold : ℚ) ≤ secs now (since'.getD now) then StopTimer.runsOut (since'.getD now)
      else .goesOn (some (since'.getD now))) = .goesOn since' := by
  split at h
  · cases h
  · rename_i hlasts
    injection h with h
    subst h
    exact if_neg hlasts

lemma stopTimer_again (hself : ∀ lat lon, haversineM lat lon lat lon = 0) {lat lon lat' lon' : ℚ}
    (h : stopTimer haversineM config since lat lon r = .goesOn since')
    (hplace : r.fixValid = true → lat' = r.lat ∧ lon' = r.lon)
    (hcreeps : r.fixValid = true → config.thresholds.noIgnition = true →
      r.speedOr0 < config.thresholds.moveSpeedKmh → 0 < config.thresholds.parkedDisplaceM →
        haversineM lat lon r.lat r.lon < config.thresholds.parkedDisplaceM) :
    stopTimer haversineM config since' lat' lon' r = .goesOn since' := by
  unfold stopTimer at h ⊢
  cases hvalid : r.fixValid with
  | true =>
    obtain ⟨rfl, rfl⟩ := hplace hvalid
    simp only [hvalid, if_true, hself] at h ⊢
    cases hno : config.thresholds.noIgnition with
    | true =>
      simp only [hno, if_true] at h ⊢
      by_cases hcreep : r.speedOr0 < config.thresholds.moveSpeedKmh ∧
          0 < config.thresholds.parkedDisplaceM
      · rw [if_pos ⟨hcreep.1, hcreeps hvalid hno hcreep.1 hcreep.2⟩] at h
        rw [if_pos hcreep]
        exact timed_again h
      · rw [if_neg fun hstop => hcreep ⟨hstop.1, zero_le.trans_lt hstop.2⟩] at h
        rw [if_neg hcreep]
        exact h ▸ rfl
    | false =>
      simp only [hno, false_eq_true, if_false] at h ⊢
      split at h
      · rename_i hoff
        rw [if_pos hoff]
        exact timed_again h
      · rename_i hon
        rw [if_neg hon]
        exact h ▸ rfl
  | false =>
    simp only [hvalid, false_eq_true, if_false] at h ⊢
    cases hno : config.thresholds.noIgnition with
    | true =>
      simp only [hno, if_true] at h ⊢
    | false =>
      simp only [hno, false_eq_true, if_false] at h ⊢
      cases hignition : r.ignition with
      | none => rfl
      | some on =>
        cases on with
        | true =>
          simp only [hignition] at h ⊢
          exact h
        | false =>
          simp only [hignition] at h ⊢
          exact timed_again h

/-- **A record that is read once more.** -/
lemma Phase.step_again (hself : ∀ lat lon, haversineM lat lon lat lon = 0) (phase : Phase)
    (hstirs : phase.stirs haversineM config.thresholds r = false) :
    (phase.step haversineM config r).1.step haversineM config r =
      ((phase.step haversineM config r).1, []) := by
  unfold Phase.stirs at hstirs
  cases phase with
  | parked cand =>
    rw [Phase.step_parked]
    by_cases hvalid : r.fixValid = false
    · rw [if_pos hvalid, Phase.step_parked, if_pos hvalid]
    rw [if_neg hvalid]
    by_cases hmoving : config.thresholds.moving r = false
    · rw [if_pos hmoving, Phase.step_parked, if_neg hvalid, if_pos hmoving]
    rw [if_neg hmoving]
    have hvalid' := not_eq_false _ ▸ hvalid
    have hmoving' := not_eq_false _ ▸ hmoving
    dsimp only
    cases hsustained : (candidateAt haversineM cand r).sustained config.thresholds r with
    | true =>
      have hidling : config.thresholds.idling r = false := by
        simpa only [hvalid', hmoving', hsustained, Bool.true_and] using hstirs
      rw [if_pos rfl, Phase.step_moving_eq, stopTimer_of_moving hvalid' hmoving',
        (OpenTrip.has_ofCandidate cand hidling).seen hself]
      rfl
    | false =>
      rw [if_neg Bool.false_ne_true, Phase.step_parked, if_neg hvalid, if_neg hmoving]
      show (if ((candidateAt haversineM cand r).extend haversineM r).sustained _ r then _ else
        (Phase.parked (some ((candidateAt haversineM cand r).extend haversineM r)), [])) = _
      rw [Candidate.extend_again hself, hsustained]
      rfl
  | moving trip =>
    rw [Phase.step_moving_eq]
    cases htimer : stopTimer haversineM config trip.stopSince trip.lastLat trip.lastLon r with
    | goesOn since' =>
      show Phase.step haversineM config
          (.moving { trip.seen haversineM config.thresholds r with stopSince := since' }) r =
        (Phase.moving { trip.seen haversineM config.thresholds r with stopSince := since' }, [])
      have hseen : (trip.seen haversineM config.thresholds r).seen haversineM config.thresholds r =
          trip.seen haversineM config.thresholds r := by
        cases hvalid : r.fixValid with
        | true => exact (trip.has_seen config.thresholds hvalid).seen hself
        | false => exact OpenTrip.seen_of_invalid _ _ hvalid
      rw [Phase.step_timed, hseen, stopTimer_again hself htimer]
      · rfl
      · exact fun hvalid => ⟨(trip.has_seen _ hvalid).lastLat, (trip.has_seen _ hvalid).lastLon⟩
      · intro hvalid hno hcreeps hdisplace
        by_contra hfar
        simp [hvalid, hno, hcreeps, hdisplace, not_lt.1 hfar] at hstirs
    | runsOut endTime =>
      show Phase.step haversineM config .idle r = (.idle, [])
      rw [Phase.step_parked]
      split
      · rfl
      rename_i hvalid
      split
      · rfl
      rename_i hmoving
      rw [stopTimer_of_moving (not_eq_false _ ▸ hvalid) (not_eq_false _ ▸ hmoving)] at htimer
      cases htimer

/-! ## The newest record of a device -/

variable (haversineM) in
lemma DeviceState.config_step {st : DeviceState} (hconfig : st.config = config)
    (r : NormalizedRecord) : (st.step haversineM config r).1.config = config := by
  rcases DeviceState.step_cases haversineM hconfig r with ⟨-, hstep⟩ | ⟨-, -, hstep⟩
  · rw [hstep]
    exact hconfig
  · rw [hstep]

variable (haversineM config) in
structure DeviceState.IsNewest (records : List NormalizedRecord) (st : DeviceState)
    (n : DeviceState × NormalizedRecord) : Prop where
  mem : n.2 ∈ records
  skewed : isClockSkewed n.2 = false
  state : st = ⟨(n.1.phase.step haversineM config n.2).1, some n.2.fixTime, config⟩

variable (haversineM) in
lemma DeviceState.newest_spec {st : DeviceState} (hconfig : st.config = config)
    (records : List NormalizedRecord) :
    (st.newest haversineM config records = none ∧
        Transducer.stateAfter (DeviceState.step haversineM config) st records = st ∧
        ∀ r ∈ records, st.step haversineM config r = (st, [])) ∨
      ∃ n, st.newest haversineM config records = some n ∧
        DeviceState.IsNewest haversineM config records
          (Transducer.stateAfter (DeviceState.step haversineM config) st records) n := by
  induction records generalizing st with
  | nil => exact .inl ⟨rfl, rfl, fun r hr => by cases hr⟩
  | cons r rs ih =>
    unfold DeviceState.newest
    rw [Transducer.stateAfter_cons]
    rcases ih (DeviceState.config_step haversineM hconfig r) with
      ⟨hnone, hafter, hstill⟩ | ⟨n, hsome, hn⟩
    · rw [hnone, none_or, hafter]
      rcases DeviceState.step_cases haversineM hconfig r with ⟨hskip, hstep⟩ | ⟨hskew, hlate, hstep⟩
      · rw [if_pos (by simpa using hskip), hstep]
        rw [hstep] at hstill
        exact .inl ⟨rfl, rfl, forall_mem_cons.2 ⟨hstep, hstill⟩⟩
      · rw [hskew, hlate, hstep]
        exact .inr ⟨_, rfl, mem_cons_self, hskew, rfl⟩
    · rw [hsome, some_or]
      exact .inr ⟨n, rfl, mem_cons_of_mem _ hn.mem, hn.skewed, hn.state⟩

variable (haversineM) in
lemma DeviceState.le_lastSeen {st : DeviceState} (hconfig : st.config = config)
    (records : List NormalizedRecord) :
    (∀ t ∈ st.lastSeen, ∃ u ∈ (Transducer.stateAfter (DeviceState.step haversineM config) st
        records).lastSeen, t ≤ u) ∧
      ∀ r ∈ records, isClockSkewed r = false → ∃ u ∈ (Transducer.stateAfter
        (DeviceState.step haversineM config) st records).lastSeen, r.fixTime ≤ u := by
  induction records generalizing st with
  | nil => exact ⟨fun t ht => ⟨t, ht, le_rfl⟩, fun r hr => by cases hr⟩
  | cons r rs ih =>
    rw [Transducer.stateAfter_cons]
    obtain ⟨hbefore, hlater⟩ := ih (DeviceState.config_step haversineM hconfig r)
    -- the record is no newer than what the device has seen once it was given it
    have hnow : (∀ t ∈ st.lastSeen, ∃ u ∈ (st.step haversineM config r).1.lastSeen, t ≤ u) ∧
        (isClockSkewed r = false → ∃ u ∈ (st.step haversineM config r).1.lastSeen,
          r.fixTime ≤ u) := by
      rcases DeviceState.step_cases haversineM hconfig r with ⟨hskip, hstep⟩ | ⟨-, hlate, hstep⟩
      · rw [hstep]
        refine ⟨fun t ht => ⟨t, ht, le_rfl⟩, fun hskew => ?_⟩
        have hlate : st.isLate r = true := hskip.resolve_left (by simp [hskew])
        unfold DeviceState.isLate at hlate
        obtain ⟨t, ht, hlt⟩ := (any_eq_true _ _).1 hlate
        exact ⟨t, ht, (of_decide_eq_true hlt).le⟩
      · rw [hstep]
        exact ⟨fun t ht => ⟨_, rfl, DeviceState.isLate_eq_false.1 hlate t ht⟩,
          fun _ => ⟨_, rfl, le_rfl⟩⟩
    have hon : ∀ t, (∃ u ∈ (st.step haversineM config r).1.lastSeen, t ≤ u) →
        ∃ u ∈ (Transducer.stateAfter (DeviceState.step haversineM config)
          (st.step haversineM config r).1 rs).lastSeen, t ≤ u := fun t ⟨u, hu, htu⟩ =>
      (hbefore u hu).imp fun v hv => hv.imp_right htu.trans
    refine ⟨fun t ht => hon t (hnow.1 t ht), forall_mem_cons.2 ⟨fun hskew => ?_, hlater⟩⟩
    exact hon _ (hnow.2 hskew)

/-- **A device that is given its records again.** -/
lemma DeviceState.Settled.step {st : DeviceState} {own records : List NormalizedRecord}
    (hself : ∀ lat lon, haversineM lat lon lat lon = 0) (hconfig : st.config = config)
    (hdevice : ∀ r ∈ own, r.deviceId = d) (h : st.Settled haversineM config own records)
    (hr : r ∈ records) (hown : r ∈ own) :
    (Transducer.stateAfter (DeviceState.step haversineM config) st own).step haversineM config r =
      (Transducer.stateAfter (DeviceState.step haversineM config) st own, []) := by
  have hseen := (DeviceState.le_lastSeen haversineM hconfig own).2 r hown
  rcases DeviceState.newest_spec haversineM hconfig own with ⟨-, hafter, hstill⟩ | ⟨n, hsome, hn⟩
  · rw [hafter]
    exact hstill r hown
  · have hstate := hn.state
    generalize Transducer.stateAfter (DeviceState.step haversineM config) st own = now
      at hseen hstate ⊢
    subst hstate
    rcases @DeviceState.step_cases haversineM config ⟨_, some n.2.fixTime, config⟩ rfl r with
      ⟨-, hstep⟩ | ⟨hskew, hlate, hstep⟩
    · exact hstep
    obtain ⟨_, ⟨⟩, hle⟩ := hseen hskew
    have htime : r.fixTime = n.2.fixTime := hle.antisymm (DeviceState.isLate_eq_false.1 hlate _ rfl)
    obtain ⟨hreading, hstirs⟩ := h n hsome r hr hskew htime
    have hsame : r.deviceId = n.2.deviceId := (hdevice r hown).trans (hdevice n.2 hn.mem).symm
    rw [hstep, Phase.step_of_tripReading hsame hreading, Phase.step_again hself n.1.phase hstirs,
      htime]

end Replay

/-- **A batch that is fed again** leaves every device as it is, and emits nothing, where the newest
records of the device that it holds say what the device has read last. -/
theorem TripEngine.feed_again (hself : ∀ lat lon, haversineM lat lon lat lon = 0)
    (configFor : DeviceId → DeviceTripConfig) (records batch : List NormalizedRecord)
    (d : DeviceId)
    (h : (DeviceState.fresh (configFor d)).Settled haversineM (configFor d)
      ((records ++ batch).filter (·.deviceId = d)) (batch.filter (·.deviceId = d))) :
    let e := (TripEngine.new.feed haversineM configFor (records ++ batch)).1
    (e.feed haversineM configFor batch).2.filter (·.deviceId = d) = [] ∧
      ((e.feed haversineM configFor batch).1.state d).getD (.fresh (configFor d)) =
        (e.state d).getD (.fresh (configFor d)) := by
  intro e
  have hnow : (e.state d).getD (.fresh (configFor d)) = Transducer.stateAfter _
      (DeviceState.fresh (configFor d)) ((records ++ batch).filter (·.deviceId = d)) :=
    (TripEngine.new.feed_own haversineM configFor d (records ++ batch)).2
  obtain ⟨hout, hafter⟩ := e.feed_own haversineM configFor d batch
  rw [hout, hafter]
  have hconfig : (DeviceState.fresh (configFor d)).config = configFor d := rfl
  have hstill := Transducer.feed_of_still fun r hr => h.step hself hconfig
    (fun r hr => of_decide_eq_true (mem_filter.1 hr).2) hr (by
      rw [filter_append]
      exact mem_append_right _ hr)
  rw [hnow]
  unfold Transducer.outputs Transducer.stateAfter at *
  rw [hstill]
  exact ⟨rfl, rfl⟩

/-! ## Two records of one second -/

def Phase.odoBroken : Phase → Bool
  | .parked _ => false
  | .moving trip => trip.odoBroken

/-- A vehicle on its way, with the readings of its odometer. -/
def underWay : List NormalizedRecord :=
  [{ sampleRecord 0 true with odometerM := some 1000 },
    { sampleRecord 100000 true with odometerM := some 2000 }]

/-- Two records of one second, a hundred metres apart. -/
def oneSecond : List NormalizedRecord :=
  [{ sampleRecord 200000 true with odometerM := some 3000 },
    { sampleRecord 200000 true with odometerM := some 3100 }]

/-- The odometer of the trip is sound, until the second batch is fed again. -/
theorem feed_again_breaks :
    let e := (TripEngine.new.feed onTheSpot (fun _ => defaultConfig) (underWay ++ oneSecond)).1
    (e.state 1).map (·.phase.odoBroken) = some false ∧
      ((e.feed onTheSpot (fun _ => defaultConfig) oneSecond).1.state 1).map (·.phase.odoBroken) =
        some true := by
  decide +kernel

theorem feed_again_underWay :
    let e := (TripEngine.new.feed onTheSpot (fun _ => defaultConfig) ([] ++ underWay)).1
    (e.feed onTheSpot (fun _ => defaultConfig) underWay).2.filter (·.deviceId = 1) = [] ∧
      ((e.feed onTheSpot (fun _ => defaultConfig) underWay).1.state 1).getD (.fresh defaultConfig) =
        (e.state 1).getD (.fresh defaultConfig) :=
  TripEngine.feed_again onTheSpot (fun _ _ => rfl) (fun _ => defaultConfig) [] underWay 1
    (by decide +kernel)

end Orbetra
