import Orbetra.Trip.Reconcile
import Orbetra.Trip.Run

/-!
# The stream of trip events

The records of many devices arrive in any order; each device reads its own (`TripEngine.feed_own`).
What one device emits is a stream of trips, each of which opens where the one before has closed
(`TripStream`). -/

namespace Orbetra

open List

variable (haversineM : Haversine)

/-! ## One record of a moving device -/

/-- A trip after a valid fix, before the stop timer is consulted. -/
def OpenTrip.driven (t : TripThresholds) (trip : OpenTrip) (r : NormalizedRecord) : OpenTrip :=
  let trip := trip.accumulate haversineM r
  if (t.noIgnition ∨ r.ignition = some true) ∧ r.speedOr0 < t.idleSpeedKmh then
    { trip with idleSince := some (trip.idleSince.getD r.fixTime) }
  else trip.flushIdle r.fixTime t.idleSustainS

def OpenTrip.seen (t : TripThresholds) (trip : OpenTrip) (r : NormalizedRecord) : OpenTrip :=
  if r.fixValid then trip.driven haversineM t r else trip

def OpenTrip.obey (config : DeviceTripConfig) (trip : OpenTrip) (r : NormalizedRecord) :
    StopTimer → Phase × List TripEvent
  | .goesOn since => (.moving { trip with stopSince := since }, [])
  | .runsOut endTime => (.idle, [.closed (trip.close config r.deviceId endTime)])

section Step

variable {haversineM} {config : DeviceTripConfig}

lemma OpenTrip.stopAt_eq (threshold : ℚ≥0) (trip : OpenTrip) (r : NormalizedRecord) :
    trip.stopAt config threshold r = trip.obey config r
      (if threshold ≤ secs r.fixTime (trip.stopSince.getD r.fixTime) then
        .runsOut (trip.stopSince.getD r.fixTime)
      else .goesOn (some (trip.stopSince.getD r.fixTime))) := by
  unfold OpenTrip.stopAt
  dsimp only
  split <;> rfl

lemma OpenTrip.driven_stopSince (t : TripThresholds) (trip : OpenTrip) (r : NormalizedRecord) :
    (trip.driven haversineM t r).stopSince = trip.stopSince := by
  unfold OpenTrip.driven
  dsimp only
  split
  · rfl
  · rw [OpenTrip.flushIdle_stopSince]
    rfl

variable (haversineM config) in
/-- **A record of a moving device**, exactly. -/
lemma Phase.step_moving_eq (trip : OpenTrip) (r : NormalizedRecord) :
    Phase.step haversineM config (.moving trip) r =
      (trip.seen haversineM config.thresholds r).obey config r
        (stopTimer haversineM config trip.stopSince trip.lastLat trip.lastLon r) := by
  cases hvalid : r.fixValid with
  | true =>
    have hseen : trip.seen haversineM config.thresholds r =
        trip.driven haversineM config.thresholds r := by simp [OpenTrip.seen, hvalid]
    have hstep : Phase.step haversineM config (.moving trip) r =
        if stoppedAt config.thresholds (haversineM trip.lastLat trip.lastLon r.lat r.lon) r then
          (trip.driven haversineM config.thresholds r).stopAt config
            config.thresholds.stopThreshold r
        else (.moving { trip.driven haversineM config.thresholds r with stopSince := none },
          []) := by
      simp only [Phase.step, hvalid, if_true]
      rfl
    rw [hstep, hseen, OpenTrip.stopAt_eq, OpenTrip.driven_stopSince]
    unfold stopTimer stoppedAt
    simp only [hvalid, if_true]
    cases hno : config.thresholds.noIgnition with
    | true =>
      simp only [if_true, decide_eq_true_eq]
      split <;> rfl
    | false =>
      simp only [Bool.false_eq_true, if_false, decide_eq_true_eq]
      split <;> rfl
  | false =>
    have hseen : trip.seen haversineM config.thresholds r = trip := by
      simp [OpenTrip.seen, hvalid]
    rw [hseen]
    unfold stopTimer
    simp only [Phase.step, hvalid, Bool.false_eq_true, if_false, Phase.observeStopWithoutFix]
    cases hno : config.thresholds.noIgnition with
    | true => rfl
    | false =>
      simp only [Bool.false_eq_true, if_false]
      have hthreshold : config.thresholds.stopThreshold = config.thresholds.parkedIgnitionOffS := by
        simp [TripThresholds.stopThreshold, hno]
      cases hignition : r.ignition with
      | none => rfl
      | some on =>
        cases on with
        | true => rfl
        | false =>
          dsimp only
          rw [OpenTrip.stopAt_eq, hthreshold]

lemma OpenTrip.seen_of_invalid (t : TripThresholds) (trip : OpenTrip) {r : NormalizedRecord}
    (h : r.fixValid = false) : trip.seen haversineM t r = trip := by simp [OpenTrip.seen, h]

variable (haversineM) in
lemma OpenTrip.seen_startTime (t : TripThresholds) (trip : OpenTrip) (r : NormalizedRecord) :
    (trip.seen haversineM t r).startTime = trip.startTime := by
  unfold OpenTrip.seen OpenTrip.driven
  dsimp only
  split
  · split
    · rfl
    · rw [OpenTrip.flushIdle_startTime]
      rfl
  · rfl

variable (haversineM) in
lemma OpenTrip.seen_startLat (t : TripThresholds) (trip : OpenTrip) (r : NormalizedRecord) :
    (trip.seen haversineM t r).startLat = trip.startLat := by
  unfold OpenTrip.seen OpenTrip.driven OpenTrip.flushIdle
  dsimp only
  split <;> try split <;> try split
  all_goals rfl

variable (haversineM) in
lemma OpenTrip.seen_startLon (t : TripThresholds) (trip : OpenTrip) (r : NormalizedRecord) :
    (trip.seen haversineM t r).startLon = trip.startLon := by
  unfold OpenTrip.seen OpenTrip.driven OpenTrip.flushIdle
  dsimp only
  split <;> try split <;> try split
  all_goals rfl

lemma OpenTrip.seen_haversineM (t : TripThresholds) (trip : OpenTrip) (r : NormalizedRecord) :
    (trip.seen haversineM t r).haversineM = trip.haversineM +
      if r.fixValid then (haversineM trip.lastLat trip.lastLon r.lat r.lon : ℚ) else 0 := by
  unfold OpenTrip.seen OpenTrip.driven OpenTrip.flushIdle
  dsimp only
  split <;> try split <;> try split
  all_goals simp [OpenTrip.accumulate, *]

lemma OpenTrip.seen_stopSince (t : TripThresholds) (trip : OpenTrip) (since : Option Ms)
    (r : NormalizedRecord) : ({ trip with stopSince := since } : OpenTrip).seen haversineM t r =
      { trip.seen haversineM t r with stopSince := since } := by
  unfold OpenTrip.seen OpenTrip.driven OpenTrip.flushIdle
  dsimp only
  split
  · split
    · rfl
    · cases h : (trip.accumulate haversineM r).idleSince <;>
        simp only [OpenTrip.accumulate] at h ⊢ <;> rw [h]
  · rfl

lemma OpenTrip.close_stopSince (trip : OpenTrip) (since : Option Ms) (d : DeviceId) (endTime : Ms) :
    ({ trip with stopSince := since } : OpenTrip).close config d endTime =
      trip.close config d endTime := by
  unfold OpenTrip.close OpenTrip.flushIdle
  dsimp only
  cases trip.idleSince <;> rfl

lemma Phase.step_timed (trip : OpenTrip) (since : Option Ms) (r : NormalizedRecord) :
    Phase.step haversineM config (.moving { trip with stopSince := since }) r =
      (trip.seen haversineM config.thresholds r).obey config r
        (stopTimer haversineM config since trip.lastLat trip.lastLon r) := by
  rw [Phase.step_moving_eq, OpenTrip.seen_stopSince]
  cases stopTimer haversineM config since trip.lastLat trip.lastLon r with
  | goesOn since' => rfl
  | runsOut endTime =>
    show (Phase.idle, [TripEvent.closed (OpenTrip.close _ _ _ _)]) = _
    rw [OpenTrip.close_stopSince]
    rfl

end Step

/-! ## One device of many -/

section Device

variable {haversineM}

variable (haversineM) in
lemma DeviceState.step_cases {config : DeviceTripConfig} {st : DeviceState}
    (hconfig : st.config = config) (r : NormalizedRecord) :
    (isClockSkewed r = true ∨ st.isLate r = true) ∧ st.step haversineM config r = (st, []) ∨
      isClockSkewed r = false ∧ st.isLate r = false ∧ st.step haversineM config r =
        (⟨(st.phase.step haversineM config r).1, some r.fixTime, config⟩,
          (st.phase.step haversineM config r).2) := by
  unfold DeviceState.step
  cases hskew : isClockSkewed r with
  | true => exact .inl ⟨.inl rfl, rfl⟩
  | false =>
    cases hlate : st.isLate r with
    | true => exact .inl ⟨.inr rfl, rfl⟩
    | false =>
      refine .inr ⟨rfl, rfl, ?_⟩
      simp only [Bool.false_eq_true, if_false]
      unfold DeviceState.advance
      rw [hconfig, ite_self]

lemma DeviceState.isLate_eq_false {st : DeviceState} {r : NormalizedRecord} :
    st.isLate r = false ↔ ∀ t ∈ st.lastSeen, t ≤ r.fixTime := by
  unfold DeviceState.isLate
  cases st.lastSeen <;> simp

lemma DeviceState.deviceId_of_mem {resolved : DeviceTripConfig} {st : DeviceState}
    {r : NormalizedRecord} {ev : TripEvent} (h : ev ∈ (st.step haversineM resolved r).2) :
    ev.deviceId = r.deviceId := by
  unfold DeviceState.step at h
  by_cases hskew : isClockSkewed r
  · rw [if_pos hskew] at h
    cases h
  rw [if_neg hskew] at h
  split at h
  · cases h
  unfold DeviceState.advance at h
  dsimp only at h
  generalize (if st.phase = .idle then resolved else st.config) = config at h
  have hread : st.phase.step haversineM config r = st.phase.read haversineM config r :=
    (if_neg hskew).symm
  rw [hread] at h
  have hreads := Phase.reads haversineM config st.phase r
  generalize st.phase.read haversineM config r = next at h hreads
  generalize st.phase = phase at hreads
  cases hreads with
  | opens cand e device =>
    obtain rfl := mem_singleton.1 h
    exact device
  | closes trip k device =>
    obtain rfl := mem_singleton.1 h
    exact device
  | _ => cases h

variable (haversineM) in
lemma TripEngine.step_own (configFor : DeviceId → DeviceTripConfig) (e : TripEngine)
    (r : NormalizedRecord) :
    (e.step haversineM configFor r).2 =
        (((e.state r.deviceId).getD (.fresh (configFor r.deviceId))).step haversineM
          (configFor r.deviceId) r).2 ∧
      ∀ d, (((e.step haversineM configFor r).1.state d).getD (.fresh (configFor d))) =
        if d = r.deviceId then
          (((e.state d).getD (.fresh (configFor d))).step haversineM (configFor d) r).1
        else (e.state d).getD (.fresh (configFor d)) := by
  unfold TripEngine.step DeviceState.step
  by_cases hskew : isClockSkewed r
  · simp only [hskew, if_true, ite_self]
    exact ⟨trivial, fun _ => trivial⟩
  simp only [hskew, Bool.false_eq_true, if_false]
  by_cases hlate : ((e.state r.deviceId).getD (.fresh (configFor r.deviceId))).isLate r
  · simp only [hlate, if_true, TripEngine.markLate]
    refine ⟨trivial, fun d => ?_⟩
    by_cases hd : d = r.deviceId
    · subst hd
      simp only [Function.update_self, Option.getD_some, hlate, if_true]
    · simp only [Function.update_of_ne hd, if_neg hd]
  · simp only [hlate, Bool.false_eq_true, if_false]
    refine ⟨trivial, fun d => ?_⟩
    by_cases hd : d = r.deviceId
    · subst hd
      simp only [Function.update_self, Option.getD_some, hlate, Bool.false_eq_true, if_false,
        if_true]
    · simp only [Function.update_of_ne hd, if_neg hd]

variable (haversineM) in
/-- **One device of the engine**: it reads its own records, and what is emitted of it is its own. -/
lemma TripEngine.feed_own (configFor : DeviceId → DeviceTripConfig) (d : DeviceId) (e : TripEngine)
    (records : List NormalizedRecord) :
    (e.feed haversineM configFor records).2.filter (·.deviceId = d) =
        Transducer.outputs (DeviceState.step haversineM (configFor d))
          ((e.state d).getD (.fresh (configFor d))) (records.filter (·.deviceId = d)) ∧
      ((e.feed haversineM configFor records).1.state d).getD (.fresh (configFor d)) =
        Transducer.stateAfter (DeviceState.step haversineM (configFor d))
          ((e.state d).getD (.fresh (configFor d))) (records.filter (·.deviceId = d)) := by
  unfold TripEngine.feed
  induction records generalizing e with
  | nil => exact ⟨rfl, rfl⟩
  | cons r rs ih =>
    obtain ⟨hevents, hstate⟩ := e.step_own haversineM configFor r
    obtain ⟨hout, hafter⟩ := ih (e.step haversineM configFor r).1
    simp only [Transducer.feed, filter_append]
    rw [hout, hafter, hevents, hstate d]
    by_cases hd : r.deviceId = d
    · subst hd
      have hall : (((e.state r.deviceId).getD (.fresh (configFor r.deviceId))).step haversineM
          (configFor r.deviceId) r).2.filter (·.deviceId = r.deviceId) =
          (((e.state r.deviceId).getD (.fresh (configFor r.deviceId))).step haversineM
            (configFor r.deviceId) r).2 :=
        filter_eq_self.2 fun ev hev => by simp [DeviceState.deviceId_of_mem hev]
      simp only [if_true, hall, decide_true, filter_cons_of_pos, Transducer.outputs_cons,
        Transducer.stateAfter_cons, and_self]
    · have hnone : (((e.state r.deviceId).getD (.fresh (configFor r.deviceId))).step haversineM
          (configFor r.deviceId) r).2.filter (·.deviceId = d) = [] :=
        filter_eq_nil_iff.2 fun ev hev => by simp [DeviceState.deviceId_of_mem hev, hd]
      simp only [if_neg (Ne.symm hd), hnone, nil_append, hd, decide_false,
        Bool.false_eq_true, not_false_eq_true, filter_cons_of_neg, and_self]

end Device

/-! ## A stream of trips -/

structure CloseEvent.Ends (k : CloseEvent) (o : OpenEvent) : Prop where
  startTime : k.startTime = o.startTime
  startLat : k.startLat = o.startLat
  startLon : k.startLon = o.startLon
  ordered : k.startTime ≤ k.endTime
  distance : 0 ≤ k.distanceM
  odometer : k.distanceSource = .odometer →
    (k.distanceM : ℚ) ≤ max minOdoCeilingM (maxPlausibleSpeedMs * secs k.endTime k.startTime)

/-- One trip after another, none of which begins before the one before has ended; the last may
still be going on. -/
inductive TripStream : Option Ms → List TripEvent → Prop
  | nil (after : Option Ms) : TripStream after []
  | underway {after : Option Ms} {o : OpenEvent} (later : ∀ t ∈ after, t ≤ o.startTime) :
      TripStream after [.opened o]
  | trip {after : Option Ms} {o : OpenEvent} {k : CloseEvent} {events : List TripEvent}
      (later : ∀ t ∈ after, t ≤ o.startTime) (ends : k.Ends o)
      (rest : TripStream (some k.endTime) events) :
      TripStream after (.opened o :: .closed k :: events)

def Phase.underway (d : DeviceId) : Phase → List TripEvent
  | .parked _ => []
  | .moving trip => [.opened ⟨d, trip.startTime, trip.startLat, trip.startLon⟩]

/-- What a device does began after its last trip, at `after`, and not after `now`; so did the stop
that is being timed. -/
def Phase.Lies (after : Option Ms) (now : Ms) : Phase → Prop
  | .parked none => ∀ t ∈ after, t ≤ now
  | .parked (some c) => (∀ t ∈ after, t ≤ c.startTime) ∧ c.startTime ≤ now ∧ 0 ≤ c.dispM
  | .moving trip => (∀ t ∈ after, t ≤ trip.startTime) ∧ trip.startTime ≤ now ∧
      (∀ t ∈ trip.stopSince, trip.startTime ≤ t ∧ t ≤ now) ∧ 0 ≤ trip.haversineM

section Stream

variable {haversineM} {config : DeviceTripConfig} {after : Option Ms} {now : Ms} {d : DeviceId}

lemma Phase.Lies.mono {now' : Ms} {phase : Phase} (h : phase.Lies after now) (hnow : now ≤ now') :
    phase.Lies after now' := by
  cases phase with
  | parked cand =>
    cases cand with
    | none => exact fun t ht => (h t ht).trans hnow
    | some c =>
      obtain ⟨hafter, hstart, hdisp⟩ := h
      exact ⟨hafter, hstart.trans hnow, hdisp⟩
  | moving trip =>
    obtain ⟨hafter, hstart, hstop, hdistance⟩ := h
    exact ⟨hafter, hstart.trans hnow, fun t ht => (hstop t ht).imp_right (·.trans hnow), hdistance⟩

lemma mathRound_nonneg {x : ℚ} (hx : 0 ≤ x) : 0 ≤ mathRound x := by
  refine Int.floor_nonneg.2 ?_
  linarith

/-- The distance of a close event is that of the odometer, within what a vehicle can travel, or the
one that was accumulated. -/
lemma OpenTrip.close_distance (trip : OpenTrip) (endTime : Ms) :
    ((trip.close config d endTime).distanceSource = .odometer ∧
        0 ≤ (trip.close config d endTime).distanceM ∧
        ((trip.close config d endTime).distanceM : ℚ) ≤
          max minOdoCeilingM (max 0 (secs endTime trip.startTime) * maxPlausibleSpeedMs)) ∨
      (trip.close config d endTime).distanceSource = .gps ∧
        (trip.close config d endTime).distanceM = mathRound trip.haversineM := by
  have hdistance : (trip.flushIdle endTime config.thresholds.idleSustainS).haversineM =
      trip.haversineM := by
    unfold OpenTrip.flushIdle
    split <;> rfl
  unfold OpenTrip.close
  simp only [OpenTrip.flushIdle_startTime, hdistance]
  generalize (Option.bind _ _ : Option ℤ) = odoDelta
  cases odoDelta with
  | none => exact .inr ⟨rfl, rfl⟩
  | some delta =>
    rw [Option.filter_some]
    split
    · rename_i h
      simp only [decide_eq_true_eq] at h
      exact .inl ⟨rfl, h.2.1, h.2.2.2⟩
    · exact .inr ⟨rfl, rfl⟩

lemma OpenTrip.close_start (trip : OpenTrip) (endTime : Ms) :
    (trip.close config d endTime).startLat = trip.startLat ∧
      (trip.close config d endTime).startLon = trip.startLon := by
  unfold OpenTrip.close OpenTrip.flushIdle
  dsimp only
  split <;> exact ⟨rfl, rfl⟩

variable (config d) in
lemma OpenTrip.close_ends {trip : OpenTrip} {endTime : Ms} (hordered : trip.startTime ≤ endTime)
    (hdistance : 0 ≤ trip.haversineM) :
    (trip.close config d endTime).Ends ⟨d, trip.startTime, trip.startLat, trip.startLon⟩ := by
  have hstart : (trip.close config d endTime).startTime = trip.startTime := by simp
  have hend : (trip.close config d endTime).endTime = endTime := rfl
  refine ⟨hstart, (trip.close_start endTime).1, (trip.close_start endTime).2, ?_, ?_, ?_⟩
  · rw [hstart, hend]
    exact hordered
  · rcases trip.close_distance endTime with ⟨-, hodo, -⟩ | ⟨-, hgps⟩
    · exact hodo
    · rw [hgps]
      exact mathRound_nonneg hdistance
  · intro hsource
    rcases trip.close_distance endTime with ⟨-, -, hceiling⟩ | ⟨hgps, -⟩
    · have hlasted : 0 ≤ secs endTime trip.startTime := by
        unfold secs
        have : (0 : ℚ) ≤ (endTime - trip.startTime : ℤ) := by
          exact_mod_cast Int.sub_nonneg.2 hordered
        positivity
      rw [max_eq_right hlasted, mul_comm] at hceiling
      rw [hstart, hend]
      exact hceiling
    · rw [hsource] at hgps
      cases hgps

variable (haversineM config) in
/-- **One applied record** goes on with the stream. -/
lemma Phase.Lies.step {phase : Phase} {r : NormalizedRecord} (h : phase.Lies after r.fixTime)
    (hd : r.deviceId = d) :
    ∃ after', (phase.step haversineM config r).1.Lies after' r.fixTime ∧
      ∀ later, TripStream after' ((phase.step haversineM config r).1.underway d ++ later) →
        TripStream after (phase.underway d ++ ((phase.step haversineM config r).2 ++ later)) := by
  subst hd
  cases phase with
  | parked cand =>
    rw [Phase.step_parked]
    have hidle : ∀ t ∈ after, t ≤ r.fixTime := by
      cases cand with
      | none => exact h
      | some c => exact fun t ht => (h.1 t ht).trans h.2.1
    have hcand : (∀ t ∈ after, t ≤ (candidateAt haversineM cand r).startTime) ∧
        (candidateAt haversineM cand r).startTime ≤ r.fixTime ∧
        0 ≤ (candidateAt haversineM cand r).dispM := by
      cases cand with
      | none => exact ⟨h, le_rfl, le_rfl⟩
      | some c => exact ⟨h.1, h.2.1, add_nonneg h.2.2 (NNRat.coe_nonneg _)⟩
    split
    · exact ⟨after, h, fun later hlater => hlater⟩
    split
    · exact ⟨after, hidle, fun later hlater => hlater⟩
    dsimp only
    split
    · refine ⟨after, ⟨hcand.1, hcand.2.1, ?_, hcand.2.2⟩, fun later hlater => hlater⟩
      intro t ht
      cases ht
    · exact ⟨after, hcand, fun later hlater => hlater⟩
  | moving trip =>
    obtain ⟨hafter, hstart, hstop, hdistance⟩ := h
    rw [Phase.step_moving_eq]
    have hseen := OpenTrip.seen_startTime haversineM config.thresholds trip r
    have hlat := OpenTrip.seen_startLat haversineM config.thresholds trip r
    have hlon := OpenTrip.seen_startLon haversineM config.thresholds trip r
    have hgrown : 0 ≤ (trip.seen haversineM config.thresholds r).haversineM := by
      rw [OpenTrip.seen_haversineM]
      refine add_nonneg hdistance ?_
      split
      · exact NNRat.coe_nonneg _
      · exact le_rfl
    have hsince : trip.startTime ≤ trip.stopSince.getD r.fixTime ∧
        trip.stopSince.getD r.fixTime ≤ r.fixTime := by
      cases hs : trip.stopSince with
      | none => exact ⟨hstart, le_rfl⟩
      | some t => exact hstop t hs
    cases htimer : stopTimer haversineM config trip.stopSince trip.lastLat trip.lastLon r with
    | goesOn since =>
      refine ⟨after, ⟨?_, ?_, ?_, hgrown⟩, ?_⟩
      · exact hseen ▸ hafter
      · exact hseen ▸ hstart
      · intro t ht
        have ht : since = some t := ht
        show (trip.seen haversineM config.thresholds r).startTime ≤ t ∧ t ≤ r.fixTime
        rw [hseen]
        rcases stopTimer_goesOn htimer with hnone | hsame | hstarted
        · rw [hnone] at ht
          cases ht
        · exact hstop t (hsame ▸ ht)
        · rw [hstarted] at ht
          cases ht
          exact hsince
      · intro later hlater
        simp only [OpenTrip.obey, Phase.underway, hseen, hlat, hlon] at hlater ⊢
        exact hlater
    | runsOut endTime =>
      obtain ⟨rfl, -⟩ := stopTimer_runsOut htimer
      refine ⟨some (trip.stopSince.getD r.fixTime), ?_, fun later hlater => ?_⟩
      · intro t ht
        cases ht
        exact hsince.2
      · have hends := OpenTrip.close_ends config r.deviceId (hseen ▸ hsince.1) hgrown
        rw [hseen, hlat, hlon] at hends
        exact .trip hafter hends hlater

/-- A device whose newest record is `lastSeen`. -/
def DeviceState.Lies (after : Option Ms) (st : DeviceState) : Prop :=
  match st.lastSeen with
  | none => st.phase = .idle ∧ after = none
  | some now => st.phase.Lies after now

lemma DeviceState.Lies.upTo {st : DeviceState} {r : NormalizedRecord} (h : st.Lies after)
    (hlate : st.isLate r = false) : st.phase.Lies after r.fixTime := by
  unfold DeviceState.Lies at h
  cases hseen : st.lastSeen with
  | none =>
    rw [hseen] at h
    obtain ⟨hidle, rfl⟩ := h
    rw [hidle]
    intro t ht
    cases ht
  | some t =>
    rw [hseen] at h
    refine Phase.Lies.mono h ?_
    simpa [DeviceState.isLate, hseen] using hlate

variable (haversineM) in
lemma DeviceState.Lies.stream {resolved : DeviceTripConfig} {st : DeviceState} (h : st.Lies after)
    (records : List NormalizedRecord) (hdevice : ∀ r ∈ records, r.deviceId = d) :
    TripStream after (st.phase.underway d ++
      Transducer.outputs (DeviceState.step haversineM resolved) st records) := by
  induction records generalizing after st with
  | nil =>
    rw [Transducer.outputs_nil, append_nil]
    cases hphase : st.phase with
    | parked cand => exact .nil _
    | moving trip =>
      refine .underway ?_
      unfold DeviceState.Lies at h
      cases hseen : st.lastSeen with
      | none =>
        rw [hseen] at h
        rw [h.1] at hphase
        cases hphase
      | some now =>
        rw [hseen, hphase] at h
        exact h.1
  | cons r rs ih =>
    obtain ⟨hr, hrest⟩ := forall_mem_cons.1 hdevice
    rw [Transducer.outputs_cons]
    have hskip : st.step haversineM resolved r = (st, []) → TripStream after
        (st.phase.underway d ++ ((st.step haversineM resolved r).2 ++
          Transducer.outputs (DeviceState.step haversineM resolved)
            (st.step haversineM resolved r).1 rs)) := by
      intro hsame
      rw [hsame]
      exact ih h hrest
    by_cases hskew : isClockSkewed r
    · exact hskip (if_pos hskew)
    by_cases hlate : st.isLate r = true
    · exact hskip ((if_neg hskew).trans (if_pos hlate))
    have hstep : st.step haversineM resolved r = st.advance haversineM resolved r :=
      (if_neg hskew).trans (if_neg hlate)
    rw [hstep]
    unfold DeviceState.advance
    dsimp only
    generalize (if st.phase = .idle then resolved else st.config) = config
    obtain ⟨after', hnext, hstream⟩ :=
      (h.upTo (Bool.not_eq_true _ ▸ hlate)).step haversineM config hr
    exact hstream _ (@ih _ ⟨_, some r.fixTime, config⟩ hnext hrest)

end Stream

/-- **The events of a device are a stream of trips**, whatever the records of all devices. -/
theorem TripEngine.feed_stream (configFor : DeviceId → DeviceTripConfig)
    (records : List NormalizedRecord) (d : DeviceId) :
    TripStream none
      ((TripEngine.new.feed haversineM configFor records).2.filter (·.deviceId = d)) := by
  rw [(TripEngine.new.feed_own haversineM configFor d records).1]
  have hfresh : (DeviceState.fresh (configFor d)).Lies none := ⟨rfl, rfl⟩
  exact hfresh.stream haversineM _ fun r hr => of_decide_eq_true (mem_filter.1 hr).2

end Orbetra
