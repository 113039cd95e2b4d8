import Orbetra.Trip.Engine

/-!
# Runs of the trip machine

What the records of one device do under one configuration, fed in the order of their fix times.
Such a run is a run of `Phase.read` (`DeviceState.outputs_fresh`).

A trip *begins* at the record on which an idle machine takes up a candidate; `nextClose` follows the
candidate to the event that closes it, if the candidate becomes a trip and the trip is closed.
Every close event of a run belongs to exactly one beginning (`mem_closes_iff`), and trips do not
overlap: one that begins later begins after the earlier one was closed (`nextClose_of_idle`).

`Follows` compares a running machine with one that is started cold on the same input.  The cold
machine closes nothing of its own: whatever it closes is closed by the running machine at the same
record, or starts within a trip that the running machine has closed (`follows_run`).
-/

namespace Orbetra

open List

variable (haversineM : Haversine) (config : DeviceTripConfig)

def Phase.read (phase : Phase) (r : NormalizedRecord) : Phase × List TripEvent :=
  if isClockSkewed r then (phase, []) else phase.step haversineM config r

def closesOf (events : List TripEvent) : List CloseEvent :=
  events.filterMap fun
    | .closed e => some e
    | .opened _ => none

variable {k : CloseEvent} {phase : Phase}

@[simp] lemma mem_closesOf {events : List TripEvent} :
    k ∈ closesOf events ↔ .closed k ∈ events := by
  simp only [closesOf, mem_filterMap]
  constructor
  · rintro ⟨e, he, hk⟩
    cases e with
    | opened o => simp at hk
    | closed c => simp only [Option.some.injEq] at hk; exact hk ▸ he
  · exact fun h => ⟨_, h, rfl⟩

abbrev Phase.after (phase : Phase) (records : List NormalizedRecord) : Phase :=
  Transducer.stateAfter (Phase.read haversineM config) phase records

def Phase.closes (phase : Phase) (records : List NormalizedRecord) : List CloseEvent :=
  closesOf (Transducer.outputs (Phase.read haversineM config) phase records)

/-- Follow what the device is doing until it is idle again: the trip this closes, if any. -/
def nextClose (phase : Phase) : List NormalizedRecord → Option CloseEvent
  | [] => none
  | r :: rs =>
    let next := phase.read haversineM config r
    match closesOf next.2 with
    | k :: _ => some k
    | [] => if next.1 = .idle then none else nextClose next.1 rs

def InOrder (records : List NormalizedRecord) : Prop := records.Pairwise (·.fixTime ≤ ·.fixTime)

/-! ## One step -/

/-- When the device took up what it is doing. -/
def Phase.start? : Phase → Option Ms
  | .parked none => none
  | .parked (some c) => some c.startTime
  | .moving trip => some trip.startTime

lemma Phase.start?_eq_none : phase.start? = none ↔ phase = .idle := by
  cases phase with
  | parked cand => cases cand <;> simp [Phase.start?]
  | moving trip => simp [Phase.start?]

def candidateAt (cand : Option Candidate) (r : NormalizedRecord) : Candidate :=
  match cand with
  | none => Candidate.start r
  | some c => c.extend haversineM r

/-- The stop timer of a trip after one more record: it goes on with the given value, or it has run
out and the trip ends at the given time. -/
inductive StopTimer
  | goesOn (since : Option Ms)
  | runsOut (endTime : Ms)

def stopTimer (stopSince : Option Ms) (lastLat lastLon : ℚ) (r : NormalizedRecord) : StopTimer :=
  let t := config.thresholds
  let timed : StopTimer :=
    if t.stopThreshold ≤ secs r.fixTime (stopSince.getD r.fixTime) then
      .runsOut (stopSince.getD r.fixTime)
    else .goesOn (some (stopSince.getD r.fixTime))
  if r.fixValid then
    if t.noIgnition then
      if r.speedOr0 < t.moveSpeedKmh ∧ haversineM lastLat lastLon r.lat r.lon < t.parkedDisplaceM
      then timed else .goesOn none
    else if r.ignition = some false then timed else .goesOn none
  else if t.noIgnition then .goesOn stopSince
  else
    match r.ignition with
    | some true => .goesOn none
    | some false => timed
    | none => .goesOn stopSince

variable {haversineM config}

@[simp] lemma OpenTrip.flushIdle_startTime (trip : OpenTrip) (now : Ms) (sustain : ℚ≥0) :
    (trip.flushIdle now sustain).startTime = trip.startTime := by
  unfold flushIdle; split <;> rfl

@[simp] lemma OpenTrip.flushIdle_stopSince (trip : OpenTrip) (now : Ms) (sustain : ℚ≥0) :
    (trip.flushIdle now sustain).stopSince = trip.stopSince := by
  unfold flushIdle; split <;> rfl

@[simp] lemma OpenTrip.flushIdle_lastLat (trip : OpenTrip) (now : Ms) (sustain : ℚ≥0) :
    (trip.flushIdle now sustain).lastLat = trip.lastLat := by
  unfold flushIdle; split <;> rfl

@[simp] lemma OpenTrip.flushIdle_lastLon (trip : OpenTrip) (now : Ms) (sustain : ℚ≥0) :
    (trip.flushIdle now sustain).lastLon = trip.lastLon := by
  unfold flushIdle; split <;> rfl

@[simp] lemma OpenTrip.close_startTime (deviceId : DeviceId) (trip : OpenTrip) (endTime : Ms) :
    (trip.close config deviceId endTime).startTime = trip.startTime := by
  simp [OpenTrip.close]

/-- What a record that the stop timer survives leaves of a trip. -/
structure OpenTrip.GoesOn (trip : OpenTrip) (r : NormalizedRecord) (since : Option Ms)
    (trip' : OpenTrip) : Prop where
  startTime : trip'.startTime = trip.startTime
  stopSince : trip'.stopSince = since
  lastLat : trip'.lastLat = if r.fixValid then r.lat else trip.lastLat
  lastLon : trip'.lastLon = if r.fixValid then r.lon else trip.lastLon

variable (config) in
lemma OpenTrip.stopAt_cases {threshold : ℚ≥0} (trip : OpenTrip) (r : NormalizedRecord) :
    (threshold ≤ secs r.fixTime (trip.stopSince.getD r.fixTime) ∧
      trip.stopAt config threshold r =
        (.idle, [.closed (trip.close config r.deviceId (trip.stopSince.getD r.fixTime))])) ∨
    (¬ threshold ≤ secs r.fixTime (trip.stopSince.getD r.fixTime) ∧
      trip.stopAt config threshold r =
        (.moving { trip with stopSince := some (trip.stopSince.getD r.fixTime) }, [])) := by
  unfold OpenTrip.stopAt
  by_cases h : threshold ≤ secs r.fixTime (trip.stopSince.getD r.fixTime)
  · exact .inl ⟨h, by simp [h]⟩
  · exact .inr ⟨h, by simp [h]⟩

/-- The vehicle is seen stopped by a valid fix. -/
def stoppedAt (t : TripThresholds) (stepM : ℚ≥0) (r : NormalizedRecord) : Bool :=
  if t.noIgnition then decide (r.speedOr0 < t.moveSpeedKmh ∧ stepM < t.parkedDisplaceM)
  else decide (r.ignition = some false)

variable (haversineM config) in
lemma Phase.movingStep_eq (trip : OpenTrip) (r : NormalizedRecord) :
    ∃ trip₁ : OpenTrip, trip₁.startTime = trip.startTime ∧ trip₁.stopSince = trip.stopSince ∧
      trip₁.lastLat = r.lat ∧ trip₁.lastLon = r.lon ∧
      Phase.movingStep haversineM config trip r =
        if stoppedAt config.thresholds (haversineM trip.lastLat trip.lastLon r.lat r.lon) r then
          trip₁.stopAt config config.thresholds.stopThreshold r
        else (.moving { trip₁ with stopSince := none }, []) := by
  unfold Phase.movingStep stoppedAt
  by_cases hidle : (config.thresholds.noIgnition ∨ r.ignition = some true) ∧
      r.speedOr0 < config.thresholds.idleSpeedKmh
  · exact ⟨{ trip.accumulate haversineM r with
      idleSince := some ((trip.accumulate haversineM r).idleSince.getD r.fixTime) },
      rfl, rfl, rfl, rfl, by simp only [hidle, if_true, and_self]⟩
  · exact ⟨(trip.accumulate haversineM r).flushIdle r.fixTime config.thresholds.idleSustainS,
      by simp [OpenTrip.accumulate], by simp [OpenTrip.accumulate], by simp [OpenTrip.accumulate],
      by simp [OpenTrip.accumulate], by simp only [hidle, if_false]⟩

def Phase.Obeys (trip : OpenTrip) (r : NormalizedRecord) (verdict : StopTimer)
    (next : Phase × List TripEvent) : Prop :=
  match verdict with
  | .goesOn since => ∃ trip', next = (.moving trip', []) ∧ trip.GoesOn r since trip'
  | .runsOut endTime => ∃ k : CloseEvent, next = (.idle, [.closed k]) ∧
      k.startTime = trip.startTime ∧ k.endTime = endTime ∧ k.deviceId = r.deviceId

variable (haversineM config) in
/-- **A record of a moving device.**  The stop timer decides whether the trip goes on or closes. -/
lemma Phase.step_moving (trip : OpenTrip) (r : NormalizedRecord) :
    Phase.Obeys trip r (stopTimer haversineM config trip.stopSince trip.lastLat trip.lastLon r)
      (Phase.step haversineM config (.moving trip) r) := by
  have timed : ∀ trip₁ : OpenTrip, trip₁.startTime = trip.startTime →
      trip₁.stopSince = trip.stopSince →
      trip₁.lastLat = (if r.fixValid then r.lat else trip.lastLat) →
      trip₁.lastLon = (if r.fixValid then r.lon else trip.lastLon) →
      Phase.Obeys trip r
        (if config.thresholds.stopThreshold ≤ secs r.fixTime (trip.stopSince.getD r.fixTime) then
          .runsOut (trip.stopSince.getD r.fixTime)
        else .goesOn (some (trip.stopSince.getD r.fixTime)))
        (trip₁.stopAt config config.thresholds.stopThreshold r) := by
    intro trip₁ hstart hstop hlat hlon
    rcases trip₁.stopAt_cases config r with ⟨h, heq⟩ | ⟨h, heq⟩
    · rw [heq, ← hstop, if_pos h]
      exact ⟨_, rfl, by simp [hstart], rfl, rfl⟩
    · rw [heq, ← hstop, if_neg h]
      exact ⟨_, rfl, hstart, rfl, hlat, hlon⟩
  by_cases hvalid : r.fixValid
  · obtain ⟨trip₁, hstart, hstop, hlat, hlon, heq⟩ := Phase.movingStep_eq haversineM config trip r
    simp only [Phase.step, hvalid, if_true, heq, stopTimer, stoppedAt]
    have hgoes : Phase.Obeys trip r (.goesOn none) (.moving { trip₁ with stopSince := none }, []) :=
      ⟨_, rfl, hstart, rfl, by simp [hvalid, hlat], by simp [hvalid, hlon]⟩
    have hstops := timed trip₁ hstart hstop (by simp [hvalid, hlat]) (by simp [hvalid, hlon])
    by_cases hno : config.thresholds.noIgnition
    · simp only [hno, if_true, decide_eq_true_eq]
      split
      · exact hstops
      · exact hgoes
    · simp only [hno, if_false, decide_eq_true_eq, Bool.false_eq_true]
      split
      · exact hstops
      · exact hgoes
  · simp only [Phase.step, hvalid, Phase.observeStopWithoutFix, stopTimer]
    have hlast : ∀ since, trip.GoesOn r since { trip with stopSince := since } := fun since =>
      ⟨rfl, rfl, by simp [hvalid], by simp [hvalid]⟩
    by_cases hno : config.thresholds.noIgnition
    · simp only [hno, if_true]
      exact ⟨_, rfl, hlast _⟩
    · simp only [hno, if_false, Bool.false_eq_true]
      have hthreshold : config.thresholds.parkedIgnitionOffS = config.thresholds.stopThreshold := by
        simp [TripThresholds.stopThreshold, hno]
      cases hig : r.ignition with
      | none => exact ⟨_, rfl, hlast _⟩
      | some on =>
        cases on with
        | true => exact ⟨_, rfl, hlast _⟩
        | false =>
          simp only [hthreshold]
          exact timed trip rfl rfl (by simp [hvalid]) (by simp [hvalid])

variable {lon lat : ℚ} {r : NormalizedRecord} {stopSince : Option Ms}

lemma stopTimer_runsOut {e : Ms}
    (h : stopTimer haversineM config stopSince lat lon r = .runsOut e) :
    e = stopSince.getD r.fixTime ∧ config.thresholds.stopThreshold ≤ secs r.fixTime e := by
  unfold stopTimer at h
  grind

lemma stopTimer_goesOn {since : Option Ms}
    (h : stopTimer haversineM config stopSince lat lon r = .goesOn since) :
    since = none ∨ since = stopSince ∨ since = some (stopSince.getD r.fixTime) := by
  unfold stopTimer at h
  grind

lemma stopTimer_of_moving (hvalid : r.fixValid = true)
    (hmoving : config.thresholds.moving r = true) :
    stopTimer haversineM config stopSince lat lon r = .goesOn none := by
  unfold TripThresholds.moving at hmoving
  unfold stopTimer
  by_cases hno : config.thresholds.noIgnition
  · have hspeed : ¬ r.speedOr0 < config.thresholds.moveSpeedKmh := by
      simp only [hno, if_true, decide_eq_true_eq] at hmoving
      exact not_lt.2 hmoving.le
    simp [hvalid, hno, hspeed]
  · simp only [hno, Bool.false_eq_true, if_false, decide_eq_true_eq] at hmoving
    simp [hvalid, hno, hmoving.1]

/-- **A record of a parked device**: a moving record extends the candidate, and any other valid fix
drops it. -/
lemma Phase.step_parked (cand : Option Candidate) (r : NormalizedRecord) :
    Phase.step haversineM config (.parked cand) r =
      if r.fixValid = false then (.parked cand, [])
      else if config.thresholds.moving r = false then (.idle, [])
      else
        let c := candidateAt haversineM cand r
        if c.sustained config.thresholds r then
          (.moving (.ofCandidate c r), [.opened ⟨r.deviceId, c.startTime, c.startLat, c.startLon⟩])
        else (.parked (some c), []) := by
  cases hvalid : r.fixValid <;> cases hmoving : config.thresholds.moving r <;>
    simp [Phase.step, Phase.parkedStep, Phase.observeStopWithoutFix, candidateAt, hvalid, hmoving]
  cases cand <;> rfl

variable (haversineM) in
lemma candidateAt_startTime (cand : Option Candidate) (r : NormalizedRecord) :
    (candidateAt haversineM cand r).startTime = (cand.map Candidate.startTime).getD r.fixTime := by
  cases cand <;> rfl

/-! ## Beginnings and ends -/

inductive Phase.Reads (haversineM : Haversine) (config : DeviceTripConfig) (r : NormalizedRecord) :
    Phase → Phase × List TripEvent → Prop
  /-- The record is ignored, or is an invalid fix of a parked device. -/
  | skip (phase : Phase) : Phase.Reads haversineM config r phase (phase, [])
  /-- A valid fix that does not move the device drops its candidate. -/
  | drop (cand : Option Candidate) : Phase.Reads haversineM config r (.parked cand) (.idle, [])
  /-- A moving record makes a candidate, or extends it. -/
  | hold (cand : Option Candidate) : Phase.Reads haversineM config r (.parked cand)
      (.parked (some (candidateAt haversineM cand r)), [])
  /-- The candidate is sustained: a trip opens. -/
  | opens (cand : Option Candidate) (e : OpenEvent) (device : e.deviceId = r.deviceId)
      (start : e.startTime = (candidateAt haversineM cand r).startTime) :
      Phase.Reads haversineM config r (.parked cand)
        (.moving (.ofCandidate (candidateAt haversineM cand r) r), [.opened e])
  /-- The trip goes on. -/
  | drive (trip trip' : OpenTrip) (start : trip'.startTime = trip.startTime)
      (stop : trip'.stopSince = none ∨ trip'.stopSince = trip.stopSince ∨
        trip'.stopSince = some (trip.stopSince.getD r.fixTime)) :
      Phase.Reads haversineM config r (.moving trip) (.moving trip', [])
  /-- The stop has lasted long enough: the trip closes where the stop began. -/
  | closes (trip : OpenTrip) (k : CloseEvent) (device : k.deviceId = r.deviceId)
      (start : k.startTime = trip.startTime)
      (stop : k.endTime = trip.stopSince.getD r.fixTime)
      (lasted : config.thresholds.stopThreshold ≤ secs r.fixTime k.endTime) :
      Phase.Reads haversineM config r (.moving trip) (.idle, [.closed k])

variable (haversineM config) in
lemma Phase.reads (phase : Phase) (r : NormalizedRecord) :
    Phase.Reads haversineM config r phase (phase.read haversineM config r) := by
  unfold Phase.read
  by_cases hskew : isClockSkewed r
  · simp only [hskew, if_true]
    exact .skip phase
  simp only [hskew, Bool.false_eq_true, if_false]
  cases phase with
  | parked cand =>
    rw [Phase.step_parked]
    split
    · exact .skip _
    · split
      · exact .drop cand
      · dsimp only
        split
        · exact .opens cand _ rfl rfl
        · exact .hold cand
  | moving trip =>
    have hobeys := Phase.step_moving haversineM config trip r
    cases htimer : stopTimer haversineM config trip.stopSince trip.lastLat trip.lastLon r with
    | goesOn since =>
      rw [htimer] at hobeys
      obtain ⟨trip', heq, hgoes⟩ := hobeys
      rw [heq]
      exact .drive trip trip' hgoes.startTime (hgoes.stopSince ▸ stopTimer_goesOn htimer)
    | runsOut e =>
      obtain ⟨he, hlasted⟩ := stopTimer_runsOut htimer
      rw [htimer] at hobeys
      obtain ⟨k, heq, hstart, rfl, hdevice⟩ := hobeys
      rw [heq]
      exact .closes trip k hdevice hstart he hlasted

lemma Phase.read_close (h : k ∈ closesOf (phase.read haversineM config r).2) :
    ∃ trip, phase = .moving trip ∧ phase.read haversineM config r = (.idle, [.closed k]) ∧
      k.startTime = trip.startTime ∧ k.endTime = trip.stopSince.getD r.fixTime ∧
      config.thresholds.stopThreshold ≤ secs r.fixTime k.endTime := by
  have hreads := Phase.reads haversineM config phase r
  generalize phase.read haversineM config r = next at h hreads ⊢
  cases hreads with
  | closes trip k' device start stop lasted =>
    obtain rfl : k = k' := by simpa using h
    exact ⟨trip, rfl, rfl, start, stop, lasted⟩
  | _ => simp at h

variable (haversineM config) in
/-- What the machine does after a step it began before, or begins at this record. -/
lemma Phase.read_start? (phase : Phase) (r : NormalizedRecord) :
    (phase.read haversineM config r).1.start? = none ∨
      (phase.read haversineM config r).1.start? = some (phase.start?.getD r.fixTime) := by
  have hreads := Phase.reads haversineM config phase r
  generalize phase.read haversineM config r = next at hreads ⊢
  cases hreads with
  | skip => cases h : phase.start? <;> simp
  | drop cand => exact .inl rfl
  | hold cand => cases cand <;> exact .inr rfl
  | opens cand => cases cand <;> exact .inr rfl
  | drive trip trip' start => exact .inr (by simp [Phase.start?, start])
  | closes => exact .inl rfl

lemma nextClose_cons (phase : Phase) (r : NormalizedRecord) (rs : List NormalizedRecord) :
    nextClose haversineM config phase (r :: rs) =
      match closesOf (phase.read haversineM config r).2 with
      | k :: _ => some k
      | [] => if (phase.read haversineM config r).1 = .idle then none
        else nextClose haversineM config (phase.read haversineM config r).1 rs := rfl

lemma Phase.closes_cons (phase : Phase) (r : NormalizedRecord) (rs : List NormalizedRecord) :
    phase.closes haversineM config (r :: rs) =
      closesOf (phase.read haversineM config r).2 ++
        (phase.read haversineM config r).1.closes haversineM config rs := by
  simp [Phase.closes, closesOf]

structure Begins (haversineM : Haversine) (config : DeviceTripConfig) (phase : Phase)
    (records before : List NormalizedRecord) (r : NormalizedRecord)
    (after : List NormalizedRecord) (k : CloseEvent) : Prop where
  split : records = before ++ r :: after
  idle : phase.after haversineM config before = .idle
  next : nextClose haversineM config .idle (r :: after) = some k

variable {records : List NormalizedRecord}

/-- **Every close event has its beginning.**  It closes what the device was doing at the start of
the run, or a trip that begins within the run. -/
lemma Phase.mem_closes_iff :
    k ∈ phase.closes haversineM config records ↔
      (phase ≠ .idle ∧ nextClose haversineM config phase records = some k) ∨
        ∃ before r after, Begins haversineM config phase records before r after k := by
  induction records generalizing phase with
  | nil =>
    simp only [Phase.closes, Transducer.outputs_nil, closesOf, filterMap_nil,
      not_mem_nil, nextClose, false_iff, not_or, not_exists]
    exact ⟨by simp, fun before r after h => by simpa using h.split⟩
  | cons r rs ih =>
    have hlift : (∃ before x after, Begins haversineM config phase (r :: rs) before x after k) ↔
          (phase = .idle ∧ nextClose haversineM config phase (r :: rs) = some k) ∨
          ∃ before x after,
            Begins haversineM config (phase.read haversineM config r).1 rs before x after k := by
      constructor
      · rintro ⟨before, x, after, hsplit, hidle, hnext⟩
        cases before with
        | nil =>
          obtain ⟨rfl, rfl⟩ : r = x ∧ rs = after := by simpa using hsplit
          have hphase : phase = .idle := hidle
          exact .inl ⟨hphase, hphase ▸ hnext⟩
        | cons y before =>
          obtain ⟨rfl, rfl⟩ : r = y ∧ rs = before ++ x :: after := by simpa using hsplit
          exact .inr ⟨before, x, after, rfl, hidle, hnext⟩
      · rintro (⟨hphase, hnext⟩ | ⟨before, x, after, hsplit, hidle, hnext⟩)
        · exact ⟨[], r, rs, rfl, hphase, hphase ▸ hnext⟩
        · exact ⟨r :: before, x, after, by rw [hsplit]; rfl, hidle, hnext⟩
    have hfirst : nextClose haversineM config phase (r :: rs) = some k ↔
        k ∈ closesOf (phase.read haversineM config r).2 ∨
          (phase.read haversineM config r).1 ≠ .idle ∧
            nextClose haversineM config (phase.read haversineM config r).1 rs = some k := by
      rw [nextClose_cons]
      cases hnow : closesOf (phase.read haversineM config r).2 with
      | nil => by_cases hnext : (phase.read haversineM config r).1 = .idle <;> simp [hnext]
      | cons k' ks =>
        have hk' : k' ∈ closesOf (phase.read haversineM config r).2 := by rw [hnow]; simp
        obtain ⟨trip, -, heq, -⟩ := Phase.read_close hk'
        rw [heq] at hnow ⊢
        have : [k'] = k' :: ks := by simpa [closesOf] using hnow
        obtain rfl : [] = ks := by simpa using this
        simp [eq_comm]
    rw [Phase.closes_cons, mem_append, ih, hlift, hfirst]
    by_cases hphase : phase = .idle
    · simp only [hphase, ne_eq, not_true, true_and, false_and, false_or]
      exact or_assoc.symm
    · simp only [hphase, ne_eq, not_false_eq_true, true_and, false_and, false_or]
      exact or_assoc.symm

lemma nextClose_startTime {rs : List NormalizedRecord}
    (h : nextClose haversineM config phase (r :: rs) = some k) :
    k.startTime = phase.start?.getD r.fixTime := by
  induction rs generalizing phase r with
  | nil =>
    rw [nextClose_cons] at h
    split at h
    · rename_i k' ks hnow
      obtain rfl : k' = k := by simpa using h
      obtain ⟨trip, rfl, -, hstart, -⟩ := Phase.read_close (hnow ▸ mem_cons_self)
      simp [hstart, Phase.start?]
    · simp [nextClose] at h
  | cons x xs ih =>
    rw [nextClose_cons] at h
    split at h
    · rename_i k' ks hnow
      obtain rfl : k' = k := by simpa using h
      obtain ⟨trip, rfl, -, hstart, -⟩ := Phase.read_close (hnow ▸ mem_cons_self)
      simp [hstart, Phase.start?]
    · split at h
      · simp at h
      · rename_i hnext
        rcases Phase.read_start? haversineM config phase r with
          hs | hs
        · exact absurd (Phase.start?_eq_none.1 hs) hnext
        · rw [ih h, hs]
          rfl

/-! ## One device of the engine -/

lemma DeviceState.feed_inOrder (st : DeviceState) (hconfig : st.config = config)
    (hseen : ∀ r ∈ records, ∀ t, st.lastSeen = some t → t ≤ r.fixTime) (horder : InOrder records) :
    Transducer.outputs (DeviceState.step haversineM config) st records =
        Transducer.outputs (Phase.read haversineM config) st.phase records ∧
      (Transducer.stateAfter (DeviceState.step haversineM config) st records).phase =
        st.phase.after haversineM config records := by
  induction records generalizing st with
  | nil => exact ⟨rfl, rfl⟩
  | cons r rs ih =>
    obtain ⟨hfirst, hrest⟩ := pairwise_cons.1 horder
    simp only [Transducer.outputs_cons, Transducer.stateAfter_cons, Phase.after]
    by_cases hskew : isClockSkewed r
    · have hstep : st.step haversineM config r = (st, []) := by simp [DeviceState.step, hskew]
      have hread : st.phase.read haversineM config r = (st.phase, []) := by
        simp [Phase.read, hskew]
      rw [hstep, hread]
      obtain ⟨hout, hafter⟩ := ih st hconfig (fun x hx => hseen x (mem_cons_of_mem _ hx)) hrest
      exact ⟨by rw [hout], hafter⟩
    · have hlate : st.isLate r = false := by
        cases hs : st.lastSeen with
        | none => simp [DeviceState.isLate, hs]
        | some t => simpa [DeviceState.isLate, hs] using hseen r mem_cons_self t hs
      have hstep : st.step haversineM config r =
          (⟨(st.phase.read haversineM config r).1, some r.fixTime, config⟩,
            (st.phase.read haversineM config r).2) := by
        simp [DeviceState.step, DeviceState.advance, Phase.read, hskew, hlate, hconfig]
      rw [hstep]
      obtain ⟨hout, hafter⟩ := ih ⟨(st.phase.read haversineM config r).1, some r.fixTime,
        config⟩ rfl (fun x hx t ht => by
          obtain rfl : r.fixTime = t := by simpa using ht
          exact hfirst x hx) hrest
      exact ⟨by rw [hout], hafter⟩

variable {configFor : DeviceId → DeviceTripConfig} {d : DeviceId}

lemma TripEngine.feed_device {e : TripEngine} (hdevice : ∀ r ∈ records, r.deviceId = d) :
    (e.feed haversineM configFor records).2 =
      Transducer.outputs (DeviceState.step haversineM (configFor d))
        ((e.state d).getD (.fresh (configFor d))) records := by
  unfold TripEngine.feed
  induction records generalizing e with
  | nil => rfl
  | cons r rs ih =>
    obtain rfl := hdevice r mem_cons_self
    have hrest : ∀ x ∈ rs, x.deviceId = r.deviceId := fun x hx =>
      hdevice x (mem_cons_of_mem _ hx)
    simp only [Transducer.feed, Transducer.outputs_cons]
    rw [ih hrest]
    unfold TripEngine.step DeviceState.step
    by_cases hskew : isClockSkewed r
    · simp [hskew]
    · by_cases hlate : ((e.state r.deviceId).getD (.fresh (configFor r.deviceId))).isLate r
      · simp [hskew, hlate, TripEngine.markLate]
      · simp [hskew, hlate]

/-- **A new engine on one device's records, in order**, emits what the phase machine emits. -/
lemma TripEngine.feed_new (hdevice : ∀ r ∈ records, r.deviceId = d) (horder : InOrder records) :
    (TripEngine.new.feed haversineM configFor records).2 =
      Transducer.outputs (Phase.read haversineM (configFor d)) .idle records := by
  rw [TripEngine.feed_device hdevice]
  exact (DeviceState.feed_inOrder (.fresh (configFor d)) rfl (by simp [DeviceState.fresh]) horder).1

/-! ## Starting cold -/

/-- Nothing a device is doing began after `now`; a stop that is being timed began after its trip
and not after `now`; and no candidate has gone back on its way. -/
structure Phase.UpTo (now : Ms) (phase : Phase) : Prop where
  start : ∀ t, phase.start? = some t → t ≤ now
  stop : ∀ trip t, phase = .moving trip → trip.stopSince = some t → trip.startTime ≤ t ∧ t ≤ now
  disp : ∀ c, phase = .parked (some c) → 0 ≤ c.dispM

lemma Phase.upTo_idle (now : Ms) : Phase.UpTo now .idle :=
  ⟨by simp [Phase.start?], by simp, by simp⟩

variable {cand : Option Candidate}

lemma candidateAt_dispM_nonneg (r : NormalizedRecord) (h : ∀ c, cand = some c → 0 ≤ c.dispM) :
    0 ≤ (candidateAt haversineM cand r).dispM := by
  cases cand with
  | none => exact le_rfl
  | some c => exact add_nonneg (h c rfl) (NNRat.coe_nonneg _)

/-- A record that moves a device leaves its trip, if there is one, at the record's position and
without a stop. -/
lemma Phase.read_of_moving (hskew : isClockSkewed r = false) (hvalid : r.fixValid = true)
    (hmoving : config.thresholds.moving r = true) :
    closesOf (phase.read haversineM config r).2 = [] ∧
    (phase.read haversineM config r).1.start? = some (phase.start?.getD r.fixTime) ∧
    ∀ trip, (phase.read haversineM config r).1 = .moving trip →
      trip.stopSince = none ∧ trip.lastLat = r.lat ∧ trip.lastLon = r.lon := by
  simp only [Phase.read, hskew, Bool.false_eq_true, if_false]
  cases phase with
  | parked cand =>
    have hstart := candidateAt_startTime haversineM cand r
    rw [Phase.step_parked]
    simp only [hvalid, hmoving, Bool.true_eq_false, if_false]
    split
    · refine ⟨by simp [closesOf], ?_, ?_⟩
      · cases cand <;> simp_all [Phase.start?, OpenTrip.ofCandidate]
      · rintro trip ⟨⟩
        exact ⟨rfl, rfl, rfl⟩
    · refine ⟨rfl, ?_, by simp⟩
      cases cand <;> simp_all [Phase.start?]
  | moving trip =>
    have hobeys := Phase.step_moving haversineM config trip r
    rw [stopTimer_of_moving hvalid hmoving] at hobeys
    obtain ⟨trip', heq, hgoes⟩ := hobeys
    rw [heq]
    refine ⟨rfl, by simp [Phase.start?, hgoes.startTime], ?_⟩
    rintro _ ⟨⟩
    exact ⟨hgoes.stopSince, by simp [hgoes.lastLat, hvalid], by simp [hgoes.lastLon, hvalid]⟩

variable {now : Ms}

lemma Phase.UpTo.read (h : phase.UpTo now) (hr : now ≤ r.fixTime) :
    Phase.UpTo r.fixTime (phase.read haversineM config r).1 := by
  refine ⟨fun t ht => ?_, fun trip t htrip ht => ?_, fun c hc => ?_⟩
  · rcases Phase.read_start? haversineM config phase r with hs | hs
    · simp [hs] at ht
    · obtain rfl : phase.start?.getD r.fixTime = t := by simpa [hs] using ht
      cases hstart : phase.start? with
      | none => exact le_rfl
      | some t' => exact (h.start t' hstart).trans hr
  · have hreads := Phase.reads haversineM config phase r
    generalize phase.read haversineM config r = next at hreads htrip
    cases hreads with
    | skip => exact (h.stop trip t htrip ht).imp_right (·.trans hr)
    | opens cand e =>
      cases htrip
      simp [OpenTrip.ofCandidate] at ht
    | drive trip₁ trip' start stop =>
      cases htrip
      rw [ht] at stop
      rw [start]
      cases hstop : trip₁.stopSince with
      | none =>
        obtain rfl : t = r.fixTime := by simpa [hstop] using stop
        exact ⟨(h.start _ rfl).trans hr, le_rfl⟩
      | some t' =>
        obtain rfl : t = t' := by simpa [hstop] using stop
        exact (h.stop trip₁ t rfl hstop).imp_right (·.trans hr)
    | drop => simp at htrip
    | hold => simp at htrip
    | closes => simp at htrip
  · have hreads := Phase.reads haversineM config phase r
    generalize phase.read haversineM config r = next at hreads hc
    cases hreads with
    | skip => exact h.disp c hc
    | hold cand =>
      obtain rfl : candidateAt haversineM cand r = c := by simpa using hc
      exact candidateAt_dispM_nonneg r fun c hcand => h.disp c (by rw [hcand])
    | _ => simp at hc

/-- Two trips that the stop timer cannot tell apart. -/
structure OpenTrip.InStep (trip trip' : OpenTrip) : Prop where
  stopSince : trip'.stopSince = trip.stopSince
  lastLat : trip'.lastLat = trip.lastLat
  lastLon : trip'.lastLon = trip.lastLon

/-- A machine that was started cold is in phase `q` where the running machine is in phase `p` and
has closed the trips `closed` since. -/
inductive Follows (closed : CloseEvent → Prop) (now : Ms) : Phase → Phase → Prop
  /-- The cold machine is idle. -/
  | idle (p : Phase) : Follows closed now p .idle
  /-- Both machines agree. -/
  | same (p : Phase) : Follows closed now p p
  /-- Both hold a candidate; the running machine has held it for longer. -/
  | candidates (c c' : Candidate) (start : c.startTime ≤ c'.startTime) (past : c'.startTime ≤ now)
      (disp : c'.dispM ≤ c.dispM) (lat : c'.lastLat = c.lastLat) (lon : c'.lastLon = c.lastLon) :
      Follows closed now (.parked (some c)) (.parked (some c'))
  /-- What the cold machine does began within the trip the running machine is on. -/
  | within (trip : OpenTrip) (q : Phase) (t : Ms) (start : q.start? = some t)
      (began : trip.startTime ≤ t) (past : t ≤ now) (stop : ∀ s, trip.stopSince = some s → t ≤ s)
      (step : ∀ trip', q = .moving trip' → trip.InStep trip') : Follows closed now (.moving trip) q
  /-- What the cold machine does began within a trip the running machine has closed. -/
  | after (p q : Phase) (t : Ms) (k : CloseEvent) (done : closed k) (start : q.start? = some t)
      (began : k.startTime ≤ t) (ended : t ≤ k.endTime)
      (step : ∀ trip trip', p = .moving trip → q = .moving trip' → trip.InStep trip') :
      Follows closed now p q

variable {now' : Ms} {p q : Phase} {closed : CloseEvent → Prop}

lemma Follows.mono {closed' : CloseEvent → Prop} (h : Follows closed now p q)
    (hclosed : ∀ k, closed k → closed' k) (hnow : now ≤ now') :
    Follows closed' now' p q := by
  cases h with
  | idle => exact .idle p
  | same => exact .same p
  | candidates c c' start past disp lat lon =>
    exact .candidates c c' start (past.trans hnow) disp lat lon
  | within trip _ t start began past stop step =>
    exact .within trip q t start began (past.trans hnow) stop step
  | after _ _ t k done start began ended step =>
    exact .after p q t k (hclosed k done) start began ended step

lemma OpenTrip.inStep_of_moving {trip trip' : OpenTrip} (hskew : isClockSkewed r = false)
    (hvalid : r.fixValid = true) (hmoving : config.thresholds.moving r = true)
    (hp : (p.read haversineM config r).1 = .moving trip)
    (hq : (q.read haversineM config r).1 = .moving trip') : trip.InStep trip' := by
  obtain ⟨h₁, h₂, h₃⟩ := (Phase.read_of_moving hskew hvalid hmoving).2.2 trip hp
  obtain ⟨h₁', h₂', h₃'⟩ := (Phase.read_of_moving hskew hvalid hmoving).2.2 trip' hq
  exact ⟨h₁'.trans h₁.symm, h₂'.trans h₂.symm, h₃'.trans h₃.symm⟩

variable (haversineM) in
lemma Phase.read_parked_of_not_moving {r : NormalizedRecord}
    (h : ¬ (isClockSkewed r = false ∧ r.fixValid = true ∧ config.thresholds.moving r = true)) :
    (∀ cand, (Phase.parked cand).read haversineM config r = (.parked cand, [])) ∨
      ∀ cand, (Phase.parked cand).read haversineM config r = (.idle, []) := by
  unfold Phase.read
  by_cases hskew : isClockSkewed r
  · exact .inl fun cand => by simp [hskew]
  simp only [hskew, Bool.false_eq_true, if_false, Phase.step_parked]
  cases hvalid : r.fixValid with
  | false => exact .inl fun cand => by simp
  | true =>
    have hno : config.thresholds.moving r = false := by
      by_contra hmoving
      exact h ⟨by simpa using hskew, hvalid, by simpa using hmoving⟩
    exact .inr fun cand => by simp [hno]

variable (haversineM config) in
lemma Phase.read_moving (trip : OpenTrip) {r : NormalizedRecord} (hskew : isClockSkewed r = false) :
    Phase.Obeys trip r (stopTimer haversineM config trip.stopSince trip.lastLat trip.lastLon r)
      ((Phase.moving trip).read haversineM config r) := by
  simp only [Phase.read, hskew, Bool.false_eq_true, if_false]
  exact Phase.step_moving haversineM config trip r

variable (haversineM) in
lemma candidateAt_last (cand : Option Candidate) (r : NormalizedRecord) :
    (candidateAt haversineM cand r).lastLat = r.lat ∧
      (candidateAt haversineM cand r).lastLon = r.lon := by
  cases cand <;> exact ⟨rfl, rfl⟩

lemma Candidate.sustained_mono {t : TripThresholds} {c c' : Candidate}
    (hstart : c.startTime ≤ c'.startTime) (hdisp : c'.dispM ≤ c.dispM)
    (h : c'.sustained t r = true) :
    c.sustained t r = true := by
  simp only [Candidate.sustained, decide_eq_true_eq] at h ⊢
  rcases h with h | h
  · refine .inl (h.trans ?_)
    have : ((r.fixTime - c'.startTime : ℤ) : ℚ) ≤ ((r.fixTime - c.startTime : ℤ) : ℚ) := by
      exact_mod_cast sub_le_sub_left hstart r.fixTime
    unfold secs
    linarith
  · exact .inr (h.trans hdisp)

lemma Follows.read_candidates {cand' : Option Candidate} (hskew : isClockSkewed r = false)
    (hvalid : r.fixValid = true) (hmoving : config.thresholds.moving r = true)
    (hstart : (candidateAt haversineM cand r).startTime ≤ (candidateAt haversineM cand' r).startTime)
    (hpast : (candidateAt haversineM cand' r).startTime ≤ r.fixTime)
    (hdisp : (candidateAt haversineM cand' r).dispM ≤ (candidateAt haversineM cand r).dispM) :
    Follows closed r.fixTime ((Phase.parked cand).read haversineM config r).1
      ((Phase.parked cand').read haversineM config r).1 := by
  obtain ⟨hlat, hlon⟩ := candidateAt_last haversineM cand r
  obtain ⟨hlat', hlon'⟩ := candidateAt_last haversineM cand' r
  simp only [Phase.read, hskew, Bool.false_eq_true, if_false, Phase.step_parked, hvalid, hmoving,
    Bool.true_eq_false]
  by_cases hsus : (candidateAt haversineM cand r).sustained config.thresholds r
  · simp only [hsus, if_true]
    by_cases hsus' : (candidateAt haversineM cand' r).sustained config.thresholds r
    · simp only [hsus', if_true]
      refine .within _ _ (candidateAt haversineM cand' r).startTime rfl hstart hpast
        (by simp [OpenTrip.ofCandidate]) ?_
      rintro trip' ⟨⟩
      exact ⟨rfl, rfl, rfl⟩
    · simp only [hsus', Bool.false_eq_true, if_false]
      exact .within _ _ (candidateAt haversineM cand' r).startTime rfl hstart hpast
        (by simp [OpenTrip.ofCandidate]) (by simp)
  · have hsus' : ¬ (candidateAt haversineM cand' r).sustained config.thresholds r :=
      fun h => hsus (Candidate.sustained_mono hstart hdisp h)
    simp only [hsus, hsus', Bool.false_eq_true, if_false]
    exact .candidates _ _ hstart hpast hdisp (hlat'.trans hlat.symm) (hlon'.trans hlon.symm)

lemma Follows.read_of_moving (h : Follows closed now p q) (hp : p.UpTo now) (hr : now ≤ r.fixTime)
    (hskew : isClockSkewed r = false) (hvalid : r.fixValid = true)
    (hmoving : config.thresholds.moving r = true) :
    Follows closed r.fixTime (p.read haversineM config r).1 (q.read haversineM config r).1 := by
  have hwithin : ∀ (trip : OpenTrip) (q' : Phase), p = .moving trip →
      (q'.read haversineM config r).1.start? = some (q'.start?.getD r.fixTime) →
      trip.startTime ≤ q'.start?.getD r.fixTime → q'.start?.getD r.fixTime ≤ r.fixTime →
      Follows closed r.fixTime (p.read haversineM config r).1 (q'.read haversineM config r).1 := by
    rintro trip q' rfl hstart hbegan hpast
    have hobeys := Phase.read_moving haversineM config trip hskew
    rw [stopTimer_of_moving hvalid hmoving] at hobeys
    obtain ⟨trip₁, heq, hgoes⟩ := hobeys
    have hp' : ((Phase.moving trip).read haversineM config r).1 = .moving trip₁ := by rw [heq]
    rw [hp']
    exact .within trip₁ _ _ hstart (hgoes.startTime ▸ hbegan) hpast (by simp [hgoes.stopSince])
      fun trip' hq' => OpenTrip.inStep_of_moving hskew hvalid hmoving hp' hq'
  have hstart? : ∀ q' : Phase, (q'.read haversineM config r).1.start? =
      some (q'.start?.getD r.fixTime) :=
    fun _ => (Phase.read_of_moving hskew hvalid hmoving).2.1
  cases h with
  | idle =>
    cases p with
    | parked cand =>
      cases cand with
      | none => exact .same _
      | some c =>
        have hc : c.startTime ≤ r.fixTime := (hp.start _ rfl).trans hr
        exact Follows.read_candidates hskew hvalid hmoving hc le_rfl
          (candidateAt_dispM_nonneg r fun c' hc' => hp.disp c' (by rw [hc']))
    | moving trip =>
      exact hwithin trip .idle rfl (hstart? _) ((hp.start _ rfl).trans hr) le_rfl
  | same => exact .same _
  | candidates c c' start past disp lat lon =>
    refine Follows.read_candidates hskew hvalid hmoving start (past.trans hr) ?_
    simp only [candidateAt, Candidate.extend, lat, lon]
    exact add_le_add_left disp _
  | within trip _ t start began past stop step =>
    exact hwithin trip q rfl (hstart? q) (by simpa [start] using began)
      (by simpa [start] using past.trans hr)
  | after _ _ t k done start began ended step =>
    refine .after _ _ t k done (by rw [hstart?, start]; rfl) began ended fun trip trip' hp' hq' => ?_
    exact OpenTrip.inStep_of_moving hskew hvalid hmoving hp' hq'

/-- The event `k'` is closed by the running machine, or starts within a trip it has closed. -/
def Accounted (closed : CloseEvent → Prop) (k' : CloseEvent) : Prop :=
  ∃ k, closed k ∧ (k = k' ∨ k.startTime ≤ k'.startTime ∧ k'.startTime ≤ k.endTime)

/-- **One record, read by both machines.** -/
lemma Follows.read (h : Follows closed now p q) (hp : p.UpTo now) (hr : now ≤ r.fixTime) :
    let closed' := fun k => closed k ∨ k ∈ closesOf (p.read haversineM config r).2
    Follows closed' r.fixTime (p.read haversineM config r).1 (q.read haversineM config r).1 ∧
      ∀ k' ∈ closesOf (q.read haversineM config r).2, Accounted closed' k' := by
  intro closed'
  have hmono : ∀ {p' q'}, Follows closed now p' q' → Follows closed' r.fixTime p' q' :=
    fun h => h.mono (fun k hk => .inl hk) hr
  by_cases hmoves : isClockSkewed r = false ∧ r.fixValid = true ∧ config.thresholds.moving r = true
  · obtain ⟨hskew, hvalid, hmoving⟩ := hmoves
    refine ⟨(h.read_of_moving hp hr hskew hvalid hmoving).mono (fun k hk => .inl hk) le_rfl, ?_⟩
    simp [(Phase.read_of_moving hskew hvalid hmoving).1]
  by_cases hskew : isClockSkewed r
  · have hread : ∀ p : Phase, p.read haversineM config r = (p, []) := fun p => by
      simp [Phase.read, hskew]
    simp only [hread]
    exact ⟨hmono h, by simp [closesOf]⟩
  have hskew : isClockSkewed r = false := by simpa using hskew
  -- the running machine on the trip within which the cold one began
  have hwithin : ∀ (trip : OpenTrip) (q' : Phase) (t : Ms), p = .moving trip →
      q'.start? = some t → trip.startTime ≤ t → t ≤ now →
      (∀ s, trip.stopSince = some s → t ≤ s) →
      (∀ trip₁ since, stopTimer haversineM config trip.stopSince trip.lastLat trip.lastLon r =
        .goesOn since → trip.GoesOn r since trip₁ → ∀ trip', q' = .moving trip' →
          trip₁.InStep trip') →
      Follows closed' r.fixTime (p.read haversineM config r).1 q' := by
    rintro trip q' t rfl hstart hbegan hpast hstop hstep
    have hobeys := Phase.read_moving haversineM config trip hskew
    have hsince : t ≤ trip.stopSince.getD r.fixTime := by
      cases hs : trip.stopSince with
      | none => exact hpast.trans hr
      | some s => exact hstop s hs
    cases htimer : stopTimer haversineM config trip.stopSince trip.lastLat trip.lastLon r with
    | goesOn since =>
      rw [htimer] at hobeys
      obtain ⟨trip₁, heq, hgoes⟩ := hobeys
      rw [heq]
      refine .within trip₁ q' t hstart (hgoes.startTime ▸ hbegan) (hpast.trans hr) ?_
        (hstep trip₁ since htimer hgoes)
      intro s hs
      rw [hgoes.stopSince] at hs
      rcases stopTimer_goesOn htimer with rfl | rfl | rfl
      · simp at hs
      · exact hstop s hs
      · obtain rfl : trip.stopSince.getD r.fixTime = s := by simpa using hs
        exact hsince
    | runsOut e =>
      obtain ⟨he, -⟩ := stopTimer_runsOut htimer
      rw [htimer] at hobeys
      obtain ⟨k, heq, hkstart, hkend, -⟩ := hobeys
      refine .after _ q' t k (.inr (by simp [heq])) hstart (hkstart ▸ hbegan)
        (hkend.trans he ▸ hsince) ?_
      rintro trip₁ trip' hidle
      simp [heq] at hidle
  cases q with
  | parked cand =>
    rcases Phase.read_parked_of_not_moving haversineM hmoves with hkeep | hdrop
    · rw [hkeep]
      refine ⟨?_, by simp [closesOf]⟩
      cases h with
      | idle => exact .idle _
      | same => rw [hkeep]; exact .same _
      | candidates c c' start past disp lat lon =>
        rw [hkeep]
        exact hmono (.candidates c c' start past disp lat lon)
      | within trip _ t start began past stop step =>
        exact hwithin trip _ t rfl start began past stop (by simp)
      | after _ _ t k done start began ended step =>
        exact .after _ _ t k (.inl done) start began ended (by simp)
    · rw [hdrop]
      exact ⟨.idle _, by simp [closesOf]⟩
  | moving trip' =>
    have hobeys := Phase.read_moving haversineM config trip' hskew
    cases htimer : stopTimer haversineM config trip'.stopSince trip'.lastLat trip'.lastLon r with
    | goesOn since =>
      rw [htimer] at hobeys
      obtain ⟨trip₁', heq, hgoes⟩ := hobeys
      rw [heq]
      refine ⟨?_, by simp [closesOf]⟩
      have hstep : ∀ trip : OpenTrip, trip.InStep trip' → ∀ trip₁, trip.GoesOn r since trip₁ →
          trip₁.InStep trip₁' := fun trip hin trip₁ hgoes' =>
        ⟨hgoes.stopSince.trans hgoes'.stopSince.symm,
          by rw [hgoes.lastLat, hgoes'.lastLat, hin.lastLat],
          by rw [hgoes.lastLon, hgoes'.lastLon, hin.lastLon]⟩
      have hsame : ∀ trip : OpenTrip, trip.InStep trip' →
          stopTimer haversineM config trip.stopSince trip.lastLat trip.lastLon r =
            .goesOn since := fun trip hin => by
        rw [← htimer, hin.stopSince, hin.lastLat, hin.lastLon]
      cases h with
      | same => rw [heq]; exact .same _
      | within trip _ t start began past stop step =>
        refine hwithin trip _ t rfl ?_ began past stop ?_
        · rw [← start]
          exact congrArg some hgoes.startTime
        · rintro trip₁ since' htimer' hgoes' _ ⟨⟩
          have hin := step trip' rfl
          obtain rfl : since' = since := by
            have := htimer'.symm.trans (hsame trip hin)
            simpa using this
          exact hstep trip hin trip₁ hgoes'
      | after _ _ t k done start began ended step =>
        refine .after _ _ t k (.inl done) ?_ began ended ?_
        · rw [← start]
          exact congrArg some hgoes.startTime
        · rintro trip₁ _ hp' ⟨⟩
          cases p with
          | parked cand =>
            rcases Phase.read_parked_of_not_moving haversineM hmoves with hk | hk <;>
              simp [hk] at hp'
          | moving trip =>
            have hin := step trip trip' rfl rfl
            have hobeys' := Phase.read_moving haversineM config trip hskew
            rw [hsame trip hin] at hobeys'
            obtain ⟨trip₂, heq', hgoes'⟩ := hobeys'
            rw [heq'] at hp'
            obtain rfl := Phase.moving.inj hp'
            exact hstep trip hin trip₂ hgoes'
    | runsOut e =>
      obtain ⟨he, -⟩ := stopTimer_runsOut htimer
      rw [htimer] at hobeys
      obtain ⟨k', heq, hkstart, hkend, -⟩ := hobeys
      rw [heq]
      refine ⟨.idle _, fun k hk => ?_⟩
      obtain rfl : k = k' := by simpa using hk
      cases h with
      | same => exact ⟨k, .inr (by simp [heq]), .inl rfl⟩
      | within trip _ t start began past stop step =>
        have hin := step trip' rfl
        have hobeys' := Phase.read_moving haversineM config trip hskew
        rw [← hin.stopSince, ← hin.lastLat, ← hin.lastLon, htimer] at hobeys'
        obtain ⟨k₁, heq', hk₁start, hk₁end, -⟩ := hobeys'
        obtain rfl : trip'.startTime = t := by simpa [Phase.start?] using start
        refine ⟨k₁, .inr (by simp [heq']), .inr ⟨hk₁start.trans_le (hkstart ▸ began), ?_⟩⟩
        rw [hkstart, hk₁end, he, hin.stopSince]
        cases hs : trip.stopSince with
        | none => exact past.trans hr
        | some s => exact stop s hs
      | after _ _ t k₁ done start began ended step =>
        obtain rfl : trip'.startTime = t := by simpa [Phase.start?] using start
        exact ⟨k₁, .inl done, .inr ⟨hkstart ▸ began, hkstart ▸ ended⟩⟩

/-- **What a cold start closes.**  Whatever a machine started cold closes on an input read in order,
a machine that was already running closes too, or has closed a trip within which it starts. -/
theorem follows_run (hp : p.UpTo now) (hnow : ∀ r ∈ records, now ≤ r.fixTime)
    (horder : InOrder records) :
    ∀ k' ∈ Phase.closes haversineM config .idle records,
      Accounted (· ∈ p.closes haversineM config records) k' := by
  have hrun : ∀ (records : List NormalizedRecord) (closed : CloseEvent → Prop) (now : Ms)
      (p q : Phase), Follows closed now p q → p.UpTo now → (∀ r ∈ records, now ≤ r.fixTime) →
      InOrder records → ∀ k' ∈ q.closes haversineM config records,
        Accounted (fun k => closed k ∨ k ∈ p.closes haversineM config records) k' := by
    intro records
    induction records with
    | nil => simp [Phase.closes, closesOf]
    | cons r rs ih =>
      intro closed now p q h hp hnow horder k' hk'
      have hr : now ≤ r.fixTime := hnow r mem_cons_self
      obtain ⟨hnext, hout⟩ := h.read hp hr
      rw [Phase.closes_cons] at hk'
      rcases mem_append.1 hk' with hk' | hk'
      · obtain ⟨k, hk, hacc⟩ := hout k' hk'
        refine ⟨k, hk.imp_right fun hk => ?_, hacc⟩
        rw [Phase.closes_cons]
        exact mem_append_left _ hk
      · obtain ⟨hfirst, hrest⟩ := pairwise_cons.1 horder
        obtain ⟨k, hk, hacc⟩ := ih _ r.fixTime _ _ hnext (hp.read hr) hfirst hrest k' hk'
        refine ⟨k, ?_, hacc⟩
        change closed k ∨ k ∈ p.closes haversineM config (r :: rs)
        rw [Phase.closes_cons, mem_append, ← or_assoc]
        exact hk
  intro k' hk'
  obtain ⟨k, hk, hacc⟩ := hrun records (fun _ => False) now p .idle (.idle p) hp hnow horder k' hk'
  exact ⟨k, hk.resolve_left id, hacc⟩

/-! ## The times of a run -/

lemma Phase.UpTo.mono (h : phase.UpTo now) (hnow : now ≤ now') : phase.UpTo now' :=
  ⟨fun t ht => (h.start t ht).trans hnow,
    fun trip t hp ht => (h.stop trip t hp ht).imp_right (·.trans hnow), h.disp⟩

lemma Phase.UpTo.after {later : Ms} (h : phase.UpTo now) (horder : InOrder records)
    (hnow : ∀ r ∈ records, now ≤ r.fixTime ∧ r.fixTime ≤ later) (hle : now ≤ later) :
    (phase.after haversineM config records).UpTo later := by
  induction records generalizing phase now with
  | nil => exact h.mono hle
  | cons r rs ih =>
    obtain ⟨hfirst, hrest⟩ := pairwise_cons.1 horder
    obtain ⟨hr, hr'⟩ := hnow r mem_cons_self
    exact ih (h.read hr) hrest (fun x hx => ⟨hfirst x hx, (hnow x (mem_cons_of_mem _ hx)).2⟩) hr'

lemma Phase.closes_times (h : phase.UpTo now) (horder : InOrder records)
    (hnow : ∀ r ∈ records, now ≤ r.fixTime) (hk : k ∈ phase.closes haversineM config records) :
    k.startTime ≤ k.endTime ∧ ∃ r ∈ records, k.endTime ≤ r.fixTime ∧
      config.thresholds.stopThreshold ≤ secs r.fixTime k.endTime := by
  induction records generalizing phase now with
  | nil => simp [Phase.closes, closesOf] at hk
  | cons r rs ih =>
    obtain ⟨hfirst, hrest⟩ := pairwise_cons.1 horder
    have hr : now ≤ r.fixTime := hnow r mem_cons_self
    rw [Phase.closes_cons] at hk
    rcases mem_append.1 hk with hk | hk
    · obtain ⟨trip, rfl, -, hstart, hend, hlasted⟩ := Phase.read_close hk
      have htimes : k.startTime ≤ k.endTime ∧ k.endTime ≤ r.fixTime := by
        rw [hstart, hend]
        cases hs : trip.stopSince with
        | none => exact ⟨(h.start _ rfl).trans hr, le_rfl⟩
        | some t => exact (h.stop trip t rfl hs).imp_right (·.trans hr)
      exact ⟨htimes.1, r, mem_cons_self, htimes.2, hlasted⟩
    · obtain ⟨hle, x, hx, htime⟩ := ih (h.read hr) hrest hfirst hk
      exact ⟨hle, x, mem_cons_of_mem _ hx, htime⟩

lemma nextClose_append (h : nextClose haversineM config phase records = some k)
    (more : List NormalizedRecord) :
    nextClose haversineM config phase (records ++ more) = some k := by
  induction records generalizing phase with
  | nil => simp [nextClose] at h
  | cons r rs ih =>
    rw [cons_append, nextClose_cons]
    rw [nextClose_cons] at h
    split at h
    · exact h
    · split at h
      · simp at h
      · rename_i hnext
        rw [if_neg hnext]
        exact ih h

/-- The close events of a run, cut in two. -/
lemma Phase.closes_append (phase : Phase) (xs ys : List NormalizedRecord) :
    phase.closes haversineM config (xs ++ ys) =
      phase.closes haversineM config xs ++
        (phase.after haversineM config xs).closes haversineM config ys := by
  simp [Phase.closes, closesOf, Transducer.outputs_append]

end Orbetra
