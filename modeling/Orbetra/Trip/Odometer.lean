import Orbetra.Trip.Idle

/-!
# The readings behind an odometer distance

Under `auto` a trip takes its distance from the odometer only where no reading was missing and none
went back.  Of the records before the trip opens the engine keeps the first reading alone, and
compares it with the one of the record that opens the trip: what the records between them carry
plays no part (`gap_unnoticed`).  Where those are steady, all readings of the trip are
(`odometer_steady`). -/

namespace Orbetra

open List

variable (haversineM : Haversine)

/-- All records carry a reading, and the readings do not go back. -/
structure SteadyOdometer (records : List NormalizedRecord) : Prop where
  present : ∀ r ∈ records, r.odometerM ≠ none
  ordered : records.Pairwise fun r r' => ∀ a ∈ r.odometerM, ∀ b ∈ r'.odometerM, a ≤ b

instance (records : List NormalizedRecord) : Decidable (SteadyOdometer records) :=
  decidable_of_iff ((∀ r ∈ records, r.odometerM ≠ none) ∧
    records.Pairwise fun r r' => ∀ a ∈ r.odometerM, ∀ b ∈ r'.odometerM, a ≤ b)
    ⟨fun h => ⟨h.1, h.2⟩, fun h => ⟨h.present, h.ordered⟩⟩

/-- A device, and the valid records that it has consumed for its candidate or its trip. -/
structure OdoLog where
  st : DeviceState
  consumed : List NormalizedRecord

/-- What has been consumed after one more record: a device that was idle begins anew. -/
def OdoLog.consume (log : OdoLog) (r : NormalizedRecord) : List NormalizedRecord :=
  (if log.st.phase = .idle then [] else log.consumed) ++ if r.fixValid then [r] else []

def OdoLog.step (resolved : DeviceTripConfig) (log : OdoLog) (r : NormalizedRecord) :
    OdoLog × List (CloseEvent × List NormalizedRecord) :=
  if isClockSkewed r || log.st.isLate r then (log, [])
  else
    let next := log.st.advance haversineM resolved r
    (⟨next.1, log.consume r⟩, (closesOf next.2).map (·, log.consume r))

/-- A device that is seen for the first time. -/
def OdoLog.fresh (config : DeviceTripConfig) : OdoLog := ⟨.fresh config, []⟩

def odoLog (config : DeviceTripConfig) (records : List NormalizedRecord) :
    List (CloseEvent × List NormalizedRecord) :=
  Transducer.outputs (OdoLog.step haversineM config) (.fresh config) records

/-- A record that opens a trip, and with the first one of the candidate shows nothing amiss: the
records between them do not either. -/
def OpensSteady (resolved : DeviceTripConfig) (log : OdoLog) (r : NormalizedRecord) : Prop :=
  match log.st.phase with
  | .moving _ => True
  | .parked cand =>
    let t := (log.st.inUse resolved).thresholds
    let c := candidateAt haversineM cand r
    r.fixValid = true → t.moving r = true → c.sustained t r = true →
      odoMonotonic c.startOdo r.odometerM = true → SteadyOdometer (log.consume r)

instance (resolved : DeviceTripConfig) (log : OdoLog) (r : NormalizedRecord) :
    Decidable (OpensSteady haversineM resolved log r) := by
  unfold OpensSteady
  split <;> infer_instance

section Odometer

variable {haversineM} {config : DeviceTripConfig} {records : List NormalizedRecord}

lemma odoMonotonic_iff {start now : Option ℤ} :
    odoMonotonic start now = true ↔ ∃ a b, start = some a ∧ now = some b ∧ a ≤ b := by
  unfold odoMonotonic
  cases start <;> cases now <;> simp

variable {r : NormalizedRecord} {b : ℤ}

/-- A reading that is there and not before any other goes on with them. -/
lemma SteadyOdometer.push (h : SteadyOdometer records) (hr : r.odometerM = some b)
    (hb : ∀ x ∈ records, ∀ a ∈ x.odometerM, a ≤ b) :
    SteadyOdometer (records ++ [r]) := by
  constructor
  · intro x hx
    rcases mem_append.1 hx with hx | hx
    · exact h.present x hx
    · obtain rfl := mem_singleton.1 hx
      rw [hr]
      exact Option.some_ne_none b
  · refine pairwise_append.2 ⟨h.ordered, pairwise_singleton _ _, ?_⟩
    intro x hx y hy a ha c hc
    obtain rfl := mem_singleton.1 hy
    rw [hr] at hc
    cases hc
    exact hb x hx a ha

lemma SteadyOdometer.le_last (h : SteadyOdometer (records ++ [r])) (hr : r.odometerM = some b) :
    ∀ x ∈ records ++ [r], ∀ a ∈ x.odometerM, a ≤ b := by
  intro x hx a ha
  rcases mem_append.1 hx with hx | hx
  · exact (pairwise_append.1 h.ordered).2.2 x hx r mem_cons_self a ha b hr
  · obtain rfl := mem_singleton.1 hx
    rw [hr] at ha
    exact (Option.some.inj ha).ge

/-- A trip whose odometer is unbroken has seen steady readings, the last of which is the greatest.
-/
structure OpenTrip.Steady (trip : OpenTrip) (consumed : List NormalizedRecord) : Prop where
  steady : trip.odoBroken = false → SteadyOdometer consumed
  last : trip.odoBroken = false → ∀ b ∈ trip.odoLast, ∀ r ∈ consumed, ∀ a ∈ r.odometerM, a ≤ b

variable (haversineM) in
lemma OpenTrip.seen_odo (t : TripThresholds) (trip : OpenTrip) {r : NormalizedRecord}
    (hvalid : r.fixValid = true) :
    (trip.seen haversineM t r).odoBroken =
        (trip.odoBroken || !odoMonotonic trip.odoLast r.odometerM) ∧
      (trip.seen haversineM t r).odoLast = r.odometerM.or trip.odoLast := by
  unfold OpenTrip.seen OpenTrip.driven OpenTrip.flushIdle
  dsimp only
  rw [if_pos hvalid]
  split
  · exact ⟨rfl, rfl⟩
  · split <;> exact ⟨rfl, rfl⟩

variable (haversineM) in
lemma OpenTrip.Steady.seen {trip : OpenTrip} {consumed : List NormalizedRecord}
    (h : trip.Steady consumed) (t : TripThresholds) (r : NormalizedRecord) :
    (trip.seen haversineM t r).Steady (consumed ++ if r.fixValid then [r] else []) := by
  cases hvalid : r.fixValid with
  | false =>
    rw [OpenTrip.seen_of_invalid t trip hvalid, if_neg Bool.false_ne_true, append_nil]
    exact h
  | true =>
    obtain ⟨hbroken, hlast⟩ := trip.seen_odo haversineM t hvalid
    rw [if_pos rfl]
    have hboth : (trip.seen haversineM t r).odoBroken = false → ∃ b, r.odometerM = some b ∧
        SteadyOdometer (consumed ++ [r]) := by
      intro hunbroken
      rw [hbroken, Bool.or_eq_false_iff, Bool.not_eq_false'] at hunbroken
      obtain ⟨a, b, ha, hb, hle⟩ := odoMonotonic_iff.1 hunbroken.2
      exact ⟨b, hb, (h.steady hunbroken.1).push hb fun x hx c hc =>
        (h.last hunbroken.1 a ha x hx c hc).trans hle⟩
    refine ⟨fun hunbroken => (hboth hunbroken).choose_spec.2, fun hunbroken b hb => ?_⟩
    obtain ⟨b', hr, hsteady⟩ := hboth hunbroken
    rw [hlast, hr] at hb
    cases hb
    exact hsteady.le_last hr

lemma OpenTrip.odoBroken_of_close {trip : OpenTrip} {d : DeviceId} {endTime : Ms}
    (hauto : config.odometerSource = .auto)
    (h : (trip.close config d endTime).distanceSource = .odometer) : trip.odoBroken = false := by
  have hsame : (trip.flushIdle endTime config.thresholds.idleSustainS).odoBroken =
      trip.odoBroken := by
    unfold OpenTrip.flushIdle
    split <;> rfl
  by_contra hbroken
  have hbroken : trip.odoBroken = true := by simpa using hbroken
  unfold OpenTrip.close at h
  simp [hsame, hbroken, hauto] at h

structure OdoLog.Sound (config : DeviceTripConfig) (log : OdoLog) : Prop where
  config : log.st.config = config
  trip : ∀ trip, log.st.phase = .moving trip → trip.Steady log.consumed

/-- **One record** that opens no trip on unsteady readings. -/
lemma OdoLog.Sound.step {log : OdoLog} (hauto : config.odometerSource = .auto)
    (h : log.Sound config) (hopens : OpensSteady haversineM config log r) :
    (log.step haversineM config r).1.Sound config ∧
      ∀ o ∈ (log.step haversineM config r).2, o.1.distanceSource = .odometer →
        SteadyOdometer o.2 := by
  unfold OdoLog.step
  by_cases hskip : (isClockSkewed r || log.st.isLate r) = true
  · rw [if_pos hskip]
    exact ⟨h, fun o ho => by cases ho⟩
  rw [if_neg hskip]
  have hinUse : log.st.inUse config = config := by
    unfold DeviceState.inUse
    rw [h.config, ite_self]
  have hadvance : log.st.advance haversineM config r =
      (⟨(log.st.phase.step haversineM config r).1, some r.fixTime, config⟩,
        (log.st.phase.step haversineM config r).2) := by
    unfold DeviceState.advance
    rw [h.config, ite_self]
  rw [hadvance]
  dsimp only
  unfold OpensSteady at hopens
  rw [hinUse] at hopens
  cases hphase : log.st.phase with
  | parked cand =>
    rw [hphase] at hopens
    rw [Phase.step_parked]
    cases hvalid : r.fixValid with
    | false =>
      rw [if_pos rfl]
      exact ⟨⟨rfl, fun trip htrip => by cases htrip⟩, fun o ho => by cases ho⟩
    | true =>
      rw [if_neg Bool.true_eq_false.mp]
      split
      · exact ⟨⟨rfl, fun trip htrip => by cases htrip⟩, fun o ho => by cases ho⟩
      rename_i hmoving
      dsimp only
      split
      · rename_i hsustained
        refine ⟨⟨rfl, fun trip htrip => ?_⟩, fun o ho => by cases ho⟩
        cases htrip
        have hunbroken : (OpenTrip.ofCandidate (candidateAt haversineM cand r) r).odoBroken = false →
            odoMonotonic (candidateAt haversineM cand r).startOdo r.odometerM = true := by
          intro hunbroken
          simpa [OpenTrip.ofCandidate] using hunbroken
        have hsteady := fun hunbroken' => hopens hvalid (by simpa using hmoving) hsustained
          (hunbroken hunbroken')
        refine ⟨hsteady, fun hunbroken' b hb => ?_⟩
        have hconsume : log.consume r =
            (if log.st.phase = .idle then [] else log.consumed) ++ [r] := by
          simp [OdoLog.consume, hvalid]
        rw [hconsume] at hsteady ⊢
        exact (hsteady hunbroken').le_last hb
      · exact ⟨⟨rfl, fun trip htrip => by cases htrip⟩, fun o ho => by cases ho⟩
  | moving trip =>
    have hsteady := (h.trip trip hphase).seen haversineM config.thresholds r
    have hconsume : log.consume r = log.consumed ++ if r.fixValid then [r] else [] := by
      simp [OdoLog.consume, hphase]
    rw [← hconsume] at hsteady
    rw [Phase.step_moving_eq]
    cases stopTimer haversineM config trip.stopSince trip.lastLat trip.lastLon r with
    | goesOn since =>
      refine ⟨⟨rfl, fun trip' htrip' => ?_⟩, fun o ho => by cases ho⟩
      cases htrip'
      exact ⟨hsteady.steady, hsteady.last⟩
    | runsOut endTime =>
      refine ⟨⟨rfl, fun trip' htrip' => by cases htrip'⟩, fun o ho hsource => ?_⟩
      obtain rfl := mem_singleton.1 ho
      exact hsteady.steady (OpenTrip.odoBroken_of_close hauto hsource)

lemma odoLog_closes (config : DeviceTripConfig) (records : List NormalizedRecord) :
    (odoLog haversineM config records).map Prod.fst = closesOf
      (Transducer.outputs (DeviceState.step haversineM config) (.fresh config) records) := by
  suffices hrun : ∀ log : OdoLog,
      (Transducer.outputs (OdoLog.step haversineM config) log records).map Prod.fst =
        closesOf (Transducer.outputs (DeviceState.step haversineM config) log.st records) from
    hrun (.fresh config)
  induction records with
  | nil => exact fun log => rfl
  | cons r rs ih =>
    intro log
    have hstep : (log.step haversineM config r).1.st = (log.st.step haversineM config r).1 ∧
        (log.step haversineM config r).2.map Prod.fst =
          closesOf (log.st.step haversineM config r).2 := by
      unfold OdoLog.step DeviceState.step
      by_cases hskew : isClockSkewed r = true
      · simp only [hskew, Bool.true_or, if_true, map_nil]
        exact ⟨trivial, rfl⟩
      by_cases hlate : log.st.isLate r = true
      · simp only [hskew, hlate, Bool.or_true, if_true, Bool.false_eq_true, if_false, map_nil]
        exact ⟨trivial, rfl⟩
      simp only [hskew, hlate, Bool.or_self, Bool.false_eq_true, if_false, map_map]
      exact ⟨trivial, map_id _⟩
    rw [Transducer.outputs_cons, Transducer.outputs_cons, map_append, ih, hstep.1, hstep.2]
    unfold closesOf
    rw [filterMap_append]

end Odometer

/-- **The readings behind an odometer distance are steady** where no trip opens on a candidate
whose readings, steady from its first record to its last, are not so between them. -/
theorem odometer_steady (configFor : DeviceId → DeviceTripConfig) (records : List NormalizedRecord)
    (d : DeviceId) (hauto : (configFor d).odometerSource = .auto)
    (h : Transducer.Along (OdoLog.step haversineM (configFor d))
      (OpensSteady haversineM (configFor d)) (.fresh (configFor d))
      (records.filter (·.deviceId = d))) :
    closesOf ((TripEngine.new.feed haversineM configFor records).2.filter (·.deviceId = d)) =
        (odoLog haversineM (configFor d) (records.filter (·.deviceId = d))).map Prod.fst ∧
      ∀ o ∈ odoLog haversineM (configFor d) (records.filter (·.deviceId = d)),
        o.1.distanceSource = .odometer → SteadyOdometer o.2 := by
  refine ⟨?_, h.outputs (I := OdoLog.Sound (configFor d)) ⟨rfl, fun trip htrip => ?_⟩ fun log r =>
    OdoLog.Sound.step hauto⟩
  · rw [odoLog_closes, (TripEngine.new.feed_own haversineM configFor d records).1]
    rfl
  · cases htrip

/-! ## A gap before the trip opens -/

/-- A trip of a hundred seconds and ten kilometres; the second of its records has the given
reading. -/
def tenKilometres (between : Option ℤ) : List NormalizedRecord :=
  [{ sampleRecord 0 true with odometerM := some 1000 },
    { sampleRecord 50000 true with odometerM := between },
    { sampleRecord 100000 true with odometerM := some 11000 },
    { sampleRecord 200000 false with odometerM := some 11000 },
    { sampleRecord 400000 false with odometerM := some 11000 }]

/-- The reading between the first record and the one that opens the trip is missing. -/
theorem gap_unnoticed :
    ∃ k, .closed k ∈
        (TripEngine.new.feed onTheSpot (fun _ => defaultConfig) (tenKilometres none)).2 ∧
      k.distanceSource = .odometer ∧ k.distanceM = 10000 ∧
      (odoLog onTheSpot defaultConfig (tenKilometres none)).any fun o =>
        o.1 = k && o.2.any (·.odometerM = none) := by
  refine ⟨⟨1, tripTime, tripTime + 200000, 54, 25, 54, 25, 10000, .odometer, 50, 0, none⟩, ?_⟩
  decide +kernel

theorem odometer_steady_tenKilometres :
    closesOf ((TripEngine.new.feed onTheSpot (fun _ => defaultConfig)
        (tenKilometres (some 6000))).2.filter (·.deviceId = 1)) =
        (odoLog onTheSpot defaultConfig
          ((tenKilometres (some 6000)).filter (·.deviceId = 1))).map Prod.fst ∧
      ∀ o ∈ odoLog onTheSpot defaultConfig ((tenKilometres (some 6000)).filter (·.deviceId = 1)),
        o.1.distanceSource = .odometer → SteadyOdometer o.2 :=
  odometer_steady onTheSpot (fun _ => defaultConfig) (tenKilometres (some 6000)) 1 rfl
    (by decide +kernel)

end Orbetra
