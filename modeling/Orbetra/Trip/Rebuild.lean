import Orbetra.Trip.Recompute

/-!
# What a recompute job leaves behind

The job is fed rows of `positions` without their attributes, so its engine sees no driver taps; in
everything else it does what the streaming engine does (`replay_eq`).  A committed plan replaces the
closed rows that start in its span by the rebuilt ones, and displaces every other row that starts
where a rebuilt one does (`mem_figures_commit`).
-/

namespace Orbetra

open List

variable {haversineM : Haversine} {config : DeviceTripConfig}

/-! ## Driver taps -/

def CloseEvent.untapped (k : CloseEvent) : CloseEvent := { k with ibutton := none }

def TripEvent.untapped : TripEvent → TripEvent
  | .opened e => .opened e
  | .closed k => .closed k.untapped

/-- A candidate without its driver tap. -/
def Candidate.untapped (c : Candidate) : Candidate := { c with ibutton := none }

def OpenTrip.untapped (trip : OpenTrip) : OpenTrip := { trip with ibutton := none }

/-- A phase without its driver tap. -/
def Phase.untapped : Phase → Phase
  | .parked cand => .parked (cand.map Candidate.untapped)
  | .moving trip => .moving trip.untapped

/-- A record of `positions` as the job feeds it to its engine. -/
abbrev NormalizedRecord.untapped (r : NormalizedRecord) : NormalizedRecord :=
  toEngineRecord r.deviceId r

lemma OpenTrip.flushIdle_untapped (trip : OpenTrip) (now : Ms) (sustain : ℚ≥0) :
    trip.untapped.flushIdle now sustain = (trip.flushIdle now sustain).untapped := by
  cases h : trip.idleSince <;> simp [OpenTrip.flushIdle, OpenTrip.untapped, h]

variable (config) in
lemma OpenTrip.close_untapped (deviceId : DeviceId) (trip : OpenTrip) (endTime : Ms) :
    trip.untapped.close config deviceId endTime =
      (trip.close config deviceId endTime).untapped := by
  simp only [OpenTrip.close, OpenTrip.flushIdle_untapped]
  rfl

variable (config) in
lemma OpenTrip.stopAt_untapped (threshold : ℚ≥0) (trip : OpenTrip) (r : NormalizedRecord) :
    trip.untapped.stopAt config threshold r.untapped =
      ((trip.stopAt config threshold r).1.untapped,
        (trip.stopAt config threshold r).2.map TripEvent.untapped) := by
  have hclose := trip.close_untapped config r.deviceId (trip.stopSince.getD r.fixTime)
  unfold OpenTrip.stopAt
  by_cases h : threshold ≤ secs r.fixTime (trip.stopSince.getD r.fixTime)
  · have h' : threshold ≤ secs r.untapped.fixTime (trip.untapped.stopSince.getD r.untapped.fixTime) :=
      h
    simp only [h, h', if_true]
    exact Prod.ext rfl (congrArg (fun k => [TripEvent.closed k]) hclose)
  · have h' : ¬ threshold ≤
        secs r.untapped.fixTime (trip.untapped.stopSince.getD r.untapped.fixTime) := h
    simp only [h, h', if_false]
    rfl

lemma candidateAt_untapped (cand : Option Candidate) (r : NormalizedRecord) :
    candidateAt haversineM (cand.map Candidate.untapped) r.untapped =
      (candidateAt haversineM cand r).untapped := by
  cases cand <;> rfl

lemma Phase.movingStep_untapped (trip : OpenTrip) (r : NormalizedRecord) :
    Phase.movingStep haversineM config trip.untapped r.untapped =
      ((Phase.movingStep haversineM config trip r).1.untapped,
        (Phase.movingStep haversineM config trip r).2.map TripEvent.untapped) := by
  have hidle : ∀ b : Prop, [Decidable b] →
      (if b then { trip.untapped.accumulate haversineM r.untapped with
          idleSince := some ((trip.untapped.accumulate haversineM r.untapped).idleSince.getD
            r.fixTime) }
        else (trip.untapped.accumulate haversineM r.untapped).flushIdle r.fixTime
          config.thresholds.idleSustainS) =
      (if b then { trip.accumulate haversineM r with
          idleSince := some ((trip.accumulate haversineM r).idleSince.getD r.fixTime) }
        else (trip.accumulate haversineM r).flushIdle r.fixTime
          config.thresholds.idleSustainS).untapped := by
    intro b _
    by_cases hb : b
    · simp only [hb, if_true]
      rfl
    · simp only [hb, if_false]
      exact (trip.accumulate haversineM r).flushIdle_untapped _ _
  have hignition : r.untapped.ignition = r.ignition := rfl
  have hspeed : r.untapped.speedOr0 = r.speedOr0 := rfl
  have htime : r.untapped.fixTime = r.fixTime := rfl
  unfold Phase.movingStep
  simp only [hignition, hspeed, htime]
  rw [hidle]
  generalize (if (config.thresholds.noIgnition = true ∨ r.ignition = some true) ∧
      r.speedOr0 < config.thresholds.idleSpeedKmh then
    { trip.accumulate haversineM r with
      idleSince := some ((trip.accumulate haversineM r).idleSince.getD r.fixTime) }
    else (trip.accumulate haversineM r).flushIdle r.fixTime config.thresholds.idleSustainS) = trip₁
  have hstop := trip₁.stopAt_untapped config config.thresholds.stopThreshold r
  have hstep : haversineM trip.untapped.lastLat trip.untapped.lastLon r.untapped.lat
      r.untapped.lon = haversineM trip.lastLat trip.lastLon r.lat r.lon := rfl
  rw [hstep]
  split <;> split
  · exact hstop
  · rfl
  · exact hstop
  · rfl

/-- **Without driver taps the machine does the same.** -/
lemma Phase.read_untapped (phase : Phase) (r : NormalizedRecord) :
    phase.untapped.read haversineM config r.untapped =
      ((phase.read haversineM config r).1.untapped,
        (phase.read haversineM config r).2.map TripEvent.untapped) := by
  unfold Phase.read
  have hskew : isClockSkewed r.untapped = isClockSkewed r := rfl
  rw [hskew]
  by_cases hs : isClockSkewed r
  · simp [hs]
  simp only [hs, Bool.false_eq_true, if_false]
  cases phase with
  | parked cand =>
    simp only [Phase.untapped]
    rw [Phase.step_parked, Phase.step_parked, candidateAt_untapped]
    have hvalid : r.untapped.fixValid = r.fixValid := rfl
    have hmoving : config.thresholds.moving r.untapped = config.thresholds.moving r := rfl
    have hsus : ∀ c : Candidate, c.untapped.sustained config.thresholds r.untapped =
      c.sustained config.thresholds r := fun _ => rfl
    simp only [hvalid, hmoving, hsus]
    split
    · rfl
    · split
      · rfl
      · split <;> rfl
  | moving trip =>
    have hvalid : r.untapped.fixValid = r.fixValid := rfl
    simp only [Phase.step, Phase.untapped, hvalid]
    split
    · exact Phase.movingStep_untapped trip r
    · have hignition : r.untapped.ignition = r.ignition := rfl
      simp only [Phase.observeStopWithoutFix, hignition]
      split
      · rfl
      · split
        · rfl
        · exact trip.stopAt_untapped config _ r
        · rfl

variable {deviceId : DeviceId} {positions : List NormalizedRecord} {plan : RecomputePlan}
  {table : TripTable} {n : Ms} {x : ℚ} {stored : List TripRow}

/-- **What a job's engine closes**: on rows of the device, in order, what the phase machine closes,
without the driver taps. -/
lemma replay_eq {rows : List NormalizedRecord} (hdevice : ∀ r ∈ rows, r.deviceId = deviceId)
    (horder : InOrder rows) :
    replay haversineM config deviceId rows =
      (Phase.closes haversineM config .idle rows).map CloseEvent.untapped := by
  have hrows : rows.map (toEngineRecord deviceId) = rows.map NormalizedRecord.untapped :=
    map_congr_left fun r hr => by rw [NormalizedRecord.untapped, hdevice r hr]
  have hdevice' : ∀ r ∈ rows.map (toEngineRecord deviceId), r.deviceId = deviceId := by
    intro r hr
    obtain ⟨r', -, rfl⟩ := mem_map.1 hr
    rfl
  have horder' : InOrder (rows.map (toEngineRecord deviceId)) := pairwise_map.2 horder
  have hcloses : ∀ events : List TripEvent, closesOf (events.map TripEvent.untapped) =
      (closesOf events).map CloseEvent.untapped := by
    intro events
    induction events with
    | nil => rfl
    | cons e es ih => cases e <;> simpa [closesOf, TripEvent.untapped] using ih
  unfold replay Phase.closes
  rw [TripEngine.feed_new hdevice' horder', hrows, ← hcloses]
  exact congrArg closesOf (Transducer.outputs_map (f := Phase.untapped)
    (fun phase r => phase.read_untapped r) .idle rows)

/-! ## Reading `positions` -/

lemma selectPositions_eq {history : List NormalizedRecord}
    (hpositions : positions.filter (·.deviceId = deviceId) = history) (horder : InOrder history)
    (lo hi : Ms) : selectPositions positions deviceId lo hi =
      history.filter fun r => lo ≤ r.fixTime ∧ r.fixTime ≤ hi := by
  have hfilter : (positions.filter fun row => row.deviceId = deviceId ∧ lo ≤ row.fixTime ∧
      row.fixTime ≤ hi) = history.filter fun r => lo ≤ r.fixTime ∧ r.fixTime ≤ hi := by
    rw [← hpositions, filter_filter]
    refine filter_congr fun r _ => ?_
    rw [Bool.eq_iff_iff]
    simp only [Bool.and_eq_true, decide_eq_true_eq]
    tauto
  unfold selectPositions
  rw [hfilter]
  exact (horder.filter _).insertionSort_eq

/-! ## The transaction -/

/-- What a trip row says, its id and its attribution aside. -/
structure TripFigures where
  startTime : Ms
  endTime : Option Ms
  status : TripStatus
  distanceM : ℤ
  distanceSource : DistanceSource
  maxSpeed : ℤ
  idleS : ℤ
  deriving DecidableEq

def TripRow.figures (row : TripRow) : TripFigures where
  startTime := row.startTime
  endTime := row.endTime
  status := row.status
  distanceM := row.distanceM
  distanceSource := row.distanceSource
  maxSpeed := row.maxSpeed
  idleS := row.idleS

def CloseEvent.figures (k : CloseEvent) : TripFigures where
  startTime := k.startTime
  endTime := some k.endTime
  status := .closed
  distanceM := clampInt4 k.distanceM
  distanceSource := k.distanceSource
  maxSpeed := clampInt4 k.maxSpeed
  idleS := clampInt4 k.idleS

def TripTable.figures (t : TripTable) (deviceId : DeviceId) : Set TripFigures :=
  {fig | ∃ row ∈ t.rows, row.deviceId = deviceId ∧ row.figures = fig}

lemma TripTable.rows_foldl_insert (t : TripTable) (trips : List TripRow) :
    (trips.foldl insert t).rows =
      t.rows ++ trips.mapIdx fun i row => { row with id := t.nextId + i } := by
  induction trips generalizing t with
  | nil => simp
  | cons trip trips ih =>
    rw [foldl_cons, ih, mapIdx_cons]
    simp [Nat.add_assoc, Nat.add_comm 1]

lemma figures_foldl_carryDriver (deviceId : DeviceId) (old : List TripRow) (t : TripTable)
    (d : DeviceId) : (old.foldl (carryDriver deviceId) t).figures d = t.figures d := by
  induction old generalizing t with
  | nil => rfl
  | cons row rows ih =>
    rw [foldl_cons, ih]
    ext fig
    have hkeep : ∀ row' : TripRow, ∀ b : Bool,
        (if b then { { row' with driverId := row.driverId } with id := row'.id }
          else row').deviceId = row'.deviceId ∧
        (if b then { { row' with driverId := row.driverId } with id := row'.id }
          else row').figures = row'.figures := by
      intro row' b
      cases b <;> exact ⟨rfl, rfl⟩
    simp only [TripTable.figures, carryDriver, TripTable.rows_update, mem_map,
      exists_exists_and_eq_and, Set.mem_ofPred_eq, hkeep]

/-- **What a committed plan leaves of a device**: the rows it neither replaces nor displaces, and
the rebuilt trips. -/
lemma mem_figures_commit {fig : TripFigures}
    (htrips : ∀ row ∈ plan.trips, row.deviceId = plan.deviceId) :
    fig ∈ (plan.commit table).figures plan.deviceId ↔
      (∃ row ∈ table.rows, row.deviceId = plan.deviceId ∧
        ¬ (row.id ∈ plan.doomed ∧ row.status = .closed) ∧
        row.startTime ∉ plan.trips.map TripRow.startTime ∧ row.figures = fig) ∨
      ∃ row ∈ plan.trips, row.figures = fig := by
  unfold RecomputePlan.commit
  rw [figures_foldl_carryDriver]
  simp only [TripTable.figures, TripTable.rows_delete, TripTable.nextId_delete,
    TripTable.rows_foldl_insert, mem_filter, mem_append, Set.mem_ofPred_eq,
    mem_range'_1, Bool.not_eq_true', decide_eq_false_iff_not]
  constructor
  · rintro ⟨row, ⟨⟨hrow, hdoomed⟩ | hrow, hkept⟩, hdevice, rfl⟩
    · refine .inl ⟨row, hrow, hdevice, fun h => hdoomed ⟨h.1, hdevice, h.2⟩, fun h => ?_, rfl⟩
      have := table.ahead row hrow
      exact hkept ⟨hdevice, h, by omega⟩
    · obtain ⟨i, hi, rfl⟩ := mem_mapIdx.1 hrow
      exact .inr ⟨plan.trips[i], getElem_mem hi, rfl⟩
  · rintro (⟨row, hrow, hdevice, hdoomed, hstart, rfl⟩ | ⟨row, hrow, rfl⟩)
    · exact ⟨row, ⟨.inl ⟨hrow, fun h => hdoomed ⟨h.1, h.2.2⟩⟩, fun h => hstart h.2.1⟩, hdevice, rfl⟩
    · obtain ⟨i, hi, rfl⟩ := mem_iff_getElem.1 hrow
      refine ⟨{ plan.trips[i] with id := table.nextId + i },
        ⟨.inr (mem_mapIdx.2 ⟨i, hi, rfl⟩), fun h => h.2.2 ?_⟩,
        htrips plan.trips[i] (getElem_mem hi), rfl⟩
      exact ⟨Nat.le_add_right _ _, Nat.add_lt_add_left hi _⟩

/-! ## The plan -/

def CoreSpan.Holds (span : CoreSpan) (start : Ms) : Prop :=
  span.coreFrom ≤ start ∧ start ≤ span.coreTo

instance (span : CoreSpan) (start : Ms) : Decidable (span.Holds start) :=
  inferInstanceAs (Decidable (_ ∧ _))

lemma newDate_le (h : x ≤ n) : newDate x ≤ n := by
  unfold newDate
  split
  · exact_mod_cast (Int.floor_le x).trans h
  · exact Int.ceil_le.2 h

lemma le_newDate (h : (n : ℚ) ≤ x) : n ≤ newDate x := by
  unfold newDate
  split
  · exact Int.le_floor.2 h
  · exact_mod_cast h.trans (Int.le_ceil x)

lemma marginMs_nonneg (t : TripThresholds) : 0 ≤ marginMs t := by
  have h : (0 : ℚ) ≤ max t.parkedIgnitionOffS t.parkedStopS :=
    le_max_of_le_left (NNRat.cast_nonneg _)
  unfold marginMs
  linarith

lemma CoreSpan.readFrom_le (span : CoreSpan) (t : TripThresholds) :
    span.readFrom t ≤ span.coreFrom :=
  newDate_le (sub_le_self _ (marginMs_nonneg t))

lemma CoreSpan.le_readTo (span : CoreSpan) (t : TripThresholds) : span.coreTo ≤ span.readTo t :=
  le_newDate (le_add_of_nonneg_right (marginMs_nonneg t))

def CoreSpan.engineRows (span : CoreSpan) (positions : List NormalizedRecord)
    (deviceId : DeviceId) (t : TripThresholds) : List NormalizedRecord :=
  (selectPositions positions deviceId (span.readFrom t) (span.readTo t)).take maxRecomputeRows

/-- The job replaces this trip: it is a closed row that starts in the rebuilt span, or it starts
where a rebuilt trip does. -/
def RecomputePlan.Touches (plan : RecomputePlan) (fig : TripFigures) : Prop :=
  fig.status = .closed ∧ plan.span.Holds fig.startTime ∧ fig.startTime ≤ plan.coreTo ∨
    fig.startTime ∈ plan.trips.map TripRow.startTime

def RecomputePlan.rebuilt (plan : RecomputePlan) : Set TripFigures :=
  {fig | ∃ row ∈ plan.trips, row.figures = fig}

/-- What `RecomputePlan.read` plans: the trips that a new engine closes on the read window and that
start in the rebuilt span. -/
structure RecomputePlan.Reads (haversineM : Haversine) (config : DeviceTripConfig)
    (plan : RecomputePlan) (rows : List TripRow) (deviceId : DeviceId)
    (positions : List NormalizedRecord) : Prop where
  device : plan.deviceId = deviceId
  doomed : ∀ id, id ∈ plan.doomed ↔ ∃ row ∈ rows, row.id = id ∧ row.deviceId = deviceId ∧
    row.status = .closed ∧ plan.span.Holds row.startTime ∧ row.startTime ≤ plan.coreTo
  trips : ∃ scope, plan.trips =
    ((replay haversineM config deviceId
      (plan.span.engineRows positions deviceId config.thresholds)).filter fun ev =>
        plan.span.coreFrom ≤ ev.startTime ∧ ev.startTime ≤ plan.coreTo).map
      (CloseEvent.row scope deviceId)

lemma RecomputePlan.Reads.of_mem_trips (h : plan.Reads haversineM config stored deviceId positions)
    {row : TripRow} (hrow : row ∈ plan.trips) : row.deviceId = deviceId ∧ row.status = .closed := by
  obtain ⟨scope, htrips⟩ := h.trips
  rw [htrips] at hrow
  obtain ⟨ev, -, rfl⟩ := mem_map.1 hrow
  exact ⟨rfl, rfl⟩

lemma RecomputePlan.read_reads {now : Ms} {lo hi : Ms} {scope : RecomputeScope}
    (h : RecomputePlan.read haversineM now stored positions deviceId lo hi scope config = .ok plan) :
    coreSpan now stored deviceId lo hi = some plan.span ∧
      plan.Reads haversineM config stored deviceId positions := by
  unfold RecomputePlan.read at h
  split at h
  · simp at h
  · rename_i span hspan
    rw [hspan]
    have hdoomed : ∀ coreTo : Ms, ∀ id, id ∈ ((stored.filter fun row =>
        row.deviceId = deviceId ∧ row.status = .closed ∧ span.coreFrom ≤ row.startTime ∧
          row.startTime ≤ span.coreTo).filter fun row => row.startTime ≤ coreTo).map TripRow.id ↔
        ∃ row ∈ stored, row.id = id ∧ row.deviceId = deviceId ∧ row.status = .closed ∧
          span.Holds row.startTime ∧ row.startTime ≤ coreTo := by
      intro coreTo id
      simp only [mem_map, mem_filter, decide_eq_true_eq, CoreSpan.Holds]
      constructor
      · rintro ⟨row, ⟨⟨hrow, hd, hs, hfrom, hto⟩, hcap⟩, rfl⟩
        exact ⟨row, hrow, rfl, hd, hs, ⟨hfrom, hto⟩, hcap⟩
      · rintro ⟨row, hrow, rfl, hd, hs, ⟨hfrom, hto⟩, hcap⟩
        exact ⟨row, ⟨⟨hrow, hd, hs, hfrom, hto⟩, hcap⟩, rfl⟩
    dsimp only at h
    split at h
    · split at h
      · simp at h
      · cases h
        refine ⟨rfl, rfl, hdoomed _, scope, ?_⟩
        simp only [CoreSpan.engineRows, take_take, Nat.min_eq_left (Nat.le_succ _)]
    · rename_i hcap
      cases h
      refine ⟨rfl, rfl, hdoomed _, scope, ?_⟩
      have hlen : (selectPositions positions deviceId (span.readFrom config.thresholds)
          (span.readTo config.thresholds)).length ≤ maxRecomputeRows := by
        rw [length_take] at hcap
        omega
      simp only [CoreSpan.engineRows]
      rw [take_of_length_le hlen, take_of_length_le (hlen.trans (Nat.le_succ _))]

variable (haversineM) in
lemma RecomputePlan.exists_read {now : Ms} {stored : List TripRow}
    {positions : List NormalizedRecord}
    {deviceId : DeviceId} {lo hi : Ms} (scope : RecomputeScope) {span : CoreSpan}
    (hspan : coreSpan now stored deviceId lo hi = some span)
    (hcap : (selectPositions positions deviceId (span.readFrom config.thresholds)
      (span.readTo config.thresholds)).length ≤ maxRecomputeRows) :
    ∃ plan, RecomputePlan.read haversineM now stored positions deviceId lo hi scope config =
      .ok plan ∧ plan.coreTo = span.coreTo := by
  have hlen : ¬ maxRecomputeRows < ((selectPositions positions deviceId
      (span.readFrom config.thresholds) (span.readTo config.thresholds)).take
        (maxRecomputeRows + 1)).length := by
    rw [length_take]
    omega
  unfold RecomputePlan.read
  simp only [hspan, hlen, if_false]
  exact ⟨_, rfl, rfl⟩

/-- **What a job leaves of its device**: the trips it does not replace, and the rebuilt ones. -/
lemma figures_commit (h : plan.Reads haversineM config table.rows deviceId positions) :
    (plan.commit table).figures deviceId =
      {fig ∈ table.figures deviceId | ¬ plan.Touches fig} ∪ plan.rebuilt := by
  have hdevice : ∀ row ∈ plan.trips, row.deviceId = plan.deviceId := fun row hrow =>
    (h.of_mem_trips hrow).1.trans h.device.symm
  ext fig
  rw [← h.device, mem_figures_commit hdevice, Set.mem_union]
  refine or_congr_left ?_
  have hdoomed : ∀ row ∈ table.rows, row.deviceId = plan.deviceId →
      (row.id ∈ plan.doomed ∧ row.status = .closed ↔ row.status = .closed ∧
        plan.span.Holds row.startTime ∧ row.startTime ≤ plan.coreTo) := by
    intro row hrow hd
    rw [h.doomed]
    constructor
    · rintro ⟨⟨row', hrow', hid, -, hs, hspan⟩, -⟩
      obtain rfl := table.eq_of_id_eq hrow' hrow hid
      exact ⟨hs, hspan⟩
    · exact fun ⟨hs, hspan⟩ => ⟨⟨row, hrow, rfl, hd.trans h.device, hs, hspan⟩, hs⟩
  constructor
  · rintro ⟨row, hrow, hd, hnot, hstart, rfl⟩
    refine ⟨⟨row, hrow, hd, rfl⟩, ?_⟩
    rintro (hdoom | hdisp)
    · exact hnot ((hdoomed row hrow hd).2 hdoom)
    · exact hstart hdisp
  · rintro ⟨⟨row, hrow, hd, rfl⟩, hnot⟩
    exact ⟨row, hrow, hd, fun hdoom => hnot (.inl ((hdoomed row hrow hd).1 hdoom)),
      fun hdisp => hnot (.inr hdisp), rfl⟩

end Orbetra
