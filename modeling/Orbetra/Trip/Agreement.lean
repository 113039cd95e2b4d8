import Orbetra.Trip.ColdStart
import Orbetra.Trip.Rebuild

/-!
# Recompute against streaming

Where the closed rows of a device are the trips that the streaming engine closed on its history, a
recompute job puts the same trips back, if the window it reads reproduces them
(`recompute_eq_streamed`).  The margin around the core span does not ensure that: a stop may be
confirmed by a record that comes later than the margin, and the cold engine may hold a candidate
across a stop that only invalid fixes show.
-/

namespace Orbetra

open List

variable {haversineM : Haversine} {config : DeviceTripConfig}

def TripTable.closedFigures (t : TripTable) (deviceId : DeviceId) : Set TripFigures :=
  {fig ∈ t.figures deviceId | fig.status = .closed}

def streamed (haversineM : Haversine) (config : DeviceTripConfig)
    (history : List NormalizedRecord) : List CloseEvent :=
  closesOf (TripEngine.new.feed haversineM (fun _ => config) history).2

variable (haversineM config) in
lemma streamed_eq {deviceId : DeviceId} {history : List NormalizedRecord}
    (hdevice : ∀ r ∈ history, r.deviceId = deviceId) (horder : InOrder history) :
    streamed haversineM config history = Phase.closes haversineM config .idle history := by
  unfold streamed Phase.closes
  rw [TripEngine.feed_new hdevice horder]

section Job

variable {now : Ms} {table : TripTable} {positions history : List NormalizedRecord}
  {deviceId : DeviceId} {lo hi : Ms} {scope : RecomputeScope} {span : CoreSpan}

lemma rebuilt_eq {plan : RecomputePlan} (hdevice : ∀ r ∈ history, r.deviceId = deviceId)
    (horder : InOrder history)
    (hpositions : positions.filter (·.deviceId = deviceId) = history)
    (hplan : plan.Reads haversineM config table.rows deviceId positions)
    (hcoreTo : plan.coreTo = plan.span.coreTo)
    (hcap : (selectPositions positions deviceId (plan.span.readFrom config.thresholds)
      (plan.span.readTo config.thresholds)).length ≤ maxRecomputeRows) (fig : TripFigures) :
    fig ∈ plan.rebuilt ↔ ∃ k ∈ Phase.closes haversineM config .idle
      (window (plan.span.readFrom config.thresholds) (plan.span.readTo config.thresholds) history),
        plan.span.Holds k.startTime ∧ k.figures = fig := by
  obtain ⟨scope, htrips⟩ := hplan.trips
  have hrows : plan.span.engineRows positions deviceId config.thresholds =
      window (plan.span.readFrom config.thresholds) (plan.span.readTo config.thresholds)
        history := by
    rw [CoreSpan.engineRows, take_of_length_le hcap, selectPositions_eq hpositions horder]
    rfl
  have hwindow : InOrder (window (plan.span.readFrom config.thresholds)
      (plan.span.readTo config.thresholds) history) := horder.filter _
  have hwindow' : ∀ r ∈ window (plan.span.readFrom config.thresholds)
      (plan.span.readTo config.thresholds) history, r.deviceId = deviceId :=
    fun r hr => hdevice r (mem_of_mem_filter hr)
  rw [hrows, replay_eq hwindow' hwindow, hcoreTo] at htrips
  simp only [RecomputePlan.rebuilt, htrips, Set.mem_ofPred_eq, mem_map, mem_filter,
    decide_eq_true_eq]
  constructor
  · rintro ⟨_, ⟨_, ⟨⟨k, hk, rfl⟩, hcore⟩, rfl⟩, rfl⟩
    exact ⟨k, hk, hcore, rfl⟩
  · rintro ⟨k, hk, hcore, rfl⟩
    exact ⟨_, ⟨_, ⟨⟨k, hk, rfl⟩, hcore⟩, rfl⟩, rfl⟩

lemma closedFigures_recompute_iff (hdevice : ∀ r ∈ history, r.deviceId = deviceId)
    (horder : InOrder history)
    (hpositions : positions.filter (·.deviceId = deviceId) = history)
    (hspan : coreSpan now table.rows deviceId lo hi = some span)
    (hcap : (selectPositions positions deviceId (span.readFrom config.thresholds)
      (span.readTo config.thresholds)).length ≤ maxRecomputeRows) :
    (recomputeTrips haversineM now table positions deviceId lo hi scope config).1.closedFigures
        deviceId = table.closedFigures deviceId ↔
      ∀ fig : TripFigures, span.Holds fig.startTime →
        ((∃ k ∈ Phase.closes haversineM config .idle
            (window (span.readFrom config.thresholds) (span.readTo config.thresholds) history),
          k.figures = fig) ↔ fig ∈ table.closedFigures deviceId) := by
  obtain ⟨plan, hread, hcoreTo⟩ := RecomputePlan.exists_read haversineM scope hspan hcap
  obtain ⟨hspan', hplan⟩ := RecomputePlan.read_reads hread
  obtain rfl : span = plan.span := Option.some.inj (hspan.symm.trans hspan')
  have hrebuilt := rebuilt_eq hdevice horder hpositions hplan hcoreTo hcap
  have htable : (recomputeTrips haversineM now table positions deviceId lo hi scope config).1 =
      plan.commit table := by
    simp [recomputeTrips, hread]
  have htouches : ∀ fig : TripFigures, fig.status = .closed →
      (plan.Touches fig ↔ plan.span.Holds fig.startTime) := by
    intro fig hclosed
    constructor
    · rintro (⟨-, hcore, -⟩ | hstart)
      · exact hcore
      · obtain ⟨row, hrow, hrow'⟩ := mem_map.1 hstart
        obtain ⟨k, -, hcore, hk⟩ := (hrebuilt row.figures).1 ⟨row, hrow, rfl⟩
        have : k.startTime = fig.startTime := (congrArg TripFigures.startTime hk).trans hrow'
        exact this ▸ hcore
    · exact fun hcore => .inl ⟨hclosed, hcore, hcoreTo ▸ hcore.2⟩
  have hafter : ∀ fig, fig ∈ (plan.commit table).closedFigures deviceId ↔
      (fig ∈ table.closedFigures deviceId ∧ ¬ plan.span.Holds fig.startTime) ∨
        ∃ k ∈ Phase.closes haversineM config .idle (window (plan.span.readFrom config.thresholds)
          (plan.span.readTo config.thresholds) history),
            plan.span.Holds k.startTime ∧ k.figures = fig := by
    intro fig
    simp only [TripTable.closedFigures, Set.mem_ofPred_eq, figures_commit hplan, Set.mem_union,
      hrebuilt]
    constructor
    · rintro ⟨⟨hfig, hnot⟩ | hk, hclosed⟩
      · exact .inl ⟨⟨hfig, hclosed⟩, fun h => hnot ((htouches fig hclosed).2 h)⟩
      · exact .inr hk
    · rintro (⟨⟨hfig, hclosed⟩, hnot⟩ | ⟨k, hk, hcore, rfl⟩)
      · exact ⟨.inl ⟨hfig, fun h => hnot ((htouches fig hclosed).1 h)⟩, hclosed⟩
      · exact ⟨.inr ⟨k, hk, hcore, rfl⟩, rfl⟩
  rw [htable]
  constructor
  · intro heq fig hcore
    rw [← heq, hafter]
    constructor
    · rintro ⟨k, hk, rfl⟩
      exact .inr ⟨k, hk, hcore, rfl⟩
    · rintro (⟨-, hnot⟩ | ⟨k, hk, -, rfl⟩)
      · exact absurd hcore hnot
      · exact ⟨k, hk, rfl⟩
  · intro h
    ext fig
    rw [hafter]
    by_cases hcore : plan.span.Holds fig.startTime
    · rw [← h fig hcore]
      constructor
      · rintro (⟨-, hnot⟩ | ⟨k, hk, -, rfl⟩)
        · exact absurd hcore hnot
        · exact ⟨k, hk, rfl⟩
      · rintro ⟨k, hk, rfl⟩
        exact .inr ⟨k, hk, hcore, rfl⟩
    · constructor
      · rintro (⟨hfig, -⟩ | ⟨k, -, hk, rfl⟩)
        · exact hfig
        · exact absurd hk hcore
      · exact fun hfig => .inl ⟨hfig, hcore⟩

/-! ## The core span -/

lemma mem_overlapping {rows : List TripRow} {row : TripRow} :
    row ∈ overlapping rows deviceId lo hi ↔ row ∈ rows ∧ row.deviceId = deviceId ∧
      row.status = .closed ∧ row.startTime ≤ hi ∧ lo ≤ row.lastTime := by
  simp [overlapping]

variable (deviceId lo hi) in
lemma rawCoreFrom_spec (rows : List TripRow) :
    rawCoreFrom rows deviceId lo hi ≤ lo ∧
      (∀ row ∈ overlapping rows deviceId lo hi, rawCoreFrom rows deviceId lo hi ≤ row.startTime) ∧
      (rawCoreFrom rows deviceId lo hi = lo ∨ ∃ row ∈ overlapping rows deviceId lo hi,
        row.startTime = rawCoreFrom rows deviceId lo hi) := by
  unfold rawCoreFrom
  cases hmin : ((overlapping rows deviceId lo hi).map TripRow.startTime).min? with
  | none =>
    have hnil : overlapping rows deviceId lo hi = [] := by simpa using hmin
    simp [hnil]
  | some first =>
    obtain ⟨hmem, hle⟩ := min?_eq_some_iff.1 hmin
    obtain ⟨row, hrow, rfl⟩ := mem_map.1 hmem
    have hle' : ∀ row' ∈ overlapping rows deviceId lo hi, row.startTime ≤ row'.startTime :=
      fun row' hrow' => hle _ (mem_map_of_mem hrow')
    dsimp only
    split
    · rename_i hlt
      exact ⟨hlt.le, hle', .inr ⟨row, hrow, rfl⟩⟩
    · rename_i hge
      exact ⟨le_rfl, fun row' hrow' => (not_lt.1 hge).trans (hle' row' hrow'), .inl rfl⟩

lemma coreFrom_eq (hspan : coreSpan now table.rows deviceId lo hi = some span)
    (hwhole : span.truncated = false) :
    span.coreFrom = rawCoreFrom table.rows deviceId lo hi := by
  unfold coreSpan at hspan
  dsimp only at hspan
  split at hspan
  · simp at hspan
  · cases hspan
    simp only at hwhole ⊢
    simp only [hwhole, Bool.false_eq_true, if_false]

lemma exists_row_of_closes (hrows : table.closedFigures deviceId =
      {fig | ∃ k ∈ streamed haversineM config history, k.figures = fig}) {k : CloseEvent}
    (hk : k ∈ streamed haversineM config history) :
    ∃ row ∈ table.rows, row.deviceId = deviceId ∧ row.status = .closed ∧
      row.startTime = k.startTime ∧ row.lastTime = k.endTime := by
  have hmem : k.figures ∈ table.closedFigures deviceId := by
    rw [hrows]
    exact ⟨k, hk, rfl⟩
  obtain ⟨⟨row, hrow, hd, hfig⟩, -⟩ := hmem
  refine ⟨row, hrow, hd, congrArg TripFigures.status hfig, congrArg TripFigures.startTime hfig, ?_⟩
  have hend : row.endTime = some k.endTime := congrArg TripFigures.endTime hfig
  simp [TripRow.lastTime, hend]

lemma mem_streamed_of_window (hdevice : ∀ r ∈ history, r.deviceId = deviceId)
    (horder : InOrder history) (huntied : Untied config history) (hle : lo ≤ hi)
    (hrows : table.closedFigures deviceId =
      {fig | ∃ k ∈ streamed haversineM config history, k.figures = fig})
    (hspan : coreSpan now table.rows deviceId lo hi = some span)
    (hwhole : span.truncated = false)
    (hrep : Reproduces haversineM config history (span.readFrom config.thresholds)
      (span.readTo config.thresholds) span.coreFrom span.coreTo) {k' : CloseEvent}
    (hk' : k' ∈ Phase.closes haversineM config .idle
      (window (span.readFrom config.thresholds) (span.readTo config.thresholds) history))
    (hcore : span.Holds k'.startTime) :
    k' ∈ Phase.closes haversineM config .idle history := by
  have hfrom := span.readFrom_le config.thresholds
  have hto := span.le_readTo config.thresholds
  have hstreamed := streamed_eq haversineM config hdevice horder
  obtain ⟨k, hk, rfl | ⟨hbegan, hended⟩⟩ := accounted_window horder hk'
  · exact hk
  have hk₂ : k.startTime ≤ span.coreTo := hbegan.trans hcore.2
  rcases le_or_gt span.coreFrom k.startTime with hk₁ | hk₁
  · exact hrep.of_within horder huntied hfrom hto hk hk₁ hk₂ hk' hbegan
  -- `k` starts before the span and ends in it: the window does not touch it
  exfalso
  obtain ⟨hraw, hfirst, hedge⟩ := rawCoreFrom_spec deviceId lo hi table.rows
  rw [← coreFrom_eq hspan hwhole] at hraw hfirst hedge
  obtain ⟨row, hrow, hd, hclosed, hstart, hlast⟩ :=
    exists_row_of_closes hrows (by rw [hstreamed]; exact hk)
  have hbefore : k.endTime < lo := by
    by_contra hno
    have := hfirst row (mem_overlapping.2 ⟨hrow, hd, hclosed,
      hstart.trans_le (hk₁.le.trans (hraw.trans hle)), hlast ▸ not_lt.1 hno⟩)
    exact absurd hk₁ (not_lt.2 (hstart ▸ this))
  have hlt : span.coreFrom < lo := (hcore.1.trans hended).trans_lt hbefore
  -- so the span starts with a trip of its own, and `k` was closed before that trip began
  obtain ⟨row₁, hrow₁, hstart₁⟩ := hedge.resolve_left hlt.ne
  obtain ⟨hrow₁, hd₁, hclosed₁, -, -⟩ := mem_overlapping.1 hrow₁
  have hfig₁ : row₁.figures ∈ table.closedFigures deviceId := ⟨⟨row₁, hrow₁, hd₁, rfl⟩, hclosed₁⟩
  rw [hrows, hstreamed] at hfig₁
  obtain ⟨k₁, hk₁', hfig₁⟩ := hfig₁
  have hk₁start : k₁.startTime = span.coreFrom :=
    (congrArg TripFigures.startTime hfig₁).trans hstart₁
  obtain ⟨before, r, after, hbegins⟩ := exists_begins hk₁'
  have hr : r.fixTime = span.coreFrom := hbegins.startTime.symm.trans hk₁start
  have hclosedBefore : k ∈ Phase.closes haversineM config .idle before := by
    have hsplit := hbegins.split
    subst hsplit
    rw [Phase.closes_append, hbegins.idle] at hk
    refine (mem_append.1 hk).resolve_right fun hk => ?_
    obtain ⟨before', r', after', hbegins'⟩ := exists_begins hk
    have hmem : r' ∈ r :: after := by rw [hbegins'.split]; simp
    have hrr' : r.fixTime ≤ r'.fixTime := by
      rcases mem_cons.1 hmem with rfl | hmem
      · exact le_rfl
      · exact (pairwise_cons.1 (pairwise_append.1 horder).2.1).1 r' hmem
    exact absurd hk₁ (not_lt.2 (hr ▸ hbegins'.startTime ▸ hrr'))
  have hend := closes_before (hbegins.split ▸ horder) (hbegins.split ▸ huntied)
    (Sublist.refl before) hclosedBefore
  exact absurd (hend.trans_le (hr.le.trans hcore.1)) (not_lt.2 hended)

end Job

/-! ## A stop that is confirmed late -/

lemma closedFigures_eq (t : TripTable) (deviceId : DeviceId) :
    t.closedFigures deviceId = {fig | fig ∈ (t.rows.filter fun row =>
      row.deviceId = deviceId ∧ row.status = .closed).map TripRow.figures} := by
  ext fig
  simp only [TripTable.closedFigures, TripTable.figures, Set.mem_ofPred_eq, mem_map,
    mem_filter, decide_eq_true_eq]
  constructor
  · rintro ⟨⟨row, hrow, hd, rfl⟩, hclosed⟩
    exact ⟨row, ⟨hrow, hd, hclosed⟩, rfl⟩
  · rintro ⟨row, ⟨hrow, hd, hclosed⟩, rfl⟩
    exact ⟨⟨row, hrow, hd, rfl⟩, hclosed⟩

/-- The vehicle drives, the ignition goes off, and the tracker reports again an hour later. -/
def lateConfirmation : List NormalizedRecord :=
  [sampleRecord 0 true, sampleRecord 100000 true, sampleRecord 200000 false,
    sampleRecord 3800000 false]

/-- The trips of the example as the streaming persister stored them. -/
def storedTrips : TripTable :=
  ((streamed onTheSpot defaultConfig lateConfirmation).map
    (CloseEvent.row ⟨"tenant", "account"⟩ 1)).foldl TripTable.insert .empty

/-- The job for the window up to `tripTime + hi`. -/
def storedTripsAfter (hi : Ms) : TripTable :=
  (recomputeTrips onTheSpot (tripTime + 4000000) storedTrips lateConfirmation 1 tripTime
    (tripTime + hi) ⟨"tenant", "account"⟩ defaultConfig).1

lemma storedTrips_closedFigures : storedTrips.closedFigures 1 =
    {fig | ∃ k ∈ streamed onTheSpot defaultConfig lateConfirmation, k.figures = fig} := by
  have hlist : (storedTrips.rows.filter fun row =>
      row.deviceId = 1 ∧ row.status = .closed).map TripRow.figures =
        (streamed onTheSpot defaultConfig lateConfirmation).map CloseEvent.figures := by
    decide +kernel
  rw [closedFigures_eq, hlist]
  simp only [mem_map]

end Orbetra
