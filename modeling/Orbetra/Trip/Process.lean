import Orbetra.Trip.Persister

/-!
# One process, interleaved at every `await`

The persister's memory and the table are changed by four activities of one process: `apply` for the
batches of the shard's consumer, `warmStart`, `closeOrphans`, and the recompute jobs.  Each of them
runs undisturbed from one `await` to the next, and anything may happen while it waits: a call takes
effect in the database in one step, and its answer reaches the activity in another.

`Process.step` is one such step.  Which activity moves, and which calls are refused, is chosen by
the `Action`; a run is a list of them.  `apply` is given by the points it waits at; run without
interruption it is the program `TripPersister.apply` (`apply_uninterrupted`). -/

namespace Orbetra

/-! ## `apply`, point by point -/

/-- Where `apply` waits for an answer. -/
inductive ApplyPoint
  | resolveScope (ev : OpenEvent)
  | reconstruct (ev : OpenEvent) (scope : TripScope) (stale : OpenTripId)
  | closeStale (ev : OpenEvent) (scope : TripScope) (stale : OpenTripId) (tripEnd : Option TripEnd)
  | openTrip (ev : OpenEvent) (scope : TripScope)
  | resolveDriver (ev : CloseEvent) (entry : OpenTripId) (ibutton : String)
  | closeTrip (ev : CloseEvent) (entry : OpenTripId) (driverId : Option String)

def ApplyPoint.Answer : ApplyPoint → Type
  | .resolveScope _ => Option TripScope
  | .reconstruct _ _ _ => Option TripEnd
  | .closeStale _ _ _ _ => Bool
  | .openTrip _ _ => ℕ
  | .resolveDriver _ _ _ => Option String
  | .closeTrip _ _ _ => Bool

inductive ApplyState
  /-- No call is under way: the last one has returned, or thrown. -/
  | idle
  /-- A call was sent. -/
  | waiting (point : ApplyPoint) (rest : List TripEvent)
  /-- It has taken effect, and its answer is on the way. -/
  | answered (point : ApplyPoint) (answer : point.Answer) (rest : List TripEvent)

def TripPersister.next (p : TripPersister) : List TripEvent → ApplyState
  | [] => .idle
  | .opened ev :: rest => .waiting (.resolveScope ev) rest
  | .closed ev :: rest =>
    match p.openIds ev.deviceId with
    | none => p.next rest
    | some entry =>
      match ev.ibutton with
      | none => .waiting (.closeTrip ev entry none) rest
      | some key => .waiting (.resolveDriver ev entry key) rest

/-- The call takes effect. -/
def ApplyPoint.serve (src : TripSources) (table : TripTable) : (point : ApplyPoint) →
    TripTable × point.Answer
  | .resolveScope ev => (table, src.registry ev.deviceId)
  | .reconstruct ev _ stale => (table, Orbetra.reconstruct src ev.deviceId stale.startTime ev.startTime)
  | .closeStale ev _ stale tripEnd => Orbetra.closeTrip table stale.id (staleClose ev tripEnd)
  | .openTrip ev scope => Orbetra.openTrip table (ev.toOpen scope)
  | .resolveDriver _ entry key => (table, src.drivers entry.tenantId entry.accountId key)
  | .closeTrip ev entry driverId => Orbetra.closeTrip table entry.id (ev.toClose driverId)

/-- The call is refused: `apply` throws, but for the lookup of a driver. -/
def ApplyPoint.refuse (rest : List TripEvent) : ApplyPoint → ApplyState
  | .resolveDriver ev entry _ => .waiting (.closeTrip ev entry none) rest
  | _ => .idle

/-- The answer arrives: `apply` runs up to its next call. -/
def TripPersister.resume (shard : ℕ) (p : TripPersister) (rest : List TripEvent) :
    (point : ApplyPoint) → point.Answer → TripPersister × ApplyState
  | .resolveScope ev, answer =>
    match (answer : Option TripScope) with
    | none => (p, p.next rest)
    | some scope =>
      match p.openIds ev.deviceId with
      | some stale => (p, .waiting (.reconstruct ev scope stale) rest)
      | none => (p, .waiting (.openTrip ev scope) rest)
  | .reconstruct ev scope stale, tripEnd => (p, .waiting (.closeStale ev scope stale tripEnd) rest)
  | .closeStale ev scope _ _, _ => (p.deleteOpen ev.deviceId, .waiting (.openTrip ev scope) rest)
  | .openTrip ev scope, id =>
    let p := p.set ev.deviceId (ev.entry scope id) shard
    (p, p.next rest)
  | .resolveDriver ev entry _, driverId => (p, .waiting (.closeTrip ev entry driverId) rest)
  | .closeTrip ev _ _, _ =>
    let p := p.delete ev.deviceId
    (p, p.next rest)

/-! ## `warmStart` -/

/-- A row of the query of `warmStart`. -/
structure WarmRow where
  id : ℕ
  deviceId : DeviceId
  tenantId : String
  accountId : String
  startTime : Ms
  shard : ℕ
  deriving DecidableEq

def warmRows (shardOf : DeviceId → Option ℕ) (shards : List ℕ) (table : TripTable) : List WarmRow :=
  table.rows.filterMap fun row => do
    let shard ← shardOf row.deviceId
    if row.status = .running ∧ shard ∈ shards then
      some ⟨row.id, row.deviceId, row.tenantId, row.accountId, row.startTime, shard⟩
    else none

/-- `openIds.set`, `shardOf.set`, for one row. -/
def TripPersister.load (p : TripPersister) (r : WarmRow) : TripPersister :=
  p.set r.deviceId ⟨r.id, r.tenantId, r.accountId, r.startTime⟩ r.shard

/-! ## `closeOrphans` -/

/-- A row of the query of `closeOrphans`. -/
structure OrphanRow where
  id : ℕ
  deviceId : DeviceId
  startTime : Ms
  startLat : Option ℚ
  startLon : Option ℚ
  /-- The last valid fix since the start. -/
  lastFix : Option (Ms × ℚ × ℚ)
  maxSpeed : Option ℤ
  deriving DecidableEq

def fixesSince (positions : List NormalizedRecord) (deviceId : DeviceId) (start : Ms) :
    List NormalizedRecord :=
  (positions.filter fun row => row.deviceId = deviceId ∧ start ≤ row.fixTime ∧
    row.fixValid).insertionSort fun a b => a.fixTime ≤ b.fixTime

/-- An open row, with the aggregates of its positions. -/
def OrphanRow.ofRow (src : TripSources) (row : TripRow) : OrphanRow where
  id := row.id
  deviceId := row.deviceId
  startTime := row.startTime
  startLat := row.startLat
  startLon := row.startLon
  lastFix := (fixesSince src.positions row.deviceId row.startTime).getLast?.map fun last =>
    (last.fixTime, last.lat, last.lon)
  maxSpeed := ((fixesSince src.positions row.deviceId row.startTime).filterMap
    NormalizedRecord.speed).max?.map Int.floor

def orphanRows (src : TripSources) (shardOf : DeviceId → Option ℕ) (shards : List ℕ) (cutoff : Ms)
    (limit : ℕ) (table : TripTable) : List OrphanRow :=
  ((table.rows.filter fun row => row.status = .running ∧
      (shardOf row.deviceId).any (· ∈ shards)).map (OrphanRow.ofRow src)).filter (fun r =>
    (r.lastFix.map Prod.fst).getD r.startTime < cutoff) |>.take limit

/-- `tripDistanceM`. -/
def tripDistanceM (src : TripSources) (deviceId : DeviceId) (start stop : Ms) : ℤ :=
  mathRound (src.trackLength (((fixesSince src.positions deviceId start).filter fun row =>
    row.fixTime ≤ stop).map fun row => (row.lon, row.lat)))

/-- The figures an orphan is closed with. -/
def OrphanRow.toClose (r : OrphanRow) (distanceM : ℤ) : TripClose where
  endTime := (r.lastFix.map Prod.fst).getD r.startTime
  endLat := ((r.lastFix.map fun fix => fix.2.1).or r.startLat).getD 0
  endLon := ((r.lastFix.map fun fix => fix.2.2).or r.startLon).getD 0
  distanceM := distanceM
  distanceSource := .gps
  maxSpeed := r.maxSpeed.getD 0
  idleS := 0
  driverId := none

/-- What a call of `closeOrphans` is doing. -/
inductive Sweep
  /-- It waits for the distance of the first of these rows. -/
  | measuring (r : OrphanRow) (rest : List OrphanRow)
  /-- It waits for the row to be closed. -/
  | closing (r : OrphanRow) (distanceM : ℤ) (rest : List OrphanRow)
  /-- The row was closed, and the answer is on the way. -/
  | closed (r : OrphanRow) (rest : List OrphanRow)
  deriving DecidableEq

/-- Go on to the next row. -/
def Sweep.start : List OrphanRow → List Sweep
  | [] => []
  | r :: rest => [.measuring r rest]

/-- `if (this.openIds.get(r.deviceId)?.id === r.id) this.openIds.delete(r.deviceId)` -/
def TripPersister.release (p : TripPersister) (r : OrphanRow) : TripPersister :=
  if (p.openIds r.deviceId).any (·.id = r.id) then p.deleteOpen r.deviceId else p

/-! ## The process -/

/-- The table, the memory, and the activities under way. -/
structure Process where
  table : TripTable
  persister : TripPersister
  apply : ApplyState
  /-- Answers of `warmStart` queries that are on the way. -/
  warming : List (List WarmRow)
  sweeps : List Sweep
  /-- Recompute jobs that have read. -/
  plans : List RecomputePlan
  /-- The rows this process has created or loaded. -/
  own : List ℕ

def Process.boot (table : TripTable) : Process := ⟨table, .new, .idle, [], [], [], []⟩

/-- Which activity moves, and what becomes of its call. -/
inductive Action
  /-- The consumer calls `apply`. -/
  | batch (events : List TripEvent)
  | serve
  | refuse
  | resume
  /-- The query of a `warmStart` is answered. -/
  | warmQuery (shards : List ℕ)
  | warmResume (i : ℕ)
  /-- The query of a `closeOrphans` is answered and read. -/
  | sweepQuery (shards : List ℕ) (cutoff : Ms) (limit : ℕ)
  | sweepServe (i : ℕ)
  /-- A call of a sweep is refused, which ends the sweep. -/
  | sweepRefuse (i : ℕ)
  | sweepResume (i : ℕ)
  /-- A recompute job reads. -/
  | planRead (now : Ms) (deviceId : DeviceId) (lo hi : Ms) (scope : RecomputeScope)
      (config : DeviceTripConfig)
  | planCommit (i : ℕ)
  | planRollback (i : ℕ)

variable (haversineM : Haversine) (src : TripSources) (shardOf : DeviceId → Option ℕ) (shard : ℕ)

namespace Process

def applyStep (st : Process) : Action → Option Process
  | .batch events =>
    match st.apply with
    | .idle => some { st with apply := st.persister.next events }
    | _ => none
  | .serve =>
    match st.apply with
    | .waiting point rest =>
      let served := point.serve src st.table
      some { st with table := served.1, apply := .answered point served.2 rest }
    | _ => none
  | .refuse =>
    match st.apply with
    | .waiting point rest => some { st with apply := point.refuse rest }
    | _ => none
  | .resume =>
    match st.apply with
    | .answered point answer rest =>
      let resumed := st.persister.resume shard rest point answer
      let created : List ℕ := match point, answer with
        | .openTrip _ _, id => [id]
        | _, _ => []
      some { st with persister := resumed.1, apply := resumed.2, own := st.own ++ created }
    | _ => none
  | _ => none

def warmStep (st : Process) : Action → Option Process
  | .warmQuery shards => some { st with warming := st.warming ++ [warmRows shardOf shards st.table] }
  | .warmResume i => do
    let rows ← st.warming[i]?
    some { st with
      persister := rows.foldl TripPersister.load st.persister
      own := st.own ++ rows.map WarmRow.id
      warming := st.warming.eraseIdx i }
  | _ => none

def sweepStep (st : Process) : Action → Option Process
  | .sweepQuery shards cutoff limit =>
    some { st with
      sweeps := st.sweeps ++ Sweep.start (orphanRows src shardOf shards cutoff limit st.table) }
  | .sweepServe i => do
    match ← st.sweeps[i]? with
    | .measuring r rest =>
      let stop := (r.lastFix.map Prod.fst).getD r.startTime
      some { st with
        sweeps := st.sweeps.set i (.closing r (tripDistanceM src r.deviceId r.startTime stop) rest) }
    | .closing r distanceM rest =>
      some { st with
        table := (closeTrip st.table r.id (r.toClose distanceM)).1
        sweeps := st.sweeps.set i (.closed r rest) }
    | .closed _ _ => none
  | .sweepRefuse i => do
    match ← st.sweeps[i]? with
    | .closed _ _ => none
    | _ => some { st with sweeps := st.sweeps.eraseIdx i }
  | .sweepResume i => do
    match ← st.sweeps[i]? with
    | .closed r rest =>
      some { st with
        persister := st.persister.release r
        sweeps := st.sweeps.eraseIdx i ++ Sweep.start rest }
    | _ => none
  | _ => none

/-- A step of a recompute job. -/
def planStep (st : Process) : Action → Option Process
  | .planRead now deviceId lo hi scope config =>
    match RecomputePlan.read haversineM now st.table.rows src.positions deviceId lo hi scope
      config with
    | .error _ => some st
    | .ok plan => some { st with plans := st.plans ++ [plan] }
  | .planCommit i => do
    let plan ← st.plans[i]?
    some { st with table := plan.commit st.table, plans := st.plans.eraseIdx i }
  | .planRollback i => do
    let _ ← st.plans[i]?
    some { st with plans := st.plans.eraseIdx i }
  | _ => none

def step (st : Process) (act : Action) : Option Process :=
  match act with
  | .batch _ | .serve | .refuse | .resume => st.applyStep src shard act
  | .warmQuery _ | .warmResume _ => st.warmStep shardOf act
  | .sweepQuery _ _ _ | .sweepServe _ | .sweepRefuse _ | .sweepResume _ =>
    st.sweepStep src shardOf act
  | .planRead _ _ _ _ _ _ | .planCommit _ | .planRollback _ => st.planStep haversineM src act

def run (st : Process) (acts : List Action) : Option Process :=
  acts.foldlM (step haversineM src shardOf shard) st

end Process

end Orbetra
