import Orbetra.Trip.Run
import Orbetra.Trip.Table

/-!
# The recompute of trips from positions

`recomputeTrips` rebuilds the closed trips of one device in a window from the rows of `positions`: a
new engine is fed the window, widened to whole trips and padded by a margin, and the closed rows
that start in the widened window are replaced by what the engine closed there.

The job has a part that reads and a part that writes, and they are separate here because other
writers may come between them: `RecomputePlan.read` is everything up to `BEGIN`, and
`RecomputePlan.commit` is the transaction.
-/

namespace Orbetra

def positionsRetentionMs : Ms := 13 * 30 * 24 * 3600 * 1000

def maxRecomputeWindowMs : Ms := 14 * 24 * 3600 * 1000

def maxRecomputeRows : ℕ := 200000

structure RecomputeScope where
  tenantId : String
  accountId : String
  deriving DecidableEq

inductive RecomputeSkipped
  | belowRetention
  | tooManyPositions
  deriving DecidableEq

structure RecomputeResult where
  deleted : ℕ
  created : ℕ
  skipped : Option RecomputeSkipped
  truncated : Bool
  deriving DecidableEq

/-- `new Date(x)`: a time is cut to whole milliseconds. -/
def newDate (x : ℚ) : Ms := if 0 ≤ x then ⌊x⌋ else ⌈x⌉

/-- `toRecord`: a row of `positions` as the engine is fed it, without its attributes. -/
def toEngineRecord (deviceId : DeviceId) (row : NormalizedRecord) : NormalizedRecord :=
  { row with deviceId := deviceId, priority := 0, recHash := 0, attrs := [] }

def overlapping (rows : List TripRow) (deviceId : DeviceId) (lo hi : Ms) : List TripRow :=
  rows.filter fun row => row.deviceId = deviceId ∧ row.status = .closed ∧ row.startTime ≤ hi ∧
    lo ≤ row.lastTime

/-- The span a job replaces, `[coreFrom, coreTo]`. -/
structure CoreSpan where
  coreFrom : Ms
  coreTo : Ms
  truncated : Bool
  deriving DecidableEq

/-- `rawCoreFrom`: the window starts where the first trip it touches starts. -/
def rawCoreFrom (rows : List TripRow) (deviceId : DeviceId) (lo hi : Ms) : Ms :=
  match ((overlapping rows deviceId lo hi).map TripRow.startTime).min? with
  | some first => if first < lo then first else lo
  | none => lo

/-- `coreTo`: the window ends where the last trip it touches ends. -/
def rawCoreTo (rows : List TripRow) (deviceId : DeviceId) (lo hi : Ms) : Ms :=
  match ((overlapping rows deviceId lo hi).map TripRow.lastTime).max? with
  | some last => if hi < last then last else hi
  | none => hi

/-- The core span: the window widened to whole trips, above both floors.  `none` where the window
lies below the retention horizon. -/
def coreSpan (now : Ms) (rows : List TripRow) (deviceId : DeviceId) (lo hi : Ms) :
    Option CoreSpan :=
  let retentionFloor := now - positionsRetentionMs
  let coreTo := rawCoreTo rows deviceId lo hi
  if coreTo ≤ retentionFloor then none
  else
    let widthFloor := coreTo - maxRecomputeWindowMs
    let floor := if retentionFloor < widthFloor then widthFloor else retentionFloor
    let raw := rawCoreFrom rows deviceId lo hi
    let truncated : Bool := raw < floor
    some ⟨if truncated then floor else raw, coreTo, truncated⟩

def marginMs (t : TripThresholds) : ℚ := (max t.parkedIgnitionOffS t.parkedStopS + 120) * 1000

/-- `readFrom`. -/
def CoreSpan.readFrom (span : CoreSpan) (t : TripThresholds) : Ms :=
  newDate (span.coreFrom - marginMs t)

/-- `readTo`. -/
def CoreSpan.readTo (span : CoreSpan) (t : TripThresholds) : Ms :=
  newDate (span.coreTo + marginMs t)

/-- The rows of `positions` of the device in a time range, in the order of their fix times. -/
def selectPositions (positions : List NormalizedRecord) (deviceId : DeviceId) (lo hi : Ms) :
    List NormalizedRecord :=
  (positions.filter fun row =>
    row.deviceId = deviceId ∧ lo ≤ row.fixTime ∧ row.fixTime ≤ hi).insertionSort
      fun a b => a.fixTime ≤ b.fixTime

variable (haversineM : Haversine)

/-- What a new engine closes on rows of `positions`. -/
def replay (config : DeviceTripConfig) (deviceId : DeviceId) (rows : List NormalizedRecord) :
    List CloseEvent :=
  closesOf (TripEngine.new.feed haversineM (fun _ => config) (rows.map (toEngineRecord deviceId))).2

def CloseEvent.row (scope : RecomputeScope) (deviceId : DeviceId) (ev : CloseEvent) : TripRow where
  id := 0
  tenantId := scope.tenantId
  accountId := scope.accountId
  deviceId := deviceId
  status := .closed
  startTime := ev.startTime
  endTime := some ev.endTime
  startLat := some ev.startLat
  startLon := some ev.startLon
  endLat := some ev.endLat
  endLon := some ev.endLon
  distanceM := clampInt4 ev.distanceM
  distanceSource := ev.distanceSource
  maxSpeed := clampInt4 ev.maxSpeed
  idleS := clampInt4 ev.idleS
  driverId := none

/-- What a job knows when it begins its transaction. -/
structure RecomputePlan where
  deviceId : DeviceId
  span : CoreSpan
  /-- The end of the rebuilt span: `span.coreTo`, pulled back where the read hit the row cap. -/
  coreTo : Ms
  /-- The closed rows the job means to replace. -/
  doomed : List ℕ
  /-- The rebuilt trips. -/
  trips : List TripRow
  rowCapped : Bool

def RecomputePlan.read (now : Ms) (stored : List TripRow) (positions : List NormalizedRecord)
    (deviceId : DeviceId) (lo hi : Ms) (scope : RecomputeScope) (config : DeviceTripConfig) :
    Except RecomputeSkipped RecomputePlan :=
  match coreSpan now stored deviceId lo hi with
  | none => .error .belowRetention
  | some span =>
    let t := config.thresholds
    let existing := stored.filter fun row => row.deviceId = deviceId ∧ row.status = .closed ∧
      span.coreFrom ≤ row.startTime ∧ row.startTime ≤ span.coreTo
    let rows := (selectPositions positions deviceId (span.readFrom t) (span.readTo t)).take
      (maxRecomputeRows + 1)
    let build (rows : List NormalizedRecord) (coreTo : Ms) (rowCapped : Bool) : RecomputePlan :=
      { deviceId := deviceId
        span := span
        coreTo := coreTo
        doomed := (existing.filter fun row => row.startTime ≤ coreTo).map TripRow.id
        trips := ((replay haversineM config deviceId rows).filter fun ev =>
          span.coreFrom ≤ ev.startTime ∧ ev.startTime ≤ coreTo).map (CloseEvent.row scope deviceId)
        rowCapped := rowCapped }
    if maxRecomputeRows < rows.length then
      let rows := rows.take maxRecomputeRows
      let lastRead := (rows.getLast?.map NormalizedRecord.fixTime).getD 0
      let clampedCoreTo := newDate (lastRead - marginMs t)
      if clampedCoreTo ≤ span.coreFrom then .error .tooManyPositions
      else .ok (build rows clampedCoreTo true)
    else .ok (build rows span.coreTo false)

def carryDriver (deviceId : DeviceId) (table : TripTable) (old : TripRow) : TripTable :=
  table.update
    (fun row => row.deviceId = deviceId ∧ row.status = .closed ∧ row.driverId = none ∧
      old.startTime ≤ row.startTime ∧ row.startTime ≤ old.lastTime)
    fun row => { row with driverId := old.driverId }

/-- The transaction: delete the rows to be replaced, insert the rebuilt ones, displace whatever else
starts where they start, and carry the drivers over. -/
def RecomputePlan.commit (plan : RecomputePlan) (table : TripTable) : TripTable :=
  let oldDrivers := (table.rows.filter fun row => row.deviceId = plan.deviceId ∧
    row.status = .closed ∧ plan.span.coreFrom ≤ row.startTime ∧
    row.startTime ≤ plan.coreTo ∧ row.driverId.isSome).insertionSort
      fun a b => a.startTime ≤ b.startTime
  let deleted := table.delete fun row => row.id ∈ plan.doomed ∧ row.deviceId = plan.deviceId ∧
    row.status = .closed
  let rebuilt := plan.trips.foldl TripTable.insert deleted
  let inserted := List.range' deleted.nextId plan.trips.length
  let displaced := rebuilt.delete fun row => row.deviceId = plan.deviceId ∧
    row.startTime ∈ plan.trips.map TripRow.startTime ∧ row.id ∉ inserted
  oldDrivers.foldl (carryDriver plan.deviceId) displaced

/-- What a committed job reports. -/
def RecomputePlan.result (plan : RecomputePlan) (table : TripTable) : RecomputeResult where
  deleted := table.rows.length + plan.trips.length - (plan.commit table).rows.length
  created := plan.trips.length
  skipped := none
  truncated := plan.span.truncated || plan.rowCapped

/-- `recomputeTrips`, run without interruption. -/
def recomputeTrips (now : Ms) (table : TripTable) (positions : List NormalizedRecord)
    (deviceId : DeviceId) (lo hi : Ms) (scope : RecomputeScope) (config : DeviceTripConfig) :
    TripTable × RecomputeResult :=
  match RecomputePlan.read haversineM now table.rows positions deviceId lo hi scope config with
  | .error reason => (table, ⟨0, 0, some reason, false⟩)
  | .ok plan => (plan.commit table, plan.result table)

end Orbetra
