import Orbetra.Framework.Transducer
import Orbetra.Records

/-!
# The trip state machine

`TripEngine` reads the records of many devices in the order they are fed and emits an event when a
trip opens and when it closes.  It is driven by `fixTime` alone.

A device is parked, perhaps with a candidate that may become a trip, or moving on an open trip;
`Phase` has exactly these cases, so that the fields `phase`, `cand` and `trip` of the source cannot
disagree.  `Phase.step` is what one applied record does under a given configuration;
`DeviceState.step` adds what decides whether a record is applied at all: a device clock that runs
ahead, or a `fixTime` older than the newest one seen.

The great-circle distance is a parameter: nothing here depends on its formula, only on its sign,
which is part of its type.
-/

namespace Orbetra

/-! ## Drivers -/

/-- The white space that `String.prototype.trim` removes. -/
def isJsSpace (c : Char) : Bool :=
  let n := c.toNat
  (9 ≤ n && n ≤ 13) || n = 0x20 || n = 0xa0 || n = 0x1680 || (0x2000 ≤ n && n ≤ 0x200a) ||
    n = 0x2028 || n = 0x2029 || n = 0x202f || n = 0x205f || n = 0x3000 || n = 0xfeff

/-- The decimal number a run of digits denotes. -/
def digitsValue (digits : List Char) : ℕ :=
  digits.foldl (fun n c => 10 * n + (c.toNat - '0'.toNat)) 0

/-- `ibuttonKeyFromAvl`: the canonical decimal key of a tapped iButton; zero means that no key is
attached. -/
def ibuttonKeyFromAvl : Option AttrValue → Option String
  | none => none
  | some (.num v) =>
    -- a number of 1e21 or more prints with an exponent, and is refused
    if v.den = 1 ∧ 0 < v.num ∧ v.num < 10 ^ 21 then some (toString v.num) else none
  | some (.str s) =>
    let digits := ((s.toList.dropWhile isJsSpace).reverse.dropWhile isJsSpace).reverse
    if digits ≠ [] ∧ digits.all (·.isDigit) ∧ digitsValue digits ≠ 0 then
      some (toString (digitsValue digits))
    else none

/-- `recordIbutton`: the tap a record carries, under any of the names the device tables give it. -/
def recordIbutton (r : NormalizedRecord) : Option String :=
  ibuttonKeyFromAvl ((r.attr "iButton").or ((r.attr "iButton ID").or ((r.attr "IButton ID").or
    (r.attr "io_78"))))

/-! ## Configuration and events -/

/-- `TripThresholds`.  A rule that is not a finite, non-negative number never becomes a threshold.
-/
structure TripThresholds where
  moveSpeedKmh : ℚ≥0
  movingSustainS : ℚ≥0
  movingDisplaceM : ℚ≥0
  parkedIgnitionOffS : ℚ≥0
  idleSpeedKmh : ℚ≥0
  idleSustainS : ℚ≥0
  noIgnition : Bool
  parkedDisplaceM : ℚ≥0
  parkedStopS : ℚ≥0
  deriving DecidableEq

def defaultThresholds : TripThresholds where
  moveSpeedKmh := 6
  movingSustainS := 90
  movingDisplaceM := 300
  parkedIgnitionOffS := 180
  idleSpeedKmh := 3
  idleSustainS := 120
  noIgnition := false
  parkedDisplaceM := 100
  parkedStopS := 300

/-- Which distance a closed trip reports. -/
inductive OdometerSource
  | auto
  | device
  | gps
  deriving DecidableEq

structure DeviceTripConfig where
  thresholds : TripThresholds
  odometerSource : OdometerSource
  deriving DecidableEq

def defaultConfig : DeviceTripConfig := ⟨defaultThresholds, .auto⟩

/-- A value of a parsed JSON document, as far as the configuration tells values apart. -/
inductive JsonValue
  | number (v : ℚ)
  | bool (b : Bool)
  | string (s : String)
  | other
  deriving DecidableEq

/-- `num`: a finite, non-negative number, or the fallback. -/
def num (v : Option JsonValue) (fallback : ℚ≥0) : ℚ≥0 :=
  match v with
  | some (.number q) => if h : 0 ≤ q then ⟨q, h⟩ else fallback
  | _ => fallback

def thresholdsFromRules (rules : String → Option JsonValue) : TripThresholds where
  moveSpeedKmh := num (rules "moveSpeedKmh") defaultThresholds.moveSpeedKmh
  movingSustainS := num (rules "movingSustainS") defaultThresholds.movingSustainS
  movingDisplaceM := num (rules "movingDisplaceM") defaultThresholds.movingDisplaceM
  parkedIgnitionOffS := num (rules "parkedIgnitionOffS") defaultThresholds.parkedIgnitionOffS
  idleSpeedKmh := num (rules "idleSpeedKmh") defaultThresholds.idleSpeedKmh
  idleSustainS := num (rules "idleSustainS") defaultThresholds.idleSustainS
  noIgnition := rules "noIgnition" = some (.bool true)
  parkedDisplaceM := num (rules "parkedDisplaceM") defaultThresholds.parkedDisplaceM
  parkedStopS := num (rules "parkedStopS") defaultThresholds.parkedStopS

/-- `asOdometerSource`. -/
def asOdometerSource (s : Option JsonValue) : OdometerSource :=
  match s with
  | some (.string "device") => .device
  | some (.string "gps") => .gps
  | _ => .auto

def deviceTripConfig (presenceRules : String → Option JsonValue)
    (odometerSource : Option JsonValue) : DeviceTripConfig :=
  ⟨thresholdsFromRules presenceRules, asOdometerSource odometerSource⟩

/-- Where the distance of a closed trip came from. -/
inductive DistanceSource
  | gps
  | odometer
  deriving DecidableEq

/-- `OpenEvent`. -/
structure OpenEvent where
  deviceId : DeviceId
  startTime : Ms
  startLat : ℚ
  startLon : ℚ
  deriving DecidableEq

structure CloseEvent where
  deviceId : DeviceId
  startTime : Ms
  endTime : Ms
  startLat : ℚ
  startLon : ℚ
  endLat : ℚ
  endLon : ℚ
  distanceM : ℤ
  distanceSource : DistanceSource
  maxSpeed : ℤ
  idleS : ℤ
  ibutton : Option String
  deriving DecidableEq

/-- `TripEvent`. -/
inductive TripEvent
  | opened (e : OpenEvent)
  | closed (e : CloseEvent)
  deriving DecidableEq

def secs (a b : Ms) : ℚ := (a - b : ℤ) / 1000

def mathRound (x : ℚ) : ℤ := ⌊x + 1 / 2⌋

/-! ## Candidates and open trips -/

/-- `Candidate`: a movement that has not lasted long enough to be a trip. -/
structure Candidate where
  startTime : Ms
  startLat : ℚ
  startLon : ℚ
  startOdo : Option ℤ
  lastLat : ℚ
  lastLon : ℚ
  dispM : ℚ
  maxSpeed : ℚ
  ibutton : Option String
  deriving DecidableEq

/-- `OpenTrip`. -/
structure OpenTrip where
  startTime : Ms
  startLat : ℚ
  startLon : ℚ
  lastLat : ℚ
  lastLon : ℚ
  lastTime : Ms
  haversineM : ℚ
  odoStart : Option ℤ
  odoLast : Option ℤ
  odoBroken : Bool
  maxSpeed : ℚ
  idleS : ℤ
  idleSince : Option Ms
  stopSince : Option Ms
  ibutton : Option String
  deriving DecidableEq

/-- What the engine knows of a device between records. -/
inductive Phase
  /-- `phase: 'parked'` with `cand`. -/
  | parked (cand : Option Candidate)
  /-- `phase: 'moving'` with `trip`. -/
  | moving (trip : OpenTrip)
  deriving DecidableEq

/-- Parked, without a candidate. -/
abbrev Phase.idle : Phase := .parked none

/-- The great-circle distance in metres between two positions. -/
abbrev Haversine := ℚ → ℚ → ℚ → ℚ → ℚ≥0

variable (haversineM : Haversine)

def NormalizedRecord.speedOr0 (r : NormalizedRecord) : ℚ := r.speed.getD 0

/-- The condition that starts and extends a candidate. -/
def TripThresholds.moving (t : TripThresholds) (r : NormalizedRecord) : Bool :=
  if t.noIgnition then t.moveSpeedKmh < r.speedOr0
  else r.ignition = some true ∧ (r.movement = some true ∨ t.moveSpeedKmh < r.speedOr0)

/-- How long a stop lasts before it closes the trip. -/
def TripThresholds.stopThreshold (t : TripThresholds) : ℚ≥0 :=
  if t.noIgnition then t.parkedStopS else t.parkedIgnitionOffS

def Candidate.start (r : NormalizedRecord) : Candidate where
  startTime := r.fixTime
  startLat := r.lat
  startLon := r.lon
  startOdo := r.odometerM
  lastLat := r.lat
  lastLon := r.lon
  dispM := 0
  maxSpeed := r.speedOr0
  ibutton := recordIbutton r

def Candidate.extend (c : Candidate) (r : NormalizedRecord) : Candidate :=
  { c with
    dispM := c.dispM + haversineM c.lastLat c.lastLon r.lat r.lon
    lastLat := r.lat
    lastLon := r.lon
    maxSpeed := if c.maxSpeed < r.speedOr0 then r.speedOr0 else c.maxSpeed
    ibutton := (recordIbutton r).or c.ibutton }

/-- The candidate has lasted long enough, or gone far enough. -/
def Candidate.sustained (t : TripThresholds) (c : Candidate) (r : NormalizedRecord) : Bool :=
  t.movingSustainS ≤ secs r.fixTime c.startTime ∨ t.movingDisplaceM ≤ c.dispM

/-- `c.startOdo !== null && r.odometerM !== null && r.odometerM >= c.startOdo` -/
def odoMonotonic (start now : Option ℤ) : Bool :=
  match start, now with
  | some a, some b => a ≤ b
  | _, _ => false

def OpenTrip.ofCandidate (c : Candidate) (r : NormalizedRecord) : OpenTrip where
  startTime := c.startTime
  startLat := c.startLat
  startLon := c.startLon
  lastLat := r.lat
  lastLon := r.lon
  lastTime := r.fixTime
  haversineM := c.dispM
  odoStart := c.startOdo
  odoLast := r.odometerM
  odoBroken := !odoMonotonic c.startOdo r.odometerM
  maxSpeed := max c.maxSpeed r.speedOr0
  idleS := 0
  idleSince := none
  stopSince := none
  ibutton := c.ibutton.or (recordIbutton r)

def OpenTrip.accumulate (trip : OpenTrip) (r : NormalizedRecord) : OpenTrip :=
  { trip with
    haversineM := trip.haversineM + haversineM trip.lastLat trip.lastLon r.lat r.lon
    odoBroken := trip.odoBroken || !odoMonotonic trip.odoLast r.odometerM
    odoLast := r.odometerM.or trip.odoLast
    maxSpeed := if trip.maxSpeed < r.speedOr0 then r.speedOr0 else trip.maxSpeed
    lastLat := r.lat
    lastLon := r.lon
    lastTime := r.fixTime
    ibutton := (recordIbutton r).or trip.ibutton }

def OpenTrip.flushIdle (trip : OpenTrip) (now : Ms) (idleSustainS : ℚ≥0) : OpenTrip :=
  match trip.idleSince with
  | none => trip
  | some since =>
    let dur := secs now since
    { trip with
      idleS := if idleSustainS ≤ dur then trip.idleS + mathRound dur else trip.idleS
      idleSince := none }

def maxPlausibleSpeedMs : ℚ := 55

def minOdoCeilingM : ℚ := 50000

def OpenTrip.close (config : DeviceTripConfig) (deviceId : DeviceId) (trip : OpenTrip)
    (endTime : Ms) : CloseEvent :=
  let trip := trip.flushIdle endTime config.thresholds.idleSustainS
  let odoDelta : Option ℤ := trip.odoLast.bind fun last => trip.odoStart.map fun start => last - start
  let durationS := max 0 (secs endTime trip.startTime)
  let odoCeilingM := max minOdoCeilingM (durationS * maxPlausibleSpeedMs)
  let useOdo : Option ℤ := odoDelta.filter fun delta =>
    config.odometerSource ≠ .gps ∧ 0 ≤ delta ∧
      (config.odometerSource = .device ∨ trip.odoBroken = false) ∧ (delta : ℚ) ≤ odoCeilingM
  { deviceId := deviceId
    startTime := trip.startTime
    endTime := endTime
    startLat := trip.startLat
    startLon := trip.startLon
    endLat := trip.lastLat
    endLon := trip.lastLon
    distanceM := useOdo.getD (mathRound trip.haversineM)
    distanceSource := if useOdo.isSome then .odometer else .gps
    maxSpeed := mathRound trip.maxSpeed
    idleS := trip.idleS
    ibutton := trip.ibutton }

/-! ## One record -/

/-- The stop timer of a trip at a record that shows the vehicle stopped: it starts, and closes the
trip when it has run long enough. -/
def OpenTrip.stopAt (config : DeviceTripConfig) (threshold : ℚ≥0) (trip : OpenTrip)
    (r : NormalizedRecord) : Phase × List TripEvent :=
  let since := trip.stopSince.getD r.fixTime
  if threshold ≤ secs r.fixTime since then
    (.idle, [.closed (trip.close config r.deviceId since)])
  else (.moving { trip with stopSince := some since }, [])

/-- A valid fix while parked. -/
def Phase.parkedStep (config : DeviceTripConfig) (cand : Option Candidate) (r : NormalizedRecord) :
    Phase × List TripEvent :=
  let t := config.thresholds
  if t.moving r then
    let c := match cand with
      | none => Candidate.start r
      | some c => c.extend haversineM r
    if c.sustained t r then
      (.moving (.ofCandidate c r), [.opened ⟨r.deviceId, c.startTime, c.startLat, c.startLon⟩])
    else (.parked (some c), [])
  else (.idle, [])

/-- A valid fix while moving. -/
def Phase.movingStep (config : DeviceTripConfig) (trip : OpenTrip) (r : NormalizedRecord) :
    Phase × List TripEvent :=
  let t := config.thresholds
  let speed := r.speedOr0
  let stepM := haversineM trip.lastLat trip.lastLon r.lat r.lon
  let trip := trip.accumulate haversineM r
  let trip :=
    if (t.noIgnition ∨ r.ignition = some true) ∧ speed < t.idleSpeedKmh then
      { trip with idleSince := some (trip.idleSince.getD r.fixTime) }
    else trip.flushIdle r.fixTime t.idleSustainS
  let stopped :=
    if t.noIgnition then decide (speed < t.moveSpeedKmh ∧ stepM < t.parkedDisplaceM)
    else decide (r.ignition = some false)
  if stopped then trip.stopAt config t.stopThreshold r
  else (.moving { trip with stopSince := none }, [])

/-- `observeStopWithoutFix`: an invalid fix still knows whether the ignition is on. -/
def Phase.observeStopWithoutFix (config : DeviceTripConfig) (phase : Phase) (r : NormalizedRecord) :
    Phase × List TripEvent :=
  match phase with
  | .parked cand => (.parked cand, [])
  | .moving trip =>
    if config.thresholds.noIgnition then (.moving trip, [])
    else
      match r.ignition with
      | some true => (.moving { trip with stopSince := none }, [])
      | some false => trip.stopAt config config.thresholds.parkedIgnitionOffS r
      | none => (.moving trip, [])

def Phase.step (config : DeviceTripConfig) (phase : Phase) (r : NormalizedRecord) :
    Phase × List TripEvent :=
  if r.fixValid then
    match phase with
    | .parked cand => Phase.parkedStep haversineM config cand r
    | .moving trip => Phase.movingStep haversineM config trip r
  else phase.observeStopWithoutFix config r

/-! ## One device -/

structure DeviceState where
  phase : Phase
  lastSeen : Option Ms
  config : DeviceTripConfig
  deriving DecidableEq

def DeviceState.fresh (config : DeviceTripConfig) : DeviceState := ⟨.idle, none, config⟩

def DeviceState.isLate (st : DeviceState) (r : NormalizedRecord) : Bool :=
  st.lastSeen.any (r.fixTime < ·)

def DeviceState.advance (resolved : DeviceTripConfig) (st : DeviceState) (r : NormalizedRecord) :
    DeviceState × List TripEvent :=
  let config := if st.phase = .idle then resolved else st.config
  let next := Phase.step haversineM config st.phase r
  (⟨next.1, some r.fixTime, config⟩, next.2)

/-- `step`, for the records of one device: a record of a clock that runs ahead is ignored, a late
one is dropped. -/
def DeviceState.step (resolved : DeviceTripConfig) (st : DeviceState) (r : NormalizedRecord) :
    DeviceState × List TripEvent :=
  if isClockSkewed r then (st, [])
  else if st.isLate r then (st, [])
  else st.advance haversineM resolved r

/-! ## The engine -/

/-- `TripEngine`: its map of device states, and the map `late` in insertion order. -/
structure TripEngine where
  state : DeviceId → Option DeviceState
  late : List (DeviceId × Ms)

def TripEngine.new : TripEngine := ⟨fun _ => none, []⟩

def TripEngine.markLate (e : TripEngine) (deviceId : DeviceId) (time : Ms) : TripEngine :=
  { e with
    late :=
      if e.late.any (·.1 = deviceId) then
        e.late.map fun entry =>
          if entry.1 = deviceId ∧ time < entry.2 then (deviceId, time) else entry
      else e.late ++ [(deviceId, time)] }

/-- `takeLate`. -/
def TripEngine.takeLate (e : TripEngine) : TripEngine × List (DeviceId × Ms) :=
  ({ e with late := [] }, e.late)

def TripEngine.step (configFor : DeviceId → DeviceTripConfig) (e : TripEngine)
    (r : NormalizedRecord) : TripEngine × List TripEvent :=
  if isClockSkewed r then (e, [])
  else
    let resolved := configFor r.deviceId
    let st := (e.state r.deviceId).getD (.fresh resolved)
    let set (st : DeviceState) : TripEngine :=
      { e with state := Function.update e.state r.deviceId (some st) }
    if st.isLate r then ((set st).markLate r.deviceId r.fixTime, [])
    else
      let next := st.advance haversineM resolved r
      (set next.1, next.2)

def TripEngine.feed (configFor : DeviceId → DeviceTripConfig) (e : TripEngine)
    (records : List NormalizedRecord) : TripEngine × List TripEvent :=
  Transducer.feed (TripEngine.step haversineM configFor) e records

/-! ## Records for examples -/

/-- The time of the first record of the examples. -/
def tripTime : Ms := 1760000000000

/-- A record of device 1, taken on the spot. -/
def sampleRecord (t : Ms) (ignition : Bool) : NormalizedRecord where
  deviceId := 1
  fixTime := tripTime + t
  serverTime := tripTime + t
  lat := 54
  lon := 25
  altitude := none
  speed := some (if ignition then 50 else 0)
  course := none
  satellites := 9
  fixValid := true
  ignition := some ignition
  movement := some ignition
  odometerM := none
  priority := 0
  recHash := t
  attrs := []

/-- No distance, which is the right one between records taken on one spot. -/
def onTheSpot : Haversine := fun _ _ _ _ => 0

end Orbetra
