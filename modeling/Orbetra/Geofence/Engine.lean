import Orbetra.Framework.Transducer
import Orbetra.Records

/-!
# The geofence engine

`apps/worker/src/geofence/engine.ts` and `point.ts`.  The engine keeps, for each device and fence,
the side the device is on and how often in a row it has been seen on the other; a side is confirmed
after a streak of observations.  Coordinates are rationals, and a point of a ring is a pair.
-/

namespace Orbetra

open Function

/-! ## Containment -/

/-- A position: longitude and latitude. -/
abbrev LonLat := ℚ × ℚ

/-- The coordinates of a GeoJSON polygon: the outer ring, then the holes. -/
structure GeoPolygon where
  coordinates : List (List LonLat)
  deriving DecidableEq

/-- `[minLon, minLat, maxLon, maxLat]`, infinite for a ring without points. -/
structure BBox where
  minLon : WithTop ℚ
  minLat : WithTop ℚ
  maxLon : WithBot ℚ
  maxLat : WithBot ℚ
  deriving DecidableEq

/-- `bboxOf` -/
def bboxOf (poly : GeoPolygon) : BBox :=
  (poly.coordinates.headD []).foldl
    (fun b p => ⟨min b.minLon p.1, min b.minLat p.2, max b.maxLon p.1, max b.maxLat p.2⟩)
    ⟨⊤, ⊤, ⊥, ⊥⟩

def outsideBBox (lon lat : ℚ) (b : BBox) : Bool :=
  (lon : WithTop ℚ) < b.minLon || b.maxLon < (lon : WithBot ℚ) || (lat : WithTop ℚ) < b.minLat ||
    b.maxLat < (lat : WithBot ℚ)

/-- The ray of `inRing` meets the edge from `pj` to `pi`. -/
def intersect (lon lat : ℚ) (pi pj : LonLat) : Bool :=
  (lat < pi.2 : Bool) != (lat < pj.2 : Bool) &&
    lon < (pj.1 - pi.1) * (lat - pi.2) / (pj.2 - pi.2) + pi.1

/-- `inRing`: each point with the one before it, the first with the last. -/
def inRing (lon lat : ℚ) (ring : List LonLat) : Bool :=
  (ring.zip ring.rotateRight).foldl
    (fun inside edge => if intersect lon lat edge.1 edge.2 then !inside else inside) false

def pointInPolygon (lon lat : ℚ) (poly : GeoPolygon) : Bool :=
  match poly.coordinates with
  | [] => false
  | ring :: holes => inRing lon lat ring && holes.all fun hole => !inRing lon lat hole

/-! ## Pairs -/

/-- A fence that applies to a device. -/
structure GeofenceDef where
  id : String
  name : String
  geometry : GeoPolygon
  bbox : Option BBox
  deriving DecidableEq

inductive Side
  | inside
  | outside
  deriving DecidableEq

/-- `'enter' | 'exit'` -/
inductive TransitionType
  | enter
  | exit
  deriving DecidableEq

def Side.crossing : Side → TransitionType
  | .inside => .enter
  | .outside => .exit

/-- A device and a fence. -/
abbrev GeofencePair := DeviceId × String

/-- A crossing that is confirmed. -/
structure GeofenceTransition where
  deviceId : DeviceId
  geofenceId : String
  geofenceName : String
  type : TransitionType
  atTime : Ms
  lat : ℚ
  lon : ℚ
  deriving DecidableEq

/-- Whose crossing it is. -/
def GeofenceTransition.pair (t : GeofenceTransition) : GeofencePair := (t.deviceId, t.geofenceId)

def GeofenceDef.sideOf (gf : GeofenceDef) (r : NormalizedRecord) : Side :=
  if gf.bbox.any (outsideBBox r.lon r.lat) then .outside
  else if pointInPolygon r.lon r.lat gf.geometry then .inside else .outside

/-- What the engine knows of a pair. -/
structure PairState where
  inside : Bool
  pendingSide : Option Side
  pendingCount : ℕ
  deriving DecidableEq

/-- A pair without a streak. -/
def PairState.settled (inside : Bool) : PairState := ⟨inside, none, 0⟩

def PairState.confirmed (st : PairState) : Side := if st.inside then .inside else .outside

/-- The part of `step` behind the lookup: an observation of a pair, and the crossing it confirms. -/
def PairState.observe (threshold : Side → ℕ) (st : PairState)
    (seen : NormalizedRecord × GeofenceDef) : PairState × List GeofenceTransition :=
  let r := seen.1
  let gf := seen.2
  let side := gf.sideOf r
  if side = st.confirmed then (.settled st.inside, [])
  else
    let count := if st.pendingSide = some side then st.pendingCount + 1 else 1
    if threshold side ≤ count then
      (.settled (side = .inside),
        [⟨r.deviceId, gf.id, gf.name, side.crossing, r.fixTime, r.lat, r.lon⟩])
    else (⟨st.inside, some side, count⟩, [])

/-! ## The engine -/

/-- `GeofenceEngine`.  Its maps are functions; the index `pairsByDevice` of the keys of `state` is
not needed then. -/
structure GeofenceEngine where
  state : GeofencePair → Option PairState
  /-- the newest fix time of a device -/
  lastSeen : DeviceId → Option Ms
  enterStreak : ℕ
  exitStreak : ℕ

namespace GeofenceEngine

/-- An engine without memory. -/
def withStreaks (enterStreak exitStreak : ℕ) : GeofenceEngine :=
  ⟨fun _ => none, fun _ => none, enterStreak, exitStreak⟩

/-- The engine that a worker starts with. -/
def new : GeofenceEngine := withStreaks 2 2

/-- How many observations in a row confirm a side. -/
def threshold (e : GeofenceEngine) : Side → ℕ
  | .inside => e.enterStreak
  | .outside => e.exitStreak

variable (fencesFor : DeviceId → List GeofenceDef) (insideFor : GeofencePair → Bool)

/-- What is known of a pair: what the engine remembers, or else the side that was stored. -/
def stateOf (e : GeofenceEngine) (p : GeofencePair) : PairState :=
  (e.state p).getD (.settled (insideFor p))

def step (r : NormalizedRecord) (e : GeofenceEngine) (gf : GeofenceDef) :
    GeofenceEngine × List GeofenceTransition :=
  let p : GeofencePair := (r.deviceId, gf.id)
  let next := (e.stateOf insideFor p).observe e.threshold (r, gf)
  ({ e with state := update e.state p (some next.1) }, next.2)

/-- The record is one that `feed` does not pass over. -/
def accepts (lastSeen : DeviceId → Option Ms) (r : NormalizedRecord) : Bool :=
  r.fixValid && !isClockSkewed r && !(lastSeen r.deviceId).any fun seen => r.fixTime < seen

/-- A turn of the loop of `feed`, which also notes the fences of the device. -/
def feedRecord (s : GeofenceEngine × (DeviceId → Option (List GeofenceDef)))
    (r : NormalizedRecord) :
    (GeofenceEngine × (DeviceId → Option (List GeofenceDef))) × List GeofenceTransition :=
  if accepts s.1.lastSeen r then
    let fences := fencesFor r.deviceId
    let seen := { s.1 with lastSeen := update s.1.lastSeen r.deviceId (some r.fixTime) }
    let fed := Transducer.feed (step insideFor r) seen fences
    ((fed.1, update s.2 r.deviceId (some fences)), fed.2)
  else (s, [])

def prune (e : GeofenceEngine) (lastFences : DeviceId → Option (List GeofenceDef)) :
    GeofenceEngine :=
  { e with state := fun p =>
      match lastFences p.1 with
      | none => e.state p
      | some fences => if p.2 ∈ fences.map (·.id) then e.state p else none }

def feed (e : GeofenceEngine) (records : List NormalizedRecord) :
    GeofenceEngine × List GeofenceTransition :=
  let fed := Transducer.feed (feedRecord fencesFor insideFor) (e, fun _ => none) records
  (fed.1.1.prune fed.1.2, fed.2)

/-- `rollback`: the pairs go back to where they were, the last transition first. -/
def rollback (e : GeofenceEngine) (transitions : List GeofenceTransition) : GeofenceEngine :=
  transitions.foldr (fun t e =>
    match e.state t.pair with
    | none => e
    | some _ =>
      { e with state := update e.state t.pair (some (.settled (t.type = .exit))) }) e

end GeofenceEngine

end Orbetra
