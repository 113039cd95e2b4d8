import Orbetra.Framework.Effect
import Orbetra.Trip.Recompute

/-!
# The trip persister

`TripPersister` turns the events of the trip engine into rows of `trips`.  It keeps the id of the
open row of each device in memory, so that a close can finalize the right row; an open that finds a
row still open finalizes that one first, from its positions.

`apply` is a program over the table and that memory.  Every query and every Redis command may be
refused, and then throws; only the lookup of a driver is caught.
-/

namespace Orbetra

open Function

/-- The registry's answer for a device: its tenant and its account. -/
structure TripScope where
  tenantId : String
  accountId : String
  deriving DecidableEq

/-- An entry of `openIds`. -/
structure OpenTripId where
  id : ℕ
  tenantId : String
  accountId : String
  startTime : Ms
  deriving DecidableEq

/-! ## The memory of the persister -/

/-- `TripPersister`: its two maps. -/
structure TripPersister where
  openIds : DeviceId → Option OpenTripId
  shardOf : DeviceId → Option ℕ

namespace TripPersister

def new : TripPersister := ⟨fun _ => none, fun _ => none⟩

def set (p : TripPersister) (key : DeviceId) (entry : OpenTripId) (shard : ℕ) : TripPersister :=
  ⟨update p.openIds key (some entry), update p.shardOf key (some shard)⟩

def deleteOpen (p : TripPersister) (key : DeviceId) : TripPersister :=
  { p with openIds := update p.openIds key none }

def delete (p : TripPersister) (key : DeviceId) : TripPersister :=
  ⟨update p.openIds key none, update p.shardOf key none⟩

def forgetShard (p : TripPersister) (shard : ℕ) : TripPersister where
  openIds key := if p.shardOf key = some shard then none else p.openIds key
  shardOf key := if p.shardOf key = some shard then none else p.shardOf key

end TripPersister

/-! ## What it reads -/

/-- What `apply` reads besides its own table: the registry, the positions and the drivers, and the
length of a track, which PostGIS computes. -/
structure TripSources where
  /-- `device:tenant` and `device:account` -/
  registry : DeviceId → Option TripScope
  /-- The rows of `positions`. -/
  positions : List NormalizedRecord
  /-- `ST_Length` of the line through some points, each a longitude and a latitude. -/
  trackLength : List (ℚ × ℚ) → ℚ
  /-- `driver:ibutton:{tenant}:{account}` -/
  drivers : String → String → String → Option String

structure TripEnd where
  endTime : Ms
  endLat : ℚ
  endLon : ℚ
  distanceM : ℤ
  maxSpeed : ℤ
  deriving DecidableEq

def validTrack (positions : List NormalizedRecord) (deviceId : DeviceId) (start before : Ms) :
    List NormalizedRecord :=
  (positions.filter fun row => row.deviceId = deviceId ∧ start ≤ row.fixTime ∧
    row.fixTime < before ∧ row.fixValid).insertionSort fun a b => a.fixTime ≤ b.fixTime

/-- `reconstruct`: where a trip really stopped, how far it went and how fast it got.  The column
`speed` holds whole numbers. -/
def reconstruct (src : TripSources) (deviceId : DeviceId) (start before : Ms) : Option TripEnd :=
  let track := validTrack src.positions deviceId start before
  track.getLast?.map fun last =>
    { endTime := last.fixTime
      endLat := last.lat
      endLon := last.lon
      distanceM := mathRound (src.trackLength (track.map fun row => (row.lon, row.lat)))
      maxSpeed := ((track.filterMap NormalizedRecord.speed).max?.map Int.floor).getD 0 }

/-- The figures a row is closed with that was found still open. -/
def staleClose (ev : OpenEvent) (tripEnd : Option TripEnd) : TripClose where
  endTime := (tripEnd.map TripEnd.endTime).getD ev.startTime
  endLat := (tripEnd.map TripEnd.endLat).getD ev.startLat
  endLon := (tripEnd.map TripEnd.endLon).getD ev.startLon
  distanceM := (tripEnd.map TripEnd.distanceM).getD 0
  distanceSource := .gps
  maxSpeed := (tripEnd.map TripEnd.maxSpeed).getD 0
  idleS := 0
  driverId := none

def OpenEvent.toOpen (ev : OpenEvent) (scope : TripScope) : TripOpen where
  tenantId := scope.tenantId
  accountId := scope.accountId
  deviceId := ev.deviceId
  startTime := ev.startTime
  startLat := ev.startLat
  startLon := ev.startLon

def OpenEvent.entry (ev : OpenEvent) (scope : TripScope) (id : ℕ) : OpenTripId where
  id := id
  tenantId := scope.tenantId
  accountId := scope.accountId
  startTime := ev.startTime

def CloseEvent.toClose (ev : CloseEvent) (driverId : Option String) : TripClose where
  endTime := ev.endTime
  endLat := ev.endLat
  endLon := ev.endLon
  distanceM := ev.distanceM
  distanceSource := ev.distanceSource
  maxSpeed := ev.maxSpeed
  idleS := ev.idleS
  driverId := driverId

/-! ## `apply` -/

/-- What a refused call throws. -/
inductive CallError
  | refused
  deriving DecidableEq

/-- What `apply` works on: the table, the memory, and the number of calls made so far. -/
structure TripStore where
  table : TripTable
  persister : TripPersister
  calls : ℕ

structure ApplyCounts where
  opened : ℕ
  closed : ℕ
  missed : ℕ
  deriving DecidableEq

def ApplyCounts.add (a b : ApplyCounts) : ApplyCounts :=
  ⟨a.opened + b.opened, a.closed + b.closed, a.missed + b.missed⟩

variable (src : TripSources) (reply : ℕ → Reply)

/-- One statement or command; the `n`-th one is answered by `reply n`. -/
def TripStore.call {α : Type} (run : TripTable → TripTable × α) : Eff CallError TripStore α :=
  fun s =>
    let sent := { s with calls := s.calls + 1 }
    match reply s.calls with
    | .ok => .done (run s.table).2 { sent with table := (run s.table).1 }
    | .error => .threw .refused sent
    | .crash => .crashed s

/-- A command that only reads. -/
def TripStore.query {α : Type} (answer : α) : Eff CallError TripStore α :=
  TripStore.call reply fun table => (table, answer)

/-- Change the memory of the persister. -/
def TripStore.remember (f : TripPersister → TripPersister) : Eff CallError TripStore Unit :=
  Eff.modify fun s => { s with persister := f s.persister }

/-- Finalize the row that is still open when a trip of its device begins. -/
def closeStale (ev : OpenEvent) : Eff CallError TripStore Unit := do
  let s ← Eff.get
  match s.persister.openIds ev.deviceId with
  | none => pure ()
  | some stale =>
    let tripEnd ← TripStore.query reply (reconstruct src ev.deviceId stale.startTime ev.startTime)
    let _ ← TripStore.call reply fun table => closeTrip table stale.id (staleClose ev tripEnd)
    TripStore.remember (·.deleteOpen ev.deviceId)

def applyOpen (shard : ℕ) (ev : OpenEvent) : Eff CallError TripStore ApplyCounts := do
  let resolved ← TripStore.query reply (src.registry ev.deviceId)
  match resolved with
  | none => pure ⟨0, 0, 0⟩
  | some scope =>
    closeStale src reply ev
    let id ← TripStore.call reply fun table => openTrip table (ev.toOpen scope)
    TripStore.remember (·.set ev.deviceId (ev.entry scope id) shard)
    pure ⟨1, 0, 0⟩

/-- `resolveDriver`: a lookup that fails leaves the driver unset. -/
def resolveDriver (entry : OpenTripId) (ibutton : Option String) :
    Eff CallError TripStore (Option String) :=
  match ibutton with
  | none => pure none
  | some key =>
    Eff.attempt (TripStore.query reply (src.drivers entry.tenantId entry.accountId key))
      fun _ => pure none

def applyClose (ev : CloseEvent) : Eff CallError TripStore ApplyCounts := do
  let s ← Eff.get
  match s.persister.openIds ev.deviceId with
  | none => pure ⟨0, 0, 1⟩
  | some entry =>
    let driverId ← resolveDriver src reply entry ev.ibutton
    let wrote ← TripStore.call reply fun table => closeTrip table entry.id (ev.toClose driverId)
    TripStore.remember (·.delete ev.deviceId)
    pure (if wrote then ⟨0, 1, 0⟩ else ⟨0, 0, 1⟩)

def applyEvent (shard : ℕ) : TripEvent → Eff CallError TripStore ApplyCounts
  | .opened ev => applyOpen src reply shard ev
  | .closed ev => applyClose src reply ev

def TripPersister.apply (shard : ℕ) : List TripEvent → Eff CallError TripStore ApplyCounts
  | [] => pure ⟨0, 0, 0⟩
  | ev :: events => do
    let counts ← applyEvent src reply shard ev
    let later ← TripPersister.apply shard events
    pure (counts.add later)

/-! ## Sources for examples -/

/-- Every device is registered, and nothing else is known. -/
def sampleSources : TripSources where
  registry _ := some ⟨"tenant", "account"⟩
  positions := []
  trackLength _ := 0
  drivers _ _ _ := none

end Orbetra
