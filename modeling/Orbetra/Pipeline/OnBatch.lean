import Orbetra.Framework.Frame
import Orbetra.Geofence.Persister
import Orbetra.Rules.Batch
import Orbetra.Trip.Process
import Orbetra.Trip.Reconcile

/-!
# A batch

`onBatch` of `apps/worker/src/main.ts`, which a shard consumer calls with the records that it has
stored, before it acknowledges them: the live state, the caches, the trips, the geofences, the
rules, and the recomputes that are owed.  What throws within it is caught, so that the batch is
acknowledged whatever fails. -/

namespace Orbetra

open Eff

structure GeofenceWorker where
  engine : GeofenceEngine
  store : GeofenceStore

/-- What a shard consumer works on. -/
structure Worker where
  trips : TripWorker
  fences : GeofenceWorker
  rules : RuleWorker

structure BatchSources where
  haversineM : Haversine
  trips : TripSources
  rules : RuleSources
  configFor : DeviceId → DeviceTripConfig
  fencesFor : DeviceId → List GeofenceDef
  geofenceRules : DeviceId → List GeofenceRuleDef
  shard : ℕ

/-- How the calls of a batch are answered. -/
structure BatchReplies where
  /-- `liveState.apply` -/
  live : Reply
  /-- `configCache.resolveBatch` -/
  config : Reply
  /-- `geofenceCache.resolveBatch` -/
  fences : Reply
  geofence : GeofenceReplies
  trips : TripReplies
  rules : RuleReplies

/-- A call that threw. -/
inductive BatchError
  | live
  | config
  | fences
  | geofence (c : GeofenceCall)
  | trip (e : CallError)
  | rule (c : RuleCall)
  deriving DecidableEq

/-- A batch as the consumer hands it over, the answers that its calls get, and the time. -/
structure BatchCall where
  src : BatchSources
  replies : BatchReplies
  now : Ms
  records : List NormalizedRecord
  /-- `kept.records.length > 0` -/
  nonempty : records ≠ []

namespace Worker

variable (src : BatchSources) (f : BatchReplies)

/-! ## The parts of the worker -/

def onTrips {α : Type} (m : Eff CallError TripWorker α) : Eff BatchError Worker α :=
  within Worker.trips (fun trips w => { w with trips := trips }) .trip m

def onFences {α : Type} (m : Eff GeofenceCall GeofenceWorker α) : Eff BatchError Worker α :=
  within Worker.fences (fun fences w => { w with fences := fences }) .geofence m

def onRules {α : Type} (m : Eff RuleError RuleWorker α) : Eff BatchError Worker α :=
  within Worker.rules (fun rules w => { w with rules := rules }) .rule m

/-! ## The geofences of a batch -/

/-- A program of the persister. -/
def onFenceStore {α : Type} (m : Eff GeofenceCall GeofenceStore α) :
    Eff GeofenceCall GeofenceWorker α :=
  zoom GeofenceWorker.store (fun store w => { w with store := store }) m

/-- The devices of a batch that have fences: the keys of the map that `resolveBatch` returns. -/
def fenceDevices (records : List NormalizedRecord) : List DeviceId :=
  (records.map (·.deviceId)).eraseDups.filter fun d => src.fencesFor d ≠ []

def feedFences (insideFor : GeofencePair → Bool) (records : List NormalizedRecord) :
    Eff GeofenceCall GeofenceWorker (List GeofenceTransition) := fun w =>
  let fed := w.engine.feed src.fencesFor insideFor (records.filter (·.fixValid))
  .done fed.2 { w with engine := fed.1 }

/-- Write the crossings; where that fails, the memory of the engine goes back to what it was. -/
def persistCrossings (transitions : List GeofenceTransition) :
    Eff GeofenceCall GeofenceWorker (Option (List GeofenceTransition)) :=
  attempt
    (do
      let persisted ← onFenceStore
        (GeofencePersister.persist f.geofence src.rules.registry transitions)
      pure (some persisted))
    fun _ => do
      modify fun w => { w with engine := w.engine.rollback transitions }
      pure none

/-- Write the crossings, and notify. -/
def fenceStep (transitions : List GeofenceTransition) : Eff GeofenceCall GeofenceWorker Unit :=
  when (transitions ≠ []) do
    match ← persistCrossings src f transitions with
    | none => pure ()
    | some persisted =>
      onFenceStore (GeofencePersister.resolveRules f.geofence persisted)
      onFenceStore (GeofencePersister.notifyCrossings f.geofence src.geofenceRules 0 persisted)

/-! ## The batch -/

/-- What `onBatch` does under its outer `try`. -/
def processBatch (now : Ms) (records : List NormalizedRecord) : Eff BatchError Worker Unit := do
  call f.config .config id
  call f.fences .fences id
  let insideFor ← onFences
    (onFenceStore (GeofencePersister.loadInside f.geofence (fenceDevices src records)))
  let tripEvents ← onTrips (feedTrips src.haversineM src.configFor records)
  let transitions ← onFences (feedFences src insideFor records)
  onTrips (persistTrips src.trips f.trips src.shard tripEvents)
  onFences (fenceStep src f transitions)
  onRules (RuleWorker.ruleStep src.rules f.rules records)
  onTrips (reconcileTrips f.trips now)

/-- `onBatch`; what throws is logged. -/
def onBatch (b : BatchCall) : Eff BatchError Worker Unit := do
  attempt (call b.replies.live .live id) fun _ => pure ()
  attempt (processBatch b.src b.replies b.now b.records) fun _ => pure ()

/-- A process that is started where another one was killed: the memory is gone, and the open trips
are loaded from the table. -/
def restart (shardOf : DeviceId → Option ℕ) (shard : ℕ) (w : Worker) : Worker where
  trips :=
    { engine := .new
      store :=
        { w.trips.store with
          persister :=
            (warmRows shardOf [shard] w.trips.store.table).foldl TripPersister.load .new }
      pendingCompensation := []
      queue := w.trips.queue }
  fences := ⟨.new, w.fences.store⟩
  rules := .boot w.rules.store w.rules.fed

end Worker

end Orbetra
