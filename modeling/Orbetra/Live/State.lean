import Orbetra.Framework.Effect
import Orbetra.Records

/-!
# The live marker

`LiveState` of `apps/worker/src/liveState.ts`: the hash `device:{id}:last`, from which the map draws
a vehicle, and the message on `live:{tenantId}`.  A batch is cut down to one record for each device,
the newest, and this record moves the marker if it is newer than what is stored.

The chain of promises of a device runs its calls one after another; here the calls of `apply` are.
-/

namespace Orbetra

/-- `lastFix` of the payload. -/
structure LastFix where
  lat : ℚ
  lon : ℚ
  fixTimeMs : Ms
  deriving DecidableEq

/-- The compact JSON of a device. -/
structure LivePayload where
  deviceId : DeviceId
  accountId : Option String
  fixTimeMs : Ms
  lat : ℚ
  lon : ℚ
  speed : Option ℚ
  course : Option ℤ
  satellites : ℤ
  fixValid : Bool
  ignition : Option Bool
  priority : Fin 3
  lastFix : Option LastFix
  deriving DecidableEq

/-- The text of the field `json`. -/
inductive StoredJson
  | payload (p : LivePayload)
  | broken
  deriving DecidableEq

/-- `device:{id}:last` -/
structure LiveHash where
  serverTimeMs : Option Ms
  clockSkewedAt : Option Ms
  fixTimeMs : Option Ms
  json : Option StoredJson
  deriving DecidableEq

def LiveHash.empty : LiveHash := ⟨none, none, none, none⟩

/-- The part of Redis that `LiveState` uses. -/
structure LiveStore where
  last : DeviceId → LiveHash
  /-- `device:tenant` -/
  tenant : DeviceId → Option String
  /-- `device:account` -/
  account : DeviceId → Option String
  /-- the messages published, each with its tenant -/
  published : List (String × LivePayload)

/-- A command that `applyOne` sends. -/
inductive LiveCall
  /-- `HSET … serverTimeMs` -/
  | contact (d : DeviceId)
  /-- `HSET … clockSkewedAt` -/
  | skewed (d : DeviceId)
  /-- `HGET … fixTimeMs` -/
  | stored (d : DeviceId)
  /-- `HMGET device:tenant` -/
  | tenant (d : DeviceId)
  /-- `HGET device:account` -/
  | account (d : DeviceId)
  /-- `HGET … json` -/
  | prior (d : DeviceId)
  /-- `HSET … fixTimeMs json` -/
  | store (d : DeviceId)
  /-- `PUBLISH live:{tenantId}` -/
  | publish (d : DeviceId)
  deriving DecidableEq

def NormalizedRecord.placeable (r : NormalizedRecord) : Bool :=
  r.fixValid && !(r.lat = 0 && r.lon = 0)

namespace LiveState

variable (f : LiveCall → Reply)

def newestPerDevice (records : List NormalizedRecord) : List (DeviceId × NormalizedRecord) :=
  records.foldl (fun newest rec =>
    match newest.lookup rec.deviceId with
    | none => newest ++ [(rec.deviceId, rec)]
    | some current =>
      if current.fixTime < rec.fixTime then
        newest.map fun entry => if entry.1 = rec.deviceId then (entry.1, rec) else entry
      else newest) []

/-- A read that may be refused. -/
def read {α : Type} (c : LiveCall) (get : LiveStore → α) : Eff LiveCall LiveStore α := do
  Eff.call (f c) c id
  let s ← Eff.get
  pure (get s)

/-- The place that is carried into the next payload. -/
def carried (rec : NormalizedRecord) (prior : Option StoredJson) : Option LastFix :=
  if rec.placeable then some ⟨rec.lat, rec.lon, rec.fixTime⟩
  else
    match prior with
    | some (.payload p) => p.lastFix
    -- no payload, or one that cannot be parsed
    | _ => none

def compact (d : DeviceId) (accountId : Option String) (rec : NormalizedRecord)
    (lastFix : Option LastFix) : LivePayload where
  deviceId := d
  accountId := accountId
  fixTimeMs := rec.fixTime
  lat := rec.lat
  lon := rec.lon
  speed := rec.speed
  course := rec.course
  satellites := rec.satellites
  fixValid := rec.fixValid
  ignition := rec.ignition
  priority := rec.priority
  lastFix := lastFix

def onHash (d : DeviceId) (g : LiveHash → LiveHash) (s : LiveStore) : LiveStore :=
  { s with last := Function.update s.last d (g (s.last d)) }

/-- `applyOne` -/
def applyOne (d : DeviceId) (rec : NormalizedRecord) : Eff LiveCall LiveStore Unit := do
  Eff.call (f (.contact d)) (.contact d)
    (onHash d fun h => { h with serverTimeMs := some rec.serverTime })
  if isClockSkewed rec then
    Eff.call (f (.skewed d)) (.skewed d)
      (onHash d fun h => { h with clockSkewedAt := some rec.serverTime })
  else do
    let stored ← read f (.stored d) fun s => (s.last d).fixTimeMs
    -- the newest fix wins
    if stored.any fun t => rec.fixTime ≤ t then pure ()
    else do
      let tenantId ← read f (.tenant d) fun s => s.tenant d
      let accountId ← read f (.account d) fun s => s.account d
      let prior ← read f (.prior d) fun s => (s.last d).json
      let payload := compact d accountId rec (carried rec prior)
      Eff.call (f (.store d)) (.store d) (onHash d fun h =>
        { h with fixTimeMs := some rec.fixTime, json := some (.payload payload) })
      match tenantId with
      | none => pure ()
      | some t =>
        Eff.call (f (.publish d)) (.publish d)
          fun s => { s with published := s.published ++ [(t, payload)] }

/-- Apply each record; a failure waits until all devices have had their turn. -/
def settleAll : List (DeviceId × NormalizedRecord) → Eff LiveCall LiveStore (Option LiveCall)
  | [] => pure none
  | (d, rec) :: rest => do
    let failed ← Eff.attempt (do applyOne f d rec; pure none) fun err => pure (some err)
    let later ← settleAll rest
    pure (failed.or later)

def apply (records : List NormalizedRecord) : Eff LiveCall LiveStore Unit := do
  let failed ← settleAll f (newestPerDevice records)
  match failed with
  | none => pure ()
  | some err => Eff.throw err

end LiveState

end Orbetra
