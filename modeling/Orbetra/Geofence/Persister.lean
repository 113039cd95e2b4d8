import Orbetra.Framework.Effect
import Orbetra.Geofence.Engine
import Orbetra.Rules.Persister

/-!
# Crossings that are written and sent

`GeofenceEventPersister` of `apps/worker/src/geofence/persister.ts` with the writer behind it, and
the part of `onBatch` that matches the crossings written against the geofence rules of the tenant.
A crossing is claimed by a key before it is inserted; a rule is claimed for as long as its cooldown
lasts before its notification is enqueued.

The keys of crossings live long enough for every redelivery: their expiry is left out. -/

namespace Orbetra

open Eff

/-! ## What Redis, Postgres and the queue hold -/

/-- `geofence:evt:{deviceId}:{geofenceId}:{type}:{atMs}` -/
structure CrossingKey where
  deviceId : DeviceId
  geofenceId : String
  type : TransitionType
  atTime : Ms
  deriving DecidableEq

def GeofenceTransition.dedupKey (tr : GeofenceTransition) : CrossingKey :=
  ⟨tr.deviceId, tr.geofenceId, tr.type, tr.atTime⟩

structure GeofenceEventRow where
  tenantId : String
  accountId : String
  deviceId : DeviceId
  atTime : Ms
  lat : ℚ
  lon : ℚ
  geofenceId : String
  name : String
  transition : TransitionType
  endedAt : Option Ms
  deriving DecidableEq

inductive GeofenceRuleOn
  | enter
  | exit
  | both
  deriving DecidableEq

def GeofenceRuleOn.admits : GeofenceRuleOn → TransitionType → Bool
  | .both, _ => true
  | .enter, type => type = .enter
  | .exit, type => type = .exit

/-- `GeofenceRuleDef`.  A cooldown is a whole number of seconds. -/
structure GeofenceRuleDef where
  id : String
  accountId : String
  name : String
  cooldownS : ℕ
  geofenceId : String
  on : GeofenceRuleOn
  deriving DecidableEq

/-- The rule is about the fence, and about the direction. -/
def GeofenceRuleDef.matches? (rule : GeofenceRuleDef) (geofenceId : String)
    (type : TransitionType) : Bool := rule.geofenceId = geofenceId && rule.on.admits type

/-- `ntfcd:{ruleId}:{deviceId}:{type}` -/
structure NotifyCooldownKey where
  ruleId : String
  deviceId : DeviceId
  type : TransitionType
  deriving DecidableEq

def cooldownKeyOf (tr : GeofenceTransition) (rule : GeofenceRuleDef) : NotifyCooldownKey :=
  ⟨rule.id, tr.deviceId, tr.type⟩

/-- A job of the notify queue, for a crossing. -/
structure GeofenceJob where
  ruleId : String
  deviceId : DeviceId
  atTime : Ms
  geofenceId : String
  name : String
  transition : TransitionType
  /-- when it was added; no code reads it -/
  addedAt : Ms
  deriving DecidableEq

/-- A rule whose cooldown had not passed when a crossing asked for it. -/
structure Suppression where
  key : NotifyCooldownKey
  geofenceId : String
  atTime : Ms
  askedAt : Ms
  deriving DecidableEq

/-- The durable side of the geofence engine. -/
structure GeofenceStore where
  /-- the clock -/
  now : Ms
  /-- the fields of `geofence:state:{id}` that are `1` -/
  inside : GeofencePair → Bool
  evt : List CrossingKey
  events : List GeofenceEventRow
  /-- until when the key is there -/
  cooldown : NotifyCooldownKey → Option Ms
  notified : List GeofenceJob
  /-- no code reads it -/
  suppressed : List Suppression

/-- A call that the geofence step of `onBatch` makes, as its failures are told apart. -/
inductive GeofenceCall
  /-- the pipeline of `loadInside` -/
  | loadInside
  /-- `HGETALL geofence:state:{id}` -/
  | inside (d : DeviceId)
  /-- `HMGET device:tenant`, `HMGET device:account` -/
  | scope
  /-- the `SET … NX` of the n-th crossing -/
  | claim (n : ℕ)
  /-- the `INSERT` -/
  | insert
  /-- the `UPDATE` for the n-th row -/
  | closeState (n : ℕ)
  /-- the `DEL` after a failed `INSERT` -/
  | release
  /-- `HSET geofence:state:{id}` for the n-th row -/
  | state (n : ℕ)
  /-- `ruleCache.resolveGeofenceBatch` -/
  | resolveRules
  /-- the `SET … NX` of a rule for the n-th crossing written -/
  | cooldown (n : ℕ) (ruleId : String)
  /-- `enqueueNotify` of a rule for the n-th crossing written -/
  | notify (n : ℕ) (ruleId : String)
  /-- `enqueueWebhook` for the n-th crossing written -/
  | webhook (n : ℕ)
  deriving DecidableEq

/-- How each call is answered, and how long it takes. -/
structure GeofenceReplies where
  reply : GeofenceCall → Reply
  elapsed : GeofenceCall → ℕ

namespace GeofencePersister

variable (f : GeofenceReplies)

/-- A call that is answered with a value. -/
def ask {α : Type} (c : GeofenceCall) (run : GeofenceStore → GeofenceStore × α) :
    Eff GeofenceCall GeofenceStore α := fun s =>
  let s := { s with now := s.now + f.elapsed c }
  match f.reply c with
  | .ok => .done (run s).2 (run s).1
  | .error => .threw c s
  | .crash => .crashed s

/-! ## `loadInside` -/

/-- `loadInside`.  A refused `HGETALL` reads as a missing hash. -/
def loadInside (devices : List DeviceId) : Eff GeofenceCall GeofenceStore (GeofencePair → Bool) :=
  if devices = [] then pure fun _ => false
  else ask f .loadInside fun s =>
    (s, fun p => decide (p.1 ∈ devices ∧ f.reply (.inside p.1) = .ok) && s.inside p)

/-! ## `persist` -/

/-- `SET key 1 EX … NX`: whether the key was free. -/
def claimCrossing (tr : GeofenceTransition) (s : GeofenceStore) : GeofenceStore × Bool :=
  if tr.dedupKey ∈ s.evt then (s, false) else ({ s with evt := s.evt ++ [tr.dedupKey] }, true)

def crossingRow (scope : RuleScope) (tr : GeofenceTransition) : GeofenceEventRow where
  tenantId := scope.tenantId
  accountId := scope.accountId
  deviceId := tr.deviceId
  atTime := tr.atTime
  lat := tr.lat
  lon := tr.lon
  geofenceId := tr.geofenceId
  name := tr.geofenceName
  transition := tr.type
  endedAt := none

def writeGeofenceEvents (rows : List GeofenceEventRow) : Eff GeofenceCall GeofenceStore Unit :=
  ask f .insert fun s => ({ s with events := s.events ++ rows }, ())

def pairWindowMs : Ms := 14 * 24 * 3600 * 1000

def ends? (row earlier : GeofenceEventRow) : Bool :=
  earlier.deviceId = row.deviceId ∧ earlier.geofenceId = row.geofenceId ∧
    earlier.transition ≠ row.transition ∧ earlier.endedAt = none ∧ earlier.atTime < row.atTime ∧
    row.atTime - pairWindowMs ≤ earlier.atTime

/-- The position of the newest row that a crossing may end. -/
def openRow (row : GeofenceEventRow) (rows : List GeofenceEventRow) : Option ℕ :=
  ((rows.zipIdx.filter fun earlier => ends? row earlier.1).foldl (fun best earlier =>
    match best with
    | some newest => if newest.1.atTime < earlier.1.atTime then some earlier else some newest
    | none => some earlier) none).map Prod.snd

def closeGeofenceStates : ℕ → List GeofenceEventRow → Eff GeofenceCall GeofenceStore Unit
  | _, [] => pure ()
  | n, row :: rows => do
    ask f (.closeState n) fun s =>
      match openRow row s.events with
      | none => (s, ())
      | some i =>
        ({ s with events := s.events.modify i ({ · with endedAt := some row.atTime }) }, ())
    closeGeofenceStates (n + 1) rows

def release (claimed : List CrossingKey) : Eff GeofenceCall GeofenceStore Unit :=
  when (claimed ≠ []) <|
    attempt (ask f .release fun s => ({ s with evt := s.evt.filter (· ∉ claimed) }, ()))
      fun _ => pure ()

/-- `HSET geofence:state:{id}`, for each crossing written. -/
def saveSides (fresh : List GeofenceTransition) : Eff GeofenceCall GeofenceStore Unit :=
  pipeline (fun entry => f.reply (.state entry.2))
    (fun s entry =>
      { s with
        inside := Function.update s.inside entry.1.pair (decide (entry.1.type = .enter)) })
    fresh.zipIdx

/-- The crossings that a claim lets through: a refused command claims nothing, and lets its crossing
through. -/
def freshOf (crossings : List GeofenceTransition) (claimRes : List (Option Bool)) :
    List GeofenceTransition :=
  (crossings.zip claimRes).filterMap fun (tr, answer) =>
    if answer = some false then none else some tr

def claimedOf (crossings : List GeofenceTransition) (claimRes : List (Option Bool)) :
    List CrossingKey :=
  (crossings.zip claimRes).filterMap fun (tr, answer) =>
    if answer = some true then some tr.dedupKey else none

/-- The part of `persist` behind the claims: the rows, and the sides. -/
def insertFresh (registry : DeviceId → Option RuleScope) (fresh : List GeofenceTransition)
    (claimed : List CrossingKey) : Eff GeofenceCall GeofenceStore (List GeofenceTransition) :=
  let rows := fresh.filterMap fun tr => (registry tr.deviceId).map (crossingRow · tr)
  if rows = [] then pure []
  else do
    attempt
      (do
        writeGeofenceEvents f rows
        -- closing what the crossings end is best effort
        attempt (closeGeofenceStates f 0 rows) fun _ => pure ())
      fun err => do
        release f claimed
        throw err
    saveSides f fresh
    pure fresh

def registeredOf (registry : DeviceId → Option RuleScope) (transitions : List GeofenceTransition) :
    List GeofenceTransition :=
  transitions.filter fun tr => (registry tr.deviceId).isSome

/-- `persist`: write the crossings that could be claimed; it returns those that it wrote. -/
def persist (registry : DeviceId → Option RuleScope) (transitions : List GeofenceTransition) :
    Eff GeofenceCall GeofenceStore (List GeofenceTransition) :=
  if transitions = [] then pure []
  else do
    ask f .scope fun s => (s, ())
    let inScope := registeredOf registry transitions
    if inScope = [] then pure []
    else do
      let claimRes ← answers claimCrossing (f.reply ∘ .claim) inScope
      insertFresh f registry (freshOf inScope claimRes) (claimedOf inScope claimRes)

/-! ## Notifications -/

/-- `SET ntfcd:… EX cooldownS NX`: whether the key was free.  A key is gone once its time is up. -/
def claimCooldown (tr : GeofenceTransition) (rule : GeofenceRuleDef) (s : GeofenceStore) :
    GeofenceStore × Bool :=
  let key := cooldownKeyOf tr rule
  if (s.cooldown key).any fun expiry => s.now < expiry then
    ({ s with suppressed := s.suppressed ++ [⟨key, tr.geofenceId, tr.atTime, s.now⟩] }, false)
  else
    ({ s with
      cooldown := Function.update s.cooldown key (some (s.now + rule.cooldownS * 1000)) }, true)

/-- The job that `enqueueNotify` adds. -/
def geofenceJob (tr : GeofenceTransition) (rule : GeofenceRuleDef) (now : Ms) : GeofenceJob where
  ruleId := rule.id
  deviceId := tr.deviceId
  atTime := tr.atTime
  geofenceId := tr.geofenceId
  name := tr.geofenceName
  transition := tr.type
  addedAt := now

/-- The cooldown of a rule, for the n-th crossing written. -/
def claimRule (n : ℕ) (tr : GeofenceTransition) (rule : GeofenceRuleDef) :
    Eff GeofenceCall GeofenceStore Bool :=
  if 0 < rule.cooldownS then ask f (.cooldown n rule.id) (claimCooldown tr rule) else pure true

/-- A rule for the n-th crossing written: its cooldown, then its notification.  A failure is logged.
-/
def notifyRule (n : ℕ) (tr : GeofenceTransition) (rule : GeofenceRuleDef) :
    Eff GeofenceCall GeofenceStore Unit :=
  when (rule.matches? tr.geofenceId tr.type = true) <|
    attempt
      (do
        let claimed ← claimRule f n tr rule
        when (claimed = true) <|
          ask f (.notify n rule.id) fun s =>
            ({ s with notified := s.notified ++ [geofenceJob tr rule s.now] }, ()))
      fun _ => pure ()

def notifyRules (n : ℕ) (tr : GeofenceTransition) :
    List GeofenceRuleDef → Eff GeofenceCall GeofenceStore Unit
  | [] => pure ()
  | rule :: rules => do
    notifyRule f n tr rule
    notifyRules n tr rules

/-- Each crossing written: its rules, and a webhook, whose failure is logged. -/
def notifyCrossings (rulesFor : DeviceId → List GeofenceRuleDef) :
    ℕ → List GeofenceTransition → Eff GeofenceCall GeofenceStore Unit
  | _, [] => pure ()
  | n, tr :: crossings => do
    notifyRules f n tr (rulesFor tr.deviceId)
    attempt (ask f (.webhook n) fun s => (s, ())) fun _ => pure ()
    notifyCrossings rulesFor (n + 1) crossings

/-- `resolveGeofenceBatch`, which asks nobody where no crossing was written. -/
def resolveRules (crossings : List GeofenceTransition) : Eff GeofenceCall GeofenceStore Unit :=
  when (crossings ≠ []) (ask f .resolveRules fun s => (s, ()))

end GeofencePersister

end Orbetra
