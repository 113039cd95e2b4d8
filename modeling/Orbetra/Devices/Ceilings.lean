import Mathlib
import Orbetra.Framework.Machine

/-!
# The fixed-window ceilings

`reserveDeviceBudget` and `settleDeviceBudget` of `apps/api/src/routes/crud.ts`, and the quota of
`POST /v1/devices/:id/sms` beside them: counters in Redis that expire with their window, requests
that put units on them and give units back.  Any number of requests run in any order of their steps,
and the keys expire and are deleted in between.

Each creation of a key has a number, which a request notes with the units it puts there and which no
code reads. -/

namespace Orbetra.Ceilings

open Function

abbrev TenantId := String

abbrev DeviceId := ℕ

/-! ## The counters in Redis -/

inductive Key
  /-- `devcreate:rl:{tenantId}` -/
  | devcreate (tenant : TenantId)
  /-- `sms:q:dev:{deviceId}` -/
  | smsDev (device : DeviceId)
  /-- `sms:q:ten:{tenantId}` -/
  | smsTen (tenant : TenantId)
  /-- `sms:q:global` -/
  | smsGlobal
  deriving DecidableEq

structure Counter where
  value : ℤ
  /-- When the key expires, in milliseconds; `none` for a key without a TTL. -/
  expires : Option ℕ
  /-- Which creation of the key this is. -/
  born : ℕ
  deriving DecidableEq

structure Redis where
  now : ℕ
  keys : Key → Option Counter
  /-- How often a key has been created. -/
  births : Key → ℕ

def Redis.empty : Redis := ⟨0, fun _ => none, fun _ => 0⟩

def Redis.put (redis : Redis) (key : Key) (counter : Counter) : Redis :=
  { redis with keys := update redis.keys key (some counter) }

def Redis.del (redis : Redis) (key : Key) : Redis :=
  { redis with keys := update redis.keys key none }

/-- Time passes, and the keys whose time has come are gone. -/
def Redis.wait (redis : Redis) (ms : ℕ) : Redis :=
  { redis with
    now := redis.now + ms
    keys := fun key => (redis.keys key).filter fun counter =>
      counter.expires.all fun expires => redis.now + ms < expires }

/-- `INCRBY`, which creates a missing key at zero first. -/
def Redis.incrby (redis : Redis) (key : Key) (n : ℤ) : Redis × ℤ :=
  match redis.keys key with
  | some counter => (redis.put key { counter with value := counter.value + n }, counter.value + n)
  | none =>
    let born := redis.births key + 1
    ({ redis.put key ⟨n, none, born⟩ with births := update redis.births key born }, n)

/-- `EXPIRE`, with a positive number of seconds. -/
def Redis.expire (redis : Redis) (key : Key) (windowS : ℕ) : Redis :=
  match redis.keys key with
  | some counter => redis.put key { counter with expires := some (redis.now + 1000 * windowS) }
  | none => redis

def Redis.ttlNegative (redis : Redis) (key : Key) : Bool :=
  ((redis.keys key).bind Counter.expires).isNone

def RL_SCRIPT (redis : Redis) (key : Key) (windowS : ℕ) : Redis × ℤ :=
  let (redis, n) := redis.incrby key 1
  (if n = 1 ∨ redis.ttlNegative key then redis.expire key windowS else redis, n)

def RL_ADD_SCRIPT (redis : Redis) (key : Key) (windowS : ℕ) (cost : ℤ) : Redis × ℤ :=
  let (redis, n) := redis.incrby key cost
  (if redis.ttlNegative key then redis.expire key windowS else redis, n)

/-- Hand a reservation back: the key is not created, and its value stays above zero. -/
def RL_REFUND_SCRIPT (redis : Redis) (key : Key) (n : ℤ) : Redis :=
  match redis.keys key with
  | none => redis
  | some counter =>
    if counter.value + n < 0 then redis.put key { counter with value := 0 }
    else redis.put key { counter with value := counter.value + n }

def Redis.decr (redis : Redis) (key : Key) : Redis := (redis.incrby key (-1)).1

/-! ## The requests -/

/-- What a request knows of a key it has charged, and the creation it was. -/
structure Mark where
  born : ℕ
  /-- The script's answer was within the maximum. -/
  granted : Bool
  deriving DecidableEq

/-- A request that creates devices: `POST /v1/devices` reserves one, an import its rows. -/
structure Creation where
  tenant : TenantId
  /-- `POST /v1/devices`, which counts its device once `activateDevice` has returned. -/
  single : Bool
  cost : ℕ
  mark : Option Mark
  /-- The devices whose rows it has written. -/
  landed : ℕ
  /-- `created` of the handler. -/
  created : ℕ
  settled : Bool
  landed_le : landed ≤ cost
  created_le : created ≤ landed
  mark_of_settled : settled = true → mark.isSome = true

/-- The three quotas of an SMS, in the order they are asked. -/
inductive Quota
  | device
  | tenant
  | global
  deriving DecidableEq

inductive SmsStatus
  | checking
  | sent
  /-- The enqueue has failed; the budget of these quotas has gone back. -/
  | failed (back : Quota → Bool)

/-- A request that sends an SMS. -/
structure Sms where
  device : DeviceId
  tenant : TenantId
  marks : Quota → Option Mark
  status : SmsStatus

inductive Request
  | creation (request : Creation)
  | sms (request : Sms)

structure Limits where
  deviceMax : ℕ
  deviceWindowS : ℕ
  perDevicePerDay : ℕ
  perTenantPerDay : ℕ
  globalPerDay : ℕ
  deriving DecidableEq

def Limits.max (limits : Limits) : Key → ℕ
  | .devcreate _ => limits.deviceMax
  | .smsDev _ => limits.perDevicePerDay
  | .smsTen _ => limits.perTenantPerDay
  | .smsGlobal => limits.globalPerDay

/-- `86_400` -/
def smsWindowS : ℕ := 86400

def Sms.key (request : Sms) : Quota → Key
  | .device => .smsDev request.device
  | .tenant => .smsTen request.tenant
  | .global => .smsGlobal

def Quota.earlier : Quota → List Quota
  | .device => []
  | .tenant => [.device]
  | .global => [.device, .tenant]

def Sms.granted (request : Sms) (quota : Quota) : Bool := (request.marks quota).any Mark.granted

/-! ## The steps -/

structure State where
  redis : Redis
  requests : List Request

def start : State := ⟨.empty, []⟩

inductive Move
  | wait (ms : ℕ)
  /-- An operator deletes a key. -/
  | del (key : Key)
  /-- `POST /v1/devices` begins. -/
  | create (tenant : TenantId)
  /-- `POST /v1/devices/import` begins, with so many rows. -/
  | import (tenant : TenantId) (rows : ℕ)
  /-- `reserveDeviceBudget` runs its script. -/
  | reserve (request : ℕ)
  /-- A device's row is written. -/
  | land (request : ℕ)
  /-- `activateDevice` has returned, in `POST /v1/devices`. -/
  | activated (request : ℕ)
  /-- `settleDeviceBudget`, after a refusal or at the end of the work. -/
  | settle (request : ℕ)
  /-- `POST /v1/devices/:id/sms` begins. -/
  | send (device : DeviceId) (tenant : TenantId)
  /-- `over`, for one quota. -/
  | overQuota (request : ℕ) (quota : Quota)
  | enqueue (request : ℕ) (ok : Bool)
  /-- One of the three `decr` of the hand-back. -/
  | decr (request : ℕ) (quota : Quota)
  deriving DecidableEq

def State.set (s : State) (i : ℕ) (redis : Redis) (request : Request) : State :=
  ⟨redis, s.requests.set i request⟩

/-- `reserveDeviceBudget`, up to the answer of its script. -/
def Creation.reserve (limits : Limits) (redis : Redis) (r : Creation) : Option (Redis × Creation) :=
  match r.mark with
  | some _ => none
  | none =>
    let key := Key.devcreate r.tenant
    let (redis, used) := RL_ADD_SCRIPT redis key limits.deviceWindowS r.cost
    some (redis, { r with
      mark := some ⟨redis.births key, used ≤ limits.deviceMax⟩
      mark_of_settled := fun _ => rfl })

/-- Are there rows left to write for a request whose reservation was taken? -/
def Creation.open (r : Creation) : Bool := r.mark.any Mark.granted && !r.settled

/-- A row is written.  An import counts it at once. -/
def Creation.land (r : Creation) : Option Creation :=
  if h : r.open ∧ r.landed < r.cost then
    some { r with
      landed := r.landed + 1
      created := if r.single then r.created else r.landed + 1
      landed_le := h.2
      created_le := by
        have := r.created_le
        split <;> omega }
  else none

/-- `created = 1`, where the row has been written. -/
def Creation.activated (r : Creation) : Option Creation :=
  if r.open ∧ r.single then some { r with created := r.landed, created_le := Nat.le_refl _ } else none

/-- `settleDeviceBudget` with what the handler has counted. -/
def Creation.settle (redis : Redis) (r : Creation) : Option (Redis × Creation) :=
  if h : r.mark.isSome ∧ ¬ r.settled then
    let unused : ℤ := r.cost - r.created
    some (if unused ≤ 0 then redis else RL_REFUND_SCRIPT redis (.devcreate r.tenant) (-unused),
      { r with settled := true, mark_of_settled := fun _ => h.1 })
  else none

/-- `over(key, max, 86_400)`, once the quotas before have let the request through. -/
def Sms.overQuota (limits : Limits) (redis : Redis) (r : Sms) (quota : Quota) :
    Option (Redis × Sms) :=
  match r.status, r.marks quota with
  | .checking, none =>
    if quota.earlier.all r.granted then
      let key := r.key quota
      let (redis, n) := RL_SCRIPT redis key smsWindowS
      some (redis, { r with
        marks := update r.marks quota (some ⟨redis.births key, n ≤ limits.max key⟩) })
    else none
  | _, _ => none

def Sms.enqueue (r : Sms) (ok : Bool) : Option Sms :=
  match r.status with
  | .checking =>
    if r.granted .device ∧ r.granted .tenant ∧ r.granted .global then
      some { r with status := if ok then .sent else .failed fun _ => false }
    else none
  | _ => none

def Sms.decr (redis : Redis) (r : Sms) (quota : Quota) : Option (Redis × Sms) :=
  match r.status with
  | .failed back =>
    if back quota then none
    else
      some (redis.decr (r.key quota), { r with status := .failed (update back quota true) })
  | _ => none

/-- The request of an index that creates devices. -/
def State.creation? (s : State) (i : ℕ) : Option Creation :=
  match s.requests[i]? with
  | some (.creation r) => some r
  | _ => none

/-- The request of an index that sends an SMS. -/
def State.sms? (s : State) (i : ℕ) : Option Sms :=
  match s.requests[i]? with
  | some (.sms r) => some r
  | _ => none

def newCreation (tenant : TenantId) (single : Bool) (cost : ℕ) : Creation :=
  ⟨tenant, single, cost, none, 0, 0, false, Nat.zero_le _, Nat.le_refl _, fun h => nomatch h⟩

def newSms (device : DeviceId) (tenant : TenantId) : Sms :=
  ⟨device, tenant, fun _ => none, .checking⟩

def step (limits : Limits) (s : State) : Move → Option State
  | .wait ms => some { s with redis := s.redis.wait ms }
  | .del key => some { s with redis := s.redis.del key }
  | .create tenant =>
    some { s with requests := s.requests ++ [.creation (newCreation tenant true 1)] }
  | .import tenant rows =>
    some { s with requests := s.requests ++ [.creation (newCreation tenant false rows)] }
  | .reserve i => do
    let r ← s.creation? i
    let (redis, r) ← r.reserve limits s.redis
    some (s.set i redis (.creation r))
  | .land i => do
    let r ← s.creation? i
    let r ← r.land
    some (s.set i s.redis (.creation r))
  | .activated i => do
    let r ← s.creation? i
    let r ← r.activated
    some (s.set i s.redis (.creation r))
  | .settle i => do
    let r ← s.creation? i
    let (redis, r) ← r.settle s.redis
    some (s.set i redis (.creation r))
  | .send device tenant => some { s with requests := s.requests ++ [.sms (newSms device tenant)] }
  | .overQuota i quota => do
    let r ← s.sms? i
    let (redis, r) ← r.overQuota limits s.redis quota
    some (s.set i redis (.sms r))
  | .enqueue i ok => do
    let r ← s.sms? i
    let r ← r.enqueue ok
    some (s.set i s.redis (.sms r))
  | .decr i quota => do
    let r ← s.sms? i
    let (redis, r) ← r.decr s.redis quota
    some (s.set i redis (.sms r))

/-! ## What the ceilings promise -/

/-- The units a request has put on a creation of a key and not taken back. -/
structure Charge where
  born : ℕ
  units : ℕ
  granted : Bool

def Creation.units (r : Creation) : ℕ := if r.settled then r.created else r.cost

def Sms.units (r : Sms) (quota : Quota) : ℕ :=
  match r.status with
  | .failed back => if back quota then 0 else 1
  | _ => 1

def Sms.quota? (r : Sms) : Key → Option Quota
  | .devcreate _ => none
  | .smsDev device => if device = r.device then some .device else none
  | .smsTen tenant => if tenant = r.tenant then some .tenant else none
  | .smsGlobal => some .global

def Request.charge (request : Request) (key : Key) : Option Charge :=
  match request with
  | .creation r =>
    if key = .devcreate r.tenant then r.mark.map fun mark => ⟨mark.born, r.units, mark.granted⟩
    else none
  | .sms r =>
    (r.quota? key).bind fun quota =>
      (r.marks quota).map fun mark => ⟨mark.born, r.units quota, mark.granted⟩

/-- The devices whose rows a request has written, or the SMS it has enqueued. -/
def Request.work : Request → ℕ
  | .creation r => r.landed
  | .sms r => match r.status with
    | .sent => 1
    | _ => 0

def Request.weigh (key : Key) (born : ℕ) (weight : Charge → ℕ) (request : Request) : ℤ :=
  match request.charge key with
  | some charge => if charge.born = born then weight charge else 0
  | none => 0

/-- What is still on the counter of a request's units. -/
def Request.owed (key : Key) (born : ℕ) : Request → ℤ := Request.weigh key born Charge.units

def Request.granted (key : Key) (born : ℕ) : Request → ℤ :=
  Request.weigh key born fun charge => if charge.granted then charge.units else 0

/-- The granted units that were consumed. -/
def Request.consumed (key : Key) (born : ℕ) (request : Request) : ℤ :=
  request.weigh key born fun charge => if charge.granted then request.work else 0

def State.total (s : State) (weight : Request → ℤ) : ℤ := (s.requests.map weight).sum

def Move.IsHandBack : Move → Prop
  | .settle _ | .decr _ _ => True
  | _ => False

/-- The keys are there as before, and expire as before. -/
def Redis.SameWindows (redis redis' : Redis) : Prop :=
  ∀ key, (redis'.keys key).map Counter.expires = (redis.keys key).map Counter.expires

/-- The ceilings, over a run from the start. -/
structure CeilingsHold (limits : Limits) (moves : List Move) : Prop where
  nonneg : ∀ before s, before <+: moves → Machine.run (step limits) start before = some s →
    ∀ key counter, s.redis.keys key = some counter → 0 ≤ counter.value
  handBack : ∀ before move s s', before ++ [move] <+: moves →
    Machine.run (step limits) start before = some s → step limits s move = some s' →
    move.IsHandBack → s.redis.SameWindows s'.redis
  consumed_le : ∀ before s, before <+: moves → Machine.run (step limits) start before = some s →
    ∀ key born, s.total (Request.consumed key born) ≤ limits.max key

/-- A hand-back finds the creation of the key its units were charged to, and a device is handed back
that was not created.  The refund script may find no key; `decr` may not. -/
def HandBackHome (s : State) : Move → Prop
  | .settle i => ∀ r ∈ s.creation? i, r.landed ≤ r.created ∧
    (r.created < r.cost → ∀ mark ∈ r.mark, ∀ counter ∈ s.redis.keys (.devcreate r.tenant),
      counter.born = mark.born)
  | .decr i quota => ∀ r ∈ s.sms? i, ∃ mark ∈ r.marks quota,
    ∃ counter ∈ s.redis.keys (r.key quota), counter.born = mark.born
  | _ => True

instance (s : State) : ∀ move, Decidable (HandBackHome s move)
  | .settle _ | .decr _ _ => by dsimp only [HandBackHome]; infer_instance
  | .wait _ | .del _ | .create _ | .import _ _ | .reserve _ | .land _ | .activated _
  | .send _ _ | .overQuota _ _ | .enqueue _ _ => .isTrue trivial

end Orbetra.Ceilings
