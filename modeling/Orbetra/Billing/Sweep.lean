import Orbetra.Billing.Subscription
import Orbetra.Framework.Async

/-!
# The lapse sweep

`runLapseSweep` of `apps/worker/src/jobs/lapseSweepWorker.ts` and the delivery of a subscription event
by the Stripe webhook of `apps/api/src/routes/billing.ts`, with what they call of
`packages/db/src/repos/tenants.ts` and `packages/registry/src/index.ts`.  Every `await` is a command:
a query of Postgres, one command or one `MULTI` of Redis, or a job put on the mail queue.
-/

namespace Orbetra

open Function Async

namespace Billing

/-! ## The state -/

/-- A row of `registryDevicesFor`: a device that is not retired.  `config` is the `deviceConfigValue`
of its profile's rules and table and of its odometer source. -/
structure RegistryDevice where
  id : ℕ
  imei : String
  tenantId : String
  accountId : String
  config : String
  deriving DecidableEq

/-- The registry's keys in Redis. -/
structure Registry where
  /-- `registry:imei` -/
  imei : String → Option ℕ
  /-- `device:tenant` -/
  tenant : ℕ → Option String
  /-- `device:account` -/
  account : ℕ → Option String
  /-- `device:config` -/
  config : ℕ → Option String
  /-- the index of a tenant, `tenantDevicesKey` -/
  tenantDevices : String → List ℕ

/-- The oldest admin of a tenant. -/
structure Contact where
  email : String
  locale : String
  deriving DecidableEq

/-- `enqueueLapseEmail`'s job. -/
structure LapseEmail where
  email : String
  tenantId : String
  locale : String
  billingUrl : String
  daysLeft : ℕ
  deriving DecidableEq

/-- What has happened.  No program reads it. -/
inductive Happened
  /-- a device was put into the registry -/
  | activated (id : ℕ)
  /-- a job was put on the queue, in the lapse episode `lapsedAt` of its tenant -/
  | enqueued (job : LapseEmail) (lapsedAt : Option Ms) (reachable : Bool)
  /-- a live status was applied -/
  | live (tenantId : String)
  | suspended (tenantId : String) (lapsedAt : Option Ms)
  deriving DecidableEq

/-- Postgres, Redis and the mail queue; `log` is what has happened. -/
structure SweepStore where
  db : Store
  contact : String → Option Contact
  devices : List RegistryDevice
  /-- the addresses that `isSuppressed` finds -/
  suppressed : String → Bool
  registry : Registry
  log : List Happened

/-! ## Who has lapsed -/

def lapsedSubscriptionStatuses : List String := ["canceled", "unpaid", "incomplete_expired", "paused"]

/-- A trial without a Stripe subscription. -/
def trialExpired (t : Tenant) : Prop :=
  t.subscriptionStatus = some "trialing" ∧ t.stripeSubscriptionId = none

instance (t : Tenant) : Decidable (trialExpired t) := inferInstanceAs (Decidable (_ ∧ _))

/-- The instant of the lapse, which marks the episode. -/
def lapsedAt (t : Tenant) : Option Ms :=
  if trialExpired t then t.currentPeriodEnd else t.lastBillingEventAt

/-- The `where` of `listLapsedTenants`. -/
def isLapsed (now : Ms) (t : Tenant) : Prop :=
  (∃ status ∈ t.subscriptionStatus, status ∈ lapsedSubscriptionStatuses) ∨
    trialExpired t ∧ t.currentPeriodEnd.any (· < now)

instance (now : Ms) (t : Tenant) : Decidable (isLapsed now t) := inferInstanceAs (Decidable (_ ∨ _))

/-- `sameEpisode` -/
def sameEpisode (recordedFor lapsedAt : Option Ms) : Prop := recordedFor = lapsedAt

instance (recordedFor lapsedAt : Option Ms) : Decidable (sameEpisode recordedFor lapsedAt) :=
  inferInstanceAs (Decidable (_ = _))

structure LapsedTenant where
  tenantId : String
  lapsedAt : Option Ms
  activeDevices : ℕ
  suspendedAt : Option Ms
  noticeStage : ℕ
  contactEmail : Option String
  contactLocale : String
  deriving DecidableEq

/-- The row of `listLapsedTenants` for a tenant. -/
def lapsedTenant (s : SweepStore) (t : Tenant) : LapsedTenant where
  tenantId := t.id
  lapsedAt := lapsedAt t
  activeDevices := s.devices.countP (·.tenantId = t.id)
  suspendedAt := t.suspendedAt
  -- a stage that was recorded for another episode counts for nothing
  noticeStage := if sameEpisode t.lapseNoticeFor (lapsedAt t) then t.lapseNoticeStage else 0
  contactEmail := (s.contact t.id).map Contact.email
  contactLocale := ((s.contact t.id).map Contact.locale).getD "en"

/-- `listLapsedTenants` -/
def listLapsedTenants (s : SweepStore) (now : Ms) : List LapsedTenant :=
  (s.db.tenants.filter (isLapsed now)).map (lapsedTenant s)

/-! ## The commands -/

def SweepStore.updateTenant (s : SweepStore) (tenantId : String) (f : Tenant → Tenant) : SweepStore :=
  { s with db := { s.db with
      tenants := s.db.tenants.map fun t => if t.id = tenantId then f t else t } }

def SweepStore.tenant (s : SweepStore) (tenantId : String) : Option Tenant :=
  s.db.tenants.find? (·.id = tenantId)

/-- The row is there and `suspendedAt` is set. -/
def SweepStore.isSuspended (s : SweepStore) (tenantId : String) : Bool :=
  ((s.tenant tenantId).bind Tenant.suspendedAt).isSome

def SweepStore.logged (s : SweepStore) (e : Happened) : SweepStore := { s with log := s.log ++ [e] }

/-- The contact of the tenant has this address, and it is not suppressed. -/
def SweepStore.reachable (s : SweepStore) (tenantId email : String) : Bool :=
  (s.contact tenantId).any (·.email = email) && !s.suppressed email

/-- `markLapseNotice`: monotonic within an episode. -/
def markLapseNotice (stage : ℕ) (forLapse : Option Ms) (t : Tenant) : Tenant :=
  if (∃ f ∈ forLapse, ∃ g ∈ t.lapseNoticeFor, g ≠ f) ∨ t.lapseNoticeStage < stage then
    { t with lapseNoticeStage := stage, lapseNoticeFor := forLapse }
  else t

def unsuspend (keepLadder : Bool) (t : Tenant) : Tenant :=
  if t.suspendedAt = none then t
  else
    { t with
      suspendedAt := none
      lapseNoticeStage := if keepLadder then t.lapseNoticeStage else 0
      lapseNoticeFor := if keepLadder then t.lapseNoticeFor else none }

def Registry.activate (r : Registry) (d : RegistryDevice) (prevTenant : Option String) : Registry where
  imei := update r.imei d.imei (some d.id)
  tenant := update r.tenant d.id (some d.tenantId)
  account := update r.account d.id (some d.accountId)
  config := update r.config d.id (some d.config)
  tenantDevices := fun t =>
    if t = d.tenantId then d.id :: (r.tenantDevices t).filter (· ≠ d.id)
    else if prevTenant = some t then (r.tenantDevices t).filter (· ≠ d.id)
    else r.tenantDevices t

def Registry.hdelIfMine (r : Registry) (d : RegistryDevice) : Registry :=
  if r.imei d.imei = some d.id then { r with imei := update r.imei d.imei none } else r

/-- The `MULTI` of `deactivateDevice`. -/
def Registry.drop (r : Registry) (d : RegistryDevice) : Registry where
  imei := r.imei
  tenant := update r.tenant d.id none
  account := update r.account d.id none
  config := update r.config d.id none
  tenantDevices := fun t =>
    if t = d.tenantId then (r.tenantDevices t).filter (· ≠ d.id) else r.tenantDevices t

/-- What the sweep and the webhook send. -/
inductive SweepCall
  | listLapsedTenants (now : Ms)
  | listSuspended
  | registryDevicesFor (tenantId : String)
  | deviceTenant (id : ℕ)
  | activate (d : RegistryDevice) (prevTenant : Option String)
  | hdelIfMine (d : RegistryDevice)
  | drop (d : RegistryDevice)
  | isSuppressed (email : String)
  | enqueueLapseEmail (job : LapseEmail)
  | markLapseNotice (tenantId : String) (stage : ℕ) (forLapse : Option Ms)
  | isSuspended (tenantId : String)
  | suspend (tenantId : String) (time : Ms)
  | unsuspend (tenantId : String) (keepLadder : Bool)
  | applySubscriptionEvent (event : SubscriptionEvent) (data : SubscriptionUpdate)
  | tenantIdForCustomer (stripeCustomerId : String)

abbrev SweepCall.Answer : SweepCall → Type
  | .listLapsedTenants _ => List LapsedTenant
  | .listSuspended => List String
  | .registryDevicesFor _ => List RegistryDevice
  | .deviceTenant _ => Option String
  | .isSuppressed _ => Bool
  | .isSuspended _ => Bool
  | .suspend _ _ => Bool
  | .unsuspend _ _ => Bool
  | .applySubscriptionEvent _ _ => ApplyOutcome
  | .tenantIdForCustomer _ => Option String
  | _ => Unit

/-- An event is applied to the row of its customer. -/
def SweepStore.apply (s : SweepStore) (event : SubscriptionEvent) (data : SubscriptionUpdate) :
    SweepStore × ApplyOutcome :=
  let (db, outcome) := applySubscriptionEvent event data s.db
  let live := if outcome = .applied ∧ isLive data.subscriptionStatus then
    (s.db.tenants.filter (admits event data)).map fun t => Happened.live t.id else []
  ({ s with db := db, log := s.log ++ live }, outcome)

def SweepCall.run : (c : SweepCall) → SweepStore → SweepStore × c.Answer
  | .listLapsedTenants now, s => (s, Billing.listLapsedTenants s now)
  | .listSuspended, s => (s, (s.db.tenants.filter (·.suspendedAt.isSome)).map Tenant.id)
  | .registryDevicesFor tenantId, s => (s, s.devices.filter (·.tenantId = tenantId))
  | .deviceTenant id, s => (s, s.registry.tenant id)
  | .activate d prevTenant, s =>
    ({ s.logged (.activated d.id) with registry := s.registry.activate d prevTenant }, ())
  | .hdelIfMine d, s => ({ s with registry := s.registry.hdelIfMine d }, ())
  | .drop d, s => ({ s with registry := s.registry.drop d }, ())
  | .isSuppressed email, s => (s, s.suppressed email)
  | .enqueueLapseEmail job, s =>
    (s.logged (.enqueued job ((s.tenant job.tenantId).bind lapsedAt)
      (s.reachable job.tenantId job.email)), ())
  | .markLapseNotice tenantId stage forLapse, s =>
    (s.updateTenant tenantId (Billing.markLapseNotice stage forLapse), ())
  | .isSuspended tenantId, s => (s, s.isSuspended tenantId)
  | .suspend tenantId time, s =>
    match s.tenant tenantId with
    | none => (s, false)
    | some t =>
      if t.suspendedAt = none then
        ((s.updateTenant tenantId fun t => { t with suspendedAt := some time }).logged
          (.suspended tenantId (lapsedAt t)), true)
      else (s, false)
  | .unsuspend tenantId keepLadder, s =>
    (s.updateTenant tenantId (Billing.unsuspend keepLadder), s.isSuspended tenantId)
  | .applySubscriptionEvent event data, s => s.apply event data
  | .tenantIdForCustomer stripeCustomerId, s =>
    (s, (s.db.tenantOfCustomer stripeCustomerId).map Tenant.id)

/-- Postgres, Redis and the mail queue. -/
abbrev sweepService : Service SweepStore := ⟨SweepCall, SweepCall.Answer, SweepCall.run⟩

/-- Redis and Postgres answer; the mail queue may not. -/
def Answered : SweepCall → Fate → Prop
  | .enqueueLapseEmail _, _ => True
  | _, fate => fate = .ok

instance (c : SweepCall) (fate : Fate) : Decidable (Answered c fate) :=
  match c with
  | .enqueueLapseEmail _ => .isTrue trivial
  | .listLapsedTenants _ | .listSuspended | .registryDevicesFor _ | .deviceTenant _
  | .activate _ _ | .hdelIfMine _ | .drop _ | .isSuppressed _ | .markLapseNotice _ _ _
  | .isSuspended _ | .suspend _ _ | .unsuspend _ _ | .applySubscriptionEvent _ _
  | .tenantIdForCustomer _ => inferInstanceAs (Decidable (fate = .ok))

/-! ## The sweep -/

structure LapseSweepResult where
  tenants : ℕ
  devices : ℕ
  actionable : ℕ
  warned : ℕ
  suspended : ℕ
  restored : ℕ
  deriving DecidableEq

/-- What is thrown carries the counts of the sweep at that point. -/
abbrev Sweep (α : Type) := Async sweepService LapseSweepResult α

def sweepCall (r : LapseSweepResult) (c : SweepCall) : Sweep c.Answer :=
  send (V := sweepService) r c

def activateDevice (r : LapseSweepResult) (d : RegistryDevice) : Sweep Unit := do
  let prevTenant ← sweepCall r (.deviceTenant d.id)
  sweepCall r (.activate d prevTenant)

def deactivateDevice (r : LapseSweepResult) (d : RegistryDevice) : Sweep Unit := do
  sweepCall r (.hdelIfMine d)
  sweepCall r (.drop d)

def restoreTenantDevices (r : LapseSweepResult) (devices : List RegistryDevice) : Sweep Unit :=
  devices.foldlM (fun _ d => activateDevice r d) ()

def suspendTenantDevices (r : LapseSweepResult) (devices : List RegistryDevice) : Sweep Unit :=
  devices.foldlM (fun _ d => deactivateDevice r d) ()

def dayMs : ℤ := 86400000

def suspendAfterDays : ℕ := 3

def maxSuspensionsPerRun : ℕ := 50

structure SweepDeps where
  redis : Bool
  mail : Bool
  appBaseUrl : Option String

namespace SweepDeps

def canMail (deps : SweepDeps) : Bool := deps.mail && deps.appBaseUrl.isSome

/-- The link in the notices, without trailing slashes in its base. -/
def billingUrl (deps : SweepDeps) : String :=
  String.ofList (((deps.appBaseUrl.getD "").toList.reverse.dropWhile (· = '/')).reverse) ++
    "/app/billing"

end SweepDeps

/-- `daysPastGrace` -/
def daysPastGrace (t : LapsedTenant) (nowMs : Ms) (graceDays : ℤ) : Option ℤ :=
  t.lapsedAt.map fun lapsedAt => (nowMs - lapsedAt) / dayMs - graceDays

def noticeDue (pastGrace : ℤ) (sentStage : ℕ) : Option ℕ :=
  if pastGrace < 0 then none
  else
    let due := min (pastGrace.toNat + 1) suspendAfterDays
    if sentStage < due then some due else none

/-- `isActionable` -/
def isActionable (t : LapsedTenant) (nowMs : Ms) (graceDays : ℤ) : Bool :=
  (daysPastGrace t nowMs graceDays).all (0 ≤ ·)

/-- `isSuppressedContact`: fails open. -/
def isSuppressedContact (r : LapseSweepResult) (email : String) : Sweep Bool :=
  attempt (fun _ => pure false) (sweepCall r (.isSuppressed email))

def isReachable (r : LapseSweepResult) (t : LapsedTenant) : Sweep Bool :=
  match t.contactEmail with
  | none => pure false
  | some email => do
    let suppressed ← isSuppressedContact r email
    pure (!suppressed)

/-- Bring back a tenant that has paid. -/
def restoreTenant (lapsed : List LapsedTenant) (r : LapseSweepResult) (tenantId : String) :
    Sweep LapseSweepResult :=
  if lapsed.any (·.tenantId = tenantId) then pure r
  else
    attempt pure (do
      let devices ← sweepCall r (.registryDevicesFor tenantId)
      restoreTenantDevices r devices
      let _ ← sweepCall r (.unsuspend tenantId false)
      pure { r with restored := r.restored + 1 })

def restoreAll (deps : SweepDeps) (lapsed : List LapsedTenant) (r : LapseSweepResult) :
    Sweep LapseSweepResult :=
  if deps.redis then do
    let suspended ← sweepCall r .listSuspended
    suspended.foldlM (restoreTenant lapsed) r
  else pure r

/-- Step 2: the notice that is due. -/
def warn (deps : SweepDeps) (t : LapsedTenant) (past : ℤ) (reachable : Bool) (r : LapseSweepResult) :
    Sweep LapseSweepResult :=
  match t.contactEmail, noticeDue past t.noticeStage with
  | some email, some due =>
    if deps.canMail && reachable then do
      sweepCall r (.enqueueLapseEmail
        ⟨email, t.tenantId, t.contactLocale, deps.billingUrl, suspendAfterDays - (due - 1)⟩)
      sweepCall r (.markLapseNotice t.tenantId due t.lapsedAt)
      pure { r with warned := r.warned + 1 }
    else pure r
  | _, _ => pure r

def tellSuspended (deps : SweepDeps) (t : LapsedTenant) (reachable : Bool) (r : LapseSweepResult) :
    Sweep Unit :=
  match t.contactEmail with
  | some email =>
    when (reachable = true)
      (sweepCall r (.enqueueLapseEmail ⟨email, t.tenantId, t.contactLocale, deps.billingUrl, 0⟩))
  | none => pure ()

def cutOff (deps : SweepDeps) (nowMs : Ms) (t : LapsedTenant) (past : ℤ) (reachable : Bool)
    (r : LapseSweepResult) : Sweep LapseSweepResult :=
  if t.suspendedAt.isSome then do
    let suspended ← sweepCall r (.isSuspended t.tenantId)
    if suspended && deps.redis then do
      let devices ← sweepCall r (.registryDevicesFor t.tenantId)
      suspendTenantDevices r devices
      pure r
    else pure r
  else if suspendAfterDays ≤ past ∧ suspendAfterDays ≤ t.noticeStage ∧ deps.redis ∧ deps.canMail ∧
      r.suspended < maxSuspensionsPerRun then do
    let cut ← sweepCall r (.suspend t.tenantId nowMs)
    if cut then do
      let r := { r with suspended := r.suspended + 1 }
      let devices ← sweepCall r (.registryDevicesFor t.tenantId)
      suspendTenantDevices r devices
      tellSuspended deps t reachable r
      pure r
    else pure r
  else pure r

/-- The ladder for one tenant; its failure does not stop the others. -/
def climb (deps : SweepDeps) (nowMs : Ms) (graceDays : ℤ) (r : LapseSweepResult) (t : LapsedTenant) :
    Sweep LapseSweepResult :=
  match daysPastGrace t nowMs graceDays with
  | none => pure r
  | some past =>
    if past < 0 then pure r
    else
      attempt pure (do
        let reachable ← isReachable r t
        let r ← warn deps t past reachable r
        cutOff deps nowMs t past reachable r)

def noCounts : LapseSweepResult := ⟨0, 0, 0, 0, 0, 0⟩

/-- `runLapseSweep` -/
def runLapseSweep (deps : SweepDeps) (nowMs : Ms) (graceDays : ℤ) : Sweep LapseSweepResult := do
  let lapsed ← sweepCall noCounts (.listLapsedTenants nowMs)
  let r ← restoreAll deps lapsed
    { noCounts with
      tenants := lapsed.length
      devices := (lapsed.map LapsedTenant.activeDevices).sum
      actionable := lapsed.countP fun t => isActionable t nowMs graceDays }
  lapsed.foldlM (climb deps nowMs graceDays) r

/-! ## The webhook -/

/-- Bring the devices of a customer back; a failure is logged. -/
def restoreOnPayment (stripeCustomerId : String) : Sweep Unit :=
  attempt (fun _ => pure ()) (do
    let tenantId ← sweepCall noCounts (.tenantIdForCustomer stripeCustomerId)
    match tenantId with
    | none => pure ()
    | some tenantId => do
      let suspended ← sweepCall noCounts (.isSuspended tenantId)
      if suspended then do
        let devices ← sweepCall noCounts (.registryDevicesFor tenantId)
        restoreTenantDevices noCounts devices
        let _ ← sweepCall noCounts (.unsuspend tenantId false)
        pure ()
      else pure ())

def deliverSubscription (event : SubscriptionEvent) (data : SubscriptionUpdate) : Sweep ApplyOutcome := do
  let outcome ← sweepCall noCounts (.applySubscriptionEvent event data)
  when (outcome = .applied ∧ isLive data.subscriptionStatus)
    (restoreOnPayment event.stripeCustomerId)
  pure outcome

/-! ## The rows of the tenants -/

section Rows

variable {t : String} {f : Tenant → Tenant}

/-- Rows that are updated in place are found again. -/
lemma tenant_map (hid : ∀ row, (f row).id = row.id) (db : List Tenant) :
    (db.map f).find? (·.id = t) = (db.find? (·.id = t)).map f := by
  rw [List.find?_map]
  congr 2
  funext row
  exact congrArg (fun id => decide (id = t)) (hid row)

lemma tenantOfCustomer_map (hcustomer : ∀ row, (f row).stripeCustomerId = row.stripeCustomerId)
    (db : List Tenant) (c : String) :
    (db.map f).find? (·.stripeCustomerId = some c) =
      (db.find? (·.stripeCustomerId = some c)).map f := by
  rw [List.find?_map]
  congr 2
  funext row
  exact congrArg (fun id => decide (id = some c)) (hcustomer row)

lemma unsuspend_id (keepLadder : Bool) (row : Tenant) : (unsuspend keepLadder row).id = row.id := by
  unfold unsuspend
  split <;> rfl

lemma unsuspend_stripeCustomerId (keepLadder : Bool) (row : Tenant) :
    (unsuspend keepLadder row).stripeCustomerId = row.stripeCustomerId := by
  unfold unsuspend
  split <;> rfl

lemma applySubscriptionEvent_rows (event : SubscriptionEvent) (data : SubscriptionUpdate) (db : Store) :
    ∃ f : Tenant → Tenant, (applySubscriptionEvent event data db).1.tenants = db.tenants.map f ∧
      (∀ row, (f row).id = row.id) ∧ (∀ row, (f row).stripeCustomerId = row.stripeCustomerId) ∧
      ∀ row, (f row).suspendedAt = row.suspendedAt := by
  unfold applySubscriptionEvent
  split
  · exact ⟨id, (List.map_id _).symm, fun _ => rfl, fun _ => rfl, fun _ => rfl⟩
  dsimp only
  split
  · refine ⟨_, rfl, ?_, ?_, ?_⟩
    all_goals
      intro row
      split <;> rfl
  split
  · exact ⟨id, (List.map_id _).symm, fun _ => rfl, fun _ => rfl, fun _ => rfl⟩
  · exact ⟨id, (List.map_id _).symm, fun _ => rfl, fun _ => rfl, fun _ => rfl⟩

end Rows

end Billing

end Orbetra
