import Orbetra.Billing.Subscription
import Orbetra.Framework.Async

/-!
# The overage reporter

`reportDailyOverage` of `apps/worker/src/billing/usageReporter.ts` with the part of
`packages/db/src/repos/usage.ts` and `tenants.ts` that it calls.  A day's overage is submitted to
Stripe's additive meter in segments from the value reported so far to the value due; a segment is
written to `usage_reports` before the meter is called and confirmed afterwards.  Every `await` of the
source is a command that may fail, with or without having taken effect.
-/

namespace Orbetra

namespace Billing

/-- A UTC day, counted from 1970-01-01; the source writes `YYYY-MM-DD`. -/
abbrev Day := ℤ

/-- `Date.parse` of `day` at 00:00 UTC. -/
def dayStart (day : Day) : Ms := day * 86400000

/-- `utcDayBefore` -/
def utcDayBefore (ms : Ms) (n : ℕ) : Day := (ms - n * 86400000) / 86400000

/-- `billableDays`: the complete days up to yesterday, oldest first. -/
def billableDays (nowMs : Ms) (backfillDays : ℕ) : List Day :=
  (List.range' 1 (max 1 backfillDays)).reverse.map (utcDayBefore nowMs)

/-- `meterTimestampS`: noon, in seconds. -/
def meterTimestampS (day : Day) : ℤ := (dayStart day + 43200000) / 1000

/-! ## Who is billed -/

/-- `isBillableSubscription` -/
def isBillableSubscription (subscriptionStatus : Option String) : Prop :=
  subscriptionStatus = some "active" ∨ subscriptionStatus = some "trialing" ∨
    subscriptionStatus = some "past_due"

instance (subscriptionStatus : Option String) : Decidable (isBillableSubscription subscriptionStatus) :=
  inferInstanceAs (Decidable (_ ∨ _ ∨ _))

structure ActiveSubscriber where
  tenantId : String
  stripeCustomerId : String
  subscriptionPriceId : Option String
  plan : String
  billableUntil : Option Ms
  priceEffectiveAt : Option Ms
  deriving DecidableEq

/-- The row of `listActiveSubscribers` for a tenant, if it is listed. -/
def subscriberOf (lapsedSince : Ms) (t : Tenant) : Option ActiveSubscriber :=
  match t.stripeCustomerId with
  | none => none
  | some stripeCustomerId =>
    if t.subscriptionStatus = none then none
    else if isBillableSubscription t.subscriptionStatus ∨
        t.lastBillingEventAt.any (lapsedSince ≤ ·) then
      some
        { tenantId := t.id
          stripeCustomerId := stripeCustomerId
          subscriptionPriceId := t.subscriptionPriceId
          plan := t.plan
          billableUntil :=
            if isBillableSubscription t.subscriptionStatus then none else t.lastBillingEventAt
          priceEffectiveAt := t.subscriptionPriceEffectiveAt }
    else none

/-- `listActiveSubscribers` -/
def listActiveSubscribers (tenants : List Tenant) (lapsedSince : Ms) : List ActiveSubscriber :=
  tenants.filterMap (subscriberOf lapsedSince)

/-! ## The meter and the reports -/

/-- The identifier of a meter event: the text `overage:{day}:{customer}:{prev}-{over}`, from which the
four parts can be read back. -/
structure Identifier where
  day : Day
  customerId : String
  prev : ℕ
  overage : ℕ
  deriving DecidableEq

structure MeterEvent where
  identifier : Identifier
  customerId : String
  value : ℕ
  timestampS : ℤ
  deriving DecidableEq

/-- A row of `usage_reports`, without its key. -/
structure OverageReport where
  reported : ℕ
  included : Option ℕ
  priceId : Option String
  pendingTarget : Option ℕ
  pendingIdentifier : Option Identifier
  deriving DecidableEq

/-- The tables, and the events that Stripe has accepted.  `begun` records every segment that was ever
written as pending; the program does not read it. -/
structure UsageStore where
  tenants : List Tenant
  usage : String → List (Day × ℕ)
  reports : String × Day → Option OverageReport
  accepted : List MeterEvent
  begun : List ((String × Day) × ℕ)

/-- What the reporter sends. -/
inductive UsageCall
  | listActiveSubscribers (lapsedSince : Ms)
  | tenantSummary (tenantId : String) (first last : Day)
  | reportedOverage (tenantId : String) (first last : Day)
  | reportUsage (event : MeterEvent)
  | recordOverageReport (key : String × Day) (reported included : ℕ) (priceId : Option String)
  | beginOverageReport (key : String × Day) (prevReported pendingTarget : ℕ)
      (pendingIdentifier : Identifier) (included : ℕ) (priceId : Option String)
  | confirmOverageReport (key : String × Day) (confirmed : ℕ)

abbrev UsageCall.Answer : UsageCall → Type
  | .listActiveSubscribers _ => List ActiveSubscriber
  | .tenantSummary _ _ _ => List (Day × ℕ)
  | .reportedOverage _ _ _ => Day → Option OverageReport
  | .confirmOverageReport _ _ => Bool
  | _ => Unit

def UsageStore.setReport (s : UsageStore) (key : String × Day) (r : OverageReport) : UsageStore :=
  { s with reports := fun key' => if key' = key then some r else s.reports key' }

/-- Stripe ignores an identifier that it has accepted. -/
def UsageStore.accept (s : UsageStore) (event : MeterEvent) : UsageStore :=
  if s.accepted.any (·.identifier = event.identifier) then s
  else { s with accepted := s.accepted ++ [event] }

def UsageCall.run : (c : UsageCall) → UsageStore → UsageStore × c.Answer
  | .listActiveSubscribers lapsedSince, s => (s, Billing.listActiveSubscribers s.tenants lapsedSince)
  | .tenantSummary tenantId first last, s =>
    (s, (s.usage tenantId).filter fun row => first ≤ row.1 ∧ row.1 ≤ last)
  | .reportedOverage tenantId first last, s =>
    (s, fun day => if first ≤ day ∧ day ≤ last then s.reports (tenantId, day) else none)
  | .reportUsage event, s => (s.accept event, ())
  | .recordOverageReport key reported included priceId, s =>
    (s.setReport key ⟨reported, some included, priceId, none, none⟩, ())
  | .beginOverageReport key prevReported pendingTarget pendingIdentifier included priceId, s =>
    -- the row keeps what it has reported
    let reported := ((s.reports key).map OverageReport.reported).getD prevReported
    ({ s.setReport key ⟨reported, some included, priceId, some pendingTarget, some pendingIdentifier⟩ with
        begun := s.begun ++ [(key, pendingTarget)] }, ())
  | .confirmOverageReport key confirmed, s =>
    match s.reports key with
    | none => (s, false)
    | some r =>
      (s.setReport key { r with reported := confirmed, pendingTarget := none, pendingIdentifier := none },
        true)

/-- The database and the meter. -/
abbrev usageService : Service UsageStore := ⟨UsageCall, UsageCall.Answer, UsageCall.run⟩

inductive UsageError
  | fault
  /-- `update` of a row that is not there -/
  | notFound
  /-- thrown at the end of a run -/
  | failed (failures subscribers : ℕ)
  deriving DecidableEq

abbrev Usage (α : Type) := Async usageService UsageError α

def call (c : UsageCall) : Usage c.Answer := Async.send (V := usageService) UsageError.fault c

/-! ## A run -/

structure OverageRunResult where
  subscribers : ℕ
  reported : ℕ
  devicesOver : ℕ
  backfilled : ℕ
  unmappedPrices : ℕ
  allowanceSkips : ℕ
  redriven : ℕ
  frozenNoRowDays : ℕ
  deriving DecidableEq

def overageDevices (activeDevices included : ℕ) : ℕ := activeDevices - included

def confirmOverageReport (key : String × Day) (confirmed : ℕ) : Usage Unit := do
  let found ← call (.confirmOverageReport key confirmed)
  if found then pure () else .threw .notFound

/-- Drive a submission that is in flight; the value reported before anything new. -/
def redrive (s : ActiveSubscriber) (day : Day) (prior : Option OverageReport) : Usage (ℕ × ℕ) :=
  match prior with
  | none => pure (0, 0)
  | some prior =>
    match prior.pendingTarget, prior.pendingIdentifier with
    | some pendingTarget, some pendingIdentifier => do
      Async.when (prior.reported < pendingTarget)
        (call (.reportUsage ⟨pendingIdentifier, s.stripeCustomerId, pendingTarget - prior.reported,
          meterTimestampS day⟩))
      confirmOverageReport (s.tenantId, day) pendingTarget
      pure (pendingTarget, 1)
    | _, _ => pure (prior.reported, 0)

/-- Submit what the day is due beyond `prevReported`. -/
def submit (s : ActiveSubscriber) (included deviceDays : ℕ) (day : Day) (hasRow : Bool)
    (prevReported : ℕ) (out : OverageRunResult) : Usage OverageRunResult :=
  let overage := overageDevices deviceDays included
  if overage ≤ prevReported then do
    Async.when (hasRow = false)
      (call (.recordOverageReport (s.tenantId, day) overage included s.subscriptionPriceId))
    pure out
  else do
    let identifier : Identifier := ⟨day, s.stripeCustomerId, prevReported, overage⟩
    call (.beginOverageReport (s.tenantId, day) prevReported overage identifier included
      s.subscriptionPriceId)
    call (.reportUsage ⟨identifier, s.stripeCustomerId, overage - prevReported, meterTimestampS day⟩)
    confirmOverageReport (s.tenantId, day) overage
    pure { out with
      reported := out.reported + 1
      devicesOver := out.devicesOver + (overage - prevReported)
      backfilled := if 0 < prevReported then out.backfilled + 1 else out.backfilled }

/-- The day was recorded under another price. -/
def priceFrozen (s : ActiveSubscriber) (prior : Option OverageReport) : Prop :=
  (prior.bind OverageReport.priceId).isSome ∧ prior.bind OverageReport.priceId ≠ s.subscriptionPriceId

instance (s : ActiveSubscriber) (prior : Option OverageReport) : Decidable (priceFrozen s prior) :=
  inferInstanceAs (Decidable (_ ∧ _))

def noRowFrozen (s : ActiveSubscriber) (day : Day) (prior : Option OverageReport) : Prop :=
  prior = none ∧ s.priceEffectiveAt.any (dayStart day < ·)

instance (s : ActiveSubscriber) (day : Day) (prior : Option OverageReport) :
    Decidable (noRowFrozen s day prior) := inferInstanceAs (Decidable (_ ∧ _))

def reportDay (s : ActiveSubscriber) (included deviceDays : ℕ) (prior : Option OverageReport)
    (day : Day) (out : OverageRunResult) : Usage OverageRunResult :=
  if s.billableUntil.any (· ≤ dayStart day) then pure out
  else do
    let (prevReported, redriven) ← redrive s day prior
    let out := { out with redriven := out.redriven + redriven }
    if priceFrozen s prior then pure { out with allowanceSkips := out.allowanceSkips + 1 }
    else if noRowFrozen s day prior then
      pure { out with frozenNoRowDays := out.frozenNoRowDays + 1 }
    else submit s included deviceDays day prior.isSome prevReported out

def reportTenant (includedFor : String → Option ℕ) (window : List Day) (first last : Day)
    (s : ActiveSubscriber) (out : OverageRunResult) : Usage OverageRunResult :=
  match s.subscriptionPriceId.bind includedFor with
  | none =>
    pure (if s.plan.startsWith "tsp_" then { out with unmappedPrices := out.unmappedPrices + 1 }
      else out)
  | some included => do
    let usage ← call (.tenantSummary s.tenantId first last)
    let already ← call (.reportedOverage s.tenantId first last)
    window.foldlM (fun out day =>
      reportDay s included ((usage.lookup day).getD 0) (already day) day out) out

/-- The tenants one after another; one that fails does not stop the others. -/
def reportTenants (includedFor : String → Option ℕ) (window : List Day) (first last : Day)
    (subs : List ActiveSubscriber) : Usage (OverageRunResult × ℕ) :=
  subs.foldlM (fun (out, failures) s =>
    Async.attempt (fun _ => pure (out, failures + 1)) (do
      let out ← reportTenant includedFor window first last s out
      pure (out, failures))) (⟨subs.length, 0, 0, 0, 0, 0, 0, 0⟩, 0)

def reportDailyOverage (includedFor : String → Option ℕ) (days : List Day) :
    Usage OverageRunResult :=
  let window := days.mergeSort (· ≤ ·)
  match window.head?, window.getLast? with
  | some first, some last => do
    let subs ← call (.listActiveSubscribers (dayStart first))
    let (out, failures) ← reportTenants includedFor window first last subs
    if 0 < failures then .threw (.failed failures subs.length) else pure out
  | _, _ => pure ⟨0, 0, 0, 0, 0, 0, 0, 0⟩

end Billing

end Orbetra
