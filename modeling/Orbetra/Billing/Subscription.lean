import Orbetra.Records

/-!
# Subscription events

`applySubscriptionEvent` of `packages/db/src/repos/tenants.ts`, with the billing columns of `tenants`
and the ids of `billing_events`.  The function is one transaction: a redelivery is recognised by its
event id, and an event is applied where it is newer than the last one applied and, unless it is live,
does not take a live subscription away from another one.
-/

namespace Orbetra

namespace Billing

/-- The billing columns of a row of `tenants`. -/
structure Tenant where
  id : String
  plan : String
  stripeCustomerId : Option String
  stripeSubscriptionId : Option String
  subscriptionPriceId : Option String
  subscriptionPriceEffectiveAt : Option Ms
  subscriptionStatus : Option String
  currentPeriodEnd : Option Ms
  lastBillingEventAt : Option Ms
  lastBillingEventId : Option String
  lastBillingEventRank : Option ℕ
  suspendedAt : Option Ms
  lapseNoticeStage : ℕ
  lapseNoticeFor : Option Ms
  deriving DecidableEq

/-- The tenants, and the ids of the events that were claimed. -/
structure Store where
  tenants : List Tenant
  billingEvents : List String
  deriving DecidableEq

def Store.tenantOfCustomer (s : Store) (stripeCustomerId : String) : Option Tenant :=
  s.tenants.find? fun t => t.stripeCustomerId = some stripeCustomerId

/-- One signature-verified Stripe subscription event; `created` is its `at`. -/
structure SubscriptionEvent where
  stripeCustomerId : String
  id : String
  type : String
  created : Ms
  deriving DecidableEq

/-- The fields that an event writes. -/
structure SubscriptionUpdate where
  stripeSubscriptionId : Option String
  subscriptionStatus : Option String
  subscriptionPriceId : Option String
  plan : Option String
  currentPeriodEnd : Option Ms
  deriving DecidableEq

/-- The order of events that share a second. -/
def subscriptionEventRank (type : String) : ℕ :=
  if type.endsWith ".created" then 0 else if type.endsWith ".deleted" then 2 else 1

/-- `active` or `trialing` -/
def isLive (subscriptionStatus : Option String) : Prop :=
  subscriptionStatus = some "active" ∨ subscriptionStatus = some "trialing"

instance (subscriptionStatus : Option String) : Decidable (isLive subscriptionStatus) :=
  inferInstanceAs (Decidable (_ ∨ _))

/-- The event is newer than the last one applied, or comes after it in the same second. -/
def isNewer (event : SubscriptionEvent) (data : SubscriptionUpdate) (t : Tenant) : Prop :=
  t.lastBillingEventAt = none ∨ t.lastBillingEventAt.any (· < event.created) ∨
    t.lastBillingEventAt = some event.created ∧
      (t.stripeSubscriptionId = data.stripeSubscriptionId ∧
          t.lastBillingEventRank.any (· ≤ subscriptionEventRank event.type) ∨
        -- a resubscribe: a live event of another subscription than the stored one, which is not live
        (isLive data.subscriptionStatus ∧ data.stripeSubscriptionId.isSome) ∧
          t.stripeSubscriptionId ≠ data.stripeSubscriptionId ∧ ¬ isLive t.subscriptionStatus)

instance (event : SubscriptionEvent) (data : SubscriptionUpdate) (t : Tenant) :
    Decidable (isNewer event data t) := inferInstanceAs (Decidable (_ ∨ _ ∨ _))

/-- An event that is not live leaves a live subscription alone, unless it is its own. -/
def mayTouch (data : SubscriptionUpdate) (t : Tenant) : Prop :=
  isLive data.subscriptionStatus ∨ t.stripeSubscriptionId = none ∨
    data.stripeSubscriptionId.isSome ∧ t.stripeSubscriptionId = data.stripeSubscriptionId ∨
    ¬ isLive t.subscriptionStatus

instance (data : SubscriptionUpdate) (t : Tenant) : Decidable (mayTouch data t) :=
  inferInstanceAs (Decidable (_ ∨ _ ∨ _ ∨ _))

def admits (event : SubscriptionEvent) (data : SubscriptionUpdate) (t : Tenant) : Prop :=
  t.stripeCustomerId = some event.stripeCustomerId ∧ isNewer event data t ∧ mayTouch data t

instance (event : SubscriptionEvent) (data : SubscriptionUpdate) (t : Tenant) :
    Decidable (admits event data t) := inferInstanceAs (Decidable (_ ∧ _ ∧ _))

def applied (event : SubscriptionEvent) (data : SubscriptionUpdate) (priceChanged : Bool)
    (t : Tenant) : Tenant where
  id := t.id
  plan := data.plan.getD t.plan
  stripeCustomerId := t.stripeCustomerId
  stripeSubscriptionId := data.stripeSubscriptionId
  subscriptionPriceId := data.subscriptionPriceId.or t.subscriptionPriceId
  subscriptionPriceEffectiveAt :=
    if priceChanged then some event.created else t.subscriptionPriceEffectiveAt
  subscriptionStatus := data.subscriptionStatus
  currentPeriodEnd := data.currentPeriodEnd
  lastBillingEventAt := some event.created
  lastBillingEventId := some event.id
  lastBillingEventRank := some (subscriptionEventRank event.type)
  suspendedAt := t.suspendedAt
  -- a live subscription ends the lapse episode
  lapseNoticeStage := if isLive data.subscriptionStatus then 0 else t.lapseNoticeStage
  lapseNoticeFor := if isLive data.subscriptionStatus then none else t.lapseNoticeFor

inductive ApplyOutcome
  | applied
  | stale
  | noTenant
  deriving DecidableEq

/-- `applySubscriptionEvent` -/
def applySubscriptionEvent (event : SubscriptionEvent) (data : SubscriptionUpdate) (s : Store) :
    Store × ApplyOutcome :=
  if event.id ∈ s.billingEvents then (s, .stale)
  else
    let priceChanged := data.subscriptionPriceId.isSome ∧
      data.subscriptionPriceId ≠
        (s.tenantOfCustomer event.stripeCustomerId).bind Tenant.subscriptionPriceId
    if s.tenants.any (admits event data) then
      (⟨s.tenants.map fun t => if admits event data t then applied event data priceChanged t else t,
        s.billingEvents ++ [event.id]⟩, .applied)
    -- the claim is rolled back
    else if s.tenants.all (·.stripeCustomerId ≠ some event.stripeCustomerId) then (s, .noTenant)
    else ({ s with billingEvents := s.billingEvents ++ [event.id] }, .stale)

end Billing

end Orbetra
