import Orbetra.Billing.Subscription

/-!
# Subscription events in any order

Stripe delivers an event any number of times and in no particular order.  The events of one
subscription are ordered by their second and rank, and whatever the order of delivery the row shows
the greatest of those delivered: applying an event is taking the maximum (`List.argmax`).

The events of several subscriptions share one row.  What it shows in the end depends on the order of
delivery, and `live_subscription_shown_iff` says exactly how.
-/

namespace Orbetra

open List Option

namespace Billing

/-- An event and what it writes. -/
structure Delivery where
  event : SubscriptionEvent
  data : SubscriptionUpdate
  deriving DecidableEq

/-- The order of the events of one subscription: the second, then the rank of the type. -/
def Delivery.key (d : Delivery) : Ms ×ₗ ℕ :=
  toLex (d.event.created, subscriptionEventRank d.event.type)

def deliver (s : Store) (d : Delivery) : Store := (applySubscriptionEvent d.event d.data s).1

/-- The row shows an event. -/
structure Shows (t : Tenant) (d : Delivery) : Prop where
  subscription : t.stripeSubscriptionId = d.data.stripeSubscriptionId
  status : t.subscriptionStatus = d.data.subscriptionStatus
  periodEnd : t.currentPeriodEnd = d.data.currentPeriodEnd
  created : t.lastBillingEventAt = some d.event.created
  rank : t.lastBillingEventRank = some (subscriptionEventRank d.event.type)

section Deliver

variable {s : Store} {d : Delivery} {c : String} {t : Tenant}

lemma find?_map_update {p : Tenant → Prop} [DecidablePred p] {f : Tenant → Tenant}
    (hf : ∀ t, (f t).stripeCustomerId = t.stripeCustomerId) (tenants : List Tenant) :
    (tenants.map fun t => if p t then f t else t).find? (fun t => t.stripeCustomerId = some c) =
      (tenants.find? fun t => t.stripeCustomerId = some c).map fun t => if p t then f t else t := by
  rw [find?_map]
  congr 2
  funext t
  show decide ((if p t then f t else t).stripeCustomerId = some c) = _
  split
  · rw [hf]
  · rfl

/-- **One delivery**: the row shows the event, or is as it was. -/
lemma deliver_row (hc : d.event.stripeCustomerId = c) (ht : s.tenantOfCustomer c = some t) :
    ∃ t', (deliver s d).tenantOfCustomer c = some t' ∧
      (d.event.id ∉ s.billingEvents ∧ isNewer d.event d.data t ∧ mayTouch d.data t → Shows t' d) ∧
      (¬ (d.event.id ∉ s.billingEvents ∧ isNewer d.event d.data t ∧ mayTouch d.data t) → t' = t) := by
  have hcustomer : t.stripeCustomerId = some d.event.stripeCustomerId := by
    rw [hc]
    simpa using find?_some ht
  unfold deliver applySubscriptionEvent
  by_cases hseen : d.event.id ∈ s.billingEvents
  · rw [if_pos hseen]
    exact ⟨t, ht, fun h => absurd hseen h.1, fun _ => rfl⟩
  rw [if_neg hseen]
  dsimp only
  by_cases hany : s.tenants.any (admits d.event d.data)
  · rw [if_pos hany]
    refine ⟨_, (find?_map_update (f := applied d.event d.data _) (fun _ => rfl) _).trans
      (congrArg _ ht), fun h => ?_, fun h => ?_⟩
    · dsimp only
      rw [if_pos ⟨hcustomer, h.2⟩]
      exact ⟨rfl, rfl, rfl, rfl, rfl⟩
    · exact if_neg fun hadmits => h ⟨hseen, hadmits.2⟩
  · rw [if_neg hany]
    have hrefused : ¬ admits d.event d.data t := by
      intro hadmits
      exact hany (any_eq_true.mpr ⟨t, mem_of_find?_eq_some ht, decide_eq_true hadmits⟩)
    split
    · exact ⟨t, ht, fun h => absurd ⟨hcustomer, h.2⟩ hrefused, fun _ => rfl⟩
    · exact ⟨t, ht, fun h => absurd ⟨hcustomer, h.2⟩ hrefused, fun _ => rfl⟩

lemma mem_billingEvents_deliver (hc : d.event.stripeCustomerId = c)
    (ht : s.tenantOfCustomer c = some t) (id : String) :
    id ∈ (deliver s d).billingEvents ↔ id ∈ s.billingEvents ∨ id = d.event.id := by
  unfold deliver applySubscriptionEvent
  split
  · rename_i hseen
    constructor
    · exact Or.inl
    · intro h
      rcases h with h | rfl
      · exact h
      · exact hseen
  dsimp only
  split
  · simp
  split
  · rename_i hall
    have hne := all_eq_true.mp hall t (mem_of_find?_eq_some ht)
    have heq : t.stripeCustomerId = some c := by simpa using find?_some ht
    rw [hc] at hne
    exact absurd heq (by simpa using hne)
  · simp

end Deliver

/-! ## Any deliveries to one customer -/

/-- The state after some deliveries. -/
abbrev deliverAll (s : Store) (ds : List Delivery) : Store := ds.foldl deliver s

/-- Events of one customer that were not delivered before, each with an id of its own. -/
structure Fresh (c : String) (s : Store) (ds : List Delivery) : Prop where
  customer : ∀ d ∈ ds, d.event.stripeCustomerId = c
  unclaimed : ∀ d ∈ ds, d.event.id ∉ s.billingEvents
  ids : ∀ d ∈ ds, ∀ d' ∈ ds, d.event.id = d'.event.id → d = d'

lemma Fresh.of_append {c : String} {s : Store} {ds ds' : List Delivery} (h : Fresh c s (ds ++ ds')) :
    Fresh c s ds where
  customer := fun d hd => h.customer d (mem_append_left _ hd)
  unclaimed := fun d hd => h.unclaimed d (mem_append_left _ hd)
  ids := fun d hd d' hd' => h.ids d (mem_append_left _ hd) d' (mem_append_left _ hd')

section Run

variable {c : String} {s : Store} {t : Tenant} {ds : List Delivery}

lemma mem_billingEvents_deliverAll (hfresh : Fresh c s ds) (ht : s.tenantOfCustomer c = some t) :
    (∃ t', (deliverAll s ds).tenantOfCustomer c = some t') ∧
      ∀ id, id ∈ (deliverAll s ds).billingEvents ↔
        id ∈ s.billingEvents ∨ ∃ d ∈ ds, d.event.id = id := by
  induction ds using reverseRecOn with
  | nil => exact ⟨⟨t, ht⟩, fun id => by simp⟩
  | append_singleton ds d ih =>
    obtain ⟨⟨t', ht'⟩, hclaimed⟩ := ih hfresh.of_append
    have hc := hfresh.customer d (by simp)
    rw [deliverAll, foldl_append]
    obtain ⟨t'', ht'', -⟩ := deliver_row hc ht'
    refine ⟨⟨t'', ht''⟩, fun id => ?_⟩
    refine (mem_billingEvents_deliver hc ht' id).trans ?_
    rw [hclaimed]
    simp only [mem_append, mem_singleton]
    constructor
    · intro h
      rcases h with (h | ⟨d', hd', rfl⟩) | rfl
      · exact Or.inl h
      · exact Or.inr ⟨d', Or.inl hd', rfl⟩
      · exact Or.inr ⟨d, Or.inr rfl, rfl⟩
    · intro h
      rcases h with h | ⟨d', hd' | rfl, rfl⟩
      · exact Or.inl (Or.inl h)
      · exact Or.inl (Or.inr ⟨d', hd', rfl⟩)
      · exact Or.inr rfl

lemma deliverAll_concat {d : Delivery} (hfresh : Fresh c s (ds ++ [d]))
    (ht : s.tenantOfCustomer c = some t) :
    ∃ t' t'', (deliverAll s ds).tenantOfCustomer c = some t' ∧
      (deliverAll s (ds ++ [d])).tenantOfCustomer c = some t'' ∧
      (d ∉ ds ∧ isNewer d.event d.data t' ∧ mayTouch d.data t' → Shows t'' d) ∧
      (¬ (d ∉ ds ∧ isNewer d.event d.data t' ∧ mayTouch d.data t') → t'' = t') := by
  obtain ⟨⟨t', ht'⟩, hclaimed⟩ := mem_billingEvents_deliverAll hfresh.of_append ht
  have hc := hfresh.customer d (by simp)
  obtain ⟨t'', ht'', hshows⟩ := deliver_row hc ht'
  have hseen : d.event.id ∈ (deliverAll s ds).billingEvents ↔ d ∈ ds := by
    rw [hclaimed]
    constructor
    · intro h
      rcases h with h | ⟨d', hd', hid⟩
      · exact absurd h (hfresh.unclaimed d (by simp))
      · exact hfresh.ids d' (mem_append_left _ hd') d (by simp) hid ▸ hd'
    · exact fun h => Or.inr ⟨d, h, rfl⟩
  rw [hseen] at hshows
  refine ⟨t', t'', ht', ?_, hshows⟩
  rw [deliverAll, foldl_append]
  exact ht''

end Run

/-! ## One subscription -/

lemma isNewer_iff {t : Tenant} {m d : Delivery} (hshows : Shows t m)
    (hsub : m.data.stripeSubscriptionId = d.data.stripeSubscriptionId) (hne : m.key ≠ d.key) :
    isNewer d.event d.data t ↔ m.key < d.key := by
  unfold isNewer
  rw [hshows.created, hshows.subscription, hshows.rank, hsub]
  unfold Delivery.key at hne ⊢
  rw [Prod.Lex.toLex_lt_toLex]
  simp only [any_some, decide_eq_true_eq, some.injEq, reduceCtorEq, false_or,
    ne_eq, not_true_eq_false, false_and, and_false, or_false, true_and]
  constructor
  · intro h
    rcases h with h | ⟨heq, hle⟩
    · exact Or.inl h
    · refine Or.inr ⟨heq, lt_of_le_of_ne hle fun hrank => hne ?_⟩
      rw [heq, hrank]
  · intro h
    rcases h with h | ⟨heq, hlt⟩
    · exact Or.inl h
    · exact Or.inr ⟨heq, hlt.le⟩

lemma deliverAll_shows_argmax {c sub : String} {s : Store} {t : Tenant} {ds : List Delivery}
    (ht : s.tenantOfCustomer c = some t) (hsub : t.stripeSubscriptionId = none)
    (hlast : t.lastBillingEventAt = none) (hfresh : Fresh c s ds)
    (hown : ∀ d ∈ ds, d.data.stripeSubscriptionId = some sub)
    (hkeys : ∀ d ∈ ds, ∀ d' ∈ ds, d.key = d'.key → d = d') :
    ∃ t', (deliverAll s ds).tenantOfCustomer c = some t' ∧
      match ds.argmax Delivery.key with
      | none => t' = t
      | some m => Shows t' m := by
  induction ds using reverseRecOn with
  | nil => exact ⟨t, ht, rfl⟩
  | append_singleton ds d ih =>
    obtain ⟨t', ht', hmax⟩ := ih hfresh.of_append (fun d hd => hown d (mem_append_left _ hd))
      fun d hd d' hd' => hkeys d (mem_append_left _ hd) d' (mem_append_left _ hd')
    obtain ⟨t₁, t'', ht₁, ht'', hshows⟩ := deliverAll_concat hfresh ht
    obtain rfl := some.inj (ht₁.symm.trans ht')
    refine ⟨t'', ht'', ?_⟩
    rw [argmax_concat]
    cases hargmax : ds.argmax Delivery.key with
    | none =>
      rw [hargmax] at hmax
      obtain rfl : t₁ = t := hmax
      obtain rfl : ds = [] := argmax_eq_none.mp hargmax
      exact hshows.1 ⟨not_mem_nil, Or.inl hlast, Or.inr (Or.inl hsub)⟩
    | some m =>
      rw [hargmax] at hmax
      have hmem : m ∈ ds := argmax_mem hargmax
      have hsame : m.data.stripeSubscriptionId = d.data.stripeSubscriptionId :=
        (hown m (by simp [hmem])).trans (hown d (by simp)).symm
      have htouch : mayTouch d.data t₁ := by
        refine Or.inr (Or.inr (Or.inl ⟨?_, hmax.subscription.trans hsame⟩))
        rw [hown d (by simp)]
        rfl
      dsimp only
      by_cases hd : d ∈ ds
      · -- a redelivery is no greater than the greatest so far
        rw [if_neg (le_of_mem_argmax hd hargmax).not_gt, hshows.2 fun h => h.1 hd]
        exact hmax
      · have hne : m.key ≠ d.key := by
          intro hkey
          exact hd (hkeys m (by simp [hmem]) d (by simp) hkey ▸ hmem)
        have hnewer := isNewer_iff hmax hsame hne
        by_cases hlt : m.key < d.key
        · rw [if_pos hlt]
          exact hshows.1 ⟨hd, hnewer.mpr hlt, htouch⟩
        · rw [if_neg hlt, hshows.2 fun h => hlt (hnewer.mp h.2.1)]
          exact hmax

/-- **The events of one subscription are order-independent**: delivered in any order, each any number
of times, they leave the row as the greatest of them says. -/
theorem lifecycle_order_independent {c sub : String} {s : Store} {t : Tenant}
    (ht : s.tenantOfCustomer c = some t) (hsub : t.stripeSubscriptionId = none)
    (hlast : t.lastBillingEventAt = none) {ds : List Delivery} (hfresh : Fresh c s ds)
    (hown : ∀ d ∈ ds, d.data.stripeSubscriptionId = some sub)
    (hkeys : ∀ d ∈ ds, ∀ d' ∈ ds, d.key = d'.key → d = d') {d : Delivery} (hd : d ∈ ds)
    (hgreatest : ∀ d' ∈ ds, d'.key ≤ d.key) :
    ∃ t', (deliverAll s ds).tenantOfCustomer c = some t' ∧
      t'.stripeSubscriptionId = d.data.stripeSubscriptionId ∧
      t'.subscriptionStatus = d.data.subscriptionStatus ∧
      t'.currentPeriodEnd = d.data.currentPeriodEnd ∧
      t'.lastBillingEventAt = some d.event.created := by
  obtain ⟨t', ht', hmax⟩ := deliverAll_shows_argmax ht hsub hlast hfresh hown hkeys
  have hargmax : ds.argmax Delivery.key = some d := by
    cases h : ds.argmax Delivery.key with
    | none =>
      rw [argmax_eq_none.mp h] at hd
      cases hd
    | some m =>
      have hmem := argmax_mem h
      exact congrArg some (hkeys m hmem d hd
        (le_antisymm (hgreatest m hmem) (le_of_mem_argmax hd h)))
  rw [hargmax] at hmax
  exact ⟨t', ht', hmax.subscription, hmax.status, hmax.periodEnd, hmax.created⟩

/-! A cancel whose events arrive in the wrong order, with a retry of an older event. -/

def freshTenant : Tenant where
  id := "tenant"
  plan := "tsp_start"
  stripeCustomerId := some "cus"
  stripeSubscriptionId := none
  subscriptionPriceId := none
  subscriptionPriceEffectiveAt := none
  subscriptionStatus := none
  currentPeriodEnd := none
  lastBillingEventAt := none
  lastBillingEventId := none
  lastBillingEventRank := none
  suspendedAt := none
  lapseNoticeStage := 0
  lapseNoticeFor := none

def freshStore : Store := ⟨[freshTenant], []⟩

def subscriptionEvent (id type sub status : String) (created : Ms) : Delivery where
  event := ⟨"cus", id, type, created⟩
  data := ⟨some sub, some status, some "price", none, some 0⟩

def canceledOutOfOrder : List Delivery :=
  let updated := subscriptionEvent "evt_2" "customer.subscription.updated" "sub" "active" 2000
  [subscriptionEvent "evt_3" "customer.subscription.deleted" "sub" "canceled" 2000, updated,
    subscriptionEvent "evt_1" "customer.subscription.created" "sub" "active" 1000, updated]

theorem lifecycle_order_independent_cancel :
    ∃ t, (deliverAll freshStore canceledOutOfOrder).tenantOfCustomer "cus" = some t ∧
      t.subscriptionStatus = some "canceled" := by
  have hfresh : Fresh "cus" freshStore canceledOutOfOrder := ⟨by decide, by decide, by decide⟩
  have hown : ∀ d ∈ canceledOutOfOrder, d.data.stripeSubscriptionId = some "sub" := by decide
  have hkeys : ∀ d ∈ canceledOutOfOrder, ∀ d' ∈ canceledOutOfOrder, d.key = d'.key → d = d' := by
    decide +kernel
  have hdeleted : subscriptionEvent "evt_3" "customer.subscription.deleted" "sub" "canceled" 2000 ∈
      canceledOutOfOrder := mem_cons_self
  obtain ⟨t, ht, -, hstatus, -⟩ := lifecycle_order_independent (t := freshTenant) (by decide) rfl rfl
    hfresh hown hkeys hdeleted (by decide +kernel)
  exact ⟨t, ht, hstatus⟩

/-! ## Several subscriptions -/

section Several

variable {c : String} {s : Store} {t : Tenant} {ds : List Delivery}

lemma deliverAll_shows_mem (hfresh : Fresh c s ds) (ht : s.tenantOfCustomer c = some t) :
    ∃ t', (deliverAll s ds).tenantOfCustomer c = some t' ∧ (t' = t ∨ ∃ m ∈ ds, Shows t' m) := by
  induction ds using reverseRecOn with
  | nil => exact ⟨t, ht, Or.inl rfl⟩
  | append_singleton ds d ih =>
    obtain ⟨t', ht', hshown⟩ := ih hfresh.of_append
    obtain ⟨t₁, t'', ht₁, ht'', hshows⟩ := deliverAll_concat hfresh ht
    obtain rfl := some.inj (ht₁.symm.trans ht')
    refine ⟨t'', ht'', ?_⟩
    by_cases h : d ∉ ds ∧ isNewer d.event d.data t₁ ∧ mayTouch d.data t₁
    · exact Or.inr ⟨d, by simp, hshows.1 h⟩
    · rw [hshows.2 h]
      rcases hshown with hshown | ⟨m, hm, hshown⟩
      · exact Or.inl hshown
      · exact Or.inr ⟨m, by simp [hm], hshown⟩

lemma deliverAll_watermark {ds' : List Delivery} (hfresh : Fresh c s (ds ++ ds'))
    (ht : s.tenantOfCustomer c = some t) {t' : Tenant}
    (ht' : (deliverAll s ds).tenantOfCustomer c = some t') {w : Ms}
    (hw : t'.lastBillingEventAt = some w) :
    ∃ t'' w', (deliverAll s (ds ++ ds')).tenantOfCustomer c = some t'' ∧ w ≤ w' ∧
      t''.lastBillingEventAt = some w' := by
  induction ds' using reverseRecOn with
  | nil =>
    rw [append_nil]
    exact ⟨t', w, ht', le_refl w, hw⟩
  | append_singleton ds' d ih =>
    rw [← append_assoc] at hfresh ⊢
    obtain ⟨t₁, w₁, ht₁, hle, hw₁⟩ := ih hfresh.of_append
    obtain ⟨t₂, t₃, ht₂, ht₃, hshows⟩ := deliverAll_concat hfresh ht
    obtain rfl := some.inj (ht₂.symm.trans ht₁)
    by_cases h : d ∉ ds ++ ds' ∧ isNewer d.event d.data t₂ ∧ mayTouch d.data t₂
    · refine ⟨t₃, d.event.created, ht₃, hle.trans ?_, (hshows.1 h).created⟩
      rcases h.2.1 with hnone | hlt | ⟨heq, -⟩
      · rw [hnone] at hw₁
        cases hw₁
      · rw [hw₁] at hlt
        exact le_of_lt (of_decide_eq_true hlt)
      · exact (some.inj (hw₁.symm.trans heq)).le
    · exact ⟨t₃, w₁, ht₃, hle, by rw [hshows.2 h, hw₁]⟩

/-- The row is live on a subscription. -/
def LiveOn (c : String) (s : Store) (sub : Option String) : Prop :=
  ∃ t, s.tenantOfCustomer c = some t ∧ isLive t.subscriptionStatus ∧ t.stripeSubscriptionId = sub

/-- The row is live on another subscription. -/
def LiveElsewhere (c : String) (s : Store) (sub : Option String) : Prop :=
  ∃ t, s.tenantOfCustomer c = some t ∧ isLive t.subscriptionStatus ∧
    t.stripeSubscriptionId ≠ none ∧ t.stripeSubscriptionId ≠ sub

/-- No event later than `b` is live, and each that is delivered before `b` finds the row live on another
subscription than its own. -/
def Spared (c : String) (s : Store) (ds : List Delivery) (b : Delivery) : Prop :=
  ∀ before e after, ds = before ++ e :: after → e ∉ before → b.event.created < e.event.created →
    ¬ isLive e.data.subscriptionStatus ∧
      (b ∉ before → LiveElsewhere c (deliverAll s before) e.data.stripeSubscriptionId)

/-- An event later than the watermark is dropped where the row is live on another subscription, and
only there. -/
lemma mayTouch_iff {e : Delivery} {t : Tenant} (he : e.data.stripeSubscriptionId.isSome) :
    ¬ mayTouch e.data t ↔ ¬ isLive e.data.subscriptionStatus ∧ isLive t.subscriptionStatus ∧
      t.stripeSubscriptionId ≠ none ∧ t.stripeSubscriptionId ≠ e.data.stripeSubscriptionId := by
  unfold mayTouch
  rw [not_or, not_or, not_or, not_and, not_not]
  constructor
  · intro ⟨hdead, hnone, hother, hlive⟩
    exact ⟨hdead, hlive, hnone, hother he⟩
  · intro ⟨hdead, hlive, hnone, hother⟩
    exact ⟨hdead, hnone, fun _ => hother, hlive⟩

/-- An event that is not applied has the watermark above it, or may not touch the row. -/
lemma isNewer_of_lt {d : Delivery} {t : Tenant}
    (h : ∀ w, t.lastBillingEventAt = some w → w < d.event.created) : isNewer d.event d.data t := by
  cases hw : t.lastBillingEventAt with
  | none => exact Or.inl hw
  | some w => exact Or.inr (Or.inl (by rw [hw]; exact decide_eq_true (h w hw)))

lemma spared_of_liveOn (ht : s.tenantOfCustomer c = some t) (hlast : t.lastBillingEventAt = none)
    (hfresh : Fresh c s ds)
    (hsubs : ∀ d ∈ ds, d.data.stripeSubscriptionId.isSome) {b : Delivery} (hb : b ∈ ds)
    (hlive : isLive b.data.subscriptionStatus)
    (hlatest : ∀ d ∈ ds, d.data.stripeSubscriptionId = b.data.stripeSubscriptionId →
      d.event.created ≤ b.event.created)
    (hfinal : LiveOn c (deliverAll s ds) b.data.stripeSubscriptionId) : Spared c s ds b := by
  obtain ⟨T, hT, -, hsub⟩ := hfinal
  -- the watermark ends at `b`
  have hwatermark : T.lastBillingEventAt = some b.event.created := by
    obtain ⟨before, after, hsplit, hnew⟩ := eq_append_cons_of_mem hb
    have hds : ds = (before ++ [b]) ++ after := by rw [hsplit, append_assoc]; rfl
    obtain ⟨t₁, t₂, ht₁, ht₂, hshows⟩ := deliverAll_concat (hds ▸ hfresh).of_append ht
    have hw : ∃ w, t₂.lastBillingEventAt = some w ∧ b.event.created ≤ w := by
      by_cases h : isNewer b.event b.data t₁
      · exact ⟨_, (hshows.1 ⟨hnew, h, Or.inl hlive⟩).created, le_refl _⟩
      · rw [hshows.2 fun h' => h h'.2.1]
        by_contra hnone
        refine h (isNewer_of_lt fun w hw => ?_)
        by_contra hle
        exact hnone ⟨w, hw, not_lt.mp hle⟩
    obtain ⟨w, hw, hle⟩ := hw
    obtain ⟨T', w', hT', hle', hw'⟩ := deliverAll_watermark (hds ▸ hfresh) ht ht₂ hw
    rw [← hds] at hT'
    cases hT.symm.trans hT'
    obtain ⟨T', hT', hshown⟩ := deliverAll_shows_mem hfresh ht
    cases hT.symm.trans hT'
    rcases hshown with rfl | ⟨m, hm, hshown⟩
    · rw [hlast] at hw'
      cases hw'
    · cases hshown.created.symm.trans hw'
      have hup := hlatest m hm (hshown.subscription.symm.trans hsub)
      rw [hshown.created, le_antisymm hup (hle.trans hle')]
  intro before e after hsplit hnew hlater
  have hds : ds = (before ++ [e]) ++ after := by rw [hsplit, append_assoc]; rfl
  obtain ⟨t₁, t₂, ht₁, ht₂, hshows⟩ := deliverAll_concat (hds ▸ hfresh).of_append ht
  have hrest : ∀ {ds₁ ds₂ : List Delivery} {t' : Tenant} {w : Ms}, ds = ds₁ ++ ds₂ →
      (deliverAll s ds₁).tenantOfCustomer c = some t' → t'.lastBillingEventAt = some w →
        w ≤ b.event.created := by
    intro ds₁ ds₂ t' w heq ht' hw
    obtain ⟨T', w', hT', hle, hw'⟩ := deliverAll_watermark (heq ▸ hfresh) ht ht' hw
    rw [← heq] at hT'
    cases hT.symm.trans hT'
    exact some.inj (hw'.symm.trans hwatermark) ▸ hle
  have hnewer : isNewer e.event e.data t₁ :=
    isNewer_of_lt fun w hw => (hrest hsplit ht₁ hw).trans_lt hlater
  have hrefused : ¬ mayTouch e.data t₁ := by
    intro htouch
    have hle := hrest hds ht₂ (hshows.1 ⟨hnew, hnewer, htouch⟩).created
    exact absurd hlater (not_lt.mpr hle)
  obtain ⟨hdead, hother⟩ := (mayTouch_iff (hsubs e (by rw [hsplit]; simp))).mp hrefused
  exact ⟨hdead, fun _ => ⟨t₁, ht₁, hother⟩⟩

lemma liveOn_of_spared (ht : s.tenantOfCustomer c = some t) (hlast : t.lastBillingEventAt = none)
    (hfresh : Fresh c s ds)
    (hseconds : ∀ d ∈ ds, ∀ d' ∈ ds, d.event.created = d'.event.created → d = d')
    (hsubs : ∀ d ∈ ds, d.data.stripeSubscriptionId.isSome) {b : Delivery} (hb : b ∈ ds)
    (hlive : isLive b.data.subscriptionStatus)
    (hlatest : ∀ d ∈ ds, d.data.stripeSubscriptionId = b.data.stripeSubscriptionId →
      d.event.created ≤ b.event.created)
    (hspared : Spared c s ds b) : LiveOn c (deliverAll s ds) b.data.stripeSubscriptionId := by
  have hprefix : ∀ before after, ds = before ++ after →
      ∃ t', (deliverAll s before).tenantOfCustomer c = some t' ∧
        (t' = t ∨ ∃ m ∈ before, Shows t' m ∧ m.event.created ≤ b.event.created) ∧
        (b ∈ before → Shows t' b) := by
    intro before
    induction before using reverseRecOn with
    | nil => exact fun _ _ => ⟨t, ht, Or.inl rfl, fun h => absurd h not_mem_nil⟩
    | append_singleton before e ih =>
      intro after hds
      have hsplit : ds = before ++ e :: after := by rw [hds, append_assoc]; rfl
      obtain ⟨t', ht', hshown, hown⟩ := ih (e :: after) hsplit
      obtain ⟨t₁, t₂, ht₁, ht₂, hshows⟩ := deliverAll_concat (hds ▸ hfresh).of_append ht
      obtain rfl := some.inj (ht₁.symm.trans ht')
      refine ⟨t₂, ht₂, ?_⟩
      have hkeep : t₂ = t₁ → (b ∈ before ++ [e] → b ∈ before) →
          (t₂ = t ∨ ∃ m ∈ before ++ [e], Shows t₂ m ∧ m.event.created ≤ b.event.created) ∧
            (b ∈ before ++ [e] → Shows t₂ b) := by
        intro heq hbefore
        rw [heq]
        refine ⟨?_, fun h => hown (hbefore h)⟩
        rcases hshown with hshown | ⟨m, hm, hshown⟩
        · exact Or.inl hshown
        · exact Or.inr ⟨m, mem_append_left _ hm, hshown⟩
      have hmem : b ∈ before ++ [e] → b ≠ e → b ∈ before := by
        intro h hne
        rcases mem_append.mp h with h | h
        · exact h
        · exact absurd (mem_singleton.mp h) hne
      by_cases he : e ∈ before
      · refine hkeep (hshows.2 fun h => h.1 he) fun h => ?_
        rcases mem_append.mp h with h | h
        · exact h
        · exact mem_singleton.mp h ▸ he
      rcases lt_trichotomy e.event.created b.event.created with hlt | heq | hgt
      · have hne : b ≠ e := fun h => absurd hlt (h ▸ lt_irrefl _)
        by_cases happlied : isNewer e.event e.data t₁ ∧ mayTouch e.data t₁
        · have hshown' := hshows.1 ⟨he, happlied⟩
          refine ⟨Or.inr ⟨e, by simp, hshown', hlt.le⟩, fun h => ?_⟩
          -- the row shows `b` already, and `e` is older
          have hb' := (hown (hmem h hne)).created
          rcases happlied.1 with hnone | hnewer | ⟨hsame, -⟩
          · rw [hb'] at hnone
            cases hnone
          · rw [hb'] at hnewer
            exact absurd hlt (not_lt.mpr (le_of_lt (of_decide_eq_true hnewer)))
          · rw [hb'] at hsame
            exact absurd (some.inj hsame) hlt.ne'
        · exact hkeep (hshows.2 fun h => happlied h.2) fun h => hmem h hne
      · obtain rfl : e = b := hseconds e (by rw [hsplit]; simp) b hb heq
        have hnewer : isNewer e.event e.data t₁ := by
          refine isNewer_of_lt fun w hw => ?_
          rcases hshown with rfl | ⟨m, hm, hshown, hle⟩
          · rw [hlast] at hw
            cases hw
          · obtain rfl := some.inj (hshown.created.symm.trans hw)
            refine lt_of_le_of_ne hle fun h => he ?_
            exact hseconds m (by rw [hsplit]; simp [hm]) e hb h ▸ hm
        have hshown' := hshows.1 ⟨he, hnewer, Or.inl hlive⟩
        exact ⟨Or.inr ⟨e, by simp, hshown', le_refl _⟩, fun _ => hshown'⟩
      · have hne : b ≠ e := fun h => absurd hgt (h ▸ lt_irrefl _)
        have heds : e ∈ ds := by rw [hsplit]; simp
        obtain ⟨hdead, hother⟩ := hspared before e after hsplit he hgt
        refine hkeep (hshows.2 fun h => ?_) fun h => hmem h hne
        refine (mayTouch_iff (hsubs e heds)).mpr ⟨hdead, ?_⟩ h.2.2
        by_cases hbefore : b ∈ before
        · have hshown' := hown hbefore
          rw [hshown'.status, hshown'.subscription]
          refine ⟨hlive, fun hnone => ?_, fun hsame => ?_⟩
          · have hsome := hsubs b hb
            rw [hnone] at hsome
            cases hsome
          · exact absurd hgt (not_lt.mpr (hlatest e heds hsame.symm))
        · obtain ⟨t', ht', hother⟩ := hother hbefore
          obtain rfl := some.inj (ht₁.symm.trans ht')
          exact hother
  obtain ⟨t', ht', -, hshows⟩ := hprefix ds [] (append_nil ds).symm
  have hshows := hshows hb
  exact ⟨t', ht', by rw [hshows.status]; exact hlive, hshows.subscription⟩

/-- **When a paying customer ends up live**, for the events of any number of subscriptions, delivered in
any order: where `b` is the latest event of its subscription and live, the row ends live on that
subscription exactly if every later event of the others is spared.  What the other subscriptions'
latest events are does not matter. -/
theorem live_subscription_shown_iff (ht : s.tenantOfCustomer c = some t)
    (hlast : t.lastBillingEventAt = none) (hfresh : Fresh c s ds)
    (hseconds : ∀ d ∈ ds, ∀ d' ∈ ds, d.event.created = d'.event.created → d = d')
    (hsubs : ∀ d ∈ ds, d.data.stripeSubscriptionId.isSome) {b : Delivery} (hb : b ∈ ds)
    (hlive : isLive b.data.subscriptionStatus)
    (hlatest : ∀ d ∈ ds, d.data.stripeSubscriptionId = b.data.stripeSubscriptionId →
      d.event.created ≤ b.event.created) :
    LiveOn c (deliverAll s ds) b.data.stripeSubscriptionId ↔ Spared c s ds b :=
  ⟨spared_of_liveOn ht hlast hfresh hsubs hb hlive hlatest,
    liveOn_of_spared ht hlast hfresh hseconds hsubs hb hlive hlatest⟩

end Several

/-! A customer who cancels one subscription and takes another one before: the cancel arrives first. -/

def subscriptionA (second : Ms) (type status : String) : Delivery :=
  subscriptionEvent ("evt_a" ++ type) ("customer.subscription." ++ type) "sub_A" status second

def createdB : Delivery := subscriptionEvent "evt_b" "customer.subscription.created" "sub_B" "active" 2000

def cancelFirst : List Delivery :=
  [subscriptionA 1000 "created" "active", subscriptionA 3000 "deleted" "canceled", createdB]

def inOrder : List Delivery :=
  [subscriptionA 1000 "created" "active", createdB, subscriptionA 3000 "deleted" "canceled"]

/-- The event of the new subscription is dropped, and the paying customer stays canceled. -/
theorem late_create_leaves_customer_canceled :
    Fresh "cus" freshStore cancelFirst ∧
      (cancelFirst.map fun d => d.event.created).Nodup ∧
      isLive createdB.data.subscriptionStatus ∧
      (deliverAll freshStore cancelFirst).tenants.map
        (fun t => (t.subscriptionStatus, t.stripeSubscriptionId)) = [(some "canceled", some "sub_A")] :=
  ⟨⟨by decide +kernel, by decide +kernel, by decide +kernel⟩, by decide +kernel, by decide +kernel,
    by decide +kernel⟩

theorem live_subscription_shown_in_order :
    LiveOn "cus" (deliverAll freshStore inOrder) (some "sub_B") := by
  have hfresh : Fresh "cus" freshStore inOrder :=
    ⟨by decide +kernel, by decide +kernel, by decide +kernel⟩
  refine (live_subscription_shown_iff (b := createdB) (t := freshTenant) (by decide) rfl hfresh
    (by decide +kernel) (by decide +kernel) (by decide +kernel) (by decide +kernel)
    (by decide +kernel)).mpr ?_
  -- the cancel is the only later event, and comes after the create
  intro before e after hsplit hnew hlater
  have hcancel : e = subscriptionA 3000 "deleted" "canceled" := by
    have hmem : e ∈ inOrder := by rw [hsplit]; simp
    rcases mem_cons.mp hmem with rfl | hmem
    · exact absurd hlater (by decide)
    rcases mem_cons.mp hmem with rfl | hmem
    · exact absurd hlater (by decide)
    · exact mem_singleton.mp hmem
  subst hcancel
  refine ⟨by decide, fun hbefore => absurd ?_ hbefore⟩
  match before, hsplit with
  | [], hsplit => exact absurd (cons.inj hsplit).1 (by decide)
  | [_], hsplit => exact absurd (cons.inj (cons.inj hsplit).2).1 (by decide)
  | _ :: y :: _, hsplit =>
    obtain rfl := (cons.inj (cons.inj hsplit).2).1
    simp

end Billing

end Orbetra