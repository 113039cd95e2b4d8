import Orbetra.Affiliates.Ledger

/-!
# Refunds and chargebacks

The branches of the Stripe webhook that accrue and reverse commissions, and what a reversal leaves.
A reversal that finds no commission leaves a tombstone, on which a later accrual fails; one that
loses the race for the row voids the row of the winner.  To leave the tombstone it has to find the
referred tenant by the customer id that the event carries.  The object of a dispute need not carry
one, and the reversal then returns without leaving anything.
-/

namespace Orbetra

open Option List Async

namespace Affiliates

/-! ## The webhook -/

/-- The fields of an invoice that the webhook reads, where they are of the right type. -/
structure InvoiceObject where
  id : Option String
  customer : Option String
  amountPaid : Option ℤ
  currency : Option String

structure ChargeObject where
  invoice : Option String
  customer : Option String
  refunded : Bool

structure DisputeObject where
  status : Option String
  charge : Option String
  customer : Option String

def nonEmpty (x : Option String) : Option String := x.filter (· ≠ "")

/-- `paidInvoiceFrom` -/
def paidInvoiceFrom (obj : InvoiceObject) (paidAt : Ms) : Option PaidInvoice :=
  match nonEmpty obj.customer, nonEmpty obj.id with
  | some stripeCustomerId, some invoiceId =>
    if obj.amountPaid.getD 0 ≤ 0 then none
    else some ⟨stripeCustomerId, invoiceId, obj.amountPaid.getD 0, (nonEmpty obj.currency).getD "eur",
      paidAt⟩
  | _, _ => none

/-- The events that concern commissions. -/
inductive StripeEvent
  | invoicePaymentSucceeded (obj : InvoiceObject) (created : Ms)
  | chargeRefunded (obj : ChargeObject)
  | chargeDisputeClosed (obj : DisputeObject)

/-- The invoice that an event reverses, and the customer id that it passes on.  `invoiceIdForCharge`
is the lookup at Stripe; one that throws ends the delivery before anything happens. -/
def StripeEvent.reversal (invoiceIdForCharge : String → Option String) :
    StripeEvent → Option (String × String)
  | .invoicePaymentSucceeded _ _ => none
  | .chargeRefunded obj =>
    if obj.refunded then (nonEmpty obj.invoice).map (·, obj.customer.getD "") else none
  | .chargeDisputeClosed obj =>
    if obj.status = some "lost" then
      ((nonEmpty obj.charge).bind invoiceIdForCharge).map (·, obj.customer.getD "")
    else none

inductive Delivered
  | ignored
  | accrued (row : Option Commission)
  | reversed (outcome : RefundOutcome)
  deriving DecidableEq

/-- The webhook's branches.  A delivery that throws is answered by a status that makes Stripe send
the event again. -/
def mountStripeWebhook (invoiceIdForCharge : String → Option String) (event : StripeEvent) :
    Query Delivered :=
  match event with
  | .invoicePaymentSucceeded obj created =>
    match paidInvoiceFrom obj created with
    | none => pure .ignored
    | some paid => do
      let row ← accrueForPaidInvoice paid
      pure (.accrued row)
  | event =>
    match event.reversal invoiceIdForCharge with
    | none => pure .ignored
    | some (invoiceId, customerId) => do
      let outcome ← voidCommissionForRefund invoiceId customerId
      pure (.reversed outcome)

/-! ## What the statements do to a commission -/

namespace Ledger

variable {s : Ledger}

/-- A customer id by which a reversal finds somebody who could have earned. -/
def Resolves (s : Ledger) (stripeCustomerId : String) : Prop :=
  stripeCustomerId ≠ "" ∧
    ∃ t, s.tenantOfCustomer stripeCustomerId = some t ∧ t.referredByAffiliateId.isSome

variable {c inv : String} {row : Commission}

lemma Resolves.updateTenants (h : s.Resolves c) {p : Tenant → Bool} {f : Tenant → Tenant}
    (hcustomer : ∀ t, (f t).stripeCustomerId = t.stripeCustomerId)
    (hreferral : ∀ t, (f t).referredByAffiliateId = t.referredByAffiliateId) :
    (s.updateTenants p f).1.Resolves c := by
  obtain ⟨hc, t, ht, hreferred⟩ := h
  refine ⟨hc, if p t then f t else t, ?_, ?_⟩
  · rw [tenantOfCustomer_updateTenants hcustomer, ht, map_some]
  · split
    · rw [hreferral]
      exact hreferred
    · exact hreferred

lemma Resolves.congr {s' : Ledger} (h : s.Resolves c) (ht : s'.tenants = s.tenants) :
    s'.Resolves c := by
  unfold Resolves tenantOfCustomer
  rw [ht]
  exact h

lemma create_tenants (data : NewCommission) : (s.create data).1.tenants = s.tenants := by
  unfold create
  split <;> rfl

lemma commissionOf_create (h : s.commissionOf inv = some row) (data : NewCommission) :
    (s.create data).1.commissionOf inv = some row := by
  unfold create
  split
  · exact h
  · show find? _ (s.commissions ++ [_]) = _
    rw [find?_append]
    show (s.commissionOf inv).or _ = _
    rw [h, some_or]

lemma commissionOf_create_self (data : NewCommission) :
    match (s.create data).2 with
    | some row => (s.create data).1.commissionOf data.sourceInvoiceId = some row ∧
        row.status = data.status
    | none => (s.commissionOf data.sourceInvoiceId).isSome := by
  unfold create
  by_cases h : (s.commissionOf data.sourceInvoiceId).isSome
  · rw [if_pos h]
    exact h
  · rw [if_neg h]
    refine ⟨?_, rfl⟩
    show find? _ (s.commissions ++ [_]) = _
    rw [find?_append]
    show (s.commissionOf data.sourceInvoiceId).or _ = _
    rw [not_isSome_iff_eq_none.mp h, none_or]
    simp

lemma commissionOf_setStatus (h : s.commissionOf inv = some row) (id : ℕ)
    (status : CommissionStatus) : (s.setStatus id status).1.commissionOf inv =
      some (if row.id = id then { row with status := status } else row) := by
  have hkey : ((fun row : Commission => decide (row.sourceInvoiceId = inv)) ∘ fun row : Commission =>
      if row.id = id then { row with status := status } else row) =
        fun row => decide (row.sourceInvoiceId = inv) := by
    funext row
    show decide ((if row.id = id then _ else row : Commission).sourceInvoiceId = inv) = _
    split <;> rfl
  show find? _ (s.commissions.map _) = _
  rw [find?_map, hkey]
  show (s.commissionOf inv).map _ = _
  rw [h, map_some]

lemma setStatus_isSome (h : s.commissionOf inv = some row) (status : CommissionStatus) :
    ((s.setStatus row.id status).2).isSome := by
  obtain ⟨hmem, -⟩ := mem_of_commissionOf h
  show (find? _ (s.commissions.map _)).isSome
  rw [find?_isSome]
  exact ⟨_, mem_map_of_mem hmem, by simp⟩

end Ledger

/-! ## A reversal among accruals and reversals -/

/-- What accruals and reversals keep: a customer resolves as before, a commission stays, and one that
is not pending does not become pending. -/
structure Upheld (s s' : Ledger) : Prop where
  keyed : s.Keyed → s'.Keyed
  resolves : ∀ c, s.Resolves c → s'.Resolves c
  rows : ∀ inv row, s.commissionOf inv = some row → ∃ row', s'.commissionOf inv = some row' ∧
    row'.id = row.id ∧ (row.status ≠ .pending → row'.status ≠ .pending)

lemma Upheld.refl (s : Ledger) : Upheld s s where
  keyed := fun h => h
  resolves := fun _ h => h
  rows := fun _ row h => ⟨row, h, rfl, fun hstatus => hstatus⟩

/-- The statements that accruals and reversals send: a change of status is a void. -/
def Statement.Reverses : Statement → Prop
  | .setStatus _ status => status = .void
  | _ => True

lemma Statement.Reverses.upheld {c : Statement} (hc : c.Reverses) (s : Ledger) :
    Upheld s (c.run s).1 := by
  have hkeyed : s.Keyed → (c.run s).1.Keyed := fun hs => hs.run c
  cases c with
  | claimAnchor id paidAt months =>
    exact ⟨hkeyed, fun _ h => h.updateTenants (fun _ => rfl) fun _ => rfl, (Upheld.refl s).rows⟩
  | moveAnchor id paidAt =>
    exact ⟨hkeyed, fun _ h => h.updateTenants (fun _ => rfl) fun _ => rfl, (Upheld.refl s).rows⟩
  | create data =>
    exact ⟨hkeyed, fun _ h => h.congr (Ledger.create_tenants data),
      fun _ row h => ⟨row, Ledger.commissionOf_create h data, rfl, fun hstatus => hstatus⟩⟩
  | setStatus id status =>
    obtain rfl : status = .void := hc
    refine ⟨hkeyed, fun _ h => h.congr rfl,
      fun inv row h => ⟨_, Ledger.commissionOf_setStatus h id .void, ?_⟩⟩
    split
    · exact ⟨rfl, fun _ hpending => by cases hpending⟩
    · exact ⟨rfl, fun hstatus => hstatus⟩
  | audit row => exact ⟨hkeyed, fun _ h => h.congr rfl, (Upheld.refl s).rows⟩
  | _ => exact .refl s

lemma Statement.Reverses.answer {c : Statement} (hc : c.Reverses) (s : Ledger) (fate : Fate) :
    Upheld s (database.answer c s fate).1 := by
  cases fate with
  | refused => exact .refl s
  | ok => exact hc.upheld s
  | lost => exact hc.upheld s

lemma Upheld.trans {s s' s'' : Ledger} (h : Upheld s s') (h' : Upheld s' s'') : Upheld s s'' where
  keyed := fun hs => h'.keyed (h.keyed hs)
  resolves := fun c hc => h'.resolves c (h.resolves c hc)
  rows := by
    intro inv row hrow
    obtain ⟨row', hrow', hid, hstatus⟩ := h.rows inv row hrow
    obtain ⟨row'', hrow'', hid', hstatus'⟩ := h'.rows inv row' hrow'
    exact ⟨row'', hrow'', hid'.trans hid, fun hne => hstatus' (hstatus hne)⟩

/-- The invoice has a commission, and nothing is owed on it. -/
def Settled (inv : String) (s : Ledger) : Prop :=
  ∃ row, s.commissionOf inv = some row ∧ row.status ≠ .pending

/-- The invoice has the commission `id`. -/
def HasRow (inv : String) (id : ℕ) (s : Ledger) : Prop :=
  ∃ row, s.commissionOf inv = some row ∧ row.id = id

section Reversal

variable {inv : String} {s : Ledger} {α : Type} {Q : α → Ledger → Prop}

lemma stable_settled : Stable Upheld (Settled inv) := by
  intro s s' h ⟨row, hrow, hne⟩
  obtain ⟨row', hrow', -, hstatus⟩ := h.rows inv row hrow
  exact ⟨row', hrow', hstatus hne⟩

lemma stable_hasRow {id : ℕ} : Stable Upheld (HasRow inv id) := by
  intro s s' h ⟨row, hrow, hid⟩
  obtain ⟨row', hrow', hid', -⟩ := h.rows inv row hrow
  exact ⟨row', hrow', hid'.trans hid⟩

lemma stable_someRow : Stable Upheld fun s => (s.commissionOf inv).isSome := by
  intro s s' h hsome
  obtain ⟨row, hrow⟩ := isSome_iff_exists.mp hsome
  obtain ⟨row', hrow', -⟩ := h.rows inv row hrow
  exact isSome_iff_exists.mpr ⟨row', hrow'⟩

lemma stable_resolves {c : String} : Stable Upheld (Ledger.Resolves · c) :=
  fun _ _ h hc => h.resolves c hc

lemma upholds_query {q : Statement} {f : q.Answer → Query α} (hq : q.Reverses) (J : Ledger → Prop)
    (hs : J s) (hJ : Stable Upheld J)
    (h : ∀ s, J s → (f (q.run s).2).Keeps Upheld Q (q.run s).1) :
    (query q >>= f).Keeps Upheld Q s :=
  .send Upheld.refl J hs hJ fun s hs => ⟨hq.upheld s, h s hs⟩

variable {a : α} {customerId : String}

lemma upholds_settled (hs : Settled inv s) :
    (pure a : Query α).Keeps Upheld (fun _ => Settled inv) s :=
  .pure _ hs stable_settled fun _ h => h

lemma upholds_audit {row : AuditRow} (hs : Settled inv s) :
    (do query (.audit row); pure a : Query α).Keeps Upheld (fun _ => Settled inv) s :=
  upholds_query trivial _ hs stable_settled fun _ hs => upholds_settled hs

lemma upholds_void {id : ℕ} {f : Commission → Query α} (hs : HasRow inv id s)
    (h : ∀ row s, Settled inv s → (f row).Keeps Upheld Q s) :
    (updateStatus id .void >>= f).Keeps Upheld Q s := by
  refine .bind (Q := fun _ => Settled inv) ?_ h
  refine upholds_query rfl _ hs stable_hasRow fun s ⟨row, hrow, hid⟩ => ?_
  subst hid
  obtain ⟨answer, hanswer⟩ := isSome_iff_exists.mp (Ledger.setStatus_isSome hrow .void)
  have hanswer' : ((Statement.setStatus row.id .void).run s).2 = some answer := hanswer
  rw [hanswer']
  refine upholds_settled ⟨_, Ledger.commissionOf_setStatus hrow row.id .void, ?_⟩
  rw [if_pos rfl]
  exact fun hpending => by cases hpending

lemma upholds_voidLate (hs : (s.commissionOf inv).isSome) :
    (voidLate inv).Keeps Upheld (fun _ => Settled inv) s := by
  refine upholds_query trivial _ hs stable_someRow fun s hs => ?_
  obtain ⟨late, hlate⟩ := isSome_iff_exists.mp hs
  have hread : ((Statement.commissionOf inv).run s).2 = some late := hlate
  rw [hread]
  dsimp only
  split
  · rename_i hpaid
    exact upholds_settled ⟨late, hlate, by rw [hpaid]; exact fun h => by cases h⟩
  split
  · exact upholds_void ⟨late, hlate, rfl⟩ fun _ _ hs => upholds_settled hs
  · rename_i hvoid
    exact upholds_settled ⟨late, hlate, by rw [not_not.mp hvoid]; exact fun h => by cases h⟩

/-- A tombstone, or the row of whoever was first. -/
lemma upholds_reverseUnaccrued (hs : s.Resolves customerId) :
    (reverseUnaccrued inv customerId).Keeps Upheld (fun _ => Settled inv) s := by
  unfold reverseUnaccrued
  rw [if_neg hs.1]
  refine upholds_query trivial _ hs stable_resolves fun s hs => ?_
  obtain ⟨-, t, ht, hreferred⟩ := id hs
  obtain ⟨affiliateId, haffiliate⟩ := isSome_iff_exists.mp hreferred
  have hread : ((Statement.tenantOfCustomer customerId).run s).2 = some t := ht
  rw [hread]
  unfold leaveTombstone
  simp only [bind_some, haffiliate, map_some]
  refine upholds_query trivial (fun _ => True) trivial (fun _ _ _ _ => trivial) fun s _ => ?_
  have hself := Ledger.commissionOf_create_self (s := s) (tombstone t.id affiliateId inv)
  have hupheld := Statement.Reverses.upheld (c := .create (tombstone t.id affiliateId inv)) trivial s
  cases hstone : (s.create (tombstone t.id affiliateId inv)).2 with
  | some stone =>
    rw [hstone] at hself
    have hanswer : ((Statement.create (tombstone t.id affiliateId inv)).run s).2 = some stone := hstone
    rw [hanswer]
    obtain ⟨hrow, hstatus⟩ := hself
    exact upholds_audit ⟨stone, hrow, by rw [hstatus]; exact fun h => by cases h⟩
  | none =>
    rw [hstone] at hself
    have hanswer : ((Statement.create (tombstone t.id affiliateId inv)).run s).2 = none := hstone
    rw [hanswer]
    exact upholds_voidLate (stable_someRow s _ hupheld hself)

/-- **One reversal.** If it finds the customer, or a commission when it starts, then where it returns
nothing is owed on the invoice. -/
lemma upholds_voidCommissionForRefund (hs : s.Resolves customerId ∨ (s.commissionOf inv).isSome) :
    (voidCommissionForRefund inv customerId).Keeps Upheld (fun _ => Settled inv) s := by
  have hstable : Stable Upheld fun s => s.Resolves customerId ∨ (s.commissionOf inv).isSome := by
    intro s s' h hs
    rcases hs with hs | hs
    · exact Or.inl (stable_resolves s s' h hs)
    · exact Or.inr (stable_someRow s s' h hs)
  refine upholds_query trivial _ hs hstable fun s hs => ?_
  have hread : ((Statement.commissionOf inv).run s).2 = s.commissionOf inv := rfl
  rw [hread]
  cases hrow : s.commissionOf inv with
  | none =>
    rcases hs with hs | hs
    · exact upholds_reverseUnaccrued hs
    · rw [hrow] at hs
      cases hs
  | some row =>
    dsimp only
    split
    · rename_i hpaid
      exact upholds_audit ⟨row, hrow, by rw [hpaid]; exact fun h => by cases h⟩
    · rename_i hvoid
      exact upholds_settled ⟨row, hrow, by rw [hvoid]; exact fun h => by cases h⟩
    · exact upholds_void ⟨row, hrow, rfl⟩ fun _ _ hs => upholds_audit hs

end Reversal

/-! ## Any deliveries in any order -/

/-- The statements that an accrual sends: it changes no status, and creates pending rows. -/
def Statement.Accrues : Statement → Prop
  | .setStatus _ _ => False
  | .create data => data.status = .pending
  | _ => True

lemma Statement.Accrues.reverses {c : Statement} (hc : c.Accrues) : c.Reverses := by
  cases c with
  | setStatus id status => exact hc.elim
  | _ => trivial

lemma sends_accrueForPaidInvoice (invoice : PaidInvoice) :
    (accrueForPaidInvoice invoice).Sends Statement.Accrues := by
  have hclaim : ∀ tenant affiliate,
      (claimOrAdopt tenant affiliate invoice.paidAt).Sends Statement.Accrues := by
    intro tenant affiliate
    unfold claimOrAdopt
    split
    · trivial
    · refine .bind (.send trivial) fun claimed => ?_
      split
      · trivial
      · exact .bind (.send trivial) fun _ => trivial
  have hmove : ∀ tenantId anchorAt,
      (moveBack tenantId invoice.paidAt anchorAt).Sends Statement.Accrues := by
    intro tenantId anchorAt
    unfold moveBack
    split
    · refine .bind (.send trivial) fun moved => ?_
      split
      · trivial
      · exact .bind (.send trivial) fun _ => trivial
    · trivial
  have hwindow : ∀ tenantId affiliate anchorAt months,
      (accrueInWindow invoice tenantId affiliate anchorAt months).Sends Statement.Accrues := by
    intro tenantId affiliate anchorAt months
    have htier : (tierRateFor affiliate).Sends Statement.Accrues := by
      unfold tierRateFor
      split
      · exact .bind (.send trivial) fun _ => trivial
      · trivial
    unfold accrueInWindow
    split
    · trivial
    split
    · trivial
    refine .bind htier fun ratePct => ?_
    dsimp only
    split
    · trivial
    · exact .send rfl
  refine .bind (.send trivial) fun tenant => ?_
  split
  · trivial
  split
  · trivial
  refine .bind (.send trivial) fun affiliate => ?_
  split
  · trivial
  exact .bind (hclaim _ _) fun _ => .bind (hmove _ _) fun _ => hwindow _ _ _ _

lemma sends_voidCommissionForRefund (inv customerId : String) :
    (voidCommissionForRefund inv customerId).Sends Statement.Reverses := by
  have hvoid : ∀ id, (updateStatus id .void).Sends Statement.Reverses := by
    intro id
    refine .bind (.send rfl) fun row => ?_
    split <;> trivial
  have hlate : (voidLate inv).Sends Statement.Reverses := by
    refine .bind (.send trivial) fun late => ?_
    split
    · trivial
    split
    · trivial
    split
    · exact .bind (hvoid _) fun _ => trivial
    · trivial
  have hstone : ∀ tenant, (leaveTombstone inv tenant).Sends Statement.Reverses := by
    intro tenant
    unfold leaveTombstone
    split
    · trivial
    refine .bind (.send trivial) fun stone => ?_
    split
    · exact .bind (.send trivial) fun _ => trivial
    · exact hlate
  have hunaccrued : (reverseUnaccrued inv customerId).Sends Statement.Reverses := by
    unfold reverseUnaccrued
    split
    · exact hstone none
    · exact .bind (.send trivial) hstone
  refine .bind (.send trivial) fun row => ?_
  split
  · exact hunaccrued
  split
  · exact .bind (.send trivial) fun _ => trivial
  · trivial
  · exact .bind (hvoid _) fun _ => .bind (.send trivial) fun _ => trivial

variable {ι : Type} (invoiceIdForCharge : String → Option String) (events : ι → StripeEvent)

lemma sends_mountStripeWebhook (event : StripeEvent) :
    (mountStripeWebhook invoiceIdForCharge event).Sends Statement.Reverses := by
  unfold mountStripeWebhook
  split
  · split
    · trivial
    · exact .bind ((sends_accrueForPaidInvoice _).mono fun _ hc => hc.reverses) fun _ => trivial
  · split
    · trivial
    · exact .bind (sends_voidCommissionForRefund _ _) fun _ => trivial

def deliveries (s : Ledger) : Pool ι database DbError Delivered :=
  ⟨s, fun i => mountStripeWebhook invoiceIdForCharge (events i)⟩

/-- The condition on a step: a delivery that starts to reverse the invoice carries the customer id of
a referred tenant, or finds a commission. -/
def Founded (inv : String) (p : Pool ι database DbError Delivered) (i : ι) (_ : Statement)
    (_ : Fate) : Prop :=
  p.thread i = mountStripeWebhook invoiceIdForCharge (events i) → ∀ customerId,
    (events i).reversal invoiceIdForCharge = some (inv, customerId) →
      p.state.Resolves customerId ∨ (p.state.commissionOf inv).isSome

lemma mountStripeWebhook_eq {event : StripeEvent} {inv customerId : String}
    (h : event.reversal invoiceIdForCharge = some (inv, customerId)) :
    mountStripeWebhook invoiceIdForCharge event = (do
      let outcome ← voidCommissionForRefund inv customerId
      pure (.reversed outcome)) := by
  cases event with
  | invoicePaymentSucceeded obj created => cases h
  | chargeRefunded obj =>
    unfold mountStripeWebhook
    dsimp only
    rw [h]
  | chargeDisputeClosed obj =>
    unfold mountStripeWebhook
    dsimp only
    rw [h]

variable {invoiceIdForCharge events} in
lemma run_founded [DecidableEq ι] {inv : String} {s : Ledger} {p : Pool ι database DbError Delivered}
    (hresolves : ∀ i customerId, (events i).reversal invoiceIdForCharge = some (inv, customerId) →
      s.Resolves customerId)
    (hrun : (deliveries invoiceIdForCharge events s).Reaches p) :
    Pool.Run (Founded invoiceIdForCharge events inv) (deliveries invoiceIdForCharge events s) p := by
  refine hrun.of_reaches fun q i c fate hq _ customerId hreversal => Or.inl ?_
  obtain ⟨hupheld, -⟩ := hq.all_keep Upheld.refl (fun _ _ _ => Upheld.trans)
    fun j => (sends_mountStripeWebhook invoiceIdForCharge (events j)).keeps (fun _ hc => hc.answer) s
  exact hupheld.resolves customerId (hresolves i customerId hreversal)

/-- **A refunded invoice never leaves money owed**, in any run in which each reversal of it carries the
customer id of a referred tenant or finds a commission when it starts: once one has returned, no
commission of the invoice is pending, then and later. -/
theorem refund_leaves_nothing_owed [DecidableEq ι] {inv : String} {s : Ledger} (hs : s.Keyed)
    {p p' : Pool ι database DbError Delivered}
    (hrun : Pool.Run (Founded invoiceIdForCharge events inv) (deliveries invoiceIdForCharge events s) p)
    {i : ι} {customerId : String} {outcome : Delivered}
    (hreversal : (events i).reversal invoiceIdForCharge = some (inv, customerId))
    (hreturned : p.thread i = .done outcome) (hrun' : p.Reaches p') :
    ∀ row ∈ p'.state.commissions, row.sourceInvoiceId = inv → row.status ≠ .pending := by
  have hprogram := mountStripeWebhook_eq invoiceIdForCharge hreversal
  have hmoved : p.thread i ≠ (deliveries invoiceIdForCharge events s).thread i := by
    rw [hreturned]
    show _ ≠ mountStripeWebhook invoiceIdForCharge (events i)
    rw [hprogram]
    exact fun h => by cases h
  obtain ⟨q, q', c, fate, hfirst, hthread, hstep, hfounded, hrest⟩ := hrun.first_step hmoved
  have hkeeps : ∀ j, ((deliveries invoiceIdForCharge events s).thread j).Keeps Upheld
      (fun _ _ => True) (deliveries invoiceIdForCharge events s).state :=
    fun j => (sends_mountStripeWebhook invoiceIdForCharge (events j)).keeps
      (fun _ hc => hc.answer) s
  obtain ⟨hq, hkeeps⟩ := hfirst.all_keep Upheld.refl (fun _ _ _ => Upheld.trans) hkeeps
  -- from its first step on, the reversal is on its way to a settled invoice
  have hkeeps : ∀ j, (q.thread j).Keeps Upheld (fun _ s => j = i → Settled inv s) q.state := by
    intro j
    by_cases hj : j = i
    · subst hj
      rw [hthread]
      show (mountStripeWebhook invoiceIdForCharge (events j)).Keeps _ _ _
      rw [hprogram]
      refine .bind (upholds_voidCommissionForRefund (hfounded hthread customerId hreversal)) ?_
      exact fun outcome s hs => .pure _ hs stable_settled fun _ h _ => h
    · exact (hkeeps j).weaken fun _ _ _ hj' => absurd hj' hj
  have hrest' : q.Reaches p := ((Pool.Run.refl q).step hstep trivial).trans hrest.reaches
  obtain ⟨hp, hkeeps⟩ := hrest'.all_keep Upheld.refl (fun _ _ _ => Upheld.trans) hkeeps
  have hsettled : Settled inv p.state := by
    have hi := hkeeps i
    rw [hreturned] at hi
    exact hi.returned rfl
  obtain ⟨hp', -⟩ := hrun'.all_keep Upheld.refl (fun _ _ _ => Upheld.trans) hkeeps
  obtain ⟨row, hrow, hstatus⟩ := stable_settled _ _ hp' hsettled
  have hkeyed := hp'.keyed (hp.keyed (hq.keyed hs))
  intro row' hmem hinv
  have hrow' := hkeyed.commissionOf_eq hmem
  rw [hinv] at hrow'
  cases hrow.symm.trans hrow'
  exact hstatus

/-! A chargeback that overtakes the payment, with and without a customer id on the dispute. -/

def januaryInvoice : InvoiceObject := ⟨some "in_jan", some "cus", some 10000, some "eur"⟩

def chargeback (customer : Option String) (first : Bool) : StripeEvent :=
  if first then .chargeDisputeClosed ⟨some "lost", some "ch_jan", customer⟩
  else .invoicePaymentSucceeded januaryInvoice 1768176000000

/-- The chargeback is delivered first, then the payment. -/
def overtaken (customer : Option String) : Pool Bool database DbError Delivered :=
  (deliveries (fun _ => some "in_jan") (chargeback customer) sampleLedger).exec
    ([true, true, true, true, true, false, false, false, false].map (·, Fate.ok))

theorem refund_leaves_nothing_owed_chargeback :
    (overtaken (some "cus")).state.commissions.all fun row =>
      row.sourceInvoiceId = "in_jan" → row.status ≠ .pending := by
  refine all_eq_true.mpr fun row hrow => decide_eq_true fun hinv => ?_
  have hreturned : (((overtaken (some "cus")).thread true).returned) =
      some (.reversed .tombstoned) := by decide +kernel
  refine refund_leaves_nothing_owed (fun _ => some "in_jan") (chargeback (some "cus"))
    sampleLedger_keyed (i := true) (run_founded ?_ (Pool.reaches_exec _ _)) rfl
    (eq_done_of_returned hreturned) (.refl _) row hrow hinv
  intro first customerId hreversal
  cases first with
  | false => cases hreversal
  | true =>
    obtain rfl : "cus" = customerId := congrArg Prod.snd (some.inj hreversal)
    exact ⟨by decide, sampleTenant, by decide, rfl⟩

/-- Without one the reversal returns and leaves nothing, and the payment is owed on. -/
theorem chargeback_leaves_money_owed :
    (deliveries (fun _ => some "in_jan") (chargeback none) sampleLedger).Reaches (overtaken none) ∧
      ((overtaken none).thread true).returned = some (.reversed .none) ∧
      (((overtaken none).thread false).returned).isSome ∧
      ∃ row ∈ (overtaken none).state.commissions, row.sourceInvoiceId = "in_jan" ∧
        row.status = .pending := by
  refine ⟨Pool.reaches_exec _ _, by decide +kernel, by decide +kernel, ?_⟩
  decide +kernel

end Affiliates

end Orbetra
