import Orbetra.Affiliates.Refund

/-!
# Payouts and refunds

An administrator marks a commission paid while refunds of its invoice run.  A refund reads the status
and voids the row in a later statement that does not look at the status again, so what it may do is
decided by what happens while it waits to send that statement.
-/

namespace Orbetra

open List Async

namespace Affiliates

inductive LedgerCall
  | accrue (invoice : PaidInvoice)
  | refund (sourceInvoiceId stripeCustomerId : String)
  | setStatus (actor : String) (id : ℕ) (status : CommissionStatus)

/-- What it returns. -/
inductive LedgerAnswer
  | accrued (row : Option Commission)
  | refunded (outcome : RefundOutcome)
  | updated (row : Option Commission)
  deriving DecidableEq

def LedgerCall.program : LedgerCall → Query LedgerAnswer
  | .accrue invoice => do
    let row ← accrueForPaidInvoice invoice
    pure (.accrued row)
  | .refund sourceInvoiceId stripeCustomerId => do
    let outcome ← voidCommissionForRefund sourceInvoiceId stripeCustomerId
    pure (.refunded outcome)
  | .setStatus actor id status => do
    let row ← setCommissionStatus actor id status
    pure (.updated row)

def LedgerCall.IsRefund : LedgerCall → Prop
  | .refund _ _ => True
  | _ => False

def NotPaid (id : ℕ) (s : Ledger) : Prop := ∀ row ∈ s.commissions, row.id = id → row.status ≠ .paid

/-- A statement that makes no row paid; only a change of status does. -/
def Statement.CreatesUnpaid : Statement → Prop
  | .create data => data.status ≠ .paid
  | _ => True

variable {s : Ledger} {row : Commission} {c : Statement}

lemma mem_setStatus {id : ℕ} {status : CommissionStatus} :
    row ∈ (s.setStatus id status).1.commissions ↔
      ∃ row₀ ∈ s.commissions, row = if row₀.id = id then { row₀ with status := status } else row₀ := by
  show row ∈ s.commissions.map _ ↔ _
  rw [mem_map]
  constructor
  · intro ⟨row₀, hmem, heq⟩
    exact ⟨row₀, hmem, heq.symm⟩
  · intro ⟨row₀, hmem, heq⟩
    exact ⟨row₀, hmem, heq.symm⟩

lemma commissions_create (s : Ledger) (data : NewCommission) :
    (s.create data).1.commissions = s.commissions ∨
      (s.create data).1.commissions = s.commissions ++ [{ data with id := s.commissions.length }] := by
  unfold Ledger.create
  split
  · exact Or.inl rfl
  · exact Or.inr rfl

lemma NotPaid.run {id : ℕ} (h : NotPaid id s) (hc : c.CreatesUnpaid)
    (hpaid : c ≠ .setStatus id .paid) : NotPaid id (c.run s).1 := by
  cases c with
  | create data =>
    show NotPaid id (s.create data).1
    intro row hrow hid
    rcases commissions_create s data with heq | heq
    · exact h row (heq ▸ hrow) hid
    · rw [heq] at hrow
      rcases mem_append.mp hrow with hrow | hrow
      · exact h row hrow hid
      · obtain rfl := mem_singleton.mp hrow
        exact hc
  | setStatus id' status =>
    intro row hrow hid
    obtain ⟨row₀, hmem, rfl⟩ := mem_setStatus.mp hrow
    split at hid
    · rename_i heq
      rw [if_pos heq]
      intro hstatus
      obtain rfl : status = .paid := hstatus
      obtain rfl : id' = id := heq.symm.trans hid
      exact hpaid rfl
    · rename_i hne
      rw [if_neg hne]
      exact h row₀ hmem hid
  | _ => exact h

lemma audit_run (c : Statement) (s : Ledger) : s.audit ⊆ (c.run s).1.audit := by
  cases c with
  | create data =>
    show s.audit ⊆ (s.create data).1.audit
    unfold Ledger.create
    split <;> exact fun _ h => h
  | audit row => exact subset_append_left _ _
  | _ => exact fun _ h => h

lemma mem_run_of_paid (hc : ∀ id status, c = .setStatus id status → NotPaid id s)
    (hrow : row ∈ s.commissions) (hpaid : row.status = .paid) : row ∈ (c.run s).1.commissions := by
  cases c with
  | create data =>
    show row ∈ (s.create data).1.commissions
    rcases commissions_create s data with heq | heq
    · exact heq ▸ hrow
    · rw [heq]
      exact mem_append_left _ hrow
  | setStatus id status =>
    refine mem_setStatus.mpr ⟨row, hrow, ?_⟩
    rw [if_neg fun hid => hc id status rfl row hrow hid hpaid]
  | _ => exact hrow

/-! ## A refund among payout decisions -/

/-- What a call relies on while it waits to send a statement: where it is a refund that is about to
void a row, nobody marks that row paid. -/
def payoutEnv (isRefund : Prop) (waiting : Option Statement) (s s' : Ledger) : Prop :=
  (s.Keyed → s'.Keyed) ∧
    (isRefund → ∀ id, waiting = some (.setStatus id .void) → NotPaid id s → NotPaid id s')

/-- What a call promises of a statement that it sends. -/
def payoutOwn (isRefund : Prop) (c : Statement) (s s' : Ledger) : Prop :=
  (s.Keyed → s'.Keyed) ∧ c.CreatesUnpaid ∧
    (isRefund → ∀ id status, c = .setStatus id status → NotPaid id s)

section Refund

variable {s : Ledger} {α : Type}

/-- A refund that keeps its promise. -/
abbrev SparesPaid (m : Query α) (s : Ledger) : Prop :=
  m.Meets (fun _ _ _ => True) (payoutEnv True) (payoutOwn True) (fun _ _ => True) s

lemma sparesPaid_pure (a : α) (s : Ledger) : SparesPaid (pure a : Query α) s :=
  .done (fun _ => True) trivial (fun _ _ _ _ => trivial) fun _ _ => trivial

lemma sparesPaid_threw (e : DbError) (s : Ledger) : SparesPaid (.threw e : Query α) s :=
  .threw (fun _ => True) trivial (fun _ _ _ _ => trivial) fun _ _ => trivial

lemma sparesPaid_query {q : Statement} {f : q.Answer → Query α} (J : Ledger → Prop) (hs : J s)
    (hJ : Stable (payoutEnv True (some q)) J) (hunpaid : q.CreatesUnpaid)
    (hq : ∀ s, J s → ∀ id status, q = .setStatus id status → NotPaid id s)
    (h : ∀ s, J s → SparesPaid (f (q.run s).2) (q.run s).1) : SparesPaid (query q >>= f) s := by
  refine .send J hs hJ (fun s hs => ⟨⟨fun hkeyed => hkeyed.run q, hunpaid, fun _ => hq s hs⟩, h s hs⟩)
    (fun s hs => ⟨⟨fun hkeyed => hkeyed, hunpaid, fun _ => hq s hs⟩, sparesPaid_threw _ s⟩)
    fun s _ => sparesPaid_threw _ _

lemma stable_keyed {isRefund : Prop} {waiting : Option Statement} :
    Stable (payoutEnv isRefund waiting) Ledger.Keyed := fun _ _ henv hs => henv.1 hs

lemma sparesPaid_audit (row : AuditRow) (a : α) (s : Ledger) :
    SparesPaid (do query (.audit row); pure a : Query α) s :=
  sparesPaid_query (fun _ => True) trivial (fun _ _ _ _ => trivial) trivial
    (fun _ _ _ _ h => by cases h) fun s _ => sparesPaid_pure a _

lemma sparesPaid_void {id : ℕ} {f : Commission → Query α} (hs : NotPaid id s)
    (h : ∀ row s, SparesPaid (f row) s) : SparesPaid (updateStatus id .void >>= f) s := by
  refine .bind (Q := fun _ _ => True) ?_ (fun row s _ => h row s) fun _ _ _ => trivial
  refine sparesPaid_query (NotPaid id) hs (fun s s' henv hs => henv.2 trivial id rfl hs) trivial ?_ ?_
  · intro s hs id' status heq
    cases heq
    exact hs
  · intro s _
    split
    · exact sparesPaid_threw _ _
    · exact sparesPaid_pure _ _

lemma notPaid_of_commissionOf {inv : String} {row : Commission} (hs : s.Keyed)
    (hrow : s.commissionOf inv = some row) (hne : row.status ≠ .paid) : NotPaid row.id s := by
  obtain ⟨hmem, -⟩ := Ledger.mem_of_commissionOf hrow
  intro row' hmem' hid
  have heq := hs.commission_eq hmem'
  rw [hid, hs.commission_eq hmem] at heq
  exact Option.some.inj heq ▸ hne

lemma sparesPaid_voidLate (inv : String) (hs : s.Keyed) : SparesPaid (voidLate inv) s := by
  refine sparesPaid_query Ledger.Keyed hs stable_keyed trivial (fun _ _ _ _ h => by cases h) fun s hs => ?_
  have hread : ((Statement.commissionOf inv).run s).2 = s.commissionOf inv := rfl
  rw [hread]
  cases hlate : s.commissionOf inv with
  | none => exact sparesPaid_pure _ _
  | some late =>
    dsimp only
    split
    · exact sparesPaid_pure _ _
    · rename_i hunpaid
      split
      · exact sparesPaid_void (notPaid_of_commissionOf hs hlate hunpaid) fun _ _ => sparesPaid_pure _ _
      · exact sparesPaid_pure _ _

lemma sparesPaid_leaveTombstone (inv : String) (tenant : Option Tenant) (hs : s.Keyed) :
    SparesPaid (leaveTombstone inv tenant) s := by
  unfold leaveTombstone
  split
  · exact sparesPaid_pure _ _
  refine sparesPaid_query Ledger.Keyed hs stable_keyed ?_ (fun _ _ _ _ h => by cases h) fun s hs => ?_
  · exact fun h => by cases h
  split
  · exact sparesPaid_audit _ _ _
  · exact sparesPaid_voidLate inv (hs.run _)

/-- **One refund**: it changes the status of a row that nobody marks paid before it does. -/
lemma sparesPaid_voidCommissionForRefund (inv customerId : String) (hs : s.Keyed) :
    SparesPaid (voidCommissionForRefund inv customerId) s := by
  refine sparesPaid_query Ledger.Keyed hs stable_keyed trivial (fun _ _ _ _ h => by cases h) fun s hs => ?_
  have hread : ((Statement.commissionOf inv).run s).2 = s.commissionOf inv := rfl
  rw [hread]
  cases hrow : s.commissionOf inv with
  | none =>
    show SparesPaid (reverseUnaccrued inv customerId) s
    unfold reverseUnaccrued
    split
    · exact sparesPaid_leaveTombstone inv none hs
    · exact sparesPaid_query Ledger.Keyed hs stable_keyed trivial (fun _ _ _ _ h => by cases h)
        fun s hs => sparesPaid_leaveTombstone inv _ hs
  | some row =>
    dsimp only
    split
    · exact sparesPaid_audit _ _ _
    · exact sparesPaid_pure _ _
    · rename_i hpending
      refine sparesPaid_void (notPaid_of_commissionOf hs hrow ?_) fun _ s => sparesPaid_audit _ _ s
      rw [hpending]
      exact fun h => by cases h

end Refund

/-! ## Any calls in any order -/

lemma Statement.Accrues.createsUnpaid (hc : c.Accrues) : c.CreatesUnpaid := by
  cases c with
  | create data =>
    intro hpaid
    have hpending : data.status = .pending := hc
    rw [hpaid] at hpending
    cases hpending
  | _ => trivial

lemma sends_setCommissionStatus (actor : String) (id : ℕ) (status : CommissionStatus) :
    (setCommissionStatus actor id status).Sends Statement.CreatesUnpaid := by
  have hupdate : (updateStatus id status).Sends Statement.CreatesUnpaid := by
    refine .bind (.send trivial) fun row => ?_
    split <;> trivial
  refine .bind (.send trivial) fun before => ?_
  split
  · trivial
  · exact .bind hupdate fun _ => .bind (.send trivial) fun _ => trivial

lemma LedgerCall.meets (call : LedgerCall) (hs : s.Keyed) :
    call.program.Meets (fun _ _ _ => True) (payoutEnv call.IsRefund) (payoutOwn call.IsRefund)
      (fun _ _ => True) s := by
  have hother : ∀ {m : Query LedgerAnswer}, m.Sends Statement.CreatesUnpaid →
      m.Meets (fun _ _ _ => True) (payoutEnv False) (payoutOwn False) (fun _ _ => True) s :=
    fun hm => hm.meets (fun c hc s fate => ⟨fun hs => hs.answer c fate, hc, fun h => h.elim⟩) s
  cases call with
  | accrue invoice =>
    exact hother (.bind ((sends_accrueForPaidInvoice invoice).mono fun _ hc => hc.createsUnpaid)
      fun _ => trivial)
  | refund inv customerId =>
    exact (sparesPaid_voidCommissionForRefund inv customerId hs).bind
      (fun outcome s _ => sparesPaid_pure _ s) fun _ _ _ => trivial
  | setStatus actor id status =>
    exact hother (.bind (sends_setCommissionStatus actor id status) fun _ => trivial)

variable {ι : Type} (calls : ι → LedgerCall)

def ledgerCalls (s : Ledger) : Pool ι database DbError LedgerAnswer :=
  ⟨s, fun i => (calls i).program⟩

/-- The condition on a step: no row is marked paid while a refund waits to void it, and a refund that
lost the race for its row does not find it paid. -/
structure Timely (p : Pool ι database DbError LedgerAnswer) (i : ι) (c : Statement) (_ : Fate) :
    Prop where
  decision : ∀ id, c = .setStatus id .paid → ∀ j, (calls j).IsRefund →
    (p.thread j).pending ≠ some (.setStatus id .void)
  late : ∀ inv row, (calls i).IsRefund → c = .commissionOf inv →
    p.thread i ≠ (calls i).program → p.state.commissionOf inv = some row → row.status ≠ .paid

variable [DecidableEq ι]

/-- What a refund does once it has read a paid row. -/
def recordClawback (row : Commission) : Query LedgerAnswer := do
  query (.audit ⟨none, row.id, some .paid, .paid, row.amountCents, row.affiliateId,
    .refundAfterPayoutManualClawback⟩)
  pure (.refunded .alreadyPaid)

lemma refund_program (inv customerId : String) :
    ∃ k, (LedgerCall.refund inv customerId).program = .call (.commissionOf inv) k ∧
      ∀ row : Commission, row.status = .paid → k (some (some row)) = recordClawback row := by
  refine ⟨_, rfl, fun row hpaid => ?_⟩
  obtain ⟨data, id⟩ := row
  obtain ⟨affiliateId, tenantId, amountCents, currency, invoiceId, status, rate, base, paidAt⟩ := data
  obtain rfl : status = .paid := hpaid
  show call _ _ = call _ _
  congr 1
  funext r
  cases r <;> rfl

lemma clawback_recorded {p p' : Pool ι database DbError LedgerAnswer} (hrun : p.Reaches p') {i : ι}
    (hi : p.thread i = recordClawback row) {answer : LedgerAnswer}
    (hreturned : p'.thread i = .done answer) :
    answer = .refunded .alreadyPaid ∧ ∃ record ∈ p'.state.audit,
      record.entityId = row.id ∧ record.reason = .refundAfterPayoutManualClawback := by
  have hkeeps : ∀ j, (p.thread j).Keeps (fun s s' => s.audit ⊆ s'.audit)
      (fun answer s => j = i → answer = .refunded .alreadyPaid ∧ ∃ record ∈ s.audit,
        record.entityId = row.id ∧ record.reason = .refundAfterPayoutManualClawback) p.state := by
    intro j
    by_cases hj : j = i
    · rw [hj, hi]
      refine .send (fun s => Subset.refl s.audit) (fun _ => True) trivial
        (fun _ _ _ _ => trivial) fun s _ => ⟨audit_run _ s, ?_⟩
      set record : AuditRow := ⟨none, row.id, some .paid, .paid, row.amountCents, row.affiliateId,
        .refundAfterPayoutManualClawback⟩ with hrecord
      exact .pure (fun s => record ∈ s.audit) (mem_append_right _ (mem_singleton_self _))
        (fun _ _ hsub hmem => hsub hmem) fun s hmem _ => ⟨rfl, record, hmem, rfl, rfl⟩
    · refine ((p.thread j).sends_any.keeps (fun c _ s fate => ?_) p.state).weaken
        fun _ _ _ hj' => absurd hj' hj
      cases fate with
      | refused => exact Subset.refl _
      | ok => exact audit_run c s
      | lost => exact audit_run c s
  obtain ⟨-, hkeeps⟩ := Pool.Run.all_keep (G := fun s s' => s.audit ⊆ s'.audit)
    (fun s => Subset.refl s.audit) (fun _ _ _ => Subset.trans) hkeeps hrun
  have hi' := hkeeps i
  rw [hreturned] at hi'
  exact hi'.returned rfl

/-- **A paid-out commission is never silently voided**, in any run whose steps meet the condition: a
refund leaves every paid row as it is, and one that reads a paid row returns `alreadyPaid` and leaves
the record for the clawback. -/
theorem payout_survives_refund {s : Ledger} (hs : s.Keyed)
    {p p' : Pool ι database DbError LedgerAnswer}
    (hrun : Pool.Run (Timely calls) (ledgerCalls calls s) p) {i : ι} (hrefund : (calls i).IsRefund)
    {c : Statement} {fate : Fate} (hstep : p.Step i c fate p') (htimely : Timely calls p i c fate) :
    (∀ row ∈ p.state.commissions, row.status = .paid → row ∈ p'.state.commissions) ∧
    (∀ inv row, c = .commissionOf inv → fate = .ok → p.state.commissionOf inv = some row →
      row.status = .paid → ∀ p'' answer, p'.Reaches p'' → p''.thread i = .done answer →
        answer = .refunded .alreadyPaid ∧ ∃ record ∈ p''.state.audit,
          record.entityId = row.id ∧ record.reason = .refundAfterPayoutManualClawback) := by
  have hcompatible : Pool.Compatible (Timely calls) (fun _ _ _ _ => True)
      (fun i => payoutEnv (calls i).IsRefund) (fun i => payoutOwn (calls i).IsRefund) := by
    intro q j c fate q' hstep htimely
    refine ⟨trivial, fun hown k hk => ?_⟩
    refine ⟨hown.1, fun hrefund id hwaiting hnotPaid => ?_⟩
    have hpaid : c ≠ .setStatus id .paid := fun heq => htimely.decision id heq k hrefund hwaiting
    obtain ⟨_, _, rfl⟩ := hstep
    cases fate with
    | refused => exact hnotPaid
    | ok => exact hnotPaid.run hown.2.1 hpaid
    | lost => exact hnotPaid.run hown.2.1 hpaid
  have hmeets : (ledgerCalls calls s).Meets (fun _ _ _ _ => True)
      (fun i => payoutEnv (calls i).IsRefund) (fun i => payoutOwn (calls i).IsRefund)
      fun _ _ _ => True := fun i => (calls i).meets hs
  obtain ⟨-, -, hchange⟩ := ((hrun.meets hcompatible hmeets).step hcompatible hstep htimely).1
  constructor
  · intro row hrow hpaid
    obtain ⟨_, _, rfl⟩ := hstep
    cases fate with
    | refused => exact hrow
    | ok => exact mem_run_of_paid (hchange hrefund) hrow hpaid
    | lost => exact mem_run_of_paid (hchange hrefund) hrow hpaid
  · intro inv row hc hfate hrow hpaid p'' answer hrest hreturned
    -- the only read that finds a paid row is the first one
    have hfirst : p.thread i = (calls i).program := by
      by_contra hlate
      exact htimely.late inv row hrefund hc hlate hrow hpaid
    cases hcall : calls i with
    | accrue invoice => rw [hcall] at hrefund; exact hrefund.elim
    | setStatus actor id status => rw [hcall] at hrefund; exact hrefund.elim
    | refund inv' customerId =>
      rw [hcall] at hfirst
      obtain ⟨k, hprogram, hread⟩ := refund_program inv' customerId
      obtain ⟨k', hk, rfl⟩ := hstep
      subst hc hfate
      rw [hfirst, hprogram] at hk
      cases hk
      refine clawback_recorded hrest ?_ hreturned
      show Function.update p.thread i _ i = _
      rw [Function.update_self]
      have hanswer : (database.answer (.commissionOf inv) p.state .ok).2 = some (some row) :=
        congrArg some hrow
      rw [hanswer]
      exact hread row hpaid

/-! A refund of a commission that an administrator deals with at the same time. -/

def januaryCommission (status : CommissionStatus) : Commission where
  affiliateId := "partner"
  tenantId := "tenant"
  amountCents := 2000
  currency := "eur"
  sourceInvoiceId := "in_jan"
  status := status
  ratePct := some 20
  baseAmountCents := some 10000
  paidAt := some 1768176000000
  id := 0

def accruedLedger (status : CommissionStatus) : Ledger :=
  { sampleLedger with commissions := [januaryCommission status] }

lemma accruedLedger_keyed (status : CommissionStatus) : (accruedLedger status).Keyed where
  tenantIds := sampleLedger_keyed.tenantIds
  referrals := sampleLedger_keyed.referrals
  invoices := by simp [accruedLedger]
  rowIds := by simp [accruedLedger]
  fresh := by
    intro row hrow
    obtain rfl := mem_singleton.mp hrow
    show 0 < 1
    decide

/-- A refund, a payout decision and an accrual of the same invoice. -/
def januaryCalls : Fin 3 → LedgerCall
  | 0 => .refund "in_jan" "cus"
  | 1 => .setStatus "admin" 0 .paid
  | 2 => .accrue ⟨"cus", "in_jan", 10000, "eur", 1768176000000⟩

/-- The calls in a given order of steps, all answered. -/
def januaryRun (s : Ledger) (schedule : List (Fin 3)) : Pool (Fin 3) database DbError LedgerAnswer :=
  (ledgerCalls januaryCalls s).exec (schedule.map (·, Fate.ok))

theorem payout_survives_refund_paid :
    ∃ record ∈ (januaryRun (accruedLedger .paid) [0, 0]).state.audit,
      record.entityId = 0 ∧ record.reason = .refundAfterPayoutManualClawback := by
  have hreturned : ((januaryRun (accruedLedger .paid) [0, 0]).thread 0).returned =
      some (.refunded .alreadyPaid) := by decide +kernel
  have hread : Timely januaryCalls (ledgerCalls januaryCalls (accruedLedger .paid)) 0
      (.commissionOf "in_jan") .ok :=
    ⟨fun id heq => (by cases heq), fun _ _ _ _ hlate => absurd rfl hlate⟩
  exact ((payout_survives_refund januaryCalls (accruedLedger_keyed .paid) (.refl _) (i := 0) trivial
    ⟨_, rfl, rfl⟩ hread).2 "in_jan" (januaryCommission .paid) rfl rfl (by decide) rfl _ _
    (Pool.reaches_exec [((0 : Fin 3), Fate.ok)] _) (eq_done_of_returned hreturned)).2

/-- A decision between the two statements of a refund is lost: the paid row is voided. -/
theorem refund_voids_paid_commission :
    (ledgerCalls januaryCalls (accruedLedger .pending)).Reaches
        (januaryRun (accruedLedger .pending) [0, 1, 1, 1, 0]) ∧
      (januaryRun (accruedLedger .pending) [0, 1, 1, 1]).state.commissions =
        [januaryCommission .paid] ∧
      (januaryRun (accruedLedger .pending) [0, 1, 1, 1, 0]).state.commissions =
        [januaryCommission .void] ∧
      -- and one that lost the race for the row meets it paid and records nothing
      ((januaryRun sampleLedger [0, 2, 2, 2, 2, 1, 1, 1, 0, 0, 0]).thread 0).returned =
        some (.refunded .alreadyPaid) ∧
      (januaryRun sampleLedger [0, 2, 2, 2, 2, 1, 1, 1, 0, 0, 0]).state.audit.all
        (·.reason ≠ .refundAfterPayoutManualClawback) := by
  refine ⟨Pool.reaches_exec _ _, by decide +kernel, by decide +kernel, by decide +kernel,
    by decide +kernel⟩

end Affiliates

end Orbetra
