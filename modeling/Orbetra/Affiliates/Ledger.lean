import Orbetra.Framework.Async
import Orbetra.Records

/-!
# The commission ledger

`accrueForPaidInvoice`, `voidCommissionForRefund` and `setCommissionStatus` of
`packages/db/src/repos/affiliates.ts`, with the columns of `tenants`, `affiliates`, `commissions` and
of the audit log that they read and write.  Each statement of the source is one command of the
service `Affiliates.database`: it runs atomically, on the rows as they are when it runs, and anything
may happen between two of them.

Amounts are computed over the rationals.
-/

namespace Orbetra

open List

namespace Affiliates

/-! ## Whole months -/

/-- The day number of a civil date, counted from 1970-01-01; months are numbered from 1. -/
def daysFromCivil (y m d : ℤ) : ℤ :=
  let y := if m ≤ 2 then y - 1 else y
  let era := y / 400
  let yoe := y % 400
  let doy := (153 * ((m + 9) % 12) + 2) / 5 + d - 1
  era * 146097 + (yoe * 365 + yoe / 4 - yoe / 100 + doy) - 719468

def civilFromDays (days : ℤ) : ℤ × ℤ × ℤ :=
  let z := days + 719468
  let era := z / 146097
  let doe := z % 146097
  let yoe := (doe - doe / 1460 + doe / 36524 - doe / 146096) / 365
  let doy := doe - (365 * yoe + yoe / 4 - yoe / 100)
  let mp := (5 * doy + 2) / 153
  let m := if mp < 10 then mp + 3 else mp - 9
  let y := yoe + era * 400
  (if m ≤ 2 then y + 1 else y, m, doy - (153 * mp + 2) / 5 + 1)

def dayMs : Ms := 86400000

def dateUtc (y m d : ℤ) : ℤ := daysFromCivil (y + m / 12) (m % 12 + 1) 1 + d - 1

/-- `addMonthsUtc`: whole months later, clamped to the last day of the month. -/
def addMonthsUtc (t : Ms) (months : ℤ) : Ms :=
  let (y, m, day) := civilFromDays (t / dayMs)
  let m := m - 1 + months
  let lastDay := (civilFromDays (dateUtc y (m + 1) 0)).2.2
  dateUtc y m (min day lastDay) * dayMs + t % dayMs

/-! ## The tables -/

inductive AffiliateStatus
  | pending
  | active
  | suspended
  deriving DecidableEq

structure Affiliate where
  id : String
  status : AffiliateStatus
  commissionPct : ℚ
  commissionMonths : ℤ
  tierPct : Option ℚ
  tierMinCustomers : Option ℕ
  deriving DecidableEq

structure Tenant where
  id : String
  stripeCustomerId : Option String
  referredByAffiliateId : Option String
  commissionAnchorAt : Option Ms
  commissionMonthsAtAnchor : Option ℤ
  deriving DecidableEq

inductive CommissionStatus
  | pending
  | paid
  | void
  deriving DecidableEq

structure NewCommission where
  affiliateId : String
  tenantId : String
  amountCents : ℤ
  currency : String
  sourceInvoiceId : String
  status : CommissionStatus
  ratePct : Option ℚ
  baseAmountCents : Option ℤ
  paidAt : Option Ms
  deriving DecidableEq

structure Commission extends NewCommission where
  id : ℕ
  deriving DecidableEq

/-- Why the audit log was written. -/
inductive AuditReason
  | refundBeforeAccrual
  | refundAfterPayoutManualClawback
  | chargeRefunded
  | statusSet
  deriving DecidableEq

/-- A row of the audit log about a commission; `actor` is `none` for the webhook. -/
structure AuditRow where
  actor : Option String
  entityId : ℕ
  before : Option CommissionStatus
  after : CommissionStatus
  amountCents : ℤ
  affiliateId : String
  reason : AuditReason
  deriving DecidableEq

/-- The part of the database that the ledger is about. -/
structure Ledger where
  tenants : List Tenant
  affiliates : List Affiliate
  commissions : List Commission
  audit : List AuditRow
  deriving DecidableEq

namespace Ledger

def tenant (s : Ledger) (id : String) : Option Tenant := s.tenants.find? fun t => t.id = id

def tenantOfCustomer (s : Ledger) (stripeCustomerId : String) : Option Tenant :=
  s.tenants.find? fun t => t.stripeCustomerId = some stripeCustomerId

def affiliate (s : Ledger) (id : String) : Option Affiliate := s.affiliates.find? fun a => a.id = id

def commissionOf (s : Ledger) (sourceInvoiceId : String) : Option Commission :=
  s.commissions.find? fun row => row.sourceInvoiceId = sourceInvoiceId

def commission (s : Ledger) (id : ℕ) : Option Commission :=
  s.commissions.find? fun row => row.id = id

/-- `tenant.updateMany`: the rows that match, and how many they are. -/
def updateTenants (s : Ledger) (p : Tenant → Bool) (f : Tenant → Tenant) : Ledger × ℕ :=
  ({ s with tenants := s.tenants.map fun t => if p t then f t else t }, s.tenants.countP p)

/-- `commission.create`, or `none` where the invoice has a row already. -/
def create (s : Ledger) (data : NewCommission) : Ledger × Option Commission :=
  if (s.commissionOf data.sourceInvoiceId).isSome then (s, none)
  else
    let row : Commission := { data with id := s.commissions.length }
    ({ s with commissions := s.commissions ++ [row] }, some row)

def setStatus (s : Ledger) (id : ℕ) (status : CommissionStatus) : Ledger × Option Commission :=
  let s' : Ledger := { s with
    commissions := s.commissions.map fun row => if row.id = id then { row with status := status } else row }
  (s', s'.commission id)

end Ledger

/-- The statements that the ledger's functions send. -/
inductive Statement
  | tenantOfCustomer (stripeCustomerId : String)
  | affiliate (id : String)
  | claimAnchor (tenantId : String) (paidAt : Ms) (months : ℤ)
  | readAnchor (tenantId : String)
  | moveAnchor (tenantId : String) (paidAt : Ms)
  | countPaying (affiliateId : String)
  | create (data : NewCommission)
  | commissionOf (sourceInvoiceId : String)
  | commission (id : ℕ)
  | setStatus (id : ℕ) (status : CommissionStatus)
  | audit (row : AuditRow)
  deriving DecidableEq

abbrev Statement.Answer : Statement → Type
  | .tenantOfCustomer _ => Option Tenant
  | .affiliate _ => Option Affiliate
  | .claimAnchor _ _ _ => ℕ
  | .readAnchor _ => Option Tenant
  | .moveAnchor _ _ => ℕ
  | .countPaying _ => ℕ
  | .create _ => Option Commission
  | .commissionOf _ => Option Commission
  | .commission _ => Option Commission
  | .setStatus _ _ => Option Commission
  | .audit _ => Unit

def Statement.run : (c : Statement) → Ledger → Ledger × c.Answer
  | .tenantOfCustomer stripeCustomerId, s => (s, s.tenantOfCustomer stripeCustomerId)
  | .affiliate id, s => (s, s.affiliate id)
  | .claimAnchor tenantId paidAt months, s =>
    s.updateTenants (fun t => t.id = tenantId ∧ t.commissionAnchorAt = none) fun t =>
      { t with commissionAnchorAt := some paidAt, commissionMonthsAtAnchor := some months }
  | .readAnchor tenantId, s => (s, s.tenant tenantId)
  | .moveAnchor tenantId paidAt, s =>
    s.updateTenants (fun t => t.id = tenantId ∧ t.commissionAnchorAt.any (paidAt < ·)) fun t =>
      { t with commissionAnchorAt := some paidAt }
  | .countPaying affiliateId, s =>
    (s, s.tenants.countP fun t =>
      t.referredByAffiliateId = some affiliateId ∧ t.commissionAnchorAt.isSome)
  | .create data, s => s.create data
  | .commissionOf sourceInvoiceId, s => (s, s.commissionOf sourceInvoiceId)
  | .commission id, s => (s, s.commission id)
  | .setStatus id status, s => s.setStatus id status
  | .audit row, s => ({ s with audit := s.audit ++ [row] }, ())

abbrev database : Service Ledger := ⟨Statement, Statement.Answer, Statement.run⟩

/-- A statement that failed. -/
inductive DbError
  | fault
  /-- `update` of a row that is not there -/
  | notFound
  deriving DecidableEq

/-- A function of the ledger. -/
abbrev Query (α : Type) := Async database DbError α

def query (c : Statement) : Query c.Answer := Async.send (V := database) DbError.fault c

/-! ## Accruing a commission -/

structure PaidInvoice where
  stripeCustomerId : String
  invoiceId : String
  amountPaidCents : ℤ
  currency : String
  paidAt : Ms
  deriving DecidableEq

def claimOrAdopt (tenant : Tenant) (affiliate : Affiliate) (paidAt : Ms) : Query (Ms × ℤ) :=
  match tenant.commissionAnchorAt with
  | some anchorAt =>
    pure (anchorAt, tenant.commissionMonthsAtAnchor.getD affiliate.commissionMonths)
  | none => do
    let claimed ← query (.claimAnchor tenant.id paidAt affiliate.commissionMonths)
    if 0 < claimed then pure (paidAt, affiliate.commissionMonths)
    else
      query (.readAnchor tenant.id) >>= fun fresh =>
        pure ((fresh.bind Tenant.commissionAnchorAt).getD paidAt,
          (fresh.bind Tenant.commissionMonthsAtAnchor).getD affiliate.commissionMonths)

def moveBack (tenantId : String) (paidAt anchorAt : Ms) : Query Ms :=
  if paidAt < anchorAt then do
    let moved ← query (.moveAnchor tenantId paidAt)
    if 0 < moved then pure paidAt
    else
      query (.readAnchor tenantId) >>= fun fresh =>
        pure ((fresh.bind Tenant.commissionAnchorAt).getD paidAt)
  else pure anchorAt

/-- `tierRateFor` -/
def tierRateFor (affiliate : Affiliate) : Query ℚ :=
  match affiliate.tierPct, affiliate.tierMinCustomers with
  | some tierPct, some tierMinCustomers => do
    let paying ← query (.countPaying affiliate.id)
    pure (if tierMinCustomers ≤ paying then tierPct else affiliate.commissionPct)
  | _, _ => pure affiliate.commissionPct

/-- The row that an accrual creates. -/
def accrual (invoice : PaidInvoice) (tenantId affiliateId : String) (ratePct : ℚ)
    (amountCents : ℤ) : NewCommission where
  affiliateId := affiliateId
  tenantId := tenantId
  amountCents := amountCents
  currency := invoice.currency
  sourceInvoiceId := invoice.invoiceId
  status := .pending
  ratePct := some ratePct
  baseAmountCents := some invoice.amountPaidCents
  paidAt := some invoice.paidAt

def accrueInWindow (invoice : PaidInvoice) (tenantId : String) (affiliate : Affiliate)
    (anchorAt : Ms) (months : ℤ) : Query (Option Commission) :=
  if affiliate.status ≠ .active then pure none
  else if addMonthsUtc anchorAt months < invoice.paidAt then pure none
  else do
    let ratePct ← tierRateFor affiliate
    let amountCents : ℤ := ⌊(invoice.amountPaidCents * ratePct) / 100⌋
    if amountCents ≤ 0 then pure none
    -- a unique violation is the dedupe
    else query (.create (accrual invoice tenantId affiliate.id ratePct amountCents))

def accrueForPaidInvoice (invoice : PaidInvoice) : Query (Option Commission) := do
  let tenant ← query (.tenantOfCustomer invoice.stripeCustomerId)
  match tenant with
  | none => pure none
  | some tenant =>
    match tenant.referredByAffiliateId with
    | none => pure none
    | some affiliateId => do
      let affiliate ← query (.affiliate affiliateId)
      match affiliate with
      | none => pure none
      | some affiliate => do
        let (anchorAt, months) ← claimOrAdopt tenant affiliate invoice.paidAt
        let anchorAt ← moveBack tenant.id invoice.paidAt anchorAt
        accrueInWindow invoice tenant.id affiliate anchorAt months

/-! ## Reversing a commission -/

/-- What `voidCommissionForRefund` returns. -/
inductive RefundOutcome
  | none
  | tombstoned
  | voided
  | alreadyPaid
  deriving DecidableEq

/-- The row that stops a later accrual. -/
def tombstone (tenantId affiliateId sourceInvoiceId : String) : NewCommission where
  affiliateId := affiliateId
  tenantId := tenantId
  amountCents := 0
  currency := "eur"
  sourceInvoiceId := sourceInvoiceId
  status := .void
  ratePct := Option.none
  baseAmountCents := some 0
  paidAt := Option.none

def updateStatus (id : ℕ) (status : CommissionStatus) : Query Commission := do
  let row ← query (.setStatus id status)
  match row with
  | Option.none => .threw DbError.notFound
  | some row => pure row

/-- The accrual won the race for the row. -/
def voidLate (sourceInvoiceId : String) : Query RefundOutcome := do
  let late ← query (.commissionOf sourceInvoiceId)
  match late with
  | Option.none => pure .none
  | some late =>
    if late.status = .paid then pure .alreadyPaid
    else if late.status ≠ .void then do
      let _ ← updateStatus late.id .void
      pure .voided
    else pure .voided

def leaveTombstone (sourceInvoiceId : String) (tenant : Option Tenant) : Query RefundOutcome :=
  match tenant.bind fun t => t.referredByAffiliateId.map fun a => (t.id, a) with
  | Option.none => pure .none
  | some (tenantId, affiliateId) => do
    let stone ← query (.create (tombstone tenantId affiliateId sourceInvoiceId))
    match stone with
    | some stone => do
      query (.audit ⟨Option.none, stone.id, Option.none, .void, 0, stone.affiliateId,
        .refundBeforeAccrual⟩)
      pure .tombstoned
    | Option.none => voidLate sourceInvoiceId

/-- Nothing accrued yet; an empty customer id is nobody's. -/
def reverseUnaccrued (sourceInvoiceId stripeCustomerId : String) : Query RefundOutcome :=
  if stripeCustomerId = "" then leaveTombstone sourceInvoiceId Option.none
  else query (.tenantOfCustomer stripeCustomerId) >>= leaveTombstone sourceInvoiceId

/-- `voidCommissionForRefund` -/
def voidCommissionForRefund (sourceInvoiceId stripeCustomerId : String) : Query RefundOutcome := do
  let row ← query (.commissionOf sourceInvoiceId)
  match row with
  | Option.none => reverseUnaccrued sourceInvoiceId stripeCustomerId
  | some row =>
    match row.status with
    | .paid => do
      query (.audit ⟨Option.none, row.id, some .paid, .paid, row.amountCents, row.affiliateId,
        .refundAfterPayoutManualClawback⟩)
      pure .alreadyPaid
    | .void => pure .voided
    | .pending => do
      let _ ← updateStatus row.id .void
      query (.audit ⟨Option.none, row.id, some row.status, .void, row.amountCents, row.affiliateId,
        .chargeRefunded⟩)
      pure .voided

/-- `setCommissionStatus` -/
def setCommissionStatus (actor : String) (id : ℕ) (status : CommissionStatus) :
    Query (Option Commission) := do
  let before ← query (.commission id)
  match before with
  | Option.none => pure Option.none
  | some before => do
    let after ← updateStatus id status
    query (.audit ⟨some actor, id, some before.status, after.status, after.amountCents,
      after.affiliateId, .statusSet⟩)
    pure (some after)

/-! ## Keys -/

/-- The constraints of the schema that the functions rely on. -/
structure Ledger.Keyed (s : Ledger) : Prop where
  tenantIds : (s.tenants.map Tenant.id).Nodup
  referrals : ∀ t ∈ s.tenants, ∀ id, t.referredByAffiliateId = some id → (s.affiliate id).isSome
  invoices : (s.commissions.map (·.sourceInvoiceId)).Nodup
  rowIds : (s.commissions.map Commission.id).Nodup
  /-- a new row gets an id that no row has -/
  fresh : ∀ row ∈ s.commissions, row.id < s.commissions.length

namespace Ledger

variable {s : Ledger}

variable {p : Tenant → Bool} {f : Tenant → Tenant} {t : Tenant} {row : Commission}

lemma tenantOfCustomer_updateTenants (hf : ∀ t, (f t).stripeCustomerId = t.stripeCustomerId)
    (c : String) :
    (s.updateTenants p f).1.tenantOfCustomer c =
      (s.tenantOfCustomer c).map fun t => if p t then f t else t := by
  show find? _ (s.tenants.map _) = _
  rw [find?_map]
  congr 2
  funext t
  show decide ((if p t then f t else t).stripeCustomerId = some c) = _
  split
  · rw [hf]
  · rfl

lemma mem_of_tenantOfCustomer {c : String} (h : s.tenantOfCustomer c = some t) :
    t ∈ s.tenants := mem_of_find?_eq_some h

lemma mem_of_tenant {id : String} (h : s.tenant id = some t) : t ∈ s.tenants ∧ t.id = id :=
  ⟨mem_of_find?_eq_some h, by simpa using find?_some h⟩

lemma mem_of_commissionOf {i : String} (h : s.commissionOf i = some row) :
    row ∈ s.commissions ∧ row.sourceInvoiceId = i :=
  ⟨mem_of_find?_eq_some h, by simpa using find?_some h⟩

lemma find?_key {α κ : Type} [DecidableEq κ] {key : α → κ} {rows : List α}
    (h : (rows.map key).Nodup) {row : α} (hrow : row ∈ rows) :
    rows.find? (fun r => key r = key row) = some row := by
  induction rows with
  | nil => cases hrow
  | cons r rows ih =>
    rw [map_cons, nodup_cons] at h
    obtain ⟨hr, hrows⟩ := h
    rcases mem_cons.mp hrow with rfl | hmem
    · simp
    · have hne : key r ≠ key row := fun hk => hr (hk ▸ mem_map_of_mem hmem)
      rw [find?_cons_of_neg (by simpa using hne)]
      exact ih hrows hmem

variable (hs : s.Keyed)
include hs

lemma Keyed.tenant_eq (ht : t ∈ s.tenants) : s.tenant t.id = some t := find?_key hs.tenantIds ht

lemma Keyed.commissionOf_eq (hrow : row ∈ s.commissions) :
    s.commissionOf row.sourceInvoiceId = some row := find?_key hs.invoices hrow

lemma Keyed.commission_eq (hrow : row ∈ s.commissions) :
    s.commission row.id = some row := find?_key hs.rowIds hrow

lemma Keyed.updateTenants_count {id : String} (ht : s.tenant id = some t) (p : Tenant → Prop)
    [DecidablePred p] (f : Tenant → Tenant) :
    0 < (s.updateTenants (fun t => t.id = id ∧ p t) f).2 ↔ p t := by
  obtain ⟨hmem, rfl⟩ := mem_of_tenant ht
  show 0 < countP _ s.tenants ↔ _
  rw [countP_pos_iff]
  constructor
  · intro ⟨t', ht', hp⟩
    obtain ⟨hid, hp⟩ := of_decide_eq_true hp
    have heq := hs.tenant_eq ht'
    rw [hid, ht] at heq
    exact Option.some.inj heq ▸ hp
  · intro hp
    exact ⟨t, hmem, by simpa using hp⟩

lemma Keyed.updateTenants (hid : ∀ t, (f t).id = t.id)
    (hreferral : ∀ t, (f t).referredByAffiliateId = t.referredByAffiliateId) :
    (s.updateTenants p f).1.Keyed where
  tenantIds := by
    show ((s.tenants.map fun t => if p t then f t else t).map Tenant.id).Nodup
    have hids : Tenant.id ∘ (fun t => if p t then f t else t) = Tenant.id := by
      funext t
      show (if p t then f t else t).id = t.id
      split
      · exact hid t
      · rfl
    rw [map_map, hids]
    exact hs.tenantIds
  referrals := by
    intro t ht id hreferred
    obtain ⟨t₀, ht₀, rfl⟩ := mem_map.mp ht
    refine hs.referrals t₀ ht₀ id ?_
    revert hreferred
    split
    · rw [hreferral]
      exact fun h => h
    · exact fun h => h
  invoices := hs.invoices
  rowIds := hs.rowIds
  fresh := hs.fresh

lemma Keyed.create (data : NewCommission) : (s.create data).1.Keyed := by
  unfold Ledger.create
  split
  · exact hs
  · rename_i hnone
    have hnone : ∀ row ∈ s.commissions, row.sourceInvoiceId ≠ data.sourceInvoiceId := by
      intro row hrow heq
      have hsome := hs.commissionOf_eq hrow
      rw [heq] at hsome
      rw [hsome] at hnone
      exact hnone rfl
    constructor
    · exact hs.tenantIds
    · exact hs.referrals
    · show ((s.commissions ++ [_]).map _).Nodup
      rw [map_append, nodup_append]
      refine ⟨hs.invoices, by simp, ?_⟩
      intro i hi j hj
      obtain ⟨row, hrow, rfl⟩ := mem_map.mp hi
      obtain rfl : j = data.sourceInvoiceId := by simpa using hj
      exact hnone row hrow
    · show ((s.commissions ++ [_]).map _).Nodup
      rw [map_append, nodup_append]
      refine ⟨hs.rowIds, by simp, ?_⟩
      intro i hi j hj
      obtain ⟨row, hrow, rfl⟩ := mem_map.mp hi
      obtain rfl : j = s.commissions.length := by simpa using hj
      exact (hs.fresh row hrow).ne
    · intro row hrow
      show row.id < (s.commissions ++ [_]).length
      rw [length_append, length_singleton]
      rcases mem_append.mp hrow with hrow | hrow
      · exact Nat.lt_succ_of_lt (hs.fresh row hrow)
      · obtain rfl := mem_singleton.mp hrow
        exact Nat.lt_succ_self _

lemma Keyed.setStatus (id : ℕ) (status : CommissionStatus) : (s.setStatus id status).1.Keyed := by
  have hkey : ∀ {κ : Type} (key : Commission → κ), (∀ row : Commission, ∀ st,
      key { row with status := st } = key row) → (s.setStatus id status).1.commissions.map key =
        s.commissions.map key := by
    intro κ key h
    show (s.commissions.map _).map key = _
    rw [map_map]
    refine map_congr_left fun row _ => ?_
    show key (if row.id = id then _ else row) = key row
    split
    · exact h row status
    · rfl
  refine ⟨hs.tenantIds, hs.referrals, ?_, ?_, ?_⟩
  · rw [hkey (·.sourceInvoiceId) fun _ _ => rfl]
    exact hs.invoices
  · rw [hkey Commission.id fun _ _ => rfl]
    exact hs.rowIds
  · intro row hrow
    have hid : row.id ∈ s.commissions.map Commission.id := by
      rw [← hkey Commission.id fun _ _ => rfl]
      exact mem_map_of_mem hrow
    obtain ⟨row₀, hrow₀, hid⟩ := mem_map.mp hid
    show row.id < (s.commissions.map _).length
    rw [length_map, ← hid]
    exact hs.fresh row₀ hrow₀

lemma Keyed.run (c : Statement) : (c.run s).1.Keyed := by
  cases c with
  | claimAnchor => exact hs.updateTenants (fun _ => rfl) fun _ => rfl
  | moveAnchor => exact hs.updateTenants (fun _ => rfl) fun _ => rfl
  | create data => exact hs.create data
  | setStatus id status => exact hs.setStatus id status
  | audit row => exact ⟨hs.tenantIds, hs.referrals, hs.invoices, hs.rowIds, hs.fresh⟩
  | _ => exact hs

/-- A call keeps the constraints, however it ends. -/
lemma Keyed.answer (c : Statement) (fate : Fate) : (database.answer c s fate).1.Keyed := by
  cases fate with
  | refused => exact hs
  | ok => exact hs.run c
  | lost => exact hs.run c

end Ledger

/-! ## A ledger to start from -/

/-- A partner on 20 per cent for six months. -/
def samplePartner : Affiliate where
  id := "partner"
  status := .active
  commissionPct := 20
  commissionMonths := 6
  tierPct := none
  tierMinCustomers := none

/-- A customer of theirs, before its first payment. -/
def sampleTenant : Tenant where
  id := "tenant"
  stripeCustomerId := some "cus"
  referredByAffiliateId := some "partner"
  commissionAnchorAt := none
  commissionMonthsAtAnchor := none

def sampleLedger : Ledger := ⟨[sampleTenant], [samplePartner], [], []⟩

lemma sampleLedger_keyed : sampleLedger.Keyed where
  tenantIds := by decide
  referrals := by
    intro t ht id hid
    obtain rfl := mem_singleton.mp ht
    cases hid
    decide
  invoices := nodup_nil
  rowIds := nodup_nil
  fresh := fun row hrow => by cases hrow

end Affiliates

end Orbetra
