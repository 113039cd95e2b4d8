import Orbetra.Affiliates.Ledger

/-!
# The commission anchor

Any number of `accrueForPaidInvoice` calls on the invoices of one referred tenant, in any order of
steps.  The anchor is claimed by one conditional write and moved back by another.  Between its
statements a call knows of the tenant's row only that it follows the row the call has read
(`Tenant.Follows`): the anchor may have been set or moved back by a payment, and nothing else.  That
is enough on every path: whoever claims, loses the claim or adopts an anchor that is being moved ends
with an anchor no later than its own payment.
-/

namespace Orbetra

open Async Option

namespace Affiliates

/-- What payments at the instants `paid` may do to the row of a tenant. -/
structure Tenant.Follows (paid : Set Ms) (t t' : Tenant) : Prop where
  id : t'.id = t.id
  referral : t'.referredByAffiliateId = t.referredByAffiliateId
  back : ∀ a, t.commissionAnchorAt = some a → ∃ a' ≤ a, t'.commissionAnchorAt = some a' ∧
    t'.commissionMonthsAtAnchor = t.commissionMonthsAtAnchor
  payment : ∀ a, t'.commissionAnchorAt = some a → t.commissionAnchorAt = some a ∨ a ∈ paid

structure Row (c : String) (s : Ledger) (t : Tenant) : Prop where
  keyed : s.Keyed
  found : s.tenantOfCustomer c = some t

/-- The row is still there, and follows what it was. -/
def Kept (paid : Set Ms) (c : String) (s s' : Ledger) : Prop :=
  ∀ t, Row c s t → ∃ t', Row c s' t' ∧ t.Follows paid t'

section Kept

variable {paid : Set Ms} {c : String} {s s' s'' : Ledger} {t t' t'' : Tenant}

lemma Tenant.Follows.refl (paid : Set Ms) (t : Tenant) : t.Follows paid t where
  id := rfl
  referral := rfl
  back := fun a ha => ⟨a, le_refl a, ha, rfl⟩
  payment := fun _ ha => Or.inl ha

lemma Tenant.Follows.trans (h : t.Follows paid t') (h' : t'.Follows paid t'') :
    t.Follows paid t'' where
  id := h'.id.trans h.id
  referral := h'.referral.trans h.referral
  back := by
    intro a ha
    obtain ⟨a', hle, ha', hmonths⟩ := h.back a ha
    obtain ⟨a'', hle', ha'', hmonths'⟩ := h'.back a' ha'
    exact ⟨a'', hle'.trans hle, ha'', hmonths'.trans hmonths⟩
  payment := by
    intro a ha
    rcases h'.payment a ha with ha' | ha'
    · exact h.payment a ha'
    · exact Or.inr ha'

lemma Row.tenant (h : Row c s t) : s.tenant t.id = some t :=
  h.keyed.tenant_eq (Ledger.mem_of_tenantOfCustomer h.found)

lemma Kept.refl (s : Ledger) : Kept paid c s s := fun t ht => ⟨t, ht, .refl paid t⟩

lemma Kept.trans (h : Kept paid c s s') (h' : Kept paid c s' s'') : Kept paid c s s'' := by
  intro t ht
  obtain ⟨t', ht', hfollows⟩ := h t ht
  obtain ⟨t'', ht'', hfollows'⟩ := h' t' ht'
  exact ⟨t'', ht'', hfollows.trans hfollows'⟩

lemma Row.update (h : Row c s t) (p : Tenant → Bool) (f : Tenant → Tenant)
    (hid : ∀ t, (f t).id = t.id) (hcustomer : ∀ t, (f t).stripeCustomerId = t.stripeCustomerId)
    (hreferral : ∀ t, (f t).referredByAffiliateId = t.referredByAffiliateId) :
    Row c (s.updateTenants p f).1 (if p t then f t else t) where
  keyed := h.keyed.updateTenants hid hreferral
  found := by rw [Ledger.tenantOfCustomer_updateTenants hcustomer, h.found, map_some]

lemma Row.claim (h : Row c s t) (id : String) (paidAt : Ms) (months : ℤ) :
    Row c ((Statement.claimAnchor id paidAt months).run s).1
      (if t.id = id ∧ t.commissionAnchorAt = none then
        { t with commissionAnchorAt := some paidAt, commissionMonthsAtAnchor := some months }
      else t) := by
  simpa [Statement.run] using h.update (fun t => t.id = id ∧ t.commissionAnchorAt = none)
    (fun t => { t with commissionAnchorAt := some paidAt, commissionMonthsAtAnchor := some months })
    (fun _ => rfl) (fun _ => rfl) (fun _ => rfl)

lemma Row.move (h : Row c s t) (id : String) (paidAt : Ms) :
    Row c ((Statement.moveAnchor id paidAt).run s).1
      (if t.id = id ∧ t.commissionAnchorAt.any (paidAt < ·) then
        { t with commissionAnchorAt := some paidAt }
      else t) := by
  simpa [Statement.run] using h.update
    (fun t => t.id = id ∧ t.commissionAnchorAt.any (paidAt < ·))
    (fun t => { t with commissionAnchorAt := some paidAt }) (fun _ => rfl) (fun _ => rfl) (fun _ => rfl)

lemma Row.create (h : Row c s t) (data : NewCommission) :
    Row c ((Statement.create data).run s).1 t where
  keyed := h.keyed.run _
  found := by
    show (s.create data).1.tenantOfCustomer c = some t
    unfold Ledger.create
    split
    · exact h.found
    · exact h.found

lemma kept_claim (id : String) {paidAt : Ms} (months : ℤ) (hpaid : paidAt ∈ paid) :
    Kept paid c s ((Statement.claimAnchor id paidAt months).run s).1 := by
  intro t ht
  refine ⟨_, ht.claim id paidAt months, ?_⟩
  split
  · rename_i hclaimed
    refine ⟨rfl, rfl, fun a ha => ?_, fun a ha => Or.inr ?_⟩
    · rw [hclaimed.2] at ha
      cases ha
    · exact some.inj ha ▸ hpaid
  · exact .refl paid t

lemma kept_move (id : String) {paidAt : Ms} (hpaid : paidAt ∈ paid) :
    Kept paid c s ((Statement.moveAnchor id paidAt).run s).1 := by
  intro t ht
  refine ⟨_, ht.move id paidAt, ?_⟩
  split
  · rename_i hmoved
    refine ⟨rfl, rfl, fun a ha => ?_, fun a ha => Or.inr ?_⟩
    · have hlt := hmoved.2
      rw [ha] at hlt
      exact ⟨paidAt, le_of_lt (of_decide_eq_true hlt), rfl, rfl⟩
    · exact some.inj ha ▸ hpaid
  · exact .refl paid t

lemma kept_create (data : NewCommission) : Kept paid c s ((Statement.create data).run s).1 :=
  fun t ht => ⟨t, ht.create data, .refl paid t⟩

end Kept

/-! ## One call among others -/

section Accrue

variable (paid : Set Ms) (c : String)

/-- A call that keeps the row, among others that do. -/
abbrev Accrues {α : Type} (Q : α → Ledger → Prop) (m : Query α) (s : Ledger) : Prop :=
  m.Keeps (Kept paid c) Q s

/-- The row follows `t₀`. -/
def Seen (t₀ : Tenant) (s : Ledger) : Prop := ∃ t, Row c s t ∧ t₀.Follows paid t

/-- Its anchor is set, to `a` or earlier. -/
def Anchored (t₀ : Tenant) (a : Ms) (s : Ledger) : Prop :=
  ∃ t, Row c s t ∧ t₀.Follows paid t ∧ ∃ a' ≤ a, t.commissionAnchorAt = some a'

variable {paid c} {t₀ : Tenant} {s : Ledger} {α : Type} {Q : α → Ledger → Prop}

variable {a paidAt : Ms} {invoice : PaidInvoice}

lemma Anchored.mono {a' : Ms} (h : Anchored paid c t₀ a s) (hle : a ≤ a') :
    Anchored paid c t₀ a' s := by
  obtain ⟨t, ht, hfollows, b, hb, hanchor⟩ := h
  exact ⟨t, ht, hfollows, b, hb.trans hle, hanchor⟩

lemma stable_seen : Stable (Kept paid c) (Seen paid c t₀) := by
  intro s s' hkept ⟨t, ht, hfollows⟩
  obtain ⟨t', ht', hfollows'⟩ := hkept t ht
  exact ⟨t', ht', hfollows.trans hfollows'⟩

lemma stable_anchored : Stable (Kept paid c) (Anchored paid c t₀ a) := by
  intro s s' hkept ⟨t, ht, hfollows, b, hb, hanchor⟩
  obtain ⟨t', ht', hfollows'⟩ := hkept t ht
  obtain ⟨b', hb', hanchor', -⟩ := hfollows'.back b hanchor
  exact ⟨t', ht', hfollows.trans hfollows', b', hb'.trans hb, hanchor'⟩

lemma Seen.claim (hpaid : paidAt ∈ paid) (months : ℤ) (h : Seen paid c t₀ s) :
    ∃ a, Anchored paid c t₀ a ((Statement.claimAnchor t₀.id paidAt months).run s).1 ∧
      (0 < ((Statement.claimAnchor t₀.id paidAt months).run s).2 → a = paidAt) := by
  obtain ⟨t, ht, hfollows⟩ := h
  have hcount := ht.keyed.updateTenants_count ht.tenant (fun t => t.commissionAnchorAt = none)
    fun t => { t with commissionAnchorAt := some paidAt, commissionMonthsAtAnchor := some months }
  rw [hfollows.id] at hcount
  have hrow := ht.claim t₀.id paidAt months
  obtain ⟨t', ht', hfollows'⟩ := kept_claim t₀.id months hpaid t ht
  have heq : t' = _ := some.inj (ht'.found.symm.trans hrow.found)
  have hseen := hfollows.trans hfollows'
  cases hanchor : t.commissionAnchorAt with
  | none =>
    refine ⟨paidAt, ⟨t', ht', hseen, paidAt, le_refl paidAt, ?_⟩, fun _ => rfl⟩
    rw [heq, if_pos ⟨hfollows.id, hanchor⟩]
  | some a =>
    refine ⟨a, ⟨t', ht', hseen, a, le_refl a, ?_⟩, fun hpos => ?_⟩
    · rw [heq, if_neg fun hnone => by simp [hanchor] at hnone, hanchor]
    · have hnone := hcount.mp hpos
      rw [hanchor] at hnone
      cases hnone

lemma Anchored.move (hpaid : paidAt ∈ paid) (h : Anchored paid c t₀ a s) :
    Anchored paid c t₀ paidAt ((Statement.moveAnchor t₀.id paidAt).run s).1 := by
  obtain ⟨t, ht, hfollows, b, -, hanchor⟩ := h
  have hrow := ht.move t₀.id paidAt
  obtain ⟨t', ht', hfollows'⟩ := kept_move t₀.id hpaid t ht
  have heq : t' = _ := some.inj (ht'.found.symm.trans hrow.found)
  by_cases hlt : paidAt < b
  · refine ⟨t', ht', hfollows.trans hfollows', paidAt, le_refl paidAt, ?_⟩
    rw [heq, if_pos ⟨hfollows.id, by simpa [hanchor] using hlt⟩]
  · refine ⟨t', ht', hfollows.trans hfollows', b, not_lt.mp hlt, ?_⟩
    rw [heq, if_neg fun hmoved => hlt (by simpa [hanchor] using hmoved.2), hanchor]

/-- One statement of a call, from an assertion that the others keep. -/
lemma accrues_query {q : Statement} {f : q.Answer → Query α} (J : Ledger → Prop) (hs : J s)
    (hJ : Stable (Kept paid c) J)
    (h : ∀ s, J s → Kept paid c s (q.run s).1 ∧ Accrues paid c Q (f (q.run s).2) (q.run s).1) :
    Accrues paid c Q (query q >>= f) s := .send Kept.refl J hs hJ h

lemma accrues_readAnchor {f : Option Tenant → Query α} (hs : Anchored paid c t₀ a s)
    (h : ∀ s t a' , a' ≤ a → t.commissionAnchorAt = some a' → Anchored paid c t₀ a' s →
      Accrues paid c Q (f (some t)) s) :
    Accrues paid c Q (query (.readAnchor t₀.id) >>= f) s := by
  refine accrues_query _ hs stable_anchored fun s hs => ⟨.refl s, ?_⟩
  obtain ⟨t, ht, hfollows, a', hle, hanchor⟩ := hs
  show Accrues paid c Q (f (s.tenant t₀.id)) s
  rw [← hfollows.id, ht.tenant]
  exact h s t a' hle hanchor ⟨t, ht, hfollows, a', le_refl a', hanchor⟩

lemma accrues_claimOrAdopt (hpaid : paidAt ∈ paid) (affiliate : Affiliate) (hs : Seen paid c t₀ s) :
    Accrues paid c (fun r s => Anchored paid c t₀ r.1 s) (claimOrAdopt t₀ affiliate paidAt) s := by
  unfold claimOrAdopt
  split
  · rename_i a hanchor
    refine Keeps.pure (Anchored paid c t₀ a) ?_ stable_anchored fun s hs => hs
    obtain ⟨t, ht, hfollows⟩ := hs
    obtain ⟨a', hle, ha', -⟩ := hfollows.back a hanchor
    exact ⟨t, ht, hfollows, a', hle, ha'⟩
  · refine accrues_query _ hs stable_seen fun s hs => ⟨kept_claim _ _ hpaid, ?_⟩
    obtain ⟨a, hanchored, hwon⟩ := hs.claim hpaid affiliate.commissionMonths
    show Accrues paid c _ (if 0 < _ then _ else _) _
    split
    · rename_i hpos
      obtain rfl := hwon hpos
      exact Keeps.pure (Anchored paid c t₀ a) hanchored stable_anchored fun s hs => hs
    · refine accrues_readAnchor hanchored fun s t a' _ hanchor hs => ?_
      refine Keeps.pure (Anchored paid c t₀ a') hs stable_anchored fun s hs => ?_
      show Anchored paid c t₀ (t.commissionAnchorAt.getD paidAt) s
      rw [hanchor]
      exact hs

lemma accrues_moveBack (hpaid : paidAt ∈ paid) (hs : Anchored paid c t₀ a s) :
    Accrues paid c (fun _ s => Anchored paid c t₀ paidAt s) (moveBack t₀.id paidAt a) s := by
  unfold moveBack
  split
  · refine accrues_query _ hs stable_anchored fun s hs => ⟨kept_move _ hpaid, ?_⟩
    have hmoved := hs.move hpaid
    show Accrues paid c _ (if 0 < _ then _ else _) _
    split
    · exact Keeps.pure _ hmoved stable_anchored fun s hs => hs
    · exact accrues_readAnchor hmoved fun s t a' hle _ hs =>
        Keeps.pure _ (hs.mono hle) stable_anchored fun s hs => hs
  · rename_i hle
    exact Keeps.pure _ (hs.mono (not_lt.mp hle)) stable_anchored fun s hs => hs

/-- The rest of the call leaves the tenant alone. -/
lemma accrues_accrueInWindow (affiliate : Affiliate) (anchorAt : Ms) (months : ℤ)
    (hs : Anchored paid c t₀ invoice.paidAt s) :
    Accrues paid c (fun _ s => Anchored paid c t₀ invoice.paidAt s)
      (accrueInWindow invoice t₀.id affiliate anchorAt months) s := by
  have hnothing : ∀ s, Anchored paid c t₀ invoice.paidAt s →
      Accrues paid c (fun _ s => Anchored paid c t₀ invoice.paidAt s)
        (pure none : Query (Option Commission)) s :=
    fun s hs => Keeps.pure _ hs stable_anchored fun s hs => hs
  have htier : Accrues paid c (fun _ s => Anchored paid c t₀ invoice.paidAt s)
      (tierRateFor affiliate) s := by
    unfold tierRateFor
    split
    · exact accrues_query _ hs stable_anchored fun s hs =>
        ⟨.refl s, Keeps.pure _ hs stable_anchored fun s hs => hs⟩
    · exact Keeps.pure _ hs stable_anchored fun s hs => hs
  unfold accrueInWindow
  split
  · exact hnothing s hs
  split
  · exact hnothing s hs
  refine htier.bind fun ratePct s hs => ?_
  dsimp only
  split
  · exact hnothing s hs
  · rw [← bind_done (query _)]
    refine accrues_query _ hs stable_anchored fun s hs => ⟨kept_create _, ?_⟩
    exact Keeps.pure _ (stable_anchored _ _ (kept_create _) hs) stable_anchored fun s hs => hs

/-- **One call.** It keeps the row, and where it returns the anchor is no later than its payment. -/
lemma accrues_accrueForPaidInvoice (hc : invoice.stripeCustomerId = c)
    (hpaid : invoice.paidAt ∈ paid) (hreferred : t₀.referredByAffiliateId.isSome)
    (hs : Seen paid c t₀ s) :
    Accrues paid c (fun _ s => Anchored paid c t₀ invoice.paidAt s)
      (accrueForPaidInvoice invoice) s := by
  unfold accrueForPaidInvoice
  rw [hc]
  refine accrues_query _ hs stable_seen fun s hs => ⟨.refl s, ?_⟩
  obtain ⟨t, ht, hfollows⟩ := hs
  obtain ⟨affiliateId, hreferral⟩ := isSome_iff_exists.mp (hfollows.referral ▸ hreferred)
  have hfound : ((Statement.tenantOfCustomer c).run s).2 = some t := ht.found
  rw [hfound]
  dsimp only
  rw [hreferral]
  -- from here the call works with the row that it has read
  have hseen : Seen paid c t s := ⟨t, ht, .refl paid t⟩
  refine Keeps.weaken (S := fun _ s => Anchored paid c t invoice.paidAt s) ?_ ?_
  · refine accrues_query _ hseen stable_seen fun s hs => ⟨.refl s, ?_⟩
    obtain ⟨t', ht', hfollows'⟩ := id hs
    obtain ⟨affiliate, haffiliate⟩ := isSome_iff_exists.mp
      (ht'.keyed.referrals t' (Ledger.mem_of_tenantOfCustomer ht'.found) affiliateId
        (hfollows'.referral.trans hreferral))
    have hfound' : ((Statement.affiliate affiliateId).run s).2 = some affiliate := haffiliate
    rw [hfound']
    refine (accrues_claimOrAdopt hpaid affiliate hs).bind fun r s hs => ?_
    refine (accrues_moveBack hpaid hs).bind fun anchorAt s hs => ?_
    exact accrues_accrueInWindow affiliate anchorAt r.2 hs
  · intro row s ⟨t', ht', hfollows', a, hle, hanchor⟩
    exact ⟨t', ht', hfollows.trans hfollows', a, hle, hanchor⟩

end Accrue

/-! ## Any number of calls -/

/-- The anchor of the tenant with a Stripe customer id. -/
def Ledger.anchorOf (s : Ledger) (c : String) : Option Ms :=
  (s.tenantOfCustomer c).bind Tenant.commissionAnchorAt

/-- The term that was written with it. -/
def Ledger.monthsOf (s : Ledger) (c : String) : Option ℤ :=
  (s.tenantOfCustomer c).bind Tenant.commissionMonthsAtAnchor

variable {ι : Type}

/-- Calls of `accrueForPaidInvoice` that have not started. -/
def accruals (invoices : ι → PaidInvoice) (s : Ledger) :
    Pool ι database DbError (Option Commission) :=
  ⟨s, fun i => accrueForPaidInvoice (invoices i)⟩

variable [DecidableEq ι]

/-- **The anchor is the earliest payment**, whatever the order of steps of any number of calls on
the invoices of a referred tenant, and however their statements fail: once set it moves back only
and its term stays; it is the first payment once a call has returned for each invoice; and no
invoice has two commissions. -/
theorem anchor_earliest (invoices : ι → PaidInvoice) {c : String} {s : Ledger} {t : Tenant}
    (hs : Row c s t) (hreferred : t.referredByAffiliateId.isSome)
    (hfirst : t.commissionAnchorAt = none) (hc : ∀ i, (invoices i).stripeCustomerId = c)
    {p p' : Pool ι database DbError (Option Commission)}
    (hrun : (accruals invoices s).Reaches p) (hrun' : p.Reaches p') :
    (∀ a, p.state.anchorOf c = some a → ∃ a' ≤ a, p'.state.anchorOf c = some a' ∧
      p'.state.monthsOf c = p.state.monthsOf c) ∧
    ((∀ i, ∃ j row, invoices j = invoices i ∧ p'.thread j = .done row) →
      ∀ _ : ι, ∃ a, p'.state.anchorOf c = some a ∧
        IsLeast (Set.range fun i => (invoices i).paidAt) a) ∧
    (p'.state.commissions.map (·.sourceInvoiceId)).Nodup := by
  set paid : Set Ms := Set.range fun i => (invoices i).paidAt with hpaid
  have hcalls : ∀ i, Accrues paid c (fun _ s => Anchored paid c t (invoices i).paidAt s)
      ((accruals invoices s).thread i) (accruals invoices s).state :=
    fun i => accrues_accrueForPaidInvoice (hc i) ⟨i, rfl⟩ hreferred ⟨t, hs, .refl paid t⟩
  obtain ⟨hkept, hcalls⟩ := hrun.all_keep Kept.refl (fun _ _ _ => Kept.trans) hcalls
  obtain ⟨hkept', hcalls'⟩ := hrun'.all_keep Kept.refl (fun _ _ _ => Kept.trans) hcalls
  obtain ⟨t₁, ht₁, hfollows⟩ := hkept t hs
  obtain ⟨t₂, ht₂, hfollows'⟩ := hkept' t₁ ht₁
  have hanchor : ∀ {q : Pool ι database DbError (Option Commission)} {t}, Row c q.state t →
      q.state.anchorOf c = t.commissionAnchorAt ∧
        q.state.monthsOf c = t.commissionMonthsAtAnchor := by
    intro q t ht
    unfold Ledger.anchorOf Ledger.monthsOf
    rw [ht.found]
    exact ⟨rfl, rfl⟩
  rw [(hanchor ht₁).1, (hanchor ht₂).1, (hanchor ht₁).2, (hanchor ht₂).2]
  refine ⟨fun a ha => ?_, fun hreturned i => ?_, ht₂.keyed.invoices⟩
  · obtain ⟨a', hle, ha', hmonths⟩ := hfollows'.back a ha
    exact ⟨a', hle, ha', hmonths⟩
  · -- each payment has a call that has returned, so the anchor is no later than any of them
    have hle : ∀ i, ∃ a ≤ (invoices i).paidAt, t₂.commissionAnchorAt = some a := by
      intro i
      obtain ⟨j, row, hj, hdone⟩ := hreturned i
      obtain ⟨t', ht', -, a, hle, ha⟩ := (hdone ▸ hcalls' j : Accrues paid c _ (.done row) _).returned
      cases ht'.found.symm.trans ht₂.found
      exact ⟨a, hj ▸ hle, ha⟩
    obtain ⟨a, -, ha⟩ := hle i
    refine ⟨a, ha, ?_, ?_⟩
    · -- and it is one of them, since the tenant had none before
      rcases (hfollows.trans hfollows').payment a ha with hnone | hmem
      · rw [hfirst] at hnone
        cases hnone
      · exact hmem
    · intro b hb
      obtain ⟨j, rfl⟩ := hb
      obtain ⟨a', hle', ha'⟩ := hle j
      cases ha.symm.trans ha'
      exact hle'

/-! A race of two first payments: the later one claims the anchor while the earlier one has read
the row without it, and the earlier one moves it back. -/

/-- A payment of 100 euro, in March or in January. -/
def firstInvoices (late : Bool) : PaidInvoice where
  stripeCustomerId := "cus"
  invoiceId := if late then "in_mar" else "in_jan"
  amountPaidCents := 10000
  currency := "eur"
  paidAt := if late then 1772841600000 else 1768176000000

def raced : Pool Bool database DbError (Option Commission) :=
  (accruals firstInvoices sampleLedger).exec
    ([false, true, true, false, true, true, false, false, false, false].map (·, Fate.ok))

theorem anchor_earliest_race : ∃ a, raced.state.anchorOf "cus" = some a ∧
    IsLeast (Set.range fun late => (firstInvoices late).paidAt) a := by
  refine (anchor_earliest firstInvoices ⟨sampleLedger_keyed, by decide⟩ (t := sampleTenant) rfl rfl (fun _ => rfl) (.refl _)
    (Pool.reaches_exec _ _)).2.1 (fun late => ?_) true
  have hreturned : ((raced.thread late).returned).isSome := by
    cases late <;> decide +kernel
  obtain ⟨row, hrow⟩ := isSome_iff_exists.mp hreturned
  exact ⟨late, row, rfl, eq_done_of_returned hrow⟩

end Affiliates

end Orbetra
