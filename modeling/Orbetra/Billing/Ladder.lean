import Orbetra.Billing.Sweep

/-!
# No suspension without the final warning

Sweeps run one after another, each to its end or to where its process is killed, and between them the
rows change by subscription events and by overrides.  A stage of 3 stands on a row only for the episode
it was recorded in, and only after the final notice was put on the queue (`Warned`); a sweep suspends
what its list shows at stage 3, so the notice is older than the sweep.
-/

namespace Orbetra

open List Async

namespace Billing

/-! ## The record of a final notice -/

/-- The final notice was put on the queue for a reachable contact of the tenant, in the episode of
`lapsed`, and no live status was applied since. -/
def FinalNotice (log : List Happened) (tenantId : String) (lapsed : Option Ms) : Prop :=
  ∃ earlier job later, log = earlier ++ .enqueued job lapsed true :: later ∧
    job.tenantId = tenantId ∧ job.daysLeft = 1 ∧ .live tenantId ∉ later

section Record

variable {log more : List Happened} {tenantId : String} {lapsed : Option Ms}

lemma FinalNotice.append (h : FinalNotice log tenantId lapsed) (hmore : .live tenantId ∉ more) :
    FinalNotice (log ++ more) tenantId lapsed := by
  obtain ⟨earlier, job, later, rfl, hjob, hdays, hlive⟩ := h
  refine ⟨earlier, job, later ++ more, by simp, hjob, hdays, fun hmem => ?_⟩
  rcases mem_append.mp hmem with hmem | hmem
  · exact hlive hmem
  · exact hmore hmem

end Record

/-- A row at stage 3 was warned in its episode. -/
structure Warned (s : SweepStore) : Prop where
  ids : (s.db.tenants.map Tenant.id).Nodup
  warned : ∀ t ∈ s.db.tenants, suspendAfterDays ≤ t.lapseNoticeStage → t.lapseNoticeFor ≠ none →
    FinalNotice s.log t.id t.lapseNoticeFor

section Rows

variable {s : SweepStore} {t : String} {f : Tenant → Tenant}

lemma tenant_eq_some (h : (s.db.tenants.map Tenant.id).Nodup) {row : Tenant}
    (hrow : row ∈ s.db.tenants) : s.tenant row.id = some row := by
  unfold SweepStore.tenant
  generalize s.db.tenants = rows at h hrow
  induction rows with
  | nil => cases hrow
  | cons first rows ih =>
    rw [map_cons, nodup_cons] at h
    rcases mem_cons.mp hrow with rfl | hrow
    · exact find?_cons_of_pos (by simp)
    · have hne : first.id ≠ row.id := fun heq => h.1 (heq ▸ mem_map_of_mem hrow)
      rw [find?_cons_of_neg (by simpa using hne)]
      exact ih h.2 hrow

lemma nodup_map_ids (hid : ∀ row, (f row).id = row.id) {rows : List Tenant}
    (h : (rows.map Tenant.id).Nodup) : ((rows.map f).map Tenant.id).Nodup := by
  rw [map_map]
  have hcomp : Tenant.id ∘ f = Tenant.id := funext hid
  rw [hcomp]
  exact h

/-- Rows are updated in place, and what is logged is no live status: each row at stage 3 must have been
there before, or have been warned now. -/
lemma Warned.update {s' : SweepStore} (h : Warned s) (hid : ∀ row, (f row).id = row.id)
    (hrows : s'.db.tenants = s.db.tenants.map f) {more : List Happened} (hlog : s'.log = s.log ++ more)
    (hstage : ∀ row ∈ s.db.tenants, suspendAfterDays ≤ (f row).lapseNoticeStage →
      (f row).lapseNoticeFor ≠ none →
        (.live row.id ∉ more ∧ suspendAfterDays ≤ row.lapseNoticeStage ∧
          (f row).lapseNoticeFor = row.lapseNoticeFor) ∨
        FinalNotice s'.log row.id (f row).lapseNoticeFor) : Warned s' where
  ids := by
    rw [hrows]
    exact nodup_map_ids hid h.ids
  warned := by
    intro row' hrow' hthree hfor
    rw [hrows] at hrow'
    obtain ⟨row, hrow, rfl⟩ := mem_map.mp hrow'
    rw [hid]
    rcases hstage row hrow hthree hfor with ⟨hlive, hthree', hsame⟩ | hnotice
    · rw [hsame, hlog]
      exact (h.warned row hrow hthree' (hsame ▸ hfor)).append hlive
    · exact hnotice

end Rows

/-! ## Between the sweeps -/

variable {s : SweepStore}

lemma Warned.event (h : Warned s) (event : SubscriptionEvent) (data : SubscriptionUpdate) :
    Warned (s.apply event data).1 := by
  have hsame : ∀ (db : Store) (more : List Happened), db.tenants = s.db.tenants → more = [] →
      Warned { s with db := db, log := s.log ++ more } := by
    intro db more hrows hmore
    subst hmore
    refine h.update (f := id) (fun _ => rfl) (by rw [hrows, map_id]) rfl fun row _ hthree _ => ?_
    exact Or.inl ⟨not_mem_nil, hthree, rfl⟩
  unfold SweepStore.apply
  dsimp only
  unfold applySubscriptionEvent
  split
  · exact hsame _ _ rfl (if_neg fun hboth => by cases hboth.1)
  dsimp only
  split
  · refine h.update (f := fun t => if admits event data t then applied event data _ t else t) ?_ rfl rfl
      fun row hrow hthree hfor => Or.inl ?_
    · intro row
      split <;> rfl
    · by_cases hadmits : admits event data row
      · rw [if_pos hadmits] at hthree hfor ⊢
        by_cases hlive : isLive data.subscriptionStatus
        · -- a live status resets the stage
          have hstage : suspendAfterDays ≤ 0 := by simpa [applied, hlive] using hthree
          exact absurd hstage (by decide)
        · refine ⟨?_, ?_, ?_⟩
          · rw [if_neg fun hboth => hlive hboth.2]
            exact not_mem_nil
          · simpa [applied, hlive] using hthree
          · simp [applied, hlive]
      · rw [if_neg hadmits] at hthree ⊢
        refine ⟨fun hmem => ?_, hthree, rfl⟩
        split at hmem
        · obtain ⟨other, hother, heq⟩ := mem_map.mp hmem
          obtain ⟨hother, hadmits'⟩ := mem_filter.mp hother
          have hid : other.id = row.id := Happened.live.inj heq
          have hsame := tenant_eq_some h.ids hother
          rw [hid, tenant_eq_some h.ids hrow] at hsame
          cases hsame
          exact hadmits (of_decide_eq_true hadmits')
        · cases hmem
  split
  · exact hsame _ _ rfl (if_neg fun hboth => by cases hboth.1)
  · exact hsame _ _ rfl (if_neg fun hboth => by cases hboth.1)

lemma unsuspend_ladder {tenantId : String} {keepLadder : Bool} {row : Tenant}
    (hthree : suspendAfterDays ≤
      (if row.id = tenantId then unsuspend keepLadder row else row).lapseNoticeStage)
    (hfor : (if row.id = tenantId then unsuspend keepLadder row else row).lapseNoticeFor ≠ none) :
    suspendAfterDays ≤ row.lapseNoticeStage ∧
      (if row.id = tenantId then unsuspend keepLadder row else row).lapseNoticeFor =
        row.lapseNoticeFor := by
  split at hthree
  · rename_i hself
    rw [if_pos hself] at hfor ⊢
    unfold unsuspend at hthree hfor ⊢
    split at hthree
    · rename_i hnull
      rw [if_pos hnull]
      exact ⟨hthree, rfl⟩
    · rename_i hnull
      rw [if_neg hnull] at hfor ⊢
      cases keepLadder with
      | true => exact ⟨hthree, rfl⟩
      | false => exact absurd rfl hfor
  · rename_i hother
    rw [if_neg hother]
    exact ⟨hthree, rfl⟩

lemma unsuspend_row_id (tenantId : String) (keepLadder : Bool) (row : Tenant) :
    (if row.id = tenantId then unsuspend keepLadder row else row).id = row.id := by
  split
  · exact unsuspend_id keepLadder row
  · rfl

lemma Warned.override (h : Warned s) (tenantId : String) (keepLadder : Bool) :
    Warned (s.updateTenant tenantId (unsuspend keepLadder)) := by
  refine h.update (f := fun row => if row.id = tenantId then unsuspend keepLadder row else row)
    (unsuspend_row_id tenantId keepLadder) rfl (append_nil _).symm ?_
  exact fun row _ hthree hfor => Or.inl ⟨not_mem_nil, unsuspend_ladder hthree hfor⟩

lemma Warned.others {s' : SweepStore} (h : Warned s) (hdb : s'.db = s.db) (hlog : s'.log = s.log) :
    Warned s' where
  ids := by
    rw [hdb]
    exact h.ids
  warned := by
    rw [hdb, hlog]
    exact h.warned

/-! ## During a sweep -/

/-- The store during a sweep that began in `s₀`: the episodes and the contacts are as they were, and
what was suspended had been warned before. -/
structure InSweep (s₀ s : SweepStore) : Prop where
  warned : Warned s
  lapsed : ∀ id, (s.tenant id).bind lapsedAt = (s₀.tenant id).bind lapsedAt
  contact : s.contact = s₀.contact
  suppressed : s.suppressed = s₀.suppressed
  log : ∃ own, s.log = s₀.log ++ own ∧ (∀ id, .live id ∉ own) ∧
    ∀ id lapsed, .suspended id lapsed ∈ own → lapsed ≠ none ∧ FinalNotice s₀.log id lapsed

def Owes (s₀ s : SweepStore) : SweepCall → Prop
  | .applySubscriptionEvent _ _ => False
  | .markLapseNotice id stage forLapse => suspendAfterDays ≤ stage → FinalNotice s.log id forLapse
  | .suspend id _ => (s.tenant id).bind lapsedAt ≠ none ∧
    FinalNotice s₀.log id ((s.tenant id).bind lapsedAt)
  | _ => True

section During

variable {s₀ s s' : SweepStore}

lemma InSweep.begin (h : Warned s) : InSweep s s :=
  ⟨h, fun _ => rfl, rfl, rfl, [], (append_nil _).symm, fun _ => not_mem_nil,
    fun _ _ hmem => by cases hmem⟩

lemma InSweep.update (h : InSweep s₀ s) {f : Tenant → Tenant} {more : List Happened}
    (hid : ∀ row, (f row).id = row.id) (hlapsed : ∀ row, lapsedAt (f row) = lapsedAt row)
    (hrows : s'.db.tenants = s.db.tenants.map f) (hlog : s'.log = s.log ++ more)
    (hcontact : s'.contact = s.contact) (hsuppressed : s'.suppressed = s.suppressed)
    (hlive : ∀ id, .live id ∉ more)
    (hsuspended : ∀ id lapsed, .suspended id lapsed ∈ more → lapsed ≠ none ∧ FinalNotice s₀.log id lapsed)
    (hstage : ∀ row ∈ s.db.tenants, suspendAfterDays ≤ (f row).lapseNoticeStage →
      (f row).lapseNoticeFor ≠ none →
        (suspendAfterDays ≤ row.lapseNoticeStage ∧ (f row).lapseNoticeFor = row.lapseNoticeFor) ∨
        FinalNotice s'.log row.id (f row).lapseNoticeFor) : InSweep s₀ s' where
  warned := h.warned.update hid hrows hlog fun row hrow hthree hfor =>
    (hstage row hrow hthree hfor).imp_left fun hsame => ⟨hlive row.id, hsame⟩
  lapsed := by
    intro id
    rw [← h.lapsed id]
    unfold SweepStore.tenant
    rw [hrows, tenant_map hid]
    cases s.db.tenants.find? (·.id = id) with
    | none => rfl
    | some row => exact hlapsed row
  contact := hcontact.trans h.contact
  suppressed := hsuppressed.trans h.suppressed
  log := by
    obtain ⟨own, hown, hnone, hall⟩ := h.log
    refine ⟨own ++ more, by rw [hlog, hown, append_assoc], fun id hmem => ?_, fun id lapsed hmem => ?_⟩
    · rcases mem_append.mp hmem with hmem | hmem
      · exact hnone id hmem
      · exact hlive id hmem
    · rcases mem_append.mp hmem with hmem | hmem
      · exact hall id lapsed hmem
      · exact hsuspended id lapsed hmem

lemma InSweep.logged (h : InSweep s₀ s) {more : List Happened} (hdb : s'.db = s.db)
    (hlog : s'.log = s.log ++ more) (hcontact : s'.contact = s.contact)
    (hsuppressed : s'.suppressed = s.suppressed) (hlive : ∀ id, .live id ∉ more)
    (hsuspended : ∀ id lapsed, .suspended id lapsed ∉ more) : InSweep s₀ s' := by
  refine h.update (f := id) (fun _ => rfl) (fun _ => rfl) (by rw [hdb, map_id]) hlog hcontact
    hsuppressed hlive (fun id lapsed hmem => absurd hmem (hsuspended id lapsed)) ?_
  exact fun _ _ hthree _ => Or.inl ⟨hthree, rfl⟩

lemma lapsedAt_unsuspend (keepLadder : Bool) (row : Tenant) :
    lapsedAt (unsuspend keepLadder row) = lapsedAt row := by
  unfold unsuspend
  split <;> rfl

lemma lapsedAt_markLapseNotice (stage : ℕ) (forLapse : Option Ms) (row : Tenant) :
    lapsedAt (markLapseNotice stage forLapse row) = lapsedAt row := by
  unfold markLapseNotice
  split <;> rfl

lemma markLapseNotice_id (stage : ℕ) (forLapse : Option Ms) (row : Tenant) :
    (markLapseNotice stage forLapse row).id = row.id := by
  unfold markLapseNotice
  split <;> rfl

/-- **One command** of a sweep that owes nothing. -/
lemma InSweep.run (h : InSweep s₀ s) {c : SweepCall} (hc : Owes s₀ s c) : InSweep s₀ (c.run s).1 := by
  cases c with
  | listLapsedTenants now => exact h
  | listSuspended => exact h
  | registryDevicesFor t => exact h
  | deviceTenant id => exact h
  | isSuppressed email => exact h
  | isSuspended t => exact h
  | tenantIdForCustomer c => exact h
  | applySubscriptionEvent event data => exact hc.elim
  | activate d prevTenant =>
    exact h.logged rfl rfl rfl rfl (fun _ hmem => by simp at hmem) fun _ _ hmem => by simp at hmem
  | hdelIfMine d =>
    exact h.logged rfl (append_nil _).symm rfl rfl (fun _ => not_mem_nil) fun _ _ => not_mem_nil
  | drop d =>
    exact h.logged rfl (append_nil _).symm rfl rfl (fun _ => not_mem_nil) fun _ _ => not_mem_nil
  | enqueueLapseEmail job =>
    exact h.logged rfl rfl rfl rfl (fun _ hmem => by simp at hmem) fun _ _ hmem => by simp at hmem
  | markLapseNotice t stage forLapse =>
    refine h.update (f := fun row => if row.id = t then markLapseNotice stage forLapse row else row)
      ?_ ?_ rfl (append_nil _).symm rfl rfl (fun _ => not_mem_nil)
      (fun _ _ hmem => by cases hmem) fun row _ hthree hfor => ?_
    · intro row
      split
      · exact markLapseNotice_id stage forLapse row
      · rfl
    · intro row
      split
      · exact lapsedAt_markLapseNotice stage forLapse row
      · rfl
    · split at hthree
      · rename_i hself
        rw [if_pos hself] at hfor ⊢
        unfold markLapseNotice at hthree hfor ⊢
        split at hthree
        · rename_i hwrites
          rw [if_pos hwrites]
          exact Or.inr (hself ▸ hc hthree)
        · rename_i hkeeps
          rw [if_neg hkeeps]
          exact Or.inl ⟨hthree, rfl⟩
      · rename_i hother
        rw [if_neg hother]
        exact Or.inl ⟨hthree, rfl⟩
  | unsuspend t keepLadder =>
    refine h.update (f := fun row => if row.id = t then unsuspend keepLadder row else row)
      (unsuspend_row_id t keepLadder) ?_ rfl (append_nil _).symm rfl rfl (fun _ => not_mem_nil)
      (fun _ _ hmem => by cases hmem) fun row _ hthree hfor => Or.inl (unsuspend_ladder hthree hfor)
    intro row
    split
    · exact lapsedAt_unsuspend keepLadder row
    · rfl
  | suspend t time =>
    unfold SweepCall.run
    dsimp only
    split
    · exact h
    · rename_i row hrow
      split
      · have hc : (s.tenant t).bind lapsedAt ≠ none ∧
            FinalNotice s₀.log t ((s.tenant t).bind lapsedAt) := hc
        rw [hrow] at hc
        refine h.update (f := fun row => if row.id = t then { row with suspendedAt := some time } else row)
          ?_ ?_ rfl rfl rfl rfl (fun _ hmem => by simp at hmem) ?_ fun row _ hthree hfor => Or.inl ?_
        · intro row
          split <;> rfl
        · intro row
          split <;> rfl
        · intro id lapsed hmem
          cases mem_singleton.mp hmem
          exact hc
        · split at hthree
          · rename_i hself
            rw [if_pos hself]
            exact ⟨hthree, rfl⟩
          · rename_i hother
            rw [if_neg hother]
            exact ⟨hthree, rfl⟩
      · exact h

end During

/-! ## The programs -/

section Programs

variable {s₀ s : SweepStore} {α β : Type} {Q : α → SweepStore → Prop} {r : LapseSweepResult}
  {deps : SweepDeps}

abbrev Climbs (s₀ : SweepStore) (Q : α → SweepStore → Prop) (m : Sweep α) (s : SweepStore) : Prop :=
  m.Alone Answered (InSweep s₀) Q s

lemma Climbs.call {c : SweepCall} {f : c.Answer → Sweep α} (hs : InSweep s₀ s) (hc : Owes s₀ s c)
    (h : InSweep s₀ (c.run s).1 → Climbs s₀ Q (f (c.run s).2) (c.run s).1) :
    Climbs s₀ Q (sweepCall r c >>= f) s :=
  .send hs (hs.run hc) (h (hs.run hc))

lemma Climbs.foldlM {f : β → α → Sweep β} {l : List α} {b : β} (hs : InSweep s₀ s)
    (hstep : ∀ b, ∀ a ∈ l, ∀ s, InSweep s₀ s → Climbs s₀ (fun _ s => InSweep s₀ s) (f b a) s) :
    Climbs s₀ (fun _ s => InSweep s₀ s) (l.foldlM f b) s := by
  refine Alone.foldlM (fun _ _ s => InSweep s₀ s) (fun before a after b s hl hs => ?_) hs
  exact hstep b a (by rw [hl]; simp) s hs

lemma climbs_activateDevice (hs : InSweep s₀ s) (d : RegistryDevice) :
    Climbs s₀ (fun _ s => InSweep s₀ s) (activateDevice r d) s := by
  refine Climbs.call hs trivial fun hs => ?_
  rw [← bind_done (sweepCall r _)]
  exact Climbs.call hs trivial fun hs => hs

lemma climbs_deactivateDevice (hs : InSweep s₀ s) (d : RegistryDevice) :
    Climbs s₀ (fun _ s => InSweep s₀ s) (deactivateDevice r d) s := by
  refine Climbs.call hs trivial fun hs => ?_
  rw [← bind_done (sweepCall r _)]
  exact Climbs.call hs trivial fun hs => hs

lemma climbs_restoreTenant (hs : InSweep s₀ s) (lapsed : List LapsedTenant) (t : String) :
    Climbs s₀ (fun _ s => InSweep s₀ s) (restoreTenant lapsed r t) s := by
  unfold restoreTenant
  split
  · exact hs
  · refine Alone.attempt ?_ fun _ _ hs => hs
    refine Climbs.call hs trivial fun hs => ?_
    refine (Climbs.foldlM hs fun _ d _ s hs => climbs_activateDevice hs d).bind fun _ s hs => ?_
    exact Climbs.call hs trivial fun hs => hs

lemma climbs_restoreAll (hs : InSweep s₀ s) (lapsed : List LapsedTenant) :
    Climbs s₀ (fun _ s => InSweep s₀ s) (restoreAll deps lapsed r) s := by
  unfold restoreAll
  split
  · refine Climbs.call hs trivial fun hs => ?_
    exact Climbs.foldlM hs fun r t _ s hs => climbs_restoreTenant hs lapsed t
  · exact hs

lemma climbs_isReachable (hs : InSweep s₀ s) (t : LapsedTenant) :
    Climbs s₀ (fun reachable s => InSweep s₀ s ∧
      ∀ email, t.contactEmail = some email → reachable = true → s.suppressed email = false)
      (isReachable r t) s := by
  unfold isReachable
  split
  · rename_i hnone
    exact ⟨hs, fun email hemail => by rw [hnone] at hemail; cases hemail⟩
  · rename_i email hemail
    refine Alone.bind (Q := fun b s' => InSweep s₀ s' ∧ b = s'.suppressed email) ?_ ?_
    · intro fate hfate
      -- the lookup is answered
      obtain rfl : fate = .ok := hfate
      exact ⟨hs, hs, rfl⟩
    · intro b s' hb
      obtain ⟨hs', rfl⟩ := hb
      refine ⟨hs', fun email' hemail' hreachable => ?_⟩
      cases hemail.symm.trans hemail'
      simpa using hreachable

def Listed (s₀ : SweepStore) (t : LapsedTenant) : Prop := ∃ row ∈ s₀.db.tenants, t = lapsedTenant s₀ row

variable {t : LapsedTenant}

lemma Listed.lapsedAt (h : Listed s₀ t) (hids : (s₀.db.tenants.map Tenant.id).Nodup)
    (hs : InSweep s₀ s) : (s.tenant t.tenantId).bind Billing.lapsedAt = t.lapsedAt := by
  obtain ⟨row, hrow, rfl⟩ := h
  rw [hs.lapsed]
  show (s₀.tenant row.id).bind _ = _
  rw [tenant_eq_some hids hrow]
  rfl

lemma climbs_warn (hids : (s₀.db.tenants.map Tenant.id).Nodup) (ht : Listed s₀ t)
    (hs : InSweep s₀ s) (past : ℤ) (reachable : Bool)
    (hreachable : ∀ email, t.contactEmail = some email → reachable = true →
      s.suppressed email = false) :
    Climbs s₀ (fun _ s => InSweep s₀ s) (warn deps t past reachable r) s := by
  unfold warn
  split
  · rename_i email due hemail hdue
    split
    · rename_i hmay
      have hsent : reachable = true := (Bool.and_eq_true_iff.mp hmay).2
      have hle : due ≤ suspendAfterDays := by
        unfold noticeDue at hdue
        split at hdue
        · cases hdue
        dsimp only at hdue
        split at hdue
        · cases hdue
          exact min_le_right _ _
        · cases hdue
      have hcontact : s.reachable t.tenantId email = true := by
        unfold SweepStore.reachable
        rw [hreachable email hemail hsent, hs.contact]
        obtain ⟨row, -, rfl⟩ := ht
        obtain ⟨contact, hcontact, rfl⟩ := Option.map_eq_some_iff.mp hemail
        show ((s₀.contact row.id).any _ && _) = true
        rw [hcontact]
        simp
      have hlapsed := ht.lapsedAt hids hs
      refine Climbs.call hs trivial fun hs => ?_
      refine Climbs.call hs (fun hthree => ?_) fun hs => hs
      obtain rfl : due = suspendAfterDays := le_antisymm hle hthree
      refine ⟨s.log, ⟨email, t.tenantId, t.contactLocale, deps.billingUrl, 1⟩, [], ?_, rfl, rfl,
        not_mem_nil⟩
      show s.log ++ [_] = _
      rw [hlapsed, hcontact]
      rfl
    · exact hs
  · exact hs

lemma climbs_tellSuspended (hs : InSweep s₀ s) (t : LapsedTenant) (reachable : Bool) :
    Climbs s₀ (fun _ s => InSweep s₀ s) (tellSuspended deps t reachable r) s := by
  unfold tellSuspended when
  split
  · split
    · rw [← bind_done (sweepCall r _)]
      exact Climbs.call hs trivial fun hs => hs
    · exact hs
  · exact hs

lemma climbs_cutOff (h₀ : Warned s₀) (ht : Listed s₀ t) (hs : InSweep s₀ s) (nowMs : Ms) {past : ℤ}
    (hlapsed : t.lapsedAt ≠ none) (reachable : Bool) :
    Climbs s₀ (fun _ s => InSweep s₀ s) (cutOff deps nowMs t past reachable r) s := by
  unfold cutOff
  split
  · refine Climbs.call hs trivial fun hs => ?_
    split
    · refine Climbs.call hs trivial fun hs => ?_
      exact (Climbs.foldlM hs fun _ d _ s hs => climbs_deactivateDevice hs d).bind fun _ s hs => hs
    · exact hs
  split
  · rename_i hready
    obtain ⟨-, hthree, -⟩ := hready
    have howes : Owes s₀ s (.suspend t.tenantId nowMs) := by
      show (s.tenant t.tenantId).bind _ ≠ none ∧ _
      rw [ht.lapsedAt h₀.ids hs]
      refine ⟨hlapsed, ?_⟩
      obtain ⟨row, hrow, rfl⟩ := ht
      have hthree : suspendAfterDays ≤
          if sameEpisode row.lapseNoticeFor (lapsedAt row) then row.lapseNoticeStage else 0 := hthree
      split at hthree
      · rename_i hsame
        have hsame : row.lapseNoticeFor = lapsedAt row := hsame
        have hnotice := h₀.warned row hrow hthree (hsame ▸ hlapsed)
        rw [hsame] at hnotice
        exact hnotice
      · exact absurd hthree (by decide)
    refine Climbs.call hs howes fun hs => ?_
    split
    · refine Climbs.call hs trivial fun hs => ?_
      refine (Climbs.foldlM hs fun _ d _ s hs => climbs_deactivateDevice hs d).bind fun _ s hs => ?_
      exact (climbs_tellSuspended hs t reachable).bind fun _ s hs => hs
    · exact hs
  · exact hs

lemma climbs_climb (h₀ : Warned s₀) (ht : Listed s₀ t) (hs : InSweep s₀ s) (nowMs : Ms)
    (graceDays : ℤ) :
    Climbs s₀ (fun _ s => InSweep s₀ s) (climb deps nowMs graceDays r t) s := by
  unfold climb
  split
  · exact hs
  rename_i past hpast
  split
  · exact hs
  have hlapsed : t.lapsedAt ≠ none := by
    intro hnone
    unfold daysPastGrace at hpast
    rw [hnone] at hpast
    cases hpast
  refine Alone.attempt ?_ fun _ _ hs => hs
  refine (climbs_isReachable hs t).bind fun reachable s hs => ?_
  refine (climbs_warn h₀.ids ht hs.1 past reachable hs.2).bind fun r s hs => ?_
  exact climbs_cutOff h₀ ht hs nowMs hlapsed reachable

/-- **One sweep.** -/
lemma climbs_runLapseSweep (h₀ : Warned s₀) (nowMs : Ms) (graceDays : ℤ) :
    Climbs s₀ (fun _ s => InSweep s₀ s) (runLapseSweep deps nowMs graceDays) s₀ := by
  unfold runLapseSweep
  refine Climbs.call (.begin h₀) trivial fun hs => ?_
  refine (climbs_restoreAll hs _).bind fun r s hs => ?_
  refine Climbs.foldlM hs fun r t ht s hs => climbs_climb h₀ ?_ hs nowMs graceDays
  obtain ⟨row, hrow, rfl⟩ := mem_map.mp ht
  exact ⟨row, (mem_filter.mp hrow).1, rfl⟩

end Programs

/-! ## Any sequence of sweeps -/

/-- The stores that sweeps, subscription events, overrides and changes of contacts can leave.  A sweep
may be killed anywhere, and its mail may not be queued. -/
inductive Swung : SweepStore → Prop
  | start {s : SweepStore} (hids : (s.db.tenants.map Tenant.id).Nodup)
      (hstage : ∀ t ∈ s.db.tenants, t.lapseNoticeStage = 0) (hlog : s.log = []) : Swung s
  | sweep {s s' : SweepStore} {result : Option (Except LapseSweepResult LapseSweepResult)}
      (h : Swung s) (deps : SweepDeps) (nowMs : Ms) (graceDays : ℤ)
      (hends : EndsWith Answered (runLapseSweep deps nowMs graceDays) s result s') : Swung s'
  | event {s : SweepStore} (h : Swung s) (event : SubscriptionEvent) (data : SubscriptionUpdate) :
      Swung (s.apply event data).1
  | override {s : SweepStore} (h : Swung s) (tenantId : String) (keepLadder : Bool) :
      Swung (s.updateTenant tenantId (unsuspend keepLadder))
  | others {s s' : SweepStore} (h : Swung s) (hdb : s'.db = s.db) (hlog : s'.log = s.log) : Swung s'

lemma Swung.warned (h : Swung s) : Warned s := by
  induction h with
  | @start s hids hstage _ =>
    refine ⟨hids, fun t ht hthree => ?_⟩
    rw [hstage t ht] at hthree
    exact absurd hthree (by decide)
  | sweep _ deps nowMs graceDays hends ih =>
    exact (hends.alone (.begin ih) (climbs_runLapseSweep ih nowMs graceDays)).1.warned
  | event _ event data ih => exact ih.event event data
  | override _ tenantId keepLadder ih => exact ih.override tenantId keepLadder
  | others _ hdb hlog ih => exact ih.others hdb hlog

/-- **No suspension without the final warning.** What a sweep suspends, in whatever state it is killed or
ends, was sent the final notice before the sweep began: to a reachable contact, in the same episode,
with no live status since. -/
theorem warned_before_suspension {s s' : SweepStore} (h : Swung s) {deps : SweepDeps} {nowMs : Ms}
    {graceDays : ℤ} {result : Option (Except LapseSweepResult LapseSweepResult)}
    (hends : EndsWith Answered (runLapseSweep deps nowMs graceDays) s result s')
    {tenantId : String} {lapsed : Option Ms} {before after : List Happened}
    (hlog : s'.log = s.log ++ before ++ .suspended tenantId lapsed :: after) :
    lapsed ≠ none ∧ ∃ earlier job later, s.log = earlier ++ .enqueued job lapsed true :: later ∧
      job.tenantId = tenantId ∧ job.daysLeft = 1 ∧ .live tenantId ∉ later ++ before := by
  obtain ⟨own, hown, hlive, hall⟩ := (hends.alone (.begin h.warned)
    (climbs_runLapseSweep h.warned nowMs graceDays)).1.log
  have hsplit : own = before ++ .suspended tenantId lapsed :: after := by
    rw [hown, append_assoc] at hlog
    exact append_cancel_left hlog
  obtain ⟨hsome, earlier, job, later, hbefore, hjob, hdays, hnone⟩ :=
    hall tenantId lapsed (by rw [hsplit]; simp)
  refine ⟨hsome, earlier, job, later, hbefore, hjob, hdays, fun hmem => ?_⟩
  rcases mem_append.mp hmem with hmem | hmem
  · exact hnone hmem
  · exact hlive tenantId (hsplit ▸ mem_append_left _ hmem)

/-! A tenant that is warned on three mornings, and cut off on the fourth. -/

def canceledRow : Tenant where
  id := "tenant"
  plan := "tsp_start"
  stripeCustomerId := some "cus"
  stripeSubscriptionId := some "sub"
  subscriptionPriceId := some "price"
  subscriptionPriceEffectiveAt := none
  subscriptionStatus := some "canceled"
  currentPeriodEnd := none
  lastBillingEventAt := some 0
  lastBillingEventId := none
  lastBillingEventRank := none
  suspendedAt := none
  lapseNoticeStage := 0
  lapseNoticeFor := none

def canceledStore : SweepStore where
  db := ⟨[canceledRow], []⟩
  contact := fun _ => some ⟨"admin@tenant", "en"⟩
  devices := []
  suppressed := fun _ => false
  registry := ⟨fun _ => none, fun _ => none, fun _ => none, fun _ => none, fun _ => []⟩
  log := []

def sweepOn (day : ℤ) (s : SweepStore) : Option (Except LapseSweepResult LapseSweepResult) × SweepStore :=
  (runLapseSweep ⟨true, true, some "https://app"⟩ (day * dayMs) 14).play s (replicate 9 .ok)

lemma ends_sweepOn (day : ℤ) (s : SweepStore) :
    EndsWith Answered (runLapseSweep ⟨true, true, some "https://app"⟩ (day * dayMs) 14) s
      (sweepOn day s).1 (sweepOn day s).2 := by
  refine endsWith_play _ s fun c fate hfate => ?_
  rw [eq_of_mem_replicate hfate]
  cases c with
  | enqueueLapseEmail job => trivial
  | _ => rfl

/-- The store after the three notices. -/
def warnedStore : SweepStore := (sweepOn 16 (sweepOn 15 (sweepOn 14 canceledStore).2).2).2

theorem warned_before_suspension_fourth_morning :
    (sweepOn 17 warnedStore).2.isSuspended "tenant" = true ∧
      ∃ earlier job later, warnedStore.log = earlier ++ .enqueued job (some 0) true :: later ∧
        job.tenantId = "tenant" ∧ job.daysLeft = 1 ∧ .live "tenant" ∉ later ++ [] := by
  have hwarned : Swung warnedStore :=
    .sweep (.sweep (.sweep (.start (by decide) (by decide) rfl) _ _ _ (ends_sweepOn 14 canceledStore))
      _ _ _ (ends_sweepOn 15 _)) _ _ _ (ends_sweepOn 16 _)
  have hlog : (sweepOn 17 warnedStore).2.log = warnedStore.log ++ [] ++
      .suspended "tenant" (some 0) ::
        [.enqueued ⟨"admin@tenant", "tenant", "en", "https://app/app/billing", 0⟩ (some 0) true] := by
    decide +kernel
  refine ⟨by decide +kernel, ?_⟩
  exact (warned_before_suspension hwarned (ends_sweepOn 17 warnedStore) hlog).2

end Billing

end Orbetra
