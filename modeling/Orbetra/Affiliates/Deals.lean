import Orbetra.Framework.Transaction
import Orbetra.Records

/-!
# Deal claims

`decideDeal` of `packages/db/src/repos/affiliates.ts`: an administrator approves or rejects the claim
of a partner on a prospect's domain.  The claim is read before anything is locked; an approval then
takes the advisory lock of the domain and looks for another live claim; the `UPDATE` takes the lock
of the row, and asks for nothing but the id.

`deals_decided_once` says what follows: a domain is promised once in every run, and a claim is
decided once as long as no `UPDATE` comes after another decision.  `decision_overwritten` is a run in
which one does.
-/

namespace Orbetra

open Machine List

/-- `DealStatus` -/
inductive DealStatus
  | pending
  | approved
  | rejected
  | converted
  deriving DecidableEq

/-- The part of a row of `deal_registrations` that decisions read and write. -/
structure DealRow where
  id : String
  affiliateId : String
  domain : String
  status : DealStatus
  reason : Option String
  expiresAt : Option Ms
  reviewedAt : Option Ms
  reviewedBy : Option String
  deriving DecidableEq

/-- What an administrator decides. -/
inductive DealDecision
  | approved
  | rejected
  deriving DecidableEq

def DealDecision.status : DealDecision → DealStatus
  | .approved => .approved
  | .rejected => .rejected

/-- The arguments of `decideDeal`. -/
structure DealCall where
  userId : String
  id : String
  decision : DealDecision
  reason : Option String
  now : Ms
  deriving DecidableEq

/-- The entry of `audit_log` that a decision leaves. -/
structure DealAudit where
  userId : String
  entityId : String
  status : DealStatus
  domain : String
  affiliateId : String
  expiresAt : Option Ms
  deriving DecidableEq

/-- The claims, each under an id of its own, and the audit log. -/
structure DealTable where
  rows : List DealRow
  audit : List DealAudit
  unique : (rows.map (·.id)).Nodup

def dealWindowMs : Ms := 90 * 86400000

/-- `findUnique` -/
def DealTable.find (s : DealTable) (id : String) : Option DealRow :=
  s.rows.find? fun row => row.id = id

/-- The claim stands at an instant. -/
def DealRow.live (t : Ms) (row : DealRow) : Bool :=
  row.status = .approved && row.expiresAt.any fun e => t < e

/-- What the `UPDATE` makes of a row. -/
def DealCall.decide (c : DealCall) (row : DealRow) : DealRow :=
  { row with
    status := c.decision.status
    reason := c.reason.or row.reason
    reviewedAt := some c.now
    reviewedBy := some c.userId
    expiresAt := if c.decision = .approved then some (c.now + dealWindowMs) else row.expiresAt }

inductive DealWrite
  | decide (c : DealCall)
  | audit (entry : DealAudit)

def DealCall.update (c : DealCall) (row : DealRow) : DealRow :=
  if row.id = c.id then c.decide row else row

lemma DealCall.id_update (c : DealCall) (row : DealRow) : (c.update row).id = row.id := by
  unfold update
  split <;> rfl

lemma DealCall.domain_update (c : DealCall) (row : DealRow) :
    (c.update row).domain = row.domain := by
  unfold update
  split <;> rfl

/-- A write takes effect. -/
def DealTable.apply (s : DealTable) : DealWrite → DealTable
  | .decide c =>
    { rows := s.rows.map c.update
      audit := s.audit
      unique := by
        rw [map_map]
        have hid : (fun row : DealRow => row.id) ∘ c.update = fun row => row.id :=
          funext c.id_update
        rw [hid]
        exact s.unique }
  | .audit entry => { s with audit := s.audit ++ [entry] }

/-- What `decideDeal` locks: a row, or a number that stands for a domain. -/
inductive DealLock
  | row (id : String)
  | advisory (key : ℤ)
  deriving DecidableEq

/-- A transaction on the claims. -/
abbrev DealTx := Tx DealLock DealWrite DealTable (Option DealRow)

namespace DealCall

variable (hashtext : String → ℤ) (c : DealCall)

def auditEntry (row : DealRow) : DealAudit :=
  ⟨c.userId, c.id, row.status, row.domain, row.affiliateId, row.expiresAt⟩

def auditRow (s : DealTable) : DealTx :=
  match s.find c.id with
  | none => .rollback
  | some row => .write (.audit (c.auditEntry row)) (.commit (some row))

def updateRow : DealTx := .lock (.row c.id) (.write (.decide c) (.read c.auditRow))

/-- The claim on the same domain that stands in the way. -/
def checkLive (domain : String) (s : DealTable) : DealTx :=
  match s.rows.find? fun row => row.domain = domain ∧ row.live c.now ∧ row.id ≠ c.id with
  | some _ => .rollback
  | none => c.updateRow

def decideRead (s : DealTable) : DealTx :=
  match s.find c.id with
  | none => .commit none
  | some before =>
    if before.status ≠ .pending then .commit none
    else if c.decision = .approved then
      .lock (.advisory (hashtext before.domain)) (.read (c.checkLive before.domain))
    else c.updateRow

def decideDeal : DealTx := .read (c.decideRead hashtext)

end DealCall

/-! ## What a run keeps -/

/-- At an instant, no domain is promised to two claims. -/
def OnePromise (s : DealTable) (t : Ms) : Prop :=
  ∀ row ∈ s.rows, ∀ row' ∈ s.rows, row.live t → row'.live t → row.domain = row'.domain →
    row.id = row'.id

def DecisionsStand (s s' : DealTable) : Prop :=
  ∀ row ∈ s.rows, row.status ≠ .pending → row ∈ s'.rows

/-- An `UPDATE` finds the claim as `decideDeal` has read it: no other decision came in between. -/
def DealFits (s : DealTable) (_ : DealCall) : DealTx → Prop
  | .lock (.row id) _ => ∀ row ∈ s.rows, row.id = id → row.status = .pending
  | _ => True

instance (s : DealTable) (c : DealCall) : (m : DealTx) → Decidable (DealFits s c m)
  | .lock (.row id) _ =>
    inferInstanceAs (Decidable (∀ row ∈ s.rows, row.id = id → row.status = .pending))
  | .lock (.advisory _) _ | .commit _ | .rollback | .write _ _ | .read _ => .isTrue trivial

section Keeps

variable {hashtext : String → ℤ} {s : DealTable} {c c' : DealCall} {d : String}
  {H H' : Set DealLock}

def HasDomain (s : DealTable) (id d : String) : Prop := ∀ row ∈ s.rows, row.id = id → row.domain = d

/-- No other claim on the domain stands at the instant of the call. -/
def NoneLive (s : DealTable) (c : DealCall) (d : String) : Prop :=
  ∀ row ∈ s.rows, row.domain = d → row.id ≠ c.id → row.live c.now = false

/-- The claim waits for a decision. -/
def IsPending (s : DealTable) (id : String) : Prop :=
  ∀ row ∈ s.rows, row.id = id → row.status = .pending

/-- The approval has the lock of its domain, and has found it free. -/
def Cleared (hashtext : String → ℤ) (s : DealTable) (H : Set DealLock) (c : DealCall) : Prop :=
  c.decision = .approved → ∃ d, HasDomain s c.id d ∧ .advisory (hashtext d) ∈ H ∧ NoneLive s c d

inductive DealPoint (hashtext : String → ℤ) (s : DealTable) (H : Set DealLock) (c : DealCall) :
    DealTx → List DealWrite → Prop
  | begin : DealPoint hashtext s H c (c.decideDeal hashtext) []
  | lockDomain (d : String) (hd : HasDomain s c.id d) (happroved : c.decision = .approved) :
      DealPoint hashtext s H c (.lock (.advisory (hashtext d)) (.read (c.checkLive d))) []
  | checkLive (d : String) (hd : HasDomain s c.id d) (hlock : .advisory (hashtext d) ∈ H) :
      DealPoint hashtext s H c (.read (c.checkLive d)) []
  | updateRow (hcleared : Cleared hashtext s H c) : DealPoint hashtext s H c c.updateRow []
  | writeRow (hcleared : Cleared hashtext s H c) (hlock : .row c.id ∈ H)
      (hpending : IsPending s c.id) :
      DealPoint hashtext s H c (.write (.decide c) (.read c.auditRow)) []
  | auditRow (hcleared : Cleared hashtext s H c) (hlock : .row c.id ∈ H)
      (hpending : IsPending s c.id) :
      DealPoint hashtext s H c (.read c.auditRow) [.decide c]
  | writeAudit (hcleared : Cleared hashtext s H c) (hlock : .row c.id ∈ H)
      (hpending : IsPending s c.id) (entry : DealAudit) (row : DealRow) :
      DealPoint hashtext s H c (.write (.audit entry) (.commit (some row))) [.decide c]
  | commit (hcleared : Cleared hashtext s H c) (hlock : .row c.id ∈ H)
      (hpending : IsPending s c.id) (entry : DealAudit) (row : DealRow) :
      DealPoint hashtext s H c (.commit (some row)) [.decide c, .audit entry]
  | nothing : DealPoint hashtext s H c (.commit none) []
  | rollback (buffer : List DealWrite) : DealPoint hashtext s H c .rollback buffer

lemma DealPoint.committing {r : Option DealRow} {buffer : List DealWrite}
    (h : DealPoint hashtext s H c (.commit r) buffer) :
    buffer = [] ∨ (∃ entry, buffer = [.decide c, .audit entry]) ∧ Cleared hashtext s H c ∧
      .row c.id ∈ H ∧ IsPending s c.id := by
  cases h with
  | commit hcleared hlock hpending entry row => exact .inr ⟨⟨entry, rfl⟩, hcleared, hlock, hpending⟩
  | nothing => exact .inl rfl

variable {row : DealRow} {t : Ms}

lemma DealCall.update_of_ne (h : row.id ≠ c.id) : c.update row = row := if_neg h

lemma DealCall.approved_of_live (h : row.id = c.id) (hlive : (c.update row).live t) :
    c.decision = .approved := by
  have hstatus : (c.update row).status = c.decision.status := by
    unfold update
    rw [if_pos h]
    rfl
  have happroved : (c.update row).status = .approved := by
    unfold DealRow.live at hlive
    exact of_decide_eq_true (Bool.and_eq_true_iff.1 hlive).1
  rw [hstatus] at happroved
  cases hdecision : c.decision with
  | approved => rfl
  | rejected =>
    rw [hdecision] at happroved
    cases happroved

/-- A claim that stands has stood since before. -/
lemma DealRow.live_of_le {t' : Ms} (ht : t ≤ t') (h : row.live t') : row.live t := by
  unfold live at h ⊢
  obtain ⟨hstatus, hexpires⟩ := Bool.and_eq_true_iff.1 h
  refine Bool.and_eq_true_iff.2 ⟨hstatus, ?_⟩
  cases he : row.expiresAt with
  | none => simp [he] at hexpires
  | some e =>
    have hlt : t' < e := by simpa [he] using hexpires
    simpa using lt_of_le_of_lt ht hlt

/-- The state after the commit of a decision. -/
def DealTable.decided (s : DealTable) (c : DealCall) (entry : DealAudit) : DealTable :=
  TxPool.view DealTable.apply s [.decide c, .audit entry]

lemma mem_decided {entry : DealAudit} :
    row ∈ (s.decided c entry).rows ↔ ∃ old ∈ s.rows, c.update old = row := mem_map

section Decided

variable {entry : DealAudit}

lemma HasDomain.decided {id : String} (h : HasDomain s id d) :
    HasDomain (s.decided c entry) id d := by
  intro row hrow hid
  obtain ⟨old, hold, rfl⟩ := mem_decided.1 hrow
  rw [c.domain_update]
  exact h old hold ((c.id_update old).symm.trans hid)

/-- A decision on another claim. -/
lemma IsPending.decided {id : String} (h : IsPending s id) (hne : id ≠ c.id) :
    IsPending (s.decided c entry) id := by
  intro row hrow hid
  obtain ⟨old, hold, rfl⟩ := mem_decided.1 hrow
  have hid : old.id = id := (c.id_update old).symm.trans hid
  rw [c.update_of_ne fun he => hne (hid.symm.trans he)]
  exact h old hold hid

/-- A decision that does not hold the lock of the domain. -/
lemma NoneLive.decided (h : NoneLive s c' d) (hcleared : Cleared hashtext s H c)
    (hfree : .advisory (hashtext d) ∉ H) : NoneLive (s.decided c entry) c' d := by
  intro row hrow hdomain hne
  obtain ⟨old, hold, rfl⟩ := mem_decided.1 hrow
  rw [c.domain_update] at hdomain
  rw [c.id_update] at hne
  by_cases hid : old.id = c.id
  · by_contra hlive
    have happroved := c.approved_of_live hid (eq_true_of_ne_false hlive)
    obtain ⟨d', hd', hlock, -⟩ := hcleared happroved
    have hdd : d' = d := (hd' old hold hid).symm.trans hdomain
    exact hfree (hdd ▸ hlock)
  · rw [c.update_of_ne hid]
    exact h old hold hdomain hne

lemma Cleared.decided (h : Cleared hashtext s H' c') (hcleared : Cleared hashtext s H c)
    (hdisjoint : Disjoint H H') : Cleared hashtext (s.decided c entry) H' c' := by
  intro happroved
  obtain ⟨d, hd, hlock, hnone⟩ := h happroved
  exact ⟨d, hd.decided, hlock, hnone.decided hcleared
    fun hmem => Set.disjoint_left.1 hdisjoint hmem hlock⟩

/-- What a call knows survives the decisions of others. -/
lemma DealPoint.decided {m : DealTx} {buffer : List DealWrite}
    (h : DealPoint hashtext s H' c' m buffer) (hcleared : Cleared hashtext s H c)
    (hrow : .row c.id ∈ H) (hdisjoint : Disjoint H H') :
    DealPoint hashtext (s.decided c entry) H' c' m buffer := by
  have hne (hlock : .row c'.id ∈ H') : c'.id ≠ c.id := by
    intro he
    exact Set.disjoint_left.1 hdisjoint hrow (he ▸ hlock)
  cases h with
  | begin => exact .begin
  | lockDomain d hd happroved => exact .lockDomain d hd.decided happroved
  | checkLive d hd hlock => exact .checkLive d hd.decided hlock
  | updateRow hmine => exact .updateRow (hmine.decided hcleared hdisjoint)
  | writeRow hmine hlock hpending =>
    exact .writeRow (hmine.decided hcleared hdisjoint) hlock (hpending.decided (hne hlock))
  | auditRow hmine hlock hpending =>
    exact .auditRow (hmine.decided hcleared hdisjoint) hlock (hpending.decided (hne hlock))
  | writeAudit hmine hlock hpending entry' row =>
    exact .writeAudit (hmine.decided hcleared hdisjoint) hlock (hpending.decided (hne hlock)) _ _
  | commit hmine hlock hpending entry' row =>
    exact .commit (hmine.decided hcleared hdisjoint) hlock (hpending.decided (hne hlock)) _ _
  | nothing => exact .nothing
  | rollback => exact .rollback _

lemma OnePromise.decided {t : Ms} (h : OnePromise s t) (ht : c.now ≤ t)
    (hcleared : Cleared hashtext s H c) : OnePromise (s.decided c entry) t := by
  -- the decided claim against another one that stands
  have hother {row row' : DealRow} (hmem : row ∈ s.rows) (hmem' : row' ∈ s.rows)
      (hid : row.id = c.id) (hid' : row'.id ≠ c.id) (hlive : (c.update row).live t)
      (hlive' : row'.live t) : row.domain ≠ row'.domain := by
    intro hdomain
    obtain ⟨d, hd, -, hnone⟩ := hcleared (c.approved_of_live hid hlive)
    have hfalse := hnone row' hmem' (hdomain.symm.trans (hd row hmem hid)) hid'
    rw [DealRow.live_of_le ht hlive'] at hfalse
    cases hfalse
  intro row hrow row' hrow' hlive hlive' hdomain
  obtain ⟨old, hold, rfl⟩ := mem_decided.1 hrow
  obtain ⟨old', hold', rfl⟩ := mem_decided.1 hrow'
  rw [c.domain_update, c.domain_update] at hdomain
  rw [c.id_update, c.id_update]
  by_cases hid : old.id = c.id <;> by_cases hid' : old'.id = c.id
  · exact hid.trans hid'.symm
  · rw [c.update_of_ne hid'] at hlive'
    exact absurd hdomain (hother hold hold' hid hid' hlive hlive')
  · rw [c.update_of_ne hid] at hlive
    exact absurd hdomain.symm (hother hold' hold hid' hid hlive' hlive)
  · rw [c.update_of_ne hid] at hlive
    rw [c.update_of_ne hid'] at hlive'
    exact h old hold old' hold' hlive hlive' hdomain

lemma DecisionsStand.decided (hpending : IsPending s c.id) :
    DecisionsStand s (s.decided c entry) := by
  intro row hrow hstatus
  refine mem_decided.2 ⟨row, hrow, c.update_of_ne fun hid => ?_⟩
  exact hstatus (hpending row hrow hid)

end Decided

lemma DealPoint.decideRead (buffer : List DealWrite) (hbuffer : buffer = []) :
    DealPoint hashtext s H c (c.decideRead hashtext (TxPool.view DealTable.apply s buffer))
      buffer := by
  subst hbuffer
  show DealPoint hashtext s H c (c.decideRead hashtext s) []
  unfold DealCall.decideRead
  split
  · exact .nothing
  · rename_i before hbefore
    have hdomain : HasDomain s c.id before.domain := by
      intro row hrow hid
      have hmem := mem_of_find?_eq_some hbefore
      have hid' : before.id = c.id := by simpa using find?_some hbefore
      rw [inj_on_of_nodup_map s.unique hrow hmem (hid.trans hid'.symm)]
    split_ifs with hstatus happroved
    · exact .nothing
    · exact .lockDomain _ hdomain happroved
    · exact .updateRow fun h => absurd h happroved

lemma DealPoint.checked (hd : HasDomain s c.id d) (hlock : .advisory (hashtext d) ∈ H) :
    DealPoint hashtext s H c (c.checkLive d s) [] := by
  unfold DealCall.checkLive
  split
  · exact .rollback _
  · rename_i hnone
    refine .updateRow fun _ => ⟨d, hd, hlock, fun row hrow hdomain hne => ?_⟩
    have hnot := find?_eq_none.1 hnone row hrow
    by_contra hlive
    exact hnot (by simpa [hdomain, hne] using hlive)

def PromisesKept (t₀ : Ms) (s : DealTable) (begun : List DealCall)
    (_ : List (DealCall × Option DealRow)) : Prop :=
  ∀ t, t₀ ≤ t → (∀ c ∈ begun, c.now ≤ t) → OnePromise s t

/-- **Each decision keeps the others, and the promises.** -/
lemma decideDeal_proof (hashtext : String → ℤ) (t₀ : Ms) :
    TxProof DealTable.apply (·.decideDeal hashtext) DealFits (PromisesKept t₀)
      (DealPoint hashtext) DecisionsStand where
  begin s begun ended c h t ht hall := h t ht fun c' hc' => hall c' (mem_append_left _ hc')
  start s begun ended c h := .begin
  read s begun ended H c next buffer hglobal hc h := by
    cases h with
    | begin => exact .decideRead [] rfl
    | checkLive d hd hlock => exact .checked hd hlock
    | auditRow hcleared hlock hpending =>
      unfold DealCall.auditRow
      split
      · exact .rollback _
      · exact .writeAudit hcleared hlock hpending _ _
  write s H c w next buffer h := by
    cases h with
    | writeRow hcleared hlock hpending => exact .auditRow hcleared hlock hpending
    | writeAudit hcleared hlock hpending entry row => exact .commit hcleared hlock hpending _ _
  lock s H c l next buffer hfits h := by
    cases h with
    | lockDomain d hd happroved => exact .checkLive d hd (Set.mem_insert _ _)
    | updateRow hcleared =>
      refine .writeRow (fun happroved => ?_) (Set.mem_insert _ _) hfits
      obtain ⟨d, hd, hlock, hnone⟩ := hcleared happroved
      exact ⟨d, hd, Set.mem_insert_of_mem _ hlock, hnone⟩
  commit s begun ended H c r buffer hglobal hc h := by
    rcases h.committing with rfl | ⟨⟨entry, rfl⟩, hcleared, hlock, hpending⟩
    · exact ⟨hglobal, fun row hrow _ => hrow⟩
    · exact ⟨fun t ht hall => (hglobal t ht hall).decided (hall c hc) hcleared, .decided hpending⟩
  stable s begun ended H c r buffer H' c' m' buffer' hglobal h hdisjoint h' := by
    rcases h.committing with rfl | ⟨⟨entry, rfl⟩, hcleared, hlock, -⟩
    · exact h'
    · exact h'.decided hcleared hlock hdisjoint
  keeps_refl s row hrow _ := hrow
  keeps_trans s s' s'' h h' row hrow hstatus := h' row (h row hrow hstatus) hstatus

end Keeps

abbrev DealPool := TxPool ℕ DealCall DealLock DealWrite DealTable (Option DealRow)

def DealPool.step (hashtext : String → ℤ) : DealPool → TxMove ℕ DealCall → Option DealPool :=
  TxPool.step DealTable.apply (·.decideDeal hashtext)

/-- **A domain is promised once, and a claim is decided once.**  Of any number of decisions, in any
order of their steps: where no `UPDATE` finds a claim that was decided after the call had read it,
each decision that was once committed stands to the end, and no domain is promised twice. -/
theorem deals_decided_once (hashtext : String → ℤ) (s₀ : DealTable) (t₀ : Ms)
    (h₀ : OnePromise s₀ t₀) (moves : List (TxMove ℕ DealCall)) (p : DealPool)
    (hfits : RunFits (DealPool.step hashtext) (TxFits DealFits) (.init s₀) moves)
    (hrun : run (DealPool.step hashtext) (.init s₀) moves = some p) :
    (∀ t, t₀ ≤ t → (∀ c ∈ p.begun, c.now ≤ t) → OnePromise p.committed t) ∧
      ∀ k q, run (DealPool.step hashtext) (.init s₀) (moves.take k) = some q →
        DecisionsStand q.committed p.committed := by
  have hproof := decideDeal_proof hashtext t₀
  have hinit : TxInv (PromisesKept t₀) (DealPoint hashtext) (.init s₀ : DealPool) :=
    .init fun t ht _ row hrow row' hrow' hlive hlive' =>
      h₀ row hrow row' hrow' (DealRow.live_of_le ht hlive) (DealRow.live_of_le ht hlive')
  refine ⟨(hproof.run hinit hfits hrun).1.globally, fun k q hq => ?_⟩
  rw [← take_append_drop k moves] at hfits hrun
  rw [run_append, hq] at hrun
  have hmid := (hproof.run hinit hfits.append.1 hq).1
  exact (hproof.run hmid (hfits.append.2 q hq) hrun).2

/-- A claim on `acme.lt` that waits. -/
def waitingDeal : DealRow := ⟨"d1", "a1", "acme.lt", .pending, none, none, none, none⟩

/-- One claim, and nothing logged. -/
def waitingDeals : DealTable := ⟨[waitingDeal], [], nodup_singleton _⟩

def rejectDeal : DealCall := ⟨"u1", "d1", .rejected, some "not a lead", 1⟩

def approveDeal : DealCall := ⟨"u2", "d1", .approved, none, 2⟩

/-- A call from its start to its commit: an approval has two steps more. -/
def rejectAlone : List (TxMove ℕ DealCall) := .start 0 rejectDeal :: replicate 6 (.step 0)

/-- Both read the claim, the rejection commits, and the approval goes on. -/
def rejectThenApprove : List (TxMove ℕ DealCall) :=
  [TxMove.start 0 rejectDeal, .start 1 approveDeal, .step 1] ++
    replicate 6 (TxMove.step 0) ++ replicate 7 (TxMove.step 1)

/-- The rejection alone stands. -/
theorem deals_decided_once_alone :
    ∃ p, run (DealPool.step fun _ => 0) (.init waitingDeals) rejectAlone = some p ∧
      p.committed.rows.map (·.status) = [.rejected] ∧
      (∀ t, 0 ≤ t → (∀ c ∈ p.begun, c.now ≤ t) → OnePromise p.committed t) ∧
      ∀ k q, run (DealPool.step fun _ => 0) (.init waitingDeals) (rejectAlone.take k) =
        some q → DecisionsStand q.committed p.committed := by
  have hstatus : (run (DealPool.step fun _ => 0) (.init waitingDeals) rejectAlone).map
      (fun p => p.committed.rows.map (·.status)) = some [.rejected] := by decide +kernel
  obtain ⟨p, hrun, hp⟩ := Option.map_eq_some_iff.1 hstatus
  have hone : OnePromise waitingDeals 0 := by
    intro row hrow row' hrow' _ _ _
    rw [mem_singleton.1 hrow, mem_singleton.1 hrow']
  have hfits : RunFits (DealPool.step fun _ => 0) (TxFits DealFits) (.init waitingDeals)
      rejectAlone := by decide +kernel
  exact ⟨p, hrun, hp, deals_decided_once (fun _ => 0) waitingDeals 0 hone rejectAlone p hfits hrun⟩

/-- **An approval overwrites a rejection** that was committed after the approval had read the
claim. -/
theorem decision_overwritten :
    ∃ q p : DealPool,
      run (DealPool.step fun _ => 0) (.init waitingDeals) (rejectThenApprove.take 9) = some q ∧
      run (DealPool.step fun _ => 0) (.init waitingDeals) rejectThenApprove = some p ∧
      q.committed.rows.map (·.status) = [.rejected] ∧
      p.committed.rows.map (·.status) = [.approved] := by
  have hq : (run (DealPool.step fun _ => 0) (.init waitingDeals)
      (rejectThenApprove.take 9)).map (fun p => p.committed.rows.map (·.status)) =
        some [.rejected] := by decide +kernel
  have hp : (run (DealPool.step fun _ => 0) (.init waitingDeals)
      rejectThenApprove).map (fun p => p.committed.rows.map (·.status)) =
        some [.approved] := by decide +kernel
  obtain ⟨q, hq, hq'⟩ := Option.map_eq_some_iff.1 hq
  obtain ⟨p, hp, hp'⟩ := Option.map_eq_some_iff.1 hp
  exact ⟨q, p, hq, hp, hq', hp'⟩

end Orbetra
