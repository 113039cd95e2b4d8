import Orbetra.Billing.Usage

/-!
# Overage is billed once

What the meter has accepted for a day against the row of the day, over any sequence of runs that may
be killed or fail anywhere.  A segment carries both of its ends, and it is submitted only where the
meter stands at its lower end (`Outbox`): so a segment that is driven again is either the one that was
accepted last, and ignored, or the one that is missing.

A run settles the day where it reaches it.  One that finds the tenant lapsed before the day, or
without an allowance, leaves a segment in flight as it is.
-/

namespace Orbetra

open List Async

namespace Billing

/-! ## The row and the meter -/

section Outbox

variable (owner : String → String) (key : String × Day)

/-- The accepted events of a tenant's day; `owner` tells whose a customer id is. -/
def eventsOf (s : UsageStore) : List MeterEvent :=
  s.accepted.filter fun e => owner e.identifier.customerId = key.1 ∧ e.identifier.day = key.2

/-- What the meter has accepted for the day. -/
def billed (s : UsageStore) : ℕ := ((eventsOf owner key s).map MeterEvent.value).sum

/-- The segments of the day that were written as pending, by their upper ends. -/
def begunFor (s : UsageStore) : List ℕ := (s.begun.filter (·.1 = key)).map Prod.snd

/-- What a row stands for: the upper end of the segment in flight, or what is reported. -/
def OverageReport.due (r : OverageReport) : ℕ := r.pendingTarget.getD r.reported

/-- The row of the day and the meter agree; `done` are the values that completed runs have computed. -/
structure Outbox (done : List ℕ) (s : UsageStore) : Prop where
  noRow : s.reports key = none → eventsOf owner key s = [] ∧ begunFor key s = [] ∧ done = []
  settled : ∀ r, s.reports key = some r → r.pendingTarget = none → billed owner key s = r.reported
  pending : ∀ r p, s.reports key = some r → r.pendingTarget = some p →
    r.reported < p ∧ ∃ i, r.pendingIdentifier = some i ∧ owner i.customerId = key.1 ∧
      i.day = key.2 ∧ i.overage = p ∧
      ((∀ e ∈ s.accepted, e.identifier ≠ i) ∧ billed owner key s = r.reported ∨
        (∃ e ∈ s.accepted, e.identifier = i) ∧ billed owner key s = p)
  /-- an accepted segment ends at most where the meter stands -/
  bounded : ∀ e ∈ eventsOf owner key s, e.identifier.overage ≤ billed owner key s
  due : ∀ r, s.reports key = some r → (∀ v ∈ begunFor key s, v ≤ r.due) ∧ (∀ v ∈ done, v ≤ r.due) ∧
    (r.due = 0 ∨ r.due ∈ begunFor key s)

variable {owner key} {done : List ℕ} {s s' : UsageStore}

lemma Outbox.congr (h : Outbox owner key done s) (hreports : s'.reports key = s.reports key)
    (hevents : eventsOf owner key s' = eventsOf owner key s)
    (hbegun : begunFor key s' = begunFor key s)
    (haccepted : ∀ i : Identifier, owner i.customerId = key.1 → i.day = key.2 →
      ((∃ e ∈ s'.accepted, e.identifier = i) ↔ ∃ e ∈ s.accepted, e.identifier = i)) :
    Outbox owner key done s' := by
  have hbilled : billed owner key s' = billed owner key s := by
    unfold billed
    rw [hevents]
  refine ⟨?_, ?_, ?_, ?_, ?_⟩
  · rw [hreports, hevents, hbegun]
    exact h.noRow
  · rw [hreports, hbilled]
    exact h.settled
  · rw [hreports, hbilled]
    intro r p hr hp
    obtain ⟨hlt, i, hi, howner, hday, hover, hmeter⟩ := h.pending r p hr hp
    refine ⟨hlt, i, hi, howner, hday, hover, ?_⟩
    have hiff := haccepted i howner hday
    rcases hmeter with ⟨hfresh, hbilled⟩ | ⟨hmem, hbilled⟩
    · refine Or.inl ⟨fun e he heq => ?_, hbilled⟩
      obtain ⟨e', he', heq'⟩ := hiff.mp ⟨e, he, heq⟩
      exact hfresh e' he' heq'
    · exact Or.inr ⟨hiff.mpr hmem, hbilled⟩
  · rw [hevents, hbilled]
    exact h.bounded
  · rw [hreports, hbegun]
    exact h.due

lemma reports_setReport (s : UsageStore) (key : String × Day) (r : OverageReport) (key' : String × Day) :
    (s.setReport key r).reports key' = if key' = key then some r else s.reports key' := rfl

/-- A write to another row. -/
lemma Outbox.setReport_other (h : Outbox owner key done s) {key' : String × Day} (hne : key ≠ key')
    (r : OverageReport) : Outbox owner key done (s.setReport key' r) :=
  h.congr (if_neg hne) rfl rfl fun _ _ _ => Iff.rfl

lemma Outbox.accept_other (h : Outbox owner key done s) {e : MeterEvent}
    (hne : ¬ (owner e.identifier.customerId = key.1 ∧ e.identifier.day = key.2)) :
    Outbox owner key done (s.accept e) := by
  unfold UsageStore.accept
  split
  · exact h
  · refine h.congr rfl ?_ rfl fun i howner hday => ?_
    · show filter _ (s.accepted ++ [e]) = filter _ s.accepted
      rw [filter_append, filter_singleton, decide_eq_false hne]
      exact append_nil _
    · constructor
      · intro ⟨e', he', heq⟩
        rcases mem_append.mp he' with he' | he'
        · exact ⟨e', he', heq⟩
        · obtain rfl := mem_singleton.mp he'
          exact absurd ⟨heq ▸ howner, heq ▸ hday⟩ hne
      · intro ⟨e', he', heq⟩
        exact ⟨e', mem_append_left _ he', heq⟩

/-- A row for a day that owes nothing. -/
lemma Outbox.record (h : Outbox owner key done s) (hnone : s.reports key = none) (included : ℕ)
    (priceId : Option String) :
    Outbox owner key done (s.setReport key ⟨0, some included, priceId, none, none⟩) := by
  obtain ⟨hevents, hbegun, hdone⟩ := h.noRow hnone
  have hself := reports_setReport s key ⟨0, some included, priceId, none, none⟩ key
  rw [if_pos rfl] at hself
  have hbilled : billed owner key s = 0 := by
    unfold billed
    rw [hevents]
    rfl
  refine ⟨fun h => ?_, ?_, ?_, h.bounded, ?_⟩
  · rw [hself] at h
    cases h
  · intro r hr _
    rw [hself] at hr
    cases hr
    exact hbilled
  · intro r p hr hp
    rw [hself] at hr
    cases hr
    cases hp
  · intro r hr
    rw [hself] at hr
    cases hr
    show (∀ v ∈ begunFor key s, _) ∧ _
    rw [hbegun, hdone]
    exact ⟨fun v hv => absurd hv not_mem_nil, fun v hv => absurd hv not_mem_nil, Or.inl rfl⟩

variable {i : Identifier} {r : OverageReport} {p : ℕ}

/-- A segment is written as pending where the meter stands at its lower end. -/
lemma Outbox.begin (h : Outbox owner key done s) {prev overage included : ℕ}
    {priceId : Option String} (howner : owner i.customerId = key.1) (hday : i.day = key.2)
    (hover : i.overage = overage) (hlt : prev < overage) (hprev : match s.reports key with
      | none => prev = 0
      | some r => r.pendingTarget = none ∧ r.reported = prev) :
    Outbox owner key done
      ((UsageCall.beginOverageReport key prev overage i included priceId).run s).1 := by
  set s' := ((UsageCall.beginOverageReport key prev overage i included priceId).run s).1 with hs'
  have hstands : billed owner key s = prev ∧
      ((s.reports key).map OverageReport.reported).getD prev = prev := by
    cases hr : s.reports key with
    | none =>
      rw [hr] at hprev
      obtain rfl : prev = 0 := hprev
      refine ⟨?_, rfl⟩
      unfold billed
      rw [(h.noRow hr).1]
      rfl
    | some r =>
      rw [hr] at hprev
      obtain ⟨hsettled, hreported⟩ := hprev
      exact ⟨(h.settled r hr hsettled).trans hreported, hreported⟩
  have hself : s'.reports key = some ⟨prev, some included, priceId, some overage, some i⟩ := by
    show (if key = key then some _ else _) = _
    rw [if_pos rfl, hstands.2]
  have hbegun : begunFor key s' = begunFor key s ++ [overage] := by
    show ((s.begun ++ [(key, overage)]).filter _).map Prod.snd = _
    rw [filter_append, map_append, filter_singleton, decide_eq_true rfl]
    rfl
  have hbilled : billed owner key s' = billed owner key s := rfl
  refine ⟨fun h => ?_, ?_, ?_, h.bounded, ?_⟩
  · rw [hself] at h
    cases h
  · intro r hr hnone
    rw [hself] at hr
    cases hr
    cases hnone
  · intro r p hr hp
    rw [hself] at hr
    cases hr
    cases hp
    refine ⟨hlt, i, rfl, howner, hday, hover, Or.inl ⟨?_, hbilled.trans hstands.1⟩⟩
    -- every accepted segment of the day ends below this one
    intro e he heq
    have hmem : e ∈ eventsOf owner key s :=
      mem_filter.mpr ⟨he, decide_eq_true ⟨heq ▸ howner, heq ▸ hday⟩⟩
    have hle := h.bounded e hmem
    rw [heq, hover, hstands.1] at hle
    exact absurd hlt (not_lt.mpr hle)
  · intro r hr
    rw [hself] at hr
    cases hr
    rw [hbegun]
    refine ⟨?_, ?_, Or.inr (by simp [OverageReport.due])⟩
    · intro v hv
      rcases mem_append.mp hv with hv | hv
      · cases hr : s.reports key with
        | none =>
          rw [(h.noRow hr).2.1] at hv
          cases hv
        | some r =>
          rw [hr] at hprev
          have hle := (h.due r hr).1 v hv
          unfold OverageReport.due at hle
          rw [hprev.1, Option.getD_none, hprev.2] at hle
          exact hle.trans hlt.le
      · exact (mem_singleton.mp hv).le
    · intro v hv
      cases hr : s.reports key with
      | none =>
        rw [(h.noRow hr).2.2] at hv
        cases hv
      | some r =>
        rw [hr] at hprev
        have hle := (h.due r hr).2.1 v hv
        unfold OverageReport.due at hle
        rw [hprev.1, Option.getD_none, hprev.2] at hle
        exact hle.trans hlt.le

lemma Outbox.submit (h : Outbox owner key done s) (hr : s.reports key = some r)
    (hp : r.pendingTarget = some p) (hi : r.pendingIdentifier = some i) (customerId : String)
    (timestampS : ℤ) :
    Outbox owner key done (s.accept ⟨i, customerId, p - r.reported, timestampS⟩) ∧
      ∃ e ∈ (s.accept ⟨i, customerId, p - r.reported, timestampS⟩).accepted, e.identifier = i := by
  obtain ⟨hlt, i', hi', howner, hday, hover, hmeter⟩ := h.pending r p hr hp
  obtain rfl := Option.some.inj (hi'.symm.trans hi)
  set e : MeterEvent := ⟨i', customerId, p - r.reported, timestampS⟩ with he
  unfold UsageStore.accept
  rcases hmeter with ⟨hfresh, hbilled⟩ | ⟨⟨e', he', heq⟩, hbilled⟩
  · have hany : ¬ s.accepted.any (·.identifier = e.identifier) := by
      rw [any_eq_true]
      intro ⟨e', he', heq⟩
      exact hfresh e' he' (of_decide_eq_true heq)
    rw [if_neg hany]
    have hevents : eventsOf owner key { s with accepted := s.accepted ++ [e] } =
        eventsOf owner key s ++ [e] := by
      show filter _ (s.accepted ++ [e]) = _
      have hself : owner e.identifier.customerId = key.1 ∧ e.identifier.day = key.2 :=
        ⟨howner, hday⟩
      rw [filter_append, filter_singleton, decide_eq_true hself]
      rfl
    have hnow : billed owner key { s with accepted := s.accepted ++ [e] } = p := by
      unfold billed at hbilled ⊢
      rw [hevents, map_append, sum_append, hbilled]
      show r.reported + (p - r.reported + 0) = p
      omega
    refine ⟨⟨fun hnone => ?_, ?_, ?_, ?_, h.due⟩, e, by simp, rfl⟩
    · have hnone : s.reports key = none := hnone
      rw [hr] at hnone
      cases hnone
    · intro r' hr' hnone
      obtain rfl := Option.some.inj (hr.symm.trans hr')
      rw [hp] at hnone
      cases hnone
    · intro r' p' hr' hp'
      obtain rfl := Option.some.inj (hr.symm.trans hr')
      obtain rfl := Option.some.inj (hp.symm.trans hp')
      exact ⟨hlt, i', hi, howner, hday, hover, Or.inr ⟨⟨e, by simp, rfl⟩, hnow⟩⟩
    · intro e' he'
      rw [hnow]
      rw [hevents] at he'
      rcases mem_append.mp he' with he' | he'
      · have hle := h.bounded e' he'
        rw [hbilled] at hle
        exact hle.trans hlt.le
      · rw [mem_singleton.mp he']
        exact hover.le
  · have hany : s.accepted.any (·.identifier = e.identifier) :=
      any_eq_true.mpr ⟨e', he', decide_eq_true heq⟩
    rw [if_pos hany]
    exact ⟨h, e', he', heq⟩

lemma Outbox.confirm (h : Outbox owner key done s) (hr : s.reports key = some r)
    (hp : r.pendingTarget = some p) (hi : r.pendingIdentifier = some i)
    (haccepted : ∃ e ∈ s.accepted, e.identifier = i) :
    Outbox owner key done
      (s.setReport key { r with reported := p, pendingTarget := none, pendingIdentifier := none }) := by
  obtain ⟨-, i', hi', -, -, -, hmeter⟩ := h.pending r p hr hp
  cases hi'.symm.trans hi
  have hbilled : billed owner key s = p := by
    rcases hmeter with ⟨hfresh, -⟩ | ⟨-, hbilled⟩
    · obtain ⟨e, he, heq⟩ := haccepted
      exact absurd heq (hfresh e he)
    · exact hbilled
  have hself := reports_setReport s key
    { r with reported := p, pendingTarget := none, pendingIdentifier := none } key
  rw [if_pos rfl] at hself
  refine ⟨fun h => ?_, ?_, ?_, h.bounded, ?_⟩
  · rw [hself] at h
    cases h
  · intro r' hr' _
    rw [hself] at hr'
    cases hr'
    exact hbilled
  · intro r' p' hr' hp'
    rw [hself] at hr'
    cases hr'
    cases hp'
  · intro r' hr'
    rw [hself] at hr'
    cases hr'
    have hdue := h.due r hr
    unfold OverageReport.due at hdue ⊢
    rw [hp] at hdue
    exact hdue

end Outbox

/-! ## One day of one tenant -/

/-- Every row agrees with the meter, and the row of the day `key` was settled under `price`; the usage
that a run reads is `usage`. -/
structure Books (owner : String → String) (done : String × Day → List ℕ) (key : String × Day)
    (price : Option String) (usage : String → List (Day × ℕ)) (s : UsageStore) : Prop where
  outbox : ∀ k, Outbox owner k (done k) s
  priced : ∀ r, s.reports key = some r → r.priceId = price
  usage : s.usage = usage

def SameRows (k : String × Day) (s s' : UsageStore) : Prop :=
  ∀ k', k' ≠ k → s'.reports k' = s.reports k'

lemma SameRows.trans {k : String × Day} {s s' s'' : UsageStore} (h : SameRows k s s')
    (h' : SameRows k s' s'') : SameRows k s s'' := fun k' hk' => (h' k' hk').trans (h k' hk')

/-- The row has no segment in flight, and has reported `prev`. -/
def Standing (k : String × Day) (prev : ℕ) (s : UsageStore) : Prop :=
  match s.reports k with
  | none => prev = 0
  | some r => r.pendingTarget = none ∧ r.reported = prev

section Day

variable {owner : String → String} {done : String × Day → List ℕ} {key : String × Day}
  {price : Option String} {usage : String → List (Day × ℕ)} {s : UsageStore}

variable {k : String × Day} {r : OverageReport} {i : Identifier} {prev : ℕ}

lemma Books.setReport (h : Books owner done key price usage s)
    (hk : Outbox owner k (done k) (s.setReport k r)) (hprice : k = key → r.priceId = price) :
    Books owner done key price usage (s.setReport k r) where
  outbox := by
    intro k'
    by_cases hk' : k' = k
    · exact hk' ▸ hk
    · exact (h.outbox k').setReport_other hk' r
  priced := by
    intro r' hr'
    rw [reports_setReport] at hr'
    split at hr'
    · rename_i heq
      cases hr'
      exact hprice heq.symm
    · exact h.priced r' hr'
  usage := h.usage

lemma Books.begin (h : Books owner done key price usage s) {overage included : ℕ}
    {priceId : Option String} (howner : owner i.customerId = k.1) (hday : i.day = k.2)
    (hover : i.overage = overage) (hlt : prev < overage) (hprev : Standing k prev s)
    (hprice : k = key → priceId = price) :
    Books owner done key price usage
      ((UsageCall.beginOverageReport k prev overage i included priceId).run s).1 where
  outbox := by
    intro k'
    by_cases hk' : k' = k
    · exact hk' ▸ (h.outbox k).begin howner hday hover hlt hprev
    · refine (h.outbox k').congr (if_neg hk') rfl ?_ fun _ _ _ => Iff.rfl
      show ((s.begun ++ [(k, overage)]).filter _).map Prod.snd = _
      rw [filter_append, filter_singleton, decide_eq_false (Ne.symm hk')]
      exact congrArg _ (append_nil _)
  priced := by
    intro r' hr'
    have hr' : (if key = k then some _ else s.reports key) = some r' := hr'
    split at hr'
    · rename_i heq
      cases hr'
      exact hprice heq.symm
    · exact h.priced r' hr'
  usage := h.usage

lemma Books.accept (h : Books owner done key price usage s) {e : MeterEvent}
    (howner : owner e.identifier.customerId = k.1) (hday : e.identifier.day = k.2)
    (hk : Outbox owner k (done k) (s.accept e)) :
    Books owner done key price usage (s.accept e) where
  outbox := by
    intro k'
    by_cases hk' : k' = k
    · exact hk' ▸ hk
    · exact (h.outbox k').accept_other fun hself =>
        hk' (Prod.ext (hself.1.symm.trans howner) (hself.2.symm.trans hday))
  priced := by
    intro r hr
    refine h.priced r ?_
    unfold UsageStore.accept at hr
    split at hr
    · exact hr
    · exact hr
  usage := by
    refine Eq.trans ?_ h.usage
    unfold UsageStore.accept
    split <;> rfl

lemma reports_accept (s : UsageStore) (e : MeterEvent) : (s.accept e).reports = s.reports := by
  unfold UsageStore.accept
  split <;> rfl

lemma sameRows_setReport (s : UsageStore) (k : String × Day) (r : OverageReport) :
    SameRows k s (s.setReport k r) := fun _ hk' => if_neg hk'

variable (owner done key price usage) in
abbrev KeepsBooks {α : Type} (Q : α → UsageStore → Prop) (m : Usage α) (s : UsageStore) : Prop :=
  m.Alone (fun _ _ => True) (Books owner done key price usage) Q s

/-- Submit a segment that is in flight, and confirm it. -/
lemma keepsBooks_drive (h : Books owner done key price usage s) {p : ℕ} (hr : s.reports k = some r)
    (hp : r.pendingTarget = some p) (hi : r.pendingIdentifier = some i) (customerId : String)
    (timestampS : ℤ) {α : Type} {a : α} :
    KeepsBooks owner done key price usage
      (fun a' s' => a' = a ∧ Books owner done key price usage s' ∧ SameRows k s s' ∧
        s'.reports k = some
          { r with reported := p, pendingTarget := none, pendingIdentifier := none })
      (do
        call (.reportUsage ⟨i, customerId, p - r.reported, timestampS⟩)
        confirmOverageReport k p
        pure a) s := by
  obtain ⟨-, i', hi', howner, hday, -⟩ := (h.outbox k).pending r p hr hp
  obtain rfl := Option.some.inj (hi'.symm.trans hi)
  obtain ⟨hsubmitted, hmem⟩ := (h.outbox k).submit hr hp hi customerId timestampS
  set s₁ := s.accept ⟨i', customerId, p - r.reported, timestampS⟩ with hs₁
  have h₁ : Books owner done key price usage s₁ := h.accept howner hday hsubmitted
  have hr₁ : s₁.reports k = some r := by rw [hs₁, reports_accept, hr]
  set r' : OverageReport := { r with reported := p, pendingTarget := none, pendingIdentifier := none }
    with hr'
  have h₂ : Books owner done key price usage (s₁.setReport k r') := by
    refine h₁.setReport ((h₁.outbox k).confirm hr₁ hp hi hmem) fun hk => ?_
    exact h₁.priced r (hk ▸ hr₁)
  have hrun : (UsageCall.confirmOverageReport k p).run s₁ = (s₁.setReport k r', true) := by
    show (match s₁.reports k with | none => _ | some r => _) = _
    rw [hr₁]
  refine Alone.send h h₁ ?_
  show KeepsBooks owner done key price usage _ (confirmOverageReport k p >>= fun _ => pure a) s₁
  refine Alone.bind (Q := fun _ s' => s' = s₁.setReport k r') ?_ ?_
  · refine Alone.send h₁ ?_ ?_
    · show Books owner done key price usage ((UsageCall.confirmOverageReport k p).run s₁).1
      rw [hrun]
      exact h₂
    · show KeepsBooks owner done key price usage _
        (if ((UsageCall.confirmOverageReport k p).run s₁).2 = true then _ else _)
        ((UsageCall.confirmOverageReport k p).run s₁).1
      rw [hrun]
      exact Alone.pure rfl
  · intro _ s' hs'
    subst hs'
    refine Alone.pure ⟨rfl, h₂, ?_, ?_⟩
    · intro k' hk'
      rw [sameRows_setReport s₁ k r' k' hk', hs₁, reports_accept]
    · rw [reports_setReport, if_pos rfl]

/-- A segment in flight is driven first. -/
lemma keepsBooks_redrive (h : Books owner done key price usage s) (sub : ActiveSubscriber) (day : Day) :
    KeepsBooks owner done key price usage
      (fun r s' => Books owner done key price usage s' ∧ SameRows (sub.tenantId, day) s s' ∧
        Standing (sub.tenantId, day) r.1 s' ∧
        (s'.reports (sub.tenantId, day)).isSome = (s.reports (sub.tenantId, day)).isSome)
      (redrive sub day (s.reports (sub.tenantId, day))) s := by
  set k : String × Day := (sub.tenantId, day) with hk
  have hagrees := h.outbox k
  unfold redrive
  cases hr : s.reports k with
  | none =>
    refine Alone.pure ⟨h, fun _ _ => rfl, ?_, by rw [hr]⟩
    unfold Standing
    rw [hr]
  | some r =>
    dsimp only
    cases hp : r.pendingTarget with
    | none =>
      refine Alone.pure ⟨h, fun _ _ => rfl, ?_, by rw [hr]⟩
      unfold Standing
      rw [hr]
      exact ⟨hp, rfl⟩
    | some p =>
      obtain ⟨hlt, i, hi, -⟩ := hagrees.pending r p hr hp
      rw [hi]
      dsimp only
      unfold when
      rw [if_pos hlt]
      refine (keepsBooks_drive h hr hp hi sub.stripeCustomerId (meterTimestampS day)).mono ?_
      intro a s' ⟨ha, h', hsame, hr'⟩
      subst ha
      refine ⟨h', hsame, ?_, by rw [hr']; rfl⟩
      unfold Standing
      rw [hr']
      exact ⟨rfl, rfl⟩

def SettledAt (k : String × Day) (overage : ℕ) (s : UsageStore) : Prop :=
  ∃ r, s.reports k = some r ∧ r.pendingTarget = none ∧ overage ≤ r.reported

variable {day : Day} {sub : ActiveSubscriber}

lemma keepsBooks_submit (h : Books owner done key price usage s)
    (howner : owner sub.stripeCustomerId = sub.tenantId)
    (hprice : sub.tenantId = key.1 → sub.subscriptionPriceId = price) (included deviceDays : ℕ)
    (hprev : Standing (sub.tenantId, day) prev s) {hasRow : Bool}
    (hrow : hasRow = (s.reports (sub.tenantId, day)).isSome) (out : OverageRunResult) :
    KeepsBooks owner done key price usage
      (fun _ s' => Books owner done key price usage s' ∧ SameRows (sub.tenantId, day) s s' ∧
        SettledAt (sub.tenantId, day) (overageDevices deviceDays included) s')
      (submit sub included deviceDays day hasRow prev out) s := by
  set k : String × Day := (sub.tenantId, day) with hk
  set overage := overageDevices deviceDays included with hover
  have hprice' : k = key → sub.subscriptionPriceId = price := fun heq => hprice (heq ▸ rfl)
  unfold submit
  dsimp only
  split
  · rename_i hle
    unfold when
    cases hr : s.reports k with
    | some r =>
      rw [hr] at hrow
      rw [if_neg (by simp [hrow])]
      unfold Standing at hprev
      rw [hr] at hprev
      exact Alone.pure ⟨h, fun _ _ => rfl, r, hr, hprev.1, hprev.2 ▸ hle⟩
    | none =>
      rw [hr] at hrow
      rw [if_pos (by simp [hrow])]
      unfold Standing at hprev
      rw [hr] at hprev
      obtain rfl : prev = 0 := hprev
      have hzero : overage = 0 := Nat.le_zero.mp hle
      have h' : Books owner done key price usage
          (s.setReport k ⟨overage, some included, sub.subscriptionPriceId, none, none⟩) := by
        refine h.setReport ?_ hprice'
        rw [hzero]
        exact (h.outbox k).record hr included _
      refine Alone.send h h' ?_
      have hself := reports_setReport s k
        ⟨overage, some included, sub.subscriptionPriceId, none, none⟩ k
      rw [if_pos rfl] at hself
      exact Alone.pure ⟨h', sameRows_setReport s k _, _, hself, rfl, le_refl overage⟩
  · rename_i hlt
    have hlt : prev < overage := not_le.mp hlt
    set i : Identifier := ⟨day, sub.stripeCustomerId, prev, overage⟩ with hi
    set s₁ := ((UsageCall.beginOverageReport k prev overage i included sub.subscriptionPriceId).run s).1
      with hs₁
    have h₁ : Books owner done key price usage s₁ := h.begin howner rfl rfl hlt hprev hprice'
    have hstands : ((s.reports k).map OverageReport.reported).getD prev = prev := by
      unfold Standing at hprev
      cases hr : s.reports k with
      | none => rfl
      | some r =>
        rw [hr] at hprev
        exact hprev.2
    have hr₁ : s₁.reports k =
        some ⟨prev, some included, sub.subscriptionPriceId, some overage, some i⟩ := by
      show (if k = k then some _ else _) = _
      rw [if_pos rfl, hstands]
    refine Alone.send h h₁ ?_
    refine (keepsBooks_drive h₁ hr₁ rfl rfl sub.stripeCustomerId (meterTimestampS day)).mono ?_
    intro a s' ha
    obtain ⟨-, h', hsame, hr'⟩ := ha
    refine ⟨h', fun k' hk' => (hsame k' hk').trans ?_, _, hr', rfl, le_refl overage⟩
    show (if k' = k then _ else _) = _
    rw [if_neg hk']

/-- **One day of one tenant.** Unless the tenant lapsed before the day, or the day was frozen without a
row, it ends settled at what it is due or more. -/
lemma keepsBooks_reportDay (h : Books owner done key price usage s)
    (howner : owner sub.stripeCustomerId = sub.tenantId)
    (hprice : sub.tenantId = key.1 → sub.subscriptionPriceId = price) (included deviceDays : ℕ)
    (out : OverageRunResult) :
    KeepsBooks owner done key price usage
      (fun _ s' => Books owner done key price usage s' ∧ SameRows (sub.tenantId, day) s s' ∧
        ((sub.tenantId, day) = key → ¬ sub.billableUntil.any (· ≤ dayStart day) →
          SettledAt key (overageDevices deviceDays included) s' ∨ s'.reports key = none))
      (reportDay sub included deviceDays (s.reports (sub.tenantId, day)) day out) s := by
  unfold reportDay
  split
  · rename_i hlapsed
    exact Alone.pure ⟨h, fun _ _ => rfl, fun _ hlive => absurd hlapsed hlive⟩
  refine (keepsBooks_redrive h sub day).bind fun r s₁ hr => ?_
  obtain ⟨h₁, hsame, hstanding, hrow⟩ := hr
  dsimp only
  split
  · rename_i hfrozen
    refine Alone.pure ⟨h₁, hsame, fun hkey _ => ?_⟩
    -- the row of the day `key` was settled under the price of the run
    obtain ⟨hsome, hne⟩ := hfrozen
    rw [hkey] at hsome hne
    cases hr : s.reports key with
    | none =>
      rw [hr] at hsome
      cases hsome
    | some prior =>
      rw [hr] at hne
      exact absurd ((h.priced prior hr).trans (hprice (hkey ▸ rfl)).symm) hne
  split
  · rename_i hfrozen
    refine Alone.pure ⟨h₁, hsame, fun hkey _ => Or.inr ?_⟩
    rw [hfrozen.1, hkey] at hrow
    exact Option.isSome_eq_false_iff.mp hrow |> Option.isNone_iff_eq_none.mp
  · refine (keepsBooks_submit h₁ howner hprice included deviceDays hstanding hrow.symm _).mono ?_
    intro out s' ⟨h', hsame', hsettled⟩
    exact ⟨h', hsame.trans hsame', fun hkey _ => Or.inl (hkey ▸ hsettled)⟩

/-! ## One run -/

def BilledFor (key : String × Day) (includedFor : String → Option ℕ) (window : List Day)
    (usage : String → List (Day × ℕ)) (sub : ActiveSubscriber) (overage : ℕ) : Prop :=
  sub.tenantId = key.1 ∧ key.2 ∈ window ∧ ¬ sub.billableUntil.any (· ≤ dayStart key.2) ∧
    ∃ included, sub.subscriptionPriceId.bind includedFor = some included ∧
      overage = overageDevices (((usage key.1).lookup key.2).getD 0) included

lemma lookup_filter {rows : List (Day × ℕ)} {p : Day → Prop} [DecidablePred p] (hday : p day) :
    (rows.filter fun row => p row.1).lookup day = rows.lookup day := by
  induction rows with
  | nil => rfl
  | cons row rows ih =>
    obtain ⟨d, n⟩ := row
    by_cases hd : d = day
    · subst hd
      rw [filter_cons_of_pos (by simpa using hday), lookup_cons_self, lookup_cons_self]
    · have hne : (day == d) = false := by simpa using Ne.symm hd
      by_cases hp : p d
      · rw [filter_cons_of_pos (by simpa using hp), lookup_cons, lookup_cons, hne]
        exact ih
      · rw [filter_cons_of_neg (by simpa using hp), lookup_cons, hne]
        exact ih

variable {last first : Day} {window : List Day}

lemma keepsBooks_reportTenant (h : Books owner done key price usage s)
    (howner : owner sub.stripeCustomerId = sub.tenantId)
    (hprice : sub.tenantId = key.1 → sub.subscriptionPriceId = price)
    (includedFor : String → Option ℕ) (hnodup : window.Nodup)
    (hrange : ∀ day ∈ window, first ≤ day ∧ day ≤ last) (out : OverageRunResult) :
    KeepsBooks owner done key price usage
      (fun _ s' => Books owner done key price usage s' ∧
        (sub.tenantId ≠ key.1 → s'.reports key = s.reports key) ∧
        ∀ overage, BilledFor key includedFor window usage sub overage →
          SettledAt key overage s' ∨ s'.reports key = none)
      (reportTenant includedFor window first last sub out) s := by
  unfold reportTenant
  cases hincluded : sub.subscriptionPriceId.bind includedFor with
  | none =>
    refine Alone.pure ⟨h, fun _ => rfl, fun overage hbilled => ?_⟩
    obtain ⟨-, -, -, included, hsome, -⟩ := hbilled
    rw [hincluded] at hsome
    cases hsome
  | some included =>
    refine Alone.send h h ?_
    refine Alone.send h h ?_
    set rows := ((UsageCall.tenantSummary sub.tenantId first last).run s).2 with hrows
    have hsame : ((UsageCall.tenantSummary sub.tenantId first last).run s).1 = s := rfl
    rw [hsame]
    set already := ((UsageCall.reportedOverage sub.tenantId first last).run s).2 with halready
    refine Alone.mono (S := fun _ s' => Books owner done key price usage s' ∧
      (sub.tenantId ≠ key.1 → s'.reports key = s.reports key) ∧
      (∀ day, day ∉ window → s'.reports (sub.tenantId, day) = s.reports (sub.tenantId, day)) ∧
      (sub.tenantId = key.1 → key.2 ∈ window → ¬ sub.billableUntil.any (· ≤ dayStart key.2) →
        SettledAt key (overageDevices (((usage key.1).lookup key.2).getD 0) included) s' ∨
          s'.reports key = none)) ?_ ?_
    · refine Alone.foldlM (fun before _ s' => Books owner done key price usage s' ∧
        (sub.tenantId ≠ key.1 → s'.reports key = s.reports key) ∧
        (∀ day, day ∉ before → s'.reports (sub.tenantId, day) = s.reports (sub.tenantId, day)) ∧
        (sub.tenantId = key.1 → key.2 ∈ before → ¬ sub.billableUntil.any (· ≤ dayStart key.2) →
          SettledAt key (overageDevices (((usage key.1).lookup key.2).getD 0) included) s' ∨
            s'.reports key = none)) ?_ ⟨h, fun _ => rfl, fun _ _ => rfl, fun _ hmem => by cases hmem⟩
      intro before day after out s₁ hwindow ⟨h₁, hother, hlater, hbefore⟩
      have hnew : day ∉ before := by
        rw [hwindow, nodup_append] at hnodup
        exact fun hmem => hnodup.2.2 day hmem day mem_cons_self rfl
      have hday := hrange day (by rw [hwindow]; simp)
      have hprior : already day = s₁.reports (sub.tenantId, day) := by
        rw [hlater day hnew, halready]
        exact if_pos hday
      have hcount : rows.lookup day = (usage sub.tenantId).lookup day := by
        rw [hrows, ← h.usage]
        exact lookup_filter (p := fun day => first ≤ day ∧ day ≤ last) hday
      rw [hprior, hcount]
      refine (keepsBooks_reportDay h₁ howner hprice included _ out).mono fun _ s₂ hs₂ => ?_
      obtain ⟨h₂, hsame, hsettled⟩ := hs₂
      refine ⟨h₂, fun hne => ?_, fun day' hday' => ?_, fun heq hmem hlive => ?_⟩
      · exact (hsame key fun hkey => hne (hkey ▸ rfl)).trans (hother hne)
      · rw [mem_append, not_or, mem_singleton] at hday'
        exact (hsame _ fun hkey => hday'.2 (congrArg Prod.snd hkey)).trans (hlater day' hday'.1)
      · by_cases hkey : key.2 = day
        · have hkey' : (sub.tenantId, day) = key := Prod.ext heq hkey.symm
          have := hsettled hkey' (hkey ▸ hlive)
          rw [← hkey, heq] at this
          exact this
        · have hmem : key.2 ∈ before := by
            rcases mem_append.mp hmem with hmem | hmem
            · exact hmem
            · exact absurd (mem_singleton.mp hmem) hkey
          have hrow := hsame key fun hk => hkey (congrArg Prod.snd hk)
          unfold SettledAt
          rw [hrow]
          exact hbefore heq hmem hlive
    · intro out s' hs'
      obtain ⟨h', hother, -, hsettled⟩ := hs'
      refine ⟨h', hother, fun overage hbilled => ?_⟩
      obtain ⟨heq, hmem, hlive, included', hsome, rfl⟩ := hbilled
      cases hincluded.symm.trans hsome
      exact hsettled heq hmem hlive

lemma keepsBooks_reportTenants (h : Books owner done key price usage s)
    {subs : List ActiveSubscriber} (hnodup : (subs.map ActiveSubscriber.tenantId).Nodup)
    (howner : ∀ sub ∈ subs, owner sub.stripeCustomerId = sub.tenantId)
    (hprice : ∀ sub ∈ subs, sub.tenantId = key.1 → sub.subscriptionPriceId = price)
    (includedFor : String → Option ℕ) (hdays : window.Nodup)
    (hrange : ∀ day ∈ window, first ≤ day ∧ day ≤ last) :
    KeepsBooks owner done key price usage
      (fun r s' => Books owner done key price usage s' ∧ (r.2 = 0 → ∀ sub ∈ subs, ∀ overage,
        BilledFor key includedFor window usage sub overage →
          SettledAt key overage s' ∨ s'.reports key = none))
      (reportTenants includedFor window first last subs) s := by
  refine Alone.foldlM (fun before (r : OverageRunResult × ℕ) s' =>
    Books owner done key price usage s' ∧ (r.2 = 0 → ∀ sub ∈ before, ∀ overage,
      BilledFor key includedFor window usage sub overage →
        SettledAt key overage s' ∨ s'.reports key = none)) ?_ ⟨h, fun _ _ hmem => by cases hmem⟩
  intro before sub after r s₁ hsubs hs₁
  obtain ⟨h₁, hbefore⟩ := hs₁
  have hmem : sub ∈ subs := by rw [hsubs]; simp
  refine Alone.attempt ?_ fun _ s₂ h₂ => Alone.pure ⟨h₂, fun hzero => ?_⟩
  · refine (keepsBooks_reportTenant h₁ (howner sub hmem) (hprice sub hmem) includedFor hdays hrange
      r.1).bind fun out s₂ hs₂ => ?_
    obtain ⟨h₂, hother, hsettled⟩ := hs₂
    refine Alone.pure ⟨h₂, fun hzero sub' hsub' overage hbilled => ?_⟩
    rcases mem_append.mp hsub' with hsub' | hsub'
    · -- this tenant is another one
      have hne : sub.tenantId ≠ key.1 := by
        intro heq
        rw [hsubs, map_append, nodup_append] at hnodup
        exact hnodup.2.2 _ (mem_map_of_mem hsub') _ mem_cons_self (hbilled.1.trans heq.symm)
      have hrow := hother hne
      unfold SettledAt
      rw [hrow]
      exact hbefore hzero sub' hsub' overage hbilled
    · obtain rfl := mem_singleton.mp hsub'
      exact hsettled overage hbilled
  · exact absurd hzero (Nat.succ_ne_zero _)

end Day

/-! ## Any sequence of runs -/

/-- What one run finds: the tenants, the usage and the allowances, and when it runs. -/
structure OverageRun where
  tenants : List Tenant
  usage : String → List (Day × ℕ)
  includedFor : String → Option ℕ
  nowMs : Ms
  backfillDays : ℕ

namespace OverageRun

def start (r : OverageRun) (s : UsageStore) : UsageStore :=
  { s with tenants := r.tenants, usage := r.usage }

def days (r : OverageRun) : List Day := billableDays r.nowMs r.backfillDays

def window (r : OverageRun) : List Day := r.days.mergeSort (· ≤ ·)

def subscriber (r : OverageRun) (tenantId : String) : Option ActiveSubscriber :=
  r.window.head?.bind fun first =>
    (listActiveSubscribers r.tenants (dayStart first)).find? (·.tenantId = tenantId)

/-- The overage of the day `key`, where the run bills it: the tenant is listed with an allowance, the
day is in the window and began before the tenant lapsed. -/
def overage (r : OverageRun) (key : String × Day) : Option ℕ :=
  if key.2 ∈ r.days then
    (r.subscriber key.1).bind fun sub =>
      if sub.billableUntil.any (· ≤ dayStart key.2) then none
      else (sub.subscriptionPriceId.bind r.includedFor).map
        (overageDevices (((r.usage key.1).lookup key.2).getD 0))
  else none

/-- What every run can rely on: tenants have ids of their own, a customer id belongs to one tenant; and
the tenant of the day `key` is on `price`. -/
structure Regular (owner : String → String) (key : String × Day) (price : Option String)
    (r : OverageRun) : Prop where
  ids : (r.tenants.map Tenant.id).Nodup
  customers : ∀ t ∈ r.tenants, ∀ c, t.stripeCustomerId = some c → owner c = t.id
  price : ∀ t ∈ r.tenants, t.id = key.1 → t.subscriptionPriceId = price

lemma nodup_days (r : OverageRun) : r.days.Nodup := by
  refine Nodup.map ?_ (nodup_reverse.mpr nodup_range')
  intro n n' h
  unfold utcDayBefore at h
  have hms : ∀ m : ℕ, (r.nowMs - (m : ℤ) * 86400000) / 86400000 = r.nowMs / 86400000 - m := by
    intro m
    rw [sub_eq_add_neg, ← neg_mul, Int.add_mul_ediv_right _ _ (by decide), ← sub_eq_add_neg]
  rw [hms, hms] at h
  exact_mod_cast sub_right_injective h

lemma nodup_window (r : OverageRun) : r.window.Nodup :=
  (mergeSort_perm r.days _).nodup_iff.mpr r.nodup_days

lemma window_range {r : OverageRun} {first last : Day} (hfirst : r.window.head? = some first)
    (hlast : r.window.getLast? = some last) : ∀ day ∈ r.window, first ≤ day ∧ day ≤ last := by
  have hsorted : r.window.Pairwise (· ≤ ·) := by
    have htrans : ∀ a b c : Day, decide (a ≤ b) = true → decide (b ≤ c) = true →
        decide (a ≤ c) = true := by
      intro a b c hab hbc
      exact decide_eq_true ((of_decide_eq_true hab).trans (of_decide_eq_true hbc))
    have htotal : ∀ a b : Day, (decide (a ≤ b) || decide (b ≤ a)) = true := by
      intro a b
      simpa using le_total a b
    exact (pairwise_mergeSort htrans htotal r.days).imp of_decide_eq_true
  intro day hday
  constructor
  · obtain ⟨rest, hrest⟩ := head?_eq_some_iff.mp hfirst
    rw [hrest] at hsorted hday
    rcases mem_cons.mp hday with rfl | hday
    · exact le_rfl
    · exact (pairwise_cons.mp hsorted).1 day hday
  · obtain ⟨rest, hrest⟩ := getLast?_eq_some_iff.mp hlast
    rw [hrest] at hsorted hday
    rcases mem_append.mp hday with hday | hday
    · exact (pairwise_append.mp hsorted).2.2 day hday last (mem_singleton_self last)
    · exact (mem_singleton.mp hday).le

end OverageRun

variable {sub : ActiveSubscriber} {lapsedSince : Ms} {t : Tenant} {tenants : List Tenant}

lemma subscriberOf_eq (h : subscriberOf lapsedSince t = some sub) :
    sub.tenantId = t.id ∧ t.stripeCustomerId = some sub.stripeCustomerId ∧
      sub.subscriptionPriceId = t.subscriptionPriceId := by
  unfold subscriberOf at h
  split at h
  · cases h
  · rename_i c hc
    split at h
    · cases h
    split at h
    · cases h
      exact ⟨rfl, hc, rfl⟩
    · cases h

lemma mem_listActiveSubscribers (h : sub ∈ listActiveSubscribers tenants lapsedSince) :
    ∃ t ∈ tenants, sub.tenantId = t.id ∧ t.stripeCustomerId = some sub.stripeCustomerId ∧
      sub.subscriptionPriceId = t.subscriptionPriceId := by
  obtain ⟨t, ht, hsub⟩ := mem_filterMap.mp h
  exact ⟨t, ht, subscriberOf_eq hsub⟩

lemma nodup_listActiveSubscribers (h : (tenants.map Tenant.id).Nodup) (lapsedSince : Ms) :
    ((listActiveSubscribers tenants lapsedSince).map ActiveSubscriber.tenantId).Nodup := by
  unfold listActiveSubscribers
  induction tenants with
  | nil => exact nodup_nil
  | cons t tenants ih =>
    rw [map_cons, nodup_cons] at h
    obtain ⟨hnew, hrest⟩ := h
    rw [filterMap_cons]
    cases hsub : subscriberOf lapsedSince t with
    | none => exact ih hrest
    | some sub =>
      dsimp only
      rw [map_cons, nodup_cons]
      refine ⟨fun hmem => hnew ?_, ih hrest⟩
      obtain ⟨sub', hsub', heq⟩ := mem_map.mp hmem
      obtain ⟨t', ht', hid, -⟩ := mem_listActiveSubscribers hsub'
      rw [← (subscriberOf_eq hsub).1, ← heq, hid]
      exact mem_map_of_mem ht'

section Runs

variable {owner : String → String} {key : String × Day} {price : Option String} {done : List ℕ}
  {s s' : UsageStore}

variable (key) in
/-- What the completed runs have computed, for each day. -/
def doneAt (done : List ℕ) (k : String × Day) : List ℕ := if k = key then done else []

variable (owner key price) in
/-- What holds between two runs. -/
def Balanced (done : List ℕ) (s : UsageStore) : Prop :=
  Books owner (doneAt key done) key price s.usage s

lemma Balanced.outbox (h : Balanced owner key price done s) : Outbox owner key done s := by
  have hkey := Books.outbox h key
  unfold doneAt at hkey
  rw [if_pos rfl] at hkey
  exact hkey

lemma Balanced.start (h : Balanced owner key price done s) (r : OverageRun) :
    Books owner (doneAt key done) key price r.usage (r.start s) where
  outbox := fun k => (Books.outbox h k).congr rfl rfl rfl fun _ _ _ => Iff.rfl
  priced := fun row hrow => Books.priced h row hrow
  usage := rfl

/-- **One run** keeps the books; where it completes, the day it bills is settled, unless the day was
frozen without a row. -/
lemma keepsBooks_reportDailyOverage {usage : String → List (Day × ℕ)} {done : String × Day → List ℕ}
    {r : OverageRun} (hr : r.Regular owner key price) (h : Books owner done key price r.usage s)
    (htenants : s.tenants = r.tenants) (husage : r.usage = usage) :
    KeepsBooks owner done key price usage
      (fun _ s' => Books owner done key price usage s' ∧ ∀ overage, r.overage key = some overage →
        SettledAt key overage s' ∨ s'.reports key = none)
      (reportDailyOverage r.includedFor r.days) s := by
  subst husage
  unfold reportDailyOverage
  dsimp only
  rw [show r.days.mergeSort (fun d d' => decide (d ≤ d')) = r.window from rfl]
  cases hfirst : r.window.head? with
  | none =>
    refine Alone.pure ⟨h, fun overage hover => ?_⟩
    unfold OverageRun.overage OverageRun.subscriber at hover
    rw [hfirst] at hover
    split at hover <;> cases hover
  | some first =>
  cases hlast : r.window.getLast? with
  | none =>
    rw [getLast?_eq_none_iff.mp hlast] at hfirst
    cases hfirst
  | some last =>
  refine Alone.send h h ?_
  show KeepsBooks owner done key price r.usage _
    (reportTenants r.includedFor r.window first last
      (listActiveSubscribers s.tenants (dayStart first)) >>= _) s
  rw [htenants]
  set subs := listActiveSubscribers r.tenants (dayStart first) with hsubs
  have hrun := keepsBooks_reportTenants h
    (nodup_listActiveSubscribers hr.ids (dayStart first)) ?_ ?_ r.includedFor r.nodup_window
    (OverageRun.window_range hfirst hlast)
  · refine hrun.bind fun result s₁ hs₁ => ?_
    obtain ⟨out, failures⟩ := result
    obtain ⟨h₁, hsettled⟩ := hs₁
    dsimp only
    split
    · exact Alone.throw h₁
    · rename_i hzero
      refine Alone.pure ⟨h₁, fun overage hover => ?_⟩
      unfold OverageRun.overage at hover
      split at hover
      · rename_i hday
        obtain ⟨sub, hsub, hover⟩ := Option.bind_eq_some_iff.mp hover
        unfold OverageRun.subscriber at hsub
        rw [hfirst] at hsub
        have hsub : subs.find? (·.tenantId = key.1) = some sub := hsub
        have hid : sub.tenantId = key.1 := by simpa using find?_some hsub
        split at hover
        · cases hover
        · rename_i hlive
          obtain ⟨included, hincluded, rfl⟩ := Option.map_eq_some_iff.mp hover
          refine hsettled (Nat.eq_zero_of_not_pos hzero) sub (mem_of_find?_eq_some hsub) _ ?_
          exact ⟨hid, mem_mergeSort.mpr hday, hlive, included, hincluded, rfl⟩
      · cases hover
  · intro sub hsub
    obtain ⟨t, ht, hid, hcustomer, -⟩ := mem_listActiveSubscribers hsub
    exact (hr.customers t ht _ hcustomer).trans hid.symm
  · intro sub hsub hkey
    obtain ⟨t, ht, hid, -, hprice⟩ := mem_listActiveSubscribers hsub
    exact hprice.trans (hr.price t ht (hid ▸ hkey))

/-- What a run adds to the computed values of the day: one that completes adds what the day was due,
unless it left the day without a row. -/
def computed (key : String × Day) (r : OverageRun) (s' : UsageStore) :
    Option (Except UsageError OverageRunResult) → List ℕ
  | some (.ok _) => if (s'.reports key).isSome then (r.overage key).toList else []
  | _ => []

lemma Outbox.computed (h : Outbox owner key done s) {overage : ℕ} (hsettled : SettledAt key overage s) :
    Outbox owner key (done ++ [overage]) s := by
  obtain ⟨r, hr, hnone, hle⟩ := hsettled
  refine ⟨fun hnone => ?_, h.settled, h.pending, h.bounded, fun r' hr' => ?_⟩
  · rw [hr] at hnone
    cases hnone
  · obtain ⟨hbegun, hdone, hdue⟩ := h.due r' hr'
    refine ⟨hbegun, fun v hv => ?_, hdue⟩
    rcases mem_append.mp hv with hv | hv
    · exact hdone v hv
    · obtain rfl := mem_singleton.mp hv
      cases hr.symm.trans hr'
      unfold OverageReport.due
      rw [hnone]
      exact hle

lemma Balanced.run (h : Balanced owner key price done s) {r : OverageRun}
    (hr : r.Regular owner key price) {result : Option (Except UsageError OverageRunResult)}
    (hends : Ends (reportDailyOverage r.includedFor r.days) (r.start s) result s') :
    Balanced owner key price (done ++ computed key r s' result) s' ∧
      ∀ out overage, result = some (.ok out) → r.overage key = some overage →
        SettledAt key overage s' ∨ s'.reports key = none := by
  obtain ⟨hbooks, hok⟩ := hends.alone (h.start r)
    (keepsBooks_reportDailyOverage hr (h.start r) rfl rfl)
  have husage : s'.usage = r.usage := hbooks.usage
  refine ⟨⟨fun k => ?_, hbooks.priced, rfl⟩, fun out overage hresult hover =>
    (hok out hresult).2 overage hover⟩
  have hk := hbooks.outbox k
  unfold doneAt at hk ⊢
  by_cases hkey : k = key
  · subst hkey
    rw [if_pos rfl] at hk ⊢
    unfold Billing.computed
    split
    · rename_i out
      split
      · rename_i hsome
        cases hover : r.overage k with
        | none => simpa using hk
        | some overage =>
          rcases (hok out rfl).2 overage hover with hsettled | hnone
          · exact hk.computed hsettled
          · rw [hnone] at hsome
            cases hsome
      · simpa using hk
    · simpa using hk
  · rw [if_neg hkey] at hk ⊢
    exact hk

variable (owner key price) in
/-- The states that a sequence of runs can leave, each to its end or to where it is killed, with the
values that the completed ones have computed for the day. -/
inductive RunsOf : List ℕ → UsageStore → Prop
  | start {s : UsageStore} (hreports : ∀ k, s.reports k = none) (haccepted : s.accepted = [])
      (hbegun : s.begun = []) : RunsOf [] s
  | run {done : List ℕ} {s s' : UsageStore} {result : Option (Except UsageError OverageRunResult)}
      (h : RunsOf done s) (r : OverageRun) (hr : r.Regular owner key price)
      (hends : Ends (reportDailyOverage r.includedFor r.days) (r.start s) result s') :
      RunsOf (done ++ computed key r s' result) s'

lemma RunsOf.balanced (h : RunsOf owner key price done s) : Balanced owner key price done s := by
  induction h with
  | @start s hreports haccepted hbegun =>
    have hevents : ∀ k, eventsOf owner k s = [] := fun k => by rw [eventsOf, haccepted]; rfl
    have hfor : ∀ k, begunFor k s = [] := fun k => by rw [begunFor, hbegun]; rfl
    refine ⟨fun k => ⟨fun _ => ⟨hevents k, hfor k, ?_⟩, ?_, ?_, ?_, ?_⟩, ?_, rfl⟩
    · unfold doneAt
      split <;> rfl
    · intro r hr
      rw [hreports] at hr
      cases hr
    · intro r p hr
      rw [hreports] at hr
      cases hr
    · intro e he
      rw [hevents] at he
      cases he
    · intro r hr
      rw [hreports] at hr
      cases hr
    · intro r hr
      rw [hreports] at hr
      cases hr
  | run _ r hr hends ih => exact (ih.run hr hends).1

/-- The meter stands at a value the row has reported, or at the one in flight. -/
def Billed (owner : String → String) (key : String × Day) (s : UsageStore) : Prop :=
  match s.reports key with
  | none => billed owner key s = 0
  | some r => match r.pendingTarget with
    | none => billed owner key s = r.reported
    | some p => billed owner key s = r.reported ∨ billed owner key s = p

lemma Outbox.billed (h : Outbox owner key done s) : Billed owner key s := by
  unfold Billed
  cases hr : s.reports key with
  | none =>
    show Billing.billed owner key s = 0
    unfold Billing.billed
    rw [(h.noRow hr).1]
    rfl
  | some r =>
    show match r.pendingTarget with | none => _ | some p => _
    cases hp : r.pendingTarget with
    | none => exact h.settled r hr hp
    | some p =>
      obtain ⟨-, i, -, -, -, -, hmeter⟩ := h.pending r p hr hp
      exact hmeter.imp And.right And.right

lemma foldr_max_eq {l : List ℕ} {m : ℕ} (hle : ∀ v ∈ l, v ≤ m) (hmem : m = 0 ∨ m ∈ l) :
    l.foldr max 0 = m := by
  have hbound : l.foldr max 0 ≤ m := max_le_of_forall_le l m hle
  rcases hmem with rfl | hmem
  · exact Nat.le_zero.mp hbound
  · exact le_antisymm hbound (le_max_of_le hmem le_rfl)

/-- **Billed once.** In every state of every sequence of runs the meter stands at what the row has
reported, or at the segment in flight; after a run that completes and bills the day it stands at the
largest value that was computed or submitted. -/
theorem overage_billed_once (h : RunsOf owner key price done s) :
    Billed owner key s ∧
      ∀ (r : OverageRun) (out : OverageRunResult) (s' : UsageStore), r.Regular owner key price →
        Ends (reportDailyOverage r.includedFor r.days) (r.start s) (some (.ok out)) s' →
        (r.overage key).isSome →
        billed owner key s' =
          (done ++ computed key r s' (some (.ok out)) ++ begunFor key s').foldr max 0 := by
  refine ⟨h.balanced.outbox.billed, fun r out s' hr hends hsome => ?_⟩
  obtain ⟨hafter, hsettled⟩ := h.balanced.run hr hends
  have houtbox := hafter.outbox
  obtain ⟨overage, hover⟩ := Option.isSome_iff_exists.mp hsome
  symm
  rcases hsettled out overage rfl hover with ⟨row, hrow, hnone, -⟩ | hnone
  · obtain ⟨hbegun, hdone, hdue⟩ := houtbox.due row hrow
    rw [houtbox.settled row hrow hnone]
    have hreported : row.due = row.reported := by
      unfold OverageReport.due
      rw [hnone]
      rfl
    rw [hreported] at hbegun hdone hdue
    refine foldr_max_eq (fun v hv => ?_) (hdue.imp_right fun hmem => mem_append_right _ hmem)
    rcases mem_append.mp hv with hv | hv
    · exact hdone v hv
    · exact hbegun v hv
  · obtain ⟨hevents, hbegun, hdone⟩ := houtbox.noRow hnone
    rw [hdone, hbegun]
    unfold billed
    rw [hevents]
    rfl

end Runs

/-! A segment that Stripe refuses, and a cancellation before the day began. -/

def subscribedTenant : Tenant where
  id := "tenant"
  plan := "tsp_start"
  stripeCustomerId := some "cus"
  stripeSubscriptionId := some "sub"
  subscriptionPriceId := some "price"
  subscriptionPriceEffectiveAt := none
  subscriptionStatus := some "active"
  currentPeriodEnd := none
  lastBillingEventAt := some 0
  lastBillingEventId := none
  lastBillingEventRank := none
  suspendedAt := none
  lapseNoticeStage := 0
  lapseNoticeFor := none

def canceledTenant : Tenant := { subscribedTenant with
  subscriptionStatus := some "canceled"
  lastBillingEventAt := some (dayStart 100) }

/-- A run on the morning of day 101 with an allowance of two devices, where five were active. -/
def morningRun (t : Tenant) : OverageRun where
  tenants := [t]
  usage := fun _ => [(100, 5)]
  includedFor := fun _ => some 2
  nowMs := dayStart 101
  backfillDays := 1

def emptyUsageStore : UsageStore := ⟨[], fun _ => [], fun _ => none, [], []⟩

def OverageRun.play (r : OverageRun) (s : UsageStore) (fates : List Fate) :
    Option (Except UsageError OverageRunResult) × UsageStore :=
  (reportDailyOverage r.includedFor r.days).play (r.start s) fates

lemma morningRun_regular (h : t.stripeCustomerId = some "cus" ∧ t.id = "tenant" ∧
    t.subscriptionPriceId = some "price") :
    (morningRun t).Regular (fun _ => "tenant") ("tenant", 100) (some "price") where
  ids := nodup_singleton _
  customers := fun t' ht' _ _ => by rw [mem_singleton.mp ht', h.2.1]
  price := fun t' ht' _ => by rw [mem_singleton.mp ht', h.2.2]

lemma runsOf_morning (fates : List Fate) :
    RunsOf (fun _ => "tenant") ("tenant", 100) (some "price")
      ([] ++ computed ("tenant", 100) (morningRun subscribedTenant)
        ((morningRun subscribedTenant).play emptyUsageStore fates).2
        ((morningRun subscribedTenant).play emptyUsageStore fates).1)
      ((morningRun subscribedTenant).play emptyUsageStore fates).2 :=
  .run (.start (s := emptyUsageStore) (fun _ => rfl) rfl rfl) (morningRun subscribedTenant)
    (morningRun_regular (by decide)) (ends_play _ _ _)

def afterRefusal (t : Tenant) (fates : List Fate) :
    Option (Except UsageError OverageRunResult) × UsageStore :=
  (morningRun t).play
    ((morningRun subscribedTenant).play emptyUsageStore [.ok, .ok, .ok, .ok, .refused]).2 fates

lemma ends_afterRefusal (t : Tenant) (fates : List Fate) :
    Ends (reportDailyOverage (morningRun t).includedFor (morningRun t).days)
      ((morningRun t).start
        ((morningRun subscribedTenant).play emptyUsageStore [.ok, .ok, .ok, .ok, .refused]).2)
      (afterRefusal t fates).1 (afterRefusal t fates).2 := ends_play _ _ _

theorem overage_billed_once_redriven :
    ∃ s', Billed (fun _ => "tenant") ("tenant", 100) s' ∧
      billed (fun _ => "tenant") ("tenant", 100)
        (afterRefusal subscribedTenant [.ok, .ok, .ok, .ok, .ok]).2 = 3 := by
  have hok : (afterRefusal subscribedTenant [.ok, .ok, .ok, .ok, .ok]).1 =
      some (.ok ⟨1, 0, 0, 0, 0, 0, 1, 0⟩) := by decide +kernel
  have hends := ends_afterRefusal subscribedTenant [.ok, .ok, .ok, .ok, .ok]
  rw [hok] at hends
  obtain ⟨hbilled, hsettled⟩ := overage_billed_once (runsOf_morning [.ok, .ok, .ok, .ok, .refused])
  refine ⟨_, hbilled, (hsettled (morningRun subscribedTenant) _ _ (morningRun_regular (by decide))
    hends (by decide +kernel)).trans ?_⟩
  decide +kernel

/-- **Left in flight.** The submission is refused; the subscription turns out to have ended before the
day began, and the next run completes and leaves the segment as it is. -/
theorem lapsed_day_left_in_flight :
    ¬ ∀ (done : List ℕ) (s : UsageStore),
      RunsOf (fun _ => "tenant") ("tenant", 100) (some "price") done s →
      ∀ (r : OverageRun) (out : OverageRunResult) (s' : UsageStore),
        r.Regular (fun _ => "tenant") ("tenant", 100) (some "price") → 100 ∈ r.days →
        Ends (reportDailyOverage r.includedFor r.days) (r.start s) (some (.ok out)) s' →
        billed (fun _ => "tenant") ("tenant", 100) s' =
          (done ++ computed ("tenant", 100) r s' (some (.ok out)) ++
            begunFor ("tenant", 100) s').foldr max 0 := by
  intro h
  have hends := ends_afterRefusal canceledTenant [.ok, .ok, .ok]
  have hok : (afterRefusal canceledTenant [.ok, .ok, .ok]).1 =
      some (.ok ⟨1, 0, 0, 0, 0, 0, 0, 0⟩) := by decide +kernel
  rw [hok] at hends
  have hbilled := h _ _ (runsOf_morning [.ok, .ok, .ok, .ok, .refused]) (morningRun canceledTenant) _ _
    (morningRun_regular (by decide)) (by decide) hends
  -- the meter stands at 0, and a segment up to 3 was begun
  revert hbilled
  decide +kernel

end Billing

end Orbetra
