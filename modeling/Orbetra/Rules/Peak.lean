import Orbetra.Rules.Cooldown

/-!
# The worst speed of a breach

An overspeed event that the cooldown holds back is a continuation: it extends the newest event that
was written at most half an hour before it (`extendRuleEvents`).  Over the rows stands a log of
breaches, each an event with the continuations that it has absorbed; the rows are what the log says
(`rows_run`), whatever the order in which the continuations came.

A row records the worst speed of its breach in `maxSpeedKmh`; the overspeed report of
`packages/db/src/reports.ts` reads `speedKmh`, the first speed (`worst_speed_reported_iff`,
`worst_speed_unreported`).
-/

namespace Orbetra

open List Option

namespace RulePersister

def overspeedOf (ev : RuleEvent) : Option ℚ :=
  if ev.kind = .overspeed then RulePayload.speedKmh ev.payload else none

/-- An event that was written, and the continuations that it has absorbed. -/
structure Breach where
  scope : RuleScope
  event : RuleEvent
  absorbed : List RuleEvent
  deriving DecidableEq

namespace Breach

def absorbedSpeeds (b : Breach) : List ℚ := b.absorbed.filterMap overspeedOf

/-- The row of a breach: it ends with the latest continuation, and its peak is the highest speed. -/
def row (b : Breach) : RuleEventRow :=
  { eventRow b.scope b.event with
    endedAt :=
      if b.absorbed = [] then none
      else some ((b.absorbed.map (·.atTime)).foldl max b.event.atTime)
    maxSpeedKmh :=
      if b.absorbedSpeeds = [] then none
      else some (b.absorbedSpeeds.foldl max ((RulePayload.speedKmh b.event.payload).getD 0)) }

def absorb (ev : RuleEvent) (b : Breach) : Breach := { b with absorbed := b.absorbed ++ [ev] }

lemma extendRow_maxSpeedKmh (ev : RuleEvent) (row : RuleEventRow) :
    (extendRow ev row).maxSpeedKmh = match overspeedOf ev with
      | none => row.maxSpeedKmh
      | some peak => some (max ((row.maxSpeedKmh.or (RulePayload.speedKmh row.payload)).getD 0) peak) :=
  rfl

lemma row_absorb (ev : RuleEvent) (b : Breach) : (b.absorb ev).row = extendRow ev b.row := by
  have hended : (b.absorb ev).row.endedAt = (extendRow ev b.row).endedAt := by
    show (if b.absorbed ++ [ev] = [] then none else _) =
      some (max ((if b.absorbed = [] then none else _ : Option Ms).getD b.event.atTime) ev.atTime)
    rw [if_neg (by simp)]
    show some (((b.absorbed ++ [ev]).map (·.atTime)).foldl max b.event.atTime) = _
    rw [map_append, foldl_append]
    split
    · rename_i hnil
      rw [hnil]
      rfl
    · rfl
  have hpeak : (b.absorb ev).row.maxSpeedKmh = (extendRow ev b.row).maxSpeedKmh := by
    have hspeeds : (b.absorb ev).absorbedSpeeds = b.absorbedSpeeds ++ (overspeedOf ev).toList := by
      show (b.absorbed ++ [ev]).filterMap overspeedOf = _
      rw [filterMap_append]
      cases h : overspeedOf ev <;> simp [absorbedSpeeds, h]
    show (if (b.absorb ev).absorbedSpeeds = [] then none else _) = (extendRow ev b.row).maxSpeedKmh
    rw [extendRow_maxSpeedKmh, hspeeds]
    cases h : overspeedOf ev with
    | none => simp [row, absorb]
    | some peak =>
      rw [toList_some, if_neg (by simp)]
      show some ((b.absorbedSpeeds ++ [peak]).foldl max _) =
        some (max (((if b.absorbedSpeeds = [] then none else _ : Option ℚ).or _).getD 0) peak)
      rw [foldl_append]
      split
      · rename_i hnil
        rw [hnil]
        rfl
      · rfl
  have hrest : ∀ row : RuleEventRow, (b.absorb ev).row.endedAt = row.endedAt →
      (b.absorb ev).row.maxSpeedKmh = row.maxSpeedKmh →
      row = { eventRow b.scope b.event with
        endedAt := row.endedAt, maxSpeedKmh := row.maxSpeedKmh } → (b.absorb ev).row = row := by
    rintro row h h' hrow
    rw [hrow, ← h, ← h']
    rfl
  exact hrest _ hended hpeak rfl

end Breach

/-! ## The log -/

/-- A continuation of an event: of the same rule and device, and in the extension window. -/
def Follows (c ev : RuleEvent) : Prop :=
  ev.deviceId = c.deviceId ∧ ev.kind = c.kind ∧ ev.ruleId = c.ruleId ∧ ev.atTime ≤ c.atTime ∧
    c.atTime - extendWindowMs ≤ ev.atTime

instance (c ev : RuleEvent) : Decidable (Follows c ev) := inferInstanceAs (Decidable (_ ∧ _))

def Newest (c : RuleEvent) (events : List RuleEvent) (ev : RuleEvent) : Prop :=
  Follows c ev ∧ ∀ e ∈ events, Follows c e → e.atTime ≤ ev.atTime

instance (c : RuleEvent) (events : List RuleEvent) (ev : RuleEvent) :
    Decidable (Newest c events ev) := inferInstanceAs (Decidable (_ ∧ _))

/-- The breaches, and the continuations, each with the number of events written before. -/
structure Log where
  breaches : List Breach
  continuations : List (RuleEvent × ℕ)
  deriving DecidableEq

def absorbNewest (breaches : List Breach) (c : RuleEvent) : List Breach :=
  match newestRow c (breaches.map Breach.row) with
  | none => breaches
  | some i => breaches.modify i (Breach.absorb c)

namespace Log

def events (log : Log) : List RuleEvent := log.breaches.map (·.event)

def rows (log : Log) : List RuleEventRow := log.breaches.map Breach.row

def write (log : Log) (breaches : List Breach) : Log :=
  ⟨log.breaches ++ breaches, log.continuations⟩

def hold (log : Log) (c : RuleEvent) : Log :=
  ⟨absorbNewest log.breaches c, log.continuations ++ [(c, log.breaches.length)]⟩

variable (registry : DeviceId → Option RuleScope)

/-- What an action does to the log: events are written first, then the continuations extend. -/
def act (s : RuleStore) (log : Log) : Action → Log
  | .persist events =>
    let arrived := arriving registry s events
    (heldBack s.cooldown arrived).foldl hold (log.write
      ((through s.cooldown arrived).2.filterMap fun ev => (registry ev.deviceId).map (⟨·, ev, []⟩)))
  | _ => log

def run : RuleStore → Log → List Action → Log
  | _, log, [] => log
  | s, log, a :: actions => run (RulePersister.act registry s a) (log.act registry s a) actions

end Log

lemma rows_absorbNewest (breaches : List Breach) (c : RuleEvent) :
    (absorbNewest breaches c).map Breach.row = extendNewest (breaches.map Breach.row) c := by
  cases h : newestRow c (breaches.map Breach.row) with
  | none => simp only [absorbNewest, extendNewest, h]
  | some i =>
    simp only [absorbNewest, extendNewest, h]
    refine ext_getElem? fun j => ?_
    rw [getElem?_map, getElem?_modify, getElem?_modify, getElem?_map]
    cases breaches[j]? with
    | none => rfl
    | some b =>
      by_cases hij : i = j
      · simp [hij, Breach.row_absorb]
      · simp [hij]

lemma rows_holds (held : List RuleEvent) (log : Log) :
    (held.foldl Log.hold log).rows = held.foldl extendNewest log.rows := by
  induction held generalizing log with
  | nil => rfl
  | cons c held ih =>
    rw [foldl_cons, foldl_cons, ih]
    congr 1
    exact rows_absorbNewest log.breaches c

variable {registry : DeviceId → Option RuleScope}

variable {log : Log} {s : RuleStore} {breaches : List Breach} {b : Breach}

lemma rows_act (h : s.events = log.rows) (a : Action) :
    (act registry s a).events = (log.act registry s a).rows := by
  cases a with
  | persist events =>
    refine (persist_spec events s).rows.trans ?_
    show _ = (foldl Log.hold _ _).rows
    rw [rows_holds, h]
    congr 1
    show log.rows ++ _ = (log.breaches ++ _).map Breach.row
    rw [map_append, map_filterMap]
    congr 1
    unfold rowsOf
    refine filterMap_congr fun ev _ => ?_
    cases registry ev.deviceId <;> rfl
  | expireSeen key => exact h
  | expireCooldown key => exact h

/-- **The rows are what the log says.** -/
lemma rows_run (h : s.events = log.rows) (actions : List Action) :
    (actions.foldl (act registry) s).events = (log.run registry s actions).rows := by
  induction actions generalizing s log with
  | nil => exact h
  | cons a actions ih => exact ih (rows_act h a)

/-! ## Which breach absorbs a continuation -/

lemma extends?_row (c : RuleEvent) (b : Breach) :
    extends? c b.row = decide (Follows c b.event) := rfl

/-- One step of `newestRow`: the newer of the best row so far and the next one. -/
def newer (best : Option (RuleEventRow × ℕ)) (row : RuleEventRow × ℕ) : Option (RuleEventRow × ℕ) :=
  match best with
  | some newest => if newest.1.atTime < row.1.atTime then some row else some newest
  | none => some row

lemma newer_spec (best : Option (RuleEventRow × ℕ)) (row : RuleEventRow × ℕ) :
    ∃ x, newer best row = some x ∧ (x = row ∨ best = some x) ∧ row.1.atTime ≤ x.1.atTime ∧
      ∀ y ∈ best, y.1.atTime ≤ x.1.atTime := by
  cases best with
  | none => exact ⟨row, rfl, Or.inl rfl, le_refl _, fun y hy => by cases hy⟩
  | some newest =>
    by_cases h : newest.1.atTime < row.1.atTime
    · exact ⟨row, if_pos h, Or.inl rfl, le_refl _, fun y hy => some.inj hy ▸ h.le⟩
    · exact ⟨newest, if_neg h, Or.inr rfl, not_lt.mp h, fun y hy => some.inj hy ▸ le_refl _⟩

lemma foldl_newer (l : List (RuleEventRow × ℕ)) {best x : Option (RuleEventRow × ℕ)}
    (h : l.foldl newer best = x) :
    (x = none → l = [] ∧ best = none) ∧
      ∀ y ∈ x, (y ∈ l ∨ best = some y) ∧ (∀ z ∈ l, z.1.atTime ≤ y.1.atTime) ∧
        ∀ z ∈ best, z.1.atTime ≤ y.1.atTime := by
  induction l generalizing best with
  | nil =>
    obtain rfl : best = x := h
    exact ⟨fun hx => ⟨rfl, hx⟩, fun y hy => ⟨Or.inr hy, fun z hz => absurd hz not_mem_nil,
      fun z hz => by obtain rfl := some.inj (hy.symm.trans hz); exact le_refl _⟩⟩
  | cons row l ih =>
    obtain ⟨next, hnext, hsource, hrow, hbest⟩ := newer_spec best row
    rw [foldl_cons, hnext] at h
    obtain ⟨hnone, hsome⟩ := ih h
    refine ⟨fun hx => absurd (hnone hx).2 (some_ne_none next), fun y hy => ?_⟩
    obtain ⟨hmem, hl, hfrom⟩ := hsome y hy
    have hle : next.1.atTime ≤ y.1.atTime := hfrom next rfl
    refine ⟨?_, fun z hz => ?_, fun z hz => (hbest z hz).trans hle⟩
    · rcases hmem with hmem | hmem
      · exact Or.inl (mem_cons_of_mem row hmem)
      · cases hmem
        rcases hsource with rfl | hsource
        · exact Or.inl mem_cons_self
        · exact Or.inr hsource
    · rcases mem_cons.mp hz with rfl | hz
      · exact hrow.trans hle
      · exact hl z hz

lemma newestRow_spec (c : RuleEvent) (rows : List RuleEventRow) :
    (newestRow c rows = none → ∀ row ∈ rows, extends? c row = false) ∧
      ∀ i ∈ newestRow c rows, ∃ row, rows[i]? = some row ∧ extends? c row = true ∧
        ∀ row' ∈ rows, extends? c row' = true → row'.atTime ≤ row.atTime := by
  have hfilter : ∀ row j, (row, j) ∈ rows.zipIdx.filter (fun row => extends? c row.1) ↔
      rows[j]? = some row ∧ extends? c row = true := by
    intro row j
    rw [mem_filter, mem_zipIdx_iff_getElem?]
  have hunfold : newestRow c rows =
      ((rows.zipIdx.filter fun row => extends? c row.1).foldl newer none).map Prod.snd := rfl
  obtain ⟨hnone, hsome⟩ := foldl_newer _
    (show (rows.zipIdx.filter fun row => extends? c row.1).foldl newer none = _ from rfl)
  rw [hunfold]
  refine ⟨fun h row hrow => ?_, fun i hi => ?_⟩
  · obtain ⟨j, hj⟩ := mem_iff_getElem?.mp hrow
    by_contra hextends
    have hmem := (hfilter row j).mpr ⟨hj, Bool.not_eq_false _ ▸ hextends⟩
    rw [(hnone (map_eq_none_iff.mp h)).1] at hmem
    exact not_mem_nil hmem
  · obtain ⟨⟨row, j⟩, hx, rfl⟩ := map_eq_some_iff.mp hi
    obtain ⟨hmem, hnewest, -⟩ := hsome (row, j) hx
    have hfound := hmem.resolve_right fun h => by cases h
    obtain ⟨hj, hextends⟩ := (hfilter row j).mp hfound
    refine ⟨row, hj, hextends, fun row' hrow' hextends' => ?_⟩
    obtain ⟨j', hj'⟩ := mem_iff_getElem?.mp hrow'
    exact hnewest (row', j') ((hfilter row' j').mpr ⟨hj', hextends'⟩)

lemma getElem?_absorbNewest (breaches : List Breach) (c : RuleEvent) (i : ℕ) :
    (absorbNewest breaches c)[i]? = breaches[i]? ∨ ∃ b, breaches[i]? = some b ∧
      (absorbNewest breaches c)[i]? = some (b.absorb c) ∧
      Newest c (breaches.map (·.event)) b.event := by
  obtain ⟨-, hsome⟩ := newestRow_spec c (breaches.map Breach.row)
  unfold absorbNewest
  split
  · exact Or.inl rfl
  rename_i j hj
  by_cases hij : j = i
  swap
  · exact Or.inl (getElem?_modify_ne _ _ hij)
  subst hij
  obtain ⟨row, hrow, hextends, hnewest⟩ := hsome j hj
  rw [getElem?_map] at hrow
  obtain ⟨b, hb, rfl⟩ := map_eq_some_iff.mp hrow
  refine Or.inr ⟨b, hb, ?_, of_decide_eq_true hextends, fun e he hfollows => ?_⟩
  · rw [getElem?_modify_eq, hb]
    rfl
  · obtain ⟨b', hb', rfl⟩ := mem_map.mp he
    exact hnewest b'.row (mem_map_of_mem hb') (decide_eq_true hfollows)

lemma exists_absorbNewest {c : RuleEvent} (h : ∃ e ∈ breaches.map (·.event), Follows c e) :
    ∃ (i : ℕ) (b : Breach), breaches[i]? = some b ∧
      (absorbNewest breaches c)[i]? = some (b.absorb c) ∧
      Newest c (breaches.map (·.event)) b.event := by
  obtain ⟨hnone, hsome⟩ := newestRow_spec c (breaches.map Breach.row)
  cases hfound : newestRow c (breaches.map Breach.row) with
  | none =>
    obtain ⟨e, he, hfollows⟩ := h
    obtain ⟨b, hb, rfl⟩ := mem_map.mp he
    have hrow := hnone hfound b.row (mem_map_of_mem hb)
    rw [extends?_row] at hrow
    exact absurd hfollows (of_decide_eq_false hrow)
  | some i =>
    obtain ⟨row, hrow, hextends, hnewest⟩ := hsome i hfound
    rw [getElem?_map] at hrow
    obtain ⟨b, hb, rfl⟩ := map_eq_some_iff.mp hrow
    refine ⟨i, b, hb, ?_, of_decide_eq_true hextends, fun e he hfollows => ?_⟩
    · unfold absorbNewest
      rw [hfound]
      show (breaches.modify i _)[i]? = _
      rw [getElem?_modify_eq, hb]
      rfl
    · obtain ⟨b', hb', rfl⟩ := mem_map.mp he
      exact hnewest b'.row (mem_map_of_mem hb') (decide_eq_true hfollows)

lemma events_absorbNewest (breaches : List Breach) (c : RuleEvent) :
    (absorbNewest breaches c).map (·.event) = breaches.map (·.event) := by
  refine ext_getElem? fun i => ?_
  rw [getElem?_map, getElem?_map]
  rcases getElem?_absorbNewest breaches c i with h | ⟨b, hb, h, -⟩
  · rw [h]
  · rw [h, hb]
    rfl

lemma length_absorbNewest (breaches : List Breach) (c : RuleEvent) :
    (absorbNewest breaches c).length = breaches.length := by
  have h := congrArg length (events_absorbNewest breaches c)
  rwa [length_map, length_map] at h

lemma absorbNewest_keeps {i : ℕ} (h : breaches[i]? = some b) (c : RuleEvent) :
    ∃ b', (absorbNewest breaches c)[i]? = some b' ∧ b'.event = b.event ∧
      ∀ x ∈ b.absorbed, x ∈ b'.absorbed := by
  rcases getElem?_absorbNewest breaches c i with hsame | ⟨b', hb', hnext, -⟩
  · exact ⟨b, hsame.trans h, rfl, fun _ hx => hx⟩
  · cases h.symm.trans hb'
    exact ⟨_, hnext, rfl, fun _ hx => mem_append_left _ hx⟩

/-- The log is what it should be: a breach absorbs continuations that follow it, and a continuation
is absorbed by the newest of the events written before that it follows. -/
structure Log.Sound (log : Log) : Prop where
  follows : ∀ (i : ℕ) b, log.breaches[i]? = some b → ∀ c ∈ b.absorbed, Follows c b.event ∧
    ∃ n, (c, n) ∈ log.continuations ∧ i < n
  counted : ∀ x ∈ log.continuations, x.2 ≤ log.breaches.length
  absorbed : ∀ x ∈ log.continuations, (∃ e ∈ log.events.take x.2, Follows x.1 e) →
    ∃ (i : ℕ) (b : Breach), i < x.2 ∧ log.breaches[i]? = some b ∧ x.1 ∈ b.absorbed ∧
      Newest x.1 (log.events.take x.2) b.event

lemma Log.Sound.write (h : log.Sound) (hnew : ∀ b ∈ breaches, b.absorbed = []) :
    (log.write breaches).Sound := by
  have hold : ∀ (i : ℕ) b, log.breaches[i]? = some b →
      (log.write breaches).breaches[i]? = some b := by
    intro i b hb
    exact (List.getElem?_append_left (List.getElem?_eq_some_iff.mp hb).1).trans hb
  have htake : ∀ x ∈ log.continuations, (log.write breaches).events.take x.2 =
      log.events.take x.2 := by
    intro x hx
    show ((log.breaches ++ breaches).map _).take x.2 = _
    rw [map_append, take_append_of_le_length]
    · rfl
    · rw [length_map]
      exact h.counted x hx
  refine ⟨fun i b hb c hc => ?_, fun x hx => ?_, fun x hx hfollows => ?_⟩
  · rcases lt_or_ge i log.breaches.length with hi | hi
    · exact h.follows i b ((getElem?_append_left hi).symm.trans hb) c hc
    · have hmem := mem_of_getElem? ((getElem?_append_right hi).symm.trans hb)
      rw [hnew b hmem] at hc
      exact absurd hc not_mem_nil
  · exact (h.counted x hx).trans (by simp [Log.write])
  · rw [htake x hx] at hfollows ⊢
    obtain ⟨i, b, hi, hb, hmem, hnewest⟩ := h.absorbed x hx hfollows
    exact ⟨i, b, hi, hold i b hb, hmem, hnewest⟩

lemma Log.Sound.hold (h : log.Sound) (c : RuleEvent) : (log.hold c).Sound := by
  have hevents : (log.hold c).events = log.events := events_absorbNewest log.breaches c
  refine ⟨fun i b hb x hx => ?_, fun x hx => ?_, fun x hx hfollows => ?_⟩
  · rcases getElem?_absorbNewest log.breaches c i with hsame | ⟨b', hb', hnext, hnewest⟩
    · obtain ⟨hfollows, n, hn, hi⟩ := h.follows i b (hsame.symm.trans hb) x hx
      exact ⟨hfollows, n, mem_append_left _ hn, hi⟩
    · cases hnext.symm.trans hb
      rcases mem_append.mp hx with hx | hx
      · obtain ⟨hfollows, n, hn, hi⟩ := h.follows i b' hb' x hx
        exact ⟨hfollows, n, mem_append_left _ hn, hi⟩
      · obtain rfl := mem_singleton.mp hx
        exact ⟨hnewest.1, _, List.mem_append_right _ (List.mem_singleton.mpr rfl),
          (List.getElem?_eq_some_iff.mp hb').1⟩
  · show x.2 ≤ (absorbNewest log.breaches c).length
    rw [length_absorbNewest]
    rcases mem_append.mp hx with hx | hx
    · exact h.counted x hx
    · rw [mem_singleton.mp hx]
  · rw [hevents] at hfollows ⊢
    rcases mem_append.mp hx with hx | hx
    · obtain ⟨i, b, hi, hb, hmem, hnewest⟩ := h.absorbed x hx hfollows
      obtain ⟨b', hb', hevent, hkeeps⟩ := absorbNewest_keeps hb c
      exact ⟨i, b', hi, hb', hkeeps _ hmem, hevent ▸ hnewest⟩
    · obtain rfl := mem_singleton.mp hx
      have hall : log.events.take log.breaches.length = log.events :=
        take_of_length_le (by simp [Log.events])
      rw [hall] at hfollows ⊢
      obtain ⟨i, b, hb, hnext, hnewest⟩ := exists_absorbNewest hfollows
      exact ⟨i, b.absorb c, (List.getElem?_eq_some_iff.mp hb).1, hnext,
        List.mem_append_right _ (List.mem_singleton.mpr rfl), hnewest⟩

lemma Log.Sound.holds (h : log.Sound) (held : List RuleEvent) :
    (held.foldl Log.hold log).Sound := by
  induction held generalizing log with
  | nil => exact h
  | cons c held ih => exact ih (h.hold c)

lemma Log.Sound.run (h : log.Sound) (s : RuleStore) (actions : List Action) :
    (log.run registry s actions).Sound := by
  induction actions generalizing s log with
  | nil => exact h
  | cons a actions ih =>
    refine ih ?_ _
    cases a with
    | persist events =>
      refine Log.Sound.holds (h.write fun b hb => ?_) _
      obtain ⟨ev, -, hev⟩ := mem_filterMap.mp hb
      obtain ⟨scope, -, rfl⟩ := map_eq_some_iff.mp hev
      rfl
    | expireSeen key => exact h
    | expireCooldown key => exact h

/-! ## The report -/

/-- `COALESCE(maxSpeedKmh, speedKmh)`: the peak that a row records. -/
def peakKmh (row : RuleEventRow) : Option ℚ := row.maxSpeedKmh.or (RulePayload.speedKmh row.payload)

/-- What `scopeWhere` selects, and the day of a time in the zone of the report. -/
structure ReportParams where
  tenantId : String
  accountId : String
  since : Option Ms
  before : Option Ms
  deviceId : Option DeviceId
  dayOf : Ms → ℤ

def ReportParams.selects (params : ReportParams) (row : RuleEventRow) : Bool :=
  row.tenantId = params.tenantId ∧ row.accountId = params.accountId ∧
    params.since.all (· ≤ row.atTime) ∧ params.before.all (row.atTime < ·) ∧
    params.deviceId.all (row.deviceId = ·) ∧ row.kind = .overspeed

def ReportParams.group (params : ReportParams) (rows : List RuleEventRow) (key : ℤ × DeviceId) :
    List RuleEventRow :=
  rows.filter fun row =>
    params.selects row && decide ((params.dayOf row.atTime, row.deviceId) = key)

/-- A row of the report, without the labels of the device. -/
structure DailyOverspeedRow where
  day : ℤ
  deviceId : DeviceId
  count : ℕ
  maxSpeedKmh : Option ℚ
  deriving DecidableEq

def overspeedReport (params : ReportParams) (rows : List RuleEventRow) : List DailyOverspeedRow :=
  ((rows.filter params.selects).map fun row => (params.dayOf row.atTime, row.deviceId)).dedup.map
    fun key =>
      let group := params.group rows key
      ⟨key.1, key.2, group.length,
        (group.filterMap fun row => RulePayload.speedKmh row.payload).max?⟩

/-- The report shows the highest peak of the day. -/
def Reported (params : ReportParams) (rows : List RuleEventRow) : Prop :=
  ∀ r ∈ overspeedReport params rows,
    r.maxSpeedKmh = ((params.group rows (r.day, r.deviceId)).filterMap peakKmh).max?

instance (params : ReportParams) (rows : List RuleEventRow) : Decidable (Reported params rows) :=
  inferInstanceAs (Decidable (∀ r ∈ _, _))

namespace Log

/-- Every continuation of a written event is absorbed by the newest of them. -/
def Absorbed (log : Log) : Prop :=
  ∀ x ∈ log.continuations, (∃ e ∈ log.events, Follows x.1 e) →
    ∃ b ∈ log.breaches, x.1 ∈ b.absorbed ∧ Newest x.1 log.events b.event

/-- A row records the highest speed of its breach, and the time of the latest continuation. -/
def Recorded (log : Log) : Prop :=
  ∀ b ∈ log.breaches, b.event.kind = .overspeed →
    peakKmh b.row = ((b.event :: b.absorbed).filterMap overspeedOf).max? ∧
      b.row.endedAt = (b.absorbed.map (·.atTime)).max?

/-- The newest event that a continuation follows is written when the continuation comes. -/
def Timely (log : Log) : Prop :=
  ∀ x ∈ log.continuations, (∃ e ∈ log.events, Follows x.1 e) →
    ∃ y ∈ log.continuations, y.1 = x.1 ∧ ∃ e ∈ log.events.take y.2, Newest x.1 log.events e

/-- No continuation of a day is faster than all first speeds of the day. -/
def Covered (params : ReportParams) (log : Log) : Prop :=
  ∀ b ∈ log.breaches, params.selects b.row = true → ∀ c ∈ b.absorbed, ∀ v ∈ overspeedOf c,
    ∃ b' ∈ log.breaches, params.selects b'.row = true ∧
      params.dayOf b'.event.atTime = params.dayOf b.event.atTime ∧
      b'.event.deviceId = b.event.deviceId ∧ ∃ v' ∈ overspeedOf b'.event, v ≤ v'

instance (log : Log) : Decidable log.Timely := inferInstanceAs (Decidable (∀ x ∈ _, _))

instance (params : ReportParams) (log : Log) : Decidable (log.Covered params) :=
  inferInstanceAs (Decidable (∀ b ∈ _, _))

/-- The overspeed events carry a speed. -/
def Typed (log : Log) : Prop :=
  ∀ ev ∈ log.events, ev.kind = .overspeed → (overspeedOf ev).isSome = true

lemma absorbed_iff {log : Log} (h : log.Sound) : log.Absorbed ↔ log.Timely := by
  constructor
  · intro habsorbed x hx hfollows
    obtain ⟨b, hb, hmem, hnewest⟩ := habsorbed x hx hfollows
    obtain ⟨i, hi⟩ := mem_iff_getElem?.mp hb
    obtain ⟨-, n, hn, hlt⟩ := h.follows i b hi x.1 hmem
    refine ⟨_, hn, rfl, b.event, mem_iff_getElem?.mpr ⟨i, ?_⟩, hnewest⟩
    rw [getElem?_take_of_lt hlt]
    show (log.breaches.map _)[i]? = _
    rw [getElem?_map, hi]
    rfl
  · intro htimely x hx hfollows
    obtain ⟨⟨c, n⟩, hy, hc, e, he, hnewest⟩ := htimely x hx hfollows
    obtain rfl : c = x.1 := hc
    obtain ⟨i, b, -, hb, hmem, hfirst⟩ := h.absorbed (x.1, n) hy ⟨e, he, hnewest.1⟩
    refine ⟨b, mem_of_getElem? hb, hmem, hfirst.1, fun e' he' hfollows' => ?_⟩
    exact (hnewest.2 e' he' hfollows').trans (hfirst.2 e he hnewest.1)

end Log

lemma speedKmh_eq {ev : RuleEvent} (h : ev.kind = .overspeed) :
    RulePayload.speedKmh ev.payload = overspeedOf ev := (if_pos h).symm

lemma peakKmh_row (hkind : b.event.kind = .overspeed)
    (htyped : (overspeedOf b.event).isSome = true) :
    peakKmh b.row = ((b.event :: b.absorbed).filterMap overspeedOf).max? := by
  obtain ⟨v, hv⟩ := isSome_iff_exists.mp htyped
  have hown : RulePayload.speedKmh b.event.payload = some v := (speedKmh_eq hkind).trans hv
  rw [filterMap_cons_some hv, max?_cons']
  show (if b.absorbedSpeeds = [] then none else _ : Option ℚ).or
    (RulePayload.speedKmh b.event.payload) = some (b.absorbedSpeeds.foldl max v)
  rw [hown]
  split
  · rename_i hnil
    rw [hnil]
    rfl
  · rfl

lemma endedAt_row (h : ∀ c ∈ b.absorbed, Follows c b.event) :
    b.row.endedAt = (b.absorbed.map (·.atTime)).max? := by
  show (if b.absorbed = [] then none else some _) = _
  split
  · rename_i hnil
    rw [hnil]
    rfl
  rename_i hnil
  rw [← max?_cons']
  obtain ⟨c, hc⟩ := exists_mem_of_ne_nil _ hnil
  obtain ⟨t, ht⟩ : ∃ t, (b.absorbed.map (·.atTime)).max? = some t := by
    refine ne_none_iff_exists'.mp fun hnone => ?_
    exact hnil (map_eq_nil_iff.mp (max?_eq_none_iff.mp hnone))
  rw [ht]
  obtain ⟨hmem, hmax⟩ := max?_eq_some_iff.mp ht
  refine max?_eq_some_iff.mpr ⟨mem_cons_of_mem _ hmem, fun t' ht' => ?_⟩
  rcases mem_cons.mp ht' with rfl | ht'
  · exact (h c hc).2.2.2.1.trans (hmax _ (mem_map_of_mem hc))
  · exact hmax t' ht'

lemma Log.Sound.recorded (h : log.Sound) (htyped : log.Typed) : log.Recorded := by
  intro b hb hkind
  obtain ⟨i, hi⟩ := mem_iff_getElem?.mp hb
  exact ⟨peakKmh_row hkind (htyped _ (mem_map_of_mem hb) hkind),
    endedAt_row fun c hc => (h.follows i b hi c hc).1⟩

def Log.group (params : ReportParams) (log : Log) (key : ℤ × DeviceId) : List Breach :=
  log.breaches.filter fun b =>
    params.selects b.row && decide ((params.dayOf b.event.atTime, b.event.deviceId) = key)

lemma group_rows (params : ReportParams) (log : Log) (key : ℤ × DeviceId) :
    params.group log.rows key = (log.group params key).map Breach.row := filter_map

variable {params : ReportParams}

lemma kind_of_selects (h : params.selects b.row = true) :
    b.event.kind = .overspeed := (of_decide_eq_true h).2.2.2.2.2

def firstSpeed (b : Breach) : ℚ := (overspeedOf b.event).getD 0

def peakSpeed (b : Breach) : ℚ := (peakKmh b.row).getD 0

section Group

variable {params : ReportParams} {log : Log} {key : ℤ × DeviceId} {b : Breach}

lemma mem_group : b ∈ log.group params key ↔ b ∈ log.breaches ∧ params.selects b.row = true ∧
    (params.dayOf b.event.atTime, b.event.deviceId) = key := by
  unfold Log.group
  rw [mem_filter, Bool.and_eq_true_iff, decide_eq_true_iff]

lemma overspeedOf_of_mem_group (htyped : log.Typed) (hb : b ∈ log.group params key) :
    overspeedOf b.event = some (firstSpeed b) := by
  obtain ⟨hmem, hselects, -⟩ := mem_group.mp hb
  obtain ⟨v, hv⟩ := isSome_iff_exists.mp (htyped _ (mem_map_of_mem hmem) (kind_of_selects hselects))
  rw [firstSpeed, hv, getD_some]

/-- The peak is one of the speeds of the breach, and none is higher. -/
lemma peakSpeed_spec (htyped : log.Typed) (hb : b ∈ log.group params key) :
    peakKmh b.row = some (peakSpeed b) ∧
      peakSpeed b ∈ (b.event :: b.absorbed).filterMap overspeedOf ∧
      ∀ v ∈ (b.event :: b.absorbed).filterMap overspeedOf, v ≤ peakSpeed b := by
  obtain ⟨hmem, hselects, -⟩ := mem_group.mp hb
  have hkind := kind_of_selects hselects
  have hpeak := peakKmh_row hkind (htyped _ (mem_map_of_mem hmem) hkind)
  have hsome : peakKmh b.row = some (peakSpeed b) := by
    rw [hpeak, filterMap_cons_some (overspeedOf_of_mem_group htyped hb), max?_cons',
      peakSpeed, hpeak, filterMap_cons_some (overspeedOf_of_mem_group htyped hb),
      max?_cons', getD_some]
  exact ⟨hsome, max?_eq_some_iff.mp (hpeak.symm.trans hsome)⟩

lemma firstSpeed_le (htyped : log.Typed) (hb : b ∈ log.group params key) :
    firstSpeed b ≤ peakSpeed b := by
  refine (peakSpeed_spec htyped hb).2.2 _ (mem_filterMap.mpr ⟨b.event, ?_, ?_⟩)
  · exact mem_cons_self
  · exact overspeedOf_of_mem_group htyped hb

lemma speeds_group (htyped : log.Typed) :
    (params.group log.rows key).filterMap (fun row => RulePayload.speedKmh row.payload) =
      (log.group params key).map firstSpeed ∧
    (params.group log.rows key).filterMap peakKmh = (log.group params key).map peakSpeed := by
  rw [group_rows, filterMap_map, filterMap_map, ← filterMap_eq_map, ← filterMap_eq_map]
  constructor
  · refine filterMap_congr fun b hb => ?_
    exact (speedKmh_eq (kind_of_selects (mem_group.mp hb).2.1)).trans
      (overspeedOf_of_mem_group htyped hb)
  · exact filterMap_congr fun b hb => (peakSpeed_spec htyped hb).1

end Group

lemma mem_overspeedReport {r : DailyOverspeedRow} (h : r ∈ overspeedReport params log.rows) :
    r.maxSpeedKmh = ((params.group log.rows (r.day, r.deviceId)).filterMap
      fun row => RulePayload.speedKmh row.payload).max? := by
  obtain ⟨key, -, rfl⟩ := mem_map.mp h
  rfl

lemma exists_mem_overspeedReport (hb : b ∈ log.breaches) (hselects : params.selects b.row = true) :
    ∃ r ∈ overspeedReport params log.rows,
      (r.day, r.deviceId) = (params.dayOf b.event.atTime, b.event.deviceId) := by
  refine ⟨_, mem_map_of_mem (mem_dedup.mpr (mem_map_of_mem
    (mem_filter.mpr ⟨mem_map_of_mem hb, hselects⟩))), rfl⟩

/-- Two maxima, one of which is above the other at every element. -/
lemma max?_map_eq_iff {β : Type} {l : List β} {own peak : β → ℚ} (hle : ∀ b ∈ l, own b ≤ peak b) :
    (l.map own).max? = (l.map peak).max? ↔ ∀ b ∈ l, ∃ b' ∈ l, peak b ≤ own b' := by
  constructor
  · intro heq b hb
    obtain ⟨v, hv⟩ : ∃ v, (l.map peak).max? = some v := by
      refine ne_none_iff_exists'.mp fun hnone => ?_
      rw [map_eq_nil_iff.mp (max?_eq_none_iff.mp hnone)] at hb
      exact not_mem_nil hb
    obtain ⟨hmem, -⟩ := max?_eq_some_iff.mp (heq.trans hv)
    obtain ⟨b', hb', rfl⟩ := mem_map.mp hmem
    exact ⟨b', hb', (max?_eq_some_iff.mp hv).2 _ (mem_map_of_mem hb)⟩
  · intro h
    cases hv : (l.map own).max? with
    | none =>
      rw [map_eq_nil_iff.mp (max?_eq_none_iff.mp hv)]
      rfl
    | some v =>
      obtain ⟨hmem, hmax⟩ := max?_eq_some_iff.mp hv
      obtain ⟨b, hb, rfl⟩ := mem_map.mp hmem
      have hbound : ∀ b' ∈ l, peak b' ≤ own b := by
        intro b' hb'
        obtain ⟨b'', hb'', hle'⟩ := h b' hb'
        exact hle'.trans (hmax _ (mem_map_of_mem hb''))
      refine (max?_eq_some_iff.mpr ⟨?_, fun w hw => ?_⟩).symm
      · rw [le_antisymm (hle b hb) (hbound b hb)]
        exact mem_map_of_mem hb
      · obtain ⟨b', hb', rfl⟩ := mem_map.mp hw
        exact hbound b' hb'

/-- The report shows the highest peak exactly where no continuation beats the first speeds. -/
lemma reported_iff (htyped : log.Typed) : Reported params log.rows ↔ log.Covered params := by
  have hday : ∀ key, ((params.group log.rows key).filterMap
      fun row => RulePayload.speedKmh row.payload).max? =
        ((params.group log.rows key).filterMap peakKmh).max? ↔
      ∀ b ∈ log.group params key, ∃ b' ∈ log.group params key, peakSpeed b ≤ firstSpeed b' := by
    intro key
    rw [(speeds_group htyped).1, (speeds_group htyped).2]
    exact max?_map_eq_iff fun b hb => firstSpeed_le htyped hb
  constructor
  · intro h b hb hselects c hc v hv
    obtain ⟨r, hr, hkey⟩ := exists_mem_overspeedReport hb hselects
    have hmax := (hday _).mp ((mem_overspeedReport hr).symm.trans (h r hr))
    rw [hkey] at hmax
    have hmem : b ∈ log.group params (params.dayOf b.event.atTime, b.event.deviceId) :=
      mem_group.mpr ⟨hb, hselects, rfl⟩
    obtain ⟨b', hb', hle⟩ := hmax b hmem
    obtain ⟨hmem', hselects', hkey'⟩ := mem_group.mp hb'
    obtain ⟨hdayOf, hdevice⟩ := Prod.ext_iff.mp hkey'
    refine ⟨b', hmem', hselects', hdayOf, hdevice, firstSpeed b',
      overspeedOf_of_mem_group htyped hb', ?_⟩
    refine ((peakSpeed_spec htyped hmem).2.2 v (mem_filterMap.mpr ⟨c, ?_, hv⟩)).trans hle
    exact mem_cons_of_mem _ hc
  · intro h r hr
    refine (mem_overspeedReport hr).trans ((hday _).mpr fun b hb => ?_)
    obtain ⟨hmem, hselects, hkey⟩ := mem_group.mp hb
    obtain ⟨c, hc, hspeed⟩ := mem_filterMap.mp (peakSpeed_spec htyped hb).2.1
    rcases mem_cons.mp hc with rfl | hc
    · refine ⟨b, hb, ?_⟩
      rw [firstSpeed, hspeed, getD_some]
    · obtain ⟨b', hb', hselects', hdayOf, hdevice, v', hv', hle⟩ := h b hmem hselects c hc _ hspeed
      have hmem' : b' ∈ log.group params (r.day, r.deviceId) :=
        mem_group.mpr ⟨hb', hselects', by rw [hdayOf, hdevice, hkey]⟩
      refine ⟨b', hmem', hle.trans ?_⟩
      rw [firstSpeed, mem_def.mp hv', getD_some]

/-! ## Any calls -/

/-- The overspeed events of the calls carry a speed. -/
def SpeedGiven (actions : List Action) : Prop :=
  ∀ events, .persist events ∈ actions → ∀ ev ∈ events, ev.kind = .overspeed →
    (overspeedOf ev).isSome = true

def emptyLog : Log := ⟨[], []⟩

lemma Log.sound_empty : emptyLog.Sound :=
  ⟨fun i b hb => by simp [emptyLog] at hb, fun x hx => absurd hx not_mem_nil,
    fun x hx => absurd hx not_mem_nil⟩

lemma Log.events_holds (held : List RuleEvent) (log : Log) :
    (held.foldl Log.hold log).events = log.events := by
  induction held generalizing log with
  | nil => rfl
  | cons c held ih => exact (ih _).trans (events_absorbNewest log.breaches c)

lemma Log.typed_run (h : log.Typed) {actions : List Action} (hgiven : SpeedGiven actions) :
    (log.run registry s actions).Typed := by
  induction actions generalizing s log with
  | nil => exact h
  | cons a actions ih =>
    refine ih ?_ fun events hevents => hgiven events (mem_cons_of_mem a hevents)
    cases a with
    | persist events =>
      intro ev hev hkind
      replace hev : ev ∈ (foldl Log.hold _ _).events := hev
      rw [Log.events_holds] at hev
      obtain ⟨b, hb, rfl⟩ := mem_map.mp hev
      rcases mem_append.mp hb with hb | hb
      · exact h _ (mem_map_of_mem hb) hkind
      · obtain ⟨x, hx, hscope⟩ := mem_filterMap.mp hb
        obtain ⟨scope, -, rfl⟩ := map_eq_some_iff.mp hscope
        have harrived := (mem_of_mem_arriving (mem_of_mem_through hx)).1
        exact hgiven events mem_cons_self x harrived hkind
    | expireSeen key => exact h
    | expireCooldown key => exact h

end RulePersister

open RulePersister

/-- **The worst speed of a breach.**  In any run of calls of `persist` in which no call fails, with
keys expiring in between, a continuation is absorbed by the newest of the events written before that
it follows, and a row records the highest speed and the latest time of what it has absorbed.  A
continuation is absorbed by the newest of all events that it follows, and the report shows the
highest peak, exactly if the newest event has been written when the continuation comes, and no
continuation of a day is faster than all first speeds of the day. -/
theorem worst_speed_reported_iff (registry : DeviceId → Option RuleScope) {actions : List Action}
    (hgiven : SpeedGiven actions) (params : ReportParams) :
    let s := actions.foldl (act registry) emptyStore
    let log := emptyLog.run registry emptyStore actions
    s.events = log.rows ∧
    (∀ x ∈ log.continuations, (∃ e ∈ log.events.take x.2, Follows x.1 e) →
      ∃ b ∈ log.breaches, x.1 ∈ b.absorbed ∧ Newest x.1 (log.events.take x.2) b.event) ∧
    log.Recorded ∧
    (log.Absorbed ∧ log.Recorded ∧ Reported params s.events ↔ log.Timely ∧ log.Covered params) := by
  intro s log
  have hrows : s.events = log.rows := rows_run rfl actions
  have hsound : log.Sound := Log.sound_empty.run emptyStore actions
  have htyped : log.Typed := Log.typed_run (fun _ hev => absurd hev not_mem_nil) hgiven
  have hrecorded : log.Recorded := hsound.recorded htyped
  refine ⟨hrows, fun x hx hfollows => ?_, hrecorded, ?_⟩
  · obtain ⟨i, b, -, hb, hmem, hnewest⟩ := hsound.absorbed x hx hfollows
    exact ⟨b, mem_of_getElem? hb, hmem, hnewest⟩
  · rw [Log.absorbed_iff hsound, hrows, reported_iff htyped]
    exact ⟨fun h => ⟨h.1, h.2.2⟩, fun h => ⟨h.1, hrecorded, h.2⟩⟩

/-- An overspeed event of device 1, of a rule with a cooldown of 300 s. -/
def sampleSpeed (t : Ms) (speedKmh : ℚ) : RuleEvent :=
  { sampleEvent t with
    kind := .overspeed
    payload := .overspeed "Speed" speedKmh 90 }

/-- A report of all events, as if they were of one day. -/
def sampleParams : ReportParams := ⟨"tenant", "account", none, none, none, fun _ => 0⟩

/-- A breach that begins with 95 km/h and comes to another speed a minute later. -/
def sampleBreach (speedKmh : ℚ) : List Action :=
  [.persist [sampleSpeed 0 95], .persist [sampleSpeed 60000 speedKmh]]

lemma speedGiven_sampleBreach (speedKmh : ℚ) : SpeedGiven (sampleBreach speedKmh) := by
  intro events hevents ev hev _
  simp only [sampleBreach, mem_cons, Action.persist.injEq, not_mem_nil, or_false] at hevents
  rcases hevents with rfl | rfl
  · obtain rfl := mem_singleton.mp hev
    rfl
  · obtain rfl := mem_singleton.mp hev
    rfl

/-- A breach that slows down. -/
theorem worst_speed_reported_slower :
    Reported sampleParams ((sampleBreach 92).foldl (act sampleRegistry) emptyStore).events :=
  ((worst_speed_reported_iff sampleRegistry (speedGiven_sampleBreach 92) sampleParams).2.2.2.mpr
    ⟨by decide +kernel, by decide +kernel⟩).2.2

/-- A breach that comes to 155 km/h is reported with 95. -/
theorem worst_speed_unreported :
    let s := (sampleBreach 155).foldl (act sampleRegistry) emptyStore
    s.events.map peakKmh = [some 155] ∧
      (overspeedReport sampleParams s.events).map (·.maxSpeedKmh) = [some 95] ∧
      ¬ Reported sampleParams s.events := by
  decide +kernel

end Orbetra
