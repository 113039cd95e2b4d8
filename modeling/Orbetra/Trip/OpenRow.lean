import Orbetra.Trip.Process
import Orbetra.Trip.Rebuild

/-!
# At most one open row for each device

`one_open_row` is about every run of the process, interleaved at will and with any call refused: a
device has at most one open row that the process has created or loaded, and `openIds` knows it.
What may break this is the answer of a `warmStart`, which overwrites the entry of a device with a
row that was open when the query ran (`WarmFits` is what the answer has to meet where it arrives).

The invariant says what `apply` may rely on while it waits: from reading the entry of a device until
writing it, the open rows of that device are at most the one it holds (`ApplyState.held`).
-/

namespace Orbetra

open List

/-! ## Open rows only go -/

section Running

variable {table : TripTable} {row : TripRow}

lemma running_closeTrip {id : ℕ} {c : TripClose} (h : row ∈ (closeTrip table id c).1.rows)
    (hrunning : row.status = .running) : row ∈ table.rows ∧ row.id ≠ id := by
  simp only [closeTrip, TripTable.rows_update, mem_map] at h
  obtain ⟨old, hold, rfl⟩ := h
  split at hrunning
  · cases hrunning
  · rename_i hnot
    rw [if_neg hnot]
    refine ⟨hold, fun hid => hnot ?_⟩
    simp [isRunning, hid, hrunning]

lemma running_openTrip {o : TripOpen} (h : row ∈ (openTrip table o).1.rows) :
    row ∈ table.rows ∨ row.id = table.nextId ∧ row.deviceId = o.deviceId := by
  rcases mem_append.1 h with h | h
  · exact .inl h
  · rw [mem_singleton.1 h]
    exact .inr ⟨rfl, rfl⟩

lemma running_foldl_carryDriver {deviceId : DeviceId} {old : List TripRow}
    (h : row ∈ (old.foldl (carryDriver deviceId) table).rows) (hrunning : row.status = .running) :
    row ∈ table.rows := by
  induction old generalizing table with
  | nil => exact h
  | cons od old ih =>
    have hcarried := ih h
    simp only [carryDriver, TripTable.rows_update, mem_map] at hcarried
    obtain ⟨row', hrow', rfl⟩ := hcarried
    split at hrunning
    · rename_i hclosed
      have hrunning : row'.status = .running := hrunning
      simp [hrunning] at hclosed
    · rename_i hnot
      rwa [if_neg hnot]

lemma running_commit {plan : RecomputePlan} (hclosed : ∀ trip ∈ plan.trips, trip.status = .closed)
    (h : row ∈ (plan.commit table).rows) (hrunning : row.status = .running) : row ∈ table.rows := by
  have hdisplaced := running_foldl_carryDriver h hrunning
  have hrebuilt := mem_of_mem_filter hdisplaced
  rw [TripTable.rows_foldl_insert] at hrebuilt
  rcases mem_append.1 hrebuilt with hkept | hnew
  · exact mem_of_mem_filter hkept
  · obtain ⟨i, hi, rfl⟩ := mem_mapIdx.1 hnew
    have := hclosed _ (getElem_mem hi)
    rw [show plan.trips[i].status = .running from hrunning] at this
    cases this

lemma nextId_foldl_insert (table : TripTable) (trips : List TripRow) :
    table.nextId ≤ (trips.foldl TripTable.insert table).nextId := by
  induction trips generalizing table with
  | nil => exact le_rfl
  | cons trip trips ih => exact (Nat.le_succ _).trans (ih (table.insert trip))

lemma nextId_foldl_carryDriver (deviceId : DeviceId) (old : List TripRow) :
    (old.foldl (carryDriver deviceId) table).nextId = table.nextId := by
  induction old generalizing table with
  | nil => rfl
  | cons od old ih => exact ih

lemma nextId_commit (plan : RecomputePlan) : table.nextId ≤ (plan.commit table).nextId := by
  unfold RecomputePlan.commit
  rw [nextId_foldl_carryDriver]
  exact nextId_foldl_insert (table.delete _) plan.trips

end Running

/-! ## What `apply` holds -/

/-- The device whose entry `apply` has read and not yet written, and the row it holds for it. -/
def ApplyState.held : ApplyState → Option (DeviceId × Option ℕ)
  | .idle => none
  | .waiting (.resolveScope _) _ => none
  | .waiting (.reconstruct ev _ stale) _ => some (ev.deviceId, some stale.id)
  | .waiting (.closeStale ev _ stale _) _ => some (ev.deviceId, some stale.id)
  | .waiting (.openTrip ev _) _ => some (ev.deviceId, none)
  | .waiting (.resolveDriver ev entry _) _ => some (ev.deviceId, some entry.id)
  | .waiting (.closeTrip ev entry _) _ => some (ev.deviceId, some entry.id)
  | .answered (.resolveScope _) _ _ => none
  | .answered (.reconstruct ev _ stale) _ _ => some (ev.deviceId, some stale.id)
  | .answered (.closeStale ev _ _ _) _ _ => some (ev.deviceId, none)
  | .answered (.openTrip ev _) _ _ => some (ev.deviceId, none)
  | .answered (.resolveDriver ev entry _) _ _ => some (ev.deviceId, some entry.id)
  | .answered (.closeTrip ev _ _) _ _ => some (ev.deviceId, none)

/-- The row whose `INSERT` has taken effect while its answer is on the way. -/
def ApplyState.inserted : ApplyState → Option (DeviceId × ℕ)
  | .answered (.openTrip ev _) id _ => some (ev.deviceId, id)
  | _ => none

lemma ApplyState.held_of_inserted {a : ApplyState} {d : DeviceId} {id : ℕ}
    (h : a.inserted = some (d, id)) : a.held = some (d, none) := by
  cases a with
  | idle => cases h
  | waiting point rest => cases h
  | answered point answer rest =>
    cases point with
    | openTrip ev scope =>
      obtain ⟨rfl, -⟩ := Prod.ext_iff.1 (Option.some.inj h)
      rfl
    | _ => cases h

lemma TripPersister.held_next {p : TripPersister} {events : List TripEvent} {d : DeviceId}
    {id : Option ℕ} (h : (p.next events).held = some (d, id)) :
    ∃ entry, p.openIds d = some entry ∧ id = some entry.id := by
  induction events with
  | nil => cases h
  | cons ev events ih =>
    cases ev with
    | opened ev => cases h
    | closed ev =>
      unfold TripPersister.next at h
      cases hentry : p.openIds ev.deviceId with
      | none =>
        rw [hentry] at h
        exact ih h
      | some entry =>
        rw [hentry] at h
        cases hbutton : ev.ibutton with
        | none =>
          simp only [hbutton, ApplyState.held, Option.some.injEq, Prod.mk.injEq] at h
          exact ⟨entry, h.1 ▸ hentry, h.2.symm⟩
        | some key =>
          simp only [hbutton, ApplyState.held, Option.some.injEq, Prod.mk.injEq] at h
          exact ⟨entry, h.1 ▸ hentry, h.2.symm⟩

lemma TripPersister.inserted_next (p : TripPersister) (events : List TripEvent) :
    (p.next events).inserted = none := by
  induction events with
  | nil => rfl
  | cons ev events ih =>
    cases ev with
    | opened ev => rfl
    | closed ev =>
      unfold TripPersister.next
      cases p.openIds ev.deviceId with
      | none => exact ih
      | some entry => cases ev.ibutton <;> rfl

/-! ## The invariant -/

def Process.Open (st : Process) (row : TripRow) : Prop :=
  row ∈ st.table.rows ∧ row.status = .running ∧ row.id ∈ st.own

def Sweep.rows : Sweep → List OrphanRow
  | .measuring r rest => r :: rest
  | .closing r _ rest => r :: rest
  | .closed r rest => r :: rest

def Sweep.justClosed : Sweep → Option OrphanRow
  | .closed r _ => some r
  | _ => none

/-- What holds of the process at every `await`. -/
structure Process.Inv (st : Process) : Prop where
  /-- The persister knows the open rows. -/
  known : ∀ row, st.Open row → ∃ entry, st.persister.openIds row.deviceId = some entry ∧
    entry.id = row.id
  /-- `apply` holds the open row of the device it is dealing with. -/
  held : ∀ d id, st.apply.held = some (d, id) → ∀ row, st.Open row → row.deviceId = d →
    id = some row.id
  inserted : ∀ d id, st.apply.inserted = some (d, id) → id < st.table.nextId ∧
    ∀ row ∈ st.table.rows, row.status = .running → row.id = id → row.deviceId = d
  own : ∀ id ∈ st.own, id < st.table.nextId
  warming : ∀ rows ∈ st.warming, ∀ r ∈ rows, r.id < st.table.nextId ∧
    ∀ row ∈ st.table.rows, row.status = .running → row.id = r.id → row.deviceId = r.deviceId
  sweeping : ∀ sweep ∈ st.sweeps, ∀ r ∈ sweep.rows, r.id < st.table.nextId
  /-- A row that a sweep has closed stays closed. -/
  swept : ∀ sweep ∈ st.sweeps, ∀ r, sweep.justClosed = some r →
    ∀ row ∈ st.table.rows, row.status = .running → row.id ≠ r.id
  /-- Recompute jobs write closed rows only. -/
  plans : ∀ plan ∈ st.plans, ∀ trip ∈ plan.trips, trip.status = .closed

namespace Process.Inv

variable {st : Process}

lemma boot (table : TripTable) : (Process.boot table).Inv where
  known row h := by simp [Open, Process.boot] at h
  held d id h := by cases h
  inserted d id h := by cases h
  own id h := by simp [Process.boot] at h
  warming rows h := by simp [Process.boot] at h
  sweeping sweep h := by simp [Process.boot] at h
  swept sweep h := by simp [Process.boot] at h
  plans plan h := by simp [Process.boot] at h

/-- The database may close and delete open rows at any time. -/
lemma shrink (h : st.Inv) {table : TripTable}
    (hrows : ∀ row ∈ table.rows, row.status = .running → row ∈ st.table.rows)
    (hnext : st.table.nextId ≤ table.nextId) : { st with table := table }.Inv where
  known row hrow := h.known row ⟨hrows row hrow.1 hrow.2.1, hrow.2⟩
  held d id hheld row hrow := h.held d id hheld row ⟨hrows row hrow.1 hrow.2.1, hrow.2⟩
  inserted d id hid := ⟨(h.inserted d id hid).1.trans_le hnext, fun row hrow hrunning =>
    (h.inserted d id hid).2 row (hrows row hrow hrunning) hrunning⟩
  own id hid := (h.own id hid).trans_le hnext
  warming rows hr r hmem := ⟨(h.warming rows hr r hmem).1.trans_le hnext,
    fun row hrow hrunning => (h.warming rows hr r hmem).2 row (hrows row hrow hrunning) hrunning⟩
  sweeping sweep hs r hr := (h.sweeping sweep hs r hr).trans_le hnext
  swept sweep hs r hr row hrow hrunning :=
    h.swept sweep hs r hr row (hrows row hrow hrunning) hrunning
  plans := h.plans

lemma move (h : st.Inv) {a : ApplyState}
    (hheld : ∀ d id, a.held = some (d, id) → ∀ row, st.Open row → row.deviceId = d →
      id = some row.id)
    (hinserted : a.inserted = none) : { st with apply := a }.Inv where
  known := h.known
  held := hheld
  inserted d id hid := by simp [hinserted] at hid
  own := h.own
  warming := h.warming
  sweeping := h.sweeping
  swept := h.swept
  plans := h.plans

lemma next (h : st.Inv) (events : List TripEvent) :
    { st with apply := st.persister.next events }.Inv := by
  refine h.move (fun d id hheld row hrow hd => ?_) (st.persister.inserted_next events)
  obtain ⟨entry, hentry, rfl⟩ := TripPersister.held_next hheld
  obtain ⟨entry', hentry', hid⟩ := h.known row hrow
  rw [hd, hentry] at hentry'
  rw [Option.some.inj hentry', hid]

lemma forget (h : st.Inv) {d : DeviceId} (hnone : ∀ row, st.Open row → row.deviceId ≠ d)
    {p : TripPersister} (hp : ∀ d', d' ≠ d → p.openIds d' = st.persister.openIds d') :
    { st with persister := p }.Inv where
  known row hrow := by
    obtain ⟨entry, hentry, hid⟩ := h.known row hrow
    exact ⟨entry, (hp _ (hnone row hrow)).trans hentry, hid⟩
  held := h.held
  inserted := h.inserted
  own := h.own
  warming := h.warming
  sweeping := h.sweeping
  swept := h.swept
  plans := h.plans

lemma sweepsOf (h : st.Inv) {sweeps : List Sweep}
    (hrows : ∀ sweep ∈ sweeps, ∀ r ∈ sweep.rows, r.id < st.table.nextId)
    (hclosed : ∀ sweep ∈ sweeps, ∀ r, sweep.justClosed = some r →
      ∀ row ∈ st.table.rows, row.status = .running → row.id ≠ r.id) :
    { st with sweeps := sweeps }.Inv where
  known := h.known
  held := h.held
  inserted := h.inserted
  own := h.own
  warming := h.warming
  sweeping := hrows
  swept := hclosed
  plans := h.plans

end Process.Inv

/-! ## The steps of `apply` -/

section Step

variable {haversineM : Haversine} {src : TripSources} {shardOf : DeviceId → Option ℕ} {shard : ℕ}
  {st st' : Process}

variable {point : ApplyPoint} {rest : List TripEvent} {act : Action} {table : TripTable}
  {shards : List ℕ}

/-- **A call of `apply` takes effect.** -/
lemma Process.Inv.serve (h : st.Inv) (hwaiting : st.apply = .waiting point rest) :
    { st with
      table := (point.serve src st.table).1
      apply := .answered point (point.serve src st.table).2 rest }.Inv := by
  have hheld := h.held
  rw [hwaiting] at hheld
  have hclose : ∀ (id : ℕ) (c : TripClose) (d : DeviceId) (a : ApplyState),
      (∀ row, st.Open row → row.deviceId = d → some id = some row.id) →
      a.held = some (d, none) → a.inserted = none →
      { st with table := (closeTrip st.table id c).1, apply := a }.Inv := by
    intro id c d a hmine ha hinserted
    have hshrink : { st with table := (closeTrip st.table id c).1 }.Inv :=
      h.shrink (fun row hrow hrunning => (running_closeTrip hrow hrunning).1) le_rfl
    refine hshrink.move ?_ hinserted
    intro d' id' hd' row hrow hdevice
    rw [ha] at hd'
    obtain ⟨rfl, rfl⟩ := Prod.ext_iff.1 (Option.some.inj hd')
    obtain ⟨hkept, hne⟩ := running_closeTrip hrow.1 hrow.2.1
    exact absurd (Option.some.inj (hmine row ⟨hkept, hrow.2⟩ hdevice)).symm hne
  cases point with
  | resolveScope ev => exact h.move (fun _ _ hd => by cases hd) rfl
  | reconstruct ev scope stale => exact h.move hheld rfl
  | closeStale ev scope stale tripEnd => exact hclose _ _ _ _ (hheld _ _ rfl) rfl rfl
  | resolveDriver ev entry key => exact h.move hheld rfl
  | closeTrip ev entry driverId => exact hclose _ _ _ _ (hheld _ _ rfl) rfl rfl
  | openTrip ev scope =>
    -- the new row is not among the process's own until the answer arrives
    have hopen : ∀ row, { st with
        table := (openTrip st.table (ev.toOpen scope)).1
        apply := .answered (.openTrip ev scope) st.table.nextId rest : Process }.Open row →
          st.Open row := by
      intro row hrow
      rcases running_openTrip hrow.1 with hold | ⟨hid, -⟩
      · exact ⟨hold, hrow.2⟩
      · exact absurd (h.own row.id hrow.2.2) (by simp [hid])
    have hlt : ∀ {n : ℕ}, n < st.table.nextId → n < st.table.nextId + 1 :=
      fun h => h.trans (Nat.lt_succ_self _)
    constructor
    · exact fun row hrow => h.known row (hopen row hrow)
    · exact fun d id hd row hrow => hheld d id hd row (hopen row hrow)
    · intro d id hid
      obtain ⟨rfl, rfl⟩ := Prod.ext_iff.1 (Option.some.inj hid)
      refine ⟨Nat.lt_succ_self _, fun row hrow _ hrowId => ?_⟩
      rcases running_openTrip hrow with hold | ⟨-, hdevice⟩
      · exact absurd hrowId (ne_of_lt (st.table.ahead row hold))
      · exact hdevice
    · exact fun id hid => hlt (h.own id hid)
    · intro rows hrows r hr
      obtain ⟨hold, hdevice⟩ := h.warming rows hrows r hr
      refine ⟨hlt hold, fun row hrow hrunning hid => ?_⟩
      rcases running_openTrip hrow with hrow | ⟨hnew, -⟩
      · exact hdevice row hrow hrunning hid
      · exact absurd (hid.symm.trans hnew) (ne_of_lt hold)
    · exact fun sweep hs r hr => hlt (h.sweeping sweep hs r hr)
    · intro sweep hs r hr row hrow hrunning
      rcases running_openTrip hrow with hrow | ⟨hnew, -⟩
      · exact h.swept sweep hs r hr row hrow hrunning
      · have hmem : r ∈ sweep.rows := by
          cases sweep with
          | closed r' rest => simp [Sweep.justClosed] at hr; simp [Sweep.rows, hr]
          | _ => cases hr
        rw [hnew]
        exact ne_of_gt (h.sweeping sweep hs r hmem)
    · exact h.plans

lemma Process.Inv.refuse (h : st.Inv) (hwaiting : st.apply = .waiting point rest) :
    { st with apply := point.refuse rest }.Inv := by
  have hheld := h.held
  rw [hwaiting] at hheld
  cases point with
  | resolveDriver ev entry key => exact h.move hheld rfl
  | _ => exact h.move (fun _ _ hd => by cases hd) rfl

/-- The row that was inserted becomes the process's own, and `openIds` knows it. -/
lemma Process.Inv.created (h : st.Inv) {ev : OpenEvent} {scope : TripScope} {id : ℕ}
    (hanswered : st.apply = .answered (.openTrip ev scope) id rest) :
    { st with
      persister := st.persister.set ev.deviceId (ev.entry scope id) shard
      apply := .idle
      own := st.own ++ [id] }.Inv := by
  have hnone : ∀ row, st.Open row → row.deviceId ≠ ev.deviceId := by
    intro row hrow hd
    cases h.held ev.deviceId none (by rw [hanswered]; rfl) row hrow hd
  obtain ⟨hlt, hmine⟩ := h.inserted ev.deviceId id (by rw [hanswered]; rfl)
  constructor
  · rintro row ⟨hrow, hrunning, hown⟩
    rcases mem_append.1 hown with hown | hid
    · obtain ⟨entry, hentry, hid⟩ := h.known row ⟨hrow, hrunning, hown⟩
      refine ⟨entry, ?_, hid⟩
      simpa [TripPersister.set, hnone row ⟨hrow, hrunning, hown⟩] using hentry
    · have hid := mem_singleton.1 hid
      refine ⟨ev.entry scope id, ?_, hid.symm⟩
      simp [TripPersister.set, hmine row hrow hrunning hid]
  · intro d id hd
    cases hd
  · intro d id hd
    cases hd
  · intro id' hid'
    rcases mem_append.1 hid' with hid' | hid'
    · exact h.own id' hid'
    · rw [mem_singleton.1 hid']
      exact hlt
  · exact h.warming
  · exact h.sweeping
  · exact h.swept
  · exact h.plans

/-- **A step of `apply`.** -/
lemma Process.Inv.applyStep (h : st.Inv) (hstep : st.applyStep src shard act = some st') :
    st'.Inv := by
  cases act with
  | batch events =>
    cases happly : st.apply with
    | idle =>
      simp only [Process.applyStep, happly, Option.some.injEq] at hstep
      exact hstep ▸ h.next events
    | _ => simp [Process.applyStep, happly] at hstep
  | serve =>
    cases happly : st.apply with
    | waiting point rest =>
      simp only [Process.applyStep, happly, Option.some.injEq] at hstep
      exact hstep ▸ h.serve happly
    | _ => simp [Process.applyStep, happly] at hstep
  | refuse =>
    cases happly : st.apply with
    | waiting point rest =>
      simp only [Process.applyStep, happly, Option.some.injEq] at hstep
      exact hstep ▸ h.refuse happly
    | _ => simp [Process.applyStep, happly] at hstep
  | resume =>
    cases happly : st.apply with
    | answered point answer rest =>
      simp only [Process.applyStep, happly, Option.some.injEq] at hstep
      have hheld := h.held
      rw [happly] at hheld
      cases point with
      | resolveScope ev =>
        simp only [TripPersister.resume, append_nil] at hstep
        cases answer with
        | none => exact hstep ▸ h.next rest
        | some scope =>
          cases hstale : st.persister.openIds ev.deviceId with
          | none =>
            simp only [hstale] at hstep
            refine hstep ▸ h.move (fun d id hd row hrow hdevice => ?_) rfl
            obtain ⟨entry, hentry, -⟩ := h.known row hrow
            obtain ⟨rfl, -⟩ := Prod.ext_iff.1 (Option.some.inj hd)
            rw [hdevice, hstale] at hentry
            cases hentry
          | some stale =>
            simp only [hstale] at hstep
            refine hstep ▸ h.move (fun d id hd row hrow hdevice => ?_) rfl
            obtain ⟨entry, hentry, hid⟩ := h.known row hrow
            obtain ⟨rfl, rfl⟩ := Prod.ext_iff.1 (Option.some.inj hd)
            rw [hdevice, hstale] at hentry
            rw [Option.some.inj hentry, hid]
      | reconstruct ev scope stale =>
        simp only [TripPersister.resume, append_nil] at hstep
        exact hstep ▸ h.move hheld rfl
      | closeStale ev scope stale tripEnd =>
        simp only [TripPersister.resume, append_nil] at hstep
        have hnone : ∀ row, st.Open row → row.deviceId ≠ ev.deviceId := by
          intro row hrow hd
          cases hheld ev.deviceId none rfl row hrow hd
        have hforget := h.forget hnone (p := st.persister.deleteOpen ev.deviceId)
          fun d hd => by simp [TripPersister.deleteOpen, hd]
        refine hstep ▸ hforget.move (fun d id hd row hrow hdevice => ?_) rfl
        obtain ⟨rfl, -⟩ := Prod.ext_iff.1 (Option.some.inj hd)
        exact absurd hdevice (hnone row hrow)
      | openTrip ev scope =>
        simp only [TripPersister.resume] at hstep
        exact hstep ▸ (h.created happly).next rest
      | resolveDriver ev entry key =>
        simp only [TripPersister.resume, append_nil] at hstep
        exact hstep ▸ h.move hheld rfl
      | closeTrip ev entry driverId =>
        simp only [TripPersister.resume, append_nil] at hstep
        have hnone : ∀ row, st.Open row → row.deviceId ≠ ev.deviceId := by
          intro row hrow hd
          cases hheld ev.deviceId none rfl row hrow hd
        have hforget := h.forget hnone (p := st.persister.delete ev.deviceId)
          fun d hd => by simp [TripPersister.delete, hd]
        exact hstep ▸ hforget.next rest
    | _ => simp [Process.applyStep, happly] at hstep
  | _ => simp [Process.applyStep] at hstep

/-! ## The steps of the others -/

/-- What the answer of a `warmStart` meets where it arrives: a device in it has no other open row
of this process, and where its row is still open, `apply` holds no other entry for the device. -/
structure WarmFits (st : Process) (rows : List WarmRow) : Prop where
  only : ∀ r ∈ rows, ∀ row ∈ st.table.rows, row.status = .running → row.deviceId = r.deviceId →
    row.id ∈ st.own ++ rows.map WarmRow.id → row.id = r.id
  held : ∀ r ∈ rows, ∀ row ∈ st.table.rows, row.status = .running → row.id = r.id →
    ∀ held ∈ st.apply.held, held.1 = r.deviceId → held.2 = some r.id

lemma foldl_load (p : TripPersister) (rows : List WarmRow) (d : DeviceId) :
    (rows.foldl TripPersister.load p).openIds d = p.openIds d ∧ (∀ r ∈ rows, r.deviceId ≠ d) ∨
      ∃ r ∈ rows, r.deviceId = d ∧ ∃ entry, entry.id = r.id ∧
        (rows.foldl TripPersister.load p).openIds d = some entry := by
  induction rows generalizing p with
  | nil => exact .inl ⟨rfl, by simp⟩
  | cons r rows ih =>
    rcases ih (p.load r) with ⟨hsame, hnone⟩ | ⟨r', hr', hd, hentry⟩
    · by_cases hd : r.deviceId = d
      · refine .inr ⟨r, mem_cons_self, hd, ⟨r.id, r.tenantId, r.accountId, r.startTime⟩, rfl, ?_⟩
        refine hsame.trans ?_
        simp [TripPersister.load, TripPersister.set, hd]
      · refine .inl ⟨hsame.trans ?_, forall_mem_cons.2 ⟨hd, hnone⟩⟩
        simp [TripPersister.load, TripPersister.set, Ne.symm hd]
    · exact .inr ⟨r', mem_cons_of_mem _ hr', hd, hentry⟩

/-- **The answer of a `warmStart` arrives.** -/
lemma Process.Inv.warmed (h : st.Inv) {rows : List WarmRow} (hrows : rows ∈ st.warming)
    (hfits : WarmFits st rows) {warming : List (List WarmRow)}
    (hsub : ∀ rows' ∈ warming, rows' ∈ st.warming) :
    { st with
      persister := rows.foldl TripPersister.load st.persister
      own := st.own ++ rows.map WarmRow.id
      warming := warming }.Inv where
  known row hrow := by
    obtain ⟨hmem, hrunning, hown⟩ := hrow
    rcases foldl_load st.persister rows row.deviceId with ⟨hsame, hnone⟩ | ⟨r, hr, hd, entry, hid, he⟩
    · -- a row that was loaded would have loaded its device
      have hold : row.id ∈ st.own := by
        refine (mem_append.1 hown).resolve_right fun hnew => ?_
        obtain ⟨r, hr, hid⟩ := mem_map.1 hnew
        exact hnone r hr ((h.warming rows hrows r hr).2 row hmem hrunning hid.symm).symm
      obtain ⟨entry, hentry, hid⟩ := h.known row ⟨hmem, hrunning, hold⟩
      exact ⟨entry, hsame.trans hentry, hid⟩
    · exact ⟨entry, he, hid.trans (hfits.only r hr row hmem hrunning hd.symm hown).symm⟩
  held d id hd row hrow hdevice := by
    obtain ⟨hmem, hrunning, hown⟩ := hrow
    rcases mem_append.1 hown with hold | hnew
    · exact h.held d id hd row ⟨hmem, hrunning, hold⟩ hdevice
    · obtain ⟨r, hr, hid⟩ := mem_map.1 hnew
      have hrd := (h.warming rows hrows r hr).2 row hmem hrunning hid.symm
      rw [← hid]
      exact hfits.held r hr row hmem hrunning hid.symm (d, id) hd (hdevice.symm.trans hrd)
  inserted := h.inserted
  own id hid := by
    rcases mem_append.1 hid with hid | hid
    · exact h.own id hid
    · obtain ⟨r, hr, rfl⟩ := mem_map.1 hid
      exact (h.warming rows hrows r hr).1
  warming rows' hrows' := h.warming rows' (hsub rows' hrows')
  sweeping := h.sweeping
  swept := h.swept
  plans := h.plans

lemma mem_warmRows {r : WarmRow} (h : r ∈ warmRows shardOf shards table) :
    ∃ row ∈ table.rows, row.id = r.id ∧ row.deviceId = r.deviceId ∧ row.status = .running := by
  obtain ⟨row, hrow, hr⟩ := mem_filterMap.1 h
  cases hshard : shardOf row.deviceId with
  | none => simp [hshard] at hr
  | some s =>
    simp only [hshard, Option.bind_eq_bind, Option.bind_some] at hr
    split at hr
    · rename_i hopen
      cases hr
      exact ⟨row, hrow, rfl, rfl, hopen.1⟩
    · cases hr

/-- **A step of a `warmStart`.** -/
lemma Process.Inv.warmStep (h : st.Inv)
    (hfits : ∀ i rows, act = .warmResume i → st.warming[i]? = some rows → WarmFits st rows)
    (hstep : st.warmStep shardOf act = some st') : st'.Inv := by
  cases act with
  | warmQuery shards =>
    cases hstep
    refine ⟨h.known, h.held, h.inserted, h.own, fun rows hrows r hr => ?_, h.sweeping, h.swept,
      h.plans⟩
    rcases mem_append.1 hrows with hrows | hrows
    · exact h.warming rows hrows r hr
    · obtain ⟨old, hold, hid, hd, -⟩ := mem_warmRows (mem_singleton.1 hrows ▸ hr)
      refine ⟨hid ▸ st.table.ahead old hold, fun row hrow _ hrowId => ?_⟩
      rw [st.table.eq_of_id_eq hrow hold (hrowId.trans hid.symm), hd]
  | warmResume i =>
    cases hrows : st.warming[i]? with
    | none => simp [Process.warmStep, hrows] at hstep
    | some rows =>
      simp only [Process.warmStep, hrows, Option.bind_eq_bind, Option.bind_some,
        Option.some.injEq] at hstep
      exact hstep ▸ h.warmed (mem_of_getElem? hrows) (hfits i rows rfl hrows)
        fun _ => mem_of_mem_eraseIdx
  | _ => simp [Process.warmStep] at hstep

lemma sweep_start_rows {rows : List OrphanRow} {sweep : Sweep} (h : sweep ∈ Sweep.start rows) :
    sweep.rows = rows ∧ sweep.justClosed = none := by
  cases rows with
  | nil => cases h
  | cons r rest =>
    rw [mem_singleton.1 h]
    exact ⟨rfl, rfl⟩

lemma mem_orphanRows {cutoff : Ms} {limit : ℕ} {r : OrphanRow}
    (h : r ∈ orphanRows src shardOf shards cutoff limit table) : r.id < table.nextId := by
  obtain ⟨row, hrow, rfl⟩ := mem_map.1 (mem_of_mem_filter (mem_of_mem_take h))
  exact table.ahead row (mem_of_mem_filter hrow)

/-- **A step of a `closeOrphans`.** -/
lemma Process.Inv.sweepStep (h : st.Inv) (hstep : st.sweepStep src shardOf act = some st') :
    st'.Inv := by
  cases act with
  | sweepQuery shards cutoff limit =>
    cases hstep
    refine h.sweepsOf (fun sweep hs r hr => ?_) fun sweep hs r hr => ?_
    · rcases mem_append.1 hs with hs | hs
      · exact h.sweeping sweep hs r hr
      · rw [(sweep_start_rows hs).1] at hr
        exact mem_orphanRows hr
    · rcases mem_append.1 hs with hs | hs
      · exact h.swept sweep hs r hr
      · rw [(sweep_start_rows hs).2] at hr
        cases hr
  | sweepServe i =>
    cases hsweep : st.sweeps[i]? with
    | none => simp [Process.sweepStep, hsweep] at hstep
    | some sweep =>
      have hmem := mem_of_getElem? hsweep
      cases sweep with
      | measuring r rest =>
        simp only [Process.sweepStep, hsweep, Option.bind_eq_bind, Option.bind_some,
          Option.some.injEq] at hstep
        refine hstep ▸ h.sweepsOf (fun s hs r' hr' => ?_) fun s hs r' hr' => ?_
        · rcases mem_or_eq_of_mem_set hs with hs | rfl
          · exact h.sweeping s hs r' hr'
          · exact h.sweeping _ hmem r' hr'
        · rcases mem_or_eq_of_mem_set hs with hs | rfl
          · exact h.swept s hs r' hr'
          · cases hr'
      | closing r distanceM rest =>
        simp only [Process.sweepStep, hsweep, Option.bind_eq_bind, Option.bind_some,
          Option.some.injEq] at hstep
        have hshrink : { st with table := (closeTrip st.table r.id (r.toClose distanceM)).1 }.Inv :=
          h.shrink (fun row hrow hrunning => (running_closeTrip hrow hrunning).1) le_rfl
        refine hstep ▸ hshrink.sweepsOf (fun s hs r' hr' => ?_) fun s hs r' hr' => ?_
        · rcases mem_or_eq_of_mem_set hs with hs | rfl
          · exact h.sweeping s hs r' hr'
          · exact h.sweeping _ hmem r' hr'
        · rcases mem_or_eq_of_mem_set hs with hs | rfl
          · exact hshrink.swept s hs r' hr'
          · cases hr'
            exact fun row hrow hrunning => (running_closeTrip hrow hrunning).2
      | closed r rest => simp [Process.sweepStep, hsweep] at hstep
  | sweepRefuse i =>
    have hsub : ∀ sweep ∈ st.sweeps.eraseIdx i, sweep ∈ st.sweeps := fun _ => mem_of_mem_eraseIdx
    have hrest : { st with sweeps := st.sweeps.eraseIdx i }.Inv :=
      h.sweepsOf (fun s hs => h.sweeping s (hsub s hs)) fun s hs => h.swept s (hsub s hs)
    cases hsweep : st.sweeps[i]? with
    | none => simp [Process.sweepStep, hsweep] at hstep
    | some sweep =>
      cases sweep with
      | closed r rest => simp [Process.sweepStep, hsweep] at hstep
      | _ =>
        simp only [Process.sweepStep, hsweep, Option.bind_eq_bind, Option.bind_some,
          Option.some.injEq] at hstep
        exact hstep ▸ hrest
  | sweepResume i =>
    cases hsweep : st.sweeps[i]? with
    | none => simp [Process.sweepStep, hsweep] at hstep
    | some sweep =>
      cases sweep with
      | closed r rest =>
        simp only [Process.sweepStep, hsweep, Option.bind_eq_bind, Option.bind_some,
          Option.some.injEq] at hstep
        have hmem := mem_of_getElem? hsweep
        have hgone := h.swept _ hmem r rfl
        have hreleased : { st with persister := st.persister.release r }.Inv := by
          unfold TripPersister.release
          split
          · rename_i hmine
            refine h.forget (d := r.deviceId) (fun row hrow hd => ?_)
              fun d hd => by simp [TripPersister.deleteOpen, hd]
            obtain ⟨entry, hentry, hid⟩ := h.known row hrow
            rw [hd] at hentry
            simp only [hentry, Option.any_some, decide_eq_true_eq] at hmine
            exact hgone row hrow.1 hrow.2.1 (hid.symm.trans hmine)
          · exact h
        refine hstep ▸ hreleased.sweepsOf (fun s hs r' hr' => ?_) fun s hs r' hr' => ?_
        · rcases mem_append.1 hs with hs | hs
          · exact h.sweeping s (mem_of_mem_eraseIdx hs) r' hr'
          · rw [(sweep_start_rows hs).1] at hr'
            exact h.sweeping _ hmem r' (mem_cons_of_mem _ hr')
        · rcases mem_append.1 hs with hs | hs
          · exact h.swept s (mem_of_mem_eraseIdx hs) r' hr'
          · rw [(sweep_start_rows hs).2] at hr'
            cases hr'
      | _ => simp [Process.sweepStep, hsweep] at hstep
  | _ => simp [Process.sweepStep] at hstep

/-- **A step of a recompute job.** -/
lemma Process.Inv.planStep (h : st.Inv) (hstep : st.planStep haversineM src act = some st') :
    st'.Inv := by
  have hplans : ∀ plans : List RecomputePlan,
      (∀ plan ∈ plans, ∀ trip ∈ plan.trips, trip.status = .closed) →
        { st with plans := plans }.Inv := fun plans hplans =>
    ⟨h.known, h.held, h.inserted, h.own, h.warming, h.sweeping, h.swept, hplans⟩
  cases act with
  | planRead now deviceId lo hi scope config =>
    simp only [Process.planStep] at hstep
    split at hstep
    · exact Option.some.inj hstep ▸ h
    · rename_i plan hread
      cases hstep
      refine hplans _ fun plan' hplan' trip htrip => ?_
      rcases mem_append.1 hplan' with hplan' | hplan'
      · exact h.plans plan' hplan' trip htrip
      · rw [mem_singleton.1 hplan'] at htrip
        exact ((RecomputePlan.read_reads hread).2.of_mem_trips htrip).2
  | planCommit i =>
    cases hplan : st.plans[i]? with
    | none => simp [Process.planStep, hplan] at hstep
    | some plan =>
      simp only [Process.planStep, hplan, Option.bind_eq_bind, Option.bind_some,
        Option.some.injEq] at hstep
      have hclosed := h.plans plan (mem_of_getElem? hplan)
      have hrest := hplans (st.plans.eraseIdx i)
        fun plan' hplan' => h.plans plan' (mem_of_mem_eraseIdx hplan')
      exact hstep ▸ hrest.shrink (fun row hrow hrunning => running_commit hclosed hrow hrunning)
        (nextId_commit plan)
  | planRollback i =>
    cases hplan : st.plans[i]? with
    | none => simp [Process.planStep, hplan] at hstep
    | some plan =>
      simp only [Process.planStep, hplan, Option.bind_eq_bind, Option.bind_some,
        Option.some.injEq] at hstep
      exact hstep ▸ hplans _ fun plan' hplan' => h.plans plan' (mem_of_mem_eraseIdx hplan')
  | _ => simp [Process.planStep] at hstep

/-! ## Runs -/

/-- What a step asks of the state it is taken in: the answer of a `warmStart` fits. -/
def StepFits (st : Process) (act : Action) : Prop :=
  ∀ i rows, act = .warmResume i → st.warming[i]? = some rows → WarmFits st rows

/-- **One step keeps the invariant.** -/
lemma Process.Inv.step (h : st.Inv) (hfits : StepFits st act)
    (hstep : st.step haversineM src shardOf shard act = some st') : st'.Inv := by
  unfold Process.step at hstep
  split at hstep
  · exact h.applyStep hstep
  · exact h.applyStep hstep
  · exact h.applyStep hstep
  · exact h.applyStep hstep
  · exact h.warmStep hfits hstep
  · exact h.warmStep hfits hstep
  · exact h.sweepStep hstep
  · exact h.sweepStep hstep
  · exact h.sweepStep hstep
  · exact h.sweepStep hstep
  · exact h.planStep hstep
  · exact h.planStep hstep
  · exact h.planStep hstep

variable (haversineM src shardOf shard) in
def RunFits (st : Process) (acts : List Action) : Prop :=
  ∀ before act after now, acts = before ++ act :: after →
    st.run haversineM src shardOf shard before = some now → StepFits now act

lemma Process.Inv.run {acts : List Action} (h : st.Inv)
    (hfits : RunFits haversineM src shardOf shard st acts)
    (hrun : st.run haversineM src shardOf shard acts = some st') : st'.Inv := by
  induction acts generalizing st with
  | nil => exact Option.some.inj hrun ▸ h
  | cons act acts ih =>
    simp only [Process.run, foldlM_cons, Option.bind_eq_bind, Option.bind_eq_some_iff] at hrun
    obtain ⟨now, hstep, hrun⟩ := hrun
    refine ih (h.step (hfits [] act acts st rfl rfl) hstep) (fun before act' after now' hsplit hnow =>
      hfits (act :: before) act' after now' (by rw [hsplit]; rfl) ?_) hrun
    simp only [Process.run, foldlM_cons, Option.bind_eq_bind, hstep, Option.bind_some]
    exact hnow

/-- A row that the process has created or loaded, or is about to learn that it has created. -/
def Process.InHand (st : Process) (row : TripRow) : Prop :=
  row.id ∈ st.own ∨ ∃ d, st.apply.inserted = some (d, row.id)

/-- Each device has at most one open row in the hand of the process, and `openIds` knows the open
rows that the process has created or loaded. -/
structure OneOpenRow (st : Process) : Prop where
  unique : ∀ row ∈ st.table.rows, ∀ row' ∈ st.table.rows, row.status = .running →
    row'.status = .running → st.InHand row → st.InHand row' → row.deviceId = row'.deviceId →
      row = row'
  known : ∀ row ∈ st.table.rows, row.status = .running → row.id ∈ st.own →
    ∃ entry, st.persister.openIds row.deviceId = some entry ∧ entry.id = row.id

lemma Process.Inv.oneOpenRow (h : st.Inv) : OneOpenRow st := by
  -- where a row was just inserted, its device has no other
  have halone : ∀ row ∈ st.table.rows, ∀ row' ∈ st.table.rows, row.status = .running →
      row'.status = .running → (∃ d, st.apply.inserted = some (d, row.id)) → row'.id ∈ st.own →
        row.deviceId ≠ row'.deviceId := by
    rintro row hrow row' hrow' hrunning hrunning' ⟨d, hinserted⟩ hown hdevice
    have hd := (h.inserted d row.id hinserted).2 row hrow hrunning rfl
    cases h.held d none (ApplyState.held_of_inserted hinserted) row' ⟨hrow', hrunning', hown⟩
      (hdevice.symm.trans hd)
  refine ⟨fun row hrow row' hrow' hrunning hrunning' hhand hhand' hdevice => ?_,
    fun row hrow hrunning hown => h.known row ⟨hrow, hrunning, hown⟩⟩
  rcases hhand with hown | hinserted
  · rcases hhand' with hown' | hinserted'
    · obtain ⟨entry, hentry, hid⟩ := h.known row ⟨hrow, hrunning, hown⟩
      obtain ⟨entry', hentry', hid'⟩ := h.known row' ⟨hrow', hrunning', hown'⟩
      rw [hdevice, hentry'] at hentry
      cases hentry
      exact st.table.eq_of_id_eq hrow hrow' (hid.symm.trans hid')
    · exact absurd hdevice.symm (halone row' hrow' row hrow hrunning' hrunning hinserted' hown)
  · rcases hhand' with hown' | ⟨d', hinserted'⟩
    · exact absurd hdevice (halone row hrow row' hrow' hrunning hrunning' hinserted hown')
    · obtain ⟨d, hinserted⟩ := hinserted
      have hid : row.id = row'.id :=
        congrArg Prod.snd (Option.some.inj (hinserted.symm.trans hinserted'))
      exact st.table.eq_of_id_eq hrow hrow' hid

variable (haversineM src shardOf shard) in
/-- **At most one open row for each device.**  In every run of the process from any table, with
every interleaving and any calls refused, whose answers of `warmStart` fit where they arrive, no
device has two open rows that the process has created or loaded, and `openIds` knows the one it has.
-/
theorem one_open_row (table : TripTable) (acts : List Action) (st : Process)
    (hrun : (Process.boot table).run haversineM src shardOf shard acts = some st)
    (hfits : RunFits haversineM src shardOf shard (.boot table) acts) : OneOpenRow st :=
  ((Process.Inv.boot table).run hfits hrun).oneOpenRow

end Step

/-! ## A `warmStart` that answers late -/

def sampleOpen (t : Ms) : OpenEvent := ⟨1, tripTime + t, 54, 25⟩

def sampleEnd (t : Ms) : CloseEvent where
  deviceId := 1
  startTime := tripTime + t
  endTime := tripTime + t + 1000
  startLat := 54
  startLon := 25
  endLat := 54
  endLon := 25
  distanceM := 0
  distanceSource := .gps
  maxSpeed := 50
  idleS := 0
  ibutton := none

def onTrip : TripTable := (openTrip .empty ((sampleOpen 0).toOpen ⟨"tenant", "account"⟩)).1

/-- A run of the example: shard 0 owns every device. -/
def sampleProcess (acts : List Action) : Option Process :=
  (Process.boot onTrip).run onTheSpot sampleSources (fun _ => some 0) 0 acts

/-- A call is answered, and `apply` goes on. -/
def answer : List Action := [.serve, .resume]

/-- The shard is lost and gained again while a batch is being applied.  The second `warmStart` reads
the open row; the batch closes it and opens the next trip; then the answer arrives and puts the old
row back into `openIds`.  The next batch closes a trip and opens another. -/
def lateAnswer : List Action :=
  [Action.warmQuery [0], .warmResume 0, .warmQuery [0],
    .batch [.closed (sampleEnd 0), .opened (sampleOpen 5000)]] ++ answer ++ answer ++ answer ++
  [Action.warmResume 0, .batch [.closed (sampleEnd 5000), .opened (sampleOpen 9000)]] ++
    answer ++ answer ++ answer

/-- **Two open rows for one device.** -/
theorem late_warmStart_opens_two : ∃ st, sampleProcess lateAnswer = some st ∧ ¬ OneOpenRow st := by
  have hrun : (sampleProcess lateAnswer).map (fun st => (st.own, (st.table.rows.filter
      fun row => row.status = .running).map fun row => (row.id, row.deviceId))) =
        some ([1, 2, 1, 3], [(2, 1), (3, 1)]) := by
    decide +kernel
  obtain ⟨st, hst, heq⟩ := Option.map_eq_some_iff.1 hrun
  simp only [Prod.mk.injEq] at heq
  obtain ⟨hown, hopen⟩ := heq
  refine ⟨st, hst, fun h => ?_⟩
  have hrow : ∀ n : ℕ, n = 2 ∨ n = 3 → ∃ row ∈ st.table.rows, row.status = .running ∧
      row.id = n ∧ row.deviceId = 1 := by
    intro n hn
    have hmem : (n, (1 : DeviceId)) ∈ (st.table.rows.filter fun row => row.status = .running).map
        fun row => (row.id, row.deviceId) := by
      rw [hopen]
      rcases hn with rfl | rfl <;> simp
    obtain ⟨row, hrow, hpair⟩ := mem_map.1 hmem
    obtain ⟨hrow, hrunning⟩ := mem_filter.1 hrow
    obtain ⟨hid, hdevice⟩ := Prod.ext_iff.1 hpair
    exact ⟨row, hrow, of_decide_eq_true hrunning, hid, hdevice⟩
  obtain ⟨row, hmem, hrunning, hid, hdevice⟩ := hrow 2 (.inl rfl)
  obtain ⟨row', hmem', hrunning', hid', hdevice'⟩ := hrow 3 (.inr rfl)
  have hsame := h.unique row hmem row' hmem' hrunning hrunning'
    (.inl (by rw [hid, hown]; simp)) (.inl (by rw [hid', hown]; simp))
    (hdevice.trans hdevice'.symm)
  rw [hsame, hid'] at hid
  cases hid

/-- A `warmStart` whose answer fits. -/
theorem one_open_row_warmed :
    ∃ st, sampleProcess [.warmQuery [0], .warmResume 0] = some st ∧ OneOpenRow st := by
  have hrun : (sampleProcess [.warmQuery [0], .warmResume 0]).isSome := by decide +kernel
  obtain ⟨st, hst⟩ := Option.isSome_iff_exists.1 hrun
  refine ⟨st, hst, one_open_row onTheSpot sampleSources (fun _ => some 0) 0 onTrip _ st hst ?_⟩
  intro before act after now hsplit hnow i rows hact hrows
  subst hact
  rcases before with _ | ⟨a, _ | ⟨b, before⟩⟩
  · simp at hsplit
  · obtain ⟨rfl, hi⟩ : Action.warmQuery [0] = a ∧ _ := by simpa using hsplit
    cases hnow
    obtain ⟨rfl, -⟩ : 0 = i ∧ [] = after := by simpa using hi
    cases hrows
    exact ⟨by decide +kernel, by decide +kernel⟩
  · simp at hsplit

end Orbetra
