import Orbetra.Framework.Machine
import Orbetra.Trip.Coverage
import Orbetra.Trip.OpenRow

/-!
# A row is closed by its own trip

The workers own a shard one after another.  A worker that loses it forgets the rows (`forgetShard`)
but keeps the memory of its trip engine; the next owner loads the rows that are open then
(`warmStart`).  Three copies of one fact meet when a trip is closed: the trip the engine is on, the
entry in `openIds`, and the row.

`closed_by_own_trip` says when they are the same: the engine of a worker that gains the shard is on
no other trip than those whose rows are open.  `trip_closes_other_row` is a worker that regains a
shard while its engine is still on a trip that the worker before it has replaced.
-/

namespace Orbetra

open Function List Option

/-! ## The workers of a shard -/

/-- A worker process: its engine, its persister, and what `apply` is doing. -/
structure TripHost where
  engine : TripEngine
  persister : TripPersister
  apply : ApplyState

/-- A process that has just started. -/
def TripHost.boot : TripHost := ⟨.new, .new, .idle⟩

/-- The table, the workers, and the owner of the shard. -/
structure Handoff where
  table : TripTable
  hosts : ℕ → TripHost
  owner : Option ℕ
  /-- The rows that the close branch of `apply` has closed, each with its event. -/
  finalized : List (CloseEvent × TripRow)

/-- Workers that have just started, on a table. -/
def Handoff.boot (table : TripTable) : Handoff := ⟨table, fun _ => .boot, none, []⟩

/-- Every open row was there before: rows may be closed, deleted, and inserted closed. -/
def TripTable.Shrinks (before after : TripTable) : Prop :=
  before.nextId ≤ after.nextId ∧ ∀ row ∈ after.rows, row.status = .running →
    ∃ row' ∈ before.rows, row'.id = row.id ∧ row'.status = .running ∧
      row'.deviceId = row.deviceId ∧ row'.startTime = row.startTime

instance (before after : TripTable) : Decidable (before.Shrinks after) :=
  inferInstanceAs (Decidable (_ ∧ _))

/-- What may happen next. -/
inductive ShardMove
  /-- A worker gains the shard.  `rows` is what its `warmStart` answers, in any order; nothing if it
  is refused. -/
  | gain (w : ℕ) (rows : List WarmRow)
  /-- The owner loses the shard: its consumer has stopped. -/
  | lose
  /-- A process dies, at any point, and starts again. -/
  | restart (w : ℕ)
  /-- The owner is handed a batch. -/
  | batch (configFor : DeviceId → DeviceTripConfig) (records : List NormalizedRecord)
  /-- A call of `apply` takes effect, with what there is to read. -/
  | serve (src : TripSources)
  | refuse
  | resume
  /-- Something else changes the table: a sweep, a recompute, the dashboard. -/
  | outside (table : TripTable)
  /-- A sweep of a worker drops the entry of a row it has closed. -/
  | release (w : ℕ) (r : OrphanRow)

namespace Handoff

variable (haversineM : Haversine) (shardOf : DeviceId → Option ℕ) (shard : ℕ)

/-- Change one worker. -/
def setHost (st : Handoff) (w : ℕ) (host : TripHost) : Handoff :=
  { st with hosts := update st.hosts w host }

def closes (table : TripTable) : ApplyPoint → List (CloseEvent × TripRow)
  | .closeTrip ev entry driverId =>
    (table.rows.filter (isRunning entry.id)).map fun row => (ev, (ev.toClose driverId).set row)
  | _ => []

def applyStep (st : Handoff) (w : ℕ) : ShardMove → Option Handoff
  | .batch configFor records =>
    let host := st.hosts w
    match host.apply with
    | .idle =>
      let fed := host.engine.feed haversineM configFor records
      some (st.setHost w { host with engine := fed.1, apply := host.persister.next fed.2 })
    | _ => none
  | .serve src =>
    match (st.hosts w).apply with
    | .waiting point rest =>
      let served := point.serve src st.table
      let st' := st.setHost w { st.hosts w with apply := .answered point served.2 rest }
      some { st' with table := served.1, finalized := st.finalized ++ closes st.table point }
    | _ => none
  | .refuse =>
    match (st.hosts w).apply with
    | .waiting point rest => some (st.setHost w { st.hosts w with apply := point.refuse rest })
    | _ => none
  | .resume =>
    match (st.hosts w).apply with
    | .answered point answer rest =>
      let resumed := (st.hosts w).persister.resume shard rest point answer
      some (st.setHost w { st.hosts w with persister := resumed.1, apply := resumed.2 })
    | _ => none
  | _ => none

def ownerStep (st : Handoff) : ShardMove → Option Handoff
  | .gain w rows =>
    if st.owner = none ∧ (rows = [] ∨ rows.Perm (warmRows shardOf [shard] st.table)) then
      let host := st.hosts w
      let loaded := rows.foldl TripPersister.load host.persister
      let st' := st.setHost w { host with persister := loaded }
      some { st' with owner := some w }
    else none
  | .lose => do
    let w ← st.owner
    match (st.hosts w).apply with
    | .idle =>
      let host := st.hosts w
      let st' := st.setHost w { host with persister := host.persister.forgetShard shard }
      some { st' with owner := none }
    | _ => none
  | .restart w =>
    some { st.setHost w .boot with owner := if st.owner = some w then none else st.owner }
  | _ => none

def step (st : Handoff) (move : ShardMove) : Option Handoff :=
  match move with
  | .gain _ _ | .lose | .restart _ => st.ownerStep shardOf shard move
  | .batch _ _ | .serve _ | .refuse | .resume =>
    st.owner.bind fun w => st.applyStep haversineM shard w move
  | .outside table => if st.table.Shrinks table then some { st with table := table } else none
  | .release w r =>
    some (st.setHost w { st.hosts w with persister := (st.hosts w).persister.release r })

end Handoff

structure ClosedByOwnTrip (ev : CloseEvent) (row : TripRow) : Prop where
  device : row.deviceId = ev.deviceId
  start : row.startTime = ev.startTime
  ends : row.endTime = some ev.endTime
  ordered : row.startTime ≤ ev.endTime

/-! ## The end of a trip is not before its start -/

/-- The device has done nothing that began after the newest record seen. -/
def DeviceState.Timely (st : DeviceState) : Prop :=
  match st.lastSeen with
  | none => st.phase = .idle
  | some now => st.phase.UpTo now

def TripEngine.Timely (e : TripEngine) : Prop := ∀ d st, e.state d = some st → st.Timely

/-- The close events end after they start. -/
def Ordered (events : List TripEvent) : Prop :=
  ∀ ev, .closed ev ∈ events → ev.startTime ≤ ev.endTime

section Times

variable {haversineM : Haversine} {configFor : DeviceId → DeviceTripConfig}

lemma DeviceState.Timely.upTo {st : DeviceState} (h : st.Timely) {now : Ms}
    (hnow : ∀ t ∈ st.lastSeen, t ≤ now) : st.phase.UpTo now := by
  unfold DeviceState.Timely at h
  cases hseen : st.lastSeen with
  | none =>
    rw [hseen] at h
    have h : st.phase = .idle := h
    rw [h]
    exact Phase.upTo_idle now
  | some t =>
    rw [hseen] at h hnow
    exact Phase.UpTo.mono h (hnow t rfl)

lemma DeviceState.Timely.advance {st : DeviceState} (h : st.Timely) (resolved : DeviceTripConfig)
    {r : NormalizedRecord} (hskew : isClockSkewed r = false) (hlate : st.isLate r = false) :
    (st.advance haversineM resolved r).1.Timely ∧ Ordered (st.advance haversineM resolved r).2 := by
  have hnow : st.phase.UpTo r.fixTime := by
    refine h.upTo fun t ht => ?_
    simp only [DeviceState.isLate, mem_def.1 ht, any_some, decide_eq_false_iff_not, not_lt] at hlate
    exact hlate
  have hread : ∀ config, st.phase.read haversineM config r = st.phase.step haversineM config r :=
    fun config => by simp [Phase.read, hskew]
  unfold DeviceState.advance
  dsimp only
  generalize (if st.phase = .idle then resolved else st.config) = config
  rw [← hread]
  refine ⟨hnow.read le_rfl, fun ev hev => ?_⟩
  obtain ⟨trip, hphase, -, hstart, hend, -⟩ :=
    Phase.read_close (k := ev) (mem_filterMap.2 ⟨_, hev, rfl⟩)
  rw [hstart, hend]
  cases hs : trip.stopSince with
  | none => exact hnow.start _ (by rw [hphase]; rfl)
  | some t => exact (hnow.stop trip t hphase hs).1

variable (haversineM configFor) in
lemma TripEngine.Timely.step {e : TripEngine} (h : e.Timely) (r : NormalizedRecord) :
    (e.step haversineM configFor r).1.Timely ∧ Ordered (e.step haversineM configFor r).2 := by
  unfold TripEngine.step
  by_cases hskew : isClockSkewed r
  · simp only [hskew, if_true]
    exact ⟨h, fun ev hev => by simp at hev⟩
  simp only [hskew, Bool.false_eq_true, if_false]
  have hst : ((e.state r.deviceId).getD (.fresh (configFor r.deviceId))).Timely := by
    cases hstate : e.state r.deviceId with
    | none => exact rfl
    | some st => exact h _ st hstate
  generalize (e.state r.deviceId).getD (.fresh (configFor r.deviceId)) = st at hst ⊢
  have hset : ∀ st' : DeviceState, st'.Timely →
      ∀ d x, update e.state r.deviceId (some st') d = some x → x.Timely := by
    intro st' hst' d x hx
    obtain ⟨rfl, rfl⟩ | ⟨-, hx⟩ := update_some_eq_some.1 hx
    · exact hst'
    · exact h d x hx
  cases hlate : st.isLate r with
  | true => exact ⟨hset st hst, fun ev hev => by simp at hev⟩
  | false =>
    exact (hst.advance (configFor r.deviceId) (Bool.not_eq_true _ ▸ hskew) hlate).imp_left (hset _)

variable (haversineM configFor) in
lemma TripEngine.Timely.feed {e : TripEngine} (h : e.Timely) (records : List NormalizedRecord) :
    (e.feed haversineM configFor records).1.Timely ∧
      Ordered (e.feed haversineM configFor records).2 := by
  unfold TripEngine.feed
  induction records generalizing e with
  | nil => exact ⟨h, fun ev hev => by simp [Transducer.feed] at hev⟩
  | cons r rs ih =>
    obtain ⟨hnext, hordered⟩ := h.step haversineM configFor r
    obtain ⟨hlast, hlater⟩ := ih hnext
    exact ⟨hlast, fun ev hev => (mem_append.1 hev).elim (hordered ev) (hlater ev)⟩

end Times

/-! ## Entries and rows -/

/-- The memory of the persister agrees with the trips in progress: an entry of a device on a trip is
the entry of that trip. -/
def Agrees (trips : DeviceId → Option Ms) (p : TripPersister) : Prop :=
  ∀ d t entry, trips d = some t → p.openIds d = some entry → entry.startTime = t

def Backs (table : TripTable) (d : DeviceId) (entry : OpenTripId) : Prop :=
  entry.id < table.nextId ∧ ∀ row ∈ table.rows, row.id = entry.id → row.status = .running →
    row.deviceId = d ∧ row.startTime = entry.startTime

section Entries

variable {trips : DeviceId → Option Ms} {p : TripPersister} {table table' : TripTable}
  {d : DeviceId} {entry : OpenTripId}

lemma Agrees.of_empty (h : ∀ d, p.openIds d = none) : Agrees trips p := by
  intro d t entry _ hentry
  rw [h d] at hentry
  cases hentry

/-- Fewer entries. -/
lemma Agrees.mono {p' : TripPersister} (h : Agrees trips p)
    (hp : ∀ d entry, p'.openIds d = some entry → p.openIds d = some entry) : Agrees trips p' :=
  fun d t entry ht hentry => h d t entry ht (hp d entry hentry)

lemma Agrees.ended (h : Agrees trips p) (d : DeviceId) : Agrees (update trips d none) p := by
  intro d' t entry ht hentry
  exact h d' t entry (update_none_eq_some.1 ht).2 hentry

lemma Agrees.begun (h : Agrees trips p) {t : Ms}
    (hentry : ∀ entry, p.openIds d = some entry → entry.startTime = t) :
    Agrees (update trips d (some t)) p := by
  intro d' t' entry ht hentry'
  obtain ⟨rfl, rfl⟩ | ⟨-, ht⟩ := update_some_eq_some.1 ht
  · exact hentry entry hentry'
  · exact h d' t' entry ht hentry'

variable {d' : DeviceId} {shard : ℕ}

lemma openIds_of_deleteOpen (h : (p.deleteOpen d).openIds d' = some entry) :
    p.openIds d' = some entry := by
  by_cases hd : d' = d
  · subst hd
    simp [TripPersister.deleteOpen] at h
  · simpa [TripPersister.deleteOpen, hd] using h

lemma openIds_of_release {r : OrphanRow} (h : (p.release r).openIds d' = some entry) :
    p.openIds d' = some entry := by
  unfold TripPersister.release at h
  split at h
  · exact openIds_of_deleteOpen h
  · exact h

lemma shardOf_release (r : OrphanRow) : (p.release r).shardOf = p.shardOf := by
  unfold TripPersister.release
  split <;> rfl

lemma openIds_set {e : OpenTripId} (h : (p.set d e shard).openIds d' = some entry) :
    d' = d ∧ entry = e ∨ d' ≠ d ∧ p.openIds d' = some entry := by
  by_cases hd : d' = d
  · subst hd
    exact .inl ⟨rfl, by simpa [TripPersister.set, eq_comm] using h⟩
  · exact .inr ⟨hd, by simpa [TripPersister.set, hd] using h⟩

lemma shardOf_set (p : TripPersister) (d : DeviceId) (e : OpenTripId) (shard : ℕ) :
    (p.set d e shard).shardOf d = some shard :=
  update_self ..

lemma shardOf_set_of_ne (p : TripPersister) (e : OpenTripId) (shard : ℕ) (hd : d' ≠ d) :
    (p.set d e shard).shardOf d' = p.shardOf d' :=
  update_of_ne hd ..

lemma shardOf_delete_of_ne (p : TripPersister) (hd : d' ≠ d) :
    (p.delete d).shardOf d' = p.shardOf d' :=
  update_of_ne hd ..

lemma Backs.shrink (h : Backs table d entry) (hshrinks : table.Shrinks table') :
    Backs table' d entry := by
  refine ⟨h.1.trans_le hshrinks.1, fun row hrow hid hrunning => ?_⟩
  obtain ⟨row', hrow', hid', hrunning', hdevice, hstart⟩ := hshrinks.2 row hrow hrunning
  rw [← hdevice, ← hstart]
  exact h.2 row' hrow' (hid'.trans hid) hrunning'

/-- A new row has a new id. -/
lemma Backs.openTrip (h : Backs table d entry) (o : TripOpen) :
    Backs (openTrip table o).1 d entry := by
  refine ⟨h.1.trans (Nat.lt_succ_self _), fun row hrow hid hrunning => ?_⟩
  rcases mem_append.1 hrow with hold | hnew
  · exact h.2 row hold hid hrunning
  · rw [mem_singleton.1 hnew] at hid
    exact absurd hid (ne_of_gt h.1)

lemma backs_opened (table : TripTable) (ev : OpenEvent) (scope : TripScope) :
    Backs (openTrip table (ev.toOpen scope)).1 ev.deviceId
      (ev.entry scope (openTrip table (ev.toOpen scope)).2) := by
  refine ⟨Nat.lt_succ_self _, fun row hrow hid hrunning => ?_⟩
  rcases mem_append.1 hrow with hold | hnew
  · exact absurd hid (ne_of_lt (table.ahead row hold))
  · rw [mem_singleton.1 hnew]
    exact ⟨rfl, rfl⟩

/-- Closing a row opens none. -/
lemma shrinks_closeTrip (table : TripTable) (id : ℕ) (c : TripClose) :
    table.Shrinks (closeTrip table id c).1 :=
  ⟨le_rfl, fun row hrow hrunning =>
    ⟨row, (running_closeTrip hrow hrunning).1, rfl, hrunning, rfl, rfl⟩⟩

lemma openIds_load {shardOf : DeviceId → Option ℕ} {rows : List WarmRow}
    (hrows : ∀ r ∈ rows, r ∈ warmRows shardOf [shard] table)
    (hbacked : ∀ d entry, p.openIds d = some entry → Backs table d entry ∧ p.shardOf d = some shard)
    (h : (rows.foldl TripPersister.load p).openIds d = some entry) :
    Backs table d entry ∧ (rows.foldl TripPersister.load p).shardOf d = some shard := by
  induction rows generalizing p with
  | nil => exact hbacked d entry h
  | cons r rows ih =>
    refine ih (fun r' hr' => hrows r' (mem_cons_of_mem _ hr')) (fun d entry hentry => ?_) h
    obtain ⟨row, hrow, hr⟩ := mem_filterMap.1 (hrows r mem_cons_self)
    simp only [bind_eq_bind, bind_eq_some_iff] at hr
    obtain ⟨s, -, hr⟩ := hr
    split at hr
    · rename_i hopen
      cases hr
      rcases openIds_set hentry with ⟨rfl, rfl⟩ | ⟨hd, hold⟩
      · refine ⟨⟨table.ahead row hrow, fun row' hrow' hid _ => ?_⟩, ?_⟩
        · rw [TripTable.eq_of_id_eq hrow' hrow hid]
          exact ⟨rfl, rfl⟩
        · rw [← mem_singleton.1 hopen.2]
          exact shardOf_set p _ _ s
      · exact (hbacked d entry hold).imp_right (shardOf_set_of_ne p _ s hd).trans
    · cases hr

end Entries

/-! ## What `apply` has before it -/

/-- The event a call is about. -/
def ApplyPoint.event : ApplyPoint → TripEvent
  | .resolveScope ev => .opened ev
  | .reconstruct ev _ _ => .opened ev
  | .closeStale ev _ _ _ => .opened ev
  | .openTrip ev _ => .opened ev
  | .resolveDriver ev _ _ => .closed ev
  | .closeTrip ev _ _ => .closed ev

/-- The events that the memory does not know of yet. -/
def ApplyState.pending : ApplyState → List TripEvent
  | .idle => []
  | .waiting point rest => point.event :: rest
  | .answered point _ rest => point.event :: rest

/-- The close event a call is about, and the entry read for it. -/
def ApplyPoint.closing : ApplyPoint → Option (CloseEvent × OpenTripId)
  | .resolveDriver ev entry _ => some (ev, entry)
  | .closeTrip ev entry _ => some (ev, entry)
  | _ => none

def ApplyState.closing : ApplyState → Option (CloseEvent × OpenTripId)
  | .idle => none
  | .waiting point _ => point.closing
  | .answered point _ _ => point.closing

/-- The row just inserted, as the entry it is going to have. -/
def ApplyState.opened : ApplyState → Option (DeviceId × OpenTripId)
  | .answered (.openTrip ev scope) id _ => some (ev.deviceId, ev.entry scope id)
  | _ => none

def ApplyState.skipping : ApplyState → Option OpenEvent
  | .answered (.resolveScope ev) answer _ =>
    match (answer : Option TripScope) with
    | none => some ev
    | some _ => none
  | _ => none

/-- The memory and the calls of `apply` agree with the engine. -/
structure TripHost.Sound (shard : ℕ) (table : TripTable) (host : TripHost) : Prop where
  /-- The memory is where the engine was before the events that are left. -/
  agrees : ∃ trips, TripTrace trips host.apply.pending host.engine.tripStart ∧
    Agrees trips host.persister
  ordered : Ordered host.apply.pending
  closing : ∀ ev entry, host.apply.closing = some (ev, entry) →
    entry.startTime = ev.startTime ∧ Backs table ev.deviceId entry
  opened : ∀ d entry, host.apply.opened = some (d, entry) → Backs table d entry
  skipping : ∀ ev, host.apply.skipping = some ev → ∀ entry,
    host.persister.openIds ev.deviceId = some entry → entry.startTime = ev.startTime
  backed : ∀ d entry, host.persister.openIds d = some entry →
    Backs table d entry ∧ host.persister.shardOf d = some shard
  timely : host.engine.Timely

section Sound

variable {shard : ℕ} {table table' : TripTable} {host : TripHost}

lemma TripHost.Sound.tableKept (h : host.Sound shard table)
    (hkept : ∀ d entry, Backs table d entry → Backs table' d entry) :
    host.Sound shard table' :=
  ⟨h.agrees, h.ordered,
    fun ev entry hclosing => (h.closing ev entry hclosing).imp_right (hkept _ _),
    fun d entry hopened => hkept d entry (h.opened d entry hopened), h.skipping,
    fun d entry hentry => (h.backed d entry hentry).imp_left (hkept d entry), h.timely⟩

lemma TripHost.sound_boot (shard : ℕ) (table : TripTable) : TripHost.boot.Sound shard table where
  agrees := ⟨_, .nil _, .of_empty fun _ => rfl⟩
  ordered ev hev := by simp [boot, ApplyState.pending] at hev
  closing ev entry h := by cases h
  opened d entry h := by cases h
  skipping ev h := by cases h
  backed d entry h := by cases h
  timely d st h := by cases h

variable {p : TripPersister} {engine : TripEngine}

/-- Between two calls of `apply`. -/
lemma TripHost.sound_idle (hagrees : Agrees engine.tripStart p)
    (hbacked : ∀ d entry, p.openIds d = some entry →
      Backs table d entry ∧ p.shardOf d = some shard) (htimely : engine.Timely) :
    TripHost.Sound shard table ⟨engine, p, .idle⟩ where
  agrees := ⟨_, .nil _, hagrees⟩
  ordered ev hev := by simp [ApplyState.pending] at hev
  closing ev entry h := by cases h
  opened d entry h := by cases h
  skipping ev h := by cases h
  backed := hbacked
  timely := htimely

lemma TripHost.sound_next {events : List TripEvent} {trips : DeviceId → Option Ms}
    (htrace : TripTrace trips events engine.tripStart) (hagrees : Agrees trips p)
    (hordered : Ordered events) (hbacked : ∀ d entry, p.openIds d = some entry →
      Backs table d entry ∧ p.shardOf d = some shard) (htimely : engine.Timely) :
    TripHost.Sound shard table ⟨engine, p, p.next events⟩ := by
  induction events generalizing trips with
  | nil =>
    cases htrace
    exact sound_idle hagrees hbacked htimely
  | cons ev events ih =>
    cases ev with
    | opened ev =>
      exact ⟨⟨trips, htrace, hagrees⟩, hordered, fun ev' entry h => (by cases h),
        fun d entry h => (by cases h), fun ev h => (by cases h), hbacked, htimely⟩
    | closed ev =>
      have hlater : Ordered events := fun ev' hev' => hordered ev' (mem_cons_of_mem _ hev')
      cases htrace with
      | closed before rest =>
        cases hentry : p.openIds ev.deviceId with
        | none =>
          have hskip := ih rest (hagrees.ended ev.deviceId) hlater
          have hnext : p.next (.closed ev :: events) = p.next events := by
            simp [TripPersister.next, hentry]
          rw [hnext]
          exact hskip
        | some entry =>
          -- both ways `apply` goes on, it holds this entry
          have hholds : ∀ point : ApplyPoint, point.event = .closed ev →
              point.closing = some (ev, entry) →
              TripHost.Sound shard table ⟨engine, p, .waiting point events⟩ := by
            intro point hevent hpoint
            refine ⟨⟨trips, ?_, hagrees⟩, ?_, fun ev' entry' hclosing => ?_,
              fun d entry h => (by cases h), fun ev h => (by cases h), hbacked, htimely⟩
            · simp only [ApplyState.pending, hevent]
              exact .closed before rest
            · simpa only [ApplyState.pending, hevent] using hordered
            · obtain ⟨rfl, rfl⟩ := Prod.ext_iff.1 (some.inj (hpoint.symm.trans hclosing))
              exact ⟨hagrees _ _ _ before hentry, (hbacked _ _ hentry).1⟩
          cases hbutton : ev.ibutton with
          | none =>
            have hnext : p.next (.closed ev :: events) =
                .waiting (.closeTrip ev entry none) events := by
              simp [TripPersister.next, hentry, hbutton]
            rw [hnext]
            exact hholds _ rfl rfl
          | some key =>
            have hnext : p.next (.closed ev :: events) =
                .waiting (.resolveDriver ev entry key) events := by
              simp [TripPersister.next, hentry, hbutton]
            rw [hnext]
            exact hholds _ rfl rfl

end Sound

/-! ## The steps -/

/-- What a move asks of the state it is made in.  The engine of a worker that gains the shard is on
no trip whose device it loads another row for; and an event that `apply` gives up leaves no entry
behind that is not about the trip the engine is on. -/
def Handoff.Fits (st : Handoff) : ShardMove → Prop
  | .gain w rows => Agrees (st.hosts w).engine.tripStart
      (rows.foldl TripPersister.load (st.hosts w).persister)
  | .serve src => ∀ w ev rest, st.owner = some w →
      (st.hosts w).apply = .waiting (.resolveScope ev) rest → src.registry ev.deviceId = none →
        ∀ entry, (st.hosts w).persister.openIds ev.deviceId = some entry →
          entry.startTime = ev.startTime
  | .refuse => ∀ w point rest, st.owner = some w → (st.hosts w).apply = .waiting point rest →
      point.refuse rest = .idle → Agrees (st.hosts w).engine.tripStart (st.hosts w).persister
  | _ => True

/-- What holds between the steps. -/
structure Handoff.Inv (shard : ℕ) (st : Handoff) : Prop where
  hosts : ∀ w, (st.hosts w).Sound shard st.table
  /-- The workers that do not own the shard remember nothing of it. -/
  others : ∀ w, st.owner ≠ some w → (st.hosts w).apply = .idle ∧
    ∀ d, (st.hosts w).persister.openIds d = none
  finalized : ∀ f ∈ st.finalized, ClosedByOwnTrip f.1 f.2

section Step

variable {haversineM : Haversine} {src : TripSources} {shardOf : DeviceId → Option ℕ} {shard : ℕ}
  {table : TripTable} {host : TripHost} {st st' : Handoff} {w : ℕ}

lemma Handoff.inv_boot (shard : ℕ) (table : TripTable) : (Handoff.boot table).Inv shard where
  hosts _ := TripHost.sound_boot shard table
  others _ _ := ⟨rfl, fun _ => rfl⟩
  finalized f h := by simp [boot] at h

variable {rest : List TripEvent} {point : ApplyPoint}

lemma TripHost.Sound.closes (h : host.Sound shard table)
    (hwaiting : host.apply = .waiting point rest) {f : CloseEvent × TripRow}
    (hf : f ∈ Handoff.closes table point) :
    ClosedByOwnTrip f.1 f.2 := by
  cases point with
  | closeTrip ev entry driverId =>
    obtain ⟨row, hrow, rfl⟩ := mem_map.1 hf
    obtain ⟨hrow, hrunning⟩ := mem_filter.1 hrow
    simp only [isRunning, decide_eq_true_eq] at hrunning
    obtain ⟨hstart, hbacks⟩ := h.closing ev entry (by rw [hwaiting]; rfl)
    obtain ⟨hdevice, hrowStart⟩ := hbacks.2 row hrow hrunning.1 hrunning.2
    have hordered : ev.startTime ≤ ev.endTime :=
      h.ordered ev (by rw [hwaiting]; exact mem_cons_self)
    refine ⟨hdevice, hrowStart.trans hstart, rfl, ?_⟩
    exact (hrowStart.trans hstart).trans_le hordered
  | _ => simp [Handoff.closes] at hf

/-- What a call does to the entries that are about open rows. -/
lemma backs_serve (src : TripSources) (point : ApplyPoint) {d : DeviceId} {entry : OpenTripId}
    (h : Backs table d entry) : Backs (point.serve src table).1 d entry := by
  cases point with
  | closeStale ev scope stale tripEnd => exact h.shrink (shrinks_closeTrip table _ _)
  | closeTrip ev entry driverId => exact h.shrink (shrinks_closeTrip table _ _)
  | openTrip ev scope => exact h.openTrip _
  | _ => exact h

/-- **A call takes effect.** -/
lemma TripHost.Sound.serve (h : host.Sound shard table)
    (hwaiting : host.apply = .waiting point rest)
    (hskip : ∀ ev, point = .resolveScope ev → src.registry ev.deviceId = none → ∀ entry,
      host.persister.openIds ev.deviceId = some entry → entry.startTime = ev.startTime) :
    TripHost.Sound shard (point.serve src table).1
      { host with apply := .answered point (point.serve src table).2 rest } := by
  have hkept : TripHost.Sound shard (point.serve src table).1 host :=
    h.tableKept fun d entry => backs_serve src point
  obtain ⟨engine, persister, apply⟩ := host
  obtain rfl : apply = .waiting point rest := hwaiting
  refine ⟨hkept.agrees, hkept.ordered, hkept.closing, fun d entry hopened => ?_,
    fun ev hev => ?_, hkept.backed, hkept.timely⟩
  · cases point with
    | openTrip ev scope =>
      obtain ⟨rfl, rfl⟩ := Prod.ext_iff.1 (some.inj hopened)
      exact backs_opened table ev scope
    | _ => cases hopened
  · cases point with
    | resolveScope ev' =>
      cases hreg : src.registry ev'.deviceId with
      | none =>
        simp only [ApplyState.skipping, ApplyPoint.serve, hreg, some.injEq] at hev
        exact hev ▸ hskip ev' rfl hreg
      | some scope => simp [ApplyState.skipping, ApplyPoint.serve, hreg] at hev
    | _ => cases hev

/-- **A call is refused.** -/
lemma TripHost.Sound.refuse (h : host.Sound shard table)
    (hwaiting : host.apply = .waiting point rest)
    (hgiveUp : point.refuse rest = .idle → Agrees host.engine.tripStart host.persister) :
    TripHost.Sound shard table { host with apply := point.refuse rest } := by
  obtain ⟨engine, persister, apply⟩ := host
  obtain rfl : apply = .waiting point rest := hwaiting
  cases point with
  | resolveDriver ev entry key =>
    exact ⟨h.agrees, h.ordered, h.closing, fun d entry h => (by cases h),
      fun ev h => (by cases h), h.backed, h.timely⟩
  | _ => exact TripHost.sound_idle (hgiveUp rfl) h.backed h.timely

lemma TripHost.Sound.goOn (h : host.Sound shard table) {p : TripPersister}
    (hpending : host.apply.pending = point.event :: rest)
    (hp : ∀ d entry, p.openIds d = some entry → host.persister.openIds d = some entry)
    (hshard : p.shardOf = host.persister.shardOf)
    (hclosing : ∀ ev entry, point.closing = some (ev, entry) →
      host.apply.closing = some (ev, entry)) :
    TripHost.Sound shard table ⟨host.engine, p, .waiting point rest⟩ := by
  obtain ⟨trips, htrace, hagrees⟩ := h.agrees
  rw [hpending] at htrace
  have hordered := h.ordered
  rw [hpending] at hordered
  exact ⟨⟨trips, htrace, hagrees.mono hp⟩, hordered,
    fun ev entry hpoint => h.closing ev entry (hclosing ev entry hpoint),
    fun d entry h => (by cases h), fun ev h => (by cases h),
    fun d entry hentry => hshard ▸ h.backed d entry (hp d entry hentry), h.timely⟩

/-- **An answer arrives.** -/
lemma TripHost.Sound.resume (h : host.Sound shard table) {answer : point.Answer}
    (hanswered : host.apply = .answered point answer rest) :
    let resumed := host.persister.resume shard rest point answer
    TripHost.Sound shard table { host with persister := resumed.1, apply := resumed.2 } := by
  obtain ⟨engine, p, apply⟩ := host
  obtain rfl : apply = .answered point answer rest := hanswered
  obtain ⟨trips, htrace, hagrees⟩ := h.agrees
  have hlater : Ordered rest := fun ev hev => h.ordered ev (mem_cons_of_mem _ hev)
  cases point with
  | resolveScope ev =>
    cases (answer : Option TripScope) with
    | none =>
      cases htrace with
      | opened before later =>
        exact TripHost.sound_next later (hagrees.begun (h.skipping ev rfl)) hlater h.backed h.timely
    | some scope =>
      cases hstale : p.openIds ev.deviceId with
      | none =>
        simp only [TripPersister.resume, hstale]
        exact h.goOn rfl (fun _ _ h => h) rfl fun _ _ h => by cases h
      | some stale =>
        simp only [TripPersister.resume, hstale]
        exact h.goOn rfl (fun _ _ h => h) rfl fun _ _ h => by cases h
  | reconstruct ev scope stale => exact h.goOn rfl (fun _ _ h => h) rfl fun _ _ h => by cases h
  | closeStale ev scope stale tripEnd =>
    exact h.goOn rfl (fun _ _ => openIds_of_deleteOpen) rfl fun _ _ h => by cases h
  | resolveDriver ev entry key => exact h.goOn rfl (fun _ _ h => h) rfl fun _ _ h => h
  | openTrip ev scope =>
    cases htrace with
    | opened before later =>
      refine TripHost.sound_next later (fun d t entry ht hentry => ?_) hlater
        (fun d entry hentry => ?_) h.timely
      · rcases openIds_set hentry with ⟨rfl, rfl⟩ | ⟨hd, hold⟩
        · rw [update_self] at ht
          exact some.inj ht
        · rw [update_of_ne hd] at ht
          exact hagrees d t entry ht hold
      · rcases openIds_set hentry with ⟨rfl, rfl⟩ | ⟨hd, hold⟩
        · exact ⟨h.opened _ _ rfl, shardOf_set p _ _ shard⟩
        · exact (h.backed d entry hold).imp_right (shardOf_set_of_ne p _ shard hd).trans
  | closeTrip ev entry driverId =>
    cases htrace with
    | closed before later =>
      refine TripHost.sound_next later
        ((hagrees.ended ev.deviceId).mono fun _ _ => openIds_of_deleteOpen) hlater
        (fun d entry hentry => ?_) h.timely
      have hold : p.openIds d = some entry := openIds_of_deleteOpen hentry
      have hd : d ≠ ev.deviceId := by
        rintro rfl
        have hgone : (p.delete ev.deviceId).openIds ev.deviceId = none := update_self ..
        cases hgone.symm.trans hentry
      exact (h.backed d entry hold).imp_right (shardOf_delete_of_ne p hd).trans

variable (haversineM) in
/-- **A batch is fed.** -/
lemma TripHost.Sound.batch (h : host.Sound shard table) (hidle : host.apply = .idle)
    (configFor : DeviceId → DeviceTripConfig) (records : List NormalizedRecord) :
    let fed := host.engine.feed haversineM configFor records
    TripHost.Sound shard table
      { host with engine := fed.1, apply := host.persister.next fed.2 } := by
  intro fed
  obtain ⟨trips, htrace, hagrees⟩ := h.agrees
  rw [hidle] at htrace
  cases htrace
  obtain ⟨htimely, hordered⟩ := h.timely.feed haversineM configFor records
  exact TripHost.sound_next (host.engine.feed_trace haversineM configFor records) hagrees hordered
    h.backed htimely

/-- A sweep drops an entry. -/
lemma TripHost.Sound.release (h : host.Sound shard table) (r : OrphanRow) :
    TripHost.Sound shard table { host with persister := host.persister.release r } where
  agrees := h.agrees.imp fun _ => And.imp_right fun hagrees =>
    hagrees.mono fun _ _ => openIds_of_release
  ordered := h.ordered
  closing := h.closing
  opened := h.opened
  skipping ev hev entry hentry := h.skipping ev hev entry (openIds_of_release hentry)
  backed d entry hentry := by
    rw [shardOf_release]
    exact h.backed d entry (openIds_of_release hentry)
  timely := h.timely

namespace Handoff.Inv

/-- Every worker is as it was but one. -/
lemma sound_setHost (h : st.Inv shard) (hsound : host.Sound shard st.table) (v : ℕ) :
    ((st.setHost w host).hosts v).Sound shard st.table := by
  by_cases hv : v = w
  · subst hv
    simpa [setHost] using hsound
  · simpa [setHost, hv] using h.hosts v

lemma others_setHost (h : st.Inv shard) {v : ℕ} (hv : v ≠ w) (howner : st.owner ≠ some v) :
    ((st.setHost w host).hosts v).apply = .idle ∧
      ∀ d, ((st.setHost w host).hosts v).persister.openIds d = none := by
  simpa [setHost, hv] using h.others v howner

lemma owned (h : st.Inv shard) (howner : st.owner = some w)
    (hsound : host.Sound shard st.table) : (st.setHost w host).Inv shard where
  hosts := h.sound_setHost hsound
  others v hv := h.others_setHost (fun hvw => hv (by rw [hvw]; exact howner)) hv
  finalized := h.finalized

lemma withTable (h : st.Inv shard) {table : TripTable}
    (hkept : ∀ d entry, Backs st.table d entry → Backs table d entry)
    {finalized : List (CloseEvent × TripRow)}
    (hfinalized : ∀ f ∈ finalized, ClosedByOwnTrip f.1 f.2) :
    { st with table := table, finalized := st.finalized ++ finalized }.Inv shard where
  hosts v := (h.hosts v).tableKept hkept
  others := h.others
  finalized f hf := (mem_append.1 hf).elim (h.finalized f) (hfinalized f)

variable {move : ShardMove}

/-- **A change of the owner keeps the invariant.** -/
lemma ownerStep (h : st.Inv shard) (hfits : st.Fits move)
    (hstep : st.ownerStep shardOf shard move = some st') : st'.Inv shard := by
  cases move with
  | gain w rows =>
    simp only [Handoff.ownerStep] at hstep
    split at hstep
    · rename_i hguard
      cases hstep
      obtain ⟨hidle, -⟩ := h.others w (by rw [hguard.1]; exact some_ne_none w ∘ Eq.symm)
      have hrows : ∀ r ∈ rows, r ∈ warmRows shardOf [shard] st.table := by
        rcases hguard.2 with rfl | hperm
        · exact fun r hr => absurd hr not_mem_nil
        · exact fun r hr => hperm.mem_iff.1 hr
      have hsound : TripHost.Sound shard st.table ⟨(st.hosts w).engine,
          rows.foldl TripPersister.load (st.hosts w).persister, (st.hosts w).apply⟩ := by
        rw [hidle]
        exact TripHost.sound_idle hfits
          (fun d entry hentry => openIds_load hrows (h.hosts w).backed hentry) (h.hosts w).timely
      refine ⟨h.sound_setHost hsound, fun v hv => h.others_setHost ?_ ?_, h.finalized⟩
      · exact fun hvw => hv (congrArg some hvw.symm)
      · rw [hguard.1]
        exact fun hnone => by cases hnone
    · cases hstep
  | lose =>
    simp only [Handoff.ownerStep, bind_eq_bind, bind_eq_some_iff] at hstep
    obtain ⟨w, howner, hstep⟩ := hstep
    split at hstep
    · rename_i hidle
      cases hstep
      -- every entry is one of the shard
      have hforgot : ∀ d, ((st.hosts w).persister.forgetShard shard).openIds d = none := by
        intro d
        simp only [TripPersister.forgetShard]
        split
        · rfl
        · rename_i hother
          cases hentry : (st.hosts w).persister.openIds d with
          | none => rfl
          | some entry => exact absurd ((h.hosts w).backed d entry hentry).2 hother
      have hsound : TripHost.Sound shard st.table ⟨(st.hosts w).engine,
          (st.hosts w).persister.forgetShard shard, (st.hosts w).apply⟩ := by
        rw [hidle]
        refine TripHost.sound_idle (.of_empty hforgot) (fun d entry hentry => ?_) (h.hosts w).timely
        cases (hforgot d).symm.trans hentry
      refine ⟨h.sound_setHost hsound, fun v _ => ?_, h.finalized⟩
      by_cases hv : v = w
      · subst hv
        simpa [setHost] using ⟨hidle, hforgot⟩
      · exact h.others_setHost hv (by rw [howner]; exact fun heq => hv (some.inj heq).symm)
    · cases hstep
  | restart w =>
    cases hstep
    refine ⟨h.sound_setHost (TripHost.sound_boot shard st.table), fun v hv => ?_, h.finalized⟩
    by_cases hvw : v = w
    · subst hvw
      simpa [setHost] using ⟨rfl, fun _ => rfl⟩
    · refine h.others_setHost hvw fun howner => hv ?_
      have hother : st.owner ≠ some w := by
        rw [howner]
        exact fun heq => hvw (some.inj heq)
      change (if st.owner = some w then none else st.owner) = some v
      rw [if_neg hother, howner]
  | _ => cases hstep

/-- **A step of `apply` keeps the invariant.** -/
lemma applyStep (h : st.Inv shard) (howner : st.owner = some w) (hfits : st.Fits move)
    (hstep : st.applyStep haversineM shard w move = some st') :
    st'.Inv shard := by
  cases move with
  | batch configFor records =>
    simp only [Handoff.applyStep] at hstep
    split at hstep
    · rename_i hidle
      cases hstep
      exact h.owned howner ((h.hosts w).batch haversineM hidle configFor records)
    · cases hstep
  | serve src =>
    simp only [Handoff.applyStep] at hstep
    split at hstep
    · rename_i point rest hwaiting
      cases hstep
      have hkept : ∀ d entry, Backs st.table d entry →
          Backs (point.serve src st.table).1 d entry := fun d entry => backs_serve src point
      have hserved : TripHost.Sound shard (point.serve src st.table).1
          { st.hosts w with apply := .answered point (point.serve src st.table).2 rest } :=
        (h.hosts w).serve hwaiting fun ev hpoint hreg =>
          hfits w ev rest howner (by rw [hwaiting, hpoint]) hreg
      exact (h.withTable hkept fun f hf => (h.hosts w).closes hwaiting hf).owned howner hserved
    · cases hstep
  | refuse =>
    simp only [Handoff.applyStep] at hstep
    split at hstep
    · rename_i point rest hwaiting
      cases hstep
      exact h.owned howner ((h.hosts w).refuse hwaiting (hfits w point rest howner hwaiting))
    · cases hstep
  | resume =>
    simp only [Handoff.applyStep] at hstep
    split at hstep
    · rename_i point answer rest hanswered
      cases hstep
      exact h.owned howner ((h.hosts w).resume hanswered)
    · cases hstep
  | _ => cases hstep

/-- **One step keeps the invariant.** -/
lemma step (h : st.Inv shard) (hfits : st.Fits move)
    (hstep : st.step haversineM shardOf shard move = some st') : st'.Inv shard := by
  unfold Handoff.step at hstep
  split at hstep
  · exact h.ownerStep hfits hstep
  · exact h.ownerStep hfits hstep
  · exact h.ownerStep hfits hstep
  · obtain ⟨w, howner, hstep⟩ := bind_eq_some_iff.1 hstep
    exact h.applyStep howner hfits hstep
  · obtain ⟨w, howner, hstep⟩ := bind_eq_some_iff.1 hstep
    exact h.applyStep howner hfits hstep
  · obtain ⟨w, howner, hstep⟩ := bind_eq_some_iff.1 hstep
    exact h.applyStep howner hfits hstep
  · obtain ⟨w, howner, hstep⟩ := bind_eq_some_iff.1 hstep
    exact h.applyStep howner hfits hstep
  · split at hstep
    · rename_i hshrinks
      cases hstep
      exact ⟨fun v => (h.hosts v).tableKept fun d entry hbacks => hbacks.shrink hshrinks, h.others,
        h.finalized⟩
    · cases hstep
  · rename_i w r
    cases hstep
    refine ⟨h.sound_setHost ((h.hosts w).release r), fun v hv => ?_, h.finalized⟩
    by_cases hvw : v = w
    · subst hvw
      obtain ⟨hidle, hnone⟩ := h.others v hv
      have hgone : ∀ d, ((st.hosts v).persister.release r).openIds d = none := by
        intro d
        cases hentry : ((st.hosts v).persister.release r).openIds d with
        | none => rfl
        | some entry => cases (hnone d).symm.trans (openIds_of_release hentry)
      simpa [setHost] using ⟨hidle, hgone⟩
    · exact h.others_setHost hvw hv

end Handoff.Inv

variable (haversineM shardOf shard) in
/-- **A row is closed by its own trip.**  Take any run of the workers of a shard, from any table:
batches, restarts at any point, losses and gains of the shard, calls refused, and anything else that
closes rows.  If every worker that gains the shard is on no trip for which it loads another row, and
an event that `apply` gives up leaves no entry of another trip behind, then every row that the close
branch has closed is the row of the trip that ended, and does not end before it starts. -/
theorem closed_by_own_trip (table : TripTable) (moves : List ShardMove) (st : Handoff)
    (hrun : Machine.run (Handoff.step haversineM shardOf shard) (.boot table) moves = some st)
    (hfits : Machine.RunFits (Handoff.step haversineM shardOf shard) Handoff.Fits (.boot table)
      moves) :
    ∀ f ∈ st.finalized, ClosedByOwnTrip f.1 f.2 := by
  have hstep : ∀ (now : Handoff) (move : ShardMove) (next : Handoff), now.Inv shard →
      now.Fits move → now.step haversineM shardOf shard move = some next → next.Inv shard :=
    fun _ _ _ h hfits hstep => h.step hfits hstep
  exact (Machine.run_keeps _ hstep (Handoff.inv_boot shard table) hfits hrun).finalized

end Step

/-! ## A shard that comes back -/

/-- A run of the example: shard 0, to which every device belongs. -/
def sampleHandoff (moves : List ShardMove) : Option Handoff :=
  Machine.run (Handoff.step onTheSpot (fun _ => some 0) 0) (.boot .empty) moves

/-- The owner is handed a batch. -/
def handed (records : List NormalizedRecord) : ShardMove := .batch (fun _ => defaultConfig) records

/-- A call is answered, and `apply` goes on. -/
def answered : List ShardMove := [.serve sampleSources, .resume]

/-- The answer of a `warmStart`: the row of the trip of device 1 that started at `t`. -/
def warmed (id : ℕ) (t : Ms) : WarmRow := ⟨id, 1, "tenant", "account", tripTime + t, 0⟩

/-- Worker 0 opens a trip and loses the shard.  Worker 1 knows nothing of that trip: it opens
another, for which it closes the row of the first.  Then worker 0 regains the shard, still on its
own trip, and the vehicle stops. -/
def regained : List ShardMove :=
  [.gain 0 [], handed departure] ++ answered ++ answered ++
  [.lose, .gain 1 [warmed 1 0], handed [sampleRecord 500000 true, sampleRecord 600000 true]] ++
    answered ++ answered ++ answered ++ answered ++
  [.lose, .gain 0 [warmed 2 500000], handed arrival] ++ answered

/-- **A row is closed by the trip of another worker.** -/
theorem trip_closes_other_row :
    ∃ st, sampleHandoff regained = some st ∧ ¬ ∀ f ∈ st.finalized, ClosedByOwnTrip f.1 f.2 := by
  have hrun : (sampleHandoff regained).map (fun st => st.finalized.map
      fun f => (f.1.startTime, f.2.startTime)) = some [(tripTime, tripTime + 500000)] := by
    decide +kernel
  obtain ⟨st, hst, hfinalized⟩ := map_eq_some_iff.1 hrun
  refine ⟨st, hst, fun h => ?_⟩
  have hmem : (tripTime, tripTime + 500000) ∈
      st.finalized.map fun f => (f.1.startTime, f.2.startTime) := by
    rw [hfinalized]
    exact mem_cons_self
  obtain ⟨f, hf, htimes⟩ := mem_map.1 hmem
  obtain ⟨hevent, hrow⟩ := Prod.ext_iff.1 htimes
  have hstart := (h f hf).start
  rw [show f.1.startTime = tripTime from hevent,
    show f.2.startTime = tripTime + 500000 from hrow] at hstart
  exact absurd hstart (by decide)

def oneTrip : List ShardMove :=
  [handed departure] ++ answered ++ answered ++ [handed arrival] ++ answered

/-- A worker that has just started gains the shard, and closes the trip that it opens. -/
theorem closed_by_own_trip_kept :
    ∃ st, sampleHandoff (.gain 0 [] :: oneTrip) = some st ∧ st.finalized.length = 1 ∧
      ∀ f ∈ st.finalized, ClosedByOwnTrip f.1 f.2 := by
  have hrun : (sampleHandoff (.gain 0 [] :: oneTrip)).map (fun st => st.finalized.length) =
      some 1 := by
    decide +kernel
  obtain ⟨st, hst, hlength⟩ := map_eq_some_iff.1 hrun
  refine ⟨st, hst, hlength, closed_by_own_trip onTheSpot (fun _ => some 0) 0 .empty _ st hst
    ⟨fun d t entry ht => (by cases ht), fun _ _ => Machine.RunFits.of_forall ?_⟩⟩
  -- no other move asks for anything: every device is registered
  intro move hmove now
  have hserve : now.Fits (.serve sampleSources) := fun _ _ _ _ _ hreg => by cases hreg
  simp only [oneTrip, answered, handed, mem_append, mem_cons, not_mem_nil, or_false] at hmove
  rcases hmove with (((rfl | rfl | rfl) | rfl | rfl) | rfl) | rfl | rfl
  · trivial
  · exact hserve
  · trivial
  · exact hserve
  · trivial
  · trivial
  · exact hserve
  · trivial

end Orbetra
