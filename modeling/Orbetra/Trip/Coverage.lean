import Orbetra.Framework.Update
import Orbetra.Trip.Reconcile

/-!
# Every close is written, or covered by a recompute

Between batches the engine knows which trips are in progress, and the persister remembers their rows
(`Tracked`).  A failed `apply` breaks that bond for the trips whose open events it did not reach
(`unapplied`): the job that compensates for the batch ends with the batch, and a later close finds
no row.  `close_written_or_enqueued` says that nothing else is lost. -/

namespace Orbetra

open Function List Eff

/-! ## The trips in progress -/

def Phase.tripStart : Phase → Option Ms
  | .parked _ => none
  | .moving trip => some trip.startTime

def TripEngine.tripStart (e : TripEngine) (deviceId : DeviceId) : Option Ms :=
  (e.state deviceId).bind fun st => st.phase.tripStart

/-- The events of a device alternate: a trip opens where there is none, and closes where it is in
progress. -/
inductive TripTrace : (DeviceId → Option Ms) → List TripEvent → (DeviceId → Option Ms) → Prop
  | nil (trips : DeviceId → Option Ms) : TripTrace trips [] trips
  | opened {trips trips' : DeviceId → Option Ms} {ev : OpenEvent} {events : List TripEvent}
      (before : trips ev.deviceId = none)
      (rest : TripTrace (update trips ev.deviceId (some ev.startTime)) events trips') :
      TripTrace trips (.opened ev :: events) trips'
  | closed {trips trips' : DeviceId → Option Ms} {ev : CloseEvent} {events : List TripEvent}
      (before : trips ev.deviceId = some ev.startTime)
      (rest : TripTrace (update trips ev.deviceId none) events trips') :
      TripTrace trips (.closed ev :: events) trips'

namespace TripTrace

variable {trips trips' trips'' : DeviceId → Option Ms} {events later : List TripEvent}

lemma append (h : TripTrace trips events trips') (h' : TripTrace trips' later trips'') :
    TripTrace trips (events ++ later) trips'' := by
  induction h with
  | nil => exact h'
  | opened before _ ih => exact .opened before (ih h')
  | closed before _ ih => exact .closed before (ih h')

/-- A trip in progress after some events was opened by one of them, or they are not about its
device. -/
lemma opened_or_unchanged (h : TripTrace trips events trips') {d : DeviceId} {t : Ms}
    (ht : trips' d = some t) :
    (∃ ev, .opened ev ∈ events ∧ ev.deviceId = d ∧ ev.startTime = t) ∨
      trips d = some t ∧ ∀ ev ∈ events, ev.deviceId ≠ d := by
  induction h with
  | nil => exact .inr ⟨ht, by simp⟩
  | @opened trips trips' ev events before _ ih =>
    rcases ih ht with ⟨ev', hev', hd⟩ | ⟨hsame, hothers⟩
    · exact .inl ⟨ev', mem_cons_of_mem _ hev', hd⟩
    · by_cases hd : ev.deviceId = d
      · subst hd
        rw [update_self] at hsame
        exact .inl ⟨ev, mem_cons_self, rfl, Option.some.inj hsame⟩
      · rw [update_of_ne (Ne.symm hd)] at hsame
        exact .inr ⟨hsame, forall_mem_cons.2 ⟨hd, hothers⟩⟩
  | @closed trips trips' ev events before _ ih =>
    rcases ih ht with ⟨ev', hev', hd⟩ | ⟨hsame, hothers⟩
    · exact .inl ⟨ev', mem_cons_of_mem _ hev', hd⟩
    · by_cases hd : ev.deviceId = d
      · subst hd
        rw [update_self] at hsame
        cases hsame
      · rw [update_of_ne (Ne.symm hd)] at hsame
        exact .inr ⟨hsame, forall_mem_cons.2 ⟨hd, hothers⟩⟩

end TripTrace

section Engine

variable {haversineM : Haversine} {configFor : DeviceId → DeviceTripConfig}

lemma TripEngine.tripStart_eq (e : TripEngine) (d : DeviceId) (config : DeviceTripConfig) :
    e.tripStart d = ((e.state d).getD (.fresh config)).phase.tripStart := by
  unfold tripStart
  cases e.state d <;> rfl

lemma TripEngine.tripStart_update (e : TripEngine) (d : DeviceId) (st : DeviceState)
    (late : List (DeviceId × Ms)) :
    (⟨update e.state d (some st), late⟩ : TripEngine).tripStart =
      update e.tripStart d st.phase.tripStart := by
  funext d'
  by_cases hd : d' = d
  · subst hd
    simp [tripStart]
  · simp [tripStart, hd]

variable (haversineM configFor) in
lemma TripEngine.step_trace (e : TripEngine) (r : NormalizedRecord) :
    TripTrace e.tripStart (e.step haversineM configFor r).2
      (e.step haversineM configFor r).1.tripStart := by
  unfold TripEngine.step
  by_cases hskew : isClockSkewed r
  · simp only [hskew, if_true]
    exact .nil _
  simp only [hskew, Bool.false_eq_true, if_false]
  have hst := e.tripStart_eq r.deviceId (configFor r.deviceId)
  generalize (e.state r.deviceId).getD (.fresh (configFor r.deviceId)) = st at hst ⊢
  split
  · -- a late record
    have hsame : ((⟨update e.state r.deviceId (some st), e.late⟩ :
        TripEngine).markLate r.deviceId r.fixTime).tripStart = e.tripStart := by
      change (⟨update e.state r.deviceId (some st), _⟩ : TripEngine).tripStart = _
      rw [TripEngine.tripStart_update, ← hst, update_eq_self]
    rw [hsame]
    exact .nil _
  · unfold DeviceState.advance
    dsimp only
    rw [TripEngine.tripStart_update]
    generalize (if st.phase = .idle then configFor r.deviceId else st.config) = config
    have hreads := Phase.reads haversineM config st.phase r
    have hread : st.phase.read haversineM config r = st.phase.step haversineM config r := by
      simp [Phase.read, hskew]
    rw [hread] at hreads
    generalize st.phase.step haversineM config r = next at hreads ⊢
    generalize st.phase = phase at hst hreads
    have hsame : phase.tripStart = next.1.tripStart → next.2 = [] →
        TripTrace e.tripStart next.2 (update e.tripStart r.deviceId next.1.tripStart) := by
      intro h hnil
      rw [hnil, ← h, ← hst, update_eq_self]
      exact .nil _
    cases hreads with
    | skip => exact hsame rfl rfl
    | drop => exact hsame rfl rfl
    | hold => exact hsame rfl rfl
    | drive trip trip' start => exact hsame (congrArg some start.symm) rfl
    | opens cand ev device start =>
      rw [← device] at hst ⊢
      refine .opened hst ?_
      rw [start]
      exact .nil _
    | closes trip k device start =>
      rw [← device] at hst ⊢
      exact .closed (hst.trans (congrArg some start.symm)) (.nil _)

variable (haversineM configFor) in
/-- The events of a batch. -/
lemma TripEngine.feed_trace (e : TripEngine) (records : List NormalizedRecord) :
    TripTrace e.tripStart (e.feed haversineM configFor records).2
      (e.feed haversineM configFor records).1.tripStart := by
  unfold TripEngine.feed
  induction records generalizing e with
  | nil => exact .nil _
  | cons r rs ih => exact (e.step_trace haversineM configFor r).append (ih _)

end Engine

/-! ## The rows of the trips -/

/-- The ids that the persister remembers are ids of rows of their devices. -/
def Owned (table : TripTable) (p : TripPersister) : Prop :=
  ∀ d entry, p.openIds d = some entry → entry.id < table.nextId ∧
    ∀ row ∈ table.rows, row.id = entry.id → row.deviceId = d

def Tracked (table : TripTable) (p : TripPersister) (d : DeviceId) (t : Ms) : Prop :=
  ∃ entry, p.openIds d = some entry ∧ ∃ row ∈ table.rows, row.id = entry.id ∧
    row.deviceId = d ∧ row.status = .running ∧ row.startTime = t

/-- The trip is stored, with its start and its end. -/
def Written (table : TripTable) (ev : CloseEvent) : Prop :=
  ∃ row ∈ table.rows, row.deviceId = ev.deviceId ∧ row.status = .closed ∧
    row.startTime = ev.startTime ∧ row.endTime = some ev.endTime

/-- What the events of one device leave alone: the entries and the rows of the other devices, and
every closed row. -/
structure SameBut (d : DeviceId) (table : TripTable) (p : TripPersister) (table' : TripTable)
    (p' : TripPersister) : Prop where
  openIds : ∀ d', d' ≠ d → p'.openIds d' = p.openIds d'
  rows : ∀ row ∈ table.rows, row.deviceId ≠ d ∨ row.status = .closed → row ∈ table'.rows

section Rows

variable {table table' : TripTable} {p p' : TripPersister} {d : DeviceId} {t : Ms}

lemma SameBut.tracked (h : SameBut d table p table' p') {d' : DeviceId} (hd : d' ≠ d)
    (ht : Tracked table p d' t) : Tracked table' p' d' t := by
  obtain ⟨entry, hentry, row, hrow, hid, hdevice, hrest⟩ := ht
  have hkept := h.rows row hrow (.inl (hdevice.trans_ne hd))
  exact ⟨entry, (h.openIds d' hd).trans hentry, row, hkept, hid, hdevice, hrest⟩

variable {ev : CloseEvent} {row : TripRow} {p₀ : TripPersister} {table₀ : TripTable}
  {entry : OpenTripId}

lemma SameBut.written (h : SameBut d table p table' p') (hev : Written table ev) :
    Written table' ev := by
  obtain ⟨row, hrow, hdevice, hclosed, hrest⟩ := hev
  exact ⟨row, h.rows row hrow (.inr hclosed), hdevice, hclosed, hrest⟩

lemma Owned.new (table : TripTable) : Owned table .new := by
  intro d entry h
  cases h

lemma Owned.deleteOpen (h : Owned table p) (d : DeviceId) : Owned table (p.deleteOpen d) := by
  intro d' entry hentry
  by_cases hd : d' = d
  · subst hd
    simp [TripPersister.deleteOpen] at hentry
  · exact h d' entry (by simpa [TripPersister.deleteOpen, hd] using hentry)

lemma Owned.delete (h : Owned table p) (d : DeviceId) : Owned table (p.delete d) := h.deleteOpen d

lemma mem_closeTrip {id : ℕ} {c : TripClose} :
    row ∈ (closeTrip table id c).1.rows ↔ ∃ old ∈ table.rows,
      row = if isRunning id old then { c.set old with id := old.id } else old := by
  simp only [closeTrip, TripTable.rows_update, mem_map, eq_comm]

lemma mem_closeTrip_of_not {id : ℕ} (c : TripClose) (hrow : row ∈ table.rows)
    (hnot : ¬ (row.id = id ∧ row.status = .running)) : row ∈ (closeTrip table id c).1.rows :=
  mem_closeTrip.2 ⟨row, hrow, by simp [isRunning, hnot]⟩

lemma Owned.closeTrip (h : Owned table p) (id : ℕ) (c : TripClose) :
    Owned (closeTrip table id c).1 p := by
  intro d entry hentry
  obtain ⟨hlt, hrows⟩ := h d entry hentry
  refine ⟨hlt, fun row hrow hid => ?_⟩
  obtain ⟨old, hold, rfl⟩ := mem_closeTrip.1 hrow
  have hsame : ∀ b : Bool, (if b then { c.set old with id := old.id } else old).id = old.id ∧
      (if b then { c.set old with id := old.id } else old).deviceId = old.deviceId := by
    intro b
    cases b <;> exact ⟨rfl, rfl⟩
  rw [(hsame _).2]
  exact hrows old hold ((hsame _).1.symm.trans hid)

/-- Closing the remembered row of a device touches that device only. -/
lemma SameBut.closeTrip (h : SameBut d table₀ p₀ table p) (howned : Owned table p)
    (hentry : p.openIds d = some entry) (c : TripClose) :
    SameBut d table₀ p₀ (closeTrip table entry.id c).1 p := by
  refine ⟨h.openIds, fun row hrow hkeep => mem_closeTrip_of_not c (h.rows row hrow hkeep) ?_⟩
  rintro ⟨hid, hrunning⟩
  rcases hkeep with hd | hclosed
  · exact hd ((howned d entry hentry).2 row (h.rows row hrow (.inl hd)) hid)
  · rw [hclosed] at hrunning
    cases hrunning

lemma Tracked.written {driverId : Option String} (h : Tracked table p ev.deviceId ev.startTime)
    (hentry : p.openIds ev.deviceId = some entry) :
    Written (closeTrip table entry.id (ev.toClose driverId)).1 ev := by
  obtain ⟨entry', hentry', row, hrow, hid, hdevice, hrunning, hstart⟩ := h
  obtain rfl : entry = entry' := Option.some.inj (hentry.symm.trans hentry')
  refine ⟨_, mem_closeTrip.2 ⟨row, hrow, rfl⟩, ?_⟩
  rw [if_pos (by simp [isRunning, hid, hrunning])]
  exact ⟨hdevice, rfl, hstart, rfl⟩

lemma SameBut.deleteOpen (h : SameBut d table₀ p₀ table p) :
    SameBut d table₀ p₀ table (p.deleteOpen d) := by
  refine ⟨fun d' hd => ?_, h.rows⟩
  rw [← h.openIds d' hd]
  simp [TripPersister.deleteOpen, hd]

lemma SameBut.delete (h : SameBut d table₀ p₀ table p) : SameBut d table₀ p₀ table (p.delete d) :=
  ⟨h.deleteOpen.openIds, h.rows⟩

lemma opened_spec {ev : OpenEvent} (howned : Owned table p)
    (h : SameBut ev.deviceId table₀ p₀ table p) (scope : TripScope) (shard : ℕ) :
    let after := openTrip table (ev.toOpen scope)
    let p' := p.set ev.deviceId (ev.entry scope after.2) shard
    Owned after.1 p' ∧ SameBut ev.deviceId table₀ p₀ after.1 p' ∧
      Tracked after.1 p' ev.deviceId ev.startTime := by
  intro after p'
  have hnew : { (ev.toOpen scope).row with id := table.nextId } ∈ after.1.rows :=
    mem_append_right _ (mem_singleton.2 rfl)
  have hset : ∀ d', p'.openIds d' =
      if d' = ev.deviceId then some (ev.entry scope table.nextId) else p.openIds d' := by
    intro d'
    exact update_apply p.openIds ev.deviceId _ d'
  have hrows : ∀ row ∈ after.1.rows, row ∈ table.rows ∨
      row = { (ev.toOpen scope).row with id := table.nextId } := by
    intro row hrow
    exact (mem_append.1 hrow).imp_right mem_singleton.1
  refine ⟨fun d' entry hentry => ?_, ⟨fun d' hd => ?_, fun row hrow hkeep =>
    mem_append_left _ (h.rows row hrow hkeep)⟩, ?_⟩
  · rw [hset] at hentry
    split at hentry
    · rename_i hd
      cases hentry
      refine ⟨Nat.lt_succ_self _, fun row hrow hid => ?_⟩
      rcases hrows row hrow with hold | rfl
      · exact absurd hid (ne_of_lt (table.ahead row hold))
      · exact hd.symm
    · obtain ⟨hlt, hdevice⟩ := howned d' entry hentry
      refine ⟨hlt.trans (Nat.lt_succ_self _), fun row hrow hid => ?_⟩
      rcases hrows row hrow with hold | rfl
      · exact hdevice row hold hid
      · exact absurd hid (ne_of_gt hlt)
  · rw [hset, if_neg hd]
    exact h.openIds d' hd
  · exact ⟨ev.entry scope table.nextId, by rw [hset, if_pos rfl], _, hnew, rfl, rfl, rfl, rfl⟩

end Rows

/-! ## `apply` -/

section Apply

variable {src : TripSources} {reply : ℕ → Reply} {α β : Type}

/-- An assertion about the table and the memory. -/
abbrev OnStore (P : TripTable → TripPersister → Prop) (s : TripStore) : Prop :=
  P s.table s.persister

variable {P R I : TripTable → TripPersister → Prop} {Q : β → TripStore → Prop}

variable {f : α → Eff CallError TripStore β}

/-- A statement, followed by the rest of the program. -/
lemma call_bind {J : α → TripTable → TripPersister → Prop} {run : TripTable → TripTable × α}
    (hkeep : ∀ table p, P table p → I table p)
    (hrun : ∀ table p, P table p → J (run table).2 (run table).1 p)
    (hf : ∀ a, Triple (OnStore (J a)) (f a) (.ending (OnStore I) Q)) :
    Triple (OnStore P) (TripStore.call reply run >>= f) (.ending (OnStore I) Q) := by
  refine Triple.bind (I := fun a s => J a s.table s.persister) (fun s hs => ?_) hf
  unfold TripStore.call
  cases reply s.calls with
  | ok => exact hrun _ _ hs
  | error => exact hkeep _ _ hs
  | crash => exact hkeep _ _ hs

lemma query_bind {answer : α} (hkeep : ∀ table p, P table p → I table p)
    (hf : Triple (OnStore P) (f answer) (.ending (OnStore I) Q)) :
    Triple (OnStore P) (TripStore.query reply answer >>= f) (.ending (OnStore I) Q) :=
  call_bind (J := fun a table p => a = answer ∧ P table p) hkeep (fun _ _ h => ⟨rfl, h⟩)
    fun _ _ hs => hs.1 ▸ hf _ hs.2

/-- A change of the memory, followed by the rest of the program. -/
lemma remember_bind {g : TripPersister → TripPersister} {f : Unit → Eff CallError TripStore β}
    (hg : ∀ table p, P table p → R table (g p))
    (hf : Triple (OnStore R) (f ()) (.ending (OnStore I) Q)) :
    Triple (OnStore P) (TripStore.remember g >>= f) (.ending (OnStore I) Q) :=
  fun _ hs => hf _ (hg _ _ hs)

variable {table₀ : TripTable} {p₀ : TripPersister} {shard : ℕ}

/-- What the handling of an event keeps, at every point. -/
def Keeps (d : DeviceId) (table₀ : TripTable) (p₀ : TripPersister) (table : TripTable)
    (p : TripPersister) : Prop :=
  Owned table p ∧ SameBut d table₀ p₀ table p

variable {entry : OpenTripId}

/-- The remembered row of the device may be closed. -/
lemma Keeps.closeTrip {d : DeviceId} {table : TripTable} {p : TripPersister}
    (h : Keeps d table₀ p₀ table p) (hentry : p.openIds d = some entry) (c : TripClose) :
    Keeps d table₀ p₀ (closeTrip table entry.id c).1 p :=
  ⟨h.1.closeTrip _ _, h.2.closeTrip h.1 hentry c⟩

lemma closeStale_spec (ev : OpenEvent) :
    Triple (OnStore (Keeps ev.deviceId table₀ p₀)) (closeStale src reply ev)
      (.ending (OnStore (Keeps ev.deviceId table₀ p₀))
        fun _ => OnStore (Keeps ev.deviceId table₀ p₀)) := by
  refine Triple.get_bind fun s₀ => ?_
  cases hstale : s₀.persister.openIds ev.deviceId with
  | none => exact Triple.pure fun s hs => hs.1
  | some stale =>
    refine Triple.pre (P := OnStore fun table p => Keeps ev.deviceId table₀ p₀ table p ∧
      p.openIds ev.deviceId = some stale) ?_ fun s hs => ⟨hs.1, hs.2 ▸ hstale⟩
    refine query_bind (fun _ _ h => h.1) ?_
    refine call_bind (J := fun _ => Keeps ev.deviceId table₀ p₀) (fun _ _ h => h.1)
      (fun table p h => h.1.closeTrip h.2 _) fun _ _ hs => ?_
    exact ⟨hs.1.deleteOpen _, hs.2.deleteOpen⟩

variable (src reply shard) in
/-- **An open event**, applied, leaves its trip tracked; whatever fails, the other devices are left
alone. -/
lemma applyOpen_spec (ev : OpenEvent) :
    Triple (OnStore (Keeps ev.deviceId table₀ p₀)) (applyOpen src reply shard ev)
      (.ending (OnStore (Keeps ev.deviceId table₀ p₀)) fun _ => OnStore fun table p =>
        Keeps ev.deviceId table₀ p₀ table p ∧
          ((src.registry ev.deviceId).isSome → Tracked table p ev.deviceId ev.startTime)) := by
  refine query_bind (fun _ _ h => h) ?_
  cases hscope : src.registry ev.deviceId with
  | none => exact Triple.pure fun s hs => ⟨hs, by simp⟩
  | some scope =>
    refine Triple.bind (closeStale_spec ev) fun _ => ?_
    refine call_bind (J := fun id table p => ∃ before, Keeps ev.deviceId table₀ p₀ before p ∧
      (table, id) = openTrip before (ev.toOpen scope)) (fun _ _ h => h)
        (fun table p h => ⟨table, h, rfl⟩) fun id => ?_
    refine remember_bind (R := fun table p => Keeps ev.deviceId table₀ p₀ table p ∧
      Tracked table p ev.deviceId ev.startTime) ?_ (Triple.pure fun s hs => ⟨hs.1, fun _ => hs.2⟩)
    rintro table p ⟨before, hkeeps, heq⟩
    obtain ⟨rfl, rfl⟩ := Prod.ext_iff.1 heq
    obtain ⟨howned, hsame, htracked⟩ := opened_spec hkeeps.1 hkeeps.2 scope shard
    exact ⟨⟨howned, hsame⟩, htracked⟩

lemma resolveDriver_bind {ibutton : Option String} {f : Option String → Eff CallError TripStore β}
    (hkeep : ∀ table p, P table p → I table p)
    (hf : ∀ driverId, Triple (OnStore P) (f driverId) (.ending (OnStore I) Q)) :
    Triple (OnStore P) (resolveDriver src reply entry ibutton >>= f) (.ending (OnStore I) Q) := by
  refine Triple.bind (I := fun _ => OnStore P) ?_ hf
  cases ibutton with
  | none => exact Triple.pure fun _ h => h
  | some key =>
    refine Triple.attempt (E := fun _ => OnStore P) (fun s hs => ?_)
      fun _ => Triple.pure fun _ h => h
    unfold TripStore.query TripStore.call
    cases reply s.calls with
    | ok => exact hs
    | error => exact hs
    | crash => exact hkeep _ _ hs

variable (src reply) in
/-- **A close event**, applied, writes a tracked trip; whatever fails, the other devices are left
alone. -/
lemma applyClose_spec (ev : CloseEvent) :
    Triple (OnStore fun table p => Keeps ev.deviceId table₀ p₀ table p ∧
        (Tracked table₀ p₀ ev.deviceId ev.startTime → Tracked table p ev.deviceId ev.startTime))
      (applyClose src reply ev)
      (.ending (OnStore (Keeps ev.deviceId table₀ p₀)) fun _ => OnStore fun table p =>
        Keeps ev.deviceId table₀ p₀ table p ∧
          (Tracked table₀ p₀ ev.deviceId ev.startTime → Written table ev)) := by
  refine Triple.get_bind fun s₀ => ?_
  cases hentry : s₀.persister.openIds ev.deviceId with
  | none =>
    refine Triple.pure fun s hs => ⟨hs.1.1, fun h => ?_⟩
    obtain ⟨entry, hentry', -⟩ := hs.1.2 h
    rw [hs.2, hentry] at hentry'
    cases hentry'
  | some entry =>
    refine Triple.pre (P := OnStore fun table p => (Keeps ev.deviceId table₀ p₀ table p ∧
      (Tracked table₀ p₀ ev.deviceId ev.startTime → Tracked table p ev.deviceId ev.startTime)) ∧
        p.openIds ev.deviceId = some entry) ?_ fun s hs => ⟨hs.1, hs.2 ▸ hentry⟩
    refine resolveDriver_bind (fun _ _ h => h.1.1) fun driverId => ?_
    refine call_bind (J := fun _ table p => Keeps ev.deviceId table₀ p₀ table p ∧
      (Tracked table₀ p₀ ev.deviceId ev.startTime → Written table ev)) (fun _ _ h => h.1.1)
        (fun table p h => ⟨h.1.1.closeTrip h.2 _, fun ht => (h.1.2 ht).written h.2⟩) fun wrote => ?_
    refine remember_bind (R := fun table p => Keeps ev.deviceId table₀ p₀ table p ∧
      (Tracked table₀ p₀ ev.deviceId ev.startTime → Written table ev))
        (fun table p h => ⟨⟨h.1.1.delete _, h.1.2.delete⟩, h.2⟩) ?_
    exact Triple.pure fun _ h => h

lemma SameBut.refl (d : DeviceId) (table : TripTable) (p : TripPersister) :
    SameBut d table p table p :=
  ⟨fun _ _ => rfl, fun _ h _ => h⟩

structure Handles (src : TripSources) (ev : TripEvent) (s : TripStore)
    (o : Outcome CallError TripStore ApplyCounts) : Prop where
  owned : Owned o.state.table o.state.persister
  sameBut : SameBut ev.deviceId s.table s.persister o.state.table o.state.persister
  opened : ∀ counts s' e, o = .done counts s' → ev = .opened e →
    (src.registry e.deviceId).isSome → Tracked s'.table s'.persister e.deviceId e.startTime
  closed : ∀ counts s' e, o = .done counts s' → ev = .closed e →
    Tracked s.table s.persister e.deviceId e.startTime → Written s'.table e

variable (src reply shard) in
lemma applyEvent_handles (ev : TripEvent) (s : TripStore)
    (howned : Owned s.table s.persister) :
    Handles src ev s (applyEvent src reply shard ev s) := by
  have hkeeps : Keeps ev.deviceId s.table s.persister s.table s.persister := ⟨howned, .refl _ _ _⟩
  cases ev with
  | opened e =>
    have h := applyOpen_spec src reply shard e s hkeeps
    change Handles src _ s (applyOpen src reply shard e s)
    generalize applyOpen src reply shard e s = o at h ⊢
    cases o with
    | done counts s' =>
      refine ⟨h.1.1, h.1.2, ?_, ?_⟩
      · rintro _ _ _ ⟨⟩ ⟨⟩
        exact h.2
      · rintro _ _ _ ⟨⟩ ⟨⟩
    | threw e s' => exact ⟨h.1, h.2, by rintro _ _ _ ⟨⟩, by rintro _ _ _ ⟨⟩⟩
    | crashed s' => exact ⟨h.1, h.2, by rintro _ _ _ ⟨⟩, by rintro _ _ _ ⟨⟩⟩
  | closed e =>
    have h := applyClose_spec src reply e s ⟨hkeeps, id⟩
    change Handles src _ s (applyClose src reply e s)
    generalize applyClose src reply e s = o at h ⊢
    cases o with
    | done counts s' =>
      refine ⟨h.1.1, h.1.2, ?_, ?_⟩
      · rintro _ _ _ ⟨⟩ ⟨⟩
      · rintro _ _ _ ⟨⟩ ⟨⟩
        exact h.2
    | threw e s' => exact ⟨h.1, h.2, by rintro _ _ _ ⟨⟩, by rintro _ _ _ ⟨⟩⟩
    | crashed s' => exact ⟨h.1, h.2, by rintro _ _ _ ⟨⟩, by rintro _ _ _ ⟨⟩⟩

/-- The events that a call of `apply` does not carry out: from the first one that fails. -/
def unapplied (src : TripSources) (reply : ℕ → Reply) (shard : ℕ) :
    List TripEvent → TripStore → List TripEvent
  | [], _ => []
  | ev :: events, s =>
    match applyEvent src reply shard ev s with
    | .done _ s' => unapplied src reply shard events s'
    | .threw _ _ => ev :: events
    | .crashed _ => ev :: events

/-- The trips in progress are tracked, but for those whose open event was lost. -/
def Known (src : TripSources) (lost : DeviceId → Ms → Prop) (trips : DeviceId → Option Ms)
    (s : TripStore) : Prop :=
  ∀ d t, (src.registry d).isSome → trips d = some t → Tracked s.table s.persister d t ∨ lost d t

/-- What `apply` leaves behind, however its calls are answered. -/
structure Applies (src : TripSources) (lost : DeviceId → Ms → Prop) (trips' : DeviceId → Option Ms)
    (events rest : List TripEvent) (s s' : TripStore) : Prop where
  owned : Owned s'.table s'.persister
  kept : ∀ e, Written s.table e → Written s'.table e
  known : Known src (fun d t => lost d t ∨ ∃ e, .opened e ∈ rest ∧ e.deviceId = d ∧ e.startTime = t)
    trips' s'
  written : rest = [] → ∀ e, .closed e ∈ events → (src.registry e.deviceId).isSome →
    Written s'.table e ∨ lost e.deviceId e.startTime

variable (src reply shard) in
/-- **`apply`**: the trips in progress stay tracked, but for those whose open event it did not
carry out; and where it carries out everything, the tracked trips that close are written. -/
lemma apply_spec {lost : DeviceId → Ms → Prop} {trips trips' : DeviceId → Option Ms}
    {events : List TripEvent} (htrace : TripTrace trips events trips') {s : TripStore}
    (howned : Owned s.table s.persister) (hknown : Known src lost trips s) :
    Applies src lost trips' events (unapplied src reply shard events s) s
      (TripPersister.apply src reply shard events s).state := by
  induction events generalizing trips s with
  | nil =>
    cases htrace
    exact ⟨howned, fun _ h => h, fun d t hreg ht => (hknown d t hreg ht).imp_right .inl,
      fun _ _ h => by simp at h⟩
  | cons ev events ih =>
    have hev := applyEvent_handles src reply shard ev s howned
    -- where the event fails, its device loses its opens and the others keep their rows
    have hfail : ∀ s', Owned s'.table s'.persister →
        SameBut ev.deviceId s.table s.persister s'.table s'.persister →
        Applies src lost trips' (ev :: events) (ev :: events) s s' := by
      intro s' howned' hsame
      refine ⟨howned', fun _ h => hsame.written h, fun d t hreg ht => ?_, fun h => by simp at h⟩
      rcases htrace.opened_or_unchanged ht with hopened | ⟨hbefore, hothers⟩
      · exact .inr (.inr hopened)
      · have hd : d ≠ ev.deviceId := (hothers ev mem_cons_self).symm
        exact (hknown d t hreg hbefore).imp (hsame.tracked hd) .inl
    unfold TripPersister.apply unapplied
    cases hout : applyEvent src reply shard ev s with
    | threw e s' =>
      rw [bind_threw hout]
      rw [hout] at hev
      exact hfail s' hev.owned hev.sameBut
    | crashed s' =>
      rw [bind_crashed hout]
      rw [hout] at hev
      exact hfail s' hev.owned hev.sameBut
    | done counts s₁ =>
      rw [bind_done hout, state_bind_pure]
      rw [hout] at hev
      have hsame := hev.sameBut
      cases htrace with
      | @opened _ _ e _ before rest =>
        have hnow : Known src lost (update trips e.deviceId (some e.startTime)) s₁ := by
          intro d t hreg ht
          obtain ⟨rfl, rfl⟩ | ⟨hd, ht⟩ := update_some_eq_some.1 ht
          · exact .inl (hev.opened _ _ _ rfl rfl hreg)
          · exact (hknown d t hreg ht).imp_left (hsame.tracked hd)
        have h := ih rest hev.owned hnow
        refine ⟨h.owned, fun k hk => h.kept k (hsame.written hk), h.known, fun hdone k hk => ?_⟩
        exact h.written hdone k ((mem_cons.1 hk).resolve_left (by simp))
      | @closed _ _ e _ before rest =>
        have hnow : Known src lost (update trips e.deviceId none) s₁ := by
          intro d t hreg ht
          by_cases hd : d = e.deviceId
          · subst hd
            simp at ht
          · rw [update_of_ne hd] at ht
            exact (hknown d t hreg ht).imp_left (hsame.tracked hd)
        have h := ih rest hev.owned hnow
        refine ⟨h.owned, fun k hk => h.kept k (hsame.written hk), h.known, fun hdone k hk hreg => ?_⟩
        rcases mem_cons.1 hk with heq | hk
        · cases heq
          exact (hknown _ _ hreg before).imp_left fun ht =>
            h.kept _ (hev.closed _ _ _ rfl rfl ht)
        · exact h.written hdone k hk hreg

lemma apply_done_iff {events : List TripEvent} {s : TripStore} :
    (∃ counts s', TripPersister.apply src reply shard events s = .done counts s') ↔
      unapplied src reply shard events s = [] := by
  induction events generalizing s with
  | nil => exact ⟨fun _ => rfl, fun _ => ⟨_, _, rfl⟩⟩
  | cons ev events ih =>
    unfold TripPersister.apply unapplied
    cases hout : applyEvent src reply shard ev s with
    | threw e s' => simp [bind_threw hout]
    | crashed s' => simp [bind_crashed hout]
    | done counts s₁ =>
      rw [bind_done hout, ← ih (s := s₁)]
      cases hrest : TripPersister.apply src reply shard events s₁ with
      | done later s' => simp [bind_done hrest]
      | threw e s' => simp [bind_threw hrest]
      | crashed s' => simp [bind_crashed hrest]

end Apply

/-! ## The spans of a batch -/

def BatchSpan.Covers (sp : BatchSpan) (ev : TripEvent) : Prop :=
  sp.deviceId = ev.deviceId ∧ sp.first ≤ ev.startTime ∧ ev.endTime ≤ sp.last

variable {ev : TripEvent} {sp : BatchSpan}

lemma BatchSpan.Covers.widen (h : sp.Covers ev) (ev' : TripEvent) : (sp.widen ev').Covers ev := by
  obtain ⟨hdevice, hfirst, hlast⟩ := h
  refine ⟨hdevice, ?_, ?_⟩
  · dsimp only [BatchSpan.widen]
    split
    · rename_i hlt
      exact hlt.le.trans hfirst
    · exact hfirst
  · dsimp only [BatchSpan.widen]
    split
    · rename_i hlt
      exact hlast.trans hlt.le
    · exact hlast

lemma BatchSpan.widen_covers (h : sp.deviceId = ev.deviceId) : (sp.widen ev).Covers ev := by
  refine ⟨h, ?_, ?_⟩
  · dsimp only [BatchSpan.widen]
    split
    · exact le_rfl
    · exact not_lt.1 ‹_›
  · dsimp only [BatchSpan.widen]
    split
    · exact le_rfl
    · exact not_lt.1 ‹_›

lemma addToSpans_covers {spans : List BatchSpan} {ev' : TripEvent}
    (h : (∃ sp ∈ spans, sp.Covers ev') ∨ ev' = ev) :
    ∃ sp ∈ addToSpans spans ev, sp.Covers ev' := by
  unfold addToSpans
  split
  · rename_i hany
    rcases h with ⟨sp, hsp, hcovers⟩ | rfl
    · refine ⟨_, mem_map_of_mem hsp, ?_⟩
      split
      · exact hcovers.widen ev
      · exact hcovers
    · obtain ⟨sp, hsp, hdevice⟩ := any_eq_true.1 hany
      have hdevice := of_decide_eq_true hdevice
      refine ⟨_, mem_map_of_mem hsp, ?_⟩
      rw [if_pos hdevice]
      exact BatchSpan.widen_covers hdevice
  · rcases h with ⟨sp, hsp, hcovers⟩ | rfl
    · exact ⟨sp, mem_append_left _ hsp, hcovers⟩
    · exact ⟨_, mem_append_right _ (mem_singleton.2 rfl), rfl, le_rfl, le_rfl⟩

lemma batchSpans_covers {events : List TripEvent} (h : ev ∈ events) :
    ∃ sp ∈ batchSpans events, sp.Covers ev := by
  unfold batchSpans
  induction events using reverseRecOn with
  | nil => simp at h
  | append_singleton events last ih =>
    rw [foldl_append]
    refine addToSpans_covers ?_
    exact (mem_append.1 h).imp ih mem_singleton.1

lemma batchSpans_nodup (events : List TripEvent) :
    ((batchSpans events).map BatchSpan.deviceId).Nodup := by
  unfold batchSpans
  induction events using reverseRecOn with
  | nil => exact nodup_nil
  | append_singleton events last ih =>
    rw [foldl_append]
    generalize foldl addToSpans [] events = spans at ih ⊢
    change ((addToSpans spans last).map BatchSpan.deviceId).Nodup
    unfold addToSpans
    split
    · have hsame : ∀ sp : BatchSpan, (if sp.deviceId = last.deviceId then sp.widen last
          else sp).deviceId = sp.deviceId := by
        intro sp
        split <;> rfl
      rw [map_map]
      have hdevices : (BatchSpan.deviceId ∘ fun sp : BatchSpan =>
          if sp.deviceId = last.deviceId then sp.widen last else sp) = BatchSpan.deviceId :=
        funext hsame
      rwa [hdevices]
    · rename_i hnone
      rw [map_append, nodup_append]
      refine ⟨ih, nodup_singleton _, ?_⟩
      intro d hd d' hd'
      obtain ⟨sp, hsp, rfl⟩ := mem_map.1 hd
      obtain rfl := mem_singleton.1 hd'
      intro heq
      exact hnone (any_eq_true.2 ⟨sp, hsp, decide_eq_true heq⟩)

/-! ## The queue -/

def RecomputeQueue.addAll (q : RecomputeQueue) (jobs : List RecomputeJob) : RecomputeQueue :=
  jobs.foldl RecomputeQueue.add q

lemma RecomputeQueue.addAll_accepted (q : RecomputeQueue) (jobs : List RecomputeJob) :
    ∃ newer, (q.addAll jobs).accepted = q.accepted ++ newer ∧
      ((jobs.map RecomputeJob.jobId).Nodup → ∀ job ∈ jobs,
        (∀ other ∈ q.waiting, other.jobId ≠ job.jobId) → job ∈ newer) := by
  induction jobs generalizing q with
  | nil => exact ⟨[], by simp [addAll], by simp⟩
  | cons job jobs ih =>
    obtain ⟨newer, haccepted, hnewer⟩ := ih (q.add job)
    change ((q.add job).addAll jobs).accepted = _ at haccepted
    by_cases htaken : q.waiting.any (·.jobId = job.jobId)
    · have hadd : q.add job = q := by simp [add, htaken]
      rw [hadd] at haccepted hnewer
      refine ⟨newer, by simpa [addAll, hadd] using haccepted, fun hnodup other hother hfree => ?_⟩
      rcases mem_cons.1 hother with rfl | hother
      · obtain ⟨taken, hmem, heq⟩ := any_eq_true.1 htaken
        exact absurd (of_decide_eq_true heq) (hfree taken hmem)
      · exact hnewer (nodup_cons.1 hnodup).2 other hother hfree
    · have hadd : q.add job = ⟨q.waiting ++ [job], q.accepted ++ [job]⟩ := by simp [add, htaken]
      rw [hadd] at haccepted hnewer
      refine ⟨job :: newer, ?_, fun hnodup other hother hfree => ?_⟩
      · simpa [addAll, hadd] using haccepted
      · obtain ⟨hfresh, hnodup⟩ := nodup_cons.1 hnodup
        rcases mem_cons.1 hother with rfl | hother'
        · exact mem_cons_self
        · refine mem_cons_of_mem _ (hnewer hnodup other hother' fun x hx heq => ?_)
          rcases mem_append.1 hx with hx | hx
          · exact hfree x hx heq
          · rw [mem_singleton.1 hx] at heq
            exact hfresh (heq ▸ mem_map_of_mem hother')

/-! ## One batch -/

/-- A batch of records, and what the environment does with it: the calls of `apply` it refuses, and
the recompute jobs that were finished before it. -/
structure TripBatch where
  records : List NormalizedRecord
  configFor : DeviceId → DeviceTripConfig
  now : Ms
  refuses : ℕ → Bool
  finished : RecomputeJob → Bool

/-- Only calls inside `apply` are refused. -/
def TripBatch.replies (b : TripBatch) : TripReplies where
  apply n := if b.refuses n then .error else .ok
  compensate _ := .ok
  retry _ := .ok
  drain _ := .ok

section Batch

variable (haversineM : Haversine) (src : TripSources) (shard : ℕ)

namespace TripWorker

def boot (table : TripTable) (queue : RecomputeQueue) : TripWorker :=
  ⟨.new, ⟨table, .new, 0⟩, [], queue⟩

def events (w : TripWorker) (b : TripBatch) : List TripEvent :=
  (w.engine.feed haversineM b.configFor b.records).2

def unapplied (w : TripWorker) (b : TripBatch) : List TripEvent :=
  Orbetra.unapplied src b.replies.apply shard (w.events haversineM b) w.newCalls

def batch (w : TripWorker) (b : TripBatch) : TripWorker :=
  (tripBatch haversineM src b.replies shard b.now b.configFor b.records
    { w with queue := w.queue.finish b.finished }).state

def run (w : TripWorker) (batches : List TripBatch) : TripWorker :=
  batches.foldl (TripWorker.batch haversineM src shard) w

end TripWorker

variable {haversineM src shard}

variable {f : TripReplies} {w : TripWorker} {reply : ℕ → Reply}

lemma compensate_accepted (h : ∀ job, f.compensate job = .ok) (spans : List BatchSpan)
    (w : TripWorker) :
    compensate f spans w =
      .done () { w with queue := w.queue.addAll (spans.map BatchSpan.job) } := by
  induction spans generalizing w with
  | nil => rfl
  | cons sp spans ih =>
    unfold compensate
    have hjob : attempt (enqueueRecompute (f.compensate sp.job) sp.job) (fun _ =>
        modify fun w => { w with pendingCompensation := park w.pendingCompensation sp.job }) w =
          .done () { w with queue := w.queue.add sp.job } := by
      simp [attempt, enqueueRecompute, call, h]
    rw [bind_done hjob, ih]
    rfl

lemma drainLate_accepted (h : ∀ job, f.drain job = .ok) (now : Ms) (late : List (DeviceId × Ms))
    (w : TripWorker) :
    drainLate f now late w =
      .done () { w with queue := w.queue.addAll (late.map fun entry => lateJob now entry.1 entry.2) }
        := by
  induction late generalizing w with
  | nil => rfl
  | cons entry late ih =>
    unfold drainLate
    have hjob : attempt (enqueueRecompute (f.drain (lateJob now entry.1 entry.2))
        (lateJob now entry.1 entry.2)) (fun _ => modify fun w =>
          { w with engine := w.engine.markLate entry.1 entry.2 }) w =
          .done () { w with queue := w.queue.add (lateJob now entry.1 entry.2) } := by
      simp [attempt, enqueueRecompute, call, h]
    rw [bind_done hjob, ih]
    rfl

/-- The end of a batch on which nothing is parked: the late times become jobs. -/
lemma reconcileTrips_accepted (h : ∀ job, f.drain job = .ok) (now : Ms)
    (hpending : w.pendingCompensation = []) :
    ∃ jobs, reconcileTrips f now w =
      .done () { w with engine := w.engine.takeLate.1, queue := w.queue.addAll jobs } := by
  refine ⟨w.engine.late.map fun entry => lateJob now entry.1 entry.2, ?_⟩
  unfold reconcileTrips
  rw [bind_done (get_apply w), hpending]
  change drainLate f now w.engine.late { w with engine := w.engine.takeLate.1 } = _
  rw [drainLate_accepted h]
  simp [hpending]

lemma ends_call (h : ∀ n, reply n ≠ .crash) {α : Type} (run : TripTable → TripTable × α) :
    Ends (TripStore.call reply run) := by
  intro s s' hs
  unfold TripStore.call at hs
  cases hreply : reply s.calls with
  | ok => simp [hreply] at hs
  | error => simp [hreply] at hs
  | crash => exact h _ hreply

lemma ends_apply (h : ∀ n, reply n ≠ .crash) (events : List TripEvent) :
    Ends (TripPersister.apply src reply shard events) := by
  have hstale : ∀ ev, Ends (closeStale src reply ev) := by
    intro ev
    refine ends_get.bind fun s => ?_
    cases s.persister.openIds ev.deviceId with
    | none => exact ends_pure _
    | some stale =>
      exact (ends_call h _).bind fun _ => (ends_call h _).bind fun _ => ends_modify _
  have hopen : ∀ ev, Ends (applyOpen src reply shard ev) := by
    intro ev
    refine (ends_call h _).bind fun resolved => ?_
    cases resolved with
    | none => exact ends_pure _
    | some scope =>
      exact (hstale ev).bind fun _ => (ends_call h _).bind fun _ =>
        (ends_modify _).bind fun _ => ends_pure _
  have hdriver : ∀ entry ibutton, Ends (resolveDriver src reply entry ibutton) := by
    intro entry ibutton
    cases ibutton with
    | none => exact ends_pure _
    | some key => exact (ends_call h _).attempt fun _ => ends_pure _
  have hclose : ∀ ev, Ends (applyClose src reply ev) := by
    intro ev
    refine ends_get.bind fun s => ?_
    cases s.persister.openIds ev.deviceId with
    | none => exact ends_pure _
    | some entry =>
      exact (hdriver _ _).bind fun _ => (ends_call h _).bind fun _ =>
        (ends_modify _).bind fun _ => ends_pure _
  induction events with
  | nil => exact ends_pure _
  | cons ev events ih =>
    refine Ends.bind ?_ fun _ => ih.bind fun _ => ends_pure _
    cases ev with
    | opened e => exact hopen e
    | closed e => exact hclose e

variable (src shard) in
/-- **What becomes of the events of a batch**: `apply` runs, and where it fails each device of the
batch gets a job over the span of its events. -/
lemma persistTrips_accepted {f : TripReplies} (happly : ∀ n, f.apply n ≠ .crash)
    (hcompensate : ∀ job, f.compensate job = .ok) (events : List TripEvent) (w : TripWorker) :
    ∃ store jobs, persistTrips src f shard events w =
        .done () { w with store := store, queue := w.queue.addAll jobs } ∧
      store.table = (TripPersister.apply src f.apply shard events w.newCalls).state.table ∧
      store.persister = (TripPersister.apply src f.apply shard events w.newCalls).state.persister ∧
      (unapplied src f.apply shard events w.newCalls ≠ [] →
        jobs = (batchSpans events).map BatchSpan.job) := by
  by_cases hnil : events = []
  · subst hnil
    exact ⟨w.store, [], rfl, rfl, rfl, fun h => absurd rfl h⟩
  have hrun : persistTrips src f shard events w =
      attempt (applyTrips src f shard events >>= fun _ => pure ())
        (fun _ => compensate f (batchSpans events)) w := by
    simp only [persistTrips, when, ne_eq, hnil, not_false_eq_true, if_true]
  rw [hrun]
  cases hout : TripPersister.apply src f.apply shard events w.newCalls with
  | done counts s' =>
    refine ⟨s', [], ?_, rfl, rfl, fun h => absurd (apply_done_iff.1 ⟨counts, s', hout⟩) h⟩
    have happlied : applyTrips src f shard events w = .done counts { w with store := s' } :=
      zoom_done hout
    have hdone : (applyTrips src f shard events >>= fun _ => pure () :
        Eff CallError TripWorker Unit) w = .done () { w with store := s' } :=
      bind_done happlied
    exact attempt_done hdone
  | threw e s' =>
    refine ⟨s', (batchSpans events).map BatchSpan.job, ?_, rfl, rfl, fun _ => rfl⟩
    have happlied : applyTrips src f shard events w = .threw e { w with store := s' } :=
      zoom_threw hout
    have hthrew : (applyTrips src f shard events >>= fun _ => pure () :
        Eff CallError TripWorker Unit) w = .threw e { w with store := s' } :=
      bind_threw happlied
    exact (attempt_threw hthrew).trans (compensate_accepted hcompensate _ _)
  | crashed s' => exact absurd hout (ends_apply happly events _ s')

/-- **One batch.** -/
structure BatchDoes (haversineM : Haversine) (src : TripSources) (shard : ℕ) (w : TripWorker)
    (b : TripBatch) (w' : TripWorker) : Prop where
  tripStart : w'.engine.tripStart = (w.engine.feed haversineM b.configFor b.records).1.tripStart
  pending : w'.pendingCompensation = []
  applied : ∃ store, store = (TripPersister.apply src b.replies.apply shard (w.events haversineM b)
    w.newCalls).state ∧ w'.store.table = store.table ∧ w'.store.persister = store.persister
  queue : ∃ newer, w'.queue.accepted = w.queue.accepted ++ newer ∧
    (w.unapplied haversineM src shard b ≠ [] → ∀ sp ∈ batchSpans (w.events haversineM b),
      (∀ job ∈ (w.queue.finish b.finished).waiting, job.jobId ≠ sp.job.jobId) → sp.job ∈ newer)

variable (haversineM src shard) in
lemma batch_does (w : TripWorker) (b : TripBatch) (hpending : w.pendingCompensation = []) :
    BatchDoes haversineM src shard w b (w.batch haversineM src shard b) := by
  have hreplies : ∀ n, b.replies.apply n ≠ .crash := by
    intro n
    dsimp only [TripBatch.replies]
    split <;> simp
  set w₁ : TripWorker := { w with
    engine := (w.engine.feed haversineM b.configFor b.records).1
    queue := w.queue.finish b.finished } with hw₁
  obtain ⟨store, jobs, hpersist, htable, hpersister, hjobs⟩ := persistTrips_accepted src shard
    hreplies (fun _ => rfl) (w.events haversineM b) w₁
  set w₂ : TripWorker := { w₁ with store := store, queue := w₁.queue.addAll jobs } with hw₂
  obtain ⟨late, hlate⟩ := reconcileTrips_accepted (f := b.replies) (fun _ => rfl) b.now
    (w := w₂) hpending
  have hbatch : w.batch haversineM src shard b =
      { w₂ with engine := w₂.engine.takeLate.1, queue := w₂.queue.addAll late } := by
    have hrest : (persistTrips src b.replies shard (w.events haversineM b) >>= fun _ =>
        reconcileTrips b.replies b.now : Eff CallError TripWorker Unit) w₁ =
          reconcileTrips b.replies b.now w₂ := bind_done hpersist
    exact congrArg Outcome.state (hrest.trans hlate)
  rw [hbatch]
  refine ⟨rfl, hpending, ⟨_, rfl, htable, hpersister⟩, ?_⟩
  obtain ⟨newer, hnewer, htaken⟩ := w₁.queue.addAll_accepted jobs
  obtain ⟨newer', hnewer', -⟩ := w₂.queue.addAll_accepted late
  refine ⟨newer ++ newer', ?_, fun hfailed sp hsp hfree => ?_⟩
  · change (w₂.queue.addAll late).accepted = _
    rw [hnewer']
    change (w₁.queue.addAll jobs).accepted ++ newer' = _
    rw [hnewer, append_assoc]
    rfl
  · have hmem : sp.job ∈ jobs := by
      rw [hjobs hfailed]
      exact mem_map_of_mem hsp
    refine mem_append_left _ (htaken ?_ _ hmem hfree)
    have hids : (jobs.map RecomputeJob.jobId).map Prod.fst =
        (batchSpans (w.events haversineM b)).map BatchSpan.deviceId := by
      rw [hjobs hfailed, map_map, map_map]
      rfl
    exact Nodup.of_map Prod.fst (hids ▸ batchSpans_nodup _)

/-! ## Runs -/

variable (haversineM src shard) in
/-- In some batch, `apply` failed before it carried out the open event of this trip. -/
def LostOpen (w : TripWorker) (batches : List TripBatch) (d : DeviceId) (t : Ms) : Prop :=
  ∃ early b late, batches = early ++ b :: late ∧
    ∃ e, .opened e ∈ (w.run haversineM src shard early).unapplied haversineM src shard b ∧
      e.deviceId = d ∧ e.startTime = t

/-- What holds between batches. -/
structure Between (src : TripSources) (lost : DeviceId → Ms → Prop) (w : TripWorker) : Prop where
  pending : w.pendingCompensation = []
  owned : Owned w.store.table w.store.persister
  known : Known src lost w.engine.tripStart w.store

lemma run_append (w : TripWorker) (batches later : List TripBatch) :
    w.run haversineM src shard (batches ++ later) =
      (w.run haversineM src shard batches).run haversineM src shard later :=
  foldl_append

variable {lost : DeviceId → Ms → Prop}

lemma Between.applies (h : Between src lost w) (b : TripBatch) :
    Applies src lost (w.batch haversineM src shard b).engine.tripStart (w.events haversineM b)
      (w.unapplied haversineM src shard b) w.store (w.batch haversineM src shard b).store := by
  have hdoes := batch_does haversineM src shard w b h.pending
  obtain ⟨store, rfl, htable, hpersister⟩ := hdoes.applied
  have hspec := apply_spec src b.replies.apply shard
    (w.engine.feed_trace haversineM b.configFor b.records) (s := w.newCalls) h.owned h.known
  rw [hdoes.tripStart]
  constructor
  · rw [htable, hpersister]
    exact hspec.owned
  · rw [htable]
    exact hspec.kept
  · intro d t hreg ht
    rw [htable, hpersister]
    exact hspec.known d t hreg ht
  · rw [htable]
    exact hspec.written

variable (haversineM shard) in
lemma Between.batch {lost : DeviceId → Ms → Prop} {w : TripWorker} (h : Between src lost w)
    (b : TripBatch) :
    Between src (fun d t => lost d t ∨ ∃ e, .opened e ∈ w.unapplied haversineM src shard b ∧
      e.deviceId = d ∧ e.startTime = t) (w.batch haversineM src shard b) :=
  ⟨(batch_does haversineM src shard w b h.pending).pending, (h.applies b).owned, (h.applies b).known⟩

variable (haversineM src shard) in
lemma between_run (table : TripTable) (queue : RecomputeQueue) (batches : List TripBatch) :
    Between src (LostOpen haversineM src shard (.boot table queue) batches)
      ((TripWorker.boot table queue).run haversineM src shard batches) := by
  induction batches using reverseRecOn with
  | nil =>
    refine ⟨rfl, .new table, fun d t _ ht => ?_⟩
    cases ht
  | append_singleton batches b ih =>
    rw [run_append]
    obtain ⟨hpending, howned, hknown⟩ := ih.batch haversineM shard b
    refine ⟨hpending, howned, fun d t hreg ht => (hknown d t hreg ht).imp_right ?_⟩
    rintro (⟨early, b', late, rfl, hlost⟩ | hlost)
    · exact ⟨early, b', late ++ [b], by simp, hlost⟩
    · exact ⟨batches, b, [], rfl, hlost⟩

def RecomputeJob.CoversTrip (job : RecomputeJob) (k : CloseEvent) : Prop :=
  job.deviceId = k.deviceId ∧ job.fromTime ≤ k.startTime ∧ k.endTime ≤ job.toTime

instance (job : RecomputeJob) (k : CloseEvent) : Decidable (job.CoversTrip k) :=
  inferInstanceAs (Decidable (_ ∧ _))

def WrittenOrEnqueued (w w' : TripWorker) (k : CloseEvent) : Prop :=
  Written w'.store.table k ∨ ∃ newer, w'.queue.accepted = w.queue.accepted ++ newer ∧
    ∃ job ∈ newer, job.CoversTrip k

lemma WrittenOrEnqueued.run {w' : TripWorker} {k : CloseEvent} (h : WrittenOrEnqueued w w' k)
    (hbetween : Between src lost w') (batches : List TripBatch) :
    WrittenOrEnqueued w (w'.run haversineM src shard batches) k := by
  induction batches generalizing w' lost with
  | nil => exact h
  | cons b batches ih =>
    refine ih ?_ (hbetween.batch haversineM shard b)
    rcases h with hwritten | ⟨newer, haccepted, job, hjob, hcovers⟩
    · exact .inl ((hbetween.applies b).kept k hwritten)
    · obtain ⟨more, hmore, -⟩ := (batch_does haversineM src shard w' b hbetween.pending).queue
      refine .inr ⟨newer ++ more, ?_, job, mem_append_left _ hjob, hcovers⟩
      rw [hmore, haccepted, append_assoc]

variable (haversineM src shard) in
/-- Where the batch of a close is applied, the open event of its trip was not lost before; where it
is not, no waiting job has taken the id of the job that compensates for it. -/
def Recoverable (w : TripWorker) (before : List TripBatch) (b : TripBatch) (k : CloseEvent) :
    Prop :=
  let now := w.run haversineM src shard before
  if now.unapplied haversineM src shard b = [] then
    ¬ LostOpen haversineM src shard w before k.deviceId k.startTime
  else ∀ sp ∈ batchSpans (now.events haversineM b), sp.deviceId = k.deviceId →
    ∀ job ∈ (now.queue.finish b.finished).waiting, job.jobId ≠ sp.job.jobId

variable (haversineM src shard) in
/-- **Every close is written, or covered by a recompute, unless its open was lost.**  Take any run
of batches, each with any of the calls inside `apply` refused, and a close event of a registered
device.  If the batch of the close is applied and an earlier failure of `apply` did not reach the
open event of the trip, a closed row is written with the start and the end of the trip; if it is not
applied and the id of the compensating job is free, a job enqueued from then on covers the trip. -/
theorem close_written_or_enqueued (table : TripTable) (queue : RecomputeQueue)
    (before : List TripBatch) (b : TripBatch) (after : List TripBatch) (k : CloseEvent)
    (hk : .closed k ∈ ((TripWorker.boot table queue).run haversineM src shard before).events
      haversineM b)
    (hreg : (src.registry k.deviceId).isSome)
    (hrecoverable : Recoverable haversineM src shard (.boot table queue) before b k) :
    WrittenOrEnqueued ((TripWorker.boot table queue).run haversineM src shard before)
      ((TripWorker.boot table queue).run haversineM src shard (before ++ b :: after)) k := by
  rw [run_append]
  have hbetween := between_run haversineM src shard table queue before
  unfold Recoverable at hrecoverable
  generalize (TripWorker.boot table queue).run haversineM src shard before = w at *
  refine WrittenOrEnqueued.run ?_ (hbetween.batch haversineM shard b) after
  dsimp only at hrecoverable
  split at hrecoverable
  · rename_i hdone
    exact .inl (((hbetween.applies b).written hdone k hk hreg).resolve_right hrecoverable)
  · rename_i hfailed
    obtain ⟨newer, haccepted, htaken⟩ := (batch_does haversineM src shard w b
      hbetween.pending).queue
    obtain ⟨sp, hsp, hdevice, hfirst, hlast⟩ := batchSpans_covers hk
    refine .inr ⟨newer, haccepted, sp.job,
      htaken hfailed sp hsp (hrecoverable sp hsp hdevice), hdevice, hfirst, ?_⟩
    exact hlast.trans (le_add_of_nonneg_right (by decide))

end Batch

/-! ## An open event that was lost -/

/-- A batch of the example, with the calls of `apply` that are refused. -/
def sampleBatch (records : List NormalizedRecord) (refuses : ℕ → Bool) : TripBatch where
  records := records
  configFor _ := defaultConfig
  now := tripTime + 4000000
  refuses := refuses
  finished _ := false

/-- The trip that the batches of the example close. -/
def sampleClose : CloseEvent where
  deviceId := 1
  startTime := tripTime
  endTime := tripTime + 2000000
  startLat := 54
  startLon := 25
  endLat := 54
  endLon := 25
  distanceM := 0
  distanceSource := .gps
  maxSpeed := 50
  idleS := 0
  ibutton := none

/-- The vehicle sets off. -/
def departure : List NormalizedRecord := [sampleRecord 0 true, sampleRecord 100000 true]

/-- It stops for long enough. -/
def arrival : List NormalizedRecord := [sampleRecord 2000000 false, sampleRecord 2200000 false]

/-- A run of the example, from an empty table. -/
def sampleRun (batches : List TripBatch) : TripWorker :=
  (TripWorker.boot .empty ⟨[], []⟩).run onTheSpot sampleSources 0 batches

/-- **A close is lost with its open.**  The first call of the batch that opens the trip is refused.
The job that compensates ends 15 minutes after the departure; the close arrives later, finds no row,
and asks for nothing. -/
theorem close_lost_with_open :
    .closed sampleClose ∈ (sampleRun [sampleBatch departure fun _ => true]).events onTheSpot
        (sampleBatch arrival fun _ => false) ∧
      (sampleSources.registry sampleClose.deviceId).isSome ∧
      ¬ WrittenOrEnqueued (sampleRun [sampleBatch departure fun _ => true])
        (sampleRun [sampleBatch departure fun _ => true, sampleBatch arrival fun _ => false])
        sampleClose := by
  refine ⟨by decide +kernel, by decide, ?_⟩
  have hqueue : (sampleRun [sampleBatch departure fun _ => true,
      sampleBatch arrival fun _ => false]).queue.accepted =
        (sampleRun [sampleBatch departure fun _ => true]).queue.accepted := by
    decide +kernel
  have htable : (sampleRun [sampleBatch departure fun _ => true,
      sampleBatch arrival fun _ => false]).store.table.rows = [] := by
    decide +kernel
  rintro (⟨row, hrow, -⟩ | ⟨newer, haccepted, job, hjob, -⟩)
  · rw [htable] at hrow
    simp at hrow
  · rw [hqueue] at haccepted
    rw [self_eq_append_right.1 haccepted] at hjob
    simp at hjob

/-- The first call of the batch that closes the trip is refused: the job that compensates for it
covers the trip. -/
theorem close_written_or_enqueued_refused :
    WrittenOrEnqueued (sampleRun [sampleBatch departure fun _ => false])
      (sampleRun [sampleBatch departure fun _ => false, sampleBatch arrival fun _ => true])
      sampleClose := by
  refine close_written_or_enqueued onTheSpot sampleSources 0 .empty ⟨[], []⟩
    [sampleBatch departure fun _ => false] (sampleBatch arrival fun _ => true) [] sampleClose
    (by decide +kernel) (by decide) ?_
  have hfailed : ((TripWorker.boot .empty ⟨[], []⟩).run onTheSpot sampleSources 0
      [sampleBatch departure fun _ => false]).unapplied onTheSpot sampleSources 0
        (sampleBatch arrival fun _ => true) ≠ [] := by
    decide +kernel
  unfold Recoverable
  rw [if_neg hfailed]
  decide +kernel

end Orbetra
