import Orbetra.Pipeline.OnBatch
import Orbetra.Trip.Coverage

/-!
# What reaches the rule engine

`onBatch` goes on after a failure of the live state, of the trips or of the crossings that it could
not write, and the batch is evaluated against the rules.  A failure of the caches, of the sides that
the geofences start from, or of the lookup of the geofence rules reaches the outer handler instead,
and the batch is acknowledged without that (`fed_iff`). -/

namespace Orbetra

open GeofencePersister List Eff

/-! ## The crossings of a batch -/

section Claims

variable {f : GeofenceReplies}

def Claimable (reply : ℕ → Reply) (s : GeofenceStore) (crossings : List GeofenceTransition) :
    Prop :=
  ∃ n tr, crossings[n]? = some tr ∧ (reply n = .error ∨ tr.dedupKey ∉ s.evt)

lemma claimable_cons {reply : ℕ → Reply} {s : GeofenceStore} {tr : GeofenceTransition}
    {crossings : List GeofenceTransition} : Claimable reply s (tr :: crossings) ↔
      (reply 0 = .error ∨ tr.dedupKey ∉ s.evt) ∨
        Claimable (fun n => reply (n + 1)) s crossings := by
  constructor
  · rintro ⟨n, tr', hn, hfree⟩
    cases n with
    | zero =>
      cases hn
      exact .inl hfree
    | succ n => exact .inr ⟨n, tr', hn, hfree⟩
  · rintro (hfree | ⟨n, tr', hn, hfree⟩)
    · exact ⟨0, tr, rfl, hfree⟩
    · exact ⟨n + 1, tr', hn, hfree⟩

/-- **The claims**: one of the crossings is let through if and only if one can be written. -/
lemma claims_spec (reply : ℕ → Reply) (h : ∀ n, reply n ≠ .crash)
    (crossings : List GeofenceTransition) (s : GeofenceStore) :
    ∃ answers s', (Eff.answers claimCrossing reply crossings :
        Eff GeofenceCall GeofenceStore _) s = .done answers s' ∧
      (freshOf crossings answers ≠ [] ↔ Claimable reply s crossings) := by
  induction crossings generalizing reply s with
  | nil => exact ⟨[], s, rfl, fun hne => absurd rfl hne, by rintro ⟨_, _, hn, _⟩; cases hn⟩
  | cons tr crossings ih =>
    have hreplies : ∀ n, reply (n + 1) ≠ .crash := fun n => h (n + 1)
    -- the first claim lets its crossing through, or leaves the store as it was
    have hcons : ∀ (a : Option Bool) (s₁ : GeofenceStore),
        (Eff.answer (reply 0) (claimCrossing tr) :
          Eff GeofenceCall GeofenceStore _) s = .done a s₁ →
        (a ≠ some false ∧ (reply 0 = .error ∨ tr.dedupKey ∉ s.evt) ∨
          a = some false ∧ s₁ = s ∧ reply 0 ≠ .error ∧ tr.dedupKey ∈ s.evt) →
        ∃ answers s', (Eff.answers claimCrossing reply (tr :: crossings) :
            Eff GeofenceCall GeofenceStore _) s = .done answers s' ∧
          (freshOf (tr :: crossings) answers ≠ [] ↔ Claimable reply s (tr :: crossings)) := by
      intro a s₁ hfirst hcase
      obtain ⟨answers, s', hrest, hiff⟩ := ih _ hreplies s₁
      refine ⟨a :: answers, s', (bind_done hfirst).trans (bind_done hrest), ?_⟩
      rw [claimable_cons]
      rcases hcase with ⟨ha, hfree⟩ | ⟨rfl, rfl, hreply, htaken⟩
      · have hfresh : freshOf (tr :: crossings) (a :: answers) = tr :: freshOf crossings answers :=
          filterMap_cons_some (show (if a = some false then none else some tr) = some tr from
            if_neg ha)
        rw [hfresh]
        exact ⟨fun _ => .inl hfree, fun _ => cons_ne_nil _ _⟩
      · have hfresh : freshOf (tr :: crossings) (some false :: answers) =
            freshOf crossings answers := rfl
        rw [hfresh, hiff]
        refine ⟨.inr, fun hor => hor.resolve_left ?_⟩
        rintro (herror | hfree)
        · exact hreply herror
        · exact hfree htaken
    cases hreply : reply 0 with
    | crash => exact absurd hreply (h 0)
    | error =>
      exact hcons none s (by simp only [Eff.answer, hreply]) (.inl ⟨by decide, .inl hreply⟩)
    | ok =>
      by_cases htaken : tr.dedupKey ∈ s.evt
      · refine hcons (some false) s ?_ (.inr ⟨rfl, rfl, by rw [hreply]; decide, htaken⟩)
        simp only [Eff.answer, hreply, claimCrossing, if_pos htaken]
      · refine hcons (some true) { s with evt := s.evt ++ [tr.dedupKey] } ?_
          (.inl ⟨by decide, .inr htaken⟩)
        simp only [Eff.answer, hreply, claimCrossing, if_neg htaken]

end Claims

section Persist

variable {f : GeofenceReplies} {registry : DeviceId → Option RuleScope}
  {transitions : List GeofenceTransition}

variable {c : GeofenceCall} {α : Type} {crossings : List GeofenceTransition}

lemma ask_ok {run : GeofenceStore → GeofenceStore × α} (h : f.reply c = .ok) (s : GeofenceStore) :
    ask f c run s = .done (run { s with now := s.now + f.elapsed c }).2
      (run { s with now := s.now + f.elapsed c }).1 := by
  simp only [ask, h]

lemma ask_error {run : GeofenceStore → GeofenceStore × α} (h : f.reply c = .error)
    (s : GeofenceStore) :
    ask f c run s = .threw c { s with now := s.now + f.elapsed c } := by
  simp only [ask, h]

lemma ends_ask {run : GeofenceStore → GeofenceStore × α} (h : f.reply c ≠ .crash) :
    Ends (ask f c run) := by
  intro s s' hcrash
  cases hreply : f.reply c with
  | ok => exact nomatch hcrash.symm.trans (ask_ok hreply s)
  | error => exact nomatch hcrash.symm.trans (ask_error hreply s)
  | crash => exact h hreply

/-- Some of the crossings are written: the registry and the `INSERT` are not refused, and a crossing
of a registered device can be claimed. -/
def WritesCrossing (f : GeofenceReplies) (registry : DeviceId → Option RuleScope)
    (s : GeofenceStore) (transitions : List GeofenceTransition) : Prop :=
  f.reply .scope = .ok ∧ f.reply .insert = .ok ∧
    Claimable (f.reply ∘ .claim) s (registeredOf registry transitions)

lemma mem_of_mem_freshOf {answers : List (Option Bool)} {tr : GeofenceTransition}
    (h : tr ∈ freshOf crossings answers) : tr ∈ crossings := by
  obtain ⟨⟨tr', answer⟩, hmem, heq⟩ := mem_filterMap.1 h
  dsimp only at heq
  split at heq
  · cases heq
  · cases heq
    exact (of_mem_zip hmem).1

lemma rows_eq_nil_iff (h : ∀ tr ∈ crossings, (registry tr.deviceId).isSome) :
    (crossings.filterMap fun tr =>
      (registry tr.deviceId).map (crossingRow · tr)) = [] ↔ crossings = [] := by
  constructor
  · intro hnil
    cases crossings with
    | nil => rfl
    | cons tr crossings =>
      obtain ⟨scope, hscope⟩ := Option.isSome_iff_exists.1 (h tr mem_cons_self)
      rw [filterMap_cons_some (by rw [hscope]; rfl)] at hnil
      cases hnil
  · rintro rfl
    rfl

lemma ends_closeGeofenceStates (h : ∀ c, f.reply c ≠ .crash) (n : ℕ)
    (rows : List GeofenceEventRow) :
    Ends (closeGeofenceStates f n rows) := by
  induction rows generalizing n with
  | nil => exact ends_pure ()
  | cons row rows ih => exact (ends_ask (h _)).bind fun _ => ih (n + 1)

lemma returns_release (h : ∀ c, f.reply c ≠ .crash) (claimed : List CrossingKey) :
    Returns (release f claimed) :=
  ((ends_ask (h _)).returns fun _ => returns_pure ()).when

lemma claimable_congr {reply : ℕ → Reply} {s s' : GeofenceStore} (h : s'.evt = s.evt) :
    Claimable reply s' crossings ↔ Claimable reply s crossings := by
  unfold Claimable
  rw [h]

/-- The part behind the claims: it writes, or throws, or has nothing to write. -/
lemma insertFresh_spec (h : ∀ c, f.reply c ≠ .crash) {fresh : List GeofenceTransition}
    (hregistered : ∀ tr ∈ fresh, (registry tr.deviceId).isSome) (claimed : List CrossingKey)
    (s : GeofenceStore) :
    (∃ written s', insertFresh f registry fresh claimed s = .done written s' ∧
      (written ≠ [] ↔ f.reply .insert = .ok ∧ fresh ≠ [])) ∨
    ∃ e s', insertFresh f registry fresh claimed s = .threw e s' ∧ f.reply .insert = .error := by
  unfold insertFresh
  split
  · rename_i hnil
    have hfresh := (rows_eq_nil_iff hregistered).1 hnil
    exact .inl ⟨[], s, rfl, fun hne => absurd rfl hne, fun hne => absurd hfresh hne.2⟩
  rename_i hsome
  have hfresh : fresh ≠ [] := fun hnil => hsome ((rows_eq_nil_iff hregistered).2 hnil)
  set rows := fresh.filterMap fun tr => (registry tr.deviceId).map (crossingRow · tr)
  cases hinsert : f.reply .insert with
  | crash => exact absurd hinsert (h _)
  | error =>
    obtain ⟨u, s₁, hrelease⟩ := returns_release h claimed
      { s with now := s.now + f.elapsed .insert }
    have hthrew : attempt
        (do
          writeGeofenceEvents f rows
          attempt (closeGeofenceStates f 0 rows) fun _ => pure ())
        (fun err => do
          release f claimed
          throw err) s = .threw .insert s₁ :=
      (attempt_threw (bind_threw (ask_error hinsert s))).trans (bind_done hrelease)
    rw [bind_threw hthrew]
    exact .inr ⟨_, _, rfl, rfl⟩
  | ok =>
    obtain ⟨u, s₁, hclose⟩ := ((ends_closeGeofenceStates h 0 rows).returns
      fun _ => returns_pure ()) { s with
        now := s.now + f.elapsed .insert
        events := s.events ++ rows }
    have hdone : attempt
        (do
          writeGeofenceEvents f rows
          attempt (closeGeofenceStates f 0 rows) fun _ => pure ())
        (fun err => do
          release f claimed
          throw err) s = .done u s₁ :=
      attempt_done ((bind_done (ask_ok hinsert s)).trans hclose)
    rw [bind_done hdone]
    obtain ⟨v, s₂, hsides⟩ : ∃ v s₂, saveSides f fresh s₁ = .done v s₂ :=
      returns_pipeline _ _ (fun entry _ => h _) s₁
    rw [bind_done hsides]
    exact .inl ⟨fresh, _, rfl, fun _ => ⟨rfl, hfresh⟩, fun _ => hfresh⟩

/-- **`persist`** writes a crossing, or throws, or has nothing to write. -/
lemma persist_crossings (h : ∀ c, f.reply c ≠ .crash) (s : GeofenceStore) :
    (∃ written s', persist f registry transitions s = .done written s' ∧
      (written ≠ [] ↔ WritesCrossing f registry s transitions)) ∨
    ∃ e s', persist f registry transitions s = .threw e s' ∧
      ¬ WritesCrossing f registry s transitions := by
  have hnone : ∀ {crossings : List GeofenceTransition}, crossings = [] →
      ¬ Claimable (f.reply ∘ .claim) s crossings := by
    rintro _ rfl ⟨n, tr, hn, -⟩
    cases hn
  unfold persist
  split
  · rename_i hnil
    refine .inl ⟨[], s, rfl, fun hne => absurd rfl hne, fun hwrites => ?_⟩
    exact absurd hwrites.2.2 (hnone (by rw [registeredOf, hnil, filter_nil]))
  cases hscope : f.reply .scope with
  | crash => exact absurd hscope (h _)
  | error =>
    rw [bind_threw (ask_error hscope s)]
    exact .inr ⟨_, _, rfl, fun hwrites => nomatch hscope.symm.trans hwrites.1⟩
  | ok =>
    rw [bind_done (ask_ok hscope s)]
    dsimp only
    split
    · rename_i hnil
      refine .inl ⟨[], _, rfl, fun hne => absurd rfl hne, fun hwrites => ?_⟩
      exact absurd hwrites.2.2 (hnone hnil)
    obtain ⟨claimRes, s₂, hclaims, hiff⟩ := claims_spec (f.reply ∘ .claim)
      (fun n => h _) (registeredOf registry transitions)
      { s with now := s.now + f.elapsed .scope }
    have hregistered : ∀ tr ∈ freshOf (registeredOf registry transitions) claimRes,
        (registry tr.deviceId).isSome := fun tr htr =>
      (mem_filter.1 (mem_of_mem_freshOf htr)).2
    rw [bind_done hclaims]
    rcases insertFresh_spec h hregistered
      (claimedOf (registeredOf registry transitions) claimRes) s₂ with
      ⟨written, s', hdone, hwritten⟩ | ⟨e, s', hthrew, hinsert⟩
    · refine .inl ⟨written, s', hdone, hwritten.trans ?_⟩
      rw [hiff]
      exact ⟨fun hwrites => ⟨hscope, hwrites⟩, And.right⟩
    · exact .inr ⟨e, s', hthrew, fun hwrites => nomatch hinsert.symm.trans hwrites.2.1⟩

end Persist

section Notify

variable {f : GeofenceReplies}

lemma returns_notifyRules (h : ∀ c, f.reply c ≠ .crash) (n : ℕ) (tr : GeofenceTransition)
    (rules : List GeofenceRuleDef) : Returns (notifyRules f n tr rules) := by
  induction rules with
  | nil => exact returns_pure ()
  | cons rule rules ih =>
    refine Returns.bind (Returns.when (Ends.returns ?_ fun _ => returns_pure ())) fun _ => ih
    refine Ends.bind ?_ fun claimed => ?_
    · unfold claimRule
      split
      · exact ends_ask (h _)
      · exact ends_pure true
    · unfold when
      split
      · exact ends_ask (h _)
      · exact ends_pure ()

lemma returns_notifyCrossings (h : ∀ c, f.reply c ≠ .crash)
    (rulesFor : DeviceId → List GeofenceRuleDef) (n : ℕ) (crossings : List GeofenceTransition) :
    Returns (notifyCrossings f rulesFor n crossings) := by
  induction crossings generalizing n with
  | nil => exact returns_pure ()
  | cons tr crossings ih =>
    refine (returns_notifyRules h n tr _).bind fun _ => Returns.bind ?_ fun _ => ih (n + 1)
    exact (ends_ask (h _)).returns fun _ => returns_pure ()

end Notify

/-! ## The rule step -/

namespace RuleWorker

variable {src : RuleSources} {f : RuleReplies}

lemma keeps_onStore {α : Type} (m : Eff RuleError RuleStore α) :
    Eff.Keeps RuleWorker.fed (onStore m) := by
  unfold onStore
  refine Eff.keeps_zoom ?_ m
  exact fun _ _ => rfl

lemma keeps_persistEvents (preFeed : DeviceId → Option DeviceIo) (devices : List DeviceId)
    (events : List RuleEvent) :
    Eff.Keeps RuleWorker.fed (persistEvents src f preFeed devices events) := by
  unfold persistEvents
  split
  · exact keeps_pure true
  · refine Keeps.attempt ?_ fun _ => ?_
    · exact (keeps_onStore _).bind fun _ => (keeps_onStore _).bind fun _ => keeps_pure true
    · refine Keeps.bind (keeps_modify ?_) fun _ => keeps_pure false
      exact fun _ => rfl

lemma returns_loadIoState (h : ∀ d, f (.loadIo d) ≠ .crash) (devices : List DeviceId) :
    Returns (RulePersister.loadIoState f devices) := by
  refine (returns_answers _ (fun n => ?_) devices).bind fun loaded => returns_pure _
  cases devices[n]? with
  | none => nofun
  | some d => exact h d

/-- **The rule step** feeds the batch where a device of it has rules. -/
lemma fed_ruleStep (hresolve : f .resolveRules = .ok) (hload : ∀ d, f (.loadIo d) ≠ .crash)
    (records : List NormalizedRecord) (w : RuleWorker) :
    (ruleStep src f records w).state.fed =
      if ruleDevices src records = [] then w.fed else w.fed ++ [records] := by
  have hcall : (call (f .resolveRules) RuleCall.resolveRules id :
      Eff RuleError RuleWorker Unit) w = .done () w := by
    rw [hresolve]
    rfl
  unfold ruleStep
  rw [state_attempt_pure, bind_done hcall]
  by_cases hnone : ruleDevices src records = []
  · rw [when, if_neg (not_not_intro hnone), if_pos hnone]
    rfl
  · rw [when, if_pos hnone, if_neg hnone]
    obtain ⟨ioStateFor, store, hload⟩ := returns_loadIoState hload (ruleDevices src records) w.store
    have hloaded : onStore (RulePersister.loadIoState f (ruleDevices src records)) w =
        .done ioStateFor { w with store := store } := zoom_done hload
    unfold evaluateBatch
    rw [bind_done hloaded]
    have hrest : ∀ (events : List RuleEvent) (before : RuleWorker),
        Eff.Keeps RuleWorker.fed (do
          let persistOk ← persistEvents src f before.engine.io (ruleDevices src records) events
          let after ← Eff.get
          when persistOk (onStore (RulePersister.saveIoState f
            (after.snapshots (ruleDevices src records))))) := fun events before =>
      (keeps_persistEvents _ _ _).bind fun _ => Eff.keeps_get.bind fun _ =>
        (keeps_onStore _).when
    exact hrest _ _ _

end RuleWorker

/-! ## The batch -/

/-- No call of the batch meets the end of the process. -/
structure BatchReplies.Alive (f : BatchReplies) : Prop where
  live : f.live ≠ .crash
  config : f.config ≠ .crash
  fences : f.fences ≠ .crash
  geofence : ∀ c, f.geofence.reply c ≠ .crash
  apply : ∀ n, f.trips.apply n ≠ .crash
  compensate : ∀ job, f.trips.compensate job ≠ .crash
  retry : ∀ job, f.trips.retry job ≠ .crash
  drain : ∀ job, f.trips.drain job ≠ .crash
  rules : ∀ c, f.rules c ≠ .crash

namespace Worker

variable {src : BatchSources} {f : BatchReplies}

lemma returns_compensate (h : ∀ job, f.trips.compensate job ≠ .crash) (spans : List BatchSpan) :
    Returns (compensate f.trips spans) := by
  induction spans with
  | nil => exact returns_pure ()
  | cons sp spans ih =>
    refine Eff.Returns.bind (Eff.Ends.returns ?_ fun _ => Eff.returns_modify _) fun _ => ih
    exact Eff.ends_call (h _) _ _

lemma returns_persistTrips (h : f.Alive) (events : List TripEvent) :
    Returns (persistTrips src.trips f.trips src.shard events) := by
  refine Returns.when (Ends.returns ?_ fun _ => returns_compensate h.compensate _)
  exact (ends_apply h.apply events).zoom.bind fun _ => ends_pure ()

/-- The sides that the crossings of a batch start from. -/
def insideOf (src : BatchSources) (f : BatchReplies) (records : List NormalizedRecord)
    (store : GeofenceStore) (p : GeofencePair) : Bool :=
  decide (p.1 ∈ fenceDevices src records ∧ f.geofence.reply (.inside p.1) = .ok) && store.inside p

def transitionsOf (src : BatchSources) (f : BatchReplies) (records : List NormalizedRecord)
    (w : GeofenceWorker) : List GeofenceTransition :=
  (w.engine.feed src.fencesFor (insideOf src f records w.store) (records.filter (·.fixValid))).2

/-- Nothing keeps a batch from the rule engine: a device of it has rules, the caches answer, the
sides are loaded where a device has fences, and so are the geofence rules where a crossing is
written. -/
structure ReachesRules (src : BatchSources) (f : BatchReplies) (records : List NormalizedRecord)
    (w : Worker) : Prop where
  devices : RuleWorker.ruleDevices src.rules records ≠ []
  config : f.config = .ok
  fences : f.fences = .ok
  inside : fenceDevices src records ≠ [] → f.geofence.reply .loadInside = .ok
  lookup : WritesCrossing f.geofence src.rules.registry w.fences.store
      (transitionsOf src f records w.fences) → f.geofence.reply .resolveRules = .ok

lemma loadInside_done (records : List NormalizedRecord) (store : GeofenceStore)
    (h : fenceDevices src records ≠ [] → f.geofence.reply .loadInside = .ok) :
    ∃ store', loadInside f.geofence (fenceDevices src records) store =
        .done (insideOf src f records store) store' ∧ store'.evt = store.evt := by
  unfold loadInside
  split
  · rename_i hnil
    refine ⟨store, congrArg (Outcome.done · store) ?_, rfl⟩
    funext p
    unfold insideOf
    rw [hnil]
    rfl
  · rename_i hsome
    exact ⟨_, ask_ok (h hsome) store, rfl⟩

lemma loadInside_threw (h : f.Alive) {records : List NormalizedRecord}
    (hsome : fenceDevices src records ≠ []) (hreply : f.geofence.reply .loadInside ≠ .ok)
    (store : GeofenceStore) : ∃ e store',
      loadInside f.geofence (fenceDevices src records) store = .threw e store' := by
  unfold loadInside
  rw [if_neg hsome]
  cases hcall : f.geofence.reply .loadInside with
  | ok => exact absurd hcall hreply
  | crash => exact absurd hcall (h.geofence _)
  | error => exact ⟨_, _, ask_error hcall store⟩

/-- **The geofence step** throws if and only if a crossing is written and its rules are not found.
-/
lemma fenceStep_spec (h : f.Alive) (transitions : List GeofenceTransition) (w : GeofenceWorker) :
    (∃ w', fenceStep src f transitions w = .done () w' ∧
      (WritesCrossing f.geofence src.rules.registry w.store transitions →
        f.geofence.reply .resolveRules = .ok)) ∨
    ∃ e w', fenceStep src f transitions w = .threw e w' ∧
      WritesCrossing f.geofence src.rules.registry w.store transitions ∧
      f.geofence.reply .resolveRules ≠ .ok := by
  unfold fenceStep
  by_cases hnil : transitions = []
  · refine .inl ⟨w, by rw [when, if_neg (not_not_intro hnil)]; rfl, ?_⟩
    rintro ⟨-, -, n, tr, hn, -⟩
    rw [hnil] at hn
    cases hn
  rw [when, if_pos hnil]
  rcases @persist_crossings _ src.rules.registry transitions h.geofence w.store with
    ⟨written, s', hdone, hwritten⟩ | ⟨e, s', hthrew, hnot⟩
  · have hpersist : persistCrossings src f transitions w =
        .done (some written) { w with store := s' } :=
      attempt_done (bind_done (zoom_done hdone))
    rw [bind_done hpersist]
    dsimp only
    by_cases hnone : written = []
    · refine .inl ⟨{ w with store := s' }, ?_, fun hwrites => absurd hnone (hwritten.2 hwrites)⟩
      rw [hnone]
      rfl
    · cases hlookup : f.geofence.reply .resolveRules with
      | crash => exact absurd hlookup (h.geofence _)
      | error =>
        have hthrew : onFenceStore (resolveRules f.geofence written) { w with store := s' } =
            .threw .resolveRules { w with
              store := { s' with now := s'.now + f.geofence.elapsed .resolveRules } } := by
          refine zoom_threw ?_
          rw [resolveRules, when, if_pos hnone]
          exact ask_error hlookup s'
        rw [bind_threw hthrew]
        exact .inr ⟨_, _, rfl, hwritten.1 hnone, by decide⟩
      | ok =>
        have hdone : onFenceStore (resolveRules f.geofence written) { w with store := s' } =
            .done () { w with
              store := { s' with now := s'.now + f.geofence.elapsed .resolveRules } } := by
          refine zoom_done ?_
          rw [resolveRules, when, if_pos hnone]
          exact ask_ok hlookup s'
        rw [bind_done hdone]
        obtain ⟨u, s'', hnotify⟩ := returns_notifyCrossings h.geofence src.geofenceRules 0 written
          { s' with now := s'.now + f.geofence.elapsed .resolveRules }
        exact .inl ⟨{ w with store := s'' }, zoom_done hnotify, fun _ => rfl⟩
  · have hpersist : persistCrossings src f transitions w =
        .done none { engine := w.engine.rollback transitions, store := s' } :=
      attempt_threw (bind_threw (zoom_threw hthrew))
    rw [bind_done hpersist]
    exact .inl ⟨_, rfl, fun hwrites => absurd hwrites hnot⟩

/-! ## What is fed -/

lemma keeps_onTrips {α : Type} (m : Eff CallError TripWorker α) :
    Eff.Keeps (fun w : Worker => w.rules.fed) (onTrips m) := by
  unfold onTrips
  refine Eff.keeps_within ?_ m
  exact fun _ _ => rfl

lemma state_onRules_bind (m : Eff RuleError RuleWorker Unit) (next : Eff CallError TripWorker Unit)
    (w : Worker) :
    ((onRules m >>= fun _ => onTrips next) w).state.rules.fed = (m w.rules).state.fed := by
  rw [bind_apply]
  unfold onRules within
  cases m w.rules with
  | done a rules => exact keeps_onTrips next _
  | threw e rules => rfl
  | crashed rules => rfl

lemma fed_processBatch (h : f.Alive) (hresolve : f.rules .resolveRules = .ok) (now : Ms)
    (records : List NormalizedRecord) (w : Worker) :
    (ReachesRules src f records w →
      (processBatch src f now records w).state.rules.fed = w.rules.fed ++ [records]) ∧
    (¬ ReachesRules src f records w →
      (processBatch src f now records w).state.rules.fed = w.rules.fed) := by
  unfold processBatch
  cases hconfig : f.config with
  | crash => exact absurd hconfig h.config
  | error => exact ⟨fun hreaches => (nomatch hconfig.symm.trans hreaches.config), fun _ => rfl⟩
  | ok =>
  cases hfences : f.fences with
  | crash => exact absurd hfences h.fences
  | error => exact ⟨fun hreaches => (nomatch hfences.symm.trans hreaches.fences), fun _ => rfl⟩
  | ok =>
  have hconfig' : (call Reply.ok BatchError.config id : Eff BatchError Worker Unit) w =
      .done () w := rfl
  have hfences' : (call Reply.ok BatchError.fences id : Eff BatchError Worker Unit) w =
      .done () w := rfl
  rw [bind_done hconfig', bind_done hfences']
  by_cases hinside : fenceDevices src records ≠ [] → f.geofence.reply .loadInside = .ok
  swap
  · rw [Classical.not_imp] at hinside
    obtain ⟨e, store', hthrew⟩ := loadInside_threw h hinside.1 hinside.2 w.fences.store
    have hload : onFences (onFenceStore (loadInside f.geofence (fenceDevices src records))) w =
        .threw (.geofence e) { w with fences := { w.fences with store := store' } } :=
      within_threw (zoom_threw hthrew)
    rw [bind_threw hload]
    exact ⟨fun hreaches => absurd (hreaches.inside hinside.1) hinside.2, fun _ => rfl⟩
  obtain ⟨store', hloaded, hevt⟩ := loadInside_done records w.fences.store hinside
  have hload : onFences (onFenceStore (loadInside f.geofence (fenceDevices src records))) w =
      .done (insideOf src f records w.fences.store)
        { w with fences := { w.fences with store := store' } } :=
    within_done (zoom_done hloaded)
  rw [bind_done hload]
  -- the engines, and the trips, whose failures are compensated
  set w₁ : Worker := { w with fences := { w.fences with store := store' } }
  have hfeed : onTrips (feedTrips src.haversineM src.configFor records) w₁ = .done
      (w.trips.engine.feed src.haversineM src.configFor records).2 { w₁ with
        trips := { w.trips with
          engine := (w.trips.engine.feed src.haversineM src.configFor records).1 } } := rfl
  rw [bind_done hfeed]
  set w₂ : Worker := { w₁ with
    trips := { w.trips with
      engine := (w.trips.engine.feed src.haversineM src.configFor records).1 } }
  have hcross : onFences (feedFences src (insideOf src f records w.fences.store) records) w₂ =
      .done (transitionsOf src f records w.fences) { w₂ with
        fences := { w₂.fences with
          engine := (w.fences.engine.feed src.fencesFor (insideOf src f records w.fences.store)
            (records.filter (·.fixValid))).1 } } := rfl
  rw [bind_done hcross]
  set w₃ : Worker := { w₂ with
    fences := { w₂.fences with
      engine := (w.fences.engine.feed src.fencesFor (insideOf src f records w.fences.store)
        (records.filter (·.fixValid))).1 } }
  obtain ⟨u, trips', htrips⟩ := @returns_persistTrips src _ h
    (w.trips.engine.feed src.haversineM src.configFor records).2 w₃.trips
  have hpersist : onTrips (persistTrips src.trips f.trips src.shard
      (w.trips.engine.feed src.haversineM src.configFor records).2) w₃ =
        .done u { w₃ with trips := trips' } := within_done htrips
  rw [bind_done hpersist]
  -- the geofences are where a failure reaches the outer handler
  have hwrites : WritesCrossing f.geofence src.rules.registry w₃.fences.store
      (transitionsOf src f records w.fences) ↔
        WritesCrossing f.geofence src.rules.registry w.fences.store
          (transitionsOf src f records w.fences) :=
    and_congr_right fun _ => and_congr_right fun _ => claimable_congr hevt
  rcases @fenceStep_spec src _ h (transitionsOf src f records w.fences) w₃.fences with
    ⟨fences', hdone, hlookup⟩ | ⟨e, fences', hthrew, hwritten, hlookup⟩
  · have hstep : onFences (fenceStep src f (transitionsOf src f records w.fences))
        { w₃ with trips := trips' } = .done () { w₃ with trips := trips', fences := fences' } :=
      within_done hdone
    rw [bind_done hstep, state_onRules_bind, RuleWorker.fed_ruleStep hresolve fun d => h.rules _]
    constructor
    · exact fun hreaches => if_neg hreaches.devices
    · refine fun hnot => if_pos (by_contra fun hdevices => hnot ?_)
      exact ⟨hdevices, hconfig, hfences, hinside, fun hw => hlookup (hwrites.2 hw)⟩
  · have hstep : onFences (fenceStep src f (transitionsOf src f records w.fences))
        { w₃ with trips := trips' } =
          .threw (.geofence e) { w₃ with trips := trips', fences := fences' } :=
      within_threw hthrew
    rw [bind_threw hstep]
    exact ⟨fun hreaches => absurd (hreaches.lookup (hwrites.1 hwritten)) hlookup, fun _ => rfl⟩

/-! ## The batch returns -/

section Returns

variable {rules : RuleReplies} {sources : RuleSources}

lemma ends_gate (h : ∀ c, rules c ≠ .crash) (events : List RuleEvent) :
    Ends (RulePersister.gate rules events) :=
  (returns_answers _ (fun _ => h _) _).ends.bind fun _ =>
    (returns_answers _ (fun _ => h _) _).ends.bind fun _ => ends_pure _

lemma ends_extendRuleEvents (h : ∀ c, rules c ≠ .crash) (n : ℕ) (events : List RuleEvent) :
    Ends (RulePersister.extendRuleEvents rules n events) := by
  induction events generalizing n with
  | nil => exact Eff.ends_pure ()
  | cons ev events ih => exact (Eff.ends_call (h _) _ _).bind fun _ => ih (n + 1)

lemma ends_persist (h : ∀ c, rules c ≠ .crash) (registry : DeviceId → Option RuleScope)
    (events : List RuleEvent) : Ends (RulePersister.persist rules registry events) := by
  unfold RulePersister.persist
  split
  · exact Eff.ends_pure _
  refine (Eff.ends_call (h _) _ _).bind fun _ => (ends_gate h _).bind fun gated => ?_
  refine Eff.Ends.bind (Eff.Ends.attempt ?_ fun err => ?_) fun _ => ?_
  · exact (Eff.ends_call (h _) _ _).when
  · exact (Eff.Ends.attempt (Eff.ends_call (h _) _ _) fun _ => Eff.ends_pure ()).when.bind
      fun _ => ends_throw err
  · exact ((ends_extendRuleEvents h 0 _).attempt fun _ => ends_pure ()).bind fun _ => ends_pure _

lemma ends_notifyAll (h : ∀ c, rules c ≠ .crash) (n : ℕ) (events : List RuleEvent) :
    Ends (RuleWorker.notifyAll rules n events) := by
  induction events generalizing n with
  | nil => exact ends_pure ()
  | cons ev events ih =>
    refine Eff.Ends.bind (Eff.Ends.attempt (Eff.ends_call (h _) _ _) fun _ => Eff.ends_pure ())
      fun _ => ?_
    exact Eff.Ends.bind (Eff.Ends.attempt (Eff.ends_call (h _) _ _) fun _ => Eff.ends_pure ())
      fun _ => ih (n + 1)

lemma ends_ruleStep (h : ∀ c, rules c ≠ .crash) (records : List NormalizedRecord) :
    Ends (RuleWorker.ruleStep sources rules records) := by
  refine Eff.Ends.attempt ?_ fun _ => Eff.ends_pure ()
  refine (Eff.ends_call (h _) _ _).bind fun _ => Eff.Ends.when ?_
  refine (RuleWorker.returns_loadIoState (fun d => h _) _).ends.zoom.bind fun ioStateFor => ?_
  refine Eff.ends_get.bind fun before => Eff.Ends.bind ?_ fun events => ?_
  · exact Eff.ends_get.bind fun w => (Eff.ends_modify _).bind fun _ => Eff.ends_pure _
  refine Ends.bind ?_ fun ok => ?_
  · unfold RuleWorker.persistEvents
    split
    · exact ends_pure true
    · refine Ends.attempt ?_ fun _ => (ends_modify _).bind fun _ => ends_pure false
      exact (ends_persist h _ _).zoom.bind fun _ => (ends_notifyAll h 0 _).zoom.bind
        fun _ => ends_pure true
  · refine ends_get.bind fun after => Ends.when (Ends.zoom (Returns.ends ?_))
    refine returns_pipeline _ _ fun c _ => ?_
    cases c <;> exact h _

end Returns

lemma ends_onTrips {α : Type} {m : Eff CallError TripWorker α} (h : Ends m) :
    Ends (onTrips m) := h.within

lemma ends_fenceStep (h : f.Alive) (transitions : List GeofenceTransition) :
    Ends (fenceStep src f transitions) := by
  intro w w' hcrash
  rcases @fenceStep_spec src _ h transitions w with ⟨w'', hdone, -⟩ | ⟨e, w'', hthrew, -⟩
  · exact nomatch hcrash.symm.trans hdone
  · exact nomatch hcrash.symm.trans hthrew

lemma returns_retryCompensation (h : f.Alive) (jobs : List RecomputeJob) :
    Returns (retryCompensation f.trips jobs) := by
  induction jobs with
  | nil => exact returns_pure ()
  | cons job jobs ih =>
    refine Eff.Returns.bind (Eff.Ends.returns ?_ fun _ => Eff.returns_pure ()) fun _ => ih
    exact (Eff.ends_call (h.retry _) _ _).bind fun _ => Eff.ends_modify _

lemma returns_drainLate (h : f.Alive) (now : Ms) (late : List (DeviceId × Ms)) :
    Returns (drainLate f.trips now late) := by
  induction late with
  | nil => exact returns_pure ()
  | cons entry late ih =>
    refine Eff.Returns.bind (Eff.Ends.returns ?_ fun _ => Eff.returns_modify _) fun _ => ih
    exact Eff.ends_call (h.drain _) _ _

/-- **`onBatch` returns**, whatever is refused. -/
lemma returns_onBatch {b : BatchCall} (h : b.replies.Alive) : Eff.Returns (onBatch b) := by
  refine Eff.Returns.bind ((Eff.ends_call h.live _ _).returns fun _ => Eff.returns_pure ())
    fun _ => Eff.Ends.returns ?_ fun _ => Eff.returns_pure ()
  refine (Eff.ends_call h.config _ _).bind fun _ => (Eff.ends_call h.fences _ _).bind fun _ => ?_
  refine Eff.Ends.bind ?_ fun insideFor => Eff.Ends.bind ?_ fun tripEvents => ?_
  · refine Eff.Ends.within (Eff.Ends.zoom ?_)
    unfold loadInside
    split
    · exact ends_pure _
    · exact ends_ask (h.geofence _)
  · exact ends_onTrips fun w w' hcrash => nomatch hcrash
  refine Ends.bind (Ends.within fun w w' hcrash => nomatch hcrash) fun transitions => ?_
  refine (ends_onTrips (returns_persistTrips h _).ends).bind fun _ => ?_
  refine (Ends.within (ends_fenceStep h _)).bind fun _ => ?_
  refine (Ends.within (ends_ruleStep h.rules _)).bind fun _ => ends_onTrips ?_
  refine ends_get.bind fun w => (returns_retryCompensation h _).ends.bind fun _ => ?_
  exact ends_get.bind fun w => (ends_modify _).bind fun _ => (returns_drainLate h _ _).ends

/-! ## Sequences of batches -/

def after (w : Worker) (b : BatchCall) : Worker := (onBatch b w).state

/-- Every batch of a sequence reaches the rule engine, in the state that it is handed to. -/
def AllReach : Worker → List BatchCall → Prop
  | _, [] => True
  | w, b :: batches => ReachesRules b.src b.replies b.records w ∧ AllReach (w.after b) batches

lemma fed_after {b : BatchCall} (h : b.replies.Alive)
    (hresolve : b.replies.rules .resolveRules = .ok) (w : Worker) :
    (ReachesRules b.src b.replies b.records w →
      (w.after b).rules.fed = w.rules.fed ++ [b.records]) ∧
    (¬ ReachesRules b.src b.replies b.records w → (w.after b).rules.fed = w.rules.fed) := by
  have hlive : (attempt (call b.replies.live .live id) fun _ => pure () :
      Eff BatchError Worker Unit) w = .done () w := by
    cases hreply : b.replies.live with
    | ok => rfl
    | error => rfl
    | crash => exact absurd hreply h.live
  have hstate : (w.after b) = (processBatch b.src b.replies b.now b.records w).state := by
    unfold after onBatch
    rw [bind_done hlive, state_attempt_pure]
  rw [hstate]
  exact fed_processBatch h hresolve b.now b.records w

lemma length_fed_le (w : Worker) {batches : List BatchCall}
    (halive : ∀ b ∈ batches, b.replies.Alive)
    (hresolve : ∀ b ∈ batches, b.replies.rules .resolveRules = .ok) :
    (batches.foldl after w).rules.fed.length ≤ w.rules.fed.length + batches.length := by
  induction batches generalizing w with
  | nil => exact Nat.le_refl _
  | cons b batches ih =>
    have hrest := ih (w.after b) (fun b' hb => halive b' (mem_cons_of_mem _ hb))
      fun b' hb => hresolve b' (mem_cons_of_mem _ hb)
    obtain ⟨hreaches, hnot⟩ := fed_after (halive b mem_cons_self) (hresolve b mem_cons_self) w
    have hstep : (w.after b).rules.fed.length ≤ w.rules.fed.length + 1 := by
      by_cases h : ReachesRules b.src b.replies b.records w
      · rw [hreaches h, length_append, length_singleton]
      · rw [hnot h]
        exact Nat.le_succ _
    rw [foldl_cons, length_cons]
    omega

/-- **Every record that is acknowledged reaches the rule engine**, if and only if in every batch a
device has rules, the caches answer, the sides are loaded where a device has fences, and so are the
geofence rules where a crossing is written. -/
theorem fed_iff (w : Worker) (batches : List BatchCall)
    (halive : ∀ b ∈ batches, b.replies.Alive)
    (hrules : ∀ b ∈ batches, b.replies.rules .resolveRules = .ok ∧
      ∀ d, b.replies.rules (.loadIo d) = .ok) :
    (∀ b ∈ batches, Returns (onBatch b)) ∧
    ((batches.foldl after w).rules.fed = w.rules.fed ++ batches.map (·.records) ↔
      AllReach w batches) := by
  refine ⟨fun b hb => returns_onBatch (halive b hb), ?_⟩
  induction batches generalizing w with
  | nil => exact ⟨fun _ => trivial, fun _ => (append_nil _).symm⟩
  | cons b batches ih =>
    have halive' : ∀ b' ∈ batches, b'.replies.Alive := fun b' hb => halive b' (mem_cons_of_mem _ hb)
    have hrules' := fun b' hb => hrules b' (mem_cons_of_mem b hb)
    obtain ⟨hreaches, hnot⟩ := fed_after (halive b mem_cons_self) (hrules b mem_cons_self).1 w
    have hrest := ih (w.after b) halive' hrules'
    rw [foldl_cons, map_cons]
    by_cases h : ReachesRules b.src b.replies b.records w
    · rw [hreaches h, append_assoc, singleton_append] at hrest
      exact hrest.trans ⟨fun hall => ⟨h, hall⟩, And.right⟩
    · refine ⟨fun hfed => ?_, fun hall => absurd hall.1 h⟩
      have hle := length_fed_le (w.after b) halive' fun b' hb => (hrules' b' hb).1
      rw [hnot h] at hle
      rw [hfed, length_append, length_cons, length_map] at hle
      omega

end Worker

/-! ## A button that nobody hears -/

/-- Every call is answered. -/
def allOk : BatchReplies where
  live := .ok
  config := .ok
  fences := .ok
  geofence := ⟨fun _ => .ok, fun _ => 0⟩
  trips := ⟨fun _ => .ok, fun _ => .ok, fun _ => .ok, fun _ => .ok⟩
  rules _ := .ok

/-- Device 1, with a rule for its alarm button and no fences. -/
def panicSources : BatchSources where
  haversineM _ _ _ _ := 0
  trips := sampleSources
  rules :=
    { rulesFor _ := [⟨"rule", "account", .panic, "Rule", [], 0⟩]
      registry _ := some ⟨"tenant", "account"⟩ }
  configFor _ := deviceTripConfig (fun _ => none) none
  fencesFor _ := []
  geofenceRules _ := []
  shard := 0

def freshWorker : Worker where
  trips := ⟨.new, ⟨.empty, .new, 0⟩, [], ⟨[], []⟩⟩
  fences := ⟨.new, ⟨0, fun _ => false, [], [], fun _ => none, [], []⟩⟩
  rules := .boot ⟨fun _ => emptyIo, [], fun _ => none, [], []⟩ []

/-- The button of device 1 is pressed; `configCache` is answered or not. -/
def panicBatch (config : Reply) : BatchCall where
  src := panicSources
  replies := { allOk with config := config }
  now := tripTime
  records := [{ sampleRecord 0 true with attrs := [("Alarm", .num 1)] }]
  nonempty := cons_ne_nil _ _

lemma alive_panicBatch {config : Reply} (h : config ≠ .crash) :
    (panicBatch config).replies.Alive where
  live := nofun
  config := h
  fences := nofun
  geofence _ := nofun
  apply _ := nofun
  compensate _ := nofun
  retry _ := nofun
  drain _ := nofun
  rules _ := nofun

open Worker

/-- Every cache answers, and the batch is fed. -/
theorem fed_iff_panic :
    ([panicBatch .ok].foldl after freshWorker).rules.fed = [(panicBatch .ok).records] := by
  have hiff := fed_iff freshWorker [panicBatch .ok]
    (fun b hb => mem_singleton.1 hb ▸ alive_panicBatch nofun)
    fun b hb => mem_singleton.1 hb ▸ ⟨rfl, fun _ => rfl⟩
  exact hiff.2.2 ⟨⟨by decide +kernel, rfl, rfl, fun _ => rfl, fun _ => rfl⟩, trivial⟩

/-- **The trip configuration is not found**, and the button that was pressed in the batch is not
evaluated. -/
theorem panic_not_fed :
    ¬ ∀ (w : Worker) (batches : List BatchCall), (∀ b ∈ batches, b.replies.Alive) →
      (∀ b ∈ batches, b.replies.rules .resolveRules = .ok ∧
        ∀ d, b.replies.rules (.loadIo d) = .ok) →
      (batches.foldl after w).rules.fed = w.rules.fed ++ batches.map (·.records) := by
  intro h
  have hfed := h freshWorker [panicBatch .error]
    (fun b hb => mem_singleton.1 hb ▸ alive_panicBatch nofun)
    fun b hb => mem_singleton.1 hb ▸ ⟨rfl, fun _ => rfl⟩
  have hnone : ([panicBatch .error].foldl after freshWorker).rules.fed = [] := rfl
  rw [hnone] at hfed
  cases hfed

end Orbetra
