import Orbetra.Framework.FirstWins
import Orbetra.Framework.Machine
import Orbetra.Rules.Replay

/-!
# Fuel theft inside one parked period

Any number of processes feed the records of a device in turn, in batches cut anywhere, with the
rules as they are at each batch; a process that starts anew loads the IO state that was saved, and
one that has fed the device before keeps what it has in memory.  No call fails.

The baseline of a fuel theft is the level of a record after which the ignition was never on, as long
as the baseline that an engine holds is the saved one, and no record with the ignition on is fed
while the device has no rules and a baseline is saved (`fuel_theft_parked`).  Without rules the
engine does not see the drive (`theft_across_drive`). -/

namespace Orbetra

open List Eff Machine

/-! ## Levels and baselines -/

def levelOf : FuelUnit → NormalizedRecord → Option ℚ
  | .pct => fuelPctOf
  | .liters => fuelLitersOf

/-- The baseline that is kept for a unit. -/
def DeviceIo.base (io : DeviceIo) : FuelUnit → Option ℚ
  | .pct => io.fuelBasePct
  | .liters => io.fuelBaseL

/-- The drop that a rule asks for. -/
def RuleDef.threshold (rule : RuleDef) : FuelUnit → ℚ
  | .pct => Rules.num (rule.config.lookup "dropPct") 15
  | .liters => Rules.num (rule.config.lookup "dropLiters") 0

def Parked (d : DeviceId) (unit : FuelUnit) (b : ℚ) (history : List NormalizedRecord) : Prop :=
  ∃ since ∈ history.tails, (∃ r ∈ since.head?, r.deviceId = d ∧ levelOf unit r = some b) ∧
    ∀ r ∈ since, r.deviceId = d → r.ignition ≠ some true

instance (d : DeviceId) (unit : FuelUnit) (b : ℚ) (history : List NormalizedRecord) :
    Decidable (Parked d unit b history) :=
  inferInstanceAs (Decidable (∃ since ∈ history.tails, _))

section Parked

variable {d : DeviceId} {unit : FuelUnit} {b : ℚ} {history records : List NormalizedRecord}
  {r : NormalizedRecord}

lemma Parked.append (h : Parked d unit b history)
    (hoff : ∀ r ∈ records, r.deviceId = d → r.ignition ≠ some true) :
    Parked d unit b (history ++ records) := by
  obtain ⟨since, hsince, ⟨r, hr, hlevel⟩, hoff'⟩ := h
  obtain ⟨before, hbefore⟩ := (mem_tails since history).mp hsince
  refine ⟨since ++ records, (mem_tails _ _).mpr ⟨before, ?_⟩, ⟨r, ?_, hlevel⟩, fun x hx hd => ?_⟩
  · rw [← append_assoc, hbefore]
  · cases since with
    | nil => cases hr
    | cons first rest => exact hr
  · rcases mem_append.mp hx with hx | hx
    · exact hoff' x hx hd
    · exact hoff x hx hd

lemma parked_last (hd : r.deviceId = d) (hlevel : levelOf unit r = some b)
    (hoff : r.ignition ≠ some true) : Parked d unit b (history ++ [r]) := by
  refine ⟨[r], (mem_tails _ _).mpr ⟨history, rfl⟩, ⟨r, rfl, hd, hlevel⟩, fun x hx _ => ?_⟩
  rw [mem_singleton.mp hx]
  exact hoff

end Parked

/-! ## The events -/

section Events

variable {rule : RuleDef} {r : NormalizedRecord} {prev : DeviceIo} {ev : RuleEvent}

lemma confirmedDrop_eq_some {base last level : Option ℚ} {threshold : ℚ} {drop : ℚ × ℚ}
    (h : confirmedDrop base last level threshold = some drop) :
    base = some drop.1 ∧ level = some drop.2 ∧ threshold ≤ drop.1 - drop.2 := by
  unfold confirmedDrop at h
  split at h
  · split at h
    · rename_i hdrop
      cases h
      exact ⟨rfl, rfl, hdrop.1⟩
    · cases h
  · cases h

lemma fuelTheft_eq_some (h : fuelTheft rule r prev (currentIo r) = some ev) :
    r.ignition = some false ∧ ∃ unit base level,
      ev = emit rule r (.fuelTheft rule.name unit base level (base - level)) ∧
        prev.base unit = some base ∧ levelOf unit r = some level ∧
        rule.threshold unit ≤ base - level := by
  unfold fuelTheft at h
  split at h
  · cases h
  rename_i hoff
  have hignition : r.ignition = some false := by
    by_contra hnot
    exact hoff (Or.inr hnot)
  refine ⟨hignition, ?_⟩
  dsimp only at h
  split at h
  · rename_i drop hdrop
    obtain ⟨hbase, hlevel, hthreshold⟩ := confirmedDrop_eq_some hdrop
    exact ⟨.pct, drop.1, drop.2, (Option.some.inj h).symm, hbase, hlevel, hthreshold⟩
  · split at h
    · cases h
    · rename_i v hv
      split at h
      · obtain ⟨drop, hdrop, rfl⟩ := Option.map_eq_some_iff.mp h
        obtain ⟨hbase, hlevel, hthreshold⟩ := confirmedDrop_eq_some hdrop
        refine ⟨.liters, drop.1, drop.2, rfl, hbase, hlevel, ?_⟩
        unfold RuleDef.threshold
        rw [hv]
        exact hthreshold
      · cases h

/-- Every event is a rule's, about the record. -/
lemma evaluate_eq_some {cur : DeviceIo} {fired : FiredLevel}
    (h : evaluate rule r prev cur fired = some ev) : ∃ payload, ev = emit rule r payload := by
  unfold evaluate at h
  cases hkind : rule.kind with
  | overspeed =>
    simp only [hkind] at h
    split at h
    · cases h
    obtain ⟨speed, -, hspeed⟩ := Option.bind_eq_some_iff.mp h
    split at hspeed
    · exact ⟨_, (Option.some.inj hspeed).symm⟩
    · cases hspeed
  | lowBattery =>
    simp only [hkind] at h
    split at h
    · cases h
    obtain ⟨volts, -, hvolts⟩ := Option.bind_eq_some_iff.mp h
    split at hvolts
    · exact ⟨_, (Option.some.inj hvolts).symm⟩
    · cases hvolts
  | ignition =>
    simp only [hkind] at h
    obtain ⟨on, -, rfl⟩ := Option.map_eq_some_iff.mp h
    exact ⟨_, rfl⟩
  | dinChange =>
    simp only [hkind] at h
    obtain ⟨on, -, rfl⟩ := Option.map_eq_some_iff.mp h
    exact ⟨_, rfl⟩
  | powerCut =>
    simp only [hkind] at h
    split at h
    · exact ⟨_, (Option.some.inj h).symm⟩
    · cases h
  | panic =>
    simp only [hkind] at h
    split at h
    · exact ⟨_, (Option.some.inj h).symm⟩
    · cases h
  | fuelTheft =>
    simp only [hkind] at h
    unfold fuelTheft at h
    split at h
    · cases h
    dsimp only at h
    split at h
    · exact ⟨_, (Option.some.inj h).symm⟩
    · split at h
      · cases h
      · split at h
        · obtain ⟨drop, -, rfl⟩ := Option.map_eq_some_iff.mp h
          exact ⟨_, rfl⟩
        · cases h

lemma mem_evaluateAll {cur : DeviceIo} {rules : List RuleDef} {fired : FiredLevel}
    (h : ev ∈ (evaluateAll r prev cur rules fired).2) :
    ∃ rule ∈ rules, ∃ fired', evaluate rule r prev cur fired' = some ev := by
  induction rules generalizing fired with
  | nil => cases h
  | cons rule rules ih =>
    unfold evaluateAll at h
    split at h
    · obtain ⟨rule', hrule', h'⟩ := ih h
      exact ⟨rule', mem_cons_of_mem _ hrule', h'⟩
    · rename_i ev' hev'
      rcases mem_cons.mp h with rfl | h
      · exact ⟨rule, mem_cons_self, fired, hev'⟩
      · obtain ⟨rule', hrule', h'⟩ := ih h
        exact ⟨rule', mem_cons_of_mem _ hrule', h'⟩

end Events

/-! ## One record -/

def FixOrdered (d : DeviceId) (records : List NormalizedRecord) : Prop :=
  (records.filter fun r => r.deviceId = d).Pairwise (·.fixTime ≤ ·.fixTime)

/-- The newest fix time that the engine keeps is that of a record. -/
def Seen (d : DeviceId) (history : List NormalizedRecord) (e : RuleEngine) : Prop :=
  ∀ t, e.lastSeen d = some t → ∃ r ∈ history, r.deviceId = d ∧ r.fixTime = t

/-- The baselines that the engine measures from are those of the parked period. -/
def Founded (d : DeviceId) (ioStateFor : DeviceId → Option DeviceIo)
    (history : List NormalizedRecord) (e : RuleEngine) : Prop :=
  ∀ unit b, (e.previousIo ioStateFor d).base unit = some b → Parked d unit b history

section Record

variable {d : DeviceId} {rulesFor : DeviceId → List RuleDef}
  {ioStateFor : DeviceId → Option DeviceIo} {history : List NormalizedRecord} {r : NormalizedRecord}
  {e : RuleEngine × FiredLevel}

lemma base_carryForward {prev : DeviceIo} {unit : FuelUnit} {b : ℚ}
    (h : (carryForward prev (currentIo r)).base unit = some b) :
    r.ignition ≠ some true ∧ (prev.base unit = some b ∨ levelOf unit r = some b) := by
  have hbaseline : ∀ level held : Option ℚ, baseline prev (currentIo r) level held = some b →
      r.ignition ≠ some true ∧ (held = some b ∨ level = some b) := by
    intro level held hheld
    unfold baseline at hheld
    dsimp only at hheld
    split at hheld
    · cases hheld
    rename_i hoff
    refine ⟨hoff, ?_⟩
    cases held with
    | some held => exact Or.inl hheld
    | none =>
      split at hheld
      · exact Or.inr hheld
      · cases hheld
  cases unit with
  | pct => exact hbaseline _ _ h
  | liters => exact hbaseline _ _ h

lemma fixOrdered_append {records : List NormalizedRecord} (h : FixOrdered d (history ++ records)) :
    ∀ x ∈ history, x.deviceId = d → ∀ r ∈ records, r.deviceId = d → x.fixTime ≤ r.fixTime := by
  intro x hx hxd r hr hrd
  unfold FixOrdered at h
  rw [filter_append] at h
  exact (pairwise_append.mp h).2.2 x (mem_filter.mpr ⟨hx, decide_eq_true hxd⟩) r
    (mem_filter.mpr ⟨hr, decide_eq_true hrd⟩)

lemma outOfOrder_eq_false (hseen : Seen d history e.1) (horder : FixOrdered d (history ++ [r]))
    (hd : r.deviceId = d) : outOfOrder e.1.lastSeen r = false := by
  unfold outOfOrder
  cases hlast : e.1.lastSeen r.deviceId with
  | none => simp
  | some t =>
    obtain ⟨x, hx, hxd, rfl⟩ := hseen t (hd ▸ hlast)
    have hle := fixOrdered_append horder x hx hxd r (mem_singleton_self r) hd
    simp [hle]

lemma seen_step (hseen : Seen d history e.1) :
    Seen d (history ++ [r]) (RuleEngine.step rulesFor ioStateFor e r).1.1 := by
  have hkept : ∀ e' : RuleEngine, e'.lastSeen d = e.1.lastSeen d → Seen d (history ++ [r]) e' := by
    intro e' heq t ht
    obtain ⟨x, hx, hxd, hxt⟩ := hseen t (heq ▸ ht)
    exact ⟨x, mem_append_left _ hx, hxd, hxt⟩
  have hmarked : ∀ e' : RuleEngine, e'.lastSeen = markSeen e.1.lastSeen r →
      Seen d (history ++ [r]) e' := by
    intro e' heq
    unfold markSeen at heq
    split at heq
    · exact hkept e' (congrFun heq d)
    by_cases hd : r.deviceId = d
    · subst hd
      intro t ht
      rw [heq, Function.update_self] at ht
      exact ⟨r, mem_append_right _ (mem_singleton_self r), rfl, Option.some.inj ht⟩
    · refine hkept e' ?_
      rw [heq, Function.update_of_ne (Ne.symm hd)]
  unfold RuleEngine.step
  split
  · exact hkept _ rfl
  dsimp only
  split
  · exact hmarked _ rfl
  · exact hmarked _ rfl

/-- **One record** of any device. -/
lemma founded_step (hrules : rulesFor d ≠ []) (hseen : Seen d history e.1)
    (horder : FixOrdered d (history ++ [r])) (h : Founded d ioStateFor history e.1) :
    Founded d ioStateFor (history ++ [r]) (RuleEngine.step rulesFor ioStateFor e r).1.1 := by
  by_cases hd : r.deviceId = d
  · subst hd
    have hstep : (RuleEngine.step rulesFor ioStateFor e r).1.1.io r.deviceId =
        some (carryForward (e.1.previousIo ioStateFor r.deviceId) (currentIo r)) := by
      unfold RuleEngine.step
      rw [if_neg (by simp [outOfOrder_eq_false hseen horder rfl]), if_neg hrules]
      exact Function.update_self ..
    intro unit b hb
    unfold RuleEngine.previousIo at hb
    rw [hstep] at hb
    obtain ⟨hoff, hheld | hlevel⟩ := base_carryForward hb
    · refine (h unit b hheld).append fun x hx _ => ?_
      rw [mem_singleton.mp hx]
      exact hoff
    · exact parked_last rfl hlevel hoff
  · have hio : (RuleEngine.step rulesFor ioStateFor e r).1.1.io d = e.1.io d := by
      unfold RuleEngine.step
      split
      · rfl
      dsimp only
      split
      · rfl
      · exact Function.update_of_ne (Ne.symm hd) ..
    intro unit b hb
    unfold RuleEngine.previousIo at hb
    rw [hio] at hb
    refine (h unit b hb).append fun x hx hxd => ?_
    rw [mem_singleton.mp hx] at hxd
    exact absurd hxd hd

end Record

/-! ## One batch -/

section Batch

variable {d : DeviceId} {rulesFor : DeviceId → List RuleDef}
  {ioStateFor : DeviceId → Option DeviceIo} {history records : List NormalizedRecord}
  {e : RuleEngine × FiredLevel}

abbrev fedTo (rulesFor : DeviceId → List RuleDef) (ioStateFor : DeviceId → Option DeviceIo)
    (e : RuleEngine × FiredLevel) (records : List NormalizedRecord) : RuleEngine :=
  (Transducer.stateAfter (RuleEngine.step rulesFor ioStateFor) e records).1

lemma seen_fedTo (hseen : Seen d history e.1) :
    Seen d (history ++ records) (fedTo rulesFor ioStateFor e records) := by
  induction records generalizing e history with
  | nil =>
    rw [append_nil]
    exact hseen
  | cons r records ih =>
    rw [append_cons]
    exact ih (seen_step hseen)

lemma FixOrdered.of_append (h : FixOrdered d (history ++ records)) : FixOrdered d history := by
  unfold FixOrdered at h
  rw [filter_append] at h
  exact (pairwise_append.mp h).1

lemma founded_fedTo (hrules : rulesFor d ≠ []) (hseen : Seen d history e.1)
    (horder : FixOrdered d (history ++ records)) (h : Founded d ioStateFor history e.1) :
    Founded d ioStateFor (history ++ records) (fedTo rulesFor ioStateFor e records) := by
  induction records generalizing e history with
  | nil =>
    rw [append_nil]
    exact h
  | cons r records ih =>
    rw [append_cons] at horder ⊢
    exact ih (seen_step hseen) horder (founded_step hrules hseen horder.of_append h)

/-- A theft that is measured inside one parked period: from the level of a record since which the
ignition was never on, to the record's own level, and by what the rule asks for. -/
def ParkedTheft (rules : List RuleDef) (history : List NormalizedRecord) (r : NormalizedRecord)
    (ev : RuleEvent) : Prop :=
  r.ignition = some false ∧ ∃ rule ∈ rules, ∃ unit base level,
    ev = emit rule r (.fuelTheft rule.name unit base level (base - level)) ∧
      Parked r.deviceId unit base history ∧ levelOf unit r = some level ∧
      rule.threshold unit ≤ base - level

lemma parkedTheft_of_mem {fired : FiredLevel} {engine : RuleEngine} (hseen : Seen d history engine)
    (horder : FixOrdered d (history ++ records))
    (h : (∃ r ∈ records, r.deviceId = d) → rulesFor d ≠ [] → Founded d ioStateFor history engine)
    {ev : RuleEvent}
    (hev : ev ∈ Transducer.outputs (RuleEngine.step rulesFor ioStateFor) (engine, fired) records)
    (hd : ev.deviceId = d) (hkind : ev.kind = .fuelTheft) :
    ∃ before r after, records = before ++ r :: after ∧ r.deviceId = d ∧
      ParkedTheft (rulesFor d) (history ++ before) r ev := by
  obtain ⟨before, r, after, rfl, hmem⟩ := Transducer.mem_outputs_iff.mp hev
  rw [← append_assoc] at horder
  have hfounded : r.deviceId = d → rulesFor d ≠ [] → Founded d ioStateFor (history ++ before)
      (fedTo rulesFor ioStateFor (engine, fired) before) := fun hrd hrules =>
    founded_fedTo (e := (engine, fired)) hrules hseen horder.of_append
      (h ⟨r, mem_append_right _ mem_cons_self, hrd⟩ hrules)
  unfold fedTo at hfounded
  generalize Transducer.stateAfter _ _ before = e at hmem hfounded
  unfold RuleEngine.step at hmem
  split at hmem
  · cases hmem
  dsimp only at hmem
  split at hmem
  · cases hmem
  rename_i hrules
  obtain ⟨rule, hrule, fired', hevaluate⟩ := mem_evaluateAll hmem
  obtain ⟨payload, rfl⟩ := evaluate_eq_some hevaluate
  have hrd : r.deviceId = d := hd
  subst hrd
  refine ⟨before, r, after, rfl, rfl, ?_⟩
  have hfuel : rule.kind = .fuelTheft := hkind
  unfold evaluate at hevaluate
  simp only [hfuel] at hevaluate
  obtain ⟨hoff, unit, base, level, heq, hbase, hlevel, hthreshold⟩ := fuelTheft_eq_some hevaluate
  exact ⟨hoff, rule, hrule, unit, base, level, heq, hfounded rfl hrules unit base hbase, hlevel,
    hthreshold⟩

end Batch

/-! ## The rule step, where no call fails -/

/-- No call fails. -/
abbrev unfailing : RuleReplies := killing fun _ => false

def loadedIo (s : RuleStore) (devices : List DeviceId) : DeviceId → Option DeviceIo := fun d =>
  ((devices.map fun d => (d, s.iostate d)).lookup d).bind fun io =>
    if io = emptyIo then none else some io

namespace RulePersister

variable {registry : DeviceId → Option RuleScope}

/-- The program ends, and leaves the IO states as they are. -/
abbrev KeepsIo {α : Type} (m : Eff RuleError RuleStore α) : Prop :=
  ∀ io, Triple (fun s => s.iostate = io) m (.orKilled (fun _ => False) fun _ s => s.iostate = io)

lemma loadIoState_answered (devices : List DeviceId) (s : RuleStore) :
    loadIoState unfailing devices s = .done (loadedIo s devices) s := by
  have hok : ∀ n : ℕ, ((devices[n]?).map (unfailing ∘ .loadIo)).getD .ok = Reply.ok := by
    intro n
    cases devices[n]? <;> rfl
  unfold loadIoState
  rw [bind_done (answers_ok hok devices s), accum_read]
  have hloaded : ((devices.map fun d => (d, s.iostate d)).map some).filterMap id =
      devices.map fun d => (d, s.iostate d) := by
    simp [filterMap_map]
  show Outcome.done _ _ = Outcome.done _ _
  rw [hloaded]
  rfl

lemma keepsIo_gate (events : List RuleEvent) : KeepsIo (gate unfailing events) := by
  have hseen : ∀ ev s, (setNx (RuleEvent.seenKey ev) s).1.iostate = s.iostate := by
    intro ev s
    unfold setNx
    split <;> rfl
  have hcooldown : ∀ ev s, (cooldownScript ev s).1.iostate = s.iostate := by
    intro ev s
    unfold cooldownScript
    split
    · split <;> rfl
    · rfl
  have hanswers : ∀ {κ α : Type} {run : κ → RuleStore → RuleStore × α} {reply : ℕ → Reply},
      (∀ c s, (run c s).1.iostate = s.iostate) → (∀ n, reply n = .ok) → ∀ cs,
      KeepsIo (answers run reply cs) := by
    intro κ α run reply hrun hreply cs io s hs
    rw [answers_ok hreply]
    exact (accum_keeps RuleStore.iostate hrun cs s).trans hs
  intro io
  refine Triple.bind (I := fun _ s => s.iostate = io) (hanswers hseen (fun _ => rfl) _ io)
    fun seenRes => ?_
  refine Triple.bind (I := fun _ s => s.iostate = io) (hanswers hcooldown (fun _ => rfl) _ io)
    fun cdRes => ?_
  exact fun s hs => hs

lemma keepsIo_extendRuleEvents (n : ℕ) (events : List RuleEvent) :
    KeepsIo (extendRuleEvents unfailing n events) := by
  intro io
  induction events generalizing n with
  | nil => exact fun s hs => hs
  | cons ev events ih =>
    refine Triple.bind (I := fun _ s => s.iostate = io)
      (triple_call (fun s hs => ?_) fun s hs hk => ?_) fun _ => ih (n + 1)
    · split <;> exact hs
    · obtain ⟨c, hc⟩ := hk
      cases hc

lemma keepsIo_persist (events : List RuleEvent) : KeepsIo (persist unfailing registry events) := by
  intro io
  have hkilled : ∀ s : RuleStore, s.iostate = io → (∃ _ : RuleCall, false = true) → False :=
    fun _ _ ⟨_, h⟩ => by cases h
  unfold persist
  split
  · exact fun s hs => hs
  refine Triple.bind (I := fun _ s => s.iostate = io) (triple_call (fun s hs => hs) hkilled)
    fun _ => ?_
  refine Triple.bind (I := fun _ s => s.iostate = io) (keepsIo_gate _ io) fun gated => ?_
  refine Triple.bind (I := fun _ s => s.iostate = io) (triple_attempt ?_) fun _ => ?_
  · exact Triple.when (fun _ => triple_call (fun s hs => hs) hkilled) fun _ s hs => hs
  refine Triple.bind (I := fun _ s => s.iostate = io)
    (triple_attempt (keepsIo_extendRuleEvents 0 _ io)) fun _ => ?_
  exact fun s hs => hs

lemma hdelFields_hsetFields (io stored : DeviceIo) : hdelFields io (hsetFields io stored) = io := by
  have hkeep : ∀ {α : Type} (field stored : Option α), keepIf field (field.or stored) = field := by
    intro α field stored
    cases field <;> rfl
  unfold hdelFields hsetFields
  simp only [hkeep]

lemma saveIoState_answered {snapshots : List (DeviceId × DeviceIo)}
    (hnodup : (snapshots.map (·.1)).Nodup) (s : RuleStore) :
    ∃ s', saveIoState unfailing snapshots s = .done () s' ∧
      ∀ d, s'.iostate d = (snapshots.lookup d).getD (s.iostate d) := by
  set commands := snapshots.flatMap fun snap =>
    [SaveCommand.hset snap.1 snap.2, .hdel snap.1 snap.2] with hcommands
  have hok : ∀ c ∈ commands, SaveCommand.reply unfailing c = .ok := by
    intro c _
    cases c <;> rfl
  have hsurvives : Survives (SaveCommand.reply unfailing) commands := by
    intro c hc
    rw [hok c hc]
    exact nofun
  refine ⟨_, pipeline_done hsurvives s, ?_⟩
  rw [effective_eq_self hok, hcommands]
  clear hsurvives hok hcommands commands
  induction snapshots generalizing s with
  | nil => exact fun d => rfl
  | cons snap snapshots ih =>
    intro d
    obtain ⟨hnotMem, hrest⟩ := nodup_cons.mp hnodup
    rw [flatMap_cons, foldl_append, ih hrest]
    by_cases hd : d = snap.1
    · subst hd
      have hnone : snapshots.lookup snap.1 = none := by
        rw [lookup_eq_none_iff]
        intro other hother
        rw [bne_iff_ne]
        intro heq
        refine hnotMem ?_
        show snap.1 ∈ _
        rw [heq]
        exact mem_map_of_mem hother
      have hlookup : (snap :: snapshots).lookup snap.1 = some snap.2 := by
        rw [lookup_cons, beq_self_eq_true]
      rw [hnone, hlookup]
      have hset : (SaveCommand.run s (.hset snap.1 snap.2)).iostate snap.1 =
          hsetFields snap.2 (s.iostate snap.1) := Function.update_self ..
      have hdel : (SaveCommand.run (SaveCommand.run s (.hset snap.1 snap.2))
          (.hdel snap.1 snap.2)).iostate snap.1 = hdelFields snap.2 _ := Function.update_self ..
      show (SaveCommand.run (SaveCommand.run s (.hset snap.1 snap.2))
          (.hdel snap.1 snap.2)).iostate snap.1 = snap.2
      rw [hdel, hset]
      exact hdelFields_hsetFields snap.2 _
    · have hlookup : (snap :: snapshots).lookup d = snapshots.lookup d := by
        rw [lookup_cons, show (d == snap.1) = false from beq_false_of_ne hd]
      rw [hlookup]
      congr 1
      show Function.update (Function.update s.iostate snap.1 _) snap.1 _ d = _
      rw [Function.update_of_ne hd, Function.update_of_ne hd]

end RulePersister

namespace RuleWorker

open RulePersister

variable {src : RuleSources}

lemma onStore_keeps {α : Type} {m : Eff RuleError RuleStore α} (h : KeepsIo m) (e : RuleEngine)
    (io : DeviceId → DeviceIo) :
    Triple (fun w => w.engine = e ∧ w.store.iostate = io) (onStore m)
      (.orKilled (fun _ => False) fun _ w => w.engine = e ∧ w.store.iostate = io) :=
  onStore_spec (C := fun _ => False) (h io) e

lemma keepsIo_notifyAll (n : ℕ) (events : List RuleEvent) :
    KeepsIo (notifyAll unfailing n events) := by
  intro io
  have hkilled : ∀ s : RuleStore, s.iostate = io → (∃ _ : RuleCall, false = true) → False :=
    fun _ _ ⟨_, h⟩ => by cases h
  induction events generalizing n with
  | nil => exact fun s hs => hs
  | cons ev events ih =>
    refine Triple.bind (I := fun _ s => s.iostate = io)
      (triple_attempt (triple_call (fun s hs => hs) hkilled)) fun _ => ?_
    exact Triple.bind (I := fun _ s => s.iostate = io)
      (triple_attempt (triple_call (fun s hs => hs) hkilled)) fun _ => ih (n + 1)

variable (src) in
lemma persistEvents_answered (preFeed : DeviceId → Option DeviceIo) (devices : List DeviceId)
    (events : List RuleEvent) (e : RuleEngine) (io : DeviceId → DeviceIo) :
    Triple (fun w => w.engine = e ∧ w.store.iostate = io)
      (persistEvents src unfailing preFeed devices events)
      (.orKilled (fun _ => False) fun persistOk w =>
        persistOk = true ∧ w.engine = e ∧ w.store.iostate = io) := by
  unfold persistEvents
  split
  · exact fun w hw => ⟨rfl, hw⟩
  refine triple_attempt (Triple.bind (I := fun _ w => w.engine = e ∧ w.store.iostate = io)
    (onStore_keeps (keepsIo_persist events) e io) fun persisted => ?_)
  refine Triple.bind (I := fun _ w => w.engine = e ∧ w.store.iostate = io)
    (onStore_keeps (keepsIo_notifyAll 0 persisted) e io) fun _ => ?_
  exact fun w hw => ⟨rfl, hw⟩

/-- What a batch leaves: the memory of the engine, and the IO states of the devices that have rules.
-/
structure Fed (src : RuleSources) (records : List NormalizedRecord) (w w' : RuleWorker) : Prop where
  engine : w'.engine = (w.engine.feed src.rulesFor
    (loadedIo w.store (ruleDevices src records)) records).1
  iostate : ∀ d, w'.store.iostate d =
    if d ∈ ruleDevices src records then (w'.engine.io d).getD (w.store.iostate d)
    else w.store.iostate d

lemma lookup_snapshots (w : RuleWorker) (devices : List DeviceId) (d : DeviceId) :
    (w.snapshots devices).lookup d = if d ∈ devices then w.engine.io d else none := by
  unfold snapshots
  induction devices with
  | nil => rfl
  | cons d' devices ih =>
    cases hio : w.engine.io d' with
    | none =>
      rw [filterMap_cons, hio, Option.map_none, ih]
      by_cases hd : d = d'
      · subst hd
        rw [hio]
        simp
      · simp [hd]
    | some io =>
      rw [filterMap_cons, hio, Option.map_some, lookup_cons, ih]
      by_cases hd : d = d'
      · subst hd
        simp [hio]
      · have hne : (d == d') = false := beq_false_of_ne hd
        simp [hd, hne]

lemma nodup_snapshots (w : RuleWorker) {devices : List DeviceId} (h : devices.Nodup) :
    ((w.snapshots devices).map (·.1)).Nodup := by
  have hmap : (w.snapshots devices).map (·.1) = devices.filter fun d => (w.engine.io d).isSome := by
    unfold snapshots
    induction devices with
    | nil => rfl
    | cons d devices ih =>
      have hrest := ih (nodup_cons.mp h).2
      cases hio : w.engine.io d with
      | none => simpa [hio] using hrest
      | some io => simpa [hio] using hrest
  rw [hmap]
  exact h.filter _

/-- **The rule step of a batch**, where no call fails. -/
lemma ruleStep_answered (records : List NormalizedRecord) (w : RuleWorker)
    (hsome : ruleDevices src records ≠ []) :
    ∃ w', ruleStep src unfailing records w = .done () w' ∧ Fed src records w w' := by
  set devices := ruleDevices src records with hdevices
  have hnodup : devices.Nodup := (nodup_eraseDups _).filter _
  set fed := w.engine.feed src.rulesFor (loadedIo w.store devices) records with hfed
  have hload : onStore (loadIoState unfailing devices) w = .done (loadedIo w.store devices) w :=
    (zoom_done (loadIoState_answered devices w.store)).trans rfl
  set w₁ : RuleWorker := { w with engine := fed.1, fed := w.fed ++ [records] } with hw₁
  have hpersist := persistEvents_answered src w.engine.io devices fed.2 fed.1
    w.store.iostate w₁ ⟨rfl, rfl⟩
  cases hrun : persistEvents src unfailing w.engine.io devices fed.2 w₁ with
  | threw e w' =>
    rw [hrun] at hpersist
    exact hpersist.elim
  | crashed w' =>
    rw [hrun] at hpersist
    exact hpersist.elim
  | done persistOk w₂ =>
    rw [hrun] at hpersist
    obtain ⟨rfl, hengine, hio⟩ := hpersist
    obtain ⟨store, hsave, hsaved⟩ := saveIoState_answered (nodup_snapshots w₂ hnodup) w₂.store
    refine ⟨{ w₂ with store := store }, ?_, ⟨hengine, fun d => ?_⟩⟩
    · have hevaluate : evaluateBatch src unfailing devices records w =
          .done () { w₂ with store := store } := by
        unfold evaluateBatch
        rw [bind_done hload, bind_done (get_apply w)]
        have hfeed : feed src (loadedIo w.store devices) records w = .done fed.2 w₁ := rfl
        rw [bind_done hfeed, bind_done hrun, bind_done (get_apply w₂)]
        unfold when
        rw [if_pos rfl]
        exact zoom_done hsave
      unfold ruleStep
      have hresolve : (call (unfailing .resolveRules) RuleCall.resolveRules id :
          Eff RuleError RuleWorker Unit) w = .done () w := rfl
      refine attempt_done ((bind_done hresolve).trans ?_)
      unfold when
      rw [if_pos hsome]
      exact hevaluate
    · show store.iostate d = _
      rw [hsaved, lookup_snapshots, hio]
      split <;> rfl

lemma ruleStep_of_no_rules (records : List NormalizedRecord) (w : RuleWorker)
    (hnone : ruleDevices src records = []) : ruleStep src unfailing records w = .done () w := by
  unfold ruleStep
  have hresolve : (call (unfailing .resolveRules) RuleCall.resolveRules id :
      Eff RuleError RuleWorker Unit) w = .done () w := rfl
  refine attempt_done ((bind_done hresolve).trans ?_)
  unfold when
  rw [if_neg (fun h => h hnone)]
  rfl

end RuleWorker

/-! ## Any batches, rules and owners -/

/-- The memory of each process, what is saved, and the records that were fed. -/
structure FuelState where
  engine : ℕ → RuleEngine
  store : RuleStore
  history : List NormalizedRecord

/-- The owner of the shard feeds a batch, with the rules as they are; or a process starts anew. -/
inductive FuelMove
  | batch (owner : ℕ) (src : RuleSources) (records : List NormalizedRecord)
  | restart (process : ℕ)

namespace FuelState

def worker (s : FuelState) (process : ℕ) : RuleWorker := ⟨s.engine process, s.store, []⟩

/-- No process has fed anything. -/
def start (store : RuleStore) : FuelState := ⟨fun _ => .new, store, []⟩

def step (s : FuelState) : FuelMove → Option FuelState
  | .batch owner src records =>
    let w := (RuleWorker.ruleStep src unfailing records (s.worker owner)).state
    some {
      engine := Function.update s.engine owner w.engine
      store := w.store
      history := s.history ++ records }
  | .restart process => some { s with engine := Function.update s.engine process .new }

def emitted (s : FuelState) (owner : ℕ) (src : RuleSources) (records : List NormalizedRecord) :
    List RuleEvent :=
  ((s.engine owner).feed src.rulesFor
    (loadedIo s.store (RuleWorker.ruleDevices src records)) records).2

/-- The baselines in memory are the saved ones, where the device has rules; and where it has none,
no baseline is saved when a record with the ignition on comes. -/
def Coherent (d : DeviceId) (s : FuelState) : FuelMove → Prop
  | .batch owner src records => (∃ r ∈ records, r.deviceId = d) →
    if src.rulesFor d = [] then
      (∃ r ∈ records, r.deviceId = d ∧ r.ignition = some true) →
        ∀ unit, (s.store.iostate d).base unit = none
    else
      ∀ io ∈ (s.engine owner).io d, ∀ unit, ∀ b ∈ io.base unit,
        (s.store.iostate d).base unit = some b
  | .restart _ => True

/-- The records of the device come in order. -/
def Ordered (d : DeviceId) (s : FuelState) : FuelMove → Prop
  | .batch _ _ records => FixOrdered d (s.history ++ records)
  | .restart _ => True

/-- What holds after every move. -/
structure Inv (d : DeviceId) (s : FuelState) : Prop where
  seen : ∀ process, Seen d s.history (s.engine process)
  saved : ∀ unit b, (s.store.iostate d).base unit = some b → Parked d unit b s.history

variable {d : DeviceId} {s s' : FuelState} {owner : ℕ} {src : RuleSources}
  {records : List NormalizedRecord}

lemma mem_ruleDevices_iff :
    d ∈ RuleWorker.ruleDevices src records ↔
      (∃ r ∈ records, r.deviceId = d) ∧ src.rulesFor d ≠ [] := by
  unfold RuleWorker.ruleDevices
  rw [mem_filter, mem_eraseDups, mem_map, decide_eq_true_iff]

/-- A device of the batch is measured from the memory, or else from what is saved. -/
lemma previousIo_loadedIo {devices : List DeviceId} (hd : d ∈ devices) (store : RuleStore)
    (e : RuleEngine) :
    e.previousIo (loadedIo store devices) d = (e.io d).getD (store.iostate d) := by
  have hloaded : loadedIo store devices d =
      if store.iostate d = emptyIo then none else some (store.iostate d) := by
    unfold loadedIo
    rw [RulePersister.lookup_map_of_mem store.iostate hd]
    rfl
  unfold RuleEngine.previousIo
  rw [hloaded]
  cases e.io d with
  | some io => rfl
  | none =>
    split
    · rename_i hempty
      rw [hempty]
      rfl
    · rfl

/-- What is saved, or kept in memory, is from the parked period. -/
lemma Inv.founded (h : Inv d s) (hcoherent : s.Coherent d (.batch owner src records))
    (hrecord : ∃ r ∈ records, r.deviceId = d) (hrules : src.rulesFor d ≠ []) :
    Founded d (loadedIo s.store (RuleWorker.ruleDevices src records)) s.history
      (s.engine owner) := by
  have hmemory := hcoherent hrecord
  rw [if_neg hrules] at hmemory
  intro unit b hb
  rw [previousIo_loadedIo (mem_ruleDevices_iff.mpr ⟨hrecord, hrules⟩)] at hb
  refine h.saved unit b ?_
  cases hio : (s.engine owner).io d with
  | some io =>
    rw [hio] at hb
    exact hmemory io hio unit b hb
  | none =>
    rw [hio] at hb
    exact hb

lemma Seen.append {e : RuleEngine} {history : List NormalizedRecord} (h : Seen d history e) :
    Seen d (history ++ records) e := by
  intro t ht
  obtain ⟨r, hr, hrd, hrt⟩ := h t ht
  exact ⟨r, mem_append_left _ hr, hrd, hrt⟩

lemma Inv.kept (h : Inv d s) (hcoherent : s.Coherent d (.batch owner src records))
    (hnot : d ∉ RuleWorker.ruleDevices src records) {unit : FuelUnit} {b : ℚ}
    (hb : (s.store.iostate d).base unit = some b) : Parked d unit b (s.history ++ records) := by
  refine (h.saved unit b hb).append fun r hr hrd hon => ?_
  have hrecord : ∃ r ∈ records, r.deviceId = d := ⟨r, hr, hrd⟩
  have hnone : src.rulesFor d = [] := by
    by_contra hrules
    exact hnot (mem_ruleDevices_iff.mpr ⟨hrecord, hrules⟩)
  have hcoherent' := hcoherent hrecord
  rw [if_pos hnone] at hcoherent'
  rw [hcoherent' ⟨r, hr, hrd, hon⟩ unit] at hb
  cases hb

/-- **One move.** -/
lemma step_inv (h : Inv d s) {move : FuelMove} (hordered : s.Ordered d move)
    (hcoherent : s.Coherent d move) (hstep : s.step move = some s') : Inv d s' := by
  cases move with
  | restart process =>
    cases hstep
    refine ⟨fun i => ?_, h.saved⟩
    by_cases hi : i = process
    · subst hi
      intro t ht
      have hnew : (Function.update s.engine i .new i).lastSeen d = some t := ht
      rw [Function.update_self] at hnew
      cases hnew
    · show Seen d s.history (Function.update s.engine process .new i)
      rw [Function.update_of_ne hi]
      exact h.seen i
  | batch owner src records =>
    cases hstep
    by_cases hnone : RuleWorker.ruleDevices src records = []
    · rw [RuleWorker.ruleStep_of_no_rules records _ hnone]
      refine ⟨fun i => ?_, fun unit b hb => h.kept hcoherent (hnone ▸ not_mem_nil) hb⟩
      have hsame : Function.update s.engine owner (s.engine owner) = s.engine :=
        Function.update_eq_self ..
      show Seen d (s.history ++ records) (Function.update s.engine owner (s.engine owner) i)
      rw [hsame]
      exact Seen.append (h.seen i)
    obtain ⟨w, hrun, hfed⟩ := RuleWorker.ruleStep_answered records (s.worker owner) hnone
    rw [hrun]
    have hengine : w.engine = fedTo src.rulesFor
        (loadedIo s.store (RuleWorker.ruleDevices src records)) (s.engine owner, []) records :=
      hfed.engine
    refine ⟨fun i => ?_, fun unit b hb => ?_⟩
    · show Seen d (s.history ++ records) (Function.update s.engine owner w.engine i)
      by_cases hi : i = owner
      · subst hi
        rw [Function.update_self, hengine]
        exact seen_fedTo (h.seen i)
      · rw [Function.update_of_ne hi]
        exact Seen.append (h.seen i)
    · have hb' : (w.store.iostate d).base unit = some b := hb
      rw [hfed.iostate] at hb'
      split at hb'
      · rename_i hmem
        obtain ⟨hrecord, hrules⟩ := mem_ruleDevices_iff.mp hmem
        have hfounded := founded_fedTo (e := (s.engine owner, [])) hrules (h.seen owner) hordered
          (h.founded hcoherent hrecord hrules)
        refine hfounded unit b ?_
        rw [← hengine, previousIo_loadedIo hmem]
        exact hb'
      · rename_i hnot
        exact h.kept hcoherent hnot hb'

/-- **A fuel theft is measured inside one parked period**, in every run in which the baselines in
memory are the saved ones and no drive goes unseen while one is saved. -/
theorem fuel_theft_parked {store : RuleStore} (hfresh : store.iostate d = emptyIo)
    {moves : List FuelMove}
    (hordered : RunFits step (Ordered d) (start store) (moves ++ [.batch owner src records]))
    (hcoherent : RunFits step (Coherent d) (start store) (moves ++ [.batch owner src records]))
    (hrun : run step (start store) moves = some s)
    {ev : RuleEvent} (hev : ev ∈ s.emitted owner src records) (hd : ev.deviceId = d)
    (hkind : ev.kind = .fuelTheft) :
    ∃ before r after, records = before ++ r :: after ∧ r.deviceId = d ∧
      ParkedTheft (src.rulesFor d) (s.history ++ before) r ev := by
  obtain ⟨hfits, hlast⟩ := (hordered.and hcoherent).append
  have hstart : Inv d (start store) := by
    refine ⟨(fun _ t ht => by cases ht), fun unit b hb => ?_⟩
    have hb' : (store.iostate d).base unit = some b := hb
    rw [hfresh] at hb'
    cases unit <;> cases hb'
  have hinv : Inv d s := run_keeps (Inv d)
    (fun s move s' hinv hmove hstep => step_inv hinv hmove.1 hmove.2 hstep) hstart hfits hrun
  obtain ⟨⟨horder, hcoherent'⟩, -⟩ := hlast s hrun
  exact parkedTheft_of_mem (hinv.seen owner) horder
    (fun hrecord hrules => hinv.founded hcoherent' hrecord hrules) hev hd hkind

lemma forall_unit {P : FuelUnit → Prop} : (∀ unit, P unit) ↔ P .pct ∧ P .liters :=
  ⟨fun h => ⟨h _, h _⟩, fun h unit => by cases unit <;> simp [h]⟩

instance (P : FuelUnit → Prop) [DecidablePred P] : Decidable (∀ unit, P unit) :=
  decidable_of_iff' _ forall_unit

instance (d : DeviceId) (records : List NormalizedRecord) : Decidable (FixOrdered d records) :=
  inferInstanceAs (Decidable (Pairwise _ _))

instance (d : DeviceId) (s : FuelState) (move : FuelMove) : Decidable (s.Ordered d move) := by
  cases move <;> unfold Ordered <;> infer_instance

instance (d : DeviceId) (s : FuelState) (move : FuelMove) : Decidable (s.Coherent d move) := by
  cases move <;> unfold Coherent <;> infer_instance

/-! A fuel rule of device 1, which can be switched off. -/

def fuelRule : RuleSources := ⟨fun _ => [sampleEdgeRule .fuelTheft], sampleRegistry⟩

def noRules : RuleSources := ⟨fun _ => [], sampleRegistry⟩

def fuelRecord (t : Ms) (ignition : Bool) (level : ℚ) : NormalizedRecord :=
  { ioRecord t ignition false with attrs := [("io_89", .num level)] }

/-- Two processes; the first one gives the shard away and starts anew. -/
def parkedMoves : List FuelMove :=
  [.batch 0 fuelRule [fuelRecord 0 true 90, fuelRecord 1000 false 80], .restart 0]

def parkedDrop : List NormalizedRecord := [fuelRecord 2000 false 40, fuelRecord 3000 false 40]

def parkedRun : Option FuelState := run step (start RulePersister.emptyStore) parkedMoves

/-- The level drops to 40 while the tracker is driven, and the rule is switched off. -/
def drivenMoves : List FuelMove :=
  [.batch 0 fuelRule [fuelRecord 0 false 80], .batch 0 noRules [fuelRecord 1000 true 40]]

def drivenRun : Option FuelState := run step (start RulePersister.emptyStore) drivenMoves

theorem fuel_theft_parked_once : ∃ s, parkedRun = some s ∧
    ∃ ev ∈ s.emitted 1 fuelRule parkedDrop, ∃ before r after,
      parkedDrop = before ++ r :: after ∧ r.deviceId = 1 ∧
        ParkedTheft (fuelRule.rulesFor 1) (s.history ++ before) r ev := by
  have hev : ∃ ev, parkedRun.map (·.emitted 1 fuelRule parkedDrop) = some [ev] ∧
      ev.deviceId = 1 ∧ ev.kind = .fuelTheft :=
    ⟨emit (sampleEdgeRule .fuelTheft) (fuelRecord 3000 false 40)
      (.fuelTheft "Rule" .pct 80 40 40), by decide +kernel, rfl, rfl⟩
  obtain ⟨ev, hmap, hd, hkind⟩ := hev
  obtain ⟨s, hrun, hemitted⟩ := Option.map_eq_some_iff.mp hmap
  have hmem : ev ∈ s.emitted 1 fuelRule parkedDrop := hemitted ▸ mem_singleton_self ev
  exact ⟨s, hrun, ev, hmem, fuel_theft_parked rfl (by decide +kernel) (by decide +kernel) hrun hmem
    hd hkind⟩

/-- The rule comes back, and with it the baseline of the parked period before. -/
theorem theft_across_drive : ∃ s, drivenRun = some s ∧
    emit (sampleEdgeRule .fuelTheft) (fuelRecord 3000 false 40) (.fuelTheft "Rule" .pct 80 40 40) ∈
      s.emitted 0 fuelRule parkedDrop ∧
    ¬ Parked 1 .pct 80 (s.history ++ [fuelRecord 2000 false 40]) := by
  have hev : drivenRun.map (·.emitted 0 fuelRule parkedDrop) = some
      [emit (sampleEdgeRule .fuelTheft) (fuelRecord 3000 false 40)
        (.fuelTheft "Rule" .pct 80 40 40)] := by
    decide +kernel
  have hparked : (drivenRun.map (·.history)).map
      (fun history => decide (Parked 1 .pct 80 (history ++ [fuelRecord 2000 false 40]))) =
        some false := by
    decide +kernel
  cases h : drivenRun with
  | none =>
    rw [h] at hev
    cases hev
  | some s =>
    rw [h] at hev hparked
    refine ⟨s, rfl, ?_, of_decide_eq_false (Option.some.inj hparked)⟩
    have hemitted : s.emitted 0 fuelRule parkedDrop = _ := Option.some.inj hev
    rw [hemitted]
    exact mem_singleton_self _

end FuelState

end Orbetra
