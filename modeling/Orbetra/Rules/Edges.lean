import Orbetra.Framework.Redelivery
import Orbetra.Rules.Persister

/-!
# The edges of a batch

Where a device has rules of edge kinds only, the rule engine is a small machine: it keeps four
values for each device, and a record shows an edge where a value differs from the kept one.  This
file cuts that machine out of `RuleEngine.feed` (`feed_edges`), leaving aside the fuel levels, which
no edge reads, and the order of the records, which decides beforehand what is kept (`keptRecords`).

What matters to a replay is that the last value of a batch is what it leaves, wherever it starts
(`edgeState_replay`).
-/

namespace Orbetra

open List

/-! ## The machine -/

/-- The values that edges are measured on. -/
structure EdgeIo where
  ignition : Option Bool
  din1 : Option Bool
  unplug : Option Bool
  alarm : Option Bool
  deriving DecidableEq

/-- The part of the IO values that edges are measured on. -/
def DeviceIo.edge (io : DeviceIo) : EdgeIo := ⟨io.ignition, io.din1, io.unplug, io.alarm⟩

def recordEdge (r : NormalizedRecord) : EdgeIo := (currentIo r).edge

/-- A missing reading keeps the previous value. -/
def EdgeIo.carry (prev cur : EdgeIo) : EdgeIo where
  ignition := cur.ignition.or prev.ignition
  din1 := cur.din1.or prev.din1
  unplug := cur.unplug.or prev.unplug
  alarm := cur.alarm.or prev.alarm

def edgeEvent (r : NormalizedRecord) (prev cur : EdgeIo) (rule : RuleDef) : Option RuleEvent :=
  match rule.kind with
  | .ignition =>
    (changed prev.ignition cur.ignition).map fun on => emit rule r (.ignition rule.name on)
  | .dinChange => (changed prev.din1 cur.din1).map fun on => emit rule r (.dinChange rule.name on)
  | .powerCut =>
    if prev.unplug = some false ∧ cur.unplug = some true then
      some (emit rule r (.powerCut rule.name))
    else none
  | .panic =>
    if prev.alarm = some false ∧ cur.alarm = some true then some (emit rule r (.panic rule.name))
    else none
  | .overspeed | .lowBattery | .fuelTheft => none

/-- What is kept for each device. -/
abbrev EdgeState := DeviceId → EdgeIo

section Machine

variable (rulesFor : DeviceId → List RuleDef)

def edgeStep (io : EdgeState) (r : NormalizedRecord) : EdgeState × List RuleEvent :=
  (Function.update io r.deviceId ((io r.deviceId).carry (recordEdge r)),
    (rulesFor r.deviceId).filterMap (edgeEvent r (io r.deviceId) (recordEdge r)))

def edgesOf (io : EdgeState) (records : List NormalizedRecord) : List RuleEvent :=
  Transducer.outputs (edgeStep rulesFor) io records

/-- What a batch leaves. -/
def edgeState (io : EdgeState) (records : List NormalizedRecord) : EdgeState :=
  Transducer.stateAfter (edgeStep rulesFor) io records

def keptRecords : (DeviceId → Option Ms) → List NormalizedRecord → List NormalizedRecord
  | _, [] => []
  | lastSeen, r :: rs =>
    if outOfOrder lastSeen r then keptRecords lastSeen rs
    else
      let rest := keptRecords (markSeen lastSeen r) rs
      if rulesFor r.deviceId = [] then rest else r :: rest

end Machine

/-! ## Replays -/

namespace EdgeIo

lemma carry_assoc (a b c : EdgeIo) : (a.carry b).carry c = a.carry (b.carry c) := by
  simp [carry, Option.or_assoc]

lemma carry_idem (a b : EdgeIo) : (a.carry b).carry b = a.carry b := by
  have hor : ∀ x y : Option Bool, x.or (x.or y) = x.or y := by
    intro x y
    cases x <;> rfl
  simp [carry, hor]

lemma carry_self_left (a b : EdgeIo) : a.carry (a.carry b) = a.carry b := by
  have hor : ∀ x y : Option Bool, (y.or x).or x = y.or x := by
    intro x y
    cases x <;> cases y <;> rfl
  simp [carry, hor]

end EdgeIo

section Replay

variable {rulesFor : DeviceId → List RuleDef} {io io' : EdgeState}

def lastValues (d : DeviceId) (records : List NormalizedRecord) : EdgeIo :=
  ((records.filter (·.deviceId = d)).map recordEdge).foldl EdgeIo.carry ⟨none, none, none, none⟩

lemma foldl_carry (values : List EdgeIo) (a b : EdgeIo) :
    values.foldl EdgeIo.carry (a.carry b) = a.carry (values.foldl EdgeIo.carry b) := by
  induction values generalizing b with
  | nil => rfl
  | cons value values ih => rw [foldl_cons, EdgeIo.carry_assoc, ih, foldl_cons]

lemma edgeState_apply (io : EdgeState) (records : List NormalizedRecord) (d : DeviceId) :
    edgeState rulesFor io records d = (io d).carry (lastValues d records) := by
  induction records generalizing io with
  | nil => simp [edgeState, lastValues, EdgeIo.carry]
  | cons r rs ih =>
    refine (ih _).trans ?_
    by_cases hd : r.deviceId = d
    · subst hd
      have hempty : recordEdge r = (recordEdge r).carry ⟨none, none, none, none⟩ := by
        simp [EdgeIo.carry]
      have hfirst : lastValues r.deviceId (r :: rs) =
          (recordEdge r).carry (lastValues r.deviceId rs) := by
        unfold lastValues
        rw [filter_cons_of_pos (by simp), map_cons, foldl_cons, ← foldl_carry, ← hempty]
        congr 1
        simp [EdgeIo.carry]
      rw [hfirst, ← EdgeIo.carry_assoc]
      simp [edgeStep]
    · have hsame : (edgeStep rulesFor io r).1 d = io d := by
        simp [edgeStep, Function.update_of_ne (Ne.symm hd)]
      rw [hsame]
      simp [lastValues, hd]

variable {records : List NormalizedRecord}

/-- **A replay leaves the same**, whichever devices start from what the batch leaves already. -/
lemma edgeState_replay (h : ∀ d, io' d = io d ∨ io' d = edgeState rulesFor io records d) :
    edgeState rulesFor io' records = edgeState rulesFor io records := by
  funext d
  rw [edgeState_apply, edgeState_apply]
  rcases h d with h | h
  · rw [h]
  · rw [h, edgeState_apply, EdgeIo.carry_idem]

lemma edgeState_of_none (io : EdgeState) {d : DeviceId} (h : ∀ r ∈ records, r.deviceId ≠ d) :
    edgeState rulesFor io records d = io d := by
  have hnone : records.filter (·.deviceId = d) = [] :=
    filter_eq_nil_iff.2 fun r hr => by simpa using h r hr
  rw [edgeState_apply, lastValues, hnone]
  simp [EdgeIo.carry]

/-- What a batch shows depends on the devices that it is about. -/
lemma edgesOf_congr (h : ∀ r ∈ records, io r.deviceId = io' r.deviceId) :
    edgesOf rulesFor io records = edgesOf rulesFor io' records := by
  induction records generalizing io io' with
  | nil => rfl
  | cons r rs ih =>
    have hfirst := h r mem_cons_self
    have hrest : ∀ x ∈ rs, (edgeStep rulesFor io r).1 x.deviceId =
        (edgeStep rulesFor io' r).1 x.deviceId := by
      intro x hx
      by_cases hd : x.deviceId = r.deviceId
      · simp [edgeStep, hd, hfirst]
      · simpa [edgeStep, Function.update_of_ne hd] using h x (mem_cons_of_mem _ hx)
    have hnow : (edgeStep rulesFor io r).2 = (edgeStep rulesFor io' r).2 := by
      simp [edgeStep, hfirst]
    exact congrArg₂ (· ++ ·) hnow (ih hrest)

lemma mem_of_mem_keptRecords {lastSeen : DeviceId → Option Ms} {r : NormalizedRecord}
    (h : r ∈ keptRecords rulesFor lastSeen records) :
    r ∈ records ∧ rulesFor r.deviceId ≠ [] := by
  induction records generalizing lastSeen with
  | nil => simp [keptRecords] at h
  | cons x rs ih =>
    unfold keptRecords at h
    split at h
    · exact (ih h).imp_left (mem_cons_of_mem _)
    · dsimp only at h
      split at h
      · exact (ih h).imp_left (mem_cons_of_mem _)
      · rename_i hrules
        rcases mem_cons.1 h with rfl | h
        · exact ⟨mem_cons_self, hrules⟩
        · exact (ih h).imp_left (mem_cons_of_mem _)

lemma mem_edgesOf {ev : RuleEvent} (h : ev ∈ edgesOf rulesFor io records) :
    ∃ r ∈ records, ∃ rule ∈ rulesFor r.deviceId, ∃ payload, ev = emit rule r payload := by
  induction records generalizing io with
  | nil => simp [edgesOf] at h
  | cons r rs ih =>
    rcases mem_append.1 h with h | h
    · obtain ⟨rule, hrule, hev⟩ := mem_filterMap.1 h
      refine ⟨r, mem_cons_self, rule, hrule, ?_⟩
      unfold edgeEvent at hev
      split at hev
      · obtain ⟨on, -, rfl⟩ := Option.map_eq_some_iff.1 hev
        exact ⟨_, rfl⟩
      · obtain ⟨on, -, rfl⟩ := Option.map_eq_some_iff.1 hev
        exact ⟨_, rfl⟩
      · split at hev
        · exact ⟨_, (Option.some.inj hev).symm⟩
        · cases hev
      · split at hev
        · exact ⟨_, (Option.some.inj hev).symm⟩
        · cases hev
      all_goals cases hev
    · obtain ⟨x, hx, hrest⟩ := ih h
      exact ⟨x, mem_cons_of_mem _ hx, hrest⟩

end Replay

/-! ## The rule engine -/

section Engine

variable {rulesFor : DeviceId → List RuleDef} {ioStateFor : DeviceId → Option DeviceIo}

def EdgeRules (rulesFor : DeviceId → List RuleDef) : Prop :=
  ∀ d, ∀ rule ∈ rulesFor d, rule.kind.isEdge

lemma evaluate_edge {rule : RuleDef} (hedge : rule.kind.isEdge) (r : NormalizedRecord)
    (prev cur : DeviceIo) (fired : FiredLevel) :
    evaluate rule r prev cur fired = edgeEvent r prev.edge cur.edge rule := by
  unfold evaluate edgeEvent
  cases hkind : rule.kind with
  | overspeed => simp [hkind, EngineRuleKind.isEdge] at hedge
  | lowBattery => simp [hkind, EngineRuleKind.isEdge] at hedge
  | fuelTheft => simp [hkind, EngineRuleKind.isEdge] at hedge
  | _ => rfl

lemma evaluateAll_edge {rules : List RuleDef} (hedge : ∀ rule ∈ rules, rule.kind.isEdge)
    (r : NormalizedRecord) (prev cur : DeviceIo) (fired : FiredLevel) :
    evaluateAll r prev cur rules fired =
      (fired, rules.filterMap (edgeEvent r prev.edge cur.edge)) := by
  induction rules generalizing fired with
  | nil => rfl
  | cons rule rules ih =>
    have hrule := hedge rule mem_cons_self
    have hlevel : ¬ (rule.kind = .overspeed ∨ rule.kind = .lowBattery) := by
      rintro (h | h) <;> simp [h, EngineRuleKind.isEdge] at hrule
    have hrest := ih fun rule' hrule' => hedge rule' (mem_cons_of_mem _ hrule')
    rw [evaluateAll, evaluate_edge hrule]
    cases hevent : edgeEvent r prev.edge cur.edge rule with
    | none => simp [hrest, hevent]
    | some ev => simp [hrest, hevent, hlevel]

/-- What the engine measures edges from. -/
def RuleEngine.effective (e : RuleEngine) (ioStateFor : DeviceId → Option DeviceIo) : EdgeState :=
  fun d => (e.previousIo ioStateFor d).edge

structure FeedsEdges (rulesFor : DeviceId → List RuleDef) (ioStateFor : DeviceId → Option DeviceIo)
    (e : RuleEngine) (records : List NormalizedRecord) (e' : RuleEngine)
    (events : List RuleEvent) : Prop where
  events : events =
    edgesOf rulesFor (e.effective ioStateFor) (keptRecords rulesFor e.lastSeen records)
  effective : e'.effective ioStateFor =
    edgeState rulesFor (e.effective ioStateFor) (keptRecords rulesFor e.lastSeen records)
  /-- A device without kept records is left alone. -/
  others : ∀ d, (∀ r ∈ keptRecords rulesFor e.lastSeen records, r.deviceId ≠ d) → e'.io d = e.io d
  /-- The engine has seen the other ones. -/
  seen : ∀ r ∈ keptRecords rulesFor e.lastSeen records, (e'.io r.deviceId).isSome

lemma effective_update (e : RuleEngine) (d : DeviceId) (io : DeviceIo)
    (lastSeen : DeviceId → Option Ms) :
    (⟨Function.update e.io d (some io), lastSeen⟩ : RuleEngine).effective ioStateFor =
      Function.update (e.effective ioStateFor) d io.edge := by
  funext d'
  by_cases hd : d' = d
  · subst hd
    simp [RuleEngine.effective, RuleEngine.previousIo]
  · simp [RuleEngine.effective, RuleEngine.previousIo, hd]

/-- **The edges of a batch**, cut out of `RuleEngine.feed`. -/
lemma feed_edges (hedge : EdgeRules rulesFor) (e : RuleEngine) (records : List NormalizedRecord) :
    FeedsEdges rulesFor ioStateFor e records (e.feed rulesFor ioStateFor records).1
      (e.feed rulesFor ioStateFor records).2 := by
  unfold RuleEngine.feed
  dsimp only
  generalize ([] : FiredLevel) = fired
  induction records generalizing e fired with
  | nil => exact ⟨rfl, rfl, fun _ _ => rfl, fun r hr => by simp [keptRecords] at hr⟩
  | cons r rs ih =>
    rw [Transducer.feed]
    cases hlate : outOfOrder e.lastSeen r with
    | true =>
      have hstep : RuleEngine.step rulesFor ioStateFor (e, fired) r = ((e, fired), []) := by
        simp [RuleEngine.step, hlate]
      have hkept : keptRecords rulesFor e.lastSeen (r :: rs) =
          keptRecords rulesFor e.lastSeen rs := by
        simp [keptRecords, hlate]
      obtain ⟨hevents, heffective, hothers, hseen⟩ := ih e fired
      rw [hstep]
      exact ⟨by rw [hkept]; exact hevents, by rw [hkept]; exact heffective,
        fun d hd => hothers d (by rwa [hkept] at hd), fun x hx => hseen x (by rwa [hkept] at hx)⟩
    | false =>
      by_cases hrules : rulesFor r.deviceId = []
      · have hstep : RuleEngine.step rulesFor ioStateFor (e, fired) r =
            ((⟨e.io, markSeen e.lastSeen r⟩, fired), []) := by
          simp [RuleEngine.step, hlate, hrules]
        have hkept : keptRecords rulesFor e.lastSeen (r :: rs) =
            keptRecords rulesFor (markSeen e.lastSeen r) rs := by
          simp [keptRecords, hlate, hrules]
        obtain ⟨hevents, heffective, hothers, hseen⟩ := ih ⟨e.io, markSeen e.lastSeen r⟩ fired
        rw [hstep]
        exact ⟨by rw [hkept]; exact hevents, by rw [hkept]; exact heffective,
          fun d hd => hothers d (by rwa [hkept] at hd), fun x hx => hseen x (by rwa [hkept] at hx)⟩
      · set prev := e.previousIo ioStateFor r.deviceId with hprev
        set next : RuleEngine := ⟨Function.update e.io r.deviceId
          (some (carryForward prev (currentIo r))), markSeen e.lastSeen r⟩ with hnext
        have hstep : RuleEngine.step rulesFor ioStateFor (e, fired) r =
            ((next, fired), (edgeStep rulesFor (e.effective ioStateFor) r).2) := by
          have hall := evaluateAll_edge (hedge r.deviceId) r prev (currentIo r) fired
          simp only [RuleEngine.step, hlate, Bool.false_eq_true, if_false, hrules]
          rw [show RuleEngine.previousIo ioStateFor ⟨e.io, markSeen e.lastSeen r⟩ r.deviceId = prev
            from rfl, hall]
          rfl
        have heff : next.effective ioStateFor = (edgeStep rulesFor (e.effective ioStateFor) r).1 :=
          effective_update e r.deviceId _ _
        have hkept : keptRecords rulesFor e.lastSeen (r :: rs) =
            r :: keptRecords rulesFor next.lastSeen rs := by
          simp [keptRecords, hlate, hrules, hnext]
        obtain ⟨hevents, heffective, hothers, hseen⟩ := ih next fired
        rw [heff] at hevents heffective
        rw [hstep]
        refine ⟨?_, ?_, fun d hd => ?_, fun x hx => ?_⟩
        · rw [hkept]
          exact congrArg (_ ++ ·) hevents
        · rw [hkept]
          exact heffective
        · rw [hkept] at hd
          have hsame := hothers d fun x hx => hd x (mem_cons_of_mem _ hx)
          refine hsame.trans ?_
          exact Function.update_of_ne (Ne.symm (hd r mem_cons_self)) _ _
        · rw [hkept] at hx
          by_cases hlater : ∃ y ∈ keptRecords rulesFor next.lastSeen rs, y.deviceId = x.deviceId
          · obtain ⟨y, hy, hdevice⟩ := hlater
            exact hdevice ▸ hseen y hy
          · have hsame := hothers x.deviceId fun y hy hdevice => hlater ⟨y, hy, hdevice⟩
            rcases mem_cons.1 hx with rfl | hx
            · rw [hsame]
              simp [hnext]
            · exact absurd ⟨x, hx, rfl⟩ hlater

end Engine

end Orbetra
