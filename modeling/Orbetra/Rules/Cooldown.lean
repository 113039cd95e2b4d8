import Orbetra.Framework.Redelivery
import Orbetra.Framework.Spacing
import Orbetra.Rules.Persister

/-!
# The cooldown of a rule

The cooldown of a rule keeps one marker for each rule and device: the fix time of the last event
that was written.  An event is written when it is at least the cooldown away from that marker, in
either direction, so a late event may move the marker back into the past and away from events that
were written before.

This file computes what `RulePersister.persist` writes where no call fails (`persist_spec`), shows
that the events written for one rule and device are what a `Spacing.Filter` lets pass
(`filterOf_acts`), and concludes with the exact condition under which any two of them are a cooldown
apart (`cooldown_spaced_iff`).
-/

namespace Orbetra

namespace RulePersister

open Redelivery Function List Eff

/-! ## What a call writes -/

/-- No call fails. -/
def noFailure : RuleReplies := fun _ => .ok

def cooled (cooldown : CooldownKey → Option Ms) (ev : RuleEvent) : Prop :=
  Spacing.Holds (fun t : Ms => (t : ℚ)) (ev.cooldownS * 1000) (cooldown ev.cooldownKey) ev.atTime

instance (cooldown : CooldownKey → Option Ms) (ev : RuleEvent) : Decidable (cooled cooldown ev) :=
  inferInstanceAs (Decidable (Spacing.Holds _ _ _ _))

def through : (CooldownKey → Option Ms) → List RuleEvent →
    (CooldownKey → Option Ms) × List RuleEvent
  | cooldown, [] => (cooldown, [])
  | cooldown, ev :: events =>
    if ev.gated then
      if cooled cooldown ev then through cooldown events
      else
        let rest := through (update cooldown ev.cooldownKey (some ev.atTime)) events
        (rest.1, ev :: rest.2)
    else
      let rest := through cooldown events
      (rest.1, ev :: rest.2)

def heldBack : (CooldownKey → Option Ms) → List RuleEvent → List RuleEvent
  | _, [] => []
  | cooldown, ev :: events =>
    if ev.gated then
      if cooled cooldown ev then ev :: heldBack cooldown events
      else heldBack (update cooldown ev.cooldownKey (some ev.atTime)) events
    else heldBack cooldown events

lemma cooldownScript_eq (ev : RuleEvent) (s : RuleStore) :
    cooldownScript ev s = if cooled s.cooldown ev then (s, false)
      else ({ s with cooldown := update s.cooldown ev.cooldownKey (some ev.atTime) }, true) := by
  cases hmarker : s.cooldown ev.cooldownKey with
  | none => simp [cooldownScript, cooled, Spacing.Holds, hmarker]
  | some prev => simp [cooldownScript, cooled, Spacing.Holds, Spacing.Near, hmarker]

lemma accum_setNx (events : List RuleEvent) (s : RuleStore) :
    let claims := accum (setNx ∘ RuleEvent.seenKey) events s
    claims.1 = { s with seen := claim RuleEvent.seenKey s.seen events } ∧
      (events.zip (claims.2.map some)).filterMap
        (fun x => if x.2 = some false then none else some x.1) =
          fresh RuleEvent.seenKey s.seen events := by
  induction events generalizing s with
  | nil => exact ⟨rfl, rfl⟩
  | cons ev events ih =>
    by_cases hkey : ev.seenKey ∈ s.seen
    · have hrun : (setNx ∘ RuleEvent.seenKey) ev s = (s, false) := if_pos hkey
      simp only [accum, hrun, claim, fresh, if_pos hkey, map_cons, zip_cons_cons]
      exact ih s
    · have hrun : (setNx ∘ RuleEvent.seenKey) ev s =
          ({ s with seen := s.seen ++ [ev.seenKey] }, true) := if_neg hkey
      obtain ⟨hstate, hfresh⟩ := ih { s with seen := s.seen ++ [ev.seenKey] }
      simp only [accum, hrun, claim, fresh, if_neg hkey, map_cons, zip_cons_cons]
      refine ⟨hstate, ?_⟩
      rw [filterMap_cons_some (b := ev) (by simp), hfresh]

lemma accum_cooldownScript (events : List RuleEvent) (s : RuleStore) :
    let passes := accum cooldownScript (events.filter RuleEvent.gated) s
    passes.1 = { s with cooldown := (through s.cooldown events).1 } ∧
      survivorsOf events (passes.2.map some) =
        ((through s.cooldown events).2, heldBack s.cooldown events) := by
  induction events generalizing s with
  | nil => exact ⟨rfl, rfl⟩
  | cons ev events ih =>
    by_cases hgated : ev.gated
    · rw [filter_cons_of_pos hgated]
      by_cases hcooled : cooled s.cooldown ev
      · have hrun : cooldownScript ev s = (s, false) := by
          rw [cooldownScript_eq, if_pos hcooled]
        obtain ⟨hstate, hsorted⟩ := ih s
        simp only [accum, hrun, through, heldBack, survivorsOf, hgated, hcooled, if_true,
          map_cons, head?_cons, tail_cons]
        exact ⟨hstate, by rw [hsorted]⟩
      · have hrun : cooldownScript ev s = ({ s with
            cooldown := update s.cooldown ev.cooldownKey (some ev.atTime) }, true) := by
          rw [cooldownScript_eq, if_neg hcooled]
        obtain ⟨hstate, hsorted⟩ := ih { s with
          cooldown := update s.cooldown ev.cooldownKey (some ev.atTime) }
        simp only [accum, hrun, through, heldBack, survivorsOf, hgated, hcooled, if_true,
          if_false, map_cons, head?_cons, tail_cons, Option.some.injEq,
          Bool.true_eq_false]
        exact ⟨hstate, by rw [hsorted]⟩
    · rw [filter_cons_of_neg hgated]
      obtain ⟨hstate, hsorted⟩ := ih s
      simp only [through, heldBack, survivorsOf, hgated, Bool.false_eq_true, if_false]
      exact ⟨hstate, by rw [hsorted]⟩

def stamp (row : RuleEventRow) : String × DeviceId × Ms := (row.ruleId, row.deviceId, row.atTime)

def eventStamp (ev : RuleEvent) : String × DeviceId × Ms := (ev.ruleId, ev.deviceId, ev.atTime)

lemma stamps_modify (rows : List RuleEventRow) (i : ℕ) (ev : RuleEvent) :
    (rows.modify i (extendRow ev)).map stamp = rows.map stamp := by
  induction rows generalizing i with
  | nil => simp
  | cons row rows ih =>
    cases i with
    | zero => simp [stamp, extendRow]
    | succ i => simp [ih]

def extendNewest (rows : List RuleEventRow) (ev : RuleEvent) : List RuleEventRow :=
  match newestRow ev rows with
  | none => rows
  | some i => rows.modify i (extendRow ev)

lemma stamps_extendNewest (events : List RuleEvent) (rows : List RuleEventRow) :
    (events.foldl extendNewest rows).map stamp = rows.map stamp := by
  induction events generalizing rows with
  | nil => rfl
  | cons ev events ih =>
    rw [foldl_cons, ih]
    unfold extendNewest
    split
    · rfl
    · exact stamps_modify rows _ ev

lemma extendRuleEvents_spec (n : ℕ) (events : List RuleEvent) (s : RuleStore) :
    extendRuleEvents noFailure n events s =
      .done () { s with events := events.foldl extendNewest s.events } := by
  induction events generalizing n s with
  | nil => rfl
  | cons ev events ih =>
    have hrun : (call (noFailure (.extend n)) (.extend n) fun s =>
        match newestRow ev s.events with
        | none => s
        | some i => { s with events := s.events.modify i (extendRow ev) } :
          Eff RuleError RuleStore Unit) s =
        .done () { s with events := extendNewest s.events ev } := by
      unfold extendNewest
      cases hrow : newestRow ev s.events <;> simp [call, noFailure, hrow]
    exact (bind_done hrun).trans (ih (n + 1) _)

variable (registry : DeviceId → Option RuleScope)

/-- The events of a call whose device is registered and whose replay key is free. -/
def arriving (s : RuleStore) (events : List RuleEvent) : List RuleEvent :=
  fresh RuleEvent.seenKey s.seen (events.filter fun ev => (registry ev.deviceId).isSome)

variable {registry}

variable {events : List RuleEvent} {ev : RuleEvent}

lemma mem_of_mem_fresh {claimed : List SeenKey} (h : ev ∈ fresh RuleEvent.seenKey claimed events) :
    ev ∈ events := by
  induction events generalizing claimed with
  | nil => simp [fresh] at h
  | cons e events ih =>
    rw [fresh] at h
    split at h
    · exact mem_cons_of_mem _ (ih h)
    · rcases mem_cons.1 h with rfl | h
      · exact mem_cons_self
      · exact mem_cons_of_mem _ (ih h)

lemma mem_of_mem_arriving {s : RuleStore} (h : ev ∈ arriving registry s events) :
    ev ∈ events ∧ (registry ev.deviceId).isSome :=
  mem_filter.1 (mem_of_mem_fresh h)

lemma mem_of_mem_through {cooldown : CooldownKey → Option Ms} (h : ev ∈
    (through cooldown events).2) :
    ev ∈ events := by
  induction events generalizing cooldown with
  | nil => simp [through] at h
  | cons e events ih =>
    rw [through] at h
    split at h
    · split at h
      · exact mem_cons_of_mem _ (ih h)
      · rcases mem_cons.1 h with rfl | h
        · exact mem_cons_self
        · exact mem_cons_of_mem _ (ih h)
    · rcases mem_cons.1 h with rfl | h
      · exact mem_cons_self
      · exact mem_cons_of_mem _ (ih h)

variable (registry) in
def rowsOf (events : List RuleEvent) : List RuleEventRow :=
  events.filterMap fun ev => (registry ev.deviceId).map (eventRow · ev)

lemma stamps_rows (h : ∀ ev ∈ events, (registry ev.deviceId).isSome) :
    (rowsOf registry events).map stamp = events.map eventStamp := by
  unfold rowsOf
  induction events with
  | nil => rfl
  | cons ev events ih =>
    obtain ⟨scope, hscope⟩ := Option.isSome_iff_exists.1 (h ev mem_cons_self)
    rw [filterMap_cons_some (b := eventRow scope ev) (by simp [hscope]), map_cons,
      ih fun e he => h e (mem_cons_of_mem _ he)]
    rfl

/-- What `persist` did to the keys and to the stamps. -/
structure Persisted (registry : DeviceId → Option RuleScope) (events : List RuleEvent)
    (s s' : RuleStore) : Prop where
  cooldown : s'.cooldown = (through s.cooldown (arriving registry s events)).1
  rows : s'.events = (heldBack s.cooldown (arriving registry s events)).foldl extendNewest
    (s.events ++ rowsOf registry (through s.cooldown (arriving registry s events)).2)
  events : s'.events.map stamp =
    s.events.map stamp ++ ((through s.cooldown (arriving registry s events)).2).map eventStamp

/-- **What `persist` writes** where no call fails: the events of registered devices whose replay key
is free and that pass the cooldown. -/
lemma persist_spec (events : List RuleEvent) (s : RuleStore) :
    Persisted registry events s (persist noFailure registry events s).state := by
  unfold persist
  split
  · rename_i hnil
    subst hnil
    exact ⟨rfl, by simp [arriving, fresh, through, heldBack, rowsOf, Outcome.state],
      by simp [arriving, fresh, through, Outcome.state]⟩
  · set inScope := events.filter fun ev => (registry ev.deviceId).isSome with hinScope
    obtain ⟨hclaims, hfresh⟩ := accum_setNx inScope s
    set claims := accum (setNx ∘ RuleEvent.seenKey) inScope s with hclaimsDef
    have harriving : fresh RuleEvent.seenKey s.seen inScope = arriving registry s events := rfl
    rw [harriving] at hfresh
    obtain ⟨hpasses, hsortedEq⟩ := accum_cooldownScript (arriving registry s events) claims.1
    set passes := accum cooldownScript ((arriving registry s events).filter RuleEvent.gated)
      claims.1 with hpassesDef
    have hcooldown : claims.1.cooldown = s.cooldown := by rw [hclaims]
    rw [hcooldown] at hpasses hsortedEq
    -- the gate, with its two pipelines answered
    set sorted := survivorsOf (arriving registry s events) (passes.2.map some) with hsorted
    obtain ⟨claimedSeen, claimedCooldown, hgate⟩ : ∃ claimedSeen claimedCooldown,
        gate noFailure inScope s =
          .done ⟨sorted.1, sorted.2, claimedSeen, claimedCooldown⟩ passes.1 := by
      refine ⟨(inScope.zip (claims.2.map some)).filterMap fun x =>
          if x.2 = some true then some x.1.seenKey else none,
        (((arriving registry s events).filter RuleEvent.gated).zip (passes.2.map some)).filterMap
          fun x => if x.2 = some true then some x.1.cooldownKey else none, ?_⟩
      refine (bind_done (answers_ok (fun _ => rfl) inScope s)).trans ?_
      rw [← hclaimsDef, hfresh]
      exact bind_done (answers_ok (fun _ => rfl) _ _)
    set g : Gated := ⟨sorted.1, sorted.2, claimedSeen, claimedCooldown⟩ with hg
    have hsurvivors : sorted.1 = (through s.cooldown (arriving registry s events)).2 :=
      congrArg Prod.fst hsortedEq
    have hheld : sorted.2 = heldBack s.cooldown (arriving registry s events) :=
      congrArg Prod.snd hsortedEq
    set rows := rowsOf registry sorted.1 with hrows
    set inserted : RuleStore := { passes.1 with events := passes.1.events ++ rows } with hinserted
    have hwrite : writeRuleEvents noFailure rows passes.1 = .done () inserted := by
      unfold writeRuleEvents when
      split
      · rfl
      · rename_i hnil
        rw [not_not] at hnil
        simp [hinserted, hnil]
    have hextend := extendRuleEvents_spec 0 sorted.2 inserted
    have hpersist : (do
        call (noFailure .scope) .scope id
        let gated ← gate noFailure inScope
        let rows := gated.survivors.filterMap fun ev => (registry ev.deviceId).map (eventRow · ev)
        attempt (writeRuleEvents noFailure rows) fun err => do
          release noFailure gated
          throw err
        attempt (extendRuleEvents noFailure 0 gated.continuations) fun _ => pure ()
        pure gated.survivors : Eff RuleError RuleStore (List RuleEvent)) s =
          .done sorted.1
            { inserted with events := sorted.2.foldl extendNewest inserted.events } := by
      have hscope : (call (noFailure .scope) RuleCall.scope id :
          Eff RuleError RuleStore Unit) s = .done () s := rfl
      refine (bind_done hscope).trans ?_
      refine (bind_done hgate).trans ?_
      refine (bind_done (attempt_done hwrite)).trans ?_
      exact bind_done (attempt_done hextend)
    rw [hpersist]
    have hpassed : ∀ ev ∈ sorted.1, (registry ev.deviceId).isSome := by
      intro ev hev
      rw [hsurvivors] at hev
      exact (mem_of_mem_arriving (mem_of_mem_through hev)).2
    have hevents : passes.1.events ++ rows =
        s.events ++ rowsOf registry (through s.cooldown (arriving registry s events)).2 := by
      rw [hpasses, hclaims, hrows, hsurvivors]
    refine ⟨?_, ?_, ?_⟩
    · show passes.1.cooldown = _
      rw [hpasses]
    · show sorted.2.foldl extendNewest (passes.1.events ++ rows) = _
      rw [hevents, hheld]
    · show (sorted.2.foldl extendNewest (passes.1.events ++ rows)).map stamp = _
      rw [stamps_extendNewest, hevents, map_append, stamps_rows (hsurvivors ▸ hpassed)]

/-! ## Runs -/

/-- What happens to the store: a call of `persist`, or a key that expires. -/
inductive Action
  | persist (events : List RuleEvent)
  | expireSeen (key : SeenKey)
  | expireCooldown (key : CooldownKey)

variable (registry)

/-- One action; no call fails. -/
def act (s : RuleStore) : Action → RuleStore
  | .persist events => (persist noFailure registry events s).state
  | .expireSeen key => { s with seen := s.seen.filter (· ≠ key) }
  | .expireCooldown key => { s with cooldown := update s.cooldown key none }

def emptyStore : RuleStore := ⟨fun _ => emptyIo, [], fun _ => none, [], []⟩

section OneRule

variable (ruleId : String) (deviceId : DeviceId) (cooldownS : ℚ)

def ownTimes (stamps : List (String × DeviceId × Ms)) : List Ms :=
  (stamps.filter fun x => x.1 = ruleId ∧ x.2.1 = deviceId).map fun x => x.2.2

/-- The marker of the rule and device, and what was written for them. -/
def filterOf (s : RuleStore) : Spacing.Filter Ms :=
  ⟨s.cooldown (ruleId, deviceId), (ownTimes ruleId deviceId (s.events.map stamp)).reverse⟩

def inputs (s : RuleStore) : Action → List (Option Ms)
  | .persist events =>
    (ownTimes ruleId deviceId ((arriving registry s events).map eventStamp)).map some
  | .expireSeen _ => []
  | .expireCooldown key => if key = (ruleId, deviceId) then [none] else []

/-- What a run means to the marker of the rule and device. -/
def arrivals (s : RuleStore) : List Action → List (Option Ms)
  | [] => []
  | a :: actions => inputs registry ruleId deviceId s a ++ arrivals (act registry s a) actions

def AsksFor (events : List RuleEvent) : Prop :=
  ∀ ev ∈ events, ev.ruleId = ruleId → ev.deviceId = deviceId →
    ev.bypassCooldown = false ∧ ev.cooldownS = cooldownS

/-- One input of the filter of the rule. -/
abbrev spacingStep : Spacing.Filter Ms → Option Ms → Spacing.Filter Ms :=
  Spacing.Filter.step (fun t : Ms => (t : ℚ)) (cooldownS * 1000)

variable {registry ruleId deviceId cooldownS}

lemma through_filter (hN : 0 < cooldownS) {events : List RuleEvent}
    (hrule : AsksFor ruleId deviceId cooldownS events) (cooldown : CooldownKey → Option Ms)
    (passed : List Ms) :
    (⟨(through cooldown events).1 (ruleId, deviceId),
      (ownTimes ruleId deviceId ((through cooldown events).2.map eventStamp)).reverse ++ passed⟩ :
        Spacing.Filter Ms) =
      ((ownTimes ruleId deviceId (events.map eventStamp)).map some).foldl (spacingStep cooldownS)
        ⟨cooldown (ruleId, deviceId), passed⟩ := by
  induction events generalizing cooldown passed with
  | nil => rfl
  | cons ev events ih =>
    have hrest : AsksFor ruleId deviceId cooldownS events :=
      fun e he => hrule e (mem_cons_of_mem _ he)
    by_cases hown : ev.ruleId = ruleId ∧ ev.deviceId = deviceId
    · obtain ⟨hbypass, hcooldown⟩ := hrule ev mem_cons_self hown.1 hown.2
      have hgated : ev.gated := by simp [RuleEvent.gated, hbypass, hcooldown, hN]
      have hkey : ev.cooldownKey = (ruleId, deviceId) := Prod.ext hown.1 hown.2
      have htimes : ∀ l, ownTimes ruleId deviceId (eventStamp ev :: l) =
          ev.atTime :: ownTimes ruleId deviceId l := by
        intro l
        simp [ownTimes, eventStamp, hown]
      rw [map_cons, htimes, map_cons, foldl_cons]
      by_cases hcooled : cooled cooldown ev
      · have hheld : Spacing.Holds (fun t : Ms => (t : ℚ)) (cooldownS * 1000)
            (cooldown (ruleId, deviceId)) ev.atTime := by
          rwa [cooled, hkey, hcooldown] at hcooled
        simp only [through, hgated, hcooled, if_true, Spacing.Filter.step, hheld]
        exact ih hrest cooldown passed
      · have hfree : ¬ Spacing.Holds (fun t : Ms => (t : ℚ)) (cooldownS * 1000)
            (cooldown (ruleId, deviceId)) ev.atTime := by
          rwa [cooled, hkey, hcooldown] at hcooled
        simp only [through, hgated, hcooled, if_true, if_false, Spacing.Filter.step, hfree,
          map_cons, htimes, reverse_cons, append_assoc, singleton_append]
        have h := ih hrest (update cooldown ev.cooldownKey (some ev.atTime)) (ev.atTime :: passed)
        rw [hkey] at h ⊢
        rwa [update_self] at h
    · have hkey : ev.cooldownKey ≠ (ruleId, deviceId) := fun h => hown (Prod.ext_iff.1 h)
      have htimes : ∀ l, ownTimes ruleId deviceId (eventStamp ev :: l) =
          ownTimes ruleId deviceId l := by
        intro l
        simp [ownTimes, eventStamp, hown]
      rw [map_cons, htimes]
      by_cases hgated : ev.gated
      · by_cases hcooled : cooled cooldown ev
        · simp only [through, hgated, hcooled, if_true]
          exact ih hrest cooldown passed
        · simp only [through, hgated, hcooled, if_true, if_false, map_cons, htimes]
          have h := ih hrest (update cooldown ev.cooldownKey (some ev.atTime)) passed
          rwa [update_of_ne hkey.symm] at h
      · simp only [through, hgated, Bool.false_eq_true, if_false, map_cons, htimes]
        exact ih hrest cooldown passed

/-- The events of every call of the run ask for the cooldown of the rule. -/
def RuleCooldown (ruleId : String) (deviceId : DeviceId) (cooldownS : ℚ) (actions : List Action) :
    Prop :=
  ∀ events, .persist events ∈ actions → AsksFor ruleId deviceId cooldownS events

/-- **A run is a run of the filter.** -/
lemma filterOf_acts (hN : 0 < cooldownS) {actions : List Action}
    (hrule : RuleCooldown ruleId deviceId cooldownS actions) (s : RuleStore) :
    filterOf ruleId deviceId (actions.foldl (act registry) s) =
      (arrivals registry ruleId deviceId s actions).foldl (spacingStep cooldownS)
        (filterOf ruleId deviceId s) := by
  induction actions generalizing s with
  | nil => rfl
  | cons a actions ih =>
    rw [foldl_cons, ih fun events h => hrule events (mem_cons_of_mem _ h), arrivals, foldl_append]
    congr 1
    cases a with
    | persist events =>
      have hspec : Persisted registry events s (persist noFailure registry events s).state :=
        persist_spec events s
      have hasks : AsksFor ruleId deviceId cooldownS (arriving registry s events) :=
        fun ev hev => hrule events mem_cons_self ev (mem_of_mem_arriving hev).1
      have h := through_filter hN hasks s.cooldown
        (ownTimes ruleId deviceId (s.events.map stamp)).reverse
      show filterOf ruleId deviceId (persist noFailure registry events s).state = _
      unfold filterOf
      rw [hspec.cooldown, hspec.events]
      refine Eq.trans ?_ h
      simp [ownTimes]
    | expireSeen key => rfl
    | expireCooldown key =>
      by_cases hkey : key = (ruleId, deviceId)
      · simp [inputs, filterOf, act, hkey, Spacing.Filter.step]
      · simp [inputs, filterOf, act, hkey, update_of_ne (Ne.symm hkey)]

end OneRule

end RulePersister

open RulePersister

def CooledDown (ruleId : String) (deviceId : DeviceId) (cooldownS : ℚ) (s : RuleStore) : Prop :=
  (s.events.filter fun row => row.ruleId = ruleId ∧ row.deviceId = deviceId).Pairwise
    fun row row' => cooldownS * 1000 ≤ (|row.atTime - row'.atTime| : ℤ)

instance (ruleId : String) (deviceId : DeviceId) (cooldownS : ℚ) (s : RuleStore) :
    Decidable (CooledDown ruleId deviceId cooldownS s) :=
  inferInstanceAs (Decidable (List.Pairwise _ _))

lemma cooledDown_iff {ruleId : String} {deviceId : DeviceId} {cooldownS : ℚ} {s : RuleStore} :
    CooledDown ruleId deviceId cooldownS s ↔
      Spacing.Spaced (fun t : Ms => (t : ℚ)) (cooldownS * 1000)
        (filterOf ruleId deviceId s).passed := by
  have htimes : ownTimes ruleId deviceId (s.events.map stamp) =
      (s.events.filter fun row => row.ruleId = ruleId ∧ row.deviceId = deviceId).map
        (·.atTime) := by
    simp only [ownTimes, List.filter_map, List.map_map]
    rfl
  unfold CooledDown Spacing.Spaced filterOf
  rw [List.pairwise_reverse, htimes, List.pairwise_map]
  simp only [Spacing.Near, not_lt, abs_sub_comm]

/-- **A cooldown keeps events apart** exactly when the marker stands for all of them.  Take any run
of calls of `persist` in which no call fails and the events of one rule and device ask for its
cooldown, with keys expiring in between.  Any two events written for them are a cooldown apart if
and only if, whenever an event that is no replay comes within the cooldown of a written one, the key
is there and holds a fix time within the cooldown of it. -/
theorem cooldown_spaced_iff (registry : DeviceId → Option RuleScope) (ruleId : String)
    (deviceId : DeviceId) (cooldownS : ℚ) (actions : List Action) (hN : 0 < cooldownS)
    (hrule : RuleCooldown ruleId deviceId cooldownS actions) :
    CooledDown ruleId deviceId cooldownS (actions.foldl (act registry) emptyStore) ↔
      Spacing.TracksAll (fun t : Ms => (t : ℚ)) (cooldownS * 1000)
        (filterOf ruleId deviceId emptyStore)
        (arrivals registry ruleId deviceId emptyStore actions) := by
  rw [cooledDown_iff, filterOf_acts hN hrule]
  exact Spacing.spaced_foldl_iff List.Pairwise.nil

/-! ## A late event behind the marker -/

/-- An ignition event of device 1, of a rule with a cooldown of 300 s. -/
def sampleEvent (t : Ms) : RuleEvent where
  deviceId := 1
  ruleId := "rule"
  kind := .ignition
  atTime := t
  lat := 54
  lon := 25
  cooldownS := 300
  bypassCooldown := false
  payload := .ignition "Ignition" true

/-- The events of a run, each in a call of its own. -/
def sampleCalls (times : List Ms) : List Action := times.map fun t => .persist [sampleEvent t]

def sampleRegistry : DeviceId → Option RuleScope := fun _ => some ⟨"tenant", "account"⟩

/-- **Two events within the cooldown**: the event at 1000 s takes the marker along, and the late one
at 10 s passes, 10 s after the first. -/
theorem late_event_inside_cooldown :
    ¬ CooledDown "rule" 1 300
      ((sampleCalls [0, 1000000, 10000]).foldl (act sampleRegistry) emptyStore) := by
  decide +kernel

lemma sampleCalls_cooldown (times : List Ms) : RuleCooldown "rule" 1 300 (sampleCalls times) := by
  intro events hevents ev hev _ _
  obtain ⟨t, -, ht⟩ := List.mem_map.1 hevents
  cases ht
  obtain rfl := List.mem_singleton.1 hev
  exact ⟨rfl, rfl⟩

/-- A late event that the marker stands for. -/
theorem cooldown_spaced_late :
    CooledDown "rule" 1 300
      ((sampleCalls [0, 1000000, 900000]).foldl (act sampleRegistry) emptyStore) := by
  refine (cooldown_spaced_iff sampleRegistry "rule" 1 300 (sampleCalls [0, 1000000, 900000])
    (by decide) (sampleCalls_cooldown _)).2 ?_
  decide +kernel

end Orbetra
