import Orbetra.Framework.FirstWins
import Orbetra.Rules.Offline

/-!
# One offline alert to an episode

For one device, among all the others: what each command of a sweep does to the flag and to the
events of the device, and what the sweeps rely on in each other. -/

namespace Orbetra.Offline

open Function List Async

open Async (Stable Returning)

variable {ι : Type} {fleet : Ms → Fleet} {d : DeviceId}

/-! ## The device's rule -/

/-- The device is registered, and its account has a `device_offline` rule that does not change. -/
structure FixedRule (fleet : Ms → Fleet) (d : DeviceId) where
  tenantId : String
  accountId : String
  rules : List OfflineRule
  profileH : Option ℚ
  rule : OfflineRule
  thresholdH : ℚ
  account_ne : accountId ≠ ""
  tenant : ∀ t, (d, tenantId) ∈ (fleet t).deviceTenant
  account : ∀ t, (fleet t).deviceAccount d = some accountId
  ownRules : ∀ t, rulesOf (offlineRules ((fleet t).rules tenantId)) accountId = rules
  otherRules : ∀ t, ∀ other ≠ tenantId,
    rulesOf (offlineRules ((fleet t).rules other)) accountId = []
  profile : ∀ t, (fleet t).presence d = profileH
  firing_eq : firing (posH profileH) rules = some (rule, thresholdH)

lemma FixedRule.rules_ne (fixed : FixedRule fleet d) : fixed.rules ≠ [] := by
  intro hnil
  have heq := fixed.firing_eq
  rw [hnil] at heq
  cases heq

/-! ## Episodes -/

/-- When the sweep started, the device had not made contact for longer than the threshold. -/
def PastThreshold (thresholdH : ℚ) (d : DeviceId) (b : Snapshot) : Prop :=
  ∃ contactMs ∈ (b.last d).contactMs, thresholdH * 3600000 ≤ ((b.nowMs - contactMs : ℤ) : ℚ)

namespace OfflineStore

variable {s s' : OfflineStore ι} {me : ι} {b : Snapshot}

def eventsOf (d : DeviceId) (s : OfflineStore ι) : List (Written ι) :=
  s.events.filter fun e => e.row.deviceId = d

/-- An event of the episode that the sweep started in. -/
def Alerted (d : DeviceId) (b : Snapshot) (s : OfflineStore ι) : Prop :=
  ∃ e ∈ s.eventsOf d, e.contacts = b.contacts d

/-- The device has made no contact since the sweep started. -/
def Undisturbed (d : DeviceId) (me : ι) (s : OfflineStore ι) : Prop :=
  ∀ b ∈ s.began me, s.contacts d = b.contacts d

/-- The flag is that of an event of the current episode. -/
def Settled (d : DeviceId) (s : OfflineStore ι) (f : Flag ι) : Prop :=
  f.contacts = s.contacts d ∧ ∃ e ∈ s.eventsOf d, e.sweep = f.sweep

structure Sound (d : DeviceId) (s : OfflineStore ι) : Prop where
  past : ∀ e ∈ s.eventsOf d, e.contacts ≤ s.contacts d
  once : (s.eventsOf d).Pairwise (·.contacts < ·.contacts)
  flagged : ∀ e ∈ s.eventsOf d, e.contacts = s.contacts d → s.flag d = some ⟨e.sweep, s.contacts d⟩
  stamped : ∀ e ∈ s.eventsOf d, ∀ f ∈ s.flag d, e.sweep = f.sweep → e.contacts = f.contacts

/-- The sweep has written no event of the device. -/
def Silent (d : DeviceId) (me : ι) (s : OfflineStore ι) : Prop := ∀ e ∈ s.eventsOf d, e.sweep ≠ me

/-- The sweep is under way from a start `b`; where the flag is its own, it was set in that episode.
-/
structure Underway (d : DeviceId) (me : ι) (b : Snapshot) (s : OfflineStore ι) : Prop where
  sound : s.Sound d
  began : s.began me = some b
  le : b.contacts d ≤ s.contacts d
  last : s.contacts d = b.contacts d → s.last d = b.last d
  own : ∀ f ∈ s.flag d, f.sweep = me → f.contacts = b.contacts d

/-- What the other sweeps and the contacts leave to a sweep. -/
structure Others (d : DeviceId) (me : ι) (s s' : OfflineStore ι) : Prop where
  le : s.contacts d ≤ s'.contacts d
  last : s'.contacts d = s.contacts d → s'.last d = s.last d
  began : s'.began me = s.began me
  kept : ∀ e ∈ s.eventsOf d, e ∈ s'.eventsOf d
  mine : ∀ e ∈ s'.eventsOf d, e.sweep = me → e ∈ s.eventsOf d
  flag : ∀ f ∈ s'.flag d, f.sweep = me → f ∈ s.flag d

/-- What a sweep relies on. -/
def Rely (d : DeviceId) (me : ι) (s s' : OfflineStore ι) : Prop :=
  (s.Sound d → s'.Sound d) ∧ s.Others d me s'

def Promise (d : DeviceId) (me : ι) (s s' : OfflineStore ι) : Prop :=
  (s.Sound d → s'.Sound d) ∧ (∀ e ∈ s.eventsOf d, e ∈ s'.eventsOf d) ∧ ∀ j ≠ me, s.Others d j s'

/-- Nothing of the device has changed but for when the sweep `me` started. -/
lemma promise_of_same (hcontacts : s'.contacts d = s.contacts d) (hlast : s'.last d = s.last d)
    (hflag : s'.flag d = s.flag d) (hevents : s'.eventsOf d = s.eventsOf d)
    (hbegan : ∀ j ≠ me, s'.began j = s.began j) : Promise d me s s' := by
  refine ⟨fun hs => ⟨?_, ?_, ?_, ?_⟩, ?_, fun j hj => ⟨?_, fun _ => hlast, hbegan j hj, ?_, ?_, ?_⟩⟩
  · rw [hevents, hcontacts]
    exact hs.past
  · rw [hevents]
    exact hs.once
  · rw [hevents, hcontacts, hflag]
    exact hs.flagged
  · rw [hevents, hflag]
    exact hs.stamped
  · rw [hevents]
    exact fun _ h => h
  · exact le_of_eq hcontacts.symm
  · rw [hevents]
    exact fun _ h => h
  · rw [hevents]
    exact fun _ h _ => h
  · rw [hflag]
    exact fun _ h _ => h

lemma Promise.refl (s : OfflineStore ι) : Promise d me s s :=
  promise_of_same rfl rfl rfl rfl fun _ _ => rfl

lemma Underway.settled (h : s.Underway d me b) (hcontacts : s.contacts d = b.contacts d)
    {f : Flag ι} (hf : f ∈ s.flag d) (hsettled : s.Settled d f) : s.Alerted d b := by
  obtain ⟨hcurrent, e, he, hsweep⟩ := hsettled
  exact ⟨e, he, (h.sound.stamped e he f hf hsweep).trans (hcurrent.trans hcontacts)⟩

/-! ## What the commands promise -/

variable [DecidableEq ι]

lemma promise_contact (id : DeviceId) (fixTimeMs : Option Ms) (s : OfflineStore ι) :
    Promise d me s (OfflineCommand.run fleet (.contact id fixTimeMs) s).1 := by
  by_cases hid : id = d
  · subst hid
    have hcontacts : (OfflineCommand.run fleet (.contact id fixTimeMs) s).1.contacts id =
        s.contacts id + 1 := update_self ..
    refine ⟨fun hs => ⟨fun e he => ?_, hs.once, fun e he heq => ?_, hs.stamped⟩, fun _ h => h,
      fun j _ => ⟨?_, ?_, rfl, fun _ h => h, fun _ h _ => h, fun _ h _ => h⟩⟩
    · rw [hcontacts]
      exact le_trans (hs.past e he) (Nat.le_succ _)
    · -- the events so far were written before this contact
      rw [hcontacts] at heq
      exact absurd (hs.past e he) (by omega)
    · rw [hcontacts]
      exact Nat.le_succ _
    · intro heq
      rw [hcontacts] at heq
      omega
  · refine promise_of_same (update_of_ne (Ne.symm hid) ..)
      (update_of_ne (Ne.symm hid) ..) rfl rfl fun _ _ => rfl

/-- A flag is claimed by a sweep that has written no event. -/
lemma promise_setNx (hs : s.Silent d me) (id : DeviceId) :
    Promise d me s (OfflineCommand.run fleet (.setNx me id) s).1 := by
  unfold OfflineCommand.run
  dsimp only
  split
  · exact .refl s
  rename_i hfree
  by_cases hid : id = d
  · subst hid
    have hnone : s.flag id = none := by simpa using hfree
    refine ⟨fun h => ⟨h.past, h.once, fun e he heq => ?_, fun e he f hf heq => ?_⟩,
      fun _ h => h, fun j hj => ⟨le_refl _, fun _ => rfl, rfl, fun _ h => h, fun _ h _ => h,
        fun f hf heq => ?_⟩⟩
    · have hflag := h.flagged e he heq
      rw [hnone] at hflag
      cases hflag
    · have hf' : some _ = some f := (update_self id _ s.flag).symm.trans hf
      cases hf'
      exact absurd heq (hs e he)
    · have hf' : some _ = some f := (update_self id _ s.flag).symm.trans hf
      cases hf'
      exact absurd heq.symm hj
  · exact promise_of_same rfl rfl (update_of_ne (Ne.symm hid) ..) rfl fun _ _ => rfl

lemma promise_del {id : DeviceId} (h : id = d → s.Silent d me ∧
    ∀ f ∈ s.flag d, f.sweep = me ∨ f.contacts < s.contacts d) :
    Promise d me s (OfflineCommand.run fleet (.del id) s).1 := by
  by_cases hid : id = d
  · subst hid
    obtain ⟨hsilent, hflag⟩ := h rfl
    have hnone : (OfflineCommand.run fleet (.del id) s).1.flag id = none := update_self ..
    refine ⟨fun h => ⟨h.past, h.once, fun e he heq => ?_, fun e he f hf => ?_⟩,
      fun _ h => h, fun j hj => ⟨le_refl _, fun _ => rfl, rfl, fun _ h => h, fun _ h _ => h,
        fun f hf => ?_⟩⟩
    · rcases hflag _ (h.flagged e he heq) with hown | hearlier
      · exact absurd hown (hsilent e he)
      · exact absurd hearlier (lt_irrefl _)
    · rw [hnone] at hf
      cases hf
    · rw [hnone] at hf
      cases hf
  · exact promise_of_same rfl rfl (update_of_ne (Ne.symm hid) ..) rfl fun _ _ => rfl

lemma eventsOf_insert (rows : List RuleEventRow) :
    (OfflineCommand.run fleet (.insert me rows) s).1.eventsOf d = s.eventsOf d ++
      (rows.filter fun row => row.deviceId = d).map fun row => ⟨row, me, s.contacts d⟩ := by
  show (s.events ++ rows.map _).filter _ = _
  rw [filter_append, filter_map]
  congr 1
  refine map_congr_left fun row hrow => ?_
  rw [of_decide_eq_true (mem_filter.mp hrow).2]

lemma promise_insert (hsilent : s.Silent d me) {rows : List RuleEventRow}
    (hrows : (rows.filter fun row => row.deviceId = d).length ≤ 1)
    (hflag : ∀ row ∈ rows, row.deviceId = d → s.flag d = some ⟨me, s.contacts d⟩) :
    Promise d me s (OfflineCommand.run fleet (.insert me rows) s).1 := by
  have hevents : (OfflineCommand.run fleet (.insert me rows) s).1.eventsOf d = _ :=
    eventsOf_insert rows
  cases hown : rows.filter fun row => row.deviceId = d with
  | nil =>
    rw [hown, map_nil, append_nil] at hevents
    exact promise_of_same rfl rfl rfl hevents fun _ _ => rfl
  | cons row others =>
    rw [hown] at hrows
    obtain rfl : others = [] := length_eq_zero_iff.mp (by simpa using hrows)
    rw [hown, map_cons, map_nil] at hevents
    obtain ⟨hrow, hid⟩ := mem_filter.mp (hown ▸ mem_singleton_self row)
    have hflag' := hflag row hrow (of_decide_eq_true hid)
    have hmem : ∀ e, e ∈ (OfflineCommand.run fleet (.insert me rows) s).1.eventsOf d ↔
        e ∈ s.eventsOf d ∨ e = ⟨row, me, s.contacts d⟩ := by
      intro e
      rw [hevents, mem_append, mem_singleton]
    refine ⟨fun h => ⟨fun e he => ?_, ?_, fun e he heq => ?_, fun e he f hf heq => ?_⟩,
      fun e he => (hmem e).mpr (Or.inl he), fun j hj => ⟨le_refl _, fun _ => rfl, rfl,
        fun e he => (hmem e).mpr (Or.inl he), fun e he heq => ?_, fun _ h _ => h⟩⟩
    · rcases (hmem e).mp he with he | rfl
      · exact h.past e he
      · exact le_refl _
    · rw [hevents]
      refine pairwise_append.mpr ⟨h.once, pairwise_singleton _ _, fun e he e' he' => ?_⟩
      obtain rfl := mem_singleton.mp he'
      refine lt_of_le_of_ne (h.past e he) fun heq => ?_
      have hflag'' := h.flagged e he heq
      rw [hflag'] at hflag''
      exact hsilent e he (congrArg Flag.sweep (Option.some.inj hflag'')).symm
    · rcases (hmem e).mp he with he | rfl
      · exact h.flagged e he heq
      · exact hflag'
    · rcases (hmem e).mp he with he | rfl
      · exact h.stamped e he f hf heq
      · have hf' : f ∈ s.flag d := hf
        rw [hflag'] at hf'
        cases hf'
        rfl
    · rcases (hmem e).mp he with he | rfl
      · exact he
      · exact absurd heq.symm hj

/-! ## What survives the others -/

omit [DecidableEq ι] in
lemma stable_underway : Stable (Rely d me) (Underway d me b) := by
  intro s s' ⟨hsound, hothers⟩ h
  refine ⟨hsound h.sound, hothers.began.trans h.began, le_trans h.le hothers.le, fun heq => ?_,
    fun f hf hmine => h.own f (hothers.flag f hf hmine) hmine⟩
  have hcontacts : s.contacts d = b.contacts d :=
    le_antisymm (le_trans hothers.le (le_of_eq heq)) h.le
  exact (hothers.last (heq.trans hcontacts.symm)).trans (h.last hcontacts)

omit [DecidableEq ι] in
lemma stable_silent : Stable (Rely d me) (Silent d me) :=
  fun _ _ ⟨_, hothers⟩ h e he hmine => h e (hothers.mine e he hmine) hmine

omit [DecidableEq ι] in
lemma stable_alerted : Stable (Rely d me) (Alerted d b) :=
  fun _ _ ⟨_, hothers⟩ ⟨e, he, heq⟩ => ⟨e, hothers.kept e he, heq⟩

omit [DecidableEq ι] in
lemma stable_of {P : Prop} {J : OfflineStore ι → Prop} (hJ : Stable (Rely d me) J) :
    Stable (Rely d me) fun s => P → J s := fun s s' henv h hP => hJ s s' henv (h hP)

omit [DecidableEq ι] in
lemma stable_const (P : Prop) : Stable (Rely d me) fun _ => P := fun _ _ _ h => h

omit [DecidableEq ι] in
lemma Underway.next (h : s.Underway d me b) (hpromise : Promise d me s s')
    (hbegan : s'.began me = s.began me) (hcontacts : s'.contacts d = s.contacts d)
    (hlast : s'.last d = s.last d)
    (hown : ∀ f ∈ s'.flag d, f.sweep = me → f.contacts = b.contacts d) : s'.Underway d me b :=
  ⟨hpromise.1 h.sound, hbegan.trans h.began, hcontacts.symm ▸ h.le,
    fun heq => hlast.trans (h.last (hcontacts.symm.trans heq)), hown⟩

/-- A sweep that has written nothing yet. -/
def Before (d : DeviceId) (me : ι) (b : Snapshot) (s : OfflineStore ι) : Prop :=
  s.Underway d me b ∧ s.Silent d me

omit [DecidableEq ι] in
lemma stable_before : Stable (Rely d me) (Before d me b) := stable_underway.and stable_silent

end OfflineStore

open OfflineStore

/-! ## The commands that keep the alerts in order -/

variable [DecidableEq ι]

/-- Where the sweep is past the device's threshold. -/
def Due (fixed : FixedRule fleet d) (me : ι) (s : OfflineStore ι) : Prop :=
  ∀ b ∈ s.began me, PastThreshold fixed.thresholdH d b

/-- The reads of a pipeline that are about the device are answered; the device makes no contact
between the start of a sweep past its threshold and the sweep's `INSERT`; such a sweep finds the
flag only as that of an event of the episode; it writes under its own flag, and does not write what
it takes for an error; and a flag is deleted only by its own sweep or after a contact. -/
def Orderly (fixed : FixedRule fleet d) (me : ι) (s : OfflineStore ι) :
    OfflineCommand ι → Fate → Prop
  | .rules tenantId, fate => tenantId = fixed.tenantId → fate = .ok
  | .presence id, fate => id = d → fate = .ok
  | .last id, fate => id = d → fate = .ok ∧ (Due fixed me s → s.Undisturbed d me)
  | .exists id, _ =>
    id = d → Due fixed me s → s.Undisturbed d me ∧ ∀ f ∈ s.flag d, s.Settled d f
  | .setNx _ id, fate => id = d → fate = .ok ∧ s.Undisturbed d me ∧ ∀ f ∈ s.flag d, s.Settled d f
  | .insert _ rows, fate => (∃ row ∈ rows, row.deviceId = d) →
    fate ≠ .lost ∧ s.Undisturbed d me ∧ ∃ f ∈ s.flag d, f.sweep = me
  | .del id, _ => id = d → ∀ f ∈ s.flag d, f.sweep = me ∨ f.contacts < s.contacts d
  | _, _ => True

/-- A program that promises, among others, what they promise. -/
abbrev Guarded {α : Type} (fixed : FixedRule fleet d) (me : ι)
    (Q : Except Unit α → OfflineStore ι → Prop) (m : Sweep ι fleet α) (s : OfflineStore ι) : Prop :=
  Meets (Orderly fixed me) (fun _ => Rely d me) (fun _ => Promise d me) Q m s

section Sweep

variable {fixed : FixedRule fleet d} {me : ι} {b : Snapshot} {s : OfflineStore ι} {α : Type}
  {Q : Except Unit α → OfflineStore ι → Prop}

lemma guarded_threw {Q : α → OfflineStore ι → Prop} (e : Unit) (s : OfflineStore ι) :
    Guarded fixed me (Returning Q) (.threw e : Sweep ι fleet α) s :=
  .threw (fun _ => True) trivial (fun _ _ _ _ => trivial) fun _ _ => trivial

lemma guarded_piped {c : OfflineCommand ι} {a : c.Answer} {f : c.Answer → Sweep ι fleet α}
    (hread : ∀ s, (c.run fleet s).1 = s) (J : OfflineStore ι → Prop) (hs : J s)
    (hJ : Stable (Rely d me) J)
    (h : ∀ s, J s → ∀ a', (a' = (c.run fleet s).2 ∧ Orderly fixed me s c .ok) ∨
      (a' = a ∧ ∃ fate ≠ .ok, Orderly fixed me s c fate) → Guarded fixed me Q (f a') s) :
    Guarded fixed me Q (piped c a >>= f) s := by
  refine Meets.sendOr J hs hJ fun s hs fate hfate => ?_
  cases fate with
  | ok =>
    have hstate : ((offlineService ι fleet).answer c s .ok).1 = s := hread s
    rw [hstate]
    exact ⟨.refl s, h s hs _ (Or.inl ⟨rfl, hfate⟩)⟩
  | refused => exact ⟨.refl s, h s hs _ (Or.inr ⟨rfl, .refused, nofun, hfate⟩)⟩
  | lost =>
    have hstate : ((offlineService ι fleet).answer c s .lost).1 = s := hread s
    rw [hstate]
    exact ⟨.refl s, h s hs _ (Or.inr ⟨rfl, .lost, nofun, hfate⟩)⟩

lemma guarded_read {Q : α → OfflineStore ι → Prop} {c : OfflineCommand ι}
    {f : c.Answer → Sweep ι fleet α} (hread : ∀ s, (c.run fleet s).1 = s)
    (J : OfflineStore ι → Prop) (hs : J s) (hJ : Stable (Rely d me) J)
    (h : ∀ s a, J s → a = (c.run fleet s).2 → Guarded fixed me (Returning Q) (f a) s) :
    Guarded fixed me (Returning Q) (send c >>= f) s := by
  refine Meets.send J hs hJ (fun s hs => ?_) (fun s _ => ⟨.refl s, guarded_threw () s⟩)
    fun s _ => guarded_threw () _
  have hstate : ((offlineService ι fleet).run c s).1 = s := hread s
  rw [hstate]
  exact ⟨.refl s, h s _ hs rfl⟩

/-! ## The rules -/

omit [DecidableEq ι] in
lemma rulesOf_append (rules rules' : List OfflineRule) (accountId : String) :
    rulesOf (rules ++ rules') accountId = rulesOf rules accountId ++ rulesOf rules' accountId :=
  filter_append ..

lemma guarded_loadOfflineRules {tenants : List String} (hmem : fixed.tenantId ∈ tenants)
    (hnodup : tenants.Nodup) (hs : s.Before d me b) :
    Guarded fixed me (Ending (fun rules s => Before d me b s ∧
      rulesOf rules fixed.accountId = fixed.rules) fun _ => True)
      (loadOfflineRules tenants) s := by
  have hloop : Guarded fixed me (Ending (fun rules s => Before d me b s ∧
      rulesOf rules fixed.accountId = if fixed.tenantId ∈ tenants then fixed.rules else [])
      fun _ => True) (loadOfflineRules tenants) s := by
    refine Meets.foldlM (fun before rules s => Before d me b s ∧
      rulesOf rules fixed.accountId = if fixed.tenantId ∈ before then fixed.rules else [])
      (fun rules => stable_before.and (stable_const _))
      (fun before tenantId after rules s hl hs => ?_) ⟨hs, rfl⟩
    have hnotMem : tenantId ∉ before := by
      rw [hl] at hnodup
      exact fun hbefore => (nodup_append.mp hnodup).2.2 _ hbefore _ mem_cons_self rfl
    refine guarded_piped (fun _ => rfl) _ hs (stable_before.and (stable_const _))
      fun s hs entries hentries => ?_
    refine .done _ ⟨hs.1, ?_⟩ (stable_before.and (stable_const _)) fun s h => h
    rw [rulesOf_append, hs.2]
    by_cases htenant : tenantId = fixed.tenantId
    · subst htenant
      have hread : entries = (fleet s.nowMs).rules fixed.tenantId := by
        rcases hentries with ⟨hread, -⟩ | ⟨-, fate, hfate, horderly⟩
        · exact hread
        · exact absurd (horderly rfl) hfate
      rw [if_neg hnotMem, if_pos (mem_append_right _ (mem_singleton_self _)), hread, fixed.ownRules]
      rfl
    · have hread : rulesOf (offlineRules entries) fixed.accountId = [] := by
        rcases hentries with ⟨hread, -⟩ | ⟨hread, -⟩
        · rw [hread]
          exact fixed.otherRules _ _ htenant
        · rw [hread]
          rfl
      have hiff : fixed.tenantId ∈ before ++ [tenantId] ↔ fixed.tenantId ∈ before := by
        rw [mem_append, mem_singleton]
        exact or_iff_left fun heq => htenant heq.symm
      rw [hread, append_nil]
      simp only [hiff]
  refine hloop.mono fun r s hr => ?_
  cases r with
  | ok rules => exact ⟨hr.1, hr.2.trans (if_pos hmem)⟩
  | error e => trivial

/-! ## The devices -/

omit [DecidableEq ι] in
lemma mem_candidates {tenantMap : List (DeviceId × String)} (hmem : (d, fixed.tenantId) ∈ tenantMap)
    {accountMap : DeviceId → Option String} (haccount : accountMap d = some fixed.accountId)
    {rules : List OfflineRule} (hrules : rulesOf rules fixed.accountId = fixed.rules) :
    ⟨d, fixed.tenantId, fixed.accountId⟩ ∈ candidates tenantMap accountMap rules := by
  refine mem_filter.mpr ⟨mem_map.mpr ⟨_, hmem, ?_⟩, ?_⟩
  · dsimp only
    rw [haccount]
    rfl
  · rw [decide_eq_true_iff]
    exact ⟨fixed.account_ne, fun hnil => fixed.rules_ne (hrules.symm.trans hnil)⟩

omit [DecidableEq ι] in
lemma nodup_candidates {tenantMap : List (DeviceId × String)} (hnodup : (tenantMap.map (·.1)).Nodup)
    (accountMap : DeviceId → Option String) (rules : List OfflineRule) :
    ((candidates tenantMap accountMap rules).map (·.deviceId)).Nodup := by
  refine Nodup.sublist (filter_sublist.map _) ?_
  rw [map_map]
  exact hnodup

structure Loaded (fixed : FixedRule fleet d) (me : ι) (b : Snapshot) (before : List Candidate)
    (loaded : List DeviceState × List DeviceId) (s : OfflineStore ι) : Prop where
  underway : s.Before d me b
  ids : loaded.1.map (·.deviceId) = before.map (·.deviceId)
  flagged : ∀ id ∈ loaded.2, id ∈ before.map (·.deviceId)
  state : PastThreshold fixed.thresholdH d b → ∀ c ∈ before, c.deviceId = d → ∃ state ∈ loaded.1,
    state.deviceId = d ∧ state.accountId = c.accountId ∧
      state.lastContactMs = (b.last d).contactMs ∧ state.profileOfflineAfterH = fixed.profileH
  alerted : PastThreshold fixed.thresholdH d b → d ∈ loaded.2 → s.Alerted d b

omit [DecidableEq ι] in
lemma stable_loaded {before : List Candidate} {loaded : List DeviceState × List DeviceId} :
    Stable (Rely d me) (Loaded fixed me b before loaded) := by
  intro s s' henv h
  refine ⟨stable_before s s' henv h.underway, h.ids, h.flagged, h.state, fun hpast hmem => ?_⟩
  exact stable_alerted s s' henv (h.alerted hpast hmem)

lemma guarded_loadDeviceState {before : List Candidate} {c : Candidate}
    (hnew : c.deviceId ∉ before.map (·.deviceId)) {loaded : List DeviceState × List DeviceId}
    (hs : Loaded fixed me b before loaded s) :
    Guarded fixed me (Ending (Loaded fixed me b (before ++ [c])) fun _ => True)
      (loadDeviceState loaded c) s := by
  have hdue : ∀ s : OfflineStore ι, s.Before d me b → PastThreshold fixed.thresholdH d b →
      Due fixed me s := by
    intro s hs hpast b' hb'
    rw [hs.1.began] at hb'
    exact Option.some.inj hb' ▸ hpast
  refine guarded_piped (fun _ => rfl) _ hs stable_loaded fun s hs last hlast => ?_
  have hlast' : c.deviceId = d → PastThreshold fixed.thresholdH d b →
      last.contactMs = (b.last d).contactMs := by
    intro hid hpast
    rcases hlast with ⟨hread, horderly⟩ | ⟨-, fate, hfate, horderly⟩
    · have hsame := (horderly hid).2 (hdue s hs.underway hpast) b hs.underway.1.began
      have hread' : last = s.last c.deviceId := hread
      rw [hread', hid, hs.underway.1.last hsame]
    · exact absurd (horderly hid).1 hfate
  clear hlast
  refine guarded_piped (fun _ => rfl) _ hs stable_loaded fun s hs profileH hprofile => ?_
  have hprofile' : c.deviceId = d → profileH = fixed.profileH := by
    intro hid
    rcases hprofile with ⟨hread, -⟩ | ⟨-, fate, hfate, horderly⟩
    · have hread' : profileH = (fleet s.nowMs).presence c.deviceId := hread
      rw [hread', hid, fixed.profile]
    · exact absurd (horderly hid) hfate
  clear hprofile
  refine guarded_piped (fun _ => rfl) _ hs stable_loaded fun s hs flagged hflagged => ?_
  have halerted : c.deviceId = d → PastThreshold fixed.thresholdH d b → flagged = true →
      s.Alerted d b := by
    intro hid hpast htrue
    rcases hflagged with ⟨hread, horderly⟩ | ⟨hread, -⟩
    · obtain ⟨hsame, hsettled⟩ := horderly hid (hdue s hs.underway hpast)
      have hread' : flagged = (s.flag c.deviceId).isSome := hread
      rw [hread', hid] at htrue
      obtain ⟨f, hf⟩ := Option.isSome_iff_exists.mp htrue
      exact hs.underway.1.settled (hsame b hs.underway.1.began) hf (hsettled f hf)
    · rw [hread] at htrue
      cases htrue
  have hmap : (before ++ [c]).map (·.deviceId) = before.map (·.deviceId) ++ [c.deviceId] :=
    map_append ..
  refine .done _ ⟨hs.underway, ?_, fun id hid => ?_, fun hpast c' hc' hid => ?_,
    fun hpast hmem => ?_⟩ stable_loaded fun _ h => h
  · rw [hmap, map_append, hs.ids]
    rfl
  · rw [hmap, mem_append, mem_singleton]
    dsimp only at hid
    split at hid
    · rcases mem_append.mp hid with hid | hid
      · exact Or.inl (hs.flagged id hid)
      · exact Or.inr (mem_singleton.mp hid)
    · exact Or.inl (hs.flagged id hid)
  · rcases mem_append.mp hc' with hc' | hc'
    · obtain ⟨state, hstate, h⟩ := hs.state hpast c' hc' hid
      exact ⟨state, mem_append_left _ hstate, h⟩
    · obtain rfl := mem_singleton.mp hc'
      exact ⟨_, mem_append_right _ (mem_singleton_self _), hid, rfl, hlast' hid hpast,
        hprofile' hid⟩
  · dsimp only at hmem
    split at hmem
    · rcases mem_append.mp hmem with hmem | hmem
      · exact hs.alerted hpast hmem
      · exact halerted (mem_singleton.mp hmem).symm hpast ‹_›
    · exact hs.alerted hpast hmem

lemma guarded_loadDeviceStates {all : List Candidate} (hnodup : (all.map (·.deviceId)).Nodup)
    (hs : s.Before d me b) :
    Guarded fixed me (Ending (Loaded fixed me b all) fun _ => True) (loadDeviceStates all) s := by
  refine Meets.foldlM (Loaded fixed me b) (fun _ => stable_loaded)
    (fun before c after loaded s hl hs => guarded_loadDeviceState ?_ hs) ?_
  · rw [hl, map_append, map_cons] at hnodup
    exact fun hbefore => (nodup_append.mp hnodup).2.2 _ hbefore _ mem_cons_self rfl
  · exact ⟨hs, rfl, (fun _ hid => by cases hid), (fun _ _ hc => by cases hc), fun _ h => by cases h⟩

/-! ## The flags and the events -/

structure Claimed (d : DeviceId) (me : ι) (b : Snapshot) (before winners : List DeviceId)
    (s : OfflineStore ι) : Prop where
  ready : s.Before d me b
  mem : ∀ id ∈ winners, id ∈ before
  alerted : d ∈ before → d ∉ winners → s.Alerted d b

section Claimed

variable {before winners : List DeviceId} {id : DeviceId}

omit [DecidableEq ι] in
lemma stable_claimed : Stable (Rely d me) (Claimed d me b before winners) :=
  fun s s' henv h => ⟨stable_before s s' henv h.ready, h.mem,
    fun hmem hlost => stable_alerted s s' henv (h.alerted hmem hlost)⟩

omit [DecidableEq ι] in
lemma Claimed.won (h : Claimed d me b before winners s) :
    Claimed d me b (before ++ [id]) (winners ++ [id]) s := by
  refine ⟨h.ready, fun id' hmem => ?_, fun hmem hlost => ?_⟩
  · exact (mem_append.mp hmem).elim (fun hmem => mem_append_left _ (h.mem id' hmem))
      (mem_append_right _)
  · rcases mem_append.mp hmem with hmem | hmem
    · exact h.alerted hmem fun hwinner => hlost (mem_append_left _ hwinner)
    · exact absurd (mem_append_right _ hmem) hlost

omit [DecidableEq ι] in
/-- The flag of one more device was set before. -/
lemma Claimed.lost (h : Claimed d me b before winners s) (hid : id = d → s.Alerted d b) :
    Claimed d me b (before ++ [id]) winners s := by
  refine ⟨h.ready, fun id' hmem => mem_append_left _ (h.mem id' hmem), fun hmem hlost => ?_⟩
  rcases mem_append.mp hmem with hmem | hmem
  · exact h.alerted hmem hlost
  · exact hid (mem_singleton.mp hmem).symm

lemma Claimed.setNx (h : Claimed d me b before winners s)
    (hsame : id = d → s.contacts d = b.contacts d) :
    Claimed d me b before winners (OfflineCommand.run fleet (.setNx me id) s).1 := by
  have hpromise : Promise d me s (OfflineCommand.run fleet (.setNx me id) s).1 :=
    promise_setNx h.ready.2 id
  unfold OfflineCommand.run at hpromise ⊢
  dsimp only at hpromise ⊢
  split
  · exact h
  rename_i hfree
  rw [if_neg hfree] at hpromise
  refine ⟨⟨h.ready.1.next hpromise rfl rfl rfl fun f hf hmine => ?_, h.ready.2⟩, h.mem, h.alerted⟩
  by_cases hid : id = d
  · subst hid
    have hf' : some _ = some f := (update_self id _ s.flag).symm.trans hf
    cases hf'
    exact hsame rfl
  · have hf' : f ∈ s.flag d := (update_of_ne (Ne.symm hid) _ s.flag) ▸ hf
    exact h.ready.1.own f hf' hmine

lemma guarded_claimFlag (hs : Claimed d me b before winners s) :
    Guarded fixed me (Ending (fun winners => Claimed d me b (before ++ [id]) winners)
      fun _ => True) (do
        let won : Bool ← piped (.setNx me id) false
        pure (if won then winners ++ [id] else winners) : Sweep ι fleet (List DeviceId)) s := by
  refine Meets.sendOr _ hs stable_claimed fun s hs fate hfate => ?_
  have hpromise : Promise d me s (OfflineCommand.run fleet (.setNx me id) s).1 :=
    promise_setNx hs.ready.2 id
  have hsame : id = d → s.contacts d = b.contacts d := fun hid =>
    (hfate hid).2.1 b hs.ready.1.began
  have hset : Claimed d me b before winners (OfflineCommand.run fleet (.setNx me id) s).1 :=
    hs.setNx hsame
  cases fate with
  | ok =>
    have hnext : ∀ won : Bool, (OfflineCommand.run fleet (.setNx me id) s).2 = won →
        Claimed d me b (before ++ [id]) (if won then winners ++ [id] else winners)
          (OfflineCommand.run fleet (.setNx me id) s).1 := by
      intro won hwon
      cases won with
      | true => exact hset.won
      | false =>
        refine hset.lost fun hid => ?_
        subst hid
        unfold OfflineCommand.run at hwon ⊢
        dsimp only at hwon ⊢
        split at hwon
        · rename_i hflag
          obtain ⟨f, hf⟩ := Option.isSome_iff_exists.mp hflag
          rw [if_pos hflag]
          exact hs.ready.1.settled (hsame rfl) hf ((hfate rfl).2.2 f hf)
        · cases hwon
    exact ⟨hpromise, .done _ (hnext _ rfl) stable_claimed fun _ h => h⟩
  | refused =>
    refine ⟨.refl s, .done _ (hs.lost fun hid => ?_) stable_claimed fun _ h => h⟩
    exact absurd (hfate hid).1 nofun
  | lost =>
    refine ⟨hpromise, .done _ (hset.lost fun hid => ?_) stable_claimed fun _ h => h⟩
    exact absurd (hfate hid).1 nofun

lemma guarded_claimFlags (toFlag : List DeviceId) (hs : s.Before d me b) :
    Guarded fixed me (Ending (Claimed d me b toFlag) fun _ => True) (claimFlags me toFlag) s := by
  refine Meets.foldlM (Claimed d me b) (fun _ => stable_claimed)
    (fun before id after winners s _ hs => guarded_claimFlag hs) ?_
  exact ⟨hs, (fun _ hid => by cases hid), fun hid => by cases hid⟩

end Claimed

/-- Some flags are deleted, from an assertion that the sweep's own deletions keep as well. -/
lemma guarded_delFlags {ids : List DeviceId} (J : OfflineStore ι → Prop)
    (hJ : Stable (Rely d me) J) (hsilent : ∀ s, J s → d ∈ ids → s.Silent d me)
    (hkeeps : ∀ s id, J s → Promise d me s (OfflineCommand.run fleet (.del id) s).1 →
      J (OfflineCommand.run fleet (.del id) s).1) (hs : J s) :
    Guarded fixed me (Ending (fun _ => J) fun _ => True) (delFlags ids) s := by
  refine Meets.foldlM (fun _ _ => J) (fun _ => hJ) (fun before id after _ s hl hs => ?_) hs
  have hmem : id ∈ ids := hl ▸ mem_append_right _ mem_cons_self
  refine ⟨J, hs, hJ, fun s hs fate hfate => ?_⟩
  have hpromise : Promise d me s (OfflineCommand.run fleet (.del id) s).1 :=
    promise_del fun hid => ⟨hsilent s hs (hid ▸ hmem), hfate hid⟩
  cases fate with
  | ok => exact ⟨hpromise, .done J (hkeeps s id hs hpromise) hJ fun _ h => h⟩
  | refused => exact ⟨.refl s, .done J hs hJ fun _ h => h⟩
  | lost => exact ⟨hpromise, .done J (hkeeps s id hs hpromise) hJ fun _ h => h⟩

lemma OfflineStore.Underway.del (hs : s.Underway d me b) {id : DeviceId}
    (hpromise : Promise d me s (OfflineCommand.run fleet (.del id) s).1) :
    (OfflineCommand.run fleet (.del id) s).1.Underway d me b := by
  refine hs.next hpromise rfl rfl rfl fun f hf hmine => ?_
  by_cases hid : id = d
  · subst hid
    have hnone : none = some f := (update_self id none s.flag).symm.trans (Option.mem_def.mp hf)
    cases hnone
  · have hf' : f ∈ s.flag d := (update_of_ne (Ne.symm hid) _ s.flag) ▸ hf
    exact hs.own f hf' hmine

/-- What the sweep has written. -/
structure Wrote (d : DeviceId) (me : ι) (b : Snapshot) (rows : List RuleEventRow)
    (s : OfflineStore ι) : Prop where
  underway : s.Underway d me b
  alerted : (∃ row ∈ rows, row.deviceId = d) → s.Alerted d b
  silent : (∀ row ∈ rows, row.deviceId ≠ d) → s.Silent d me

omit [DecidableEq ι] in
lemma stable_wrote {rows : List RuleEventRow} : Stable (Rely d me) (Wrote d me b rows) :=
  fun s s' henv h => ⟨stable_underway s s' henv h.underway,
    fun hrow => stable_alerted s s' henv (h.alerted hrow),
    fun hrow => stable_silent s s' henv (h.silent hrow)⟩

lemma guarded_writeRuleEvents (winners : List DeviceId) {rows : List RuleEventRow}
    (hrows : (rows.filter fun row => row.deviceId = d).length ≤ 1) (hs : s.Before d me b) :
    Guarded fixed me (Ending (fun _ => Wrote d me b rows) fun _ => True)
      (writeRuleEvents me winners rows) s := by
  unfold writeRuleEvents
  split
  · rename_i hnil
    refine .done (Wrote d me b rows) ⟨hs.1, fun ⟨row, hrow, _⟩ => ?_, fun _ => hs.2⟩ stable_wrote
      fun _ h => h
    rw [hnil] at hrow
    cases hrow
  have hinsert : Guarded fixed me (Ending (fun _ => Wrote d me b rows) (Before d me b))
      (send (.insert me rows)) s := by
    refine ⟨Before d me b, hs, stable_before, fun s hs fate hfate => ?_⟩
    have hflag : ∀ row ∈ rows, row.deviceId = d → s.flag d = some ⟨me, s.contacts d⟩ := by
      intro row hrow hid
      obtain ⟨-, hsame, f, hf, hmine⟩ := hfate ⟨row, hrow, hid⟩
      have hcontacts := (hs.1.own f hf hmine).trans (hsame b hs.1.began).symm
      rw [Option.mem_def.mp hf, ← hmine, ← hcontacts]
    have hpromise : Promise d me s (OfflineCommand.run fleet (.insert me rows) s).1 :=
      promise_insert hs.2 hrows hflag
    have hnext := hs.1.next hpromise rfl rfl rfl hs.1.own
    have hevents : (OfflineCommand.run fleet (.insert me rows) s).1.eventsOf d = _ :=
      eventsOf_insert rows
    have hsilent : (∀ row ∈ rows, row.deviceId ≠ d) →
        (OfflineCommand.run fleet (.insert me rows) s).1.Silent d me := by
      intro hnone
      have hfilter : (rows.filter fun row => row.deviceId = d) = [] :=
        filter_eq_nil_iff.mpr fun row hrow heq => hnone row hrow (of_decide_eq_true heq)
      unfold Silent
      rw [hevents, hfilter, map_nil, append_nil]
      exact hs.2
    cases fate with
    | ok =>
      refine ⟨hpromise, .done (Wrote d me b rows) ⟨hnext, fun ⟨row, hrow, hid⟩ => ?_, hsilent⟩
        stable_wrote fun _ h => h⟩
      refine ⟨⟨row, me, s.contacts d⟩, ?_, (hfate ⟨row, hrow, hid⟩).2.1 b hs.1.began⟩
      show _ ∈ (OfflineCommand.run fleet (.insert me rows) s).1.eventsOf d
      rw [hevents]
      refine mem_append_right _ (mem_map.mpr ⟨row, mem_filter.mpr ⟨hrow, ?_⟩, rfl⟩)
      exact decide_eq_true hid
    | refused => exact ⟨.refl s, .threw _ hs stable_before fun _ h => h⟩
    | lost =>
      refine ⟨hpromise, .threw _ ⟨hnext, hsilent fun row hrow hid => ?_⟩ stable_before fun _ h => h⟩
      exact (hfate ⟨row, hrow, hid⟩).1 rfl
  refine Meets.attempt hinsert (fun _ _ h => h) fun e s hs => ?_
  have hdel : Guarded fixed me (Ending (fun _ => Before d me b) fun _ => True)
      (delFlags winners) s :=
    guarded_delFlags _ stable_before (fun s hs _ => hs.2)
      (fun s id hs hpromise => ⟨hs.1.del hpromise, hs.2⟩) hs
  exact hdel.bind (fun _ s _ => .threw (fun _ => True) trivial (fun _ _ _ _ => trivial)
    fun _ _ => trivial) fun _ _ _ => trivial

/-! ## The sweep -/

/-- A sweep that started past the threshold has left an event of the episode. -/
def Complete (fixed : FixedRule fleet d) (me : ι) (_ : List RuleEventRow) (s : OfflineStore ι) :
    Prop :=
  ∀ b ∈ s.began me, PastThreshold fixed.thresholdH d b → s.Alerted d b

lemma guarded_keeps {P : Prop} {m : Sweep ι fleet α} (hm : Guarded fixed me Q m s)
    (hs : P → s.Alerted d b) :
    Guarded fixed me (fun r s => Q r s ∧ (P → s.Alerted d b)) m s :=
  hm.frame (fun _ => stable_of stable_alerted)
    (fun _ _ _ hpromise h hP => (h hP).imp fun e he => ⟨hpromise.2.1 e he.1, he.2⟩) hs

lemma guarded_sweepCandidates {all : List Candidate} {rules : List OfflineRule}
    (hmem : ⟨d, fixed.tenantId, fixed.accountId⟩ ∈ all)
    (hnodup : (all.map (·.deviceId)).Nodup) (hrules : rulesOf rules fixed.accountId = fixed.rules)
    (hs : s.Before d me b) :
    Guarded fixed me (Returning (Complete fixed me)) (sweepCandidates me b.nowMs all rules) s := by
  refine (guarded_loadDeviceStates hnodup hs).bind (fun loaded s hs => ?_) fun _ _ _ => trivial
  have hids : (loaded.1.map (·.deviceId)).Nodup := hs.ids ▸ hnodup
  generalize hresult : sweepOffline loaded.1 rules loaded.2 b.nowMs = result
  have hflagged : PastThreshold fixed.thresholdH d b → d ∉ loaded.2 → d ∈ result.toFlag := by
    intro hpast hfree
    obtain ⟨contactMs, hcontact, hpast'⟩ := id hpast
    obtain ⟨state, hstate, hid, haccount, hlast, hprofile⟩ := hs.state hpast _ hmem rfl
    have hfiring : firing (posH state.profileOfflineAfterH) (rulesOf rules state.accountId) =
        some (fixed.rule, fixed.thresholdH) := by
      rw [haccount, hprofile, hrules, fixed.firing_eq]
    subst hid hresult
    exact mem_toFlag hstate (hlast.trans hcontact) hfiring hpast' hfree
  have hnoClear : d ∈ result.toClear → d ∉ result.toFlag := by
    subst hresult
    exact notMem_toFlag hids
  have hevents : result.events.map (·.deviceId) = result.toFlag := by
    subst hresult
    exact map_events
  have hnodupFlag : result.toFlag.Nodup := by
    subst hresult
    exact nodup_toFlag hids
  have halready := hs.alerted
  refine (guarded_keeps (P := PastThreshold fixed.thresholdH d b ∧ d ∈ loaded.2)
    (guarded_claimFlags result.toFlag hs.underway) fun h => halready h.1 h.2).bind
      (fun winners s hs => ?_) fun _ _ _ => trivial
  obtain ⟨hclaimed, halready⟩ := hs
  generalize hwon : result.events.filter (fun e => decide (e.deviceId ∈ winners)) = wonEvents
  have hwonNodup : (wonEvents.map (·.deviceId)).Nodup := by
    refine Nodup.sublist ?_ (hevents ▸ hnodupFlag)
    rw [← hwon]
    exact filter_sublist.map _
  have hrows : (wonEvents.filter fun row => row.deviceId = d).length ≤ 1 := by
    have hcount : (wonEvents.map (·.deviceId)).count d ≤ 1 := nodup_iff_count_le_one.mp hwonNodup d
    rw [count, countP_map, countP_eq_length_filter] at hcount
    exact hcount
  have hwinner : d ∈ result.toFlag → d ∈ winners → ∃ row ∈ wonEvents, row.deviceId = d := by
    intro hflag hwinner
    obtain ⟨event, hevent, rfl⟩ := mem_map.mp (hevents ▸ hflag)
    exact ⟨event, hwon ▸ mem_filter.mpr ⟨hevent, decide_eq_true hwinner⟩, rfl⟩
  have halerted : ∀ s : OfflineStore ι, Wrote d me b wonEvents s →
      (d ∈ result.toFlag → d ∉ winners → s.Alerted d b) →
      (PastThreshold fixed.thresholdH d b ∧ d ∈ loaded.2 → s.Alerted d b) →
      PastThreshold fixed.thresholdH d b → s.Alerted d b := by
    intro s hwrote hlost halready hpast
    by_cases hfree : d ∈ loaded.2
    · exact halready ⟨hpast, hfree⟩
    by_cases hwins : d ∈ winners
    · exact hwrote.alerted (hwinner (hflagged hpast hfree) hwins)
    · exact hlost (hflagged hpast hfree) hwins
  have hnoClear' : d ∈ result.toClear → ∀ row ∈ wonEvents, row.deviceId ≠ d := by
    intro hclear row hrow hid
    rw [← hwon] at hrow
    refine hnoClear hclear ?_
    rw [← hevents, ← hid]
    exact mem_map_of_mem (mem_filter.mp hrow).1
  refine (guarded_keeps (guarded_keeps (P := d ∈ result.toFlag ∧ d ∉ winners)
    (guarded_writeRuleEvents winners hrows hclaimed.ready)
    fun h => hclaimed.alerted h.1 h.2) halready).bind (fun _ s hs => ?_) fun _ _ _ => trivial
  obtain ⟨⟨hwrote, hlost⟩, halready⟩ := hs
  have hstable : Stable (Rely d me) fun s =>
      (Underway d me b s ∧ (d ∈ result.toClear → Silent d me s)) ∧
      (PastThreshold fixed.thresholdH d b → Alerted d b s) :=
    (stable_underway.and (stable_of stable_silent)).and (stable_of stable_alerted)
  refine (guarded_delFlags _ hstable (fun s hs => hs.1.2)
    (fun s id hs hpromise => ⟨⟨hs.1.1.del hpromise, hs.1.2⟩, hs.2⟩)
    ⟨⟨hwrote.underway, fun hclear => hwrote.silent (hnoClear' hclear)⟩,
      halerted s hwrote (fun hflag hlost' => hlost ⟨hflag, hlost'⟩) halready⟩).bind
    (fun _ s hs => ?_) fun _ _ _ => trivial
  refine .done _ hs hstable fun s hs b' hb' => ?_
  rw [hs.1.1.began] at hb'
  exact Option.some.inj hb' ▸ hs.2

/-- A sweep that has not started. -/
def Idle (d : DeviceId) (me : ι) (s : OfflineStore ι) : Prop :=
  s.Sound d ∧ s.Silent d me ∧ ∀ f ∈ s.flag d, f.sweep ≠ me

omit [DecidableEq ι] in
lemma stable_idle : Stable (Rely d me) (Idle d me) :=
  fun s s' henv h => ⟨henv.1 h.1, stable_silent s s' henv h.2.1,
    fun f hf hmine => h.2.2 f (henv.2.flag f hf hmine) hmine⟩

lemma before_begin (hs : Idle d me s) :
    (OfflineCommand.run fleet (.begin me) s).1.Before d me ⟨s.nowMs, s.last, s.contacts⟩ := by
  have hpromise : Promise d me s (OfflineCommand.run fleet (.begin me) s).1 :=
    promise_of_same rfl rfl rfl rfl fun j hj => update_of_ne hj ..
  refine ⟨⟨hpromise.1 hs.1, update_self .., le_refl _, fun _ => rfl, fun f hf hmine => ?_⟩, hs.2.1⟩
  exact absurd hmine (hs.2.2 f hf)

lemma guarded_sweepRegistry {tenantMap : List (DeviceId × String)}
    (hregistered : (d, fixed.tenantId) ∈ tenantMap) (hnodup : (tenantMap.map (·.1)).Nodup)
    {accountMap : DeviceId → Option String} (haccount : accountMap d = some fixed.accountId)
    (hs : s.Before d me b) :
    Guarded fixed me (Returning (Complete fixed me)) (sweepRegistry me b.nowMs tenantMap accountMap)
      s := by
  have hmem : fixed.tenantId ∈ (tenantMap.map (·.2)).eraseDups :=
    mem_eraseDups.mpr (mem_map_of_mem hregistered)
  unfold sweepRegistry
  dsimp only
  rw [if_neg (ne_nil_of_mem hmem)]
  refine (guarded_loadOfflineRules hmem (nodup_eraseDups _) hs).bind (fun rules s hs => ?_)
    fun _ _ _ => trivial
  obtain ⟨hs, hrules⟩ := hs
  have hne : rules ≠ [] := by
    intro hnil
    rw [hnil] at hrules
    exact fixed.rules_ne hrules.symm
  have hcandidate := mem_candidates hregistered haccount hrules
  rw [if_neg hne, if_neg (ne_nil_of_mem hcandidate)]
  exact guarded_sweepCandidates hcandidate (nodup_candidates hnodup _ _) hrules hs

/-- **One sweep among others.** -/
lemma guarded_runOfflineSweep (hs : Idle d me s) :
    Guarded fixed me (Returning (Complete fixed me)) (runOfflineSweep me) s := by
  have hregistry : ∀ (b : Snapshot) (s : OfflineStore ι) (nowMs : Ms), nowMs = b.nowMs →
      s.Before d me b → Guarded fixed me (Returning (Complete fixed me)) (do
        let tenantMap : List (DeviceId × String) ← send .deviceTenant
        let accountMap : DeviceId → Option String ← send .deviceAccount
        sweepRegistry me nowMs tenantMap accountMap : Sweep ι fleet (List RuleEventRow)) s := by
    rintro b s nowMs rfl hs
    refine guarded_read (fun _ => rfl) _ hs stable_before fun s' tenantMap hs' htenantMap => ?_
    refine guarded_read (fun _ => rfl) _ hs' stable_before fun s'' accountMap hs'' haccountMap => ?_
    have htenantMap' : tenantMap = (fleet s'.nowMs).deviceTenant := htenantMap
    have haccountMap' : accountMap = (fleet s''.nowMs).deviceAccount := haccountMap
    refine guarded_sweepRegistry ?_ ?_ ?_ hs''
    · rw [htenantMap']
      exact fixed.tenant _
    · rw [htenantMap']
      exact (fleet s'.nowMs).nodup
    · rw [haccountMap']
      exact fixed.account _
  refine Meets.send _ hs stable_idle (fun s hs => ?_)
    (fun s _ => ⟨.refl s, guarded_threw () s⟩) fun s _ => guarded_threw () _
  refine ⟨promise_of_same rfl rfl rfl rfl fun j hj => update_of_ne hj .., ?_⟩
  have hbegun : Before d me _ (OfflineCommand.run fleet (.begin me) s).1 := before_begin hs
  exact hregistry _ _ _ (by rfl) hbegun

/-- A contact, or the passing of time. -/
lemma guarded_send {c : OfflineCommand ι} {a : List RuleEventRow}
    (hpromise : ∀ s, Promise d me s (c.run fleet s).1) (Q : OfflineStore ι → Prop) (hQ : ∀ s, Q s) :
    Guarded fixed me (Returning fun _ => Q) (send c >>= fun _ => .done a) s := by
  refine Meets.send (fun _ => True) trivial (fun _ _ _ _ => trivial) (fun s _ => ?_)
    (fun s _ => ⟨.refl s, guarded_threw () s⟩) fun s _ => guarded_threw () _
  exact ⟨hpromise s, .done (fun _ => True) trivial (fun _ _ _ _ => trivial) fun s _ => hQ s⟩

end Sweep

/-! ## Any sweeps and contacts in any order -/

section Pool

variable {calls : ι → OfflineCall} {nowMs : Ms} {last : DeviceId → LastMarker}

/-- No sweep has run yet. -/
def OfflineStore.fresh (nowMs : Ms) (last : DeviceId → LastMarker) : OfflineStore ι :=
  ⟨nowMs, last, fun _ => none, [], fun _ => 0, fun _ => none⟩

/-- Sweeps and contacts before any of them starts. -/
def offlineCalls (fleet : Ms → Fleet) (calls : ι → OfflineCall) (s : OfflineStore ι) :
    Pool ι (offlineService ι fleet) Unit (List RuleEventRow) := ⟨s, fun i => (calls i).program i⟩

def InOrder (fixed : FixedRule fleet d)
    (p : Pool ι (offlineService ι fleet) Unit (List RuleEventRow)) (i : ι) (c : OfflineCommand ι)
    (fate : Fate) : Prop := Orderly fixed i p.state c fate

/-- **One event to an episode**: between any two the device made contact, and where a sweep that
started past the threshold has returned, there is one of the episode. -/
theorem one_event_per_episode (fixed : FixedRule fleet d)
    {p : Pool ι (offlineService ι fleet) Unit (List RuleEventRow)}
    (hrun : Pool.Run (InOrder fixed) (offlineCalls fleet calls (.fresh nowMs last)) p) :
    (p.state.eventsOf d).Pairwise (·.contacts < ·.contacts) ∧
      ∀ i rows, calls i = .sweep → p.thread i = .done rows → ∀ b ∈ p.state.began i,
        PastThreshold fixed.thresholdH d b → p.state.Alerted d b := by
  have hcompatible : Pool.Compatible (InOrder (ι := ι) fixed) (fun i => Orderly fixed i)
      (fun i _ => Rely d i) (fun i _ => Promise d i) :=
    fun _ _ _ _ _ _ horderly => ⟨horderly, fun hpromise j hj => ⟨hpromise.1, hpromise.2.2 j hj⟩⟩
  have hfresh : (OfflineStore.fresh nowMs last : OfflineStore ι).Sound d :=
    ⟨(fun _ h => by cases h), Pairwise.nil, (fun _ h => by cases h), fun _ h => by cases h⟩
  have hmeets : (offlineCalls fleet calls (.fresh nowMs last)).Meets (fun i => Orderly fixed i)
      (fun i _ => Rely d i) (fun i _ => Promise d i)
      (fun i => Returning fun rows s => calls i = .sweep → Complete fixed i rows s) := by
    intro i
    show ((calls i).program i).Meets _ _ _ (Returning fun rows s => calls i = _ → _) _
    cases hcall : calls i with
    | sweep =>
      refine (guarded_runOfflineSweep ⟨hfresh, (fun _ h => by cases h), fun _ h => by cases h⟩).mono
        fun r s hr => ?_
      cases r with
      | ok rows => exact fun _ => hr
      | error e => trivial
    | contact id fixTimeMs =>
      refine (guarded_send (promise_contact id fixTimeMs) (fun _ => True) fun _ => trivial).mono
        fun r s _ => ?_
      cases r with
      | ok rows => exact fun h => by cases h
      | error e => trivial
    | tick ms =>
      refine (guarded_send (fun s => promise_of_same rfl rfl rfl rfl fun _ _ => rfl) (fun _ => True)
        fun _ => trivial).mono fun r s _ => ?_
      cases r with
      | ok rows => exact fun h => by cases h
      | error e => trivial
  have hsound : (OfflineStore.fresh nowMs last : OfflineStore ι).Sound d → p.state.Sound d :=
    hrun.keeps hcompatible hmeets (I := fun s s' => s.Sound d → s'.Sound d) (fun _ h => h)
      (fun _ _ _ h h' hs => h' (h hs)) fun _ _ _ _ hpromise => hpromise.1
  refine ⟨(hsound hfresh).once, fun i rows hsweep hdone b hb hpast => ?_⟩
  exact (hrun.meets hcompatible hmeets).returned hdone hsweep b hb hpast

instance (thresholdH : ℚ) (b : Snapshot) : Decidable (PastThreshold thresholdH d b) :=
  inferInstanceAs (Decidable (∃ contactMs ∈ (b.last d).contactMs, _))

instance (b : Snapshot) (s : OfflineStore ι) : Decidable (s.Alerted d b) :=
  inferInstanceAs (Decidable (∃ e ∈ s.eventsOf d, _))

instance (fixed : FixedRule fleet d) (me : ι) (s : OfflineStore ι) (c : OfflineCommand ι)
    (fate : Fate) : Decidable (Orderly fixed me s c fate) := by
  cases c <;> unfold Orderly <;> (try unfold Due Undisturbed Settled) <;> infer_instance

instance (fixed : FixedRule fleet d)
    (p : Pool ι (offlineService ι fleet) Unit (List RuleEventRow)) (i : ι) (c : OfflineCommand ι)
    (fate : Fate) : Decidable (InOrder fixed p i c fate) :=
  inferInstanceAs (Decidable (Orderly fixed i p.state c fate))

end Pool

/-! One tracker, whose account has a rule of one hour. -/

def loneTracker : Fleet where
  deviceTenant := [(1, "tenant")]
  deviceAccount id := if id = 1 then some "account" else none
  rules tenantId :=
    if tenantId = "tenant" then [⟨"rule", "account", "device_offline", none, some 1⟩] else []
  presence _ := none
  nodup := by decide

def loneRule : FixedRule (fun _ => loneTracker) 1 where
  tenantId := "tenant"
  accountId := "account"
  rules := [⟨"rule", "account", some 1⟩]
  profileH := none
  rule := ⟨"rule", "account", some 1⟩
  thresholdH := 1
  account_ne := by decide
  tenant _ := mem_singleton_self _
  account _ := rfl
  ownRules _ := by decide
  otherRules _ other hother := by
    show rulesOf (offlineRules (if other = "tenant" then _ else _)) _ = _
    rw [if_neg hother]
    rfl
  profile _ := rfl
  firing_eq := by decide +kernel

/-- A sweep two hours after the last contact, a contact, a sweep, and a sweep two hours later. -/
def twoEpisodes : Fin 5 → OfflineCall
  | 0 => .sweep
  | 1 => .contact 1 none
  | 2 => .sweep
  | 3 => .tick 7200000
  | 4 => .sweep

def twoHoursOffline : OfflineStore (Fin 5) := .fresh 7200000 fun _ => ⟨none, some 0⟩

/-- One after the other. -/
def inTurn : List (Fin 5 × Fate) :=
  replicate 9 ((0 : Fin 5), Fate.ok) ++
    ((1 : Fin 5), Fate.ok) :: replicate 8 ((2 : Fin 5), Fate.ok) ++
    ((3 : Fin 5), Fate.ok) :: replicate 9 ((4 : Fin 5), Fate.ok)

/-- The run in which each starts when the one before has ended. -/
def twoAlerts : Option (Pool (Fin 5) (offlineService (Fin 5) fun _ => loneTracker) Unit
    (List RuleEventRow)) :=
  (offlineCalls (fun _ => loneTracker) twoEpisodes twoHoursOffline).execWith (InOrder loneRule)
    inTurn

theorem one_event_per_episode_in_turn : ∃ p, twoAlerts = some p ∧ (p.state.eventsOf 1).length = 2 ∧
    (p.state.eventsOf 1).Pairwise (·.contacts < ·.contacts) ∧
    ∃ b ∈ p.state.began 4, PastThreshold 1 1 b ∧ p.state.Alerted 1 b := by
  have hlength : twoAlerts.map (fun p => (p.state.eventsOf 1).length) = some 2 := by decide +kernel
  have hreturned : (twoAlerts.bind fun p => (p.thread 4).returned).isSome := by decide +kernel
  have hbegan : ∃ b ∈ twoAlerts.bind fun p => p.state.began 4, PastThreshold 1 1 b := by
    decide +kernel
  cases h : twoAlerts with
  | none =>
    rw [h] at hlength
    cases hlength
  | some p =>
    rw [h] at hlength hreturned hbegan
    obtain ⟨rows, hrows⟩ := Option.isSome_iff_exists.mp hreturned
    obtain ⟨b, hb, hpast⟩ := hbegan
    have hevents := one_event_per_episode loneRule (Pool.run_execWith _ _ h)
    exact ⟨p, rfl, Option.some.inj hlength, hevents.1, b, hb, hpast,
      hevents.2 4 rows rfl (eq_done_of_returned hrows) b hb hpast⟩

/-- No sweep runs while the tracker is back. -/
def sweepMissed : List (Fin 5 × Fate) :=
  replicate 9 (0, Fate.ok) ++ (1, Fate.ok) :: (3, Fate.ok) :: replicate 7 (4, Fate.ok)

/-- The flag of the first episode is still there. -/
theorem episode_silenced :
    ∃ p, (offlineCalls (fun _ => loneTracker) twoEpisodes twoHoursOffline).Reaches p ∧
      (p.thread 4).returned = some [] ∧
      ∃ b ∈ p.state.began 4, PastThreshold 1 1 b ∧ ¬ p.state.Alerted 1 b :=
  ⟨_, Pool.reaches_exec sweepMissed _, by decide +kernel⟩

end Orbetra.Offline
