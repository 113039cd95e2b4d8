import Orbetra.Framework.Async
import Orbetra.Records

/-!
# The offline alert

`sweepOffline` and `runOfflineSweep`: a device that has not made contact for longer than the
threshold of its account's rule gets one `device_offline` event.  A flag in Redis, claimed before
the `INSERT`, stands for the event of the current episode; the sweep that finds the device back
deletes it.

Sweeps of any replicas and contacts run in any order of their steps, and each call fails or not.  An
episode is known by the number of contacts that the device has made before it.  Where a sweep finds
the flag only as its own or as that of an event of the same episode, there is one event to an
episode (`one_event_per_episode`).  A flag that outlives its episode silences the next
(`episode_silenced`).

The thirty days after which a flag expires are left out.
-/

namespace Orbetra.Offline

open List Function

/-! ## The rules -/

def defaultOfflineH : ℚ := 26

structure OfflineRule where
  ruleId : String
  accountId : String
  afterH : Option ℚ
  deriving DecidableEq

/-- The fields `fixTimeMs` and `serverTimeMs` of `device:<id>:last`. -/
structure LastMarker where
  fixTimeMs : Option Ms
  serverTimeMs : Option Ms
  deriving DecidableEq

namespace LastMarker

/-- The last contact by the server's clock, or else by the device's. -/
def contactMs (m : LastMarker) : Option Ms := m.serverTimeMs.or m.fixTimeMs

end LastMarker

structure DeviceState where
  deviceId : DeviceId
  tenantId : String
  accountId : String
  lastFixMs : Option Ms
  lastContactMs : Option Ms
  profileOfflineAfterH : Option ℚ
  deriving DecidableEq

/-- A `device_offline` event, with its payload. -/
structure RuleEventRow where
  tenantId : String
  accountId : String
  deviceId : DeviceId
  ruleId : String
  atMs : Ms
  lastFixMs : Option Ms
  thresholdH : ℚ
  offlineH : ℤ
  deriving DecidableEq

/-- A threshold that is not positive is ignored. -/
def posH (v : Option ℚ) : Option ℚ := v.filter (0 < ·)

/-- The rule's own threshold, or the profile's, or the default. -/
def effectiveH (profileH : Option ℚ) (r : OfflineRule) : ℚ :=
  ((posH r.afterH).or profileH).getD defaultOfflineH

/-- The first of the rules with the smallest threshold, and the threshold. -/
def firing (profileH : Option ℚ) (rules : List OfflineRule) : Option (OfflineRule × ℚ) :=
  rules.foldl (fun best r => match best with
    | none => some (r, effectiveH profileH r)
    | some (_, thresholdH) =>
      if effectiveH profileH r < thresholdH then some (r, effectiveH profileH r) else best) none

/-- What a sweep makes of a device. -/
inductive Verdict
  | fire (event : RuleEventRow)
  | clear
  | keep
  deriving DecidableEq

/-- The loop's body in `sweepOffline`, for the rules of the device's account. -/
def verdict (rules : List OfflineRule) (flagged : Bool) (nowMs : Ms) (d : DeviceState) : Verdict :=
  match d.lastContactMs.or d.lastFixMs, firing (posH d.profileOfflineAfterH) rules with
  | some contactMs, some (rule, thresholdH) =>
    let offlineMs := nowMs - contactMs
    if thresholdH * 3600000 ≤ offlineMs then
      if flagged then .keep
      else .fire {
        tenantId := d.tenantId
        accountId := d.accountId
        deviceId := d.deviceId
        ruleId := rule.ruleId
        atMs := nowMs
        lastFixMs := d.lastFixMs
        thresholdH := thresholdH
        offlineH := ⌊(offlineMs : ℚ) / 3600000⌋ }
    else if flagged then .clear
    else .keep
  | _, _ => .keep

structure OfflineSweepResult where
  events : List RuleEventRow
  toFlag : List DeviceId
  toClear : List DeviceId
  deriving DecidableEq

def OfflineSweepResult.add (out : OfflineSweepResult) (d : DeviceState) :
    Verdict → OfflineSweepResult
  | .fire event => { out with
      events := out.events ++ [event]
      toFlag := out.toFlag ++ [d.deviceId] }
  | .clear => { out with toClear := out.toClear ++ [d.deviceId] }
  | .keep => out

def rulesOf (rules : List OfflineRule) (accountId : String) : List OfflineRule :=
  rules.filter fun r => r.accountId = accountId

def sweepOffline (devices : List DeviceState) (rules : List OfflineRule) (flagged : List DeviceId)
    (nowMs : Ms) : OfflineSweepResult :=
  devices.foldl (fun out d =>
    out.add d (verdict (rulesOf rules d.accountId) (d.deviceId ∈ flagged) nowMs d)) ⟨[], [], []⟩

def Verdict.event? : Verdict → Option RuleEventRow
  | .fire event => some event
  | _ => none

section Sweep

variable {devices : List DeviceState} {rules : List OfflineRule} {flagged : List DeviceId}
  {nowMs : Ms}

/-- What the sweep makes of one of its devices. -/
abbrev judged (rules : List OfflineRule) (flagged : List DeviceId) (nowMs : Ms) (d : DeviceState) :
    Verdict := verdict (rulesOf rules d.accountId) (d.deviceId ∈ flagged) nowMs d

lemma sweepOffline_eq : sweepOffline devices rules flagged nowMs =
    { events := devices.filterMap fun d => (judged rules flagged nowMs d).event?
      toFlag :=
        (devices.filter fun d => (judged rules flagged nowMs d).event?.isSome).map (·.deviceId)
      toClear :=
        (devices.filter fun d => judged rules flagged nowMs d = .clear).map (·.deviceId) } := by
  suffices hrest : ∀ out : OfflineSweepResult,
      devices.foldl (fun out d => out.add d (judged rules flagged nowMs d)) out =
        { events := out.events ++ devices.filterMap fun d => (judged rules flagged nowMs d).event?
          toFlag := out.toFlag ++
            (devices.filter fun d => (judged rules flagged nowMs d).event?.isSome).map (·.deviceId)
          toClear := out.toClear ++
            (devices.filter fun d => judged rules flagged nowMs d = .clear).map (·.deviceId) } from
    hrest ⟨[], [], []⟩
  induction devices with
  | nil => simp
  | cons d devices ih =>
    intro out
    rw [foldl_cons, ih]
    cases h : judged rules flagged nowMs d with
    | fire event => simp [OfflineSweepResult.add, Verdict.event?, h]
    | clear => simp [OfflineSweepResult.add, Verdict.event?, h]
    | keep => simp [OfflineSweepResult.add, Verdict.event?, h]

lemma deviceId_of_event? {d : DeviceState} {event : RuleEventRow}
    (h : (judged rules flagged nowMs d).event? = some event) : event.deviceId = d.deviceId := by
  unfold judged verdict at h
  split at h
  · dsimp only at h
    split at h
    · split at h
      · cases h
      · rw [← Option.some.inj h]
    · split at h <;> cases h
  · cases h

lemma map_events : (sweepOffline devices rules flagged nowMs).events.map (·.deviceId) =
    (sweepOffline devices rules flagged nowMs).toFlag := by
  rw [sweepOffline_eq]
  dsimp only
  induction devices with
  | nil => rfl
  | cons d devices ih =>
    cases h : (judged rules flagged nowMs d).event? with
    | none => simpa [h] using ih
    | some event => simpa [h, deviceId_of_event? h] using ih

lemma nodup_toFlag (hnodup : (devices.map (·.deviceId)).Nodup) :
    (sweepOffline devices rules flagged nowMs).toFlag.Nodup := by
  rw [sweepOffline_eq]
  exact hnodup.sublist (filter_sublist.map _)

lemma notMem_toFlag (hnodup : (devices.map (·.deviceId)).Nodup) {id : DeviceId}
    (hid : id ∈ (sweepOffline devices rules flagged nowMs).toClear) :
    id ∉ (sweepOffline devices rules flagged nowMs).toFlag := by
  rw [sweepOffline_eq] at hid ⊢
  intro hflag
  obtain ⟨d, hd, rfl⟩ := mem_map.mp hid
  obtain ⟨d', hd', heq⟩ := mem_map.mp hflag
  obtain ⟨hmem, hclear⟩ := mem_filter.mp hd
  obtain ⟨hmem', hfire⟩ := mem_filter.mp hd'
  obtain rfl := inj_on_of_nodup_map hnodup hmem' hmem heq
  rw [of_decide_eq_true hclear] at hfire
  cases hfire

lemma mem_toFlag {d : DeviceState} (hd : d ∈ devices) {contactMs : Ms}
    (hcontact : d.lastContactMs = some contactMs) {rule : OfflineRule} {thresholdH : ℚ}
    (hfiring : firing (posH d.profileOfflineAfterH) (rulesOf rules d.accountId) =
      some (rule, thresholdH))
    (hpast : thresholdH * 3600000 ≤ ((nowMs - contactMs : ℤ) : ℚ))
    (hflagged : d.deviceId ∉ flagged) :
    d.deviceId ∈ (sweepOffline devices rules flagged nowMs).toFlag := by
  rw [sweepOffline_eq]
  refine mem_map.mpr ⟨d, mem_filter.mpr ⟨hd, ?_⟩, rfl⟩
  unfold judged verdict
  rw [hcontact, hfiring]
  dsimp only [Option.or]
  rw [if_pos hpast, if_neg (by simpa using hflagged)]
  rfl

end Sweep

/-! ## Redis and Postgres -/

/-- A rule of `rule:tenant:<id>`, as far as the sweep reads it. -/
structure RuleEntry where
  ruleId : String
  accountId : String
  kind : String
  enabled : Option Bool
  afterH : Option ℚ
  deriving DecidableEq

/-- What the API keeps in Redis: the registry, the rules and the presence rule of a device's config.
A device is in the registry once. -/
structure Fleet where
  deviceTenant : List (DeviceId × String)
  deviceAccount : DeviceId → Option String
  rules : String → List RuleEntry
  presence : DeviceId → Option ℚ
  nodup : (deviceTenant.map (·.1)).Nodup

/-- The flag of a device: which sweep has set it, and how many contacts there were before. -/
structure Flag (ι : Type) where
  sweep : ι
  contacts : ℕ
  deriving DecidableEq

/-- A row of `events`: which sweep wrote it, and how many contacts the device had made before. -/
structure Written (ι : Type) where
  row : RuleEventRow
  sweep : ι
  contacts : ℕ
  deriving DecidableEq

/-- The clock and the devices when a sweep starts. -/
structure Snapshot where
  nowMs : Ms
  last : DeviceId → LastMarker
  contacts : DeviceId → ℕ

/-- The parts of the stores that sweeps and contacts write, and what the episodes are counted by:
`contacts` and `began` are read by no program. -/
structure OfflineStore (ι : Type) where
  nowMs : Ms
  last : DeviceId → LastMarker
  flag : DeviceId → Option (Flag ι)
  events : List (Written ι)
  contacts : DeviceId → ℕ
  began : ι → Option Snapshot

/-- One command; `begin` is the call of `Date.now()` with which a sweep starts. -/
inductive OfflineCommand (ι : Type)
  | begin (me : ι)
  | deviceTenant
  | deviceAccount
  | rules (tenantId : String)
  | last (deviceId : DeviceId)
  | presence (deviceId : DeviceId)
  | exists (deviceId : DeviceId)
  | setNx (me : ι) (deviceId : DeviceId)
  | insert (me : ι) (rows : List RuleEventRow)
  | del (deviceId : DeviceId)
  | contact (deviceId : DeviceId) (fixTimeMs : Option Ms)
  | tick (ms : ℕ)
  deriving DecidableEq

variable {ι : Type}

def OfflineCommand.Answer : OfflineCommand ι → Type
  | .begin _ => Ms
  | .deviceTenant => List (DeviceId × String)
  | .deviceAccount => DeviceId → Option String
  | .rules _ => List RuleEntry
  | .last _ => LastMarker
  | .presence _ => Option ℚ
  | .exists _ => Bool
  | .setNx _ _ => Bool
  | _ => Unit

variable [DecidableEq ι]

/-- `fleet` is what the API keeps at each time. -/
def OfflineCommand.run (fleet : Ms → Fleet) :
    (c : OfflineCommand ι) → OfflineStore ι → OfflineStore ι × c.Answer
  | .begin me, s =>
    ({ s with began := update s.began me (some ⟨s.nowMs, s.last, s.contacts⟩) }, s.nowMs)
  | .deviceTenant, s => (s, (fleet s.nowMs).deviceTenant)
  | .deviceAccount, s => (s, (fleet s.nowMs).deviceAccount)
  | .rules tenantId, s => (s, (fleet s.nowMs).rules tenantId)
  | .last id, s => (s, s.last id)
  | .presence id, s => (s, (fleet s.nowMs).presence id)
  | .exists id, s => (s, (s.flag id).isSome)
  | .setNx me id, s =>
    if (s.flag id).isSome then (s, false)
    else ({ s with flag := update s.flag id (some ⟨me, s.contacts id⟩) }, true)
  | .insert me rows, s =>
    ({ s with events := s.events ++ rows.map fun row => ⟨row, me, s.contacts row.deviceId⟩ }, ())
  | .del id, s => ({ s with flag := update s.flag id none }, ())
  | .contact id fixTimeMs, s =>
    ({ s with
        last := update s.last id ⟨fixTimeMs.or (s.last id).fixTimeMs, some s.nowMs⟩
        contacts := update s.contacts id (s.contacts id + 1) }, ())
  | .tick ms, s => ({ s with nowMs := s.nowMs + ms }, ())

/-- Redis and Postgres. -/
abbrev offlineService (ι : Type) [DecidableEq ι] (fleet : Ms → Fleet) :
    Service (OfflineStore ι) where
  Cmd := OfflineCommand ι
  Answer := OfflineCommand.Answer
  run := OfflineCommand.run fleet

/-! ## The sweep -/

variable {fleet : Ms → Fleet}

abbrev Sweep (ι : Type) [DecidableEq ι] (fleet : Ms → Fleet) := Async (offlineService ι fleet) Unit

def send (c : OfflineCommand ι) : Sweep ι fleet c.Answer :=
  Async.send (V := offlineService ι fleet) () c

/-- A command of a pipeline: its failure is in the results, and `a` is what the sweep makes of it.
-/
def piped (c : OfflineCommand ι) (a : c.Answer) : Sweep ι fleet c.Answer :=
  Async.sendOr (V := offlineService ι fleet) c a

def offlineRules (entries : List RuleEntry) : List OfflineRule :=
  (entries.filter fun e => e.kind = "device_offline" ∧ e.enabled ≠ some false).map
    fun e => ⟨e.ruleId, e.accountId, e.afterH⟩

def loadOfflineRules (tenants : List String) : Sweep ι fleet (List OfflineRule) :=
  tenants.foldlM (fun rules tenantId => do
    let entries : List RuleEntry ← piped (.rules tenantId) []
    pure (rules ++ offlineRules entries)) []

structure Candidate where
  deviceId : DeviceId
  tenantId : String
  accountId : String
  deriving DecidableEq

def candidates (tenantMap : List (DeviceId × String)) (accountMap : DeviceId → Option String)
    (rules : List OfflineRule) : List Candidate :=
  (tenantMap.map fun (deviceId, tenantId) =>
    ⟨deviceId, tenantId, (accountMap deviceId).getD ""⟩).filter
      fun c => c.accountId ≠ "" ∧ rulesOf rules c.accountId ≠ []

def loadDeviceState (loaded : List DeviceState × List DeviceId) (c : Candidate) :
    Sweep ι fleet (List DeviceState × List DeviceId) := do
  let last : LastMarker ← piped (.last c.deviceId) ⟨none, none⟩
  let profileOfflineAfterH : Option ℚ ← piped (.presence c.deviceId) none
  let flagged : Bool ← piped (.exists c.deviceId) false
  pure (loaded.1 ++ [{
      deviceId := c.deviceId
      tenantId := c.tenantId
      accountId := c.accountId
      lastFixMs := last.fixTimeMs
      lastContactMs := last.contactMs
      profileOfflineAfterH := profileOfflineAfterH }],
    if flagged then loaded.2 ++ [c.deviceId] else loaded.2)

def loadDeviceStates (candidates : List Candidate) :
    Sweep ι fleet (List DeviceState × List DeviceId) :=
  candidates.foldlM loadDeviceState ([], [])

def claimFlags (me : ι) (toFlag : List DeviceId) : Sweep ι fleet (List DeviceId) :=
  toFlag.foldlM (fun winners id => do
    let won : Bool ← piped (.setNx me id) false
    pure (if won then winners ++ [id] else winners)) []

def delFlags (ids : List DeviceId) : Sweep ι fleet Unit :=
  ids.foldlM (fun _ id => piped (.del id) ()) ()

/-- `writeRuleEvents`, and the rollback of the claims where it fails. -/
def writeRuleEvents (me : ι) (winners : List DeviceId) (rows : List RuleEventRow) :
    Sweep ι fleet Unit :=
  if rows = [] then pure ()
  else (send (.insert me rows)).attempt fun e => do
    delFlags winners
    .threw e

def sweepCandidates (me : ι) (nowMs : Ms) (candidates : List Candidate) (rules : List OfflineRule) :
    Sweep ι fleet (List RuleEventRow) := do
  let loaded ← loadDeviceStates candidates
  let result := sweepOffline loaded.1 rules loaded.2 nowMs
  let winners ← claimFlags me result.toFlag
  let wonEvents := result.events.filter fun e => e.deviceId ∈ winners
  writeRuleEvents me winners wonEvents
  delFlags result.toClear
  pure wonEvents

def sweepRegistry (me : ι) (nowMs : Ms) (tenantMap : List (DeviceId × String))
    (accountMap : DeviceId → Option String) : Sweep ι fleet (List RuleEventRow) :=
  let tenants := (tenantMap.map (·.2)).eraseDups
  if tenants = [] then
    pure []
  else do
    let rules ← loadOfflineRules tenants
    if rules = [] then
      pure []
    else if candidates tenantMap accountMap rules = [] then
      pure []
    else
      sweepCandidates me nowMs (candidates tenantMap accountMap rules) rules

/-- `runOfflineSweep(pool, redis, Date.now())` -/
def runOfflineSweep (me : ι) : Sweep ι fleet (List RuleEventRow) := do
  let nowMs : Ms ← send (.begin me)
  let tenantMap : List (DeviceId × String) ← send .deviceTenant
  let accountMap : DeviceId → Option String ← send .deviceAccount
  sweepRegistry me nowMs tenantMap accountMap

/-- A sweep, a contact of a device, or the passing of time. -/
inductive OfflineCall
  | sweep
  | contact (deviceId : DeviceId) (fixTimeMs : Option Ms)
  | tick (ms : ℕ)
  deriving DecidableEq

def OfflineCall.program (me : ι) : OfflineCall → Sweep ι fleet (List RuleEventRow)
  | .sweep => runOfflineSweep me
  | .contact deviceId fixTimeMs => do
    let _ : Unit ← send (.contact deviceId fixTimeMs)
    pure []
  | .tick ms => do
    let _ : Unit ← send (.tick ms)
    pure []

end Orbetra.Offline
