import Orbetra.Framework.Effect
import Orbetra.Rules.Engine

/-!
# The rule persister

`RulePersister` of `apps/worker/src/rules/persister.ts` with the writer behind it, over the parts of
Redis and of Postgres that it uses.  An event is written where its replay key could be claimed and
its cooldown, measured in fix time, has passed; keys are claimed before the `INSERT`.

The replay keys live long enough for every redelivery: their expiry after an hour is left out.
-/

namespace Orbetra

open Eff

/-! ## The replay key -/

def fractionDigits (d : ℕ) : ℕ → ℕ → List Char
  | 0, _ => []
  | fuel + 1, n =>
    if n = 0 then [] else Nat.digitChar (10 * n / d) :: fractionDigits d fuel (10 * n % d)

def jsonNumber (q : ℚ) : List Char :=
  let n := q.num.natAbs
  let digits := fractionDigits q.den 20 (n % q.den)
  (if q.num < 0 then ['-'] else []) ++ (toString (n / q.den)).toList ++
    (if digits = [] then [] else '.' :: digits)

/-- A character of a text in JSON. -/
def jsonChar (c : Char) : List Char :=
  if c = '"' ∨ c = '\\' then ['\\', c]
  else if c = '\n' then ['\\', 'n']
  else if c = '\r' then ['\\', 'r']
  else if c = '\t' then ['\\', 't']
  else if c.toNat = 8 then ['\\', 'b']
  else if c.toNat = 12 then ['\\', 'f']
  else if c.toNat < 32 then
    ['\\', 'u', '0', '0', Nat.digitChar (c.toNat / 16), Nat.digitChar (c.toNat % 16)]
  else [c]

def jsonText (s : String) : List Char := '"' :: s.toList.flatMap jsonChar ++ ['"']

def jsonBool (b : Bool) : List Char := (if b then "true" else "false").toList

def FuelUnit.text : FuelUnit → String
  | .pct => "pct"
  | .liters => "liters"

def RulePayload.fields : RulePayload → List (String × List Char)
  | .overspeed rule speedKmh limitKmh =>
    [("limitKmh", jsonNumber limitKmh), ("rule", jsonText rule), ("speedKmh", jsonNumber speedKmh)]
  | .lowBattery rule volts thresholdV =>
    [("rule", jsonText rule), ("thresholdV", jsonNumber thresholdV), ("volts", jsonNumber volts)]
  | .ignition rule on => [("ignition", jsonBool on), ("rule", jsonText rule)]
  | .dinChange rule on => [("din1", jsonBool on), ("rule", jsonText rule)]
  | .powerCut rule => [("rule", jsonText rule), ("unplug", jsonBool true)]
  | .panic rule => [("alarm", jsonBool true), ("rule", jsonText rule)]
  | .fuelTheft rule unit base level drop =>
    [("baseline", jsonNumber base), ("drop", jsonNumber drop), ("rule", jsonText rule),
      ("to", jsonNumber level), ("unit", jsonText unit.text)]

def RulePayload.json (p : RulePayload) : List Char :=
  '{' :: (List.intercalate [','] (p.fields.map fun field => jsonText field.1 ++ ':' :: field.2)) ++
    ['}']

/-- The UTF-16 code units of a character. -/
def charCodes (c : Char) : List ℕ :=
  if c.toNat < 0x10000 then [c.toNat]
  else [0xd800 + (c.toNat - 0x10000) / 0x400, 0xdc00 + (c.toNat - 0x10000) % 0x400]

/-- `payloadTag`: the hash of the payload's JSON, as a number. -/
def payloadTag (p : RulePayload) : ℕ :=
  (p.json.flatMap charCodes).foldl (fun h c => (h ^^^ c) * 0x01000193 % 2 ^ 32) 0x811c9dc5

/-- `rule:seen:{ruleId}:{deviceId}:{kind}:{atMs}:{payloadTag}` -/
structure SeenKey where
  ruleId : String
  deviceId : DeviceId
  kind : EngineRuleKind
  atTime : Ms
  tag : ℕ
  deriving DecidableEq

def RuleEvent.seenKey (ev : RuleEvent) : SeenKey :=
  ⟨ev.ruleId, ev.deviceId, ev.kind, ev.atTime, payloadTag ev.payload⟩

/-- `rule:cd:{ruleId}:{deviceId}` -/
abbrev CooldownKey := String × DeviceId

def RuleEvent.cooldownKey (ev : RuleEvent) : CooldownKey := (ev.ruleId, ev.deviceId)

/-- The event asks for a cooldown. -/
def RuleEvent.gated (ev : RuleEvent) : Bool := !ev.bypassCooldown && 0 < ev.cooldownS

/-! ## What Redis and Postgres hold -/

/-- Who owns a device. -/
structure RuleScope where
  tenantId : String
  accountId : String
  deriving DecidableEq

structure RuleEventRow where
  tenantId : String
  accountId : String
  deviceId : DeviceId
  ruleId : String
  kind : EngineRuleKind
  atTime : Ms
  lat : ℚ
  lon : ℚ
  payload : RulePayload
  endedAt : Option Ms
  /-- the field of the payload that `extendRuleEvents` sets -/
  maxSpeedKmh : Option ℚ
  deriving DecidableEq

structure NotifyJob where
  ruleId : String
  deviceId : DeviceId
  kind : EngineRuleKind
  atTime : Ms
  payload : RulePayload
  deriving DecidableEq

/-- The durable side of the rule engine.  A hash without fields is a missing one. -/
structure RuleStore where
  /-- `rule:iostate:{id}` -/
  iostate : DeviceId → DeviceIo
  seen : List SeenKey
  cooldown : CooldownKey → Option Ms
  events : List RuleEventRow
  notified : List NotifyJob

/-- A call that the rule step of `onBatch` makes, as its failures are told apart. -/
inductive RuleCall
  /-- `ruleCache.resolveBatch` -/
  | resolveRules
  /-- `HGETALL rule:iostate:{id}` -/
  | loadIo (d : DeviceId)
  /-- `HMGET device:tenant`, `HMGET device:account` -/
  | scope
  /-- the `SET … NX` of the n-th event -/
  | seen (n : ℕ)
  /-- the `EVAL` of the n-th event that asks for a cooldown -/
  | cooldown (n : ℕ)
  /-- the `INSERT` -/
  | insert
  /-- the `DEL` after a failed `INSERT` -/
  | release
  /-- the `UPDATE` for the n-th continuation -/
  | extend (n : ℕ)
  /-- `enqueueNotify` for the n-th event written -/
  | notify (n : ℕ)
  /-- `enqueueWebhook` for the n-th event written -/
  | webhook (n : ℕ)
  /-- `HSET rule:iostate:{id}` -/
  | hset (d : DeviceId)
  /-- `HDEL rule:iostate:{id}` -/
  | hdel (d : DeviceId)
  deriving DecidableEq

/-- How each call is answered. -/
abbrev RuleReplies := RuleCall → Reply

/-- A call that threw. -/
abbrev RuleError := RuleCall

namespace RulePersister

variable (f : RuleReplies)

/-! ## The IO state -/

/-- `loadIoState`.  A refused `HGETALL` reads as a missing hash. -/
def loadIoState (devices : List DeviceId) :
    Eff RuleError RuleStore (DeviceId → Option DeviceIo) := do
  let loaded ← answers (fun d s => (s, (d, s.iostate d)))
    (fun n => ((devices[n]?).map (f ∘ .loadIo)).getD .ok) devices
  pure fun d => ((loaded.filterMap id).lookup d).bind fun io => if io = emptyIo then none else some io

/-- A command of the pipeline that saves the IO state. -/
inductive SaveCommand
  | hset (d : DeviceId) (io : DeviceIo)
  | hdel (d : DeviceId) (io : DeviceIo)

/-- How the command is answered. -/
def SaveCommand.reply : SaveCommand → Reply
  | .hset d _ => f (.hset d)
  | .hdel d _ => f (.hdel d)

def hsetFields (io stored : DeviceIo) : DeviceIo where
  ignition := io.ignition.or stored.ignition
  din1 := io.din1.or stored.din1
  unplug := io.unplug.or stored.unplug
  alarm := io.alarm.or stored.alarm
  fuelPct := io.fuelPct.or stored.fuelPct
  fuelL := io.fuelL.or stored.fuelL
  fuelBasePct := io.fuelBasePct.or stored.fuelBasePct
  fuelBaseL := io.fuelBaseL.or stored.fuelBaseL

def keepIf {α : Type} (field stored : Option α) : Option α := if field.isSome then stored else none

def hdelFields (io stored : DeviceIo) : DeviceIo where
  ignition := keepIf io.ignition stored.ignition
  din1 := keepIf io.din1 stored.din1
  unplug := keepIf io.unplug stored.unplug
  alarm := keepIf io.alarm stored.alarm
  fuelPct := keepIf io.fuelPct stored.fuelPct
  fuelL := keepIf io.fuelL stored.fuelL
  fuelBasePct := keepIf io.fuelBasePct stored.fuelBasePct
  fuelBaseL := keepIf io.fuelBaseL stored.fuelBaseL

def SaveCommand.run (s : RuleStore) : SaveCommand → RuleStore
  | .hset d io => { s with iostate := Function.update s.iostate d (hsetFields io (s.iostate d)) }
  | .hdel d io => { s with iostate := Function.update s.iostate d (hdelFields io (s.iostate d)) }

/-- `saveIoState`.  The replies are not looked at; a command without fields, which the source does
not send, has no effect. -/
def saveIoState (snapshots : List (DeviceId × DeviceIo)) : Eff RuleError RuleStore Unit :=
  pipeline (SaveCommand.reply f) SaveCommand.run
    (snapshots.flatMap fun snap => [.hset snap.1 snap.2, .hdel snap.1 snap.2])

/-! ## Writing events -/

def setNx (key : SeenKey) (s : RuleStore) : RuleStore × Bool :=
  if key ∈ s.seen then (s, false) else ({ s with seen := s.seen ++ [key] }, true)

def cooldownScript (ev : RuleEvent) (s : RuleStore) : RuleStore × Bool :=
  match s.cooldown ev.cooldownKey with
  | some prev =>
    if ((|ev.atTime - prev| : ℤ) : ℚ) < ev.cooldownS * 1000 then (s, false)
    else ({ s with cooldown := Function.update s.cooldown ev.cooldownKey (some ev.atTime) }, true)
  | none =>
    ({ s with cooldown := Function.update s.cooldown ev.cooldownKey (some ev.atTime) }, true)

/-- What `gate` returns. -/
structure Gated where
  survivors : List RuleEvent
  continuations : List RuleEvent
  claimedSeen : List SeenKey
  claimedCooldown : List CooldownKey

/-- Sort the fresh events by the answers of the cooldown script: an event that asks for no cooldown
survives, and so does one that passed, or whose command was refused. -/
def survivorsOf : List RuleEvent → List (Option Bool) → List RuleEvent × List RuleEvent
  | [], _ => ([], [])
  | ev :: events, answers =>
    if ev.gated then
      let rest := survivorsOf events answers.tail
      if answers.head? = some (some false) then (rest.1, ev :: rest.2) else (ev :: rest.1, rest.2)
    else
      let rest := survivorsOf events answers
      (ev :: rest.1, rest.2)

/-- `gate`: claim the replay key of every event, then the cooldown of those that ask for one. -/
def gate (events : List RuleEvent) : Eff RuleError RuleStore Gated := do
  let seenRes ← answers (setNx ∘ RuleEvent.seenKey) (f ∘ .seen) events
  -- a refused command claims nothing, and lets its event through
  let fresh := (events.zip seenRes).filterMap fun (ev, answer) =>
    if answer = some false then none else some ev
  let claimedSeen := (events.zip seenRes).filterMap fun (ev, answer) =>
    if answer = some true then some ev.seenKey else none
  let needsGate := fresh.filter RuleEvent.gated
  let cdRes ← answers cooldownScript (f ∘ .cooldown) needsGate
  let claimedCooldown := (needsGate.zip cdRes).filterMap fun (ev, answer) =>
    if answer = some true then some ev.cooldownKey else none
  let sorted := survivorsOf fresh cdRes
  pure ⟨sorted.1, sorted.2, claimedSeen, claimedCooldown⟩

def eventRow (scope : RuleScope) (ev : RuleEvent) : RuleEventRow where
  tenantId := scope.tenantId
  accountId := scope.accountId
  deviceId := ev.deviceId
  ruleId := ev.ruleId
  kind := ev.kind
  atTime := ev.atTime
  lat := ev.lat
  lon := ev.lon
  payload := ev.payload
  endedAt := none
  maxSpeedKmh := none

def writeRuleEvents (rows : List RuleEventRow) : Eff RuleError RuleStore Unit :=
  when (rows ≠ []) (call (f .insert) .insert fun s => { s with events := s.events ++ rows })

/-- `DEL` of the keys that a call claimed. -/
def release (g : Gated) : Eff RuleError RuleStore Unit :=
  when (g.claimedSeen ≠ [] ∨ g.claimedCooldown ≠ []) <|
    attempt
      (call (f .release) .release fun s => { s with
        seen := s.seen.filter (· ∉ g.claimedSeen)
        cooldown := fun key => if key ∈ g.claimedCooldown then none else s.cooldown key })
      fun _ => pure ()

def extendWindowMs : Ms := 30 * 60 * 1000

/-- The row may be the one that a continuation belongs to. -/
def extends? (ev : RuleEvent) (row : RuleEventRow) : Bool :=
  row.deviceId = ev.deviceId ∧ row.kind = ev.kind ∧ row.ruleId = ev.ruleId ∧
    row.atTime ≤ ev.atTime ∧ ev.atTime - extendWindowMs ≤ row.atTime

/-- The position of the newest row that a continuation may belong to. -/
def newestRow (ev : RuleEvent) (rows : List RuleEventRow) : Option ℕ :=
  ((rows.zipIdx.filter fun row => extends? ev row.1).foldl (fun best row =>
    match best with
    | some newest => if newest.1.atTime < row.1.atTime then some row else some newest
    | none => some row) none).map Prod.snd

def RulePayload.speedKmh : RulePayload → Option ℚ
  | .overspeed _ speedKmh _ => some speedKmh
  | _ => none

def extendRow (ev : RuleEvent) (row : RuleEventRow) : RuleEventRow :=
  { row with
    endedAt := some (max (row.endedAt.getD row.atTime) ev.atTime)
    maxSpeedKmh :=
      match (if ev.kind = .overspeed then RulePayload.speedKmh ev.payload else none) with
      | none => row.maxSpeedKmh
      | some peak => some (max ((row.maxSpeedKmh.or (RulePayload.speedKmh row.payload)).getD 0) peak) }

/-- `extendRuleEvents`: one `UPDATE` for each continuation. -/
def extendRuleEvents : ℕ → List RuleEvent → Eff RuleError RuleStore Unit
  | _, [] => pure ()
  | n, ev :: events => do
    call (f (.extend n)) (.extend n) fun s =>
      match newestRow ev s.events with
      | none => s
      | some i => { s with events := s.events.modify i (extendRow ev) }
    extendRuleEvents (n + 1) events

/-- `persist`: write the events that pass the scope, the replay keys and the cooldown; it returns
those that it wrote. -/
def persist (registry : DeviceId → Option RuleScope) (events : List RuleEvent) :
    Eff RuleError RuleStore (List RuleEvent) :=
  if events = [] then pure []
  else do
    call (f .scope) .scope id
    let inScope := events.filter fun ev => (registry ev.deviceId).isSome
    let gated ← gate f inScope
    let rows := gated.survivors.filterMap fun ev => (registry ev.deviceId).map (eventRow · ev)
    attempt (writeRuleEvents f rows) fun err => do
      release f gated
      throw err
    -- extending is best effort
    attempt (extendRuleEvents f 0 gated.continuations) fun _ => pure ()
    pure gated.survivors

end RulePersister

end Orbetra
