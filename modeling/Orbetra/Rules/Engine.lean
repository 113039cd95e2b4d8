import Orbetra.Framework.Transducer
import Orbetra.Records

/-!
# The rule engine

`RuleEngine.feed` of `apps/worker/src/rules/engine.ts`, with the IO accessors it reads a record
through.  The engine keeps, for each device, the last IO value it saw and the newest fix time; an
edge kind fires when a value differs from the kept one, a level kind while a condition holds and at
most once per rule, device and batch.

A JavaScript number is a rational, so the multipliers of `io.ts` act exactly.
-/

namespace Orbetra

/-! ## Rules and events -/

inductive EngineRuleKind
  | overspeed
  | ignition
  | dinChange
  | powerCut
  | lowBattery
  | panic
  | fuelTheft
  deriving DecidableEq

/-- `BYPASS`: rules whose event bypasses the cooldown. -/
def EngineRuleKind.bypass : EngineRuleKind → Bool
  | .panic | .powerCut => true
  | _ => false

/-- A rule that fires on a transition of a value. -/
def EngineRuleKind.isEdge : EngineRuleKind → Bool
  | .ignition | .dinChange | .powerCut | .panic => true
  | .overspeed | .lowBattery | .fuelTheft => false

structure RuleDef where
  id : String
  accountId : String
  kind : EngineRuleKind
  name : String
  config : List (String × AttrValue)
  cooldownS : ℚ
  deriving DecidableEq

inductive FuelUnit
  | pct
  | liters
  deriving DecidableEq

/-- The payload of an event; each constructor starts with the rule's name. -/
inductive RulePayload
  | overspeed (rule : String) (speedKmh limitKmh : ℚ)
  | lowBattery (rule : String) (volts thresholdV : ℚ)
  | ignition (rule : String) (ignition : Bool)
  | dinChange (rule : String) (din1 : Bool)
  | powerCut (rule : String)
  | panic (rule : String)
  | fuelTheft (rule : String) (unit : FuelUnit) (baseline level drop : ℚ)
  deriving DecidableEq

/-- An event the engine decided should fire. -/
structure RuleEvent where
  deviceId : DeviceId
  ruleId : String
  kind : EngineRuleKind
  atTime : Ms
  lat : ℚ
  lon : ℚ
  cooldownS : ℚ
  bypassCooldown : Bool
  payload : RulePayload
  deriving DecidableEq

def emit (rule : RuleDef) (r : NormalizedRecord) (payload : RulePayload) : RuleEvent where
  deviceId := r.deviceId
  ruleId := rule.id
  kind := rule.kind
  atTime := r.fixTime
  lat := r.lat
  lon := r.lon
  cooldownS := rule.cooldownS
  bypassCooldown := rule.kind.bypass
  payload := payload

/-! ## Numbers in a rule's configuration -/

def digitOf (c : Char) : Option ℕ := if c.isDigit then some (c.toNat - '0'.toNat) else none

/-- The number that a non-empty run of decimal digits spells. -/
def digitsOf (cs : List Char) : Option ℕ :=
  if cs = [] then none else cs.foldlM (fun n c => (digitOf c).map (10 * n + ·)) 0

/-- The exponent of a decimal literal, from its `e` on. -/
def exponentOf : List Char → Option ℤ
  | [] => some 0
  | _ :: '+' :: cs => (digitsOf cs).map fun n => (n : ℤ)
  | _ :: '-' :: cs => (digitsOf cs).map fun n => -(n : ℤ)
  | _ :: cs => (digitsOf cs).map fun n => (n : ℤ)

/-- An unsigned decimal literal. -/
def decimalOf (cs : List Char) : Option ℚ := do
  let (mantissa, power) := cs.span fun c => c ≠ 'e' ∧ c ≠ 'E'
  let (whole, rest) := mantissa.span (· ≠ '.')
  let fraction := rest.drop 1
  let digits ← digitsOf (whole ++ fraction)
  let exponent ← exponentOf power
  return digits * 10 ^ (exponent - fraction.length)

def numberOf (text : String) : Option ℚ :=
  match text.trimAscii.toString.toList with
  | [] => some 0
  | '+' :: cs => decimalOf cs
  | '-' :: cs => (decimalOf cs).map (- ·)
  | cs => decimalOf cs

/-- `num`: coerce a config value to a finite number, else the default. -/
def Rules.num (v : Option AttrValue) (dflt : ℚ) : ℚ :=
  match v with
  | some (.num n) => n
  | some (.str text) => (numberOf text).getD dflt
  | none => dflt

/-! ## The IO accessors -/

/-- `attrNumber`: the value of an AVL id under `io_<id>` or the first of its names that is set. -/
def attrNumber (r : NormalizedRecord) (id : ℕ) (names : List String) : Option ℚ :=
  match (s!"io_{id}" :: names).findSome? r.attr with
  | some (.num v) => some v
  | _ => none

/-- A flag that arrives as a number. -/
def attrFlag (r : NormalizedRecord) (id : ℕ) (names : List String) : Option Bool :=
  (attrNumber r id names).map fun v => v ≠ 0

def ignitionOf (r : NormalizedRecord) : Option Bool := r.ignition

def din1Of (r : NormalizedRecord) : Option Bool :=
  attrFlag r 1 ["Digital Input 1", "Digital Input Status 1"]

def unplugOf (r : NormalizedRecord) : Option Bool := attrFlag r 252 ["Unplug", "Unplug detection"]

def alarmOf (r : NormalizedRecord) : Option Bool := attrFlag r 236 ["Alarm", "Alarm button"]

def batteryVoltsOf (r : NormalizedRecord) : Option ℚ :=
  (attrNumber r 67 ["Battery Voltage"]).map (· * (1 / 1000))

/-- `fuelIo`: a fuel id is read under its forced key only. -/
def fuelIo (r : NormalizedRecord) (id : ℕ) : Option ℚ := attrNumber r id []

/-- The fuel level in percent. -/
def fuelPctOf (r : NormalizedRecord) : Option ℚ := (fuelIo r 89).or (fuelIo r 48)

/-- The fuel level in litres. -/
def fuelLitersOf (r : NormalizedRecord) : Option ℚ := (fuelIo r 84).map (· * (1 / 10))

/-! ## The engine -/

structure DeviceIo where
  ignition : Option Bool
  din1 : Option Bool
  unplug : Option Bool
  alarm : Option Bool
  fuelPct : Option ℚ
  fuelL : Option ℚ
  /-- the level at the start of the current parked period -/
  fuelBasePct : Option ℚ
  fuelBaseL : Option ℚ
  deriving DecidableEq

def emptyIo : DeviceIo := ⟨none, none, none, none, none, none, none, none⟩

def currentIo (r : NormalizedRecord) : DeviceIo where
  ignition := ignitionOf r
  din1 := din1Of r
  unplug := unplugOf r
  alarm := alarmOf r
  fuelPct := fuelPctOf r
  fuelL := fuelLitersOf r
  fuelBasePct := none
  fuelBaseL := none

/-- The parked baseline: cleared while driving, else held once it is seeded from a parked reading. -/
def baseline (prev cur : DeviceIo) (level held : Option ℚ) : Option ℚ :=
  let seedIgnOff := cur.ignition = some false ∨ (cur.ignition = none ∧ prev.ignition = some false)
  if cur.ignition = some true then none else held.or (if seedIgnOff then level else none)

/-- What the engine keeps after a record: a missing reading keeps the previous value. -/
def carryForward (prev cur : DeviceIo) : DeviceIo where
  ignition := cur.ignition.or prev.ignition
  din1 := cur.din1.or prev.din1
  unplug := cur.unplug.or prev.unplug
  alarm := cur.alarm.or prev.alarm
  fuelPct := cur.fuelPct.or prev.fuelPct
  fuelL := cur.fuelL.or prev.fuelL
  fuelBasePct := baseline prev cur cur.fuelPct prev.fuelBasePct
  fuelBaseL := baseline prev cur cur.fuelL prev.fuelBaseL

/-- A confirmed transition of a value. -/
def changed (prev cur : Option Bool) : Option Bool :=
  match prev, cur with
  | some p, some c => if c ≠ p then some c else none
  | _, _ => none

def confirmedDrop (base last level : Option ℚ) (threshold : ℚ) : Option (ℚ × ℚ) :=
  match base, last, level with
  | some b, some l, some n => if threshold ≤ b - n ∧ threshold ≤ b - l then some (b, n) else none
  | _, _, _ => none

/-- A fuel drop while the ignition is off, in percent or else in litres. -/
def fuelTheft (rule : RuleDef) (r : NormalizedRecord) (prev cur : DeviceIo) : Option RuleEvent :=
  if prev.ignition ≠ some false ∨ cur.ignition ≠ some false then none
  else
    let inUnit (unit : FuelUnit) (drop : ℚ × ℚ) : RuleEvent :=
      emit rule r (.fuelTheft rule.name unit drop.1 drop.2 (drop.1 - drop.2))
    let dropPct := Rules.num (rule.config.lookup "dropPct") 15
    match confirmedDrop prev.fuelBasePct prev.fuelPct cur.fuelPct dropPct with
    | some drop => some (inUnit .pct drop)
    | none =>
      match rule.config.lookup "dropLiters" with
      | none => none
      | some v =>
        let dropLiters := Rules.num (some v) 0
        if 0 < dropLiters then
          (confirmedDrop prev.fuelBaseL prev.fuelL cur.fuelL dropLiters).map (inUnit .liters)
        else none

/-- The level kinds that have fired in this batch: `${rule.id}:${dev}`. -/
abbrev FiredLevel := List (String × DeviceId)

def evaluate (rule : RuleDef) (r : NormalizedRecord) (prev cur : DeviceIo)
    (firedLevel : FiredLevel) : Option RuleEvent :=
  match rule.kind with
  | .overspeed =>
    if ¬ r.fixValid ∨ (rule.id, r.deviceId) ∈ firedLevel then none
    else
      let limit := Rules.num (rule.config.lookup "speedKmh") 90
      r.speed.bind fun speed =>
        if limit < speed then some (emit rule r (.overspeed rule.name speed limit)) else none
  | .lowBattery =>
    if (rule.id, r.deviceId) ∈ firedLevel then none
    else
      let threshold := Rules.num (rule.config.lookup "thresholdV") 11
      (batteryVoltsOf r).bind fun volts =>
        if volts < threshold then some (emit rule r (.lowBattery rule.name volts threshold))
        else none
  | .ignition =>
    (changed prev.ignition cur.ignition).map fun on => emit rule r (.ignition rule.name on)
  | .dinChange => (changed prev.din1 cur.din1).map fun on => emit rule r (.dinChange rule.name on)
  | .powerCut =>
    -- rising edge only
    if prev.unplug = some false ∧ cur.unplug = some true then some (emit rule r (.powerCut rule.name))
    else none
  | .panic =>
    if prev.alarm = some false ∧ cur.alarm = some true then some (emit rule r (.panic rule.name))
    else none
  | .fuelTheft => fuelTheft rule r prev cur

def evaluateAll (r : NormalizedRecord) (prev cur : DeviceIo) :
    List RuleDef → FiredLevel → FiredLevel × List RuleEvent
  | [], fired => (fired, [])
  | rule :: rules, fired =>
    match evaluate rule r prev cur fired with
    | none => evaluateAll r prev cur rules fired
    | some ev =>
      let fired := if rule.kind = .overspeed ∨ rule.kind = .lowBattery
        then (rule.id, r.deviceId) :: fired else fired
      let rest := evaluateAll r prev cur rules fired
      (rest.1, ev :: rest.2)

/-- `RuleEngine`. -/
structure RuleEngine where
  io : DeviceId → Option DeviceIo
  lastSeen : DeviceId → Option Ms

def RuleEngine.new : RuleEngine := ⟨fun _ => none, fun _ => none⟩

def outOfOrder (lastSeen : DeviceId → Option Ms) (r : NormalizedRecord) : Bool :=
  !isClockSkewed r && (lastSeen r.deviceId).any (r.fixTime < ·)

/-- The newest fix times after a record; a skewed clock does not move them. -/
def markSeen (lastSeen : DeviceId → Option Ms) (r : NormalizedRecord) : DeviceId → Option Ms :=
  if isClockSkewed r then lastSeen else Function.update lastSeen r.deviceId (some r.fixTime)

section Feed

variable (rulesFor : DeviceId → List RuleDef) (ioStateFor : DeviceId → Option DeviceIo)

/-- The value an edge is measured from: the memory, else what `ioStateFor` loads. -/
def RuleEngine.previousIo (e : RuleEngine) (d : DeviceId) : DeviceIo :=
  ((e.io d).or (ioStateFor d)).getD emptyIo

/-- One record of `RuleEngine.feed`. -/
def RuleEngine.step (e : RuleEngine × FiredLevel) (r : NormalizedRecord) :
    (RuleEngine × FiredLevel) × List RuleEvent :=
  if outOfOrder e.1.lastSeen r then (e, [])
  else
    let seen : RuleEngine := { e.1 with lastSeen := markSeen e.1.lastSeen r }
    if rulesFor r.deviceId = [] then ((seen, e.2), [])
    else
      let prev := seen.previousIo ioStateFor r.deviceId
      let cur := currentIo r
      let fired := evaluateAll r prev cur (rulesFor r.deviceId) e.2
      (({ seen with io := Function.update seen.io r.deviceId (some (carryForward prev cur)) },
        fired.1), fired.2)

def RuleEngine.feed (e : RuleEngine) (records : List NormalizedRecord) :
    RuleEngine × List RuleEvent :=
  let result := Transducer.feed (RuleEngine.step rulesFor ioStateFor) (e, []) records
  (result.1.1, result.2)

end Feed

/-- `RuleEngine.rollbackIo`: the memory of the given devices goes back to what it was. -/
def RuleEngine.rollbackIo (e : RuleEngine) (preFeed : DeviceId → Option DeviceIo)
    (devices : List DeviceId) : RuleEngine :=
  { e with io := fun d => if d ∈ devices then preFeed d else e.io d }

end Orbetra
