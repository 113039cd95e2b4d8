import Orbetra.Rules.Persister

/-!
# The rule step of a batch

The part of `onBatch` in `apps/worker/src/main.ts` that feeds the rule engine: resolve the rules,
load the IO state, feed, write the events, notify, and save the IO state.  Where the events cannot
be written, the memory of the engine goes back to what it was and nothing is saved.
-/

namespace Orbetra

open Eff

structure RuleWorker where
  engine : RuleEngine
  store : RuleStore
  /-- the batches given to `RuleEngine.feed` so far; no code reads it -/
  fed : List (List NormalizedRecord)

/-- A process that starts on a store. -/
def RuleWorker.boot (store : RuleStore) (fed : List (List NormalizedRecord)) : RuleWorker :=
  ⟨.new, store, fed⟩

/-- What a worker looks up: the rules of a device, and who owns it. -/
structure RuleSources where
  rulesFor : DeviceId → List RuleDef
  registry : DeviceId → Option RuleScope

namespace RuleWorker

/-- A program of the persister. -/
def onStore {α : Type} (m : Eff RuleError RuleStore α) : Eff RuleError RuleWorker α :=
  zoom RuleWorker.store (fun store w => { w with store := store }) m

variable (src : RuleSources) (f : RuleReplies)

/-- The devices of a batch that have rules: the keys of the map that `resolveBatch` returns. -/
def ruleDevices (records : List NormalizedRecord) : List DeviceId :=
  (records.map (·.deviceId)).eraseDups.filter fun d => src.rulesFor d ≠ []

def notifyJob (ev : RuleEvent) : NotifyJob :=
  ⟨ev.ruleId, ev.deviceId, ev.kind, ev.atTime, ev.payload⟩

/-- Notify and emit a webhook for each event that was written; a failure is logged. -/
def notifyAll : ℕ → List RuleEvent → Eff RuleError RuleStore Unit
  | _, [] => pure ()
  | n, ev :: events => do
    attempt
      (call (f (.notify n)) (.notify n) fun s =>
        { s with notified := s.notified ++ [notifyJob ev] })
      fun _ => pure ()
    attempt (call (f (.webhook n)) (.webhook n) id) fun _ => pure ()
    notifyAll (n + 1) events

/-- Write the events of a batch and notify; the answer says whether they are durable. -/
def persistEvents (preFeed : DeviceId → Option DeviceIo) (devices : List DeviceId)
    (events : List RuleEvent) : Eff RuleError RuleWorker Bool :=
  if events = [] then pure true
  else
    attempt
      (do
        let persisted ← onStore (RulePersister.persist f src.registry events)
        onStore (notifyAll f 0 persisted)
        pure true)
      fun _ => do
        modify fun w => { w with engine := w.engine.rollbackIo preFeed devices }
        pure false

def feed (ioStateFor : DeviceId → Option DeviceIo) (records : List NormalizedRecord) :
    Eff RuleError RuleWorker (List RuleEvent) := do
  let w ← get
  let fed := w.engine.feed src.rulesFor ioStateFor records
  modify fun w => { w with engine := fed.1, fed := w.fed ++ [records] }
  pure fed.2

def snapshots (w : RuleWorker) (devices : List DeviceId) : List (DeviceId × DeviceIo) :=
  devices.filterMap fun d => (w.engine.io d).map (d, ·)

/-- Feed the batch, write what it shows and save the IO state. -/
def evaluateBatch (devices : List DeviceId) (records : List NormalizedRecord) :
    Eff RuleError RuleWorker Unit := do
  let ioStateFor ← onStore (RulePersister.loadIoState f devices)
  let before ← get
  let events ← feed src ioStateFor records
  let persistOk ← persistEvents src f before.engine.io devices events
  let after ← get
  when persistOk (onStore (RulePersister.saveIoState f (after.snapshots devices)))

def ruleStep (records : List NormalizedRecord) : Eff RuleError RuleWorker Unit :=
  attempt
    (do
      call (f .resolveRules) .resolveRules id
      when (ruleDevices src records ≠ []) (evaluateBatch src f (ruleDevices src records) records))
    -- logged, and the batch goes on
    fun _ => pure ()

end RuleWorker

end Orbetra
