import Orbetra.Framework.Effect
import Orbetra.Records

/-!
# The shard consumer: quarantine, insert, acknowledge

`ShardConsumer.process` takes a batch of stream entries that are pending in the consumer group.
Entries that do not decode are moved to `raw:dead` and acknowledged in one pipeline; the others are
inserted into `positions` in one statement, which is bisected when Postgres rejects a row on its own
merits; the rejected rows are moved to `raw:dead`, the batch is handed downstream, and only then is
the rest acknowledged.

Everything the code does not decide is a field of `FailurePattern`: the reply to every command of
every pipeline, the reply to every `INSERT`, the rows Postgres rejects, and whether the downstream
handler returns.  ioredis reports a refused command of a pipeline in the reply array, which
`process` does not look at, so a refusal is invisible here too (`Eff.pipeline`).
-/

namespace Orbetra

open Eff

abbrev EntryId := ℕ

/-- One entry of `raw:{shard}`. -/
structure Entry (Payload : Type) where
  id : EntryId
  payload : Payload
  deriving DecidableEq

/-- An error raised by Postgres, with its SQLSTATE. -/
structure PgError where
  code : Option String
  deriving DecidableEq

/-- SQLSTATE classes 22 and 23 mean that the row is bad, not that the database is unhappy. -/
def isRowRejection (err : PgError) : Bool :=
  err.code.any fun code => code.startsWith "22" || code.startsWith "23"

/-- How a payload becomes a record: the CBOR decoder, the device a decoded payload names, the
per-device dictionary, and `normalize`. -/
structure Decoding (Payload Decoded Table : Type) where
  decode : Payload → Option Decoded
  deviceId : Decoded → Option DeviceId
  resolveBatch : List DeviceId → DeviceId → Option Table
  normalize : Decoded → Option Table → Option NormalizedRecord

/-- The commands `process` puts into its pipelines. -/
inductive StreamCmd (Payload : Type)
  /-- `XADD raw:dead MAXLEN ~ 10000 * ref … payload …` -/
  | xadd (entry : Entry Payload)
  /-- `XACK raw:{shard} GROUP id` -/
  | xack (id : EntryId)
  deriving DecidableEq

/-- What the environment decides during one call of `process`. -/
structure FailurePattern (Payload : Type) where
  /-- Replies to the pipeline that quarantines malformed entries. -/
  malformed : StreamCmd Payload → Reply
  /-- Replies to the pipeline that quarantines rows Postgres rejected. -/
  rejected : StreamCmd Payload → Reply
  /-- Replies to the final acknowledgements. -/
  ack : StreamCmd Payload → Reply
  /-- Reply to the `n`-th `INSERT` statement: `error` is an outage, not a verdict on the rows. -/
  insert : ℕ → Reply
  /-- The error an outage raises. -/
  outage : PgError
  outage_transient : isRowRejection outage = false
  /-- The error Postgres raises for a row it rejects. -/
  rowError : NormalizedRecord → Option PgError
  rowError_rejects : ∀ r err, rowError r = some err → isRowRejection err = true
  /-- Does the downstream handler return? -/
  onBatch : Reply
  /-- How many entries beyond its bound `MAXLEN ~` evicts from a stream of the given length. -/
  evict : ℕ → ℕ

structure ShardStats where
  processed : ℕ
  inserted : ℕ
  deadLettered : ℕ
  deriving DecidableEq

/-- The durable state a call of `process` works on, with the consumer's counters. -/
structure ShardState (Payload : Type) where
  /-- The pending entries list of the consumer group. -/
  pending : List EntryId
  /-- The rows of `positions`. -/
  positions : List NormalizedRecord
  /-- The entries of `raw:dead`, oldest first. -/
  rawDead : List (Entry Payload)
  /-- `INSERT` statements sent so far. -/
  statements : ℕ
  stats : ShardStats
  deriving DecidableEq

variable {Payload Decoded Table : Type}

/-! ## Redis and Postgres -/

def rawDeadMaxlen : ℕ := 10000

/-- The effect of one accepted command.  `MAXLEN ~` evicts only entries beyond the bound. -/
def StreamCmd.apply (evict : ℕ → ℕ) (s : ShardState Payload) : StreamCmd Payload → ShardState Payload
  | .xadd entry =>
    let grown := s.rawDead ++ [entry]
    { s with rawDead := grown.drop (min (evict grown.length) (grown.length - rawDeadMaxlen)) }
  | .xack id => { s with pending := s.pending.filter (· ≠ id) }

/-- `ON CONFLICT (device_id, fix_time, rec_hash) DO NOTHING` for one row. -/
def insertRow (table : List NormalizedRecord) (r : NormalizedRecord) : List NormalizedRecord :=
  if table.any (fun row => row.key = r.key) then table else table ++ [r]

/-- One multi-row `INSERT`: all of its rows, or none. -/
def insertStatement (f : FailurePattern Payload) (batch : List NormalizedRecord) :
    Eff PgError (ShardState Payload) ℕ := fun s =>
  let sent := { s with statements := s.statements + 1 }
  match f.insert s.statements with
  | .crash => .crashed s
  | .error => .threw f.outage sent
  | .ok =>
    match batch.findSome? f.rowError with
    | some err => .threw err sent
    | none =>
      let table := batch.foldl insertRow s.positions
      .done (table.length - s.positions.length) { sent with positions := table }

def maxBatchRows : ℕ := 500

/-- The loop of `writePositions`: one statement for each slice of at most `maxBatchRows` rows,
adding to `inserted`. -/
def writePositionsFrom (f : FailurePattern Payload) (inserted : ℕ)
    (records : List NormalizedRecord) : Eff PgError (ShardState Payload) ℕ :=
  if records.length = 0 then pure inserted
  else do
    let rowCount ← insertStatement f (records.take maxBatchRows)
    writePositionsFrom f (inserted + rowCount) (records.drop maxBatchRows)
termination_by records.length
decreasing_by simp only [List.length_drop, maxBatchRows]; omega

def writePositions (f : FailurePattern Payload) (records : List NormalizedRecord) :
    Eff PgError (ShardState Payload) ℕ :=
  writePositionsFrom f 0 records

/-! ## `writeIsolatingBadRows` -/

/-- A normalized record and the entry it came from: `entryOf`. -/
abbrev Row (Payload : Type) := NormalizedRecord × Entry Payload

/-- The inner function `write`: insert the rows, bisecting on a rejection.  Returns the number of
rows inserted and the rows found bad. -/
def write (f : FailurePattern Payload) (recs : List (Row Payload)) :
    Eff PgError (ShardState Payload) (ℕ × List (Row Payload)) :=
  if recs.length = 0 then pure (0, [])
  else
    attempt
      (do
        let inserted ← writePositions f (recs.map Prod.fst)
        pure (inserted, []))
      fun err =>
        if isRowRejection err = false then throw err
        else if recs.length = 1 then pure (0, recs)
        else do
          let mid := recs.length / 2
          let left ← write f (recs.take mid)
          let right ← write f (recs.drop mid)
          pure (left.1 + right.1, left.2 ++ right.2)
termination_by recs.length
decreasing_by
  · simp only [List.length_take]; omega
  · simp only [List.length_drop]; omega

/-! ## `process` -/

/-- Decode, resolve the dictionaries, normalize: the entries that become rows, in order. -/
def toRecord (d : Decoding Payload Decoded Table) (devices : List DeviceId)
    (e : Entry Payload) : Option NormalizedRecord := do
  let p ← d.decode e.payload
  d.normalize p ((d.deviceId p).bind (d.resolveBatch devices))

def batchDevices (d : Decoding Payload Decoded Table) (entries : List (Entry Payload)) :
    List DeviceId :=
  entries.filterMap fun e => (d.decode e.payload).bind d.deviceId

def batchRows (d : Decoding Payload Decoded Table) (entries : List (Entry Payload)) :
    List (Row Payload) :=
  entries.filterMap fun e => (toRecord d (batchDevices d entries) e).map (·, e)

/-- The entries that are dead-lettered: first those that do not decode, then those that do not
normalize. -/
def batchDead (d : Decoding Payload Decoded Table) (entries : List (Entry Payload)) :
    List (Entry Payload) :=
  entries.filter (fun e => (d.decode e.payload).isNone) ++
    entries.filter fun e =>
      (d.decode e.payload).isSome && (toRecord d (batchDevices d entries) e).isNone

/-- The pipeline for malformed entries: each is copied to `raw:dead` and acknowledged. -/
def malformedPipeline (dead : List (Entry Payload)) : List (StreamCmd Payload) :=
  dead.flatMap fun e => [.xadd e, .xack e.id]

/-- `records.sort((a, b) => a.fixTime - b.fixTime)` -/
def sortByFixTime (rows : List (Row Payload)) : List (Row Payload) :=
  rows.mergeSort fun a b => a.1.fixTime ≤ b.1.fixTime

/-- The final acknowledgements, in arrival order. -/
def ackPipeline (rows : List (Row Payload)) : List (StreamCmd Payload) :=
  rows.map fun row => .xack row.2.id

def rejectedPipeline (bad : List (Row Payload)) : List (StreamCmd Payload) :=
  bad.map fun row => .xadd row.2

/-- Send a quarantine pipeline for `n` entries and count them as dead-lettered. -/
def quarantine (reply : StreamCmd Payload → Reply) (evict : ℕ → ℕ) (cs : List (StreamCmd Payload))
    (n : ℕ) : Eff PgError (ShardState Payload) Unit := do
  pipeline reply (StreamCmd.apply evict) cs
  modify fun s => { s with stats.deadLettered := s.stats.deadLettered + n }

def countWritten (inserted kept : ℕ) : Eff PgError (ShardState Payload) Unit :=
  modify fun s => { s with
    stats.inserted := s.stats.inserted + inserted
    stats.processed := s.stats.processed + kept }

instance lawfulBEq_entry {Payload : Type} [DecidableEq Payload] :
    LawfulBEq (NormalizedRecord × Entry Payload) := inferInstance

def process [DecidableEq Payload] (d : Decoding Payload Decoded Table)
    (f : FailurePattern Payload) (entries : List (Entry Payload)) :
    Eff PgError (ShardState Payload) Unit := do
  let dead := batchDead d entries
  let rows := batchRows d entries
  when (dead ≠ []) (quarantine f.malformed f.evict (malformedPipeline dead) dead.length)
  when (rows ≠ []) do
    let result ← write f (sortByFixTime rows)
    let bad := result.2
    let kept := (sortByFixTime rows).filter (· ∉ bad)
    countWritten result.1 kept.length
    when (bad ≠ []) (quarantine f.rejected f.evict (rejectedPipeline bad) bad.length)
    when (kept ≠ []) (call f.onBatch ⟨none⟩ id)
    pipeline f.ack (StreamCmd.apply f.evict) (ackPipeline rows)

end Orbetra
