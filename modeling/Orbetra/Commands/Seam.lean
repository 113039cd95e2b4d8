import Orbetra.Framework.Machine
import Orbetra.Records
import Orbetra.Settings.Getparam

/-!
# The command seam

Codec 12 commands of one device, between the API, the ingest sessions and the dispatcher of the
worker: `commands/dispatcher.ts` and `commands/reconcile.ts`, `drainPending` and the responses of
`session.ts`, and `paramWrite.ts`.

Three lists in Redis join them.  The API queues on `cmd:pending`; a session pops, checks, records on
`cmd:inflight` and writes to its socket; the answers of the device go to `cmd:resp`; and each tick of
the dispatcher pairs the last two by position, updates the rows of the commands, re-queues what has
timed out, and removes what it has dealt with.  `Seam.step` takes one Redis or SQL command at a time.

A tick reads the three lists and then only writes, so what it writes is a plan (`tickOps`).
-/

namespace Orbetra.Commands

open Function

/-! ## The entries of the lists -/

/-- `PendingEntry` -/
structure PendingEntry where
  id : String
  text : Text
  attempt : ℕ
  expiresAtMs : Option Ms
  deriving DecidableEq

structure Inflight where
  id : String
  text : Text
  attempt : ℕ
  sentAtMs : Ms
  expiresAtMs : Option Ms
  deriving DecidableEq

/-- `CmdResponse`, with two facts that no code reads: the command that the device has answered, and
the number of the answer. -/
structure CmdResponse where
  text : String
  nack : Bool
  giver : String
  serial : ℕ
  deriving DecidableEq

inductive CommandStatus
  | queued
  | sent
  | acked
  | failed
  | expired
  deriving DecidableEq

/-- The part of a row of `commands` that the seam writes. -/
structure CommandRow where
  status : CommandStatus
  response : Option String
  deriving DecidableEq

/-- `status IN ('queued','sent')` -/
def CommandRow.open (row : CommandRow) : Bool := row.status = .queued || row.status = .sent

/-! ## `reconcile.ts` -/

def timeoutMs : Ms := 30000

def maxAttempts : ℕ := 3

/-- `isRetryableCommand` -/
def isRetryableCommand (text : Text) : Bool :=
  let verb := ((trim text).takeWhile fun c => !isWhite c).map Char.toLower
  verb ≠ "cpureset".toList && verb ≠ "deleterecords".toList

/-- A command that has failed: why, and for which answer. -/
structure Failure where
  id : String
  reason : String
  nack : Option CmdResponse
  deriving DecidableEq

structure ReconcileResult where
  acked : List (String × CmdResponse)
  failed : List Failure
  resend : List Inflight
  remaining : List Inflight
  consumedResponses : ℕ

/-- The command is still within its response window. -/
def Inflight.waits (nowMs : Ms) (cmd : Inflight) : Bool := nowMs - cmd.sentAtMs < timeoutMs

/-- The command is sent once more when it times out. -/
def Inflight.retries (cmd : Inflight) : Bool :=
  isRetryableCommand cmd.text && cmd.attempt + 1 < maxAttempts

/-- What a response says about the command at its place. -/
def Failure.ofNack (pair : Inflight × CmdResponse) : Failure :=
  ⟨pair.1.id, "device rejected (nack)", some pair.2⟩

/-- What becomes of a command that has timed out for the last time. -/
def Failure.ofTimeout (cmd : Inflight) : Failure :=
  ⟨cmd.id, if isRetryableCommand cmd.text then "timeout (max retries)"
    else "timeout (non-retryable command)", none⟩

/-- `reconcile`: the responses are paired with the head of the queue, and the rest of the queue waits
or has timed out. -/
def reconcile (inflight : List Inflight) (responses : List CmdResponse) (nowMs : Ms) :
    ReconcileResult :=
  let pairs := inflight.zip responses
  let unanswered := inflight.drop responses.length
  let late := unanswered.filter fun cmd => !cmd.waits nowMs
  { acked := (pairs.filter fun pair => !pair.2.nack).map fun pair => (pair.1.id, pair.2)
    failed := (pairs.filter fun pair => pair.2.nack).map Failure.ofNack ++
      (late.filter fun cmd => !cmd.retries).map Failure.ofTimeout
    resend := (late.filter Inflight.retries).map fun cmd => { cmd with attempt := cmd.attempt + 1 }
    remaining := unanswered.filter (Inflight.waits nowMs)
    consumedResponses := pairs.length }

/-! ## `processDevice` -/

/-- A command of `processDevice` after its three reads. -/
inductive TickOp
  | updateExpired (id : String)
  | lremPending (raw : PendingEntry)
  | updateSent (ids : List String)
  | updateAcked (id : String) (response : CmdResponse)
  | updateFailed (failure : Failure)
  | updateQueued (id : String)
  | rpushPending (raw : PendingEntry)
  | lremInflight (raw : Inflight)
  | ltrimResp (count : ℕ)
  deriving DecidableEq

def TickOp.onPending : TickOp → List PendingEntry → List PendingEntry
  | .lremPending raw, pending => pending.erase raw
  | .rpushPending raw, pending => pending ++ [raw]
  | _, pending => pending

def TickOp.onInflight : TickOp → List Inflight → List Inflight
  | .lremInflight raw, inflight => inflight.erase raw
  | _, inflight => inflight

def TickOp.onResp : TickOp → List CmdResponse → List CmdResponse
  | .ltrimResp count, resp => resp.drop count
  | _, resp => resp

def PendingEntry.past (nowMs : Ms) (entry : PendingEntry) : Bool :=
  entry.expiresAtMs.any fun e => e ≤ nowMs

/-- What a timed-out command is queued as. -/
def Inflight.requeued (cmd : Inflight) : PendingEntry :=
  ⟨cmd.id, cmd.text, cmd.attempt, cmd.expiresAtMs⟩

/-- The entries that a tick removes from `cmd:inflight`. -/
def removals (inflight remaining : List Inflight) : List Inflight :=
  inflight.filter fun cmd => cmd.id ∉ remaining.map (·.id)

def ReconcileResult.dropCount (r : ReconcileResult) (responses : List CmdResponse) : ℕ :=
  if r.remaining = [] then responses.length else r.consumedResponses

/-- `processDevice`, after its three reads. -/
def tickOps (nowMs : Ms) (inflight : List Inflight) (responses : List CmdResponse)
    (pending : List PendingEntry) : List TickOp :=
  let r := reconcile inflight responses nowMs
  ((pending.filter (PendingEntry.past nowMs)).flatMap fun p =>
      [TickOp.updateExpired p.id, .lremPending p]) ++
    (if inflight = [] then [] else [TickOp.updateSent (inflight.map (·.id))]) ++
    (r.acked.map fun a => TickOp.updateAcked a.1 a.2) ++
    r.failed.map TickOp.updateFailed ++
    (r.resend.flatMap fun cmd => [TickOp.updateQueued cmd.id, .rpushPending cmd.requeued]) ++
    (removals inflight r.remaining).map TickOp.lremInflight ++
    (if r.dropCount responses = 0 then [] else [TickOp.ltrimResp (r.dropCount responses)])

/-- Where a tick has got to. -/
inductive Dispatcher
  | idle
  /-- It has taken the time. -/
  | started (nowMs : Ms)
  | readInflight (nowMs : Ms) (inflight : List Inflight)
  | readResp (nowMs : Ms) (inflight : List Inflight) (responses : List CmdResponse)
  /-- It has read the lists, has made the commands `past`, and is to make the commands `ops`. -/
  | running (past ops : List TickOp) (settled : Bool)
  /-- It has counted `cmd:pending`. -/
  | counted (settled : Bool) (pending : ℕ)
  /-- It is to take the device off `cmd:active`. -/
  | leaving
  deriving DecidableEq

/-! ## `drainPending` -/

inductive Hand
  | idle
  /-- At the top of the loop, with a number of rounds left. -/
  | loop (rounds : ℕ)
  | popped (rounds : ℕ) (raw : PendingEntry)
  /-- The entry has passed the checks, and is to be recorded. -/
  | checked (rounds : ℕ) (entry : Inflight)
  /-- The entry is recorded, and is to be written to the socket. -/
  | recorded (rounds : ℕ) (entry : Inflight)
  deriving DecidableEq

structure Session where
  /-- The socket is neither destroyed nor ended. -/
  alive : Bool
  hand : Hand
  deriving DecidableEq

def drainBound : ℕ := 16

/-- The in-flight entry of a popped command. -/
def PendingEntry.sent (raw : PendingEntry) (now : Ms) : Inflight :=
  ⟨raw.id, raw.text, raw.attempt, now, raw.expiresAtMs⟩

/-! ## `paramWrite.ts` -/

/-- A whole number, written out. -/
def decimal (n : ℤ) : Text := (toString n).toList

/-- The arguments of `queueParamWrite`, and what the database gives the two rows. -/
structure ParamCall where
  writes : List (Text × ℤ)
  commandId : String
  verifyCommandId : String
  expiresAt : Ms
  deriving DecidableEq

def setparamText (writes : List (Text × ℤ)) : Text :=
  "setparam ".toList ++ [';'].intercalate (writes.map fun w => w.1 ++ ':' :: decimal w.2)

def getparamText (writes : List (Text × ℤ)) : Text :=
  "getparam ".toList ++ [';'].intercalate (writes.map (·.1))

/-- `/^(\d{1,7}):-?\d+/`: the id, and the length of the match. -/
def idAt (t : Text) : Option (Text × ℕ) := do
  let (id, rest) ← takeId t
  let value ← stripWord [':'] rest
  let digits := (stripWord ['-'] value).getD value
  let after := digits.dropWhile Char.isDigit
  if digits.length = after.length then none else pure (id, t.length - after.length)

/-- `matchAll(/(\d{1,7}):-?\d+/g)`: the ids, from a place that many characters ahead. -/
def matchIds : ℕ → Text → List Text
  | _, [] => []
  | 0, c :: t =>
    match idAt (c :: t) with
    | some (id, length) => id :: matchIds (length - 1) t
    | none => matchIds 0 t
  | skip + 1, _ :: t => matchIds skip t

/-- `/^\s*setparam\s/i` -/
def isSetparam (text : Text) : Bool :=
  ((stripWord "setparam".toList (text.dropWhile isWhite)).bind stripWhite).isSome

def supersedes (text : Text) (touched : List Text) : Bool :=
  isSetparam text && (matchIds 0 text).any fun id => id ∈ touched

/-- The queued `setparam`. -/
def ParamCall.set (call : ParamCall) : PendingEntry :=
  ⟨call.commandId, setparamText call.writes, 0, some call.expiresAt⟩

/-- The queued `getparam` behind it. -/
def ParamCall.verify (call : ParamCall) : PendingEntry :=
  ⟨call.verifyCommandId, getparamText call.writes, 0, some call.expiresAt⟩

def ParamCall.stale (call : ParamCall) (queued : List PendingEntry) : List PendingEntry :=
  queued.filter fun raw => supersedes raw.text (call.writes.map (·.1))

/-- Where a call of `queueParamWrite` has got to. -/
inductive Api
  | idle
  /-- It has read the queue. -/
  | read (call : ParamCall) (stale : List PendingEntry)
  /-- It has queued, and marks what it has dropped. -/
  | marking (ids : List String)
  deriving DecidableEq

/-! ## One step -/

/-- What has happened, for the record. -/
structure SeamLog where
  queued : List PendingEntry
  calls : List ParamCall
  recorded : List Inflight
  /-- what sessions have written to a socket, and what the device has received of it -/
  written : List Inflight
  received : List Inflight
  answered : List CmdResponse
  /-- the responses that ticks have credited to commands -/
  credits : List (CmdResponse × String)
  started : ℕ
  ended : ℕ

def SeamLog.withCredits (log : SeamLog) (credits : List (CmdResponse × String)) : SeamLog :=
  { log with credits := credits }

structure Seam where
  now : Ms
  pending : List PendingEntry
  inflight : List Inflight
  resp : List CmdResponse
  /-- The device is in `cmd:active`. -/
  active : Bool
  rows : String → CommandRow
  session : ℕ → Session
  dispatcher : Dispatcher
  api : Api
  log : SeamLog

/-- What may happen next. -/
inductive SeamMove
  /-- Time goes on. -/
  | clock (t : Ms)
  /-- `RPUSH` of a new command, and `SADD` of the device. -/
  | queue (entry : PendingEntry)
  | wake
  /-- `queueParamWrite`, and its further steps. -/
  | paramWrite (call : ParamCall)
  | api
  | connect (i : ℕ)
  | hangUp (i : ℕ)
  /-- The process of the session stops. -/
  | vanish (i : ℕ)
  | drain (i : ℕ)
  /-- The next step of a drain; what it writes arrives, or is lost. -/
  | session (i : ℕ) (arrives : Bool)
  /-- The device has answered a command. -/
  | answer (giver text : String) (nack : Bool)
  /-- A tick begins, goes on, or stops for good. -/
  | tick
  | dispatch
  | crash
  deriving DecidableEq

namespace Seam

def updateRow (s : Seam) (id : String) (f : CommandRow → CommandRow) : Seam :=
  { s with rows := update s.rows id (f (s.rows id)) }

theorem updateRow_rows (s : Seam) (id id' : String) (f : CommandRow → CommandRow) :
    (s.updateRow id f).rows id' = if id' = id then f (s.rows id') else s.rows id' := by
  show update s.rows id (f (s.rows id)) id' = _
  rw [update_apply]
  split
  · rename_i h
    rw [h]
  · rfl

/-- `WHERE status IN ('queued','sent')` -/
def ifOpen (f : CommandRow → CommandRow) (row : CommandRow) : CommandRow :=
  if row.open then f row else row

def credit (s : Seam) (response : CmdResponse) (id : String) : Seam :=
  { s with log := s.log.withCredits (s.log.credits ++ [(response, id)]) }

def tickOp (s : Seam) : TickOp → Seam
  | .updateExpired id => s.updateRow id (ifOpen ({ · with status := .expired }))
  | .lremPending raw => { s with pending := s.pending.erase raw }
  | .updateSent ids =>
    { s with rows := fun id =>
        if id ∈ ids ∧ (s.rows id).status = .queued then { s.rows id with status := .sent }
        else s.rows id }
  | .updateAcked id response =>
    (s.updateRow id (ifOpen fun _ => ⟨.acked, some response.text⟩)).credit response id
  | .updateFailed failure =>
    let s' := s.updateRow failure.id (ifOpen fun _ => ⟨.failed, some failure.reason⟩)
    match failure.nack with
    | some response => s'.credit response failure.id
    | none => s'
  | .updateQueued id => s.updateRow id (ifOpen ({ · with status := .queued }))
  | .rpushPending raw => { s with pending := s.pending ++ [raw] }
  | .lremInflight raw => { s with inflight := s.inflight.erase raw }
  | .ltrimResp count => { s with resp := s.resp.drop count }

section TickOp

variable (s : Seam) (op : TickOp)

@[simp] theorem tickOp_now : (s.tickOp op).now = s.now := by
  cases op <;> first | rfl | (unfold tickOp; dsimp only; split <;> rfl)

@[simp] theorem tickOp_session : (s.tickOp op).session = s.session := by
  cases op <;> first | rfl | (unfold tickOp; dsimp only; split <;> rfl)

@[simp] theorem tickOp_active : (s.tickOp op).active = s.active := by
  cases op <;> first | rfl | (unfold tickOp; dsimp only; split <;> rfl)

/-- Of what has happened, a tick adds to the credits alone. -/
theorem tickOp_log : ∃ credits, (s.tickOp op).log = s.log.withCredits credits := by
  cases op <;> first | exact ⟨_, rfl⟩ | (unfold tickOp; dsimp only; split <;> exact ⟨_, rfl⟩)

theorem tickOp_pending : (s.tickOp op).pending = op.onPending s.pending := by
  cases op <;> first | rfl | (unfold tickOp; dsimp only; split <;> rfl)

theorem tickOp_inflight : (s.tickOp op).inflight = op.onInflight s.inflight := by
  cases op <;> first | rfl | (unfold tickOp; dsimp only; split <;> rfl)

theorem tickOp_resp : (s.tickOp op).resp = op.onResp s.resp := by
  cases op <;> first | rfl | (unfold tickOp; dsimp only; split <;> rfl)

end TickOp

/-- The dispatcher gets to a place. -/
def dispatch (s : Seam) (d : Dispatcher) : Seam := { s with dispatcher := d }

def endTick (s : Seam) : Seam :=
  { s with dispatcher := .idle, log := { s.log with ended := s.log.ended + 1 } }

/-- The next command of a tick. -/
def dispatchStep (s : Seam) : Option Seam :=
  match s.dispatcher with
  | .idle => none
  | .started nowMs => some (s.dispatch (.readInflight nowMs s.inflight))
  | .readInflight nowMs inflight => some (s.dispatch (.readResp nowMs inflight s.resp))
  | .readResp nowMs inflight responses =>
    some (s.dispatch (.running [] (tickOps nowMs inflight responses s.pending)
      ((reconcile inflight responses nowMs).remaining = [])))
  | .running past (op :: ops) settled =>
    some ((s.tickOp op).dispatch (.running (past ++ [op]) ops settled))
  | .running _ [] settled => some (s.dispatch (.counted settled s.pending.length))
  | .counted settled pending =>
    if pending = 0 ∧ s.inflight.length = 0 ∧ settled then some (s.dispatch .leaving)
    else some s.endTick
  | .leaving => some { s with active := false }.endTick

/-- A session gets to a place. -/
def setHand (s : Seam) (i : ℕ) (hand : Hand) : Seam :=
  { s with session := update s.session i { s.session i with hand := hand } }

def record (s : Seam) (entry : Inflight) : Seam :=
  { s with
    inflight := s.inflight ++ [entry]
    active := true
    log := { s.log with recorded := s.log.recorded ++ [entry] } }

/-- The entry is written to a socket. -/
def write (s : Seam) (entry : Inflight) (arrives : Bool) : Seam :=
  { s with log := { s.log with
      written := s.log.written ++ [entry]
      received := if arrives then s.log.received ++ [entry] else s.log.received } }

/-- The next step of a drain. -/
def sessionStep (s : Seam) (i : ℕ) (arrives : Bool) : Option Seam :=
  match (s.session i).hand with
  | .idle => none
  | .loop 0 => some (s.setHand i .idle)
  | .loop (rounds + 1) =>
    if (s.session i).alive then
      match s.pending with
      | [] => some (s.setHand i .idle)
      | raw :: pending => some ({ s with pending := pending }.setHand i (.popped rounds raw))
    else some (s.setHand i .idle)
  | .popped rounds raw =>
    -- past its expiry, or not to be encoded: dropped
    if raw.past s.now ∨ raw.text = [] then some (s.setHand i (.loop rounds))
    else some (s.setHand i (.checked rounds (raw.sent s.now)))
  | .checked rounds entry => some ((s.record entry).setHand i (.recorded rounds entry))
  | .recorded rounds entry =>
    some ((s.write entry (arrives && (s.session i).alive)).setHand i (.loop rounds))

/-- `MULTI`: what a call has found stale is dropped, and its two commands are queued. -/
def push (s : Seam) (call : ParamCall) (stale : List PendingEntry) : Seam :=
  { s with
    pending := s.pending.filter (fun raw => raw ∉ stale) ++ [call.set, call.verify]
    active := true
    api := .marking (stale.map (·.id))
    log := { s.log with
      queued := s.log.queued ++ [call.set, call.verify]
      calls := s.log.calls ++ [call] } }

/-- The next step of a call of `queueParamWrite`. -/
def apiStep (s : Seam) : Option Seam :=
  match s.api with
  | .idle => none
  | .read call stale => some (s.push call stale)
  | .marking [] => some { s with api := .idle }
  | .marking (id :: ids) =>
    some { s.updateRow id fun row =>
      if row.status = .queued then { row with status := .expired } else row with
        api := .marking ids }

/-- `RPUSH` of a command, with attempt 0. -/
def enqueue (s : Seam) (entry : PendingEntry) : Seam :=
  { s with
    pending := s.pending ++ [entry]
    log := { s.log with queued := s.log.queued ++ [entry] } }

/-- `LTRIM -1000 -1` -/
def newestResponses (resp : List CmdResponse) : List CmdResponse := (resp.reverse.take 1000).reverse

/-- Fewer than 1000 responses are kept as they are. -/
theorem newestResponses_few {resp : List CmdResponse} {response : CmdResponse}
    (h : resp.length < 1000) : newestResponses (resp ++ [response]) = resp ++ [response] := by
  unfold newestResponses
  rw [List.take_of_length_le, List.reverse_reverse]
  rw [List.length_reverse, List.length_append]
  exact h

/-- `MULTI`: an answer of the device is kept; the oldest of more than 1000 are dropped. -/
def receive (s : Seam) (response : CmdResponse) : Seam :=
  { s with
    resp := newestResponses (s.resp ++ [response])
    active := true
    log := { s.log with answered := s.log.answered ++ [response] } }

def step (s : Seam) : SeamMove → Option Seam
  | .clock t => if s.now ≤ t then some { s with now := t } else none
  | .queue entry => some (s.enqueue entry)
  | .wake => some { s with active := true }
  | .paramWrite call =>
    match s.api with
    | .idle => some { s with api := .read call (call.stale s.pending) }
    | _ => none
  | .api => s.apiStep
  | .connect i =>
    match (s.session i).hand with
    | .idle => some { s with session := update s.session i ⟨true, .idle⟩ }
    | _ => none
  | .hangUp i =>
    some { s with session := update s.session i { s.session i with alive := false } }
  | .vanish i => some { s with session := update s.session i ⟨false, .idle⟩ }
  | .drain i =>
    match (s.session i).hand with
    | .idle => some (s.setHand i (.loop drainBound))
    | _ => none
  | .session i arrives => s.sessionStep i arrives
  | .answer giver text nack => some (s.receive ⟨text, nack, giver, s.log.answered.length⟩)
  | .tick =>
    match s.dispatcher with
    | .idle =>
      if s.active then
        some { s with dispatcher := .started s.now, log := { s.log with started := s.log.started + 1 } }
      else none
    | _ => none
  | .dispatch => s.dispatchStep
  | .crash => some (s.dispatch .idle)

/-- Nothing has happened. -/
def init : Seam where
  now := 0
  pending := []
  inflight := []
  resp := []
  active := false
  rows := fun _ => ⟨.queued, none⟩
  session := fun _ => ⟨false, .idle⟩
  dispatcher := .idle
  api := .idle
  log := ⟨[], [], [], [], [], [], [], 0, 0⟩

end Seam

end Orbetra.Commands
