import Orbetra.Framework.Async
import Orbetra.Settings.Getparam

/-!
# The SMS worker

`jobs/smsWorker.ts`, and `isPermanent` of `sms/drivers.ts`, for the deliveries of one job: its claim key
in Redis, its row in Postgres, and the provider.  A program is the source's function with one command
for each `await`.

Who wrote the claim key last is part of the state, though no command reads it.
-/

namespace Orbetra.Sms

/-! ## The state -/

/-- `SmsStatus` -/
inductive SmsStatus
  | queued
  | sent
  | failed
  deriving DecidableEq

structure SmsDelivery where
  status : SmsStatus
  providerMessageId : Option Text
  error : Option Text
  deriving DecidableEq

/-- `SmsJob` -/
structure SmsJob where
  /-- `to`, the destination MSISDN. -/
  destination : Text
  body : Text
  deriving DecidableEq

/-- What a send throws: the source tells an `SmsSendError` and any other `Error` from the rest. -/
inductive SmsError
  | smsSendError (status : ℕ) (message : Text)
  | error (message : Text)
  | unknown
  deriving DecidableEq

/-- `err instanceof Error ? err.message : 'sms send failed'` -/
def SmsError.message : SmsError → Text
  | .smsSendError _ message => message
  | .error message => message
  | .unknown => "sms send failed".toList

/-- What the provider makes of a request. -/
inductive SendOutcome
  | accepted (providerMessageId : Text)
  /-- An error, and the message that was created all the same. -/
  | failed (e : SmsError) (created : Option Text)
  deriving DecidableEq

/-- The messages that are charged.  A status of 400 or more means that none was created. -/
def SendOutcome.charged : SendOutcome → List Text
  | .accepted providerMessageId => [providerMessageId]
  | .failed (.smsSendError status _) created => if 400 ≤ status then [] else created.toList
  | .failed _ created => created.toList

def SendOutcome.reply : SendOutcome → Except SmsError Text
  | .accepted providerMessageId => .ok providerMessageId
  | .failed e _ => .error e

def attempting : Text := "attempting".toList

def ambiguous : Text := "ambiguous".toList

def sent : Text := "sent".toList

def sentClaim (providerMessageId : Text) : Text := sent ++ ':' :: providerMessageId

/-- The result of `parseSent`. -/
structure Prior where
  sent : Bool
  providerMessageId : Option Text
  deriving DecidableEq

def parseSent : Option Text → Prior
  | none => ⟨false, none⟩
  | some raw =>
    if raw = sent then ⟨true, none⟩
    else if (sent ++ [':']).isPrefixOf raw then ⟨true, some (raw.drop (sent.length + 1))⟩
    else ⟨false, none⟩

/-- The claim key of one delivery, its row, and what the provider has charged for it; `ι` names the
attempts. -/
structure SmsStore (ι : Type) where
  /-- The value of the key, and the attempt that wrote it. -/
  claim : Option (Text × ι)
  row : SmsDelivery
  /-- The ids of the messages that the provider has accepted, and charged. -/
  accepted : List Text
  /-- How many requests have reached the provider. -/
  requests : ℕ
  deriving DecidableEq

namespace SmsStore

variable {ι : Type} (s : SmsStore ι)

/-- The value of the claim key. -/
def claimed : Option Text := s.claim.map (·.1)

/-- The row says that the message was sent. -/
def Sent : Prop := s.row.status = .sent

instance : Decidable s.Sent := inferInstanceAs (Decidable (_ = _))

/-- `row.status === 'sent' || row.providerMessageId !== null` -/
def proven : Bool := s.row.status = .sent || s.row.providerMessageId.isSome

def markSent (providerMessageId : Text) : SmsStore ι :=
  { s with row := { s.row with status := .sent, providerMessageId := some providerMessageId } }

def markFailed (error : Text) : SmsStore ι :=
  if s.row.status = .sent then s
  else { s with row := { s.row with status := .failed, error := some error } }

def reconcileSent (providerMessageId : Option Text) : SmsStore ι :=
  { s with row := ⟨.sent, providerMessageId <|> s.row.providerMessageId, none⟩ }

/-- A request reaches the provider. -/
def charge (outcome : SendOutcome) : SmsStore ι :=
  { s with accepted := s.accepted ++ outcome.charged, requests := s.requests + 1 }

end SmsStore

/-! ## The commands -/

/-- One command to Redis, Postgres or the provider; `expire` is the loss of the claim key. -/
inductive SmsCommand (ι : Type)
  | setNx (me : ι) (value : Text)
  | get
  | set (me : ι) (value : Text)
  | del
  | selectProven
  | markSent (providerMessageId : Text)
  | markFailed (error : Text)
  | reconcileSent (providerMessageId : Option Text)
  | send (destination body : Text)
  | expire
  deriving DecidableEq

variable {ι : Type}

def SmsCommand.Answer : SmsCommand ι → Type
  | .setNx _ _ => Bool
  | .get => Option Text
  | .selectProven => Bool
  | .send _ _ => Except SmsError Text
  | _ => Unit

/-- `provider` says what becomes of each request that reaches it. -/
def SmsCommand.run (provider : ℕ → SendOutcome) :
    (c : SmsCommand ι) → SmsStore ι → SmsStore ι × c.Answer
  | .setNx me value, s =>
    if s.claim.isSome then (s, false) else ({ s with claim := some (value, me) }, true)
  | .get, s => (s, s.claimed)
  | .set me value, s => ({ s with claim := some (value, me) }, ())
  | .del, s => ({ s with claim := none }, ())
  | .selectProven, s => (s, s.proven)
  | .markSent providerMessageId, s => (s.markSent providerMessageId, ())
  | .markFailed error, s => (s.markFailed error, ())
  | .reconcileSent providerMessageId, s => (s.reconcileSent providerMessageId, ())
  | .send _ _, s => (s.charge (provider s.requests), (provider s.requests).reply)
  | .expire, s => ({ s with claim := none }, ())

/-- Redis, Postgres and the provider. -/
abbrev smsService (ι : Type) (provider : ℕ → SendOutcome) : Service (SmsStore ι) where
  Cmd := SmsCommand ι
  Answer := SmsCommand.Answer
  run := SmsCommand.run provider

/-! ## The programs -/

variable {provider : ℕ → SendOutcome}

abbrev Attempt (ι : Type) (provider : ℕ → SendOutcome) := Async (smsService ι provider) SmsError

/-- `await` one command; where it fails, the error is not an `Error` that the source names. -/
def command (c : SmsCommand ι) : Attempt ι provider c.Answer :=
  Async.send (V := smsService ι provider) SmsError.unknown c

def setNx (me : ι) (value : Text) : Attempt ι provider Bool := command (.setNx me value)

/-- `redis.get(key)` -/
def getClaim : Attempt ι provider (Option Text) := command .get

def setClaim (me : ι) (value : Text) : Attempt ι provider Unit := command (.set me value)

/-- `redis.del(key)` -/
def delClaim : Attempt ι provider Unit := command .del

/-- `.catch(() => undefined)` -/
def quietly (m : Attempt ι provider Unit) : Attempt ι provider Unit := m.attempt fun _ => pure ()

def markSent (providerMessageId : Text) : Attempt ι provider Unit :=
  command (.markSent providerMessageId)

def markFailed (error : Text) : Attempt ι provider Unit := command (.markFailed error)

def alreadySent : Attempt ι provider Bool := command .selectProven

def reconcileSent (providerMessageId : Option Text) : Attempt ι provider Unit :=
  command (.reconcileSent providerMessageId)

/-- The row, read under a fresh claim: the claim is released where the read fails. -/
def backstop : Attempt ι provider Bool :=
  alreadySent.attempt fun err => do
    quietly delClaim
    .threw err

def driverSend (job : SmsJob) : Attempt ι provider Text := do
  let reply : Except SmsError Text ← command (.send job.destination job.body)
  match reply with
  | .ok providerMessageId => pure providerMessageId
  | .error e => .threw e

/-- `isPermanent` -/
def isPermanent (status : ℕ) : Bool := status ≠ 429 && 400 ≤ status && status < 500

/-- A prior attempt has claimed the delivery. -/
def redelivered : Attempt ι provider Unit := do
  let state ← getClaim
  let prior := parseSent state
  if prior.sent then
    reconcileSent prior.providerMessageId
  else if ← alreadySent then
    reconcileSent none
  else
    markFailed ("not resent (prior attempt: ".toList ++ state.getD "expired".toList ++ ")".toList)

/-- The outcome is ambiguous: the claim stays. -/
def sendUnclear (me : ι) (message : Text) : Attempt ι provider Unit := do
  setClaim me ambiguous
  markFailed ("ambiguous (not resent): ".toList ++ message)

/-- The provider has not accepted the message, or has not said so. -/
def sendFailed (me : ι) (err : SmsError) : Attempt ι provider Unit :=
  match err with
  | .smsSendError status message =>
    if 400 ≤ status then do
      delClaim
      markFailed message
      if isPermanent status then pure () else .threw err
    else sendUnclear me message
  | _ => sendUnclear me err.message

def sendAccepted (me : ι) (providerMessageId : Text) : Attempt ι provider Unit := do
  quietly (setClaim me (sentClaim providerMessageId))
  markSent providerMessageId

/-- `driver.send`, with its `catch` and what follows it. -/
def sendClaimed (me : ι) (job : SmsJob) : Attempt ι provider Unit := do
  let outcome ← ((Except.ok <$> driverSend job : Attempt ι provider _).attempt fun err =>
    pure (.error err))
  match outcome with
  | .ok providerMessageId => sendAccepted me providerMessageId
  | .error err => sendFailed me err

def runSms (driver : Bool) (me : ι) (job : SmsJob) : Attempt ι provider Unit := do
  if driver = false then
    markFailed "sms not configured".toList
  else if ← setNx me attempting then
    if ← backstop then
      quietly delClaim
    else
      sendClaimed me job
  else
    redelivered

end Orbetra.Sms
