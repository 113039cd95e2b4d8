import Orbetra.Records
import Orbetra.Users.Scope

/-!
# The sending domain of a tenant

`POST`, `POST …/verify` and `DELETE` of `/v1/tenant/sending-domain` over the table
`tenant_sending_domains`, and the sweep `runSendingVerify` of the worker.  What DNS and SES answer
is given by the setting, question by question; an error is an answer.

The store keeps, besides the table, what the verification rests on: which tokens were found, which
domains SES called verified, and when each row was put.
-/

namespace Orbetra.Sending

open Function

open Users (AuthContext TenantId UserId tenantAdmins)

/-! ## The store -/

inductive Status
  | pending
  | verified
  | failed
  deriving DecidableEq

structure SesIdentity where
  dkimTokens : List String
  status : Status
  deriving DecidableEq

structure SendingDomain where
  domain : String
  mailbox : String
  status : Status
  txtToken : String
  dkimTokens : List String
  sesIdentity : Option String
  verifiedAt : Option Ms
  deriving DecidableEq

/-- What happened, as far as the verification of a domain rests on it. -/
inductive Fact
  /-- The row of the tenant was put. -/
  | put (tenantId : TenantId)
  /-- A verify request of the tenant found the token published for the domain. -/
  | txtFound (tenantId : TenantId) (domain txtToken : String)
  /-- SES answered that the domain is verified. -/
  | sesVerified (domain : String)
  /-- A sweep turned the row failed, when it had asked SES about `asked`. -/
  | turnedFailed (domain : String) (asked : Option String)
  deriving DecidableEq

/-- What happened since the row of the tenant was put, newest first. -/
def since (tenantId : TenantId) (log : List Fact) : List Fact := log.takeWhile (· ≠ .put tenantId)

/-- The table, at most one row for each tenant; `ι` names the requests and the sweeps. -/
structure SendingStore (ι : Type) where
  rows : TenantId → Option SendingDomain
  /-- How many questions were answered. -/
  answered : ℕ
  log : List Fact
  /-- How often the row of each tenant was put. -/
  puts : TenantId → ℕ
  /-- How often it had been put when a request read its row, or a sweep asked SES. -/
  mark : ι → TenantId → ℕ
  /-- The table that a sweep has selected from. -/
  began : ι → Option (TenantId → Option SendingDomain)
  /-- The domains that a sweep has asked SES about, newest first. -/
  reads : ι → List String

structure PutInput where
  domain : String
  mailbox : String
  txtToken : String
  dkimTokens : List String
  sesIdentity : Option String
  deriving DecidableEq

/-- What the requests and the sweeps run against. -/
structure Setting (ι : Type) where
  /-- The rows of `tenants`. -/
  tenants : List TenantId
  /-- The routes have credentials for SES. -/
  ses : Bool
  /-- The sweep has them. -/
  readIdentity : Bool
  platformDomain : Option String
  customDomains : ι → Bool
  newTxtToken : ι → String
  nowMs : ℕ → Ms
  resolveTxt : ℕ → String → Option (List (List String))
  identity : ℕ → String → Option (Option SesIdentity)

/-- `identity?.status`, and `none` where the call has thrown. -/
def statusOf (identity : Option (Option SesIdentity)) : Option (Option Status) :=
  identity.map fun identity => identity.map (·.status)

/-- `txtHas`, of the records that a lookup returns. -/
def txtHas (records : Option (List (List String))) (want : String) : Bool :=
  records.any fun records => records.any fun chunks => String.join chunks = want

def verifyHost (domain : String) : String := "_orbetra-verify." ++ domain

def expectedTxt (txtToken : String) : String := "orbetra-verify=" ++ txtToken

/-- One command to Postgres, DNS or SES. -/
inductive SendingCommand (ι : Type)
  | customDomains (me : ι)
  /-- The read by which the verify route decides. -/
  | get (me : ι) (tenantId : TenantId)
  | find (tenantId : TenantId)
  | upsert (tenantId : TenantId) (input : PutInput)
  | setDkim (tenantId : TenantId) (dkimTokens : List String) (sesIdentity : String)
  /-- `status: 'verified', verifiedAt: before.verifiedAt ?? new Date()` -/
  | markVerified (me : ι) (tenantId : TenantId) (before : Option Ms)
  | markFailed (tenantId : TenantId)
  | delete (tenantId : TenantId)
  | otherHolders (tenantId : TenantId) (sesIdentity : String)
  | audit
  /-- The lookup at `verifyHost`, or at the domain itself. -/
  | txtHas (tenantId : TenantId) (domain txtToken : String) (apex : Bool)
  | sesCreate (domain : String)
  | sesGet (domain : String)
  | sesRemove (domain : String)
  /-- The commands of a sweep. -/
  | select (me : ι)
  | readIdentity (me : ι) (domain : String)
  | sweepVerified (me : ι) (tenantId : TenantId)
  | sweepFailed (me : ι) (tenantId : TenantId)
  deriving DecidableEq

variable {ι : Type}

/-- What a command is answered with; an update that a constraint refuses, or that finds no row,
with `none`. -/
def SendingCommand.Answer : SendingCommand ι → Type
  | .customDomains _ => Bool
  | .get .. => Option SendingDomain
  | .find _ => Option SendingDomain
  | .upsert .. => Option SendingDomain
  | .setDkim .. => Option SendingDomain
  | .markVerified .. => Except Unit (Option SendingDomain)
  | .markFailed _ => Option SendingDomain
  | .delete _ => Option Unit
  | .otherHolders .. => ℕ
  | .txtHas .. => Bool
  | .sesCreate _ => Option SesIdentity
  | .sesGet _ => Option (Option SesIdentity)
  | .select _ => List (TenantId × String)
  | .readIdentity .. => Option (Option SesIdentity)
  | .sweepVerified .. => Except Unit Unit
  | _ => Unit

namespace SendingStore

variable (s : SendingStore ι)

/-- The partial unique index: another tenant has a verified row of the domain. -/
def conflict (setting : Setting ι) (tenantId : TenantId) (domain : String) : Bool :=
  setting.tenants.any fun other => other ≠ tenantId &&
    (s.rows other).any fun row => row.verifiedAt.isSome && row.domain = domain

def setRow (tenantId : TenantId) (row : Option SendingDomain) : SendingStore ι :=
  { s with rows := update s.rows tenantId row }

def note (fact : Fact) : SendingStore ι := { s with log := fact :: s.log }

/-- One more question is answered. -/
def count : SendingStore ι := { s with answered := s.answered + 1 }

/-- What SES answers about a domain is noted where it is `verified`. -/
def hear (setting : Setting ι) (domain : String) : SendingStore ι :=
  match setting.identity s.answered domain with
  | some (some ⟨_, .verified⟩) => s.count.note (.sesVerified domain)
  | _ => s.count

end SendingStore

variable [DecidableEq ι]

def SendingCommand.run (setting : Setting ι) :
    (c : SendingCommand ι) → SendingStore ι → SendingStore ι × c.Answer
  | .customDomains me, s => (s, setting.customDomains me)
  | .get me tenantId, s =>
    ({ s with mark := update s.mark me s.puts }, s.rows tenantId)
  | .find tenantId, s => (s, s.rows tenantId)
  | .upsert tenantId input, s =>
    if tenantId ∈ setting.tenants then
      let row : SendingDomain := ⟨input.domain, input.mailbox, .pending, input.txtToken,
        input.dkimTokens, input.sesIdentity, none⟩
      ({ (s.setRow tenantId (some row)).note (.put tenantId) with
        puts := update s.puts tenantId (s.puts tenantId + 1) }, some row)
    else (s, none)
  | .setDkim tenantId dkimTokens sesIdentity, s =>
    match s.rows tenantId with
    | none => (s, none)
    | some row =>
      let row' := { row with dkimTokens := dkimTokens, sesIdentity := some sesIdentity }
      (s.setRow tenantId (some row'), some row')
  | .markVerified _ tenantId before, s =>
    match s.rows tenantId with
    | none => (s, .ok none)
    | some row =>
      if s.conflict setting tenantId row.domain then (s, .error ())
      else
        let row' := { row with
          status := .verified, verifiedAt := some (before.getD (setting.nowMs s.answered)) }
        (s.setRow tenantId (some row'), .ok (some row'))
  | .markFailed tenantId, s =>
    match s.rows tenantId with
    | none => (s, none)
    | some row =>
      let row' := { row with status := .failed }
      (s.setRow tenantId (some row'), some row')
  | .delete tenantId, s =>
    match s.rows tenantId with
    | none => (s, none)
    | some _ => (s.setRow tenantId none, some ())
  | .otherHolders tenantId sesIdentity, s =>
    (s, setting.tenants.countP fun other => other ≠ tenantId &&
      (s.rows other).any fun row => row.sesIdentity = some sesIdentity)
  | .audit, s => (s, ())
  | .txtHas tenantId domain txtToken apex, s =>
    let found :=
      if apex then Sending.txtHas (setting.resolveTxt s.answered domain) (expectedTxt txtToken)
      else Sending.txtHas (setting.resolveTxt s.answered (verifyHost domain)) txtToken
    (if found then s.count.note (.txtFound tenantId domain txtToken) else s.count, found)
  | .sesCreate domain, s =>
    (s.count, (setting.identity s.answered domain).bind id)
  | .sesGet domain, s => (s.hear setting domain, setting.identity s.answered domain)
  | .sesRemove _, s => (s.count, ())
  | .select me, s =>
    ({ s with
      began := update s.began me (some s.rows)
      reads := update s.reads me [] },
      setting.tenants.filterMap fun tenantId =>
        ((s.rows tenantId).filter (·.verifiedAt.isNone)).map fun row => (tenantId, row.domain))
  | .readIdentity me domain, s =>
    ({ s.hear setting domain with
      mark := update s.mark me s.puts
      reads := update s.reads me (domain :: s.reads me) },
      setting.identity s.answered domain)
  | .sweepVerified _ tenantId, s =>
    match s.rows tenantId with
    | none => (s, .ok ())
    | some row =>
      if row.verifiedAt.isSome then (s, .ok ())
      else if s.conflict setting tenantId row.domain then (s, .error ())
      else (s.setRow tenantId (some { row with
        status := .verified, verifiedAt := some (setting.nowMs s.answered) }), .ok ())
  | .sweepFailed me tenantId, s =>
    match s.rows tenantId with
    | none => (s, ())
    | some row =>
      if row.verifiedAt.isSome then (s, ())
      else ((s.setRow tenantId (some { row with status := .failed })).note
        (.turnedFailed row.domain (s.reads me).head?), ())

abbrev sendingService (ι : Type) [DecidableEq ι] (setting : Setting ι) :
    Service (SendingStore ι) where
  Cmd := SendingCommand ι
  Answer := SendingCommand.Answer
  run := SendingCommand.run setting

/-! ## The routes -/

/-- What is thrown. -/
inductive SendingError
  | failed
  | sendingDomainConflict
  deriving DecidableEq

/-- `SendingVerifyResult` -/
structure SweepResult where
  pending : ℕ
  verified : ℕ
  failed : ℕ
  unreachable : ℕ
  deriving DecidableEq

/-- What a route answers, or a sweep returns. -/
inductive Reply
  | problem (status : ℕ) (title detail : String)
  | view (status : ℕ) (row : SendingDomain)
  | ok
  | swept (result : SweepResult)
  deriving DecidableEq

variable {setting : Setting ι}

abbrev Request (ι : Type) [DecidableEq ι] (setting : Setting ι) :=
  Async (sendingService ι setting) SendingError

def send (c : SendingCommand ι) : Request ι setting c.Answer :=
  Async.send (V := sendingService ι setting) SendingError.failed c

/-- A call whose failure is answered with `a`. -/
def sendOr (c : SendingCommand ι) (a : c.Answer) : Request ι setting c.Answer :=
  Async.sendOr (V := sendingService ι setting) c a

/-- An update by id, which throws where the row is gone. -/
def updated {α : Type} : Option α → Request ι setting α
  | some a => pure a
  | none => .threw .failed

def put (tenantId : TenantId) (input : PutInput) : Request ι setting SendingDomain := do
  let _ : Option SendingDomain ← send (.find tenantId)
  let upserted : Option SendingDomain ← send (.upsert tenantId input)
  let row ← updated upserted
  let _ : Unit ← send .audit
  pure row

/-- `setDkim` -/
def setDkim (tenantId : TenantId) (dkimTokens : List String) (sesIdentity : String) :
    Request ι setting (Option SendingDomain) := do
  let before : Option SendingDomain ← send (.find tenantId)
  match before with
  | none => pure none
  | some _ =>
    let written : Option SendingDomain ← send (.setDkim tenantId dkimTokens sesIdentity)
    let row ← updated written
    let _ : Unit ← send .audit
    pure (some row)

/-- `markVerified` -/
def markVerified (me : ι) (tenantId : TenantId) : Request ι setting (Option SendingDomain) := do
  let before : Option SendingDomain ← send (.find tenantId)
  match before with
  | none => pure none
  | some before =>
    if before.verifiedAt.isSome ∧ before.status = .verified then
      pure (some before)
    else
      let written : Except Unit (Option SendingDomain) ←
        send (.markVerified me tenantId before.verifiedAt)
      match written with
      | .error _ => .threw .sendingDomainConflict
      | .ok written =>
        let row ← updated written
        let _ : Unit ← send .audit
        pure (some row)

/-- `markFailed` -/
def markFailed (tenantId : TenantId) : Request ι setting (Option SendingDomain) := do
  let before : Option SendingDomain ← send (.find tenantId)
  match before with
  | none => pure none
  | some _ =>
    let written : Option SendingDomain ← send (.markFailed tenantId)
    let row ← updated written
    let _ : Unit ← send .audit
    pure (some row)

def remove (tenantId : TenantId) : Request ι setting Bool := do
  let before : Option SendingDomain ← send (.find tenantId)
  match before with
  | none => pure false
  | some _ =>
    let deleted : Option Unit ← send (.delete tenantId)
    let _ ← updated deleted
    let _ : Unit ← send .audit
    pure true

/-- `text.trim().toLowerCase()` -/
def trimmedLower (text : String) : List Char :=
  let trimmed := (text.toList.dropWhile Char.isWhitespace).reverse.dropWhile Char.isWhitespace
  trimmed.reverse.map Char.toLower

/-- `isUnderPlatformDomain` -/
def isUnderPlatformDomain (domain : String) (platformDomain : Option String) : Bool :=
  match platformDomain.map trimmedLower with
  | none => false
  | some [] => false
  | some root =>
    trimmedLower domain = root || ('.' :: root).isSuffixOf (trimmedLower domain)

def notFound : Reply := .problem 404 "Not Found" ""

def tenantWideOnly : Reply := .problem 403 "Forbidden" "the sending domain is tenant-wide"

def notConfigured : Reply := .problem 503 "Service Unavailable" "sending domains are not configured"

/-- The end of an identity that no other row names; an error is only logged. -/
def removeIdentity (tenantId : TenantId) (sesIdentity : String) : Request ι setting Unit := do
  let holders : ℕ ← send (.otherHolders tenantId sesIdentity)
  Async.when (holders = 0) (sendOr (.sesRemove sesIdentity) ())

/-- `POST /v1/tenant/sending-domain`; the body is `none` where the schema refuses
it, which has lowercased what it accepts. -/
def postSendingDomain (me : ι) (a : AuthContext) (body : Option (String × String)) :
    Request ι setting Reply := do
  if a.accountId.isSome then
    pure tenantWideOnly
  else if setting.ses = false then
    pure notConfigured
  else
    match body with
    | none => pure (.problem 400 "Bad Request" "")
    | some (domain, mailbox) =>
      if isUnderPlatformDomain domain setting.platformDomain then
        pure (.problem 400 "Bad Request" "that domain belongs to the platform")
      else
        let previous : Option SendingDomain ← send (.find a.tenantId)
        let row ← put a.tenantId ⟨domain, mailbox, setting.newTxtToken me, [], none⟩
        match previous.bind (·.sesIdentity) with
        | none => pure (.view 201 row)
        | some sesIdentity =>
          Async.when (sesIdentity ≠ domain) (removeIdentity a.tenantId sesIdentity)
          pure (.view 201 row)

def verifyDomainTxt (tenantId : TenantId) (domain txtToken : String) : Request ι setting Bool := do
  let found : Bool ← sendOr (.txtHas tenantId domain txtToken false) false
  if found then pure true else sendOr (.txtHas tenantId domain txtToken true) false

def createIdentity (tenantId : TenantId) (row : SendingDomain) : Request ι setting Reply :=
  (do
    let created : Option SesIdentity ← sendOr (.sesCreate row.domain) none
    match created with
    | none => .threw .failed
    | some created =>
      let written ← setDkim tenantId created.dkimTokens row.domain
      pure (Reply.view 200 (written.getD row))).attempt fun _ =>
    pure (.problem 502 "Bad Gateway" "could not create the sending identity")

/-- The route's answer where SES says `verified`. -/
def answerVerified (me : ι) (tenantId : TenantId) : Request ι setting Reply :=
  (do
    match ← markVerified me tenantId with
    | none => pure notFound
    | some row => pure (.view 200 row)).attempt fun
    | .sendingDomainConflict =>
      pure (.problem 409 "Conflict" "sending domain already verified by another tenant")
    | .failed => .threw .failed

/-- The route's answer where SES says `failed`. -/
def answerFailed (tenantId : TenantId) : Request ι setting Reply := do
  match ← markFailed tenantId with
  | none => pure notFound
  | some row => pure (.view 200 row)

def verifySendingDomain (me : ι) (a : AuthContext) : Request ι setting Reply := do
  if a.accountId.isSome then
    pure tenantWideOnly
  else if setting.ses = false then
    pure notConfigured
  else
    let row : Option SendingDomain ← send (.get me a.tenantId)
    match row with
    | none => pure notFound
    | some row =>
      if ← verifyDomainTxt a.tenantId row.domain row.txtToken then
        if row.sesIdentity.isNone then
          createIdentity a.tenantId row
        else
          let identity : Option (Option SesIdentity) ← sendOr (.sesGet row.domain) none
          match statusOf identity with
          | none => pure (.problem 502 "Bad Gateway" "could not read the sending identity")
          | some (some .verified) => answerVerified me a.tenantId
          | some (some .failed) => answerFailed a.tenantId
          | some _ => pure (.view 200 row)
      else
        pure (.problem 400 "Not Verified"
          "ownership TXT record not found — check DNS and try again")

def deleteSendingDomain (a : AuthContext) : Request ι setting Reply := do
  if a.accountId.isSome then
    pure tenantWideOnly
  else if setting.ses = false then
    pure notConfigured
  else
    let row : Option SendingDomain ← send (.find a.tenantId)
    match row with
    | none => pure notFound
    | some row =>
      let _ ← remove a.tenantId
      match row.sesIdentity with
      | none => pure .ok
      | some sesIdentity =>
        removeIdentity a.tenantId sesIdentity
        pure .ok

/-! ## The sweep -/

def sweepRow (me : ι) (out : SweepResult) (row : TenantId × String) :
    Request ι setting SweepResult := do
  let identity : Option (Option SesIdentity) ← sendOr (.readIdentity me row.2) none
  match statusOf identity with
  | none => pure { out with unreachable := out.unreachable + 1 }
  | some (some .verified) =>
    let written : Except Unit Unit ← send (.sweepVerified me row.1)
    match written with
    | .error _ => .threw .failed
    | .ok _ => pure { out with verified := out.verified + 1 }
  | some (some .failed) =>
    let _ : Unit ← send (.sweepFailed me row.1)
    pure { out with failed := out.failed + 1 }
  | some _ => pure out

/-- `runSendingVerify` -/
def runSendingVerify (me : ι) : Request ι setting SweepResult := do
  let rows : List (TenantId × String) ← send (.select me)
  if setting.readIdentity = false then
    pure ⟨rows.length, 0, 0, 0⟩
  else
    rows.foldlM (sweepRow me) ⟨rows.length, 0, 0, 0⟩

/-! ## Any requests and sweeps -/

inductive SendingCall
  | post (a : AuthContext) (body : Option (String × String))
  | verify (a : AuthContext)
  | delete (a : AuthContext)
  | sweep
  deriving DecidableEq

/-- `requireRole`, and `requireEntitlement` on a `POST`. -/
def guardedBy (me : ι) (a : AuthContext) (entitled : Bool) (route : Request ι setting Reply) :
    Request ι setting Reply := do
  if a.role ∉ tenantAdmins then
    pure (.problem 403 "Forbidden" "")
  else if entitled then
    let customDomains : Bool ← send (.customDomains me)
    if customDomains then route else pure (.problem 403 "Forbidden" "plan_upgrade_required")
  else
    route

def SendingCall.program (me : ι) : SendingCall → Request ι setting Reply
  | .post a body => guardedBy me a true (postSendingDomain me a body)
  | .verify a => guardedBy me a true (verifySendingDomain me a)
  | .delete a => guardedBy me a false (deleteSendingDomain a)
  | .sweep => do
    let result ← runSendingVerify me
    pure (.swept result)

end Orbetra.Sending
