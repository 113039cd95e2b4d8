import Orbetra.Auth.Family
import Orbetra.Auth.Login

/-!
# A password that is replaced

`POST /reset-password` and `POST /password` of `auth/login.ts`, beside any number of logins
(`Login.login`).  A login reads the hash of the user, compares it, and later inserts the first token
of a new family; a reset revokes the tokens of the user on both sides of its write, and a change
after it. -/

namespace Orbetra.Passwords

open Login (LoginStore LoginCommand AuthUserRow)

/-! ## The stores -/

structure ResetToken where
  tokenHash : String
  userId : String
  usedAt : Option Ms
  expiresAt : Ms
  deriving DecidableEq

/-- A session that a login has opened: its first token, and the hash that the login had read. -/
structure Opened where
  tokenHash : String
  userId : String
  passwordHash : String
  deriving DecidableEq

/-- Redis and the users, the tokens, and what no code reads: the rows that the logins have read, the
sessions that they have opened, the users whose password has been written, and those of them whose
tokens have been revoked since. -/
structure SessionStore (ι : Type) where
  login : LoginStore ι
  tokens : AuthTable
  resets : List ResetToken
  candidates : ι → List AuthUserRow
  opened : List Opened
  written : List String
  closed : List String

inductive SessionCommand (ι : Type)
  | login (me : ι) (c : LoginCommand ι)
  | hashPassword
  | consume (tokenHash : String) (now : Ms)
  | findByIdForAuth (userId : String)
  | setPassword (userId passwordHash : String)
  | revokeAllForUser (userId : String) (now : Ms)
  | findByTokenHash (tokenHash : String)
  | revokeFamily (familyId : String) (now : Ms)
  | markSessionsRevoked (userId : String)
  | invalidateAllForUser (userId : String) (now : Ms)

variable {ι : Type} [DecidableEq ι]

abbrev SessionCommand.Answer : SessionCommand ι → Type
  | .login _ c => c.Answer
  | .hashPassword => Bool
  | .consume .. => Option String
  | .findByIdForAuth _ => Option AuthUserRow
  | .findByTokenHash _ => Option TokenRow
  | _ => Unit

/-- What a login makes up for its session: `newRefresh`, and the identity of the family. -/
structure NewSession where
  id : String
  familyId : String
  tokenHash : String
  expiresAt : Ms
  createdAt : Ms
  deriving DecidableEq

def NewSession.row (new : NewSession) (userId : String) : TokenRow :=
  ⟨new.id, new.familyId, userId, new.tokenHash, new.expiresAt, new.createdAt, none, none⟩

/-- What a transaction leaves, where it runs at once. -/
def atOnce {ρ : Type} (m : Tx AuthLock AuthWrite AuthTable ρ) (s : AuthTable) : AuthTable :=
  match m.exec AuthTable.apply s [] with
  | some (_, buffer) => TxPool.view AuthTable.apply s buffer
  | none => s

namespace SessionStore

variable (s : SessionStore ι)

def updateUser (userId : String) (f : AuthUserRow → AuthUserRow) : SessionStore ι :=
  { s with login := { s.login with
      users := s.login.users.map fun user => if user.id = userId then f user else user } }

/-- The token is spent, and its user is verified. -/
def consume (tokenHash : String) (now : Ms) : SessionStore ι × Option String :=
  match s.resets.find? fun t => t.tokenHash = tokenHash && t.usedAt = none && now < t.expiresAt with
  | none => (s, none)
  | some token =>
    if s.login.users.any (·.id = token.userId) then
      ({ s.updateUser token.userId ({ · with emailVerifiedAt := some now }) with
          resets := s.resets.map fun t =>
            if t.tokenHash = tokenHash then { t with usedAt := some now } else t },
        some token.userId)
    else (s, none)

/-- A login inserts the first token of a family. -/
def openSession (me : ι) (row : TokenRow) : SessionStore ι :=
  if row.tokenHash ∈ s.tokens.tokens.map (·.tokenHash) then s
  else
    let read := (s.candidates me).filter fun user => user.id = row.userId
    { s with
      tokens := s.tokens.apply (.create row)
      opened := s.opened ++ read.map fun user => ⟨row.tokenHash, row.userId, user.passwordHash⟩ }

def afterLogin (new : ι → NewSession) (me : ι) : (c : LoginCommand ι) → c.Answer → SessionStore ι
  | .findByEmailAllTenants _, (users : List AuthUserRow) =>
    { s with candidates := Function.update s.candidates me users }
  | .issueSession userId, _ => s.openSession me ((new me).row userId)
  | _, _ => s

def setPassword (userId passwordHash : String) : SessionStore ι :=
  { s.updateUser userId ({ · with passwordHash }) with written := userId :: s.written }

def revokeAll (userId : String) (now : Ms) : SessionStore ι :=
  { s with
    tokens := atOnce (Orbetra.revokeAllForUser userId now) s.tokens
    closed := if userId ∈ s.written then userId :: s.closed else s.closed }

end SessionStore

def SessionCommand.run (new : ι → NewSession) :
    (c : SessionCommand ι) → SessionStore ι → SessionStore ι × c.Answer
  | .login me c, s =>
    let (store, answer) := c.run s.login
    ({ s with login := store }.afterLogin new me c answer, answer)
  | .hashPassword, s => (s, !s.login.saturated)
  | .consume tokenHash now, s => s.consume tokenHash now
  | .findByIdForAuth userId, s => (s, s.login.users.find? (·.id = userId))
  | .setPassword userId passwordHash, s => (s.setPassword userId passwordHash, ())
  | .revokeAllForUser userId now, s => (s.revokeAll userId now, ())
  | .findByTokenHash tokenHash, s => (s, s.tokens.find tokenHash)
  | .revokeFamily familyId now, s =>
    ({ s with tokens := atOnce (Orbetra.revokeFamily familyId now) s.tokens }, ())
  | .markSessionsRevoked _, s => (s, ())
  | .invalidateAllForUser userId now, s =>
    ({ s with resets := s.resets.map fun t =>
        if t.userId = userId ∧ t.usedAt = none then { t with usedAt := some now } else t }, ())

abbrev sessionService (new : ι → NewSession) : Service (SessionStore ι) where
  Cmd := SessionCommand ι
  Answer := SessionCommand.Answer
  run := SessionCommand.run new

/-! ## The routes -/

section Routes

variable {new : ι → NewSession}

abbrev Route (new : ι → NewSession) := Async (sessionService new) Login.LoginError

def send (c : SessionCommand ι) : Route new c.Answer :=
  Async.send (V := sessionService new) .failed c

/-- `Promise.allSettled` of a call: whether it was fulfilled. -/
def settled (c : SessionCommand ι) : Route new (Option c.Answer) :=
  .call (V := sessionService new) c .done

def revokeAllUserSessions (userId : String) (fallbackFamilyId : Option String) (now : Ms) :
    Route new Unit := do
  let all : Option Unit ← settled (.revokeAllForUser userId now)
  match fallbackFamilyId with
  | none => if all.isNone then .threw .failed else pure ()
  | some familyId =>
    let family : Option Unit ← settled (.revokeFamily familyId now)
    if all.isNone && family.isNone then .threw .failed else pure ()

/-- `hashPassword`, which throws where it is shed. -/
def hashPassword : Route new Unit := do
  let hashed : Bool ← send .hashPassword
  if hashed then pure () else .threw .argon2Overloaded

inductive Reply
  | login (answer : Option Login.LoginAnswer)
  | forbidden
  | badRequest
  | tooMany
  | unauthorized
  /-- `{ ok: true }`; the password of the user is another one. -/
  | changed (userId : String)
  deriving DecidableEq

def RESET_REDEEM_RL_MAX : ℕ := 30

/-- `POST /reset-password`: what the limiter counts, the token with the new password, the hash that
argon2 makes of it, and what the clock shows. -/
structure ResetRequest where
  sameOrigin : Bool
  attempts : ℕ
  body : Option (String × String)
  newHash : String
  clock : ℕ → Ms

def replacePassword (request : ResetRequest) (userId : String) : Route new Reply := do
  revokeAllUserSessions userId none (request.clock 1)
  let _ : Unit ← send (.setPassword userId request.newHash)
  revokeAllUserSessions userId none (request.clock 2)
  let _ : Unit ← send (.markSessionsRevoked userId)
  let _ : Unit ← send (.invalidateAllForUser userId (request.clock 0))
  pure (.changed userId)

def redeem (sha256 : String → String) (request : ResetRequest) (token : String) :
    Route new Reply := do
  hashPassword
  let consumed : Option String ← send (.consume (sha256 token) (request.clock 0))
  match consumed with
  | none => pure .badRequest
  | some userId =>
    let user : Option AuthUserRow ← send (.findByIdForAuth userId)
    match user with
    | none => pure .badRequest
    | some user => replacePassword request user.id

def resetPassword (sha256 : String → String) (request : ResetRequest) : Route new Reply :=
  if !request.sameOrigin then pure .forbidden
  else if request.attempts > RESET_REDEEM_RL_MAX then pure .tooMany
  else
    match request.body with
    | none => pure .badRequest
    | some (token, _) => redeem sha256 request token

/-- `POST /password`: the user of the access token, what the limiter counts and its ceiling, the
current password and the new one, the hash that argon2 makes of it, the refresh cookie, and what the
clock shows. -/
structure ChangeRequest where
  sameOrigin : Bool
  userId : String
  attempts : ℕ
  max : ℕ
  body : Option (String × String)
  newHash : String
  cookie : Option String
  now : Ms

def currentFamily (sha256 : String → String) (cookie : Option String) :
    Route new (Option String) := do
  match cookie.filter (· ≠ "") with
  | none => pure none
  | some raw =>
    let row : Option TokenRow ← send (.findByTokenHash (sha256 raw))
    pure (row.map (·.familyId))

def writePassword (sha256 : String → String) (request : ChangeRequest) (userId : String) :
    Route new Reply := do
  hashPassword
  let _ : Unit ← send (.setPassword userId request.newHash)
  let family ← currentFamily sha256 request.cookie
  revokeAllUserSessions userId family request.now
  let _ : Unit ← send (.markSessionsRevoked userId)
  pure (.changed userId)

def verifyAndWrite (config : Login.LoginConfig) (sha256 : String → String) (me : ι)
    (request : ChangeRequest) (current : String) (user : AuthUserRow) : Route new Reply := do
  let answered : Bool ← send (.login me (.verify me (some user)))
  if !answered then .threw .argon2Overloaded
  else if config.verifies user.passwordHash current then writePassword sha256 request user.id
  else pure .unauthorized

def changePassword (config : Login.LoginConfig) (sha256 : String → String) (me : ι)
    (request : ChangeRequest) : Route new Reply :=
  if !request.sameOrigin then pure .forbidden
  else
    match request.body with
    | none => pure .badRequest
    | some (current, _) =>
      if request.attempts > request.max then pure .tooMany
      else do
        let user : Option AuthUserRow ← send (.findByIdForAuth request.userId)
        match user with
        | none => pure .unauthorized
        | some user => verifyAndWrite config sha256 me request current user

end Routes

/-- A login, or what goes on outside; a reset; a change. -/
inductive SessionCall
  | login (call : Login.LoginCall)
  | reset (request : ResetRequest)
  | change (request : ChangeRequest)

def SessionCall.program (config : Login.LoginConfig) (sha256 : String → String)
    (new : ι → NewSession) (me : ι) : SessionCall → Route new Reply
  | .login call => do
    let answer ← Async.lift (W := sessionService new) (.login me) (fun _ a => a)
      (call.program config me)
    pure (.login answer)
  | .reset request => resetPassword sha256 request
  | .change request => changePassword config sha256 me request

end Orbetra.Passwords
