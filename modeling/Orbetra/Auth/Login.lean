import Orbetra.Framework.Async
import Orbetra.Records

/-!
# `POST /login`

The route of `auth/login.ts` with the gates and scripts of `auth/gates.ts`, as a program over Redis,
the table of users and the queue of argon2.

Each command of a pipeline is sent on its own, so that those of other requests come between any two
of them.  A `catch` that drops an error is `sendOr`. -/

namespace Orbetra.Login

open Function

abbrev Ip := String

/-- The first 16 digits of the hash of an address. -/
abbrev EmailHash := String

/-! ## Redis and the users -/

/-- What the login reads of a user. -/
structure AuthUserRow where
  id : String
  tenantId : String
  email : String
  passwordHash : String
  disabledAt : Option Ms
  emailVerifiedAt : Option Ms
  deriving DecidableEq

/-- The keys that count: `auth:fail:{ip}:{emailHash}`, `auth:fail:ip:{ip}`, `auth:attempt:ip:{ip}`
and `auth:admit:ip:{ip}`. -/
inductive Key
  | fail (ip : Ip) (emailHash : EmailHash)
  | failIp (ip : Ip)
  | attemptIp (ip : Ip)
  | admitIp (ip : Ip)
  deriving DecidableEq

/-- A key, and when it expires, in seconds. -/
structure Counter where
  value : ℕ
  expiresAt : Option ℕ
  deriving DecidableEq

/-- `auth:fail:ips:{emailHash}` -/
structure Sources where
  ips : List Ip
  expiresAt : Option ℕ
  deriving DecidableEq

/-- What has been done for the requests, which no code reads. -/
inductive Event (ι : Type)
  /-- `LOCKOUT_SCRIPT` has answered with a count. -/
  | counted (request : ι) (key : Key) (n : ℕ)
  /-- `DECAY_SCRIPT` has run. -/
  | refunded (request : ι) (key : Key)
  /-- The password has been compared, with the hash of a user or with the dummy. -/
  | compared (request : ι) (user : Option AuthUserRow)
  /-- argon2 has refused a comparison. -/
  | shed (request : ι)
  deriving DecidableEq

def Event.request {ι : Type} : Event ι → ι
  | .counted request _ _ | .refunded request _ | .compared request _ | .shed request => request

/-- Redis, the users, the clock and the queue of argon2. -/
structure LoginStore (ι : Type) where
  keys : Key → Option Counter
  /-- `auth:fail:ips:{emailHash}` -/
  sources : EmailHash → Option Sources
  /-- When `auth:ok:ip:{ip}` expires, where it is there. -/
  knownGood : Ip → Option ℕ
  users : List AuthUserRow
  /-- The users of the refresh tokens that have been written. -/
  issued : List String
  /-- The queue of argon2 is full. -/
  saturated : Bool
  /-- In seconds. -/
  now : ℕ
  history : List (Event ι)

/-- The time has not come. -/
def alive (now : ℕ) (expiresAt : Option ℕ) : Bool := expiresAt.all (now < ·)

namespace LoginStore

variable {ι : Type} (s : LoginStore ι)

/-- A key, unless it has expired. -/
def counter (key : Key) : Option Counter := (s.keys key).filter fun c => alive s.now c.expiresAt

/-- `GET`, as a number. -/
def value (key : Key) : ℕ := ((s.counter key).map Counter.value).getD 0

/-- `PFCOUNT` -/
def sourceCount (emailHash : EmailHash) : ℕ :=
  (((s.sources emailHash).filter fun c => alive s.now c.expiresAt).map (·.ips.length)).getD 0

/-- `INCR`, and `EXPIRE` where the count is one or the key has no expiry. -/
def increment (key : Key) (windowS : ℕ) : LoginStore ι :=
  let n := s.value key + 1
  let expiresAt := ((s.counter key).bind Counter.expiresAt).filter fun _ => n ≠ 1
  let c : Counter := ⟨n, some (expiresAt.getD (s.now + windowS))⟩
  { s with keys := update s.keys key (some c) }

/-- `DECR`, where the count is above zero. -/
def decay (key : Key) : LoginStore ι :=
  let decayed := (s.counter key).map fun c => { c with value := c.value - 1 }
  { s with keys := update s.keys key decayed }

def failSource (emailHash : EmailHash) (ip : Ip) (windowS : ℕ) : LoginStore ι :=
  let live := (s.sources emailHash).filter fun c => alive s.now c.expiresAt
  let marked : Sources := ⟨((live.map Sources.ips).getD []).insert ip,
    some ((live.bind Sources.expiresAt).getD (s.now + windowS))⟩
  { s with sources := update s.sources emailHash (some marked) }

def ttl (expiresAt : Option (Option ℕ)) : ℤ :=
  match expiresAt with
  | none => -2
  | some none => -1
  | some (some t) => if s.now < t then t - s.now else -2

def log (event : Event ι) : LoginStore ι := { s with history := s.history ++ [event] }

end LoginStore

/-! ## Commands -/

/-- What a gate reads the time of: a counter, or the sources of an address. -/
inductive GateKey
  | counter (key : Key)
  | sources (emailHash : EmailHash)
  deriving DecidableEq

/-- One command to Redis or to the database, one comparison, or what goes on outside. -/
inductive LoginCommand (ι : Type)
  | get (key : Key)
  | pfcount (emailHash : EmailHash)
  | isKnownGood (ip : Ip)
  | admitScript (ip : Ip) (every windowS : ℕ)
  | lockout (me : ι) (key : Key) (windowS : ℕ)
  | decay (me : ι) (key : Key)
  | failSource (emailHash : EmailHash) (ip : Ip) (windowS : ℕ)
  | ttl (key : GateKey)
  | del (key : Key)
  | setKnownGood (ip : Ip) (ttlS : ℕ)
  | findByEmailAllTenants (email : String)
  | verify (me : ι) (user : Option AuthUserRow)
  | issueSession (userId : String)
  | wait (seconds : ℕ)
  | saturate (saturated : Bool)
  deriving DecidableEq

variable {ι : Type}

def LoginCommand.Answer : LoginCommand ι → Type
  | .get _ => ℕ
  | .pfcount _ => ℕ
  | .isKnownGood _ => Bool
  | .admitScript .. => Bool
  | .lockout .. => ℕ
  | .ttl _ => ℤ
  | .findByEmailAllTenants _ => List AuthUserRow
  | .verify .. => Bool
  | _ => Unit

/-- The command goes to the database. -/
def LoginCommand.isDb : LoginCommand ι → Bool
  | .findByEmailAllTenants _ | .issueSession _ => true
  | _ => false

/-- `verify` is answered, or shed. -/
def LoginStore.verify (s : LoginStore ι) (me : ι) (user : Option AuthUserRow) : LoginStore ι :=
  s.log (if s.saturated then .shed me else .compared me user)

def LoginCommand.run : (c : LoginCommand ι) → LoginStore ι → LoginStore ι × c.Answer
  | .get key, s => (s, s.value key)
  | .pfcount emailHash, s => (s, s.sourceCount emailHash)
  | .isKnownGood ip, s => (s, (s.knownGood ip).any (s.now < ·))
  | .admitScript ip every windowS, s =>
    (s.increment (.admitIp ip) windowS, (decide ((s.value (.admitIp ip) + 1) % every = 0) : Bool))
  | .lockout me key windowS, s =>
    ((s.increment key windowS).log (.counted me key (s.value key + 1)), (s.value key + 1 : ℕ))
  | .decay me key, s => ((s.decay key).log (.refunded me key), ())
  | .failSource emailHash ip windowS, s => (s.failSource emailHash ip windowS, ())
  | .ttl (.counter key), s => (s, s.ttl ((s.keys key).map Counter.expiresAt))
  | .ttl (.sources emailHash), s => (s, s.ttl ((s.sources emailHash).map Sources.expiresAt))
  | .del key, s => ({ s with keys := update s.keys key none }, ())
  | .setKnownGood ip ttlS, s =>
    ({ s with knownGood := update s.knownGood ip (some (s.now + ttlS)) }, ())
  | .findByEmailAllTenants email, s => (s, s.users.filter (·.email = email))
  | .verify me user, s => (s.verify me user, !s.saturated)
  | .issueSession userId, s => ({ s with issued := s.issued ++ [userId] }, ())
  | .wait seconds, s => ({ s with now := s.now + seconds }, ())
  | .saturate saturated, s => ({ s with saturated }, ())

abbrev loginService (ι : Type) : Service (LoginStore ι) where
  Cmd := LoginCommand ι
  Answer := LoginCommand.Answer
  run := LoginCommand.run

/-! ## The route -/

/-- What the route throws. -/
inductive LoginError
  | argon2Overloaded
  | failed
  deriving DecidableEq

abbrev Program (ι : Type) := Async (loginService ι) LoginError

/-- A command whose failure is an error of the route. -/
def send (c : LoginCommand ι) : Program ι c.Answer := Async.send (V := loginService ι) .failed c

def piped (c : LoginCommand ι) : Program ι (Option c.Answer) := .call (V := loginService ι) c .done

/-- A command whose failure is dropped. -/
def caught (c : LoginCommand ι) (a : c.Answer) : Program ι c.Answer :=
  Async.sendOr (V := loginService ι) c a

structure Lockout where
  maxFails : ℕ
  windowS : ℕ
  maxFailsPerIp : Option ℕ
  maxAttemptsPerIpHard : Option ℕ
  maxFailIpsPerEmail : Option ℕ
  deriving DecidableEq

namespace Lockout

variable (lockout : Lockout)

def maxPerIp : ℕ := lockout.maxFailsPerIp.getD (lockout.maxFails * 10)

def hardPerIp : ℕ := lockout.maxAttemptsPerIpHard.getD (lockout.maxPerIp * 20)

def failIpsPerEmail : ℕ := lockout.maxFailIpsPerEmail.getD 30

end Lockout

/-- The ceilings, the hash of an address, and whether argon2 matches a hash and a password. -/
structure LoginConfig where
  lockout : Lockout
  emailHash : String → EmailHash
  verifies : String → String → Bool

def UNMARKED_ADMIT_EVERY : ℕ := 10

def KNOWN_GOOD_TTL_S : ℕ := 24 * 3600

/-- A request: whether its origin is trusted, and its body, where that is well formed; the address
is trimmed and in lower case. -/
structure LoginRequest where
  sameOriginOk : Bool
  ip : Ip
  body : Option (String × String)
  deriving DecidableEq

inductive Gate
  | credential
  | ip
  | email
  deriving DecidableEq

inductive LoginAnswer
  | forbidden
  | badRequest
  | tooMany (gate : Gate) (retryAfter : ℤ)
  | unauthorized
  | ambiguous
  | session (userId : String)
  deriving DecidableEq

section Route

variable (config : LoginConfig) (me : ι) (ip : Ip) (email password : String)

/-- `tooMany` -/
def tooMany (key : GateKey) (gate : Gate) : Program ι LoginAnswer := do
  let ttl : ℤ ← caught (.ttl key) (config.lockout.windowS : ℤ)
  pure (.tooMany gate (max 1 ttl))

/-- The gate that refuses, by what has been read.  Above its soft ceiling a source that has had no
login yet is throttled. -/
def gateBefore (attempts sources failures : ℕ) (known : Bool) :
    Program ι (Option (GateKey × Gate)) :=
  if attempts ≥ config.lockout.hardPerIp then
    pure (some (.counter (.attemptIp ip), .ip))
  else if sources ≥ config.lockout.failIpsPerEmail then
    pure (some (.sources (config.emailHash email), .email))
  else if failures ≥ config.lockout.maxPerIp ∧ known = false then do
    let admitted : Option Bool ← piped (.admitScript ip UNMARKED_ADMIT_EVERY config.lockout.windowS)
    pure (if admitted = some false then some (.counter (.failIp ip), .ip) else none)
  else pure none

/-- The ceilings that are read before anything is counted. -/
def preCheck : Program ι (Option (GateKey × Gate)) := do
  let attempts : Option ℕ ← piped (.get (.attemptIp ip))
  let sources : Option ℕ ← piped (.pfcount (config.emailHash email))
  let failures : Option ℕ ← piped (.get (.failIp ip))
  let known : Option Bool ← piped (.isKnownGood ip)
  match attempts, sources, failures, known with
  | some attempts, some sources, some failures, some known =>
    gateBefore config ip email attempts sources failures known
  | _, _, _, _ => pure none

/-- The gate that refuses, by the counts. -/
def gateAfter (fails attempts : ℕ) : Option (GateKey × Gate) :=
  if fails > config.lockout.maxFails then
    some (.counter (.fail ip (config.emailHash email)), .credential)
  else if attempts > config.lockout.hardPerIp then
    some (.counter (.attemptIp ip), .ip)
  else none

/-- The attempt is counted, for the pair and for the source. -/
def bump : Program ι (Option (GateKey × Gate)) := do
  let fails : Option ℕ ← piped
    (.lockout me (.fail ip (config.emailHash email)) config.lockout.windowS)
  let attempts : Option ℕ ← piped (.lockout me (.attemptIp ip) config.lockout.windowS)
  match fails, attempts with
  | some fails, some attempts => pure (gateAfter config ip email fails attempts)
  | _, _ => pure none

/-- `verifyPassword`, which throws where it is shed. -/
def verifyPassword (user : Option AuthUserRow) : Program ι Unit := do
  let answered : Bool ← send (.verify me user)
  if answered then pure () else .threw .argon2Overloaded

/-- All candidates are compared; those that match. -/
def verifyAll : List AuthUserRow → Program ι (List AuthUserRow)
  | [] => pure []
  | user :: users => do
    verifyPassword me (some user)
    let verified ← verifyAll users
    pure (if config.verifies user.passwordHash password then user :: verified else verified)

/-- An unknown address is compared with the dummy. -/
def compare : List AuthUserRow → Program ι (List AuthUserRow)
  | [] => do
    verifyPassword me none
    pure []
  | candidates => verifyAll config me password candidates

/-- Where a comparison is shed, both counts are handed back. -/
def compareOrRefund (candidates : List AuthUserRow) : Program ι (List AuthUserRow) :=
  (compare config me password candidates).attempt fun e => do
    let _ : Unit ← caught (.decay me (.fail ip (config.emailHash email))) ()
    let _ : Unit ← caught (.decay me (.attemptIp ip)) ()
    .threw e

/-- Users that are disabled are left out, and those that have not proven their address. -/
def provenUsers (verified : List AuthUserRow) : List AuthUserRow :=
  let live := verified.filter (·.disabledAt = none)
  let unverified := live.filter (·.emailVerifiedAt = none)
  if unverified.length > 0 ∧ unverified.length = live.length then []
  else if unverified.length > 0 then live.filter (·.emailVerifiedAt ≠ none)
  else live

/-- No user is left. -/
def wrongPassword : Program ι LoginAnswer := do
  let failures : Option ℕ ← piped (.lockout me (.failIp ip) config.lockout.windowS)
  let marked : Option Unit ← piped (.failSource (config.emailHash email) ip config.lockout.windowS)
  match failures, marked with
  | some failures, some () =>
    if failures > config.lockout.maxPerIp then tooMany config (.counter (.failIp ip)) .ip
    else pure .unauthorized
  | _, _ => pure .unauthorized

def succeed (user : AuthUserRow) : Program ι LoginAnswer := do
  let _ : Unit ← caught (.del (.fail ip (config.emailHash email))) ()
  let _ : Unit ← caught (.decay me (.failIp ip)) ()
  let _ : Unit ← caught (.setKnownGood ip KNOWN_GOOD_TTL_S) ()
  let _ : Unit ← send (.issueSession user.id)
  pure (.session user.id)

/-- The users who are left decide. -/
def conclude : List AuthUserRow → Program ι LoginAnswer
  | [] => wrongPassword config me ip email
  | [user] => succeed config me ip email user
  | _ => pure .ambiguous

/-- The comparison, once the gates have let the request in. -/
def verifyAndConclude : Program ι LoginAnswer := do
  let candidates : List AuthUserRow ← send (.findByEmailAllTenants email)
  let verified ← compareOrRefund config me ip email password candidates
  conclude config me ip email (provenUsers verified)

def countAndVerify : Program ι LoginAnswer := do
  match ← bump config me ip email with
  | some (key, gate) => tooMany config key gate
  | none => verifyAndConclude config me ip email password

/-- The request, once its body has been read. -/
def attemptLogin : Program ι LoginAnswer := do
  match ← preCheck config ip email with
  | some (key, gate) => tooMany config key gate
  | none => countAndVerify config me ip email password

end Route

def login (config : LoginConfig) (me : ι) (request : LoginRequest) : Program ι LoginAnswer :=
  if !request.sameOriginOk then pure .forbidden
  else
    match request.body with
    | none => pure .badRequest
    | some (email, password) => attemptLogin config me request.ip email password

/-! ## Threads -/

/-- A request, or what goes on outside. -/
inductive LoginCall
  | login (request : LoginRequest)
  | outside (steps : List (ℕ × Bool))
  deriving DecidableEq

/-- Time passes, and the queue of argon2 fills or empties. -/
def elapse (step : ℕ × Bool) : Program ι Unit := do
  let _ : Unit ← send (.wait step.1)
  let _ : Unit ← send (.saturate step.2)
  pure ()

def LoginCall.program (config : LoginConfig) (me : ι) : LoginCall → Program ι (Option LoginAnswer)
  | .login request => do
    let answer ← Login.login config me request
    pure (some answer)
  | .outside steps => do
    steps.foldlM (fun _ step => elapse step) ()
    pure none

variable [DecidableEq ι]

abbrev LoginPool (ι : Type) := Pool ι (loginService ι) LoginError (Option LoginAnswer)

def logins (config : LoginConfig) (calls : ι → LoginCall) (start : LoginStore ι) : LoginPool ι :=
  ⟨start, fun i => (calls i).program config i⟩

end Orbetra.Login
