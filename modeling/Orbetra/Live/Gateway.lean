import Orbetra.Framework.Async

/-!
# The gateway of the live stream

`markSessionsRevoked`, `revokedAt`, `revokedAfter`, `issueTicket` and `attachWsGateway` of
`apps/api/src/ws.ts`, and `GET /v1/ws-ticket` of `apps/api/src/app.ts`: the marker of a revocation,
the tickets, the sockets, and the sweep that closes them.

A token carries the second in which it was minted, a ticket and a socket a time in milliseconds.
Times are of any ordered field with a floor. -/

namespace Orbetra.Streams

open Function

section Model

variable {ι τ : Type}

structure AccessToken (τ : Type) where
  userId : String
  mintedAt : τ
  deriving DecidableEq

/-- `WsAuthContext` as a ticket stores it, with the time at which its access token was minted. -/
structure Ticket (τ : Type) where
  userId : String
  issuedAtMs : τ
  mintedAt : τ
  deriving DecidableEq

/-- An entry of `subscribers`, with the call that opened it, and the time at which the access token
behind it was minted. -/
structure Socket (ι τ : Type) where
  id : ι
  userId : String
  establishedAt : τ
  mintedAt : τ
  deriving DecidableEq

/-- The clock; `ws:revoke:{userId}`; the access tokens and the tickets, each under the call that
made it; and the open sockets.

The rest is history: the calls that have opened a socket, the revocations that have been called,
those whose marker has been set, and those that had been set when a call looked at the marker for a
ticket. -/
structure Gateway (ι τ : Type) where
  now : τ
  marker : String → Option τ
  tokens : ι → Option (AccessToken τ)
  tickets : ι → Option (Ticket τ)
  subscribers : List (Socket ι τ)
  upgraded : List ι
  revoked : List (String × τ)
  stored : List (String × τ)
  seen : ι → List (String × τ)

/-- What the calls do to the clock, to Redis and to the sockets.  `check` is the `GET` of
`revokedAfter`, and `get` that of `revokedAt`; `stamp`, `revoke` and `dateNow` are `Date.now()`. -/
inductive GatewayCommand (ι τ : Type)
  | advance (t : τ)
  | mint (me : ι) (userId : String)
  | token (minter : ι)
  | check (me : ι) (userId : String)
  | get (userId : String)
  | stamp (me : ι) (token : AccessToken τ)
  | setex (me : ι) (ticket : Ticket τ)
  | getdel (issuer : ι)
  | upgrade (socket : Socket ι τ)
  | revoke (userId : String)
  | set (userId : String) (at_ : τ)
  | entries
  | mget (userIds : List String)
  | dateNow
  | close (ids : List ι)

abbrev GatewayCommand.Answer : GatewayCommand ι τ → Type
  | .token _ => Option (AccessToken τ)
  | .check .. | .get _ => Option τ
  | .stamp .. | .revoke _ | .dateNow => τ
  | .getdel _ => Option (Ticket τ)
  | .entries => List (Socket ι τ)
  | .mget _ => List (Option τ)
  | _ => Unit

variable [DecidableEq ι] [LinearOrder τ]

def GatewayCommand.run : (c : GatewayCommand ι τ) → Gateway ι τ → Gateway ι τ × c.Answer
  | .advance t, s => ({ s with now := max s.now t }, ())
  | .mint me userId, s =>
    ({ s with tokens := update s.tokens me (some ⟨userId, s.now⟩) }, ())
  | .token minter, s => (s, s.tokens minter)
  | .check me userId, s => ({ s with seen := update s.seen me s.stored }, s.marker userId)
  | .get userId, s => (s, s.marker userId)
  | .stamp .., s => (s, s.now)
  | .setex me ticket, s => ({ s with tickets := update s.tickets me (some ticket) }, ())
  | .getdel issuer, s =>
    ({ s with tickets := update s.tickets issuer none }, s.tickets issuer)
  | .upgrade socket, s =>
    ({ s with subscribers := socket :: s.subscribers, upgraded := socket.id :: s.upgraded }, ())
  | .revoke userId, s => ({ s with revoked := (userId, s.now) :: s.revoked }, s.now)
  | .set userId at_, s =>
    ({ s with
      marker := update s.marker userId (some at_)
      stored := (userId, at_) :: s.stored }, ())
  | .entries, s => (s, s.subscribers)
  | .mget userIds, s => (s, userIds.map s.marker)
  | .dateNow, s => (s, s.now)
  | .close ids, s => ({ s with subscribers := s.subscribers.filter (·.id ∉ ids) }, ())

abbrev gatewayService (ι τ : Type) [DecidableEq ι] [LinearOrder τ] : Service (Gateway ι τ) where
  Cmd := GatewayCommand ι τ
  Answer := GatewayCommand.Answer
  run := GatewayCommand.run

inductive GatewayError
  | failed
  deriving DecidableEq

abbrev Call (ι τ : Type) [DecidableEq ι] [LinearOrder τ] := Async (gatewayService ι τ) GatewayError

def send (c : GatewayCommand ι τ) : Call ι τ c.Answer :=
  Async.send (V := gatewayService ι τ) .failed c

/-- How a call ends. -/
inductive Outcome (τ : Type)
  | done
  | refused
  | revoked (userId : String) (at_ : τ)
  deriving DecidableEq

/-! ## Revocation -/

/-- `markSessionsRevoked`; an error of Redis is dropped. -/
def markSessionsRevoked (userId : String) : Call ι τ (Outcome τ) := do
  let at_ : τ ← send (.revoke userId)
  let _ : Unit ← Async.sendOr (V := gatewayService ι τ) (.set userId at_) ()
  pure (.revoked userId at_)

/-- `revokedAt`; no marker is found where Redis does not answer. -/
def revokedAt (userId : String) (atMs : τ) : Call ι τ Bool := do
  let marker : Option τ ← Async.sendOr (V := gatewayService ι τ) (.get userId) none
  pure (marker.any fun t => atMs ≤ t)

section Seconds

variable [Field τ] [FloorRing τ]

def AccessToken.iat (token : AccessToken τ) : ℤ := ⌊token.mintedAt / 1000⌋

/-- `revokedAfter`; no marker is found where Redis does not answer. -/
def revokedAfter (me : ι) (userId : String) (tokenIssuedAtS : ℤ) : Call ι τ Bool := do
  let marker : Option τ ← Async.sendOr (V := gatewayService ι τ) (.check me userId) none
  pure (marker.any fun t => tokenIssuedAtS < ⌊t / 1000⌋)

/-! ## Tickets and sockets -/

def issueTicket (me : ι) (token : AccessToken τ) : Call ι τ (Outcome τ) := do
  let issuedAtMs : τ ← send (.stamp me token)
  let _ : Unit ← send (.setex me ⟨token.userId, issuedAtMs, token.mintedAt⟩)
  pure .done

def getWsTicket (me minter : ι) : Call ι τ (Outcome τ) := do
  let token : Option (AccessToken τ) ← send (.token minter)
  match token with
  | none => pure .refused
  | some token =>
    let revoked ← revokedAfter me token.userId token.iat
    if revoked then pure .refused else issueTicket me token

end Seconds

/-- The upgrade of a ticket that has been taken; `ensureSubscription` is awaited before the socket
is added. -/
def redeem (me : ι) (ticket : Ticket τ) : Call ι τ (Outcome τ) := do
  let revoked ← revokedAt ticket.userId ticket.issuedAtMs
  if revoked then pure .refused
  else
    let _ : Unit ← send (.upgrade ⟨me, ticket.userId, ticket.issuedAtMs, ticket.mintedAt⟩)
    pure .done

def takeTicket (me issuer : ι) : Call ι τ (Outcome τ) := do
  let ticket : Option (Ticket τ) ← send (.getdel issuer)
  match ticket with
  | none => pure .refused
  | some ticket => redeem me ticket

/-- The upgrade; where Redis does not answer, the connection is destroyed. -/
def upgrade (me issuer : ι) : Call ι τ (Outcome τ) :=
  (takeTicket me issuer).attempt fun _ => pure .refused

/-! ## The sweep -/

def markerOf (userIds : List String) (markers : List (Option τ)) (userId : String) : Option τ :=
  ((userIds.zip markers).lookup userId).join

/-- The sweep closes the socket. -/
def Socket.expired [Sub τ] (maxLifetimeMs now : τ) (revokedAt : String → Option τ)
    (e : Socket ι τ) : Bool :=
  (revokedAt e.userId).any (fun t => e.establishedAt ≤ t) || maxLifetimeMs < now - e.establishedAt

def userIdsOf (entries : List (Socket ι τ)) : List String := (entries.map (·.userId)).eraseDups

def sweepEntries [Sub τ] (maxLifetimeMs : τ) (entries : List (Socket ι τ)) :
    Call ι τ (Outcome τ) := do
  let markers : List (Option τ) ← send (.mget (userIdsOf entries))
  let now : τ ← send .dateNow
  let _ : Unit ← send (.close ((entries.filter
    (·.expired maxLifetimeMs now (markerOf (userIdsOf entries) markers))).map (·.id)))
  pure .done

/-- One tick of the revocation timer; where Redis does not answer, the next one tries again. -/
def sweep [Sub τ] (maxLifetimeMs : τ) : Call ι τ (Outcome τ) := do
  let entries : List (Socket ι τ) ← send .entries
  if entries.isEmpty then pure .done
  else (sweepEntries maxLifetimeMs entries).attempt fun _ => pure .done

/-! ## The calls -/

/-- What happens: time passes, a token is minted, a ticket issued and redeemed, a user's sessions
are revoked, and the sweep ticks. -/
inductive Event (ι τ : Type)
  | advance (t : τ)
  | mint (userId : String)
  | issue (minter : ι)
  | redeem (issuer : ι)
  | revoke (userId : String)
  | tick

variable [Field τ] [FloorRing τ]

def Event.program (maxLifetimeMs : τ) (me : ι) : Event ι τ → Call ι τ (Outcome τ)
  | .advance t => do
    let _ : Unit ← send (.advance t)
    pure .done
  | .mint userId => do
    let _ : Unit ← send (.mint me userId)
    pure .done
  | .issue minter => getWsTicket me minter
  | .redeem issuer => upgrade me issuer
  | .revoke userId => markSessionsRevoked userId
  | .tick => sweep maxLifetimeMs

end Model

end Orbetra.Streams
