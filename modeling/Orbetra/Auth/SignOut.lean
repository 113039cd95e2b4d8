import Mathlib
import Orbetra.Framework.Machine

/-!
# Signing out of a tab

The session of `apps/web/src/lib/auth.ts` (the access token and the user, in two variables of the
module) with the calls that write it: `login`, `refreshSession`, `logout`, and the authenticated
calls `request` of `client.ts` and `apiFetch` of `api.ts`.  The server answers each fetch at any
time, with anything.

A refresh or a login that was under way keeps the right to write the session when a logout clears
it.  The tab stays signed out exactly as long as none of them is handed a session (`Fits`). -/

namespace Orbetra.SignOut

open Option Function Machine

/-- What `authSessionSchema` accepts. -/
structure AuthSession where
  accessToken : String
  user : String
  deriving DecidableEq

/-- How a fetch ends. -/
inductive Response
  | failed
  | status (code : ℕ)
  deriving DecidableEq

def Response.ok : Response → Bool
  | .failed => false
  | .status code => 200 ≤ code ∧ code ≤ 299

/-- The two authenticated calls. -/
inductive Caller
  | request
  | apiFetch
  deriving DecidableEq

inductive Call
  /-- the response to an authenticated call -/
  | authenticated (caller : Caller) (retried : Bool)
  /-- `await refreshSession()`, and which refresh that is -/
  | refreshing (caller : Caller) (refresh : ℕ)
  | login
  /-- `await res.json()` of a login -/
  | loginBody
  | refresh
  /-- `await res.json()` of a refresh -/
  | refreshBody
  /-- a refresh that has settled: nothing -/
  | refreshed (result : Bool)
  | logout
  deriving DecidableEq

structure Fetch where
  call : ℕ
  bearer : Option String
  /-- it was sent while the tab was signed out; no code reads it -/
  signedOut : Bool
  deriving DecidableEq

structure Tab where
  accessToken : Option String
  currentUser : Option String
  refreshInFlight : Option ℕ
  /-- how often `onUnauthorized` was called -/
  unauthorized : ℕ
  calls : ℕ → Option Call
  /-- the number of the next call -/
  next : ℕ
  /-- no code reads it -/
  fetches : List Fetch
  /-- a logout has resolved, and no login was started after it; no code reads it -/
  signedOut : Bool

def Tab.new : Tab := ⟨none, none, none, 0, fun _ => none, 0, [], false⟩

inductive Move
  | authenticated (caller : Caller)
  | refreshSession
  | login
  | logout
  /-- the fetch of a call settles -/
  | response (i : ℕ) (res : Response)
  /-- `res.json()` of a call settles; `none` where the schema refuses it, or where it is rejected -/
  | body (i : ℕ) (parsed : Option AuthSession)
  /-- a call goes on whose refresh has settled -/
  | resume (i : ℕ)
  deriving DecidableEq

/-! ## The code between two awaits -/

namespace Tab

variable (s : Tab)

def clearSession : Tab := { s with accessToken := none, currentUser := none }

def applySession (session : AuthSession) : Tab :=
  { s with accessToken := some session.accessToken, currentUser := some session.user }

def setCall (i : ℕ) (call : Option Call) : Tab := { s with calls := update s.calls i call }

def fetch (i : ℕ) (bearer : Option String) (call : Call) : Tab :=
  { s.setCall i (some call) with fetches := s.fetches ++ [⟨i, bearer, s.signedOut⟩] }

def begin (bearer : Option String) (call : Call) : Tab :=
  { s.fetch s.next bearer call with next := s.next + 1 }

/-- `request`, and `apiFetch`: the bearer is the token of the moment. -/
def authenticated (i : ℕ) (caller : Caller) (retried : Bool) : Tab :=
  s.fetch i s.accessToken (.authenticated caller retried)

/-- `refreshSession`: one refresh at a time.  It returns the number of the refresh under way. -/
def refreshSession : Tab × ℕ :=
  match s.refreshInFlight with
  | some refresh => (s, refresh)
  | none => ({ s.begin none .refresh with refreshInFlight := some s.next }, s.next)

/-- The `finally` of a refresh. -/
def settle (i : ℕ) (result : Bool) : Tab :=
  { s.setCall i (some (.refreshed result)) with refreshInFlight := none }

/-- The end of an authenticated call whose session is dead. -/
def unauthorize (i : ℕ) (caller : Caller) : Tab :=
  let s := s.clearSession.setCall i none
  match caller with
  | .request => { s with unauthorized := s.unauthorized + 1 }
  | .apiFetch => s

def login : Tab := { s.begin none .login with signedOut := false }

/-- The fetch of a call settles. -/
def response (i : ℕ) (res : Response) : Call → Option Tab
  | .authenticated caller retried =>
    if res = .status 401 then
      if retried then some (s.unauthorize i caller)
      else
        let (s, refresh) := s.refreshSession
        some (s.setCall i (some (.refreshing caller refresh)))
    else some (s.setCall i none)
  | .login => some (if res.ok then s.setCall i (some .loginBody) else s.setCall i none)
  | .refresh =>
    some (if res.ok then s.setCall i (some .refreshBody) else s.clearSession.settle i false)
  | .logout => some { s.clearSession.setCall i none with signedOut := true }
  | _ => none

/-- `res.json()` of a call settles. -/
def body (i : ℕ) (parsed : Option AuthSession) : Call → Option Tab
  | .loginBody =>
    match parsed with
    | some session => some ((s.applySession session).setCall i none)
    | none => some (s.setCall i none)
  | .refreshBody =>
    match parsed with
    | some session => some ((s.applySession session).settle i true)
    | none => some (s.clearSession.settle i false)
  | _ => none

/-- A call goes on that was waiting for a refresh. -/
def resume (i : ℕ) : Call → Option Tab
  | .refreshing caller refresh =>
    match s.calls refresh with
    | some (.refreshed true) => some (s.authenticated i caller true)
    | some (.refreshed false) => some (s.unauthorize i caller)
    | _ => none
  | _ => none

end Tab

def step (s : Tab) : Move → Option Tab
  | .authenticated caller =>
    some { s.authenticated s.next caller false with next := s.next + 1 }
  | .refreshSession => some s.refreshSession.1
  | .login => some s.login
  | .logout => some (s.begin none .logout)
  | .response i res => (s.calls i).bind (s.response i res)
  | .body i parsed => (s.calls i).bind (s.body i parsed)
  | .resume i => (s.calls i).bind (s.resume i)

/-- How often call `i` was sent. -/
def Tab.sent (s : Tab) (i : ℕ) : ℕ := s.fetches.countP (·.call = i)

/-- The tab has no session while it is signed out, and has sent no bearer since. -/
structure Tab.Cleared (s : Tab) : Prop where
  token : s.signedOut = true → s.accessToken = none
  user : s.signedOut = true → s.currentUser = none
  bare : ∀ f ∈ s.fetches, f.signedOut = true → f.bearer = none

/-- What a logout promises; and no call is sent a third time. -/
structure Tab.StaysSignedOut (s : Tab) : Prop extends s.Cleared where
  twice : ∀ i, s.sent i ≤ 2

/-- A tab that is signed out is not handed a session, by the answer to a refresh or to a login that
was under way. -/
def Fits (s : Tab) (move : Move) : Prop :=
  s.signedOut = true → ∀ i session, move ≠ .body i (some session)

instance (s : Tab) (move : Move) : Decidable (Fits s move) :=
  match move with
  | .body i (some session) =>
    if h : s.signedOut = true then .isFalse fun hfits => hfits h i session rfl
    else .isTrue fun hout => absurd hout h
  | .body _ none | .authenticated _ | .refreshSession | .login | .logout | .response .. |
    .resume _ => .isTrue fun _ _ _ => nofun

/-! ## How often a call is sent -/

def Call.IsRetry (call : Call) : Prop := ∃ caller, call = .authenticated caller true

structure Counted (s : Tab) : Prop where
  fresh : ∀ i, s.next ≤ i → s.calls i = none ∧ s.sent i = 0
  once : ∀ i call, s.calls i = some call → ¬ call.IsRetry → s.sent i ≤ 1
  twice : ∀ i, s.sent i ≤ 2

variable {s s' : Tab} {i : ℕ} {call : Call} {caller : Caller} {bearer : Option String}

lemma Counted.lt_next (h : Counted s) (hi : s.calls i = some call) : i < s.next := by
  by_contra hle
  exact nomatch hi.symm.trans (h.fresh i (not_lt.1 hle)).1

lemma Counted.setCall {call' : Option Call} (h : Counted s) (hi : i < s.next)
    (hcall : ∀ call, call' = some call → ¬ call.IsRetry → s.sent i ≤ 1) :
    Counted (s.setCall i call') := by
  refine ⟨fun j hj => ?_, fun j call hj hretry => ?_, h.twice⟩
  · obtain ⟨hnone, hsent⟩ := h.fresh j hj
    exact ⟨(update_of_ne (hi.trans_le hj).ne' ..).trans hnone, hsent⟩
  · by_cases hij : j = i
    · subst hij
      exact hcall call (by simpa [Tab.setCall] using hj) hretry
    · exact h.once j call ((update_of_ne hij ..).symm.trans hj) hretry

lemma sent_fetch (call : Call) (j : ℕ) :
    (s.fetch i bearer call).sent j = s.sent j + if i = j then 1 else 0 := by
  simp [Tab.fetch, Tab.sent, Tab.setCall, List.countP_append, List.countP_singleton]

/-- A call is sent for the first time, or its second try is. -/
lemma Counted.fetch {next : ℕ} (h : Counted s) (hi : i < next) (hnext : s.next ≤ next)
    (hsent : s.sent i = 0 ∨ s.sent i ≤ 1 ∧ call.IsRetry) :
    Counted { s.fetch i bearer call with next := next } := by
  refine ⟨fun j hj => ?_, fun j call' hj hretry => ?_, fun j => ?_⟩
  · obtain ⟨hnone, hsent⟩ := h.fresh j (hnext.trans hj)
    have hne : j ≠ i := (hi.trans_le hj).ne'
    exact ⟨(update_of_ne hne ..).trans hnone,
      (sent_fetch call j).trans (by rw [hsent, if_neg hne.symm])⟩
  · refine (sent_fetch call j).trans_le ?_
    by_cases hij : j = i
    · subst hij
      obtain rfl : call = call' := by simpa [Tab.fetch, Tab.setCall] using hj
      rw [hsent.resolve_right fun hor => hretry hor.2, if_pos rfl]
    · rw [if_neg (Ne.symm hij)]
      exact h.once j call' ((update_of_ne hij ..).symm.trans hj) hretry
  · refine (sent_fetch call j).trans_le ?_
    by_cases hij : i = j
    · subst hij
      rw [if_pos rfl]
      omega
    · rw [if_neg hij]
      exact h.twice j

lemma Counted.begin (h : Counted s) : Counted (s.begin bearer call) :=
  h.fetch (Nat.lt_succ_self _) (Nat.le_succ _) (.inl (h.fresh _ le_rfl).2)

lemma Counted.refreshSession (h : Counted s) :
    Counted s.refreshSession.1 ∧ s.next ≤ s.refreshSession.1.next ∧
      (i < s.next → s.refreshSession.1.sent i = s.sent i) := by
  unfold Tab.refreshSession
  split
  · exact ⟨h, le_rfl, fun _ => rfl⟩
  · have hbegin : Counted (s.begin none .refresh) := h.begin
    refine ⟨⟨hbegin.fresh, hbegin.once, hbegin.twice⟩, Nat.le_succ _, fun hi => ?_⟩
    exact (sent_fetch .refresh i).trans (by rw [if_neg hi.ne', Nat.add_zero])

lemma Counted.authenticated (h : Counted s) (hcall : s.calls i = some call)
    (hfirst : ¬ call.IsRetry) : Counted (s.authenticated i caller true) :=
  h.fetch (h.lt_next hcall) le_rfl (.inr ⟨h.once i call hcall hfirst, caller, rfl⟩)

lemma Counted.finish {call' : Option Call} (h : Counted s) (hcall : s.calls i = some call)
    (hfirst : (∃ call, call' = some call) → ¬ call.IsRetry) : Counted (s.setCall i call') :=
  h.setCall (h.lt_next hcall) fun call' hcall' _ => h.once i call hcall (hfirst ⟨call', hcall'⟩)

lemma Counted.unauthorize (h : Counted s) (hcall : s.calls i = some call) :
    Counted (s.unauthorize i caller) := by
  have hfinish : Counted (s.setCall i none) := h.finish hcall nofun
  cases caller with
  | request => exact ⟨hfinish.fresh, hfinish.once, hfinish.twice⟩
  | apiFetch => exact ⟨hfinish.fresh, hfinish.once, hfinish.twice⟩

lemma Counted.settle {result : Bool} (h : Counted s) (hcall : s.calls i = some call)
    (hfirst : ¬ call.IsRetry) : Counted (s.settle i result) := by
  have hfinish : Counted (s.setCall i (some (.refreshed result))) := h.finish hcall fun _ => hfirst
  exact ⟨hfinish.fresh, hfinish.once, hfinish.twice⟩

lemma counted_step {move : Move} (h : Counted s) (hstep : step s move = some s') : Counted s' := by
  cases move with
  | authenticated caller => exact some.inj hstep ▸ h.begin
  | refreshSession => exact some.inj hstep ▸ (h.refreshSession (i := 0)).1
  | login =>
    have hbegin : Counted (s.begin none .login) := h.begin
    exact some.inj hstep ▸ ⟨hbegin.fresh, hbegin.once, hbegin.twice⟩
  | logout => exact some.inj hstep ▸ h.begin
  | response i res =>
    obtain ⟨call, hcall, hstep⟩ := bind_eq_some_iff.1 hstep
    cases call with
    | authenticated caller retried =>
      simp only [Tab.response] at hstep
      split at hstep
      · cases retried with
        | true => exact some.inj hstep ▸ h.unauthorize hcall
        | false =>
          obtain ⟨hrefresh, hnext, hsent⟩ := h.refreshSession (i := i)
          refine some.inj hstep ▸ hrefresh.setCall ((h.lt_next hcall).trans_le hnext) ?_
          intro _ _ _
          rw [hsent (h.lt_next hcall)]
          exact h.once i _ hcall nofun
      · exact some.inj hstep ▸ h.finish hcall nofun
    | login =>
      simp only [Tab.response] at hstep
      split at hstep
      · exact some.inj hstep ▸ h.finish hcall fun _ => nofun
      · exact some.inj hstep ▸ h.finish hcall fun _ => nofun
    | refresh =>
      simp only [Tab.response] at hstep
      split at hstep
      · exact some.inj hstep ▸ h.finish hcall fun _ => nofun
      · have hsettle : Counted (s.settle i false) := h.settle hcall nofun
        exact some.inj hstep ▸ ⟨hsettle.fresh, hsettle.once, hsettle.twice⟩
    | logout =>
      have hfinish : Counted (s.setCall i none) := h.finish hcall nofun
      exact some.inj hstep ▸ ⟨hfinish.fresh, hfinish.once, hfinish.twice⟩
    | _ => exact nomatch hstep
  | body i parsed =>
    obtain ⟨call, hcall, hstep⟩ := bind_eq_some_iff.1 hstep
    cases call with
    | loginBody =>
      have hfinish : Counted (s.setCall i none) := h.finish hcall nofun
      cases parsed <;>
        exact some.inj hstep ▸ ⟨hfinish.fresh, hfinish.once, hfinish.twice⟩
    | refreshBody =>
      have hsettle : ∀ result, Counted (s.settle i result) := fun _ => h.settle hcall nofun
      cases parsed with
      | some session =>
        exact some.inj hstep ▸ ⟨(hsettle true).fresh, (hsettle true).once, (hsettle true).twice⟩
      | none =>
        exact some.inj hstep ▸ ⟨(hsettle false).fresh, (hsettle false).once, (hsettle false).twice⟩
    | _ => exact nomatch hstep
  | resume i =>
    obtain ⟨call, hcall, hstep⟩ := bind_eq_some_iff.1 hstep
    cases call with
    | refreshing caller refresh =>
      simp only [Tab.resume] at hstep
      split at hstep
      · exact some.inj hstep ▸ h.authenticated hcall nofun
      · exact some.inj hstep ▸ h.unauthorize hcall
      · cases hstep
    | _ => exact nomatch hstep

/-! ## What a logout leaves -/

lemma Tab.Cleared.clear (h : s.Cleared) : s.clearSession.Cleared :=
  ⟨fun _ => rfl, fun _ => rfl, h.bare⟩

lemma Tab.Cleared.fetch (h : s.Cleared) (hbearer : s.signedOut = true → bearer = none) :
    (s.fetch i bearer call).Cleared := by
  refine ⟨h.token, h.user, fun f hf hout => ?_⟩
  rcases List.mem_append.1 hf with hf | hf
  · exact h.bare f hf hout
  · obtain rfl := List.mem_singleton.1 hf
    exact hbearer hout

lemma Tab.Cleared.unauthorize (h : s.Cleared) : (s.unauthorize i caller).Cleared := by
  cases caller with
  | request => exact ⟨fun _ => rfl, fun _ => rfl, h.bare⟩
  | apiFetch => exact ⟨fun _ => rfl, fun _ => rfl, h.bare⟩

lemma Tab.Cleared.refreshSession (h : s.Cleared) : s.refreshSession.1.Cleared := by
  unfold Tab.refreshSession
  split
  · exact h
  · have hfetch : Tab.Cleared (s.fetch s.next none .refresh) := h.fetch fun _ => rfl
    exact ⟨hfetch.token, hfetch.user, hfetch.bare⟩

/-- **A step keeps the tab signed out iff it hands over no session.** -/
lemma cleared_step {move : Move} (h : s.Cleared) (hstep : step s move = some s') :
    s'.Cleared ↔ Fits s move := by
  cases move with
  | authenticated caller =>
    have hfetch : Tab.Cleared (s.authenticated s.next caller false) := h.fetch h.token
    exact iff_of_true (some.inj hstep ▸ ⟨hfetch.token, hfetch.user, hfetch.bare⟩) fun _ _ _ => nofun
  | refreshSession =>
    exact iff_of_true (some.inj hstep ▸ h.refreshSession) fun _ _ _ => nofun
  | login =>
    have hfetch : Tab.Cleared (s.fetch s.next none .login) := h.fetch fun _ => rfl
    exact iff_of_true (some.inj hstep ▸ ⟨nofun, nofun, hfetch.bare⟩) fun _ _ _ => nofun
  | logout =>
    have hfetch : Tab.Cleared (s.fetch s.next none .logout) := h.fetch fun _ => rfl
    exact iff_of_true (some.inj hstep ▸ ⟨hfetch.token, hfetch.user, hfetch.bare⟩) fun _ _ _ => nofun
  | response i res =>
    obtain ⟨call, hcall, hstep⟩ := bind_eq_some_iff.1 hstep
    refine iff_of_true ?_ fun _ _ _ => nofun
    cases call with
    | authenticated caller retried =>
      simp only [Tab.response] at hstep
      split at hstep
      · cases retried with
        | true => exact some.inj hstep ▸ h.unauthorize
        | false =>
          have hrefresh := h.refreshSession
          exact some.inj hstep ▸ ⟨hrefresh.token, hrefresh.user, hrefresh.bare⟩
      · exact some.inj hstep ▸ ⟨h.token, h.user, h.bare⟩
    | login =>
      simp only [Tab.response] at hstep
      split at hstep <;> exact some.inj hstep ▸ ⟨h.token, h.user, h.bare⟩
    | refresh =>
      simp only [Tab.response] at hstep
      split at hstep
      · exact some.inj hstep ▸ ⟨h.token, h.user, h.bare⟩
      · exact some.inj hstep ▸ ⟨fun _ => rfl, fun _ => rfl, h.bare⟩
    | logout => exact some.inj hstep ▸ ⟨fun _ => rfl, fun _ => rfl, h.bare⟩
    | _ => exact nomatch hstep
  | body i parsed =>
    obtain ⟨call, hcall, hstep⟩ := bind_eq_some_iff.1 hstep
    cases parsed with
    | none =>
      refine iff_of_true ?_ fun _ _ _ => nofun
      cases call with
      | loginBody => exact some.inj hstep ▸ ⟨h.token, h.user, h.bare⟩
      | refreshBody => exact some.inj hstep ▸ ⟨fun _ => rfl, fun _ => rfl, h.bare⟩
      | _ => exact nomatch hstep
    | some session =>
      -- the session is there afterwards, so the tab may not have been signed out
      have happlied : s'.accessToken = some session.accessToken ∧ s'.signedOut = s.signedOut ∧
          s'.fetches = s.fetches := by
        cases call with
        | loginBody => exact some.inj hstep ▸ ⟨rfl, rfl, rfl⟩
        | refreshBody => exact some.inj hstep ▸ ⟨rfl, rfl, rfl⟩
        | _ => exact nomatch hstep
      obtain ⟨htoken, hout, hfetches⟩ := happlied
      constructor
      · intro hcleared hsigned
        exact nomatch htoken.symm.trans (hcleared.token (hout.trans hsigned))
      · intro hfits
        have hnot : s'.signedOut ≠ true := fun hsigned =>
          hfits (hout.symm.trans hsigned) i session rfl
        exact ⟨fun hsigned => absurd hsigned hnot, fun hsigned => absurd hsigned hnot,
          hfetches ▸ h.bare⟩
  | resume i =>
    obtain ⟨call, hcall, hstep⟩ := bind_eq_some_iff.1 hstep
    refine iff_of_true ?_ fun _ _ _ => nofun
    cases call with
    | refreshing caller refresh =>
      simp only [Tab.resume] at hstep
      split at hstep
      · exact some.inj hstep ▸ h.fetch h.token
      · exact some.inj hstep ▸ h.unauthorize
      · cases hstep
    | _ => exact nomatch hstep

lemma staysSignedOut_iff (h : Counted s) : s.StaysSignedOut ↔ s.Cleared :=
  ⟨fun hs => hs.toCleared, fun hs => ⟨hs, h.twice⟩⟩

/-- **A tab stays signed out in every state of a run iff** no refresh, and no login that was under
way, hands it a session while it is signed out. -/
theorem stays_signed_out_iff {moves : List Move} (hrun : run step .new moves = some s) :
    (∀ before now, before <+: moves → run step .new before = some now →
      now.StaysSignedOut) ↔ RunFits step Fits .new moves := by
  have hnew : Counted .new := ⟨fun _ _ => ⟨rfl, rfl⟩, fun _ _ => nofun, fun _ => Nat.zero_le 2⟩
  refine runFits_iff Counted Tab.StaysSignedOut (fun _ _ _ => counted_step)
    (fun s move s' h hs hstep => ?_) hnew ((staysSignedOut_iff hnew).2 ⟨nofun, nofun, nofun⟩) hrun
  rw [staysSignedOut_iff (counted_step h hstep)]
  exact cleared_step ((staysSignedOut_iff h).1 hs) hstep

/-- A session that dies, and a logout that does not reach the server. -/
def deadSession : List Move :=
  [.login, .response 0 (.status 200), .body 0 (some ⟨"t", "u"⟩), .authenticated .request,
    .response 1 (.status 401), .response 2 (.status 403), .resume 1, .logout, .response 3 .failed,
    .authenticated .apiFetch]

theorem stays_signed_out_unreachable : ∃ s, run step .new deadSession = some s ∧ s.StaysSignedOut :=
  ⟨_, rfl, (stays_signed_out_iff (rfl : run step .new deadSession = _)).2 (by decide +kernel) _ _
    List.prefix_rfl rfl⟩

/-- **A refresh that outlives the logout** signs the tab in again. -/
theorem refresh_outlives_logout :
    ∃ s, run step .new [.refreshSession, .logout, .response 1 (.status 204),
      .response 0 (.status 200), .body 0 (some ⟨"token", "user"⟩)] = some s ∧
      s.signedOut = true ∧ ¬ s.StaysSignedOut :=
  ⟨_, rfl, rfl, fun h => nomatch h.token rfl⟩

end Orbetra.SignOut
