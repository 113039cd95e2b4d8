import Orbetra.Auth.Login
import Orbetra.Framework.Budget

/-!
# How many passwords can be tried

The requests of `POST /login` among themselves, with argon2 shedding any comparison.

Over a stretch in which the counter of an address and a source is not removed, the requests that
compare a password with the hash of a user of that address are at most `maxFails`, and those that
were under way when the stretch began; likewise for the counter of the source and its hard ceiling
(`guesses_bounded`).  A login under the same address removes the counter, so that a user with an
account of the same address in another tenant can go on guessing (`guesses_unbounded`). -/

namespace Orbetra.Login

open Function List Option Async

variable {ι : Type} {config : LoginConfig}

/-! ## The course of a request -/

/-- What a request is about: its keys and ceilings, and how many comparisons it takes. -/
structure Terms where
  lock : Key
  attempt : Key
  failIp : Key
  maxFails : ℕ
  hard : ℕ
  email : String
  total : ℕ

/-- How far a request has come, of which it has left comparisons to do. -/
inductive Phase
  | fresh
  | locked (inTime : Bool)
  | refused
  | comparing (left : ℕ)
  | shed
  | refunding
  | settled
  deriving DecidableEq

/-- The next event of a request. -/
def advance (t : Terms) : Phase → Event ι → Option Phase
  | .fresh, .counted _ key n => if key = t.lock then some (.locked (n ≤ t.maxFails)) else none
  | .locked inTime, .counted _ key n =>
    if key = t.attempt then
      some (if inTime ∧ n ≤ t.hard then .comparing t.total else .refused)
    else none
  | .comparing (left + 1), .compared _ user =>
    if user.all (·.email = t.email) then some (.comparing left) else none
  | .comparing (_ + 1), .shed _ => some .shed
  | .comparing 0, .counted _ key _ => if key = t.failIp then some .settled else none
  | .comparing 0, .refunded _ key => if key = t.failIp then some .settled else none
  | .shed, .refunded _ key => if key = t.lock then some .refunding else none
  | .refunding, .refunded _ key => if key = t.attempt then some .settled else none
  | _, _ => none

def phaseAfter (t : Terms) (events : List (Event ι)) : Option Phase :=
  events.foldlM (advance t) .fresh

/-- The request has been refused, or all its comparisons are done. -/
def Phase.isSettled : Phase → Bool
  | .refused | .comparing 0 | .settled => true
  | _ => false

/-- The event is a comparison, or hands a count back that was taken before the comparison. -/
def Event.isVerdict (t : Terms) : Event ι → Bool
  | .compared _ _ | .shed _ => true
  | .refunded _ key => key = t.lock ∨ key = t.attempt
  | .counted .. => false

section Course

variable {t : Terms} {x y z : Phase} {e : Event ι} {events : List (Event ι)}

/-- The keys of a request are three. -/
structure Terms.Apart (t : Terms) : Prop where
  lock_attempt : t.lock ≠ t.attempt
  lock_failIp : t.lock ≠ t.failIp
  attempt_failIp : t.attempt ≠ t.failIp

lemma foldlM_cons_eq_some (h : (e :: events).foldlM (advance t) x = some z) :
    ∃ y, advance t x e = some y ∧ events.foldlM (advance t) y = some z := by
  rw [foldlM_cons] at h
  exact bind_eq_some_iff.mp h

lemma settled_advance (ht : t.Apart) (hx : x.isSettled = true) (h : advance t x e = some y) :
    y.isSettled = true ∧ e.isVerdict t = false := by
  unfold advance at h
  split at h
  · cases hx
  · cases hx
  · cases hx
  · cases hx
  · split at h
    · cases h
      exact ⟨rfl, rfl⟩
    · cases h
  · split at h
    · rename_i hkey
      cases h
      refine ⟨rfl, ?_⟩
      unfold Event.isVerdict
      rw [hkey]
      simp [ht.lock_failIp.symm, ht.attempt_failIp.symm]
    · cases h
  · cases hx
  · cases hx
  · cases h

lemma settled_events (ht : t.Apart) (hx : x.isSettled = true)
    (h : events.foldlM (advance t) x = some z) : ∀ e ∈ events, e.isVerdict t = false := by
  induction events generalizing x with
  | nil => exact fun e he => absurd he not_mem_nil
  | cons e events ih =>
    obtain ⟨y, hy, hrest⟩ := foldlM_cons_eq_some h
    obtain ⟨hsettled, hplain⟩ := settled_advance ht hx hy
    exact forall_mem_cons.mpr ⟨hplain, ih hsettled hrest⟩

lemma advance_fresh (h : advance t .fresh e = some y) :
    ∃ i n, e = .counted i t.lock n ∧ y = .locked (n ≤ t.maxFails) := by
  cases e with
  | counted i key n =>
    obtain ⟨rfl, hy⟩ := ite_none_right_eq_some.mp h
    exact ⟨i, n, rfl, (some.inj hy).symm⟩
  | _ => cases h

lemma advance_locked {inTime : Bool} (h : advance t (.locked inTime) e = some y) :
    ∃ i n, e = .counted i t.attempt n ∧
      y = if inTime ∧ n ≤ t.hard then .comparing t.total else .refused := by
  cases e with
  | counted i key n =>
    obtain ⟨rfl, hy⟩ := ite_none_right_eq_some.mp h
    exact ⟨i, n, rfl, (some.inj hy).symm⟩
  | _ => cases h

lemma advance_comparing {left : ℕ} (h : advance t (.comparing left) e = some y) :
    (∃ i user, e = .compared i user ∧ y = .comparing (left - 1)) ∨ (∃ i, e = .shed i ∧ y = .shed) ∨
      y = .settled ∧ ∃ i, (∃ n, e = .counted i t.failIp n) ∨ e = .refunded i t.failIp := by
  cases e with
  | compared i user =>
    cases left with
    | zero => cases h
    | succ left =>
      obtain ⟨-, hy⟩ := ite_none_right_eq_some.mp h
      exact .inl ⟨i, user, rfl, (some.inj hy).symm⟩
  | shed i =>
    cases left with
    | zero => cases h
    | succ left => exact .inr (.inl ⟨i, rfl, (some.inj h).symm⟩)
  | counted i key n =>
    cases left with
    | zero =>
      obtain ⟨rfl, hy⟩ := ite_none_right_eq_some.mp h
      exact .inr (.inr ⟨(some.inj hy).symm, i, .inl ⟨n, rfl⟩⟩)
    | succ left => cases h
  | refunded i key =>
    cases left with
    | zero =>
      obtain ⟨rfl, hy⟩ := ite_none_right_eq_some.mp h
      exact .inr (.inr ⟨(some.inj hy).symm, i, .inr rfl⟩)
    | succ left => cases h

lemma advance_shed (h : advance t .shed e = some y) :
    ∃ i, e = .refunded i t.lock ∧ y = .refunding := by
  cases e with
  | refunded i key =>
    obtain ⟨rfl, hy⟩ := ite_none_right_eq_some.mp h
    exact ⟨i, rfl, (some.inj hy).symm⟩
  | _ => cases h

lemma advance_refunding (h : advance t .refunding e = some y) :
    ∃ i, e = .refunded i t.attempt ∧ y = .settled := by
  cases e with
  | refunded i key =>
    obtain ⟨rfl, hy⟩ := ite_none_right_eq_some.mp h
    exact ⟨i, rfl, (some.inj hy).symm⟩
  | _ => cases h

/-- A request that comes to a comparison has been let in by both ceilings. -/
lemma counted_of_verdict (ht : t.Apart) (h : (phaseAfter t events).isSome = true) (he : e ∈ events)
    (hverdict : e.isVerdict t = true) :
    (∃ i, ∃ n ≤ t.maxFails, .counted i t.lock n ∈ events) ∧
      ∃ i, ∃ n ≤ t.hard, .counted i t.attempt n ∈ events := by
  obtain ⟨z, hz⟩ := isSome_iff_exists.mp h
  cases events with
  | nil => exact absurd he not_mem_nil
  | cons e₁ events =>
    obtain ⟨y₁, hy₁, hz⟩ := foldlM_cons_eq_some hz
    obtain ⟨i, n, rfl, rfl⟩ := advance_fresh hy₁
    rcases mem_cons.mp he with rfl | he
    · cases hverdict
    cases events with
    | nil => exact absurd he not_mem_nil
    | cons e₂ events =>
      obtain ⟨y₂, hy₂, hz⟩ := foldlM_cons_eq_some hz
      obtain ⟨j, m, rfl, rfl⟩ := advance_locked hy₂
      rcases mem_cons.mp he with rfl | he
      · cases hverdict
      by_cases hin : decide (n ≤ t.maxFails) = true ∧ m ≤ t.hard
      · exact ⟨⟨i, n, of_decide_eq_true hin.1, mem_cons_self⟩,
          j, m, hin.2, mem_cons_of_mem _ mem_cons_self⟩
      · rw [if_neg hin] at hz
        rw [settled_events ht rfl hz e he] at hverdict
        cases hverdict

/-- The event hands a count back. -/
def Event.refunds (key : Key) : Event ι → Bool
  | .refunded _ key' => key' = key
  | _ => false

variable {key : Key} {i : ι}

lemma eq_refunded_of_refunds (h : e.refunds key = true) : e = .refunded e.request key := by
  cases e with
  | refunded i key' =>
    obtain rfl := of_decide_eq_true h
    rfl
  | _ => cases h

/-- After a comparison that was shed, and only then, both counts are handed back. -/
lemma shed_of_refund (hkey : key = t.lock ∨ key = t.attempt) (ht : t.Apart)
    (hx : x ≠ .shed ∧ x ≠ .refunding) (h : events.foldlM (advance t) x = some z) (he : e ∈ events)
    (hrefunds : e.refunds key = true) : ∃ i, .shed i ∈ events := by
  induction events generalizing x with
  | nil => exact absurd he not_mem_nil
  | cons e₁ events ih =>
    obtain ⟨y, hy, hz⟩ := foldlM_cons_eq_some h
    by_cases hshed : ∃ i, e₁ = .shed i
    · obtain ⟨i, rfl⟩ := hshed
      exact ⟨i, mem_cons_self⟩
    have hnext : (y ≠ .shed ∧ y ≠ .refunding) ∧ e₁.refunds key = false := by
      have hfailIp : t.failIp ≠ key := by
        rcases hkey with rfl | rfl
        · exact ht.lock_failIp.symm
        · exact ht.attempt_failIp.symm
      cases x with
      | fresh =>
        obtain ⟨i, n, rfl, rfl⟩ := advance_fresh hy
        exact ⟨⟨by simp, by simp⟩, rfl⟩
      | locked inTime =>
        obtain ⟨i, n, rfl, rfl⟩ := advance_locked hy
        exact ⟨by split <;> exact ⟨by simp, by simp⟩, rfl⟩
      | refused => cases e₁ <;> cases hy
      | comparing left =>
        rcases advance_comparing hy with
          ⟨i, user, rfl, rfl⟩ | ⟨i, rfl, -⟩ | ⟨rfl, i, ⟨n, rfl⟩ | rfl⟩
        · exact ⟨⟨by simp, by simp⟩, rfl⟩
        · exact absurd ⟨i, rfl⟩ hshed
        · exact ⟨⟨by simp, by simp⟩, rfl⟩
        · exact ⟨⟨by simp, by simp⟩, decide_eq_false hfailIp⟩
      | shed => exact absurd rfl hx.1
      | refunding => exact absurd rfl hx.2
      | settled => cases e₁ <;> cases hy
    rcases mem_cons.mp he with rfl | he
    · rw [hnext.2] at hrefunds
      cases hrefunds
    · obtain ⟨i, hi⟩ := ih hnext.1 hz he
      exact ⟨i, mem_cons_of_mem _ hi⟩

lemma refunds_once (hkey : key = t.lock ∨ key = t.attempt) (ht : t.Apart)
    (h : events.foldlM (advance t) x = some z) :
    events.Pairwise fun e e' => ¬ (e.refunds key = true ∧ e'.refunds key = true) := by
  induction events generalizing x with
  | nil => exact .nil
  | cons e₁ events ih =>
    obtain ⟨y, hy, hz⟩ := foldlM_cons_eq_some h
    refine pairwise_cons.mpr ⟨?_, ih hz⟩
    rintro e he ⟨h₁, h₂⟩
    have hverdict : e.isVerdict t = true := by
      cases e with
      | refunded i key' =>
        obtain rfl := of_decide_eq_true h₂
        exact decide_eq_true hkey
      | _ => cases h₂
    have hopen : y.isSettled ≠ true := fun hy => by
      rw [settled_events ht hy hz e he] at hverdict
      cases hverdict
    cases e₁ with
    | refunded i key' =>
      obtain rfl := of_decide_eq_true h₁
      cases x with
      | comparing left =>
        rcases advance_comparing hy with ⟨_, _, h, -⟩ | ⟨_, h, -⟩ | ⟨rfl, -⟩
        · cases h
        · cases h
        · exact hopen rfl
      | shed =>
        obtain ⟨j, hj, rfl⟩ := advance_shed hy
        cases hj
        cases events with
        | nil => exact absurd he not_mem_nil
        | cons e₂ events =>
          obtain ⟨y₂, hy₂, hz⟩ := foldlM_cons_eq_some hz
          obtain ⟨k, rfl, rfl⟩ := advance_refunding hy₂
          rcases mem_cons.mp he with rfl | he
          · exact ht.lock_attempt (of_decide_eq_true h₂).symm
          · rw [settled_events ht rfl hz e he] at hverdict
            cases hverdict
      | refunding =>
        obtain ⟨j, -, rfl⟩ := advance_refunding hy
        exact hopen rfl
      | fresh => cases hy
      | locked inTime => cases hy
      | refused => cases hy
      | settled => cases hy
    | _ => cases h₁

lemma advance_refunded (h : advance t x (.refunded i key) = some y) :
    key = t.lock ∨ key = t.attempt ∨ key = t.failIp := by
  cases x with
  | comparing left =>
    cases left with
    | zero => exact .inr (.inr (ite_none_right_eq_some.mp h).1)
    | succ left => cases h
  | shed => exact .inl (ite_none_right_eq_some.mp h).1
  | refunding => exact .inr (.inl (ite_none_right_eq_some.mp h).1)
  | fresh => cases h
  | locked inTime => cases h
  | refused => cases h
  | settled => cases h

lemma advance_compared {user : Option AuthUserRow} (h : advance t x (.compared i user) = some y) :
    user.all (·.email = t.email) = true := by
  cases x with
  | comparing left =>
    cases left with
    | zero => cases h
    | succ left => exact (ite_none_right_eq_some.mp h).1
  | fresh => cases h
  | locked inTime => cases h
  | refused => cases h
  | shed => cases h
  | refunding => cases h
  | settled => cases h

lemma exists_advance (h : events.foldlM (advance t) x = some z) (he : e ∈ events) :
    ∃ y y', advance t y e = some y' := by
  induction events generalizing x with
  | nil => exact absurd he not_mem_nil
  | cons e₁ events ih =>
    obtain ⟨y, hy, hz⟩ := foldlM_cons_eq_some h
    rcases mem_cons.mp he with rfl | he
    · exact ⟨x, y, hy⟩
    · exact ih hz he

end Course

/-! ## What a request does -/

/-- What a command adds to the history. -/
def LoginCommand.logs : LoginCommand ι → LoginStore ι → List (Event ι)
  | .lockout me key _, s => [.counted me key (s.value key + 1)]
  | .decay me key, _ => [.refunded me key]
  | .verify me user, s => [if s.saturated then .shed me else .compared me user]
  | _, _ => []

/-- The request in whose name a command is sent. -/
def LoginCommand.sender : LoginCommand ι → Option ι
  | .lockout me _ _ | .decay me _ | .verify me _ => some me
  | _ => none

lemma history_run (c : LoginCommand ι) (s : LoginStore ι) :
    (c.run s).1.history = s.history ++ c.logs s := by
  cases c with
  | lockout => rfl
  | decay => rfl
  | verify => rfl
  | ttl key => cases key <;> exact (append_nil _).symm
  | _ => exact (append_nil _).symm

lemma users_run (c : LoginCommand ι) (s : LoginStore ι) : (c.run s).1.users = s.users := by
  cases c with
  | ttl key => cases key <;> rfl
  | _ => rfl

lemma request_of_mem_logs {c : LoginCommand ι} {s : LoginStore ι} {e : Event ι}
    (h : e ∈ c.logs s) : c.sender = some e.request := by
  cases c with
  | lockout =>
    obtain rfl := mem_singleton.mp h
    rfl
  | decay =>
    obtain rfl := mem_singleton.mp h
    rfl
  | verify me user =>
    obtain rfl := mem_singleton.mp h
    show some me = some (if s.saturated = true then Event.shed me else .compared me user).request
    split <;> rfl
  | _ => cases h

variable [DecidableEq ι]

/-- What has been done for a request. -/
def LoginStore.mine (s : LoginStore ι) (i : ι) : List (Event ι) :=
  s.history.filter fun e => e.request = i

/-- The address and the source of a request whose password may be compared. -/
def LoginCall.address : LoginCall → Option (Ip × String)
  | .login ⟨true, ip, some (email, _)⟩ => some (ip, email)
  | _ => none

def termsOf (config : LoginConfig) (users : List AuthUserRow) (ip : Ip) (email : String) :
    Terms where
  lock := .fail ip (config.emailHash email)
  attempt := .attemptIp ip
  failIp := .failIp ip
  maxFails := config.lockout.maxFails
  hard := config.lockout.hardPerIp
  email := email
  total := max 1 (users.filter (·.email = email)).length

lemma apart_termsOf (config : LoginConfig) (users : List AuthUserRow) (ip : Ip) (email : String) :
    (termsOf config users ip email).Apart :=
  ⟨Key.noConfusion, Key.noConfusion, Key.noConfusion⟩

def Behaves (config : LoginConfig) (users : List AuthUserRow) (call : LoginCall)
    (events : List (Event ι)) : Prop :=
  match call.address with
  | some (ip, email) => (phaseAfter (termsOf config users ip email) events).isSome = true
  | none => events = []

section Programs

variable {α β : Type} {i : ι} {users : List AuthUserRow} {call : LoginCall} {t : Terms}
  {x : Phase} {s : LoginStore ι}

/-- What the others do. -/
def Env (i : ι) (s s' : LoginStore ι) : Prop := s'.mine i = s.mine i ∧ s'.users = s.users

/-- What a request does. -/
def Own (config : LoginConfig) (users : List AuthUserRow) (call : LoginCall) (i : ι)
    (s s' : LoginStore ι) : Prop :=
  (∀ j, j ≠ i → s'.mine j = s.mine j) ∧ s'.users = s.users ∧ Behaves config users call (s'.mine i)

/-- Redis does not fail, and a comparison is answered or shed. -/
def Served (c : LoginCommand ι) (fate : Fate) : Prop := c.isDb = false → fate = .ok

abbrev Regular (config : LoginConfig) (users : List AuthUserRow) (call : LoginCall) (i : ι)
    (Q : α → LoginStore ι → Prop) (E : LoginStore ι → Prop) (m : Program ι α)
    (s : LoginStore ι) : Prop :=
  m.Meets (fun _ => Served) (fun _ => Env i) (fun _ => Own config users call i) (Ending Q E) s

lemma mine_run (c : LoginCommand ι) (s : LoginStore ι) (j : ι) :
    (c.run s).1.mine j = s.mine j ++ (c.logs s).filter fun e => e.request = j := by
  unfold LoginStore.mine
  rw [history_run, filter_append]

variable {c : LoginCommand ι}

lemma mine_run_of_ne {j : ι} (hc : c.sender ≠ some j) (s : LoginStore ι) :
    (c.run s).1.mine j = s.mine j := by
  rw [mine_run, filter_eq_nil_iff.mpr, append_nil]
  intro e he hj
  exact hc ((request_of_mem_logs he).trans (congrArg some (of_decide_eq_true hj)))

lemma mine_run_self (hc : c.sender = some i) (s : LoginStore ι) :
    (c.run s).1.mine i = s.mine i ++ c.logs s := by
  rw [mine_run, filter_eq_self.mpr]
  intro e he
  exact decide_eq_true (some.inj ((request_of_mem_logs he).symm.trans hc))

/-- The request has come to a phase. -/
def At (config : LoginConfig) (users : List AuthUserRow) (ip : Ip) (email : String) (i : ι)
    (x : Phase) (s : LoginStore ι) : Prop :=
  phaseAfter (termsOf config users ip email) (s.mine i) = some x ∧ s.users = users

variable {ip : Ip} {email : String} {Q : α → LoginStore ι → Prop} {E : LoginStore ι → Prop}

lemma stable_at : Stable (Env i) (At config users ip email i x) := by
  rintro s s' ⟨hmine, husers⟩ ⟨hphase, hs⟩
  refine ⟨?_, husers.trans hs⟩
  rw [hmine]
  exact hphase

lemma regular_quiet_of {k : Option c.Answer → Program ι α} (hcall : call.address = some (ip, email))
    (hc : c.sender = none) (hs : At config users ip email i x s)
    (h : ∀ r s, At config users ip email i x s →
      (∀ a, r = some a → ∃ s₀ : LoginStore ι, s₀.users = users ∧ a = (c.run s₀).2) →
      Regular config users call i Q E (k r) s) :
    Regular config users call i Q E (.call (V := loginService ι) c k) s := by
  refine ⟨_, hs, stable_at, fun s hs fate _ => ?_⟩
  have hne : ∀ j, c.sender ≠ some j := fun j => hc ▸ (some_ne_none j).symm
  have hrun : At config users ip email i x (c.run s).1 := by
    refine ⟨?_, (users_run c s).trans hs.2⟩
    rw [mine_run_of_ne (hne i)]
    exact hs.1
  have hown : ∀ s', At config users ip email i x s' → (∀ j, s'.mine j = s.mine j) →
      s'.users = s.users → Own config users call i s s' := by
    intro s' hs' hmine husers
    refine ⟨fun j _ => hmine j, husers, ?_⟩
    unfold Behaves
    rw [hcall]
    show (phaseAfter _ _).isSome = true
    rw [hs'.1]
    rfl
  cases fate with
  | ok =>
    refine ⟨hown _ hrun (fun j => mine_run_of_ne (hne j) s) (users_run c s), h _ _ hrun ?_⟩
    exact fun a ha => ⟨s, hs.2, (some.inj ha).symm⟩
  | refused =>
    exact ⟨hown s hs (fun _ => rfl) rfl, h _ _ hs fun a ha => by cases ha⟩
  | lost =>
    refine ⟨hown _ hrun (fun j => mine_run_of_ne (hne j) s) (users_run c s), h _ _ hrun ?_⟩
    exact fun a ha => by cases ha

lemma regular_quiet {k : Option c.Answer → Program ι α} (hcall : call.address = some (ip, email))
    (hc : c.sender = none) (hs : At config users ip email i x s)
    (h : ∀ r s, At config users ip email i x s → Regular config users call i Q E (k r) s) :
    Regular config users call i Q E (.call (V := loginService ι) c k) s :=
  regular_quiet_of hcall hc hs fun r s hs _ => h r s hs

lemma regular_logged {k : Option c.Answer → Program ι α} (hcall : call.address = some (ip, email))
    (hdb : c.isDb = false) (hc : c.sender = some i) (hs : At config users ip email i x s)
    (h : ∀ s, At config users ip email i x s →
      ∃ y, (c.logs s).foldlM (advance (termsOf config users ip email)) x = some y ∧
        ∀ s', At config users ip email i y s' →
          Regular config users call i Q E (k (some (c.run s).2)) s') :
    Regular config users call i Q E (.call (V := loginService ι) c k) s := by
  refine ⟨_, hs, stable_at, fun s hs fate hfate => ?_⟩
  rw [hfate hdb]
  obtain ⟨y, hy, hnext⟩ := h s hs
  have hrun : At config users ip email i y (c.run s).1 := by
    refine ⟨?_, (users_run c s).trans hs.2⟩
    rw [mine_run_self hc]
    unfold phaseAfter
    rw [foldlM_append]
    exact bind_eq_some_iff.mpr ⟨x, hs.1, hy⟩
  refine ⟨⟨fun j hj => mine_run_of_ne ?_ s, users_run c s, ?_⟩, hnext _ hrun⟩
  · rw [hc]
    exact fun h => hj (some.inj h).symm
  · unfold Behaves
    rw [hcall]
    exact isSome_iff_exists.mpr ⟨y, hrun.1⟩

lemma regular_done {a : α} (hs : At config users ip email i x s)
    (h : ∀ s, At config users ip email i x s → Q a s) :
    Regular config users call i Q E (.done a) s := .done _ hs stable_at h

lemma regular_threw {e : LoginError} (hs : At config users ip email i x s)
    (h : ∀ s, At config users ip email i x s → E s) :
    Regular config users call i Q E (.threw e) s := .threw _ hs stable_at h

lemma regular_tooMany (hcall : call.address = some (ip, email))
    (hs : At config users ip email i x s) (key : GateKey) (gate : Gate) :
    Regular config users call i (fun _ _ => True) E (tooMany config key gate) s :=
  regular_quiet hcall rfl hs fun _ _ hs => regular_done hs fun _ _ => trivial

lemma regular_preCheck (hcall : call.address = some (ip, email))
    (hs : At config users ip email i x s) :
    Regular config users call i (fun _ => At config users ip email i x) E
      (preCheck config ip email) s := by
  have hdone : ∀ (r : Option (GateKey × Gate)) s, At config users ip email i x s →
      Regular config users call i (fun _ => At config users ip email i x) E (.done r) s :=
    fun r s hs => regular_done hs fun _ hs => hs
  refine regular_quiet hcall rfl hs fun attempts s hs => ?_
  refine regular_quiet hcall rfl hs fun sources s hs => ?_
  refine regular_quiet hcall rfl hs fun failures s hs => ?_
  refine regular_quiet hcall rfl hs fun known s hs => ?_
  cases attempts with
  | none => exact hdone none s hs
  | some attempts =>
    cases sources with
    | none => exact hdone none s hs
    | some sources =>
      cases failures with
      | none => exact hdone none s hs
      | some failures =>
        cases known with
        | none => exact hdone none s hs
        | some known =>
          show Regular _ _ _ _ _ _ (gateBefore config ip email attempts sources failures known) s
          unfold gateBefore
          split
          · exact hdone _ _ hs
          split
          · exact hdone _ _ hs
          split
          · exact regular_quiet hcall rfl hs fun _ s hs => hdone _ _ hs
          · exact hdone _ _ hs

lemma regular_gateAfter {fails attempts : ℕ} {r : Option (GateKey × Gate)}
    (hr : r = gateAfter config ip email fails attempts)
    (hs : At config users ip email i
      (if decide (fails ≤ (termsOf config users ip email).maxFails) = true ∧
        attempts ≤ (termsOf config users ip email).hard then
        .comparing (termsOf config users ip email).total else .refused) s) :
    Regular config users call i
      (fun r s => match r with
        | some _ => At config users ip email i .refused s
        | none => At config users ip email i
            (.comparing (termsOf config users ip email).total) s) E
      (.done r) s := by
  subst hr
  unfold gateAfter
  split
  · rename_i hfails
    rw [if_neg fun h => absurd (of_decide_eq_true h.1) (Nat.not_le_of_gt hfails)] at hs
    exact regular_done hs fun _ hs => hs
  rename_i hfails
  split
  · rename_i hattempts
    rw [if_neg fun h => absurd h.2 (Nat.not_le_of_gt hattempts)] at hs
    exact regular_done hs fun _ hs => hs
  · rename_i hattempts
    rw [if_pos ⟨decide_eq_true (Nat.le_of_not_gt hfails), Nat.le_of_not_gt hattempts⟩] at hs
    exact regular_done hs fun _ hs => hs

lemma regular_bump (hcall : call.address = some (ip, email))
    (hs : At config users ip email i .fresh s) :
    Regular config users call i
      (fun r s => match r with
        | some _ => At config users ip email i .refused s
        | none => At config users ip email i
            (.comparing (termsOf config users ip email).total) s) E
      (bump config i ip email) s := by
  refine regular_logged hcall rfl rfl hs fun s hs => ?_
  refine ⟨_, bind_eq_some_iff.mpr ⟨_, if_pos rfl, rfl⟩, fun s' hs' => ?_⟩
  refine regular_logged hcall rfl rfl hs' fun s' hs' => ?_
  refine ⟨_, bind_eq_some_iff.mpr ⟨_, if_pos rfl, rfl⟩, fun s'' hs'' => ?_⟩
  exact regular_gateAfter rfl hs''

lemma regular_verifyPassword {left : ℕ} {user : Option AuthUserRow}
    (hcall : call.address = some (ip, email)) (huser : user.all (·.email = email) = true)
    (hs : At config users ip email i (.comparing (left + 1)) s) :
    Regular config users call i (fun _ => At config users ip email i (.comparing left))
      (At config users ip email i .shed) (verifyPassword i user) s := by
  refine regular_logged hcall rfl rfl hs fun s hs => ?_
  have hlogs : (LoginCommand.verify i user).logs s =
    [if s.saturated = true then .shed i else .compared i user] := rfl
  rw [hlogs]
  cases hsaturated : s.saturated with
  | true =>
    rw [if_pos rfl]
    refine ⟨_, bind_eq_some_iff.mpr ⟨_, rfl, rfl⟩, fun s' hs' => ?_⟩
    show Regular _ _ _ _ _ _ (if (!s.saturated) = true then _ else _) s'
    rw [hsaturated]
    exact regular_threw hs' fun _ hs => hs
  | false =>
    rw [if_neg Bool.false_ne_true]
    refine ⟨_, bind_eq_some_iff.mpr ⟨_, if_pos huser, rfl⟩, fun s' hs' => ?_⟩
    show Regular _ _ _ _ _ _ (if (!s.saturated) = true then _ else _) s'
    rw [hsaturated]
    exact regular_done hs' fun _ hs => hs

variable {password : String}

lemma regular_verifyAll {candidates : List AuthUserRow} (hcall : call.address = some (ip, email))
    (hcandidates : ∀ u ∈ candidates, u.email = email)
    (hs : At config users ip email i (.comparing candidates.length) s) :
    Regular config users call i (fun _ => At config users ip email i (.comparing 0))
      (At config users ip email i .shed) (verifyAll config i password candidates) s := by
  induction candidates generalizing s with
  | nil => exact regular_done hs fun _ hs => hs
  | cons u candidates ih =>
    obtain ⟨hu, hrest⟩ := forall_mem_cons.mp hcandidates
    refine Meets.bind (regular_verifyPassword hcall (decide_eq_true hu) hs)
      (fun _ s hs => ?_) fun _ _ hs => hs
    refine Meets.bind (ih hrest hs) (fun _ s hs => ?_) fun _ _ hs => hs
    exact regular_done hs fun _ hs => hs

/-- The comparisons, of which one that is shed hands both counts back. -/
lemma regular_compareOrRefund (hcall : call.address = some (ip, email))
    (hs : At config users ip email i (.comparing (termsOf config users ip email).total) s) :
    Regular config users call i (fun _ => At config users ip email i (.comparing 0))
      (At config users ip email i .settled)
      (compareOrRefund config i ip email password (users.filter (·.email = email))) s := by
  refine Meets.attempt (S := Ending
    (fun _ => At config users ip email i (.comparing 0)) (At config users ip email i .shed))
    ?_ (fun _ _ hs => hs) fun e s hs => ?_
  · cases hcandidates : users.filter (·.email = email) with
    | nil =>
      have htotal : (termsOf config users ip email).total = 0 + 1 := by
        show max 1 (users.filter (·.email = email)).length = 1
        rw [hcandidates]
        rfl
      rw [htotal] at hs
      refine Meets.bind (regular_verifyPassword hcall rfl hs) (fun _ s hs => ?_) fun _ _ hs => hs
      exact regular_done hs fun _ hs => hs
    | cons u candidates =>
      have htotal : (termsOf config users ip email).total = (u :: candidates).length := by
        show max 1 (users.filter (·.email = email)).length = _
        rw [hcandidates]
        exact max_eq_right (Nat.succ_le_succ (Nat.zero_le _))
      rw [htotal] at hs
      refine regular_verifyAll hcall (fun user huser => ?_) hs
      rw [← hcandidates] at huser
      exact of_decide_eq_true (mem_filter.mp huser).2
  · refine regular_logged hcall rfl rfl hs fun s hs => ?_
    refine ⟨_, bind_eq_some_iff.mpr ⟨_, if_pos rfl, rfl⟩, fun s' hs' => ?_⟩
    refine regular_logged hcall rfl rfl hs' fun s' hs' => ?_
    refine ⟨_, bind_eq_some_iff.mpr ⟨_, if_pos rfl, rfl⟩, fun s'' hs'' => ?_⟩
    exact regular_threw hs'' fun _ hs => hs

lemma regular_conclude (hcall : call.address = some (ip, email)) (verified : List AuthUserRow)
    (hs : At config users ip email i (.comparing 0) s) :
    Regular config users call i (fun _ _ => True) (fun _ => True)
      (conclude config i ip email verified) s := by
  have hdone : ∀ {y : Phase} (a : LoginAnswer) s, At config users ip email i y s →
      Regular config users call i (fun _ _ => True) (fun _ => True) (.done a) s :=
    fun a s hs => regular_done hs fun _ _ => trivial
  unfold conclude
  split
  · refine regular_logged hcall rfl rfl hs fun s hs => ?_
    refine ⟨_, bind_eq_some_iff.mpr ⟨_, if_pos rfl, rfl⟩, fun s' hs' => ?_⟩
    refine regular_quiet hcall rfl hs' fun marked s' hs' => ?_
    cases marked with
    | none => exact hdone _ s' hs'
    | some marked =>
      have hanswer : ∀ failures : ℕ, Regular config users call i (fun _ _ => True)
          (fun _ => True) (if failures > config.lockout.maxPerIp then
            tooMany config (.counter (.failIp ip)) .ip else pure .unauthorized) s' := by
        intro failures
        split
        · exact regular_tooMany hcall hs' _ _
        · exact hdone _ s' hs'
      exact hanswer (s.value (.failIp ip) + 1)
  · refine regular_quiet hcall rfl hs fun _ s hs => ?_
    refine regular_logged hcall rfl rfl hs fun s hs => ?_
    refine ⟨_, bind_eq_some_iff.mpr ⟨_, if_pos rfl, rfl⟩, fun s' hs' => ?_⟩
    refine regular_quiet hcall rfl hs' fun _ s' hs' => ?_
    refine regular_quiet hcall rfl hs' fun r s' hs' => ?_
    cases r with
    | none => exact regular_threw hs' fun _ _ => trivial
    | some r => exact hdone _ s' hs'
  · exact hdone _ s hs

lemma regular_verifyAndConclude (hcall : call.address = some (ip, email))
    (hs : At config users ip email i (.comparing (termsOf config users ip email).total) s) :
    Regular config users call i (fun _ _ => True) (fun _ => True)
      (verifyAndConclude config i ip email password) s := by
  refine regular_quiet_of hcall rfl hs fun r s hs hr => ?_
  cases r with
  | none => exact regular_threw hs fun _ _ => trivial
  | some candidates =>
    obtain ⟨s₀, rfl, rfl⟩ := hr candidates rfl
    have hcompare : Regular config s₀.users call i
        (fun _ => At config s₀.users ip email i (.comparing 0))
        (At config s₀.users ip email i .settled)
        (compareOrRefund config i ip email password (s₀.users.filter (·.email = email))) s :=
      regular_compareOrRefund hcall hs
    refine Meets.bind (f := fun verified => conclude config i ip email (provenUsers verified))
      hcompare (fun verified s hs => ?_) fun _ _ _ => trivial
    exact regular_conclude hcall _ hs

lemma regular_attemptLogin (hcall : call.address = some (ip, email))
    (hs : At config users ip email i .fresh s) :
    Regular config users call i (fun _ _ => True) (fun _ => True)
      (attemptLogin config i ip email password) s := by
  refine Meets.bind (regular_preCheck (E := fun _ => True) hcall hs) (fun r s hs => ?_)
    fun _ _ _ => trivial
  cases r with
  | some refusal => exact regular_tooMany hcall hs _ _
  | none =>
    refine Meets.bind (regular_bump (E := fun _ => True) hcall hs) (fun r s hs => ?_)
      fun _ _ _ => trivial
    cases r with
    | some refusal => exact regular_tooMany hcall hs _ _
    | none => exact regular_verifyAndConclude hcall hs

lemma regular_outside {m : Program ι α} (hcall : call.address = none)
    (hm : m.Sends fun c : LoginCommand ι => c.sender = none) (hmine : s.mine i = [])
    (hs : s.users = users) :
    Regular config users call i (fun _ _ => True) (fun _ => True) m s := by
  have hstable : Stable (Env i) fun s => s.mine i = [] ∧ s.users = users :=
    fun s s' h hs => ⟨h.1.trans hs.1, h.2.trans hs.2⟩
  induction m generalizing s with
  | done a => exact .done _ ⟨hmine, hs⟩ hstable fun _ _ => trivial
  | threw e => exact .threw _ ⟨hmine, hs⟩ hstable fun _ _ => trivial
  | call c k ih =>
    refine ⟨_, ⟨hmine, hs⟩, hstable, fun s hs fate _ => ?_⟩
    have hsame : ∀ j, ((loginService ι).answer c s fate).1.mine j = s.mine j := by
      intro j
      have hrun := mine_run_of_ne (j := j) (hm.1 ▸ (some_ne_none j).symm) s
      cases fate with
      | ok => exact hrun
      | refused => rfl
      | lost => exact hrun
    have husers : ((loginService ι).answer c s fate).1.users = s.users := by
      cases fate with
      | ok => exact users_run c s
      | refused => rfl
      | lost => exact users_run c s
    refine ⟨⟨fun j _ => hsame j, husers, ?_⟩,
      ih _ (hm.2 _) ((hsame i).trans hs.1) (husers.trans hs.2)⟩
    unfold Behaves
    rw [hcall]
    exact (hsame i).trans hs.1

/-- **A call, among any others.** -/
lemma regular_program (call : LoginCall) (hmine : s.mine i = []) (hs : s.users = users) :
    Regular config users call i (fun _ _ => True) (fun _ => True) (call.program config i) s := by
  cases call with
  | outside steps =>
    refine regular_outside rfl (.bind (.foldlM (fun _ step _ => ?_) ()) fun _ => trivial) hmine hs
    exact .bind (Sends.send rfl) fun _ => .bind (Sends.send rfl) fun _ => trivial
  | login request =>
    obtain ⟨sameOriginOk, ip, body⟩ := request
    cases sameOriginOk with
    | false => exact regular_outside rfl trivial hmine hs
    | true =>
      cases body with
      | none => exact regular_outside rfl trivial hmine hs
      | some body =>
        obtain ⟨email, password⟩ := body
        refine Meets.bind (regular_attemptLogin rfl ⟨?_, hs⟩) (fun _ s _ => ?_) fun _ _ _ => trivial
        · rw [hmine]
          rfl
        · exact .done (fun _ => True) trivial (fun _ _ _ _ => trivial) fun _ _ => trivial

end Programs

/-! ## The counters -/

/-- What the history says of one counter. -/
def counterEvents (key : Key) (events : List (Event ι)) : List (CounterEvent ι) :=
  events.filterMap fun
    | .counted i key' n => if key' = key then some (.counted i n) else none
    | .refunded i key' => if key' = key then some (.refunded i) else none
    | _ => none

def LoginCommand.counts (key : Key) : LoginCommand ι → Bool
  | .lockout _ key' _ => key' = key
  | .admitScript ip _ _ => .admitIp ip = key
  | _ => false

/-- Redis does not fail, and the key is not removed: it has not expired, and is not deleted. -/
def Keeps (key : Key) (p : LoginPool ι) (_ : ι) (c : LoginCommand ι) (fate : Fate) : Prop :=
  Served c fate ∧ ((((loginService ι).answer c p.state fate).1.counter key).isSome = true ∨
    p.state.counter key = none ∧ c.counts key = false)

/-- What holds among those of a kind, for every kind. -/
lemma pairwise_of_filter {α β : Type} [DecidableEq β] {f : α → β} {R : α → α → Prop} {l : List α}
    (h : ∀ b, (l.filter fun a => f a = b).Pairwise R) :
    l.Pairwise fun a a' => f a = f a' → R a a' := by
  induction l with
  | nil => exact .nil
  | cons a l ih =>
    refine pairwise_cons.mpr ⟨fun a' ha' heq => ?_, ih fun b => ?_⟩
    · have hself := h (f a)
      rw [filter_cons_of_pos (by exact decide_eq_true rfl)] at hself
      exact rel_of_pairwise_cons hself (mem_filter.mpr ⟨ha', decide_eq_true heq.symm⟩)
    · exact (h b).sublist ((sublist_cons_self a l).filter _)

section Counters

variable {key : Key} {s : LoginStore ι} {v : ℕ} {events : List (Event ι)}

omit [DecidableEq ι] in
lemma counter_update_of_ne {key' : Key} (hkey : key' ≠ key) (c : Option Counter) :
    LoginStore.counter { s with keys := update s.keys key' c } key = s.counter key := by
  unfold LoginStore.counter
  show (update s.keys key' c key).filter _ = _
  rw [update_of_ne hkey.symm]

omit [DecidableEq ι] in
lemma value_update_self {n : ℕ} {expiresAt : Option ℕ}
    (h : (LoginStore.counter
      { s with keys := update s.keys key (some ⟨n, expiresAt⟩) } key).isSome = true) :
    LoginStore.value { s with keys := update s.keys key (some ⟨n, expiresAt⟩) } key = n := by
  unfold LoginStore.value
  unfold LoginStore.counter at h ⊢
  dsimp only at h ⊢
  rw [update_self] at h ⊢
  obtain ⟨c, hc⟩ := isSome_iff_exists.mp h
  rw [hc]
  obtain rfl := some.inj (filter_eq_some_iff.mp hc).1
  rfl

omit [DecidableEq ι] in
/-- `DECR` takes one off, above zero. -/
lemma value_decay (s : LoginStore ι) (key : Key) : (s.decay key).value key = s.value key - 1 := by
  have hcounter : (s.decay key).counter key =
      (s.counter key).map fun c => { c with value := c.value - 1 } := by
    unfold LoginStore.decay LoginStore.counter
    dsimp only
    rw [update_self]
    cases s.keys key with
    | none => rfl
    | some c =>
      cases halive : alive s.now c.expiresAt with
      | true => simp [Option.filter, halive]
      | false => simp [Option.filter, halive]
  unfold LoginStore.value
  rw [hcounter]
  cases s.counter key <;> rfl

omit [DecidableEq ι] in
/-- A key that is not removed keeps its value while time passes. -/
lemma value_wait (seconds : ℕ)
    (h : (LoginStore.counter { s with now := s.now + seconds } key).isSome = true ∨
      s.counter key = none) :
    LoginStore.value { s with now := s.now + seconds } key = s.value key := by
  have hcounter : LoginStore.counter { s with now := s.now + seconds } key = s.counter key := by
    unfold LoginStore.counter at h ⊢
    dsimp only at h ⊢
    cases hc : s.keys key with
    | none => rfl
    | some c =>
      rw [hc] at h
      have halive : alive (s.now + seconds) c.expiresAt = true →
          alive s.now c.expiresAt = true := by
        unfold alive
        cases c.expiresAt with
        | none => exact id
        | some t => exact fun h => decide_eq_true (by have := of_decide_eq_true h; omega)
      cases hlater : alive (s.now + seconds) c.expiresAt with
      | true => simp [Option.filter, hlater, halive hlater]
      | false =>
        cases hnow : alive s.now c.expiresAt with
        | true => simp [Option.filter, hlater, hnow] at h
        | false => simp [Option.filter, hlater, hnow]
  unfold LoginStore.value
  rw [hcounter]

omit [DecidableEq ι] in
lemma refunds_counterEvents (key : Key) (events : List (Event ι)) :
    refunds (counterEvents key events) = events.filterMap fun
      | .refunded i key' => if key' = key then some i else none
      | _ => none := by
  unfold refunds counterEvents
  rw [filterMap_filterMap]
  congr 1
  funext e
  cases e with
  | counted i key' n => by_cases h : key' = key <;> simp [h]
  | refunded i key' => by_cases h : key' = key <;> simp [h]
  | _ => rfl

omit [DecidableEq ι] in
lemma tallied_run (hkey : ∀ ip, key ≠ .admitIp ip) (c : LoginCommand ι)
    (hkept : ((c.run s).1.counter key).isSome = true ∨ s.counter key = none ∧ c.counts key = false)
    (h : Tallied v (counterEvents key events) (s.value key)) :
    Tallied v (counterEvents key (events ++ c.logs s)) ((c.run s).1.value key) := by
  have hquiet : ∀ s' : LoginStore ι, s'.value key = s.value key →
      Tallied v (counterEvents key (events ++ [])) (s'.value key) := by
    intro s' hs'
    rw [append_nil, hs']
    exact h
  have hlast : ∀ e, counterEvents key (events ++ [e]) =
      counterEvents key events ++ counterEvents key [e] := fun e => filterMap_append
  have hother : ∀ {key'} c, key' ≠ key → LoginStore.value
      { s with keys := update s.keys key' c } key = s.value key := by
    intro key' c hkey'
    unfold LoginStore.value
    rw [counter_update_of_ne hkey']
  cases c with
  | lockout me key' windowS =>
    show Tallied v (counterEvents key (events ++ [.counted me key' (s.value key' + 1)]))
      ((s.increment key' windowS).value key)
    rw [hlast]
    by_cases hkey' : key' = key
    · subst hkey'
      have hcounted : counterEvents key' [Event.counted me key' (s.value key' + 1)] =
          [.counted me (s.value key' + 1)] := by simp [counterEvents]
      have hvalue : (s.increment key' windowS).value key' = s.value key' + 1 := by
        rcases hkept with hkept | ⟨-, hcounts⟩
        · exact value_update_self hkept
        · exact absurd rfl (of_decide_eq_false hcounts)
      rw [hcounted, hvalue]
      exact h.counted me
    · have hnone : counterEvents key [Event.counted me key' (s.value key' + 1)] = [] := by
        simp [counterEvents, hkey']
      have hvalue : (s.increment key' windowS).value key = s.value key := hother _ hkey'
      rw [hnone, append_nil, hvalue]
      exact h
  | decay me key' =>
    show Tallied v (counterEvents key (events ++ [.refunded me key'])) ((s.decay key').value key)
    rw [hlast]
    by_cases hkey' : key' = key
    · subst hkey'
      have hrefunded : counterEvents key' [Event.refunded me key'] = [.refunded me] := by
        simp [counterEvents]
      rw [hrefunded, value_decay]
      exact h.refunded me
    · have hnone : counterEvents key [Event.refunded me key'] = [] := by
        simp [counterEvents, hkey']
      have hvalue : (s.decay key').value key = s.value key := hother _ hkey'
      rw [hnone, append_nil, hvalue]
      exact h
  | verify me user =>
    have hnone : counterEvents key [if s.saturated = true then Event.shed me
        else .compared me user] = [] := by
      cases s.saturated <;> rfl
    show Tallied v (counterEvents key (events ++ [_])) (s.value key)
    rw [hlast, hnone, append_nil]
    exact h
  | admitScript ip every windowS => exact hquiet _ (hother _ (hkey ip).symm)
  | del key' =>
    refine hquiet _ ?_
    by_cases hkey' : key' = key
    · subst hkey'
      have hdeleted : LoginStore.counter
          { s with keys := update s.keys key' none } key' = none := by
        unfold LoginStore.counter
        dsimp only
        rw [update_self]
        rfl
      have hnone : s.counter key' = none := by
        rcases hkept with hkept | ⟨hnone, -⟩
        · have hsome : (none : Option Counter).isSome = true := hdeleted ▸ hkept
          cases hsome
        · exact hnone
      show LoginStore.value { s with keys := update s.keys key' none } key' = _
      unfold LoginStore.value
      rw [hdeleted, hnone]
    · exact hother none hkey'
  | wait seconds => exact hquiet _ (value_wait seconds (hkept.imp id And.left))
  | ttl gateKey => cases gateKey <;> exact hquiet _ rfl
  | _ => exact hquiet _ rfl

end Counters

/-! ## Runs -/

section Runs

variable {users : List AuthUserRow} {calls : ι → LoginCall} {start : LoginStore ι}
  {p q : LoginPool ι} {key : Key} {limit : ℕ} {ip : Ip}

/-- Redis does not fail, and a comparison is answered or shed. -/
def AllServed (_ : LoginPool ι) (_ : ι) (c : LoginCommand ι) (fate : Fate) : Prop := Served c fate

/-- What the history has gained. -/
def since (q p : LoginPool ι) : List (Event ι) := p.state.history.drop q.state.history.length

/-- The requests from a source whose passwords have been compared since, with a user of the kind,
and without a shed. -/
def guessers (calls : ι → LoginCall) (ip : Ip) (against : Option AuthUserRow → Bool)
    (q p : LoginPool ι) : List ι :=
  ((since q p).filterMap fun
    | .compared i user =>
      if (calls i).address.map Prod.fst = some ip ∧ against user = true then some i else none
    | _ => none).dedup.filter fun i => decide (.shed i ∉ p.state.history)

/-- The request has not been answered, and its comparisons are not done. -/
def isUnderway (config : LoginConfig) (calls : ι → LoginCall) (p : LoginPool ι) (i : ι) : Bool :=
  (p.thread i).pending.isSome && match (calls i).address with
    | some (ip, email) => !((phaseAfter (termsOf config p.state.users ip email)
        (p.state.mine i)).all Phase.isSettled)
    | none => false

/-- The requests that have been counted on a key, and are under way. -/
def underway (config : LoginConfig) (calls : ι → LoginCall) (key : Key) (p : LoginPool ι) :
    List ι :=
  (p.state.history.filterMap fun
    | .counted i key' _ => if key' = key then some i else none
    | _ => none).dedup.filter (isUnderway config calls p)

/-- The promises of all requests. -/
lemma meets_logins (hstart : start.history = []) :
    (logins config calls start).Meets (fun _ _ => Served) (fun i _ => Env i)
      (fun i _ => Own config start.users (calls i) i)
      fun _ => Ending (fun _ _ => True) fun _ => True := by
  intro i
  refine regular_program (calls i) ?_ rfl
  unfold LoginStore.mine
  show start.history.filter _ = []
  rw [hstart]
  rfl

lemma compatible_served : Pool.Compatible (V := loginService ι) (ε := LoginError)
    (α := Option LoginAnswer) AllServed (fun _ _ => Served) (fun i _ => Env i)
    (fun i _ => Own config users (calls i) i) :=
  fun _ _ _ _ _ _ hfits => ⟨hfits, fun hown j hj => ⟨hown.1 j hj, hown.2.1⟩⟩

/-- In every state the events of each request are those of its course. -/
lemma behaves_run (hstart : start.history = [])
    (hrun : Pool.Run AllServed (logins config calls start) p) :
    (∀ i, Behaves config start.users (calls i) (p.state.mine i)) ∧ p.state.users = start.users := by
  let I : LoginStore ι → Prop := fun s =>
    (∀ i, Behaves config start.users (calls i) (s.mine i)) ∧ s.users = start.users
  have hkept := hrun.keeps compatible_served (meets_logins hstart) (I := fun s s' => I s → I s')
    (fun _ h => h) (fun _ _ _ h h' hs => h' (h hs)) fun i c s s' hown hs => ?_
  · refine hkept ⟨fun i => ?_, rfl⟩
    have hmine : (logins config calls start).state.mine i = [] := by
      unfold LoginStore.mine
      show start.history.filter _ = []
      rw [hstart]
      rfl
    rw [hmine]
    unfold Behaves
    split
    · rfl
    · rfl
  · refine ⟨fun j => ?_, hown.2.1.trans hs.2⟩
    by_cases hj : j = i
    · subst hj
      exact hown.2.2
    · rw [hown.1 j hj]
      exact hs.1 j

variable {Fits : LoginPool ι → ι → LoginCommand ι → Fate → Prop} {e : Event ι}

lemma history_since (hrun : Pool.Run Fits q p) :
    p.state.history = q.state.history ++ since q p := by
  have hprefix : q.state.history <+: p.state.history := by
    induction hrun with
    | refl => exact prefix_rfl
    | @step p p' i c fate _ hstep _ ih =>
      obtain ⟨k, -, rfl⟩ := hstep
      refine ih.trans ?_
      cases fate with
      | ok => exact ⟨_, (history_run c p.state).symm⟩
      | refused => exact prefix_rfl
      | lost => exact ⟨_, (history_run c p.state).symm⟩
  obtain ⟨later, hlater⟩ := hprefix
  unfold since
  rw [← hlater, drop_left]

lemma mine_since (hrun : Pool.Run Fits q p) (i : ι) :
    p.state.mine i = q.state.mine i ++ (since q p).filter fun e => e.request = i := by
  unfold LoginStore.mine
  rw [history_since hrun, filter_append]

lemma tallied_since (hkey : ∀ ip, key ≠ .admitIp ip) (hrun : Pool.Run (Keeps key) q p) :
    Tallied (q.state.value key) (counterEvents key (since q p)) (p.state.value key) := by
  suffices h : ∃ later, p.state.history = q.state.history ++ later ∧
      Tallied (q.state.value key) (counterEvents key later) (p.state.value key) by
    obtain ⟨later, hlater, htallied⟩ := h
    have hsince : since q p = later := by
      unfold since
      rw [hlater, drop_left]
    rw [hsince]
    exact htallied
  induction hrun with
  | refl => exact ⟨[], (append_nil _).symm, .nil⟩
  | @step p p' i c fate _ hstep hfits ih =>
    obtain ⟨k, -, rfl⟩ := hstep
    obtain ⟨later, hlater, htallied⟩ := ih
    obtain ⟨-, hkept⟩ := hfits
    have hrun : ((c.run p.state).1.counter key).isSome = true ∨
        p.state.counter key = none ∧ c.counts key = false →
        ∃ later, (c.run p.state).1.history = q.state.history ++ later ∧
          Tallied (q.state.value key) (counterEvents key later) ((c.run p.state).1.value key) := by
      intro hkept
      refine ⟨later ++ c.logs p.state, ?_, tallied_run hkey c hkept htallied⟩
      rw [history_run, hlater, append_assoc]
    cases fate with
    | ok => exact hrun hkept
    | refused => exact ⟨later, hlater, htallied⟩
    | lost => exact hrun hkept

structure IsCeiling (config : LoginConfig) (key : Key) (limit : ℕ) : Prop where
  admitIp : ∀ ip, key ≠ .admitIp ip
  failIp : ∀ ip, key ≠ .failIp ip
  lock : ∀ ip emailHash, key = .fail ip emailHash → limit = config.lockout.maxFails
  attempt : ∀ ip, key = .attemptIp ip → limit = config.lockout.hardPerIp

/-- A request that has come to a comparison since, under a ceiling: it has been let in since, or
was under way. -/
lemma admitted_or_underway (hlimit : IsCeiling config key limit) (hstart : start.history = [])
    (hrun : Pool.Run AllServed (logins config calls start) q) (hlater : Pool.Run AllServed q p)
    {i : ι} {email : String} (hcall : (calls i).address = some (ip, email))
    (hkey : key = (termsOf config start.users ip email).lock ∨
      key = (termsOf config start.users ip email).attempt) (he : e ∈ since q p)
    (hrequest : e.request = i)
    (hverdict : e.isVerdict (termsOf config start.users ip email) = true) :
    i ∈ admitted limit (counterEvents key (since q p)) ∨ i ∈ underway config calls key q := by
  set t := termsOf config start.users ip email with ht
  have hapart : t.Apart := apart_termsOf _ _ _ _
  have hbehaves : (phaseAfter t (p.state.mine i)).isSome = true := by
    have h := (behaves_run (p := p) hstart (hrun.trans hlater)).1 i
    unfold Behaves at h
    rw [hcall] at h
    exact h
  have hmine := mine_since hlater i
  have hemine : e ∈ (since q p).filter fun e => e.request = i :=
    mem_filter.mpr ⟨he, decide_eq_true hrequest⟩
  have hein : e ∈ p.state.mine i := hmine ▸ mem_append_right _ hemine
  -- the count, somewhere in the history of the request
  obtain ⟨j, n, hn, hcounted⟩ : ∃ j, ∃ n ≤ limit, .counted j key n ∈ p.state.mine i := by
    obtain ⟨hlock, hattempt⟩ := counted_of_verdict hapart hbehaves hein hverdict
    rcases hkey with hkey | hkey
    · obtain ⟨j, n, hn, hmem⟩ := hlock
      rw [← hkey] at hmem
      exact ⟨j, n, hn.trans (hlimit.lock _ _ hkey).ge, hmem⟩
    · obtain ⟨j, n, hn, hmem⟩ := hattempt
      rw [← hkey] at hmem
      exact ⟨j, n, hn.trans (hlimit.attempt _ hkey).ge, hmem⟩
  have hj : j = i := by
    unfold LoginStore.mine at hcounted
    exact of_decide_eq_true (mem_filter.mp hcounted).2
  subst hj
  rw [hmine] at hcounted
  rcases mem_append.mp hcounted with hearlier | hsince
  · right
    refine mem_filter.mpr ⟨mem_dedup.mpr (mem_filterMap.mpr ?_), ?_⟩
    · exact ⟨_, (mem_filter.mp hearlier).1, if_pos rfl⟩
    · unfold isUnderway
      rw [hcall]
      refine Bool.and_eq_true_iff.mpr ⟨?_, ?_⟩
      · -- a request that has been answered has no event since
        by_contra hanswered
        have hpending : (q.thread j).pending = none := not_isSome_iff_eq_none.mp hanswered
        let I : LoginStore ι → LoginStore ι → Prop := fun s s' => s'.mine j = s.mine j
        have hidle : p.state.mine j = q.state.mine j := hlater.idle (I := I) compatible_served
          (hrun.meets compatible_served (meets_logins hstart)) hpending (fun _ => rfl)
          (fun _ _ _ h h' => h'.trans h) fun k _ s s' hk hown => hown.1 j hk.symm
        rw [hmine] at hidle
        rw [append_right_eq_self.mp hidle] at hemine
        exact not_mem_nil hemine
      · -- nor has one whose comparisons were done
        have husers : q.state.users = start.users := (behaves_run hstart hrun).2
        rw [husers]
        show (!(phaseAfter t (q.state.mine j)).all Phase.isSettled) = true
        obtain ⟨z, hz⟩ := isSome_iff_exists.mp hbehaves
        unfold phaseAfter at hz
        rw [hmine, foldlM_append] at hz
        obtain ⟨x, hx, hrest⟩ := bind_eq_some_iff.mp hz
        unfold phaseAfter
        rw [hx]
        cases hsettled : x.isSettled with
        | true =>
          rw [settled_events hapart hsettled hrest e hemine] at hverdict
          cases hverdict
        | false => simp [hsettled]
  · left
    refine mem_filterMap.mpr ⟨.counted j n, mem_filterMap.mpr
      ⟨_, (mem_filter.mp hsince).1, if_pos rfl⟩, if_pos hn⟩

lemma course_of_since (hstart : start.history = [])
    (hrun : Pool.Run AllServed (logins config calls start) q) (hlater : Pool.Run AllServed q p)
    (he : e ∈ since q p) :
    ∃ ip email, (calls e.request).address = some (ip, email) ∧ ∃ z,
      (p.state.mine e.request).foldlM (advance (termsOf config start.users ip email)) .fresh =
        some z ∧ e ∈ p.state.mine e.request := by
  have hmine : e ∈ p.state.mine e.request := by
    rw [mine_since hlater]
    exact mem_append_right _ (mem_filter.mpr ⟨he, decide_eq_true rfl⟩)
  have hbehaves := (behaves_run (p := p) hstart (hrun.trans hlater)).1 e.request
  unfold Behaves at hbehaves
  split at hbehaves
  · rename_i ip email hcall
    obtain ⟨z, hz⟩ := isSome_iff_exists.mp hbehaves
    exact ⟨ip, email, hcall, z, hz, hmine⟩
  · rw [hbehaves] at hmine
    exact absurd hmine not_mem_nil

/-- **The requests under a ceiling.** -/
lemma guessers_le (hlimit : IsCeiling config key limit) (hstart : start.history = [])
    (hrun : Pool.Run AllServed (logins config calls start) q)
    (hlater : Pool.Run (Keeps key) q p) {against : Option AuthUserRow → Bool}
    (hagainst : ∀ user email, against user = true → user.all (·.email = email) = true →
      key = (termsOf config start.users ip email).lock ∨
        key = (termsOf config start.users ip email).attempt) :
    (guessers calls ip against q p).length ≤ limit + (underway config calls key q).length := by
  have hserved : Pool.Run AllServed q p := hlater.mono fun _ _ _ _ h => h.1
  have hrefunds : ∀ i ∈ refunds (counterEvents key (since q p)), .refunded i key ∈ since q p := by
    intro i hi
    rw [refunds_counterEvents] at hi
    obtain ⟨e, he, hei⟩ := mem_filterMap.mp hi
    cases e with
    | refunded j key' =>
      obtain ⟨rfl, hj⟩ := ite_none_right_eq_some.mp hei
      cases hj
      exact he
    | _ => cases hei
  have hceiling : ∀ i, .refunded i key ∈ since q p → ∃ ip email,
      (calls i).address = some (ip, email) ∧
      (key = (termsOf config start.users ip email).lock ∨
        key = (termsOf config start.users ip email).attempt) ∧ ∃ z,
      (p.state.mine i).foldlM (advance (termsOf config start.users ip email)) .fresh = some z ∧
        .refunded i key ∈ p.state.mine i := by
    intro i hi
    obtain ⟨ip, email, hcall, z, hz, hmine⟩ := course_of_since hstart hrun hserved hi
    obtain ⟨y, y', hy⟩ := exists_advance hz hmine
    refine ⟨ip, email, hcall, ?_, z, hz, hmine⟩
    rcases advance_refunded hy with h | h | h
    · exact .inl h
    · exact .inr h
    · exact absurd h (hlimit.failIp ip)
  refine (tallied_since hlimit.admitIp hlater).length_le ?_ fun i hi => ?_
  · refine nodup_append.mpr ⟨(nodup_dedup _).filter _, ?_, ?_⟩
    · have honce : (since q p).Pairwise fun e e' => e.request = e'.request →
          ¬ (e.refunds key = true ∧ e'.refunds key = true) := by
        refine pairwise_of_filter fun i => ?_
        by_cases hany : ∃ e ∈ since q p, e.request = i ∧ e.refunds key = true
        · obtain ⟨e, he, rfl, hrefunds⟩ := hany
          rw [eq_refunded_of_refunds hrefunds] at he
          obtain ⟨ip, email, -, hkey, z, hz, -⟩ := hceiling e.request he
          refine (refunds_once hkey (apart_termsOf _ _ _ _) hz).sublist ?_
          rw [mine_since hserved]
          exact sublist_append_right _ _
        · refine pairwise_of_forall_mem_list fun e he e' _ h => hany ?_
          obtain ⟨hmem, hrequest⟩ := mem_filter.mp he
          exact ⟨e, hmem, of_decide_eq_true hrequest, h.1⟩
      rw [refunds_counterEvents]
      refine Pairwise.filterMap _ (fun e e' h i hi j hj hij => ?_) honce
      subst hij
      cases e with
      | refunded k key₁ =>
        cases e' with
        | refunded k' key₂ =>
          obtain ⟨hkey₁, hk⟩ := ite_none_right_eq_some.mp hi
          obtain ⟨hkey₂, hk'⟩ := ite_none_right_eq_some.mp hj
          refine h ?_ ⟨decide_eq_true hkey₁, decide_eq_true hkey₂⟩
          exact (some.inj hk).trans (some.inj hk').symm
        | _ => cases hj
      | _ => cases hi
    · rintro i hguesser j hrefunded rfl
      obtain ⟨ip, email, -, hkey, z, hz, hmine⟩ := hceiling i (hrefunds i hrefunded)
      obtain ⟨j, hj⟩ := shed_of_refund hkey (apart_termsOf _ _ _ _)
        ⟨Phase.noConfusion, Phase.noConfusion⟩ hz hmine (decide_eq_true rfl)
      unfold LoginStore.mine at hj
      obtain ⟨hshed, hrequest⟩ := mem_filter.mp hj
      obtain rfl : j = i := of_decide_eq_true hrequest
      exact of_decide_eq_true (mem_filter.mp hguesser).2 hshed
  · rcases mem_append.mp hi with hguesser | hrefunded
    · obtain ⟨e, he, hei⟩ := mem_filterMap.mp (mem_dedup.mp (mem_filter.mp hguesser).1)
      cases e with
      | compared j user =>
        obtain ⟨⟨hip, huser⟩, hj⟩ := ite_none_right_eq_some.mp hei
        obtain rfl := some.inj hj
        obtain ⟨ip', email, hcall, z, hz, hmine⟩ := course_of_since hstart hrun hserved he
        obtain ⟨y, y', hy⟩ := exists_advance hz hmine
        rw [show (calls j).address = _ from hcall] at hip
        obtain rfl : ip' = ip := some.inj hip
        exact admitted_or_underway hlimit hstart hrun hserved hcall
          (hagainst user email huser (advance_compared hy)) he rfl rfl
      | _ => cases hei
    · have hmem := hrefunds i hrefunded
      obtain ⟨ip, email, hcall, hkey, -⟩ := hceiling i hmem
      refine admitted_or_underway hlimit hstart hrun hserved hcall hkey hmem rfl ?_
      exact decide_eq_true hkey

lemma isCeiling_fail (config : LoginConfig) (ip : Ip) (emailHash : EmailHash) :
    IsCeiling config (.fail ip emailHash) config.lockout.maxFails :=
  ⟨fun _ => Key.noConfusion, fun _ => Key.noConfusion, fun _ _ _ => rfl, fun _ => Key.noConfusion⟩

lemma isCeiling_attemptIp (config : LoginConfig) (ip : Ip) :
    IsCeiling config (.attemptIp ip) config.lockout.hardPerIp :=
  ⟨fun _ => Key.noConfusion, fun _ => Key.noConfusion, fun _ _ => Key.noConfusion, fun _ _ => rfl⟩

/-- **Guessing is bounded**: while the counter of a source and an address stands, at most `maxFails`
requests from the source compare a password with the hash of a user of the address, besides those
that were under way when the stretch began; and while the counter of the source stands, at most
as many as the hard ceiling compare any password. -/
theorem guesses_bounded (hstart : start.history = [])
    (hrun : Pool.Run AllServed (logins config calls start) q) (ip : Ip) :
    (∀ user : AuthUserRow,
      Pool.Run (Keeps (.fail ip (config.emailHash user.email))) q p →
        (guessers calls ip (· = some user) q p).length ≤ config.lockout.maxFails +
          (underway config calls (.fail ip (config.emailHash user.email)) q).length) ∧
    (Pool.Run (Keeps (.attemptIp ip)) q p →
      (guessers calls ip (fun _ => true) q p).length ≤ config.lockout.hardPerIp +
        (underway config calls (.attemptIp ip) q).length) := by
  refine ⟨fun user hlater => ?_, fun hlater => ?_⟩
  · refine guessers_le (isCeiling_fail _ _ _) hstart hrun hlater fun user' email huser hemail => ?_
    obtain rfl : user' = some user := of_decide_eq_true huser
    have hemail : user.email = email := of_decide_eq_true hemail
    rw [hemail]
    exact .inl rfl
  · exact guessers_le (isCeiling_attemptIp _ _) hstart hrun hlater fun _ _ _ _ => .inr rfl

instance (p : LoginPool ι) (i : ι) (c : LoginCommand ι) (fate : Fate) :
    Decidable (AllServed p i c fate) := inferInstanceAs (Decidable (c.isDb = false → fate = .ok))

instance (key : Key) (p : LoginPool ι) (i : ι) (c : LoginCommand ι) (fate : Fate) :
    Decidable (Keeps key p i c fate) :=
  inferInstanceAs (Decidable ((c.isDb = false → fate = .ok) ∧ _))

end Runs

/-! Two users of one address, and three requests, of which the second has a password of its own. -/

/-- Two attempts for an address; a hash is the password itself. -/
def twoAttempts : LoginConfig :=
  ⟨⟨2, 900, none, none, none⟩, id, fun hash password => hash = password⟩

def victim : AuthUserRow := ⟨"u", "t1", "a@b.lt", "secret", none, some 0⟩

def attacker : AuthUserRow := ⟨"v", "t2", "a@b.lt", "own", none, some 0⟩

def sharedAddress : LoginStore (Fin 3) where
  keys _ := none
  sources _ := none
  knownGood _ := none
  users := [victim, attacker]
  issued := []
  saturated := false
  now := 0
  history := []

def threeTries (second : String) : Fin 3 → LoginCall
  | 0 => .login ⟨true, "10.0.0.1", some ("a@b.lt", "guess1")⟩
  | 1 => .login ⟨true, "10.0.0.1", some ("a@b.lt", second)⟩
  | 2 => .login ⟨true, "10.0.0.1", some ("a@b.lt", "guess2")⟩

/-- The requests, one after the other. -/
def afterThree (second : String) : LoginPool (Fin 3) :=
  (logins twoAttempts (threeTries second) sharedAddress).exec
    (replicate 20 (0, Fate.ok) ++ replicate 20 (1, Fate.ok) ++ replicate 20 (2, Fate.ok))

lemma run_afterThree_wrong : Pool.Run (Keeps (.fail "10.0.0.1" "a@b.lt"))
    (logins twoAttempts (threeTries "guess3") sharedAddress) (afterThree "guess3") :=
  Pool.run_exec_of_isSome _ _ (by decide +kernel)

/-- The third of three wrong passwords is not compared. -/
theorem guesses_bounded_three :
    guessers (threeTries "guess3") "10.0.0.1" (· = some victim)
        (logins twoAttempts (threeTries "guess3") sharedAddress) (afterThree "guess3") = [0, 1] ∧
      (guessers (threeTries "guess3") "10.0.0.1" (· = some victim)
        (logins twoAttempts (threeTries "guess3") sharedAddress)
        (afterThree "guess3")).length ≤ 2 :=
  ⟨by decide +kernel, (guesses_bounded rfl (.refl _) "10.0.0.1").1 victim run_afterThree_wrong⟩

/-- A login to an account of one's own, under the same address, lets the third one through. -/
theorem guesses_unbounded :
    Pool.Run AllServed (logins twoAttempts (threeTries "own") sharedAddress) (afterThree "own") ∧
      (∀ password ∈ ["guess1", "own", "guess2"],
        twoAttempts.verifies victim.passwordHash password = false) ∧
      (afterThree "own").state.now = 0 ∧
      ((afterThree "own").thread 0).returned = some (some .unauthorized) ∧
      ((afterThree "own").thread 1).returned = some (some (.session "v")) ∧
      ((afterThree "own").thread 2).returned = some (some .unauthorized) ∧
      guessers (threeTries "own") "10.0.0.1" (· = some victim)
        (logins twoAttempts (threeTries "own") sharedAddress) (afterThree "own") = [0, 1, 2] ∧
      twoAttempts.lockout.maxFails = 2 :=
  ⟨Pool.run_exec_of_isSome _ _ (by decide +kernel), by decide +kernel, by decide +kernel,
    by decide +kernel, by decide +kernel, by decide +kernel, by decide +kernel, rfl⟩

end Orbetra.Login
