import Orbetra.Live.Gateway

/-!
# A revoked token and its stream

A sweep closes the sockets whose ticket is no newer than the marker of their user, and a ticket is
as new as the request for it, not as the token that it is asked for with.  Whether that token is
older than a revocation is decided in seconds, by the marker that is found before the ticket is
stamped.

So a stream outlives its token where a ticket is stamped after a revocation that the token is older
than, either in the same second or unseen (`stream_outlives_token`).  Where none is, and markers are
set in order, the next sweep closes what a revocation has ended (`revoked_streams_close`). -/

namespace Orbetra.Streams

open Function List Async

variable {ι τ : Type} [DecidableEq ι] [Field τ] [LinearOrder τ] [FloorRing τ]

/-! ## What a step may be -/

/-- A ticket is not stamped after a revocation that its token is older than, unless the revocation
had been found in another second than that of the token; and the marker of a user does not go back.
-/
def Due (s : Gateway ι τ) : GatewayCommand ι τ → Prop
  | .stamp me token => ∀ r ∈ s.revoked, r.1 = token.userId → token.mintedAt < r.2 → r.2 < s.now →
      r ∈ s.seen me ∧ ⌊r.2 / 1000⌋ ≠ token.iat
  | .set userId at_ => ∀ t ∈ s.marker userId, t ≤ at_
  | _ => True

/-- Redis answers, and the step is due. -/
def CanDue (s : Gateway ι τ) (c : GatewayCommand ι τ) (fate : Fate) : Prop := fate = .ok ∧ Due s c

/-! ## What a run keeps -/

/-- What was given out at `at_` for a token is no later than a revocation that the token is older
than. -/
def Dated (s : Gateway ι τ) (userId : String) (mintedAt at_ : τ) : Prop :=
  at_ ≤ s.now ∧ ∀ r ∈ s.revoked, r.1 = userId → mintedAt < r.2 → at_ ≤ r.2

structure StreamInv (s : Gateway ι τ) : Prop where
  called : ∀ r ∈ s.revoked, r.2 ≤ s.now
  marked : ∀ r ∈ s.stored, ∃ t ∈ s.marker r.1, r.2 ≤ t
  tickets : ∀ i ticket, s.tickets i = some ticket →
    Dated s ticket.userId ticket.mintedAt ticket.issuedAtMs
  sockets : ∀ e ∈ s.subscribers, e.id ∈ s.upgraded ∧ Dated s e.userId e.mintedAt e.establishedAt

/-- What every step does. -/
structure Onward (s s' : Gateway ι τ) : Prop where
  inv : StreamInv s → StreamInv s'
  now : s.now ≤ s'.now
  revoked : ∀ r ∈ s.revoked, r ∈ s'.revoked
  called : ∀ r ∈ s'.revoked, r ∈ s.revoked ∨ s.now ≤ r.2
  stored : ∀ r ∈ s.stored, r ∈ s'.stored
  sockets : ∀ e ∈ s'.subscribers, e ∈ s.subscribers ∨ e.id ∉ s.upgraded
  upgraded : ∀ i ∈ s.upgraded, i ∈ s'.upgraded

/-- What a step leaves alone of another call. -/
def SameFor (i : ι) (s s' : Gateway ι τ) : Prop :=
  s'.seen i = s.seen i ∧ (i ∉ s.upgraded → i ∉ s'.upgraded)

/-- What a call expects of the others. -/
def Others (me : ι) (s s' : Gateway ι τ) : Prop := Onward s s' ∧ SameFor me s s'

/-- What a call promises. -/
def Mine (me : ι) (s s' : Gateway ι τ) : Prop := Onward s s' ∧ ∀ i, i ≠ me → SameFor i s s'

section Steps

variable {s s' : Gateway ι τ} {userId : String} {mintedAt at_ : τ} {me : ι}

omit [DecidableEq ι] [Field τ] [FloorRing τ] in
lemma Dated.onward (h : Dated s userId mintedAt at_) (hnow : s.now ≤ s'.now)
    (hcalled : ∀ r ∈ s'.revoked, r ∈ s.revoked ∨ s.now ≤ r.2) : Dated s' userId mintedAt at_ := by
  refine ⟨h.1.trans hnow, fun r hr huser hlater => ?_⟩
  rcases hcalled r hr with hold | hnew
  · exact h.2 r hold huser hlater
  · exact h.1.trans hnew

def Ready (me : ι) (s : Gateway ι τ) : GatewayCommand ι τ → Prop
  | .check i _ => i = me
  | .setex _ ticket => Dated s ticket.userId ticket.mintedAt ticket.issuedAtMs
  | .upgrade e => e.id = me ∧ e.id ∉ s.upgraded ∧ Dated s e.userId e.mintedAt e.establishedAt
  | _ => True

omit [DecidableEq ι] [Field τ] [FloorRing τ] in
lemma onward_of_same (hnow : s.now ≤ s'.now) (hrevoked : s'.revoked = s.revoked)
    (hstored : s'.stored = s.stored) (hmarker : s'.marker = s.marker)
    (htickets : ∀ i ticket, s'.tickets i = some ticket → s.tickets i = some ticket ∨
      Dated s ticket.userId ticket.mintedAt ticket.issuedAtMs)
    (hsockets : ∀ e ∈ s'.subscribers, e ∈ s.subscribers) (hupgraded : s'.upgraded = s.upgraded) :
    Onward s s' := by
  have hcalled : ∀ r ∈ s'.revoked, r ∈ s.revoked ∨ s.now ≤ r.2 := fun r hr => .inl (hrevoked ▸ hr)
  refine ⟨fun h => ⟨?_, ?_, fun i ticket hticket => ?_, fun e he => ?_⟩, hnow,
    fun r hr => hrevoked ▸ hr, hcalled, fun r hr => hstored ▸ hr, fun e he => .inl (hsockets e he),
    fun i hi => hupgraded ▸ hi⟩
  · exact fun r hr => (h.called r (hrevoked ▸ hr)).trans hnow
  · rw [hstored, hmarker]
    exact h.marked
  · rcases htickets i ticket hticket with hold | hdated
    · exact (h.tickets i ticket hold).onward hnow hcalled
    · exact hdated.onward hnow hcalled
  · obtain ⟨hid, hdated⟩ := h.sockets e (hsockets e he)
    exact ⟨hupgraded ▸ hid, hdated.onward hnow hcalled⟩

omit [Field τ] [FloorRing τ] in
lemma onward_advance (t : τ) : Onward s (GatewayCommand.run (.advance t) s).1 :=
  onward_of_same (le_max_left s.now t) rfl rfl rfl (fun _ _ h => .inl h) (fun _ he => he) rfl

omit [Field τ] [FloorRing τ] in
lemma onward_setex {ticket : Ticket τ}
    (h : Dated s ticket.userId ticket.mintedAt ticket.issuedAtMs) :
    Onward s (GatewayCommand.run (.setex me ticket) s).1 := by
  refine onward_of_same le_rfl rfl rfl rfl (fun i ticket' hticket => ?_) (fun _ he => he) rfl
  by_cases hi : i = me
  · rw [show (GatewayCommand.run (.setex me ticket) s).1.tickets i = some ticket by
      rw [hi]; exact update_self ..] at hticket
    exact .inr (Option.some.inj hticket ▸ h)
  · rw [show (GatewayCommand.run (.setex me ticket) s).1.tickets i = s.tickets i from
      update_of_ne hi ..] at hticket
    exact .inl hticket

omit [Field τ] [FloorRing τ] in
lemma onward_getdel (issuer : ι) : Onward s (GatewayCommand.run (.getdel issuer) s).1 := by
  refine onward_of_same le_rfl rfl rfl rfl (fun i ticket hticket => ?_) (fun _ he => he) rfl
  by_cases hi : i = issuer
  · rw [show (GatewayCommand.run (.getdel issuer) s).1.tickets i = none by
      rw [hi]; exact update_self ..] at hticket
    cases hticket
  · rw [show (GatewayCommand.run (.getdel issuer) s).1.tickets i = s.tickets i from
      update_of_ne hi ..] at hticket
    exact .inl hticket

omit [Field τ] [FloorRing τ] in
lemma onward_revoke (userId : String) : Onward s (GatewayCommand.run (.revoke userId) s).1 := by
  have hcalled : ∀ r ∈ (userId, s.now) :: s.revoked, r ∈ s.revoked ∨ s.now ≤ r.2 := by
    intro r hr
    rcases mem_cons.1 hr with rfl | hold
    · exact .inr le_rfl
    · exact .inl hold
  refine ⟨fun h => ⟨fun r hr => ?_, h.marked, fun i ticket hticket => ?_, fun e he => ?_⟩, le_rfl,
    fun r hr => mem_cons_of_mem _ hr, hcalled, fun _ hr => hr, fun e he => .inl he,
    fun _ hi => hi⟩
  · rcases mem_cons.1 hr with rfl | hold
    · exact le_rfl
    · exact h.called r hold
  · exact (h.tickets i ticket hticket).onward le_rfl hcalled
  · exact ⟨(h.sockets e he).1, (h.sockets e he).2.onward le_rfl hcalled⟩

omit [Field τ] [FloorRing τ] in
lemma onward_set (h : ∀ t ∈ s.marker userId, t ≤ at_) :
    Onward s (GatewayCommand.run (.set userId at_) s).1 := by
  refine ⟨fun hinv => ⟨hinv.called, fun r hr => ?_, hinv.tickets, hinv.sockets⟩, le_rfl,
    fun _ hr => hr, fun r hr => .inl hr, fun r hr => mem_cons_of_mem _ hr, fun e he => .inl he,
    fun _ hi => hi⟩
  show ∃ t ∈ update s.marker userId (some at_) r.1, r.2 ≤ t
  rcases mem_cons.1 hr with rfl | hold
  · exact ⟨at_, update_self .., le_rfl⟩
  · obtain ⟨t, ht, hle⟩ := hinv.marked r hold
    by_cases huser : r.1 = userId
    · rw [huser] at ht ⊢
      exact ⟨at_, update_self .., hle.trans (h t ht)⟩
    · exact ⟨t, by rwa [update_of_ne huser], hle⟩

omit [Field τ] [FloorRing τ] in
/-- A socket is opened by a call that has opened none. -/
lemma onward_upgrade {e : Socket ι τ} (hnew : e.id ∉ s.upgraded)
    (h : Dated s e.userId e.mintedAt e.establishedAt) :
    Onward s (GatewayCommand.run (.upgrade e) s).1 := by
  refine ⟨fun hinv => ⟨hinv.called, hinv.marked, hinv.tickets, fun e' he' => ?_⟩, le_rfl,
    fun _ hr => hr, fun r hr => .inl hr, fun _ hr => hr, fun e' he' => ?_,
    fun i hi => mem_cons_of_mem _ hi⟩
  · rcases mem_cons.1 he' with rfl | hold
    · exact ⟨mem_cons_self, h⟩
    · exact ⟨mem_cons_of_mem _ (hinv.sockets e' hold).1, (hinv.sockets e' hold).2⟩
  · rcases mem_cons.1 he' with rfl | hold
    · exact .inr hnew
    · exact .inl hold

omit [FloorRing τ] [Field τ] in
lemma onward_close (ids : List ι) : Onward s (GatewayCommand.run (.close ids) s).1 :=
  onward_of_same le_rfl rfl rfl rfl (fun _ _ h => .inl h) (fun _ he => (mem_filter.1 he).1) rfl

omit [FloorRing τ] [Field τ] in
lemma sameFor_run {c : GatewayCommand ι τ} (h : Ready me s c) {i : ι} (hi : i ≠ me) :
    SameFor i s (c.run s).1 := by
  cases c with
  | check j userId =>
    obtain rfl : j = me := h
    exact ⟨update_of_ne hi .., id⟩
  | upgrade e =>
    obtain ⟨rfl, -⟩ := h
    refine ⟨rfl, fun hnot hmem => ?_⟩
    rcases mem_cons.1 hmem with heq | hold
    · exact hi heq
    · exact hnot hold
  | _ => exact ⟨rfl, id⟩

/-- **What a step does**, where it is due. -/
lemma mine_run {c : GatewayCommand ι τ} (hdue : Due s c) (h : Ready me s c) :
    Mine me s (c.run s).1 := by
  refine ⟨?_, fun i hi => sameFor_run h hi⟩
  cases c with
  | advance t => exact onward_advance t
  | setex i ticket => exact onward_setex h
  | getdel issuer => exact onward_getdel issuer
  | upgrade e => exact onward_upgrade h.2.1 h.2.2
  | revoke userId => exact onward_revoke userId
  | set userId at_ => exact onward_set hdue
  | close ids => exact onward_close ids
  | _ => exact onward_of_same le_rfl rfl rfl rfl (fun _ _ h => .inl h) (fun _ he => he) rfl

end Steps

/-! ## The calls -/

section Calls

variable {s : Gateway ι τ} {me : ι} {userId : String} {mintedAt at_ : τ}

abbrev GoesOn (me : ι) (Q : Except GatewayError (Outcome τ) → Gateway ι τ → Prop)
    (m : Call ι τ (Outcome τ)) (s : Gateway ι τ) : Prop :=
  Meets CanDue (fun _ => Others me) (fun _ => Mine me) Q m s

variable {Q : Except GatewayError (Outcome τ) → Gateway ι τ → Prop}

variable {c : GatewayCommand ι τ} {a : Outcome τ} {σ : Socket ι τ}

lemma goesOn_send {f : c.Answer → Call ι τ (Outcome τ)} (J : Gateway ι τ → Prop) (hs : J s)
    (hJ : Stable (Others me) J) (hready : ∀ s, J s → Ready me s c)
    (hnext : ∀ s, J s → Due s c → GoesOn me Q (f (c.run s).2) (c.run s).1) :
    GoesOn me Q (send c >>= f) s := by
  unfold send
  rw [send_bind]
  refine ⟨J, hs, hJ, fun s hs fate ⟨hfate, hdue⟩ => ?_⟩
  rw [hfate]
  exact ⟨mine_run hdue (hready s hs), hnext s hs hdue⟩

lemma goesOn_sendOr {a : c.Answer} {f : c.Answer → Call ι τ (Outcome τ)} (J : Gateway ι τ → Prop)
    (hs : J s) (hJ : Stable (Others me) J) (hready : ∀ s, J s → Ready me s c)
    (hnext : ∀ s, J s → Due s c → GoesOn me Q (f (c.run s).2) (c.run s).1) :
    GoesOn me Q (sendOr (V := gatewayService ι τ) c a >>= f) s := by
  refine Meets.sendOr J hs hJ fun s hs fate ⟨hfate, hdue⟩ => ?_
  rw [hfate]
  exact ⟨mine_run hdue (hready s hs), hnext s hs hdue⟩

lemma goesOn_done (J : Gateway ι τ → Prop) (hs : J s) (hJ : Stable (Others me) J)
    (hQ : ∀ s, J s → Q (.ok a) s) :
    GoesOn me Q (pure a) s := .done J hs hJ hQ

omit [DecidableEq ι] [Field τ] [FloorRing τ] in
lemma stable_inv : Stable (Others me) (StreamInv (ι := ι) (τ := τ)) :=
  fun _ _ henv h => henv.1.inv h

omit [DecidableEq ι] [Field τ] [FloorRing τ] in
lemma stable_dated : Stable (Others me) fun s : Gateway ι τ => Dated s userId mintedAt at_ :=
  fun _ _ henv h => h.onward henv.1.now henv.1.called

omit [DecidableEq ι] [Field τ] [FloorRing τ] in
lemma stable_unopened : Stable (Others me) fun s : Gateway ι τ => me ∉ s.upgraded :=
  fun _ _ henv h => henv.2.2 h

omit [DecidableEq ι] [Field τ] [FloorRing τ] in
lemma stable_seen {P : String × τ → Prop} :
    Stable (Others me) fun s : Gateway ι τ => ∀ r ∈ s.seen me, P r :=
  fun _ _ henv h r hr => h r (henv.2.1 ▸ hr)

omit [DecidableEq ι] [Field τ] [FloorRing τ] in
lemma stable_revoked {r : String × τ} : Stable (Others me) fun s : Gateway ι τ => r ∈ s.revoked :=
  fun _ _ henv h => henv.1.revoked r h

omit [DecidableEq ι] [Field τ] [FloorRing τ] in
lemma stable_true : Stable (Others me) fun _ : Gateway ι τ => True := fun _ _ _ _ => trivial

lemma goesOn_end : GoesOn me (fun _ _ => True) (pure a) s :=
  goesOn_done (fun _ => True) trivial stable_true fun _ _ => trivial

/-! ### Tickets -/

omit [DecidableEq ι] in
lemma AccessToken.iat_le {token : AccessToken τ} {t : τ} [IsStrictOrderedRing τ]
    (h : token.mintedAt < t) : token.iat ≤ ⌊t / 1000⌋ :=
  Int.floor_le_floor (div_le_div_of_nonneg_right h.le (by norm_num))

/-- The ticket is not stamped after a revocation that the token is older than: had it been found,
the token would have been refused. -/
lemma issueTicket_goesOn [IsStrictOrderedRing τ] {token : AccessToken τ} (hinv : StreamInv s)
    (hseen : ∀ r ∈ s.seen me, r.1 = token.userId → ⌊r.2 / 1000⌋ ≤ token.iat) :
    GoesOn me (fun _ _ => True) (issueTicket me token) s := by
  refine goesOn_send (fun s => StreamInv s ∧ ∀ r ∈ s.seen me, r.1 = token.userId →
    ⌊r.2 / 1000⌋ ≤ token.iat) ⟨hinv, hseen⟩ (stable_inv.and stable_seen) (fun _ _ => trivial)
    fun s ⟨hinv, hseen⟩ hdue => ?_
  have hdated : Dated s token.userId token.mintedAt s.now := by
    refine ⟨le_rfl, fun r hr huser hlater => not_lt.1 fun hstamped => ?_⟩
    obtain ⟨hfound, hne⟩ := hdue r hr huser hlater hstamped
    exact hne (le_antisymm (hseen r hfound huser) (AccessToken.iat_le hlater))
  exact goesOn_send (fun s' => StreamInv s' ∧ Dated s' token.userId token.mintedAt s.now)
    ⟨hinv, hdated⟩ (stable_inv.and stable_dated) (fun _ h => h.2) fun _ _ _ => goesOn_end

lemma getWsTicket_goesOn [IsStrictOrderedRing τ] {minter : ι} (h : StreamInv s) :
    GoesOn me (fun _ _ => True) (getWsTicket me minter) s := by
  refine goesOn_send StreamInv h stable_inv (fun _ _ => trivial) fun s h _ => ?_
  dsimp only [GatewayCommand.run]
  cases s.tokens minter with
  | none => exact goesOn_end
  | some token =>
    show GoesOn me _ (sendOr (V := gatewayService ι τ) (.check me token.userId) none >>=
      fun marker : Option τ => if marker.any (fun t => token.iat < ⌊t / 1000⌋) then pure .refused
        else issueTicket me token) s
    refine goesOn_sendOr StreamInv h stable_inv (fun _ _ => rfl) fun s h _ => ?_
    show GoesOn me _ (if (s.marker token.userId).any _ = true then _ else _) _
    split
    · exact goesOn_end
    · rename_i hnot
      refine issueTicket_goesOn ⟨h.called, h.marked, h.tickets, h.sockets⟩ fun r hr huser => ?_
      have hr : r ∈ update s.seen me s.stored me := hr
      rw [update_self] at hr
      obtain ⟨t, ht, hle⟩ := h.marked r hr
      rw [huser, Option.mem_def] at ht
      rw [ht, Option.any_some, decide_eq_true_eq, not_lt] at hnot
      exact (Int.floor_le_floor (div_le_div_of_nonneg_right hle (by norm_num))).trans hnot

/-! ### Sockets -/

lemma redeem_goesOn {ticket : Ticket τ} (h : StreamInv s) (hme : me ∉ s.upgraded)
    (hdated : Dated s ticket.userId ticket.mintedAt ticket.issuedAtMs) :
    GoesOn me (fun _ _ => True) (redeem me ticket) s := by
  show GoesOn me _ (sendOr (V := gatewayService ι τ) (.get ticket.userId) none >>=
    fun marker : Option τ => if marker.any (fun t => ticket.issuedAtMs ≤ t) then pure .refused
      else send (.upgrade ⟨me, ticket.userId, ticket.issuedAtMs, ticket.mintedAt⟩) >>= fun _ =>
        pure .done) s
  refine goesOn_sendOr (fun s => (StreamInv s ∧ me ∉ s.upgraded) ∧
    Dated s ticket.userId ticket.mintedAt ticket.issuedAtMs) ⟨⟨h, hme⟩, hdated⟩
    ((stable_inv.and stable_unopened).and stable_dated) (fun _ _ => trivial) fun s h _ => ?_
  show GoesOn me _ (if (s.marker ticket.userId).any _ = true then _ else _) s
  split
  · exact goesOn_end
  · exact goesOn_send (fun s => (StreamInv s ∧ me ∉ s.upgraded) ∧
      Dated s ticket.userId ticket.mintedAt ticket.issuedAtMs) h
      ((stable_inv.and stable_unopened).and stable_dated) (fun s h => ⟨rfl, h.1.2, h.2⟩)
      fun _ _ _ => goesOn_end

lemma upgrade_goesOn {issuer : ι} (h : StreamInv s) (hme : me ∉ s.upgraded) :
    GoesOn me (fun _ _ => True) (upgrade me issuer) s := by
  refine Meets.attempt (S := fun _ _ => True) ?_ (fun _ _ _ => trivial) fun _ _ _ => goesOn_end
  refine goesOn_send (fun s => StreamInv s ∧ me ∉ s.upgraded) ⟨h, hme⟩
    (stable_inv.and stable_unopened) (fun _ _ => trivial) fun s ⟨h, hme⟩ _ => ?_
  have honward : Onward s (GatewayCommand.run (.getdel issuer) s).1 := onward_getdel issuer
  dsimp only [GatewayCommand.run]
  cases hticket : s.tickets issuer with
  | none => exact goesOn_end
  | some ticket =>
    exact redeem_goesOn (honward.inv h) hme
      ((h.tickets issuer ticket hticket).onward honward.now honward.called)

/-! ### Revocation -/

/-- A revocation that has returned was called, and its marker is set. -/
def Revoked : Except GatewayError (Outcome τ) → Gateway ι τ → Prop
  | .ok (.revoked userId at_), s => (userId, at_) ∈ s.revoked ∧ (userId, at_) ∈ s.stored
  | _, _ => True

lemma markSessionsRevoked_goesOn (userId : String) (h : StreamInv s) :
    GoesOn me Revoked (markSessionsRevoked userId) s := by
  refine goesOn_send StreamInv h stable_inv (fun _ _ => trivial) fun s h _ => ?_
  refine goesOn_sendOr (fun s' => (userId, s.now) ∈ s'.revoked) mem_cons_self stable_revoked
    (fun _ _ => trivial) fun s' hrevoked _ => ?_
  exact goesOn_done (fun s' => (userId, s.now) ∈ s'.revoked ∧ (userId, s.now) ∈ s'.stored)
    ⟨hrevoked, mem_cons_self⟩
    (stable_revoked.and fun _ _ henv h => henv.1.stored _ h) fun _ h => h

/-! ### The sweep -/

omit [DecidableEq ι] [Field τ] [FloorRing τ] [LinearOrder τ] in
lemma markerOf_map {userIds : List String} (marker : String → Option τ) (h : userId ∈ userIds) :
    markerOf userIds (userIds.map marker) userId = marker userId := by
  have hlookup : (userIds.zip (userIds.map marker)).lookup userId = some (marker userId) := by
    induction userIds with
    | nil => cases h
    | cons u userIds ih =>
      rw [map_cons, zip_cons_cons, lookup_cons]
      by_cases heq : userId = u
      · simp [heq]
      · simp [beq_eq_false_iff_ne.2 heq, ih ((mem_cons.1 h).resolve_left heq)]
  rw [markerOf, hlookup, Option.join_some]

/-- A socket that was opened before, with a ticket that is no newer than a revocation of its user.
-/
def Doomed (σ : Socket ι τ) (at_ : τ) (s : Gateway ι τ) : Prop :=
  StreamInv s ∧ σ.id ∈ s.upgraded ∧ (σ.userId, at_) ∈ s.stored

omit [DecidableEq ι] [Field τ] [FloorRing τ] in
lemma stable_doomed {σ : Socket ι τ} : Stable (Others me) (Doomed σ at_) :=
  fun _ _ henv ⟨hinv, hopened, hstored⟩ =>
    ⟨henv.1.inv hinv, henv.1.upgraded _ hopened, henv.1.stored _ hstored⟩

def Closed (σ : Socket ι τ) (s : Gateway ι τ) : Prop := σ.id ∈ s.upgraded ∧ σ ∉ s.subscribers

omit [DecidableEq ι] [Field τ] [FloorRing τ] in
lemma Closed.onward {σ : Socket ι τ} {s' : Gateway ι τ} (honward : Onward s s')
    (h : Closed σ s) : Closed σ s' := by
  refine ⟨honward.upgraded _ h.1, fun hmem => ?_⟩
  rcases honward.sockets σ hmem with hold | hnew
  · exact h.2 hold
  · exact hnew h.1

omit [DecidableEq ι] [Field τ] [FloorRing τ] in
lemma stable_closed {σ : Socket ι τ} : Stable (Others me) (Closed σ) :=
  fun _ _ henv h => h.onward henv.1

lemma sweepEntries_goesOn (maxLifetimeMs : τ) {entries : List (Socket ι τ)}
    (hest : σ.establishedAt ≤ at_) (h : Doomed σ at_ s) (hentry : σ ∈ entries) :
    GoesOn me (fun r s => σ ∉ s.subscribers ∧ ∃ a, r = .ok a)
      (sweepEntries maxLifetimeMs entries) s := by
  have huser : σ.userId ∈ userIdsOf entries := by
    rw [userIdsOf, mem_eraseDups]
    exact mem_map_of_mem hentry
  refine goesOn_send (Doomed σ at_) h stable_doomed (fun _ _ => trivial) fun s h _ => ?_
  obtain ⟨t, ht, hle⟩ := h.1.marked _ h.2.2
  have hmarker : markerOf (userIdsOf entries) ((userIdsOf entries).map s.marker) σ.userId =
      some t := (markerOf_map s.marker huser).trans ht
  refine goesOn_send (Doomed σ at_) h stable_doomed (fun _ _ => trivial) fun s' h _ => ?_
  refine goesOn_send (Doomed σ at_) h stable_doomed (fun _ _ => trivial) fun s'' h _ => ?_
  refine goesOn_done (Closed σ) ⟨h.2.1, fun hmem => ?_⟩ stable_closed fun _ h => ⟨h.2, _, rfl⟩
  obtain ⟨-, hkept⟩ := mem_filter.1 hmem
  rw [decide_eq_true_eq] at hkept
  refine hkept (mem_map_of_mem (mem_filter.2 ⟨hentry, ?_⟩))
  have hmarker' : markerOf (userIdsOf entries) (GatewayCommand.run (.mget (userIdsOf entries)) s).2
      σ.userId = some t := hmarker
  rw [Socket.expired, hmarker', Option.any_some, decide_eq_true (hest.trans hle), Bool.true_or]

/-- A command that any call may send. -/
def Plain (c : GatewayCommand ι τ) : Prop := ∀ me s, Ready me s c

lemma goesOn_plain {m : Call ι τ (Outcome τ)} (hm : m.Sends Plain) (s : Gateway ι τ) :
    GoesOn me (fun _ _ => True) m s := by
  refine hm.meetsWhere (fun c hc s fate hcan => ?_) s
  obtain ⟨rfl, hdue⟩ := hcan
  exact mine_run hdue (hc me s)

omit [FloorRing τ] in
lemma sends_sweepEntries (maxLifetimeMs : τ) (entries : List (Socket ι τ)) :
    ((sweepEntries maxLifetimeMs entries).attempt fun _ => pure .done).Sends Plain := by
  refine Sends.attempt (.bind (.send fun _ _ => trivial) fun markers => .bind
    (.send fun _ _ => trivial) fun now => .bind (.send fun _ _ => trivial) fun _ => trivial)
    fun _ => trivial

omit [FloorRing τ] in
lemma sends_sweep (maxLifetimeMs : τ) :
    (sweep maxLifetimeMs : Call ι τ (Outcome τ)).Sends Plain := by
  refine .bind (.send fun _ _ => trivial) fun entries => ?_
  split
  · trivial
  · exact sends_sweepEntries maxLifetimeMs entries

/-- **A sweep closes what a revocation has ended.** -/
lemma sweep_goesOn (maxLifetimeMs : τ) (hest : σ.establishedAt ≤ at_) (h : Doomed σ at_ s) :
    GoesOn me (fun _ s => σ ∉ s.subscribers) (sweep maxLifetimeMs) s := by
  refine goesOn_send (Doomed σ at_) h stable_doomed (fun _ _ => trivial) fun s h _ => ?_
  show GoesOn me _ (if s.subscribers.isEmpty = true then pure .done else
    (sweepEntries maxLifetimeMs s.subscribers).attempt fun _ => pure .done) s
  by_cases hmem : σ ∈ s.subscribers
  · rw [if_neg (by simpa using ne_nil_of_mem hmem)]
    refine (sweepEntries_goesOn maxLifetimeMs hest h hmem).attempt (fun _ _ h => h.1)
      fun _ _ h => ?_
    obtain ⟨-, a, ha⟩ := h
    cases ha
  · have hrest : GoesOn me (fun _ _ => True) (if s.subscribers.isEmpty = true then pure .done else
        (sweepEntries maxLifetimeMs s.subscribers).attempt fun _ => pure .done) s := by
      refine goesOn_plain ?_ s
      split
      · trivial
      · exact sends_sweepEntries maxLifetimeMs s.subscribers
    exact (hrest.frame (fun _ => stable_closed) (fun _ _ _ hown h => h.onward hown.1)
      ⟨h.2.1, hmem⟩).mono fun _ _ h => h.2.2

/-- What is known when a call has ended: of a revocation, that it is in force. -/
def Ended (event : Event ι τ) : Except GatewayError (Outcome τ) → Gateway ι τ → Prop :=
  match event with
  | .revoke _ => Revoked
  | _ => fun _ _ => True

/-- A call, from its beginning. -/
lemma program_goesOn [IsStrictOrderedRing τ] (maxLifetimeMs : τ) (event : Event ι τ)
    (h : StreamInv s) (hme : me ∉ s.upgraded) :
    GoesOn me (Ended event) (event.program maxLifetimeMs me) s := by
  cases event with
  | advance t =>
    have hsends : (Event.program maxLifetimeMs me (.advance t)).Sends Plain :=
      .bind (.send fun _ _ => trivial) fun _ => trivial
    exact goesOn_plain hsends s
  | mint userId =>
    have hsends : (Event.program maxLifetimeMs me (.mint userId)).Sends Plain :=
      .bind (.send fun _ _ => trivial) fun _ => trivial
    exact goesOn_plain hsends s
  | issue minter => exact getWsTicket_goesOn h
  | redeem issuer => exact upgrade_goesOn h hme
  | revoke userId => exact markSessionsRevoked_goesOn userId h
  | tick => exact goesOn_plain (sends_sweep maxLifetimeMs) s

end Calls

/-! ## The gateway -/

def gatewayPool (maxLifetimeMs start : τ) (events : ι → Event ι τ) :
    Pool ι (gatewayService ι τ) GatewayError (Outcome τ) :=
  ⟨⟨start, fun _ => none, fun _ => none, fun _ => none, [], [], [], [], fun _ => []⟩,
    fun me => (events me).program maxLifetimeMs me⟩

def DueStep (p : Pool ι (gatewayService ι τ) GatewayError (Outcome τ)) (_ : ι)
    (c : GatewayCommand ι τ) (fate : Fate) : Prop := CanDue p.state c fate

/-- **A revoked token holds no stream.**  In any order of the steps of any number of calls, all due:
where a revocation has returned and a socket is open that was obtained through an older token, the
socket is closed when a sweep has ended that begins after both. -/
theorem revoked_streams_close [IsStrictOrderedRing τ] (maxLifetimeMs start : τ)
    (events : ι → Event ι τ) {p p' : Pool ι (gatewayService ι τ) GatewayError (Outcome τ)}
    (hrun : Pool.Run DueStep (gatewayPool maxLifetimeMs start events) p)
    {i k : ι} {userId : String} {at_ : τ} {σ : Socket ι τ} (hrevoke : events i = .revoke userId)
    (hrevoked : (p.thread i).returned = some (.revoked userId at_)) (hσ : σ ∈ p.state.subscribers)
    (huser : σ.userId = userId) (hminted : σ.mintedAt < at_) (htick : events k = .tick)
    (hidle : p.thread k = (gatewayPool maxLifetimeMs start events).thread k)
    (hrest : Pool.Run DueStep p p') (hswept : (p'.thread k).pending = none) :
    σ ∉ p'.state.subscribers := by
  have hcompatible : Pool.Compatible (DueStep (ι := ι) (τ := τ)) (fun _ => CanDue)
      (fun me _ => Others me) (fun me _ => Mine me) :=
    fun _ me _ _ _ _ hfits => ⟨hfits, fun hown j hj => ⟨hown.1, hown.2 j hj⟩⟩
  have hinit : StreamInv (gatewayPool maxLifetimeMs start events).state :=
    { called := fun _ hr => (not_mem_nil hr).elim
      marked := fun _ hr => (not_mem_nil hr).elim
      tickets := fun _ _ h => by cases h
      sockets := fun _ he => (not_mem_nil he).elim }
  have hmeets : (gatewayPool maxLifetimeMs start events).Meets (fun _ => CanDue)
      (fun me _ => Others me) (fun me _ => Mine me) (fun me => Ended (events me)) :=
    fun me => program_goesOn maxLifetimeMs (events me) hinit not_mem_nil
  have hinv : StreamInv p.state :=
    hrun.keeps (I := fun s s' => StreamInv s → StreamInv s') hcompatible hmeets (fun _ => id)
      (fun _ _ _ hfirst hrest => hrest ∘ hfirst) (fun _ _ _ _ hown => hown.1.inv) hinit
  have hp := hrun.meets hcompatible hmeets
  have hended : Ended (events i) (.ok (.revoked userId at_)) p.state :=
    hp.returned (eq_done_of_returned hrevoked)
  rw [hrevoke] at hended
  obtain ⟨hcalled, hstored⟩ := hended
  obtain ⟨hopened, -, hdated⟩ := hinv.sockets σ hσ
  have hest : σ.establishedAt ≤ at_ := hdated _ hcalled huser.symm hminted
  have hdoomed : Doomed σ at_ p.state := ⟨hinv, hopened, huser ▸ hstored⟩
  have hsweep : p.Meets (fun _ => CanDue) (fun me _ => Others me) (fun me _ => Mine me)
      (fun me _ s => me = k → σ ∉ s.subscribers) := by
    intro me
    by_cases hme : me = k
    · subst hme
      have hbegin : GoesOn me (fun _ s => σ ∉ s.subscribers) (p.thread me) p.state := by
        rw [hidle, show (gatewayPool maxLifetimeMs start events).thread me = sweep maxLifetimeMs by
          show (events me).program maxLifetimeMs me = _
          rw [htick]
          rfl]
        exact sweep_goesOn maxLifetimeMs hest hdoomed
      exact hbegin.mono fun _ _ h _ => h
    · exact (hp me).mono fun _ _ _ heq => absurd heq hme
  obtain ⟨_, hclosed⟩ := (hrest.meets hcompatible hsweep).ended hswept
  exact hclosed rfl

instance (s : Gateway ι τ) (c : GatewayCommand ι τ) : Decidable (Due s c) :=
  match c with
  | .stamp me token => inferInstanceAs (Decidable (∀ r ∈ s.revoked, r.1 = token.userId →
      token.mintedAt < r.2 → r.2 < s.now → r ∈ s.seen me ∧ ⌊r.2 / 1000⌋ ≠ token.iat))
  | .set userId at_ => inferInstanceAs (Decidable (∀ t ∈ s.marker userId, t ≤ at_))
  | .advance _ | .mint .. | .token _ | .check .. | .get _ | .setex .. | .getdel _ | .upgrade _
  | .revoke _ | .entries | .mget _ | .dateNow | .close _ => isTrue trivial

instance (p : Pool ι (gatewayService ι τ) GatewayError (Outcome τ)) (i : ι)
    (c : GatewayCommand ι τ) (fate : Fate) : Decidable (DueStep p i c fate) :=
  inferInstanceAs (Decidable (fate = .ok ∧ Due p.state c))

def loginAndLogout (logoutAt ticketAt : ℚ) : Fin 7 → Event (Fin 7) ℚ
  | 0 => .mint "u1"
  | 1 => .issue 0
  | 2 => .redeem 1
  | 3 => .advance logoutAt
  | 4 => .revoke "u1"
  | 5 => .advance ticketAt
  | 6 => .tick

def streamPool (logoutAt ticketAt : ℚ) :
    Pool (Fin 7) (gatewayService (Fin 7) ℚ) GatewayError (Outcome ℚ) :=
  gatewayPool 14400000 1200 (loginAndLogout logoutAt ticketAt)

def oneAfterAnother (calls : List (Fin 7)) : List (Fin 7 × Fate) :=
  calls.flatMap fun i => replicate 4 (i, .ok)

/-- The socket is open when the logout comes. -/
theorem revoked_streams_close_logout :
    ((streamPool 2500 0).exec (oneAfterAnother [0, 1, 2, 3, 4])).state.subscribers =
        [⟨2, "u1", 1200, 1200⟩] ∧
      ⟨2, "u1", 1200, 1200⟩ ∉ (((streamPool 2500 0).exec (oneAfterAnother [0, 1, 2, 3, 4])).exec
        (oneAfterAnother [6])).state.subscribers := by
  have hopen : ((streamPool 2500 0).exec (oneAfterAnother [0, 1, 2, 3, 4])).state.subscribers =
      [⟨2, "u1", 1200, 1200⟩] := by decide +kernel
  have hrevoked : (((streamPool 2500 0).exec (oneAfterAnother [0, 1, 2, 3, 4])).thread 4).returned =
      some (.revoked "u1" 2500) := by decide +kernel
  refine ⟨hopen, ?_⟩
  exact revoked_streams_close (i := 4) (k := 6) 14400000 1200 (loginAndLogout 2500 0)
    (Pool.run_exec_of_isSome (oneAfterAnother [0, 1, 2, 3, 4]) _ (by decide +kernel)) rfl hrevoked
    (hopen ▸ mem_singleton_self _) rfl (by norm_num) rfl (Pool.thread_exec _ (by decide) _)
    (Pool.run_exec_of_isSome (oneAfterAnother [6]) _ (by decide +kernel)) (by decide +kernel)

/-- A ticket is asked for after the logout, with a token of the same second. -/
theorem stream_outlives_token :
    ∃ p p' : Pool (Fin 7) (gatewayService (Fin 7) ℚ) GatewayError (Outcome ℚ),
      Pool.Run (fun _ _ _ fate => fate = .ok) (streamPool 1500 1600) p ∧
      (p.thread 4).returned = some (.revoked "u1" 1500) ∧
      p.state.subscribers = [⟨2, "u1", 1600, 1200⟩] ∧
      p.thread 6 = (streamPool 1500 1600).thread 6 ∧
      Pool.Run (fun _ _ _ fate => fate = .ok) p p' ∧ (p'.thread 6).returned = some .done ∧
      p'.state.subscribers = [⟨2, "u1", 1600, 1200⟩] :=
  ⟨_, _, Pool.run_exec (oneAfterAnother [0, 3, 4, 5, 1, 2]) (by decide) _, by decide +kernel,
    by decide +kernel, Pool.thread_exec _ (by decide) _,
    Pool.run_exec (oneAfterAnother [6]) (by decide) _, by decide +kernel, by decide +kernel⟩

end Orbetra.Streams
