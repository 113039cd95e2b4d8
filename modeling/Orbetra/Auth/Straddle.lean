import Orbetra.Auth.Password

/-!
# Sessions of an old password

A login reads the hash of its user and opens its session later; in between the password may be
written and the tokens of the user revoked.

A session that was opened with the old hash is dead once the reset or the change has been answered
if the login inserted its token before the revocation that follows the write (`old_sessions_dead`);
nothing in the code sees to that (`straddling_login`). -/

namespace Orbetra.Passwords

open List Async

open Login (LoginStore LoginCommand AuthUserRow)

variable {ι : Type} [DecidableEq ι]

/-! ## What every command keeps -/

variable {s s' : SessionStore ι} {userId oldHash : String} {new : ι → NewSession}

/-- No session that was opened with the hash is alive, once the tokens of the user have been revoked
after its password was written. -/
structure Kept (userId oldHash : String) (s : SessionStore ι) : Prop where
  known : ∀ o ∈ s.opened, o.tokenHash ∈ s.tokens.tokens.map (·.tokenHash)
  owner : ∀ o ∈ s.opened, ∀ row ∈ s.tokens.tokens, row.tokenHash = o.tokenHash →
    row.userId = o.userId
  dead : userId ∈ s.closed → ∀ o ∈ s.opened, o.userId = userId → o.passwordHash = oldHash →
    ∀ row ∈ s.tokens.tokens, row.tokenHash = o.tokenHash → row.revokedAt ≠ none

/-- What fits: all stores succeed, and a login that has read the hash opens its session before the
tokens of the user are revoked after the password was written. -/
def Fits (userId oldHash : String) (s : SessionStore ι) (c : SessionCommand ι) (fate : Fate) :
    Prop :=
  fate = .ok ∧
    match c with
    | .login me (.issueSession userId') => userId' = userId → userId ∈ s.closed →
        ∀ user ∈ s.candidates me, user.id = userId → user.passwordHash ≠ oldHash
    | _ => True

def OldToken : AuthWrite → Prop
  | .create _ => False
  | _ => True

lemma writes_sweepTokens (now : Ms) (tokenHashes : List String) :
    (sweepTokens userId now tokenHashes).Writes OldToken := by
  induction tokenHashes with
  | nil => trivial
  | cons tokenHash rest ih =>
    intro s
    show Tx.Writes OldToken (ite _ _ _)
    split
    · exact ⟨trivial, ih⟩
    · exact ih

lemma writes_sweepFamily (familyId : String) (now : Ms) (tokenHashes : List String) :
    (sweepFamily familyId now tokenHashes).Writes OldToken := by
  induction tokenHashes with
  | nil => trivial
  | cons tokenHash rest ih =>
    intro s
    show Tx.Writes OldToken (ite _ _ _)
    split
    · exact ⟨trivial, ih⟩
    · exact ih

lemma writes_revokeFamily (familyId : String) (now : Ms) :
    (Orbetra.revokeFamily familyId now).Writes OldToken :=
  fun _ => writes_sweepFamily familyId now _

lemma writes_revokeAllForUser (now : Ms) : (Orbetra.revokeAllForUser userId now).Writes OldToken :=
  ⟨trivial, fun _ => writes_sweepTokens now _⟩

/-- A transaction that creates no token adds none of any kind. -/
lemma noMore_atOnce {ρ : Type} {m : Tx AuthLock AuthWrite AuthTable ρ} (hm : m.Writes OldToken)
    {P : TokenRow → Prop} (hP : Lasting P) (tokens : AuthTable) :
    NoMore P tokens (atOnce m tokens) := by
  unfold atOnce
  split
  · rename_i r buffer hexec
    refine noMore_view hP fun w hw => ?_
    have hold := hm.exec (fun _ hw => (not_mem_nil hw).elim) hexec w hw
    cases w with
    | create row => exact hold.elim
    | rotated tokenHash now => trivial
    | revoked tokenHash now => trivial
    | epoch userId now => trivial
  · exact .refl P tokens

lemma sweepTokens_revokes {now : Ms} {tokens : AuthTable} {tokenHashes : List String}
    {buffer buffer' : List AuthWrite} {r : Option Rotated}
    (hleft : ∀ row ∈ (TxPool.view AuthTable.apply tokens buffer).tokens, row.userId = userId →
      row.revokedAt ≠ none ∨ row.tokenHash ∈ tokenHashes)
    (hexec : (sweepTokens userId now tokenHashes).exec AuthTable.apply tokens buffer =
      some (r, buffer')) :
    ∀ row ∈ (TxPool.view AuthTable.apply tokens buffer').tokens, row.userId = userId →
      row.revokedAt ≠ none := by
  induction tokenHashes generalizing buffer with
  | nil =>
    cases hexec
    exact fun row hrow hin => (hleft row hrow hin).resolve_right not_mem_nil
  | cons tokenHash rest ih =>
    simp only [sweepTokens, Tx.exec] at hexec
    split at hexec
    · refine @ih (buffer ++ [.revoked tokenHash now]) ?_ hexec
      rw [view_append]
      intro row hrow hin
      obtain ⟨old, hold, rfl⟩ := mem_map.1 hrow
      split
      · exact .inl (Option.some_ne_none _)
      · rename_i hne
        rw [if_neg hne] at hin
        exact (hleft old hold hin).imp id fun hmem => mem_of_ne_of_mem hne hmem
    · rename_i hskip
      refine ih (fun row hrow hin => ?_) hexec
      rcases hleft row hrow hin with hrevoked | hmem
      · exact .inl hrevoked
      · rcases mem_cons.1 hmem with hhash | hmem
        · refine .inl fun hnone => hskip ?_
          rw [AuthTable.find_eq_some.2 ⟨hrow, hhash⟩]
          simpa using ⟨hin, hnone⟩
        · exact .inr hmem

lemma sweepTokens_commits (userId : String) (now : Ms) (tokens : AuthTable)
    (tokenHashes : List String) (buffer : List AuthWrite) : ∃ r buffer',
      (sweepTokens userId now tokenHashes).exec AuthTable.apply tokens buffer =
        some (r, buffer') := by
  induction tokenHashes generalizing buffer with
  | nil => exact ⟨none, buffer, rfl⟩
  | cons tokenHash rest ih =>
    simp only [sweepTokens, Tx.exec]
    split
    · exact ih _
    · exact ih _

lemma revokeAllForUser_revokes (now : Ms) (tokens : AuthTable) :
    ∀ row ∈ (atOnce (Orbetra.revokeAllForUser userId now) tokens).tokens, row.userId = userId →
      row.revokedAt ≠ none := by
  have hstart : ∀ row ∈ (TxPool.view AuthTable.apply tokens [.epoch userId now]).tokens,
      row.userId = userId → row.revokedAt ≠ none ∨ row.tokenHash ∈
        ((tokens.tokens.filter fun row => row.userId = userId ∧ row.revokedAt = none).map
          (·.tokenHash)) := fun row hrow hin => by
    by_cases hrevoked : row.revokedAt = none
    · refine .inr (mem_map.2 ⟨row, mem_filter.2 ⟨hrow, ?_⟩, rfl⟩)
      simpa using ⟨hin, hrevoked⟩
    · exact .inl hrevoked
  obtain ⟨r, buffer, hexec⟩ := sweepTokens_commits userId now tokens
    ((tokens.tokens.filter fun row => row.userId = userId ∧ row.revokedAt = none).map
      (·.tokenHash)) [.epoch userId now]
  have hrun : (Orbetra.revokeAllForUser userId now).exec AuthTable.apply tokens [] =
      some (r, buffer) := hexec
  unfold atOnce
  rw [hrun]
  exact sweepTokens_revokes hstart hexec

omit [DecidableEq ι] in
lemma Kept.noMore (h : Kept userId oldHash s) (hopened : s'.opened = s.opened)
    (hno : ∀ P : TokenRow → Prop, Lasting P → NoMore P s.tokens s'.tokens)
    (hdead : userId ∈ s'.closed → userId ∈ s.closed ∨
      ∀ row ∈ s'.tokens.tokens, row.userId = userId → row.revokedAt ≠ none) :
    Kept userId oldHash s' := by
  have howner : ∀ o ∈ s'.opened, ∀ row ∈ s'.tokens.tokens, row.tokenHash = o.tokenHash →
      row.userId = o.userId := by
    intro o ho row' hrow' hhash
    rw [hopened] at ho
    obtain ⟨row, hrow, hsame, huser, -⟩ :=
      (hno (fun row => row.userId = row'.userId) fun _ _ _ hin => hin).rows row' hrow' rfl
    exact huser.symm.trans (h.owner o ho row hrow (hsame.trans hhash))
  refine ⟨fun o ho => ?_, howner, fun hclosed o ho huser hold row' hrow' hhash => ?_⟩
  · rw [hopened] at ho
    obtain ⟨row, hrow, hhash⟩ := mem_map.1 (h.known o ho)
    exact hhash ▸ (hno (fun _ => True) fun _ _ _ _ => trivial).hashes row hrow
  · rcases hdead hclosed with hbefore | hall
    · obtain ⟨row, hrow, hsame, -, hrevoked⟩ :=
        (hno (fun _ => True) fun _ _ _ _ => trivial).rows row' hrow' trivial
      rw [hopened] at ho
      exact hrevoked (h.dead hbefore o ho huser hold row hrow (hsame.trans hhash))
    · exact hall row' hrow' ((howner o ho row' hrow' hhash).trans huser)

omit [DecidableEq ι] in
lemma Kept.congr (h : Kept userId oldHash s) (hopened : s'.opened = s.opened)
    (htokens : s'.tokens = s.tokens) (hclosed : s'.closed = s.closed) : Kept userId oldHash s' :=
  h.noMore hopened (fun P _ => htokens ▸ NoMore.refl P s.tokens) fun hmem => .inl (hclosed ▸ hmem)

omit [DecidableEq ι] in
lemma Kept.openSession (h : Kept userId oldHash s) (me : ι) (row : TokenRow)
    (hfits : row.userId = userId → userId ∈ s.closed →
      ∀ user ∈ s.candidates me, user.id = userId → user.passwordHash ≠ oldHash) :
    Kept userId oldHash (s.openSession me row) := by
  unfold SessionStore.openSession
  split
  · exact h
  · rename_i hfree
    have htokens : (s.tokens.apply (.create row)).tokens = row :: s.tokens.tokens :=
      AuthTable.tokens_create hfree
    have hold : ∀ o ∈ s.opened, row.tokenHash ≠ o.tokenHash := fun o ho heq =>
      hfree (heq ▸ h.known o ho)
    have hnew : ∀ row' ∈ s.tokens.tokens, row'.tokenHash ≠ row.tokenHash := fun row' hrow' heq =>
      hfree (heq ▸ mem_map_of_mem hrow')
    constructor
    · intro o ho
      rw [htokens, map_cons]
      rcases mem_append.1 ho with hin | hin
      · exact mem_cons_of_mem _ (h.known o hin)
      · obtain ⟨user, -, rfl⟩ := mem_map.1 hin
        exact mem_cons_self
    · intro o ho row' hrow' hhash
      rw [htokens] at hrow'
      rcases mem_append.1 ho with hin | hin
      · rcases mem_cons.1 hrow' with rfl | hrow'
        · exact absurd hhash (hold o hin)
        · exact h.owner o hin row' hrow' hhash
      · obtain ⟨user, -, rfl⟩ := mem_map.1 hin
        rcases mem_cons.1 hrow' with rfl | hrow'
        · rfl
        · exact absurd hhash (hnew row' hrow')
    · intro hclosed o ho huser hhashed row' hrow' hhash
      rw [htokens] at hrow'
      rcases mem_append.1 ho with hin | hin
      · rcases mem_cons.1 hrow' with rfl | hrow'
        · exact absurd hhash (hold o hin)
        · exact h.dead hclosed o hin huser hhashed row' hrow' hhash
      · obtain ⟨user, hread, rfl⟩ := mem_map.1 hin
        obtain ⟨hcandidate, hid⟩ := mem_filter.1 hread
        exact absurd hhashed
          (hfits huser hclosed user hcandidate ((of_decide_eq_true hid).trans huser))

lemma Kept.run (h : Kept userId oldHash s) {c : SessionCommand ι}
    (hfits : Fits userId oldHash s c .ok) : Kept userId oldHash (c.run new s).1 := by
  cases c with
  | login me c =>
    have hbefore (store : LoginStore ι) : Kept userId oldHash { s with login := store } :=
      h.congr rfl rfl rfl
    cases c with
    | issueSession userId' => exact (hbefore _).openSession me ((new me).row userId') hfits.2
    | findByEmailAllTenants email => exact h.congr rfl rfl rfl
    | _ => exact hbefore _
  | hashPassword => exact h
  | consume tokenHash now =>
    show Kept userId oldHash (s.consume tokenHash now).1
    unfold SessionStore.consume
    split
    · exact h
    · split
      · exact h.congr rfl rfl rfl
      · exact h
  | findByIdForAuth userId' => exact h
  | setPassword userId' passwordHash => exact h.congr rfl rfl rfl
  | revokeAllForUser userId' now =>
    refine h.noMore rfl
      (fun P hP => noMore_atOnce (writes_revokeAllForUser now) hP s.tokens) fun hclosed => ?_
    have hclosed : userId ∈ ite _ _ _ := hclosed
    split at hclosed
    · rcases mem_cons.1 hclosed with rfl | hbefore
      · exact .inr (revokeAllForUser_revokes now s.tokens)
      · exact .inl hbefore
    · exact .inl hclosed
  | findByTokenHash tokenHash => exact h
  | revokeFamily familyId now =>
    exact h.noMore rfl (fun P hP => noMore_atOnce (writes_revokeFamily familyId now) hP s.tokens)
      .inl
  | markSessionsRevoked userId' => exact h
  | invalidateAllForUser userId' now => exact h.congr rfl rfl rfl

/-! ## The requests that replace a password -/

/-- What was written stays written, and what was closed stays closed. -/
def Grown (s s' : SessionStore ι) : Prop :=
  (∀ userId ∈ s.written, userId ∈ s'.written) ∧ ∀ userId ∈ s.closed, userId ∈ s'.closed

omit [DecidableEq ι] in
lemma Grown.refl (s : SessionStore ι) : Grown s s := ⟨fun _ => id, fun _ => id⟩

omit [DecidableEq ι] in
lemma grown_openSession (s : SessionStore ι) (me : ι) (row : TokenRow) :
    Grown s (s.openSession me row) := by
  unfold SessionStore.openSession
  split <;> exact ⟨fun _ => id, fun _ => id⟩

lemma grown_run (c : SessionCommand ι) (s : SessionStore ι) : Grown s (c.run new s).1 := by
  cases c with
  | login me c =>
    cases c with
    | issueSession userId =>
      obtain ⟨hwritten, hclosed⟩ := grown_openSession
        { s with login := (LoginCommand.run (.issueSession userId) s.login).1 } me
        ((new me).row userId)
      exact ⟨hwritten, hclosed⟩
    | _ => exact ⟨fun _ => id, fun _ => id⟩
  | consume tokenHash now =>
    show Grown s (s.consume tokenHash now).1
    unfold SessionStore.consume
    split
    · exact .refl s
    · split <;> exact ⟨fun _ => id, fun _ => id⟩
  | setPassword userId passwordHash => exact ⟨fun _ => mem_cons_of_mem _, fun _ => id⟩
  | revokeAllForUser userId now =>
    refine ⟨fun _ => id, fun userId' hmem => ?_⟩
    show userId' ∈ ite _ _ _
    split
    · exact mem_cons_of_mem _ hmem
    · exact hmem
  | hashPassword => exact .refl s
  | findByIdForAuth userId => exact .refl s
  | findByTokenHash tokenHash => exact .refl s
  | revokeFamily familyId now => exact ⟨fun _ => id, fun _ => id⟩
  | markSessionsRevoked userId => exact .refl s
  | invalidateAllForUser userId now => exact ⟨fun _ => id, fun _ => id⟩

section Ends

variable {α β : Type} {Q : α → SessionStore ι → Prop} {R : β → SessionStore ι → Prop}

/-- Where all stores succeed, the route returns in `Q`, whatever the others do. -/
abbrev Ends (Q : α → SessionStore ι → Prop) (m : Route new α) (s : SessionStore ι) : Prop :=
  m.Meets (fun _ _ fate => fate = .ok) (fun _ => Grown) (fun _ => Grown) (Returning Q) s

lemma Ends.any (m : Route new α) (s : SessionStore ι) : Ends (fun _ _ => True) m s := by
  refine ((sends_any m).meets (fun c _ s fate => ?_) s).mono fun r s _ => ?_
  · cases fate with
    | ok => exact grown_run c s
    | refused => exact .refl s
    | lost => exact grown_run c s
  · cases r <;> trivial

lemma Ends.send {c : SessionCommand ι} {f : c.Answer → Route new α}
    (J : SessionStore ι → Prop) (hs : J s) (hJ : ∀ s s', Grown s s' → J s → J s')
    (h : ∀ s, J s → Ends Q (f (c.run new s).2) (c.run new s).1) :
    Ends Q (Passwords.send c >>= f) s :=
  Meets.sendOk J hs hJ (fun _ _ hfate => hfate) fun s hs => ⟨grown_run c s, h s hs⟩

lemma Ends.bind {m : Route new α} {f : α → Route new β} (hm : Ends Q m s)
    (h : ∀ a s, Q a s → Ends R (f a) s) : Ends R (m >>= f) s :=
  Meets.bind hm h fun _ _ _ => trivial

lemma Ends.pure (a : α) (J : SessionStore ι → Prop) (hs : J s)
    (hJ : ∀ s s', Grown s s' → J s → J s') (h : ∀ s, J s → Q a s) :
    Ends Q (.done a : Route new α) s := .done J hs hJ h

lemma Ends.threw (e : Login.LoginError) (s : SessionStore ι) : Ends Q (.threw e : Route new α) s :=
  Meets.threw (fun _ => True) trivial (fun _ _ _ _ => trivial) fun _ _ => trivial

end Ends

/-- The tokens of the user have been revoked since the password was written. -/
def Closes (r : Reply) (s : SessionStore ι) : Prop :=
  ∀ userId, r = .changed userId → userId ∈ s.closed

omit [DecidableEq ι] in
lemma closed_grown {s s' : SessionStore ι} (h : Grown s s') (hs : userId ∈ s.closed) :
    userId ∈ s'.closed := h.2 userId hs

lemma ends_reply {r : Reply} (hr : ∀ userId, r ≠ .changed userId) :
    Ends Closes (.done r : Route new Reply) s :=
  .pure r (fun _ => True) trivial (fun _ _ _ _ => trivial) fun _ _ userId heq =>
    absurd heq (hr userId)

/-- The revocation that follows the write. -/
lemma ends_revokeAllUserSessions (fallbackFamilyId : Option String) (now : Ms)
    (hs : userId ∈ s.written) :
    Ends (fun _ s => userId ∈ s.closed)
      (revokeAllUserSessions userId fallbackFamilyId now : Route new Unit) s := by
  refine ⟨fun s => userId ∈ s.written, hs, fun _ _ hgrown => hgrown.1 userId,
    fun s hs fate hfate => ?_⟩
  obtain rfl : fate = .ok := hfate
  have hclosed : userId ∈ (s.revokeAll userId now).closed := by
    show userId ∈ ite _ _ _
    rw [if_pos hs]
    exact mem_cons_self
  refine ⟨@grown_run _ _ new (.revokeAllForUser userId now) s, ?_⟩
  cases fallbackFamilyId with
  | none =>
    exact Ends.pure () (fun s => userId ∈ s.closed) hclosed (fun _ _ => closed_grown) fun _ => id
  | some familyId =>
    refine ⟨fun s => userId ∈ s.closed, hclosed, fun _ _ => closed_grown, fun s hs fate hfate => ?_⟩
    obtain rfl : fate = .ok := hfate
    exact ⟨@grown_run _ _ new (.revokeFamily familyId now) s,
      Ends.pure () (fun s => userId ∈ s.closed) hs (fun _ _ => closed_grown) fun _ => id⟩

/-- What the routes do after the last revocation. -/
lemma ends_changed (hs : userId ∈ s.closed) :
    Ends Closes (.done (.changed userId) : Route new Reply) s :=
  .pure _ (fun s => userId ∈ s.closed) hs (fun _ _ => closed_grown) fun _ hs _ heq =>
    Reply.changed.inj heq ▸ hs

lemma ends_replacePassword (request : ResetRequest) (s : SessionStore ι) :
    Ends Closes (replacePassword request userId : Route new Reply) s := by
  refine (Ends.any (revokeAllUserSessions userId none (request.clock 1)) s).bind fun _ s _ => ?_
  refine .send (fun _ => True) trivial (fun _ _ _ _ => trivial) fun s _ => ?_
  refine (ends_revokeAllUserSessions none (request.clock 2) mem_cons_self).bind fun _ s hs => ?_
  refine .send (fun s => userId ∈ s.closed) hs (fun _ _ => closed_grown) fun s hs => ?_
  refine .send (fun s => userId ∈ s.closed) hs (fun _ _ => closed_grown) fun s hs => ?_
  exact ends_changed hs

lemma ends_resetPassword (sha256 : String → String) (request : ResetRequest) (s : SessionStore ι) :
    Ends Closes (resetPassword sha256 request : Route new Reply) s := by
  unfold resetPassword
  split
  · exact ends_reply fun _ h => by cases h
  split
  · exact ends_reply fun _ h => by cases h
  split
  · exact ends_reply fun _ h => by cases h
  refine (Ends.any hashPassword s).bind fun _ s _ => ?_
  refine .send (fun _ => True) trivial (fun _ _ _ _ => trivial) fun s _ => ?_
  split
  · exact ends_reply fun _ h => by cases h
  refine .send (fun _ => True) trivial (fun _ _ _ _ => trivial) fun s _ => ?_
  split
  · exact ends_reply fun _ h => by cases h
  · exact ends_replacePassword request _

lemma ends_currentFamily (sha256 : String → String) (cookie : Option String)
    (hs : userId ∈ s.written) :
    Ends (fun _ s => userId ∈ s.written)
      (currentFamily sha256 cookie : Route new (Option String)) s := by
  have hstable : ∀ s s' : SessionStore ι, Grown s s' → userId ∈ s.written → userId ∈ s'.written :=
    fun _ _ hgrown => hgrown.1 userId
  unfold currentFamily
  split
  · exact .pure none _ hs hstable fun _ => id
  · exact .send _ hs hstable fun s hs => .pure _ _ hs hstable fun _ => id

lemma ends_writePassword (sha256 : String → String) (request : ChangeRequest)
    (s : SessionStore ι) :
    Ends Closes (writePassword sha256 request userId : Route new Reply) s := by
  refine (Ends.any hashPassword s).bind fun _ s _ => ?_
  refine .send (fun _ => True) trivial (fun _ _ _ _ => trivial) fun s _ => ?_
  refine (ends_currentFamily sha256 request.cookie mem_cons_self).bind fun family s hs => ?_
  refine (ends_revokeAllUserSessions family request.now hs).bind fun _ s hs => ?_
  refine .send (fun s => userId ∈ s.closed) hs (fun _ _ => closed_grown) fun s hs => ?_
  exact ends_changed hs

lemma ends_changePassword (config : Login.LoginConfig) (sha256 : String → String) (me : ι)
    (request : ChangeRequest) (s : SessionStore ι) :
    Ends Closes (changePassword config sha256 me request : Route new Reply) s := by
  unfold changePassword
  split
  · exact ends_reply fun _ h => by cases h
  split
  · exact ends_reply fun _ h => by cases h
  split
  · exact ends_reply fun _ h => by cases h
  refine .send (fun _ => True) trivial (fun _ _ _ _ => trivial) fun s _ => ?_
  split
  · exact ends_reply fun _ h => by cases h
  refine .send (fun _ => True) trivial (fun _ _ _ _ => trivial) fun s _ => ?_
  split
  · exact .threw _ _
  split
  · exact ends_writePassword sha256 request _
  · exact ends_reply fun _ h => by cases h

lemma ends_program (config : Login.LoginConfig) (sha256 : String → String) (me : ι)
    (call : SessionCall) (s : SessionStore ι) :
    Ends Closes (call.program config sha256 new me) s := by
  cases call with
  | login call =>
    refine (Ends.any _ s).bind fun answer s _ => ?_
    exact ends_reply fun _ h => by cases h
  | reset request => exact ends_resetPassword sha256 request s
  | change request => exact ends_changePassword config sha256 me request s

/-! ## Any number of requests -/

/-- The requests before their first step. -/
def sessionPool (config : Login.LoginConfig) (sha256 : String → String) (new : ι → NewSession)
    (calls : ι → SessionCall) (s : SessionStore ι) :
    Pool ι (sessionService new) Login.LoginError Reply :=
  ⟨s, fun i => (calls i).program config sha256 new i⟩

abbrev StepFits (userId oldHash : String) (new : ι → NewSession)
    (p : Pool ι (sessionService new) Login.LoginError Reply) (_ : ι) (c : SessionCommand ι)
    (fate : Fate) : Prop := Fits userId oldHash p.state c fate

lemma Kept.pool {p p' : Pool ι (sessionService new) Login.LoginError Reply}
    (h : Kept userId oldHash p.state) (hrun : Pool.Run (StepFits userId oldHash new) p p') :
    Kept userId oldHash p'.state := by
  induction hrun with
  | refl => exact h
  | step _ hstep hfits ih =>
    obtain ⟨k, -, rfl⟩ := hstep
    obtain rfl := hfits.1
    exact ih.run hfits

/-- **No session outlives its password**, of any number of logins, resets and changes in any order
of their steps, where every login that has read the old hash opens its session before the user's
tokens are revoked after the write: once a reset or a change has been answered, no token of a login
that had read the old hash is usable. -/
theorem old_sessions_dead (config : Login.LoginConfig) (sha256 : String → String)
    (calls : ι → SessionCall) {s : SessionStore ι} (userId oldHash : String)
    {p : Pool ι (sessionService new) Login.LoginError Reply} {i : ι}
    (hopened : s.opened = []) (hclosed : s.closed = [])
    (hrun : Pool.Run (StepFits userId oldHash new) (sessionPool config sha256 new calls s) p)
    (hi : p.thread i = .done (.changed userId)) :
    ∀ o ∈ p.state.opened, o.userId = userId → o.passwordHash = oldHash →
      ∀ row ∈ p.state.tokens.tokens, row.tokenHash = o.tokenHash → ¬ row.Usable p.state.tokens := by
  have hstart : Kept userId oldHash s := by
    refine ⟨fun o ho => ?_, fun o ho => ?_, fun hmem => ?_⟩
    · rw [hopened] at ho
      cases ho
    · rw [hopened] at ho
      cases ho
    · rw [hclosed] at hmem
      cases hmem
  have hcompatible : Pool.Compatible (StepFits userId oldHash new) (fun _ _ _ fate => fate = .ok)
      (fun _ _ => Grown) (fun _ _ => Grown) :=
    fun _ _ _ _ _ _ hfits => ⟨hfits.1, fun hown _ _ => hown⟩
  have hmeets : (sessionPool config sha256 new calls s).Meets (fun _ _ _ fate => fate = .ok)
      (fun _ _ => Grown) (fun _ _ => Grown) fun _ => Returning Closes := fun j =>
    ends_program config sha256 j (calls j) s
  have hended : userId ∈ p.state.closed := (hrun.meets hcompatible hmeets).returned hi userId rfl
  intro o ho huser hhash row hrow hsame husable
  exact (hstart.pool hrun).dead hended o ho huser hhash row hrow hsame husable.1

/-! ## A login that straddles the reset -/

instance (userId oldHash : String) (s : SessionStore ι) (c : SessionCommand ι) (fate : Fate) :
    Decidable (Fits userId oldHash s c fate) :=
  match c with
  | .login me (.issueSession userId') => inferInstanceAs (Decidable (fate = .ok ∧
      (userId' = userId → userId ∈ s.closed →
        ∀ user ∈ s.candidates me, user.id = userId → user.passwordHash ≠ oldHash)))
  | .login _ (.get ..) | .login _ (.pfcount ..) | .login _ (.isKnownGood ..)
  | .login _ (.admitScript ..) | .login _ (.lockout ..) | .login _ (.decay ..)
  | .login _ (.failSource ..) | .login _ (.ttl ..) | .login _ (.del ..)
  | .login _ (.setKnownGood ..) | .login _ (.findByEmailAllTenants ..) | .login _ (.verify ..)
  | .login _ (.wait ..) | .login _ (.saturate ..) | .hashPassword | .consume .. | .findByIdForAuth _
  | .setPassword .. | .revokeAllForUser .. | .findByTokenHash _ | .revokeFamily ..
  | .markSessionsRevoked _ | .invalidateAllForUser .. =>
    inferInstanceAs (Decidable (fate = .ok ∧ True))

/-- A hash that shows its password. -/
def plainConfig : Login.LoginConfig :=
  ⟨⟨5, 900, none, none, none⟩, id, fun hash password => hash = "argon2:" ++ password⟩

def oldUser : AuthUserRow := ⟨"u1", "t1", "a@example.test", "argon2:old", none, some 0⟩

/-- A user with a link to reset the password. -/
def linkSent : SessionStore Bool where
  login := ⟨fun _ => none, fun _ => none, fun _ => none, [oldUser], [], false, 0, []⟩
  tokens := ⟨[], fun _ => none, nodup_nil⟩
  resets := [⟨"link", "u1", none, 3600⟩]
  candidates _ := []
  opened := []
  written := []
  closed := []

/-- A login with the old password, and the reset. -/
def straddle : Bool → SessionCall
  | false => .login (.login ⟨true, "192.0.2.1", some ("a@example.test", "old")⟩)
  | true => .reset ⟨true, 1, some ("link", "new"), "argon2:new", fun n => 10 + n⟩

def firstToken (_ : Bool) : NewSession := ⟨"s1", "f1", "h1", 1000, 20⟩

/-- The login has read the old hash when the password is written, and opens its session before the
second revocation. -/
def revokedAfter : List (Bool × Fate) :=
  (replicate 8 false ++ replicate 5 true ++ replicate 4 false ++ replicate 3 true).map (·, .ok)

theorem old_sessions_dead_revokedAfter :
    ((sessionPool plainConfig id firstToken straddle linkSent).exec
        revokedAfter).state.opened ≠ [] ∧
    ∀ o ∈ ((sessionPool plainConfig id firstToken straddle linkSent).exec
        revokedAfter).state.opened, o.userId = "u1" → o.passwordHash = "argon2:old" →
      ∀ row ∈ ((sessionPool plainConfig id firstToken straddle linkSent).exec
          revokedAfter).state.tokens.tokens, row.tokenHash = o.tokenHash →
        ¬ row.Usable ((sessionPool plainConfig id firstToken straddle linkSent).exec
          revokedAfter).state.tokens :=
  ⟨ne_nil_of_length_pos (by decide +kernel),
    old_sessions_dead (i := true) plainConfig id straddle "u1" "argon2:old" rfl rfl
      (Pool.run_exec_of_isSome revokedAfter _ (by decide +kernel))
      (eq_done_of_returned (by decide +kernel))⟩

/-- The login opens its session after the second revocation. -/
def openedAfter : List (Bool × Fate) :=
  (replicate 8 false ++ replicate 8 true ++ replicate 4 false).map (·, .ok)

/-- The reset is answered, and the session that was opened with the old password is usable. -/
theorem straddling_login :
    ∃ p, Pool.Run (fun _ _ _ fate => fate = .ok)
        (sessionPool plainConfig id firstToken straddle linkSent) p ∧
      (p.thread true).returned = some (.changed "u1") ∧
      (p.thread false).returned = some (.login (some (.session "u1"))) ∧
      ∃ o ∈ p.state.opened, o.userId = "u1" ∧ o.passwordHash = "argon2:old" ∧
        ∃ row ∈ p.state.tokens.tokens, row.tokenHash = o.tokenHash ∧ row.Usable p.state.tokens := by
  have hfind : ((sessionPool plainConfig id firstToken straddle linkSent).exec
      openedAfter).state.tokens.find "h1" =
        some ⟨"s1", "f1", "u1", "h1", 1000, 20, none, none⟩ := by decide +kernel
  have hrotates : ((rotate "h1" 30 ⟨"s2", "h2", 1000, 31⟩).exec AuthTable.apply
      ((sessionPool plainConfig id firstToken straddle linkSent).exec
        openedAfter).state.tokens []).map (·.1) = some (some ⟨"f1", "u1"⟩) := by decide +kernel
  obtain ⟨⟨result, buffer⟩, hexec, rfl⟩ := Option.map_eq_some_iff.1 hrotates
  exact ⟨_, Pool.run_exec openedAfter (by decide) _, by decide +kernel, by decide +kernel,
    ⟨"h1", "u1", "argon2:old"⟩, by decide +kernel, rfl, rfl, _, (AuthTable.find_eq_some.1 hfind).1,
    rfl, rfl, rfl, 30, ⟨"s2", "h2", 1000, 31⟩, _, buffer, hexec⟩

end Orbetra.Passwords
