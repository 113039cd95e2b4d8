import Orbetra.Framework.Mutex
import Orbetra.Records

/-!
# Refresh tokens: rotation against eviction

`rotate` and `revokeAllForUser` of `packages/db/src/auth.ts`.  A rotation consumes a token and leaves
its successor; an eviction stamps the user and sweeps all tokens of the user.  The sweep sees no
successor that a rotation has yet to commit, but both take the row of the user first, so one of them
waits for the other from before it reads anything that counts.

`eviction_beats_rotation` is about any number of both, in any order of their steps.  Which token
descends from which is read off the rotations that have committed.
-/

namespace Orbetra

open List Machine

structure TokenRow where
  id : String
  familyId : String
  userId : String
  tokenHash : String
  expiresAt : Ms
  createdAt : Ms
  rotatedAt : Option Ms
  revokedAt : Option Ms
  deriving DecidableEq

/-- The tokens, each under a hash of its own, and `sessionsRevokedAt` of the users. -/
structure AuthTable where
  tokens : List TokenRow
  sessionsRevokedAt : String → Option Ms
  unique : (tokens.map (·.tokenHash)).Nodup

/-- What a rotation is to leave.  The database sets `createdAt` when it inserts the row. -/
structure Successor where
  id : String
  tokenHash : String
  expiresAt : Ms
  createdAt : Ms
  deriving DecidableEq

inductive AuthCall
  | rotate (tokenHash : String) (now : Ms) (successor : Successor)
  | revokeAllForUser (now : Ms)
  deriving DecidableEq

structure Rotated where
  familyId : String
  userId : String
  deriving DecidableEq

def AuthTable.find (s : AuthTable) (tokenHash : String) : Option TokenRow :=
  s.tokens.find? fun row => row.tokenHash = tokenHash

def AuthTable.mark (s : AuthTable) (tokenHash : String) (f : TokenRow → TokenRow)
    (hf : ∀ row, (f row).tokenHash = row.tokenHash) : AuthTable where
  tokens := s.tokens.map fun row => if row.tokenHash = tokenHash then f row else row
  sessionsRevokedAt := s.sessionsRevokedAt
  unique := by
    rw [map_map]
    have hhash : ((fun row : TokenRow => row.tokenHash) ∘
        fun row => if row.tokenHash = tokenHash then f row else row) = (·.tokenHash) := by
      funext row
      show (if row.tokenHash = tokenHash then f row else row).tokenHash = row.tokenHash
      split
      · exact hf row
      · rfl
    rw [hhash]
    exact s.unique

inductive AuthWrite
  | rotated (tokenHash : String) (now : Ms)
  | revoked (tokenHash : String) (now : Ms)
  | epoch (userId : String) (now : Ms)
  | create (row : TokenRow)

/-- A write takes effect. -/
def AuthTable.apply (s : AuthTable) : AuthWrite → AuthTable
  | .rotated tokenHash now => s.mark tokenHash ({ · with rotatedAt := some now }) fun _ => rfl
  | .revoked tokenHash now => s.mark tokenHash ({ · with revokedAt := some now }) fun _ => rfl
  | .epoch userId now =>
    { s with sessionsRevokedAt := Function.update s.sessionsRevokedAt userId (some now) }
  | .create row =>
    if h : row.tokenHash ∈ s.tokens.map (·.tokenHash) then s
    else
      { tokens := row :: s.tokens
        sessionsRevokedAt := s.sessionsRevokedAt
        unique := nodup_cons.2 ⟨h, s.unique⟩ }

/-- The rows that are locked: of users, and of tokens by hash. -/
inductive AuthLock
  | user (id : String)
  | token (tokenHash : String)
  deriving DecidableEq

/-- A transaction on the tokens. -/
abbrev AuthTx := Tx AuthLock AuthWrite AuthTable (Option Rotated)

/-! ## `rotate` -/

def TokenRow.claimable (row : TokenRow) (now : Ms) : Bool :=
  row.rotatedAt = none ∧ row.revokedAt = none ∧ now < row.expiresAt

def TokenRow.evicted (row : TokenRow) : Option Ms → Bool
  | none => false
  | some epoch => row.createdAt ≤ epoch

section Rotate

variable (tokenHash : String) (now : Ms) (successor : Successor)

/-- The row that `create` inserts. -/
def successorRow (row : TokenRow) : TokenRow :=
  ⟨successor.id, row.familyId, row.userId, successor.tokenHash, successor.expiresAt,
    successor.createdAt, none, none⟩

/-- `refreshToken.create`.  A taken id or hash is an error. -/
def createToken (row : TokenRow) : AuthTx :=
  .lock (.token successor.tokenHash) (.read fun s =>
    if s.tokens.any fun other => other.id = successor.id ∨ other.tokenHash = successor.tokenHash
    then .rollback
    else .write (.create (successorRow successor row)) (.commit (some ⟨row.familyId, row.userId⟩)))

def rotateClaimed (epoch : Option Ms) (row : TokenRow) : AuthTx :=
  .write (.rotated tokenHash now)
    (if row.evicted epoch then .commit none else createToken successor row)

/-- `updateManyAndReturn`: the row that the statement finds is locked, and looked at again. -/
def rotateClaim (epoch : Option Ms) : AuthTx :=
  .read fun s =>
    if (s.find tokenHash).any (·.claimable now) then
      .lock (.token tokenHash) (.read fun s =>
        match (s.find tokenHash).filter (·.claimable now) with
        | none => .commit none
        | some row => rotateClaimed tokenHash now successor epoch row)
    else .commit none

/-- `SELECT … FOR UPDATE` of the user -/
def rotateOwned (userId : String) : AuthTx :=
  .lock (.user userId) (.read fun s =>
    rotateClaim tokenHash now successor (s.sessionsRevokedAt userId))

def rotate : AuthTx :=
  .read fun s =>
    match s.find tokenHash with
    | none => .commit none
    | some owner => rotateOwned tokenHash now successor owner.userId

end Rotate

/-! ## `revokeAllForUser` -/

section Revoke

variable (userId : String) (now : Ms)

/-- `updateMany` over the rows that the statement has found: each is locked, and looked at again. -/
def sweepTokens : List String → AuthTx
  | [] => .commit none
  | tokenHash :: rest =>
    .lock (.token tokenHash) (.read fun s =>
      if (s.find tokenHash).any fun row => row.userId = userId ∧ row.revokedAt = none
      then .write (.revoked tokenHash now) (sweepTokens rest)
      else sweepTokens rest)

/-- `updateMany({ where: { userId, revokedAt: null }, … })` -/
def revokeTokens : AuthTx :=
  .read fun s =>
    sweepTokens userId now
      ((s.tokens.filter fun row => row.userId = userId ∧ row.revokedAt = none).map (·.tokenHash))

def revokeAllForUser : AuthTx :=
  .lock (.user userId) (.write (.epoch userId now) (revokeTokens userId now))

end Revoke

def AuthCall.program (userId : String) : AuthCall → AuthTx
  | .rotate tokenHash now successor => Orbetra.rotate tokenHash now successor
  | .revokeAllForUser now => Orbetra.revokeAllForUser userId now

/-! ## What a run keeps -/

def successions (ended : List (AuthCall × Option Rotated)) : List (String × String) :=
  ended.filterMap fun
    | (.rotate tokenHash _ successor, some _) => some (tokenHash, successor.tokenHash)
    | _ => none

/-- The tokens of one user, whatever has run. -/
structure AuthInv (userId : String) (s : AuthTable) (begun : List AuthCall)
    (ended : List (AuthCall × Option Rotated)) : Prop where
  owned : ∀ row ∈ s.tokens, row.userId = userId
  consumed : ∀ link ∈ successions ended, ∃ row ∈ s.tokens,
    row.tokenHash = link.1 ∧ row.rotatedAt ≠ none
  once : ((successions ended).map (·.1)).Nodup
  swept : ∀ now r, (.revokeAllForUser now, r) ∈ ended → ∀ row ∈ s.tokens, row.revokedAt ≠ none

section Keeps

variable {userId : String} {s : AuthTable} {begun : List AuthCall}
  {ended : List (AuthCall × Option Rotated)} {tokenHash : String} {now : Ms}
  {successor : Successor} {row : TokenRow} {epoch : Option Ms}

lemma AuthTable.find_eq_some :
    s.find tokenHash = some row ↔ row ∈ s.tokens ∧ row.tokenHash = tokenHash := by
  constructor
  · intro h
    exact ⟨mem_of_find?_eq_some h, by simpa using find?_some h⟩
  · rintro ⟨hrow, hhash⟩
    obtain ⟨found, hfound⟩ : ∃ found, s.find tokenHash = some found := by
      refine Option.isSome_iff_exists.1 (find?_isSome.2 ⟨row, hrow, by simpa using hhash⟩)
    have hsame : found.tokenHash = row.tokenHash :=
      Eq.trans (by simpa using find?_some hfound) hhash.symm
    rw [hfound, inj_on_of_nodup_map s.unique (mem_of_find?_eq_some hfound) hrow hsame]

lemma AuthTable.tokens_create (h : row.tokenHash ∉ s.tokens.map (·.tokenHash)) :
    (s.apply (.create row)).tokens = row :: s.tokens := by
  show (dite _ _ _ : AuthTable).tokens = _
  rw [dif_neg h]

@[simp] lemma view_append (buffer : List AuthWrite) (w : AuthWrite) :
    TxPool.view AuthTable.apply s (buffer ++ [w]) =
      (TxPool.view AuthTable.apply s buffer).apply w := by
  simp [TxPool.view]

lemma successions_append (c : AuthCall) (r : Option Rotated) :
    successions (ended ++ [(c, r)]) = successions ended ++ successions [(c, r)] :=
  filterMap_append

lemma successions_none (tokenHash : String) (now : Ms) (successor : Successor) :
    successions [(.rotate tokenHash now successor, none)] = [] := rfl

lemma AuthInv.mark (h : AuthInv userId s begun ended) {f : TokenRow → TokenRow}
    (hf : ∀ row, (f row).tokenHash = row.tokenHash)
    (howner : ∀ row, (f row).userId = row.userId)
    (hrotated : ∀ row, row.rotatedAt ≠ none → (f row).rotatedAt ≠ none)
    (hrevoked : ∀ row, row.revokedAt ≠ none → (f row).revokedAt ≠ none) :
    AuthInv userId (s.mark tokenHash f hf) begun ended where
  owned row hrow := by
    obtain ⟨old, hold, rfl⟩ := mem_map.1 hrow
    split
    · exact (howner old).trans (h.owned old hold)
    · exact h.owned old hold
  consumed link hlink := by
    obtain ⟨old, hold, hhash, hdone⟩ := h.consumed link hlink
    refine ⟨_, mem_map.2 ⟨old, hold, rfl⟩, ?_⟩
    split
    · exact ⟨(hf old).trans hhash, hrotated old hdone⟩
    · exact ⟨hhash, hdone⟩
  once := h.once
  swept now r hr row hrow := by
    obtain ⟨old, hold, rfl⟩ := mem_map.1 hrow
    split
    · exact hrevoked old (h.swept now r hr old hold)
    · exact h.swept now r hr old hold

lemma AuthInv.rotated (h : AuthInv userId s begun ended) :
    AuthInv userId (s.apply (.rotated tokenHash now)) begun ended :=
  h.mark (f := ({ · with rotatedAt := some now })) (fun _ => rfl) (fun _ => rfl)
    (fun _ _ => Option.some_ne_none _) fun _ hrow => hrow

lemma AuthInv.revoked (h : AuthInv userId s begun ended) :
    AuthInv userId (s.apply (.revoked tokenHash now)) begun ended :=
  h.mark (f := ({ · with revokedAt := some now })) (fun _ => rfl) (fun _ => rfl)
    (fun _ hrow => hrow) fun _ _ => Option.some_ne_none _

lemma AuthInv.nothing (h : AuthInv userId s begun ended) :
    AuthInv userId s begun (ended ++ [(.rotate tokenHash now successor, none)]) where
  owned := h.owned
  consumed := by
    rw [successions_append, successions_none, append_nil]
    exact h.consumed
  once := by
    rw [successions_append, successions_none, append_nil]
    exact h.once
  swept now' r hr := by
    rcases mem_append.1 hr with hr | hr
    · exact h.swept now' r hr
    · cases mem_singleton.1 hr

lemma AuthInv.succeeded (h : AuthInv userId s begun ended)
    (hfind : s.find tokenHash = some row) (hclaimable : row.claimable now)
    (hnew : successor.tokenHash ∉ (s.apply (.rotated tokenHash now)).tokens.map (·.tokenHash)) :
    AuthInv userId ((s.apply (.rotated tokenHash now)).apply (.create (successorRow successor row)))
      begun (ended ++
        [(AuthCall.rotate tokenHash now successor, some ⟨row.familyId, row.userId⟩)]) := by
  obtain ⟨hrow, hhash⟩ := AuthTable.find_eq_some.1 hfind
  obtain ⟨hunrotated, hunrevoked, -⟩ : row.rotatedAt = none ∧ row.revokedAt = none ∧
      now < row.expiresAt := by simpa [TokenRow.claimable] using hclaimable
  have hmarked : AuthInv userId (s.apply (.rotated tokenHash now)) begun ended := h.rotated
  have htokens : ((s.apply (.rotated tokenHash now)).apply
      (.create (successorRow successor row))).tokens =
        successorRow successor row :: (s.apply (.rotated tokenHash now)).tokens :=
    AuthTable.tokens_create hnew
  have hlinks : successions (ended ++ [(.rotate tokenHash now successor,
      some ⟨row.familyId, row.userId⟩)]) = successions ended ++ [(tokenHash, successor.tokenHash)] :=
    successions_append _ _
  constructor
  · rw [htokens]
    rintro row' (_ | ⟨_, hrow'⟩)
    · exact h.owned row hrow
    · exact hmarked.owned row' hrow'
  · rw [htokens, hlinks]
    intro link hlink
    rcases mem_append.1 hlink with hlink | hlink
    · obtain ⟨row', hrow', hdone⟩ := hmarked.consumed link hlink
      exact ⟨row', mem_cons_of_mem _ hrow', hdone⟩
    · obtain rfl := mem_singleton.1 hlink
      refine ⟨{ row with rotatedAt := some now }, mem_cons_of_mem _ ?_, hhash, by simp⟩
      exact mem_map.2 ⟨row, hrow, if_pos hhash⟩
  · rw [hlinks, map_append]
    refine nodup_append.2 ⟨h.once, nodup_singleton _, ?_⟩
    rintro parent hparent other hother rfl
    obtain ⟨link, hlink, rfl⟩ := mem_map.1 hparent
    obtain ⟨row', hrow', hhash', hdone⟩ := h.consumed link hlink
    have hsame : link.1 = tokenHash := mem_singleton.1 hother
    have hrow'' := AuthTable.find_eq_some.2 ⟨hrow', hhash'.trans hsame⟩
    rw [hfind] at hrow''
    exact hdone (Option.some.inj hrow'' ▸ hunrotated)
  · intro now' r hr
    rcases mem_append.1 hr with hr | hr
    · exact absurd hunrevoked (h.swept now' r hr row hrow)
    · cases mem_singleton.1 hr

/-! ## The programs, run alone -/

lemma rotateClaim_keeps :
    KeepsAlone AuthTable.apply (AuthInv userId) (.rotate tokenHash now successor) s
      (rotateClaim tokenHash now successor epoch) [] := by
  intro begun ended h hc r buffer hexec
  simp only [rotateClaim, Tx.exec] at hexec
  split at hexec
  · simp only [Tx.exec] at hexec
    split at hexec
    · cases hexec
      exact h.nothing
    · rename_i row hrow
      obtain ⟨hfind, hclaimable⟩ := Option.filter_eq_some_iff.1 hrow
      simp only [rotateClaimed, Tx.exec] at hexec
      split at hexec
      · cases hexec
        exact h.rotated.nothing
      · simp only [createToken, Tx.exec] at hexec
        split at hexec
        · cases hexec
        · rename_i hfree
          cases hexec
          refine h.succeeded hfind hclaimable fun hmem => hfree ?_
          obtain ⟨other, hother, hhash⟩ := mem_map.1 hmem
          exact any_eq_true.2 ⟨other, hother, by simpa using .inr hhash⟩
  · cases hexec
    exact h.nothing

lemma sweepTokens_keeps {tokenHashes : List String} {buffer buffer' : List AuthWrite}
    {r : Option Rotated}
    (h : AuthInv userId (TxPool.view AuthTable.apply s buffer) begun ended)
    (hleft : ∀ row ∈ (TxPool.view AuthTable.apply s buffer).tokens,
      row.revokedAt ≠ none ∨ row.tokenHash ∈ tokenHashes)
    (hexec : (sweepTokens userId now tokenHashes).exec AuthTable.apply s buffer =
      some (r, buffer')) :
    AuthInv userId (TxPool.view AuthTable.apply s buffer') begun ended ∧
      ∀ row ∈ (TxPool.view AuthTable.apply s buffer').tokens, row.revokedAt ≠ none := by
  induction tokenHashes generalizing buffer with
  | nil =>
    cases hexec
    exact ⟨h, fun row hrow => (hleft row hrow).resolve_right not_mem_nil⟩
  | cons tokenHash rest ih =>
    simp only [sweepTokens, Tx.exec] at hexec
    split at hexec
    · refine @ih (buffer ++ [.revoked tokenHash now]) ?_ ?_ hexec
      · rw [view_append]
        exact h.revoked
      · rw [view_append]
        intro row hrow
        obtain ⟨old, hold, rfl⟩ := mem_map.1 hrow
        split
        · exact .inl (Option.some_ne_none _)
        · rename_i hne
          rcases hleft old hold with hrevoked | hmem
          · exact .inl hrevoked
          · exact .inr (mem_of_ne_of_mem hne hmem)
    · rename_i hskip
      refine ih h (fun row hrow => ?_) hexec
      rcases hleft row hrow with hrevoked | hmem
      · exact .inl hrevoked
      · rcases mem_cons.1 hmem with hhash | hmem
        · refine .inl fun hnone => hskip ?_
          rw [AuthTable.find_eq_some.2 ⟨hrow, hhash⟩]
          simpa using ⟨h.owned row hrow, hnone⟩
        · exact .inr hmem

lemma revoke_keeps :
    KeepsAlone AuthTable.apply (AuthInv userId) (.revokeAllForUser now) s
      (.write (.epoch userId now) (revokeTokens userId now)) [] := by
  intro begun ended h hc r buffer hexec
  have hstamped : AuthInv userId (s.apply (.epoch userId now)) begun ended :=
    ⟨h.owned, h.consumed, h.once, h.swept⟩
  simp only [revokeTokens, Tx.exec] at hexec
  obtain ⟨hinv, hall⟩ := sweepTokens_keeps (s := s) hstamped (fun row hrow => by
    by_cases hrevoked : row.revokedAt = none
    · refine .inr (mem_map.2 ⟨row, mem_filter.2 ⟨hrow, ?_⟩, rfl⟩)
      simpa using ⟨hstamped.owned row hrow, hrevoked⟩
    · exact .inl hrevoked) hexec
  have hlinks : successions (ended ++ [(.revokeAllForUser now, r)]) = successions ended :=
    (successions_append _ _).trans (append_nil _)
  refine ⟨hinv.owned, hlinks ▸ hinv.consumed, hlinks ▸ hinv.once, fun now' r' hr => ?_⟩
  exact hall

end Keeps

/-- **Both take the user first**, and keep the tokens alone. -/
lemma program_guarded (userId : String) (c : AuthCall) :
    Guarded AuthTable.apply (.user userId) (AuthInv userId) c (c.program userId) := by
  cases c with
  | rotate tokenHash now successor =>
    have hnone (s : AuthTable) : KeepsAlone AuthTable.apply (AuthInv userId)
        (.rotate tokenHash now successor) s (.commit none : AuthTx) [] := by
      intro begun ended h _ r buffer hexec
      cases hexec
      exact h.nothing
    intro s begun ended h
    dsimp only
    split
    · exact hnone
    · rename_i owner howner
      have hrow := (AuthTable.find_eq_some.1 howner).1
      refine ⟨congrArg AuthLock.user (h.owned owner hrow), fun s' => ?_⟩
      exact rotateClaim_keeps
  | revokeAllForUser now => exact ⟨rfl, fun s => revoke_keeps⟩

/-- Transactions for one user. -/
abbrev AuthPool := TxPool ℕ AuthCall AuthLock AuthWrite AuthTable (Option Rotated)

def AuthPool.step (userId : String) : AuthPool → TxMove ℕ AuthCall → Option AuthPool :=
  TxPool.step AuthTable.apply (·.program userId)

def Descends (ended : List (AuthCall × Option Rotated)) : String → String → Prop :=
  Relation.ReflTransGen fun parent child => (parent, child) ∈ successions ended

/-- The token can still be exchanged: it is neither revoked nor rotated, and some rotation accepts
it. -/
def TokenRow.Usable (s : AuthTable) (row : TokenRow) : Prop :=
  row.revokedAt = none ∧ row.rotatedAt = none ∧ ∃ now successor result buffer,
    (rotate row.tokenHash now successor).exec AuthTable.apply s [] = some (some result, buffer)

/-- **Eviction beats rotation.**  Of any number of rotations and evictions of one user, in any order
of their steps: after an eviction has committed, no token that descends from one created by then is
usable; no token has two successors; and no transactions wait for each other. -/
theorem eviction_beats_rotation (userId : String) (s₀ : AuthTable)
    (h₀ : ∀ row ∈ s₀.tokens, row.userId = userId) (moves : List (TxMove ℕ AuthCall)) (p : AuthPool)
    (hrun : run (AuthPool.step userId) (.init s₀) moves = some p) :
    (∀ now r, (.revokeAllForUser now, r) ∈ p.ended → ∀ root ∈ p.committed.tokens,
        root.createdAt ≤ now → ∀ row ∈ p.committed.tokens,
          Descends p.ended root.tokenHash row.tokenHash → ¬ row.Usable p.committed) ∧
      ((successions p.ended).map (·.1)).Nodup ∧ ¬ p.Deadlocked := by
  have hproof := Guarded.proof (fun _ _ _ _ h => ⟨h.owned, h.consumed, h.once, h.swept⟩)
    (program_guarded userId)
  have hinit : TxInv (AuthInv userId) (Behind AuthTable.apply (.user userId) (AuthInv userId))
      (.init s₀ : AuthPool) :=
    .init ⟨h₀, fun _ h => (not_mem_nil h).elim, nodup_nil, fun _ _ h => (not_mem_nil h).elim⟩
  have hfits : RunFits (AuthPool.step userId) (TxFits fun _ _ _ => True) (.init s₀)
      moves := .of_forall fun move _ p => by cases move <;> simp [TxFits]
  obtain ⟨hinv, -⟩ := hproof.run hinit hfits hrun
  refine ⟨fun now r hr root _ _ row hrow _ husable => ?_, hinv.globally.once, hinv.not_deadlocked⟩
  exact hinv.globally.swept now r hr row hrow husable.1

/-- A user with one token. -/
def oneSession : AuthTable :=
  ⟨[⟨"t1", "f1", "u1", "h1", 100, 0, none, none⟩], fun _ => none, nodup_singleton _⟩

def overtakenRotation : List (TxMove ℕ AuthCall) :=
  [TxMove.start 0 (AuthCall.rotate "h1" 5 ⟨"t2", "h2", 200, 7⟩), .start 1 (.revokeAllForUser 6),
    .step 0] ++ replicate 7 (TxMove.step 1) ++ replicate 4 (TxMove.step 0)

/-- The overtaken rotation finds nothing to claim. -/
theorem eviction_beats_rotation_overtaken :
    ∃ p, run (AuthPool.step "u1") (.init oneSession) overtakenRotation = some p ∧
      p.ended = [(.revokeAllForUser 6, none), (.rotate "h1" 5 ⟨"t2", "h2", 200, 7⟩, none)] ∧
      (∀ now r, (.revokeAllForUser now, r) ∈ p.ended → ∀ root ∈ p.committed.tokens,
        root.createdAt ≤ now → ∀ row ∈ p.committed.tokens,
          Descends p.ended root.tokenHash row.tokenHash → ¬ row.Usable p.committed) ∧
      ((successions p.ended).map (·.1)).Nodup ∧ ¬ p.Deadlocked := by
  have hended : (run (AuthPool.step "u1") (.init oneSession) overtakenRotation).map
      (·.ended) = some [(.revokeAllForUser 6, none),
        (.rotate "h1" 5 ⟨"t2", "h2", 200, 7⟩, none)] := by decide +kernel
  obtain ⟨p, hrun, hp⟩ := Option.map_eq_some_iff.1 hended
  exact ⟨p, hrun, hp, eviction_beats_rotation "u1" oneSession (by decide) overtakenRotation p hrun⟩

end Orbetra
