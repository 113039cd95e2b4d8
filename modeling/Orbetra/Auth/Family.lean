import Orbetra.Auth.Rotation
import Orbetra.Framework.Requests

/-!
# The family of a refresh token

`findByTokenHash` and `revokeFamily` of `packages/db/src/auth.ts`, and the two routes that use them
beside `rotate`: `POST /refresh`, which takes a token that was used before for stolen and revokes
its family, and `POST /logout`.

`sha256` and `known`, which tells whether `findByIdForAuth` finds a user, are parameters. -/

namespace Orbetra

open List

inductive TokenCall
  | rotate (tokenHash : String) (now : Ms) (successor : Successor)
  | findByTokenHash (tokenHash : String)
  | revokeFamily (familyId : String) (now : Ms)
  deriving DecidableEq

inductive TokenAnswer
  | rotated (result : Option Rotated)
  | found (row : Option TokenRow)
  | revoked
  deriving DecidableEq

abbrev TokenTx := Tx AuthLock AuthWrite AuthTable TokenAnswer

/-- The token was consumed or revoked. -/
def TokenRow.reused (row : TokenRow) : Bool := row.rotatedAt ≠ none || row.revokedAt ≠ none

/-! ## `revokeFamily` -/

section Family

variable (familyId : String) (now : Ms)

/-- The rows that `revokeFamily` is about. -/
def TokenRow.live (row : TokenRow) : Bool := row.familyId = familyId ∧ row.revokedAt = none

/-- `updateMany` over the rows that the statement has found: each is locked, and looked at again. -/
def sweepFamily : List String → TokenTx
  | [] => .commit .revoked
  | tokenHash :: rest =>
    .lock (.token tokenHash) (.read fun s =>
      if (s.find tokenHash).any (·.live familyId)
      then .write (.revoked tokenHash now) (sweepFamily rest)
      else sweepFamily rest)

def revokeFamily : TokenTx :=
  .read fun s =>
    sweepFamily familyId now ((s.tokens.filter (·.live familyId)).map (·.tokenHash))

end Family

def findByTokenHash (tokenHash : String) : TokenTx :=
  .read fun s => .commit (.found (s.find tokenHash))

def TokenCall.program : TokenCall → TokenTx
  | .rotate tokenHash now successor => (Orbetra.rotate tokenHash now successor).map .rotated
  | .findByTokenHash tokenHash => Orbetra.findByTokenHash tokenHash
  | .revokeFamily familyId now => Orbetra.revokeFamily familyId now

/-! ## What writes do to the tokens -/

def InFamily (familyId : String) (row : TokenRow) : Prop := row.familyId = familyId

/-- A property of tokens that neither a rotation nor a revocation gives. -/
def Lasting (P : TokenRow → Prop) : Prop :=
  ∀ row rotatedAt revokedAt, P { row with rotatedAt := rotatedAt, revokedAt := revokedAt } → P row

def Mild (P : TokenRow → Prop) : AuthWrite → Prop
  | .create row => ¬ P row
  | _ => True

/-- No token is lost, and none of a kind is added or revived. -/
structure NoMore (P : TokenRow → Prop) (s s' : AuthTable) : Prop where
  hashes : ∀ row ∈ s.tokens, row.tokenHash ∈ s'.tokens.map (·.tokenHash)
  rows : ∀ row' ∈ s'.tokens, P row' → ∃ row ∈ s.tokens,
    row.tokenHash = row'.tokenHash ∧ P row ∧ (row.revokedAt ≠ none → row'.revokedAt ≠ none)

section NoMore

variable {P : TokenRow → Prop} {s s' s'' : AuthTable} {buffer : List AuthWrite}

lemma inFamily_lasting {familyId : String} : Lasting (InFamily familyId) := fun _ _ _ h => h

lemma NoMore.refl (P : TokenRow → Prop) (s : AuthTable) : NoMore P s s :=
  ⟨fun _ hrow => mem_map_of_mem hrow, fun row hrow hP => ⟨row, hrow, rfl, hP, id⟩⟩

lemma NoMore.trans (h : NoMore P s s') (h' : NoMore P s' s'') : NoMore P s s'' where
  hashes row hrow := by
    obtain ⟨row', hrow', hhash⟩ := mem_map.1 (h.hashes row hrow)
    exact hhash ▸ h'.hashes row' hrow'
  rows row'' hrow'' hP := by
    obtain ⟨row', hrow', hhash', hP', hrevoked'⟩ := h'.rows row'' hrow'' hP
    obtain ⟨row, hrow, hhash, hP, hrevoked⟩ := h.rows row' hrow' hP'
    exact ⟨row, hrow, hhash.trans hhash', hP, hrevoked' ∘ hrevoked⟩

lemma noMore_mark (tokenHash : String) (f : TokenRow → TokenRow)
    (hf : ∀ row, (f row).tokenHash = row.tokenHash) (hP : ∀ row, P (f row) → P row)
    (hrevoked : ∀ row, row.revokedAt ≠ none → (f row).revokedAt ≠ none) :
    NoMore P s (s.mark tokenHash f hf) where
  hashes row hrow := by
    refine mem_map.2 ⟨_, mem_map.2 ⟨row, hrow, rfl⟩, ?_⟩
    split
    · exact hf row
    · rfl
  rows row' hrow' hin := by
    obtain ⟨row, hrow, rfl⟩ := mem_map.1 hrow'
    refine ⟨row, hrow, ?_⟩
    split at hin
    · rename_i heq
      rw [if_pos heq]
      exact ⟨(hf row).symm, hP row hin, hrevoked row⟩
    · rename_i hne
      rw [if_neg hne]
      exact ⟨rfl, hin, id⟩

lemma noMore_apply (hP : Lasting P) {w : AuthWrite} (h : Mild P w) : NoMore P s (s.apply w) := by
  cases w with
  | rotated tokenHash now =>
    exact noMore_mark tokenHash ({ · with rotatedAt := some now }) (fun _ => rfl)
      (fun row => hP row _ _) fun _ hrow => hrow
  | revoked tokenHash now =>
    exact noMore_mark tokenHash ({ · with revokedAt := some now }) (fun _ => rfl)
      (fun row => hP row _ _) fun _ _ => Option.some_ne_none _
  | epoch userId now =>
    exact ⟨fun _ hrow => mem_map_of_mem hrow, fun row hrow hin => ⟨row, hrow, rfl, hin, id⟩⟩
  | create row =>
    by_cases hfree : row.tokenHash ∈ s.tokens.map (·.tokenHash)
    · show NoMore P s (dite _ _ _ : AuthTable)
      rw [dif_pos hfree]
      exact .refl P s
    · have htokens := AuthTable.tokens_create hfree
      refine ⟨fun row' hrow' => ?_, fun row' hrow' hin => ?_⟩
      · rw [htokens]
        exact mem_map_of_mem (mem_cons_of_mem row hrow')
      · rw [htokens] at hrow'
        rcases mem_cons.1 hrow' with rfl | hold
        · exact absurd hin h
        · exact ⟨row', hold, rfl, hin, id⟩

lemma noMore_view (hP : Lasting P) (h : ∀ w ∈ buffer, Mild P w) :
    NoMore P s (TxPool.view AuthTable.apply s buffer) := by
  induction buffer generalizing s with
  | nil => exact .refl P s
  | cons w buffer ih =>
    obtain ⟨hw, hrest⟩ := forall_mem_cons.1 h
    exact (noMore_apply hP hw).trans (ih hrest)

end NoMore

/-! ## The routes -/

namespace Tokens

/-- The repository, each call at once. -/
abbrev tokenService : Service AuthTable := atomically AuthTable.apply TokenCall.program

inductive RouteError
  | failed
  deriving DecidableEq

abbrev Route := Async tokenService RouteError

/-- A transaction that rolls back is an error. -/
def call (c : TokenCall) : Route TokenAnswer := do
  let answer : Option TokenAnswer ← Async.send (V := tokenService) .failed c
  match answer with
  | some answer => pure answer
  | none => .threw .failed

def rotateToken (tokenHash : String) (now : Ms) (successor : Successor) :
    Route (Option Rotated) := do
  match ← call (.rotate tokenHash now successor) with
  | .rotated result => pure result
  | _ => .threw .failed

def findToken (tokenHash : String) : Route (Option TokenRow) := do
  match ← call (.findByTokenHash tokenHash) with
  | .found row => pure row
  | _ => .threw .failed

def killFamily (familyId : String) (now : Ms) : Route Unit := do
  let _ ← call (.revokeFamily familyId now)
  pure ()

/-- What a route reads of its request: its origin, and the refresh cookie. -/
structure CookieRequest where
  sameOrigin : Bool
  cookie : Option String
  deriving DecidableEq

inductive CookieChange
  | kept
  | deleted
  | set (raw : String)
  deriving DecidableEq

structure Response where
  status : ℕ
  cookie : CookieChange
  deriving DecidableEq

/-- `newRefresh`, and when the database is going to insert it. -/
structure NewRefresh where
  raw : String
  id : String
  expiresAt : Ms
  createdAt : Ms
  deriving DecidableEq

def NewRefresh.successor (sha256 : String → String) (next : NewRefresh) : Successor :=
  ⟨next.id, sha256 next.raw, next.expiresAt, next.createdAt⟩

/-- `POST /refresh` of a token that cannot be rotated. -/
def refuse (tokenHash : String) (now : Ms) : Route Response := do
  let row ← findToken tokenHash
  match row.filter (·.reused) with
  | none => pure ⟨401, .deleted⟩
  | some row =>
    killFamily row.familyId now
    pure ⟨401, .deleted⟩

/-- `POST /refresh` of a token that was rotated. -/
def grant (known : String → Bool) (claimed : Rotated) (now : Ms) (raw : String) :
    Route Response := do
  if known claimed.userId then
    pure ⟨200, .set raw⟩
  else
    killFamily claimed.familyId now
    pure ⟨401, .deleted⟩

def postRefresh (sha256 : String → String) (known : String → Bool) (request : CookieRequest)
    (now : Ms) (next : NewRefresh) : Route Response :=
  if request.sameOrigin then
    match request.cookie.filter (· ≠ "") with
    | none => pure ⟨401, .kept⟩
    | some raw => do
      let claimed ← rotateToken (sha256 raw) now (next.successor sha256)
      match claimed with
      | none => refuse (sha256 raw) now
      | some claimed => grant known claimed now next.raw
  else
    pure ⟨403, .kept⟩

/-- What a logout does to the tokens; an error of it is dropped. -/
def endFamily (tokenHash : String) (now : Ms) : Route Unit :=
  (do
    let row ← findToken tokenHash
    match row with
    | none => pure ()
    | some row => killFamily row.familyId now).attempt fun _ => pure ()

def postLogout (sha256 : String → String) (request : CookieRequest) (now : Ms) : Route Response :=
  if request.sameOrigin then
    match request.cookie.filter (· ≠ "") with
    | none => pure ⟨200, .deleted⟩
    | some raw => do
      endFamily (sha256 raw) now
      pure ⟨200, .deleted⟩
  else
    pure ⟨403, .kept⟩

/-- A request with a refresh cookie. -/
inductive TokenRequest
  | refresh (request : CookieRequest) (now : Ms) (next : NewRefresh)
  | logout (request : CookieRequest) (now : Ms)
  deriving DecidableEq

def TokenRequest.program (sha256 : String → String) (known : String → Bool) :
    TokenRequest → Route Response
  | .refresh request now next => postRefresh sha256 known request now next
  | .logout request now => postLogout sha256 request now

end Tokens

end Orbetra
