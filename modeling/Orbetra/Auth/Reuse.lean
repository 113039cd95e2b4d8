import Orbetra.Auth.Family

/-!
# A family that is revoked

`revokeFamily` against `rotate`, in any order of their steps.  The sweep revokes the tokens that it
has found and takes no lock but theirs.  A rotation that has claimed its token by then commits a
successor that the sweep has not found.

A family stays dead where no rotation holds the lock of a usable token of it while a sweep is
between its snapshot and its end (`family_stays_dead`); nothing in the code sees to that
(`successor_survives`). -/

namespace Orbetra

open List Option Machine

namespace Tokens

variable {ι : Type} [DecidableEq ι]

/-- The transactions of the requests. -/
abbrev TokenPool (ι : Type) := TxPool ι TokenCall AuthLock AuthWrite AuthTable TokenAnswer

/-! ## Rotations and sweeps of a family -/

def Claims (familyId : String) : TokenCall → Set AuthLock → AuthTable → Prop
  | .rotate tokenHash now _, H, s =>
    .token tokenHash ∈ H ∧ ∃ row ∈ s.find tokenHash, row.familyId = familyId ∧ row.claimable now
  | _, _, _ => False

/-- A rotation that is going to leave a successor in the family. -/
def Bearing (familyId : String) (p : TokenPool ι) (j : ι) : Prop :=
  ∃ host ∈ p.host j, Claims familyId host.call (p.held j) p.committed

def TokenCall.sweeps (familyId : String) : TokenCall → Bool
  | .revokeFamily familyId' _ => familyId' = familyId
  | _ => false

/-- A sweep of the family that has taken its snapshot: it does not read, or it holds a token and
looks at it again. -/
def Sweeping (familyId : String) (p : TokenPool ι) (k : ι) : Prop :=
  ∃ host ∈ p.host k, TokenCall.sweeps familyId host.call = true ∧
    (host.program.isRead = false ∨
      ∃ row ∈ p.committed.tokens, p.locks (.token row.tokenHash) = some k)

/-- What a step of a transaction must find for rotations and sweeps of the family to keep apart: a
rotation takes the lock of a usable token where no sweep has its snapshot, and a sweep reads where
no rotation holds the lock of such a token. -/
def ApartAt (familyId : String) (p : TokenPool ι)
    (host : TxHost TokenCall AuthLock AuthWrite AuthTable TokenAnswer) : Prop :=
  match host.program with
  | .lock l _ => Claims familyId host.call {l} p.committed → ∀ k, ¬ Sweeping familyId p k
  | .read _ => TokenCall.sweeps familyId host.call = true → ∀ j, ¬ Bearing familyId p j
  | _ => True

def Apart (familyId : String) (p : TokenPool ι) : TxMove ι TokenCall → Prop
  | .step i => ∀ host ∈ p.host i, ApartAt familyId p host
  | _ => True

/-! ## What a commit does -/

/-- The token that a write is about. -/
def writtenHash : AuthWrite → Option String
  | .rotated tokenHash _ => some tokenHash
  | .revoked tokenHash _ => some tokenHash
  | .epoch _ _ => none
  | .create row => some row.tokenHash

def SameUnder (H : Set AuthLock) (s s' : AuthTable) : Prop :=
  ∀ tokenHash, .token tokenHash ∈ H → s'.find tokenHash = s.find tokenHash

/-- What a transaction commits: it has locked what it writes, and adds to a family only where it
claims a token of it. -/
def Committing (c : TokenCall) (H : Set AuthLock) (s : AuthTable) (buffer : List AuthWrite) :
    Prop :=
  (∀ w ∈ buffer, ∀ tokenHash ∈ writtenHash w, .token tokenHash ∈ H) ∧
    ∀ familyId, (∀ w ∈ buffer, Mild (InFamily familyId) w) ∨ Claims familyId c H s

variable {familyId : String} {s s' s'' : AuthTable} {H : Set AuthLock} {c : TokenCall}
  {buffer : List AuthWrite}

lemma find_mark (tokenHash tokenHash' : String) (f : TokenRow → TokenRow)
    (hf : ∀ row, (f row).tokenHash = row.tokenHash) :
    (s.mark tokenHash f hf).find tokenHash' =
      (s.find tokenHash').map fun row => if row.tokenHash = tokenHash then f row else row := by
  unfold AuthTable.find AuthTable.mark
  rw [find?_map]
  congr 2
  funext row
  show decide ((if row.tokenHash = tokenHash then f row else row).tokenHash = tokenHash') = _
  split
  · rw [hf row]
  · rfl

variable {w : AuthWrite}

lemma find_apply {tokenHash : String} (h : writtenHash w ≠ some tokenHash) :
    (s.apply w).find tokenHash = s.find tokenHash := by
  have hmark : ∀ (tokenHash' : String) f hf, tokenHash' ≠ tokenHash →
      (s.mark tokenHash' f hf).find tokenHash = s.find tokenHash := by
    intro tokenHash' f hf hne
    rw [find_mark]
    cases hrow : s.find tokenHash with
    | none => rfl
    | some row =>
      have hhash := (AuthTable.find_eq_some.1 hrow).2
      exact congrArg some (if_neg fun heq => hne (heq.symm.trans hhash))
  cases w with
  | rotated tokenHash' now =>
    exact hmark tokenHash' ({ · with rotatedAt := some now }) (fun _ => rfl) fun heq =>
      h (congrArg some heq)
  | revoked tokenHash' now =>
    exact hmark tokenHash' ({ · with revokedAt := some now }) (fun _ => rfl) fun heq =>
      h (congrArg some heq)
  | epoch userId now => rfl
  | create row =>
    by_cases hfree : row.tokenHash ∈ s.tokens.map (·.tokenHash)
    · show (dite _ _ _ : AuthTable).find _ = _
      rw [dif_pos hfree]
    · unfold AuthTable.find
      rw [AuthTable.tokens_create hfree, find?_cons_of_neg]
      simpa using fun heq => h (congrArg some heq)

lemma sameUnder_view {H H' : Set AuthLock}
    (hlocked : ∀ w ∈ buffer, ∀ tokenHash ∈ writtenHash w, .token tokenHash ∈ H)
    (hdisjoint : Disjoint H H') : SameUnder H' s (TxPool.view AuthTable.apply s buffer) := by
  intro tokenHash hmem
  induction buffer generalizing s with
  | nil => rfl
  | cons w buffer ih =>
    obtain ⟨hw, hrest⟩ := forall_mem_cons.1 hlocked
    refine (ih hrest).trans (find_apply fun hwritten => ?_)
    exact Set.disjoint_left.1 hdisjoint (hw tokenHash hwritten) hmem

/-! ## The transactions -/

/-- What a transaction of a call commits, whatever the others commit. -/
abbrev Keeping (c : TokenCall) (m : TokenTx) (H : Set AuthLock) (s : AuthTable)
    (buffer : List AuthWrite) : Prop :=
  m.Meets AuthTable.apply SameUnder (fun H s buffer _ => Committing c H s buffer) H s buffer

lemma SameUnder.refl (H : Set AuthLock) (s : AuthTable) : SameUnder H s s := fun _ _ => rfl

lemma SameUnder.trans (H : Set AuthLock) (s s' s'' : AuthTable) (h : SameUnder H s s')
    (h' : SameUnder H s' s'') : SameUnder H s s'' :=
  fun tokenHash hmem => (h' tokenHash hmem).trans (h tokenHash hmem)

/-- Nothing is written. -/
lemma committing_nil (c : TokenCall) (H : Set AuthLock) (s : AuthTable) : Committing c H s [] :=
  ⟨fun _ hw => (not_mem_nil hw).elim, fun _ => .inl fun _ hw => (not_mem_nil hw).elim⟩

lemma keeping_findByTokenHash (tokenHash : String) :
    Keeping c (findByTokenHash tokenHash) ∅ s [] := fun _ _ _ _ => committing_nil _ _ _

lemma keeping_sweepFamily (now : Ms) (tokenHashes : List String)
    (h : ∀ w ∈ buffer, ∃ tokenHash, w = .revoked tokenHash now ∧ .token tokenHash ∈ H) :
    Keeping c (sweepFamily familyId now tokenHashes) H s buffer := by
  induction tokenHashes generalizing H s buffer with
  | nil =>
    refine fun s' _ => ⟨fun w hw tokenHash hwritten => ?_, fun _ => .inl fun w hw => ?_⟩
    · obtain ⟨tokenHash', rfl, hmem⟩ := h w hw
      cases hwritten
      exact hmem
    · obtain ⟨tokenHash', rfl, -⟩ := h w hw
      trivial
  | cons tokenHash rest ih =>
    intro s₁ _ s₂ _
    have hmore : ∀ w ∈ buffer, ∃ tokenHash', w = .revoked tokenHash' now ∧
        .token tokenHash' ∈ insert (AuthLock.token tokenHash) H := fun w hw => by
      obtain ⟨tokenHash', hrevoked, hmem⟩ := h w hw
      exact ⟨tokenHash', hrevoked, Set.mem_insert_of_mem _ hmem⟩
    show Keeping c (ite _ _ _) _ s₂ buffer
    split
    · refine fun s₃ _ => ih fun w hw => ?_
      rcases mem_append.1 hw with hold | hnew
      · exact hmore w hold
      · exact ⟨tokenHash, mem_singleton.1 hnew, Set.mem_insert _ _⟩
    · exact ih hmore

lemma keeping_revokeFamily (now : Ms) : Keeping c (revokeFamily familyId now) ∅ s [] :=
  fun _ _ => keeping_sweepFamily now _ fun _ hw => (not_mem_nil hw).elim

section Rotate

variable {tokenHash : String} {now : Ms} {successor : Successor} {row : TokenRow}
  {epoch : Option Ms}

/-- The same, of a transaction that returns what `rotate` returns. -/
abbrev KeepingRotation (tokenHash : String) (now : Ms) (successor : Successor) (m : AuthTx)
    (H : Set AuthLock) (s : AuthTable) (buffer : List AuthWrite) : Prop :=
  m.Meets AuthTable.apply SameUnder
    (fun H s buffer _ => Committing (.rotate tokenHash now successor) H s buffer) H s buffer

lemma keeping_rotateClaimed (hlock : .token tokenHash ∈ H) (hfind : s.find tokenHash = some row)
    (hclaimable : row.claimable now) :
    KeepingRotation tokenHash now successor (rotateClaimed tokenHash now successor epoch row) H s
      [] := by
  intro s₁ h₁
  show KeepingRotation tokenHash now successor (ite _ _ _) H s₁ [.rotated tokenHash now]
  split
  · refine fun s₂ _ => ⟨fun w hw tokenHash' hwritten => ?_, fun _ => .inl fun w hw => ?_⟩
    · obtain rfl := mem_singleton.1 hw
      cases hwritten
      exact hlock
    · obtain rfl := mem_singleton.1 hw
      trivial
  · intro s₂ h₂ s₃ h₃
    show KeepingRotation tokenHash now successor (ite _ _ _) _ s₃ _
    split
    · trivial
    · intro s₄ h₄ s₅ h₅
      have hsame : SameUnder H s s₅ := fun tokenHash' hmem => by
        rw [h₅ _ (Set.mem_insert_of_mem _ hmem), h₄ _ (Set.mem_insert_of_mem _ hmem),
          h₃ _ (Set.mem_insert_of_mem _ hmem), h₂ _ hmem, h₁ _ hmem]
      have hmem : .token tokenHash ∈ insert (AuthLock.token successor.tokenHash) H :=
        Set.mem_insert_of_mem _ hlock
      refine ⟨fun w hw tokenHash' hwritten => ?_, fun familyId => ?_⟩
      · rcases mem_cons.1 hw with rfl | hw
        · cases hwritten
          exact hmem
        · obtain rfl := mem_singleton.1 hw
          cases hwritten
          exact Set.mem_insert _ _
      · by_cases hfamily : row.familyId = familyId
        · exact .inr ⟨hmem, row, (hsame tokenHash hlock).trans hfind, hfamily, hclaimable⟩
        · refine .inl fun w hw => ?_
          rcases mem_cons.1 hw with rfl | hw
          · trivial
          · obtain rfl := mem_singleton.1 hw
            exact hfamily

lemma keeping_rotate :
    KeepingRotation tokenHash now successor (rotate tokenHash now successor) ∅ s [] := by
  have hnone (H : Set AuthLock) (s : AuthTable) :
      KeepingRotation tokenHash now successor (.commit none) H s [] :=
    fun _ _ => committing_nil _ _ _
  intro s₁ _
  beta_reduce
  split
  · exact hnone _ _
  rename_i owner _
  intro s₂ _ s₃ _ s₄ _
  show KeepingRotation tokenHash now successor (ite _ _ _) _ s₄ []
  split
  · intro s₅ _ s₆ _
    beta_reduce
    split
    · exact hnone _ _
    · rename_i row hrow
      obtain ⟨hfind, hclaimable⟩ := filter_eq_some_iff.1 hrow
      exact keeping_rotateClaimed (Set.mem_insert _ _) hfind hclaimable
  · exact hnone _ _

end Rotate

lemma keeping_program (c : TokenCall) (s : AuthTable) : Keeping c c.program ∅ s [] := by
  cases c with
  | rotate tokenHash now successor => exact Tx.Meets.map keeping_rotate
  | findByTokenHash tokenHash => exact keeping_findByTokenHash tokenHash
  | revokeFamily familyId now => exact keeping_revokeFamily now

lemma keeping_proof : TxProof AuthTable.apply TokenCall.program (fun _ _ _ => True)
    (fun _ _ _ => True) (fun s H c m buffer => Keeping c m H s buffer) fun _ _ => True :=
  Tx.Meets.proof SameUnder.refl SameUnder.trans keeping_program
    fun _ _ _ _ _ _ h hdisjoint => sameUnder_view h.1 hdisjoint

/-! ## Where a sweep stands -/

/-- Every token of the family is revoked, or is one that the sweep revokes: it has done so with
those in `done`, and has those in `todo` before it. -/
structure Left (familyId : String) (s : AuthTable) (done todo : List String) : Prop where
  todo_mem : ∀ tokenHash ∈ todo, tokenHash ∈ s.tokens.map (·.tokenHash)
  rows : ∀ row ∈ s.tokens, row.familyId = familyId →
    row.revokedAt ≠ none ∨ row.tokenHash ∈ done ∨ row.tokenHash ∈ todo

/-- What a sweep with a snapshot has written and is about to do. -/
inductive SweepAt (familyId : String) (now : Ms) (s : AuthTable) (H : Set AuthLock) :
    TokenTx → List AuthWrite → Prop
  | next {done todo : List String} (h : Left familyId s done todo) :
    SweepAt familyId now s H (sweepFamily familyId now todo) (done.map (.revoked · now))
  | recheck {done todo : List String} {tokenHash : String}
      (h : Left familyId s done (tokenHash :: todo)) (hlock : .token tokenHash ∈ H) :
    SweepAt familyId now s H (.read fun s =>
      if (s.find tokenHash).any (·.live familyId)
      then .write (.revoked tokenHash now) (sweepFamily familyId now todo)
      else sweepFamily familyId now todo) (done.map (.revoked · now))
  | mark {done todo : List String} {tokenHash : String}
      (h : Left familyId s done (tokenHash :: todo)) :
    SweepAt familyId now s H (.write (.revoked tokenHash now) (sweepFamily familyId now todo))
      (done.map (.revoked · now))

/-- A sweep that has no snapshot yet. -/
def Unread (familyId : String) (now : Ms) (H : Set AuthLock) (m : TokenTx)
    (buffer : List AuthWrite) : Prop :=
  m = revokeFamily familyId now ∧ buffer = [] ∧ ∀ tokenHash, .token tokenHash ∉ H

variable {done : List String}

lemma Left.noMore {todo : List String} (h : Left familyId s done todo)
    (hno : NoMore (InFamily familyId) s s') : Left familyId s' done todo where
  todo_mem tokenHash hmem := by
    obtain ⟨row, hrow, rfl⟩ := mem_map.1 (h.todo_mem tokenHash hmem)
    exact hno.hashes row hrow
  rows row' hrow' hfamily := by
    obtain ⟨row, hrow, hhash, hin, hrevoked⟩ := hno.rows row' hrow' hfamily
    exact hhash ▸ (h.rows row hrow hin).imp hrevoked id

variable {now : Ms} {m : TokenTx}

lemma SweepAt.noMore (h : SweepAt familyId now s H m buffer) (hno : NoMore
    (InFamily familyId) s s') :
    SweepAt familyId now s' H m buffer := by
  cases h with
  | next h => exact .next (h.noMore hno)
  | recheck h hlock => exact .recheck (h.noMore hno) hlock
  | mark h => exact .mark (h.noMore hno)

/-- What a sweep has written, as others may see it. -/
lemma find_view_revoked (done : List String) (tokenHash : String) (h : tokenHash ∉ done) :
    (TxPool.view AuthTable.apply s (done.map (.revoked · now))).find tokenHash =
      s.find tokenHash := by
  have hsame : SameUnder {.token tokenHash} s
      (TxPool.view AuthTable.apply s (done.map (.revoked · now))) := by
    refine @sameUnder_view s _ {l | ∃ written ∈ done, l = .token written} _
      (fun w hw tokenHash' hwritten => ?_) ?_
    · obtain ⟨written, hmem, rfl⟩ := mem_map.1 hw
      exact ⟨written, hmem, congrArg AuthLock.token (some.inj hwritten).symm⟩
    · refine Set.disjoint_singleton_right.2 fun ⟨written, hmem, heq⟩ => h ?_
      exact (AuthLock.token.inj heq) ▸ hmem
  exact hsame tokenHash rfl

lemma noMore_revokes (done : List String) :
    NoMore (InFamily familyId) s (TxPool.view AuthTable.apply s (done.map (.revoked · now))) :=
  noMore_view inFamily_lasting fun w hw => by
    obtain ⟨_, -, rfl⟩ := mem_map.1 hw
    trivial

lemma revoked_view (done : List String) {row' : TokenRow}
    (h : row' ∈ (TxPool.view AuthTable.apply s (done.map (.revoked · now))).tokens)
    (hdone : row'.tokenHash ∈ done) : row'.revokedAt ≠ none := by
  induction done generalizing s with
  | nil => exact (not_mem_nil hdone).elim
  | cons tokenHash done ih =>
    by_cases hlater : row'.tokenHash ∈ done
    · exact ih h hlater
    · have hhash := (mem_cons.1 hdone).resolve_right hlater
      obtain ⟨row, hrow, hsame, -, hrevoked⟩ := (noMore_revokes done).rows row' h rfl
      obtain ⟨old, -, rfl⟩ := mem_map.1 hrow
      refine hrevoked ?_
      have hold : old.tokenHash = tokenHash := by
        by_contra hne
        rw [if_neg hne] at hsame
        exact hne (hsame.trans hhash)
      rw [if_pos hold]
      exact some_ne_none _

lemma Left.revoked (h : Left familyId s done []) :
    ∀ row ∈ (TxPool.view AuthTable.apply s (done.map (.revoked · now))).tokens,
      row.familyId = familyId → row.revokedAt ≠ none := by
  intro row' hrow' hfamily
  obtain ⟨row, hrow, hhash, hin, hrevoked⟩ := (noMore_revokes done).rows row' hrow' hfamily
  rcases h.rows row hrow hin with hdead | hdone | htodo
  · exact hrevoked hdead
  · exact revoked_view done hrow' (hhash ▸ hdone)
  · exact (not_mem_nil htodo).elim

variable {next : AuthTable → TokenTx}

lemma SweepAt.read (h : SweepAt familyId now s H (.read next) buffer) :
    SweepAt familyId now s H (next (TxPool.view AuthTable.apply s buffer)) buffer := by
  generalize hm : Tx.read next = m at h
  cases h with
  | @next done todo h => cases todo <;> cases hm
  | mark h => cases hm
  | @recheck done todo tokenHash h hlock =>
    cases hm
    dsimp only
    split
    · exact .mark h
    · rename_i hdead
      refine .next ⟨fun other hmem => h.todo_mem other (mem_cons_of_mem _ hmem),
        fun row hrow hfamily => ?_⟩
      rcases h.rows row hrow hfamily with hrevoked | hdone | htodo
      · exact .inl hrevoked
      · exact .inr (.inl hdone)
      · rcases mem_cons.1 htodo with hhash | hrest
        · by_cases hdone : tokenHash ∈ done
          · exact .inr (.inl (hhash ▸ hdone))
          · refine .inl fun hnone => hdead ?_
            rw [find_view_revoked done tokenHash hdone, AuthTable.find_eq_some.2 ⟨hrow, hhash⟩]
            simpa [TokenRow.live] using ⟨hfamily, hnone⟩
        · exact .inr (.inr hrest)

variable {l : AuthLock}

lemma SweepAt.lock {next : TokenTx} (h : SweepAt familyId now s H (.lock l next) buffer) :
    SweepAt familyId now s (insert l H) next buffer := by
  generalize hm : Tx.lock l next = m at h
  cases h with
  | @next done todo h =>
    cases todo with
    | nil => cases hm
    | cons tokenHash todo =>
      cases hm
      exact .recheck h (Set.mem_insert _ _)
  | recheck h hlock => cases hm
  | mark h => cases hm

lemma SweepAt.write {next : TokenTx} (h : SweepAt familyId now s H (.write w next) buffer) :
    SweepAt familyId now s H next (buffer ++ [w]) := by
  generalize hm : Tx.write w next = m at h
  cases h with
  | @next done todo h => cases todo <;> cases hm
  | recheck h hlock => cases hm
  | @mark done todo tokenHash h =>
    cases hm
    have hbuffer : done.map (AuthWrite.revoked · now) ++ [.revoked tokenHash now] =
        (done ++ [tokenHash]).map (.revoked · now) := by simp
    rw [hbuffer]
    refine .next ⟨fun other hmem => h.todo_mem other (mem_cons_of_mem _ hmem),
      fun row hrow hfamily => ?_⟩
    rcases h.rows row hrow hfamily with hrevoked | hdone | htodo
    · exact .inl hrevoked
    · exact .inr (.inl (mem_append_left _ hdone))
    · rcases mem_cons.1 htodo with hhash | hrest
      · exact .inr (.inl (hhash ▸ mem_append_right _ mem_cons_self))
      · exact .inr (.inr hrest)

lemma SweepAt.commit {r : TokenAnswer} (h : SweepAt familyId now s H (.commit r) buffer) :
    ∀ row ∈ (TxPool.view AuthTable.apply s buffer).tokens,
      row.familyId = familyId → row.revokedAt ≠ none := by
  generalize hm : Tx.commit r = m at h
  cases h with
  | @next done todo h =>
    cases todo with
    | nil => exact h.revoked
    | cons tokenHash todo => cases hm
  | recheck h hlock => cases hm
  | mark h => cases hm

/-- The snapshot. -/
lemma Unread.read (h : Unread familyId now H (.read next) buffer) :
    SweepAt familyId now s H (next (TxPool.view AuthTable.apply s buffer)) buffer := by
  obtain ⟨hm, rfl, -⟩ := h
  cases hm
  have hleft : Left familyId s [] ((s.tokens.filter (·.live familyId)).map (·.tokenHash)) := by
    refine ⟨fun tokenHash hmem => ?_, fun row hrow hfamily => ?_⟩
    · obtain ⟨row, hrow, rfl⟩ := mem_map.1 hmem
      exact mem_map_of_mem (mem_filter.1 hrow).1
    · by_cases hrevoked : row.revokedAt = none
      · refine .inr (.inr (mem_map.2 ⟨row, mem_filter.2 ⟨hrow, ?_⟩, rfl⟩))
        simpa [TokenRow.live] using ⟨hfamily, hrevoked⟩
      · exact .inl hrevoked
  exact SweepAt.next hleft

/-! ## What a run keeps -/

/-- What holds of the family: it is dead once a sweep has committed; each sweep that runs has no
snapshot yet, or covers the family; and then no rotation is about to leave a successor. -/
structure Kept (familyId : String) (p : TokenPool ι) : Prop where
  dead : ∀ now answer, (.revokeFamily familyId now, answer) ∈ p.ended →
    ∀ row ∈ p.committed.tokens, row.familyId = familyId → row.revokedAt ≠ none
  sweeps : ∀ k host now, p.host k = some host → host.call = .revokeFamily familyId now →
    Unread familyId now (p.held k) host.program host.buffer ∨
      SweepAt familyId now p.committed (p.held k) host.program host.buffer ∧
        ∀ j, ¬ Bearing familyId p j

variable {p p' : TokenPool ι} {i : ι}
  {host : TxHost TokenCall AuthLock AuthWrite AuthTable TokenAnswer}

/-- The transactions of the pool are those of the calls. -/
abbrev Underway (p : TokenPool ι) : Prop :=
  TxInv (fun _ _ _ => True) (fun s H c m buffer => Keeping c m H s buffer) p

/-- A sweep with a snapshot can be told from one that has none. -/
lemma SweepAt.shows (h : SweepAt familyId now s H m buffer) :
    m.isRead = false ∨ ∃ row ∈ s.tokens, .token row.tokenHash ∈ H := by
  cases h with
  | @next done todo h => cases todo <;> exact .inl rfl
  | recheck h hlock =>
    obtain ⟨row, hrow, hhash⟩ := mem_map.1 (h.todo_mem _ mem_cons_self)
    exact .inr ⟨row, hrow, hhash ▸ hlock⟩
  | mark h => exact .inl rfl

omit [DecidableEq ι] in
lemma SweepAt.sweeping {now : Ms} {k : ι} (hk : p.host k = some host)
    (hcall : host.call = .revokeFamily familyId now)
    (h : SweepAt familyId now p.committed (p.held k) host.program host.buffer) :
    Sweeping familyId p k := ⟨host, hk, by simp [hcall, TokenCall.sweeps], h.shows⟩

omit [DecidableEq ι] in
lemma Claims.of_same (h : Claims familyId c H s') (hsame : SameUnder H s s') :
    Claims familyId c H s := by
  cases c with
  | rotate tokenHash now successor =>
    obtain ⟨hlock, row, hfind, hrow⟩ := h
    exact ⟨hlock, row, (hsame tokenHash hlock).symm.trans hfind, hrow⟩
  | findByTokenHash tokenHash => exact h.elim
  | revokeFamily familyId' now => exact h.elim

lemma Claims.of_insert (h : Claims familyId c (insert l H) s) :
    Claims familyId c H s ∨ Claims familyId c {l} s := by
  cases c with
  | rotate tokenHash now successor =>
    obtain ⟨hlock, hrow⟩ := h
    rcases Set.mem_insert_iff.1 hlock with heq | hheld
    · exact .inr ⟨heq, hrow⟩
    · exact .inl ⟨hheld, hrow⟩
  | findByTokenHash tokenHash => exact h.elim
  | revokeFamily familyId' now => exact h.elim

lemma Claims.of_empty (h : Claims familyId c ∅ s) : False := by
  cases c with
  | rotate tokenHash now successor => exact h.1
  | findByTokenHash tokenHash => exact h
  | revokeFamily familyId' now => exact h

variable {begun : List TokenCall} {s' : AuthTable}

lemma Kept.ends (h : Kept familyId p) (i : ι) {ended : List (TokenCall × TokenAnswer)}
    (hno : NoMore (InFamily familyId) p.committed s')
    (hsame : ∀ j, j ≠ i → SameUnder (p.held j) p.committed s')
    (hended : ∀ now answer, (.revokeFamily familyId now, answer) ∈ ended →
      (.revokeFamily familyId now, answer) ∈ p.ended ∨
        ∀ row ∈ s'.tokens, row.familyId = familyId → row.revokedAt ≠ none) :
    Kept familyId ⟨s', (p.release i).locks, (p.release i).host, begun, ended⟩ where
  dead now answer hmem row' hrow' hfamily := by
    rcases hended now answer hmem with hold | hdead
    · obtain ⟨row, hrow, -, hin, hrevoked⟩ := hno.rows row' hrow' hfamily
      exact hrevoked (h.dead now answer hold row hrow hin)
    · exact hdead row' hrow' hfamily
  sweeps k host now hk hcall := by
    obtain ⟨hki, hk⟩ := TxPool.host_release hk
    show Unread _ _ ((p.release i).held k) _ _ ∨ SweepAt _ _ _ ((p.release i).held k) _ _ ∧ _
    rw [TxPool.held_release_of_ne hki]
    rcases h.sweeps k host now hk hcall with hunread | ⟨hsweep, hnone⟩
    · exact .inl hunread
    · refine .inr ⟨hsweep.noMore hno, fun j ⟨host', hj, hclaims⟩ => ?_⟩
      obtain ⟨hji, hj⟩ := TxPool.host_release hj
      have hclaims : Claims familyId host'.call ((p.release i).held j) s' := hclaims
      rw [TxPool.held_release_of_ne hji] at hclaims
      exact hnone j ⟨host', hj, hclaims.of_same (hsame j hji)⟩

lemma Kept.succeeds (h : Kept familyId p) {answer : TokenAnswer} (hi : p.host i = some host)
    (hclaims : Claims familyId host.call (p.held i) p.committed) :
    Kept familyId ⟨s', (p.release i).locks, (p.release i).host, begun,
      p.ended ++ [(host.call, answer)]⟩ where
  dead now answer' hmem := by
    exfalso
    cases hcall : host.call with
    | rotate tokenHash now' successor =>
      rw [hcall] at hclaims hmem
      rcases mem_append.1 hmem with hold | hnew
      · obtain ⟨-, row, hfind, hfamily, hclaimable⟩ := hclaims
        have hlive : row.revokedAt = none := by
          simp only [TokenRow.claimable, Bool.decide_and, Bool.and_eq_true,
            decide_eq_true_eq] at hclaimable
          exact hclaimable.2.1
        exact h.dead now answer' hold row (AuthTable.find_eq_some.1 hfind).1 hfamily hlive
      · cases mem_singleton.1 hnew
    | findByTokenHash tokenHash =>
      rw [hcall] at hclaims
      exact hclaims
    | revokeFamily familyId' now' =>
      rw [hcall] at hclaims
      exact hclaims
  sweeps k host' now hk hcall := by
    obtain ⟨hki, hk⟩ := TxPool.host_release hk
    show Unread _ _ ((p.release i).held k) _ _ ∨ _
    rw [TxPool.held_release_of_ne hki]
    rcases h.sweeps k host' now hk hcall with hunread | ⟨-, hnone⟩
    · exact .inl hunread
    · exact absurd ⟨host, hi, hclaims⟩ (hnone i)

lemma Kept.goesOn (h : Kept familyId p)
    {new : TxHost TokenCall AuthLock AuthWrite AuthTable TokenAnswer} {locks : AuthLock → Option ι}
    (hheld : ∀ j, j ≠ i → {l | locks l = some j} = p.held j)
    (hsweep : ∀ now, new.call = .revokeFamily familyId now →
      Unread familyId now {l | locks l = some i} new.program new.buffer ∨
        SweepAt familyId now p.committed {l | locks l = some i} new.program new.buffer ∧
          ∀ j, ¬ Bearing familyId p j)
    (hclaims : Claims familyId new.call {l | locks l = some i} p.committed →
      Bearing familyId p i ∨ ∀ k, ¬ Sweeping familyId p k) :
    Kept familyId ⟨p.committed, locks, (p.goOn i new).host, begun, p.ended⟩ where
  dead := h.dead
  sweeps k host now hk hcall := by
    rcases TxPool.host_goOn hk with ⟨rfl, rfl⟩ | ⟨hki, hold⟩
    · refine (hsweep now hcall).imp id fun ⟨hat, hnone⟩ => ⟨hat, fun j ⟨host', hj, hbears⟩ => ?_⟩
      rcases TxPool.host_goOn hj with ⟨rfl, rfl⟩ | ⟨hji, hj⟩
      · rw [hcall] at hbears
        exact hbears
      · have hbears : Claims familyId host'.call {l | locks l = some j} p.committed := hbears
        rw [hheld j hji] at hbears
        exact hnone j ⟨host', hj, hbears⟩
    · show Unread _ _ {l | locks l = some k} _ _ ∨ SweepAt _ _ _ {l | locks l = some k} _ _ ∧ _
      rw [hheld k hki]
      refine (h.sweeps k host now hold hcall).imp id fun ⟨hat, hnone⟩ =>
        ⟨hat, fun j ⟨host', hj, hbears⟩ => ?_⟩
      rcases TxPool.host_goOn hj with ⟨rfl, rfl⟩ | ⟨hji, hj⟩
      · rcases hclaims hbears with hbearing | hnobody
        · exact hnone _ hbearing
        · exact hnobody k (hat.sweeping hold hcall)
      · have hbears : Claims familyId host'.call {l | locks l = some j} p.committed := hbears
        rw [hheld j hji] at hbears
        exact hnone j ⟨host', hj, hbears⟩

lemma Kept.hostStep (hbase : Underway p) (h : Kept familyId p) (hi : p.host i = some host)
    (hfits : Apart familyId p (.step i))
    (hstep : TxPool.hostStep AuthTable.apply p i host = some p') :
    Kept familyId p' := by
  have hlocal := hbase.locally i host hi
  have hapart := hfits host hi
  have hsweeps := h.sweeps i host
  obtain ⟨call, program, buffer⟩ := host
  dsimp only at hlocal hapart hsweeps
  cases program with
  | commit answer =>
    cases hstep
    obtain ⟨hlocked, hadds⟩ : Committing call (p.held i) p.committed buffer :=
      hlocal p.committed (.refl _ _)
    rcases hadds familyId with hmild | hclaims
    · refine h.ends i (noMore_view inFamily_lasting hmild)
        (fun j hj => sameUnder_view hlocked (TxPool.disjoint_held hj)) fun now answer' hmem => ?_
      rcases mem_append.1 hmem with hold | hnew
      · exact .inl hold
      · cases mem_singleton.1 hnew
        rcases hsweeps now hi rfl with ⟨hm, -⟩ | ⟨hat, -⟩
        · cases hm
        · exact .inr hat.commit
    · exact h.succeeds hi hclaims
  | rollback =>
    cases hstep
    exact h.ends i (.refl _ _) (fun _ _ => .refl _ _) fun _ _ hmem => .inl hmem
  | lock l next =>
    unfold TxPool.hostStep at hstep
    dsimp only at hstep
    split at hstep
    · rename_i hfree
      cases hstep
      refine h.goesOn (fun j hj => TxPool.held_update_of_ne hfree hj) (fun now hcall => ?_) ?_
      · rw [TxPool.held_update_self]
        rcases hsweeps now hi hcall with ⟨hm, -⟩ | ⟨hat, hnone⟩
        · cases hm
        · exact .inr ⟨hat.lock, hnone⟩
      · rw [TxPool.held_update_self]
        intro hclaims
        rcases hclaims.of_insert with hheld | hnew
        · exact .inl ⟨_, hi, hheld⟩
        · exact .inr (hapart hnew)
    · cases hstep
  | write w next =>
    cases hstep
    refine h.goesOn (fun _ _ => rfl) (fun now hcall => ?_) fun hclaims => .inl ⟨_, hi, hclaims⟩
    rcases hsweeps now hi hcall with ⟨hm, -⟩ | ⟨hat, hnone⟩
    · cases hm
    · exact .inr ⟨hat.write, hnone⟩
  | read next =>
    cases hstep
    refine h.goesOn (fun _ _ => rfl) (fun now hcall => ?_) fun hclaims => .inl ⟨_, hi, hclaims⟩
    rcases hsweeps now hi hcall with hunread | ⟨hat, hnone⟩
    · obtain rfl : call = .revokeFamily familyId now := hcall
      exact .inr ⟨hunread.read, hapart (decide_eq_true rfl)⟩
    · exact .inr ⟨hat.read, hnone⟩

lemma Kept.step (hbase : Underway p) (h : Kept familyId p) {move : TxMove ι TokenCall}
    (hfits : Apart familyId p move)
    (hstep : p.step AuthTable.apply TokenCall.program move = some p') :
    Kept familyId p' := by
  cases move with
  | start j c =>
    unfold TxPool.step at hstep
    dsimp only at hstep
    split at hstep
    · rename_i hj
      cases hstep
      have hfree : p.held j = ∅ := hbase.held_of_idle hj
      refine h.goesOn (fun _ _ => rfl) (fun now hcall => ?_) fun hclaims => ?_
      · obtain rfl : c = .revokeFamily familyId now := hcall
        exact .inl ⟨rfl, rfl, fun tokenHash hmem => by
          rw [show {l | p.locks l = some j} = ∅ from hfree] at hmem
          exact hmem⟩
      · rw [show {l | p.locks l = some j} = ∅ from hfree] at hclaims
        exact hclaims.of_empty.elim
    · cases hstep
  | step j =>
    obtain ⟨host, hj, hstep⟩ := bind_eq_some_iff.1 hstep
    exact h.hostStep hbase hj hfits hstep
  | abort j =>
    obtain ⟨host, hj, rfl⟩ := map_eq_some_iff.1 hstep
    exact h.ends j (.refl _ _) (fun _ _ => .refl _ _) fun _ _ hmem => .inl hmem

/-! ## The requests -/

def requestPool (sha256 : String → String) (known : String → Bool) (requests : ι → TokenRequest)
    (s₀ : AuthTable) : RequestPool AuthTable.apply TokenCall.program ι RouteError Response :=
  ⟨.init s₀, fun i => (requests i).program sha256 known⟩

/-- **A revoked family stays dead.**  Of any number of refreshes and logouts, in any order of their
steps in which rotations and sweeps of the family keep apart: once a sweep of the family has
committed, no token of it is usable. -/
theorem family_stays_dead (sha256 : String → String) (known : String → Bool)
    (requests : ι → TokenRequest) (s₀ : AuthTable) (familyId : String)
    {moves : List (TxMove ι TokenCall)}
    {q : RequestPool AuthTable.apply TokenCall.program ι RouteError Response}
    (hapart : RunFits RequestPool.step (fun q => Apart familyId q.pool)
      (requestPool sha256 known requests s₀) moves)
    (hrun : run RequestPool.step (requestPool sha256 known requests s₀) moves = some q)
    {now : Ms} {answer : TokenAnswer}
    (hrevoked : (.revokeFamily familyId now, answer) ∈ q.pool.ended) :
    ∀ row ∈ q.pool.committed.tokens, row.familyId = familyId → ¬ row.Usable q.pool.committed := by
  have hfits := RequestPool.runFits_pool hapart hrun
  have hpool := RequestPool.run_pool hrun
  have hinit : Underway (.init s₀ : TokenPool ι) ∧ Kept familyId (.init s₀ : TokenPool ι) :=
    ⟨.init trivial, fun _ _ hmem => (not_mem_nil hmem).elim, fun _ _ _ hk => by cases hk⟩
  obtain ⟨-, hkept⟩ := run_keeps
    (fun p : TokenPool ι => Underway p ∧ Kept familyId p)
    (fun p move p' h hmove hstep =>
      ⟨(keeping_proof.step h.1 (by cases move <;> simp [TxFits]) hstep).1,
        h.2.step h.1 hmove hstep⟩) hinit hfits hpool
  intro row hrow hfamily husable
  exact hkept.dead now answer hrevoked row hrow hfamily husable.1

/-! ### Whether steps keep apart -/

instance (H : Set AuthLock) [DecidablePred (· ∈ H)] (familyId : String) (c : TokenCall)
    (s : AuthTable) : Decidable (Claims familyId c H s) :=
  match c with
  | .rotate tokenHash now _ => inferInstanceAs (Decidable (AuthLock.token tokenHash ∈ H ∧
      ∃ row ∈ s.find tokenHash, row.familyId = familyId ∧ row.claimable now))
  | .findByTokenHash _ | .revokeFamily _ _ => isFalse id

instance (p : TokenPool ι) (j : ι) : DecidablePred (· ∈ p.held j) := fun l =>
  inferInstanceAs (Decidable (p.locks l = some j))

instance (familyId : String) (p : TokenPool ι) (j : ι) : Decidable (Bearing familyId p j) :=
  inferInstanceAs (Decidable (∃ host ∈ p.host j, Claims familyId host.call (p.held j) p.committed))

instance (familyId : String) (p : TokenPool ι) (k : ι) : Decidable (Sweeping familyId p k) :=
  inferInstanceAs (Decidable (∃ host ∈ p.host k, TokenCall.sweeps familyId host.call = true ∧
    (host.program.isRead = false ∨ ∃ row ∈ p.committed.tokens,
      p.locks (.token row.tokenHash) = some k)))

instance [Fintype ι] (familyId : String) (p : TokenPool ι)
    (host : TxHost TokenCall AuthLock AuthWrite AuthTable TokenAnswer) :
    Decidable (ApartAt familyId p host) :=
  match host with
  | ⟨call, .lock l _, _⟩ => inferInstanceAs (Decidable
      (Claims familyId call {l} p.committed → ∀ k, ¬ Sweeping familyId p k))
  | ⟨call, .read _, _⟩ => inferInstanceAs (Decidable
      (TokenCall.sweeps familyId call = true → ∀ j, ¬ Bearing familyId p j))
  | ⟨_, .commit _, _⟩ | ⟨_, .rollback, _⟩ | ⟨_, .write _ _, _⟩ => isTrue trivial

instance [Fintype ι] (familyId : String) (p : TokenPool ι) :
    (move : TxMove ι TokenCall) → Decidable (Apart familyId p move)
  | .step i => inferInstanceAs (Decidable (∀ host ∈ p.host i, ApartAt familyId p host))
  | .start _ _ | .abort _ => isTrue trivial

/-- A browser refreshes its session, and ends it. -/
def refreshAndLogout : Bool → TokenRequest
  | false => .refresh ⟨true, some "h1"⟩ 5 ⟨"h2", "t2", 200, 7⟩
  | true => .logout ⟨true, some "h1"⟩ 6

/-- The logout comes when the rotation has committed. -/
def inTurn : List (TxMove Bool TokenCall) :=
  [TxMove.start false (TokenCall.rotate "h1" 5 ⟨"t2", "h2", 200, 7⟩)] ++
    replicate 11 (TxMove.step false) ++
    [TxMove.start true (TokenCall.findByTokenHash "h1"), .step true, .step true,
      .start true (.revokeFamily "f1" 6)] ++ replicate 8 (TxMove.step true)

/-- Both tokens are revoked. -/
theorem family_stays_dead_inTurn :
    ∃ q, run RequestPool.step
        (requestPool id (fun _ => true) refreshAndLogout oneSession) inTurn = some q ∧
      q.pool.committed.tokens.length = 2 ∧
      ∀ row ∈ q.pool.committed.tokens, row.familyId = "f1" → ¬ row.Usable q.pool.committed := by
  have hend : (run RequestPool.step (requestPool id (fun _ => true) refreshAndLogout
      oneSession) inTurn).map (fun q => (q.pool.committed.tokens.length,
        decide ((.revokeFamily "f1" 6, .revoked) ∈ q.pool.ended))) = some (2, true) := by
    decide +kernel
  obtain ⟨q, hrun, hq⟩ := map_eq_some_iff.1 hend
  obtain ⟨hlength, hrevoked⟩ := Prod.mk.inj hq
  exact ⟨q, hrun, hlength, family_stays_dead id (fun _ => true) refreshAndLogout oneSession "f1"
    (by decide +kernel) hrun (of_decide_eq_true hrevoked)⟩

/-- The logout finds the token between the claim of the rotation and its commit. -/
def crossed : List (TxMove Bool TokenCall) :=
  [TxMove.start false (TokenCall.rotate "h1" 5 ⟨"t2", "h2", 200, 7⟩)] ++
    replicate 7 (TxMove.step false) ++
    [TxMove.start true (TokenCall.findByTokenHash "h1"), .step true, .step true,
      .start true (.revokeFamily "f1" 6), .step true] ++
    replicate 4 (TxMove.step false) ++ replicate 4 (TxMove.step true)

/-- The logout and the refresh are answered, and the successor is usable. -/
theorem successor_survives :
    ∃ q, run RequestPool.step
        (requestPool id (fun _ => true) refreshAndLogout oneSession) crossed = some q ∧
      (.revokeFamily "f1" 6, .revoked) ∈ q.pool.ended ∧
      (∀ i, q.pool.host i = none ∧ (q.thread i).pending = none) ∧
      ∃ row ∈ q.pool.committed.tokens, row.familyId = "f1" ∧ row.Usable q.pool.committed := by
  have hend : (run RequestPool.step (requestPool id (fun _ => true) refreshAndLogout
      oneSession) crossed).map (fun q => (decide ((.revokeFamily "f1" 6, .revoked) ∈ q.pool.ended),
        decide (∀ i, (q.pool.host i).isNone ∧ (q.thread i).pending = none),
        q.pool.committed.find "h2",
        ((rotate "h2" 10 ⟨"t3", "h3", 300, 11⟩).exec AuthTable.apply q.pool.committed []).map
          (·.1))) =
      some (true, true, some ⟨"t2", "f1", "u1", "h2", 200, 7, none, none⟩,
        some (some ⟨"f1", "u1"⟩)) := by
    decide +kernel
  obtain ⟨q, hrun, hq⟩ := map_eq_some_iff.1 hend
  simp only [Prod.mk.injEq, decide_eq_true_eq] at hq
  obtain ⟨hrevoked, hidle, hfind, hrotates⟩ := hq
  obtain ⟨⟨result, buffer⟩, hexec, rfl⟩ := map_eq_some_iff.1 hrotates
  refine ⟨q, hrun, hrevoked, fun i => ⟨isNone_iff_eq_none.1 (hidle i).1, (hidle i).2⟩, _,
    (AuthTable.find_eq_some.1 hfind).1, rfl, rfl, rfl, 10, ⟨"t3", "h3", 300, 11⟩, _, buffer, hexec⟩

end Tokens

end Orbetra
