import Orbetra.Pipeline.Consumer

/-!
# No acknowledged entry is lost

`NoLoss` says of a state that every entry of a batch that has left the pending list is a row of
`positions` or an entry of `raw:dead`.  `process` reaches it exactly when the failure pattern
`KeepsQuarantine`: whenever the acknowledgement of an entry that goes to `raw:dead` takes effect, so
does the `XADD` that copies it there.  The code does not look at the replies of its quarantine
pipelines, so nothing but the failure pattern ensures this.

The file follows the phases of `process`.  `write_triple` says what the bisecting insert does at
each of its exits, with `bisectStatements` the number of statements it needs; `quarantined_pipeline`
says what a pipeline of `XADD`s and `XACK`s does to the two lists.
-/

namespace Orbetra

open List Eff Prod

variable {Payload Decoded Table : Type}

/-! ## The insert phase -/

def FailurePattern.Rejects (f : FailurePattern Payload) (row : Row Payload) : Prop :=
  (f.rowError row.1).isSome

instance (f : FailurePattern Payload) : DecidablePred f.Rejects := fun row =>
  inferInstanceAs (Decidable ((f.rowError row.1).isSome = true))

/-- The row is in `positions`, under its primary key. -/
def Stored (s : ShardState Payload) (r : NormalizedRecord) : Prop :=
  ∃ row ∈ s.positions, row.key = r.key

/-- The statements `writePositions` sends when all of them are answered: it stops at the first
slice that holds a rejected row. -/
def positionsStatements (f : FailurePattern Payload) (records : List NormalizedRecord) : ℕ :=
  if records.length = 0 then 0
  else if (records.take maxBatchRows).findSome? f.rowError = none then
    1 + positionsStatements f (records.drop maxBatchRows)
  else 1
termination_by records.length
decreasing_by simp only [length_drop, maxBatchRows]; omega

/-- The statements `write` sends when all of them are answered. -/
def bisectStatements (f : FailurePattern Payload) (recs : List (Row Payload)) : ℕ :=
  if recs.length = 0 then 0
  else
    positionsStatements f (recs.map fst) +
      if (recs.map fst).findSome? f.rowError = none then 0
      else if recs.length = 1 then 0
      else bisectStatements f (recs.take (recs.length / 2)) +
        bisectStatements f (recs.drop (recs.length / 2))
termination_by recs.length
decreasing_by
  · simp only [length_take]; omega
  · simp only [length_drop]; omega

def Answered (f : FailurePattern Payload) (start count : ℕ) : Prop :=
  ∀ n < count, f.insert (start + n) = .ok

structure Inserted (f : FailurePattern Payload) (records : List NormalizedRecord)
    (b s : ShardState Payload) : Prop where
  pending : s.pending = b.pending
  rawDead : s.rawDead = b.rawDead
  kept : ∀ r ∈ b.positions, r ∈ s.positions
  source : ∀ r ∈ s.positions, r ∈ b.positions ∨ r ∈ records ∧ f.rowError r = none

namespace Inserted

variable {f : FailurePattern Payload} {records records' : List NormalizedRecord}
  {b s t : ShardState Payload}

lemma refl : Inserted f records b b := ⟨rfl, rfl, fun _ h => h, fun _ h => .inl h⟩

lemma trans (h₁ : Inserted f records b s) (h₂ : Inserted f records s t) :
    Inserted f records b t where
  pending := h₂.pending.trans h₁.pending
  rawDead := h₂.rawDead.trans h₁.rawDead
  kept r hr := h₂.kept r (h₁.kept r hr)
  source r hr := (h₂.source r hr).elim (h₁.source r) .inr

lemma mono (h : Inserted f records b s) (hsub : ∀ r ∈ records, r ∈ records') :
    Inserted f records' b s :=
  { h with source := fun r hr => (h.source r hr).imp_right fun ⟨h₁, h₂⟩ => ⟨hsub r h₁, h₂⟩ }

lemma stored {r : NormalizedRecord} (h : Inserted f records b s) (hr : Stored b r) : Stored s r :=
  let ⟨row, hrow, hkey⟩ := hr
  ⟨row, h.kept row hrow, hkey⟩

end Inserted

lemma subset_foldl_insertRow (batch table : List NormalizedRecord) :
    ∀ r ∈ table, r ∈ batch.foldl insertRow table := by
  induction batch generalizing table with
  | nil => exact fun r hr => hr
  | cons x xs ih =>
    intro r hr
    refine ih _ r ?_
    unfold insertRow
    split
    · exact hr
    · exact mem_append_left _ hr

lemma foldl_insertRow_source (batch table : List NormalizedRecord) :
    ∀ r ∈ batch.foldl insertRow table, r ∈ table ∨ r ∈ batch := by
  induction batch generalizing table with
  | nil => exact fun r hr => .inl hr
  | cons x xs ih =>
    intro r hr
    rcases ih _ r hr with h | h
    · unfold insertRow at h
      split at h
      · exact .inl h
      · rcases mem_append.1 h with h | h
        · exact .inl h
        · exact .inr (by simp at h; simp [h])
    · exact .inr (mem_cons_of_mem _ h)

lemma key_mem_foldl_insertRow (batch table : List NormalizedRecord) :
    ∀ r ∈ batch, ∃ row ∈ batch.foldl insertRow table, row.key = r.key := by
  induction batch generalizing table with
  | nil => simp
  | cons x xs ih =>
    intro r hr
    rcases mem_cons.1 hr with rfl | hr
    · have h : ∃ row ∈ insertRow table r, row.key = r.key := by
        unfold insertRow
        split
        · rename_i hany
          simpa using hany
        · exact ⟨r, by simp, rfl⟩
      obtain ⟨row, hrow, hkey⟩ := h
      exact ⟨row, subset_foldl_insertRow xs _ row hrow, hkey⟩
    · exact ih _ r hr

variable {f : FailurePattern Payload} {m n : ℕ} {t b s : ShardState Payload}
  {records : List NormalizedRecord} {e : Entry Payload} {cs : List (StreamCmd Payload)}
  {row : Row Payload} {rows : List (Row Payload)} {entries : List (Entry Payload)}
  {d : Decoding Payload Decoded Table}

variable {start : ℕ} {records' : List NormalizedRecord} {ds acks copies : List (StreamCmd Payload)}
  {u : ShardState Payload} {dead : List (Entry Payload)} {bad : List (Row Payload)}

lemma answered_one : Answered f start 1 ↔ f.insert start = .ok := by
  simp [Answered]

lemma answered_add : Answered f start (m + n) ↔ Answered f start m ∧ Answered f (start + m) n := by
  constructor
  · refine fun h => ⟨fun k hk => h k (by omega), fun k hk => ?_⟩
    have := h (m + k) (by omega)
    rwa [← Nat.add_assoc] at this
  · rintro ⟨h₁, h₂⟩ k hk
    by_cases hkm : k < m
    · exact h₁ k hkm
    · have := h₂ (k - m) (by omega)
      rwa [show start + m + (k - m) = start + k by omega] at this

structure Answers (f : FailurePattern Payload) (records : List NormalizedRecord) (count : ℕ)
    (b s : ShardState Payload) : Prop extends Inserted f records b s where
  statements : s.statements = b.statements + count
  answered : Answered f b.statements count

lemma Answers.trans (h₁ : Answers f records m b s) (h₂ : Answers f records n s t) :
    Answers f records (m + n) b t where
  toInserted := h₁.toInserted.trans h₂.toInserted
  statements := by rw [h₂.statements, h₁.statements, Nat.add_assoc]
  answered := answered_add.2 ⟨h₁.answered, h₁.statements ▸ h₂.answered⟩

lemma Answers.mono (h : Answers f records n b s) (hsub : ∀ r ∈ records, r ∈ records') :
    Answers f records' n b s :=
  { h with toInserted := h.toInserted.mono hsub }

structure CutShort (f : FailurePattern Payload) (records : List NormalizedRecord) (count : ℕ)
    (b s : ShardState Payload) : Prop extends Inserted f records b s where
  unanswered : ¬ Answered f b.statements count

lemma CutShort.mono (h : CutShort f records m b s) (hsub : ∀ r ∈ records, r ∈ records') :
    CutShort f records' (m + n) b s where
  toInserted := h.toInserted.mono hsub
  unanswered hans := h.unanswered (answered_add.1 hans).1

lemma Answers.cutShort (h₁ : Answers f records m b s) (h₂ : CutShort f records n s t) :
    CutShort f records (m + n) b t where
  toInserted := h₁.toInserted.trans h₂.toInserted
  unanswered hans := h₂.unanswered (h₁.statements ▸ (answered_add.1 hans).2)

/-- What an insert of `records` that needs `count` statements does: the rows are stored, or it fails
with the error of a rejected row, or it is cut short. -/
def insertPost (f : FailurePattern Payload) (records : List NormalizedRecord) (count : ℕ)
    (b : ShardState Payload) : Post PgError (ShardState Payload) ℕ where
  done _ s := Answers f records count b s ∧ records.findSome? f.rowError = none ∧
    ∀ r ∈ records, Stored s r
  threw err s :=
    isRowRejection err = true ∧ Answers f records count b s ∧ records.findSome? f.rowError ≠ none ∨
      isRowRejection err = false ∧ CutShort f records count b s
  crashed s := CutShort f records count b s

lemma insertStatement_triple (f : FailurePattern Payload) (batch : List NormalizedRecord)
    (b : ShardState Payload) :
    Triple (· = b) (insertStatement f batch) (insertPost f batch 1 b) := by
  rintro s rfl
  have hsame : Inserted f batch s { s with statements := s.statements + 1 } :=
    ⟨rfl, rfl, fun _ h => h, fun _ h => .inl h⟩
  unfold insertStatement
  split
  · rename_i hr
    exact ⟨.refl, by simp [answered_one, hr]⟩
  · rename_i hr
    exact .inr ⟨f.outage_transient, hsame, by simp [answered_one, hr]⟩
  · rename_i hr
    split
    · rename_i err hv
      obtain ⟨r, -, hr'⟩ := exists_of_findSome?_eq_some hv
      exact .inl ⟨f.rowError_rejects r err hr', ⟨hsame, rfl, answered_one.2 hr⟩, by simp [hv]⟩
    · rename_i hv
      have hclean := findSome?_eq_none_iff.1 hv
      refine ⟨⟨⟨rfl, rfl, subset_foldl_insertRow batch s.positions, ?_⟩, rfl, answered_one.2 hr⟩,
        hv, key_mem_foldl_insertRow batch s.positions⟩
      intro r hr'
      exact (foldl_insertRow_source batch s.positions r hr').imp_right fun h => ⟨h, hclean r h⟩

lemma writePositionsFrom_triple (f : FailurePattern Payload) (inserted : ℕ)
    (records : List NormalizedRecord) (b : ShardState Payload) :
    Triple (· = b) (writePositionsFrom f inserted records)
      (insertPost f records (positionsStatements f records) b) := by
  induction inserted, records using writePositionsFrom.induct generalizing b with
  | case1 inserted records h =>
    have hnil : records = [] := length_eq_zero_iff.1 h
    subst hnil
    rw [writePositionsFrom, if_pos h, positionsStatements, if_pos h]
    refine Triple.pure ?_
    rintro s rfl
    exact ⟨⟨.refl, rfl, by simp [Answered]⟩, by simp, by simp⟩
  | case2 inserted records h ih =>
    have hsplit : records.findSome? f.rowError =
        ((records.take maxBatchRows).findSome? f.rowError).or
          ((records.drop maxBatchRows).findSome? f.rowError) := by
      rw [← findSome?_append, take_append_drop]
    have htake : ∀ r ∈ records.take maxBatchRows, r ∈ records := fun _ => mem_of_mem_take
    have hdrop : ∀ r ∈ records.drop maxBatchRows, r ∈ records := fun _ => mem_of_mem_drop
    rw [writePositionsFrom, if_neg h]
    by_cases hv : (records.take maxBatchRows).findSome? f.rowError = none
    · -- the first slice is clean: the loop goes on with the rest
      rw [hv, Option.none_or] at hsplit
      have hcount : positionsStatements f records =
          1 + positionsStatements f (records.drop maxBatchRows) := by
        rw [positionsStatements, if_neg h, if_pos hv]
      rw [hcount]
      refine Triple.bind (I := fun _ s => Answers f records 1 b s ∧
        ∀ r ∈ records.take maxBatchRows, Stored s r) ?_ fun rowCount s ⟨hs, hstored⟩ => ?_
      · refine (insertStatement_triple f (records.take maxBatchRows) b).mono (fun _ h => h) ?_ ?_ ?_
        · exact fun _ s ⟨h₁, _, h₂⟩ => ⟨h₁.mono htake, h₂⟩
        · rintro err s (⟨_, _, h₂⟩ | ⟨h₁, h₂⟩)
          · exact absurd hv h₂
          · exact .inr ⟨h₁, h₂.mono htake⟩
        · exact fun s h₁ => h₁.mono htake
      · refine ((ih rowCount s).mono (fun _ h => h) ?_ ?_ ?_) s rfl
        · rintro _ t ⟨h₁, h₂, h₃⟩
          refine ⟨hs.trans (h₁.mono hdrop), hsplit ▸ h₂, fun r hr => ?_⟩
          rw [← take_append_drop maxBatchRows records, mem_append] at hr
          exact hr.elim (fun hr => h₁.stored (hstored r hr)) (h₃ r)
        · rintro err t (⟨h₁, h₂, h₃⟩ | ⟨h₁, h₂⟩)
          · exact .inl ⟨h₁, hs.trans (h₂.mono hdrop), hsplit ▸ h₃⟩
          · exact .inr ⟨h₁, hs.cutShort (h₂.mono (n := 0) hdrop)⟩
        · exact fun t h₁ => hs.cutShort (h₁.mono (n := 0) hdrop)
    · -- the first slice holds a rejected row: the loop ends with its error
      have hcount : positionsStatements f records = 1 := by
        rw [positionsStatements, if_neg h, if_neg hv]
      have hbad : records.findSome? f.rowError ≠ none := by
        rw [hsplit]
        cases hx : (records.take maxBatchRows).findSome? f.rowError with
        | none => exact absurd hx hv
        | some err => simp
      rw [hcount]
      refine Triple.bind (I := fun _ _ => False) ?_ fun _ _ h => h.elim
      refine (insertStatement_triple f (records.take maxBatchRows) b).mono (fun _ h => h) ?_ ?_ ?_
      · exact fun _ s ⟨_, h₂, _⟩ => absurd h₂ hv
      · rintro err s (⟨h₁, h₂, _⟩ | ⟨h₁, h₂⟩)
        · exact .inl ⟨h₁, h₂.mono htake, hbad⟩
        · exact .inr ⟨h₁, h₂.mono (n := 0) htake⟩
      · exact fun s h₁ => h₁.mono (n := 0) htake

/-- What `write` does when it needs `count` statements: where all are answered it returns exactly
the rejected rows and has stored the others; otherwise it is cut short. -/
def writePost (f : FailurePattern Payload) (recs : List (Row Payload)) (count : ℕ)
    (b : ShardState Payload) : Post PgError (ShardState Payload) (ℕ × List (Row Payload)) where
  done result s := Answers f (recs.map fst) count b s ∧
    result.2 = recs.filter (fun row => f.Rejects row) ∧
    ∀ row ∈ recs, ¬ f.Rejects row → Stored s row.1
  threw _ s := CutShort f (recs.map fst) count b s
  crashed s := CutShort f (recs.map fst) count b s

lemma findSome?_rowError_eq_none {recs : List (Row Payload)} :
    (recs.map fst).findSome? f.rowError = none ↔ ∀ row ∈ recs, ¬ f.Rejects row := by
  simp [FailurePattern.Rejects, findSome?_eq_none_iff]

lemma write_halves {left right : List (Row Payload)} {l r : ℕ}
    (hl : ∀ b, Triple (· = b) (write f left) (writePost f left l b))
    (hr : ∀ b, Triple (· = b) (write f right) (writePost f right r b))
    (b : ShardState Payload) :
    Triple (Answers f ((left ++ right).map fst) m b)
      (do
        let x ← write f left
        let y ← write f right
        pure (x.1 + y.1, x.2 ++ y.2))
      (writePost f (left ++ right) (m + (l + r)) b) := by
  have hleft : ∀ x ∈ left.map fst, x ∈ (left ++ right).map fst := by simp; tauto
  have hright : ∀ x ∈ right.map fst, x ∈ (left ++ right).map fst := by simp; tauto
  rw [← Nat.add_assoc]
  intro s hs
  refine Triple.bind (P := (· = s)) (I := fun x t =>
    Answers f ((left ++ right).map fst) (m + l) b t ∧
      x.2 = left.filter (fun row => f.Rejects row) ∧
      ∀ row ∈ left, ¬ f.Rejects row → Stored t row.1) ?_ ?_ s rfl
  · refine (hl s).mono (fun _ h => h) ?_ ?_ ?_
    · exact fun x t ⟨h₁, h₂, h₃⟩ => ⟨hs.trans (h₁.mono hleft), h₂, h₃⟩
    · exact fun _ t h₁ => hs.cutShort (h₁.mono (n := 0) hleft) |>.mono (fun _ h => h)
    · exact fun t h₁ => hs.cutShort (h₁.mono (n := 0) hleft) |>.mono (fun _ h => h)
  · rintro x t ⟨ht, hx, hstored⟩
    refine Triple.bind (P := (· = t)) (I := fun y u =>
      Answers f ((left ++ right).map fst) (m + l + r) b u ∧
        y.2 = right.filter (fun row => f.Rejects row) ∧
        ∀ row ∈ left ++ right, ¬ f.Rejects row → Stored u row.1) ?_ ?_ t rfl
    · refine (hr t).mono (fun _ h => h) ?_ ?_ ?_
      · rintro y u ⟨h₁, h₂, h₃⟩
        refine ⟨ht.trans (h₁.mono hright), h₂, fun row hrow hrej => ?_⟩
        exact (mem_append.1 hrow).elim (fun h => h₁.stored (hstored row h hrej))
          fun h => h₃ row h hrej
      · exact fun _ u h₁ => ht.cutShort (h₁.mono (n := 0) hright)
      · exact fun u h₁ => ht.cutShort (h₁.mono (n := 0) hright)
    · intro y
      refine Triple.pure fun u ⟨h₁, h₂, h₃⟩ => ⟨h₁, ?_, h₃⟩
      rw [hx, h₂, filter_append]

lemma write_triple (f : FailurePattern Payload) (recs : List (Row Payload))
    (b : ShardState Payload) :
    Triple (· = b) (write f recs) (writePost f recs (bisectStatements f recs) b) := by
  induction recs using write.induct generalizing b with
  | case1 recs h =>
    have hnil : recs = [] := length_eq_zero_iff.1 h
    subst hnil
    rw [write, if_pos h]
    refine Triple.pure ?_
    rintro s rfl
    exact ⟨⟨.refl, by simp [bisectStatements], by simp [Answered, bisectStatements]⟩, by simp,
      by simp⟩
  | case2 recs h ihl ihr =>
    have hpos := writePositionsFrom_triple f 0 (recs.map fst) b
    rw [write, if_neg h]
    by_cases hv : (recs.map fst).findSome? f.rowError = none
    · have hcount : bisectStatements f recs = positionsStatements f (recs.map fst) := by
        rw [bisectStatements, if_neg h, if_pos hv, Nat.add_zero]
      have hclean := findSome?_rowError_eq_none.1 hv
      rw [hcount]
      refine Triple.attempt (E := fun err s => isRowRejection err = false ∧
        CutShort f (recs.map fst) (positionsStatements f (recs.map fst)) b s) ?_
        fun err s ⟨h₁, h₂⟩ => ?_
      · refine Triple.bind (I := fun _ s => Answers f (recs.map fst)
          (positionsStatements f (recs.map fst)) b s ∧
            ∀ r ∈ recs.map fst, Stored s r) ?_ fun _ => ?_
        · refine hpos.mono (fun _ h => h) (fun _ s ⟨h₁, _, h₂⟩ => ⟨h₁, h₂⟩) ?_ fun s h₁ => h₁
          rintro err s (⟨_, _, h₂⟩ | h₁)
          · exact absurd hv h₂
          · exact h₁
        · refine Triple.pure fun s ⟨h₁, h₂⟩ => ⟨h₁, ?_, fun row hrow _ => ?_⟩
          · simpa [filter_eq_nil_iff] using hclean
          · exact h₂ _ (mem_map_of_mem hrow)
      · rw [if_pos h₁]
        exact h₂
    · -- some row is rejected: its error comes back once every statement is answered
      have hcount : bisectStatements f recs = positionsStatements f (recs.map fst) +
          if recs.length = 1 then 0
          else bisectStatements f (recs.take (recs.length / 2)) +
            bisectStatements f (recs.drop (recs.length / 2)) := by
        rw [bisectStatements, if_neg h, if_neg hv]
      refine Triple.attempt (E := fun err s =>
        isRowRejection err = true ∧ Answers f (recs.map fst)
            (positionsStatements f (recs.map fst)) b s ∨
          isRowRejection err = false ∧
            CutShort f (recs.map fst) (bisectStatements f recs) b s) ?_ fun err s hs => ?_
      · refine Triple.bind (I := fun _ _ => False) ?_ fun _ _ h => h.elim
        refine hpos.mono (fun _ h => h) (fun _ s ⟨_, h₂, _⟩ => absurd h₂ hv) ?_ fun s h₁ => ?_
        · rintro err s (⟨h₁, h₂, _⟩ | ⟨h₁, h₂⟩)
          · exact .inl ⟨h₁, h₂⟩
          · exact .inr ⟨h₁, hcount ▸ h₂.mono fun _ h => h⟩
        · rw [writePost, hcount]; exact h₁.mono fun _ h => h
      · rcases hs with ⟨h₁, h₂⟩ | ⟨h₁, h₂⟩
        · rw [if_neg (by simp [h₁])]
          by_cases hlen : recs.length = 1
          · -- a single rejected row is the bad one
            rw [hcount, if_pos hlen, if_pos hlen]
            obtain ⟨row, rfl⟩ := length_eq_one_iff.1 hlen
            have hrej : f.Rejects row := by
              by_contra hno
              exact hv (findSome?_rowError_eq_none.2 (by simpa using hno))
            exact ⟨h₂, by simp [hrej], by simp [hrej]⟩
          · rw [hcount, if_neg hlen, if_neg hlen]
            have hmid := write_halves (ihl hlen) (ihr hlen) b
              (m := positionsStatements f (recs.map fst)) s
            rw [take_append_drop] at hmid
            exact hmid h₂
        · rw [if_pos h₁]
          exact h₂

/-! ## Pipelines over the stream -/

def addedEntries (cs : List (StreamCmd Payload)) : List (Entry Payload) :=
  cs.filterMap fun
    | .xadd e => some e
    | .xack _ => none

lemma mem_addedEntries : e ∈ addedEntries cs ↔ .xadd e ∈ cs := by
  simp only [addedEntries, mem_filterMap]
  constructor
  · rintro ⟨c, hc, h⟩
    cases c with
    | xadd e' => simp only [Option.some.injEq] at h; exact h ▸ hc
    | xack id => simp at h
  · exact fun h => ⟨.xadd e, h, rfl⟩

/-- What accepted commands do to the stream: an `XACK` removes an id from the pending list, an
`XADD` appends to `raw:dead`, and what this call appended is not evicted while it fits the bound. -/
structure Streamed (cs : List (StreamCmd Payload)) (s t : ShardState Payload) : Prop where
  pending : ∀ id, id ∈ t.pending ↔ id ∈ s.pending ∧ .xack id ∉ cs
  source : ∀ e ∈ t.rawDead, e ∈ s.rawDead ∨ .xadd e ∈ cs
  appended : ∀ added, added <:+ s.rawDead → (added ++ addedEntries cs).length ≤ rawDeadMaxlen →
    added ++ addedEntries cs <:+ t.rawDead

lemma addedEntries_append (cs ds : List (StreamCmd Payload)) :
    addedEntries (cs ++ ds) = addedEntries cs ++ addedEntries ds := by
  simp [addedEntries]

lemma Streamed.nil (hpending : t.pending = s.pending) (hdead : t.rawDead = s.rawDead) :
    Streamed [] s t where
  pending id := by simp [hpending]
  source e he := .inl (hdead ▸ he)
  appended added h _ := by simpa [addedEntries, hdead] using h

lemma Streamed.trans (h₁ : Streamed cs s t) (h₂ : Streamed ds t u) : Streamed (cs ++ ds) s u where
  pending id := by rw [h₂.pending, h₁.pending, mem_append]; tauto
  source e he := by
    rw [mem_append]
    rcases h₂.source e he with h | h
    · exact (h₁.source e h).imp_right .inl
    · exact .inr (.inr h)
  appended added h hlen := by
    rw [addedEntries_append, ← append_assoc] at hlen ⊢
    have hfirst : (added ++ addedEntries cs).length ≤ rawDeadMaxlen := by
      simp only [length_append] at hlen ⊢; omega
    exact h₂.appended _ (h₁.appended added h hfirst) hlen

lemma Streamed.mem_rawDead (h : Streamed cs s t) (hlen : (addedEntries cs).length ≤ rawDeadMaxlen)
    (he : .xadd e ∈ cs) : e ∈ t.rawDead := by
  have hsuffix := h.appended [] nil_suffix (by simpa using hlen)
  exact hsuffix.subset (by simpa using mem_addedEntries.2 he)

/-- Accepted commands change nothing but the stream. -/
structure Sent (cs : List (StreamCmd Payload)) (s t : ShardState Payload) : Prop
    extends Streamed cs s t where
  positions : t.positions = s.positions
  statements : t.statements = s.statements

lemma Sent.nil (s : ShardState Payload) : Sent [] s s := ⟨.nil rfl rfl, rfl, rfl⟩

lemma Sent.setStats (h : Sent cs s t) (stats : ShardStats) : Sent cs s { t with stats := stats } :=
  ⟨⟨h.pending, h.source, h.appended⟩, h.positions, h.statements⟩

lemma sent_apply (evict : ℕ → ℕ) (s : ShardState Payload) (c : StreamCmd Payload) :
    Sent [c] s (c.apply evict s) := by
  cases c with
  | xack id =>
    refine ⟨⟨fun x => ?_, fun e he => .inl he, fun added h _ => ?_⟩, rfl, rfl⟩
    · simp [StreamCmd.apply]
    · simpa [addedEntries, StreamCmd.apply] using h
  | xadd e =>
    refine ⟨⟨fun x => ?_, fun x hx => ?_, fun added h hlen => ?_⟩, rfl, rfl⟩
    · simp [StreamCmd.apply]
    · simpa using mem_of_mem_drop hx
    · -- the evicted prefix is shorter than what stands before `added`
      obtain ⟨old, hold⟩ := h
      simp only [addedEntries, filterMap_cons, filterMap_nil] at hlen ⊢
      simp only [StreamCmd.apply, ← hold]
      set k := min (evict (old ++ added ++ [e]).length)
        ((old ++ added ++ [e]).length - rawDeadMaxlen) with hk
      have hkold : k ≤ old.length := by
        simp only [length_append] at hk hlen ⊢
        omega
      rw [append_assoc, drop_append_of_le_length hkold]
      exact suffix_append _ _

lemma Sent.trans (h₁ : Sent cs s t) (h₂ : Sent ds t u) : Sent (cs ++ ds) s u where
  toStreamed := h₁.toStreamed.trans h₂.toStreamed
  positions := h₂.positions.trans h₁.positions
  statements := h₂.statements.trans h₁.statements

lemma sent_foldl (evict : ℕ → ℕ) (cs : List (StreamCmd Payload)) (s : ShardState Payload) :
    Sent cs s (cs.foldl (StreamCmd.apply evict) s) := by
  induction cs generalizing s with
  | nil => exact .nil s
  | cons c cs ih => exact (sent_apply evict s c).trans (ih _)

lemma pipeline_sent (reply : StreamCmd Payload → Reply) (evict : ℕ → ℕ)
    (cs : List (StreamCmd Payload)) (b : ShardState Payload) :
    Triple (· = b)
      (pipeline reply (StreamCmd.apply evict) cs : Eff PgError (ShardState Payload) Unit)
      ⟨fun _ s => Survives reply cs ∧ Sent (effective reply cs) b s, fun _ _ => False,
        fun s => ¬ Survives reply cs ∧ Sent (effective reply cs) b s⟩ := by
  rintro s rfl
  by_cases h : Survives reply cs
  · rw [pipeline_done h]
    exact ⟨h, sent_foldl evict _ s⟩
  · rw [pipeline_crashed h]
    exact ⟨h, sent_foldl evict _ s⟩

/-! ## The two conditions -/

/-- The rows of the batch that Postgres rejects, in the order `process` quarantines them. -/
def rejectedRows (d : Decoding Payload Decoded Table) (f : FailurePattern Payload)
    (entries : List (Entry Payload)) : List (Row Payload) :=
  (sortByFixTime (batchRows d entries)).filter fun row => f.Rejects row

/-- The failure pattern lets `process` come as far as its final acknowledgements. -/
structure ReachesAck (d : Decoding Payload Decoded Table) (f : FailurePattern Payload)
    (entries : List (Entry Payload)) (b : ShardState Payload) : Prop where
  malformed : Survives f.malformed (malformedPipeline (batchDead d entries))
  answered : Answered f b.statements (bisectStatements f (sortByFixTime (batchRows d entries)))
  rejected : Survives f.rejected (rejectedPipeline (rejectedRows d f entries))
  onBatch : (∃ row ∈ batchRows d entries, ¬ f.Rejects row) → f.onBatch = .ok

/-- Whenever the acknowledgement of an entry that belongs in `raw:dead` takes effect, so does the
`XADD` of that entry. -/
structure KeepsQuarantine (d : Decoding Payload Decoded Table) (f : FailurePattern Payload)
    (entries : List (Entry Payload)) (b : ShardState Payload) : Prop where
  malformed : ∀ e ∈ batchDead d entries,
    .xack e.id ∈ effective f.malformed (malformedPipeline (batchDead d entries)) →
      .xadd e ∈ effective f.malformed (malformedPipeline (batchDead d entries))
  rejected : ReachesAck d f entries b → ∀ row ∈ rejectedRows d f entries,
    .xack row.2.id ∈ effective f.ack (ackPipeline (batchRows d entries)) →
      f.rejected (.xadd row.2) = .ok

/-- Every entry of the batch that is no longer pending is a row of `positions`, or its payload is
in `raw:dead`. -/
def NoLoss (d : Decoding Payload Decoded Table) (entries : List (Entry Payload))
    (s : ShardState Payload) : Prop :=
  ∀ e ∈ entries, e.id ∉ s.pending →
    (∃ r, toRecord d (batchDevices d entries) e = some r ∧ Stored s r) ∨
      ∃ x ∈ s.rawDead, x.payload = e.payload

/-- The batch is delivered for the first time: its payloads are told apart from one another and from
those of `raw:dead`, and no other row stands under the key of a row that Postgres rejects. -/
structure FirstDelivery (d : Decoding Payload Decoded Table) (f : FailurePattern Payload)
    (entries : List (Entry Payload)) (b : ShardState Payload) : Prop where
  payload_nodup : (entries.map Entry.payload).Nodup
  payload_fresh : ∀ e ∈ entries, ∀ x ∈ b.rawDead, x.payload ≠ e.payload
  key_fresh : ∀ row ∈ batchRows d entries, f.Rejects row → ∀ r ∈ b.positions, r.key ≠ row.1.key
  key_apart : ∀ row ∈ batchRows d entries, f.Rejects row →
    ∀ row' ∈ batchRows d entries, ¬ f.Rejects row' → row'.1.key ≠ row.1.key

/-! ## The phases of `process` -/

/-- How far a call of `process` came, and what it did on the way. -/
inductive Processed (d : Decoding Payload Decoded Table) (f : FailurePattern Payload)
    (entries : List (Entry Payload)) (b t : ShardState Payload) : Prop
  /-- It reached its final acknowledgements. -/
  | acked (s₁ s₂ s₃ : ShardState Payload) (reached : ReachesAck d f entries b)
      (malformed : Sent (effective f.malformed (malformedPipeline (batchDead d entries))) b s₁)
      (inserted : Inserted f ((batchRows d entries).map fst) s₁ s₂)
      (stored : ∀ row ∈ batchRows d entries, ¬ f.Rejects row → Stored s₂ row.1)
      (copied : Sent (effective f.rejected (rejectedPipeline (rejectedRows d f entries))) s₂ s₃)
      (acked : Sent (effective f.ack (ackPipeline (batchRows d entries))) s₃ t)
  /-- It ended before them. -/
  | stopped (s₁ s₂ : ShardState Payload) (copies : List (StreamCmd Payload))
      (stopped : ¬ ReachesAck d f entries b)
      (malformed : Sent (effective f.malformed (malformedPipeline (batchDead d entries))) b s₁)
      (inserted : Inserted f ((batchRows d entries).map fst) s₁ s₂)
      (sublist : copies.Sublist (rejectedPipeline (rejectedRows d f entries)))
      (copied : Sent copies s₂ t)

lemma Inserted.setStats (h : Inserted f records s t) (stats : ShardStats) :
    Inserted f records s { t with stats := stats } :=
  ⟨h.pending, h.rawDead, h.kept, h.source⟩

lemma when_quarantine_triple {α : Type} [DecidableEq α] (reply : StreamCmd Payload → Reply)
    (evict : ℕ → ℕ) {items : List α} (n : ℕ) (hcs : items = [] → cs = []) (b : ShardState Payload) :
    Triple (· = b) (when (items ≠ []) (quarantine reply evict cs n))
      ⟨fun _ s => Survives reply cs ∧ Sent (effective reply cs) b s, fun _ _ => False,
        fun s => ¬ Survives reply cs ∧ Sent (effective reply cs) b s⟩ := by
  refine Triple.when (fun _ => ?_) fun hitems => ?_
  · refine Triple.bind (pipeline_sent reply evict cs b) fun _ s ⟨hsurv, hsent⟩ => ?_
    exact ⟨hsurv, hsent.setStats _⟩
  · rintro s rfl
    obtain rfl := hcs (not_not.1 hitems)
    exact ⟨by simp [Survives], .nil s⟩

lemma mem_sortByFixTime : row ∈ sortByFixTime rows ↔ row ∈ rows := by
  simp [sortByFixTime]

lemma kept_ne_nil [DecidableEq Payload] :
    (sortByFixTime (batchRows d entries)).filter (· ∉ rejectedRows d f entries) ≠ [] ↔
      ∃ row ∈ batchRows d entries, ¬ f.Rejects row := by
  simp only [ne_eq, filter_eq_nil_iff, not_forall]
  constructor
  · rintro ⟨row, hrow, hkept⟩
    refine ⟨row, mem_sortByFixTime.1 hrow, fun hrej => hkept ?_⟩
    simp [rejectedRows, hrow, hrej]
  · rintro ⟨row, hrow, hrej⟩
    exact ⟨row, mem_sortByFixTime.2 hrow, by simp [rejectedRows, hrej]⟩

/-- What comes after the insert: the rejected rows are copied, the batch is handed downstream and
the rest is acknowledged. -/
lemma acknowledge_triple [DecidableEq Payload] {s₁ s₂ : ShardState Payload}
    (hsurv : Survives f.malformed (malformedPipeline (batchDead d entries)))
    (hans : Answered f b.statements (bisectStatements f (sortByFixTime (batchRows d entries))))
    (hmal : Sent (effective f.malformed (malformedPipeline (batchDead d entries))) b s₁)
    (hins : Inserted f ((batchRows d entries).map fst) s₁ s₂)
    (hstored : ∀ row ∈ batchRows d entries, ¬ f.Rejects row → Stored s₂ row.1) :
    Triple (· = s₂)
      (do
        when (rejectedRows d f entries ≠ []) (quarantine f.rejected f.evict
          (rejectedPipeline (rejectedRows d f entries)) (rejectedRows d f entries).length)
        when ((sortByFixTime (batchRows d entries)).filter (· ∉ rejectedRows d f entries) ≠ [])
          (call f.onBatch ⟨none⟩ id)
        pipeline f.ack (StreamCmd.apply f.evict) (ackPipeline (batchRows d entries)))
      (Post.always (Processed d f entries b)) := by
  have hsub : (effective f.rejected (rejectedPipeline (rejectedRows d f entries))).Sublist
      (rejectedPipeline (rejectedRows d f entries)) := effective_sublist _
  refine Triple.bind ((when_quarantine_triple f.rejected f.evict _ (fun h => by rw [h]; rfl)
    s₂).mono (fun _ h => h) (fun _ _ h => h) (fun _ _ h => h.elim) ?_) fun _ s₃ ⟨hrej, hcopied⟩ => ?_
  · exact fun s₃ ⟨hrej, hcopied⟩ =>
      .stopped s₁ s₂ _ (fun h => hrej h.rejected) hmal hins hsub hcopied
  have hstop : f.onBatch ≠ .ok → (∃ row ∈ batchRows d entries, ¬ f.Rejects row) →
      Processed d f entries b s₃ := fun hno hkept =>
    .stopped s₁ s₂ _ (fun h => hno (h.onBatch hkept)) hmal hins hsub hcopied
  refine Triple.bind (P := (· = s₃)) (I := fun _ s => s = s₃ ∧ ReachesAck d f entries b)
    (Triple.when (fun hkept => ?_) fun hkept => ?_) (fun _ => ?_) s₃ rfl
  · rw [kept_ne_nil] at hkept
    rintro s rfl
    unfold call
    split
    · rename_i hok
      exact ⟨rfl, hsurv, hans, hrej, fun _ => hok⟩
    · rename_i hno
      exact hstop (by simp [hno]) hkept
    · rename_i hno
      exact hstop (by simp [hno]) hkept
  · rw [kept_ne_nil] at hkept
    exact fun s hs => ⟨hs, hsurv, hans, hrej, fun h => absurd h hkept⟩
  · rintro s ⟨rfl, hreach⟩
    have hack := pipeline_sent f.ack f.evict (ackPipeline (batchRows d entries)) s
    refine hack.mono (fun _ h => h) (fun _ t ht => ?_) (fun _ _ h => h.elim) (fun t ht => ?_) s rfl
    · exact .acked s₁ s₂ s hreach hmal hins hstored hcopied ht.2
    · exact .acked s₁ s₂ s hreach hmal hins hstored hcopied ht.2

lemma process_triple [DecidableEq Payload] (d : Decoding Payload Decoded Table)
    (f : FailurePattern Payload)
    (entries : List (Entry Payload)) (b : ShardState Payload) :
    Triple (· = b) (process d f entries) (Post.always (Processed d f entries b)) := by
  unfold process
  refine Triple.bind ((when_quarantine_triple f.malformed f.evict _ (fun h => by rw [h]; rfl)
    b).mono (fun _ h => h) (fun _ _ h => h) (fun _ _ h => h.elim) ?_) fun _ s₁ ⟨hsurv, hmal⟩ => ?_
  · exact fun s₁ ⟨hsurv, hmal⟩ =>
      .stopped s₁ s₁ [] (fun h => hsurv h.malformed) hmal .refl (nil_sublist _) (.nil s₁)
  refine Triple.when (P := (· = s₁)) (fun hrows => ?_) (fun hrows => ?_) s₁ rfl
  · have hsorted : ∀ r ∈ (sortByFixTime (batchRows d entries)).map fst,
        r ∈ (batchRows d entries).map fst := by
      simp [mem_sortByFixTime]
    have hstop : ∀ t, CutShort f ((sortByFixTime (batchRows d entries)).map fst)
        (bisectStatements f (sortByFixTime (batchRows d entries))) s₁ t →
          Processed d f entries b t := fun t ht =>
      .stopped s₁ t [] (fun h => ht.unanswered (hmal.statements ▸ h.answered)) hmal
        (ht.toInserted.mono hsorted) (nil_sublist _) (.nil t)
    refine Triple.bind ((write_triple f _ s₁).mono (fun _ h => h) (fun _ _ h => h)
      (fun _ => hstop) hstop) ?_
    rintro ⟨inserted, bad⟩ s₂ ⟨hans, hbad, hstored⟩
    obtain rfl : bad = rejectedRows d f entries := hbad
    refine Triple.bind (P := (· = s₂)) (I := fun _ s =>
      Inserted f ((batchRows d entries).map fst) s₁ s ∧
        ∀ row ∈ batchRows d entries, ¬ f.Rejects row → Stored s row.1) ?_ ?_ s₂ rfl
    · rintro s rfl
      exact ⟨(hans.toInserted.mono hsorted).setStats _,
        fun row hrow => hstored row (mem_sortByFixTime.2 hrow)⟩
    · rintro _ s ⟨hins, hst⟩
      exact acknowledge_triple hsurv (hmal.statements ▸ hans.answered) hmal hins hst s rfl
  · -- nothing decodes: there is nothing to insert and nothing left to acknowledge
    have hnil : batchRows d entries = [] := not_not.1 hrows
    have hrej : rejectedRows d f entries = [] := by simp [rejectedRows, hnil, sortByFixTime]
    rintro s rfl
    refine .acked s s s ⟨hsurv, ?_, ?_, ?_⟩ hmal .refl (by simp [hnil]) ?_ ?_
    · simp [hnil, sortByFixTime, bisectStatements, Answered]
    · simp [hrej, rejectedPipeline, Survives]
    · simp [hnil]
    · simpa [hrej, rejectedPipeline, effective] using Sent.nil s
    · simpa [hnil, ackPipeline, effective] using Sent.nil s

/-! ## The main result -/

lemma mem_batchRows : row ∈ batchRows d entries ↔
      row.2 ∈ entries ∧ toRecord d (batchDevices d entries) row.2 = some row.1 := by
  obtain ⟨r, e⟩ := row
  simp only [batchRows, mem_filterMap, Option.map_eq_some_iff, mk.injEq]
  constructor
  · rintro ⟨e', he', r', hr', rfl, rfl⟩
    exact ⟨he', hr'⟩
  · exact fun ⟨he, hr⟩ => ⟨e, he, r, hr, rfl, rfl⟩

lemma mem_batchDead : e ∈ batchDead d entries ↔
      e ∈ entries ∧ toRecord d (batchDevices d entries) e = none := by
  simp only [batchDead, mem_append, mem_filter, Bool.and_eq_true, Option.isNone_iff_eq_none]
  cases hdec : d.decode e.payload with
  | none => simp [toRecord, hdec]
  | some p => simp

lemma length_batchDead_add_length_batchRows (d : Decoding Payload Decoded Table)
    (entries : List (Entry Payload)) :
    (batchDead d entries).length + (batchRows d entries).length = entries.length := by
  unfold batchDead batchRows
  generalize batchDevices d entries = devices
  rw [length_append]
  induction entries with
  | nil => rfl
  | cons e es ih =>
    cases hdec : d.decode e.payload with
    | none => simp [toRecord, hdec] at ih ⊢; omega
    | some p =>
      cases hrec : toRecord d devices e with
      | none => simp [hdec, hrec] at ih ⊢; omega
      | some r => simp [hdec, hrec] at ih ⊢; omega

lemma xadd_mem_malformedPipeline : .xadd e ∈ malformedPipeline dead ↔ e ∈ dead := by
  simp [malformedPipeline]

lemma xack_mem_malformedPipeline {id : EntryId} :
    .xack id ∈ malformedPipeline dead ↔ ∃ e ∈ dead, e.id = id := by
  simp [malformedPipeline, eq_comm]

lemma xadd_mem_rejectedPipeline : .xadd e ∈ rejectedPipeline bad ↔ ∃ row ∈ bad, row.2 = e := by
  simp [rejectedPipeline]

lemma xack_not_mem_rejectedPipeline {id : EntryId} : .xack id ∉ rejectedPipeline bad := by
  simp [rejectedPipeline]

lemma xadd_not_mem_ackPipeline : .xadd e ∉ ackPipeline rows := by
  simp [ackPipeline]

lemma xack_mem_ackPipeline {id : EntryId} :
    .xack id ∈ ackPipeline rows ↔ ∃ row ∈ rows, row.2.id = id := by
  simp [ackPipeline]

lemma mem_rejectedRows :
    row ∈ rejectedRows d f entries ↔ row ∈ batchRows d entries ∧ f.Rejects row := by
  simp [rejectedRows, mem_sortByFixTime]

lemma length_addedEntries_le {quarantined : List (StreamCmd Payload)}
    (hquarantined : quarantined.Sublist (malformedPipeline (batchDead d entries)))
    (hcopies : copies.Sublist (rejectedPipeline (rejectedRows d f entries)))
    (hacks : acks.Sublist (ackPipeline (batchRows d entries))) :
    (addedEntries (quarantined ++ (copies ++ acks))).length ≤ entries.length := by
  have hdead : addedEntries (malformedPipeline (batchDead d entries)) = batchDead d entries := by
    generalize batchDead d entries = dead
    induction dead with
    | nil => rfl
    | cons e es ih => simpa [addedEntries, malformedPipeline] using ih
  have hbad : addedEntries (rejectedPipeline (rejectedRows d f entries)) =
      (rejectedRows d f entries).map snd := by
    simp [addedEntries, rejectedPipeline, filterMap_map]
  have hack : addedEntries acks = [] := by
    refine eq_nil_iff_forall_not_mem.2 fun e he => ?_
    exact xadd_not_mem_ackPipeline (hacks.subset (mem_addedEntries.1 he))
  have h₁ := (hquarantined.filterMap fun
    | .xadd e => some e
    | .xack _ => none).length_le
  have h₂ := (hcopies.filterMap fun
    | .xadd e => some e
    | .xack _ => none).length_le
  have h₃ : (rejectedRows d f entries).length ≤ (batchRows d entries).length := by
    refine (length_filter_le _ _).trans ?_
    simp [sortByFixTime]
  have hsum := length_batchDead_add_length_batchRows d entries
  change (addedEntries quarantined).length ≤ (addedEntries _).length at h₁
  change (addedEntries copies).length ≤ (addedEntries _).length at h₂
  rw [hdead] at h₁
  rw [hbad, length_map] at h₂
  rw [addedEntries_append, addedEntries_append, hack, append_nil, length_append]
  omega

/-- The commands that took effect in a call, seen from its end. -/
lemma Processed.streamed (h : Processed d f entries b t) :
    ∃ copies acks,
      copies.Sublist (rejectedPipeline (rejectedRows d f entries)) ∧
      acks.Sublist (ackPipeline (batchRows d entries)) ∧
      Streamed (effective f.malformed (malformedPipeline (batchDead d entries)) ++
        (copies ++ acks)) b t ∧
      (acks ≠ [] → ReachesAck d f entries b) ∧
      (ReachesAck d f entries b →
        copies = effective f.rejected (rejectedPipeline (rejectedRows d f entries)) ∧
        acks = effective f.ack (ackPipeline (batchRows d entries)) ∧
        ∀ row ∈ batchRows d entries, ¬ f.Rejects row → Stored t row.1) ∧
      ∀ r ∈ t.positions, r ∈ b.positions ∨
        r ∈ (batchRows d entries).map fst ∧ f.rowError r = none := by
  have hins : ∀ {s₁ s₂ : ShardState Payload},
      Inserted f ((batchRows d entries).map fst) s₁ s₂ → Streamed [] s₁ s₂ :=
    fun h => .nil h.pending h.rawDead
  cases h with
  | acked s₁ s₂ s₃ reached malformed inserted stored copied acked =>
    have hpos : t.positions = s₂.positions := acked.positions.trans copied.positions
    refine ⟨_, _, effective_sublist _, effective_sublist _, ?_, fun _ => reached,
      fun _ => ⟨rfl, rfl, fun row hrow hrej => ?_⟩, fun r hr => ?_⟩
    · have := (malformed.toStreamed.trans (hins inserted)).trans
        (copied.toStreamed.trans acked.toStreamed)
      rwa [append_nil] at this
    · unfold Stored
      rw [hpos]
      exact stored row hrow hrej
    · rw [hpos] at hr
      exact malformed.positions ▸ inserted.source r hr
  | stopped s₁ s₂ copies stopped malformed inserted sublist copied =>
    refine ⟨copies, [], sublist, nil_sublist _, ?_, fun h => absurd rfl h,
      fun h => absurd h stopped, fun r hr => ?_⟩
    · have := (malformed.toStreamed.trans (hins inserted)).trans copied.toStreamed
      rwa [append_nil, ← append_nil copies] at this
    · rw [copied.positions] at hr
      exact malformed.positions ▸ inserted.source r hr

lemma eq_of_id_eq (hnodup : (entries.map Entry.id).Nodup) {e' : Entry Payload} (he : e ∈ entries)
    (he' : e' ∈ entries) (h : e.id = e'.id) : e = e' :=
  inj_on_of_nodup_map hnodup he he' h

lemma noLoss_of_keepsQuarantine (hpending : ∀ e ∈ entries, e.id ∈ b.pending)
    (hnodup : (entries.map Entry.id).Nodup) (hlen : entries.length ≤ rawDeadMaxlen)
    (h : Processed d f entries b t) (hkeeps : KeepsQuarantine d f entries b) :
    NoLoss d entries t := by
  obtain ⟨copies, acks, hcopies, hacks, hstream, hreach, hdone, -⟩ := h.streamed
  have hquarantined : (effective f.malformed (malformedPipeline (batchDead d entries))).Sublist
      (malformedPipeline (batchDead d entries)) := effective_sublist _
  have hfits := (length_addedEntries_le hquarantined hcopies hacks).trans hlen
  intro e he hout
  have hacked : .xack e.id ∈ effective f.malformed (malformedPipeline (batchDead d entries)) ++
      (copies ++ acks) := by
    by_contra hno
    exact hout ((hstream.pending e.id).2 ⟨hpending e he, hno⟩)
  rcases mem_append.1 hacked with hmal | hrest
  · -- acknowledged with the malformed entries: copied there too
    obtain ⟨e', he', hid⟩ := xack_mem_malformedPipeline.1 (effective_subset hmal)
    obtain rfl := eq_of_id_eq hnodup (mem_batchDead.1 he').1 he hid
    exact .inr ⟨e', hstream.mem_rawDead hfits
      (mem_append_left _ (hkeeps.malformed e' he' hmal)), rfl⟩
  · have hack : .xack e.id ∈ acks := (mem_append.1 hrest).resolve_left fun h =>
      xack_not_mem_rejectedPipeline (hcopies.subset h)
    have hr := hreach (ne_nil_of_mem hack)
    obtain ⟨rfl, rfl, hstored⟩ := hdone hr
    obtain ⟨row, hrow, hid⟩ := xack_mem_ackPipeline.1 (hacks.subset hack)
    obtain rfl := eq_of_id_eq hnodup (mem_batchRows.1 hrow).1 he hid
    by_cases hrej : f.Rejects row
    · -- rejected by Postgres: copied before this acknowledgement
      have hbad := mem_rejectedRows.2 ⟨hrow, hrej⟩
      have hadd : .xadd row.2 ∈ effective f.rejected
          (rejectedPipeline (rejectedRows d f entries)) :=
        (mem_effective_of_survives hr.rejected).2
          ⟨xadd_mem_rejectedPipeline.2 ⟨row, hbad, rfl⟩, hkeeps.rejected hr row hbad hack⟩
      exact .inr ⟨row.2, hstream.mem_rawDead hfits
        (mem_append_right _ (mem_append_left _ hadd)), rfl⟩
    · exact .inl ⟨row.1, (mem_batchRows.1 hrow).2, hstored row hrow hrej⟩

lemma xadd_of_payload_mem (hfirst : FirstDelivery d f entries b)
    (hcopies : copies.Sublist (rejectedPipeline (rejectedRows d f entries)))
    (hacks : acks.Sublist (ackPipeline (batchRows d entries)))
    (hstream : Streamed (effective f.malformed (malformedPipeline (batchDead d entries)) ++
      (copies ++ acks)) b t) (he : e ∈ entries) (hx : ∃ x ∈ t.rawDead, x.payload = e.payload) :
    .xadd e ∈ effective f.malformed (malformedPipeline (batchDead d entries)) ∧
        e ∈ batchDead d entries ∨
      .xadd e ∈ copies ∧ ∃ r, toRecord d (batchDevices d entries) e = some r := by
  obtain ⟨x, hx, hpay⟩ := hx
  have hown : ∀ y ∈ entries, y.payload = e.payload → y = e := fun y hy h =>
    inj_on_of_nodup_map hfirst.payload_nodup hy he h
  have hadd := (hstream.source x hx).resolve_left fun h => hfirst.payload_fresh e he x h hpay
  rcases mem_append.1 hadd with hmal | hrest
  · have hdead := xadd_mem_malformedPipeline.1 (effective_subset hmal)
    obtain rfl := hown x (mem_batchDead.1 hdead).1 hpay
    exact .inl ⟨hmal, hdead⟩
  · have hcopy : .xadd x ∈ copies := (mem_append.1 hrest).resolve_right fun h =>
      xadd_not_mem_ackPipeline (hacks.subset h)
    obtain ⟨row, hrow, rfl⟩ := xadd_mem_rejectedPipeline.1 (hcopies.subset hcopy)
    have hmem := mem_batchRows.1 (mem_rejectedRows.1 hrow).1
    obtain rfl := hown row.2 hmem.1 hpay
    exact .inr ⟨hcopy, row.1, hmem.2⟩

lemma keepsQuarantine_of_noLoss (hfirst : FirstDelivery d f entries b)
    (h : Processed d f entries b t) (hno : NoLoss d entries t) : KeepsQuarantine d f entries b := by
  obtain ⟨copies, acks, hcopies, hacks, hstream, hreach, hdone, hsource⟩ := h.streamed
  have hgone : ∀ id, .xack id ∈ effective f.malformed
      (malformedPipeline (batchDead d entries)) ++ (copies ++ acks) → id ∉ t.pending :=
    fun id hid hin => ((hstream.pending id).1 hin).2 hid
  have howner : ∀ e ∈ entries, (∃ x ∈ t.rawDead, x.payload = e.payload) → _ :=
    fun e he => xadd_of_payload_mem hfirst hcopies hacks hstream he
  constructor
  · intro e he hack
    obtain ⟨hmem, hrec⟩ := mem_batchDead.1 he
    rcases hno e hmem (hgone e.id (mem_append_left _ hack)) with ⟨r, hr, -⟩ | hx
    · rw [hrec] at hr
      exact absurd hr (by simp)
    · rcases howner e hmem hx with ⟨hadd, -⟩ | ⟨-, r, hr⟩
      · exact hadd
      · rw [hrec] at hr
        exact absurd hr (by simp)
  · intro hr row hrow hack
    obtain ⟨rfl, rfl, -⟩ := hdone hr
    obtain ⟨hbatch, hrej⟩ := mem_rejectedRows.1 hrow
    obtain ⟨hmem, hrec⟩ := mem_batchRows.1 hbatch
    have hout := hgone row.2.id (mem_append_right _ (mem_append_right _ hack))
    rcases hno row.2 hmem hout with ⟨r, hr', x, hx, hkey⟩ | hx
    · -- no row of the table can stand for a rejected one
      obtain rfl : row.1 = r := Option.some.inj (hrec.symm.trans hr')
      rcases hsource x hx with hx | ⟨hx, hclean⟩
      · exact absurd hkey (hfirst.key_fresh row hbatch hrej x hx)
      · obtain ⟨row', hrow', rfl⟩ := mem_map.1 hx
        refine absurd hkey (hfirst.key_apart row hbatch hrej row' hrow' ?_)
        simp [FailurePattern.Rejects, hclean]
    · rcases howner row.2 hmem hx with ⟨-, hdead⟩ | ⟨hadd, -⟩
      · rw [(mem_batchDead.1 hdead).2] at hrec
        exact absurd hrec (by simp)
      · exact reply_of_mem_effective hadd

/-- **No acknowledged entry is lost, exactly when quarantine comes before acknowledgement.**  For
every batch of pending entries and every failure pattern, whether the call returns, throws or is
killed: if every effective acknowledgement of an entry bound for `raw:dead` comes with an effective
`XADD` of it, then each entry that left the pending list is in `positions` or in `raw:dead`; and on
a first delivery nothing less than that will do. -/
theorem process_noLoss_iff [DecidableEq Payload] (d : Decoding Payload Decoded Table)
    (f : FailurePattern Payload) (entries : List (Entry Payload)) (b : ShardState Payload)
    (hpending : ∀ e ∈ entries, e.id ∈ b.pending) (hnodup : (entries.map Entry.id).Nodup)
    (hlen : entries.length ≤ rawDeadMaxlen) :
    (KeepsQuarantine d f entries b → NoLoss d entries (process d f entries b).state) ∧
      (FirstDelivery d f entries b →
        (NoLoss d entries (process d f entries b).state ↔ KeepsQuarantine d f entries b)) := by
  have h : Processed d f entries b (process d f entries b).state :=
    Post.always_holds.1 (process_triple d f entries b b rfl)
  have hsuff := noLoss_of_keepsQuarantine hpending hnodup hlen h
  exact ⟨hsuff, fun hfirst => ⟨keepsQuarantine_of_noLoss hfirst h, hsuff⟩⟩

/-- A stream whose payloads never decode. -/
def undecodable : Decoding ℕ Unit Unit where
  decode _ := none
  deviceId _ := none
  resolveBatch _ _ := none
  normalize _ _ := none

/-- Redis refuses every `XADD` of a pipeline and accepts every `XACK`. -/
def xaddRefused : FailurePattern ℕ where
  malformed
    | .xadd _ => .error
    | .xack _ => .ok
  rejected _ := .error
  ack _ := .ok
  insert _ := .ok
  outage := ⟨none⟩
  outage_transient := rfl
  rowError _ := none
  rowError_rejects := by simp
  onBatch := .ok
  evict _ := 0

/-- One entry is pending, and nothing has been stored yet. -/
def onePending : ShardState ℕ where
  pending := [7]
  positions := []
  rawDead := []
  statements := 0
  stats := ⟨0, 0, 0⟩

/-- The quarantine of the entry is refused in the pipeline that acknowledges it: the entry is gone
from the pending list, and its payload is nowhere. -/
theorem process_loses_refused_entry :
    (∀ e ∈ [(⟨7, 0⟩ : Entry ℕ)], e.id ∈ onePending.pending) ∧
      ¬ NoLoss undecodable [⟨7, 0⟩] (process undecodable xaddRefused [⟨7, 0⟩] onePending).state := by
  have hrun : process undecodable xaddRefused [⟨7, 0⟩] onePending =
      .done () { onePending with pending := [], stats := ⟨0, 0, 1⟩ } := by rfl
  refine ⟨by decide, fun h => ?_⟩
  rw [hrun] at h
  rcases h ⟨7, 0⟩ (by simp) (by simp [Outcome.state]) with ⟨r, hr, -⟩ | ⟨x, hx, -⟩
  · exact absurd hr (by simp [toRecord, undecodable])
  · exact absurd hx (by simp [Outcome.state, onePending])

/-- The same entry under the same refusals, as an instance of the general statement. -/
theorem process_noLoss_iff_refused :
    FirstDelivery undecodable xaddRefused [⟨7, 0⟩] onePending ∧
      (NoLoss undecodable [⟨7, 0⟩] (process undecodable xaddRefused [⟨7, 0⟩] onePending).state ↔
        KeepsQuarantine undecodable xaddRefused [⟨7, 0⟩] onePending) := by
  have hfirst : FirstDelivery undecodable xaddRefused [⟨7, 0⟩] onePending :=
    ⟨by decide, by simp [onePending], by simp [onePending],
      fun row _ hrej => absurd hrej (by simp [FailurePattern.Rejects, xaddRefused])⟩
  exact ⟨hfirst, (process_noLoss_iff undecodable xaddRefused [⟨7, 0⟩] onePending
    (by decide) (by decide) (by decide)).2 hfirst⟩

end Orbetra
