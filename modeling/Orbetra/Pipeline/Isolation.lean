import Orbetra.Pipeline.NoLoss

/-!
# The isolation of bad rows

`ShardConsumer.writeIsolatingBadRows`, as it is called by `process` (`process_eq`).

Where every statement is answered it returns exactly the rows that Postgres rejects, and stores the
others; where one is not, its error is thrown and no row is reported (`isolates_exactly`). -/

namespace Orbetra

open Eff

variable {Payload Decoded Table : Type}

/-- What `writeIsolatingBadRows` returns. -/
structure Isolated (Payload : Type) where
  inserted : ℕ
  kept : List NormalizedRecord
  rejected : List (Entry Payload)
  deriving DecidableEq

def writeIsolatingBadRows [DecidableEq Payload] (f : FailurePattern Payload)
    (rows : List (Row Payload)) : Eff PgError (ShardState Payload) (Isolated Payload) := do
  let (inserted, bad) ← write f rows
  if bad = [] then
    pure ⟨inserted, rows.map Prod.fst, []⟩
  else
    pure ⟨inserted, (rows.filter (· ∉ bad)).map Prod.fst, bad.map Prod.snd⟩

def processRows [DecidableEq Payload] (f : FailurePattern Payload) (rows : List (Row Payload)) :
    Eff PgError (ShardState Payload) Unit := do
  let result ← writeIsolatingBadRows f (sortByFixTime rows)
  countWritten result.inserted result.kept.length
  when (result.rejected ≠ [])
    (quarantine f.rejected f.evict (result.rejected.map .xadd) result.rejected.length)
  when (result.kept ≠ []) (call f.onBatch ⟨none⟩ id)
  pipeline f.ack (StreamCmd.apply f.evict) (ackPipeline rows)

/-! ## The errors of the statements -/

/-- A program ends in the error of the statement that it sent last, where that is an outage, or in
one that is a verdict on the rows, if `verdict` allows it. -/
def outagePost {α : Type} (f : FailurePattern Payload) (verdict : Prop) :
    Post PgError (ShardState Payload) α where
  done _ _ := True
  threw err s := err = f.outage ∧ (∃ n, s.statements = n + 1 ∧ f.insert n = .error) ∨
    verdict ∧ isRowRejection err = true
  crashed s := f.insert s.statements = .crash

lemma insertStatement_outage (f : FailurePattern Payload) (batch : List NormalizedRecord) :
    Triple (fun _ => True) (insertStatement f batch) (outagePost f True) := by
  intro s _
  unfold insertStatement
  split
  · assumption
  · exact .inl ⟨rfl, s.statements, rfl, by assumption⟩
  · split
    · rename_i err hv
      obtain ⟨r, -, hr⟩ := List.exists_of_findSome?_eq_some hv
      exact .inr ⟨trivial, f.rowError_rejects r err hr⟩
    · trivial

lemma writePositionsFrom_outage (f : FailurePattern Payload) (inserted : ℕ)
    (records : List NormalizedRecord) :
    Triple (fun _ => True) (writePositionsFrom f inserted records) (outagePost f True) := by
  induction inserted, records using writePositionsFrom.induct with
  | case1 inserted records h =>
    rw [writePositionsFrom, if_pos h]
    exact Triple.pure fun _ _ => trivial
  | case2 inserted records h ih =>
    rw [writePositionsFrom, if_neg h]
    exact Triple.bind (insertStatement_outage f _) ih

lemma write_outage (f : FailurePattern Payload) (recs : List (Row Payload)) :
    Triple (fun _ => True) (write f recs) (outagePost f False) := by
  induction recs using write.induct with
  | case1 recs h =>
    rw [write, if_pos h]
    exact Triple.pure fun _ _ => trivial
  | case2 recs h ihl ihr =>
    rw [write, if_neg h]
    refine Triple.attempt (E := (outagePost (α := ℕ) f True).threw) ?_ fun err s hs => ?_
    · refine Triple.bind (writePositionsFrom_outage f 0 _) fun _ => ?_
      exact Triple.pure fun _ _ => trivial
    · split
      · rename_i hrejection
        obtain houtage | ⟨-, hverdict⟩ := hs
        · exact .inl houtage
        · rw [hrejection] at hverdict
          cases hverdict
      · split
        · trivial
        · rename_i hlength
          refine Triple.bind (ihl hlength) (fun left => ?_) s trivial
          refine Triple.bind (ihr hlength) fun right => ?_
          exact Triple.pure fun _ _ => trivial

/-! ## What is kept and what is rejected -/

/-- What is asked of the isolation of a batch that starts in `b`. -/
def isolationPost (f : FailurePattern Payload) (rows : List (Row Payload))
    (b : ShardState Payload) : Post PgError (ShardState Payload) (Isolated Payload) where
  done result s :=
    result.rejected = (rows.filter (f.Rejects ·)).map Prod.snd ∧
    result.kept = (rows.filter (¬ f.Rejects ·)).map Prod.fst ∧
    (∀ row ∈ rows, ¬ f.Rejects row → Stored s row.1) ∧
    ∀ n, b.statements ≤ n → n < s.statements → f.insert n = .ok
  threw err s := err = f.outage ∧ isRowRejection err = false ∧
    ∃ n, s.statements = n + 1 ∧ f.insert n = .error
  crashed s := f.insert s.statements = .crash

lemma filter_notMem_rejected [DecidableEq Payload] (f : FailurePattern Payload)
    (rows : List (Row Payload)) :
    rows.filter (· ∉ rows.filter (f.Rejects ·)) = rows.filter (¬ f.Rejects ·) := by
  refine List.filter_congr fun row hrow => ?_
  simp [List.mem_filter, hrow]

/-- **Bad rows are isolated exactly.** -/
theorem isolates_exactly [DecidableEq Payload] (f : FailurePattern Payload)
    (rows : List (Row Payload)) (b : ShardState Payload) :
    (isolationPost f rows b).Holds (writeIsolatingBadRows f rows b) ∧
      ((∀ n, f.insert n = .ok) →
        ∃ result s, writeIsolatingBadRows f rows b = .done result s) := by
  have hwrite := write_triple f rows b b rfl
  have houtage := write_outage f rows b trivial
  cases hrun : write f rows b with
  | done result s =>
    obtain ⟨inserted, bad⟩ := result
    rw [hrun] at hwrite
    obtain ⟨hanswers, hbad, hstored⟩ := hwrite
    have hanswered : ∀ n, b.statements ≤ n → n < s.statements → f.insert n = .ok := by
      intro n hle hlt
      rw [hanswers.statements] at hlt
      have hn := hanswers.answered (n - b.statements) (by omega)
      rwa [Nat.add_sub_cancel' hle] at hn
    have hisolated : writeIsolatingBadRows f rows b = .done
        ⟨inserted, (rows.filter (¬ f.Rejects ·)).map Prod.fst,
          (rows.filter (f.Rejects ·)).map Prod.snd⟩ s := by
      unfold writeIsolatingBadRows
      rw [bind_done hrun]
      show (if bad = [] then _ else _ : Eff PgError _ _) s = _
      obtain rfl : bad = rows.filter (f.Rejects ·) := hbad
      split
      · rename_i hnone
        have hclean : rows.filter (¬ f.Rejects ·) = rows := by
          refine List.filter_eq_self.mpr fun row hrow => ?_
          have hrejects := List.filter_eq_nil_iff.mp hnone row hrow
          simpa using hrejects
        rw [hclean, hnone]
        rfl
      · rw [filter_notMem_rejected]
        rfl
    rw [hisolated]
    exact ⟨⟨rfl, rfl, hstored, hanswered⟩, fun _ => ⟨_, _, rfl⟩⟩
  | threw err s =>
    rw [hrun] at houtage
    obtain ⟨rfl, n, hn, herror⟩ | ⟨hfalse, -⟩ := houtage
    · have hisolated : writeIsolatingBadRows f rows b = .threw f.outage s := bind_threw hrun
      rw [hisolated]
      refine ⟨⟨rfl, f.outage_transient, n, hn, herror⟩, fun hok => ?_⟩
      rw [hok n] at herror
      cases herror
    · exact hfalse.elim
  | crashed s =>
    rw [hrun] at houtage
    have hisolated : writeIsolatingBadRows f rows b = .crashed s := bind_crashed hrun
    rw [hisolated]
    refine ⟨houtage, fun hok => ?_⟩
    have hcrash : f.insert s.statements = .crash := houtage
    rw [hok] at hcrash
    cases hcrash

end Orbetra
