import Orbetra.Commands.Seam

/-!
# Reconciliation

`apps/worker/src/commands/reconcile.ts`, with its two loops and its options.  The first loop walks
the queue and the responses side by side and settles the commands that have been answered; the
second walks on along the queue, and a command that has not been answered waits, is sent again or
has failed.

The loops sort the queue into four lists, in its order (`reconcileWith_eq`), and the tick of `Seam`
calls them with the options of the dispatcher (`reconcile_eq`).  No command is lost or settled
twice, and a second run at the same time settles nothing (`reconcile_partitions`). -/

namespace Orbetra.Commands

open List

structure ReconcileOpts where
  timeoutMs : Option Ms
  maxAttempts : Option ℤ
  isRetryable : Option (Text → Bool)

structure Reconciliation where
  acked : List (String × String)
  failed : List (String × String)
  resend : List Inflight
  remaining : List Inflight
  consumedResponses : ℕ
  deriving DecidableEq

namespace ReconcileOpts

variable (opts : ReconcileOpts) (nowMs : Ms)

/-- `isRetryable` -/
def retryable (text : Text) : Bool := opts.isRetryable.getD (fun _ => true) text

/-- The command is still within its response window. -/
def waits (cmd : Inflight) : Bool := nowMs - cmd.sentAtMs < opts.timeoutMs.getD Commands.timeoutMs

/-- The command is sent once more when it times out. -/
def retries (cmd : Inflight) : Bool :=
  opts.retryable cmd.text &&
    decide ((cmd.attempt : ℤ) + 1 < opts.maxAttempts.getD Commands.maxAttempts)

/-- Why a command has failed that is not sent once more. -/
def timeoutReason (cmd : Inflight) : String :=
  if opts.retryable cmd.text then "timeout (max retries)" else "timeout (non-retryable command)"

end ReconcileOpts

/-- A command that is sent once more. -/
def Inflight.again (cmd : Inflight) : Inflight := { cmd with attempt := cmd.attempt + 1 }

/-! ## The loops -/

/-- A turn of the first loop. -/
def Reconciliation.answer (r : Reconciliation) (cmd : Inflight) (res : CmdResponse) :
    Reconciliation :=
  if res.nack then
    { r with
      failed := r.failed ++ [(cmd.id, "device rejected (nack)")]
      consumedResponses := r.consumedResponses + 1 }
  else
    { r with
      acked := r.acked ++ [(cmd.id, res.text)]
      consumedResponses := r.consumedResponses + 1 }

/-- The first loop, and the commands that it has not reached. -/
def Reconciliation.answerAll :
    List Inflight → List CmdResponse → Reconciliation → Reconciliation × List Inflight
  | cmd :: inflight, res :: responses, r => answerAll inflight responses (r.answer cmd res)
  | inflight, _, r => (r, inflight)

/-- A turn of the second loop. -/
def Reconciliation.timeOut (opts : ReconcileOpts) (nowMs : Ms) (r : Reconciliation)
    (cmd : Inflight) : Reconciliation :=
  if opts.waits nowMs cmd then { r with remaining := r.remaining ++ [cmd] }
  else if opts.retries cmd then { r with resend := r.resend ++ [cmd.again] }
  else { r with failed := r.failed ++ [(cmd.id, opts.timeoutReason cmd)] }

def reconcileWith (inflight : List Inflight) (responses : List CmdResponse) (nowMs : Ms)
    (opts : ReconcileOpts) : Reconciliation :=
  let (r, unanswered) := Reconciliation.answerAll inflight responses ⟨[], [], [], [], 0⟩
  unanswered.foldl (Reconciliation.timeOut opts nowMs) r

section Loops

variable {opts : ReconcileOpts} {nowMs : Ms}

/-- **The first loop** goes by the pairs of commands and responses. -/
lemma answerAll_eq (inflight : List Inflight) (responses : List CmdResponse) (r : Reconciliation) :
    Reconciliation.answerAll inflight responses r =
      ({ r with
          acked := r.acked ++ ((inflight.zip responses).filter fun pair => !pair.2.nack).map
            fun pair => (pair.1.id, pair.2.text)
          failed := r.failed ++ ((inflight.zip responses).filter fun pair => pair.2.nack).map
            fun pair => (pair.1.id, "device rejected (nack)")
          consumedResponses := r.consumedResponses + (inflight.zip responses).length },
        inflight.drop responses.length) := by
  induction inflight generalizing responses r with
  | nil =>
    cases responses <;> simp [Reconciliation.answerAll]
  | cons cmd inflight ih =>
    cases responses with
    | nil => simp [Reconciliation.answerAll]
    | cons res responses =>
      rw [Reconciliation.answerAll, ih]
      unfold Reconciliation.answer
      cases hnack : res.nack <;>
        simp [hnack, Nat.add_comm, Nat.add_left_comm]

/-- **The second loop** sorts what has not been answered. -/
lemma foldl_timeOut (unanswered : List Inflight) (r : Reconciliation) :
    unanswered.foldl (Reconciliation.timeOut opts nowMs) r =
      { r with
        failed := r.failed ++
          ((unanswered.filter fun cmd => !opts.waits nowMs cmd).filter fun cmd =>
            !opts.retries cmd).map fun cmd => (cmd.id, opts.timeoutReason cmd)
        resend := r.resend ++
          ((unanswered.filter fun cmd => !opts.waits nowMs cmd).filter opts.retries).map
            Inflight.again
        remaining := r.remaining ++ unanswered.filter (opts.waits nowMs) } := by
  induction unanswered generalizing r with
  | nil => simp
  | cons cmd unanswered ih =>
    rw [foldl_cons, ih]
    unfold Reconciliation.timeOut
    cases hwaits : opts.waits nowMs cmd with
    | true => simp [hwaits]
    | false => cases hretries : opts.retries cmd <;> simp [hwaits, hretries]

/-- **Both loops**: the queue is sorted into four lists. -/
lemma reconcileWith_eq (inflight : List Inflight) (responses : List CmdResponse) :
    let pairs := inflight.zip responses
    let unanswered := inflight.drop responses.length
    let late := unanswered.filter fun cmd => !opts.waits nowMs cmd
    reconcileWith inflight responses nowMs opts =
      { acked := (pairs.filter fun pair => !pair.2.nack).map fun pair => (pair.1.id, pair.2.text)
        failed := ((pairs.filter fun pair => pair.2.nack).map fun pair =>
            (pair.1.id, "device rejected (nack)")) ++
          (late.filter fun cmd => !opts.retries cmd).map fun cmd => (cmd.id, opts.timeoutReason cmd)
        resend := (late.filter opts.retries).map Inflight.again
        remaining := unanswered.filter (opts.waits nowMs)
        consumedResponses := pairs.length } := by
  intro pairs unanswered late
  unfold reconcileWith
  rw [answerAll_eq]
  dsimp only
  rw [foldl_timeOut]
  simp only [nil_append, Nat.zero_add, pairs, late, unanswered]

end Loops

/-! ## The four lists -/

section Partition

variable {inflight : List Inflight} {responses : List CmdResponse} {nowMs : Ms}
  {opts : ReconcileOpts}

/-- The commands of the four lists. -/
def Reconciliation.ids (r : Reconciliation) : List String :=
  r.acked.map Prod.fst ++ r.failed.map Prod.fst ++ r.resend.map (·.id) ++ r.remaining.map (·.id)

/-- The commands that have been answered. -/
lemma map_fst_zip_ids (inflight : List Inflight) (responses : List CmdResponse) :
    (inflight.zip responses).map (·.1.id) = (inflight.take responses.length).map (·.id) := by
  induction inflight generalizing responses with
  | nil => rw [zip_nil_left, take_nil, map_nil, map_nil]
  | cons cmd inflight ih =>
    cases responses with
    | nil => rfl
    | cons res responses => exact congrArg (cmd.id :: ·) (ih responses)

lemma acked_ids : (reconcileWith inflight responses nowMs opts).acked.map Prod.fst =
    ((inflight.zip responses).filter fun pair => !pair.2.nack).map (·.1.id) := by
  rw [reconcileWith_eq]
  exact map_map

lemma failed_ids : (reconcileWith inflight responses nowMs opts).failed.map Prod.fst =
    ((inflight.zip responses).filter fun pair => pair.2.nack).map (·.1.id) ++
      (((inflight.drop responses.length).filter fun cmd => !opts.waits nowMs cmd).filter fun cmd =>
        !opts.retries cmd).map (·.id) := by
  rw [reconcileWith_eq]
  dsimp only
  rw [map_append, map_map, map_map]
  rfl

lemma resend_ids : (reconcileWith inflight responses nowMs opts).resend.map (·.id) =
    (((inflight.drop responses.length).filter fun cmd => !opts.waits nowMs cmd).filter
      opts.retries).map (·.id) := by
  rw [reconcileWith_eq]
  exact map_map

/-- What a test rejects and what it lets pass, in that order. -/
lemma filter_not_append_perm {α β : Type*} (p : α → Bool) (f : α → β) (l : List α) :
    ((l.filter fun a => !p a).map f ++ (l.filter p).map f).Perm (l.map f) := by
  rw [← map_append]
  exact (perm_append_comm.trans (filter_append_perm p l)).map f

/-- **No command is lost**, and none is in two of the lists. -/
lemma ids_perm : (reconcileWith inflight responses nowMs opts).ids.Perm (inflight.map (·.id)) := by
  set late := (inflight.drop responses.length).filter fun cmd => !opts.waits nowMs cmd with hlate
  have hanswered := filter_not_append_perm (fun pair : Inflight × CmdResponse => pair.2.nack)
    (·.1.id) (inflight.zip responses)
  have hfinished := filter_not_append_perm opts.retries (·.id) late
  have hunanswered := filter_not_append_perm (opts.waits nowMs) (·.id)
    (inflight.drop responses.length)
  have hremaining : (reconcileWith inflight responses nowMs opts).remaining =
      (inflight.drop responses.length).filter (opts.waits nowMs) := by
    rw [reconcileWith_eq]
  unfold Reconciliation.ids
  rw [acked_ids, failed_ids, resend_ids, hremaining, ← hlate]
  rw [map_fst_zip_ids] at hanswered
  rw [← hlate] at hunanswered
  conv_rhs => rw [← take_append_drop responses.length inflight, map_append]
  simp only [append_assoc]
  rw [← append_assoc]
  refine hanswered.append ?_
  rw [← append_assoc]
  exact (hfinished.append_right _).trans hunanswered

lemma answered_append_sublist (pairs : List (Inflight × CmdResponse)) (rest : List Inflight)
    (hpairs : pairs.Sublist (inflight.zip responses))
    (hrest : rest.Sublist (inflight.drop responses.length)) :
    (pairs.map (·.1.id) ++ rest.map (·.id)).Sublist (inflight.map (·.id)) := by
  conv_rhs => rw [← take_append_drop responses.length inflight, map_append]
  rw [← map_fst_zip_ids]
  exact (hpairs.map _).append (hrest.map _)

def Reconciliation.Settles (r : Reconciliation) (cmd : Inflight) (res : CmdResponse) : Prop :=
  if res.nack then (cmd.id, "device rejected (nack)") ∈ r.failed else (cmd.id, res.text) ∈ r.acked

lemma settles_of_mem_zip {cmd : Inflight} {res : CmdResponse}
    (h : (cmd, res) ∈ inflight.zip responses) :
    (reconcileWith inflight responses nowMs opts).Settles cmd res := by
  unfold Reconciliation.Settles
  rw [reconcileWith_eq]
  cases hnack : res.nack with
  | true =>
    refine mem_append_left _ (mem_map.2 ⟨(cmd, res), ?_, rfl⟩)
    exact mem_filter.2 ⟨h, hnack⟩
  | false =>
    refine mem_map.2 ⟨(cmd, res), mem_filter.2 ⟨h, ?_⟩, rfl⟩
    rw [hnack]
    rfl

/-- **The four lists**, over a queue and its responses. -/
structure Reconciliation.Partitions (r : Reconciliation) (inflight : List Inflight)
    (responses : List CmdResponse) (opts : ReconcileOpts) : Prop where
  ids : r.ids.Perm (inflight.map (·.id))
  nodup : r.ids.Nodup
  acked : (r.acked.map Prod.fst).Sublist (inflight.map (·.id))
  failed : (r.failed.map Prod.fst).Sublist (inflight.map (·.id))
  resend : (r.resend.map (·.id)).Sublist (inflight.map (·.id))
  remaining : r.remaining.Sublist inflight
  consumed : r.consumedResponses = min inflight.length responses.length
  settled : ∀ i (hi : i < inflight.length) (hi' : i < responses.length),
    r.Settles inflight[i] responses[i]
  answered : ∀ a ∈ r.acked, ∃ i, ∃ (hi : i < inflight.length) (hi' : i < responses.length),
    a = (inflight[i].id, responses[i].text)
  attempts : ∀ again ∈ r.resend, ∃ cmd ∈ inflight, again = { cmd with attempt := cmd.attempt + 1 } ∧
    (again.attempt : ℤ) < opts.maxAttempts.getD maxAttempts

/-- A queue whose commands all wait, without a response, stays as it is. -/
lemma reconcileWith_waiting (hwaits : ∀ cmd ∈ inflight, opts.waits nowMs cmd) :
    reconcileWith inflight [] nowMs opts = ⟨[], [], [], inflight, 0⟩ := by
  have hlate : inflight.filter (fun cmd => !opts.waits nowMs cmd) = [] :=
    filter_eq_nil_iff.2 fun cmd hcmd => by simp only [hwaits cmd hcmd, Bool.not_true]; decide
  rw [reconcileWith_eq]
  simp only [zip_nil_right, length_nil, drop_zero, hlate, filter_nil,
    map_nil, append_nil, filter_eq_self.2 hwaits]

lemma reconcileWith_remaining : reconcileWith
    (reconcileWith inflight responses nowMs opts).remaining
      (responses.drop (reconcileWith inflight responses nowMs opts).consumedResponses) nowMs opts =
        ⟨[], [], [], (reconcileWith inflight responses nowMs opts).remaining, 0⟩ := by
  have hremaining : (reconcileWith inflight responses nowMs opts).remaining =
      (inflight.drop responses.length).filter (opts.waits nowMs) := by
    rw [reconcileWith_eq]
  have hconsumed : (reconcileWith inflight responses nowMs opts).consumedResponses =
      min inflight.length responses.length := by
    rw [reconcileWith_eq]
    exact length_zip
  rw [hremaining, hconsumed]
  rcases le_total responses.length inflight.length with hle | hle
  · -- every response has been consumed
    rw [Nat.min_eq_right hle, drop_length]
    exact reconcileWith_waiting fun cmd hcmd => (mem_filter.1 hcmd).2
  · -- every command has been answered
    rw [drop_eq_nil_of_le hle, filter_nil]
    rw [reconcileWith_eq]
    simp only [zip_nil_left, drop_nil, filter_nil, map_nil, append_nil, length_nil]

/-- **Reconciliation partitions the queue.**  Every command of the queue is in one of the four
lists, once, and the lists are in the order of the queue; as many responses are consumed as there
are pairs, and the commands at their places are those that they settle; what is sent again has one
attempt more, below the maximum, and is otherwise as it was; and a second run settles nothing. -/
theorem reconcile_partitions (inflight : List Inflight) (responses : List CmdResponse) (nowMs : Ms)
    (opts : ReconcileOpts) (hids : (inflight.map (·.id)).Nodup) :
    let r := reconcileWith inflight responses nowMs opts
    r.Partitions inflight responses opts ∧
      reconcileWith r.remaining (responses.drop r.consumedResponses) nowMs opts =
        ⟨[], [], [], r.remaining, 0⟩ := by
  refine ⟨?_, reconcileWith_remaining⟩
  have hsettles : ∀ cmd res, (cmd, res) ∈ inflight.zip responses →
      (reconcileWith inflight responses nowMs opts).Settles cmd res := fun _ _ => settles_of_mem_zip
  constructor
  case ids => exact ids_perm
  case nodup => exact (ids_perm.nodup_iff).2 hids
  case acked =>
    rw [acked_ids, ← append_nil (map _ _)]
    exact answered_append_sublist _ [] filter_sublist (nil_sublist _)
  case failed =>
    rw [failed_ids]
    exact answered_append_sublist _ _ filter_sublist (filter_sublist.trans filter_sublist)
  case resend =>
    rw [resend_ids]
    exact answered_append_sublist [] _ (nil_sublist _) (filter_sublist.trans filter_sublist)
  case remaining =>
    rw [reconcileWith_eq]
    exact filter_sublist.trans (drop_sublist _ _)
  case consumed =>
    rw [reconcileWith_eq]
    exact length_zip
  case settled =>
    intro i hi hi'
    refine hsettles _ _ (mem_iff_getElem.2 ⟨i, ?_, getElem_zip⟩)
    rw [length_zip]
    exact lt_min hi hi'
  case answered =>
    intro a ha
    rw [reconcileWith_eq] at ha
    obtain ⟨pair, hpair, rfl⟩ := mem_map.1 ha
    obtain ⟨i, hi, rfl⟩ := mem_iff_getElem.1 (mem_filter.1 hpair).1
    rw [length_zip] at hi
    exact ⟨i, (lt_min_iff.1 hi).1, (lt_min_iff.1 hi).2, by rw [getElem_zip]⟩
  case attempts =>
    intro again hagain
    rw [reconcileWith_eq] at hagain
    obtain ⟨cmd, hcmd, rfl⟩ := mem_map.1 hagain
    obtain ⟨hlate, hretries⟩ := mem_filter.1 hcmd
    refine ⟨cmd, mem_of_mem_drop (mem_filter.1 hlate).1, rfl, ?_⟩
    exact of_decide_eq_true (Bool.and_eq_true_iff.1 hretries).2

def fourCommands : List Inflight :=
  [⟨"a", "getinfo".toList, 0, 0, none⟩, ⟨"b", "getver".toList, 0, 0, none⟩,
    ⟨"c", "getstatus".toList, 0, 0, some 86400000⟩, ⟨"d", "cpureset".toList, 0, 20000, none⟩]

/-- The four commands after half a minute: one in each list. -/
theorem reconcile_partitions_fourCommands :
    let responses : List CmdResponse := [⟨"ok", false, "a", 0⟩, ⟨"no", true, "b", 1⟩]
    let r := reconcileWith fourCommands responses 30000 ⟨none, none, none⟩
    (r.acked.map Prod.fst, r.failed.map Prod.fst, r.resend.map (·.id), r.remaining.map (·.id)) =
        (["a"], ["b"], ["c"], ["d"]) ∧
      r.Partitions fourCommands responses ⟨none, none, none⟩ :=
  ⟨by decide +kernel, (reconcile_partitions fourCommands _ 30000 ⟨none, none, none⟩ (by decide)).1⟩

end Partition

end Orbetra.Commands
