import Orbetra.Commands.Copies
import Orbetra.Framework.Update

/-!
# How often a command is written

For one command, the copies that are on `cmd:pending`, in the hand of a session before it is recorded,
in the plan of a tick, or recorded, all have attempts of their own (`Once`): a copy with attempt
`a + 1` is made from the recorded copy with attempt `a`, which leaves `cmd:inflight` in the same tick.
So each attempt is recorded once, and what is recorded is written at most once.

A tick that stops half-way loses the second half of this, and a command that is not to be retried does
without: none of its copies is ever made again.
-/

namespace Orbetra.Commands

open Function List Machine

/-- The attempts of the copies of a command. -/
def attemptsOf (x : String) (l : List PendingEntry) : List ℕ :=
  (l.filter fun raw => raw.id = x).map (·.attempt)

/-- The copies of commands outside the hands of the sessions. -/
def stored (pending : List PendingEntry) (ops : List TickOp) (recorded : List Inflight) :
    List PendingEntry :=
  pending ++ rpushes ops ++ recorded.map Inflight.requeued

/-- There is a copy of the command with that attempt. -/
def HasCopy (x : String) (pending : List PendingEntry) (hold : ℕ → Option PendingEntry)
    (ops : List TickOp) (recorded : List Inflight) (a : ℕ) : Prop :=
  a ∈ attemptsOf x (stored pending ops recorded) ∨
    ∃ i raw, hold i = some raw ∧ raw.id = x ∧ raw.attempt = a

/-- The copies of a command have attempts of their own, below `k`. -/
structure Once (x : String) (k : ℕ) (pending : List PendingEntry) (inflight : List Inflight)
    (hold : ℕ → Option PendingEntry) (due : ℕ → Option Inflight) (ops : List TickOp)
    (recorded written : List Inflight) : Prop where
  storedOnce : (attemptsOf x (stored pending ops recorded)).Nodup
  held : ∀ i raw, hold i = some raw → raw.id = x →
    raw.attempt ∉ attemptsOf x (stored pending ops recorded)
  heldOnce : ∀ i j raw raw', hold i = some raw → hold j = some raw' → raw.id = x → raw'.id = x →
    raw.attempt = raw'.attempt → i = j
  dueNew : ∀ i entry, due i = some entry → entry.id = x →
    entry.attempt ∉ attemptsOf x (written.map Inflight.requeued)
  dueOnce : ∀ i j entry entry', due i = some entry → due j = some entry' → entry.id = x →
    entry'.id = x → entry.attempt = entry'.attempt → i = j
  writtenOnce : (attemptsOf x (written.map Inflight.requeued)).Nodup
  /-- the copy that another one was made from is recorded, and leaves `cmd:inflight` -/
  earlier : ∀ a, HasCopy x pending hold ops recorded (a + 1) →
    a ∈ attemptsOf x (recorded.map Inflight.requeued) ∧
      ∀ entry ∈ inflight, entry.id = x → entry.attempt = a → entry ∈ lrems ops
  bound : ∀ a, HasCopy x pending hold ops recorded a → a < k

section Attempts

variable {x : String} {l l' : List PendingEntry} {a : ℕ}

lemma mem_attemptsOf : a ∈ attemptsOf x l ↔ ∃ raw ∈ l, raw.id = x ∧ raw.attempt = a := by
  simp [attemptsOf, and_assoc]

@[simp] lemma attemptsOf_append : attemptsOf x (l ++ l') = attemptsOf x l ++ attemptsOf x l' := by
  simp [attemptsOf]

lemma attemptsOf_sublist (h : l.Sublist l') : (attemptsOf x l).Sublist (attemptsOf x l') :=
  (h.filter _).map _

lemma attemptsOf_perm (h : l.Perm l') : (attemptsOf x l).Perm (attemptsOf x l') :=
  (h.filter _).map _

lemma eq_of_attempt {recorded : List Inflight} {entry entry' : Inflight}
    (h : (attemptsOf x (recorded.map Inflight.requeued)).Nodup) (hmem : entry ∈ recorded)
    (hmem' : entry' ∈ recorded) (hid : entry.id = x) (hid' : entry'.id = x)
    (ha : entry.attempt = entry'.attempt) : entry = entry' := by
  have hmap : attemptsOf x (recorded.map Inflight.requeued) =
      (recorded.filter fun e => e.id = x).map (·.attempt) := by
    simp only [attemptsOf, filter_map, map_map]
    rfl
  rw [hmap] at h
  exact inj_on_of_nodup_map h (mem_filter.2 ⟨hmem, by simpa using hid⟩)
    (mem_filter.2 ⟨hmem', by simpa using hid'⟩) ha

end Attempts

namespace Once

variable {x : String} {k : ℕ} {pending pending' : List PendingEntry} {inflight : List Inflight}
  {hold : ℕ → Option PendingEntry} {due : ℕ → Option Inflight} {ops : List TickOp}
  {recorded written : List Inflight} {i : ℕ} {raw : PendingEntry} {entry : Inflight}

lemma nodup_recorded (h : Once x k pending inflight hold due ops recorded written) :
    (attemptsOf x (recorded.map Inflight.requeued)).Nodup := by
  have := h.storedOnce
  rw [stored, attemptsOf_append] at this
  exact (nodup_append.1 this).2.1

lemma shrink (h : Once x k pending inflight hold due ops recorded written)
    (ops' : List TickOp) (hpending : pending'.Sublist pending) (hpushes : (rpushes ops').Sublist (rpushes ops))
    {inflight' : List Inflight} (hinflight : ∀ entry ∈ inflight', entry ∈ inflight)
    (hlrems : ∀ a, HasCopy x pending' hold ops' recorded (a + 1) →
      ∀ entry ∈ inflight', entry ∈ lrems ops → entry.id = x → entry.attempt = a →
        entry ∈ lrems ops') :
    Once x k pending' inflight' hold due ops' recorded written := by
  have hsub : (attemptsOf x (stored pending' ops' recorded)).Sublist
      (attemptsOf x (stored pending ops recorded)) :=
    attemptsOf_sublist ((hpending.append hpushes).append (Sublist.refl _))
  have hcopy (a : ℕ) (ha : HasCopy x pending' hold ops' recorded a) :
      HasCopy x pending hold ops recorded a := ha.imp_left fun hmem => hsub.subset hmem
  refine { h with
    storedOnce := h.storedOnce.sublist hsub
    held := fun i raw hraw hid hmem => h.held i raw hraw hid (hsub.subset hmem)
    earlier := fun a ha => ?_
    bound := fun a ha => h.bound a (hcopy a ha) }
  obtain ⟨hrecorded, hleaves⟩ := h.earlier a (hcopy (a + 1) ha)
  exact ⟨hrecorded, fun entry hentry hid hattempt => hlrems a ha entry hentry
    (hleaves entry (hinflight entry hentry) hid hattempt) hid hattempt⟩

/-- A session lets go of what it has. -/
lemma emptied (h : Once x k pending inflight hold due ops recorded written) (i : ℕ) :
    Once x k pending inflight (update hold i none) (update due i none) ops recorded written := by
  have hhold {j : ℕ} {raw : PendingEntry} (hj : update hold i none j = some raw) :
      hold j = some raw := (update_none_eq_some.1 hj).2
  have hdue {j : ℕ} {entry : Inflight} (hj : update due i none j = some entry) :
      due j = some entry := (update_none_eq_some.1 hj).2
  have hcopy (a : ℕ) (ha : HasCopy x pending (update hold i none) ops recorded a) :
      HasCopy x pending hold ops recorded a := by
    rcases ha with hmem | ⟨j, raw, hj, hraw⟩
    · exact .inl hmem
    · exact .inr ⟨j, raw, hhold hj, hraw⟩
  exact { h with
    held := fun j raw hj => h.held j raw (hhold hj)
    heldOnce := fun j j' raw raw' hj hj' => h.heldOnce j j' raw raw' (hhold hj) (hhold hj')
    dueNew := fun j entry hj => h.dueNew j entry (hdue hj)
    dueOnce := fun j j' entry entry' hj hj' => h.dueOnce j j' entry entry' (hdue hj) (hdue hj')
    earlier := fun a ha => h.earlier a (hcopy (a + 1) ha)
    bound := fun a ha => h.bound a (hcopy a ha) }

/-- A session takes up the head of `cmd:pending`. -/
lemma popped (h : Once x k (raw :: pending) inflight hold due ops recorded written)
    (hi : hold i = none) :
    Once x k pending inflight (update hold i (some raw)) due ops recorded written := by
  have hperm : (attemptsOf x (stored (raw :: pending) ops recorded)).Perm
      (attemptsOf x [raw] ++ attemptsOf x (stored pending ops recorded)) := by
    rw [← attemptsOf_append]
    exact Perm.refl _
  have hnodup := nodup_append.1 (hperm.nodup_iff.1 h.storedOnce)
  have hmine (hid : raw.id = x) : raw.attempt ∈ attemptsOf x [raw] :=
    mem_attemptsOf.2 ⟨raw, mem_cons_self, hid, rfl⟩
  have hsub {a : ℕ} (ha : a ∈ attemptsOf x (stored pending ops recorded)) :
      a ∈ attemptsOf x (stored (raw :: pending) ops recorded) :=
    hperm.mem_iff.2 (mem_append_right _ ha)
  have hother {j : ℕ} {raw' : PendingEntry} (hj : hold j = some raw') (hid : raw.id = x)
      (hid' : raw'.id = x) : raw'.attempt ≠ raw.attempt := by
    intro he
    exact h.held j raw' hj hid' (hperm.mem_iff.2 (mem_append_left _ (he ▸ hmine hid)))
  have hcopy (a : ℕ) (ha : HasCopy x pending (update hold i (some raw)) ops recorded a) :
      HasCopy x (raw :: pending) hold ops recorded a := by
    rcases ha with hmem | ⟨j, raw', hj, hid, rfl⟩
    · exact .inl (hsub hmem)
    · rcases update_some_eq_some.1 hj with ⟨-, rfl⟩ | ⟨-, hj⟩
      · exact .inl (hperm.mem_iff.2 (mem_append_left _ (hmine hid)))
      · exact .inr ⟨j, raw', hj, hid, rfl⟩
  refine { h with
    storedOnce := hnodup.2.1
    held := fun j raw' hj hid hmem => ?_
    heldOnce := fun j j' raw₁ raw₂ hj hj' hid hid' ha => ?_
    earlier := fun a ha => h.earlier a (hcopy (a + 1) ha)
    bound := fun a ha => h.bound a (hcopy a ha) }
  · rcases update_some_eq_some.1 hj with ⟨-, rfl⟩ | ⟨-, hj⟩
    · exact hnodup.2.2 _ (hmine hid) _ hmem rfl
    · exact h.held j raw' hj hid (hsub hmem)
  · rcases update_some_eq_some.1 hj with ⟨rfl, rfl⟩ | ⟨-, hold₁⟩ <;>
      rcases update_some_eq_some.1 hj' with ⟨rfl, rfl⟩ | ⟨-, hold₂⟩
    · rfl
    · exact absurd ha.symm (hother hold₂ hid hid')
    · exact absurd ha (hother hold₁ hid' hid)
    · exact h.heldOnce j j' raw₁ raw₂ hold₁ hold₂ hid hid' ha

lemma recordedBy (h : Once x k pending inflight hold due ops recorded written)
    (hi : hold i = some entry.requeued) (hwritten : ∀ e ∈ written, e ∈ recorded)
    (hdue : ∀ j e, due j = some e → e ∈ recorded) :
    Once x k pending (inflight ++ [entry]) (update hold i none)
      (update due i (some entry)) ops (recorded ++ [entry]) written := by
  have hsplit : attemptsOf x (stored pending ops (recorded ++ [entry])) =
      attemptsOf x (stored pending ops recorded) ++ attemptsOf x [entry.requeued] := by
    simp only [stored, map_append, ← append_assoc, attemptsOf_append, map_cons, map_nil]
  have hone {a : ℕ} (ha : a ∈ attemptsOf x [entry.requeued]) :
      entry.id = x ∧ entry.attempt = a := by
    obtain ⟨e, he, hid⟩ := mem_attemptsOf.1 ha
    obtain rfl := mem_singleton.1 he
    exact hid
  have hnew {a : ℕ} (ha : a ∈ attemptsOf x [entry.requeued]) :
      a ∉ attemptsOf x (stored pending ops recorded) := by
    obtain ⟨hid, rfl⟩ := hone ha
    exact h.held i _ hi hid
  have hfresh {e : Inflight} (he : e ∈ recorded) (hid : e.id = x) (hid' : entry.id = x) :
      e.attempt ≠ entry.attempt := by
    intro ha
    refine h.held i _ hi hid' (mem_attemptsOf.2 ⟨e.requeued, ?_, hid, ha⟩)
    exact mem_append_right _ (mem_map_of_mem he)
  have hcopy (a : ℕ) (ha : HasCopy x pending (update hold i none) ops
      (recorded ++ [entry]) a) : HasCopy x pending hold ops recorded a := by
    rcases ha with hmem | ⟨j, raw, hj, hraw⟩
    · rw [hsplit] at hmem
      rcases mem_append.1 hmem with hmem | hmem
      · exact .inl hmem
      · obtain ⟨hid, rfl⟩ := hone hmem
        exact .inr ⟨i, _, hi, hid, rfl⟩
    · exact .inr ⟨j, raw, (update_none_eq_some.1 hj).2, hraw⟩
  refine { h with
    storedOnce := ?_
    held := fun j raw hj hid hmem => ?_
    heldOnce := fun j j' raw raw' hj hj' =>
      h.heldOnce j j' raw raw' (update_none_eq_some.1 hj).2 (update_none_eq_some.1 hj').2
    dueNew := fun j e hj hid hmem => ?_
    dueOnce := fun j j' e e' hj hj' hid hid' ha => ?_
    earlier := fun a ha => ?_
    bound := fun a ha => h.bound a (hcopy a ha) }
  · rw [hsplit]
    refine nodup_append.2 ⟨h.storedOnce, ?_, ?_⟩
    · exact (nodup_singleton entry.requeued |>.filter _).map_on fun _ he _ he' _ =>
        (mem_singleton.1 (mem_of_mem_filter he)).trans
          (mem_singleton.1 (mem_of_mem_filter he')).symm
    · rintro a ha b hb rfl
      exact hnew hb ha
  · obtain ⟨hji, hj⟩ := update_none_eq_some.1 hj
    rw [hsplit] at hmem
    rcases mem_append.1 hmem with hmem | hmem
    · exact h.held j raw hj hid hmem
    · obtain ⟨hid', ha⟩ := hone hmem
      exact hji (h.heldOnce j i raw entry.requeued hj hi hid hid' ha.symm)
  · rcases update_some_eq_some.1 hj with ⟨-, rfl⟩ | ⟨-, hj⟩
    · obtain ⟨raw, hraw, hid', ha⟩ := mem_attemptsOf.1 hmem
      obtain ⟨e', he', rfl⟩ := mem_map.1 hraw
      exact hfresh (hwritten e' he') hid' hid ha
    · exact h.dueNew j e hj hid hmem
  · rcases update_some_eq_some.1 hj with ⟨rfl, rfl⟩ | ⟨-, due₁⟩ <;>
      rcases update_some_eq_some.1 hj' with ⟨rfl, rfl⟩ | ⟨-, due₂⟩
    · rfl
    · exact absurd ha.symm (hfresh (hdue j' e' due₂) hid' hid)
    · exact absurd ha (hfresh (hdue j e due₁) hid hid')
    · exact h.dueOnce j j' e e' due₁ due₂ hid hid' ha
  · obtain ⟨hrecorded, hleaves⟩ := h.earlier a (hcopy (a + 1) ha)
    refine ⟨?_, fun e he hid hattempt => ?_⟩
    · rw [map_append, attemptsOf_append]
      exact mem_append_left _ hrecorded
    · rcases mem_append.1 he with he | he
      · exact hleaves e he hid hattempt
      · obtain rfl := mem_singleton.1 he
        obtain ⟨raw, hraw, hid', ha'⟩ := mem_attemptsOf.1 hrecorded
        obtain ⟨e', he', rfl⟩ := mem_map.1 hraw
        exact absurd (ha'.trans hattempt.symm) (hfresh he' hid' hid)

lemma wrote (h : Once x k pending inflight hold due ops recorded written)
    (hi : due i = some entry) :
    Once x k pending inflight hold (update due i none) ops recorded (written ++ [entry]) := by
  have hone {a : ℕ} (ha : a ∈ attemptsOf x ([entry].map Inflight.requeued)) :
      entry.id = x ∧ entry.attempt = a := by
    obtain ⟨e, he, hid⟩ := mem_attemptsOf.1 ha
    obtain rfl := mem_singleton.1 he
    exact hid
  refine { h with
    dueNew := fun j e hj hid hmem => ?_
    dueOnce := fun j j' e e' hj hj' => h.dueOnce j j' e e'
      (update_none_eq_some.1 hj).2 (update_none_eq_some.1 hj').2
    writtenOnce := ?_ }
  · obtain ⟨hji, hj⟩ := update_none_eq_some.1 hj
    rw [map_append, attemptsOf_append] at hmem
    rcases mem_append.1 hmem with hmem | hmem
    · exact h.dueNew j e hj hid hmem
    · obtain ⟨hid', ha⟩ := hone hmem
      exact hji (h.dueOnce j i e entry hj hi hid hid' ha.symm)
  · rw [map_append, attemptsOf_append]
    refine nodup_append.2 ⟨h.writtenOnce, ?_, ?_⟩
    · exact (nodup_singleton entry.requeued |>.filter _).map_on fun _ he _ he' _ =>
        (mem_singleton.1 (mem_of_mem_filter he)).trans
          (mem_singleton.1 (mem_of_mem_filter he')).symm
    · rintro a ha b hb rfl
      obtain ⟨hid, rfl⟩ := hone hb
      exact h.dueNew i entry hi hid ha

lemma pushed (h : Once x k pending inflight hold due ops recorded written)
    (new : List PendingEntry) (hk : 0 < k) (hzero : ∀ raw ∈ new, raw.attempt = 0)
    (hnodup : (new.map (·.id)).Nodup)
    (hfresh : ∀ raw ∈ new, raw.id = x → ∀ a, ¬ HasCopy x pending hold ops recorded a) :
    Once x k (pending ++ new) inflight hold due ops recorded written := by
  have hperm : (attemptsOf x (stored (pending ++ new) ops recorded)).Perm
      (attemptsOf x new ++ attemptsOf x (stored pending ops recorded)) := by
    rw [← attemptsOf_append]
    refine attemptsOf_perm ?_
    simp only [stored, ← append_assoc]
    exact (perm_append_comm.append_right _).append_right _
  have hnone {a : ℕ} (ha : a ∈ attemptsOf x new) {b : ℕ} :
      ¬ HasCopy x pending hold ops recorded b := by
    obtain ⟨raw, hraw, hid, -⟩ := mem_attemptsOf.1 ha
    exact hfresh raw hraw hid b
  have hnew {a : ℕ} (ha : a ∈ attemptsOf x new) : a = 0 := by
    obtain ⟨raw, hraw, -, rfl⟩ := mem_attemptsOf.1 ha
    exact hzero raw hraw
  have hcopy (a : ℕ) (ha : HasCopy x (pending ++ new) hold ops recorded a) :
      a ∈ attemptsOf x new ∨ HasCopy x pending hold ops recorded a := by
    rcases ha with hmem | hheld
    · rcases mem_append.1 (hperm.mem_iff.1 hmem) with hmem | hmem
      · exact .inl hmem
      · exact .inr (.inl hmem)
    · exact .inr (.inr hheld)
  refine { h with
    storedOnce := hperm.nodup_iff.2 (nodup_append.2 ⟨?_, h.storedOnce, ?_⟩)
    held := fun i raw hi hid hmem => ?_
    earlier := fun a ha => ?_
    bound := fun a ha => ?_ }
  · refine ((Nodup.of_map _ hnodup).filter _).map_on fun raw hraw raw' hraw' _ => ?_
    obtain ⟨hmem, hid⟩ := mem_filter.1 hraw
    obtain ⟨hmem', hid'⟩ := mem_filter.1 hraw'
    exact inj_on_of_nodup_map hnodup hmem hmem'
      ((of_decide_eq_true hid).trans (of_decide_eq_true hid').symm)
  · rintro a ha b hb rfl
    exact hnone ha (.inl hb)
  · rcases mem_append.1 (hperm.mem_iff.1 hmem) with hmem | hmem
    · exact hnone hmem (.inr ⟨i, raw, hi, hid, rfl⟩)
    · exact h.held i raw hi hid hmem
  · rcases hcopy (a + 1) ha with hmem | ha
    · exact absurd (hnew hmem) (Nat.succ_ne_zero a)
    · exact h.earlier a ha
  · rcases hcopy a ha with hmem | ha
    · exact hnew hmem ▸ hk
    · exact h.bound a ha

lemma earlier_of_lt (h : Once x k pending inflight hold due ops recorded written) {a b : ℕ}
    (hb : HasCopy x pending hold ops recorded b) (hab : a < b) :
    a ∈ attemptsOf x (recorded.map Inflight.requeued) := by
  induction b with
  | zero => exact absurd hab (Nat.not_lt_zero a)
  | succ b ih =>
    have hrecorded := (h.earlier b hb).1
    rcases Nat.lt_succ_iff_lt_or_eq.1 hab with hlt | rfl
    · refine ih (.inl ?_) hlt
      rw [stored, attemptsOf_append]
      exact mem_append_right _ hrecorded
    · exact hrecorded

/-- Between ticks, one copy at most is in flight. -/
lemma single (h : Once x k pending inflight hold due [] recorded written)
    (hinflight : inflight.Sublist recorded) {entry entry' : Inflight} (hmem : entry ∈ inflight)
    (hmem' : entry' ∈ inflight) (hid : entry.id = x) (hid' : entry'.id = x) : entry = entry' := by
  have hcopy {e : Inflight} (he : e ∈ inflight) (hid : e.id = x) :
      HasCopy x pending hold [] recorded e.attempt := by
    refine .inl (mem_attemptsOf.2 ⟨e.requeued, ?_, hid, rfl⟩)
    exact mem_append_right _ (mem_map_of_mem (hinflight.subset he))
  -- of two, the one with the lower attempt would have left
  have hlow {e e' : Inflight} (he : e ∈ inflight) (he' : e' ∈ inflight) (hid : e.id = x)
      (hid' : e'.id = x) : ¬ e.attempt < e'.attempt := by
    intro hlt
    have hnext : HasCopy x pending hold [] recorded (e.attempt + 1) := by
      rcases Nat.lt_or_eq_of_le (Nat.succ_le_of_lt hlt) with hlt | heq
      · refine .inl ?_
        rw [stored, attemptsOf_append]
        exact mem_append_right _ (h.earlier_of_lt (hcopy he' hid') hlt)
      · have hcopy' := hcopy he' hid'
        rwa [← heq] at hcopy'
    exact absurd ((h.earlier e.attempt hnext).2 e he hid rfl) not_mem_nil
  refine eq_of_attempt h.nodup_recorded (hinflight.subset hmem) (hinflight.subset hmem') hid hid' ?_
  exact le_antisymm (not_lt.1 (hlow hmem' hmem hid' hid)) (not_lt.1 (hlow hmem hmem' hid hid'))

lemma planned (h : Once x k pending inflight hold due [] recorded written)
    (hinflight : inflight.Sublist recorded) {snapshot : List Inflight}
    (hsnapshot : snapshot.Sublist inflight)
    (hk : ∀ cmd ∈ snapshot, cmd.id = x → cmd.retries → cmd.attempt + 1 < k) (nowMs : Ms)
    (responses : List CmdResponse) (queued : List PendingEntry) :
    Once x k pending inflight hold due (tickOps nowMs snapshot responses queued) recorded
      written := by
  obtain ⟨late, hlate, hagain⟩ : ∃ late : List Inflight, late.Sublist snapshot ∧
      rpushes (tickOps nowMs snapshot responses queued) =
        late.map fun cmd => ⟨cmd.id, cmd.text, cmd.attempt + 1, cmd.expiresAtMs⟩ := by
    refine ⟨((snapshot.drop responses.length).filter fun cmd => !cmd.waits nowMs).filter
      Inflight.retries, ?_, ?_⟩
    · exact filter_sublist.trans (filter_sublist.trans (drop_sublist _ _))
    · rw [rpushes_tickOps]
      exact map_map
  have hrequeued {a : ℕ}
      (ha : a ∈ attemptsOf x (rpushes (tickOps nowMs snapshot responses queued))) :
      ∃ cmd ∈ snapshot, cmd.id = x ∧ cmd.retries ∧ cmd.waits nowMs = false ∧
        cmd.attempt + 1 = a := by
    obtain ⟨raw, hraw, hid, rfl⟩ := mem_attemptsOf.1 ha
    obtain ⟨cmd, hcmd, hretries, hwaits, rfl⟩ := mem_rpushes_tickOps hraw
    exact ⟨cmd, mem_of_mem_drop hcmd, hid, hretries, hwaits, rfl⟩
  -- no copy of a re-queued attempt is there yet: it would have made the entry leave
  have hnew {a : ℕ}
      (ha : a ∈ attemptsOf x (rpushes (tickOps nowMs snapshot responses queued))) :
      ¬ HasCopy x pending hold [] recorded a := by
    obtain ⟨cmd, hcmd, hid, -, -, rfl⟩ := hrequeued ha
    intro hcopy
    exact absurd ((h.earlier cmd.attempt hcopy).2 cmd (hsnapshot.subset hcmd) hid rfl) not_mem_nil
  have hperm : (attemptsOf x (stored pending (tickOps nowMs snapshot responses queued)
      recorded)).Perm (attemptsOf x (rpushes (tickOps nowMs snapshot responses queued)) ++
        attemptsOf x (stored pending [] recorded)) := by
    rw [← attemptsOf_append]
    refine attemptsOf_perm ?_
    simp only [stored, rpushes, filterMap_nil, append_nil, ← append_assoc]
    exact perm_append_comm.append_right _
  have hcopy (a : ℕ) (ha : HasCopy x pending hold (tickOps nowMs snapshot responses queued)
      recorded a) : a ∈ attemptsOf x (rpushes (tickOps nowMs snapshot responses queued)) ∨
        HasCopy x pending hold [] recorded a := by
    rcases ha with hmem | hheld
    · rcases mem_append.1 (hperm.mem_iff.1 hmem) with hmem | hmem
      · exact .inl hmem
      · exact .inr (.inl hmem)
    · exact .inr (.inr hheld)
  refine { h with
    storedOnce := hperm.nodup_iff.2 (nodup_append.2 ⟨?_, h.storedOnce, ?_⟩)
    held := fun i raw hi hid hmem => ?_
    earlier := fun a ha => ?_
    bound := fun a ha => ?_ }
  · have hattempts : attemptsOf x (rpushes (tickOps nowMs snapshot responses queued)) =
        (attemptsOf x (late.map Inflight.requeued)).map (· + 1) := by
      rw [hagain]
      simp only [attemptsOf, filter_map, map_map]
      rfl
    rw [hattempts]
    refine Nodup.map (fun a b hab => Nat.succ.inj hab) (h.nodup_recorded.sublist ?_)
    exact attemptsOf_sublist ((hlate.trans (hsnapshot.trans hinflight)).map _)
  · rintro a ha b hb rfl
    exact hnew ha (.inl hb)
  · rcases mem_append.1 (hperm.mem_iff.1 hmem) with hmem | hmem
    · exact hnew hmem (.inr ⟨i, raw, hi, hid, rfl⟩)
    · exact h.held i raw hi hid hmem
  · rcases hcopy (a + 1) ha with hmem | ha
    · obtain ⟨cmd, hcmd, hid, -, hwaits, hcmda⟩ := hrequeued hmem
      cases hcmda
      have hmem := hsnapshot.subset hcmd
      refine ⟨mem_attemptsOf.2 ⟨cmd.requeued, mem_map_of_mem (hinflight.subset hmem), hid,
        rfl⟩, fun entry hentry hid' _ => ?_⟩
      obtain rfl := h.single hinflight hentry hmem hid' hid
      rw [lrems_tickOps]
      refine mem_filter.2 ⟨hcmd, decide_eq_true fun hremains => ?_⟩
      obtain ⟨other, hother, hsame⟩ := mem_map.1 hremains
      obtain ⟨hdrop, hother⟩ := mem_filter.1 hother
      have hmem' := hsnapshot.subset (mem_of_mem_drop hdrop)
      rw [h.single hinflight hmem' hentry (hsame.trans hid) hid, hwaits] at hother
      cases hother
    · obtain ⟨hrecorded, hleaves⟩ := h.earlier a ha
      exact ⟨hrecorded, fun entry hentry hid hattempt =>
        absurd (hleaves entry hentry hid hattempt) not_mem_nil⟩
  · rcases hcopy a ha with hmem | ha
    · obtain ⟨cmd, hcmd, hid, hretries, -, rfl⟩ := hrequeued hmem
      exact hk cmd hcmd hid hretries
    · exact h.bound a ha

lemma ticked {op : TickOp} (h : Once x k pending inflight hold due (op :: ops) recorded written)
    (hinflight : inflight.Sublist recorded) :
    Once x k (op.onPending pending) (op.onInflight inflight) hold due ops recorded written := by
  cases op with
  | lremPending raw =>
    exact h.shrink ops erase_sublist (Sublist.refl _) (fun _ he => he) fun _ _ _ _ he _ _ => he
  | rpushPending raw =>
    have hstored : stored (pending ++ [raw]) ops recorded =
        stored pending (.rpushPending raw :: ops) recorded := by
      simp [stored, rpushes]
    exact ⟨hstored ▸ h.storedOnce, hstored ▸ h.held, h.heldOnce, h.dueNew, h.dueOnce,
      h.writtenOnce, fun a ha => h.earlier a (ha.imp_left fun hmem => hstored ▸ hmem),
      fun a ha => h.bound a (ha.imp_left fun hmem => hstored ▸ hmem)⟩
  | lremInflight raw =>
    refine h.shrink ops (Sublist.refl _) (Sublist.refl _)
      (fun e he => mem_of_mem_erase he) fun a ha e he hmem hid hattempt => ?_
    rcases mem_cons.1 hmem with rfl | hmem
    · -- the entry was in flight once
      have hone : (recorded.filter fun e' => e'.id = x).count e ≤ 1 := by
        refine nodup_iff_count_le_one.1 (Nodup.of_map Inflight.requeued ?_) e
        have hfilter : (recorded.filter fun e' => e'.id = x).map Inflight.requeued =
            (recorded.map Inflight.requeued).filter fun raw => raw.id = x := by
          rw [filter_map]
          rfl
        rw [hfilter]
        exact Nodup.of_map _ h.nodup_recorded
      have hleft : 0 < (inflight.erase e).count e := count_pos_iff.2 he
      rw [count_erase_self] at hleft
      rw [count_filter (p := fun e' : Inflight => decide (e'.id = x)) (decide_eq_true hid)] at hone
      have := hinflight.count_le e
      omega
    · exact hmem
  | _ =>
    exact h.shrink ops (Sublist.refl _) (Sublist.refl _) (fun _ he => he) fun _ _ _ _ he _ _ => he

/-- A tick stops, or is over. -/
lemma stopped (h : Once x k pending inflight hold due ops recorded written)
    (hk : ops = [] ∨ k ≤ 1) : Once x k pending inflight hold due [] recorded written := by
  rcases hk with rfl | hk
  · exact h
  · refine h.shrink [] (Sublist.refl _) (nil_sublist _) (fun _ he => he) fun a ha => ?_
    have hbound := h.bound (a + 1) (ha.imp_left fun hmem =>
      (attemptsOf_sublist (((Sublist.refl pending).append (nil_sublist _)).append
        (Sublist.refl _))).subset hmem)
    omega

end Once

/-! ## In the seam -/

def holdOf (session : ℕ → Session) (i : ℕ) : Option PendingEntry := (session i).hand.unrecorded

/-- What the sessions are to write. -/
def dueOf (session : ℕ → Session) (i : ℕ) : Option Inflight := (session i).hand.unwritten

lemma holdOf_update (session : ℕ → Session) (i : ℕ) (new : Session) :
    holdOf (update session i new) = update (holdOf session) i new.hand.unrecorded :=
  comp_update (fun w : Session => w.hand.unrecorded) session i new

lemma dueOf_update (session : ℕ → Session) (i : ℕ) (new : Session) :
    dueOf (update session i new) = update (dueOf session) i new.hand.unwritten :=
  comp_update (fun w : Session => w.hand.unwritten) session i new

/-- The copies of a command in a state have attempts of their own, below `k`. -/
def Seam.Once (x : String) (k : ℕ) (s : Seam) : Prop :=
  Commands.Once x k s.pending s.inflight (holdOf s.session) (dueOf s.session) s.dispatcher.ops
    s.log.recorded s.log.written

section Step

variable {s s' : Seam} {x : String} {k : ℕ}

lemma Seam.Copies.not_hasCopy (h : s.Copies) (hx : x ∉ s.log.ids) (a : ℕ) :
    ¬ HasCopy x s.pending (holdOf s.session) s.dispatcher.ops s.log.recorded a := by
  have hnone {raw : PendingEntry} (hraw : IsCopy s.log.queued raw) (hid : raw.id = x) : False := by
    obtain ⟨q, hq, hqid, -⟩ := hraw
    exact hx (mem_map.2 ⟨q, hq, hqid.symm.trans hid⟩)
  rintro (hmem | ⟨i, raw, hi, hid, -⟩)
  · obtain ⟨raw, hraw, hid, -⟩ := mem_attemptsOf.1 hmem
    rcases mem_append.1 hraw with hraw | hraw
    · rcases mem_append.1 hraw with hraw | hraw
      · exact hnone (h.pending raw hraw) hid
      · exact hnone (h.ops raw hraw) hid
    · obtain ⟨entry, hentry, rfl⟩ := mem_map.1 hraw
      exact hnone (h.recorded entry hentry).1 hid
  · exact hnone (h.unrecorded i raw hi) hid

lemma Seam.Once.emptied (h : s.Once x k) (i : ℕ) {new : Session}
    (hidle : new.hand = .idle ∨ ∃ rounds, new.hand = .loop rounds) :
    Commands.Once x k s.pending s.inflight (holdOf (update s.session i new))
      (dueOf (update s.session i new)) s.dispatcher.ops s.log.recorded s.log.written := by
  rw [holdOf_update, dueOf_update]
  have hunrecorded : new.hand.unrecorded = none := by
    rcases hidle with hidle | ⟨rounds, hidle⟩ <;> rw [hidle] <;> rfl
  have hunwritten : new.hand.unwritten = none := by
    rcases hidle with hidle | ⟨rounds, hidle⟩ <;> rw [hidle] <;> rfl
  rw [hunrecorded, hunwritten]
  exact Commands.Once.emptied h i

variable {session : ℕ → Session} {i : ℕ} {hand : Hand}

lemma Once.setHand {pending : List PendingEntry} {inflight recorded written : List Inflight}
    {ops : List TickOp} (i : ℕ) (hand : Hand) (h : Commands.Once x k pending inflight
      (update (holdOf session) i hand.unrecorded)
      (update (dueOf session) i hand.unwritten) ops recorded written) :
    Commands.Once x k pending inflight
      (holdOf (update session i { session i with hand := hand }))
      (dueOf (update session i { session i with hand := hand })) ops recorded written := by
  rw [holdOf_update, dueOf_update]
  exact h

lemma update_holdOf (hhand : (session i).hand = hand) :
    update (holdOf session) i hand.unrecorded = holdOf session := by
  rw [← hhand]
  exact update_eq_self i (holdOf session)

lemma update_dueOf (hhand : (session i).hand = hand) :
    update (dueOf session) i hand.unwritten = dueOf session := by
  rw [← hhand]
  exact update_eq_self i (dueOf session)

lemma Seam.Once.sessionStep (h : s.Once x k) (hcopies : s.Copies) {arrives : Bool}
    (hstep : s.sessionStep i arrives = some s') : s'.Once x k := by
  unfold Seam.sessionStep at hstep
  split at hstep
  · cases hstep
  · cases hstep
    exact h.emptied i (.inl rfl)
  · rename_i rounds hhand
    have hdue := update_dueOf hhand
    split at hstep
    · split at hstep
      · cases hstep
        exact h.emptied i (.inl rfl)
      · rename_i raw pending hpending
        cases hstep
        refine Commands.Once.setHand i (.popped rounds raw) ?_
        have hsame : s.Once x k := h
        unfold Seam.Once at hsame
        rw [hpending] at hsame
        have hpopped := Commands.Once.popped (i := i) hsame (congrArg Hand.unrecorded hhand)
        rwa [← hdue] at hpopped
    · cases hstep
      exact h.emptied i (.inl rfl)
  · rename_i rounds raw hhand
    split at hstep
    · cases hstep
      exact h.emptied i (.inr ⟨rounds, rfl⟩)
    · cases hstep
      refine Commands.Once.setHand i (.checked rounds (raw.sent s.now)) ?_
      have hsame : s.Once x k := h
      unfold Seam.Once at hsame
      rwa [← update_holdOf hhand, ← update_dueOf hhand] at hsame
  · rename_i rounds entry hhand
    cases hstep
    refine Commands.Once.setHand i (.recorded rounds entry) ?_
    exact Commands.Once.recordedBy h (congrArg Hand.unrecorded hhand) hcopies.written
      hcopies.unwritten
  · rename_i rounds entry hhand
    cases hstep
    refine Commands.Once.setHand i (.loop rounds) ?_
    have hwrote := Commands.Once.wrote h (congrArg Hand.unwritten hhand)
    rwa [← update_holdOf hhand] at hwrote

lemma Seam.Once.dispatchStep (h : s.Once x k) (hcopies : s.Copies)
    (hretries : ∀ entry ∈ s.inflight, entry.id = x → entry.retries → entry.attempt + 1 < k)
    (hstep : s.dispatchStep = some s') : s'.Once x k := by
  unfold Seam.dispatchStep at hstep
  split at hstep
  · cases hstep
  · rename_i hd
    cases hstep
    exact Commands.Once.stopped h (.inl (by rw [hd]; rfl))
  · rename_i hd
    cases hstep
    exact Commands.Once.stopped h (.inl (by rw [hd]; rfl))
  · rename_i nowMs inflight responses hd
    cases hstep
    have hsnapshot := hcopies.snapshot
    rw [hd] at hsnapshot
    have h' := Commands.Once.stopped h (.inl (by rw [hd]; rfl))
    exact h'.planned hcopies.inflight hsnapshot
      (fun cmd hcmd => hretries cmd (hsnapshot.subset hcmd)) nowMs responses s.pending
  · rename_i past op ops settled hd
    cases hstep
    show Commands.Once x k (s.tickOp op).pending (s.tickOp op).inflight
      (holdOf (s.tickOp op).session) (dueOf (s.tickOp op).session) ops
      (s.tickOp op).log.recorded (s.tickOp op).log.written
    obtain ⟨credits, hlog⟩ := s.tickOp_log op
    rw [hlog, Seam.tickOp_session, Seam.tickOp_pending, Seam.tickOp_inflight]
    have h' : Commands.Once x k s.pending s.inflight (holdOf s.session) (dueOf s.session)
        (op :: ops) s.log.recorded s.log.written := by
      have hops : s.dispatcher.ops = op :: ops := by
        rw [hd]
        rfl
      exact hops ▸ h
    exact h'.ticked hcopies.inflight
  · rename_i hd
    cases hstep
    exact Commands.Once.stopped h (.inl (by rw [hd]; rfl))
  · rename_i hd
    have h' := Commands.Once.stopped h (.inl (by rw [hd]; rfl))
    split at hstep <;> cases hstep <;> exact h'
  · rename_i hd
    cases hstep
    exact Commands.Once.stopped h (.inl (by rw [hd]; rfl))

lemma Seam.Once.apiStep (h : s.Once x k) (hcopies : s.Copies) (hk : 0 < k)
    (hfits : QueuesOnce s .api) (hstep : s.apiStep = some s') : s'.Once x k := by
  unfold Seam.apiStep at hstep
  split at hstep
  · cases hstep
  · rename_i call stale hcall
    cases hstep
    obtain ⟨hset, hverify, hne⟩ := hfits call stale hcall
    have h' : Commands.Once x k (s.pending.filter fun raw => raw ∉ stale) s.inflight
        (holdOf s.session) (dueOf s.session) s.dispatcher.ops s.log.recorded s.log.written :=
      Commands.Once.shrink h _ filter_sublist (Sublist.refl _) (fun _ he => he)
        fun _ _ _ _ he _ _ => he
    refine h'.pushed [call.set, call.verify] hk ?_ ?_ ?_
    · intro raw hraw
      rcases mem_pair.1 hraw with rfl | rfl <;> rfl
    · simpa [ParamCall.set, ParamCall.verify] using hne
    · intro raw hraw hid a hcopy
      have hfresh : x ∉ s.log.ids := by
        rcases mem_pair.1 hraw with rfl | rfl
        · exact hid ▸ hset
        · exact hid ▸ hverify
      refine hcopies.not_hasCopy hfresh a (hcopy.imp_left fun hmem => ?_)
      exact (attemptsOf_sublist ((filter_sublist.append (Sublist.refl _)).append
        (Sublist.refl _))).subset hmem
  · cases hstep
    exact h
  · cases hstep
    exact h

/-- **Attempts stay of their own.**  No tick stops half-way, or no copy is made of another. -/
theorem Seam.Once.step (h : s.Once x k) (hcopies : s.Copies) (hk : 0 < k)
    (hretries : ∀ entry ∈ s.inflight, entry.id = x → entry.retries → entry.attempt + 1 < k)
    {move : SeamMove} (hcrash : move = .crash → k ≤ 1) (hfits : QueuesOnce s move)
    (hstep : s.step move = some s') : s'.Once x k := by
  cases move with
  | clock t =>
    simp only [Seam.step] at hstep
    split at hstep
    · cases hstep
      exact h
    · cases hstep
  | queue entry =>
    cases hstep
    refine Commands.Once.pushed h [entry] hk ?_ (nodup_singleton _) ?_
    · intro raw hraw
      obtain rfl := mem_singleton.1 hraw
      exact hfits.1
    · intro raw hraw hid a
      obtain rfl := mem_singleton.1 hraw
      exact hcopies.not_hasCopy (hid ▸ hfits.2) a
  | wake | answer =>
    cases hstep
    exact h
  | paramWrite call =>
    simp only [Seam.step] at hstep
    split at hstep
    · cases hstep
      exact h
    · cases hstep
  | api => exact h.apiStep hcopies hk hfits hstep
  | connect i =>
    simp only [Seam.step] at hstep
    split at hstep
    · cases hstep
      exact h.emptied i (.inl rfl)
    · cases hstep
  | hangUp i =>
    cases hstep
    show Commands.Once x k s.pending s.inflight (holdOf (update s.session i _))
      (dueOf (update s.session i _)) _ _ _
    rw [holdOf_update, dueOf_update]
    have hsame : s.Once x k := h
    unfold Seam.Once at hsame
    rwa [← update_holdOf (i := i) rfl, ← update_dueOf (i := i) rfl] at hsame
  | vanish i =>
    cases hstep
    exact h.emptied i (.inl rfl)
  | drain i =>
    simp only [Seam.step] at hstep
    split at hstep
    · cases hstep
      exact h.emptied i (.inr ⟨drainBound, rfl⟩)
    · cases hstep
  | session i arrives => exact h.sessionStep hcopies hstep
  | tick =>
    simp only [Seam.step] at hstep
    split at hstep
    · rename_i hd
      split at hstep
      · cases hstep
        exact Commands.Once.stopped h (.inl (by rw [hd]; rfl))
      · cases hstep
    · cases hstep
  | dispatch => exact h.dispatchStep hcopies hretries hstep
  | crash =>
    cases hstep
    exact Commands.Once.stopped h (.inr (hcrash rfl))

/-- No copies. -/
lemma Seam.Once.init : Seam.init.Once x k := by
  constructor <;> simp [Seam.init, stored, attemptsOf, rpushes, Dispatcher.ops, holdOf, dueOf,
    Hand.unrecorded, Hand.unwritten, HasCopy]

end Step

/-- The written copies of a command. -/
def SeamLog.writes (log : SeamLog) (id : String) : List Inflight :=
  log.written.filter fun entry => entry.id = id

lemma Seam.Once.length_writes_le {s : Seam} {x : String} {k : ℕ} (h : s.Once x k)
    (hcopies : s.Copies) : (s.log.writes x).length ≤ k := by
  have hlength : (s.log.writes x).length =
      (attemptsOf x (s.log.written.map Inflight.requeued)).length := by
    simp only [SeamLog.writes, attemptsOf, filter_map, length_map]
    rfl
  have hsubset : attemptsOf x (s.log.written.map Inflight.requeued) ⊆ range k := by
    intro a ha
    obtain ⟨raw, hraw, hid, rfl⟩ := mem_attemptsOf.1 ha
    obtain ⟨entry, hentry, rfl⟩ := mem_map.1 hraw
    refine mem_range.2 (h.bound _ (.inl (mem_attemptsOf.2 ⟨entry.requeued, ?_, hid, rfl⟩)))
    exact mem_append_right _ (mem_map_of_mem (hcopies.written entry hentry))
  calc (s.log.writes x).length = _ := hlength
    _ ≤ (range k).length := (subperm_of_subset h.writtenOnce hsubset).length_le
    _ = k := length_range

/-- A reset of the device, and a session that sends it. -/
def sentReset : List SeamMove :=
  [SeamMove.queue ⟨"c1", "cpureset".toList, 0, some 1000⟩, .wake, .connect 0, .drain 0] ++
    replicate 4 (SeamMove.session 0 true)

end Orbetra.Commands
