import Orbetra.Commands.Seam

/-!
# Copies of a command

A command goes round between `cmd:pending`, the hands of the sessions, `cmd:inflight` and the plan of
a tick.  Wherever a copy is, its id, its text and its expiry are those of the command that was queued;
what is in flight has been recorded; and what has been written has been recorded before its expiry.
-/

namespace Orbetra.Commands

open Function List

def Dispatcher.ops : Dispatcher → List TickOp
  | .running _ ops _ => ops
  | _ => []

/-- What a tick has read of `cmd:inflight`. -/
def Dispatcher.snapshot : Dispatcher → List Inflight
  | .readInflight _ inflight => inflight
  | .readResp _ inflight _ => inflight
  | _ => []

def rpushes (ops : List TickOp) : List PendingEntry :=
  ops.filterMap fun | .rpushPending raw => some raw | _ => none

def lrems (ops : List TickOp) : List Inflight :=
  ops.filterMap fun | .lremInflight raw => some raw | _ => none

/-- What a session has popped, and has not recorded. -/
def Hand.unrecorded : Hand → Option PendingEntry
  | .popped _ raw => some raw
  | .checked _ entry => some entry.requeued
  | _ => none

/-- What a session has recorded, and has not written. -/
def Hand.unwritten : Hand → Option Inflight
  | .recorded _ entry => some entry
  | _ => none

/-- The ids of the commands that were queued. -/
def SeamLog.ids (log : SeamLog) : List String := log.queued.map (·.id)

def QueuesOnce (s : Seam) : SeamMove → Prop
  | .queue entry => entry.attempt = 0 ∧ entry.id ∉ s.log.ids
  | .api => ∀ call stale, s.api = .read call stale →
      call.commandId ∉ s.log.ids ∧ call.verifyCommandId ∉ s.log.ids ∧
        call.commandId ≠ call.verifyCommandId
  | _ => True

instance (s : Seam) : (move : SeamMove) → Decidable (QueuesOnce s move)
  | .queue entry => inferInstanceAs (Decidable (entry.attempt = 0 ∧ entry.id ∉ s.log.ids))
  | .api =>
    match h : s.api with
    | .read call stale =>
      decidable_of_iff (call.commandId ∉ s.log.ids ∧ call.verifyCommandId ∉ s.log.ids ∧
          call.commandId ≠ call.verifyCommandId)
        ⟨fun hnew call' stale' h' => by
          cases h.symm.trans h'
          exact hnew, fun hall => hall call stale h⟩
    | .idle => .isTrue fun _ _ h' => nomatch h.symm.trans h'
    | .marking _ => .isTrue fun _ _ h' => nomatch h.symm.trans h'
  | .clock _ | .wake | .paramWrite _ | .connect _ | .hangUp _ | .vanish _ | .drain _
  | .session _ _ | .answer _ _ _ | .tick | .dispatch | .crash => .isTrue trivial

def IsCopy (queued : List PendingEntry) (raw : PendingEntry) : Prop :=
  ∃ q ∈ queued, raw.id = q.id ∧ raw.text = q.text ∧ raw.expiresAtMs = q.expiresAtMs

/-- The entry was checked before its expiry. -/
def Inflight.InTime (entry : Inflight) : Prop := ∀ t, entry.expiresAtMs = some t → entry.sentAtMs < t

section Plan

variable {nowMs : Ms} {inflight : List Inflight} {responses : List CmdResponse}
  {pending : List PendingEntry} {raw : PendingEntry} {entry : Inflight}

@[simp] theorem rpushes_append (ops ops' : List TickOp) :
    rpushes (ops ++ ops') = rpushes ops ++ rpushes ops' := filterMap_append

@[simp] theorem lrems_append (ops ops' : List TickOp) :
    lrems (ops ++ ops') = lrems ops ++ lrems ops' := filterMap_append

lemma rpushes_map {α : Type} (f : α → TickOp) (hf : ∀ a raw, f a ≠ .rpushPending raw) (l : List α) :
    rpushes (l.map f) = [] := by
  refine filterMap_eq_nil_iff.2 fun op hop => ?_
  obtain ⟨a, -, rfl⟩ := mem_map.1 hop
  cases h : f a with
  | rpushPending raw => exact absurd h (hf a raw)
  | _ => rfl

lemma lrems_map {α : Type} (f : α → TickOp) (hf : ∀ a raw, f a ≠ .lremInflight raw) (l : List α) :
    lrems (l.map f) = [] := by
  refine filterMap_eq_nil_iff.2 fun op hop => ?_
  obtain ⟨a, -, rfl⟩ := mem_map.1 hop
  cases h : f a with
  | lremInflight raw => exact absurd h (hf a raw)
  | _ => rfl

/-- What a plan re-queues: the commands that have timed out, and are sent once more. -/
theorem rpushes_tickOps :
    rpushes (tickOps nowMs inflight responses pending) =
      (reconcile inflight responses nowMs).resend.map Inflight.requeued := by
  have hpurge (l : List PendingEntry) :
      rpushes (l.flatMap fun p => [.updateExpired p.id, .lremPending p]) = [] := by
    refine filterMap_eq_nil_iff.2 fun op hop => ?_
    obtain ⟨p, -, hop⟩ := mem_flatMap.1 hop
    rcases mem_pair.1 hop with rfl | rfl <;> rfl
  have hresend (l : List Inflight) : rpushes (l.flatMap fun cmd =>
      [.updateQueued cmd.id, .rpushPending cmd.requeued]) = l.map Inflight.requeued := by
    induction l with
    | nil => rfl
    | cons cmd l ih =>
      rw [flatMap_cons, rpushes_append, ih]
      rfl
  have hsent : rpushes (if inflight = [] then [] else [.updateSent (inflight.map (·.id))]) = [] := by
    split <;> rfl
  have htrim (n : ℕ) : rpushes (if n = 0 then [] else [.ltrimResp n]) = [] := by
    split <;> rfl
  simp only [tickOps, rpushes_append, hpurge, hresend, hsent, htrim,
    rpushes_map (fun a : String × CmdResponse => TickOp.updateAcked a.1 a.2) (by simp),
    rpushes_map TickOp.updateFailed (by simp), rpushes_map TickOp.lremInflight (by simp),
    nil_append, append_nil]

/-- What a plan removes: what it has read, less what still waits. -/
theorem lrems_tickOps :
    lrems (tickOps nowMs inflight responses pending) =
      removals inflight (reconcile inflight responses nowMs).remaining := by
  have hpurge (l : List PendingEntry) :
      lrems (l.flatMap fun p => [.updateExpired p.id, .lremPending p]) = [] := by
    refine filterMap_eq_nil_iff.2 fun op hop => ?_
    obtain ⟨p, -, hop⟩ := mem_flatMap.1 hop
    rcases mem_pair.1 hop with rfl | rfl <;> rfl
  have hresend (l : List Inflight) : lrems (l.flatMap fun cmd =>
      [.updateQueued cmd.id, .rpushPending cmd.requeued]) = [] := by
    refine filterMap_eq_nil_iff.2 fun op hop => ?_
    obtain ⟨p, -, hop⟩ := mem_flatMap.1 hop
    rcases mem_pair.1 hop with rfl | rfl <;> rfl
  have hremove (l : List Inflight) : lrems (l.map .lremInflight) = l := by
    induction l with
    | nil => rfl
    | cons cmd l ih => exact congrArg (cmd :: ·) ih
  have hsent : lrems (if inflight = [] then [] else [.updateSent (inflight.map (·.id))]) = [] := by
    split <;> rfl
  have htrim (n : ℕ) : lrems (if n = 0 then [] else [.ltrimResp n]) = [] := by
    split <;> rfl
  simp only [tickOps, lrems_append, hpurge, hresend, hremove, hsent, htrim,
    lrems_map (fun a : String × CmdResponse => TickOp.updateAcked a.1 a.2) (by simp),
    lrems_map TickOp.updateFailed (by simp), nil_append, append_nil]

/-- A re-queued command, and the in-flight entry that it comes from. -/
theorem mem_rpushes_tickOps (h : raw ∈ rpushes (tickOps nowMs inflight responses pending)) :
    ∃ cmd ∈ inflight.drop responses.length, cmd.retries ∧ cmd.waits nowMs = false ∧
      raw = ⟨cmd.id, cmd.text, cmd.attempt + 1, cmd.expiresAtMs⟩ := by
  rw [rpushes_tickOps] at h
  obtain ⟨again, hagain, rfl⟩ := mem_map.1 h
  obtain ⟨cmd, hcmd, rfl⟩ := mem_map.1 hagain
  obtain ⟨hlate, hretries⟩ := mem_filter.1 hcmd
  obtain ⟨hmem, hwaits⟩ := mem_filter.1 hlate
  exact ⟨cmd, hmem, hretries, by simpa using hwaits, rfl⟩

end Plan

/-- Every copy of a command is one. -/
structure Copies (log : SeamLog) (pending : List PendingEntry) (inflight : List Inflight)
    (session : ℕ → Session) (dispatcher : Dispatcher) : Prop where
  ids : log.ids.Nodup
  pending : ∀ raw ∈ pending, IsCopy log.queued raw
  unrecorded : ∀ i raw, (session i).hand.unrecorded = some raw → IsCopy log.queued raw
  checked : ∀ i rounds entry, (session i).hand = .checked rounds entry → entry.InTime
  recorded : ∀ entry ∈ log.recorded, IsCopy log.queued entry.requeued ∧ entry.InTime
  unwritten : ∀ i entry, (session i).hand.unwritten = some entry → entry ∈ log.recorded
  written : ∀ entry ∈ log.written, entry ∈ log.recorded
  snapshot : dispatcher.snapshot.Sublist inflight
  inflight : inflight.Sublist log.recorded
  ops : ∀ raw ∈ rpushes dispatcher.ops, IsCopy log.queued raw

/-- Every copy in a state is one. -/
def Seam.Copies (s : Seam) : Prop :=
  Commands.Copies s.log s.pending s.inflight s.session s.dispatcher

lemma IsCopy.mono {queued queued' : List PendingEntry} {raw : PendingEntry}
    (h : IsCopy queued raw) (hsub : ∀ q ∈ queued, q ∈ queued') : IsCopy queued' raw := by
  obtain ⟨q, hq, hcopy⟩ := h
  exact ⟨q, hsub q hq, hcopy⟩

section Step

variable {s s' : Seam}

variable {inflight : List Inflight} {dispatcher : Dispatcher} {log : SeamLog}
  {pending : List PendingEntry} {session : ℕ → Session}

lemma Copies.setHand (h : Commands.Copies log pending inflight session dispatcher) (i : ℕ)
    (new : Session) (hunrecorded : ∀ raw, new.hand.unrecorded = some raw → IsCopy log.queued raw)
    (hchecked : ∀ rounds entry, new.hand = .checked rounds entry → entry.InTime)
    (hunwritten : ∀ entry, new.hand.unwritten = some entry → entry ∈ log.recorded) :
    Commands.Copies log pending inflight (update session i new) dispatcher := by
  refine { h with unrecorded := fun j => ?_, checked := fun j => ?_, unwritten := fun j => ?_ }
  all_goals by_cases hj : j = i
  · subst hj
    rw [update_self]
    exact hunrecorded
  · rw [update_of_ne hj]
    exact h.unrecorded j
  · subst hj
    rw [update_self]
    exact hchecked
  · rw [update_of_ne hj]
    exact h.checked j
  · subst hj
    rw [update_self]
    exact hunwritten
  · rw [update_of_ne hj]
    exact h.unwritten j

lemma Copies.emptyHand (h : Commands.Copies log pending inflight session dispatcher) (i : ℕ)
    (new : Session) (hidle : new.hand = .idle ∨ ∃ rounds, new.hand = .loop rounds) :
    Commands.Copies log pending inflight (update session i new) dispatcher := by
  rcases hidle with hidle | ⟨rounds, hidle⟩ <;>
    exact h.setHand i new (by simp [hidle, Hand.unrecorded]) (by simp [hidle])
      (by simp [hidle, Hand.unwritten])

lemma Seam.Copies.sessionStep (h : s.Copies) {i : ℕ} {arrives : Bool}
    (hstep : s.sessionStep i arrives = some s') : s'.Copies := by
  unfold Seam.sessionStep at hstep
  split at hstep
  · cases hstep
  · cases hstep
    exact h.emptyHand i _ (.inl rfl)
  · split at hstep
    · split at hstep
      · cases hstep
        exact h.emptyHand i _ (.inl rfl)
      · rename_i raw pending hpending
        cases hstep
        have hcopy (other : PendingEntry) (hother : other ∈ raw :: pending) :
            IsCopy s.log.queued other := h.pending other (hpending ▸ hother)
        have hpopped : Commands.Copies s.log pending s.inflight s.session s.dispatcher :=
          { h with pending := fun other hother => hcopy other (mem_cons_of_mem _ hother) }
        refine hpopped.setHand i _ (fun other hother => ?_) (by simp) (by simp [Hand.unwritten])
        cases hother
        exact hcopy _ mem_cons_self
    · cases hstep
      exact h.emptyHand i _ (.inl rfl)
  · rename_i rounds raw hhand
    have hcopy := h.unrecorded i raw (by rw [hhand]; rfl)
    split at hstep
    · cases hstep
      exact h.emptyHand i _ (.inr ⟨rounds, rfl⟩)
    · rename_i hkept
      cases hstep
      refine h.setHand i _ (fun other hother => ?_) (fun rounds' entry hentry t ht => ?_)
        (by simp [Hand.unwritten])
      · cases hother
        exact hcopy
      · cases hentry
        have ht : raw.expiresAtMs = some t := ht
        refine not_le.1 fun hpast => hkept (.inl ?_)
        unfold PendingEntry.past
        rw [ht]
        exact decide_eq_true hpast
  · rename_i rounds entry hhand
    cases hstep
    have hcopy := h.unrecorded i entry.requeued (by rw [hhand]; rfl)
    have hintime := h.checked i rounds entry hhand
    have hrecorded : Commands.Copies (s.record entry).log s.pending (s.inflight ++ [entry])
        s.session s.dispatcher :=
      { h with
        recorded := fun other hother => by
          rcases mem_append.1 hother with hother | hother
          · exact h.recorded other hother
          · obtain rfl := mem_singleton.1 hother
            exact ⟨hcopy, hintime⟩
        unwritten := fun j other hother => mem_append_left _ (h.unwritten j other hother)
        written := fun other hother => mem_append_left _ (h.written other hother)
        inflight := h.inflight.append (Sublist.refl _)
        snapshot := h.snapshot.trans (sublist_append_left _ _) }
    refine hrecorded.setHand i _ (by simp [Hand.unrecorded]) (by simp) fun other hother => ?_
    cases hother
    exact mem_append_right _ mem_cons_self
  · rename_i rounds entry hhand
    cases hstep
    have hmem := h.unwritten i entry (by rw [hhand]; rfl)
    have hwritten : Commands.Copies (s.write entry (arrives && (s.session i).alive)).log s.pending
        s.inflight s.session s.dispatcher :=
      { h with
        written := fun other hother => by
          rcases mem_append.1 hother with hother | hother
          · exact h.written other hother
          · obtain rfl := mem_singleton.1 hother
            exact hmem }
    exact hwritten.emptyHand i _ (.inr ⟨rounds, rfl⟩)

/-- A tick gets to a place where it has nothing to re-queue. -/
lemma Copies.dispatch (h : Commands.Copies log pending inflight session dispatcher) (d : Dispatcher)
    (hsnapshot : d.snapshot.Sublist inflight)
    (hops : ∀ raw ∈ rpushes d.ops, IsCopy log.queued raw) :
    Commands.Copies log pending inflight session d :=
  { h with snapshot := hsnapshot, ops := hops }

/-- A tick gets to a place where it holds nothing. -/
lemma Copies.rest (h : Commands.Copies log pending inflight session dispatcher) (d : Dispatcher)
    (hsnapshot : d.snapshot = []) (hops : d.ops = []) :
    Commands.Copies log pending inflight session d :=
  h.dispatch d (hsnapshot ▸ nil_sublist _) (by simp [hops, rpushes])

lemma Seam.Copies.tickOp (h : s.Copies) {past ops : List TickOp} {op : TickOp} {settled : Bool}
    (hd : s.dispatcher = .running past (op :: ops) settled) :
    ((s.tickOp op).dispatch (.running (past ++ [op]) ops settled)).Copies := by
  have hops : ∀ raw ∈ rpushes (op :: ops), IsCopy s.log.queued raw := by
    have := h.ops
    rwa [hd] at this
  have hrest : ∀ raw ∈ rpushes ops, IsCopy s.log.queued raw := by
    intro raw hraw
    refine hops raw ?_
    rw [← singleton_append, rpushes_append]
    exact mem_append_right _ hraw
  show Commands.Copies (s.tickOp op).log (s.tickOp op).pending (s.tickOp op).inflight
    (s.tickOp op).session _
  obtain ⟨credits, hlog⟩ := s.tickOp_log op
  rw [hlog, Seam.tickOp_session, Seam.tickOp_pending, Seam.tickOp_inflight]
  have hmoved : Commands.Copies (s.log.withCredits credits) s.pending s.inflight s.session
      (.running (past ++ [op]) ops settled) :=
    { h with snapshot := nil_sublist _, ops := hrest }
  cases op with
  | lremPending raw =>
    exact { hmoved with pending := fun other hother => h.pending other (mem_of_mem_erase hother) }
  | rpushPending raw =>
    refine { hmoved with pending := fun other hother => ?_ }
    rcases mem_append.1 hother with hother | hother
    · exact h.pending other hother
    · obtain rfl := mem_singleton.1 hother
      exact hops _ mem_cons_self
  | lremInflight raw =>
    exact { hmoved with
      snapshot := nil_sublist _, inflight := erase_sublist.trans h.inflight }
  | _ => exact hmoved

lemma Seam.Copies.dispatchStep (h : s.Copies) (hstep : s.dispatchStep = some s') : s'.Copies := by
  unfold Seam.dispatchStep at hstep
  split at hstep
  · cases hstep
  · cases hstep
    exact h.dispatch _ (Sublist.refl _) fun _ hraw => nomatch hraw
  · rename_i nowMs inflight hd
    cases hstep
    have hsnapshot := h.snapshot
    rw [hd] at hsnapshot
    exact h.dispatch _ hsnapshot fun _ hraw => nomatch hraw
  · rename_i nowMs inflight responses hd
    cases hstep
    have hsnapshot := h.snapshot
    rw [hd] at hsnapshot
    refine h.dispatch _ (nil_sublist _) fun raw hraw => ?_
    obtain ⟨cmd, hcmd, -, -, rfl⟩ := mem_rpushes_tickOps hraw
    have hmem := hsnapshot.subset (mem_of_mem_drop hcmd)
    exact (h.recorded cmd (h.inflight.subset hmem)).1
  · rename_i past op ops settled hd
    cases hstep
    exact h.tickOp hd
  · cases hstep
    exact h.rest _ rfl rfl
  · split at hstep <;> cases hstep
    · exact h.rest _ rfl rfl
    · exact { h.rest .idle rfl rfl with }
  · cases hstep
    exact { h.rest .idle rfl rfl with }

lemma Copies.queued (h : Commands.Copies log pending inflight session dispatcher)
    (new : List PendingEntry) {pending' : List PendingEntry} {log' : SeamLog}
    (hqueued : log'.queued = log.queued ++ new) (hrecorded : log'.recorded = log.recorded)
    (hwritten : log'.written = log.written) (hids : log'.ids.Nodup)
    (hpending : ∀ raw ∈ pending', raw ∈ pending ∨ raw ∈ new) :
    Commands.Copies log' pending' inflight session dispatcher := by
  have hmono (raw : PendingEntry) (hraw : IsCopy log.queued raw) : IsCopy log'.queued raw :=
    hraw.mono fun q hq => hqueued ▸ mem_append_left _ hq
  refine ⟨hids, fun raw hraw => ?_, fun i raw hraw => hmono _ (h.unrecorded i raw hraw), h.checked,
    ?_, ?_, ?_, h.snapshot, ?_, fun raw hraw => hmono _ (h.ops raw hraw)⟩
  · rcases hpending raw hraw with hraw | hraw
    · exact hmono raw (h.pending raw hraw)
    · exact ⟨raw, hqueued ▸ mem_append_right _ hraw, rfl, rfl, rfl⟩
  · rw [hrecorded]
    exact fun entry hentry => ⟨hmono _ (h.recorded entry hentry).1, (h.recorded entry hentry).2⟩
  · rw [hrecorded]
    exact h.unwritten
  · rw [hrecorded, hwritten]
    exact h.written
  · rw [hrecorded]
    exact h.inflight

lemma Seam.Copies.apiStep (h : s.Copies) (hfits : QueuesOnce s .api) (hstep : s.apiStep = some s') :
    s'.Copies := by
  unfold Seam.apiStep at hstep
  split at hstep
  · cases hstep
  · rename_i call stale hcall
    cases hstep
    obtain ⟨hset, hverify, hne⟩ := hfits call stale hcall
    refine h.queued [call.set, call.verify] rfl rfl rfl ?_ fun raw hraw => ?_
    · show ((s.log.queued ++ [call.set, call.verify]).map (·.id)).Nodup
      rw [map_append]
      refine nodup_append.2 ⟨h.ids, ?_, ?_⟩
      · simpa [ParamCall.set, ParamCall.verify] using hne
      · rintro id hid other hother rfl
        rcases mem_pair.1 hother with rfl | rfl
        · exact hset hid
        · exact hverify hid
    · rcases mem_append.1 hraw with hraw | hraw
      · exact .inl (mem_of_mem_filter hraw)
      · exact .inr hraw
  · cases hstep
    exact { h with }
  · cases hstep
    exact { h with }

lemma Seam.queued_sessionStep {i : ℕ} {arrives : Bool} (hstep : s.sessionStep i arrives = some s') :
    s'.log.queued = s.log.queued := by
  unfold Seam.sessionStep at hstep
  split at hstep
  · cases hstep
  · cases hstep
    rfl
  · split at hstep
    · split at hstep <;> cases hstep <;> rfl
    · cases hstep
      rfl
  · split at hstep <;> cases hstep <;> rfl
  · cases hstep
    rfl
  · cases hstep
    rfl

lemma Seam.queued_dispatchStep (hstep : s.dispatchStep = some s') :
    s'.log.queued = s.log.queued := by
  unfold Seam.dispatchStep at hstep
  split at hstep
  · cases hstep
  · cases hstep
    rfl
  · cases hstep
    rfl
  · cases hstep
    rfl
  · rename_i past op ops settled hd
    cases hstep
    obtain ⟨credits, hlog⟩ := s.tickOp_log op
    show (s.tickOp op).log.queued = s.log.queued
    rw [hlog]
    rfl
  · cases hstep
    rfl
  · split at hstep <;> cases hstep <;> rfl
  · cases hstep
    rfl

lemma Seam.queued_step {move : SeamMove} (hstep : s.step move = some s') :
    ∃ new, s'.log.queued = s.log.queued ++ new := by
  cases move with
  | clock | paramWrite | connect | drain =>
    simp only [Seam.step] at hstep
    split at hstep
    · cases hstep
      exact ⟨[], (append_nil _).symm⟩
    · cases hstep
  | queue entry =>
    cases hstep
    exact ⟨[entry], rfl⟩
  | wake | hangUp | vanish | answer | crash =>
    cases hstep
    exact ⟨[], (append_nil _).symm⟩
  | api =>
    simp only [Seam.step, Seam.apiStep] at hstep
    split at hstep
    · cases hstep
    · cases hstep
      exact ⟨_, rfl⟩
    · cases hstep
      exact ⟨[], (append_nil _).symm⟩
    · cases hstep
      exact ⟨[], (append_nil _).symm⟩
  | session i arrives => exact ⟨[], (Seam.queued_sessionStep hstep).trans (append_nil _).symm⟩
  | tick =>
    simp only [Seam.step] at hstep
    split at hstep
    · split at hstep
      · cases hstep
        exact ⟨[], (append_nil _).symm⟩
      · cases hstep
    · cases hstep
  | dispatch => exact ⟨[], (Seam.queued_dispatchStep hstep).trans (append_nil _).symm⟩

/-- **Copies stay copies.** -/
theorem Seam.Copies.step (h : s.Copies) {move : SeamMove} (hfits : QueuesOnce s move)
    (hstep : s.step move = some s') : s'.Copies := by
  cases move with
  | clock t =>
    simp only [Seam.step] at hstep
    split at hstep
    · cases hstep
      exact { h with }
    · cases hstep
  | queue entry =>
    cases hstep
    refine h.queued [entry] rfl rfl rfl ?_ fun raw hraw => mem_append.1 hraw
    show ((s.log.queued ++ [entry]).map (·.id)).Nodup
    rw [map_append]
    refine nodup_append.2 ⟨h.ids, nodup_cons.2 ⟨not_mem_nil, nodup_nil⟩, ?_⟩
    rintro id hid other hother rfl
    obtain rfl := mem_singleton.1 hother
    exact hfits.2 hid
  | wake =>
    cases hstep
    exact { h with }
  | answer giver text nack =>
    cases hstep
    exact h.queued [] (append_nil _).symm rfl rfl h.ids fun raw hraw => .inl hraw
  | paramWrite call =>
    simp only [Seam.step] at hstep
    split at hstep
    · cases hstep
      exact { h with }
    · cases hstep
  | api => exact h.apiStep hfits hstep
  | connect i =>
    simp only [Seam.step] at hstep
    split at hstep
    · cases hstep
      exact h.emptyHand i _ (.inl rfl)
    · cases hstep
  | hangUp i =>
    cases hstep
    exact h.setHand i _ (fun raw hraw => h.unrecorded i raw hraw)
      (fun rounds entry hentry => h.checked i rounds entry hentry)
      fun entry hentry => h.unwritten i entry hentry
  | vanish i =>
    cases hstep
    exact h.emptyHand i _ (.inl rfl)
  | drain i =>
    simp only [Seam.step] at hstep
    split at hstep
    · cases hstep
      exact h.emptyHand i _ (.inr ⟨drainBound, rfl⟩)
    · cases hstep
  | session i arrives => exact h.sessionStep hstep
  | tick =>
    simp only [Seam.step] at hstep
    split at hstep
    · split at hstep
      · cases hstep
        exact { h.rest (.started s.now) rfl rfl with }
      · cases hstep
    · cases hstep
  | dispatch => exact h.dispatchStep hstep
  | crash =>
    cases hstep
    exact h.rest .idle rfl rfl

end Step

lemma Seam.Copies.init : Seam.init.Copies := by
  constructor <;> simp [Seam.init, SeamLog.ids, Hand.unrecorded, Hand.unwritten,
    Dispatcher.snapshot, Dispatcher.ops, rpushes]

end Orbetra.Commands
