import Orbetra.Commands.AtMostOnce

/-!
# The last instruction wins

`queueParamWrite` drops the queued `setparam`s that touch one of its parameters, so that a superseded
write does not still execute.  It knows nothing of a write that is in flight: where the connection is
lost under it, the tick queues it once more, behind the newer write (`stale_write_wins`).  And it drops
a write whole, with the parameters that nobody has written since.

`last_write_wins` says that the last instruction wins where neither happens, and where no response is
taken for one to a write that the device has not received.
-/

namespace Orbetra.Commands

open Function List Machine Option

/-! ## The writes of a parameter -/

def ParamCall.touched (call : ParamCall) : List Text := call.writes.map (·.1)

def laterCalls (calls : List ParamCall) (id : String) : List ParamCall :=
  (calls.dropWhile fun call => call.commandId ≠ id).tail

def LastWrite (calls : List ParamCall) (param : Text) (call : ParamCall) : Prop :=
  call ∈ calls ∧ param ∈ call.touched ∧
    ∀ later ∈ laterCalls calls call.commandId, param ∉ later.touched

/-- The command is the `setparam` of a call that writes the parameter. -/
def mentions (calls : List ParamCall) (param : Text) (id : String) : Bool :=
  calls.any fun call => call.commandId = id && param ∈ call.touched

/-- The `setparam`s that write the parameter, as the device has executed them. -/
def SeamLog.executed (log : SeamLog) (param : Text) : List Inflight :=
  log.received.filter fun entry => mentions log.calls param entry.id

/-- The command is a `setparam` of a call. -/
def SeamLog.isSet (log : SeamLog) (id : String) : Prop := id ∈ log.calls.map (·.commandId)

instance (log : SeamLog) (id : String) : Decidable (log.isSet id) :=
  inferInstanceAs (Decidable (id ∈ log.calls.map (·.commandId)))

/-! ## Runs of parameter writes -/

/-- Calls of `queueParamWrite`, with ids of their own, sessions and ticks; no process stops. -/
def WritesOnly (s : Seam) : SeamMove → Prop
  | .queue _ | .vanish _ | .crash => False
  | move => QueuesOnce s move

def OneConnection (s : Seam) : SeamMove → Prop
  | .connect i => ∀ j, j ≠ i → (s.session j).alive = false
  | _ => True

def TickOp.givesUp : TickOp → Option String
  | .updateExpired id => some id
  | .lremPending raw => some raw.id
  | .updateFailed failure => some failure.id
  | _ => none

/-- No `setparam` expires, or is failed by a tick. -/
def NoneGivenUp (s : Seam) : SeamMove → Prop
  | .session i _ =>
    match (s.session i).hand with
    | .popped _ raw => raw.past s.now → ¬ s.log.isSet raw.id
    | _ => True
  | .dispatch =>
    match s.dispatcher with
    | .running _ (op :: _) _ => ∀ id ∈ op.givesUp, ¬ s.log.isSet id
    | _ => True
  | _ => True

def Superseded (calls : List ParamCall) (call : ParamCall) : Prop :=
  ∀ param ∈ call.touched, ∃ later ∈ laterCalls calls call.commandId, param ∈ later.touched

/-- The writes of the call are the last ones. -/
def Newest (calls : List ParamCall) (call : ParamCall) : Prop :=
  ∀ param ∈ call.touched, ∀ later ∈ laterCalls calls call.commandId, param ∉ later.touched

/-- What is dropped is superseded in all its parameters; what is queued once more is superseded in
none; and a tick takes no response for one to a `setparam` that the device has not received. -/
def WritesInOrder (s : Seam) : SeamMove → Prop
  | .api =>
    match s.api with
    | .read call stale => ∀ old ∈ s.log.calls,
        (∃ raw ∈ s.pending, raw ∈ stale ∧ raw.id = old.commandId) →
          Superseded (s.log.calls ++ [call]) old
    | _ => True
  | .dispatch =>
    match s.dispatcher with
    | .readResp _ inflight responses => ∀ pair ∈ inflight.zip responses,
        s.log.isSet pair.1.id → pair.1.id ∈ s.log.received.map (·.id)
    | .running _ (.rpushPending raw :: _) _ =>
      ∀ call ∈ s.log.calls, call.commandId = raw.id → Newest s.log.calls call
    | _ => True
  | _ => True

section Calls

variable {calls : List ParamCall} {call new : ParamCall} {param : Text} {id : String}

lemma mentions_iff : mentions calls param id ↔
    ∃ call ∈ calls, call.commandId = id ∧ param ∈ call.touched := by
  simp [mentions]

lemma laterCalls_append (h : id ∈ calls.map (·.commandId)) :
    laterCalls (calls ++ [new]) id = laterCalls calls id ++ [new] := by
  induction calls with
  | nil => cases h
  | cons first calls ih =>
    unfold laterCalls at ih ⊢
    by_cases hfirst : first.commandId = id
    · simp [hfirst]
    · have hmem : id ∈ calls.map (·.commandId) := by simpa [Ne.symm hfirst] using h
      simpa [hfirst] using ih hmem

lemma laterCalls_new (h : new.commandId ∉ calls.map (·.commandId)) :
    laterCalls (calls ++ [new]) new.commandId = [] := by
  have hother : ∀ call ∈ calls, call.commandId ≠ new.commandId :=
    fun call hcall heq => h (mem_map.2 ⟨call, hcall, heq⟩)
  unfold laterCalls
  rw [dropWhile_append_of_pos fun call hcall => by simpa using hother call hcall]
  simp

lemma exists_lastWrite (hnodup : (calls.map (·.commandId)).Nodup) (hcall : call ∈ calls)
    (hparam : param ∈ call.touched) : ∃ last, LastWrite calls param last := by
  induction calls using reverseRecOn generalizing call with
  | nil => cases hcall
  | append_singleton calls new ih =>
    rw [map_append] at hnodup
    obtain ⟨hbefore, -, hdisjoint⟩ := nodup_append.1 hnodup
    have hfresh : new.commandId ∉ calls.map (·.commandId) :=
      fun hid => hdisjoint _ hid _ mem_cons_self rfl
    by_cases hnew : param ∈ new.touched
    · refine ⟨new, mem_append_right _ mem_cons_self, hnew, ?_⟩
      rw [laterCalls_new hfresh]
      exact fun _ hlater => nomatch hlater
    · have hmem : call ∈ calls := by
        refine (mem_append.1 hcall).resolve_right fun heq => hnew ?_
        rwa [← mem_singleton.1 heq]
      obtain ⟨last, hlast, htouched, hlater⟩ := ih hbefore hmem hparam
      refine ⟨last, mem_append_left _ hlast, htouched, ?_⟩
      rw [laterCalls_append (mem_map.2 ⟨last, hlast, rfl⟩)]
      intro later hmem
      rcases mem_append.1 hmem with hmem | hmem
      · exact hlater later hmem
      · rwa [mem_singleton.1 hmem]

lemma mem_laterCalls (hnodup : (calls.map (·.commandId)).Nodup) (hcall : call ∈ calls)
    (hnew : new ∈ calls) (hne : call ≠ new) :
    new ∈ laterCalls calls call.commandId ∨ call ∈ laterCalls calls new.commandId := by
  induction calls with
  | nil => cases hcall
  | cons first calls ih =>
    have hrest := nodup_cons.1 hnodup
    have hlater (other : ParamCall) (hother : other ∈ calls) :
        laterCalls (first :: calls) other.commandId = laterCalls calls other.commandId := by
      have hfirst : first.commandId ≠ other.commandId := by
        intro heq
        exact hrest.1 (mem_map.2 ⟨other, hother, heq.symm⟩)
      simp [laterCalls, hfirst]
    have hhead : laterCalls (first :: calls) first.commandId = calls := by simp [laterCalls]
    rcases mem_cons.1 hcall with rfl | hcall' <;> rcases mem_cons.1 hnew with rfl | hnew'
    · exact absurd rfl hne
    · exact .inl (hhead.symm ▸ hnew')
    · exact .inr (hhead.symm ▸ hcall')
    · rw [hlater call hcall', hlater new hnew']
      exact ih hrest.2 hcall' hnew'

lemma LastWrite.not_newest (h : LastWrite calls param call)
    (hnodup : (calls.map (·.commandId)).Nodup) (hnew : new ∈ calls) (hne : new ≠ call)
    (hparam : param ∈ new.touched) : ¬ Newest calls new := by
  intro hnewest
  rcases mem_laterCalls hnodup h.1 hnew (Ne.symm hne) with hlater | hlater
  · exact h.2.2 new hlater hparam
  · exact hnewest param hparam call hlater h.2.1

lemma LastWrite.of_append (h : LastWrite (calls ++ [new]) param call) :
    call = new ∨ LastWrite calls param call ∧ param ∉ new.touched := by
  rcases mem_append.1 h.1 with hcall | hcall
  · have hlater := h.2.2
    rw [laterCalls_append (mem_map.2 ⟨call, hcall, rfl⟩)] at hlater
    exact .inr ⟨⟨hcall, h.2.1, fun later hmem => hlater later (mem_append_left _ hmem)⟩,
      hlater new (mem_append_right _ mem_cons_self)⟩
  · exact .inl (mem_singleton.1 hcall)

lemma LastWrite.not_superseded (h : LastWrite calls param call) : ¬ Superseded calls call := by
  intro hall
  obtain ⟨later, hlater, hparam⟩ := hall param h.2.1
  exact h.2.2 later hlater hparam

instance : Decidable (Superseded calls call) :=
  inferInstanceAs (Decidable (∀ param ∈ call.touched, ∃ later ∈ laterCalls calls call.commandId,
    param ∈ later.touched))

instance : Decidable (Newest calls call) :=
  inferInstanceAs (Decidable (∀ param ∈ call.touched, ∀ later ∈ laterCalls calls call.commandId,
    param ∉ later.touched))

end Calls

section Decide

variable (s : Seam)

instance : (move : SeamMove) → Decidable (WritesOnly s move)
  | .queue _ | .vanish _ | .crash => .isFalse id
  | .api => inferInstanceAs (Decidable (QueuesOnce s .api))
  | .clock _ | .wake | .paramWrite _ | .connect _ | .hangUp _ | .drain _ | .session _ _
  | .answer _ _ _ | .tick | .dispatch => .isTrue trivial

instance : (move : SeamMove) → Decidable (NoneGivenUp s move)
  | .session i _ =>
    match h : (s.session i).hand with
    | .popped _ raw =>
      decidable_of_iff (raw.past s.now → ¬ s.log.isSet raw.id) (by simp [NoneGivenUp, h])
    | .idle | .loop _ | .checked _ _ | .recorded _ _ => .isTrue (by simp [NoneGivenUp, h])
  | .dispatch =>
    match h : s.dispatcher with
    | .running _ (op :: _) _ =>
      decidable_of_iff (∀ id ∈ op.givesUp, ¬ s.log.isSet id) (by simp [NoneGivenUp, h])
    | .running _ [] _ | .idle | .started _ | .readInflight _ _ | .readResp _ _ _ | .counted _ _
    | .leaving => .isTrue (by simp [NoneGivenUp, h])
  | .clock _ | .queue _ | .wake | .paramWrite _ | .api | .connect _ | .hangUp _ | .vanish _
  | .drain _ | .answer _ _ _ | .tick | .crash => .isTrue trivial

instance : (move : SeamMove) → Decidable (WritesInOrder s move)
  | .api =>
    match h : s.api with
    | .read call stale =>
      decidable_of_iff (∀ old ∈ s.log.calls,
        (∃ raw ∈ s.pending, raw ∈ stale ∧ raw.id = old.commandId) →
          Superseded (s.log.calls ++ [call]) old) (by simp [WritesInOrder, h])
    | .idle | .marking _ => .isTrue (by simp [WritesInOrder, h])
  | .dispatch =>
    match h : s.dispatcher with
    | .readResp _ inflight responses =>
      decidable_of_iff (∀ pair ∈ inflight.zip responses,
        s.log.isSet pair.1.id → pair.1.id ∈ s.log.received.map (·.id)) (by simp [WritesInOrder, h])
    | .running _ (.rpushPending raw :: _) _ =>
      decidable_of_iff (∀ call ∈ s.log.calls, call.commandId = raw.id → Newest s.log.calls call)
        (by simp [WritesInOrder, h])
    | .running _ [] _ | .running _ (.updateExpired _ :: _) _ | .running _ (.lremPending _ :: _) _
    | .running _ (.updateSent _ :: _) _ | .running _ (.updateAcked _ _ :: _) _
    | .running _ (.updateFailed _ :: _) _ | .running _ (.updateQueued _ :: _) _
    | .running _ (.lremInflight _ :: _) _ | .running _ (.ltrimResp _ :: _) _ | .idle | .started _
    | .readInflight _ _ | .counted _ _ | .leaving => .isTrue (by simp [WritesInOrder, h])
  | .clock _ | .queue _ | .wake | .paramWrite _ | .connect _ | .hangUp _ | .vanish _ | .drain _
  | .session _ _ | .answer _ _ _ | .tick | .crash => .isTrue trivial

end Decide

/-! ## Where the last write is -/

def Hand.command : Hand → Option String
  | .popped _ raw => some raw.id
  | .checked _ entry | .recorded _ entry => some entry.id
  | _ => none

/-- Another `setparam` that writes the parameter. -/
def Rival (calls : List ParamCall) (param : Text) (call : ParamCall) (id : String) : Prop :=
  mentions calls param id ∧ id ≠ call.commandId

/-- The plan queues the command once more, or gives it up. -/
def Saved (ops : List TickOp) (id : String) : Prop :=
  (∃ raw ∈ rpushes ops, raw.id = id) ∨ ∃ failure, .updateFailed failure ∈ ops ∧ failure.id = id

/-- The command is in the hand of a session that has not recorded it. -/
def Held (session : ℕ → Session) (id : String) : Prop :=
  ∃ i raw, (session i).hand.unrecorded = some raw ∧ raw.id = id

/-- The command is still on its way, or has arrived. -/
def Kept (pending : List PendingEntry) (session : ℕ → Session) (inflight : List Inflight)
    (ops : List TickOp) (received : List Inflight) (id : String) : Prop :=
  (∃ raw ∈ pending, raw.id = id) ∨ Held session id ∨
    (∃ entry ∈ inflight, entry.id = id ∧ (entry ∈ lrems ops → Saved ops id)) ∨
      id ∈ received.map (·.id)

/-- The last write of a parameter is kept, and no other write of it comes behind. -/
structure Wins (calls : List ParamCall) (pending : List PendingEntry) (session : ℕ → Session)
    (inflight : List Inflight) (ops : List TickOp) (recorded received : List Inflight)
    (param : Text) (call : ParamCall) : Prop where
  behind : pending.Pairwise fun raw raw' =>
    raw.id = call.commandId → ¬ Rival calls param call raw'.id
  popped : Held session call.commandId ∨ call.commandId ∈ recorded.map (·.id) →
    (∀ raw ∈ pending, ¬ Rival calls param call raw.id) ∧
      ∀ i, (session i).alive → ∀ id ∈ (session i).hand.command, ¬ Rival calls param call id
  executed : call.commandId ∈ received.map (·.id) →
    ∃ entry, (received.filter fun entry => mentions calls param entry.id).getLast? = some entry ∧
      entry.id = call.commandId
  kept : Kept pending session inflight ops received call.commandId

namespace Wins

variable {calls : List ParamCall} {pending : List PendingEntry} {session : ℕ → Session}
  {inflight : List Inflight} {ops : List TickOp} {recorded received : List Inflight}
  {param : Text} {call new : ParamCall} {i : ℕ} {rounds : ℕ} {raw : PendingEntry} {entry : Inflight}

lemma setSession (h : Wins calls pending session inflight ops recorded received param call)
    (next : Session)
    (hnew : ∀ raw', next.hand.unrecorded = some raw' →
      ∃ raw, (session i).hand.unrecorded = some raw ∧ raw.id = raw'.id)
    (hold : ∀ raw, (session i).hand.unrecorded = some raw → raw.id = call.commandId →
      ∃ raw', next.hand.unrecorded = some raw' ∧ raw'.id = raw.id)
    (halive : next.alive → ∀ id ∈ next.hand.command,
      (session i).alive ∧ id ∈ (session i).hand.command) :
    Wins calls pending (update session i next) inflight ops recorded received param call := by
  refine { h with popped := fun hpopped => ?_, kept := ?_ }
  · have hbefore : Held session call.commandId ∨ call.commandId ∈ recorded.map (·.id) := by
      refine hpopped.imp_left fun ⟨j, raw', hj, hid⟩ => ?_
      by_cases hji : j = i
      · subst hji
        rw [update_self] at hj
        obtain ⟨raw, hraw, hsame⟩ := hnew raw' hj
        exact ⟨j, raw, hraw, hsame.trans hid⟩
      · rw [update_of_ne hji] at hj
        exact ⟨j, raw', hj, hid⟩
    refine ⟨(h.popped hbefore).1, fun j hj id hid => ?_⟩
    by_cases hji : j = i
    · subst hji
      rw [update_self] at hj hid
      obtain ⟨hlive, hmine⟩ := halive hj id hid
      exact (h.popped hbefore).2 j hlive id hmine
    · rw [update_of_ne hji] at hj hid
      exact (h.popped hbefore).2 j hj id hid
  · refine h.kept.imp_right (Or.imp_left fun ⟨j, raw, hj, hid⟩ => ?_)
    by_cases hji : j = i
    · subst hji
      obtain ⟨raw', hraw', hsame⟩ := hold raw hj hid
      exact ⟨j, raw', by rw [update_self]; exact hraw', hsame.trans hid⟩
    · exact ⟨j, raw, by rw [update_of_ne hji]; exact hj, hid⟩

lemma pop (h : Wins calls (raw :: pending) session inflight ops recorded received param call)
    (hhand : (session i).hand = .loop (rounds + 1))
    (halone : ∀ j, (session j).alive → j = i) (next : Session)
    (hnext : next.hand = .popped rounds raw) :
    Wins calls pending (update session i next) inflight ops recorded received param call := by
  have hbehind := pairwise_cons.1 h.behind
  have hheld (id : String) (hid : Held (update session i next) id) :
      raw.id = id ∨ Held session id := by
    obtain ⟨j, raw', hj, hid⟩ := hid
    by_cases hji : j = i
    · subst hji
      rw [update_self, hnext] at hj
      cases hj
      exact .inl hid
    · rw [update_of_ne hji] at hj
      exact .inr ⟨j, raw', hj, hid⟩
  have hothers (j : ℕ) (id : String) (hj : (update session i next j).alive)
      (hid : id ∈ (update session i next j).hand.command) : id = raw.id := by
    by_cases hji : j = i
    · subst hji
      rw [update_self, hnext] at hid
      exact (some.inj hid).symm
    · rw [update_of_ne hji] at hj
      exact absurd (halone j hj) hji
  refine { h with behind := hbehind.2, popped := fun hpopped => ?_, kept := ?_ }
  · by_cases hmine : raw.id = call.commandId
    · exact ⟨fun raw' hraw' => hbehind.1 raw' hraw' hmine,
        fun j hj id hid hrival => hrival.2 ((hothers j id hj hid).trans hmine)⟩
    · have hbefore := hpopped.imp_left fun hid => (hheld _ hid).resolve_left hmine
      obtain ⟨hqueued, -⟩ := h.popped hbefore
      exact ⟨fun raw' hraw' => hqueued raw' (mem_cons_of_mem _ hraw'),
        fun j hj id hid => hothers j id hj hid ▸ hqueued raw mem_cons_self⟩
  · rcases h.kept with ⟨raw', hraw', hid⟩ | ⟨j, raw', hj, hid⟩ | hrest
    · rcases mem_cons.1 hraw' with rfl | hraw'
      · exact .inr (.inl ⟨i, raw', by rw [update_self, hnext]; rfl, hid⟩)
      · exact .inl ⟨raw', hraw', hid⟩
    · have hji : j ≠ i := by
        rintro rfl
        rw [hhand] at hj
        cases hj
      exact .inr (.inl ⟨j, raw', by rw [update_of_ne hji]; exact hj, hid⟩)
    · exact .inr (.inr hrest)

lemma recordedBy (h : Wins calls pending session inflight ops recorded received param call)
    (hhand : (session i).hand = .checked rounds entry) (hnew : entry ∉ lrems ops) (next : Session)
    (hnext : next.hand = .recorded rounds entry) (halive : next.alive → (session i).alive) :
    Wins calls pending (update session i next) (inflight ++ [entry]) ops
      (recorded ++ [entry]) received param call := by
  have hmine : Held session entry.id := ⟨i, _, by rw [hhand]; rfl, rfl⟩
  have hheld (id : String) (hid : Held (update session i next) id) : Held session id := by
    obtain ⟨j, raw', hj, hid⟩ := hid
    by_cases hji : j = i
    · subst hji
      rw [update_self, hnext] at hj
      cases hj
    · rw [update_of_ne hji] at hj
      exact ⟨j, raw', hj, hid⟩
  refine { h with popped := fun hpopped => ?_, kept := ?_ }
  · have hbefore : Held session call.commandId ∨ call.commandId ∈ recorded.map (·.id) := by
      rcases hpopped with hid | hid
      · exact .inl (hheld _ hid)
      · rw [map_append] at hid
        rcases mem_append.1 hid with hid | hid
        · exact .inr hid
        · exact .inl (mem_singleton.1 hid ▸ hmine)
    obtain ⟨hqueued, hhands⟩ := h.popped hbefore
    refine ⟨hqueued, fun j hj id hid => ?_⟩
    by_cases hji : j = i
    · subst hji
      rw [update_self] at hj hid
      rw [hnext] at hid
      exact hhands j (halive hj) id (by rw [hhand]; exact hid)
    · rw [update_of_ne hji] at hj hid
      exact hhands j hj id hid
  · rcases h.kept with hqueued | ⟨j, raw', hj, hid⟩ | ⟨other, hother, hid, hsaved⟩ | hreceived
    · exact .inl hqueued
    · by_cases hji : j = i
      · subst hji
        rw [hhand] at hj
        cases hj
        exact .inr (.inr (.inl ⟨entry, mem_append_right _ mem_cons_self, hid,
          fun hmem => absurd hmem hnew⟩))
      · exact .inr (.inl ⟨j, raw', by rw [update_of_ne hji]; exact hj, hid⟩)
    · exact .inr (.inr (.inl ⟨other, mem_append_left _ hother, hid, hsaved⟩))
    · exact .inr (.inr (.inr hreceived))

lemma arrive (h : Wins calls pending session inflight ops recorded received param call)
    (hlast : LastWrite calls param call) (hhand : (session i).hand.command = some entry.id)
    (halive : (session i).alive) (hreceived : ∀ e ∈ received, e ∈ recorded) :
    Wins calls pending session inflight ops recorded (received ++ [entry]) param call := by
  have hmine : mentions calls param call.commandId := mentions_iff.2 ⟨call, hlast.1, rfl, hlast.2.1⟩
  refine { h with executed := fun hexecuted => ?_, kept := ?_ }
  · rw [filter_append]
    by_cases hentry : mentions calls param entry.id
    · have hsame : entry.id = call.commandId := by
        by_contra hne
        have hbefore : call.commandId ∈ received.map (·.id) := by
          rw [map_append] at hexecuted
          refine (mem_append.1 hexecuted).resolve_right fun hid => hne ?_
          exact (mem_singleton.1 hid).symm
        obtain ⟨other, hother, hid⟩ := mem_map.1 hbefore
        exact (h.popped (.inr (mem_map.2 ⟨other, hreceived other hother, hid⟩))).2 i halive
          entry.id hhand ⟨hentry, hne⟩
      refine ⟨entry, ?_, hsame⟩
      rw [filter_cons_of_pos (by simpa using hentry), filter_nil, getLast?_append]
      rfl
    · rw [filter_cons_of_neg (by simpa using hentry), filter_nil, append_nil]
      rw [map_append] at hexecuted
      refine h.executed ((mem_append.1 hexecuted).resolve_right fun hid => hentry ?_)
      have hid : call.commandId = entry.id := mem_singleton.1 hid
      exact hid ▸ hmine
  · refine h.kept.imp_right (Or.imp_right (Or.imp_right fun hid => ?_))
    rw [map_append]
    exact mem_append_left _ hid

lemma not_rival_of_not_set {id : String} (hid : id ∉ calls.map (·.commandId)) :
    ¬ Rival calls param call id := by
  rintro ⟨hmentions, -⟩
  obtain ⟨other, hother, rfl, -⟩ := mentions_iff.1 hmentions
  exact hid (mem_map.2 ⟨other, hother, rfl⟩)

lemma ticked {op : TickOp}
    (h : Wins calls pending session inflight (op :: ops) recorded received param call)
    (hlast : LastWrite calls param call) (hnodup : (calls.map (·.commandId)).Nodup)
    (hgivesUp : ∀ id ∈ op.givesUp, id ∉ calls.map (·.commandId))
    (hnewest : ∀ raw, op = .rpushPending raw →
      ∀ other ∈ calls, other.commandId = raw.id → Newest calls other)
    (horder : ∀ raw, op = .lremInflight raw → ∀ id, ¬ Saved ops id) :
    Wins calls (op.onPending pending) session (op.onInflight inflight) ops recorded received param
      call := by
  have hset : call.commandId ∈ calls.map (·.commandId) := mem_map.2 ⟨call, hlast.1, rfl⟩
  have hquiet (hlrems : lrems (op :: ops) = lrems ops) (hsaved : Saved (op :: ops) call.commandId →
      Saved ops call.commandId) :
      Wins calls pending session inflight ops recorded received param call := by
    refine { h with kept := h.kept.imp_right (Or.imp_right (Or.imp_left ?_)) }
    rintro ⟨entry, hentry, hid, hleaves⟩
    exact ⟨entry, hentry, hid, fun hmem => hsaved (hleaves (hlrems ▸ hmem))⟩
  have hsame (hop : ∀ raw, op ≠ .rpushPending raw) (hfail : ∀ failure, op ≠ .updateFailed failure) :
      Saved (op :: ops) call.commandId → Saved ops call.commandId := by
    rintro (⟨raw, hraw, hid⟩ | ⟨failure, hfailure, hid⟩)
    · refine .inl ⟨raw, ?_, hid⟩
      obtain ⟨op', hop', heq⟩ := mem_filterMap.1 hraw
      rcases mem_cons.1 hop' with rfl | hop'
      · cases op' with
        | rpushPending raw' => exact absurd rfl (hop raw')
        | _ => cases heq
      · exact mem_filterMap.2 ⟨op', hop', heq⟩
    · exact .inr ⟨failure, (mem_cons.1 hfailure).resolve_left fun heq =>
        hfail failure heq.symm, hid⟩
  cases op with
  | lremPending raw =>
    have h' := hquiet rfl (hsame (by simp) (by simp))
    refine { h' with
      behind := h'.behind.sublist erase_sublist
      popped := fun hpopped => ⟨fun other hother =>
        (h'.popped hpopped).1 other (mem_of_mem_erase hother), (h'.popped hpopped).2⟩
      kept := h'.kept.imp_left ?_ }
    rintro ⟨other, hother, hid⟩
    refine ⟨other, (mem_erase_of_ne ?_).2 hother, hid⟩
    rintro rfl
    exact hgivesUp other.id rfl (hid ▸ hset)
  | rpushPending raw =>
    have hrival : ¬ Rival calls param call raw.id := by
      rintro ⟨hmentions, hne⟩
      obtain ⟨other, hother, hid, hparam⟩ := mentions_iff.1 hmentions
      exact hlast.not_newest hnodup hother (fun heq => hne (heq ▸ hid.symm)) hparam
        (hnewest raw rfl other hother hid)
    refine { h with
      behind := ?_
      popped := fun hpopped => ⟨fun other hother => ?_, (h.popped hpopped).2⟩
      kept := ?_ }
    · refine pairwise_append.2 ⟨h.behind, pairwise_singleton _ _, ?_⟩
      intro first _ other hother _
      rwa [mem_singleton.1 hother]
    · rcases mem_append.1 hother with hother | hother
      · exact (h.popped hpopped).1 other hother
      · rwa [mem_singleton.1 hother]
    · by_cases hraw : raw.id = call.commandId
      · exact .inl ⟨raw, mem_append_right _ mem_cons_self, hraw⟩
      · refine (hquiet rfl ?_).kept.imp_left ?_
        · rintro (⟨other, hother, hid⟩ | ⟨failure, hfailure, hid⟩)
          · refine .inl ⟨other, (mem_cons.1 hother).resolve_left ?_, hid⟩
            rintro rfl
            exact hraw hid
          · exact .inr ⟨failure, (mem_cons.1 hfailure).resolve_left (by simp), hid⟩
        · rintro ⟨other, hother, hid⟩
          exact ⟨other, mem_append_left _ hother, hid⟩
  | lremInflight raw =>
    refine { h with kept := h.kept.imp_right (Or.imp_right (Or.imp_left ?_)) }
    rintro ⟨entry, hentry, hid, hleaves⟩
    have hstays : entry ∉ lrems (.lremInflight raw :: ops) := fun hmem =>
      horder raw rfl _ (hsame (by simp) (by simp) (hleaves hmem))
    refine ⟨entry, (mem_erase_of_ne ?_).2 hentry, hid, fun hmem =>
      absurd (mem_cons_of_mem _ hmem) hstays⟩
    rintro rfl
    exact hstays mem_cons_self
  | updateFailed failure =>
    refine hquiet rfl ?_
    rintro (hraw | ⟨other, hother, hid⟩)
    · exact .inl hraw
    · refine .inr ⟨other, (mem_cons.1 hother).resolve_left ?_, hid⟩
      intro heq
      obtain rfl := TickOp.updateFailed.inj heq
      exact hgivesUp other.id rfl (hid ▸ hset)
  | _ => exact hquiet rfl (hsame (by simp) (by simp))

/-- A command is at the place of a response, or behind them all. -/
lemma mem_zip_or_drop (inflight : List Inflight) (responses : List CmdResponse)
    (h : entry ∈ inflight) :
    (∃ pair ∈ inflight.zip responses, pair.1 = entry) ∨ entry ∈ inflight.drop responses.length := by
  induction inflight generalizing responses with
  | nil => cases h
  | cons first inflight ih =>
    cases responses with
    | nil => exact .inr h
    | cons response responses =>
      rcases mem_cons.1 h with rfl | h
      · exact .inl ⟨(entry, response), mem_cons_self, rfl⟩
      · refine (ih responses h).imp_left fun ⟨pair, hpair, heq⟩ => ?_
        exact ⟨pair, mem_cons_of_mem _ hpair, heq⟩

lemma planned (h : Wins calls pending session inflight [] recorded received param call)
    (snapshot : List Inflight) (responses : List CmdResponse) (nowMs : Ms)
    (queued : List PendingEntry)
    (hread : ∀ pair ∈ snapshot.zip responses, pair.1.id = call.commandId →
      call.commandId ∈ received.map (·.id)) :
    Wins calls pending session inflight (tickOps nowMs snapshot responses queued) recorded received
      param call := by
  refine { h with kept := ?_ }
  rcases h.kept with hqueued | hheld | ⟨entry, hentry, hid, -⟩ | hreceived
  · exact .inl hqueued
  · exact .inr (.inl hheld)
  · by_cases hreceived : call.commandId ∈ received.map (·.id)
    · exact .inr (.inr (.inr hreceived))
    refine .inr (.inr (.inl ⟨entry, hentry, hid, fun hmem => ?_⟩))
    rw [lrems_tickOps] at hmem
    obtain ⟨hsnapshot, hleaves⟩ := mem_filter.1 hmem
    rcases mem_zip_or_drop snapshot responses hsnapshot with ⟨pair, hpair, rfl⟩ | hlate
    · exact absurd (hread pair hpair hid) hreceived
    have hwaits : entry.waits nowMs = false := by
      by_contra hwaits
      refine of_decide_eq_true hleaves (mem_map.2 ⟨entry, mem_filter.2 ⟨hlate, ?_⟩, rfl⟩)
      exact eq_true_of_ne_false hwaits
    have hlate' : entry ∈ (snapshot.drop responses.length).filter fun cmd => !cmd.waits nowMs :=
      mem_filter.2 ⟨hlate, by simp [hwaits]⟩
    by_cases hretries : entry.retries
    · refine .inl ⟨{ entry with attempt := entry.attempt + 1 }.requeued, ?_, hid⟩
      rw [rpushes_tickOps]
      exact mem_map_of_mem (mem_map_of_mem (mem_filter.2 ⟨hlate', hretries⟩))
    · refine .inr ⟨Failure.ofTimeout entry, ?_, hid⟩
      have hfailed : Failure.ofTimeout entry ∈ (reconcile snapshot responses nowMs).failed :=
        mem_append_right _ (mem_map_of_mem (mem_filter.2 ⟨hlate', by simpa using hretries⟩))
      simp only [tickOps, mem_append]
      exact .inl (.inl (.inl (.inr (mem_map_of_mem hfailed))))
  · exact .inr (.inr (.inr hreceived))

lemma pushed (h : Wins calls pending session inflight ops recorded received param call)
    (hparam : param ∉ new.touched) (stale : List PendingEntry)
    (hset : new.commandId ∉ calls.map (·.commandId))
    (hverify : new.verifyCommandId ∉ calls.map (·.commandId))
    (hkept : ∀ raw ∈ pending, raw ∈ stale → raw.id ≠ call.commandId) :
    Wins (calls ++ [new]) (pending.filter (fun raw => raw ∉ stale) ++ [new.set, new.verify]) session
      inflight ops recorded received param call := by
  have hmentions (id : String) : mentions (calls ++ [new]) param id = mentions calls param id := by
    simp [mentions, hparam]
  have hrival (id : String) : Rival (calls ++ [new]) param call id ↔ Rival calls param call id := by
    unfold Rival
    rw [hmentions]
  have hnew : ∀ raw ∈ [new.set, new.verify], ¬ Rival calls param call raw.id := by
    intro raw hraw
    rcases mem_pair.1 hraw with rfl | rfl
    · exact not_rival_of_not_set hset
    · exact not_rival_of_not_set hverify
  refine ⟨?_, fun hpopped => ?_, fun hexecuted => ?_, h.kept.imp_left ?_⟩
  · simp only [hrival]
    refine pairwise_append.2 ⟨h.behind.filter _, ?_, fun _ _ raw hraw _ => hnew raw hraw⟩
    exact pairwise_of_forall_mem_list fun _ _ raw hraw _ => hnew raw hraw
  · simp only [hrival]
    refine ⟨fun raw hraw => ?_, (h.popped hpopped).2⟩
    rcases mem_append.1 hraw with hraw | hraw
    · exact (h.popped hpopped).1 raw (mem_of_mem_filter hraw)
    · exact hnew raw hraw
  · simp only [hmentions]
    exact h.executed hexecuted
  · rintro ⟨raw, hraw, hid⟩
    refine ⟨raw, mem_append_left _ (mem_filter.2 ⟨hraw, ?_⟩), hid⟩
    exact decide_eq_true fun hstale => hkept raw hraw hstale hid

lemma begun (stale : List PendingEntry) (hne : new.commandId ≠ new.verifyCommandId)
    (hpending : ∀ raw ∈ pending, raw.id ≠ new.commandId) (hheld : ¬ Held session new.commandId)
    (hrecorded : new.commandId ∉ recorded.map (·.id))
    (hreceived : ∀ entry ∈ received, entry ∈ recorded)
    (hverify : new.verifyCommandId ∉ calls.map (·.commandId)) :
    Wins (calls ++ [new]) (pending.filter (fun raw => raw ∉ stale) ++ [new.set, new.verify]) session
      inflight ops recorded received param new := by
  have hnot : ¬ Rival (calls ++ [new]) param new new.verify.id := by
    refine not_rival_of_not_set fun hid => ?_
    rw [map_append] at hid
    rcases mem_append.1 hid with hid | hid
    · exact hverify hid
    · exact hne (mem_singleton.1 hid).symm
  refine ⟨?_, fun hpopped => absurd hpopped (not_or.2 ⟨hheld, hrecorded⟩), fun hexecuted => ?_,
    .inl ⟨new.set, mem_append_right _ mem_cons_self, rfl⟩⟩
  · have hqueued : ∀ raw ∈ pending.filter (fun raw => raw ∉ stale), raw.id ≠ new.commandId :=
      fun raw hraw => hpending raw (mem_of_mem_filter hraw)
    refine pairwise_append.2 ⟨?_, ?_, fun raw hraw _ _ hid => absurd hid (hqueued raw hraw)⟩
    · exact pairwise_of_forall_mem_list fun raw hraw _ _ hid => absurd hid (hqueued raw hraw)
    · refine pairwise_pair.2 fun _ => hnot
  · obtain ⟨entry, hentry, hid⟩ := mem_map.1 hexecuted
    exact absurd (mem_map.2 ⟨entry, hreceived entry hentry, hid⟩) hrecorded

end Wins

/-! ## A run -/

/-- Once a tick takes commands out of flight, it has queued and failed what it queues and fails. -/
def Settles : TickOp → TickOp → Prop
  | .lremInflight _, .rpushPending _ | .lremInflight _, .updateFailed _ => False
  | _, _ => True

/-- At most one connection is not closed. -/
def OneAlive (session : ℕ → Session) : Prop := ∀ i j, (session i).alive → (session j).alive → i = j

lemma OneAlive.update {session : ℕ → Session} (h : OneAlive session) (i : ℕ) (next : Session)
    (hnext : next.alive → ∀ j, j ≠ i → (session j).alive = false) :
    OneAlive (update session i next) := by
  intro j j' hj hj'
  have hother {a : ℕ} (ha : a ≠ i) (hlive : (session a).alive) (hnow : next.alive) : False := by
    rw [hnext hnow a ha] at hlive
    cases hlive
  by_cases hji : j = i <;> by_cases hji' : j' = i
  · rw [hji, hji']
  · subst hji
    rw [update_self] at hj
    rw [update_of_ne hji'] at hj'
    exact (hother hji' hj' hj).elim
  · subst hji'
    rw [update_self] at hj'
    rw [update_of_ne hji] at hj
    exact (hother hji hj hj').elim
  · rw [update_of_ne hji] at hj
    rw [update_of_ne hji'] at hj'
    exact h j j' hj hj'

lemma OneAlive.setHand {session : ℕ → Session} (h : OneAlive session) (i : ℕ) (next : Session)
    (hnext : next.alive → (session i).alive) : OneAlive (Function.update session i next) := by
  refine h.update i next fun hlive j hj => ?_
  by_contra hother
  exact hj (h j i (eq_true_of_ne_false hother) (hnext hlive))

/-- The last write of each parameter is kept, and no other write of it comes behind. -/
structure LastWins (s : Seam) : Prop where
  copies : s.Copies
  once : ∀ x, s.Once x 3
  sets : ∀ call ∈ s.log.calls, call.set ∈ s.log.queued
  distinct : (s.log.calls.map (·.commandId)).Nodup
  alone : OneAlive s.session
  received : ∀ entry ∈ s.log.received, entry ∈ s.log.recorded
  removes : ∀ entry ∈ lrems s.dispatcher.ops, entry ∈ s.log.recorded
  settles : s.dispatcher.ops.Pairwise Settles
  wins : ∀ param call, LastWrite s.log.calls param call →
    Wins s.log.calls s.pending s.session s.inflight s.dispatcher.ops s.log.recorded s.log.received
      param call

section Plan

variable {nowMs : Ms} {inflight : List Inflight} {responses : List CmdResponse}
  {pending : List PendingEntry}

lemma settles_tickOps : (tickOps nowMs inflight responses pending).Pairwise Settles := by
  have hleft {op op' : TickOp} (hop : ∀ raw, op ≠ .lremInflight raw) : Settles op op' := by
    cases op with
    | lremInflight raw => exact absurd rfl (hop raw)
    | _ => trivial
  have hright {op op' : TickOp} (hop : ∀ raw, op' ≠ .rpushPending raw)
      (hop' : ∀ failure, op' ≠ .updateFailed failure) : Settles op op' := by
    cases op' with
    | rpushPending raw => exact absurd rfl (hop raw)
    | updateFailed failure => exact absurd rfl (hop' failure)
    | _ => cases op <;> trivial
  unfold tickOps
  dsimp only
  rw [append_assoc]
  refine pairwise_append.2 ⟨?_, ?_, fun op _ op' hop' => ?_⟩
  · refine pairwise_of_forall_mem_list fun op hop op' _ => hleft fun raw heq => ?_
    subst heq
    by_cases hnil : inflight = [] <;> simp [hnil] at hop
  · refine pairwise_of_forall_mem_list fun op _ op' hop' => hright ?_ ?_ <;>
      (rintro _ rfl; rcases mem_append.1 hop' with hop' | hop')
    · simp at hop'
    · split at hop' <;> simp at hop'
    · simp at hop'
    · split at hop' <;> simp at hop'
  · refine hright ?_ ?_ <;> (rintro _ rfl; rcases mem_append.1 hop' with hop' | hop')
    · simp at hop'
    · split at hop' <;> simp at hop'
    · simp at hop'
    · split at hop' <;> simp at hop'

/-- Behind a removal, nothing is queued or failed. -/
lemma not_saved_of_settles {raw : Inflight} {ops : List TickOp}
    (h : (TickOp.lremInflight raw :: ops).Pairwise Settles) (id : String) : ¬ Saved ops id := by
  have hall := (pairwise_cons.1 h).1
  rintro (⟨again, hagain, -⟩ | ⟨failure, hfailure, -⟩)
  · obtain ⟨op, hop, heq⟩ := mem_filterMap.1 hagain
    cases op with
    | rpushPending raw' => exact hall _ hop
    | _ => cases heq
  · exact hall _ hfailure

end Plan

section Step

variable {s s' : Seam}

lemma LastWins.isSet_mem (h : LastWins s) {id : String} (hid : id ∈ s.log.calls.map (·.commandId)) :
    id ∈ s.log.ids := by
  obtain ⟨call, hcall, rfl⟩ := mem_map.1 hid
  exact mem_map.2 ⟨call.set, h.sets call hcall, rfl⟩

/-- A session moves on, with the command it has, or drops one that is not a `setparam`. -/
lemma LastWins.setSession (h : LastWins s) {i : ℕ} (next : Session)
    (hcopies : Seam.Copies { s with session := update s.session i next })
    (honce : ∀ x, Seam.Once x 3 { s with session := update s.session i next })
    (halone : OneAlive (update s.session i next))
    (hnew : ∀ raw', next.hand.unrecorded = some raw' →
      ∃ raw, (s.session i).hand.unrecorded = some raw ∧ raw.id = raw'.id)
    (hold : ∀ raw, (s.session i).hand.unrecorded = some raw → s.log.isSet raw.id →
      ∃ raw', next.hand.unrecorded = some raw' ∧ raw'.id = raw.id)
    (halive : next.alive → ∀ id ∈ next.hand.command,
      (s.session i).alive ∧ id ∈ (s.session i).hand.command) :
    LastWins { s with session := update s.session i next } :=
  { h with
    copies := hcopies
    once := honce
    alone := halone
    wins := fun param call hlast => (h.wins param call hlast).setSession next hnew
      (fun raw hraw hid => hold raw hraw (mem_map.2 ⟨call, hlast.1, hid.symm⟩)) halive }

lemma LastWins.text_eq (h : LastWins s) {call : ParamCall} (hcall : call ∈ s.log.calls)
    {raw : PendingEntry} (hraw : IsCopy s.log.queued raw) (hid : raw.id = call.commandId) :
    raw.text = setparamText call.writes := by
  obtain ⟨q, hq, hsame, htext, -⟩ := hraw
  have hset : q = call.set :=
    inj_on_of_nodup_map h.copies.ids hq (h.sets call hcall) (hsame.symm.trans hid)
  exact htext.trans (congrArg PendingEntry.text hset)

lemma setparamText_ne_nil (writes : List (Text × ℤ)) : setparamText writes ≠ [] :=
  append_ne_nil_of_left_ne_nil (by decide) _

lemma LastWins.not_removed (h : LastWins s) {i rounds : ℕ} {entry : Inflight}
    (hhand : (s.session i).hand = .checked rounds entry) : entry ∉ lrems s.dispatcher.ops := by
  intro hmem
  refine (h.once entry.id).held i entry.requeued (congrArg Hand.unrecorded hhand) rfl
    (mem_attemptsOf.2 ⟨entry.requeued, ?_, rfl, rfl⟩)
  exact mem_append_right _ (mem_map_of_mem (h.removes entry hmem))

/-- **A step of a drain.** -/
lemma LastWins.sessionStep (h : LastWins s) {i : ℕ} {arrives : Bool}
    (hgiven : NoneGivenUp s (.session i arrives)) (hstep : s.sessionStep i arrives = some s') :
    LastWins s' := by
  have hcopies := h.copies.sessionStep hstep
  have honce := fun x => (h.once x).sessionStep h.copies hstep
  have quiet (hand : Hand) (hcopies : (s.setHand i hand).Copies)
      (honce : ∀ x, Seam.Once x 3 (s.setHand i hand)) (hunrecorded : hand.unrecorded = none)
      (hcommand : hand.command = none)
      (hold : ∀ raw, (s.session i).hand.unrecorded = some raw → ¬ s.log.isSet raw.id) :
      LastWins (s.setHand i hand) :=
    h.setSession _ hcopies honce (h.alone.setHand i _ id) (by simp [hunrecorded])
      (fun raw hraw hset => absurd hset (hold raw hraw)) (by simp [hcommand])
  unfold Seam.sessionStep at hstep
  split at hstep
  · cases hstep
  · rename_i hhand
    cases hstep
    exact quiet _ hcopies honce rfl rfl (by simp [hhand, Hand.unrecorded])
  · rename_i rounds hhand
    split at hstep
    · rename_i hlive
      split at hstep
      · cases hstep
        exact quiet _ hcopies honce rfl rfl (by simp [hhand, Hand.unrecorded])
      · rename_i raw pending hpending
        cases hstep
        refine { h with
          copies := hcopies
          once := honce
          alone := h.alone.setHand i _ id
          wins := fun param call hlast => ?_ }
        have hwins := h.wins param call hlast
        rw [hpending] at hwins
        exact hwins.pop hhand (fun j hj => h.alone j i hj hlive) _ rfl
    · cases hstep
      exact quiet _ hcopies honce rfl rfl (by simp [hhand, Hand.unrecorded])
  · rename_i rounds raw hhand
    have hunrecorded : (s.session i).hand.unrecorded = some raw := congrArg Hand.unrecorded hhand
    split at hstep
    · rename_i hdropped
      cases hstep
      refine quiet _ hcopies honce rfl rfl fun raw' hraw' hset => ?_
      obtain rfl : raw = raw' := some.inj (hunrecorded.symm.trans hraw')
      rcases hdropped with hpast | htext
      · simp only [NoneGivenUp, hhand] at hgiven
        exact hgiven hpast hset
      · obtain ⟨call, hcall, hid⟩ := mem_map.1 hset
        have hcopy := h.copies.unrecorded i raw hunrecorded
        exact setparamText_ne_nil _ ((h.text_eq hcall hcopy hid.symm).symm.trans htext)
    · cases hstep
      refine h.setSession _ hcopies honce (h.alone.setHand i _ id) (fun raw' hraw' => ?_)
        (fun raw' hraw' _ => ?_) fun hlive id hid => ⟨hlive, ?_⟩
      · cases hraw'
        exact ⟨raw, hunrecorded, rfl⟩
      · obtain rfl : raw = raw' := some.inj (hunrecorded.symm.trans hraw')
        exact ⟨_, rfl, rfl⟩
      · rw [hhand]
        exact hid
  · rename_i rounds entry hhand
    cases hstep
    exact { h with
      copies := hcopies
      once := honce
      alone := h.alone.setHand i _ id
      received := fun other hother => mem_append_left _ (h.received other hother)
      removes := fun other hother => mem_append_left _ (h.removes other hother)
      wins := fun param call hlast =>
        (h.wins param call hlast).recordedBy hhand (h.not_removed hhand) _ rfl id }
  · rename_i rounds entry hhand
    cases hstep
    have hrecorded : entry ∈ s.log.recorded :=
      h.copies.unwritten i entry (congrArg Hand.unwritten hhand)
    have hkept (received : List Inflight) {param : Text} {call : ParamCall}
        (hwins : Wins s.log.calls s.pending s.session s.inflight s.dispatcher.ops s.log.recorded
          received param call) :
        Wins s.log.calls s.pending (update s.session i
          { s.session i with hand := .loop rounds }) s.inflight s.dispatcher.ops s.log.recorded
          received param call :=
      hwins.setSession _ (fun _ hraw => by cases hraw)
        (fun raw hraw => by simp [hhand, Hand.unrecorded] at hraw) fun _ _ hid => by cases hid
    refine { h with
      copies := hcopies
      once := honce
      alone := h.alone.setHand i _ id
      received := fun other hother => ?_
      wins := fun param call hlast => hkept _ ?_ }
    · change other ∈ if arrives && (s.session i).alive then s.log.received ++ [entry]
        else s.log.received at hother
      split at hother
      · rcases mem_append.1 hother with hother | hother
        · exact h.received other hother
        · rwa [mem_singleton.1 hother]
      · exact h.received other hother
    · have hwins := h.wins param call hlast
      change Wins _ _ _ _ _ _ (if arrives && (s.session i).alive then s.log.received ++ [entry]
        else s.log.received) _ _
      split
      · rename_i harrives
        exact hwins.arrive hlast (by rw [hhand]; rfl) (Bool.and_eq_true_iff.1 harrives).2 h.received
      · exact hwins

/-- A tick gets to a place, with other commands to make. -/
lemma LastWins.dispatch (h : LastWins s) {d : Dispatcher} (hcopies : (s.dispatch d).Copies)
    (honce : ∀ x, Seam.Once x 3 (s.dispatch d))
    (hremoves : ∀ entry ∈ lrems d.ops, entry ∈ s.log.recorded) (hsettles : d.ops.Pairwise Settles)
    (hwins : ∀ param call, LastWrite s.log.calls param call →
      Wins s.log.calls s.pending s.session s.inflight d.ops s.log.recorded s.log.received param
        call) : LastWins (s.dispatch d) :=
  { h with
    copies := hcopies
    once := honce
    removes := hremoves
    settles := hsettles
    wins := hwins }

/-- **A step of a tick.** -/
lemma LastWins.dispatchStep (h : LastWins s) (hgiven : NoneGivenUp s .dispatch)
    (hfits : WritesInOrder s .dispatch) (hstep : s.dispatchStep = some s') : LastWins s' := by
  have hcopies := h.copies.dispatchStep hstep
  have honce := fun x => (h.once x).dispatchStep h.copies
    (fun entry _ _ hretries => of_decide_eq_true (Bool.and_eq_true_iff.1 hretries).2) hstep
  have rest (d : Dispatcher) (hops : s.dispatcher.ops = d.ops) (hcopies : (s.dispatch d).Copies)
      (honce : ∀ x, Seam.Once x 3 (s.dispatch d)) : LastWins (s.dispatch d) :=
    h.dispatch hcopies honce (hops ▸ h.removes) (hops ▸ h.settles) (hops ▸ h.wins)
  unfold Seam.dispatchStep at hstep
  split at hstep
  · cases hstep
  · rename_i hd
    cases hstep
    exact rest _ (by rw [hd]; rfl) hcopies honce
  · rename_i hd
    cases hstep
    exact rest _ (by rw [hd]; rfl) hcopies honce
  · rename_i nowMs inflight responses hd
    cases hstep
    have hsnapshot := h.copies.snapshot
    have hwins := h.wins
    rw [hd] at hsnapshot hwins
    simp only [WritesInOrder, hd] at hfits
    refine h.dispatch hcopies honce (fun entry hentry => ?_) settles_tickOps
      fun param call hlast => (hwins param call hlast).planned _ _ _ _ fun pair hpair hid => ?_
    · have hmem : entry ∈ lrems (tickOps nowMs inflight responses s.pending) := hentry
      rw [lrems_tickOps] at hmem
      exact h.copies.inflight.subset (hsnapshot.subset (mem_of_mem_filter hmem))
    · exact hid ▸ hfits pair hpair (mem_map.2 ⟨call, hlast.1, hid.symm⟩)
  · rename_i past op ops settled hd
    cases hstep
    have hremoves := h.removes
    have hsettles := h.settles
    have hwins := h.wins
    rw [hd] at hremoves hsettles hwins
    simp only [NoneGivenUp, hd] at hgiven
    obtain ⟨credits, hlog⟩ := s.tickOp_log op
    refine ⟨hcopies, honce, ?_, ?_, ?_, ?_, ?_, (pairwise_cons.1 hsettles).2, fun param call => ?_⟩
    · show ∀ call ∈ (s.tickOp op).log.calls, call.set ∈ (s.tickOp op).log.queued
      rw [hlog]
      exact h.sets
    · show ((s.tickOp op).log.calls.map (·.commandId)).Nodup
      rw [hlog]
      exact h.distinct
    · show OneAlive (s.tickOp op).session
      rw [Seam.tickOp_session]
      exact h.alone
    · show ∀ entry ∈ (s.tickOp op).log.received, entry ∈ (s.tickOp op).log.recorded
      rw [hlog]
      exact h.received
    · show ∀ entry ∈ lrems ops, entry ∈ (s.tickOp op).log.recorded
      rw [hlog]
      refine fun entry hentry => hremoves entry ?_
      show entry ∈ lrems ([op] ++ ops)
      rw [lrems_append]
      exact mem_append_right _ hentry
    · show LastWrite (s.tickOp op).log.calls param call → Wins (s.tickOp op).log.calls
        (s.tickOp op).pending (s.tickOp op).session (s.tickOp op).inflight ops
        (s.tickOp op).log.recorded (s.tickOp op).log.received param call
      rw [hlog, Seam.tickOp_session, Seam.tickOp_pending, Seam.tickOp_inflight]
      refine fun hlast => (hwins param call hlast).ticked hlast h.distinct hgiven ?_ ?_
      · rintro raw rfl
        simpa only [WritesInOrder, hd] using hfits
      · rintro raw rfl
        exact not_saved_of_settles hsettles
  · rename_i hd
    cases hstep
    exact rest _ (by rw [hd]; rfl) hcopies honce
  · rename_i settled pending hd
    split at hstep <;> cases hstep
    · exact rest _ (by rw [hd]; rfl) hcopies honce
    · have hwins := h.wins
      rw [hd] at hwins
      exact { h with
        copies := hcopies
        once := honce
        removes := fun _ hentry => nomatch hentry
        settles := .nil
        wins := hwins }
  · rename_i hd
    cases hstep
    have hwins := h.wins
    rw [hd] at hwins
    exact { h with
      copies := hcopies
      once := honce
      removes := fun _ hentry => nomatch hentry
      settles := .nil
      wins := hwins }

lemma LastWins.fresh (h : LastWins s) {id : String} (hnew : id ∉ s.log.ids) :
    (∀ raw ∈ s.pending, raw.id ≠ id) ∧ ¬ Held s.session id ∧ id ∉ s.log.recorded.map (·.id) := by
  have hcopy {raw : PendingEntry} (hraw : IsCopy s.log.queued raw) : raw.id ≠ id := by
    obtain ⟨q, hq, hid, -⟩ := hraw
    rintro rfl
    exact hnew (mem_map.2 ⟨q, hq, hid.symm⟩)
  refine ⟨fun raw hraw => hcopy (h.copies.pending raw hraw), ?_, fun hid => ?_⟩
  · rintro ⟨i, raw, hraw, hid⟩
    exact hcopy (h.copies.unrecorded i raw hraw) hid
  · obtain ⟨entry, hentry, hid⟩ := mem_map.1 hid
    exact hcopy (h.copies.recorded entry hentry).1 hid

/-- **A step of a call** of `queueParamWrite`. -/
lemma LastWins.apiStep (h : LastWins s) (honceIds : QueuesOnce s .api)
    (hfits : WritesInOrder s .api) (hstep : s.apiStep = some s') : LastWins s' := by
  have hcopies := h.copies.apiStep honceIds hstep
  have honce := fun x => (h.once x).apiStep h.copies (by decide) honceIds hstep
  unfold Seam.apiStep at hstep
  split at hstep
  · cases hstep
  · rename_i call stale hcall
    cases hstep
    obtain ⟨hset, hverify, hne⟩ := honceIds call stale hcall
    have hset' : call.commandId ∉ s.log.calls.map (·.commandId) := fun hid => hset (h.isSet_mem hid)
    have hverify' : call.verifyCommandId ∉ s.log.calls.map (·.commandId) :=
      fun hid => hverify (h.isSet_mem hid)
    obtain ⟨hpending, hheld, hrecorded⟩ := h.fresh hset
    simp only [WritesInOrder, hcall] at hfits
    refine { h with
      copies := hcopies
      once := honce
      sets := fun other hother => ?_
      distinct := ?_
      wins := fun param other hlast => ?_ }
    · rcases mem_append.1 hother with hother | hother
      · exact mem_append_left _ (h.sets other hother)
      · rw [mem_singleton.1 hother]
        exact mem_append_right _ mem_cons_self
    · show ((s.log.calls ++ [call]).map (·.commandId)).Nodup
      rw [map_append]
      refine nodup_append.2 ⟨h.distinct, nodup_singleton _, ?_⟩
      rintro id hid other hother rfl
      have hother : id = call.commandId := mem_singleton.1 hother
      exact hset' (hother ▸ hid)
    · have hsplit : LastWrite (s.log.calls ++ [call]) param other := hlast
      rcases hsplit.of_append with rfl | ⟨hlast', hparam⟩
      · exact Wins.begun stale hne hpending hheld hrecorded h.received hverify'
      · refine (h.wins param other hlast').pushed hparam stale hset' hverify' ?_
        intro raw hraw hstale hid
        exact hsplit.not_superseded (hfits other hlast'.1 ⟨raw, hraw, hstale, hid⟩)
  · cases hstep
    exact { h with copies := hcopies, once := honce }
  · cases hstep
    exact { h with copies := hcopies, once := honce }

/-- **Each step** keeps the last write of each parameter. -/
lemma LastWins.step (h : LastWins s) {move : SeamMove} (honly : WritesOnly s move)
    (hone : OneConnection s move) (hgiven : NoneGivenUp s move) (hfits : WritesInOrder s move)
    (hstep : s.step move = some s') : LastWins s' := by
  have hids : QueuesOnce s move := by
    cases move <;> first | exact honly | exact honly.elim
  have hcopies := h.copies.step hids hstep
  have honce : ∀ x, s'.Once x 3 := fun x => (h.once x).step h.copies (by decide)
    (fun entry _ _ hretries => of_decide_eq_true (Bool.and_eq_true_iff.1 hretries).2)
    (by rintro rfl; exact honly.elim) hids hstep
  have quiet (i : ℕ) (next : Session) (hidle : (s.session i).hand = .idle)
      (hcopies : Seam.Copies { s with session := update s.session i next })
      (honce : ∀ x, Seam.Once x 3 { s with session := update s.session i next })
      (halone : OneAlive (update s.session i next)) (hunrecorded : next.hand.unrecorded = none)
      (hcommand : next.hand.command = none) :
      LastWins { s with session := update s.session i next } :=
    h.setSession next hcopies honce halone (by simp [hunrecorded])
      (by simp [hidle, Hand.unrecorded]) (by simp [hcommand])
  cases move with
  | clock t =>
    simp only [Seam.step] at hstep
    split at hstep
    · cases hstep
      exact { h with copies := hcopies, once := honce }
    · cases hstep
  | wake | answer =>
    cases hstep
    exact { h with copies := hcopies, once := honce }
  | paramWrite call =>
    simp only [Seam.step] at hstep
    split at hstep
    · cases hstep
      exact { h with copies := hcopies, once := honce }
    · cases hstep
  | api => exact h.apiStep hids hfits hstep
  | connect i =>
    simp only [Seam.step] at hstep
    split at hstep
    · rename_i hidle
      cases hstep
      exact quiet i _ hidle hcopies honce (h.alone.update i _ fun _ => hone) rfl rfl
    · cases hstep
  | hangUp i =>
    cases hstep
    exact h.setSession _ hcopies honce (h.alone.setHand i _ fun hlive => by cases hlive)
      (fun raw hraw => ⟨raw, hraw, rfl⟩) (fun raw hraw _ => ⟨raw, hraw, rfl⟩)
      fun hlive => by cases hlive
  | drain i =>
    simp only [Seam.step] at hstep
    split at hstep
    · rename_i hidle
      cases hstep
      exact quiet i _ hidle hcopies honce (h.alone.setHand i _ id) rfl rfl
    · cases hstep
  | session i arrives => exact h.sessionStep hgiven hstep
  | tick =>
    simp only [Seam.step] at hstep
    split at hstep
    · rename_i hd
      split at hstep
      · cases hstep
        have hwins := h.wins
        rw [hd] at hwins
        exact { h with
          copies := hcopies
          once := honce
          removes := fun _ hentry => by cases hentry
          settles := .nil
          wins := hwins }
      · cases hstep
    · cases hstep
  | dispatch => exact h.dispatchStep hgiven hfits hstep
  | queue | vanish | crash => exact honly.elim

/-- Nothing is written yet. -/
lemma LastWins.init : LastWins Seam.init where
  copies := .init
  once _ := .init
  sets _ hcall := nomatch hcall
  distinct := nodup_nil
  alone _ _ hi := nomatch hi
  received _ hentry := nomatch hentry
  removes _ hentry := nomatch hentry
  settles := .nil
  wins _ _ hlast := nomatch hlast.1

end Step

/-! ## Runs of one session -/

def SeamMove.mover : SeamMove → Option ℕ
  | .connect i | .hangUp i | .vanish i | .drain i | .session i _ => some i
  | _ => none

section OneSession

variable {s s' : Seam}

lemma Seam.session_step {move : SeamMove} (hstep : s.step move = some s') {j : ℕ}
    (hj : j ∉ move.mover) : s'.session j = s.session j := by
  have hne {i : ℕ} (hmover : move.mover = some i) : j ≠ i := fun heq => hj (heq ▸ hmover)
  cases move with
  | clock | paramWrite =>
    simp only [Seam.step] at hstep
    split at hstep
    · cases hstep
      rfl
    · cases hstep
  | queue | wake | answer | crash =>
    cases hstep
    rfl
  | api =>
    simp only [Seam.step, Seam.apiStep] at hstep
    split at hstep
    · cases hstep
    · cases hstep
      rfl
    · cases hstep
      rfl
    · cases hstep
      rfl
  | connect i | drain i =>
    simp only [Seam.step] at hstep
    split at hstep
    · cases hstep
      exact update_of_ne (hne rfl) _ _
    · cases hstep
  | hangUp i | vanish i =>
    cases hstep
    exact update_of_ne (hne rfl) _ _
  | session i arrives =>
    simp only [Seam.step, Seam.sessionStep] at hstep
    split at hstep
    · cases hstep
    · cases hstep
      exact update_of_ne (hne rfl) _ _
    · split at hstep
      · split at hstep <;> cases hstep <;> exact update_of_ne (hne rfl) _ _
      · cases hstep
        exact update_of_ne (hne rfl) _ _
    · split at hstep <;> cases hstep <;> exact update_of_ne (hne rfl) _ _
    · cases hstep
      exact update_of_ne (hne rfl) _ _
    · cases hstep
      exact update_of_ne (hne rfl) _ _
  | tick =>
    simp only [Seam.step] at hstep
    split at hstep
    · split at hstep
      · cases hstep
        rfl
      · cases hstep
    · cases hstep
  | dispatch =>
    simp only [Seam.step, Seam.dispatchStep] at hstep
    split at hstep
    · cases hstep
    · cases hstep
      rfl
    · cases hstep
      rfl
    · cases hstep
      rfl
    · rename_i past op ops settled hd
      cases hstep
      exact congrFun (s.tickOp_session op) j
    · cases hstep
      rfl
    · split at hstep <;> cases hstep <;> rfl
    · cases hstep
      rfl

def Seam.OneSession (s : Seam) : Prop := ∀ j, j ≠ 0 → s.session j = ⟨false, .idle⟩

lemma Seam.OneSession.init : Seam.init.OneSession := fun _ _ => rfl

lemma Seam.OneSession.run (h : s.OneSession) {moves : List SeamMove}
    (hmoves : ∀ move ∈ moves, ∀ i ∈ move.mover, i = 0) :
    RunFits Seam.step OneConnection s moves ∧
      ∀ s', run Seam.step s moves = some s' → s'.OneSession := by
  induction moves generalizing s with
  | nil => exact ⟨trivial, fun s' hrun => some.inj hrun ▸ h⟩
  | cons move moves ih =>
    have hmover := hmoves move mem_cons_self
    have hnext (q : Seam) (hq : s.step move = some q) : q.OneSession := fun j hj =>
      (Seam.session_step hq fun hmine => hj (hmover j hmine)).trans (h j hj)
    have hrest (q : Seam) (hq : s.step move = some q) :=
      ih (hnext q hq) fun move' hmove' => hmoves move' (mem_cons_of_mem _ hmove')
    refine ⟨⟨?_, fun q hq => (hrest q hq).1⟩, fun s' hrun => ?_⟩
    · cases move with
      | connect i =>
        obtain rfl := hmover i rfl
        exact fun j hj => by rw [h j hj]
      | _ => trivial
    · obtain ⟨q, hq, hrun⟩ := run_cons_eq_some.1 hrun
      exact (hrest q hq).2 s' hrun

end OneSession

def sampleCall (id : String) (value : ℤ) : ParamCall :=
  ⟨[("1".toList, value)], id, id ++ "-verify", 86400000⟩

/-- The call, its steps, and a drain of its two commands. -/
def writeAndDrain (id : String) (value : ℤ) (arrives : Bool) : List SeamMove :=
  [SeamMove.paramWrite (sampleCall id value), .api, .api, .drain 0] ++
    replicate 9 (SeamMove.session 0 arrives)

def arrivedWrite : List SeamMove :=
  .connect 0 :: writeAndDrain "a" 1 true ++ [.answer "a" "ok" false, .answer "a-verify" "ok" false, .tick] ++
    replicate 12 .dispatch

/-- A write that is lost with the connection, a newer one on the next connection, and a tick that
queues the lost one again before the newer one is drained. -/
def requeuedBehind : List SeamMove :=
  SeamMove.connect 0 :: writeAndDrain "a" 1 false ++
    [SeamMove.hangUp 0, .connect 0, .paramWrite (sampleCall "b" 2), .api, .api, .clock 30000,
      .tick] ++
    replicate 12 SeamMove.dispatch ++
    SeamMove.drain 0 :: replicate 17 (SeamMove.session 0 true) ++
    [SeamMove.answer "b" "ok" false, .answer "b-verify" "ok" false, .answer "a" "ok" false,
      .answer "a-verify" "ok" false, .tick] ++ replicate 16 SeamMove.dispatch

end Orbetra.Commands
