import Orbetra.Commands.Copies

/-!
# Commands and responses stay paired

One session, a device that answers each command in order and within the timeout, and ticks that run to
their end, in any order of their steps.  What is recorded in flight and what the device has
answered are two histories; `cmd:inflight` and `cmd:resp` are what is left of them from one point on
(`Phase`), and a tick moves that point.

This fails where something slips in between two reads of a tick: a command that is recorded and
answered after the tick has read `cmd:inflight` is dropped unread (`response_discarded`).
`commands_paired` says that nothing else goes wrong.
-/

namespace Orbetra.Commands

open List Machine Function Nat

def Hand.toRecord : Hand → Option Inflight
  | .checked _ entry => some entry
  | _ => none

/-- The session has taken up a command, and has not written it. -/
def Hand.holds (hand : Hand) : Bool := hand.unrecorded.isSome || hand.unwritten.isSome

/-- The session of the device. -/
def Seam.hand (s : Seam) : Hand := (s.session 0).hand

/-- The answer to the entry can still arrive within the timeout. -/
def Inflight.Awaited (t : Ms) (entry : Inflight) : Prop := t < entry.sentAtMs + timeoutMs

instance (t : Ms) (entry : Inflight) : Decidable (entry.Awaited t) :=
  inferInstanceAs (Decidable (t < entry.sentAtMs + timeoutMs))

/-- One connection at a time, which is not lost under a command that has been taken up; a device that
answers every command it receives, once, in order and within the timeout; and no crash. -/
def PromptDevice (s : Seam) : SeamMove → Prop
  | .clock t => (∀ entry ∈ s.log.recorded.drop s.log.answered.length, entry.Awaited t) ∧
      ∀ entry ∈ s.hand.toRecord, entry.Awaited t
  | .queue entry => QueuesOnce s (.queue entry)
  | .connect i => i = 0
  | .drain i => i = 0
  | .hangUp i => i = 0 ∧ s.hand.holds = false
  | .session i arrives => i = 0 ∧ arrives
  | .answer giver _ _ => (s.log.received.map (·.id))[s.log.answered.length]? = some giver
  | .wake | .tick | .dispatch => True
  | .paramWrite _ | .api | .vanish _ | .crash => False

/-- Nothing slips in: a tick finds no more responses than the commands that it has read, no response
waits when it takes the device off `cmd:active`, and fewer than 1000 responses wait for one. -/
def NothingSlipsIn (s : Seam) : SeamMove → Prop
  | .answer _ _ _ => s.resp.length < 1000
  | .dispatch =>
    match s.dispatcher with
    | .readInflight _ inflight => s.resp.length ≤ inflight.length
    | .leaving => s.resp = []
    | _ => True
  | _ => True

instance (s : Seam) : (move : SeamMove) → Decidable (PromptDevice s move)
  | .clock t => inferInstanceAs (Decidable (
      (∀ entry ∈ s.log.recorded.drop s.log.answered.length, entry.Awaited t) ∧
        ∀ entry ∈ s.hand.toRecord, entry.Awaited t))
  | .queue entry => inferInstanceAs (Decidable (QueuesOnce s (.queue entry)))
  | .connect i => inferInstanceAs (Decidable (i = 0))
  | .drain i => inferInstanceAs (Decidable (i = 0))
  | .hangUp i => inferInstanceAs (Decidable (i = 0 ∧ s.hand.holds = false))
  | .session i arrives => inferInstanceAs (Decidable (i = 0 ∧ arrives))
  | .answer giver _ _ =>
    inferInstanceAs (Decidable ((s.log.received.map (·.id))[s.log.answered.length]? = some giver))
  | .wake | .tick | .dispatch => .isTrue trivial
  | .paramWrite _ | .api | .vanish _ | .crash => .isFalse id

instance (s : Seam) : (move : SeamMove) → Decidable (NothingSlipsIn s move)
  | .answer _ _ _ => inferInstanceAs (Decidable (s.resp.length < 1000))
  | .dispatch =>
    match h : s.dispatcher with
    | .readInflight _ inflight =>
      decidable_of_iff (s.resp.length ≤ inflight.length) (by simp [NothingSlipsIn, h])
    | .leaving => decidable_of_iff (s.resp = []) (by simp [NothingSlipsIn, h])
    | .idle | .started _ | .readResp _ _ _ | .running _ _ _ | .counted _ _ =>
      .isTrue (by simp [NothingSlipsIn, h])
  | .clock _ | .queue _ | .wake | .paramWrite _ | .api | .connect _ | .hangUp _ | .vanish _
  | .drain _ | .session _ _ | .tick | .crash => .isTrue trivial

/-! ## The histories -/

structure History (now : Ms) (pending : List PendingEntry) (hand : Hand)
    (recorded received written : List Inflight) (answered : List CmdResponse) : Prop where
  recordedEq : recorded = received ++ hand.unwritten.toList
  writtenEq : written = received
  ids : (pending.map (·.id) ++ hand.unrecorded.toList.map (·.id) ++ recorded.map (·.id)).Nodup
  answers : answered.length ≤ received.length
  givers : answered.map (·.giver) <+: recorded.map (·.id)
  window : ∀ entry ∈ recorded.drop answered.length, entry.Awaited now
  windowHand : ∀ entry ∈ hand.toRecord, entry.Awaited now

namespace History

variable {now : Ms} {pending pending' : List PendingEntry} {hand : Hand}
  {recorded received written : List Inflight} {answered : List CmdResponse} {rounds : ℕ}
  {raw : PendingEntry} {entry : Inflight}

/-- Some of what is queued goes. -/
lemma shrink (h : History now pending hand recorded received written answered)
    (hpending : pending'.Sublist pending) :
    History now pending' hand recorded received written answered :=
  { h with
    ids := h.ids.sublist (((hpending.map _).append (Sublist.refl _)).append (Sublist.refl _)) }

lemma emptied (h : History now pending hand recorded received written answered) {new : Hand}
    (hhand : hand.unwritten = none) (hrecord : new.toRecord = none)
    (hunrecorded : new.unrecorded = none) (hunwritten : new.unwritten = none) :
    History now pending new recorded received written answered := by
  refine { h with
    recordedEq := by
      rw [hunwritten, ← hhand]
      exact h.recordedEq
    ids := ?_
    windowHand := by simp [hrecord] }
  rw [hunrecorded]
  exact h.ids.sublist (((Sublist.refl _).append (nil_sublist _)).append (Sublist.refl _))

/-- The session takes up the head of `cmd:pending`. -/
lemma popped (h : History now (raw :: pending) (.loop (rounds + 1)) recorded received written
    answered) : History now pending (.popped rounds raw) recorded received written answered := by
  refine { h with
    ids := ?_
    windowHand := fun _ hentry => nomatch hentry }
  have hids := h.ids
  have hperm : ((raw :: pending).map (·.id) ++ (Hand.loop (rounds + 1)).unrecorded.toList.map
      (·.id) ++ recorded.map (·.id)).Perm (pending.map (·.id) ++
        (Hand.popped rounds raw).unrecorded.toList.map (·.id) ++ recorded.map (·.id)) := by
    simp only [Hand.unrecorded, Option.toList_none, Option.toList_some, map_nil, map_cons,
      append_nil]
    exact (perm_append_singleton _ _).symm.append_right _
  exact hperm.nodup_iff.1 hids

lemma checked (h : History now pending (.popped rounds raw) recorded received written answered) :
    History now pending (.checked rounds (raw.sent now)) recorded received written answered := by
  refine { h with windowHand := fun entry hentry => ?_ }
  cases hentry
  exact lt_add_of_pos_right now (by decide : (0 : Ms) < timeoutMs)

lemma recordedBy
    (h : History now pending (.checked rounds entry) recorded received written answered) :
    History now pending (.recorded rounds entry) (recorded ++ [entry]) received written
      answered := by
  have hreceived : recorded = received := h.recordedEq.trans (append_nil _)
  refine { h with
    recordedEq := congrArg (· ++ [entry]) hreceived
    ids := ?_
    givers := ?_
    window := fun other hother => ?_
    windowHand := fun _ hother => nomatch hother }
  · have hids := h.ids
    simp only [Hand.unrecorded, Option.toList_none, Option.toList_some, map_nil, map_cons,
      append_nil, map_append, append_assoc] at hids ⊢
    exact ((perm_append_comm).append_left _).nodup_iff.1 hids
  · rw [map_append]
    exact h.givers.trans (prefix_append _ _)
  · rw [drop_append_of_le_length (hreceived ▸ h.answers)] at hother
    rcases mem_append.1 hother with hother | hother
    · exact h.window other hother
    · obtain rfl := mem_singleton.1 hother
      exact h.windowHand _ rfl

lemma wrote
    (h : History now pending (.recorded rounds entry) recorded received written answered) :
    History now pending (.loop rounds) recorded (received ++ [entry]) (written ++ [entry])
      answered :=
  { h with
    recordedEq := h.recordedEq.trans (append_nil _).symm
    writtenEq := congrArg (· ++ [entry]) h.writtenEq
    answers := h.answers.trans (by simp)
    windowHand := fun _ hentry => nomatch hentry }

/-- Time goes on. -/
lemma clock (h : History now pending hand recorded received written answered) {t : Ms}
    (hwindow : ∀ entry ∈ recorded.drop answered.length, entry.Awaited t)
    (hhand : ∀ entry ∈ hand.toRecord, entry.Awaited t) :
    History t pending hand recorded received written answered :=
  { h with window := hwindow, windowHand := hhand }

lemma queued (h : History now pending hand recorded received written answered)
    (hnew : raw.id ∉ pending.map (·.id) ++ hand.unrecorded.toList.map (·.id) ++
      recorded.map (·.id)) :
    History now (pending ++ [raw]) hand recorded received written answered := by
  refine { h with ids := ?_ }
  have hperm : ((pending ++ [raw]).map (·.id) ++ hand.unrecorded.toList.map (·.id) ++
      recorded.map (·.id)).Perm (raw.id :: (pending.map (·.id) ++
        hand.unrecorded.toList.map (·.id) ++ recorded.map (·.id))) := by
    simp only [map_append, map_cons, map_nil, append_assoc]
    exact perm_middle
  exact hperm.nodup_iff.2 (nodup_cons.2 ⟨hnew, h.ids⟩)

lemma answeredBy (h : History now pending hand recorded received written answered)
    {response : CmdResponse}
    (hnext : (received.map (·.id))[answered.length]? = some response.giver) :
    History now pending hand recorded received written (answered ++ [response]) := by
  have hlt : answered.length < received.length := by
    simpa using (List.getElem?_eq_some_iff.1 hnext).1
  refine { h with
    answers := by simpa using succ_le_of_lt hlt
    givers := ?_
    window := fun entry hentry => h.window entry ?_ }
  · have hnext' : (recorded.map (·.id))[answered.length]? = some response.giver := by
      rw [h.recordedEq, map_append, getElem?_append_left (by simpa using hlt)]
      exact hnext
    obtain ⟨rest, hrest⟩ := h.givers
    rw [← hrest, getElem?_append_right (by simp)] at hnext'
    cases rest with
    | nil => simp at hnext'
    | cons first rest =>
      have hfirst : first = response.giver := by simpa using hnext'
      exact ⟨rest, by simp [← hrest, hfirst]⟩
  · rw [length_append, ← drop_drop] at hentry
    exact mem_of_mem_drop hentry

lemma nodup_recorded (h : History now pending hand recorded received written answered) :
    (recorded.map (·.id)).Nodup := (nodup_append.1 h.ids).2.1

lemma length_answered_le (h : History now pending hand recorded received written answered) :
    answered.length ≤ recorded.length := by
  rw [h.recordedEq, length_append]
  exact le_add_right_of_le h.answers

end History

/-! ## What a tick moves -/

namespace Seam

variable (s : Seam)

def History : Prop :=
  Commands.History s.now s.pending (s.session 0).hand s.log.recorded s.log.received s.log.written
    s.log.answered

/-- The answered commands, with their answers. -/
def pairs : List (Inflight × CmdResponse) := s.log.recorded.zip s.log.answered

/-- The command was queued, and will never be recorded. -/
def Lapsed (id : String) : Prop :=
  id ∉ s.log.recorded.map (·.id) ∧ id ∉ (s.session 0).hand.toRecord.toList.map (·.id) ∧
    ∃ q ∈ s.log.queued, q.id = id ∧ q.past s.now

end Seam

def CmdResponse.outcome (response : CmdResponse) : CommandRow :=
  if response.nack then ⟨.failed, some "device rejected (nack)"⟩ else ⟨.acked, some response.text⟩

/-- The command is marked with its answer. -/
def Marked (s : Seam) (id : String) (response : CmdResponse) : Prop :=
  (response, id) ∈ s.log.credits ∧ s.rows id = response.outcome

def markOp (pair : Inflight × CmdResponse) : TickOp :=
  if pair.2.nack then .updateFailed (Failure.ofNack pair) else .updateAcked pair.1.id pair.2

/-- The last command of a tick. -/
def trimOps (count : ℕ) : List TickOp := if count = 0 then [] else [.ltrimResp count]

/-- A command of a plan marks an answered command, gives up a lapsed one, or touches no row that
counts; and it re-queues nothing. -/
def PlanOp (s : Seam) (answered : List (Inflight × CmdResponse)) : TickOp → Prop
  | .updateAcked id response => ∃ pair ∈ answered, .updateAcked id response = markOp pair
  | .updateFailed failure => ∃ pair ∈ answered, .updateFailed failure = markOp pair
  | .updateExpired id => s.Lapsed id
  | .updateQueued _ | .rpushPending _ => False
  | _ => True

/-- The lists are what the histories have from `k` on. -/
def Rest (s : Seam) (k : ℕ) : Prop :=
  s.inflight = s.log.recorded.drop k ∧ s.resp = s.log.answered.drop k

/-- The answers that the current tick deals with are those from `k` to `k'`. -/
def Phase (s : Seam) (k k' : ℕ) : Dispatcher → Prop
  | .started nowMs => k' = k ∧ Rest s k ∧ nowMs ≤ s.now
  | .readInflight nowMs inflight => k' = k ∧ Rest s k ∧ nowMs ≤ s.now ∧ inflight <+: s.inflight
  | .readResp nowMs inflight responses =>
    k' = k + responses.length ∧ Rest s k ∧ nowMs ≤ s.now ∧ inflight <+: s.inflight ∧
      responses <+: s.resp ∧ responses.length ≤ inflight.length ∧
        (∀ entry ∈ inflight.drop responses.length, entry.waits nowMs) ∧
          ∀ pair ∈ (s.pairs.take k').drop k, (s.rows pair.1.id).open
  | .running _ ops _ =>
    s.inflight = lrems ops ++ s.log.recorded.drop k' ∧
      (ops = [] ∧ s.resp = s.log.answered.drop k' ∨
        ∃ rest, ops = rest ++ trimOps (k' - k) ∧ s.resp = s.log.answered.drop k ∧
          ∀ count, .ltrimResp count ∉ rest) ∧
      (∀ op ∈ ops, PlanOp s ((s.pairs.take k').drop k) op) ∧
      ∀ pair ∈ (s.pairs.take k').drop k,
        Marked s pair.1.id pair.2 ∨ markOp pair ∈ ops ∧ (s.rows pair.1.id).open
  | _ => k' = k ∧ Rest s k

/-- The tick has not read `cmd:resp` yet. -/
def Dispatcher.early : Dispatcher → Bool
  | .started _ | .readInflight _ _ => true
  | _ => false

/-- The first `k` answers are marked, and the current tick deals with those up to `k'`.  If it has
started after `a` others, these include the answers `old`. -/
structure Paired (a : ℕ) (old : List CmdResponse) (k k' : ℕ) (s : Seam) : Prop where
  copies : s.Copies
  history : s.History
  alive : (s.session 0).hand.holds → (s.session 0).alive
  le : k ≤ k'
  le_answered : k' ≤ s.log.answered.length
  total : old <+: s.log.answered
  marked : ∀ pair ∈ s.pairs.take k, Marked s pair.1.id pair.2
  rows : ∀ id, (s.rows id).open ∨ (∃ pair ∈ s.pairs.take k', pair.1.id = id) ∨ s.Lapsed id
  active : s.resp ≠ [] → s.active
  ticks : s.log.started = s.log.ended + if s.dispatcher = .idle then 0 else 1
  covers : a < s.log.started →
    old.length ≤ k ∨ s.log.ended ≤ a ∧ (s.dispatcher.early ∨ old.length ≤ k')
  phase : Phase s k k' s.dispatcher

section Extend

variable {a k k' : ℕ} {old : List CmdResponse} {s s' : Seam}

lemma Paired.le_recorded (h : Paired a old k k' s) : k' ≤ s.log.recorded.length :=
  h.le_answered.trans h.history.length_answered_le

/-- Histories grow at the end, and the pairs of before stay. -/
lemma take_pairs {recorded recorded' : List Inflight} {answered answered' : List CmdResponse}
    (hk : k ≤ answered.length) (hk' : k ≤ recorded.length) :
    ((recorded ++ recorded').zip (answered ++ answered')).take k =
      (recorded.zip answered).take k := by
  simp only [zip, take_zipWith]
  rw [take_append_of_le_length hk, take_append_of_le_length hk']

/-- The histories and the lists grow at the end. -/
structure Extends (s s' : Seam) (sent : List Inflight) (heard : List CmdResponse) : Prop where
  now : s.now ≤ s'.now
  recorded : s'.log.recorded = s.log.recorded ++ sent
  answered : s'.log.answered = s.log.answered ++ heard
  inflight : s'.inflight = s.inflight ++ sent
  resp : s'.resp = s.resp ++ heard
  rows : s'.rows = s.rows
  credits : s'.log.credits = s.log.credits
  dispatcher : s'.dispatcher = s.dispatcher
  started : s'.log.started = s.log.started
  ended : s'.log.ended = s.log.ended
  lapsed : ∀ id, s.Lapsed id → s'.Lapsed id
  active : (s.active → s'.active) ∧ (heard ≠ [] → s'.active)

variable {sent : List Inflight} {heard : List CmdResponse}

lemma Extends.take_pairs (h : Extends s s' sent heard) {m : ℕ}
    (hm : m ≤ s.log.answered.length) (hm' : m ≤ s.log.recorded.length) :
    s'.pairs.take m = s.pairs.take m := by
  unfold Seam.pairs
  rw [h.recorded, h.answered]
  exact Commands.take_pairs hm hm'

lemma Extends.rest (h : Extends s s' sent heard) {m : ℕ}
    (hm : m ≤ s.log.answered.length) (hm' : m ≤ s.log.recorded.length) (hrest : Rest s m) :
    Rest s' m := by
  constructor
  · rw [h.inflight, h.recorded, drop_append_of_le_length hm', hrest.1]
  · rw [h.resp, h.answered, drop_append_of_le_length hm, hrest.2]

lemma Extends.marked (h : Extends s s' sent heard) {id : String} {response : CmdResponse}
    (hmarked : Marked s id response) : Marked s' id response := by
  unfold Marked
  rw [h.credits, h.rows]
  exact hmarked

lemma Extends.planOp (h : Extends s s' sent heard) {op : TickOp}
    {marking : List (Inflight × CmdResponse)} (hop : PlanOp s marking op) :
    PlanOp s' marking op := by
  cases op with
  | updateExpired id => exact h.lapsed id hop
  | _ => exact hop

/-- **What is recorded and answered meanwhile** does not concern the tick. -/
lemma Paired.extend (h : Paired a old k k' s) (sent : List Inflight) (heard : List CmdResponse)
    (hext : Extends s s' sent heard) (hcopies : s'.Copies) (hhistory : s'.History)
    (halive : (s'.session 0).hand.holds → (s'.session 0).alive) : Paired a old k k' s' := by
  have hk := h.le.trans h.le_answered
  have hk' := h.le.trans h.le_recorded
  have htake := hext.take_pairs hk hk'
  have htake' := hext.take_pairs h.le_answered h.le_recorded
  have hrest := hext.rest hk hk'
  refine ⟨hcopies, hhistory, halive, h.le, ?_, ?_, ?_, fun id => ?_, fun hne => ?_, ?_, ?_, ?_⟩
  · rw [hext.answered, length_append]
    exact le_add_right_of_le h.le_answered
  · rw [hext.answered]
    exact h.total.trans (prefix_append _ _)
  · rw [htake]
    exact fun pair hpair => hext.marked (h.marked pair hpair)
  · rw [hext.rows, htake']
    exact (h.rows id).imp_right (Or.imp_right (hext.lapsed id))
  · by_cases hnew : heard = []
    · rw [hext.resp, hnew, append_nil] at hne
      exact hext.active.1 (h.active hne)
    · exact hext.active.2 hnew
  · rw [hext.started, hext.ended, hext.dispatcher]
    exact h.ticks
  · rw [hext.started, hext.ended, hext.dispatcher]
    exact h.covers
  · have hphase := h.phase
    rw [hext.dispatcher]
    cases hd : s.dispatcher with
    | started nowMs =>
      rw [hd] at hphase
      exact ⟨hphase.1, hrest hphase.2.1, hphase.2.2.trans hext.now⟩
    | readInflight nowMs inflight =>
      rw [hd] at hphase
      obtain ⟨heq, hlists, hnow, hinflight⟩ := hphase
      refine ⟨heq, hrest hlists, hnow.trans hext.now, ?_⟩
      rw [hext.inflight]
      exact hinflight.trans (prefix_append _ _)
    | readResp nowMs inflight responses =>
      rw [hd] at hphase
      obtain ⟨heq, hlists, hnow, hinflight, hresp, hle, hwaits, hopen⟩ := hphase
      refine ⟨heq, hrest hlists, hnow.trans hext.now, ?_, ?_, hle, hwaits, ?_⟩
      · rw [hext.inflight]
        exact hinflight.trans (prefix_append _ _)
      · rw [hext.resp]
        exact hresp.trans (prefix_append _ _)
      · rw [htake', hext.rows]
        exact hopen
    | running past ops settled =>
      rw [hd] at hphase
      obtain ⟨hinflight, hresp, hops, hpairs⟩ := hphase
      refine ⟨?_, ?_, ?_, ?_⟩
      · rw [hext.inflight, hext.recorded, drop_append_of_le_length h.le_recorded, hinflight,
          append_assoc]
      · rw [hext.resp, hext.answered, drop_append_of_le_length hk,
          drop_append_of_le_length h.le_answered]
        rcases hresp with ⟨hnil, hresp⟩ | ⟨rest, heq, hresp, htrim⟩
        · exact .inl ⟨hnil, by rw [hresp]⟩
        · exact .inr ⟨rest, heq, by rw [hresp], htrim⟩
      · rw [htake']
        exact fun op hop => hext.planOp (hops op hop)
      · rw [htake', hext.rows]
        exact fun pair hpair => (hpairs pair hpair).imp_left hext.marked
    | idle | counted | leaving =>
      rw [hd] at hphase
      exact ⟨hphase.1, hrest hphase.2⟩

end Extend

section Session

variable {a k k' : ℕ} {old : List CmdResponse} {s s' : Seam}

lemma extends_aside (s : Seam) (pending : List PendingEntry) (session : ℕ → Session)
    (received written : List Inflight)
    (hrecord : ∀ entry ∈ (session 0).hand.toRecord, ∀ id, s.Lapsed id → id ≠ entry.id) :
    Extends s { s with
      pending := pending
      session := session
      log := { s.log with received := received, written := written } } [] [] where
  now := le_rfl
  recorded := (append_nil _).symm
  answered := (append_nil _).symm
  inflight := (append_nil _).symm
  resp := (append_nil _).symm
  rows := rfl
  credits := rfl
  dispatcher := rfl
  started := rfl
  ended := rfl
  lapsed id hlapsed := by
    refine ⟨hlapsed.1, fun hid => ?_, hlapsed.2.2⟩
    obtain ⟨entry, hentry, rfl⟩ := mem_map.1 hid
    exact hrecord entry (Option.mem_toList.1 hentry) _ hlapsed rfl
  active := ⟨id, by simp⟩

lemma Paired.not_lapsed (h : Paired a old k k' s) {rounds : ℕ} {raw : PendingEntry}
    (hhand : (s.session 0).hand = .popped rounds raw) (hnow : ¬ raw.past s.now) {id : String}
    (hlapsed : s.Lapsed id) : id ≠ raw.id := by
  rintro rfl
  obtain ⟨-, -, q, hq, hid, hpast⟩ := hlapsed
  obtain ⟨q', hq', hid', -, hexpires⟩ := h.copies.unrecorded 0 raw (by rw [hhand]; rfl)
  obtain rfl : q = q' := inj_on_of_nodup_map h.copies.ids hq hq' (hid.trans hid')
  unfold PendingEntry.past at hnow hpast
  exact hnow (hexpires ▸ hpast)

/-- **A step of a drain** is one of what goes on meanwhile. -/
lemma Paired.sessionStep (h : Paired a old k k' s) (hstep : s.sessionStep 0 true = some s') :
    Paired a old k k' s' := by
  have hcopies := h.copies.sessionStep hstep
  have hhistory := h.history
  have halive := h.alive
  unfold Seam.History at hhistory
  have quiet (new : Session) (hhand : (s.session 0).hand.unwritten = none)
      (hrecord : new.hand.toRecord = none) (hunrecorded : new.hand.unrecorded = none)
      (hunwritten : new.hand.unwritten = none)
      (hcopies : Seam.Copies { s with session := update s.session 0 new }) :
      Paired a old k k' { s with session := update s.session 0 new } := by
    refine h.extend [] [] (extends_aside s s.pending _ s.log.received s.log.written ?_) hcopies ?_ ?_
    · simp [hrecord]
    · exact hhistory.emptied hhand hrecord hunrecorded hunwritten
    · simp [Hand.holds, hunrecorded, hunwritten]
  unfold Seam.sessionStep at hstep
  split at hstep
  · cases hstep
  · rename_i hhand
    cases hstep
    exact quiet _ (by rw [hhand]; rfl) rfl rfl rfl hcopies
  · rename_i rounds hhand
    split at hstep
    · rename_i hlive
      split at hstep
      · cases hstep
        exact quiet _ (by rw [hhand]; rfl) rfl rfl rfl hcopies
      · rename_i raw pending hpending
        cases hstep
        refine h.extend [] [] (extends_aside s pending _ s.log.received s.log.written ?_) hcopies ?_ ?_
        · simp [Hand.toRecord]
        · rw [hhand, hpending] at hhistory
          exact hhistory.popped
        · exact fun _ => hlive
    · cases hstep
      exact quiet _ (by rw [hhand]; rfl) rfl rfl rfl hcopies
  · rename_i rounds raw hhand
    have hlive := halive (by rw [hhand]; rfl)
    split at hstep
    · cases hstep
      exact quiet _ (by rw [hhand]; rfl) rfl rfl rfl hcopies
    · rename_i hkept
      cases hstep
      refine h.extend [] [] (extends_aside s s.pending _ s.log.received s.log.written ?_) hcopies ?_ ?_
      · intro entry hentry id hlapsed
        rw [update_self] at hentry
        cases hentry
        exact h.not_lapsed hhand (fun hpast => hkept (.inl hpast)) hlapsed
      · rw [hhand] at hhistory
        exact hhistory.checked
      · exact fun _ => hlive
  · rename_i rounds entry hhand
    have hlive := halive (by rw [hhand]; rfl)
    cases hstep
    refine h.extend [entry] [] ?_ hcopies ?_ ?_
    · refine ⟨le_rfl, rfl, (append_nil _).symm, rfl, (append_nil _).symm, rfl, rfl, rfl,
        rfl, rfl, fun id hlapsed => ?_, fun _ => rfl, fun _ => rfl⟩
      obtain ⟨hnew, hhold, hqueued⟩ := hlapsed
      refine ⟨fun hid => ?_, by simp [Seam.setHand, Hand.toRecord], hqueued⟩
      rw [Seam.setHand, Seam.record, map_append] at hid
      rcases mem_append.1 hid with hid | hid
      · exact hnew hid
      · rw [hhand] at hhold
        exact hhold hid
    · rw [hhand] at hhistory
      exact hhistory.recordedBy
    · exact fun _ => hlive
  · rename_i rounds entry hhand
    have hlive := halive (by rw [hhand]; rfl)
    cases hstep
    rw [hlive, Bool.and_true] at hcopies ⊢
    refine h.extend [] [] (extends_aside s s.pending _ (s.log.received ++ [entry])
      (s.log.written ++ [entry]) ?_) hcopies ?_ ?_
    · simp [Hand.toRecord]
    · rw [hhand] at hhistory
      exact hhistory.wrote
    · simp [Seam.setHand, Hand.holds, Hand.unrecorded, Hand.unwritten]

end Session

/-! ## A tick -/

/-- The command of a tick may close the row. -/
def TickOp.closes (id : String) : TickOp → Prop
  | .updateExpired id' => id' = id
  | .updateAcked id' _ => id' = id
  | .updateFailed failure => failure.id = id
  | _ => False

section TickOp

variable {s : Seam} {op : TickOp} {id : String}

lemma rows_of_closed (h : (s.rows id).open = false) : (s.tickOp op).rows id = s.rows id := by
  have hopen (id' : String) (f : CommandRow → CommandRow) :
      (s.updateRow id' (Seam.ifOpen f)).rows id = s.rows id := by
    rw [Seam.updateRow_rows]
    unfold Seam.ifOpen
    simp [h]
  cases op with
  | updateExpired | updateAcked | updateQueued => exact hopen _ _
  | updateFailed failure =>
    unfold Seam.tickOp
    dsimp only
    split <;> exact hopen _ _
  | updateSent ids =>
    refine if_neg fun hqueued => ?_
    simp [CommandRow.open, hqueued.2] at h
  | _ => rfl

lemma open_tickOp (h : (s.rows id).open) (hop : ¬ op.closes id) : ((s.tickOp op).rows id).open := by
  have hother {id' : String} (f : CommandRow → CommandRow) (hid : id' ≠ id) :
      ((s.updateRow id' f).rows id).open := by
    rw [Seam.updateRow_rows, if_neg hid.symm]
    exact h
  cases op with
  | updateExpired | updateAcked => exact hother _ hop
  | updateFailed failure =>
    unfold Seam.tickOp
    dsimp only
    split <;> exact hother _ hop
  | updateQueued id' =>
    show ((s.updateRow id' _).rows id).open
    rw [Seam.updateRow_rows]
    unfold Seam.ifOpen
    split_ifs
    · rfl
    · exact h
  | updateSent ids =>
    show (if id ∈ ids ∧ (s.rows id).status = .queued then { s.rows id with status := .sent }
      else s.rows id).open
    split_ifs
    · rfl
    · exact h
  | _ => exact h

lemma credits_subset_tickOp : s.log.credits ⊆ (s.tickOp op).log.credits := by
  cases op with
  | updateAcked => exact subset_append_left _ _
  | updateFailed failure =>
    unfold Seam.tickOp
    dsimp only
    split
    · exact subset_append_left _ _
    · exact Subset.refl _
  | _ => exact Subset.refl _

/-- An answer closes the row of its command. -/
lemma outcome_open (response : CmdResponse) : response.outcome.open = false := by
  unfold CmdResponse.outcome
  split <;> rfl

lemma Marked.tickOp {response : CmdResponse} (h : Marked s id response) :
    Marked (s.tickOp op) id response :=
  ⟨credits_subset_tickOp h.1, (rows_of_closed (h.2 ▸ outcome_open response)).trans h.2⟩

lemma marked_markOp {pair : Inflight × CmdResponse} (h : (s.rows pair.1.id).open) :
    Marked (s.tickOp (markOp pair)) pair.1.id pair.2 := by
  have hrow (f : CommandRow → CommandRow) :
      (s.updateRow pair.1.id (Seam.ifOpen f)).rows pair.1.id = f (s.rows pair.1.id) := by
    rw [Seam.updateRow_rows, if_pos rfl]
    exact if_pos h
  unfold markOp Marked CmdResponse.outcome
  split
  · exact ⟨mem_append_right _ mem_cons_self, hrow _⟩
  · exact ⟨mem_append_right _ mem_cons_self, hrow _⟩

lemma PlanOp.closes {answered : List (Inflight × CmdResponse)} (h : PlanOp s answered op)
    (hid : op.closes id) :
    (∃ pair ∈ answered, pair.1.id = id ∧ op = markOp pair) ∨ s.Lapsed id := by
  have hmark {pair : Inflight × CmdResponse} (heq : op = markOp pair) : pair.1.id = id := by
    rw [heq] at hid
    unfold markOp at hid
    split at hid <;> exact hid
  cases op with
  | updateExpired id' =>
    obtain rfl : id' = id := hid
    exact .inr h
  | updateAcked | updateFailed =>
    obtain ⟨pair, hpair, heq⟩ := h
    exact .inl ⟨pair, hpair, hmark heq, heq⟩
  | _ => exact hid.elim

end TickOp

/-- The first components of pairs are a part of the first list. -/
lemma map_fst_zip_sublist {α β : Type} (l : List α) (l' : List β) :
    ((l.zip l').map Prod.fst).Sublist l := by
  induction l generalizing l' with
  | nil => exact Sublist.refl _
  | cons x l ih =>
    cases l' with
    | nil => exact nil_sublist _
    | cons y l' => exact (ih l').cons_cons x

section Tick

variable {a k k' : ℕ} {old : List CmdResponse} {s s' : Seam}

/-- Each answered command has one answer. -/
lemma Paired.nodup_pairs (h : Paired a old k k' s) : (s.pairs.map (·.1.id)).Nodup := by
  have hsub := (map_fst_zip_sublist s.log.recorded s.log.answered).map (·.id)
  rw [map_map] at hsub
  exact h.history.nodup_recorded.sublist hsub

variable {pair' pair : Inflight × CmdResponse} {m : ℕ} {op : TickOp} {ops past : List TickOp}
  {settled : Bool}

lemma Paired.pair_eq (h : Paired a old k k' s) (hpair : pair ∈ s.pairs) (hpair' : pair' ∈ s.pairs)
    (hid : pair.1.id = pair'.1.id) :
    pair = pair' :=
  inj_on_of_nodup_map h.nodup_pairs hpair hpair' hid

/-- The answers that a tick deals with are to other commands than the marked ones. -/
lemma Paired.pair_ne (h : Paired a old k k' s) (hpair : pair ∈ s.pairs.take k)
    (hpair' : pair' ∈ (s.pairs.take m).drop k) :
    pair.1.id ≠ pair'.1.id := by
  have hnodup := h.nodup_pairs
  rw [← take_append_drop k s.pairs, map_append] at hnodup
  rw [drop_take] at hpair'
  exact (nodup_append.1 hnodup).2.2 _ (mem_map.2 ⟨pair, hpair, rfl⟩) _
    (mem_map.2 ⟨pair', mem_of_mem_take hpair', rfl⟩)

lemma Paired.not_lapsed_of_pair (hpair : pair ∈ s.pairs) : ¬ s.Lapsed pair.1.id :=
  fun hlapsed => hlapsed.1 (mem_map.2 ⟨pair.1, (of_mem_zip hpair).1, rfl⟩)

lemma mem_pairs (hpair : pair ∈ (s.pairs.take m).drop k) : pair ∈ s.pairs :=
  mem_of_mem_take (mem_of_mem_drop hpair)

lemma Paired.rows_tickOp (h : Paired a old k k' s) (hop : PlanOp s ((s.pairs.take k').drop k) op)
    (id : String) :
    ((s.tickOp op).rows id).open ∨ (∃ pair ∈ s.pairs.take k', pair.1.id = id) ∨ s.Lapsed id := by
  rcases h.rows id with hopen | hclosed
  · by_cases hid : op.closes id
    · rcases hop.closes hid with ⟨pair, hpair, heq, -⟩ | hlapsed
      · exact .inr (.inl ⟨pair, mem_of_mem_drop hpair, heq⟩)
      · exact .inr (.inr hlapsed)
    · exact .inl (open_tickOp hopen hid)
  · exact .inr hclosed

lemma Paired.marked_tickOp (h : Paired a old k k' s) (hop : PlanOp s ((s.pairs.take k').drop k) op)
    (hpair : pair ∈ (s.pairs.take k').drop k)
    (hmark : Marked s pair.1.id pair.2 ∨ markOp pair ∈ op :: ops ∧ (s.rows pair.1.id).open) :
    Marked (s.tickOp op) pair.1.id pair.2 ∨
      markOp pair ∈ ops ∧ ((s.tickOp op).rows pair.1.id).open := by
  rcases hmark with hmarked | ⟨hmem, hopen⟩
  · exact .inl hmarked.tickOp
  by_cases heq : op = markOp pair
  · exact .inl (heq ▸ marked_markOp hopen)
  have hlater : markOp pair ∈ ops := (mem_cons.1 hmem).resolve_left (Ne.symm heq)
  refine .inr ⟨hlater, open_tickOp hopen fun hid => ?_⟩
  rcases hop.closes hid with ⟨other, hother, hsame, hop⟩ | hlapsed
  · obtain rfl := h.pair_eq (mem_pairs hother) (mem_pairs hpair) hsame
    exact heq hop
  · exact Paired.not_lapsed_of_pair (mem_pairs hpair) hlapsed

lemma Phase.lists_tickOp (h : Phase s k k' (.running past (op :: ops) settled)) (hk : k ≤ k') :
    (s.tickOp op).inflight = lrems ops ++ s.log.recorded.drop k' ∧
      (ops = [] ∧ (s.tickOp op).resp = s.log.answered.drop k' ∨
        ∃ rest, ops = rest ++ trimOps (k' - k) ∧ (s.tickOp op).resp = s.log.answered.drop k ∧
          ∀ count, .ltrimResp count ∉ rest) := by
  obtain ⟨hinflight, hresp, -, -⟩ := h
  rw [Seam.tickOp_inflight, Seam.tickOp_resp, hinflight]
  constructor
  · cases op with
    | lremInflight raw =>
      show (raw :: lrems ops ++ s.log.recorded.drop k').erase raw = _
      rw [cons_append, erase_cons_head]
    | _ => rfl
  · rcases hresp with ⟨hnil, -⟩ | ⟨rest, heq, hresp, htrim⟩
    · cases hnil
    rw [hresp]
    cases rest with
    | nil =>
      unfold trimOps at heq
      split at heq
      · cases heq
      · cases heq
        refine .inl ⟨rfl, ?_⟩
        show (s.log.answered.drop k).drop (k' - k) = _
        rw [drop_drop, Nat.add_sub_cancel' hk]
    | cons first rest =>
      cases heq
      refine .inr ⟨rest, rfl, ?_, fun count hcount => htrim count (mem_cons_of_mem _ hcount)⟩
      cases op with
      | ltrimResp count => exact absurd mem_cons_self (htrim count)
      | _ => rfl

/-- **A command of a tick** brings each answer nearer to its mark. -/
lemma Paired.tickOp (h : Paired a old k k' s)
    (hd : s.dispatcher = .running past (op :: ops) settled) :
    Paired a old k k' ((s.tickOp op).dispatch (.running (past ++ [op]) ops settled)) := by
  have hphase := h.phase
  rw [hd] at hphase
  obtain ⟨hinflight, hresp⟩ := hphase.lists_tickOp h.le
  obtain ⟨-, -, hops, hmid⟩ := hphase
  have hop := hops op mem_cons_self
  obtain ⟨credits, hlog⟩ := s.tickOp_log op
  have hpairs : ((s.tickOp op).dispatch (.running (past ++ [op]) ops settled)).pairs = s.pairs := by
    show (s.tickOp op).log.recorded.zip (s.tickOp op).log.answered = _
    rw [hlog]
    rfl
  have hlapsed (id : String) (hid : s.Lapsed id) :
      ((s.tickOp op).dispatch (.running (past ++ [op]) ops settled)).Lapsed id := by
    show id ∉ (s.tickOp op).log.recorded.map (·.id) ∧
      id ∉ ((s.tickOp op).session 0).hand.toRecord.toList.map (·.id) ∧
        ∃ q ∈ (s.tickOp op).log.queued, q.id = id ∧ q.past (s.tickOp op).now
    rw [hlog, Seam.tickOp_session, Seam.tickOp_now]
    exact hid
  refine ⟨h.copies.tickOp hd, ?_, ?_, h.le, ?_, ?_, fun pair hpair => ?_, fun id => ?_, fun hne => ?_, ?_,
    ?_, ?_⟩
  · show Commands.History (s.tickOp op).now (s.tickOp op).pending ((s.tickOp op).session 0).hand
      (s.tickOp op).log.recorded (s.tickOp op).log.received (s.tickOp op).log.written
      (s.tickOp op).log.answered
    rw [hlog, Seam.tickOp_session, Seam.tickOp_now, Seam.tickOp_pending]
    refine h.history.shrink ?_
    cases op with
    | lremPending => exact erase_sublist
    | rpushPending => exact hop.elim
    | _ => exact Sublist.refl _
  · show ((s.tickOp op).session 0).hand.holds → ((s.tickOp op).session 0).alive
    rw [Seam.tickOp_session]
    exact h.alive
  · show k' ≤ (s.tickOp op).log.answered.length
    rw [hlog]
    exact h.le_answered
  · show old <+: (s.tickOp op).log.answered
    rw [hlog]
    exact h.total
  · exact (h.marked pair (hpairs ▸ hpair)).tickOp
  · rw [hpairs]
    exact (h.rows_tickOp hop id).imp_right (Or.imp_right (hlapsed id))
  · show (s.tickOp op).active
    rw [Seam.tickOp_active]
    refine h.active fun hnone => hne ?_
    show (s.tickOp op).resp = []
    rw [Seam.tickOp_resp, hnone]
    cases op <;> first | rfl | exact drop_nil
  · show (s.tickOp op).log.started = (s.tickOp op).log.ended + 1
    have hticks := h.ticks
    rw [hd] at hticks
    rw [hlog]
    exact hticks
  · have hcovers := h.covers
    rw [hd] at hcovers
    show a < (s.tickOp op).log.started → old.length ≤ k ∨ (s.tickOp op).log.ended ≤ a ∧ _
    rw [hlog]
    exact hcovers
  · refine ⟨?_, ?_, fun op' hop' => ?_, fun pair hpair => ?_⟩
    · show (s.tickOp op).inflight = lrems ops ++ (s.tickOp op).log.recorded.drop k'
      rw [hlog]
      exact hinflight
    · show ops = [] ∧ (s.tickOp op).resp = (s.tickOp op).log.answered.drop k' ∨
        ∃ rest, ops = rest ++ trimOps (k' - k) ∧
          (s.tickOp op).resp = (s.tickOp op).log.answered.drop k ∧ ∀ count, .ltrimResp count ∉ rest
      rw [hlog]
      exact hresp
    · rw [hpairs]
      have := hops op' (mem_cons_of_mem _ hop')
      cases op' with
      | updateExpired id => exact hlapsed id this
      | _ => exact this
    · rw [hpairs] at hpair
      exact h.marked_tickOp hop hpair (hmid pair hpair)

end Tick

section Plan

variable {inflight : List Inflight} {responses : List CmdResponse} {nowMs : Ms}
  {pending : List PendingEntry}

lemma reconcile_prompt (hwaits : ∀ entry ∈ inflight.drop responses.length, entry.waits nowMs) :
    reconcile inflight responses nowMs =
      { acked := ((inflight.zip responses).filter fun pair => !pair.2.nack).map fun pair =>
          (pair.1.id, pair.2)
        failed := ((inflight.zip responses).filter fun pair => pair.2.nack).map Failure.ofNack
        resend := []
        remaining := inflight.drop responses.length
        consumedResponses := (inflight.zip responses).length } := by
  have hlate : (inflight.drop responses.length).filter (fun cmd => !cmd.waits nowMs) = [] :=
    filter_eq_nil_iff.2 fun cmd hcmd => by simp [hwaits cmd hcmd]
  have hremaining := filter_eq_self.2 hwaits
  unfold reconcile
  simp only [hlate, hremaining, filter_nil, map_nil, append_nil]

/-- What is not at the end of the list goes. -/
lemma removals_drop (hids : (inflight.map (·.id)).Nodup) (j : ℕ) :
    removals inflight (inflight.drop j) = inflight.take j := by
  have hnodup := hids
  rw [← take_append_drop j inflight, map_append] at hnodup
  have hdisjoint := (nodup_append.1 hnodup).2.2
  have hsplit : removals inflight (inflight.drop j) =
      (inflight.take j ++ inflight.drop j).filter fun cmd =>
        cmd.id ∉ (inflight.drop j).map (·.id) := by
    rw [take_append_drop]
    rfl
  rw [hsplit, filter_append, filter_eq_self.2, filter_eq_nil_iff.2, append_nil]
  · intro cmd hcmd hkept
    exact of_decide_eq_true hkept (mem_map.2 ⟨cmd, hcmd, rfl⟩)
  · intro cmd hcmd
    refine decide_eq_true fun hid => ?_
    exact hdisjoint _ (mem_map.2 ⟨cmd, hcmd, rfl⟩) _ hid rfl

/-- All that the tick has read of `cmd:resp` goes. -/
lemma dropCount_prompt (hwaits : ∀ entry ∈ inflight.drop responses.length, entry.waits nowMs)
    (hle : responses.length ≤ inflight.length) :
    (reconcile inflight responses nowMs).dropCount responses = responses.length := by
  rw [reconcile_prompt hwaits]
  unfold ReconcileResult.dropCount
  split
  · rfl
  · exact (length_zip ..).trans (min_eq_right hle)

/-- The answers that the tick has read are those of the histories. -/
lemma pairs_eq_zip {recorded : List Inflight} {answered : List CmdResponse} {k : ℕ}
    (hinflight : inflight <+: recorded.drop k) (hresponses : responses <+: answered.drop k)
    (hle : responses.length ≤ inflight.length) :
    ((recorded.zip answered).take (k + responses.length)).drop k = inflight.zip responses := by
  obtain ⟨inflight', hinflight'⟩ := hinflight
  obtain ⟨responses', hresponses'⟩ := hresponses
  have hlength : (inflight.take responses.length).length = responses.length := length_take_of_le hle
  have hzip : inflight.zip responses = (inflight.take responses.length).zip responses := by
    conv_lhs => rw [← take_append_drop responses.length inflight, ← append_nil responses,
      zip_append (by simpa using hle), zip_nil_right, append_nil]
    simp
  rw [drop_take, Nat.add_sub_cancel_left, hzip]
  have hdrop : (recorded.zip answered).drop k = (recorded.drop k).zip (answered.drop k) :=
    drop_zipWith ..
  rw [hdrop, ← hinflight', ← hresponses', ← take_append_drop responses.length inflight,
    append_assoc, zip_append hlength, take_left']
  · simp
  · rw [length_zip, hlength, min_self]

end Plan

section Run

variable {a k k' : ℕ} {old : List CmdResponse} {s s' : Seam}

lemma Paired.lapsed (h : Paired a old k k' s) {p : PendingEntry} {t : Ms} (hp : p ∈ s.pending)
    (hpast : p.past t) (ht : t ≤ s.now) : s.Lapsed p.id := by
  have hnodup := h.history.ids
  rw [append_assoc] at hnodup
  have hnew := (nodup_append.1 hnodup).2.2 p.id (mem_map.2 ⟨p, hp, rfl⟩)
  refine ⟨fun hid => hnew _ (mem_append_right _ hid) rfl, fun hid => ?_, ?_⟩
  · obtain ⟨entry, hentry, hid⟩ := mem_map.1 hid
    refine hnew _ (mem_append_left _ ?_) hid.symm
    cases hhand : (s.session 0).hand with
    | checked rounds other =>
      rw [hhand] at hentry
      obtain rfl : entry = other := by simpa [Hand.toRecord] using hentry
      exact mem_cons_self
    | _ =>
      rw [hhand] at hentry
      cases hentry
  · obtain ⟨q, hq, hid, -, hexpires⟩ := h.copies.pending p hp
    refine ⟨q, hq, hid.symm, ?_⟩
    unfold PendingEntry.past at hpast ⊢
    rw [← hexpires]
    obtain ⟨e, he, hle⟩ := (Option.any_eq_true _ _).1 hpast
    exact (Option.any_eq_true _ _).2 ⟨e, he, decide_eq_true ((of_decide_eq_true hle).trans ht)⟩

/-- **The plan of a tick** marks the answers that the tick has read. -/
lemma Paired.plan (h : Paired a old k k' s) {nowMs : Ms} {inflight : List Inflight}
    {responses : List CmdResponse} (hd : s.dispatcher = .readResp nowMs inflight responses)
    (settled : Bool) :
    Phase s k k' (.running [] (tickOps nowMs inflight responses s.pending) settled) := by
  have hphase := h.phase
  rw [hd] at hphase
  obtain ⟨rfl, ⟨hrecorded, hanswered⟩, hnow, hinflight, hresponses, hle, hwaits, hopen⟩ := hphase
  rw [hrecorded] at hinflight
  rw [hanswered] at hresponses
  have hmid : (s.pairs.take (k + responses.length)).drop k = inflight.zip responses :=
    pairs_eq_zip hinflight hresponses hle
  have hids : (inflight.map (·.id)).Nodup :=
    h.history.nodup_recorded.sublist ((hinflight.sublist.trans (drop_sublist _ _)).map (·.id))
  have hremovals : removals inflight (reconcile inflight responses nowMs).remaining =
      inflight.take responses.length := by
    rw [reconcile_prompt hwaits]
    exact removals_drop hids _
  refine ⟨?_, .inr ?_, fun op hop => ?_, fun pair hpair => .inr ⟨?_, hopen pair hpair⟩⟩
  · rw [lrems_tickOps, hremovals, hrecorded]
    obtain ⟨inflight', hinflight'⟩ := hinflight
    rw [← drop_drop, ← hinflight', drop_append_of_le_length hle, ← append_assoc, take_append_drop]
  · rw [Nat.add_sub_cancel_left]
    unfold tickOps trimOps
    dsimp only
    rw [dropCount_prompt hwaits hle]
    refine ⟨_, rfl, hanswered, fun count hcount => ?_⟩
    by_cases hnil : inflight = [] <;> simp [hnil] at hcount
  · rw [hmid]
    unfold tickOps at hop
    rw [reconcile_prompt hwaits] at hop
    simp only [mem_append] at hop
    rcases hop with (((((hop | hop) | hop) | hop) | hop) | hop) | hop
    · obtain ⟨p, hp, hop⟩ := mem_flatMap.1 hop
      rcases mem_pair.1 hop with rfl | rfl
      · exact h.lapsed (mem_of_mem_filter hp) (mem_filter.1 hp).2 hnow
      · trivial
    · split at hop
      · cases hop
      · obtain rfl := mem_singleton.1 hop
        trivial
    · obtain ⟨_, hacked, rfl⟩ := mem_map.1 hop
      obtain ⟨pair, hpair, rfl⟩ := mem_map.1 hacked
      obtain ⟨hpair, hnack⟩ := mem_filter.1 hpair
      have hnack : pair.2.nack = false := by simpa using hnack
      refine ⟨pair, hpair, ?_⟩
      rw [markOp, if_neg (by simp [hnack])]
    · obtain ⟨_, hfailed, rfl⟩ := mem_map.1 hop
      obtain ⟨pair, hpair, rfl⟩ := mem_map.1 hfailed
      obtain ⟨hpair, hnack⟩ := mem_filter.1 hpair
      refine ⟨pair, hpair, ?_⟩
      rw [markOp, if_pos hnack]
    · cases hop
    · obtain ⟨cmd, -, rfl⟩ := mem_map.1 hop
      trivial
    · split at hop
      · cases hop
      · obtain rfl := mem_singleton.1 hop
        trivial
  · rw [hmid] at hpair
    unfold tickOps markOp
    rw [reconcile_prompt hwaits]
    simp only [mem_append]
    by_cases hnack : pair.2.nack
    · rw [if_pos hnack]
      exact .inl (.inl (.inl (.inr (mem_map.2 ⟨_, mem_map.2
        ⟨pair, mem_filter.2 ⟨hpair, hnack⟩, rfl⟩, rfl⟩))))
    · rw [if_neg hnack]
      exact .inl (.inl (.inl (.inl (.inr (mem_map.2 ⟨(pair.1.id, pair.2), mem_map.2
        ⟨pair, mem_filter.2 ⟨hpair, by simp [hnack]⟩, rfl⟩, rfl⟩)))))

/-- A tick gets to a place. -/
lemma Paired.dispatch (h : Paired a old k k' s) {m m' : ℕ} {d : Dispatcher}
    (hcopies : (s.dispatch d).Copies) (hidle : s.dispatcher ≠ .idle) (hd : d ≠ .idle)
    (hm : m ≤ m') (hk' : k' ≤ m') (hm' : m' ≤ s.log.answered.length)
    (hmarked : ∀ pair ∈ s.pairs.take m, Marked s pair.1.id pair.2)
    (hcovers : a < s.log.started → old.length ≤ m ∨ s.log.ended ≤ a ∧ (d.early ∨ old.length ≤ m'))
    (hphase : Phase s m m' d) : Paired a old m m' (s.dispatch d) where
  copies := hcopies
  history := h.history
  alive := h.alive
  le := hm
  le_answered := hm'
  total := h.total
  marked := hmarked
  rows id := by
    refine (h.rows id).imp_right (Or.imp_left fun ⟨pair, hpair, hid⟩ => ⟨pair, ?_, hid⟩)
    exact (take_prefix_take_left hk').subset hpair
  active := h.active
  ticks := by
    have hticks := h.ticks
    rw [if_neg hidle] at hticks
    rw [if_neg (by exact hd)]
    exact hticks
  covers := hcovers
  phase := by cases d <;> exact hphase

lemma Paired.endTick (h : Paired a old k k' s) (hcopies : s.endTick.Copies)
    (hidle : s.dispatcher ≠ .idle) (hearly : s.dispatcher.early = false) (hphase : k' = k ∧ Rest s k) :
    Paired a old k k' s.endTick where
  copies := hcopies
  history := h.history
  alive := h.alive
  le := h.le
  le_answered := h.le_answered
  total := h.total
  marked := h.marked
  rows := h.rows
  active := h.active
  ticks := by
    have hticks := h.ticks
    rw [if_neg hidle] at hticks
    exact hticks
  covers hstarted := by
    rcases h.covers hstarted with hle | ⟨-, hearly' | hle⟩
    · exact .inl hle
    · rw [hearly] at hearly'
      cases hearly'
    · exact .inl (hphase.1 ▸ hle)
  phase := hphase

/-- **A step of a tick.** -/
lemma Paired.dispatchStep (h : Paired a old k k' s) (hfits : NothingSlipsIn s .dispatch)
    (hstep : s.dispatchStep = some s') : ∃ m m', Paired a old m m' s' := by
  have hcopies := h.copies.dispatchStep hstep
  have hphase := h.phase
  have hcovers := h.covers
  unfold Seam.dispatchStep at hstep
  split at hstep
  · cases hstep
  · rename_i nowMs hd
    cases hstep
    rw [hd] at hphase hcovers
    obtain ⟨hk, hrest, hnow⟩ := hphase
    exact ⟨k, k', h.dispatch hcopies (by simp [hd]) (by simp) h.le le_rfl h.le_answered h.marked
      hcovers ⟨hk, hrest, hnow, prefix_refl _⟩⟩
  · rename_i nowMs inflight hd
    cases hstep
    rw [hd] at hphase hcovers
    obtain ⟨rfl, hrest, hnow, hinflight⟩ := hphase
    have hfew : s.resp.length ≤ inflight.length := by
      unfold NothingSlipsIn at hfits
      rwa [hd] at hfits
    have hall : k' + s.resp.length = s.log.answered.length := by
      rw [hrest.2, length_drop, Nat.add_sub_cancel' h.le_answered]
    refine ⟨k', k' + s.resp.length, h.dispatch hcopies (by simp [hd]) (by simp) (Nat.le_add_right _ _)
      (Nat.le_add_right _ _) hall.le h.marked ?_
      ⟨rfl, hrest, hnow, hinflight, prefix_refl _, hfew, fun entry hentry => ?_,
        fun pair hpair => ?_⟩⟩
    · intro hstarted
      exact (hcovers hstarted).imp_right fun hcover => ⟨hcover.1, .inr (h.total.length_le.trans hall.ge)⟩
    · have hmem : entry ∈ s.log.recorded.drop s.log.answered.length := by
        rw [← hall, ← drop_drop, ← hrest.1]
        exact (hinflight.drop _).subset hentry
      have hawaited := h.history.window entry hmem
      unfold Inflight.Awaited at hawaited
      exact decide_eq_true (sub_lt_iff_lt_add'.2 (hnow.trans_lt hawaited))
    · rcases h.rows pair.1.id with hopen | ⟨other, hother, hid⟩ | hlapsed
      · exact hopen
      · exact absurd hid (h.pair_ne hother hpair)
      · exact absurd hlapsed (Paired.not_lapsed_of_pair (mem_pairs hpair))
  · rename_i nowMs inflight responses hd
    cases hstep
    have hplan := h.plan hd
    rw [hd] at hcovers
    exact ⟨k, k', h.dispatch hcopies (by simp [hd]) (by simp) h.le le_rfl h.le_answered h.marked
      hcovers (hplan _)⟩
  · rename_i past op ops settled hd
    cases hstep
    exact ⟨k, k', h.tickOp hd⟩
  · rename_i past settled hd
    cases hstep
    rw [hd] at hphase hcovers
    obtain ⟨hinflight, hresp, -, hmid⟩ := hphase
    refine ⟨k', k', h.dispatch hcopies (by simp [hd]) (by simp) le_rfl le_rfl h.le_answered
      (fun pair hpair => ?_) ?_ ⟨rfl, hinflight, ?_⟩⟩
    · rw [← take_append_drop k (s.pairs.take k'), take_take, min_eq_left h.le] at hpair
      rcases mem_append.1 hpair with hpair | hpair
      · exact h.marked pair hpair
      · exact (hmid pair hpair).resolve_right fun hlater => nomatch hlater.1
    · intro hstarted
      rcases hcovers hstarted with hle | ⟨-, hearly | hle⟩
      · exact .inl (hle.trans h.le)
      · cases hearly
      · exact .inl hle
    · rcases hresp with ⟨-, hresp⟩ | ⟨rest, heq, hresp, -⟩
      · exact hresp
      · have hnone := (append_eq_nil_iff.1 heq.symm).2
        unfold trimOps at hnone
        split at hnone
        · rename_i hzero
          rw [hresp, le_antisymm h.le (Nat.sub_eq_zero_iff_le.1 hzero)]
        · cases hnone
  · rename_i settled pending hd
    rw [hd] at hphase hcovers
    split at hstep <;> cases hstep
    · exact ⟨k, k', h.dispatch hcopies (by simp [hd]) (by simp) h.le le_rfl h.le_answered h.marked
        hcovers hphase⟩
    · exact ⟨k, k', h.endTick hcopies (by simp [hd]) (by simp [hd, Dispatcher.early]) hphase⟩
  · rename_i hd
    cases hstep
    rw [hd] at hphase
    have hresp : s.resp = [] := by
      unfold NothingSlipsIn at hfits
      rwa [hd] at hfits
    have hquiet : Paired a old k k' { s with active := false } :=
      { h with active := fun hne => (hne hresp).elim }
    exact ⟨k, k', hquiet.endTick hcopies (by simp [hd]) (by simp [hd, Dispatcher.early]) hphase⟩

lemma Paired.fresh (h : Paired a old k k' s) {id : String} (hnew : id ∉ s.log.ids) :
    id ∉ s.pending.map (·.id) ++ (s.session 0).hand.unrecorded.toList.map (·.id) ++
      s.log.recorded.map (·.id) := by
  have hcopy {raw : PendingEntry} (hraw : IsCopy s.log.queued raw) : raw.id ≠ id := by
    obtain ⟨q, hq, hid, -⟩ := hraw
    rintro rfl
    exact hnew (mem_map.2 ⟨q, hq, hid.symm⟩)
  simp only [mem_append, mem_map, Option.mem_toList, not_or, not_exists, not_and]
  exact ⟨⟨fun raw hraw => hcopy (h.copies.pending raw hraw),
    fun raw hraw => hcopy (h.copies.unrecorded 0 raw hraw)⟩,
    fun entry hentry => hcopy (h.copies.recorded entry hentry).1⟩

/-- **Each step** leaves the lists what is left of the histories. -/
lemma Paired.step (h : Paired a old k k' s) {move : SeamMove} (hprompt : PromptDevice s move)
    (hfits : NothingSlipsIn s move) (hstep : s.step move = some s') : ∃ m m', Paired a old m m' s' := by
  have hcopies : s'.Copies := by
    refine h.copies.step ?_ hstep
    cases move <;> first | exact hprompt | trivial
  have hhistory := h.history
  unfold Seam.History at hhistory
  cases move with
  | clock t =>
    simp only [Seam.step] at hstep
    split at hstep
    · rename_i ht
      cases hstep
      refine ⟨k, k', h.extend [] [] ⟨ht, (append_nil _).symm,
        (append_nil _).symm, (append_nil _).symm, (append_nil _).symm, rfl, rfl, rfl,
        rfl, rfl, fun id hlapsed => ?_, id, by simp⟩ hcopies (hhistory.clock hprompt.1 hprompt.2)
        h.alive⟩
      obtain ⟨hnew, hhold, q, hq, hid, hpast⟩ := hlapsed
      refine ⟨hnew, hhold, q, hq, hid, ?_⟩
      obtain ⟨e, he, hle⟩ := (Option.any_eq_true _ _).1 hpast
      exact (Option.any_eq_true _ _).2 ⟨e, he, decide_eq_true ((of_decide_eq_true hle).trans ht)⟩
    · cases hstep
  | queue entry =>
    cases hstep
    refine ⟨k, k', h.extend [] [] ⟨le_rfl, (append_nil _).symm,
      (append_nil _).symm, (append_nil _).symm, (append_nil _).symm, rfl, rfl, rfl,
      rfl, rfl, fun id hlapsed => ?_, id, by simp⟩ hcopies (hhistory.queued (h.fresh hprompt.2))
      h.alive⟩
    obtain ⟨hnew, hhold, q, hq, hid⟩ := hlapsed
    exact ⟨hnew, hhold, q, mem_append_left _ hq, hid⟩
  | wake =>
    cases hstep
    exact ⟨k, k', h.extend [] [] ⟨le_rfl, (append_nil _).symm,
      (append_nil _).symm, (append_nil _).symm, (append_nil _).symm, rfl, rfl, rfl,
      rfl, rfl, fun _ hlapsed => hlapsed, fun _ => rfl, by simp⟩ hcopies hhistory h.alive⟩
  | connect i =>
    obtain rfl : i = 0 := hprompt
    simp only [Seam.step] at hstep
    split at hstep
    · rename_i hhand
      cases hstep
      refine ⟨k, k', h.extend [] [] (extends_aside s s.pending _ s.log.received s.log.written ?_) hcopies
        ?_ fun _ => rfl⟩
      · simp [Hand.toRecord]
      · exact hhistory.emptied (by rw [hhand]; rfl) rfl rfl rfl
    · cases hstep
  | hangUp i =>
    obtain ⟨rfl, hholds⟩ := hprompt
    cases hstep
    refine ⟨k, k', h.extend [] [] (extends_aside s s.pending _ s.log.received s.log.written ?_) hcopies
      hhistory fun hholds' => ?_⟩
    · intro entry hentry id hlapsed heq
      exact hlapsed.2.1 (mem_map.2 ⟨entry, Option.mem_toList.2 hentry, heq.symm⟩)
    · exact absurd hholds' (ne_true_of_eq_false hholds)
  | drain i =>
    obtain rfl : i = 0 := hprompt
    simp only [Seam.step] at hstep
    split at hstep
    · rename_i hhand
      cases hstep
      refine ⟨k, k', h.extend [] [] (extends_aside s s.pending _ s.log.received s.log.written ?_) hcopies
        ?_ fun hholds => ?_⟩
      · simp [Hand.toRecord]
      · exact hhistory.emptied (by rw [hhand]; rfl) rfl rfl rfl
      · cases hholds
    · cases hstep
  | session i arrives =>
    obtain ⟨rfl, harrives⟩ := hprompt
    obtain rfl : arrives = true := harrives
    exact ⟨k, k', h.sessionStep hstep⟩
  | answer giver text nack =>
    cases hstep
    exact ⟨k, k', h.extend [] [_] ⟨le_rfl, (append_nil _).symm, rfl,
      (append_nil _).symm, Seam.newestResponses_few hfits, rfl, rfl, rfl, rfl, rfl,
      fun _ hlapsed => hlapsed, fun _ => rfl, fun _ => rfl⟩ hcopies (hhistory.answeredBy hprompt)
      h.alive⟩
  | tick =>
    simp only [Seam.step] at hstep
    split at hstep
    · rename_i hidle
      split at hstep
      · rename_i hactive
        cases hstep
        have hticks := h.ticks
        have hphase := h.phase
        rw [hidle] at hphase
        rw [if_pos hidle, add_zero] at hticks
        refine ⟨k, k', { h with
          copies := hcopies
          ticks := congrArg (· + 1) hticks
          covers := fun hstarted => ?_
          phase := ⟨hphase.1, hphase.2, le_rfl⟩ }⟩
        rcases Nat.lt_succ_iff_lt_or_eq.1 hstarted with hlt | heq
        · refine (h.covers hlt).imp_right fun hcover => ?_
          exact absurd hcover.1 (not_le.2 (hlt.trans_eq hticks))
        · exact .inr ⟨(hticks.symm.trans heq.symm).le, .inl rfl⟩
      · cases hstep
    · cases hstep
  | dispatch => exact h.dispatchStep hfits hstep
  | paramWrite | api | vanish | crash => exact hprompt.elim

/-- Nothing to mark yet. -/
lemma Paired.init : Paired 0 [] 0 0 Seam.init where
  copies := Seam.Copies.init
  history := by constructor <;> simp [Seam.init, Hand.unrecorded, Hand.unwritten, Hand.toRecord]
  alive hholds := nomatch hholds
  le := le_rfl
  le_answered := le_rfl
  total := nil_prefix
  marked _ hpair := nomatch hpair
  rows _ := .inl rfl
  active hne := by simp [Seam.init] at hne
  ticks := rfl
  covers _ := .inl le_rfl
  phase := ⟨rfl, rfl, rfl⟩

/-- **A run** leaves the lists what is left of the histories. -/
lemma Paired.run {moves : List SeamMove} (h : Paired a old k k' s)
    (hfits : RunFits Seam.step (fun s move => PromptDevice s move ∧ NothingSlipsIn s move) s
      moves) (hrun : run Seam.step s moves = some s') : ∃ m m', Paired a old m m' s' :=
  run_keeps (fun s => ∃ m m', Paired a old m m' s)
    (fun _ _ _ ⟨_, _, h⟩ hfits hstep => h.step hfits.1 hfits.2 hstep) ⟨k, k', h⟩ hfits hrun

variable {response : CmdResponse} {i : ℕ}

/-- An answer stands beside the command that the device has answered. -/
lemma Paired.pair_of_answered (h : Paired a old k k' s) (hi : s.log.answered[i]? = some response) :
    ∃ entry, s.pairs[i]? = some (entry, response) ∧ entry.id = response.giver := by
  obtain ⟨hlt, rfl⟩ := List.getElem?_eq_some_iff.1 hi
  have hlt' := hlt.trans_le h.history.length_answered_le
  refine ⟨s.log.recorded[i], List.getElem?_zip_eq_some.2 ⟨List.getElem?_eq_getElem hlt', hi⟩, ?_⟩
  have hgiver := h.history.givers.getElem (by simpa using hlt : i < _)
  simpa using hgiver.symm

lemma Paired.marked_of_lt (h : Paired a old k k' s) (hi : s.log.answered[i]? = some response)
    (hlt : i < k) :
    Marked s response.giver response := by
  obtain ⟨entry, hpair, hid⟩ := h.pair_of_answered hi
  have hmem : (entry, response) ∈ s.pairs.take k :=
    mem_of_getElem? ((getElem?_take_of_lt hlt).trans hpair)
  exact hid ▸ h.marked _ hmem

/-- **No answer is discarded unread.** -/
lemma Paired.waits_or_marked (h : Paired a old k k' s) (hresponse : response ∈ s.log.answered) :
    response ∈ s.resp ∨ Marked s response.giver response := by
  obtain ⟨i, hi⟩ := mem_iff_getElem?.1 hresponse
  have hlater {m : ℕ} (hm : m ≤ i) : response ∈ s.log.answered.drop m :=
    mem_of_getElem? (by rw [getElem?_drop, Nat.add_sub_cancel' hm, hi] :
      (s.log.answered.drop m)[i - m]? = some response)
  by_cases hlt : i < k
  · exact .inr (h.marked_of_lt hi hlt)
  have hwaits (hresp : s.resp = s.log.answered.drop k) :
      response ∈ s.resp ∨ Marked s response.giver response :=
    .inl (hresp ▸ hlater (not_lt.1 hlt))
  have hphase := h.phase
  cases hd : s.dispatcher with
  | running past ops settled =>
    rw [hd] at hphase
    obtain ⟨-, ⟨rfl, hresp⟩ | ⟨-, -, hresp, -⟩, -, hmid⟩ := hphase
    · by_cases hlt' : i < k'
      · obtain ⟨entry, hpair, hid⟩ := h.pair_of_answered hi
        have hmem : (entry, response) ∈ (s.pairs.take k').drop k := by
          refine mem_of_getElem? (i := i - k) ?_
          rw [getElem?_drop, Nat.add_sub_cancel' (not_lt.1 hlt), getElem?_take_of_lt hlt', hpair]
        exact .inr (hid ▸ (hmid _ hmem).resolve_right fun hmark => nomatch hmark.1)
      · exact .inl (hresp ▸ hlater (not_lt.1 hlt'))
    · exact hwaits hresp
  | started | readInflight | readResp =>
    rw [hd] at hphase
    exact hwaits hphase.2.1.2
  | idle | counted | leaving =>
    rw [hd] at hphase
    exact hwaits hphase.2.2

end Run

/-- A tick that is over before the device answers, and one after it. -/
def answeredBetween : List SeamMove :=
  [SeamMove.connect 0, .queue ⟨"c1", "getinfo".toList, 0, none⟩, .drain 0] ++
    replicate 5 (SeamMove.session 0 true) ++ [SeamMove.tick] ++
    replicate 6 SeamMove.dispatch ++ [SeamMove.answer "c1" "ok" false, .tick] ++
    replicate 10 SeamMove.dispatch

/-- A command is recorded, and answered, after a tick has read `cmd:inflight` and before it reads
`cmd:resp`. -/
def slippedIn : List SeamMove :=
  [SeamMove.connect 0, .queue ⟨"c1", "getinfo".toList, 0, none⟩, .wake, .tick, .dispatch,
    .drain 0] ++ replicate 5 (SeamMove.session 0 true) ++ [SeamMove.answer "c1" "ok" false] ++
    replicate 5 SeamMove.dispatch ++ [SeamMove.clock 30000, .tick] ++
    replicate 9 SeamMove.dispatch ++ [SeamMove.drain 0] ++
    replicate 4 (SeamMove.session 0 true)

end Orbetra.Commands
