import Orbetra.Commands.Copies

/-!
# What a response is credited to

A tick pairs `cmd:inflight` and `cmd:resp` by position.  As long as the commands that the responses
answer are the first ones in flight, in that order (`LinedUp`), each response goes to its own command.
A tick that runs to its end leaves no response behind; one that stops after its first removal from
`cmd:inflight`, and before it trims `cmd:resp`, leaves the two lists out of step
(`response_credited_twice`).

In this module the sessions move between ticks only.
-/

namespace Orbetra.Commands

open List Machine

/-- The responses are those of the first commands in flight. -/
def LinedUp (inflight : List Inflight) (resp : List CmdResponse) : Prop :=
  resp.map (·.giver) <+: inflight.map (·.id)

/-- How many responses a list of commands of a tick drops. -/
def ltrims (ops : List TickOp) : List ℕ :=
  ops.filterMap fun | .ltrimResp count => some count | _ => none

/-- A tick may stop before its first removal from `cmd:inflight`, or once it has trimmed
`cmd:resp`. -/
def StopsInStep : Dispatcher → Prop
  | .running past ops _ => lrems past = [] ∨ ltrims ops = []
  | _ => True

/-- Sessions move between ticks, the device answers the first command in flight that has no response
yet, fewer than 1000 responses wait, and no tick stops between a removal and the trim. -/
def CreditFits (s : Seam) : SeamMove → Prop
  | .session _ _ => s.dispatcher = .idle
  | .answer giver _ _ => s.dispatcher = .idle ∧ s.resp.length < 1000 ∧
      (s.inflight.map (·.id))[s.resp.length]? = some giver
  | .crash => StopsInStep s.dispatcher
  | _ => True

instance : (d : Dispatcher) → Decidable (StopsInStep d)
  | .running past ops _ => inferInstanceAs (Decidable (lrems past = [] ∨ ltrims ops = []))
  | .idle | .started _ | .readInflight _ _ | .readResp _ _ _ | .counted _ _ | .leaving =>
    .isTrue trivial

instance (s : Seam) : (move : SeamMove) → Decidable (CreditFits s move)
  | .session _ _ => inferInstanceAs (Decidable (s.dispatcher = .idle))
  | .answer giver _ _ => inferInstanceAs (Decidable (s.dispatcher = .idle ∧ s.resp.length < 1000 ∧
      (s.inflight.map (·.id))[s.resp.length]? = some giver))
  | .crash => inferInstanceAs (Decidable (StopsInStep s.dispatcher))
  | .clock _ | .queue _ | .wake | .paramWrite _ | .api | .connect _ | .hangUp _ | .vanish _
  | .drain _ | .tick | .dispatch => .isTrue trivial

/-- A response is one of the device, to that command. -/
def GivenTo (answered : List CmdResponse) (response : CmdResponse) (id : String) : Prop :=
  response ∈ answered ∧ response.giver = id

/-- What a plan credits was given to the command. -/
def CreditsWell (answered : List CmdResponse) : TickOp → Prop
  | .updateAcked id response => GivenTo answered response id
  | .updateFailed failure => ∀ response, failure.nack = some response →
      GivenTo answered response failure.id
  | _ => True

def InStep (answered : List CmdResponse) (inflight : List Inflight) (resp : List CmdResponse) :
    Dispatcher → Prop
  | .readInflight _ snapshot => LinedUp inflight resp ∧ snapshot = inflight
  | .readResp _ snapshot responses =>
    LinedUp inflight resp ∧ snapshot = inflight ∧ responses = resp
  | .running past ops _ =>
    (∀ op ∈ ops, CreditsWell answered op) ∧ (lrems past = [] → LinedUp inflight resp) ∧
      (∀ count ∈ ltrims ops, resp.length ≤ count) ∧ (ltrims ops = [] → resp = [])
  | _ => LinedUp inflight resp

/-- What ticks have credited was given to the command. -/
structure Credited (s : Seam) : Prop where
  serial : ∀ (i : ℕ) (response : CmdResponse), s.log.answered[i]? = some response → response.serial = i
  resp : ∀ response ∈ s.resp, response ∈ s.log.answered
  credits : ∀ credit ∈ s.log.credits, GivenTo s.log.answered credit.1 credit.2
  acked : ∀ id, (s.rows id).status = .acked →
    ∃ response, GivenTo s.log.answered response id ∧ (s.rows id).response = some response.text
  inStep : InStep s.log.answered s.inflight s.resp s.dispatcher

section Lists

variable {inflight : List Inflight} {resp : List CmdResponse} {answered : List CmdResponse} {nowMs : Ms}
  {pending : List PendingEntry}

lemma mem_ltrims {ops : List TickOp} {count : ℕ} : count ∈ ltrims ops ↔ .ltrimResp count ∈ ops := by
  constructor
  · intro h
    obtain ⟨op, hop, hcount⟩ := mem_filterMap.1 h
    cases op with
    | ltrimResp count' => exact Option.some.inj hcount ▸ hop
    | _ => cases hcount
  · intro h
    exact mem_filterMap.2 ⟨_, h, rfl⟩

lemma LinedUp.nil : LinedUp inflight [] := nil_prefix

lemma LinedUp.length_le (h : LinedUp inflight resp) : resp.length ≤ inflight.length := by
  simpa using IsPrefix.length_le h

/-- A response stands beside the command it was given to. -/
lemma LinedUp.giver_eq (h : LinedUp inflight resp) {pair : Inflight × CmdResponse}
    (hpair : pair ∈ inflight.zip resp) : pair.2.giver = pair.1.id := by
  obtain ⟨i, hi⟩ := mem_iff_getElem?.1 hpair
  obtain ⟨hcmd, hresponse⟩ := getElem?_zip_eq_some.1 hi
  obtain ⟨rest, hrest⟩ := h
  have hgiver : (resp.map (·.giver) ++ rest)[i]? = some pair.2.giver := by
    rw [getElem?_append_left]
    · simp [hresponse]
    · simpa using (List.getElem?_eq_some_iff.1 hresponse).1
  rw [hrest, List.getElem?_map, hcmd] at hgiver
  exact (Option.some.inj hgiver).symm

/-- All the responses are dropped. -/
lemma LinedUp.dropCount_eq (h : LinedUp inflight resp) :
    (reconcile inflight resp nowMs).dropCount resp = resp.length := by
  unfold ReconcileResult.dropCount
  split
  · rfl
  · exact (length_zip ..).trans (Nat.min_eq_right h.length_le)

/-- **The plan of lists in step** credits each response to its command, and drops all. -/
lemma LinedUp.plan (h : LinedUp inflight resp) (hresp : ∀ response ∈ resp, response ∈ answered)
    (settled : Bool) :
    InStep answered inflight resp (.running [] (tickOps nowMs inflight resp pending) settled) := by
  have htrim (count : ℕ) : count ∈ ltrims (tickOps nowMs inflight resp pending) ↔
      resp.length ≠ 0 ∧ count = resp.length := by
    rw [mem_ltrims]
    simp only [tickOps, h.dropCount_eq, mem_append, mem_map, mem_flatMap]
    by_cases hlength : resp.length = 0 <;> by_cases hinflight : inflight = [] <;>
      simp [hlength, hinflight]
  refine ⟨fun op hop => ?_, fun _ => h, fun count hcount => ((htrim count).1 hcount).2.ge, ?_⟩
  · have hgiven {pair : Inflight × CmdResponse} (hpair : pair ∈ inflight.zip resp) :
        GivenTo answered pair.2 pair.1.id :=
      ⟨hresp _ (of_mem_zip hpair).2, h.giver_eq hpair⟩
    cases op with
    | updateAcked id response =>
      have hmem : (id, response) ∈ (reconcile inflight resp nowMs).acked := by
        simp only [tickOps, mem_append, mem_map, mem_flatMap] at hop
        by_cases hinflight : inflight = [] <;> simpa [hinflight] using hop
      obtain ⟨pair, hpair, heq⟩ := mem_map.1 hmem
      cases heq
      exact hgiven (mem_of_mem_filter hpair)
    | updateFailed failure =>
      have hmem : failure ∈ (reconcile inflight resp nowMs).failed := by
        simp only [tickOps, mem_append, mem_map, mem_flatMap] at hop
        by_cases hinflight : inflight = [] <;> simpa [hinflight] using hop
      intro response hnack
      rcases mem_append.1 hmem with hmem | hmem
      · obtain ⟨pair, hpair, rfl⟩ := mem_map.1 hmem
        cases hnack
        exact hgiven (mem_of_mem_filter hpair)
      · obtain ⟨cmd, -, rfl⟩ := mem_map.1 hmem
        cases hnack
    | _ => trivial
  · intro hnone
    by_contra hne
    have hmem := (htrim _).2 ⟨fun h0 => hne (length_eq_zero_iff.1 h0), rfl⟩
    rw [hnone] at hmem
    cases hmem

end Lists

section Step

variable {s s' : Seam}

lemma acked_updateRow {id id' : String} {f : CommandRow → CommandRow}
    (hf : ∀ row, (f row).status ≠ .acked)
    (h : ((s.updateRow id (Seam.ifOpen f)).rows id').status = .acked) :
    (s.updateRow id (Seam.ifOpen f)).rows id' = s.rows id' := by
  rw [Seam.updateRow_rows] at h ⊢
  unfold Seam.ifOpen at h ⊢
  split_ifs at h ⊢ with hid hopen
  · exact absurd h (hf _)
  · rfl
  · rfl

variable {op : TickOp} {settled : Bool} {ops past : List TickOp}

lemma acked_tickOp {id : String} (h : ((s.tickOp op).rows id).status = .acked) :
    (s.tickOp op).rows id = s.rows id ∨ ∃ response, op = .updateAcked id response ∧
      ((s.tickOp op).rows id).response = some response.text := by
  cases op with
  | updateExpired id' => exact .inl (acked_updateRow (fun _ => by simp) h)
  | updateQueued id' => exact .inl (acked_updateRow (fun _ => by simp) h)
  | updateFailed failure =>
    refine .inl ?_
    unfold Seam.tickOp at h ⊢
    dsimp only at h ⊢
    cases hnack : failure.nack with
    | none =>
      rw [hnack] at h
      exact acked_updateRow (fun _ => by simp) h
    | some response =>
      rw [hnack] at h
      exact acked_updateRow (fun _ => by simp) h
  | updateSent ids =>
    refine .inl ?_
    have hrow : (s.tickOp (.updateSent ids)).rows id =
        if id ∈ ids ∧ (s.rows id).status = .queued then { s.rows id with status := .sent }
        else s.rows id := rfl
    rw [hrow] at h ⊢
    split_ifs at h ⊢
    rfl
  | updateAcked id' response =>
    have hrow : (s.tickOp (.updateAcked id' response)).rows id =
        (s.updateRow id' (Seam.ifOpen fun _ => ⟨.acked, some response.text⟩)).rows id := rfl
    rw [hrow, Seam.updateRow_rows]
    unfold Seam.ifOpen
    split_ifs with hid hopen
    · exact .inr ⟨response, by rw [hid], rfl⟩
    · exact .inl rfl
    · exact .inl rfl
  | _ => exact .inl rfl

lemma credits_tickOp (hop : CreditsWell s.log.answered op) :
    ∀ credit ∈ (s.tickOp op).log.credits, credit ∈ s.log.credits ∨
      GivenTo s.log.answered credit.1 credit.2 := by
  intro credit hcredit
  cases op with
  | updateAcked id response =>
    rcases mem_append.1 hcredit with hcredit | hcredit
    · exact .inl hcredit
    · obtain rfl := mem_singleton.1 hcredit
      exact .inr hop
  | updateFailed failure =>
    unfold Seam.tickOp at hcredit
    dsimp only at hcredit
    cases hnack : failure.nack with
    | none =>
      rw [hnack] at hcredit
      exact .inl hcredit
    | some response =>
      rw [hnack] at hcredit
      rcases mem_append.1 hcredit with hcredit | hcredit
      · exact .inl hcredit
      · obtain rfl := mem_singleton.1 hcredit
        exact .inr (hop response hnack)
  | _ => exact .inl hcredit

lemma inStep_tickOp {answered : List CmdResponse} {inflight : List Inflight}
    {resp : List CmdResponse}
    (h : InStep answered inflight resp (.running past (op :: ops) settled)) :
    InStep answered (op.onInflight inflight) (op.onResp resp) (.running (past ++ [op]) ops settled) := by
  obtain ⟨hcredits, hlined, htrim, hdropped⟩ := h
  refine ⟨fun op' hop' => hcredits op' (mem_cons_of_mem _ hop'), fun hlrems => ?_,
    fun count hcount => ?_, fun hnone => ?_⟩
  · have hpast : lrems past = [] ∧ lrems [op] = [] := by
      rw [lrems_append] at hlrems
      exact append_eq_nil_iff.1 hlrems
    cases op with
    | lremInflight raw => exact absurd hpast.2 (cons_ne_nil _ _)
    | ltrimResp count =>
      have hall : resp.drop count = [] := by
        rw [drop_eq_nil_iff]
        exact htrim count mem_cons_self
      show LinedUp inflight (resp.drop count)
      rw [hall]
      exact .nil
    | _ => exact hlined hpast.1
  · have hle := htrim count (mem_ltrims.2 (mem_cons_of_mem _ (mem_ltrims.1 hcount)))
    cases op with
    | ltrimResp count' => exact (length_drop ..).le.trans ((Nat.sub_le ..).trans hle)
    | _ => exact hle
  · cases op with
    | ltrimResp count =>
      show resp.drop count = []
      rw [drop_eq_nil_iff]
      exact htrim count mem_cons_self
    | _ => exact hdropped hnone

lemma Credited.tickOp (h : Credited s) (hd : s.dispatcher = .running past (op :: ops) settled) :
    Credited ((s.tickOp op).dispatch (.running (past ++ [op]) ops settled)) := by
  have hinStep := h.inStep
  rw [hd] at hinStep
  have hanswered : (s.tickOp op).log.answered = s.log.answered := by
    obtain ⟨credits, hlog⟩ := s.tickOp_log op
    rw [hlog]
    rfl
  constructor
  · show ∀ (i : ℕ) (response : CmdResponse), (s.tickOp op).log.answered[i]? = _ → _
    rw [hanswered]
    exact h.serial
  · show ∀ response ∈ (s.tickOp op).resp, response ∈ (s.tickOp op).log.answered
    rw [hanswered, Seam.tickOp_resp]
    intro response hresponse
    refine h.resp response ?_
    cases op with
    | ltrimResp count => exact mem_of_mem_drop hresponse
    | _ => exact hresponse
  · show ∀ credit ∈ (s.tickOp op).log.credits, GivenTo (s.tickOp op).log.answered _ _
    rw [hanswered]
    intro credit hcredit
    rcases credits_tickOp (hinStep.1 op mem_cons_self) credit hcredit with hcredit | hgiven
    · exact h.credits credit hcredit
    · exact hgiven
  · show ∀ id, ((s.tickOp op).rows id).status = .acked → ∃ response,
      GivenTo (s.tickOp op).log.answered response id ∧ ((s.tickOp op).rows id).response = _
    rw [hanswered]
    intro id hid
    rcases acked_tickOp hid with hsame | ⟨response, rfl, hresponse⟩
    · rw [hsame] at hid ⊢
      exact h.acked id hid
    · exact ⟨response, hinStep.1 _ mem_cons_self, hresponse⟩
  · show InStep (s.tickOp op).log.answered (s.tickOp op).inflight (s.tickOp op).resp _
    rw [hanswered, Seam.tickOp_inflight, Seam.tickOp_resp]
    exact inStep_tickOp hinStep

/-- A tick gets to another place. -/
lemma Credited.dispatch (h : Credited s) {d : Dispatcher}
    (hinStep : InStep s.log.answered s.inflight s.resp d) : Credited (s.dispatch d) :=
  ⟨h.serial, h.resp, h.credits, h.acked, hinStep⟩

lemma Credited.dispatchStep (h : Credited s) (hstep : s.dispatchStep = some s') : Credited s' := by
  have hinStep := h.inStep
  unfold Seam.dispatchStep at hstep
  split at hstep
  · cases hstep
  · rename_i nowMs hd
    cases hstep
    rw [hd] at hinStep
    exact h.dispatch ⟨hinStep, rfl⟩
  · rename_i nowMs inflight hd
    cases hstep
    rw [hd] at hinStep
    exact h.dispatch ⟨hinStep.1, hinStep.2, rfl⟩
  · rename_i nowMs inflight responses hd
    cases hstep
    rw [hd] at hinStep
    obtain ⟨hlined, rfl, rfl⟩ := hinStep
    exact h.dispatch (hlined.plan h.resp _)
  · rename_i past op ops settled hd
    cases hstep
    exact h.tickOp hd
  · rename_i past settled hd
    cases hstep
    rw [hd] at hinStep
    refine h.dispatch ?_
    show LinedUp s.inflight s.resp
    rw [hinStep.2.2.2 rfl]
    exact .nil
  · rename_i settled pending hd
    rw [hd] at hinStep
    split at hstep <;> cases hstep
    · exact h.dispatch hinStep
    · exact ⟨h.serial, h.resp, h.credits, h.acked, hinStep⟩
  · rename_i hd
    cases hstep
    rw [hd] at hinStep
    exact ⟨h.serial, h.resp, h.credits, h.acked, hinStep⟩

lemma Credited.sessionStep (h : Credited s) (hd : s.dispatcher = .idle) {i : ℕ} {arrives : Bool}
    (hstep : s.sessionStep i arrives = some s') : Credited s' := by
  have hinStep := h.inStep
  rw [hd] at hinStep
  have hsame : InStep s.log.answered s.inflight s.resp s.dispatcher := h.inStep
  unfold Seam.sessionStep at hstep
  split at hstep
  · cases hstep
  · cases hstep
    exact ⟨h.serial, h.resp, h.credits, h.acked, hsame⟩
  · split at hstep
    · split at hstep <;> cases hstep <;> exact ⟨h.serial, h.resp, h.credits, h.acked, hsame⟩
    · cases hstep
      exact ⟨h.serial, h.resp, h.credits, h.acked, hsame⟩
  · split at hstep <;> cases hstep <;> exact ⟨h.serial, h.resp, h.credits, h.acked, hsame⟩
  · rename_i rounds entry hhand
    cases hstep
    refine ⟨h.serial, h.resp, h.credits, h.acked, ?_⟩
    show InStep s.log.answered (s.inflight ++ [entry]) s.resp s.dispatcher
    rw [hd]
    show s.resp.map (·.giver) <+: (s.inflight ++ [entry]).map (·.id)
    rw [map_append]
    exact IsPrefix.trans hinStep (prefix_append _ _)
  · cases hstep
    exact ⟨h.serial, h.resp, h.credits, h.acked, hsame⟩

/-- The device answers the first command in flight that has no response yet. -/
lemma Credited.receive (h : Credited s) (hd : s.dispatcher = .idle) {giver text : String}
    {nack : Bool} (hroom : s.resp.length < 1000)
    (hfirst : (s.inflight.map (·.id))[s.resp.length]? = some giver) :
    Credited (s.receive ⟨text, nack, giver, s.log.answered.length⟩) := by
  have hmono {response : CmdResponse} {id : String} (hgiven : GivenTo s.log.answered response id)
      (new : CmdResponse) : GivenTo (s.log.answered ++ [new]) response id :=
    ⟨mem_append_left _ hgiven.1, hgiven.2⟩
  have hinStep := h.inStep
  rw [hd] at hinStep
  have hkept : Seam.newestResponses (s.resp ++ [⟨text, nack, giver, s.log.answered.length⟩]) =
      s.resp ++ [⟨text, nack, giver, s.log.answered.length⟩] := Seam.newestResponses_few hroom
  constructor
  · intro i response hi
    show response.serial = i
    rcases lt_or_ge i s.log.answered.length with hlt | hge
    · refine h.serial i response ?_
      rw [← hi]
      exact (getElem?_append_left hlt).symm
    · have hi : (s.log.answered ++ [(⟨text, nack, giver, s.log.answered.length⟩ :
          CmdResponse)])[i]? = some response := hi
      rw [List.getElem?_append_right hge] at hi
      obtain ⟨hlt, rfl⟩ := List.getElem?_eq_some_iff.1 hi
      have hi' : i - s.log.answered.length = 0 := by simpa using hlt
      simp only [hi', List.getElem_cons_zero]
      omega
  · show ∀ response ∈ Seam.newestResponses _, _
    rw [hkept]
    intro response hresponse
    rcases mem_append.1 hresponse with hresponse | hresponse
    · exact mem_append_left _ (h.resp response hresponse)
    · exact mem_append_right _ hresponse
  · exact fun credit hcredit => hmono (h.credits credit hcredit) _
  · intro id hid
    obtain ⟨response, hgiven, hresponse⟩ := h.acked id hid
    exact ⟨response, hmono hgiven _, hresponse⟩
  · show InStep _ s.inflight (Seam.newestResponses _) s.dispatcher
    rw [hkept, hd]
    obtain ⟨rest, hrest⟩ := hinStep
    have hrest' : s.resp.map (·.giver) ++ rest = s.inflight.map (·.id) := hrest
    rw [← hrest', getElem?_append_right (by simp)] at hfirst
    cases rest with
    | nil => simp at hfirst
    | cons first rest =>
      have hgiver : first = giver := by simpa using hfirst
      exact ⟨rest, by simp [← hrest', hgiver]⟩

/-- **Credits stay well.** -/
lemma Credited.step (h : Credited s) {move : SeamMove} (hfits : CreditFits s move)
    (hstep : s.step move = some s') : Credited s' := by
  have hsame : InStep s.log.answered s.inflight s.resp s.dispatcher := h.inStep
  cases move with
  | clock | paramWrite | connect | drain =>
    simp only [Seam.step] at hstep
    split at hstep
    · cases hstep
      exact ⟨h.serial, h.resp, h.credits, h.acked, hsame⟩
    · cases hstep
  | queue | wake | hangUp | vanish =>
    cases hstep
    exact ⟨h.serial, h.resp, h.credits, h.acked, hsame⟩
  | api =>
    simp only [Seam.step, Seam.apiStep] at hstep
    split at hstep
    · cases hstep
    · cases hstep
      exact ⟨h.serial, h.resp, h.credits, h.acked, hsame⟩
    · cases hstep
      exact ⟨h.serial, h.resp, h.credits, h.acked, hsame⟩
    · rename_i id ids hapi
      cases hstep
      refine ⟨h.serial, h.resp, h.credits, fun id' hid' => ?_, hsame⟩
      have hrow := Seam.updateRow_rows (s := s) id id' fun row =>
        if row.status = .queued then { row with status := .expired } else row
      have hid' : ((s.updateRow id fun row =>
        if row.status = .queued then { row with status := .expired } else row).rows id').status =
          .acked := hid'
      show ∃ response, _ ∧ ((s.updateRow id fun row =>
        if row.status = .queued then { row with status := .expired } else row).rows id').response = _
      rw [hrow] at hid' ⊢
      split_ifs at hid' ⊢
      · exact h.acked id' hid'
      · exact h.acked id' hid'
  | session i arrives => exact h.sessionStep hfits hstep
  | answer giver text nack =>
    cases hstep
    exact h.receive hfits.1 hfits.2.1 hfits.2.2
  | tick =>
    simp only [Seam.step] at hstep
    split at hstep
    · rename_i hd
      rw [hd] at hsame
      split at hstep
      · cases hstep
        exact ⟨h.serial, h.resp, h.credits, h.acked, hsame⟩
      · cases hstep
    · cases hstep
  | dispatch => exact h.dispatchStep hstep
  | crash =>
    cases hstep
    refine h.dispatch ?_
    show LinedUp s.inflight s.resp
    have hstops : StopsInStep s.dispatcher := hfits
    cases hd : s.dispatcher with
    | running past ops settled =>
      rw [hd] at hsame hstops
      rcases hstops with hpast | hnone
      · exact hsame.2.1 hpast
      · rw [hsame.2.2.2 hnone]
        exact .nil
    | readInflight | readResp =>
      rw [hd] at hsame
      exact hsame.1
    | _ =>
      rw [hd] at hsame
      exact hsame

end Step

lemma Credited.init : Credited Seam.init :=
  ⟨fun _ _ h => (by cases h), fun _ h => (by cases h), fun _ h => (by cases h),
    fun _ h => (by cases h), LinedUp.nil⟩

/-- **A response acknowledges one command, its own.**  With sessions that move between ticks, and a
device that answers the first command in flight without a response: as long as no tick stops between
its first removal from `cmd:inflight` and its trim of `cmd:resp`, what a response is credited to is
the command it was given to, and so is what it acknowledges. -/
theorem responses_credited_once (moves : List SeamMove) (s : Seam)
    (hfits : RunFits Seam.step CreditFits .init moves)
    (hrun : run Seam.step .init moves = some s) :
    (∀ credit ∈ s.log.credits, ∀ credit' ∈ s.log.credits,
        credit.1.serial = credit'.1.serial → credit.2 = credit'.2) ∧
      (∀ credit ∈ s.log.credits, GivenTo s.log.answered credit.1 credit.2) ∧
      ∀ id, (s.rows id).status = .acked →
        ∃ response, GivenTo s.log.answered response id ∧
          (s.rows id).response = some response.text := by
  have h : Credited s := run_keeps Credited
    (fun s move s' h hfits hstep => h.step hfits hstep) .init hfits hrun
  refine ⟨fun credit hcredit credit' hcredit' hserial => ?_, h.credits, h.acked⟩
  obtain ⟨hmem, hgiver⟩ := h.credits credit hcredit
  obtain ⟨hmem', hgiver'⟩ := h.credits credit' hcredit'
  obtain ⟨i, hi⟩ := mem_iff_getElem?.1 hmem
  obtain ⟨j, hj⟩ := mem_iff_getElem?.1 hmem'
  have hij : i = j := (h.serial i _ hi).symm.trans (hserial.trans (h.serial j _ hj))
  have hsame : credit.1 = credit'.1 := Option.some.inj (hi.symm.trans (hij ▸ hj))
  rw [← hgiver, ← hgiver', hsame]

/-- Two commands are sent, and the device answers the first. -/
def oneAnswer : List SeamMove :=
  [SeamMove.queue ⟨"c1", "getver".toList, 0, none⟩, .queue ⟨"c2", "getgps".toList, 0, none⟩, .wake,
    .connect 0, .drain 0] ++ replicate 9 (SeamMove.session 0 true) ++
    [SeamMove.answer "c1" "v1" false]

/-- A tick takes the time, reads the three lists, and makes so many commands. -/
def tickUpTo (commands : ℕ) : List SeamMove := .tick :: replicate (3 + commands) .dispatch

/-- A whole tick credits the answer to its command. -/
theorem responses_credited_once_tick :
    ∃ s, run Seam.step .init (oneAnswer ++ tickUpTo 4) = some s ∧
      s.log.credits.map (fun credit => (credit.1.text, credit.2)) = [("v1", "c1")] ∧
      (∀ credit ∈ s.log.credits, ∀ credit' ∈ s.log.credits,
        credit.1.serial = credit'.1.serial → credit.2 = credit'.2) ∧
      (∀ credit ∈ s.log.credits, GivenTo s.log.answered credit.1 credit.2) ∧
      ∀ id, (s.rows id).status = .acked →
        ∃ response, GivenTo s.log.answered response id ∧
          (s.rows id).response = some response.text := by
  have hcredits : (run Seam.step .init (oneAnswer ++ tickUpTo 4)).map
      (fun s => s.log.credits.map fun credit => (credit.1.text, credit.2)) =
        some [("v1", "c1")] := by decide +kernel
  have hfits : RunFits Seam.step CreditFits .init (oneAnswer ++ tickUpTo 4) := by
    decide +kernel
  obtain ⟨s, hrun, hs⟩ := Option.map_eq_some_iff.1 hcredits
  exact ⟨s, hrun, hs, responses_credited_once (oneAnswer ++ tickUpTo 4) s hfits hrun⟩

/-- **A response is credited twice**: a tick stops after it has removed the first command, and the
next one finds its response beside the second. -/
theorem response_credited_twice :
    ∃ s, run Seam.step .init (oneAnswer ++ tickUpTo 3 ++ .crash :: tickUpTo 2) = some s ∧
      s.log.credits.map (fun credit => (credit.1.serial, credit.2)) = [(0, "c1"), (0, "c2")] ∧
      s.log.answered.map (·.giver) = ["c1"] ∧ (s.rows "c2").status = .acked := by
  have hseen : (run Seam.step .init (oneAnswer ++ tickUpTo 3 ++ .crash :: tickUpTo 2)).map
      (fun s => (s.log.credits.map fun credit => (credit.1.serial, credit.2),
        s.log.answered.map (·.giver), (s.rows "c2").status)) =
      some ([(0, "c1"), (0, "c2")], ["c1"], .acked) := by decide +kernel
  obtain ⟨s, hrun, hs⟩ := Option.map_eq_some_iff.1 hseen
  exact ⟨s, hrun, congrArg (·.1) hs, congrArg (·.2.1) hs, congrArg (·.2.2) hs⟩

end Orbetra.Commands
