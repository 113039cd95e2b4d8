import Orbetra.Framework.FirstWins
import Orbetra.Settings.View

/-!
# What the device said

A reference for the settings page that looks at the answers of the device only: the newest answered
`getparam` gives the value, and the first one after a write is the verdict on it.  `currentSettings`
counts a command row as answered when its response is not null, and the dispatcher also writes its
own reasons there.

`settings_stated_iff` says exactly when the page shows what the reference says.
-/

namespace Orbetra

open SettingsView List Option Bool
open scoped MsOrder

/-! ## The history -/

/-- The reasons that `reconcile` gives for a failed command. -/
def failureReasons : List Text :=
  ["device rejected (nack)".toList, "timeout (max retries)".toList,
    "timeout (non-retryable command)".toList]

/-- The response is what the dispatcher writes with the status. -/
def CommandRow.Written (row : CommandRow) : Prop :=
  match row.status with
  | .acked => row.response.isSome
  | .failed => ∃ reason ∈ failureReasons, row.response = some reason
  | .queued | .sent | .expired => row.response = none

/-- The rows of a device, no two of the same instant. -/
structure CommandHistory where
  rows : List CommandRow
  distinct : (rows.map (·.createdAt)).Nodup
  written : ∀ row ∈ rows, row.Written

/-- The parameters that a page shows, each once and under a key of its own. -/
structure WantedParams where
  params : List ReadableParam
  param_nodup : (params.map (·.param)).Nodup
  key_nodup : (params.map (·.key)).Nodup

def CommandRow.asks (p : Text) (row : CommandRow) : Bool := p ∈ requestedIds row.text

def CommandRow.writes (p : Text) (row : CommandRow) : Bool :=
  ((setparamPairs row.text).lookup p).isSome

def CommandRow.answered (row : CommandRow) : Bool := row.status = .acked

def CommandRow.states (p : Text) (row : CommandRow) : Option ℤ :=
  row.response.bind fun response =>
    match parseGetparamReply response (requestedIds row.text) p with
    | some (some raw) => integerText raw
    | _ => none

namespace CommandHistory

variable (h : CommandHistory) (p : Text)

def newest (kind : CommandRow → Bool) : Option CommandRow :=
  (h.rows.filter kind).argmax (·.createdAt)

def oldest (kind : CommandRow → Bool) : Option CommandRow :=
  (h.rows.filter kind).argmin (·.createdAt)

def newestRead : Option CommandRow := h.newest fun row => row.answered && row.asks p

def newestWrite : Option (CommandRow × ℤ) :=
  (h.newest (CommandRow.writes p)).bind fun row =>
    ((setparamPairs row.text).lookup p).map (row, ·)

/-- The first read of the parameter after an instant that the device answered. -/
def firstRead (t : Ms) : Option CommandRow :=
  h.oldest fun row => row.answered && row.asks p && t < row.createdAt

/-- What the device has said about a write of the value `x` at the instant `t`. -/
def verdict (t : Ms) (x : ℤ) : ChangeState :=
  match (h.firstRead p t).bind (CommandRow.states p) with
  | none => .sent
  | some v => if v = x then .confirmed else .rejected

/-- The page shows what the device said. -/
def Shows (slot : CurrentSetting) : Prop :=
  slot.value = ((h.newestRead p).bind (CommandRow.states p)).map .int ∧
    ∀ w x, h.newestWrite p = some (w, x) → w.status = .acked →
      slot.state = some (h.verdict p w.createdAt x)

/-- No read of the parameter failed after an instant. -/
def ReadsSince (t : Ms) : Prop :=
  ∀ row ∈ h.rows, row.status = .failed → row.asks p → row.createdAt < t

/-- The value is shown: no read has failed since the device stated it, and it is the integer of a
double. -/
def ValueSettles : Prop :=
  ∀ a v, h.newestRead p = some a → a.states p = some v →
    h.ReadsSince p a.createdAt ∧ jsNumberOf v = .int v

/-- The verdict on a write is shown: no read failed between the write and the answer that decides,
the newest read was answered with an integer, and the numbers differ where the integers do. -/
def VerdictSettles : Prop :=
  ∀ w x b v, h.newestWrite p = some (w, x) → w.status = .acked →
    h.firstRead p w.createdAt = some b → b.states p = some v →
    (∀ row ∈ h.rows, row.status = .failed → row.asks p → w.createdAt < row.createdAt →
      b.createdAt < row.createdAt) ∧
    (∃ a, h.newestRead p = some a ∧ (a.states p).isSome ∧ h.ReadsSince p a.createdAt) ∧
    (jsNumberOf v = jsNumberOf x → v = x)

end CommandHistory

/-! ## What the passes make of one parameter -/

def CommandRow.responds (p : Text) (row : CommandRow) : Bool := row.response.isSome && row.asks p

def CommandRow.number (p : Text) (row : CommandRow) : Option JsNumber :=
  (row.states p).map jsNumberOf

namespace SettingsView

lemma statedNumber_eq (p : Text) {row : CommandRow} {response : Text}
    (h : row.response = some response) :
    statedNumber (parseGetparamReply response (requestedIds row.text)) p = row.number p := by
  unfold statedNumber CommandRow.number CommandRow.states
  rw [h, bind_some]
  cases parseGetparamReply response (requestedIds row.text) p with
  | none => rfl
  | some value => cases value <;> rfl

section Pass

variable {wanted : Text → Option Text} {p key : Text}

/-- What the first pass knows of a parameter. -/
def ReadPass.at (p key : Text) (v : ReadPass) : Option CurrentSetting × Bool × Option Ms :=
  (v.current key, decide (p ∈ v.settled), v.readAt p)

/-- What it knows once a row has settled the parameter. -/
def readSlot (p : Text) (row : CommandRow) (known : Option CurrentSetting × Bool × Option Ms) :
    Option CurrentSetting × Bool × Option Ms :=
  (known.1.map fun slot => { slot with
    checkedAt := some (row.sentAt.getD row.createdAt)
    value := row.number p }, true, some row.createdAt)

lemma ReadPass.settle_first (hkey : wanted p = some key)
    (hinj : ∀ p', wanted p' = some key → p' = p) {row : CommandRow} {response : Text}
    (hresponse : row.response = some response) :
    FirstWins (settle wanted row (parseGetparamReply response (requestedIds row.text)))
      (ReadPass.at p key) (·.2.1) (fun param => param = p) fun _ => readSlot p row := by
  refine ⟨fun _ _ _ => rfl, fun v param => ?_⟩
  unfold settle
  by_cases hparam : param = p
  · subst hparam
    rw [hkey]
    by_cases hsettled : param ∈ v.settled
    · simp [hsettled, ReadPass.at]
    · simp [hsettled, ReadPass.at, readSlot, statedNumber_eq param hresponse]
  · rw [if_neg (by simp [hparam])]
    cases hwanted : wanted param with
    | none => rfl
    | some key' =>
      have hne : key ≠ key' := by
        rintro rfl
        exact hparam (hinj param hwanted)
      dsimp only
      split
      · rfl
      · simp [ReadPass.at, Function.update_of_ne hne, Ne.symm hparam]

lemma ReadPass.row_first (hkey : wanted p = some key)
    (hinj : ∀ p', wanted p' = some key → p' = p) :
    FirstWins (ReadPass.row wanted) (ReadPass.at p key) (·.2.1) (CommandRow.responds p)
      (readSlot p) := by
  refine ⟨fun _ _ _ => rfl, fun v row => ?_⟩
  unfold ReadPass.row CommandRow.responds CommandRow.asks
  cases hresponse : row.response with
  | none => simp
  | some response =>
    dsimp only
    split
    · rename_i hnil
      simp [hnil]
    · rw [(settle_first hkey hinj hresponse).foldl_first]
      cases hfind : (requestedIds row.text).find? (fun param => decide (param = p)) with
      | none =>
        have hasks : p ∉ requestedIds row.text := fun hmem => by
          simpa using find?_eq_none.1 hfind p hmem
        simp [hasks]
      | some param =>
        have hasks : p ∈ requestedIds row.text := by
          obtain rfl : param = p := by simpa using find?_some hfind
          exact mem_of_find?_eq_some hfind
        cases hsettled : (ReadPass.at p key v).2.1 <;> simp [hasks]

/-- What the second pass knows of a parameter. -/
def WritePass.at (p key : Text) (v : WritePass) : Option CurrentSetting × Bool :=
  (v.current key, decide (p ∈ v.claimed))

/-- What it knows once a row has claimed the parameter. -/
def writeSlot (oldestFirst : List CommandRow) (readAt : Text → Option Ms) (p : Text)
    (row : CommandRow) (x : ℤ) (known : Option CurrentSetting × Bool) :
    Option CurrentSetting × Bool :=
  (known.1.map fun slot => { slot with
    requested := some (jsNumberOf x)
    state := some (changeState oldestFirst readAt row p (jsNumberOf x) slot.value) }, true)

lemma lookup_eq_find? {α : Type} (pairs : List (Text × α)) (p : Text) :
    pairs.lookup p = (pairs.find? fun pair => decide (pair.1 = p)).map (·.2) := by
  induction pairs with
  | nil => rfl
  | cons pair pairs ih =>
    rw [lookup_cons, find?_cons]
    by_cases h : p = pair.1
    · simp [h]
    · rw [beq_false_of_ne h, ih]
      simp [Ne.symm h]

lemma WritePass.claim_first (hkey : wanted p = some key)
    (hinj : ∀ p', wanted p' = some key → p' = p) (oldestFirst : List CommandRow)
    (readAt : Text → Option Ms) (row : CommandRow) :
    FirstWins (claim wanted oldestFirst readAt row) (WritePass.at p key) (·.2)
      (fun pair => pair.1 = p) fun pair => writeSlot oldestFirst readAt p row pair.2 := by
  refine ⟨fun _ _ _ => rfl, fun v pair => ?_⟩
  obtain ⟨param, x⟩ := pair
  unfold claim
  dsimp only
  by_cases hparam : param = p
  · subst hparam
    rw [hkey]
    by_cases hclaimed : param ∈ v.claimed
    · simp [hclaimed, WritePass.at]
    · simp [hclaimed, WritePass.at, writeSlot]
  · rw [if_neg (by simp [hparam])]
    cases hwanted : wanted param with
    | none => rfl
    | some key' =>
      have hne : key ≠ key' := by
        rintro rfl
        exact hparam (hinj param hwanted)
      dsimp only
      split
      · rfl
      · simp [WritePass.at, Function.update_of_ne hne, Ne.symm hparam]

lemma WritePass.row_first (hkey : wanted p = some key)
    (hinj : ∀ p', wanted p' = some key → p' = p) (oldestFirst : List CommandRow)
    (readAt : Text → Option Ms) :
    FirstWins (WritePass.row wanted oldestFirst readAt) (WritePass.at p key) (·.2)
      (CommandRow.writes p) fun row =>
        writeSlot oldestFirst readAt p row (((setparamPairs row.text).lookup p).getD 0) := by
  refine ⟨fun _ _ _ => rfl, fun v row => ?_⟩
  unfold WritePass.row CommandRow.writes
  rw [(claim_first hkey hinj oldestFirst readAt row).foldl_first, lookup_eq_find?]
  cases hfind : (setparamPairs row.text).find? (fun pair => decide (pair.1 = p)) with
  | none => simp
  | some pair => cases hclaimed : (WritePass.at p key v).2 <;> simp

end Pass

/-! ## Newest and oldest -/

section Order

variable {h : CommandHistory} {kind : CommandRow → Bool}

variable {row : CommandRow}

lemma mem_newestFirst {history : List CommandRow} :
    row ∈ newestFirst history ↔ row ∈ history := mem_insertionSort _

lemma sorted_newestFirst (history : List CommandRow) :
    (newestFirst history).Pairwise fun a b => b.createdAt ≤ a.createdAt :=
  pairwise_insertionSort _ _

lemma eq_of_createdAt {a b : CommandRow} (ha : a ∈ h.rows) (hb : b ∈ h.rows)
    (hab : a.createdAt = b.createdAt) : a = b :=
  inj_on_of_nodup_map h.distinct ha hb hab

lemma newest_eq_some :
    h.newest kind = some row ↔ row ∈ h.rows ∧ kind row ∧
      ∀ x ∈ h.rows, kind x → x.createdAt ≤ row.createdAt := by
  constructor
  · intro hnewest
    obtain ⟨hrow, hkind⟩ := mem_filter.1 (argmax_mem hnewest)
    exact ⟨hrow, hkind, fun x hx hxkind =>
      le_of_mem_argmax (mem_filter.2 ⟨hx, hxkind⟩) hnewest⟩
  · rintro ⟨hrow, hkind, hmax⟩
    have hmem : row ∈ h.rows.filter kind := mem_filter.2 ⟨hrow, hkind⟩
    cases hnewest : h.newest kind with
    | none => exact absurd (argmax_eq_none.1 hnewest ▸ hmem) not_mem_nil
    | some m =>
      obtain ⟨hm, hmkind⟩ := mem_filter.1 (argmax_mem hnewest)
      have hle := le_of_mem_argmax hmem hnewest
      exact congrArg some (eq_of_createdAt hm hrow (le_antisymm (hmax m hm hmkind) hle))

lemma oldest_eq_some :
    h.oldest kind = some row ↔ row ∈ h.rows ∧ kind row ∧
      ∀ x ∈ h.rows, kind x → row.createdAt ≤ x.createdAt := by
  constructor
  · intro holdest
    obtain ⟨hrow, hkind⟩ := mem_filter.1 (argmin_mem holdest)
    exact ⟨hrow, hkind, fun x hx hxkind =>
      le_of_mem_argmin (mem_filter.2 ⟨hx, hxkind⟩) holdest⟩
  · rintro ⟨hrow, hkind, hmin⟩
    have hmem : row ∈ h.rows.filter kind := mem_filter.2 ⟨hrow, hkind⟩
    cases holdest : h.oldest kind with
    | none => exact absurd (argmin_eq_none.1 holdest ▸ hmem) not_mem_nil
    | some m =>
      obtain ⟨hm, hmkind⟩ := mem_filter.1 (argmin_mem holdest)
      have hle := le_of_mem_argmin hmem holdest
      exact congrArg some (eq_of_createdAt hm hrow (le_antisymm hle (hmin m hm hmkind)))

lemma newest_eq_none : h.newest kind = none ↔ ∀ x ∈ h.rows, kind x = false := by
  rw [CommandHistory.newest, argmax_eq_none, filter_eq_nil_iff]
  simp

lemma oldest_eq_none : h.oldest kind = none ↔ ∀ x ∈ h.rows, kind x = false := by
  rw [CommandHistory.oldest, argmin_eq_none, filter_eq_nil_iff]
  simp

lemma find?_newestFirst : (newestFirst h.rows).find? kind = h.newest kind := by
  cases hfind : (newestFirst h.rows).find? kind with
  | none =>
    refine (newest_eq_none.2 fun row hrow => ?_).symm
    simpa using find?_eq_none.1 hfind row (mem_newestFirst.2 hrow)
  | some row =>
    obtain ⟨hkind, before, after, hrows, hbefore⟩ := find?_eq_some_iff_append.1 hfind
    refine (newest_eq_some.2 ⟨?_, hkind, fun x hx hxkind => ?_⟩).symm
    · exact mem_newestFirst.1 (hrows ▸ by simp)
    · have hsorted := sorted_newestFirst h.rows
      rw [hrows] at hsorted
      rcases mem_append.1 (hrows ▸ mem_newestFirst.2 hx) with hx | hx
      · simp at hbefore
        exact absurd hxkind (by simp [hbefore x hx])
      · rcases mem_cons.1 hx with rfl | hx
        · exact le_rfl
        · exact (pairwise_cons.1 (pairwise_append.1 hsorted).2.1).1 x hx

lemma find?_oldestFirst : (newestFirst h.rows).reverse.find? kind = h.oldest kind := by
  cases hfind : (newestFirst h.rows).reverse.find? kind with
  | none =>
    refine (oldest_eq_none.2 fun row hrow => ?_).symm
    have hmem := mem_reverse.2 (mem_newestFirst.2 hrow)
    simpa using find?_eq_none.1 hfind row hmem
  | some row =>
    obtain ⟨hkind, before, after, hrows, hbefore⟩ := find?_eq_some_iff_append.1 hfind
    refine (oldest_eq_some.2 ⟨?_, hkind, fun x hx hxkind => ?_⟩).symm
    · exact mem_newestFirst.1 (mem_reverse.1 (hrows ▸ by simp))
    · have hsorted := pairwise_reverse.2 (sorted_newestFirst h.rows)
      rw [hrows] at hsorted
      rcases mem_append.1 (hrows ▸ mem_reverse.2 (mem_newestFirst.2 hx)) with hx | hx
      · exact absurd hxkind (by simpa using hbefore x hx)
      · rcases mem_cons.1 hx with rfl | hx
        · exact le_rfl
        · exact (pairwise_cons.1 (pairwise_append.1 hsorted).2.1).1 x hx

end Order

/-! ## The page -/

section Page

variable {h : CommandHistory} {available : WantedParams} {s : ReadableParam}

lemma wantedKey_of_mem (hs : s ∈ available.params) :
    wantedKey available.params s.param = some s.key := by
  unfold wantedKey
  cases hfind : available.params.reverse.find? (fun t => decide (t.param = s.param)) with
  | none =>
    have := find?_eq_none.1 hfind s (mem_reverse.2 hs)
    simp at this
  | some t =>
    have ht := mem_reverse.1 (mem_of_find?_eq_some hfind)
    have hparam : t.param = s.param := by simpa using find?_some hfind
    rw [inj_on_of_nodup_map available.param_nodup ht hs hparam]
    rfl

lemma param_of_wantedKey (hs : s ∈ available.params) {p : Text}
    (hp : wantedKey available.params p = some s.key) : p = s.param := by
  obtain ⟨t, hfind, hkey⟩ := map_eq_some_iff.1 hp
  have ht := mem_reverse.1 (mem_of_find?_eq_some hfind)
  have hparam : t.param = p := by simpa using find?_some hfind
  rw [← hparam, inj_on_of_nodup_map available.key_nodup ht hs hkey]

lemma firstReadAfter_eq (p : Text) (t : Ms) :
    firstReadAfter (newestFirst h.rows).reverse p t =
      (h.oldest fun row => row.responds p && t < row.createdAt).map (CommandRow.number p) := by
  rw [← find?_oldestFirst]
  unfold firstReadAfter
  induction (newestFirst h.rows).reverse with
  | nil => rfl
  | cons row rows ih =>
    rw [findSome?_cons, find?_cons]
    have hresponds : row.responds p = (row.response.isSome && decide (p ∈ requestedIds row.text)) :=
      rfl
    cases hresponse : row.response with
    | none => simpa [hresponds, hresponse] using ih
    | some response =>
      by_cases hlater : t < row.createdAt
      · by_cases hasks : p ∈ requestedIds row.text
        · simp [hresponds, hresponse, hlater, hasks, not_le.2 hlater, statedNumber_eq p hresponse]
        · simpa [hresponds, hresponse, hlater, hasks, not_le.2 hlater] using ih
      · simpa [hresponds, hlater, not_lt.1 hlater] using ih

/-- What the page shows of a parameter, from the newest and oldest rows. -/
def slotOf (h : CommandHistory) (p : Text) : CurrentSetting :=
  let read := h.newest (CommandRow.responds p)
  let value := read.bind (CommandRow.number p)
  { value := value
    checkedAt := read.map fun row => row.sentAt.getD row.createdAt
    requested := (h.newestWrite p).map fun w => jsNumberOf w.2
    state := (h.newestWrite p).map fun w =>
      changeState (newestFirst h.rows).reverse (fun _ => read.map (·.createdAt)) w.1 p
        (jsNumberOf w.2) value }

/-- **The page.** -/
lemma currentSettings_eq (hs : s ∈ available.params) :
    currentSettings available.params h.rows s.key = some (slotOf h s.param) := by
  have hkey := wantedKey_of_mem hs
  have hinj : ∀ p, wantedKey available.params p = some s.key → p = s.param := fun p =>
    param_of_wantedKey hs
  have hstart : s.key ∈ available.params.map (·.key) := mem_map.2 ⟨s, hs, rfl⟩
  unfold currentSettings
  set empty := fun key =>
    if key ∈ available.params.map (·.key) then some CurrentSetting.unknown else none with hempty
  have hread := (ReadPass.row_first hkey hinj).foldl_first (newestFirst h.rows)
    ⟨empty, [], fun _ => none⟩
  rw [find?_newestFirst] at hread
  set read := (newestFirst h.rows).foldl (ReadPass.row (wantedKey available.params))
    ⟨empty, [], fun _ => none⟩ with hreadPass
  have hwrite := (WritePass.row_first hkey hinj (newestFirst h.rows).reverse read.readAt).foldl_first
    (newestFirst h.rows) ⟨read.current, []⟩
  rw [find?_newestFirst] at hwrite
  have hunknown : empty s.key = some .unknown := if_pos hstart
  obtain ⟨hcurrent, hreadAt⟩ : read.current s.key = some
        { CurrentSetting.unknown with
          value := (h.newest (CommandRow.responds s.param)).bind (CommandRow.number s.param)
          checkedAt := (h.newest (CommandRow.responds s.param)).map
            fun row => row.sentAt.getD row.createdAt } ∧
      read.readAt s.param = (h.newest (CommandRow.responds s.param)).map (·.createdAt) := by
    simp only [ReadPass.at, not_mem_nil, decide_false, false_eq_true, if_false] at hread
    cases hnewest : h.newest (CommandRow.responds s.param) with
    | none =>
      simp only [hnewest, elim_none, hunknown, Prod.mk.injEq] at hread
      exact ⟨hread.1, hread.2.2⟩
    | some row =>
      simp only [hnewest, elim_some, readSlot, hunknown, Prod.mk.injEq] at hread
      exact ⟨hread.1, hread.2.2⟩
  refine (congrArg Prod.fst hwrite).trans ?_
  simp only [WritePass.at, not_mem_nil, decide_false, false_eq_true, if_false, hcurrent]
  unfold slotOf CommandHistory.newestWrite
  cases hwrites : h.newest (CommandRow.writes s.param) with
  | none => rfl
  | some row =>
    have hpair : ((setparamPairs row.text).lookup s.param).isSome := (newest_eq_some.1 hwrites).2.1
    obtain ⟨x, hx⟩ := isSome_iff_exists.1 hpair
    simp only [elim_some, writeSlot, hx, getD_some, map_some, bind_some]
    congr 2
    congr 1
    unfold changeState
    rw [hreadAt]

end Page

/-! ## Answers and failures -/

section Settles

variable {h : CommandHistory} {p : Text} {row : CommandRow}

/-- The platform's own reasons state nothing. -/
lemma states_of_failed (hrow : row ∈ h.rows) (hfailed : row.status = .failed) :
    row.states p = none := by
  have hwritten := h.written row hrow
  unfold CommandRow.Written at hwritten
  rw [hfailed] at hwritten
  obtain ⟨reason, hreason, hresponse⟩ := hwritten
  have hhead : ∀ reason ∈ failureReasons, findHead (trim reason) = none := by decide +kernel
  have hparse : parseGetparamReply reason (requestedIds row.text) p = none := by
    unfold parseGetparamReply
    rw [hhead reason hreason]
    split <;> rfl
  rw [CommandRow.states, hresponse, bind_some, hparse]

lemma responds_iff (hrow : row ∈ h.rows) :
    row.responds p ↔ (row.answered ∨ row.status = .failed) ∧ row.asks p := by
  have hwritten := h.written row hrow
  unfold CommandRow.Written at hwritten
  unfold CommandRow.responds CommandRow.answered
  cases hstatus : row.status with
  | acked =>
    rw [hstatus] at hwritten
    simp [hwritten]
  | failed =>
    rw [hstatus] at hwritten
    obtain ⟨reason, -, hresponse⟩ := hwritten
    simp [hresponse]
  | queued =>
    rw [hstatus] at hwritten
    simp [hwritten]
  | sent =>
    rw [hstatus] at hwritten
    simp [hwritten]
  | expired =>
    rw [hstatus] at hwritten
    simp [hwritten]

lemma answered_of_states (hrow : row ∈ h.rows) (hresponds : row.responds p)
    (hstates : (row.states p).isSome) : row.answered ∧ row.asks p := by
  obtain ⟨hanswered | hfailed, hasks⟩ := (responds_iff hrow).1 hresponds
  · exact ⟨hanswered, hasks⟩
  · rw [states_of_failed hrow hfailed] at hstates
    cases hstates

lemma createdAt_ne {row' : CommandRow} (hrow : row ∈ h.rows) (hanswered : row.answered)
    (hrow' : row' ∈ h.rows) (hfailed : row'.status = .failed) :
    row.createdAt ≠ row'.createdAt := by
  intro heq
  rw [← eq_of_createdAt hrow hrow' heq] at hfailed
  simp [CommandRow.answered, hfailed] at hanswered

/-- The newest row that responds states something, exactly when it is the newest answer and no read
has failed since. -/
lemma newest_responds {a : CommandRow} (hstates : (a.states p).isSome) :
    h.newest (CommandRow.responds p) = some a ↔
      h.newestRead p = some a ∧ h.ReadsSince p a.createdAt := by
  rw [CommandHistory.newestRead, newest_eq_some, newest_eq_some]
  constructor
  · rintro ⟨ha, hresponds, hmax⟩
    obtain ⟨hanswered, hasks⟩ := answered_of_states ha hresponds hstates
    refine ⟨⟨ha, by simp [hanswered, hasks], fun x hx hxread => ?_⟩, fun x hx hfailed hxasks => ?_⟩
    · rw [and_eq_true] at hxread
      exact hmax x hx ((responds_iff hx).2 ⟨.inl hxread.1, hxread.2⟩)
    · have hle := hmax x hx ((responds_iff hx).2 ⟨.inr hfailed, hxasks⟩)
      exact lt_of_le_of_ne hle (createdAt_ne ha hanswered hx hfailed).symm
  · rintro ⟨⟨ha, hread, hmax⟩, hsince⟩
    rw [and_eq_true] at hread
    refine ⟨ha, (responds_iff ha).2 ⟨.inl hread.1, hread.2⟩, fun x hx hxresponds => ?_⟩
    obtain ⟨hanswered | hfailed, hxasks⟩ := (responds_iff hx).1 hxresponds
    · exact hmax x hx (by simp [hanswered, hxasks])
    · exact (hsince x hx hfailed hxasks).le

lemma oldest_responds {b : CommandRow} (t : Ms) (hstates : (b.states p).isSome) :
    (h.oldest fun row => row.responds p && t < row.createdAt) = some b ↔
      h.firstRead p t = some b ∧ ∀ row ∈ h.rows, row.status = .failed → row.asks p →
        t < row.createdAt → b.createdAt < row.createdAt := by
  rw [CommandHistory.firstRead, oldest_eq_some, oldest_eq_some]
  simp only [and_eq_true, decide_eq_true_eq]
  constructor
  · rintro ⟨hb, ⟨hresponds, hlater⟩, hmin⟩
    obtain ⟨hanswered, hasks⟩ := answered_of_states hb hresponds hstates
    refine ⟨⟨hb, ⟨⟨hanswered, hasks⟩, hlater⟩, fun x hx hxread => ?_⟩,
      fun x hx hfailed hxasks hxlater => ?_⟩
    · exact hmin x hx ⟨(responds_iff hx).2 ⟨.inl hxread.1.1, hxread.1.2⟩, hxread.2⟩
    · have hle := hmin x hx ⟨(responds_iff hx).2 ⟨.inr hfailed, hxasks⟩, hxlater⟩
      exact lt_of_le_of_ne hle (createdAt_ne hb hanswered hx hfailed)
  · rintro ⟨⟨hb, ⟨⟨hanswered, hasks⟩, hlater⟩, hmin⟩, hclear⟩
    refine ⟨hb, ⟨(responds_iff hb).2 ⟨.inl hanswered, hasks⟩, hlater⟩, fun x hx hxresponds => ?_⟩
    obtain ⟨hxanswered | hfailed, hxasks⟩ := (responds_iff hx).1 hxresponds.1
    · exact hmin x hx ⟨⟨hxanswered, hxasks⟩, hxresponds.2⟩
    · exact (hclear x hx hfailed hxasks hxresponds.2).le

variable {n : JsNumber} {w : CommandRow}

lemma number_eq_some : row.number p = some n ↔ ∃ v, row.states p = some v ∧ jsNumberOf v = n :=
  map_eq_some_iff

lemma value_eq_some :
    (h.newest (CommandRow.responds p)).bind (CommandRow.number p) = some n ↔
      ∃ a v, h.newestRead p = some a ∧ a.states p = some v ∧ h.ReadsSince p a.createdAt ∧
        jsNumberOf v = n := by
  constructor
  · intro hvalue
    obtain ⟨a, ha, hn⟩ := bind_eq_some_iff.1 hvalue
    obtain ⟨v, hv, hn⟩ := number_eq_some.1 hn
    obtain ⟨hread, hsince⟩ := (newest_responds (by simp [hv])).1 ha
    exact ⟨a, v, hread, hv, hsince, hn⟩
  · rintro ⟨a, v, hread, hv, hsince, hn⟩
    have ha := (newest_responds (h := h) (by simp [hv])).2 ⟨hread, hsince⟩
    exact bind_eq_some_iff.2 ⟨a, ha, number_eq_some.2 ⟨v, hv, hn⟩⟩

lemma value_iff :
    (slotOf h p).value = ((h.newestRead p).bind (CommandRow.states p)).map .int ↔
      h.ValueSettles p := by
  unfold slotOf CommandHistory.ValueSettles
  dsimp only
  constructor
  · intro hvalue a v ha hv
    rw [ha, bind_some, hv, map_some, value_eq_some] at hvalue
    obtain ⟨a', v', ha', hv', hsince, hn⟩ := hvalue
    cases ha.symm.trans ha'
    cases hv.symm.trans hv'
    exact ⟨hsince, hn⟩
  · intro hsettles
    cases hread : h.newestRead p with
    | none =>
      rw [bind_none, map_none, eq_none_iff_forall_ne_some]
      intro n hn
      obtain ⟨a, v, ha, -⟩ := value_eq_some.1 hn
      cases hread.symm.trans ha
    | some a =>
      rw [bind_some]
      cases hv : a.states p with
      | none =>
        rw [map_none, eq_none_iff_forall_ne_some]
        intro n hn
        obtain ⟨a', v', ha', hv', -⟩ := value_eq_some.1 hn
        cases hread.symm.trans ha'
        cases hv.symm.trans hv'
      | some v =>
        obtain ⟨hsince, hn⟩ := hsettles a v hread hv
        exact value_eq_some.2 ⟨a, v, hread, hv, hsince, hn⟩

lemma firstReadAfter_eq_some {t : Ms} :
    firstReadAfter (newestFirst h.rows).reverse p t = some (some n) ↔
      ∃ b v, h.firstRead p t = some b ∧ b.states p = some v ∧
        (∀ row ∈ h.rows, row.status = .failed → row.asks p → t < row.createdAt →
          b.createdAt < row.createdAt) ∧ jsNumberOf v = n := by
  rw [firstReadAfter_eq]
  constructor
  · intro hfirst
    obtain ⟨b, hb, hn⟩ := map_eq_some_iff.1 hfirst
    obtain ⟨v, hv, hn⟩ := number_eq_some.1 hn
    obtain ⟨hread, hclear⟩ := (oldest_responds t (by simp [hv])).1 hb
    exact ⟨b, v, hread, hv, hclear, hn⟩
  · rintro ⟨b, v, hread, hv, hclear, hn⟩
    have hb := (oldest_responds (h := h) t (by simp [hv])).2 ⟨hread, hclear⟩
    exact map_eq_some_iff.2 ⟨b, hb, number_eq_some.2 ⟨v, hv, hn⟩⟩

lemma changeState_of_acked {requested : JsNumber} (hw : w.status = .acked) :
    changeState (newestFirst h.rows).reverse
        (fun _ => (h.newest (CommandRow.responds p)).map (·.createdAt)) w p requested
        (slotOf h p).value =
      if (slotOf h p).value = none ∨
          (h.newest (CommandRow.responds p)).all (fun row => row.createdAt < w.createdAt) then .sent
      else
        match firstReadAfter (newestFirst h.rows).reverse p w.createdAt with
        | none | some none => .sent
        | some (some verdict) => if verdict = requested then .confirmed else .rejected := by
  unfold changeState
  rw [hw]
  cases h.newest (CommandRow.responds p) <;> rfl

lemma verdict_iff {x : ℤ} (hw : w.status = .acked) :
    changeState (newestFirst h.rows).reverse
        (fun _ => (h.newest (CommandRow.responds p)).map (·.createdAt)) w p (jsNumberOf x)
        (slotOf h p).value = h.verdict p w.createdAt x ↔
      ∀ b v, h.firstRead p w.createdAt = some b → b.states p = some v →
        (∀ row ∈ h.rows, row.status = .failed → row.asks p → w.createdAt < row.createdAt →
          b.createdAt < row.createdAt) ∧
        (∃ a, h.newestRead p = some a ∧ (a.states p).isSome ∧ h.ReadsSince p a.createdAt) ∧
        (jsNumberOf v = jsNumberOf x → v = x) := by
  rw [changeState_of_acked hw]
  unfold CommandHistory.verdict
  cases hstated : (h.firstRead p w.createdAt).bind (CommandRow.states p) with
  | none =>
    -- nothing has been said: the page cannot have read anything either
    refine iff_of_true ?_ fun b v hb hv => ?_
    · split
      · rfl
      · cases hfirst : firstReadAfter (newestFirst h.rows).reverse p w.createdAt with
        | none => rfl
        | some number =>
          cases number with
          | none => rfl
          | some n =>
            obtain ⟨b, v, hb, hv, -⟩ := firstReadAfter_eq_some.1 hfirst
            rw [hb, bind_some, hv] at hstated
            cases hstated
    · rw [hb, bind_some, hv] at hstated
      cases hstated
  | some v =>
    obtain ⟨b, hb, hv⟩ := bind_eq_some_iff.1 hstated
    have hsays : (if v = x then ChangeState.confirmed else .rejected) ≠ .sent := by
      split <;> simp
    constructor
    · intro hstate b' v' hb' hv'
      cases hb.symm.trans hb'
      cases hv.symm.trans hv'
      split at hstate
      · exact absurd hstate.symm hsays
      rename_i hread
      obtain ⟨hvalue, -⟩ := not_or.1 hread
      split at hstate
      · exact absurd hstate.symm hsays
      · exact absurd hstate.symm hsays
      rename_i n hfirst
      obtain ⟨b'', v'', hb'', hv'', hclear, hn⟩ := firstReadAfter_eq_some.1 hfirst
      cases hb.symm.trans hb''
      cases hv.symm.trans hv''
      obtain ⟨m, hm⟩ := ne_none_iff_exists'.1 hvalue
      obtain ⟨a, u, ha, hu, hsince, -⟩ := value_eq_some.1 hm
      refine ⟨hclear, ⟨a, ha, by simp [hu], hsince⟩, fun hsame => ?_⟩
      rw [← hn, if_pos hsame] at hstate
      by_contra hne
      simp [hne] at hstate
    · intro hsettles
      obtain ⟨hclear, ⟨a, ha, hastates, hsince⟩, hsame⟩ := hsettles b v hb hv
      obtain ⟨u, hu⟩ := isSome_iff_exists.1 hastates
      have hnewest := (newest_responds hastates).2 ⟨ha, hsince⟩
      have hvalue : (slotOf h p).value = some (jsNumberOf u) :=
        value_eq_some.2 ⟨a, u, ha, hu, hsince, rfl⟩
      have hfirst := firstReadAfter_eq_some.2 ⟨b, v, hb, hv, hclear, rfl⟩
      have hlater : ¬ a.createdAt < w.createdAt := by
        obtain ⟨hbrow, hbread, -⟩ := oldest_eq_some.1 hb
        simp only [and_eq_true, decide_eq_true_eq] at hbread
        have hle := (newest_eq_some.1 ha).2.2 b hbrow (by simp [hbread.1])
        exact not_lt.2 (hbread.2.le.trans hle)
      rw [if_neg (by simp [hvalue, hnewest, hlater]), hfirst]
      dsimp only
      by_cases hvx : v = x
      · rw [if_pos (congrArg jsNumberOf hvx), if_pos hvx]
      · rw [if_neg (mt hsame hvx), if_neg hvx]

/-- **What the page shows** is what the device said, exactly when the reads settle it. -/
lemma shows_iff : h.Shows p (slotOf h p) ↔ h.ValueSettles p ∧ h.VerdictSettles p := by
  unfold CommandHistory.Shows CommandHistory.VerdictSettles
  refine and_congr value_iff ?_
  constructor
  · intro hstate w x b v hwrite hw
    have hone := hstate w x hwrite hw
    unfold slotOf at hone
    rw [hwrite, map_some] at hone
    exact (verdict_iff hw).1 (some.inj hone) b v
  · intro hsettles w x hwrite hw
    unfold slotOf
    rw [hwrite, map_some]
    exact congrArg some ((verdict_iff hw).2 fun b v hb hv => hsettles w x b v hwrite hw hb hv)

/-! ## Other parameters -/

def SameRows (h h' : CommandHistory) (p : Text) : Prop :=
  (h.rows.filter fun row => row.asks p || row.writes p).Perm
    (h'.rows.filter fun row => row.asks p || row.writes p)

variable {h' : CommandHistory} {kind : CommandRow → Bool}

lemma SameRows.mem_iff (hsame : SameRows h h' p) (hkind : row.asks p ∨ row.writes p) :
    row ∈ h.rows ↔ row ∈ h'.rows := by
  have hmem := Perm.mem_iff hsame (a := row)
  simpa [mem_filter, hkind] using hmem

lemma SameRows.newest (hsame : SameRows h h' p)
    (hkind : ∀ row, kind row → row.asks p ∨ row.writes p) : h.newest kind = h'.newest kind := by
  refine ext fun row => ?_
  rw [newest_eq_some, newest_eq_some]
  constructor
  · rintro ⟨hrow, hone, hmax⟩
    exact ⟨(hsame.mem_iff (hkind row hone)).1 hrow, hone, fun x hx hxkind =>
      hmax x ((hsame.mem_iff (hkind x hxkind)).2 hx) hxkind⟩
  · rintro ⟨hrow, hone, hmax⟩
    exact ⟨(hsame.mem_iff (hkind row hone)).2 hrow, hone, fun x hx hxkind =>
      hmax x ((hsame.mem_iff (hkind x hxkind)).1 hx) hxkind⟩

lemma SameRows.oldest (hsame : SameRows h h' p)
    (hkind : ∀ row, kind row → row.asks p ∨ row.writes p) : h.oldest kind = h'.oldest kind := by
  refine ext fun row => ?_
  rw [oldest_eq_some, oldest_eq_some]
  constructor
  · rintro ⟨hrow, hone, hmin⟩
    exact ⟨(hsame.mem_iff (hkind row hone)).1 hrow, hone, fun x hx hxkind =>
      hmin x ((hsame.mem_iff (hkind x hxkind)).2 hx) hxkind⟩
  · rintro ⟨hrow, hone, hmin⟩
    exact ⟨(hsame.mem_iff (hkind row hone)).2 hrow, hone, fun x hx hxkind =>
      hmin x ((hsame.mem_iff (hkind x hxkind)).1 hx) hxkind⟩

lemma SameRows.slot (hsame : SameRows h h' p) : slotOf h p = slotOf h' p := by
  have hresponds : ∀ row : CommandRow, row.responds p → row.asks p ∨ row.writes p := by
    intro row hrow
    exact .inl (and_eq_true _ _ ▸ hrow).2
  have hread := hsame.newest hresponds
  have hwrite : h.newestWrite p = h'.newestWrite p :=
    congrArg (bind · _) (hsame.newest fun row hrow => .inr hrow)
  have hfirst : ∀ t, firstReadAfter (newestFirst h.rows).reverse p t =
      firstReadAfter (newestFirst h'.rows).reverse p t := by
    intro t
    rw [firstReadAfter_eq, firstReadAfter_eq]
    refine congrArg _ (hsame.oldest fun row hrow => hresponds row ?_)
    rw [and_eq_true] at hrow
    exact hrow.1
  unfold slotOf changeState
  simp only [hread, hwrite, hfirst]

end Settles

end SettingsView

/-- **The page shows what the device said** of every wanted parameter, exactly when its reads settle
it: no read of the parameter failed after the answer that counts.  Rows of other parameters, and the
order of the rows, change nothing. -/
theorem settings_stated_iff (available : WantedParams) (h : CommandHistory) :
    ((∀ s ∈ available.params, ∃ slot,
        currentSettings available.params h.rows s.key = some slot ∧ h.Shows s.param slot) ↔
      ∀ s ∈ available.params, h.ValueSettles s.param ∧ h.VerdictSettles s.param) ∧
    ∀ h' : CommandHistory, ∀ s ∈ available.params, SameRows h h' s.param →
      currentSettings available.params h.rows s.key =
        currentSettings available.params h'.rows s.key := by
  constructor
  · constructor
    · intro hshows s hs
      obtain ⟨slot, hslot, hslotShows⟩ := hshows s hs
      rw [currentSettings_eq hs] at hslot
      cases hslot
      exact shows_iff.1 hslotShows
    · intro hsettles s hs
      exact ⟨slotOf h s.param, currentSettings_eq hs, shows_iff.2 (hsettles s hs)⟩
  · intro h' s hs hsame
    rw [currentSettings_eq hs, currentSettings_eq hs, hsame.slot]

def timedOutRead : CommandHistory where
  rows :=
    [⟨"getparam 10055".toList, .acked, some "Param ID:10055 Value:30".toList, 1000, some 1000⟩,
      ⟨"getparam 10055".toList, .failed, some "timeout (max retries)".toList, 2000, some 2000⟩]
  distinct := by decide
  written := by
    simp only [forall_mem_cons, CommandRow.Written]
    exact ⟨rfl, ⟨_, by decide, rfl⟩, fun _ h => absurd h not_mem_nil⟩

def sendPeriod : WantedParams where
  params := [⟨"10055".toList, "movingSendPeriod".toList⟩]
  param_nodup := nodup_singleton _
  key_nodup := nodup_singleton _

/-- **A read that timed out hides the value** that the device stated before. -/
theorem timed_out_read_hides :
    ¬ ∀ s ∈ sendPeriod.params, ∃ slot,
      currentSettings sendPeriod.params timedOutRead.rows s.key = some slot ∧
        timedOutRead.Shows s.param slot := by
  intro h
  obtain ⟨slot, hslot, hvalue, -⟩ := h _ mem_cons_self
  have hpage : (currentSettings sendPeriod.params timedOutRead.rows
      "movingSendPeriod".toList).map (·.value) = some none := by
    decide +kernel
  have hstated : ((timedOutRead.newestRead "10055".toList).bind
      (CommandRow.states "10055".toList)) = some 30 := by
    decide +kernel
  rw [hslot] at hpage
  have hnone : slot.value = none := some.inj hpage
  rw [hnone, hstated] at hvalue
  cases hvalue

end Orbetra
