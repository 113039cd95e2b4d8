import Orbetra.Devices.Quarantine

/-!
# An IMEI and its next owner

A device that is created under an IMEI that others have had receives what their tracker still sends.
The guard of `create` reads who they are, and the index refuses the insert where one of them is live
by then.  A row that was inserted after that read, and retired before the insert, is seen by
neither.

That is the only way: whoever inserts a row is entitled to the IMEI exactly where no row of that
kind is there (`entitled_iff`). -/

namespace Orbetra.Takeover

open List Function Async

variable {ι : Type} [DecidableEq ι] {setting : Setting}

/-! ## What a step does to the devices -/

/-- The same row, perhaps retired since. -/
def Device.Same (row row' : Device) : Prop :=
  row'.id = row.id ∧ row'.tenantId = row.tenantId ∧ row'.accountId = row.accountId ∧
    row'.imei = row.imei

def Claims (calls : ι → FleetCall) (i : ι) (imei : String) : Prop :=
  ∃ input, calls i = .claim input ∧ input.imei = imei

/-- Rows are of accounts of their tenants; what a guard has read is older than what is inserted
next; and only claims look into the quarantine. -/
structure FleetInv (setting : Setting) (calls : ι → FleetCall) (s : Fleet ι) : Prop where
  owned : ∀ row ∈ s.devices.rows, setting.tenantOf row.accountId = some row.tenantId
  seen : ∀ i, ∀ id ∈ s.seen i, id < s.devices.nextId
  found : ∀ q ∈ s.found, Claims calls q.1 q.2

/-- What every step does. -/
structure Onward (setting : Setting) (calls : ι → FleetCall) (s s' : Fleet ι) : Prop where
  inv : FleetInv setting calls s → FleetInv setting calls s'
  rows : ∀ row' ∈ s'.devices.rows, (∃ row ∈ s.devices.rows, row.Same row') ∨
    s.devices.nextId ≤ row'.id
  found : ∀ q ∈ s.found, q ∈ s'.found

/-- What a request expects of the others. -/
def Others (setting : Setting) (calls : ι → FleetCall) (me : ι) (s s' : Fleet ι) : Prop :=
  Onward setting calls s s' ∧ s'.seen me = s.seen me

/-- No row of the IMEI that the caller does not reach was there when the guard was read. -/
def Guarded (me : ι) (imei : String) (scope : Scope) (s : Fleet ι) : Prop :=
  ∀ row ∈ s.devices.rows, row.imei = imei → scope.reaches row = false → row.id ∉ s.seen me

/-- What is known of an insert when it is made. -/
def Known (setting : Setting) (calls : ι → FleetCall) (me : ι) (s : Fleet ι) : FleetCommand ι → Prop
  | .insert scope accountId imei override =>
    FleetInv setting calls s ∧ setting.inScope scope accountId = true ∧
      (override = false → Guarded me imei scope s) ∧ (override = true → (me, imei) ∈ s.found)
  | .zscore i imei => Claims calls i imei
  | _ => True

/-- What a request promises. -/
def Mine (setting : Setting) (calls : ι → FleetCall) (me : ι) (c : FleetCommand ι)
    (s s' : Fleet ι) : Prop :=
  Known setting calls me s c ∧ Onward setting calls s s' ∧ ∀ i, i ≠ me → s'.seen i = s.seen i

section Steps

variable {calls : ι → FleetCall} {s s' : Fleet ι} {me : ι}

omit [DecidableEq ι] in
lemma Device.Same.refl (row : Device) : row.Same row := ⟨rfl, rfl, rfl, rfl⟩

omit [DecidableEq ι] in
lemma onward_of_same (hdevices : s'.devices = s.devices)
    (hseen : ∀ i, ∀ id ∈ s'.seen i, id ∈ s.seen i ∨ id < s.devices.nextId)
    (hfound : ∀ q ∈ s.found, q ∈ s'.found)
    (hclaims : ∀ q ∈ s'.found, q ∈ s.found ∨ Claims calls q.1 q.2) : Onward setting calls s s' where
  inv h := by
    refine ⟨hdevices ▸ h.owned, fun i id hid => ?_, fun q hq => ?_⟩
    · rw [hdevices]
      exact (hseen i id hid).elim (h.seen i id) fun hlt => hlt
    · exact (hclaims q hq).elim (h.found q) fun hclaims => hclaims
  rows row' hrow' := .inl ⟨row', hdevices ▸ hrow', .refl row'⟩
  found := hfound

omit [DecidableEq ι] in
lemma DeviceTable.insert_eq_some {d d' : DeviceTable} {scope : Scope} {accountId imei : String}
    (h : d.insert scope accountId imei = some d') : d.active imei = false ∧
      d'.rows = ⟨d.nextId, scope.tenantId, accountId, imei, false⟩ :: d.rows ∧
      d'.nextId = d.nextId + 1 := by
  unfold DeviceTable.insert at h
  split at h
  · cases h
  · rename_i hfree
    rw [← Option.some.inj h]
    exact ⟨Bool.eq_false_iff.2 hfree, rfl, rfl⟩

omit [DecidableEq ι] in
lemma onward_insert {scope : Scope} {accountId imei : String} {devices : DeviceTable}
    (h : s.devices.insert scope accountId imei = some devices)
    (hscope : setting.inScope scope accountId = true) :
    Onward setting calls s { s with devices := devices } := by
  obtain ⟨-, hrows, hnext⟩ := DeviceTable.insert_eq_some h
  have howner : setting.tenantOf accountId = some scope.tenantId := by
    simp only [Setting.inScope, Bool.and_eq_true, decide_eq_true_eq] at hscope
    exact hscope.1
  refine ⟨fun hinv => ⟨fun row hrow => ?_, fun i id hid => ?_, hinv.found⟩, fun row hrow => ?_,
    fun _ hq => hq⟩
  · rw [show ({ s with devices := devices } : Fleet ι).devices.rows = _ from hrows] at hrow
    rcases mem_cons.1 hrow with rfl | hold
    · exact howner
    · exact hinv.owned row hold
  · show id < devices.nextId
    rw [hnext]
    exact Nat.lt_succ_of_lt (hinv.seen i id hid)
  · rw [show ({ s with devices := devices } : Fleet ι).devices.rows = _ from hrows] at hrow
    rcases mem_cons.1 hrow with rfl | hold
    · exact .inr (Nat.le_refl _)
    · exact .inl ⟨row, hold, .refl row⟩

omit [DecidableEq ι] in
lemma onward_retire (id : ℕ) :
    Onward setting calls s { s with devices := s.devices.retire id } := by
  have hsame : ∀ row' ∈ (s.devices.retire id).rows, ∃ row ∈ s.devices.rows, row.Same row' := by
    intro row' hrow'
    obtain ⟨row, hrow, rfl⟩ := mem_map.1 hrow'
    refine ⟨row, hrow, ?_⟩
    split <;> exact ⟨rfl, rfl, rfl, rfl⟩
  refine ⟨fun hinv => ⟨fun row' hrow' => ?_, hinv.seen, hinv.found⟩,
    fun row' hrow' => .inl (hsame row' hrow'), fun _ hq => hq⟩
  obtain ⟨row, hrow, -, htenant, haccount, -⟩ := hsame row' hrow'
  rw [htenant, haccount]
  exact hinv.owned row hrow

/-- The guard of another request is none of a request's business. -/
def FleetCommand.By (me : ι) : FleetCommand ι → Prop
  | .held i .. => i = me
  | _ => True

lemma run_insert (scope : Scope) (accountId imei : String) (override : Bool) (s : Fleet ι) :
    FleetCommand.run setting (.insert scope accountId imei override) s =
      match s.devices.insert scope accountId imei with
      | none => (s, none)
      | some devices => ({ s with devices := devices }, some s.devices.nextId) := rfl

lemma onward_run (c : FleetCommand ι) (h : Known setting calls me s c) :
    Onward setting calls s (c.run setting s).1 := by
  cases c with
  | insert scope accountId imei override =>
    rw [run_insert]
    cases hinsert : s.devices.insert scope accountId imei with
    | none =>
      exact onward_of_same rfl (fun _ _ hid => .inl hid) (fun _ hq => hq) fun _ hq => .inl hq
    | some devices => exact onward_insert hinsert h.2.1
  | retire id => exact onward_retire id
  | held i imei override scope =>
    refine onward_of_same rfl (fun j id hid => ?_) (fun _ hq => hq) fun _ hq => .inl hq
    by_cases hj : j = i
    · subst hj
      have hid : id ∈ update s.seen j (s.devices.rows.map (·.id)) j := hid
      rw [update_self] at hid
      obtain ⟨row, hrow, rfl⟩ := mem_map.1 hid
      exact .inr (s.devices.serial row hrow)
    · have hid : id ∈ update s.seen i (s.devices.rows.map (·.id)) j := hid
      rw [update_of_ne hj] at hid
      exact .inl hid
  | zscore i imei =>
    show Onward setting calls s (if imei ∈ s.quarantine then
      (({ s with found := (i, imei) :: s.found }, true) : Fleet ι × Bool) else (s, false)).1
    split
    · refine onward_of_same rfl (fun _ _ hid => .inl hid) (fun _ hq => mem_cons_of_mem _ hq)
        fun q hq => ?_
      rcases mem_cons.1 hq with rfl | hold
      · exact .inr h
      · exact .inl hold
    · exact onward_of_same rfl (fun _ _ hid => .inl hid) (fun _ hq => hq) fun _ hq => .inl hq
  | _ => exact onward_of_same rfl (fun _ _ hid => .inl hid) (fun _ hq => hq) fun _ hq => .inl hq

lemma seen_run {c : FleetCommand ι} (h : c.By me) {i : ι} (hi : i ≠ me) :
    (c.run setting s).1.seen i = s.seen i := by
  cases c with
  | held j imei override scope =>
    obtain rfl : j = me := h
    exact update_of_ne hi ..
  | insert scope accountId imei override =>
    rw [run_insert]
    cases s.devices.insert scope accountId imei <;> rfl
  | zscore j imei =>
    show (if imei ∈ s.quarantine then
      (({ s with found := (j, imei) :: s.found }, true) : Fleet ι × Bool) else
        (s, false)).1.seen i = _
    split <;> rfl
  | _ => rfl

/-- **What a step does**, whether its call is answered or not. -/
lemma mine_answer {c : FleetCommand ι} (hby : c.By me)
    (h : Known setting calls me s c) (fate : Fate) :
    Mine setting calls me c s ((fleetService ι setting).answer c s fate).1 := by
  have hsame : Onward setting calls s s := onward_of_same rfl (fun _ _ hid => .inl hid)
    (fun _ hq => hq) fun _ hq => .inl hq
  cases fate with
  | ok => exact ⟨h, onward_run c h, fun i hi => seen_run hby hi⟩
  | refused => exact ⟨h, hsame, fun _ _ => rfl⟩
  | lost => exact ⟨h, onward_run c h, fun i hi => seen_run hby hi⟩

end Steps

/-! ## The requests -/

section Requests

variable {calls : ι → FleetCall} {me : ι} {s : Fleet ι} {α β : Type}

abbrev GoesOn (calls : ι → FleetCall) (me : ι) (m : Request ι setting α) (s : Fleet ι) : Prop :=
  Meets (fun _ _ _ => True) (fun _ => Others setting calls me) (Mine setting calls me)
    (fun _ _ => True) m s

omit [DecidableEq ι] in
lemma stable_inv : Stable (Others setting calls me) (FleetInv setting calls) :=
  fun _ _ henv h => henv.1.inv h

variable {m : Request ι setting α} {override : Bool} {accountId imei : String} {scope : Scope}
  {input : ClaimInput}

lemma goesOn_bind {f : α → Request ι setting β} (hm : GoesOn calls me m s)
    (h : FleetInv setting calls s)
    (hf : ∀ a s, FleetInv setting calls s → GoesOn calls me (f a) s) :
    GoesOn calls me (m >>= f) s :=
  (hm.frame (fun _ => stable_inv) (fun _ _ _ hown h => hown.2.1.inv h) h).bind
    (fun a s h => hf a s h.2) fun _ _ _ => trivial

lemma goesOn_attempt {handler : FleetError → Request ι setting α} (hm : GoesOn calls me m s)
    (h : FleetInv setting calls s)
    (hhandler : ∀ e s, FleetInv setting calls s → GoesOn calls me (handler e) s) :
    GoesOn calls me (m.attempt handler) s :=
  (hm.frame (fun _ => stable_inv) (fun _ _ _ hown h => hown.2.1.inv h) h).attempt
    (fun _ _ _ => trivial) fun e s h => hhandler e s h.2

lemma goesOn_send {c : FleetCommand ι} {f : c.Answer → Request ι setting α}
    (J : Fleet ι → Prop) (hs : J s) (hJ : Stable (Others setting calls me) J) (hby : c.By me)
    (hknown : ∀ s, J s → Known setting calls me s c)
    (hnext : ∀ s, J s → GoesOn calls me (f (c.run setting s).2) (c.run setting s).1) :
    GoesOn calls me (send c >>= f) s := by
  have hthrew : ∀ s, GoesOn calls me (.threw .failed : Request ι setting α) s := fun _ =>
    .threw (fun _ => True) trivial (fun _ _ _ _ => trivial) fun _ _ => trivial
  exact .send J hs hJ (fun s hs => ⟨mine_answer hby (hknown s hs) .ok, hnext s hs⟩)
    (fun s hs => ⟨mine_answer hby (hknown s hs) .refused, hthrew s⟩) fun s _ => hthrew _

/-- A command that may be sent at any time. -/
def Plain (me : ι) : FleetCommand ι → Prop
  | .insert .. | .zscore .. => False
  | .held i .. => i = me
  | _ => True

lemma goesOn_plain (hm : m.Sends (Plain me)) (s : Fleet ι) : GoesOn calls me m s := by
  refine hm.meets (fun c hc s fate => mine_answer ?_ ?_ fate) s
  · cases c with
    | held => exact hc
    | _ => trivial
  · cases c with
    | insert => exact hc.elim
    | zscore => exact hc.elim
    | _ => trivial

lemma goesOn_always {cleanup : Request ι setting Unit} (hm : GoesOn calls me m s)
    (hcleanup : cleanup.Sends (Plain me)) :
    GoesOn calls me (m.always cleanup) s := by
  refine hm.always (fun a s _ => ?_) fun e s _ => ?_
  · have hrest : (cleanup >>= fun _ => .done a : Request ι setting α).Sends (Plain me) :=
      hcleanup.bind fun _ => trivial
    exact goesOn_plain hrest s
  · have hrest : (cleanup >>= fun _ => .threw e : Request ι setting α).Sends (Plain me) :=
      hcleanup.bind fun _ => trivial
    exact goesOn_plain hrest s

lemma sends_write (effect : Effect) :
    (write effect : Request ι setting Unit).Sends (Plain me) := .send trivial

lemma sends_quietly {m : Request ι setting Unit} (hm : m.Sends (Plain me)) :
    (quietly m).Sends (Plain me) := .attempt hm fun _ => trivial

/-- What is known between the guard of a request and its insert. -/
def Cleared (me : ι) (imei : String) (scope : Scope) (override : Bool) (s : Fleet ι) : Prop :=
  (override = false → Guarded me imei scope s) ∧ (override = true → (me, imei) ∈ s.found)

omit [DecidableEq ι] in
lemma stable_cleared {imei : String} {scope : Scope} {override : Bool} :
    Stable (Others setting calls me) fun s =>
      FleetInv setting calls s ∧ Cleared me imei scope override s := by
  rintro s s' ⟨honward, hseen⟩ ⟨hinv, hguarded, hfound⟩
  refine ⟨honward.inv hinv, fun hoverride row' hrow' himei hforeign hmem => ?_, fun hoverride =>
    honward.found _ (hfound hoverride)⟩
  rw [hseen] at hmem
  rcases honward.rows row' hrow' with ⟨row, hrow, hid, htenant, haccount, himei'⟩ | hnew
  · refine hguarded hoverride row hrow (himei' ▸ himei) ?_ (hid ▸ hmem)
    rw [← hforeign, Scope.reaches, Scope.reaches, htenant, haccount]
  · exact absurd (hinv.seen me _ hmem) (Nat.not_lt.2 hnew)

omit [DecidableEq ι] in
lemma guarded_of_held {imei : String} {scope : Scope} {s' : Fleet ι}
    (hdevices : s'.devices = s.devices) (h : s.devices.held imei false scope = false) :
    Guarded me imei scope s' := by
  intro row hrow himei hforeign
  rw [hdevices] at hrow
  rw [DeviceTable.held, any_eq_false] at h
  have hheld := h row hrow
  simp [himei, hforeign] at hheld

lemma insertDevice_goesOn (h : FleetInv setting calls s)
    (hscope : setting.inScope scope accountId = true)
    (hcleared : Cleared me imei scope override s) :
    GoesOn calls me (insertDevice scope accountId imei override : Request ι setting ℕ) s := by
  refine goesOn_send (fun s => FleetInv setting calls s ∧ Cleared me imei scope override s)
    ⟨h, hcleared⟩ stable_cleared trivial (fun s h => ⟨h.1, hscope, h.2⟩) fun s _ => ?_
  refine goesOn_plain ?_ _
  split <;> trivial

lemma sends_auditReleased (imei : String) (scope : Scope) :
    (auditReleased imei scope : Request ι setting Unit).Sends (Plain me) := by
  exact .bind (.send trivial) fun released => .forM fun _ _ => sends_quietly (sends_write .audit)

/-- `devices.create`, where the account is in scope and an override has found the IMEI in
quarantine. -/
lemma create_goesOn (h : FleetInv setting calls s) (hscope : setting.inScope scope accountId = true)
    (hoverride : override = true → (me, imei) ∈ s.found) :
    GoesOn calls me (create me scope accountId imei override : Request ι setting ℕ) s := by
  refine goesOn_send (fun s => FleetInv setting calls s ∧ (override = true → (me, imei) ∈ s.found))
    ⟨h, hoverride⟩ (fun _ _ henv h => ⟨henv.1.inv h.1, fun htrue => henv.1.found _ (h.2 htrue)⟩) rfl
    (fun _ _ => trivial) fun s ⟨h, hoverride⟩ => ?_
  show GoesOn calls me (if s.devices.held imei override scope = true then _ else _) _
  split
  · exact goesOn_plain (m := .threw .duplicateImei) trivial _
  rename_i hfree
  have hknown : Known setting calls me s (.held me imei override scope) := trivial
  have hinv := (onward_run _ hknown).inv h
  refine goesOn_bind (insertDevice_goesOn hinv hscope ⟨fun hfalse => ?_, hoverride⟩) hinv
    fun id s h => ?_
  · rw [hfalse] at hfree
    exact guarded_of_held rfl (Bool.eq_false_iff.2 hfree)
  · have hrest : (write .audit >>= fun _ => when (override = true)
        (quietly (auditReleased imei scope)) >>= fun _ => pure id :
          Request ι setting ℕ).Sends (Plain me) :=
      .bind (sends_write .audit) fun _ => .bind
        (.when (sends_quietly (sends_auditReleased imei scope))) fun _ => trivial
    exact goesOn_plain hrest s

lemma createActive_goesOn (h : FleetInv setting calls s)
    (hscope : setting.inScope scope accountId = true)
    (hoverride : override = true → (me, imei) ∈ s.found) :
    GoesOn calls me (createActive me scope accountId imei override : Request ι setting Reply)
      s := by
  refine goesOn_bind (create_goesOn h hscope hoverride) h fun id s _ => goesOn_plain ?_ s
  exact .bind (sends_write .activate) fun _ => trivial

lemma orDuplicate_goesOn {m : Request ι setting Reply} (hm : GoesOn calls me m s)
    (h : FleetInv setting calls s) : GoesOn calls me (orDuplicate m) s := by
  refine goesOn_attempt hm h fun e s _ => goesOn_plain ?_ s
  cases e <;> trivial

lemma ask_goesOn {question : Question} {f : Bool → Request ι setting Reply}
    (h : FleetInv setting calls s)
    (hf : ∀ a s, FleetInv setting calls s → GoesOn calls me (f a) s) :
    GoesOn calls me (ask question >>= f) s :=
  goesOn_send (FleetInv setting calls) h stable_inv trivial (fun _ _ => trivial) fun s h =>
    hf _ _ ((onward_run (.ask question) (show Known setting calls me s _ from trivial)).inv h)

lemma problem_goesOn (status : ℕ) (s : Fleet ι) :
    GoesOn calls me (pure (.problem status) : Request ι setting Reply) s := by
  have hsends : (pure (.problem status) : Request ι setting Reply).Sends (Plain me) := trivial
  exact goesOn_plain hsends s

lemma postUnderCap_goesOn {caller : Caller} (h : FleetInv setting calls s)
    (hscope : setting.inScope caller.scope caller.accountId = true) :
    GoesOn calls me (postUnderCap me caller imei : Request ι setting Reply) s := by
  refine ask_goesOn h fun room s h => ?_
  split
  · refine ask_goesOn h fun known s h => ?_
    split
    · exact orDuplicate_goesOn (createActive_goesOn h hscope nofun) h
    · exact problem_goesOn 400 s
  · exact problem_goesOn 403 s

lemma postDevice_goesOn {caller : Caller} (h : FleetInv setting calls s) :
    GoesOn calls me (postDevice me caller imei : Request ι setting Reply) s := by
  refine goesOn_send (FleetInv setting calls) h stable_inv trivial (fun _ _ => trivial)
    fun s h => ?_
  show GoesOn calls me (if setting.inScope caller.scope caller.accountId = true then _ else _) s
  split
  · rename_i hscope
    refine ask_goesOn h fun budget s h => ?_
    split
    · refine goesOn_always (ask_goesOn h fun locked s h => ?_) (sends_write .settleBudget)
      split
      · exact goesOn_always (postUnderCap_goesOn h hscope)
          (sends_quietly (sends_write .dropCapLock))
      · exact problem_goesOn 409 s
    · exact problem_goesOn 429 s
  · exact problem_goesOn 400 s

lemma claimed_goesOn {inQuarantine : Bool} (h : FleetInv setting calls s)
    (hscope : setting.inScope input.scope input.accountId = true)
    (hfound : inQuarantine = true → (me, input.imei) ∈ s.found) :
    GoesOn calls me (claimed me input inQuarantine : Request ι setting Reply) s := by
  refine goesOn_bind (createActive_goesOn h hscope hfound) h fun reply s _ => goesOn_plain ?_ s
  exact .bind (.send trivial) fun _ => trivial

lemma mem_found_zscore (h : (FleetCommand.run setting (.zscore me imei) s).2 = true) :
    (me, imei) ∈ (FleetCommand.run setting (.zscore me imei) s).1.found := by
  have hrun : FleetCommand.run setting (.zscore me imei) s = if imei ∈ s.quarantine then
    (({ s with found := (me, imei) :: s.found }, true) : Fleet ι × Bool) else (s, false) := rfl
  rw [hrun] at h ⊢
  split at h
  · rename_i hmem
    rw [if_pos hmem]
    exact mem_cons_self
  · cases h

lemma claimUnderCap_goesOn (hcall : calls me = .claim input) (h : FleetInv setting calls s)
    (hscope : setting.inScope input.scope input.accountId = true) :
    GoesOn calls me (claimUnderCap me input : Request ι setting Reply) s := by
  refine ask_goesOn h fun room s h => ?_
  split
  · refine ask_goesOn h fun known s h => ?_
    split
    · refine .sendOr (FleetInv setting calls) h stable_inv fun s h fate _ => ?_
      have hmine : Mine setting calls me (.zscore me input.imei) s
          ((fleetService ι setting).answer (.zscore me input.imei) s fate).1 :=
        mine_answer (c := .zscore me input.imei) trivial ⟨input, hcall, rfl⟩ fate
      refine ⟨hmine, orDuplicate_goesOn (claimed_goesOn (hmine.2.1.inv h) hscope fun hfound =>
        ?_) (hmine.2.1.inv h)⟩
      cases fate with
      | ok => exact mem_found_zscore hfound
      | refused => cases hfound
      | lost => cases hfound
    · exact problem_goesOn 400 s
  · exact problem_goesOn 403 s

lemma claimDevice_goesOn (hcall : calls me = .claim input) (h : FleetInv setting calls s) :
    GoesOn calls me (claimDevice me input : Request ι setting Reply) s := by
  refine goesOn_send (FleetInv setting calls) h stable_inv trivial (fun _ _ => trivial)
    fun s h => ?_
  show GoesOn calls me (if setting.inScope input.scope input.accountId = true then _ else _) s
  split
  · rename_i hscope
    refine ask_goesOn h fun locked s h => ?_
    split
    · exact goesOn_always (claimUnderCap_goesOn hcall h hscope)
        (sends_quietly (sends_write .dropCapLock))
    · exact problem_goesOn 409 s
  · exact problem_goesOn 400 s

lemma sends_deleteDevice (scope : Scope) (id : ℕ) :
    (deleteDevice scope id : Request ι setting Reply).Sends (Plain me) := by
  refine .bind (.send trivial) fun device => ?_
  cases device with
  | none => trivial
  | some device =>
    refine .bind (sends_write .deactivate) fun _ => .bind (.bind (.send trivial) fun before => ?_)
      fun _ => trivial
    cases before with
    | none => trivial
    | some before =>
      refine .bind (sends_write .revokeShareLinks) fun _ => ?_
      split
      · trivial
      · exact .bind (.send trivial) fun _ => .bind (sends_write .audit) fun _ => trivial

lemma program_goesOn (h : FleetInv setting calls s) :
    GoesOn calls me ((calls me).program me : Request ι setting Reply) s := by
  cases hcall : calls me with
  | post caller imei => exact postDevice_goesOn h
  | delete scope id => exact goesOn_plain (sends_deleteDevice scope id) s
  | claim input => exact claimDevice_goesOn hcall h
  | unknown imei =>
    have hsends : (quarantineImei imei : Request ι setting Reply).Sends (Plain me) :=
      .bind (.send trivial) fun _ => trivial
    exact goesOn_plain hsends s

end Requests

/-! ## The insert -/

/-- The requests, and the devices at the start. -/
def fleetPool (setting : Setting) (calls : ι → FleetCall) (devices : DeviceTable)
    (quarantine : List String) : Pool ι (fleetService ι setting) FleetError Reply :=
  ⟨⟨devices, quarantine, 0, fun _ => [], []⟩, fun me => (calls me).program me⟩

/-- Whoever inserts the row may have its IMEI: rows of other accounts are of the same tenant and the
caller is tenant-wide, or the platform claims an IMEI that it has found in quarantine, and all rows
in other tenants are retired. -/
def Entitled (calls : ι → FleetCall) (i : ι) (scope : Scope) (row : Device) (s : Fleet ι) : Prop :=
  ∀ other ∈ s.devices.rows, other.imei = row.imei → other.accountId ≠ row.accountId →
    other.tenantId = row.tenantId ∧ scope.accountId = none ∨
      Claims calls i row.imei ∧ (i, row.imei) ∈ s.found ∧
        ∀ other ∈ s.devices.rows, other.imei = row.imei → other.tenantId ≠ row.tenantId →
          other.retired = true

/-- The row is retired, and was inserted after the guard was read. -/
def Unseen (i : ι) (scope : Scope) (imei : String) (s : Fleet ι) (row : Device) : Prop :=
  row ∈ s.devices.rows ∧ row.imei = imei ∧ scope.reaches row = false ∧ row.retired = true ∧
    row.id ∉ s.seen i

section Insert

variable {calls : ι → FleetCall} {s : Fleet ι} {me : ι} {scope : Scope} {accountId imei : String}
  {override : Bool}

omit [DecidableEq ι] in
lemma Scope.reaches_eq_false {row : Device} : scope.reaches row = false ↔
    row.tenantId ≠ scope.tenantId ∨ ∃ accountId ∈ scope.accountId, row.accountId ≠ accountId := by
  obtain ⟨tenantId, accountId⟩ := scope
  cases accountId <;> simp [Scope.reaches, imp_iff_not_or]

lemma entitled_of_known
    (h : Known setting calls me s (.insert scope accountId imei override))
    (hactive : s.devices.active imei = false) (id : ℕ) :
    Entitled calls me scope ⟨id, scope.tenantId, accountId, imei, false⟩ s ↔
      (me, imei) ∈ s.found ∨ ¬ ∃ row, Unseen me scope imei s row := by
  obtain ⟨hinv, hscope, hguarded, hfound⟩ := h
  simp only [Setting.inScope, Bool.and_eq_true, decide_eq_true_eq] at hscope
  have hretired : ∀ row ∈ s.devices.rows, row.imei = imei → row.retired = true := by
    intro row hrow himei
    by_contra hlive
    exact any_eq_false.1 hactive row hrow (by simp [himei, hlive])
  constructor
  · intro hentitled
    by_cases hclaimed : (me, imei) ∈ s.found
    · exact .inl hclaimed
    refine .inr fun ⟨row, hrow, himei, hforeign, _⟩ => ?_
    rcases Scope.reaches_eq_false.1 hforeign with htenant | ⟨pinned, hpinned, haccount⟩
    · have hne : row.accountId ≠ accountId := by
        rintro heq
        have howner := hinv.owned row hrow
        rw [heq, hscope.1] at howner
        exact htenant (Option.some.inj howner).symm
      rcases hentitled row hrow himei hne with ⟨hsame, -⟩ | ⟨-, hquarantined, -⟩
      · exact htenant hsame
      · exact hclaimed hquarantined
    · rw [Option.mem_def] at hpinned
      have hself : pinned = accountId := by simpa [hpinned] using hscope.2
      rcases hentitled row hrow himei (hself ▸ haccount) with ⟨-, hnone⟩ | ⟨-, hquarantined, -⟩
      · rw [hpinned] at hnone
        cases hnone
      · exact hclaimed hquarantined
  · intro hcondition row hrow himei hne
    by_cases hclaimed : (me, imei) ∈ s.found
    · exact .inr ⟨hinv.found _ hclaimed, hclaimed, fun other hother himei' _ =>
        hretired other hother himei'⟩
    have hunseen := hcondition.resolve_left hclaimed
    have hread : override = false := Bool.eq_false_iff.2 fun htrue => hclaimed (hfound htrue)
    have hreaches : scope.reaches row ≠ false := fun hforeign =>
      hunseen ⟨row, hrow, himei, hforeign, hretired row hrow himei,
        hguarded hread row hrow himei hforeign⟩
    rw [Ne, Scope.reaches_eq_false, not_or, not_not] at hreaches
    refine .inl ⟨hreaches.1, Option.eq_none_iff_forall_ne_some.2 fun pinned hpinned => ?_⟩
    have hself : pinned = accountId := by simpa [hpinned] using hscope.2
    exact hreaches.2 ⟨pinned, hpinned, hself ▸ hne⟩

lemma inserted_of_answer {fate : Fate} {row : Device}
    (h : ((fleetService ι setting).answer (.insert scope accountId imei override) s
      fate).1.devices.rows = row :: s.devices.rows) :
    s.devices.active imei = false ∧
      row = ⟨s.devices.nextId, scope.tenantId, accountId, imei, false⟩ := by
  have hrun : (FleetCommand.run setting (.insert scope accountId imei override) s).1.devices.rows =
      row :: s.devices.rows → s.devices.active imei = false ∧
        row = ⟨s.devices.nextId, scope.tenantId, accountId, imei, false⟩ := by
    intro h
    rw [run_insert] at h
    cases hdevices : s.devices.insert scope accountId imei with
    | none =>
      rw [hdevices] at h
      exact absurd h.symm (cons_ne_self row _)
    | some devices =>
      rw [hdevices] at h
      obtain ⟨hactive, hrows, -⟩ := DeviceTable.insert_eq_some hdevices
      exact ⟨hactive, (cons.inj (h.symm.trans hrows)).1⟩
  cases fate with
  | ok => exact hrun h
  | refused => exact absurd h.symm (cons_ne_self row _)
  | lost => exact hrun h

end Insert

/-- **Who may take an IMEI.**  In any run of any number of requests, whoever inserts a row is
entitled to its IMEI exactly where it has found the IMEI in quarantine, or no row of the IMEI that
it does not reach was inserted after its guard was read and is retired. -/
theorem entitled_iff (setting : Setting) (calls : ι → FleetCall) (devices : DeviceTable)
    (quarantine : List String)
    (howned : ∀ row ∈ devices.rows, setting.tenantOf row.accountId = some row.tenantId)
    {p p' : Pool ι (fleetService ι setting) FleetError Reply}
    (hrun : (fleetPool setting calls devices quarantine).Reaches p) {i : ι} {scope : Scope}
    {accountId imei : String} {override : Bool} {fate : Fate} {row : Device}
    (hstep : p.Step i (.insert scope accountId imei override) fate p')
    (hinserted : p'.state.devices.rows = row :: p.state.devices.rows) :
    Entitled calls i scope row p.state ↔
      (i, imei) ∈ p.state.found ∨ ¬ ∃ other, Unseen i scope imei p.state other := by
  have hcompatible : Pool.Compatible
      (fun (_ : Pool ι (fleetService ι setting) FleetError Reply) _ _ _ => True)
      (fun _ _ _ _ => True) (fun me _ => Others setting calls me) (Mine setting calls) :=
    fun _ _ _ _ _ _ _ => ⟨trivial, fun hmine j hj => ⟨hmine.2.1, hmine.2.2 j hj⟩⟩
  have hinit : FleetInv setting calls (fleetPool setting calls devices quarantine).state :=
    ⟨howned, fun _ _ hid => (not_mem_nil hid).elim, fun _ hq => (not_mem_nil hq).elim⟩
  have hmeets : (fleetPool setting calls devices quarantine).Meets (fun _ _ _ _ => True)
      (fun me _ => Others setting calls me) (Mine setting calls) (fun _ _ _ => True) :=
    fun me => program_goesOn hinit
  have hknown : Known setting calls i p.state (.insert scope accountId imei override) :=
    ((hrun.meets hcompatible hmeets).step hcompatible hstep trivial).1.1
  have hrow : p.state.devices.active imei = false ∧
      row = ⟨p.state.devices.nextId, scope.tenantId, accountId, imei, false⟩ := by
    obtain ⟨k, -, rfl⟩ := hstep
    exact inserted_of_answer hinserted
  obtain ⟨hactive, rfl⟩ := hrow
  exact entitled_of_known hknown hactive _

/-- All questions are answered with yes; the account of a tenant is named after it. -/
def twoTenants : Setting :=
  ⟨fun _ => true, fun accountId => if accountId = "a1" then some "a" else some "b"⟩

def noDevices : DeviceTable := ⟨[], 0, fun _ h => (not_mem_nil h).elim, .nil⟩

/-- Two tenants add the same tracker, and the first one retires it. -/
def sameTracker : Fin 3 → FleetCall
  | 0 => .post ⟨⟨"a", some "a1"⟩, "a1"⟩ "356307042441013"
  | 1 => .delete ⟨"a", some "a1"⟩ 0
  | 2 => .post ⟨⟨"b", none⟩, "b1"⟩ "356307042441013"

def trackerPool : Pool (Fin 3) (fleetService (Fin 3) twoTenants) FleetError Reply :=
  fleetPool twoTenants sameTracker noDevices []

def firstInsert : Pool (Fin 3) (fleetService (Fin 3) twoTenants) FleetError Reply :=
  trackerPool.exec (replicate 6 (2, .ok))

/-- Nobody else has had the tracker. -/
theorem entitled_iff_firstInsert :
    Entitled sameTracker 2 ⟨"b", none⟩ ⟨0, "b", "b1", "356307042441013", false⟩
      firstInsert.state := by
  have hstep : firstInsert.Step 2 (.insert ⟨"b", none⟩ "b1" "356307042441013" false) .ok
      (firstInsert.exec [(2, .ok)]) := Pool.step_exec (by decide +kernel) .ok
  refine (entitled_iff twoTenants sameTracker noDevices [] (fun _ h => (not_mem_nil h).elim)
    (Pool.reaches_exec _ _) hstep (by decide +kernel)).2 (.inr ?_)
  rintro ⟨other, hother, -⟩
  have hnone : firstInsert.state.devices.rows = [] := by decide +kernel
  exact not_mem_nil (hnone ▸ (hother : other ∈ firstInsert.state.devices.rows))

/-- The guard of the second tenant is read before the first one adds the tracker, and the insert is
made after it is retired. -/
def beforeInsert : Pool (Fin 3) (fleetService (Fin 3) twoTenants) FleetError Reply :=
  trackerPool.exec
    (replicate 6 ((2 : Fin 3), Fate.ok) ++ replicate 11 ((0 : Fin 3), Fate.ok) ++
      replicate 6 ((1 : Fin 3), Fate.ok))

/-- The second tenant has the tracker of the first. -/
theorem stranger_acquires :
    trackerPool.Reaches beforeInsert ∧
      beforeInsert.Step 2 (.insert ⟨"b", none⟩ "b1" "356307042441013" false) .ok
        (beforeInsert.exec [(2, .ok)]) ∧
      (beforeInsert.exec [(2, .ok)]).state.devices.rows =
        [⟨1, "b", "b1", "356307042441013", false⟩, ⟨0, "a", "a1", "356307042441013", true⟩] ∧
      ¬ Entitled sameTracker 2 ⟨"b", none⟩ ⟨1, "b", "b1", "356307042441013", false⟩
        beforeInsert.state := by
  refine ⟨Pool.reaches_exec _ _, Pool.step_exec (by decide +kernel) .ok, by decide +kernel,
    fun hentitled => ?_⟩
  have hrow : ⟨0, "a", "a1", "356307042441013", true⟩ ∈ beforeInsert.state.devices.rows := by
    decide +kernel
  rcases hentitled _ hrow rfl (by decide) with ⟨htenant, -⟩ | ⟨⟨input, hcall, -⟩, -⟩
  · exact absurd htenant (by decide)
  · cases hcall

end Orbetra.Takeover
