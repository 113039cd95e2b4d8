import Orbetra.Framework.Update
import Orbetra.Sending.Domain

/-!
# Which sending domains are verified

Any requests and sweeps, in any order of their awaits.  A row is verified by the proof of its own
token and by SES's word on its own domain, a sweep turns a row failed on the answer for the row's
own domain, and asks about every row that waits, as long as no row is put between what a request or
a sweep has read and what it writes, a sweep comes only upon rows whose token was found, and no
statement of a sweep fails while rows wait (`verified_by_own_proof`).  Each of these matters
(`verified_by_others`). -/

namespace Orbetra.Sending

open Function List Option Async

open Users (TenantId)

variable {ι : Type} {s s' : SendingStore ι} {t : TenantId} {fact : Fact} {log : List Fact}

/-! ## What the verification of a row rests on -/

/-- Since the row was put, its token was found for its domain, and SES said that the domain is
verified. -/
def Proven (t : TenantId) (row : SendingDomain) (log : List Fact) : Prop :=
  .txtFound t row.domain row.txtToken ∈ since t log ∧ .sesVerified row.domain ∈ since t log

/-- What holds of the table and of what happened. -/
structure Sound (s : SendingStore ι) : Prop where
  proven : ∀ t, ∀ row ∈ s.rows t, row.verifiedAt.isSome = true → Proven t row s.log
  failed : ∀ domain asked, .turnedFailed domain asked ∈ s.log → asked = some domain

/-- The sweep has asked SES about every row that waited when it began. -/
def Asked (setting : Setting ι) (me : ι) (s : SendingStore ι) : Prop :=
  ∃ rows ∈ s.began me, ∀ t ∈ setting.tenants, ∀ row ∈ rows t, row.verifiedAt = none →
    row.domain ∈ s.reads me

def StillSelected (me : ι) (t : TenantId) (row : SendingDomain) (s : SendingStore ι) : Prop :=
  ∃ rows ∈ s.began me, ∃ old ∈ rows t, old.domain = row.domain

/-- The row was not put since the request read it, or since the sweep asked SES. -/
def NotPutSince (me : ι) (t : TenantId) (s : SendingStore ι) : Prop := s.mark me t = s.puts t

/-- The condition on a step. -/
def Orderly (setting : Setting ι) (s : SendingStore ι) : SendingCommand ι → Fate → Prop
  -- an error is among the answers
  | .txtHas .., fate => fate = .ok
  | .sesGet _, fate => fate = .ok
  | .readIdentity .., fate => fate = .ok
  | .markVerified me t _, fate => fate ≠ .refused → ∀ row ∈ s.rows t,
      s.conflict setting t row.domain = false → NotPutSince me t s
  | .select _, fate => fate = .ok
  | .sweepVerified me t, fate =>
      (fate ≠ .refused → ∀ row ∈ s.rows t, row.verifiedAt = none →
        s.conflict setting t row.domain = false → NotPutSince me t s ∧ StillSelected me t row s ∧
          .txtFound t row.domain row.txtToken ∈ since t s.log) ∧
      (fate ≠ .ok ∨ (∃ row ∈ s.rows t, row.verifiedAt = none ∧
        s.conflict setting t row.domain = true) → Asked setting me s)
  | .sweepFailed me t, fate =>
      (fate ≠ .refused → ∀ row ∈ s.rows t, row.verifiedAt = none → StillSelected me t row s) ∧
      (fate ≠ .ok → Asked setting me s)
  | _, _ => True

lemma since_cons_of_ne (h : fact ≠ .put t) : since t (fact :: log) = fact :: since t log :=
  takeWhile_cons_of_pos (p := fun fact => decide (fact ≠ Fact.put t)) (decide_eq_true h)

variable {domain : String}

lemma hear_verified {setting : Setting ι}
    (h : statusOf (setting.identity s.answered domain) = some (some .verified)) :
    s.hear setting domain = s.count.note (.sesVerified domain) := by
  unfold SendingStore.hear
  obtain ⟨identity, hidentity, hstatus⟩ := map_eq_some_iff.mp h
  obtain ⟨⟨tokens, status⟩, rfl, rfl⟩ := map_eq_some_iff.mp hstatus
  rw [hidentity]

/-! ## What a step leaves to the others -/

/-- Where the row was not put, it has its domain and its token, and nothing is forgotten. -/
def Grown (t : TenantId) (s s' : SendingStore ι) : Prop :=
  s.puts t ≤ s'.puts t ∧ (s'.puts t = s.puts t →
    (∀ row' ∈ s'.rows t, ∃ row ∈ s.rows t,
      row'.domain = row.domain ∧ row'.txtToken = row.txtToken) ∧
    ∀ fact ∈ since t s.log, fact ∈ since t s'.log)

/-- What a request or a sweep relies on. -/
structure Rely (me : ι) (s s' : SendingStore ι) : Prop where
  mark : s'.mark me = s.mark me
  began : s'.began me = s.began me
  reads : s'.reads me = s.reads me
  grown : ∀ t, Grown t s s'

lemma Grown.of_same (hrows : s'.rows = s.rows) (hlog : s'.log = s.log) (hputs : s'.puts = s.puts)
    (t : TenantId) : Grown t s s' := by
  refine ⟨(congrFun hputs t).ge, fun _ => ⟨fun row hrow => ⟨row, hrows ▸ hrow, rfl, rfl⟩, ?_⟩⟩
  rw [hlog]
  exact fun _ h => h

lemma Grown.note (h : Grown t s s') (hfact : fact ≠ .put t) : Grown t s (s'.note fact) := by
  refine ⟨h.1, fun hputs => ⟨(h.2 hputs).1, fun x hx => ?_⟩⟩
  show x ∈ since t (fact :: s'.log)
  rw [since_cons_of_ne hfact]
  exact mem_cons_of_mem _ ((h.2 hputs).2 x hx)

variable {t₀ : TenantId}

lemma Grown.setRow {row' : Option SendingDomain}
    (h : ∀ new ∈ row', ∃ row ∈ s.rows t₀, new.domain = row.domain ∧ new.txtToken = row.txtToken)
    (t : TenantId) : Grown t s (s.setRow t₀ row') := by
  refine ⟨le_refl _, fun _ => ⟨fun new hnew => ?_, fun _ h => h⟩⟩
  by_cases ht : t = t₀
  · subst ht
    have hself : (s.setRow t row').rows t = row' := update_self ..
    exact h new (hself ▸ hnew)
  · have hother : (s.setRow t₀ row').rows t = s.rows t := update_of_ne ht ..
    exact ⟨new, hother ▸ hnew, rfl, rfl⟩

lemma Grown.rewrite {row new : SendingDomain} (hrow : s.rows t₀ = some row)
    (hdomain : new.domain = row.domain) (htoken : new.txtToken = row.txtToken) (t : TenantId) :
    Grown t s (s.setRow t₀ (some new)) := by
  refine .setRow (fun new' hnew => ⟨row, hrow, ?_⟩) t
  rw [← some.inj hnew]
  exact ⟨hdomain, htoken⟩

lemma Grown.hear (setting : Setting ι) (domain : String) (t : TenantId) :
    Grown t s (s.hear setting domain) := by
  unfold SendingStore.hear
  have hcount : Grown t s s.count := .of_same rfl rfl rfl t
  split
  · exact hcount.note (by simp)
  · exact hcount

variable [DecidableEq ι] {setting : Setting ι}

/-- The commands that mark what a request or a sweep has read. -/
def SendingCommand.Touches (me : ι) : SendingCommand ι → Prop
  | .get other _ => other = me
  | .select other => other = me
  | .readIdentity other _ => other = me
  | _ => False

variable (setting) in
lemma grown_run (c : SendingCommand ι) (s : SendingStore ι) (t : TenantId) :
    Grown t s (c.run setting s).1 := by
  have hself : Grown t s s := .of_same rfl rfl rfl t
  cases c with
  | customDomains me => exact hself
  | get me t₀ => exact .of_same rfl rfl rfl t
  | find t₀ => exact hself
  | otherHolders t₀ sesIdentity => exact hself
  | audit => exact hself
  | sesCreate domain => exact .of_same rfl rfl rfl t
  | sesRemove domain => exact .of_same rfl rfl rfl t
  | select me => exact .of_same rfl rfl rfl t
  | sesGet domain => exact .hear setting domain t
  | readIdentity me domain => exact Grown.hear setting domain t
  | txtHas t₀ domain txtToken apex =>
    unfold SendingCommand.run
    dsimp only
    generalize (if apex = true then _ else _ : Bool) = found
    have hcount : Grown t s s.count := .of_same rfl rfl rfl t
    cases found with
    | false => exact hcount
    | true => exact hcount.note (by simp)
  | upsert t₀ input =>
    unfold SendingCommand.run
    dsimp only
    split
    swap
    · exact hself
    by_cases ht : t = t₀
    · subst ht
      refine ⟨?_, fun hputs => absurd hputs ?_⟩
      · show s.puts t ≤ update s.puts t (s.puts t + 1) t
        rw [update_self]
        exact Nat.le_succ _
      · show update s.puts t (s.puts t + 1) t ≠ s.puts t
        rw [update_self]
        exact Nat.succ_ne_self _
    · refine ⟨?_, fun _ => ⟨fun row' hrow' => ?_, fun x hx => ?_⟩⟩
      · show s.puts t ≤ update s.puts t₀ (s.puts t₀ + 1) t
        rw [update_of_ne ht]
      · have hother : update s.rows t₀ _ t = some row' := hrow'
        rw [update_of_ne ht] at hother
        exact ⟨row', hother, rfl, rfl⟩
      · show x ∈ since t (.put t₀ :: s.log)
        rw [since_cons_of_ne (by simpa using Ne.symm ht)]
        exact mem_cons_of_mem _ hx
  | setDkim t₀ dkimTokens sesIdentity =>
    unfold SendingCommand.run
    dsimp only
    split
    · exact hself
    · rename_i row hrow
      refine .rewrite hrow ?_ ?_ t <;> rfl
  | markVerified me t₀ before =>
    unfold SendingCommand.run
    dsimp only
    split
    · exact hself
    rename_i row hrow
    split
    · exact hself
    · refine .rewrite hrow ?_ ?_ t <;> rfl
  | markFailed t₀ =>
    unfold SendingCommand.run
    dsimp only
    split
    · exact hself
    · rename_i row hrow
      refine .rewrite hrow ?_ ?_ t <;> rfl
  | delete t₀ =>
    unfold SendingCommand.run
    dsimp only
    split
    · exact hself
    · exact .setRow (fun new hnew => by cases hnew) t
  | sweepVerified me t₀ =>
    unfold SendingCommand.run
    dsimp only
    split
    · exact hself
    rename_i row hrow
    split
    · exact hself
    split
    · exact hself
    · refine .rewrite hrow ?_ ?_ t <;> rfl
  | sweepFailed me t₀ =>
    unfold SendingCommand.run
    dsimp only
    split
    · exact hself
    rename_i row hrow
    split
    · exact hself
    · refine Grown.note (.rewrite hrow ?_ ?_ t) (by simp) <;> rfl

omit [DecidableEq ι] in
lemma marks_hear (setting : Setting ι) (domain : String) (s : SendingStore ι) (j : ι) :
    (s.hear setting domain).mark j = s.mark j ∧ (s.hear setting domain).began j = s.began j ∧
      (s.hear setting domain).reads j = s.reads j := by
  unfold SendingStore.hear
  split <;> exact ⟨rfl, rfl, rfl⟩

variable {c : SendingCommand ι}

/-- A command marks nothing for the others. -/
lemma rely_run {j : ι} (hc : ¬ c.Touches j) (s : SendingStore ι) :
    Rely j s (c.run setting s).1 := by
  suffices hmarks : (c.run setting s).1.mark j = s.mark j ∧
      (c.run setting s).1.began j = s.began j ∧ (c.run setting s).1.reads j = s.reads j from
    ⟨hmarks.1, hmarks.2.1, hmarks.2.2, grown_run setting c s⟩
  cases c with
  | get me t₀ => exact ⟨update_of_ne (Ne.symm hc) .., rfl, rfl⟩
  | select me =>
    exact ⟨rfl, update_of_ne (Ne.symm hc) .., update_of_ne (Ne.symm hc) ..⟩
  | readIdentity me domain =>
    exact ⟨update_of_ne (Ne.symm hc) .., (marks_hear setting domain s j).2.1,
      update_of_ne (Ne.symm hc) ..⟩
  | sesGet domain => exact marks_hear setting domain s j
  | txtHas t₀ domain txtToken apex =>
    unfold SendingCommand.run
    dsimp only
    generalize (if apex = true then _ else _ : Bool) = found
    cases found <;> exact ⟨rfl, rfl, rfl⟩
  | upsert t₀ input =>
    unfold SendingCommand.run
    dsimp only
    split <;> exact ⟨rfl, rfl, rfl⟩
  | setDkim t₀ dkimTokens sesIdentity =>
    unfold SendingCommand.run
    dsimp only
    split <;> exact ⟨rfl, rfl, rfl⟩
  | markVerified me t₀ before =>
    unfold SendingCommand.run
    dsimp only
    split
    · exact ⟨rfl, rfl, rfl⟩
    · split <;> exact ⟨rfl, rfl, rfl⟩
  | markFailed t₀ =>
    unfold SendingCommand.run
    dsimp only
    split <;> exact ⟨rfl, rfl, rfl⟩
  | delete t₀ =>
    unfold SendingCommand.run
    dsimp only
    split <;> exact ⟨rfl, rfl, rfl⟩
  | sweepVerified me t₀ =>
    unfold SendingCommand.run
    dsimp only
    split
    · exact ⟨rfl, rfl, rfl⟩
    · split
      · exact ⟨rfl, rfl, rfl⟩
      · split <;> exact ⟨rfl, rfl, rfl⟩
  | sweepFailed me t₀ =>
    unfold SendingCommand.run
    dsimp only
    split
    · exact ⟨rfl, rfl, rfl⟩
    · split <;> exact ⟨rfl, rfl, rfl⟩
  | customDomains me => exact ⟨rfl, rfl, rfl⟩
  | find t₀ => exact ⟨rfl, rfl, rfl⟩
  | otherHolders t₀ sesIdentity => exact ⟨rfl, rfl, rfl⟩
  | audit => exact ⟨rfl, rfl, rfl⟩
  | sesCreate domain => exact ⟨rfl, rfl, rfl⟩
  | sesRemove domain => exact ⟨rfl, rfl, rfl⟩

/-! ## What the writes keep -/

/-- The commands that do not verify a row, and turn none failed for a sweep. -/
def SendingCommand.Plain : SendingCommand ι → Prop
  | .markVerified .. => False
  | .sweepVerified .. => False
  | .sweepFailed .. => False
  | _ => True

omit [DecidableEq ι] in
lemma Proven.grown {row : SendingDomain} (h : Proven t row s.log) (hgrown : Grown t s s')
    (hputs : s'.puts t = s.puts t) : Proven t row s'.log :=
  ⟨(hgrown.2 hputs).2 _ h.1, (hgrown.2 hputs).2 _ h.2⟩

omit [DecidableEq ι] in
lemma Sound.next (h : Sound s) (hgrown : ∀ t, Grown t s s')
    (hrows : ∀ t, ∀ row' ∈ s'.rows t, row'.verifiedAt.isSome = true →
      Proven t row' s'.log ∨ s'.puts t = s.puts t ∧ ∃ row ∈ s.rows t,
        row.verifiedAt.isSome = true ∧ row'.domain = row.domain ∧ row'.txtToken = row.txtToken)
    (hfailed : ∀ domain asked, .turnedFailed domain asked ∈ s'.log →
      .turnedFailed domain asked ∈ s.log ∨ asked = some domain) : Sound s' := by
  refine ⟨fun t row' hrow' hverified => ?_, fun domain asked hmem => ?_⟩
  · rcases hrows t row' hrow' hverified with hproven | ⟨hputs, row, hrow, hwas, hdomain, htoken⟩
    · exact hproven
    · have hproven := (h.proven t row hrow hwas).grown (hgrown t) hputs
      unfold Proven at hproven ⊢
      rw [hdomain, htoken]
      exact hproven
  · rcases hfailed domain asked hmem with hold | hnew
    · exact h.failed domain asked hold
    · exact hnew

omit [DecidableEq ι] in
lemma Sound.noted (h : Sound s) (hgrown : ∀ t, Grown t s s') (hrows : s'.rows = s.rows)
    (hputs : s'.puts = s.puts) (hlog : s'.log = s.log ∨ ∃ fact, s'.log = fact :: s.log ∧
      ∀ domain asked, fact ≠ .turnedFailed domain asked) : Sound s' := by
  refine h.next hgrown (fun t row hrow hverified => Or.inr ?_) fun domain asked hmem => Or.inl ?_
  · exact ⟨congrFun hputs t, row, hrows ▸ hrow, hverified, rfl, rfl⟩
  · rcases hlog with hlog | ⟨fact, hlog, hne⟩
    · exact hlog ▸ hmem
    · rw [hlog] at hmem
      rcases mem_cons.mp hmem with heq | hmem
      · exact absurd heq.symm (hne domain asked)
      · exact hmem

omit [DecidableEq ι] in
lemma Sound.setRow (h : Sound s) {t₀ : TenantId} {row' : Option SendingDomain}
    (hgrown : ∀ t, Grown t s (s.setRow t₀ row'))
    (hrow : ∀ new ∈ row', new.verifiedAt.isSome = true → Proven t₀ new s.log ∨ ∃ row ∈ s.rows t₀,
      row.verifiedAt.isSome = true ∧ new.domain = row.domain ∧ new.txtToken = row.txtToken) :
    Sound (s.setRow t₀ row') := by
  refine h.next hgrown (fun t new hnew hverified => ?_) fun _ _ hmem => Or.inl hmem
  obtain ⟨rfl, hself⟩ | ⟨-, hother⟩ := update_eq_cases hnew
  · exact (hrow new hself hverified).imp id fun h => ⟨rfl, h⟩
  · exact Or.inr ⟨rfl, new, hother, hverified, rfl, rfl⟩

omit [DecidableEq ι] in
lemma noted_hear (setting : Setting ι) (domain : String) (s : SendingStore ι) :
    (s.hear setting domain).rows = s.rows ∧ (s.hear setting domain).puts = s.puts ∧
      ((s.hear setting domain).log = s.log ∨ ∃ fact, (s.hear setting domain).log = fact :: s.log ∧
        ∀ domain asked, fact ≠ .turnedFailed domain asked) := by
  unfold SendingStore.hear
  split
  · exact ⟨rfl, rfl, Or.inr ⟨_, rfl, by simp⟩⟩
  · exact ⟨rfl, rfl, Or.inl rfl⟩

lemma Sound.plain (h : Sound s) (hc : c.Plain) : Sound (c.run setting s).1 := by
  have hgrown := grown_run setting c s
  cases c with
  | markVerified me t₀ before => exact hc.elim
  | sweepVerified me t₀ => exact hc.elim
  | sweepFailed me t₀ => exact hc.elim
  | customDomains me => exact h
  | get me t₀ => exact h.noted hgrown rfl rfl (Or.inl rfl)
  | find t₀ => exact h
  | otherHolders t₀ sesIdentity => exact h
  | audit => exact h
  | sesCreate domain => exact h.noted hgrown rfl rfl (Or.inl rfl)
  | sesRemove domain => exact h.noted hgrown rfl rfl (Or.inl rfl)
  | select me => exact h.noted hgrown rfl rfl (Or.inl rfl)
  | sesGet domain =>
    obtain ⟨hrows, hputs, hlog⟩ := noted_hear setting domain s
    exact h.noted hgrown hrows hputs hlog
  | readIdentity me domain =>
    obtain ⟨hrows, hputs, hlog⟩ := noted_hear setting domain s
    exact h.noted hgrown hrows hputs hlog
  | txtHas t₀ domain txtToken apex =>
    unfold SendingCommand.run at hgrown ⊢
    dsimp only at hgrown ⊢
    generalize (if apex = true then _ else _ : Bool) = found at hgrown ⊢
    cases found with
    | false => exact h.noted hgrown rfl rfl (Or.inl rfl)
    | true => exact h.noted hgrown rfl rfl (Or.inr ⟨_, rfl, by simp⟩)
  | upsert t₀ input =>
    unfold SendingCommand.run at hgrown ⊢
    dsimp only at hgrown ⊢
    split at hgrown <;> rename_i hmem
    · rw [if_pos hmem]
      refine h.next hgrown (fun t new hnew hverified => ?_) fun domain asked hmem => Or.inl ?_
      · obtain ⟨rfl, hself⟩ | ⟨ht, hother⟩ := update_eq_cases hnew
        · rw [← some.inj hself] at hverified
          cases hverified
        · exact Or.inr ⟨update_of_ne ht .., new, hother, hverified, rfl, rfl⟩
      · rcases mem_cons.mp hmem with heq | hmem
        · cases heq
        · exact hmem
    · rw [if_neg hmem]
      exact h
  | setDkim t₀ dkimTokens sesIdentity =>
    unfold SendingCommand.run at hgrown ⊢
    dsimp only at hgrown ⊢
    split at hgrown
    · exact h
    · rename_i row hrow
      refine h.setRow hgrown fun new hnew hverified => Or.inr ⟨row, hrow, ?_⟩
      rw [← some.inj hnew] at hverified ⊢
      exact ⟨hverified, rfl, rfl⟩
  | markFailed t₀ =>
    unfold SendingCommand.run at hgrown ⊢
    dsimp only at hgrown ⊢
    split at hgrown
    · exact h
    · rename_i row hrow
      refine h.setRow hgrown fun new hnew hverified => Or.inr ⟨row, hrow, ?_⟩
      rw [← some.inj hnew] at hverified ⊢
      exact ⟨hverified, rfl, rfl⟩
  | delete t₀ =>
    unfold SendingCommand.run at hgrown ⊢
    dsimp only at hgrown ⊢
    split at hgrown
    · exact h
    · exact h.setRow hgrown fun new hnew => by cases hnew

variable {me : ι}

lemma Sound.markVerified {before : Option Ms} (h : Sound s)
    (hproven : ∀ row ∈ s.rows t, s.conflict setting t row.domain = false → Proven t row s.log) :
    Sound (SendingCommand.run setting (.markVerified me t before) s).1 := by
  have hgrown := grown_run setting (.markVerified me t before) s
  unfold SendingCommand.run at hgrown ⊢
  dsimp only at hgrown ⊢
  cases hrow : s.rows t with
  | none => exact h
  | some row =>
    rw [hrow] at hgrown
    dsimp only at hgrown ⊢
    split
    · exact h
    rename_i hfree
    rw [if_neg hfree] at hgrown
    refine h.setRow hgrown fun new hnew _ => Or.inl ?_
    have hrowProven := hproven row hrow (Bool.not_eq_true _ ▸ hfree)
    rw [← some.inj hnew]
    exact hrowProven

lemma Sound.sweepVerified (h : Sound s)
    (hproven : ∀ row ∈ s.rows t, row.verifiedAt = none → s.conflict setting t row.domain = false →
      Proven t row s.log) :
    Sound (SendingCommand.run setting (.sweepVerified me t) s).1 := by
  have hgrown := grown_run setting (.sweepVerified me t) s
  unfold SendingCommand.run at hgrown ⊢
  dsimp only at hgrown ⊢
  cases hrow : s.rows t with
  | none => exact h
  | some row =>
    rw [hrow] at hgrown
    dsimp only at hgrown ⊢
    split
    · exact h
    rename_i hwaits
    rw [if_neg hwaits] at hgrown
    split
    · exact h
    rename_i hfree
    rw [if_neg hfree] at hgrown
    refine h.setRow hgrown fun new hnew _ => Or.inl ?_
    have hrowProven := hproven row hrow (not_isSome_iff_eq_none.mp hwaits)
      (Bool.not_eq_true _ ▸ hfree)
    rw [← some.inj hnew]
    exact hrowProven

lemma Sound.sweepFailed (h : Sound s)
    (hasked : ∀ row ∈ s.rows t, row.verifiedAt = none → (s.reads me).head? = some row.domain) :
    Sound (SendingCommand.run setting (.sweepFailed me t) s).1 := by
  have hgrown := grown_run setting (.sweepFailed me t) s
  unfold SendingCommand.run at hgrown ⊢
  dsimp only at hgrown ⊢
  cases hrow : s.rows t with
  | none => exact h
  | some row =>
    rw [hrow] at hgrown
    dsimp only at hgrown ⊢
    split
    · exact h
    rename_i hwaits
    rw [if_neg hwaits] at hgrown
    have hnone : row.verifiedAt = none := not_isSome_iff_eq_none.mp hwaits
    refine h.next hgrown (fun t' new hnew hverified => ?_) fun domain asked hmem => ?_
    · obtain ⟨rfl, hself⟩ | ⟨-, hother⟩ := update_eq_cases hnew
      · rw [← some.inj hself] at hverified
        exact absurd hverified hwaits
      · exact Or.inr ⟨rfl, new, hother, hverified, rfl, rfl⟩
    · rcases mem_cons.mp hmem with heq | hmem
      · cases heq
        exact Or.inr (hasked row hrow hnone)
      · exact Or.inl hmem

/-! ## One request or sweep among others -/

/-- What a request or a sweep promises. -/
def Promise (me : ι) (_ : SendingCommand ι) (s s' : SendingStore ι) : Prop :=
  (Sound s → Sound s') ∧ ∀ j, j ≠ me → Rely j s s'

variable {α β : Type} {me : ι} {Q : Except SendingError α → SendingStore ι → Prop}

/-- Among others a request or a sweep keeps its promise, as long as its steps are orderly. -/
abbrev Guarded (me : ι) (Q : Except SendingError α → SendingStore ι → Prop)
    (m : Request ι setting α) (s : SendingStore ι) : Prop :=
  Meets (Orderly setting) (fun _ => Rely me) (Promise me) Q m s

/-- The commands that neither verify nor mark. -/
def SendingCommand.Free (c : SendingCommand ι) : Prop := c.Plain ∧ ∀ j, ¬ c.Touches j

omit [DecidableEq ι] in
lemma Rely.refl (j : ι) (s : SendingStore ι) : Rely j s s :=
  ⟨rfl, rfl, rfl, fun t => .of_same rfl rfl rfl t⟩

omit [DecidableEq ι] in
lemma stable_true : Stable (Rely me) fun _ => True := fun _ _ _ _ => trivial

lemma guarded_done (r : α) (s : SendingStore ι) :
    Guarded me (fun _ _ => True) (.done r : Request ι setting α) s :=
  .done (fun _ => True) trivial stable_true fun _ _ => trivial

lemma guarded_threw (e : SendingError) (s : SendingStore ι) :
    Guarded me (fun _ _ => True) (.threw e : Request ι setting α) s :=
  .threw (fun _ => True) trivial stable_true fun _ _ => trivial

variable (setting) in
lemma SendingCommand.Free.answer {c : SendingCommand ι} (hc : c.Free) (s : SendingStore ι)
    (fate : Fate) : (Sound s → Sound ((sendingService ι setting).answer c s fate).1) ∧
      ∀ j, Rely j s ((sendingService ι setting).answer c s fate).1 := by
  cases fate with
  | ok => exact ⟨fun h => h.plain hc.1, fun j => rely_run (hc.2 j) s⟩
  | refused => exact ⟨fun h => h, fun j => .refl j s⟩
  | lost => exact ⟨fun h => h.plain hc.1, fun j => rely_run (hc.2 j) s⟩

variable {J : SendingStore ι → Prop}

variable {m : Request ι setting α}

lemma guarded_free (hm : m.Sends SendingCommand.Free) (hJ : Stable (Rely me) J) (hs : J s) :
    Guarded me (fun _ => J) m s := by
  induction m generalizing s with
  | done r => exact .done J hs hJ fun _ h => h
  | threw e => exact .threw J hs hJ fun _ h => h
  | call c k ih =>
    refine ⟨J, hs, hJ, fun s hs fate _ => ?_⟩
    obtain ⟨hsound, hrely⟩ := hm.1.answer setting s fate
    exact ⟨⟨hsound, fun j _ => hrely j⟩, ih _ (hm.2 _) (hJ _ _ (hrely me) hs)⟩

lemma guarded_any (hm : m.Sends SendingCommand.Free) (s : SendingStore ι) :
    Guarded me (fun _ _ => True) m s :=
  guarded_free (J := fun _ => True) hm stable_true trivial

/-- What the request has read of the row, and the facts that it has seen since, hold as long as the
row is not put. -/
def Known (me : ι) (t : TenantId) (domain txtToken : String) (facts : List Fact)
    (s : SendingStore ι) : Prop :=
  s.mark me t ≤ s.puts t ∧ (NotPutSince me t s →
    (∀ row ∈ s.rows t, row.domain = domain ∧ row.txtToken = txtToken) ∧
    ∀ fact ∈ facts, fact ∈ since t s.log)

def Heard (me : ι) (t : TenantId) (domain : String) (s : SendingStore ι) : Prop :=
  s.mark me t ≤ s.puts t ∧ (NotPutSince me t s → .sesVerified domain ∈ since t s.log)

omit [DecidableEq ι] in
lemma Rely.notPutSince (h : Rely me s s') (hle : s.mark me t ≤ s.puts t)
    (hsince : NotPutSince me t s') : s'.puts t = s.puts t ∧ NotPutSince me t s := by
  unfold NotPutSince at hsince ⊢
  rw [h.mark] at hsince
  have hputs : s'.puts t = s.puts t := le_antisymm (hsince ▸ hle) (h.grown t).1
  exact ⟨hputs, hsince.trans hputs⟩

omit [DecidableEq ι] in
lemma stable_known {domain txtToken : String} {facts : List Fact} :
    Stable (Rely me) (Known me t domain txtToken facts) := by
  intro s s' henv h
  refine ⟨?_, fun hsince => ?_⟩
  · rw [henv.mark]
    exact le_trans h.1 (henv.grown t).1
  obtain ⟨hputs, hwas⟩ := henv.notPutSince h.1 hsince
  obtain ⟨hrows, hfacts⟩ := h.2 hwas
  obtain ⟨hrows', hfacts'⟩ := (henv.grown t).2 hputs
  refine ⟨fun row' hrow' => ?_, fun fact hfact => hfacts' fact (hfacts fact hfact)⟩
  obtain ⟨row, hrow, hdomain, htoken⟩ := hrows' row' hrow'
  rw [hdomain, htoken]
  exact hrows row hrow

omit [DecidableEq ι] in
lemma stable_heard {domain : String} : Stable (Rely me) (Heard me t domain) := by
  intro s s' henv h
  refine ⟨?_, fun hsince => ?_⟩
  · rw [henv.mark]
    exact le_trans h.1 (henv.grown t).1
  · obtain ⟨hputs, hwas⟩ := henv.notPutSince h.1 hsince
    exact ((henv.grown t).2 hputs).2 _ (h.2 hwas)

omit [DecidableEq ι] in
lemma Known.note {domain txtToken : String} {facts : List Fact}
    (h : Known me t domain txtToken facts s) (hfact : fact ≠ .put t) :
    Known me t domain txtToken (fact :: facts) (s.note fact) := by
  refine ⟨h.1, fun hsince => ⟨(h.2 hsince).1, fun x hx => ?_⟩⟩
  show x ∈ since t (fact :: s.log)
  rw [since_cons_of_ne hfact]
  rcases mem_cons.mp hx with rfl | hx
  · exact mem_cons_self
  · exact mem_cons_of_mem _ ((h.2 hsince).2 x hx)

/-! ## The routes -/

lemma sends_free (hc : c.Free) : (send c : Request ι setting c.Answer).Sends SendingCommand.Free :=
  Sends.send (V := sendingService ι setting) (c := c) hc

lemma sends_freeOr (hc : c.Free) (a : c.Answer) :
    (sendOr c a : Request ι setting c.Answer).Sends SendingCommand.Free := ⟨hc, fun _ => trivial⟩

lemma sends_updated (r : Option α) :
    (updated r : Request ι setting α).Sends SendingCommand.Free := by
  cases r <;> trivial

omit [DecidableEq ι] in
lemma free_find (t : TenantId) : (.find t : SendingCommand ι).Free := ⟨trivial, fun _ h => h⟩

lemma sends_audit (r : α) :
    (send .audit >>= fun _ => pure r : Request ι setting α).Sends SendingCommand.Free :=
  .bind (sends_free (c := .audit) ⟨trivial, fun _ h => h⟩) fun _ => trivial

lemma sends_put (t : TenantId) (input : PutInput) :
    (put t input : Request ι setting SendingDomain).Sends SendingCommand.Free := by
  refine .bind (sends_free (free_find t)) fun _ => ?_
  refine .bind (sends_free (c := .upsert t input) ⟨trivial, fun _ h => h⟩) fun upserted => ?_
  exact .bind (sends_updated upserted) fun row => sends_audit row

lemma sends_setDkim (t : TenantId) (dkimTokens : List String) (sesIdentity : String) :
    (setDkim t dkimTokens sesIdentity : Request ι setting _).Sends SendingCommand.Free := by
  refine .bind (sends_free (free_find t)) fun before => ?_
  cases before with
  | none => trivial
  | some before =>
    refine .bind (sends_free (c := .setDkim t dkimTokens sesIdentity) ⟨trivial, fun _ h => h⟩)
      fun written => ?_
    exact .bind (sends_updated written) fun row => sends_audit (some row)

lemma sends_answerFailed (t : TenantId) :
    (answerFailed t : Request ι setting Reply).Sends SendingCommand.Free := by
  have hmark : (markFailed t : Request ι setting _).Sends SendingCommand.Free := by
    refine .bind (sends_free (free_find t)) fun before => ?_
    cases before with
    | none => trivial
    | some before =>
      refine .bind (sends_free (c := .markFailed t) ⟨trivial, fun _ h => h⟩) fun written => ?_
      exact .bind (sends_updated written) fun row => sends_audit (some row)
  refine .bind hmark fun row => ?_
  cases row <;> trivial

lemma sends_remove (t : TenantId) :
    (remove t : Request ι setting Bool).Sends SendingCommand.Free := by
  refine .bind (sends_free (free_find t)) fun before => ?_
  cases before with
  | none => trivial
  | some before =>
    refine .bind (sends_free (c := .delete t) ⟨trivial, fun _ h => h⟩) fun deleted => ?_
    exact .bind (sends_updated deleted) fun _ => sends_audit true

lemma sends_removeIdentity (t : TenantId) (sesIdentity : String) :
    (removeIdentity t sesIdentity : Request ι setting Unit).Sends SendingCommand.Free := by
  refine .bind (sends_free (c := .otherHolders t sesIdentity) ⟨trivial, fun _ h => h⟩) fun _ => ?_
  exact .when (sends_freeOr (c := .sesRemove sesIdentity) ⟨trivial, fun _ h => h⟩ ())

lemma sends_createIdentity (t : TenantId) (row : SendingDomain) :
    (createIdentity t row : Request ι setting Reply).Sends SendingCommand.Free := by
  refine Sends.attempt (.bind (sends_freeOr (c := .sesCreate row.domain)
    ⟨trivial, fun _ h => h⟩ none) fun created => ?_) fun _ => trivial
  cases created with
  | none => trivial
  | some created => exact .bind (sends_setDkim t _ _) fun _ => trivial

lemma sends_postSendingDomain (me : ι) (a : Users.AuthContext) (body : Option (String × String)) :
    (postSendingDomain me a body : Request ι setting Reply).Sends SendingCommand.Free := by
  unfold postSendingDomain
  split
  · trivial
  split
  · trivial
  split
  · trivial
  split
  · trivial
  refine .bind (sends_free (free_find a.tenantId)) fun previous => ?_
  refine .bind (sends_put a.tenantId _) fun row => ?_
  split
  · trivial
  exact .bind (.when (sends_removeIdentity a.tenantId _)) fun _ => trivial

lemma sends_deleteSendingDomain (a : Users.AuthContext) :
    (deleteSendingDomain a : Request ι setting Reply).Sends SendingCommand.Free := by
  unfold deleteSendingDomain
  split
  · trivial
  split
  · trivial
  refine .bind (sends_free (free_find a.tenantId)) fun row => ?_
  cases row with
  | none => trivial
  | some row =>
    refine .bind (sends_remove a.tenantId) fun _ => ?_
    cases row.sesIdentity with
    | none => trivial
    | some sesIdentity => exact .bind (sends_removeIdentity a.tenantId sesIdentity) fun _ => trivial

variable {txtToken : String}

lemma guarded_txtHas (apex : Bool) (hs : Known me t domain txtToken [] s) :
    Guarded me (fun r s => Known me t domain txtToken [] s ∧
      (r = .ok true → Known me t domain txtToken [.txtFound t domain txtToken] s))
      (sendOr (.txtHas t domain txtToken apex) false : Request ι setting Bool) s := by
  refine ⟨Known me t domain txtToken [], hs, stable_known, fun s hs fate hfate => ?_⟩
  obtain rfl : fate = .ok := hfate
  have hfree : (.txtHas t domain txtToken apex : SendingCommand ι).Free := ⟨trivial, fun _ h => h⟩
  obtain ⟨hsound, hrely⟩ := hfree.answer setting s .ok
  have hknown := stable_known s _ (hrely me) hs
  refine ⟨⟨hsound, fun j _ => hrely j⟩, ?_⟩
  show Guarded me (fun r s => Known me t domain txtToken [] s ∧
    (r = .ok true → Known me t domain txtToken [.txtFound t domain txtToken] s))
    (.done (SendingCommand.run setting (.txtHas t domain txtToken apex) s).2 :
      Request ι setting Bool) (SendingCommand.run setting (.txtHas t domain txtToken apex) s).1
  cases hfound : (SendingCommand.run setting (.txtHas t domain txtToken apex) s).2 with
  | false =>
    exact .done _ hknown stable_known fun s h => ⟨h, fun heq => by cases heq⟩
  | true =>
    have hstate : (SendingCommand.run setting (.txtHas t domain txtToken apex) s).1 =
        s.count.note (.txtFound t domain txtToken) := if_pos hfound
    have hnoted : Known me t domain txtToken [.txtFound t domain txtToken]
        (s.count.note (.txtFound t domain txtToken)) :=
      Known.note (s := s.count) hs (by simp)
    rw [← hstate] at hnoted
    refine .done _ hnoted stable_known fun s h => ⟨⟨h.1, fun hsince => ?_⟩, fun _ => h⟩
    exact ⟨(h.2 hsince).1, fun fact hfact => by cases hfact⟩

lemma guarded_verifyDomainTxt (hs : Known me t domain txtToken [] s) :
    Guarded me (fun r s =>
      r = .ok true → Known me t domain txtToken [.txtFound t domain txtToken] s)
      (verifyDomainTxt t domain txtToken : Request ι setting Bool) s := by
  refine (guarded_txtHas false hs).bind (fun found s hs => ?_) fun _ _ _ h => by cases h
  cases found with
  | true => exact .done _ (hs.2 rfl) stable_known fun s h _ => h
  | false => exact (guarded_txtHas true hs.1).mono fun _ _ h => h.2

lemma guarded_sesGet {facts : List Fact} (hs : Known me t domain txtToken facts s) :
    Guarded me (fun r s => ∀ identity, r = .ok identity →
      statusOf identity = some (some .verified) →
        Known me t domain txtToken (.sesVerified domain :: facts) s)
      (sendOr (.sesGet domain) none : Request ι setting (Option (Option SesIdentity))) s := by
  refine ⟨Known me t domain txtToken facts, hs, stable_known, fun s hs fate hfate => ?_⟩
  obtain rfl : fate = .ok := hfate
  have hfree : (.sesGet domain : SendingCommand ι).Free := ⟨trivial, fun _ h => h⟩
  obtain ⟨hsound, hrely⟩ := hfree.answer setting s .ok
  refine ⟨⟨hsound, fun j _ => hrely j⟩, ?_⟩
  show Meets _ _ _ _ (.done (setting.identity s.answered domain)) (s.hear setting domain)
  by_cases hstatus : statusOf (setting.identity s.answered domain) = some (some .verified)
  · rw [hear_verified hstatus]
    have hnoted : Known me t domain txtToken (.sesVerified domain :: facts)
        (s.count.note (.sesVerified domain)) := Known.note (s := s.count) hs (by simp)
    exact .done _ hnoted stable_known fun s h _ _ _ => h
  · refine .done (fun _ => True) trivial stable_true fun s _ identity heq hverified => ?_
    cases heq
    exact absurd hverified hstatus

variable {f : c.Answer → Request ι setting α}

/-- One command, however it ends. -/
lemma guarded_send (hs : J s) (hJ : Stable (Rely me) J) (hok : ∀ s, J s → Orderly setting s c .ok →
      Promise me c s (c.run setting s).1 ∧ Guarded me Q (f (c.run setting s).2) (c.run setting s).1)
    (hrefused : ∀ s, J s → Orderly setting s c .refused →
      Guarded me Q (.threw .failed : Request ι setting α) s)
    (hlost : ∀ s, J s → Orderly setting s c .lost → Promise me c s (c.run setting s).1 ∧
      Guarded me Q (.threw .failed : Request ι setting α) (c.run setting s).1) :
    Guarded me Q (send c >>= f) s := by
  unfold send
  rw [send_bind]
  refine ⟨J, hs, hJ, fun s hs fate hfate => ?_⟩
  cases fate with
  | ok => exact hok s hs hfate
  | refused => exact ⟨⟨fun h => h, fun j _ => .refl j s⟩, hrefused s hs hfate⟩
  | lost => exact hlost s hs hfate

lemma guarded_write (hs : J s) (hJ : Stable (Rely me) J) (htouches : ∀ j, ¬ c.Touches j)
    (hsound : ∀ s fate, J s → Orderly setting s c fate → fate ≠ .refused → Sound s →
      Sound (c.run setting s).1) (hf : ∀ r, (f r).Sends SendingCommand.Free) :
    Guarded me (fun _ _ => True) (send c >>= f) s := by
  have hpromise : ∀ s fate, J s → Orderly setting s c fate → fate ≠ .refused →
      Promise me c s (c.run setting s).1 := fun s fate hs hfate hne =>
    ⟨hsound s fate hs hfate hne, fun j _ => rely_run (htouches j) s⟩
  refine guarded_send hs hJ (fun s hs hfate => ?_) (fun s _ _ => guarded_threw _ s)
    fun s hs hfate => ?_
  · exact ⟨hpromise s .ok hs hfate (by decide), guarded_any (hf _) _⟩
  · exact ⟨hpromise s .lost hs hfate (by decide), guarded_threw _ _⟩

lemma guarded_markVerified
    (hs : Known me t domain txtToken [.sesVerified domain, .txtFound t domain txtToken] s) :
    Guarded me (fun _ _ => True) (markVerified me t : Request ι setting _) s := by
  refine (guarded_free (sends_free (free_find t)) stable_known hs).bind (fun before s hs => ?_)
    fun _ _ _ => trivial
  cases before with
  | none => exact guarded_done _ s
  | some before =>
    dsimp only
    split
    · exact guarded_done _ s
    refine guarded_write hs stable_known (fun _ h => h) (fun s fate hs hfate hne hsound => ?_)
      fun written => ?_
    · refine hsound.markVerified fun row hrow hfree => ?_
      obtain ⟨hrows, hfacts⟩ := hs.2 (hfate hne row hrow hfree)
      obtain ⟨hdomain, htoken⟩ := hrows row hrow
      unfold Proven
      rw [hdomain, htoken]
      exact ⟨hfacts _ (mem_cons_of_mem _ mem_cons_self), hfacts _ mem_cons_self⟩
    · cases written with
      | error e => trivial
      | ok written => exact .bind (sends_updated written) fun row => sends_audit (some row)

lemma guarded_answerVerified
    (hs : Known me t domain txtToken [.sesVerified domain, .txtFound t domain txtToken] s) :
    Guarded me (fun _ _ => True) (answerVerified me t : Request ι setting Reply) s := by
  refine Meets.attempt (S := fun _ _ => True) ?_ (fun _ _ _ => trivial) fun e s _ => ?_
  · refine (guarded_markVerified hs).bind (fun row s _ => ?_) fun _ _ _ => trivial
    cases row with
    | none => exact guarded_done _ s
    | some row => exact guarded_done _ s
  · cases e with
    | failed => exact guarded_threw _ s
    | sendingDomainConflict => exact guarded_done _ s

/-- The read by which the route decides. -/
lemma guarded_get (s : SendingStore ι) :
    Guarded me (fun r s => ∀ row, r = .ok (some row) → Known me t row.domain row.txtToken [] s)
      (send (.get me t) : Request ι setting (Option SendingDomain)) s := by
  have hpromise : ∀ s, Promise me (.get me t) s (SendingCommand.run setting (.get me t) s).1 :=
    fun s => ⟨fun h => h.plain trivial, fun j hj => rely_run (c := .get me t) (Ne.symm hj) s⟩
  have hthrow : ∀ s, Guarded me
      (fun r s => ∀ row, r = .ok (some row) → Known me t row.domain row.txtToken [] s)
      (.threw .failed : Request ι setting (Option SendingDomain)) s := fun s =>
    .threw (fun _ => True) trivial stable_true fun _ _ _ h => by cases h
  refine ⟨fun _ => True, trivial, stable_true, fun s _ fate _ => ?_⟩
  cases fate with
  | refused => exact ⟨⟨fun h => h, fun j _ => .refl j s⟩, hthrow s⟩
  | lost => exact ⟨hpromise s, hthrow _⟩
  | ok =>
    refine ⟨hpromise s, ?_⟩
    show Guarded me (fun r s => ∀ row, r = .ok (some row) → Known me t row.domain row.txtToken [] s)
      (.done (s.rows t) : Request ι setting _) (SendingCommand.run setting (.get me t) s).1
    cases hrow : s.rows t with
    | none => exact .done (fun _ => True) trivial stable_true fun _ _ _ h => by cases h
    | some row =>
      have hmark : (SendingCommand.run setting (.get me t) s).1.mark me = s.puts := update_self ..
      refine .done (Known me t row.domain row.txtToken []) ⟨?_, fun _ => ⟨fun row' hrow' => ?_, ?_⟩⟩
        stable_known fun s h row' heq => ?_
      · exact (congrFun hmark t).le
      · have heq : s.rows t = some row' := hrow'
        rw [hrow] at heq
        cases heq
        exact ⟨rfl, rfl⟩
      · exact fun fact hfact => by cases hfact
      · cases heq
        exact h

lemma guarded_verifySendingDomain (a : Users.AuthContext) (s : SendingStore ι) :
    Guarded me (fun _ _ => True) (verifySendingDomain me a : Request ι setting Reply) s := by
  unfold verifySendingDomain
  split
  · exact guarded_done _ s
  split
  · exact guarded_done _ s
  refine (guarded_get s).bind (fun row s hs => ?_) fun _ _ _ => trivial
  cases row with
  | none => exact guarded_done _ s
  | some row =>
    refine (guarded_verifyDomainTxt (hs row rfl)).bind (fun found s hs => ?_) fun _ _ _ => trivial
    cases found with
    | false => exact guarded_done _ s
    | true =>
      dsimp only
      rw [if_pos rfl]
      split
      · exact guarded_any (sends_createIdentity a.tenantId row) s
      refine (guarded_sesGet (hs rfl)).bind (fun identity s hs => ?_) fun _ _ _ => trivial
      split
      · exact guarded_done _ s
      · rename_i hstatus
        exact guarded_answerVerified (hs identity rfl hstatus)
      · exact guarded_any (sends_answerFailed a.tenantId) s
      · exact guarded_done _ s

/-! ## The sweep -/

/-- The rows that a sweep goes through. -/
def waiting (setting : Setting ι) (rows : TenantId → Option SendingDomain) :
    List (TenantId × String) :=
  setting.tenants.filterMap fun tenantId =>
    ((rows tenantId).filter (·.verifiedAt.isNone)).map fun row => (tenantId, row.domain)

omit [DecidableEq ι] in
lemma mem_waiting {rows : TenantId → Option SendingDomain} {x : TenantId × String} :
    x ∈ waiting setting rows ↔
      x.1 ∈ setting.tenants ∧ ∃ row ∈ rows x.1, row.verifiedAt = none ∧ row.domain = x.2 := by
  unfold waiting
  rw [mem_filterMap]
  constructor
  · rintro ⟨tenantId, hmem, hx⟩
    obtain ⟨row, hrow, rfl⟩ := map_eq_some_iff.mp hx
    obtain ⟨hrow, hnone⟩ := filter_eq_some_iff.mp hrow
    exact ⟨hmem, row, hrow, isNone_iff_eq_none.mp hnone, rfl⟩
  · rintro ⟨hmem, row, hrow, hnone, hdomain⟩
    have hfiltered : (rows x.1).filter (·.verifiedAt.isNone) = some row :=
      filter_eq_some_iff.mpr ⟨hrow, isNone_iff_eq_none.mpr hnone⟩
    exact ⟨x.1, hmem, map_eq_some_iff.mpr ⟨row, hfiltered, by rw [hdomain]⟩⟩

/-- The sweep has begun with these rows, and has asked about the first of them. -/
def Sweeping (me : ι) (rows : TenantId → Option SendingDomain)
    (before : List (TenantId × String)) (s : SendingStore ι) : Prop :=
  s.began me = some rows ∧ ∀ x ∈ before, x.2 ∈ s.reads me

omit [DecidableEq ι] in
lemma stable_sweeping {rows : TenantId → Option SendingDomain} {before : List (TenantId × String)} :
    Stable (Rely me) (Sweeping me rows before) := by
  intro s s' henv h
  unfold Sweeping
  rw [henv.began, henv.reads]
  exact h

omit [DecidableEq ι] in
lemma stable_asked : Stable (Rely me) (Asked setting me) := by
  intro s s' henv h
  unfold Asked
  rw [henv.began, henv.reads]
  exact h

omit [DecidableEq ι] in
lemma Sweeping.asked {rows : TenantId → Option SendingDomain}
    (h : Sweeping me rows (waiting setting rows) s) : Asked setting me s :=
  ⟨rows, h.1, fun t ht row hrow hnone =>
    h.2 (t, row.domain) (mem_waiting.mpr ⟨ht, row, hrow, hnone, rfl⟩)⟩

/-- How a sweep ends: with every waiting row asked about. -/
abbrev Sweeps (me : ι) (P : α → SendingStore ι → Prop) (m : Request ι setting α)
    (s : SendingStore ι) : Prop := Guarded me (Ending P (Asked setting me)) m s

variable {rows : TenantId → Option SendingDomain} {before : List (TenantId × String)}

lemma sweeps_readIdentity (x : TenantId × String) (hs : Sweeping me rows before s) :
    Sweeps me (fun identity s => Sweeping me rows (before ++ [x]) s ∧
        (s.reads me).head? = some x.2 ∧
        (statusOf identity = some (some .verified) → Heard me x.1 x.2 s))
      (sendOr (.readIdentity me x.2) none : Request ι setting (Option (Option SesIdentity))) s := by
  refine ⟨Sweeping me rows before, hs, stable_sweeping, fun s hs fate hfate => ?_⟩
  obtain rfl : fate = .ok := hfate
  set s' := (SendingCommand.run setting (.readIdentity me x.2) s).1 with hs'
  have hreads : s'.reads me = x.2 :: s.reads me := update_self ..
  have hmark : s'.mark me = s.puts := update_self ..
  have hbegan : s'.began me = s.began me := (marks_hear setting x.2 s me).2.1
  have hputs : s'.puts = s.puts := (noted_hear setting x.2 s).2.1
  have hsweeping : Sweeping me rows (before ++ [x]) s' := by
    refine ⟨hbegan.trans hs.1, fun y hy => ?_⟩
    rw [hreads]
    rcases mem_append.mp hy with hy | hy
    · exact mem_cons_of_mem _ (hs.2 y hy)
    · rw [mem_singleton.mp hy]
      exact mem_cons_self
  have hheard : statusOf (setting.identity s.answered x.2) = some (some .verified) →
      Heard me x.1 x.2 s' := by
    intro hstatus
    refine ⟨?_, fun _ => ?_⟩
    · rw [hmark, hputs]
    show .sesVerified x.2 ∈ since x.1 (s.hear setting x.2).log
    rw [hear_verified hstatus]
    show .sesVerified x.2 ∈ since x.1 (.sesVerified x.2 :: s.log)
    rw [since_cons_of_ne (by simp)]
    exact mem_cons_self
  have hrely : ∀ j, j ≠ me → Rely j s s' := fun j hj =>
    rely_run (c := .readIdentity me x.2) (Ne.symm hj) s
  refine ⟨⟨fun h => h.plain trivial, hrely⟩, ?_⟩
  show Sweeps me _ (.done (setting.identity s.answered x.2) : Request ι setting _) s'
  refine .done (fun s => Sweeping me rows (before ++ [x]) s ∧ (s.reads me).head? = some x.2 ∧
    (statusOf (setting.identity _ x.2) = some (some .verified) → Heard me x.1 x.2 s))
    ⟨hsweeping, by rw [hreads]; rfl, hheard⟩ ?_ fun _ h => h
  intro s₁ s₂ henv h
  have hhead : (s₂.reads me).head? = some x.2 := by
    rw [henv.reads]
    exact h.2.1
  exact ⟨stable_sweeping s₁ s₂ henv h.1, hhead, fun hstatus =>
    stable_heard s₁ s₂ henv (h.2.2 hstatus)⟩

/-- What a sweep knows when it has asked about a row. -/
def Answered (me : ι) (rows : TenantId → Option SendingDomain) (before : List (TenantId × String))
    (x : TenantId × String) (s : SendingStore ι) : Prop :=
  Sweeping me rows (before ++ [x]) s ∧ (s.reads me).head? = some x.2

omit [DecidableEq ι] in
lemma stable_answered {rows : TenantId → Option SendingDomain} {before : List (TenantId × String)}
    {x : TenantId × String} : Stable (Rely me) (Answered me rows before x) := by
  intro s s' henv h
  refine ⟨stable_sweeping s s' henv h.1, ?_⟩
  rw [henv.reads]
  exact h.2

omit [DecidableEq ι] in
lemma StillSelected.domain_eq {rows : TenantId → Option SendingDomain}
    {before : List (TenantId × String)} {x : TenantId × String} {row : SendingDomain}
    (h : StillSelected me x.1 row s) (hanswered : Answered me rows before x s)
    (hx : x ∈ waiting setting rows) : row.domain = x.2 := by
  obtain ⟨rows', hrows', old, hold, hdomain⟩ := h
  cases hanswered.1.1.symm.trans hrows'
  obtain ⟨-, row', hrow', -, hdomain'⟩ := mem_waiting.mp hx
  cases hold.symm.trans hrow'
  exact hdomain.symm.trans hdomain'

/-- The unique index refuses a row that waits. -/
lemma conflict_of_error {e : Unit}
    (h : (SendingCommand.run setting (.sweepVerified me t) s).2 = .error e) :
    ∃ row ∈ s.rows t, row.verifiedAt = none ∧ s.conflict setting t row.domain = true := by
  unfold SendingCommand.run at h
  dsimp only at h
  cases hrow : s.rows t with
  | none =>
    rw [hrow] at h
    cases h
  | some row =>
    rw [hrow] at h
    dsimp only at h
    split at h
    · cases h
    rename_i hwaits
    split at h
    · rename_i hconflict
      exact ⟨row, rfl, not_isSome_iff_eq_none.mp hwaits, hconflict⟩
    · cases h

variable {x : TenantId × String}

lemma sweeps_sweepVerified (hx : x ∈ waiting setting rows) (hs : Answered me rows before x s)
    (hheard : Heard me x.1 x.2 s) (out : SweepResult) :
    Sweeps me (fun _ => Sweeping me rows (before ++ [x])) (do
      let written : Except Unit Unit ← send (.sweepVerified me x.1)
      match written with
      | .error _ => .threw .failed
      | .ok _ => pure out : Request ι setting SweepResult) s := by
  have hthrow : ∀ s, Asked setting me s → Sweeps me (fun _ => Sweeping me rows (before ++ [x]))
      (.threw .failed : Request ι setting SweepResult) s :=
    fun s h => .threw _ h stable_asked fun _ h => h
  have hrely : ∀ s j, Rely j s (SendingCommand.run setting (.sweepVerified me x.1) s).1 :=
    fun s j => rely_run (c := .sweepVerified me x.1) (fun h => h) s
  have hpromise : ∀ s fate, Answered me rows before x s → Heard me x.1 x.2 s →
      Orderly setting s (.sweepVerified me x.1) fate → fate ≠ .refused →
      Promise me (.sweepVerified me x.1) s
        (SendingCommand.run setting (.sweepVerified me x.1) s).1 := by
    intro s fate hanswered hheard hfate hne
    refine ⟨fun hsound => ?_, fun j _ => hrely s j⟩
    refine hsound.sweepVerified fun row hrow hnone hfree => ?_
    obtain ⟨hsince, hselected, hfound⟩ := hfate.1 hne row hrow hnone hfree
    have hdomain := hselected.domain_eq hanswered hx
    refine ⟨hfound, ?_⟩
    rw [hdomain]
    exact hheard.2 hsince
  refine guarded_send (J := fun s => Answered me rows before x s ∧ Heard me x.1 x.2 s) ⟨hs, hheard⟩
    (fun s s' henv h => ⟨stable_answered s s' henv h.1, stable_heard s s' henv h.2⟩)
    (fun s hs hfate => ?_) (fun s _ hfate => hthrow s (hfate.2 (Or.inl (by decide))))
    fun s hs hfate => ?_
  · refine ⟨hpromise s .ok hs.1 hs.2 hfate (by decide), ?_⟩
    have hsweeping := stable_sweeping s _ (hrely s me) hs.1.1
    cases hwritten : (SendingCommand.run setting (.sweepVerified me x.1) s).2 with
    | ok _ => exact .done _ hsweeping stable_sweeping fun _ h => h
    | error e =>
      refine hthrow _ (stable_asked s _ (hrely s me) (hfate.2 (Or.inr ?_)))
      exact conflict_of_error hwritten
  · exact ⟨hpromise s .lost hs.1 hs.2 hfate (by decide),
      hthrow _ (stable_asked s _ (hrely s me) (hfate.2 (Or.inl (by decide))))⟩

lemma sweeps_sweepFailed (hx : x ∈ waiting setting rows) (hs : Answered me rows before x s)
    (out : SweepResult) :
    Sweeps me (fun _ => Sweeping me rows (before ++ [x])) (do
      let _ : Unit ← send (.sweepFailed me x.1)
      pure out : Request ι setting SweepResult) s := by
  have hrely : ∀ s j, Rely j s (SendingCommand.run setting (.sweepFailed me x.1) s).1 :=
    fun s j => rely_run (c := .sweepFailed me x.1) (fun h => h) s
  have hpromise : ∀ s fate, Answered me rows before x s →
      Orderly setting s (.sweepFailed me x.1) fate → fate ≠ .refused →
      Promise me (.sweepFailed me x.1) s
        (SendingCommand.run setting (.sweepFailed me x.1) s).1 := by
    intro s fate hs hfate hne
    refine ⟨fun hsound => ?_, fun j _ => hrely s j⟩
    refine hsound.sweepFailed fun row hrow hnone => ?_
    rw [(hfate.1 hne row hrow hnone).domain_eq hs hx]
    exact hs.2
  refine guarded_send hs stable_answered (fun s hs hfate => ?_)
    (fun s _ hfate => .threw _ (hfate.2 (by decide)) stable_asked fun _ h => h)
    fun s hs hfate => ?_
  · exact ⟨hpromise s .ok hs hfate (by decide),
      .done _ (stable_sweeping s _ (hrely s me) hs.1) stable_sweeping fun _ h => h⟩
  · refine ⟨hpromise s .lost hs hfate (by decide), ?_⟩
    exact .threw _ (stable_asked s _ (hrely s me) (hfate.2 (by decide))) stable_asked fun _ h => h

lemma sweeps_sweepRow (hx : x ∈ waiting setting rows) (hs : Sweeping me rows before s)
    (out : SweepResult) :
    Sweeps me (fun _ => Sweeping me rows (before ++ [x]))
      (sweepRow me out x : Request ι setting SweepResult) s := by
  have hdone : ∀ (out : SweepResult) s, Sweeping me rows (before ++ [x]) s →
      Sweeps me (fun _ => Sweeping me rows (before ++ [x]))
        (.done out : Request ι setting SweepResult) s :=
    fun out s h => .done _ h stable_sweeping fun _ h => h
  refine (sweeps_readIdentity x hs).bind (fun identity s hs => ?_) fun _ _ h => h
  obtain ⟨hsweeping, hhead, hheard⟩ := hs
  split
  · exact hdone _ s hsweeping
  · rename_i hstatus
    exact sweeps_sweepVerified hx ⟨hsweeping, hhead⟩ (hheard hstatus) _
  · exact sweeps_sweepFailed hx ⟨hsweeping, hhead⟩ _
  · exact hdone _ s hsweeping

/-- **A sweep** asks about every row that waits. -/
lemma sweeps_runSendingVerify (hread : setting.readIdentity = true) (s : SendingStore ι) :
    Sweeps me (fun _ => Asked setting me)
      (runSendingVerify me : Request ι setting SweepResult) s := by
  refine guarded_send (J := fun _ => True) trivial stable_true (fun s _ _ => ?_)
    (fun s _ hfate => by cases hfate) fun s _ hfate => by cases hfate
  refine ⟨⟨fun h => h.plain trivial, fun j hj => rely_run (c := .select me) (Ne.symm hj) s⟩, ?_⟩
  rw [if_neg (by rw [hread]; decide)]
  have hbegan : Sweeping me s.rows [] (SendingCommand.run setting (.select me) s).1 :=
    ⟨update_self .., fun _ h => by cases h⟩
  show Sweeps me (fun _ => Asked setting me)
    ((waiting setting s.rows).foldlM (sweepRow me) _ : Request ι setting SweepResult) _
  refine (Meets.foldlM (fun before _ => Sweeping me s.rows before) (fun _ => stable_sweeping)
    (fun before x after out s' hl hs => sweeps_sweepRow ?_ hs out) hbegan).mono fun r s' hr => ?_
  · rw [hl]
    exact mem_append_right _ mem_cons_self
  · cases r with
    | ok out => exact hr.asked
    | error e => exact hr

/-! ## Any requests and sweeps in any order -/

section Pool

variable {calls : ι → SendingCall} {p p' : Pool ι (sendingService ι setting) SendingError Reply}

lemma guarded_guardedBy {a : Users.AuthContext} {entitled : Bool} {route : Request ι setting Reply}
    (hroute : ∀ s, Guarded me (fun _ _ => True) route s) (s : SendingStore ι) :
    Guarded me (fun _ _ => True) (guardedBy me a entitled route) s := by
  unfold guardedBy
  split
  · exact guarded_done _ s
  split
  · have hfree : (.customDomains me : SendingCommand ι).Free := ⟨trivial, fun _ h => h⟩
    refine (guarded_any (sends_free hfree) s).bind (fun allowed s _ => ?_) fun _ _ _ => trivial
    cases allowed with
    | false => exact guarded_done _ s
    | true => exact hroute s
  · exact hroute s

/-- **One request or sweep among others.** -/
lemma guarded_program (hread : setting.readIdentity = true) (call : SendingCall)
    (s : SendingStore ι) :
    Guarded me (fun _ s => call = .sweep → Asked setting me s)
      (call.program me : Request ι setting Reply) s := by
  have hother : ∀ {call : SendingCall} {m : Request ι setting Reply}, call ≠ .sweep →
      Guarded me (fun _ _ => True) m s →
      Guarded me (fun _ s => call = .sweep → Asked setting me s) m s :=
    fun hcall hm => hm.mono fun _ _ _ h => absurd h hcall
  cases call with
  | post a body =>
    refine hother (by simp) (guarded_guardedBy (fun s => ?_) s)
    exact guarded_any (sends_postSendingDomain me a body) s
  | verify a =>
    exact hother (by simp) (guarded_guardedBy (guarded_verifySendingDomain a) s)
  | delete a =>
    refine hother (by simp) (guarded_guardedBy (fun s => ?_) s)
    exact guarded_any (sends_deleteSendingDomain a) s
  | sweep =>
    refine (sweeps_runSendingVerify hread s).bind (fun out s hs => ?_) fun _ _ h _ => h
    exact .done _ hs stable_asked fun _ h _ => h

/-- Nothing was put, and no request or sweep has started. -/
def sendingCalls (setting : Setting ι) (calls : ι → SendingCall) :
    Pool ι (sendingService ι setting) SendingError Reply :=
  ⟨⟨fun _ => none, 0, [], fun _ => 0, fun _ _ => 0, fun _ => none, fun _ => []⟩,
    fun i => (calls i).program i⟩

/-- A step that is orderly. -/
def Unhindered (p : Pool ι (sendingService ι setting) SendingError Reply) (_ : ι)
    (c : SendingCommand ι) (fate : Fate) : Prop := Orderly setting p.state c fate

/-- **A sending domain is verified by its own proof**, turned failed by a sweep on the answer for
itself, and asked about by every sweep that ends, in every run whose steps are orderly. -/
theorem verified_by_own_proof (hread : setting.readIdentity = true)
    (hrun : Pool.Run Unhindered (sendingCalls setting calls) p) :
    (∀ t, ∀ row ∈ p.state.rows t, row.verifiedAt.isSome = true → Proven t row p.state.log) ∧
      (∀ domain asked, .turnedFailed domain asked ∈ p.state.log → asked = some domain) ∧
      ∀ i, calls i = .sweep → (p.thread i).pending = none → Asked setting i p.state := by
  have hcompatible : Pool.Compatible (@Unhindered ι _ setting) (fun _ => Orderly setting)
      (fun i _ => Rely i) fun i => Promise i :=
    fun _ _ _ _ _ _ hfits => ⟨hfits, fun hown j hj => hown.2 j hj⟩
  have hmeets : (sendingCalls setting calls).Meets (fun _ => Orderly setting) (fun i _ => Rely i)
      (fun i => Promise i) fun i _ s => calls i = .sweep → Asked setting i s :=
    fun i => guarded_program hread (calls i) _
  have hsound : Sound (sendingCalls setting calls).state → Sound p.state :=
    hrun.keeps hcompatible hmeets (I := fun s s' => Sound s → Sound s') (fun _ h => h)
      (fun _ _ _ h h' hs => h' (h hs)) fun _ _ _ _ hpromise => hpromise.1
  have hstart : Sound (sendingCalls setting calls).state :=
    ⟨(fun _ _ h => by cases h), fun _ _ h => by cases h⟩
  refine ⟨(hsound hstart).proven, (hsound hstart).failed, fun i hsweep hended => ?_⟩
  obtain ⟨r, hasked⟩ := (hrun.meets hcompatible hmeets).ended hended
  exact hasked hsweep

instance (me : ι) (s : SendingStore ι) : Decidable (Asked setting me s) :=
  inferInstanceAs (Decidable (∃ rows ∈ s.began me, _))

instance (s : SendingStore ι) (c : SendingCommand ι) (fate : Fate) :
    Decidable (Orderly setting s c fate) := by
  cases c <;> unfold Orderly <;> (try unfold NotPutSince) <;> (try unfold StillSelected) <;>
    infer_instance

instance (p : Pool ι (sendingService ι setting) SendingError Reply) (i : ι) (c : SendingCommand ι)
    (fate : Fate) : Decidable (Unhindered p i c fate) :=
  inferInstanceAs (Decidable (Orderly setting p.state c fate))

end Pool

instance (t : TenantId) (row : SendingDomain) (log : List Fact) : Decidable (Proven t row log) :=
  inferInstanceAs (Decidable (_ ∧ _))

/-! Three tenants; every token is found, and SES has verified one domain. -/

def sampleSetting : Setting (Fin 5) where
  tenants := [1, 2, 3]
  ses := true
  readIdentity := true
  platformDomain := none
  customDomains _ := true
  newTxtToken _ := "token"
  nowMs _ := 0
  resolveTxt _ _ := some [["token"]]
  identity _ domain :=
    some (some ⟨[], if domain = "a.lt" then .verified else if domain = "f.lt" then .failed
      else .pending⟩)

def adminOf (t : TenantId) : Users.AuthContext := ⟨t, .tspAdmin, t, none⟩

abbrev SamplePool := Pool (Fin 5) (sendingService (Fin 5) sampleSetting) SendingError Reply

/-- A domain is put and its token found; the sweep does the rest. -/
def provenCalls : Fin 5 → SendingCall
  | 0 => .post (adminOf 1) (some ("a.lt", "alerts"))
  | 1 => .verify (adminOf 1)
  | _ => .sweep

def provenRun : Option SamplePool :=
  (sendingCalls sampleSetting provenCalls).execWith Unhindered
    (replicate 5 (0, Fate.ok) ++ replicate 7 (1, Fate.ok) ++ replicate 3 (2, Fate.ok))

theorem verified_by_own_proof_in_turn : ∃ p, provenRun = some p ∧
    ∃ row ∈ p.state.rows 1, row.verifiedAt.isSome = true ∧ Proven 1 row p.state.log ∧
      Asked sampleSetting 2 p.state := by
  have hverified : (provenRun.bind fun p => p.state.rows 1).any (·.verifiedAt.isSome) := by
    decide +kernel
  have hended : provenRun.map (fun p => (p.thread 2).pending) = some none := by decide +kernel
  cases h : provenRun with
  | none =>
    rw [h] at hended
    cases hended
  | some p =>
    rw [h] at hended hverified
    have hany : (p.state.rows 1).any (·.verifiedAt.isSome) = true := hverified
    obtain ⟨row, hrow, hsome⟩ : ∃ row, p.state.rows 1 = some row ∧
        row.verifiedAt.isSome = true := by
      cases hrow : p.state.rows 1 with
      | none =>
        rw [hrow] at hany
        cases hany
      | some row =>
        rw [hrow] at hany
        exact ⟨row, rfl, hany⟩
    have hproven := verified_by_own_proof rfl (Pool.run_execWith _ _ h)
    exact ⟨p, rfl, row, hrow, hsome, hproven.1 1 row hrow hsome,
      hproven.2.2 2 rfl (some.inj hended)⟩

/-- A domain is put, and swept before its token was found. -/
def unprovenCalls : Fin 5 → SendingCall
  | 0 => .post (adminOf 1) (some ("a.lt", "alerts"))
  | _ => .sweep

/-- A domain is replaced while a sweep asks about it. -/
def replacedCalls : Fin 5 → SendingCall
  | 0 => .post (adminOf 1) (some ("f.lt", "alerts"))
  | 1 => .post (adminOf 1) (some ("b.lt", "alerts"))
  | _ => .sweep

/-- One tenant has verified a domain, another one puts it too, and a third one waits. -/
def squattingCalls : Fin 5 → SendingCall
  | 0 => .post (adminOf 1) (some ("a.lt", "alerts"))
  | 1 => .sweep
  | 2 => .post (adminOf 2) (some ("a.lt", "alerts"))
  | 3 => .post (adminOf 3) (some ("c.lt", "alerts"))
  | 4 => .sweep

/-- A row is verified whose token nobody has looked for; a sweep turns a row failed on the answer
for the domain before; and a sweep stops at a row that the unique index refuses. -/
theorem verified_by_others :
    (∃ p, (sendingCalls sampleSetting unprovenCalls).Reaches p ∧
      ∃ row ∈ p.state.rows 1, row.verifiedAt.isSome = true ∧ ¬ Proven 1 row p.state.log) ∧
    (∃ p, (sendingCalls sampleSetting replacedCalls).Reaches p ∧
      .turnedFailed "b.lt" (some "f.lt") ∈ p.state.log) ∧
    ∃ p, (sendingCalls sampleSetting squattingCalls).Reaches p ∧
      (p.thread 4).pending = none ∧ ¬ Asked sampleSetting 4 p.state := by
  refine ⟨⟨_, Pool.reaches_exec (replicate 5 (0, Fate.ok) ++ replicate 3 (1, Fate.ok)) _, ?_⟩,
    ⟨_, Pool.reaches_exec (replicate 5 (0, Fate.ok) ++ replicate 2 (2, Fate.ok) ++
      replicate 5 (1, Fate.ok) ++ [(2, Fate.ok)]) _, by decide +kernel⟩,
    ⟨_, Pool.reaches_exec (replicate 5 (0, Fate.ok) ++ replicate 3 (1, Fate.ok) ++
      replicate 5 (2, Fate.ok) ++ replicate 5 (3, Fate.ok) ++
      replicate 3 (4, Fate.ok)) _,
      by decide +kernel, by decide +kernel⟩⟩
  decide +kernel

end Orbetra.Sending
