import Orbetra.Sms.Worker

/-!
# An SMS is charged at most once

Any number of attempts at one delivery run in any order of their steps, each call fails or not, and an
attempt that takes no more steps has crashed.  The claim key is lost only once the row says `sent`.

An attempt that has set the claim owns it until the row says `sent`: no other attempt writes the key or
reaches the provider (`Spares`).  What the key and the row say of an acceptance stays said (`Recorded`).
-/

namespace Orbetra.Sms

open Async List Option

open Async (Stable Returning)

variable {ι : Type} {provider : ℕ → SendOutcome} {s s' : SmsStore ι} {me : ι}

/-! ## The claim key as a text -/

lemma parseSent_sentClaim (providerMessageId : Text) :
    parseSent (some (sentClaim providerMessageId)) = ⟨true, some providerMessageId⟩ := by
  have hne : sentClaim providerMessageId ≠ sent := by
    intro h
    have hlength := congrArg length h
    simp [sentClaim] at hlength
  have hprefix : (sent ++ [':']).isPrefixOf (sentClaim providerMessageId) := by
    rw [ isPrefixOf_iff_prefix]
    exact ⟨providerMessageId, by simp [sentClaim]⟩
  unfold parseSent
  dsimp only
  rw [if_neg hne, if_pos hprefix]
  rfl

lemma parseSent_attempting : parseSent (some attempting) = ⟨false, none⟩ := by decide

lemma parseSent_ambiguous : parseSent (some ambiguous) = ⟨false, none⟩ := by decide

lemma sentClaim_ne_attempting (providerMessageId : Text) :
    sentClaim providerMessageId ≠ attempting := by
  intro h
  have hparse := parseSent_sentClaim providerMessageId
  rw [h, parseSent_attempting] at hparse
  cases hparse

lemma sentClaim_ne_ambiguous (providerMessageId : Text) :
    sentClaim providerMessageId ≠ ambiguous := by
  intro h
  have hparse := parseSent_sentClaim providerMessageId
  rw [h, parseSent_ambiguous] at hparse
  cases hparse

lemma sentClaim_injective : Function.Injective sentClaim := by
  intro sid sid' h
  have hparse := congrArg (fun raw => parseSent (some raw)) h
  simp only [parseSent_sentClaim] at hparse
  cases hparse
  rfl

lemma charged_length (outcome : SendOutcome) : outcome.charged.length ≤ 1 := by
  have htoList : ∀ created : Option Text, created.toList.length ≤ 1 := by
    intro created
    cases created <;> simp
  cases outcome with
  | accepted => exact le_refl 1
  | failed e created =>
    cases e with
    | smsSendError status message =>
      show (if 400 ≤ status then [] else created.toList).length ≤ 1
      split
      · exact Nat.zero_le 1
      · exact htoList created
    | error message => exact htoList created
    | unknown => exact htoList created

/-! ## What holds of the store -/

namespace SmsStore

/-- What holds of the store at every time. -/
structure Sound (s : SmsStore ι) : Prop where
  once : s.accepted.length ≤ 1
  row : s.Sent → ∃ sid, s.accepted = [sid] ∧ s.row.providerMessageId = some sid
  id : s.row.providerMessageId ≠ none → s.Sent
  claim : ∀ raw ∈ s.claimed,
    raw = attempting ∨ raw = ambiguous ∨ ∃ sid, raw = sentClaim sid ∧ s.accepted = [sid]
  guarded : s.accepted ≠ [] → s.Sent ∨ s.claim ≠ none

/-- The message `sid` was accepted, and the key or the row says so. -/
def Recorded (sid : Text) (s : SmsStore ι) : Prop :=
  s.accepted = [sid] ∧ (s.claimed = some (sentClaim sid) ∨ s.Sent)

/-- The message `sid` was accepted, and the row says so. -/
def Delivered (sid : Text) (s : SmsStore ι) : Prop := s.accepted = [sid] ∧ s.Sent

/-- The claim is as the attempt has set it, unless the row says `sent`. -/
def Mine (me : ι) (s : SmsStore ι) : Prop := s.claim = some (attempting, me) ∨ s.Sent

/-- The attempt owns the claim, and nothing was charged. -/
def Clear (me : ι) (s : SmsStore ι) : Prop := s.claim = some (attempting, me) ∧ s.accepted = []

lemma Sound.not_sent (h : s.Sound) (haccepted : s.accepted = []) : ¬ s.Sent := by
  intro hsent
  obtain ⟨sid, hsid, -⟩ := h.row hsent
  rw [haccepted] at hsid
  cases hsid

lemma Sound.proven_iff (h : s.Sound) : s.proven = true ↔ s.Sent := by
  unfold proven
  rw [Bool.or_eq_true, decide_eq_true_iff]
  refine ⟨fun hproven => hproven.elim (fun hsent => hsent) fun hid => h.id ?_, Or.inl⟩
  exact isSome_iff_ne_none.mp hid

lemma Sound.delivered (h : s.Sound) (hsent : s.Sent) {sid : Text} (hs : s.accepted = [sid]) :
    s.row.providerMessageId = some sid := by
  obtain ⟨sid', hsid', hid⟩ := h.row hsent
  rw [hs] at hsid'
  rw [hid, (cons.inj hsid').1]

lemma Recorded.delivered {sid : Text} (h : s.Recorded sid)
    (hclaim : s.claimed ≠ some (sentClaim sid)) : s.Delivered sid :=
  ⟨h.1, h.2.resolve_left hclaim⟩

lemma Mine.recorded (h : s.Mine me) {sid : Text} (hsid : s.Recorded sid) : s.Delivered sid := by
  rcases h with h | h
  · refine hsid.delivered fun hclaim => ?_
    unfold SmsStore.claimed at hclaim
    rw [h] at hclaim
    exact sentClaim_ne_attempting sid (some.inj hclaim).symm
  · exact ⟨hsid.1, h⟩

end SmsStore

/-! ## What the attempts do to each other -/

/-- What is known of the store stays known. -/
structure Progress (s s' : SmsStore ι) : Prop where
  sound : s'.Sound
  accepted : ∀ sid, s.accepted = [sid] → s'.accepted = [sid]
  sent : s.Sent → s'.Sent
  recorded : ∀ sid, s.Recorded sid → s'.Recorded sid

/-- Among the attempts in `P`, the one that owns the claim keeps it, and nothing is charged. -/
def Spares (P : ι → Prop) (s s' : SmsStore ι) : Prop :=
  s.Sound → Progress s s' ∧ ∀ j, P j → ∀ raw, s.claim = some (raw, j) → ¬ s.Sent →
    s'.claim = s.claim ∧ s'.accepted = s.accepted

/-- What an attempt relies on. -/
def othersSpare (me : ι) (_ : Option (SmsCommand ι)) : SmsStore ι → SmsStore ι → Prop :=
  Spares (· = me)

/-- What an attempt promises; nobody answers for the loss of the key before the row says `sent`. -/
def sparesOthers (me : ι) (c : SmsCommand ι) (s s' : SmsStore ι) : Prop :=
  (c = .expire → s.Sent) → Spares (· ≠ me) s s'

lemma Progress.delivered (h : Progress s s') {sid : Text} (hsid : s.Delivered sid) :
    s'.Delivered sid := ⟨h.accepted sid hsid.1, h.sent hsid.2⟩

lemma Spares.refl (P : ι → Prop) (s : SmsStore ι) : Spares P s s :=
  fun hs => ⟨⟨hs, fun _ h => h, fun h => h, fun _ h => h⟩, fun _ _ _ _ _ => ⟨rfl, rfl⟩⟩

lemma Spares.row (P : ι → Prop) {row : SmsDelivery} (hs : s.Sound → ({ s with row := row }).Sound)
    (hsent : s.Sent → row.status = .sent) : Spares P s { s with row := row } := by
  intro hsound
  refine ⟨⟨hs hsound, fun _ h => h, hsent, fun sid h => ⟨h.1, h.2.imp (fun h => h) hsent⟩⟩, ?_⟩
  exact fun _ _ _ _ _ => ⟨rfl, rfl⟩

lemma Spares.claim (hmine : s.claim = none ∨ s.Mine me) {claim : Option (Text × ι)}
    (hvalue : ∀ raw ∈ claim.map (·.1),
      raw = attempting ∨ raw = ambiguous ∨ ∃ sid, raw = sentClaim sid ∧ s.accepted = [sid])
    (hguarded : s.accepted ≠ [] → s.Sent ∨ claim ≠ none) :
    Spares (· ≠ me) s { s with claim := claim } := by
  intro hsound
  have hrecorded : ∀ sid, s.Recorded sid → s.Delivered sid := by
    intro sid hsid
    rcases hmine with hnone | hmine
    · refine hsid.delivered ?_
      unfold SmsStore.claimed
      rw [hnone]
      exact fun h => by cases h
    · exact hmine.recorded hsid
  refine ⟨⟨⟨hsound.once, hsound.row, hsound.id, hvalue, hguarded⟩, fun _ h => h, fun h => h, ?_⟩, ?_⟩
  · exact fun sid hsid => ⟨hsid.1, Or.inr (hrecorded sid hsid).2⟩
  · intro j hj raw hclaim hsent
    rcases hmine with hnone | hmine | hsent'
    · rw [hnone] at hclaim
      cases hclaim
    · rw [hmine] at hclaim
      cases hclaim
      exact absurd rfl hj
    · exact absurd hsent' hsent

/-- A request to the provider from the attempt that owns the claim. -/
lemma Spares.charge (hclear : s.Clear me) (outcome : SendOutcome) :
    Spares (· ≠ me) s (s.charge outcome) := by
  obtain ⟨hclaim, haccepted⟩ := hclear
  intro hsound
  have hsent : ¬ s.Sent := hsound.not_sent haccepted
  have hcharged : (s.charge outcome).accepted = outcome.charged := by
    show s.accepted ++ outcome.charged = _
    rw [haccepted, nil_append]
  refine ⟨⟨⟨?_, fun h => absurd h hsent, hsound.id, ?_, ?_⟩, ?_, fun h => h, ?_⟩, ?_⟩
  · rw [hcharged]
    exact charged_length outcome
  · intro raw hraw
    have hraw' : raw ∈ s.claimed := hraw
    unfold SmsStore.claimed at hraw'
    rw [hclaim] at hraw'
    exact Or.inl (some.inj hraw').symm
  · exact fun _ => Or.inr (by rw [show (s.charge outcome).claim = s.claim from rfl, hclaim]; simp)
  · intro sid hsid
    rw [haccepted] at hsid
    cases hsid
  · intro sid hsid
    rw [SmsStore.Recorded, haccepted] at hsid
    cases hsid.1
  · intro j hj raw hraw _
    rw [hclaim] at hraw
    cases hraw
    exact absurd rfl hj

lemma sparesOthers_refl (c : SmsCommand ι) (s : SmsStore ι) : sparesOthers me c s s :=
  fun _ => .refl _ s

/-! ## What the statements promise -/

lemma Spares.markSent (P : ι → Prop) {sid : Text} (hsid : s.accepted = [sid]) :
    Spares P s (s.markSent sid) := by
  refine .row P (fun hs => ⟨hs.once, fun _ => ⟨sid, hsid, rfl⟩, fun _ => rfl, hs.claim, ?_⟩) ?_
  · exact fun _ => Or.inl rfl
  · exact fun _ => rfl

/-- It leaves a row that says `sent` alone. -/
lemma Spares.markFailed (P : ι → Prop) (error : Text) : Spares P s (s.markFailed error) := by
  unfold SmsStore.markFailed
  split
  · exact .refl P s
  · rename_i hsent
    refine .row P (fun hs => ⟨hs.once, (fun h => by cases h), fun hid => ?_, hs.claim, ?_⟩)
      fun h => absurd h hsent
    · exact absurd (hs.id hid) hsent
    · exact fun h => Or.inr ((hs.guarded h).resolve_left hsent)

lemma Spares.reconcileClaim (P : ι → Prop) {sid : Text} (hsid : s.accepted = [sid]) :
    Spares P s (s.reconcileSent (some sid)) := by
  refine .row P (fun hs => ⟨hs.once, fun _ => ⟨sid, hsid, rfl⟩, fun _ => rfl, hs.claim, ?_⟩) ?_
  · exact fun _ => Or.inl rfl
  · exact fun _ => rfl

lemma Spares.reconcileRow (P : ι → Prop) (hsent : s.Sent) : Spares P s (s.reconcileSent none) := by
  refine .row P (fun hs => ⟨hs.once, fun _ => hs.row hsent, fun _ => rfl, hs.claim, ?_⟩) ?_
  · exact fun _ => Or.inl rfl
  · exact fun _ => rfl

/-! ## What survives the others -/

section Stable

variable (me)

variable {waiting : Option (SmsCommand ι)}

lemma stable_mine (J : SmsStore ι → Prop) (hJ : ∀ s s', Progress s s' → J s → J s') :
    Stable (othersSpare me waiting) fun s => s.Sound ∧ s.Mine me ∧ J s := by
  intro s s' henv ⟨hs, hmine, h⟩
  obtain ⟨hprogress, hspares⟩ := henv hs
  refine ⟨hprogress.sound, ?_, hJ s s' hprogress h⟩
  by_cases hsent : s.Sent
  · exact Or.inr (hprogress.sent hsent)
  · have hclaim := hmine.resolve_right hsent
    exact Or.inl ((hspares me rfl attempting hclaim hsent).1.trans hclaim)

lemma stable_clear : Stable (othersSpare me waiting) fun s => s.Sound ∧ s.Clear me := by
  intro s s' henv ⟨hs, hclaim, haccepted⟩
  obtain ⟨hprogress, hspares⟩ := henv hs
  have hkept := hspares me rfl attempting hclaim (hs.not_sent haccepted)
  exact ⟨hprogress.sound, hkept.1.trans hclaim, hkept.2.trans haccepted⟩

lemma stable_sound (J : SmsStore ι → Prop) (hJ : ∀ s s', Progress s s' → J s → J s') :
    Stable (othersSpare me waiting) fun s => s.Sound ∧ J s :=
  fun s s' henv ⟨hs, h⟩ => ⟨(henv hs).1.sound, hJ s s' (henv hs).1 h⟩

lemma stable_free (J : SmsStore ι → Prop) (hJ : ∀ s s', Progress s s' → J s → J s') :
    Stable (othersSpare me waiting) fun s => s.Sound ∧ (s.Clear me ∨ s.Sent) ∧ J s := by
  intro s s' henv ⟨hs, hfree, h⟩
  have hprogress := (henv hs).1
  refine ⟨hprogress.sound, ?_, hJ s s' hprogress h⟩
  rcases hfree with hclear | hsent
  · have hclear' : s'.Sound ∧ s'.Clear me := stable_clear me s s' henv ⟨hs, hclear⟩
    exact Or.inl hclear'.2
  · exact Or.inr (hprogress.sent hsent)

end Stable

/-! ## One attempt -/

/-- Where an attempt completes, what was recorded when it started has been delivered. -/
def Completes (before : Option Text) : Except SmsError Unit → SmsStore ι → Prop :=
  Returning fun _ s => ∀ sid ∈ before, s.Delivered sid

/-- The attempt does as it promises among the others, and completes. -/
abbrev Spared (me : ι) (before : Option Text) (m : Attempt ι provider Unit) (s : SmsStore ι) : Prop :=
  Meets (fun _ _ _ => True) (othersSpare me) (sparesOthers me) (Completes before) m s

section Attempt

variable {before : Option Text}

lemma spared_threw (e : SmsError) (s : SmsStore ι) :
    Spared me before (.threw e : Attempt ι provider Unit) s :=
  .threw (fun _ => True) trivial (fun _ _ _ _ => trivial) fun _ _ => trivial

lemma spared_done (J : SmsStore ι → Prop) (hJ : ∀ s s', Progress s s' → J s → J s')
    (hs : s.Sound ∧ J s) (h : ∀ s, J s → ∀ sid ∈ before, s.Delivered sid) :
    Spared me before (.done () : Attempt ι provider Unit) s :=
  .done _ hs (stable_sound me J hJ) fun s hs => h s hs.2

variable {c : SmsCommand ι} {sid : Text}

lemma spared_call {k : Option c.Answer → Attempt ι provider Unit} (J : SmsStore ι → Prop) (hs : J s)
    (hJ : Stable (othersSpare me (some c)) J) (hsound : ∀ s, J s → s.Sound)
    (hown : ∀ s, J s → Spares (· ≠ me) s (c.run provider s).1)
    (hok : ∀ s, J s → Progress s (c.run provider s).1 →
      Spared me before (k (some (c.run provider s).2)) (c.run provider s).1)
    (hlost : ∀ s, J s → Progress s (c.run provider s).1 →
      Spared me before (k none) (c.run provider s).1)
    (hrefused : ∀ s, J s → Spared me before (k none) s) :
    Spared me before (.call c k) s := by
  refine ⟨J, hs, hJ, fun s hs fate _ => ?_⟩
  have hprogress := (hown s hs (hsound s hs)).1
  cases fate with
  | ok => exact ⟨fun _ => hown s hs, hok s hs hprogress⟩
  | refused => exact ⟨sparesOthers_refl c s, hrefused s hs⟩
  | lost => exact ⟨fun _ => hown s hs, hlost s hs hprogress⟩

lemma spared_command {f : c.Answer → Attempt ι provider Unit} (J : SmsStore ι → Prop) (hs : J s)
    (hJ : Stable (othersSpare me (some c)) J) (hsound : ∀ s, J s → s.Sound)
    (hown : ∀ s, J s → Spares (· ≠ me) s (c.run provider s).1)
    (hok : ∀ s, J s → Progress s (c.run provider s).1 →
      Spared me before (f (c.run provider s).2) (c.run provider s).1) :
    Spared me before (command c >>= f) s := by
  have heq : (command c >>= f : Attempt ι provider Unit) = .call c fun
      | some a => f a
      | none => .threw .unknown := by
    show call _ _ = call _ _
    congr 1
    funext r
    cases r <;> rfl
  rw [heq]
  exact spared_call J hs hJ hsound hown hok (fun _ _ _ => spared_threw _ _) fun _ _ => spared_threw _ _

lemma spared_last {m : Attempt ι provider Unit} (hm : (command c >>= fun _ => .done ()) = m)
    (J : SmsStore ι → Prop) (hs : J s) (hJ : Stable (othersSpare me (some c)) J)
    (hsound : ∀ s, J s → s.Sound) (hown : ∀ s, J s → Spares (· ≠ me) s (c.run provider s).1)
    (hdelivered : ∀ s, J s → ∀ sid ∈ before, (c.run provider s).1.Delivered sid) :
    Spared me before m s := by
  subst hm
  refine spared_command J hs hJ hsound hown fun s hs hprogress => ?_
  refine spared_done (fun s => ∀ sid ∈ before, s.Delivered sid) (fun s s' hprogress h sid hsid => ?_)
    ⟨hprogress.sound, hdelivered s hs⟩ fun _ h => h
  exact hprogress.delivered (h sid hsid)

lemma quietly_setClaim_bind (value : Text) (f : Unit → Attempt ι provider Unit) :
    (quietly (setClaim me value) >>= f) = .call (.set me value) fun _ => f () := by
  show call _ _ = call _ _
  congr 1
  funext r
  cases r <;> rfl

lemma backstop_bind (f : Bool → Attempt ι provider Unit) :
    (backstop >>= f) = .call .selectProven fun
      | some b => f b
      | none => .call .del fun _ => .threw .unknown := by
  show call _ _ = call _ _
  congr 1
  funext r
  cases r with
  | some b => rfl
  | none =>
    show call _ _ = call _ _
    congr 1
    funext r
    cases r <;> rfl

lemma sendClaimed_eq (job : SmsJob) :
    (sendClaimed me job : Attempt ι provider Unit) = .call (.send job.destination job.body) fun
      | some (.ok providerMessageId) => sendAccepted me providerMessageId
      | some (.error err) => sendFailed me err
      | none => sendFailed me .unknown := by
  show call _ _ = call _ _
  congr 1
  funext r
  rcases r with _ | (_ | _) <;> rfl

lemma spared_markFailed (error : Text) (hs : s.Sound) :
    Spared me none (markFailed error : Attempt ι provider Unit) s :=
  spared_last (c := .markFailed error) (bind_done _) SmsStore.Sound hs (fun _ _ henv hs => (henv hs).1.sound)
    (fun _ hs => hs) (fun _ _ => .markFailed _ error) fun _ _ _ h => by cases h

lemma spared_sendAccepted (hs : s.Sound ∧ s.Mine me ∧ s.accepted = [sid]) :
    Spared me none (sendAccepted me sid : Attempt ι provider Unit) s := by
  have hmark : ∀ s : SmsStore ι, s.Sound ∧ s.accepted = [sid] →
      Spared me none (markSent sid : Attempt ι provider Unit) s := fun s hs =>
    spared_last (c := .markSent sid) (bind_done _) (fun s => s.Sound ∧ s.accepted = [sid]) hs
      (stable_sound me _ fun _ _ h => h.accepted sid) (fun _ hs => hs.1)
      (fun _ hs => .markSent _ hs.2) fun _ _ _ h => by cases h
  unfold sendAccepted
  rw [quietly_setClaim_bind]
  refine spared_call (fun s => s.Sound ∧ s.Mine me ∧ s.accepted = [sid]) hs
    (stable_mine me _ fun _ _ h => h.accepted sid) (fun _ hs => hs.1) (fun s hs => ?_) ?_ ?_ ?_
  · refine .claim (Or.inr hs.2.1) (fun raw hraw => ?_) fun _ => Or.inr fun h => by cases h
    exact Or.inr (Or.inr ⟨sid, (some.inj hraw).symm, hs.2.2⟩)
  · exact fun s hs hprogress => hmark _ ⟨hprogress.sound, hs.2.2⟩
  · exact fun s hs hprogress => hmark _ ⟨hprogress.sound, hs.2.2⟩
  · exact fun s hs => hmark _ ⟨hs.1, hs.2.2⟩

lemma spared_sendUnclear (message : Text) (hs : s.Sound ∧ s.Mine me) :
    Spared me none (sendUnclear me message : Attempt ι provider Unit) s := by
  refine spared_command (fun s => s.Sound ∧ s.Mine me ∧ True) ⟨hs.1, hs.2, trivial⟩
    (stable_mine me _ fun _ _ _ h => h) (fun _ hs => hs.1) (fun s hs => ?_) fun s hs hprogress => ?_
  · refine .claim (Or.inr hs.2.1) (fun raw hraw => ?_) fun _ => Or.inr fun h => by cases h
    exact Or.inr (Or.inl (some.inj hraw).symm)
  · exact spared_markFailed _ hprogress.sound

lemma Spares.release (hfree : s.Clear me ∨ s.Sent) : Spares (· ≠ me) s { s with claim := none } := by
  refine .claim (Or.inr ?_) (fun raw hraw => by cases hraw) fun haccepted => ?_
  · exact hfree.imp (fun hclear => hclear.1) fun hsent => hsent
  · exact hfree.elim (fun hclear => absurd hclear.2 haccepted) Or.inl

lemma spared_sendFailed {err : SmsError} (hs : s.Sound ∧ s.Mine me)
    (hrefused : ∀ status message, err = .smsSendError status message → 400 ≤ status →
      s.Clear me ∨ s.Sent) :
    Spared me none (sendFailed me err : Attempt ι provider Unit) s := by
  unfold sendFailed
  cases err with
  | smsSendError status message =>
    dsimp only
    by_cases hstatus : 400 ≤ status
    · rw [if_pos hstatus]
      refine spared_command (fun s => s.Sound ∧ (s.Clear me ∨ s.Sent) ∧ True)
        ⟨hs.1, hrefused _ _ rfl hstatus, trivial⟩ (stable_free me _ fun _ _ _ h => h)
        (fun _ hs => hs.1) (fun s hs => .release hs.2.1) fun s hs hprogress => ?_
      refine spared_command SmsStore.Sound hprogress.sound (fun _ _ henv hs => (henv hs).1.sound)
        (fun _ hs => hs) (fun s _ => .markFailed _ message) fun s hs hprogress => ?_
      split
      · exact spared_done (fun _ => True) (fun _ _ _ h => h) ⟨hprogress.sound, trivial⟩
          fun _ _ _ h => by cases h
      · exact spared_threw _ _
    · rw [if_neg hstatus]
      exact spared_sendUnclear _ hs
  | error message => exact spared_sendUnclear _ hs
  | unknown => exact spared_sendUnclear _ hs

lemma spared_sendClaimed (job : SmsJob) (hs : s.Sound ∧ s.Clear me) :
    Spared me none (sendClaimed me job : Attempt ι provider Unit) s := by
  rw [sendClaimed_eq]
  refine spared_call (fun s => s.Sound ∧ s.Clear me) hs (stable_clear me) (fun _ hs => hs.1)
    (fun s hs => .charge hs.2 _) ?_ ?_ ?_
  · intro s hs hprogress
    have hcharged : (s.charge (provider s.requests)).accepted = (provider s.requests).charged := by
      show s.accepted ++ _ = _
      rw [hs.2.2, nil_append]
    have hmine : (s.charge (provider s.requests)).Mine me := Or.inl hs.2.1
    have hrun : SmsCommand.run provider (.send job.destination job.body) s =
        (s.charge (provider s.requests), (provider s.requests).reply) := rfl
    rw [hrun] at hprogress ⊢
    cases hcase : provider s.requests with
    | accepted sid =>
      rw [hcase] at hcharged hmine hprogress
      exact spared_sendAccepted ⟨hprogress.sound, hmine, hcharged⟩
    | failed e created =>
      rw [hcase] at hcharged hmine hprogress
      refine spared_sendFailed ⟨hprogress.sound, hmine⟩ fun status message he hstatus => ?_
      subst he
      exact Or.inl ⟨hs.2.1, hcharged.trans (if_pos hstatus)⟩
  · exact fun s hs hprogress => spared_sendFailed ⟨hprogress.sound, Or.inl hs.2.1⟩
      fun _ _ h => by cases h
  · exact fun s hs => spared_sendFailed ⟨hs.1, Or.inl hs.2.1⟩ fun _ _ h => by cases h

lemma spared_reconcileClaim (hs : s.Sound ∧ s.accepted = [sid])
    (hbefore : ∀ sid' ∈ before, sid' = sid) :
    Spared me before (reconcileSent (some sid) : Attempt ι provider Unit) s := by
  refine spared_last (c := .reconcileSent (some sid)) (bind_done _)
    (fun s => s.Sound ∧ s.accepted = [sid]) hs (stable_sound me _ fun _ _ h => h.accepted sid)
    (fun _ hs => hs.1) (fun _ hs => .reconcileClaim _ hs.2) fun s hs sid' hsid' => ?_
  obtain rfl := hbefore sid' hsid'
  exact ⟨hs.2, rfl⟩

lemma spared_reconcileRow (hs : s.Sound ∧ s.Sent ∧ ∀ sid ∈ before, s.accepted = [sid]) :
    Spared me before (reconcileSent none : Attempt ι provider Unit) s := by
  refine spared_last (c := .reconcileSent none) (bind_done _)
    (fun s => s.Sound ∧ s.Sent ∧ ∀ sid ∈ before, s.accepted = [sid]) hs
    (stable_sound me _ fun s s' hprogress h => ?_)
    (fun _ hs => hs.1) (fun _ hs => .reconcileRow _ hs.2.1) fun s hs sid hsid => ?_
  · exact ⟨hprogress.sent h.1, fun sid hsid => hprogress.accepted sid (h.2 sid hsid)⟩
  · exact ⟨hs.2.2 sid hsid, rfl⟩

lemma spared_redelivered (hs : s.Sound ∧ ∀ sid ∈ before, s.Recorded sid) :
    Spared me before (redelivered : Attempt ι provider Unit) s := by
  refine spared_command (c := .get) (fun s => s.Sound ∧ ∀ sid ∈ before, s.Recorded sid) hs
    (stable_sound me _ fun s s' hprogress h sid hsid => hprogress.recorded sid (h sid hsid))
    (fun _ hs => hs.1) (fun s _ => .refl _ s) fun s hs _ => ?_
  show Spared me before (do
    let prior := parseSent s.claimed
    if prior.sent then
      reconcileSent prior.providerMessageId
    else if ← alreadySent then
      reconcileSent none
    else
      markFailed _) s
  by_cases hclaim : ∃ sid, s.claimed = some (sentClaim sid)
  · obtain ⟨sid, hclaim⟩ := hclaim
    have haccepted : s.accepted = [sid] := by
      rcases hs.1.claim _ hclaim with heq | heq | ⟨sid', heq, haccepted⟩
      · exact absurd heq (sentClaim_ne_attempting sid)
      · exact absurd heq (sentClaim_ne_ambiguous sid)
      · rw [haccepted, sentClaim_injective heq]
    rw [hclaim, parseSent_sentClaim]
    refine spared_reconcileClaim ⟨hs.1, haccepted⟩ fun sid' hsid' => ?_
    have haccepted' := (hs.2 sid' hsid').1
    rw [haccepted] at haccepted'
    exact (cons.inj haccepted').1.symm
  · have hprior : parseSent s.claimed = ⟨false, none⟩ := by
      cases hvalue : s.claimed with
      | none => rfl
      | some raw =>
        rcases hs.1.claim raw hvalue with rfl | rfl | ⟨sid, rfl, -⟩
        · exact parseSent_attempting
        · exact parseSent_ambiguous
        · exact absurd ⟨sid, hvalue⟩ hclaim
    have hdelivered : ∀ sid ∈ before, s.Delivered sid := fun sid hsid =>
      (hs.2 sid hsid).delivered fun heq => hclaim ⟨sid, heq⟩
    rw [hprior]
    refine spared_command (c := .selectProven) (fun s => s.Sound ∧ ∀ sid ∈ before, s.Delivered sid)
      ⟨hs.1, hdelivered⟩
      (stable_sound me _ fun s s' hprogress h sid hsid => hprogress.delivered (h sid hsid))
      (fun _ hs => hs.1) (fun s _ => .refl _ s) fun s hs _ => ?_
    show Spared me before (if s.proven then reconcileSent none else markFailed _) s
    split
    · rename_i hproven
      exact spared_reconcileRow ⟨hs.1, hs.1.proven_iff.mp hproven, fun sid hsid => (hs.2 sid hsid).1⟩
    · rename_i hproven
      cases before with
      | none => exact spared_markFailed _ hs.1
      | some sid => exact absurd (hs.1.proven_iff.mpr (hs.2 sid rfl).2) hproven

/-- A claim is released without regard to the answer. -/
lemma spared_release {k : Attempt ι provider Unit}
    (hs : s.Sound ∧ (s.Clear me ∨ s.Sent) ∧ ∀ sid ∈ before, s.Delivered sid)
    (hk : ∀ s : SmsStore ι, s.Sound ∧ (∀ sid ∈ before, s.Delivered sid) → Spared me before k s) :
    Spared me before (.call .del fun _ => k) s := by
  refine spared_call
    (fun s => s.Sound ∧ (s.Clear me ∨ s.Sent) ∧ ∀ sid ∈ before, s.Delivered sid) hs
    (stable_free me _ fun s s' hprogress h sid hsid => hprogress.delivered (h sid hsid))
    (fun _ hs => hs.1) (fun s hs => .release hs.2.1) ?_ ?_ ?_
  · exact fun s hs hprogress =>
      hk _ ⟨hprogress.sound, fun sid hsid => hprogress.delivered (hs.2.2 sid hsid)⟩
  · exact fun s hs hprogress =>
      hk _ ⟨hprogress.sound, fun sid hsid => hprogress.delivered (hs.2.2 sid hsid)⟩
  · exact fun s hs => hk s ⟨hs.1, hs.2.2⟩

lemma quietly_delClaim : (quietly delClaim : Attempt ι provider Unit) = .call .del fun _ => .done () := by
  show call _ _ = call _ _
  congr 1
  funext r
  cases r <;> rfl

lemma spared_claimed (job : SmsJob)
    (hs : s.Sound ∧ (s.Clear me ∨ s.Sent) ∧ ∀ sid ∈ before, s.Delivered sid) :
    Spared me before (do
      if ← backstop then
        quietly delClaim
      else
        sendClaimed me job : Attempt ι provider Unit) s := by
  rw [backstop_bind]
  refine spared_call
    (fun s => s.Sound ∧ (s.Clear me ∨ s.Sent) ∧ ∀ sid ∈ before, s.Delivered sid) hs
    (stable_free me _ fun s s' hprogress h sid hsid => hprogress.delivered (h sid hsid))
    (fun _ hs => hs.1) (fun s _ => .refl _ s) (fun s hs _ => ?_) (fun s hs _ => ?_) fun s hs => ?_
  · show Spared me before (if s.proven then quietly delClaim else sendClaimed me job) s
    split
    · rw [quietly_delClaim]
      refine spared_release hs fun s hs => spared_done (fun s => ∀ sid ∈ before, s.Delivered sid)
        (fun s s' hprogress h sid hsid => hprogress.delivered (h sid hsid)) hs fun _ h => h
    · rename_i hproven
      have hsent : ¬ s.Sent := fun hsent => hproven (hs.1.proven_iff.mpr hsent)
      cases before with
      | none => exact spared_sendClaimed job ⟨hs.1, hs.2.1.resolve_right hsent⟩
      | some sid => exact absurd (hs.2.2 sid rfl).2 hsent
  · exact spared_release hs fun s _ => spared_threw _ s
  · exact spared_release hs fun s _ => spared_threw _ s

/-- **One attempt among others.** -/
lemma spared_runSms (job : SmsJob) (hs : s.Sound ∧ ∀ sid ∈ before, s.Recorded sid) :
    Spared me before (runSms true me job : Attempt ι provider Unit) s := by
  have hrun : ∀ s : SmsStore ι, SmsCommand.run provider (.setNx me attempting) s =
      if s.claim.isSome then (s, false) else ({ s with claim := some (attempting, me) }, true) :=
    fun _ => rfl
  refine spared_command (c := .setNx me attempting)
    (fun s => s.Sound ∧ ∀ sid ∈ before, s.Recorded sid) hs
    (stable_sound me _ fun s s' hprogress h sid hsid => hprogress.recorded sid (h sid hsid))
    (fun _ hs => hs.1) (fun s hs => ?_) fun s hs hprogress => ?_
  · rw [hrun]
    cases hclaim : s.claim with
    | some claim => exact .refl _ s
    | none =>
      refine .claim (Or.inl hclaim) (fun raw hraw => ?_) fun _ => Or.inr fun h => by cases h
      exact Or.inl (some.inj hraw).symm
  · rw [hrun] at hprogress ⊢
    cases hclaim : s.claim with
    | some claim => exact spared_redelivered hs
    | none =>
      rw [hclaim] at hprogress
      have hdelivered : ∀ sid ∈ before, s.Delivered sid := fun sid hsid =>
        (hs.2 sid hsid).delivered fun heq => by
          unfold SmsStore.claimed at heq
          rw [hclaim] at heq
          cases heq
      refine spared_claimed job ⟨hprogress.sound, ?_,
        fun sid hsid => hprogress.delivered (hdelivered sid hsid)⟩
      by_cases haccepted : s.accepted = []
      · exact Or.inl ⟨rfl, haccepted⟩
      · exact Or.inr ((hs.1.guarded haccepted).resolve_right fun hne => hne hclaim)

end Attempt

/-! ## Any attempts in any order -/

section Pool

variable {κ : Type} [DecidableEq κ]

/-- The claim key is lost. -/
def keyLoss : Attempt ι provider Unit := command .expire

/-- The deliveries of one job before any of them starts, and what may take the claim key away. -/
def smsDeliveries (κ : Type) (provider : ℕ → SendOutcome) (job : SmsJob) :
    Pool (κ ⊕ ℕ) (smsService (κ ⊕ ℕ) provider) SmsError Unit :=
  ⟨⟨none, ⟨.queued, none, none⟩, [], 0⟩,
    Sum.elim (fun i => runSms true (.inl i) job) fun _ => keyLoss⟩

/-- The claim key is lost only once the row says `sent`. -/
def KeyOutlives (p : Pool (κ ⊕ ℕ) (smsService (κ ⊕ ℕ) provider) SmsError Unit) (_ : κ ⊕ ℕ)
    (c : SmsCommand (κ ⊕ ℕ)) (_ : Fate) : Prop := c = .expire → p.state.Sent

lemma Spares.mono {P P' : ι → Prop} (h : Spares P s s') (hP : ∀ j, P' j → P j) : Spares P' s s' :=
  fun hs => ⟨(h hs).1, fun j hj => (h hs).2 j (hP j hj)⟩

lemma spared_keyLoss (hs : s.Sound) : Spared me none (keyLoss : Attempt ι provider Unit) s := by
  refine ⟨SmsStore.Sound, hs, fun _ _ henv hs => (henv hs).1.sound, fun s _ fate _ => ?_⟩
  have hown : sparesOthers me .expire s { s with claim := none } :=
    fun hsent => .release (Or.inr (hsent rfl))
  cases fate with
  | ok => exact ⟨hown, .done (fun _ => True) trivial (fun _ _ _ _ => trivial) fun _ _ _ h => by cases h⟩
  | refused => exact ⟨sparesOthers_refl _ s, spared_threw _ s⟩
  | lost => exact ⟨hown, spared_threw _ _⟩

lemma compatible_spares : Pool.Compatible
    (@KeyOutlives provider κ) (fun _ _ _ _ => True) othersSpare sparesOthers := by
  refine fun p i c fate p' _ hfits => ⟨trivial, fun hown j hj => ?_⟩
  exact (hown hfits).mono fun _ heq => heq ▸ hj

variable {job : SmsJob} {p q : Pool (κ ⊕ ℕ) (smsService (κ ⊕ ℕ) provider) SmsError Unit}

lemma spared_run (hrun : Pool.Run KeyOutlives (smsDeliveries κ provider job) p) :
    p.Meets (fun _ _ _ _ => True) othersSpare sparesOthers (fun _ => Completes none) ∧ p.state.Sound := by
  have hfresh : (smsDeliveries κ provider job).state.Sound :=
    ⟨Nat.zero_le 1, (fun h => by cases h), fun h => absurd rfl h, (fun _ h => by cases h),
      fun h => absurd rfl h⟩
  have hmeets : (smsDeliveries κ provider job).Meets (fun _ _ _ _ => True) othersSpare sparesOthers
      fun _ => Completes none := by
    intro i
    cases i with
    | inl i => exact spared_runSms job ⟨hfresh, fun _ h => by cases h⟩
    | inr n => exact spared_keyLoss hfresh
  refine ⟨hrun.meets compatible_spares hmeets, ?_⟩
  induction hrun with
  | refl => exact hfresh
  | step hrun hstep hfits ih =>
    have hown := ((hrun.meets compatible_spares hmeets).step compatible_spares hstep hfits).1
    exact (hown hfits ih).1.sound

/-- **An SMS is charged at most once, and one that is proven never ends as failed**, in any order of the
steps of any number of deliveries, whichever calls fail and whoever crashes: the provider accepts one
send at most; and where the key or the row says that it has, every delivery that starts later and
completes leaves the row `sent`, with the id of the message. -/
theorem charged_once_and_proven
    (hrun : Pool.Run KeyOutlives (smsDeliveries κ provider job) p) :
    p.state.accepted.length ≤ 1 ∧
    ∀ q sid, Pool.Run KeyOutlives (smsDeliveries κ provider job) q → Pool.Run KeyOutlives q p →
      q.state.Recorded sid →
      ∀ i, q.thread (.inl i) = (smsDeliveries κ provider job).thread (.inl i) →
        p.thread (.inl i) = .done () →
        p.state.accepted = [sid] ∧ p.state.row.status = .sent ∧
          p.state.row.providerMessageId = some sid := by
  obtain ⟨-, hsound⟩ := spared_run hrun
  refine ⟨hsound.once, fun q sid hq hqp hrecorded i hi hdone => ?_⟩
  obtain ⟨hmeets, hqsound⟩ := spared_run hq
  have hstart : q.Meets (fun _ _ _ _ => True) othersSpare sparesOthers
      fun j => Completes (if j = .inl i then some sid else none) := by
    intro j
    dsimp only
    by_cases hj : j = .inl i
    · subst hj
      rw [hi, if_pos rfl]
      refine spared_runSms job ⟨hqsound, fun sid' hsid' => ?_⟩
      cases hsid'
      exact hrecorded
    · rw [if_neg hj]
      exact hmeets j
  have hdelivered := (hqp.meets compatible_spares hstart).returned hdone sid (if_pos rfl)
  exact ⟨hdelivered.1, hdelivered.2, hsound.delivered hdelivered.2 hdelivered.1⟩

instance (p : Pool (κ ⊕ ℕ) (smsService (κ ⊕ ℕ) provider) SmsError Unit) (i : κ ⊕ ℕ)
    (c : SmsCommand (κ ⊕ ℕ)) (fate : Fate) : Decidable (KeyOutlives p i c fate) :=
  inferInstanceAs (Decidable (_ → _))

end Pool

/-! A message whose row is not written at the first attempt. -/

/-- Every request is accepted as the same message. -/
def acceptsAll (_ : ℕ) : SendOutcome := .accepted "SM1".toList

/-- Any number of deliveries of the message. -/
def welcomeSms : Pool (ℕ ⊕ ℕ) (smsService (ℕ ⊕ ℕ) acceptsAll) SmsError Unit :=
  smsDeliveries ℕ acceptsAll ⟨"+37060000000".toList, "apn".toList⟩

/-- The first delivery: the message is accepted, the claim says so, and Postgres is away. -/
def rowUnwritten : List ((ℕ ⊕ ℕ) × Fate) := replicate 4 (.inl 0, .ok) ++ [(.inl 0, .refused)]

/-- The second one, and the loss of the key. -/
def rowReconciled : List ((ℕ ⊕ ℕ) × Fate) := replicate 3 (.inl 1, .ok) ++ [(.inr 0, .ok)]

theorem charged_once_and_proven_later :
    ∃ q p, welcomeSms.execWith KeyOutlives rowUnwritten = some q ∧ q.state.row.status = .queued ∧
      q.execWith KeyOutlives rowReconciled = some p ∧ p.state.claim = none ∧
      p.state.row.providerMessageId = some "SM1".toList := by
  have hsome : (welcomeSms.execWith KeyOutlives rowUnwritten).isSome := by decide +kernel
  obtain ⟨q, hq⟩ := isSome_iff_exists.mp hsome
  have hthread : (welcomeSms.execWith KeyOutlives rowUnwritten).map (·.thread (.inl 1)) =
      some (welcomeSms.thread (.inl 1)) := rfl
  have hstate : (welcomeSms.execWith KeyOutlives rowUnwritten).map
      (fun q => (q.state.accepted, q.state.claimed, q.state.row.status)) =
      some (["SM1".toList], some (sentClaim "SM1".toList), .queued) := by decide +kernel
  have hsome' : ((welcomeSms.execWith KeyOutlives rowUnwritten).bind
      (·.execWith KeyOutlives rowReconciled)).isSome := by decide +kernel
  have hdone : ((welcomeSms.execWith KeyOutlives rowUnwritten).bind
      (·.execWith KeyOutlives rowReconciled)).bind (fun p => (p.thread (.inl 1)).returned) =
      some () := by decide +kernel
  have hclaim : ((welcomeSms.execWith KeyOutlives rowUnwritten).bind
      (·.execWith KeyOutlives rowReconciled)).map (·.state.claim) = some none := by decide +kernel
  rw [hq] at hthread hstate hsome' hdone hclaim
  obtain ⟨p, hp⟩ := isSome_iff_exists.mp hsome'
  rw [hp] at hdone hclaim
  have hstate' := some.inj hstate
  obtain ⟨haccepted, hclaimed, hstatus⟩ := Prod.mk.inj hstate' |>.imp_right Prod.mk.inj
  have hfirst := Pool.run_execWith _ _ hq
  have hlater := Pool.run_execWith _ _ hp
  obtain ⟨-, hproven⟩ := charged_once_and_proven (hfirst.trans hlater)
  obtain ⟨-, -, hid⟩ := hproven q "SM1".toList hfirst hlater ⟨haccepted, Or.inl hclaimed⟩ 1
    (some.inj hthread) (eq_done_of_returned hdone)
  exact ⟨q, p, hq, hstatus, hp, some.inj hclaim, hid⟩

end Orbetra.Sms
