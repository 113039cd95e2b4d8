import Mathlib

/-!
# Local midnight in a time zone

A time zone is an offset for each instant, in milliseconds, that changes at least a week apart.  The
instant of a local time solves `t + offset t = wall`; two steps of an iteration are a guess at it
(`guess`).  Around one midnight there is at most one change, so whether the guess is right is
decided by where the change is and what the clock shows before and after it. -/

/-- A UTC offset for each instant: less than a day, in whole seconds, and its changes at least a
week apart. -/
structure TimeZone where
  offset : ℤ → ℤ
  bounded : ∀ t, -86400000 < offset t ∧ offset t < 86400000
  /-- A change is of some hours: less than a day. -/
  modest : ∀ t, -86400000 < offset t - offset (t - 1) ∧ offset t - offset (t - 1) < 86400000
  spaced : ∀ t t', offset (t - 1) ≠ offset t → offset (t' - 1) ≠ offset t' → t < t' →
    t + 604800000 ≤ t'
  seconds : ∀ t, 1000 ∣ offset t

namespace TimeZone

variable (z : TimeZone)

/-- What the clock on the wall shows. -/
def wall (t : ℤ) : ℤ := t + z.offset t

/-- The offset changes at this instant. -/
def Changes (t : ℤ) : Prop := z.offset (t - 1) ≠ z.offset t

variable {z}

lemma offset_eq_of_steady {lo t : ℤ} (hle : lo ≤ t) (h : ∀ u, lo < u → u ≤ t → ¬ z.Changes u) :
    z.offset t = z.offset lo := by
  induction t, hle using Int.leInduction with
  | base => rfl
  | succ t hle ih =>
      have hstep := h (t + 1) (by omega) le_rfl
      rw [Changes, not_not, Int.add_sub_cancel] at hstep
      rw [← hstep]
      exact ih fun u hu hut => h u hu (by omega)

/-- Around an instant the offset is one value before a change and another behind it.  Where there is
no change the two values are the same. -/
structure Around (z : TimeZone) (mid : ℤ) (change before after : ℤ) : Prop where
  offset_lt : ∀ t, mid - 172800000 ≤ t → t < change → t ≤ mid + 172800000 → z.offset t = before
  offset_ge : ∀ t, mid - 172800000 ≤ t → change ≤ t → t ≤ mid + 172800000 → z.offset t = after
  before_bounded : -86400000 < before ∧ before < 86400000
  after_bounded : -86400000 < after ∧ after < 86400000
  modest : -86400000 < after - before ∧ after - before < 86400000
  /-- A change nearby is this one. -/
  only : ∀ t, z.Changes t → mid - 172800000 < t → t ≤ mid + 172800000 →
    t = change ∧ z.offset (t - 1) = before ∧ z.offset t = after
  /-- And this one is a change, unless the values are the same. -/
  real : before ≠ after →
    z.Changes change ∧ z.offset (change - 1) = before ∧ z.offset change = after

lemma exists_around (z : TimeZone) (mid : ℤ) :
    ∃ change before after, Around z mid change before after := by
  by_cases h : ∃ t, z.Changes t ∧ mid - 172800000 < t ∧ t ≤ mid + 172800000
  · obtain ⟨t, ht, hlo, hhi⟩ := h
    have honly : ∀ u, z.Changes u → mid - 172800000 < u → u ≤ mid + 172800000 → u = t := by
      intro u hu hulo huhi
      by_contra hne
      rcases lt_or_gt_of_ne hne with hlt | hgt
      · have hspaced := z.spaced u t hu ht hlt
        omega
      · have hspaced := z.spaced t u ht hu hgt
        omega
    have hbefore : ∀ u, mid - 172800000 ≤ u → u < t → z.offset u = z.offset (mid - 172800000) :=
      fun u hulo hut => offset_eq_of_steady hulo fun v hv hvu hc => by
        have heq := honly v hc (by omega) (by omega)
        omega
    have hafter : ∀ u, t ≤ u → u ≤ mid + 172800000 → z.offset u = z.offset t :=
      fun u htu huhi => offset_eq_of_steady htu fun v hv hvu hc => by
        have heq := honly v hc (by omega) (by omega)
        omega
    have hprev := hbefore (t - 1) (by omega) (by omega)
    refine ⟨t, z.offset (t - 1), z.offset t, ?_, ?_, z.bounded _, z.bounded _, z.modest t, ?_,
      fun _ => ⟨ht, rfl, rfl⟩⟩
    · exact fun u hulo hut _ => (hbefore u hulo hut).trans hprev.symm
    · exact fun u hulo htu huhi => hafter u htu huhi
    · rintro u hu hulo huhi
      obtain rfl := honly u hu hulo huhi
      exact ⟨rfl, rfl, rfl⟩
  · have hsteady : ∀ u, mid - 172800000 ≤ u → u ≤ mid + 172800000 →
        z.offset u = z.offset (mid - 172800000) := fun u hulo huhi =>
      offset_eq_of_steady hulo fun v hv hvu hc => h ⟨v, hc, hv, by omega⟩
    refine ⟨mid, z.offset (mid - 172800000), z.offset (mid - 172800000), ?_, ?_, z.bounded _,
      z.bounded _, by omega, ?_, fun hne => absurd rfl hne⟩
    · exact fun u hulo _ huhi => hsteady u hulo huhi
    · exact fun u hulo _ huhi => hsteady u hulo huhi
    · exact fun u hu hulo huhi => absurd ⟨u, hu, hulo, huhi⟩ h

lemma Around.forall_changes_iff {mid change before after : ℤ} (h : Around z mid change before after)
    (ok : ℤ → ℤ → ℤ → Prop) (hsame : ∀ t x, ok t x x)
    (hfar : ∀ t x y, -86400000 < x → x < 86400000 → -86400000 < y → y < 86400000 →
      t ≤ mid - 172800000 ∨ mid + 172800000 < t → ok t x y) :
    (∀ t, z.Changes t → ok t (z.offset (t - 1)) (z.offset t)) ↔ ok change before after := by
  constructor
  · intro hall
    by_cases heq : before = after
    · rw [heq]
      exact hsame _ _
    · obtain ⟨hchange, hbefore, hafter⟩ := h.real heq
      have hok := hall change hchange
      rwa [hbefore, hafter] at hok
  · intro hok t ht
    by_cases hnear : mid - 172800000 < t ∧ t ≤ mid + 172800000
    · obtain ⟨rfl, hbefore, hafter⟩ := h.only t ht hnear.1 hnear.2
      rwa [hbefore, hafter]
    · refine hfar t _ _ (z.bounded _).1 (z.bounded _).2 (z.bounded _).1 (z.bounded _).2 ?_
      omega

/-! ## The guess -/

variable (z)

/-- The guess at the instant when the clock shows `mid`: the offset is that of the instant which the
offset of `probe` gives for `probe`. -/
def guess (probe mid : ℤ) : ℤ := mid - z.offset (probe - z.offset probe)

/-- The first instant of the day that starts when the clock shows `mid`. -/
def IsDayStart (mid t : ℤ) : Prop := IsLeast {u | mid ≤ z.wall u ∧ z.wall u < mid + 86400000} t

/-- The instant parts those before `mid` on the clock from the others. -/
def IsCut (mid t : ℤ) : Prop := ∀ u, z.wall u < mid ↔ u < t

variable {z}

/-- A change at `t` from `x` to `y` does not mislead the guess for `mid`.  West of Greenwich, where
it is behind `mid`: the clock is past midnight before it, or at most at midnight after it.  East:
where it is past midnight after it, it is no earlier before it, and where it is not, it is not so
before it. -/
def StartsRight (mid t x y : ℤ) : Prop :=
  if mid < t then mid < t + x ∨ t + y ≤ mid
  else if mid < t + y then mid ≤ t + x else t + x ≤ mid

section Guess

variable {mid change before after : ℤ} (h : Around z mid change before after)

include h

lemma Around.offset_eq {t : ℤ} (hlo : mid - 172800000 ≤ t) (hhi : t ≤ mid + 172800000) :
    z.offset t = if t < change then before else after := by
  split
  · next hlt => exact h.offset_lt t hlo hlt hhi
  · next hge => exact h.offset_ge t hlo (not_lt.1 hge) hhi

lemma Around.guess_eq (probe : ℤ) (hlo : mid - 1000 ≤ probe) (hhi : probe ≤ mid) :
    z.guess probe mid = mid -
      if (if probe < change then probe - before < change else probe - after < change) then before
      else after := by
  have hbefore := h.before_bounded
  have hafter := h.after_bounded
  rw [guess, h.offset_eq (t := probe) (by omega) (by omega)]
  split
  · rw [h.offset_eq (by omega) (by omega)]
  · rw [h.offset_eq (by omega) (by omega)]

/-- What the clock shows of an instant nearby. -/
lemma Around.wall_eq {t : ℤ} (hlo : mid - 172800000 ≤ t) (hhi : t ≤ mid + 172800000) :
    (t < change ∧ z.wall t = t + before) ∨ (change ≤ t ∧ z.wall t = t + after) := by
  rw [wall, h.offset_eq hlo hhi]
  split
  · next hlt => exact .inl ⟨hlt, rfl⟩
  · next hge => exact .inr ⟨not_lt.1 hge, rfl⟩

end Guess

/-- An instant of the day is near the midnight that starts it. -/
lemma near_of_wall {mid t : ℤ} (hle : mid ≤ z.wall t) (hlt : z.wall t < mid + 86400000) :
    mid - 86400000 < t ∧ t < mid + 172800000 := by
  have hbounded := z.bounded t
  unfold wall at hle hlt
  omega

/-- The guess is the start of the day, exactly where no change of the offset misleads it. -/
theorem isDayStart_guess_iff (mid : ℤ) : z.IsDayStart mid (z.guess mid mid) ↔
    ∀ t, z.Changes t → StartsRight mid t (z.offset (t - 1)) (z.offset t) := by
  obtain ⟨change, before, after, h⟩ := z.exists_around mid
  rw [h.forall_changes_iff (StartsRight mid)]
  · have hguess := h.guess_eq mid (by omega) le_rfl
    have hbefore := h.before_bounded
    have hafter := h.after_bounded
    have hmodest := h.modest
    constructor
    · rintro ⟨⟨hle, hlt⟩, hleast⟩
      have hmine := h.wall_eq (t := z.guess mid mid)
      have hcandidate : ∀ u, mid - 172800000 ≤ u → u ≤ mid + 172800000 → mid ≤ z.wall u →
          z.wall u < mid + 86400000 → z.guess mid mid ≤ u :=
        fun u _ _ hmid hday => hleast ⟨hmid, hday⟩
      have hold := hcandidate (mid - before) (by omega) (by omega)
      have hnew := hcandidate (mid - after) (by omega) (by omega)
      have hchange := hcandidate change
      have holdWall := h.wall_eq (t := mid - before) (by omega) (by omega)
      have hnewWall := h.wall_eq (t := mid - after) (by omega) (by omega)
      have hchangeWall := h.wall_eq (t := change)
      unfold StartsRight
      split_ifs at hguess ⊢ <;> omega
    · intro hok
      unfold StartsRight at hok
      refine ⟨?_, fun u ⟨hle, hlt⟩ => ?_⟩
      · have hmine := h.wall_eq (t := z.guess mid mid)
        show mid ≤ z.wall (z.guess mid mid) ∧ z.wall (z.guess mid mid) < mid + 86400000
        split_ifs at hguess hok <;> omega
      · obtain ⟨hlo, hhi⟩ := near_of_wall hle hlt
        have hu := h.wall_eq (t := u) (by omega) (by omega)
        split_ifs at hguess hok <;> omega
  · intro t x
    unfold StartsRight
    split_ifs <;> omega
  · intro t x y hx hx' hy hy' hfar
    unfold StartsRight
    split_ifs <;> omega

/-- A change at `t` from `x` to `y` does not mislead the guess that is made by `probe`: where the
guess takes the offset from before it, the clock is not before midnight on either side, and where it
takes the one from after it, the clock is not past midnight on either side. -/
def CutsRight (probe mid t x y : ℤ) : Prop :=
  if (if probe < t then probe < t + x else probe < t + y) then mid ≤ t + x ∧ mid ≤ t + y
  else t + x ≤ mid ∧ t + y ≤ mid

/-- The guess parts the days at a midnight, exactly where no change of the offset misleads it. -/
theorem isCut_guess_iff (z : TimeZone) (probe mid : ℤ) (hlo : mid - 1000 ≤ probe) (hhi : probe ≤ mid) :
    z.IsCut mid (z.guess probe mid) ↔
      ∀ t, z.Changes t → CutsRight probe mid t (z.offset (t - 1)) (z.offset t) := by
  obtain ⟨change, before, after, h⟩ := z.exists_around mid
  have hok : (∀ t, z.Changes t → CutsRight probe mid t (z.offset (t - 1)) (z.offset t)) ↔
      (before ≠ after → CutsRight probe mid change before after) := by
    rw [← h.forall_changes_iff (fun t x y => x ≠ y → CutsRight probe mid t x y)
      (fun t x hne => absurd rfl hne)]
    · exact forall₂_congr fun t ht => ⟨fun hcut _ => hcut, fun hcut => hcut ht⟩
    · intro t x y hx hx' hy hy' hfar _
      unfold CutsRight
      split_ifs <;> omega
  have hguess := h.guess_eq probe hlo hhi
  have hbefore := h.before_bounded
  have hafter := h.after_bounded
  have hmodest := h.modest
  rw [hok]
  constructor
  · intro hcut hne
    have hold := hcut (mid - before)
    have hnew := hcut (mid - after)
    have hchange := hcut change
    have hlast := hcut (change - 1)
    have holdWall := h.wall_eq (t := mid - before) (by omega) (by omega)
    have hnewWall := h.wall_eq (t := mid - after) (by omega) (by omega)
    have hchangeWall := h.wall_eq (t := change)
    have hlastWall := h.wall_eq (t := change - 1)
    unfold CutsRight
    split_ifs at hguess ⊢ <;> omega
  · intro hright u
    by_cases hnear : mid - 172800000 ≤ u ∧ u ≤ mid + 172800000
    · have hu := h.wall_eq hnear.1 hnear.2
      unfold CutsRight at hright
      split_ifs at hguess hright <;> omega
    · have hu := z.bounded u
      unfold wall
      split_ifs at hguess <;> omega

/-- Only one instant parts the days at a midnight. -/
lemma IsCut.unique {mid t u : ℤ} (ht : z.IsCut mid t) (hu : z.IsCut mid u) : t = u := by
  have htu := (ht t).symm.trans (hu t)
  have hut := (ht u).symm.trans (hu u)
  omega

lemma isCut_of_day {mid s e : ℤ} (hse : s ≤ e)
    (h : ∀ t, s ≤ t ∧ t ≤ e ↔ mid ≤ z.wall t ∧ z.wall t < mid + 86400000) : z.IsCut mid s := by
  obtain ⟨change, before, after, hz⟩ := z.exists_around mid
  have hbefore := hz.before_bounded
  have hafter := hz.after_bounded
  have hmodest := hz.modest
  intro u
  by_cases hnear : mid - 172800000 ≤ u ∧ u ≤ mid + 172800000
  · have hu := hz.wall_eq hnear.1 hnear.2
    have hday := h u
    have hnew := h (mid - after)
    have hnewWall := hz.wall_eq (t := mid - after) (by omega) (by omega)
    constructor
    · -- a day that was left for the one before would be reached again at midnight
      intro hwall
      by_contra hge
      have hlast := (h e).1 ⟨hse, le_rfl⟩
      have hlastNear := near_of_wall hlast.1 hlast.2
      have hlastWall := hz.wall_eq (t := e) (by omega) (by omega)
      omega
    · -- an earlier instant of a later day would have midnight before it, or the change
      intro hlt
      by_contra hge
      have hold := h (mid - before)
      have holdWall := hz.wall_eq (t := mid - before) (by omega) (by omega)
      rcases hu with ⟨hbeforeChange, hwall⟩ | ⟨hafterChange, hwall⟩
      · omega
      · have hchange := h change
        have hprev := h (change - 1)
        have hchangeWall := hz.wall_eq (t := change)
        have hprevWall := hz.wall_eq (t := change - 1)
        omega
  · have hfirst := (h s).1 ⟨le_rfl, hse⟩
    have hs := near_of_wall hfirst.1 hfirst.2
    have hu := z.bounded u
    unfold wall
    omega

/-- The guesses for two midnights in a row are a second apart at least. -/
lemma guess_add_le (mid probe probe' : ℤ) (hlo : mid - 1000 ≤ probe) (hhi : probe ≤ mid)
    (hlo' : mid + 86400000 - 1000 ≤ probe') (hhi' : probe' ≤ mid + 86400000) :
    z.guess probe mid + 1000 ≤ z.guess probe' (mid + 86400000) := by
  obtain ⟨change, before, after, h⟩ := z.exists_around mid
  have hbounded := z.bounded probe
  have hbounded' := z.bounded probe'
  have hvalue := h.wall_eq (t := probe - z.offset probe) (by omega) (by omega)
  have hvalue' := h.wall_eq (t := probe' - z.offset probe') (by omega) (by omega)
  have hseconds := z.seconds (probe - z.offset probe)
  have hseconds' := z.seconds (probe' - z.offset probe')
  have hmodest := h.modest
  unfold guess
  unfold wall at hvalue hvalue'
  omega

/-! ## A zone with one change -/

def once (change before after : ℤ)
    (hbefore : -86400000 < before ∧ before < 86400000 ∧ 1000 ∣ before)
    (hafter : -86400000 < after ∧ after < 86400000 ∧ 1000 ∣ after)
    (hmodest : -86400000 < after - before ∧ after - before < 86400000) : TimeZone where
  offset t := if t < change then before else after
  bounded t := by split <;> omega
  modest t := by split_ifs <;> omega
  spaced t t' ht ht' hlt := by split_ifs at ht ht' <;> omega
  seconds t := by split <;> omega

end TimeZone
