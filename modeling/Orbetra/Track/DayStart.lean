import Orbetra.Framework.TimeZone

/-!
# Where a day starts

`zonedDayStart` and `dayView` of `apps/web/src/lib/trackWindow.ts`.  A calendar date is its number
of days since the epoch, which `Date.UTC` and the getters of a `Date` turn into one another;
instants are in milliseconds. -/

namespace Orbetra.Track

variable (zone : TimeZone)

/-- The calendar date that the clock shows. -/
def localDay (t : ℤ) : ℤ := zone.wall t / 86400000

/-- What `Intl` says of an instant: its date, and its date and time to the second, as of UTC. -/
structure ZoneParts where
  day : ℤ
  ms : ℤ

/-- `zoneParts` -/
def zoneParts (atMs : ℤ) : ZoneParts := ⟨localDay zone atMs, zone.wall atMs - zone.wall atMs % 1000⟩

/-- `zoneOffsetMs` -/
def zoneOffsetMs (atMs : ℤ) : ℤ := (zoneParts zone atMs).ms - atMs

/-- `zonedDayStart` -/
def zonedDayStart (daysBack : ℕ) (nowMs : ℤ) : ℤ :=
  let today := zoneParts zone nowMs
  let target := today.day * 86400000 - daysBack * 86400000
  let naive := target / 86400000 * 86400000
  let first := naive - zoneOffsetMs zone naive
  naive - zoneOffsetMs zone first

/-- A window of the track, which is live without an anchor. -/
structure TrackView where
  spanH : ℤ
  anchorTo : Option ℤ
  deriving DecidableEq

/-- `dayView`; `Math.round` rounds a half up. -/
def dayView (daysBack : ℕ) (nowMs : ℤ) (spanH : ℤ) : TrackView :=
  if daysBack = 0 then ⟨spanH, none⟩
  else
    let start := zonedDayStart zone daysBack nowMs
    let stop := zonedDayStart zone (daysBack - 1) nowMs
    ⟨max 1 ((2 * (stop - start) + 3600000) / 7200000), some stop⟩

/-! ## The start as a guess -/

def midnight (daysBack : ℕ) (nowMs : ℤ) : ℤ := (localDay zone nowMs - daysBack) * 86400000

variable {zone}

/-- At whole seconds `Intl` says all of the offset. -/
lemma zoneOffsetMs_eq {t : ℤ} (h : 1000 ∣ t) : zoneOffsetMs zone t = zone.offset t := by
  have hseconds := zone.seconds t
  simp only [zoneOffsetMs, zoneParts, TimeZone.wall]
  omega

lemma zonedDayStart_eq (daysBack : ℕ) (nowMs : ℤ) : zonedDayStart zone daysBack nowMs =
    zone.guess (midnight zone daysBack nowMs) (midnight zone daysBack nowMs) := by
  have hnaive :
      ((zoneParts zone nowMs).day * 86400000 - daysBack * 86400000) / 86400000 * 86400000 =
      midnight zone daysBack nowMs := by
    simp only [zoneParts, midnight]
    omega
  have hmidnight : (1000 : ℤ) ∣ midnight zone daysBack nowMs := by
    unfold midnight
    omega
  have hseconds := zone.seconds (midnight zone daysBack nowMs)
  simp only [zonedDayStart, hnaive, zoneOffsetMs_eq hmidnight]
  rw [zoneOffsetMs_eq (by omega), TimeZone.guess]

/-- The instants of a date are those between its midnights on the clock. -/
lemma localDay_eq_iff {t : ℤ} (daysBack : ℕ) (nowMs : ℤ) :
    localDay zone t = localDay zone nowMs - daysBack ↔ midnight zone daysBack nowMs ≤ zone.wall t ∧
      zone.wall t < midnight zone daysBack nowMs + 86400000 := by
  simp only [midnight]
  unfold localDay
  omega

lemma zonedDayStart_succ_lt (zone : TimeZone) (daysBack : ℕ) (nowMs : ℤ) :
    zonedDayStart zone (daysBack + 1) nowMs < zonedDayStart zone daysBack nowMs := by
  have hmidnight : midnight zone daysBack nowMs =
      midnight zone (daysBack + 1) nowMs + 86400000 := by
    simp only [midnight]
    push_cast
    omega
  have hstep := zone.guess_add_le (midnight zone (daysBack + 1) nowMs) _
    (midnight zone (daysBack + 1) nowMs + 86400000) (by omega) le_rfl (by omega) le_rfl
  rw [zonedDayStart_eq, zonedDayStart_eq, hmidnight]
  omega

lemma zonedDayStart_add_le (zone : TimeZone) (daysBack : ℕ) (nowMs : ℤ) :
    zonedDayStart zone daysBack nowMs + daysBack ≤ zonedDayStart zone 0 nowMs := by
  induction daysBack with
  | zero => simp
  | succ k ih =>
      have hstep := zonedDayStart_succ_lt zone k nowMs
      push_cast
      omega

lemma exists_day (nowMs t : ℤ) : zonedDayStart zone 0 nowMs ≤ t ∨
    ∃ k, zonedDayStart zone (k + 1) nowMs ≤ t ∧ t < zonedDayStart zone k nowMs := by
  have hbelow : ∃ k, zonedDayStart zone k nowMs ≤ t := by
    refine ⟨(zonedDayStart zone 0 nowMs - t).toNat, ?_⟩
    have hle := zonedDayStart_add_le zone (zonedDayStart zone 0 nowMs - t).toNat nowMs
    omega
  classical
  cases hfind : Nat.find hbelow with
  | zero => exact .inl (hfind ▸ Nat.find_spec hbelow)
  | succ k =>
      have hlt := Nat.find_min hbelow (m := k) (by omega)
      exact .inr ⟨k, hfind ▸ Nat.find_spec hbelow, not_le.1 hlt⟩

/-- The window of a day ends where the day ends, and starts within half an hour of where it starts.
-/
lemma dayView_span (daysBack : ℕ) (nowMs : ℤ) (spanH : ℤ) :
    ∃ spanH', dayView zone (daysBack + 1) nowMs spanH =
      ⟨spanH', some (zonedDayStart zone daysBack nowMs)⟩ ∧
      zonedDayStart zone daysBack nowMs - spanH' * 3600000 ≤
        zonedDayStart zone (daysBack + 1) nowMs + 1800000 := by
  have hlt := zonedDayStart_succ_lt zone daysBack nowMs
  refine ⟨_, rfl, ?_⟩
  simp only [Nat.add_sub_cancel]
  omega

/-- The starts are in order and leave no instant without a day; and each is the first instant of its
local day, exactly where no change of the offset misleads the guess at its midnight. -/
theorem day_start_iff (zone : TimeZone) (daysBack : ℕ) (nowMs : ℤ) :
    (IsLeast {t | localDay zone t = localDay zone nowMs - daysBack}
      (zonedDayStart zone daysBack nowMs) ∧
      zonedDayStart zone (daysBack + 1) nowMs < zonedDayStart zone daysBack nowMs ∧
      ∀ t, zonedDayStart zone 0 nowMs ≤ t ∨
        ∃ k, zonedDayStart zone (k + 1) nowMs ≤ t ∧ t < zonedDayStart zone k nowMs) ↔
    ∀ t, zone.Changes t → TimeZone.StartsRight ((localDay zone nowMs - daysBack) * 86400000) t
      (zone.offset (t - 1)) (zone.offset t) := by
  have hset : {t | localDay zone t = localDay zone nowMs - daysBack} =
      {t | midnight zone daysBack nowMs ≤ zone.wall t ∧
        zone.wall t < midnight zone daysBack nowMs + 86400000} :=
    Set.ext fun t => localDay_eq_iff daysBack nowMs
  have hstart := TimeZone.isDayStart_guess_iff (z := zone) (midnight zone daysBack nowMs)
  rw [TimeZone.IsDayStart, ← hset, ← zonedDayStart_eq] at hstart
  rw [hstart]
  exact ⟨And.left, fun h => ⟨h, zonedDayStart_succ_lt zone daysBack nowMs, exists_day nowMs⟩⟩

lemma west_two : -86400000 < (-7200000 : ℤ) ∧ (-7200000 : ℤ) < 86400000 ∧ 1000 ∣ (-7200000 : ℤ) := by
  decide

lemma west_three :
    -86400000 < (-10800000 : ℤ) ∧ (-10800000 : ℤ) < 86400000 ∧ 1000 ∣ (-10800000 : ℤ) := by
  decide

/-- West of Greenwich, clocks forward at midnight: from three hours behind to two. -/
def forwardAtMidnight : TimeZone :=
  TimeZone.once 10800000 (-10800000) (-7200000) west_three west_two (by decide)

/-- The day of the change starts at one o'clock, and the code says an hour before that, at eleven in
the evening. -/
theorem forward_at_midnight_wrong : ¬ ∀ (zone : TimeZone) (daysBack : ℕ) (nowMs : ℤ),
    IsLeast {t | localDay zone t = localDay zone nowMs - daysBack}
      (zonedDayStart zone daysBack nowMs) := by
  intro h
  have hday := (h forwardAtMidnight 0 43200000).1
  exact absurd hday (by decide)

end Orbetra.Track
