import Orbetra.Track.DayStart

/-!
# The window of a picked day

`dayStartIso` and `dayEndIso` of `apps/web/src/lib/playback.ts`, with a display zone: from the first
to the last millisecond that the wall clock shows of a date. -/

namespace Orbetra.Track

variable (zone : TimeZone)

/-- `tzOffsetMs`: `Intl` gives the clock to the second. -/
def tzOffsetMs (utcMs : ℤ) : ℤ := zone.wall utcMs - zone.wall utcMs % 1000 - utcMs

/-- `zonedWallToUtcMs` -/
def zonedWallToUtcMs (day hh mm ss ms : ℤ) : ℤ :=
  let guess := day * 86400000 + hh * 3600000 + mm * 60000 + ss * 1000
  let offset := tzOffsetMs zone guess
  let utc := guess - offset
  let offset2 := tzOffsetMs zone utc
  (if offset2 = offset then utc else guess - offset2) + ms

/-- `dayStartIso` -/
def dayStartIso (day : ℤ) : ℤ := zonedWallToUtcMs zone day 0 0 0 0

/-- `dayEndIso` -/
def dayEndIso (day : ℤ) : ℤ := zonedWallToUtcMs zone day 23 59 59 999

/-! ## Both edges as guesses -/

variable {zone}

lemma tzOffsetMs_eq {t : ℤ} (h : 1000 ∣ t) : tzOffsetMs zone t = zone.offset t := by
  have hseconds := zone.seconds t
  simp only [tzOffsetMs, TimeZone.wall]
  omega

lemma zonedWallToUtcMs_eq (day hh mm ss ms : ℤ) :
    zonedWallToUtcMs zone day hh mm ss ms =
      zone.guess (day * 86400000 + hh * 3600000 + mm * 60000 + ss * 1000)
        (day * 86400000 + hh * 3600000 + mm * 60000 + ss * 1000) + ms := by
  have hguess : (1000 : ℤ) ∣ day * 86400000 + hh * 3600000 + mm * 60000 + ss * 1000 := by omega
  have hseconds := zone.seconds (day * 86400000 + hh * 3600000 + mm * 60000 + ss * 1000)
  simp only [zonedWallToUtcMs, tzOffsetMs_eq hguess]
  rw [tzOffsetMs_eq (by omega), TimeZone.guess]
  split
  · next heq => rw [heq]
  · rfl

lemma dayStartIso_eq (day : ℤ) :
    dayStartIso zone day = zone.guess (day * 86400000) (day * 86400000) := by
  simp [dayStartIso, zonedWallToUtcMs_eq]

lemma dayEndIso_eq (day : ℤ) : dayEndIso zone day + 1 =
    zone.guess ((day + 1) * 86400000 - 1000) ((day + 1) * 86400000) := by
  have hlast : day * 86400000 + 23 * 3600000 + 59 * 60000 + 59 * 1000 =
      (day + 1) * 86400000 - 1000 := by
    omega
  rw [dayEndIso, zonedWallToUtcMs_eq, hlast, TimeZone.guess, TimeZone.guess]
  omega

/-- The instants of a date are those between its midnights on the clock. -/
lemma localDay_eq_iff_wall {t day : ℤ} :
    localDay zone t = day ↔
      day * 86400000 ≤ zone.wall t ∧ zone.wall t < day * 86400000 + 86400000 := by
  unfold localDay
  omega

/-- The window of a day meets the next one, is not empty, and has the instants of its date. -/
structure Tiles (zone : TimeZone) (day : ℤ) : Prop where
  meets : dayEndIso zone day + 1 = dayStartIso zone (day + 1)
  nonempty : dayStartIso zone day < dayEndIso zone day
  exact' : ∀ t, dayStartIso zone day ≤ t ∧ t ≤ dayEndIso zone day ↔ localDay zone t = day

lemma start_lt_end (day : ℤ) : dayStartIso zone day < dayEndIso zone day := by
  have hstep := zone.guess_add_le (day * 86400000) (day * 86400000) ((day + 1) * 86400000 - 1000)
    (by omega) le_rfl (by omega) (by omega)
  rw [← dayStartIso_eq, show day * 86400000 + 86400000 = (day + 1) * 86400000 by omega,
    ← dayEndIso_eq] at hstep
  omega

/-- A day is tiled where its edges part it from the days around it, and the edge between two days is
one. -/
lemma tiles_iff_isCut (zone : TimeZone) (day : ℤ) : Tiles zone day ↔
    zone.IsCut (day * 86400000) (dayStartIso zone day) ∧
      zone.IsCut ((day + 1) * 86400000) (dayStartIso zone (day + 1)) ∧
      zone.IsCut ((day + 1) * 86400000) (dayEndIso zone day + 1) := by
  constructor
  · intro h
    have hday : ∀ t, dayStartIso zone day ≤ t ∧ t ≤ dayEndIso zone day ↔
        day * 86400000 ≤ zone.wall t ∧ zone.wall t < day * 86400000 + 86400000 := fun t =>
      (h.exact' t).trans localDay_eq_iff_wall
    have hcut := TimeZone.isCut_of_day h.nonempty.le hday
    have hend : zone.IsCut ((day + 1) * 86400000) (dayEndIso zone day + 1) := by
      intro t
      have hbefore := hcut t
      have hin := hday t
      have hnonempty := h.nonempty
      omega
    exact ⟨hcut, h.meets ▸ hend, hend⟩
  · rintro ⟨hstart, hnext, hend⟩
    refine ⟨hend.unique hnext, start_lt_end day, fun t => ?_⟩
    have hbefore := hstart t
    have hafter := hend t
    rw [localDay_eq_iff_wall]
    omega

def NoneMisleads (zone : TimeZone) (day : ℤ) : Prop :=
  ∀ t, zone.Changes t →
    TimeZone.CutsRight (day * 86400000) (day * 86400000) t (zone.offset (t - 1)) (zone.offset t) ∧
    TimeZone.CutsRight ((day + 1) * 86400000) ((day + 1) * 86400000) t (zone.offset (t - 1))
      (zone.offset t) ∧
    TimeZone.CutsRight ((day + 1) * 86400000 - 1000) ((day + 1) * 86400000) t (zone.offset (t - 1))
      (zone.offset t)

/-- The window of a day is tiled with the next one and has the instants of its date, exactly where
no change of the offset misleads a guess at one of its edges. -/
theorem day_tiles_iff (zone : TimeZone) (day : ℤ) :
    (dayEndIso zone day + 1 = dayStartIso zone (day + 1) ∧
      dayStartIso zone day < dayEndIso zone day ∧
      ∀ t, dayStartIso zone day ≤ t ∧ t ≤ dayEndIso zone day ↔ localDay zone t = day) ↔
    NoneMisleads zone day := by
  have hstart := zone.isCut_guess_iff (day * 86400000) _ (by omega) le_rfl
  have hnext := zone.isCut_guess_iff ((day + 1) * 86400000) _ (by omega) le_rfl
  have hend := zone.isCut_guess_iff ((day + 1) * 86400000 - 1000) ((day + 1) * 86400000)
    (by omega) (by omega)
  rw [← dayStartIso_eq] at hstart hnext
  rw [← dayEndIso_eq] at hend
  have htiles := tiles_iff_isCut zone day
  rw [hstart, hnext, hend] at htiles
  refine Iff.trans ⟨fun ⟨h, h', h''⟩ => ⟨h, h', h''⟩, fun h => ⟨h.meets, h.nonempty, h.exact'⟩⟩
    (htiles.trans ?_)
  exact ⟨fun ⟨h, h', h''⟩ t ht => ⟨h t ht, h' t ht, h'' t ht⟩,
    fun h => ⟨fun t ht => (h t ht).1, fun t ht => (h t ht).2.1, fun t ht => (h t ht).2.2⟩⟩

/-- West of Greenwich, clocks back at midnight: from two hours behind to three. -/
def backAtMidnight : TimeZone :=
  TimeZone.once 7200000 (-7200000) (-10800000) west_two west_three (by decide)

/-- The day before has an hour more than its window. -/
theorem back_at_midnight_missing : ¬ ∀ (zone : TimeZone) (day : ℤ),
    dayEndIso zone day + 1 = dayStartIso zone (day + 1) ∧
      dayStartIso zone day < dayEndIso zone day ∧
      ∀ t, dayStartIso zone day ≤ t ∧ t ≤ dayEndIso zone day ↔ localDay zone t = day := by
  intro h
  have hmeets := (h backAtMidnight (-1)).1
  exact absurd hmeets (by decide)

end Orbetra.Track
