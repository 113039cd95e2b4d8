import Mathlib

/-!
# The windows of scheduled reports

`isDue`, `reportWindow` and the claim of `runDueSchedules` in `reports/scheduledReporter.ts`, and
`claimRun` of `repos/scheduledReports.ts`, for one schedule.  The window is computed from the boundary
of the day of the tick, and so tiles as long as a day has one run (`tiles_iff`).  The guard of 23 hours
does not see to that: where the hour is 0, a run in the first minutes of a day leaves room for another
in its last hour (`window_twice`).

Times are milliseconds since 1970-01-01, which was a Thursday.
-/

namespace Orbetra.Reports

open List

def hourMs : ℤ := 3600000

def dayMs : ℤ := 86400000

def runGuardMs : ℤ := 23 * hourMs

inductive Cadence
  | daily
  | weekly
  deriving DecidableEq

/-- What `isDue` and `reportWindow` read of a `Schedule`, without the time of its last run. -/
structure Schedule where
  cadence : Cadence
  hourUtc : ℤ
  /-- 0 is Sunday. -/
  weekday : Option ℤ
  hour_mem : 0 ≤ hourUtc ∧ hourUtc < 24

def utcDay (t : ℤ) : ℤ := t / dayMs

/-- `getUTCHours` -/
def utcHours (t : ℤ) : ℤ := t % dayMs / hourMs

/-- `getUTCDay` -/
def utcWeekday (t : ℤ) : ℤ := (utcDay t + 4) % 7

namespace Schedule

variable (s : Schedule)

def isDue (nowMs : ℤ) (lastRunAtMs : Option ℤ) : Bool :=
  if utcHours nowMs < s.hourUtc then false
  else if s.cadence = .weekly ∧ s.weekday ≠ some (utcWeekday nowMs) then false
  else lastRunAtMs.all fun last => ¬ nowMs - last < runGuardMs

/-- The time that a report covers. -/
def span : ℤ :=
  match s.cadence with
  | .daily => dayMs
  | .weekly => 7 * dayMs

/-- `Date.UTC` of the day of a time and the hour of the schedule. -/
def boundary (t : ℤ) : ℤ := utcDay t * dayMs + s.hourUtc * hourMs

end Schedule

/-- `{ from, to }` -/
structure Window where
  start : ℤ
  stop : ℤ
  deriving DecidableEq

def ceilDiv (a b : ℤ) : ℤ := -(-a / b)

namespace Schedule

variable (s : Schedule)

def reportWindow (nowMs : ℤ) (lastRunAtMs : Option ℤ) : Window :=
  let stop := s.boundary nowMs
  let defaultFrom := stop - s.span
  match lastRunAtMs with
  | none => ⟨defaultFrom, stop⟩
  | some last =>
    if last < defaultFrom then ⟨stop - ceilDiv (stop - last) s.span * s.span, stop⟩
    else ⟨defaultFrom, stop⟩

/-- The condition under which `claimRun` updates the row. -/
def claimable (at_ : ℤ) (lastRunAt : Option ℤ) : Bool := lastRunAt.all (· < at_ - runGuardMs)

/-- The schedule fires at a tick, and wins its claim. -/
def fires (nowMs : ℤ) (lastRunAt : Option ℤ) : Bool :=
  s.isDue nowMs lastRunAt && claimable nowMs lastRunAt

/-- The windows of the claimed runs of `runDueSchedules`, from a time of the last run. -/
def runs : Option ℤ → List ℤ → List Window
  | _, [] => []
  | last, now :: ticks =>
    if s.fires now last then s.reportWindow now last :: runs (some now) ticks else runs last ticks

/-- `lastRunAt` after some ticks. -/
def lastRun : Option ℤ → List ℤ → Option ℤ
  | last, [] => last
  | last, now :: ticks => lastRun (if s.fires now last then some now else last) ticks

/-! ## Tiling -/

/-- The windows tile: the first is one span long, and each other starts where the one before ends. -/
def Tiles (windows : List Window) : Prop :=
  (∀ w ∈ windows.head?, w.stop - w.start = s.span) ∧ windows.IsChain fun w w' => w'.start = w.stop

def OncePerDay (lastRunAt : Option ℤ) (now : ℤ) : Prop :=
  ∀ last ∈ lastRunAt, utcDay last = utcDay now → now - last ≤ runGuardMs

/-- A time of day, and a day of the week, at which the schedule may fire. -/
structure InSchedule (t : ℤ) : Prop where
  hour : s.hourUtc ≤ utcHours t
  day : s.cadence = .weekly → s.weekday = some (utcWeekday t)

variable {s} {now last : ℤ} {ticks : List ℤ}

lemma isDue_iff {lastRunAt : Option ℤ} :
    s.isDue now lastRunAt = true ↔
      s.InSchedule now ∧ ∀ last ∈ lastRunAt, runGuardMs ≤ now - last := by
  unfold isDue
  split
  · rename_i hhour
    exact ⟨(fun h => by cases h), fun h => absurd h.1.hour (not_le.mpr hhour)⟩
  · rename_i hhour
    split
    · rename_i hday
      exact ⟨(fun h => by cases h), fun h => absurd (h.1.day hday.1) hday.2⟩
    · rename_i hday
      have hin : s.InSchedule now := by
        refine ⟨not_lt.mp hhour, fun hweekly => ?_⟩
        by_contra hne
        exact hday ⟨hweekly, hne⟩
      cases lastRunAt with
      | none => simp [hin]
      | some last => simp [hin]

lemma fires_iff {lastRunAt : Option ℤ} :
    s.fires now lastRunAt = true ↔
      s.InSchedule now ∧ ∀ last ∈ lastRunAt, runGuardMs < now - last := by
  unfold fires claimable
  rw [Bool.and_eq_true, isDue_iff]
  cases lastRunAt with
  | none => simp
  | some last =>
    simp only [Option.mem_def, Option.some.injEq, forall_eq', Option.all_some, decide_eq_true_iff]
    constructor
    · rintro ⟨⟨hin, -⟩, hclaim⟩
      exact ⟨hin, lt_sub_comm.mp hclaim⟩
    · rintro ⟨hin, hguard⟩
      exact ⟨⟨hin, hguard.le⟩, lt_sub_comm.mp hguard⟩

lemma start_reportWindow :
    (s.reportWindow now (some last)).start =
      if last < s.boundary now - s.span then
        s.boundary now - ceilDiv (s.boundary now - last) s.span * s.span
      else s.boundary now - s.span := by
  unfold reportWindow
  dsimp only
  split <;> rfl

lemma start_of_next_day (hlast : s.InSchedule last) (hnow : s.InSchedule now)
    (hday : utcDay last < utcDay now) :
    (s.reportWindow now (some last)).start = s.boundary last := by
  have hhour := hlast.hour
  have hmem := s.hour_mem
  rw [start_reportWindow]
  unfold boundary ceilDiv span
  cases hcadence : s.cadence with
  | daily =>
    by_cases hmissed : last < utcDay now * dayMs + s.hourUtc * hourMs - dayMs
    · rw [if_pos hmissed]
      simp only [utcHours, utcDay, dayMs, hourMs] at *
      omega
    · rw [if_neg hmissed]
      simp only [utcHours, utcDay, dayMs, hourMs] at *
      omega
  | weekly =>
    have hweekday := Option.some.inj ((hlast.day hcadence).symm.trans (hnow.day hcadence))
    by_cases hmissed : last < utcDay now * dayMs + s.hourUtc * hourMs - 7 * dayMs
    · rw [if_pos hmissed]
      simp only [utcWeekday, utcHours, utcDay, dayMs, hourMs] at *
      omega
    · rw [if_neg hmissed]
      simp only [utcWeekday, utcHours, utcDay, dayMs, hourMs] at *
      omega

lemma dayMs_le_span (s : Schedule) : dayMs ≤ s.span := by
  unfold span dayMs
  cases s.cadence with
  | daily => exact le_refl _
  | weekly => decide

lemma start_of_same_day (hlast : s.InSchedule last) (hday : utcDay last = utcDay now) :
    (s.reportWindow now (some last)).start ≠ s.boundary last := by
  have hhour := hlast.hour
  have hmem := s.hour_mem
  have hspan := s.dayMs_le_span
  have hboundary : s.boundary now = s.boundary last := by
    unfold boundary
    rw [hday]
  have hrecent : s.boundary last ≤ last := by
    simp only [boundary, utcHours, utcDay, dayMs, hourMs] at *
    omega
  rw [start_reportWindow, hboundary, if_neg (by unfold dayMs at hspan; omega)]
  unfold dayMs at hspan
  omega

lemma stop_reportWindow (lastRunAt : Option ℤ) :
    (s.reportWindow now lastRunAt).stop = s.boundary now := by
  unfold reportWindow
  cases lastRunAt with
  | none => rfl
  | some last =>
    dsimp only
    split <;> rfl

lemma length_reportWindow_none : (s.reportWindow now none).stop - (s.reportWindow now none).start = s.span :=
  sub_sub_cancel _ _

/-- Only a second run on one day breaks the tiling: what a tick does after a run. -/
lemma start_iff (hlast : s.InSchedule last) (hlt : last < now) :
    (s.fires now (some last) = true → (s.reportWindow now (some last)).start = s.boundary last) ↔
      OncePerDay (some last) now := by
  constructor
  · intro h last' hlast' hday
    cases hlast'
    by_contra hguard
    have hin : s.InSchedule now := by
      have hhour := hlast.hour
      refine ⟨?_, fun hweekly => ?_⟩
      · simp only [utcHours, utcDay, dayMs, hourMs] at *
        omega
      · rw [hlast.day hweekly]
        unfold utcWeekday
        rw [hday]
    refine start_of_same_day hlast hday (h (fires_iff.mpr ⟨hin, fun last' hlast' => ?_⟩))
    cases hlast'
    exact not_le.mp hguard
  · intro h hfires
    obtain ⟨hin, hguard⟩ := fires_iff.mp hfires
    refine start_of_next_day hlast hin (lt_of_le_of_ne ?_ fun hday => ?_)
    · exact Int.ediv_le_ediv (by decide) hlt.le
    · exact absurd (hguard last rfl) (not_lt.mpr (h last rfl hday))

lemma forall_split_cons (P : List ℤ → ℤ → Prop) :
    (∀ before now' after, now :: ticks = before ++ now' :: after → P before now') ↔
      P [] now ∧ ∀ before now' after, ticks = before ++ now' :: after → P (now :: before) now' := by
  constructor
  · intro h
    refine ⟨h [] now ticks rfl, fun before now' after heq => ?_⟩
    exact h (now :: before) now' after (by rw [heq]; rfl)
  · intro ⟨hfirst, hrest⟩ before now' after heq
    cases before with
    | nil =>
      cases heq
      exact hfirst
    | cons now'' before =>
      obtain ⟨rfl, hticks⟩ := cons.inj heq
      exact hrest before now' after hticks

lemma isChain_runs (hlast : s.InSchedule last) (hticks : (last :: ticks).Pairwise (· < ·))
    {w : Window} (hw : w.stop = s.boundary last) :
    (w :: s.runs (some last) ticks).IsChain (fun w w' => w'.start = w.stop) ↔
      ∀ before now after, ticks = before ++ now :: after →
        OncePerDay (s.lastRun (some last) before) now := by
  induction ticks generalizing last w with
  | nil => simp [runs]
  | cons now ticks ih =>
    obtain ⟨hbefore, hticks'⟩ := pairwise_cons.mp hticks
    have hlt := hbefore now mem_cons_self
    rw [forall_split_cons fun before now' => OncePerDay (s.lastRun (some last) before) now']
    unfold runs lastRun
    rw [← start_iff hlast hlt]
    by_cases hfires : s.fires now (some last) = true
    · obtain ⟨hin, -⟩ := fires_iff.mp hfires
      simp only [hfires, if_true, true_imp_iff]
      rw [isChain_cons_cons, ih hin hticks' (stop_reportWindow _), hw]
    · simp only [hfires, Bool.false_eq_true, if_false, false_imp_iff, true_and]
      refine ih hlast ?_ hw
      exact hticks.sublist (Sublist.cons_cons last (sublist_cons_self now ticks))

/-- **Report windows tile iff no day has a second run.** From the first run of a schedule on, over any
increasing ticks: no tick falls on the day of the last run and more than 23 hours after it. -/
theorem tiles_iff (s : Schedule) {ticks : List ℤ} (hticks : ticks.Pairwise (· < ·)) :
    s.Tiles (s.runs none ticks) ↔ ∀ before now after, ticks = before ++ now :: after →
      OncePerDay (s.lastRun none before) now := by
  induction ticks with
  | nil => simp [runs, Tiles]
  | cons now ticks ih =>
    rw [forall_split_cons fun before now' => OncePerDay (s.lastRun none before) now']
    have hfirst : OncePerDay (s.lastRun none []) now := fun _ hlast => by cases hlast
    unfold runs lastRun
    by_cases hfires : s.fires now none = true
    · simp only [hfires, if_true]
      rw [← isChain_runs (fires_iff.mp hfires).1 hticks (stop_reportWindow none)]
      refine ⟨fun h => ⟨hfirst, h.2⟩, fun h => ⟨fun w hw => ?_, h.2⟩⟩
      cases hw
      exact length_reportWindow_none
    · simp only [hfires, Bool.false_eq_true, if_false]
      rw [ih hticks.of_cons]
      exact ⟨fun h => ⟨hfirst, h⟩, fun h => h.2⟩

instance (windows : List Window) : Decidable (s.Tiles windows) :=
  inferInstanceAs (Decidable (_ ∧ _))

/-! A daily report at midnight. -/

def midnight : Schedule := ⟨.daily, 0, none, by decide⟩

/-- Two ticks of one day, and one of the next. -/
theorem tiles_iff_two_days :
    midnight.runs none [600000, 4200000, 87000000] = [⟨-86400000, 0⟩, ⟨0, 86400000⟩] ∧
      OncePerDay (midnight.lastRun none [600000]) 4200000 :=
  ⟨by decide, (midnight.tiles_iff (by decide)).mp (by decide) [600000] 4200000 [87000000] rfl⟩

/-- **A day reported twice**: at ten past midnight, and at twenty past eleven in the evening. -/
theorem window_twice :
    [600000, 84000000].Pairwise (· < ·) ∧
      midnight.runs none [600000, 84000000] = [⟨-86400000, 0⟩, ⟨-86400000, 0⟩] ∧
      ¬ midnight.Tiles (midnight.runs none [600000, 84000000]) := by
  decide

end Schedule

end Orbetra.Reports
