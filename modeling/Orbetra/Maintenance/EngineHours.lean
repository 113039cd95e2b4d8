import Orbetra.Framework.Machine
import Orbetra.Records

/-!
# Engine hours and servicing

`POST /v1/maintenance/:id/serviced` and `toMaintView` of `apps/api/src/routes/crud.ts` over
`drivenSecondsSince` of `packages/db/src/repos/trips.ts`, for one item and the trips of its device.
The hours are a baseline and the closed trips that started since the last service; a service reads
them into the new baseline and moves the instant.

Instants and durations are in milliseconds. -/

namespace Orbetra.Maintenance

open List Machine Option

/-! ## Trips -/

/-- A trip: open until it has an end. -/
structure TripRow where
  startTime : Ms
  endTime : Option Ms
  ordered : ∀ t ∈ endTime, startTime ≤ t

namespace TripRow

def closedAt (trip : TripRow) (endTime : Ms) (h : trip.startTime ≤ endTime) : TripRow :=
  ⟨trip.startTime, some endTime, by rintro t ⟨⟩; exact h⟩

def drivenMs (since : Ms) (trip : TripRow) : ℤ :=
  match trip.endTime with
  | some endTime => if since ≤ trip.startTime then endTime - trip.startTime else 0
  | none => 0

lemma drivenMs_nonneg (since : Ms) (trip : TripRow) : 0 ≤ trip.drivenMs since := by
  unfold drivenMs
  split
  · next endTime h =>
    split
    · exact sub_nonneg.2 (trip.ordered endTime h)
    · exact le_rfl
  · exact le_rfl

end TripRow

def drivenMsSince (trips : List TripRow) (since : Ms) : ℤ :=
  (trips.map (TripRow.drivenMs since)).sum

/-- `Math.floor(driven / 3600)` -/
def hoursOf (drivenMs : ℤ) : ℤ := drivenMs / 3600000

/-! ## The item -/

structure MaintenanceItem where
  intervalKm : Option ℤ
  intervalEngineH : Option ℤ
  lastServiceOdoKm : Option ℤ
  lastServiceAt : Option Ms
  lastServiceEngineH : Option ℤ

/-- The body of the request: a field may be absent, and an odometer or engine hours `null`. -/
structure MarkServiced where
  moment : Option Ms
  odoKm : Option (Option ℤ)
  engineH : Option (Option ℤ)

namespace MaintenanceItem

variable (item : MaintenanceItem) (trips : List TripRow)

def currentEngineH : Option ℤ :=
  match item.intervalEngineH, item.lastServiceEngineH, item.lastServiceAt with
  | some _, some baseline, some since => some (baseline + hoursOf (drivenMsSince trips since))
  | _, _, _ => none

/-- The odometer that a service writes; `Math.round` rounds a half up. -/
def odoBaseline (curKm : Option ℚ) (data : MarkServiced) : Option ℤ :=
  match data.odoKm, item.intervalKm, curKm with
  | some odoKm, _, _ => odoKm
  | none, some _, some km => some ⌊km + 1 / 2⌋
  | none, _, _ => item.lastServiceOdoKm

/-- The engine hours that a service writes. -/
def ehBaseline (data : MarkServiced) : Option ℤ :=
  match data.engineH with
  | some engineH => engineH
  | none =>
    match item.intervalEngineH, item.lastServiceEngineH, item.lastServiceAt with
    | some _, some baseline, some since => some (baseline + hoursOf (drivenMsSince trips since))
    | _, _, _ => item.lastServiceEngineH

/-- `POST /v1/maintenance/:id/serviced` with `markServiced`, at a time of the server. -/
def serviced (now : Ms) (curKm : Option ℚ) (data : MarkServiced) : MaintenanceItem :=
  { item with
    lastServiceAt := some (data.moment.getD now)
    lastServiceOdoKm := item.odoBaseline curKm data
    lastServiceEngineH := item.ehBaseline trips data }

end MaintenanceItem

/-! ## Runs -/

structure ServiceState where
  now : Ms
  trips : List TripRow
  item : MaintenanceItem

/-- What happens to a device: a trip is open from its start, and closed later. -/
inductive ServiceMove
  | wait (ms : ℕ)
  | start
  | close (i : ℕ) (endTime : Ms)
  /-- A service with `engineH` omitted, with the odometer that the device has then. -/
  | serviced (moment : Option Ms) (odoKm : Option (Option ℤ)) (curKm : Option ℚ)

namespace ServiceState

/-- `currentEngineH` of the item. -/
def hours (s : ServiceState) : Option ℤ := s.item.currentEngineH s.trips

/-- One move; `none` is a move that cannot come. -/
def step (s : ServiceState) : ServiceMove → Option ServiceState
  | .wait ms => some { s with now := s.now + ms }
  | .start => some { s with trips := ⟨s.now, none, nofun⟩ :: s.trips }
  | .close i endTime =>
    match s.trips[i]? with
    | none => none
    | some trip =>
      if h : trip.endTime = none ∧ trip.startTime ≤ endTime then
        some { s with trips := s.trips.set i (trip.closedAt endTime h.2) }
      else none
  | .serviced moment odoKm curKm =>
    -- an instant later than the call is not asked about
    if moment.getD s.now ≤ s.now then
      some { s with item := s.item.serviced s.trips s.now curKm ⟨moment, odoKm, none⟩ }
    else none

end ServiceState

def services (moves : List ServiceMove) : ℕ :=
  moves.countP fun move => match move with
    | .serviced _ _ _ => true
    | _ => false

/-! ## The sum over the trips -/

section Driven

variable {trips : List TripRow} {trip : TripRow} {i : ℕ} {since : Ms}

lemma drivenMsSince_nonneg : 0 ≤ drivenMsSince trips since :=
  sum_nonneg fun x hx => by
    obtain ⟨trip, -, rfl⟩ := mem_map.1 hx
    exact trip.drivenMs_nonneg since

lemma drivenMsSince_close {endTime : Ms} (hi : trips[i]? = some trip) (hopen : trip.endTime = none)
    (h : trip.startTime ≤ endTime) :
    drivenMsSince (trips.set i (trip.closedAt endTime h)) since =
      drivenMsSince trips since +
        if since ≤ trip.startTime then endTime - trip.startTime else 0 := by
  unfold drivenMsSince
  induction trips generalizing i with
  | nil => exact absurd hi (by simp)
  | cons first trips ih =>
    cases i with
    | zero =>
      obtain rfl : first = trip := by simpa using hi
      have hnone : first.drivenMs since = 0 := by rw [TripRow.drivenMs, hopen]
      rw [set_cons_zero, map_cons, map_cons, sum_cons, sum_cons, hnone, zero_add, add_comm]
      rfl
    | succ i =>
      rw [set_cons_succ, map_cons, map_cons, sum_cons, sum_cons, ih (by simpa using hi), add_assoc]

lemma drivenMsSince_start (now : Ms) :
    drivenMsSince (⟨now, none, nofun⟩ :: trips) since = drivenMsSince trips since := by
  rw [drivenMsSince, map_cons, sum_cons]
  exact zero_add _

lemma hoursOf_mono {a b : ℤ} (h : a ≤ b) : hoursOf a ≤ hoursOf b := Int.ediv_le_ediv (by decide) h

lemma hoursOf_nonneg {a : ℤ} (h : 0 ≤ a) : 0 ≤ hoursOf a := Int.ediv_nonneg h (by decide)

lemma hoursOf_near (a : ℤ) : 3600000 * hoursOf a ≤ a ∧ a < 3600000 * hoursOf a + 3600000 := by
  unfold hoursOf
  omega

end Driven

/-! ## One move -/

section Move

variable {s s' : ServiceState} {move : ServiceMove}

structure Reads (s : ServiceState) (since : Ms) (baseline : ℤ) : Prop where
  interval : s.item.intervalEngineH.isSome
  since : s.item.lastServiceAt = some since
  baseline : s.item.lastServiceEngineH = some baseline

variable {since : Ms} {baseline : ℤ}

lemma Reads.hours (h : Reads s since baseline) :
    s.hours = some (baseline + hoursOf (drivenMsSince s.trips since)) := by
  obtain ⟨interval, hinterval⟩ := isSome_iff_exists.1 h.interval
  rw [ServiceState.hours, MaintenanceItem.currentEngineH, hinterval, h.since, h.baseline]

lemma Reads.serviced (h : Reads s since baseline) {moment : Option Ms} {odoKm : Option (Option ℤ)}
    {curKm : Option ℚ} (hstep : s.step (.serviced moment odoKm curKm) = some s') :
    moment.getD s.now ≤ s.now ∧ s'.now = s.now ∧ s'.trips = s.trips ∧
      Reads s' (moment.getD s.now) (baseline + hoursOf (drivenMsSince s.trips since)) := by
  obtain ⟨interval, hinterval⟩ := isSome_iff_exists.1 h.interval
  simp only [ServiceState.step] at hstep
  split at hstep
  case isFalse => exact absurd hstep (by simp)
  case isTrue hle =>
    cases hstep
    refine ⟨hle, rfl, rfl, h.interval, rfl, ?_⟩
    show s.item.ehBaseline s.trips ⟨moment, odoKm, none⟩ = _
    rw [MaintenanceItem.ehBaseline, hinterval, h.since, h.baseline]

lemma Reads.kept (h : Reads s since baseline) (hitem : s'.item = s.item) :
    Reads s' since baseline :=
  ⟨hitem ▸ h.interval, hitem ▸ h.since, hitem ▸ h.baseline⟩

/-- A move is a service, or leaves the item as it is; of the trips it may start one, or close one
that is open. -/
lemma step_cases (hstep : s.step move = some s') :
    (∃ moment odoKm curKm, move = .serviced moment odoKm curKm) ∨
    (services [move] = 0 ∧ s'.item = s.item ∧ s.now ≤ s'.now ∧
      (s'.trips = s.trips ∨ s'.trips = ⟨s.now, none, nofun⟩ :: s.trips ∨
        ∃ i trip endTime, ∃ h : trip.startTime ≤ endTime, s.trips[i]? = some trip ∧
          trip.endTime = none ∧ s'.trips = s.trips.set i (trip.closedAt endTime h))) := by
  cases move with
  | wait ms =>
    cases hstep
    exact .inr ⟨rfl, rfl, le_add_of_nonneg_right (Int.natCast_nonneg ms), .inl rfl⟩
  | start =>
    cases hstep
    exact .inr ⟨rfl, rfl, le_rfl, .inr (.inl rfl)⟩
  | close i endTime =>
    simp only [ServiceState.step] at hstep
    cases htrip : s.trips[i]? with
    | none => simp [htrip] at hstep
    | some trip =>
      simp only [htrip] at hstep
      split at hstep
      case isFalse => exact absurd hstep (by simp)
      case isTrue h =>
        cases hstep
        exact .inr ⟨rfl, rfl, le_rfl, .inr (.inr ⟨i, trip, endTime, h.2, htrip, h.1, rfl⟩)⟩
  | serviced moment odoKm curKm => exact .inl ⟨moment, odoKm, curKm, rfl⟩

lemma drivenMsSince_step (hstep : s.step move = some s') (since : Ms) :
    drivenMsSince s.trips since ≤ drivenMsSince s'.trips since := by
  rcases step_cases hstep with ⟨moment, odoKm, curKm, rfl⟩ | ⟨-, -, -, htrips | htrips | ⟨i, trip,
    endTime, h, hi, hopen, htrips⟩⟩
  · simp only [ServiceState.step] at hstep
    split at hstep
    · exact (some.inj hstep) ▸ le_rfl
    · exact absurd hstep (by simp)
  · rw [htrips]
  · rw [htrips, drivenMsSince_start]
  · rw [htrips, drivenMsSince_close hi hopen h]
    refine le_add_of_nonneg_right ?_
    split
    · exact sub_nonneg.2 h
    · exact le_rfl

lemma Reads.step (h : Reads s since baseline) (hstep : s.step move = some s') :
    ∃ since' baseline', Reads s' since' baseline' ∧
      baseline + hoursOf (drivenMsSince s.trips since) ≤
        baseline' + hoursOf (drivenMsSince s'.trips since') := by
  rcases step_cases hstep with ⟨moment, odoKm, curKm, rfl⟩ | ⟨-, hitem, -⟩
  · obtain ⟨-, -, -, hreads⟩ := h.serviced hstep
    exact ⟨_, _, hreads, le_add_of_nonneg_right (hoursOf_nonneg drivenMsSince_nonneg)⟩
  · exact ⟨_, _, h.kept hitem, add_le_add le_rfl (hoursOf_mono (drivenMsSince_step hstep since))⟩

end Move

/-! ## Runs -/

/-- What a mechanic may expect of the hours, from a baseline at an instant on. -/
structure Survives (initial : ServiceState) (since : Ms) (baseline : ℤ) (moves : List ServiceMove) :
    Prop where
  /-- A service leaves the hours as they are. -/
  serviced : ∀ before moment odoKm curKm s s',
    before ++ [.serviced moment odoKm curKm] <+: moves →
      run ServiceState.step initial before = some s →
        s.step (.serviced moment odoKm curKm) = some s' → s'.hours = s.hours
  /-- They do not decrease. -/
  grows : ∀ before move s s', before ++ [move] <+: moves →
    run ServiceState.step initial before = some s → s.step move = some s' →
      ∃ h h', s.hours = some h ∧ s'.hours = some h' ∧ h ≤ h'
  /-- They are near the trips that started since the first instant: an hour for each service, and
  one more. -/
  near : ∀ before s, before <+: moves → run ServiceState.step initial before = some s →
    ∃ h, s.hours = some h ∧
      |3600000 * (h - baseline) - drivenMsSince s.trips since| ≤ 3600000 * (services before + 1)

/-- A service at an instant with less than an hour of closed trips since, and no open trip between
this instant and the one of the last service, which has been. -/
def Straight (s : ServiceState) : ServiceMove → Prop
  | .serviced moment _ _ =>
    drivenMsSince s.trips (moment.getD s.now) < 3600000 ∧
      ∀ since ∈ s.item.lastServiceAt, since ≤ s.now ∧
        ∀ trip ∈ s.trips, trip.endTime = none →
          (since ≤ trip.startTime ↔ moment.getD s.now ≤ trip.startTime)
  | _ => True

section Run

variable {since₀ : Ms} {baseline₀ : ℤ}

structure Accounts (since₀ : Ms) (baseline₀ : ℤ) (calls : ℕ) (s : ServiceState) (since : Ms)
    (baseline : ℤ) : Prop where
  reads : Reads s since baseline
  /-- A trip that is open, or starts later, counts since both instants or since none. -/
  sides : ∀ trip ∈ s.trips, trip.endTime = none → (since₀ ≤ trip.startTime ↔ since ≤ trip.startTime)
  ahead : since₀ = since ∨ (since₀ ≤ s.now ∧ since ≤ s.now)
  /-- Each service has lost or counted twice less than an hour. -/
  near : |drivenMsSince s.trips since₀ - drivenMsSince s.trips since -
    3600000 * (baseline - baseline₀)| ≤ 3600000 * calls

variable {calls : ℕ} {s s' : ServiceState} {since : Ms} {baseline : ℤ} {move : ServiceMove}

lemma Accounts.serviced (h : Accounts since₀ baseline₀ calls s since baseline) {moment : Option Ms}
    {odoKm : Option (Option ℤ)} {curKm : Option ℚ} (hfits : Straight s (.serviced moment odoKm curKm))
    (hstep : s.step (.serviced moment odoKm curKm) = some s') :
    Accounts since₀ baseline₀ (calls + 1) s' (moment.getD s.now)
      (baseline + hoursOf (drivenMsSince s.trips since)) := by
  obtain ⟨hle, hnow, htrips, hreads⟩ := h.reads.serviced hstep
  obtain ⟨hshort, hsides⟩ := hfits
  obtain ⟨hpast, hsides⟩ := hsides since h.reads.since
  refine ⟨hreads, fun trip htrip hopen => ?_, .inr ?_, ?_⟩
  · rw [htrips] at htrip
    exact (h.sides trip htrip hopen).trans (hsides trip htrip hopen)
  · rw [hnow]
    exact ⟨h.ahead.elim (fun heq => heq ▸ hpast) And.left, hle⟩
  · have hnear := abs_le.1 h.near
    have hrest := hoursOf_near (drivenMsSince s.trips since)
    have hnonneg : 0 ≤ drivenMsSince s.trips (moment.getD s.now) := drivenMsSince_nonneg
    rw [htrips, abs_le]
    push_cast
    constructor <;> linarith [hnear.1, hnear.2, hrest.1, hrest.2]

/-- Another move. -/
lemma Accounts.kept (h : Accounts since₀ baseline₀ calls s since baseline)
    (hitem : s'.item = s.item) (hnow : s.now ≤ s'.now)
    (htrips : s'.trips = s.trips ∨ s'.trips = ⟨s.now, none, nofun⟩ :: s.trips ∨
      ∃ i trip endTime, ∃ h : trip.startTime ≤ endTime, s.trips[i]? = some trip ∧
        trip.endTime = none ∧ s'.trips = s.trips.set i (trip.closedAt endTime h)) :
    Accounts since₀ baseline₀ calls s' since baseline := by
  have hahead : since₀ = since ∨ (since₀ ≤ s'.now ∧ since ≤ s'.now) :=
    h.ahead.imp_right fun hle => ⟨hle.1.trans hnow, hle.2.trans hnow⟩
  rcases htrips with htrips | htrips | ⟨i, trip, endTime, hle, hi, hopen, htrips⟩
  · exact ⟨h.reads.kept hitem, htrips ▸ h.sides, hahead, htrips ▸ h.near⟩
  · refine ⟨h.reads.kept hitem, fun trip htrip hopen => ?_, hahead, ?_⟩
    · rw [htrips] at htrip
      rcases mem_cons.1 htrip with rfl | htrip
      · rcases h.ahead with heq | hle
        · rw [heq]
        · exact iff_of_true hle.1 hle.2
      · exact h.sides trip htrip hopen
    · rw [htrips, drivenMsSince_start, drivenMsSince_start]
      exact h.near
  · refine ⟨h.reads.kept hitem, fun trip' htrip' hopen' => ?_, hahead, ?_⟩
    · rw [htrips] at htrip'
      rcases mem_or_eq_of_mem_set htrip' with htrip' | rfl
      · exact h.sides trip' htrip' hopen'
      · exact absurd hopen' (by simp [TripRow.closedAt])
    · rw [htrips, drivenMsSince_close hi hopen hle, drivenMsSince_close hi hopen hle]
      have hside := h.sides trip (mem_of_getElem? hi) hopen
      have hnear := h.near
      by_cases hcounts : since ≤ trip.startTime
      · rw [if_pos hcounts, if_pos (hside.2 hcounts), add_sub_add_right_eq_sub]
        exact hnear
      · rw [if_neg hcounts, if_neg fun hle => hcounts (hside.1 hle), add_zero, add_zero]
        exact hnear

lemma services_append (before : List ServiceMove) (move : ServiceMove) :
    services (before ++ [move]) = services before + services [move] :=
  countP_append

lemma accounts_run {initial : ServiceState} (h : Reads initial since₀ baseline₀)
    {moves : List ServiceMove} (hfits : RunFits ServiceState.step Straight initial moves)
    (hrun : run ServiceState.step initial moves = some s) :
    ∃ since baseline, Accounts since₀ baseline₀ (services moves) s since baseline := by
  induction moves using reverseRecOn generalizing s with
  | nil =>
    cases hrun
    exact ⟨since₀, baseline₀, h, fun _ _ _ => Iff.rfl, .inl rfl, by simp [services]⟩
  | append_singleton before move ih =>
    rw [run_append] at hrun
    obtain ⟨now, hnow, hlast⟩ := bind_eq_some_iff.1 hrun
    obtain ⟨next, hstep, hnext⟩ := run_cons_eq_some.1 hlast
    cases hnext
    obtain ⟨hbefore, hafter⟩ := hfits.append
    obtain ⟨since, baseline, haccounts⟩ := ih hbefore hnow
    rw [services_append]
    rcases step_cases hstep with ⟨moment, odoKm, curKm, rfl⟩ | ⟨hnone, hitem, hle, htrips⟩
    · exact ⟨_, _, haccounts.serviced (hafter now hnow).1 hstep⟩
    · rw [hnone]
      exact ⟨since, baseline, haccounts.kept hitem hle htrips⟩

end Run

/-- In every run in which each service is straight, the hours survive it. -/
theorem hours_survive (initial : ServiceState) (since : Ms) (baseline : ℤ)
    (h : Reads initial since baseline) (moves : List ServiceMove)
    (hfits : RunFits ServiceState.step Straight initial moves) :
    Survives initial since baseline moves where
  serviced before moment odoKm curKm s s' hbefore hrun hstep := by
    obtain ⟨later, rfl⟩ := hbefore
    obtain ⟨hfits, hlater⟩ := hfits.append.1.append
    obtain ⟨since', baseline', haccounts⟩ := accounts_run h hfits hrun
    obtain ⟨-, -, htrips, hreads⟩ := haccounts.reads.serviced hstep
    obtain ⟨hshort, -⟩ := (hlater s hrun).1
    have hnone : hoursOf (drivenMsSince s'.trips (moment.getD s.now)) = 0 :=
      Int.ediv_eq_zero_of_lt drivenMsSince_nonneg (htrips ▸ hshort)
    rw [hreads.hours, haccounts.reads.hours, hnone, add_zero]
  grows before move s s' hbefore hrun hstep := by
    obtain ⟨later, rfl⟩ := hbefore
    obtain ⟨since', baseline', haccounts⟩ := accounts_run h hfits.append.1.append.1 hrun
    obtain ⟨_, _, hreads, hle⟩ := haccounts.reads.step hstep
    exact ⟨_, _, haccounts.reads.hours, hreads.hours, hle⟩
  near before s hbefore hrun := by
    obtain ⟨later, rfl⟩ := hbefore
    obtain ⟨since', baseline', haccounts⟩ := accounts_run h hfits.append.1 hrun
    refine ⟨_, haccounts.reads.hours, ?_⟩
    have hnear := abs_le.1 haccounts.near
    have hrest := hoursOf_near (drivenMsSince s.trips since')
    rw [abs_le]
    constructor <;> linarith [hnear.1, hnear.2, hrest.1, hrest.2]

instance (s : ServiceState) (move : ServiceMove) : Decidable (Straight s move) :=
  match move with
  | .serviced _ _ _ => inferInstanceAs (Decidable (_ ∧ _))
  | .wait _ | .start | .close _ _ => .isTrue trivial

def oilChange : ServiceState where
  now := 0
  trips := []
  item := ⟨none, some 250, none, some 0, some 1000⟩

lemma reads_oilChange : Reads oilChange 0 1000 := ⟨rfl, rfl, rfl⟩

/-- A trip of two hours, and a service after it. -/
def servicedParked : List ServiceMove :=
  [.start, .wait 7200000, .close 0 7200000, .wait 60000, .serviced none none none]

theorem hours_survive_parked : Survives oilChange 0 1000 servicedParked :=
  hours_survive oilChange 0 1000 reads_oilChange servicedParked (by decide +kernel)

/-- A trip of two hours. -/
def drive : List ServiceMove := [.start, .wait 7200000, .close 0 7200000]

/-- A service that is entered with a time before the trip: the trip counts twice. -/
theorem hours_counted_twice : ¬ ∀ (initial : ServiceState) (since : Ms) (baseline : ℤ),
    Reads initial since baseline → ∀ moves, Survives initial since baseline moves := by
  intro h
  have hbefore : (run ServiceState.step oilChange drive).map (·.hours) =
      some (some 1002) := by decide +kernel
  have hafter : ((run ServiceState.step oilChange drive).bind
      (·.step (.serviced (some 0) none none))).map (·.hours) = some (some 1004) := by
    decide +kernel
  obtain ⟨s, hrun, hhours⟩ := map_eq_some_iff.1 hbefore
  rw [hrun, bind_some] at hafter
  obtain ⟨s', hstep, hhours'⟩ := map_eq_some_iff.1 hafter
  have hsame := (h oilChange 0 1000 reads_oilChange (drive ++ [.serviced (some 0) none none])).serviced
    drive (some 0) none none s s' (prefix_refl _) hrun hstep
  rw [hhours, hhours'] at hsame
  exact absurd hsame (by decide)

end Orbetra.Maintenance
