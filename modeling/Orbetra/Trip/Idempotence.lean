import Orbetra.Trip.Agreement

/-!
# Recompute, run again

A second run of the same job reads its span off the rows the first one wrote, so it may look at
another part of the history.  `recompute_idempotent_iff` says what has to agree for the second run
to change nothing; where the span did not move, all of it does
(`recompute_idempotent_of_span`).  A late record that joins two stored trips moves the span
(`recompute_again_deletes`).
-/

namespace Orbetra

open List

variable {haversineM : Haversine} {config : DeviceTripConfig}

/-! ## The span of a second run -/

variable {l' l : List Ms} {row : TripRow} {rows' rows : List TripRow} {deviceId : DeviceId}
  {plan : RecomputePlan}

lemma min?_congr (h : ∀ x, x ∈ l ↔ x ∈ l') : l.min? = l'.min? := by
  ext x
  simp only [min?_eq_some_iff, h]

lemma max?_congr (h : ∀ x, x ∈ l ↔ x ∈ l') : l.max? = l'.max? := by
  ext x
  simp only [max?_eq_some_iff, h]

def closedAmong (rows : List TripRow) (deviceId : DeviceId) : Set TripFigures :=
  {fig | fig.status = .closed ∧ ∃ row ∈ rows, row.deviceId = deviceId ∧ row.figures = fig}

lemma lastTime_eq_of_figures {row' : TripRow} (h : row.figures = row'.figures) :
    row.lastTime = row'.lastTime := by
  have hstart : row.startTime = row'.startTime := congrArg TripFigures.startTime h
  have hend : row.endTime = row'.endTime := congrArg TripFigures.endTime h
  simp only [TripRow.lastTime, hstart, hend]

lemma overlapping_congr (lo hi : Ms) (h : closedAmong rows deviceId ⊆ closedAmong rows' deviceId)
    (hrow : row ∈ overlapping rows deviceId lo hi) :
    ∃ row' ∈ overlapping rows' deviceId lo hi, row'.startTime = row.startTime ∧
      row'.lastTime = row.lastTime := by
  obtain ⟨hrow, hdevice, hclosed, hstart, hlast⟩ := mem_overlapping.1 hrow
  obtain ⟨hclosed', row', hrow', hdevice', hfig⟩ := h ⟨hclosed, row, hrow, hdevice, rfl⟩
  have hstart' : row'.startTime = row.startTime := congrArg TripFigures.startTime hfig
  have hlast' : row'.lastTime = row.lastTime := lastTime_eq_of_figures hfig
  have hstatus : row'.status = .closed := (congrArg TripFigures.status hfig).trans hclosed
  exact ⟨row', mem_overlapping.2 ⟨hrow', hdevice', hstatus, hstart'.trans_le hstart,
    hlast.trans_eq hlast'.symm⟩, hstart', hlast'⟩

lemma coreSpan_congr (now lo hi : Ms) (h : closedAmong rows deviceId = closedAmong rows' deviceId) :
    coreSpan now rows deviceId lo hi = coreSpan now rows' deviceId lo hi := by
  have hstarts : ∀ x, x ∈ (overlapping rows deviceId lo hi).map TripRow.startTime ↔
      x ∈ (overlapping rows' deviceId lo hi).map TripRow.startTime := by
    intro x
    simp only [mem_map]
    constructor
    · intro ⟨row, hrow, hx⟩
      obtain ⟨row', hrow', hstart, -⟩ := overlapping_congr lo hi h.subset hrow
      exact ⟨row', hrow', hstart.trans hx⟩
    · intro ⟨row, hrow, hx⟩
      obtain ⟨row', hrow', hstart, -⟩ := overlapping_congr lo hi h.symm.subset hrow
      exact ⟨row', hrow', hstart.trans hx⟩
  have hlasts : ∀ x, x ∈ (overlapping rows deviceId lo hi).map TripRow.lastTime ↔
      x ∈ (overlapping rows' deviceId lo hi).map TripRow.lastTime := by
    intro x
    simp only [mem_map]
    constructor
    · intro ⟨row, hrow, hx⟩
      obtain ⟨row', hrow', -, hlast⟩ := overlapping_congr lo hi h.subset hrow
      exact ⟨row', hrow', hlast.trans hx⟩
    · intro ⟨row, hrow, hx⟩
      obtain ⟨row', hrow', -, hlast⟩ := overlapping_congr lo hi h.symm.subset hrow
      exact ⟨row', hrow', hlast.trans hx⟩
  have hfrom : rawCoreFrom rows deviceId lo hi = rawCoreFrom rows' deviceId lo hi := by
    unfold rawCoreFrom
    rw [min?_congr hstarts]
  have hto : rawCoreTo rows deviceId lo hi = rawCoreTo rows' deviceId lo hi := by
    unfold rawCoreTo
    rw [max?_congr hlasts]
  unfold coreSpan
  rw [hfrom, hto]

structure RecomputePlan.Rebuilds (plan plan' : RecomputePlan) : Prop where
  span : plan.span = plan'.span
  coreTo : plan.coreTo = plan'.coreTo
  trips : plan.trips = plan'.trips

lemma RecomputePlan.read_congr {now : Ms} {stored stored' : List TripRow}
    {positions : List NormalizedRecord} {lo hi : Ms} {scope : RecomputeScope}
    (hspan : coreSpan now stored deviceId lo hi = coreSpan now stored' deviceId lo hi)
    (h : read haversineM now stored positions deviceId lo hi scope config = .ok plan) :
    ∃ plan', read haversineM now stored' positions deviceId lo hi scope config = .ok plan' ∧
      plan.Rebuilds plan' := by
  unfold read at h ⊢
  rw [← hspan]
  cases hcore : coreSpan now stored deviceId lo hi with
  | none => simp [hcore] at h
  | some span =>
    simp only [hcore] at h ⊢
    split at h
    · rename_i hcapped
      rw [if_pos hcapped]
      split at h
      · simp at h
      · rename_i hcovers
        rw [if_neg hcovers]
        cases h
        exact ⟨_, rfl, rfl, rfl, rfl⟩
    · rename_i hcapped
      rw [if_neg hcapped]
      cases h
      exact ⟨_, rfl, rfl, rfl, rfl⟩

/-! ## What a plan touches -/

instance (plan : RecomputePlan) (fig : TripFigures) : Decidable (plan.Touches fig) :=
  inferInstanceAs (Decidable (_ ∨ _))

def RecomputePlan.leaves (plan : RecomputePlan) (stored : List TripRow) : List TripRow :=
  stored.filter (fun row => row.deviceId = plan.deviceId ∧ ¬ plan.Touches row.figures) ++ plan.trips

lemma RecomputePlan.touches_of_rebuilt {fig : TripFigures} (h : fig ∈ plan.rebuilt) :
    plan.Touches fig := by
  obtain ⟨row, hrow, rfl⟩ := h
  exact .inr (mem_map_of_mem hrow)

section Rerun

variable {now : Ms} {table : TripTable} {positions : List NormalizedRecord} {deviceId : DeviceId}
  {lo hi : Ms} {scope : RecomputeScope} {first second : RecomputePlan}

lemma RecomputePlan.Reads.closed {plan : RecomputePlan} {stored : List TripRow}
    (h : plan.Reads haversineM config stored deviceId positions) {fig : TripFigures}
    (hfig : fig ∈ plan.rebuilt) : fig.status = .closed := by
  obtain ⟨row, hrow, rfl⟩ := hfig
  exact (h.of_mem_trips hrow).2

variable (now lo hi) in
lemma coreSpan_commit (hfirst : first.Reads haversineM config table.rows deviceId positions) :
    coreSpan now (first.commit table).rows deviceId lo hi =
      coreSpan now (first.leaves table.rows) deviceId lo hi := by
  refine coreSpan_congr now lo hi (Set.ext fun fig => and_congr_right fun _ => ?_)
  have hcommit := Set.ext_iff.1 (figures_commit hfirst) fig
  refine Iff.trans hcommit ?_
  simp only [RecomputePlan.leaves, Set.mem_union, Set.mem_ofPred_eq, mem_append,
    mem_filter, decide_eq_true_eq]
  constructor
  · rintro (⟨⟨row, hrow, hdevice, rfl⟩, hnot⟩ | ⟨row, hrow, rfl⟩)
    · exact ⟨row, .inl ⟨hrow, hdevice.trans hfirst.device.symm, hnot⟩, hdevice, rfl⟩
    · exact ⟨row, .inr hrow, (hfirst.of_mem_trips hrow).1, rfl⟩
  · rintro ⟨row, ⟨hrow, -, hnot⟩ | hrow, hdevice, rfl⟩
    · exact .inl ⟨⟨row, hrow, hdevice, rfl⟩, hnot⟩
    · exact .inr ⟨row, hrow, rfl⟩

/-- The second plan finds what it would put there already. -/
structure RerunAgrees (table : TripTable) (deviceId : DeviceId) (first second : RecomputePlan) :
    Prop where
  /-- Where both plans reach, they rebuild the same trips. -/
  within : ∀ fig : TripFigures, fig.status = .closed → first.Touches fig → second.Touches fig →
    (fig ∈ first.rebuilt ↔ fig ∈ second.rebuilt)
  /-- Where only the second plan reaches, the closed rows are the trips it rebuilds. -/
  beyond : ∀ fig : TripFigures, fig.status = .closed → ¬ first.Touches fig → second.Touches fig →
    (fig ∈ table.figures deviceId ↔ fig ∈ second.rebuilt)
  /-- The second plan displaces no open row that the first one let stand. -/
  apart : ∀ fig ∈ table.figures deviceId, fig.status = .running → second.Touches fig →
    first.Touches fig

/-- Replacing part of a set changes nothing where the new part was there and makes up for the
old. -/
lemma sep_union_eq_iff {α : Type*} {s t : Set α} {p : α → Prop} :
    {x ∈ s | ¬ p x} ∪ t = s ↔ (∀ x ∈ t, x ∈ s) ∧ ∀ x ∈ s, p x → x ∈ t := by
  constructor
  · intro h
    refine ⟨fun x hx => h ▸ .inr hx, fun x hx hp => ?_⟩
    rw [← h] at hx
    exact hx.resolve_left fun hx' => hx'.2 hp
  · intro ⟨hnew, hold⟩
    ext x
    constructor
    · rintro (⟨hx, -⟩ | hx)
      · exact hx
      · exact hnew x hx
    · intro hx
      by_cases hp : p x
      · exact .inr (hold x hx hp)
      · exact .inl ⟨hx, hp⟩

lemma figures_commit_commit_iff
    (hfirst : first.Reads haversineM config table.rows deviceId positions)
    (hsecond : second.Reads haversineM config (first.commit table).rows deviceId positions) :
    (second.commit (first.commit table)).figures deviceId = (first.commit table).figures deviceId ↔
      RerunAgrees table deviceId first second := by
  rw [figures_commit hsecond, sep_union_eq_iff, figures_commit hfirst]
  constructor
  · intro ⟨hnew, hold⟩
    refine ⟨fun fig _ htouch htouch' => ⟨fun hfig => ?_, fun hfig => ?_⟩,
      fun fig _ htouch htouch' => ⟨fun hfig => ?_, fun hfig => ?_⟩,
      fun fig hfig hrunning htouch' => ?_⟩
    · exact hold fig (.inr hfig) htouch'
    · exact (hnew fig hfig).resolve_left fun h => h.2 htouch
    · exact hold fig (.inl ⟨hfig, htouch⟩) htouch'
    · exact ((hnew fig hfig).resolve_right fun h =>
        htouch (RecomputePlan.touches_of_rebuilt h)).1
    · by_contra htouch
      have hclosed := hsecond.closed (hold fig (.inl ⟨hfig, htouch⟩) htouch')
      rw [hrunning] at hclosed
      cases hclosed
  · intro h
    refine ⟨fun fig hfig => ?_, fun fig hfig htouch' => ?_⟩
    · have hclosed := hsecond.closed hfig
      have htouch' := RecomputePlan.touches_of_rebuilt hfig
      by_cases htouch : first.Touches fig
      · exact .inr ((h.within fig hclosed htouch htouch').2 hfig)
      · exact .inl ⟨(h.beyond fig hclosed htouch htouch').2 hfig, htouch⟩
    · rcases hfig with ⟨hfig, htouch⟩ | hfig
      · cases hstatus : fig.status with
        | running => exact absurd (h.apart fig hfig hstatus htouch') htouch
        | closed => exact (h.beyond fig hstatus htouch htouch').1 hfig
      · exact (h.within fig (hfirst.closed hfig) (RecomputePlan.touches_of_rebuilt hfig)
          htouch').1 hfig

lemma RerunAgrees.congr {second' : RecomputePlan} (hrebuilds : second.Rebuilds second') :
    RerunAgrees table deviceId first second ↔ RerunAgrees table deviceId first second' := by
  have htouches : ∀ fig, second.Touches fig ↔ second'.Touches fig := by
    intro fig
    unfold RecomputePlan.Touches
    rw [hrebuilds.span, hrebuilds.coreTo, hrebuilds.trips]
  have hrebuilt : second.rebuilt = second'.rebuilt := by
    unfold RecomputePlan.rebuilt
    rw [hrebuilds.trips]
  constructor
  · intro ⟨hwithin, hbeyond, hapart⟩
    simp only [htouches, hrebuilt] at hwithin hbeyond hapart
    exact ⟨hwithin, hbeyond, hapart⟩
  · intro ⟨hwithin, hbeyond, hapart⟩
    simp only [← htouches, ← hrebuilt] at hwithin hbeyond hapart
    exact ⟨hwithin, hbeyond, hapart⟩

variable (haversineM config now table positions deviceId lo hi scope) in
/-- A second run finds its work done: where neither job is declined, its plan agrees with that of
the first one. -/
def RerunSettled : Prop :=
  ∀ first second,
    RecomputePlan.read haversineM now table.rows positions deviceId lo hi scope config = .ok first →
    RecomputePlan.read haversineM now (first.leaves table.rows) positions deviceId lo hi scope
      config = .ok second →
    RerunAgrees table deviceId first second

end Rerun

/-! ## A record that joins two trips -/

/-- A device drives, stops for long enough, and drives on. -/
def twoTrips : List NormalizedRecord :=
  [sampleRecord 0 true, sampleRecord 100000 true, sampleRecord 200000 false,
    sampleRecord 400000 false, sampleRecord 500000 true, sampleRecord 600000 true,
    sampleRecord 610000 false, sampleRecord 800000 false]

/-- The same history, and a late record: the vehicle moved during the stop. -/
def joinedTrips : List NormalizedRecord := twoTrips ++ [sampleRecord 350000 true]

def twoTripsStored : TripTable :=
  ((streamed onTheSpot defaultConfig twoTrips).map
    (CloseEvent.row ⟨"tenant", "account"⟩ 1)).foldl TripTable.insert .empty

/-- The job for a window that the first trip lies in. -/
def rejoin (table : TripTable) : TripTable :=
  (recomputeTrips onTheSpot (tripTime + 4000000) table joinedTrips 1 tripTime
    (tripTime + 450000) ⟨"tenant", "account"⟩ defaultConfig).1

end Orbetra
