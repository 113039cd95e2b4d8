import Orbetra.Live.State
import Orbetra.Live.Trail

/-!
# The markers of the fleet map

`LiveStore.ingest` and `seed` of `apps/web/src/lib/liveStore.ts`, over the events that `LiveState`
publishes.  The position of a marker is the event's own, else the one that the session has, else the
one that the server carries. -/

namespace Orbetra.Live

open List Function Option

/-! ## The store -/

inductive DeviceStatus
  | online
  | stale
  | offline
  deriving DecidableEq

def statusOf (ageMs : Ms) : DeviceStatus :=
  if ageMs ≤ 180000 then .online else if ageMs ≤ 600000 then .stale else .offline

structure MarkerFix where
  lon : ℚ
  lat : ℚ
  course : ℤ
  deriving DecidableEq

structure DeviceLive where
  ev : LivePayload
  status : DeviceStatus
  fix : Option MarkerFix
  deriving DecidableEq

/-- What an event changes, and what it asks of the snapshot. -/
structure LiveStore where
  byId : DeviceId → Option DeviceLive
  trailPoints : List TrailPoint
  dirty : Bool
  selectedId : Option DeviceId
  trail : Bool

def placeable (ev : LivePayload) : Bool := ev.fixValid && !(ev.lat = 0 && ev.lon = 0)

/-- The place that the server carries. -/
def carried (ev : LivePayload) : Option MarkerFix := ev.lastFix.map fun f => ⟨f.lon, f.lat, 0⟩

def trailCap : ℕ := 3600

namespace LiveStore

/-- A store that has seen no event. -/
def empty (selectedId : Option DeviceId) (trail : Bool) : LiveStore :=
  ⟨fun _ => none, [], false, selectedId, trail⟩

variable (s : LiveStore)

/-- The point of an event behind the others, of which the oldest may go. -/
def pushTrail (ev : LivePayload) : List TrailPoint :=
  if s.trail && s.selectedId = some ev.deviceId then
    let points := s.trailPoints ++ [⟨ev.lon, ev.lat, placeable ev, ev.fixTimeMs, ev.speed, none⟩]
    if trailCap < points.length then points.tail else points
  else s.trailPoints

/-- The fix that an event leaves. -/
def fixAfter (ev : LivePayload) : Option MarkerFix :=
  if placeable ev then some ⟨ev.lon, ev.lat, ev.course.getD 0⟩
  else ((s.byId ev.deviceId).bind (·.fix)).or (carried ev)

def ingest (now : Ms) (ev : LivePayload) : LiveStore :=
  if (s.byId ev.deviceId).any fun current => ev.fixTimeMs ≤ current.ev.fixTimeMs then s
  else
    { s with
      byId := update s.byId ev.deviceId (some ⟨ev, statusOf (now - ev.fixTimeMs), s.fixAfter ev⟩)
      trailPoints := s.pushTrail ev
      dirty := true }

/-- `seed`, without the flush of the snapshot. -/
def seed (now : Ms) (events : List LivePayload) : LiveStore :=
  events.foldl (fun s ev => s.ingest now ev) s

/-- `[lon, lat]` of the marker. -/
def position (d : DeviceId) : Option (ℚ × ℚ) :=
  ((s.byId d).bind (·.fix)).map fun f => (f.lon, f.lat)

end LiveStore

inductive StoreCall
  | ingest (now : Ms) (ev : LivePayload)
  | seed (now : Ms) (events : List LivePayload)

def StoreCall.ingests : StoreCall → List (Ms × LivePayload)
  | ingest now ev => [(now, ev)]
  | seed now events => events.map fun ev => (now, ev)

def LiveStore.call (s : LiveStore) : StoreCall → LiveStore
  | .ingest now ev => s.ingest now ev
  | .seed now events => s.seed now events

def LiveStore.after (s : LiveStore) (ingests : List (Ms × LivePayload)) : LiveStore :=
  ingests.foldl (fun s i => s.ingest i.1 i.2) s

/-! ## The events of a device -/

/-- `[lon, lat]` of the place that an event carries. -/
def carriedPosition (ev : LivePayload) : Option (ℚ × ℚ) := ev.lastFix.map fun f => (f.lon, f.lat)

def IsPlaceAt (events : Set LivePayload) (t : Ms) : Option LastFix → Prop
  | none => ∀ ev ∈ events, ev.fixTimeMs ≤ t → placeable ev = false
  | some fix => ∃ ev ∈ events, ev.fixTimeMs ≤ t ∧ placeable ev = true ∧
      fix = ⟨ev.lat, ev.lon, ev.fixTimeMs⟩ ∧
      ∀ ev' ∈ events, ev'.fixTimeMs ≤ t → placeable ev' = true → ev'.fixTimeMs ≤ ev.fixTimeMs

/-- The events of a device as `LiveState` publishes them, in increasing times. -/
structure Published (d : DeviceId) (events : Set LivePayload) : Prop where
  device : ∀ ev ∈ events, ev.deviceId = d
  increasing : ∀ ev ∈ events, ∀ ev' ∈ events, ev.fixTimeMs = ev'.fixTimeMs → ev = ev'
  lastFix : ∀ ev ∈ events, IsPlaceAt events ev.fixTimeMs ev.lastFix

def IsNewest (d : DeviceId) (ingests : List (Ms × LivePayload)) (ev : LivePayload) : Prop :=
  (ev.deviceId = d ∧ ∃ now, (now, ev) ∈ ingests) ∧
    ∀ i ∈ ingests, i.2.deviceId = d → i.2.fixTimeMs ≤ ev.fixTimeMs

/-- The marker is where the newest event says that the device was last seen. -/
def ShowsNewest (d : DeviceId) (ingests : List (Ms × LivePayload)) (s : LiveStore) : Prop :=
  ∀ newest, IsNewest d ingests newest → s.position d = carriedPosition newest

/-- An event that becomes the newest and has no place of its own carries the place that the newest
before it carried, if that carried one. -/
def Follows (newest ev : LivePayload) : Prop :=
  newest.fixTimeMs < ev.fixTimeMs → placeable ev = false → newest.lastFix.isSome →
    carriedPosition ev = carriedPosition newest

/-- No fix at another place was missed before an event without one. -/
def NothingMissed (d : DeviceId) (ingests : List (Ms × LivePayload)) : Prop :=
  ∀ before i, before ++ [i] <+: ingests → i.2.deviceId = d →
    ∀ newest, IsNewest d before newest → Follows newest i.2

section Ingest

variable {d : DeviceId} {s : LiveStore} {now : Ms} {ev : LivePayload}

/-! ## One event -/

lemma byId_ingest_of_ne (h : ev.deviceId ≠ d) : (s.ingest now ev).byId d = s.byId d := by
  unfold LiveStore.ingest
  split
  · rfl
  · exact update_of_ne h.symm _ _

lemma ingest_of_le {live : DeviceLive} (hlive : s.byId ev.deviceId = some live)
    (h : ev.fixTimeMs ≤ live.ev.fixTimeMs) : s.ingest now ev = s := by
  rw [LiveStore.ingest, if_pos (by simpa [hlive] using h)]

lemma byId_ingest_of_newer (h : ∀ live, s.byId ev.deviceId = some live →
    live.ev.fixTimeMs < ev.fixTimeMs) :
    (s.ingest now ev).byId ev.deviceId =
      some ⟨ev, statusOf (now - ev.fixTimeMs), s.fixAfter ev⟩ := by
  have hnot : ¬ ((s.byId ev.deviceId).any fun current =>
      decide (ev.fixTimeMs ≤ current.ev.fixTimeMs)) = true := by
    intro hany
    obtain ⟨live, hlive, hle⟩ := (any_eq_true _ _).1 hany
    exact (h live hlive).not_ge (of_decide_eq_true hle)
  rw [LiveStore.ingest, if_neg hnot]
  exact update_self _ _ _

lemma after_append (ingests ingests' : List (Ms × LivePayload)) :
    s.after (ingests ++ ingests') = (s.after ingests).after ingests' :=
  foldl_append

end Ingest

/-! ## The newest event -/

section Newest

variable {d : DeviceId} {events : Set LivePayload} {ingests : List (Ms × LivePayload)}
  {i : Ms × LivePayload} {ev ev' : LivePayload}

lemma IsNewest.unique (h : Published d events)
    (hingests : ∀ i ∈ ingests, i.2.deviceId = d → i.2 ∈ events) (hev : IsNewest d ingests ev)
    (hev' : IsNewest d ingests ev') : ev = ev' := by
  obtain ⟨⟨hdevice, now, hmem⟩, hmax⟩ := hev
  obtain ⟨⟨hdevice', now', hmem'⟩, hmax'⟩ := hev'
  exact h.increasing ev (hingests _ hmem hdevice) ev' (hingests _ hmem' hdevice')
    (le_antisymm (hmax' _ hmem hdevice) (hmax _ hmem' hdevice'))

lemma IsNewest.newer (hev : IsNewest d ingests ev) (hdevice : i.2.deviceId = d)
    (hlt : ev.fixTimeMs < i.2.fixTimeMs) : IsNewest d (ingests ++ [i]) i.2 := by
  refine ⟨⟨hdevice, i.1, mem_append_right _ (mem_singleton_self i)⟩, fun j hj hjd => ?_⟩
  rcases mem_append.1 hj with hj | hj
  · exact (hev.2 j hj hjd).trans hlt.le
  · rw [mem_singleton.1 hj]

lemma IsNewest.older (hev : IsNewest d ingests ev)
    (h : i.2.deviceId = d → i.2.fixTimeMs ≤ ev.fixTimeMs) : IsNewest d (ingests ++ [i]) ev := by
  obtain ⟨⟨hdevice, now, hmem⟩, hmax⟩ := hev
  refine ⟨⟨hdevice, now, mem_append_left _ hmem⟩, fun j hj hjd => ?_⟩
  rcases mem_append.1 hj with hj | hj
  · exact hmax j hj hjd
  · rw [mem_singleton.1 hj] at hjd ⊢
    exact h hjd

def HasNewest (d : DeviceId) (ingests : List (Ms × LivePayload)) (s : LiveStore) : Prop :=
  match s.byId d with
  | none => ∀ i ∈ ingests, i.2.deviceId ≠ d
  | some live => IsNewest d ingests live.ev

lemma HasNewest.ingest {s : LiveStore} (h : HasNewest d ingests s) :
    HasNewest d (ingests ++ [i]) (s.ingest i.1 i.2) := by
  by_cases hdevice : i.2.deviceId = d
  · subst hdevice
    cases hlive : s.byId i.2.deviceId with
    | none =>
      rw [HasNewest, hlive] at h
      rw [HasNewest, byId_ingest_of_newer (by simp [hlive])]
      refine ⟨⟨rfl, i.1, mem_append_right _ (mem_singleton_self i)⟩, fun j hj hjd => ?_⟩
      rcases mem_append.1 hj with hj | hj
      · exact absurd hjd (h j hj)
      · rw [mem_singleton.1 hj]
    | some live =>
      rw [HasNewest, hlive] at h
      rcases le_or_gt i.2.fixTimeMs live.ev.fixTimeMs with hle | hlt
      · rw [HasNewest, ingest_of_le hlive hle, hlive]
        exact h.older fun _ => hle
      · rw [HasNewest, byId_ingest_of_newer fun live' hlive' =>
          some.inj (hlive.symm.trans hlive') ▸ hlt]
        exact h.newer rfl hlt
  · rw [HasNewest, byId_ingest_of_ne hdevice]
    cases hlive : s.byId d with
    | none =>
      rw [HasNewest, hlive] at h
      intro j hj
      rcases mem_append.1 hj with hj | hj
      · exact h j hj
      · rwa [mem_singleton.1 hj]
    | some live =>
      rw [HasNewest, hlive] at h
      exact h.older fun heq => absurd heq hdevice

lemma hasNewest_after (selectedId : Option DeviceId) (trail : Bool) :
    HasNewest d ingests ((LiveStore.empty selectedId trail).after ingests) := by
  induction ingests using reverseRecOn with
  | nil => exact fun i hi => absurd hi not_mem_nil
  | append_singleton ingests i ih =>
    rw [after_append]
    exact ih.ingest

end Newest

/-! ## The marker -/

section Marker

variable {d : DeviceId} {events : Set LivePayload} {s : LiveStore} {now : Ms} {ev : LivePayload}

lemma Published.carriedPosition_eq (h : Published d events) (hev : ev ∈ events)
    (hplaceable : placeable ev = true) : carriedPosition ev = some (ev.lon, ev.lat) := by
  have hplace := h.lastFix ev hev
  cases hfix : ev.lastFix with
  | none =>
    rw [hfix] at hplace
    exact absurd (hplace ev hev le_rfl) (by simp [hplaceable])
  | some fix =>
    rw [hfix] at hplace
    obtain ⟨ev', hev', hle, -, rfl, hmax⟩ := hplace
    obtain rfl := h.increasing ev' hev' ev hev (le_antisymm hle (hmax ev hev le_rfl hplaceable))
    rw [carriedPosition, hfix]
    rfl

/-- The marker behind an event that becomes the newest. -/
lemma position_ingest (h : ∀ live, s.byId ev.deviceId = some live →
    live.ev.fixTimeMs < ev.fixTimeMs) :
    (s.ingest now ev).position ev.deviceId =
      if placeable ev then some (ev.lon, ev.lat)
      else (s.position ev.deviceId).or (carriedPosition ev) := by
  rw [LiveStore.position, byId_ingest_of_newer h, bind_some, LiveStore.fixAfter]
  split
  · rfl
  · rw [LiveStore.position]
    cases (s.byId ev.deviceId).bind (·.fix) with
    | none => simp [carried, carriedPosition, comp_def]
    | some fix => rfl

lemma showsNewest_ingest_iff {ingests : List (Ms × LivePayload)} {i : Ms × LivePayload}
    (h : Published d events)
    (hingests : ∀ j ∈ ingests ++ [i], j.2.deviceId = d → j.2 ∈ events)
    (hs : HasNewest d ingests s) (hshows : ShowsNewest d ingests s) :
    ShowsNewest d (ingests ++ [i]) (s.ingest i.1 i.2) ↔
      (i.2.deviceId = d → ∀ newest, IsNewest d ingests newest → Follows newest i.2) := by
  have hold : ∀ j ∈ ingests, j.2.deviceId = d → j.2 ∈ events := fun j hj =>
    hingests j (mem_append_left _ hj)
  have hunique : ∀ {ev ev' : LivePayload}, IsNewest d (ingests ++ [i]) ev →
      IsNewest d (ingests ++ [i]) ev' → ev = ev' := fun hev hev' => hev.unique h hingests hev'
  by_cases hdevice : i.2.deviceId = d
  case neg =>
    refine ⟨fun _ heq => absurd heq hdevice, fun _ newest hnewest => ?_⟩
    rw [LiveStore.position, byId_ingest_of_ne hdevice]
    refine hshows newest ⟨?_, fun j hj => hnewest.2 j (mem_append_left _ hj)⟩
    obtain ⟨⟨hd, now, hmem⟩, -⟩ := hnewest
    rcases mem_append.1 hmem with hmem | hmem
    · exact ⟨hd, now, hmem⟩
    · rw [← mem_singleton.1 hmem] at hdevice
      exact absurd hd hdevice
  case pos =>
    have hmine : i.2 ∈ events := hingests i (mem_append_right _ (mem_singleton_self i)) hdevice
    subst hdevice
    cases hlive : s.byId i.2.deviceId with
    | none =>
      rw [HasNewest, hlive] at hs
      have hnewest : IsNewest i.2.deviceId (ingests ++ [i]) i.2 := by
        have hnow := HasNewest.ingest (i := i) (d := i.2.deviceId) (s := s)
          (by rw [HasNewest, hlive]; exact hs)
        rwa [HasNewest, byId_ingest_of_newer (by simp [hlive])] at hnow
      refine ⟨fun _ _ newest hold' => ?_, fun _ newest hnew => ?_⟩
      · obtain ⟨⟨hd, now, hmem⟩, -⟩ := hold'
        exact absurd hd (hs _ hmem)
      · rw [hunique hnew hnewest, position_ingest (by simp [hlive]), LiveStore.position, hlive]
        split
        · next hplaceable => exact (h.carriedPosition_eq hmine hplaceable).symm
        · rfl
    | some live =>
      rw [HasNewest, hlive] at hs
      have hposition := hshows live.ev hs
      rcases le_or_gt i.2.fixTimeMs live.ev.fixTimeMs with hle | hlt
      · rw [ingest_of_le hlive hle]
        refine ⟨fun _ _ newest hnewest hlt => ?_, fun _ newest hnewest => ?_⟩
        · rw [hnewest.unique h hold hs] at hlt
          exact absurd hle hlt.not_ge
        · rw [hunique hnewest (hs.older fun _ => hle)]
          exact hposition
      · have hnewer : ∀ live', s.byId i.2.deviceId = some live' →
            live'.ev.fixTimeMs < i.2.fixTimeMs := fun live' hlive' =>
          some.inj (hlive.symm.trans hlive') ▸ hlt
        have hnew := hs.newer rfl hlt
        have hiff : ShowsNewest i.2.deviceId (ingests ++ [i]) (s.ingest i.1 i.2) ↔
            (s.ingest i.1 i.2).position i.2.deviceId = carriedPosition i.2 :=
          ⟨fun hall => hall _ hnew, fun heq newest hnewest => hunique hnewest hnew ▸ heq⟩
        rw [hiff, position_ingest hnewer, hposition]
        constructor
        · intro heq _ newest hnewest _ hplaceable hcarries
          obtain ⟨fix, hfix⟩ := isSome_iff_exists.1 hcarries
          obtain rfl := hnewest.unique h hold hs
          rw [if_neg (by simp [hplaceable]), carriedPosition, hfix] at heq
          rw [carriedPosition, carriedPosition, hfix, ← carriedPosition, ← heq]
          rfl
        · intro hfollows
          split
          · next hplaceable => exact (h.carriedPosition_eq hmine hplaceable).symm
          · next hplaceable =>
            cases hfix : live.ev.lastFix with
            | none => rw [carriedPosition, hfix, map_none, none_or]
            | some fix =>
              have heq := hfollows rfl live.ev hs hlt (Bool.not_eq_true _ ▸ hplaceable)
                (by rw [hfix]; rfl)
              rw [heq, carriedPosition, hfix]
              rfl

end Marker

/-- Over every moment of every sequence of calls, the marker is where the newest event says that the
device was last seen, exactly where no fix at another place was missed before an event without one.
-/
theorem shown_newest_iff {d : DeviceId} {events : Set LivePayload} (h : Published d events)
    (calls : List StoreCall)
    (hcalls : ∀ i ∈ calls.flatMap StoreCall.ingests, i.2.deviceId = d → i.2 ∈ events)
    (selectedId : Option DeviceId) (trail : Bool) :
    (∀ before, before <+: calls.flatMap StoreCall.ingests →
      ShowsNewest d before ((LiveStore.empty selectedId trail).after before)) ↔
    NothingMissed d (calls.flatMap StoreCall.ingests) := by
  generalize calls.flatMap StoreCall.ingests = ingests at hcalls
  have hstep : ∀ before i, before ++ [i] <+: ingests →
      ShowsNewest d before ((LiveStore.empty selectedId trail).after before) →
      (ShowsNewest d (before ++ [i]) ((LiveStore.empty selectedId trail).after (before ++ [i])) ↔
        (i.2.deviceId = d → ∀ newest, IsNewest d before newest → Follows newest i.2)) := by
    intro before i hbefore hshows
    rw [after_append]
    exact showsNewest_ingest_iff h (fun j hj => hcalls j (hbefore.subset hj))
      (hasNewest_after selectedId trail) hshows
  constructor
  · intro hall before i hbefore
    exact (hstep before i hbefore (hall before ((prefix_append _ _).trans hbefore))).1
      (hall _ hbefore)
  · intro hmissed before hbefore
    induction before using reverseRecOn with
    | nil =>
      rintro newest ⟨⟨-, now, hmem⟩, -⟩
      exact absurd hmem not_mem_nil
    | append_singleton before i ih =>
      exact (hstep before i hbefore (ih ((prefix_append _ _).trans hbefore))).2
        (hmissed before i hbefore)

def reportAt (t : Ms) (lat lon : ℚ) (fixValid : Bool) (lastFix : LastFix) : LivePayload where
  deviceId := 1
  accountId := none
  fixTimeMs := t
  lat := lat
  lon := lon
  speed := none
  course := none
  satellites := 0
  fixValid := fixValid
  ignition := none
  priority := 0
  lastFix := some lastFix

/-- A fix in one place, a fix in another, and a report without one. -/
def parked : LivePayload := reportAt 1000 54 25 true ⟨54, 25, 1000⟩
def moved : LivePayload := reportAt 2000 55 25 true ⟨55, 25, 2000⟩
def asleep : LivePayload := reportAt 3000 0 0 false ⟨55, 25, 2000⟩

lemma published_asleep : Published 1 {parked, moved, asleep} where
  device := by
    rintro ev (rfl | rfl | rfl) <;> rfl
  increasing := by
    rintro ev (rfl | rfl | rfl) ev' (rfl | rfl | rfl) h <;>
      first
        | rfl
        | exact absurd h (by decide)
  lastFix := by
    rintro ev (rfl | rfl | rfl)
    · refine ⟨parked, .inl rfl, le_rfl, by decide, rfl, ?_⟩
      rintro ev' (rfl | rfl | rfl) hle _ <;> exact hle
    · refine ⟨moved, .inr (.inl rfl), le_rfl, by decide, rfl, ?_⟩
      rintro ev' (rfl | rfl | rfl) hle _ <;> exact hle
    · refine ⟨moved, .inr (.inl rfl), by decide, by decide, rfl, ?_⟩
      rintro ev' (rfl | rfl | rfl) _ hplaceable
      · decide
      · exact le_rfl
      · exact absurd hplaceable (by decide)

/-- An unbroken stream, with an old event once more. -/
theorem marker_newest_unbroken :
    ShowsNewest 1 [(0, moved), (3500, asleep), (3600, moved)]
      ((LiveStore.empty none false).after [(0, moved), (3500, asleep), (3600, moved)]) := by
  have hmem : ∀ i ∈ [((0 : Ms), moved), (3500, asleep), (3600, moved)], i.2 = moved ∨ i.2 = asleep := by
    decide
  refine (shown_newest_iff published_asleep
    [.seed 0 [moved], .ingest 3500 asleep, .ingest 3600 moved] (fun i hi _ => ?_) none false).2
    ?_ _ prefix_rfl
  · exact .inr (hmem i hi)
  · rintro before i hbefore - newest ⟨⟨-, now, hnewest⟩, -⟩
    have hi := hmem i (hbefore.subset (mem_append_right _ (mem_singleton_self i)))
    have hold := hmem _ (hbefore.subset (mem_append_left _ hnewest))
    rcases hi with hi | hi <;> rcases hold with rfl | rfl <;> rw [hi] <;> intro hlt hplaceable _
    · exact absurd hlt (by decide)
    · exact absurd hlt (by decide)
    · decide
    · exact absurd hlt (by decide)

/-- A snapshot after a gap: the marker stays where the session saw the vehicle last. -/
theorem marker_stays_behind : ¬ ∀ (d : DeviceId) (events : Set LivePayload), Published d events →
    ∀ calls : List StoreCall,
      (∀ i ∈ calls.flatMap StoreCall.ingests, i.2.deviceId = d → i.2 ∈ events) →
      ∀ before, before <+: calls.flatMap StoreCall.ingests →
        ShowsNewest d before ((LiveStore.empty none false).after before) := by
  intro h
  have hmem : ∀ i ∈ [((1500 : Ms), parked), (3500, asleep)], i.2 = parked ∨ i.2 = asleep := by decide
  have hnewest : IsNewest 1 [(1500, parked), (3500, asleep)] asleep := by
    refine ⟨⟨rfl, 3500, by decide⟩, fun i hi _ => ?_⟩
    rcases hmem i hi with h | h
    · rw [h]
      decide
    · rw [h]
  have hshows := h 1 _ published_asleep [.ingest 1500 parked, .seed 3500 [asleep]]
    (fun i hi _ => (hmem i hi).elim .inl fun heq => .inr (.inr heq)) _ (prefix_refl _) asleep
    hnewest
  exact absurd hshows (by decide +kernel)

end Orbetra.Live
