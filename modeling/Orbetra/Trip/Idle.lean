import Orbetra.Trip.Stream

/-!
# Idle time within the trip

A trip counts the stretches of idling that have lasted long enough.  A stretch is ended by a valid
fix, at its own time, or by the end of the trip; and the trip ends where its stop began, which an
invalid fix may have seen.  So a valid fix that comes while the stop is being timed may count idling
beyond the end of the trip (`idle_exceeds`); where none does, the stretches lie within the trip, one
after another (`idle_within`). -/

namespace Orbetra

open List

variable (haversineM : Haversine)

/-! ## Stretches -/

/-- Times from the first to the second. -/
abbrev Stretch := Ms × Ms

def Stretch.seconds (x : Stretch) : ℤ := mathRound (secs x.2 x.1)

def OpenTrip.stretch (trip : OpenTrip) (now : Ms) (idleSustainS : ℚ≥0) : List Stretch :=
  match trip.idleSince with
  | some since => if idleSustainS ≤ secs now since then [(since, now)] else []
  | none => []

/-- The vehicle idles at a valid fix. -/
def TripThresholds.idling (t : TripThresholds) (r : NormalizedRecord) : Bool :=
  (t.noIgnition ∨ r.ignition = some true) ∧ r.speedOr0 < t.idleSpeedKmh

def OpenTrip.counts (t : TripThresholds) (trip : OpenTrip) (r : NormalizedRecord) : List Stretch :=
  if r.fixValid && !t.idling r then trip.stretch r.fixTime t.idleSustainS else []

/-- A device, and the stretches that its trip has counted. -/
structure IdleLog where
  st : DeviceState
  counted : List Stretch

/-- The configuration under which a record is applied. -/
def DeviceState.inUse (resolved : DeviceTripConfig) (st : DeviceState) : DeviceTripConfig :=
  if st.phase = .idle then resolved else st.config

def IdleLog.step (resolved : DeviceTripConfig) (log : IdleLog) (r : NormalizedRecord) :
    IdleLog × List (CloseEvent × List Stretch) :=
  if isClockSkewed r || log.st.isLate r then (log, [])
  else
    let t := (log.st.inUse resolved).thresholds
    let next := log.st.advance haversineM resolved r
    match log.st.phase with
    | .parked _ => (⟨next.1, []⟩, [])
    | .moving trip =>
      let counted := log.counted ++ trip.counts t r
      (⟨next.1, counted⟩, (closesOf next.2).map fun k =>
        (k, counted ++ (trip.seen haversineM t r).stretch k.endTime t.idleSustainS))

/-- A device that is seen for the first time. -/
def IdleLog.fresh (config : DeviceTripConfig) : IdleLog := ⟨.fresh config, []⟩

def idleLog (config : DeviceTripConfig) (records : List NormalizedRecord) :
    List (CloseEvent × List Stretch) :=
  Transducer.outputs (IdleLog.step haversineM config) (.fresh config) records

/-- The stretches lie within the trip, one after another, and make up its idle time. -/
structure CloseEvent.IdlesWithin (k : CloseEvent) (stretches : List Stretch) : Prop where
  total : k.idleS = (stretches.map Stretch.seconds).sum
  inside : ∀ x ∈ stretches, k.startTime ≤ x.1 ∧ x.1 ≤ x.2 ∧ x.2 ≤ k.endTime
  disjoint : stretches.Pairwise fun x y => x.2 ≤ y.1
  bounded : (k.idleS : ℚ) ≤ secs k.endTime k.startTime + stretches.length

/-- While a stop is being timed, a record that does not end it counts no idling. -/
def CountsInTime (resolved : DeviceTripConfig) (log : IdleLog) (r : NormalizedRecord) : Prop :=
  match log.st.phase with
  | .parked _ => True
  | .moving trip =>
    let t := (log.st.inUse resolved).thresholds
    ∀ since ∈ trip.stopSince, since < r.fixTime → isClockSkewed r = false →
      log.st.isLate r = false →
        stoppedAt t (haversineM trip.lastLat trip.lastLon r.lat r.lon) r = true →
          trip.counts t r = []

instance (resolved : DeviceTripConfig) (log : IdleLog) (r : NormalizedRecord) :
    Decidable (CountsInTime haversineM resolved log r) := by
  unfold CountsInTime
  split <;> infer_instance

section Idle

variable {haversineM} {config : DeviceTripConfig}

/-! ### What a record counts -/

lemma OpenTrip.stretch_cases (trip : OpenTrip) (now : Ms) (sustain : ℚ≥0) :
    trip.stretch now sustain = [] ∨ ∃ since, trip.idleSince = some since ∧ since ≤ now ∧
      trip.stretch now sustain = [(since, now)] := by
  unfold OpenTrip.stretch
  cases trip.idleSince with
  | none => exact .inl rfl
  | some since =>
    dsimp only
    split
    · rename_i h
      refine .inr ⟨since, rfl, ?_, rfl⟩
      have hlasted : 0 ≤ secs now since := (NNRat.coe_nonneg sustain).trans h
      unfold secs at hlasted
      have hcast : (0 : ℚ) ≤ ((now - since : ℤ) : ℚ) := by linarith
      exact Int.sub_nonneg.1 (by exact_mod_cast hcast)
    · exact .inl rfl

lemma OpenTrip.flushIdle_idleS (trip : OpenTrip) (now : Ms) (sustain : ℚ≥0) :
    (trip.flushIdle now sustain).idleS =
      trip.idleS + ((trip.stretch now sustain).map Stretch.seconds).sum := by
  unfold OpenTrip.flushIdle OpenTrip.stretch
  cases trip.idleSince with
  | none => simp
  | some since =>
    dsimp only
    split <;> simp [Stretch.seconds]

lemma OpenTrip.flushIdle_idleSince (trip : OpenTrip) (now : Ms) (sustain : ℚ≥0) :
    (trip.flushIdle now sustain).idleSince = none := by
  unfold OpenTrip.flushIdle
  cases h : trip.idleSince with
  | none => exact h
  | some since => rfl

variable (haversineM) in
lemma OpenTrip.seen_of_idling {t : TripThresholds} (trip : OpenTrip) {r : NormalizedRecord}
    (hvalid : r.fixValid = true) (h : t.idling r = true) :
    (trip.seen haversineM t r).idleS = trip.idleS ∧
      (trip.seen haversineM t r).idleSince = some (trip.idleSince.getD r.fixTime) := by
  have h := of_decide_eq_true h
  unfold OpenTrip.seen OpenTrip.driven
  dsimp only
  rw [if_pos hvalid, if_pos h]
  exact ⟨rfl, rfl⟩

variable (haversineM) in
lemma OpenTrip.seen_of_not_idling {t : TripThresholds} (trip : OpenTrip) {r : NormalizedRecord}
    (hvalid : r.fixValid = true) (h : t.idling r = false) :
    (trip.seen haversineM t r).idleS =
        trip.idleS + ((trip.stretch r.fixTime t.idleSustainS).map Stretch.seconds).sum ∧
      (trip.seen haversineM t r).idleSince = none := by
  have h := of_decide_eq_false h
  unfold OpenTrip.seen OpenTrip.driven
  dsimp only
  rw [if_pos hvalid, if_neg h, OpenTrip.flushIdle_idleS, OpenTrip.flushIdle_idleSince]
  exact ⟨rfl, rfl⟩

/-! ### The stretches of a trip that goes on -/

structure OpenTrip.Counted (trip : OpenTrip) (counted : List Stretch) (now : Ms) : Prop where
  total : trip.idleS = (counted.map Stretch.seconds).sum
  inside : ∀ x ∈ counted, trip.startTime ≤ x.1 ∧ x.1 ≤ x.2 ∧ x.2 ≤ now
  disjoint : counted.Pairwise fun x y => x.2 ≤ y.1
  idling : ∀ since ∈ trip.idleSince, trip.startTime ≤ since ∧ since ≤ now ∧
    ∀ x ∈ counted, x.2 ≤ since

variable {trip : OpenTrip} {counted : List Stretch} {now : Ms}

lemma OpenTrip.Counted.push (h : trip.Counted counted now) {later : Ms}
    (hlater : ∀ x ∈ counted, x.2 ≤ later) (sustain : ℚ≥0) :
    (∀ x ∈ counted ++ trip.stretch later sustain, trip.startTime ≤ x.1 ∧ x.1 ≤ x.2 ∧ x.2 ≤ later) ∧
      (counted ++ trip.stretch later sustain).Pairwise fun x y => x.2 ≤ y.1 := by
  have hinside : ∀ x ∈ counted, trip.startTime ≤ x.1 ∧ x.1 ≤ x.2 ∧ x.2 ≤ later := fun x hx =>
    ⟨(h.inside x hx).1, (h.inside x hx).2.1, hlater x hx⟩
  rcases trip.stretch_cases later sustain with hnone | ⟨since, hsince, hle, hone⟩
  · rw [hnone, append_nil]
    exact ⟨hinside, h.disjoint⟩
  · obtain ⟨hstart, -, hafter⟩ := h.idling since hsince
    rw [hone]
    refine ⟨fun x hx => ?_, ?_⟩
    · rcases mem_append.1 hx with hx | hx
      · exact hinside x hx
      · obtain rfl := mem_singleton.1 hx
        exact ⟨hstart, hle, le_rfl⟩
    · refine pairwise_append.2 ⟨h.disjoint, pairwise_singleton _ _, ?_⟩
      intro x hx y hy
      obtain rfl := mem_singleton.1 hy
      exact hafter x hx

variable (haversineM) in
lemma OpenTrip.Counted.seen (h : trip.Counted counted now) (t : TripThresholds)
    {r : NormalizedRecord} (hr : now ≤ r.fixTime) (hstart : trip.startTime ≤ r.fixTime) :
    (trip.seen haversineM t r).Counted (counted ++ trip.counts t r) r.fixTime := by
  have hsame := OpenTrip.seen_startTime haversineM t trip r
  have hold : ∀ x ∈ counted, trip.startTime ≤ x.1 ∧ x.1 ≤ x.2 ∧ x.2 ≤ r.fixTime := fun x hx =>
    (h.inside x hx).imp_right fun hx => hx.imp_right (·.trans hr)
  cases hvalid : r.fixValid with
  | false =>
    have hcounts : trip.counts t r = [] := by simp [OpenTrip.counts, hvalid]
    rw [OpenTrip.seen_of_invalid t trip hvalid, hcounts, append_nil]
    exact ⟨h.total, hold, h.disjoint, fun since hsince =>
      (h.idling since hsince).imp_right fun hx => hx.imp_left (·.trans hr)⟩
  | true =>
    cases hidling : t.idling r with
    | true =>
      have hcounts : trip.counts t r = [] := by simp [OpenTrip.counts, hidling]
      obtain ⟨hidleS, hidleSince⟩ := trip.seen_of_idling haversineM hvalid hidling
      rw [hcounts, append_nil]
      refine ⟨hidleS.trans h.total, hsame.symm ▸ hold, h.disjoint, fun since hsince => ?_⟩
      rw [hidleSince] at hsince
      rw [hsame]
      cases hbefore : trip.idleSince with
      | none =>
        rw [hbefore] at hsince
        cases hsince
        exact ⟨hstart, le_rfl, fun x hx => (hold x hx).2.2⟩
      | some s =>
        rw [hbefore] at hsince
        cases hsince
        exact (h.idling s hbefore).imp_right fun hx => hx.imp_left (·.trans hr)
    | false =>
      have hcounts : trip.counts t r = trip.stretch r.fixTime t.idleSustainS := by
        simp [OpenTrip.counts, hvalid, hidling]
      obtain ⟨hidleS, hidleSince⟩ := trip.seen_of_not_idling haversineM hvalid hidling
      obtain ⟨hinside, hdisjoint⟩ := h.push (fun x hx => (hold x hx).2.2) t.idleSustainS
      rw [hcounts]
      refine ⟨?_, hsame.symm ▸ hinside, hdisjoint, fun since hsince => ?_⟩
      · rw [hidleS, h.total, map_append, sum_append]
      · rw [hidleSince] at hsince
        cases hsince

/-! ### The stretches of a trip that ends -/

lemma Stretch.seconds_le (x : Stretch) : (x.seconds : ℚ) ≤ secs x.2 x.1 + 1 := by
  have h : (x.seconds : ℚ) ≤ secs x.2 x.1 + 1 / 2 := Int.floor_le _
  linarith

lemma sum_seconds_le {stretches : List Stretch} {lo hi : Ms} (hle : lo ≤ hi)
    (hinside : ∀ x ∈ stretches, lo ≤ x.1 ∧ x.1 ≤ x.2 ∧ x.2 ≤ hi)
    (hdisjoint : stretches.Pairwise fun x y => x.2 ≤ y.1) :
    (((stretches.map Stretch.seconds).sum : ℤ) : ℚ) ≤ secs hi lo + stretches.length := by
  induction stretches generalizing lo with
  | nil =>
    have hcast : (0 : ℚ) ≤ ((hi - lo : ℤ) : ℚ) := by exact_mod_cast Int.sub_nonneg.2 hle
    simp only [map_nil, sum_nil, Int.cast_zero, length_nil, Nat.cast_zero, secs]
    linarith
  | cons x stretches ih =>
    obtain ⟨hx, hrest⟩ := forall_mem_cons.1 hinside
    obtain ⟨hafter, hdisjoint⟩ := pairwise_cons.1 hdisjoint
    have hsum := ih hx.2.2 (fun y hy => ⟨hafter y hy, (hrest y hy).2⟩) hdisjoint
    have hseconds := x.seconds_le
    have hstart : (lo : ℚ) ≤ x.1 := by exact_mod_cast hx.1
    simp only [map_cons, sum_cons, Int.cast_add, length_cons, Nat.cast_add, Nat.cast_one]
    unfold secs at *
    push_cast at *
    linarith

variable (config) in
lemma OpenTrip.Counted.close (h : trip.Counted counted now) {d : DeviceId} {endTime : Ms}
    (hstart : trip.startTime ≤ endTime) (hend : ∀ x ∈ counted, x.2 ≤ endTime) :
    (trip.close config d endTime).IdlesWithin
      (counted ++ trip.stretch endTime config.thresholds.idleSustainS) := by
  obtain ⟨hinside, hdisjoint⟩ := h.push hend config.thresholds.idleSustainS
  have hstart' : (trip.close config d endTime).startTime = trip.startTime := by simp
  have htotal : (trip.close config d endTime).idleS = ((counted ++
      trip.stretch endTime config.thresholds.idleSustainS).map Stretch.seconds).sum := by
    show (trip.flushIdle endTime config.thresholds.idleSustainS).idleS = _
    rw [OpenTrip.flushIdle_idleS, h.total, map_append, sum_append]
  refine ⟨htotal, hstart'.symm ▸ hinside, hdisjoint, ?_⟩
  rw [htotal, hstart']
  exact sum_seconds_le hstart hinside hdisjoint

/-! ### A run -/

/-- A device that has been followed from the start. -/
structure IdleLog.Sound (log : IdleLog) : Prop where
  lies : ∃ after, log.st.Lies after
  counted : ∀ trip, log.st.phase = .moving trip → ∀ now ∈ log.st.lastSeen,
    trip.Counted log.counted now
  stopping : ∀ trip, log.st.phase = .moving trip → ∀ t ∈ trip.stopSince, ∀ x ∈ log.counted, x.2 ≤ t

variable {r : NormalizedRecord} {log : IdleLog} {resolved : DeviceTripConfig}

/-- A valid fix after which the stop is still being timed, or has lasted long enough, shows the
vehicle stopped. -/
lemma stoppedAt_of_stopTimer {since : Option Ms} {lat lon : ℚ} (hvalid : r.fixValid = true)
    (h : stopTimer haversineM config since lat lon r ≠ .goesOn none) :
    stoppedAt config.thresholds (haversineM lat lon r.lat r.lon) r = true := by
  by_contra hstopped
  refine h ?_
  unfold stopTimer
  unfold stoppedAt at hstopped
  simp only [hvalid, if_true]
  split
  · rename_i hno
    simp only [hno, if_true, decide_eq_true_eq] at hstopped
    exact if_neg hstopped
  · rename_i hno
    simp only [hno, Bool.false_eq_true, if_false, decide_eq_true_eq] at hstopped
    exact if_neg hstopped

lemma OpenTrip.Counted.before_stop (hsound : log.Sound) (hphase : log.st.phase = .moving trip)
    (hskew : isClockSkewed r = false) (hlate : log.st.isLate r = false)
    (htime : CountsInTime haversineM resolved log r)
    (hgrown : ∀ x ∈ log.counted ++ trip.counts (log.st.inUse resolved).thresholds r,
      x.2 ≤ r.fixTime)
    (htimer : stopTimer haversineM (log.st.inUse resolved) trip.stopSince trip.lastLat trip.lastLon
      r ≠ .goesOn none) :
    ∀ x ∈ log.counted ++ trip.counts (log.st.inUse resolved).thresholds r,
      x.2 ≤ trip.stopSince.getD r.fixTime := by
  intro x hx
  cases hsince : trip.stopSince with
  | none => exact hgrown x hx
  | some since =>
    show x.2 ≤ since
    rcases mem_append.1 hx with hold | hnew
    · exact hsound.stopping trip hphase since hsince x hold
    · by_cases hbefore : since < r.fixTime
      · have hvalid : r.fixValid = true := by
          by_contra hinvalid
          simp [OpenTrip.counts, hinvalid] at hnew
        unfold CountsInTime at htime
        rw [hphase] at htime
        rw [htime since hsince hbefore hskew hlate (stoppedAt_of_stopTimer hvalid htimer)] at hnew
        cases hnew
      · exact (hgrown x hx).trans (not_lt.1 hbefore)

/-- **One record** in time. -/
lemma IdleLog.Sound.step (h : log.Sound) (htime : CountsInTime haversineM resolved log r) :
    (log.step haversineM resolved r).1.Sound ∧
      ∀ o ∈ (log.step haversineM resolved r).2, o.1.IdlesWithin o.2 := by
  unfold IdleLog.step
  by_cases hskip : (isClockSkewed r || log.st.isLate r) = true
  · rw [if_pos hskip]
    exact ⟨h, fun o ho => by cases ho⟩
  rw [if_neg hskip]
  obtain ⟨hskew, hlate⟩ := (Bool.or_eq_false_iff.1 (Bool.not_eq_true _ ▸ hskip))
  obtain ⟨after, hlies⟩ := h.lies
  have hupTo := hlies.upTo hlate
  have hadvance : log.st.advance haversineM resolved r =
      (⟨(log.st.phase.step haversineM (log.st.inUse resolved) r).1, some r.fixTime,
        log.st.inUse resolved⟩, (log.st.phase.step haversineM (log.st.inUse resolved) r).2) := rfl
  obtain ⟨after', hlies', -⟩ := hupTo.step haversineM (log.st.inUse resolved) rfl
  rw [hadvance]
  generalize hconfig : log.st.inUse resolved = config at *
  cases hphase : log.st.phase with
  | parked cand =>
    rw [hphase] at hlies'
    have hopened : ∀ trip, (Phase.step haversineM config (.parked cand) r).1 = .moving trip →
        trip.idleS = 0 ∧ trip.idleSince = none := by
      intro trip htrip
      rw [Phase.step_parked] at htrip
      split at htrip
      · cases htrip
      split at htrip
      · cases htrip
      dsimp only at htrip
      split at htrip
      · cases htrip
        exact ⟨rfl, rfl⟩
      · cases htrip
    refine ⟨⟨⟨after', hlies'⟩, fun trip htrip now _ => ?_, fun trip _ t _ x hx => ?_⟩,
      fun o ho => ?_⟩
    · obtain ⟨hidleS, hidleSince⟩ := hopened trip htrip
      refine ⟨hidleS, fun x hx => ?_, .nil, fun since hsince => ?_⟩
      · cases hx
      · rw [hidleSince] at hsince
        cases hsince
    · cases hx
    · cases ho
  | moving trip =>
    rw [hphase] at hlies' hupTo
    have hnow : ∀ now ∈ log.st.lastSeen, now ≤ r.fixTime := by
      intro now hnow
      simpa [DeviceState.isLate, Option.mem_def.1 hnow] using hlate
    obtain ⟨now, hseen⟩ : ∃ now, log.st.lastSeen = some now := by
      unfold DeviceState.Lies at hlies
      cases hseen : log.st.lastSeen with
      | none =>
        rw [hseen, hphase] at hlies
        cases hlies.1
      | some now => exact ⟨now, rfl⟩
    have hcounted := (h.counted trip hphase now hseen).seen haversineM config.thresholds
      (hnow now hseen) hupTo.2.1
    have hstop := OpenTrip.Counted.before_stop h hphase hskew hlate htime
      (fun x hx => (hcounted.inside x (hconfig ▸ hx)).2.2)
    rw [hconfig] at hstop
    rw [Phase.step_moving_eq] at hlies' ⊢
    dsimp only
    cases htimer : stopTimer haversineM config trip.stopSince trip.lastLat trip.lastLon r with
    | goesOn since =>
      rw [htimer] at hlies' hstop
      refine ⟨⟨⟨after', hlies'⟩, fun trip' htrip' now' hnow' => ?_,
        fun trip' htrip' t ht x hx => ?_⟩, fun o ho => ?_⟩
      · cases htrip'
        cases hnow'
        exact ⟨hcounted.total, hcounted.inside, hcounted.disjoint, hcounted.idling⟩
      · cases htrip'
        have ht : since = some t := ht
        subst ht
        have hgetD : trip.stopSince.getD r.fixTime = t := by
          rcases stopTimer_goesOn htimer with hnone | hsame | hstarted
          · cases hnone
          · rw [← hsame]
            rfl
          · exact (Option.some.inj hstarted).symm
        exact hgetD ▸ hstop (fun hreset => by cases hreset) x hx
      · cases ho
    | runsOut endTime =>
      rw [htimer] at hlies' hstop
      obtain ⟨rfl, -⟩ := stopTimer_runsOut htimer
      refine ⟨⟨⟨after', hlies'⟩, fun trip' htrip' => ?_, fun trip' htrip' => ?_⟩, fun o ho => ?_⟩
      · cases htrip'
      · cases htrip'
      · obtain rfl := mem_singleton.1 ho
        refine hcounted.close config ?_ (hstop fun hreset => by cases hreset)
        rw [OpenTrip.seen_startTime]
        cases hs : trip.stopSince with
        | none => exact hupTo.2.1
        | some t => exact (hupTo.2.2.1 t hs).1

lemma idleLog_closes (config : DeviceTripConfig) (records : List NormalizedRecord) :
    (idleLog haversineM config records).map Prod.fst = closesOf
      (Transducer.outputs (DeviceState.step haversineM config) (.fresh config) records) := by
  suffices hrun : ∀ log : IdleLog,
      (Transducer.outputs (IdleLog.step haversineM config) log records).map Prod.fst =
        closesOf (Transducer.outputs (DeviceState.step haversineM config) log.st records) from
    hrun (.fresh config)
  induction records with
  | nil => exact fun log => rfl
  | cons r rs ih =>
    intro log
    have hstep : (log.step haversineM config r).1.st = (log.st.step haversineM config r).1 ∧
        (log.step haversineM config r).2.map Prod.fst =
          closesOf (log.st.step haversineM config r).2 := by
      unfold IdleLog.step DeviceState.step
      by_cases hskew : isClockSkewed r = true
      · simp only [hskew, Bool.true_or, if_true, map_nil]
        exact ⟨trivial, rfl⟩
      by_cases hlate : log.st.isLate r = true
      · simp only [hskew, hlate, Bool.or_true, if_true, Bool.false_eq_true, if_false, map_nil]
        exact ⟨trivial, rfl⟩
      simp only [hskew, hlate, Bool.or_self, Bool.false_eq_true, if_false]
      cases hphase : log.st.phase with
      | parked cand =>
        refine ⟨rfl, ?_⟩
        refine (eq_nil_iff_forall_not_mem.2 fun k hk => ?_).symm
        unfold DeviceState.advance at hk
        rw [hphase] at hk
        dsimp only at hk
        have hread : ∀ config', Phase.step haversineM config' (.parked cand) r =
            Phase.read haversineM config' (.parked cand) r := fun config' => (if_neg hskew).symm
        rw [hread] at hk
        obtain ⟨trip, htrip, -⟩ := Phase.read_close hk
        cases htrip
      | moving trip =>
        refine ⟨rfl, ?_⟩
        rw [map_map]
        exact map_id _
    rw [Transducer.outputs_cons, Transducer.outputs_cons, map_append, ih, hstep.1, hstep.2]
    unfold closesOf
    rw [filterMap_append]

end Idle

/-- **Idle time lies within the trip** where no record counts idling while a stop is being timed
that it does not end. -/
theorem idle_within (configFor : DeviceId → DeviceTripConfig) (records : List NormalizedRecord)
    (d : DeviceId)
    (h : Transducer.Along (IdleLog.step haversineM (configFor d))
      (CountsInTime haversineM (configFor d)) (.fresh (configFor d))
      (records.filter (·.deviceId = d))) :
    closesOf ((TripEngine.new.feed haversineM configFor records).2.filter (·.deviceId = d)) =
        (idleLog haversineM (configFor d) (records.filter (·.deviceId = d))).map Prod.fst ∧
      ∀ o ∈ idleLog haversineM (configFor d) (records.filter (·.deviceId = d)),
        o.1.IdlesWithin o.2 := by
  refine ⟨?_, h.outputs ⟨⟨none, rfl, rfl⟩, fun trip htrip => ?_, fun trip htrip => ?_⟩ fun log r =>
    IdleLog.Sound.step⟩
  · rw [idleLog_closes, (TripEngine.new.feed_own haversineM configFor d records).1]
    rfl
  · cases htrip
  · cases htrip

/-! ## Beneath a roof -/

/-- A vehicle that idles for ten seconds, stops beneath a roof, and is seen again an hour later. -/
def beneathRoof : List NormalizedRecord :=
  [sampleRecord 0 true, sampleRecord 90000 true, { sampleRecord 100000 true with speed := some 0 },
    { sampleRecord 110000 false with fixValid := false }, sampleRecord 3710000 false]

/-- The trip has lasted 110 seconds, and has idled for 3610. -/
theorem idle_exceeds :
    ∃ k, .closed k ∈ (TripEngine.new.feed onTheSpot (fun _ => defaultConfig) beneathRoof).2 ∧
      secs k.endTime k.startTime = 110 ∧ k.idleS = 3610 ∧
      (idleLog onTheSpot defaultConfig beneathRoof).any (fun o => o.1 = k && o.2.length = 1) := by
  refine ⟨⟨1, tripTime, tripTime + 110000, 54, 25, 54, 25, 0, .gps, 50, 3610, none⟩, ?_⟩
  decide +kernel

/-- The stop is seen by a valid fix as well, at once. -/
def beneathSky : List NormalizedRecord :=
  [sampleRecord 0 true, sampleRecord 90000 true, { sampleRecord 100000 true with speed := some 0 },
    sampleRecord 300000 false, sampleRecord 3710000 false]

theorem idle_within_beneathSky :
    closesOf ((TripEngine.new.feed onTheSpot (fun _ => defaultConfig) beneathSky).2.filter
        (·.deviceId = 1)) =
        (idleLog onTheSpot defaultConfig (beneathSky.filter (·.deviceId = 1))).map Prod.fst ∧
      ∀ o ∈ idleLog onTheSpot defaultConfig (beneathSky.filter (·.deviceId = 1)),
        o.1.IdlesWithin o.2 :=
  idle_within onTheSpot (fun _ => defaultConfig) beneathSky 1 (by decide +kernel)

end Orbetra
