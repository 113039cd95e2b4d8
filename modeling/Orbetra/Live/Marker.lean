import Orbetra.Live.State

/-!
# What the live marker shows

The marker is meant to be the newest record that can be trusted, and `lastFix` the newest place.
Both are kept by looking at one record of each batch: the first of the newest, `List.argmax`.  The
others are never seen, so that the batches a history is cut into may show.

`marker_newest_iff` and `lastFix_newest_iff` say exactly when they do not.
-/

namespace Orbetra

open Function List Eff

open scoped MsOrder

/-! ## One device -/

def ofDevice (d : DeviceId) (records : List NormalizedRecord) : List NormalizedRecord :=
  records.filter (·.deviceId = d)

/-- The record of a batch that `apply` looks at: the first of the newest. -/
def newestOf (d : DeviceId) (records : List NormalizedRecord) : Option NormalizedRecord :=
  (ofDevice d records).argmax (·.fixTime)

/-- What `applyOne` makes of the hash, where Redis answers. -/
def LiveHash.next (d : DeviceId) (accountId : Option String) (h : LiveHash)
    (rec : NormalizedRecord) : LiveHash :=
  if isClockSkewed rec then
    { h with serverTimeMs := some rec.serverTime, clockSkewedAt := some rec.serverTime }
  else if h.fixTimeMs.any fun t => rec.fixTime ≤ t then
    { h with serverTimeMs := some rec.serverTime }
  else
    { h with
      serverTimeMs := some rec.serverTime
      fixTimeMs := some rec.fixTime
      json := some (.payload (LiveState.compact d accountId rec (LiveState.carried rec h.json))) }

namespace LiveState

/-- Redis answers every command. -/
def answering : LiveCall → Reply := fun _ => .ok

lemma mem_ofDevice {d : DeviceId} {records : List NormalizedRecord} {r : NormalizedRecord} :
    r ∈ ofDevice d records ↔ r ∈ records ∧ r.deviceId = d := by
  simp [ofDevice]

/-- The state after `applyOne`: one hash has moved on. -/
lemma applyOne_answering (d : DeviceId) (rec : NormalizedRecord) (s : LiveStore) :
    ∃ published, applyOne answering d rec s = .done ()
      { s with
        last := update s.last d ((s.last d).next d (s.account d) rec)
        published := published } := by
  unfold applyOne LiveHash.next
  by_cases hskew : isClockSkewed rec
  · exact ⟨s.published, by simp [hskew, bind_apply, call, answering, onHash]⟩
  by_cases hold : (s.last d).fixTimeMs.any fun t => rec.fixTime ≤ t
  · refine ⟨s.published, ?_⟩
    simp only [Eff.bind_apply, Eff.call, answering, hskew, Bool.false_eq_true, if_false, read,
      Eff.get, onHash, update_self, id_eq, Eff.pure_apply, hold, if_true]
  · cases htenant : s.tenant d with
    | none =>
      refine ⟨s.published, ?_⟩
      simp only [Eff.bind_apply, Eff.call, answering, hskew, Bool.false_eq_true, if_false, read,
        Eff.get, onHash, update_self, id_eq, Eff.pure_apply, hold, htenant,
        update_idem]
    | some t =>
      refine ⟨s.published ++ [(t, compact d (s.account d) rec (carried rec (s.last d).json))], ?_⟩
      simp only [Eff.bind_apply, Eff.call, answering, hskew, Bool.false_eq_true, if_false, read,
        Eff.get, onHash, update_self, id_eq, Eff.pure_apply, hold, htenant,
        update_idem]

/-! ## One batch -/

lemma lookup_append_of_none {newest : List (DeviceId × NormalizedRecord)} {d : DeviceId}
    (h : newest.lookup d = none) (rec : NormalizedRecord) (d' : DeviceId) :
    (newest ++ [(d, rec)]).lookup d' = if d' = d then some rec else newest.lookup d' := by
  rw [lookup_append]
  by_cases hd : d' = d
  · subst hd
    simp [h]
  · cases newest.lookup d' <;> simp [lookup, hd, beq_false_of_ne hd]

lemma lookup_replace (newest : List (DeviceId × NormalizedRecord)) (d d' : DeviceId)
    (rec : NormalizedRecord) :
    (newest.map fun entry => if entry.1 = d then (entry.1, rec) else entry).lookup d' =
      if d' = d then (newest.lookup d').map fun _ => rec else newest.lookup d' := by
  induction newest with
  | nil => simp
  | cons entry newest ih =>
    obtain ⟨e, r⟩ := entry
    rw [map_cons]
    by_cases hed : e = d
    · subst hed
      rw [if_pos rfl, lookup_cons, ih, lookup_cons]
      by_cases hd : d' = e
      · subst hd
        simp
      · simp [hd, beq_false_of_ne hd]
    · rw [if_neg hed, lookup_cons, ih, lookup_cons]
      by_cases hd : d' = d
      · subst hd
        simp [beq_false_of_ne (Ne.symm hed)]
      · simp [hd]

lemma newestOf_concat (d : DeviceId) (records : List NormalizedRecord) (rec : NormalizedRecord) :
    newestOf d (records ++ [rec]) =
      if d = rec.deviceId then
        match newestOf d records with
        | none => some rec
        | some current => if current.fixTime < rec.fixTime then some rec else some current
      else newestOf d records := by
  unfold newestOf ofDevice
  by_cases hd : d = rec.deviceId
  · subst hd
    simp only [filter_append, filter_singleton, decide_true, cond_true, if_true]
    rw [argmax_concat]
    cases (records.filter (·.deviceId = rec.deviceId)).argmax (·.fixTime) <;> rfl
  · simp [filter_append, hd, Ne.symm hd]

/-- A turn of the loop. -/
lemma newestPerDevice_concat (records : List NormalizedRecord) (rec : NormalizedRecord) :
    newestPerDevice (records ++ [rec]) =
      match (newestPerDevice records).lookup rec.deviceId with
      | none => newestPerDevice records ++ [(rec.deviceId, rec)]
      | some current =>
        if current.fixTime < rec.fixTime then
          (newestPerDevice records).map fun entry =>
            if entry.1 = rec.deviceId then (entry.1, rec) else entry
        else newestPerDevice records := by
  rw [newestPerDevice, foldl_append]
  rfl

lemma lookup_newestPerDevice (records : List NormalizedRecord) (d : DeviceId) :
    (newestPerDevice records).lookup d = newestOf d records := by
  induction records using reverseRecOn with
  | nil => rfl
  | append_singleton records rec ih =>
    rw [newestOf_concat, ← ih, newestPerDevice_concat]
    by_cases hd : d = rec.deviceId
    · subst hd
      rw [if_pos rfl]
      cases hcurrent : (newestPerDevice records).lookup rec.deviceId with
      | none => exact (lookup_append_of_none hcurrent rec _).trans (if_pos rfl)
      | some current =>
        dsimp only
        split
        · rw [lookup_replace, if_pos rfl, hcurrent]
          rfl
        · exact hcurrent
    · rw [if_neg hd]
      split
      · rename_i hnone
        exact (lookup_append_of_none hnone rec d).trans (if_neg hd)
      · split
        · rw [lookup_replace, if_neg hd]
        · rfl

lemma nodup_newestPerDevice (records : List NormalizedRecord) :
    ((newestPerDevice records).map Prod.fst).Nodup := by
  induction records using reverseRecOn with
  | nil => exact nodup_nil
  | append_singleton records rec ih =>
    rw [newestPerDevice_concat]
    split
    · rename_i hnone
      rw [map_append, nodup_append]
      refine ⟨ih, by simp, fun a ha b hb => ?_⟩
      rintro rfl
      obtain rfl := mem_singleton.1 hb
      obtain ⟨entry, hentry, hfst⟩ := mem_map.1 ha
      have hne := lookup_eq_none_iff.1 hnone entry hentry
      simp [hfst] at hne
    · split
      · rw [map_map]
        have hfst : (Prod.fst ∘ fun entry : DeviceId × NormalizedRecord =>
            if entry.1 = rec.deviceId then (entry.1, rec) else entry) = Prod.fst := by
          funext entry
          by_cases h : entry.1 = rec.deviceId <;> simp [h]
        rw [hfst]
        exact ih
      · exact ih

lemma settleAll_answering (entries : List (DeviceId × NormalizedRecord)) (s : LiveStore)
    (hnodup : (entries.map Prod.fst).Nodup) :
    ∃ last published, settleAll answering entries s =
        .done none { s with last := last, published := published } ∧
      ∀ d, last d = match entries.lookup d with
        | none => s.last d
        | some rec => (s.last d).next d (s.account d) rec := by
  induction entries generalizing s with
  | nil => exact ⟨s.last, s.published, rfl, fun d => rfl⟩
  | cons entry entries ih =>
    obtain ⟨e, rec⟩ := entry
    obtain ⟨hnew, hnodup⟩ := nodup_cons.1 hnodup
    obtain ⟨published, hone⟩ := applyOne_answering e rec s
    obtain ⟨last, published', hrest, hlast⟩ := ih
      { s with
        last := update s.last e ((s.last e).next e (s.account e) rec)
        published := published } hnodup
    refine ⟨last, published', ?_, fun d => ?_⟩
    · unfold settleAll
      have hfirst : attempt (do applyOne answering e rec; pure none)
          (fun err => pure (some err)) s = .done (none : Option LiveCall) _ :=
        attempt_done (bind_done hone)
      exact (bind_done hfirst).trans ((bind_done hrest).trans rfl)
    · rw [hlast d, lookup_cons]
      by_cases hd : d = e
      · subst hd
        have hnone : entries.lookup d = none := by
          refine lookup_eq_none_iff.2 fun p hp => ?_
          have hne : d ≠ p.1 := fun h => hnew (mem_map.2 ⟨p, hp, h.symm⟩)
          simpa using hne
        simp [hnone]
      · rw [beq_false_of_ne hd]
        simp only [update_of_ne hd]

/-- **A batch**, where Redis answers: the hash of a device moves on by its newest record. -/
lemma apply_answering (records : List NormalizedRecord) (s : LiveStore) :
    ∃ last published, apply answering records s =
        .done () { s with last := last, published := published } ∧
      ∀ d, last d = match newestOf d records with
        | none => s.last d
        | some rec => (s.last d).next d (s.account d) rec := by
  obtain ⟨last, published, hall, hlast⟩ :=
    settleAll_answering (newestPerDevice records) s (nodup_newestPerDevice records)
  refine ⟨last, published, ?_, fun d => ?_⟩
  · unfold apply
    exact bind_done hall
  · rw [hlast d, lookup_newestPerDevice]

end LiveState

/-! ## A history -/

/-- Redis before the first record of any device. -/
def LiveStore.start (tenant account : DeviceId → Option String) : LiveStore :=
  ⟨fun _ => .empty, tenant, account, []⟩

/-- Redis after some batches, all of whose commands were answered. -/
def LiveStore.after (s : LiveStore) (batches : List (List NormalizedRecord)) : LiveStore :=
  batches.foldl (fun s records => (LiveState.apply LiveState.answering records s).state) s

section History

variable {d : DeviceId} {accountId : Option String} {h : LiveHash}
  {records seen : List NormalizedRecord} {batches : List (List NormalizedRecord)}

lemma LiveStore.after_concat (s : LiveStore) (batches : List (List NormalizedRecord))
    (b : List NormalizedRecord) :
    s.after (batches ++ [b]) = (LiveState.apply LiveState.answering b (s.after batches)).state := by
  rw [after, foldl_append]
  rfl

lemma LiveStore.after_last (s : LiveStore) (batches : List (List NormalizedRecord))
    (d : DeviceId) :
    (s.after batches).account = s.account ∧ (s.after batches).last d =
      (batches.filterMap (newestOf d)).foldl (LiveHash.next d (s.account d)) (s.last d) := by
  induction batches using reverseRecOn with
  | nil => exact ⟨rfl, rfl⟩
  | append_singleton batches b ih =>
    obtain ⟨haccount, hlast⟩ := ih
    obtain ⟨last, published, happly, hhash⟩ := LiveState.apply_answering b (s.after batches)
    rw [after_concat, happly]
    refine ⟨haccount, (hhash d).trans ?_⟩
    rw [filterMap_append, foldl_append, ← hlast, haccount]
    cases hnewest : newestOf d b <;> simp [hnewest]

/-! ## The newest record -/

/-- The marker is at a newest of the records whose clock can be trusted; there is none if there is
no such record. -/
def ShowsNewest (records : List NormalizedRecord) (h : LiveHash) : Prop :=
  match h.fixTimeMs with
  | none => ∀ r ∈ records, isClockSkewed r
  | some t => ∃ r ∈ records, isClockSkewed r = false ∧ r.fixTime = t ∧
      (∀ x ∈ records, isClockSkewed x = false → x.fixTime ≤ t) ∧
      ∃ p, h.json = some (.payload p) ∧ p.fixTimeMs = t ∧ p.lat = r.lat ∧ p.lon = r.lon

def NewestLeads (d : DeviceId) (batches : List (List NormalizedRecord)) : Prop :=
  (∀ r ∈ ofDevice d batches.flatten, isClockSkewed r) ∨
    ∃ b ∈ batches, ∃ r, newestOf d b = some r ∧ isClockSkewed r = false ∧
      ∀ x ∈ ofDevice d batches.flatten, isClockSkewed x = false → x.fixTime ≤ r.fixTime

lemma ShowsNewest.next (hshows : ShowsNewest seen h) (rec : NormalizedRecord) :
    ShowsNewest (seen ++ [rec]) (h.next d accountId rec) := by
  unfold LiveHash.next
  cases hskew : isClockSkewed rec with
  | true =>
    rw [if_pos rfl]
    unfold ShowsNewest at hshows ⊢
    dsimp only
    cases htime : h.fixTimeMs with
    | none =>
      rw [htime] at hshows
      exact forall_mem_append.2 ⟨hshows, by simpa using hskew⟩
    | some t =>
      rw [htime] at hshows
      obtain ⟨r, hr, hrskew, hrt, hmax, hjson⟩ := hshows
      refine ⟨r, mem_append_left _ hr, hrskew, hrt, ?_, hjson⟩
      exact forall_mem_append.2 ⟨hmax, by simp [hskew]⟩
  | false =>
    rw [if_neg Bool.false_ne_true]
    by_cases hold : h.fixTimeMs.any fun t => rec.fixTime ≤ t
    · rw [if_pos hold]
      unfold ShowsNewest at hshows ⊢
      dsimp only
      cases htime : h.fixTimeMs with
      | none => simp [htime] at hold
      | some t =>
        have hle : rec.fixTime ≤ t := by simpa [htime] using hold
        rw [htime] at hshows
        obtain ⟨r, hr, hrskew, hrt, hmax, hjson⟩ := hshows
        refine ⟨r, mem_append_left _ hr, hrskew, hrt, ?_, hjson⟩
        exact forall_mem_append.2 ⟨hmax, by simpa [hskew] using hle⟩
    · rw [if_neg hold]
      refine ⟨rec, by simp, hskew, rfl, ?_, _, rfl, rfl, rfl, rfl⟩
      refine forall_mem_append.2 ⟨fun x hx hxskew => ?_, by simp⟩
      unfold ShowsNewest at hshows
      cases htime : h.fixTimeMs with
      | none =>
        rw [htime] at hshows
        rw [hshows x hx] at hxskew
        cases hxskew
      | some t =>
        rw [htime] at hshows hold
        obtain ⟨r, -, -, -, hmax, -⟩ := hshows
        have hlt : t < rec.fixTime := by simpa using hold
        exact (hmax x hx hxskew).trans hlt.le

lemma showsNewest_foldl (d : DeviceId) (accountId : Option String) (seen : List NormalizedRecord) :
    ShowsNewest seen (seen.foldl (LiveHash.next d accountId) .empty) := by
  induction seen using reverseRecOn with
  | nil => exact fun r hr => absurd hr not_mem_nil
  | append_singleton seen rec ih =>
    rw [foldl_append]
    exact ih.next rec

lemma ShowsNewest.iff (hshows : ShowsNewest seen h) (hseen : ∀ r ∈ seen, r ∈ records) :
    ShowsNewest records h ↔ (∀ r ∈ records, isClockSkewed r) ∨
      ∃ r ∈ seen, isClockSkewed r = false ∧
        ∀ x ∈ records, isClockSkewed x = false → x.fixTime ≤ r.fixTime := by
  unfold ShowsNewest at hshows ⊢
  cases htime : h.fixTimeMs with
  | none =>
    rw [htime] at hshows
    refine ⟨.inl, fun hcases => ?_⟩
    rcases hcases with hall | ⟨r, hr, hrskew, -⟩
    · exact hall
    · rw [hshows r hr] at hrskew
      cases hrskew
  | some t =>
    rw [htime] at hshows
    obtain ⟨r, hr, hrskew, hrt, hseenmax, hjson⟩ := hshows
    constructor
    · rintro ⟨-, -, -, -, hmax, -⟩
      exact .inr ⟨r, hr, hrskew, fun x hx hxskew => (hmax x hx hxskew).trans hrt.ge⟩
    · rintro (hall | ⟨r', hr', hrskew', hmax⟩)
      · rw [hall r (hseen r hr)] at hrskew
        cases hrskew
      · refine ⟨r, hseen r hr, hrskew, hrt, fun x hx hxskew => ?_, hjson⟩
        exact (hmax x hx hxskew).trans (hseenmax r' hr' hrskew')

lemma looked_subset {r : NormalizedRecord} (hr : r ∈ batches.filterMap (newestOf d)) :
    r ∈ ofDevice d batches.flatten := by
  obtain ⟨b, hb, hnewest⟩ := mem_filterMap.1 hr
  obtain ⟨hmem, hdevice⟩ := LiveState.mem_ofDevice.1 (argmax_mem hnewest)
  exact LiveState.mem_ofDevice.2 ⟨mem_flatten.2 ⟨b, hb, hmem⟩, hdevice⟩

lemma showsNewest_looked (tenant account : DeviceId → Option String) (d : DeviceId)
    (batches : List (List NormalizedRecord)) :
    ShowsNewest (batches.filterMap (newestOf d))
      (((LiveStore.start tenant account).after batches).last d) := by
  rw [((LiveStore.start tenant account).after_last batches d).2]
  exact showsNewest_foldl d (account d) _

lemma showsNewest_of_trusted (tenant account : DeviceId → Option String) (d : DeviceId)
    (hskew : ∀ r ∈ batches.flatten, isClockSkewed r = false) :
    ShowsNewest (ofDevice d batches.flatten)
      (((LiveStore.start tenant account).after batches).last d) := by
  refine ((showsNewest_looked tenant account d batches).iff fun r => looked_subset).2 ?_
  cases hnewest : (ofDevice d batches.flatten).argmax (·.fixTime) with
  | none =>
    have hempty := argmax_eq_none.1 hnewest
    exact .inl fun r hr => absurd (hempty ▸ hr) not_mem_nil
  | some r =>
    obtain ⟨hr, hdevice⟩ := LiveState.mem_ofDevice.1 (argmax_mem hnewest)
    obtain ⟨b, hb, hrb⟩ := mem_flatten.1 hr
    have hrb : r ∈ ofDevice d b := LiveState.mem_ofDevice.2 ⟨hrb, hdevice⟩
    cases hlead : newestOf d b with
    | none => exact absurd (argmax_eq_none.1 hlead ▸ hrb) not_mem_nil
    | some lead =>
      have hlooked : lead ∈ batches.filterMap (newestOf d) := mem_filterMap.2 ⟨b, hb, hlead⟩
      have hmem := (LiveState.mem_ofDevice.1 (looked_subset hlooked)).1
      refine .inr ⟨lead, hlooked, hskew lead hmem, fun x hx _ => ?_⟩
      exact (le_of_mem_argmax hx hnewest).trans (le_of_mem_argmax hrb hlead)

end History

/-- **The marker is at the newest record** that can be trusted exactly when some batch shows it: it
is the first of the newest records of its batch.  A batch whose newest record is clock-skewed shows
nothing. -/
theorem marker_newest_iff (tenant account : DeviceId → Option String) (d : DeviceId)
    (batches : List (List NormalizedRecord)) :
    ShowsNewest (ofDevice d batches.flatten)
        (((LiveStore.start tenant account).after batches).last d) ↔
      NewestLeads d batches := by
  have hlooked := showsNewest_looked tenant account d batches
  refine (hlooked.iff fun r => looked_subset).trans (or_congr_right ?_)
  constructor
  · rintro ⟨r, hr, hrest⟩
    obtain ⟨b, hb, hnewest⟩ := mem_filterMap.1 hr
    exact ⟨b, hb, r, hnewest, hrest⟩
  · rintro ⟨b, hb, r, hnewest, hrest⟩
    exact ⟨r, mem_filterMap.2 ⟨b, hb, hnewest⟩, hrest⟩

/-- A record of device 1, sent at the time `t` of its clock and of the server's `now`. -/
def liveRecord (t now : Ms) (fixValid : Bool) : NormalizedRecord where
  deviceId := 1
  fixTime := t
  serverTime := now
  lat := 54
  lon := 25
  altitude := none
  speed := none
  course := none
  satellites := 5
  fixValid := fixValid
  ignition := none
  movement := none
  odometerM := none
  priority := 0
  recHash := 0
  attrs := []

/-- **A record that can be trusted leaves no marker**: it shares its batch with one whose clock runs
ahead. -/
theorem marker_lost_behind_skew :
    ¬ ShowsNewest (ofDevice 1 [liveRecord 1000 1000 true, liveRecord 900000 1000 true])
      (((LiveStore.start (fun _ => none) fun _ => none).after
        [[liveRecord 1000 1000 true, liveRecord 900000 1000 true]]).last 1) := by
  intro h
  have hnone : ∀ r ∈ ofDevice 1 [liveRecord 1000 1000 true, liveRecord 900000 1000 true],
      isClockSkewed r := h
  exact absurd (hnone (liveRecord 1000 1000 true) (by decide +kernel)) (by decide +kernel)

/-! ## The newest place -/

/-- `lastFix` of the stored payload. -/
def LiveHash.lastFix (h : LiveHash) : Option LastFix :=
  match h.json with
  | some (.payload p) => p.lastFix
  | _ => none

/-- `lastFix` is a newest of the records that can place the vehicle; there is none if there is no
such record. -/
def ShowsPlace (records : List NormalizedRecord) (h : LiveHash) : Prop :=
  match h.lastFix with
  | none => ∀ r ∈ records, r.placeable = false
  | some fix => ∃ r ∈ records, r.placeable ∧ fix = ⟨r.lat, r.lon, r.fixTime⟩ ∧
      ∀ x ∈ records, x.placeable → x.fixTime ≤ r.fixTime

def NewPlace (before : List NormalizedRecord) (r : NormalizedRecord) : Prop :=
  r.placeable ∧ ∀ x ∈ before, x.placeable → x.fixTime < r.fixTime

/-- If the batch has a new place, then the first of its newest records is placeable, and newer than
everything before. -/
def PlaceLeads (d : DeviceId) (before batch : List NormalizedRecord) : Prop :=
  (∃ r ∈ ofDevice d batch, NewPlace (ofDevice d before) r) →
    ∃ r, newestOf d batch = some r ∧ r.placeable ∧ ∀ x ∈ ofDevice d before, x.fixTime < r.fixTime

section Place

variable {d : DeviceId} {accountId : Option String} {h h' : LiveHash}
  {before batch : List NormalizedRecord}

/-- Where `lastFix` stays, nothing new may have come. -/
lemma ShowsPlace.kept (hshows : ShowsPlace before h) (hkept : h'.lastFix = h.lastFix) :
    ShowsPlace (before ++ batch) h' ↔ ¬ ∃ r ∈ batch, NewPlace before r := by
  unfold ShowsPlace at hshows ⊢
  rw [hkept]
  cases hfix : h.lastFix with
  | none =>
    rw [hfix] at hshows
    dsimp only at hshows ⊢
    constructor
    · rintro hnone ⟨r, hr, hplace, -⟩
      rw [hnone r (mem_append_right _ hr)] at hplace
      cases hplace
    · refine fun hnew => forall_mem_append.2 ⟨hshows, fun r hr => ?_⟩
      by_contra hplace
      refine hnew ⟨r, hr, by simpa using hplace, fun x hx hxplace => ?_⟩
      rw [hshows x hx] at hxplace
      cases hxplace
  | some fix =>
    rw [hfix] at hshows
    obtain ⟨r, hr, hplace, hrfix, hmax⟩ := hshows
    dsimp only
    constructor
    · rintro ⟨r', -, -, hrfix', hmax'⟩ ⟨x, hx, hxplace, hnewer⟩
      have htime : r.fixTime = r'.fixTime := congrArg LastFix.fixTimeMs (hrfix.symm.trans hrfix')
      have hle := hmax' x (mem_append_right _ hx) hxplace
      exact absurd (htime ▸ hnewer r hr hplace) (not_lt.2 hle)
    · intro hnew
      refine ⟨r, mem_append_left _ hr, hplace, hrfix, ?_⟩
      refine forall_mem_append.2 ⟨hmax, fun x hx hxplace => ?_⟩
      by_contra hlt
      refine hnew ⟨x, hx, hxplace, fun y hy hyplace => ?_⟩
      exact (hmax y hy hyplace).trans_lt (not_le.1 hlt)

lemma ofDevice_append (d : DeviceId) (before batch : List NormalizedRecord) :
    ofDevice d (before ++ batch) = ofDevice d before ++ ofDevice d batch := filter_append ..

lemma ShowsPlace.next (hnewest : ShowsNewest (ofDevice d before) h)
    (hskew : ∀ r ∈ before ++ batch, isClockSkewed r = false)
    (hshows : ShowsPlace (ofDevice d before) h) :
    ShowsPlace (ofDevice d (before ++ batch))
        ((newestOf d batch).elim h (LiveHash.next d accountId h)) ↔
      PlaceLeads d before batch := by
  rw [ofDevice_append]
  cases hlead : newestOf d batch with
  | none =>
    have hempty : ofDevice d batch = [] := argmax_eq_none.1 hlead
    simp only [Option.elim_none, PlaceLeads, hempty, append_nil, not_mem_nil, false_and,
      exists_false, false_imp_iff, iff_true]
    exact hshows
  | some r =>
    have hr : r ∈ ofDevice d batch := argmax_mem hlead
    have hlater : ∀ x ∈ ofDevice d batch, x.fixTime ≤ r.fixTime := fun x hx =>
      le_of_mem_argmax hx hlead
    have hrskew : isClockSkewed r = false :=
      hskew r (mem_append_right _ (LiveState.mem_ofDevice.1 hr).1)
    have hleads : PlaceLeads d before batch ↔ ((∃ r ∈ ofDevice d batch, NewPlace (ofDevice d before) r) →
        r.placeable ∧ ∀ x ∈ ofDevice d before, x.fixTime < r.fixTime) := by
      simp [PlaceLeads, hlead]
    rw [hleads, Option.elim_some]
    by_cases hnewer : ∀ x ∈ ofDevice d before, x.fixTime < r.fixTime
    · -- the marker moves
      have hmoves : ¬ (h.fixTimeMs.any fun t => r.fixTime ≤ t) := by
        unfold ShowsNewest at hnewest
        cases htime : h.fixTimeMs with
        | none => simp
        | some t =>
          rw [htime] at hnewest
          obtain ⟨x, hx, -, hxt, -⟩ := hnewest
          simpa [← hxt] using hnewer x hx
      have hnext : (LiveHash.next d accountId h r).lastFix =
          if r.placeable then some ⟨r.lat, r.lon, r.fixTime⟩ else h.lastFix := by
        rw [LiveHash.next, if_neg (by simp [hrskew]), if_neg hmoves]
        rfl
      by_cases hplace : r.placeable
      · rw [if_pos hplace] at hnext
        refine iff_of_true ?_ fun _ => ⟨hplace, hnewer⟩
        unfold ShowsPlace
        rw [hnext]
        refine ⟨r, mem_append_right _ hr, hplace, rfl, ?_⟩
        exact forall_mem_append.2 ⟨fun x hx _ => (hnewer x hx).le, fun x hx _ => hlater x hx⟩
      · rw [if_neg hplace] at hnext
        rw [hshows.kept hnext]
        simp [hplace]
    · -- the marker stays: a record before is as new
      have hstays : (LiveHash.next d accountId h r).lastFix = h.lastFix := by
        obtain ⟨x, hx, hle⟩ : ∃ x ∈ ofDevice d before, r.fixTime ≤ x.fixTime := by
          simpa using hnewer
        have hxskew := hskew x (mem_append_left _ (LiveState.mem_ofDevice.1 hx).1)
        have hold : h.fixTimeMs.any fun t => r.fixTime ≤ t := by
          unfold ShowsNewest at hnewest
          cases htime : h.fixTimeMs with
          | none =>
            rw [htime] at hnewest
            rw [hnewest x hx] at hxskew
            cases hxskew
          | some t =>
            rw [htime] at hnewest
            obtain ⟨-, -, -, -, hmax, -⟩ := hnewest
            simpa using hle.trans (hmax x hx hxskew)
        rw [LiveHash.next, if_neg (by simp [hrskew]), if_pos hold]
        rfl
      rw [hshows.kept hstays]
      simp [hnewer]

end Place

/-- **`lastFix` is the newest place**, after each batch of a history of records that can be trusted,
exactly when no batch hides one: a batch with a place newer than those before has, as the first of
its newest records, a placeable one that is newer than everything before. -/
theorem lastFix_newest_iff (tenant account : DeviceId → Option String) (d : DeviceId)
    (batches : List (List NormalizedRecord))
    (hskew : ∀ r ∈ batches.flatten, isClockSkewed r = false) :
    (∀ n, ShowsPlace (ofDevice d (batches.take n).flatten)
        (((LiveStore.start tenant account).after (batches.take n)).last d)) ↔
      ∀ n b, batches[n]? = some b → PlaceLeads d (batches.take n).flatten b := by
  have hbatch : ∀ n b, batches[n]? = some b →
      ShowsPlace (ofDevice d (batches.take n).flatten)
        (((LiveStore.start tenant account).after (batches.take n)).last d) →
      (ShowsPlace (ofDevice d (batches.take (n + 1)).flatten)
          (((LiveStore.start tenant account).after (batches.take (n + 1))).last d) ↔
        PlaceLeads d (batches.take n).flatten b) := by
    intro n b hb hshows
    have htake : batches.take (n + 1) = batches.take n ++ [b] := by
      rw [take_add_one, hb]
      rfl
    have hflatten : (batches.take (n + 1)).flatten = (batches.take n).flatten ++ b := by
      rw [htake, flatten_append, flatten_singleton]
    have hskew' : ∀ r ∈ (batches.take n).flatten ++ b, isClockSkewed r = false := by
      intro r hr
      rw [← hflatten] at hr
      obtain ⟨b', hb', hr⟩ := mem_flatten.1 hr
      exact hskew r (mem_flatten.2 ⟨b', mem_of_mem_take hb', hr⟩)
    have hnewest : ShowsNewest (ofDevice d (batches.take n).flatten)
        (((LiveStore.start tenant account).after (batches.take n)).last d) :=
      showsNewest_of_trusted tenant account d fun r hr => hskew' r (mem_append_left _ hr)
    have hlast : ((LiveStore.start tenant account).after (batches.take (n + 1))).last d =
        (newestOf d b).elim (((LiveStore.start tenant account).after (batches.take n)).last d)
          (LiveHash.next d (account d)
            (((LiveStore.start tenant account).after (batches.take n)).last d)) := by
      rw [(LiveStore.after_last _ _ d).2, (LiveStore.after_last _ _ d).2, htake,
        filterMap_append, foldl_append]
      cases hlead : newestOf d b <;> simp [hlead, LiveStore.start]
    rw [hflatten, hlast]
    exact hshows.next hnewest hskew'
  constructor
  · exact fun hall n b hb => (hbatch n b hb (hall n)).1 (hall (n + 1))
  · intro hleads n
    induction n with
    | zero => exact fun r hr => absurd hr (by simp [ofDevice])
    | succ n ih =>
      cases hb : batches[n]? with
      | none =>
        have htake : batches.take (n + 1) = batches.take n := by
          rw [take_add_one, hb]
          exact append_nil _
        rw [htake]
        exact ih
      | some b => exact (hbatch n b hb ih).2 (hleads n b hb)

/-- **A place is lost**: it shares its batch with a newer record without a fix. -/
theorem place_lost_in_batch :
    ¬ ShowsPlace (ofDevice 1 [liveRecord 1000 2000 true, liveRecord 2000 2000 false])
      (((LiveStore.start (fun _ => none) fun _ => none).after
        [[liveRecord 1000 2000 true, liveRecord 2000 2000 false]]).last 1) := by
  intro h
  have hnone : ∀ r ∈ ofDevice 1 [liveRecord 1000 2000 true, liveRecord 2000 2000 false],
      r.placeable = false := h
  exact absurd (hnone (liveRecord 1000 2000 true) (by decide +kernel)) (by decide +kernel)

/-- The same records, one by one. -/
theorem place_kept_one_by_one :
    ShowsPlace (ofDevice 1 [liveRecord 1000 2000 true, liveRecord 2000 2000 false])
      (((LiveStore.start (fun _ => none) fun _ => none).after [[liveRecord 1000 2000 true],
        [liveRecord 2000 2000 false]]).last 1) := by
  refine (lastFix_newest_iff (fun _ => none) (fun _ => none) 1 [[liveRecord 1000 2000 true],
    [liveRecord 2000 2000 false]] (by decide +kernel)).2 ?_ 2
  intro n b hb
  match n with
  | 0 =>
    cases hb
    exact fun _ => ⟨liveRecord 1000 2000 true, by decide +kernel⟩
  | 1 =>
    cases hb
    rintro ⟨r, hr, hplace, -⟩
    obtain rfl : r = liveRecord 2000 2000 false := by simpa [ofDevice, liveRecord] using hr
    exact absurd hplace (by decide +kernel)
  | n + 2 => simp at hb

end Orbetra
