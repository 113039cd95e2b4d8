import Orbetra.Settings.Branding

/-!
# What a branding points at

A path under a key of a branding is resolved while a row is served from it (`resolve_isSome`).  The
lock keeps the merges of `put` and `remove` apart (`locked_step`); the file a merge drops, and the
object `updateBranding` writes, it does not look after, and so the promise holds in the runs whose
moves do (`branding_holds`). -/

namespace Orbetra.Brand

open Function List Option Machine

/-! ## Paths and files -/

variable {path hash : Text} {mime : BrandAssetMime} {assets : Assets} {asset : Asset}
  {data : AssetData} {tenant tenant' : TenantId} {slot slot' : BrandAssetSlot}

lemma isHashPrefix_iff :
    isHashPrefix hash = true ↔ hash.length = 32 ∧ hash.all isHexDigit = true := by
  simp [isHashPrefix]

lemma parseAssetPath_eq_some : parseAssetPath path = some (hash, mime) ↔
    isHashPrefix hash = true ∧ path = brandRoot ++ (hash ++ '.' :: EXT mime) := by
  constructor
  · intro h
    unfold parseAssetPath at h
    dsimp only at h
    split at h
    · next hshape =>
      obtain ⟨rest, rfl⟩ := isPrefixOf_iff_prefix.1 hshape.1
      rw [drop_left] at h hshape
      have hrest : rest = rest.take 32 ++ rest.drop 32 := (take_append_drop 32 rest).symm
      split at h
      · next hext =>
        cases h
        exact ⟨hshape.2, by rw [← hext, ← hrest]⟩
      · split at h
        · next hext =>
          cases h
          exact ⟨hshape.2, by rw [← hext, ← hrest]⟩
        · cases h
    · cases h
  · rintro ⟨hhash, rfl⟩
    have hlength := (isHashPrefix_iff.1 hhash).1
    have htake : (hash ++ '.' :: EXT mime).take 32 = hash := take_left' hlength
    have hdrop : (hash ++ '.' :: EXT mime).drop 32 = '.' :: EXT mime := drop_left' hlength
    have hroot : brandRoot.isPrefixOf (brandRoot ++ (hash ++ '.' :: EXT mime)) = true :=
      isPrefixOf_iff_prefix.2 (prefix_append ..)
    unfold parseAssetPath
    dsimp only
    rw [drop_left, htake, hdrop, if_pos ⟨hroot, hhash⟩]
    cases mime with
    | png => exact if_pos rfl
    | svg => exact (if_neg (by decide)).trans (if_pos rfl)

lemma isHashPrefix_digits (sha256 : Sha256) : isHashPrefix (sha256.digits.take 32) = true := by
  refine isHashPrefix_iff.2 ⟨by rw [length_take, sha256.length_eq]; rfl, ?_⟩
  refine all_eq_true.2 fun c hc => ?_
  exact all_eq_true.1 sha256.hex c (mem_of_mem_take hc)

lemma parse_path : parseAssetPath data.path = some (data.sha256.digits.take 32, data.mime) :=
  parseAssetPath_eq_some.2 ⟨isHashPrefix_digits data.sha256, rfl⟩

lemma isBrandAssetPath_path : isBrandAssetPath data.path = true := isSome_of_eq_some parse_path

/-- **A path of ours is resolved iff a row is served from it.** -/
lemma resolve_isSome (h : isBrandAssetPath path = true) :
    (resolve assets path).isSome ↔ ∃ row ∈ assets.rows, row.data.path = path := by
  obtain ⟨⟨hash, mime⟩, hparse⟩ := isSome_iff_exists.1 h
  obtain ⟨hhash, rfl⟩ := parseAssetPath_eq_some.1 hparse
  have hmatch : ∀ row : Asset, (hash.isPrefixOf row.data.sha256.digits && row.data.mime == mime) ↔
      row.data.path = brandRoot ++ (hash ++ '.' :: EXT mime) := by
    intro row
    have hlength := (isHashPrefix_iff.1 hhash).1
    rw [Bool.and_eq_true, isPrefixOf_iff_prefix, beq_iff_eq]
    constructor
    · rintro ⟨⟨rest, hrest⟩, rfl⟩
      have htake : row.data.sha256.digits.take 32 = hash := by
        rw [← hrest, take_left' hlength]
      rw [AssetData.path, assetPath, htake]
    · intro hpath
      have hsame := (parseAssetPath_eq_some.2 ⟨hhash, hpath⟩).symm.trans parse_path
      cases hsame
      exact ⟨ take_prefix 32 _, rfl⟩
  unfold resolve
  rw [hparse]
  simp only [bind_some, byHash, hhash, not_true_eq_false, if_false, find?_isSome, hmatch]

variable {row : Asset}

lemma mem_delete :
    row ∈ (assets.delete tenant slot).rows ↔ row ∈ assets.rows ∧ ¬ row.IsOf tenant slot := by
  simp [Assets.delete]

lemma mem_upsert : row ∈ (assets.upsert tenant slot data).rows ↔
    row = ⟨tenant, slot, data, data.bytes.length⟩ ∨ row ∈ assets.rows ∧ ¬ row.IsOf tenant slot := by
  rw [← mem_delete]
  exact mem_cons

lemma eq_of_findUnique (hfind : assets.findUnique tenant slot = some asset)
    (hrow : row ∈ assets.rows) (hof : row.IsOf tenant slot) : row = asset := by
  have hasset := mem_of_find?_eq_some hfind
  have hof' : asset.IsOf tenant slot := by simpa using find?_some hfind
  by_contra hne
  have hsymm : Std.Symm fun a b : Asset => ¬ a.IsOf b.tenant b.slot :=
    ⟨fun a b hnot hof => hnot ⟨hof.1.symm, hof.2.symm⟩⟩
  have hpair : ¬ row.IsOf asset.tenant asset.slot := assets.pk.forall hrow hasset hne
  exact hpair ⟨hof.1.trans hof'.1.symm, hof.2.trans hof'.2.symm⟩

/-! ## What is stored -/

variable {s s' : State} {move : Move} {i : ℕ} {call : AssetCall} {before object : Branding}

lemma BRANDING_KEY_injective : Injective BRANDING_KEY := by
  intro slot slot' h
  cases slot <;> cases slot' <;> first | rfl | exact absurd h (by decide)

variable {text : Text}

lemma stored_eq_some : s.stored tenant slot = some text ↔
    asRecord (s.branding tenant) (BRANDING_KEY slot) = some (.text text) := by
  unfold State.stored
  split
  · next path hpath => rw [hpath, some.injEq, some.injEq, Value.text.injEq]
  · next hne => exact ⟨fun h => (nomatch h), fun h => absurd h (hne text)⟩

lemma mergePath_of_ne (h : slot' ≠ slot) :
    mergePath before slot data (BRANDING_KEY slot') = before (BRANDING_KEY slot') :=
  update_of_ne (fun heq => h (BRANDING_KEY_injective heq)) ..

lemma mergePath_self : mergePath before slot data (BRANDING_KEY slot) = some (.text data.path) :=
  update_self ..

lemma clearPath_eq : clearPath before slot asset =
    if before (BRANDING_KEY slot) = some (.text asset.data.path) then
      update before (BRANDING_KEY slot) none
    else before := by
  unfold clearPath
  cases hvalue : before (BRANDING_KEY slot) with
  | none => rfl
  | some value =>
    cases value with
    | other => exact (if_neg fun heq => nomatch heq).symm
    | text current =>
      by_cases hpath : current = asset.data.path
      · rw [hpath, if_pos rfl]
        exact if_pos ⟨isBrandAssetPath_path, rfl⟩
      · rw [if_neg fun heq => hpath (Value.text.inj (some.inj heq))]
        exact if_neg fun heq => hpath heq.2

lemma clearPath_of_ne (h : slot' ≠ slot) :
    clearPath before slot asset (BRANDING_KEY slot') = before (BRANDING_KEY slot') := by
  rw [clearPath_eq]
  split
  · exact update_of_ne (fun heq => h (BRANDING_KEY_injective heq)) ..
  · rfl

lemma clearPath_self (h : clearPath before slot asset (BRANDING_KEY slot) = some (.text text)) :
    before (BRANDING_KEY slot) = some (.text text) ∧ text ≠ asset.data.path := by
  rw [clearPath_eq] at h
  split at h
  · rw [update_self] at h
    cases h
  · next hnot =>
    refine ⟨h, ?_⟩
    rintro rfl
    exact hnot h

lemma asset?_eq_some : s.asset? i = some call ↔ s.calls[i]? = some (.asset call) := by
  unfold State.asset?
  split
  · next hi => rw [hi, some.injEq, some.injEq, Call.asset.injEq]
  · next hne => exact ⟨fun h => (nomatch h), fun h => absurd h (hne call)⟩

/-! ## The row of a tenant is locked -/

/-- Who is behind the lock holds it, and knows the branding. -/
def Locked (s : State) : Prop :=
  ∀ i call before, s.asset? i = some call → call.phase = .locked before →
    s.lock call.tenant = some i ∧ before = asRecord (s.branding call.tenant)

variable {new : Call} {j : ℕ} {other : AssetCall} {calls : List Call}

lemma asset?_set (h : (calls.set i new)[j]? = some (.asset other)) :
    (j = i ∧ new = .asset other) ∨ (j ≠ i ∧ calls[j]? = some (.asset other)) := by
  by_cases hne : i = j
  · subst hne
    rw [getElem?_set, if_pos rfl] at h
    split at h
    · exact .inl ⟨rfl, some.inj h⟩
    · cases h
  · rw [getElem?_set_ne hne] at h
    exact .inr ⟨Ne.symm hne, h⟩

lemma asset?_append (h : (calls ++ [new])[j]? = some (.asset other)) :
    new = .asset other ∨ calls[j]? = some (.asset other) := by
  rw [getElem?_append] at h
  split at h
  · exact .inr h
  · left
    obtain ⟨hj, hnew⟩ := List.getElem?_eq_some_iff.1 h
    simpa using hnew

/-- Who is behind the lock was there before. -/
lemma Locked.of_calls (h : Locked s) (hlock : s'.lock = s.lock)
    (hbranding : s'.branding = s.branding)
    (hcalls : ∀ (j : ℕ) (other : AssetCall) (before : Branding),
      s'.calls[j]? = some (.asset other) → other.phase = .locked before →
      s.calls[j]? = some (.asset other)) : Locked s' := by
  intro j other before hj hphase
  rw [hlock, hbranding]
  exact h j other before (asset?_eq_some.2 (hcalls j other before (asset?_eq_some.1 hj) hphase))
    hphase

lemma Locked.append (h : Locked s) (hcalls : s'.calls = s.calls ++ [new]) (hlock : s'.lock = s.lock)
    (hbranding : s'.branding = s.branding)
    (hnew : ∀ call, new = .asset call → call.phase = .waiting) : Locked s' := by
  refine h.of_calls hlock hbranding fun j other before hj hphase => ?_
  refine (asset?_append (hcalls ▸ hj)).resolve_left fun heq => ?_
  exact nomatch (hnew other heq).symm.trans hphase

lemma Locked.finish (h : Locked s) (hi : s.asset? i = some call) {before : Branding}
    (hphase : call.phase = .locked before) (hlock : s'.lock = s.lock) (hcalls : s'.calls = s.calls)
    (hbranding : ∀ tenant, tenant ≠ call.tenant → s'.branding tenant = s.branding tenant) :
    Locked (s'.finish i call) := by
  intro j other before' hj hphase'
  rcases asset?_set (asset?_eq_some.1 hj) with ⟨-, hnew⟩ | ⟨hne, hold⟩
  · cases hnew
    cases hphase'
  · have hother : s.asset? j = some other := asset?_eq_some.2 (hcalls ▸ hold)
    obtain ⟨hheld, hbefore⟩ := h j other before' hother hphase'
    have htenant : other.tenant ≠ call.tenant := by
      intro heq
      rw [heq] at hheld
      exact hne (some.inj (hheld.symm.trans (h i call before hi hphase).1))
    refine ⟨?_, ?_⟩
    · exact (update_of_ne htenant ..).trans (hlock ▸ hheld)
    · exact hbefore.trans (congrArg asRecord (hbranding _ htenant).symm)

/-- **The lock excludes**: a move keeps `Locked`. -/
lemma locked_step (h : Locked s) (hstep : step s move = some s') : Locked s' := by
  cases move with
  | put tenant slot data | remove tenant slot =>
    cases hstep
    refine h.append rfl rfl rfl ?_
    rintro call ⟨rfl⟩
    rfl
  | read tenant =>
    cases hstep
    exact h.append rfl rfl rfl nofun
  | lockBranding i =>
    obtain ⟨call, hi, hstep⟩ := bind_eq_some_iff.1 hstep
    dsimp only at hstep
    split at hstep
    · next hwaiting hfree =>
      cases hstep
      intro j other before hj hphase
      rcases asset?_set (asset?_eq_some.1 hj) with ⟨rfl, hnew⟩ | ⟨hne, hold⟩
      · cases hnew
        exact ⟨update_self .., (Phase.locked.inj hphase).symm⟩
      · obtain ⟨hheld, hbefore⟩ := h j other before (asset?_eq_some.2 hold) hphase
        refine ⟨(update_of_ne ?_ ..).trans hheld, hbefore⟩
        intro heq
        rw [heq] at hheld
        exact nomatch hheld.symm.trans hfree
    · cases hstep
  | commit i =>
    obtain ⟨call, hi, hstep⟩ := bind_eq_some_iff.1 hstep
    split at hstep
    · next before data hphase haction =>
      cases hstep
      refine h.finish hi hphase rfl rfl fun tenant hne => ?_
      exact update_of_ne hne ..
    · next before hphase haction =>
      cases hstep
      have hframe : (s.tick.remove call before).lock = s.lock ∧
          (s.tick.remove call before).calls = s.calls ∧ ∀ tenant, tenant ≠ call.tenant →
            (s.tick.remove call before).branding tenant = s.branding tenant := by
        unfold State.remove
        dsimp only
        split
        · exact ⟨rfl, rfl, fun _ _ => rfl⟩
        · exact ⟨rfl, rfl, fun tenant hne => update_of_ne hne ..⟩
      exact h.finish hi hphase hframe.1 hframe.2.1 hframe.2.2
    · cases hstep
  | fail i =>
    obtain ⟨call, hi, hstep⟩ := bind_eq_some_iff.1 hstep
    dsimp only at hstep
    split at hstep
    · cases hstep
      refine h.of_calls rfl rfl fun j other before hj hphase => ?_
      rcases asset?_set hj with ⟨-, hnew⟩ | ⟨-, hold⟩
      · cases hnew
        cases hphase
      · exact hold
    · next before hphase =>
      cases hstep
      exact h.finish hi hphase rfl rfl fun _ _ => rfl
    · cases hstep
  | updateBranding i object =>
    obtain ⟨call, hi, hstep⟩ := bind_eq_some_iff.1 hstep
    split at hstep
    · next hfree =>
      cases hstep
      intro j other before hj hphase
      rcases asset?_set (asset?_eq_some.1 hj) with ⟨-, hnew⟩ | ⟨-, hold⟩
      · cases hnew
      · obtain ⟨hheld, hbefore⟩ := h j other before (asset?_eq_some.2 hold) hphase
        refine ⟨hheld, hbefore.trans (congrArg asRecord (update_of_ne ?_ ..).symm)⟩
        intro heq
        rw [heq] at hheld
        exact nomatch hheld.symm.trans hfree.2
    · cases hstep

/-! ## The moves -/

/-- What the brandings and the files are to each other after every move. -/
structure Inv (s : State) : Prop where
  locked : Locked s
  resolved : s.Resolved
  referenced : s.Referenced

variable {last : TenantId → BrandAssetSlot → Option Op} {op : Option Op}

lemma lastOp_of_update (hne : ¬ (tenant' = tenant ∧ slot' = slot)) :
    update last tenant (update (last tenant) slot op) tenant' slot' = last tenant' slot' := by
  by_cases htenant : tenant' = tenant
  · subst htenant
    rw [update_self]
    exact update_of_ne (fun heq => hne ⟨rfl, heq⟩) ..
  · rw [update_of_ne htenant]

lemma lastOp_self : update last tenant (update (last tenant) slot op) tenant slot = op := by
  rw [update_self, update_self]

lemma stored_other {column : Branding}
    (hbranding : s'.branding = update s.branding tenant (some column))
    (hcolumn : ∀ other, other ≠ slot →
      column (BRANDING_KEY other) = asRecord (s.branding tenant) (BRANDING_KEY other))
    (hother : ¬ (tenant' = tenant ∧ slot' = slot)) :
    s'.stored tenant' slot' = s.stored tenant' slot' := by
  have hsame : asRecord (s'.branding tenant') (BRANDING_KEY slot') =
      asRecord (s.branding tenant') (BRANDING_KEY slot') := by
    rw [hbranding]
    by_cases htenant : tenant' = tenant
    · subst htenant
      rw [update_self]
      exact hcolumn slot' fun heq => hother ⟨rfl, heq⟩
    · rw [update_of_ne htenant]
  unfold State.stored
  rw [hsame]

lemma stored_congr (hbranding : s'.branding = s.branding) (tenant : TenantId)
    (slot : BrandAssetSlot) : s'.stored tenant slot = s.stored tenant slot := by
  unfold State.stored
  rw [hbranding]

/-- A move that changes neither brandings nor files. -/
lemma Inv.frame (h : Inv s) (hlocked : Locked s') (hbranding : s'.branding = s.branding)
    (hassets : s'.assets = s.assets) (hop : s'.lastOp = s.lastOp)
    (hread : s'.lastRead = s.lastRead) : Inv s' := by
  refine ⟨hlocked, fun tenant slot path hpath hasset => ?_,
    fun tenant slot began data hlast hlate => ?_⟩
  · rw [hassets]
    exact h.resolved tenant slot path (stored_congr hbranding tenant slot ▸ hpath) hasset
  · rw [stored_congr hbranding]
    exact h.referenced tenant slot began data (hop ▸ hlast) (hread ▸ hlate)

/-- **One slot is written, and the others keep their paths and their files.** -/
lemma Inv.commit {op : Op} (h : Inv s) (hlocked : Locked s')
    (hother : ∀ {tenant' slot'}, ¬ (tenant' = tenant ∧ slot' = slot) →
      s'.stored tenant' slot' = s.stored tenant' slot')
    (hkept : ∀ tenant' slot' path, ¬ (tenant' = tenant ∧ slot' = slot) →
      s.stored tenant' slot' = some path → isBrandAssetPath path = true →
      (resolve s.assets path).isSome → (resolve s'.assets path).isSome)
    (hown : ∀ path, s'.stored tenant slot = some path → isBrandAssetPath path = true →
      (resolve s'.assets path).isSome)
    (hop : s'.lastOp = update s.lastOp tenant (update (s.lastOp tenant) slot (some op)))
    (hput : ∀ began data, op = .put began data → s'.stored tenant slot = some data.path)
    (hread : s'.lastRead = s.lastRead) : Inv s' := by
  refine ⟨hlocked, fun tenant' slot' path hpath hasset => ?_,
    fun tenant' slot' began data hlast hlate => ?_⟩
  · by_cases heq : tenant' = tenant ∧ slot' = slot
    · obtain ⟨rfl, rfl⟩ := heq
      exact hown path hpath hasset
    · rw [hother heq] at hpath
      exact hkept tenant' slot' path heq hpath hasset (h.resolved tenant' slot' path hpath hasset)
  · rw [hop] at hlast
    by_cases heq : tenant' = tenant ∧ slot' = slot
    · obtain ⟨rfl, rfl⟩ := heq
      exact hput began data (some.inj (lastOp_self.symm.trans hlast))
    · rw [lastOp_of_update heq] at hlast
      rw [hother heq]
      exact h.referenced tenant' slot' began data hlast (hread ▸ hlate)

lemma Inv.put (h : Inv s) (hi : s.asset? i = some call) (haction : call.action = .put data)
    (hfits : Considerate s (.commit i)) (hlocked : Locked s')
    (hbranding : s'.branding = update s.branding call.tenant
      (some (mergePath (asRecord (s.branding call.tenant)) call.slot data)))
    (hassets : s'.assets = s.assets.upsert call.tenant call.slot data)
    (hop : s'.lastOp = update s.lastOp call.tenant
      (update (s.lastOp call.tenant) call.slot (some (.put call.began data))))
    (hread : s'.lastRead = s.lastRead) : Inv s' := by
  have hself : s'.stored call.tenant call.slot = some data.path := by
    rw [stored_eq_some, hbranding, update_self]
    exact mergePath_self
  refine h.commit hlocked (stored_other hbranding fun other hne => mergePath_of_ne hne)
    (fun tenant slot path hother hpath hasset hresolved => ?_) (fun path hpath hasset => ?_) hop
    (fun began data' heq => (Op.put.inj heq).2 ▸ hself) hread <;> rw [resolve_isSome hasset, hassets]
  · obtain ⟨row, hrow, rfl⟩ := (resolve_isSome hasset).1 hresolved
    by_cases hof : row.IsOf call.tenant call.slot
    · -- the row goes: another one is served from its path, or the new one is
      rcases hfits call hi row hrow hof tenant slot hother hpath with
        ⟨row', hrow', hnot, hsame⟩ | ⟨data', haction', hsame⟩
      · exact ⟨row', mem_upsert.2 (.inr ⟨hrow', hnot⟩), hsame⟩
      · cases haction.symm.trans haction'
        exact ⟨_, mem_upsert.2 (.inl rfl), hsame⟩
    · exact ⟨row, mem_upsert.2 (.inr ⟨hrow, hof⟩), rfl⟩
  · exact ⟨_, mem_upsert.2 (.inl rfl), some.inj (hself.symm.trans hpath)⟩

lemma Inv.remove (h : Inv s) (hi : s.asset? i = some call) (haction : call.action = .remove)
    (hfits : Considerate s (.commit i)) (hlocked : Locked s')
    (hfind : s.assets.findUnique call.tenant call.slot = some asset)
    (hbranding : s'.branding = update s.branding call.tenant
      (some (clearPath (asRecord (s.branding call.tenant)) call.slot asset)))
    (hassets : s'.assets = s.assets.delete call.tenant call.slot)
    (hop : s'.lastOp = update s.lastOp call.tenant
      (update (s.lastOp call.tenant) call.slot (some .remove)))
    (hread : s'.lastRead = s.lastRead) : Inv s' := by
  refine h.commit hlocked (stored_other hbranding fun other hne => clearPath_of_ne hne)
    (fun tenant slot path hother hpath hasset hresolved => ?_) (fun path hpath hasset => ?_) hop
    nofun hread <;> rw [resolve_isSome hasset, hassets]
  · obtain ⟨row, hrow, rfl⟩ := (resolve_isSome hasset).1 hresolved
    by_cases hof : row.IsOf call.tenant call.slot
    · rcases hfits call hi row hrow hof tenant slot hother hpath with
        ⟨row', hrow', hnot, hsame⟩ | ⟨data, haction', -⟩
      · exact ⟨row', mem_delete.2 ⟨hrow', hnot⟩, hsame⟩
      · exact nomatch haction.symm.trans haction'
    · exact ⟨row, mem_delete.2 ⟨hrow, hof⟩, rfl⟩
  · rw [stored_eq_some, hbranding, update_self] at hpath
    obtain ⟨hold, hne⟩ := clearPath_self hpath
    obtain ⟨row, hrow, rfl⟩ := (resolve_isSome hasset).1
      (h.resolved call.tenant call.slot path (stored_eq_some.2 hold) hasset)
    refine ⟨row, mem_delete.2 ⟨hrow, fun hof => hne ?_⟩, rfl⟩
    rw [eq_of_findUnique hfind hrow hof]

lemma Inv.forget (h : Inv s) (hlocked : Locked s') (hbranding : s'.branding = s.branding)
    (hassets : s'.assets = s.assets)
    (hop : s'.lastOp = update s.lastOp call.tenant
      (update (s.lastOp call.tenant) call.slot (some .remove)))
    (hread : s'.lastRead = s.lastRead) : Inv s' :=
  h.commit hlocked (fun _ => stored_congr hbranding ..)
    (fun _ _ _ _ _ _ hresolved => hassets ▸ hresolved)
    (fun path hpath => hassets ▸ h.resolved _ _ path (stored_congr hbranding .. ▸ hpath))
    hop nofun hread

lemma Inv.write {call : UpdateCall} (h : Inv s)
    (hpaths : ∀ slot path, object (BRANDING_KEY slot) = some (.text path) →
      isBrandAssetPath path = true → (resolve s.assets path).isSome)
    (hputs : ∀ slot began data, s.lastOp call.tenant slot = some (.put began data) →
      call.readAt < began → object (BRANDING_KEY slot) = some (.text data.path))
    (hlocked : Locked s')
    (hbranding : s'.branding = update s.branding call.tenant (some object))
    (hassets : s'.assets = s.assets) (hop : s'.lastOp = s.lastOp)
    (hread : s'.lastRead = update s.lastRead call.tenant (some call.readAt)) :
    Inv s' := by
  have hself : ∀ slot path, s'.stored call.tenant slot = some path ↔
      object (BRANDING_KEY slot) = some (.text path) := by
    intro slot path
    rw [stored_eq_some, hbranding, update_self]
    rfl
  have hother : ∀ tenant slot, tenant ≠ call.tenant →
      s'.stored tenant slot = s.stored tenant slot := by
    intro tenant slot hne
    unfold State.stored
    rw [hbranding, update_of_ne hne]
  refine ⟨hlocked, fun tenant slot path hpath hasset => ?_,
    fun tenant slot began data hlast hlate => ?_⟩
  · rw [hassets]
    by_cases htenant : tenant = call.tenant
    · subst htenant
      exact hpaths slot path ((hself slot path).1 hpath) hasset
    · exact h.resolved tenant slot path (hother tenant slot htenant ▸ hpath) hasset
  · rw [hop] at hlast
    by_cases htenant : tenant = call.tenant
    · subst htenant
      refine (hself slot data.path).2 (hputs slot began data hlast (hlate call.readAt ?_))
      rw [hread, update_self]
    · rw [hother tenant slot htenant]
      refine h.referenced tenant slot began data hlast fun readAt hread' => hlate readAt ?_
      rw [hread, update_of_ne htenant]
      exact hread'

/-- **A move keeps the accounts**, where it is considerate. -/
lemma inv_step (h : Inv s) (hfits : Considerate s move) (hstep : step s move = some s') :
    Inv s' := by
  have hlocked := locked_step h.locked hstep
  cases move with
  | put tenant slot data | remove tenant slot | read tenant =>
    cases hstep
    exact h.frame hlocked rfl rfl rfl rfl
  | lockBranding i =>
    obtain ⟨call, hi, hstep⟩ := bind_eq_some_iff.1 hstep
    dsimp only at hstep
    split at hstep
    · cases hstep
      exact h.frame hlocked rfl rfl rfl rfl
    · cases hstep
  | commit i =>
    obtain ⟨call, hi, hstep⟩ := bind_eq_some_iff.1 hstep
    split at hstep
    · next before data hphase haction =>
      cases hstep
      obtain ⟨-, rfl⟩ := h.locked i call before hi hphase
      exact h.put hi haction hfits hlocked rfl rfl rfl rfl
    · next before hphase haction =>
      cases hstep
      obtain ⟨-, rfl⟩ := h.locked i call before hi hphase
      unfold State.remove at hlocked ⊢
      dsimp only at hlocked ⊢
      split at hlocked
      · exact h.forget hlocked rfl rfl rfl rfl
      · next existing hfind =>
        exact h.remove hi haction hfits hlocked hfind rfl rfl rfl rfl
    · cases hstep
  | fail i =>
    obtain ⟨call, hi, hstep⟩ := bind_eq_some_iff.1 hstep
    dsimp only at hstep
    split at hstep
    · cases hstep
      exact h.frame hlocked rfl rfl rfl rfl
    · cases hstep
      exact h.frame hlocked rfl rfl rfl rfl
    · cases hstep
  | updateBranding i object =>
    obtain ⟨call, hi, hstep⟩ := bind_eq_some_iff.1 hstep
    split at hstep
    · next hfree =>
      cases hstep
      obtain ⟨hpaths, hputs⟩ := hfits call hi
      exact h.write hpaths hputs hlocked rfl rfl rfl rfl
    · cases hstep

/-! ## Runs -/

lemma inv_start : Inv start where
  locked _ _ _ hi _ := nomatch hi
  resolved _ _ _ hpath _ := nomatch hpath
  referenced _ _ _ _ hlast _ := nomatch hlast

/-- **Branding points at files that are there, and loses no upload**, in every run of considerate
moves. -/
theorem branding_holds {moves : List Move} (hfits : RunFits step Considerate start moves) :
    BrandingHolds moves := by
  rintro before s ⟨after, rfl⟩ hrun
  have h := run_keeps Inv (fun _ _ _ => inv_step) inv_start hfits.append.1 hrun
  exact ⟨h.resolved, fun _ => h.referenced⟩

def fileOf (digit : Char) (h : isHexDigit digit = true) : AssetData :=
  ⟨[0], .png, ⟨replicate 64 digit, length_replicate, by
    rw [all_replicate]
    simp [h]⟩, some 200, some 50⟩

def fileA : AssetData := fileOf 'a' (by decide)

def fileB : AssetData := fileOf 'b' (by decide)

def withFiles (logo : AssetData) (favicon : Option AssetData) : Branding
  | "logoUrl" => some (.text logo.path)
  | "faviconUrl" => favicon.map fun data => .text data.path
  | _ => none

/-- A logo is uploaded, and the form saved that was loaded after it. -/
theorem branding_holds_saved : BrandingHolds [.put "t" .logo fileA, .lockBranding 0, .commit 0,
    .read "t", .updateBranding 1 (withFiles fileA none)] := by
  refine branding_holds ⟨trivial, fun s₁ h₁ => ⟨trivial, fun s₂ h₂ => ⟨?_, fun s₃ h₃ =>
    ⟨trivial, fun s₄ h₄ => ⟨?_, fun _ _ => trivial⟩⟩⟩⟩⟩
  · cases h₁
    cases h₂
    exact fun call _ old hold => nomatch hold
  · cases h₁
    cases h₂
    cases h₃
    cases h₄
    intro call hcall
    cases hcall
    refine ⟨fun slot path hpath hasset => ?_, fun slot began data hlast hlate => ?_⟩
    · cases slot with
      | logo =>
        cases hpath
        decide +kernel
      | favicon => exact nomatch hpath
    · cases slot with
      | logo =>
        cases hlast
        exact absurd hlate (by decide)
      | favicon => exact nomatch hlast

/-- **The form brings back what it was loaded with.**  It is loaded with one logo and saved after
another has been uploaded: the branding points at the file that is gone, and not at the new one.
And a file that is logo and icon at once goes when the logo is replaced. -/
theorem save_brings_back :
    ¬ BrandingHolds [.put "t" .logo fileA, .lockBranding 0, .commit 0, .read "t",
      .put "t" .logo fileB, .lockBranding 2, .commit 2,
      .updateBranding 1 (withFiles fileA none)] ∧
    ¬ BrandingHolds [.put "t" .logo fileA, .lockBranding 0, .commit 0, .read "t",
      .updateBranding 1 (withFiles fileA (some fileA)), .put "t" .logo fileB, .lockBranding 2,
      .commit 2] := by
  constructor
  · intro h
    have hlost : ∃ s, run step start [.put "t" .logo fileA, .lockBranding 0, .commit 0,
        .read "t", .put "t" .logo fileB, .lockBranding 2, .commit 2,
        .updateBranding 1 (withFiles fileA none)] = some s ∧
          s.stored "t" .logo = some fileA.path ∧ (resolve s.assets fileA.path).isSome = false :=
      ⟨_, rfl, by decide +kernel, by decide +kernel⟩
    obtain ⟨s, hrun, hstored, hlost⟩ := hlost
    have hfound := (h _ s (prefix_refl _) hrun).1 "t" .logo _ hstored isBrandAssetPath_path
    cases hlost.symm.trans hfound
  · intro h
    have hlost : ∃ s, run step start [.put "t" .logo fileA, .lockBranding 0, .commit 0,
        .read "t", .updateBranding 1 (withFiles fileA (some fileA)), .put "t" .logo fileB,
        .lockBranding 2, .commit 2] = some s ∧
          s.stored "t" .favicon = some fileA.path ∧ (resolve s.assets fileA.path).isSome = false :=
      ⟨_, rfl, by decide +kernel, by decide +kernel⟩
    obtain ⟨s, hrun, hstored, hlost⟩ := hlost
    have hfound := (h _ s (prefix_refl _) hrun).1 "t" .favicon _ hstored isBrandAssetPath_path
    cases hlost.symm.trans hfound

end Orbetra.Brand
