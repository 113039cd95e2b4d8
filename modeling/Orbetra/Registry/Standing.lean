import Orbetra.Registry.Rehydrate

/-!
# What the registry should say

The registry agrees with the database in every facet that nobody has still to publish (`Standing`).
Each command keeps it so, where what it says of a device is still so or another operation has to say
otherwise, and leaves the duties of the others as they are (`Onward`). -/

namespace Orbetra.Rehydrate

open Function List Prod Bool

open Billing (Registry RegistryDevice)

variable {ι : Type}

namespace RegistryStore

variable (s : RegistryStore ι)

def Has (d : RegistryDevice) : Prop := ∃ retired, s.devices.row d.id = some ⟨d, retired⟩

/-- A device in service that nobody is retiring. -/
structure Serving (id : ℕ) (d : DeviceRow) : Prop where
  row : s.devices.row id = some d
  live : d.retired = false
  stays : ∀ t, (t, id) ∉ s.leaving

/-- The rebuild has not to publish a device of the tenant. -/
def Cleared (tenantId : String) : Prop :=
  ∀ f id d, s.devices.row id = some d → d.tenantId = tenantId → s.owing f id ≠ some none

variable {s}

lemma wanted_iff {id : ℕ} : s.wanted id = true ↔ ∃ d, s.Serving id d ∧
    (s.suspended d.tenantId = false ∨ ∃ t, (t, d.tenantId) ∈ s.returning) := by
  unfold wanted
  rw [Option.any_eq_true]
  refine exists_congr fun d => ?_
  simp only [and_eq_true, or_eq_true, not_eq_true', any_eq_true,
    any_eq_false, decide_eq_true_eq, Prod.exists, exists_eq_right]
  constructor
  · rintro ⟨hrow, ⟨hlive, hstays⟩, hopen⟩
    exact ⟨⟨hrow, hlive, fun t ht => hstays (t, id) ht rfl⟩, hopen⟩
  · rintro ⟨⟨hrow, hlive, hstays⟩, hopen⟩
    refine ⟨hrow, ⟨hlive, ?_⟩, hopen⟩
    rintro ⟨t, id'⟩ ht rfl
    exact hstays t ht

lemma wanted_of_serving {id : ℕ} {d : DeviceRow} (h : s.Serving id d) : s.wanted id = true ↔
    (s.suspended d.tenantId = false ∨ ∃ t, (t, d.tenantId) ∈ s.returning) := by
  refine wanted_iff.trans ⟨?_, fun hopen => ⟨d, h, hopen⟩⟩
  rintro ⟨d', h', hopen⟩
  cases h.row.symm.trans h'.row
  exact hopen

lemma leftTo_iff [DecidableEq ι] {me : Option ι} {f : Facet} {id : ℕ} :
    s.leftTo me f id = true ↔ ∃ j, some j ≠ me ∧ s.owing f id = some (some j) := by
  unfold leftTo
  rw [Option.any_eq_true]
  constructor
  · rintro ⟨t, ht, hother⟩
    simp only [and_eq_true, decide_eq_true_eq] at hother
    obtain ⟨j, rfl⟩ := Option.isSome_iff_exists.1 hother.1
    exact ⟨j, hother.2, ht⟩
  · rintro ⟨j, hother, hj⟩
    exact ⟨some j, hj, by simp [hother]⟩

end RegistryStore

lemma DeviceTable.id_eq {t : DeviceTable} {id : ℕ} {d : DeviceRow} (h : t.row id = some d) :
    d.id = id := (t.serial h).1

/-- The device was retired before the run. -/
def RegistryStore.Former (s : RegistryStore ι) (id : ℕ) (d : DeviceRow) : Prop :=
  d.retired = true ∧ ∀ t, (t, id) ∉ s.leaving

/-- The registry agrees with the database in what nobody has still to publish. -/
structure Standing (s : RegistryStore ι) : Prop where
  mapped : ∀ {id d}, s.devices.row id = some d → s.owing .imei id = none → s.wanted id = true →
    s.registry.imei d.imei = some id
  unmapped : ∀ {id d}, s.devices.row id = some d → s.owing .imei id = none →
    s.registry.imei d.imei = some id → s.wanted id = true ∨ s.Former id d
  member : ∀ {id d}, s.devices.row id = some d → s.owing .index id = none → s.wanted id = true →
    s.registry.tenant id = some d.tenantId ∧ id ∈ s.registry.tenantDevices d.tenantId
  live : ∀ {f id t}, s.owing f id = some t → ∃ d, s.Serving id d
  own : ∀ {imei id}, s.registry.imei imei = some id →
    id < s.devices.nextId ∧ ∀ d, s.devices.row id = some d → d.imei = imei
  cleared : ∀ {t tenantId}, (t, tenantId) ∈ s.returning → s.Cleared tenantId
  known : ∀ {t id}, (t, id) ∈ s.leaving → ∃ d, s.devices.row id = some d

/-- A thread about whom a step of `me` says nothing new; of the rebuild no step does. -/
def Foreign (me t : Option ι) : Prop := t ≠ me ∨ t = none

/-- What a step of `me` leaves to the others. -/
structure Onward (me : Option ι) (s s' : RegistryStore ι) : Prop where
  row : ∀ {id d}, s.devices.row id = some d → ∃ retired,
    s'.devices.row id = some ⟨d.toRegistryDevice, retired⟩ ∧ (d.retired = true → retired = true)
  owing : ∀ {t f id}, Foreign me t → s'.owing f id = some t →
    s.owing f id = some t ∧ s'.wanted id = s.wanted id
  leaving : ∀ {t id}, Foreign me t → ((t, id) ∈ s'.leaving ↔ (t, id) ∈ s.leaving)
  returning : ∀ {t tenantId}, Foreign me t →
    ((t, tenantId) ∈ s'.returning ↔ (t, tenantId) ∈ s.returning)
  suspended : ∀ {tenantId b}, s.suspended tenantId = b ∨ s.Cleared tenantId →
    s'.suspended tenantId = b ∨ s'.Cleared tenantId
  tenant : ∀ {id d}, me ≠ none → s.devices.row id = some d → s.wanted id = true →
    s.registry.tenant id = some d.tenantId → s'.owing .index id = some none →
    s'.registry.tenant id = some d.tenantId

def Mine (me : Option ι) (s s' : RegistryStore ι) : Prop :=
  Standing s → Standing s' ∧ Onward me s s'

/-- A step of another thread. -/
def Others (me : Option ι) (s s' : RegistryStore ι) : Prop :=
  Standing s → Standing s' ∧ ∃ t, t ≠ me ∧ Onward t s s'

section Basic

variable {s s' : RegistryStore ι} {me t : Option ι} {f g : Facet} {id id' : ℕ} {d : DeviceRow}

lemma Foreign.of_ne (h : t ≠ me) : Foreign me t := .inl h

/-- The rebuild gets nothing more to publish. -/
lemma Onward.cleared (h : Onward me s s') (hs : Standing s) {tenantId : String}
    (hcleared : s.Cleared tenantId) : s'.Cleared tenantId := by
  intro f id d hd htenant howing
  obtain ⟨howing, -⟩ := h.owing (.inr rfl) howing
  obtain ⟨d₀, hd₀⟩ := hs.live howing
  obtain ⟨retired, hrow, -⟩ := h.row hd₀.row
  cases hrow.symm.trans hd
  exact hcleared f id d₀ hd₀.row htenant howing

lemma Onward.has (h : Onward me s s') {d : RegistryDevice} (hd : s.Has d) : s'.Has d := by
  obtain ⟨retired, hrow⟩ := hd
  obtain ⟨retired', hrow', -⟩ := h.row hrow
  exact ⟨retired', hrow'⟩

lemma Onward.refl (me : Option ι) (s : RegistryStore ι) : Onward me s s where
  row h := ⟨_, h, id⟩
  owing _ h := ⟨h, rfl⟩
  leaving _ := Iff.rfl
  returning _ := Iff.rfl
  suspended h := h
  tenant _ _ _ h _ := h

lemma Mine.refl (me : Option ι) (s : RegistryStore ι) : Mine me s s := fun hs => ⟨hs, .refl me s⟩

end Basic

/-! ## Writes to the registry -/

structure Publishes (me : Option ι) (s s' : RegistryStore ι) : Prop where
  devices : s'.devices = s.devices
  suspended : s'.suspended = s.suspended
  leaving : s'.leaving = s.leaving
  returning : s'.returning = s.returning
  owing : ∀ f id, s'.owing f id = s.owing f id ∨ s'.owing f id = none ∧ s.owing f id = some me

/-- The step is right about the IMEIs. -/
structure KeepsImei (s s' : RegistryStore ι) : Prop where
  mapped : ∀ {id d}, s.devices.row id = some d → s'.owing .imei id = none → s.wanted id = true →
    s'.registry.imei d.imei = some id
  unmapped : ∀ {id d}, s.devices.row id = some d → s'.owing .imei id = none →
    s'.registry.imei d.imei = some id → s.wanted id = true ∨ s.Former id d
  own : ∀ {imei id}, s'.registry.imei imei = some id → s.registry.imei imei = some id ∨
    ∃ d, s.devices.row id = some d ∧ d.imei = imei

/-- The step is right about the indexes. -/
structure KeepsIndex (me : Option ι) (s s' : RegistryStore ι) : Prop where
  member : ∀ {id d}, s.devices.row id = some d → s'.owing .index id = none → s.wanted id = true →
    s'.registry.tenant id = some d.tenantId ∧ id ∈ s'.registry.tenantDevices d.tenantId
  tenant : ∀ {id d}, me ≠ none → s.devices.row id = some d → s.wanted id = true →
    s.registry.tenant id = some d.tenantId → s'.owing .index id = some none →
    s'.registry.tenant id = some d.tenantId

section Registry

variable {s s' : RegistryStore ι} {me : Option ι} {d : RegistryDevice}

lemma Publishes.wanted (h : Publishes me s s') (id : ℕ) : s'.wanted id = s.wanted id := by
  unfold RegistryStore.wanted
  rw [h.devices, h.suspended, h.leaving, h.returning]

lemma Publishes.serving (h : Publishes me s s') {id : ℕ} {d : DeviceRow} (hd : s.Serving id d) :
    s'.Serving id d :=
  ⟨h.devices ▸ hd.row, hd.live, fun t => h.leaving ▸ hd.stays t⟩

/-- What is still owed was owed before. -/
lemma Publishes.owing_of_some (h : Publishes me s s') {f : Facet} {id : ℕ} {t : Option ι}
    (ht : s'.owing f id = some t) : s.owing f id = some t := by
  obtain hsame | ⟨hnone, -⟩ := h.owing f id
  · rw [← hsame]
    exact ht
  · rw [hnone] at ht
    cases ht

lemma Publishes.cleared (h : Publishes me s s') {tenantId : String}
    (hcleared : s.Cleared tenantId) : s'.Cleared tenantId := by
  intro f id d hd htenant howing
  rw [h.devices] at hd
  exact hcleared f id d hd htenant (h.owing_of_some howing)

lemma Publishes.mine (h : Publishes me s s') (himei : Standing s → KeepsImei s s')
    (hindex : Standing s → KeepsIndex me s s') : Mine me s s' := by
  intro hs
  refine ⟨?_, ?_⟩
  · constructor
    · intro id d hd howing hwanted
      rw [h.devices] at hd
      rw [h.wanted] at hwanted
      exact (himei hs).mapped hd howing hwanted
    · intro id d hd howing hmapped
      rw [h.devices] at hd
      rw [h.wanted, RegistryStore.Former, h.leaving]
      exact (himei hs).unmapped hd howing hmapped
    · intro id d hd howing hwanted
      rw [h.devices] at hd
      rw [h.wanted] at hwanted
      exact (hindex hs).member hd howing hwanted
    · intro f id t ht
      obtain ⟨d, hd⟩ := hs.live (h.owing_of_some ht)
      exact ⟨d, h.serving hd⟩
    · intro imei id hid
      rw [h.devices]
      obtain hold | ⟨d, hd, rfl⟩ := (himei hs).own hid
      · exact hs.own hold
      · refine ⟨(s.devices.serial hd).2, fun d' hd' => ?_⟩
        cases hd.symm.trans hd'
        rfl
    · intro t tenantId ht
      rw [h.returning] at ht
      exact h.cleared (hs.cleared ht)
    · intro t id ht
      rw [h.leaving] at ht
      rw [h.devices]
      exact hs.known ht
  · constructor
    · intro id d hd
      exact ⟨d.retired, h.devices ▸ hd, fun hretired => hretired⟩
    · intro t f id _ ht
      exact ⟨h.owing_of_some ht, h.wanted id⟩
    · intro t id _
      rw [h.leaving]
    · intro t tenantId _
      rw [h.returning]
    · intro tenantId b hb
      rw [h.suspended]
      exact hb.imp_right h.cleared
    · intro id d hme hd hwanted htenant howing
      exact (hindex hs).tenant hme hd hwanted htenant howing

lemma keepsImei_of_eq (himei : s'.registry.imei = s.registry.imei)
    (howing : s'.owing .imei = s.owing .imei) (hs : Standing s) : KeepsImei s s' where
  mapped hd hnone hwanted := by
    rw [howing] at hnone
    rw [himei]
    exact hs.mapped hd hnone hwanted
  unmapped hd hnone hmapped := by
    rw [howing] at hnone
    rw [himei] at hmapped
    exact hs.unmapped hd hnone hmapped
  own hid := .inl (himei ▸ hid)

lemma keepsIndex_of_eq (htenant : s'.registry.tenant = s.registry.tenant)
    (hdevices : s'.registry.tenantDevices = s.registry.tenantDevices)
    (howing : s'.owing .index = s.owing .index) (hs : Standing s) : KeepsIndex me s s' where
  member hd hnone hwanted := by
    rw [howing] at hnone
    rw [htenant, hdevices]
    exact hs.member hd hnone hwanted
  tenant _ _ _ h _ := by
    rw [htenant]
    exact h

end Registry

section Settle

variable [DecidableEq ι] {s s' : RegistryStore ι} {me : Option ι} {d : RegistryDevice}

lemma owing_settle (me : Option ι) (f g : Facet) (id id' : ℕ) :
    (s.settle me f id).owing g id' = s.owing g id' ∨ (s.settle me f id).owing g id' = none ∧
      s.owing g id' = some me ∧ g = f ∧ id' = id := by
  unfold RegistryStore.settle
  dsimp only
  split
  · rename_i h
    obtain ⟨rfl, rfl, howing⟩ := h
    exact .inr ⟨rfl, howing, rfl, rfl⟩
  · exact .inl rfl

lemma owing_settle_self (f : Facet) (id : ℕ) : (s.settle me f id).owing f id ≠ some me := by
  unfold RegistryStore.settle
  dsimp only
  split
  · exact nofun
  · rename_i h
    exact fun howing => h ⟨rfl, rfl, howing⟩

lemma Publishes.settle (h : Publishes me s s') (f : Facet) (id : ℕ) :
    Publishes me s (s'.settle me f id) where
  devices := h.devices
  suspended := h.suspended
  leaving := h.leaving
  returning := h.returning
  owing g id' := by
    obtain hsame | ⟨hnone, howing, -⟩ := owing_settle (s := s') me f g id id'
    · rw [hsame]
      exact h.owing g id'
    · exact .inr ⟨hnone, h.owing_of_some howing⟩

omit [DecidableEq ι] in
lemma publishes_registry (me : Option ι) (s : RegistryStore ι) (registry : Registry) :
    Publishes me s { s with registry := registry } := ⟨rfl, rfl, rfl, rfl, fun _ _ => .inl rfl⟩

def Settled (me : Option ι) (s s' : RegistryStore ι) (f : Facet) (id : ℕ) : Prop :=
  ∀ id', s'.owing f id' ≠ s.owing f id' → id' = id ∧ s.owing f id' = some me ∧ s'.owing f id' = none

lemma settled_settle (me : Option ι) (s : RegistryStore ι) (f : Facet) (id : ℕ) :
    Settled me s (s.settle me f id) f id := by
  intro id' hne
  obtain hsame | ⟨hnone, howing, -, hid⟩ := owing_settle (s := s) me f f id id'
  · exact absurd hsame hne
  · exact ⟨hid, howing, hnone⟩

lemma index_settle (s : RegistryStore ι) (me : Option ι) (id : ℕ) :
    (s.settle me .imei id).owing .index = s.owing .index := by
  funext id'
  obtain hsame | ⟨-, -, hfacet, -⟩ := owing_settle (s := s) me .imei .index id id'
  · exact hsame
  · cases hfacet

lemma imei_settle (s : RegistryStore ι) (me : Option ι) (id : ℕ) :
    (s.settle me .index id).owing .imei = s.owing .imei := by
  funext id'
  obtain hsame | ⟨-, -, hfacet, -⟩ := owing_settle (s := s) me .index .imei id id'
  · exact hsame
  · cases hfacet

omit [DecidableEq ι] in
lemma Settled.owing_of_ne {f : Facet} {id id' : ℕ} (h : Settled me s s' f id) (hne : id' ≠ id) :
    s'.owing f id' = s.owing f id' := by
  by_contra hchanged
  exact hne (h id' hchanged).1

omit [DecidableEq ι] in
/-- What another operation has to publish it still has to. -/
lemma Settled.owing_of_left {f : Facet} {id : ℕ} (h : Settled me s s' f id) {j : ι}
    (hother : some j ≠ me) (hj : s.owing f id = some (some j)) : s'.owing f id = some (some j) := by
  by_contra hchanged
  rw [← hj] at hchanged
  exact hother (Option.some.inj (hj.symm.trans (h id hchanged).2.1))

end Settle

/-! ### The IMEIs -/

section Imei

variable [DecidableEq ι] {s s' : RegistryStore ι} {me : Option ι} {d : RegistryDevice}

/-- A device that is wanted, or that another operation has to publish, is in service. -/
lemma Standing.serving (hs : Standing s) (hd : s.Has d) {f : Facet}
    (htime : s.wanted d.id = true ∨ s.leftTo me f d.id = true) :
    ∃ retired, s.Serving d.id ⟨d, retired⟩ := by
  obtain ⟨retired, hrow⟩ := hd
  have hserving : ∃ d', s.Serving d.id d' := by
    rcases htime with hwanted | hleft
    · obtain ⟨d', hd', -⟩ := RegistryStore.wanted_iff.1 hwanted
      exact ⟨d', hd'⟩
    · obtain ⟨j, -, hj⟩ := RegistryStore.leftTo_iff.1 hleft
      exact hs.live hj
  obtain ⟨d', hd'⟩ := hserving
  cases hrow.symm.trans hd'.row
  exact ⟨retired, hd'⟩

/-- A mapping is written in time. -/
lemma keepsImei_put (hs : Standing s) (hd : s.Has d)
    (himei : s'.registry.imei = update s.registry.imei d.imei (some d.id))
    (howing : Settled me s s' .imei d.id)
    (htime : s.wanted d.id = true ∨ s.leftTo me .imei d.id = true) : KeepsImei s s' := by
  obtain ⟨retired, hserving⟩ := hs.serving hd htime
  constructor
  · intro id d' hd' hnone hwanted
    by_cases hid : id = d.id
    · subst hid
      cases hserving.row.symm.trans hd'
      rw [himei]
      exact update_self ..
    · rw [howing.owing_of_ne hid] at hnone
      have hother : d'.imei ≠ d.imei := by
        intro hsame
        obtain ⟨d'', hd'', -⟩ := RegistryStore.wanted_iff.1 hwanted
        cases hd'.symm.trans hd''.row
        exact hid (s.devices.active_key hd' hserving.row hd''.live hserving.live hsame)
      rw [himei, update_of_ne hother]
      exact hs.mapped hd' hnone hwanted
  · intro id d' hd' hnone hmapped
    rw [himei] at hmapped
    by_cases hsame : d'.imei = d.imei
    · rw [hsame, update_self] at hmapped
      cases hmapped
      rcases htime with hwanted | hleft
      · exact .inl hwanted
      · obtain ⟨j, hother, hj⟩ := RegistryStore.leftTo_iff.1 hleft
        rw [howing.owing_of_left hother hj] at hnone
        cases hnone
    · rw [update_of_ne hsame] at hmapped
      have hid : id ≠ d.id := by
        rintro rfl
        cases hserving.row.symm.trans hd'
        exact hsame rfl
      rw [howing.owing_of_ne hid] at hnone
      exact hs.unmapped hd' hnone hmapped
  · intro imei id hmapped
    rw [himei] at hmapped
    obtain ⟨rfl, rfl⟩ | ⟨-, hmapped⟩ := update_some_eq_some.1 hmapped
    · exact .inr ⟨_, hserving.row, rfl⟩
    · exact .inl hmapped

lemma imei_hdelIfMine (r : Registry) (d : RegistryDevice) (imei : String) :
    (r.hdelIfMine d).imei imei = r.imei imei ∧ ¬ (imei = d.imei ∧ r.imei imei = some d.id) ∨
      (r.hdelIfMine d).imei imei = none ∧ imei = d.imei ∧ r.imei imei = some d.id := by
  unfold Registry.hdelIfMine
  split
  · rename_i hmine
    by_cases himei : imei = d.imei
    · subst himei
      exact .inr ⟨update_self .., rfl, hmine⟩
    · exact .inl ⟨update_of_ne himei .., fun h => himei h.1⟩
  · rename_i hmine
    exact .inl ⟨rfl, fun h => hmine (h.1 ▸ h.2)⟩

lemma tenant_hdelIfMine (r : Registry) (d : RegistryDevice) :
    (r.hdelIfMine d).tenant = r.tenant := by
  unfold Registry.hdelIfMine
  split <;> rfl

lemma tenantDevices_hdelIfMine (r : Registry) (d : RegistryDevice) :
    (r.hdelIfMine d).tenantDevices = r.tenantDevices := by
  unfold Registry.hdelIfMine
  split <;> rfl

lemma mapped_of_hdelIfMine {r : Registry} {imei : String} {id : ℕ}
    (h : (r.hdelIfMine d).imei imei = some id) :
    r.imei imei = some id ∧ ¬ (imei = d.imei ∧ id = d.id) := by
  rcases imei_hdelIfMine r d imei with ⟨hsame, hother⟩ | ⟨hgone, -⟩
  · rw [hsame] at h
    exact ⟨h, fun hmine => hother ⟨hmine.1, h.trans (congrArg some hmine.2)⟩⟩
  · exact nomatch hgone.symm.trans h

lemma mapped_hdelIfMine {r : Registry} {imei : String} {id : ℕ} (h : r.imei imei = some id)
    (hid : id ≠ d.id) : (r.hdelIfMine d).imei imei = some id := by
  rcases imei_hdelIfMine r d imei with ⟨hsame, -⟩ | ⟨-, -, hmine⟩
  · exact hsame.trans h
  · exact absurd (Option.some.inj (h.symm.trans hmine)) hid

/-- A mapping is deleted in time. -/
lemma keepsImei_hdelIfMine (hs : Standing s) (hd : s.Has d)
    (himei : s'.registry.imei = (s.registry.hdelIfMine d).imei)
    (howing : Settled me s s' .imei d.id)
    (htime : s.wanted d.id = true → s.leftTo me .imei d.id = true) : KeepsImei s s' := by
  obtain ⟨retired, hrow⟩ := hd
  constructor
  · intro id d' hd' hnone hwanted
    by_cases hid : id = d.id
    · subst hid
      obtain ⟨j, hother, hj⟩ := RegistryStore.leftTo_iff.1 (htime hwanted)
      rw [howing.owing_of_left hother hj] at hnone
      cases hnone
    · rw [howing.owing_of_ne hid] at hnone
      rw [himei]
      exact mapped_hdelIfMine (hs.mapped hd' hnone hwanted) hid
  · intro id d' hd' hnone hmapped
    rw [himei] at hmapped
    obtain ⟨hbefore, hother⟩ := mapped_of_hdelIfMine hmapped
    by_cases hid : id = d.id
    · subst hid
      cases hrow.symm.trans hd'
      exact absurd ⟨rfl, rfl⟩ hother
    · rw [howing.owing_of_ne hid] at hnone
      exact hs.unmapped hd' hnone hbefore
  · intro imei id hmapped
    rw [himei] at hmapped
    exact .inl (mapped_of_hdelIfMine hmapped).1

end Imei

/-! ### The indexes -/

section Index

variable [DecidableEq ι] {s s' : RegistryStore ι} {me : Option ι} {d : RegistryDevice}

omit [DecidableEq ι] in
lemma keepsIndex_put (hs : Standing s) (hd : s.Has d)
    (htenant : ∀ id, id ≠ d.id → s'.registry.tenant id = s.registry.tenant id)
    (hmember : ∀ id, id ≠ d.id → ∀ tenantId, id ∈ s.registry.tenantDevices tenantId →
      id ∈ s'.registry.tenantDevices tenantId)
    (howing : Settled me s s' .index d.id)
    (hown : s'.owing .index d.id = none → s.wanted d.id = true →
      s'.registry.tenant d.id = some d.tenantId ∧ d.id ∈ s'.registry.tenantDevices d.tenantId)
    (hrebuild : me ≠ none → s'.owing .index d.id = some none → s.wanted d.id = true →
      s'.registry.tenant d.id = some d.tenantId) : KeepsIndex me s s' := by
  obtain ⟨retired, hrow⟩ := hd
  constructor
  · intro id d' hd' hnone hwanted
    by_cases hid : id = d.id
    · subst hid
      cases hrow.symm.trans hd'
      exact hown hnone hwanted
    · rw [howing.owing_of_ne hid] at hnone
      obtain ⟨htenant', hmember'⟩ := hs.member hd' hnone hwanted
      exact ⟨(htenant id hid).trans htenant', hmember id hid _ hmember'⟩
  · intro id d' hme hd' hwanted htenant' howing'
    by_cases hid : id = d.id
    · subst hid
      cases hrow.symm.trans hd'
      exact hrebuild hme howing' hwanted
    · exact (htenant id hid).trans htenant'

lemma keepsIndex_srem (hs : Standing s) {tenantId : String} {gone : List ℕ}
    (htenant : s'.registry.tenant = s.registry.tenant)
    (hmember : ∀ t, s'.registry.tenantDevices t =
      if t = tenantId then (s.registry.tenantDevices t).filter (· ∉ gone)
      else s.registry.tenantDevices t)
    (howing : s'.owing .index = s.owing .index)
    (htime : ∀ id ∈ gone, s.registry.tenant id ≠ some tenantId ∨ s.wanted id = false ∨
      s.leftTo none .index id = true) : KeepsIndex none s s' where
  member {id d} hd hnone hwanted := by
    rw [howing] at hnone
    obtain ⟨htenant', hmember'⟩ := hs.member hd hnone hwanted
    refine ⟨htenant ▸ htenant', ?_⟩
    rw [hmember]
    split
    · rename_i hsame
      refine mem_filter.2 ⟨hmember', decide_eq_true fun hgone => ?_⟩
      rcases htime id hgone with hmoved | hunwanted | hleft
      · exact hmoved (hsame ▸ htenant')
      · rw [hwanted] at hunwanted
        cases hunwanted
      · obtain ⟨j, -, hj⟩ := RegistryStore.leftTo_iff.1 hleft
        rw [hnone] at hj
        cases hj
    · exact hmember'
  tenant hme := absurd rfl hme

end Index

/-! ### The commands that write to the registry -/

section Writes

variable [DecidableEq ι] {s : RegistryStore ι} {me : Option ι} {d : RegistryDevice}

lemma mine_activate (hd : s.Has d) (prevTenant : Option String)
    (htime : s.wanted d.id = true ∨ s.leftTo me .imei d.id = true) :
    Mine me s ((RegistryCommand.activate me d prevTenant).run s).1 := by
  have himei : Settled me s ((RegistryCommand.activate me d prevTenant).run s).1 .imei d.id := by
    have h := settled_settle me { s with registry := s.registry.activate d prevTenant } .imei d.id
    rw [Settled, ← imei_settle _ me d.id] at h
    exact h
  have hindex : Settled me s ((RegistryCommand.activate me d prevTenant).run s).1 .index d.id := by
    have h := settled_settle me (({ s with registry := s.registry.activate d prevTenant } :
      RegistryStore ι).settle me .imei d.id) .index d.id
    rw [Settled, index_settle] at h
    exact h
  refine (((publishes_registry me s _).settle .imei d.id).settle .index d.id).mine
    (fun hs => keepsImei_put hs hd rfl himei htime) fun hs => ?_
  refine keepsIndex_put hs hd (fun id hid => update_of_ne hid ..) (fun id hid t hmem => ?_)
    hindex (fun _ _ => ⟨update_self .., ?_⟩) fun _ _ _ => update_self ..
  · show id ∈ ite _ _ _
    split
    · exact mem_cons_of_mem _ (mem_filter.2 ⟨hmem, decide_eq_true hid⟩)
    split
    · exact mem_filter.2 ⟨hmem, decide_eq_true hid⟩
    · exact hmem
  · show d.id ∈ ite _ _ _
    rw [if_pos rfl]
    exact mem_cons_self

lemma mine_hsetImei (hd : s.Has d)
    (htime : s.wanted d.id = true ∨ s.leftTo none .imei d.id = true) :
    Mine none s ((RegistryCommand.hsetImei d).run s).1 := by
  refine ((publishes_registry none s _).settle .imei d.id).mine
    (fun hs => keepsImei_put hs hd rfl
      (settled_settle none { s with registry := _ } .imei d.id) htime)
    fun hs => keepsIndex_of_eq rfl rfl (index_settle { s with registry := _ } none d.id) hs

lemma mine_hdelIfMine (hd : s.Has d)
    (htime : s.wanted d.id = true → s.leftTo me .imei d.id = true) :
    Mine me s ((RegistryCommand.hdelIfMine me d true).run s).1 := by
  refine ((publishes_registry me s _).settle .imei d.id).mine
    (fun hs => keepsImei_hdelIfMine hs hd rfl
      (settled_settle me { s with registry := _ } .imei d.id) htime)
    fun hs => keepsIndex_of_eq (tenant_hdelIfMine _ d) (tenantDevices_hdelIfMine _ d)
      (index_settle { s with registry := _ } me d.id) hs

lemma mine_drop (hd : s.Has d) (keepLastFix : Bool)
    (htime : s.wanted d.id = true → s.leftTo me .index d.id = true) :
    Mine me s ((RegistryCommand.drop me d keepLastFix).run s).1 := by
  have hindex : Settled me s ((RegistryCommand.drop me d keepLastFix).run s).1 .index d.id :=
    settled_settle me { s with registry := _ } .index d.id
  refine ((publishes_registry me s _).settle .index d.id).mine
    (fun hs => keepsImei_of_eq rfl (imei_settle { s with registry := _ } me d.id) hs)
    fun hs => ?_
  · refine keepsIndex_put hs hd (fun id hid => update_of_ne hid ..)
      (fun id hid t hmem => ?_) hindex (fun hnone hwanted => ?_) fun _ hnone hwanted => ?_
    · show id ∈ ite _ _ _
      split
      · exact mem_filter.2 ⟨hmem, decide_eq_true hid⟩
      · exact hmem
    · obtain ⟨j, hother, hj⟩ := RegistryStore.leftTo_iff.1 (htime hwanted)
      exact nomatch (hindex.owing_of_left hother hj).symm.trans hnone
    · obtain ⟨j, hother, hj⟩ := RegistryStore.leftTo_iff.1 (htime hwanted)
      exact nomatch (hindex.owing_of_left hother hj).symm.trans hnone

lemma mine_hsetTenant (hd : s.Has d) : Mine none s ((RegistryCommand.hsetTenant d).run s).1 := by
  refine (publishes_registry none s _).mine (fun hs => keepsImei_of_eq rfl rfl hs) fun hs => ?_
  refine keepsIndex_put hs hd (fun id hid => update_of_ne hid ..) (fun _ _ _ hmem => hmem)
    (fun _ hne => absurd rfl hne) (fun hnone hwanted => ⟨update_self .., ?_⟩)
    fun hme => absurd rfl hme
  obtain ⟨retired, hrow⟩ := hd
  exact (hs.member hrow hnone hwanted).2

lemma mine_sadd (hd : s.Has d)
    (htenant : s.owing .index d.id = some none → s.wanted d.id = true →
      s.registry.tenant d.id = some d.tenantId) :
    Mine none s ((RegistryCommand.sadd d).run s).1 := by
  have hindex : Settled none s ((RegistryCommand.sadd d).run s).1 .index d.id :=
    settled_settle none { s with registry := _ } .index d.id
  refine ((publishes_registry none s _).settle .index d.id).mine
    (fun hs => keepsImei_of_eq rfl (imei_settle { s with registry := _ } none d.id) hs)
    fun hs => ?_
  · refine keepsIndex_put hs hd (fun _ _ => rfl) (fun id hid t hmem => ?_) hindex
      (fun hnone hwanted => ⟨?_, ?_⟩) fun hme => absurd rfl hme
    · show id ∈ ite _ _ _
      split
      · exact mem_cons_of_mem _ (mem_filter.2 ⟨hmem, decide_eq_true hid⟩)
      · exact hmem
    · show s.registry.tenant d.id = _
      by_cases hsame : s.owing .index d.id = none
      · obtain ⟨retired, hrow⟩ := hd
        exact (hs.member hrow hsame hwanted).1
      · exact htenant (hindex d.id fun h => hsame (h ▸ hnone)).2.1 hwanted
    · show d.id ∈ ite _ _ _
      rw [if_pos rfl]
      exact mem_cons_self

lemma mine_srem {tenantId : String} {gone : List ℕ}
    (htime : ∀ id ∈ gone, s.registry.tenant id ≠ some tenantId ∨ s.wanted id = false ∨
      s.leftTo none .index id = true) :
    Mine none s ((RegistryCommand.srem tenantId gone).run s).1 :=
  (publishes_registry none s _).mine (fun hs => keepsImei_of_eq rfl rfl hs)
    fun hs => keepsIndex_srem hs rfl (fun _ => rfl) rfl htime

omit [DecidableEq ι] in
/-- The account and the configuration. -/
lemma mine_registry (registry : Registry) (himei : registry.imei = s.registry.imei)
    (htenant : registry.tenant = s.registry.tenant)
    (hdevices : registry.tenantDevices = s.registry.tenantDevices) :
    Mine me s { s with registry := registry } :=
  (publishes_registry me s registry).mine (fun hs => keepsImei_of_eq himei rfl hs)
    fun hs => keepsIndex_of_eq htenant hdevices rfl hs

end Writes

/-! ## Changes of the database -/

section Changes

variable {s s' : RegistryStore ι} {me : Option ι}

structure Change (me : Option ι) (s s' : RegistryStore ι) : Prop where
  someone : me ≠ none
  registry : s'.registry = s.registry
  leaving : s'.leaving = s.leaving
  nextId : s.devices.nextId ≤ s'.devices.nextId
  row : ∀ {id d}, s.devices.row id = some d → s'.devices.row id = some d
  fresh : ∀ {id d}, s'.devices.row id = some d →
    s.devices.row id = some d ∨ s.devices.row id = none ∧ s.devices.nextId ≤ id ∧ d.retired = false
  returning : ∀ {t tenantId}, Foreign me t →
    ((t, tenantId) ∈ s'.returning ↔ (t, tenantId) ∈ s.returning)

lemma Change.serving (h : Change me s s') {id : ℕ} {d : DeviceRow} (hd : s.Serving id d) :
    (s.owed s' me).Serving id d := ⟨h.row hd.row, hd.live, fun t => h.leaving ▸ hd.stays t⟩

lemma owing_owed {f : Facet} {id : ℕ} {t : Option ι} (ht : (s.owed s' me).owing f id = some t) :
    s.owing f id = some t ∧ s'.wanted id = s.wanted id ∨ t = me ∧ s'.wanted id ≠ s.wanted id := by
  unfold RegistryStore.owed at ht
  dsimp only at ht
  split at ht
  · rename_i hsame
    exact .inl ⟨ht, hsame⟩
  · rename_i hchanged
    exact .inr ⟨(Option.some.inj ht).symm, hchanged⟩

lemma owing_owed_none {f : Facet} {id : ℕ} (h : (s.owed s' me).owing f id = none) :
    s.owing f id = none ∧ s'.wanted id = s.wanted id := by
  unfold RegistryStore.owed at h
  dsimp only at h
  split at h
  · rename_i hsame
    exact ⟨h, hsame⟩
  · cases h

lemma Change.standing (h : Change me s s') (hs : Standing s)
    (hcleared : ∀ {t tenantId}, (t, tenantId) ∈ s'.returning → (s.owed s' me).Cleared tenantId) :
    Standing (s.owed s' me) := by
  have hwanted : ∀ id, (s.owed s' me).wanted id = s'.wanted id := fun _ => rfl
  have hregistry : (s.owed s' me).registry = s.registry := h.registry
  have hleaving : (s.owed s' me).leaving = s.leaving := h.leaving
  constructor
  · intro id d hd hnone hwants
    obtain ⟨howing, hsame⟩ := owing_owed_none hnone
    rw [hwanted, hsame] at hwants
    rw [hregistry]
    obtain ⟨d', hd', -⟩ := RegistryStore.wanted_iff.1 hwants
    cases (h.row hd'.row).symm.trans hd
    exact hs.mapped hd'.row howing hwants
  · intro id d hd hnone hmapped
    obtain ⟨howing, hsame⟩ := owing_owed_none hnone
    rw [hregistry] at hmapped
    rw [hwanted, hsame, RegistryStore.Former, hleaving]
    obtain hold | ⟨-, hnew, -⟩ := h.fresh hd
    · exact hs.unmapped hold howing hmapped
    · exact absurd (hs.own hmapped).1 (Nat.not_lt.2 hnew)
  · intro id d hd hnone hwants
    obtain ⟨howing, hsame⟩ := owing_owed_none hnone
    rw [hwanted, hsame] at hwants
    rw [hregistry]
    obtain ⟨d', hd', -⟩ := RegistryStore.wanted_iff.1 hwants
    cases (h.row hd'.row).symm.trans hd
    exact hs.member hd'.row howing hwants
  · intro f id t ht
    obtain ⟨howing, -⟩ | ⟨-, hchanged⟩ := owing_owed ht
    · obtain ⟨d, hd⟩ := hs.live howing
      exact ⟨d, h.serving hd⟩
    · cases hwants : s'.wanted id with
      | true =>
        obtain ⟨d, hd, -⟩ := RegistryStore.wanted_iff.1 hwants
        exact ⟨d, hd.row, hd.live, hd.stays⟩
      | false =>
        have hbefore : s.wanted id = true := by
          rw [hwants] at hchanged
          exact eq_true_of_not_eq_false hchanged.symm
        obtain ⟨d, hd, -⟩ := RegistryStore.wanted_iff.1 hbefore
        exact ⟨d, h.serving hd⟩
  · intro imei id hmapped
    rw [hregistry] at hmapped
    obtain ⟨hlt, himei⟩ := hs.own hmapped
    refine ⟨hlt.trans_le h.nextId, fun d hd => ?_⟩
    obtain hold | ⟨-, hnew, -⟩ := h.fresh hd
    · exact himei d hold
    · exact absurd hlt (Nat.not_lt.2 hnew)
  · exact hcleared
  · intro t id ht
    rw [hleaving] at ht
    obtain ⟨d, hd⟩ := hs.known ht
    exact ⟨d, h.row hd⟩

lemma Change.onward (h : Change me s s')
    (hsuspended : ∀ {tenantId b}, s.suspended tenantId = b ∨ s.Cleared tenantId →
      s'.suspended tenantId = b ∨ (s.owed s' me).Cleared tenantId) :
    Onward me s (s.owed s' me) where
  row {id d} hd := ⟨d.retired, h.row hd, fun hretired => hretired⟩
  owing {t f id} ht howing := by
    obtain hold | ⟨rfl, -⟩ := owing_owed howing
    · exact hold
    · exact absurd (ht.resolve_left fun hne => hne rfl) h.someone
  leaving {t id} _ := by
    show (t, id) ∈ s'.leaving ↔ _
    rw [h.leaving]
  returning := h.returning
  suspended := hsuspended
  tenant {id d} _ _ _ htenant _ := by
    show s'.registry.tenant id = _
    rw [h.registry]
    exact htenant

/-- The rebuild gets nothing to publish. -/
lemma Change.cleared (h : Change me s s') (hs : Standing s) {tenantId : String}
    (hcleared : s.Cleared tenantId) : (s.owed s' me).Cleared tenantId := by
  intro f id d hd htenant howing
  obtain ⟨hold, -⟩ | ⟨hme, -⟩ := owing_owed howing
  · obtain ⟨d₀, hd₀⟩ := hs.live hold
    obtain rfl := Option.some.inj ((h.row hd₀.row).symm.trans hd)
    exact hcleared f id d₀ hd₀.row htenant hold
  · exact h.someone hme.symm

end Changes

section Operations

variable {s : RegistryStore ι} {me t : Option ι} {tenantId : String}

lemma change_insert (hme : me ≠ none) {devices : DeviceTable} {accountId imei config : String}
    (h : s.devices.insert tenantId accountId imei config = some devices) :
    Change me s { s with devices := devices } where
  someone := hme
  registry := rfl
  leaving := rfl
  nextId := by
    show _ ≤ devices.nextId
    rw [(DeviceTable.insert_eq_some h).2]
    exact Nat.le_succ _
  row {id d} hd := by
    show devices.row id = _
    have hne : id ≠ s.devices.nextId := by
      rintro rfl
      rw [s.devices.row_nextId] at hd
      cases hd
    rw [(DeviceTable.insert_eq_some h).1, update_of_ne hne]
    exact hd
  fresh {id d} hd := by
    rw [(DeviceTable.insert_eq_some h).1] at hd
    obtain ⟨rfl, rfl⟩ | ⟨-, hd⟩ := update_some_eq_some.1 hd
    · exact .inr ⟨s.devices.row_nextId, le_rfl, rfl⟩
    · exact .inl hd
  returning _ := Iff.rfl

lemma mine_insert [DecidableEq ι] (hme : me ≠ none) (tenantId accountId imei config : String) :
    Mine me s ((RegistryCommand.insert me tenantId accountId imei config).run s).1 := by
  unfold RegistryCommand.run
  dsimp only
  split
  · exact .refl me s
  · rename_i devices h
    have hchange := change_insert hme h
    intro hs
    exact ⟨hchange.standing hs fun ht => hchange.cleared hs (hs.cleared ht),
      hchange.onward fun hb => hb.imp_right (hchange.cleared hs)⟩

lemma change_suspend (hme : me ≠ none) :
    Change me s { s with suspended := update s.suspended tenantId true } where
  someone := hme
  registry := rfl
  leaving := rfl
  nextId := le_rfl
  row hd := hd
  fresh hd := .inl hd
  returning _ := Iff.rfl

/-- A tenant that is suspended is cleared: its devices are to be taken out, or have been published
by a restore. -/
lemma cleared_suspend (hs : Standing s) (hme : me ≠ none) (hopen : s.suspended tenantId = false) :
    (s.owed { s with suspended := update s.suspended tenantId true } me).Cleared tenantId := by
  intro f id d hd htenant howing
  obtain ⟨hold, hsame⟩ | ⟨hnone, -⟩ := owing_owed howing
  · obtain ⟨d₀, hd₀⟩ := hs.live hold
    cases hd₀.row.symm.trans hd
    have hwanted : s.wanted id = true :=
      (RegistryStore.wanted_of_serving hd₀).2 (.inl (htenant ▸ hopen))
    rw [hwanted] at hsame
    obtain ⟨d', hd', hreason⟩ := RegistryStore.wanted_iff.1 hsame
    cases hd'.row.symm.trans hd
    rcases hreason with hfalse | ⟨t, ht⟩
    · rw [htenant] at hfalse
      exact nomatch (update_self ..).symm.trans hfalse
    · exact hs.cleared ht f id _ hd₀.row rfl hold
  · exact hme hnone.symm

lemma mine_suspend [DecidableEq ι] (hme : me ≠ none) (tenantId : String) :
    Mine me s ((RegistryCommand.suspend me tenantId).run s).1 := by
  unfold RegistryCommand.run
  dsimp only
  split
  · exact .refl me s
  · rename_i hopen
    have hchange : Change me s
        { s with suspended := update s.suspended tenantId true } := change_suspend hme
    intro hs
    refine ⟨hchange.standing hs fun ht => hchange.cleared hs (hs.cleared ht),
      hchange.onward fun {tenantId' b} hb => ?_⟩
    by_cases htenant : tenantId' = tenantId
    · subst htenant
      exact .inr (cleared_suspend hs hme (eq_false_of_not_eq_true hopen))
    · refine hb.imp (fun hb => ?_) (hchange.cleared hs)
      exact (update_of_ne htenant ..).trans hb

lemma change_restore (hme : me ≠ none) :
    Change me s { s with returning := (me, tenantId) :: s.returning } where
  someone := hme
  registry := rfl
  leaving := rfl
  nextId := le_rfl
  row hd := hd
  fresh hd := .inl hd
  returning {t tenantId'} ht := by
    refine mem_cons.trans ⟨fun h => h.resolve_left fun h => ?_, .inr⟩
    obtain rfl : t = me := congrArg fst h
    exact hme (ht.resolve_left fun hne => hne rfl)

lemma cleared_restore (hs : Standing s) (hme : me ≠ none)
    (hsuspended : s.suspended tenantId = true ∨ s.Cleared tenantId) :
    (s.owed { s with returning := (me, tenantId) :: s.returning } me).Cleared tenantId := by
  rcases hsuspended with hsuspended | hcleared
  · intro f id d hd htenant howing
    obtain ⟨hold, hsame⟩ | ⟨hnone, -⟩ := owing_owed howing
    · obtain ⟨d₀, hd₀⟩ := hs.live hold
      obtain rfl := Option.some.inj (hd₀.row.symm.trans hd)
      have hwanted : s.wanted id = true := by
        rw [← hsame]
        refine RegistryStore.wanted_iff.2 ⟨d₀, ⟨hd, hd₀.live, hd₀.stays⟩, .inr ⟨me, ?_⟩⟩
        exact htenant ▸ mem_cons_self
      rcases (RegistryStore.wanted_of_serving hd₀).1 hwanted with hopen | ⟨t, ht⟩
      · rw [htenant, hsuspended] at hopen
        cases hopen
      · exact hs.cleared ht f id d₀ hd₀.row rfl hold
    · exact hme hnone.symm
  · exact (change_restore hme).cleared hs hcleared

lemma mine_restore [DecidableEq ι] (hme : me ≠ none)
    (hsuspended : s.suspended tenantId = true ∨ s.Cleared tenantId) :
    Mine me s ((RegistryCommand.registryDevicesFor me tenantId true).run s).1 := by
  have hchange : Change me s { s with returning := (me, tenantId) :: s.returning } :=
    change_restore hme
  intro hs
  refine ⟨hchange.standing hs fun {t tenantId'} ht => ?_,
    hchange.onward fun hb => hb.imp_right (hchange.cleared hs)⟩
  rcases mem_cons.1 ht with hnew | hold
  · obtain rfl : tenantId' = tenantId := congrArg snd hnew
    exact cleared_restore hs hme hsuspended
  · exact hchange.cleared hs (hs.cleared hold)

/-- Nothing has changed but what is owed, and `me` owes what is new. -/
lemma mine_owing {owing : Facet → ℕ → Option (Option ι)} (hme : me ≠ none)
    (howing : ∀ f id, owing f id = s.owing f id ∨ owing f id = some me ∧ ∃ d, s.Serving id d) :
    Mine me s { s with owing := owing } := by
  have hold : ∀ {t f id}, Foreign me t → owing f id = some t → s.owing f id = some t := by
    intro t f id ht h
    obtain hsame | ⟨hnew, -⟩ := howing f id
    · rw [← hsame]
      exact h
    · cases hnew.symm.trans h
      exact absurd (ht.resolve_left fun hne => hne rfl) hme
  have hnone : ∀ {f id}, owing f id = none → s.owing f id = none := by
    intro f id h
    obtain hsame | ⟨hnew, -⟩ := howing f id
    · rw [← hsame]
      exact h
    · exact nomatch hnew.symm.trans h
  have hcleared : ∀ {tenantId}, s.Cleared tenantId →
      RegistryStore.Cleared { s with owing := owing } tenantId :=
    fun h f id d hd htenant h' => h f id d hd htenant (hold (.inr rfl) h')
  intro hs
  refine ⟨?_, ?_⟩
  · refine ⟨fun hd h => hs.mapped hd (hnone h), fun hd h => hs.unmapped hd (hnone h),
      fun hd h => hs.member hd (hnone h), fun {f id t} h => ?_, hs.own,
      fun ht => hcleared (hs.cleared ht), hs.known⟩
    obtain ⟨d, hd⟩ : ∃ d, s.Serving id d := by
      obtain hsame | ⟨-, hserving⟩ := howing f id
      · exact hs.live (hsame.symm.trans h)
      · exact hserving
    exact ⟨d, hd.row, hd.live, hd.stays⟩
  · exact ⟨fun {id d} hd => ⟨d.retired, hd, fun hretired => hretired⟩,
      fun ht h => ⟨hold ht h, rfl⟩, fun _ => Iff.rfl, fun _ => Iff.rfl,
      fun hb => hb.imp_right hcleared, fun _ _ _ htenant _ => htenant⟩

lemma mine_toTearDown [DecidableEq ι] (hme : me ≠ none) :
    Mine me s ((RegistryCommand.registryDevicesFor me tenantId false).run s).1 := by
  refine mine_owing hme fun f id => ?_
  by_cases hcond : (s.devices.row id).any (fun d => d.tenantId = tenantId && !d.retired) &&
      !s.leaving.any (·.2 = id) && !s.wanted id
  · refine .inr ⟨if_pos hcond, ?_⟩
    simp only [and_eq_true, not_eq_true', Option.any_eq_true, any_eq_false,
      decide_eq_true_eq] at hcond
    obtain ⟨⟨⟨d, hd, -, hlive⟩, hstays⟩, -⟩ := hcond
    exact ⟨d, hd, hlive, fun t ht => hstays _ ht rfl⟩
  · exact .inl (if_neg hcond)

section Leave

variable [DecidableEq ι] {d : RegistryDevice}

omit [DecidableEq ι] in
lemma serving_leave {id : ℕ} {d' : DeviceRow} : (s.leave me d.id).Serving id d' ↔
    s.Serving id d' ∧ id ≠ d.id := by
  constructor
  · intro h
    refine ⟨⟨h.row, h.live, fun t ht => h.stays t (mem_cons_of_mem _ ht)⟩, ?_⟩
    rintro rfl
    exact h.stays me mem_cons_self
  · rintro ⟨h, hid⟩
    refine ⟨h.row, h.live, fun t ht => ?_⟩
    rcases mem_cons.1 ht with hnew | hold
    · exact hid (congrArg snd hnew)
    · exact h.stays t hold

omit [DecidableEq ι] in
lemma wanted_leave {id : ℕ} : (s.leave me d.id).wanted id = true ↔
    s.wanted id = true ∧ id ≠ d.id := by
  rw [RegistryStore.wanted_iff, RegistryStore.wanted_iff]
  simp only [serving_leave]
  constructor
  · rintro ⟨d', ⟨hd', hid⟩, hopen⟩
    exact ⟨⟨d', hd', hopen⟩, hid⟩
  · rintro ⟨⟨d', hd', hopen⟩, hid⟩
    exact ⟨d', ⟨hd', hid⟩, hopen⟩

omit [DecidableEq ι] in
lemma owing_leave {f : Facet} {id : ℕ} : (s.leave me d.id).owing f id =
    if id = d.id then none else s.owing f id := rfl

lemma mine_leave (hme : me ≠ none) (hd : s.Has d) :
    Mine me s ((RegistryCommand.hdelIfMine me d false).run s).1 := by
  intro hs
  have howing : ∀ {f id t}, (s.leave me d.id).owing f id = some t →
      id ≠ d.id ∧ s.owing f id = some t := by
    intro f id t h
    rw [owing_leave] at h
    split at h
    · cases h
    · rename_i hid
      exact ⟨hid, h⟩
  have hcleared : ∀ {tenantId}, s.Cleared tenantId → (s.leave me d.id).Cleared tenantId :=
    fun h f id d' hd' htenant h' => h f id d' hd' htenant (howing h').2
  obtain ⟨retired, hrow⟩ := hd
  refine ⟨⟨?_, ?_, ?_, ?_, ?_, ?_, ?_⟩, ⟨?_, ?_, ?_, ?_, ?_, ?_⟩⟩
  · intro id d' hd' hnone hwanted
    obtain ⟨hwanted, hid⟩ := wanted_leave.1 hwanted
    exact mapped_hdelIfMine (hs.mapped hd' ((if_neg hid).symm.trans hnone) hwanted) hid
  · intro id d' hd' hnone hmapped
    obtain ⟨hbefore, hother⟩ := mapped_of_hdelIfMine hmapped
    have hid : id ≠ d.id := by
      rintro rfl
      cases hrow.symm.trans hd'
      exact hother ⟨rfl, rfl⟩
    refine (hs.unmapped hd' ((if_neg hid).symm.trans hnone) hbefore).imp
      (fun hwanted => wanted_leave.2 ⟨hwanted, hid⟩) fun hformer => ⟨hformer.1, fun t ht => ?_⟩
    rcases mem_cons.1 ht with hnew | hold
    · exact hid (congrArg snd hnew)
    · exact hformer.2 t hold
  · intro id d' hd' hnone hwanted
    obtain ⟨hwanted, hid⟩ := wanted_leave.1 hwanted
    obtain ⟨htenant, hmember⟩ := hs.member hd' ((if_neg hid).symm.trans hnone) hwanted
    exact ⟨(congrFun (tenant_hdelIfMine ..) id).trans htenant,
      (congrFun (tenantDevices_hdelIfMine ..) _).symm ▸ hmember⟩
  · intro f id t h
    obtain ⟨hid, hold⟩ := howing h
    obtain ⟨d', hd'⟩ := hs.live hold
    have hserving : (s.leave me d.id).Serving id d' := serving_leave.2 ⟨hd', hid⟩
    exact ⟨d', hserving.row, hserving.live, hserving.stays⟩
  · exact fun hmapped => hs.own (mapped_of_hdelIfMine hmapped).1
  · exact fun ht => hcleared (hs.cleared ht)
  · intro t id ht
    rcases mem_cons.1 ht with hnew | hold
    · obtain rfl : id = d.id := congrArg snd hnew
      exact ⟨_, hrow⟩
    · exact hs.known hold
  · exact fun {id d'} hd' => ⟨d'.retired, hd', fun hretired => hretired⟩
  · intro t f id _ h
    obtain ⟨hid, hold⟩ := howing h
    exact ⟨hold, eq_iff_iff.2 (wanted_leave.trans (and_iff_left hid))⟩
  · intro t id ht
    refine mem_cons.trans ⟨fun h => h.resolve_left fun h => ?_, .inr⟩
    obtain rfl : t = me := congrArg fst h
    exact hme (ht.resolve_left fun hne => hne rfl)
  · exact fun _ => Iff.rfl
  · exact fun hb => hb.imp_right hcleared
  · exact fun {id d'} _ _ _ htenant _ => (congrFun (tenant_hdelIfMine ..) id).trans htenant

end Leave

section Retire

variable {id : ℕ}

lemma DeviceTable.row_retire {t : DeviceTable} {id' : ℕ} : (t.retire id).row id' =
    if id' = id then (t.row id').map fun d => { d with retired := true } else t.row id' := by
  show update t.row id _ id' = _
  by_cases hid : id' = id
  · subst hid
    rw [update_self, if_pos rfl]
  · rw [update_of_ne hid, if_neg hid]

lemma serving_retire (hleaving : (t, id) ∈ s.leaving) {id' : ℕ} {d : DeviceRow} :
    RegistryStore.Serving { s with devices := s.devices.retire id } id' d ↔ s.Serving id' d := by
  constructor
  · intro h
    have hid : id' ≠ id := by
      rintro rfl
      exact h.stays t hleaving
    have hrow := h.row
    rw [DeviceTable.row_retire, if_neg hid] at hrow
    exact ⟨hrow, h.live, h.stays⟩
  · intro h
    have hid : id' ≠ id := by
      rintro rfl
      exact h.stays t hleaving
    refine ⟨?_, h.live, h.stays⟩
    rw [DeviceTable.row_retire, if_neg hid]
    exact h.row

lemma wanted_retire (hleaving : (t, id) ∈ s.leaving) (id' : ℕ) :
    RegistryStore.wanted { s with devices := s.devices.retire id } id' = s.wanted id' := by
  rw [Bool.eq_iff_iff, RegistryStore.wanted_iff, RegistryStore.wanted_iff]
  exact exists_congr fun d => and_congr_left fun _ => serving_retire hleaving

lemma row_of_retire {t : DeviceTable} {id' : ℕ} {d : DeviceRow}
    (h : (t.retire id).row id' = some d) : ∃ old, t.row id' = some old ∧
      d.toRegistryDevice = old.toRegistryDevice ∧ (old.retired = true → d.retired = true) ∧
        (d.retired = false → d = old) := by
  rw [DeviceTable.row_retire] at h
  split at h
  · obtain ⟨old, hold, rfl⟩ := Option.map_eq_some_iff.1 h
    exact ⟨old, hold, rfl, fun _ => rfl, nofun⟩
  · exact ⟨d, h, rfl, fun hd => hd, fun _ => rfl⟩

lemma row_retire_of_row {t : DeviceTable} {id' : ℕ} {old : DeviceRow} (h : t.row id' = some old)
    (id : ℕ) :
    ∃ d, (t.retire id).row id' = some d ∧ d.toRegistryDevice = old.toRegistryDevice ∧
      (old.retired = true → d.retired = true) := by
  rw [DeviceTable.row_retire, h]
  split
  · exact ⟨_, rfl, rfl, fun _ => rfl⟩
  · exact ⟨_, rfl, rfl, fun hd => hd⟩

lemma mine_retire [DecidableEq ι] (hleaving : (t, id) ∈ s.leaving) :
    Mine me s ((RegistryCommand.retire id).run s).1 := by
  intro hs
  have hwanted : ∀ id', ((RegistryCommand.retire id).run s).1.wanted id' = s.wanted id' :=
    wanted_retire hleaving
  have hcleared : ∀ {tenantId}, s.Cleared tenantId →
      RegistryStore.Cleared { s with devices := s.devices.retire id } tenantId := by
    intro tenantId h f id' d hd htenant
    obtain ⟨old, hold, hsame, -⟩ := row_of_retire hd
    exact h f id' old hold ((congrArg RegistryDevice.tenantId hsame).symm.trans htenant)
  refine ⟨⟨?_, ?_, ?_, ?_, ?_, ?_, ?_⟩, ⟨?_, ?_, fun _ => Iff.rfl, fun _ => Iff.rfl,
    fun hb => hb.imp_right hcleared, ?_⟩⟩
  · intro id' d hd hnone hwants
    obtain ⟨old, hold, hsame, -⟩ := row_of_retire hd
    rw [hwanted] at hwants
    have himei : d.imei = old.imei := congrArg RegistryDevice.imei hsame
    rw [himei]
    exact hs.mapped hold hnone hwants
  · intro id' d hd hnone hmapped
    obtain ⟨old, hold, hsame, hretired, -⟩ := row_of_retire hd
    rw [hwanted]
    have himei : d.imei = old.imei := congrArg RegistryDevice.imei hsame
    rw [himei] at hmapped
    exact (hs.unmapped hold hnone hmapped).imp_right fun h => ⟨hretired h.1, h.2⟩
  · intro id' d hd hnone hwants
    obtain ⟨old, hold, hsame, -⟩ := row_of_retire hd
    rw [hwanted] at hwants
    have htenant : d.tenantId = old.tenantId := congrArg RegistryDevice.tenantId hsame
    rw [htenant]
    exact hs.member hold hnone hwants
  · intro f id' t' h
    obtain ⟨d, hd⟩ := hs.live h
    exact ⟨d, (serving_retire hleaving).2 hd⟩
  · intro imei id' hmapped
    obtain ⟨hlt, himei⟩ := hs.own hmapped
    refine ⟨hlt, fun d hd => ?_⟩
    obtain ⟨old, hold, hsame, -⟩ := row_of_retire hd
    exact (congrArg RegistryDevice.imei hsame).trans (himei old hold)
  · exact fun ht => hcleared (hs.cleared ht)
  · intro t' id' ht
    obtain ⟨old, hold⟩ := hs.known ht
    obtain ⟨d, hd, -⟩ := row_retire_of_row hold id
    exact ⟨d, hd⟩
  · intro id' old hold
    obtain ⟨d, hd, hsame, hretired⟩ := row_retire_of_row hold id
    exact ⟨d.retired, hsame ▸ hd, hretired⟩
  · exact fun _ h => ⟨h, hwanted _⟩
  · exact fun _ _ _ htenant _ => htenant

end Retire

section Unsuspend

variable [DecidableEq ι]

lemma wanted_unsuspend (hreturning : (me, tenantId) ∈ s.returning) (id : ℕ) :
    ((RegistryCommand.unsuspend me tenantId).run s).1.wanted id = s.wanted id := by
  rw [Bool.eq_iff_iff, RegistryStore.wanted_iff, RegistryStore.wanted_iff]
  refine exists_congr fun d => and_congr ⟨fun h => ⟨h.row, h.live, h.stays⟩,
    fun h => ⟨h.row, h.live, h.stays⟩⟩ ?_
  show (update s.suspended tenantId false d.tenantId = false ∨
    ∃ t, (t, d.tenantId) ∈ s.returning.filter (· ≠ (me, tenantId))) ↔ _
  by_cases htenant : d.tenantId = tenantId
  · rw [htenant, update_self]
    exact iff_of_true (.inl rfl) (.inr ⟨me, hreturning⟩)
  · rw [update_of_ne htenant]
    refine or_congr_right (exists_congr fun t => ?_)
    refine mem_filter.trans (and_iff_left (decide_eq_true fun h => htenant ?_))
    exact congrArg snd h

lemma mine_unsuspend (hme : me ≠ none) (hreturning : (me, tenantId) ∈ s.returning) :
    Mine me s ((RegistryCommand.unsuspend me tenantId).run s).1 := by
  intro hs
  have hwanted := wanted_unsuspend hreturning
  refine ⟨⟨?_, ?_, ?_, ?_, hs.own, ?_, hs.known⟩, ⟨fun {id d} hd => ⟨d.retired, hd, fun h => h⟩,
    fun _ h => ⟨h, hwanted _⟩, fun _ => Iff.rfl, ?_, ?_, fun _ _ _ htenant _ => htenant⟩⟩
  · exact fun hd hnone h => hs.mapped hd hnone ((hwanted _).symm.trans h)
  · exact fun hd hnone hmapped => (hs.unmapped hd hnone hmapped).imp_left (hwanted _).trans
  · exact fun hd hnone h => hs.member hd hnone ((hwanted _).symm.trans h)
  · intro f id t h
    obtain ⟨d, hd⟩ := hs.live h
    exact ⟨d, hd.row, hd.live, hd.stays⟩
  · exact fun ht => hs.cleared (mem_filter.1 ht).1
  · intro t tenantId' ht
    refine mem_filter.trans (and_iff_left (decide_eq_true fun h => ?_))
    obtain rfl : t = me := congrArg fst h
    exact hme (ht.resolve_left fun hne => hne rfl)
  · intro tenantId' b hb
    by_cases htenant : tenantId' = tenantId
    · subst htenant
      exact .inr (hs.cleared hreturning)
    · exact hb.imp_left (update_of_ne htenant ..).trans

end Unsuspend

end Operations

end Orbetra.Rehydrate
