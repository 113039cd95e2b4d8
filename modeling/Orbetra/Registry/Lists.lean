import Orbetra.Framework.Machine
import Orbetra.Registry.Rehydrate

/-!
# The registry under lists that are out of date

`activateDevice`, `deactivateDevice`, `suspendTenantDevices` and `restoreTenantDevices` of
`packages/registry`, one call after another.  A device is activated when its row is inserted and
deactivated before its row is retired; a suspension and a restore are handed the devices that
`registryDevicesFor` has read from the table as it is or as it was.

A deactivation deletes the mapping of an IMEI only if it is that of the device, an activation writes
it whatever it is.  So a late suspension harms nobody, and a late restore may: every IMEI leads to
its device after every call iff no restore takes the IMEI of another device or leaves out a device
that is not in the registry (`mapped_iff_restores_in_time`). -/

namespace Orbetra.Lists

open Function List Option Machine

open Billing (Registry RegistryDevice)
open Rehydrate (DeviceRow DeviceTable)

/-! ## `packages/registry` -/

def activateDevice (r : Registry) (d : RegistryDevice) : Registry := r.activate d (r.tenant d.id)

def deactivateDevice (r : Registry) (d : RegistryDevice) : Registry := (r.hdelIfMine d).drop d

def suspendTenantDevices (r : Registry) (devices : List RegistryDevice) : Registry :=
  devices.foldl deactivateDevice r

def restoreTenantDevices (r : Registry) (devices : List RegistryDevice) : Registry :=
  devices.foldl activateDevice r

/-! ## Calls -/

/-- The table, the tables that it was, the tenants that are suspended, and the registry. -/
structure State where
  devices : DeviceTable
  before : List DeviceTable
  suspended : String → Bool
  registry : Registry

def State.initial : State where
  devices :=
    { row := fun _ => none
      nextId := 0
      serial := fun h => nomatch h
      active_key := fun h => nomatch h }
  before := []
  suspended := fun _ => false
  registry := ⟨fun _ => none, fun _ => none, fun _ => none, fun _ => none, fun _ => []⟩

/-- `age` is how many changes of the table ago the list was read. -/
inductive Call
  | create (tenantId accountId imei config : String)
  | retire (id : ℕ)
  | suspend (tenantId : String) (age : ℕ)
  | restore (tenantId : String) (age : ℕ)
  deriving DecidableEq

/-- `registryDevicesFor`, some changes of the table ago. -/
def State.listed (s : State) (tenantId : String) (age : ℕ) : Option (List RegistryDevice) :=
  (s.devices :: s.before)[age]?.map (·.devicesFor tenantId)

/-- One call; `none` is a call that cannot be made. -/
def step (s : State) : Call → Option State
  | .create tenantId accountId imei config =>
    (s.devices.insert tenantId accountId imei config).map fun devices =>
      { s with
        devices
        before := s.devices :: s.before
        registry :=
          activateDevice s.registry ⟨s.devices.nextId, imei, tenantId, accountId, config⟩ }
  | .retire id =>
    (s.devices.row id).map fun d =>
      { s with
        devices := s.devices.retire id
        before := s.devices :: s.before
        registry := deactivateDevice s.registry d.toRegistryDevice }
  | .suspend tenantId age =>
    (s.listed tenantId age).map fun devices =>
      { s with
        suspended := update s.suspended tenantId true
        registry := suspendTenantDevices s.registry devices }
  | .restore tenantId age =>
    (s.listed tenantId age).map fun devices =>
      { s with
        suspended := update s.suspended tenantId false
        registry := restoreTenantDevices s.registry devices }

/-- What is promised of the registry. -/
structure Points (s : State) : Prop where
  mapped : ∀ id d, s.devices.row id = some d → d.retired = false → s.suspended d.tenantId = false →
    s.registry.imei d.imei = some id
  indexed : ∀ tenantId id, id ∈ s.registry.tenantDevices tenantId →
    ∀ named, s.registry.tenant id = some named → named = tenantId

/-- A restore takes no IMEI from a device of another tenant in service or from one that it leaves
out, and leaves out no device of its tenant that is not in the registry. -/
def RestoresInTime (s : State) : Call → Prop
  | .restore tenantId age => ∀ devices, s.listed tenantId age = some devices →
    (∀ d ∈ devices, ∀ id e, s.devices.row id = some e → e.retired = false → id ≠ d.id →
      e.imei = d.imei → s.suspended e.tenantId = true ∧ e.tenantId ≠ tenantId) ∧
    ∀ id e, s.devices.row id = some e → e.retired = false → e.tenantId = tenantId →
      e.toRegistryDevice ∈ devices ∨ s.registry.imei e.imei = some id
  | _ => True

/-! ## The mapping of an IMEI -/

variable {s s' : State} {r : Registry} {devices : List RegistryDevice} {imei : String}

lemma activateDevice_imei (d : RegistryDevice) :
    (activateDevice r d).imei = update r.imei d.imei (some d.id) := rfl

variable {d : RegistryDevice}

lemma deactivateDevice_imei (h : d.imei = imei → r.imei imei ≠ some d.id) :
    (deactivateDevice r d).imei imei = r.imei imei := by
  show (r.hdelIfMine d).imei imei = _
  unfold Registry.hdelIfMine
  split
  · rename_i hmine
    have hne : imei ≠ d.imei := by
      rintro rfl
      exact h rfl hmine
    exact update_of_ne hne _ _
  · rfl

lemma suspendTenantDevices_imei (h : ∀ d ∈ devices, d.imei = imei → r.imei imei ≠ some d.id) :
    (suspendTenantDevices r devices).imei imei = r.imei imei := by
  induction devices generalizing r with
  | nil => rfl
  | cons d devices ih =>
    have hfirst := deactivateDevice_imei (h d mem_cons_self)
    refine (ih fun d' hd' himei => ?_).trans hfirst
    rw [hfirst]
    exact h d' (mem_cons_of_mem d hd') himei

lemma restoreTenantDevices_other (h : ∀ d ∈ devices, d.imei ≠ imei) :
    (restoreTenantDevices r devices).imei imei = r.imei imei := by
  induction devices generalizing r with
  | nil => rfl
  | cons d devices ih =>
    refine (ih fun d' hd' => h d' (mem_cons_of_mem d hd')).trans ?_
    rw [activateDevice_imei, update_of_ne (h d mem_cons_self).symm]

lemma restoreTenantDevices_mine {id : ℕ} (hsome : ∃ d ∈ devices, d.imei = imei)
    (h : ∀ d ∈ devices, d.imei = imei → d.id = id) :
    (restoreTenantDevices r devices).imei imei = some id := by
  induction devices generalizing r with
  | nil =>
    obtain ⟨d, hd, -⟩ := hsome
    cases hd
  | cons d devices ih =>
    have hrest : ∀ d' ∈ devices, d'.imei = imei → d'.id = id := fun d' hd' =>
      h d' (mem_cons_of_mem d hd')
    by_cases hlater : ∃ d' ∈ devices, d'.imei = imei
    · exact ih hlater hrest
    · -- the first device is the last to write
      obtain ⟨d', hd', himei⟩ := hsome
      obtain rfl : d' = d := (mem_cons.mp hd').resolve_right fun hd'' => hlater ⟨d', hd'', himei⟩
      refine (restoreTenantDevices_other fun e he himei' => hlater ⟨e, he, himei'⟩).trans ?_
      rw [activateDevice_imei, ← himei, update_self, h d' mem_cons_self himei]

/-! ## What the registry knows of a device -/

/-- The indices of the tenants and `device:tenant` have the tenants of the table. -/
structure Grounded (r : Registry) (t : DeviceTable) : Prop where
  index : ∀ tenantId id, id ∈ r.tenantDevices tenantId →
    ∃ d, t.row id = some d ∧ d.tenantId = tenantId
  tenant : ∀ id tenantId, r.tenant id = some tenantId →
    ∃ d, t.row id = some d ∧ d.tenantId = tenantId

variable {t : DeviceTable}

lemma Grounded.activate (h : Grounded r t) {row : DeviceRow} (hrow : t.row d.id = some row)
    (htenant : row.tenantId = d.tenantId) :
    Grounded (activateDevice r d) t where
  index tenantId id hid := by
    have hid' : id ∈
        (if tenantId = d.tenantId then d.id :: (r.tenantDevices tenantId).filter (· ≠ d.id)
      else if r.tenant d.id = some tenantId then (r.tenantDevices tenantId).filter (· ≠ d.id)
      else r.tenantDevices tenantId) := hid
    split at hid'
    · rename_i hown
      rcases mem_cons.mp hid' with rfl | hid'
      · exact ⟨row, hrow, htenant.trans hown.symm⟩
      · exact h.index tenantId id (mem_of_mem_filter hid')
    · split at hid'
      · exact h.index tenantId id (mem_of_mem_filter hid')
      · exact h.index tenantId id hid'
  tenant id tenantId hid := by
    obtain ⟨rfl, hown⟩ | ⟨-, hid⟩ := update_some_eq_some.1 hid
    · exact ⟨row, hrow, htenant.trans hown⟩
    · exact h.tenant id tenantId hid

lemma Grounded.deactivate (h : Grounded r t) (d : RegistryDevice) :
    Grounded (deactivateDevice r d) t where
  index tenantId id hid := by
    have hsame : (r.hdelIfMine d).tenantDevices = r.tenantDevices := by
      unfold Registry.hdelIfMine
      split <;> rfl
    have hid' : id ∈ (if tenantId = d.tenantId then
      ((r.hdelIfMine d).tenantDevices tenantId).filter (· ≠ d.id)
      else (r.hdelIfMine d).tenantDevices tenantId) := hid
    rw [hsame] at hid'
    split at hid'
    · exact h.index tenantId id (mem_of_mem_filter hid')
    · exact h.index tenantId id hid'
  tenant id tenantId hid := by
    have hsame : (r.hdelIfMine d).tenant = r.tenant := by
      unfold Registry.hdelIfMine
      split <;> rfl
    have hid' : update (r.hdelIfMine d).tenant d.id none id = some tenantId := hid
    rw [hsame] at hid'
    exact h.tenant id tenantId (update_none_eq_some.1 hid').2

lemma Grounded.suspend (h : Grounded r t) (devices : List RegistryDevice) :
    Grounded (suspendTenantDevices r devices) t := by
  induction devices generalizing r with
  | nil => exact h
  | cons d devices ih => exact ih (h.deactivate d)

lemma Grounded.restore (h : Grounded r t)
    (hdevices : ∀ d ∈ devices, ∃ row, t.row d.id = some row ∧ row.tenantId = d.tenantId) :
    Grounded (restoreTenantDevices r devices) t := by
  induction devices generalizing r with
  | nil => exact h
  | cons d devices ih =>
    obtain ⟨row, hrow, htenant⟩ := hdevices d mem_cons_self
    exact ih (h.activate hrow htenant) fun d' hd' => hdevices d' (mem_cons_of_mem d hd')

/-! ## The table and what it was -/

def Extends (older newer : DeviceTable) : Prop :=
  ∀ id d, older.row id = some d →
    ∃ d', newer.row id = some d' ∧ d'.toRegistryDevice = d.toRegistryDevice

lemma Extends.refl (t : DeviceTable) : Extends t t := fun _ d h => ⟨d, h, rfl⟩

variable {t' t : DeviceTable}

lemma Extends.trans {t'' : DeviceTable} (h : Extends t t') (h' : Extends t' t'') :
    Extends t t'' := by
  intro id d hd
  obtain ⟨d', hd', hsame⟩ := h id d hd
  obtain ⟨d'', hd'', hsame'⟩ := h' id d' hd'
  exact ⟨d'', hd'', hsame'.trans hsame⟩

variable {accountId config imei tenantId : String}

lemma extends_insert (h : t.insert tenantId accountId imei config = some t') : Extends t t' := by
  intro id d hd
  have hne : id ≠ t.nextId := fun hid => by
    rw [hid, t.row_nextId] at hd
    cases hd
  refine ⟨d, ?_, rfl⟩
  rw [(DeviceTable.insert_eq_some h).1, update_of_ne hne]
  exact hd

lemma extends_retire (t : DeviceTable) (id : ℕ) : Extends t (t.retire id) := by
  intro id' d hd
  by_cases hid : id' = id
  · subst hid
    refine ⟨{ d with retired := true }, ?_, rfl⟩
    show update t.row id' _ id' = _
    rw [update_self, hd]
    rfl
  · refine ⟨d, ?_, rfl⟩
    show update t.row id _ id' = _
    rw [update_of_ne hid]
    exact hd

lemma Grounded.mono (h : Grounded r t) (hext : Extends t t') : Grounded r t' where
  index tenantId id hid := by
    obtain ⟨d, hd, htenant⟩ := h.index tenantId id hid
    obtain ⟨d', hd', hsame⟩ := hext id d hd
    exact ⟨d', hd', (congrArg RegistryDevice.tenantId hsame).trans htenant⟩
  tenant id tenantId hid := by
    obtain ⟨d, hd, htenant⟩ := h.tenant id tenantId hid
    obtain ⟨d', hd', hsame⟩ := hext id d hd
    exact ⟨d', hd', (congrArg RegistryDevice.tenantId hsame).trans htenant⟩

/-- The invariant: every list is of devices that the table still has, and the registry has the
tenants of the table. -/
structure Based (s : State) : Prop where
  older : ∀ t ∈ s.before, Extends t s.devices
  grounded : Grounded s.registry s.devices

lemma based_initial : Based State.initial :=
  ⟨fun _ h => (nomatch h), fun _ _ h => (nomatch h), fun _ _ h => (nomatch h)⟩

structure IsListed (s : State) (tenantId : String) (devices : List RegistryDevice) : Prop where
  row : ∀ d ∈ devices, ∃ row, s.devices.row d.id = some row ∧ row.toRegistryDevice = d
  tenant : ∀ d ∈ devices, d.tenantId = tenantId
  key : ∀ d ∈ devices, ∀ d' ∈ devices, d.imei = d'.imei → d = d'

variable {age : ℕ}

lemma Based.isListed (h : Based s) (hlisted : s.listed tenantId age = some devices) :
    IsListed s tenantId devices := by
  obtain ⟨t, ht, rfl⟩ := map_eq_some_iff.mp hlisted
  have hext : Extends t s.devices := by
    rcases mem_cons.mp (mem_of_getElem? ht) with rfl | ht
    · exact .refl _
    · exact h.older t ht
  refine ⟨fun d hd => ?_, fun d hd => (DeviceTable.mem_devicesFor.mp hd).2, fun d hd d' hd' himei =>
    ?_⟩
  · exact hext d.id ⟨d, false⟩ (DeviceTable.mem_devicesFor.mp hd).1
  · have hrow := (DeviceTable.mem_devicesFor.mp hd).1
    have hrow' := (DeviceTable.mem_devicesFor.mp hd').1
    rw [t.active_key hrow hrow' rfl rfl himei, hrow'] at hrow
    exact (congrArg DeviceRow.toRegistryDevice (some.inj hrow)).symm

lemma Based.indexed (h : Based s) (tenantId : String) (id : ℕ)
    (hid : id ∈ s.registry.tenantDevices tenantId) (named : String)
    (hnamed : s.registry.tenant id = some named) : named = tenantId := by
  obtain ⟨d, hd, rfl⟩ := h.grounded.index tenantId id hid
  obtain ⟨d', hd', rfl⟩ := h.grounded.tenant id named hnamed
  rw [some.inj (hd'.symm.trans hd)]

/-! ## One call -/

lemma row_insert (h : t.insert tenantId accountId imei config = some t') :
    t'.row t.nextId = some ⟨⟨t.nextId, imei, tenantId, accountId, config⟩, false⟩ := by
  rw [(DeviceTable.insert_eq_some h).1, update_self]

lemma Based.newer (h : Based s) (hext : Extends s.devices t) :
    (∀ t' ∈ s.devices :: s.before, Extends t' t) ∧ Grounded s.registry t := by
  refine ⟨fun t' ht' => ?_, h.grounded.mono hext⟩
  rcases mem_cons.mp ht' with rfl | ht'
  · exact hext
  · exact (h.older t' ht').trans hext

lemma step_based {call : Call} (h : Based s) (hstep : step s call = some s') : Based s' := by
  cases call with
  | create tenantId accountId imei config =>
    obtain ⟨t, ht, rfl⟩ := map_eq_some_iff.mp hstep
    obtain ⟨holder, hgrounded⟩ := h.newer (extends_insert ht)
    exact ⟨holder, hgrounded.activate (row_insert ht) rfl⟩
  | retire id =>
    obtain ⟨d, hd, rfl⟩ := map_eq_some_iff.mp hstep
    obtain ⟨holder, hgrounded⟩ := h.newer (extends_retire s.devices id)
    exact ⟨holder, hgrounded.deactivate d.toRegistryDevice⟩
  | suspend tenantId age =>
    obtain ⟨devices, hlisted, rfl⟩ := map_eq_some_iff.mp hstep
    exact ⟨h.older, h.grounded.suspend devices⟩
  | restore tenantId age =>
    obtain ⟨devices, hlisted, rfl⟩ := map_eq_some_iff.mp hstep
    refine ⟨h.older, h.grounded.restore fun d hd => ?_⟩
    obtain ⟨row, hrow, hsame⟩ := (h.isListed hlisted).row d hd
    exact ⟨row, hrow, congrArg RegistryDevice.tenantId hsame⟩

lemma mapped_create (hs : Points s)
    (hstep : step s (.create tenantId accountId imei config) = some s') :
    ∀ id d, s'.devices.row id = some d → d.retired = false → s'.suspended d.tenantId = false →
      s'.registry.imei d.imei = some id := by
  obtain ⟨t, ht, rfl⟩ := map_eq_some_iff.mp hstep
  intro id d hd hlive hopen
  have hnew := row_insert ht
  show update s.registry.imei imei (some s.devices.nextId) d.imei = some id
  by_cases himei : d.imei = imei
  · rw [himei, update_self, t.active_key hd hnew hlive rfl himei]
  · have hne : id ≠ s.devices.nextId := by
      rintro rfl
      have hsame := some.inj (hd.symm.trans hnew)
      exact himei (congrArg (fun row : DeviceRow => row.imei) hsame)
    have hd' : t.row id = some d := hd
    rw [(DeviceTable.insert_eq_some ht).1, update_of_ne hne] at hd'
    rw [update_of_ne himei]
    exact hs.mapped id d hd' hlive hopen

lemma mapped_retire {gone : ℕ} (hs : Points s) (hstep : step s (.retire gone) = some s') :
    ∀ id d, s'.devices.row id = some d → d.retired = false → s'.suspended d.tenantId = false →
      s'.registry.imei d.imei = some id := by
  obtain ⟨row, hrow, rfl⟩ := map_eq_some_iff.mp hstep
  intro id d hd hlive hopen
  have hd' : update s.devices.row gone
      ((s.devices.row gone).map fun d => { d with retired := true }) id = some d := hd
  have hne : id ≠ gone := by
    rintro rfl
    rw [update_self, hrow] at hd'
    rw [← some.inj hd'] at hlive
    cases hlive
  rw [update_of_ne hne] at hd'
  have hmapped := hs.mapped id d hd' hlive hopen
  refine (deactivateDevice_imei fun _ hmine => hne ?_).trans hmapped
  rw [hmapped, (s.devices.serial hrow).1] at hmine
  exact some.inj hmine

lemma mapped_suspend (h : Based s) (hs : Points s)
    (hstep : step s (.suspend tenantId age) = some s') :
    ∀ id d, s'.devices.row id = some d → d.retired = false → s'.suspended d.tenantId = false →
      s'.registry.imei d.imei = some id := by
  obtain ⟨devices, hlisted, rfl⟩ := map_eq_some_iff.mp hstep
  intro id d hd hlive hopen
  have hopen' : update s.suspended tenantId true d.tenantId = false := hopen
  have hother : d.tenantId ≠ tenantId := by
    intro hsame
    rw [hsame, update_self] at hopen'
    cases hopen'
  rw [update_of_ne hother] at hopen'
  have hmapped := hs.mapped id d hd hlive hopen'
  refine (suspendTenantDevices_imei fun e he _ hmine => hother ?_).trans hmapped
  -- the device of the list would be the mapped one, which is of another tenant
  rw [hmapped] at hmine
  obtain ⟨row, hrow, hsame⟩ := (h.isListed hlisted).row e he
  rw [← some.inj hmine] at hrow
  have hrow' := some.inj (hrow.symm.trans hd)
  rw [← (h.isListed hlisted).tenant e he, ← hsame, hrow']

lemma open_restored {suspended : String → Bool} {other : String} :
    update suspended tenantId false other = false ↔
      ¬(suspended other = true ∧ other ≠ tenantId) := by
  by_cases hsame : other = tenantId
  · rw [hsame, update_self]
    exact ⟨fun _ h => h.2 rfl, fun _ => rfl⟩
  · rw [update_of_ne hsame, not_and_not_right]
    exact ⟨fun h h' => absurd (h.symm.trans h') Bool.false_ne_true,
      fun h => Bool.eq_false_iff.mpr fun h' => hsame (h h')⟩

lemma IsListed.eq_row (h : IsListed s tenantId devices) (hd : d ∈ devices) {e : DeviceRow}
    (he : s.devices.row d.id = some e) : e.toRegistryDevice = d := by
  obtain ⟨row, hrow, hsame⟩ := h.row d hd
  rw [some.inj (he.symm.trans hrow)]
  exact hsame

/-- **A restore keeps the promise iff it is in time.** -/
lemma mapped_restore_iff (h : Based s) (hs : Points s)
    (hstep : step s (.restore tenantId age) = some s') :
    (∀ id d, s'.devices.row id = some d → d.retired = false → s'.suspended d.tenantId = false →
      s'.registry.imei d.imei = some id) ↔ RestoresInTime s (.restore tenantId age) := by
  obtain ⟨devices, hlisted, rfl⟩ := map_eq_some_iff.mp hstep
  have hlist := h.isListed hlisted
  constructor
  · intro hall devices' hlisted'
    cases hlisted.symm.trans hlisted'
    refine ⟨fun d hd id e he hlive hne himei => ?_, fun id e he hlive htenant => ?_⟩
    · by_contra hstanding
      have hmapped := hall id e he hlive (open_restored.mpr hstanding)
      have htaken : (restoreTenantDevices s.registry devices).imei e.imei = some d.id :=
        restoreTenantDevices_mine ⟨d, hd, himei.symm⟩ fun d' hd' himei' => by
          rw [hlist.key d' hd' d hd (himei'.trans himei)]
      exact hne (some.inj (hmapped.symm.trans htaken))
    · refine or_iff_not_imp_left.mpr fun hout => ?_
      have hmapped := hall id e he hlive (open_restored.mpr fun hother => hother.2 htenant)
      have hnone : ∀ d ∈ devices, d.imei ≠ e.imei := by
        intro d hd himei
        have htaken : (restoreTenantDevices s.registry devices).imei e.imei = some d.id :=
          restoreTenantDevices_mine ⟨d, hd, himei⟩ fun d' hd' himei' => by
            rw [hlist.key d' hd' d hd (himei'.trans himei.symm)]
        cases hmapped.symm.trans htaken
        exact hout (hlist.eq_row hd he ▸ hd)
      exact (restoreTenantDevices_other hnone).symm.trans hmapped
  · intro hfits id d hd hlive hopen
    obtain ⟨htakes, hleaves⟩ := hfits devices hlisted
    have hstanding := open_restored.mp hopen
    by_cases hin : ∃ d' ∈ devices, d'.imei = d.imei
    · refine restoreTenantDevices_mine hin fun d' hd' himei => ?_
      by_contra hne
      exact hstanding (htakes d' hd' id d hd hlive (Ne.symm hne) himei.symm)
    · refine (restoreTenantDevices_other fun d' hd' himei => hin ⟨d', hd', himei⟩).trans ?_
      by_cases htenant : d.tenantId = tenantId
      · exact (hleaves id d hd hlive htenant).resolve_left fun hlisted => hin ⟨_, hlisted, rfl⟩
      · refine hs.mapped id d hd hlive (Bool.eq_false_iff.mpr fun hsuspended => ?_)
        exact hstanding ⟨hsuspended, htenant⟩

lemma step_points_iff {call : Call} (h : Based s) (hs : Points s) (hstep : step s call = some s') :
    Points s' ↔ RestoresInTime s call := by
  have hindexed := (step_based h hstep).indexed
  cases call with
  | create tenantId accountId imei config =>
    exact ⟨fun _ => trivial, fun _ => ⟨mapped_create hs hstep, hindexed⟩⟩
  | retire id => exact ⟨fun _ => trivial, fun _ => ⟨mapped_retire hs hstep, hindexed⟩⟩
  | suspend tenantId age => exact ⟨fun _ => trivial, fun _ => ⟨mapped_suspend h hs hstep, hindexed⟩⟩
  | restore tenantId age =>
    have hiff := mapped_restore_iff h hs hstep
    exact ⟨fun hpoints => hiff.mp hpoints.mapped, fun hfits => ⟨hiff.mpr hfits, hindexed⟩⟩

/-! ## Sequences of calls -/

lemma points_initial : Points State.initial := ⟨fun _ _ h => (nomatch h), fun _ _ h => (nomatch h)⟩

/-- **Every IMEI leads to its device after every call iff every restore is in time**: none takes the
IMEI of another device, and none leaves out a device of its tenant that is not in the registry. -/
theorem mapped_iff_restores_in_time {calls : List Call}
    (hrun : run step State.initial calls = some s) :
    (∀ before now, before <+: calls → run step State.initial before = some now →
      Points now) ↔
      RunFits step RestoresInTime State.initial calls :=
  runFits_iff Based Points (fun _ _ _ h hstep => step_based h hstep)
    (fun _ _ _ h hs hstep => step_points_iff h hs hstep) based_initial points_initial hrun

/-! ## A restore that is late -/

/-- A device of one tenant is suspended with it and retired, and another tenant reclaims its IMEI.
-/
def reclaimed : List Call :=
  [.create "north" "fleet" "352093081452251" "", .suspend "north" 0, .retire 0,
    .create "south" "depot" "352093081452251" ""]

/-- The first tenant is restored, with the devices that it has or with those that it had. -/
def restoredInTime : List Call := reclaimed ++ [.restore "north" 0]

def restoredLate : List Call := reclaimed ++ [.restore "north" 2]

theorem mapped_iff_restoredInTime :
    ∃ s, run step State.initial restoredInTime = some s ∧
      s.registry.imei "352093081452251" = some 1 ∧
      ((∀ before now, before <+: restoredInTime → run step State.initial before = some now →
        Points now) ↔ RunFits step RestoresInTime State.initial restoredInTime) := by
  have hrun : (run step State.initial restoredInTime).map
      (fun s => s.registry.imei "352093081452251") = some (some 1) := by decide +kernel
  obtain ⟨s, hs, himei⟩ := map_eq_some_iff.mp hrun
  exact ⟨s, hs, himei, mapped_iff_restores_in_time hs⟩

/-- **A restore with a list that is out of date takes an IMEI from the device of another tenant**,
which is in service and not suspended. -/
theorem reclaimed_imei_taken :
    ∃ s, run step State.initial restoredLate = some s ∧
      s.registry.imei "352093081452251" = some 0 ∧
      s.devices.row 1 = some ⟨⟨1, "352093081452251", "south", "depot", ""⟩, false⟩ ∧
      s.suspended "south" = false ∧ ¬Points s := by
  have hrun : (run step State.initial restoredLate).map
      (fun s => (s.registry.imei "352093081452251", s.devices.row 1, s.suspended "south")) =
      some (some 0, some ⟨⟨1, "352093081452251", "south", "depot", ""⟩, false⟩, false) := by
    decide +kernel
  obtain ⟨s, hs, heq⟩ := map_eq_some_iff.mp hrun
  obtain ⟨himei, hrest⟩ := Prod.mk.inj heq
  obtain ⟨hrow, hopen⟩ := Prod.mk.inj hrest
  refine ⟨s, hs, himei, hrow, hopen, fun hpoints => ?_⟩
  have hmapped := hpoints.mapped 1 _ hrow rfl hopen
  rw [himei] at hmapped
  exact absurd (some.inj hmapped) (by decide)

end Orbetra.Lists
