import Orbetra.Billing.Sweep
import Orbetra.Framework.Update

/-!
# The rebuild of the registry

`rehydrateRegistries` of `apps/api/src/rehydrate.ts` among the operations that change the registry
while it runs: `POST /v1/devices` and `DELETE /v1/devices/:id` of `apps/api/src/routes/crud.ts`, the
suspension of `apps/worker/src/jobs/lapseSweepWorker.ts` and `POST /v1/tenants/:id/restore`.  Each
query of Postgres and each command or `MULTI` of Redis is one step.

The rebuild also writes the geofences, the rules and the drivers; those keys are none of the
registry's.  What comes before the insert of a device only refuses. -/

namespace Orbetra.Rehydrate

open Function List Async

open Billing (Registry RegistryDevice)

/-! ## The devices -/

structure DeviceRow extends RegistryDevice where
  retired : Bool
  deriving DecidableEq

/-- `devices`, with `devices_imei_active_key`. -/
structure DeviceTable where
  row : ℕ → Option DeviceRow
  nextId : ℕ
  serial : ∀ {id d}, row id = some d → d.id = id ∧ id < nextId
  active_key : ∀ {id id' d d'}, row id = some d → row id' = some d' →
    d.retired = false → d'.retired = false → d.imei = d'.imei → id = id'

namespace DeviceTable

variable (t : DeviceTable)

def rows : List DeviceRow := (range t.nextId).filterMap t.row

lemma mem_rows {d : DeviceRow} : d ∈ t.rows ↔ t.row d.id = some d := by
  refine mem_filterMap.trans ⟨?_, fun h => ⟨d.id, mem_range.2 (t.serial h).2, h⟩⟩
  rintro ⟨id, -, h⟩
  rw [(t.serial h).1]
  exact h

def active (imei : String) : Bool := t.rows.any fun d => !d.retired && d.imei = imei

lemma active_of_row {id : ℕ} {d : DeviceRow} (h : t.row id = some d) (hlive : d.retired = false) :
    t.active d.imei = true :=
  any_eq_true.2 ⟨d, (t.mem_rows).2 ((t.serial h).1 ▸ h), by simp [hlive]⟩

/-- `prisma.device.create`; an active row of the IMEI violates the index. -/
def insert (tenantId accountId imei config : String) : Option DeviceTable :=
  if h : t.active imei then none
  else
    some
      { row := update t.row t.nextId
          (some ⟨⟨t.nextId, imei, tenantId, accountId, config⟩, false⟩)
        nextId := t.nextId + 1
        serial := by
          intro id d hd
          obtain ⟨rfl, rfl⟩ | ⟨-, hd⟩ := update_some_eq_some.1 hd
          · exact ⟨rfl, Nat.lt_succ_self _⟩
          · exact ⟨(t.serial hd).1, Nat.lt_succ_of_lt (t.serial hd).2⟩
        active_key := by
          intro id id' d d' hd hd' hlive hlive' himei
          obtain ⟨rfl, rfl⟩ | ⟨-, hd⟩ := update_some_eq_some.1 hd <;>
            obtain ⟨rfl, rfl⟩ | ⟨-, hd'⟩ := update_some_eq_some.1 hd'
          · rfl
          · have hactive := t.active_of_row hd' hlive'
            rw [← himei] at hactive
            exact absurd hactive h
          · have hactive := t.active_of_row hd hlive
            rw [himei] at hactive
            exact absurd hactive h
          · exact t.active_key hd hd' hlive hlive' himei }

lemma insert_eq_some {t t' : DeviceTable} {tenantId accountId imei config : String}
    (h : t.insert tenantId accountId imei config = some t') :
    t'.row = update t.row t.nextId (some ⟨⟨t.nextId, imei, tenantId, accountId, config⟩, false⟩) ∧
      t'.nextId = t.nextId + 1 := by
  unfold DeviceTable.insert at h
  split at h
  · cases h
  · cases h
    exact ⟨rfl, rfl⟩

lemma row_nextId : t.row t.nextId = none := by
  by_contra h
  obtain ⟨d, hd⟩ := Option.ne_none_iff_exists'.1 h
  exact lt_irrefl _ (t.serial hd).2

def retire (id : ℕ) : DeviceTable where
  row := update t.row id ((t.row id).map fun d => { d with retired := true })
  nextId := t.nextId
  serial := by
    intro id' d hd
    obtain ⟨rfl, hd⟩ | ⟨-, hd⟩ := update_eq_cases hd
    · obtain ⟨old, hold, rfl⟩ := Option.map_eq_some_iff.1 hd
      exact ⟨(t.serial hold).1, (t.serial hold).2⟩
    · exact t.serial hd
  active_key := by
    intro id₁ id₂ d₁ d₂ h₁ h₂ hlive₁ hlive₂ himei
    obtain ⟨rfl, h₁⟩ | ⟨-, h₁⟩ := update_eq_cases h₁
    · obtain ⟨old, -, rfl⟩ := Option.map_eq_some_iff.1 h₁
      cases hlive₁
    · obtain ⟨rfl, h₂⟩ | ⟨-, h₂⟩ := update_eq_cases h₂
      · obtain ⟨old, -, rfl⟩ := Option.map_eq_some_iff.1 h₂
        cases hlive₂
      · exact t.active_key h₁ h₂ hlive₁ hlive₂ himei

def inService : List DeviceRow := t.rows.filter fun d => !d.retired

def devicesFor (tenantId : String) : List RegistryDevice :=
  (t.inService.filter (·.tenantId = tenantId)).map (·.toRegistryDevice)

variable {t} in
lemma mem_devicesFor {tenantId : String} {d : RegistryDevice} :
    d ∈ t.devicesFor tenantId ↔ t.row d.id = some ⟨d, false⟩ ∧ d.tenantId = tenantId := by
  unfold DeviceTable.devicesFor DeviceTable.inService
  rw [mem_map]
  constructor
  · rintro ⟨d', hd', rfl⟩
    obtain ⟨hd', htenant⟩ := mem_filter.1 hd'
    obtain ⟨hrow, hlive⟩ := mem_filter.1 hd'
    have hlive : d'.retired = false := by simpa using hlive
    refine ⟨?_, of_decide_eq_true htenant⟩
    rw [← hlive]
    exact t.mem_rows.1 hrow
  · rintro ⟨hrow, htenant⟩
    refine ⟨⟨d, false⟩, mem_filter.2 ⟨mem_filter.2 ⟨t.mem_rows.2 hrow, rfl⟩, ?_⟩, rfl⟩
    exact decide_eq_true htenant

/-- `scopedById` -/
def scopedById (tenantId : String) (accountId : Option String) (id : ℕ) : Option DeviceRow :=
  (t.row id).filter fun d => d.tenantId = tenantId && accountId.all (· = d.accountId)

end DeviceTable

/-! ## The store -/

/-- What the registry says of a device: under its IMEI, and in the index of its tenant. -/
inductive Facet
  | imei
  | index
  deriving DecidableEq

/-- Postgres and Redis.  The operations are numbered by `ι`; `none` stands for the rebuild.

The last three fields are history: who has still to publish a facet of a device, which retirements
have taken a device out of the registry, and which restores have read the devices of a tenant that
they have not cleared yet. -/
structure RegistryStore (ι : Type) where
  devices : DeviceTable
  /-- `suspendedAt` is set -/
  suspended : String → Bool
  registry : Registry
  owing : Facet → ℕ → Option (Option ι)
  leaving : List (Option ι × ℕ)
  returning : List (Option ι × String)

section Store

variable {ι : Type} [DecidableEq ι] (s s' : RegistryStore ι) (me : Option ι)

namespace RegistryStore

/-- The registry should have the device: it is in service, nobody is retiring it, and its tenant is
not suspended or is being restored. -/
def wanted (id : ℕ) : Bool :=
  (s.devices.row id).any fun d => !d.retired && !s.leaving.any (·.2 = id) &&
    (!s.suspended d.tenantId || s.returning.any (·.2 = d.tenantId))

/-- The step to `s'` is taken by `me`, who has to publish what it changes. -/
def owed : RegistryStore ι :=
  { s' with owing := fun f id => if s'.wanted id = s.wanted id then s.owing f id else some me }

/-- `me` has published a facet. -/
def settle (f : Facet) (id : ℕ) : RegistryStore ι :=
  { s with owing := fun g id' =>
      if g = f ∧ id' = id ∧ s.owing f id = some me then none else s.owing g id' }

/-- `me` takes a device out of the registry, to retire it: nobody has to publish it any more. -/
def leave (id : ℕ) : RegistryStore ι :=
  { s with
    owing := fun f id' => if id' = id then none else s.owing f id'
    leaving := (me, id) :: s.leaving }

/-- `me` has read the devices of a tenant, to take them out of the registry. -/
def toTearDown (tenantId : String) : RegistryStore ι :=
  { s with owing := fun f id =>
      if (s.devices.row id).any (fun d => d.tenantId = tenantId && !d.retired) &&
          !s.leaving.any (·.2 = id) && !s.wanted id then some me
      else s.owing f id }

/-- An operation other than `me` has still to publish the facet. -/
def leftTo (f : Facet) (id : ℕ) : Bool := (s.owing f id).any fun t => t.isSome && t ≠ me

end RegistryStore

end Store

/-! ## The commands -/

/-- A key that `SCAN` finds. -/
inductive ScannedKey
  /-- a scratch key of an older build -/
  | rebuild
  /-- `tenantDevicesKey` -/
  | index (tenantId : String)
  | unknown
  deriving DecidableEq

/-- `me` sends the command, where the history tells who it is. -/
inductive RegistryCommand (ι : Type)
  | insert (me : Option ι) (tenantId accountId imei config : String)
  | scopedById (tenantId : String) (accountId : Option String) (id : ℕ)
  | retire (id : ℕ)
  | suspend (me : Option ι) (tenantId : String)
  | isSuspended (tenantId : String)
  | unsuspend (me : Option ι) (tenantId : String)
  | registryDevicesFor (me : Option ι) (tenantId : String) (toRestore : Bool)
  | suspendedTenants
  | listAllForRegistry (suspended : String → Bool)
  | deviceTenant (id : ℕ)
  | activate (me : Option ι) (d : RegistryDevice) (prevTenant : Option String)
  | hdelIfMine (me : Option ι) (d : RegistryDevice) (keepLastFix : Bool)
  | drop (me : Option ι) (d : RegistryDevice) (keepLastFix : Bool)
  | hsetImei (d : RegistryDevice)
  | hsetTenant (d : RegistryDevice)
  | hsetAccount (d : RegistryDevice)
  | hsetConfig (d : RegistryDevice)
  | sadd (d : RegistryDevice)
  | scan
  | del
  | smembers (tenantId : String)
  | hmget (members : List ℕ)
  | srem (tenantId : String) (gone : List ℕ)

abbrev RegistryCommand.Answer {ι : Type} : RegistryCommand ι → Type
  | .insert .. => Option RegistryDevice
  | .scopedById .. => Option DeviceRow
  | .suspend .. | .isSuspended _ | .unsuspend .. => Bool
  | .registryDevicesFor .. | .listAllForRegistry _ => List RegistryDevice
  | .suspendedTenants => String → Bool
  | .deviceTenant _ => Option String
  | .smembers _ => List ℕ
  | .hmget _ => List (Option String)
  | _ => Unit

variable {ι : Type} [DecidableEq ι]

def RegistryCommand.run : (c : RegistryCommand ι) → RegistryStore ι → RegistryStore ι × c.Answer
  | .insert me tenantId accountId imei config, s =>
    match s.devices.insert tenantId accountId imei config with
    | none => (s, none)
    | some devices =>
      (s.owed { s with devices := devices } me,
        some ⟨s.devices.nextId, imei, tenantId, accountId, config⟩)
  | .scopedById tenantId accountId id, s => (s, s.devices.scopedById tenantId accountId id)
  | .retire id, s => ({ s with devices := s.devices.retire id }, ())
  | .suspend me tenantId, s =>
    if s.suspended tenantId then (s, false)
    else (s.owed { s with suspended := update s.suspended tenantId true } me, true)
  | .isSuspended tenantId, s => (s, s.suspended tenantId)
  | .unsuspend me tenantId, s =>
    ({ s with
      suspended := update s.suspended tenantId false
      returning := s.returning.filter (· ≠ (me, tenantId)) }, s.suspended tenantId)
  | .registryDevicesFor me tenantId toRestore, s =>
    (if toRestore then s.owed { s with returning := (me, tenantId) :: s.returning } me
      else s.toTearDown me tenantId, s.devices.devicesFor tenantId)
  | .suspendedTenants, s => (s, s.suspended)
  | .listAllForRegistry suspended, s =>
    (s, (s.devices.inService.filter (!suspended ·.tenantId)).map (·.toRegistryDevice))
  | .deviceTenant id, s => (s, s.registry.tenant id)
  | .activate me d prevTenant, s =>
    ((({ s with registry := s.registry.activate d prevTenant }).settle me .imei d.id).settle
      me .index d.id, ())
  | .hdelIfMine me d keepLastFix, s =>
    (if keepLastFix then
        ({ s with registry := s.registry.hdelIfMine d } : RegistryStore ι).settle me .imei d.id
      else ({ s with registry := s.registry.hdelIfMine d } : RegistryStore ι).leave me d.id, ())
  | .drop me d _, s =>
    (({ s with registry := s.registry.drop d } : RegistryStore ι).settle me .index d.id, ())
  | .hsetImei d, s =>
    (({ s with registry := { s.registry with
        imei := update s.registry.imei d.imei (some d.id) } } :
        RegistryStore ι).settle none .imei d.id, ())
  | .hsetTenant d, s =>
    ({ s with registry := { s.registry with
        tenant := update s.registry.tenant d.id (some d.tenantId) } }, ())
  | .hsetAccount d, s =>
    ({ s with registry := { s.registry with
        account := update s.registry.account d.id (some d.accountId) } }, ())
  | .hsetConfig d, s =>
    ({ s with registry := { s.registry with
        config := update s.registry.config d.id (some d.config) } }, ())
  | .sadd d, s =>
    (({ s with registry := { s.registry with
        tenantDevices := fun t =>
          if t = d.tenantId then d.id :: (s.registry.tenantDevices t).filter (· ≠ d.id)
          else s.registry.tenantDevices t } } : RegistryStore ι).settle none .index d.id, ())
  | .scan, s => (s, ())
  | .del, s => (s, ())
  | .smembers tenantId, s => (s, s.registry.tenantDevices tenantId)
  | .hmget members, s => (s, members.map s.registry.tenant)
  | .srem tenantId gone, s =>
    ({ s with registry := { s.registry with
        tenantDevices := fun t =>
          if t = tenantId then (s.registry.tenantDevices t).filter (· ∉ gone)
          else s.registry.tenantDevices t } }, ())

/-- Postgres and Redis. -/
abbrev registryService (ι : Type) [DecidableEq ι] : Service (RegistryStore ι) :=
  ⟨RegistryCommand ι, RegistryCommand.Answer, RegistryCommand.run⟩

inductive RegistryError
  | failed
  deriving DecidableEq

abbrev Registering (ι : Type) [DecidableEq ι] (α : Type) :=
  Async (registryService ι) RegistryError α

def send (c : RegistryCommand ι) : Registering ι c.Answer :=
  Async.send (V := registryService ι) RegistryError.failed c

/-- A command of a pipeline: its error stands in the results of `exec`. -/
def queued (c : RegistryCommand ι) (a : c.Answer) : Registering ι c.Answer :=
  sendOr (V := registryService ι) c a

/-! ## The operations -/

inductive Reply
  | created (id : ℕ)
  | duplicateImei
  | retired (id : ℕ)
  | notFound
  | suspended (tenantId : String)
  | restored (devices : ℕ)
  | unchanged
  | rehydrated (devices : ℕ)
  deriving DecidableEq

section Operations

variable (me : Option ι)

def activateDevice (d : RegistryDevice) : Registering ι Unit := do
  let prevTenant ← send (.deviceTenant d.id)
  send (.activate me d prevTenant)

def deactivateDevice (d : RegistryDevice) (keepLastFix : Bool) : Registering ι Unit := do
  send (.hdelIfMine me d keepLastFix)
  send (.drop me d keepLastFix)

def restoreTenantDevices (devices : List RegistryDevice) : Registering ι Unit :=
  devices.foldlM (fun _ d => activateDevice me d) ()

def suspendTenantDevices (devices : List RegistryDevice) : Registering ι Unit :=
  devices.foldlM (fun _ d => deactivateDevice me d true) ()

/-- The end of `POST /v1/devices`. -/
def createDevice (tenantId accountId imei config : String) : Registering ι Reply :=
  send (.insert me tenantId accountId imei config) >>= fun
    | none => pure .duplicateImei
    | some d => do
      activateDevice me d
      pure (.created d.id)

def retire (tenantId : String) (accountId : Option String) (id : ℕ) : Registering ι Unit :=
  send (.scopedById tenantId accountId id) >>= fun
    | none => pure ()
    -- a second retirement changes nothing
    | some d => if d.retired then pure () else send (.retire id)

def deleteDevice (tenantId : String) (accountId : Option String) (id : ℕ) : Registering ι Reply :=
  send (.scopedById tenantId accountId id) >>= fun
    | none => pure .notFound
    | some d => do
      deactivateDevice me d.toRegistryDevice false
      retire tenantId accountId id
      pure (.retired id)

/-- A tenant is cut off by the sweep. -/
def suspendTenant (tenantId : String) : Registering ι Reply :=
  send (.suspend me tenantId) >>= fun
    | false => pure .unchanged
    | true => do
      let devices ← send (.registryDevicesFor me tenantId false)
      suspendTenantDevices me devices
      pure (.suspended tenantId)

def restoreTenant (tenantId : String) : Registering ι Reply :=
  send (.isSuspended tenantId) >>= fun
    | false => pure .unchanged
    | true => do
      let devices ← send (.registryDevicesFor me tenantId true)
      restoreTenantDevices me devices
      let _ ← send (.unsuspend me tenantId)
      pure (.restored devices.length)

end Operations

/-- The commands that the pipeline holds for one device. -/
def publish (d : RegistryDevice) : Registering ι Unit := do
  queued (.hsetImei d) ()
  queued (.hsetTenant d) ()
  queued (.hsetAccount d) ()
  queued (.hsetConfig d) ()
  queued (.sadd d) ()

def gone (tenantId : String) (members : List ℕ) (owners : List (Option String)) : List ℕ :=
  ((members.zip owners).filter fun member => member.2 ≠ some tenantId).map Prod.fst

def reconcile (tenantId : String) : Registering ι Unit := do
  let members ← send (.smembers tenantId)
  when (members ≠ []) (do
    let owners ← send (.hmget members)
    when (gone tenantId members owners ≠ []) (send (.srem tenantId (gone tenantId members owners))))

def sweepKey (key : ScannedKey) : Registering ι Unit :=
  attempt (fun _ => pure ()) <|
    match key with
    | .rebuild => send .del
    | .index tenantId => reconcile tenantId
    | .unknown => pure ()

/-- One round of `SCAN`. -/
def sweepKeys (keys : List ScannedKey) : Registering ι Unit := do
  send .scan
  keys.foldlM (fun _ key => sweepKey key) ()

def rehydrateRegistries (scans : List (List ScannedKey)) : Registering ι Reply := do
  let suspended ← send .suspendedTenants
  let devices ← send (.listAllForRegistry suspended)
  devices.foldlM (fun _ d => publish d) ()
  scans.foldlM (fun _ keys => sweepKeys keys) ()
  pure (.rehydrated devices.length)

inductive RegistryCall
  | create (tenantId accountId imei config : String)
  | delete (tenantId : String) (accountId : Option String) (id : ℕ)
  | suspend (tenantId : String)
  | restore (tenantId : String)
  deriving DecidableEq

def RegistryCall.program (me : Option ι) : RegistryCall → Registering ι Reply
  | .create tenantId accountId imei config => createDevice me tenantId accountId imei config
  | .delete tenantId accountId id => deleteDevice me tenantId accountId id
  | .suspend tenantId => suspendTenant me tenantId
  | .restore tenantId => restoreTenant me tenantId

/-- The rebuild and the operations, before any has begun: the rebuild has to publish every device
in service. -/
def registryPool (calls : ι → RegistryCall) (scans : List (List ScannedKey))
    (devices : DeviceTable) (suspended : String → Bool) (registry : Registry) :
    Pool (Option ι) (registryService ι) RegistryError Reply where
  state :=
    { devices := devices
      suspended := suspended
      registry := registry
      owing := fun _ id => if (devices.row id).any (!·.retired) then some none else none
      leaving := []
      returning := [] }
  thread
    | none => rehydrateRegistries scans
    | some i => (calls i).program (some i)

end Orbetra.Rehydrate
