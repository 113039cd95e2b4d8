import Orbetra.Billing.Sweep

/-!
# A tenant that has paid

One sweep and one delivery of a live status run in any order of steps.  The webhook restores a tenant
that it sees suspended: it puts the devices back into the registry and takes the flag off last.  What
may go wrong is decided by two kinds of steps of the sweep: a suspension after the webhook has looked
at the flag, and the teardown of a device that was put back (`Tame`).
-/

namespace Orbetra

open Function List Async

namespace Billing

/-! ## The registry -/

structure Registry.Has (r : Registry) (d : RegistryDevice) : Prop where
  imei : r.imei d.imei = some d.id
  tenant : r.tenant d.id = some d.tenantId
  account : (r.account d.id).isSome
  config : (r.config d.id).isSome
  indexed : d.id ∈ r.tenantDevices d.tenantId

namespace Registry

variable {r : Registry} {d e : RegistryDevice}

lemma has_activate (r : Registry) (d : RegistryDevice) (prevTenant : Option String) :
    (r.activate d prevTenant).Has d where
  imei := update_self ..
  tenant := update_self ..
  account := by
    show (update r.account d.id (some d.accountId) d.id).isSome
    rw [update_self]
    rfl
  config := by
    show (update r.config d.id (some d.config) d.id).isSome
    rw [update_self]
    rfl
  indexed := by
    show d.id ∈ if d.tenantId = d.tenantId then _ else _
    rw [if_pos rfl]
    exact mem_cons_self

/-- Another device is put into the registry. -/
lemma Has.activate_other (h : r.Has d) (hid : d.id ≠ e.id) (himei : d.imei ≠ e.imei)
    (prevTenant : Option String) : (r.activate e prevTenant).Has d where
  imei := (update_of_ne himei ..).trans h.imei
  tenant := (update_of_ne hid ..).trans h.tenant
  account := by
    show (update r.account e.id (some e.accountId) d.id).isSome
    rw [update_of_ne hid]
    exact h.account
  config := by
    show (update r.config e.id (some e.config) d.id).isSome
    rw [update_of_ne hid]
    exact h.config
  indexed := by
    have hmem : d.id ∈ (r.tenantDevices d.tenantId).filter (· ≠ e.id) :=
      mem_filter.mpr ⟨h.indexed, decide_eq_true hid⟩
    show d.id ∈ if d.tenantId = e.tenantId then _ else _
    split
    · exact mem_cons_of_mem _ hmem
    split
    · exact hmem
    · exact h.indexed

/-- Another device is taken out, in either step. -/
lemma Has.hdelIfMine_other (h : r.Has d) (hid : d.id ≠ e.id) : (r.hdelIfMine e).Has d := by
  unfold hdelIfMine
  split
  · rename_i hmine
    refine ⟨?_, h.tenant, h.account, h.config, h.indexed⟩
    have himei : d.imei ≠ e.imei := by
      intro heq
      rw [← heq, h.imei] at hmine
      exact hid (Option.some.inj hmine)
    exact (update_of_ne himei ..).trans h.imei
  · exact h

lemma Has.drop_other (h : r.Has d) (hid : d.id ≠ e.id) : (r.drop e).Has d where
  imei := h.imei
  tenant := (update_of_ne hid ..).trans h.tenant
  account := by
    show (update r.account e.id none d.id).isSome
    rw [update_of_ne hid]
    exact h.account
  config := by
    show (update r.config e.id none d.id).isSome
    rw [update_of_ne hid]
    exact h.config
  indexed := by
    show d.id ∈ if d.tenantId = e.tenantId then _ else _
    split
    · exact mem_filter.mpr ⟨h.indexed, decide_eq_true hid⟩
    · exact h.indexed

end Registry

/-- Devices have ids of their own, and those in use have IMEIs of their own. -/
structure DevicesKeyed (devices : List RegistryDevice) : Prop where
  ids : ∀ d ∈ devices, ∀ e ∈ devices, d.id = e.id → d = e
  imeis : ∀ d ∈ devices, ∀ e ∈ devices, d.imei = e.imei → d = e

/-! ## What a step may change -/

section Tenant

variable (fleet : List RegistryDevice) (tenantId : String)

def Activated (s : SweepStore) (d : RegistryDevice) : Prop := .activated d.id ∈ s.log

/-- Every device of the tenant was; `fleet` are all devices. -/
def Brought (s : SweepStore) : Prop := ∀ d ∈ fleet, d.tenantId = tenantId → Activated s d

/-- The registry has every device of the tenant. -/
def Present (s : SweepStore) : Prop := ∀ d ∈ fleet, d.tenantId = tenantId → s.registry.Has d

/-- A tenant that is not suspended is in the registry. -/
def Sound (s : SweepStore) : Prop := s.isSuspended tenantId = false → Present fleet tenantId s

/-- What one step leaves upheld; `late` says that the tenant may not be suspended any more. -/
structure Upheld (late : Prop) (s s' : SweepStore) : Prop where
  devices : s'.devices = s.devices
  activated : ∀ d, Activated s d → Activated s' d
  kept : ∀ d ∈ fleet, d.tenantId = tenantId → Activated s d → s.registry.Has d → s'.registry.Has d
  sound : Sound fleet tenantId s → Sound fleet tenantId s'
  lifted : s.isSuspended tenantId = true →
    s'.isSuspended tenantId = true ∨ Brought fleet tenantId s'
  calm : late → s.isSuspended tenantId = false → s'.isSuspended tenantId = false
  customers : ∀ c, (s'.db.tenantOfCustomer c).map Tenant.id = (s.db.tenantOfCustomer c).map Tenant.id

/-- What a program promises of the state in which it sends a command. -/
def Promise (s : SweepStore) : SweepCall → Prop
  | .activate d _ => d ∈ fleet
  | .hdelIfMine d => d ∈ fleet ∧
    (d.tenantId = tenantId → s.isSuspended tenantId = true ∨ Brought fleet tenantId s)
  | .drop d => d ∈ fleet ∧
    (d.tenantId = tenantId → s.isSuspended tenantId = true ∨ Brought fleet tenantId s)
  | .unsuspend t _ => t = tenantId → Brought fleet tenantId s ∧ Present fleet tenantId s
  | _ => True

/-- A step of a program that keeps its promises. -/
def Own (c : SweepCall) (s s' : SweepStore) : Prop :=
  s.devices = fleet ∧ Promise fleet tenantId s c ∧ (s' = s ∨ s' = (c.run s).1)

variable {fleet tenantId} {late : Prop} {s s' : SweepStore}

lemma Upheld.refl : Upheld fleet tenantId late s s :=
  ⟨rfl, fun _ h => h, fun _ _ _ _ h => h, fun h => h, Or.inl, fun _ h => h, fun _ => rfl⟩

variable {f : Tenant → Tenant} {t : String}

lemma Upheld.of_db (hdevices : s'.devices = s.devices) (hlog : ∀ d, Activated s d → Activated s' d)
    (hregistry : s'.registry = s.registry) (hdb : s'.db.tenants = s.db.tenants.map f)
    (hid : ∀ row, (f row).id = row.id)
    (hcustomer : ∀ row, (f row).stripeCustomerId = row.stripeCustomerId)
    (hflag : ∀ row, row.id = tenantId → (f row).suspendedAt = row.suspendedAt) :
    Upheld fleet tenantId late s s' := by
  have hsuspended : s'.isSuspended tenantId = s.isSuspended tenantId := by
    unfold SweepStore.isSuspended SweepStore.tenant
    rw [hdb, tenant_map hid]
    cases hrow : s.db.tenants.find? (·.id = tenantId) with
    | none => rfl
    | some row =>
      show ((f row).suspendedAt).isSome = _
      rw [hflag row (by simpa using find?_some hrow)]
      rfl
  refine ⟨hdevices, hlog, fun d _ _ _ h => hregistry ▸ h, fun h hcalm d hd htenant => ?_,
    fun h => Or.inl (hsuspended.trans h), fun _ h => hsuspended.trans h, fun c => ?_⟩
  · rw [hregistry]
    exact h (hsuspended.symm.trans hcalm) d hd htenant
  · unfold Store.tenantOfCustomer
    rw [hdb, tenantOfCustomer_map hcustomer, Option.map_map]
    congr 1
    funext row
    exact hid row

lemma Upheld.of_registry (hdevices : s'.devices = s.devices)
    (hlog : ∀ d, Activated s d → Activated s' d) (hdb : s'.db = s.db)
    (hkept : ∀ d ∈ fleet, d.tenantId = tenantId → Activated s d → s.registry.Has d →
      s'.registry.Has d)
    (hsound : Sound fleet tenantId s → Sound fleet tenantId s') :
    Upheld fleet tenantId late s s' := by
  have hsuspended : s'.isSuspended tenantId = s.isSuspended tenantId := by
    unfold SweepStore.isSuspended SweepStore.tenant
    rw [hdb]
  exact ⟨hdevices, hlog, hkept, hsound, fun h => Or.inl (hsuspended.trans h),
    fun _ h => hsuspended.trans h, fun c => by rw [hdb]⟩

lemma activated_logged (s : SweepStore) (e : Happened) (d : RegistryDevice) (h : Activated s d) :
    Activated (s.logged e) d := mem_append_left _ h

lemma unsuspend_suspendedAt (keepLadder : Bool) (row : Tenant) :
    (unsuspend keepLadder row).suspendedAt = none := by
  unfold unsuspend
  split
  · assumption
  · rfl

lemma isSuspended_updateTenant (s : SweepStore) (f : Tenant → Tenant) (hid : ∀ row, (f row).id = row.id) :
    (s.updateTenant tenantId f).isSuspended tenantId =
      (((s.tenant tenantId).map f).bind Tenant.suspendedAt).isSome := by
  unfold SweepStore.isSuspended SweepStore.tenant SweepStore.updateTenant
  dsimp only
  rw [tenant_map fun row => by split <;> simp [hid]]
  cases hrow : s.db.tenants.find? (·.id = tenantId) with
  | none => rfl
  | some row =>
    have hself : row.id = tenantId := by simpa using find?_some hrow
    simp only [Option.map_some, if_pos hself]

lemma suspend_isSuspended {time : Ms} (h : ((SweepCall.suspend tenantId time).run s).2 = true) :
    ((SweepCall.suspend tenantId time).run s).1.isSuspended tenantId = true := by
  set f : Tenant → Tenant := fun row => { row with suspendedAt := some time } with hf
  unfold SweepCall.run at h ⊢
  dsimp only at h ⊢
  cases hrow : s.tenant tenantId with
  | none =>
    rw [hrow] at h
    cases h
  | some row =>
    rw [hrow] at h
    dsimp only at h ⊢
    by_cases hnull : row.suspendedAt = none
    · rw [if_pos hnull]
      show (s.updateTenant tenantId f).isSuspended tenantId = true
      rw [isSuspended_updateTenant s f fun _ => rfl, hrow]
      rfl
    · rw [if_neg hnull] at h
      cases h

lemma Upheld.updateTenant (s : SweepStore) (hid : ∀ row, (f row).id = row.id)
    (hcustomer : ∀ row, (f row).stripeCustomerId = row.stripeCustomerId)
    (hflag : t = tenantId → ∀ row, (f row).suspendedAt = row.suspendedAt) :
    Upheld fleet tenantId late s (s.updateTenant t f) := by
  refine .of_db (f := fun row => if row.id = t then f row else row) rfl (fun _ h => h) rfl rfl ?_ ?_ ?_
  · intro row
    split
    · exact hid row
    · rfl
  · intro row
    split
    · exact hcustomer row
    · rfl
  · intro row hrow
    split
    · rename_i ht
      exact hflag (ht.symm.trans hrow) row
    · rfl

lemma customers_updateTenant (s : SweepStore) (hid : ∀ row, (f row).id = row.id)
    (hcustomer : ∀ row, (f row).stripeCustomerId = row.stripeCustomerId) (c : String) :
    ((s.updateTenant t f).db.tenantOfCustomer c).map Tenant.id =
      (s.db.tenantOfCustomer c).map Tenant.id := by
  unfold Store.tenantOfCustomer SweepStore.updateTenant
  dsimp only
  rw [tenantOfCustomer_map fun row => by split <;> simp [hcustomer], Option.map_map]
  congr 1
  funext row
  show (if row.id = t then f row else row).id = row.id
  split
  · exact hid row
  · rfl

/-- **One step.** A command that keeps its promise leaves everything upheld, where it does not suspend
the tenant too late and does not tear down a device that was put back. -/
lemma Promise.upheld (hkeyed : DevicesKeyed fleet) {c : SweepCall}
    (hc : Promise fleet tenantId s c)
    (hsuspend : ∀ time, c = .suspend tenantId time → s.isSuspended tenantId = false → ¬ late)
    (htears : ∀ d, d.tenantId = tenantId → c = .hdelIfMine d ∨ c = .drop d → ¬ Activated s d) :
    Upheld fleet tenantId late s (c.run s).1 := by
  -- a device of the tenant is torn down only while the tenant is suspended
  have hdown : ∀ d ∈ fleet, d.tenantId = tenantId → ¬ Activated s d →
      (s.isSuspended tenantId = true ∨ Brought fleet tenantId s) → s.isSuspended tenantId = true :=
    fun d hd htenant hnot h => h.resolve_right fun hbrought => hnot (hbrought d hd htenant)
  cases c with
  | listLapsedTenants now => exact .refl
  | listSuspended => exact .refl
  | registryDevicesFor t => exact .refl
  | deviceTenant id => exact .refl
  | isSuppressed email => exact .refl
  | isSuspended t => exact .refl
  | tenantIdForCustomer c => exact .refl
  | enqueueLapseEmail job =>
    exact .of_registry rfl (fun d h => activated_logged s _ d h) rfl (fun _ _ _ _ h => h) fun h => h
  | activate d prevTenant =>
    have hd : d ∈ fleet := hc
    have hhas : ∀ e ∈ fleet, s.registry.Has e → (s.registry.activate d prevTenant).Has e := by
      intro e he h
      by_cases heq : e = d
      · exact heq ▸ Registry.has_activate _ _ _
      · exact h.activate_other (fun hid => heq (hkeyed.ids e he d hd hid))
          (fun himei => heq (hkeyed.imeis e he d hd himei)) prevTenant
    exact .of_registry rfl (fun e h => activated_logged s _ e h) rfl (fun e he _ _ h => hhas e he h)
      fun h hcalm e he htenant => hhas e he (h hcalm e he htenant)
  | hdelIfMine d =>
    obtain ⟨hd, hgone⟩ := hc
    refine .of_registry rfl (fun _ h => h) rfl (fun e he htenant hact h => ?_) fun h hcalm e he htenant => ?_
    · refine h.hdelIfMine_other fun hid => ?_
      obtain rfl := hkeyed.ids e he d hd hid
      exact htears e htenant (Or.inl rfl) hact
    · refine (h hcalm e he htenant).hdelIfMine_other fun hid => ?_
      obtain rfl := hkeyed.ids e he d hd hid
      have hcalm : s.isSuspended tenantId = false := hcalm
      rw [hdown e he htenant (htears e htenant (Or.inl rfl)) (hgone htenant)] at hcalm
      cases hcalm
  | drop d =>
    obtain ⟨hd, hgone⟩ := hc
    refine .of_registry rfl (fun _ h => h) rfl (fun e he htenant hact h => ?_) fun h hcalm e he htenant => ?_
    · refine h.drop_other fun hid => ?_
      obtain rfl := hkeyed.ids e he d hd hid
      exact htears e htenant (Or.inr rfl) hact
    · refine (h hcalm e he htenant).drop_other fun hid => ?_
      obtain rfl := hkeyed.ids e he d hd hid
      have hcalm : s.isSuspended tenantId = false := hcalm
      rw [hdown e he htenant (htears e htenant (Or.inr rfl)) (hgone htenant)] at hcalm
      cases hcalm
  | markLapseNotice t stage forLapse =>
    refine .updateTenant s ?_ ?_ ?_
    all_goals
      intros
      unfold markLapseNotice
      split <;> rfl
  | suspend t time =>
    unfold SweepCall.run
    dsimp only
    split
    · exact .refl
    · rename_i row hrow
      split
      · rename_i hnull
        set f : Tenant → Tenant := fun row => { row with suspendedAt := some time } with hf
        by_cases ht : t = tenantId
        · subst ht
          have hcalm : s.isSuspended t = false := by
            unfold SweepStore.isSuspended
            rw [hrow]
            show row.suspendedAt.isSome = false
            rw [hnull]
            rfl
          have hafter : ((s.updateTenant t f).logged (.suspended t (lapsedAt row))).isSuspended t =
              true := by
            show (s.updateTenant t f).isSuspended t = true
            rw [isSuspended_updateTenant s f fun _ => rfl, hrow]
            rfl
          refine ⟨rfl, fun d h => activated_logged _ _ d h, fun _ _ _ _ h => h, fun _ h => ?_,
            fun _ => Or.inl hafter, fun hlate _ => absurd hlate (hsuspend time rfl hcalm),
            customers_updateTenant s (fun _ => rfl) fun _ => rfl⟩
          rw [hafter] at h
          cases h
        · have hother : Upheld fleet tenantId late s
              (s.updateTenant t fun row => { row with suspendedAt := some time }) :=
            .updateTenant s (fun _ => rfl) (fun _ => rfl) fun heq => absurd heq ht
          exact ⟨rfl, fun d h => activated_logged _ _ d h, hother.kept, hother.sound,
            fun h => (hother.lifted h).imp_right fun hbrought d hd htenant =>
              activated_logged _ _ d (hbrought d hd htenant), hother.calm, hother.customers⟩
      · exact .refl
  | unsuspend t keepLadder =>
    show Upheld fleet tenantId late s (s.updateTenant t (unsuspend keepLadder))
    by_cases ht : t = tenantId
    · obtain ⟨hbrought, hpresent⟩ := hc ht
      subst ht
      have hafter : (s.updateTenant t (unsuspend keepLadder)).isSuspended t = false := by
        rw [isSuspended_updateTenant s _ (unsuspend_id keepLadder)]
        cases s.tenant t with
        | none => rfl
        | some row =>
          show ((unsuspend keepLadder row).suspendedAt).isSome = false
          rw [unsuspend_suspendedAt]
          rfl
      exact ⟨rfl, fun _ h => h, fun _ _ _ _ h => h, fun _ _ => hpresent, fun _ => Or.inr hbrought,
        fun _ _ => hafter,
        customers_updateTenant s (unsuspend_id keepLadder) (unsuspend_stripeCustomerId keepLadder)⟩
    · exact .updateTenant s (unsuspend_id keepLadder) (unsuspend_stripeCustomerId keepLadder)
        fun heq => absurd heq ht
  | applySubscriptionEvent event data =>
    obtain ⟨f, hrows, hid, hcustomer, hflag⟩ := applySubscriptionEvent_rows event data s.db
    exact .of_db rfl (fun d h => mem_append_left _ h) rfl hrows hid hcustomer fun row _ => hflag row

lemma Upheld.weaken (h : Upheld fleet tenantId late s s') : Upheld fleet tenantId False s s' :=
  { h with calm := fun hlate => hlate.elim }

/-! ## The programs -/

variable (fleet tenantId) in
/-- A program that keeps its promises among steps that leave everything upheld; it returns in `Q`, and
throws in `E`. -/
abbrev Guarded (late : Option SweepCall → Prop) {α : Type} (E : SweepStore → Prop)
    (Q : α → SweepStore → Prop) (m : Sweep α) (s : SweepStore) : Prop :=
  m.Meets (fun _ => Answered) (fun waiting => Upheld fleet tenantId (late waiting)) (Own fleet tenantId)
    (Ending Q E) s

variable (fleet tenantId) in
/-- One that keeps nothing but the devices. -/
abbrev Swept (late : Option SweepCall → Prop) {α : Type} (m : Sweep α) (s : SweepStore) : Prop :=
  Guarded fleet tenantId late (·.devices = fleet) (fun _ s => s.devices = fleet) m s

variable (fleet tenantId) in
/-- What every step keeps. -/
def Firm (K : SweepStore → Prop) : Prop := ∀ s s', Upheld fleet tenantId False s s' → K s → K s'

lemma Firm.and {K K' : SweepStore → Prop} (h : Firm fleet tenantId K) (h' : Firm fleet tenantId K') :
    Firm fleet tenantId fun s => K s ∧ K' s :=
  fun s s' hup hk => ⟨h s s' hup hk.1, h' s s' hup hk.2⟩

lemma firm_devices : Firm fleet tenantId (·.devices = fleet) := fun _ _ hup h => hup.devices.trans h

lemma devices_run (c : SweepCall) (s : SweepStore) : (c.run s).1.devices = s.devices := by
  cases c with
  | suspend t time =>
    unfold SweepCall.run
    dsimp only
    split
    · rfl
    split <;> rfl
  | _ => rfl

section Rules

variable {waits : Option SweepCall → Prop} {E : SweepStore → Prop} {α β : Type} {Q : α → SweepStore → Prop}
  {R : β → SweepStore → Prop} {r : LapseSweepResult}

/-- A program that has returned. -/
lemma Guarded.done {a : α} (K : SweepStore → Prop) (hK : Firm fleet tenantId K) (hs : K s)
    (h : ∀ s, K s → Q a s) : Guarded fleet tenantId waits E Q (.done a) s :=
  Meets.done K hs (fun s s' hup hk => hK s s' hup.weaken hk) h

/-- One call on Redis or Postgres, from an assertion that every step keeps. -/
lemma Guarded.call {c : SweepCall} {f : c.Answer → Sweep α} (K : SweepStore → Prop)
    (hK : Firm fleet tenantId K) (hs : s.devices = fleet ∧ K s) (hmail : ∀ job, c ≠ .enqueueLapseEmail job)
    (h : ∀ s, s.devices = fleet → K s → Promise fleet tenantId s c ∧
      Guarded fleet tenantId waits E Q (f (c.run s).2) (c.run s).1) :
    Guarded fleet tenantId waits E Q (sweepCall r c >>= f) s := by
  refine Meets.sendOk _ hs (fun s s' hup hk => (firm_devices.and hK) s s' hup.weaken hk) ?_ ?_
  · intro _ fate hfate
    cases c with
    | enqueueLapseEmail job => exact absurd rfl (hmail job)
    | _ => exact hfate
  · intro s hs
    obtain ⟨hpromise, hrest⟩ := h s hs.1 hs.2
    exact ⟨⟨hs.1, hpromise, Or.inr rfl⟩, hrest⟩

lemma Guarded.mail {job : LapseEmail} {f : Unit → Sweep α} (K : SweepStore → Prop)
    (hK : Firm fleet tenantId K) (hs : s.devices = fleet ∧ K s)
    (h : ∀ s, s.devices = fleet → K s → Guarded fleet tenantId waits (·.devices = fleet) Q (f ()) s) :
    Guarded fleet tenantId waits (·.devices = fleet) Q (sweepCall r (.enqueueLapseEmail job) >>= f) s := by
  have hafter : ∀ s : SweepStore, Upheld fleet tenantId False s
      ((SweepCall.enqueueLapseEmail job).run s).1 := fun s =>
    .of_registry rfl (fun d h => activated_logged s _ d h) rfl (fun _ _ _ _ h => h) fun h => h
  have hthrown : ∀ s : SweepStore, s.devices = fleet →
      Guarded fleet tenantId waits (·.devices = fleet) Q (.threw r) s := fun s hs =>
    .threw _ hs (fun s s' hup hk => firm_devices s s' hup.weaken hk) fun _ h => h
  refine Meets.send _ hs (fun s s' hup hk => (firm_devices.and hK) s s' hup.weaken hk) ?_ ?_ ?_
  · intro s hs
    exact ⟨⟨hs.1, trivial, Or.inr rfl⟩, h _ hs.1 (hK _ _ (hafter s) hs.2)⟩
  · intro s hs
    exact ⟨⟨hs.1, trivial, Or.inl rfl⟩, hthrown s hs.1⟩
  · intro s hs
    exact hthrown _ hs.1

variable {m : Sweep α} {d : RegistryDevice} {rows : List RegistryDevice}

lemma Guarded.bind {f : α → Sweep β} (hm : Guarded fleet tenantId waits E Q m s)
    (h : ∀ a s, Q a s → Guarded fleet tenantId waits E R (f a) s) :
    Guarded fleet tenantId waits E R (m >>= f) s :=
  Meets.bind hm h fun _ _ h => h

/-- A `try` whose `catch` returns. -/
lemma Guarded.attempt {handler : LapseSweepResult → α} (hm : Swept fleet tenantId waits m s) :
    Swept fleet tenantId waits (m.attempt fun r => pure (handler r)) s :=
  Meets.attempt hm (fun _ _ h => h) fun _ _ hs => Guarded.done _ firm_devices hs fun _ h => h

lemma Guarded.mono {S : α → SweepStore → Prop} (hm : Guarded fleet tenantId waits E S m s)
    (h : ∀ a s, S a s → Q a s) : Guarded fleet tenantId waits E Q m s := by
  refine Meets.mono hm fun r s hr => ?_
  cases r with
  | ok a => exact h a s hr
  | error e => exact hr

lemma Guarded.when {c : Prop} [Decidable c] {m : Sweep Unit} (hs : s.devices = fleet)
    (hm : c → Swept fleet tenantId waits m s) :
    Swept fleet tenantId waits (Async.when c m) s := by
  unfold Async.when
  split
  · rename_i hc
    exact hm hc
  · exact Guarded.done _ firm_devices hs fun _ h => h

def Put (tenantId : String) (s : SweepStore) (d : RegistryDevice) : Prop :=
  d.tenantId = tenantId → Activated s d ∧ s.registry.Has d

lemma firm_put (hd : d ∈ fleet) : Firm fleet tenantId (Put tenantId · d) :=
  fun _ _ hup h htenant =>
    ⟨hup.activated d (h htenant).1, hup.kept d hd htenant (h htenant).1 (h htenant).2⟩

lemma guarded_activateDevice (hkeyed : DevicesKeyed fleet) {K : SweepStore → Prop}
    (hK : Firm fleet tenantId K) (hd : d ∈ fleet) (hs : s.devices = fleet ∧ K s) :
    Guarded fleet tenantId waits E
      (fun _ s => s.devices = fleet ∧ K s ∧ Put tenantId s d) (activateDevice r d) s := by
  refine Guarded.call K hK hs (fun _ h => by cases h) fun s hs hKs => ⟨trivial, ?_⟩
  generalize ((SweepCall.deviceTenant d.id).run s).2 = prevTenant
  rw [← bind_done (sweepCall r _)]
  refine Guarded.call K hK ⟨hs, hKs⟩ (fun _ h => by cases h) fun s hs hKs => ⟨hd, ?_⟩
  have hup : Upheld fleet tenantId False s ((SweepCall.activate d prevTenant).run s).1 :=
    Promise.upheld hkeyed hd (fun _ h => by cases h) fun _ _ h => by rcases h with h | h <;> cases h
  refine Guarded.done _ (firm_devices.and (hK.and (firm_put hd)))
    ⟨hs, hK _ _ hup hKs, fun _ => ⟨?_, ?_⟩⟩ fun _ h => h
  · exact mem_append_right _ (mem_singleton_self _)
  · exact Registry.has_activate _ _ _

lemma guarded_restoreTenantDevices (hkeyed : DevicesKeyed fleet) (hrows : ∀ d ∈ rows, d ∈ fleet)
    (hs : s.devices = fleet) :
    Guarded fleet tenantId waits E (fun _ s => s.devices = fleet ∧ ∀ d ∈ rows, Put tenantId s d)
      (restoreTenantDevices r rows) s := by
  have hfirm : ∀ before : List RegistryDevice, (∀ d ∈ before, d ∈ fleet) →
      Firm fleet tenantId fun s => ∀ d ∈ before, Put tenantId s d :=
    fun before hbefore s s' hup h d hd => firm_put (hbefore d hd) s s' hup (h d hd)
  refine Meets.foldlM (fun before _ s => s.devices = fleet ∧ ∀ d ∈ before, Put tenantId s d)
    ?_ ?_ ⟨hs, fun _ hd => by cases hd⟩
  · exact fun _ s s' hup h => (firm_devices.and (hfirm rows hrows)) s s' hup.weaken h
  · intro before d after _ s hsplit hs
    have hmem : ∀ e ∈ before ++ [d], e ∈ rows := fun e he => by
      rw [hsplit]
      rcases mem_append.mp he with he | he
      · exact mem_append_left _ he
      · exact mem_append_right _ (mem_singleton.mp he ▸ mem_cons_self)
    refine (guarded_activateDevice hkeyed
      (hfirm before fun e he => hrows e (hmem e (mem_append_left _ he)))
      (hrows d (hmem d (by simp))) hs).mono fun _ s hput => ?_
    obtain ⟨hdevices, hbefore, hd⟩ := hput
    refine ⟨hdevices, fun e he => ?_⟩
    rcases mem_append.mp he with he | he
    · exact hbefore e he
    · exact mem_singleton.mp he ▸ hd

/-- The tenant is suspended, or was brought back since. -/
def Down (fleet : List RegistryDevice) (tenantId t : String) (s : SweepStore) : Prop :=
  t = tenantId → s.isSuspended tenantId = true ∨ Brought fleet tenantId s

lemma firm_down (t : String) : Firm fleet tenantId (Down fleet tenantId t) := by
  intro s s' hup h ht
  rcases h ht with h | h
  · exact hup.lifted h
  · exact Or.inr fun d hd htenant => hup.activated d (h d hd htenant)

lemma guarded_suspendTenantDevices {t : String} (hrows : ∀ d ∈ rows, d ∈ fleet ∧ d.tenantId = t)
    (hs : s.devices = fleet) (hdown : Down fleet tenantId t s) :
    Swept fleet tenantId waits (suspendTenantDevices r rows) s := by
  refine Guarded.mono (S := fun _ s => s.devices = fleet ∧ Down fleet tenantId t s) ?_
    fun _ _ h => h.1
  refine Meets.foldlM (fun _ _ s => s.devices = fleet ∧ Down fleet tenantId t s) ?_ ?_ ⟨hs, hdown⟩
  · exact fun _ s s' hup h => (firm_devices.and (firm_down t)) s s' hup.weaken h
  · intro before d after _ s hsplit hs
    obtain ⟨hd, ht⟩ := hrows d (by rw [hsplit]; simp)
    unfold deactivateDevice
    refine Guarded.call _ (firm_down t) hs (fun _ h => by cases h) fun s hs hdown =>
      ⟨⟨hd, fun htenant => hdown (ht.symm.trans htenant)⟩, ?_⟩
    rw [← bind_done (sweepCall r _)]
    refine Guarded.call _ (firm_down t) ⟨hs, hdown⟩ (fun _ h => by cases h) fun s hs hdown =>
      ⟨⟨hd, fun htenant => hdown (ht.symm.trans htenant)⟩, ?_⟩
    exact Guarded.done _ (firm_devices.and (firm_down t)) ⟨hs, hdown⟩ fun _ h => h

end Rules

/-! ## The sweep -/

section Sweep

variable {waits : Option SweepCall → Prop} {E : SweepStore → Prop} {deps : SweepDeps} {r : LapseSweepResult}

lemma firm_true : Firm fleet tenantId fun _ => True := fun _ _ _ h => h

variable {t : String} {α : Type}

lemma rows_mem (hs : s.devices = fleet) :
    ∀ d ∈ ((SweepCall.registryDevicesFor t).run s).2, d ∈ fleet ∧ d.tenantId = t := by
  intro d hd
  obtain ⟨hd, ht⟩ := mem_filter.mp hd
  exact ⟨hs ▸ hd, of_decide_eq_true ht⟩

lemma guarded_restore (hkeyed : DevicesKeyed fleet) {Q : α → SweepStore → Prop} {f : Bool → Sweep α}
    (hs : s.devices = fleet) (h : ∀ b s, s.devices = fleet →
      (t = tenantId → s.isSuspended tenantId = false ∧ Present fleet tenantId s) →
      Guarded fleet tenantId waits E Q (f b) s) :
    Guarded fleet tenantId waits E Q (do
      let devices ← sweepCall r (.registryDevicesFor t)
      restoreTenantDevices r devices
      let b ← sweepCall r (.unsuspend t false)
      f b) s := by
  refine Guarded.call _ firm_true ⟨hs, trivial⟩ (fun _ h => by cases h) fun s hs _ => ⟨trivial, ?_⟩
  have hrows := rows_mem (t := t) hs
  set rows := ((SweepCall.registryDevicesFor t).run s).2 with hrowsdef
  have hall : t = tenantId → ∀ d ∈ fleet, d.tenantId = tenantId → d ∈ rows := by
    intro ht d hd htenant
    exact mem_filter.mpr ⟨hs ▸ hd, decide_eq_true (htenant.trans ht.symm)⟩
  have hput : Firm fleet tenantId fun s => ∀ d ∈ rows, Put tenantId s d :=
    fun s s' hup h d hd => firm_put (hrows d hd).1 s s' hup (h d hd)
  refine (guarded_restoreTenantDevices hkeyed (fun d hd => (hrows d hd).1) hs).bind fun _ s hs => ?_
  refine Guarded.call _ hput hs (fun _ h => by cases h) fun s hs hput => ?_
  have hbrought : t = tenantId → Brought fleet tenantId s ∧ Present fleet tenantId s := fun ht =>
    ⟨fun d hd htenant => (hput d (hall ht d hd htenant) htenant).1,
      fun d hd htenant => (hput d (hall ht d hd htenant) htenant).2⟩
  refine ⟨hbrought, h _ _ hs fun ht => ⟨?_, (hbrought ht).2⟩⟩
  subst ht
  show (s.updateTenant t (unsuspend false)).isSuspended t = false
  rw [isSuspended_updateTenant s _ (unsuspend_id false)]
  cases s.tenant t with
  | none => rfl
  | some row =>
    show ((unsuspend false row).suspendedAt).isSome = false
    rw [unsuspend_suspendedAt]
    rfl

lemma guarded_restoreTenant (hkeyed : DevicesKeyed fleet) (lapsed : List LapsedTenant) (t : String)
    (hs : s.devices = fleet) :
    Swept fleet tenantId waits (restoreTenant lapsed r t) s := by
  unfold restoreTenant
  split
  · exact Guarded.done _ firm_devices hs fun _ h => h
  · refine Guarded.attempt (guarded_restore hkeyed hs fun _ s hs _ => ?_)
    exact Guarded.done _ firm_devices hs fun _ h => h

lemma guarded_foldlM {β : Type} {f : β → α → Sweep β} {l : List α} {b : β}
    (hstep : ∀ b a s, s.devices = fleet → Swept fleet tenantId waits (f b a) s)
    (hs : s.devices = fleet) :
    Swept fleet tenantId waits (l.foldlM f b) s :=
  Meets.foldlM (fun _ _ s => s.devices = fleet)
    (fun _ s s' hup h => firm_devices s s' hup.weaken h) (fun _ a _ b s _ hs => hstep b a s hs) hs

lemma guarded_restoreAll (hkeyed : DevicesKeyed fleet) (lapsed : List LapsedTenant)
    (hs : s.devices = fleet) :
    Swept fleet tenantId waits (restoreAll deps lapsed r) s := by
  unfold restoreAll
  split
  · refine Guarded.call _ firm_true ⟨hs, trivial⟩ (fun _ h => by cases h) fun s hs _ => ⟨trivial, ?_⟩
    exact guarded_foldlM (fun r t s hs => guarded_restoreTenant hkeyed lapsed t hs) hs
  · exact Guarded.done _ firm_devices hs fun _ h => h

lemma guarded_isReachable (t : LapsedTenant) (hs : s.devices = fleet) :
    Swept fleet tenantId waits (isReachable r t) s := by
  unfold isReachable
  split
  · exact Guarded.done _ firm_devices hs fun _ h => h
  · refine Guarded.bind (Q := fun _ s => s.devices = fleet) (Guarded.attempt ?_) fun _ s hs =>
      Guarded.done _ firm_devices hs fun _ h => h
    rw [← bind_done (sweepCall r _)]
    refine Guarded.call _ firm_true ⟨hs, trivial⟩ (fun _ h => by cases h) fun s hs _ => ⟨trivial, ?_⟩
    exact Guarded.done _ firm_devices hs fun _ h => h

lemma guarded_warn (t : LapsedTenant) (past : ℤ) (reachable : Bool) (hs : s.devices = fleet) :
    Swept fleet tenantId waits (warn deps t past reachable r) s := by
  unfold warn
  split
  · split
    · refine Guarded.mail _ firm_true ⟨hs, trivial⟩ fun s hs _ => ?_
      refine Guarded.call _ firm_true ⟨hs, trivial⟩ (fun _ h => by cases h) fun s hs _ => ⟨trivial, ?_⟩
      exact Guarded.done _ firm_devices ((devices_run _ s).trans hs) fun _ h => h
    · exact Guarded.done _ firm_devices hs fun _ h => h
  · exact Guarded.done _ firm_devices hs fun _ h => h

lemma guarded_tellSuspended (t : LapsedTenant) (reachable : Bool) (hs : s.devices = fleet) :
    Swept fleet tenantId waits (tellSuspended deps t reachable r) s := by
  unfold tellSuspended
  split
  · refine Guarded.when hs fun _ => ?_
    rw [← bind_done (sweepCall r _)]
    refine Guarded.mail _ firm_true ⟨hs, trivial⟩ fun s hs _ => ?_
    exact Guarded.done _ firm_devices hs fun _ h => h
  · exact Guarded.done _ firm_devices hs fun _ h => h

lemma guarded_tearDown {Q : α → SweepStore → Prop} {rest : Sweep α} (hs : s.devices = fleet)
    (hdown : Down fleet tenantId t s)
    (h : ∀ s, s.devices = fleet → Guarded fleet tenantId waits (·.devices = fleet) Q rest s) :
    Guarded fleet tenantId waits (·.devices = fleet) Q (do
      let devices ← sweepCall r (.registryDevicesFor t)
      suspendTenantDevices r devices
      rest) s := by
  refine Guarded.call _ (firm_down t) ⟨hs, hdown⟩ (fun _ h => by cases h) fun s hs hdown =>
    ⟨trivial, ?_⟩
  exact (guarded_suspendTenantDevices (rows_mem hs) hs hdown).bind fun _ s hs => h s hs

lemma guarded_cutOff (nowMs : Ms) (t : LapsedTenant) (past : ℤ) (reachable : Bool)
    (hs : s.devices = fleet) :
    Swept fleet tenantId waits (cutOff deps nowMs t past reachable r) s := by
  unfold cutOff
  split
  · refine Guarded.call _ firm_true ⟨hs, trivial⟩ (fun _ h => by cases h) fun s hs _ => ⟨trivial, ?_⟩
    split
    · rename_i hsuspended
      have hflag : s.isSuspended t.tenantId = true := (Bool.and_eq_true_iff.mp hsuspended).1
      refine guarded_tearDown hs (fun ht => Or.inl ?_) fun s hs => ?_
      · exact ht ▸ hflag
      exact Guarded.done _ firm_devices hs fun _ h => h
    · exact Guarded.done _ firm_devices hs fun _ h => h
  split
  · refine Guarded.call _ firm_true ⟨hs, trivial⟩ (fun _ h => by cases h) fun s hs _ => ⟨trivial, ?_⟩
    have hdevices : ((SweepCall.suspend t.tenantId nowMs).run s).1.devices = fleet :=
      (devices_run _ s).trans hs
    split
    · rename_i hcut
      dsimp only
      refine guarded_tearDown hdevices (fun ht => Or.inl ?_) fun s hs => ?_
      · exact ht ▸ suspend_isSuspended hcut
      · exact (guarded_tellSuspended t reachable hs).bind fun _ s hs =>
          Guarded.done _ firm_devices hs fun _ h => h
    · exact Guarded.done _ firm_devices hdevices fun _ h => h
  · exact Guarded.done _ firm_devices hs fun _ h => h

lemma guarded_climb (nowMs : Ms) (graceDays : ℤ) (t : LapsedTenant) (hs : s.devices = fleet) :
    Swept fleet tenantId waits (climb deps nowMs graceDays r t) s := by
  unfold climb
  split
  · exact Guarded.done _ firm_devices hs fun _ h => h
  split
  · exact Guarded.done _ firm_devices hs fun _ h => h
  · refine Guarded.attempt ?_
    refine (guarded_isReachable t hs).bind fun reachable s hs => ?_
    exact (guarded_warn t _ reachable hs).bind fun r s hs => guarded_cutOff nowMs t _ reachable hs

lemma guarded_runLapseSweep (hkeyed : DevicesKeyed fleet) (nowMs : Ms) (graceDays : ℤ)
    (hs : s.devices = fleet) :
    Swept fleet tenantId waits (runLapseSweep deps nowMs graceDays) s := by
  unfold runLapseSweep
  refine Guarded.call _ firm_true ⟨hs, trivial⟩ (fun _ h => by cases h) fun s hs _ => ⟨trivial, ?_⟩
  refine (guarded_restoreAll hkeyed _ hs).bind fun r s hs => ?_
  exact guarded_foldlM (fun r t s hs => guarded_climb nowMs graceDays t hs) hs

end Sweep

/-! ## The webhook -/

/-- The webhook has looked at the flag, or has nothing left to do. -/
def Late : Option SweepCall → Prop
  | some (.applySubscriptionEvent _ _) => False
  | some (.tenantIdForCustomer _) => False
  | some (.isSuspended _) => False
  | _ => True

instance (waiting : Option SweepCall) : Decidable (Late waiting) := by
  unfold Late
  split <;> infer_instance

def Live (fleet : List RegistryDevice) (tenantId : String) (s : SweepStore) : Prop :=
  s.isSuspended tenantId = false ∧ Present fleet tenantId s

variable {E : SweepStore → Prop}

lemma guarded_live {α : Type} {Q : α → SweepStore → Prop} {a : α}
    (hcalm : s.isSuspended tenantId = false) (hsound : Sound fleet tenantId s)
    (h : ∀ s, Live fleet tenantId s → Q a s) :
    Guarded fleet tenantId Late E Q (.done a) s := by
  refine Meets.done (fun s => s.isSuspended tenantId = false ∧ Sound fleet tenantId s)
    ⟨hcalm, hsound⟩ (fun s s' hup hs => ⟨hup.calm trivial hs.1, hup.sound hs.2⟩) fun s hs => ?_
  exact h s ⟨hs.1, hs.2 hs.1⟩

lemma guarded_restoreOnPayment (hkeyed : DevicesKeyed fleet) {customerId : String}
    (hs : s.devices = fleet)
    (hcustomer : (s.db.tenantOfCustomer customerId).map Tenant.id = some tenantId)
    (hsound : Sound fleet tenantId s) :
    Guarded fleet tenantId Late E (fun _ s => Live fleet tenantId s) (restoreOnPayment customerId) s := by
  -- nothing is thrown: every call is answered
  refine Meets.attempt (S := Ending (fun _ s => Live fleet tenantId s) fun _ => False) ?_
    (fun _ _ h => h) fun _ _ h => h.elim
  have hfirm : Firm fleet tenantId fun s =>
      (s.db.tenantOfCustomer customerId).map Tenant.id = some tenantId ∧ Sound fleet tenantId s :=
    fun s s' hup h => ⟨(hup.customers customerId).trans h.1, hup.sound h.2⟩
  refine Guarded.call _ hfirm ⟨hs, hcustomer, hsound⟩ (fun _ h => by cases h)
    fun s hs hK => ⟨trivial, ?_⟩
  obtain ⟨hcustomer, hsound⟩ := hK
  have hanswer : ((SweepCall.tenantIdForCustomer customerId).run s).2 = some tenantId := hcustomer
  rw [hanswer]
  dsimp only
  refine Guarded.call _ hfirm ⟨hs, hcustomer, hsound⟩ (fun _ h => by cases h)
    fun s hs hK => ⟨trivial, ?_⟩
  split
  · refine guarded_restore hkeyed hs fun _ s _ hrestored => ?_
    obtain ⟨hcalm, hpresent⟩ := hrestored rfl
    exact guarded_live hcalm (fun _ => hpresent) fun _ h => h
  · rename_i hcalm
    exact guarded_live (Bool.eq_false_iff.mpr hcalm) hK.2 fun _ h => h

/-- **The webhook** leaves the tenant of a live status restored. -/
lemma guarded_deliverSubscription (hkeyed : DevicesKeyed fleet) {event : SubscriptionEvent}
    {data : SubscriptionUpdate} (hs : s.devices = fleet)
    (hcustomer : (s.db.tenantOfCustomer event.stripeCustomerId).map Tenant.id = some tenantId)
    (hsound : Sound fleet tenantId s) :
    Guarded fleet tenantId Late E
      (fun outcome s => outcome = .applied → isLive data.subscriptionStatus → Live fleet tenantId s)
      (deliverSubscription event data) s := by
  have hfirm : Firm fleet tenantId fun s =>
      (s.db.tenantOfCustomer event.stripeCustomerId).map Tenant.id = some tenantId ∧
        Sound fleet tenantId s :=
    fun s s' hup h => ⟨(hup.customers _).trans h.1, hup.sound h.2⟩
  refine Guarded.call _ hfirm ⟨hs, hcustomer, hsound⟩ (fun _ h => by cases h)
    fun s hs hK => ⟨trivial, ?_⟩
  have hup : Upheld fleet tenantId False s ((SweepCall.applySubscriptionEvent event data).run s).1 :=
    Promise.upheld hkeyed trivial (fun _ h => by cases h) fun _ _ h => by rcases h with h | h <;> cases h
  have hK' := hfirm _ _ hup hK
  have hs' := (devices_run (.applySubscriptionEvent event data) s).trans hs
  revert hK' hs'
  generalize (SweepCall.applySubscriptionEvent event data).run s = result
  intro hK' hs'
  obtain ⟨s', outcome⟩ := result
  dsimp only at hK' hs' ⊢
  unfold when
  split
  · refine Guarded.bind (guarded_restoreOnPayment hkeyed hs' hK'.1 hK'.2) fun _ s hlive => ?_
    exact guarded_live hlive.1 (fun _ => hlive.2) fun _ h _ _ => h
  · rename_i hnot
    exact Guarded.done _ firm_true trivial fun _ _ happlied hlive => absurd ⟨happlied, hlive⟩ hnot

end Tenant

/-! ## The interleaving -/

/-- Who takes a step. -/
inductive Party
  | sweep
  | webhook
  deriving DecidableEq

inductive Returned
  | swept (r : LapseSweepResult)
  | delivered (outcome : ApplyOutcome)
  deriving DecidableEq

def interleaved (deps : SweepDeps) (nowMs : Ms) (graceDays : ℤ) (event : SubscriptionEvent)
    (data : SubscriptionUpdate) (s : SweepStore) :
    Pool Party sweepService LapseSweepResult Returned where
  state := s
  thread
    | .sweep => do
      let r ← runLapseSweep deps nowMs graceDays
      pure (.swept r)
    | .webhook => do
      let outcome ← deliverSubscription event data
      pure (.delivered outcome)

/-- The condition on a step.  Redis and Postgres answer; a tenant that is not suspended is suspended
only before the webhook has looked at the flag, and no device is torn down that was put back. -/
def Tame (tenantId : String) (p : Pool Party sweepService LapseSweepResult Returned) (_i : Party)
    (c : SweepCall) (fate : Fate) : Prop :=
  Answered c fate ∧
    match c with
    | .suspend t _ => t = tenantId → p.state.isSuspended tenantId = false →
      ¬ Late (p.thread .webhook).pending
    | .hdelIfMine d => d.tenantId = tenantId → ¬ Activated p.state d
    | .drop d => d.tenantId = tenantId → ¬ Activated p.state d
    | _ => True

instance (s : SweepStore) (d : RegistryDevice) : Decidable (Activated s d) :=
  inferInstanceAs (Decidable (_ ∈ _))

instance (tenantId : String) (p : Pool Party sweepService LapseSweepResult Returned) (i : Party)
    (c : SweepCall) (fate : Fate) : Decidable (Tame tenantId p i c fate) := by
  unfold Tame
  cases c <;> infer_instance

section Interleaved

variable {deps : SweepDeps} {nowMs : Ms} {graceDays : ℤ} {event : SubscriptionEvent}
  {data : SubscriptionUpdate} {s : SweepStore} {tenantId : String}

/-- **A tenant that has paid is not left suspended**, in any order of steps that meet the condition: once
the webhook has applied the live status and returned, the flag is off and the devices are in the
registry, whatever the sweep has still done. -/
theorem paid_not_left_suspended (hkeyed : DevicesKeyed s.devices)
    (hcustomer : (s.db.tenantOfCustomer event.stripeCustomerId).map Tenant.id = some tenantId)
    (hsound : Sound s.devices tenantId s) (hlive : isLive data.subscriptionStatus)
    {p : Pool Party sweepService LapseSweepResult Returned}
    (hrun : Pool.Run (Tame tenantId) (interleaved deps nowMs graceDays event data s) p)
    (happlied : p.thread .webhook = .done (.delivered .applied)) :
    p.state.isSuspended tenantId = false ∧
      ∀ d ∈ s.devices, d.tenantId = tenantId → p.state.registry.Has d := by
  set waits : Party → Option SweepCall → Prop := fun
    | .sweep => fun _ => False
    | .webhook => Late with hwaits
  have hcompatible : Pool.Compatible (Tame tenantId) (fun _ _ => Answered)
      (fun i waiting => Upheld s.devices tenantId (waits i waiting))
      (fun _ => Own s.devices tenantId) := by
    intro q i c fate q' hstep htame
    refine ⟨htame.1, fun hown j _ => ?_⟩
    obtain ⟨-, hpromise, heq | heq⟩ := hown
    · rw [heq]
      exact .refl
    · rw [heq]
      refine hpromise.upheld hkeyed (fun time hc hcalm => ?_) fun d htenant hc => ?_
      · subst hc
        cases j with
        | sweep => exact fun h => h
        | webhook => exact htame.2 rfl hcalm
      · rcases hc with rfl | rfl
        · exact htame.2 htenant
        · exact htame.2 htenant
  have hmeets : (interleaved deps nowMs graceDays event data s).Meets (fun _ _ => Answered)
      (fun i waiting => Upheld s.devices tenantId (waits i waiting))
      (fun _ => Own s.devices tenantId)
      (fun _ r s' => r = .ok (.delivered .applied) → Live s.devices tenantId s') := by
    intro i
    cases i with
    | sweep =>
      have hsweep : Guarded s.devices tenantId (fun _ => False) (·.devices = s.devices)
          (fun a _ => ∃ r, a = Returned.swept r)
          ((interleaved deps nowMs graceDays event data s).thread .sweep) s :=
        (guarded_runLapseSweep hkeyed nowMs graceDays rfl).bind fun r _ _ =>
          Guarded.done _ firm_true trivial fun _ _ => ⟨r, rfl⟩
      refine Meets.mono hsweep fun r s' hr heq => ?_
      subst heq
      obtain ⟨r, hr⟩ := hr
      cases hr
    | webhook =>
      have hwebhook : Guarded s.devices tenantId Late (fun _ => True)
          (fun a s' => a = Returned.delivered .applied → Live s.devices tenantId s')
          ((interleaved deps nowMs graceDays event data s).thread .webhook) s := by
        refine (guarded_deliverSubscription hkeyed rfl hcustomer hsound).bind fun outcome s' hs' => ?_
        by_cases happlied : outcome = .applied
        · obtain ⟨hcalm, hpresent⟩ := hs' happlied hlive
          exact guarded_live hcalm (fun _ => hpresent) fun _ h _ => h
        · refine Guarded.done _ firm_true trivial fun _ _ heq => absurd ?_ happlied
          exact Returned.delivered.inj heq
      refine Meets.mono hwebhook fun r s' hr heq => ?_
      subst heq
      exact hr rfl
  exact (hrun.meets hcompatible hmeets).returned happlied rfl

end Interleaved

/-! A customer who pays on the day of the suspension, before and after it. -/

def lapsedRow : Tenant where
  id := "tenant"
  plan := "tsp_start"
  stripeCustomerId := some "cus"
  stripeSubscriptionId := some "sub"
  subscriptionPriceId := some "price"
  subscriptionPriceEffectiveAt := none
  subscriptionStatus := some "canceled"
  currentPeriodEnd := none
  lastBillingEventAt := some 0
  lastBillingEventId := none
  lastBillingEventRank := none
  suspendedAt := none
  lapseNoticeStage := 3
  lapseNoticeFor := some 0

def tracker : RegistryDevice := ⟨7, "352000000000007", "tenant", "account", "{}"⟩

def lapsedStore : SweepStore where
  db := ⟨[lapsedRow], []⟩
  contact := fun _ => some ⟨"admin@tenant", "en"⟩
  devices := [tracker]
  suppressed := fun _ => false
  registry := Registry.activate ⟨fun _ => none, fun _ => none, fun _ => none, fun _ => none, fun _ => []⟩
    tracker none
  log := []

def paymentDay : Pool Party sweepService LapseSweepResult Returned :=
  interleaved ⟨true, true, some "https://app"⟩ (20 * dayMs) 14
    ⟨"cus", "evt", "customer.subscription.created", 20 * dayMs⟩
    ⟨some "sub_2", some "active", some "price", none, none⟩ lapsedStore

/-- The sweep suspends the tenant, and the webhook restores it. -/
def paidAfter : List (Party × Fate) :=
  (replicate 8 Party.sweep ++ replicate 7 Party.webhook).map (·, .ok)

/-- The sweep has listed the tenant when the payment arrives. -/
def paidBetween : List (Party × Fate) :=
  (replicate 3 Party.sweep ++ replicate 3 Party.webhook ++ replicate 5 Party.sweep).map (·, .ok)

lemma lapsedStore_keyed : DevicesKeyed lapsedStore.devices where
  ids := by
    intro d hd e he _
    rw [mem_singleton.mp hd, mem_singleton.mp he]
  imeis := by
    intro d hd e he _
    rw [mem_singleton.mp hd, mem_singleton.mp he]

lemma lapsedStore_sound : Sound lapsedStore.devices "tenant" lapsedStore := by
  intro _ d hd _
  obtain rfl := mem_singleton.mp hd
  exact Registry.has_activate _ _ _

theorem paid_not_left_suspended_after :
    ∃ p, paymentDay.execWith (Tame "tenant") paidAfter = some p ∧
      p.state.isSuspended "tenant" = false ∧ p.state.registry.imei tracker.imei = some 7 := by
  have hsome : (paymentDay.execWith (Tame "tenant") paidAfter).isSome := by decide +kernel
  obtain ⟨p, hp⟩ := Option.isSome_iff_exists.mp hsome
  have happlied : (paymentDay.execWith (Tame "tenant") paidAfter).bind
      (fun p => (p.thread .webhook).returned) = some (.delivered .applied) := by decide +kernel
  rw [hp] at happlied
  obtain ⟨hcalm, hpresent⟩ := paid_not_left_suspended lapsedStore_keyed (by decide) lapsedStore_sound
    (by decide) (Pool.run_execWith _ _ hp) (eq_done_of_returned happlied)
  exact ⟨p, hp, hcalm, (hpresent tracker (by decide) rfl).imei⟩

/-- **Paid, and suspended.** The webhook finds nothing to restore; the sweep goes on with the row that it
listed, and cuts the paying customer off. -/
theorem paid_left_suspended :
    Pool.Run (fun _ _ _ fate => fate = .ok) paymentDay (paymentDay.exec paidBetween) ∧
      ((paymentDay.exec paidBetween).thread .webhook).returned = some (.delivered .applied) ∧
      ((paymentDay.exec paidBetween).thread .sweep).returned.isSome ∧
      (paymentDay.exec paidBetween).state.isSuspended "tenant" = true ∧
      (paymentDay.exec paidBetween).state.registry.imei tracker.imei = none := by
  refine ⟨Pool.run_exec paidBetween (by decide) _, ?_⟩
  decide +kernel

end Billing

end Orbetra
