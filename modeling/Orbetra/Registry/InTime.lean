import Orbetra.Registry.Standing

/-!
# A rebuild among creations, retirements, suspensions and restores

The rebuild sends what it has read of the database some steps before, and so do the operations.  A
command is in time (`RegistryCommand.inTime`) where what it says of a device is still so in the
database, or another operation has still to say otherwise; a member that the sweep removes from an
index is in time where `device:tenant` is still what `HMGET` found.

In a run whose commands are all in time every command keeps the agreement of the registry with the
database, and in the end nobody has to publish anything. -/

namespace Orbetra.Rehydrate

open Async Function List
open Billing (Registry RegistryDevice)

variable {ι : Type} [DecidableEq ι]

/-- The command is not overtaken by a change of the database that nobody has still to publish. -/
def RegistryCommand.inTime : RegistryCommand ι → RegistryStore ι → Bool
  | .activate me d _, s => s.wanted d.id || s.leftTo me .imei d.id
  | .hsetImei d, s => s.wanted d.id || s.leftTo none .imei d.id
  | .hdelIfMine me d keepLastFix, s => !keepLastFix || !s.wanted d.id || s.leftTo me .imei d.id
  | .drop me d keepLastFix, s => !keepLastFix || !s.wanted d.id || s.leftTo me .index d.id
  | .srem tenantId gone, s => gone.all fun id =>
    s.registry.tenant id ≠ some tenantId || !s.wanted id || s.leftTo none .index id
  | _, _ => true

abbrev InTime (s : RegistryStore ι) (c : RegistryCommand ι) (fate : Fate) : Prop :=
  fate = .ok ∧ c.inTime s = true

/-! ## Programs of commands that are in time -/

section Programs

variable {me : Option ι} {s : RegistryStore ι} {α β : Type}

/-- What no step of another thread undoes. -/
def Steady (me : Option ι) (K : RegistryStore ι → Prop) : Prop :=
  ∀ t s s', t ≠ me → Standing s → Onward t s s' → K s → K s'

/-- What no step undoes. -/
def Lasting (K : RegistryStore ι → Prop) : Prop := ∀ t s s', Standing s → Onward t s s' → K s → K s'

omit [DecidableEq ι] in
lemma Lasting.steady {K : RegistryStore ι → Prop} (hK : Lasting K) : Steady me K :=
  fun t s s' _ hs h => hK t s s' hs h

omit [DecidableEq ι] in
lemma Steady.and {K L : RegistryStore ι → Prop} (hK : Steady me K) (hL : Steady me L) :
    Steady me fun s => K s ∧ L s :=
  fun t s s' ht hs h hKL => ⟨hK t s s' ht hs h hKL.1, hL t s s' ht hs h hKL.2⟩

omit [DecidableEq ι] in
lemma Steady.stable {K : RegistryStore ι → Prop} (hK : Steady me K) :
    Stable (Others me) fun s => Standing s ∧ K s := by
  rintro s s' hothers ⟨hs, h⟩
  obtain ⟨hs', t, ht, honward⟩ := hothers hs
  exact ⟨hs', hK t s s' ht hs honward h⟩

/-- A program of `me`, among the others, ends where the registry is standing, in `K`. -/
abbrev Does (me : Option ι) (K : α → RegistryStore ι → Prop) (m : Registering ι α)
    (s : RegistryStore ι) : Prop :=
  Meets InTime (fun _ => Others me) (fun _ => Mine me)
    (Ending (fun a s => Standing s ∧ K a s) fun _ => True) m s

variable {K : α → RegistryStore ι → Prop} {c : RegistryCommand ι} {m : Registering ι α}

lemma Does.done {a : α} (hK : Steady me (K a)) (hs : Standing s) (h : K a s) :
    Does me K (.done a) s :=
  Meets.done (fun s => Standing s ∧ K a s) ⟨hs, h⟩ hK.stable fun _ h => h

lemma Does.send {f : c.Answer → Registering ι α} (J : RegistryStore ι → Prop) (hJ : Steady me J)
    (hs : Standing s) (h : J s)
    (hc : ∀ s, Standing s → J s → c.inTime s = true → Mine me s (c.run s).1 ∧
      (Standing (c.run s).1 → Does me K (f (c.run s).2) (c.run s).1)) :
    Does me K (send c >>= f) s := by
  rw [Rehydrate.send, Async.send_bind]
  refine ⟨fun s => Standing s ∧ J s, ⟨hs, h⟩, hJ.stable, ?_⟩
  rintro s ⟨hs, h⟩ fate ⟨rfl, htime⟩
  obtain ⟨hmine, hrest⟩ := hc s hs h htime
  exact ⟨hmine, hrest (hmine hs).1⟩

lemma Does.queued {a : c.Answer} {f : c.Answer → Registering ι α} (J : RegistryStore ι → Prop)
    (hJ : Steady me J) (hs : Standing s) (h : J s)
    (hc : ∀ s, Standing s → J s → c.inTime s = true → Mine me s (c.run s).1 ∧
      (Standing (c.run s).1 → Does me K (f (c.run s).2) (c.run s).1)) :
    Does me K (queued c a >>= f) s := by
  refine Meets.sendOr (fun s => Standing s ∧ J s) ⟨hs, h⟩ hJ.stable ?_
  rintro s ⟨hs, h⟩ fate ⟨rfl, htime⟩
  obtain ⟨hmine, hrest⟩ := hc s hs h htime
  exact ⟨hmine, hrest (hmine hs).1⟩

lemma Does.bind {f : α → Registering ι β} {L : β → RegistryStore ι → Prop} (hm : Does me K m s)
    (h : ∀ a s, Standing s → K a s → Does me L (f a) s) : Does me L (m >>= f) s :=
  Meets.bind hm (fun a s ha => h a s ha.1 ha.2) fun _ _ _ => trivial

lemma Does.mono {L : α → RegistryStore ι → Prop} (hm : Does me K m s)
    (h : ∀ a s, Standing s → K a s → L a s) : Does me L m s := by
  refine Meets.mono hm fun r s hr => ?_
  cases r with
  | ok a => exact ⟨hr.1, h a s hr.1 hr.2⟩
  | error e => trivial

lemma Does.keep {L : RegistryStore ι → Prop} (hm : Does me K m s) (hL : Lasting L) (hs : Standing s)
    (h : L s) :
    Does me (fun a s => K a s ∧ L s) m s := by
  refine Meets.mono (Meets.frame (K := fun s => Standing s ∧ L s) hm (fun _ => hL.steady.stable)
    ?_ ⟨hs, h⟩) fun r s hr => ?_
  · rintro c s s' hmine ⟨hs, h⟩
    obtain ⟨hs', honward⟩ := hmine hs
    exact ⟨hs', hL me s s' hs honward h⟩
  · cases r with
    | ok a => exact ⟨hr.1.1, hr.1.2, hr.2.2⟩
    | error e => trivial

/-- A loop. -/
lemma Does.foldlM {f : α → Registering ι Unit} {l : List α} (P : List α → RegistryStore ι → Prop)
    (hP : ∀ before, Steady me (P before)) (hs : Standing s) (h : P [] s)
    (hstep : ∀ before a after s, l = before ++ a :: after → Standing s → P before s →
      Does me (fun _ => P (before ++ [a])) (f a) s) :
    Does me (fun _ => P l) (l.foldlM (fun _ a => f a) ()) s :=
  Meets.foldlM (fun before _ s => Standing s ∧ P before s) (fun _ => (hP l).stable)
    (fun before a after _ s hl hb => hstep before a after s hl hb.1 hb.2) ⟨hs, h⟩

end Programs

/-! ## The operations -/

section Duties

variable {me : Option ι} {s s' : RegistryStore ι} {owed : Facet → ℕ → Prop} {left : List ℕ}
  {back : List String} {d : RegistryDevice}

/-- What `me` has still to publish, what it is retiring, and what it is restoring. -/
structure Duties (me : Option ι) (owed : Facet → ℕ → Prop) (left : List ℕ) (back : List String)
    (s : RegistryStore ι) : Prop where
  owing : ∀ {f id}, s.owing f id = some me → owed f id
  leaving : ∀ {id}, (me, id) ∈ s.leaving ↔ id ∈ left
  returning : ∀ {tenantId}, (me, tenantId) ∈ s.returning ↔ tenantId ∈ back

omit [DecidableEq ι] in
lemma steady_duties : Steady me (Duties me owed left back) := by
  intro t s s' ht _ honward h
  have hforeign : Foreign t me := .of_ne ht.symm
  exact ⟨fun howing => h.owing (honward.owing hforeign howing).1,
    (honward.leaving hforeign).trans h.leaving, (honward.returning hforeign).trans h.returning⟩

omit [DecidableEq ι] in
lemma Duties.weaken (h : Duties me owed left back s) {owed' : Facet → ℕ → Prop}
    (howed : ∀ f id, owed f id → owed' f id) : Duties me owed' left back s :=
  ⟨fun howing => howed _ _ (h.owing howing), h.leaving, h.returning⟩

omit [DecidableEq ι] in
lemma Duties.publishes (h : Duties me owed left back s) (hpublishes : Publishes me s s')
    {owed' : Facet → ℕ → Prop} (howed : ∀ f id, owed f id → s'.owing f id = some me → owed' f id) :
    Duties me owed' left back s' := by
  refine ⟨fun howing => howed _ _ (h.owing (hpublishes.owing_of_some howing)) howing, ?_, ?_⟩
  · rw [hpublishes.leaving]
    exact h.leaving
  · rw [hpublishes.returning]
    exact h.returning

omit [DecidableEq ι] in
lemma lasting_has : Lasting fun s : RegistryStore ι => s.Has d := fun _ _ _ _ h hd => h.has hd

omit [DecidableEq ι] in
lemma lasting_cleared {tenantId : String} : Lasting fun s : RegistryStore ι => s.Cleared tenantId :=
  fun _ _ _ hs h hcleared => h.cleared hs hcleared

omit [DecidableEq ι] in
lemma lasting_suspended {tenantId : String} {b : Bool} :
    Lasting fun s : RegistryStore ι => s.suspended tenantId = b ∨ s.Cleared tenantId :=
  fun _ _ _ _ h hb => h.suspended hb

omit [DecidableEq ι] in
lemma lasting_all {γ : Type} {l : List γ} {K : γ → RegistryStore ι → Prop}
    (hK : ∀ a, Lasting (K a)) : Lasting fun s => ∀ a ∈ l, K a s :=
  fun t s s' hs h hall a ha => hK a t s s' hs h (hall a ha)

lemma does_activateDevice (hs : Standing s) (hduties : Duties me owed left back s) (hd : s.Has d) :
    Does me (fun _ => Duties me (fun f id => owed f id ∧ id ≠ d.id) left back)
      (activateDevice me d) s := by
  have hsteady : Steady me fun s => Duties me owed left back s ∧ s.Has d :=
    steady_duties.and lasting_has.steady
  refine .send _ hsteady hs ⟨hduties, hd⟩ fun s hs h _ => ⟨.refl me s, fun _ => ?_⟩
  rw [← bind_done (send _)]
  refine .send _ hsteady hs h fun s hs h htime => ?_
  obtain ⟨hduties, hd⟩ := h
  refine ⟨mine_activate hd _ ?_, fun hs' => .done steady_duties hs' ?_⟩
  · exact Bool.or_eq_true_iff.1 htime
  · refine hduties.publishes (((publishes_registry me s _).settle .imei d.id).settle .index d.id)
      fun f id howed howing => ⟨howed, ?_⟩
    rintro rfl
    cases f with
    | imei =>
      rw [imei_settle] at howing
      exact owing_settle_self .imei d.id howing
    | index => exact owing_settle_self .index d.id howing

lemma does_deactivateDevice (hs : Standing s) (hduties : Duties me owed left back s)
    (hd : s.Has d) :
    Does me (fun _ => Duties me (fun f id => owed f id ∧ id ≠ d.id) left back)
      (deactivateDevice me d true) s := by
  have hhas : Steady me fun s => s.Has d := lasting_has.steady
  refine .send _ (steady_duties.and hhas) hs ⟨hduties, hd⟩ fun s hs h htime => ?_
  obtain ⟨hduties, hd⟩ := h
  have htime : s.wanted d.id = true → s.leftTo me .imei d.id = true := by
    intro hwanted
    simpa [RegistryCommand.inTime, hwanted] using htime
  have hmine := mine_hdelIfMine hd htime
  refine ⟨hmine, fun hs' => ?_⟩
  have hpublished : Duties me (fun f id => owed f id ∧ (f = .imei → id ≠ d.id)) left back
      ((RegistryCommand.hdelIfMine me d true).run s).1 := by
    refine hduties.publishes ((publishes_registry me s _).settle .imei d.id)
      fun f id howed howing => ⟨howed, ?_⟩
    rintro rfl rfl
    exact owing_settle_self .imei d.id howing
  rw [← bind_done (send _)]
  refine .send _ (steady_duties.and hhas) hs' ⟨hpublished, (hmine hs).2.has hd⟩
    fun s hs h htime => ?_
  obtain ⟨hduties, hd⟩ := h
  refine ⟨mine_drop hd true fun hwanted => ?_, fun hs' => .done steady_duties hs' ?_⟩
  · simpa [RegistryCommand.inTime, hwanted] using htime
  · refine hduties.publishes ((publishes_registry me s _).settle .index d.id)
      fun f id howed howing => ⟨howed.1, ?_⟩
    rintro rfl
    cases f with
    | imei => exact howed.2 rfl rfl
    | index => exact owing_settle_self .index d.id howing

lemma does_devices {f : RegistryDevice → Registering ι Unit} {devices : List RegistryDevice}
    (hf : ∀ {owed d s}, Standing s → Duties me owed left back s → s.Has d →
      Does me (fun _ => Duties me (fun f id => owed f id ∧ id ≠ d.id) left back) (f d) s)
    (hs : Standing s) (hdevices : ∀ d ∈ devices, s.Has d)
    (hduties : Duties me (fun _ id => ∃ d ∈ devices, d.id = id) left back s) :
    Does me (fun _ => Duties me (fun _ _ => False) left back)
      (devices.foldlM (fun _ d => f d) ()) s := by
  refine Does.mono (Does.foldlM
    (fun before s => Duties me (fun _ id => ∃ d ∈ devices, d ∉ before ∧ d.id = id) left back s ∧
      ∀ d ∈ devices, s.Has d)
    (fun before => steady_duties.and (lasting_all fun d => lasting_has).steady) hs
    ⟨hduties.weaken fun _ id ⟨d, hd, hid⟩ => ⟨d, hd, not_mem_nil, hid⟩, hdevices⟩ ?_) ?_
  · intro before d after s hl hs h
    have hd : d ∈ devices := hl ▸ mem_append_right _ mem_cons_self
    have hall := h.2
    refine Does.mono ((hf hs h.1 (hall d hd)).keep (lasting_all fun d => lasting_has) hs hall)
      fun _ s hs h => ⟨h.1.weaken ?_, h.2⟩
    rintro _ id ⟨⟨d', hd', hbefore, rfl⟩, hne⟩
    refine ⟨d', hd', fun hmem => ?_, rfl⟩
    rcases mem_append.1 hmem with hmem | hmem
    · exact hbefore hmem
    · exact hne (congrArg RegistryDevice.id (mem_singleton.1 hmem))
  · rintro _ s hs ⟨h, -⟩
    exact h.weaken fun _ id ⟨d, hd, hnot, _⟩ => hnot hd

end Duties

section Calls

variable {me : Option ι} {s : RegistryStore ι} {tenantId accountId imei config : String}
  {account : Option String} {id : ℕ}

/-- An operation has ended. -/
structure Finished (me : Option ι) (reply : Reply) (s : RegistryStore ι) : Prop where
  owing : ∀ {f id}, s.owing f id ≠ some me
  returning : ∀ {tenantId}, (me, tenantId) ∉ s.returning
  leaving : ∀ {id}, (me, id) ∈ s.leaving → ∃ d, s.devices.row id = some d ∧ d.retired = true
  retired : ∀ {id}, reply = .retired id → (me, id) ∈ s.leaving
  suspended : ∀ {tenantId}, reply = .suspended tenantId → s.Cleared tenantId

omit [DecidableEq ι] in
lemma lasting_retired : Lasting fun s : RegistryStore ι =>
    ∃ d, s.devices.row id = some d ∧ d.retired = true := by
  rintro t s s' _ h ⟨d, hd, hretired⟩
  obtain ⟨retired, hrow, hstays⟩ := h.row hd
  exact ⟨_, hrow, hstays hretired⟩

omit [DecidableEq ι] in
lemma steady_finished {reply : Reply} : Steady me (Finished me reply) := by
  intro t s s' ht hs honward h
  have hforeign : Foreign t me := .of_ne ht.symm
  refine ⟨fun howing => h.owing (honward.owing hforeign howing).1,
    fun hreturning => h.returning ((honward.returning hforeign).1 hreturning),
    fun hleaving => ?_, fun hreply => (honward.leaving hforeign).2 (h.retired hreply),
    fun hreply => honward.cleared hs (h.suspended hreply)⟩
  exact lasting_retired t s s' hs honward (h.leaving ((honward.leaving hforeign).1 hleaving))

omit [DecidableEq ι] in
lemma Duties.finished {reply : Reply} (h : Duties me (fun _ _ => False) [] [] s)
    (hretired : ∀ id, reply ≠ .retired id) (hsuspended : ∀ tenantId, reply ≠ .suspended tenantId) :
    Finished me reply s where
  owing := h.owing
  returning hreturning := not_mem_nil (h.returning.1 hreturning)
  leaving hleaving := absurd (h.leaving.1 hleaving) not_mem_nil
  retired hreply := absurd hreply (hretired _)
  suspended hreply := absurd hreply (hsuspended _)

omit [DecidableEq ι] in
lemma wanted_insert {devices : DeviceTable}
    (h : s.devices.insert tenantId accountId imei config = some devices)
    (hid : id ≠ s.devices.nextId) :
    RegistryStore.wanted { s with devices := devices } id = s.wanted id := by
  have hrow : devices.row id = s.devices.row id := by
    rw [(DeviceTable.insert_eq_some h).1, update_of_ne hid]
  unfold RegistryStore.wanted
  rw [hrow]

lemma does_createDevice (hme : me ≠ none) (hs : Standing s)
    (h : Duties me (fun _ _ => False) [] [] s) :
    Does me (Finished me) (createDevice me tenantId accountId imei config) s := by
  refine .send _ steady_duties hs h fun s hs h _ =>
    ⟨mine_insert hme tenantId accountId imei config, fun hs' => ?_⟩
  cases hinsert : s.devices.insert tenantId accountId imei config with
  | none =>
    have hrun : (RegistryCommand.insert me tenantId accountId imei config).run s = (s, none) := by
      simp only [RegistryCommand.run, hinsert]
    rw [hrun]
    exact .done steady_finished hs (h.finished nofun nofun)
  | some devices =>
    have hrun : (RegistryCommand.insert me tenantId accountId imei config).run s =
        (s.owed { s with devices := devices } me,
          some ⟨s.devices.nextId, imei, tenantId, accountId, config⟩) := by
      simp only [RegistryCommand.run, hinsert]
    rw [hrun] at hs' ⊢
    have hduties : Duties me (fun _ id => id = s.devices.nextId) [] []
        (s.owed { s with devices := devices } me) := by
      refine ⟨fun {f id} howing => ?_, h.leaving, h.returning⟩
      obtain ⟨hold, -⟩ | ⟨-, hchanged⟩ := owing_owed howing
      · exact (h.owing hold).elim
      · exact not_ne_iff.1 fun hid => hchanged (wanted_insert hinsert hid)
    have hhas : (s.owed { s with devices := devices } me).Has
        ⟨s.devices.nextId, imei, tenantId, accountId, config⟩ := by
      refine ⟨false, ?_⟩
      show devices.row s.devices.nextId = _
      rw [(DeviceTable.insert_eq_some hinsert).1, update_self]
    refine .bind (does_activateDevice hs' hduties hhas) fun _ s hs h => ?_
    have hidle := h.weaken fun _ _ howed => howed.2 howed.1
    exact .done steady_finished hs (hidle.finished nofun nofun)

omit [DecidableEq ι] in
lemma scopedById_eq_some {t : DeviceTable} {d : DeviceRow}
    (h : t.scopedById tenantId account id = some d) :
    t.row id = some d ∧ d.id = id ∧ (d.tenantId = tenantId && account.all (· = d.accountId)) := by
  obtain ⟨hrow, hscope⟩ := Option.filter_eq_some_iff.1 h
  exact ⟨hrow, DeviceTable.id_eq hrow, hscope⟩

lemma does_retire (hs : Standing s) {d : DeviceRow} (hd : d.id = id)
    (hscope : d.tenantId = tenantId && account.all (· = d.accountId))
    (h : Duties me (fun _ _ => False) [id] [] s) (hhas : s.Has d.toRegistryDevice) :
    Does me (fun _ s => Duties me (fun _ _ => False) [id] [] s ∧
      ∃ d, s.devices.row id = some d ∧ d.retired = true) (retire tenantId account id) s := by
  have hsteady : Steady me fun s =>
      Duties me (fun _ _ => False) [id] [] s ∧ s.Has d.toRegistryDevice :=
    steady_duties.and lasting_has.steady
  refine .send _ hsteady hs ⟨h, hhas⟩ fun s hs h _ => ⟨.refl me s, fun _ => ?_⟩
  obtain ⟨hduties, retired, hrow⟩ := h
  rw [hd] at hrow
  have hrun : (RegistryCommand.scopedById tenantId account id).run s =
      (s, some ⟨d.toRegistryDevice, retired⟩) :=
    Prod.ext rfl (Option.filter_eq_some_iff.2 ⟨hrow, hscope⟩)
  rw [hrun]
  dsimp only
  split
  · rename_i hretired
    exact .done (steady_duties.and lasting_retired.steady) hs ⟨hduties, _, hrow, hretired⟩
  · rw [← bind_done (send _)]
    refine .send _ hsteady hs ⟨hduties, retired, hd ▸ hrow⟩ fun s hs h _ => ?_
    obtain ⟨hduties, retired, hrow⟩ := h
    rw [hd] at hrow
    refine ⟨mine_retire (hduties.leaving.2 mem_cons_self), fun hs' =>
      .done (steady_duties.and lasting_retired.steady) hs' ⟨⟨hduties.owing, hduties.leaving,
        hduties.returning⟩, ?_⟩⟩
    refine ⟨⟨d.toRegistryDevice, true⟩, ?_, rfl⟩
    show (s.devices.retire id).row id = _
    rw [DeviceTable.row_retire, if_pos rfl, hrow]
    rfl

lemma does_takeOut (hme : me ≠ none) (hs : Standing s) {d : RegistryDevice}
    (h : Duties me (fun _ _ => False) [] [] s) (hd : s.Has d) :
    Does me (fun _ => Duties me (fun _ _ => False) [d.id] []) (deactivateDevice me d false) s := by
  have hsteady : ∀ {left}, Steady me fun s => Duties me (fun _ _ => False) left [] s ∧ s.Has d :=
    steady_duties.and lasting_has.steady
  refine .send _ hsteady hs ⟨h, hd⟩ fun s hs h _ => ?_
  have hmine := mine_leave hme h.2
  refine ⟨hmine, fun hs' => ?_⟩
  have hleft : Duties me (fun _ _ => False) [d.id] []
      ((RegistryCommand.hdelIfMine me d false).run s).1 := by
    refine ⟨fun {f id} howing => ?_, fun {id} => ?_, h.1.returning⟩
    · refine @Duties.owing _ _ _ _ _ _ h.1 f id ?_
      have howing : (s.leave me d.id).owing f id = some me := howing
      rw [owing_leave] at howing
      split at howing
      · cases howing
      · exact howing
    · refine mem_cons.trans (Iff.trans ?_ mem_cons.symm)
      exact or_congr ⟨fun h => congrArg Prod.snd h, fun h => h ▸ rfl⟩ h.1.leaving
  rw [← bind_done (send _)]
  refine .send _ hsteady hs' ⟨hleft, (hmine hs).2.has h.2⟩ fun s hs h _ => ?_
  refine ⟨mine_drop h.2 false fun hwanted => ?_, fun hs' => .done steady_duties hs' ?_⟩
  · obtain ⟨d', hd', -⟩ := RegistryStore.wanted_iff.1 hwanted
    exact absurd (h.1.leaving.2 mem_cons_self) (hd'.stays me)
  · exact h.1.publishes ((publishes_registry me s _).settle .index d.id) fun _ _ howed _ => howed

lemma does_deleteDevice (hme : me ≠ none) (hs : Standing s)
    (h : Duties me (fun _ _ => False) [] [] s) :
    Does me (Finished me) (deleteDevice me tenantId account id) s := by
  refine .send _ steady_duties hs h fun s hs h _ => ⟨.refl me s, fun _ => ?_⟩
  cases hscoped : s.devices.scopedById tenantId account id with
  | none =>
    have hrun : (RegistryCommand.scopedById tenantId account id).run s = (s, none) :=
      Prod.ext rfl hscoped
    rw [hrun]
    exact .done steady_finished hs (h.finished nofun nofun)
  | some d =>
    have hrun : (RegistryCommand.scopedById tenantId account id).run s = (s, some d) :=
      Prod.ext rfl hscoped
    rw [hrun]
    obtain ⟨hrow, rfl, hscope⟩ := scopedById_eq_some hscoped
    have hhas : s.Has d.toRegistryDevice := ⟨d.retired, hrow⟩
    refine Does.bind ((does_takeOut hme hs h hhas).keep lasting_has hs hhas) fun _ s hs h => ?_
    refine Does.bind (does_retire hs rfl hscope h.1 h.2) fun _ s hs h => ?_
    refine .done steady_finished hs ⟨h.1.owing, fun hreturning => ?_, fun {id} hleaving => ?_,
      fun {id} hreply => ?_, nofun⟩
    · exact not_mem_nil (h.1.returning.1 hreturning)
    · obtain rfl : id = d.id := mem_singleton.1 (h.1.leaving.1 hleaving)
      exact h.2
    · cases hreply
      exact h.1.leaving.2 mem_cons_self

omit [DecidableEq ι] in
lemma mem_devicesFor_of_serving {d : DeviceRow} (h : s.Serving id d)
    (htenant : d.tenantId = tenantId) :
    ∃ listed ∈ s.devices.devicesFor tenantId, listed.id = id := by
  have hid : d.id = id := DeviceTable.id_eq h.row
  refine ⟨d.toRegistryDevice, DeviceTable.mem_devicesFor.2 ⟨?_, htenant⟩, hid⟩
  rw [hid, h.row, ← h.live]

omit [DecidableEq ι] in
lemma has_of_mem_devicesFor {d : RegistryDevice} (h : d ∈ s.devices.devicesFor tenantId) :
    s.Has d :=
  ⟨false, (DeviceTable.mem_devicesFor.1 h).1⟩

def OwesFor (me : Option ι) (tenantId : String) (s : RegistryStore ι) : Prop :=
  ∀ f id, s.owing f id = some me → ∃ d, s.devices.row id = some d ∧ d.tenantId = tenantId

omit [DecidableEq ι] in
lemma steady_owesFor : Steady me (OwesFor me tenantId) := by
  intro t s s' ht _ honward h f id howing
  obtain ⟨d, hd, htenant⟩ := h f id (honward.owing (.of_ne ht.symm) howing).1
  obtain ⟨retired, hrow, -⟩ := honward.row hd
  exact ⟨_, hrow, htenant⟩

omit [DecidableEq ι] in
lemma serving_of_wanted_ne (s' : RegistryStore ι) (hdevices : s'.devices = s.devices)
    (hleaving : s'.leaving = s.leaving)
    (hother : ∀ t, t ≠ tenantId → s'.suspended t = s.suspended t ∧
      s'.returning.any (·.2 = t) = s.returning.any (·.2 = t))
    (h : s'.wanted id ≠ s.wanted id) : ∃ d, s.Serving id d ∧ d.tenantId = tenantId := by
  obtain ⟨d, hd⟩ : ∃ d, s.Serving id d := by
    cases hwanted : s.wanted id with
    | true =>
      obtain ⟨d, hd, -⟩ := RegistryStore.wanted_iff.1 hwanted
      exact ⟨d, hd⟩
    | false =>
      rw [hwanted] at h
      obtain ⟨d, hd, -⟩ := RegistryStore.wanted_iff.1 (Bool.eq_true_of_not_eq_false h)
      exact ⟨d, hdevices ▸ hd.row, hd.live, fun t => hleaving ▸ hd.stays t⟩
  refine ⟨d, hd, not_ne_iff.1 fun htenant => h ?_⟩
  unfold RegistryStore.wanted
  rw [hdevices, hleaving, hd.row, Option.any_some, Option.any_some, (hother _ htenant).1,
    (hother _ htenant).2]

lemma duties_toTearDown (hs : Standing s) (hduties : Duties me (fun _ _ => True) [] [] s)
    (howes : OwesFor me tenantId s) :
    Duties me (fun _ id => ∃ d ∈ s.devices.devicesFor tenantId, d.id = id) [] []
      ((RegistryCommand.registryDevicesFor me tenantId false).run s).1 := by
  refine ⟨fun {f id} howing => ?_, hduties.leaving, hduties.returning⟩
  have howing : (s.toTearDown me tenantId).owing f id = some me := howing
  unfold RegistryStore.toTearDown at howing
  dsimp only at howing
  split at howing
  · rename_i hcond
    simp only [Bool.and_eq_true, Bool.not_eq_true', Option.any_eq_true, any_eq_false,
      decide_eq_true_eq] at hcond
    obtain ⟨⟨⟨d, hd, htenant, hlive⟩, hstays⟩, -⟩ := hcond
    exact mem_devicesFor_of_serving ⟨hd, hlive, fun t ht => hstays _ ht rfl⟩ htenant
  · obtain ⟨d, hd⟩ := hs.live howing
    obtain ⟨d', hd', htenant⟩ := howes f id howing
    cases hd.row.symm.trans hd'
    exact mem_devicesFor_of_serving hd htenant

lemma does_suspendTenant (hme : me ≠ none) (hs : Standing s)
    (h : Duties me (fun _ _ => False) [] [] s) :
    Does me (Finished me) (suspendTenant me tenantId) s := by
  refine .send _ steady_duties hs h fun s hs h _ => ⟨mine_suspend hme tenantId, fun hs' => ?_⟩
  cases hopen : s.suspended tenantId with
  | true =>
    have hrun : (RegistryCommand.suspend me tenantId).run s = (s, false) := by
      simp only [RegistryCommand.run, hopen, if_true]
    rw [hrun]
    exact .done steady_finished hs (h.finished nofun nofun)
  | false =>
    have hrun : (RegistryCommand.suspend me tenantId).run s =
        (s.owed { s with suspended := update s.suspended tenantId true } me, true) := by
      simp only [RegistryCommand.run, hopen, Bool.false_eq_true, if_false]
    rw [hrun] at hs' ⊢
    have howes : OwesFor me tenantId
        (s.owed { s with suspended := update s.suspended tenantId true } me) := by
      intro f id howing
      obtain ⟨hold, -⟩ | ⟨-, hchanged⟩ := owing_owed howing
      · exact (h.owing hold).elim
      · obtain ⟨d, hd, htenant⟩ := serving_of_wanted_ne (s := s)
          { s with suspended := update s.suspended tenantId true } rfl rfl
          (fun t ht => ⟨update_of_ne ht .., rfl⟩) hchanged
        exact ⟨d, hd.row, htenant⟩
    have hcleared := cleared_suspend hs hme hopen
    have hduties : Duties me (fun _ _ => True) [] []
        (s.owed { s with suspended := update s.suspended tenantId true } me) :=
      ⟨fun _ => trivial, h.leaving, h.returning⟩
    refine .send (fun s => (Duties me (fun _ _ => True) [] [] s ∧ OwesFor me tenantId s) ∧
      s.Cleared tenantId) ((steady_duties.and steady_owesFor).and lasting_cleared.steady) hs'
      ⟨⟨hduties, howes⟩, hcleared⟩ fun s hs h _ => ?_
    obtain ⟨⟨hduties, howes⟩, hcleared⟩ := h
    have hmine : Mine me s ((RegistryCommand.registryDevicesFor me tenantId false).run s).1 :=
      mine_toTearDown hme
    refine ⟨hmine, fun hs' => ?_⟩
    have hlisted := duties_toTearDown hs hduties howes
    have hall : ∀ d ∈ s.devices.devicesFor tenantId,
        ((RegistryCommand.registryDevicesFor me tenantId false).run s).1.Has d :=
      fun d hd => (hmine hs).2.has (has_of_mem_devicesFor hd)
    have hcleared := (hmine hs).2.cleared hs hcleared
    refine Does.bind ((does_devices does_deactivateDevice hs' hall hlisted).keep lasting_cleared hs'
      hcleared) fun _ s hs h => ?_
    have hidle : Finished me .unchanged s := h.1.finished nofun nofun
    refine .done steady_finished hs { hidle with retired := nofun, suspended := fun hreply => ?_ }
    cases hreply
    exact h.2

lemma duties_restore (h : Duties me (fun _ _ => False) [] [] s) :
    Duties me (fun _ id => ∃ d ∈ s.devices.devicesFor tenantId, d.id = id) [] [tenantId]
      ((RegistryCommand.registryDevicesFor me tenantId true).run s).1 := by
  refine ⟨fun {f id} howing => ?_, h.leaving, fun {tenantId'} => ?_⟩
  · obtain ⟨hold, -⟩ | ⟨-, hchanged⟩ := owing_owed howing
    · exact (h.owing hold).elim
    · have hother : ∀ t, t ≠ tenantId →
          ((me, tenantId) :: s.returning).any (·.2 = t) = s.returning.any (·.2 = t) := by
        intro t ht
        rw [any_cons, decide_eq_false ht.symm, Bool.false_or]
      obtain ⟨d, hd, htenant⟩ := serving_of_wanted_ne (s := s)
        { s with returning := (me, tenantId) :: s.returning } rfl rfl
        (fun t ht => ⟨rfl, hother t ht⟩) hchanged
      exact mem_devicesFor_of_serving hd htenant
  · refine mem_cons.trans (Iff.trans ?_ mem_cons.symm)
    exact or_congr ⟨fun h => congrArg Prod.snd h, fun h => h ▸ rfl⟩ h.returning

lemma does_restoreTenant (hme : me ≠ none) (hs : Standing s)
    (h : Duties me (fun _ _ => False) [] [] s) :
    Does me (Finished me) (restoreTenant me tenantId) s := by
  refine .send _ steady_duties hs h fun s hs h _ => ⟨.refl me s, fun _ => ?_⟩
  cases hsuspended : s.suspended tenantId with
  | false =>
    have hrun : (RegistryCommand.isSuspended tenantId).run s = (s, false) := Prod.ext rfl hsuspended
    rw [hrun]
    exact .done steady_finished hs (h.finished nofun nofun)
  | true =>
    have hrun : (RegistryCommand.isSuspended tenantId).run s = (s, true) := Prod.ext rfl hsuspended
    rw [hrun]
    refine .send (fun s => Duties me (fun _ _ => False) [] [] s ∧
      (s.suspended tenantId = true ∨ s.Cleared tenantId))
      (steady_duties.and lasting_suspended.steady) hs ⟨h, .inl hsuspended⟩ fun s hs h _ => ?_
    have hmine := mine_restore (s := s) hme h.2
    refine ⟨hmine, fun hs' => ?_⟩
    have hall : ∀ d ∈ s.devices.devicesFor tenantId,
        ((RegistryCommand.registryDevicesFor me tenantId true).run s).1.Has d :=
      fun d hd => (hmine hs).2.has (has_of_mem_devicesFor hd)
    refine Does.bind (does_devices does_activateDevice hs' hall (duties_restore h.1))
      fun _ s hs h => ?_
    refine .send _ steady_duties hs h fun s hs h _ =>
      ⟨mine_unsuspend hme (h.returning.2 mem_cons_self), fun hs' => ?_⟩
    refine .done steady_finished hs' (Duties.finished ⟨h.owing, h.leaving, ?_⟩ nofun nofun)
    intro tenantId'
    refine mem_filter.trans (iff_of_false (fun hmem => ?_) not_mem_nil)
    obtain ⟨hmem, hne⟩ := hmem
    obtain rfl := mem_singleton.1 (h.returning.1 hmem)
    exact of_decide_eq_true hne rfl

end Calls

/-! ## The rebuild -/

section Rebuild

variable {s s' : RegistryStore ι} {d : RegistryDevice} {P P' : Facet → RegistryDevice → Prop}

/-- What the rebuild has still to publish, but for the tenants that were suspended when it read
them. -/
def RebuildOwes (P : Facet → RegistryDevice → Prop) (s : RegistryStore ι) : Prop :=
  ∀ f id d, s.devices.row id = some d → s.owing f id = some none →
    P f d.toRegistryDevice ∨ (s.suspended d.tenantId = true ∨ s.Cleared d.tenantId)

omit [DecidableEq ι] in
lemma lasting_rebuildOwes : Lasting (RebuildOwes (ι := ι) P) := by
  intro t s s' hs honward h f id d hd howing
  obtain ⟨hold, -⟩ := honward.owing (.inr rfl) howing
  obtain ⟨d₀, hd₀⟩ := hs.live hold
  obtain ⟨retired, hrow, -⟩ := honward.row hd₀.row
  cases hrow.symm.trans hd
  exact (h f id d₀ hd₀.row hold).imp_right honward.suspended

omit [DecidableEq ι] in
lemma RebuildOwes.publishes (h : RebuildOwes P s) (hpublishes : Publishes none s s')
    (howed : ∀ f d, P f d → s'.owing f d.id = some none → P' f d) : RebuildOwes P' s' := by
  intro f id d hd howing
  rw [hpublishes.devices] at hd
  rw [hpublishes.suspended]
  refine (h f id d hd (hpublishes.owing_of_some howing)).imp (fun hP => howed f _ hP ?_)
    fun hsuspended => hsuspended.imp_right hpublishes.cleared
  exact (DeviceTable.id_eq hd).symm ▸ howing

/-- While the rebuild has to publish the membership of a device, `device:tenant` is what it wrote.
-/
def TenantWritten (d : RegistryDevice) (s : RegistryStore ι) : Prop :=
  s.Has d ∧ (s.owing .index d.id = some none → s.wanted d.id = true →
    s.registry.tenant d.id = some d.tenantId)

omit [DecidableEq ι] in
lemma steady_tenantWritten : Steady none (TenantWritten (ι := ι) d) := by
  rintro t s s' ht hs honward ⟨⟨retired, hrow⟩, h⟩
  refine ⟨honward.has ⟨retired, hrow⟩, fun howing hwanted => ?_⟩
  obtain ⟨hold, hsame⟩ := honward.owing (.inr rfl) howing
  rw [hsame] at hwanted
  exact honward.tenant ht hrow hwanted (h hold hwanted) howing

lemma does_publish (hs : Standing s) (h : RebuildOwes P s) (hd : s.Has d) :
    Does none (fun _ => RebuildOwes fun f d' => P f d' ∧ d'.id ≠ d.id) (publish d) s := by
  have hP : ∀ {P}, Steady none (RebuildOwes (ι := ι) P) := lasting_rebuildOwes.steady
  refine .queued (fun s => RebuildOwes P s ∧ s.Has d) (hP.and lasting_has.steady) hs ⟨h, hd⟩
    fun s hs h htime => ?_
  have hmine := mine_hsetImei h.2 (Bool.or_eq_true_iff.1 htime)
  refine ⟨hmine, fun hs' => ?_⟩
  have himei : RebuildOwes (fun f d' => P f d' ∧ (f = .imei → d'.id ≠ d.id))
      ((RegistryCommand.hsetImei d).run s).1 := by
    refine h.1.publishes ((publishes_registry none s _).settle .imei d.id)
      fun f d' howed howing => ⟨howed, ?_⟩
    rintro rfl hid
    rw [hid] at howing
    exact owing_settle_self .imei d.id howing
  refine .queued _ (hP.and lasting_has.steady) hs' ⟨himei, (hmine hs).2.has h.2⟩
    fun s hs h _ => ⟨mine_hsetTenant h.2, fun hs' => ?_⟩
  have hwritten : TenantWritten d ((RegistryCommand.hsetTenant d).run s).1 :=
    ⟨h.2, fun _ _ => update_self ..⟩
  refine .queued _ (hP.and steady_tenantWritten) hs'
    ⟨h.1.publishes (publishes_registry none s _) fun _ _ howed _ => howed, hwritten⟩
    fun s hs h _ => ⟨mine_registry _ rfl rfl rfl, fun hs' => ?_⟩
  refine .queued _ (hP.and steady_tenantWritten) hs'
    ⟨h.1.publishes (publishes_registry none s _) fun _ _ howed _ => howed, h.2⟩
    fun s hs h _ => ⟨mine_registry _ rfl rfl rfl, fun hs' => ?_⟩
  rw [← bind_done (queued _ _)]
  refine .queued _ (hP.and steady_tenantWritten) hs'
    ⟨h.1.publishes (publishes_registry none s _) fun _ _ howed _ => howed, h.2⟩
    fun s hs h _ => ⟨mine_sadd h.2.1 h.2.2, fun hs' => .done hP hs' ?_⟩
  refine h.1.publishes ((publishes_registry none s _).settle .index d.id)
    fun f d' howed howing => ⟨howed.1, fun hid => ?_⟩
  cases f with
  | imei => exact howed.2 rfl hid
  | index =>
    rw [hid] at howing
    exact owing_settle_self .index d.id howing

def Sweeps : RegistryCommand ι → Prop
  | .scan | .del | .smembers _ | .hmget _ | .srem .. => True
  | _ => False

lemma sends_sweep (scans : List (List ScannedKey)) :
    Sends (V := registryService ι) (ε := RegistryError) Sweeps
      (scans.foldlM (fun _ keys => sweepKeys keys) ()) := by
  refine Sends.foldlM (fun _ keys _ => ?_) _
  refine Sends.bind (Sends.send trivial) fun _ => Sends.foldlM (fun _ key _ => ?_) _
  refine Sends.attempt ?_ fun _ => trivial
  cases key with
  | rebuild => exact Sends.send trivial
  | index tenantId =>
    refine Sends.bind (Sends.send trivial) fun members => Sends.when ?_
    exact Sends.bind (Sends.send trivial) fun owners => Sends.when (Sends.send trivial)
  | unknown => trivial

lemma mine_sweeps {c : RegistryCommand ι} (hc : Sweeps c) (htime : c.inTime s = true) :
    Mine none s (c.run s).1 := by
  cases c with
  | srem tenantId gone =>
    refine mine_srem fun id hid => ?_
    simpa [RegistryCommand.inTime, or_assoc] using all_eq_true.1 htime id hid
  | scan | del | smembers _ | hmget _ => exact .refl none s
  | _ => exact hc.elim

lemma does_sweep (hs : Standing s) (h : RebuildOwes P s) (scans : List (List ScannedKey)) :
    Does none (fun _ => RebuildOwes P) (scans.foldlM (fun _ keys => sweepKeys keys) ()) s := by
  have hmeets : Meets InTime (fun _ => Others none) (fun _ => Mine none) (fun _ _ => True)
      (scans.foldlM (fun _ keys => sweepKeys keys) ()) s := by
    refine (sends_sweep scans).meetsWhere (fun c hc s fate hfate => ?_) s
    obtain ⟨rfl, htime⟩ := hfate
    exact mine_sweeps hc htime
  refine (hmeets.frame (K := fun s => Standing s ∧ RebuildOwes P s)
    (fun _ => lasting_rebuildOwes.steady.stable) ?_ ⟨hs, h⟩).mono fun r s hr => ?_
  · rintro c s s' hmine ⟨hs, h⟩
    obtain ⟨hs', honward⟩ := hmine hs
    exact ⟨hs', lasting_rebuildOwes none s s' hs honward h⟩
  · cases r with
    | ok a => exact hr.2
    | error e => trivial

omit [DecidableEq ι] in
lemma mem_inService {t : DeviceTable} {d : DeviceRow} :
    d ∈ t.inService ↔ t.row d.id = some d ∧ d.retired = false := by
  refine mem_filter.trans (and_congr t.mem_rows ?_)
  rw [Bool.not_eq_true']

variable {suspended : String → Bool}

lemma rebuildOwes_listAll (hs : Standing s)
    (h : ∀ tenantId, s.suspended tenantId = suspended tenantId ∨ s.Cleared tenantId) :
    RebuildOwes (fun _ d => d ∈ ((RegistryCommand.listAllForRegistry suspended).run s).2) s := by
  intro f id d hd howing
  cases hsuspended : suspended d.tenantId with
  | true => exact .inr (hsuspended ▸ h d.tenantId)
  | false =>
    obtain ⟨d', hd'⟩ := hs.live howing
    obtain rfl := Option.some.inj (hd'.row.symm.trans hd)
    refine .inl (mem_map.2 ⟨d', mem_filter.2 ⟨mem_inService.2 ⟨?_, hd'.live⟩, ?_⟩, rfl⟩)
    · rw [DeviceTable.id_eq hd]
      exact hd
    · rw [hsuspended]
      rfl

lemma has_of_mem_listAll (hd : d ∈ ((RegistryCommand.listAllForRegistry suspended).run s).2) :
    s.Has d := by
  obtain ⟨d', hd', rfl⟩ := mem_map.1 hd
  exact ⟨d'.retired, (mem_inService.1 (mem_filter.1 hd').1).1⟩

lemma does_publishAll (hs : Standing s) {devices : List RegistryDevice}
    (h : RebuildOwes (fun _ d => d ∈ devices) s) (hdevices : ∀ d ∈ devices, s.Has d) :
    Does none (fun _ => RebuildOwes fun _ _ => False)
      (devices.foldlM (fun _ d => publish d) ()) s := by
  refine Does.mono (Does.foldlM
    (fun before s => RebuildOwes (fun _ d => d ∈ devices ∧ d ∉ before) s ∧ ∀ d ∈ devices, s.Has d)
    (fun _ => lasting_rebuildOwes.steady.and (lasting_all fun _ => lasting_has).steady) hs
    ⟨?_, hdevices⟩ ?_) ?_
  · exact fun f id d hd howing =>
      (h f id d hd howing).imp_left fun hmem => ⟨hmem, not_mem_nil⟩
  · intro before d after s hl hs h
    have hd : d ∈ devices := hl ▸ mem_append_right _ mem_cons_self
    have hpublish := does_publish hs h.1 (h.2 d hd)
    refine (hpublish.keep (lasting_all fun _ => lasting_has) hs h.2).mono fun _ s hs h =>
      ⟨fun f id d' hd' howing => (h.1 f id d' hd' howing).imp_left ?_, h.2⟩
    rintro ⟨⟨hmem, hbefore⟩, hne⟩
    refine ⟨hmem, fun hmem' => ?_⟩
    rcases mem_append.1 hmem' with hmem' | hmem'
    · exact hbefore hmem'
    · exact hne (congrArg RegistryDevice.id (mem_singleton.1 hmem'))
  · rintro _ s hs ⟨h, -⟩
    exact fun f id d hd howing => (h f id d hd howing).imp_left fun hP => hP.2 hP.1

lemma does_rehydrate (hs : Standing s) (scans : List (List ScannedKey)) :
    Does none (fun _ => RebuildOwes fun _ _ => False) (rehydrateRegistries scans) s := by
  refine .send (fun _ => True) (fun _ _ _ _ _ _ _ => trivial) hs trivial fun s hs _ _ =>
    ⟨.refl none s, fun _ => ?_⟩
  have hread : Lasting fun s' : RegistryStore ι =>
      ∀ tenantId, s'.suspended tenantId = s.suspended tenantId ∨ s'.Cleared tenantId :=
    fun t s₁ s₂ hs₁ honward h tenantId => honward.suspended (h tenantId)
  refine .send _ hread.steady hs (fun _ => .inl rfl) fun s hs h _ => ⟨.refl none s, fun _ => ?_⟩
  refine .bind (does_publishAll hs (rebuildOwes_listAll hs h) fun d => has_of_mem_listAll)
    fun _ s hs h => ?_
  exact .bind (does_sweep hs h scans) fun _ s hs h => .done lasting_rebuildOwes.steady hs h

end Rebuild

/-! ## The runs -/

section Runs

variable {s : RegistryStore ι} {calls : ι → RegistryCall} {scans : List (List ScannedKey)}
  {devices : DeviceTable} {suspended : String → Bool} {registry : Registry}

def OwnImeis (devices : DeviceTable) (registry : Registry) : Prop :=
  ∀ imei id, registry.imei imei = some id →
    id < devices.nextId ∧ ∀ d, devices.row id = some d → d.imei = imei

/-- Before anything has begun, the rebuild has to publish every device in service. -/
lemma standing_registryPool (hown : OwnImeis devices registry) :
    Standing (registryPool calls scans devices suspended registry).state := by
  have hlive : ∀ {id d}, devices.row id = some d →
      (if (devices.row id).any (!·.retired) then some none else (none : Option (Option ι))) = none →
        d.retired = true := by
    intro id d hd hnone
    split at hnone
    · cases hnone
    · rename_i hretired
      rw [hd, Option.any_some, Bool.not_eq_true', Bool.not_eq_false] at hretired
      exact hretired
  have hunwanted : ∀ {id d}, devices.row id = some d → d.retired = true →
      (registryPool calls scans devices suspended registry).state.wanted id ≠ true := by
    intro id d hd hretired hwanted
    obtain ⟨d', hd', -⟩ := RegistryStore.wanted_iff.1 hwanted
    cases hd'.row.symm.trans hd
    rw [hd'.live] at hretired
    cases hretired
  refine ⟨fun hd hnone hwanted => absurd hwanted (hunwanted hd (hlive hd hnone)),
    fun hd hnone _ => .inr ⟨hlive hd hnone, fun _ => not_mem_nil⟩,
    fun hd hnone hwanted => absurd hwanted (hunwanted hd (hlive hd hnone)),
    fun {f id t} howing => ?_, fun hmapped => hown _ _ hmapped,
    fun ht => absurd ht not_mem_nil, fun ht => absurd ht not_mem_nil⟩
  have howing : (if (devices.row id).any (!·.retired) then some none else none) = some t := howing
  split at howing
  · rename_i hsome
    obtain ⟨d, hd, hlive⟩ := (Option.any_eq_true _ _).1 hsome
    exact ⟨d, hd, by simpa using hlive, fun _ => not_mem_nil⟩
  · cases howing

/-- What a thread has done in the end. -/
def Ended : Option ι → Reply → RegistryStore ι → Prop
  | none, _, s => RebuildOwes (fun _ _ => False) s ∧
      (∀ id, (none, id) ∉ s.leaving) ∧ ∀ tenantId, (none, tenantId) ∉ s.returning
  | some i, reply, s => Finished (some i) reply s

omit [DecidableEq ι] in
lemma lasting_none : Lasting fun s : RegistryStore ι =>
    (∀ id, (none, id) ∉ s.leaving) ∧ ∀ tenantId, (none, tenantId) ∉ s.returning :=
  fun _ _ _ _ honward h => ⟨fun id hid => h.1 id ((honward.leaving (.inr rfl)).1 hid),
    fun t ht => h.2 t ((honward.returning (.inr rfl)).1 ht)⟩

lemma meets_registryPool (hown : OwnImeis devices registry) :
    (registryPool calls scans devices suspended registry).Meets (fun _ => InTime)
      (fun i _ => Others i) (fun i _ => Mine i)
      (fun i => Ending (fun reply s => Standing s ∧ Ended i reply s) fun _ => True) := by
  have hs : Standing (registryPool calls scans devices suspended registry).state :=
    standing_registryPool hown
  have hduties : ∀ i, Duties (some i) (fun _ _ => False) [] []
      (registryPool calls scans devices suspended registry).state := by
    intro i
    refine ⟨fun {f id} howing => ?_, iff_of_false not_mem_nil not_mem_nil,
      iff_of_false not_mem_nil not_mem_nil⟩
    have howing : (if (devices.row id).any (!·.retired) then some none else none) =
        some (some i) := howing
    split at howing <;> cases howing
  intro i
  cases i with
  | none =>
    exact (does_rehydrate hs scans).keep lasting_none hs
      ⟨fun _ => not_mem_nil, fun _ => not_mem_nil⟩
  | some i =>
    show Does (some i) (Finished (some i)) ((calls i).program (some i)) _
    cases calls i with
    | create tenantId accountId imei config => exact does_createDevice nofun hs (hduties i)
    | delete tenantId account id => exact does_deleteDevice nofun hs (hduties i)
    | suspend tenantId => exact does_suspendTenant nofun hs (hduties i)
    | restore tenantId => exact does_restoreTenant nofun hs (hduties i)

structure AllEnded (replies : Option ι → Reply) (s : RegistryStore ι) : Prop where
  standing : Standing s
  ended : ∀ i, Ended i (replies i) s

namespace AllEnded

variable {replies : Option ι → Reply} {id : ℕ} {d : DeviceRow}

omit [DecidableEq ι] in
lemma returning (h : AllEnded replies s) (t : Option ι) (tenantId : String) :
    (t, tenantId) ∉ s.returning := by
  cases t with
  | none => exact (h.ended none).2.2 tenantId
  | some i => exact (h.ended (some i)).returning

omit [DecidableEq ι] in
lemma leaving (h : AllEnded replies s) {t : Option ι} (ht : (t, id) ∈ s.leaving) :
    ∃ d, s.devices.row id = some d ∧ d.retired = true := by
  cases t with
  | none => exact absurd ht ((h.ended none).2.1 id)
  | some i => exact (h.ended (some i)).leaving ht

omit [DecidableEq ι] in
lemma wanted_iff (h : AllEnded replies s) : s.wanted id = true ↔
    ∃ d, s.Serving id d ∧ s.suspended d.tenantId = false :=
  RegistryStore.wanted_iff.trans (exists_congr fun _ => and_congr_right fun _ =>
    or_iff_left fun ⟨t, ht⟩ => h.returning t _ ht)

omit [DecidableEq ι] in
/-- What is still owed is what the rebuild has left out. -/
lemma owing (h : AllEnded replies s) {f : Facet} {t : Option ι} (hd : s.devices.row id = some d)
    (howing : s.owing f id = some t) : s.suspended d.tenantId = true ∧ ¬ s.Cleared d.tenantId := by
  cases t with
  | none =>
    have hcleared : ¬ s.Cleared d.tenantId := fun hcleared => hcleared f id d hd rfl howing
    refine ⟨?_, hcleared⟩
    exact (((h.ended none).1 f id d hd howing).resolve_left nofun).resolve_right hcleared
  | some i => exact absurd howing (h.ended (some i)).owing

omit [DecidableEq ι] in
lemma unmapped_retired (h : AllEnded replies s) {i : ι} (hreply : replies (some i) = .retired id)
    (imei : String) : s.registry.imei imei ≠ some id := by
  intro hmapped
  have hleaving := (h.ended (some i)).retired hreply
  obtain ⟨d, hd⟩ := h.standing.known hleaving
  obtain rfl := (h.standing.own hmapped).2 d hd
  have hnone : s.owing .imei id = none := by
    by_contra hsome
    obtain ⟨t, ht⟩ := Option.ne_none_iff_exists'.1 hsome
    obtain ⟨d', hd'⟩ := h.standing.live ht
    exact hd'.stays _ hleaving
  rcases h.standing.unmapped hd hnone hmapped with hwanted | hformer
  · obtain ⟨d', hd', -⟩ := RegistryStore.wanted_iff.1 hwanted
    exact hd'.stays _ hleaving
  · exact hformer.2 _ hleaving

omit [DecidableEq ι] in
lemma unmapped_suspended (h : AllEnded replies s) {i : ι} {tenantId : String}
    (hreply : replies (some i) = .suspended tenantId) (hsuspended : s.suspended tenantId = true)
    (hd : s.devices.row id = some d) (hlive : d.retired = false) (htenant : d.tenantId = tenantId)
    (imei : String) : s.registry.imei imei ≠ some id := by
  intro hmapped
  obtain rfl := (h.standing.own hmapped).2 d hd
  have hcleared := (h.ended (some i)).suspended hreply
  have hnone : s.owing .imei id = none := by
    by_contra hsome
    obtain ⟨t, ht⟩ := Option.ne_none_iff_exists'.1 hsome
    exact (h.owing hd ht).2 (htenant ▸ hcleared)
  rcases h.standing.unmapped hd hnone hmapped with hwanted | hformer
  · obtain ⟨d', hd', hopen⟩ := h.wanted_iff.1 hwanted
    cases hd'.row.symm.trans hd
    rw [htenant, hsuspended] at hopen
    cases hopen
  · cases hlive.symm.trans hformer.1

omit [DecidableEq ι] in
lemma served (h : AllEnded replies s) (hd : s.devices.row id = some d) (hlive : d.retired = false)
    (hopen : s.suspended d.tenantId = false) :
    s.registry.imei d.imei = some id ∧ id ∈ s.registry.tenantDevices d.tenantId := by
  have hnone : ∀ f, s.owing f id = none := by
    intro f
    by_contra hsome
    obtain ⟨t, ht⟩ := Option.ne_none_iff_exists'.1 hsome
    cases hopen.symm.trans (h.owing hd ht).1
  have hserving : s.Serving id d := by
    refine ⟨hd, hlive, fun t ht => ?_⟩
    obtain ⟨d', hd', hretired⟩ := h.leaving ht
    cases hd.symm.trans hd'
    cases hlive.symm.trans hretired
  have hwanted : s.wanted id = true := h.wanted_iff.2 ⟨d, hserving, hopen⟩
  exact ⟨h.standing.mapped hd (hnone .imei) hwanted,
    (h.standing.member hd (hnone .index) hwanted).2⟩

end AllEnded

/-- The registry, once the rebuild and the operations have replied: it maps no IMEI to a device that
one of them has retired, or suspended for good, and it has every active device of a tenant that is
not suspended. -/
structure Rebuilt (replies : Option ι → Reply) (s : RegistryStore ι) : Prop where
  retired : ∀ i id, replies (some i) = .retired id → ∀ imei, s.registry.imei imei ≠ some id
  suspended : ∀ i tenantId, replies (some i) = .suspended tenantId →
    s.suspended tenantId = true → ∀ id d, s.devices.row id = some d → d.retired = false →
      d.tenantId = tenantId → ∀ imei, s.registry.imei imei ≠ some id
  served : ∀ id d, s.devices.row id = some d → d.retired = false →
    s.suspended d.tenantId = false →
      s.registry.imei d.imei = some id ∧ id ∈ s.registry.tenantDevices d.tenantId

/-- **A rebuild whose commands are in time neither resurrects nor loses a device.** -/
theorem rehydrate_in_time {ι : Type} [DecidableEq ι] (calls : ι → RegistryCall)
    (scans : List (List ScannedKey)) (devices : DeviceTable) (suspended : String → Bool)
    (registry : Registry) (hown : OwnImeis devices registry)
    {p : Pool (Option ι) (registryService ι) RegistryError Reply}
    (hrun : Pool.Run (fun q _ c fate => InTime q.state c fate)
      (registryPool calls scans devices suspended registry) p)
    (replies : Option ι → Reply) (hdone : ∀ i, p.thread i = .done (replies i)) :
    Rebuilt replies p.state := by
  have hcompatible : Pool.Compatible
      (fun (q : Pool (Option ι) (registryService ι) RegistryError Reply) _ c fate =>
        InTime q.state c fate)
      (fun _ => InTime) (fun i _ => Others i) fun i _ => Mine i := by
    refine fun q i c fate q' _ hfits => ⟨hfits, fun hmine j hj hs => ?_⟩
    obtain ⟨hs', honward⟩ := hmine hs
    exact ⟨hs', i, hj.symm, honward⟩
  have hmeets := hrun.meets hcompatible (meets_registryPool hown)
  have hended : AllEnded replies p.state :=
    ⟨(hmeets.returned (hdone none)).1, fun i => (hmeets.returned (hdone i)).2⟩
  exact ⟨fun i id hreply => hended.unmapped_retired hreply,
    fun i tenantId hreply hsuspended id d => hended.unmapped_suspended hreply hsuspended,
    fun id d => hended.served⟩

end Runs

/-! ## A tracker and its rebuild -/

def oneDevice : DeviceTable where
  row id := if id = 0 then some ⟨⟨0, "352093081452251", "acme", "fleet", "{}"⟩, false⟩ else none
  nextId := 1
  serial {id d} h := by
    split at h
    · rename_i hid
      cases h
      exact ⟨hid.symm, hid ▸ Nat.zero_lt_one⟩
    · cases h
  active_key {id id' d d'} h h' _ _ _ := by
    split at h
    · split at h'
      · rename_i hid hid'
        exact hid.trans hid'.symm
      · cases h'
    · cases h

/-- Redis after it has lost all but an index. -/
def staleRegistry : Registry :=
  ⟨fun _ => none, fun _ => none, fun _ => none, fun _ => none, fun _ => [7]⟩

/-- The rebuild reads the devices, a device is retired, and the pipeline of the rebuild maps its
IMEI again. -/
theorem rehydrate_resurrects :
    ∃ (p : Pool (Option Unit) (registryService Unit) RegistryError Reply)
      (replies : Option Unit → Reply),
      Pool.Run (fun _ _ _ fate => fate = .ok)
        (registryPool (fun _ => .delete "acme" none 0) [[.index "acme"]] oneDevice (fun _ => false)
          staleRegistry) p ∧
      (∀ i, p.thread i = .done (replies i)) ∧ ¬ Rebuilt replies p.state := by
  refine ⟨_, fun i => i.elim (.rehydrated 1) fun _ => .retired 0,
    Pool.run_exec (P := (· = .ok)) (replicate 2 (none, Fate.ok) ++
      replicate 5 (some (), Fate.ok) ++ replicate 9 (none, Fate.ok)) (by decide) _,
    fun i => ?_, fun h => ?_⟩
  · rcases i with _ | ⟨⟨⟩⟩
    · exact eq_done_of_returned (by decide +kernel)
    · exact eq_done_of_returned (by decide +kernel)
  · exact h.retired () 0 rfl "352093081452251" (by decide +kernel)

/-- One device is created, another is retired. -/
def comeAndGo : Bool → RegistryCall
  | false => .create "acme" "fleet" "352093081452269" "{}"
  | true => .delete "acme" none 0

/-- The device is created while the rebuild reads, and the other is retired after it. -/
theorem rehydrate_in_time_comeAndGo :
    Rebuilt
      (fun i => i.elim (.rehydrated 2) fun retires => if retires then .retired 0 else .created 1)
      ((registryPool comeAndGo [[.index "acme"]] oneDevice (fun _ => false) staleRegistry).exec
        ([(none, Fate.ok)] ++ replicate 3 (some false, Fate.ok) ++
          replicate 15 (none, Fate.ok) ++ replicate 5 (some true, Fate.ok))).state :=
  rehydrate_in_time comeAndGo [[.index "acme"]] oneDevice (fun _ => false) staleRegistry
    (fun _ _ h => nomatch h) (Pool.run_exec_of_isSome _ _ (by decide +kernel)) _ fun i => by
      rcases i with _ | _ | _
      · exact eq_done_of_returned (by decide +kernel)
      · exact eq_done_of_returned (by decide +kernel)
      · exact eq_done_of_returned (by decide +kernel)

end Orbetra.Rehydrate
