import Orbetra.Framework.Async
import Orbetra.Framework.Update
import Orbetra.Records

/-!
# Share links and the retirement of a device

`POST /v1/devices/:id/shares`, `DELETE /v1/shares/:id` and `DELETE /v1/devices/:id`, with the
repositories under them.  A retirement revokes the live links that it reads, and marks the device
afterwards; a creation finds the device unmarked, and inserts its link by the id later.

No link of a retired device resolves, unless a creation inserts one after the retirement has read
the live links (`retired_not_public`, `retired_but_public`). -/

namespace Orbetra.Shares

open Function List Async Option

/-! ## The store -/

abbrev TenantId := ℕ

abbrev AccountId := ℕ

abbrev UserId := ℕ

abbrev LinkId := ℕ

structure Scope where
  tenantId : TenantId
  /-- `none` is tenant-wide. -/
  accountId : Option AccountId
  deriving DecidableEq

def Scope.reaches (scope : Scope) (tenantId : TenantId) (accountId : AccountId) : Bool :=
  tenantId = scope.tenantId && scope.accountId.all (accountId = ·)

/-- A row of `devices`, which is found under its id. -/
structure Device where
  tenantId : TenantId
  accountId : AccountId
  imei : String
  retiredAt : Option Ms
  deriving DecidableEq

structure ShareLinkView where
  id : LinkId
  tenantId : TenantId
  deviceId : DeviceId
  tokenPrefix : String
  label : Option String
  expiresAt : Ms
  revokedAt : Option Ms
  createdAt : Ms
  deriving DecidableEq

structure ShareLink extends ShareLinkView where
  accountId : AccountId
  tokenHash : String
  createdByUserId : UserId
  deriving DecidableEq

/-- What `shareLinks.create` inserts. -/
structure NewLink where
  tenantId : TenantId
  accountId : AccountId
  deviceId : DeviceId
  tokenHash : String
  tokenPrefix : String
  label : Option String
  createdByUserId : UserId
  ttlHours : ℕ
  deriving DecidableEq

/-- The rows, the clock, and the retirements that have read the live links of their device. -/
structure ShareStore (ι : Type) where
  devices : DeviceId → Option Device
  links : List ShareLink
  nextId : LinkId
  now : Ms
  swept : ι → Bool

variable {ι : Type}

namespace ShareStore

def scopedById (s : ShareStore ι) (scope : Scope) (id : DeviceId) : Option Device :=
  (s.devices id).filter fun device => scope.reaches device.tenantId device.accountId

def live (s : ShareStore ι) (scope : Scope) (deviceId : DeviceId) : List ShareLink :=
  s.links.filter fun link =>
    scope.reaches link.tenantId link.accountId && link.deviceId = deviceId && link.revokedAt.isNone

def revoke (s : ShareStore ι) (ids : List LinkId) : ShareStore ι :=
  { s with
    links := s.links.map fun link =>
      if link.id ∈ ids then { link with revokedAt := some s.now } else link }

end ShareStore

structure ResolvedShare where
  tenantId : TenantId
  deviceId : DeviceId
  expiresAt : Ms
  label : Option String
  deriving DecidableEq

def ShareStore.resolveByHash (s : ShareStore ι) (hash : String) (now : Ms) : Option ResolvedShare :=
  (s.links.find? fun link =>
    link.tokenHash = hash && link.revokedAt.isNone && decide (now < link.expiresAt)).map
    fun link => ⟨link.tenantId, link.deviceId, link.expiresAt, link.label⟩

/-! ## Commands -/

/-- What a route answers. -/
inductive Reply
  | problem (status : ℕ) (title detail : String)
  | created (token path : String) (view : ShareLinkView)
  | device (id : DeviceId) (row : Device)
  | ok
  deriving DecidableEq

/-- One command to Postgres or to Redis. -/
inductive ShareCommand (ι : Type)
  | getDevice (scope : Scope) (id : DeviceId)
  | requireReady (me : ι)
  | hdelIfMine (imei : String) (id : DeviceId)
  | clearRegistry (id : DeviceId) (tenantId : TenantId)
  | insertLink (data : NewLink)
  | findLink (scope : Scope) (id : LinkId)
  | revokeLink (id : LinkId)
  | findLive (me : ι) (scope : Scope) (deviceId : DeviceId)
  | revokeLinks (ids : List LinkId)
  | retireDevice (id : DeviceId)
  | audit
  | wait (ms : ℕ)
  deriving DecidableEq

/-- What a command is answered with; a write of a row that is not there, or that a constraint
refuses, with `none`. -/
def ShareCommand.Answer : ShareCommand ι → Type
  | .getDevice .. => Option Device
  | .requireReady _ => Option Reply
  | .insertLink _ => Option ShareLink
  | .findLink .. => Option ShareLink
  | .revokeLink _ => Option ShareLink
  | .findLive .. => List ShareLink
  | .retireDevice _ => Option Device
  | _ => Unit

/-- What the routes run against: what each request hears about its readiness, the random tokens and
their hash. -/
structure Setting (ι : Type) where
  notReady : ι → Option Reply
  token : ι → String
  hashShareToken : String → String

def hourMs : Ms := 3600000

variable [DecidableEq ι]

def ShareCommand.run (setting : Setting ι) :
    (c : ShareCommand ι) → ShareStore ι → ShareStore ι × c.Answer
  | .getDevice scope id, s => (s, s.scopedById scope id)
  | .requireReady me, s => (s, setting.notReady me)
  | .hdelIfMine .., s => (s, ())
  | .clearRegistry .., s => (s, ())
  | .insertLink data, s =>
    if s.links.any (·.tokenHash = data.tokenHash) || (s.devices data.deviceId).isNone then
      (s, none)
    else
      let row : ShareLink := ⟨⟨s.nextId, data.tenantId, data.deviceId, data.tokenPrefix, data.label,
        s.now + data.ttlHours * hourMs, none, s.now⟩, data.accountId, data.tokenHash,
        data.createdByUserId⟩
      ({ s with links := s.links ++ [row], nextId := s.nextId + 1 }, some row)
  | .findLink scope id, s =>
    (s, s.links.find? fun link => scope.reaches link.tenantId link.accountId && link.id = id)
  | .revokeLink id, s => (s.revoke [id], (s.revoke [id]).links.find? (·.id = id))
  | .findLive me scope deviceId, s =>
    ({ s with swept := update s.swept me true }, s.live scope deviceId)
  | .revokeLinks ids, s => (s.revoke ids, ())
  | .retireDevice id, s =>
    match s.devices id with
    | none => (s, none)
    | some device =>
      let row := { device with retiredAt := some s.now }
      ({ s with devices := update s.devices id (some row) }, some row)
  | .audit, s => (s, ())
  | .wait ms, s => ({ s with now := s.now + ms }, ())

abbrev shareService (ι : Type) [DecidableEq ι] (setting : Setting ι) : Service (ShareStore ι) where
  Cmd := ShareCommand ι
  Answer := ShareCommand.Answer
  run := ShareCommand.run setting

/-! ## The routes -/

variable {setting : Setting ι}

abbrev Request (ι : Type) [DecidableEq ι] (setting : Setting ι) :=
  Async (shareService ι setting) Unit

def send (c : ShareCommand ι) : Request ι setting c.Answer :=
  Async.send (V := shareService ι setting) () c

/-- A write; one that finds no row, or that a constraint refuses, throws. -/
def written {α : Type} : Option α → Request ι setting α
  | some a => pure a
  | none => .threw ()

def notFound : Reply := .problem 404 "Not Found" ""

structure ShareCreateBody where
  ttlHours : ℕ
  label : Option String
  deriving DecidableEq

def createLink (me : ι) (scope : Scope) (userId : UserId) (id : DeviceId) (device : Device)
    (data : ShareCreateBody) : Request ι setting (String × ShareLinkView) := do
  let token := setting.token me
  let tokenPrefix := String.ofList (token.toList.take 8)
  let inserted : Option ShareLink ← send (.insertLink ⟨scope.tenantId, device.accountId, id,
    setting.hashShareToken token, tokenPrefix, data.label, userId, data.ttlHours⟩)
  let row ← written inserted
  let _ : Unit ← send .audit
  pure (token, row.toShareLinkView)

def revoke (scope : Scope) (id : LinkId) : Request ι setting Bool := do
  let found : Option ShareLink ← send (.findLink scope id)
  match found with
  | none => pure false
  | some found =>
    if found.revokedAt.isSome then
      pure false
    else
      let updated : Option ShareLink ← send (.revokeLink id)
      let _ ← written updated
      let _ : Unit ← send .audit
      pure true

def revokeForDevice (me : ι) (scope : Scope) (deviceId : DeviceId) : Request ι setting ℕ := do
  let live : List ShareLink ← send (.findLive me scope deviceId)
  if live.length = 0 then
    pure 0
  else
    let _ : Unit ← send (.revokeLinks (live.map (·.id)))
    -- one audit row for each link
    live.foldlM (fun _ _ => send .audit) ()
    pure live.length

def retire (me : ι) (scope : Scope) (id : DeviceId) : Request ι setting (Option Device) := do
  let before : Option Device ← send (.getDevice scope id)
  match before with
  | none => pure none
  | some before =>
    let _ ← revokeForDevice me scope id
    if before.retiredAt.isSome then
      pure (some before)
    else
      let updated : Option Device ← send (.retireDevice id)
      let row ← written updated
      let _ : Unit ← send .audit
      pure (some row)

def deactivateDevice (id : DeviceId) (device : Device) : Request ι setting Unit := do
  let _ : Unit ← send (.hdelIfMine device.imei id)
  send (.clearRegistry id device.tenantId)

def deleteDevice (me : ι) (scope : Scope) (id : DeviceId) : Request ι setting Reply := do
  let device : Option Device ← send (.getDevice scope id)
  match device with
  | none => pure notFound
  | some device =>
    deactivateDevice id device
    let row ← retire me scope id
    pure (.device id (row.getD device))

def postShare (me : ι) (scope : Scope) (userId : UserId) (id : DeviceId)
    (body : Option ShareCreateBody) : Request ι setting Reply := do
  let device : Option Device ← send (.getDevice scope id)
  match device with
  | none => pure notFound
  | some device =>
    let notReady : Option Reply ← send (.requireReady me)
    match notReady with
    | some notReady => pure notReady
    | none =>
      if device.retiredAt.isSome then
        pure (.problem 409 "Conflict" "device is retired")
      else
        match body with
        | none => pure (.problem 400 "Bad Request" "")
        | some data =>
          let (token, view) ← createLink me scope userId id device data
          pure (.created token ("/s/" ++ token) view)

def deleteShare (scope : Scope) (id : LinkId) : Request ι setting Reply := do
  if ← revoke scope id then pure .ok else pure notFound

/-- What is asked for, and time that passes. -/
inductive ShareCall
  | create (scope : Scope) (userId : UserId) (id : DeviceId) (body : Option ShareCreateBody)
  | revoke (scope : Scope) (id : LinkId)
  | retire (scope : Scope) (id : DeviceId)
  | wait (ms : ℕ)
  deriving DecidableEq

def ShareCall.program (me : ι) : ShareCall → Request ι setting Reply
  | .create scope userId id body => postShare me scope userId id body
  | .revoke scope id => deleteShare scope id
  | .retire scope id => deleteDevice me scope id
  | .wait ms => do
    let _ : Unit ← send (.wait ms)
    pure .ok

/-! ## What a step leaves -/

section Steps

variable {id : DeviceId} {s s' : ShareStore ι}

def Later (row row' : Device) : Prop :=
  row'.tenantId = row.tenantId ∧ row'.accountId = row.accountId ∧
    (row.retiredAt.isSome = true → row'.retiredAt.isSome = true)

/-- The links carry the tenant and the account of their device. -/
def Pinned (s : ShareStore ι) : Prop :=
  ∀ link ∈ s.links, ∀ row ∈ s.devices link.deviceId,
    link.tenantId = row.tenantId ∧ link.accountId = row.accountId

/-- Every step keeps this. -/
structure Kept (s s' : ShareStore ι) : Prop where
  devices : ∀ id, ∀ row ∈ s.devices id, ∃ row' ∈ s'.devices id, Later row row'
  pinned : Pinned s → Pinned s'

/-- No link of the device becomes live. -/
def NoneNew (id : DeviceId) (s s' : ShareStore ι) : Prop :=
  ∀ link ∈ s'.links, link.deviceId = id → link.revokedAt = none → link ∈ s.links

/-- The device is retired, and all its links are revoked. -/
def Gone (id : DeviceId) (s : ShareStore ι) : Prop :=
  (∃ row ∈ s.devices id, row.retiredAt.isSome = true) ∧
    ∀ link ∈ s.links, link.deviceId = id → link.revokedAt ≠ none

omit [DecidableEq ι] in
lemma Later.refl (row : Device) : Later row row := ⟨rfl, rfl, fun h => h⟩

omit [DecidableEq ι] in
lemma Later.trans {a b c : Device} (h : Later a b) (h' : Later b c) : Later a c :=
  ⟨h'.1.trans h.1, h'.2.1.trans h.2.1, fun ha => h'.2.2 (h.2.2 ha)⟩

omit [DecidableEq ι] in
lemma Kept.of_same (hdevices : s'.devices = s.devices) (hlinks : s'.links = s.links) :
    Kept s s' := by
  refine ⟨fun id row hrow => ⟨row, hdevices ▸ hrow, .refl row⟩, fun h => ?_⟩
  unfold Pinned
  rw [hdevices, hlinks]
  exact h

omit [DecidableEq ι] in
lemma NoneNew.of_same (hlinks : s'.links = s.links) : NoneNew id s s' :=
  fun _ hlink _ _ => hlinks ▸ hlink

omit [DecidableEq ι] in
lemma Gone.next (h : Gone id s) (hkept : Kept s s') (hnone : NoneNew id s s') : Gone id s' := by
  obtain ⟨⟨row, hrow, hretired⟩, hlinks⟩ := h
  obtain ⟨row', hrow', hlater⟩ := hkept.devices id row hrow
  refine ⟨⟨row', hrow', hlater.2.2 hretired⟩, fun link hlink hid hlive => ?_⟩
  exact hlinks link (hnone link hlink hid hlive) hid hlive

omit [DecidableEq ι] in
lemma Gone.resolveByHash (h : Gone id s) {hash : String} {now : Ms} :
    ∀ share ∈ s.resolveByHash hash now, share.deviceId ≠ id := by
  intro share hshare hid
  obtain ⟨link, hlink, rfl⟩ := map_eq_some_iff.mp hshare
  have hfound := find?_some hlink
  rw [Bool.and_eq_true_iff, Bool.and_eq_true_iff] at hfound
  exact h.2 link (mem_of_find?_eq_some hlink) hid (isNone_iff_eq_none.mp hfound.1.2)

omit [DecidableEq ι] in
lemma mem_revoke {ids : List LinkId} {link : ShareLink} (h : link ∈ (s.revoke ids).links) :
    (link ∈ s.links ∧ link.id ∉ ids) ∨ ∃ old ∈ s.links, old.id ∈ ids ∧
      link = { old with revokedAt := some s.now } := by
  obtain ⟨old, hold, rfl⟩ := mem_map.mp h
  split
  · rename_i hmem
    exact Or.inr ⟨old, hold, hmem, rfl⟩
  · rename_i hmem
    exact Or.inl ⟨hold, hmem⟩

omit [DecidableEq ι] in
lemma kept_revoke (ids : List LinkId) (s : ShareStore ι) : Kept s (s.revoke ids) := by
  refine ⟨fun id row hrow => ⟨row, hrow, .refl row⟩, fun h link hlink => ?_⟩
  rcases mem_revoke hlink with ⟨hold, -⟩ | ⟨old, hold, -, rfl⟩
  · exact h link hold
  · exact h old hold

omit [DecidableEq ι] in
lemma noneNew_revoke (ids : List LinkId) (s : ShareStore ι) : NoneNew id s (s.revoke ids) := by
  intro link hlink _ hlive
  rcases mem_revoke hlink with ⟨hold, -⟩ | ⟨old, hold, -, rfl⟩
  · exact hold
  · cases hlive

/-- The commands that insert no link. -/
def ShareCommand.Plain : ShareCommand ι → Prop
  | .insertLink _ => False
  | _ => True

omit [DecidableEq ι] in
lemma kept_retireDevice {device row : Device} (hdevice : s.devices id = some device)
    (hlater : Later device row) :
    Kept s { s with devices := update s.devices id (some row) } := by
  have hrow : ∀ x row', update s.devices id (some row) x = some row' →
      ∃ old, s.devices x = some old ∧ Later old row' := by
    intro x row' hrow'
    obtain ⟨rfl, rfl⟩ | ⟨-, hrow'⟩ := update_some_eq_some.1 hrow'
    · exact ⟨device, hdevice, hlater⟩
    · exact ⟨row', hrow', .refl row'⟩
  refine ⟨fun x old hold => ?_, fun h link hlink row' hrow' => ?_⟩
  · show ∃ row' ∈ update s.devices id (some row) x, _
    by_cases hx : x = id
    · subst hx
      cases hdevice.symm.trans hold
      rw [update_self]
      exact ⟨row, rfl, hlater⟩
    · rw [update_of_ne hx]
      exact ⟨old, hold, .refl old⟩
  · obtain ⟨old, hold, hl⟩ := hrow _ row' hrow'
    obtain ⟨htenant, haccount⟩ := h link hlink old hold
    exact ⟨htenant.trans hl.1.symm, haccount.trans hl.2.1.symm⟩

lemma ShareCommand.Plain.run {c : ShareCommand ι} (hc : c.Plain) (setting : Setting ι)
    (id : DeviceId) (s : ShareStore ι) :
    Kept s (c.run setting s).1 ∧ NoneNew id s (c.run setting s).1 := by
  cases c with
  | insertLink data => exact hc.elim
  | revokeLink link => exact ⟨kept_revoke [link] s, noneNew_revoke [link] s⟩
  | revokeLinks ids => exact ⟨kept_revoke ids s, noneNew_revoke ids s⟩
  | retireDevice device =>
    unfold ShareCommand.run
    dsimp only
    split
    · exact ⟨.of_same rfl rfl, .of_same rfl⟩
    · rename_i row hrow
      exact ⟨kept_retireDevice hrow ⟨rfl, rfl, fun _ => rfl⟩, .of_same rfl⟩
  | getDevice scope id => exact ⟨.of_same rfl rfl, .of_same rfl⟩
  | requireReady me => exact ⟨.of_same rfl rfl, .of_same rfl⟩
  | hdelIfMine imei id => exact ⟨.of_same rfl rfl, .of_same rfl⟩
  | clearRegistry id tenantId => exact ⟨.of_same rfl rfl, .of_same rfl⟩
  | findLink scope id => exact ⟨.of_same rfl rfl, .of_same rfl⟩
  | findLive me scope deviceId => exact ⟨.of_same rfl rfl, .of_same rfl⟩
  | audit => exact ⟨.of_same rfl rfl, .of_same rfl⟩
  | wait ms => exact ⟨.of_same rfl rfl, .of_same rfl⟩

lemma insertLink_run {data : NewLink} (setting : Setting ι)
    (hdevice : ∃ row ∈ s.devices data.deviceId,
      data.tenantId = row.tenantId ∧ data.accountId = row.accountId) :
    Kept s (ShareCommand.run setting (.insertLink data) s).1 ∧
      (data.deviceId ≠ id → NoneNew id s (ShareCommand.run setting (.insertLink data) s).1) := by
  unfold ShareCommand.run
  dsimp only
  split
  · exact ⟨.of_same rfl rfl, fun _ => .of_same rfl⟩
  refine ⟨⟨fun x row hrow => ⟨row, hrow, .refl row⟩, fun h link hlink row hrow => ?_⟩,
    fun hother link hlink hid _ => ?_⟩
  · rcases mem_append.mp hlink with hlink | hlink
    · exact h link hlink row hrow
    · obtain rfl := mem_singleton.mp hlink
      obtain ⟨row', hrow', hpinned⟩ := hdevice
      cases hrow'.symm.trans hrow
      exact hpinned
  · rcases mem_append.mp hlink with hlink | hlink
    · exact hlink
    · obtain rfl := mem_singleton.mp hlink
      exact absurd hid hother

end Steps

/-! ## One request among others -/

section Guarded

variable {id : DeviceId} {me : ι} {s s' : ShareStore ι} {α β : Type}

structure Retiring (id : DeviceId) (me : ι) (s s' : ShareStore ι) : Prop where
  kept : Kept s s'
  swept : s.swept me = true → s'.swept me = true
  noneNew : s.swept me = true → NoneNew id s s'

/-- A link of the device is inserted before the retirement has read the live links. -/
def Unswept (id : DeviceId) (me : ι) (s : ShareStore ι) : ShareCommand ι → Prop
  | .insertLink data => data.deviceId = id → s.swept me = false
  | _ => True

/-- Among others a request keeps what a step leaves, as long as no link comes after the sweep. -/
abbrev Guarded (id : DeviceId) (me : ι) (Q : α → ShareStore ι → Prop) (m : Request ι setting α)
    (s : ShareStore ι) : Prop :=
  Meets (fun s c _ => Unswept id me s c) (fun _ => Retiring id me) (fun _ => Retiring id me)
    (Returning Q) m s

omit [DecidableEq ι] in
lemma Retiring.refl (s : ShareStore ι) : Retiring id me s s :=
  ⟨.of_same rfl rfl, fun h => h, fun _ => .of_same rfl⟩

omit [DecidableEq ι] in
lemma stable_pinned : Stable (Retiring id me) Pinned := fun _ _ h => h.kept.pinned

def Found (id : DeviceId) (before : Device) (s : ShareStore ι) : Prop :=
  ∃ row ∈ s.devices id, Later before row

omit [DecidableEq ι] in
lemma stable_found {x : DeviceId} {before : Device} : Stable (Retiring id me) (Found x before) := by
  intro s s' h ⟨row, hrow, hlater⟩
  obtain ⟨row', hrow', hlater'⟩ := h.kept.devices x row hrow
  exact ⟨row', hrow', hlater.trans hlater'⟩

/-- Since the sweep every live link of the device is one of those. -/
def Swept (id : DeviceId) (me : ι) (ids : List LinkId) (s : ShareStore ι) : Prop :=
  s.swept me = true ∧ ∀ link ∈ s.links, link.deviceId = id → link.revokedAt = none → link.id ∈ ids

omit [DecidableEq ι] in
lemma stable_swept {ids : List LinkId} : Stable (Retiring id me) (Swept id me ids) :=
  fun _ _ h hs => ⟨h.swept hs.1, fun link hlink hid hlive =>
    hs.2 link (h.noneNew hs.1 link hlink hid hlive) hid hlive⟩

omit [DecidableEq ι] in
lemma Swept.gone (h : Swept id me [] s) {d : Device}
    (hretired : d.retiredAt.isSome = true) (hbefore : Found id d s) : Gone id s := by
  obtain ⟨row, hrow, hlater⟩ := hbefore
  refine ⟨⟨row, hrow, hlater.2.2 hretired⟩, fun link hlink hid hlive => ?_⟩
  exact absurd (h.2 link hlink hid hlive) not_mem_nil

lemma swept_run (c : ShareCommand ι) (s : ShareStore ι) (h : s.swept me = true) :
    (c.run setting s).1.swept me = true := by
  cases c with
  | findLive other scope deviceId =>
    show update s.swept other true me = true
    by_cases hother : me = other
    · rw [hother, update_self]
    · rw [update_of_ne hother, h]
  | insertLink data =>
    unfold ShareCommand.run
    dsimp only
    split <;> exact h
  | retireDevice id =>
    unfold ShareCommand.run
    dsimp only
    split <;> exact h
  | getDevice scope id => exact h
  | requireReady me => exact h
  | hdelIfMine imei id => exact h
  | clearRegistry id tenantId => exact h
  | findLink scope id => exact h
  | revokeLink id => exact h
  | revokeLinks ids => exact h
  | audit => exact h
  | wait ms => exact h

variable {c : ShareCommand ι} {Q : α → ShareStore ι → Prop} {m : Request ι setting α}
  {scope : Scope} {device : Device}

lemma ShareCommand.Plain.retiring (hc : c.Plain) (s : ShareStore ι) (fate : Fate) :
    Retiring id me s ((shareService ι setting).answer c s fate).1 := by
  have hrun : Retiring id me s (c.run setting s).1 :=
    ⟨(hc.run setting id s).1, swept_run c s, fun _ => (hc.run setting id s).2⟩
  cases fate with
  | ok => exact hrun
  | refused => exact .refl s
  | lost => exact hrun

lemma guarded_threw (s : ShareStore ι) : Guarded id me Q (.threw () : Request ι setting α) s :=
  .threw (fun _ => True) trivial (fun _ _ _ _ => trivial) fun _ _ => trivial

lemma guarded_done {a : α} (hs : Q a s) (hQ : Stable (Retiring id me) (Q a)) :
    Guarded id me Q (.done a : Request ι setting α) s := .done (Q a) hs hQ fun _ h => h

lemma guarded_bind {R : β → ShareStore ι → Prop} {f : α → Request ι setting β}
    (hm : Guarded id me Q m s) (hf : ∀ a s, Q a s → Guarded id me R (f a) s) :
    Guarded id me R (m >>= f) s :=
  hm.bind hf fun _ _ _ => trivial

lemma guarded_send {f : c.Answer → Request ι setting α} (J : ShareStore ι → Prop) (hs : J s)
    (hJ : Stable (Retiring id me) J) (hc : c.Plain) (hf : ∀ s, J s → J (c.run setting s).1 →
      Guarded id me Q (f (c.run setting s).2) (c.run setting s).1) :
    Guarded id me Q (send c >>= f) s :=
  Async.Meets.send (V := shareService ι setting) J hs hJ
    (fun s hs => ⟨hc.retiring s .ok, hf s hs (hJ _ _ (hc.retiring s .ok) hs)⟩)
    (fun s _ => ⟨.refl s, guarded_threw s⟩) fun _ _ => guarded_threw _

/-- What inserts no link leaves an assertion that the others keep. -/
lemma guarded_plain {J : ShareStore ι → Prop} (hm : m.Sends ShareCommand.Plain)
    (hJ : Stable (Retiring id me) J) (hs : J s) :
    Guarded id me (fun _ => J) m s := by
  have hmeets : m.Meets (fun s c _ => Unswept id me s c) (fun _ => Retiring id me)
      (fun _ => Retiring id me) (fun _ _ => True) s :=
    hm.meets (fun c hc s fate => hc.retiring s fate) s
  have hframe := hmeets.frame (K := J) (fun _ => hJ) (fun _ s s' h hs => hJ s s' h hs) hs
  refine hframe.mono fun r s hr => ?_
  cases r with
  | ok a => exact hr.2
  | error e => trivial

lemma sends_plain (hc : c.Plain) : (send c : Request ι setting c.Answer).Sends ShareCommand.Plain :=
  Async.Sends.send (V := shareService ι setting) (c := c) hc

lemma sends_written (r : Option α) :
    (written r : Request ι setting α).Sends ShareCommand.Plain := by
  cases r <;> trivial

lemma sends_audit (r : α) :
    (send .audit >>= fun _ => pure r : Request ι setting α).Sends ShareCommand.Plain :=
  .bind (sends_plain (c := .audit) trivial) fun _ => trivial

lemma sends_deactivateDevice (x : DeviceId) (device : Device) :
    (deactivateDevice x device : Request ι setting Unit).Sends ShareCommand.Plain :=
  .bind (sends_plain (c := .hdelIfMine _ _) trivial)
    fun _ => sends_plain (c := .clearRegistry _ _) trivial

lemma sends_audits {ε : Type} (l : List ε) :
    (l.foldlM (fun _ _ => send .audit) () : Request ι setting Unit).Sends ShareCommand.Plain := by
  induction l with
  | nil => trivial
  | cons x l ih => exact .bind (sends_plain (c := .audit) trivial) fun _ => ih

lemma sends_revokeForDevice (me : ι) (scope : Scope) (x : DeviceId) :
    (revokeForDevice me scope x : Request ι setting ℕ).Sends ShareCommand.Plain := by
  refine .bind (sends_plain (c := .findLive me scope x) trivial) fun live => ?_
  split
  · trivial
  · exact .bind (sends_plain (c := .revokeLinks _) trivial)
      fun _ => .bind (sends_audits live) fun _ => trivial

lemma sends_retire (me : ι) (scope : Scope) (x : DeviceId) :
    (retire me scope x : Request ι setting (Option Device)).Sends ShareCommand.Plain := by
  refine .bind (sends_plain (c := .getDevice scope x) trivial) fun before => ?_
  cases before with
  | none => trivial
  | some before =>
    refine .bind (sends_revokeForDevice me scope _) fun _ => ?_
    split
    · trivial
    · exact .bind (sends_plain (c := .retireDevice _) trivial)
        fun updated => .bind (sends_written updated) fun row => sends_audit (some row)

lemma sends_revoke (scope : Scope) (link : LinkId) :
    (revoke scope link : Request ι setting Bool).Sends ShareCommand.Plain := by
  refine .bind (sends_plain (c := .findLink scope link) trivial) fun found => ?_
  cases found with
  | none => trivial
  | some found =>
    dsimp only
    split
    · trivial
    · exact .bind (sends_plain (c := .revokeLink link) trivial)
        fun updated => .bind (sends_written updated) fun _ => sends_audit true

lemma sends_program (i : ι) {call : ShareCall}
    (hcall : ∀ scope userId x body, call ≠ .create scope userId x body) :
    (call.program i : Request ι setting Reply).Sends ShareCommand.Plain := by
  cases call with
  | create scope userId x body => exact absurd rfl (hcall scope userId x body)
  | revoke scope link =>
    refine .bind (sends_revoke scope link) fun revoked => ?_
    cases revoked <;> trivial
  | retire scope x =>
    refine .bind (sends_plain (c := .getDevice scope x) trivial) fun device => ?_
    cases device with
    | none => trivial
    | some device =>
      exact .bind (sends_deactivateDevice x device) fun _ => .bind (sends_retire i scope x)
        fun _ => trivial
  | wait ms => exact .bind (sends_plain (c := .wait ms) trivial) fun _ => trivial

omit [DecidableEq ι] in
lemma Found.reaches {scope : Scope} {before : Device} (h : Found id before s)
    (hscope : scope.reaches before.tenantId before.accountId = true) :
    ∃ row ∈ s.devices id, scope.reaches row.tenantId row.accountId = true := by
  obtain ⟨row, hrow, hlater⟩ := h
  exact ⟨row, hrow, by rw [hlater.1, hlater.2.1, hscope]⟩

omit [DecidableEq ι] in
lemma mem_live {scope : Scope} {before : Device} (hpinned : Pinned s) (hfound : Found id before s)
    (hscope : scope.reaches before.tenantId before.accountId = true) {link : ShareLink}
    (hlink : link ∈ s.links) (hid : link.deviceId = id) (hlive : link.revokedAt = none) :
    link ∈ s.live scope id := by
  obtain ⟨row, hrow, hreaches⟩ := hfound.reaches hscope
  obtain ⟨htenant, haccount⟩ := hpinned link hlink row (hid ▸ hrow)
  refine mem_filter.mpr ⟨hlink, ?_⟩
  rw [htenant, haccount, hreaches, hlive]
  simpa using hid

lemma guarded_revokeForDevice {before : Device} (hpinned : Pinned s) (hfound : Found id before s)
    (hscope : scope.reaches before.tenantId before.accountId = true) :
    Guarded id me (fun _ s => Swept id me [] s ∧ Found id before s)
      (revokeForDevice me scope id : Request ι setting ℕ) s := by
  refine guarded_send (fun s => Pinned s ∧ Found id before s) ⟨hpinned, hfound⟩
    (stable_pinned.and stable_found) (c := .findLive me scope id) trivial fun s hs hs' => ?_
  have hswept : Swept id me ((s.live scope id).map (·.id))
      (ShareCommand.run setting (.findLive me scope id) s).1 := by
    refine ⟨update_self .., fun link hlink hid hlive => ?_⟩
    exact mem_map_of_mem (mem_live hs.1 hs.2 hscope hlink hid hlive)
  show Guarded id me _ (if (s.live scope id).length = 0 then _ else _) _
  split
  · rename_i hempty
    rw [length_eq_zero_iff.mp hempty] at hswept
    exact guarded_done ⟨hswept, hs'.2⟩ (stable_swept.and stable_found)
  · have hrevoke : ∀ s', Swept id me ((s.live scope id).map (·.id)) s' →
        Swept id me [] (s'.revoke ((s.live scope id).map (·.id))) := by
      refine fun s' hs' => ⟨hs'.1, fun link hlink hid hlive => ?_⟩
      rcases mem_revoke hlink with ⟨hold, hmissed⟩ | ⟨old, -, -, rfl⟩
      · exact absurd (hs'.2 link hold hid hlive) hmissed
      · cases hlive
    refine guarded_send (fun s' => Swept id me ((s.live scope id).map (·.id)) s' ∧
      Found id before s') ⟨hswept, hs'.2⟩ (stable_swept.and stable_found)
      (c := .revokeLinks _) trivial fun s' hs' hafter => ?_
    refine guarded_bind (guarded_plain (sends_audits _) (stable_swept.and stable_found)
      ⟨hrevoke s' hs'.1, hafter.2⟩) fun _ s' hs' => ?_
    exact guarded_done hs' (stable_swept.and stable_found)

omit [DecidableEq ι] in
lemma stable_gone : Stable (Retiring id me) fun s => s.swept me = true ∧ Gone id s :=
  fun _ _ h hs => ⟨h.swept hs.1, hs.2.next h.kept (h.noneNew hs.1)⟩

/-- **The retirement of a device**, that its own scope reaches. -/
lemma guarded_retire (hpinned : Pinned s) (hfound : Found id device s)
    (hscope : scope.reaches device.tenantId device.accountId = true) :
    Guarded id me (fun r s => r.isSome = true ∧ s.swept me = true ∧ Gone id s)
      (retire me scope id : Request ι setting (Option Device)) s := by
  refine guarded_send (fun s => Pinned s ∧ Found id device s) ⟨hpinned, hfound⟩
    (stable_pinned.and stable_found) (c := .getDevice scope id) trivial fun s hs _ => ?_
  obtain ⟨before, hbefore, hreaches⟩ := hs.2.reaches hscope
  have hread : s.scopedById scope id = some before := by
    unfold ShareStore.scopedById
    rw [mem_def.mp hbefore, filter_some, if_pos hreaches]
  show Guarded id me _ (match s.scopedById scope id with | none => _ | some before => _) s
  rw [hread]
  dsimp only
  refine guarded_bind (guarded_revokeForDevice hs.1 ⟨before, hbefore, .refl before⟩ hreaches)
    fun _ s hs => ?_
  split
  · rename_i hretired
    exact guarded_done ⟨rfl, hs.1.1, hs.1.gone hretired hs.2⟩
      fun _ _ h hs => ⟨hs.1, stable_gone _ _ h hs.2⟩
  · refine guarded_send (fun s => Swept id me [] s ∧ Found id before s) hs
      (stable_swept.and stable_found) (c := .retireDevice id) trivial fun s hs hs' => ?_
    obtain ⟨hswept, row, hrow, -⟩ := hs
    have hrun : ShareCommand.run setting (.retireDevice id) s =
        ({ s with
          devices := update s.devices id (some { row with retiredAt := some s.now }) },
          some { row with retiredAt := some s.now }) := by
      unfold ShareCommand.run
      dsimp only
      rw [mem_def.mp hrow]
      rfl
    have hgone : Gone id (ShareCommand.run setting (.retireDevice id) s).1 := by
      refine hs'.1.gone (d := { row with retiredAt := some s.now }) rfl
        ⟨{ row with retiredAt := some s.now }, ?_, .refl _⟩
      rw [hrun]
      exact update_self ..
    rw [hrun] at hs' hgone ⊢
    refine guarded_send (fun s => s.swept me = true ∧ Gone id s) ⟨hs'.1.1, hgone⟩ stable_gone
      (c := .audit) trivial fun s hs _ => ?_
    exact guarded_done ⟨rfl, hs⟩ fun _ _ h hs => ⟨hs.1, stable_gone _ _ h hs.2⟩

lemma guarded_deleteDevice (hpinned : Pinned s) :
    Guarded id me (fun r s => ∀ row, r = .device id row → Gone id s)
      (deleteDevice me scope id : Request ι setting Reply) s := by
  refine guarded_send Pinned hpinned stable_pinned (c := .getDevice scope id) trivial
    fun s hs _ => ?_
  show Guarded id me _ (match s.scopedById scope id with | none => _ | some device => _) s
  cases hread : s.scopedById scope id with
  | none =>
    exact .done (fun _ => True) trivial (fun _ _ _ _ => trivial) fun _ _ row h => by cases h
  | some device =>
    obtain ⟨hdevice, hscope⟩ := filter_eq_some_iff.mp hread
    refine guarded_bind (guarded_plain (sends_deactivateDevice id device)
      (stable_pinned.and stable_found) ⟨hs, device, hdevice, .refl device⟩) fun _ s hs => ?_
    refine guarded_bind (guarded_retire hs.1 hs.2 hscope) fun row s hs => ?_
    exact .done (fun s => s.swept me = true ∧ Gone id s) hs.2 stable_gone fun s hs _ _ => hs.2

lemma guarded_insertLink {data : NewLink}
    {f : (ShareCommand.insertLink data : ShareCommand ι).Answer → Request ι setting α}
    (hfound : Found data.deviceId device s) (htenant : data.tenantId = device.tenantId)
    (haccount : data.accountId = device.accountId) (hf : ∀ r s, Guarded id me Q (f r) s) :
    Guarded id me Q (send (.insertLink data) >>= f) s := by
  have hrun : ∀ s, Found data.deviceId device s → Unswept id me s (.insertLink data) →
      Retiring id me s (ShareCommand.run setting (.insertLink data) s).1 := by
    rintro s ⟨row, hrow, hlater⟩ hunswept
    obtain ⟨hkept, hother⟩ : Kept s _ ∧ (data.deviceId ≠ id → NoneNew id s _) :=
      insertLink_run setting
        ⟨row, hrow, htenant.trans hlater.1.symm, haccount.trans hlater.2.1.symm⟩
    refine ⟨hkept, swept_run _ s, fun hswept => hother fun hid => ?_⟩
    rw [hunswept hid] at hswept
    cases hswept
  unfold send
  rw [send_bind]
  refine ⟨Found data.deviceId device, hfound, stable_found, fun s hs fate hunswept => ?_⟩
  cases fate with
  | ok => exact ⟨hrun s hs hunswept, hf _ _⟩
  | refused => exact ⟨.refl s, guarded_threw s⟩
  | lost => exact ⟨hrun s hs hunswept, guarded_threw _⟩

lemma guarded_postShare (i : ι) (scope : Scope) (userId : UserId) (x : DeviceId)
    (body : Option ShareCreateBody) (hpinned : Pinned s) :
    Guarded id me (fun _ _ => True)
      (postShare i scope userId x body : Request ι setting Reply) s := by
  have hdone : ∀ (r : Reply) s, Guarded id me (fun _ _ => True)
      (.done r : Request ι setting Reply) s :=
    fun r s => guarded_done trivial fun _ _ _ _ => trivial
  refine guarded_send Pinned hpinned stable_pinned (c := .getDevice scope x) trivial
    fun s hs _ => ?_
  show Guarded id me _ (match s.scopedById scope x with | none => _ | some device => _) s
  cases hread : s.scopedById scope x with
  | none => exact hdone _ s
  | some device =>
    obtain ⟨hdevice, hscope⟩ := filter_eq_some_iff.mp hread
    have htenant : scope.tenantId = device.tenantId :=
      (of_decide_eq_true (Bool.and_eq_true_iff.mp hscope).1).symm
    refine guarded_send (Found x device) ⟨device, hdevice, .refl device⟩ stable_found
      (c := .requireReady i) trivial fun s hs _ => ?_
    show Guarded id me _ (match setting.notReady i with | some notReady => _ | none => _) s
    cases setting.notReady i with
    | some notReady => exact hdone notReady s
    | none =>
      dsimp only
      split
      · exact hdone _ s
      cases body with
      | none => exact hdone _ s
      | some data =>
        dsimp only
        refine guarded_bind (Q := fun _ _ => True)
          (guarded_insertLink hs htenant rfl fun inserted s => ?_) fun _ _ _ => hdone _ _
        exact guarded_plain (J := fun _ => True)
          (.bind (sends_written inserted) fun row => sends_audit _)
          (fun _ _ _ _ => trivial) trivial

end Guarded

/-! ## Any requests in any order -/

section Pool

variable {calls : ι → ShareCall} {id : DeviceId} {me : ι}

abbrev SharePool (ι : Type) [DecidableEq ι] (setting : Setting ι) :=
  Pool ι (shareService ι setting) Unit Reply

/-- Requests before any of them starts. -/
def shareCalls (setting : Setting ι) (calls : ι → ShareCall) (s : ShareStore ι) :
    SharePool ι setting := ⟨s, fun i => (calls i).program i⟩

variable {start : ShareStore ι} {p p' : SharePool ι setting}

def Creating (calls : ι → ShareCall) (id : DeviceId) (p : SharePool ι setting) (i : ι) : Prop :=
  (∃ scope userId body, calls i = .create scope userId id body) ∧
    p.thread i ≠ (calls i).program i ∧ (p.thread i).pending ≠ none

/-- No link of the device is inserted after the retirement `me` has read the live ones. -/
def InTime (id : DeviceId) (me : ι) (p : SharePool ι setting) (_ : ι) (c : ShareCommand ι)
    (_ : Fate) : Prop := Unswept id me p.state c

lemma gone_of_retired {scope : Scope} {row : Device} (hpinned : Pinned start)
    (hrun : Pool.Run (InTime id me) (shareCalls setting calls start) p)
    (hcall : calls me = .retire scope id) (hdone : p.thread me = .done (.device id row)) :
    Gone id p.state := by
  have hcompatible : Pool.Compatible (@InTime ι _ setting id me)
      (fun _ s c _ => Unswept id me s c) (fun _ _ => Retiring id me)
      fun _ _ => Retiring id me := fun _ _ _ _ _ _ hfits => ⟨hfits, fun hown _ _ => hown⟩
  have hmeets : (shareCalls setting calls start).Meets (fun _ s c _ => Unswept id me s c)
      (fun _ _ => Retiring id me) (fun _ _ => Retiring id me) fun i r s => i = me →
        ∀ row, r = .ok (.device id row) → Gone id s := by
    intro i
    show Meets _ _ _ _ ((calls i).program i) _
    by_cases hi : i = me
    · subst hi
      rw [hcall]
      refine (guarded_deleteDevice hpinned).mono fun r s h _ row hr => ?_
      subst hr
      exact h row rfl
    · refine Meets.mono (S := fun _ _ => True) ?_ fun _ _ _ h => absurd h hi
      by_cases hplain : ∀ scope userId x body, calls i ≠ .create scope userId x body
      · exact (sends_program i hplain).meets (fun c hc s fate => hc.retiring s fate) _
      · push Not at hplain
        obtain ⟨scope, userId, x, body, hcreate⟩ := hplain
        rw [hcreate]
        exact (guarded_postShare i scope userId x body hpinned).mono fun _ _ _ => trivial
  exact (hrun.meets hcompatible hmeets).returned hdone rfl row rfl

def ShareCommand.Spares (id : DeviceId) : ShareCommand ι → Prop
  | .insertLink data => data.deviceId ≠ id
  | _ => True

omit [DecidableEq ι] in
lemma ShareCommand.Plain.spares {c : ShareCommand ι} (hc : c.Plain) : c.Spares id := by
  cases c with
  | insertLink data => exact hc.elim
  | _ => trivial

lemma ShareCommand.Spares.gone {c : ShareCommand ι} (hc : c.Spares id) (s : ShareStore ι)
    (fate : Fate) (hs : Gone id s) : Gone id ((shareService ι setting).answer c s fate).1 := by
  have hrun : Gone id (c.run setting s).1 := by
    by_cases hplain : c.Plain
    · exact hs.next (hplain.run setting id s).1 (hplain.run setting id s).2
    · cases c with
      | insertLink data =>
        unfold ShareCommand.run
        dsimp only
        split
        · exact hs
        refine ⟨hs.1, fun link hlink hid => ?_⟩
        rcases mem_append.mp hlink with hlink | hlink
        · exact hs.2 link hlink hid
        · obtain rfl := mem_singleton.mp hlink
          exact absurd hid hc
      | _ => exact absurd trivial hplain
  cases fate with
  | ok => exact hrun
  | refused => exact hs
  | lost => exact hrun

lemma sends_postShare (i : ι) (scope : Scope) (userId : UserId) {x : DeviceId} (hx : x ≠ id)
    (body : Option ShareCreateBody) :
    (postShare i scope userId x body : Request ι setting Reply).Sends (ShareCommand.Spares id) := by
  have hplain : ∀ {α : Type} {m : Request ι setting α}, m.Sends ShareCommand.Plain →
      m.Sends (ShareCommand.Spares id) := fun hm => hm.mono fun _ hc => hc.spares
  refine .bind (hplain (sends_plain (c := .getDevice scope x) trivial)) fun device => ?_
  cases device with
  | none => trivial
  | some device =>
    refine .bind (hplain (sends_plain (c := .requireReady i) trivial)) fun notReady => ?_
    cases notReady with
    | some notReady => trivial
    | none =>
      dsimp only
      split
      · trivial
      cases body with
      | none => trivial
      | some data =>
        refine .bind (.bind (.send (V := shareService ι setting) (c := .insertLink _) hx)
          fun inserted => ?_) fun _ => trivial
        exact hplain (.bind (sends_written inserted) fun row => sends_audit _)

lemma postShare_gone {can : ShareStore ι → ShareCommand ι → Fate → Prop} (i : ι) (scope : Scope)
    (userId : UserId) (body : Option ShareCreateBody) {s : ShareStore ι} (hs : Gone id s) :
    (postShare i scope userId id body : Request ι setting Reply).Meets can
      (fun _ s s' => Gone id s → Gone id s') (fun _ s s' => Gone id s → Gone id s')
      (fun _ _ => True) s := by
  have hrest : ∀ {m : Request ι setting Reply} s, m.Sends ShareCommand.Plain →
      m.Meets can (fun _ s s' => Gone id s → Gone id s') (fun _ s s' => Gone id s → Gone id s')
        (fun _ _ => True) s :=
    fun s hm => hm.meets (fun c hc s fate hs => hc.spares.gone s fate hs) s
  refine Meets.send (V := shareService ι setting) (Gone id) hs (fun _ _ h hs => h hs)
    (fun s hs => ⟨fun h => h, ?_⟩) (fun s _ => ⟨fun h => h, hrest s trivial⟩)
    fun s _ => hrest s trivial
  show Async.Meets _ _ _ _ (match s.scopedById scope id with | none => _ | some device => _) s
  cases hread : s.scopedById scope id with
  | none => exact hrest s trivial
  | some device =>
    obtain ⟨⟨row, hrow, hretired⟩, -⟩ := hs
    obtain ⟨hdevice, -⟩ := filter_eq_some_iff.mp hread
    cases hrow.symm.trans hdevice
    refine hrest s (.bind (sends_plain (c := .requireReady i) trivial) fun notReady => ?_)
    cases notReady with
    | some notReady => trivial
    | none =>
      dsimp only
      rw [if_pos hretired]
      trivial

lemma gone_kept (hrun : (shareCalls setting calls start).Reaches p) (hgone : Gone id p.state)
    (hlater : Pool.Run (fun _ i _ _ => ¬ Creating calls id p i) p p') : Gone id p'.state := by
  have hcompatible : Pool.Compatible (V := shareService ι setting) (ε := Unit) (α := Reply)
      (fun _ i _ _ => ¬ Creating calls id p i) (fun i _ _ _ => ¬ Creating calls id p i)
      (fun _ _ s s' => Gone id s → Gone id s') fun _ _ s s' => Gone id s → Gone id s' :=
    fun _ _ _ _ _ _ hfits => ⟨hfits, fun hown _ _ => hown⟩
  have hmeets : p.Meets (fun i _ _ _ => ¬ Creating calls id p i)
      (fun _ _ s s' => Gone id s → Gone id s') (fun _ _ s s' => Gone id s → Gone id s')
      fun _ _ _ => True := by
    intro i
    have hsends : (p.thread i).Sends (ShareCommand.Spares id) → (p.thread i).Meets
        (fun _ _ _ => ¬ Creating calls id p i) (fun _ s s' => Gone id s → Gone id s')
        (fun _ s s' => Gone id s → Gone id s') (fun _ _ => True) p.state :=
      fun hm => hm.meets (fun c hc s fate hs => hc.gone s fate hs) _
    by_cases hplain : ∀ scope userId x body, calls i ≠ .create scope userId x body
    · refine hsends (hrun.sends ?_)
      exact (sends_program i hplain).mono fun _ hc => hc.spares
    push Not at hplain
    obtain ⟨scope, userId, x, body, hcreate⟩ := hplain
    by_cases hx : x = id
    swap
    · refine hsends (hrun.sends ?_)
      show ((calls i).program i).Sends _
      rw [hcreate]
      exact sends_postShare i scope userId hx body
    subst hx
    by_cases hfresh : p.thread i = (calls i).program i
    · rw [hfresh, hcreate]
      exact postShare_gone i scope userId body hgone
    cases hthread : p.thread i with
    | done r => exact .done (fun _ => True) trivial (fun _ _ _ _ => trivial) fun _ _ => trivial
    | threw e => exact .threw (fun _ => True) trivial (fun _ _ _ _ => trivial) fun _ _ => trivial
    | call c k =>
      refine ⟨fun _ => True, trivial, fun _ _ _ _ => trivial, fun s _ fate hcan => ?_⟩
      refine absurd ⟨⟨scope, userId, body, hcreate⟩, hfresh, ?_⟩ hcan
      rw [hthread]
      exact some_ne_none c
  exact hlater.keeps hcompatible hmeets (I := fun s s' => Gone id s → Gone id s') (fun _ h => h)
    (fun _ _ _ h h' hs => h' (h hs)) (fun _ _ _ _ h => h) hgone

/-- **A retired device is not public**: once a retirement has answered, no link of the device
resolves, then or later, as long as no link was inserted after the retirement read the live ones,
and the creations that were still in progress go no further. -/
theorem retired_not_public {scope : Scope} {row : Device} (hpinned : Pinned start)
    (hrun : Pool.Run (InTime id me) (shareCalls setting calls start) p)
    (hcall : calls me = .retire scope id) (hdone : p.thread me = .done (.device id row))
    (hlater : Pool.Run (fun _ i _ _ => ¬ Creating calls id p i) p p') (hash : String) (now : Ms) :
    ∀ share ∈ p'.state.resolveByHash hash now, share.deviceId ≠ id :=
  (gone_kept hrun.reaches (gone_of_retired hpinned hrun hcall hdone) hlater).resolveByHash

instance (id : DeviceId) (me : ι) (s : ShareStore ι) (c : ShareCommand ι) :
    Decidable (Unswept id me s c) := by
  cases c <;> unfold Unswept <;> infer_instance

instance (p : SharePool ι setting) (i : ι) (c : ShareCommand ι) (fate : Fate) :
    Decidable (InTime id me p i c fate) := inferInstanceAs (Decidable (Unswept id me p.state c))

end Pool

/-! A device with one link, a creation of another link and a retirement. -/

def sampleSetting : Setting (Fin 2) := ⟨fun _ => none, fun _ => "token", fun raw => "#" ++ raw⟩

def sampleDevice : Device := ⟨1, 1, "356307042441013", none⟩

def sampleLink : ShareLink := ⟨⟨0, 1, 7, "", none, hourMs, none, 0⟩, 1, "#", 1⟩

def sampleStore : ShareStore (Fin 2) :=
  ⟨fun id => if id = 7 then some sampleDevice else none, [sampleLink], 1, 0, fun _ => false⟩

def createAndRetire : Fin 2 → ShareCall
  | 0 => .create ⟨1, none⟩ 1 7 (some ⟨1, none⟩)
  | 1 => .retire ⟨1, none⟩ 7

lemma pinned_sampleStore : Pinned sampleStore := by
  intro link hlink row hrow
  obtain rfl := mem_singleton.mp hlink
  cases hrow
  exact ⟨rfl, rfl⟩

def sampleCalls : SharePool (Fin 2) sampleSetting :=
  shareCalls sampleSetting createAndRetire sampleStore

/-- The creation, and the retirement after it. -/
def inTurn : Option (SharePool (Fin 2) sampleSetting) :=
  sampleCalls.execWith (InTime 7 1)
    (replicate 4 ((0 : Fin 2), Fate.ok) ++ replicate 10 ((1 : Fin 2), Fate.ok))

theorem retired_not_public_in_turn : ∃ p : SharePool (Fin 2) sampleSetting, inTurn = some p ∧
    p.state.links.length = 2 ∧
    ∀ share ∈ p.state.resolveByHash "#token" 0, share.deviceId ≠ 7 := by
  have hdone : inTurn.map (fun p => (p.thread 1).returned) =
      some (some (.device 7 { sampleDevice with retiredAt := some 0 })) := by decide +kernel
  have hlength : inTurn.map (fun p => p.state.links.length) = some 2 := by decide +kernel
  cases h : inTurn with
  | none =>
    rw [h] at hdone
    cases hdone
  | some p =>
    rw [h] at hdone hlength
    exact ⟨p, rfl, some.inj hlength, retired_not_public pinned_sampleStore
      (Pool.run_execWith _ _ h) rfl (eq_done_of_returned (some.inj hdone)) (.refl p)
      "#token" 0⟩

/-- The link is inserted between the sweep of the retirement and the mark. -/
def afterSweep : SharePool (Fin 2) sampleSetting :=
  sampleCalls.exec (replicate 2 ((0 : Fin 2), Fate.ok) ++
    replicate 6 ((1 : Fin 2), Fate.ok) ++ replicate 2 ((0 : Fin 2), Fate.ok) ++
    replicate 4 ((1 : Fin 2), Fate.ok))

/-- The link of a device that is retired, which resolves. -/
theorem retired_but_public : sampleCalls.Reaches afterSweep ∧
    afterSweep.thread 1 = .done (.device 7 { sampleDevice with retiredAt := some 0 }) ∧
    (∀ i, ¬ Creating createAndRetire 7 afterSweep i) ∧
    afterSweep.state.resolveByHash "#token" 0 = some ⟨1, 7, hourMs, none⟩ := by
  refine ⟨Pool.reaches_exec _ _, Async.eq_done_of_returned (by decide +kernel), fun i h => ?_,
    by decide +kernel⟩
  have hended : ∀ i, (afterSweep.thread i).pending = none := by decide +kernel
  exact h.2.2 (hended i)

end Orbetra.Shares
