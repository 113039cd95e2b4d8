import Orbetra.Framework.Async

/-!
# The device cap of a tenant

`withDeviceCapLock` and the routes under it: `POST /v1/devices`, `POST /v1/devices/import`, the
claim of a quarantined device, and the retirement of a device.  Each route that creates devices
counts them under a lock in Redis that disappears after ten seconds, and that is released whoever
holds it.

A request that still holds the lock when it inserts a device counted all the others
(`cap_kept`).  One that does not may find that another request has counted in between
(`cap_exceeded`).

What the routes read besides the devices is answered by the parameter `answers`, one answer after
another.
-/

namespace Orbetra.Devices

open List Async

/-! ## The store -/

structure Device where
  imei : String
  retired : Bool
  deriving DecidableEq

/-- A row of a CSV file. -/
structure ImportRow where
  imei : String
  name : String
  profileKey : String
  deriving DecidableEq

/-- The lock and the devices of one tenant; `ι` names the requests. -/
structure CapStore (ι : Type) where
  /-- `device:create:<tenantId>`, and the request that has set it. -/
  lock : Option ι
  devices : List Device
  /-- How many questions were answered. -/
  asked : ℕ
  deriving DecidableEq

/-- `countActive` -/
def CapStore.active {ι : Type} (s : CapStore ι) : ℕ := s.devices.countP fun d => !d.retired

/-- What the routes read besides the devices. -/
inductive Question
  | accountInScope
  | driverInScope
  | budget
  | profileKnown
  | inQuarantine
  | imeiHeld
  | deviceInScope
  deriving DecidableEq

/-- What the routes write besides the devices. -/
inductive Effect
  | audit
  | activate
  | settleBudget
  | leaveQuarantine
  | revokeShareLinks
  deriving DecidableEq

/-- One command to Redis or to Postgres; `expire` is the end of the lock's ten seconds. -/
inductive CapCommand (ι : Type)
  | ask (question : Question)
  | write (effect : Effect)
  | deviceLimit
  | setNx (me : ι)
  | del
  | countActive
  | dryRun (rows : List ImportRow)
  | insert (imei : String)
  | retire (place : ℕ)
  | expire
  deriving DecidableEq

variable {ι : Type}

def CapCommand.Answer : CapCommand ι → Type
  | .ask _ => Bool
  | .deviceLimit => Option ℕ
  | .setNx _ => Bool
  | .countActive => ℕ
  | .dryRun _ => List ImportRow
  | .insert _ => Bool
  | _ => Unit

/-- What a tenant's requests run against: the limit of its plan, the answers to questions, and the
rows of a file that the dry run lets through. -/
structure Setting where
  limit : Option ℕ
  answers : ℕ → Bool
  creates : ℕ → ImportRow → Bool

/-- The dry run lets a row through whose IMEI no active device has; an insert fails on such one. -/
def CapCommand.run (setting : Setting) : (c : CapCommand ι) → CapStore ι → CapStore ι × c.Answer
  | .ask _, s => ({ s with asked := s.asked + 1 }, setting.answers s.asked)
  | .write _, s => (s, ())
  | .deviceLimit, s => (s, setting.limit)
  | .setNx me, s => if s.lock.isSome then (s, false) else ({ s with lock := some me }, true)
  | .del, s => ({ s with lock := none }, ())
  | .countActive, s => (s, s.active)
  | .dryRun rows, s => ({ s with asked := s.asked + 1 }, rows.filter fun row =>
      setting.creates s.asked row && !s.devices.any fun d => !d.retired && d.imei == row.imei)
  | .insert imei, s =>
    if s.devices.any fun d => !d.retired && d.imei == imei then (s, false)
    else ({ s with devices := s.devices ++ [⟨imei, false⟩] }, true)
  | .retire place, s =>
    ({ s with devices := s.devices.modify place ({ · with retired := true }) }, ())
  | .expire, s => ({ s with lock := none }, ())

/-- Redis and Postgres, for one tenant. -/
abbrev capService (ι : Type) (setting : Setting) : Service (CapStore ι) where
  Cmd := CapCommand ι
  Answer := CapCommand.Answer
  run := CapCommand.run setting

/-! ## The routes -/

/-- What a route throws. -/
inductive CapError
  | duplicateImei
  | failed
  deriving DecidableEq

/-- What a route answers. -/
inductive Reply
  | problem (status : ℕ) (detail : String)
  | created
  | imported (created : ℕ) (aborted : Bool)
  | retired
  deriving DecidableEq

variable {setting : Setting}

abbrev Request (ι : Type) (setting : Setting) := Async (capService ι setting) CapError

def send (c : CapCommand ι) : Request ι setting c.Answer :=
  Async.send (V := capService ι setting) CapError.failed c

def ask (question : Question) : Request ι setting Bool := send (.ask question)

def write (effect : Effect) : Request ι setting Unit := send (.write effect)

def setNx (me : ι) : Request ι setting Bool := send (.setNx me)

def deviceLimit : Request ι setting (Option ℕ) := send .deviceLimit

def countActive : Request ι setting ℕ := send .countActive

/-- `.catch(() => undefined)` -/
def quietly (m : Request ι setting Unit) : Request ι setting Unit := m.attempt fun _ => pure ()

def delLock : Request ι setting Unit := quietly (send .del)

/-- `withDeviceCapLock` -/
def withDeviceCapLock {α : Type} (me : ι) (cap : Option ℕ) (run : Request ι setting α)
    (onBusy : α) : Request ι setting α :=
  match cap with
  | none => run
  | some _ => do
    if ← setNx me then run.always delLock else pure onBusy

/-- `cap !== null && (await countActive()) + more > cap` -/
def overCap (cap : Option ℕ) (more : ℕ) : Request ι setting Bool :=
  match cap with
  | none => pure false
  | some cap => do
    let active ← countActive
    pure (decide (cap < active + more))

def create (imei : String) : Request ι setting Unit := do
  if ← ask .imeiHeld then
    .threw .duplicateImei
  else
    let inserted : Bool ← send (.insert imei)
    if inserted then write .audit else .threw .duplicateImei

def createUnlessHeld (imei : String) : Request ι setting Bool :=
  (do
    create imei
    pure true).attempt fun
      | .duplicateImei => pure false
      | .failed => .threw .failed

def duplicate : Reply := .problem 409 "IMEI already registered"

def limitReached : Reply := .problem 403 "device_limit_reached"

def busy : Reply := .problem 409 "device_create_in_progress"

/-- What `POST /v1/devices` does under the lock. -/
def createUnderCap (cap : Option ℕ) (imei : String) : Request ι setting Reply := do
  if ← overCap cap 1 then
    pure limitReached
  else if ← ask .profileKnown then
    if ← createUnlessHeld imei then
      write .activate
      pure .created
    else
      pure duplicate
  else
    pure (.problem 400 "unknown profileId")

/-- `data.driverId == null || (await drivers.get(...)) !== null` -/
def driverInScope (driver : Bool) : Request ι setting Bool :=
  if driver then ask .driverInScope else pure true

/-- `POST /v1/devices`; `driver` says whether the body names one. -/
def postDevice (me : ι) (imei : String) (driver : Bool) : Request ι setting Reply := do
  if ← ask .accountInScope then
    if ← driverInScope driver then
      if ← ask .budget then
        (do
          let cap ← deviceLimit
          withDeviceCapLock me cap (createUnderCap cap imei) busy).always
          (quietly (write .settleBudget))
      else
        pure (.problem 429 "device creation rate exceeded for this tenant")
    else
      pure (.problem 400 "driverId not in scope")
  else
    pure (.problem 400 "accountId not in scope")

def maxImportRows : ℕ := 1000

def maxConsecutiveFailures : ℕ := 5

/-- What becomes of a row of the file. -/
inductive RowOutcome
  | created
  | duplicate
  | failed
  deriving DecidableEq

def createRow (row : ImportRow) : Request ι setting RowOutcome :=
  (do
    create row.imei
    quietly (write .activate)
    pure RowOutcome.created).attempt fun
      | .duplicateImei => pure .duplicate
      | .failed => pure .failed

/-- The loop of `applyImport`, from the numbers of rows created and of failures in a row. -/
def importRows : List ImportRow → ℕ → ℕ → Request ι setting Reply
  | [], created, _ => pure (.imported created false)
  | row :: rows, created, failures => do
    match ← createRow row with
    | .created => importRows rows (created + 1) 0
    | .duplicate => importRows rows created 0
    | .failed =>
      if maxConsecutiveFailures ≤ failures + 1 then pure (.imported created true)
      else importRows rows created (failures + 1)

def applyImport (rows : List ImportRow) : Request ι setting Reply := do
  let create : List ImportRow ← send (.dryRun rows)
  importRows create 0 0

def postImport (me : ι) (rows : List ImportRow) : Request ι setting Reply := do
  if maxImportRows < rows.length then
    pure (.problem 400 "too many rows (max 1000)")
  else if ← ask .budget then
    (do
      let cap ← deviceLimit
      withDeviceCapLock me cap (do
        if ← overCap cap rows.length then pure limitReached else applyImport rows) busy).always
      (quietly (write .settleBudget))
  else
    pure (.problem 429 "device creation rate exceeded for this tenant")

def claimUnderCap (cap : Option ℕ) (imei : String) : Request ι setting Reply := do
  if ← overCap cap 1 then
    pure limitReached
  else if ← ask .profileKnown then
    let _ ← (ask .inQuarantine).attempt fun _ => pure false
    if ← createUnlessHeld imei then
      write .activate
      write .leaveQuarantine
      pure .created
    else
      pure duplicate
  else
    pure (.problem 400 "unknown profileId")

/-- `claimDevice`, which takes and releases the lock as `withDeviceCapLock` does. -/
def claimDevice (me : ι) (imei : String) : Request ι setting Reply := do
  if ← ask .accountInScope then
    let cap ← deviceLimit
    withDeviceCapLock me cap (claimUnderCap cap imei) busy
  else
    pure (.problem 400 "accountId not in the target tenant")

def retireDevice (place : ℕ) : Request ι setting Reply := do
  if ← ask .deviceInScope then
    write .revokeShareLinks
    let _ : Unit ← send (.retire place)
    write .audit
    pure .retired
  else
    pure (.problem 404 "")

/-- A request of the tenant, or the end of the lock's ten seconds. -/
inductive CapCall
  | post (imei : String) (driver : Bool)
  | importFile (rows : List ImportRow)
  | claim (imei : String)
  | retire (place : ℕ)
  | expiry
  deriving DecidableEq

def CapCall.program (me : ι) : CapCall → Request ι setting Reply
  | .post imei driver => postDevice me imei driver
  | .importFile rows => postImport me rows
  | .claim imei => claimDevice me imei
  | .retire place => retireDevice place
  | .expiry => do
    let _ : Unit ← send .expire
    pure (.problem 0 "")

/-! ## What the requests do to each other -/

def CapCommand.Inserts : CapCommand ι → Prop
  | .insert _ => True
  | _ => False

/-- The commands that neither set the lock nor insert a device. -/
def CapCommand.Plain : CapCommand ι → Prop
  | .insert _ => False
  | .setNx _ => False
  | _ => True

/-- The cap is kept; and for the requests in `P`, no lock appears, and under theirs no device. -/
def Spares (limit : ℕ) (P : ι → Prop) (s s' : CapStore ι) : Prop :=
  (s.active ≤ limit → s'.active ≤ limit) ∧
    ∀ j, P j → s'.lock = some j → s.lock = some j ∧ s'.active ≤ s.active

/-- What a request relies on. -/
def othersSpare (limit : ℕ) (me : ι) (_ : Option (CapCommand ι)) :
    CapStore ι → CapStore ι → Prop := Spares limit (· = me)

/-- What a request promises, as far as it inserts under its own lock. -/
def sparesOthers (limit : ℕ) (me : ι) (c : CapCommand ι) (s s' : CapStore ι) : Prop :=
  (c.Inserts → s.lock = some me) → Spares limit (· ≠ me) s s'

/-- Under the lock of the request there is room for some more devices. -/
def Room (limit : ℕ) (me : ι) (more : ℕ) (s : CapStore ι) : Prop :=
  s.lock = some me → s.active + more ≤ limit

variable {limit : ℕ} {me : ι} {s s' : CapStore ι} {α : Type}

lemma Spares.of_le {P : ι → Prop} (hlock : ∀ j, s'.lock = some j → s.lock = some j)
    (hactive : s'.active ≤ s.active) : Spares limit P s s' :=
  ⟨le_trans hactive, fun j _ hj => ⟨hlock j hj, hactive⟩⟩

lemma Spares.refl (P : ι → Prop) (s : CapStore ι) : Spares limit P s s :=
  .of_le (fun _ h => h) le_rfl

lemma active_retire (place : ℕ) :
    ({ s with devices := s.devices.modify place ({ · with retired := true }) } :
      CapStore ι).active ≤ s.active := by
  show (s.devices.modify place _).countP _ ≤ s.devices.countP _
  generalize s.devices = devices
  induction devices generalizing place with
  | nil => cases place <;> simp
  | cons d devices ih =>
    cases place with
    | zero =>
      rw [modify_zero_cons, countP_cons, countP_cons]
      simp
    | succ place =>
      rw [modify_succ_cons, countP_cons, countP_cons]
      exact Nat.add_le_add_right (ih place) _

variable {c : CapCommand ι} {more : ℕ} {m : Request ι setting α}

lemma CapCommand.Plain.le (hc : c.Plain) (setting : Setting) (s : CapStore ι) :
    (∀ j, (c.run setting s).1.lock = some j → s.lock = some j) ∧
      (c.run setting s).1.active ≤ s.active := by
  cases c with
  | insert imei => exact hc.elim
  | setNx me => exact hc.elim
  | retire place => exact ⟨fun _ h => h, active_retire place⟩
  | del => exact ⟨(fun _ h => by cases h), le_rfl⟩
  | expire => exact ⟨(fun _ h => by cases h), le_rfl⟩
  | ask question => exact ⟨fun _ h => h, le_rfl⟩
  | write effect => exact ⟨fun _ h => h, le_rfl⟩
  | deviceLimit => exact ⟨fun _ h => h, le_rfl⟩
  | countActive => exact ⟨fun _ h => h, le_rfl⟩
  | dryRun rows => exact ⟨fun _ h => h, le_rfl⟩

lemma CapCommand.Plain.answer (hc : c.Plain) (setting : Setting) (s : CapStore ι) (fate : Fate) :
    (∀ j, ((capService ι setting).answer c s fate).1.lock = some j → s.lock = some j) ∧
      ((capService ι setting).answer c s fate).1.active ≤ s.active := by
  cases fate with
  | ok => exact hc.le setting s
  | refused => exact ⟨fun _ h => h, le_rfl⟩
  | lost => exact hc.le setting s

lemma Room.of_le (h : Room limit me more s)
    (hs : (∀ j, s'.lock = some j → s.lock = some j) ∧ s'.active ≤ s.active) :
    Room limit me more s' :=
  fun hlock => le_trans (Nat.add_le_add_right hs.2 more) (h (hs.1 me hlock))

lemma Room.mono {less : ℕ} (h : Room limit me more s) (hless : less ≤ more) :
    Room limit me less s := fun hlock => le_trans (Nat.add_le_add_left hless _) (h hlock)

lemma stable_room (more : ℕ) {waiting : Option (CapCommand ι)} :
    Stable (othersSpare limit me waiting) (Room limit me more) := by
  intro s s' henv h hlock
  obtain ⟨hlock', hactive⟩ := henv.2 me rfl hlock
  exact le_trans (Nat.add_le_add_right hactive more) (h hlock')

/-! ## One request -/

/-- Among the others a request spares them, and ends in `Q`. -/
abbrev Spared (limit : ℕ) (me : ι) (Q : Except CapError α → CapStore ι → Prop)
    (m : Request ι setting α) (s : CapStore ι) : Prop :=
  Meets (fun _ _ _ => True) (othersSpare limit me) (sparesOthers limit me) Q m s

lemma spared_plain (hm : m.Sends CapCommand.Plain) (hs : Room limit me more s) :
    Spared limit me (fun _ => Room limit me more) m s := by
  induction m generalizing s with
  | done a => exact .done _ hs (stable_room more) fun _ h => h
  | threw e => exact .threw _ hs (stable_room more) fun _ h => h
  | call c k ih =>
    refine ⟨Room limit me more, hs, stable_room more, fun s hs fate _ => ?_⟩
    have hle := hm.1.answer setting s fate
    exact ⟨fun _ => .of_le hle.1 hle.2, ih _ (hm.2 _) (hs.of_le hle)⟩

lemma sends_ask (question : Question) :
    (ask question : Request ι setting Bool).Sends CapCommand.Plain :=
  Async.Sends.send (V := capService ι setting) (c := .ask question) trivial

lemma sends_write (effect : Effect) :
    (write effect : Request ι setting Unit).Sends CapCommand.Plain :=
  Async.Sends.send (V := capService ι setting) (c := .write effect) trivial

lemma spared_done {a : α} (hs : Room limit me more s) :
    Spared limit me (fun _ => Room limit me more) (.done a : Request ι setting α) s :=
  .done _ hs (stable_room more) fun _ h => h

lemma spared_threw {e : CapError} (hs : Room limit me more s) :
    Spared limit me (fun _ => Room limit me more) (.threw e : Request ι setting α) s :=
  .threw _ hs (stable_room more) fun _ h => h

lemma active_insert (setting : Setting) (imei : String) (s : CapStore ι) :
    (CapCommand.run setting (.insert imei) s).1.active ≤ s.active + 1 ∧
      (CapCommand.run setting (.insert imei) s).1.lock = s.lock := by
  unfold CapCommand.run
  dsimp only
  split
  · exact ⟨Nat.le_succ _, rfl⟩
  · refine ⟨?_, rfl⟩
    show (s.devices ++ [_]).countP _ ≤ s.devices.countP _ + 1
    rw [countP_append]
    exact Nat.add_le_add_left countP_le_length _

lemma spares_insert (setting : Setting) (hs : Room limit me (more + 1) s) (imei : String) :
    sparesOthers limit me (.insert imei) s (CapCommand.run setting (.insert imei) s).1 ∧
      Room limit me more (CapCommand.run setting (.insert imei) s).1 := by
  obtain ⟨hactive, hlock⟩ := active_insert setting imei s
  constructor
  · intro hmine
    have hroom := hs (hmine trivial)
    refine ⟨fun _ => by omega, fun j hj hj' => ?_⟩
    rw [hlock, hmine trivial] at hj'
    exact absurd (Option.some.inj hj').symm hj
  · intro hmine
    have hroom := hs (hlock ▸ hmine)
    omega

lemma spared_create (hs : Room limit me (more + 1) s) (imei : String) :
    Spared limit me (fun _ => Room limit me more) (create imei : Request ι setting Unit) s := by
  have hless : ∀ s : CapStore ι, Room limit me (more + 1) s → Room limit me more s :=
    fun s hs => hs.mono (Nat.le_succ more)
  refine (spared_plain (sends_ask .imeiHeld) hs).bind (fun held s hs => ?_) fun _ s hs => hless s hs
  split
  · exact spared_threw (hless s hs)
  refine .send _ hs (stable_room _) (fun s hs => ?_) (fun s hs => ?_) fun s hs => ?_
  · obtain ⟨hown, hroom⟩ := spares_insert setting hs imei
    refine ⟨hown, ?_⟩
    split
    · exact spared_plain (sends_write .audit) hroom
    · exact spared_threw hroom
  · exact ⟨fun _ => .refl _ s, spared_threw (hless s hs)⟩
  · exact spared_threw (spares_insert setting hs imei).2

lemma spared_createUnlessHeld (hs : Room limit me (more + 1) s) (imei : String) :
    Spared limit me (fun _ => Room limit me more)
      (createUnlessHeld imei : Request ι setting Bool) s := by
  have hcreate : Spared limit me (fun _ => Room limit me more) (do
      create imei
      pure true : Request ι setting Bool) s :=
    (spared_create hs imei).bind (fun _ _ hs => spared_done hs) fun _ _ hs => hs
  refine hcreate.attempt (fun _ _ hs => hs) fun e s hs => ?_
  cases e with
  | duplicateImei => exact spared_done hs
  | failed => exact spared_threw hs

lemma spared_createRow (hs : Room limit me (more + 1) s) (row : ImportRow) :
    Spared limit me (fun _ => Room limit me more)
      (createRow row : Request ι setting RowOutcome) s := by
  have hcreate : Spared limit me (fun _ => Room limit me more) (do
      create row.imei
      quietly (write .activate)
      pure RowOutcome.created : Request ι setting RowOutcome) s := by
    refine (spared_create hs row.imei).bind (fun _ s hs => ?_) fun _ _ hs => hs
    have hactivate : Spared limit me (fun _ => Room limit me more)
        (quietly (write .activate) : Request ι setting Unit) s :=
      (spared_plain (sends_write .activate) hs).attempt (fun _ _ hs => hs)
        fun _ _ hs => spared_done hs
    exact hactivate.bind (fun _ _ hs => spared_done hs) fun _ _ hs => hs
  refine hcreate.attempt (fun _ _ hs => hs) fun e s hs => ?_
  cases e <;> exact spared_done hs

lemma spared_importRows (rows : List ImportRow) (created failures : ℕ)
    (hs : Room limit me rows.length s) :
    Spared limit me (fun _ => Room limit me 0)
      (importRows rows created failures : Request ι setting Reply) s := by
  induction rows generalizing created failures s with
  | nil => exact spared_done hs
  | cons row rows ih =>
    refine (spared_createRow hs row).bind (fun outcome s hs => ?_)
      fun _ _ hs => hs.mono (Nat.zero_le _)
    cases outcome with
    | created => exact ih _ _ hs
    | duplicate => exact ih _ _ hs
    | failed =>
      dsimp only
      split
      · exact spared_done (hs.mono (Nat.zero_le _))
      · exact ih _ _ hs

/-! ## The routes -/

/-- A request that spares the others, whatever it ends in. -/
abbrev Considerate (limit : ℕ) (me : ι) (m : Request ι setting α) (s : CapStore ι) : Prop :=
  Spared limit me (fun _ _ => True) m s

lemma Spared.any {Q : Except CapError α → CapStore ι → Prop} (h : Spared limit me Q m s) :
    Considerate limit me m s := h.mono fun _ _ _ => trivial

lemma considerate_done (a : α) (s : CapStore ι) :
    Considerate limit me (.done a : Request ι setting α) s :=
  .done (fun _ => True) trivial (fun _ _ _ _ => trivial) fun _ _ => trivial

lemma considerate_plain (hm : m.Sends CapCommand.Plain) (s : CapStore ι) :
    Considerate limit me m s :=
  hm.meets (fun _ hc s fate _ =>
    .of_le (hc.answer setting s fate).1 (hc.answer setting s fate).2) s

/-- One thing after another. -/
lemma considerate_bind {β : Type} {f : α → Request ι setting β} (hm : Considerate limit me m s)
    (hf : ∀ a s, Considerate limit me (f a) s) :
    Considerate limit me (m >>= f) s := hm.bind (fun a s _ => hf a s) fun _ _ _ => trivial

lemma considerate_always {cleanup : Request ι setting Unit} (hm : Considerate limit me m s)
    (hcleanup : cleanup.Sends CapCommand.Plain) :
    Considerate limit me (m.always cleanup) s := by
  refine Meets.always hm (fun a s _ => ?_) fun e s _ => ?_
  · exact considerate_plain (Sends.bind (f := fun _ => .done a) hcleanup fun _ => trivial) s
  · exact considerate_plain (Sends.bind (f := fun _ => .threw e) hcleanup fun _ => trivial) s

lemma sends_quietly {m : Request ι setting Unit} (hm : m.Sends CapCommand.Plain) :
    (quietly m).Sends CapCommand.Plain := hm.attempt fun _ => trivial

lemma sends_delLock : (delLock : Request ι setting Unit).Sends CapCommand.Plain :=
  sends_quietly (Async.Sends.send (V := capService ι setting) (c := .del) trivial)

lemma spared_overCap (more : ℕ) (s : CapStore ι) :
    Spared limit me (fun r s => r = .ok false → Room limit me more s)
      (overCap (some limit) more : Request ι setting Bool) s := by
  refine .send (fun _ => True) trivial (fun _ _ _ _ => trivial)
    (fun s _ => ⟨fun _ => .refl _ s, ?_⟩) (fun s _ => ⟨fun _ => .refl _ s, ?_⟩) fun s _ => ?_
  · by_cases hover : limit < s.active + more
    · refine .done (fun _ => True) trivial (fun _ _ _ _ => trivial) fun s _ heq => ?_
      have hdecide : decide (limit < _ + more) = false := Except.ok.inj heq
      exact absurd hover (of_decide_eq_false hdecide)
    · refine .done (Room limit me more) (fun _ => ?_) (stable_room more) fun s hs _ => hs
      exact not_lt.mp hover
  · exact .threw (fun _ => True) trivial (fun _ _ _ _ => trivial) fun _ _ h => by cases h
  · exact .threw (fun _ => True) trivial (fun _ _ _ _ => trivial) fun _ _ h => by cases h

lemma considerate_underCap (more : ℕ) {onOver : α}
    (hm : ∀ s, Room limit me more s → Considerate limit me m s) (s : CapStore ι) :
    Considerate limit me (do if ← overCap (some limit) more then pure onOver else m) s := by
  refine (spared_overCap more s).bind (fun full s hs => ?_) fun _ _ _ => trivial
  cases full with
  | true => exact considerate_done onOver s
  | false => exact hm s (hs rfl)

lemma considerate_withDeviceCapLock {run : Request ι setting α} {onBusy : α}
    (hrun : ∀ s, Considerate limit me run s) (s : CapStore ι) :
    Considerate limit me (withDeviceCapLock me (some limit) run onBusy) s := by
  have hset : Considerate limit me (setNx me : Request ι setting Bool) s := by
    refine ⟨fun _ => True, trivial, fun _ _ _ _ => trivial, fun s _ fate _ => ⟨fun _ => ?_, ?_⟩⟩
    · have hspares : Spares limit (· ≠ me) s (CapCommand.run setting (.setNx me) s).1 := by
        unfold CapCommand.run
        dsimp only
        split
        · exact .refl _ s
        · exact ⟨fun h => h, fun j hj hj' => absurd (Option.some.inj hj').symm hj⟩
      cases fate with
      | ok => exact hspares
      | refused => exact .refl _ s
      | lost => exact hspares
    · cases fate with
      | ok => exact considerate_done _ _
      | refused => exact .threw (fun _ => True) trivial (fun _ _ _ _ => trivial) fun _ _ => trivial
      | lost => exact .threw (fun _ => True) trivial (fun _ _ _ _ => trivial) fun _ _ => trivial
  refine considerate_bind hset fun claimed s => ?_
  cases claimed with
  | true => exact considerate_always (hrun s) sends_delLock
  | false => exact considerate_done onBusy s

lemma considerate_createUnderCap (imei : String) (s : CapStore ι) :
    Considerate limit me (createUnderCap (some limit) imei : Request ι setting Reply) s := by
  refine considerate_underCap 1 (fun s hs => ?_) s
  refine (spared_plain (sends_ask .profileKnown) hs).bind (fun known s hs => ?_)
    fun _ _ _ => trivial
  cases known with
  | false => exact considerate_done _ s
  | true =>
    have hcreate : Spared limit me (fun _ => Room limit me 0)
        (createUnlessHeld imei : Request ι setting Bool) s := spared_createUnlessHeld hs imei
    refine hcreate.bind (fun created s _ => ?_) fun _ _ _ => trivial
    cases created with
    | false => exact considerate_done _ s
    | true =>
      exact considerate_bind (considerate_plain (sends_write .activate) s)
        fun _ s => considerate_done _ s

lemma considerate_claimUnderCap (imei : String) (s : CapStore ι) :
    Considerate limit me (claimUnderCap (some limit) imei : Request ι setting Reply) s := by
  refine considerate_underCap 1 (fun s hs => ?_) s
  refine (spared_plain (sends_ask .profileKnown) hs).bind (fun known s hs => ?_)
    fun _ _ _ => trivial
  cases known with
  | false => exact considerate_done _ s
  | true =>
    have hquarantine :
        ((ask .inQuarantine : Request ι setting Bool).attempt fun _ => pure false).Sends
          CapCommand.Plain := (sends_ask .inQuarantine).attempt fun _ => trivial
    refine (spared_plain hquarantine hs).bind (fun _ s hs => ?_) fun _ _ _ => trivial
    have hcreate : Spared limit me (fun _ => Room limit me 0)
        (createUnlessHeld imei : Request ι setting Bool) s := spared_createUnlessHeld hs imei
    refine hcreate.bind (fun created s _ => ?_) fun _ _ _ => trivial
    cases created with
    | false => exact considerate_done _ s
    | true =>
      refine considerate_bind (considerate_plain (sends_write .activate) s) fun _ s => ?_
      exact considerate_bind (considerate_plain (sends_write .leaveQuarantine) s)
        fun _ s => considerate_done _ s

lemma considerate_importUnderCap (rows : List ImportRow) (s : CapStore ι) :
    Considerate limit me (do
      if ← overCap (some limit) rows.length then pure limitReached
      else applyImport rows : Request ι setting Reply) s := by
  refine considerate_underCap rows.length (fun s hs => ?_) s
  refine .send _ hs (stable_room _) (fun s hs => ?_) (fun s _ => ?_) fun s _ => ?_
  · have hle := CapCommand.Plain.le (c := .dryRun rows) trivial setting s
    exact ⟨fun _ => .of_le hle.1 hle.2,
      (spared_importRows _ 0 0 ((hs.of_le hle).mono (length_filter_le _ _))).any⟩
  · refine ⟨fun _ => .refl _ s, ?_⟩
    exact .threw (fun _ => True) trivial (fun _ _ _ _ => trivial) fun _ _ => trivial
  · exact .threw (fun _ => True) trivial (fun _ _ _ _ => trivial) fun _ _ => trivial

/-- **One request among others.** -/
lemma considerate_program (hlimit : setting.limit = some limit) (call : CapCall) (s : CapStore ι) :
    Considerate limit me (call.program me : Request ι setting Reply) s := by
  have hdeviceLimit : ∀ {f : Option ℕ → Request ι setting Reply}
      (_ : ∀ s, Considerate limit me (f (some limit)) s) (s : CapStore ι),
      Considerate limit me (deviceLimit >>= f) s := by
    intro f hf s
    refine .send (fun _ => True) trivial (fun _ _ _ _ => trivial) (fun s _ => ?_) (fun s _ => ?_)
      fun s _ => ?_
    · have hanswer : (CapCommand.run setting .deviceLimit s).2 = some limit := hlimit
      exact ⟨fun _ => .refl _ s, hanswer ▸ hf s⟩
    · refine ⟨fun _ => .refl _ s, ?_⟩
      exact .threw (fun _ => True) trivial (fun _ _ _ _ => trivial) fun _ _ => trivial
    · exact .threw (fun _ => True) trivial (fun _ _ _ _ => trivial) fun _ _ => trivial
  have hsettle : (quietly (write .settleBudget) : Request ι setting Unit).Sends CapCommand.Plain :=
    sends_quietly (sends_write .settleBudget)
  cases call with
  | post imei driver =>
    refine considerate_bind (considerate_plain (sends_ask .accountInScope) s) fun inScope s => ?_
    cases inScope with
    | false => exact considerate_done _ s
    | true =>
      have hdriver : (driverInScope driver : Request ι setting Bool).Sends CapCommand.Plain := by
        unfold driverInScope
        split
        · exact sends_ask .driverInScope
        · trivial
      refine considerate_bind (considerate_plain hdriver s) fun driverInScope s => ?_
      cases driverInScope with
      | false => exact considerate_done _ s
      | true =>
        refine considerate_bind (considerate_plain (sends_ask .budget) s) fun reserved s => ?_
        cases reserved with
        | false => exact considerate_done _ s
        | true =>
          refine considerate_always (hdeviceLimit (fun s => ?_) s) hsettle
          exact considerate_withDeviceCapLock (considerate_createUnderCap imei) s
  | importFile rows =>
    show Considerate limit me (if maxImportRows < rows.length then _ else _) s
    split
    · exact considerate_done _ s
    refine considerate_bind (considerate_plain (sends_ask .budget) s) fun reserved s => ?_
    cases reserved with
    | false => exact considerate_done _ s
    | true =>
      refine considerate_always (hdeviceLimit (fun s => ?_) s) hsettle
      exact considerate_withDeviceCapLock (considerate_importUnderCap rows) s
  | claim imei =>
    refine considerate_bind (considerate_plain (sends_ask .accountInScope) s) fun inScope s => ?_
    cases inScope with
    | false => exact considerate_done _ s
    | true => exact hdeviceLimit (considerate_withDeviceCapLock (considerate_claimUnderCap imei)) s
  | retire place =>
    refine considerate_bind (considerate_plain (sends_ask .deviceInScope) s) fun inScope s => ?_
    cases inScope with
    | false => exact considerate_done _ s
    | true =>
      refine considerate_plain (.bind (sends_write .revokeShareLinks) fun _ => ?_) s
      refine .bind (.send (V := capService ι setting) (c := .retire place) trivial) fun _ => ?_
      exact .bind (sends_write .audit) fun _ => trivial
  | expiry =>
    refine considerate_plain ?_ s
    exact .bind (.send (V := capService ι setting) (c := .expire) trivial) fun _ => trivial

/-! ## Any requests in any order -/

section Pool

variable [DecidableEq ι] {p : Pool ι (capService ι setting) CapError Reply}

/-- Requests of a tenant before any of them starts. -/
def capCalls (setting : Setting) (calls : ι → CapCall) (devices : List Device) :
    Pool ι (capService ι setting) CapError Reply :=
  ⟨⟨none, devices, 0⟩, fun i => (calls i).program i⟩

/-- A device is inserted only while the lock that its request has set is there. -/
def UnderLock (p : Pool ι (capService ι setting) CapError Reply) (i : ι) (c : CapCommand ι)
    (_ : Fate) : Prop := c.Inserts → p.state.lock = some i

omit [DecidableEq ι] in
lemma Spares.mono {P P' : ι → Prop} (h : Spares limit P s s') (hP : ∀ j, P' j → P j) :
    Spares limit P' s s' := ⟨h.1, fun j hj => h.2 j (hP j hj)⟩

/-- **The cap is kept**, in every run in which each device is inserted under its request's lock. -/
theorem cap_kept (hlimit : setting.limit = some limit) {calls : ι → CapCall} {devices : List Device}
    (hfits : (devices.countP fun d => !d.retired) ≤ limit)
    (hrun : Pool.Run UnderLock (capCalls setting calls devices) p) : p.state.active ≤ limit := by
  have hcompatible : Pool.Compatible (@UnderLock ι setting) (fun _ _ _ _ => True)
      (othersSpare limit) (sparesOthers limit) := by
    refine fun p i c fate p' _ hunder => ⟨trivial, fun hown j hj => ?_⟩
    exact (hown hunder).mono fun _ heq => heq ▸ hj
  have hmeets : (capCalls setting calls devices).Meets (fun _ _ _ _ => True) (othersSpare limit)
      (sparesOthers limit) fun _ _ _ => True := fun i => considerate_program hlimit (calls i) _
  induction hrun with
  | refl => exact hfits
  | step hrun hstep hunder ih =>
    have hown := ((hrun.meets hcompatible hmeets).step hcompatible hstep hunder).1
    exact (hown hunder).1 ih

instance (c : CapCommand ι) : Decidable c.Inserts := by
  cases c <;> unfold CapCommand.Inserts <;> infer_instance

instance (p : Pool ι (capService ι setting) CapError Reply) (i : ι) (c : CapCommand ι)
    (fate : Fate) : Decidable (UnderLock p i c fate) :=
  inferInstanceAs (Decidable (CapCommand.Inserts c → p.state.lock = some i))

end Pool

/-! A plan of one device. -/

/-- Everything that is asked is answered with yes, but for whether another tenant has the IMEI. -/
def oneDevice : Setting := ⟨some 1, fun n => n % 4 ≠ 3, fun _ _ => true⟩

/-- Two trackers that are added, and the end of the lock's ten seconds. -/
def twoTrackers : Fin 3 → CapCall
  | 0 => .post "356307042441013" false
  | 1 => .post "356307042441021" false
  | 2 => .expiry

/-- The second is added when the first has been. -/
def inTurn : List (Fin 3 × Fate) :=
  replicate 11 ((0 : Fin 3), Fate.ok) ++ replicate 8 ((1 : Fin 3), Fate.ok)

theorem cap_kept_in_turn :
    ((capCalls oneDevice twoTrackers []).execWith UnderLock inTurn).map (·.state.active) = some 1 ∧
      ((capCalls oneDevice twoTrackers []).execWith UnderLock inTurn).bind
        (·.thread 1 |>.returned) = some limitReached ∧
      (((capCalls oneDevice twoTrackers []).execWith UnderLock inTurn).map (·.state.active)).all
        (· ≤ 1) := by
  refine ⟨by decide +kernel, by decide +kernel, ?_⟩
  cases h : (capCalls oneDevice twoTrackers []).execWith UnderLock inTurn with
  | none => rfl
  | some p =>
    have hkept : p.state.active ≤ 1 :=
      cap_kept (show oneDevice.limit = some 1 from rfl) (Nat.zero_le _) (Pool.run_execWith _ _ h)
    exact decide_eq_true hkept

/-- The lock runs out between the first request's count and its insert. -/
def outrun : List (Fin 3 × Fate) :=
  replicate 7 ((0 : Fin 3), Fate.ok) ++
    ((2 : Fin 3), Fate.ok) :: replicate 8 ((1 : Fin 3), Fate.ok) ++ [((0 : Fin 3), Fate.ok)]

/-- Both requests have counted no device. -/
theorem cap_exceeded : ∃ p, (capCalls oneDevice twoTrackers []).Reaches p ∧ p.state.active = 2 :=
  ⟨_, Pool.reaches_exec outrun _, by decide +kernel⟩

end Orbetra.Devices
