import Orbetra.Framework.Async

/-!
# Who may take an IMEI

`create` and `retire` of `packages/db/src/repos/devices.ts`, under `POST /v1/devices`,
`DELETE /v1/devices/:id` and `claimDevice` of `apps/api/src/routes/quarantine.ts`.

A partial unique index keeps two live rows from one IMEI.  Who may take an IMEI that others have
retired is decided before the insert, by a read of its own.

What the routes look at besides the devices, the accounts and the quarantine is answered by the
parameter `answers`. -/

namespace Orbetra.Takeover

/-! ## The store -/

structure Device where
  id : ℕ
  tenantId : String
  accountId : String
  imei : String
  retired : Bool
  deriving DecidableEq

/-- `devices`, with `devices_imei_active_key`: the index is on the rows that are not retired. -/
structure DeviceTable where
  rows : List Device
  nextId : ℕ
  serial : ∀ row ∈ rows, row.id < nextId
  active_key : rows.Pairwise fun row other =>
    row.retired = false → other.retired = false → row.imei ≠ other.imei

/-- The rows that a caller sees: of the tenant, and of the account where there is one. -/
structure Scope where
  tenantId : String
  accountId : Option String
  deriving DecidableEq

def Scope.reaches (scope : Scope) (row : Device) : Bool :=
  row.tenantId = scope.tenantId && (scope.accountId.all fun accountId => row.accountId = accountId)

namespace DeviceTable

variable (s : DeviceTable)

def active (imei : String) : Bool := s.rows.any fun row => !row.retired && row.imei = imei

/-- `prisma.device.create`; an active row of the IMEI violates the index. -/
def insert (scope : Scope) (accountId imei : String) : Option DeviceTable :=
  if h : s.active imei then none
  else
    some
      { rows := ⟨s.nextId, scope.tenantId, accountId, imei, false⟩ :: s.rows
        nextId := s.nextId + 1
        serial := by
          intro row hrow
          rcases List.mem_cons.1 hrow with rfl | hold
          · exact Nat.lt_succ_self _
          · exact Nat.lt_succ_of_lt (s.serial row hold)
        active_key := by
          refine List.pairwise_cons.2 ⟨fun row hrow _ hlive himei => h ?_, s.active_key⟩
          exact List.any_eq_true.2 ⟨row, hrow, by simp [hlive, ← himei]⟩ }

def retire (id : ℕ) : DeviceTable where
  rows := s.rows.map fun row => if row.id = id then { row with retired := true } else row
  nextId := s.nextId
  serial := by
    intro row hrow
    obtain ⟨old, hold, rfl⟩ := List.mem_map.1 hrow
    split
    · exact s.serial old hold
    · exact s.serial old hold
  active_key := by
    refine List.pairwise_map.2 (s.active_key.imp fun hne => ?_)
    split <;> split <;> simp_all

/-- The guard of `create`: a row of the IMEI that the caller does not reach, a live one where
retired ones are passed over. -/
def held (imei : String) (overrideRetiredHolder : Bool) (scope : Scope) : Bool :=
  s.rows.any fun row =>
    row.imei = imei && !(overrideRetiredHolder && row.retired) && !scope.reaches row

def scopedById (scope : Scope) (id : ℕ) : Option Device :=
  s.rows.find? fun row => row.id = id && scope.reaches row

end DeviceTable

/-- What the routes look at besides; each question is asked once in a request. -/
inductive Question
  | budget
  | capLock
  | room
  | profileKnown
  deriving DecidableEq

/-- What the routes write besides. -/
inductive Effect
  | audit
  | activate
  | deactivate
  | revokeShareLinks
  | dropCapLock
  | settleBudget
  deriving DecidableEq

/-- The devices and `quarantine:imei`; how many questions were answered.

The rest is history: the devices that were there when the guard of a request was read, and the
requests that have found an IMEI in quarantine. -/
structure Fleet (ι : Type) where
  devices : DeviceTable
  quarantine : List String
  asked : ℕ
  seen : ι → List ℕ
  found : List (ι × String)

/-- One command to Postgres or to Redis. -/
inductive FleetCommand (ι : Type)
  | ask (question : Question)
  | write (effect : Effect)
  | account (scope : Scope) (accountId : String)
  | held (me : ι) (imei : String) (overrideRetiredHolder : Bool) (scope : Scope)
  | insert (scope : Scope) (accountId imei : String) (overrideRetiredHolder : Bool)
  | released (imei : String) (scope : Scope)
  | scopedById (scope : Scope) (id : ℕ)
  | retire (id : ℕ)
  | zscore (me : ι) (imei : String)
  | zadd (imei : String)
  | zrem (imei : String)
  deriving DecidableEq

abbrev FleetCommand.Answer {ι : Type} : FleetCommand ι → Type
  | .ask _ | .account .. | .held .. | .zscore .. => Bool
  | .insert .. => Option ℕ
  | .released .. => List ℕ
  | .scopedById .. => Option Device
  | _ => Unit

/-- The answers to questions, and the tenants of the accounts. -/
structure Setting where
  answers : ℕ → Bool
  tenantOf : String → Option String

variable {ι : Type} [DecidableEq ι] (setting : Setting)

def Setting.inScope (scope : Scope) (accountId : String) : Bool :=
  setting.tenantOf accountId = some scope.tenantId && scope.accountId.all (· = accountId)

/-- The retired rows that the audit names. -/
def DeviceTable.released (s : DeviceTable) (imei : String) (scope : Scope) : List ℕ :=
  (s.rows.filter fun row => row.imei = imei && row.retired && !scope.reaches row).map (·.id)

def FleetCommand.run : (c : FleetCommand ι) → Fleet ι → Fleet ι × c.Answer
  | .ask _, s => ({ s with asked := s.asked + 1 }, setting.answers s.asked)
  | .write _, s => (s, ())
  | .account scope accountId, s => (s, setting.inScope scope accountId)
  | .held me imei override scope, s =>
    ({ s with seen := Function.update s.seen me (s.devices.rows.map (·.id)) },
      s.devices.held imei override scope)
  | .insert scope accountId imei _, s =>
    match s.devices.insert scope accountId imei with
    | none => (s, none)
    | some devices => ({ s with devices := devices }, some s.devices.nextId)
  | .released imei scope, s => (s, s.devices.released imei scope)
  | .scopedById scope id, s => (s, s.devices.scopedById scope id)
  | .retire id, s => ({ s with devices := s.devices.retire id }, ())
  | .zscore me imei, s =>
    if imei ∈ s.quarantine then ({ s with found := (me, imei) :: s.found }, true) else (s, false)
  | .zadd imei, s => ({ s with quarantine := imei :: s.quarantine.filter (· ≠ imei) }, ())
  | .zrem imei, s => ({ s with quarantine := s.quarantine.filter (· ≠ imei) }, ())

abbrev fleetService (ι : Type) [DecidableEq ι] (setting : Setting) : Service (Fleet ι) where
  Cmd := FleetCommand ι
  Answer := FleetCommand.Answer
  run := FleetCommand.run setting

inductive FleetError
  | failed
  | duplicateImei
  deriving DecidableEq

inductive Reply
  | created (id : ℕ)
  | retired (device : Device)
  | problem (status : ℕ)
  | done
  deriving DecidableEq

abbrev Request (ι : Type) [DecidableEq ι] (setting : Setting) :=
  Async (fleetService ι setting) FleetError

variable {setting}

def send (c : FleetCommand ι) : Request ι setting c.Answer :=
  Async.send (V := fleetService ι setting) .failed c

def ask (question : Question) : Request ι setting Bool := send (.ask question)

def write (effect : Effect) : Request ι setting Unit := send (.write effect)

/-- An error is dropped. -/
def quietly (m : Request ι setting Unit) : Request ι setting Unit := m.attempt fun _ => pure ()

/-! ## `devices.create` and `devices.retire` -/

def maxDisplacedHolders : ℕ := 20

/-- The retired holders that an override has passed over, each with an entry in the audit log of its
tenant. -/
def auditReleased (imei : String) (scope : Scope) : Request ι setting Unit := do
  let released : List ℕ ← send (.released imei scope)
  (released.take maxDisplacedHolders).forM fun _ => quietly (write .audit)

/-- The row is inserted, and its index may refuse it. -/
def insertDevice (scope : Scope) (accountId imei : String) (overrideRetiredHolder : Bool) :
    Request ι setting ℕ := do
  let inserted : Option ℕ ← send (.insert scope accountId imei overrideRetiredHolder)
  match inserted with
  | none => .threw .duplicateImei
  | some id => pure id

def create (me : ι) (scope : Scope) (accountId imei : String) (overrideRetiredHolder : Bool) :
    Request ι setting ℕ := do
  let held : Bool ← send (.held me imei overrideRetiredHolder scope)
  if held then .threw .duplicateImei
  else
    let id ← insertDevice scope accountId imei overrideRetiredHolder
    write .audit
    Async.when (overrideRetiredHolder = true) (quietly (auditReleased imei scope))
    pure id

def retire (scope : Scope) (id : ℕ) : Request ι setting (Option Device) := do
  let before : Option Device ← send (.scopedById scope id)
  match before with
  | none => pure none
  | some before =>
    write .revokeShareLinks
    if before.retired then pure (some before)
    else
      let _ : Unit ← send (.retire before.id)
      write .audit
      pure (some { before with retired := true })

/-! ## The routes -/

/-- A caller of `POST /v1/devices`, with the account that it asks for: one that is pinned to an
account gets that. -/
structure Caller where
  scope : Scope
  asked : String
  deriving DecidableEq

def Caller.accountId (caller : Caller) : String := caller.scope.accountId.getD caller.asked

def orDuplicate (m : Request ι setting Reply) : Request ι setting Reply :=
  m.attempt fun
    | .duplicateImei => pure (.problem 409)
    | .failed => .threw .failed

/-- `devices.create`, and the registry. -/
def createActive (me : ι) (scope : Scope) (accountId imei : String) (overrideRetiredHolder : Bool) :
    Request ι setting Reply := do
  let id ← create me scope accountId imei overrideRetiredHolder
  write .activate
  pure (.created id)

/-- What `POST /v1/devices` does under the lock of the device cap. -/
def postUnderCap (me : ι) (caller : Caller) (imei : String) : Request ι setting Reply := do
  let room ← ask .room
  if room then
    let known ← ask .profileKnown
    if known then orDuplicate (createActive me caller.scope caller.accountId imei false)
    else pure (.problem 400)
  else pure (.problem 403)

/-- What `POST /v1/devices` does within its budget. -/
def postInBudget (me : ι) (caller : Caller) (imei : String) : Request ι setting Reply := do
  let locked ← ask .capLock
  if locked then (postUnderCap me caller imei).always (quietly (write .dropCapLock))
  else pure (.problem 409)

def postDevice (me : ι) (caller : Caller) (imei : String) : Request ι setting Reply := do
  let inScope : Bool ← send (.account caller.scope caller.accountId)
  if inScope then
    let budget ← ask .budget
    if budget then (postInBudget me caller imei).always (write .settleBudget)
    else pure (.problem 429)
  else pure (.problem 400)

def deleteDevice (scope : Scope) (id : ℕ) : Request ι setting Reply := do
  let device : Option Device ← send (.scopedById scope id)
  match device with
  | none => pure (.problem 404)
  | some device =>
    write .deactivate
    let row ← retire scope id
    pure (.retired (row.getD device))

structure ClaimInput where
  imei : String
  tenantId : String
  accountId : String
  deriving DecidableEq

/-- The platform acts on the target tenant. -/
def ClaimInput.scope (input : ClaimInput) : Scope := ⟨input.tenantId, none⟩

def claimed (me : ι) (input : ClaimInput) (inQuarantine : Bool) : Request ι setting Reply := do
  let reply ← createActive me input.scope input.accountId input.imei inQuarantine
  let _ : Unit ← send (.zrem input.imei)
  pure reply

/-- What a claim does under the lock of the device cap; where Redis does not answer, the IMEI is not
taken to be in quarantine. -/
def claimUnderCap (me : ι) (input : ClaimInput) : Request ι setting Reply := do
  let room ← ask .room
  if room then
    let known ← ask .profileKnown
    if known then
      let inQuarantine : Bool ←
        Async.sendOr (V := fleetService ι setting) (.zscore me input.imei) false
      orDuplicate (claimed me input inQuarantine)
    else pure (.problem 400)
  else pure (.problem 403)

def claimDevice (me : ι) (input : ClaimInput) : Request ι setting Reply := do
  let inScope : Bool ← send (.account input.scope input.accountId)
  if inScope then
    let locked ← ask .capLock
    if locked then (claimUnderCap me input).always (quietly (write .dropCapLock))
    else pure (.problem 409)
  else pure (.problem 400)

/-- A tracker that ingest does not know. -/
def quarantineImei (imei : String) : Request ι setting Reply := do
  let _ : Unit ← send (.zadd imei)
  pure .done

/-- A request. -/
inductive FleetCall
  | post (caller : Caller) (imei : String)
  | delete (scope : Scope) (id : ℕ)
  | claim (input : ClaimInput)
  | unknown (imei : String)
  deriving DecidableEq

def FleetCall.program (me : ι) : FleetCall → Request ι setting Reply
  | .post caller imei => postDevice me caller imei
  | .delete scope id => deleteDevice scope id
  | .claim input => claimDevice me input
  | .unknown imei => quarantineImei imei

end Orbetra.Takeover
