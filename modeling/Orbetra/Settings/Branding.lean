import Mathlib
import Orbetra.Framework.Machine

/-!
# Branding and its uploads

`put`, `remove` and `byHash` of `packages/db/src/repos/tenantAssets.ts`, `updateBranding` of
`packages/db/src/repos/tenants.ts`, and the paths of `packages/shared/src/brandAsset.ts`.

`put` and `remove` are transactions that first lock the row of their tenant.  What they read and
write from then on nobody else can change or see before they commit, so that the rest of each is one
step.  `updateBranding` is one `UPDATE`, which waits for the lock, of an object that its caller has
made from a branding read before. -/

namespace Orbetra.Brand

open Function

abbrev Text := List Char

abbrev TenantId := String

/-! ## Paths -/

/-- `'image/png' | 'image/svg+xml'` -/
inductive BrandAssetMime
  | png
  | svg
  deriving DecidableEq

inductive BrandAssetSlot
  | logo
  | favicon
  deriving DecidableEq

def EXT : BrandAssetMime → Text
  | .png => ['p', 'n', 'g']
  | .svg => ['s', 'v', 'g']

/-- `[0-9a-f]` -/
def isHexDigit (c : Char) : Bool := ('0' ≤ c && c ≤ '9') || ('a' ≤ c && c ≤ 'f')

/-- A full hex digest. -/
structure Sha256 where
  digits : Text
  length_eq : digits.length = 64
  hex : digits.all isHexDigit = true
  deriving DecidableEq

def isHashPrefix (hash : Text) : Bool := hash.length == 32 && hash.all isHexDigit

/-- `/v1/public/brand/` -/
def brandRoot : Text := "/v1/public/brand/".toList

def assetPath (sha256 : Sha256) (mime : BrandAssetMime) : Text :=
  brandRoot ++ (sha256.digits.take 32 ++ '.' :: EXT mime)

def parseAssetPath (path : Text) : Option (Text × BrandAssetMime) :=
  let rest := path.drop brandRoot.length
  let hash := rest.take 32
  if brandRoot.isPrefixOf path ∧ isHashPrefix hash then
    if rest.drop 32 = '.' :: EXT .png then some (hash, .png)
    else if rest.drop 32 = '.' :: EXT .svg then some (hash, .svg)
    else none
  else none

def isBrandAssetPath (path : Text) : Bool := (parseAssetPath path).isSome

/-! ## The tables -/

structure AssetData where
  bytes : List UInt8
  mime : BrandAssetMime
  sha256 : Sha256
  width : Option ℕ
  height : Option ℕ
  deriving DecidableEq

/-- Where an upload is served from. -/
def AssetData.path (data : AssetData) : Text := assetPath data.sha256 data.mime

/-- A row of `tenant_assets`. -/
structure Asset where
  tenant : TenantId
  slot : BrandAssetSlot
  data : AssetData
  sizeBytes : ℕ
  deriving DecidableEq

def Asset.IsOf (tenant : TenantId) (slot : BrandAssetSlot) (asset : Asset) : Prop :=
  asset.tenant = tenant ∧ asset.slot = slot

instance (tenant : TenantId) (slot : BrandAssetSlot) : DecidablePred (Asset.IsOf tenant slot) :=
  fun _ => inferInstanceAs (Decidable (_ ∧ _))

/-- `tenant_assets`, with its primary key. -/
structure Assets where
  rows : List Asset
  pk : rows.Pairwise fun a b => ¬ a.IsOf b.tenant b.slot

def Assets.empty : Assets := ⟨[], .nil⟩

def Assets.delete (assets : Assets) (tenant : TenantId) (slot : BrandAssetSlot) : Assets :=
  ⟨assets.rows.filter fun a => ¬ a.IsOf tenant slot, assets.pk.filter _⟩

def Assets.upsert (assets : Assets) (tenant : TenantId) (slot : BrandAssetSlot)
    (data : AssetData) : Assets :=
  ⟨⟨tenant, slot, data, data.bytes.length⟩ :: (assets.delete tenant slot).rows,
    List.pairwise_cons.2 ⟨fun a ha hof => by
      have hnot := of_decide_eq_true (List.mem_filter.1 ha).2
      exact hnot ⟨hof.1.symm, hof.2.symm⟩, (assets.delete tenant slot).pk⟩⟩

def Assets.findUnique (assets : Assets) (tenant : TenantId) (slot : BrandAssetSlot) :
    Option Asset :=
  assets.rows.find? fun a => a.IsOf tenant slot

def byHash (assets : Assets) (sha256Prefix : Text) (mime : BrandAssetMime) : Option Asset :=
  if ¬ isHashPrefix sha256Prefix then none
  else assets.rows.find? fun a =>
    sha256Prefix.isPrefixOf a.data.sha256.digits && a.data.mime == mime

/-- A value in a branding: a text, or another piece of JSON. -/
inductive Value
  | text (s : Text)
  | other
  deriving DecidableEq

abbrev Branding := String → Option Value

/-- `asRecord`, of a column that may not hold an object. -/
def asRecord (column : Option Branding) : Branding := column.getD fun _ => none

def BRANDING_KEY : BrandAssetSlot → String
  | .logo => "logoUrl"
  | .favicon => "faviconUrl"

/-- What `put` makes of the branding it has locked. -/
def mergePath (before : Branding) (slot : BrandAssetSlot) (data : AssetData) : Branding :=
  update before (BRANDING_KEY slot) (some (.text data.path))

/-- What `remove` makes of it: the key goes if it still points at the asset. -/
def clearPath (before : Branding) (slot : BrandAssetSlot) (existing : Asset) : Branding :=
  match before (BRANDING_KEY slot) with
  | some (.text current) =>
    if isBrandAssetPath current ∧ current = existing.data.path then
      update before (BRANDING_KEY slot) none
    else before
  | _ => before

/-! ## The calls -/

inductive Action
  | put (data : AssetData)
  | remove
  deriving DecidableEq

/-- How far a call of `put` or `remove` has come. -/
inductive Phase
  | waiting
  /-- It holds the lock of its tenant's row, and has read the branding. -/
  | locked (before : Branding)
  | ended

structure AssetCall where
  tenant : TenantId
  slot : BrandAssetSlot
  action : Action
  /-- When it began. -/
  began : ℕ
  phase : Phase

structure UpdateCall where
  tenant : TenantId
  /-- When its caller read the branding that the object is made from. -/
  readAt : ℕ
  ended : Bool

inductive Call
  | asset (call : AssetCall)
  | update (call : UpdateCall)

/-- What was last done to a slot. -/
inductive Op
  | put (began : ℕ) (data : AssetData)
  | remove
  deriving DecidableEq

structure State where
  branding : TenantId → Option Branding
  assets : Assets
  /-- Who holds the row of a tenant. -/
  lock : TenantId → Option ℕ
  calls : List Call
  /-- How many moves have been made. -/
  now : ℕ
  /-- History: the last committed `put` or `remove` of a slot, and when the last committed
  `updateBranding` had been read for. -/
  lastOp : TenantId → BrandAssetSlot → Option Op
  lastRead : TenantId → Option ℕ

/-- Nothing has been uploaded, and no branding set. -/
def start : State := ⟨fun _ => none, .empty, fun _ => none, [], 0, fun _ _ => none, fun _ => none⟩

inductive Move
  | put (tenant : TenantId) (slot : BrandAssetSlot) (data : AssetData)
  | remove (tenant : TenantId) (slot : BrandAssetSlot)
  /-- A client reads the branding, to make an object for `updateBranding` from it. -/
  | read (tenant : TenantId)
  | lockBranding (i : ℕ)
  /-- The rest of a transaction, up to its commit. -/
  | commit (i : ℕ)
  /-- A transaction fails, and rolls back. -/
  | fail (i : ℕ)
  /-- `updateBranding` with an object. -/
  | updateBranding (i : ℕ) (object : Branding)

def State.asset? (s : State) (i : ℕ) : Option AssetCall :=
  match s.calls[i]? with
  | some (.asset call) => some call
  | _ => none

def State.update? (s : State) (i : ℕ) : Option UpdateCall :=
  match s.calls[i]? with
  | some (.update call) => some call
  | _ => none

def State.tick (s : State) : State := { s with now := s.now + 1 }

/-- A transaction ends, and lets the row go. -/
def State.finish (s : State) (i : ℕ) (call : AssetCall) : State :=
  { s with
    lock := update s.lock call.tenant none
    calls := s.calls.set i (.asset { call with phase := .ended }) }

def State.put (s : State) (call : AssetCall) (data : AssetData) (before : Branding) : State :=
  { s with
    assets := s.assets.upsert call.tenant call.slot data
    branding := update s.branding call.tenant (some (mergePath before call.slot data))
    lastOp := update s.lastOp call.tenant
      (update (s.lastOp call.tenant) call.slot (some (.put call.began data))) }

def State.remove (s : State) (call : AssetCall) (before : Branding) : State :=
  let s := { s with
    lastOp := update s.lastOp call.tenant (update (s.lastOp call.tenant) call.slot (some .remove)) }
  match s.assets.findUnique call.tenant call.slot with
  | none => s
  | some existing =>
    { s with
      assets := s.assets.delete call.tenant call.slot
      branding := update s.branding call.tenant (some (clearPath before call.slot existing)) }

def step (s : State) : Move → Option State
  | .put tenant slot data =>
    some { s.tick with calls := s.calls ++ [.asset ⟨tenant, slot, .put data, s.now, .waiting⟩] }
  | .remove tenant slot =>
    some { s.tick with calls := s.calls ++ [.asset ⟨tenant, slot, .remove, s.now, .waiting⟩] }
  | .read tenant => some { s.tick with calls := s.calls ++ [.update ⟨tenant, s.now, false⟩] }
  | .lockBranding i => do
    let call ← s.asset? i
    match call.phase, s.lock call.tenant with
    | .waiting, none =>
      some { s.tick with
        lock := update s.lock call.tenant (some i)
        calls := s.calls.set i
          (.asset { call with phase := .locked (asRecord (s.branding call.tenant)) }) }
    | _, _ => none
  | .commit i => do
    let call ← s.asset? i
    match call.phase, call.action with
    | .locked before, .put data => some ((s.tick.put call data before).finish i call)
    | .locked before, .remove => some ((s.tick.remove call before).finish i call)
    | _, _ => none
  | .fail i => do
    let call ← s.asset? i
    match call.phase with
    | .waiting => some { s.tick with calls := s.calls.set i (.asset { call with phase := .ended }) }
    | .locked _ => some (s.tick.finish i call)
    | .ended => none
  | .updateBranding i object => do
    let call ← s.update? i
    if call.ended = false ∧ s.lock call.tenant = none then
      some { s.tick with
        branding := update s.branding call.tenant (some object)
        calls := s.calls.set i (.update { call with ended := true })
        lastRead := update s.lastRead call.tenant (some call.readAt) }
    else none

/-! ## What is promised -/

def State.stored (s : State) (tenant : TenantId) (slot : BrandAssetSlot) : Option Text :=
  match asRecord (s.branding tenant) (BRANDING_KEY slot) with
  | some (.text path) => some path
  | _ => none

/-- What the serving route finds under a path. -/
def resolve (assets : Assets) (path : Text) : Option Asset :=
  (parseAssetPath path).bind fun (hash, mime) => byHash assets hash mime

def State.Resolved (s : State) : Prop :=
  ∀ tenant slot path, s.stored tenant slot = some path → isBrandAssetPath path = true →
    (resolve s.assets path).isSome

/-- A slot whose last operation was a `put` that began after the last `updateBranding` had read its
input is referenced by its key. -/
def State.Referenced (s : State) : Prop :=
  ∀ tenant slot began data, s.lastOp tenant slot = some (.put began data) →
    (∀ readAt, s.lastRead tenant = some readAt → readAt < began) →
      s.stored tenant slot = some data.path

def State.Finished (s : State) : Prop :=
  (∀ i call, s.asset? i = some call → call.phase = .ended) ∧
    ∀ i call, s.update? i = some call → call.ended = true

/-- Branding points at files that are there, and loses no upload. -/
def BrandingHolds (moves : List Move) : Prop :=
  ∀ before s, before <+: moves → Machine.run step start before = some s →
    s.Resolved ∧ (s.Finished → s.Referenced)

/-- `updateBranding` writes no path without a file, and leaves the path of a `put` that had not
begun when its input was read; no file goes while another key points at it, unless another row, or
the new one, is served from its path. -/
def Considerate (s : State) : Move → Prop
  | .updateBranding i object => ∀ call, s.update? i = some call →
    (∀ slot path, object (BRANDING_KEY slot) = some (.text path) → isBrandAssetPath path = true →
      (resolve s.assets path).isSome) ∧
    ∀ slot began data, s.lastOp call.tenant slot = some (.put began data) → call.readAt < began →
      object (BRANDING_KEY slot) = some (.text data.path)
  | .commit i => ∀ call, s.asset? i = some call → ∀ old ∈ s.assets.rows,
    old.IsOf call.tenant call.slot → ∀ tenant slot, ¬ (tenant = call.tenant ∧ slot = call.slot) →
      s.stored tenant slot = some old.data.path →
        (∃ row ∈ s.assets.rows, ¬ row.IsOf call.tenant call.slot ∧ row.data.path = old.data.path) ∨
        ∃ data, call.action = .put data ∧ data.path = old.data.path
  | _ => True

end Orbetra.Brand
