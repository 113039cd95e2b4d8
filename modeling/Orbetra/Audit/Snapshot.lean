import Orbetra.Settings.Getparam

/-!
# The snapshots of the audit trail

`stable` and `recordIfChanged` of `packages/db/src/repos/audit.ts`, and what the column of the table
stores.  A number is the literal that `JSON.stringify` writes for it, a date the text of
`toISOString`. -/

namespace Orbetra.Audit

/-! ## Values -/

/-- A finite number, as JSON writes it. -/
structure NumberLiteral where
  text : Text
  head : ∀ c ∈ text.head?, c.isDigit ∨ c = '-'
  nonempty : text ≠ []
  chars : ∀ c ∈ text, c.isDigit ∨ c ∈ ['+', '-', '.', 'e']

/-- A value that is neither an array nor an object. -/
inductive Scalar
  | undefined
  | null
  | bool (b : Bool)
  | number (n : NumberLiteral)
  | text (t : Text)
  | bigint (n : ℤ)
  | date (iso : Text)

/-- A snapshot.  The properties of an object are in the order of their insertion. -/
inductive Snapshot
  | scalar (s : Scalar)
  | array (items : List Snapshot)
  | object (properties : List (Text × Snapshot))

/-- What a column of type `jsonb` holds: the properties of an object in the order of their keys. -/
inductive Json
  | null
  | bool (b : Bool)
  | number (literal : Text)
  | string (t : Text)
  | array (items : List Json)
  | object (properties : List (Text × Json))

/-! ## Texts -/

/-- A character inside the quotes of `JSON.stringify`. -/
def escape (c : Char) : Text :=
  if c = '"' then ['\\', '"']
  else if c = '\\' then ['\\', '\\']
  else if c.toNat = 8 then ['\\', 'b']
  else if c.toNat = 9 then ['\\', 't']
  else if c.toNat = 10 then ['\\', 'n']
  else if c.toNat = 12 then ['\\', 'f']
  else if c.toNat = 13 then ['\\', 'r']
  else if c.toNat < 32 then
    ['\\', 'u', '0', '0', Nat.digitChar (c.toNat / 16), Nat.digitChar (c.toNat % 16)]
  else [c]

def jsonString (t : Text) : Text := '"' :: t.flatMap escape ++ ['"']

def bigintText (n : ℤ) : Text := (if n < 0 then ['-'] else []) ++ Nat.toDigits 10 n.natAbs ++ ['n']

/-- `stable` of a value that is neither an array nor an object. -/
def Scalar.print : Scalar → Text
  | undefined | null => "null".toList
  | bool b => if b then "true".toList else "false".toList
  | number n => n.text
  | text t => jsonString t
  | bigint n => bigintText n
  | date iso => jsonString iso

/-! ## The order of keys -/

/-- The UTF-16 code units of a character. -/
def charUnits (c : Char) : List ℕ :=
  if c.toNat < 0x10000 then [c.toNat]
  else [0xd800 + (c.toNat - 0x10000) / 0x400, 0xdc00 + (c.toNat - 0x10000) % 0x400]

def byKey {α : Type} (properties : List (Text × α)) : List (Text × α) :=
  properties.mergeSort fun p q => decide (p.1.flatMap charUnits ≤ q.1.flatMap charUnits)

/-! ## `stable` -/

def joined (texts : List Text) : Text := [','].intercalate texts

mutual

def stable : Snapshot → Text
  | .scalar s => s.print
  | .array items => '[' :: joined (stableItems items) ++ [']']
  | .object properties =>
    '{' :: joined ((byKey (stableProperties properties)).map fun p => p.1 ++ ':' :: p.2) ++ ['}']

/-- `value.map(stable)` -/
def stableItems : List Snapshot → List Text
  | [] => []
  | x :: xs => stable x :: stableItems xs

/-- `stable(o[k])` beside each key. -/
def stableProperties : List (Text × Snapshot) → List (Text × Text)
  | [] => []
  | (k, x) :: ps => (k, stable x) :: stableProperties ps

end

/-! ## The table -/

/-- What the caller reports. -/
structure AuditEntry where
  entity : Text
  entityId : Text
  before : Snapshot
  after : Snapshot

structure AuditRow where
  tenantId : Option Text
  userId : Option Text
  action : Text
  entity : Text
  entityId : Text
  before : Snapshot
  after : Snapshot

def orNullSnapshot : Snapshot → Snapshot
  | .scalar .undefined => .scalar .null
  | x => x

def recordIfChanged (tenantId userId : Option Text) (entry : AuditEntry) (trail : List AuditRow) :
    Bool × List AuditRow :=
  if stable entry.before = stable entry.after then (false, trail)
  else (true, trail ++ [
    { tenantId := tenantId
      userId := userId
      action := "update".toList
      entity := entry.entity
      entityId := entry.entityId
      before := orNullSnapshot entry.before
      after := orNullSnapshot entry.after }])

/-! ## What the column stores -/

mutual

/-- The snapshot with its keys in order, at every level. -/
def ordered : Snapshot → Snapshot
  | .scalar s => .scalar s
  | .array items => .array (orderedItems items)
  | .object properties => .object (byKey (orderedProperties properties))

def orderedItems : List Snapshot → List Snapshot
  | [] => []
  | x :: xs => ordered x :: orderedItems xs

def orderedProperties : List (Text × Snapshot) → List (Text × Snapshot)
  | [] => []
  | (k, x) :: ps => (k, ordered x) :: orderedProperties ps

end

/-- How the column stores a scalar.  What it makes of a bigint is the driver's affair. -/
def Scalar.stored (big : ℤ → Json) : Scalar → Json
  | undefined | null => .null
  | bool b => .bool b
  | number n => .number n.text
  | text t => .string t
  | bigint n => big n
  | date iso => .string iso

mutual

/-- How the column stores a snapshot whose keys are in order.  A null property counts as absent. -/
def column (big : ℤ → Json) : Snapshot → Json
  | .scalar s => s.stored big
  | .array items => .array (columnItems big items)
  | .object properties => .object (columnProperties big properties)

def columnItems (big : ℤ → Json) : List Snapshot → List Json
  | [] => []
  | x :: xs => column big x :: columnItems big xs

def columnProperties (big : ℤ → Json) : List (Text × Snapshot) → List (Text × Json)
  | [] => []
  | (k, x) :: ps =>
    match column big x with
    | .null => columnProperties big ps
    | j => (k, j) :: columnProperties big ps

end

/-- What the column stores, up to the order of keys and to null properties. -/
def stored (big : ℤ → Json) (x : Snapshot) : Json := column big (ordered x)

end Orbetra.Audit
