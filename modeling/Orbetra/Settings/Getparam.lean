import Orbetra.Framework.Instances

/-!
# The texts of `getparam` and `setparam`

`packages/shared/src/getparam.ts`, and `setparamPairs` of `deviceSettingsView.ts`.  A text is the
list of its characters.  The regular expressions of the source are written out as functions; each of
them leaves no choice to a match, so that none has to search.
-/

namespace Orbetra

abbrev Text := List Char

/-! ## Regular expressions -/

/-- `\s`, which is also what `trim` removes. -/
def isWhite (c : Char) : Bool :=
  c.toNat ∈ [9, 10, 11, 12, 13, 32, 0xa0, 0x1680, 0x2028, 0x2029, 0x202f, 0x205f, 0x3000, 0xfeff] ||
    (0x2000 ≤ c.toNat && c.toNat ≤ 0x200a)

/-- What `.` does not match without the flag `s`. -/
def isLineEnd (c : Char) : Bool := c.toNat ∈ [10, 13, 0x2028, 0x2029]

def trim (t : Text) : Text := (t.dropWhile isWhite).rdropWhile isWhite

def stripWord : Text → Text → Option Text
  | [], t => some t
  | w :: word, c :: t => if c.toLower = w.toLower then stripWord word t else none
  | _ :: _, [] => none

/-- `/^\s+/`: what follows the white space. -/
def stripWhite : Text → Option Text
  | c :: t => if isWhite c then some (t.dropWhile isWhite) else none
  | [] => none

/-- `/^(\d{1,7})/`, where no digit may follow: the digits, and what follows them. -/
def takeId (t : Text) : Option (Text × Text) :=
  let digits := t.takeWhile Char.isDigit
  if 1 ≤ digits.length ∧ digits.length ≤ 7 then some (digits, t.dropWhile Char.isDigit) else none

/-- The number that digits stand for. -/
def textDigitsValue (digits : Text) : ℕ := digits.foldl (fun n c => 10 * n + (c.toNat - 48)) 0

/-- `/^\d+$/` -/
def naturalText (t : Text) : Option ℕ :=
  if t ≠ [] ∧ t.all Char.isDigit then some (textDigitsValue t) else none

def integerText : Text → Option ℤ
  | '-' :: t => (naturalText t).map fun n => -(n : ℤ)
  | t => (naturalText t).map fun n => (n : ℤ)

/-! ## Numbers -/

/-- A JavaScript number that comes from the digits of an integer. -/
inductive JsNumber
  | int (n : ℤ)
  | infinite (negative : Bool)
  deriving DecidableEq

/-- The nearest multiple of `2 ^ e`, and the even one of two. -/
def roundTo (e n : ℕ) : ℕ :=
  let q := n / 2 ^ e
  let r := n % 2 ^ e
  if 2 ^ e < 2 * r ∨ 2 * r = 2 ^ e ∧ q % 2 = 1 then (q + 1) * 2 ^ e else q * 2 ^ e

/-- `Number(text)`, for the text of an integer: the nearest double. -/
def jsNumberOf (n : ℤ) : JsNumber :=
  let rounded := roundTo (Nat.log2 n.natAbs - 52) n.natAbs
  if 2 ^ 1024 ≤ rounded then .infinite (n < 0) else .int (n.sign * rounded)

/-! ## `getparam.ts` -/

/-- `/Param\s+ID:(\d{1,7})\s+Value:(.*)$/is` at the front of a text. -/
def headAt (t : Text) : Option (Text × Text) := do
  let t ← stripWord "Param".toList t
  let t ← stripWhite t
  let t ← stripWord "ID:".toList t
  let (id, t) ← takeId t
  let t ← stripWhite t
  let rest ← stripWord "Value:".toList t
  pure (id, rest)

/-- The first place where the expression matches. -/
def findHead : Text → Option (Text × Text)
  | [] => none
  | c :: t => (headAt (c :: t)).or (findHead t)

/-- A text that says nothing counts as no value. -/
def orNull (t : Text) : Option Text := if t = [] then none else some t

/-- `/^\s*(\d{1,7})\s*:\s*(.*)$/s`: the id, and the rest without its leading white space. -/
def pairAt (t : Text) : Option (Text × Text) := do
  let (id, t) ← takeId (t.dropWhile isWhite)
  let t ← stripWord [':'] (t.dropWhile isWhite)
  pure (id, t.dropWhile isWhite)

/-- `parseGetparamReply`: what the reply states, as a map of the ids. -/
def parseGetparamReply (reply : Text) (requested : List Text) : Text → Option (Option Text) :=
  let nothing := fun _ => none
  if requested = [] then nothing
  else
    match findHead (trim reply) with
    | none => nothing
    | some (firstId, rest) =>
      -- an answer about something that was not asked
      if firstId ∉ requested then nothing
      else if requested.dedup.length = 1 then
        -- one trailing separator is dropped
        let only := trim rest
        let only := trim (if only.getLast? = some ';' then only.dropLast else only)
        Function.update nothing firstId (some (orNull only))
      else
        let parts := rest.splitOn ';'
        let first := Function.update nothing firstId (some (orNull (trim (parts.headD []))))
        parts.tail.foldl (fun out part =>
          match pairAt part with
          | none => out
          | some (id, value) =>
            if id ∈ requested then Function.update out id (some (orNull (trim value))) else out) first

def requestedIds (commandText : Text) : List Text :=
  match (do
    let t ← stripWord "getparam".toList (trim commandText)
    let ids ← stripWhite t
    if ids ≠ [] ∧ ids.all fun c => c.isDigit || c = ';' || isWhite c then some ids else none) with
  | none => []
  | some ids => ((ids.splitOn ';').map trim).filter fun id =>
      1 ≤ id.length && id.length ≤ 7 && id.all Char.isDigit

/-! ## `setparamPairs` -/

/-- `/^\s*(\d{1,7})\s*:\s*(-?\d+)\s*$/` -/
def writeAt (part : Text) : Option (Text × ℤ) := do
  let (id, rest) ← pairAt part
  let value ← integerText (rest.rdropWhile isWhite)
  pure (id, value)

/-- `setparamPairs`: the parameters that a command writes, with their values. -/
def setparamPairs (text : Text) : List (Text × ℤ) :=
  match (do
    let t ← stripWord "setparam".toList (trim text)
    let pairs ← stripWhite t
    if pairs.any isLineEnd then none else some pairs) with
  | none => []
  | some pairs => (pairs.splitOn ';').filterMap writeAt

end Orbetra
