import Orbetra.Framework.Transducer

/-!
# JSON texts

The language of JSON over UTF-16 code units: a lexer that reads one unit at a time, and a parser
that keeps what is open on a stack.  A number stays the literal it was written as.

A line break separates tokens and never stands inside one, so a text is refused as soon as a line
begins with a unit that begins no token (`parse_of_line`).
-/

/-- A text, as UTF-16 code units. -/
abbrev Utf16 := List UInt16

/-- A text without characters beyond the basic plane. -/
def utf16 (text : String) : Utf16 := text.toList.map fun c => UInt16.ofNat c.toNat

/-- A JSON value.  The properties of an object stand newest first, so that of two with one name the
later one is found. -/
inductive JsonValue
  | null
  | bool (b : Bool)
  | number (literal : Utf16)
  | string (text : Utf16)
  | array (items : List JsonValue)
  | object (properties : List (Utf16 × JsonValue))

namespace JsonText

open Transducer

/-- The character of a unit; a surrogate has none. -/
def charOf (u : UInt16) : Char := Char.ofNat u.toNat

/-- A line feed. -/
def newline : UInt16 := 10

/-! ## Scalars -/

/-- `e`, a sign if there is one, and digits; or nothing. -/
def isExponent : List Char → Bool
  | [] => true
  | e :: '+' :: digits | e :: '-' :: digits | e :: digits =>
    (e == 'e' || e == 'E') && !digits.isEmpty && digits.all Char.isDigit

/-- What follows the integer part of a number. -/
def isFraction : List Char → Bool
  | '.' :: rest =>
    !(rest.takeWhile Char.isDigit).isEmpty && isExponent (rest.dropWhile Char.isDigit)
  | rest => isExponent rest

/-- A number without its sign. -/
def isUnsigned (text : List Char) : Bool :=
  let digits := text.takeWhile Char.isDigit
  !digits.isEmpty && (digits.length == 1 || digits.head? != some '0') &&
    isFraction (text.dropWhile Char.isDigit)

def isNumber : List Char → Bool
  | '-' :: text | text => isUnsigned text

/-- The scalar that is written without quotes. -/
def bareScalar (text : Utf16) : Option JsonValue :=
  if text = utf16 "null" then some .null
  else if text = utf16 "true" then some (.bool true)
  else if text = utf16 "false" then some (.bool false)
  else if isNumber (text.map charOf) then some (.number text)
  else none

/-! ## The lexer -/

inductive Token
  /-- One of the six structural characters. -/
  | punctuation (c : Char)
  | scalar (v : JsonValue)

/-- Where the lexer stands; what it has read of a token is newest first. -/
inductive Lexer
  | between
  /-- Inside a number or a word. -/
  | bare (read : Utf16)
  | string (read : Utf16)
  /-- Behind a backslash. -/
  | escape (read : Utf16)
  /-- Behind `\u`, with some of the four digits read. -/
  | hex (read : Utf16) (digits : ℕ) (value : ℕ)
  | refused
  deriving DecidableEq

def isSpace (c : Char) : Bool := c == ' ' || c == '\t' || c == '\n' || c == '\r'

def isPunctuation (c : Char) : Bool := ['{', '}', '[', ']', ':', ','].contains c

/-- What a number or a word may begin with. -/
def beginsBare (c : Char) : Bool := c.isDigit || ['-', 't', 'f', 'n'].contains c

/-- What a number or a word may go on with. -/
def continuesBare (c : Char) : Bool := c.isAlphanum || ['-', '+', '.'].contains c

/-- A unit where no token has begun. -/
def begin (u : UInt16) : Lexer × List Token :=
  let c := charOf u
  if isSpace c then (.between, [])
  else if isPunctuation c then (.between, [.punctuation c])
  else if c = '"' then (.string [], [])
  else if beginsBare c then (.bare [u], [])
  else (.refused, [])

/-- The unit that a one-letter escape stands for. -/
def escaped : Char → Option UInt16
  | '"' => some 34
  | '\\' => some 92
  | '/' => some 47
  | 'b' => some 8
  | 'f' => some 12
  | 'n' => some 10
  | 'r' => some 13
  | 't' => some 9
  | _ => none

/-- The value of a hexadecimal digit. -/
def hexDigit (c : Char) : Option ℕ :=
  if c.isDigit then some (c.toNat - '0'.toNat)
  else if 'a' ≤ c ∧ c ≤ 'f' then some (c.toNat - 'a'.toNat + 10)
  else if 'A' ≤ c ∧ c ≤ 'F' then some (c.toNat - 'A'.toNat + 10)
  else none

/-- One unit. -/
def step : Lexer → UInt16 → Lexer × List Token
  | .between, u => begin u
  | .bare read, u =>
    if continuesBare (charOf u) then (.bare (u :: read), [])
    else
      match bareScalar read.reverse with
      | some v => ((begin u).1, .scalar v :: (begin u).2)
      | none => (.refused, [])
  | .string read, u =>
    if u = 34 then (.between, [.scalar (.string read.reverse)])
    else if u = 92 then (.escape read, [])
    else if u < 32 then (.refused, [])
    else (.string (u :: read), [])
  | .escape read, u =>
    if charOf u = 'u' then (.hex read 0 0, [])
    else
      match escaped (charOf u) with
      | some v => (.string (v :: read), [])
      | none => (.refused, [])
  | .hex read digits value, u =>
    match hexDigit (charOf u) with
    | some d =>
      if digits = 3 then (.string (UInt16.ofNat (16 * value + d) :: read), [])
      else (.hex read (digits + 1) (16 * value + d), [])
    | none => (.refused, [])
  | .refused, _ => (.refused, [])

/-- The token that the end of the text closes; `none` if the text may not end here. -/
def finish : Lexer → Option (List Token)
  | .between => some []
  | .bare read => (bareScalar read.reverse).map fun v => [.scalar v]
  | _ => none

def tokens (text : Utf16) : Option (List Token) :=
  (finish (stateAfter step .between text)).map fun last => outputs step .between text ++ last

/-! ## The parser -/

/-- An array or an object that is still open, newest part first. -/
inductive Frame
  | items (read : List JsonValue)
  | member (read : List (Utf16 × JsonValue)) (name : Utf16)

/-- What may come next. -/
inductive Wanted
  | value
  /-- An item or the end of the array. -/
  | firstItem
  /-- A name or the end of the object. -/
  | firstName
  | name (read : List (Utf16 × JsonValue))
  | colon (read : List (Utf16 × JsonValue)) (name : Utf16)
  /-- A value has been read. -/
  | after (v : JsonValue)

structure Parser where
  stack : List Frame
  wanted : Wanted

def Parser.step : Parser → Token → Option Parser
  | ⟨stack, .value⟩, .scalar v => some ⟨stack, .after v⟩
  | ⟨stack, .value⟩, .punctuation '[' => some ⟨stack, .firstItem⟩
  | ⟨stack, .value⟩, .punctuation '{' => some ⟨stack, .firstName⟩
  | ⟨stack, .firstItem⟩, .punctuation ']' => some ⟨stack, .after (.array [])⟩
  | ⟨stack, .firstItem⟩, .scalar v => some ⟨.items [] :: stack, .after v⟩
  | ⟨stack, .firstItem⟩, .punctuation '[' => some ⟨.items [] :: stack, .firstItem⟩
  | ⟨stack, .firstItem⟩, .punctuation '{' => some ⟨.items [] :: stack, .firstName⟩
  | ⟨stack, .firstName⟩, .punctuation '}' => some ⟨stack, .after (.object [])⟩
  | ⟨stack, .firstName⟩, .scalar (.string name) => some ⟨stack, .colon [] name⟩
  | ⟨stack, .name read⟩, .scalar (.string name) => some ⟨stack, .colon read name⟩
  | ⟨stack, .colon read name⟩, .punctuation ':' => some ⟨.member read name :: stack, .value⟩
  | ⟨.items read :: stack, .after v⟩, .punctuation ',' => some ⟨.items (v :: read) :: stack, .value⟩
  | ⟨.items read :: stack, .after v⟩, .punctuation ']' =>
    some ⟨stack, .after (.array (v :: read).reverse)⟩
  | ⟨.member read name :: stack, .after v⟩, .punctuation ',' =>
    some ⟨stack, .name ((name, v) :: read)⟩
  | ⟨.member read name :: stack, .after v⟩, .punctuation '}' =>
    some ⟨stack, .after (.object ((name, v) :: read))⟩
  | _, _ => none

/-- The value, once nothing is open. -/
def Parser.result : Parser → Option JsonValue
  | ⟨[], .after v⟩ => some v
  | _ => none

def parse (text : Utf16) : Option JsonValue := do
  let read ← tokens text
  let parser ← read.foldlM Parser.step ⟨[], .value⟩
  parser.result

/-! ## Lines -/

lemma stateAfter_refused (text : Utf16) : stateAfter step .refused text = .refused := by
  induction text with
  | nil => rfl
  | cons u text ih => exact ih

/-- A line feed ends a number or a word, and stands in no string. -/
lemma step_newline (l : Lexer) : (step l newline).1 = .between ∨ (step l newline).1 = .refused := by
  cases l with
  | between => exact .inl rfl
  | bare read =>
    simp only [step, show continuesBare (charOf newline) = false from rfl]
    cases bareScalar read.reverse
    · exact .inr rfl
    · exact .inl rfl
  | string read => exact .inr rfl
  | escape read => exact .inr rfl
  | hex read digits value => exact .inr rfl
  | refused => exact .inr rfl

/-- **No JSON text has a line that begins with a unit that begins no token.** -/
theorem parse_of_line {u : UInt16} (hu : (begin u).1 = .refused) (before after : Utf16) :
    parse (before ++ newline :: u :: after) = none := by
  have hnext : (step (step (stateAfter step .between before) newline).1 u).1 = .refused := by
    rcases step_newline (stateAfter step .between before) with h | h <;> rw [h]
    · exact hu
    · rfl
  have hend : stateAfter step .between (before ++ newline :: u :: after) = .refused := by
    rw [stateAfter_append, stateAfter_cons, stateAfter_cons, hnext, stateAfter_refused]
  have htokens : tokens (before ++ newline :: u :: after) = none := by
    rw [tokens, hend]
    rfl
  rw [parse, htokens]
  rfl

end JsonText
