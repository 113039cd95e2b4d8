import Mathlib

/-!
# Texts of IP addresses

The textual forms of addresses: dotted quads without leading zeros, and the three forms of an IPv6
address, which are eight groups, a gap `::` for one or more groups of zero, and either of them with
a dotted quad in the place of the last two groups; an IPv6 address may be followed by a zone.  A form
denotes an address, which is a number, and a range of addresses is a network with the length of its
prefix.
-/

namespace IpText

open List

/-! ## Numbers -/

/-- The number with the given digits, most significant first. -/
def ofDigits (base : ℕ) (digits : List ℕ) : ℕ := digits.foldl (fun n d => base * n + d) 0

lemma ofDigits_append_singleton (base : ℕ) (digits : List ℕ) (d : ℕ) :
    ofDigits base (digits ++ [d]) = base * ofDigits base digits + d := by
  simp [ofDigits]

variable {base : ℕ} {low high : List ℕ} {c : Char}

lemma ofDigits_lt {digits : List ℕ} (h : ∀ d ∈ digits, d < base) :
    ofDigits base digits < base ^ digits.length := by
  induction digits using reverseRecOn with
  | nil => simp [ofDigits]
  | append_singleton digits d ih =>
    have hrest := ih fun d' hd' => h d' (mem_append_left _ hd')
    have hd := h d (by simp)
    calc ofDigits base (digits ++ [d]) = base * ofDigits base digits + d :=
          ofDigits_append_singleton base digits d
      _ < base * (ofDigits base digits + 1) := by
          rw [mul_add, mul_one]
          exact Nat.add_lt_add_left hd _
      _ ≤ base * base ^ digits.length := Nat.mul_le_mul_left _ hrest
      _ = base ^ (digits ++ [d]).length := by
          rw [length_append, length_singleton, pow_succ, mul_comm]

lemma ofDigits_append (base : ℕ) (high low : List ℕ) :
    ofDigits base (high ++ low) = base ^ low.length * ofDigits base high + ofDigits base low := by
  induction low using reverseRecOn with
  | nil => simp [ofDigits]
  | append_singleton low d ih =>
    rw [← append_assoc, ofDigits_append_singleton, ofDigits_append_singleton, ih,
      length_append, length_singleton, pow_succ]
    ring

lemma ofDigits_append_div (h : ∀ d ∈ low, d < base) :
    ofDigits base (high ++ low) / base ^ low.length = ofDigits base high := by
  have hlt := ofDigits_lt h
  rw [ofDigits_append, Nat.mul_add_div (Nat.zero_lt_of_lt hlt), Nat.div_eq_of_lt hlt, add_zero]

lemma ofDigits_append_mod (h : ∀ d ∈ low, d < base) :
    ofDigits base (high ++ low) % base ^ low.length = ofDigits base low := by
  rw [ofDigits_append, Nat.mul_add_mod, Nat.mod_eq_of_lt (ofDigits_lt h)]

lemma ofDigits_inj {xs ys : List ℕ} (hlength : xs.length = ys.length) (hx : ∀ d ∈ xs, d < base)
    (hy : ∀ d ∈ ys, d < base) :
    ofDigits base xs = ofDigits base ys ↔ xs = ys := by
  refine ⟨fun h => ?_, fun h => h ▸ rfl⟩
  induction xs generalizing ys with
  | nil => exact (length_eq_zero_iff.1 hlength.symm).symm
  | cons x xs ih =>
    cases ys with
    | nil => exact nomatch hlength
    | cons y ys =>
      have hlength' : xs.length = ys.length := Nat.succ.inj hlength
      obtain ⟨-, hxs⟩ := forall_mem_cons.1 hx
      obtain ⟨-, hys⟩ := forall_mem_cons.1 hy
      have h' : ofDigits base ([x] ++ xs) = ofDigits base ([y] ++ ys) := h
      have hhead : ofDigits base [x] = ofDigits base [y] := by
        rw [← ofDigits_append_div hxs, h', hlength', ofDigits_append_div hys]
      have htail : ofDigits base xs = ofDigits base ys := by
        rw [← ofDigits_append_mod hxs, h', hlength', ofDigits_append_mod hys]
      rw [ih hlength' hxs hys htail]
      exact congrArg (· :: ys) (by simpa [ofDigits] using hhead)

/-! ## Dotted quads -/

/-- An IPv4 address. -/
structure Quad where
  a : Fin 256
  b : Fin 256
  c : Fin 256
  d : Fin 256
  deriving DecidableEq

def Quad.octets (q : Quad) : List ℕ := [q.a, q.b, q.c, q.d]

/-- Four decimal numbers. -/
def Quad.text (q : Quad) : List Char := ['.'].intercalate (q.octets.map (Nat.toDigits 10))

def Quad.value (q : Quad) : ℕ := ofDigits 256 q.octets

/-- A quad in the place of two groups. -/
def Quad.words (q : Quad) : List ℕ := [q.a * 256 + q.b, q.c * 256 + q.d]

/-! ## Groups -/

def isHex (c : Char) : Bool := c.isDigit || ('a' ≤ c && c ≤ 'f') || ('A' ≤ c && c ≤ 'F')

/-- The value of a hexadecimal digit of either case. -/
def hexValue (c : Char) : ℕ :=
  if c.isDigit then c.toNat - '0'.toNat
  else if 'a' ≤ c then c.toNat - 'a'.toNat + 10
  else c.toNat - 'A'.toNat + 10

/-- The value of a text of hexadecimal digits. -/
def hexNumber (text : List Char) : ℕ := ofDigits 16 (text.map hexValue)

/-- One to four hexadecimal digits. -/
structure Group where
  text : List Char
  nonempty : text ≠ []
  short : text.length ≤ 4
  hex : ∀ c ∈ text, isHex c = true
  deriving DecidableEq

def Group.value (g : Group) : ℕ := hexNumber g.text

/-- A hexadecimal digit is one of these. -/
lemma mem_of_isHex (h : isHex c = true) : c ∈ "0123456789abcdefABCDEF".toList := by
  have hcases : (48 ≤ c.toNat ∧ c.toNat ≤ 57) ∨ (97 ≤ c.toNat ∧ c.toNat ≤ 102) ∨
      (65 ≤ c.toNat ∧ c.toNat ≤ 70) := by
    simpa [isHex, Char.isDigit, Char.le_def, UInt32.le_iff_toNat_le, or_assoc] using h
  have hchar : Char.ofNat c.toNat = c := Char.ofNat_toNat c
  rcases hcases with ⟨hlo, hhi⟩ | ⟨hlo, hhi⟩ | ⟨hlo, hhi⟩
  all_goals interval_cases hn : c.toNat <;> rw [← hchar] <;> decide

lemma hexValue_lt (h : isHex c = true) : hexValue c < 16 := by
  have hall : ∀ c ∈ "0123456789abcdefABCDEF".toList, hexValue c < 16 := by simp [hexValue]
  exact hall c (mem_of_isHex h)

lemma Group.value_lt (g : Group) : g.value < 65536 := by
  have hdigits : ∀ d ∈ g.text.map hexValue, d < 16 := by
    intro d hd
    obtain ⟨c, hc, rfl⟩ := mem_map.1 hd
    exact hexValue_lt (g.hex c hc)
  calc g.value < 16 ^ (g.text.map hexValue).length := ofDigits_lt hdigits
    _ ≤ 16 ^ 4 := by
        rw [length_map]
        exact Nat.pow_le_pow_right (by decide) g.short

/-! ## IPv6 addresses -/

/-- Groups, and a dotted quad if the text ends with one. -/
structure Run where
  groups : List Group
  quad : Option Quad
  deriving DecidableEq

/-- What stands between the colons. -/
def Run.pieces (r : Run) : List (List Char) := r.groups.map Group.text ++ r.quad.toList.map Quad.text

def Run.words (r : Run) : List ℕ := r.groups.map Group.value ++ r.quad.toList.flatMap Quad.words

/-- A text of an IPv6 address. -/
inductive V6
  | full (run : Run) (eight : run.words.length = 8)
  /-- The gap stands for at least one group. -/
  | gap (left : List Group) (right : Run) (short : left.length + right.words.length < 8)

def colons (pieces : List (List Char)) : List Char := [':'].intercalate pieces

def V6.text : V6 → List Char
  | full run _ => colons run.pieces
  | gap left right _ => colons (left.map Group.text) ++ "::".toList ++ colons right.pieces

def V6.words : V6 → List ℕ
  | full run _ => run.words
  | gap left right _ =>
    left.map Group.value ++ replicate (8 - (left.length + right.words.length)) 0 ++ right.words

def V6.bytes (x : V6) : List ℕ := x.words.flatMap fun w => [w / 256, w % 256]

def V6.value (x : V6) : ℕ := ofDigits 65536 x.words

lemma V6.words_length (x : V6) : x.words.length = 8 := by
  cases x with
  | full run eight => exact eight
  | gap left right short =>
    simp only [V6.words, length_append, length_map, length_replicate]
    omega

lemma Run.words_lt (r : Run) : ∀ w ∈ r.words, w < 65536 := by
  intro w hw
  rcases mem_append.1 hw with hw | hw
  · obtain ⟨g, -, rfl⟩ := mem_map.1 hw
    exact g.value_lt
  · obtain ⟨q, -, hw⟩ := mem_flatMap.1 hw
    have := q.a.isLt
    have := q.b.isLt
    have := q.c.isLt
    have := q.d.isLt
    simp only [Quad.words, mem_cons, not_mem_nil, or_false] at hw
    omega

lemma V6.words_lt (x : V6) : ∀ w ∈ x.words, w < 65536 := by
  cases x with
  | full run eight => exact run.words_lt
  | gap left right short =>
    intro w hw
    rcases mem_append.1 hw with hw | hw
    · rcases mem_append.1 hw with hw | hw
      · obtain ⟨g, -, rfl⟩ := mem_map.1 hw
        exact g.value_lt
      · rw [eq_of_mem_replicate hw]
        decide
    · exact right.words_lt w hw

/-- A text of an IPv6 address, with the zone behind it if there is one. -/
structure V6Text where
  address : V6
  zone : Option (List Char)

def V6Text.text (x : V6Text) : List Char :=
  x.address.text ++ (x.zone.map fun zone => '%' :: zone).getD []

/-! ## Ranges -/

/-- The addresses of `width` bits that share the first `length` bits with `network`. -/
structure Cidr (width : ℕ) where
  network : ℕ
  length : ℕ

def Cidr.Contains {width : ℕ} (range : Cidr width) (address : ℕ) : Prop :=
  address / 2 ^ (width - range.length) = range.network / 2 ^ (width - range.length)

instance {width : ℕ} (range : Cidr width) (address : ℕ) : Decidable (range.Contains address) :=
  inferInstanceAs (Decidable (_ = _))

end IpText
