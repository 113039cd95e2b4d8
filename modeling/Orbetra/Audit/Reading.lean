import Orbetra.Audit.Snapshot

/-!
# What a rendering says of its snapshot

`stable` writes its keys without quotes, so two snapshots may print alike.  The text is a sequence
of tokens (`stable_eq`); it is read from the left, and the reading goes wrong only where a key could
be a shorter one with more behind it, or the end of an empty object (`Clash`). -/

namespace Orbetra.Audit

open Function List Nat

/-! ## Strings -/

/-- The value of a lower-case hexadecimal digit. -/
def hexValue (c : Char) : ℕ := if c.isDigit then c.toNat - 48 else c.toNat - 87

/-- The first character that an escaped text stands for, and the rest. -/
def unescape : Text → Option (Char × Text)
  | '\\' :: '"' :: r => some ('"', r)
  | '\\' :: '\\' :: r => some ('\\', r)
  | '\\' :: 'b' :: r => some (Char.ofNat 8, r)
  | '\\' :: 't' :: r => some (Char.ofNat 9, r)
  | '\\' :: 'n' :: r => some (Char.ofNat 10, r)
  | '\\' :: 'f' :: r => some (Char.ofNat 12, r)
  | '\\' :: 'r' :: r => some (Char.ofNat 13, r)
  | '\\' :: 'u' :: _ :: _ :: a :: b :: r => some (Char.ofNat (16 * hexValue a + hexValue b), r)
  | c :: r => some (c, r)
  | [] => none

lemma hexValue_digits : ∀ n < 32, 16 * hexValue (digitChar (n / 16)) +
    hexValue (digitChar (n % 16)) = n := by
  decide

lemma unescape_escape (c : Char) (r : Text) : unescape (escape c ++ r) = some (c, r) := by
  have hchar : ∀ n, c.toNat = n → Char.ofNat n = c := fun n hn => hn ▸ Char.ofNat_toNat c
  unfold escape
  split
  next h =>
    rw [h]
    rfl
  split
  next h =>
    rw [h]
    rfl
  split
  next h =>
    rw [← hchar 8 h]
    rfl
  split
  next h =>
    rw [← hchar 9 h]
    rfl
  split
  next h =>
    rw [← hchar 10 h]
    rfl
  split
  next h =>
    rw [← hchar 12 h]
    rfl
  split
  next h =>
    rw [← hchar 13 h]
    rfl
  split
  next h =>
    have hvalue := hchar _ (hexValue_digits _ h).symm
    conv_rhs => rw [← hvalue]
    rfl
  · rw [cons_append, nil_append, unescape.eq_def]
    split <;> simp_all

variable {c : Char} {r u t l k : Text} {s s' : Scalar} {α : Type} {y x : Snapshot}

lemma escape_inj {d : Char} {s : Text} (h : escape c ++ r = escape d ++ s) : c = d ∧ r = s := by
  have heq := (unescape_escape c r).symm.trans ((congrArg unescape h).trans (unescape_escape d s))
  simpa using heq

/-- A character stands for itself, or is escaped with a backslash. -/
lemma escape_cases (c : Char) : (c ≠ '"' ∧ escape c = [c]) ∨ ∃ t, escape c = '\\' :: t := by
  by_cases hquote : c = '"'
  · exact .inr ⟨['"'], by rw [hquote]; rfl⟩
  · rw [escape, if_neg hquote]
    repeat' split
    all_goals first
      | exact .inr ⟨_, rfl⟩
      | exact .inl ⟨hquote, rfl⟩

lemma head_escape (c : Char) : ∃ d t, escape c = d :: t ∧ d ≠ '"' := by
  rcases escape_cases c with ⟨hquote, hself⟩ | ⟨t, ht⟩
  · exact ⟨c, [], hself, hquote⟩
  · exact ⟨'\\', t, ht, by decide⟩

lemma flatMap_escape_inj {s : Text}
    (h : t.flatMap escape ++ '"' :: r = u.flatMap escape ++ '"' :: s) : t = u ∧ r = s := by
  induction t generalizing u with
  | nil =>
      rcases u with _ | ⟨c, u⟩
      · exact ⟨rfl, (cons.inj h).2⟩
      · obtain ⟨d, e, hd, hne⟩ := head_escape c
        rw [flatMap_cons, hd] at h
        exact absurd (cons.inj h).1.symm hne
  | cons c t ih =>
      rcases u with _ | ⟨d, u⟩
      · obtain ⟨e, f, he, hne⟩ := head_escape c
        rw [flatMap_cons, he] at h
        exact absurd (cons.inj h).1 hne
      · rw [flatMap_cons, flatMap_cons, append_assoc, append_assoc] at h
        obtain ⟨rfl, htail⟩ := escape_inj h
        obtain ⟨rfl, hrest⟩ := ih htail
        exact ⟨rfl, hrest⟩

/-- A string ends at the first quote that is not escaped. -/
lemma jsonString_append_inj {s : Text} (h : jsonString t ++ r = jsonString u ++ s) :
    t = u ∧ r = s := by
  simp only [jsonString, cons_append, append_assoc, nil_append, cons.injEq, true_and] at h
  exact flatMap_escape_inj h

lemma jsonString_injective : Injective jsonString := fun _ _ h =>
  (jsonString_append_inj (congrArg (· ++ ([] : Text)) h)).1

/-! ## Scalars -/

/-- What may stand behind a value: the end of the text, or a character of the syntax. -/
def Delimited (t : Text) : Prop := ∀ c ∈ t.head?, c ∈ [',', ']', '}']

/-- A character of a scalar that has no quotes. -/
def isBare (c : Char) : Bool := c.isAlphanum || c ∈ ['+', '-', '.']

def Scalar.quoted : Scalar → Option Text
  | .text t => some t
  | .date iso => some iso
  | _ => none

lemma Scalar.print_of_quoted (h : s.quoted = some t) : s.print = jsonString t := by
  cases s <;> simp_all [Scalar.quoted, Scalar.print]

lemma isBare_of_isDigit (h : c.isDigit) : isBare c := by
  simp [isBare, Char.isAlphanum, h]

lemma isBare_eq_false (h : l.all fun d => !isBare d) (hc : c ∈ l) : isBare c = false := by
  simpa using all_eq_true.1 h c hc

lemma isBare_bigintText (n : ℤ) : ∀ c ∈ bigintText n, isBare c := by
  intro c hc
  simp only [bigintText, mem_append, mem_singleton] at hc
  rcases hc with (hsign | hdigit) | rfl
  · split at hsign
    · rw [mem_singleton] at hsign
      subst hsign
      decide
    · exact absurd hsign not_mem_nil
  · exact isBare_of_isDigit (isDigit_of_mem_toDigits (by decide) (by decide) hdigit)
  · decide

lemma Scalar.isBare_print (h : s.quoted = none) : ∀ c ∈ s.print, isBare c := by
  cases s with
  | undefined => exact all_eq_true.1 (by decide)
  | null => exact all_eq_true.1 (by decide)
  | bool b => cases b <;> exact all_eq_true.1 (by decide)
  | number n =>
      intro c hc
      rcases n.chars c hc with hdigit | hsign
      · exact isBare_of_isDigit hdigit
      · exact all_eq_true.1 (by decide : ['+', '-', '.', 'e'].all isBare) c hsign
  | text t => exact absurd h (by simp [Scalar.quoted])
  | bigint n => exact isBare_bigintText n
  | date iso => exact absurd h (by simp [Scalar.quoted])

lemma Scalar.print_ne_nil (s : Scalar) : s.print ≠ [] := by
  cases s with
  | undefined => decide
  | null => decide
  | bool b => cases b <;> decide
  | number n => exact n.nonempty
  | text t => exact cons_ne_nil _ _
  | bigint n => simp [Scalar.print, bigintText]
  | date iso => exact cons_ne_nil _ _

lemma Scalar.print_append_inj {r' : Text} (hr : Delimited r) (hr' : Delimited r')
    (h : s.print ++ r = s'.print ++ r') : s.print = s'.print ∧ r = r' := by
  cases hq : s.quoted with
  | some t =>
      cases hq' : s'.quoted with
      | some t' =>
          rw [print_of_quoted hq, print_of_quoted hq'] at h ⊢
          obtain ⟨rfl, hrest⟩ := jsonString_append_inj h
          exact ⟨rfl, hrest⟩
      | none =>
          obtain ⟨c, u, hu⟩ := exists_cons_of_ne_nil s'.print_ne_nil
          have hbare := isBare_print hq' c (hu ▸ mem_cons_self)
          rw [print_of_quoted hq, hu] at h
          rw [← (cons.inj h).1] at hbare
          exact absurd hbare (by decide)
  | none =>
      cases hq' : s'.quoted with
      | some t' =>
          obtain ⟨c, u, hu⟩ := exists_cons_of_ne_nil s.print_ne_nil
          have hbare := isBare_print hq c (hu ▸ mem_cons_self)
          rw [print_of_quoted hq', hu] at h
          rw [(cons.inj h).1] at hbare
          exact absurd hbare (by decide)
      | none =>
          have htake : ∀ (v : Scalar) (t : Text), v.quoted = none → Delimited t →
              (v.print ++ t).takeWhile isBare = v.print := by
            intro v t hv ht
            rw [takeWhile_append_of_pos (isBare_print hv)]
            cases t with
            | nil => simp
            | cons c t =>
                have hc : isBare c = false := isBare_eq_false (by decide) (ht c rfl)
                rw [takeWhile_cons_of_neg (by simp [hc]), append_nil]
          have heq : s.print = s'.print := by
            rw [← htake s r hq hr, h, htake s' r' hq' hr']
          rw [heq] at h
          exact ⟨heq, append_cancel_left h⟩

lemma bigintText_injective : Injective bigintText := by
  intro m n h
  have hdigit : ∀ k : ℤ, '-' ∉ toDigits 10 k.natAbs := fun k hk =>
    absurd (isDigit_of_mem_toDigits (by decide) (by decide) hk) (by decide)
  have hsign : ∀ k : ℤ, '-' ∈ bigintText k ↔ k < 0 := by
    intro k
    unfold bigintText
    split <;> simp_all
  have hneg : m < 0 ↔ n < 0 := by rw [← hsign m, ← hsign n, h]
  have habs : m.natAbs = n.natAbs := by
    have hdigits : toDigits 10 m.natAbs = toDigits 10 n.natAbs := by
      unfold bigintText at h
      by_cases hm : m < 0
      · rw [if_pos hm, if_pos (hneg.1 hm)] at h
        exact append_cancel_left (append_cancel_right h)
      · rw [if_neg hm, if_neg (mt hneg.2 hm)] at h
        exact append_cancel_left (append_cancel_right h)
    rw [← ofDigitChars_ten_toDigits (n := m.natAbs), hdigits, ofDigitChars_ten_toDigits]
  omega

open Classical in
/-- What a scalar stores, told from what it prints. -/
noncomputable def readScalar (big : ℤ → Json) (t : Text) : Json :=
  if t.head? = some '"' then .string (invFun jsonString t)
  else if t = "null".toList then .null
  else if t = "true".toList then .bool true
  else if t = "false".toList then .bool false
  else if 'n' ∈ t then big (invFun bigintText t)
  else .number t

lemma readScalar_jsonString (big : ℤ → Json) (t : Text) :
    readScalar big (jsonString t) = .string t := by
  have hinv := leftInverse_invFun jsonString_injective t
  exact (if_pos rfl).trans (congrArg Json.string hinv)

lemma readScalar_of_chars {big : ℤ → Json} (h : ∀ c ∈ t, c ∉ ['"', 'u', 't', 'f']) :
    readScalar big t = if 'n' ∈ t then big (invFun bigintText t) else .number t := by
  have hne : ∀ (word : Text) (c : Char), c ∈ word → c ∈ ['"', 'u', 't', 'f'] → t ≠ word := by
    rintro word c hc hother rfl
    exact h c hc hother
  have hhead : t.head? ≠ some '"' := fun heq => h '"' (mem_of_mem_head? heq) (by decide)
  rw [readScalar, if_neg hhead, if_neg (hne _ 'u' (by decide) (by decide)),
    if_neg (hne _ 't' (by decide) (by decide)), if_neg (hne _ 'f' (by decide) (by decide))]

lemma not_mem_of_isDigit (h : c.isDigit) : c ∉ ['"', 'u', 't', 'f', 'n'] := by
  intro hc
  have hdigit : (!c.isDigit) = true :=
    all_eq_true.1 (by decide : ['"', 'u', 't', 'f', 'n'].all fun d => !d.isDigit) c hc
  rw [h] at hdigit
  exact absurd hdigit (by decide)

lemma Scalar.stored_eq (big : ℤ → Json) (s : Scalar) : s.stored big = readScalar big s.print := by
  cases s with
  | undefined => rfl
  | null => rfl
  | bool b => cases b <;> rfl
  | number n =>
      have hchars : ∀ c ∈ n.text, c ∉ ['"', 'u', 't', 'f', 'n'] := by
        intro c hc
        rcases n.chars c hc with hdigit | hsign
        · exact not_mem_of_isDigit hdigit
        · have hall : ['+', '-', '.', 'e'].all fun d => d ∉ ['"', 'u', 't', 'f', 'n'] := by decide
          exact of_decide_eq_true (all_eq_true.1 hall c hsign)
      have hother : ∀ c ∈ n.text, c ∉ ['"', 'u', 't', 'f'] := fun c hc hmem =>
        hchars c hc (mem_append_left ['n'] hmem)
      exact ((readScalar_of_chars hother).trans (if_neg fun hn => hchars 'n' hn (by decide))).symm
  | text t => exact (readScalar_jsonString big t).symm
  | bigint n =>
      have hother : ∀ c ∈ bigintText n, c ∉ ['"', 'u', 't', 'f'] := by
        intro c hc hmem
        simp only [bigintText, mem_append, mem_singleton] at hc
        rcases hc with (hsign | hdigit) | rfl
        · split at hsign
          · rw [mem_singleton] at hsign
            subst hsign
            exact absurd hmem (by decide)
          · exact absurd hsign not_mem_nil
        · exact not_mem_of_isDigit (isDigit_of_mem_toDigits (by decide) (by decide) hdigit)
            (mem_append_left ['n'] hmem)
        · exact absurd hmem (by decide)
      have hn : 'n' ∈ bigintText n := mem_append_right _ mem_cons_self
      have hinv := leftInverse_invFun bigintText_injective n
      exact ((readScalar_of_chars hother).trans ((if_pos hn).trans (congrArg big hinv))).symm
  | date iso => exact (readScalar_jsonString big iso).symm

lemma Scalar.stored_of_print (big : ℤ → Json) (h : s.print = s'.print) :
    s.stored big = s'.stored big := by
  rw [s.stored_eq, h, ← s'.stored_eq]

/-! ## Tokens -/

/-- A piece of the syntax.  A key comes with the colon behind it. -/
inductive Token
  | openObject
  | closeObject
  | openArray
  | closeArray
  | comma
  | key (k : Text)
  | leaf (t : Text)

def Token.spell : Token → Text
  | openObject => ['{']
  | closeObject => ['}']
  | openArray => ['[']
  | closeArray => [']']
  | comma => [',']
  | key k => k ++ [':']
  | leaf t => t

def spell (ts : List Token) : Text := ts.flatMap Token.spell

mutual

def tokens : Snapshot → List Token
  | .scalar s => [.leaf s.print]
  | .array [] => [.openArray, .closeArray]
  | .array (x :: xs) => .openArray :: (tokens x ++ itemsAfter xs)
  | .object [] => [.openObject, .closeObject]
  | .object ((k, x) :: ps) => .openObject :: .key k :: (tokens x ++ propertiesAfter ps)

/-- The items behind the first one. -/
def itemsAfter : List Snapshot → List Token
  | [] => [.closeArray]
  | x :: xs => .comma :: (tokens x ++ itemsAfter xs)

def propertiesAfter : List (Text × Snapshot) → List Token
  | [] => [.closeObject]
  | (k, x) :: ps => .comma :: .key k :: (tokens x ++ propertiesAfter ps)

end

@[simp] lemma spell_cons (t : Token) (ts : List Token) :
    spell (t :: ts) = t.spell ++ spell ts := rfl

@[simp] lemma spell_nil : spell [] = [] := rfl

@[simp] lemma spell_append (ts us : List Token) : spell (ts ++ us) = spell ts ++ spell us :=
  flatMap_append

/-! ## The rendering as tokens -/

lemma map_byKey {β : Type} (f : α → β) (ps : List (Text × α)) :
    (byKey ps).map (fun p => (p.1, f p.2)) = byKey (ps.map fun p => (p.1, f p.2)) :=
  map_mergeSort fun _ _ _ _ => rfl

lemma joined_items (x : Snapshot) (xs : List Snapshot) :
    joined ((x :: xs).map fun y => spell (tokens y)) ++ [']'] =
      spell (tokens x) ++ spell (itemsAfter xs) := by
  induction xs generalizing x with
  | nil => simp [joined, itemsAfter, Token.spell, intercalate]
  | cons y ys ih =>
      have htail := ih y
      simp only [joined, map_cons] at htail ⊢
      rw [intercalate_cons_cons, append_assoc, htail]
      simp [itemsAfter, Token.spell]

lemma joined_properties (p : Text × Snapshot) (ps : List (Text × Snapshot)) :
    joined ((p :: ps).map fun q => q.1 ++ ':' :: spell (tokens q.2)) ++ ['}'] =
      p.1 ++ ':' :: (spell (tokens p.2) ++ spell (propertiesAfter ps)) := by
  induction ps generalizing p with
  | nil => simp [joined, propertiesAfter, Token.spell, intercalate]
  | cons q qs ih =>
      have htail := ih q
      simp only [joined, map_cons] at htail ⊢
      rw [intercalate_cons_cons, append_assoc, htail]
      simp [propertiesAfter, Token.spell]

mutual

/-- The rendering spells the tokens of the snapshot with its keys in order. -/
theorem stable_eq : ∀ x : Snapshot, stable x = spell (tokens (ordered x))
  | .scalar s => by simp [stable, ordered, tokens, Token.spell]
  | .array items => by
      rw [stable, stableItems_eq items, ordered]
      cases orderedItems items with
      | nil => rfl
      | cons x xs => rw [cons_append, joined_items]; simp [tokens, Token.spell]
  | .object properties => by
      rw [stable, stableProperties_eq properties, ← map_byKey fun y => spell (tokens y),
        map_map, ordered]
      cases byKey (orderedProperties properties) with
      | nil => rfl
      | cons p ps =>
          rw [cons_append]
          refine (congrArg ('{' :: ·) (joined_properties p ps)).trans ?_
          simp [tokens, Token.spell]

theorem stableItems_eq : ∀ xs : List Snapshot,
    stableItems xs = (orderedItems xs).map fun y => spell (tokens y)
  | [] => rfl
  | x :: xs => by
      rw [stableItems, orderedItems, map_cons, stable_eq x, stableItems_eq xs]

theorem stableProperties_eq : ∀ ps : List (Text × Snapshot),
    stableProperties ps = (orderedProperties ps).map fun p => (p.1, spell (tokens p.2))
  | [] => rfl
  | (k, x) :: ps => by
      rw [stableProperties, orderedProperties, map_cons, stable_eq x, stableProperties_eq ps]

end

/-! ## Reading -/

/-- A place where the reading can go two ways: a key, or a longer one that starts with it and its
colon; the end of an empty object, or a key that starts with a brace. -/
inductive ClashAt : Token → Token → Prop
  | key (k w : Text) : ClashAt (.key k) (.key (k ++ ':' :: w))
  | close (w : Text) : ClashAt .closeObject (.key ('}' :: w))

/-- Two sequences of tokens are alike up to such a place. -/
def Clash (ts us : List Token) : Prop :=
  ∃ (alike : List Token) (t u : Token) (ts' us' : List Token),
    ts = alike ++ t :: ts' ∧ us = alike ++ u :: us' ∧ (ClashAt t u ∨ ClashAt u t)

variable {ts us : List Token}

lemma Clash.append (h : Clash ts us) (alike : List Token) : Clash (alike ++ ts) (alike ++ us) := by
  obtain ⟨alike', t, u, ts', us', rfl, rfl, hclash⟩ := h
  exact ⟨alike ++ alike', t, u, ts', us', by simp, by simp, hclash⟩

lemma Clash.head {t u : Token} (h : ClashAt t u ∨ ClashAt u t) (ts us : List Token) :
    Clash (t :: ts) (u :: us) :=
  ⟨[], t, u, ts, us, rfl, rfl, h⟩

lemma key_eq_of_spell {k' : Text} (hclash : ¬ Clash (.key k :: ts) (.key k' :: us))
    (h : spell (.key k :: ts) = spell (.key k' :: us)) : k = k' := by
  simp only [spell_cons, Token.spell, append_assoc, cons_append, nil_append] at h
  rcases append_eq_append_iff.1 h with ⟨w, hk, htail⟩ | ⟨w, hk, htail⟩
  · rcases w with _ | ⟨c, w⟩
    · simpa using hk.symm
    · obtain ⟨rfl, -⟩ := cons.inj htail
      exact absurd (Clash.head (.inl (hk ▸ .key k w)) ts us) hclash
  · rcases w with _ | ⟨c, w⟩
    · simpa using hk
    · obtain ⟨rfl, -⟩ := cons.inj htail
      exact absurd (Clash.head (.inr (hk ▸ .key k' w)) ts us) hclash

lemma close_ne_key (hclash : ¬ Clash (.closeObject :: ts) (.key k :: us)) :
    spell (.closeObject :: ts) ≠ spell (.key k :: us) := by
  intro h
  cases k with
  | nil => exact absurd (cons.inj h).1 (by decide)
  | cons c w =>
      obtain rfl : '}' = c := (cons.inj h).1
      exact hclash (Clash.head (.inl (.close w)) ts us)

lemma Clash.symm (h : Clash ts us) : Clash us ts := by
  obtain ⟨alike, t, u, ts', us', hts, hus, hclash⟩ := h
  exact ⟨alike, u, t, us', ts', hus, hts, hclash.symm⟩

/-- The first character of a value is none that may stand behind one. -/
lemma head_spell_tokens (x : Snapshot) :
    ∃ c t, spell (tokens x) = c :: t ∧ c ∉ [',', ']', '}'] := by
  match x with
  | .scalar s =>
      obtain ⟨c, u, hu⟩ := exists_cons_of_ne_nil s.print_ne_nil
      refine ⟨c, u, by simpa [tokens, Token.spell] using hu, fun hc => ?_⟩
      cases hq : s.quoted with
      | some t =>
          rw [Scalar.print_of_quoted hq] at hu
          rw [← (cons.inj hu).1] at hc
          exact absurd hc (by decide)
      | none =>
          have hbare := Scalar.isBare_print hq c (hu ▸ mem_cons_self)
          rw [isBare_eq_false (by decide) hc] at hbare
          exact absurd hbare (by decide)
  | .array [] => exact ⟨_, _, rfl, by decide⟩
  | .array (_ :: _) => exact ⟨_, _, rfl, by decide⟩
  | .object [] => exact ⟨_, _, rfl, by decide⟩
  | .object (_ :: _) => exact ⟨_, _, rfl, by decide⟩

lemma delimited_itemsAfter (xs : List Snapshot) (ts : List Token) :
    Delimited (spell (itemsAfter xs ++ ts)) := by
  cases xs <;> simp [itemsAfter, Token.spell, Delimited]

lemma delimited_propertiesAfter (ps : List (Text × Snapshot)) (ts : List Token) :
    Delimited (spell (propertiesAfter ps ++ ts)) := by
  cases ps <;> simp [propertiesAfter, Token.spell, Delimited]

lemma rest_of_spell (alike : List Token) (h : spell (alike ++ ts) = spell (alike ++ us)) :
    spell ts = spell us := by
  rw [spell_append, spell_append] at h
  exact append_cancel_left h

structure SameReading {α : Type} (tokensOf : α → List Token) {β : Type} (columnOf : α → β)
    (x y : α) (ts us : List Token) : Prop where
  tokens : tokensOf x = tokensOf y
  column : columnOf x = columnOf y
  rest : spell ts = spell us

/-- The bracket that a value starts with. -/
def Snapshot.opening : Snapshot → Option Char
  | .scalar _ => none
  | .array _ => some '['
  | .object _ => some '{'

lemma Scalar.head_print (s : Scalar) : ∀ c ∈ s.print.head?, c ∉ ['[', '{'] := by
  intro c hc hbracket
  cases hq : s.quoted with
  | some t =>
      rw [print_of_quoted hq] at hc
      obtain rfl : '"' = c := Option.some.inj hc
      exact absurd hbracket (by decide)
  | none =>
      have hbare := isBare_print hq c (mem_of_mem_head? hc)
      rw [isBare_eq_false (by decide) hbracket] at hbare
      exact absurd hbare (by decide)

lemma opening_eq (x : Snapshot) :
    x.opening = (spell (tokens x)).head?.filter fun c => c ∈ ['[', '{'] := by
  match x with
  | .scalar s =>
      have hnone : s.print.head?.filter (fun c => c ∈ ['[', '{']) = none :=
        Option.filter_eq_none_iff.2 fun c hc => by simpa using s.head_print c hc
      simpa [Snapshot.opening, tokens, Token.spell] using hnone.symm
  | .array [] => rfl
  | .array (_ :: _) => rfl
  | .object [] => rfl
  | .object (_ :: _) => rfl

lemma opening_eq_of_spell (h : spell (tokens x ++ ts) = spell (tokens y ++ us)) :
    x.opening = y.opening := by
  have hhead : ∀ (z : Snapshot) (vs : List Token),
      (spell (tokens z ++ vs)).head? = (spell (tokens z)).head? := by
    intro z vs
    obtain ⟨c, t, ht, -⟩ := head_spell_tokens z
    rw [spell_append, ht]
    rfl
  rw [opening_eq x, opening_eq y, ← hhead x ts, ← hhead y us, h]

mutual

/-- **A value is read in one way**, where no key clashes. -/
theorem read_value (big : ℤ → Json) : ∀ (x y : Snapshot) (ts us : List Token),
    Delimited (spell ts) → Delimited (spell us) → ¬ Clash (tokens x ++ ts) (tokens y ++ us) →
      spell (tokens x ++ ts) = spell (tokens y ++ us) → SameReading tokens (column big) x y ts us
  | .scalar s, .scalar s', ts, us, hts, hus, _, h => by
      simp only [spell_append, tokens, spell_cons, Token.spell, spell_nil, append_nil] at h
      obtain ⟨hprint, hrest⟩ := Scalar.print_append_inj hts hus h
      exact ⟨by rw [tokens, hprint, tokens], Scalar.stored_of_print big hprint, hrest⟩
  | .array [], .array [], ts, us, _, _, _, h => by
      exact ⟨rfl, rfl, rest_of_spell [.openArray, .closeArray] h⟩
  | .array [], .array (y :: ys), ts, us, _, _, _, h => by
      obtain ⟨c, t, ht, hc⟩ := head_spell_tokens y
      simp only [tokens, spell_append, spell_cons, cons_append, ht, Token.spell,
        nil_append, cons.injEq, true_and] at h
      exact absurd (by simp [← h.1]) hc
  | .array (x :: xs), .array [], ts, us, _, _, _, h => by
      obtain ⟨c, t, ht, hc⟩ := head_spell_tokens x
      simp only [tokens, spell_append, spell_cons, cons_append, ht, Token.spell,
        nil_append, cons.injEq, true_and] at h
      exact absurd (by simp [h.1]) hc
  | .array (x :: xs), .array (y :: ys), ts, us, _, _, hclash, h => by
      simp only [tokens, cons_append, append_assoc] at hclash h
      have hfirst := read_value big x y (itemsAfter xs ++ ts) (itemsAfter ys ++ us)
        (delimited_itemsAfter xs ts) (delimited_itemsAfter ys us)
        (fun hc => hclash (hc.append [.openArray])) (rest_of_spell [.openArray] h)
      have hitems := read_items big xs ys ts us
        (fun hc => hclash (hfirst.tokens ▸ hc.append (.openArray :: tokens x))) hfirst.rest
      exact ⟨by rw [tokens, tokens, hfirst.tokens, hitems.tokens],
        by rw [column, column, columnItems, columnItems, hfirst.column, hitems.column], hitems.rest⟩
  | .object [], .object [], ts, us, _, _, _, h => by
      exact ⟨rfl, rfl, rest_of_spell [.openObject, .closeObject] h⟩
  | .object [], .object ((k, y) :: ps), ts, us, _, _, hclash, h => by
      refine absurd (rest_of_spell [.openObject] h) (close_ne_key fun hc => ?_)
      exact hclash (hc.append [.openObject])
  | .object ((k, x) :: ps), .object [], ts, us, _, _, hclash, h => by
      refine absurd (rest_of_spell [.openObject] h).symm (close_ne_key fun hc => ?_)
      exact hclash (hc.symm.append [.openObject])
  | .object ((k, x) :: ps), .object ((l, y) :: qs), ts, us, _, _, hclash, h => by
      simp only [tokens, cons_append, append_assoc] at hclash h
      obtain rfl := key_eq_of_spell (fun hc => hclash (hc.append [.openObject]))
        (rest_of_spell [.openObject] h)
      have hfirst := read_value big x y (propertiesAfter ps ++ ts) (propertiesAfter qs ++ us)
        (delimited_propertiesAfter ps ts) (delimited_propertiesAfter qs us)
        (fun hc => hclash (hc.append [.openObject, .key k]))
        (rest_of_spell [.openObject, .key k] h)
      have hprops := read_properties big ps qs ts us
        (fun hc => hclash (hfirst.tokens ▸ hc.append (.openObject :: .key k :: tokens x)))
        hfirst.rest
      exact ⟨by rw [tokens, tokens, hfirst.tokens, hprops.tokens],
        by rw [column, column, columnProperties, columnProperties, hfirst.column, hprops.column],
        hprops.rest⟩
  | .scalar _, .array _, _, _, _, _, _, h =>
      absurd (opening_eq_of_spell h) (by simp [Snapshot.opening])
  | .scalar _, .object _, _, _, _, _, _, h =>
      absurd (opening_eq_of_spell h) (by simp [Snapshot.opening])
  | .array _, .scalar _, _, _, _, _, _, h =>
      absurd (opening_eq_of_spell h) (by simp [Snapshot.opening])
  | .array _, .object _, _, _, _, _, _, h =>
      absurd (opening_eq_of_spell h) (by simp [Snapshot.opening])
  | .object _, .scalar _, _, _, _, _, _, h =>
      absurd (opening_eq_of_spell h) (by simp [Snapshot.opening])
  | .object _, .array _, _, _, _, _, _, h =>
      absurd (opening_eq_of_spell h) (by simp [Snapshot.opening])

theorem read_items (big : ℤ → Json) : ∀ (xs ys : List Snapshot) (ts us : List Token),
    ¬ Clash (itemsAfter xs ++ ts) (itemsAfter ys ++ us) →
      spell (itemsAfter xs ++ ts) = spell (itemsAfter ys ++ us) →
        SameReading itemsAfter (columnItems big) xs ys ts us
  | [], [], ts, us, _, h => ⟨rfl, rfl, rest_of_spell [.closeArray] h⟩
  | [], _ :: _, _, _, _, h => absurd (cons.inj h).1 (by decide)
  | _ :: _, [], _, _, _, h => absurd (cons.inj h).1 (by decide)
  | x :: xs, y :: ys, ts, us, hclash, h => by
      simp only [itemsAfter, cons_append, append_assoc] at hclash h
      have hfirst := read_value big x y (itemsAfter xs ++ ts) (itemsAfter ys ++ us)
        (delimited_itemsAfter xs ts) (delimited_itemsAfter ys us)
        (fun hc => hclash (hc.append [.comma])) (rest_of_spell [.comma] h)
      have hitems := read_items big xs ys ts us
        (fun hc => hclash (hfirst.tokens ▸ hc.append (.comma :: tokens x))) hfirst.rest
      exact ⟨by rw [itemsAfter, itemsAfter, hfirst.tokens, hitems.tokens],
        by rw [columnItems, columnItems, hfirst.column, hitems.column], hitems.rest⟩

theorem read_properties (big : ℤ → Json) : ∀ (ps qs : List (Text × Snapshot)) (ts us : List Token),
    ¬ Clash (propertiesAfter ps ++ ts) (propertiesAfter qs ++ us) →
      spell (propertiesAfter ps ++ ts) = spell (propertiesAfter qs ++ us) →
        SameReading propertiesAfter (columnProperties big) ps qs ts us
  | [], [], ts, us, _, h => ⟨rfl, rfl, rest_of_spell [.closeObject] h⟩
  | [], (_, _) :: _, _, _, _, h => absurd (cons.inj h).1 (by decide)
  | (_, _) :: _, [], _, _, _, h => absurd (cons.inj h).1 (by decide)
  | (k, x) :: ps, (l, y) :: qs, ts, us, hclash, h => by
      simp only [propertiesAfter, cons_append, append_assoc] at hclash h
      obtain rfl := key_eq_of_spell (fun hc => hclash (hc.append [.comma]))
        (rest_of_spell [.comma] h)
      have hfirst := read_value big x y (propertiesAfter ps ++ ts) (propertiesAfter qs ++ us)
        (delimited_propertiesAfter ps ts) (delimited_propertiesAfter qs us)
        (fun hc => hclash (hc.append [.comma, .key k]))
        (rest_of_spell [.comma, .key k] h)
      have hprops := read_properties big ps qs ts us
        (fun hc => hclash (hfirst.tokens ▸ hc.append (.comma :: .key k :: tokens x))) hfirst.rest
      exact ⟨by rw [propertiesAfter, propertiesAfter, hfirst.tokens, hprops.tokens],
        by rw [columnProperties, columnProperties, hfirst.column, hprops.column], hprops.rest⟩

end

/-! ## The trail -/

lemma stored_of_stable (big : ℤ → Json) (hclash : ¬ Clash (tokens (ordered x)) (tokens (ordered y)))
    (h : stable x = stable y) :
    stored big x = stored big y := by
  have hend : Delimited (spell []) := by simp [Delimited]
  rw [stable_eq, stable_eq] at h
  rw [← append_nil (tokens (ordered x)), ← append_nil (tokens (ordered y))] at hclash h
  exact (read_value big _ _ [] [] hend hend hclash h).column

lemma dropped_iff {tenantId userId : Option Text} {entry : AuditEntry} {trail : List AuditRow} :
    (recordIfChanged tenantId userId entry trail).1 = false ↔
      stable entry.before = stable entry.after := by
  unfold recordIfChanged
  split <;> simp_all

/-- The row is dropped only where both sides store the same, unless the keys of the two clash. -/
theorem dropped_same (big : ℤ → Json) (tenantId userId : Option Text) (entry : AuditEntry)
    (trail : List AuditRow)
    (hclash : ¬ Clash (tokens (ordered entry.before)) (tokens (ordered entry.after)))
    (hdropped : (recordIfChanged tenantId userId entry trail).1 = false) :
    stored big entry.before = stored big entry.after :=
  stored_of_stable big hclash (dropped_iff.1 hdropped)

lemma ClashAt.ne {t u : Token} (h : ClashAt t u) : t ≠ u := by
  cases h with
  | key k w =>
      intro heq
      have hlength := congrArg length (Token.key.inj heq)
      simp at hlength
  | close w => exact nofun

lemma not_clash_self (ts : List Token) : ¬ Clash ts ts := by
  rintro ⟨alike, t, u, ts', us', hts, hus, hclash⟩
  cases append_cancel_left (hts.symm.trans hus)
  rcases hclash with h | h <;> exact h.ne rfl

lemma byKey_pair (x y : α) (h : k.flatMap charUnits ≤ l.flatMap charUnits) :
    byKey [(k, x), (l, y)] = [(k, x), (l, y)] :=
  mergeSort_of_pairwise (by simpa using h)

lemma byKey_one (p : Text × α) : byKey [p] = [p] := mergeSort_singleton p

lemma a_before_b : (['a'] : Text).flatMap charUnits ≤ (['b'] : Text).flatMap charUnits := by decide

def digitOne : NumberLiteral := ⟨['1'], by simp, by simp, by simp⟩

/-- A property that is null, or not there. -/
def cleared (s : Scalar) : Snapshot :=
  .object [(['a'], .scalar (.number digitOne)), (['b'], .scalar s)]

lemma ordered_cleared (s : Scalar) : ordered (cleared s) = cleared s := by
  simp only [cleared, ordered, orderedProperties, byKey_pair _ _ a_before_b]

lemma tokens_cleared :
    tokens (ordered (cleared .null)) = tokens (ordered (cleared .undefined)) := by
  simp only [ordered_cleared]
  simp only [cleared, tokens, propertiesAfter, Scalar.print]

theorem dropped_same_cleared :
    stored (fun _ => .null) (cleared .null) = stored (fun _ => .null) (cleared .undefined) :=
  dropped_same _ none none ⟨[], [], cleared .null, cleared .undefined⟩ []
    (tokens_cleared ▸ not_clash_self _)
    (dropped_iff.2 (by rw [stable_eq, tokens_cleared, ← stable_eq]))

/-- Every object of two properties prints like another one of a single property. -/
theorem two_properties_print_as_one (x y : Snapshot)
    (h : k.flatMap charUnits ≤ l.flatMap charUnits) :
    stable (.object [(k, x), (l, y)]) =
      stable (.object [(k ++ ':' :: stable x ++ ',' :: l, y)]) := by
  simp only [stable, stableProperties, byKey_pair _ _ h, byKey_one]
  simp [joined, intercalate]

/-- Two properties. -/
def separate : Snapshot :=
  .object [(['a'], .scalar (.number digitOne)), (['b'], .scalar (.number digitOne))]

/-- One property, whose key has a colon and a comma. -/
def merged : Snapshot :=
  .object [(['a'] ++ ':' :: stable (.scalar (.number digitOne)) ++ ',' :: ['b'],
    .scalar (.number digitOne))]

lemma ordered_separate : ordered separate = separate := by
  simp only [separate, ordered, orderedProperties, byKey_pair _ _ a_before_b]

lemma ordered_merged : ordered merged = merged := by
  simp only [merged, ordered, orderedProperties, byKey_one]

/-- The change from the one to the other is not in the trail. -/
theorem merged_dropped : ¬ ∀ (big : ℤ → Json) (tenantId userId : Option Text) (entry : AuditEntry)
    (trail : List AuditRow), (recordIfChanged tenantId userId entry trail).1 = false →
      stored big entry.before = stored big entry.after := by
  intro h
  have hprint : stable separate = stable merged := two_properties_print_as_one _ _ a_before_b
  have hstored := h (fun _ => .null) none none ⟨[], [], separate, merged⟩ [] (dropped_iff.2 hprint)
  have hcolumn : column (fun _ => .null) separate = column (fun _ => .null) merged := by
    rw [← ordered_separate, ← ordered_merged]
    exact hstored
  simp [separate, merged, column, columnProperties, Scalar.stored] at hcolumn

end Orbetra.Audit
