import Orbetra.Webhook.Guard

/-!
# Expanding an address

`v6ToBytes` of every textual form: a trailing quad is folded into two groups, the gap is the only
double colon, and each group gives its two bytes unless it has a capital letter.  A zone leaves its
percent sign in some group, which is then no group.
-/

namespace Orbetra.Guard

open IpText List Nat

/-! ## Joined pieces -/

variable {α : Type} {c : Char} {n : ℕ} {groups : List Group} {text before ip : Text}

lemma mem_intercalate {c sep : α} {pieces : List (List α)} (h : c ∈ [sep].intercalate pieces) :
    c = sep ∨ ∃ p ∈ pieces, c ∈ p := by
  induction pieces with
  | nil => simp at h
  | cons p pieces ih =>
    cases pieces with
    | nil => exact .inr ⟨p, by simp, by simpa using h⟩
    | cons p' pieces =>
      rw [intercalate_cons_cons, mem_append, mem_append, mem_singleton] at h
      rcases h with (h | h) | h
      · exact .inr ⟨p, by simp, h⟩
      · exact .inl h
      · exact (ih h).imp_right fun ⟨q, hq, hc⟩ => ⟨q, mem_cons_of_mem p hq, hc⟩

lemma map_intercalate (f : α → α) {sep : α} (hsep : f sep = sep) (pieces : List (List α)) :
    ([sep].intercalate pieces).map f = [sep].intercalate (pieces.map (map f)) := by
  induction pieces with
  | nil => rfl
  | cons p pieces ih =>
    cases pieces with
    | nil => simp
    | cons p' pieces =>
      rw [intercalate_cons_cons, map_append, map_append, ih]
      simp [hsep, intercalate_cons_cons]

/-! ## Dotted quads -/

lemma isDigit_of_mem_decimal (h : c ∈ toDigits 10 n) : c.isDigit = true :=
  isDigit_of_mem_toDigits (by decide) (by decide) h

lemma number_decimal (n : ℕ) : number (toDigits 10 n) = some n := by
  have hdigits : (toDigits 10 n).all Char.isDigit = true :=
    all_eq_true.2 fun c hc => isDigit_of_mem_decimal hc
  rw [number, if_pos ⟨toDigits_ne_nil, hdigits⟩, ofDigitChars_ten_toDigits]

lemma splitOn_quad (q : Quad) : q.text.splitOn '.' = q.octets.map (toDigits 10) := by
  refine splitOn_intercalate _ (fun piece hpiece hdot => ?_) (by simp [Quad.octets])
  obtain ⟨n, -, rfl⟩ := mem_map.1 hpiece
  exact absurd (isDigit_of_mem_decimal hdot) (by decide)

lemma numbers_quad (q : Quad) : (q.text.splitOn '.').map number = q.octets.map some := by
  rw [splitOn_quad, map_map]
  exact map_congr_left fun n _ => number_decimal n

lemma mem_quad {q : Quad} (h : c ∈ q.text) : c.isDigit = true ∨ c = '.' := by
  rcases mem_intercalate h with h | ⟨piece, hpiece, hc⟩
  · exact .inr h
  · obtain ⟨n, -, rfl⟩ := mem_map.1 hpiece
    exact .inl (isDigit_of_mem_decimal hc)

lemma octets_lt (q : Quad) : ∀ n ∈ q.octets, n < 256 := by
  intro n hn
  simp only [Quad.octets, mem_cons, not_mem_nil, or_false] at hn
  rcases hn with rfl | rfl | rfl | rfl
  · exact q.a.isLt
  · exact q.b.isLt
  · exact q.c.isLt
  · exact q.d.isLt

lemma isDotted_quad (q : Quad) : isDotted q.text = true := by
  have hparts : ∀ n ∈ q.octets, (!(toDigits 10 n).isEmpty &&
      decide ((toDigits 10 n).length ≤ 3) && (toDigits 10 n).all Char.isDigit) = true := by
    intro n hn
    have hshort : (toDigits 10 n).length ≤ 3 :=
      (length_toDigits_le_iff (by decide) (by decide)).2 ((octets_lt q n hn).trans_le (by decide))
    have hall : (toDigits 10 n).all Char.isDigit = true :=
      all_eq_true.2 fun c hc => isDigit_of_mem_decimal hc
    simp [hshort, hall, toDigits_ne_nil]
  rw [isDotted, splitOn_quad, all_map]
  exact Bool.and_eq_true_iff.2 ⟨rfl, all_eq_true.2 hparts⟩

/-! ## Groups -/

lemma hexValue_digitChar : ∀ d < 16, hexValue d.digitChar = d := by decide

lemma isGroupDigit_digitChar : ∀ d < 16, isGroupDigit d.digitChar = true := by
  decide +kernel

lemma hexNumber_concat (text : List Char) (c : Char) :
    hexNumber (text ++ [c]) = 16 * hexNumber text + hexValue c := by
  rw [hexNumber, map_append, map_singleton, ofDigits_append_singleton, hexNumber]

lemma hexNumber_hexadecimal (n : ℕ) : hexNumber (Nat.toDigits 16 n) = n := by
  induction n using Nat.strong_induction_on with
  | _ n ih =>
    rcases Nat.lt_or_ge n 16 with hn | hn
    · rw [toDigits_of_lt_base hn]
      exact (by simp [hexNumber, IpText.ofDigits] :
        hexNumber [n.digitChar] = hexValue n.digitChar).trans (hexValue_digitChar n hn)
    · rw [toDigits_of_base_le (by decide) hn, hexNumber_concat, ih (n / 16) (by omega),
        hexValue_digitChar _ (mod_lt n (by decide)), div_add_mod]

lemma isGroupDigit_of_mem_hexadecimal (h : c ∈ toDigits 16 n) : isGroupDigit c = true := by
  induction n using Nat.strong_induction_on with
  | _ n ih =>
    rcases Nat.lt_or_ge n 16 with hn | hn
    · rw [toDigits_of_lt_base hn, mem_singleton] at h
      exact h ▸ isGroupDigit_digitChar n hn
    · rw [toDigits_of_base_le (by decide) hn, mem_append, mem_singleton] at h
      rcases h with h | h
      · exact ih (n / 16) (by omega) h
      · exact h ▸ isGroupDigit_digitChar _ (mod_lt n (by decide))

lemma isHex_of_isGroupDigit (h : isGroupDigit c = true) : isHex c = true := by
  simp only [isGroupDigit] at h
  simp [isHex, h]

def groupOf (w : ℕ) (hw : w < 65536) : Group where
  text := toDigits 16 w
  nonempty := toDigits_ne_nil
  short := (length_toDigits_le_iff (by decide) (by decide)).2 hw
  hex _ hc := isHex_of_isGroupDigit (isGroupDigit_of_mem_hexadecimal hc)

@[simp] lemma groupOf_value (w : ℕ) (hw : w < 65536) : (groupOf w hw).value = w :=
  hexNumber_hexadecimal w

lemma hextet_eq (hi lo : Fin 256) : hextet hi lo = toDigits 16 (hi * 256 + lo) := by
  rw [hextet, ← shiftLeft_add_eq_or_of_lt lo.isLt, shiftLeft_eq]

lemma groupBytes_group (g : Group) :
    groupBytes g.text =
      if g.text.all isGroupDigit then some [g.value / 256, g.value % 256] else none := by
  have hhigh : g.value >>> 8 &&& 0xff = g.value / 256 := by
    rw [shiftRight_eq_div_pow]
    exact (Nat.and_two_pow_sub_one_eq_mod _ 8).trans
      (Nat.mod_eq_of_lt (Nat.div_lt_of_lt_mul g.value_lt))
  have hlow : g.value &&& 0xff = g.value % 256 := Nat.and_two_pow_sub_one_eq_mod _ 8
  simp only [groupBytes, g.nonempty, g.short, ne_eq, not_false_eq_true, true_and]
  by_cases hall : g.text.all isGroupDigit = true
  · rw [if_pos hall, if_pos hall]
    exact congrArg some (by rw [show hexNumber g.text = g.value from rfl, hhigh, hlow])
  · rw [if_neg hall, if_neg hall]

lemma bytesOf_groups (height : groups.length = 8) :
    bytesOf (groups.map Group.text) =
      if groups.all fun g => g.text.all isGroupDigit then
        some ((groups.map Group.value).flatMap fun w => [w / 256, w % 256])
      else none := by
  have hall : ∀ gs : List Group, ((gs.map Group.text).mapM groupBytes).map flatten =
      if gs.all fun g => g.text.all isGroupDigit then
        some ((gs.map Group.value).flatMap fun w => [w / 256, w % 256])
      else none := by
    intro gs
    induction gs with
    | nil => rfl
    | cons g gs ih =>
      rw [map_cons, mapM_cons, groupBytes_group]
      by_cases hg : g.text.all isGroupDigit = true
      · cases hrest : (gs.map Group.text).mapM groupBytes with
        | none =>
          rw [hrest] at ih
          split at ih
          · exact nomatch ih
          · next hnot => simp [hg, hnot]
        | some rest =>
          rw [hrest] at ih
          split at ih
          · next hyes =>
            simp only [Option.map_some, Option.some.injEq] at ih
            simp [hg, hyes, ih]
          · exact nomatch ih
      · simp [hg]
  rw [bytesOf, if_neg (by simpa using height), hall]

/-! ## The double colon -/

lemma colon_notMem_group (g : Group) : ':' ∉ g.text := fun h => absurd (g.hex _ h) (by decide)

lemma splitGap_append {piece : Text} (h : ':' ∉ piece) (rest : Text) :
    splitGap (piece ++ rest) = (splitGap rest).modifyHead (piece ++ ·) := by
  induction piece with
  | nil => cases h : splitGap rest <;> simp [h]
  | cons c piece ih =>
    have hc : ':' ≠ c := fun heq => h (heq ▸ mem_cons_self)
    have hpiece : ':' ∉ piece := fun hmem => h (mem_cons_of_mem c hmem)
    have hstep : splitGap (c :: (piece ++ rest)) =
        (splitGap (piece ++ rest)).modifyHead (c :: ·) := by
      rw [splitGap]
      intro rest' hcolon
      exact absurd hcolon.symm hc
    rw [cons_append, hstep, ih hpiece]
    cases splitGap rest <;> rfl

lemma splitGap_colon (hc : c ≠ ':') (rest : Text) :
    splitGap (':' :: c :: rest) = (splitGap (c :: rest)).modifyHead (':' :: ·) := by
  rw [splitGap]
  intro rest' _ hcons
  exact absurd (cons.inj hcons).1 hc

lemma splitGap_colons (groups : List Group) (rest : Text) :
    splitGap (colons (groups.map Group.text) ++ rest) =
      (splitGap rest).modifyHead (colons (groups.map Group.text) ++ ·) := by
  induction groups with
  | nil => cases h : splitGap rest <;> simp [colons, h]
  | cons g groups ih =>
    cases groups with
    | nil => simpa [colons] using splitGap_append (colon_notMem_group g) rest
    | cons g' groups =>
      obtain ⟨c, text, htext⟩ := exists_cons_of_ne_nil g'.nonempty
      have hc : c ≠ ':' := fun heq => colon_notMem_group g' (by rw [htext, heq]; simp)
      have hhead : ∃ tail, colons ((g' :: groups).map Group.text) = c :: tail := by
        cases groups with
        | nil => exact ⟨text, by simp [colons, htext]⟩
        | cons g'' groups =>
          exact ⟨_, by
            rw [map_cons, map_cons, colons, intercalate_cons_cons, htext]; rfl⟩
      obtain ⟨tail, htail⟩ := hhead
      have hcolons : colons ((g :: g' :: groups).map Group.text) =
          g.text ++ ':' :: colons ((g' :: groups).map Group.text) := by
        simp [colons, intercalate_cons_cons]
      have hcolon : splitGap (':' :: (colons ((g' :: groups).map Group.text) ++ rest)) =
          (splitGap (colons ((g' :: groups).map Group.text) ++ rest)).modifyHead (':' :: ·) := by
        rw [htail]
        exact splitGap_colon hc _
      rw [hcolons, append_assoc, cons_append, splitGap_append (colon_notMem_group g), hcolon, ih]
      cases splitGap rest <;> simp

lemma groupsOf_colons (groups : List Group) :
    groupsOf (colons (groups.map Group.text)) = groups.map Group.text := by
  cases groups with
  | nil => rfl
  | cons g groups =>
    have hne : colons ((g :: groups).map Group.text) ≠ [] := by
      obtain ⟨c, text, htext⟩ := exists_cons_of_ne_nil g.nonempty
      cases groups <;> simp [colons, intercalate_cons_cons, htext]
    rw [groupsOf, if_neg hne]
    refine splitOn_intercalate _ (fun piece hpiece => ?_) (by simp)
    obtain ⟨g', -, rfl⟩ := mem_map.1 hpiece
    exact colon_notMem_group g'

/-! ## The trailing quad -/

lemma colons_append {ps qs : List Text} (hp : ps ≠ []) (hq : qs ≠ []) :
    colons (ps ++ qs) = colons ps ++ ':' :: colons qs := by
  induction ps with
  | nil => exact absurd rfl hp
  | cons p ps ih =>
    cases ps with
    | nil =>
      obtain ⟨q, qs, rfl⟩ := exists_cons_of_ne_nil hq
      simp [colons, intercalate_cons_cons]
    | cons p' ps =>
      have hrest := ih (cons_ne_nil p' ps)
      simp only [colons, cons_append, intercalate_cons_cons] at hrest ⊢
      rw [hrest]
      simp

lemma colon_notMem_quad (q : Quad) : ':' ∉ q.text := fun h => by
  rcases mem_quad h with h | h <;> exact absurd h (by decide)

/-- The characters of groups and colons. -/
def IsPlain (c : Char) : Prop := c = ':' ∨ isHex c = true

lemma isPlain_of_mem_colons (h : c ∈ colons (groups.map Group.text)) : IsPlain c := by
  rcases mem_intercalate h with h | ⟨piece, hpiece, hc⟩
  · exact .inl h
  · obtain ⟨g, -, rfl⟩ := mem_map.1 hpiece
    exact .inr (g.hex c hc)

lemma IsPlain.inline (h : IsPlain c) : isLineTerminator c = false := by
  have hall : ("0123456789abcdefABCDEF".toList.all fun c => !isLineTerminator c) = true := by
    decide +kernel
  rcases h with rfl | h
  · rfl
  · simpa using all_eq_true.1 hall c (mem_of_isHex h)

lemma foldQuad_of_notMem (h : '.' ∉ text) : foldQuad text = some text := by
  have hdotted : dotted text = none := by
    have hquad : '.' ∉ text.rtakeWhile (· != ':') := fun hmem =>
      h ((rtakeWhile_suffix (· != ':') text).subset hmem)
    have hnot : isDotted (text.rtakeWhile (· != ':')) = false := by
      rw [isDotted, splitOn_eq_singleton hquad]
      rfl
    rw [dotted, if_neg (by simp [hnot])]
  rw [foldQuad, hdotted]

lemma foldQuad_quad (hbefore : ∀ c ∈ before, IsPlain c) (q : Quad) :
    foldQuad (before ++ ':' :: q.text) =
      some (before ++ ':' :: (hextet q.a q.b ++ ':' :: hextet q.c q.d)) := by
  have hquad : ∀ c ∈ q.text.reverse, (c != ':') = true := fun c hc => by
    rw [mem_reverse] at hc
    simpa using fun heq : c = ':' => colon_notMem_quad q (heq ▸ hc)
  have hreverse : (before ++ ':' :: q.text).reverse = q.text.reverse ++ ':' :: before.reverse := by
    simp
  have hprefixed : (before ++ ':' :: q.text).rdropWhile (· != ':') = before ++ [':'] := by
    rw [rdropWhile, hreverse, dropWhile_append_of_pos hquad]
    simp
  have htake : (before ++ ':' :: q.text).rtakeWhile (· != ':') = q.text := by
    rw [rtakeWhile, hreverse, takeWhile_append_of_pos hquad]
    simp
  have hinline : (before ++ [':']).all (fun c => !isLineTerminator c) = true := by
    refine all_eq_true.2 fun c hc => ?_
    rcases mem_append.1 hc with hc | hc
    · rw [(hbefore c hc).inline]
      rfl
    · rw [mem_singleton.1 hc]
      rfl
  have hdotted : dotted (before ++ ':' :: q.text) = some (before ++ [':'], q.text) := by
    rw [dotted, hprefixed, htake]
    exact if_pos ⟨by simp, hinline, isDotted_quad q⟩
  rw [foldQuad, hdotted]
  simp only [numbers_quad, Quad.octets, map_cons, map_nil]
  have := q.a.isLt
  have := q.b.isLt
  have := q.c.isLt
  have := q.d.isLt
  rw [if_neg (by omega)]
  simp

def quadGroups (q : Quad) : List Group :=
  [groupOf (q.a * 256 + q.b) (by omega), groupOf (q.c * 256 + q.d) (by omega)]

lemma quadGroups_values (q : Quad) : (quadGroups q).map Group.value = q.words := by
  simp [quadGroups, Quad.words]

lemma colons_quadGroups (q : Quad) :
    colons ((quadGroups q).map Group.text) = hextet q.a q.b ++ ':' :: hextet q.c q.d := by
  rw [hextet_eq, hextet_eq]
  simp [quadGroups, groupOf, colons, intercalate_cons_cons]

def allGroups (r : Run) : List Group := r.groups ++ r.quad.toList.flatMap quadGroups

lemma allGroups_values (r : Run) : (allGroups r).map Group.value = r.words := by
  rw [allGroups, map_append, Run.words]
  cases r.quad with
  | none => rfl
  | some q => simp [quadGroups_values]

lemma length_allGroups (r : Run) : (allGroups r).length = r.words.length := by
  rw [← allGroups_values, length_map]

lemma foldQuad_run (hbefore : ∀ c ∈ before, IsPlain c) (r : Run)
    (hends : r.groups = [] → ∃ text, before = text ++ [':']) :
    foldQuad (before ++ colons r.pieces) =
      some (before ++ colons ((allGroups r).map Group.text)) := by
  obtain ⟨groups, quad⟩ := r
  cases quad with
  | none =>
    have hpieces : Run.pieces ⟨groups, none⟩ = groups.map Group.text := by simp [Run.pieces]
    have hall : allGroups ⟨groups, none⟩ = groups := by simp [allGroups]
    rw [hpieces, hall]
    refine foldQuad_of_notMem fun hdot => ?_
    have hplain : IsPlain '.' := (mem_append.1 hdot).elim (hbefore '.') isPlain_of_mem_colons
    rcases hplain with h | h <;> exact absurd h (by decide)
  | some q =>
    have hpieces : Run.pieces ⟨groups, some q⟩ = groups.map Group.text ++ [q.text] := by
      simp [Run.pieces]
    have hall : (allGroups ⟨groups, some q⟩).map Group.text =
        groups.map Group.text ++ (quadGroups q).map Group.text := by
      simp [allGroups]
    have hquad : colons [q.text] = q.text := by simp [colons]
    rw [hpieces, hall]
    cases groups with
    | nil =>
      obtain ⟨text, rfl⟩ := hends rfl
      have hfold := foldQuad_quad (fun c hc => hbefore c (mem_append_left _ hc)) q
      rw [map_nil, nil_append, nil_append, hquad, colons_quadGroups]
      simpa using hfold
    | cons g groups =>
      rw [colons_append (by simp) (by simp), colons_append (by simp) (by simp [quadGroups]),
        hquad, colons_quadGroups, ← append_assoc, ← append_assoc]
      refine (foldQuad_quad (fun c hc => ?_) q)
      exact (mem_append.1 hc).elim (hbefore c) isPlain_of_mem_colons

/-! ## The whole text -/

def zeroGroup : Group := groupOf 0 (by decide)

/-- The eight groups of an address. -/
def expanded : V6 → List Group
  | .full run _ => allGroups run
  | .gap left right _ =>
    left ++ replicate (8 - (left.length + right.words.length)) zeroGroup ++ allGroups right

lemma expanded_values (x : V6) : (expanded x).map Group.value = x.words := by
  cases x with
  | full run eight => exact allGroups_values run
  | gap left right short =>
    simp [expanded, V6.words, allGroups_values, zeroGroup]

lemma length_expanded (x : V6) : (expanded x).length = 8 := by
  rw [← x.words_length, ← expanded_values, length_map]

lemma bytesOf_expanded (x : V6) :
    bytesOf ((expanded x).map Group.text) =
      if (expanded x).all fun g => g.text.all isGroupDigit then some x.bytes else none := by
  rw [bytesOf_groups (length_expanded x), expanded_values]
  rfl

/-- **The expansion of an address without a zone**: its sixteen bytes, unless a letter is capital. -/
theorem v6ToBytes_text (x : V6) :
    v6ToBytes x.text =
      if (expanded x).all fun g => g.text.all isGroupDigit then some x.bytes else none := by
  rw [← bytesOf_expanded]
  cases x with
  | full run eight =>
    have hne : run.groups ≠ [] := by
      intro hnil
      rw [Run.words, hnil] at eight
      cases hquad : run.quad <;> simp [hquad, Quad.words] at eight
    have hplain : ∀ c ∈ ([] : Text), IsPlain c := forall_mem_nil _
    have hfold := foldQuad_run hplain run fun hnil => absurd hnil hne
    have hsplit : splitGap (colons ((allGroups run).map Group.text)) =
        [colons ((allGroups run).map Group.text)] := by
      simpa [splitGap] using splitGap_colons (allGroups run) []
    simp only [nil_append] at hfold
    rw [v6ToBytes, V6.text, hfold]
    simp only [Option.bind_eq_bind, Option.bind_some, hsplit, groupsOf_colons, expanded]
  | gap left right short =>
    have hplain : ∀ c ∈ colons (left.map Group.text) ++ "::".toList, IsPlain c := by
      intro c hc
      rcases mem_append.1 hc with hc | hc
      · exact isPlain_of_mem_colons hc
      · exact .inl (by simpa using hc)
    have hfold := foldQuad_run hplain right fun _ =>
      ⟨colons (left.map Group.text) ++ [':'], by simp⟩
    have hsplit : splitGap (colons (left.map Group.text) ++ "::".toList ++
        colons ((allGroups right).map Group.text)) =
        [colons (left.map Group.text), colons ((allGroups right).map Group.text)] := by
      have hright := splitGap_colons (allGroups right) []
      rw [append_assoc, splitGap_colons]
      simp only [append_nil, splitGap, modifyHead_cons] at hright
      simp [splitGap, hright]
    have hle : ¬8 < left.length + right.words.length := by omega
    rw [v6ToBytes, V6.text, hfold]
    simp only [Option.bind_eq_bind, Option.bind_some, hsplit, groupsOf_colons, length_map,
      length_allGroups, if_neg hle, expanded, map_append, map_replicate]
    rfl

/-! ## Small letters -/

lemma toLower_of_isHex (h : isHex c = true) :
    isGroupDigit c.toLower = true ∧ hexValue c.toLower = hexValue c ∧
      (c.isDigit = true → c.toLower = c) := by
  have hall : ("0123456789abcdefABCDEF".toList.all fun c => decide (isGroupDigit c.toLower = true ∧
      hexValue c.toLower = hexValue c ∧ (c.isDigit = true → c.toLower = c))) = true := by
    decide +kernel
  exact of_decide_eq_true (all_eq_true.1 hall c (mem_of_isHex h))

/-- A group in small letters. -/
def lowerGroup (g : Group) : Group where
  text := toLowerCase g.text
  nonempty h := g.nonempty (map_eq_nil_iff.1 h)
  short := (length_map _).trans_le g.short
  hex c hc := by
    obtain ⟨d, hd, rfl⟩ := mem_map.1 hc
    exact isHex_of_isGroupDigit (toLower_of_isHex (g.hex d hd)).1

@[simp] lemma lowerGroup_value (g : Group) : (lowerGroup g).value = g.value := by
  refine congrArg (IpText.ofDigits 16) ?_
  show (g.text.map Char.toLower).map hexValue = g.text.map hexValue
  rw [map_map]
  exact map_congr_left fun c hc => (toLower_of_isHex (g.hex c hc)).2.1

lemma lowerGroup_digits (g : Group) : (lowerGroup g).text.all isGroupDigit = true := by
  refine all_eq_true.2 fun c hc => ?_
  obtain ⟨d, hd, rfl⟩ := mem_map.1 hc
  exact (toLower_of_isHex (g.hex d hd)).1

def lowerRun (r : Run) : Run := ⟨r.groups.map lowerGroup, r.quad⟩

lemma lowerRun_words (r : Run) : (lowerRun r).words = r.words := by
  simp [Run.words, lowerRun, Function.comp_def]

/-- An address in small letters. -/
def lowered : V6 → V6
  | .full run eight => .full (lowerRun run) (by rw [lowerRun_words, eight])
  | .gap left right short =>
    .gap (left.map lowerGroup) (lowerRun right) (by rwa [lowerRun_words, length_map])

lemma lowered_words (x : V6) : (lowered x).words = x.words := by
  cases x with
  | full run eight => exact lowerRun_words run
  | gap left right short => simp [lowered, V6.words, lowerRun_words, Function.comp_def]

lemma toLowerCase_quad (q : Quad) : toLowerCase q.text = q.text := by
  refine (map_congr_left fun c hc => ?_).trans (map_id _)
  rcases mem_quad hc with h | rfl
  · exact (toLower_of_isHex (by simp [isHex, h])).2.2 h
  · rfl

lemma toLowerCase_colons (pieces : List Text) :
    toLowerCase (colons pieces) = colons (pieces.map toLowerCase) :=
  map_intercalate Char.toLower rfl pieces

lemma lowerRun_pieces (r : Run) : (lowerRun r).pieces = r.pieces.map toLowerCase := by
  obtain ⟨groups, quad⟩ := r
  cases quad with
  | none => simp [Run.pieces, lowerRun, lowerGroup]
  | some q => simp [Run.pieces, lowerRun, lowerGroup, toLowerCase_quad]

lemma lowered_text (x : V6) : (lowered x).text = toLowerCase x.text := by
  cases x with
  | full run eight => simp [lowered, V6.text, lowerRun_pieces, toLowerCase_colons]
  | gap left right short =>
    have hleft : colons ((left.map lowerGroup).map Group.text) =
        toLowerCase (colons (left.map Group.text)) := by
      rw [toLowerCase_colons, map_map, map_map]
      rfl
    have hright : colons (lowerRun right).pieces = toLowerCase (colons right.pieces) := by
      rw [lowerRun_pieces, toLowerCase_colons]
    simp only [lowered, V6.text, hleft, hright]
    simp [toLowerCase]

lemma allGroups_lowerRun (r : Run) :
    (allGroups (lowerRun r)).all (fun g => g.text.all isGroupDigit) = true := by
  refine all_eq_true.2 fun g hg => ?_
  rcases mem_append.1 hg with hg | hg
  · obtain ⟨g, -, rfl⟩ := mem_map.1 hg
    exact lowerGroup_digits g
  · obtain ⟨q, -, hg⟩ := mem_flatMap.1 hg
    simp only [quadGroups, mem_cons, not_mem_nil, or_false] at hg
    rcases hg with rfl | rfl <;> exact all_eq_true.2 fun c hc => isGroupDigit_of_mem_hexadecimal hc

lemma expanded_lowered (x : V6) :
    (expanded (lowered x)).all (fun g => g.text.all isGroupDigit) = true := by
  cases x with
  | full run eight => exact allGroups_lowerRun run
  | gap left right short =>
    have hzero : zeroGroup.text.all isGroupDigit = true := by decide
    have hleft : (left.map lowerGroup).all (fun g => g.text.all isGroupDigit) = true := by
      rw [all_map]
      exact all_eq_true.2 fun g _ => lowerGroup_digits g
    rw [lowered, expanded, all_append, all_append, hleft, allGroups_lowerRun, all_replicate, hzero]
    simp

/-- **An address without a zone, in small letters, expands to its sixteen bytes.** -/
theorem v6ToBytes_toLowerCase (x : V6) : v6ToBytes (toLowerCase x.text) = some x.bytes := by
  rw [← lowered_text, v6ToBytes_text, if_pos (expanded_lowered x), V6.bytes, lowered_words]
  rfl

/-! ## Zones -/

lemma splitGap_ne_nil (text : Text) : splitGap text ≠ [] := by
  fun_induction splitGap text with
  | case1 => exact cons_ne_nil _ _
  | case2 rest ih => exact cons_ne_nil _ _
  | case3 c rest hnot ih => exact fun h => ih (modifyHead_eq_nil_iff.1 h)

lemma mem_splitGap (h : c ∈ text) (hc : c ≠ ':') : ∃ part ∈ splitGap text, c ∈ part := by
  have hhead : ∀ {d : Char} {parts : List Text}, (∃ part ∈ parts, c ∈ part) →
      ∃ part ∈ parts.modifyHead (d :: ·), c ∈ part := by
    rintro d (_ | ⟨p, ps⟩) ⟨part, hpart, hmem⟩
    · exact absurd hpart (by simp)
    · rcases mem_cons.1 hpart with rfl | hpart
      · exact ⟨d :: part, by simp, mem_cons_of_mem d hmem⟩
      · exact ⟨part, by simp [hpart], hmem⟩
  fun_induction splitGap text with
  | case1 => exact absurd h (by simp)
  | case2 rest ih =>
    obtain ⟨part, hpart, hmem⟩ := ih (by simpa [hc] using h)
    exact ⟨part, mem_cons_of_mem _ hpart, hmem⟩
  | case3 d rest hnot ih =>
    rcases mem_cons.1 h with rfl | h
    · obtain ⟨p, ps, hsplit⟩ := exists_cons_of_ne_nil (splitGap_ne_nil rest)
      exact ⟨c :: p, by simp [hsplit], by simp⟩
    · exact hhead (ih h)

lemma mem_groupsOf {half : Text} (h : c ∈ half) (hc : c ≠ ':') :
    ∃ group ∈ groupsOf half, c ∈ group := by
  have hne : half ≠ [] := ne_nil_of_mem h
  rw [groupsOf, if_neg hne]
  have hjoined : [':'].intercalate (half.splitOn ':') = half := intercalate_splitOn ':'
  rw [← hjoined] at h
  exact (mem_intercalate h).resolve_left hc

lemma bytesOf_of_mem {groups : List Text} {group : Text} (hmem : group ∈ groups)
    (h : '%' ∈ group) : bytesOf groups = none := by
  have hgroup : groupBytes group = none := by
    rw [groupBytes, if_neg]
    rintro ⟨-, -, hall⟩
    exact absurd (all_eq_true.1 hall _ h) (by decide)
  have hmapM : groups.mapM groupBytes = none := by
    induction groups with
    | nil => exact absurd hmem (by simp)
    | cons g gs ih =>
      rw [mapM_cons]
      rcases mem_cons.1 hmem with rfl | hmem
      · rw [hgroup]
        rfl
      · rw [ih hmem]
        cases groupBytes g <;> rfl
  rw [bytesOf, hmapM]
  split <;> rfl

lemma percent_mem_foldQuad {s : Text} (h : '%' ∈ ip) (hs : foldQuad ip = some s) : '%' ∈ s := by
  rw [foldQuad] at hs
  split at hs
  · exact Option.some.inj hs ▸ h
  · next prefixed quad hdotted =>
    have hbefore : '%' ∈ prefixed := by
      rw [dotted] at hdotted
      split at hdotted
      · next hpattern =>
        obtain ⟨-, -, hquad⟩ := hpattern
        cases hdotted
        rw [← rdropWhile_append_rtakeWhile (p := (· != ':')) (l := ip)] at h
        refine (mem_append.1 h).resolve_right fun hmem => ?_
        have hjoined : ∀ text : Text, ['.'].intercalate (text.splitOn '.') = text := fun _ =>
          intercalate_splitOn '.'
        rw [← hjoined (ip.rtakeWhile _)] at hmem
        rcases mem_intercalate hmem with heq | ⟨part, hpart, hc⟩
        · exact absurd heq (by decide)
        · have hdigits := all_eq_true.1 (Bool.and_eq_true_iff.1 hquad).2 part hpart
          have hdigit := all_eq_true.1 (Bool.and_eq_true_iff.1 hdigits).2 '%' hc
          exact absurd hdigit (by decide)
      · cases hdotted
    split at hs
    · split at hs
      · cases hs
      · rw [← Option.some.inj hs, append_assoc]
        exact mem_append_left _ hbefore
    · cases hs

/-- **A text with a percent sign has no bytes.** -/
theorem v6ToBytes_of_percent (h : '%' ∈ ip) : v6ToBytes ip = none := by
  rw [v6ToBytes]
  cases hfold : foldQuad ip with
  | none => rfl
  | some s =>
    obtain ⟨part, hpart, hmem⟩ := mem_splitGap (percent_mem_foldQuad h hfold) (by decide)
    obtain ⟨group, hgroup, hc⟩ := mem_groupsOf hmem (by decide)
    simp only [Option.bind_eq_bind, Option.bind_some]
    split
    · next all hsplit =>
      rw [hsplit, mem_singleton] at hpart
      exact bytesOf_of_mem (hpart ▸ hgroup) hc
    · next left right hsplit =>
      split
      · rfl
      · rw [hsplit] at hpart
        refine bytesOf_of_mem (?_ : group ∈ _) hc
        rcases mem_cons.1 hpart with rfl | hpart
        · exact mem_append_left _ (mem_append_left _ hgroup)
        · exact mem_append_right _ (mem_singleton.1 hpart ▸ hgroup)
    · rfl

end Orbetra.Guard
