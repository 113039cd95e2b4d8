import Orbetra.Webhook.Expansion

/-!
# The private ranges

The ranges that no webhook reaches, and what the guard makes of a text that denotes an address: it
refuses every text of an address in the ranges, and every text that is outside them and has no zone
passes.
-/

namespace Orbetra.Guard

open IpText List

/-! ## The ranges -/

/-- A range of IPv4 addresses. -/
def v4Range (octets : List ℕ) (length : ℕ) : Cidr 32 := ⟨ofDigits 256 octets, length⟩

/-- A range of IPv6 addresses. -/
def v6Range (words : List ℕ) (length : ℕ) : Cidr 128 := ⟨ofDigits 65536 words, length⟩

/-- This network, private networks, carrier-grade NAT, loopback, link-local, and all that is
multicast or reserved. -/
def privateV4 : List (Cidr 32) :=
  [v4Range [0, 0, 0, 0] 8, v4Range [10, 0, 0, 0] 8, v4Range [100, 64, 0, 0] 10,
    v4Range [127, 0, 0, 0] 8, v4Range [169, 254, 0, 0] 16, v4Range [172, 16, 0, 0] 12,
    v4Range [192, 168, 0, 0] 16, v4Range [224, 0, 0, 0] 3]

/-- `::`, `::1`, link-local and unique-local addresses. -/
def privateV6 : List (Cidr 128) :=
  [v6Range [0, 0, 0, 0, 0, 0, 0, 0] 128, v6Range [0, 0, 0, 0, 0, 0, 0, 1] 128,
    v6Range [0xfe80, 0, 0, 0, 0, 0, 0, 0] 10, v6Range [0xfc00, 0, 0, 0, 0, 0, 0, 0] 7]

/-- The ranges that stand for IPv4 addresses: mapped, compatible, and NAT64. -/
def embeddings : List (Cidr 128) :=
  [v6Range [0, 0, 0, 0, 0, 0xffff, 0, 0] 96, v6Range [0, 0, 0, 0, 0, 0, 0, 0] 96,
    v6Range [0x64, 0xff9b, 0, 0, 0, 0, 0, 0] 96]

def IsPrivateV4 (address : ℕ) : Prop := ∃ range ∈ privateV4, range.Contains address

def IsPrivateV6 (address : ℕ) : Prop :=
  (∃ range ∈ privateV6, range.Contains address) ∨
    (∃ range ∈ embeddings, range.Contains address) ∧ IsPrivateV4 (address % 2 ^ 32)

instance (address : ℕ) : Decidable (IsPrivateV4 address) :=
  inferInstanceAs (Decidable (∃ range ∈ privateV4, _))

instance (address : ℕ) : Decidable (IsPrivateV6 address) := inferInstanceAs (Decidable (_ ∨ _))

/-! ## IPv4 -/

lemma contains_octets (q : Quad) {n₀ n₁ length : ℕ} (hlength : length ≤ 16) :
    (v4Range [n₀, n₁, 0, 0] length).Contains q.value ↔
      (256 * q.a.val + q.b.val) / 2 ^ (16 - length) = (256 * n₀ + n₁) / 2 ^ (16 - length) := by
  have hpow : (2 : ℕ) ^ (32 - length) = 256 ^ 2 * 2 ^ (16 - length) := by
    rw [show (256 : ℕ) = 2 ^ 8 from rfl, ← pow_mul, ← pow_add, show 32 - length =
      8 * 2 + (16 - length) by omega]
  have hcut : ∀ x y z t : ℕ, z < 256 → t < 256 →
      ofDigits 256 [x, y, z, t] / 256 ^ 2 = 256 * x + y := by
    intro x y z t hz ht
    have hdiv : ofDigits 256 ([x, y] ++ [z, t]) / 256 ^ 2 = ofDigits 256 [x, y] :=
      ofDigits_append_div (by simp [hz, ht])
    exact hdiv.trans (by simp [ofDigits])
  rw [Cidr.Contains, v4Range, hpow, ← Nat.div_div_eq_div_mul, ← Nat.div_div_eq_div_mul, Quad.value,
    Quad.octets, hcut _ _ _ _ q.c.isLt q.d.isLt, hcut _ _ _ _ (by decide) (by decide)]

lemma isPrivateV4_iff (q : Quad) : IsPrivateV4 q.value ↔
    q.a.val = 0 ∨ q.a.val = 10 ∨ (q.a.val = 100 ∧ 64 ≤ q.b.val ∧ q.b.val ≤ 127) ∨ q.a.val = 127 ∨
      (q.a.val = 169 ∧ q.b.val = 254) ∨ (q.a.val = 172 ∧ 16 ≤ q.b.val ∧ q.b.val ≤ 31) ∨
      (q.a.val = 192 ∧ q.b.val = 168) ∨ 224 ≤ q.a.val := by
  have := q.a.isLt
  have := q.b.isLt
  simp only [IsPrivateV4, privateV4, exists_mem_cons_iff, not_mem_nil, false_and,
    exists_false, or_false]
  rw [contains_octets q (by decide), contains_octets q (by decide), contains_octets q (by decide),
    contains_octets q (by decide), contains_octets q (by decide), contains_octets q (by decide),
    contains_octets q (by decide), contains_octets q (by decide)]
  refine or_congr ?_ (or_congr ?_ (or_congr ?_ (or_congr ?_ (or_congr ?_ (or_congr ?_
    (or_congr ?_ ?_))))))
  all_goals omega

/-- The guard refuses exactly the dotted quads in the ranges. -/
theorem isPrivateV4_text (q : Quad) : isPrivateV4 q.text = true ↔ IsPrivateV4 q.value := by
  have := q.a.isLt
  have := q.b.isLt
  have := q.c.isLt
  have := q.d.isLt
  rw [isPrivateV4_iff, isPrivateV4, numbers_quad]
  simp only [Quad.octets, map_cons, map_nil]
  rw [if_neg (by omega)]
  split_ifs <;> simp only [true_iff, false_iff] <;> omega

/-! ## IPv6 -/

variable {w₀ w₁ w₂ w₃ w₄ w₅ w₆ w₇ : ℕ}

lemma contains_words {high low high' low' : List ℕ} (hhigh : high.length = high'.length)
    (hlow : low.length = low'.length) (height : high.length + low.length = 8)
    (h : ∀ w ∈ high ++ low, w < 65536) (h' : ∀ w ∈ high' ++ low', w < 65536) :
    (v6Range (high' ++ low') (16 * high.length)).Contains (ofDigits 65536 (high ++ low)) ↔
      high = high' := by
  have hpow : (2 : ℕ) ^ (128 - 16 * high.length) = 65536 ^ low.length := by
    rw [show (65536 : ℕ) = 2 ^ 16 from rfl, ← pow_mul, show 128 - 16 * high.length =
      16 * low.length by omega]
  obtain ⟨hh, hl⟩ := forall_mem_append.1 h
  obtain ⟨hh', hl'⟩ := forall_mem_append.1 h'
  rw [Cidr.Contains, v6Range, hpow, ofDigits_append_div hl, hlow, ofDigits_append_div hl']
  exact ofDigits_inj hhigh hh hh'

lemma contains_first {w w' : ℕ} {low low' : List ℕ} {length : ℕ} (hlength : length ≤ 16)
    (hlow : low.length = 7) (hlow' : low'.length = 7) (h : ∀ d ∈ low, d < 65536)
    (h' : ∀ d ∈ low', d < 65536) :
    (v6Range (w' :: low') length).Contains (ofDigits 65536 (w :: low)) ↔
      w / 2 ^ (16 - length) = w' / 2 ^ (16 - length) := by
  have hpow : (2 : ℕ) ^ (128 - length) = 65536 ^ 7 * 2 ^ (16 - length) := by
    rw [show (65536 : ℕ) = 2 ^ 16 from rfl, ← pow_mul, ← pow_add, show 128 - length =
      16 * 7 + (16 - length) by omega]
  have hdiv : ∀ {v : ℕ} {ds : List ℕ}, ds.length = 7 → (∀ d ∈ ds, d < 65536) →
      ofDigits 65536 (v :: ds) / 65536 ^ 7 = v := by
    intro v ds hds hlt
    have hcut : ofDigits 65536 ([v] ++ ds) / 65536 ^ ds.length = ofDigits 65536 [v] :=
      ofDigits_append_div hlt
    rw [hds] at hcut
    exact hcut.trans (by simp [ofDigits])
  rw [Cidr.Contains, v6Range, hpow, ← Nat.div_div_eq_div_mul, ← Nat.div_div_eq_div_mul,
    hdiv hlow h, hdiv hlow' h']

variable {w₀ w₁ w₂ w₃ w₄ w₅ w₆ w₇ : ℕ}

lemma contains_whole (h : ∀ w ∈ [w₀, w₁, w₂, w₃, w₄, w₅, w₆, w₇], w < 65536) {n : ℕ}
    (hn : n < 65536) :
    (v6Range [0, 0, 0, 0, 0, 0, 0, n] 128).Contains
        (ofDigits 65536 [w₀, w₁, w₂, w₃, w₄, w₅, w₆, w₇]) ↔
      [w₀, w₁, w₂, w₃, w₄, w₅, w₆, w₇] = [0, 0, 0, 0, 0, 0, 0, n] := by
  have hlt : ∀ w ∈ [0, 0, 0, 0, 0, 0, 0, n], w < 65536 := by simp [hn]
  exact @contains_words [w₀, w₁, w₂, w₃, w₄, w₅, w₆, w₇] [] [0, 0, 0, 0, 0, 0, 0, n] [] rfl rfl rfl
    h hlt

/-- A range of IPv4 addresses in the last two words. -/
lemma contains_embedding (h : ∀ w ∈ [w₀, w₁, w₂, w₃, w₄, w₅, w₆, w₇], w < 65536)
    {n₀ n₁ n₅ : ℕ} (hn : n₀ < 65536 ∧ n₁ < 65536 ∧ n₅ < 65536) :
    (v6Range [n₀, n₁, 0, 0, 0, n₅, 0, 0] 96).Contains
        (ofDigits 65536 [w₀, w₁, w₂, w₃, w₄, w₅, w₆, w₇]) ↔
      [w₀, w₁, w₂, w₃, w₄, w₅] = [n₀, n₁, 0, 0, 0, n₅] := by
  have hlt : ∀ w ∈ [n₀, n₁, 0, 0, 0, n₅, 0, 0], w < 65536 := by simp [hn]
  exact @contains_words [w₀, w₁, w₂, w₃, w₄, w₅] [w₆, w₇] [n₀, n₁, 0, 0, 0, n₅] [0, 0] rfl rfl rfl
    h hlt

/-- The private ranges, in terms of the words of an address. -/
lemma isPrivateV6_iff (h : ∀ w ∈ [w₀, w₁, w₂, w₃, w₄, w₅, w₆, w₇], w < 65536) :
    IsPrivateV6 (ofDigits 65536 [w₀, w₁, w₂, w₃, w₄, w₅, w₆, w₇]) ↔
      [w₀, w₁, w₂, w₃, w₄, w₅, w₆, w₇] = [0, 0, 0, 0, 0, 0, 0, 0] ∨
      [w₀, w₁, w₂, w₃, w₄, w₅, w₆, w₇] = [0, 0, 0, 0, 0, 0, 0, 1] ∨
      w₀ / 64 = 0x3fa ∨ w₀ / 512 = 0x7e ∨
      ([w₀, w₁, w₂, w₃, w₄, w₅] = [0, 0, 0, 0, 0, 0xffff] ∨
        [w₀, w₁, w₂, w₃, w₄, w₅] = [0, 0, 0, 0, 0, 0] ∨
        [w₀, w₁, w₂, w₃, w₄, w₅] = [0x64, 0xff9b, 0, 0, 0, 0]) ∧
        IsPrivateV4 (65536 * w₆ + w₇) := by
  have hlow : ofDigits 65536 [w₀, w₁, w₂, w₃, w₄, w₅, w₆, w₇] % 2 ^ 32 = 65536 * w₆ + w₇ := by
    have hlast : ∀ w ∈ [w₆, w₇], w < 65536 := fun w hw => h w (by
      simp only [mem_cons, not_mem_nil, or_false] at hw ⊢
      tauto)
    have hcut : ofDigits 65536 ([w₀, w₁, w₂, w₃, w₄, w₅] ++ [w₆, w₇]) % 65536 ^ 2 =
        ofDigits 65536 [w₆, w₇] := ofDigits_append_mod hlast
    simpa [ofDigits] using hcut
  have hfirst : ∀ (n length : ℕ), length ≤ 16 →
      ((v6Range [n, 0, 0, 0, 0, 0, 0, 0] length).Contains
        (ofDigits 65536 [w₀, w₁, w₂, w₃, w₄, w₅, w₆, w₇]) ↔
          w₀ / 2 ^ (16 - length) = n / 2 ^ (16 - length)) := fun n length hlength =>
    contains_first hlength rfl rfl (fun w hw => h w (mem_cons_of_mem w₀ hw)) (by simp)
  simp only [IsPrivateV6, privateV6, embeddings, exists_mem_cons_iff, not_mem_nil,
    false_and, exists_false, or_false, hlow]
  rw [contains_whole h (by decide), contains_whole h (by decide), hfirst _ _ (by decide),
    hfirst _ _ (by decide), contains_embedding h (by decide), contains_embedding h (by decide),
    contains_embedding h (by decide)]
  simp only [or_assoc]
  rfl

/-- The quad in the last two words. -/
def lowQuad (w₆ w₇ : ℕ) (h₆ : w₆ < 65536) (h₇ : w₇ < 65536) : Quad where
  a := ⟨w₆ / 256, by omega⟩
  b := ⟨w₆ % 256, by omega⟩
  c := ⟨w₇ / 256, by omega⟩
  d := ⟨w₇ % 256, by omega⟩

lemma lowQuad_value (h₆ : w₆ < 65536) (h₇ : w₇ < 65536) :
    (lowQuad w₆ w₇ h₆ h₇).value = 65536 * w₆ + w₇ := by
  simp only [Quad.value, Quad.octets, lowQuad, ofDigits, foldl_cons, foldl_nil]
  omega

lemma linkLocal_iff : ∀ n < 256, n &&& 0xc0 = 0x80 ↔ n / 64 = 2 := by
  decide +kernel

lemma uniqueLocal_iff : ∀ n < 256, n &&& 0xfe = 0xfc ↔ n / 2 = 0x7e := by
  decide +kernel

lemma isPrivateBytes_words (h : ∀ w ∈ [w₀, w₁, w₂, w₃, w₄, w₅, w₆, w₇], w < 65536) :
    isPrivateBytes ([w₀, w₁, w₂, w₃, w₄, w₅, w₆, w₇].flatMap fun w => [w / 256, w % 256]) = true ↔
      IsPrivateV6 (ofDigits 65536 [w₀, w₁, w₂, w₃, w₄, w₅, w₆, w₇]) := by
  rw [isPrivateV6_iff h]
  simp only [forall_mem_cons, not_mem_nil, IsEmpty.forall_iff, implies_true, and_true] at h
  obtain ⟨h₀, h₁, h₂, h₃, h₄, h₅, h₆, h₇⟩ := h
  set b := [w₀, w₁, w₂, w₃, w₄, w₅, w₆, w₇].flatMap fun w => [w / 256, w % 256] with hb
  have hembedded : isPrivateV4 (embeddedV4 b) = true ↔ IsPrivateV4 (65536 * w₆ + w₇) := by
    rw [← lowQuad_value h₆ h₇]
    exact isPrivateV4_text (lowQuad w₆ w₇ h₆ h₇)
  have hthis : w₆ = 0 → IsPrivateV4 (65536 * w₆ + w₇) := by
    rintro rfl
    rw [← lowQuad_value h₆ h₇, isPrivateV4_iff]
    exact .inl rfl
  have hmapped : (zeroHi b 10 ∧ b[10]? = some 0xff ∧ b[11]? = some 0xff) ↔
      [w₀, w₁, w₂, w₃, w₄, w₅] = [0, 0, 0, 0, 0, 0xffff] := by
    simp only [hb, zeroHi, flatMap_cons, flatMap_nil, cons_append, nil_append]
    simp
    omega
  have hnat64 : (b.take 4 = [0x00, 0x64, 0xff, 0x9b] ∧ ((b.take 12).drop 4).all (· == 0)) ↔
      [w₀, w₁, w₂, w₃, w₄, w₅] = [0x64, 0xff9b, 0, 0, 0, 0] := by
    simp only [hb, flatMap_cons, flatMap_nil, cons_append, nil_append]
    simp
    omega
  have hcompatible : zeroHi b 12 ↔ [w₀, w₁, w₂, w₃, w₄, w₅] = [0, 0, 0, 0, 0, 0] := by
    simp only [hb, zeroHi, flatMap_cons, flatMap_nil, cons_append, nil_append]
    simp
    omega
  have hlinkLocal : (b[0]? = some 0xfe ∧ (b.getD 1 0) &&& 0xc0 = 0x80) ↔ w₀ / 64 = 0x3fa := by
    have hlow := linkLocal_iff (w₀ % 256) (Nat.mod_lt _ (by decide))
    simp only [hb, flatMap_cons, cons_append]
    simp [hlow]
    omega
  have huniqueLocal : (b.getD 0 0) &&& 0xfe = 0xfc ↔ w₀ / 512 = 0x7e := by
    have hhigh := uniqueLocal_iff (w₀ / 256) (by omega)
    simp only [hb, flatMap_cons, cons_append]
    simp [hhigh]
    omega
  -- `::` and `::1` are compatible with addresses of this network
  have hwhole : ∀ n, [w₀, w₁, w₂, w₃, w₄, w₅, w₆, w₇] = [0, 0, 0, 0, 0, 0, 0, n] →
      [w₀, w₁, w₂, w₃, w₄, w₅] = [0, 0, 0, 0, 0, 0] ∧ IsPrivateV4 (65536 * w₆ + w₇) := by
    intro n heq
    simp only [cons.injEq] at heq
    exact ⟨by simp [heq], hthis heq.2.2.2.2.2.2.1⟩
  have hfirst : ∀ n ∈ [0, 0x64], ∀ ns, [w₀, w₁, w₂, w₃, w₄, w₅] = n :: ns →
      ¬(w₀ / 64 = 0x3fa ∨ w₀ / 512 = 0x7e) := by
    rintro n hn ns heq
    cases heq
    simp only [mem_cons, not_mem_nil, or_false] at hn
    omega
  -- an embedded address is judged by its quad alone
  have hjudged : ([w₀, w₁, w₂, w₃, w₄, w₅] = [0, 0, 0, 0, 0, 0xffff] ∨
      [w₀, w₁, w₂, w₃, w₄, w₅] = [0, 0, 0, 0, 0, 0] ∨
      [w₀, w₁, w₂, w₃, w₄, w₅] = [0x64, 0xff9b, 0, 0, 0, 0]) →
      ¬(w₀ / 64 = 0x3fa ∨ w₀ / 512 = 0x7e) := by
    rintro (heq | heq | heq)
    · exact hfirst 0 (by simp) _ heq
    · exact hfirst 0 (by simp) _ heq
    · exact hfirst 0x64 (by simp) _ heq
  simp only [isPrivateBytes, hmapped, hnat64, hcompatible, hlinkLocal, huniqueLocal]
  generalize [w₀, w₁, w₂, w₃, w₄, w₅, w₆, w₇] = whole at hwhole ⊢
  generalize [w₀, w₁, w₂, w₃, w₄, w₅] = high at hwhole hjudged ⊢
  generalize IsPrivateV4 (65536 * w₆ + w₇) = isPrivate at hwhole hembedded ⊢
  constructor
  · intro htrue
    split_ifs at htrue with hm hn hc hl hu
    · exact .inr (.inr (.inr (.inr ⟨.inl hm, hembedded.1 htrue⟩)))
    · exact .inr (.inr (.inr (.inr ⟨.inr (.inr hn), hembedded.1 htrue⟩)))
    · exact .inr (.inr (.inr (.inr ⟨.inr (.inl hc), hembedded.1 htrue⟩)))
    · exact .inr (.inr (.inl hl))
    · exact .inr (.inr (.inr (.inl hu)))
  · intro hrange
    have hcases : (w₀ / 64 = 0x3fa ∨ w₀ / 512 = 0x7e) ∨
        (high = [0, 0, 0, 0, 0, 0xffff] ∨ high = [0, 0, 0, 0, 0, 0] ∨
          high = [0x64, 0xff9b, 0, 0, 0, 0]) ∧ isPrivate := by
      rcases hrange with heq | heq | hl | hu | hrange
      · exact .inr ⟨.inr (.inl (hwhole 0 heq).1), (hwhole 0 heq).2⟩
      · exact .inr ⟨.inr (.inl (hwhole 1 heq).1), (hwhole 1 heq).2⟩
      · exact .inl (.inl hl)
      · exact .inl (.inr hu)
      · exact .inr hrange
    rcases hcases with hprefix | ⟨hhigh, hp⟩
    · split_ifs with hm hn hc hl hu
      · exact absurd hprefix (hjudged (.inl hm))
      · exact absurd hprefix (hjudged (.inr (.inr hn)))
      · exact absurd hprefix (hjudged (.inr (.inl hc)))
      · rfl
      · rfl
      · exact absurd hprefix (not_or.2 ⟨hl, hu⟩)
    · split_ifs with hm hn hc
      · exact hembedded.2 hp
      · exact hembedded.2 hp
      · exact hembedded.2 hp
      all_goals exact absurd hhigh (by simp [hm, hn, hc])

lemma exists_words {words : List ℕ} (h : words.length = 8) :
    ∃ w₀ w₁ w₂ w₃ w₄ w₅ w₆ w₇, words = [w₀, w₁, w₂, w₃, w₄, w₅, w₆, w₇] :=
  match words, h with
  | [w₀, w₁, w₂, w₃, w₄, w₅, w₆, w₇], _ => ⟨w₀, w₁, w₂, w₃, w₄, w₅, w₆, w₇, rfl⟩

lemma isPrivateBytes_bytes (x : V6) : isPrivateBytes x.bytes = true ↔ IsPrivateV6 x.value := by
  obtain ⟨w₀, w₁, w₂, w₃, w₄, w₅, w₆, w₇, hwords⟩ := exists_words x.words_length
  have hlt := x.words_lt
  rw [V6.bytes, V6.value, hwords]
  rw [hwords] at hlt
  exact isPrivateBytes_words hlt

/-- The guard refuses exactly the IPv6 addresses in the ranges, if they have no zone. -/
theorem isPrivateV6_text (x : V6) : isPrivateV6 x.text = true ↔ IsPrivateV6 x.value := by
  have hbytes := v6ToBytes_toLowerCase x
  rw [← isPrivateBytes_bytes, isPrivateV6]
  -- the two texts that are refused at once are refused by their bytes as well
  by_cases hshort : toLowerCase x.text = "::1".toList ∨ toLowerCase x.text = "::".toList
  · have hprivate : isPrivateBytes x.bytes = true := by
      rcases hshort with htext | htext <;> rw [htext] at hbytes
      · rw [← Option.some.inj ((by decide : v6ToBytes "::1".toList =
          some [0, 0, 0, 0, 0, 0, 0, 0, 0, 0, 0, 0, 0, 0, 0, 1]).symm.trans hbytes)]
        decide
      · rw [← Option.some.inj ((by decide : v6ToBytes "::".toList =
          some [0, 0, 0, 0, 0, 0, 0, 0, 0, 0, 0, 0, 0, 0, 0, 0]).symm.trans hbytes)]
        decide
    rw [if_pos hshort, hprivate]
  · rw [if_neg hshort, hbytes]

/-- A text with a zone is refused. -/
theorem isPrivateV6_of_percent {ip : Text} (h : '%' ∈ ip) : isPrivateV6 ip = true := by
  have hlower : '%' ∈ toLowerCase ip := mem_map.2 ⟨'%', h, rfl⟩
  rw [isPrivateV6, v6ToBytes_of_percent hlower]
  split <;> rfl

/-! ## The guard -/

/-- `net.isIP` accepts exactly the textual forms of addresses. -/
structure AcceptsForms (isIP : Text → ℕ) : Prop where
  quad : ∀ text, isIP text = 4 ↔ ∃ q : Quad, q.text = text
  v6 : ∀ text, isIP text = 6 ↔ ∃ x : V6Text, x.text = text

/-- A text of an address outside the ranges. -/
structure IsPublic (text : Text) : Prop where
  denotes : (∃ q : Quad, q.text = text) ∨ ∃ x : V6Text, x.text = text
  quad : ∀ q : Quad, q.text = text → ¬IsPrivateV4 q.value
  v6 : ∀ x : V6Text, x.text = text → ¬IsPrivateV6 x.address.value

lemma V6Text.text_of_none {x : V6Text} (h : x.zone = none) : x.text = x.address.text := by
  simp [V6Text.text, h]

lemma percent_mem_text {x : V6Text} {zone : List Char} (h : x.zone = some zone) : '%' ∈ x.text := by
  simp [V6Text.text, h]

lemma v6ToBytes_or (x : V6Text) :
    v6ToBytes x.text = none ∨ v6ToBytes x.text = some x.address.bytes := by
  cases hzone : x.zone with
  | none =>
    rw [V6Text.text_of_none hzone, v6ToBytes_text]
    split
    · exact .inr rfl
    · exact .inl rfl
  | some zone => exact .inl (v6ToBytes_of_percent (percent_mem_text hzone))

lemma v6ToBytes_toLowerCase_or (x : V6Text) : v6ToBytes (toLowerCase x.text) = none ∨
    v6ToBytes (toLowerCase x.text) = some x.address.bytes := by
  cases hzone : x.zone with
  | none =>
    rw [V6Text.text_of_none hzone]
    exact .inr (v6ToBytes_toLowerCase x.address)
  | some zone =>
    exact .inl (v6ToBytes_of_percent (mem_map.2 ⟨'%', percent_mem_text hzone, rfl⟩))

lemma v6ToBytes_quad (q : Quad) : v6ToBytes q.text = none := by
  have hfold : foldQuad q.text = some q.text := by
    have hprefixed : q.text.rdropWhile (· != ':') = [] :=
      rdropWhile_eq_nil_iff.2 fun c hc => by
        simpa using fun heq : c = ':' => colon_notMem_quad q (heq ▸ hc)
    rw [foldQuad, dotted, if_neg fun h => h.1 hprefixed]
  have hsplit : splitGap q.text = [q.text] := by
    simpa [splitGap] using splitGap_append (colon_notMem_quad q) []
  have hgroups : (groupsOf q.text).length ≤ 1 := by
    rw [groupsOf]
    split
    · exact Nat.zero_le 1
    · rw [splitOn_eq_singleton (colon_notMem_quad q), length_singleton]
  rw [v6ToBytes, hfold]
  simp only [Option.bind_eq_bind, Option.bind_some, hsplit]
  rw [bytesOf, if_pos (by omega)]

section

variable {isIP : Text → ℕ} (h : AcceptsForms isIP)
include h

lemma isPrivateIp_quad (q : Quad) : isPrivateIp isIP q.text = true ↔ IsPrivateV4 q.value := by
  rw [isPrivateIp, (h.quad _).2 ⟨q, rfl⟩]
  exact isPrivateV4_text q

lemma isPrivateIp_v6 (x : V6Text) : isPrivateIp isIP x.text = isPrivateV6 x.text := by
  rw [isPrivateIp, (h.v6 _).2 ⟨x, rfl⟩]
  rfl

lemma isPrivateIp_of_isPrivateV6 {x : V6Text} (hx : IsPrivateV6 x.address.value) :
    isPrivateIp isIP x.text = true := by
  rw [isPrivateIp_v6 h]
  cases hzone : x.zone with
  | none =>
    rw [V6Text.text_of_none hzone]
    exact (isPrivateV6_text x.address).2 hx
  | some zone => exact isPrivateV6_of_percent (percent_mem_text hzone)

/-- What the guard lets pass is a text of an address outside the ranges. -/
lemma isPublic_of_isPrivateIp {text : Text} (htext : isPrivateIp isIP text = false) :
    IsPublic text := by
  refine ⟨?_, fun q hq hprivate => ?_, fun x hx hprivate => ?_⟩
  · rw [isPrivateIp] at htext
    split at htext
    · next heq => exact .inl ((h.quad text).1 heq)
    · next heq => exact .inr ((h.v6 text).1 heq)
    · cases htext
  · rw [← hq, (isPrivateIp_quad h q).2 hprivate] at htext
    cases htext
  · rw [← hx, isPrivateIp_of_isPrivateV6 h hprivate] at htext
    cases htext

end

lemma assertPublicUrl_eq_ok {platform : Platform} {raw : Text} {validated : ValidatedUrl}
    (hok : assertPublicUrl platform raw = .ok validated) :
    ∃ addresses, platform.addresses (hostOf validated.url.hostname) = some addresses ∧
      validated.ip ∈ addresses ∧ ∀ a ∈ addresses, isPrivateIp platform.isIP a = false := by
  rw [assertPublicUrl] at hok
  split at hok
  · cases hok
  split at hok
  · cases hok
  split at hok
  · cases hok
  · cases hok
  split at hok
  · cases hok
  · next first others haddresses _ hfind =>
    cases hok
    exact ⟨_, haddresses, mem_cons_self, fun a ha => by
      simpa using find?_eq_none.1 hfind a ha⟩

/-- **Private targets are refused however they are written.**  The expansion gives the bytes of the
address or nothing, the guard refuses every text of an address in the ranges and passes every other
one without a zone, and a URL passes only if each of its addresses is outside the ranges. -/
theorem private_refused {platform : Platform} (h : AcceptsForms platform.isIP) :
    (∀ x : V6Text,
      (v6ToBytes x.text = none ∨ v6ToBytes x.text = some x.address.bytes) ∧
      (v6ToBytes (toLowerCase x.text) = none ∨
        v6ToBytes (toLowerCase x.text) = some x.address.bytes)) ∧
    (∀ q : Quad, v6ToBytes q.text = none) ∧
    (∀ q : Quad, isPrivateIp platform.isIP q.text = true ↔ IsPrivateV4 q.value) ∧
    (∀ x : V6Text, IsPrivateV6 x.address.value → isPrivateIp platform.isIP x.text = true) ∧
    (∀ x : V6Text, x.zone = none → ¬IsPrivateV6 x.address.value →
      isPrivateIp platform.isIP x.text = false) ∧
    ∀ raw validated, assertPublicUrl platform raw = .ok validated →
      ∃ addresses, platform.addresses (hostOf validated.url.hostname) = some addresses ∧
        validated.ip ∈ addresses ∧ ∀ a ∈ addresses, IsPublic a := by
  refine ⟨fun x => ⟨v6ToBytes_or x, v6ToBytes_toLowerCase_or x⟩, v6ToBytes_quad,
    isPrivateIp_quad h, fun x hx => isPrivateIp_of_isPrivateV6 h hx, fun x hzone hx => ?_,
    fun raw validated hok => ?_⟩
  · rw [isPrivateIp_v6 h, V6Text.text_of_none hzone]
    exact Bool.eq_false_iff.2 fun hprivate => hx ((isPrivateV6_text x.address).1 hprivate)
  · obtain ⟨addresses, haddresses, hip, hpublic⟩ := assertPublicUrl_eq_ok hok
    exact ⟨addresses, haddresses, hip, fun a ha => isPublic_of_isPrivateIp h (hpublic a ha)⟩

lemma colon_mem_text (x : V6) : ':' ∈ x.text := by
  cases x with
  | full run eight =>
    obtain ⟨groups, quad⟩ := run
    have hmany : 2 ≤ (Run.pieces ⟨groups, quad⟩).length := by
      have hwords : groups.length + (quad.toList.flatMap Quad.words).length = 8 := by
        simpa [Run.words] using eight
      cases quad <;> simp [Run.pieces, Quad.words] at hwords ⊢ <;> omega
    obtain ⟨p, p', ps, hpieces⟩ : ∃ p p' ps, Run.pieces ⟨groups, quad⟩ = p :: p' :: ps := by
      rcases hpieces : Run.pieces ⟨groups, quad⟩ with _ | ⟨p, _ | ⟨p', ps⟩⟩
      · simp [hpieces] at hmany
      · simp [hpieces] at hmany
      · exact ⟨p, p', ps, rfl⟩
    simp [V6.text, hpieces, colons, intercalate_cons_cons]
  | gap left right short => simp [V6.text]

open Classical in
/-- The `isIP` that accepts the textual forms. -/
noncomputable def isForm (text : Text) : ℕ :=
  if ∃ q : Quad, q.text = text then 4 else if ∃ x : V6Text, x.text = text then 6 else 0

lemma acceptsForms_isForm : AcceptsForms isForm where
  quad text := by
    rw [isForm]
    split_ifs with hquad hv6 <;> simp [hquad]
  v6 text := by
    rw [isForm]
    split_ifs with hquad hv6
    · obtain ⟨q, rfl⟩ := hquad
      refine iff_of_false (by decide) fun ⟨x, hx⟩ => colon_notMem_quad q ?_
      rw [← hx]
      exact mem_append_left _ (colon_mem_text x.address)
    · exact iff_of_true rfl hv6
    · exact iff_of_false (by decide) hv6

/-- `::ffff:127.0.0.1` -/
def mappedLoopback : V6Text where
  address := .gap [] ⟨[groupOf 0xffff (by decide)], some ⟨127, 0, 0, 1⟩⟩ (by decide)
  zone := none

/-- The loopback address is refused as a mapped one. -/
theorem private_refused_mapped : mappedLoopback.text = "::ffff:127.0.0.1".toList ∧
    isPrivateIp isForm "::ffff:127.0.0.1".toList = true := by
  have htext : mappedLoopback.text = "::ffff:127.0.0.1".toList := by decide +kernel
  have hrefused := @private_refused ⟨isForm, fun _ => none, fun _ => none⟩ acceptsForms_isForm
  exact ⟨htext, htext ▸ hrefused.2.2.2.1 mappedLoopback (by decide +kernel)⟩

end Orbetra.Guard
