import Orbetra.Codec.Frame

/-!
# A stream and the ways to cut it

A `StreamFramer` that is fed one chunk after another, up to its first error.

Two ways to cut a stream end alike, and yield the same frames where they do not throw
(`framing_chunks`).  A run that throws does not return the frames which the last chunk completed
before the error. -/

namespace Orbetra.Codec

open List

/-- The frames that a framer returns, chunk after chunk, and the bytes that it holds in the end or
the error that it throws. -/
def feedAll (maxDataLength : ℕ) : Bytes → List Bytes → List Frame × Except CodecError Bytes
  | buf, [] => ([], .ok buf)
  | buf, chunk :: chunks =>
    match feed maxDataLength buf chunk with
    | .error e => ([], .error e)
    | .ok (frames, rest) =>
      let (later, left) := feedAll maxDataLength rest chunks
      (frames ++ later, left)

variable {maxDataLength : ℕ} {before buf chunk rest : Bytes} {chunks : List Bytes}
  {frames : List Frame} {e : CodecError}

/-! ## What is left of a buffer -/

/-- Where there is no frame yet, the buffer is short. -/
lemma length_lt_of_tryExtract_none (h : tryExtract maxDataLength buf = .ok none) :
    buf.length < max 66 (12 + maxDataLength) := by
  unfold tryExtract at h
  dsimp only at h
  split_ifs at h with hshort himei hlen hmore hshort' hdata hmore'
  · omega
  · omega
  · cases h
  · omega
  · omega
  · cases h

lemma tryExtract_none_of_extractAll (h : extractAll maxDataLength buf = (frames, .ok rest)) :
    tryExtract maxDataLength rest = .ok none := by
  induction hlength : buf.length using Nat.strong_induction_on generalizing buf frames with
  | _ n ih =>
    cases hextract : tryExtract maxDataLength buf with
    | error e =>
      rw [extractAll_error hextract] at h
      cases h
    | ok found =>
      cases found with
      | none =>
        rw [extractAll_none hextract] at h
        obtain ⟨-, hrest⟩ := Prod.mk.inj h
        rw [← Except.ok.inj hrest]
        exact hextract
      | some found =>
        obtain ⟨frame, after⟩ := found
        obtain ⟨hbuf, hpos⟩ := tryExtract_spec hextract
        have hshorter : after.length < n := by
          rw [← hlength, hbuf, length_append]
          omega
        rw [extractAll_some hextract] at h
        obtain ⟨-, hrest⟩ := Prod.mk.inj h
        exact ih after.length hshorter (Prod.ext rfl hrest) rfl

lemma flatMap_extractAll (buf : Bytes) :
    (extractAll maxDataLength buf).1.flatMap (·.bytes) <+: buf := by
  induction hlength : buf.length using Nat.strong_induction_on generalizing buf with
  | _ n ih =>
    cases hextract : tryExtract maxDataLength buf with
    | error e =>
      rw [extractAll_error hextract]
      exact nil_prefix
    | ok found =>
      cases found with
      | none =>
        rw [extractAll_none hextract]
        exact nil_prefix
      | some found =>
        obtain ⟨frame, after⟩ := found
        obtain ⟨hbuf, hpos⟩ := tryExtract_spec hextract
        have hshorter : after.length < n := by
          rw [← hlength, hbuf, length_append]
          omega
        rw [extractAll_some hextract, flatMap_cons, hbuf]
        exact (prefix_append_right_inj _).mpr (ih after.length hshorter after rfl)

/-! ## One way to cut a stream -/

lemma feedAll_ok (hbefore : extractAll maxDataLength before = (frames, .ok buf))
    (h : (feedAll maxDataLength buf chunks).2 = .ok rest) :
    extractAll maxDataLength (before ++ chunks.flatten) =
      (frames ++ (feedAll maxDataLength buf chunks).1, .ok rest) := by
  induction chunks generalizing before buf frames with
  | nil =>
    cases h
    rw [flatten_nil, append_nil, hbefore]
    exact Prod.ext (append_nil frames).symm rfl
  | cons chunk chunks ih =>
    unfold feedAll at h ⊢
    cases hfeed : feed maxDataLength buf chunk with
    | error e =>
      rw [hfeed] at h
      cases h
    | ok fed =>
      obtain ⟨returned, held⟩ := fed
      rw [hfeed] at h
      rw [flatten_cons, ← append_assoc, ih (extractAll_feed hbefore hfeed) h, append_assoc]

/-- A framer that throws has returned the frames of the chunks before, and the stream holds the
error. -/
lemma feedAll_error (hbefore : extractAll maxDataLength before = (frames, .ok buf))
    (h : (feedAll maxDataLength buf chunks).2 = .error e) :
    (∃ fed chunk later rest, chunks = fed ++ chunk :: later ∧
      extractAll maxDataLength (before ++ fed.flatten) =
        (frames ++ (feedAll maxDataLength buf chunks).1, .ok rest) ∧
      (extractAll maxDataLength (before ++ fed.flatten ++ chunk)).2 = .error e) := by
  induction chunks generalizing before buf frames with
  | nil => cases h
  | cons chunk chunks ih =>
    unfold feedAll at h ⊢
    cases hfeed : feed maxDataLength buf chunk with
    | error e' =>
      rw [hfeed] at h
      cases h
      refine ⟨[], chunk, chunks, buf, rfl, ?_, ?_⟩
      · rw [flatten_nil, append_nil, append_nil, hbefore]
      · unfold feed at hfeed
        split at hfeed
        · cases hfeed
        · rename_i hextract
          rw [flatten_nil, append_nil, extractAll_append, hbefore]
          dsimp only
          rw [hextract, Except.error.inj hfeed]
    | ok fed =>
      obtain ⟨returned, held⟩ := fed
      rw [hfeed] at h
      obtain ⟨fed, last, later, rest, rfl, hframes, herror⟩ := ih (extractAll_feed hbefore hfeed) h
      refine ⟨chunk :: fed, last, later, rest, rfl, ?_, ?_⟩
      · rw [flatten_cons, ← append_assoc, hframes, append_assoc]
      · rw [flatten_cons, ← append_assoc, herror]

lemma extractAll_nil : extractAll maxDataLength [] = ([], .ok []) := rfl

lemma extractAll_error_append (h : (extractAll maxDataLength buf).2 = .error e) (chunk : Bytes) :
    (extractAll maxDataLength (buf ++ chunk)).2 = .error e := by
  rw [extractAll_append]
  rcases hextract : extractAll maxDataLength buf with ⟨frames, left⟩
  rw [hextract] at h
  obtain rfl : left = .error e := h
  rfl

/-- A fresh framer ends as the whole stream does. -/
lemma feedAll_snd (chunks : List Bytes) :
    (feedAll maxDataLength [] chunks).2 = (extractAll maxDataLength chunks.flatten).2 := by
  cases h : (feedAll maxDataLength [] chunks).2 with
  | ok rest =>
    have hall := feedAll_ok extractAll_nil h
    rw [nil_append] at hall
    rw [hall]
  | error e =>
    obtain ⟨fed, chunk, later, rest, hchunks, -, herror⟩ := feedAll_error extractAll_nil h
    have hall := extractAll_error_append herror later.flatten
    rw [nil_append, append_assoc, ← flatten_cons, ← flatten_append, ← hchunks] at hall
    exact hall.symm

/-- Where a fresh framer does not throw, it returns the frames of the stream. -/
lemma feedAll_fst (h : (feedAll maxDataLength [] chunks).2 = .ok rest) :
    (feedAll maxDataLength [] chunks).1 = (extractAll maxDataLength chunks.flatten).1 := by
  have hall := feedAll_ok extractAll_nil h
  rw [nil_append] at hall
  rw [hall]
  rfl

/-- In any case it returns the first of them. -/
lemma feedAll_initial (chunks : List Bytes) :
    (feedAll maxDataLength [] chunks).1 <+: (extractAll maxDataLength chunks.flatten).1 := by
  cases h : (feedAll maxDataLength [] chunks).2 with
  | ok rest => exact (feedAll_fst h).symm ▸ prefix_rfl
  | error e =>
    obtain ⟨fed, chunk, later, rest, hchunks, hframes, -⟩ := feedAll_error extractAll_nil h
    have hprefix : (extractAll maxDataLength fed.flatten).1 <+:
        (extractAll maxDataLength (fed.flatten ++ (chunk :: later).flatten)).1 :=
      extractAll_prefix _ _
    rw [nil_append] at hframes
    rw [hframes, ← flatten_append, ← hchunks] at hprefix
    exact hprefix

/-! ## Two ways -/

/-- **Framing does not depend on the chunks.**  Two ways to cut a stream both throw or neither does;
where they do not, they return the same frames, and where they do, each returns those that were
complete before the chunk at which it throws.  The frames are the first bytes of the stream, and
what a framer holds is bounded. -/
theorem framing_chunks (maxDataLength : ℕ) {chunks chunks' : List Bytes}
    (hstream : chunks.flatten = chunks'.flatten) :
    ((∃ e, (feedAll maxDataLength [] chunks).2 = .error e) ↔
      ∃ e, (feedAll maxDataLength [] chunks').2 = .error e) ∧
    (∀ rest, (feedAll maxDataLength [] chunks).2 = .ok rest →
      (feedAll maxDataLength [] chunks).1 = (feedAll maxDataLength [] chunks').1) ∧
    (∀ e, (feedAll maxDataLength [] chunks).2 = .error e →
      ∃ fed chunk later, chunks = fed ++ chunk :: later ∧
        (feedAll maxDataLength [] chunks).1 = (extractAll maxDataLength fed.flatten).1 ∧
        (∃ rest, (feedAll maxDataLength [] fed).2 = .ok rest) ∧
        (extractAll maxDataLength (fed.flatten ++ chunk)).2 = .error e) ∧
    ((feedAll maxDataLength [] chunks).1 <+: (feedAll maxDataLength [] chunks').1 ∨
      (feedAll maxDataLength [] chunks').1 <+: (feedAll maxDataLength [] chunks).1) ∧
    (feedAll maxDataLength [] chunks).1.flatMap (·.bytes) <+: chunks.flatten ∧
    ∀ fed later rest, chunks = fed ++ later → (feedAll maxDataLength [] fed).2 = .ok rest →
      rest.length < max 66 (12 + maxDataLength) := by
  refine ⟨?_, fun rest h => ?_, fun e h => ?_, ?_, ?_, fun fed later rest _ h => ?_⟩
  · rw [feedAll_snd, feedAll_snd, hstream]
  · have h' : (feedAll maxDataLength [] chunks').2 = .ok rest := by
      rw [feedAll_snd, ← hstream, ← feedAll_snd, h]
    rw [feedAll_fst h, feedAll_fst h', hstream]
  · obtain ⟨fed, chunk, later, rest, hchunks, hframes, herror⟩ := feedAll_error extractAll_nil h
    rw [nil_append, nil_append] at hframes
    rw [nil_append] at herror
    refine ⟨fed, chunk, later, hchunks, by rw [hframes], ⟨rest, ?_⟩, herror⟩
    rw [feedAll_snd, hframes]
  · have hprefix : (feedAll maxDataLength [] chunks').1 <+:
        (extractAll maxDataLength chunks.flatten).1 := hstream ▸ feedAll_initial chunks'
    exact prefix_or_prefix_of_prefix (feedAll_initial chunks) hprefix
  · obtain ⟨later, hframes⟩ : (feedAll maxDataLength [] chunks).1 <+:
        (extractAll maxDataLength chunks.flatten).1 := feedAll_initial chunks
    obtain ⟨rest, hbytes⟩ : (extractAll maxDataLength chunks.flatten).1.flatMap (·.bytes) <+:
        chunks.flatten := flatMap_extractAll _
    rw [← hframes, flatMap_append, append_assoc] at hbytes
    exact ⟨_, hbytes⟩
  · have hall := feedAll_ok extractAll_nil h
    exact length_lt_of_tryExtract_none (tryExtract_none_of_extractAll hall)

theorem framing_chunks_handshake :
    [[0, 2], [65, 66]].flatten = [[0, 2, 65, 66]].flatten ∧
      (feedAll 4096 [] [[0, 2], [65, 66]]).1 = (feedAll 4096 [] [[0, 2, 65, 66]]).1 :=
  ⟨rfl, (framing_chunks 4096 rfl).2.1 [] (by decide +kernel)⟩

/-- A handshake and a violation of the protocol: in one chunk the handshake is lost.  And a
handshake that is not complete is longer than a small cap on the data allows. -/
theorem framing_depends :
    ¬ (∀ maxDataLength (chunks chunks' : List Bytes), chunks.flatten = chunks'.flatten →
        (feedAll maxDataLength [] chunks).1 = (feedAll maxDataLength [] chunks').1) ∧
      ¬ ∀ maxDataLength chunks rest, (feedAll maxDataLength [] chunks).2 = .ok rest →
        rest.length < 12 + maxDataLength := by
  refine ⟨fun h => ?_, fun h => ?_⟩
  · have hframes := h 4096 [[0, 2, 65, 66], [255, 255, 48, 48]] [[0, 2, 65, 66, 255, 255, 48, 48]]
      rfl
    exact absurd hframes (by decide +kernel)
  · have hheld := h 10 [0 :: 64 :: replicate 58 48] (0 :: 64 :: replicate 58 48) (by decide +kernel)
    exact absurd hheld (by decide +kernel)

end Orbetra.Codec
