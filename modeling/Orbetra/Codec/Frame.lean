import Mathlib

/-!
# The streaming framer

`StreamFramer`: the frames of a byte stream, as its chunks arrive.

What the framer yields, and what it keeps, does not depend on how the stream is split
(`extractAll_append`). -/

namespace Orbetra.Codec

open List

abbrev Bytes := List UInt8

inductive CodecError
  | frame
  | crc
  /-- `UndecodableRecordsError` -/
  | undecodable (declaredCount : ℕ)
  /-- An error of another class, such as a `RangeError`. -/
  | other
  deriving DecidableEq

inductive FrameKind
  | imei
  | avl
  deriving DecidableEq

structure Frame where
  kind : FrameKind
  bytes : Bytes
  deriving DecidableEq

/-- The first bytes as a number, the most significant first. -/
def readUIntBE (width : ℕ) (buf : Bytes) : ℕ :=
  (buf.take width).foldl (fun n b => 256 * n + b.toNat) 0

variable {buf : Bytes}

lemma readUIntBE_append {width : ℕ} (h : width ≤ buf.length) (chunk : Bytes) :
    readUIntBE width (buf ++ chunk) = readUIntBE width buf := by
  unfold readUIntBE
  rw [take_append_of_le_length h]

/-- `tryExtract`: a frame and the bytes after it, where the buffer holds one. -/
def tryExtract (maxDataLength : ℕ) (buf : Bytes) : Except CodecError (Option (Frame × Bytes)) :=
  if buf.length < 4 then
    .ok none
  else if readUIntBE 4 buf ≠ 0 then
    let len := readUIntBE 2 buf
    if len = 0 ∨ len > 64 then
      .error .frame
    else if buf.length < 2 + len then
      .ok none
    else
      .ok (some (⟨.imei, buf.take (2 + len)⟩, buf.drop (2 + len)))
  else if buf.length < 8 then
    .ok none
  else
    let dataLen := readUIntBE 4 (buf.drop 4)
    if dataLen = 0 ∨ dataLen > maxDataLength then
      .error .frame
    else
      let total := 8 + dataLen + 4
      if buf.length < total then
        .ok none
      else
        .ok (some (⟨.avl, buf.take total⟩, buf.drop total))

/-- The frames in a buffer, and the bytes that are left or the error that ends it.  Every frame has
a byte, so that the length of the buffer is fuel enough. -/
def extractFuel (maxDataLength : ℕ) : ℕ → Bytes → List Frame × Except CodecError Bytes
  | 0, buf => ([], .ok buf)
  | fuel + 1, buf =>
    match tryExtract maxDataLength buf with
    | .error e => ([], .error e)
    | .ok none => ([], .ok buf)
    | .ok (some (frame, rest)) =>
      let (frames, left) := extractFuel maxDataLength fuel rest
      (frame :: frames, left)

def extractAll (maxDataLength : ℕ) (buf : Bytes) : List Frame × Except CodecError Bytes :=
  extractFuel maxDataLength buf.length buf

/-- `feed`: the frames that a chunk completes.  Where the framer throws, the frames before the
error are lost. -/
def feed (maxDataLength : ℕ) (buf chunk : Bytes) : Except CodecError (List Frame × Bytes) :=
  match extractAll maxDataLength (buf ++ chunk) with
  | (frames, .ok rest) => .ok (frames, rest)
  | (_, .error e) => .error e

/-! ## The stream and its chunks -/

variable {maxDataLength : ℕ}

variable {frame : Frame} {rest : Bytes}

lemma tryExtract_spec (h : tryExtract maxDataLength buf = .ok (some (frame, rest))) :
    buf = frame.bytes ++ rest ∧ 0 < frame.bytes.length := by
  unfold tryExtract at h
  dsimp only at h
  split_ifs at h with hshort himei hlen hmore hshort' hdata hmore'
  · cases h
  · cases h
  · cases h
    refine ⟨(take_append_drop _ _).symm, ?_⟩
    show 0 < (buf.take _).length
    rw [length_take]
    omega
  · cases h
  · cases h
  · cases h
    refine ⟨(take_append_drop _ _).symm, ?_⟩
    show 0 < (buf.take _).length
    rw [length_take]
    omega

lemma tryExtract_append (h : tryExtract maxDataLength buf = .ok (some (frame, rest)))
    (chunk : Bytes) :
    tryExtract maxDataLength (buf ++ chunk) = .ok (some (frame, rest ++ chunk)) := by
  have hdrop : ∀ n, n ≤ buf.length → (buf ++ chunk).drop n = buf.drop n ++ chunk :=
    fun n hn => drop_append_of_le_length hn
  unfold tryExtract at h ⊢
  dsimp only at h ⊢
  rw [length_append]
  split_ifs at h with hshort himei hlen hmore hshort' hdata hmore'
  · cases h
  · cases h
  · cases h
    rw [readUIntBE_append (by omega), readUIntBE_append (by omega), if_neg (by omega),
      if_pos himei, if_neg hlen, if_neg (by omega), take_append_of_le_length (by omega),
      hdrop _ (by omega)]
  · cases h
  · cases h
  · cases h
    have hfour : readUIntBE 4 (buf.drop 4 ++ chunk) = readUIntBE 4 (buf.drop 4) := by
      refine readUIntBE_append ?_ chunk
      rw [length_drop]
      omega
    rw [readUIntBE_append (by omega), hdrop 4 (by omega), hfour, if_neg (by omega), if_neg himei,
      if_neg (by omega), if_neg hdata, if_neg (by omega),
      take_append_of_le_length (by omega), hdrop _ (by omega)]

variable {e : CodecError}

/-- An error of the framer stays one, whatever follows. -/
lemma tryExtract_error (h : tryExtract maxDataLength buf = .error e) (chunk : Bytes) :
    tryExtract maxDataLength (buf ++ chunk) = .error e := by
  unfold tryExtract at h ⊢
  dsimp only at h ⊢
  rw [length_append]
  split_ifs at h with hshort himei hlen hmore hshort' hdata hmore'
  · cases h
    rw [readUIntBE_append (by omega), readUIntBE_append (by omega), if_neg (by omega),
      if_pos himei, if_pos hlen]
  · cases h
    have hfour : readUIntBE 4 ((buf ++ chunk).drop 4) = readUIntBE 4 (buf.drop 4) := by
      rw [drop_append_of_le_length (by omega)]
      refine readUIntBE_append ?_ chunk
      rw [length_drop]
      omega
    rw [readUIntBE_append (by omega), hfour, if_neg (by omega), if_neg himei, if_neg (by omega),
      if_pos hdata]

lemma extractFuel_eq {fuel : ℕ} (h : buf.length ≤ fuel) :
    extractFuel maxDataLength fuel buf = extractAll maxDataLength buf := by
  unfold extractAll
  induction fuel using Nat.strong_induction_on generalizing buf with
  | _ fuel ih =>
    cases fuel with
    | zero =>
      obtain rfl := length_eq_zero_iff.mp (Nat.le_zero.mp h)
      rfl
    | succ fuel =>
      cases hlength : buf.length with
      | zero =>
        obtain rfl := length_eq_zero_iff.mp hlength
        rfl
      | succ n =>
        unfold extractFuel
        cases hextract : tryExtract maxDataLength buf with
        | error e => rfl
        | ok found =>
          cases found with
          | none => rfl
          | some found =>
            obtain ⟨frame, rest⟩ := found
            obtain ⟨rfl, hpos⟩ := tryExtract_spec hextract
            rw [length_append] at h hlength
            dsimp only
            rw [ih fuel (Nat.lt_succ_self _) (by omega), ih n (by omega) (by omega)]

/-- The frames of a buffer, one at a time. -/
lemma extractAll_some (h : tryExtract maxDataLength buf = .ok (some (frame, rest))) :
    extractAll maxDataLength buf =
      (frame :: (extractAll maxDataLength rest).1, (extractAll maxDataLength rest).2) := by
  obtain ⟨hbuf, hpos⟩ := tryExtract_spec h
  have hfuel : extractAll maxDataLength buf = extractFuel maxDataLength (buf.length + 1) buf :=
    (extractFuel_eq (Nat.le_succ _)).symm
  rw [hfuel]
  unfold extractFuel
  rw [h]
  dsimp only
  rw [extractFuel_eq]
  rw [hbuf, length_append]
  omega

lemma extractAll_none (h : tryExtract maxDataLength buf = .ok none) :
    extractAll maxDataLength buf = ([], .ok buf) := by
  have hfuel : extractAll maxDataLength buf = extractFuel maxDataLength (buf.length + 1) buf :=
    (extractFuel_eq (Nat.le_succ _)).symm
  rw [hfuel]
  unfold extractFuel
  rw [h]

lemma extractAll_error (h : tryExtract maxDataLength buf = .error e) :
    extractAll maxDataLength buf = ([], .error e) := by
  have hfuel : extractAll maxDataLength buf = extractFuel maxDataLength (buf.length + 1) buf :=
    (extractFuel_eq (Nat.le_succ _)).symm
  rw [hfuel]
  unfold extractFuel
  rw [h]

/-- The frames of a buffer and of what follows it, and what is left of both. -/
theorem extractAll_append (buf chunk : Bytes) :
    extractAll maxDataLength (buf ++ chunk) =
      match extractAll maxDataLength buf with
      | (frames, .error e) => (frames, .error e)
      | (frames, .ok rest) =>
        (frames ++ (extractAll maxDataLength (rest ++ chunk)).1,
          (extractAll maxDataLength (rest ++ chunk)).2) := by
  induction hlength : buf.length using Nat.strong_induction_on generalizing buf with
  | _ n ih =>
    cases hextract : tryExtract maxDataLength buf with
    | error e => rw [extractAll_error hextract, extractAll_error (tryExtract_error hextract chunk)]
    | ok found =>
      cases found with
      | none =>
        rw [extractAll_none hextract]
        rfl
      | some found =>
        obtain ⟨frame, rest⟩ := found
        obtain ⟨hbuf, hpos⟩ := tryExtract_spec hextract
        have hshorter : rest.length < n := by
          rw [← hlength, hbuf, length_append]
          omega
        rw [extractAll_some hextract, extractAll_some (tryExtract_append hextract chunk),
          ih rest.length hshorter rest rfl]
        rcases hrest : extractAll maxDataLength rest with ⟨frames, left⟩
        cases left with
        | error e => rfl
        | ok left => rfl

/-- What follows takes no frame away. -/
lemma extractAll_prefix (buf chunk : Bytes) :
    (extractAll maxDataLength buf).1 <+: (extractAll maxDataLength (buf ++ chunk)).1 := by
  rw [extractAll_append]
  split
  · rename_i frames e h
    simp only [h, prefix_rfl]
  · rename_i frames rest h
    rw [h]
    exact prefix_append _ _

lemma extractAll_feed {before chunk : Bytes} {frames later : List Frame}
    (hbefore : extractAll maxDataLength before = (frames, .ok buf))
    (h : feed maxDataLength buf chunk = .ok (later, rest)) :
    extractAll maxDataLength (before ++ chunk) = (frames ++ later, .ok rest) := by
  unfold feed at h
  split at h
  · rename_i frames' rest' hextract
    cases h
    rw [extractAll_append, hbefore]
    dsimp only
    rw [hextract]
  · cases h

end Orbetra.Codec
