import Orbetra.Framework.Paging
import Orbetra.Gdpr.Export
import Orbetra.Records

/-!
# The history of a device

`bigid.ts`, `dateGuard.ts` and `readPositions` of `positions.ts`.  The cursor of a page is the text
of two integers, a time and a signed hash.  The hash may have a sign and the time may not, so a page
that ends before 1970, or after the last time that Postgres is asked for, is followed by the first
page. -/

namespace Orbetra.Db

open List Nat

open Gdpr (orderBy orderBy_perm pairwise_orderBy_lt)
open Paging (IsPage Reads)

/-! ## `bigid.ts` and `dateGuard.ts` -/

def int8Min : ℤ := -(2 ^ 63)

def int8Max : ℤ := 2 ^ 63 - 1

/-- `toInt8OrNull` -/
def toInt8OrNull (s : Text) (signed : Bool) : Option ℤ := do
  let v ← if signed then integerText s else (naturalText s).map Int.ofNat
  if int8Min ≤ v ∧ v ≤ int8Max then some v else none

/-- `Date.parse('0001-01-01T00:00:00Z')` -/
def pgMinMs : Ms := -62135596800000

/-- `Date.parse('9999-12-31T23:59:59Z')` -/
def pgMaxMs : Ms := 253402300799000

/-- `isPgSafeDate`, with the date where the text is that of one. -/
def pgSafeDate (s : Option Ms) : Option Ms := s.filter fun t => pgMinMs ≤ t ∧ t ≤ pgMaxMs

/-- The times that a `Date` holds. -/
def IsDate (t : Ms) : Prop := -8640000000000000 ≤ t ∧ t ≤ 8640000000000000

def IsInt8 (n : ℤ) : Prop := int8Min ≤ n ∧ n ≤ int8Max

instance (t : Ms) : Decidable (IsDate t) := by unfold IsDate; infer_instance

instance (n : ℤ) : Decidable (IsInt8 n) := by unfold IsInt8; infer_instance

/-- An integer as JavaScript and Postgres print it. -/
def bigintText : ℤ → Text
  | .ofNat n => toDigits 10 n
  | .negSucc n => '-' :: toDigits 10 (n + 1)

def clampTake (otherwise max : ℕ) (n : Option ℤ) : ℕ :=
  (min (Max.max (n.getD otherwise) 1) max).toNat

/-! ## `positions.ts` -/

/-- `PositionsOpts`; a text that is no date is `none`. -/
structure PositionsOpts where
  fromMs : Option Ms
  toMs : Option Ms
  cursor : Option Text
  limit : Option ℤ

def maxPage : ℕ := 10000

def parseCursor (c : Option Text) : Option (Ms × ℤ) := do
  let c ← c
  match c.dropWhile (· ≠ '_') with
  | _ :: hash => do
    let ms ← naturalText (c.takeWhile (· ≠ '_'))
    let hash ← toInt8OrNull hash true
    if pgMinMs ≤ ms ∧ ms ≤ pgMaxMs then some (ms, hash) else none
  | [] => none

/-- `PositionView`, its texts as what they are texts of. -/
structure PositionView where
  fixTime : Ms
  lat : ℚ
  lon : ℚ
  speed : Option ℚ
  course : Option ℤ
  ignition : Option Bool
  movement : Option Bool
  fixValid : Bool
  odometerM : Option ℤ
  recHash : ℤ
  deriving DecidableEq

def viewOf (row : NormalizedRecord) : PositionView where
  fixTime := row.fixTime
  lat := row.lat
  lon := row.lon
  speed := row.speed
  course := row.course
  ignition := row.ignition
  movement := row.movement
  fixValid := row.fixValid
  odometerM := row.odometerM
  recHash := row.recHash

structure PositionTable where
  rows : List NormalizedRecord
  key : (rows.map NormalizedRecord.key).Nodup
  dates : ∀ row ∈ rows, IsDate row.fixTime
  hashes : ∀ row ∈ rows, IsInt8 row.recHash

/-- `(fix_time, rec_hash)` -/
def orderKey (row : NormalizedRecord) : ℤ ×ₗ ℤ := toLex (row.fixTime, row.recHash)

/-- The filter of a request. -/
def PositionsOpts.selects (opts : PositionsOpts) (deviceId : DeviceId) (row : NormalizedRecord) :
    Bool :=
  row.deviceId = deviceId ∧ (pgSafeDate opts.fromMs).all (· ≤ row.fixTime) ∧
    (pgSafeDate opts.toMs).all (row.fixTime ≤ ·)

def readPositions (table : PositionTable) (deviceId : DeviceId) (opts : PositionsOpts) :
    List PositionView :=
  let rows := table.rows.filter fun row =>
    opts.selects deviceId row ∧ (parseCursor opts.cursor).all fun cur => toLex cur < orderKey row
  ((orderBy orderKey rows).take (clampTake maxPage maxPage opts.limit)).map viewOf

namespace PositionView

/-- The cursor that a caller builds from the last row of a page. -/
def cursor (view : PositionView) : Text := bigintText view.fixTime ++ '_' :: bigintText view.recHash

def key (view : PositionView) : ℤ ×ₗ ℤ := toLex (view.fixTime, view.recHash)

/-- The cursor of the row is read. -/
def Readable (view : PositionView) : Prop := 0 ≤ view.fixTime ∧ view.fixTime ≤ pgMaxMs

instance (view : PositionView) : Decidable view.Readable := by unfold Readable; infer_instance

end PositionView

variable (deviceId : DeviceId) (opts : PositionsOpts)

def matching (table : PositionTable) : List PositionView :=
  (table.rows.filter (opts.selects deviceId)).map viewOf

def historyPages (tables : ℕ → PositionTable) : ℕ → List PositionView :=
  Paging.walk (fun n cursor => readPositions (tables n) deviceId { opts with cursor })
    PositionView.cursor

/-! ## Texts of integers -/

lemma naturalText_toDigits (n : ℕ) : naturalText (toDigits 10 n) = some n := by
  have hdigits : (toDigits 10 n).all Char.isDigit = true :=
    all_eq_true.mpr fun c hc => isDigit_of_mem_toDigits (by decide) (by decide) hc
  have hvalue : textDigitsValue (toDigits 10 n) = n := ofDigitChars_ten_toDigits
  rw [naturalText, if_pos ⟨toDigits_ne_nil, hdigits⟩, hvalue]

lemma naturalText_minus (t : Text) : naturalText ('-' :: t) = none := by
  refine if_neg fun h => ?_
  have hall := h.2
  rw [all_cons] at hall
  exact absurd (Bool.and_eq_true_iff.mp hall).1 (by decide)

lemma integerText_bigintText (n : ℤ) : integerText (bigintText n) = some n := by
  cases n with
  | ofNat n =>
    cases hdigits : toDigits 10 n with
    | nil => exact absurd hdigits toDigits_ne_nil
    | cons c t =>
      have hdigit : c.isDigit = true :=
        isDigit_of_mem_toDigits (b := 10) (n := n) (by decide) (by decide)
        (hdigits ▸ mem_cons_self)
      have hminus : c ≠ '-' := fun h => absurd (h ▸ hdigit) (by decide)
      have hnatural := naturalText_toDigits n
      rw [hdigits] at hnatural
      show integerText (toDigits 10 n) = _
      rw [hdigits, integerText, hnatural]
      · rfl
      · intro t' hcons
        exact hminus (cons.inj hcons).1
  | negSucc n =>
    show integerText ('-' :: toDigits 10 (n + 1)) = _
    rw [integerText, naturalText_toDigits]
    rfl

lemma naturalText_bigintText (n : ℤ) :
    naturalText (bigintText n) = if 0 ≤ n then some n.toNat else none := by
  cases n with
  | ofNat n => exact (naturalText_toDigits n).trans (if_pos (Int.natCast_nonneg n)).symm
  | negSucc n => exact (naturalText_minus _).trans (if_neg (Int.negSucc_not_nonneg n |>.mp)).symm

lemma bar_notMem_toDigits (n : ℕ) : '_' ∉ toDigits 10 n := fun h =>
  absurd (isDigit_of_mem_toDigits (by decide) (by decide) h) (by decide)

lemma bar_notMem_bigintText (n : ℤ) : '_' ∉ bigintText n := by
  cases n with
  | ofNat n => exact bar_notMem_toDigits n
  | negSucc n =>
    refine fun h => (mem_cons.mp h).elim (by decide) (bar_notMem_toDigits (n + 1))

/-! ## The cursor of a page -/

variable {n : ℤ} {view : PositionView}

lemma toInt8OrNull_bigintText (h : IsInt8 n) : toInt8OrNull (bigintText n) true = some n := by
  unfold toInt8OrNull
  rw [if_pos rfl, integerText_bigintText]
  exact if_pos h

lemma toInt8OrNull_unsigned (h : IsInt8 n) :
    toInt8OrNull (bigintText n) false = if 0 ≤ n then some n else none := by
  unfold toInt8OrNull
  rw [if_neg Bool.false_ne_true, naturalText_bigintText]
  by_cases hsign : 0 ≤ n
  · rw [if_pos hsign, if_pos hsign, Option.map_some, Int.ofNat_eq_natCast,
      Int.toNat_of_nonneg hsign]
    exact if_pos h
  · rw [if_neg hsign, if_neg hsign]
    rfl

lemma takeWhile_bar (n : ℤ) (t : Text) :
    (bigintText n ++ '_' :: t).takeWhile (· ≠ '_') = bigintText n := by
  have hall : ∀ c ∈ bigintText n, decide (c ≠ '_') = true := fun c hc =>
    decide_eq_true fun h => bar_notMem_bigintText n (h ▸ hc)
  rw [takeWhile_append_of_pos hall, takeWhile_cons_of_neg (by decide), append_nil]

lemma dropWhile_bar (n : ℤ) (t : Text) :
    (bigintText n ++ '_' :: t).dropWhile (· ≠ '_') = '_' :: t := by
  have hall : ∀ c ∈ bigintText n, decide (c ≠ '_') = true := fun c hc =>
    decide_eq_true fun h => bar_notMem_bigintText n (h ▸ hc)
  rw [dropWhile_append_of_pos hall, dropWhile_cons_of_neg (by decide)]

/-- The cursor that was built from a row, read again. -/
lemma parseCursor_cursor (h : IsInt8 view.recHash) :
    parseCursor (some view.cursor) =
      if view.Readable then some (view.fixTime, view.recHash) else none := by
  show (match (bigintText view.fixTime ++ '_' :: bigintText view.recHash).dropWhile (· ≠ '_') with
    | _ :: hash => do
      let ms ← naturalText
        ((bigintText view.fixTime ++ '_' :: bigintText view.recHash).takeWhile (· ≠ '_'))
      let hash ← toInt8OrNull hash true
      if pgMinMs ≤ (ms : ℤ) ∧ (ms : ℤ) ≤ pgMaxMs then some ((ms : ℤ), hash) else none
    | [] => none) = _
  rw [takeWhile_bar, dropWhile_bar]
  dsimp only
  rw [toInt8OrNull_bigintText h, naturalText_bigintText]
  by_cases hsign : 0 ≤ view.fixTime
  · rw [if_pos hsign]
    show (if pgMinMs ≤ (view.fixTime.toNat : ℤ) ∧ (view.fixTime.toNat : ℤ) ≤ pgMaxMs then
      some ((view.fixTime.toNat : ℤ), view.recHash) else none) = _
    rw [Int.toNat_of_nonneg hsign]
    have hmin : pgMinMs ≤ view.fixTime := (show pgMinMs ≤ 0 by decide).trans hsign
    exact if_congr ⟨fun hle => ⟨hsign, hle.2⟩, fun hread => ⟨hmin, hread.2⟩⟩ rfl rfl
  · rw [if_neg hsign, if_neg fun hread : view.Readable => hsign hread.1]
    rfl

/-! ## The pages of the history -/

variable {deviceId opts}

lemma selects_device {row : NormalizedRecord} (h : opts.selects deviceId row = true) :
    row.deviceId = deviceId := (of_decide_eq_true h).1

variable {selects : NormalizedRecord → Bool}

lemma nodup_orderKey (table : PositionTable)
    (hdevice : ∀ row, selects row = true → row.deviceId = deviceId) :
    ((table.rows.filter selects).map orderKey).Nodup := by
  have hkey := pairwise_map.mp table.key
  refine pairwise_map.mpr ((hkey.filter selects).imp_of_mem ?_)
  intro row row' hrow hrow' hne heq
  have hsame : row.deviceId = row'.deviceId :=
    (hdevice row (mem_filter.mp hrow).2).trans (hdevice row' (mem_filter.mp hrow').2).symm
  obtain ⟨htime, hhash⟩ := Prod.mk.inj (toLex_inj.mp heq)
  exact hne (by rw [NormalizedRecord.key, NormalizedRecord.key, hsame, htime, hhash])

lemma clampTake_pos {otherwise max : ℕ} (hmax : 0 < max) (n : Option ℤ) :
    0 < clampTake otherwise max n := by
  unfold clampTake
  omega

lemma isPage_query (table : PositionTable)
    (hdevice : ∀ row, selects row = true → row.deviceId = deviceId) {size : ℕ} (hsize : 0 < size) :
    IsPage PositionView.key ((table.rows.filter selects).map viewOf)
      (((orderBy orderKey (table.rows.filter selects)).take size).map viewOf) := by
  have hsorted := pairwise_orderBy_lt (nodup_orderKey table hdevice)
  exact IsPage.map (fun _ => rfl) (.of_sorted orderBy_perm (pairwise_map.mpr hsorted) hsize)

lemma readPositions_start (table : PositionTable) (opts : PositionsOpts)
    (h : parseCursor opts.cursor = none) :
    readPositions table deviceId opts =
      ((orderBy orderKey (table.rows.filter (opts.selects deviceId))).take
      (clampTake maxPage maxPage opts.limit)).map viewOf := by
  have hfilter : (fun row => decide (opts.selects deviceId row = true ∧
      ((parseCursor opts.cursor).all fun cur => decide (toLex cur < orderKey row)) = true)) =
      opts.selects deviceId := by
    funext row
    rw [h, Option.all_none, Bool.decide_and, Bool.decide_eq_true, decide_eq_true rfl, Bool.and_true]
  unfold readPositions
  rw [hfilter]

lemma isPage_beyond (table : PositionTable) (opts : PositionsOpts) {last : PositionView}
    (h : parseCursor opts.cursor = some (last.fixTime, last.recHash)) :
    IsPage PositionView.key ((matching deviceId opts table).filter fun view => last.key < view.key)
      (readPositions table deviceId opts) := by
  have hselection : (matching deviceId opts table).filter (fun view => last.key < view.key) =
      (table.rows.filter fun row => opts.selects deviceId row ∧
        (parseCursor opts.cursor).all fun cur => toLex cur < orderKey row).map viewOf := by
    unfold matching
    rw [filter_map, filter_filter, h]
    congr 2
    funext row
    rw [Option.all_some, Bool.decide_and, Bool.decide_eq_true, Bool.decide_eq_true, Bool.and_comm]
    rfl
  rw [hselection]
  have hdevice : ∀ row, decide (opts.selects deviceId row = true ∧
      ((parseCursor opts.cursor).all fun cur => decide (toLex cur < orderKey row)) = true) = true →
        row.deviceId = deviceId := fun row hrow => selects_device (of_decide_eq_true hrow).1
  exact isPage_query table hdevice (clampTake_pos (by decide) opts.limit)

lemma recHash_of_mem_matching {table : PositionTable} (h : view ∈ matching deviceId opts table) :
    IsInt8 view.recHash := by
  obtain ⟨row, hrow, rfl⟩ := mem_map.mp h
  exact table.hashes row (mem_filter.mp hrow).1

lemma reads_positions (tables : ℕ → PositionTable) :
    Reads PositionView.key PositionView.Readable PositionView.cursor
      (fun n => matching deviceId opts (tables n))
      fun n cursor => readPositions (tables n) deviceId { opts with cursor } where
  subset n after view hview := by
    obtain ⟨row, hrow, rfl⟩ := mem_map.mp hview
    have hmem := mem_filter.mp (orderBy_perm.subset (mem_of_mem_take hrow))
    exact mem_map_of_mem (mem_filter.mpr ⟨hmem.1, (of_decide_eq_true hmem.2).1⟩)
  start n := by
    rw [readPositions_start (tables n) _ rfl]
    exact isPage_query (tables n) (fun _ => selects_device) (clampTake_pos (by decide) opts.limit)
  beyond m n view hview hread := by
    have hparse := parseCursor_cursor (recHash_of_mem_matching hview)
    rw [if_pos hread] at hparse
    exact isPage_beyond (tables n) { opts with cursor := some view.cursor } hparse
  again m n view hview hread := by
    have hparse := parseCursor_cursor (recHash_of_mem_matching hview)
    rw [if_neg hread] at hparse
    rw [readPositions_start (tables n) { opts with cursor := some view.cursor } hparse,
      readPositions_start (tables n) { opts with cursor := none } rfl]
    rfl

/-- The keys that the rows of a table have. -/
def orderKeys : Set (ℤ ×ₗ ℤ) :=
  toLex '' (Set.Icc (-8640000000000000) 8640000000000000 ×ˢ Set.Icc int8Min int8Max)

lemma finite_orderKeys : orderKeys.Finite :=
  ((Set.finite_Icc _ _).prod (Set.finite_Icc _ _)).image toLex

lemma key_mem_orderKeys (table : PositionTable) :
    ∀ view ∈ matching deviceId opts table, view.key ∈ orderKeys := by
  intro view hview
  obtain ⟨row, hrow, rfl⟩ := mem_map.mp hview
  have hmem := (mem_filter.mp hrow).1
  exact ⟨(row.fixTime, row.recHash), ⟨table.dates row hmem, table.hashes row hmem⟩, rfl⟩

/-- **The history is returned once and in order iff its cursors are read where they have to be.** -/
lemma historyPages_exact_iff (tables : ℕ → PositionTable) :
    Paging.Exact PositionView.key (fun n => matching deviceId opts (tables n))
      (historyPages deviceId opts tables) ↔
    Paging.MovesOn PositionView.key PositionView.Readable
      (fun n => matching deviceId opts (tables n))
      (historyPages deviceId opts tables) :=
  (reads_positions tables).exact_iff finite_orderKeys fun n => key_mem_orderKeys (tables n)

end Orbetra.Db
