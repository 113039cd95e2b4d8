import Orbetra.Devices.Csv

/-!
# The report of an import

`applyImport` of `apps/api/src/routes/deviceImport.ts` with its `dryRun`, over what `parseCsv` reads:
each record is refused, known already, or tried, and each await of `devices.create` and of
`activateDevice` may throw.

The report is exact as long as no create throws once its row is committed, and no record that is to
be named stands below a blank line or a line break inside quotes, since `row` counts the records and
not the lines (`import_exact_iff`). -/

namespace Orbetra.Import

open List Csv Nat

/-! ## The lines of a file -/

/-- The loop of the parser, with the lines it passes; no code reads these. -/
structure LineScan where
  csv : CsvState
  line : ℕ
  /-- blank lines and line breaks inside quotes -/
  skipped : ℕ
  /-- the line on which the record begins, and what was skipped before it -/
  start : ℕ × ℕ
  /-- the same of each record that was kept -/
  starts : List (ℕ × ℕ)

namespace LineScan

variable (s : LineScan)

def IsKept (record : List Text) : Prop := 1 < record.length ∨ record.head? ≠ some []

instance : DecidablePred IsKept := fun _ => inferInstanceAs (Decidable (_ ∨ _))

def goOn (csv : CsvState) : LineScan := { s with csv := csv }

/-- A line break inside quotes. -/
def inside (ch : Char) : LineScan :=
  { s with csv := s.csv.add ch, line := s.line + 1, skipped := s.skipped + 1 }

def endLine : LineScan :=
  if IsKept (s.csv.record ++ [s.csv.field]) then
    ⟨s.csv.endLine, s.line + 1, s.skipped, (s.line + 1, s.skipped), s.starts ++ [s.start]⟩
  else ⟨s.csv.endLine, s.line + 1, s.skipped + 1, (s.line + 1, s.skipped + 1), s.starts⟩

def finish : List (ℕ × ℕ) :=
  if (s.csv.field ≠ [] ∨ s.csv.record ≠ []) ∧ IsKept (s.csv.record ++ [s.csv.field]) then
    s.starts ++ [s.start]
  else s.starts

end LineScan

def lineScan (s : LineScan) : Text → LineScan
  | [] => s
  | ch :: t =>
    if s.csv.inQuotes then
      if ch = '"' then
        match t with
        | '"' :: t' => lineScan (s.goOn (s.csv.add '"')) t'
        | t' => lineScan (s.goOn { s.csv with inQuotes := false }) t'
      -- `\r\n` is one break
      else if ch = '\n' ∨ ch = '\r' ∧ t.head? ≠ some '\n' then lineScan (s.inside ch) t
      else lineScan (s.goOn (s.csv.add ch)) t
    else if ch = '"' then lineScan (s.goOn { s.csv with inQuotes := true }) t
    else if ch = ',' then lineScan (s.goOn s.csv.endField) t
    else if ch = '\n' then lineScan s.endLine t
    else if ch = '\r' then
      match t with
      | '\n' :: t' => lineScan s.endLine t'
      | t' => lineScan s.endLine t'
    else lineScan (s.goOn (s.csv.add ch)) t

/-- Of each row of the file, the header first: its line, and what was skipped before it. -/
def rowStarts (text : Text) : List (ℕ × ℕ) :=
  (lineScan ⟨⟨[], [], [], false⟩, 1, 0, (1, 0), []⟩ text).finish

/-- The line on which a data record begins. -/
def recordLine (text : Text) (k : ℕ) : Option ℕ := (rowStarts text)[k + 1]?.map (·.1)

/-- The blank lines and the line breaks inside quotes before a data record. -/
def skippedBefore (text : Text) (k : ℕ) : Option ℕ := (rowStarts text)[k + 1]?.map (·.2)

structure LineScan.Ok (s : LineScan) : Prop where
  length : s.starts.length = s.csv.rows.length
  line : s.line = 1 + s.csv.rows.length + s.skipped
  start : s.start.1 = 1 + s.csv.rows.length + s.start.2
  starts : ∀ k p, s.starts[k]? = some p → p.1 = 1 + k + p.2

section Lines

variable {s : LineScan} {t text : Text} {csv : CsvState}

lemma LineScan.Ok.goOn (h : s.Ok) (hrows : csv.rows = s.csv.rows) : (s.goOn csv).Ok :=
  ⟨hrows ▸ h.length, hrows ▸ h.line, hrows ▸ h.start, h.starts⟩

variable {k : ℕ} {record : List Text}

lemma getElem?_starts (h : s.Ok) {p : ℕ × ℕ} (hk : (s.starts ++ [s.start])[k]? = some p) :
    p.1 = 1 + k + p.2 := by
  rw [getElem?_append] at hk
  split at hk
  · exact h.starts k p hk
  · obtain ⟨hlt, rfl⟩ := List.getElem?_eq_some_iff.1 hk
    simp only [length_singleton, getElem_singleton] at hlt ⊢
    have := h.start
    have := h.length
    omega

lemma rowsWith_of_kept (h : LineScan.IsKept record) : csv.rowsWith record = csv.rows ++ [record] :=
  if_pos h

lemma rowsWith_of_not_kept (h : ¬ LineScan.IsKept record) : csv.rowsWith record = csv.rows :=
  if_neg h

lemma LineScan.Ok.endLine (h : s.Ok) : s.endLine.Ok := by
  have hline := h.line
  have hlength := h.length
  unfold LineScan.endLine
  split
  · next hkept =>
    have hrows : s.csv.endLine.rows = s.csv.rows ++ [s.csv.record ++ [s.csv.field]] :=
      rowsWith_of_kept hkept
    refine ⟨?_, ?_, ?_, fun k p => getElem?_starts h⟩ <;>
      simp only [hrows, length_append, length_singleton] <;> omega
  · next hblank =>
    have hrows : s.csv.endLine.rows = s.csv.rows := rowsWith_of_not_kept hblank
    refine ⟨?_, ?_, ?_, h.starts⟩ <;> simp only [hrows] <;> omega

lemma lineScan_ok (h : s.Ok) : (lineScan s t).Ok := by
  fun_induction lineScan s t with
  | case1 s => exact h
  | case4 s ch t hq hne hbreak ih =>
    refine ih ⟨h.length, ?_, h.start, h.starts⟩
    have hline := h.line
    change s.line + 1 = 1 + s.csv.rows.length + (s.skipped + 1)
    omega
  | case8 s t hq _ _ ih | case9 s hq t _ _ _ ih | case10 s hq t hne _ _ _ ih => exact ih h.endLine
  | _ => rename_i ih; exact ih (h.goOn rfl)

lemma endLine_csv : s.endLine.csv = s.csv.endLine := by
  unfold LineScan.endLine
  split <;> rfl

/-- The lines are passed as the parser reads. -/
lemma lineScan_csv : (lineScan s t).csv = scan s.csv t := by
  fun_induction lineScan s t with
  | case1 s => rfl
  | case2 s hq t ih => exact ih.trans (scan_doubled hq).symm
  | case3 s hq t hne ih =>
    refine ih.trans (scan_close hq fun c hc heq => ?_).symm
    obtain ⟨t', rfl⟩ := head?_eq_some_iff.1 hc
    exact hne t' (heq ▸ rfl)
  | case4 s ch t hq hne hbreak ih | case5 s ch t hq hne hbreak ih =>
    exact ih.trans (scan_quoted hne hq).symm
  | case6 s t hq ih => exact ih.trans (scan_open (by simpa using hq)).symm
  | case7 s t hq _ ih => exact ih.trans (scan_comma (by simpa using hq)).symm
  | case8 s t hq _ _ ih =>
    rw [ih, endLine_csv, scan_lf (by simpa using hq)]
  | case9 s hq t _ _ _ ih =>
    rw [ih, endLine_csv, scan_crlf (by simpa using hq)]
  | case10 s hq t hne _ _ _ ih =>
    rw [ih, endLine_csv, scan_cr (by simpa using hq) hne]
  | case11 s ch t hq h₁ h₂ h₃ h₄ ih =>
    exact ih.trans (scan_plain (by simp [IsSpecial, h₁, h₂, h₃, h₄]) (by simpa using hq)).symm

/-- **Every record has a line**, and the lines before it are the records, the header and what was
skipped. -/
lemma exists_recordLine (hk : k < (parseCsv text).length) :
    ∃ skipped, skippedBefore text k = some skipped ∧ recordLine text k = some (k + 2 + skipped) := by
  obtain ⟨hok, hcsv⟩ : (lineScan ⟨⟨[], [], [], false⟩, 1, 0, (1, 0), []⟩ text).Ok ∧
      (lineScan ⟨⟨[], [], [], false⟩, 1, 0, (1, 0), []⟩ text).csv = scan ⟨[], [], [], false⟩ text :=
    ⟨lineScan_ok ⟨rfl, rfl, rfl, nofun⟩, lineScan_csv⟩
  rw [parseCsv, ← hcsv] at hk
  unfold skippedBefore recordLine rowStarts
  generalize lineScan _ text = s at hok hk
  have hlength : s.finish.length = s.csv.finish.length := by
    unfold LineScan.finish CsvState.finish
    by_cases hlast : s.csv.field ≠ [] ∨ s.csv.record ≠ []
    · by_cases hkept : LineScan.IsKept (s.csv.record ++ [s.csv.field])
      · rw [if_pos ⟨hlast, hkept⟩, if_pos hlast, rowsWith_of_kept hkept, length_append,
          length_append, hok.length]
        rfl
      · rw [if_neg fun h => hkept h.2, if_pos hlast, rowsWith_of_not_kept hkept, hok.length]
    · rw [if_neg fun h => hlast h.1, if_neg hlast, hok.length]
  have hlt : k + 1 < s.finish.length := by
    rw [hlength]
    split at hk
    · exact absurd hk (not_lt_zero k)
    · next hrows =>
      rw [hrows]
      simpa using hk
  obtain ⟨p, hp⟩ : ∃ p, s.finish[k + 1]? = some p := ⟨_, getElem?_eq_getElem hlt⟩
  have hline : p.1 = 1 + (k + 1) + p.2 := by
    unfold LineScan.finish at hp
    split at hp
    · exact getElem?_starts hok hp
    · exact hok.starts _ _ hp
  exact ⟨p.2, by rw [hp]; rfl, by rw [hp]; exact congrArg some (by change p.1 = _; omega)⟩

end Lines

/-! ## The dry run -/

structure ImportRow where
  imei : Text
  name : Text
  profileKey : Text
  accountId : Option Text
  plate : Option Text
  groupName : Option Text
  simMsisdn : Option Text

/-- A value that is there and not empty. -/
def truthy (value : Option Text) : Option Text := value.filter (· ≠ [])

def rowOf (r : Properties) : ImportRow where
  imei := (r "imei".toList).getD []
  name := (r "name".toList).getD []
  profileKey := (r "profileKey".toList <|> r "profile".toList).getD []
  accountId := truthy (r "accountId".toList)
  plate := truthy (r "plate".toList)
  groupName := truthy (r "groupName".toList)
  simMsisdn := truthy (r "simMsisdn".toList)

def rowsToImport (records : List Properties) : List ImportRow := records.map rowOf

def luhnDigit (c : Char) (i : ℕ) : ℕ :=
  let d := c.toNat - 48
  if i % 2 = 1 then if 9 < 2 * d then 2 * d - 9 else 2 * d else d

def luhnValid (imei : Text) : Bool :=
  imei.length = 15 && imei.all Char.isDigit && (imei.zipIdx.map fun c => luhnDigit c.1 c.2).sum % 10 = 0

/-- `/^\+[1-9]\d{6,14}$/` -/
def isMsisdn : Text → Bool
  | '+' :: c :: digits =>
    '1' ≤ c && c ≤ '9' && digits.all Char.isDigit && 6 ≤ digits.length && digits.length ≤ 14
  | _ => false

structure DeviceRow where
  id : Text
  imei : Text
  retired : Bool

/-- What an import is run with, besides its rows. -/
structure Deps where
  /-- key → profileId -/
  profiles : Text → Option Text
  /-- `db.devices.list(scope)` -/
  devices : List DeviceRow
  /-- `db.accounts.list(scope)` -/
  accounts : List Text
  callerAccountId : Option Text
  /-- the first issue `deviceCreateSchema` finds with a row and an account -/
  issue : ImportRow → Text → Option String

/-- What a row of the file comes to. -/
inductive Verdict
  | fail (reason : String)
  | update (deviceId : Text)
  | create (accountId : Text)

structure RowError where
  /-- the number of the data record, from zero; no code reads it -/
  record : ℕ
  row : ℕ
  imei : Text
  reason : String

structure CreateRow where
  /-- as in `RowError` -/
  record : ℕ
  row : ℕ
  data : ImportRow
  accountId : Text

structure DryRunResult where
  create : List CreateRow
  update : List (ℕ × Text × Text)
  errors : List RowError

namespace Deps

variable (d : Deps)

/-- An active device of the scope; a later one replaces an earlier one. -/
def existing (imei : Text) : Option Text :=
  ((d.devices.filter fun device => !device.retired).reverse.find? (·.imei = imei)).map (·.id)

/-- One turn of `rows.forEach`. -/
def check (seenInFile : List Text) (row : ImportRow) : Verdict :=
  if !luhnValid row.imei then .fail "invalid IMEI (must be 15 digits, valid Luhn checksum)"
  else if row.name = [] then .fail "name is required"
  else if (d.profiles row.profileKey).isNone then
    .fail ("unknown profile '" ++ String.ofList row.profileKey ++ "'")
  else if row.imei ∈ seenInFile then .fail "duplicate IMEI within the file"
  else if row.simMsisdn.any (!isMsisdn ·) then .fail "invalid simMsisdn (E.164, e.g. +37060000000)"
  else
    match d.callerAccountId <|> row.accountId with
    | none | some [] => .fail "accountId is required"
    | some accountId =>
      if accountId ∉ d.accounts then .fail "accountId not in your scope"
      else
        match d.issue row accountId, d.existing row.imei with
        | some reason, _ => .fail reason
        | none, some deviceId => .update deviceId
        | none, none => .create accountId

/-- `seenInFile` after a row. -/
def seen (seenInFile : List Text) (row : ImportRow) : List Text :=
  if luhnValid row.imei ∧ row.name ≠ [] ∧ (d.profiles row.profileKey).isSome then
    row.imei :: seenInFile
  else seenInFile

def judged (seenInFile : List Text) : List ImportRow → List (ImportRow × Verdict)
  | [] => []
  | row :: rows => (row, d.check seenInFile row) :: judged (d.seen seenInFile row) rows

/-- The header and the first record are on the lines 1 and 2. -/
def rowNum (i : ℕ) : ℕ := i + 2

def errorOf : (ImportRow × Verdict) × ℕ → Option RowError
  | ((row, .fail reason), i) => some ⟨i, rowNum i, row.imei, reason⟩
  | _ => none

def createOf : (ImportRow × Verdict) × ℕ → Option CreateRow
  | ((row, .create accountId), i) => some ⟨i, rowNum i, row, accountId⟩
  | _ => none

def updateOf : (ImportRow × Verdict) × ℕ → Option (ℕ × Text × Text)
  | ((row, .update deviceId), i) => some (rowNum i, row.imei, deviceId)
  | _ => none

def dryRun (rows : List ImportRow) : DryRunResult :=
  let numbered := (d.judged [] rows).zipIdx
  ⟨numbered.filterMap createOf, numbered.filterMap updateOf, numbered.filterMap errorOf⟩

end Deps

/-! ## The loop -/

inductive Insert
  | committed
  /-- the unique index refuses it -/
  | violation
  | failed
  /-- it is committed and its answer is lost -/
  | lost
  deriving DecidableEq

/-- How the calls for one row end. -/
structure Calls where
  /-- whether another holds the IMEI, `none` where the query throws -/
  held : Option Bool
  insert : Insert
  /-- `audit.record` is answered -/
  audit : Bool
  /-- `activateDevice` is answered -/
  activate : Bool

inductive Outcome
  | created
  | duplicate
  | threw
  deriving DecidableEq

/-- `devices.create`: whether it leaves a row, and how it ends. -/
def Calls.create (c : Calls) : Bool × Outcome :=
  match c.held, c.insert with
  | none, _ => (false, .threw)
  | some true, _ => (false, .duplicate)
  | some false, .violation => (false, .duplicate)
  | some false, .failed => (false, .threw)
  | some false, .lost => (true, .threw)
  | some false, .committed => (true, if c.audit then .created else .threw)

/-- A row of `devices` that the import inserted. -/
structure Inserted where
  record : ℕ
  accountId : Text
  profileId : Text
  data : ImportRow

structure ApplyResult where
  created : ℕ
  errors : List RowError
  aborted : Bool
  /-- the records whose create was called; no code reads it -/
  attempted : List ℕ
  /-- no code reads it -/
  inserted : List Inserted

def MAX_CONSECUTIVE_FAILURES : ℕ := 5

section Loop

variable (d : Deps) (calls : ℕ → Calls)

def CreateRow.error (row : CreateRow) (reason : String) : RowError :=
  ⟨row.record, row.row, row.data.imei, reason⟩

def CreateRow.errors (row : CreateRow) : List RowError :=
  match (calls row.record).create.2 with
  | .created =>
    if (calls row.record).activate then []
    else [row.error "created, but not yet reachable by the pipeline — retry not needed"]
  | .duplicate => [row.error "IMEI already registered"]
  | .threw => [row.error "could not be created"]

/-- What the calls for one row add to the report and to the table. -/
def applyRow (r : ApplyResult) (row : CreateRow) (profileId : Text) : ApplyResult where
  created := r.created + if (calls row.record).create.2 = .created then 1 else 0
  errors := r.errors ++ row.errors calls
  aborted := r.aborted
  attempted := r.attempted ++ [row.record]
  inserted := r.inserted ++
    if (calls row.record).create.1 then [⟨row.record, row.accountId, profileId, row.data⟩] else []

def importRows : List CreateRow → ApplyResult → ℕ → ApplyResult
  | [], r, _ => r
  | row :: rows, r, consecutiveFailures =>
    match d.profiles row.data.profileKey with
    | none => importRows rows r consecutiveFailures
    | some profileId =>
      let r := applyRow calls r row profileId
      if (calls row.record).create.2 = .threw then
        if MAX_CONSECUTIVE_FAILURES ≤ consecutiveFailures + 1 then { r with aborted := true }
        else importRows rows r (consecutiveFailures + 1)
      else importRows rows r 0

def applyImport (rows : List ImportRow) : ApplyResult :=
  importRows d calls (d.dryRun rows).create ⟨0, (d.dryRun rows).errors, false, [], []⟩ 0

end Loop

/-! ## What the report says -/

section Report

variable {d : Deps} {calls : ℕ → Calls} {rows : List ImportRow} {creates : List CreateRow}
  {r : ApplyResult} {k : ℕ} {row : ImportRow} {v : Verdict} {c : CreateRow} {e : RowError}

/-- The rows that the loop comes to. -/
def reached (calls : ℕ → Calls) : List CreateRow → ℕ → List CreateRow
  | [], _ => []
  | row :: rows, consecutiveFailures =>
    row ::
      if (calls row.record).create.2 = .threw then
        if MAX_CONSECUTIVE_FAILURES ≤ consecutiveFailures + 1 then []
        else reached calls rows (consecutiveFailures + 1)
      else reached calls rows 0

/-- What the calls for some rows add to a report. -/
structure Adds (calls : ℕ → Calls) (rs : List CreateRow) (r r' : ApplyResult) : Prop where
  created : r'.created = r.created + rs.countP fun c => (calls c.record).create.2 = .created
  errors : r'.errors = r.errors ++ rs.flatMap (·.errors calls)
  attempted : r'.attempted = r.attempted ++ rs.map (·.record)
  inserted : r'.inserted.map (·.record) = r.inserted.map (·.record) ++
    (rs.filter fun c => (calls c.record).create.1).map (·.record)

lemma adds_nil (r : ApplyResult) (aborted : Bool) :
    Adds calls [] r { r with aborted := aborted } := by
  constructor <;> simp

variable {rs : List CreateRow} {seenInFile : List Text} {l : List Bool} {f n : ℕ}

lemma Adds.cons {r' : ApplyResult} {profileId : Text}
    (h : Adds calls rs (applyRow calls r c profileId) r') : Adds calls (c :: rs) r r' where
  created := by
    rw [h.created, countP_cons, applyRow]
    simp only [decide_eq_true_eq]
    omega
  errors := by rw [h.errors, applyRow, flatMap_cons, append_assoc]
  attempted := by rw [h.attempted, applyRow, map_cons, append_assoc]; rfl
  inserted := by
    rw [h.inserted, applyRow, filter_cons, map_append, append_assoc]
    split <;> rfl

/-- **The loop adds what the rows that it comes to add**, and comes to all of them unless it
aborts. -/
lemma adds_importRows (h : ∀ c ∈ creates, (d.profiles c.data.profileKey).isSome)
    (r : ApplyResult) (failures : ℕ) :
    Adds calls (reached calls creates failures) r (importRows d calls creates r failures) ∧
      ((importRows d calls creates r failures).aborted = true ∨
        reached calls creates failures = creates) := by
  induction creates generalizing r failures with
  | nil => exact ⟨adds_nil r r.aborted, .inr rfl⟩
  | cons c creates ih =>
    obtain ⟨profileId, hprofile⟩ := Option.isSome_iff_exists.1 (h c mem_cons_self)
    have hrest := fun r failures => ih (fun c hc => h c (mem_cons_of_mem _ hc)) r failures
    have hcons : ∀ {rs creates : List CreateRow} {aborted : Prop}, (aborted ∨ rs = creates) →
        (aborted ∨ c :: rs = c :: creates) := fun h => h.imp_right (congrArg _)
    simp only [importRows, reached, hprofile]
    split
    · split
      · exact ⟨(adds_nil _ true).cons, .inl rfl⟩
      · exact ⟨(hrest _ _).1.cons, hcons (hrest _ _).2⟩
    · exact ⟨(hrest _ _).1.cons, hcons (hrest _ _).2⟩

lemma reached_sublist (failures : ℕ) : (reached calls creates failures).Sublist creates := by
  induction creates generalizing failures with
  | nil => exact .refl _
  | cons c creates ih =>
    rw [reached]
    refine .cons_cons c ?_
    split_ifs
    · exact nil_sublist _
    · exact ih _
    · exact ih 0

/-! ### The records -/

lemma judged_length (seenInFile : List Text) : (d.judged seenInFile rows).length = rows.length := by
  induction rows generalizing seenInFile with
  | nil => rfl
  | cons row rows ih => exact congrArg (· + 1) (ih _)

lemma getElem?_judged (h : (d.judged seenInFile rows)[k]? = some (row, v)) :
    rows[k]? = some row ∧ ∃ seenInFile, v = d.check seenInFile row := by
  induction rows generalizing seenInFile k with
  | nil => cases h
  | cons first rows ih =>
    cases k with
    | zero => cases h; exact ⟨rfl, _, rfl⟩
    | succ k => exact ih h

lemma mem_create : c ∈ (d.dryRun rows).create ↔ ∃ row accountId,
    (d.judged [] rows)[c.record]? = some (row, .create accountId) ∧
      c = ⟨c.record, Deps.rowNum c.record, row, accountId⟩ := by
  simp only [Deps.dryRun, mem_filterMap, Prod.exists, mk_mem_zipIdx_iff_getElem?]
  constructor
  · rintro ⟨row, v, i, hi, hc⟩
    cases v <;> cases hc
    exact ⟨row, _, hi, rfl⟩
  · rintro ⟨row, accountId, hi, hc⟩
    exact ⟨row, _, c.record, hi, congrArg some hc.symm⟩

lemma mem_errors : e ∈ (d.dryRun rows).errors ↔ ∃ row reason,
    (d.judged [] rows)[e.record]? = some (row, .fail reason) ∧
      e = ⟨e.record, Deps.rowNum e.record, row.imei, reason⟩ := by
  simp only [Deps.dryRun, mem_filterMap, Prod.exists, mk_mem_zipIdx_iff_getElem?]
  constructor
  · rintro ⟨row, v, i, hi, he⟩
    cases v <;> cases he
    exact ⟨row, _, hi, rfl⟩
  · rintro ⟨row, reason, hi, he⟩
    exact ⟨row, _, e.record, hi, congrArg some he.symm⟩

/-- What is made of the records of a file has their order. -/
lemma map_filterMap_sublist {α β : Type} {f : α × ℕ → Option β} {record : β → ℕ}
    (h : ∀ a i b, f (a, i) = some b → record b = i) (l : List α) (n : ℕ) :
    (((l.zipIdx n).filterMap f).map record).Sublist (range' n l.length) := by
  induction l generalizing n with
  | nil => exact .refl _
  | cons a l ih =>
    rw [zipIdx_cons, filterMap_cons, length_cons, range'_succ]
    split
    · exact (ih (n + 1)).cons n
    · next b hb =>
      rw [map_cons, h a n b hb]
      exact .cons_cons n (ih (n + 1))

lemma nodup_create (d : Deps) (rows : List ImportRow) :
    ((d.dryRun rows).create.map (·.record)).Nodup :=
  (map_filterMap_sublist (fun a i c hc => by
    rcases a with ⟨row, v⟩
    cases v <;> cases hc
    rfl) _ 0).nodup nodup_range'

lemma nodup_errors (d : Deps) (rows : List ImportRow) :
    ((d.dryRun rows).errors.map (·.record)).Nodup :=
  (map_filterMap_sublist (fun a i c hc => by
    rcases a with ⟨row, v⟩
    cases v <;> cases hc
    rfl) _ 0).nodup nodup_range'

lemma check_create {accountId : Text} (h : d.check seenInFile row = .create accountId) :
    (d.profiles row.profileKey).isSome ∧ d.existing row.imei = none := by
  unfold Deps.check at h
  repeat' split at h
  all_goals try cases h
  have hprofile : ¬ (d.profiles row.profileKey).isNone := ‹_›
  exact ⟨by simpa [Option.isSome_iff_ne_none] using hprofile, ‹_›⟩

lemma check_update {deviceId : Text} (h : d.check seenInFile row = .update deviceId) :
    d.existing row.imei = some deviceId := by
  unfold Deps.check at h
  repeat' split at h
  all_goals try cases h
  exact ‹_›

/-! ### The streaks of failures -/

lemma not_prefix_streak (h : f < n) : ¬ replicate n true <+: replicate f true ++ false :: l := by
  induction f generalizing n with
  | zero =>
    obtain ⟨n, rfl⟩ := exists_eq_succ_of_ne_zero h.ne'
    exact fun hprefix => Bool.noConfusion (cons_prefix_cons.1 hprefix).1
  | succ f ih =>
    obtain ⟨n, rfl⟩ := exists_eq_succ_of_ne_zero (ne_of_gt (zero_lt_of_lt h))
    exact fun hprefix => ih (lt_of_succ_lt_succ h) (cons_prefix_cons.1 hprefix).2

/-- A streak that is broken too early counts for nothing. -/
lemma infix_streak (h : f < n) :
    replicate n true <:+: replicate f true ++ false :: l ↔ replicate n true <:+: l := by
  induction f with
  | zero => exact infix_cons_iff.trans (or_iff_right (not_prefix_streak h))
  | succ f ih =>
    rw [replicate_succ, cons_append, infix_cons_iff, ih (lt_of_succ_lt h)]
    exact or_iff_right (not_prefix_streak h)

def threw (calls : ℕ → Calls) (c : CreateRow) : Bool := (calls c.record).create.2 = .threw

/-- It is to be created, and no five creates in a row throw before it. -/
def Comes (calls : ℕ → Calls) (creates : List CreateRow) (c : CreateRow) : Prop :=
  ∃ pre post, creates = pre ++ c :: post ∧
    ¬ replicate MAX_CONSECUTIVE_FAILURES true <:+: pre.map (threw calls)

lemma mem_reached {failures : ℕ} (h : failures < MAX_CONSECUTIVE_FAILURES) :
    c ∈ reached calls creates failures ↔ ∃ pre post, creates = pre ++ c :: post ∧
      ¬ replicate MAX_CONSECUTIVE_FAILURES true <:+:
        replicate failures true ++ pre.map (threw calls) := by
  induction creates generalizing failures with
  | nil => simp [reached]
  | cons c₀ creates ih =>
    have hsplit : (∃ pre post, c₀ :: creates = pre ++ c :: post ∧
        ¬ replicate MAX_CONSECUTIVE_FAILURES true <:+:
          replicate failures true ++ pre.map (threw calls)) ↔
        c = c₀ ∨ ∃ pre post, creates = pre ++ c :: post ∧
          ¬ replicate MAX_CONSECUTIVE_FAILURES true <:+:
            replicate failures true ++ threw calls c₀ :: pre.map (threw calls) := by
      constructor
      · rintro ⟨_ | ⟨a, pre⟩, post, heq, hnot⟩
        · exact .inl (cons.inj heq).1.symm
        · cases heq
          exact .inr ⟨pre, post, rfl, hnot⟩
      · rintro (rfl | ⟨pre, post, rfl, hnot⟩)
        · refine ⟨[], creates, rfl, fun hinfix => ?_⟩
          have := hinfix.length_le
          simp only [map_nil, append_nil, length_replicate] at this
          omega
        · exact ⟨c₀ :: pre, post, rfl, hnot⟩
    rw [hsplit, reached, mem_cons]
    refine or_congr_right ?_
    by_cases hthrew : (calls c₀.record).create.2 = .threw
    · have hstreak : ∀ l, replicate failures true ++ threw calls c₀ :: l =
          replicate (failures + 1) true ++ l := fun l => by
        rw [threw, decide_eq_true hthrew, replicate_succ', append_assoc]
        rfl
      simp only [hstreak, if_pos hthrew]
      split
      · next hmax =>
        refine iff_of_false not_mem_nil ?_
        rintro ⟨pre, post, -, hnot⟩
        rw [le_antisymm hmax h] at hnot
        exact hnot (prefix_append _ _).isInfix
      · next hmax => exact ih (Nat.lt_of_not_le hmax)
    · have hstreak : threw calls c₀ = false := decide_eq_false hthrew
      simp only [hstreak, infix_streak h, if_neg hthrew]
      exact ih (zero_lt_succ _)

lemma mem_reached_iff : c ∈ reached calls creates 0 ↔ Comes calls creates c :=
  mem_reached (zero_lt_succ _)

/-! ### The report and the table -/

namespace ApplyResult

variable (r : ApplyResult)

def inserts (k : ℕ) : Bool := r.inserted.any (·.record = k)

def names (k : ℕ) : Bool := r.errors.any (·.record = k)

end ApplyResult

/-- The ways to account for a record: it was inserted; it is named and was not; its IMEI is that of
an active device; it was never attempted, since the import was aborted. -/
def accounts (d : Deps) (r : ApplyResult) (k : ℕ) (row : ImportRow) : List Bool :=
  [r.inserts k, r.names k && !r.inserts k, (d.existing row.imei).isSome && !r.names k,
    r.aborted && (d.existing row.imei).isNone && !r.names k && !r.attempted.contains k]

/-- What the report of an import should be. -/
structure Exact (d : Deps) (text : Text) (r : ApplyResult) : Prop where
  created : r.created = r.inserted.length
  accounted : ∀ k row, (rowsToImport (parseCsv text))[k]? = some row →
    (accounts d r k row).count true = 1
  once : (r.inserted.map (·.record)).Nodup ∧ (r.errors.map (·.record)).Nodup
  lines : ∀ e ∈ r.errors, recordLine text e.record = some e.row

/-- A create that throws once its row is committed. -/
def Late (c : Calls) : Prop := c.create = (true, .threw)

/-- A create that throws, or an activation. -/
def Troubled (c : Calls) : Prop := c.create.2 ≠ .created ∨ c.activate = false

lemma errors_of {e : RowError} (he : e ∈ c.errors calls) :
    e.record = c.record ∧ e.row = c.row ∧ Troubled (calls c.record) := by
  unfold CreateRow.errors at he
  split at he
  · split at he
    · cases he
    · next hactivate =>
      obtain rfl := mem_singleton.1 he
      exact ⟨rfl, rfl, .inr (by simpa using hactivate)⟩
  all_goals
    next hcreate =>
      obtain rfl := mem_singleton.1 he
      exact ⟨rfl, rfl, .inl (by rw [hcreate]; decide)⟩

lemma exists_error (h : Troubled (calls c.record)) : ∃ e, e ∈ c.errors calls := by
  unfold CreateRow.errors
  split
  · next hcreate =>
    rw [if_neg (by simpa using h.resolve_left (not_not_intro hcreate))]
    exact ⟨_, mem_cons_self⟩
  all_goals exact ⟨_, mem_cons_self⟩

lemma create_inserts (c : Calls) : (c.create.2 = .created → c.create.1 = true) ∧
    (c.create.1 = true → ¬ Late c → c.create.2 = .created) := by
  unfold Late Calls.create
  split <;> simp

/-- The result of an import, in the rows that the loop comes to. -/
lemma adds_applyImport (d : Deps) (calls : ℕ → Calls) (rows : List ImportRow) :
    Adds calls (reached calls (d.dryRun rows).create 0) ⟨0, (d.dryRun rows).errors, false, [], []⟩
        (applyImport d calls rows) ∧
      ((applyImport d calls rows).aborted = true ∨
        reached calls (d.dryRun rows).create 0 = (d.dryRun rows).create) := by
  refine adds_importRows (fun c hc => ?_) _ 0
  obtain ⟨row, accountId, hjudged, hc⟩ := mem_create.1 hc
  obtain ⟨-, seenInFile, hcheck⟩ := getElem?_judged hjudged
  rw [hc]
  exact (check_create hcheck.symm).1

lemma inserts_iff : (applyImport d calls rows).inserts k ↔
    ∃ c ∈ reached calls (d.dryRun rows).create 0, c.record = k ∧ (calls k).create.1 = true := by
  have hinserted := (adds_applyImport d calls rows).1.inserted
  have hmem : (applyImport d calls rows).inserts k = true ↔
      k ∈ (applyImport d calls rows).inserted.map (·.record) := by
    simp [ApplyResult.inserts]
  rw [hmem, hinserted, map_nil, nil_append, mem_map]
  simp only [mem_filter]
  constructor
  · rintro ⟨c, ⟨hc, hinserts⟩, rfl⟩
    exact ⟨c, hc, rfl, hinserts⟩
  · rintro ⟨c, hc, rfl, hinserts⟩
    exact ⟨c, ⟨hc, hinserts⟩, rfl⟩

lemma names_iff : (applyImport d calls rows).names k ↔
    (∃ row reason, (d.judged [] rows)[k]? = some (row, .fail reason)) ∨
      ∃ c ∈ reached calls (d.dryRun rows).create 0, c.record = k ∧ Troubled (calls k) := by
  rw [ApplyResult.names, any_eq_true, (adds_applyImport d calls rows).1.errors]
  simp only [mem_append, mem_flatMap, decide_eq_true_eq]
  constructor
  · rintro ⟨e, he | ⟨c, hc, he⟩, rfl⟩
    · obtain ⟨row, reason, hjudged, -⟩ := mem_errors.1 he
      exact .inl ⟨row, reason, hjudged⟩
    · obtain ⟨hrecord, -, htroubled⟩ := errors_of he
      exact .inr ⟨c, hc, hrecord.symm, hrecord ▸ htroubled⟩
  · rintro (⟨row, reason, hjudged⟩ | ⟨c, hc, rfl, htroubled⟩)
    · exact ⟨⟨k, Deps.rowNum k, row.imei, reason⟩, .inl (mem_errors.2 ⟨row, reason, hjudged, rfl⟩), rfl⟩
    · obtain ⟨e, he⟩ := exists_error htroubled
      exact ⟨e, .inr ⟨c, hc, he⟩, (errors_of he).1⟩

/-- **Every record is accounted for exactly once**, whatever throws. -/
lemma accounted (h : rows[k]? = some row) :
    (accounts d (applyImport d calls rows) k row).count true = 1 := by
  obtain ⟨hadds, hall⟩ := adds_applyImport d calls rows
  obtain ⟨⟨row', v⟩, hjudged⟩ : ∃ p, (d.judged [] rows)[k]? = some p :=
    ⟨_, getElem?_eq_getElem (by rw [judged_length]; exact (List.getElem?_eq_some_iff.1 h).1)⟩
  obtain ⟨hrow, seenInFile, hcheck⟩ := getElem?_judged hjudged
  cases h.symm.trans hrow
  by_cases hcomes : ∃ c ∈ reached calls (d.dryRun rows).create 0, c.record = k
  · obtain ⟨c, hc, hrecord⟩ := hcomes
    obtain ⟨_, accountId, hcreate, -⟩ := mem_create.1 ((reached_sublist 0).subset hc)
    cases hjudged.symm.trans (hrecord ▸ hcreate)
    have hexisting := (check_create hcheck.symm).2
    have hattempted : (applyImport d calls rows).attempted.contains k = true := by
      rw [hadds.attempted, contains_iff_mem]
      exact mem_append_right _ (mem_map.2 ⟨c, hc, hrecord⟩)
    by_cases hcommitted : (calls k).create.1 = true
    · have hinserts := inserts_iff.2 ⟨c, hc, hrecord, hcommitted⟩
      simp [accounts, hinserts, hexisting, -contains_eq_mem, hattempted]
    · have hinserts : (applyImport d calls rows).inserts k = false :=
        Bool.eq_false_iff.2 fun h => hcommitted (inserts_iff.1 h).choose_spec.2.2
      have hnames := names_iff.2 (.inr ⟨c, hc, hrecord,
        .inl fun h => hcommitted ((create_inserts _).1 h)⟩)
      simp [accounts, hinserts, hnames, hexisting]
  · have hinserts : (applyImport d calls rows).inserts k = false := by
      refine Bool.eq_false_iff.2 fun h => hcomes ?_
      obtain ⟨c, hc, hrecord, -⟩ := inserts_iff.1 h
      exact ⟨c, hc, hrecord⟩
    have hfails : (applyImport d calls rows).names k = true ↔ ∃ reason, v = .fail reason := by
      rw [names_iff]
      constructor
      · rintro (⟨_, reason, hfail⟩ | ⟨c, hc, hrecord, -⟩)
        · cases hjudged.symm.trans hfail
          exact ⟨reason, rfl⟩
        · exact absurd ⟨c, hc, hrecord⟩ hcomes
      · rintro ⟨reason, rfl⟩
        exact .inl ⟨row, reason, hjudged⟩
    cases v with
    | fail reason => simp [accounts, hinserts, hfails.2 ⟨reason, rfl⟩]
    | update deviceId =>
      have hnames : (applyImport d calls rows).names k = false :=
        Bool.eq_false_iff.2 fun h => nomatch hfails.1 h
      simp [accounts, hinserts, hnames, check_update hcheck.symm]
    | create accountId =>
      have hnames : (applyImport d calls rows).names k = false :=
        Bool.eq_false_iff.2 fun h => nomatch hfails.1 h
      have hattempted : (applyImport d calls rows).attempted.contains k = false := by
        rw [hadds.attempted, contains_eq_mem, decide_eq_false_iff_not]
        exact fun hmem => hcomes (mem_map.1 hmem)
      have haborted := hall.resolve_right fun hall => hcomes
        ⟨⟨k, Deps.rowNum k, row, accountId⟩, by
          rw [hall]
          exact mem_create.2 ⟨row, accountId, hjudged, rfl⟩, rfl⟩
      simp [accounts, hinserts, hnames, (check_create hcheck.symm).2, -contains_eq_mem,
        hattempted, haborted]

/-- The count is right as long as no create is late. -/
lemma created_iff :
    (rs.countP fun c => (calls c.record).create.2 = .created) =
        (rs.filter fun c => (calls c.record).create.1).length ↔
      ∀ c ∈ rs, ¬ Late (calls c.record) := by
  rw [← countP_eq_length_filter]
  induction rs with
  | nil => simp
  | cons c rs ih =>
    have hle : (rs.countP fun c => (calls c.record).create.2 = .created) ≤
        rs.countP fun c => (calls c.record).create.1 :=
      countP_mono_left fun c _ h => (create_inserts _).1 (of_decide_eq_true h)
    obtain ⟨hinserts, hcreated⟩ := create_inserts (calls c.record)
    rw [countP_cons, countP_cons, forall_mem_cons]
    by_cases hlate : Late (calls c.record)
    · rw [hlate]
      simp only [hlate, not_true, false_and, iff_false]
      simp
      omega
    · by_cases h : (calls c.record).create.1 = true
      · simpa [h, hcreated h hlate, hlate] using ih
      · simpa [h, mt hinserts h, hlate] using ih

lemma error_row (he : e ∈ (applyImport d calls rows).errors) :
    e.row = Deps.rowNum e.record ∧ e.record < rows.length := by
  have hlt : ∀ {k p}, (d.judged [] rows)[k]? = some p → k < rows.length := fun h =>
    (List.getElem?_eq_some_iff.1 h).1.trans_eq (judged_length [])
  rw [(adds_applyImport d calls rows).1.errors] at he
  obtain he | he := mem_append.1 he
  · obtain ⟨row, reason, hjudged, heq⟩ := mem_errors.1 he
    exact ⟨by rw [heq], hlt hjudged⟩
  · obtain ⟨c, hc, he⟩ := mem_flatMap.1 he
    obtain ⟨hrecord, hrow, -⟩ := errors_of he
    obtain ⟨row, accountId, hjudged, heq⟩ := mem_create.1 ((reached_sublist 0).subset hc)
    exact ⟨by rw [hrow, hrecord, heq], hrecord ▸ hlt hjudged⟩

lemma map_errors_sublist (rs : List CreateRow) :
    ((rs.flatMap (·.errors calls)).map (·.record)).Sublist (rs.map (·.record)) := by
  induction rs with
  | nil => exact .refl _
  | cons c rs ih =>
    rw [flatMap_cons, map_append, map_cons, ← singleton_append]
    refine .append ?_ ih
    unfold CreateRow.errors
    split
    · split
      · exact nil_sublist _
      · exact .refl _
    all_goals exact .refl _

/-- No record is inserted twice, and none is named twice. -/
lemma once (d : Deps) (calls : ℕ → Calls) (rows : List ImportRow) :
    ((applyImport d calls rows).inserted.map (·.record)).Nodup ∧
      ((applyImport d calls rows).errors.map (·.record)).Nodup := by
  have hadds := (adds_applyImport d calls rows).1
  have hreached : (map (·.record) (reached calls (d.dryRun rows).create 0)).Sublist _ :=
    (reached_sublist 0).map _
  rw [hadds.inserted, hadds.errors, map_append]
  refine ⟨?_, nodup_append.2 ⟨nodup_errors d rows, ?_, ?_⟩⟩
  · exact ((filter_sublist.map _).trans hreached).nodup (nodup_create d rows)
  · exact ((map_errors_sublist _).trans hreached).nodup (nodup_create d rows)
  · rintro _ hfailed _ htried rfl
    obtain ⟨e, he, rfl⟩ := mem_map.1 hfailed
    obtain ⟨_, _, hfail, -⟩ := mem_errors.1 he
    obtain ⟨c, hc, hrecord⟩ := mem_map.1 (hreached.subset ((map_errors_sublist _).subset htried))
    obtain ⟨_, _, hcreate, -⟩ := mem_create.1 hc
    cases hfail.symm.trans (hrecord ▸ hcreate)

/-- **The report of an import is exact iff** no create that the import comes to throws once its row
is committed, and nothing was skipped, no blank line and no line break inside quotes, before a
record that fails a check or whose create or activation throws. -/
theorem import_exact_iff (d : Deps) (calls : ℕ → Calls) (text : Text) :
    Exact d text (applyImport d calls (rowsToImport (parseCsv text))) ↔
      (∀ c, Comes calls (d.dryRun (rowsToImport (parseCsv text))).create c →
        ¬ Late (calls c.record)) ∧
      ∀ k, (∃ row reason,
          (d.judged [] (rowsToImport (parseCsv text)))[k]? = some (row, .fail reason)) ∨
        (∃ c, Comes calls (d.dryRun (rowsToImport (parseCsv text))).create c ∧ c.record = k ∧
          Troubled (calls k)) →
        skippedBefore text k = some 0 := by
  set rows := rowsToImport (parseCsv text) with hrows
  obtain ⟨hadds, -⟩ := adds_applyImport d calls rows
  have hlength : (applyImport d calls rows).inserted.length =
      ((reached calls (d.dryRun rows).create 0).filter fun c =>
        (calls c.record).create.1).length := by
    simpa using congrArg length hadds.inserted
  have hcreated : (applyImport d calls rows).created = (applyImport d calls rows).inserted.length ↔
      ∀ c, Comes calls (d.dryRun rows).create c → ¬ Late (calls c.record) := by
    rw [hadds.created, hlength, Nat.zero_add, created_iff]
    simp only [mem_reached_iff]
  have hnames : ∀ k, (applyImport d calls rows).names k = true ↔ _ := fun k => names_iff
  simp only [mem_reached_iff] at hnames
  simp only [← hnames, ← hcreated]
  have hline : ∀ e ∈ (applyImport d calls rows).errors,
      recordLine text e.record = some e.row ↔ skippedBefore text e.record = some 0 := by
    intro e he
    obtain ⟨hrow, hlt⟩ := error_row he
    obtain ⟨skipped, hskipped, hrecord⟩ := exists_recordLine (by simpa [hrows, rowsToImport] using hlt)
    rw [hrecord, hskipped, hrow, Option.some.injEq, Option.some.injEq, Deps.rowNum]
    omega
  constructor
  · intro h
    refine ⟨h.created, fun k hk => ?_⟩
    obtain ⟨e, he, hrecord⟩ := any_eq_true.1 hk
    rw [← of_decide_eq_true hrecord]
    exact (hline e he).1 (h.lines e he)
  · rintro ⟨hcount, hskipped⟩
    refine ⟨hcount, fun k row hrow => accounted hrow, once d calls rows, fun e he => ?_⟩
    exact (hline e he).2 (hskipped e.record (any_eq_true.2 ⟨e, he, decide_eq_true rfl⟩))

end Report

def sampleDeps : Deps where
  profiles key := if key = "fmb".toList then some "p1".toList else none
  devices := []
  accounts := ["a".toList]
  callerAccountId := none
  issue _ _ := none

/-- A van below a blank line, with the digits of its IMEI. -/
def vanBelowBlank (imei : String) : Text :=
  "imei,name,profile,accountId\n\n".toList ++ imei.toList ++ ",Van,fmb,a\n".toList

/-- **The report names the wrong line, and leaves out a device.**  An IMEI of three digits stands on
the third line and is reported on the second; and where the audit log refuses its row, the device
that was inserted is not counted. -/
theorem import_misreports :
    ¬ Exact sampleDeps (vanBelowBlank "123") (applyImport sampleDeps
      (fun _ => ⟨some false, .committed, true, true⟩)
      (rowsToImport (parseCsv (vanBelowBlank "123")))) ∧
    ¬ Exact sampleDeps (vanBelowBlank "490154203237518") (applyImport sampleDeps
      (fun _ => ⟨some false, .committed, false, true⟩)
      (rowsToImport (parseCsv (vanBelowBlank "490154203237518")))) := by
  refine ⟨fun h => ?_, fun h => absurd h.created (by decide +kernel)⟩
  have hlines := all_eq_true.2 fun e he => decide_eq_true (h.lines e he)
  exact absurd hlines (by decide +kernel)

end Orbetra.Import
