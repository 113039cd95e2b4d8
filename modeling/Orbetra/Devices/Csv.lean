import Orbetra.Settings.Getparam

/-!
# The CSV file of an import

`parseCsv` of `apps/api/src/routes/deviceImport.ts`, against every way to write a table: each cell
in quotes or bare, each line with an end of its own, empty lines anywhere. -/

namespace Orbetra.Csv

open List Function

/-! ## The parser -/

/-- The variables of the loop. -/
structure CsvState where
  rows : List (List Text)
  field : Text
  record : List Text
  inQuotes : Bool
  deriving DecidableEq

namespace CsvState

variable (s : CsvState)

def add (ch : Char) : CsvState := { s with field := s.field ++ [ch] }

/-- The end of a cell at a comma. -/
def endField : CsvState := { s with field := [], record := s.record ++ [s.field] }

def rowsWith (record : List Text) : List (List Text) :=
  if 1 < record.length ∨ record.head? ≠ some [] then s.rows ++ [record] else s.rows

def endLine : CsvState := ⟨s.rowsWith (s.record ++ [s.field]), [], [], s.inQuotes⟩

/-- What the loop leaves at the end of the text. -/
def finish : List (List Text) :=
  if s.field ≠ [] ∨ s.record ≠ [] then s.rowsWith (s.record ++ [s.field]) else s.rows

end CsvState

/-- The loop over the text, from a place on. -/
def scan (s : CsvState) : Text → CsvState
  | [] => s
  | ch :: t =>
    if s.inQuotes then
      if ch = '"' then
        match t with
        | '"' :: t' => scan (s.add '"') t'
        | t' => scan { s with inQuotes := false } t'
      else scan (s.add ch) t
    else if ch = '"' then scan { s with inQuotes := true } t
    else if ch = ',' then scan s.endField t
    else if ch = '\n' then scan s.endLine t
    else if ch = '\r' then
      match t with
      | '\n' :: t' => scan s.endLine t'
      | t' => scan s.endLine t'
    else scan (s.add ch) t

/-- An object that is made with `{}`, as its own properties. -/
abbrev Properties := Text → Option Text

/-- `obj[name] = value`, for a string: the setter of `__proto__` ignores it. -/
def Properties.assign (obj : Properties) (name value : Text) : Properties :=
  if name = "__proto__".toList then obj else update obj name (some value)

def objectOf (header row : List Text) : Properties :=
  header.zipIdx.foldl (fun obj h => obj.assign h.1 (trim (row[h.2]?.getD []))) fun _ => none

def parseCsv (text : Text) : List Properties :=
  match (scan ⟨[], [], [], false⟩ text).finish with
  | [] => []
  | first :: rows => rows.map (objectOf (first.map trim))

/-! ## The ways to write a table -/

/-- A character that a bare cell may not have. -/
def IsSpecial (c : Char) : Prop := c = ',' ∨ c = '"' ∨ c = '\r' ∨ c = '\n'

/-- A value between quotes, each of its own doubled. -/
def quote (v : Text) : Text :=
  '"' :: v.flatMap (fun c => if c = '"' then ['"', '"'] else [c]) ++ ['"']

inductive WritesCell : Text → Text → Prop
  | bare {v : Text} (h : ∀ c ∈ v, ¬ IsSpecial c) : WritesCell v v
  | quoted (v : Text) : WritesCell v (quote v)

/-- A line without its end. -/
inductive WritesLine : List Text → Text → Prop
  | last {v t : Text} (h : WritesCell v t) : WritesLine [v] t
  | cons {v t u : Text} {row : List Text} (h : WritesCell v t) (hrow : WritesLine row u) :
      WritesLine (v :: row) (t ++ ',' :: u)

inductive LineEnd : Text → Prop
  | lf : LineEnd ['\n']
  | crlf : LineEnd ['\r', '\n']
  | cr : LineEnd ['\r']

/-- A file: the last line may lack its end, and an empty line may stand anywhere. -/
inductive WritesLines : List (List Text) → Text → Prop
  | done : WritesLines [] []
  | unended {row : List Text} {t : Text} (h : WritesLine row t) : WritesLines [row] t
  | blank {rows : List (List Text)} {e u : Text} (he : LineEnd e) (h : WritesLines rows u) :
      WritesLines rows (e ++ u)
  | line {row : List Text} {rows : List (List Text)} {t e u : Text} (hrow : WritesLine row t)
      (he : LineEnd e) (h : WritesLines rows u) : WritesLines (row :: rows) (t ++ e ++ u)

/-- A header of distinct names and rows of two or more cells, without white space around them. -/
structure CsvTable where
  names : List Text
  rows : List (List Text)
  distinct : names.Nodup
  trimmed : ∀ cells ∈ names :: rows, ∀ v ∈ cells, trim v = v
  wide : ∀ row ∈ rows, 2 ≤ row.length

def recordOf (names row : List Text) : Properties := fun name =>
  (names.zip (row ++ replicate names.length [])).lookup name

/-! ## A run over what is written -/

section Scan

variable {s : CsvState} {v t u : Text}

/-- What may follow a cell. -/
def Closed (t : Text) : Prop := ∀ c ∈ t.head?, c ≠ '"'

/-! ### One character -/

lemma scan_cons (ch : Char) :
    scan s (ch :: t) =
      if s.inQuotes then
        if ch = '"' then
          match t with
          | '"' :: t' => scan (s.add '"') t'
          | t' => scan { s with inQuotes := false } t'
        else scan (s.add ch) t
      else if ch = '"' then scan { s with inQuotes := true } t
      else if ch = ',' then scan s.endField t
      else if ch = '\n' then scan s.endLine t
      else if ch = '\r' then
        match t with
        | '\n' :: t' => scan s.endLine t'
        | t' => scan s.endLine t'
      else scan (s.add ch) t :=
  scan.eq_def s (ch :: t)

variable {c : Char} {row : List Text}

lemma scan_plain (hc : ¬ IsSpecial c) (hs : s.inQuotes = false) :
    scan s (c :: t) = scan (s.add c) t := by
  simp only [IsSpecial, not_or] at hc
  obtain ⟨hcomma, hquote, hcr, hlf⟩ := hc
  simp [scan_cons, hs, hcomma, hquote, hcr, hlf]

lemma scan_open (hs : s.inQuotes = false) :
    scan s ('"' :: t) = scan { s with inQuotes := true } t := by
  simp [scan_cons, hs]

lemma scan_quoted (hc : c ≠ '"') (hs : s.inQuotes = true) : scan s (c :: t) = scan (s.add c) t := by
  simp [scan_cons, hs, hc]

lemma scan_doubled (hs : s.inQuotes = true) : scan s ('"' :: '"' :: t) = scan (s.add '"') t := by
  simp [scan_cons '"', hs]

lemma scan_close (hs : s.inQuotes = true) (ht : Closed t) :
    scan s ('"' :: t) = scan { s with inQuotes := false } t := by
  rw [scan_cons, if_pos hs, if_pos rfl]
  split
  · exact absurd rfl (ht '"' rfl)
  · rfl

lemma scan_comma (hs : s.inQuotes = false) : scan s (',' :: t) = scan s.endField t := by
  simp [scan_cons, hs]

lemma scan_lf (hs : s.inQuotes = false) : scan s ('\n' :: t) = scan s.endLine t := by
  simp [scan_cons, hs]

lemma scan_crlf (hs : s.inQuotes = false) : scan s ('\r' :: '\n' :: t) = scan s.endLine t := by
  simp [scan_cons '\r', hs]

lemma scan_cr (hs : s.inQuotes = false) (ht : ∀ u, t ≠ '\n' :: u) :
    scan s ('\r' :: t) = scan s.endLine t := by
  simp only [scan_cons, hs, Bool.false_eq_true, if_false, Char.reduceEq, if_true]

/-! ### A cell, a line, a file -/

lemma scan_bare (h : ∀ c ∈ v, ¬ IsSpecial c) (hs : s.inQuotes = false) :
    scan s (v ++ t) = scan { s with field := s.field ++ v } t := by
  induction v generalizing s with
  | nil => simp
  | cons c v ih =>
      have htail := ih (s := s.add c) (fun d hd => h d (mem_cons_of_mem c hd)) hs
      rw [cons_append, scan_plain (h c mem_cons_self) hs, htail]
      simp [CsvState.add]

lemma scan_inside (hs : s.inQuotes = true) (ht : Closed t) :
    scan s (v.flatMap (fun c => if c = '"' then ['"', '"'] else [c]) ++ '"' :: t) =
      scan { s with
        field := s.field ++ v
        inQuotes := false } t := by
  induction v generalizing s with
  | nil => simpa using scan_close hs ht
  | cons c v ih =>
      have htail := ih (s := s.add c) hs
      rw [flatMap_cons]
      split
      case isTrue hc =>
        subst hc
        refine (scan_doubled hs).trans (htail.trans ?_)
        simp [CsvState.add]
      case isFalse hc =>
        refine (scan_quoted hc hs).trans (htail.trans ?_)
        simp [CsvState.add]

lemma scan_cell (h : WritesCell v u) (hs : s.inQuotes = false) (ht : Closed t) :
    scan s (u ++ t) = scan { s with field := s.field ++ v } t := by
  cases h with
  | bare h => exact scan_bare h hs
  | quoted =>
      rw [quote, cons_append, cons_append, append_assoc, cons_append,
        nil_append,
        scan_open hs, scan_inside rfl ht, ← hs]

lemma scan_line (h : WritesLine row u) (hs : s.inQuotes = false) (hfield : s.field = [])
    (ht : Closed t) :
    scan s (u ++ t) = scan ⟨s.rows, row.getLastD [], s.record ++ row.dropLast, false⟩ t := by
  induction h generalizing s with
  | last h =>
      rw [scan_cell h hs ht, hfield, hs]
      simp
  | @cons v w u row h hrow ih =>
      have hcomma : Closed (',' :: (u ++ t)) := by simp [Closed]
      have hne : row ≠ [] := by cases hrow <;> exact cons_ne_nil _ _
      have hs' : ({ s with field := s.field ++ v } : CsvState).inQuotes = false := hs
      rw [append_assoc, cons_append, scan_cell h hs hcomma, scan_comma hs']
      refine (ih (s := CsvState.endField { s with field := s.field ++ v }) hs' rfl).trans ?_
      rw [CsvState.endField, hfield]
      cases row with
      | nil => exact absurd rfl hne
      | cons w row => simp

/-- A line is empty where it has one cell and that is the empty text. -/
def Blank (row : List Text) : Prop := row = [[]]

lemma rowsWith_eq (hne : row ≠ []) (h : ¬ Blank row) : s.rowsWith row = s.rows ++ [row] := by
  refine if_pos ?_
  match row, hne, h with
  | [v], _, h => exact .inr fun hv => h (by simpa [Blank] using hv)
  | _ :: _ :: _, _, _ => exact .inl (by simp)

lemma rowsWith_blank (h : Blank row) : s.rowsWith row = s.rows := by
  subst h
  exact if_neg (by simp)

lemma scan_lineEnd {e : Text} (he : LineEnd e) (hs : s.inQuotes = false) :
    scan s (e ++ t) = scan s.endLine t := by
  have hblank : s.endLine.endLine = s.endLine := by
    rw [CsvState.endLine, CsvState.endLine, CsvState.rowsWith, if_neg (by simp)]
  cases he with
  | lf => exact scan_lf hs
  | crlf => exact scan_crlf hs
  | cr =>
      by_cases ht : ∃ u, t = '\n' :: u
      case neg => exact scan_cr hs (not_exists.1 ht)
      case pos =>
        -- the line feed of an empty line is taken with the carriage return before it
        obtain ⟨u, rfl⟩ := ht
        have hs' : s.endLine.inQuotes = false := hs
        rw [scan_lf hs', hblank]
        exact scan_crlf hs

end Scan

variable {row names : List Text}

lemma dropLast_append_getLastD (hne : row ≠ []) : row.dropLast ++ [row.getLastD []] = row := by
  rw [getLastD_eq_getLast?, getLast?_eq_getLast_of_ne_nil hne, Option.getD_some,
    dropLast_append_getLast hne]

lemma WritesLine.ne_nil {u : Text} (h : WritesLine row u) : row ≠ [] := by
  cases h <;> exact cons_ne_nil _ _

/-- The rows that read as more than an empty line. -/
def nonBlank (rows : List (List Text)) : List (List Text) := rows.filter fun row => row ≠ [[]]

lemma rowsWith_nonBlank (s : CsvState) (hne : row ≠ []) :
    s.rowsWith row = s.rows ++ nonBlank [row] := by
  by_cases h : Blank row
  · rw [rowsWith_blank h, nonBlank, filter_cons_of_neg (by simpa [Blank] using h),
      filter_nil,
      append_nil]
  · rw [rowsWith_eq hne h, nonBlank, filter_cons_of_pos (by simpa [Blank] using h), filter_nil]

/-- The end of the text ends a line too. -/
lemma finish_eq (s : CsvState) : s.finish = s.rowsWith (s.record ++ [s.field]) := by
  by_cases h : s.field ≠ [] ∨ s.record ≠ []
  · exact if_pos h
  · rw [CsvState.finish, if_neg h]
    simp only [not_or, not_not] at h
    rw [h.1, h.2]
    exact (rowsWith_blank rfl).symm

lemma LineEnd.closed {e : Text} (he : LineEnd e) (t : Text) : Closed (e ++ t) := by
  cases he <;> simp [Closed]

/-- The loop collects the rows of a file in their order, without those that read as empty lines. -/
lemma finish_scan {written : List (List Text)} {text : Text} (h : WritesLines written text)
    (rows : List (List Text)) :
    (scan ⟨rows, [], [], false⟩ text).finish = rows ++ nonBlank written := by
  induction h generalizing rows with
  | done => simp [scan, CsvState.finish, nonBlank]
  | @unended row t hrow =>
      have hrun := scan_line (s := ⟨rows, [], [], false⟩) (t := []) hrow rfl rfl (by simp [Closed])
      rw [append_nil, nil_append] at hrun
      rw [hrun, scan, finish_eq, dropLast_append_getLastD hrow.ne_nil]
      exact rowsWith_nonBlank _ hrow.ne_nil
  | blank he h ih =>
      have hempty : (⟨rows, [], [], false⟩ : CsvState).endLine = ⟨rows, [], [], false⟩ := by
        rw [CsvState.endLine, nil_append, rowsWith_blank rfl]
      rw [scan_lineEnd he rfl, hempty]
      exact ih rows
  | @line row written t e u hrow he h ih =>
      have hrun := scan_line (s := ⟨rows, [], [], false⟩) (t := e ++ u) hrow rfl rfl (he.closed u)
      rw [nil_append] at hrun
      rw [append_assoc, hrun, scan_lineEnd he rfl, CsvState.endLine,
        dropLast_append_getLastD hrow.ne_nil, rowsWith_nonBlank _ hrow.ne_nil, ih,
        append_assoc]
      exact congrArg (rows ++ ·)
        (filter_append (p := fun row => decide (row ≠ [[]])) [row] written).symm

/-! ## The objects -/

lemma nonBlank_of_wide {rows : List (List Text)} (h : ∀ row ∈ rows, 2 ≤ row.length) :
    nonBlank rows = rows := by
  refine filter_eq_self.2 fun row hrow => decide_eq_true ?_
  rintro rfl
  exact absurd (h _ hrow) (by decide)

lemma foldl_assign {pairs : List (Text × Text)} (hdistinct : (pairs.map Prod.fst).Nodup)
    (hproto : "__proto__".toList ∉ pairs.map Prod.fst) (obj : Properties) :
    pairs.foldl (fun obj p => obj.assign p.1 p.2) obj =
      fun name => (pairs.lookup name).or (obj name) := by
  induction pairs generalizing obj with
  | nil => rfl
  | cons p pairs ih =>
      rw [map_cons, nodup_cons] at hdistinct
      rw [map_cons, mem_cons, not_or] at hproto
      rw [foldl_cons, ih hdistinct.2 hproto.2, Properties.assign, if_neg (Ne.symm hproto.1)]
      funext name
      by_cases hname : name = p.1
      · subst hname
        have hnone : pairs.lookup p.1 = none := lookup_eq_none_iff.2 fun q hq => by
          simpa using fun h : p.1 = q.1 => hdistinct.1 (h ▸ mem_map_of_mem hq)
        rw [hnone, update_self, lookup_cons, beq_self_eq_true]
        rfl
      · rw [update_of_ne hname, lookup_cons, beq_false_of_ne hname]

lemma foldl_assign_proto (pairs : List (Text × Text)) (obj : Properties) :
    pairs.foldl (fun obj p => obj.assign p.1 p.2) obj "__proto__".toList =
      obj "__proto__".toList := by
  induction pairs generalizing obj with
  | nil => rfl
  | cons p pairs ih =>
      rw [foldl_cons, ih, Properties.assign]
      split
      · rfl
      · next h => rw [update_of_ne (Ne.symm h)]

def cellsOf (names row : List Text) : List (Text × Text) :=
  names.zip (row ++ replicate names.length [])

lemma names_cellsOf (names row : List Text) : (cellsOf names row).map Prod.fst = names :=
  map_fst_zip (by simp)

lemma zipIdx_eq_cellsOf (h : ∀ v ∈ row, trim v = v) :
    names.zipIdx.map (fun n => (n.1, trim (row[n.2]?.getD []))) = cellsOf names row := by
  refine ext_getElem (by simp [cellsOf]) fun i hi hi' => ?_
  have hcell : trim (row[i]?.getD []) = (row ++ replicate names.length [])[i]?.getD [] := by
    rcases lt_or_ge i row.length with hlt | hge
    · rw [getElem?_append_left hlt, getElem?_eq_getElem hlt]
      exact h _ (getElem_mem hlt)
    · rw [getElem?_append_right hge, getElem?_eq_none hge, getElem?_replicate]
      split <;> rfl
  have hlong : i < (row ++ replicate names.length ([] : Text)).length := by
    simp only [length_map, length_zipIdx] at hi
    simp only [length_append, length_replicate]
    omega
  rw [getElem?_eq_getElem hlong, Option.getD_some] at hcell
  simp only [getElem_map, getElem_zipIdx, Nat.zero_add, cellsOf, getElem_zip, hcell]

lemma objectOf_eq (h : ∀ v ∈ row, trim v = v) :
    objectOf names row =
      (cellsOf names row).foldl (fun obj p => Properties.assign obj p.1 p.2) fun _ => none := by
  rw [← zipIdx_eq_cellsOf h, foldl_map]
  rfl

lemma objectOf_eq_iff (hdistinct : names.Nodup) (h : ∀ v ∈ row, trim v = v) :
    objectOf names row = recordOf names row ↔ "__proto__".toList ∉ names := by
  rw [objectOf_eq h]
  constructor
  · intro heq hproto
    have hat := congrFun heq "__proto__".toList
    rw [foldl_assign_proto] at hat
    rw [← names_cellsOf names row] at hproto
    obtain ⟨p, hp, hname⟩ := mem_map.1 hproto
    exact absurd (by simpa using hname.symm) (by simpa using lookup_eq_none_iff.1 hat.symm p hp)
  · intro hproto
    rw [← names_cellsOf names row] at hdistinct hproto
    rw [foldl_assign hdistinct hproto]
    funext name
    exact Option.or_none

namespace CsvTable

variable (table : CsvTable)

lemma nonBlank_eq : nonBlank (table.names :: table.rows) =
    if table.names = [[]] then table.rows else table.names :: table.rows := by
  have hrows := nonBlank_of_wide table.wide
  unfold nonBlank at hrows ⊢
  split
  case isTrue h => rw [filter_cons_of_neg (by simpa using h), hrows]
  case isFalse h => rw [filter_cons_of_pos (by simpa using h), hrows]

lemma map_trim_names : table.names.map trim = table.names :=
  (map_congr_left (table.trimmed _ mem_cons_self)).trans (map_id table.names)

lemma map_objectOf_iff :
    table.rows.map (objectOf table.names) = table.rows.map (recordOf table.names) ↔
    table.rows = [] ∨ "__proto__".toList ∉ table.names := by
  have hrow : ∀ row ∈ table.rows, (objectOf table.names row = recordOf table.names row ↔
      "__proto__".toList ∉ table.names) := fun row hrow =>
    objectOf_eq_iff table.distinct (table.trimmed row (mem_cons_of_mem _ hrow))
  rw [map_inj_left]
  constructor
  · intro heq
    by_cases hnil : table.rows = []
    · exact .inl hnil
    · obtain ⟨row, hmem⟩ := exists_mem_of_ne_nil _ hnil
      exact .inr ((hrow row hmem).1 (heq row hmem))
  · rintro (hnil | hproto) row hmem
    · rw [hnil] at hmem
      exact absurd hmem not_mem_nil
    · exact (hrow row hmem).2 hproto

end CsvTable

/-- However a table is written, the parser reads it back, unless a name is `__proto__` or the only
name is empty, which reads as an empty line. -/
theorem csv_read_iff (table : CsvTable) {text : Text}
    (h : WritesLines (table.names :: table.rows) text) :
    parseCsv text = table.rows.map (recordOf table.names) ↔
      table.rows = [] ∨ "__proto__".toList ∉ table.names ∧ table.names ≠ [[]] := by
  have hparse := finish_scan h []
  rw [nil_append, table.nonBlank_eq] at hparse
  rw [parseCsv, hparse]
  by_cases hblank : table.names = [[]]
  · rw [if_pos hblank]
    cases hrows : table.rows with
    | nil => simp
    | cons row rows =>
        have hlength : rows.map (objectOf (row.map trim)) ≠
            (row :: rows).map (recordOf table.names) := fun heq => by
          simpa using congrArg length heq
        simpa [hblank] using hlength
  · rw [if_neg hblank]
    dsimp only
    rw [table.map_trim_names, table.map_objectOf_iff]
    simp [hblank]

/-- A table with a comma, a quote and a line end inside its cells. -/
def vans : CsvTable where
  names := ["imei".toList, "name".toList]
  rows := [["123".toList, "Doe, \"J\"".toList], ["456".toList, "a\r\nb".toList]]
  distinct := by decide
  trimmed := by decide
  wide := by decide

/-- An empty line in front, three kinds of line end, and none after the last line. -/
def vansText : Text :=
  ['\n'] ++ ("imei".toList ++ ',' :: "name".toList ++ ['\r', '\n'] ++
    ("123".toList ++ ',' :: quote "Doe, \"J\"".toList ++ ['\r'] ++
      (quote "456".toList ++ ',' :: quote "a\r\nb".toList)))

lemma writes_bare {v : Text} (h : v.all fun c => c ∉ [',', '"', '\r', '\n']) : WritesCell v v :=
  .bare fun c hc => by simpa [IsSpecial] using all_eq_true.1 h c hc

lemma writes_vans : WritesLines (vans.names :: vans.rows) vansText :=
  .blank .lf (.line (.cons (writes_bare (by decide)) (.last (writes_bare (by decide)))) .crlf
    (.line (.cons (writes_bare (by decide)) (.last (.quoted _))) .cr
      (.unended (.cons (.quoted _) (.last (.quoted _))))))

theorem csv_read_vans : parseCsv vansText = vans.rows.map (recordOf vans.names) :=
  (csv_read_iff vans writes_vans).2 (.inr (by decide))

/-- A header with a name that JavaScript keeps for itself. -/
def prototyped : CsvTable where
  names := ["imei".toList, "__proto__".toList]
  rows := [["1".toList, "a".toList]]
  distinct := by decide
  trimmed := by decide
  wide := by decide

def prototypedText : Text :=
  "imei".toList ++ ',' :: "__proto__".toList ++ ['\n'] ++
    ("1".toList ++ ',' :: "a".toList ++ ['\n'] ++ [])

lemma writes_prototyped : WritesLines (prototyped.names :: prototyped.rows) prototypedText :=
  .line (.cons (writes_bare (by decide)) (.last (writes_bare (by decide)))) .lf
    (.line (.cons (writes_bare (by decide)) (.last (writes_bare (by decide)))) .lf .done)

/-- The value under `__proto__` is lost. -/
theorem csv_prototype_lost : ¬ ∀ (table : CsvTable) (text : Text),
    WritesLines (table.names :: table.rows) text →
      parseCsv text = table.rows.map (recordOf table.names) := by
  intro h
  have hread := h prototyped _ writes_prototyped
  have hvalue := congrArg (fun rows => rows.head?.bind fun obj => obj "__proto__".toList) hread
  exact absurd hvalue (by decide +kernel)

end Orbetra.Csv
