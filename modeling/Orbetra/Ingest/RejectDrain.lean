import Mathlib
import Orbetra.Framework.Machine

/-!
# The reject drain

`runRejectDrain` of `apps/worker/src/jobs/rejectDrainWorker.ts`: passes on several replicas that
copy the `rejects` stream to `raw_rejects`, window by window, and share one cursor in Redis.  Each
Redis or Postgres call of a pass is a step of its own; between two of them anything may happen.

An entry at or below the cursor has been dealt with (`Accounted`): what carries this is that a pass
only ever moves the cursor beyond a window it has dealt with itself, and that it read that window
from a cursor that was not ahead of today's. -/

namespace Orbetra.RejectDrain

open List Option Machine Function

/-- The id of a stream entry, `ms-seq`. -/
structure StreamId where
  ms : ℕ
  seq : ℕ
  deriving DecidableEq

instance : LinearOrder StreamId :=
  LinearOrder.lift' (fun id => toLex (id.ms, id.seq)) fun a b h => by
    obtain ⟨hms, hseq⟩ := Prod.mk.inj (toLex.injective h)
    cases a
    cases b
    exact congrArg₂ StreamId.mk hms hseq

variable {a b : StreamId}

lemma StreamId.le_iff : a ≤ b ↔ a.ms < b.ms ∨ a.ms = b.ms ∧ a.seq ≤ b.seq := Prod.Lex.toLex_le_toLex

/-- `0-0`, where a drain starts; no entry has it. -/
def StreamId.zero : StreamId := ⟨0, 0⟩

lemma StreamId.zero_le (id : StreamId) : StreamId.zero ≤ id := le_iff.2 (by simp only [zero]; omega)

abbrev Bytes := List UInt8

/-- One entry of the stream: the value of its only field, `p`. -/
structure Entry where
  id : StreamId
  value : Bytes
  deriving DecidableEq

/-- What `cbor.decode` makes of a value; a field is `none` where it is absent or of another type. -/
inductive Decoded
  | error
  | notObject
  | object (imei reason : Option String) (raw : Option Bytes)

structure RawRejectRow where
  imei : Option String
  deviceId : Option ℕ
  reason : String
  payload : Option Bytes
  deriving DecidableEq

structure DeviceRow where
  id : ℕ
  imei : String
  retiredAt : Option ℕ
  deriving DecidableEq

structure Deps where
  batchSize : Option ℤ
  maxPerTick : Option ℤ

def Deps.count (deps : Deps) : ℕ := (min (max (deps.batchSize.getD 1000) 1) 10000).toNat

def Deps.ceiling (deps : Deps) : ℕ := (min (max (deps.maxPerTick.getD 25000) 1) 200000).toNat

lemma Deps.count_pos (deps : Deps) : 0 < deps.count := by
  simp only [count]
  omega

/-- What one `XRANGE` returned, with its last entry, and where it started. -/
structure Window where
  since : StreamId
  res : List Entry
  last : Entry
  /-- what had been trimmed when it was read; no code reads it -/
  gone : List Entry

/-- A row that is to be inserted, and the entry it was made from; no code reads the latter. -/
abbrev Made := StreamId × RawRejectRow

/-- Where a pass stands, with the rows it has moved so far. -/
inductive Stage
  | start (moved : ℕ)
  | got (moved : ℕ) (since : StreamId)
  | read (moved : ℕ) (window : Window)
  | checked (moved : ℕ) (window : Window)
  | looked (moved : ℕ) (window : Window) (keep : List Made)
  | inserted (moved : ℕ) (window : Window) (written : ℕ)
  | returned (moved : ℕ)
  /-- it threw, or its process died -/
  | failed

/-- A move of the cursor by a pass, and what had been trimmed when the pass read the window. -/
structure Advance where
  old : StreamId
  new : StreamId
  gone : List Entry

structure World (ι : Type) where
  /-- the entries that have been trimmed; no code reads it -/
  gone : List Entry
  stream : List Entry
  cursor : Option StreamId
  devices : List DeviceRow
  /-- every row that was ever inserted -/
  rawRejects : List Made
  /-- entries whose IMEI no device row held when a pass looked it up; no code reads it -/
  unheld : List StreamId
  /-- the moves of the cursor; no code reads it -/
  advances : List Advance
  passes : ι → Stage

/-- How a call ends: it is answered, it fails, or it takes effect and its answer is lost. -/
inductive Fate
  | answered
  | failed
  | lost
  deriving DecidableEq

inductive Move (ι : Type)
  | append (entry : Entry)
  | trim (n : ℕ)
  | devices (rows : List DeviceRow)
  /-- the next call of a pass, with the code up to the call after it -/
  | call (i : ι) (fate : Fate)
  | die (i : ι)
  deriving DecidableEq

/-! ## One window -/

/-- An active row after every retired one, so that it is the one that stays in the `Map`. -/
def retiredFirst (a b : DeviceRow) : Prop :=
  match a.retiredAt, b.retiredAt with
  | some x, some y => y ≤ x
  | some _, none => True
  | none, some _ => False
  | none, none => True

instance : DecidableRel retiredFirst := fun a b => by
  unfold retiredFirst
  split <;> infer_instance

def imeisIn (devices : List DeviceRow) (imei : String) : Option ℕ :=
  ((devices.insertionSort retiredFirst).filter (·.imei = imei)).getLast?.map (·.id)

section Code

variable (decode : Bytes → Decoded)

def row (entry : Entry) : RawRejectRow :=
  match decode entry.value with
  | .error | .notObject => ⟨none, none, "undecodable", none⟩
  | .object imei reason raw => ⟨imei, none, reason.getD "sanity", raw⟩

/-- The rows that are kept, with the device each belongs to. -/
def kept (devices : List DeviceRow) (res : List Entry) : List Made :=
  (res.map fun e => (e.id, row decode e)).filterMap fun (id, r) =>
    match r.imei with
    | none => some (id, r)
    | some imei => (imeisIn devices imei).map fun device => (id, { r with deviceId := device })

/-- The entries of a window whose IMEI no device row holds. -/
def unheldIn (devices : List DeviceRow) (res : List Entry) : List StreamId :=
  (res.filter fun e =>
    (row decode e).imei.any fun imei => devices.all (·.imei ≠ imei)).map (·.id)

/-- `ADVANCE_CURSOR_SCRIPT`. -/
def advanced (cur : Option StreamId) (id : StreamId) : Option StreamId :=
  match cur with
  | none => some id
  | some c => if id.ms < c.ms ∨ id.ms = c.ms ∧ id.seq ≤ c.seq then some c else some id

/-! ## The passes -/

namespace World

variable {ι : Type} [DecidableEq ι] (w : World ι)

def setPass (i : ι) (stage : Stage) : World ι := { w with passes := update w.passes i stage }

/-- Where an `XRANGE` starts after `redis.get`. -/
def cursorAt : StreamId := w.cursor.getD .zero

def entries : List Entry := w.gone ++ w.stream

def xrange (since : StreamId) (count : ℕ) : List Entry :=
  (w.stream.filter (since < ·.id)).take count

def advance (window : Window) : World ι :=
  if advanced w.cursor window.last.id = w.cursor then w
  else { w with
    cursor := advanced w.cursor window.last.id
    advances := w.advances ++ [⟨w.cursorAt, window.last.id, window.gone⟩] }

end World

variable {ι : Type} [DecidableEq ι] (deps : ι → Deps)

/-- The next call of a pass: what it does to the world, and where the pass stands once it is
answered. -/
def call (w : World ι) (i : ι) : Stage → Option (World ι × Stage)
  | .start moved => some (w, .got moved w.cursorAt)
  | .got moved since =>
    let res := w.xrange since (deps i).count
    match res.getLast? with
    | none => some (w, .returned moved)
    | some last =>
      let window := ⟨since, res, last, w.gone⟩
      some (w, if since = .zero then .checked moved window else .read moved window)
  | .read moved window => some (w, .checked moved window)
  | .checked moved window =>
    some ({ w with unheld := w.unheld ++ unheldIn decode w.devices window.res },
      .looked moved window (kept decode w.devices window.res))
  | .looked moved window keep =>
    some ({ w with rawRejects := w.rawRejects ++ keep }, .inserted moved window keep.length)
  | .inserted moved window written =>
    some (w.advance window,
      if moved + written ≥ (deps i).ceiling then .returned (moved + written)
      else .start (moved + written))
  | .returned _ | .failed => none

def step (w : World ι) : Move ι → Option (World ι)
  | .append entry =>
    -- `XADD *` gives an id above every one it has given
    if StreamId.zero < entry.id ∧ ∀ e ∈ w.entries, e.id < entry.id then
      some { w with stream := w.stream ++ [entry] }
    else none
  | .trim n => some { w with gone := w.gone ++ w.stream.take n, stream := w.stream.drop n }
  | .devices rows => some { w with devices := rows }
  | .call i fate =>
    (call decode deps w i (w.passes i)).map fun (w', stage) =>
      match fate with
      | .answered => w'.setPass i stage
      | .failed => w.setPass i .failed
      | .lost => w'.setPass i .failed
  | .die i => some (w.setPass i .failed)

end Code

/-- Before the first entry. -/
def fresh (ι : Type) (devices : List DeviceRow) : World ι :=
  ⟨[], [], none, devices, [], [], [], fun _ => .start 0⟩

/-! ## What a call leaves as it was -/

lemma imeisIn_eq_none {devices : List DeviceRow} {imei : String}
    (h : imeisIn devices imei = none) : ∀ d ∈ devices, d.imei ≠ imei := by
  intro d hd himei
  have hnil := getLast?_eq_none_iff.1 (map_eq_none_iff.1 h)
  refine filter_eq_nil_iff.1 hnil d ?_ (decide_eq_true himei)
  exact (mem_insertionSort retiredFirst).2 hd

variable {decode : Bytes → Decoded} {ι : Type} {w w' : World ι} {e : Entry}

/-- Each entry of a window is kept, or no device row held its IMEI. -/
lemma mem_kept_or_unheld (devices : List DeviceRow) {res : List Entry} (he : e ∈ res) :
    (∃ device, (e.id, { row decode e with deviceId := device }) ∈ kept decode devices res) ∨
      e.id ∈ unheldIn decode devices res := by
  have hmade : (e.id, row decode e) ∈ res.map fun e => (e.id, row decode e) :=
    mem_map.2 ⟨e, he, rfl⟩
  cases himei : (row decode e).imei with
  | none =>
    refine .inl ⟨(row decode e).deviceId, mem_filterMap.2 ⟨_, hmade, ?_⟩⟩
    dsimp only
    split
    · rfl
    · rename_i imei hsome
      exact absurd (himei.symm.trans hsome) nofun
  | some imei =>
    cases hdevice : imeisIn devices imei with
    | none =>
      refine .inr (mem_map.2 ⟨e, mem_filter.2 ⟨he, ?_⟩, rfl⟩)
      simpa [himei] using imeisIn_eq_none hdevice
    | some device =>
      refine .inl ⟨device, mem_filterMap.2 ⟨_, hmade, ?_⟩⟩
      simp [himei, hdevice]

lemma advanced_cases (cur : Option StreamId) (id : StreamId) :
    (advanced cur id = cur ∧ ∃ c ∈ cur, id ≤ c) ∨
      (advanced cur id = some id ∧ ∀ c ∈ cur, c < id) := by
  cases cur with
  | none => exact .inr ⟨rfl, nofun⟩
  | some c =>
    by_cases h : id ≤ c
    · exact .inl ⟨if_pos (StreamId.le_iff.1 h), c, rfl, h⟩
    · refine .inr ⟨if_neg fun hle => h (StreamId.le_iff.2 hle), fun c' hc' => ?_⟩
      exact some.inj hc' ▸ not_le.1 h

lemma cursorAt_cases (w : World ι) : w.cursorAt = .zero ∨ w.cursorAt ∈ w.cursor := by
  unfold World.cursorAt
  cases w.cursor with
  | none => exact .inl rfl
  | some c => exact .inr rfl

lemma cursorAt_le {id : StreamId} (h : ∀ c ∈ w.cursor, c ≤ id) : w.cursorAt ≤ id :=
  (cursorAt_cases w).elim (fun hzero => hzero ▸ StreamId.zero_le id) (h _)

lemma cursorAt_of_mem {c : StreamId} (h : c ∈ w.cursor) : w.cursorAt = c := by
  rw [World.cursorAt, h]
  rfl

/-- **A pass moves the cursor to the end of its window, or leaves it where it is**, at that end or
beyond. -/
lemma advance_cases (window : Window) :
    (w.advance window = w ∧ window.last.id ≤ w.cursorAt) ∨
      (w.advance window = { w with
          cursor := some window.last.id
          advances := w.advances ++ [⟨w.cursorAt, window.last.id, window.gone⟩] } ∧
        ∀ c ∈ w.cursor, c < window.last.id) := by
  obtain ⟨heq, c, hc, hle⟩ | ⟨heq, hlt⟩ := advanced_cases w.cursor window.last.id
  · exact .inl ⟨if_pos heq, (cursorAt_of_mem hc).symm ▸ hle⟩
  · refine .inr ⟨?_, hlt⟩
    have hne : advanced w.cursor window.last.id ≠ w.cursor := fun h =>
      lt_irrefl _ (hlt window.last.id (h.symm.trans heq))
    rw [World.advance, if_neg hne, heq]

/-- What only grows. -/
structure Later (w w' : World ι) : Prop where
  cursor : ∀ c ∈ w.cursor, ∃ c' ∈ w'.cursor, c ≤ c'
  entries : w.entries ⊆ w'.entries
  newer : ∀ e ∈ w'.entries, e ∈ w.entries ∨ ∀ e' ∈ w.entries, e'.id < e.id
  rawRejects : w.rawRejects ⊆ w'.rawRejects
  unheld : w.unheld ⊆ w'.unheld
  advances : w.advances ⊆ w'.advances

lemma Later.refl (w : World ι) : Later w w :=
  ⟨fun c hc => ⟨c, hc, le_rfl⟩, fun _ h => h, fun _ h => .inl h, fun _ h => h, fun _ h => h,
    fun _ h => h⟩

lemma Later.trans {w'' : World ι} (h : Later w w') (h' : Later w' w'') : Later w w'' where
  cursor := fun c hc => by
    obtain ⟨c', hc', hle⟩ := h.cursor c hc
    obtain ⟨c'', hc'', hle'⟩ := h'.cursor c' hc'
    exact ⟨c'', hc'', hle.trans hle'⟩
  entries := fun _ he => h'.entries (h.entries he)
  newer := fun e he => by
    obtain he | hnewer := h'.newer e he
    · exact h.newer e he
    · exact .inr fun e' he' => hnewer e' (h.entries he')
  rawRejects := fun _ hr => h'.rawRejects (h.rawRejects hr)
  unheld := fun _ hu => h'.unheld (h.unheld hu)
  advances := fun _ ha => h'.advances (h.advances ha)

lemma Later.cursorAt (h : Later w w') : w.cursorAt ≤ w'.cursorAt :=
  cursorAt_le fun c hc => by
    obtain ⟨c', hc', hle⟩ := h.cursor c hc
    rwa [cursorAt_of_mem hc']

lemma advance_later (window : Window) : Later w (w.advance window) := by
  obtain ⟨heq, -⟩ | ⟨heq, hlt⟩ := advance_cases (w := w) window
  · exact heq.symm ▸ Later.refl w
  · rw [heq]
    exact { Later.refl w with
      cursor := fun c hc => ⟨_, rfl, (hlt c hc).le⟩
      advances := subset_append_left _ _ }

lemma advance_frame (window : Window) : (w.advance window).gone = w.gone ∧
    (w.advance window).stream = w.stream ∧ (w.advance window).passes = w.passes := by
  unfold World.advance
  split <;> exact ⟨rfl, rfl, rfl⟩

variable {deps : ι → Deps} {i : ι} {stage stage' : Stage}

/-- **What a call does to the world**: it records and inserts, or, the last of a window, it moves
the cursor. -/
lemma call_world (h : call decode deps w i stage = some (w', stage')) :
    (∃ unheld keep, w' = { w with
      unheld := w.unheld ++ unheld
      rawRejects := w.rawRejects ++ keep }) ∨
      ∃ moved window written, stage = .inserted moved window written ∧ w' = w.advance window := by
  have hsame : ∃ unheld keep, w = { w with
      unheld := w.unheld ++ unheld
      rawRejects := w.rawRejects ++ keep } := ⟨[], [], by simp⟩
  cases stage with
  | got moved since =>
    simp only [call] at h
    split at h <;> cases h <;> exact .inl hsame
  | checked moved window =>
    cases h
    exact .inl ⟨unheldIn decode w.devices window.res, [], by simp⟩
  | looked moved window keep => cases h; exact .inl ⟨[], keep, by simp⟩
  | inserted moved window written =>
    simp only [call, some.injEq, Prod.mk.injEq] at h
    exact .inr ⟨moved, window, written, rfl, h.1.symm⟩
  | returned | failed => cases h
  | start | read => cases h; exact .inl hsame

/-- A call of a pass leaves the stream and the other passes alone. -/
lemma call_frame (h : call decode deps w i stage = some (w', stage')) :
    w'.gone = w.gone ∧ w'.stream = w.stream ∧ w'.passes = w.passes := by
  obtain ⟨_, _, rfl⟩ | ⟨_, window, _, -, rfl⟩ := call_world h
  · exact ⟨rfl, rfl, rfl⟩
  · exact advance_frame window

lemma call_later (h : call decode deps w i stage = some (w', stage')) : Later w w' := by
  obtain ⟨_, _, rfl⟩ | ⟨_, window, _, -, rfl⟩ := call_world h
  · exact { Later.refl w with
      rawRejects := subset_append_left _ _
      unheld := subset_append_left _ _ }
  · exact advance_later window

/-! ## What holds of every run -/

/-- It was inserted, its IMEI was nobody's, or it had been trimmed when the pass that moved the
cursor beyond it read its window. -/
def Accounted (decode : Bytes → Decoded) (w : World ι) (e : Entry) : Prop :=
  (∃ device, (e.id, { row decode e with deviceId := device }) ∈ w.rawRejects) ∨
    e.id ∈ w.unheld ∨ ∃ a ∈ w.advances, a.old < e.id ∧ e.id ≤ a.new ∧ e ∈ a.gone

lemma Accounted.later (hl : Later w w') (h : Accounted decode w e) : Accounted decode w' e := by
  obtain ⟨device, hmem⟩ | hmem | ⟨a, ha, hbeyond⟩ := h
  · exact .inl ⟨device, hl.rawRejects hmem⟩
  · exact .inr (.inl (hl.unheld hmem))
  · exact .inr (.inr ⟨a, hl.advances ha, hbeyond⟩)

/-- A window that leaves out nothing but what had been trimmed. -/
structure Window.Ok (w : World ι) (window : Window) : Prop where
  since_le : window.since ≤ w.cursorAt
  last_mem : window.last ∈ w.entries
  whole : ∀ e ∈ w.entries, window.since < e.id → e.id ≤ window.last.id →
    e ∈ window.res ∨ e ∈ window.gone

variable {window : Window}

lemma Window.Ok.later (hl : Later w w') (h : window.Ok w) : window.Ok w' where
  since_le := h.since_le.trans hl.cursorAt
  last_mem := hl.entries h.last_mem
  whole := fun e he hsince hlast => by
    obtain he | hnewer := hl.newer e he
    · exact h.whole e he hsince hlast
    · exact absurd hlast (not_le.2 (hnewer _ h.last_mem))

def Stage.Ok (decode : Bytes → Decoded) (w : World ι) : Stage → Prop
  | .start _ | .returned _ | .failed => True
  | .got _ since => since ≤ w.cursorAt
  | .read _ window | .checked _ window => window.Ok w
  | .looked _ window keep => window.Ok w ∧ ∀ e ∈ window.res,
      (∃ device, (e.id, { row decode e with deviceId := device }) ∈ keep) ∨ e.id ∈ w.unheld
  | .inserted _ window _ => window.Ok w ∧ ∀ e ∈ window.res,
      (∃ device, (e.id, { row decode e with deviceId := device }) ∈ w.rawRejects) ∨ e.id ∈ w.unheld

lemma Stage.Ok.later {stage : Stage} (hl : Later w w') (h : stage.Ok decode w) :
    stage.Ok decode w' := by
  cases stage with
  | got moved since => exact le_trans h hl.cursorAt
  | read moved window | checked moved window => exact Window.Ok.later hl h
  | looked moved window keep =>
    exact ⟨h.1.later hl, fun e he => (h.2 e he).imp_right fun hmem => hl.unheld hmem⟩
  | inserted moved window written =>
    refine ⟨h.1.later hl, fun e he => (h.2 e he).imp ?_ fun hmem => hl.unheld hmem⟩
    exact fun ⟨device, hmem⟩ => ⟨device, hl.rawRejects hmem⟩
  | _ => trivial

structure Inv (decode : Bytes → Decoded) (w : World ι) : Prop where
  sorted : w.entries.Pairwise (·.id < ·.id)
  pos : ∀ e ∈ w.entries, StreamId.zero < e.id
  cursor_mem : ∀ c ∈ w.cursor, ∃ e ∈ w.entries, e.id = c
  accounted : ∀ e ∈ w.entries, e.id ≤ w.cursorAt → Accounted decode w e
  passes : ∀ i, (w.passes i).Ok decode w

lemma inv_fresh (devices : List DeviceRow) : Inv decode (fresh ι devices) :=
  ⟨.nil, nofun, nofun, nofun, fun _ => trivial⟩

variable {since : StreamId} {last : Entry}

/-- An `XRANGE` from a cursor reads a whole window. -/
lemma xrange_ok (h : Inv decode w) (hsince : since ≤ w.cursorAt) {count : ℕ}
    (hlast : (w.xrange since count).getLast? = some last) :
    (Window.mk since (w.xrange since count) last w.gone).Ok w where
  since_le := hsince
  last_mem := by
    have hmem := (take_sublist _ _).subset (mem_of_getLast? hlast)
    exact mem_append_right _ (mem_filter.1 hmem).1
  whole := by
    intro e he hbeyond hle
    refine (mem_append.1 he).symm.imp_left fun hstream => ?_
    have hfilter : e ∈ w.stream.filter (since < ·.id) :=
      mem_filter.2 ⟨hstream, decide_eq_true hbeyond⟩
    have hsorted := ((pairwise_append.1 h.sorted).2.1).filter (since < ·.id)
    rw [← take_append_drop count (w.stream.filter _)] at hfilter hsorted
    obtain hread | hdropped := mem_append.1 hfilter
    · exact hread
    · -- what the window leaves out comes after its last entry
      have hlt := (pairwise_append.1 hsorted).2.2 last (mem_of_getLast? hlast) e hdropped
      exact absurd hle (not_le.2 hlt)

/-- The next call of a pass leaves it where it should be. -/
lemma call_ok (h : Inv decode w) (hok : stage.Ok decode w)
    (hcall : call decode deps w i stage = some (w', stage')) : stage'.Ok decode w' := by
  have hl := call_later hcall
  cases stage with
  | start moved => cases hcall; exact le_rfl
  | got moved since =>
    simp only [call] at hcall
    split at hcall
    · cases hcall; trivial
    · rename_i last hlast
      have hwindow := xrange_ok h hok hlast
      cases hcall
      split <;> exact hwindow
  | read moved window => cases hcall; exact hok
  | checked moved window =>
    cases hcall
    refine ⟨Window.Ok.later hl hok, fun e he => (mem_kept_or_unheld w.devices he).imp_right ?_⟩
    exact fun hmem => mem_append_right _ hmem
  | looked moved window keep =>
    cases hcall
    refine ⟨hok.1.later hl, fun e he => (hok.2 e he).imp_left ?_⟩
    exact fun ⟨device, hmem⟩ => ⟨device, mem_append_right _ hmem⟩
  | inserted moved window written =>
    simp only [call, some.injEq, Prod.mk.injEq] at hcall
    rw [← hcall.2]
    split <;> trivial
  | returned | failed => cases hcall

/-- **A pass accounts for all it moves the cursor beyond.** -/
lemma advance_accounted (h : Inv decode w) (hok : window.Ok w) (hdealt : ∀ e ∈ window.res,
      (∃ device, (e.id, { row decode e with deviceId := device }) ∈ w.rawRejects) ∨
        e.id ∈ w.unheld) (he : e ∈ w.entries) (hle : e.id ≤ (w.advance window).cursorAt) :
    Accounted decode (w.advance window) e := by
  have hl : Later w (w.advance window) := advance_later window
  by_cases hold : e.id ≤ w.cursorAt
  · exact (h.accounted e he hold).later hl
  obtain ⟨heq, -⟩ | ⟨heq, -⟩ := advance_cases (w := w) window
  · exact absurd (heq ▸ hle) hold
  have hnew : e.id ≤ window.last.id := by rwa [heq] at hle
  have hbeyond := hok.since_le.trans_lt (not_le.1 hold)
  obtain hread | hgone := hok.whole e he hbeyond hnew
  · exact Accounted.later hl ((hdealt e hread).imp_right .inl)
  · rw [heq]
    exact .inr (.inr ⟨_, mem_append_right _ mem_cons_self, not_le.1 hold, hnew, hgone⟩)

lemma Inv.setPass [DecidableEq ι] (h : Inv decode w) (hstage : stage.Ok decode w) :
    Inv decode (w.setPass i stage) :=
  { h with
    passes := fun j => by
      have hl : Later w (w.setPass i stage) := { Later.refl w with }
      rcases eq_or_ne j i with rfl | hj
      · have hpass : (w.setPass j stage).passes j = stage := update_self ..
        rw [hpass]
        exact hstage.later hl
      · have hpass : (w.setPass i stage).passes j = w.passes j := update_of_ne hj ..
        rw [hpass]
        exact (h.passes j).later hl }

lemma Inv.call (h : Inv decode w)
    (hcall : call decode deps w i (w.passes i) = some (w', stage')) : Inv decode w' := by
  have hl := call_later hcall
  obtain ⟨hgone, hstream, hpasses⟩ := call_frame hcall
  have hentries : w'.entries = w.entries := by rw [World.entries, hgone, hstream, World.entries]
  refine ⟨hentries ▸ h.sorted, hentries ▸ h.pos, ?_, ?_, fun j => hpasses ▸ (h.passes j).later hl⟩
  all_goals
    rw [hentries]
    obtain ⟨_, _, rfl⟩ | ⟨moved, window, written, hstage, rfl⟩ := call_world hcall
  · exact h.cursor_mem
  · have hok := h.passes i
    rw [hstage] at hok
    obtain ⟨heq, -⟩ | ⟨heq, -⟩ := advance_cases (w := w) window <;> rw [heq]
    · exact h.cursor_mem
    · exact fun c hc => ⟨window.last, hok.1.last_mem, some.inj hc⟩
  · exact fun e he hle => (h.accounted e he hle).later hl
  · intro e he hle
    have hok := h.passes i
    rw [hstage] at hok
    exact advance_accounted h hok.1 hok.2 he hle

/-- An entry that is appended is newer than all there were. -/
lemma Inv.append {entry : Entry} (h : Inv decode w) (hpos : StreamId.zero < entry.id)
    (hnewest : ∀ e ∈ w.entries, e.id < entry.id) :
    Inv decode { w with stream := w.stream ++ [entry] } ∧
      Later w { w with stream := w.stream ++ [entry] } := by
  have hentries : World.entries { w with stream := w.stream ++ [entry] } =
      w.entries ++ [entry] := (append_assoc _ _ _).symm
  have hl : Later w { w with stream := w.stream ++ [entry] } :=
    { Later.refl w with
      entries := hentries ▸ subset_append_left _ _
      newer := by
        rw [hentries]
        intro e he
        obtain he | he := mem_append.1 he
        · exact .inl he
        · exact .inr (mem_singleton.1 he ▸ hnewest) }
  have hpos' : ∀ e ∈ World.entries { w with stream := w.stream ++ [entry] },
      StreamId.zero < e.id := by
    rw [hentries]
    intro e he
    obtain he | he := mem_append.1 he
    · exact h.pos e he
    · exact mem_singleton.1 he ▸ hpos
  refine ⟨⟨?_, hpos', fun c hc => ?_, ?_, fun j => (h.passes j).later hl⟩, hl⟩
  · rw [hentries]
    refine pairwise_append.2 ⟨h.sorted, pairwise_singleton _ _, fun e he e' he' => ?_⟩
    exact mem_singleton.1 he' ▸ hnewest e he
  · obtain ⟨e, he, heq⟩ := h.cursor_mem c hc
    exact ⟨e, hl.entries he, heq⟩
  · intro e he hle
    obtain hold | hnewer := hl.newer e he
    · exact (h.accounted e hold hle).later hl
    -- the cursor is at an entry there was, or nowhere
    · refine absurd hle (not_le.2 ?_)
      obtain hzero | hmem := cursorAt_cases w
      · exact hzero ▸ hpos' e he
      · obtain ⟨e', he', heq⟩ := h.cursor_mem _ hmem
        exact heq ▸ hnewer e' he'

section Run

variable [DecidableEq ι] {move : Move ι} {moves : List (Move ι)}

/-- **No step undoes anything, and each keeps the invariant.** -/
lemma step_keeps (h : Inv decode w) (hs : step decode deps w move = some w') :
    Inv decode w' ∧ Later w w' := by
  cases move with
  | append entry =>
    simp only [step, ite_none_right_eq_some] at hs
    obtain ⟨⟨hpos, hnewest⟩, hs⟩ := hs
    exact some.inj hs ▸ h.append hpos hnewest
  | trim n =>
    cases hs
    have hentries : World.entries
        { w with gone := w.gone ++ w.stream.take n, stream := w.stream.drop n } = w.entries := by
      simp [World.entries]
    have hl : Later w { w with gone := w.gone ++ w.stream.take n, stream := w.stream.drop n } :=
      { Later.refl w with
        entries := hentries ▸ fun _ he => he
        newer := hentries ▸ fun _ he => .inl he }
    refine ⟨⟨hentries ▸ h.sorted, hentries ▸ h.pos, hentries ▸ h.cursor_mem, ?_,
      fun j => (h.passes j).later hl⟩, hl⟩
    rw [hentries]
    exact fun e he hle => (h.accounted e he hle).later hl
  | devices rows =>
    cases hs
    have hl : Later w { w with devices := rows } := { Later.refl w with }
    exact ⟨⟨h.sorted, h.pos, h.cursor_mem, fun e he hle => (h.accounted e he hle).later hl,
      fun j => (h.passes j).later hl⟩, hl⟩
  | call i fate =>
    simp only [step, map_eq_some_iff] at hs
    obtain ⟨⟨now, stage'⟩, hcall, rfl⟩ := hs
    have hl := call_later hcall
    have hnow := h.call hcall
    cases fate with
    | answered => exact ⟨hnow.setPass (call_ok h (h.passes i) hcall), { hl with }⟩
    | failed => exact ⟨h.setPass trivial, { Later.refl w with }⟩
    | lost => exact ⟨hnow.setPass trivial, { hl with }⟩
  | die i =>
    cases hs
    exact ⟨h.setPass trivial, { Later.refl w with }⟩

lemma run_keeps_inv (h : Inv decode w) (hr : run (step decode deps) w moves = some w') :
    Inv decode w' ∧ Later w w' :=
  @run_keeps _ _ (step decode deps) (fun _ _ => True) _ _ _
    (fun now => Inv decode now ∧ Later w now)
    (fun _ _ _ hnow _ hs =>
      have hnext := step_keeps hnow.1 hs
      ⟨hnext.1, hnow.2.trans hnext.2⟩)
    ⟨h, Later.refl w⟩ (RunFits.of_forall fun _ _ _ => trivial) hr

end Run

/-! ## A pass that is left in peace -/

def World.ahead (w : World ι) (id : StreamId) : ℕ := w.stream.countP (id < ·.id)

/-- A bound on the calls a pass still makes: six for each window, and each window is further on. -/
def World.remaining (w : World ι) : Stage → ℕ
  | .start _ => 6 * w.ahead w.cursorAt + 2
  | .got _ since => 6 * w.ahead since + 1
  | .read _ window => 6 * w.ahead window.last.id + 6
  | .checked _ window => 6 * w.ahead window.last.id + 5
  | .looked _ window _ => 6 * w.ahead window.last.id + 4
  | .inserted _ window _ => 6 * w.ahead window.last.id + 3
  | .returned _ | .failed => 0

/-- No append, no failed call of this pass, and it does not die. -/
def Move.Quiet (i : ι) : Move ι → Prop
  | .append _ => False
  | .call j fate => j = i → fate = .answered
  | .die j => j ≠ i
  | .trim _ | .devices _ => True

/-- A pass that has returned has seen the end of the stream, or has moved its share. -/
def World.Settled (w : World ι) (ceiling : ℕ) : Stage → Prop
  | .returned moved => (∀ e ∈ w.stream, e.id ≤ w.cursorAt) ∨ ceiling ≤ moved
  | .failed => False
  | _ => True

lemma ahead_anti (h : a ≤ b) : w.ahead b ≤ w.ahead a :=
  countP_mono_left fun _ _ hb => decide_eq_true (h.trans_lt (of_decide_eq_true hb))

lemma ahead_lt (hmem : last ∈ w.stream) (hlt : since < last.id) :
    w.ahead last.id < w.ahead since := by
  have hsince : w.ahead last.id = (w.stream.filter (since < ·.id)).countP (last.id < ·.id) := by
    rw [countP_filter, World.ahead]
    refine countP_congr fun e _ => ?_
    simpa using fun hlast => hlt.trans hlast
  rw [hsince, World.ahead, countP_eq_length_filter (p := fun e : Entry => since < e.id)]
  refine countP_lt_length_iff.2 ⟨last, mem_filter.2 ⟨hmem, decide_eq_true hlt⟩, ?_⟩
  exact decide_eq_false (lt_irrefl _)

/-- Later, with nothing appended. -/
structure Calmer (w w' : World ι) : Prop where
  cursorAt : w.cursorAt ≤ w'.cursorAt
  stream : w'.stream.Sublist w.stream

lemma Calmer.remaining_le (h : Calmer w w') (stage : Stage) :
    w'.remaining stage ≤ w.remaining stage := by
  have hahead : ∀ id, w'.ahead id ≤ w.ahead id := fun id => h.stream.countP_le
  cases stage with
  | start moved =>
    have := (hahead w'.cursorAt).trans (ahead_anti h.cursorAt)
    simp only [World.remaining]
    omega
  | got moved since =>
    have := hahead since
    simp only [World.remaining]
    omega
  | read moved window | checked moved window | looked moved window keep
  | inserted moved window written =>
    have := hahead window.last.id
    simp only [World.remaining]
    omega
  | _ => exact le_rfl

lemma Calmer.settled {ceiling : ℕ} (h : Calmer w w') (hs : w.Settled ceiling stage) :
    w'.Settled ceiling stage := by
  cases stage with
  | returned moved =>
    exact hs.imp_left fun hend e he => (hend e (h.stream.subset he)).trans h.cursorAt
  | failed => exact hs
  | _ => trivial

lemma call_calmer (h : call decode deps w i stage = some (w', stage')) : Calmer w w' where
  cursorAt := (call_later h).cursorAt
  stream := (call_frame h).2.1 ▸ Sublist.refl _

/-- **Each call brings a pass nearer to its return.** -/
lemma call_remaining (h : call decode deps w i stage = some (w', stage')) :
    w'.remaining stage' < w.remaining stage := by
  cases stage with
  | start moved =>
    cases h
    simp only [World.remaining]
    omega
  | got moved since =>
    simp only [call] at h
    split at h
    · cases h
      simp only [World.remaining]
      omega
    · rename_i last hlast
      have hmem := mem_filter.1 ((take_sublist _ _).subset (mem_of_getLast? hlast))
      have hlt := ahead_lt hmem.1 (of_decide_eq_true hmem.2)
      cases h
      split <;> simp only [World.remaining] <;> omega
  | inserted moved window written =>
    simp only [call, some.injEq, Prod.mk.injEq] at h
    obtain ⟨rfl, rfl⟩ := h
    have hreached : window.last.id ≤ (w.advance window).cursorAt := by
      obtain ⟨heq, hle⟩ | ⟨heq, -⟩ := advance_cases (w := w) window
      · exact heq.symm ▸ hle
      · exact heq ▸ le_rfl
    have hstream : (w.advance window).ahead = w.ahead :=
      funext fun id => congrArg _ (advance_frame window).2.1
    have := ahead_anti (w := w) hreached
    split <;> simp only [World.remaining, hstream] <;> omega
  | returned | failed => cases h
  | _ =>
    cases h
    simp only [World.remaining, World.ahead]
    omega

lemma call_settled (hok : stage.Ok decode w)
    (h : call decode deps w i stage = some (w', stage')) :
    w'.Settled (deps i).ceiling stage' := by
  cases stage with
  | got moved since =>
    simp only [call] at h
    split at h
    · rename_i hnone
      cases h
      refine .inl fun e he => not_lt.1 fun hlt => ?_
      have hnil := getLast?_eq_none_iff.1 hnone
      have hmem : e ∈ w.stream.filter (since < ·.id) :=
        mem_filter.2 ⟨he, decide_eq_true (lt_of_le_of_lt hok hlt)⟩
      have hcount := (deps i).count_pos
      obtain hzero | hempty := take_eq_nil_iff.1 hnil
      · omega
      · exact not_mem_nil (hempty ▸ hmem)
    · cases h
      split <;> trivial
  | inserted moved window written =>
    simp only [call, some.injEq, Prod.mk.injEq] at h
    rw [← h.2]
    split
    · exact .inr ‹_›
    · trivial
  | returned | failed => cases h
  | _ => cases h; trivial

/-- The end of the stream is where the cursor is. -/
lemma cursor_last (h : Inv decode w) (hend : ∀ e ∈ w.stream, e.id ≤ w.cursorAt)
    (hlast : last ∈ w.stream.getLast?) : w.cursor = some last.id := by
  have hmem := mem_of_getLast? hlast
  have hle := hend last hmem
  obtain hzero | hcursor := cursorAt_cases w
  · exact absurd (hzero ▸ hle) (not_le.2 (h.pos last (mem_append_right _ hmem)))
  · obtain ⟨e, he, heq⟩ := h.cursor_mem _ hcursor
    have hentries : w.entries.getLast? = some last := by
      rw [World.entries, getLast?_append, hlast]
      rfl
    have hge : e.id ≤ last.id := by
      obtain ⟨init, hinit⟩ := getLast?_eq_some_iff.1 hentries
      rw [hinit] at he
      have hsorted := hinit ▸ h.sorted
      obtain he | he := mem_append.1 he
      · exact ((pairwise_append.1 hsorted).2.2 e he last mem_cons_self).le
      · exact (mem_singleton.1 he ▸ le_rfl)
    rw [hcursor]
    exact congrArg some (le_antisymm (heq ▸ hge) hle)

section Quiet

variable [DecidableEq ι] {move : Move ι} {moves : List (Move ι)}

/-- What a quiet step does to the pass. -/
lemma step_quiet (h : Inv decode w) (hq : move.Quiet i)
    (hsettled : w.Settled (deps i).ceiling (w.passes i))
    (hs : step decode deps w move = some w') :
    w'.Settled (deps i).ceiling (w'.passes i) ∧
      w'.remaining (w'.passes i) + [move].count (.call i .answered) ≤ w.remaining (w.passes i) := by
  have hpass : ∀ (now : World ι) (j : ι) (stage : Stage), j ≠ i →
      (now.setPass j stage).passes i = now.passes i := fun now j stage hj =>
    update_of_ne hj.symm ..
  have hother : move ≠ .call i .answered → Calmer w w' → w'.passes i = w.passes i →
      w'.Settled (deps i).ceiling (w'.passes i) ∧
        w'.remaining (w'.passes i) + [move].count (.call i .answered) ≤
          w.remaining (w.passes i) := fun hne hcalm heq => by
    rw [heq, count_singleton, if_neg (by simpa using hne)]
    exact ⟨hcalm.settled hsettled, hcalm.remaining_le _⟩
  cases move with
  | append entry => exact hq.elim
  | trim n =>
    cases hs
    exact hother nofun ⟨le_rfl, drop_sublist _ _⟩ rfl
  | devices rows =>
    cases hs
    exact hother nofun ⟨le_rfl, Sublist.refl _⟩ rfl
  | call j fate =>
    simp only [step, map_eq_some_iff] at hs
    obtain ⟨⟨now, stage'⟩, hcall, rfl⟩ := hs
    by_cases hj : j = i
    · subst hj
      obtain rfl := hq rfl
      have hself : (now.setPass j stage').passes j = stage' := update_self ..
      rw [hself, count_singleton, if_pos (by simp)]
      have hreturn := call_settled (h.passes j) hcall
      have hfewer := call_remaining hcall
      exact ⟨hreturn, hfewer⟩
    · have hne : Move.call j fate ≠ .call i .answered := fun heq => hj (Move.call.inj heq).1
      have hcalm := call_calmer hcall
      have hpasses := (call_frame hcall).2.2
      cases fate with
      | answered => exact hother hne ⟨hcalm.1, hcalm.2⟩ (by rw [hpass _ _ _ hj, hpasses])
      | failed => exact hother hne ⟨le_rfl, Sublist.refl _⟩ (hpass _ _ _ hj)
      | lost => exact hother hne ⟨hcalm.1, hcalm.2⟩ (by rw [hpass _ _ _ hj, hpasses])
  | die j =>
    cases hs
    exact hother nofun ⟨le_rfl, Sublist.refl _⟩ (hpass _ _ _ hq)

lemma run_quiet (h : Inv decode w) (hq : ∀ move ∈ moves, move.Quiet i)
    (hsettled : w.Settled (deps i).ceiling (w.passes i))
    (hr : run (step decode deps) w moves = some w') :
    w'.Settled (deps i).ceiling (w'.passes i) ∧
      w'.remaining (w'.passes i) + moves.count (.call i .answered) ≤ w.remaining (w.passes i) := by
  induction moves generalizing w with
  | nil => exact some.inj hr ▸ ⟨hsettled, le_rfl⟩
  | cons move moves ih =>
    obtain ⟨now, hnow, hrest⟩ := run_cons_eq_some.1 hr
    have hstep := step_quiet h (hq move mem_cons_self) hsettled hnow
    have hlater := ih (step_keeps h hnow).1 (fun m hm => hq m (mem_cons_of_mem _ hm)) hstep.1 hrest
    refine ⟨hlater.1, ?_⟩
    rw [← singleton_append, count_append]
    have := hstep.2
    have := hlater.2
    omega

/-- A pass that has not returned, and has not failed, makes its next call. -/
lemma isSome_call (h : w.Settled (deps i).ceiling (w.passes i)) :
    (step decode deps w (.call i .answered)).isSome ∨ ∃ moved, w.passes i = .returned moved := by
  simp only [step, isSome_map]
  cases hstage : w.passes i with
  | returned moved => exact .inr ⟨moved, rfl⟩
  | failed => exact (hstage ▸ h).elim
  | got moved since =>
    simp only [call]
    split <;> exact .inl rfl
  | _ => exact .inl rfl

/-- **The drain skips nothing and never moves back.** Whatever happens between the calls of its
passes, the cursor does not decrease and every entry at or below it is accounted for; and a pass
that starts in a state of a run and meets no append and no failure comes to its return, within a
bounded number of calls, with the cursor at the last entry or with `maxPerTick` rows moved. -/
theorem drain_skips_nothing {devices : List DeviceRow} {moves' : List (Move ι)}
    (hr : run (step decode deps) (fresh ι devices) moves = some w)
    (hr' : run (step decode deps) w moves' = some w') :
    (∀ c ∈ w.cursor, ∃ c' ∈ w'.cursor, c ≤ c') ∧
      (∀ c ∈ w'.cursor, ∀ e ∈ w'.entries, e.id ≤ c → Accounted decode w' e) ∧
      ∀ i, w.passes i = .start 0 → (∀ move ∈ moves', move.Quiet i) →
        moves'.count (.call i .answered) ≤ 6 * w.ahead w.cursorAt + 2 ∧
          ((step decode deps w' (.call i .answered)).isSome ∨
            ∃ moved, w'.passes i = .returned moved ∧
              ((∀ last ∈ w'.stream.getLast?, w'.cursor = some last.id) ∨
                (deps i).ceiling ≤ moved)) := by
  have hw := (run_keeps_inv (inv_fresh devices) hr).1
  obtain ⟨hw', hl⟩ := run_keeps_inv hw hr'
  refine ⟨hl.cursor, fun c hc e he hle => hw'.accounted e he (cursorAt_of_mem hc ▸ hle), ?_⟩
  intro i hstart hquiet
  obtain ⟨hsettled, hcalls⟩ := run_quiet hw hquiet (hstart ▸ trivial) hr'
  rw [hstart] at hcalls
  refine ⟨(Nat.le_add_left _ _).trans hcalls, (isSome_call hsettled).imp_right ?_⟩
  rintro ⟨moved, hreturned⟩
  rw [hreturned] at hsettled
  exact ⟨moved, hreturned, hsettled.imp_left fun hend last => cursor_last hw' hend⟩

def sampleDevices : List DeviceRow := [⟨7, "one", none⟩]

def sampleEntries : List Entry := [⟨⟨1, 0⟩, [1]⟩, ⟨⟨2, 0⟩, []⟩]

/-- Two entries, of which the second names nobody's IMEI. -/
def appended : World Unit := { fresh Unit sampleDevices with stream := sampleEntries }

def decodeSample (value : Bytes) : Decoded :=
  .object (some (if value = [] then "two" else "one")) none (some value)

theorem drain_skips_nothing_two :
    ∃ w, run (step decodeSample fun _ => ⟨none, none⟩) appended
        (replicate 7 (.call () .answered)) = some w ∧
      w.cursor = some ⟨2, 0⟩ ∧
      w.rawRejects = [(⟨1, 0⟩, ⟨some "one", some 7, "sanity", some [1]⟩)] ∧
      w.passes () = .returned 1 ∧
      ∀ c ∈ w.cursor, ∀ e ∈ w.entries, e.id ≤ c → Accounted decodeSample w e := by
  have happended : run (step decodeSample fun _ => ⟨none, none⟩)
    (fresh Unit sampleDevices) (sampleEntries.map .append) = some appended := rfl
  have hdrained : run (step decodeSample fun _ => ⟨none, none⟩) appended
    (replicate 7 (.call () .answered)) = some _ := rfl
  exact ⟨_, hdrained, rfl, rfl, rfl, (drain_skips_nothing happended hdrained).2.1⟩

end Quiet

end Orbetra.RejectDrain
