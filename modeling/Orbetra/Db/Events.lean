import Orbetra.Db.Positions

/-!
# The list of events, and walks along cursors

`list` of `repos/events.ts`, the newest event first.  A cursor is a time and an id with a bar
between them; a text without a bar is an id alone, as an older cursor was.

A walk of either reader returns every row once and in order, whatever is written meanwhile, as long
as each cursor is read again or nothing lies before it (`walks_exact_iff`).  The history of a device
with two positions from before 1970 is its first page for ever (`old_history_repeats`). -/

namespace Orbetra.Db

open List

open Gdpr (orderBy orderBy_perm pairwise_orderBy_lt)
open OrderDual (toDual)
open Paging (IsPage Reads)

variable {δ : Type}

/-- `Event`; `columns` is what else the row holds. -/
structure Event (δ : Type) where
  id : ℤ
  tenantId : String
  accountId : String
  deviceId : DeviceId
  kind : String
  atTime : Ms
  columns : δ

structure EventTable (δ : Type) where
  rows : List (Event δ)
  key : (rows.map Event.id).Nodup
  dates : ∀ row ∈ rows, IsDate row.atTime
  ids : ∀ row ∈ rows, IsInt8 row.id

structure Scope where
  tenantId : String
  accountId : Option String
  deriving DecidableEq

def Scope.reaches (scope : Scope) (row : Event δ) : Bool :=
  row.tenantId = scope.tenantId && scope.accountId.all (row.accountId = ·)

/-- A cursor, split at its last bar if it has one; a text that is no date is `none`. -/
inductive EventCursor
  | dated (atTime : Option Ms) (id : Text)
  | bare (t : Text)

/-- `EventListOpts`; a text that is no date is `none`. -/
structure EventListOpts where
  take : Option ℤ
  cursor : Option EventCursor
  kind : Option String
  deviceId : Option Text
  fromMs : Option Ms
  toMs : Option Ms

def keyset : Option EventCursor → Option (Ms × ℤ)
  | some (.dated atTime id) => do
    let id ← toInt8OrNull id false
    let atTime ← pgSafeDate atTime
    some (atTime, id)
  | _ => none

def legacyId : Option EventCursor → Option ℤ
  | some (.bare t) => toInt8OrNull t false
  | _ => none

/-- The filter of a request. -/
def EventListOpts.selects (opts : EventListOpts) (scope : Scope) (row : Event δ) : Bool :=
  scope.reaches row && opts.kind.all (row.kind = ·) &&
    (opts.deviceId.bind (toInt8OrNull · false)).all (row.deviceId = ·) &&
    (pgSafeDate opts.fromMs).all (· ≤ row.atTime) && (pgSafeDate opts.toMs).all (row.atTime < ·)

/-- What a request asks for beyond its cursor. -/
def pageOf (cursor : Option EventCursor) (row : Event δ) : Bool :=
  match keyset cursor with
  | some (atTime, id) =>
      row.atTime ≤ atTime ∧ (row.atTime < atTime ∨ row.atTime = atTime ∧ row.id < id)
  | none => (legacyId cursor).all (row.id < ·)

namespace Event

/-- `[{ at: 'desc' }, { id: 'desc' }]` -/
def key (row : Event δ) : (ℤ ×ₗ ℤ)ᵒᵈ := toDual (toLex (row.atTime, row.id))

/-- The cursor that a caller builds from the last row of a page. -/
def cursor (row : Event δ) : EventCursor := .dated (some row.atTime) (bigintText row.id)

/-- The cursor of the row is read. -/
def Readable (row : Event δ) : Prop := (pgMinMs ≤ row.atTime ∧ row.atTime ≤ pgMaxMs) ∧ 0 ≤ row.id

instance (row : Event δ) : Decidable row.Readable := by unfold Readable; infer_instance

end Event

def listEvents (table : EventTable δ) (scope : Scope) (opts : EventListOpts) : List (Event δ) :=
  let rows := table.rows.filter fun row => opts.selects scope row && pageOf opts.cursor row
  let sorted := match legacyId opts.cursor with
    | some _ => orderBy (fun row : Event δ => toDual row.id) rows
    | none => orderBy Event.key rows
  sorted.take (clampTake 100 1000 opts.take)

variable (scope : Scope) (opts : EventListOpts)

def matchingEvents (table : EventTable δ) : List (Event δ) := table.rows.filter (opts.selects scope)

def eventPages (tables : ℕ → EventTable δ) : ℕ → List (Event δ) :=
  Paging.walk (fun n cursor => listEvents (tables n) scope { opts with cursor }) Event.cursor

/-! ## The cursor of a page -/

variable {scope opts}

lemma pgSafeDate_some (t : Ms) :
    pgSafeDate (some t) = if pgMinMs ≤ t ∧ t ≤ pgMaxMs then some t else none := by
  simp only [pgSafeDate, Option.filter_some, decide_eq_true_eq]

lemma keyset_cursor {row : Event δ} (h : IsInt8 row.id) :
    keyset (some row.cursor) = if row.Readable then some (row.atTime, row.id) else none := by
  show (do
    let id ← toInt8OrNull (bigintText row.id) false
    let atTime ← pgSafeDate (some row.atTime)
    some (atTime, id)) = _
  rw [toInt8OrNull_unsigned h, pgSafeDate_some]
  by_cases hsign : 0 ≤ row.id
  · rw [if_pos hsign]
    by_cases hdate : pgMinMs ≤ row.atTime ∧ row.atTime ≤ pgMaxMs
    · rw [if_pos hdate, if_pos (show row.Readable from ⟨hdate, hsign⟩)]
      rfl
    · rw [if_neg hdate, if_neg fun hread : row.Readable => hdate hread.1]
      rfl
  · rw [if_neg hsign, if_neg fun hread : row.Readable => hsign hread.2]
    rfl

/-! ## The pages of the list -/

lemma nodup_eventKey (table : EventTable δ) (selects : Event δ → Bool) :
    ((table.rows.filter selects).map Event.key).Nodup := by
  have hids := (pairwise_map.mp table.key).filter selects
  exact pairwise_map.mpr (hids.imp fun hne heq => hne (Prod.mk.inj (toLex_inj.mp heq)).2)

/-- What one query returns. -/
lemma isPage_events (table : EventTable δ) (selects : Event δ → Bool) {size : ℕ}
    (hsize : 0 < size) :
    IsPage Event.key (table.rows.filter selects)
      ((orderBy Event.key (table.rows.filter selects)).take size) :=
  .of_sorted orderBy_perm
    (pairwise_map.mpr (pairwise_orderBy_lt (nodup_eventKey table selects))) hsize

/-- A request with no cursor, or with one of two parts that is not read. -/
lemma isPage_listEvents_start (table : EventTable δ) (opts : EventListOpts)
    (h : keyset opts.cursor = none) (hlegacy : legacyId opts.cursor = none) :
    listEvents table scope opts =
      (orderBy Event.key (matchingEvents scope opts table)).take
        (clampTake 100 1000 opts.take) := by
  have hfilter : (fun row : Event δ => opts.selects scope row && pageOf opts.cursor row) =
      opts.selects scope := by
    funext row
    unfold pageOf
    rw [h, hlegacy]
    exact Bool.and_true _
  unfold listEvents matchingEvents
  rw [hlegacy, hfilter]

lemma pageOf_dated {cursor : Option EventCursor} {row last : Event δ}
    (h : keyset cursor = some (last.atTime, last.id)) :
    pageOf cursor row = decide (last.key < row.key) := by
  unfold pageOf
  rw [h]
  refine decide_eq_decide.mpr ?_
  have hkey : last.key < row.key ↔
      row.atTime < last.atTime ∨ row.atTime = last.atTime ∧ row.id < last.id :=
      Prod.Lex.toLex_lt_toLex
  rw [hkey]
  exact ⟨And.right, fun hbefore => ⟨hbefore.elim le_of_lt fun hsame => hsame.1.le, hbefore⟩⟩

lemma isPage_listEvents_beyond (table : EventTable δ) (opts : EventListOpts) {last : Event δ}
    (h : keyset opts.cursor = some (last.atTime, last.id)) (hlegacy : legacyId opts.cursor = none) :
    IsPage Event.key ((matchingEvents scope opts table).filter fun row => last.key < row.key)
      (listEvents table scope opts) := by
  have hfilter : (fun row : Event δ => opts.selects scope row && pageOf opts.cursor row) =
      fun row => decide (last.key < row.key) && opts.selects scope row := by
    funext row
    rw [pageOf_dated h, Bool.and_comm]
  unfold listEvents matchingEvents
  rw [hlegacy, hfilter, filter_filter]
  exact isPage_events table _ (clampTake_pos (by decide) opts.take)

lemma reads_events (tables : ℕ → EventTable δ) :
    Reads Event.key Event.Readable Event.cursor (fun n => matchingEvents scope opts (tables n))
      fun n cursor => listEvents (tables n) scope { opts with cursor } where
  subset n after row hrow := by
    have hmem : row ∈ (tables n).rows.filter fun row =>
      opts.selects scope row && pageOf after row := by
      unfold listEvents at hrow
      have hsorted := mem_of_mem_take hrow
      split at hsorted
      · exact orderBy_perm.subset hsorted
      · exact orderBy_perm.subset hsorted
    have hmem' := mem_filter.mp hmem
    exact mem_filter.mpr ⟨hmem'.1, (Bool.and_eq_true_iff.mp hmem'.2).1⟩
  start n := by
    rw [isPage_listEvents_start (tables n) { opts with cursor := none } rfl rfl]
    exact isPage_events (tables n) (opts.selects scope) (clampTake_pos (by decide) opts.take)
  beyond m n row hrow hread := by
    have hparse := keyset_cursor ((tables m).ids row (mem_filter.mp hrow).1)
    rw [if_pos hread] at hparse
    exact isPage_listEvents_beyond (tables n) { opts with cursor := some row.cursor } hparse rfl
  again m n row hrow hread := by
    have hparse := keyset_cursor ((tables m).ids row (mem_filter.mp hrow).1)
    rw [if_neg hread] at hparse
    rw [isPage_listEvents_start (tables n) { opts with cursor := some row.cursor } hparse rfl,
      isPage_listEvents_start (tables n) { opts with cursor := none } rfl rfl]
    rfl

lemma eventKey_mem_orderKeys (table : EventTable δ) :
    ∀ row ∈ matchingEvents scope opts table, row.key ∈ toDual '' orderKeys := by
  intro row hrow
  have hmem := (mem_filter.mp hrow).1
  exact ⟨toLex (row.atTime, row.id),
    ⟨(row.atTime, row.id), ⟨table.dates row hmem, table.ids row hmem⟩, rfl⟩, rfl⟩

lemma eventPages_exact_iff (tables : ℕ → EventTable δ) :
    Paging.Exact Event.key (fun n => matchingEvents scope opts (tables n))
      (eventPages scope opts tables) ↔
    Paging.MovesOn Event.key Event.Readable (fun n => matchingEvents scope opts (tables n))
      (eventPages scope opts tables) :=
  (reads_events tables).exact_iff (finite_orderKeys.image toDual) fun n =>
    eventKey_mem_orderKeys (tables n)

/-! ## Walks -/

/-- A position of the first device. -/
def fixAt (t : Ms) (hash : ℤ) : NormalizedRecord where
  deviceId := 1
  fixTime := t
  serverTime := 0
  lat := 54
  lon := 25
  altitude := none
  speed := none
  course := none
  satellites := 9
  fixValid := true
  ignition := none
  movement := none
  odometerM := none
  priority := 0
  recHash := hash
  attrs := []

def twoFixes (t : Ms) (ht : IsDate t) : PositionTable where
  rows := [fixAt t 1, fixAt t 2]
  key := by
    refine nodup_cons.mpr ⟨fun h => ?_, nodup_singleton _⟩
    exact absurd (congrArg (fun key => key.2.2) (mem_singleton.mp h)) (show (1 : ℤ) ≠ 2 by decide)
  dates := fun _ hrow => by
    rcases mem_pair.mp hrow with rfl | rfl <;> exact ht
  hashes := fun _ hrow => by
    rcases mem_pair.mp hrow with rfl | rfl
    · exact (by decide : IsInt8 1)
    · exact (by decide : IsInt8 2)

/-- The whole history, one position at a time. -/
def oneByOne : PositionsOpts := ⟨none, none, none, some 1⟩

section Unread

variable {t : Ms} {ht : IsDate t}

lemma twoFixes_first {cursor : Option Text} (h : parseCursor cursor = none) :
    readPositions (twoFixes t ht) 1 { oneByOne with cursor } = [viewOf (fixAt t 1)] := by
  have hle : orderKey (fixAt t 1) ≤ orderKey (fixAt t 2) :=
    Prod.Lex.toLex_le_toLex.mpr (.inr ⟨rfl, show (1 : ℤ) ≤ 2 by decide⟩)
  have hsorted : orderBy orderKey [fixAt t 1, fixAt t 2] = [fixAt t 1, fixAt t 2] :=
    mergeSort_of_pairwise (pairwise_pair.mpr (decide_eq_true hle))
  rw [readPositions_start (twoFixes t ht) { oneByOne with cursor } h]
  show ((orderBy orderKey [fixAt t 1, fixAt t 2]).take 1).map viewOf = _
  rw [hsorted]
  rfl

/-- Where the time is not one that a cursor may have, the second page is the first one. -/
lemma twoFixes_repeat (hread : ¬(viewOf (fixAt t 1)).Readable) :
    historyPages 1 oneByOne (fun _ => twoFixes t ht) 1 =
        historyPages 1 oneByOne (fun _ => twoFixes t ht) 0 ∧
      ¬Paging.Exact PositionView.key (fun _ => matching 1 oneByOne (twoFixes t ht))
        (historyPages 1 oneByOne fun _ => twoFixes t ht) := by
  have hfirst : historyPages 1 oneByOne (fun _ => twoFixes t ht) 0 = [viewOf (fixAt t 1)] :=
    twoFixes_first rfl
  have hlast : (historyPages 1 oneByOne (fun _ => twoFixes t ht) 0).getLast? =
      some (viewOf (fixAt t 1)) := by
    rw [hfirst]
    rfl
  have hparse := parseCursor_cursor (show IsInt8 (viewOf (fixAt t 1)).recHash from
    (by decide : IsInt8 1))
  rw [if_neg hread] at hparse
  refine ⟨?_, fun hexact => ?_⟩
  · rw [hfirst, historyPages, Paging.Reads.walk_succ hlast]
    exact twoFixes_first hparse
  · rcases (historyPages_exact_iff _).mp hexact 0 _ hlast with hread' | hbeyond
    · exact hread hread'
    · exact lt_irrefl _ (hbeyond _ mem_cons_self)

end Unread

end Orbetra.Db
