import Orbetra.Trip.Engine

/-!
# The table `trips`

The rows that the persister and the recompute job share, with the statements of `writer.ts`.  Ids
are assigned in ascending order and never again, which `TripTable` carries with it: a row is found
by its id alone.
-/

namespace Orbetra

open List

inductive TripStatus
  /-- `'open'` -/
  | running
  /-- `'closed'` -/
  | closed
  deriving DecidableEq

structure TripRow where
  id : ℕ
  tenantId : String
  accountId : String
  deviceId : DeviceId
  status : TripStatus
  startTime : Ms
  endTime : Option Ms
  startLat : Option ℚ
  startLon : Option ℚ
  endLat : Option ℚ
  endLon : Option ℚ
  distanceM : ℤ
  distanceSource : DistanceSource
  maxSpeed : ℤ
  idleS : ℤ
  driverId : Option String
  deriving DecidableEq

/-- `COALESCE("endTime","startTime")` -/
def TripRow.lastTime (row : TripRow) : Ms := row.endTime.getD row.startTime

/-- The table, with the sequence its ids come from. -/
structure TripTable where
  rows : List TripRow
  nextId : ℕ
  /-- Ids are assigned in ascending order. -/
  ascending : rows.Pairwise (·.id < ·.id)
  /-- The sequence is ahead of every row. -/
  ahead : ∀ row ∈ rows, row.id < nextId

namespace TripTable

def empty : TripTable := ⟨[], 1, .nil, by simp⟩

/-- `INSERT … RETURNING id`; the row gets the next id. -/
def insert (t : TripTable) (row : TripRow) : TripTable where
  rows := t.rows ++ [{ row with id := t.nextId }]
  nextId := t.nextId + 1
  ascending := by
    refine pairwise_append.2 ⟨t.ascending, by simp, fun a ha b hb => ?_⟩
    obtain rfl := mem_singleton.1 hb
    exact t.ahead a ha
  ahead row' h := by
    rcases mem_append.1 h with h | h
    · exact (t.ahead row' h).trans (Nat.lt_succ_self _)
    · obtain rfl := mem_singleton.1 h
      exact Nat.lt_succ_self _

def delete (t : TripTable) (p : TripRow → Bool) : TripTable where
  rows := t.rows.filter fun row => !p row
  nextId := t.nextId
  ascending := t.ascending.filter _
  ahead row h := t.ahead row (mem_of_mem_filter h)

/-- `UPDATE … WHERE p`; no statement assigns an id. -/
def update (t : TripTable) (p : TripRow → Bool) (f : TripRow → TripRow) : TripTable where
  rows := t.rows.map fun row => if p row then { f row with id := row.id } else row
  nextId := t.nextId
  ascending := by
    refine pairwise_map.2 (t.ascending.imp fun {a b} h => ?_)
    split <;> split <;> exact h
  ahead row h := by
    obtain ⟨row', hrow', rfl⟩ := mem_map.1 h
    split <;> exact t.ahead row' hrow'

variable {t : TripTable}

@[simp] lemma rows_insert (row : TripRow) :
    (t.insert row).rows = t.rows ++ [{ row with id := t.nextId }] := rfl

@[simp] lemma nextId_insert (row : TripRow) : (t.insert row).nextId = t.nextId + 1 := rfl

@[simp] lemma rows_delete (p : TripRow → Bool) :
    (t.delete p).rows = t.rows.filter fun row => !p row := rfl

@[simp] lemma nextId_delete (p : TripRow → Bool) : (t.delete p).nextId = t.nextId := rfl

@[simp] lemma rows_update (p : TripRow → Bool) (f : TripRow → TripRow) :
    (t.update p f).rows = t.rows.map fun row => if p row then { f row with id := row.id } else row :=
  rfl

lemma eq_of_id_eq {a b : TripRow} (ha : a ∈ t.rows) (hb : b ∈ t.rows) (h : a.id = b.id) :
    a = b := by
  have hnodup : (t.rows.map TripRow.id).Nodup :=
    pairwise_map.2 (t.ascending.imp fun h => ne_of_lt h)
  exact inj_on_of_nodup_map hnodup ha hb h

end TripTable

/-! ## `writer.ts` -/

def int4Max : ℤ := 2147483647

def clampInt4 (n : ℤ) : ℤ := min int4Max (max 0 n)

/-- `TripOpen`. -/
structure TripOpen where
  tenantId : String
  accountId : String
  deviceId : DeviceId
  startTime : Ms
  startLat : ℚ
  startLon : ℚ
  deriving DecidableEq

/-- `TripClose`. -/
structure TripClose where
  endTime : Ms
  endLat : ℚ
  endLon : ℚ
  distanceM : ℤ
  distanceSource : DistanceSource
  maxSpeed : ℤ
  idleS : ℤ
  driverId : Option String
  deriving DecidableEq

/-- The row `openTrip` inserts, its id aside. -/
def TripOpen.row (o : TripOpen) : TripRow where
  id := 0
  tenantId := o.tenantId
  accountId := o.accountId
  deviceId := o.deviceId
  status := .running
  startTime := o.startTime
  endTime := none
  startLat := some o.startLat
  startLon := some o.startLon
  endLat := none
  endLon := none
  distanceM := 0
  distanceSource := .gps
  maxSpeed := 0
  idleS := 0
  driverId := none

/-- `openTrip`: the table, and the id of the new row. -/
def openTrip (t : TripTable) (o : TripOpen) : TripTable × ℕ := (t.insert o.row, t.nextId)

def TripClose.set (c : TripClose) (row : TripRow) : TripRow :=
  { row with
    status := .closed
    endTime := some c.endTime
    endLat := some c.endLat
    endLon := some c.endLon
    distanceM := clampInt4 c.distanceM
    distanceSource := c.distanceSource
    maxSpeed := clampInt4 c.maxSpeed
    idleS := clampInt4 c.idleS
    driverId := row.driverId.or c.driverId }

/-- `WHERE "id"=$1 AND "status"='open'` -/
def isRunning (id : ℕ) (row : TripRow) : Bool := row.id = id ∧ row.status = .running

/-- `closeTrip`: the table, and whether a row was written. -/
def closeTrip (t : TripTable) (id : ℕ) (c : TripClose) : TripTable × Bool :=
  (t.update (isRunning id) c.set, t.rows.any (isRunning id))

end Orbetra
