import Orbetra.Framework.Async
import Orbetra.Records

/-!
# The geofence budgets of a tenant

`create`, `update` and `remove` of `packages/db/src/repos/geofences.ts`, over the fences of one
tenant.  A creation counts the fences and their vertices, and inserts its own, behind an advisory
lock of the tenant; a redraw and a removal are one statement each and take no lock.

The budgets hold as long as the redraws fit into what the fences, and the creation that has counted
them, leave (`budgets_hold`); nothing in `update` sees to that (`redraw_exceeds`). -/

namespace Orbetra.Geofences

open List Async Nat

abbrev FenceId := ℕ

abbrev AccountId := ℕ

def MAX_AREA_M2 : ℚ := 10000 * 1000000

def MAX_GEOFENCE_VERTICES : ℕ := 2000

def MAX_GEOFENCES_PER_TENANT : ℕ := 500

def MAX_TENANT_GEOFENCE_VERTICES : ℕ := 50000

inductive GeofenceError
  | invalid
  | tooLarge
  | tooComplex (message : String)
  | limit
  /-- An error of Postgres. -/
  | query
  deriving DecidableEq

inductive GeofenceKind
  | polygon
  | circle
  | corridor
  deriving DecidableEq

/-! ## Geography -/

/-- The functions of PostGIS, on its geographies and on GeoJSON. -/
structure PostGis (Json Geog : Type) where
  /-- `ST_GeomFromGeoJSON`, `none` where it is an error. -/
  fromGeoJSON : Json → Option Geog
  asGeoJSON : Geog → Json
  buffer : Geog → ℚ → Geog
  /-- `ST_SimplifyPreserveTopology`, with the tolerance of the code. -/
  simplify : Geog → Geog
  isValid : Geog → Bool
  area : Geog → ℚ
  npoints : Geog → ℕ

/-- An expression of SQL for a geography. -/
inductive GeogExpr (Json : Type)
  | geoJson (geometry : Json)
  | buffer (line : Json) (bufferM : ℚ)
  | simplifyToBudget (geog : GeogExpr Json)
  deriving DecidableEq

variable {Json Geog : Type}

def GeogExpr.eval (gis : PostGis Json Geog) : GeogExpr Json → Option Geog
  | .geoJson geometry => gis.fromGeoJSON geometry
  | .buffer line bufferM => (gis.fromGeoJSON line).map (gis.buffer · bufferM)
  | .simplifyToBudget geog => (geog.eval gis).map fun g =>
    if gis.npoints g ≤ MAX_GEOFENCE_VERTICES then g else gis.simplify g

structure GeofenceCreate (Json : Type) where
  name : String
  color : Option String
  kind : GeofenceKind
  accountId : Option AccountId
  geometry : Option Json
  line : Option Json
  bufferM : Option ℚ

structure GeofenceUpdate (Json : Type) where
  name : Option String
  color : Option String
  geometry : Option Json
  line : Option Json
  bufferM : Option ℚ

/-- A row of `geofences`. -/
structure Fence (Geog : Type) where
  id : FenceId
  accountId : Option AccountId
  name : String
  color : String
  kind : GeofenceKind
  geom : Geog
  deriving DecidableEq

structure GeofenceView (Json : Type) where
  id : FenceId
  accountId : Option AccountId
  name : String
  color : String
  kind : GeofenceKind
  geometry : Json
  deriving DecidableEq

def toView (gis : PostGis Json Geog) (r : Fence Geog) : GeofenceView Json :=
  ⟨r.id, r.accountId, r.name, r.color, r.kind, gis.asGeoJSON r.geom⟩

def corridorExpr (line : Json) (bufferM : Option ℚ) : Except GeofenceError (GeogExpr Json) :=
  match bufferM with
  | none => .error .invalid
  | some m => if m < 10 ∨ m > 5000 then .error .invalid else .ok (.buffer line m)

/-- `geogFor` -/
def geogFor (data : GeofenceCreate Json) : Except GeofenceError (GeogExpr Json) :=
  if data.kind = .corridor then
    match data.line with
    | none => .error .invalid
    | some line => corridorExpr line data.bufferM
  else
    match data.geometry with
    | none => .error .invalid
    | some geometry => .ok (.geoJson geometry)

/-! ## The store -/

/-- The fences of the tenant, the creation that holds the lock of the tenant, the row that it has
inserted, and the vertices that it is going to add since it has counted the others. -/
structure FenceStore (ι Geog : Type) where
  fences : List (Fence Geog)
  nextId : FenceId
  holder : Option ι
  pending : Option (Fence Geog)
  reserved : Option ℕ

def vertices (gis : PostGis Json Geog) (fences : List (Fence Geog)) : ℕ :=
  (fences.map fun f => gis.npoints f.geom).sum

def reads (scope : Option AccountId) (f : Fence Geog) : Bool :=
  scope.all fun accountId => f.accountId = some accountId || f.accountId = none

def mutates (scope : Option AccountId) (f : Fence Geog) : Bool :=
  scope.all fun accountId => f.accountId = some accountId

/-- The `SET` list of an update. -/
structure Sets (Json : Type) where
  name : Option String
  color : Option String
  geom : Option (GeogExpr Json)

def Fence.set (f : Fence Geog) (name color : Option String) (geom : Option Geog) : Fence Geog :=
  { f with name := name.getD f.name, color := color.getD f.color, geom := geom.getD f.geom }

/-- One statement. -/
inductive FenceCommand (ι Json : Type)
  | one (scope : Option AccountId) (id : FenceId)
  | check (geog : GeogExpr Json)
  | lock (me : ι)
  /-- The count and the sum, before `geog` is added. -/
  | budget (me : ι) (geog : GeogExpr Json)
  | added (geog : GeogExpr Json)
  | insert (me : ι) (accountId : Option AccountId) (name color : String) (kind : GeofenceKind)
      (geog : GeogExpr Json)
  | commit (me : ι)
  | rollback (me : ι)
  | update (scope : Option AccountId) (id : FenceId) (sets : Sets Json)
  | delete (scope : Option AccountId) (id : FenceId)
  | audit

structure GeogCheck where
  valid : Bool
  area : ℚ
  npoints : ℕ
  deriving DecidableEq

/-- What a statement is answered with; one that is an error, with `none`. -/
abbrev FenceCommand.Answer (ι Geog : Type) : FenceCommand ι Json → Type
  | .one .. => Option (Fence Geog)
  | .check _ => Option GeogCheck
  | .budget .. => ℕ × ℕ
  | .added _ => Option ℕ
  | .insert .. => Option (Fence Geog)
  | .update .. => Option (Option (Fence Geog))
  | .delete .. => ℕ
  | _ => Unit

variable {ι : Type} [DecidableEq ι]

namespace FenceStore

/-- The row that an update or a removal is about. -/
def target (s : FenceStore ι Geog) (scope : Option AccountId) (id : FenceId) :
    Option (Fence Geog) :=
  s.fences.find? fun f => f.id = id && mutates scope f

def updateRow (gis : PostGis Json Geog) (s : FenceStore ι Geog) (sets : Sets Json)
    (row : Fence Geog) : FenceStore ι Geog × Option (Option (Fence Geog)) :=
  match sets.geom.map (·.eval gis) with
  | some none => (s, none)
  | geom =>
    let row' := row.set sets.name sets.color (geom.bind id)
    ({ s with fences := s.fences.map fun f => if f.id = row.id then row' else f }, some (some row'))

def update (gis : PostGis Json Geog) (s : FenceStore ι Geog) (scope : Option AccountId)
    (id : FenceId) (sets : Sets Json) : FenceStore ι Geog × Option (Option (Fence Geog)) :=
  match s.target scope id with
  | none => (s, some none)
  | some row => s.updateRow gis sets row

def delete (s : FenceStore ι Geog) (scope : Option AccountId) (id : FenceId) :
    FenceStore ι Geog × ℕ :=
  match s.target scope id with
  | none => (s, 0)
  | some row => ({ s with fences := s.fences.filter fun f => f.id ≠ row.id }, 1)

/-- The lock is let go. -/
def release (s : FenceStore ι Geog) : FenceStore ι Geog :=
  { s with holder := none, pending := none, reserved := none }

end FenceStore

def FenceCommand.run (gis : PostGis Json Geog) :
    (c : FenceCommand ι Json) → FenceStore ι Geog → FenceStore ι Geog × c.Answer ι Geog
  | .one scope id, s => (s, s.fences.find? fun f => f.id = id && reads scope f)
  | .check geog, s =>
    (s, (geog.eval gis).map fun g => ⟨gis.isValid g, gis.area g, gis.npoints g⟩)
  | .lock me, s => ({ s with holder := some me }, ())
  | .budget _ geog, s =>
    let n := s.fences.length
    let v := vertices gis s.fences
    let fits (points : ℕ) : Bool :=
      n < MAX_GEOFENCES_PER_TENANT && v + points ≤ MAX_TENANT_GEOFENCE_VERTICES
    ({ s with reserved := ((geog.eval gis).map gis.npoints).filter fits }, (n, v))
  | .added geog, s => (s, (geog.eval gis).map gis.npoints)
  | .insert _ accountId name color kind geog, s =>
    match geog.eval gis with
    | none => (s, none)
    | some g =>
      let row : Fence Geog := ⟨s.nextId, accountId, name, color, kind, g⟩
      ({ s with pending := some row, nextId := s.nextId + 1 }, some row)
  | .commit me, s =>
    if s.holder = some me then ({ s.release with fences := s.fences ++ s.pending.toList }, ())
    else (s, ())
  | .rollback me, s => (if s.holder = some me then s.release else s, ())
  | .update scope id sets, s => s.update gis scope id sets
  | .delete scope id, s => s.delete scope id
  | .audit, s => (s, ())

/-! ## The calls -/

abbrev fenceService (ι : Type) [DecidableEq ι] (gis : PostGis Json Geog) :
    Service (FenceStore ι Geog) where
  Cmd := FenceCommand ι Json
  Answer := FenceCommand.Answer ι Geog
  run := FenceCommand.run gis

section Calls

variable {gis : PostGis Json Geog}

abbrev Call (ι : Type) [DecidableEq ι] (gis : PostGis Json Geog) :=
  Async (fenceService ι gis) GeofenceError

def send (c : FenceCommand ι Json) : Call ι gis (c.Answer ι Geog) :=
  Async.send (V := fenceService ι gis) .query c

/-- The answer of a statement, which throws where it is an error. -/
def answered {α : Type} : Option α → Call ι gis α
  | some a => pure a
  | none => .threw .query

def ofExcept {α : Type} : Except GeofenceError α → Call ι gis α
  | .ok a => pure a
  | .error e => .threw e

/-- What is wrong with a geography. -/
def checkError (chk : GeogCheck) : Option GeofenceError :=
  if !chk.valid then some .invalid
  else if chk.area > MAX_AREA_M2 then some .tooLarge
  else if chk.npoints > MAX_GEOFENCE_VERTICES then
    some (.tooComplex "geofence exceeds 2000 vertices — simplify it")
  else none

def guardGeog (geog : GeogExpr Json) : Call ι gis Unit := do
  let row : Option GeogCheck ← send (.check geog)
  let chk ← answered row
  match checkError chk with
  | some e => .threw e
  | none => pure ()

def insertCounted (me : ι) (data : GeofenceCreate Json) (geog : GeogExpr Json) (v added : ℕ) :
    Call ι gis (Fence Geog) := do
  if v + added > MAX_TENANT_GEOFENCE_VERTICES then
    .threw (.tooComplex
      "tenant geofence vertex budget exhausted (50000) — simplify or remove existing zones")
  else
    let inserted : Option (Fence Geog) ← send
      (.insert me data.accountId data.name (data.color.getD "#4DA3FF") data.kind geog)
    let row ← answered inserted
    let _ : Unit ← send (.commit me)
    pure row

/-- What the transaction does behind the lock. -/
def insertWithin (me : ι) (data : GeofenceCreate Json) (geog : GeogExpr Json) :
    Call ι gis (Fence Geog) := do
  let _ : Unit ← send (.lock me)
  let (n, v) : ℕ × ℕ ← send (.budget me geog)
  if n ≥ MAX_GEOFENCES_PER_TENANT then
    .threw .limit
  else
    let counted : Option ℕ ← send (.added geog)
    let added ← answered counted
    insertCounted me data geog v added

def insertTx (me : ι) (data : GeofenceCreate Json) (geog : GeogExpr Json) :
    Call ι gis (Fence Geog) :=
  (insertWithin me data geog).attempt fun e => do
    let _ : Unit ← send (.rollback me)
    .threw e

def create (me : ι) (data : GeofenceCreate Json) : Call ι gis (GeofenceView Json) := do
  let raw ← ofExcept (geogFor data)
  let geog := if data.kind = .corridor then .simplifyToBudget raw else raw
  guardGeog geog
  let row ← insertTx me data geog
  let _ : Unit ← send .audit
  pure (toView gis row)

def redrawExpr (before : Fence Geog) (data : GeofenceUpdate Json) :
    Except GeofenceError (Option (GeogExpr Json)) :=
  if data.geometry.isSome ∧ before.kind = .corridor then .error .invalid
  else if data.line.isSome ∧ before.kind ≠ .corridor then .error .invalid
  else
    match data.geometry, data.line with
    | some geometry, _ => .ok (some (.geoJson geometry))
    | none, some line => some <$> corridorExpr line data.bufferM
    | none, none => .ok none

/-- A redraw is checked, and nothing else. -/
def guardRedraw : Option (GeogExpr Json) → Call ι gis Unit
  | none => pure ()
  | some geog => guardGeog geog

/-- The statement of an update. -/
def writeSets (scope : Option AccountId) (id : FenceId) (sets : Sets Json) :
    Call ι gis (Option (GeofenceView Json)) := do
  let updated : Option (Option (Fence Geog)) ← send (.update scope id sets)
  let row ← answered updated
  match row with
  | none => pure none
  | some row =>
    let _ : Unit ← send .audit
    pure (some (toView gis row))

def update (scope : Option AccountId) (id : FenceId) (data : GeofenceUpdate Json) :
    Call ι gis (Option (GeofenceView Json)) := do
  let before : Option (Fence Geog) ← send (.one scope id)
  match before with
  | none => pure none
  | some before =>
    let geomExpr ← ofExcept (redrawExpr before data)
    guardRedraw geomExpr
    if data.name.isNone && data.color.isNone && geomExpr.isNone then
      pure (some (toView gis before))
    else
      writeSets scope id ⟨data.name, data.color, geomExpr⟩

def remove (scope : Option AccountId) (id : FenceId) : Call ι gis Bool := do
  let before : Option (Fence Geog) ← send (.one scope id)
  match before with
  | none => pure false
  | some _ =>
    let affected : ℕ ← send (.delete scope id)
    if affected = 0 then
      pure false
    else
      let _ : Unit ← send .audit
      pure true

end Calls

/-- What is asked for. -/
inductive GeofenceCall (Json : Type)
  | create (data : GeofenceCreate Json)
  | update (scope : Option AccountId) (id : FenceId) (data : GeofenceUpdate Json)
  | remove (scope : Option AccountId) (id : FenceId)

def GeofenceCall.program (gis : PostGis Json Geog) (me : ι) : GeofenceCall Json → Call ι gis Unit
  | .create data => do
    let _ ← Geofences.create me data
    pure ()
  | .update scope id data => do
    let _ ← Geofences.update scope id data
    pure ()
  | .remove scope id => do
    let _ ← Geofences.remove scope id
    pure ()

/-! ## What the calls do to each other -/

variable {gis : PostGis Json Geog} {s s' : FenceStore ι Geog} {me : ι}

def WithinBudgets (gis : PostGis Json Geog) (fences : List (Fence Geog)) : Prop :=
  fences.length ≤ MAX_GEOFENCES_PER_TENANT ∧ vertices gis fences ≤ MAX_TENANT_GEOFENCE_VERTICES

/-- Every row has an identity of its own, that no later row gets. -/
def Distinct (fences : List (Fence Geog)) (nextId : FenceId) : Prop :=
  (fences.map (·.id)).Nodup ∧ ∀ f ∈ fences, f.id < nextId

/-- The budgets hold even when the creation commits that has counted the fences. -/
structure Reserved (gis : PostGis Json Geog) (s : FenceStore ι Geog) : Prop where
  vertices_le : vertices gis s.fences + s.reserved.getD 0 ≤ MAX_TENANT_GEOFENCE_VERTICES
  length_le : s.fences.length + s.reserved.toList.length ≤ MAX_GEOFENCES_PER_TENANT
  pending : ∀ f ∈ s.pending, s.reserved = some (gis.npoints f.geom)
  idle : s.holder = none → s.pending = none ∧ s.reserved = none
  distinct : Distinct (s.fences ++ s.pending.toList) s.nextId

/-- The holder of the lock, and what it is about to insert, stay. -/
def Undisturbed (s s' : FenceStore ι Geog) : Prop :=
  s'.holder = s.holder ∧ s'.pending = s.pending ∧ s'.reserved = s.reserved

/-- What a call relies on. -/
def othersReserve (gis : PostGis Json Geog) (me : ι) (_ : Option (FenceCommand ι Json))
    (s s' : FenceStore ι Geog) : Prop :=
  (Reserved gis s → Reserved gis s') ∧ (s.holder = some me → Undisturbed s s')

/-- What a call promises. -/
def reserves (gis : PostGis Json Geog) (me : ι) (_ : FenceCommand ι Json)
    (s s' : FenceStore ι Geog) : Prop :=
  (Reserved gis s → Reserved gis s') ∧ ∀ j, j ≠ me → s.holder = some j → Undisturbed s s'

/-- There is room for a redraw: the vertices that it adds to those of its row fit beside the other
fences and beside the creation that has counted the fences. -/
def Room (gis : PostGis Json Geog) (s : FenceStore ι Geog) (scope : Option AccountId) (id : FenceId)
    (sets : Sets Json) : Prop :=
  ∀ row ∈ s.target scope id, ∀ g ∈ sets.geom.bind (·.eval gis),
    vertices gis s.fences + gis.npoints g + s.reserved.getD 0 ≤
      MAX_TENANT_GEOFENCE_VERTICES + gis.npoints row.geom

/-- The lock is waited for, and a redraw finds room. -/
def FenceCommand.Fits (gis : PostGis Json Geog) (s : FenceStore ι Geog) : FenceCommand ι Json → Prop
  | .lock _ => s.holder = none
  | .update scope id sets => Room gis s scope id sets
  | _ => True

instance (gis : PostGis Json Geog) (s : FenceStore ι Geog) (scope : Option AccountId) (id : FenceId)
    (sets : Sets Json) : Decidable (Room gis s scope id sets) :=
  inferInstanceAs (Decidable (∀ row ∈ s.target scope id, ∀ g ∈ sets.geom.bind (·.eval gis), _))

instance (gis : PostGis Json Geog) (s : FenceStore ι Geog) (c : FenceCommand ι Json) :
    Decidable (c.Fits gis s) :=
  match c with
  | .lock _ => inferInstanceAs (Decidable (s.holder = none))
  | .update scope id sets => inferInstanceAs (Decidable (Room gis s scope id sets))
  | .one .. | .check _ | .budget .. | .added _ | .insert .. | .commit _ | .rollback _ | .delete ..
  | .audit => isTrue trivial

/-! ### One command -/

lemma vertices_append (gis : PostGis Json Geog) (l l' : List (Fence Geog)) :
    vertices gis (l ++ l') = vertices gis l + vertices gis l' := by
  simp [vertices]

lemma vertices_filter_le (gis : PostGis Json Geog) (p : Fence Geog → Bool)
    (fences : List (Fence Geog)) : vertices gis (fences.filter p) ≤ vertices gis fences :=
  (fences.filter_sublist.map _).sum_le_sum fun _ _ => zero_le _

variable {fences : List (Fence Geog)} {row : Fence Geog} {c : FenceCommand ι Json} {α : Type}
  {geog : GeogExpr Json} {g : Geog}

lemma map_replace_of_not_mem {id : FenceId} (row : Fence Geog) (h : id ∉ fences.map (·.id)) :
    (fences.map fun f => if f.id = id then row else f) = fences := by
  conv_rhs => rw [← map_id fences]
  refine map_congr_left fun f hf => if_neg fun heq => ?_
  exact h (mem_map.mpr ⟨f, hf, heq⟩)

lemma vertices_replace (gis : PostGis Json Geog) (row' : Fence Geog)
    (hnodup : (fences.map (·.id)).Nodup) (hrow : row ∈ fences) :
    vertices gis (fences.map fun f => if f.id = row.id then row' else f) + gis.npoints row.geom =
      vertices gis fences + gis.npoints row'.geom := by
  induction fences with
  | nil => cases hrow
  | cons f fences ih =>
    obtain ⟨hf, hnodup⟩ := nodup_cons.mp hnodup
    rcases mem_cons.mp hrow with rfl | hmem
    · rw [map_cons, if_pos rfl, map_replace_of_not_mem row' hf]
      simp only [vertices, map_cons, sum_cons]
      omega
    · have hne : f.id ≠ row.id := fun h => hf (mem_map.mpr ⟨row, hmem, h.symm⟩)
      have hrest := ih hnodup hmem
      rw [map_cons, if_neg hne]
      simp only [vertices, map_cons, sum_cons] at hrest ⊢
      omega

/-- The identities stay. -/
lemma ids_replace {row' : Fence Geog} (h : row'.id = row.id) :
    (fences.map fun f => if f.id = row.id then row' else f).map (·.id) = fences.map (·.id) := by
  rw [map_map]
  refine map_congr_left fun f _ => ?_
  show (if f.id = row.id then row' else f).id = f.id
  split
  · rename_i hf
    rw [h, hf]
  · rfl

omit [DecidableEq ι] in
lemma target_mem {scope : Option AccountId} {id : FenceId} {row : Fence Geog}
    (h : s.target scope id = some row) : row ∈ s.fences := mem_of_find?_eq_some h

omit [DecidableEq ι] in
/-- The transaction is over, and nothing of it stays. -/
lemma Reserved.release (h : Reserved gis s) : Reserved gis s.release where
  vertices_le := le_trans (le_add_right _ _) h.vertices_le
  length_le := le_trans (le_add_right _ _) h.length_le
  pending f hf := by cases hf
  idle _ := ⟨rfl, rfl⟩
  distinct := by
    obtain ⟨hnodup, hlt⟩ := h.distinct
    rw [map_append] at hnodup
    refine ⟨?_, fun f hf => hlt f ?_⟩
    · show ((s.fences ++ []).map _).Nodup
      rw [append_nil]
      exact (nodup_append.mp hnodup).1
    · rw [show s.release.fences = s.fences from rfl, show s.release.pending = none from rfl,
        Option.toList_none, append_nil] at hf
      exact mem_append_left _ hf

omit [DecidableEq ι] in
lemma Reserved.commit (h : Reserved gis s) :
    Reserved gis { s.release with fences := s.fences ++ s.pending.toList } where
  vertices_le := by
    have hv := h.vertices_le
    show vertices gis (s.fences ++ s.pending.toList) + 0 ≤ _
    rw [vertices_append]
    cases hrow : s.pending with
    | none => simpa [vertices] using le_trans (le_add_right _ _) hv
    | some row =>
      rw [h.pending row hrow] at hv
      simpa [vertices] using hv
  length_le := by
    have hn := h.length_le
    show (s.fences ++ s.pending.toList).length + 0 ≤ _
    rw [length_append]
    cases hrow : s.pending with
    | none => simpa using le_trans (le_add_right _ _) hn
    | some row =>
      rw [h.pending row hrow] at hn
      simpa using hn
  pending f hf := by cases hf
  idle _ := ⟨rfl, rfl⟩
  distinct := by
    show Distinct (_ ++ []) _
    rw [append_nil]
    exact h.distinct

omit [DecidableEq ι] in
lemma Reserved.filter (h : Reserved gis s) (id : FenceId) :
    Reserved gis { s with fences := s.fences.filter fun f => f.id ≠ id } where
  vertices_le := le_trans (Nat.add_le_add_right (vertices_filter_le gis _ s.fences) _) h.vertices_le
  length_le := le_trans (Nat.add_le_add_right (length_filter_le _ s.fences) _) h.length_le
  pending := h.pending
  idle := h.idle
  distinct := by
    have hsub : (s.fences.filter (fun f => f.id ≠ id) ++ s.pending.toList).Sublist
        (s.fences ++ s.pending.toList) := filter_sublist.append_right _
    exact ⟨(h.distinct.1).sublist (hsub.map _), fun f hf => h.distinct.2 f (hsub.subset hf)⟩

omit [DecidableEq ι] in
lemma Reserved.delete (h : Reserved gis s) (scope : Option AccountId) (id : FenceId) :
    Reserved gis (s.delete scope id).1 := by
  unfold FenceStore.delete
  cases s.target scope id with
  | none => exact h
  | some row => exact h.filter row.id

omit [DecidableEq ι] in
lemma Reserved.updateRow (h : Reserved gis s) {scope : Option AccountId} {id : FenceId}
    {sets : Sets Json} {row : Fence Geog} (hrow : s.target scope id = some row)
    (hroom : Room gis s scope id sets) : Reserved gis (s.updateRow gis sets row).1 := by
  have hmem := target_mem hrow
  have hnodup : (s.fences.map (·.id)).Nodup := by
    have := h.distinct.1
    rw [map_append] at this
    exact (nodup_append.mp this).1
  suffices hset : ∀ geom : Option Geog, (∀ g ∈ geom, g ∈ sets.geom.bind (·.eval gis)) →
      Reserved gis { s with fences := s.fences.map fun f =>
        if f.id = row.id then row.set sets.name sets.color geom else f } by
    unfold FenceStore.updateRow
    cases hgeom : sets.geom with
    | none => exact hset none fun g hg => by cases hg
    | some expr =>
      cases hg : expr.eval gis with
      | none => simpa [hg] using h
      | some g =>
        simp only [Option.map_some, hg]
        refine hset (some g) fun g' hg' => ?_
        cases hg'
        rw [hgeom]
        exact hg
  intro geom hgeom
  have hvertices := vertices_replace gis (row.set sets.name sets.color geom) hnodup hmem
  have hids : (s.fences.map fun f =>
      if f.id = row.id then row.set sets.name sets.color geom else f).map (·.id) =
        s.fences.map (·.id) := ids_replace rfl
  refine ⟨?_, ?_, h.pending, h.idle, ?_, ?_⟩
  · have hv := h.vertices_le
    show vertices gis (s.fences.map _) + s.reserved.getD 0 ≤ _
    cases geom with
    | none =>
      have hkeep : gis.npoints (row.set sets.name sets.color none).geom = gis.npoints row.geom :=
        rfl
      omega
    | some g =>
      have hnew : gis.npoints (row.set sets.name sets.color (some g)).geom = gis.npoints g := rfl
      have hfit := hroom row hrow g (hgeom g rfl)
      omega
  · show (s.fences.map _).length + _ ≤ _
    rw [length_map]
    exact h.length_le
  · show ((s.fences.map _ ++ _).map _).Nodup
    rw [map_append, hids, ← map_append]
    exact h.distinct.1
  · intro f hf
    have hid : f.id ∈ (s.fences ++ s.pending.toList).map (·.id) := by
      have := mem_map_of_mem (f := (·.id)) hf
      rw [map_append, hids, ← map_append] at this
      exact this
    obtain ⟨f', hf', heq⟩ := mem_map.mp hid
    rw [← heq]
    exact h.distinct.2 f' hf'

/-! ### The calls -/

/-- The commands that are not part of a creation's transaction. -/
def FenceCommand.Plain : FenceCommand ι Json → Prop
  | .lock _ | .budget .. | .insert .. | .commit _ | .rollback _ => False
  | _ => True

/-- What the call needs of a command, and how it may end. -/
abbrev fitting (gis : PostGis Json Geog) (s : FenceStore ι Geog) (c : FenceCommand ι Json)
    (_ : Fate) : Prop := c.Fits gis s

abbrev Budgets {α : Type} (gis : PostGis Json Geog) (me : ι) (m : Call ι gis α)
    (s : FenceStore ι Geog) : Prop :=
  m.Meets (fitting gis) (othersReserve gis me) (reserves gis me) (fun _ _ => True) s

omit [DecidableEq ι] in
lemma reserves_refl (c : FenceCommand ι Json) (s : FenceStore ι Geog) : reserves gis me c s s :=
  ⟨id, fun _ _ _ => ⟨rfl, rfl, rfl⟩⟩

omit [DecidableEq ι] in
/-- Neither an update nor a removal has to do with the lock. -/
lemma undisturbed_update (scope : Option AccountId) (id : FenceId) (sets : Sets Json) :
    Undisturbed s (s.update gis scope id sets).1 := by
  unfold FenceStore.update
  cases s.target scope id with
  | none => exact ⟨rfl, rfl, rfl⟩
  | some row =>
    show Undisturbed s (s.updateRow gis sets row).1
    unfold FenceStore.updateRow
    split <;> exact ⟨rfl, rfl, rfl⟩

omit [DecidableEq ι] in
lemma undisturbed_delete (scope : Option AccountId) (id : FenceId) :
    Undisturbed s (s.delete scope id).1 := by
  unfold FenceStore.delete
  cases s.target scope id <;> exact ⟨rfl, rfl, rfl⟩

omit [DecidableEq ι] in
lemma Reserved.update (h : Reserved gis s) {scope : Option AccountId} {id : FenceId}
    {sets : Sets Json} (hroom : Room gis s scope id sets) :
    Reserved gis (s.update gis scope id sets).1 := by
  unfold FenceStore.update
  cases hrow : s.target scope id with
  | none => exact h
  | some row => exact h.updateRow hrow hroom

lemma FenceCommand.Plain.reserves (hc : c.Plain) (hfits : c.Fits gis s) :
    reserves gis me c s (c.run gis s).1 := by
  cases c with
  | one scope id => exact reserves_refl _ s
  | check geog => exact reserves_refl _ s
  | lock me => exact hc.elim
  | budget me geog => exact hc.elim
  | added geog => exact reserves_refl _ s
  | insert => exact hc.elim
  | commit me => exact hc.elim
  | rollback me => exact hc.elim
  | update scope id sets =>
    exact ⟨fun h => h.update hfits, fun _ _ _ => undisturbed_update scope id sets⟩
  | delete scope id => exact ⟨fun h => h.delete scope id, fun _ _ _ => undisturbed_delete scope id⟩
  | audit => exact reserves_refl _ s

lemma budgets_of_plain {m : Call ι gis α} (hm : m.Sends FenceCommand.Plain)
    (s : FenceStore ι Geog) :
    Budgets gis me m s := by
  refine hm.meetsWhere (fun c hc s fate hfits => ?_) s
  cases fate with
  | ok => exact hc.reserves hfits
  | refused => exact reserves_refl c s
  | lost => exact hc.reserves hfits

lemma Budgets.reserved {m : Call ι gis α} (h : Budgets gis me m s) (hs : Reserved gis s) :
    m.Meets (fitting gis) (othersReserve gis me) (Geofences.reserves gis me)
      (fun _ s => Reserved gis s) s :=
  (h.frame (fun _ _ _ henv => henv.1) (fun _ _ _ hown => hown.1) hs).mono fun _ _ h => h.2

lemma Budgets.send {f : c.Answer ι Geog → Call ι gis α} (J : FenceStore ι Geog → Prop) (hs : J s)
    (hJ : ∀ s s', othersReserve gis me (some c) s s' → J s → J s')
    (h : ∀ s, J s → c.Fits gis s → Geofences.reserves gis me c s (c.run gis s).1 ∧
      Budgets gis me (f (c.run gis s).2) (c.run gis s).1) :
    Budgets gis me (Geofences.send c >>= f) s := by
  rw [Geofences.send, send_bind]
  refine ⟨J, hs, hJ, fun s hs fate hfits => ?_⟩
  obtain ⟨hown, hnext⟩ := h s hs hfits
  have hthrew : ∀ s : FenceStore ι Geog, Budgets gis me (.threw .query : Call ι gis α) s := fun s =>
    .threw (fun _ => True) trivial (fun _ _ _ _ => trivial) fun _ _ => trivial
  cases fate with
  | ok => exact ⟨hown, hnext⟩
  | refused => exact ⟨reserves_refl c s, hthrew s⟩
  | lost => exact ⟨hown, hthrew _⟩

/-- The transaction holds the lock. -/
def Holds (gis : PostGis Json Geog) (me : ι) (s : FenceStore ι Geog) : Prop :=
  Reserved gis s ∧ s.holder = some me

def Counted (gis : PostGis Json Geog) (me : ι) (reserved : Option ℕ) (s : FenceStore ι Geog) :
    Prop := Holds gis me s ∧ s.pending = none ∧ s.reserved = reserved

omit [DecidableEq ι] in
lemma Holds.stable {waiting : Option (FenceCommand ι Json)} (h : othersReserve gis me waiting s s')
    (hs : Holds gis me s) : Holds gis me s' := ⟨h.1 hs.1, (h.2 hs.2).1.trans hs.2⟩

omit [DecidableEq ι] in
lemma Counted.stable {waiting : Option (FenceCommand ι Json)} {reserved : Option ℕ}
    (h : othersReserve gis me waiting s s') (hs : Counted gis me reserved s) :
    Counted gis me reserved s' := by
  obtain ⟨-, hpending, hreserved⟩ := h.2 hs.1.2
  exact ⟨hs.1.stable h, hpending.trans hs.2.1, hreserved.trans hs.2.2⟩

omit [DecidableEq ι] in
lemma reserves_of_holds {c : FenceCommand ι Json} (hs : s.holder = some me)
    (h : Reserved gis s → Reserved gis s') : reserves gis me c s s' :=
  ⟨h, fun _ hj hholder => absurd (Option.some.inj (hholder.symm.trans hs)) hj⟩

omit [DecidableEq ι] in
lemma Reserved.reserve (h : Reserved gis s) (hpending : s.pending = none)
    (hholder : s.holder = some me) (reserved : Option ℕ)
    (hroom : ∀ points ∈ reserved, s.fences.length < MAX_GEOFENCES_PER_TENANT ∧
      vertices gis s.fences + points ≤ MAX_TENANT_GEOFENCE_VERTICES) :
    Reserved gis { s with reserved := reserved } where
  vertices_le := by
    cases reserved with
    | none => exact le_trans (le_add_right _ _) h.vertices_le
    | some points => exact (hroom points rfl).2
  length_le := by
    cases reserved with
    | none => exact le_trans (le_add_right _ _) h.length_le
    | some points => exact (hroom points rfl).1
  pending f hf := by
    rw [show _ = none from hpending] at hf
    cases hf
  idle hidle := by
    rw [show _ = some me from hholder] at hidle
    cases hidle
  distinct := h.distinct

omit [DecidableEq ι] in
lemma Reserved.insert (h : Reserved gis s) (hpending : s.pending = none)
    (hholder : s.holder = some me) (row : Fence Geog) (hid : row.id = s.nextId)
    (hreserved : s.reserved = some (gis.npoints row.geom)) :
    Reserved gis { s with pending := some row, nextId := s.nextId + 1 } where
  vertices_le := h.vertices_le
  length_le := h.length_le
  pending f hf := by
    cases hf
    exact hreserved
  idle hidle := by
    rw [show _ = some me from hholder] at hidle
    cases hidle
  distinct := by
    obtain ⟨hnodup, hlt⟩ := h.distinct
    rw [hpending, Option.toList_none, append_nil] at hnodup hlt
    refine ⟨?_, fun f hf => ?_⟩
    · show ((s.fences ++ [row]).map _).Nodup
      rw [map_append, map_singleton, nodup_append]
      refine ⟨hnodup, pairwise_singleton _ _, fun a ha b hb hab => ?_⟩
      obtain ⟨f, hf, rfl⟩ := mem_map.mp ha
      obtain rfl := mem_singleton.mp hb
      exact Nat.ne_of_lt (hlt f hf) (hab.trans hid)
    · show f.id < s.nextId + 1
      rcases mem_append.mp hf with hold | hnew
      · exact lt_succ_of_lt (hlt f hold)
      · obtain rfl := mem_singleton.mp hnew
        exact hid ▸ lt_succ_self _

lemma run_insert (hg : geog.eval gis = some g) (accountId : Option AccountId) (name color : String)
    (kind : GeofenceKind) :
    FenceCommand.run gis (.insert me accountId name color kind geog) s =
      ({ s with
          pending := some ⟨s.nextId, accountId, name, color, kind, g⟩, nextId := s.nextId + 1 },
        some ⟨s.nextId, accountId, name, color, kind, g⟩) := by
  simp only [FenceCommand.run, hg]

lemma budgets_threw (e : GeofenceError) (s : FenceStore ι Geog) :
    Budgets gis me (.threw e : Call ι gis α) s :=
  .threw (fun _ => True) trivial (fun _ _ _ _ => trivial) fun _ _ => trivial

lemma budgets_done (a : α) (s : FenceStore ι Geog) : Budgets gis me (.done a : Call ι gis α) s :=
  .done (fun _ => True) trivial (fun _ _ _ _ => trivial) fun _ _ => trivial

lemma budgets_insertCounted (data : GeofenceCreate Json) {v : ℕ} (hg : geog.eval gis = some g)
    (hs : v + gis.npoints g ≤ MAX_TENANT_GEOFENCE_VERTICES →
      Counted gis me (some (gis.npoints g)) s) :
    Budgets gis me (insertCounted me data geog v (gis.npoints g)) s := by
  unfold insertCounted
  split
  · exact budgets_threw _ _
  rename_i hv
  refine Budgets.send (Counted gis me (some (gis.npoints g))) (hs (Nat.le_of_not_lt hv))
    (fun _ _ => Counted.stable) fun s hs _ => ?_
  have hrow := hs.1.1.insert hs.2.1 hs.1.2 ⟨s.nextId, data.accountId, data.name,
    data.color.getD "#4DA3FF", data.kind, g⟩ rfl hs.2.2
  rw [run_insert hg]
  refine ⟨reserves_of_holds hs.1.2 fun _ => hrow, ?_⟩
  refine Budgets.send (Holds gis me) ⟨hrow, hs.1.2⟩ (fun _ _ => Holds.stable) fun s hs _ => ?_
  refine ⟨reserves_of_holds hs.2 fun h => ?_, budgets_done _ _⟩
  show Reserved gis (ite _ _ _ : FenceStore ι Geog × Unit).1
  rw [if_pos hs.2]
  exact h.commit

/-- What is behind the lock. -/
lemma budgets_insertWithin (data : GeofenceCreate Json) (geog : GeogExpr Json)
    (hs : Reserved gis s) : Budgets gis me (insertWithin me data geog) s := by
  refine Budgets.send (Reserved gis) hs (fun _ _ h => h.1) fun s hs (hlock : s.holder = none) => ?_
  obtain ⟨hpending, hreserved⟩ := hs.idle hlock
  have hlocked : Counted gis me none (FenceCommand.run gis (.lock me) s).1 :=
    ⟨⟨⟨hs.vertices_le, hs.length_le, hs.pending, (nomatch ·), hs.distinct⟩, rfl⟩, hpending,
      hreserved⟩
  refine ⟨⟨fun _ => hlocked.1.1, fun j _ hj => ?_⟩, ?_⟩
  · rw [hlock] at hj
    cases hj
  refine Budgets.send (Counted gis me none) hlocked (fun _ _ => Counted.stable) fun s hs _ => ?_
  obtain ⟨hs, hpending, -⟩ := hs
  have hcounted := hs.1.reserve hpending hs.2
    (FenceCommand.run gis (.budget me geog) s).1.reserved fun points hpoints => by
      have := (Option.filter_eq_some_iff.mp hpoints).2
      simpa using this
  refine ⟨reserves_of_holds hs.2 fun _ => hcounted, ?_⟩
  show Budgets gis me (if s.fences.length ≥ MAX_GEOFENCES_PER_TENANT then _ else _) _
  split
  · exact budgets_threw _ _
  · rename_i hn
    refine Budgets.send (Counted gis me _) ⟨⟨hcounted, hs.2⟩, hpending, rfl⟩
      (fun _ _ => Counted.stable) fun s' hs' _ => ⟨reserves_refl _ _, ?_⟩
    show Budgets gis me (answered ((geog.eval gis).map gis.npoints) >>= _) s'
    cases hg : geog.eval gis with
    | none => exact budgets_threw _ _
    | some g =>
      refine budgets_insertCounted data hg fun hv => ?_
      have hreserved : (FenceCommand.run gis (.budget me geog) s).1.reserved =
          some (gis.npoints g) := by
        show Option.filter _ (Option.map _ _) = _
        rw [hg]
        exact Option.filter_eq_some_iff.mpr ⟨rfl, by simpa using ⟨Nat.lt_of_not_le hn, hv⟩⟩
      exact hreserved ▸ hs'

lemma sends_guardGeog (geog : GeogExpr Json) :
    (guardGeog geog : Call ι gis Unit).Sends FenceCommand.Plain := by
  refine Async.Sends.bind (Async.Sends.send trivial) fun row => ?_
  cases row with
  | none => trivial
  | some chk =>
    show Sends _ (match checkError chk with | some e => _ | none => _)
    cases checkError chk <;> trivial

lemma budgets_rollback (e : GeofenceError) (hs : Reserved gis s) :
    Budgets gis me (do
      let _ : Unit ← send (.rollback me)
      .threw e : Call ι gis α) s := by
  refine Budgets.send (Reserved gis) hs (fun _ _ h => h.1) fun s hs _ => ?_
  refine ⟨?_, budgets_threw e _⟩
  show Geofences.reserves gis me _ s (if s.holder = some me then s.release else s)
  split
  · rename_i hholder
    exact reserves_of_holds hholder Reserved.release
  · exact reserves_refl _ s

lemma budgets_create (data : GeofenceCreate Json) (hs : Reserved gis s) :
    Budgets gis me (create me data) s := by
  unfold create
  cases geogFor data with
  | error e => exact budgets_threw e s
  | ok raw =>
    rw [show ofExcept (Except.ok raw) = (.done raw : Call ι gis _) from rfl, done_bind]
    refine Meets.bind ((budgets_of_plain (sends_guardGeog _) s).reserved hs)
      (fun _ s hs => ?_) fun _ _ _ => trivial
    have htx : Budgets gis me (insertWithin me data
        (if data.kind = .corridor then .simplifyToBudget raw else raw)) s :=
      budgets_insertWithin data _ hs
    refine Meets.bind (Meets.attempt (htx.reserved hs) (fun _ _ _ => trivial)
      fun e s hs => budgets_rollback e hs) (fun row s _ => ?_) fun _ _ _ => trivial
    refine budgets_of_plain ?_ s
    exact Async.Sends.bind (Async.Sends.send trivial) fun _ => trivial

lemma sends_update (scope : Option AccountId) (id : FenceId) (data : GeofenceUpdate Json) :
    (update scope id data : Call ι gis _).Sends FenceCommand.Plain := by
  refine Async.Sends.bind (Async.Sends.send trivial) fun before => ?_
  cases before with
  | none => trivial
  | some before =>
    refine Sends.bind ?_ fun geomExpr => Sends.bind ?_ fun _ => ?_
    · cases redrawExpr before data <;> trivial
    · cases geomExpr with
      | none => trivial
      | some geog => exact sends_guardGeog geog
    · split
      · trivial
      · refine Sends.bind (Sends.send trivial) fun updated => ?_
        refine Sends.bind ?_ fun row => ?_
        · cases updated <;> trivial
        · cases row with
          | none => trivial
          | some row => exact Sends.bind (Sends.send trivial) fun _ => trivial

lemma sends_remove (scope : Option AccountId) (id : FenceId) :
    (remove scope id : Call ι gis Bool).Sends FenceCommand.Plain := by
  refine Async.Sends.bind (Async.Sends.send trivial) fun before => ?_
  cases before with
  | none => trivial
  | some before =>
    refine Sends.bind (Sends.send trivial) fun affected => ?_
    split
    · trivial
    · exact Sends.bind (Sends.send trivial) fun _ => trivial

lemma budgets_program (call : GeofenceCall Json) (hs : Reserved gis s) :
    Budgets gis me (call.program gis me) s := by
  cases call with
  | create data =>
    exact Meets.bind (budgets_create data hs) (fun _ s _ => budgets_done () s) fun _ _ _ => trivial
  | update scope id data =>
    refine budgets_of_plain ?_ s
    exact Sends.bind (sends_update scope id data) fun _ => trivial
  | remove scope id =>
    refine budgets_of_plain ?_ s
    exact Sends.bind (sends_remove scope id) fun _ => trivial

/-! ## Any number of calls -/

/-- The fences at a time when no creation is under way. -/
def FenceStore.start (fences : List (Fence Geog)) (nextId : FenceId) : FenceStore ι Geog :=
  ⟨fences, nextId, none, none, none⟩

/-- The calls, before their first step. -/
def callsPool (gis : PostGis Json Geog) (calls : ι → GeofenceCall Json) (s : FenceStore ι Geog) :
    Pool ι (fenceService ι gis) GeofenceError Unit := ⟨s, fun i => (calls i).program gis i⟩

/-- A step that waits for the lock, and a redraw that finds room. -/
abbrev StepFits (gis : PostGis Json Geog) (p : Pool ι (fenceService ι gis) GeofenceError Unit)
    (_ : ι) (c : FenceCommand ι Json) (_ : Fate) : Prop := c.Fits gis p.state

lemma compatible_calls : Pool.Compatible (StepFits (ι := ι) gis) (fun _ => fitting gis)
    (othersReserve gis) (reserves gis) :=
  fun _ _ _ _ _ _ hfits => ⟨hfits, fun hown j hj => ⟨hown.1, hown.2 j hj⟩⟩

omit [DecidableEq ι] in
lemma reserved_start {fences : List (Fence Geog)} {nextId : FenceId}
    (hdistinct : Distinct fences nextId) (hwithin : WithinBudgets gis fences) :
    Reserved gis (.start fences nextId : FenceStore ι Geog) where
  vertices_le := hwithin.2
  length_le := hwithin.1
  pending f hf := by cases hf
  idle _ := ⟨rfl, rfl⟩
  distinct := by
    show Distinct (fences ++ []) nextId
    rw [append_nil]
    exact hdistinct

/-- **The budgets hold**, in every run of creations, updates and removals whose redraws find room.
-/
theorem budgets_hold (calls : ι → GeofenceCall Json) {fences : List (Fence Geog)} {nextId : FenceId}
    {p : Pool ι (fenceService ι gis) GeofenceError Unit} (hdistinct : Distinct fences nextId)
    (hwithin : WithinBudgets gis fences)
    (hrun : Pool.Run (StepFits gis) (callsPool gis calls (.start fences nextId)) p) :
    WithinBudgets gis p.state.fences := by
  have hstart := reserved_start (ι := ι) hdistinct hwithin
  have hmeets : (callsPool gis calls (.start fences nextId)).Meets (fun _ => fitting gis)
      (othersReserve gis) (reserves gis) fun _ _ _ => True := fun i =>
    budgets_program (calls i) hstart
  have hreserved : Reserved gis p.state := hrun.keeps compatible_calls hmeets (fun _ => id)
    (fun _ _ _ h h' hs => h' (h hs)) (fun _ _ _ _ hown => hown.1) hstart
  exact ⟨le_trans (le_add_right _ _) hreserved.length_le,
    le_trans (le_add_right _ _) hreserved.vertices_le⟩

/-! ## Where the vertex budget is exceeded -/

/-- Geographies that are their vertices. -/
def pointsOnly : PostGis ℕ ℕ where
  fromGeoJSON := some
  asGeoJSON := id
  buffer g _ := g
  simplify := id
  isValid _ := true
  area _ := 0
  npoints := id

def zone (id : FenceId) (points : ℕ) : Fence ℕ := ⟨id, none, "zone", "#4DA3FF", .polygon, points⟩

/-- 24 zones of 2000 vertices, and two of four. -/
def zones : List (Fence ℕ) := zone 0 4 :: zone 1 4 :: (range' 2 24).map (zone · 2000)

/-- One call draws the first zone anew, with 2000 vertices. -/
def redrawn : Pool Unit (fenceService Unit pointsOnly) GeofenceError Unit :=
  (callsPool pointsOnly (fun _ => .update none 0 ⟨none, none, some 2000, none, none⟩)
    (.start zones 26)).exec (replicate 4 ((), .ok))

/-- A tenant within both budgets redraws one zone, and has 50004 vertices. -/
theorem redraw_exceeds : Distinct zones 26 ∧ WithinBudgets pointsOnly zones ∧
    Pool.Reaches (callsPool pointsOnly (fun _ => .update none 0 ⟨none, none, some 2000, none, none⟩)
      (.start zones 26)) redrawn ∧
    (redrawn.thread ()).returned = some () ∧ ¬ WithinBudgets pointsOnly redrawn.state.fences :=
  ⟨⟨by decide +kernel, by decide +kernel⟩, ⟨by decide +kernel, by decide +kernel⟩,
    Pool.reaches_exec _ _, by decide +kernel, fun h => absurd h.2 (by decide +kernel)⟩

/-- A creation, and a redraw. -/
def drawn : Bool → GeofenceCall ℕ
  | true => .create ⟨"depot", none, .circle, none, some 33, none, none⟩
  | false => .update none 0 ⟨none, none, some 6, none, none⟩

/-- The redraw is written between the count of the creation and its insert. -/
def drawnOrder : List (Bool × Fate) :=
  [true, true, true, false, false, false, true, true, true, false, true].map (·, .ok)

/-- A creation and a redraw of a tenant with two zones. -/
theorem budgets_hold_drawn : WithinBudgets pointsOnly ((callsPool pointsOnly drawn
    (.start [zone 0 4, zone 1 4] 2)).exec drawnOrder).state.fences := by
  have hdistinct : Distinct [zone 0 4, zone 1 4] 2 := ⟨by decide, by decide⟩
  exact budgets_hold drawn hdistinct ⟨by decide, by decide⟩
    (Pool.run_exec_of_isSome drawnOrder _ (by decide +kernel))

end Orbetra.Geofences
