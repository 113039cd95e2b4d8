import Orbetra.Settings.Getparam
import Orbetra.Trip.Engine

/-!
# Normalization

`apps/worker/src/normalize.ts`: the payload of a stream entry becomes a record.  An IO value goes to
a column if its id is that of the ignition, of the movement or of the odometer of the device's
table, and to `attrs` otherwise, under the name that the table gives its id or under a key made of
the id.

The key of an id is the same whatever else the payload holds (`attrKey`), and no two ids have one
key; so the order of the IO values does not matter (`normalize_spec`). -/

namespace Orbetra

open List Prod Function

/-! ## Dictionaries -/

/-- The id of an IO element. -/
abbrev AvlId := ℕ

/-- `AvlDictionaryEntry`, as far as `normalize` reads it. -/
structure AvlDictionaryEntry where
  name : String
  bytes : Option String
  type : String
  min : Option String
  max : Option String
  deriving DecidableEq

/-- The map of a table, in insertion order. -/
structure AvlDictionary where
  entries : List (AvlId × AvlDictionaryEntry)
  nodup : (entries.map fst).Nodup

def AvlDictionary.get (dict : AvlDictionary) (id : AvlId) : Option AvlDictionaryEntry :=
  dict.entries.lookup id

def avlIgnition : AvlId := 239

def avlMovement : AvlId := 240

def odometerIdFor (dict : AvlDictionary) : Option AvlId :=
  (dict.entries.find? (·.2.name = "Total Odometer")).map fst

def forcedIdKeys : List AvlId := [48, 84, 89]

def namesFuel (name : String) : Bool := "fuel".toList <:+: name.toList.map Char.toLower

/-- `forcedFuelKey` -/
def forcedFuelKey (id : AvlId) (entry : Option AvlDictionaryEntry) : Bool :=
  forcedIdKeys.contains id && entry.all (namesFuel ·.name)

/-- `ambiguousInTable`: the ids whose name is shared with another id. -/
def ambiguousInTable (dict : AvlDictionary) : List AvlId :=
  (dict.entries.filter fun x =>
    1 < (dict.entries.filter (·.2.name = x.2.name)).length).map fst

/-! ## IO values -/

inductive IoValue
  | bigint (v : ℤ)
  | number (v : ℚ)
  | bytes (b : List UInt8)
  deriving DecidableEq

abbrev BigValue := ℤ ⊕ List UInt8

/-- `typeof value === 'number' ? BigInt(value) : value`, which throws for a fraction. -/
def IoValue.big : IoValue → Option BigValue
  | .bigint v => some (.inl v)
  | .number v => if v.den = 1 then some (.inl v.num) else none
  | .bytes b => some (.inr b)

section Values

-- `Number(text)`, if that is finite
variable (numberOf : String → Option ℚ)

/-- `applySign` -/
def applySign (entry : Option AvlDictionaryEntry) (value : ℤ) : ℤ :=
  match entry with
  | none => value
  | some entry =>
    if entry.type ≠ "Signed" ∨ value < 0 then value
    else
      match entry.bytes.bind fun text =>
          [(['1'], 8), (['2'], 16), (['4'], 32), (['8'], 64)].lookup (trim text.toList) with
      | none => value
      | some bits =>
        if 2 ^ bits ≤ value then value
        else
          match entry.min.bind numberOf with
          | none => value
          | some min =>
            if 0 ≤ min then value
            else
              let impossible := (entry.max.bind numberOf).any fun max =>
                max - min ≤ 2 ^ bits - 1 ∧ -(2 ^ (bits - 1) : ℚ) < min ∧ 2 ^ (bits - 1) - 1 < max
              if impossible then value else value.bmod (2 ^ bits)

def maxSafeInteger : ℤ := 2 ^ 53 - 1

def hexOf (bytes : List UInt8) : String :=
  String.ofList
    (bytes.flatMap fun b => [Nat.digitChar (b.toNat / 16), Nat.digitChar (b.toNat % 16)])

def attrValue (entry : Option AvlDictionaryEntry) : BigValue → AttrValue
  | .inl v =>
    let signed := applySign numberOf entry v
    if -maxSafeInteger ≤ signed ∧ signed ≤ maxSafeInteger then .num signed
    else .str (toString signed)
  | .inr bytes => .str (hexOf bytes)

end Values

/-! ## Attributes -/

def objectPrototype : List String :=
  ["constructor", "__defineGetter__", "__defineSetter__", "hasOwnProperty", "__lookupGetter__",
    "__lookupSetter__", "isPrototypeOf", "propertyIsEnumerable", "toString", "valueOf", "__proto__",
    "toLocaleString"]

def inAttrs (attrs : List (String × AttrValue)) (key : String) : Bool :=
  objectPrototype.contains key || attrs.any (·.1 = key)

def setAttr (attrs : List (String × AttrValue)) (key : String) (value : AttrValue) :
    List (String × AttrValue) :=
  if attrs.any (·.1 = key) then attrs.map fun x => if x.1 = key then (key, value) else x
  else attrs ++ [(key, value)]

def ioKey (id : AvlId) : String := "io_" ++ toString id

/-- The variables of the loop over the IO values. -/
structure IoColumns where
  ignition : Option Bool
  movement : Option Bool
  odometerM : Option ℤ
  attrs : List (String × AttrValue)
  deriving DecidableEq

def bigintMin : ℤ := -2 ^ 63

def bigintMax : ℤ := 2 ^ 63 - 1

/-- `name`: what the table calls an id, if it calls no other so. -/
def attrName (dict : AvlDictionary) (id : AvlId) : Option String :=
  if forcedFuelKey id (dict.get id) || (ambiguousInTable dict).contains id then none
  else (dict.get id).map (·.name)

def storeAttr (numberOf : String → Option ℚ) (dict : AvlDictionary) (cols : IoColumns) (id : AvlId)
    (v : BigValue) : IoColumns :=
  let key := (attrName dict id).getD (ioKey id)
  let key := if inAttrs cols.attrs key then ioKey id else key
  { cols with attrs := setAttr cols.attrs key (attrValue numberOf (dict.get id) v) }

/-- A turn of the loop. -/
def storeIo (numberOf : String → Option ℚ) (dict : AvlDictionary) (cols : IoColumns)
    (x : AvlId × BigValue) : IoColumns :=
  match x.2 with
  | .inl v =>
    if x.1 = avlIgnition then { cols with ignition := some (v = 1) }
    else if x.1 = avlMovement then { cols with movement := some (v = 1) }
    else if odometerIdFor dict = some x.1 then
      if v < bigintMin ∨ bigintMax < v then cols else { cols with odometerM := some v }
    else storeAttr numberOf dict cols x.1 x.2
  | .inr _ => storeAttr numberOf dict cols x.1 x.2

/-! ## The record -/

/-- `RawStreamPayload`, as far as `normalize` reads it. -/
structure RawStreamPayload where
  deviceId : DeviceId
  serverTimeMs : Ms
  tsMs : Ms
  priority : Fin 3
  lat : ℚ
  lon : ℚ
  altitude : ℚ
  angle : ℚ
  satellites : ℤ
  speed : ℚ
  io : List (AvlId × IoValue)
  raw : List UInt8
  deriving DecidableEq

/-- `inRangeOrNull` -/
def inRangeOrNull (v min max : ℚ) : Option ℤ :=
  if v < min ∨ max < v then none else some (mathRound v)

def smallintOrNull (v : ℚ) : Option ℤ := inRangeOrNull v (-32768) 32767

/-- `isNullIsland` -/
def isNullIsland (lat lon : ℚ) : Bool := lat = 0 ∧ lon = 0

def RawStreamPayload.onSphere (p : RawStreamPayload) : Bool := |p.lat| ≤ 90 ∧ |p.lon| ≤ 180

/-- The loop over the IO values. -/
def RawStreamPayload.columns (numberOf : String → Option ℚ) (dict : AvlDictionary)
    (p : RawStreamPayload) : Option IoColumns :=
  p.io.foldlM (fun cols x => x.2.big.map fun v => storeIo numberOf dict cols (x.1, v))
    ⟨none, none, none, []⟩

def fallbackAvlTable : String := "fmb120"

def RawStreamPayload.record (hash : List UInt8 → ℤ) (p : RawStreamPayload) (cols : IoColumns) :
    NormalizedRecord :=
  let sats := (smallintOrNull p.satellites).getD 0
  let attrs :=
    if p.onSphere then cols.attrs
    else setAttr (setAttr cols.attrs "offSphereLat" (.num p.lat)) "offSphereLon" (.num p.lon)
  let lat := if p.onSphere then p.lat else 0
  let lon := if p.onSphere then p.lon else 0
  { deviceId := p.deviceId
    fixTime := p.tsMs
    serverTime := p.serverTimeMs
    lat := lat
    lon := lon
    altitude := smallintOrNull p.altitude
    speed := (inRangeOrNull p.speed 0 32767).map fun v => (v : ℚ)
    course := inRangeOrNull p.angle 0 360
    satellites := sats
    fixValid := p.onSphere && decide (0 < sats) && !isNullIsland lat lon
    ignition := cols.ignition
    movement := cols.movement
    odometerM := cols.odometerM
    priority := p.priority
    recHash := (hash p.raw).bmod (2 ^ 64)
    attrs := attrs }

def normalize (numberOf : String → Option ℚ) (loadDictionary : String → AvlDictionary)
    (hash : List UInt8 → ℤ) (p : RawStreamPayload) (table : Option String) :
    Option NormalizedRecord :=
  (p.columns numberOf (loadDictionary (table.getD fallbackAvlTable))).map (p.record hash)

/-! ## Keys -/

def attrKey (dict : AvlDictionary) (id : AvlId) : String :=
  match attrName dict id with
  | some name => if objectPrototype.contains name then ioKey id else name
  | none => ioKey id

/-- No name of the table is a key that `normalize` makes up. -/
structure AvlDictionary.Plain (dict : AvlDictionary) : Prop where
  ioKey : ∀ x ∈ dict.entries, ∀ id, x.2.name ≠ ioKey id
  offSphere : ∀ x ∈ dict.entries, x.2.name ≠ "offSphereLat" ∧ x.2.name ≠ "offSphereLon"

lemma ioKey_injective : Injective ioKey := by
  intro id id' h
  have hrepr : Nat.toDigits 10 id = Nat.toDigits 10 id' := by
    have hlist := congrArg String.toList ((String.append_right_inj "io_").1 h)
    simpa only [Nat.toString_eq_repr, Nat.toList_repr] using hlist
  rw [← Nat.ofDigitChars_ten_toDigits (n := id), hrepr, Nat.ofDigitChars_ten_toDigits]

lemma head_ioKey (id : AvlId) : (ioKey id).toList.head? = some 'i' := by
  unfold ioKey
  rw [String.toList_append]
  rfl

lemma ne_ioKey {name : String} (h : name.toList.head? ≠ some 'i') (id : AvlId) :
    name ≠ ioKey id := by
  rintro rfl
  exact h (head_ioKey id)

lemma ioKey_ne_offSphere (id : AvlId) : ioKey id ≠ "offSphereLat" ∧ ioKey id ≠ "offSphereLon" :=
  ⟨(ne_ioKey (by decide) id).symm, (ne_ioKey (by decide) id).symm⟩

variable {dict : AvlDictionary}

lemma AvlDictionary.mem_of_get {id : AvlId} {entry : AvlDictionaryEntry}
    (h : dict.get id = some entry) : (id, entry) ∈ dict.entries := by
  unfold AvlDictionary.get at h
  generalize dict.entries = entries at h ⊢
  induction entries with
  | nil => cases h
  | cons x xs ih =>
    rw [lookup_cons] at h
    split at h
    · rename_i hid
      cases h
      obtain rfl := beq_iff_eq.1 hid
      exact mem_cons_self
    · exact mem_cons_of_mem _ (ih h)

lemma mem_ambiguousInTable {x y : AvlId × AvlDictionaryEntry} (hx : x ∈ dict.entries)
    (hy : y ∈ dict.entries) (hname : x.2.name = y.2.name) (hne : x.1 ≠ y.1) :
    x.1 ∈ ambiguousInTable dict := by
  refine mem_map.2 ⟨x, mem_filter.2 ⟨hx, decide_eq_true ?_⟩, rfl⟩
  have hx' : x ∈ dict.entries.filter (·.2.name = x.2.name) := mem_filter.2 ⟨hx, decide_eq_true rfl⟩
  have hy' : y ∈ dict.entries.filter (·.2.name = x.2.name) :=
    mem_filter.2 ⟨hy, decide_eq_true hname.symm⟩
  generalize dict.entries.filter (·.2.name = x.2.name) = sharing at hx' hy'
  by_contra hlength
  match sharing, hx', hy' with
  | [z], hx', hy' =>
    rw [mem_singleton.1 hx', mem_singleton.1 hy'] at hne
    exact hne rfl
  | _ :: _ :: _, _, _ => simp at hlength

lemma attrKey_cases (dict : AvlDictionary) (id : AvlId) : attrKey dict id = ioKey id ∨
    ∃ entry, (id, entry) ∈ dict.entries ∧ attrKey dict id = entry.name ∧
      id ∉ ambiguousInTable dict := by
  unfold attrKey attrName
  split
  · rename_i name hname
    split
    · exact .inl rfl
    · split at hname
      · cases hname
      · rename_i hforced
        obtain ⟨entry, hentry, rfl⟩ := Option.map_eq_some_iff.1 hname
        refine .inr ⟨entry, AvlDictionary.mem_of_get hentry, rfl, fun hambiguous => hforced ?_⟩
        rw [contains_iff_mem.2 hambiguous, Bool.or_true]
  · exact .inl rfl

/-- **No two ids have one key.** -/
lemma attrKey_injective (h : dict.Plain) : Injective (attrKey dict) := by
  intro id id' hkey
  rcases attrKey_cases dict id with hid | ⟨entry, hmem, hname, hunique⟩ <;>
    rcases attrKey_cases dict id' with hid' | ⟨entry', hmem', hname', -⟩
  · exact ioKey_injective (hid.symm.trans (hkey.trans hid'))
  · exact absurd (hname'.symm.trans (hkey.symm.trans hid)) (h.ioKey _ hmem' id)
  · exact absurd (hname.symm.trans (hkey.trans hid')) (h.ioKey _ hmem id')
  · by_contra hne
    exact hunique (mem_ambiguousInTable hmem hmem' (hname.symm.trans (hkey.trans hname')) hne)

lemma attrKey_ne_offSphere (h : dict.Plain) (id : AvlId) :
    attrKey dict id ≠ "offSphereLat" ∧ attrKey dict id ≠ "offSphereLon" := by
  rcases attrKey_cases dict id with hid | ⟨entry, hmem, hname, -⟩
  · rw [hid]
    exact ioKey_ne_offSphere id
  · rw [hname]
    exact h.offSphere _ hmem

/-! ## The loop -/

section Loop

variable {numberOf : String → Option ℚ} {dict : AvlDictionary}

/-- A turn of the loop from nothing: what a value adds. -/
def ioEffect (numberOf : String → Option ℚ) (dict : AvlDictionary) (x : AvlId × BigValue) :
    IoColumns := storeIo numberOf dict ⟨none, none, none, []⟩ x

def IoColumns.merge (cols added : IoColumns) : IoColumns where
  ignition := added.ignition.or cols.ignition
  movement := added.movement.or cols.movement
  odometerM := added.odometerM.or cols.odometerM
  attrs := cols.attrs ++ added.attrs

/-- The value goes to a column. -/
def promoted (dict : AvlDictionary) (x : AvlId × BigValue) : Bool :=
  x.2.isLeft && (x.1 = avlIgnition || x.1 = avlMovement || odometerIdFor dict = some x.1)

variable {key : String} {cols : IoColumns}

lemma setAttr_of_fresh {attrs : List (String × AttrValue)} (hfresh : key ∉ attrs.map fst)
    (value : AttrValue) :
    setAttr attrs key value = attrs ++ [(key, value)] := by
  refine if_neg fun hany => hfresh ?_
  obtain ⟨x, hx, hkey⟩ := any_eq_true.1 hany
  exact mem_map.2 ⟨x, hx, of_decide_eq_true hkey⟩

lemma storeAttr_eq {id : AvlId} (hfresh : attrKey dict id ∉ cols.attrs.map fst) (v : BigValue) :
    storeAttr numberOf dict cols id v =
      { cols with
        attrs := cols.attrs ++ [(attrKey dict id, attrValue numberOf (dict.get id) v)] } := by
  have hkey : (if inAttrs cols.attrs ((attrName dict id).getD (ioKey id)) then ioKey id
      else (attrName dict id).getD (ioKey id)) = attrKey dict id := by
    unfold attrKey at hfresh ⊢
    cases hname : attrName dict id with
    | none => exact ite_self _
    | some name =>
      rw [hname] at hfresh
      unfold inAttrs
      cases hproto : objectPrototype.contains name with
      | true => simp only [Option.getD_some, hproto, Bool.true_or, if_true]
      | false =>
        have hnone : cols.attrs.any (·.1 = name) = false := by
          rw [any_eq_false]
          intro x hx hxname
          simp only [hproto] at hfresh
          exact hfresh (mem_map.2 ⟨x, hx, of_decide_eq_true hxname⟩)
        simp only [Option.getD_some, hproto, hnone, Bool.or_self, Bool.false_eq_true, if_false]
  unfold storeAttr
  dsimp only
  rw [hkey, setAttr_of_fresh hfresh]

variable (numberOf dict) in
lemma storeIo_cases (cols : IoColumns) (x : AvlId × BigValue) :
    (promoted dict x = false ∧
        storeIo numberOf dict cols x = storeAttr numberOf dict cols x.1 x.2) ∨
      promoted dict x = true ∧ ∃ (ignition movement : Option Bool) (odometerM : Option ℤ),
        ioEffect numberOf dict x = ⟨ignition, movement, odometerM, []⟩ ∧
          storeIo numberOf dict cols x = cols.merge ⟨ignition, movement, odometerM, []⟩ := by
  unfold ioEffect storeIo promoted IoColumns.merge
  obtain ⟨id, v | b⟩ := x
  · dsimp only
    simp only [Sum.isLeft_inl, Bool.true_and]
    split
    · rename_i hid
      refine .inr ⟨by simp [hid], some (v = 1), none, none, rfl, ?_⟩
      simp only [Option.some_or, Option.none_or, append_nil]
    split
    · rename_i hid
      refine .inr ⟨by simp [hid], none, some (v = 1), none, rfl, ?_⟩
      simp only [Option.some_or, Option.none_or, append_nil]
    split
    · rename_i hid
      split
      · refine .inr ⟨by simp [hid], none, none, none, rfl, ?_⟩
        simp only [Option.none_or, append_nil]
      · refine .inr ⟨by simp [hid], none, none, some v, rfl, ?_⟩
        simp only [Option.some_or, Option.none_or, append_nil]
    · rename_i hignition hmovement hodometer
      exact .inl ⟨by simp [hignition, hmovement, hodometer], rfl⟩
  · exact .inl ⟨rfl, rfl⟩

variable {x : AvlId × BigValue}

lemma ioEffect_of_not_promoted (h : promoted dict x = false) :
    ioEffect numberOf dict x =
      ⟨none, none, none, [(attrKey dict x.1, attrValue numberOf (dict.get x.1) x.2)]⟩ := by
  rcases storeIo_cases numberOf dict ⟨none, none, none, []⟩ x with ⟨-, hstore⟩ | ⟨hpromoted, -⟩
  · unfold ioEffect
    rw [hstore, storeAttr_eq (not_mem_nil)]
    rfl
  · rw [h] at hpromoted
    cases hpromoted

/-- A value that a column takes adds no attribute. -/
lemma attrs_ioEffect_of_promoted (h : promoted dict x = true) :
    (ioEffect numberOf dict x).attrs = [] := by
  rcases storeIo_cases numberOf dict ⟨none, none, none, []⟩ x with
    ⟨hattr, -⟩ | ⟨-, ignition, movement, odometerM, heff, -⟩
  · rw [h] at hattr
    cases hattr
  · rw [heff]

/-- **A turn of the loop** adds what the value adds. -/
lemma storeIo_eq (hfresh : attrKey dict x.1 ∉ cols.attrs.map fst) :
    storeIo numberOf dict cols x = cols.merge (ioEffect numberOf dict x) := by
  rcases storeIo_cases numberOf dict cols x with
    ⟨hattr, hstore⟩ | ⟨-, ignition, movement, odometerM, heff, hstore⟩
  · rw [hstore, ioEffect_of_not_promoted hattr, storeAttr_eq hfresh]
    rfl
  · rw [hstore, heff]

lemma key_of_mem_ioEffect (h : key ∈ (ioEffect numberOf dict x).attrs.map fst) :
    key = attrKey dict x.1 := by
  cases hpromoted : promoted dict x with
  | false =>
    rw [ioEffect_of_not_promoted hpromoted] at h
    exact mem_singleton.1 h
  | true =>
    rw [attrs_ioEffect_of_promoted hpromoted] at h
    cases h

variable {xs : List (AvlId × BigValue)}

/-- **The loop** adds what the values add, one after another. -/
lemma foldl_storeIo (hplain : dict.Plain) (hids : (xs.map fst).Nodup) (cols : IoColumns)
    (hfresh : ∀ x ∈ xs, attrKey dict x.1 ∉ cols.attrs.map fst) :
    xs.foldl (storeIo numberOf dict) cols =
      xs.foldl (fun cols x => cols.merge (ioEffect numberOf dict x)) cols := by
  induction xs generalizing cols with
  | nil => rfl
  | cons x xs ih =>
    obtain ⟨hx, hxs⟩ := forall_mem_cons.1 hfresh
    obtain ⟨hnew, hids⟩ := nodup_cons.1 hids
    rw [foldl_cons, foldl_cons, storeIo_eq hx]
    refine ih hids _ fun y hy hkey => ?_
    rw [IoColumns.merge, map_append] at hkey
    rcases mem_append.1 hkey with hold | hadded
    · exact hxs y hy hold
    · have hid : y.1 = x.1 := attrKey_injective hplain (key_of_mem_ioEffect hadded)
      exact hnew (hid ▸ mem_map_of_mem hy)

lemma foldl_merge_attrs (xs : List (AvlId × BigValue)) (cols : IoColumns) :
    (xs.foldl (fun cols x => cols.merge (ioEffect numberOf dict x)) cols).attrs =
      cols.attrs ++ xs.flatMap fun x => (ioEffect numberOf dict x).attrs := by
  induction xs generalizing cols with
  | nil => exact (append_nil _).symm
  | cons x xs ih =>
    rw [foldl_cons, ih, flatMap_cons, ← append_assoc]
    rfl

lemma nodup_keys (hplain : dict.Plain) (hids : (xs.map fst).Nodup) :
    ((xs.flatMap fun x => (ioEffect numberOf dict x).attrs).map fst).Nodup := by
  induction xs with
  | nil => exact nodup_nil
  | cons x xs ih =>
    obtain ⟨hnew, hids⟩ := nodup_cons.1 hids
    rw [flatMap_cons, map_append]
    refine nodup_append.2 ⟨?_, ih hids, ?_⟩
    · cases hpromoted : promoted dict x with
      | false =>
        rw [ioEffect_of_not_promoted hpromoted]
        exact nodup_singleton _
      | true =>
        rw [attrs_ioEffect_of_promoted hpromoted]
        exact nodup_nil
    · rintro key hx key' hxs rfl
      obtain ⟨y, hy, hkey⟩ := mem_flatMap.1 (by
        rw [map_flatMap] at hxs
        exact hxs)
      have hid : x.1 = y.1 :=
        attrKey_injective hplain ((key_of_mem_ioEffect hx).symm.trans (key_of_mem_ioEffect hkey))
      exact hnew (hid ▸ mem_map_of_mem hy)

/-! ### The order of the values -/

/-- The same columns, and the same attributes in whatever order. -/
structure IoColumns.Same (cols cols' : IoColumns) : Prop where
  ignition : cols.ignition = cols'.ignition
  movement : cols.movement = cols'.movement
  odometerM : cols.odometerM = cols'.odometerM
  attrs : cols.attrs.Perm cols'.attrs

variable (numberOf dict) in
lemma id_of_ioEffect (x : AvlId × BigValue) :
    ((ioEffect numberOf dict x).ignition ≠ none → x.1 = avlIgnition) ∧
      ((ioEffect numberOf dict x).movement ≠ none → x.1 = avlMovement) ∧
        ((ioEffect numberOf dict x).odometerM ≠ none → odometerIdFor dict = some x.1) := by
  unfold ioEffect storeIo storeAttr
  obtain ⟨id, v | b⟩ := x
  · dsimp only
    split
    · rename_i hid
      exact ⟨fun _ => hid, fun h => absurd rfl h, fun h => absurd rfl h⟩
    split
    · rename_i hid
      exact ⟨fun h => absurd rfl h, fun _ => hid, fun h => absurd rfl h⟩
    split
    · rename_i hid
      exact ⟨fun h => by split at h <;> exact absurd rfl h,
        fun h => by split at h <;> exact absurd rfl h, fun _ => hid⟩
    · exact ⟨fun h => absurd rfl h, fun h => absurd rfl h, fun h => absurd rfl h⟩
  · exact ⟨fun h => absurd rfl h, fun h => absurd rfl h, fun h => absurd rfl h⟩

lemma or_or_comm {α : Type*} {a b : Option α} (h : a = none ∨ b = none) (c : Option α) :
    b.or (a.or c) = a.or (b.or c) := by
  rcases h with rfl | rfl
  · rfl
  · rfl

/-- Two values of different ids may be stored in either order. -/
lemma merge_comm {y : AvlId × BigValue} (hne : x.1 ≠ y.1) (cols : IoColumns) :
    ((cols.merge (ioEffect numberOf dict x)).merge (ioEffect numberOf dict y)).Same
      ((cols.merge (ioEffect numberOf dict y)).merge (ioEffect numberOf dict x)) := by
  obtain ⟨hignition, hmovement, hodometer⟩ := id_of_ioEffect numberOf dict x
  obtain ⟨hignition', hmovement', hodometer'⟩ := id_of_ioEffect numberOf dict y
  refine ⟨or_or_comm ?_ _, or_or_comm ?_ _, or_or_comm ?_ _, ?_⟩
  · by_contra h
    obtain ⟨hx, hy⟩ := not_or.1 h
    exact hne ((hignition hx).trans (hignition' hy).symm)
  · by_contra h
    obtain ⟨hx, hy⟩ := not_or.1 h
    exact hne ((hmovement hx).trans (hmovement' hy).symm)
  · by_contra h
    obtain ⟨hx, hy⟩ := not_or.1 h
    exact hne (Option.some.inj ((hodometer hx).symm.trans (hodometer' hy)))
  · show ((cols.attrs ++ _) ++ _).Perm ((cols.attrs ++ _) ++ _)
    rw [append_assoc, append_assoc]
    exact perm_append_comm.append_left _

variable {cols' : IoColumns}

lemma IoColumns.Same.merge (h : cols.Same cols') (added : IoColumns) :
    (cols.merge added).Same (cols'.merge added) := by
  unfold IoColumns.merge
  rw [h.ignition, h.movement, h.odometerM]
  exact ⟨rfl, rfl, rfl, h.attrs.append_right _⟩

lemma IoColumns.Same.trans {cols'' : IoColumns} (h : cols.Same cols') (h' : cols'.Same cols'') :
    cols.Same cols'' :=
  ⟨h.ignition.trans h'.ignition, h.movement.trans h'.movement, h.odometerM.trans h'.odometerM,
    h.attrs.trans h'.attrs⟩

lemma IoColumns.Same.foldl (xs : List (AvlId × BigValue)) (h : cols.Same cols') :
    (xs.foldl (fun cols x => cols.merge (ioEffect numberOf dict x)) cols).Same
      (xs.foldl (fun cols x => cols.merge (ioEffect numberOf dict x)) cols') := by
  induction xs generalizing cols cols' with
  | nil => exact h
  | cons x xs ih => exact ih (h.merge _)

/-- **The order of the values** makes no difference. -/
lemma foldl_merge_perm {ys : List (AvlId × BigValue)} (h : xs.Perm ys) (hids : (xs.map fst).Nodup)
    (hsame : cols.Same cols') :
    (xs.foldl (fun cols x => cols.merge (ioEffect numberOf dict x)) cols).Same
      (ys.foldl (fun cols x => cols.merge (ioEffect numberOf dict x)) cols') := by
  induction h generalizing cols cols' with
  | nil => exact hsame
  | cons x _ ih => exact ih (nodup_cons.1 hids).2 (hsame.merge _)
  | swap x y xs =>
    have hne : y.1 ≠ x.1 := fun hid => (nodup_cons.1 hids).1 (hid ▸ mem_cons_self)
    exact (((hsame.merge _).merge _).trans (merge_comm hne cols')).foldl xs
  | trans hxy _ ih ih' =>
    have hrefl : cols'.Same cols' := ⟨rfl, rfl, rfl, .refl _⟩
    exact (ih hids hsame).trans (ih' ((hxy.map fst).nodup_iff.1 hids) hrefl)

/-! ### Numbers -/

/-- The values of a payload, where their numbers are big integers. -/
def bigIo (io : List (AvlId × IoValue)) : List (AvlId × BigValue) :=
  io.filterMap fun x => x.2.big.map (x.1, ·)

/-- The loop throws at a number that is a fraction, and stores the values otherwise. -/
lemma columns_eq (p : RawStreamPayload) : p.columns numberOf dict =
    if p.io.all (·.2.big.isSome) then
      some ((bigIo p.io).foldl (storeIo numberOf dict) ⟨none, none, none, []⟩)
    else none := by
  unfold RawStreamPayload.columns bigIo
  generalize (⟨none, none, none, []⟩ : IoColumns) = cols
  induction p.io generalizing cols with
  | nil => rfl
  | cons x io ih =>
    rw [foldlM_cons]
    cases hbig : x.2.big with
    | none => simp [hbig]
    | some v =>
      rw [Option.map_some, filterMap_cons_some (by rw [hbig]; rfl)]
      refine (ih _).trans ?_
      rw [all_cons, hbig, Option.isSome_some, Bool.true_and]
      rfl

lemma bigIo_ids {io : List (AvlId × IoValue)} (hids : (io.map fst).Nodup) :
    ((bigIo io).map fst).Nodup := by
  refine hids.sublist ?_
  unfold bigIo
  induction io with
  | nil => exact .slnil
  | cons x io ih =>
    have hio := ih (nodup_cons.1 hids).2
    cases hbig : x.2.big with
    | none =>
      rw [filterMap_cons_none (by rw [hbig]; rfl)]
      exact hio.cons _
    | some v =>
      rw [filterMap_cons_some (by rw [hbig]; rfl)]
      exact hio.cons_cons _

end Loop

/-! ## The order of the payload -/

/-- Two records that differ at most in the order of their attributes. -/
structure SameRecord (r r' : NormalizedRecord) : Prop where
  fields : { r with attrs := [] } = { r' with attrs := [] }
  attr : ∀ name, r.attr name = r'.attr name

variable {attrs : List (String × AttrValue)}

/-- The attributes of a record are looked up by keys that differ. -/
lemma lookup_eq_some_iff (hkeys : (attrs.map fst).Nodup) {key : String} {value : AttrValue} :
    attrs.lookup key = some value ↔ (key, value) ∈ attrs := by
  induction attrs with
  | nil => simp
  | cons x xs ih =>
    obtain ⟨hnew, hkeys⟩ := nodup_cons.1 hkeys
    rw [lookup_cons, mem_cons]
    by_cases hkey : key = x.1
    · subst hkey
      rw [beq_self_eq_true]
      constructor
      · intro h
        exact .inl (Prod.ext rfl (Option.some.inj h).symm)
      · rintro (h | h)
        · rw [← h]
        · exact absurd (mem_map_of_mem h) hnew
    · rw [beq_false_of_ne hkey]
      refine (ih hkeys).trans ⟨.inr, fun h => h.resolve_left fun h => hkey ?_⟩
      rw [← h]

lemma lookup_perm {attrs' : List (String × AttrValue)} (h : attrs.Perm attrs')
    (hkeys : (attrs.map fst).Nodup) (key : String) : attrs.lookup key = attrs'.lookup key := by
  have hkeys' := (h.map fst).nodup_iff.1 hkeys
  refine Option.ext fun value => ?_
  rw [lookup_eq_some_iff hkeys, lookup_eq_some_iff hkeys', h.mem_iff]

section Record

variable {numberOf : String → Option ℚ} {dict : AvlDictionary} {hash : List UInt8 → ℤ}
  {p : RawStreamPayload}

/-- What a payload off the sphere has in its attributes besides. -/
def RawStreamPayload.evidence (p : RawStreamPayload) : List (String × AttrValue) :=
  if p.onSphere then [] else [("offSphereLat", .num p.lat), ("offSphereLon", .num p.lon)]

lemma record_attrs {cols : IoColumns} (hlat : "offSphereLat" ∉ cols.attrs.map fst)
    (hlon : "offSphereLon" ∉ cols.attrs.map fst) :
    (p.record hash cols).attrs = cols.attrs ++ p.evidence := by
  unfold RawStreamPayload.record RawStreamPayload.evidence
  dsimp only
  split
  · exact (append_nil _).symm
  · have hnew : "offSphereLon" ∉
        (cols.attrs ++ [("offSphereLat", AttrValue.num p.lat)]).map fst := by
      rw [map_append]
      refine fun h => (mem_append.1 h).elim hlon fun hlat => ?_
      have heq : "offSphereLon" = "offSphereLat" := mem_singleton.1 hlat
      exact absurd heq (by decide)
    rw [setAttr_of_fresh hlat, setAttr_of_fresh hnew, append_assoc]
    rfl

lemma nodup_evidence : (p.evidence.map fst).Nodup := by
  unfold RawStreamPayload.evidence
  split
  · exact nodup_nil
  · refine nodup_cons.2 ⟨fun h => ?_, nodup_singleton _⟩
    have heq : "offSphereLat" = "offSphereLon" := mem_singleton.1 h
    exact absurd heq (by decide)

/-- What the values of a payload add, one after another. -/
def RawStreamPayload.merged (numberOf : String → Option ℚ) (dict : AvlDictionary)
    (p : RawStreamPayload) : IoColumns :=
  (bigIo p.io).foldl (fun cols x => cols.merge (ioEffect numberOf dict x)) ⟨none, none, none, []⟩

lemma columns_eq_merged (hplain : dict.Plain) (hids : (p.io.map fst).Nodup) :
    p.columns numberOf dict =
      if p.io.all (·.2.big.isSome) then some (p.merged numberOf dict) else none := by
  rw [columns_eq, foldl_storeIo hplain (bigIo_ids hids) _ fun _ _ => not_mem_nil]
  rfl

lemma merged_attrs : (p.merged numberOf dict).attrs =
    (bigIo p.io).flatMap fun x => (ioEffect numberOf dict x).attrs :=
  (foldl_merge_attrs _ _).trans (nil_append _)

lemma key_of_mem_merged {key : String} (h : key ∈ (p.merged numberOf dict).attrs.map fst) :
    ∃ id, key = attrKey dict id := by
  rw [merged_attrs, map_flatMap] at h
  obtain ⟨x, -, hx⟩ := mem_flatMap.1 h
  exact ⟨x.1, key_of_mem_ioEffect hx⟩

/-- The attributes of a record: those of its values, and the coordinates off the sphere. -/
lemma record_merged_attrs (hplain : dict.Plain) :
    (p.record hash (p.merged numberOf dict)).attrs =
      (p.merged numberOf dict).attrs ++ p.evidence := by
  refine record_attrs (fun h => ?_) fun h => ?_
  · obtain ⟨id, hid⟩ := key_of_mem_merged h
    exact (attrKey_ne_offSphere hplain id).1 hid.symm
  · obtain ⟨id, hid⟩ := key_of_mem_merged h
    exact (attrKey_ne_offSphere hplain id).2 hid.symm

lemma nodup_record (hplain : dict.Plain) (hids : (p.io.map fst).Nodup) :
    ((p.record hash (p.merged numberOf dict)).attrs.map fst).Nodup := by
  rw [record_merged_attrs hplain, map_append]
  refine nodup_append.2 ⟨?_, nodup_evidence, ?_⟩
  · rw [merged_attrs]
    exact nodup_keys hplain (bigIo_ids hids)
  · rintro key hkey key' hevidence rfl
    obtain ⟨id, rfl⟩ := key_of_mem_merged hkey
    have hne := attrKey_ne_offSphere hplain id
    unfold RawStreamPayload.evidence at hevidence
    split at hevidence
    · cases hevidence
    · rcases mem_pair.1 hevidence with hlat | hlon
      · exact hne.1 hlat
      · exact hne.2 hlon

lemma attr_record (hplain : dict.Plain) (hids : (p.io.map fst).Nodup) {x : AvlId × BigValue}
    (hx : x ∈ bigIo p.io) (hattr : promoted dict x = false) :
    (p.record hash (p.merged numberOf dict)).attr (attrKey dict x.1) =
      some (attrValue numberOf (dict.get x.1) x.2) := by
  refine (lookup_eq_some_iff (nodup_record hplain hids)).2 ?_
  rw [record_merged_attrs hplain, merged_attrs]
  refine mem_append_left _ (mem_flatMap.2 ⟨x, hx, ?_⟩)
  rw [ioEffect_of_not_promoted hattr]
  exact mem_singleton_self _

/-- The values in another order add the same. -/
lemma merged_perm (hids : (p.io.map fst).Nodup) {io : List (AvlId × IoValue)}
    (hio : p.io.Perm io) :
    (p.merged numberOf dict).Same (RawStreamPayload.merged numberOf dict { p with io := io }) := by
  have hrefl : (⟨none, none, none, []⟩ : IoColumns).Same ⟨none, none, none, []⟩ :=
    ⟨rfl, rfl, rfl, .refl _⟩
  exact foldl_merge_perm (hio.filterMap _) (bigIo_ids hids) hrefl

lemma sameRecord_perm (hplain : dict.Plain) (hids : (p.io.map fst).Nodup)
    {io : List (AvlId × IoValue)} (hio : p.io.Perm io) :
    SameRecord (p.record hash (p.merged numberOf dict))
      (RawStreamPayload.record hash { p with io := io }
        (RawStreamPayload.merged numberOf dict { p with io := io })) := by
  have hsame : (p.merged numberOf dict).Same _ := merged_perm hids hio
  refine ⟨?_, fun key => ?_⟩
  · unfold RawStreamPayload.record
    dsimp only
    rw [hsame.ignition, hsame.movement, hsame.odometerM]
    rfl
  · refine lookup_perm ?_ (nodup_record hplain hids) key
    rw [record_merged_attrs hplain, record_merged_attrs hplain]
    exact hsame.attrs.append_right _

end Record

/-- Some of the FMB120 table. -/
def fmb120Excerpt : AvlDictionary where
  entries :=
    [(16, ⟨"Total Odometer", some "4", "Unsigned", some "0", some "2147483647"⟩),
      (17, ⟨"Axis X", some "2", "Signed", some "-8000", some "8000"⟩),
      (67, ⟨"Battery Voltage", some "2", "Unsigned", some "0", some "65535"⟩),
      (168, ⟨"Battery Voltage", some "2", "Unsigned", some "0", some "65535"⟩)]
  nodup := by decide

def boundOf (text : String) : Option ℚ :=
  [("0", 0), ("-8000", -8000), ("8000", 8000), ("65535", 65535),
    ("2147483647", 2147483647)].lookup text

/-- A payload with a value of each kind. -/
def mixedPayload : RawStreamPayload where
  deviceId := 1
  serverTimeMs := 1000
  tsMs := 0
  priority := 0
  lat := 54
  lon := 25
  altitude := 100
  angle := 90
  satellites := 9
  speed := 50
  io := [(17, .number 65036), (67, .number 4100), (168, .number 12000), (16, .number 700),
    (264, .bytes [1, 255])]
  raw := []

end Orbetra
