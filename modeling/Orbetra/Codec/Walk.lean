import Orbetra.Codec.Parse

/-!
# The wire format of a record

A record on the wire is a `WireRecord`: its fields, with the counts that precede the elements.
`walkRecords` accepts exactly the concatenations of well-formed records, and cuts them where they
end (`walkRecords_eq_ok_iff`).

The two readers of IO elements, which keep their own cursors, find the elements that the walk has
passed over (`extractNx8e_bytes`, `extractIo16_bytes`). -/

namespace Orbetra.Codec

open List Nat Except

/-! ## Records on the wire -/

/-- An element of a group of fixed width. -/
structure IoElement where
  id : Bytes
  value : Bytes
  deriving DecidableEq

structure NxElement where
  id : Bytes
  len : Bytes
  data : Bytes
  deriving DecidableEq

structure IoGroup (Element : Type) where
  count : Bytes
  elements : List Element
  deriving DecidableEq

structure WireRecord where
  /-- Timestamp, priority and GPS element. -/
  fixed : Bytes
  event : Bytes
  generation : Bytes
  /-- N of total IO. -/
  total : Bytes
  groups : List (IoGroup IoElement)
  nx : Option (IoGroup NxElement)
  deriving DecidableEq

def IoElement.bytes (e : IoElement) : Bytes := e.id ++ e.value

def NxElement.bytes (e : NxElement) : Bytes := e.id ++ e.len ++ e.data

def ioBytes (group : IoGroup IoElement) : Bytes :=
  group.count ++ group.elements.flatMap IoElement.bytes

def nxBytes (group : IoGroup NxElement) : Bytes :=
  group.count ++ group.elements.flatMap NxElement.bytes

namespace WireRecord

/-- The fields before the first group. -/
def head (w : WireRecord) : Bytes := w.fixed ++ w.event ++ w.generation ++ w.total

def bytes (w : WireRecord) : Bytes := w.head ++ w.groups.flatMap ioBytes ++ w.nx.elim [] nxBytes

def ioElements (w : WireRecord) : List IoElement := w.groups.flatMap (·.elements)

def nxElements (w : WireRecord) : List NxElement := w.nx.elim [] (·.elements)

end WireRecord

def IoGroup.Counted {Element : Type} (shape : RecordShape) (group : IoGroup Element) : Prop :=
  group.count.length = shape.countSize ∧
    readUIntBE shape.countSize group.count = group.elements.length

/-- The widths of a group of fixed width. -/
def IoSized (shape : RecordShape) (valueSize : ℕ) (group : IoGroup IoElement) : Prop :=
  group.Counted shape ∧
    ∀ e ∈ group.elements, e.id.length = shape.idSize ∧ e.value.length = valueSize

def NxElement.Sized (e : NxElement) : Prop :=
  e.id.length = 2 ∧ e.len.length = 2 ∧ readUIntBE 2 e.len = e.data.length

def NxSized (shape : RecordShape) (nx : Option (IoGroup NxElement)) : Prop :=
  nx.isSome = shape.nxGroup ∧ ∀ group ∈ nx, group.Counted shape ∧ ∀ e ∈ group.elements, e.Sized

structure WireRecord.WellFormed (shape : RecordShape) (w : WireRecord) : Prop where
  fixed : w.fixed.length = 8 + 1 + 15
  event : w.event.length = shape.eventIdSize
  generation : w.generation.length = if shape.generationType then 1 else 0
  total : w.total.length = shape.countSize
  groups : Forall₂ (IoSized shape) [1, 2, 4, 8] w.groups
  nx : NxSized shape w.nx
  counted : w.ioElements.length + w.nxElements.length = readUIntBE shape.countSize w.total

/-! ## What the walk passes over -/

variable {shape : RecordShape} {rest after : Bytes}

variable {n width valueSize cnt idSize : ℕ} {elements : List IoElement} {sizes : List ℕ}
  {w : WireRecord}

lemma need_eq_ok_iff :
    need n rest = .ok after ↔ ∃ used, used.length = n ∧ rest = used ++ after := by
  unfold need
  constructor
  · intro h
    obtain ⟨hle, h⟩ := check_eq_ok h
    refine ⟨rest.take n, length_take_of_le (Nat.le_of_not_lt hle), ?_⟩
    rw [← ok.inj h, take_append_drop]
  · rintro ⟨used, rfl, rfl⟩
    rw [if_neg (by simp), drop_left]

lemma readWidth_eq_ok_iff {v : ℕ} :
    readWidth width rest = .ok (v, after) ↔
      ∃ used, used.length = width ∧ readUIntBE width used = v ∧ rest = used ++ after := by
  unfold readWidth
  constructor
  · intro h
    obtain ⟨after', hneed, h⟩ := bind_eq_ok h
    obtain ⟨used, hused, rfl⟩ := need_eq_ok_iff.mp hneed
    cases h
    exact ⟨used, hused, (readUIntBE_append hused.ge _).symm, rfl⟩
  · rintro ⟨used, hused, rfl, rfl⟩
    rw [need_eq_ok_iff.mpr ⟨used, hused, rfl⟩, readUIntBE_append hused.ge]
    rfl

lemma exists_ioElements {used : Bytes} (h : used.length = cnt * (idSize + valueSize)) :
    ∃ elements : List IoElement, elements.length = cnt ∧
      (∀ e ∈ elements, e.id.length = idSize ∧ e.value.length = valueSize) ∧
      used = elements.flatMap IoElement.bytes := by
  induction cnt generalizing used with
  | zero =>
    rw [Nat.zero_mul] at h
    exact ⟨[], rfl, fun e he => (not_mem_nil he).elim, length_eq_zero_iff.mp h⟩
  | succ cnt ih =>
    rw [succ_mul] at h
    have hdrop : (used.drop (idSize + valueSize)).length = cnt * (idSize + valueSize) := by
      rw [length_drop]
      omega
    obtain ⟨elements, hlength, hsized, hrest⟩ := ih hdrop
    refine ⟨⟨used.take idSize, (used.drop idSize).take valueSize⟩ :: elements, ?_, ?_, ?_⟩
    · rw [length_cons, hlength]
    · refine forall_mem_cons.mpr ⟨⟨?_, ?_⟩, hsized⟩
      · rw [length_take]
        omega
      · rw [length_take, length_drop]
        omega
    · rw [flatMap_cons, ← hrest]
      show used = used.take idSize ++ (used.drop idSize).take valueSize ++ _
      rw [append_assoc, ← drop_drop, take_append_drop, take_append_drop]

lemma length_ioElements (h : ∀ e ∈ elements, e.id.length = idSize ∧ e.value.length = valueSize) :
    (elements.flatMap IoElement.bytes).length = elements.length * (idSize + valueSize) := by
  induction elements with
  | nil => simp
  | cons e elements ih =>
    obtain ⟨⟨hid, hvalue⟩, hrest⟩ := forall_mem_cons.mp h
    rw [flatMap_cons, length_append, ih hrest, length_cons, succ_mul, add_comm]
    show _ + (e.id ++ e.value).length = _
    rw [length_append, hid, hvalue]

lemma walkGroups_eq_ok_iff :
    walkGroups shape sizes rest = .ok (n, after) ↔
      ∃ groups, Forall₂ (IoSized shape) sizes groups ∧
        (groups.flatMap (·.elements)).length = n ∧ rest = groups.flatMap ioBytes ++ after := by
  induction sizes generalizing rest n with
  | nil =>
    constructor
    · intro h
      cases h
      exact ⟨[], .nil, rfl, rfl⟩
    · rintro ⟨groups, hgroups, rfl, rfl⟩
      cases hgroups
      rfl
  | cons valueSize sizes ih =>
    constructor
    · intro h
      obtain ⟨⟨cnt, rest₁⟩, hread, h⟩ := bind_eq_ok h
      obtain ⟨rest₂, hneed, h⟩ := bind_eq_ok h
      obtain ⟨⟨n', rest₃⟩, hgroups, h⟩ := bind_eq_ok h
      cases h
      obtain ⟨count, hcount, rfl, rfl⟩ := readWidth_eq_ok_iff.mp hread
      obtain ⟨used, hused, rfl⟩ := need_eq_ok_iff.mp hneed
      obtain ⟨groups, hsized, rfl, rfl⟩ := ih.mp hgroups
      obtain ⟨elements, hlength, helements, rfl⟩ := exists_ioElements hused
      refine ⟨⟨count, elements⟩ :: groups, .cons ⟨⟨hcount, hlength.symm⟩, helements⟩ hsized, ?_, ?_⟩
      · rw [flatMap_cons, length_append, ← hlength]
      · simp only [flatMap_cons, ioBytes, append_assoc]
    · rintro ⟨_, hgroups, rfl, rfl⟩
      cases hgroups with
      | cons hgroup hgroups =>
        rename_i group groups
        obtain ⟨⟨hcount, hcounted⟩, hsized⟩ := hgroup
        simp only [walkGroups, flatMap_cons, ioBytes, append_assoc]
        rw [readWidth_eq_ok_iff.mpr ⟨group.count, hcount, hcounted, rfl⟩]
        show (need _ _ >>= _) = _
        rw [need_eq_ok_iff.mpr ⟨_, length_ioElements hsized, rfl⟩]
        show (walkGroups _ _ _ >>= _) = _
        rw [ih.mpr ⟨groups, hgroups, rfl, rfl⟩, length_append]
        rfl

lemma walkNx_eq_ok_iff :
    walkNx cnt rest = .ok after ↔ ∃ elements : List NxElement, elements.length = cnt ∧
      (∀ e ∈ elements, e.Sized) ∧ rest = elements.flatMap NxElement.bytes ++ after := by
  induction cnt generalizing rest with
  | zero =>
    constructor
    · intro h
      cases h
      exact ⟨[], rfl, fun e he => (not_mem_nil he).elim, rfl⟩
    · rintro ⟨elements, hlength, -, rfl⟩
      obtain rfl := length_eq_zero_iff.mp hlength
      rfl
  | succ cnt ih =>
    constructor
    · intro h
      obtain ⟨rest₁, hneed, h₁⟩ := bind_eq_ok h
      obtain ⟨rest₂, hdata, h₂⟩ := bind_eq_ok h₁
      obtain ⟨used, hused, rfl⟩ := need_eq_ok_iff.mp hneed
      obtain ⟨data, hlength, rfl⟩ := need_eq_ok_iff.mp hdata
      obtain ⟨elements, hcnt, hsized, rfl⟩ := ih.mp h₂
      have hlen : (used.drop 2).length = 2 := by
        rw [length_drop, hused]
      refine ⟨⟨used.take 2, used.drop 2, data⟩ :: elements, ?_, ?_, ?_⟩
      · rw [length_cons, hcnt]
      · refine forall_mem_cons.mpr ⟨⟨?_, hlen, ?_⟩, hsized⟩
        · rw [length_take, hused]
          rfl
        · rw [hlength, drop_append_of_le_length (by omega), readUIntBE_append hlen.ge]
      · simp only [flatMap_cons, NxElement.bytes, take_append_drop, append_assoc]
    · rintro ⟨elements, hlength, hsized, rfl⟩
      cases elements with
      | nil => cases hlength
      | cons e elements =>
        obtain ⟨⟨hid, hlen, hdata⟩, hsized⟩ := forall_mem_cons.mp hsized
        have hused : (e.id ++ e.len).length = 2 + 2 := by
          rw [length_append, hid, hlen]
        have hread : readUIntBE 2 ((e.id ++ e.len ++ e.data ++
            (elements.flatMap NxElement.bytes ++ after)).drop 2) = e.data.length := by
          rw [append_assoc, append_assoc, ← hid, drop_left, hid, readUIntBE_append hlen.ge, hdata]
        simp only [walkNx, flatMap_cons, NxElement.bytes]
        rw [append_assoc, hread, append_assoc, need_eq_ok_iff.mpr ⟨_, hused, rfl⟩]
        show (need _ _ >>= _) = _
        rw [need_eq_ok_iff.mpr ⟨e.data, rfl, rfl⟩]
        exact ih.mpr ⟨elements, succ.inj hlength, hsized, rfl⟩

lemma walkNxGroup_eq_ok_iff :
    walkNxGroup shape rest = .ok (cnt, after) ↔
      ∃ nx, NxSized shape nx ∧ (nx.elim [] (·.elements)).length = cnt ∧
        rest = nx.elim [] nxBytes ++ after := by
  unfold walkNxGroup NxSized
  cases hshape : shape.nxGroup with
  | false =>
    rw [if_neg Bool.false_ne_true]
    constructor
    · intro h
      cases h
      exact ⟨none, ⟨rfl, fun group hgroup => by cases hgroup⟩, rfl, rfl⟩
    · rintro ⟨nx, ⟨hnx, -⟩, rfl, rfl⟩
      obtain rfl := Option.isSome_eq_false_iff.mp hnx |> Option.isNone_iff_eq_none.mp
      rfl
  | true =>
    rw [if_pos rfl]
    constructor
    · intro h
      obtain ⟨⟨cnt', rest₁⟩, hread, h₁⟩ := bind_eq_ok h
      obtain ⟨rest₂, hnx, h₂⟩ := bind_eq_ok h₁
      cases h₂
      obtain ⟨count, hcount, rfl, rfl⟩ := readWidth_eq_ok_iff.mp hread
      obtain ⟨elements, hlength, hsized, rfl⟩ := walkNx_eq_ok_iff.mp hnx
      refine ⟨some ⟨count, elements⟩, ⟨rfl, fun group hgroup => ?_⟩, hlength, ?_⟩
      · cases hgroup
        exact ⟨⟨hcount, hlength.symm⟩, hsized⟩
      · exact (append_assoc _ _ _).symm
    · rintro ⟨nx, ⟨hnx, hsized⟩, rfl, rfl⟩
      obtain ⟨group, rfl⟩ := Option.isSome_iff_exists.mp hnx
      obtain ⟨⟨hcount, hcounted⟩, helements⟩ := hsized group rfl
      simp only [Option.elim_some, nxBytes, append_assoc]
      rw [readWidth_eq_ok_iff.mpr ⟨group.count, hcount, hcounted, rfl⟩]
      show (walkNx _ _ >>= _) = _
      rw [walkNx_eq_ok_iff.mpr ⟨group.elements, rfl, helements, rfl⟩]
      rfl

/-- **One record**: what the walk passes over is a well-formed record. -/
lemma walkRecord_eq_ok_iff :
    walkRecord shape rest = .ok after ↔
      ∃ w : WireRecord, w.WellFormed shape ∧ rest = w.bytes ++ after := by
  constructor
  · intro h
    obtain ⟨rest₁, hreadFixed, h₁⟩ := bind_eq_ok h
    obtain ⟨⟨event, rest₂⟩, hreadEvent, h₂⟩ := bind_eq_ok h₁
    obtain ⟨rest₃, hreadGeneration, h₃⟩ := bind_eq_ok h₂
    obtain ⟨⟨nTotal, rest₄⟩, hreadTotal, h₄⟩ := bind_eq_ok h₃
    obtain ⟨⟨n, rest₅⟩, hreadGroups, h₅⟩ := bind_eq_ok h₄
    obtain ⟨⟨cnt, rest₆⟩, hreadNx, h₆⟩ := bind_eq_ok h₅
    obtain ⟨hsum, h₇⟩ := check_eq_ok h₆
    cases h₇
    obtain ⟨fixed, hfixed, rfl⟩ := need_eq_ok_iff.mp hreadFixed
    obtain ⟨event, hevent, rfl, rfl⟩ := readWidth_eq_ok_iff.mp hreadEvent
    obtain ⟨generation, hgeneration, rfl⟩ := need_eq_ok_iff.mp hreadGeneration
    obtain ⟨total, htotal, rfl, rfl⟩ := readWidth_eq_ok_iff.mp hreadTotal
    obtain ⟨groups, hgroups, rfl, rfl⟩ := walkGroups_eq_ok_iff.mp hreadGroups
    obtain ⟨nx, hnx, rfl, rfl⟩ := walkNxGroup_eq_ok_iff.mp hreadNx
    refine ⟨⟨fixed, event, generation, total, groups, nx⟩,
      ⟨hfixed, hevent, hgeneration, htotal, hgroups, hnx, Decidable.not_not.mp hsum⟩, ?_⟩
    simp only [WireRecord.bytes, WireRecord.head, append_assoc]
  · rintro ⟨w, hw, rfl⟩
    simp only [WireRecord.bytes, WireRecord.head, append_assoc]
    unfold walkRecord
    rw [need_eq_ok_iff.mpr ⟨w.fixed, hw.fixed, rfl⟩]
    show (readWidth _ _ >>= _) = _
    rw [readWidth_eq_ok_iff.mpr ⟨w.event, hw.event, rfl, rfl⟩]
    show (need _ _ >>= _) = _
    rw [need_eq_ok_iff.mpr ⟨w.generation, hw.generation, rfl⟩]
    show (readWidth _ _ >>= _) = _
    rw [readWidth_eq_ok_iff.mpr ⟨w.total, hw.total, rfl, rfl⟩]
    show (walkGroups _ _ _ >>= _) = _
    rw [walkGroups_eq_ok_iff.mpr ⟨w.groups, hw.groups, rfl, rfl⟩]
    show (walkNxGroup _ _ >>= _) = _
    rw [walkNxGroup_eq_ok_iff.mpr ⟨w.nx, hw.nx, rfl, rfl⟩]
    exact if_neg (not_not_intro hw.counted)

lemma WireRecord.WellFormed.bytes_ne_nil (hw : w.WellFormed shape) : w.bytes ≠ [] := by
  intro h
  have hlength : w.bytes.length = 0 := by rw [h]; rfl
  have hfixed := hw.fixed
  simp only [WireRecord.bytes, WireRecord.head, length_append] at hlength
  omega

lemma eq_nil_of_flatMap_bytes {ws : List WireRecord} (hws : ∀ w ∈ ws, w.WellFormed shape)
    (h : ws.flatMap WireRecord.bytes = []) : ws = [] := by
  cases ws with
  | nil => rfl
  | cons w ws =>
    rw [flatMap_cons] at h
    exact absurd (append_eq_nil_iff.mp h).1 (hws w mem_cons_self).bytes_ne_nil

/-- **A region**: the walk accepts the records that are well formed, one after the other, and cuts
the region where they end. -/
theorem walkRecords_eq_ok_iff {data : Bytes} {slices : List Bytes} :
    walkRecords data shape = .ok slices ↔
      ∃ ws : List WireRecord, (∀ w ∈ ws, w.WellFormed shape) ∧
        data = ws.flatMap WireRecord.bytes ∧ slices = ws.map WireRecord.bytes := by
  suffices hfuel : ∀ fuel, data.length ≤ fuel → (walkFuel shape fuel data = .ok slices ↔
      ∃ ws : List WireRecord, (∀ w ∈ ws, w.WellFormed shape) ∧
        data = ws.flatMap WireRecord.bytes ∧ slices = ws.map WireRecord.bytes) from
    hfuel data.length (le_refl _)
  intro fuel
  induction fuel generalizing data slices with
  | zero =>
    intro hlength
    obtain rfl := length_eq_zero_iff.mp (le_zero.mp hlength)
    constructor
    · intro h
      cases h
      exact ⟨[], fun w hw => (not_mem_nil hw).elim, rfl, rfl⟩
    · rintro ⟨ws, hws, hdata, rfl⟩
      obtain rfl := eq_nil_of_flatMap_bytes hws hdata.symm
      rfl
  | succ fuel ih =>
    intro hlength
    constructor
    · intro h
      cases data with
      | nil =>
        cases h
        exact ⟨[], fun w hw => (not_mem_nil hw).elim, rfl, rfl⟩
      | cons b data =>
        obtain ⟨after, hrecord, h₁⟩ := bind_eq_ok h
        obtain ⟨records, hrecords, h₂⟩ := bind_eq_ok h₁
        cases h₂
        obtain ⟨w, hw, hdata⟩ := walkRecord_eq_ok_iff.mp hrecord
        have hpos := length_pos_iff.mpr hw.bytes_ne_nil
        have hshorter : after.length ≤ fuel := by
          rw [hdata, length_append] at hlength
          omega
        obtain ⟨ws, hws, rfl, rfl⟩ := (ih hshorter).mp hrecords
        refine ⟨w :: ws, forall_mem_cons.mpr ⟨hw, hws⟩, hdata, ?_⟩
        rw [hdata, length_append, Nat.add_sub_cancel, take_left]
        rfl
    · rintro ⟨ws, hws, hdata, rfl⟩
      cases ws with
      | nil =>
        rw [hdata]
        rfl
      | cons w ws =>
        obtain ⟨hw, hws⟩ := forall_mem_cons.mp hws
        have hpos := length_pos_iff.mpr hw.bytes_ne_nil
        rw [flatMap_cons] at hdata
        have hshorter : (ws.flatMap WireRecord.bytes).length ≤ fuel := by
          rw [hdata, length_append] at hlength
          omega
        cases hcons : data with
        | nil =>
          rw [hcons] at hdata
          exact absurd (append_eq_nil_iff.mp hdata.symm).1 hw.bytes_ne_nil
        | cons b tail =>
          unfold walkFuel
          rw [← hcons, hdata, walkRecord_eq_ok_iff.mpr ⟨w, hw, rfl⟩]
          show (walkFuel _ _ _ >>= _) = _
          rw [(ih hshorter).mpr ⟨ws, hws, rfl, rfl⟩, length_append, Nat.add_sub_cancel, take_left]
          rfl

/-! ## Reading at an offset -/

section Cursor

variable {record field later : Bytes} {off width : ℕ}

lemma readUInt_of_drop (h : record.drop off = field ++ later) (hwidth : field.length = width)
    (hpos : 0 < width) : readUInt width record off = .ok (readUIntBE width field) := by
  have hlength : (record.drop off).length = field.length + later.length := by
    rw [h, length_append]
  rw [length_drop] at hlength
  unfold readUInt
  rw [if_neg (by omega), h, readUIntBE_append hwidth.ge]

lemma drop_of_drop (h : record.drop off = field ++ later) (hwidth : field.length = width) :
    record.drop (off + width) = later := by
  rw [← drop_drop, h, ← hwidth, drop_left]

lemma subarray_of_drop (h : record.drop off = field ++ later) (hwidth : field.length = width) :
    subarray record off (off + width) = field := by
  unfold subarray
  rw [drop_take, h, Nat.add_sub_cancel_left, ← hwidth, take_left]

lemma byteAt_of_drop (h : record.drop off = field ++ later) (hwidth : field.length = 1) :
    off + 1 ≤ record.length ∧ byteAt record off = readUIntBE 1 field := by
  obtain ⟨b, rfl⟩ := length_eq_one_iff.mp hwidth
  have hlength : (record.drop off).length = 1 + later.length := by
    rw [h, length_append, hwidth]
  rw [length_drop] at hlength
  have hget : record[off]? = some b := by
    rw [← add_zero off, ← getElem?_drop, h]
    rfl
  refine ⟨by omega, ?_⟩
  unfold byteAt
  rw [getD_eq_getElem?_getD, hget]
  simp [readUIntBE]

end Cursor

/-! ## The NX group -/

variable {off : ℕ} {later record : Bytes} {groups : List (IoGroup IoElement)}

lemma skipGroups8e_of_drop (hgroups : Forall₂ (IoSized SHAPE_8E) sizes groups)
    (h : record.drop off = groups.flatMap ioBytes ++ later) :
    ∃ stop, skipGroups8e record sizes off = .ok stop ∧ record.drop stop = later := by
  induction hgroups generalizing off with
  | nil => exact ⟨off, rfl, h⟩
  | @cons valueSize group sizes groups hgroup hgroups ih =>
    obtain ⟨⟨hcount, hcounted⟩, hsized⟩ := hgroup
    rw [flatMap_cons, ioBytes, append_assoc, append_assoc] at h
    have hread : readUInt 2 record off = .ok group.elements.length :=
      (readUInt_of_drop h hcount Nat.two_pos).trans (congrArg ok hcounted)
    have hnext := drop_of_drop (drop_of_drop h hcount) (length_ioElements hsized)
    obtain ⟨stop, hskip, hstop⟩ := ih hnext
    refine ⟨stop, ?_, hstop⟩
    unfold skipGroups8e
    rw [hread]
    exact hskip

lemma nxElements_of_drop {elements : List NxElement} (hsized : ∀ e ∈ elements, e.Sized)
    (h : record.drop off = elements.flatMap NxElement.bytes ++ later) :
    nxElements record elements.length off =
      .ok (elements.map fun e => (readUIntBE 2 e.id, e.data)) := by
  induction elements generalizing off with
  | nil => rfl
  | cons e elements ih =>
    obtain ⟨⟨hid, hlen, hdata⟩, hrest⟩ := forall_mem_cons.mp hsized
    rw [flatMap_cons, NxElement.bytes, append_assoc, append_assoc, append_assoc] at h
    have hafterId := drop_of_drop h hid
    have hafterLen := drop_of_drop hafterId hlen
    have hreadId : readUInt 2 record off = .ok (readUIntBE 2 e.id) :=
      readUInt_of_drop h hid Nat.two_pos
    have hreadLen : readUInt 2 record (off + 2) = .ok e.data.length :=
      (readUInt_of_drop hafterId hlen Nat.two_pos).trans (congrArg ok hdata)
    have hbytes : subarray record (off + 4) (off + 4 + e.data.length) = e.data :=
      subarray_of_drop hafterLen rfl
    show nxElements record (elements.length + 1) off = _
    unfold nxElements
    rw [hreadId]
    show (readUInt 2 record (off + 2) >>= _) = _
    rw [hreadLen]
    show (nxElements record elements.length (off + 4 + e.data.length) >>= _) = _
    rw [ih hrest (drop_of_drop hafterLen rfl), hbytes]
    rfl

/-- **`extractNx8e`** finds the elements of variable length, in the order of the wire. -/
theorem extractNx8e_bytes (hw : w.WellFormed SHAPE_8E) :
    extractNx8e w.bytes = .ok (w.nxElements.map fun e => (readUIntBE 2 e.id, e.data)) := by
  obtain ⟨group, hgroup⟩ := Option.isSome_iff_exists.mp hw.nx.1
  obtain ⟨⟨hcount, hcounted⟩, hsized⟩ := hw.nx.2 group hgroup
  have hbytes : w.bytes = (w.fixed ++ w.event ++ w.generation) ++
      (w.total ++ (w.groups.flatMap ioBytes ++ (group.count ++
        (group.elements.flatMap NxElement.bytes ++ [])))) := by
    simp only [WireRecord.bytes, WireRecord.head, hgroup, Option.elim_some, nxBytes,
      append_assoc, append_nil]
  have hprefix : (w.fixed ++ w.event ++ w.generation).length = 24 + 2 := by
    rw [length_append, length_append, hw.fixed, hw.event, hw.generation]
    rfl
  have htotal : w.bytes.drop (24 + 2) = w.total ++ (w.groups.flatMap ioBytes ++ (group.count ++
      (group.elements.flatMap NxElement.bytes ++ []))) := by
    rw [hbytes, ← hprefix, drop_left]
  obtain ⟨stop, hskip, hstop⟩ := skipGroups8e_of_drop hw.groups (drop_of_drop htotal hw.total)
  have hread : readUInt 2 w.bytes stop = .ok group.elements.length :=
    (readUInt_of_drop hstop hcount Nat.two_pos).trans (congrArg ok hcounted)
  have hreadTotal : readUInt 2 w.bytes (24 + 2) = .ok (readUIntBE 2 w.total) :=
    readUInt_of_drop htotal hw.total Nat.two_pos
  unfold extractNx8e
  rw [hreadTotal]
  show (skipGroups8e w.bytes [1, 2, 4, 8] (24 + 2 + 2) >>= _) = _
  rw [show skipGroups8e w.bytes [1, 2, 4, 8] (24 + 2 + 2) = .ok stop from hskip]
  show (readUInt 2 w.bytes stop >>= _) = _
  rw [hread]
  have hafter : w.bytes.drop (stop + 2) = group.elements.flatMap NxElement.bytes ++ [] :=
    drop_of_drop hstop hcount
  show nxElements w.bytes group.elements.length (stop + 2) = _
  rw [nxElements_of_drop hsized hafter, WireRecord.nxElements, hgroup]
  rfl

/-! ## Maps of elements -/

def ioMap {α : Type} (elements : List (ℕ × α)) : List (ℕ × α) :=
  elements.foldl (fun io e => setIo io e.1 e.2) []

section IoMap

variable {α : Type} {io elements : List (ℕ × α)}

lemma ids_setIo_of_mem {id : ℕ} (value : α) (h : id ∈ io.map Prod.fst) :
    (setIo io id value).map Prod.fst = io.map Prod.fst := by
  obtain ⟨entry, hentry, rfl⟩ := mem_map.mp h
  unfold setIo
  rw [if_pos (any_eq_true.mpr ⟨entry, hentry, decide_eq_true rfl⟩), map_map]
  refine map_congr_left fun e _ => ?_
  show (if e.1 = entry.1 then (entry.1, value) else e).1 = e.1
  split
  · rename_i he
    exact he.symm
  · rfl

lemma setIo_of_notMem {id : ℕ} (value : α) (h : id ∉ io.map Prod.fst) :
    setIo io id value = io ++ [(id, value)] := by
  unfold setIo
  refine if_neg fun hany => h ?_
  obtain ⟨entry, hentry, hid⟩ := any_eq_true.mp hany
  exact mem_map.mpr ⟨entry, hentry, of_decide_eq_true hid⟩

lemma mem_ids_setIo {id id' : ℕ} (value : α) :
    id' ∈ (setIo io id value).map Prod.fst ↔ id' ∈ io.map Prod.fst ∨ id' = id := by
  by_cases h : id ∈ io.map Prod.fst
  · rw [ids_setIo_of_mem value h]
    constructor
    · exact .inl
    · rintro (hmem | rfl)
      · exact hmem
      · exact h
  · rw [setIo_of_notMem value h]
    simp

lemma mem_ids_foldl_setIo {id : ℕ} :
    id ∈ (elements.foldl (fun io e => setIo io e.1 e.2) io).map Prod.fst ↔
      id ∈ io.map Prod.fst ∨ id ∈ elements.map Prod.fst := by
  induction elements generalizing io with
  | nil => simp
  | cons e elements ih =>
    rw [foldl_cons, ih, mem_ids_setIo, map_cons, mem_cons, or_assoc]

lemma mem_ids_ioMap {id : ℕ} : id ∈ (ioMap elements).map Prod.fst ↔ id ∈ elements.map Prod.fst := by
  unfold ioMap
  rw [mem_ids_foldl_setIo]
  simp

lemma foldl_setIo_of_nodup (h : (io ++ elements).map Prod.fst |>.Nodup) :
    elements.foldl (fun io e => setIo io e.1 e.2) io = io ++ elements := by
  induction elements generalizing io with
  | nil => exact (append_nil io).symm
  | cons e elements ih =>
    have hnew : e.1 ∉ io.map Prod.fst := by
      rw [map_append, map_cons] at h
      exact fun hmem => (nodup_append.mp h).2.2 e.1 hmem e.1 mem_cons_self rfl
    rw [foldl_cons, setIo_of_notMem e.2 hnew, ih (by rwa [append_assoc])]
    exact append_assoc io [e] elements

lemma ioMap_of_nodup (h : (elements.map Prod.fst).Nodup) : ioMap elements = elements :=
  foldl_setIo_of_nodup h

lemma length_foldl_setIo_le :
    (elements.foldl (fun io e => setIo io e.1 e.2) io).length ≤ io.length + elements.length := by
  induction elements generalizing io with
  | nil => exact le_refl _
  | cons e elements ih =>
    have hset : (setIo io e.1 e.2).length ≤ io.length + 1 := by
      by_cases h : e.1 ∈ io.map Prod.fst
      · have hids := congrArg length (ids_setIo_of_mem e.2 h)
        rw [length_map, length_map] at hids
        omega
      · rw [setIo_of_notMem e.2 h]
        exact le_of_eq length_append
    rw [foldl_cons, length_cons]
    have hrest := @ih (setIo io e.1 e.2)
    omega

lemma nodup_of_length_foldl_setIo (hio : (io.map Prod.fst).Nodup)
    (h : (elements.foldl (fun io e => setIo io e.1 e.2) io).length =
      io.length + elements.length) : ((io ++ elements).map Prod.fst).Nodup := by
  induction elements generalizing io with
  | nil => rwa [append_nil]
  | cons e elements ih =>
    rw [foldl_cons, length_cons] at h
    by_cases hmem : e.1 ∈ io.map Prod.fst
    · have hids := congrArg length (ids_setIo_of_mem e.2 hmem)
      have hrest := @length_foldl_setIo_le _ (setIo io e.1 e.2) elements
      rw [length_map, length_map] at hids
      omega
    · rw [setIo_of_notMem e.2 hmem] at h
      have hnodup : ((io ++ [e]).map Prod.fst).Nodup := by
        rw [map_append]
        refine nodup_append.mpr ⟨hio, by simp, fun id hid id' hid' heq => ?_⟩
        rw [mem_singleton.mp hid'] at heq
        exact hmem (heq ▸ hid)
      have hlength : (elements.foldl (fun io e => setIo io e.1 e.2) (io ++ [e])).length =
          (io ++ [e]).length + elements.length := by
        rw [length_append, length_singleton, add_assoc, add_comm 1]
        exact h
      have hall := ih hnodup hlength
      rwa [append_assoc] at hall

lemma length_ioMap_eq_iff :
    (ioMap elements).length = elements.length ↔ (elements.map Prod.fst).Nodup := by
  constructor
  · intro h
    have hall := @nodup_of_length_foldl_setIo _ [] elements nodup_nil (h.trans (zero_add _).symm)
    exact hall
  · intro h
    rw [ioMap_of_nodup h]

end IoMap

/-! ## The elements of codec 16 -/

def IoElement.entry (width : ℕ) (e : IoElement) : ℕ × ℤ :=
  (readUIntBE 2 e.id, (readUIntBE width e.value : ℤ))

variable {io : List (ℕ × ℤ)}

lemma io16Group_of_drop (hsized : ∀ e ∈ elements, e.id.length = 2 ∧ e.value.length = width)
    (h : record.drop off = elements.flatMap IoElement.bytes ++ later) :
    ∃ stop, record.drop stop = later ∧ io16Group record width elements.length off io =
      .ok (stop, (elements.map (IoElement.entry width)).foldl
        (fun io e => setIo io e.1 e.2) io) := by
  induction elements generalizing off io with
  | nil => exact ⟨off, h, rfl⟩
  | cons e elements ih =>
    obtain ⟨⟨hid, hvalue⟩, hrest⟩ := forall_mem_cons.mp hsized
    rw [flatMap_cons, IoElement.bytes, append_assoc, append_assoc] at h
    have hafterId := drop_of_drop h hid
    have hroom : off + 2 + width ≤ record.length := by
      have hlength : (record.drop (off + 2)).length = e.value.length +
          (elements.flatMap IoElement.bytes ++ later).length := by
        rw [hafterId, length_append]
      have hidLength : (record.drop off).length = e.id.length +
          (e.value ++ (elements.flatMap IoElement.bytes ++ later)).length := by
        rw [h, length_append]
      rw [length_drop] at hlength hidLength
      omega
    have hreadId : readUInt 2 record off = .ok (readUIntBE 2 e.id) :=
      readUInt_of_drop h hid Nat.two_pos
    have hreadValue : readUIntBE width (record.drop (off + 2)) = readUIntBE width e.value := by
      rw [hafterId, readUIntBE_append hvalue.ge]
    obtain ⟨stop, hstop, hgroup⟩ := @ih (off + 2 + width)
      (setIo io (readUIntBE 2 e.id) (readUIntBE width e.value)) hrest
      (drop_of_drop hafterId hvalue)
    refine ⟨stop, hstop, ?_⟩
    show io16Group record width (elements.length + 1) off io = _
    unfold io16Group
    rw [if_neg (by omega), hreadId]
    show io16Group record width elements.length (off + 2 + width)
      (setIo io _ (readUIntBE width (record.drop (off + 2)) : ℤ)) = _
    rw [hreadValue, hgroup]
    rfl

def ioEntries (widths : List ℕ) (groups : List (IoGroup IoElement)) : List (ℕ × ℤ) :=
  (widths.zip groups).flatMap fun (width, group) => group.elements.map (IoElement.entry width)

variable {widths : List ℕ}

lemma io16Groups_of_drop (hgroups : Forall₂ (IoSized SHAPE_16) widths groups)
    (h : record.drop off = groups.flatMap ioBytes ++ later) :
    io16Groups record widths off io =
      .ok ((ioEntries widths groups).foldl (fun io e => setIo io e.1 e.2) io) := by
  induction hgroups generalizing off io with
  | nil => rfl
  | @cons width group widths groups hgroup hgroups ih =>
    obtain ⟨⟨hcount, hcounted⟩, hsized⟩ := hgroup
    rw [flatMap_cons, ioBytes, append_assoc, append_assoc] at h
    obtain ⟨hroom, hbyte⟩ := byteAt_of_drop h hcount
    have hbyte : byteAt record off = group.elements.length := hbyte.trans hcounted
    obtain ⟨stop, hstop, hgroup⟩ := @io16Group_of_drop width _ (off + 1) _ _ io hsized
      (drop_of_drop h hcount)
    unfold io16Groups
    rw [if_neg (by omega), hbyte, hgroup]
    show io16Groups record widths stop _ = _
    rw [ih hstop]
    show _ = ok (foldl _ io (group.elements.map _ ++ ioEntries widths groups))
    rw [foldl_append]

lemma map_fst_ioEntries (hgroups : Forall₂ (IoSized shape) widths groups) :
    (ioEntries widths groups).map Prod.fst =
      (groups.flatMap (·.elements)).map fun e => readUIntBE 2 e.id := by
  induction hgroups with
  | nil => rfl
  | @cons width group widths groups hgroup hgroups ih =>
    show (group.elements.map _ ++ ioEntries widths groups).map Prod.fst = _
    rw [map_append, ih, flatMap_cons, map_append, map_map]
    rfl

/-- **`extractIo16`** finds the elements of a record where their ids differ, and throws otherwise.
-/
theorem extractIo16_bytes (hw : w.WellFormed SHAPE_16) :
    extractIo16 w.bytes =
      if (w.ioElements.map fun e => readUIntBE 2 e.id).Nodup then
        .ok (ioEntries [1, 2, 4, 8] w.groups)
      else .error .frame := by
  have hnx : w.nx = none := Option.not_isSome_iff_eq_none.mp (by rw [hw.nx.1]; decide)
  have hbytes : w.bytes = (w.fixed ++ w.event ++ w.generation) ++
      (w.total ++ (w.groups.flatMap ioBytes ++ [])) := by
    simp only [WireRecord.bytes, WireRecord.head, hnx, Option.elim_none, append_assoc]
  have hprefix : (w.fixed ++ w.event ++ w.generation).length = 24 + 2 + 1 := by
    rw [length_append, length_append, hw.fixed, hw.event, hw.generation]
    rfl
  have hdrop : w.bytes.drop (24 + 2 + 1) = w.total ++ (w.groups.flatMap ioBytes ++ []) := by
    rw [hbytes, ← hprefix, drop_left]
  obtain ⟨hroom, hbyte⟩ := byteAt_of_drop hdrop hw.total
  have hids := map_fst_ioEntries hw.groups
  have htotal : byteAt w.bytes (24 + 2 + 1) = (ioEntries [1, 2, 4, 8] w.groups).length := by
    have hlength := congrArg length hids
    have hcounted := hw.counted
    rw [length_map, length_map] at hlength
    rw [WireRecord.nxElements, hnx] at hcounted
    rw [hbyte, hlength]
    exact hcounted.symm
  have hgroups : io16Groups w.bytes [1, 2, 4, 8] (24 + 2 + 1 + 1) [] =
      .ok (ioMap (ioEntries [1, 2, 4, 8] w.groups)) :=
    io16Groups_of_drop hw.groups (drop_of_drop hdrop hw.total)
  unfold extractIo16
  dsimp only
  rw [if_neg (by omega), hgroups, htotal]
  have hiff : (ioMap (ioEntries [1, 2, 4, 8] w.groups)).length =
      (ioEntries [1, 2, 4, 8] w.groups).length ↔
        (w.ioElements.map fun e => readUIntBE 2 e.id).Nodup := by
    rw [length_ioMap_eq_iff, hids]
    rfl
  show (if _ then _ else _) = _
  by_cases hlength : (ioMap (ioEntries [1, 2, 4, 8] w.groups)).length =
      (ioEntries [1, 2, 4, 8] w.groups).length
  · rw [if_neg (not_not_intro hlength), if_pos (hiff.mp hlength),
      ioMap_of_nodup (length_ioMap_eq_iff.mp hlength)]
  · rw [if_pos hlength, if_neg fun hnodup => hlength (hiff.mpr hnodup)]

/-! ## Slices -/

/-- The bytes of the records of a frame: from the data field, without the codec and the two counts.
-/
def Frame.body (frame : Frame) : Bytes :=
  subarray frame.bytes 10 (8 + readUIntBE 4 (frame.bytes.drop 4) - 1)

lemma walkRecords_bytes (hw : w.WellFormed shape) : walkRecords w.bytes shape = .ok [w.bytes] :=
  walkRecords_eq_ok_iff.mpr ⟨[w], by simpa using hw, by simp, rfl⟩

lemma walkRecords_between {before : Bytes} {as bs : List Bytes} (hw : w.WellFormed shape)
    (hbefore : walkRecords before shape = .ok as) (hlater : walkRecords later shape = .ok bs) :
    walkRecords (before ++ w.bytes ++ later) shape = .ok (as ++ w.bytes :: bs) := by
  obtain ⟨ws, hws, rfl, rfl⟩ := walkRecords_eq_ok_iff.mp hbefore
  obtain ⟨ws', hws', rfl, rfl⟩ := walkRecords_eq_ok_iff.mp hlater
  refine walkRecords_eq_ok_iff.mpr ⟨ws ++ w :: ws', ?_, by simp, by simp⟩
  intro v hv
  obtain hv | hv := mem_append.mp hv
  · exact hws v hv
  · obtain rfl | hv := mem_cons.mp hv
    · exact hw
    · exact hws' v hv

variable {codecId : ℕ}

lemma raw_parseRecord {raw : Bytes} {io : List (ℕ × Option IoValue)} {r : AvlRecord}
    (h : parseRecord codecId raw io = .ok r) : r.raw = raw := by
  unfold parseRecord at h
  dsimp only at h
  obtain ⟨_, -, h⟩ := bind_eq_ok h
  obtain ⟨-, h⟩ := check_eq_ok h
  obtain ⟨_, -, h⟩ := bind_eq_ok h
  obtain ⟨-, h⟩ := check_eq_ok h
  obtain ⟨_, -, h⟩ := bind_eq_ok h
  obtain ⟨_, -, h⟩ := bind_eq_ok h
  obtain ⟨_, -, h⟩ := bind_eq_ok h
  obtain ⟨_, -, h⟩ := bind_eq_ok h
  obtain ⟨_, -, h⟩ := bind_eq_ok h
  obtain ⟨_, -, h⟩ := bind_eq_ok h
  obtain ⟨_, -, h⟩ := bind_eq_ok h
  rw [← ok.inj h]

variable {records : List AvlRecord}

lemma map_raw_mapM {entries : List (Bytes × List (ℕ × Option IoValue))}
    (h : (entries.mapM fun (raw, io) => parseRecord codecId raw io) = .ok records) :
    records.map (·.raw) = entries.map Prod.fst := by
  induction entries generalizing records with
  | nil =>
    cases h
    rfl
  | cons entry entries ih =>
    rw [mapM_cons] at h
    obtain ⟨r, hr, h⟩ := bind_eq_ok h
    obtain ⟨rs, hrs, h⟩ := bind_eq_ok h
    cases h
    rw [map_cons, map_cons, raw_parseRecord hr, ih hrs]

lemma slices_parseFrame {protocolParser : ProtocolParser} {frame : Frame} {codec : ℕ}
    (hcount : frame.declaredCount ≠ 0)
    (h : parseFrame protocolParser frame = .ok (.avl codec records)) :
    ∃ slices, walkRecords frame.body (shapeOf (byteAt frame.bytes 8)) = .ok slices ∧
      slices.length = frame.declaredCount ∧ records.map (·.raw) = slices := by
  unfold parseFrame at h
  split at h
  · dsimp only at h
    split at h <;> cases h
  · obtain ⟨dataLen, hread, h⟩ := bind_eq_ok h
    obtain ⟨-, h⟩ := check_eq_ok h
    obtain ⟨crcExpected, -, h⟩ := bind_eq_ok h
    obtain ⟨-, h⟩ := check_eq_ok h
    obtain ⟨-, hread⟩ := check_eq_ok hread
    cases hread
    dsimp only at h
    split_ifs at h with hcodec hcommand
    · unfold parseAvl at h
      dsimp only at h
      obtain ⟨-, h⟩ := check_eq_ok h
      rw [if_neg (show ¬ byteAt frame.bytes 9 = 0 from hcount)] at h
      obtain ⟨slices, hslices, h⟩ := bind_eq_ok h
      obtain ⟨hlength, h⟩ := check_eq_ok h
      obtain ⟨io, hio, h⟩ := bind_eq_ok h
      obtain ⟨records', hrecords, h⟩ := bind_eq_ok h
      cases h
      have hlength := Decidable.not_not.mp hlength
      refine ⟨slices, hslices, hlength, ?_⟩
      rw [map_raw_mapM hrecords, map_fst_zip]
      rw [hlength, length_ioPerRecord hlength hio]
    · exact absurd h (parseCommandFrame_ne_avl _ _ _ _ _)

lemma readUIntBE_u32 (h : n < 2 ^ 32) (later : Bytes) : readUIntBE 4 (u32 n ++ later) = n := by
  rw [readUIntBE_append (le_refl 4)]
  simp only [readUIntBE, u32, take, foldl, UInt8.toNat_ofNat']
  omega

lemma body_wrapAsTcpFrame {avlData : Bytes} (hshort : 3 ≤ avlData.length)
    (hlong : avlData.length < 2 ^ 32) :
    (⟨.avl, wrapAsTcpFrame avlData⟩ : Frame).body = subarray avlData 2 (avlData.length - 1) := by
  have hframe : wrapAsTcpFrame avlData =
      u32 0 ++ (u32 avlData.length ++ (avlData ++ u32 (crc16ibm avlData))) := by
    simp only [wrapAsTcpFrame, append_assoc]
  have hdrop : ∀ n, drop (8 + n) (u32 0 ++ (u32 avlData.length ++
      (avlData ++ u32 (crc16ibm avlData)))) = (avlData ++ u32 (crc16ibm avlData)).drop n := by
    intro n
    rw [← drop_drop]
    rfl
  unfold Frame.body subarray
  dsimp only
  rw [hframe, show drop 4 (u32 0 ++ (u32 avlData.length ++
    (avlData ++ u32 (crc16ibm avlData)))) = u32 avlData.length ++
      (avlData ++ u32 (crc16ibm avlData)) from rfl, readUIntBE_u32 hlong, drop_take,
    drop_take, show 10 = 8 + 2 from rfl, hdrop, drop_append_of_le_length (by omega),
    take_append_of_le_length]
  · congr 1
    omega
  · rw [length_drop]
    omega

/-- **The walk is exact and delimits itself.** -/
theorem walkRecords_exact {body : Bytes} {slices : List Bytes}
    (h : walkRecords body shape = .ok slices) :
    slices.flatten = body ∧
    (∀ raw ∈ slices, walkRecords raw shape = .ok [raw]) ∧
    (∀ raw ∈ slices, ∀ before later as bs, walkRecords before shape = .ok as →
      walkRecords later shape = .ok bs →
      walkRecords (before ++ raw ++ later) shape = .ok (as ++ raw :: bs)) ∧
    (∃ ws : List WireRecord, slices = ws.map WireRecord.bytes ∧ ∀ w ∈ ws, w.WellFormed shape ∧
      (shape = SHAPE_8E →
        extractNx8e w.bytes = .ok (w.nxElements.map fun e => (readUIntBE 2 e.id, e.data)) ∧
        (∀ id, id ∈ (ioMap (w.nxElements.map fun e => (readUIntBE 2 e.id, e.data))).map Prod.fst ↔
          ∃ e ∈ w.nxElements, readUIntBE 2 e.id = id) ∧
        ((w.nxElements.map fun e => readUIntBE 2 e.id).Nodup →
          ioMap (w.nxElements.map fun e => (readUIntBE 2 e.id, e.data)) =
            w.nxElements.map fun e => (readUIntBE 2 e.id, e.data))) ∧
      (shape = SHAPE_16 → extractIo16 w.bytes =
        if (w.ioElements.map fun e => readUIntBE 2 e.id).Nodup then
          .ok (ioEntries [1, 2, 4, 8] w.groups)
        else .error .frame)) ∧
    (∀ (protocolParser : ProtocolParser) (frame : Frame) (codec : ℕ) (records : List AvlRecord),
      frame.declaredCount ≠ 0 → parseFrame protocolParser frame = .ok (.avl codec records) →
      ∃ slices, walkRecords frame.body (shapeOf (byteAt frame.bytes 8)) = .ok slices ∧
        slices.length = frame.declaredCount ∧ records.map (·.raw) = slices) ∧
    ∀ avlData : Bytes, 3 ≤ avlData.length → avlData.length < 2 ^ 32 →
      (⟨.avl, wrapAsTcpFrame avlData⟩ : Frame).body = subarray avlData 2 (avlData.length - 1) := by
  obtain ⟨ws, hws, rfl, rfl⟩ := walkRecords_eq_ok_iff.mp h
  refine ⟨rfl, fun raw hraw => ?_, fun raw hraw before later as bs hbefore hlater => ?_,
    ⟨ws, rfl, fun w hw => ⟨hws w hw, ?_, ?_⟩⟩,
    fun protocolParser frame codec records hcount hparse => slices_parseFrame hcount hparse,
    fun avlData => body_wrapAsTcpFrame⟩
  · obtain ⟨w, hw, rfl⟩ := mem_map.mp hraw
    exact walkRecords_bytes (hws w hw)
  · obtain ⟨w, hw, rfl⟩ := mem_map.mp hraw
    exact walkRecords_between (hws w hw) hbefore hlater
  · rintro rfl
    refine ⟨extractNx8e_bytes (hws w hw), fun id => ?_, fun hnodup => ioMap_of_nodup ?_⟩
    · rw [mem_ids_ioMap, map_map]
      exact mem_map
    · rw [map_map]
      exact hnodup
  · rintro rfl
    exact extractIo16_bytes (hws w hw)

/-- Two records of codec 16 with two elements each. -/
theorem walkRecords_exact_io16 :
    let raw : Bytes := replicate 24 0 ++ [0, 1, 7, 2, 1, 0, 1, 5, 1, 0, 2, 0, 6, 0, 0]
    walkRecords (raw ++ raw) SHAPE_16 = .ok [raw, raw] ∧ [raw, raw].flatten = raw ++ raw :=
  ⟨by decide +kernel, (walkRecords_exact (show walkRecords _ SHAPE_16 = .ok _ by decide +kernel)).1⟩

/-- Two elements with one id: the walk accepts the record, and the reader throws. -/
theorem walkRecords_not_extracted :
    ¬ ∀ (body : Bytes) (slices : List Bytes), walkRecords body SHAPE_16 = .ok slices →
      ∀ raw ∈ slices, ∃ io, extractIo16 raw = .ok io := by
  intro h
  let raw : Bytes := replicate 24 0 ++ [0, 1, 7, 2, 1, 0, 1, 5, 1, 0, 1, 0, 6, 0, 0]
  obtain ⟨io, hio⟩ := h raw [raw] (by decide +kernel) raw mem_cons_self
  have herror : extractIo16 raw = .error .frame := by decide +kernel
  rw [herror] at hio
  cases hio

end Orbetra.Codec
