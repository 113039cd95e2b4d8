import Orbetra.Codec.Walk

/-!
# Frames whose structure is sound

A frame that passes every check before its records are read should cost no more than its count: the
session stores the records, or it parks the frame, and in both cases it acknowledges as many records
as the frame declares.  What is thrown after those checks, and is not an
`UndecodableRecordsError`, is answered with a count of 0.

`Frame.Readable` says which frames get past every such error (`sound_acknowledged_iff`). -/

namespace Orbetra.Codec

open List

/-! ## Sound frames -/

def Supported (codecId : ℕ) : Prop := codecId = 0x08 ∨ codecId = 0x8e ∨ codecId = 0x10

namespace Frame

def codecId (frame : Frame) : ℕ := byteAt frame.bytes 8

/-- The length of the data field. -/
def dataLen (frame : Frame) : ℕ := readUIntBE 4 (frame.bytes.drop 4)

/-- A frame with a valid checksum, of a codec that is supported, whose two counts agree, and whose
body is split into as many records. -/
structure Sound (frame : Frame) : Prop where
  kind : frame.kind = .avl
  length : frame.bytes.length = 8 + frame.dataLen + 4
  crc : crc16ibm (subarray frame.bytes 8 (8 + frame.dataLen)) =
    readUIntBE 4 (frame.bytes.drop (8 + frame.dataLen))
  codec : Supported frame.codecId
  counts : byteAt frame.bytes 9 = byteAt frame.bytes (8 + frame.dataLen - 1)
  split : ∃ slices, walkRecords frame.body (shapeOf frame.codecId) = .ok slices ∧
    slices.length = frame.declaredCount

end Frame

def Acknowledged (count : ℕ) (answer : Except CodecError ParsedPacket) : Prop :=
  (∃ codec records, answer = .ok (.avl codec records) ∧ records.length = count) ∨
    answer = .error (.undecodable count)

/-! ## Frames whose records can be read -/

/-- What becomes of a value of the wrapped parser that is of a supported type. -/
def LibValue.decoded (value : LibValue) : Option IoValue :=
  match normalizeIoValue value with
  | .ok v => v
  | .error _ => none

/-- The IO elements of a record, as the wrapped parser gave them. -/
def decodedIo (elements : LibAvlData) : List (ℕ × Option IoValue) :=
  ioMap (elements.map fun e => (e.1, e.2.decoded))

namespace WireRecord

def priority (w : WireRecord) : ℕ := byteAt w.fixed 8

/-- The ids of the elements of fixed width, in the order of the wire. -/
def ioIds (w : WireRecord) : List ℕ := w.ioElements.map fun e => readUIntBE 2 e.id

/-- The ids of the elements of variable length, in the order of the wire. -/
def nxIds (w : WireRecord) : List ℕ := w.nxElements.map fun e => readUIntBE 2 e.id

/-- A record with a priority in range, whose IO elements have values, unless they are of variable
length. -/
def Readable (w : WireRecord) (io : List (ℕ × Option IoValue)) : Prop :=
  w.priority ≤ 2 ∧ ∀ id, (id, none) ∈ io → id ∈ w.nxIds

end WireRecord

/-- The records of a frame of codec 8 or 8 extended, by the answer of the wrapped parser: it has not
found fault with a checksum, and if it has read as many records as there are, then the values that
it gave are of supported types and every record is readable. -/
def LibReadable (ws : List WireRecord) : Except String (Option (List LibAvlData)) → Prop
  | .error msg => mentionsCrc msg = false
  | .ok none => True
  | .ok (some rawDatas) => rawDatas.length = ws.length →
    (∀ elements ∈ rawDatas, ∀ e ∈ elements, e.2 ≠ .other) ∧
      ∀ entry ∈ ws.zip rawDatas, entry.1.Readable (decodedIo entry.2)

def RecordsReadable (protocolParser : ProtocolParser) (frame : Frame) (ws : List WireRecord) :
    Prop :=
  if frame.codecId = 0x10 then ∀ w ∈ ws, w.priority ≤ 2 ∧ w.ioIds.Nodup
  else LibReadable ws (protocolParser frame.bytes)

/-- A frame without records, or one whose records can be read: those of codec 16 have a priority in
range and no two IO elements with one id. -/
def Frame.Readable (protocolParser : ProtocolParser) (frame : Frame) : Prop :=
  ∀ ws : List WireRecord, (∀ w ∈ ws, w.WellFormed (shapeOf frame.codecId)) →
    frame.body = ws.flatMap WireRecord.bytes → ws ≠ [] → RecordsReadable protocolParser frame ws

/-! ## Computations that return -/

/-- A computation that does not throw. -/
def Returns {α : Type} (m : Except CodecError α) : Prop := ∃ a, m = .ok a

section Returns

variable {α β : Type}

variable {m : Except CodecError α} {f : α → Except CodecError β}

lemma Returns.bind (hm : Returns m) (hf : ∀ a, m = .ok a → Returns (f a)) : Returns (m >>= f) := by
  obtain ⟨a, rfl⟩ := hm
  exact hf a rfl

lemma returns_check_iff {c : Prop} [Decidable c] {e : CodecError} :
    Returns (if c then .error e else m) ↔ ¬ c ∧ Returns m := by
  split
  · rename_i hc
    exact ⟨fun ⟨_, h⟩ => (nomatch h), fun h => absurd hc h.1⟩
  · rename_i hc
    exact ⟨fun h => ⟨hc, h⟩, fun h => h.2⟩

lemma returns_mapM_iff {l : List α} : Returns (l.mapM f) ↔ ∀ a ∈ l, Returns (f a) := by
  induction l with
  | nil => exact ⟨fun _ => nofun, fun _ => ⟨[], rfl⟩⟩
  | cons a l ih =>
    rw [mapM_cons]
    constructor
    · rintro ⟨bs, h⟩
      obtain ⟨b, hb, h⟩ := bind_eq_ok h
      obtain ⟨bs', hbs, -⟩ := bind_eq_ok h
      intro a' ha'
      rcases mem_cons.mp ha' with rfl | ha'
      · exact ⟨b, hb⟩
      · exact ih.mp ⟨bs', hbs⟩ a' ha'
    · intro h
      refine .bind (h a mem_cons_self) fun b _ => ?_
      refine .bind (ih.mpr fun a' ha' => h a' (mem_cons_of_mem _ ha')) fun bs _ => ?_
      exact ⟨b :: bs, rfl⟩

/-- Where each element is read by a function that is known, so is the list. -/
lemma mapM_map_eq {γ : Type} {p : γ → α} {g : γ → β} {l : List γ} (h : ∀ c ∈ l, f (p c) = .ok
    (g c)) :
    (l.map p).mapM f = .ok (l.map g) := by
  induction l with
  | nil => rfl
  | cons c l ih =>
    rw [map_cons, mapM_cons, h c mem_cons_self, ih fun c' hc' => h c' (mem_cons_of_mem _ hc')]
    rfl

end Returns

variable {width off : ℕ} {buf : Bytes}

lemma returns_readUInt (h : off + width ≤ buf.length) : Returns (readUInt width buf off) :=
  returns_check_iff.mpr ⟨Nat.not_lt.mpr h, _, rfl⟩

lemma returns_readInt (h : off + width ≤ buf.length) : Returns (readInt width buf off) :=
  .bind (returns_readUInt h) fun _ _ => ⟨_, rfl⟩

/-! ## One record -/

section SetIo

variable {α : Type}

lemma mem_setIo {io : List (ℕ × α)} {id k : ℕ} {v x : α} :
    (k, v) ∈ setIo io id x ↔ (k = id ∧ v = x) ∨ (k ≠ id ∧ (k, v) ∈ io) := by
  unfold setIo
  split
  · rename_i hany
    obtain ⟨entry, hentry, hid⟩ := any_eq_true.mp hany
    have hid : entry.1 = id := of_decide_eq_true hid
    rw [mem_map]
    constructor
    · rintro ⟨e, he, heq⟩
      split at heq
      · cases heq
        exact .inl ⟨rfl, rfl⟩
      · rename_i hne
        obtain rfl := heq
        exact .inr ⟨hne, he⟩
    · rintro (⟨rfl, rfl⟩ | ⟨hne, hmem⟩)
      · exact ⟨entry, hentry, if_pos hid⟩
      · exact ⟨(k, v), hmem, if_neg hne⟩
  · rename_i hany
    rw [mem_append, mem_singleton, Prod.mk.injEq]
    constructor
    · rintro (hmem | heq)
      · refine .inr ⟨fun hk => hany ?_, hmem⟩
        exact any_eq_true.mpr ⟨(k, v), hmem, decide_eq_true hk⟩
      · exact .inl heq
    · rintro (heq | ⟨-, hmem⟩)
      · exact .inr heq
      · exact .inl hmem

/-- The elements of variable length override what was there, and nothing else. -/
lemma none_mem_override {nx : List (ℕ × Bytes)} {io : List (ℕ × Option IoValue)} {id : ℕ} :
    (id, none) ∈ nx.foldl (fun io (id, buf) => setIo io id (some (.buffer buf))) io ↔
      (id, none) ∈ io ∧ id ∉ nx.map Prod.fst := by
  induction nx generalizing io with
  | nil => simp
  | cons e nx ih =>
    have hset : ((id, none) ∈ setIo io e.1 (some (.buffer e.2))) ↔ id ≠ e.1 ∧ (id, none) ∈ io := by
      rw [mem_setIo]
      exact ⟨fun h => h.resolve_left fun h => (nomatch h.2), .inr⟩
    show (id, none) ∈ nx.foldl _ (setIo io e.1 (some (.buffer e.2))) ↔ _
    rw [ih, hset, map_cons, mem_cons, not_or]
    exact ⟨fun ⟨⟨hne, hmem⟩, hnot⟩ => ⟨hmem, hne, hnot⟩,
      fun ⟨hmem, hne, hnot⟩ => ⟨⟨hne, hmem⟩, hnot⟩⟩

end SetIo

section OneRecord

variable {codecId : ℕ} {w : WireRecord}

variable {shape : RecordShape}

lemma WireRecord.WellFormed.length_head_le (hw : w.WellFormed shape) :
    24 + shape.eventIdSize + (if shape.generationType then 1 else 0) ≤ w.bytes.length := by
  have hlength : w.bytes.length = w.head.length + (w.groups.flatMap ioBytes).length +
      (w.nx.elim [] nxBytes).length := by
    rw [WireRecord.bytes, length_append, length_append]
  have hhead : w.head.length = 24 + shape.eventIdSize + (if shape.generationType then 1 else 0) +
      shape.countSize := by
    rw [WireRecord.head, length_append, length_append, length_append, hw.fixed,
      hw.event, hw.generation, hw.total]
  omega

lemma WireRecord.WellFormed.byteAt_bytes (hw : w.WellFormed shape) :
    byteAt w.bytes 8 = w.priority := by
  have hbytes : w.bytes = w.fixed ++ (w.event ++ w.generation ++ w.total ++
      w.groups.flatMap ioBytes ++ w.nx.elim [] nxBytes) := by
    simp only [WireRecord.bytes, WireRecord.head, append_assoc]
  have hlong : 8 < w.fixed.length := by
    rw [hw.fixed]
    decide
  unfold byteAt WireRecord.priority byteAt
  rw [hbytes, getD_eq_getElem?_getD, getElem?_append_left hlong, ← getD_eq_getElem?_getD]

lemma nxElements_eq_nil (hw : w.WellFormed shape) (hshape : shape.nxGroup = false) :
    w.nxElements = [] := by
  have hnx : w.nx = none := Option.not_isSome_iff_eq_none.mp (by rw [hw.nx.1, hshape]; decide)
  rw [WireRecord.nxElements, hnx]
  rfl

lemma nxOf_bytes (hcodec : Supported codecId) (hw : w.WellFormed (shapeOf codecId)) :
    nxOf codecId w.bytes = .ok (w.nxElements.map fun e => (readUIntBE 2 e.id, e.data)) := by
  rcases hcodec with rfl | rfl | rfl
  · rw [nxElements_eq_nil hw rfl]
    rfl
  · exact extractNx8e_bytes hw
  · rw [nxElements_eq_nil hw rfl]
    rfl

lemma returns_generationOf (hcodec : Supported codecId) (hw : w.WellFormed (shapeOf codecId)) :
    Returns (generationOf codecId w.bytes) := by
  have hlength := hw.length_head_le
  rcases hcodec with rfl | rfl | rfl
  · exact ⟨none, rfl⟩
  · exact ⟨none, rfl⟩
  · have hlong : ¬ w.bytes.length < 27 := Nat.not_lt.mpr hlength
    refine ⟨some (byteAt w.bytes 26), ?_⟩
    show some <$> (if w.bytes.length < 27 then _ else _) = _
    rw [if_neg hlong]
    rfl

lemma returns_eventIoIdOf (hcodec : Supported codecId) (hw : w.WellFormed (shapeOf codecId)) :
    Returns (eventIoIdOf codecId w.bytes) := by
  have hlength := hw.length_head_le
  rcases hcodec with rfl | rfl | rfl
  · exact returns_readUInt hlength
  · exact returns_readUInt hlength
  · exact returns_readUInt ((Nat.le_succ 26).trans hlength)

/-- **One record**: after the walk there are no other errors than those of the priority and of the
values. -/
lemma returns_parseRecord_iff (hcodec : Supported codecId) (hw : w.WellFormed (shapeOf codecId))
    (io : List (ℕ × Option IoValue)) :
    Returns (parseRecord codecId w.bytes io) ↔ w.Readable io := by
  have hlong : 24 ≤ w.bytes.length :=
    ((Nat.le_add_right _ _).trans (Nat.le_add_right _ _)).trans hw.length_head_le
  have hids : (w.nxElements.map fun e => (readUIntBE 2 e.id, e.data)).map Prod.fst = w.nxIds := by
    rw [map_map]
    rfl
  have hvalues : (¬ (((w.nxElements.map fun e => (readUIntBE 2 e.id, e.data)).foldl
      (fun io (id, buf) => setIo io id (some (.buffer buf))) io).any (·.2.isNone) = true)) ↔
        ∀ id, (id, none) ∈ io → id ∈ w.nxIds := by
    rw [any_eq_true]
    constructor
    · intro h id hid
      by_contra hnot
      exact h ⟨(id, none), none_mem_override.mpr ⟨hid, hids ▸ hnot⟩, rfl⟩
    · rintro h ⟨⟨id, v⟩, hmem, hnone⟩
      obtain rfl : v = none := Option.isNone_iff_eq_none.mp hnone
      obtain ⟨hid, hnot⟩ := none_mem_override.mp hmem
      exact hnot (hids.symm ▸ h id hid)
  unfold parseRecord
  dsimp only
  rw [nxOf_bytes hcodec hw, hw.byteAt_bytes]
  constructor
  · rintro ⟨r, h⟩
    obtain ⟨tsMs, -, h⟩ := bind_eq_ok h
    obtain ⟨hpriority, h⟩ := check_eq_ok h
    obtain ⟨hio, -⟩ := check_eq_ok h
    exact ⟨Nat.not_lt.mp hpriority, hvalues.mp hio⟩
  · rintro ⟨hpriority, hio⟩
    refine .bind (returns_readUInt ((by decide : 0 + 8 ≤ 24).trans hlong)) fun tsMs _ => ?_
    refine returns_check_iff.mpr ⟨Nat.not_lt.mpr hpriority, ?_⟩
    refine returns_check_iff.mpr ⟨hvalues.mpr hio, ?_⟩
    refine .bind (returns_readInt ((by decide : 9 + 4 ≤ 24).trans hlong)) fun lon _ => ?_
    refine .bind (returns_readInt ((by decide : 13 + 4 ≤ 24).trans hlong)) fun lat _ => ?_
    refine .bind (returns_readInt ((by decide : 17 + 2 ≤ 24).trans hlong)) fun altitude _ => ?_
    refine .bind (returns_readUInt ((by decide : 19 + 2 ≤ 24).trans hlong)) fun angle _ => ?_
    refine .bind (returns_readUInt ((by decide : 22 + 2 ≤ 24).trans hlong)) fun speed _ => ?_
    refine .bind (returns_eventIoIdOf hcodec hw) fun eventIoId _ => ?_
    exact .bind (returns_generationOf hcodec hw) fun generationType _ => ⟨_, rfl⟩

end OneRecord

/-! ## The records of a frame -/

section Records

variable {codecId : ℕ} {ws : List WireRecord}

lemma returns_records_iff (hcodec : Supported codecId)
    (hws : ∀ w ∈ ws, w.WellFormed (shapeOf codecId)) (ios : List (List (ℕ × Option IoValue))) :
    Returns (((ws.map WireRecord.bytes).zip ios).mapM fun (raw, io) => parseRecord codecId raw io) ↔
      ∀ entry ∈ ws.zip ios, entry.1.Readable entry.2 := by
  rw [returns_mapM_iff, zip_map_left, forall_mem_map]
  refine forall₂_congr fun entry hentry => ?_
  exact returns_parseRecord_iff hcodec (hws _ (of_mem_zip hentry).1) entry.2

/-- The records of codec 16, which are not left to the wrapped parser. -/
lemma returns_io16_iff (hws : ∀ w ∈ ws, w.WellFormed SHAPE_16) :
    Returns (do
      let io ← (ws.map WireRecord.bytes).mapM fun raw => do
        let io ← extractIo16 raw
        pure (io.map fun (id, v) => (id, some (IoValue.bigint v)))
      ((ws.map WireRecord.bytes).zip io).mapM fun (raw, io) => parseRecord 0x10 raw io) ↔
      ∀ w ∈ ws, w.priority ≤ 2 ∧ w.ioIds.Nodup := by
  let io (w : WireRecord) := (ioEntries [1, 2, 4, 8] w.groups).map
    fun (id, v) => (id, some (IoValue.bigint v))
  have hreadable : (∀ entry ∈ ws.zip (ws.map io), entry.1.Readable entry.2) ↔
      ∀ w ∈ ws, w.priority ≤ 2 := by
    rw [show ws.zip (ws.map io) = ws.map fun w => (w, io w) by
      rw [← zip_map', map_id'], forall_mem_map]
    refine forall₂_congr fun w hw => ⟨And.left, fun hpriority => ⟨hpriority, fun id hid => ?_⟩⟩
    obtain ⟨e, -, he⟩ := mem_map.mp hid
    exact nomatch (Prod.mk.inj he).2
  have hextract : ∀ w ∈ ws, w.ioIds.Nodup → (do
      let io ← extractIo16 w.bytes
      pure (io.map fun (id, v) => (id, some (IoValue.bigint v))) :
        Except CodecError (List (ℕ × Option IoValue))) = .ok (io w) := by
    intro w hw hnodup
    rw [extractIo16_bytes (hws w hw),
      if_pos (show (w.ioElements.map fun e => readUIntBE 2 e.id).Nodup from hnodup)]
    rfl
  constructor
  · rintro ⟨records, h⟩
    obtain ⟨ios, hios, h⟩ := bind_eq_ok h
    have hnodup : ∀ w ∈ ws, w.ioIds.Nodup := by
      intro w hw
      have hreturns := returns_mapM_iff.mp ⟨ios, hios⟩ w.bytes (mem_map_of_mem hw)
      by_contra hnodup
      rw [extractIo16_bytes (hws w hw),
        if_neg (show ¬ (w.ioElements.map fun e => readUIntBE 2 e.id).Nodup from hnodup)] at hreturns
      obtain ⟨io, hio⟩ := hreturns
      cases hio
    rw [mapM_map_eq fun w hw => hextract w hw (hnodup w hw)] at hios
    cases hios
    have hpriority := hreadable.mp ((returns_records_iff (.inr (.inr rfl)) hws _).mp ⟨records, h⟩)
    exact fun w hw => ⟨hpriority w hw, hnodup w hw⟩
  · intro h
    rw [mapM_map_eq fun w hw => hextract w hw (h w hw).2]
    exact (returns_records_iff (.inr (.inr rfl)) hws _).mpr (hreadable.mpr fun w hw => (h w hw).1)

end Records

/-! ## The answer of the wrapped parser -/

lemma normalizeIoValue_eq {value : LibValue} (h : value ≠ .other) :
    normalizeIoValue value = .ok value.decoded := by
  cases value with
  | string s =>
    unfold LibValue.decoded normalizeIoValue
    dsimp only
    cases bigIntOf s.toList <;> rfl
  | other => exact absurd rfl h
  | _ => rfl

variable {elements : LibAvlData}

lemma foldlM_decoded (h : ∀ e ∈ elements, e.2 ≠ .other) (io : List (ℕ × Option IoValue)) :
    (elements.foldlM (fun io entry => do
      let value ← normalizeIoValue entry.2
      pure (setIo io entry.1 value)) io : Except CodecError _) =
      .ok ((elements.map fun e => (e.1, e.2.decoded)).foldl (fun io e => setIo io e.1 e.2) io) := by
  induction elements generalizing io with
  | nil => rfl
  | cons e elements ih =>
    rw [foldlM_cons, normalizeIoValue_eq (h e mem_cons_self)]
    exact ih (fun e' he' => h e' (mem_cons_of_mem _ he')) _

lemma supported_of_foldlM {io io' : List (ℕ × Option IoValue)}
    (h : (elements.foldlM (fun io entry => do
      let value ← normalizeIoValue entry.2
      pure (setIo io entry.1 value)) io : Except CodecError _) = .ok io') :
    ∀ e ∈ elements, e.2 ≠ .other := by
  induction elements generalizing io with
  | nil => exact nofun
  | cons e elements ih =>
    rw [foldlM_cons] at h
    obtain ⟨io₁, hset, h⟩ := bind_eq_ok h
    obtain ⟨value, hvalue, -⟩ := bind_eq_ok hset
    intro e' he' hother
    rcases mem_cons.mp he' with rfl | he'
    · rw [hother] at hvalue
      cases hvalue
    · exact ih h e' he' hother

/-! ## Acknowledged frames -/

lemma acknowledged_iff_returns {n codec : ℕ} {m : Except CodecError (List AvlRecord)}
    (hthrows : Throws Structural m) (hlength : ∀ records, m = .ok records → records.length = n) :
    Acknowledged n (m >>= fun records => .ok (.avl codec records)) ↔ Returns m := by
  constructor
  · rintro (⟨codec', records, h, -⟩ | h)
    · obtain ⟨records', hm, -⟩ := bind_eq_ok h
      exact ⟨records', hm⟩
    · cases m with
      | error e => rcases hthrows e rfl with rfl | rfl <;> cases h
      | ok records => cases h
  · rintro ⟨records, rfl⟩
    exact .inl ⟨codec, records, rfl, hlength records rfl⟩

section Answers

variable {codecId : ℕ} {ws : List WireRecord}

lemma throws_records (slices : List Bytes) (ios : List (List (ℕ × Option IoValue))) :
    Throws Structural ((slices.zip ios).mapM fun (raw, io) => parseRecord codecId raw io) :=
  .mapM fun _ _ => throws_parseRecord _ _ _

lemma length_records {slices : List Bytes} {ios : List (List (ℕ × Option IoValue))}
    {records : List AvlRecord} (hcount : ios.length = slices.length)
    (h : (slices.zip ios).mapM (fun (raw, io) => parseRecord codecId raw io) = .ok records) :
    records.length = slices.length := by
  rw [length_mapM h, length_zip, hcount, Nat.min_self]

lemma returns_decoded_iff (hcodec : Supported codecId)
    (hws : ∀ w ∈ ws, w.WellFormed (shapeOf codecId)) (rawDatas : List LibAvlData) :
    Returns (do
      let io ← rawDatas.mapM fun elements => elements.foldlM (fun io entry => do
        let value ← normalizeIoValue entry.2
        pure (setIo io entry.1 value)) []
      ((ws.map WireRecord.bytes).zip io).mapM fun (raw, io) => parseRecord codecId raw io) ↔
      (∀ elements ∈ rawDatas, ∀ e ∈ elements, e.2 ≠ .other) ∧
        ∀ entry ∈ ws.zip rawDatas, entry.1.Readable (decodedIo entry.2) := by
  have hdecoded : (∀ elements ∈ rawDatas, ∀ e ∈ elements, e.2 ≠ .other) →
      (rawDatas.mapM fun elements => elements.foldlM (fun io entry => do
        let value ← normalizeIoValue entry.2
        pure (setIo io entry.1 value)) [] : Except CodecError _) =
          .ok (rawDatas.map decodedIo) := by
    intro h
    have hmap := mapM_map_eq (p := id) (g := decodedIo) (l := rawDatas)
      fun elements helements => foldlM_decoded (h elements helements) []
    rwa [map_id] at hmap
  have hreadable : Returns (((ws.map WireRecord.bytes).zip (rawDatas.map decodedIo)).mapM
      fun (raw, io) => parseRecord codecId raw io) ↔
        ∀ entry ∈ ws.zip rawDatas, entry.1.Readable (decodedIo entry.2) := by
    rw [returns_records_iff hcodec hws, zip_map_right, forall_mem_map]
    rfl
  constructor
  · rintro ⟨records, h⟩
    obtain ⟨ios, hios, h⟩ := bind_eq_ok h
    have hsupported : ∀ elements ∈ rawDatas, ∀ e ∈ elements, e.2 ≠ .other := by
      intro elements helements
      obtain ⟨io, hio⟩ := returns_mapM_iff.mp ⟨ios, hios⟩ elements helements
      exact supported_of_foldlM hio
    rw [hdecoded hsupported] at hios
    cases hios
    exact ⟨hsupported, hreadable.mp ⟨records, h⟩⟩
  · rintro ⟨hsupported, hentries⟩
    rw [hdecoded hsupported]
    exact hreadable.mpr hentries

lemma acknowledged_lib_iff (hcodec : Supported codecId)
    (hws : ∀ w ∈ ws, w.WellFormed (shapeOf codecId)) (protocolParser : ProtocolParser)
    (bytes : Bytes) (codec : ℕ) :
    Acknowledged ws.length (do
      let io ← decodeIoWithLib protocolParser bytes ws.length
      let records ← ((ws.map WireRecord.bytes).zip io).mapM
        fun (raw, io) => parseRecord codecId raw io
      .ok (.avl codec records)) ↔ LibReadable ws (protocolParser bytes) := by
  unfold decodeIoWithLib
  rcases protocolParser bytes with msg | _ | rawDatas
  · cases hcrc : mentionsCrc msg with
    | true =>
      dsimp only
      rw [if_pos hcrc]
      refine ⟨?_, fun h => nomatch hcrc.symm.trans h⟩
      rintro (⟨codec', records, h, -⟩ | h) <;> cases h
    | false =>
      dsimp only
      rw [if_neg (by rw [hcrc]; exact Bool.false_ne_true)]
      exact ⟨fun _ => hcrc, fun _ => .inr rfl⟩
  · exact ⟨fun _ => trivial, fun _ => .inr rfl⟩
  · dsimp only
    by_cases hcount : rawDatas.length = ws.length
    · have hthrows : Throws Structural (rawDatas.mapM fun elements =>
          elements.foldlM (fun io entry => do
            let value ← normalizeIoValue entry.2
            pure (setIo io entry.1 value)) []) := by
        refine .mapM fun elements _ => .foldlM (fun io entry _ => ?_) []
        exact .bind (throws_normalizeIoValue entry.2) fun _ _ => .ok _
      rw [if_neg (not_not_intro hcount), ← bind_assoc,
        acknowledged_iff_returns (.bind hthrows fun ios _ => throws_records _ ios),
        returns_decoded_iff hcodec hws]
      · exact ⟨fun h _ => h, fun h => h hcount⟩
      · intro records h
        obtain ⟨ios, hios, h⟩ := bind_eq_ok h
        rw [length_records ((length_mapM hios).trans (hcount.trans (length_map _).symm)) h,
          length_map]
    · rw [if_pos hcount]
      exact ⟨fun _ h => absurd h hcount, fun _ => .inr rfl⟩

lemma acknowledged_io16_iff (hws : ∀ w ∈ ws, w.WellFormed SHAPE_16) (codec : ℕ) :
    Acknowledged ws.length (do
      let io ← (ws.map WireRecord.bytes).mapM fun raw => do
        let io ← extractIo16 raw
        pure (io.map fun (id, v) => (id, some (IoValue.bigint v)))
      let records ← ((ws.map WireRecord.bytes).zip io).mapM fun (raw, io) => parseRecord 0x10 raw io
      .ok (.avl codec records)) ↔ ∀ w ∈ ws, w.priority ≤ 2 ∧ w.ioIds.Nodup := by
  have hthrows : Throws Structural ((ws.map WireRecord.bytes).mapM fun raw => do
      let io ← extractIo16 raw
      pure (io.map fun (id, v) => (id, some (IoValue.bigint v)))) :=
    .mapM fun raw _ => .bind (throws_extractIo16 raw) fun _ _ => .ok _
  rw [← bind_assoc,
    acknowledged_iff_returns (.bind hthrows fun ios _ => throws_records _ ios),
    returns_io16_iff hws]
  intro records h
  obtain ⟨ios, hios, h⟩ := bind_eq_ok h
  rw [length_records (length_mapM hios) h, length_map]

end Answers

lemma parseFrame_sound {frame : Frame} (h : frame.Sound) {slices : List Bytes}
    (hwalk : walkRecords frame.body (shapeOf frame.codecId) = .ok slices)
    (hcount : slices.length = frame.declaredCount) (protocolParser : ProtocolParser) :
    parseFrame protocolParser frame =
      if frame.declaredCount = 0 then .ok (.avl (codecOf frame.codecId) [])
      else (do
        let io ← ioPerRecord protocolParser frame.bytes frame.codecId slices.length slices
        let records ← (slices.zip io).mapM fun (raw, io) => parseRecord frame.codecId raw io
        .ok (.avl (codecOf frame.codecId) records)) := by
  have hlength := h.length
  have hlen : readUInt 4 frame.bytes 4 = .ok frame.dataLen := if_neg (by omega)
  have hcrc : readUInt 4 frame.bytes (8 + frame.dataLen) =
      .ok (readUIntBE 4 (frame.bytes.drop (8 + frame.dataLen))) := if_neg (by omega)
  unfold parseFrame
  rw [h.kind]
  dsimp only
  rw [hlen]
  show (if frame.bytes.length ≠ 8 + frame.dataLen + 4 then _ else _) = _
  rw [if_neg (not_not_intro h.length), hcrc]
  show (if crc16ibm (subarray frame.bytes 8 (8 + frame.dataLen)) ≠
    readUIntBE 4 (frame.bytes.drop (8 + frame.dataLen)) then _ else _) = _
  rw [if_neg (not_not_intro h.crc)]
  show (if frame.codecId = 0x08 ∨ frame.codecId = 0x8e ∨ frame.codecId = 0x10 then
    parseAvl protocolParser frame.bytes frame.dataLen frame.codecId else _) = _
  rw [if_pos (show frame.codecId = 0x08 ∨ frame.codecId = 0x8e ∨ frame.codecId = 0x10 from h.codec)]
  unfold parseAvl
  dsimp only
  rw [if_neg (not_not_intro h.counts)]
  show (if frame.declaredCount = 0 then _ else _) = _
  split
  · rfl
  · show (walkRecords frame.body (shapeOf frame.codecId) >>= _) = _
    rw [hwalk]
    show (if slices.length ≠ frame.declaredCount then _ else _) = _
    rw [if_neg (not_not_intro hcount), hcount]
    rfl

/-- **A frame whose structure is sound** is stored or parked if and only if it has no records or
they can be read. -/
theorem sound_acknowledged_iff (protocolParser : ProtocolParser) (frame : Frame)
    (hsound : frame.Sound) :
    Acknowledged frame.declaredCount (parseFrame protocolParser frame) ↔
      frame.Readable protocolParser := by
  obtain ⟨slices, hwalk, hcount⟩ := hsound.split
  have hdecomposed : ∀ ws : List WireRecord,
      (∀ w ∈ ws, w.WellFormed (shapeOf frame.codecId)) →
      frame.body = ws.flatMap WireRecord.bytes → slices = ws.map WireRecord.bytes := by
    intro ws hws hbody
    have hwalk' := walkRecords_eq_ok_iff.mpr ⟨ws, hws, hbody, rfl⟩
    exact Except.ok.inj (hwalk.symm.trans hwalk')
  have hiff : ∀ ws : List WireRecord, (∀ w ∈ ws, w.WellFormed (shapeOf frame.codecId)) →
      slices = ws.map WireRecord.bytes → ws ≠ [] →
      (Acknowledged frame.declaredCount (parseFrame protocolParser frame) ↔
        RecordsReadable protocolParser frame ws) := by
    rintro ws hws rfl hsome
    rw [length_map] at hcount
    have hpositive : frame.declaredCount ≠ 0 := by
      rw [← hcount]
      exact fun hzero => hsome (length_eq_zero_iff.mp hzero)
    rw [parseFrame_sound hsound hwalk (by rw [length_map, hcount]), if_neg hpositive,
      ← hcount, length_map]
    unfold ioPerRecord RecordsReadable
    by_cases hcodec : frame.codecId = 0x10
    · rw [if_pos hcodec, if_pos hcodec]
      rw [hcodec] at hws ⊢
      exact acknowledged_io16_iff hws _
    · rw [if_neg hcodec, if_neg hcodec]
      exact acknowledged_lib_iff hsound.codec hws _ _ _
  obtain ⟨ws, hws, hbody, hslices⟩ := walkRecords_eq_ok_iff.mp hwalk
  constructor
  · intro hack ws' hws' hbody' hsome
    exact (hiff ws' hws' (hdecomposed ws' hws' hbody') hsome).mp hack
  · intro hreadable
    by_cases hsome : ws = []
    · have hnone : frame.declaredCount = 0 := by
        rw [← hcount, hslices, hsome]
        rfl
      rw [parseFrame_sound hsound hwalk hcount, if_pos hnone]
      exact .inl ⟨_, [], rfl, hnone.symm⟩
    · exact (hiff ws hws hslices hsome).mpr (hreadable ws hws hbody hsome)

/-! ## A frame that is answered with a count of 0 -/

/-- A frame with one record, of a codec, with a priority, the fields from the event on to the
counts, and two IO elements of one byte each. -/
def twoElements (codecId priority : UInt8) (event elements : Bytes) : Frame :=
  ⟨.avl, wrapAsTcpFrame ([codecId, 1] ++ (replicate 8 0 ++ [priority] ++
    replicate 15 0 ++ event ++ [2, 2] ++ elements ++ [0, 0, 0]) ++ [1])⟩

/-- A priority of 3, in codec 8. -/
theorem sound_acknowledged_priority :
    let frame := twoElements 0x08 3 [1] [1, 5, 2, 6]
    let protocolParser : ProtocolParser := fun _ =>
      .ok (some [[(1, .number (some 5)), (2, .number (some 6))]])
    frame.Sound ∧ ¬ frame.Readable protocolParser ∧
      ¬ Acknowledged 1 (parseFrame protocolParser frame) := by
  intro frame protocolParser
  have hsound : frame.Sound :=
    ⟨rfl, by decide, by decide +kernel, .inl rfl, by decide +kernel,
      ⟨[frame.body], by decide +kernel, by decide +kernel⟩⟩
  have hparse : parseFrame protocolParser frame = .error .frame := by decide +kernel
  have hnot : ¬ Acknowledged 1 (parseFrame protocolParser frame) := by
    rw [hparse]
    rintro (⟨codec, records, h, -⟩ | h) <;> cases h
  exact ⟨hsound, fun h => hnot ((sound_acknowledged_iff protocolParser frame hsound).mpr h), hnot⟩

/-- Two IO elements with one id, in codec 16: whatever the wrapped parser does, the frame is neither
stored nor parked. -/
theorem sound_not_acknowledged :
    ¬ ∀ (protocolParser : ProtocolParser) (frame : Frame), frame.Sound →
      Acknowledged frame.declaredCount (parseFrame protocolParser frame) := by
  intro h
  let frame := twoElements 0x10 0 [0, 1, 7] [0, 1, 5, 0, 1, 6]
  have hsound : frame.Sound :=
    ⟨rfl, by decide, by decide +kernel, .inr (.inr rfl), by decide +kernel,
      ⟨[frame.body], by decide +kernel, by decide +kernel⟩⟩
  have hack := h (fun _ => .error "unknown codec") frame hsound
  rw [show parseFrame (fun _ => .error "unknown codec") frame = .error .frame by
    decide +kernel] at hack
  rcases hack with ⟨codec, records, hparse, -⟩ | hparse <;> cases hparse

end Orbetra.Codec
