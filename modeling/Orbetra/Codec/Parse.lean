import Orbetra.Codec.Frame
import Orbetra.Records

/-!
# Frames and what they carry

`parseFrame` with `walkRecords`, `extractNx8e`, `extractIo16` and `decodeIoWithLib`, and the header
of a UDP datagram.  The wrapped parser is a parameter.

An AVL frame that is parsed carries as many records as it declares, and so does one whose records
cannot be decoded (`parseFrame_avl`, `parseFrame_undecodable`). -/

namespace Orbetra.Codec

open List

/-! ## Packets -/

inductive IoValue
  | bigint (n : ℤ)
  | buffer (bytes : Bytes)
  deriving DecidableEq

/-- `AvlRecord`; the coordinates are in units of 1e-7 degrees. -/
structure AvlRecord where
  tsMs : ℕ
  priority : ℕ
  lat : ℤ
  lon : ℤ
  altitude : ℤ
  angle : ℕ
  satellites : ℕ
  speed : ℕ
  eventIoId : ℕ
  generationType : Option ℕ
  io : List (ℕ × IoValue)
  raw : Bytes
  deriving DecidableEq

inductive ParsedPacket
  | imei (imei : String)
  | avl (codec : ℕ) (records : List AvlRecord)
  | cmdResponse (codec : ℕ) (text : String) (nack : Bool)
  deriving DecidableEq

/-- A value that the wrapped parser yields. -/
inductive LibValue
  | bigint (n : ℤ)
  /-- A number, where it is an integer. -/
  | number (n : Option ℤ)
  | boolean (b : Bool)
  | string (s : String)
  | buffer (bytes : Bytes)
  | other
  deriving DecidableEq

/-- The entries of `IOelement.Elements`, empty where there are none. -/
abbrev LibAvlData := List (ℕ × LibValue)

/-- `ProtocolParser`: it throws with a message, or yields `Content.AVL_Datas`, where that is an
array. -/
abbrev ProtocolParser := Bytes → Except String (Option (List LibAvlData))

/-! ## Bytes -/

def crcBit (crc : ℕ) : ℕ := if crc % 2 = 1 then crc / 2 ^^^ 0xa001 else crc / 2

def crc16ibm (buf : Bytes) : ℕ := buf.foldl (fun crc b => crcBit^[8] (crc ^^^ b.toNat)) 0

def subarray (buf : Bytes) (start stop : ℕ) : Bytes := (buf.take stop).drop start

def byteAt (buf : Bytes) (off : ℕ) : ℕ := (buf.getD off 0).toNat

/-- An unsigned number at an offset; one beyond the end of the buffer is a `RangeError`. -/
def readUInt (width : ℕ) (buf : Bytes) (off : ℕ) : Except CodecError ℕ :=
  if buf.length < off + width then .error .other else .ok (readUIntBE width (buf.drop off))

/-- A number in two's complement. -/
def readInt (width : ℕ) (buf : Bytes) (off : ℕ) : Except CodecError ℤ := do
  let n ← readUInt width buf off
  pure (if 2 * n < 256 ^ width then (n : ℤ) else (n : ℤ) - 256 ^ width)

/-! ## The boundaries of the records -/

structure RecordShape where
  idSize : ℕ
  countSize : ℕ
  eventIdSize : ℕ
  generationType : Bool
  nxGroup : Bool
  deriving DecidableEq

def SHAPE_8 : RecordShape := ⟨1, 1, 1, false, false⟩

def SHAPE_8E : RecordShape := ⟨2, 2, 2, false, true⟩

def SHAPE_16 : RecordShape := ⟨2, 1, 2, true, false⟩

def need (n : ℕ) (rest : Bytes) : Except CodecError Bytes :=
  if rest.length < n then .error .frame else .ok (rest.drop n)

def readWidth (w : ℕ) (rest : Bytes) : Except CodecError (ℕ × Bytes) := do
  let after ← need w rest
  pure (readUIntBE w rest, after)

/-- The groups of fixed width: how many elements they carry, and the bytes after them. -/
def walkGroups (shape : RecordShape) : List ℕ → Bytes → Except CodecError (ℕ × Bytes)
  | [], rest => .ok (0, rest)
  | valueSize :: sizes, rest => do
    let (cnt, rest) ← readWidth shape.countSize rest
    let rest ← need (cnt * (shape.idSize + valueSize)) rest
    let (elements, rest) ← walkGroups shape sizes rest
    pure (cnt + elements, rest)

/-- The elements of the NX group. -/
def walkNx : ℕ → Bytes → Except CodecError Bytes
  | 0, rest => .ok rest
  | cnt + 1, rest => do
    let after ← need (2 + 2) rest
    let after ← need (readUIntBE 2 (rest.drop 2)) after
    walkNx cnt after

def walkNxGroup (shape : RecordShape) (rest : Bytes) : Except CodecError (ℕ × Bytes) :=
  if shape.nxGroup then do
    let (cnt, rest) ← readWidth shape.countSize rest
    let rest ← walkNx cnt rest
    pure (cnt, rest)
  else .ok (0, rest)

def walkRecord (shape : RecordShape) (rest : Bytes) : Except CodecError Bytes := do
  let rest ← need (8 + 1 + 15) rest
  let (_, rest) ← readWidth shape.eventIdSize rest
  let rest ← need (if shape.generationType then 1 else 0) rest
  let (nTotal, rest) ← readWidth shape.countSize rest
  let (elements, rest) ← walkGroups shape [1, 2, 4, 8] rest
  let (cnt, rest) ← walkNxGroup shape rest
  if elements + cnt ≠ nTotal then .error .frame else .ok rest

/-- The records of a region.  Every record has a byte, so that the length of the region is fuel
enough. -/
def walkFuel (shape : RecordShape) : ℕ → Bytes → Except CodecError (List Bytes)
  | _, [] => .ok []
  | 0, _ => .error .other
  | fuel + 1, rest => do
    let after ← walkRecord shape rest
    let records ← walkFuel shape fuel after
    pure (rest.take (rest.length - after.length) :: records)

def walkRecords (data : Bytes) (shape : RecordShape) : Except CodecError (List Bytes) :=
  walkFuel shape data.length data

/-! ## IO elements -/

def setIo {α : Type} (io : List (ℕ × α)) (id : ℕ) (value : α) : List (ℕ × α) :=
  if io.any (·.1 = id) then io.map fun entry => if entry.1 = id then (id, value) else entry
  else io ++ [(id, value)]

def skipGroups8e (record : Bytes) : List ℕ → ℕ → Except CodecError ℕ
  | [], off => .ok off
  | valueSize :: sizes, off => do
    let cnt ← readUInt 2 record off
    skipGroups8e record sizes (off + 2 + cnt * (2 + valueSize))

def nxElements (record : Bytes) : ℕ → ℕ → Except CodecError (List (ℕ × Bytes))
  | 0, _ => .ok []
  | cnt + 1, off => do
    let id ← readUInt 2 record off
    let len ← readUInt 2 record (off + 2)
    let elements ← nxElements record cnt (off + 4 + len)
    pure ((id, subarray record (off + 4) (off + 4 + len)) :: elements)

/-- `extractNx8e`: the elements of variable length, in the order of the wire. -/
def extractNx8e (record : Bytes) : Except CodecError (List (ℕ × Bytes)) := do
  let _ ← readUInt 2 record (24 + 2)
  let off ← skipGroups8e record [1, 2, 4, 8] (24 + 2 + 2)
  let cnt ← readUInt 2 record off
  nxElements record cnt (off + 2)

def io16Group (record : Bytes) (width : ℕ) :
    ℕ → ℕ → List (ℕ × ℤ) → Except CodecError (ℕ × List (ℕ × ℤ))
  | 0, off, io => .ok (off, io)
  | count + 1, off, io =>
    if off + 2 + width > record.length then
      .error .frame
    else do
      let id ← readUInt 2 record off
      let value := (readUIntBE width (record.drop (off + 2)) : ℤ)
      io16Group record width count (off + 2 + width) (setIo io id value)

def io16Groups (record : Bytes) : List ℕ → ℕ → List (ℕ × ℤ) → Except CodecError (List (ℕ × ℤ))
  | [], _, io => .ok io
  | width :: widths, off, io =>
    if off + 1 > record.length then
      .error .frame
    else do
      let (off, io) ← io16Group record width (byteAt record off) (off + 1) io
      io16Groups record widths off io

def extractIo16 (record : Bytes) : Except CodecError (List (ℕ × ℤ)) := do
  let off := 24 + 2 + 1
  if off + 1 > record.length then
    .error .frame
  else
    let total := byteAt record off
    let io ← io16Groups record [1, 2, 4, 8] (off + 1) []
    if io.length ≠ total then .error .frame else .ok io

def generationTypeOf (record : Bytes) : Except CodecError ℕ :=
  if record.length < 27 then .error .frame else .ok (byteAt record 26)

/-! ## Values of the wrapped parser -/

def MAX_SAFE_INTEGER : ℤ := 2 ^ 53 - 1

def hexDigits : List Char := "0123456789abcdefABCDEF".toList

def hexValue (c : Char) : ℕ :=
  if c.isDigit then c.toNat - '0'.toNat
  else if c.isLower then c.toNat - 'a'.toNat + 10
  else c.toNat - 'A'.toNat + 10

def ofDigits (base : ℕ) (digits : List Char) : ℤ :=
  digits.foldl (fun n c => base * n + hexValue c) 0

/-- `BigInt(value)` for a string that `/^-?\d+$/` or `/^0x[0-9a-fA-F]+$/` matches. -/
def bigIntOf : List Char → Option ℤ
  | '0' :: 'x' :: digits =>
    if digits ≠ [] ∧ digits.all (· ∈ hexDigits) then some (ofDigits 16 digits) else none
  | '-' :: digits =>
    if digits ≠ [] ∧ digits.all Char.isDigit then some (-ofDigits 10 digits) else none
  | digits => if digits ≠ [] ∧ digits.all Char.isDigit then some (ofDigits 10 digits) else none

/-- `normalizeIoValue`; `none` is `null`. -/
def normalizeIoValue : LibValue → Except CodecError (Option IoValue)
  | .bigint n => .ok (some (.bigint n))
  | .number n => .ok ((n.filter fun n => decide (|n| ≤ MAX_SAFE_INTEGER)).map .bigint)
  | .boolean b => .ok (some (.bigint (if b then 1 else 0)))
  | .string s =>
    match bigIntOf s.toList with
    | some n => .ok (some (.bigint n))
    | none => .ok (some (.buffer (s.toList.map fun c => UInt8.ofNat c.toNat)))
  | .buffer bytes => .ok (some (.buffer bytes))
  | .other => .error .frame

def mentionsCrc (msg : String) : Bool :=
  (msg.toList.map Char.toLower).tails.any (['c', 'r', 'c'].isPrefixOf ·)

def decodeIoWithLib (protocolParser : ProtocolParser) (bytes : Bytes) (expectedCount : ℕ) :
    Except CodecError (List (List (ℕ × Option IoValue))) :=
  match protocolParser bytes with
  | .error msg => if mentionsCrc msg then .error .crc else .error (.undecodable expectedCount)
  | .ok none => .error (.undecodable expectedCount)
  | .ok (some rawDatas) =>
    if rawDatas.length ≠ expectedCount then
      .error (.undecodable expectedCount)
    else
      rawDatas.mapM fun elements => elements.foldlM (fun io entry => do
        let value ← normalizeIoValue entry.2
        pure (setIo io entry.1 value)) []

/-! ## Frames -/

def codecOf (codecId : ℕ) : ℕ := if codecId = 0x08 then 8 else if codecId = 0x8e then 0x8e else 16

def shapeOf (codecId : ℕ) : RecordShape :=
  if codecId = 0x08 then SHAPE_8 else if codecId = 0x8e then SHAPE_8E else SHAPE_16

/-- The elements of variable length of a record, which only codec 8 extended has. -/
def nxOf (codecId : ℕ) (raw : Bytes) : Except CodecError (List (ℕ × Bytes)) :=
  if codecId = 0x8e then extractNx8e raw else .ok []

def eventIoIdOf (codecId : ℕ) (raw : Bytes) : Except CodecError ℕ :=
  readUInt (if codecId = 0x08 then 1 else 2) raw 24

def generationOf (codecId : ℕ) (raw : Bytes) : Except CodecError (Option ℕ) :=
  if codecId = 0x10 then some <$> generationTypeOf raw else .ok none

def parseRecord (codecId : ℕ) (raw : Bytes) (io : List (ℕ × Option IoValue)) :
    Except CodecError AvlRecord := do
  let tsMs ← readUInt 8 raw 0
  let priority := byteAt raw 8
  if priority > 2 then
    .error .frame
  else
    let nx ← nxOf codecId raw
    -- the elements of variable length override what the wrapped parser made of them
    let io := nx.foldl (fun io (id, buf) => setIo io id (some (.buffer buf))) io
    if io.any (·.2.isNone) then
      .error .frame
    else
      let lon ← readInt 4 raw 9
      let lat ← readInt 4 raw 13
      let altitude ← readInt 2 raw 17
      let angle ← readUInt 2 raw 19
      let speed ← readUInt 2 raw 22
      let eventIoId ← eventIoIdOf codecId raw
      let generationType ← generationOf codecId raw
      pure ⟨tsMs, priority, lat, lon, altitude, angle, byteAt raw 21, speed, eventIoId,
        generationType, io.filterMap fun (id, v) => v.map (id, ·), raw⟩

def ioPerRecord (protocolParser : ProtocolParser) (bytes : Bytes) (codecId n1 : ℕ)
    (rawSlices : List Bytes) : Except CodecError (List (List (ℕ × Option IoValue))) :=
  if codecId = 0x10 then
    rawSlices.mapM fun raw => do
      let io ← extractIo16 raw
      pure (io.map fun (id, v) => (id, some (IoValue.bigint v)))
  else
    decodeIoWithLib protocolParser bytes n1

def parseAvl (protocolParser : ProtocolParser) (bytes : Bytes) (dataLen codecId : ℕ) :
    Except CodecError ParsedPacket := do
  let n1 := byteAt bytes 9
  let n2 := byteAt bytes (8 + dataLen - 1)
  if n1 ≠ n2 then
    .error .frame
  else if n1 = 0 then
    .ok (.avl (codecOf codecId) [])
  else
    let rawSlices ← walkRecords (subarray bytes 10 (8 + dataLen - 1)) (shapeOf codecId)
    if rawSlices.length ≠ n1 then
      .error .frame
    else
      let io ← ioPerRecord protocolParser bytes codecId n1 rawSlices
      let records ← (rawSlices.zip io).mapM fun (raw, io) => parseRecord codecId raw io
      pure (.avl (codecOf codecId) records)

def latin1 (bytes : Bytes) : String := String.ofList (bytes.map fun b => Char.ofNat b.toNat)

def ascii (bytes : Bytes) : String := String.ofList (bytes.map fun b => Char.ofNat (b.toNat % 128))

def parseCommandFrame (bytes : Bytes) (dataLen codecId : ℕ) : Except CodecError ParsedPacket := do
  if dataLen < 7 + 1 then
    .error .frame
  else
    let type := byteAt bytes 10
    let size ← readUInt 4 bytes 11
    let payloadEnd := 15 + size
    if payloadEnd + 1 ≠ 8 + dataLen then
      .error .frame
    else
      let payload := subarray bytes 15 payloadEnd
      let codec := if codecId = 0x0c then 12 else if codecId = 0x0d then 13 else 14
      if codec = 14 ∧ type = 0x11 then
        .ok (.cmdResponse codec "" true)
      else if type ≠ 0x05 ∧ type ≠ 0x06 then
        .error .frame
      else
        let textStart := if codec = 13 then 4 else if codec = 14 then 8 else 0
        if size < textStart then
          .error .frame
        else
          .ok (.cmdResponse codec (latin1 (payload.drop textStart)) false)

/-- `/^\d{8,17}$/` -/
def isImei (imei : String) : Bool :=
  decide (8 ≤ imei.length) && decide (imei.length ≤ 17) && imei.toList.all Char.isDigit

def parseFrame (protocolParser : ProtocolParser) (frame : Frame) :
    Except CodecError ParsedPacket := do
  match frame.kind with
  | .imei =>
    let imei := ascii (frame.bytes.drop 2)
    if isImei imei then .ok (.imei imei) else .error .frame
  | .avl =>
    let bytes := frame.bytes
    let dataLen ← readUInt 4 bytes 4
    if bytes.length ≠ 8 + dataLen + 4 then
      .error .frame
    else
      let crcExpected ← readUInt 4 bytes (8 + dataLen)
      if crc16ibm (subarray bytes 8 (8 + dataLen)) ≠ crcExpected then
        .error .crc
      else
        let codecId := byteAt bytes 8
        if codecId = 0x08 ∨ codecId = 0x8e ∨ codecId = 0x10 then
          parseAvl protocolParser bytes dataLen codecId
        else if codecId = 0x0c ∨ codecId = 0x0d ∨ codecId = 0x0e then
          parseCommandFrame bytes dataLen codecId
        else
          .error .frame

/-! ## Datagrams -/

structure UdpHeader where
  packetId : ℕ
  avlPacketId : ℕ
  imei : String
  avlData : Bytes
  deriving DecidableEq

def MAX_IMEI_BYTES : ℕ := 64

def decodeUdpHeader (datagram : Bytes) : Except CodecError UdpHeader := do
  if datagram.length < 8 then
    .error .frame
  else
    let length ← readUInt 2 datagram 0
    if (length : ℤ) ≠ datagram.length - 2 then
      .error .frame
    else
      let packetId ← readUInt 2 datagram 2
      let avlPacketId := byteAt datagram 5
      let imeiLen ← readUInt 2 datagram 6
      let imeiEnd := 8 + imeiLen
      if imeiLen = 0 ∨ imeiLen > MAX_IMEI_BYTES ∨ datagram.length < imeiEnd then
        .error .frame
      else
        let imei := ascii (subarray datagram 8 imeiEnd)
        if isImei imei then
          .ok ⟨packetId, avlPacketId, imei, datagram.drop imeiEnd⟩
        else
          .error .frame

/-- `writeUInt32BE` -/
def u32 (n : ℕ) : Bytes :=
  [UInt8.ofNat (n / 2 ^ 24), UInt8.ofNat (n / 2 ^ 16), UInt8.ofNat (n / 2 ^ 8), UInt8.ofNat n]

/-- `wrapAsTcpFrame` -/
def wrapAsTcpFrame (avlData : Bytes) : Bytes :=
  u32 0 ++ u32 avlData.length ++ avlData ++ u32 (crc16ibm avlData)

def parseUdpAvl (protocolParser : ProtocolParser) (avlData : Bytes) :
    Except CodecError ParsedPacket :=
  if avlData.length < 3 then .error .frame
  else parseFrame protocolParser ⟨.avl, wrapAsTcpFrame avlData⟩

/-! ## What is thrown -/

/-- Every error of a computation is of a kind. -/
def Throws {α : Type} (P : CodecError → Prop) (m : Except CodecError α) : Prop :=
  ∀ e, m = .error e → P e

section Throws

variable {α β : Type} {P Q : CodecError → Prop}

lemma Throws.ok (a : α) : Throws P (.ok a : Except CodecError α) := fun _ h => by cases h

lemma Throws.error {e : CodecError} (h : P e) : Throws P (.error e : Except CodecError α) := by
  intro e' he
  cases he
  exact h

variable {m : Except CodecError α} {f : α → Except CodecError β} {l : List α}

lemma Throws.bind (hm : Throws P m) (hf : ∀ a, m = .ok a → Throws P (f a)) :
    Throws P (m >>= f) := by
  cases m with
  | error e => exact .error (hm e rfl)
  | ok a => exact hf a rfl

lemma Throws.ite {c : Prop} [Decidable c] {m' : Except CodecError α} (hm : c → Throws P m)
    (hm' : ¬ c → Throws P m') : Throws P (if c then m else m') := by
  split
  · rename_i h
    exact hm h
  · rename_i h
    exact hm' h

lemma Throws.mapM (h : ∀ a ∈ l, Throws P (f a)) : Throws P (l.mapM f) := by
  induction l with
  | nil => exact .ok []
  | cons a l ih =>
    rw [mapM_cons]
    refine .bind (h a mem_cons_self) fun b _ => ?_
    exact .bind (ih fun a' ha => h a' (mem_cons_of_mem a ha)) fun bs _ => .ok _

lemma Throws.foldlM {f : β → α → Except CodecError β} (h : ∀ b, ∀ a ∈ l, Throws P (f b a)) (b : β) :
    Throws P (l.foldlM f b) := by
  induction l generalizing b with
  | nil => exact .ok b
  | cons a l ih =>
    rw [foldlM_cons]
    refine .bind (h b a mem_cons_self) fun b' _ => ?_
    exact ih (fun b a' ha => h b a' (mem_cons_of_mem a ha)) b'

end Throws

/-- An error that is not of the records but of the frame. -/
def Structural (e : CodecError) : Prop := e = .frame ∨ e = .other

lemma throws_readUInt (width : ℕ) (buf : Bytes) (off : ℕ) :
    Throws Structural (readUInt width buf off) :=
  .ite (fun _ => .error (.inr rfl)) fun _ => .ok _

lemma throws_readInt (width : ℕ) (buf : Bytes) (off : ℕ) :
    Throws Structural (readInt width buf off) :=
  .bind (throws_readUInt width buf off) fun _ _ => .ok _

lemma throws_skipGroups8e (record : Bytes) (sizes : List ℕ) (off : ℕ) :
    Throws Structural (skipGroups8e record sizes off) := by
  induction sizes generalizing off with
  | nil => exact .ok off
  | cons valueSize sizes ih => exact .bind (throws_readUInt _ _ _) fun _ _ => ih _

lemma throws_nxElements (record : Bytes) (cnt off : ℕ) :
    Throws Structural (nxElements record cnt off) := by
  induction cnt generalizing off with
  | zero => exact .ok []
  | succ cnt ih =>
    refine .bind (throws_readUInt _ _ _) fun _ _ => ?_
    refine .bind (throws_readUInt _ _ _) fun _ _ => ?_
    exact .bind (ih _) fun _ _ => .ok _

lemma throws_extractNx8e (record : Bytes) : Throws Structural (extractNx8e record) := by
  refine .bind (throws_readUInt _ _ _) fun _ _ => ?_
  refine .bind (throws_skipGroups8e _ _ _) fun _ _ => ?_
  exact .bind (throws_readUInt _ _ _) fun _ _ => throws_nxElements _ _ _

lemma throws_io16Group (record : Bytes) (width count off : ℕ) (io : List (ℕ × ℤ)) :
    Throws Structural (io16Group record width count off io) := by
  induction count generalizing off io with
  | zero => exact .ok _
  | succ count ih =>
    refine .ite (fun _ => .error (.inl rfl)) fun _ => ?_
    exact .bind (throws_readUInt _ _ _) fun _ _ => ih _ _

lemma throws_io16Groups (record : Bytes) (widths : List ℕ) (off : ℕ) (io : List (ℕ × ℤ)) :
    Throws Structural (io16Groups record widths off io) := by
  induction widths generalizing off io with
  | nil => exact .ok io
  | cons width widths ih =>
    refine .ite (fun _ => .error (.inl rfl)) fun _ => ?_
    exact .bind (throws_io16Group _ _ _ _ _) fun _ _ => ih _ _

lemma throws_extractIo16 (record : Bytes) : Throws Structural (extractIo16 record) := by
  refine .ite (fun _ => .error (.inl rfl)) fun _ => ?_
  refine .bind (throws_io16Groups _ _ _ _) fun _ _ => ?_
  exact .ite (fun _ => .error (.inl rfl)) fun _ => .ok _

lemma throws_generationTypeOf (record : Bytes) : Throws Structural (generationTypeOf record) :=
  .ite (fun _ => .error (.inl rfl)) fun _ => .ok _

lemma throws_normalizeIoValue (value : LibValue) : Throws Structural (normalizeIoValue value) := by
  cases value with
  | string s =>
    show Throws Structural (match bigIntOf s.toList with | some n => _ | none => _)
    cases bigIntOf s.toList <;> exact .ok _
  | other => exact .error (.inl rfl)
  | _ => exact .ok _

lemma throws_nxOf (codecId : ℕ) (raw : Bytes) : Throws Structural (nxOf codecId raw) :=
  .ite (fun _ => throws_extractNx8e raw) fun _ => .ok _

lemma throws_generationOf (codecId : ℕ) (raw : Bytes) :
    Throws Structural (generationOf codecId raw) :=
  .ite (fun _ => .bind (throws_generationTypeOf raw) fun _ _ => .ok _) fun _ => .ok _

lemma throws_parseRecord (codecId : ℕ) (raw : Bytes) (io : List (ℕ × Option IoValue)) :
    Throws Structural (parseRecord codecId raw io) := by
  unfold parseRecord
  dsimp only
  refine .bind (throws_readUInt _ _ _) fun _ _ => ?_
  refine .ite (fun _ => .error (.inl rfl)) fun _ => ?_
  refine .bind (throws_nxOf _ raw) fun _ _ => ?_
  refine .ite (fun _ => .error (.inl rfl)) fun _ => ?_
  refine .bind (throws_readInt _ _ _) fun _ _ => ?_
  refine .bind (throws_readInt _ _ _) fun _ _ => ?_
  refine .bind (throws_readInt _ _ _) fun _ _ => ?_
  refine .bind (throws_readUInt _ _ _) fun _ _ => ?_
  refine .bind (throws_readUInt _ _ _) fun _ _ => ?_
  refine .bind (throws_readUInt _ _ _) fun _ _ => ?_
  exact .bind (throws_generationOf _ raw) fun _ _ => .ok _

/-! ## What a frame declares -/

/-- NumberOfData -/
def Frame.declaredCount (frame : Frame) : ℕ := byteAt frame.bytes 9

/-- A frame of codec 8, 8 extended or 16. -/
def Frame.isAvl (frame : Frame) : Bool :=
  frame.kind = .avl &&
    (byteAt frame.bytes 8 = 0x08 || byteAt frame.bytes 8 = 0x8e || byteAt frame.bytes 8 = 0x10)

variable {β α : Type} {codecId codec : ℕ} {bytes : Bytes} {protocolParser : ProtocolParser}
  {records : List AvlRecord} {frame : Frame}

lemma bind_eq_ok {m : Except CodecError α} {f : α → Except CodecError β} {b : β}
    (h : m >>= f = .ok b) : ∃ a, m = .ok a ∧ f a = .ok b := by
  cases m with
  | error e => cases h
  | ok a => exact ⟨a, rfl, h⟩

lemma check_eq_ok {c : Prop} [Decidable c] {e : CodecError} {m : Except CodecError α} {a : α}
    (h : (if c then .error e else m) = .ok a) : ¬ c ∧ m = .ok a := by
  split at h
  · cases h
  · rename_i hc
    exact ⟨hc, h⟩

lemma length_mapM {f : α → Except CodecError β} {l : List α} {l' : List β} (h : l.mapM f = .ok l') :
    l'.length = l.length := by
  induction l generalizing l' with
  | nil =>
    cases h
    rfl
  | cons a l ih =>
    rw [mapM_cons] at h
    obtain ⟨b, -, h⟩ := bind_eq_ok h
    obtain ⟨bs, hbs, h⟩ := bind_eq_ok h
    cases h
    rw [length_cons, length_cons, ih hbs]

lemma length_ioPerRecord {n : ℕ} {rawSlices : List Bytes} {io : List (List (ℕ × Option IoValue))}
    (hslices : rawSlices.length = n)
    (h : ioPerRecord protocolParser bytes codecId n rawSlices = .ok io) : io.length = n := by
  unfold ioPerRecord at h
  split_ifs at h with hcodec
  · rw [length_mapM h, hslices]
  · unfold decodeIoWithLib at h
    split at h
    · split_ifs at h
    · cases h
    · split_ifs at h with hlength
      rw [length_mapM h, Decidable.not_not.mp hlength]

lemma length_parseAvl {dataLen : ℕ}
    (h : parseAvl protocolParser bytes dataLen codecId = .ok (.avl codec records)) :
    records.length = byteAt bytes 9 := by
  unfold parseAvl at h
  dsimp only at h
  split_ifs at h with hagree hzero
  · cases h
    exact hzero.symm
  · obtain ⟨rawSlices, hwalk, h⟩ := bind_eq_ok h
    split_ifs at h with hslices
    obtain ⟨io, hio, h⟩ := bind_eq_ok h
    obtain ⟨records', hrecords, h⟩ := bind_eq_ok h
    cases h
    have hlength := Decidable.not_not.mp hslices
    rw [length_mapM hrecords, length_zip, hlength, length_ioPerRecord hlength hio, Nat.min_self]

lemma parseCommandFrame_ne_avl (bytes : Bytes) (dataLen codecId codec : ℕ)
    (records : List AvlRecord) :
    parseCommandFrame bytes dataLen codecId ≠ .ok (.avl codec records) := by
  have hite : ∀ {c : Prop} [Decidable c] {m m' : Except CodecError ParsedPacket},
      m ≠ .ok (.avl codec records) → m' ≠ .ok (.avl codec records) →
      (if c then m else m') ≠ .ok (.avl codec records) := by
    intro c _ m m' hm hm'
    split
    · exact hm
    · exact hm'
  have herror : (.error .frame : Except CodecError ParsedPacket) ≠ .ok (.avl codec records) :=
    fun h => by cases h
  refine hite herror fun h => ?_
  obtain ⟨size, -, h⟩ := bind_eq_ok h
  refine absurd h (hite herror (hite (fun h => ?_) (hite herror (hite herror fun h => ?_))))
  · cases Except.ok.inj h
  · cases Except.ok.inj h

lemma isAvl_iff : frame.isAvl = true ↔ frame.kind = .avl ∧
    (byteAt frame.bytes 8 = 0x08 ∨ byteAt frame.bytes 8 = 0x8e ∨ byteAt frame.bytes 8 = 0x10) := by
  unfold Frame.isAvl
  simp only [Bool.and_eq_true, Bool.or_eq_true, decide_eq_true_eq, or_assoc]

/-- **The records of a frame**: as many as it declares. -/
theorem parseFrame_avl (h : parseFrame protocolParser frame = .ok (.avl codec records)) :
    frame.isAvl = true ∧ records.length = frame.declaredCount := by
  unfold parseFrame at h
  split at h
  · dsimp only at h
    split at h <;> cases h
  · rename_i hkind
    obtain ⟨dataLen, -, h⟩ := bind_eq_ok h
    obtain ⟨-, h⟩ := check_eq_ok h
    obtain ⟨crcExpected, -, h⟩ := bind_eq_ok h
    obtain ⟨-, h⟩ := check_eq_ok h
    dsimp only at h
    split_ifs at h with hcodec hcommand
    · exact ⟨isAvl_iff.mpr ⟨hkind, hcodec⟩, length_parseAvl h⟩
    · exact absurd h (parseCommandFrame_ne_avl _ _ _ _ _)

lemma parseFrame_of_isAvl {packet : ParsedPacket} (hframe : frame.isAvl = true)
    (h : parseFrame protocolParser frame = .ok packet) :
    ∃ codec records, packet = .avl codec records := by
  obtain ⟨hkind, hcodec⟩ := isAvl_iff.mp hframe
  unfold parseFrame at h
  rw [hkind] at h
  obtain ⟨dataLen, -, h⟩ := bind_eq_ok h
  obtain ⟨-, h⟩ := check_eq_ok h
  obtain ⟨crcExpected, -, h⟩ := bind_eq_ok h
  obtain ⟨-, h⟩ := check_eq_ok h
  dsimp only at h
  rw [if_pos hcodec] at h
  unfold parseAvl at h
  dsimp only at h
  split_ifs at h with hagree hzero
  · exact ⟨_, _, (Except.ok.inj h).symm⟩
  · obtain ⟨rawSlices, -, h⟩ := bind_eq_ok h
    obtain ⟨-, h⟩ := check_eq_ok h
    obtain ⟨io, -, h⟩ := bind_eq_ok h
    obtain ⟨records, -, h⟩ := bind_eq_ok h
    exact ⟨_, records, (Except.ok.inj h).symm⟩

end Orbetra.Codec
