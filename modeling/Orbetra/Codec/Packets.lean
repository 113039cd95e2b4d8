import Orbetra.Codec.Chunks
import Orbetra.Codec.Sound

/-!
# Packets

Packets of well-formed records, run together and cut anywhere, leave the framer one by one, each a
sound frame that the walk cuts where its records end. -/

namespace Orbetra.Codec

open List Nat

structure AvlPacket where
  codec : UInt8
  records : List WireRecord

namespace AvlPacket

variable (p : AvlPacket)

/-- The codec, the records, and their number before and after them. -/
def data : Bytes :=
  [p.codec, UInt8.ofNat p.records.length] ++ p.records.flatMap WireRecord.bytes ++
    [UInt8.ofNat p.records.length]

def frame : Frame := ⟨.avl, wrapAsTcpFrame p.data⟩

structure WellFormed (maxDataLength : ℕ) : Prop where
  codec : Supported p.codec.toNat
  records : ∀ w ∈ p.records, w.WellFormed (shapeOf p.codec.toNat)
  count : p.records.length < 256
  length : p.data.length ≤ maxDataLength

end AvlPacket

variable {maxDataLength : ℕ} {p : AvlPacket}

lemma crc16ibm_lt (buf : Bytes) : crc16ibm buf < 2 ^ 32 := by
  suffices h : ∀ crc, crc < 2 ^ 16 →
      buf.foldl (fun crc b => crcBit^[8] (crc ^^^ b.toNat)) crc < 2 ^ 16 from
    (h 0 (by decide)).trans (by decide)
  have hbit : Set.MapsTo crcBit {n | n < 2 ^ 16} {n | n < 2 ^ 16} := by
    intro n (hn : n < 2 ^ 16)
    show (if _ then _ else _) < 2 ^ 16
    split
    · exact xor_lt_two_pow ((div_le_self n 2).trans_lt hn) (by decide)
    · exact (div_le_self n 2).trans_lt hn
  induction buf with
  | nil => exact fun crc h => h
  | cons b buf ih =>
    intro crc h
    have hb := b.toNat_lt
    exact ih _ (hbit.iterate 8 (xor_lt_two_pow h (by omega)))

namespace AvlPacket

lemma bytes_frame : p.frame.bytes = u32 0 ++ (u32 p.data.length ++
    (p.data ++ u32 (crc16ibm p.data))) := by simp only [frame, wrapAsTcpFrame, append_assoc]

lemma length_frame : p.frame.bytes.length = 8 + p.data.length + 4 := by
  rw [bytes_frame, length_append, length_append, length_append, ← Nat.add_assoc, ← Nat.add_assoc]
  rfl

lemma drop_frame (n : ℕ) :
    p.frame.bytes.drop (8 + n) = (p.data ++ u32 (crc16ibm p.data)).drop n := by
  rw [← drop_drop, bytes_frame]
  rfl

variable (hp : p.WellFormed maxDataLength) (hmax : maxDataLength < 2 ^ 32)

include hp hmax

lemma dataLen_frame : p.frame.dataLen = p.data.length := by
  rw [Frame.dataLen, bytes_frame]
  exact readUIntBE_u32 (hp.length.trans_lt hmax) _

lemma tryExtract_frame : tryExtract maxDataLength p.frame.bytes = .ok (some (p.frame, [])) := by
  have hlength := p.length_frame
  have hlen : readUIntBE 4 (p.frame.bytes.drop 4) = p.data.length := dataLen_frame hp hmax
  have hdata := hp.length
  unfold tryExtract
  rw [hlen, show readUIntBE 4 p.frame.bytes = 0 from rfl]
  dsimp only
  rw [if_neg (by omega), if_neg (by decide), if_neg (by omega),
    if_neg (not_or.2 ⟨by simp [data], hdata.not_gt⟩), if_neg (by omega), ← hlength, take_length, drop_length]
  rfl

lemma sound_frame : p.frame.Sound ∧
    walkRecords p.frame.body (shapeOf p.frame.codecId) = .ok (p.records.map WireRecord.bytes) := by
  have hlen := dataLen_frame hp hmax
  have hbody : p.frame.body = p.records.flatMap WireRecord.bytes := by
    refine (body_wrapAsTcpFrame ?_ (hp.length.trans_lt hmax)).trans ?_ <;> simp [data, subarray]
  have hwalk : walkRecords p.frame.body (shapeOf p.frame.codecId) =
      .ok (p.records.map WireRecord.bytes) :=
    walkRecords_eq_ok_iff.2 ⟨p.records, hp.records, hbody, rfl⟩
  refine ⟨⟨rfl, hlen ▸ p.length_frame, ?_, hp.codec, ?_, _, hwalk, ?_⟩, hwalk⟩
  · have hfrom := p.drop_frame 0
    rw [hlen, p.drop_frame, drop_left, subarray, drop_take, Nat.add_sub_cancel_left, hfrom, drop_zero,
      take_left]
    exact (readUIntBE_u32 (crc16ibm_lt _) []).symm
  · obtain ⟨init, hinit⟩ : ∃ init, p.data = init ++ [UInt8.ofNat p.records.length] := ⟨_, rfl⟩
    rw [hlen, hinit, length_append, length_singleton, ← Nat.add_assoc, Nat.add_sub_cancel, byteAt,
      byteAt, getD_eq_getElem?_getD (i := 8 + _), ← head?_drop, p.drop_frame, hinit, append_assoc,
      drop_left]
    rfl
  · rw [length_map]
    exact (UInt8.toNat_ofNat_of_lt' hp.count).symm

end AvlPacket

/-- **Framing a stream of packets.** -/
theorem packets_framed {sent : List AvlPacket} {chunks : List Bytes} (hmax : maxDataLength < 2 ^ 32)
    (hsent : ∀ p ∈ sent, p.WellFormed maxDataLength)
    (hcut : chunks.flatten = sent.flatMap (·.frame.bytes)) :
    feedAll maxDataLength [] chunks = (sent.map (·.frame), .ok []) ∧
      ∀ p ∈ sent, p.frame.Sound ∧ walkRecords p.frame.body (shapeOf p.frame.codecId) =
        .ok (p.records.map WireRecord.bytes) := by
  have hall : extractAll maxDataLength (sent.flatMap (·.frame.bytes)) =
      (sent.map (·.frame), .ok []) := by
    clear hcut
    induction sent with
    | nil => rfl
    | cons p sent ih =>
      have hnext := tryExtract_append (AvlPacket.tryExtract_frame (hsent p mem_cons_self) hmax)
        (sent.flatMap (·.frame.bytes))
      rw [flatMap_cons, extractAll_some hnext, nil_append,
        ih fun q hq => hsent q (mem_cons_of_mem _ hq), map_cons]
  refine ⟨?_, fun p hmem => AvlPacket.sound_frame (hsent p hmem) hmax⟩
  have hsnd : (feedAll maxDataLength [] chunks).2 = .ok [] := by rw [feedAll_snd, hcut, hall]
  exact Prod.ext (by rw [feedAll_fst hsnd, hcut, hall]) hsnd

/-- A record of codec 8 with one element. -/
def oneByte : WireRecord :=
  ⟨replicate 24 0, [1], [], [1], ⟨[1], [⟨[1], [5]⟩]⟩ :: replicate 3 ⟨[0], []⟩, none⟩

/-- The same packet twice, in one chunk. -/
theorem packets_framed_twice :
    let p : AvlPacket := ⟨0x08, [oneByte]⟩
    feedAll 4096 [] [p.frame.bytes ++ p.frame.bytes] = ([p.frame, p.frame], .ok []) := by
  intro p
  have hw : oneByte.WellFormed SHAPE_8 := ⟨rfl, rfl, rfl, rfl, by
    simp [oneByte, replicate, IoSized, IoGroup.Counted, SHAPE_8, readUIntBE], ⟨rfl, by
    simp [oneByte]⟩, rfl⟩
  have hp : p.WellFormed 4096 := ⟨.inl rfl, forall_mem_singleton.2 hw, by decide, by decide⟩
  exact (packets_framed (by decide) (forall_mem_cons.2 ⟨hp, forall_mem_singleton.2 hp⟩)
    (by simp)).1

end Orbetra.Codec
