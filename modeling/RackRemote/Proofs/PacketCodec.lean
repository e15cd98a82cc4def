import Mathlib.Algebra.Group.Nat.Defs
import Mathlib.Tactic.Common
import RackRemote.Osc.Decoder
import RackRemote.Osc.Encoder
import RackRemote.Osc.Frame

/-!
# Packets read back

Numbers and frames are read back as they were written, and so is, bit for bit, a message whose
arguments are integers, floats and texts. Every part of a message takes up a multiple of four bytes,
so a reader that starts a part where the writer did finds the padding where the writer left it.
-/

namespace RackRemote.Proofs
open Osc

/-! ### Numbers -/

lemma foldl_bigEndian (width n acc : Nat) :
    (bigEndian width n).foldl (fun n b => n * 256 + b.toNat) acc =
      acc * 256 ^ width + n % 256 ^ width := by
  induction width generalizing acc with
  | zero => simp [bigEndian, Nat.mod_one]
  | succ width ih =>
    have hbyte : (n >>> (8 * width)).toUInt8.toNat = n / 256 ^ width % 256 := by
      rw [Nat.shiftRight_eq_div_pow, Nat.pow_mul]
      rfl
    rw [bigEndian, List.foldl_cons, ih, hbyte, Nat.pow_succ, Nat.mod_mul, Nat.add_mul,
      Nat.mul_comm (256 ^ width) 256, ← Nat.mul_assoc, Nat.mul_comm (n / 256 ^ width % 256)]
    omega

lemma ofBigEndian_bigEndian (width n : Nat) :
    ofBigEndian (bigEndian width n) = n % 256 ^ width := by
  rw [ofBigEndian, foldl_bigEndian, Nat.zero_mul, Nat.zero_add]

lemma foldl_bytes_lt (bytes : List UInt8) (acc : Nat) :
    bytes.foldl (fun n b => n * 256 + b.toNat) acc < (acc + 1) * 256 ^ bytes.length := by
  induction bytes generalizing acc with
  | nil => simp
  | cons b bytes ih =>
    have hb : b.toNat < 256 := b.toNat_lt
    have hacc : acc * 256 + b.toNat + 1 ≤ (acc + 1) * 256 := by omega
    calc (b :: bytes).foldl (fun n b => n * 256 + b.toNat) acc
        < (acc * 256 + b.toNat + 1) * 256 ^ bytes.length := ih _
      _ ≤ (acc + 1) * 256 * 256 ^ bytes.length := Nat.mul_le_mul_right _ hacc
      _ = (acc + 1) * 256 ^ (b :: bytes).length := by
        rw [List.length_cons, Nat.pow_succ', Nat.mul_assoc]

lemma le_foldl_bytes (bytes : List UInt8) (acc : Nat) :
    acc * 256 ^ bytes.length ≤ bytes.foldl (fun n b => n * 256 + b.toNat) acc := by
  induction bytes generalizing acc with
  | nil => simp
  | cons b bytes ih =>
    have hacc : acc * 256 ≤ acc * 256 + b.toNat := Nat.le_add_right _ _
    calc acc * 256 ^ (b :: bytes).length = acc * 256 * 256 ^ bytes.length := by
          rw [List.length_cons, Nat.pow_succ', Nat.mul_assoc]
      _ ≤ (acc * 256 + b.toNat) * 256 ^ bytes.length := Nat.mul_le_mul_right _ hacc
      _ ≤ (b :: bytes).foldl (fun n b => n * 256 + b.toNat) acc := ih _

lemma bigEndian_foldl (bytes : List UInt8) (acc : Nat) :
    bigEndian bytes.length (bytes.foldl (fun n b => n * 256 + b.toNat) acc) = bytes := by
  induction bytes generalizing acc with
  | nil => rfl
  | cons b bytes ih =>
    have hhigh : (bytes.foldl (fun n b => n * 256 + b.toNat) (acc * 256 + b.toNat)) >>>
        (8 * bytes.length) = acc * 256 + b.toNat := by
      rw [Nat.shiftRight_eq_div_pow, Nat.pow_mul]
      exact Nat.div_eq_of_lt_le (le_foldl_bytes bytes _) (foldl_bytes_lt bytes _)
    have hb : (acc * 256 + b.toNat).toUInt8 = b := by
      apply UInt8.toNat_inj.mp
      have hlt : b.toNat < 256 := b.toNat_lt
      simp only [Nat.toUInt8, UInt8.toNat_ofNat']
      omega
    rw [List.length_cons, bigEndian, List.foldl_cons, hhigh, hb, ih]

lemma bigEndian_ofBigEndian (bytes : List UInt8) :
    bigEndian bytes.length (ofBigEndian bytes) = bytes := bigEndian_foldl bytes 0

/-! ### Frames -/

lemma split_frame {packet : List UInt8} (hsize : packet.length ≤ maxFrame) (rest : List UInt8) :
    split (frame packet ++ rest) = (packet :: (split rest).1, (split rest).2) := by
  have hheader : ofBigEndian (bigEndian 4 packet.length) = packet.length := by
    rw [ofBigEndian_bigEndian]
    exact Nat.mod_eq_of_lt (Nat.lt_of_le_of_lt hsize (by decide))
  obtain ⟨a, b, c, d, hbytes⟩ : ∃ a b c d, bigEndian 4 packet.length = [a, b, c, d] :=
    ⟨_, _, _, _, rfl⟩
  rw [hbytes] at hheader
  rw [frame, hbytes, List.append_assoc, List.cons_append, List.cons_append, List.cons_append,
    List.cons_append, List.nil_append, split]
  dsimp only
  rw [hheader, if_neg (Nat.not_lt_of_le hsize), if_neg (by simp), List.take_left, List.drop_left]

/-- A stream of whole frames falls into their packets. -/
lemma split_frames {packets : List (List UInt8)} (hsize : ∀ p ∈ packets, p.length ≤ maxFrame) :
    split (packets.flatMap frame) = (packets, .clean) := by
  induction packets with
  | nil => rw [List.flatMap_nil, split]; rintro _ _ _ _ _ ⟨⟩
  | cons p packets ih =>
    rw [List.flatMap_cons, split_frame (hsize p List.mem_cons_self),
      ih fun q hq => hsize q (List.mem_cons_of_mem p hq)]

/-- A frame is the length of its packet and the packet. -/
lemma frame_length {packet : List UInt8} (hlength : packet.length < 2 ^ 32) :
    ofBigEndian ((frame packet).take 4) = packet.length ∧
      (frame packet).drop 4 = packet := by
  have hheader := bigEndian_length 4 packet.length
  refine ⟨?_, List.drop_left' hheader⟩
  rw [frame, List.take_left' hheader, ofBigEndian_bigEndian]
  exact Nat.mod_eq_of_lt hlength

/-! ### Texts -/

/-- The zero character is the one that a text cannot carry. -/
def ZeroFree (s : String) : Prop := '\x00' ∉ s.toList

instance (s : String) : Decidable (ZeroFree s) := inferInstanceAs (Decidable ('\x00' ∉ s.toList))

lemma utf8_eq (s : String) : utf8 s = s.toList.flatMap String.utf8EncodeChar := by
  rw [utf8, String.toUTF8, ← String.utf8Encode_toList, List.utf8Encode]
  exact List.toList_data_toByteArray

lemma zero_ne_ofNat {n : Nat} (hpos : 0 < n) (hlt : n < 256) : (0 : UInt8) ≠ UInt8.ofNat n := by
  intro h
  have hn := congrArg UInt8.toNat h
  rw [UInt8.toNat_ofNat', Nat.mod_eq_of_lt hlt] at hn
  exact absurd hn (Nat.ne_of_lt hpos)

/-- Only the zero character has a zero byte. -/
lemma zero_not_mem_utf8EncodeChar {c : Char} (hc : c ≠ '\x00') :
    (0 : UInt8) ∉ String.utf8EncodeChar c := by
  have hpos : 0 < c.val.toNat := by
    rw [Nat.pos_iff_ne_zero]
    intro hzero
    exact hc (Char.ext (UInt32.toNat_inj.mp hzero))
  rw [String.utf8EncodeChar]
  split
  · rw [List.mem_singleton]
    exact zero_ne_ofNat hpos (by omega)
  · split
    · simp only [List.mem_cons, List.not_mem_nil, or_false, not_or]
      exact ⟨zero_ne_ofNat (by omega) (by omega), zero_ne_ofNat (by omega) (by omega)⟩
    · split
      · simp only [List.mem_cons, List.not_mem_nil, or_false, not_or]
        exact ⟨zero_ne_ofNat (by omega) (by omega), zero_ne_ofNat (by omega) (by omega),
          zero_ne_ofNat (by omega) (by omega)⟩
      · simp only [List.mem_cons, List.not_mem_nil, or_false, not_or]
        exact ⟨zero_ne_ofNat (by omega) (by omega), zero_ne_ofNat (by omega) (by omega),
          zero_ne_ofNat (by omega) (by omega), zero_ne_ofNat (by omega) (by omega)⟩

lemma zero_not_mem_utf8 {s : String} (hs : ZeroFree s) : (0 : UInt8) ∉ utf8 s := by
  rw [utf8_eq, List.mem_flatMap]
  rintro ⟨c, hc, hzero⟩
  refine zero_not_mem_utf8EncodeChar ?_ hzero
  rintro rfl
  exact hs hc

lemma paddedText_length (s : String) : (paddedText s).length % 4 = 0 := by
  rw [paddedText, List.length_append, List.length_replicate, padding]
  omega

lemma paddedText_ne_nil (s : String) : paddedText s ≠ [] := by
  intro hnil
  have hlength := congrArg List.length hnil
  rw [paddedText, List.length_append, List.length_replicate, padding, List.length_nil] at hlength
  omega

/-! ### Reading on -/

lemma take_append {n : Nat} {bytes : List UInt8} (hn : bytes.length = n) (offset : Nat)
    (rest : List UInt8) :
    Cursor.take n ⟨offset, bytes ++ rest⟩ = .ok (bytes, ⟨offset + n, rest⟩) := by
  rw [Cursor.take]
  dsimp only
  rw [List.take_left' hn, List.drop_left' hn, if_pos hn]

lemma number_append {n value : Nat} (hvalue : value < 256 ^ n) (offset : Nat)
    (rest : List UInt8) :
    Cursor.number n ⟨offset, bigEndian n value ++ rest⟩ = .ok (value, ⟨offset + n, rest⟩) := by
  rw [Cursor.number, take_append (bigEndian_length n value)]
  change Except.ok (ofBigEndian (bigEndian n value), _) = _
  rw [ofBigEndian_bigEndian, Nat.mod_eq_of_lt hvalue]

/-- A text is read up to the zero bytes behind it, and these are skipped. -/
lemma text_append {s : String} (hs : ZeroFree s) {offset : Nat} (hoffset : offset % 4 = 0)
    (rest : List UInt8) :
    Cursor.text ⟨offset, paddedText s ++ rest⟩ =
      .ok (s, ⟨offset + (paddedText s).length, rest⟩) := by
  have hbytes : ∀ b ∈ utf8 s, (b != 0) = true := by
    intro b hb
    rw [bne_iff_ne]
    rintro rfl
    exact zero_not_mem_utf8 hs hb
  have hpadding : padding (offset + (utf8 s).length) = padding (utf8 s).length := by
    rw [padding, padding]
    omega
  obtain ⟨k, hk⟩ : ∃ k, padding (utf8 s).length = k + 1 := by
    rw [padding]
    exact ⟨3 - (utf8 s).length % 4, by omega⟩
  have hread : (paddedText s ++ rest).takeWhile (· != 0) = utf8 s := by
    rw [paddedText, List.append_assoc, List.takeWhile_append_of_pos hbytes, hk,
      List.replicate_succ, List.cons_append, List.takeWhile_cons_of_neg (by simp),
      List.append_nil]
  have hskip : Cursor.skipPadding ⟨offset + (utf8 s).length,
      (paddedText s ++ rest).drop (utf8 s).length⟩ =
        .ok ⟨offset + (paddedText s).length, rest⟩ := by
    rw [paddedText, List.append_assoc, List.drop_left, Cursor.skipPadding]
    dsimp only
    rw [hpadding, take_append List.length_replicate, List.length_append, List.length_replicate,
      Nat.add_assoc]
    rfl
  rw [Cursor.text]
  dsimp only
  rw [hread, hskip, ofUtf8?_utf8]
  rfl

/-! ### Arguments -/

/-- Integers, floats and texts that can be carried. -/
inductive Plain : Arg → Prop where
  | int (value : Int32) : Plain (.int value)
  | float (value : Binary32) : Plain (.float value)
  | string {text : String} (free : ZeroFree text) : Plain (.string text)

namespace Plain

variable {a : Arg} (h : Plain a)
include h

lemma tags : a.tags = [a.typeTag] := by
  cases h <;> rfl

lemma typeTag_ne : a.typeTag ≠ '[' ∧ a.typeTag ≠ ']' ∧ a.typeTag ≠ '\x00' := by
  cases h with
  | int => rw [Arg.typeTag]; decide
  | float => rw [Arg.typeTag]; decide
  | string => rw [Arg.typeTag]; decide

lemma data_length : a.data.length % 4 = 0 := by
  cases h with
  | int => rw [Arg.data, bigEndian_length]
  | float => rw [Arg.data, bigEndian_length]
  | string => exact paddedText_length _

lemma arg_append {offset : Nat} (hoffset : offset % 4 = 0) (rest : List UInt8) :
    Cursor.arg a.typeTag ⟨offset, a.data ++ rest⟩ =
      .ok (a, ⟨offset + a.data.length, rest⟩) := by
  cases h with
  | int value =>
    have hread := number_append (n := 4) value.toUInt32.toNat_lt offset rest
    rw [Arg.typeTag, Cursor.arg, Arg.data, hread, bigEndian_length]
    change Except.ok (Arg.int value.toUInt32.toNat.toUInt32.toInt32, _) = _
    rw [Nat.toUInt32, UInt32.ofNat_toNat, Int32.toInt32_toUInt32]
  | float value =>
    have hread := number_append (n := 4) value.bits.toNat_lt offset rest
    rw [Arg.typeTag, Cursor.arg, Arg.data, hread, bigEndian_length]
    change Except.ok (Arg.float ⟨value.bits.toNat.toUInt32⟩, _) = _
    rw [Nat.toUInt32, UInt32.ofNat_toNat]
  | string free =>
    rw [Arg.typeTag, Cursor.arg, Arg.data, text_append free hoffset]
    rfl

end Plain

lemma args_append {as : List Arg} (has : ∀ a ∈ as, Plain a) (done : List Arg) {offset : Nat}
    (hoffset : offset % 4 = 0) :
    ∃ c, Cursor.args (Arg.tagsOfAll as) done [] ⟨offset, Arg.dataOfAll as⟩ =
      .ok (done.reverse ++ as, c) := by
  induction as generalizing done offset with
  | nil => exact ⟨_, by rw [List.append_nil]; rfl⟩
  | cons a as ih =>
    have ha := has a List.mem_cons_self
    obtain ⟨hopen, hclose, _⟩ := ha.typeTag_ne
    have hlength := ha.data_length
    have hoffset' : (offset + a.data.length) % 4 = 0 := by omega
    obtain ⟨c, hc⟩ := ih (fun b hb => has b (List.mem_cons_of_mem a hb)) (a :: done) hoffset'
    refine ⟨c, ?_⟩
    rw [Arg.tagsOfAll, ha.tags, List.singleton_append, Arg.dataOfAll, Cursor.args, if_neg hopen,
      if_neg hclose, ha.arg_append hoffset]
    change Cursor.args (Arg.tagsOfAll as) (a :: done) [] _ = _
    rw [hc, List.reverse_cons, List.append_assoc, List.singleton_append]

/-! ### Messages -/

lemma tagsOfAll_eq {as : List Arg} (has : ∀ a ∈ as, Plain a) :
    Arg.tagsOfAll as = as.map Arg.typeTag := by
  induction as with
  | nil => rfl
  | cons a as ih =>
    rw [Arg.tagsOfAll, (has a List.mem_cons_self).tags,
      ih fun b hb => has b (List.mem_cons_of_mem a hb), List.singleton_append, List.map_cons]

lemma zeroFree_tags {as : List Arg} (has : ∀ a ∈ as, Plain a) :
    ZeroFree (String.ofList (',' :: Arg.tagsOfAll as)) := by
  rw [ZeroFree, String.toList_ofList, tagsOfAll_eq has, List.mem_cons, List.mem_map]
  rintro (hcomma | ⟨a, ha, htag⟩)
  · exact absurd hcomma (by decide)
  · exact (has a ha).typeTag_ne.2.2 htag

/-- A tag string announces something once there is a tag behind its comma. -/
lemma one_lt_utf8ByteSize (c d : Char) (cs : List Char) :
    1 < (String.ofList (c :: d :: cs)).utf8ByteSize := by
  rw [String.ofList_cons, String.ofList_cons, String.utf8ByteSize_append,
    String.utf8ByteSize_append, String.utf8ByteSize_singleton, String.utf8ByteSize_singleton]
  have hc := c.utf8Size_pos
  have hd := d.utf8Size_pos
  omega

lemma message_append {as : List Arg} (has : ∀ a ∈ as, Plain a) (address : String) {offset : Nat}
    (hoffset : offset % 4 = 0) :
    ∃ c, Cursor.message address ⟨offset,
        paddedText (String.ofList (',' :: Arg.tagsOfAll as)) ++ Arg.dataOfAll as⟩ =
      .ok (⟨address, as⟩, c) := by
  have htags := text_append (zeroFree_tags has) hoffset (Arg.dataOfAll as)
  have hoffset' : (offset +
      (paddedText (String.ofList (',' :: Arg.tagsOfAll as))).length) % 4 = 0 := by
    have hlength := paddedText_length (String.ofList (',' :: Arg.tagsOfAll as))
    omega
  obtain ⟨c, hc⟩ := args_append has [] hoffset'
  rw [Cursor.message, htags]
  cases as with
  | nil => exact ⟨_, rfl⟩
  | cons a as =>
    refine ⟨c, ?_⟩
    have hsize : ¬(String.ofList (',' :: Arg.tagsOfAll (a :: as))).utf8ByteSize ≤ 1 := by
      rw [tagsOfAll_eq has]
      exact Nat.not_le_of_lt (one_lt_utf8ByteSize _ _ _)
    have htail : (String.ofList (',' :: Arg.tagsOfAll (a :: as))).toList.tail =
        Arg.tagsOfAll (a :: as) := by
      rw [String.toList_ofList, List.tail_cons]
    change (if (String.ofList (',' :: Arg.tagsOfAll (a :: as))).utf8ByteSize ≤ 1 then _ else
      (Cursor.args (String.ofList (',' :: Arg.tagsOfAll (a :: as))).toList.tail [] [] _ >>= _)) = _
    rw [if_neg hsize, htail, hc]
    rfl

/-- A message is read back as it was written. -/
lemma decode_encode {m : Message} (hslash : m.address.toList.head? = some '/')
    (hfree : ZeroFree m.address) (hargs : ∀ a ∈ m.args, Plain a) :
    decode m.encode = .ok (.message m) := by
  have hencode : m.encode = paddedText m.address ++
      (paddedText (String.ofList (',' :: Arg.tagsOfAll m.args)) ++ Arg.dataOfAll m.args) :=
    List.append_assoc ..
  have haddress := text_append hfree (Nat.zero_mod 4)
    (paddedText (String.ofList (',' :: Arg.tagsOfAll m.args)) ++ Arg.dataOfAll m.args)
  have hoffset : (0 + (paddedText m.address).length) % 4 = 0 := by
    rw [Nat.zero_add]
    exact paddedText_length m.address
  obtain ⟨c, hc⟩ := message_append hargs m.address hoffset
  have hsome : ¬m.encode.isEmpty := by
    rw [hencode, List.isEmpty_iff, List.append_eq_nil_iff]
    exact fun hnil => paddedText_ne_nil m.address hnil.1
  rw [decode, Cursor.packet]
  dsimp only
  rw [if_neg hsome, hencode, haddress]
  change (if m.address.toList.head? = some '/' then
    (Cursor.message m.address _ >>= fun r => pure (Packet.message r.1)) else _) = _
  rw [if_pos hslash, hc]
  rfl

end RackRemote.Proofs
