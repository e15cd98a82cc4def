import RackRemote.Proofs.PathGrammar
import RackRemote.Proofs.Scalars

/-!
# Indices among bytes

An index starts at some offset of some bytes and takes one to three digits. `Index.decodeByPlace` looks
at one place after the other, some of them twice and some behind the end; what it finds is what the
whole run of digits at the offset says.
-/

namespace RackRemote.Index

/-- The digit at a place, if there is one. -/
def digitAt (bytes : List UInt8) (place : Nat) : Option Nat := bytes[place]?.bind byteDigit

/-- Adds digits to an index that has some already, at most `limit` of them. -/
def extend (bytes : List UInt8) (offset : Nat) : Nat → UInt32 → Nat → UInt32 × Nat
  | 0, value, width => (value, width)
  | limit + 1, value, width =>
    match digitAt bytes (offset + width) with
    | some d => extend bytes offset limit (value * 10 + d.toUInt32) (width + 1)
    | none => (value, width)

/-- Reads the index that starts at an offset, place by place. Whether it is too long is seen before any
of its digits is made use of. -/
def decodeByPlace (bytes : List UInt8) (offset : Nat) : Except PathFault (UInt32 × Nat) :=
  if (digitAt bytes (offset + maxIndexDigits)).isSome &&
      (List.range maxIndexDigits).all fun p => (digitAt bytes (offset + p)).isSome then
    .error .indexTooLarge
  else
    let (value, width) := extend bytes offset maxIndexDigits 0 0
    if width = 0 then .error .missingIndex else .ok (value, offset + width)

end RackRemote.Index

namespace RackRemote.Proofs
open Osc

/-! ### The run of digits -/

def isDigitByte (b : UInt8) : Bool := 48 ≤ b && b ≤ 57

/-- All digits from an offset on, up to the first byte that is none. -/
def digitsFrom (bytes : List UInt8) (offset : Nat) : List UInt8 :=
  (bytes.drop offset).takeWhile isDigitByte

/-- The decimal number that digits spell. -/
def number (digits : List UInt8) : Nat :=
  Nat.ofDigits 10 (digits.map fun b => b.toNat - 48).reverse

lemma byteDigit_of_isDigitByte {b : UInt8} (hb : isDigitByte b) :
    Index.byteDigit b = some (b.toNat - 48) := by
  rw [isDigitByte, Bool.and_eq_true, decide_eq_true_eq, decide_eq_true_eq] at hb
  exact if_pos hb

lemma isSome_byteDigit (b : UInt8) : (Index.byteDigit b).isSome = isDigitByte b := by
  cases hb : isDigitByte b with
  | true =>
    rw [byteDigit_of_isDigitByte hb]
    rfl
  | false =>
    have hnone : ¬(48 ≤ b ∧ b ≤ 57) := by
      rw [isDigitByte] at hb
      simpa using hb
    rw [Index.byteDigit, if_neg hnone]
    rfl

lemma digitRun_byteDigit (l : List UInt8) :
    digitRun Index.byteDigit l = (l.takeWhile isDigitByte).map fun b => b.toNat - 48 := by
  simp only [digitRun, isSome_byteDigit]
  rw [← List.filterMap_eq_map]
  apply List.filterMap_congr
  intro b hb
  exact byteDigit_of_isDigitByte (List.mem_takeWhile_imp hb)

lemma length_digitsFrom_le (bytes : List UInt8) (offset : Nat) :
    (digitsFrom bytes offset).length ≤ bytes.length - offset := by
  rw [← List.length_drop]
  exact (List.takeWhile_prefix _).length_le

lemma number_lt {digits : List UInt8} (hdigits : ∀ b ∈ digits, isDigitByte b) :
    number digits < 10 ^ digits.length := by
  have hall : ∀ d ∈ (digits.map fun b => b.toNat - 48).reverse, d < 10 := by
    intro d hd
    rw [List.mem_reverse, List.mem_map] at hd
    obtain ⟨b, hb, rfl⟩ := hd
    have hb := hdigits b hb
    rw [isDigitByte, Bool.and_eq_true, decide_eq_true_eq, decide_eq_true_eq] at hb
    have hnine : b.toNat ≤ 57 := hb.2
    omega
  have hbound := Nat.ofDigits_lt_base_pow_length (by omega) hall
  rwa [List.length_reverse, List.length_map] at hbound

/-- The outcome comes from the bytes that follow the offset, and only the place where it stops from the
offset itself. -/
lemma decodeAt_drop (bytes : List UInt8) (offset : Nat) :
    Index.decodeAt bytes offset =
      (Index.decode Index.byteDigit (bytes.drop offset)).map fun read => (read.1, offset + read.2) := by
  rw [Index.decodeAt]
  cases Index.decode Index.byteDigit (bytes.drop offset) with
  | error fault => rfl
  | ok read => rfl

lemma decodeAt_eq (bytes : List UInt8) (offset : Nat) :
    Index.decodeAt bytes offset =
      if 3 < (digitsFrom bytes offset).length then .error .indexTooLarge
      else if digitsFrom bytes offset = [] then .error .missingIndex
      else .ok ((number (digitsFrom bytes offset)).toUInt32,
        offset + (digitsFrom bytes offset).length) := by
  have hdecode : Index.decode Index.byteDigit (bytes.drop offset) =
      if 3 < (digitsFrom bytes offset).length then .error .indexTooLarge
      else if digitsFrom bytes offset = [] then .error .missingIndex
      else .ok ((number (digitsFrom bytes offset)).toUInt32, (digitsFrom bytes offset).length) := by
    rw [decode_eq, digitRun_byteDigit, foldl_eq_ofDigits]
    simp only [List.length_map, List.map_eq_nil_iff]
    rfl
  rw [decodeAt_drop, hdecode]
  split
  · rfl
  · split
    · rfl
    · rfl

lemma decodeAt_missing_iff (bytes : List UInt8) (offset : Nat) :
    Index.decodeAt bytes offset = .error .missingIndex ↔ (digitsFrom bytes offset).length = 0 := by
  rw [decodeAt_eq, List.length_eq_zero_iff]
  split
  · rename_i hlong
    refine ⟨nofun, fun hnone => absurd hlong ?_⟩
    rw [hnone]
    exact Nat.not_lt_zero 3
  · split
    · rename_i hnone
      exact iff_of_true rfl hnone
    · rename_i hsome
      exact ⟨nofun, fun hnone => absurd hnone hsome⟩

lemma decodeAt_tooLarge_iff (bytes : List UInt8) (offset : Nat) :
    Index.decodeAt bytes offset = .error .indexTooLarge ↔ 4 ≤ (digitsFrom bytes offset).length := by
  rw [decodeAt_eq]
  split
  · rename_i hlong
    exact iff_of_true rfl hlong
  · rename_i hshort
    refine ⟨fun h => ?_, fun hlong => absurd hlong hshort⟩
    split at h <;> cases h

lemma decodeAt_found {bytes : List UInt8} {offset : Nat}
    (hsome : 1 ≤ (digitsFrom bytes offset).length) (hshort : (digitsFrom bytes offset).length ≤ 3) :
    Index.decodeAt bytes offset = .ok ((number (digitsFrom bytes offset)).toUInt32,
      offset + (digitsFrom bytes offset).length) := by
  rw [decodeAt_eq, if_neg (Nat.not_lt_of_le hshort), if_neg (List.ne_nil_of_length_pos hsome)]

lemma number_digitsFrom_le {bytes : List UInt8} {offset : Nat}
    (hshort : (digitsFrom bytes offset).length ≤ 3) : number (digitsFrom bytes offset) ≤ 999 := by
  have hdigits : ∀ b ∈ digitsFrom bytes offset, isDigitByte b := fun _ hb => List.mem_takeWhile_imp hb
  have hlt := number_lt hdigits
  have hpow : 10 ^ (digitsFrom bytes offset).length ≤ 10 ^ 3 := Nat.pow_le_pow_right (by omega) hshort
  omega

/-! ### Place by place -/

lemma digitAt_add (bytes : List UInt8) (offset p : Nat) :
    Index.digitAt bytes (offset + p) = (bytes.drop offset)[p]?.bind Index.byteDigit := by
  rw [Index.digitAt, List.getElem?_drop]

/-- The first places hold digits if and only if the run of digits is as long. -/
lemma le_length_digitRun {α : Type} (digit : α → Option Nat) (l : List α) (n : Nat) :
    n ≤ (digitRun digit l).length ↔ ∀ p < n, (l[p]?.bind digit).isSome := by
  induction l generalizing n with
  | nil =>
    cases n with
    | zero => simp
    | succ n =>
      have hnone : (digitRun digit ([] : List α)).length = 0 := rfl
      refine iff_of_false (by omega) fun hall => ?_
      have hfirst := hall 0 (Nat.succ_pos n)
      cases hfirst
  | cons a l ih =>
    cases n with
    | zero => simp
    | succ n =>
      rw [Nat.forall_lt_succ_left]
      cases ha : digit a with
      | none => simp [digitRun_cons_none digit ha, ha]
      | some d => simp [digitRun_cons_some digit ha, ha, ih n]

lemma foldl_toUInt32 (ds : List Nat) (n : Nat) :
    ds.foldl (fun v d => v * 10 + d.toUInt32) n.toUInt32 =
      (ds.foldl (fun n d => n * 10 + d) n).toUInt32 := by
  induction ds generalizing n with
  | nil => rfl
  | cons d ds ih =>
    have hstep : n.toUInt32 * 10 + d.toUInt32 = (n * 10 + d).toUInt32 := by
      simp [Nat.toUInt32]
    rw [List.foldl_cons, List.foldl_cons, hstep, ih]

lemma extend_eq (bytes : List UInt8) (offset limit : Nat) (value : UInt32) (width : Nat) :
    Index.extend bytes offset limit value width =
      let ds := (digitRun Index.byteDigit (bytes.drop (offset + width))).take limit
      (ds.foldl (fun v d => v * 10 + d.toUInt32) value, width + ds.length) := by
  induction limit generalizing value width with
  | zero => rfl
  | succ limit ih =>
    rw [Index.extend, Index.digitAt]
    cases hrest : bytes.drop (offset + width) with
    | nil =>
      have hend : bytes[offset + width]? = none := by
        rw [← List.head?_drop, hrest]
        rfl
      rw [hend]
      rfl
    | cons b rest =>
      have hb : bytes[offset + width]? = some b := by
        rw [← List.head?_drop, hrest]
        rfl
      have hnext : bytes.drop (offset + (width + 1)) = rest := by
        rw [← Nat.add_assoc, ← List.drop_drop, hrest]
        rfl
      rw [hb, Option.bind_some]
      cases hd : Index.byteDigit b with
      | none =>
        rw [digitRun_cons_none _ hd]
        rfl
      | some d =>
        dsimp only
        rw [ih, hnext, digitRun_cons_some _ hd, List.take_succ_cons, List.foldl_cons,
          List.length_cons]
        dsimp only
        congr 1
        omega

lemma decodeByPlace_eq (bytes : List UInt8) (offset : Nat) :
    Index.decodeByPlace bytes offset = Index.decodeAt bytes offset := by
  have hlong : ((Index.digitAt bytes (offset + maxIndexDigits)).isSome &&
      (List.range maxIndexDigits).all fun p => (Index.digitAt bytes (offset + p)).isSome) = true ↔
        maxIndexDigits < (digitRun Index.byteDigit (bytes.drop offset)).length := by
    rw [Nat.lt_iff_add_one_le, le_length_digitRun, Nat.forall_lt_succ_right, Bool.and_eq_true,
      List.all_eq_true]
    simp only [digitAt_add, List.mem_range]
    exact and_comm
  rw [Index.decodeByPlace, decodeAt_drop, decode_eq, extend_eq]
  by_cases hw : maxIndexDigits < (digitRun Index.byteDigit (bytes.drop offset)).length
  · rw [if_pos (hlong.mpr hw), if_pos hw]
    rfl
  · rw [if_neg (hlong.not.mpr hw), if_neg hw, Nat.add_zero,
      List.take_of_length_le (Nat.le_of_not_lt hw)]
    dsimp only
    split
    · rename_i hnone
      rw [if_pos (List.eq_nil_of_length_eq_zero ((Nat.zero_add _).symm.trans hnone))]
      rfl
    · rename_i hsome
      rw [if_neg fun hnil => hsome (by rw [hnil]; rfl), Nat.zero_add]
      exact congrArg (fun value => Except.ok (value, _)) (foldl_toUInt32 _ 0)

/-! ### Numerals -/

/-- A number in decimal, with zeros in front if it has fewer digits than wanted. -/
def numeral (width n : Nat) : List UInt8 :=
  utf8 (String.ofList ((Nat.toDigits 10 n).leftpad width '0'))

lemma leftpad_isDigit (width n : Nat) :
    ∀ c ∈ (Nat.toDigits 10 n).leftpad width '0', c.isDigit := by
  intro c hc
  rcases List.mem_append.mp hc with hc | hc
  · rw [(List.mem_replicate.mp hc).2]
    rfl
  · exact toDigits_isDigit n c hc

lemma numeral_eq (width n : Nat) :
    numeral width n =
      ((Nat.toDigits 10 n).leftpad width '0').map fun c => UInt8.ofNat c.toNat := by
  rw [numeral, utf8_eq, String.toList_ofList]
  exact encode_of_isDigit (leftpad_isDigit width n)

lemma ofDigitChars_zeros (count : Nat) (l : List Char) :
    Nat.ofDigitChars 10 (List.replicate count '0' ++ l) 0 = Nat.ofDigitChars 10 l 0 := by
  induction count with
  | zero => rfl
  | succ count ih => exact ih

lemma number_numeral (width n : Nat) : number (numeral width n) = n := by
  have hvalues : ∀ c ∈ (Nat.toDigits 10 n).leftpad width '0',
      (UInt8.ofNat c.toNat).toNat - 48 = c.toNat - '0'.toNat := by
    intro c hc
    have hnarrow := narrow_of_isDigit (leftpad_isDigit width n c hc)
    rw [UInt8.toNat_ofNat', Nat.mod_eq_of_lt (by omega)]
    rfl
  calc number (numeral width n)
      = Nat.ofDigits 10
          (((Nat.toDigits 10 n).leftpad width '0').map fun c => c.toNat - '0'.toNat).reverse := by
        rw [number, numeral_eq, List.map_map]
        exact congrArg (fun l : List Nat => Nat.ofDigits 10 l.reverse) (List.map_congr_left hvalues)
    _ = Nat.ofDigitChars 10 ((Nat.toDigits 10 n).leftpad width '0') 0 := by
        rw [← foldl_eq_ofDigits, List.foldl_map, Nat.ofDigitChars]
        simp only [Nat.mul_comm]
    _ = n := by
        rw [List.leftpad, ofDigitChars_zeros, Nat.ofDigitChars_toDigits (by omega) (by omega)]

lemma numeral_isDigitByte (width n : Nat) : ∀ b ∈ numeral width n, isDigitByte b := by
  rw [numeral_eq, List.forall_mem_map]
  intro c hc
  have hdigit := leftpad_isDigit width n c hc
  rw [← isSome_byteDigit, byteDigit_narrow (narrow_of_isDigit hdigit), charDigit_of_isDigit hdigit]
  rfl

lemma length_numeral (width n : Nat) :
    (numeral width n).length = max width (Nat.toDigits 10 n).length := by
  rw [numeral_eq, List.length_map, List.length_leftpad]

/-- Where a numeral stands, it is the run of digits. -/
lemma digitsFrom_numeral {bytes rest : List UInt8} {offset width n : Nat}
    (hbytes : bytes.drop offset = numeral width n ++ rest)
    (hrest : ∀ b, rest.head? = some b → ¬isDigitByte b) :
    digitsFrom bytes offset = numeral width n := by
  have hspan := span_eq_iff.mpr ⟨numeral_isDigitByte width n, hrest, hbytes⟩
  rw [List.span_eq_takeWhile_dropWhile] at hspan
  exact congrArg Prod.fst hspan

lemma decodeAt_numeral {bytes rest : List UInt8} {offset width n : Nat} (hn : n ≤ 999)
    (hwidth : width ≤ 3) (hbytes : bytes.drop offset = numeral width n ++ rest)
    (hrest : ∀ b, rest.head? = some b → ¬isDigitByte b) :
    Index.decodeAt bytes offset = .ok (n.toUInt32, offset + (numeral width n).length) := by
  have hrun := digitsFrom_numeral hbytes hrest
  have hlength := length_numeral width n
  have hshort : (Nat.toDigits 10 n).length ≤ 3 := Nat.toDigits_length 10 n 3 (by omega) (by omega)
  have hsome : 0 < (Nat.toDigits 10 n).length := List.length_pos_of_ne_nil Nat.toDigits_ne_nil
  rw [← hrun] at hlength
  rw [decodeAt_found (by omega) (by omega), hrun, number_numeral]

/-- Whatever the bytes and the offset, even one behind the end, the index is that of the whole run of
digits at the offset: there is none if the run is empty, it is too large if the run has more than three
digits, and otherwise it is the number that they spell. All that counts is what follows the offset.
Every number up to 999 is read from its numerals, zeros in front or not. Reading place by place comes to
the same. -/
theorem index_is_the_run_of_digits (bytes : List UInt8) (offset : Nat) :
    let read := Index.decodeAt bytes offset
    let run := digitsFrom bytes offset
    (read = .error .missingIndex ↔ run.length = 0) ∧
    (read = .error .indexTooLarge ↔ 4 ≤ run.length) ∧
    (1 ≤ run.length → run.length ≤ 3 → ∃ index, read = .ok (index, offset + run.length) ∧
      index.toNat = number run ∧ index.toNat ≤ 999 ∧ offset + run.length ≤ bytes.length) ∧
    (∀ moved place, moved.drop place = bytes.drop offset →
      ∃ found : Except PathFault (UInt32 × Nat),
        read = found.map (fun f => (f.1, offset + f.2)) ∧
        Index.decodeAt moved place = found.map fun f => (f.1, place + f.2)) ∧
    (∀ n width rest, n ≤ 999 → width ≤ 3 → bytes.drop offset = numeral width n ++ rest →
      (∀ b, rest.head? = some b → ¬isDigitByte b) →
      read = .ok (n.toUInt32, offset + (numeral width n).length)) ∧
    Index.decodeByPlace bytes offset = read := by
  refine ⟨decodeAt_missing_iff bytes offset, decodeAt_tooLarge_iff bytes offset, ?_, ?_,
    fun n width rest => decodeAt_numeral, decodeByPlace_eq bytes offset⟩
  · intro hsome hshort
    have hbound := number_digitsFrom_le hshort
    have hinside := length_digitsFrom_le bytes offset
    have hvalue : (number (digitsFrom bytes offset)).toUInt32.toNat =
        number (digitsFrom bytes offset) := UInt32.toNat_ofNat_of_lt (hbound.trans_lt (by decide))
    exact ⟨_, decodeAt_found hsome hshort, hvalue, hvalue.trans_le hbound, by omega⟩
  · intro moved place hmoved
    refine ⟨Index.decode Index.byteDigit (bytes.drop offset), decodeAt_drop bytes offset, ?_⟩
    rw [decodeAt_drop, hmoved]

/-- The index of a path is found where it stands, with zeros in front, and in the rest of the path as
well. Behind the end there is none. -/
theorem index_is_the_run_of_digits_padded :
    let path := utf8 "/rack/007/mute"
    let rest := utf8 "007/mute"
    Index.decodeAt path 6 = .ok (7, 9) ∧ Index.decodeAt rest 0 = .ok (7, 3) ∧
      Index.decodeAt path 20 = .error .missingIndex := by
  intro path rest
  obtain ⟨_, _, _, hmoved, hnumeral, _⟩ := index_is_the_run_of_digits path 6
  have hread : Index.decodeAt path 6 = .ok (7, 9) :=
    hnumeral 7 3 (utf8 "/mute") (by decide) (by decide) (by decide +kernel) (by decide +kernel)
  obtain ⟨found, hfound, hrest⟩ := hmoved rest 0 (by decide +kernel)
  refine ⟨hread, ?_, (index_is_the_run_of_digits path 20).1.mpr (by decide +kernel)⟩
  rw [hread] at hfound
  cases found with
  | error fault => cases hfound
  | ok f =>
    obtain ⟨index, width⟩ := f
    have hpair : (7, 9) = (index, 6 + width) := Except.ok.inj hfound
    obtain ⟨rfl, hnext⟩ := Prod.mk.inj hpair
    obtain rfl : width = 3 := by omega
    exact hrest

end RackRemote.Proofs
