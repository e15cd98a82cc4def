import RackRemote.Proofs.Quoting
import RackRemote.Settings

/-!
# Values at the end of a line

What is written for a text, a truth value or a number is read as this value up to the end of its
line. A number has to be told from a point in time and from a number in another base, which begin
with digits as well.
-/

namespace RackRemote.Proofs
open Toml

/-! ### Truth values -/

lemma keyword?_append (word rest : List Char) : keyword? word (word ++ rest) = some rest := by
  rw [keyword?, if_pos (List.prefix_append word rest), List.drop_left]

lemma keyword?_of_head {w : Char} {ws l : List Char} (hl : l.head? ≠ some w) :
    keyword? (w :: ws) l = none := by
  rw [keyword?, if_neg]
  rintro ⟨rest, rfl⟩
  exact hl rfl

lemma scalar_boolText (b : Bool) (rest : List Char) :
    scalar ((Settings.boolText b).toList ++ rest) = some (.boolean b, rest) := by
  unfold scalar
  cases b with
  | true =>
    have hword : (Settings.boolText true).toList = "true".toList := rfl
    rw [hword, keyword?_append]
  | false =>
    have hword : (Settings.boolText false).toList = "false".toList := rfl
    have hother : keyword? "true".toList ("false".toList ++ rest) = none :=
      keyword?_of_head (show some 'f' ≠ some 't' by decide)
    rw [hword, keyword?_append, hother]

/-! ### Numbers -/

/-- What is left of a line that ends with digits. -/
def Numeral (l : List Char) : Prop :=
  ∃ ds rest, (∀ c ∈ ds, c.isDigit) ∧ l = ds ++ '\n' :: rest

lemma digitValue_of_isDigit {c : Char} (hc : c.isDigit) :
    digitValue 10 c = some (c.toNat - '0'.toNat) := by
  rw [Char.isDigit, Bool.and_eq_true, decide_eq_true_eq, decide_eq_true_eq] at hc
  have hrange : '0' ≤ c ∧ c ≤ '9' := hc
  have hnine : c.toNat ≤ 57 := hc.2
  have hzero : '0'.toNat = 48 := rfl
  rw [digitValue, if_pos hrange]
  exact if_pos (by omega)

lemma sign_of_head {l : List Char} (hminus : l.head? ≠ some '-') (hplus : l.head? ≠ some '+') :
    sign l = (false, l) := by
  unfold sign
  split
  · exact absurd rfl hminus
  · exact absurd rfl hplus
  · rfl

namespace Numeral

variable {l : List Char} (h : Numeral l)
include h

lemma head {w : Char} (hdigit : w.isDigit = false) (hline : w ≠ '\n') : l.head? ≠ some w := by
  obtain ⟨ds, rest, hds, rfl⟩ := h
  cases ds with
  | nil => exact fun hw => hline (Option.some.inj hw).symm
  | cons c ds =>
    intro hw
    have hc := hds c List.mem_cons_self
    rw [Option.some.inj hw, hdigit] at hc
    cases hc

lemma keyword? {w : Char} (hdigit : w.isDigit = false) (hline : w ≠ '\n') (ws : List Char) :
    keyword? (w :: ws) l = none := keyword?_of_head (h.head hdigit hline)

lemma sign : sign l = (false, l) :=
  sign_of_head (h.head rfl (by decide)) (h.head rfl (by decide))

lemma special : special l = none := by
  have hinf : Toml.keyword? "inf".toList l = none := h.keyword? rfl (by decide) _
  have hnan : Toml.keyword? "nan".toList l = none := h.keyword? rfl (by decide) _
  rw [Toml.special, h.sign]
  dsimp only
  rw [hinf, hnan]
  rfl

lemma field {n v : Nat} {r : List Char} (hf : field n l = some (v, r)) : Numeral r := by
  obtain ⟨ds, rest, hds, rfl⟩ := h
  rw [Toml.field] at hf
  split at hf
  · rename_i hfield
    cases hf
    by_cases hn : n ≤ ds.length
    · rw [List.drop_append_of_le_length hn]
      exact ⟨ds.drop n, rest, fun c hc => hds c (List.mem_of_mem_drop hc), rfl⟩
    · -- The digits would have to go on behind the end of the line.
      have hmem : '\n' ∈ (ds ++ '\n' :: rest).take n := by
        obtain ⟨k, rfl⟩ : ∃ k, n = ds.length + (k + 1) := ⟨n - ds.length - 1, by omega⟩
        rw [List.take_length_add_append, List.take_succ_cons]
        simp
      have hdigit := List.all_eq_true.mp hfield.2 _ hmem
      cases hdigit
  · cases hf

lemma fieldIn {low high v : Nat} {r : List Char} (hf : fieldIn low high l = some (v, r)) :
    Numeral r := by
  rw [Toml.fieldIn] at hf
  cases hfield : Toml.field 2 l with
  | none =>
    rw [hfield] at hf
    cases hf
  | some found =>
    rw [hfield] at hf
    dsimp only [Option.bind_eq_bind, Option.bind_some] at hf
    split at hf
    · cases hf
      exact h.field hfield
    · cases hf

lemma dateTime : dateTime l = none := by
  have hdate : date l = none := by
    rw [date]
    cases hfield : Toml.field 4 l with
    | none => rfl
    | some found =>
      have hrest : Toml.keyword? ['-'] found.2 = none :=
        (h.field hfield).keyword? rfl (by decide) []
      dsimp only [Option.bind_eq_bind, Option.bind_some]
      rw [hrest]
      rfl
  have htime : time l = none := by
    rw [time]
    cases hfield : Toml.fieldIn 0 23 l with
    | none => rfl
    | some found =>
      have hrest : Toml.keyword? [':'] found.2 = none :=
        (h.fieldIn hfield).keyword? rfl (by decide) []
      dsimp only [Option.bind_eq_bind, Option.bind_some]
      rw [hrest]
      rfl
  rw [Toml.dateTime, hdate]
  exact htime

omit h in
lemma tail {c : Char} (h : Numeral (c :: l)) (hc : c.isDigit) : Numeral l := by
  obtain ⟨ds, rest, hds, hl⟩ := h
  cases ds with
  | nil =>
    rw [(List.cons.inj hl).1] at hc
    cases hc
  | cons d ds => exact ⟨ds, rest, (List.forall_mem_cons.mp hds).2, (List.cons.inj hl).2⟩

lemma ne_base {w : Char} (hdigit : w.isDigit = false) (hline : w ≠ '\n') :
    ∀ rest, l ≠ '0' :: w :: rest := by
  rintro rest rfl
  exact (h.tail rfl).head hdigit hline rfl

/-- It is neither a word nor a point in time, and no base is given. -/
lemma scalar : scalar l = decimalNumber l := by
  have htrue : Toml.keyword? "true".toList l = none := h.keyword? rfl (by decide) _
  have hfalse : Toml.keyword? "false".toList l = none := h.keyword? rfl (by decide) _
  rw [Toml.scalar, htrue, hfalse, h.special, h.dateTime]
  · exact h.ne_base rfl (by decide)
  · exact h.ne_base rfl (by decide)
  · exact h.ne_base rfl (by decide)

end Numeral

lemma isDigit_ten {c : Char} (hc : c.isDigit) : isDigit 10 c = true := by
  rw [isDigit, digitValue_of_isDigit hc]
  rfl

lemma digits_append {ds : List Char} (hds : ∀ c ∈ ds, c.isDigit) (rest : List Char) :
    digits 10 (ds ++ '\n' :: rest) = (ds, '\n' :: rest) := by
  induction ds with
  | nil => rfl
  | cons c ds ih =>
    obtain ⟨hc, hds⟩ := List.forall_mem_cons.mp hds
    rw [List.cons_append, digits, if_pos (isDigit_ten hc), ih hds]
    rintro d more rfl
    cases hc

lemma ofDigits_of_isDigit {ds : List Char} (hds : ∀ c ∈ ds, c.isDigit) :
    ofDigits 10 ds = Nat.ofDigitChars 10 ds 0 := by
  rw [ofDigits, Nat.ofDigitChars]
  apply List.foldl_ext
  intro n c hc
  rw [digitValue_of_isDigit (hds c hc), Nat.mul_comm]

lemma digitChar_ne_zero : ∀ n < 10, n ≠ 0 → some (Nat.digitChar n) ≠ some '0' := by decide

/-- Only zero is written with a zero in front. -/
lemma toDigits_head {n : Nat} (hn : n ≠ 0) : (Nat.toDigits 10 n).head? ≠ some '0' := by
  induction n using Nat.strongRecOn with
  | ind n ih =>
    rw [Nat.toDigits_eq_if (by omega)]
    split
    · rename_i hlt
      exact digitChar_ne_zero n hlt hn
    · rw [List.head?_append_of_ne_nil _ Nat.toDigits_ne_nil]
      exact ih (n / 10) (by omega) (by omega)

lemma toDigits_isDigit (n : Nat) : ∀ c ∈ Nat.toDigits 10 n, c.isDigit := fun _ hc =>
  Nat.isDigit_of_mem_toDigits (by omega) (by omega) hc

lemma decimal?_toDigits (n : Nat) (rest : List Char) :
    decimal? (Nat.toDigits 10 n ++ '\n' :: rest) = some (Nat.toDigits 10 n, '\n' :: rest) := by
  by_cases hn : n = 0
  · rw [hn]
    rfl
  · have hhead := toDigits_head hn
    have hds := toDigits_isDigit n
    cases htext : Nat.toDigits 10 n with
    | nil => exact absurd htext Nat.toDigits_ne_nil
    | cons c ds =>
      rw [htext] at hhead hds
      obtain ⟨hc, hds⟩ := List.forall_mem_cons.mp hds
      rw [List.cons_append]
      unfold decimal?
      split
      · rename_i hzero
        exact absurd (congrArg some (List.cons.inj hzero).1) hhead
      · rw [digits?, if_pos (isDigit_ten hc), digits_append hds]

lemma integer?_natCast {n : Nat} (hn : n < 0x8000000000000000) :
    integer? false n = some (.integer n) := by
  have hlow : (-0x8000000000000000 : Int) ≤ n := by omega
  have hhigh : (n : Int) < 0x8000000000000000 := by omega
  unfold integer?
  simp only [Bool.false_eq_true, if_false, hlow, hhigh, and_self, if_true]

/-- An integer ends where its digits end. -/
lemma decimalNumber_eq {l ds rest : List Char} {v : Value} (hsign : sign l = (false, l))
    (hdigits : decimal? l = some (ds, '\n' :: rest))
    (hvalue : integer? false (ofDigits 10 ds) = some v) :
    decimalNumber l = some (v, '\n' :: rest) := by
  have hend : ¬(('\n' :: rest).head? = some '.' ∨ ('\n' :: rest).head? = some 'e' ∨
      ('\n' :: rest).head? = some 'E') := by simp
  -- Step by step: simp would enter the branch for floats, and there the bound of doubles.
  unfold decimalNumber
  rw [hsign]
  dsimp only
  rw [hdigits, Option.bind_eq_bind, Option.bind_some]
  refine (if_neg hend).trans ?_
  rw [hvalue]
  rfl

/-- A number that fits into 63 bits is read as it is written. -/
lemma scalar_repr {n : Nat} (hn : n < 0x8000000000000000) (rest : List Char) :
    scalar (n.repr.toList ++ '\n' :: rest) = some (.integer n, '\n' :: rest) := by
  have hds := toDigits_isDigit n
  have hnumeral : Numeral (Nat.toDigits 10 n ++ '\n' :: rest) := ⟨_, rest, hds, rfl⟩
  rw [Nat.toList_repr, hnumeral.scalar]
  apply decimalNumber_eq hnumeral.sign (decimal?_toDigits n rest)
  rw [ofDigits_of_isDigit hds, Nat.ofDigitChars_toDigits (by omega) (by omega)]
  exact integer?_natCast hn

/-! ### Values -/

lemma value_text (depth : Nat) {l rest s : List Char} (hl : text l = some (s, rest)) :
    value depth l = some (.string (String.ofList s), rest) := by
  unfold value
  split
  · cases hl
  · cases hl
  · rw [hl]

lemma text_eq_none {l : List Char} (hquote : l.head? ≠ some '"') (hother : l.head? ≠ some '\'') :
    text l = none := by
  unfold text
  split
  · exact absurd rfl hquote
  · exact absurd rfl hother
  · exact absurd rfl hquote
  · exact absurd rfl hother
  · rfl

lemma skipBlanks_eq {l : List Char} (hblank : l.head? ≠ some ' ') (htab : l.head? ≠ some '\t') :
    skipBlanks l = l := by
  cases l with
  | nil => rfl
  | cons c l =>
    apply List.dropWhile_cons_of_neg
    rw [Bool.or_eq_true, beq_iff_eq, beq_iff_eq, not_or]
    exact ⟨fun hc => hblank (congrArg some hc), fun hc => htab (congrArg some hc)⟩

/-- A text at the end of a line is read as a value. -/
structure Denotes (l : List Char) (v : Value) : Prop where
  start : ∀ rest, skipBlanks (l ++ '\n' :: rest) = l ++ '\n' :: rest
  read : ∀ rest, value maxDepth (l ++ '\n' :: rest) = some (v, '\n' :: rest)

/-- What cannot stand in front of a truth value or a number. -/
def openers : List Char := [' ', '\t', '"', '\'', '[', '\x7b']

lemma denotes_scalar {l : List Char} {v : Value}
    (hhead : ∀ c ∈ openers, ∀ rest, (l ++ '\n' :: rest).head? ≠ some c)
    (hread : ∀ rest, scalar (l ++ '\n' :: rest) = some (v, '\n' :: rest)) : Denotes l v := by
  simp only [openers, List.forall_mem_cons] at hhead
  obtain ⟨hblank, htab, hquote, hother, hbracket, hbrace, _⟩ := hhead
  constructor
  · intro rest
    exact skipBlanks_eq (hblank rest) (htab rest)
  · intro rest
    unfold value
    split
    · rename_i hopen
      exact absurd (congrArg List.head? hopen) (hbracket rest)
    · rename_i hopen
      exact absurd (congrArg List.head? hopen) (hbrace rest)
    · rw [text_eq_none (hquote rest) (hother rest)]
      exact hread rest

lemma denotes_boolText (b : Bool) : Denotes (Settings.boolText b).toList (.boolean b) := by
  have htrue : ∀ c ∈ openers, some 't' ≠ some c := by simp [openers]
  have hfalse : ∀ c ∈ openers, some 'f' ≠ some c := by simp [openers]
  apply denotes_scalar
  · intro c hc rest
    cases b with
    | true => exact htrue c hc
    | false => exact hfalse c hc
  · intro rest
    exact scalar_boolText b ('\n' :: rest)

lemma denotes_repr {n : Nat} (hn : n < 0x8000000000000000) :
    Denotes n.repr.toList (.integer n) := by
  have hopeners : ∀ c ∈ openers, c.isDigit = false ∧ c ≠ '\n' := by simp [openers, Char.isDigit]
  have hds : ∀ c ∈ n.repr.toList, c.isDigit := by
    rw [Nat.toList_repr]
    exact toDigits_isDigit n
  apply denotes_scalar
  · intro c hc rest
    have hnumeral : Numeral (n.repr.toList ++ '\n' :: rest) := ⟨_, rest, hds, rfl⟩
    exact hnumeral.head (hopeners c hc).1 (hopeners c hc).2
  · exact scalar_repr hn

lemma head_written (s : List Char) :
    ∃ q rest, written s = q :: rest ∧ (q = '"' ∨ q = '\'') := by
  unfold written
  cases Form.of s with
  | basic => exact ⟨_, _, rfl, .inl rfl⟩
  | literal => exact ⟨_, _, rfl, .inr rfl⟩
  | multiBasic => exact ⟨_, _, rfl, .inl rfl⟩
  | multiLiteral => exact ⟨_, _, rfl, .inr rfl⟩

lemma denotes_written (s : String) : Denotes (written s.toList) (.string s) := by
  constructor
  · intro rest
    obtain ⟨q, l, hl, hq⟩ := head_written s.toList
    rw [hl]
    rcases hq with rfl | rfl
    · rfl
    · rfl
  · intro rest
    rw [value_text maxDepth (text_written s.toList rest), String.ofList_toList]

end RackRemote.Proofs
