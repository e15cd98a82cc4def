import Mathlib.Data.List.Basic
import RackRemote.Toml.Text

/-!
# Strings read back

Whatever characters a text has, the form in which it is written is read back as this text, and what
follows is left alone. There is one lemma for each form. Those about triple quotes go by the number
of quotes just before a place, because whether these close the string is not known until they end.
-/

namespace RackRemote.Proofs
open Toml

/-! ### Characters -/

lemma ne_newline_of_plain {c : Char} (hc : plain c) : c ≠ '\n' ∧ c ≠ '\r' := by
  constructor
  · rintro rfl
    cases hc
  · rintro rfl
    cases hc

lemma newline?_eq_none {c : Char} (hfeed : c ≠ '\n') (hreturn : c ≠ '\r') (l : List Char) :
    newline? (c :: l) = none := by
  unfold newline?
  split
  · rename_i h
    exact absurd (List.cons.inj h).1 hfeed
  · rename_i h
    exact absurd (List.cons.inj h).1 hreturn
  · rfl

lemma digitValue_hexDigit {d : Nat} (hd : d < 16) : digitValue 16 (hexDigit d) = some d := by
  revert d
  decide

/-- Four hexadecimal digits are enough for the characters that have to be written as such. -/
lemma codePoint_escapeCode {c : Char} (hc : c.toNat < 65536) :
    ∃ code, escapeCode c = '\\' :: 'u' :: code ∧
      ∀ rest, codePoint 4 (code ++ rest) = some (c, rest) := by
  refine ⟨_, rfl, fun rest => ?_⟩
  have hdigit : ∀ n, digitValue 16 (hexDigit (n % 16)) = some (n % 16) :=
    fun n => digitValue_hexDigit (Nat.mod_lt n (by omega))
  have hvalue : ofDigits 16 ([c.toNat / 4096 % 16, c.toNat / 256 % 16, c.toNat / 16 % 16,
      c.toNat % 16].map hexDigit) = c.toNat := by
    simp only [List.map_cons, List.map_nil, ofDigits, List.foldl_cons, List.foldl_nil, hdigit]
    omega
  simp only [List.map_cons, List.map_nil] at hvalue
  simp only [codePoint, List.map_cons, List.map_nil, List.cons_append, List.nil_append,
    List.take_succ_cons, List.take_zero, hvalue]
  rw [if_pos]
  · simp
  · refine ⟨rfl, ?_, c.valid⟩
    simp [hdigit]

/-- How a character can stand where escapes are read. -/
inductive Stands (c : Char) : List Char → Prop where
  | plain : plain c → c ≠ '\\' → c ≠ '"' → Stands c [c]
  | escaped {code : List Char} : (∀ rest, escaped (code ++ rest) = some (c, rest)) →
    (∀ rest, newline? (skipBlanks (code ++ rest)) = none) → Stands c ('\\' :: code)

lemma stands_quote : Stands '"' ['\\', '"'] := .escaped (fun _ => rfl) fun _ => rfl

lemma stands_escapeCode {c : Char} (hc : plain c = false) : Stands c (escapeCode c) := by
  have hsmall : c.toNat < 65536 := by
    rw [plain, Bool.or_eq_false_iff, Bool.and_eq_false_iff, decide_eq_false_iff_not] at hc
    rcases hc.2 with hlow | hdelete
    · omega
    · rw [bne_eq_false_iff_eq.mp hdelete]
      decide
  obtain ⟨code, hcode, hread⟩ := codePoint_escapeCode hsmall
  rw [hcode]
  exact .escaped hread fun _ => rfl

lemma stands_escape {c : Char} (hc : c ≠ '"') : Stands c (escape c) := by
  unfold escape
  split
  · exact .escaped (fun _ => rfl) fun _ => rfl
  · exact .escaped (fun _ => rfl) fun _ => rfl
  · exact .escaped (fun _ => rfl) fun _ => rfl
  · exact .escaped (fun _ => rfl) fun _ => rfl
  · exact .escaped (fun _ => rfl) fun _ => rfl
  · exact .escaped (fun _ => rfl) fun _ => rfl
  · rename_i hback
    split
    · rename_i hplain
      exact .plain hplain hback hc
    · rename_i hcontrol
      exact stands_escapeCode (Bool.eq_false_iff.mpr hcontrol)

/-! ### On one line -/

lemma basic_stands {c : Char} {code : List Char} (hc : Stands c code) {rest s after : List Char}
    (hr : basic rest = some (s, after)) : basic (code ++ rest) = some (c :: s, after) := by
  cases hc with
  | plain hplain hback hquote =>
    rw [List.singleton_append, basic, if_neg hquote, if_neg hback, if_pos hplain, hr]
    rfl
  | escaped hcode _ =>
    rw [List.cons_append, basic, if_neg (by decide), if_pos rfl]
    split
    · rename_i hnone
      rw [hcode] at hnone
      cases hnone
    · rename_i hsome
      rw [hcode] at hsome
      cases hsome
      rw [hr]
      rfl

lemma basic_escapeLine (s rest : List Char) :
    basic (escapeLine s ++ '"' :: rest) = some (s, rest) := by
  induction s with
  | nil => rw [escapeLine, List.nil_append, basic, if_pos rfl]
  | cons c s ih =>
    rw [escapeLine, List.append_assoc]
    split
    · rename_i hquote
      rw [hquote]
      exact basic_stands stands_quote ih
    · rename_i hquote
      exact basic_stands (stands_escape hquote) ih

lemma literal_append {s : List Char} (hs : ∀ c ∈ s, plain c ∧ c ≠ '\'') (rest : List Char) :
    literal (s ++ '\'' :: rest) = some (s, rest) := by
  induction s with
  | nil => rw [List.nil_append, literal, if_pos rfl]
  | cons c s ih =>
    obtain ⟨⟨hplain, hquote⟩, hs⟩ := List.forall_mem_cons.mp hs
    rw [List.cons_append, literal, if_neg hquote, if_pos hplain, ih hs]
    rfl

/-! ### Runs of quotes -/

section Runs

variable {q : Char} {run : Nat} (hrun : run ≤ 2)
include hrun

lemma tripleAhead_run {c : Char} (hc : c ≠ q) (l : List Char) :
    tripleAhead q (List.replicate run q ++ c :: l) = false := by
  obtain rfl | rfl | rfl : run = 0 ∨ run = 1 ∨ run = 2 := by omega
  all_goals simp [tripleAhead, List.replicate, hc]

/-- Quotes in front of closing ones count as text. -/
lemma closing?_run {rest : List Char} (hrest : rest.head? ≠ some q) :
    closing? q (List.replicate run q ++ q :: q :: q :: rest) =
      some (List.replicate run q, rest) := by
  have hall : List.replicate run q ++ q :: q :: q :: rest = List.replicate (run + 3) q ++ rest := by
    rw [List.replicate_add, List.append_assoc]
    rfl
  have hstop : rest.takeWhile (· == q) = [] := by
    cases rest with
    | nil => rfl
    | cons c rest =>
      apply List.takeWhile_cons_of_neg
      intro hc
      exact hrest (congrArg some (beq_iff_eq.mp hc))
  have hquotes : ∀ c ∈ List.replicate (run + 3) q, (c == q) = true := fun c hc =>
    beq_iff_eq.mpr (List.eq_of_mem_replicate hc)
  have hlength : ((List.replicate (run + 3) q ++ rest).takeWhile (· == q)).length = run + 3 := by
    rw [List.takeWhile_append_of_pos hquotes, hstop, List.append_nil, List.length_replicate]
  rw [hall, closing?, hlength, if_pos (by omega), Nat.add_sub_cancel,
    List.drop_left' List.length_replicate]

lemma tripleAhead_closing (rest : List Char) :
    tripleAhead q (List.replicate run q ++ q :: q :: q :: rest) = true := by
  obtain rfl | rfl | rfl : run = 0 ∨ run = 1 ∨ run = 2 := by omega
  all_goals simp [tripleAhead, List.replicate]

end Runs

/-- A run of quotes and what follows it, up to the last of them. -/
lemma replicate_append_cons (q : Char) (run : Nat) (l : List Char) :
    List.replicate run q ++ q :: l = List.replicate (run + 1) q ++ l := by
  rw [List.replicate_succ', List.append_assoc, List.singleton_append]

/-- What a reader of strings between triple quotes does where a quote stands. -/
structure ReadsQuotes (q : Char) (read : List Char → Option (List Char × List Char)) : Prop where
  closes : ∀ {l}, tripleAhead q (q :: l) = true → read (q :: l) = closing? q (q :: l)
  goesOn : ∀ {l s after}, tripleAhead q (q :: l) = false → read l = some (s, after) →
    read (q :: l) = some (q :: s, after)

namespace ReadsQuotes

variable {q : Char} {read : List Char → Option (List Char × List Char)} (h : ReadsQuotes q read)
  {run : Nat} (hrun : run ≤ 2) {s after : List Char}
include h hrun

lemma closing {rest : List Char} (hrest : rest.head? ≠ some q) :
    read (List.replicate run q ++ q :: q :: q :: rest) = some (List.replicate run q, rest) := by
  have htriple := tripleAhead_closing (q := q) hrun rest
  rw [← closing?_run hrun hrest]
  rw [replicate_append_cons, List.replicate_succ, List.cons_append] at htriple ⊢
  exact h.closes htriple

/-- Quotes that do not close the string are read one by one. -/
lemma text {c : Char} (hc : c ≠ q) {l : List Char} (hr : read (c :: l) = some (s, after)) :
    read (List.replicate run q ++ c :: l) = some (List.replicate run q ++ s, after) := by
  induction run with
  | zero => exact hr
  | succ run ih =>
    have htriple := tripleAhead_run hrun hc l
    rw [List.replicate_succ, List.cons_append] at htriple ⊢
    exact h.goesOn htriple (ih (by omega))

end ReadsQuotes

/-! ### Escapes between triple quotes -/

lemma readsQuotes_multiBasic : ReadsQuotes '"' multiBasic where
  closes htriple := by rw [multiBasic, if_pos htriple]
  goesOn htriple hr := by
    rw [multiBasic, htriple, if_neg Bool.false_ne_true, if_neg (by decide)]
    split
    · rename_i hnewline
      cases hnewline
    · rw [if_pos (by decide), hr]
      rfl

lemma multiBasic_stands {c : Char} {code : List Char} (hc : Stands c code)
    {rest s after : List Char} (hr : multiBasic rest = some (s, after)) :
    multiBasic (code ++ rest) = some (c :: s, after) := by
  cases hc with
  | plain hplain hback hquote =>
    obtain ⟨hfeed, hreturn⟩ := ne_newline_of_plain hplain
    have htriple : tripleAhead '"' (c :: rest) = false :=
      tripleAhead_run (Nat.zero_le 2) hquote rest
    rw [List.singleton_append, multiBasic, htriple, if_neg Bool.false_ne_true, if_neg hback]
    split
    · rename_i hnewline
      rw [newline?_eq_none hfeed hreturn] at hnewline
      cases hnewline
    · rw [if_pos hplain, hr]
      rfl
  | @escaped code hcode hjoin =>
    have htriple : tripleAhead '"' ('\\' :: (code ++ rest)) = false :=
      tripleAhead_run (Nat.zero_le 2) (by decide) (code ++ rest)
    rw [List.cons_append, multiBasic, htriple, if_neg Bool.false_ne_true, if_pos rfl]
    split
    · rename_i hnewline
      rw [hjoin] at hnewline
      cases hnewline
    · split
      · rename_i hnone
        rw [hcode] at hnone
        cases hnone
      · rename_i hsome
        rw [hcode] at hsome
        cases hsome
        rw [hr]
        rfl

lemma multiBasic_newline {rest s after : List Char} (hr : multiBasic rest = some (s, after)) :
    multiBasic ('\n' :: rest) = some ('\n' :: s, after) := by
  have htriple : tripleAhead '"' ('\n' :: rest) = false :=
    tripleAhead_run (Nat.zero_le 2) (by decide) rest
  rw [multiBasic, htriple, if_neg Bool.false_ne_true, if_neg (by decide)]
  split
  · rename_i hnewline
    cases hnewline
    rw [hr]
    rfl
  · rename_i hnewline
    cases hnewline

/-- What is written for a character starts with anything but a quote or a line end. -/
lemma Stands.head {c : Char} {code : List Char} (hc : Stands c code) :
    ∃ d l, code = d :: l ∧ d ≠ '"' ∧ d ≠ '\n' ∧ d ≠ '\r' := by
  cases hc with
  | plain hplain _ hquote => exact ⟨c, [], rfl, hquote, ne_newline_of_plain hplain⟩
  | @escaped code _ _ => exact ⟨'\\', code, rfl, by decide⟩

lemma multiBasic_escapeLines {run : Nat} (hrun : run ≤ 2) (s : List Char) {rest : List Char}
    (hrest : rest.head? ≠ some '"') :
    multiBasic (List.replicate run '"' ++ (escapeLines run s ++ '"' :: '"' :: '"' :: rest)) =
      some (List.replicate run '"' ++ s, rest) := by
  induction s generalizing run with
  | nil =>
    rw [escapeLines, List.nil_append, List.append_nil]
    exact readsQuotes_multiBasic.closing hrun hrest
  | cons c s ih =>
    have hfresh := ih (Nat.zero_le 2)
    rw [List.replicate_zero, List.nil_append, List.nil_append] at hfresh
    -- Behind a character that is no quote the run starts anew.
    have hstands : ∀ {code}, Stands c code → multiBasic (List.replicate run '"' ++
        (code ++ (escapeLines 0 s ++ '"' :: '"' :: '"' :: rest))) =
          some (List.replicate run '"' ++ c :: s, rest) := by
      intro code hcode
      have hread := multiBasic_stands hcode hfresh
      obtain ⟨d, l, rfl, hd, _⟩ := hcode.head
      exact readsQuotes_multiBasic.text hrun hd hread
    rw [escapeLines]
    split
    · rename_i hquote
      subst hquote
      split
      · exact hstands stands_quote
      · rename_i hshort
        have hlonger := ih (show run + 1 ≤ 2 by omega)
        rw [List.cons_append, replicate_append_cons, hlonger, replicate_append_cons]
    · rename_i hquote
      split
      · rename_i hfeed
        subst hfeed
        exact readsQuotes_multiBasic.text hrun (by decide) (multiBasic_newline hfresh)
      · rw [List.append_assoc]
        exact hstands (stands_escape hquote)

/-! ### No escapes between triple quotes -/

lemma readsQuotes_multiLiteral : ReadsQuotes '\'' multiLiteral where
  closes htriple := by rw [multiLiteral, if_pos htriple]
  goesOn htriple hr := by
    rw [multiLiteral, htriple, if_neg Bool.false_ne_true]
    split
    · rename_i hnewline
      cases hnewline
    · rw [if_pos (by decide), hr]
      rfl

lemma multiLiteral_cons {c : Char} (hc : c = '\n' ∨ plain c) (hquote : c ≠ '\'')
    {rest s after : List Char} (hr : multiLiteral rest = some (s, after)) :
    multiLiteral (c :: rest) = some (c :: s, after) := by
  have htriple : tripleAhead '\'' (c :: rest) = false :=
    tripleAhead_run (Nat.zero_le 2) hquote rest
  rw [multiLiteral, htriple, if_neg Bool.false_ne_true]
  rcases hc with rfl | hplain
  · split
    · rename_i hnewline
      cases hnewline
      rw [hr]
      rfl
    · rename_i hnewline
      cases hnewline
  · obtain ⟨hfeed, hreturn⟩ := ne_newline_of_plain hplain
    split
    · rename_i hnewline
      rw [newline?_eq_none hfeed hreturn] at hnewline
      cases hnewline
    · rw [if_pos hplain, hr]
      rfl

lemma hasTriple_append {q : Char} (front : List Char) {l : List Char}
    (h : hasTriple q (front ++ l) = false) : hasTriple q l = false := by
  induction front with
  | nil => exact h
  | cons a front ih =>
    apply ih
    rw [List.cons_append] at h
    cases hl : front ++ l with
    | nil => rfl
    | cons b more =>
      cases more with
      | nil => rfl
      | cons c more =>
        rw [hl, hasTriple, Bool.or_eq_false_iff] at h
        exact h.2

lemma multiLiteral_append {run : Nat} (hrun : run ≤ 2) {s : List Char}
    (hs : ∀ c ∈ s, c = '\n' ∨ plain c)
    (htriple : hasTriple '\'' (List.replicate run '\'' ++ s) = false) {rest : List Char}
    (hrest : rest.head? ≠ some '\'') :
    multiLiteral (List.replicate run '\'' ++ (s ++ '\'' :: '\'' :: '\'' :: rest)) =
      some (List.replicate run '\'' ++ s, rest) := by
  induction s generalizing run with
  | nil =>
    rw [List.nil_append, List.append_nil]
    exact readsQuotes_multiLiteral.closing hrun hrest
  | cons c s ih =>
    obtain ⟨hc, hs'⟩ := List.forall_mem_cons.mp hs
    rw [List.cons_append]
    by_cases hquote : c = '\''
    · subst hquote
      have hshort : run ≠ 2 := by
        rintro rfl
        cases htriple
      rw [replicate_append_cons] at htriple ⊢
      rw [ih (by omega) hs' htriple, replicate_append_cons]
    · have hfresh := ih (Nat.zero_le 2) hs'
        (hasTriple_append (List.replicate run '\'' ++ [c]) (by simpa using htriple))
      exact readsQuotes_multiLiteral.text hrun hquote (multiLiteral_cons hc hquote hfresh)

/-! ### All forms -/

lemma text_basic {l : List Char} (hl : ∀ rest, l ≠ '"' :: '"' :: rest) :
    text ('"' :: l) = basic l := by
  unfold text
  split
  · rename_i rest h
    exact absurd (List.cons.inj h).2 (hl rest)
  · rename_i h
    cases h
  · rename_i h
    rw [(List.cons.inj h).2]
  · rename_i h
    cases h
  · rename_i hbasic _
    exact absurd rfl (hbasic l)

lemma text_literal {l : List Char} (hl : ∀ rest, l ≠ '\'' :: '\'' :: rest) :
    text ('\'' :: l) = literal l := by
  unfold text
  split
  · rename_i h
    cases h
  · rename_i rest h
    exact absurd (List.cons.inj h).2 (hl rest)
  · rename_i h
    cases h
  · rename_i h
    rw [(List.cons.inj h).2]
  · rename_i hliteral
    exact absurd rfl (hliteral l)

lemma plain_of_no_control {s : List Char} (h : s.any (fun c => c != '\n' && !plain c) = false) :
    ∀ c ∈ s, c = '\n' ∨ plain c := by
  intro c hc
  have hall := List.any_eq_false.mp h c hc
  rw [Bool.and_eq_true, bne_iff_ne, Bool.not_eq_true', not_and_or, not_not,
    Bool.not_eq_false] at hall
  exact hall

/-- Without escapes a text is written only if it needs none. -/
lemma literal_of_form {s : List Char} (h : Form.of s = .literal) :
    ∀ c ∈ s, plain c ∧ c ≠ '\'' := by
  unfold Form.of at h
  dsimp only at h
  split_ifs at h with _ hfree
  simp only [Bool.and_eq_true, Bool.not_eq_true', List.contains_eq_mem,
    decide_eq_false_iff_not] at hfree
  obtain ⟨⟨hcontrol, hlines⟩, hquote⟩ := hfree
  refine fun c hc => ⟨?_, fun hq => hquote (hq ▸ hc)⟩
  exact (plain_of_no_control hcontrol c hc).resolve_left fun hfeed => hlines (hfeed ▸ hc)

lemma multiLiteral_of_form {s : List Char} (h : Form.of s = .multiLiteral) :
    (∀ c ∈ s, c = '\n' ∨ plain c) ∧ hasTriple '\'' s = false := by
  unfold Form.of at h
  dsimp only at h
  split_ifs at h with _ _ _ hfree
  rw [Bool.and_eq_true, Bool.not_eq_true', Bool.not_eq_true'] at hfree
  exact hfree.imp_left plain_of_no_control

lemma skipNewline_start {s body : List Char} (hbody : '\n' ∉ s → newline? body = none) :
    skipNewline ((if s.contains '\n' then ['\n'] else []) ++ body) = body := by
  split
  · rfl
  · rename_i hlines
    rw [List.nil_append, skipNewline, hbody (by simpa using hlines)]
    rfl

lemma newline?_escapeLines {s : List Char} (hs : '\n' ∉ s) (rest : List Char) :
    newline? (escapeLines 0 s ++ '"' :: rest) = none := by
  cases s with
  | nil => rfl
  | cons c s =>
    have hfeed : c ≠ '\n' := fun hc => hs (hc ▸ List.mem_cons_self)
    rw [escapeLines]
    split
    · rfl
    · rename_i hquote
      obtain ⟨d, l, hescape, _, hd, hd'⟩ := (stands_escape hquote).head
      rw [hescape]
      exact newline?_eq_none hd hd' _

lemma newline?_literal {s : List Char} (hs : ∀ c ∈ s, c = '\n' ∨ plain c) (hlines : '\n' ∉ s)
    (rest : List Char) : newline? (s ++ '\'' :: rest) = none := by
  cases s with
  | nil => rfl
  | cons c s =>
    have hfeed : c ≠ '\n' := fun hc => hlines (hc ▸ List.mem_cons_self)
    have hplain := (hs c List.mem_cons_self).resolve_left hfeed
    exact newline?_eq_none hfeed (ne_newline_of_plain hplain).2 _

/-- What is written for a text is read back, whatever lines follow. -/
theorem text_written (s rest : List Char) :
    text (written s ++ '\n' :: rest) = some (s, '\n' :: rest) := by
  unfold written
  cases hform : Form.of s with
  | basic =>
    have hread := basic_escapeLine s ('\n' :: rest)
    simp only [List.cons_append, List.append_assoc, List.nil_append]
    -- Were there two quotes in front, the empty text would have been read.
    rw [text_basic, hread]
    intro more htriple
    rw [htriple, basic, if_pos rfl] at hread
    cases hread
  | literal =>
    have hread := literal_append (literal_of_form hform) ('\n' :: rest)
    simp only [List.cons_append, List.append_assoc, List.nil_append]
    rw [text_literal, hread]
    intro more htriple
    rw [htriple, literal, if_pos rfl] at hread
    cases hread
  | multiBasic =>
    have hread := multiBasic_escapeLines (Nat.zero_le 2) s
      (show ('\n' :: rest).head? ≠ some '"' by simp)
    simp only [List.cons_append, List.append_assoc, List.nil_append]
    rw [text, skipNewline_start]
    · exact hread
    · intro hlines
      exact newline?_escapeLines hlines _
  | multiLiteral =>
    obtain ⟨hs, htriple⟩ := multiLiteral_of_form hform
    have hread := multiLiteral_append (Nat.zero_le 2) hs htriple
      (show ('\n' :: rest).head? ≠ some '\'' by simp)
    simp only [List.cons_append, List.append_assoc, List.nil_append]
    rw [text, skipNewline_start]
    · exact hread
    · intro hlines
      exact newline?_literal hs hlines _

end RackRemote.Proofs
