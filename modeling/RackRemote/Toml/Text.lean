import RackRemote.Net.Address
/-!
# Strings

A string has four written forms: basic with escapes or literal without, on one line or between
triple quotes. The readers start behind the opening quotes and return what follows the closing ones.
`written` chooses the plainest form that can hold a text.
-/

namespace RackRemote.Toml

/-- What may stand in strings and comments as it is: a tab, and whatever is no control character. -/
def plain (c : Char) : Bool := c == '\t' || 0x20 ≤ c.toNat && c != '\x7f'

/-- Reads a code point of exactly `n` hexadecimal digits. -/
def codePoint (n : Nat) (l : List Char) : Option (Char × List Char) :=
  let digits := l.take n
  let code := ofDigits 16 digits
  if digits.length = n ∧ digits.all (fun c => (digitValue 16 c).isSome) ∧ code.isValidChar then
    some (Char.ofNat code, l.drop n)
  else none

/-- Reads what follows a backslash. -/
def escaped : List Char → Option (Char × List Char)
  | [] => none
  | c :: rest =>
    match c with
    | 'b' => some ('\x08', rest)
    | 't' => some ('\t', rest)
    | 'n' => some ('\n', rest)
    | 'f' => some ('\x0c', rest)
    | 'r' => some ('\r', rest)
    | '"' => some ('"', rest)
    | '\\' => some ('\\', rest)
    | 'u' => codePoint 4 rest
    | 'U' => codePoint 8 rest
    | _ => none

theorem codePoint_length {n : Nat} {l : List Char} {c : Char} {rest : List Char}
    (h : codePoint n l = some (c, rest)) : rest.length ≤ l.length := by
  simp only [codePoint] at h
  split at h
  · obtain ⟨_, rfl⟩ := by simpa using h
    simp
  · simp at h

theorem escaped_length {l : List Char} {c : Char} {rest : List Char}
    (h : escaped l = some (c, rest)) : rest.length < l.length := by
  unfold escaped at h
  split at h
  · simp at h
  · have := @codePoint_length
    split at h <;> grind

/-- Reads the rest of a basic string. -/
def basic (l : List Char) : Option (List Char × List Char) :=
  match l with
  | [] => none
  | c :: rest =>
    if c = '"' then some ([], rest)
    else if c = '\\' then
      match _h : escaped rest with
      | none => none
      | some (c, after) => (basic after).map fun (s, r) => (c :: s, r)
    else if plain c then (basic rest).map fun (s, r) => (c :: s, r)
    else none
termination_by l.length
decreasing_by
  · have := escaped_length _h
    simp
    omega
  · simp

/-- Reads the rest of a literal string. -/
def literal : List Char → Option (List Char × List Char)
  | [] => none
  | c :: rest =>
    if c = '\'' then some ([], rest)
    else if plain c then (literal rest).map fun (s, r) => (c :: s, r)
    else none

/-- Drops blanks and line ends. -/
def skipBlankLines : List Char → List Char
  | ' ' :: rest | '\t' :: rest | '\n' :: rest | '\r' :: '\n' :: rest => skipBlankLines rest
  | l => l

/-- Drops the blanks of a line. -/
def skipBlanks (l : List Char) : List Char := l.dropWhile fun c => c == ' ' || c == '\t'

/-- What follows a line end. -/
def newline? : List Char → Option (List Char)
  | '\n' :: rest | '\r' :: '\n' :: rest => some rest
  | _ => none

/-- Reads the quotes in front of triple quotes that close a string: up to five in a row can be
closing, and all but three of them belong to the string. -/
def closing? (quote : Char) (l : List Char) : Option (List Char × List Char) :=
  let run := (l.takeWhile (· == quote)).length
  if 3 ≤ run ∧ run ≤ 5 then some (List.replicate (run - 3) quote, l.drop run) else none

/-- Whether three quotes stand in front. -/
def tripleAhead (quote : Char) (l : List Char) : Bool := l.take 3 == [quote, quote, quote]

theorem skipBlankLines_length (l : List Char) : (skipBlankLines l).length ≤ l.length := by
  fun_induction skipBlankLines l <;> grind

theorem skipBlanks_length (l : List Char) : (skipBlanks l).length ≤ l.length :=
  (List.dropWhile_sublist _).length_le

theorem newline?_length {l rest : List Char} (h : newline? l = some rest) :
    rest.length < l.length := by
  unfold newline? at h
  split at h <;> simp at h <;> subst h <;> simp only [List.length_cons] <;> omega

/-- Reads the rest of a basic string between triple quotes. A backslash at the end of a line joins
it to the next text, and every line end counts as a line feed. -/
def multiBasic (l : List Char) : Option (List Char × List Char) :=
  match l with
  | [] => none
  | c :: rest =>
    if tripleAhead '"' (c :: rest) then closing? '"' (c :: rest)
    else if c = '\\' then
      match _h : newline? (skipBlanks rest) with
      | some after => multiBasic (skipBlankLines after)
      | none =>
        match _h : escaped rest with
        | none => none
        | some (c, after) => (multiBasic after).map fun (s, r) => (c :: s, r)
    else
      match _h : newline? (c :: rest) with
      | some after => (multiBasic after).map fun (s, r) => ('\n' :: s, r)
      | none => if plain c then (multiBasic rest).map fun (s, r) => (c :: s, r) else none
termination_by l.length
decreasing_by
  · have := newline?_length _h
    have := skipBlanks_length rest
    have := skipBlankLines_length after
    simp
    omega
  · have := escaped_length (by assumption)
    simp
    omega
  · exact newline?_length _h
  · simp

/-- Reads the rest of a literal string between triple quotes. -/
def multiLiteral (l : List Char) : Option (List Char × List Char) :=
  match l with
  | [] => none
  | c :: rest =>
    if tripleAhead '\'' (c :: rest) then closing? '\'' (c :: rest)
    else
      match _h : newline? (c :: rest) with
      | some after => (multiLiteral after).map fun (s, r) => ('\n' :: s, r)
      | none => if plain c then (multiLiteral rest).map fun (s, r) => (c :: s, r) else none
termination_by l.length
decreasing_by
  · exact newline?_length _h
  · simp

/-- Drops a line end right behind opening triple quotes. -/
def skipNewline (l : List Char) : List Char := (newline? l).getD l

/-- Reads a string in one of its four forms. -/
def text (l : List Char) : Option (List Char × List Char) :=
  match l with
  | '"' :: '"' :: '"' :: rest => multiBasic (skipNewline rest)
  | '\'' :: '\'' :: '\'' :: rest => multiLiteral (skipNewline rest)
  | '"' :: rest => basic rest
  | '\'' :: rest => literal rest
  | _ => none

/-- Reads a string on one line. -/
def lineText : List Char → Option (List Char × List Char)
  | '"' :: rest => basic rest
  | '\'' :: rest => literal rest
  | _ => none

/-! ## Writing -/

/-- A hexadecimal digit in upper case. -/
def hexDigit (n : Nat) : Char := if n < 10 then Char.ofNat (48 + n) else Char.ofNat (55 + n)

/-- The code point of a character below 65536 with four digits. -/
def escapeCode (c : Char) : List Char :=
  let n := c.toNat
  '\\' :: 'u' :: [n / 4096 % 16, n / 256 % 16, n / 16 % 16, n % 16].map hexDigit

/-- A character other than a quote as it stands in a basic string. -/
def escape (c : Char) : List Char :=
  match c with
  | '\x08' => ['\\', 'b']
  | '\t' => ['\\', 't']
  | '\n' => ['\\', 'n']
  | '\x0c' => ['\\', 'f']
  | '\r' => ['\\', 'r']
  | '\\' => ['\\', '\\']
  | c => if plain c then [c] else escapeCode c

def escapeLine : List Char → List Char
  | [] => []
  | c :: rest => (if c = '"' then ['\\', '"'] else escape c) ++ escapeLine rest

/-- Escapes what stands between triple quotes. Line feeds stay, and so do quotes, but for every
third of a run; `run` counts those just before. -/
def escapeLines : Nat → List Char → List Char
  | _, [] => []
  | run, c :: rest =>
    if c = '"' then
      if run = 2 then '\\' :: '"' :: escapeLines 0 rest else '"' :: escapeLines (run + 1) rest
    else if c = '\n' then '\n' :: escapeLines 0 rest
    else escape c ++ escapeLines 0 rest

/-- Whether a character occurs three times in a row. -/
def hasTriple (q : Char) : List Char → Bool
  | a :: b :: c :: rest => (a == q && b == q && c == q) || hasTriple q (b :: c :: rest)
  | _ => false

/-- The written forms of a string. -/
inductive Form where
  | basic
  | literal
  | multiBasic
  | multiLiteral
deriving DecidableEq, Repr

/-- The first form that needs no escapes; failing that, one with escapes, between triple quotes if
there are several lines. -/
def Form.of (s : List Char) : Form :=
  let lines := s.contains '\n'
  let controls := s.any fun c => c != '\n' && !plain c
  if !controls && !lines && !s.contains '"' && !s.contains '\\' then .basic
  else if !controls && !lines && !s.contains '\'' then .literal
  else if !controls && !s.contains '\\' && !hasTriple '"' s then .multiBasic
  else if !controls && !hasTriple '\'' s then .multiLiteral
  else if lines then .multiBasic
  else .basic

/-- A text in its plainest form. Behind opening triple quotes the text starts on a new line if it
has several lines. -/
def written (s : List Char) : List Char :=
  let start := if s.contains '\n' then ['\n'] else []
  match Form.of s with
  | .basic => '"' :: (escapeLine s ++ ['"'])
  | .literal => '\'' :: (s ++ ['\''])
  | .multiBasic => '"' :: '"' :: '"' :: (start ++ escapeLines 0 s ++ ['"', '"', '"'])
  | .multiLiteral => '\'' :: '\'' :: '\'' :: (start ++ s ++ ['\'', '\'', '\''])

end RackRemote.Toml
