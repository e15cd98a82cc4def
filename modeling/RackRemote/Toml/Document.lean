import RackRemote.Toml.Scalar
import RackRemote.Toml.Text
/-!
# Documents

A document is a list of statements: headers, which open tables, and pairs, which are added to the
table opened last. `read` gives the entries of the outermost table.
-/

namespace RackRemote.Toml

/-- The longest path of keys, and the deepest nesting of arrays and of tables in braces. -/
def maxDepth : Nat := 79

/-- A key with the path of keys before it. -/
structure Key where
  path : List String
  name : String
deriving DecidableEq, Repr

/-- A line of a document that says something. -/
inductive Statement where
  | pair (key : Key) (value : Value)
  | table (key : Key)
  | tables (key : Key)

/-- Drops a comment. -/
def skipComment : List Char → List Char
  | '#' :: rest => rest.dropWhile plain
  | l => l

/-- What follows the end of a line, or of the document. A comment may stand before it. -/
def endOfLine? (l : List Char) : Option (List Char) :=
  match skipComment (skipBlanks l) with
  | [] => some []
  | l => newline? l

/-- Drops blanks, line ends and comments. -/
def skipFiller (l : List Char) : List Char :=
  match l with
  | ' ' :: rest | '\t' :: rest | '\n' :: rest | '\r' :: '\n' :: rest => skipFiller rest
  | '#' :: rest => skipFiller (rest.dropWhile plain)
  | l => l
termination_by l.length
decreasing_by
  all_goals
    have := (List.dropWhile_sublist (p := plain) (l := rest)).length_le
    simp only [List.length_cons]
    omega

/-! ## Keys -/

def isBareKeyChar (c : Char) : Bool :=
  'A' ≤ c && c ≤ 'Z' || 'a' ≤ c && c ≤ 'z' || '0' ≤ c && c ≤ '9' || c == '-' || c == '_'

/-- Reads a key without dots. -/
def simpleKey (l : List Char) : Option (String × List Char) :=
  match lineText l with
  | some (s, rest) => some (String.ofList s, rest)
  | none =>
    match l.span isBareKeyChar with
    | ([], _) => none
    | (s, rest) => some (String.ofList s, rest)

/-- Reads a key of up to `limit` parts with dots between them, and the blanks around the parts. -/
def keyParts : Nat → List Char → Option (List String × List Char)
  | 0, _ => none
  | limit + 1, l => do
    let (part, rest) ← simpleKey (skipBlanks l)
    match skipBlanks rest with
    | '.' :: rest =>
      let (parts, rest) ← keyParts limit rest
      return (part :: parts, rest)
    | rest => return ([part], rest)

/-- Reads a dotted key. -/
def key (l : List Char) : Option (Key × List Char) := do
  let (parts, rest) ← keyParts maxDepth l
  return (⟨parts.dropLast, ← parts.getLast?⟩, rest)

/-! ## Values -/

/-- The entries of a table in braces. -/
def gather (pairs : List (Key × Value)) : Option Entries :=
  pairs.foldlM (fun es (k, v) => Entries.addAt k.name v k.path es) []

mutual

/-- Reads a value in which arrays and tables nest up to `depth` times. -/
def value (depth : Nat) (l : List Char) : Option (Value × List Char) :=
  match depth, l with
  | depth + 1, '[' :: rest => do
    let (items, rest) ← items depth rest.length rest
    return (.array items, rest)
  | depth + 1, '{' :: rest => do
    let (pairs, rest) ← pairs depth rest.length true rest
    return (.closed (← gather pairs), rest)
  | _, l =>
    match text l with
    | some (s, rest) => some (.string (String.ofList s), rest)
    | none => scalar l
termination_by (depth, 2, 0)

/-- Reads the values of an array and the bracket that ends it. Each uses up one unit of `fuel`. -/
def items (depth fuel : Nat) (l : List Char) : Option (List Value × List Char) :=
  match fuel with
  | 0 => none
  | fuel + 1 =>
    match skipFiller l with
    | ']' :: rest => some ([], rest)
    | l => do
      let (v, rest) ← value depth l
      match skipFiller rest with
      | ',' :: rest =>
        let (vs, rest) ← items depth fuel rest
        return (v :: vs, rest)
      | ']' :: rest => return ([v], rest)
      | _ => none
termination_by (depth, 3, fuel)

/-- Reads the pairs of a table in braces and the brace that ends it. Only at the very beginning,
marked by `first`, may there be no pair. -/
def pairs (depth fuel : Nat) (first : Bool) (l : List Char) :
    Option (List (Key × Value) × List Char) :=
  match fuel with
  | 0 => none
  | fuel + 1 =>
    match first, skipBlanks l with
    | true, '}' :: rest => some ([], rest)
    | _, l => do
      let (k, rest) ← key l
      let rest ← keyword? ['='] rest
      let (v, rest) ← value depth (skipBlanks rest)
      match skipBlanks rest with
      | ',' :: rest =>
        let (kvs, rest) ← pairs depth fuel false rest
        return ((k, v) :: kvs, rest)
      | '}' :: rest => return ([(k, v)], rest)
      | _ => none
termination_by (depth, 3, fuel)

end

/-! ## Statements -/

/-- Reads a header or a pair. -/
def statement (l : List Char) : Option (Statement × List Char) :=
  match l with
  | '[' :: '[' :: rest => do
    let (k, rest) ← key rest
    return (.tables k, ← keyword? [']', ']'] rest)
  | '[' :: rest => do
    let (k, rest) ← key rest
    return (.table k, ← keyword? [']'] rest)
  | l => do
    let (k, rest) ← key l
    let rest ← keyword? ['='] rest
    let (v, rest) ← value maxDepth (skipBlanks rest)
    return (.pair k v, rest)

/-- Reads statements, one a line. Each line uses up one unit of `fuel`. -/
def statements : Nat → List Char → Option (List Statement)
  | fuel, l =>
    match skipBlanks l with
    | [] => some []
    | l =>
      match fuel with
      | 0 => none
      | fuel + 1 =>
        match endOfLine? l with
        | some rest => statements fuel rest
        | none => do
          let (s, rest) ← statement l
          return s :: (← statements fuel (← endOfLine? rest))

/-- What a document has said so far. -/
structure Draft where
  entries : Entries := []
  /-- The path of the table opened last. -/
  current : List String := []

/-- Adds what a statement says. -/
def Draft.add (d : Draft) : Statement → Option Draft
  | .pair k v => do
    return { d with entries := ← d.entries.update (Entries.addAt k.name v k.path) d.current }
  | .table k => do
    return ⟨← d.entries.update (Entries.openTable k.name) k.path, k.path ++ [k.name]⟩
  | .tables k => do
    return ⟨← d.entries.update (Entries.appendTable k.name) k.path, k.path ++ [k.name]⟩

/-- The text without a byte order mark in front. -/
def skipMark : List Char → List Char
  | '\ufeff' :: rest => rest
  | l => l

/-- The entries of a document, if it is well formed. -/
def read (s : String) : Option Entries := do
  let l := skipMark s.toList
  let d ← (← statements l.length l).foldlM Draft.add {}
  return d.entries

end RackRemote.Toml
