/-!
# Values and tables

Tables grow while a document is read. What may be added to a table depends on how it came about, so
each says so, and all additions go through `alter`: they fail where a name is taken.
-/

namespace RackRemote.Toml

/-- How a table came about. -/
inductive TableKind where
  /-- By a header of its own. -/
  | explicit
  /-- As a beginning of another table's header. -/
  | implied
  /-- By a dotted key. -/
  | dotted
deriving DecidableEq, Repr

/-- A value. Of numbers with a fraction and of points in time it is only kept that they are one. -/
inductive Value where
  | string (text : String)
  | integer (value : Int)
  | float
  | boolean (value : Bool)
  | dateTime
  | array (items : List Value)
  /-- A table in braces, to which nothing can be added. -/
  | closed (entries : List (String × Value))
  | table (kind : TableKind) (entries : List (String × Value))
  /-- A table for each time a header in double brackets occurs. -/
  | tables (earlier : List (List (String × Value))) (last : List (String × Value))

abbrev Entries := List (String × Value)

namespace Entries

/-- Changes the value of a key, or adds one, unless `f` fails. -/
def alter (key : String) (f : Option Value → Option Value) : Entries → Option Entries
  | [] => (f none).map fun v => [(key, v)]
  | (k, v) :: es =>
    if k = key then (f (some v)).map fun v => (k, v) :: es
    else (alter key f es).map fun es => (k, v) :: es

/-- Adds a value under a key that is not taken. -/
def add (key : String) (v : Value) : Entries → Option Entries :=
  alter key fun
    | none => some v
    | some _ => none

/-- Adds a value under a dotted key. On the way only tables without a header of their own are
entered, or the last of several, and the innermost must owe itself to dotted keys. -/
def addAt (key : String) (v : Value) : List String → Entries → Option Entries
  | [] => add key v
  | p :: ps =>
    alter p fun
      | none => (addAt key v ps []).map (.table .dotted)
      | some (.table .dotted es) => (addAt key v ps es).map (.table .dotted)
      | some (.table .implied es) =>
        if ps = [] then none else (addAt key v ps es).map (.table .implied)
      | some (.tables earlier last) =>
        if ps = [] then none else (addAt key v ps last).map (.tables earlier)
      | some _ => none

/-- Changes the table under a path of keys. Tables that are missing on the way are implied. -/
def update (f : Entries → Option Entries) : List String → Entries → Option Entries
  | [] => f
  | p :: ps =>
    alter p fun
      | none => (update f ps []).map (.table .implied)
      | some (.table kind es) => (update f ps es).map (.table kind)
      | some (.tables earlier last) => (update f ps last).map (.tables earlier)
      | some _ => none

/-- Opens the table of a header. It must be new, or implied so far. -/
def openTable (key : String) : Entries → Option Entries :=
  alter key fun
    | none => some (.table .explicit [])
    | some (.table .implied es) => some (.table .explicit es)
    | some _ => none

/-- Opens one more table of a header in double brackets. -/
def appendTable (key : String) : Entries → Option Entries :=
  alter key fun
    | none => some (.tables [] [])
    | some (.tables earlier last) => some (.tables (earlier ++ [last]) [])
    | some _ => none

end Entries

end RackRemote.Toml
