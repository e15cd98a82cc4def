import RackRemote.Control.Refusal
import RackRemote.Osc.Packet
/-!
# Arguments of a command

`Arguments.check` compares arguments with the kinds that a command declares, count first and then
from left to right. The accessors read one position each and refuse what is outside its range.
-/

namespace RackRemote

/-- The arguments given to a command. -/
structure Arguments where
  command : String
  values : List Osc.Arg

namespace Arguments

/-- The leftmost argument that is not of its kind, with its position and its kind. -/
def mismatch? : Nat → List ArgKind → List Osc.Arg → Option (Nat × ArgKind × Char)
  | position, kind :: kinds, arg :: args =>
    if kind.accepts arg.typeTag then mismatch? (position + 1) kinds args
    else some (position, kind, arg.typeTag)
  | _, _, _ => none

/-- The arguments, if their count and types are those declared. -/
def check (command : String) (signature : List ArgKind) (args : List Osc.Arg) :
    Except Refusal Arguments :=
  if args.length ≠ signature.length then
    .error (.arity command signature.length args.length)
  else
    match mismatch? 0 signature args with
    | some (position, expected, actual) => .error (.argType command position expected actual)
    | none => .ok ⟨command, args⟩

/-- The refusal of the argument at a position; a hyphen stands for an argument that is not there. -/
def wrongType (a : Arguments) (position : Nat) (expected : ArgKind) : Refusal :=
  .argType a.command position expected ((a.values[position]?).elim '-' Osc.Arg.typeTag)

def outOfRange (a : Arguments) (argument : String) (value : Offending) : Refusal :=
  .outOfRange a.command argument value

def int (a : Arguments) (position : Nat) : Except Refusal Int32 :=
  match a.values[position]? with
  | some (.int v) => .ok v
  | _ => .error (a.wrongType position .int32)

/-- An integer of either width, as 64 bits. -/
def integer (a : Arguments) (position : Nat) : Except Refusal Int64 :=
  match a.values[position]? with
  | some (.int v) => .ok v.toInt64
  | some (.long v) => .ok v
  | _ => .error (a.wrongType position .integer)

def float (a : Arguments) (position : Nat) : Except Refusal Binary32 :=
  match a.values[position]? with
  | some (.float v) => .ok v
  | _ => .error (a.wrongType position .float)

def text (a : Arguments) (position : Nat) : Except Refusal String :=
  match a.values[position]? with
  | some (.string s) => .ok s
  | _ => .error (a.wrongType position .text)

/-- A 32 bit integer that is not negative. -/
def index (a : Arguments) (position : Nat) (argument : String) : Except Refusal UInt32 := do
  let v ← a.int position
  if v < 0 then throw (a.outOfRange argument (.integer v.toInt))
  return v.toUInt32

/-- An integer of either width that is not negative. -/
def unsigned (a : Arguments) (position : Nat) (argument : String) : Except Refusal UInt64 := do
  let v ← a.integer position
  if v < 0 then throw (a.outOfRange argument (.integer v.toInt))
  return v.toUInt64

/-- A 32 bit integer from `low` up to but not including `high`. -/
def intIn (a : Arguments) (position : Nat) (argument : String) (low high : Int32) :
    Except Refusal Int32 := do
  let v ← a.int position
  if low ≤ v ∧ v < high then return v
  throw (a.outOfRange argument (.integer v.toInt))

/-- A text that is not empty. -/
def label (a : Arguments) (position : Nat) (argument : String) : Except Refusal String := do
  let s ← a.text position
  if s.isEmpty then throw (a.outOfRange argument .emptyText)
  return s

end Arguments

end RackRemote
