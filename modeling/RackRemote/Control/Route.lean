import RackRemote.Control.Refusal
/-!
# Where a message is addressed to

A path names the registration desk, one of the host's own commands, or a method of the plugin at an
index under the host's root name. `Index.decode` reads the index: one to three digits, looking no
further than a fourth.
-/

namespace RackRemote

/-- The digits that a plugin index may have. -/
def maxIndexDigits : Nat := 3

/-- The characters of a method name that are kept. -/
def maxMethodLength : Nat := 32

namespace Index

/-- The value of an ASCII digit. -/
def byteDigit (b : UInt8) : Option Nat := if 48 ≤ b ∧ b ≤ 57 then some (b.toNat - 48) else none

/-- The value of an ASCII digit. -/
def charDigit (c : Char) : Option Nat := if '0' ≤ c ∧ c ≤ '9' then some (c.toNat - 48) else none

/-- The values of the digits in front, at most `limit` of them. -/
def leading {α : Type} (digit : α → Option Nat) : Nat → List α → List Nat
  | 0, _ => []
  | _, [] => []
  | limit + 1, a :: rest =>
    match digit a with
    | some d => d :: leading digit limit rest
    | none => []

/-- Reads the index in front: its value, and how many digits it has. -/
def decode {α : Type} (digit : α → Option Nat) (l : List α) : Except PathFault (UInt32 × Nat) :=
  let ds := leading digit (maxIndexDigits + 1) l
  if maxIndexDigits < ds.length then .error .indexTooLarge
  else if ds = [] then .error .missingIndex
  else .ok ((ds.foldl (fun n d => n * 10 + d) 0).toUInt32, ds.length)

/-- Reads the index that starts at an offset of some bytes: its value, and the offset behind it. -/
def decodeAt (bytes : List UInt8) (offset : Nat) : Except PathFault (UInt32 × Nat) := do
  let (value, width) ← decode byteDigit (bytes.drop offset)
  return (value, offset + width)

end Index

/-- What a path names. -/
inductive Route where
  | register
  | unregister
  | control (name : String)
  | plugin (index : UInt32) (method : String)
  | other
  | malformed (fault : PathFault)
deriving DecidableEq, Repr

namespace Route

/-- What follows a given beginning. -/
def after? (start l : List Char) : Option (List Char) :=
  if start <+: l then some (l.drop start.length) else none

/-- Classifies what follows the root name: an index, a slash and a method. -/
def ofPluginPath (l : List Char) : Route :=
  match Index.decode Index.charDigit l with
  | .error fault => .malformed fault
  | .ok (index, width) =>
    match l.drop width with
    | [] => .malformed .missingMethod
    | c :: method =>
      if c ≠ '/' then .malformed .missingSeparator
      else if method = [] then .malformed .missingMethod
      else .plugin index (String.ofList (method.take maxMethodLength))

/-- Classifies a path. The fixed places are tried before the root name. -/
def ofPath (path root : String) : Route :=
  if path = "/register" then .register
  else if path = "/unregister" then .unregister
  else
    match after? "/ctrl/".toList path.toList with
    | some [] => .malformed .missingMethod
    | some name => .control (String.ofList name)
    | none =>
      match after? ('/' :: root.toList ++ ['/']) path.toList with
      | some rest => ofPluginPath rest
      | none => .other

end Route

end RackRemote
