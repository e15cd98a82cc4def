import RackRemote.Ieee.Basic
/-!
# Open Sound Control packets

A packet is a message or a bundle of packets. `Packet.leaves` lists the messages of a packet from
left to right, which is the order in which a host acts on them.
-/

namespace RackRemote.Osc

/-- Seconds since 1900 and a binary fraction of a second. -/
structure TimeTag where
  seconds : UInt32
  fraction : UInt32
deriving DecidableEq, Repr, Inhabited

/-- An argument of a message, by its type. -/
inductive Arg where
  | int (value : Int32)
  | long (value : Int64)
  | float (value : Binary32)
  | double (value : Binary64)
  | string (text : String)
  | blob (bytes : List UInt8)
  | time (tag : TimeTag)
  | char (value : Char)
  | color (red green blue alpha : UInt8)
  | midi (port status data1 data2 : UInt8)
  | bool (value : Bool)
  | array (items : List Arg)
  | nil
  | infinitum
deriving Inhabited

/-- The character that announces an argument in the type tag string. -/
def Arg.typeTag : Arg → Char
  | .int _ => 'i'
  | .long _ => 'h'
  | .float _ => 'f'
  | .double _ => 'd'
  | .string _ => 's'
  | .blob _ => 'b'
  | .time _ => 't'
  | .char _ => 'c'
  | .color .. => 'r'
  | .midi .. => 'm'
  | .bool true => 'T'
  | .bool false => 'F'
  | .array _ => '['
  | .nil => 'N'
  | .infinitum => 'I'

/-- The type tags of a list of arguments; an array counts as its opening bracket alone. -/
def typeTags (args : List Arg) : String := String.ofList (args.map Arg.typeTag)

/-- A message: where it is addressed to, and its arguments. -/
structure Message where
  address : String
  args : List Arg := []
deriving Inhabited

/-- A message, or a bundle of packets under a time tag. -/
inductive Packet where
  | message (m : Message)
  | bundle (time : TimeTag) (content : List Packet)
deriving Inhabited

mutual

/-- The messages of a packet, from left to right and depth first. -/
def Packet.leaves : Packet → List Message
  | .message m => [m]
  | .bundle _ content => Packet.leavesOfAll content

/-- The messages of several packets in a row. -/
def Packet.leavesOfAll : List Packet → List Message
  | [] => []
  | p :: ps => p.leaves ++ Packet.leavesOfAll ps

end

theorem Packet.leavesOfAll_eq_flatMap (ps : List Packet) :
    Packet.leavesOfAll ps = ps.flatMap Packet.leaves := by
  induction ps with
  | nil => simp [Packet.leavesOfAll]
  | cons p ps ih => simp [Packet.leavesOfAll, ih]

end RackRemote.Osc
