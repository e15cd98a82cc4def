import RackRemote.Osc.Packet
import RackRemote.Osc.Bytes
/-!
# Writing a message

A message is its address, a comma with the type tags of its arguments, and the data of those that
have any. An array has no data of its own: its brackets stand among the tags.
-/

namespace RackRemote.Osc

mutual

/-- The tags that announce an argument: one character, or the bracketed tags of an array. -/
def Arg.tags : Arg → List Char
  | .array items => '[' :: (Arg.tagsOfAll items ++ [']'])
  | .bool true => ['T']
  | .bool false => ['F']
  | .int _ => ['i']
  | .long _ => ['h']
  | .float _ => ['f']
  | .double _ => ['d']
  | .string _ => ['s']
  | .blob _ => ['b']
  | .time _ => ['t']
  | .char _ => ['c']
  | .color .. => ['r']
  | .midi .. => ['m']
  | .nil => ['N']
  | .infinitum => ['I']

def Arg.tagsOfAll : List Arg → List Char
  | [] => []
  | a :: as => a.tags ++ Arg.tagsOfAll as

end

mutual

/-- The data of an argument. Truth values, nil and infinitum have none. -/
def Arg.data : Arg → List UInt8
  | .int v => bigEndian 4 v.toUInt32.toNat
  | .long v => bigEndian 8 v.toUInt64.toNat
  | .float v => bigEndian 4 v.bits.toNat
  | .double v => bigEndian 8 v.bits.toNat
  | .string s => paddedText s
  | .blob bytes =>
    bigEndian 4 bytes.length ++ bytes ++ List.replicate ((4 - bytes.length % 4) % 4) 0
  | .time t => bigEndian 4 t.seconds.toNat ++ bigEndian 4 t.fraction.toNat
  | .char c => bigEndian 4 c.toNat
  | .color r g b a => [r, g, b, a]
  | .midi port status data1 data2 => [port, status, data1, data2]
  | .array items => Arg.dataOfAll items
  | .bool _ | .nil | .infinitum => []

def Arg.dataOfAll : List Arg → List UInt8
  | [] => []
  | a :: as => a.data ++ Arg.dataOfAll as

end

/-- The bytes of a message. -/
def Message.encode (m : Message) : List UInt8 :=
  paddedText m.address ++ paddedText (String.ofList (',' :: Arg.tagsOfAll m.args))
    ++ Arg.dataOfAll m.args

end RackRemote.Osc
