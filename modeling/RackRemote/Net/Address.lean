/-!
# Socket addresses

An IP address is its bits. `IpAddress.read?` accepts the literal forms: four decimal octets, or
eight groups of hexadecimal digits of which a run of zeros may be left out once and the last two may
be written as octets. `SocketAddress.text` writes the canonical form.
-/

namespace RackRemote

/-- The two channels on which packets travel. -/
inductive Transport where
  | tcp
  | udp
deriving DecidableEq, Repr

/-- The name of a transport in messages. -/
def Transport.text : Transport → String
  | .tcp => "TCP"
  | .udp => "UDP"

inductive IpAddress where
  | v4 (bits : BitVec 32)
  | v6 (bits : BitVec 128)
deriving DecidableEq, Repr

/-- An IP address and a port. -/
structure SocketAddress where
  ip : IpAddress
  port : UInt16
deriving DecidableEq, Repr

/-- Where messages to a controller go. -/
structure Target where
  transport : Transport
  address : SocketAddress
deriving DecidableEq, Repr

/-- The value of a digit of either case, for bases up to sixteen. -/
def digitValue (base : Nat) (c : Char) : Option Nat :=
  let value :=
    if '0' ≤ c ∧ c ≤ '9' then c.toNat - '0'.toNat
    else if 'a' ≤ c ∧ c ≤ 'f' then c.toNat - 'a'.toNat + 10
    else if 'A' ≤ c ∧ c ≤ 'F' then c.toNat - 'A'.toNat + 10
    else base
  if value < base then some value else none

/-- The number that digits spell; other characters are passed over. -/
def ofDigits (base : Nat) (digits : List Char) : Nat :=
  digits.foldl (fun n c => match digitValue base c with | some d => n * base + d | none => n) 0

namespace IpAddress

/-- Splits the longest run of digits off the front. -/
def digits (base : Nat) (cs : List Char) : List Char × List Char :=
  cs.span fun c => (digitValue base c).isSome

/-- Reads a decimal octet: one to three digits, no leading zero, at most 255. -/
def octet (cs : List Char) : Option (Nat × List Char) :=
  let (ds, rest) := digits 10 cs
  let value := ofDigits 10 ds
  if ds = [] ∨ 3 < ds.length ∨ 255 < value ∨ (ds.head? = some '0' ∧ ds ≠ ['0']) then none
  else some (value, rest)

/-- Reads a hexadecimal group of one to four digits. -/
def group (cs : List Char) : Option (Nat × List Char) :=
  let (ds, rest) := digits 16 cs
  if ds = [] ∨ 4 < ds.length then none else some (ofDigits 16 ds, rest)

/-- Reads a given character. -/
def expect (c : Char) : List Char → Option (List Char)
  | d :: rest => if d = c then some rest else none
  | [] => none

/-- Reads four octets with points between them. -/
def octets (cs : List Char) : Option (List Nat × List Char) := do
  let (a, cs) ← octet cs
  let (b, cs) ← octet (← expect '.' cs)
  let (c, cs) ← octet (← expect '.' cs)
  let (d, cs) ← octet (← expect '.' cs)
  return ([a, b, c, d], cs)

/-- Reads up to `room` groups with colons between them. Octets may stand for two groups and end
the run; the result says whether they did. `first` holds before the first group. -/
def groups (first : Bool) : Nat → List Char → List Nat × Bool × List Char
  | 0, cs => ([], false, cs)
  | room + 1, cs =>
    let start := if first then some cs else expect ':' cs
    let embedded := if room = 0 then none else start.bind octets
    match embedded with
    | some ([a, b, c, d], rest) => ([a * 256 + b, c * 256 + d], true, rest)
    | _ =>
      match start.bind group with
      | some (g, rest) =>
        let (gs, quad, rest) := groups false room rest
        (g :: gs, quad, rest)
      | none => ([], false, cs)

/-- Reads the groups of a version 6 address, with those left out filled in. -/
def sixteens (cs : List Char) : Option (List Nat × List Char) :=
  let (front, quad, rest) := groups true 8 cs
  if front.length = 8 then some (front, rest)
  else if quad then none
  else do
    let rest ← expect ':' (← expect ':' rest)
    let (back, _, rest) := groups true (7 - front.length) rest
    return (front ++ List.replicate (8 - front.length - back.length) 0 ++ back, rest)

/-- The number with the given digits in a base. -/
def join (base : Nat) (places : List Nat) : Nat := places.foldl (fun n d => n * base + d) 0

/-- The address that a whole text spells. -/
def read? (s : String) : Option IpAddress :=
  match octets s.toList with
  | some (os, []) => some (.v4 (.ofNat 32 (join 256 os)))
  | _ =>
    match sixteens s.toList with
    | some (gs, []) => some (.v6 (.ofNat 128 (join 65536 gs)))
    | _ => none

/-- The `count` digits of a number in a base, highest first. -/
def places (base : Nat) : Nat → Nat → List Nat
  | 0, _ => []
  | count + 1, n => places base count (n / base) ++ [n % base]

/-- Four octets with points between them. -/
def octetText (bits : Nat) : String :=
  ".".intercalate ((places 256 4 bits).map Nat.repr)

/-- Start and length of the longest run of zeros, the first of equals. -/
def longestZeros (gs : List Nat) : Nat × Nat :=
  (List.range gs.length).foldl (fun best start =>
    let run := ((gs.drop start).takeWhile (· == 0)).length
    if best.2 < run then (start, run) else best) (0, 0)

/-- Groups in lower case hexadecimal with colons between them. -/
def groupText (gs : List Nat) : String :=
  ":".intercalate (gs.map fun g => String.ofList (Nat.toDigits 16 g))

/-- The canonical text of an address: two or more zero groups in a row are left out, and a version 4
address inside version 6 is written with its octets. -/
def text : IpAddress → String
  | .v4 bits => octetText bits.toNat
  | .v6 bits =>
    if bits.toNat >>> 32 = 0xffff then "::ffff:" ++ octetText (bits.toNat % 0x100000000)
    else
      let gs := places 65536 8 bits.toNat
      let (start, length) := longestZeros gs
      if length < 2 then groupText gs
      else groupText (gs.take start) ++ "::" ++ groupText (gs.drop (start + length))

end IpAddress

def IpAddress.isV6 : IpAddress → Bool
  | .v4 _ => false
  | .v6 _ => true

/-- The text of a socket address; a version 6 address stands in brackets. -/
def SocketAddress.text (a : SocketAddress) : String :=
  match a.ip with
  | .v4 _ => a.ip.text ++ ":" ++ a.port.toNat.repr
  | .v6 _ => "[" ++ a.ip.text ++ "]:" ++ a.port.toNat.repr

end RackRemote
