import RackRemote.Net.Address
import RackRemote.Toml.Value
/-!
# Numbers and points in time

The readers return what follows a number, a date or a time. That nothing else follows directly is
for their callers to see to.
-/

namespace RackRemote.Toml

def isDigit (base : Nat) (c : Char) : Bool := (digitValue base c).isSome

/-- Splits digits off the front; between two digits an underscore may stand. -/
def digits (base : Nat) : List Char → List Char × List Char
  | [] => ([], [])
  | '_' :: d :: rest =>
    if isDigit base d then
      let (ds, r) := digits base rest
      (d :: ds, r)
    else ([], '_' :: d :: rest)
  | d :: rest =>
    if isDigit base d then
      let (ds, r) := digits base rest
      (d :: ds, r)
    else ([], d :: rest)

/-- Reads one or more digits, the first without an underscore. -/
def digits? (base : Nat) : List Char → Option (List Char × List Char)
  | [] => none
  | d :: rest =>
    if isDigit base d then
      let (ds, r) := digits base rest
      some (d :: ds, r)
    else none

/-- Reads the digits of a decimal integer: a zero alone, or no zero in front. -/
def decimal? : List Char → Option (List Char × List Char)
  | '0' :: rest => some (['0'], rest)
  | l => digits? 10 l

/-- Reads a sign, if there is one. The answer is whether it is a minus. -/
def sign : List Char → Bool × List Char
  | '-' :: rest => (true, rest)
  | '+' :: rest => (false, rest)
  | l => (false, l)

/-- An integer, if it fits into 64 bits. -/
def integer? (negative : Bool) (magnitude : Nat) : Option Value :=
  let n : Int := if negative then -magnitude else magnitude
  if -0x8000000000000000 ≤ n ∧ n < 0x8000000000000000 then some (.integer n) else none

/-- Whether a decimal number rounds to infinity in double precision: whether it reaches the middle
between the largest finite number and the next power of two. -/
def overflows (digits : List Char) (exponent : Int) : Bool :=
  let digits := digits.dropWhile (· == '0')
  let size : Int := digits.length + exponent
  if digits.isEmpty ∨ size ≤ 308 then false
  else if 309 < size then true
  else
    let limit := 1 <<< 1024 - 1 <<< 970
    let m := ofDigits 10 digits
    if 0 ≤ exponent then limit ≤ m * Nat.pow 10 exponent.toNat
    else limit * Nat.pow 10 (-exponent).toNat ≤ m

/-- Reads the fraction of a number, which may be absent. -/
def fraction? : List Char → Option (List Char × List Char)
  | '.' :: rest => digits? 10 rest
  | l => some ([], l)

/-- Reads the exponent of a number, which may be absent. -/
def exponent? (l : List Char) : Option (Int × List Char) :=
  match l with
  | c :: rest =>
    if c = 'e' ∨ c = 'E' then do
      let (negative, rest) := sign rest
      let (ds, rest) ← digits? 10 rest
      let n := ofDigits 10 ds
      return (if negative then -n else n, rest)
    else some (0, l)
  | [] => some (0, [])

/-- Reads a decimal number. A fraction or an exponent makes it a float, which must not exceed the
range upwards. -/
def decimalNumber (l : List Char) : Option (Value × List Char) := do
  let (negative, rest) := sign l
  let (whole, rest) ← decimal? rest
  if rest.head? = some '.' ∨ rest.head? = some 'e' ∨ rest.head? = some 'E' then
    let (part, rest) ← fraction? rest
    let (exponent, rest) ← exponent? rest
    if !negative && overflows (whole ++ part) (exponent - part.length) then none
    else return (.float, rest)
  else return (← integer? negative (ofDigits 10 whole), rest)

/-- Drops a given beginning. -/
def keyword? (word : List Char) (l : List Char) : Option (List Char) :=
  if word <+: l then some (l.drop word.length) else none

/-- Reads an integer in a base other than ten. -/
def baseNumber (base : Nat) (l : List Char) : Option (Value × List Char) := do
  let (ds, rest) ← digits? base l
  return (← integer? false (ofDigits base ds), rest)

/-- Reads exactly `n` decimal digits. -/
def field (n : Nat) (l : List Char) : Option (Nat × List Char) :=
  let ds := l.take n
  if ds.length = n ∧ ds.all (isDigit 10) then some (ofDigits 10 ds, l.drop n) else none

/-- Reads a number of two digits within limits. -/
def fieldIn (low high : Nat) (l : List Char) : Option (Nat × List Char) := do
  let (n, rest) ← field 2 l
  if low ≤ n ∧ n ≤ high then return (n, rest) else none

def daysIn (year month : Nat) : Nat :=
  if month = 2 then
    if year % 4 = 0 ∧ (year % 100 ≠ 0 ∨ year % 400 = 0) then 29 else 28
  else if month = 4 ∨ month = 6 ∨ month = 9 ∨ month = 11 then 30
  else 31

/-- Reads a day of the calendar. -/
def date (l : List Char) : Option (List Char) := do
  let (year, rest) ← field 4 l
  let (month, rest) ← fieldIn 1 12 (← keyword? ['-'] rest)
  let (day, rest) ← fieldIn 1 31 (← keyword? ['-'] rest)
  if day ≤ daysIn year month then return rest else none

/-- Reads a time of day. -/
def time (l : List Char) : Option (List Char) := do
  let (_, rest) ← fieldIn 0 23 l
  let (_, rest) ← fieldIn 0 59 (← keyword? [':'] rest)
  let (_, rest) ← fieldIn 0 60 (← keyword? [':'] rest)
  match rest with
  | '.' :: d :: after => if isDigit 10 d then return after.dropWhile (isDigit 10) else return rest
  | _ => return rest

/-- Reads the distance of a time from universal time, which may be absent. -/
def offset (l : List Char) : List Char :=
  match l with
  | 'Z' :: rest | 'z' :: rest => rest
  | c :: rest =>
    if c = '+' ∨ c = '-' then
      (do
        let (_, rest) ← fieldIn 0 23 rest
        let (_, rest) ← fieldIn 0 59 (← keyword? [':'] rest)
        return rest).getD l
    else l
  | [] => []

/-- Reads a date, a time, or both. -/
def dateTime (l : List Char) : Option (List Char) :=
  match date l with
  | none => time l
  | some rest =>
    match rest with
    | c :: after =>
      if c = 'T' ∨ c = 't' ∨ c = ' ' then ((time after).map offset).getD rest else rest
    | [] => rest

/-- Reads infinity or what is no number, with or without a sign. -/
def special (l : List Char) : Option (List Char) :=
  let (_, rest) := sign l
  (keyword? "inf".toList rest).or (keyword? "nan".toList rest)

/-- Reads a truth value, a number or a point in time. -/
def scalar (l : List Char) : Option (Value × List Char) :=
  match keyword? "true".toList l, keyword? "false".toList l, special l, dateTime l with
  | some rest, _, _, _ => some (.boolean true, rest)
  | _, some rest, _, _ => some (.boolean false, rest)
  | _, _, some rest, _ => some (.float, rest)
  | _, _, _, some rest => some (.dateTime, rest)
  | _, _, _, _ =>
    match l with
    | '0' :: 'x' :: rest => baseNumber 16 rest
    | '0' :: 'o' :: rest => baseNumber 8 rest
    | '0' :: 'b' :: rest => baseNumber 2 rest
    | l => decimalNumber l

end RackRemote.Toml
