/-!
# Binary floating point numbers as bit patterns

`Binary32` and `Binary64` hold the interchange bits of a number, so two numbers are equal exactly
when their bits are. `Binary32.widen` is exact; `Binary64.narrow` rounds to nearest, ties to even.
-/

namespace RackRemote

/-- A single precision number: one sign bit, eight exponent bits, 23 fraction bits. -/
structure Binary32 where
  bits : UInt32
deriving DecidableEq, Repr, Inhabited

/-- A double precision number: one sign bit, eleven exponent bits, 52 fraction bits. -/
structure Binary64 where
  bits : UInt64
deriving DecidableEq, Repr, Inhabited

/-- The quotient `num / den` rounded to the nearest integer, a half going to the even neighbour. -/
def roundHalfEven (num den : Nat) : Nat :=
  let quotient := num / den
  let twice := 2 * (num % den)
  if twice < den then quotient
  else if den < twice then quotient + 1
  else quotient + quotient % 2

namespace Binary32

def negative (x : Binary32) : Bool := 1 <<< 31 ≤ x.bits.toNat

def exponent (x : Binary32) : Nat := x.bits.toNat >>> 23 % 1 <<< 8

def fraction (x : Binary32) : Nat := x.bits.toNat % 1 <<< 23

def isNaN (x : Binary32) : Bool := x.exponent == 255 && x.fraction != 0

/-- The pattern with the given sign and the given exponent and fraction fields as one number. -/
def pack (negative : Bool) (magnitude : Nat) : Binary32 :=
  ⟨((if negative then 1 <<< 31 else 0) + magnitude).toUInt32⟩

def zero : Binary32 := ⟨0⟩

end Binary32

namespace Binary64

def negative (x : Binary64) : Bool := 1 <<< 63 ≤ x.bits.toNat

def exponent (x : Binary64) : Nat := x.bits.toNat >>> 52 % 1 <<< 11

def fraction (x : Binary64) : Nat := x.bits.toNat % 1 <<< 52

def isNaN (x : Binary64) : Bool := x.exponent == 2047 && x.fraction != 0

def isInfinite (x : Binary64) : Bool := x.exponent == 2047 && x.fraction == 0

def isZero (x : Binary64) : Bool := x.exponent == 0 && x.fraction == 0

/-- Below zero in the order of numbers: a NaN is not, and neither is a negative zero. -/
def belowZero (x : Binary64) : Bool := x.negative && !x.isNaN && !x.isZero

/-- The pattern with the given sign and the given exponent and fraction fields as one number. -/
def pack (negative : Bool) (magnitude : Nat) : Binary64 :=
  ⟨((if negative then 1 <<< 63 else 0) + magnitude).toUInt64⟩

/-- The integer `m` of the finite value `m * 2 ^ scale`. -/
def significand (x : Binary64) : Nat :=
  if x.exponent = 0 then x.fraction else 1 <<< 52 + x.fraction

/-- The power of two that a finite value is a multiple of. -/
def scale (x : Binary64) : Int := (max x.exponent 1 : Nat) - 1075

end Binary64

/-- The same number in double precision. A NaN keeps its sign and payload and becomes quiet. -/
def Binary32.widen (x : Binary32) : Binary64 :=
  let f := x.fraction
  .pack x.negative <|
    if x.exponent = 255 then
      2047 <<< 52 + (if f = 0 then 0 else (f % 1 <<< 22) <<< 29 + 1 <<< 51)
    else if x.exponent = 0 then
      if f = 0 then 0
      else (f.log2 + 874) <<< 52 + (f - 1 <<< f.log2) <<< (52 - f.log2)
    else (x.exponent + 896) <<< 52 + f <<< 29

/-- The nearest number in single precision, ties to even; what is too large becomes infinite. -/
def Binary64.narrow (x : Binary64) : Binary32 :=
  .pack x.negative <|
    if x.exponent = 2047 then
      255 <<< 23 + (if x.fraction = 0 then 0 else x.fraction >>> 29 % 1 <<< 22 + 1 <<< 22)
    else
      let m := x.significand
      -- the unit of the result: 24 significant bits, but never finer than the least subnormal
      let unit : Int := max ((m.log2 : Int) + x.scale - 23) (-149)
      let rounded :=
        if x.scale < unit then roundHalfEven m (1 <<< (unit - x.scale).toNat)
        else m <<< (x.scale - unit).toNat
      -- a carry out of the significand moves into the exponent field by itself
      min ((unit + 149).toNat <<< 23 + rounded) (255 <<< 23)

end RackRemote
