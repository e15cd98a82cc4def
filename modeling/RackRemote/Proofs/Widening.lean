import Mathlib.Data.Rat.Lemmas
import Mathlib.Tactic.FieldSimp
import Mathlib.Tactic.NormNum
import Mathlib.Tactic.Ring
import RackRemote.Ieee.Basic

/-!
# Numbers of two widths

A bit pattern stands for a number with its sign, for an infinity or for nothing. Widening a pattern
of single precision gives a pattern of double precision that stands for the same.
-/

namespace RackRemote

/-- What a bit pattern stands for. A zero has a sign like all others. -/
inductive Numeral where
  | nan
  | infinite (negative : Bool)
  | finite (negative : Bool) (magnitude : ℚ)
deriving DecidableEq

/-- What the fields of an interchange format stand for. The highest exponent is that of infinities
and NaNs, and with the lowest one the leading bit of the fraction is not implied. -/
def Numeral.ofFields (exponentBits fractionBits : Nat) (negative : Bool) (exponent fraction : Nat) :
    Numeral :=
  if exponent = 2 ^ exponentBits - 1 then if fraction = 0 then .infinite negative else .nan
  else
    let significand := if exponent = 0 then fraction else 2 ^ fractionBits + fraction
    let bias : ℤ := 2 ^ (exponentBits - 1) - 1
    .finite negative (significand * 2 ^ ((max exponent 1 : ℤ) - bias - fractionBits))

/-- In the order of numbers, where a zero of either sign is not below zero and a NaN is nowhere. -/
def Numeral.Nonneg : Numeral → Prop
  | .nan => False
  | .infinite negative => negative = false
  | .finite negative magnitude => negative = false ∨ magnitude = 0

def Binary32.numeral (x : Binary32) : Numeral := .ofFields 8 23 x.negative x.exponent x.fraction

def Binary64.numeral (x : Binary64) : Numeral := .ofFields 11 52 x.negative x.exponent x.fraction

end RackRemote

namespace RackRemote.Proofs

/-! ### Fields -/

lemma exponent_lt (x : Binary32) : x.exponent < 2 ^ 8 := Nat.mod_lt _ (by decide)

lemma fraction_lt (x : Binary32) : x.fraction < 2 ^ 23 := Nat.mod_lt _ (by decide)

/-- A packed pattern has the fields of which it was put together. -/
lemma pack_numeral (negative : Bool) {exponent fraction : Nat} (he : exponent < 2 ^ 11)
    (hf : fraction < 2 ^ 52) :
    (Binary64.pack negative (exponent <<< 52 + fraction)).numeral =
      .ofFields 11 52 negative exponent fraction := by
  have hbits : (Binary64.pack negative (exponent <<< 52 + fraction)).bits.toNat =
      (if negative then 2 ^ 63 else 0) + (exponent * 2 ^ 52 + fraction) := by
    have hlt : (if negative then 1 <<< 63 else 0) + (exponent <<< 52 + fraction) < 2 ^ 64 := by
      rw [Nat.shiftLeft_eq]
      cases negative <;> simp <;> omega
    rw [← Nat.shiftLeft_eq]
    exact Nat.mod_eq_of_lt hlt
  have hsign : decide (1 <<< 63 ≤ (if negative then 2 ^ 63 else 0) +
      (exponent * 2 ^ 52 + fraction)) = negative := by
    cases negative <;> simp; omega
  have hexponent : ((if negative then 2 ^ 63 else 0) + (exponent * 2 ^ 52 + fraction)) / 2 ^ 52 %
      1 <<< 11 = exponent := by
    cases negative <;> simp <;> omega
  have hfraction : ((if negative then 2 ^ 63 else 0) + (exponent * 2 ^ 52 + fraction)) % 1 <<< 52 =
      fraction := by
    cases negative <;> simp <;> omega
  rw [Binary64.numeral, Binary64.negative, Binary64.exponent, Binary64.fraction, hbits,
    Nat.shiftRight_eq_div_pow, hsign, hexponent, hfraction]

/-! ### Numbers -/

lemma ofFields_finite {exponentBits fractionBits : Nat} {exponent : Nat}
    (he : exponent ≠ 2 ^ exponentBits - 1) (negative : Bool) (fraction : Nat) :
    Numeral.ofFields exponentBits fractionBits negative exponent fraction =
      .finite negative ((if exponent = 0 then fraction else 2 ^ fractionBits + fraction : Nat) *
        2 ^ ((max exponent 1 : ℤ) - (2 ^ (exponentBits - 1) - 1) - fractionBits)) := by
  rw [Numeral.ofFields, if_neg he]

lemma ofFields_nan {exponentBits fractionBits : Nat} {exponent fraction : Nat}
    (he : exponent = 2 ^ exponentBits - 1) (hf : fraction ≠ 0) (negative : Bool) :
    Numeral.ofFields exponentBits fractionBits negative exponent fraction = .nan := by
  rw [Numeral.ofFields, if_pos he, if_neg hf]

/-- Trailing zeros of a significand can be counted in the exponent instead. -/
lemma scaled (m j : Nat) {low high : ℤ} (h : low + j = high) :
    ((m * 2 ^ j : Nat) : ℚ) * 2 ^ low = m * 2 ^ high := by
  rw [← h, zpow_add₀ two_ne_zero, zpow_natCast]
  push_cast
  ring

/-- The leading bit of a subnormal fraction becomes the implied one. -/
lemma widen_subnormal (negative : Bool) {fraction : Nat} (hf : fraction ≠ 0)
    (hlt : fraction < 2 ^ 23) :
    (Binary64.pack negative ((fraction.log2 + 874) <<< 52 +
      (fraction - 1 <<< fraction.log2) <<< (52 - fraction.log2))).numeral =
      .ofFields 8 23 negative 0 fraction := by
  set k := fraction.log2 with hk
  have hk23 : k < 23 := (Nat.log2_lt hf).mpr hlt
  have hlow : 2 ^ k ≤ fraction := Nat.log2_self_le hf
  have hhigh : fraction < 2 ^ (k + 1) := Nat.lt_log2_self
  have hscale : 2 ^ k * 2 ^ (52 - k) = 2 ^ 52 := by
    rw [← Nat.pow_add]
    congr 1
    omega
  have hrest : (fraction - 1 <<< k) <<< (52 - k) = (fraction - 2 ^ k) * 2 ^ (52 - k) := by
    rw [Nat.shiftLeft_eq, Nat.shiftLeft_eq, Nat.one_mul]
  have hrestlt : (fraction - 2 ^ k) * 2 ^ (52 - k) < 2 ^ 52 := by
    rw [← hscale]
    apply Nat.mul_lt_mul_of_pos_right _ (Nat.two_pow_pos _)
    rw [Nat.pow_succ] at hhigh
    omega
  rw [hrest, pack_numeral negative (by omega) hrestlt, ofFields_finite (by omega),
    ofFields_finite (by decide)]
  congr 1
  have hwhole : 2 ^ 52 + (fraction - 2 ^ k) * 2 ^ (52 - k) = fraction * 2 ^ (52 - k) := by
    rw [← hscale, ← Nat.add_mul, Nat.add_sub_cancel' hlow]
  rw [if_neg (by omega), if_pos rfl, hwhole]
  apply scaled
  push_cast
  omega

lemma widen_normal (negative : Bool) {exponent fraction : Nat} (hzero : exponent ≠ 0)
    (htop : exponent < 255) (hlt : fraction < 2 ^ 23) :
    (Binary64.pack negative ((exponent + 896) <<< 52 + fraction <<< 29)).numeral =
      .ofFields 8 23 negative exponent fraction := by
  rw [Nat.shiftLeft_eq fraction, pack_numeral negative (by omega) (by omega),
    ofFields_finite (by omega), ofFields_finite (by omega)]
  congr 1
  have hwhole : 2 ^ 52 + fraction * 2 ^ 29 = (2 ^ 23 + fraction) * 2 ^ 29 := by omega
  rw [if_neg (by omega), if_neg hzero, hwhole]
  apply scaled
  push_cast
  omega

/-- Single precision goes into double precision without loss. -/
theorem widen_numeral (x : Binary32) : x.widen.numeral = x.numeral := by
  have hfraction := fraction_lt x
  rw [Binary32.widen, Binary32.numeral]
  by_cases htop : x.exponent = 255
  · rw [if_pos htop, htop]
    by_cases hzero : x.fraction = 0
    · rw [if_pos hzero, hzero, pack_numeral _ (by decide) (by decide)]
      rfl
    · have hquiet : (x.fraction % 1 <<< 22) <<< 29 + 1 <<< 51 < 2 ^ 52 := by
        simp only [Nat.shiftLeft_eq]
        omega
      have hkept : (x.fraction % 1 <<< 22) <<< 29 + 1 <<< 51 ≠ 0 := by
        simp only [Nat.shiftLeft_eq]
        omega
      rw [if_neg hzero, pack_numeral _ (by decide) hquiet, ofFields_nan (by decide) hkept,
        ofFields_nan (by decide) hzero]
  · rw [if_neg htop]
    by_cases hexponent : x.exponent = 0
    · rw [if_pos hexponent, hexponent]
      by_cases hzero : x.fraction = 0
      · rw [if_pos hzero, hzero]
        have hpack := pack_numeral x.negative (show 0 < 2 ^ 11 by decide) (show 0 < 2 ^ 52 by decide)
        rw [Nat.zero_shiftLeft] at hpack
        rw [hpack, ofFields_finite (by decide), ofFields_finite (by decide)]
        simp
      · rw [if_neg hzero]
        exact widen_subnormal x.negative hzero hfraction
    · have hlt := exponent_lt x
      rw [if_neg hexponent]
      exact widen_normal x.negative hexponent (by omega) hfraction

/-- How the fields of a double precision pattern tell that its number is not below zero. -/
lemma numeral_nonneg_iff (x : Binary64) : x.numeral.Nonneg ↔ ¬(x.isNaN ∨ x.belowZero) := by
  rw [Binary64.belowZero, Binary64.isNaN, Binary64.isZero, Binary64.numeral]
  by_cases htop : x.exponent = 2047
  · by_cases hzero : x.fraction = 0
    · simp [Numeral.ofFields, Numeral.Nonneg, htop, hzero]
    · simp [Numeral.ofFields, Numeral.Nonneg, htop, hzero]
  · have hzero : ((if x.exponent = 0 then x.fraction else 2 ^ 52 + x.fraction : Nat) : ℚ) = 0 ↔
        x.exponent = 0 ∧ x.fraction = 0 := by
      rw [Nat.cast_eq_zero]
      split <;> omega
    rw [ofFields_finite htop, Numeral.Nonneg, mul_eq_zero_iff_right (zpow_ne_zero _ two_ne_zero),
      hzero]
    cases x.negative <;> simp [htop]

end RackRemote.Proofs
