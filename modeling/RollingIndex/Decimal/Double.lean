import RollingIndex.Decimal.Basic

/-!
# Double precision numbers

A finite double is a sign, a mantissa below `2 ^ 53` and a binary exponent not below `-1074`. All
arithmetic here is exact on natural numbers, followed by one rounding to the nearest double, ties to
the even mantissa; a result too large for a double is `none`.

The value of a decimal literal (`Double.ofDecimal?`) is found in two roundings: the digits are
rounded to a double, which is then multiplied or divided by the double nearest to a power of ten.
-/

namespace RollingIndex

/-- A finite double, of the value `± mantissa * 2 ^ exponent`. -/
structure Double where
  /-- the sign; zero has one too -/
  negative : Bool
  /-- below `2 ^ 53`, and not below `2 ^ 52` unless the exponent is the least one -/
  mantissa : Nat
  /-- between `-1074` and `971` -/
  exponent : Int
deriving DecidableEq, Repr, Inhabited

namespace Double

/-- The exponent of the doubles nearest to zero. -/
def leastExponent : Int := -1074

/-- The exponent of the largest doubles. -/
def greatestExponent : Int := 971

/-- Zero with a sign. -/
def zero (negative : Bool) : Double := ⟨negative, 0, leastExponent⟩

/-- A quotient divided by a power of two, as a quotient. -/
def scaleDown (num den : Nat) (e : Int) : Nat × Nat :=
  if 0 ≤ e then (num, den * powerOfTwo e.toNat) else (num * powerOfTwo (-e).toNat, den)

/-- The exponent of the largest power of two that is at most `num / den`. -/
def floorLog2 (num den : Nat) : Int :=
  let guess : Int := (num.log2 : Int) - (den.log2 : Int)
  let (n, d) := scaleDown num den guess
  if d ≤ n then guess else guess - 1

/-- The double nearest to `± num / den`. -/
def ofRatio? (negative : Bool) (num den : Nat) : Option Double :=
  if num = 0 then some (zero negative)
  else
    let e := max leastExponent (floorLog2 num den - 52)
    let (n, d) := scaleDown num den e
    let m := roundDiv n d
    let (m, e) := if m = powerOfTwo 53 then (powerOfTwo 52, e + 1) else (m, e)
    if greatestExponent < e then none else some ⟨negative, m, e⟩

/-- The size of a double as a quotient. -/
def toRatio (x : Double) : Nat × Nat :=
  if 0 ≤ x.exponent then (x.mantissa * powerOfTwo x.exponent.toNat, 1)
  else (x.mantissa, powerOfTwo (-x.exponent).toNat)

/-- The rounded product. -/
def mul? (x y : Double) : Option Double :=
  let (a, b) := x.toRatio
  let (c, d) := y.toRatio
  ofRatio? (x.negative != y.negative) (a * c) (b * d)

/-- The rounded quotient by a double that is not zero. -/
def div? (x y : Double) : Option Double :=
  let (a, b) := x.toRatio
  let (c, d) := y.toRatio
  ofRatio? (x.negative != y.negative) (a * d) (b * c)

/-- The double nearest to `10 ^ n`, for `n` up to `308`. -/
def tenToThe (n : Nat) : Double := (ofRatio? false (powerOfTen n) 1).getD (zero false)

/-- A double times a power of ten. The power is applied in one step if it is a double itself, else a
negative one in steps of `10 ^ 308`, and a positive one is too large for anything but zero. -/
def timesTenToThe? (x : Double) (e : Int) : Option Double :=
  if e.natAbs ≤ 308 then
    if 0 ≤ e then x.mul? (tenToThe e.toNat) else x.div? (tenToThe e.natAbs)
  else if x.mantissa = 0 then some x
  else if 0 ≤ e then none
  else (x.div? (tenToThe 308)).bind fun y => y.timesTenToThe? (e + 308)
termination_by e.natAbs
decreasing_by omega

/-- The double of the decimal `± significand * 10 ^ e`. -/
def ofDecimal? (negative : Bool) (significand : Nat) (e : Int) : Option Double :=
  (ofRatio? negative significand 1).bind (timesTenToThe? · e)

end Double

end RollingIndex
