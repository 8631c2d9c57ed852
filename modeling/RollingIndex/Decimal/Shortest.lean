import RollingIndex.Decimal.Double

/-!
# The shortest decimal of a double

A double is written with the fewest decimal digits that read back as the same double, and of the
decimals with that many digits with the one nearest to it.

The reals that round to a double form an interval, which contains its ends exactly if the mantissa
is even. For one digit, two digits and so on the two neighbours of the double on the grid of
decimals with that many digits are tried; seventeen digits always suffice.
-/

namespace RollingIndex

/-- The decimal `digits * 10 ^ exponent`. -/
structure Decimal where
  /-- the digits as a number -/
  digits : Nat
  /-- the power of ten -/
  exponent : Int
deriving DecidableEq, Repr

namespace Decimal

/-- Move the zeros at the end of the digits into the exponent. -/
def stripZeros (digits : Nat) (exponent : Int) : Decimal :=
  if h : digits ≠ 0 ∧ digits % 10 = 0 then stripZeros (digits / 10) (exponent + 1)
  else ⟨digits, exponent⟩
termination_by digits
decreasing_by omega

end Decimal

namespace Double

/-- The exponent of the largest power of ten that is at most `num / den`. -/
def floorLog10 (num den : Nat) : Int :=
  if den ≤ num then ((Nat.toDigits 10 (num / den)).length : Int) - 1
  else
    let places := (Nat.toDigits 10 (den / num)).length - 1
    if num * powerOfTen places = den then -(places : Int) else -(places : Int) - 1

/-- The double as a quotient with its neighbourhood: numbers `(low, value, high, den)` such that the
reals that round to it lie between `low / den` and `high / den`. -/
def neighbourhood (x : Double) : Nat × Nat × Nat × Nat :=
  let value := 4 * x.mantissa
  let gapBelow := if x.mantissa = powerOfTwo 52 ∧ leastExponent < x.exponent then 1 else 2
  let e := x.exponent - 2
  let up := powerOfTwo e.toNat
  ((value - gapBelow) * up, value * up, (value + 2) * up, powerOfTwo (-e).toNat)

/-- The better of the two decimals beside the double whose last place is `10 ^ k`, if one of them
reads back as the double. -/
def onGrid? (x : Double) (k : Int) : Option Decimal :=
  let (low, value, high, den) := x.neighbourhood
  let up := powerOfTen (-k).toNat
  let unit := den * powerOfTen k.toNat
  let below := value * up / unit
  let hits (c : Nat) : Bool :=
    if x.mantissa % 2 = 0 then low * up ≤ c * unit && c * unit ≤ high * up
    else low * up < c * unit && c * unit < high * up
  let nearer :=
    if 2 * (value * up) < (2 * below + 1) * unit then below
    else if (2 * below + 1) * unit < 2 * (value * up) then below + 1
    else below + below % 2
  if hits below && hits (below + 1) then some ⟨nearer, k⟩
  else if hits below then some ⟨below, k⟩
  else if hits (below + 1) then some ⟨below + 1, k⟩
  else none

/-- The shortest decimal that reads back as a double other than zero. -/
def shortest (x : Double) : Decimal :=
  let (num, den) := x.toRatio
  let point := floorLog10 num den
  match (List.range 17).findSome? fun (i : Nat) => x.onGrid? (point - i) with
  | some d => Decimal.stripZeros d.digits d.exponent
  | none => ⟨0, 0⟩

/-! ## Text -/

/-- Digits with a decimal point, for the decimal exponent `point` of the first digit. -/
def positional (digits : List Char) (point : Int) : List Char :=
  if point < 0 then '0' :: '.' :: (List.replicate (-point - 1).toNat '0' ++ digits)
  else
    let whole := point.toNat + 1
    if digits.length ≤ whole then
      digits ++ List.replicate (whole - digits.length) '0' ++ ['.', '0']
    else digits.take whole ++ '.' :: digits.drop whole

/-- Digits with an exponent, which always has a sign. -/
def scientific (digits : List Char) (point : Int) : List Char :=
  let fraction := match digits.drop 1 with
    | [] => []
    | rest => '.' :: rest
  digits.take 1 ++ fraction ++ 'e' :: (if point < 0 then '-' else '+') ::
    Nat.toDigits 10 point.natAbs

/-- The text of a double: shortest digits, positional where the first digit stands for `10 ^ -5` to
`10 ^ 15`, with an exponent elsewhere. -/
def text (x : Double) : String :=
  let size :=
    if x.mantissa = 0 then ['0', '.', '0']
    else
      let d := x.shortest
      let digits := Nat.toDigits 10 d.digits
      let point := d.exponent + (digits.length : Int) - 1
      if -5 ≤ point ∧ point ≤ 15 then positional digits point else scientific digits point
  String.ofList (if x.negative then '-' :: size else size)

end Double

end RollingIndex
