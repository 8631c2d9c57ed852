import RollingIndex.Decimal.Double

/-!
# Sizes for people

A size below `1024` bytes is written as it is. A larger one is rounded to a double, divided by
`1024` until it is below `1024` or the last unit is reached, and written with two decimal places, a
half going to the even neighbour. The unit is chosen before the places are cut off.
-/

namespace RollingIndex

/-- The units above the byte, each `1024` times the one before. -/
def largerUnits : List String := ["MB", "GB", "TB"]

/-- The divisor and the name of the unit in which `num / den` is below `1024`, or of the last
unit. -/
def fitUnit (num den : Nat) (unit : String) : List String → Nat × String
  | [] => (den, unit)
  | next :: more => if 1024 * den ≤ num then fitUnit num (1024 * den) next more else (den, unit)

/-- A number of hundredths with two places. -/
def hundredthsText (hundredths : Nat) : String :=
  toString (hundredths / 100) ++ "." ++ toString (hundredths % 100 / 10) ++
    toString (hundredths % 10)

/-- A number of bytes, rounded to a double, as a quotient. -/
def roundedBytes (bytes : Nat) : Nat × Nat :=
  match Double.ofRatio? false bytes 1 with
  | some x => x.toRatio
  | none => (bytes, 1)

/-- The hundredths of its unit that a size of at least `1024` bytes is written with, and the
unit. -/
def scaledSize (bytes : Nat) : Nat × String :=
  let (num, den) := roundedBytes bytes
  let (divisor, unit) := fitUnit num (1024 * den) "KB" largerUnits
  (roundDiv (100 * num) divisor, unit)

/-- A size for people. -/
def humanSize (bytes : Nat) : String :=
  if bytes < 1024 then toString bytes ++ " B"
  else
    let (hundredths, unit) := scaledSize bytes
    hundredthsText hundredths ++ " " ++ unit

end RollingIndex
