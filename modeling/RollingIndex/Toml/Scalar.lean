import RollingIndex.Decimal.Double
import RollingIndex.Toml.Lexical

/-!
# Numbers, truth values and times in TOML text

Digits may be separated by single underscores. A decimal integer has no zero in front of other
digits; with a fraction or an exponent behind it, it is a float, which is refused if it is positive
and too large for a double. Times are checked against the calendar.
-/

namespace RollingIndex

namespace TomlText

/-! ## Digits -/

/-- Digits in front, with single underscores between them; those read so far come last first. -/
def digitsWith (isDigit : Char → Bool) (read : List Char) : List Char → Scan (List Char)
  | [] => some (read.reverse, [])
  | [c] => if isDigit c then some ((c :: read).reverse, []) else some (read.reverse, [c])
  | c :: d :: rest =>
    if isDigit c then digitsWith isDigit (c :: read) (d :: rest)
    else if c = '_' ∧ !read.isEmpty then
      if isDigit d then digitsWith isDigit (d :: read) rest else none
    else some (read.reverse, c :: d :: rest)

/-- At least one digit. -/
def digits1 (isDigit : Char → Bool) (text : List Char) : Scan (List Char) :=
  match digitsWith isDigit [] text with
  | some ([], _) | none => none
  | some (digits, rest) => some (digits, rest)

/-- The value of digits to a base. -/
def valueOf (base : Nat) (digits : List Char) : Nat :=
  digits.foldl (fun n c => n * base + ((Json.hexValue? c.toUInt8).getD 0)) 0

/-- A sign, if there is one: whether it is a minus. -/
def sign : List Char → Bool × List Char
  | '+' :: rest => (false, rest)
  | '-' :: rest => (true, rest)
  | text => (false, text)

/-- The digits of a decimal integer: a single zero, or digits of which the first is none. -/
def decimalDigits (text : List Char) : Scan (List Char) :=
  match text with
  | '0' :: rest => some (['0'], rest)
  | text => digits1 Char.isDigit text

/-! ## Integers -/

/-- An integer, if it has 64 bits with its sign. -/
def ofInteger? (n : Int) : Option Toml :=
  if fitsSigned64 n then some (.integer n) else none

/-- An integer to a base other than ten. -/
def basedInteger (base : Nat) (isDigit : Char → Bool) (text : List Char) :
    Option (Toml × List Char) := do
  let (digits, rest) ← digits1 isDigit text
  let n ← ofInteger? (valueOf base digits)
  return (n, rest)

/-- An integer. -/
def integer (text : List Char) : Option (Toml × List Char) :=
  match text with
  | '0' :: 'x' :: rest =>
    basedInteger 16 (fun c => c.isDigit || ('a' ≤ c && c ≤ 'f') || ('A' ≤ c && c ≤ 'F')) rest
  | '0' :: 'o' :: rest => basedInteger 8 (fun c => '0' ≤ c && c ≤ '7') rest
  | '0' :: 'b' :: rest => basedInteger 2 (fun c => c == '0' || c == '1') rest
  | text => do
    let (negative, text) := sign text
    let (digits, rest) ← decimalDigits text
    let n : Int := valueOf 10 digits
    return (← ofInteger? (if negative then -n else n), rest)

/-! ## Floats -/

/-- The characters after a word. -/
def after? (word : String) (text : List Char) : Option (List Char) :=
  word.toList.isPrefixOf? text

/-- A fraction behind an integer: its digits. -/
def fraction : List Char → Scan (List Char)
  | '.' :: rest => digits1 Char.isDigit rest
  | _ => none

/-- An exponent: whether it is negative, and its digits. -/
def exponent : List Char → Option ((Bool × List Char) × List Char)
  | c :: rest =>
    if c = 'e' ∨ c = 'E' then do
      let (negative, rest) := sign rest
      let (digits, rest) ← digits1 Char.isDigit rest
      return ((negative, digits), rest)
    else none
  | [] => none

/-- Whether a decimal `significand * 10 ^ e` rounds to a double. Beyond four hundred places the
answer does not hang on the digits. -/
def fitsDouble (significand : Nat) (e : Int) : Bool :=
  let point := ((Nat.toDigits 10 significand).length : Int) + e
  if significand = 0 ∨ point < -400 then true
  else if 400 < point then false
  else
    (Double.ofRatio? false (significand * powerOfTen e.toNat) (powerOfTen (-e).toNat)).isSome

/-- A float with digits. -/
def digitFloat (text : List Char) : Option (Toml × List Char) := do
  let (negative, text) := sign text
  let (whole, rest) ← decimalDigits text
  let (places, hasFraction, rest) ← match rest with
    | '.' :: _ => do
      let (places, rest) ← fraction rest
      pure (places, true, rest)
    | _ => pure ([], false, rest)
  let (scale, hasExponent, rest) ← match rest with
    | c :: _ =>
      if c = 'e' ∨ c = 'E' then do
        let ((negative, digits), rest) ← exponent rest
        let n : Int := valueOf 10 digits
        pure (if negative then -n else n, true, rest)
      else pure ((0 : Int), false, rest)
    | [] => pure ((0 : Int), false, [])
  if hasFraction || hasExponent then
    if negative || fitsDouble (valueOf 10 (whole ++ places)) (scale - places.length) then
      return (.float, rest)
    else none
  else none

/-- A float: with digits, an infinity, or no number. -/
def float (text : List Char) : Scan Toml :=
  match digitFloat text with
  | some r => some r
  | none =>
    let (_, text) := sign text
    match (after? "inf" text).or (after? "nan" text) with
    | some rest => some (.float, rest)
    | none => none

/-! ## Times -/

/-- A number of exactly so many digits within bounds. -/
def fixed (width first last : Nat) (text : List Char) : Scan Nat :=
  let digits := text.take width
  let n := valueOf 10 digits
  if digits.length = width ∧ digits.all Char.isDigit ∧ first ≤ n ∧ n ≤ last then
    some (n, text.drop width)
  else none

/-- The number of days of a month. -/
def daysIn (year month : Nat) : Nat :=
  if month = 2 then
    if year % 4 = 0 ∧ (year % 100 ≠ 0 ∨ year % 400 = 0) then 29 else 28
  else if month ∈ [4, 6, 9, 11] then 30
  else 31

/-- A date. -/
def date (text : List Char) : Option (List Char) := do
  let (year, rest) ← fixed 4 0 9999 text
  let rest ← after? "-" rest
  let (month, rest) ← fixed 2 1 12 rest
  let rest ← after? "-" rest
  let (_, rest) ← fixed 2 1 (daysIn year month) rest
  return rest

/-- A time of day, to the second or to a part of it. -/
def timeOfDay (text : List Char) : Option (List Char) := do
  let (_, rest) ← fixed 2 0 23 text
  let rest ← after? ":" rest
  let (_, rest) ← fixed 2 0 59 rest
  let rest ← after? ":" rest
  let (_, rest) ← fixed 2 0 60 rest
  match rest with
  | '.' :: places =>
    if (places.takeWhile Char.isDigit).isEmpty then return rest
    else return places.dropWhile Char.isDigit
  | _ => return rest

/-- A distance from universal time. -/
def offset : List Char → Option (List Char)
  | 'Z' :: rest | 'z' :: rest => some rest
  | c :: rest =>
    if c = '+' ∨ c = '-' then do
      let (_, rest) ← fixed 2 0 23 rest
      let rest ← after? ":" rest
      let (_, rest) ← fixed 2 0 59 rest
      return rest
    else none
  | [] => none

/-- A date, a date with a time and perhaps a distance from universal time, or a time. -/
def dateTime (text : List Char) : Scan Toml :=
  match date text with
  | none => (timeOfDay text).map fun rest => (.dateTime, rest)
  | some rest =>
    let withTime : Option (List Char) := match rest with
      | c :: more => if c ∈ ['T', 't', ' '] then timeOfDay more else none
      | [] => none
    match withTime with
    | none => some (.dateTime, rest)
    | some rest => some (.dateTime, (offset rest).getD rest)

/-! ## Scalars -/

/-- A value that is no array and no table. -/
def scalar (text : List Char) : Scan Toml :=
  match text with
  | [] => none
  | c :: _ =>
    if c = '"' ∨ c = '\'' then (anyText text).map fun r => (.text r.1, r.2)
    else if c = 't' then (after? "true" text).map fun rest => (.boolean true, rest)
    else if c = 'f' then (after? "false" text).map fun rest => (.boolean false, rest)
    else (dateTime text).or ((float text).or (integer text))

end TomlText

end RollingIndex
