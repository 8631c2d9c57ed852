import RollingIndex.Json.Basic

/-!
# The words of JSON text

JSON text is read as bytes. This module reads what lies between the brackets: blanks, the three
literals, numbers and texts. Each reader takes the bytes that are left and answers with what it read
and the bytes after it.

The digits of a number are collected into a natural number below `2 ^ 64`; digits that no longer fit
count as a power of ten in front of the decimal point and are dropped behind it.
-/

namespace RollingIndex

/-- Why a text is refused. -/
inductive ReadError where
  /-- the text is not JSON -/
  | malformed
  /-- the text is JSON up to here, but not of the shape that is asked for -/
  | mismatched
deriving DecidableEq, Repr

/-- The outcome of reading: the value and the bytes after it. -/
abbrev Reading (α : Type) := Except ReadError (α × List UInt8)

namespace Json

/-- The code of an ASCII character. -/
def byte (c : Char) : UInt8 := c.toUInt8

/-- Space, tab, line feed and carriage return. -/
def isBlankByte (b : UInt8) : Bool := b == 0x20 || b == 0x09 || b == 0x0A || b == 0x0D

/-- The bytes after leading blanks. -/
def skipBlank (bytes : List UInt8) : List UInt8 := bytes.dropWhile isBlankByte

/-- The bytes after a given word. -/
def expect (word : List UInt8) (bytes : List UInt8) : Reading Unit :=
  match word.isPrefixOf? bytes with
  | some rest => .ok ((), rest)
  | none => .error .malformed

/-- The rest of a literal whose first letter has been read. -/
def literalTail (letters : String) (bytes : List UInt8) : Reading Unit :=
  expect (letters.toList.map byte) bytes

/-! ## Numbers -/

/-- Whether a byte is a decimal digit. -/
def isDigitByte (b : UInt8) : Bool := 0x30 ≤ b && b ≤ 0x39

/-- The value of a digit. -/
def digitValue (b : UInt8) : Nat := b.toNat - 0x30

/-- Append digits to a number while it fits 64 bits; the digits that are left over come second. -/
def absorb (significand : Nat) : List UInt8 → Nat × List UInt8
  | [] => (significand, [])
  | d :: rest =>
    let next := significand * 10 + digitValue d
    if fitsBits 64 next then absorb next rest else (significand, d :: rest)

/-- The digits in front and the bytes after them. -/
def spanDigits (bytes : List UInt8) : List UInt8 × List UInt8 :=
  (bytes.takeWhile isDigitByte, bytes.dropWhile isDigitByte)

/-- The value of digits. -/
def digitsValue (digits : List UInt8) : Nat := digits.foldl (fun n d => n * 10 + digitValue d) 0

/-- The digits of an exponent with its sign: after an optional sign there is at least one digit. -/
def exponent (bytes : List UInt8) : Reading (Bool × List UInt8) :=
  let (negative, bytes) := match bytes with
    | b :: rest =>
      if b == byte '+' then (false, rest)
      else if b == byte '-' then (true, rest)
      else (false, bytes)
    | [] => (false, [])
  match spanDigits bytes with
  | ([], _) => .error .malformed
  | (digits, rest) => .ok ((negative, digits), rest)

/-- The double of a significand, a power of ten counted so far, and the digits of a written
exponent. A written exponent of more than 31 bits makes every number but zero too large or zero. -/
def doubleOf (negative : Bool) (significand : Nat) (scale : Int) (negativeExponent : Bool)
    (exponentDigits : List UInt8) : Option Double :=
  let written := digitsValue exponentDigits
  if fitsBits 31 written then
    Double.ofDecimal? negative significand
      (if negativeExponent then scale - written else scale + written)
  else if significand ≠ 0 ∧ negativeExponent = false then none
  else some (.zero negative)

/-- A number with a fraction, an exponent or too many digits: what follows the fraction. -/
def doubleTail (negative : Bool) (significand : Nat) (scale : Int) (bytes : List UInt8) :
    Reading Json :=
  let finish (x : Option Double) (rest : List UInt8) : Reading Json :=
    match x with
    | some x => .ok (.double x, rest)
    | none => .error .malformed
  match bytes with
  | b :: rest =>
    if b == byte 'e' || b == byte 'E' then
      match exponent rest with
      | .error e => .error e
      | .ok ((negativeExponent, digits), rest) =>
        finish (doubleOf negative significand scale negativeExponent digits) rest
    else finish (Double.ofDecimal? negative significand scale) bytes
  | [] => finish (Double.ofDecimal? negative significand scale) []

/-- An integer as a value: beyond 64 bits, and for a negative zero, it is a double. -/
def ofInteger (negative : Bool) (n : Nat) : Json :=
  if negative then
    if n ≠ 0 ∧ fitsSigned64 (-n) then .int (-n)
    else .double ((Double.ofRatio? true n 1).getD (.zero true))
  else .int n

/-- A number whose sign has been read. -/
def unsignedNumber (negative : Bool) (bytes : List UInt8) : Reading Json :=
  match spanDigits bytes with
  | ([], _) => .error .malformed
  | (first :: more, rest) =>
    if first == byte '0' && !more.isEmpty then .error .malformed
    else
      let (significand, left) := absorb 0 (first :: more)
      match rest with
      | b :: after =>
        if b == byte '.' then
          match spanDigits after with
          | ([], _) => .error .malformed
          | (fraction, rest) =>
            let (significand, dropped) := absorb significand fraction
            let scale : Int := left.length - (fraction.length - dropped.length)
            doubleTail negative significand scale rest
        else if b == byte 'e' || b == byte 'E' || !left.isEmpty then
          doubleTail negative significand left.length rest
        else .ok (ofInteger negative significand, rest)
      | [] =>
        if left.isEmpty then .ok (ofInteger negative significand, [])
        else doubleTail negative significand left.length []

/-- A number, given its first byte and the bytes after that. -/
def number (first : UInt8) (rest : List UInt8) : Reading Json :=
  if first == byte '-' then unsignedNumber true rest else unsignedNumber false (first :: rest)

/-! ## Texts -/

/-- The value of a hexadecimal digit. -/
def hexValue? (b : UInt8) : Option Nat :=
  if isDigitByte b then some (digitValue b)
  else if byte 'a' ≤ b && b ≤ byte 'f' then some (b.toNat - (byte 'a').toNat + 10)
  else if byte 'A' ≤ b && b ≤ byte 'F' then some (b.toNat - (byte 'A').toNat + 10)
  else none

/-- Four hexadecimal digits. -/
def hex4? : List UInt8 → Option (Nat × List UInt8)
  | a :: b :: c :: d :: rest =>
    match hexValue? a, hexValue? b, hexValue? c, hexValue? d with
    | some a, some b, some c, some d => some (((a * 16 + b) * 16 + c) * 16 + d, rest)
    | _, _, _, _ => none
  | _ => none

theorem length_lt_of_hex4? {bytes rest : List UInt8} {n : Nat} (h : hex4? bytes = some (n, rest)) :
    rest.length < bytes.length := by
  unfold hex4? at h
  split at h
  · split at h
    · simp only [Option.some.injEq, Prod.mk.injEq] at h
      rw [← h.2]; simp only [List.length_cons]; omega
    · simp at h
  · simp at h

/-- The bytes of a code point. -/
def encode (codePoint : Nat) : List UInt8 := (Char.ofNat codePoint).toString.toUTF8.toList

/-- The second half of a pair of units above U+FFFF. -/
def lowUnit? : List UInt8 → Option (Nat × List UInt8)
  | a :: b :: rest =>
    if a == byte '\\' && b == byte 'u' then
      match hex4? rest with
      | some (n, rest) => if 0xDC00 ≤ n && n ≤ 0xDFFF then some (n, rest) else none
      | none => none
    else none
  | _ => none

theorem length_lt_of_lowUnit? {bytes rest : List UInt8} {n : Nat}
    (h : lowUnit? bytes = some (n, rest)) : rest.length < bytes.length := by
  unfold lowUnit? at h
  split at h
  · split at h
    · split at h
      · rename_i hhex
        split at h
        · simp only [Option.some.injEq, Prod.mk.injEq] at h
          have := length_lt_of_hex4? hhex
          rw [← h.2]; simp only [List.length_cons]; omega
        · simp at h
      · simp at h
    · simp at h
  · simp at h

/-- A code point by its number in four digits, or in two units; half a pair alone is refused. -/
def byNumber? (bytes : List UInt8) : Option (List UInt8 × List UInt8) :=
  match hex4? bytes with
  | none => none
  | some (n, rest) =>
    if 0xDC00 ≤ n && n ≤ 0xDFFF then none
    else if 0xD800 ≤ n && n ≤ 0xDBFF then
      match lowUnit? rest with
      | none => none
      | some (low, rest) => some (encode (0x10000 + (n - 0xD800) * 0x400 + (low - 0xDC00)), rest)
    else some (encode n, rest)

/-- The byte that an escape by letter stands for. -/
def letterEscape? (b : UInt8) : Option UInt8 :=
  if b == byte '"' || b == byte '\\' || b == byte '/' then some b
  else if b == byte 'b' then some 0x08
  else if b == byte 'f' then some 0x0C
  else if b == byte 'n' then some 0x0A
  else if b == byte 'r' then some 0x0D
  else if b == byte 't' then some 0x09
  else none

/-- What stands after a backslash. -/
def escape? : List UInt8 → Option (List UInt8 × List UInt8)
  | [] => none
  | b :: rest =>
    if b == byte 'u' then byNumber? rest
    else (letterEscape? b).map fun c => ([c], rest)

theorem length_lt_of_escape? {bytes text rest : List UInt8}
    (h : escape? bytes = some (text, rest)) : rest.length < bytes.length := by
  unfold escape? at h
  split at h
  · simp at h
  · split at h
    · unfold byNumber? at h
      split at h
      · simp at h
      · rename_i hhex
        have hlt := length_lt_of_hex4? hhex
        split at h
        · simp at h
        · split at h
          · split at h
            · simp at h
            · rename_i hlow
              have hlt' := length_lt_of_lowUnit? hlow
              simp only [Option.some.injEq, Prod.mk.injEq] at h
              rw [← h.2]; simp only [List.length_cons]; omega
          · simp only [Option.some.injEq, Prod.mk.injEq] at h
            rw [← h.2]; simp only [List.length_cons]; omega
    · simp only [Option.map_eq_some_iff, Prod.mk.injEq] at h
      obtain ⟨_, _, _, rfl⟩ := h
      simp

/-- The bytes of a text whose opening quote has been read, last first, and what follows its closing
quote. -/
def textBytes? (read : List UInt8) : List UInt8 → Option (List UInt8 × List UInt8)
  | [] => none
  | b :: rest =>
    if b == byte '"' then some (read, rest)
    else if b == byte '\\' then
      match h : escape? rest with
      | none => none
      | some (bytes, after) =>
        have := length_lt_of_escape? h
        textBytes? (bytes.reverse ++ read) after
    else if b < 0x20 then none
    else textBytes? (b :: read) rest
termination_by bytes => bytes.length

/-- A text whose opening quote has been read. -/
def text? (bytes : List UInt8) : Reading String :=
  match textBytes? [] bytes with
  | none => .error .malformed
  | some (read, rest) =>
    match String.fromUTF8? ⟨read.reverse.toArray⟩ with
    | some s => .ok (s, rest)
    | none => .error .malformed

/-- The bytes after a text whose content does not matter: escapes have to be escapes, but need not
stand for a character. -/
def skipText? : List UInt8 → Option (List UInt8)
  | [] => none
  | b :: rest =>
    if b == byte '"' then some rest
    else if b == byte '\\' then
      match rest with
      | [] => none
      | c :: rest =>
        if c == byte 'u' then
          match h : hex4? rest with
          | none => none
          | some (_, after) =>
            have := length_lt_of_hex4? h
            skipText? after
        else if (letterEscape? c).isSome then skipText? rest
        else none
    else if b < 0x20 then none
    else skipText? rest
termination_by bytes => bytes.length

end Json

end RollingIndex
