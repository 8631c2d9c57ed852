import RollingIndex.Json.Lexical

/-!
# Reading JSON text

`Json.value` reads one value and leaves the bytes after it; `Json.parse?` reads a text that is one
value. Arrays and objects are nested at most `Json.depthLimit` deep, which `room` counts down.

A value that nobody looks at is passed over by `Json.skipValue`, which holds the open brackets in a
list: it has no limit of depth, and it does not ask whether a number fits a double.
-/

namespace RollingIndex

namespace Json

/-- The number of arrays and objects that may lie within each other. -/
def depthLimit : Nat := 127

/-- The bytes after a `,` or after the closing bracket, which the answer tells apart. -/
def separator (closing : UInt8) (bytes : List UInt8) : Reading Bool :=
  match skipBlank bytes with
  | b :: rest =>
    if b == byte ',' then .ok (true, rest)
    else if b == closing then .ok (false, rest)
    else .error .malformed
  | [] => .error .malformed

/-- A key with the colon after it. -/
def key (bytes : List UInt8) : Reading String :=
  match skipBlank bytes with
  | b :: rest =>
    if b == byte '"' then
      match text? rest with
      | .error e => .error e
      | .ok (s, rest) =>
        match expect [byte ':'] (skipBlank rest) with
        | .error e => .error e
        | .ok ((), rest) => .ok (s, rest)
    else .error .malformed
  | [] => .error .malformed

mutual

/-- One value; `fuel` bounds the number of values, items and fields still to come. -/
def valueWith (fuel room : Nat) (bytes : List UInt8) : Reading Json :=
  match fuel, skipBlank bytes with
  | 0, _ | _, [] => .error .malformed
  | fuel + 1, b :: rest =>
    if b == byte 'n' then (literalTail "ull" rest).map fun r => (.null, r.2)
    else if b == byte 't' then (literalTail "rue" rest).map fun r => (.bool true, r.2)
    else if b == byte 'f' then (literalTail "alse" rest).map fun r => (.bool false, r.2)
    else if b == byte '"' then (text? rest).map fun r => (.text r.1, r.2)
    else if b == byte '-' || isDigitByte b then number b rest
    else if b == byte '[' then
      match room, skipBlank rest with
      | 0, _ | _, [] => .error .malformed
      | room + 1, c :: after =>
        if c == byte ']' then .ok (.array [], after) else itemsWith fuel room [] (c :: after)
    else if b == byte '\x7b' then
      match room, skipBlank rest with
      | 0, _ | _, [] => .error .malformed
      | room + 1, c :: after =>
        if c == byte '\x7d' then .ok (.object [], after) else fieldsWith fuel room [] (c :: after)
    else .error .malformed

/-- The items of an array up to its closing bracket; those read so far come last first. -/
def itemsWith (fuel room : Nat) (read : List Json) (bytes : List UInt8) : Reading Json :=
  match fuel with
  | 0 => .error .malformed
  | fuel + 1 =>
    match valueWith fuel room bytes with
    | .error e => .error e
    | .ok (item, rest) =>
      match separator (byte ']') rest with
      | .error e => .error e
      | .ok (false, rest) => .ok (.array (item :: read).reverse, rest)
      | .ok (true, rest) => itemsWith fuel room (item :: read) rest

/-- The fields of an object up to its closing brace; those read so far come last first. -/
def fieldsWith (fuel room : Nat) (read : List (String × Json)) (bytes : List UInt8) :
    Reading Json :=
  match fuel with
  | 0 => .error .malformed
  | fuel + 1 =>
    match key bytes with
    | .error e => .error e
    | .ok (name, rest) =>
      match valueWith fuel room rest with
      | .error e => .error e
      | .ok (value, rest) =>
        match separator (byte '\x7d') rest with
        | .error e => .error e
        | .ok (false, rest) => .ok (.ofFields ((name, value) :: read).reverse, rest)
        | .ok (true, rest) => fieldsWith fuel room ((name, value) :: read) rest

end

/-- One value, with room for so many arrays and objects within each other. Every value, item and
field takes at least one byte, and an item or field counts twice. -/
def value (room : Nat) (bytes : List UInt8) : Reading Json :=
  valueWith (2 * bytes.length + 1) room bytes

/-- The value of a text that holds nothing else. -/
def parse? (bytes : List UInt8) : Option Json :=
  match value depthLimit bytes with
  | .ok (v, rest) => if (skipBlank rest).isEmpty then some v else none
  | .error _ => none

/-! ## Passing over a value -/

/-- Whether the digits after a sign, and the fraction and exponent after them, are those of a
number. -/
def skipNumber (bytes : List UInt8) : Reading Unit :=
  match spanDigits bytes with
  | ([], _) => .error .malformed
  | (first :: more, rest) =>
    if first == byte '0' && !more.isEmpty then .error .malformed
    else
      let afterFraction : Reading Unit := match rest with
        | b :: after =>
          if b == byte '.' then
            match spanDigits after with
            | ([], _) => .error .malformed
            | (_, rest) => .ok ((), rest)
          else .ok ((), rest)
        | [] => .ok ((), [])
      match afterFraction with
      | .error e => .error e
      | .ok ((), rest) =>
        match rest with
        | b :: after =>
          if b == byte 'e' || b == byte 'E' then (exponent after).map fun r => ((), r.2)
          else .ok ((), rest)
        | [] => .ok ((), [])

/-- A value that is no array and no object. -/
def skipScalar (b : UInt8) (rest : List UInt8) : Reading Unit :=
  if b == byte 'n' then literalTail "ull" rest
  else if b == byte 't' then literalTail "rue" rest
  else if b == byte 'f' then literalTail "alse" rest
  else if b == byte '"' then
    match skipText? rest with
    | some rest => .ok ((), rest)
    | none => .error .malformed
  else if b == byte '-' then skipNumber rest
  else if isDigitByte b then skipNumber (b :: rest)
  else .error .malformed

/-- A key that nobody looks at, with the colon after it. -/
def skipKey (bytes : List UInt8) : Reading Unit :=
  match skipBlank bytes with
  | b :: rest =>
    if b == byte '"' then
      match skipText? rest with
      | some rest => expect [byte ':'] (skipBlank rest)
      | none => .error .malformed
    else .error .malformed
  | [] => .error .malformed

/-- What is looked for while a value is passed over. -/
inductive Sought where
  /-- a value -/
  | value
  /-- the first item or field of the innermost array or object, or its end -/
  | first
  /-- a comma or the end of the innermost array or object -/
  | next
deriving DecidableEq

/-- Pass over what is left of a value; `opened` holds for every open array or object, innermost
first, whether it is an object. -/
def skipWith (fuel : Nat) (opened : List Bool) (sought : Sought) (bytes : List UInt8) :
    Reading Unit :=
  match fuel with
  | 0 => .error .malformed
  | fuel + 1 =>
    match sought, opened with
    | .value, _ =>
      match skipBlank bytes with
      | [] => .error .malformed
      | b :: rest =>
        if b == byte '[' then skipWith fuel (false :: opened) .first rest
        else if b == byte '\x7b' then skipWith fuel (true :: opened) .first rest
        else
          match skipScalar b rest with
          | .error e => .error e
          | .ok ((), rest) => skipWith fuel opened .next rest
    | .first, isObject :: outer =>
      match skipBlank bytes with
      | [] => .error .malformed
      | b :: rest =>
        if b == (if isObject then byte '\x7d' else byte ']') then skipWith fuel outer .next rest
        else if isObject then
          match skipKey (b :: rest) with
          | .error e => .error e
          | .ok ((), rest) => skipWith fuel opened .value rest
        else skipWith fuel opened .value (b :: rest)
    | .next, isObject :: outer =>
      match separator (if isObject then byte '\x7d' else byte ']') bytes with
      | .error e => .error e
      | .ok (false, rest) => skipWith fuel outer .next rest
      | .ok (true, rest) =>
        if isObject then
          match skipKey rest with
          | .error e => .error e
          | .ok ((), rest) => skipWith fuel opened .value rest
        else skipWith fuel opened .value rest
    | _, [] => .ok ((), bytes)

/-- Pass over one value. Every step but the last takes a byte or is followed by one that does. -/
def skipValue (bytes : List UInt8) : Reading Unit := skipWith (2 * bytes.length + 2) [] .value bytes

end Json

end RollingIndex
