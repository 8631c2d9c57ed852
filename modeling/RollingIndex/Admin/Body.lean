import RollingIndex.Deployment.Ingest
import RollingIndex.Json.Reader

/-!
# Bodies of requests

A body is read from its first byte on, and the first fault decides: it may be that the text is not
JSON, or that it is JSON of another shape. What follows the value is not looked at.

A record is an object with the fields `id` and `body`, each once and in any order, among others that
do not matter; or an array of the two values. The bound of a purge is given likewise, by the one
field `to`.
-/

namespace RollingIndex

namespace Body

open Json (byte skipBlank)

/-! ## Values of one shape -/

/-- The fault of bytes where a value of another shape is asked for: they may not even be a value. -/
def wrongShape (bytes : List UInt8) : ReadError :=
  match bytes with
  | [] => .malformed
  | b :: _ =>
    if b == byte '[' || b == byte '\x7b' then .mismatched
    else
      match Json.value 0 bytes with
      | .ok _ => .mismatched
      | .error e => e

/-- A text. -/
def text (bytes : List UInt8) : Reading String :=
  match skipBlank bytes with
  | [] => .error .malformed
  | b :: rest => if b == byte '"' then Json.text? rest else .error (wrongShape (b :: rest))

/-- An integer of 64 bits with a sign. -/
def int64 (bytes : List UInt8) : Reading Int :=
  match skipBlank bytes with
  | [] => .error .malformed
  | b :: rest =>
    if b == byte '-' || Json.isDigitByte b then
      match Json.number b rest with
      | .error e => .error e
      | .ok (n, rest) =>
        match n.int64? with
        | some n => .ok (n, rest)
        | none => .error .mismatched
    else .error (wrongShape (b :: rest))

/-! ## Arrays and objects -/

/-- Whether the array goes on, with the bytes of the next item or of the closing bracket. -/
def nextItem (first : Bool) (bytes : List UInt8) : Reading Bool :=
  match skipBlank bytes with
  | [] => .error .malformed
  | b :: rest =>
    if b == byte ']' then .ok (false, b :: rest)
    else if first then .ok (true, b :: rest)
    else if b == byte ',' then
      match skipBlank rest with
      | [] => .error .malformed
      | c :: after => if c == byte ']' then .error .malformed else .ok (true, c :: after)
    else .error .malformed

/-- The bytes after the closing bracket, which has to come next. -/
def endArray (bytes : List UInt8) : Reading Unit := Json.expect [byte ']'] (skipBlank bytes)

/-- An item of an array that has to be there. -/
def item {α : Type} (first : Bool) (read : List UInt8 → Reading α) (bytes : List UInt8) :
    Reading α :=
  match nextItem first bytes with
  | .error e => .error e
  | .ok (false, _) => .error .mismatched
  | .ok (true, rest) => read rest

/-- Whether the object goes on, with the bytes after the quote of the next key or after the closing
brace. -/
def nextKey (first : Bool) (bytes : List UInt8) : Reading Bool :=
  let quote (bytes : List UInt8) : Reading Bool :=
    match bytes with
    | b :: rest => if b == byte '"' then .ok (true, rest) else .error .malformed
    | [] => .error .malformed
  match skipBlank bytes with
  | [] => .error .malformed
  | b :: rest =>
    if b == byte '\x7d' then .ok (false, rest)
    else if first then quote (b :: rest)
    else if b == byte ',' then quote (skipBlank rest)
    else .error .malformed

/-- What is to be done with the value of a key. -/
inductive Field (σ : Type) where
  /-- it does not matter -/
  | other
  /-- the key was there before -/
  | repeated
  /-- it is read into what was read so far -/
  | known (read : List UInt8 → Reading σ)

/-- The fields of an object up to its closing brace, collected into a state. -/
def fields {σ : Type} (field : σ → String → Field σ) (fuel : Nat) (first : Bool) (state : σ)
    (bytes : List UInt8) : Reading σ :=
  match fuel with
  | 0 => .error .malformed
  | fuel + 1 =>
    match nextKey first bytes with
    | .error e => .error e
    | .ok (false, rest) => .ok (state, rest)
    | .ok (true, rest) =>
      match Json.text? rest with
      | .error e => .error e
      | .ok (key, rest) =>
        let afterColon := Json.expect [byte ':'] (skipBlank rest)
        match field state key with
        | .repeated => .error .mismatched
        | .other =>
          match afterColon with
          | .error e => .error e
          | .ok ((), rest) =>
            match Json.skipValue rest with
            | .error e => .error e
            | .ok ((), rest) => fields field fuel false state rest
        | .known read =>
          match afterColon with
          | .error e => .error e
          | .ok ((), rest) =>
            match read rest with
            | .error e => .error e
            | .ok (state, rest) => fields field fuel false state rest

/-- A value given as an object or as an array of its fields. -/
def shaped {α : Type} (object array : List UInt8 → Reading α) (bytes : List UInt8) : Reading α :=
  match skipBlank bytes with
  | [] => .error .malformed
  | b :: rest =>
    if b == byte '\x7b' then object rest
    else if b == byte '[' then array rest
    else .error (wrongShape (b :: rest))

/-! ## Records -/

/-- The content of a record, which lies in the list of records and in the record. -/
def content (bytes : List UInt8) : Reading Json := Json.value (Json.depthLimit - 2) bytes

/-- How the fields of a record are read. -/
def recordField (state : Option String × Option Json) : String → Field (Option String × Option Json)
  | "id" =>
    if state.1.isSome then .repeated
    else .known fun bytes => (text bytes).map fun r => ((some r.1, state.2), r.2)
  | "body" =>
    if state.2.isSome then .repeated
    else .known fun bytes => (content bytes).map fun r => ((state.1, some r.1), r.2)
  | _ => .other

/-- A record as an object whose brace has been read. -/
def recordObject (bytes : List UInt8) : Reading Record :=
  match fields recordField (bytes.length + 1) true (none, none) bytes with
  | .error e => .error e
  | .ok ((some id, some body), rest) => .ok (⟨id, body⟩, rest)
  | .ok (_, _) => .error .mismatched

/-- A record as an array whose bracket has been read. -/
def recordArray (bytes : List UInt8) : Except ReadError (Record × List UInt8) := do
  let (id, rest) ← item true text bytes
  let (body, rest) ← item false content rest
  let ((), rest) ← endArray rest
  return (⟨id, body⟩, rest)

/-- A record. -/
def record : List UInt8 → Reading Record := shaped recordObject recordArray

/-- The records up to the closing bracket; those read so far come last first. -/
def recordItems (fuel : Nat) (first : Bool) (read : List Record) (bytes : List UInt8) :
    Except ReadError (List Record) :=
  match fuel with
  | 0 => .error .malformed
  | fuel + 1 =>
    match nextItem first bytes with
    | .error e => .error e
    | .ok (false, _) => .ok read.reverse
    | .ok (true, rest) =>
      match record rest with
      | .error e => .error e
      | .ok (r, rest) => recordItems fuel false (r :: read) rest

/-- The records of a body. -/
def records (bytes : List UInt8) : Except ReadError (List Record) :=
  match skipBlank bytes with
  | [] => .error .malformed
  | b :: rest =>
    if b == byte '[' then recordItems (rest.length + 1) true [] rest
    else .error (wrongShape (b :: rest))

/-! ## The bound of a purge -/

/-- How the field of a bound is read. -/
def boundField (state : Option Int) : String → Field (Option Int)
  | "to" =>
    if state.isSome then .repeated
    else .known fun bytes => (int64 bytes).map fun r => (some r.1, r.2)
  | _ => .other

/-- A bound as an object whose brace has been read. -/
def boundObject (bytes : List UInt8) : Reading Int :=
  match fields boundField (bytes.length + 1) true none bytes with
  | .error e => .error e
  | .ok (some n, rest) => .ok (n, rest)
  | .ok (none, _) => .error .mismatched

/-- A bound as an array whose bracket has been read. -/
def boundArray (bytes : List UInt8) : Except ReadError (Int × List UInt8) := do
  let (n, rest) ← item true int64 bytes
  let ((), rest) ← endArray rest
  return (n, rest)

/-- The bound of a purge in a body. -/
def bound (bytes : List UInt8) : Except ReadError Int :=
  (shaped boundObject boundArray bytes).map (·.1)

end Body

end RollingIndex
