import RollingIndex.Table
import RollingIndex.Decimal.Double

/-!
# JSON values

Documents, mappings and the bodies of requests are JSON values. A number is an integer between
`-2 ^ 63` and `2 ^ 64 - 1` or else a double. The fields of an object stand in ascending order of
their keys, each key once; `Json.ofFields` brings any list of fields into that form.
-/

namespace RollingIndex

/-- A JSON value. -/
inductive Json where
  /-- the value `null` -/
  | null
  /-- a truth value -/
  | bool (b : Bool)
  /-- a number that is an integer of at most 64 bits -/
  | int (n : Int)
  /-- any other number -/
  | double (x : Double)
  /-- a text -/
  | text (s : String)
  /-- an array -/
  | array (items : List Json)
  /-- an object -/
  | object (fields : List (String × Json))
deriving Inhabited

namespace Json

/-- The object with the given fields; of several with one key the last counts. -/
def ofFields (fields : List (String × Json)) : Json := .object (Table.ofList fields).entries

/-- The value of a field, if the value is an object that has it. -/
def field? (key : String) : Json → Option Json
  | .object fields => Table.lookup key fields
  | _ => none

/-- The number, if the value is an integer that fits 64 bits with a sign. -/
def int64? : Json → Option Int
  | .int n => if fitsSigned64 n then some n else none
  | _ => none

/-- A text or `null`. -/
def ofOption (f : α → Json) : Option α → Json
  | none => .null
  | some a => f a

/-- A natural number. -/
def nat (n : Nat) : Json := .int n

/-- An array of texts. -/
def texts (items : List String) : Json := .array (items.map .text)

/-- A table as an object. -/
def ofTable (f : α → Json) (t : Table α) : Json := .object (t.map fun _ => f).entries

end Json

end RollingIndex
