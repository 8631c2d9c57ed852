import RollingIndex.Json.Basic
import RollingIndex.Decimal.Shortest

/-!
# Compact JSON text

The text of a value has no spaces. In a text the quote, the backslash and the control characters
below U+0020 are escaped, with a letter where JSON has one; all else stands for itself. `Json.size`
is the number of bytes of that text, which is what a document counts for in the size of an index.
-/

namespace RollingIndex

namespace Json

/-- A control character by its number. -/
def escapeByNumber (c : Char) : String :=
  let digits := Nat.toDigits 16 c.toNat
  "\\u" ++ String.ofList (List.replicate (4 - digits.length) '0' ++ digits)

/-- One character inside quotes. -/
def escapeChar (c : Char) : String :=
  if c = '"' then "\\\""
  else if c = '\\' then "\\\\"
  else if c = '\x08' then "\\b"
  else if c = '\x0c' then "\\f"
  else if c = '\n' then "\\n"
  else if c = '\r' then "\\r"
  else if c = '\t' then "\\t"
  else if c.toNat < 0x20 then escapeByNumber c
  else c.toString

/-- Append a quoted text. -/
def appendText (out : String) (s : String) : String :=
  s.foldl (fun out c =>
    if c.toNat < 0x20 || c == '"' || c == '\\' then out ++ escapeChar c else out.push c)
    (out.push '"') |>.push '"'

mutual

/-- Append the text of a value. -/
def append (out : String) : Json → String
  | .null => out ++ "null"
  | .bool true => out ++ "true"
  | .bool false => out ++ "false"
  | .int n => out ++ toString n
  | .double x => out ++ x.text
  | .text s => appendText out s
  | .array items => appendItems (out.push '[') true items
  | .object fields => appendFields (out.push '\x7b') true fields

/-- Append the items of an array and its closing bracket. -/
def appendItems (out : String) (first : Bool) : List Json → String
  | [] => out.push ']'
  | item :: rest => appendItems (append (if first then out else out.push ',') item) false rest

/-- Append the fields of an object and its closing brace. -/
def appendFields (out : String) (first : Bool) : List (String × Json) → String
  | [] => out.push '\x7d'
  | (key, value) :: rest =>
    let out := appendText (if first then out else out.push ',') key
    appendFields (append (out.push ':') value) false rest

end

/-- The compact text of a value. -/
def compact (value : Json) : String := append "" value

/-- The number of bytes of the compact text. -/
def size (value : Json) : Nat := value.compact.utf8ByteSize

end Json

end RollingIndex
