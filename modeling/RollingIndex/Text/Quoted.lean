import RollingIndex.Text.CodePoints

/-!
# Quoted text

Names in messages stand between double quotes where they are optional or part of a list. Inside the
quotes

* tab, line feed, carriage return, NUL, the quote and the backslash are written with a backslash;
* code points that extend the character before them, and those without a visible form, are written
  by number as `\u{…}` with the fewest lower-case hexadecimal digits;
* every other character stands for itself.
-/

namespace RollingIndex.Text

/-- A code point by its number. -/
def byNumber (c : Char) : String :=
  "\\u\x7b" ++ String.ofList (Nat.toDigits 16 c.toNat) ++ "\x7d"

/-- One character inside quotes. -/
def quotedChar (c : Char) : String :=
  if c = '\x00' then "\\0"
  else if c = '\t' then "\\t"
  else if c = '\n' then "\\n"
  else if c = '\r' then "\\r"
  else if c = '"' then "\\\""
  else if c = '\\' then "\\\\"
  else if graphemeExtend.has c || unprintable.has c then byNumber c
  else c.toString

/-- A text in double quotes. -/
def quoted (s : String) : String :=
  "\"" ++ s.toList.foldl (fun text c => text ++ quotedChar c) "" ++ "\""

/-- A list of texts, in brackets. -/
def quotedList (items : List String) : String :=
  "[" ++ String.intercalate ", " (items.map quoted) ++ "]"

/-- An optional text. -/
def quotedOption : Option String → String
  | none => "None"
  | some s => "Some(" ++ quoted s ++ ")"

end RollingIndex.Text
