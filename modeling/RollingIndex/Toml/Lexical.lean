import RollingIndex.Json.Lexical
import RollingIndex.Toml.Basic

/-!
# The words of TOML text

TOML text is read as characters. Each reader takes the characters that are left and answers with
what it read and the characters after it, or with nothing if the text is not what it reads.

A line ends with a line feed, before which a carriage return may stand. Control characters other
than the tab stand nowhere.
-/

namespace RollingIndex

/-- The outcome of reading: the value and the characters after it. -/
abbrev Scan (α : Type) := Option (α × List Char)

namespace TomlText

/-! ## Blanks, comments and ends of lines -/

/-- Space and tab. -/
def isBlank (c : Char) : Bool := c == ' ' || c == '\t'

/-- The characters after leading blanks. -/
def skipBlank (text : List Char) : List Char := text.dropWhile isBlank

/-- Whether a character may stand in a comment: any but a control character, and the tab. -/
def isPrintable (c : Char) : Bool := c == '\t' || (0x20 ≤ c.toNat && c.toNat != 0x7F)

/-- The characters after an end of line. -/
def lineFeed? : List Char → Option (List Char)
  | '\n' :: rest => some rest
  | '\r' :: '\n' :: rest => some rest
  | _ => none

/-- The characters after a comment, if there is one. -/
def skipComment : List Char → List Char
  | '#' :: rest => rest.dropWhile isPrintable
  | text => text

/-- The characters after what may stand behind a value or a header on its line. -/
def endLine? (text : List Char) : Option (List Char) :=
  match skipComment (skipBlank text) with
  | [] => some []
  | text => lineFeed? text

/-- The characters after blanks, comments and ends of lines, as they may stand within an array. -/
def skipLines (fuel : Nat) (text : List Char) : Option (List Char) :=
  match fuel with
  | 0 => none
  | fuel + 1 =>
    match skipBlank text with
    | '#' :: rest =>
      match lineFeed? (rest.dropWhile isPrintable) with
      | some rest => skipLines fuel rest
      | none => none
    | '\n' :: rest => skipLines fuel rest
    | '\r' :: rest =>
      match lineFeed? ('\r' :: rest) with
      | some rest => skipLines fuel rest
      | none => none
    | text => some text

/-- The characters after blanks and ends of lines. -/
def skipBlankLines : List Char → List Char
  | '\n' :: rest => skipBlankLines rest
  | '\r' :: '\n' :: rest => skipBlankLines rest
  | c :: rest => if isBlank c then skipBlankLines rest else c :: rest
  | [] => []

/-! ## Texts -/

/-- The value of hexadecimal digits, if all of them are. -/
def hexValue? (digits : List Char) : Option Nat :=
  digits.foldlM (fun n c => (Json.hexValue? c.toUInt8).bind fun d =>
    if c.toNat < 0x80 then some (n * 16 + d) else none) 0

/-- The character with a number of so many hexadecimal digits. -/
def numbered (digits : Nat) (text : List Char) : Scan Char :=
  if text.length < digits then none
  else
    match hexValue? (text.take digits) with
    | none => none
    | some n => if n.isValidChar then some (Char.ofNat n, text.drop digits) else none

/-- The character that an escape stands for, given what follows the backslash. -/
def escape : List Char → Scan Char
  | 'b' :: rest => some ('\x08', rest)
  | 't' :: rest => some ('\t', rest)
  | 'n' :: rest => some ('\n', rest)
  | 'f' :: rest => some ('\x0c', rest)
  | 'r' :: rest => some ('\r', rest)
  | '"' :: rest => some ('"', rest)
  | '\\' :: rest => some ('\\', rest)
  | 'u' :: rest => numbered 4 rest
  | 'U' :: rest => numbered 8 rest
  | _ => none

/-- The content of a text on one line whose opening quote has been read; characters read so far come
last first. -/
def quotedLine (fuel : Nat) (read : List Char) (text : List Char) : Scan String :=
  match fuel, text with
  | 0, _ | _, [] => none
  | fuel + 1, c :: rest =>
    if c = '"' then some (String.ofList read.reverse, rest)
    else if c = '\\' then
      match escape rest with
      | some (e, rest) => quotedLine fuel (e :: read) rest
      | none => none
    else if isPrintable c then quotedLine fuel (c :: read) rest
    else none

/-- The content of a literal text on one line whose opening quote has been read. -/
def literalLine (text : List Char) : Scan String :=
  let isLiteral (c : Char) : Bool := isPrintable c && c != '\''
  match text.dropWhile isLiteral with
  | '\'' :: rest => some (String.ofList (text.takeWhile isLiteral), rest)
  | _ => none

/-- What a run of quotes means within a text of several lines: how many of them belong to the text,
and whether they end it. -/
def closing (quotes : Nat) : Nat × Bool :=
  if quotes < 3 then (quotes, false) else (min (quotes - 3) 2, true)

/-- The content of a text of several lines whose opening quotes have been read. A text that is not
`literal` has escapes, and a backslash at the end of a line joins the lines. -/
def severalLines (literal : Bool) (fuel : Nat) (read : List Char) (text : List Char) :
    Scan String :=
  let quote := if literal then '\'' else '"'
  match fuel, text with
  | 0, _ | _, [] => none
  | fuel + 1, c :: rest =>
    if c = quote then
      let quotes := ((c :: rest).takeWhile (· == quote)).length
      let (kept, ends) := closing quotes
      let read := List.replicate kept quote ++ read
      if ends then some (String.ofList read.reverse, (c :: rest).drop (kept + 3))
      else severalLines literal fuel read ((c :: rest).drop quotes)
    else if c = '\\' ∧ !literal then
      match lineFeed? (skipBlank rest) with
      | some rest => severalLines literal fuel read (skipBlankLines rest)
      | none =>
        match escape rest with
        | some (e, rest) => severalLines literal fuel (e :: read) rest
        | none => none
    else
      match lineFeed? (c :: rest) with
      | some rest => severalLines literal fuel ('\n' :: read) rest
      | none => if isPrintable c then severalLines literal fuel (c :: read) rest else none

/-- The characters after the end of line that may stand behind opening quotes. -/
def skipFirstLineFeed (text : List Char) : List Char := (lineFeed? text).getD text

/-- A text in any of the four forms. -/
def anyText : List Char → Scan String
  | '"' :: '"' :: '"' :: rest => severalLines false (rest.length + 1) [] (skipFirstLineFeed rest)
  | '\'' :: '\'' :: '\'' :: rest => severalLines true (rest.length + 1) [] (skipFirstLineFeed rest)
  | '"' :: rest => quotedLine (rest.length + 1) [] rest
  | '\'' :: rest => literalLine rest
  | _ => none

/-! ## Keys -/

/-- Whether a character may stand in a key without quotes. -/
def isBare (c : Char) : Bool := c.isAlphanum || c == '-' || c == '_'

/-- One part of a key: bare, or a text on one line. -/
def keyPart : List Char → Scan String
  | '"' :: rest => quotedLine (rest.length + 1) [] rest
  | '\'' :: rest => literalLine rest
  | text =>
    match text.takeWhile isBare with
    | [] => none
    | bare => some (String.ofList bare, text.dropWhile isBare)

/-- The parts of a key with dots between them; those read so far come last first. Blanks may stand
around each part. -/
def keyParts (fuel : Nat) (read : List String) (text : List Char) : Scan (List String) :=
  match fuel with
  | 0 => none
  | fuel + 1 =>
    match keyPart (skipBlank text) with
    | none => none
    | some (part, rest) =>
      match skipBlank rest with
      | '.' :: rest => keyParts fuel (part :: read) rest
      | rest => some ((part :: read).reverse, rest)

/-- A key: the parts in front of the last dot, and the last part. -/
def key (text : List Char) : Scan (List String × String) :=
  match keyParts (text.length + 1) [] text with
  | none => none
  | some (parts, rest) =>
    match parts.getLast? with
    | some last =>
      if parts.length < Toml.nestingLimit then some ((parts.dropLast, last), rest) else none
    | none => none

end TomlText

end RollingIndex
