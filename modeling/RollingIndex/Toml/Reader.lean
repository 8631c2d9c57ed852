import RollingIndex.Toml.Scalar

/-!
# Reading TOML text

A document is read line by line: a header begins a table, and the keys below it go there. Values of
an array may stand on several lines; a table between braces stands on one line and has no comma
behind its last value.
-/

namespace RollingIndex

namespace TomlText

open Toml (Entries within addKeyValue beginTable beginElement nestingLimit)

mutual

/-- A value; `fuel` bounds what is still to be read, `room` the nesting. -/
def valueWith (fuel room : Nat) (text : List Char) : Scan Toml :=
  match fuel with
  | 0 => none
  | fuel + 1 =>
    match text with
    | '[' :: rest =>
      match room, skipLines (rest.length + 1) rest with
      | 0, _ | _, none => none
      | room + 1, some text =>
        match text with
        | ']' :: rest => some (.array [], rest)
        | text => itemsWith fuel room [] text
    | '\x7b' :: rest =>
      match room, skipBlank rest with
      | 0, _ => none
      | _ + 1, '\x7d' :: rest => some (.table .braces [], rest)
      | room + 1, text => pairsWith fuel room [] text
    | text => scalar text

/-- The items of an array up to its closing bracket; those read so far come last first. -/
def itemsWith (fuel room : Nat) (read : List Toml) (text : List Char) : Scan Toml :=
  match fuel with
  | 0 => none
  | fuel + 1 =>
    match valueWith fuel room text with
    | none => none
    | some (item, rest) =>
      match skipLines (rest.length + 1) rest with
      | some (']' :: rest) => some (.array (item :: read).reverse, rest)
      | some (',' :: rest) =>
        match skipLines (rest.length + 1) rest with
        | some (']' :: rest) => some (.array (item :: read).reverse, rest)
        | some text => itemsWith fuel room (item :: read) text
        | none => none
      | _ => none

/-- The keys and values of a table between braces up to its closing brace, added to those read so
far. -/
def pairsWith (fuel room : Nat) (entries : Entries) (text : List Char) : Scan Toml :=
  match fuel with
  | 0 => none
  | fuel + 1 =>
    match key text with
    | some ((path, last), '=' :: rest) =>
      match valueWith fuel room (skipBlank rest) with
      | none => none
      | some (value, rest) =>
        match addKeyValue path last value .header entries, skipBlank rest with
        | some entries, '\x7d' :: rest => some (.table .braces entries, rest)
        | some entries, ',' :: rest => pairsWith fuel room entries rest
        | _, _ => none
    | _ => none

end

/-- A value. -/
def value (text : List Char) : Scan Toml :=
  valueWith (2 * text.length + 2) (nestingLimit - 1) text

/-! ## Documents -/

/-- What has been read of a document. -/
structure Draft where
  /-- the path of the table that keys go to -/
  current : List String := []
  /-- the tables and values so far -/
  root : Entries := []

namespace Draft

/-- The draft with a value added to the current table. -/
def add (draft : Draft) (path : List String) (last : String) (value : Toml) : Option Draft :=
  (within false (addKeyValue path last value) draft.current .header draft.root).map fun root =>
    { draft with root }

/-- The draft with another table begun. -/
def begin (draft : Draft) (change : String → TableOrigin → Entries → Option Entries)
    (path : List String) (last : String) : Option Draft :=
  (within false (change last) path .header draft.root).map fun root =>
    { current := path ++ [last], root }

end Draft

/-- One header or key with its value, up to the end of its line. -/
def line (draft : Draft) (text : List Char) : Option (Draft × List Char) :=
  match text with
  | '[' :: '[' :: rest => do
    let ((path, last), rest) ← key rest
    let rest ← after? "]]" rest
    return (← draft.begin beginElement path last, ← endLine? rest)
  | '[' :: rest => do
    let ((path, last), rest) ← key rest
    let rest ← after? "]" rest
    return (← draft.begin beginTable path last, ← endLine? rest)
  | text => do
    let ((path, last), rest) ← key text
    let rest ← after? "=" rest
    let (value, rest) ← value (skipBlank rest)
    return (← draft.add path last value, ← endLine? rest)

/-- The lines of a document. -/
def lines (fuel : Nat) (draft : Draft) (text : List Char) : Option Draft :=
  match fuel with
  | 0 => none
  | fuel + 1 =>
    match skipBlank text with
    | [] => some draft
    | c :: rest =>
      if c = '#' ∨ c = '\n' ∨ c = '\r' then
        (endLine? (c :: rest)).bind fun rest => lines fuel draft rest
      else
        (line draft (c :: rest)).bind fun r => lines fuel r.1 r.2

/-- The content of a document. A byte order mark may stand in front. -/
def parse? (text : List Char) : Option Entries :=
  let text := match text with
    | '\uFEFF' :: rest => rest
    | text => text
  (lines (text.length + 1) {} text).map (·.root)

end TomlText

end RollingIndex
