import RollingIndex.Text.CodePoints
import RollingIndex.Pattern.Glob

/-!
# Index patterns

A pattern selects indices by name. It is a list of parts separated by commas; blanks around a part
and parts without content do not count. A part that begins with `-` excludes what the glob after the
`-` matches, the part `_all` includes every name, and any other part includes what it matches as a
glob. A name is selected if some part includes it and none excludes it, wherever the parts stand.
-/

namespace RollingIndex

/-- One part of a pattern. -/
inductive Clause where
  /-- selects the names that a glob matches -/
  | including (glob : Glob)
  /-- keeps out the names that a glob matches -/
  | excluding (glob : Glob)
deriving DecidableEq

/-- A pattern by its parts. -/
abbrev Pattern := List Clause

namespace Clause

/-- The part of the given text. -/
def ofText : List Char → Clause
  | '-' :: rest => .excluding (Glob.ofText rest)
  | text => .including (if text = ['_', 'a', 'l', 'l'] then [.anyRun] else Glob.ofText text)

/-- Whether the part selects the name. -/
def includes (name : List Char) : Clause → Bool
  | .including glob => glob.accepts name
  | .excluding _ => false

/-- Whether the part keeps the name out. -/
def excludes (name : List Char) : Clause → Bool
  | .including _ => false
  | .excluding glob => glob.accepts name

end Clause

namespace Pattern

/-- The parts of a pattern's text that have content, without the blanks around them. -/
def parts (text : String) : List (List Char) :=
  ((text.toList.splitOn ',').map Text.trim).filter fun part => !part.isEmpty

/-- The pattern of a text. -/
def ofText (text : String) : Pattern := (parts text).map Clause.ofText

/-- Whether the pattern selects a name. -/
def selects (pattern : Pattern) (name : String) : Bool :=
  pattern.any (·.includes name.toList) && !pattern.any (·.excludes name.toList)

end Pattern

end RollingIndex
