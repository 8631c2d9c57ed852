import RollingIndex.Deployment.Retention
import RollingIndex.Report.Size

/-!
# Reports

A report is a view of a deployment for people: the nodes, the totals, the alias and the recent
index, and the rotated indices from the oldest to the newest. Its text is a box of 52 columns. A
value wider than its column pushes the right border out; nothing is cut off.
-/

namespace RollingIndex

/-- A view of a deployment for people. -/
structure Report where
  /-- number of nodes -/
  nodeCount : Nat
  /-- the alias that writers use -/
  writeAlias : String
  /-- the index that the alias leads to, if there is one -/
  target : Option String
  /-- the name of the recent index -/
  recentIndex : String
  /-- number of documents of the recent index, if it exists -/
  recentDocs : Option Nat
  /-- number of documents of all indices -/
  totalMessages : Nat
  /-- size of all indices -/
  totalBytes : Nat
  /-- size of all indices in whole units of `1024 * 1024` bytes -/
  totalMegabytes : Nat
  /-- the rotated indices -/
  indices : List IndexStats
deriving DecidableEq, Repr

namespace Report

/-- The report of a deployment. -/
def collect (naming : Naming) (store : Store) : Except Failure Report := do
  let target ← store.currentTarget naming.writeAlias
  let indices ← naming.rotatedIndices store
  let nodeCount ← store.nodeCount
  let recent ← naming.recentStats store
  let totalMessages ← naming.totalMessages store
  let totalBytes ← naming.totalBytes store
  let totalMegabytes ← naming.totalMegabytes store
  return {
    nodeCount, writeAlias := naming.writeAlias, target := target.index?
    recentIndex := naming.recentIndex
    recentDocs := recent.map (·.primaryDocs), totalMessages, totalBytes, totalMegabytes
    indices := byAge indices.values }

/-! ## Text -/

/-- A text with blanks in front, up to a number of characters. -/
def padLeft (width : Nat) (text : String) : String :=
  String.ofList (List.replicate (width - text.length) ' ') ++ text

/-- A text with blanks behind, up to a number of characters. -/
def padRight (width : Nat) (text : String) : String :=
  text ++ String.ofList (List.replicate (width - text.length) ' ')

/-- A horizontal rule between two corners. -/
def rule (left fill right : Char) : String :=
  String.ofList (left :: List.replicate 50 fill ++ [right])

/-- A line with a label of 16 characters and a value. -/
def labelled (label value : String) : String :=
  "║ " ++ label ++ padLeft 32 value ++ " ║"

/-- The line of one rotated index, marked if the alias leads to it. -/
def indexLine (report : Report) (index : IndexStats) : String :=
  let marker := if report.target = some index.name then "*" else " "
  "║ " ++ marker ++ " " ++ padRight 20 index.name ++ " " ++
    padLeft 10 (toString index.primaryDocs) ++ " docs " ++
    padLeft 10 (humanSize index.sizeBytes) ++ " ║"

/-- The lines above those of the rotated indices. -/
def headLines (report : Report) : List String := [
  rule '╔' '═' '╗',
  "║           idx-deflector Cluster Report           ║",
  rule '╠' '═' '╣',
  labelled "nodes:          " (toString report.nodeCount),
  labelled "messages:       " (toString report.totalMessages),
  labelled "store size:     " (humanSize report.totalBytes),
  rule '╠' '─' '╣',
  labelled "deflector:      " report.writeAlias,
  labelled "  target:       " (report.target.getD "<unbound>"),
  labelled "recent index:   " report.recentIndex,
  labelled "  docs:         " ((report.recentDocs.map toString).getD "<missing>"),
  rule '╠' '─' '╣',
  "║ indices (" ++ padLeft 3 (toString report.indices.length) ++
    "):                                   ║"]

/-- The lines of the text. -/
def lines (report : Report) : List String :=
  report.headLines ++ report.indices.map report.indexLine ++ [rule '╚' '═' '╝']

/-- The text of a report; every line ends with a line feed. -/
def text (report : Report) : String := String.join (report.lines.map (· ++ "\n"))

end Report

end RollingIndex
