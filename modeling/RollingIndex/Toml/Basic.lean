import RollingIndex.Table

/-!
# TOML documents

A document is a table of values and further tables. While a document is read, each table remembers
how it came to be, for that decides what may still be added to it:

* a table with a header of its own takes keys under that header only;
* a table that is named in front of a dot in a header may still get a header of its own;
* a table that is named in front of a dot in a key takes more such keys, but no header;
* a table written between braces is finished.

No key can be given twice.
-/

namespace RollingIndex

/-- How a table came to be. -/
inductive TableOrigin where
  /-- by a header of its own, or as the root -/
  | header
  /-- as a parent of a table with a header -/
  | parent
  /-- by a dotted key -/
  | dotted
  /-- between braces -/
  | braces
deriving DecidableEq, Repr

/-- A value or table of a document. Of a number with a fraction and of a time nothing is kept but
that it is one. -/
inductive Toml where
  /-- a text -/
  | text (s : String)
  /-- an integer of 64 bits with a sign -/
  | integer (n : Int)
  /-- a number with a fraction or an exponent, an infinity, or no number -/
  | float
  /-- a truth value -/
  | boolean (b : Bool)
  /-- a date, a time, or both -/
  | dateTime
  /-- an array -/
  | array (items : List Toml)
  /-- a table, its keys in the order in which they came -/
  | table (origin : TableOrigin) (entries : List (String × Toml))
  /-- tables that share a header between double brackets, in order -/
  | tables (elements : List (List (String × Toml)))
deriving Inhabited

namespace Toml

/-- The content of a table. -/
abbrev Entries := List (String × Toml)

/-- Put another value in the place of the one under a key. -/
def replace (key : String) (value : Toml) (entries : Entries) : Entries :=
  entries.map fun entry => if entry.1 = key then (key, value) else entry

/-- Change the table that a path leads to. Tables that are missing on the way are made; `dotted`
says whether the path belongs to a key rather than to a header. The last of several tables with one
header stands for them. -/
def within (dotted : Bool) (change : TableOrigin → Entries → Option Entries) :
    List String → TableOrigin → Entries → Option Entries
  | [], origin, entries => change origin entries
  | key :: path, _, entries =>
    match Table.lookup key entries with
    | none =>
      let origin := if dotted then .dotted else .parent
      (within dotted change path origin []).map fun inner => entries ++ [(key, .table origin inner)]
    | some (.table origin inner) =>
      if origin = .braces ∨ (dotted ∧ origin = .header) then none
      else
        (within dotted change path origin inner).map fun inner =>
          replace key (.table origin inner) entries
    | some (.tables elements) =>
      match elements.getLast? with
      | none => none
      | some inner =>
        (within dotted change path .header inner).map fun inner =>
          replace key (.tables (elements.dropLast ++ [inner])) entries
    | some _ => none

/-- Add a value under a key to a table, which dotted keys reach only if they made it. -/
def addValue (isDotted : Bool) (key : String) (value : Toml) (origin : TableOrigin)
    (entries : Entries) : Option Entries :=
  if isDotted ≠ decide (origin = .dotted) then none
  else if (Table.lookup key entries).isSome then none
  else some (entries ++ [(key, value)])

/-- Add a value under a key that may have dots. -/
def addKeyValue (path : List String) (key : String) (value : Toml) (origin : TableOrigin)
    (entries : Entries) : Option Entries :=
  within true (addValue (!path.isEmpty) key value) path origin entries

/-- Begin a table under its header. -/
def beginTable (key : String) (_ : TableOrigin) (entries : Entries) : Option Entries :=
  match Table.lookup key entries with
  | none => some (entries ++ [(key, .table .header [])])
  | some (.table .parent inner) => some (replace key (.table .header inner) entries)
  | some _ => none

/-- Begin one more of the tables that share a header between double brackets. -/
def beginElement (key : String) (_ : TableOrigin) (entries : Entries) : Option Entries :=
  match Table.lookup key entries with
  | none => some (entries ++ [(key, .tables [[]])])
  | some (.tables elements) => some (replace key (.tables (elements ++ [[]])) entries)
  | some _ => none

/-- The nesting of arrays and braces, and the number of parts of a key, stay below this number. -/
def nestingLimit : Nat := 80

end Toml

end RollingIndex
