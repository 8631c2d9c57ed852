import RollingIndex.Table

/-!
# The table of aliases

An alias is a name bound to a set of indices. A table of aliases is changed by lists of actions: all
of them are applied in order, and only then are aliases dropped that are bound to nothing. So
binding and unbinding in one request never shows a state in between.
-/

namespace RollingIndex

/-- One change of a table of aliases. -/
inductive AliasAction where
  /-- bind the alias to the index as well -/
  | add (index aliasName : String)
  /-- unbind the alias from the index, if it is bound to it -/
  | remove (index aliasName : String)
deriving DecidableEq, Repr

/-- The index that an action binds to, if it binds. -/
def AliasAction.added? : AliasAction → Option String
  | .add index _ => some index
  | .remove _ _ => none

/-- For each alias the indices it is bound to. -/
abbrev AliasTable := Table NameSet

namespace AliasTable

/-- The indices that an alias is bound to, ascending. -/
def targets (aliases : AliasTable) (aliasName : String) : List String :=
  match aliases.get? aliasName with
  | some bound => bound.keys
  | none => []

/-- Whether an alias is bound to an index. -/
def binds (aliases : AliasTable) (aliasName index : String) : Bool :=
  (aliases.targets aliasName).contains index

/-- Drop the aliases that are bound to nothing. -/
def prune (aliases : AliasTable) : AliasTable := aliases.filter fun _ bound => !bound.isEmpty

/-- One action, before aliases without an index are dropped. -/
def act (aliases : AliasTable) : AliasAction → AliasTable
  | .add index aliasName => aliases.insert aliasName (((aliases.get? aliasName).getD ∅).add index)
  | .remove index aliasName => aliases.modify aliasName (·.erase index)

/-- A list of actions as one change. -/
def apply (aliases : AliasTable) (actions : List AliasAction) : AliasTable :=
  prune (actions.foldl act aliases)

/-- Unbind every alias from an index. -/
def withoutIndex (aliases : AliasTable) (index : String) : AliasTable :=
  prune (aliases.map fun _ bound => bound.erase index)

end AliasTable

end RollingIndex
