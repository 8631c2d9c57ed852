import RollingIndex.Decimal.Basic

/-!
# Names of a deployment

Every name that a deployment uses follows from two settings, the stem of its rotated indices and the
name of its recent index:

* the rotated indices are `<stem>_<n>` with `n` counting up from zero;
* the alias that writers use is `<stem>_deflector`;
* the recent index has its own name and takes no part in rotation.

`Naming.indexName` writes a number into a name and `Naming.indexNumber?` reads it back; the reader
also takes leading zeros and one leading `+`. A number is a word of 64 bits: a greater one is not
read, and after the greatest one the count begins again at zero.
-/

namespace RollingIndex

/-- The two settings that all names follow from. -/
structure Naming where
  /-- what the names of the rotated indices begin with -/
  stem : String
  /-- the name of the recent index -/
  recentIndex : String
deriving DecidableEq, Repr

/-! ## Numbers in names -/

/-- The number of a list of decimal digits, if there is one at least and nothing else. -/
def readDigits? (digits : List Char) : Option Nat :=
  if digits ≠ [] ∧ digits.all Char.isDigit then
    some (digits.foldl (fun n d => n * 10 + (d.toNat - '0'.toNat)) 0)
  else none

/-- A number of at most 64 bits in decimal digits, which a `+` may precede. -/
def readNumber? (text : List Char) : Option Nat :=
  let digits := match text with
    | '+' :: rest => rest
    | text => text
  (readDigits? digits).filter (fitsBits 64)

namespace Naming

/-- The alias that writers use. -/
def writeAlias (naming : Naming) : String := naming.stem ++ "_deflector"

/-- The pattern of all indices of the deployment. -/
def allPattern (naming : Naming) : String := naming.stem ++ "_*"

/-- The pattern of all indices of the deployment but its recent index. -/
def rotatedPattern (naming : Naming) : String := naming.allPattern ++ ",-" ++ naming.recentIndex

/-- The name of the rotated index with a number. -/
def indexName (naming : Naming) (n : Nat) : String :=
  naming.stem ++ "_" ++ String.ofList (Nat.toDigits 10 n)

/-- The number of a rotated index, if the name is the name of one. -/
def indexNumber? (naming : Naming) (name : String) : Option Nat :=
  match naming.stem.toList.isPrefixOf? name.toList with
  | some ('_' :: rest) => readNumber? rest
  | _ => none

/-- Whether a name is the name of a rotated index. -/
def isRotated (naming : Naming) (name : String) : Bool :=
  name != naming.recentIndex && (naming.indexNumber? name).isSome

/-- The number that comes after the greatest number in a list of names, zero if no name has one.
After the greatest number of 64 bits comes zero. -/
def nextNumber (naming : Naming) (names : List String) : Nat :=
  match (names.filterMap naming.indexNumber?).max? with
  | some greatest => (greatest + 1) % powerOfTwo 64
  | none => 0

/-- The name of the next rotated index. -/
def nextName (naming : Naming) (names : List String) : String :=
  naming.indexName (naming.nextNumber names)

end Naming

end RollingIndex
