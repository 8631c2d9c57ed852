import RollingIndex.Json.Lexical

/-!
# Routes

The paths that the admin interface answers, each with the method it asks for. A path is compared as
it is written; only the name of an index is decoded, which may stand in it with bytes written as `%`
and two hexadecimal digits.
-/

namespace RollingIndex

/-- What a path asks for. -/
inductive Route where
  /-- write messages -/
  | messages
  /-- rotate -/
  | cycle
  /-- sweep old indices away -/
  | retention
  /-- delete messages up to a time -/
  | purge
  /-- list the indices -/
  | indices
  /-- count the documents of an index, whose name is still encoded -/
  | count (name : List Char)
  /-- report -/
  | status
deriving DecidableEq, Repr

namespace Route

/-- The route of the segments of a path. -/
def ofSegments? : List (List Char) → Option Route
  | [[], segment] =>
    match String.ofList segment with
    | "messages" => some .messages
    | "cycle" => some .cycle
    | "retention" => some .retention
    | "purge" => some .purge
    | "indices" => some .indices
    | "status" => some .status
    | _ => none
  | [[], first, name, last] =>
    if String.ofList first = "indices" ∧ String.ofList last = "count" then some (.count name)
    else none
  | _ => none

/-- The route of a path. -/
def ofPath? (path : List Char) : Option Route := ofSegments? (path.splitOn '/')

/-- Whether a route changes something; it is then asked for by `POST`, else by `GET`. -/
def changes : Route → Bool
  | messages | cycle | retention | purge => true
  | indices | count _ | status => false

/-- Whether the route may be asked for by a method. `HEAD` is `GET` without the body of the
answer. -/
def allows (route : Route) (method : String) : Bool :=
  if route.changes then method == "POST" else method == "GET" || method == "HEAD"

/-! ## Encoded names -/

/-- The bytes that encoded bytes stand for. A `%` without two digits behind it stands for itself. -/
def decodeBytes : List UInt8 → List UInt8
  | [] => []
  | [b] => [b]
  | [b, c] => [b, c]
  | b :: c :: d :: rest =>
    if b == Json.byte '%' then
      match Json.hexValue? c, Json.hexValue? d with
      | some high, some low => UInt8.ofNat (high * 16 + low) :: decodeBytes rest
      | _, _ => b :: decodeBytes (c :: d :: rest)
    else b :: decodeBytes (c :: d :: rest)

/-- The name that an encoded name stands for, if its bytes are text. -/
def decodeName? (name : List Char) : Option String :=
  String.fromUTF8? ⟨(decodeBytes (String.ofList name).toUTF8.toList).toArray⟩

end Route

end RollingIndex
