/-!
# Media types of requests

A media type is a type, a slash and a subtype, made of token characters, with parameters behind
semicolons; case does not count. Behind the last `+` of a subtype stands its suffix. A request
carries JSON if its type is `application` and its subtype or the suffix of its subtype is `json`.
-/

namespace RollingIndex

namespace MediaType

/-- Whether a character may stand in a token. -/
def isToken (c : Char) : Bool :=
  c.isAlphanum ||
    ['!', '#', '$', '%', '&', '\'', '*', '+', '-', '.', '^', '_', '\x60', '|', '~'].contains c

/-- Whether a character may stand in a quoted value. -/
def isQuotable (c : Char) : Bool := 0x1F < c.toNat && c.toNat < 0x7F

/-- Up to the next semicolon there are blanks only; what stands behind it, if it is there. -/
def afterQuoted? (text : List Char) : Option (List Char) :=
  match text.dropWhile (· == ' ') with
  | [] => some []
  | c :: rest => if c == ';' then some rest else none

/-- The value of a parameter, and what stands behind the semicolon after it. A quoted value has at
least one character, which may be a quote. -/
def afterValue? : List Char → Option (List Char)
  | '"' :: first :: more =>
    let quoted := more.takeWhile (· != '"')
    match more.dropWhile (· != '"') with
    | _ :: rest => if isQuotable first && quoted.all isQuotable then afterQuoted? rest else none
    | [] => none
  | text =>
    match text.dropWhile isToken with
    | [] => some []
    | c :: rest => if c == ';' && !(text.takeWhile isToken).isEmpty then some rest else none

/-- Whether a text is a list of parameters. Blanks may stand in front of a name. -/
def areParameters (fuel : Nat) (text : List Char) : Bool :=
  match fuel, text.dropWhile (· == ' ') with
  | _, [] => true
  | 0, _ :: _ => false
  | fuel + 1, text =>
    let name := text.takeWhile isToken
    match text.dropWhile isToken with
    | '=' :: rest =>
      if name.isEmpty then false
      else
        match afterValue? rest with
        | some rest => areParameters fuel rest
        | none => false
    | _ => false

/-- The subtype without its suffix, and the suffix. A `+` in front does not begin a suffix. -/
def splitSuffix (subtype : List Char) : List Char × Option (List Char) :=
  match subtype with
  | [] => ([], none)
  | first :: more =>
    if more.contains '+' then
      let suffix := (more.reverse.takeWhile (· != '+')).reverse
      ((first :: more).take (more.length - suffix.length), some suffix)
    else (subtype, none)

end MediaType

/-- Whether a media type is one of JSON. -/
def isJsonMediaType (text : String) : Bool :=
  let text := text.toList.map Char.toLower
  let kind := text.takeWhile MediaType.isToken
  match text.dropWhile MediaType.isToken with
  | '/' :: rest =>
    let subtype := rest.takeWhile MediaType.isToken
    let wellFormed := match rest.dropWhile MediaType.isToken with
      | [] => true
      | c :: parameters =>
        c == ';' && !subtype.isEmpty && MediaType.areParameters parameters.length parameters
    let (name, suffix) := MediaType.splitSuffix subtype
    let json := ['j', 's', 'o', 'n']
    wellFormed && kind == "application".toList && (name == json || suffix == some json)
  | _ => false

end RollingIndex
