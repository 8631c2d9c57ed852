/-!
# Targets of requests

A request names what it asks for by a target. A target is

* a path, which begins with a slash, with a query behind `?` and a fragment behind `#`, if there are
  any;
* an address: a scheme, `://`, an authority and a path, which may be missing;
* an authority alone;
* or a star.

An answer depends on the path alone. The path of an address without one is a slash; an authority
alone has the empty path.
-/

namespace RollingIndex

namespace Target

/-- The greatest number of bytes of a target. -/
def greatestLength : Nat := 65534

/-- The greatest length of a scheme. -/
def greatestScheme : Nat := 64

/-! ## Paths -/

/-- Whether a character may stand in a path: any but a control character, the space, an angle
bracket and the grave accent. -/
def isPathChar (c : Char) : Bool := 0x20 < c.toNat && !(['<', '>', '\x60'].contains c)

/-- Whether a character may stand in a query: any but a control character, the space, the quote and
an angle bracket. -/
def isQueryChar (c : Char) : Bool := 0x20 < c.toNat && !(['"', '<', '>'].contains c)

/-- The path in front of a query and a fragment. What stands in the fragment does not matter. -/
def plainPath? (text : List Char) : Option (List Char) :=
  let inPath (c : Char) : Bool := c != '?' && c != '#'
  let query := match text.dropWhile inPath with
    | '?' :: rest => rest.takeWhile (· != '#')
    | _ => []
  if (text.takeWhile inPath).all isPathChar && query.all isQueryChar then
    some (text.takeWhile inPath)
  else none

/-! ## Authorities -/

/-- Whether a character may stand in an authority and means nothing there. -/
def isHostChar (c : Char) : Bool :=
  c.isAlphanum ||
    ['!', '$', '&', '\'', '(', ')', '*', '+', ',', '-', '.', ';', '=', '_', '~'].contains c

/-- What has been read of an authority. -/
structure Authority where
  /-- the number of colons in the part being read -/
  colons : Nat := 0
  /-- whether a bracket has been opened -/
  opened : Bool := false
  /-- whether a bracket has been closed -/
  closed : Bool := false
  /-- whether there is a percent sign in the part being read -/
  percent : Bool := false
  /-- whether an at sign was read last -/
  atSign : Bool := false

namespace Authority

/-- The authority with one more character. An at sign ends the name of a user, and a closing bracket
an address in brackets; both begin a new part. -/
def add? (authority : Authority) (c : Char) : Option Authority :=
  let authority := { authority with atSign := false }
  if c = ':' then
    if authority.colons < 8 then some { authority with colons := authority.colons + 1 } else none
  else if c = '[' then
    if authority.percent || authority.opened then none else some { authority with opened := true }
  else if c = ']' then
    if authority.opened && !authority.closed then
      some { authority with closed := true, colons := 0, percent := false }
    else none
  else if c = '@' then some { authority with colons := 0, percent := false, atSign := true }
  else if c = '%' then some { authority with percent := true }
  else if isHostChar c then some authority
  else none

/-- Whether an authority may end here: behind a host, with one colon at most for its port. -/
def isComplete (authority : Authority) : Bool :=
  authority.opened == authority.closed && authority.colons ≤ 1 && !authority.percent &&
    !authority.atSign

end Authority

/-- Whether a text is an authority. -/
def isAuthority (text : List Char) : Bool :=
  !text.isEmpty && ((text.foldlM Authority.add? {}).map Authority.isComplete).getD false

/-! ## Addresses -/

/-- Whether a character may stand in a scheme. -/
def isSchemeChar (c : Char) : Bool := c.isAlphanum || ['+', '-', '.', '~'].contains c

/-- The path of an address, given what stands behind its scheme. -/
def pathBehindScheme? (text : List Char) : Option (List Char) :=
  let inAuthority (c : Char) : Bool := !(['/', '?', '#'].contains c)
  if isAuthority (text.takeWhile inAuthority) then
    (plainPath? (text.dropWhile inAuthority)).map fun path => if path.isEmpty then ['/'] else path
  else none

/-- The path of a target, if the text is one. -/
def path? (target : String) : Option (List Char) :=
  if greatestLength < target.utf8ByteSize then none
  else
    match target.toList with
    | '/' :: rest => plainPath? ('/' :: rest)
    | ['*'] => some ['*']
    | text =>
      match text.dropWhile isSchemeChar with
      | ':' :: '/' :: '/' :: rest =>
        if greatestScheme < (text.takeWhile isSchemeChar).length then none
        else pathBehindScheme? rest
      | _ => if isAuthority text then some [] else none

end Target

end RollingIndex
