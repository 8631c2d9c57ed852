import RollingIndex.Admin.Body
import RollingIndex.Admin.Document
import RollingIndex.Admin.MediaType
import RollingIndex.Admin.Route
import RollingIndex.Admin.Target

/-!
# The admin interface

A request is answered in a fixed order of checks: the path (404), the method (405), the encoding of
a name in the path (400), the media type of a body that is read (415), its length (413) and its
content (400 or 422). Only then is the deployment asked to do something; a failure of it has a
status of its own, and its wording in the answer.
-/

namespace RollingIndex

/-- A request to the admin interface. -/
structure Request where
  /-- the method, as it is written -/
  method : String
  /-- the path of the target, as it is written -/
  path : List Char
  /-- the media type of the body, if one is given -/
  mediaType : Option String
  /-- the body -/
  body : List UInt8

/-- An answer of the admin interface. -/
structure Response where
  /-- the status code -/
  status : Nat
  /-- the body, if it is JSON -/
  body : Option Json := none

namespace Response

/-- An answer that all is well. -/
def ok (body : Json) : Response := { status := 200, body := some body }

/-- The status code of a failure. -/
def statusOf : Failure → Nat
  | .indexNotFound _ | .nodeNotFound _ => 404
  | .indexAlreadyExists _ | .noCurrentTarget _ => 409
  | .storeUnavailable _ => 503
  | .ambiguousAlias _ _ | .notAcknowledged _ _ | .invalidStoreType _ _ => 500

/-- The answer to a request that a deployment failed to carry out. -/
def ofFailure (e : Failure) : Response :=
  { status := statusOf e, body := some (.ofFields [("error", .text e.message)]) }

/-- The answer to a body that cannot be read. -/
def ofReadError : ReadError → Response
  | .malformed => { status := 400 }
  | .mismatched => { status := 422 }

end Response

namespace Request

/-- Whether a text may be a method: a token. -/
def isMethod (method : String) : Bool :=
  !method.isEmpty && method.toList.all MediaType.isToken

/-- Whether a text may be the value of a header: there is no control character but the tab. -/
def isHeaderValue (value : String) : Bool :=
  value.toList.all fun c => c == '\t' || (0x20 ≤ c.toNat && c.toNat != 0x7F)

/-- The request with a method, a target, a media type and a body, if each of them is well formed. -/
def of? (method target : String) (mediaType : Option String) (body : List UInt8) :
    Option Request :=
  match Target.path? target with
  | none => none
  | some path =>
    if isMethod method && mediaType.all isHeaderValue then some { method, path, mediaType, body }
    else none

/-- The greatest length of a body that is read. -/
def greatestLength : Nat := 2097152

/-- The content of a body, or the answer to a body that is not accepted. -/
def content {α : Type} (request : Request) (read : List UInt8 → Except ReadError α) :
    Except Response α :=
  if (request.mediaType.map isJsonMediaType).getD false then
    if greatestLength < request.body.length then .error { status := 413 }
    else
      match read request.body with
      | .ok a => .ok a
      | .error e => .error (.ofReadError e)
  else .error { status := 415 }

end Request

namespace Deployment

/-- Carry out what a route asks for. -/
def serve (deployment : Deployment) (request : Request) : Route → Action Response
  | .messages =>
    match request.content Body.records with
    | .error response => return response
    | .ok records => do
      let success ← deployment.writeBatch records
      return .ok (.ofFields [("success", .bool success), ("count", .nat records.length)])
  | .cycle => do
    let target ← deployment.cycle
    return .ok (.ofFields [("target", .text target)])
  | .retention => do
    let report ← deployment.sweep
    return .ok report.toJson
  | .purge =>
    match request.content Body.bound with
    | .error response => return response
    | .ok upTo => do
      let deleted ← deployment.purge upTo
      return .ok (.ofFields [("deleted", .nat deleted)])
  | .indices => do
    let indices ← Action.ask deployment.naming.listIndices
    return .ok (.array (indices.values.map IndexStats.toJson))
  | .count name =>
    match Route.decodeName? name with
    | none => return { status := 400 }
    | some index => do
      let count ← Action.ask (deployment.naming.documentCount index)
      return .ok (.ofFields [("index", .text index), ("count", .nat count)])
  | .status => do
    let report ← Action.ask (Report.collect deployment.naming)
    return .ok report.toJson

/-- Answer a request. -/
def handle (deployment : Deployment) (request : Request) (desk : Desk) : Response × Desk :=
  match Route.ofPath? request.path with
  | none => ({ status := 404 }, desk)
  | some route =>
    if route.allows request.method then
      let (response, desk) := match Effect.on (deployment.serve request route) desk with
        | (.ok response, desk) => (response, desk)
        | (.error e, desk) => (.ofFailure e, desk)
      (if request.method == "HEAD" then { response with body := none } else response, desk)
    else ({ status := 405 }, desk)

end Deployment

end RollingIndex
