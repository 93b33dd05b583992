import PromiseHttp.Http.Head
import PromiseHttp.Http.Headers
import PromiseHttp.Http.Method
import PromiseHttp.Text.Quoted

namespace PromiseHttp

/-!
# Requests

A request is read from the octets of a connection by `Request.parse` and written for a host by
`Request.wire`.  Reading takes everything behind the head for the body, because where the body
ends is said by `bodyLength` and may lie beyond the octets that have arrived.
-/

/-- Why a request is refused or not there yet. -/
inductive RequestFault where
  | incomplete
  | malformed (fault : HeadFault)
  | missingField (name : String)
  | invalidContentLength (value : String)
  deriving DecidableEq, Repr

/-- The fault in words. -/
def RequestFault.message : RequestFault → String
  | incomplete => "request is incomplete — more data needed"
  | malformed fault => "HTTP parse error: " ++ fault.message
  | missingField name => "missing required field: " ++ name
  | invalidContentLength value => "invalid Content-Length: " ++ Text.quote value

/-- The words of the fault that lies beneath this one. -/
def RequestFault.cause? : RequestFault → Option String
  | malformed fault => some fault.message
  | _ => none

/-- A request. -/
structure Request where
  method : Method
  path : String
  query : Option String
  version : Head.Version
  headers : Headers
  body : Octets
  deriving DecidableEq, Repr

/-- Whether a message with these fields asks for the connection to be kept: the first `Connection`
field decides, and the version where there is none. -/
def keepsAlive (headers : Headers) (version : Head.Version) : Bool :=
  match headers.get? "connection" with
  | some option => Text.sameLetters option "keep-alive"
  | none => version = .http11

namespace Request

/-- Splits a target at its first question mark. -/
def splitTarget (target : String) : String × Option String :=
  let chars := target.toList
  let path := String.ofList (chars.takeWhile (· != '?'))
  match chars.dropWhile (· != '?') with
  | [] => (path, none)
  | _ :: query => (path, some (String.ofList query))

/-- A target with a slash in front. -/
def rooted (target : String) : String :=
  match target.toList with
  | '/' :: _ => target
  | _ => "/" ++ target

/-- A request for a target, without fields and body. -/
def new (method : Method) (target : String) : Request :=
  let parts := splitTarget (rooted target)
  ⟨method, parts.1, parts.2, .http11, .empty, []⟩

/-- The request with one more field. -/
def header (request : Request) (name value : String) : Request :=
  { request with headers := request.headers.insert name value }

/-- The request with the body. -/
def withBody (request : Request) (body : Octets) : Request :=
  { request with body := body }

/-- The path and, behind a question mark, the query. -/
def resource (request : Request) : String :=
  match request.query with
  | some query => request.path ++ "?" ++ query
  | none => request.path

/-- The request with its body cut to a length. -/
def truncateBody (request : Request) (length : Nat) : Request :=
  { request with body := request.body.take length }

/-- Whether the connection goes on behind this request. -/
def isKeepAlive (request : Request) : Bool :=
  keepsAlive request.headers request.version

/-! ## Reading -/

/-- The request of a head, with the given body. -/
def ofHead (head : Head.RequestHead) (body : Octets) : Request :=
  let parts := splitTarget head.target
  ⟨.ofName head.method, parts.1, parts.2, head.version, .ofOctets head.fields, body⟩

/-- Reads the request at the front of the octets and the place where its body begins.  The body
is everything from there on. -/
def parse (octets : Octets) : Except RequestFault (Request × Nat) :=
  match Head.readRequest octets with
  | .found head rest => .ok (ofHead head rest, octets.length - rest.length)
  | .needMore => .error .incomplete
  | .refused fault => .error (.malformed fault)

/-- The length that a list of `Content-Length` values announces, given what the values before
them announced.  The first value that is unreadable or differs from those before it is the
fault. -/
def agreedLength (before : Option Nat) : List String → Except RequestFault (Option Nat)
  | [] => .ok before
  | value :: rest =>
    match Text.readNumeral Text.countBound (Text.trim value) with
    | none => .error (.invalidContentLength value)
    | some length =>
      match before with
      | none => agreedLength (some length) rest
      | some earlier =>
        if earlier = length then agreedLength (some length) rest
        else .error (.invalidContentLength value)

/-- The number of octets of body that the request announces; without an announcement, none. -/
def bodyLength (request : Request) : Except RequestFault Nat :=
  match agreedLength none (request.headers.getAll "content-length") with
  | .ok announced => .ok (announced.getD 0)
  | .error fault => .error fault

/-! ## Writing -/

/-- The line that names the method, the resource and the version. -/
def startLine (request : Request) : String :=
  request.method.name ++ " " ++ request.resource ++ " HTTP/1." ++
    Text.numeral request.version.minor ++ "\r\n"

/-- The head for a host.  `Host` comes first and `Content-Length` last, each only when the request
does not bring its own. -/
def headText (request : Request) (host : String) : String :=
  request.startLine ++
    (if request.headers.contains "host" then "" else "Host: " ++ host ++ "\r\n") ++
    request.headers.lines ++
    (if request.headers.contains "content-length" then ""
      else "Content-Length: " ++ Text.numeral request.body.length ++ "\r\n") ++
    "\r\n"

/-- The request on the wire. -/
def wire (request : Request) (host : String) : Octets :=
  Octets.encode (request.headText host) ++ request.body

end Request

end PromiseHttp
