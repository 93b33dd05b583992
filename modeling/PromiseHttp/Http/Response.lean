import PromiseHttp.Http.Request
import PromiseHttp.Http.Status

namespace PromiseHttp

/-!
# Responses

A response is written by `Response.wire`, which decides the framing: whatever `Connection` and
`Content-Length` fields the response carries, exactly one of each is written, and they say what
is true.  `Response.parse` reads a head and leaves the body to the caller, who knows how far it
reaches.
-/

/-- Why a response is refused or not there yet. -/
inductive ResponseFault where
  | incomplete
  | malformed (fault : HeadFault)
  | missingStatus
  deriving DecidableEq, Repr

/-- The fault in words. -/
def ResponseFault.message : ResponseFault → String
  | incomplete => "response is incomplete — more data needed"
  | malformed fault => "HTTP parse error: " ++ fault.message
  | missingStatus => "missing status code"

/-- The words of the fault that lies beneath this one. -/
def ResponseFault.cause? : ResponseFault → Option String
  | malformed fault => some fault.message
  | _ => none

/-- A response. -/
structure Response where
  status : Status
  headers : Headers
  body : Octets
  keepAlive : Bool
  deriving DecidableEq, Repr

namespace Response

/-- A response without fields and body, on a connection that is kept. -/
def new (status : Status) : Response := ⟨status, .empty, [], true⟩

/-- The response with one more field. -/
def header (response : Response) (name value : String) : Response :=
  { response with headers := response.headers.insert name value }

/-- The response with the body. -/
def withBody (response : Response) (body : Octets) : Response :=
  { response with body := body }

/-- The response with a body of text. -/
def withText (response : Response) (text : String) : Response :=
  response.withBody (Octets.encode text)

/-- The response on a connection that is kept or closed. -/
def keeping (response : Response) (keepAlive : Bool) : Response :=
  { response with keepAlive := keepAlive }

/-- The body as text; what is not text in it is shown as replacement characters. -/
def text (response : Response) : String :=
  Octets.decodeLossy response.body

/-! ## Reading -/

/-- The response of a head, without a body. -/
def ofHead (head : Head.ResponseHead) : Response :=
  let headers := Headers.ofOctets head.fields
  ⟨.ofCode head.code, headers, [], keepsAlive headers head.version⟩

/-- Reads the response head at the front of the octets and the place where the body begins. -/
def parse (octets : Octets) : Except ResponseFault (Response × Nat) :=
  match Head.readResponse octets with
  | .found head rest => .ok (ofHead head, octets.length - rest.length)
  | .needMore => .error .incomplete
  | .refused fault => .error (.malformed fault)

/-! ## Writing -/

/-- The value of the `Connection` field. -/
def connectionOption (response : Response) : String :=
  if response.keepAlive then "keep-alive" else "close"

/-- The fields that are written in front of the `Content-Length`. -/
def writtenHeaders (response : Response) : Headers :=
  (response.headers.set "Connection" response.connectionOption).remove "content-length"

/-- The status line; an unnamed status leaves the reason empty and keeps the space before it. -/
def statusLine (response : Response) : String :=
  "HTTP/1.1 " ++ Text.numeral response.status.code ++ " " ++ response.status.reason ++ "\r\n"

/-- The head announcing a body of the given length. -/
def headText (response : Response) (length : Nat) : String :=
  response.statusLine ++ response.writtenHeaders.lines ++
    "Content-Length: " ++ Text.numeral length ++ "\r\n\r\n"

/-- The head on the wire, for a body that is sent separately. -/
def headWire (response : Response) (length : Nat) : Octets :=
  Octets.encode (response.headText length)

/-- The response with a content type, which is plain text unless it says otherwise or has no
body. -/
def typed (response : Response) : Response :=
  if response.body.isEmpty || response.headers.contains "content-type" then response
  else response.header "Content-Type" "text/plain; charset=utf-8"

/-- The response on the wire. -/
def wire (response : Response) : Octets :=
  response.typed.headWire response.body.length ++ response.body

end Response

end PromiseHttp
