import PromiseHttp.Client.Exchange
import PromiseHttp.Client.Target
import PromiseHttp.Settings.Client

namespace PromiseHttp

/-!
# Clients

A client is bound to one server.  A draft describes a request and may be sent any number of times;
every send makes a connection of its own, asks for it to be closed behind the response, and comes
to exactly one outcome.  Nothing is sent by a client that has been shut down.
-/

/-- A description of a request. -/
structure RequestDraft where
  method : Method
  path : String
  headers : Headers
  body : Octets
  deriving DecidableEq, Repr

namespace RequestDraft

/-- A draft without fields and body.  The empty path stands for the root. -/
def new (method : Method) (path : String) : RequestDraft :=
  ⟨method, if path = "" then "/" else path, .empty, []⟩

/-- The draft with one more field. -/
def header (draft : RequestDraft) (name value : String) : RequestDraft :=
  { draft with headers := draft.headers.insert name value }

/-- The draft with a body. -/
def withBody (draft : RequestDraft) (body : Octets) : RequestDraft :=
  { draft with body := body }

/-- The request that is sent: the draft's own fields follow the one that asks for the close. -/
def request (draft : RequestDraft) : Request :=
  let start := ((Request.new draft.method draft.path).header "Connection" "close").withBody
    draft.body
  { start with headers := start.headers.append draft.headers }

/-- The octets that are sent to a server. -/
def wire (draft : RequestDraft) (target : String) : Octets :=
  draft.request.wire target

end RequestDraft

/-- A client bound to one server. -/
structure Client where
  /-- The host and port of the server. -/
  target : String
  settings : ClientSettings
  isShutDown : Bool
  deriving DecidableEq, Repr

/-- What sending a request has come to. -/
structure Sending where
  /-- What the server has received, if there was a connection. -/
  received : Option Octets
  /-- The outcome, unless it is still open. -/
  outcome : Option (Outcome Response)

namespace Client

/-- A client for a target.  The settings are looked at first. -/
def new (target : String) (settings : ClientSettings) : Except ClientFault Client :=
  match settings.validate with
  | .error fault => .error (.settings fault)
  | .ok () =>
    match Target.parse target with
    | .error fault => .error fault
    | .ok target => .ok ⟨target, settings, false⟩

/-- Shuts the client down.  Doing so again changes nothing. -/
def shutDown (client : Client) : Client := { client with isShutDown := true }

/-- Sends a draft over the connection that is made for it, whose other side answers. -/
def send (client : Client) (draft : RequestDraft) (connect : Except IoFault Outbound)
    (answer : Inbound) : Sending :=
  if client.isShutDown then ⟨none, some (.error .shutdown)⟩
  else match connect with
    | .error fault => ⟨none, some (.error (.io fault))⟩
    | .ok outbound =>
      match outbound.write (draft.wire client.target) with
      | .error fault =>
        ⟨some (outbound.tear (draft.wire client.target)).written, some (.error (.io fault))⟩
      | .ok outbound =>
        ⟨some outbound.written, (Exchange.run client.settings.maxResponseSize answer).outcome?⟩

end Client

end PromiseHttp
