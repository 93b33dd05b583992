import PromiseHttp.Fault.Failure
import PromiseHttp.Http.Response
import PromiseHttp.Reply.MediaType

namespace PromiseHttp

/-!
# Response writers

A handler is given a writer for the one response to its request.  It may add fields, and it ends
with exactly one action: it sends a message, serves a file, reports a failure, or lets the writer
go.  Each of these settles the reply that the connection waits for.  A writer that is let go
answers for a handler that forgot to; once a reply has been given, letting go adds nothing to it.
-/

/-- What is to be put on the wire for a request. -/
inductive Reply where
  | message (response : Response)
  /-- The head comes from the response and the body from the file at the path. -/
  | file (response : Response) (path : String)
  deriving DecidableEq, Repr

/-- How a handler ends with its writer. -/
inductive WriterEnding where
  | send (status : Status) (text : String)
  | sendResponse (response : Response)
  | serveFile (path : String)
  | fail (reason : String)
  /-- The writer is let go, by a return or by a panic. -/
  | letGo
  deriving DecidableEq, Repr

/-- Whether the handler is given a promise of the transfer. -/
def WriterEnding.promises : WriterEnding → Bool
  | .send _ _ => true
  | .sendResponse _ => true
  | .serveFile _ => true
  | .fail _ => false
  | .letGo => false

/-- A writer for the response to one request. -/
structure ResponseWriter where
  /-- Whether the connection is kept after the response. -/
  keepAlive : Bool
  /-- The fields that are added to the response. -/
  headers : Headers
  /-- Whether the reply is still owed. -/
  owes : Bool
  deriving DecidableEq, Repr

namespace ResponseWriter

/-- A writer for a request on a connection that is kept or closed after it. -/
def new (keepAlive : Bool) : ResponseWriter := ⟨keepAlive, .empty, true⟩

/-- Adds a field to whichever response is sent. -/
def header (writer : ResponseWriter) (name value : String) : ResponseWriter :=
  { writer with headers := writer.headers.insert name value }

/-- Adds several fields, one after another. -/
def addAll (writer : ResponseWriter) (fields : List Field) : ResponseWriter :=
  fields.foldl (fun writer field => writer.header field.1 field.2) writer

@[simp]
theorem owes_new (keepAlive : Bool) : (new keepAlive).owes = true := rfl

@[simp]
theorem owes_addAll (writer : ResponseWriter) (fields : List Field) :
    (writer.addAll fields).owes = writer.owes := by
  unfold addAll
  induction fields generalizing writer with
  | nil => rfl
  | cons field rest ih => exact ih (writer.header field.1 field.2)

/-- The response as the writer sends it: with the writer's fields behind its own, and on a
connection that is kept or closed as the writer was told. -/
def finish (writer : ResponseWriter) (response : Response) : Response :=
  { response with
    headers := response.headers.append writer.headers
    keepAlive := writer.keepAlive }

/-- The writer with a content type for the file at a path, unless it brings one. -/
def typedFor (writer : ResponseWriter) (path : String) : ResponseWriter :=
  if writer.headers.contains "content-type" then writer
  else writer.header "Content-Type" (MediaType.ofPath path)

/-- What is said for a handler that gave no reply. -/
def silence : Failure := .handler "handler returned without sending a response"

/-- What a writer that still owes its reply settles it with. -/
def reply (writer : ResponseWriter) : WriterEnding → Outcome Reply
  | .send status text =>
    .ok (.message (writer.finish ((Response.new status).withText text)))
  | .sendResponse response => .ok (.message (writer.finish response))
  | .serveFile path =>
    .ok (.file ((writer.typedFor path).finish (Response.new .ok)) path)
  | .fail reason => .error (.handler reason)
  | .letGo => .error silence

/-- Settles the reply, if it is owed. -/
def settle (writer : ResponseWriter) (outcome : Outcome Reply) :
    ResponseWriter × List (Outcome Reply) :=
  if writer.owes then ({ writer with owes := false }, [outcome]) else (writer, [])

/-- Lets the writer go: it answers for a handler that gave no reply. -/
def letGo (writer : ResponseWriter) : List (Outcome Reply) :=
  (writer.settle (.error silence)).2

/-- All settlements of the reply when a handler ends with its writer.  Every action lets the
writer go when it is done. -/
def settlements (writer : ResponseWriter) (ending : WriterEnding) : List (Outcome Reply) :=
  match ending with
  | .letGo => writer.letGo
  | ending =>
    let (writer, settled) := writer.settle (writer.reply ending)
    settled ++ writer.letGo

/-- However a handler ends with a writer that owes its reply, the reply is settled once. -/
theorem settlements_eq {writer : ResponseWriter} (owed : writer.owes = true)
    (ending : WriterEnding) : writer.settlements ending = [writer.reply ending] := by
  cases ending <;> simp [settlements, settle, letGo, owed, reply]

end ResponseWriter

end PromiseHttp
