import PromiseHttp.Workers.Pool

namespace PromiseHttp

open Promise (FailurePolicy)

/-!
# Handlers for rehearsals

A server is tried with one of the library's own handlers or with a table of routes.  The first route
whose path is asked for acts, and a request for any other path is echoed.  Between them the routes
do everything that a handler can do to its writer, and one of them waits for a gate.
-/

/-- What a route does. -/
inductive RouteAction where
  | send (status : Status) (text : String)
  | respond (response : Response)
  | file (name : String)
  /-- Serves a file and follows its transfer. -/
  | followedFile (name : String) (policy : FailurePolicy)
  | fail (reason : String)
  | letGo
  | panic
  /-- Panics after it has sent a response. -/
  | panicAfter (status : Status) (text : String)
  /-- Sends from another thread. -/
  | later (status : Status) (text : String)
  /-- Answers with the name of the thread. -/
  | worker
  /-- Answers with the fields of the request. -/
  | headers
  /-- Sends once the gate is open. -/
  | gate (status : Status) (text : String)
  /-- Sends the request back, as every path without a route does. -/
  | sendBack

/-- An entry of a table. -/
structure Route where
  path : String
  /-- The fields that are added to the response. -/
  fields : List Field
  action : RouteAction

/-- The path under which a file is found by its name. -/
def filePath (name : String) : String := "/files/" ++ name

/-- The name of the thread of a worker. -/
def workerName (worker : WorkerId) : String := "pledge-worker-" ++ Text.numeral worker

/-- The fields of a request, the host left out. -/
def fieldList (request : Request) : String :=
  String.join ((request.headers.remove "host").toList.map fun field =>
    field.1 ++ "=" ++ field.2 ++ ";")

/-- One line about a request. -/
def summary (request : Request) : String :=
  let query := match request.query with
    | some query => "Some(" ++ Text.quote query ++ ")"
    | none => "None"
  request.method.name ++ " " ++ request.resource ++ " path=" ++ request.path ++ " query=" ++
    query ++ " v=" ++ Text.numeral request.version.minor ++ " ka=" ++
    (if request.isKeepAlive then "true" else "false") ++ " len=" ++
    Text.numeral request.body.length ++ "\n"

/-- The response that repeats a request. -/
def echo (request : Request) : Response :=
  (Response.new .ok).withBody (Octets.encode (summary request) ++ request.body)

namespace RouteAction

/-- How the route ends with its writer. -/
def ending (action : RouteAction) (on : WorkerId) (request : Request) : WriterEnding :=
  match action with
  | send status text => .send status text
  | respond response => .sendResponse response
  | file name => .serveFile (filePath name)
  | followedFile name _ => .serveFile (filePath name)
  | fail reason => .fail reason
  | letGo => .letGo
  | panic => .letGo
  | panicAfter status text => .send status text
  | later status text => .send status text
  | worker => .send .ok (workerName on)
  | headers => .send .ok (fieldList request)
  | gate status text => .send status text
  | sendBack => .sendResponse (echo request)

/-- Whether the route panics. -/
def panics : RouteAction → Bool
  | panic => true
  | panicAfter _ _ => true
  | _ => false

/-- Whether the route leaves its writer to another thread. -/
def isElsewhere : RouteAction → Bool
  | later _ _ => true
  | _ => false

/-- Whether the promise that the writer returned is kept. -/
def keepsPromise : RouteAction → Bool
  | later _ _ => false
  | gate _ _ => false
  | fail _ => false
  | letGo => false
  | panic => false
  | _ => true

/-- What becomes of the promise that is kept. -/
def kept (action : RouteAction) (transfer : Outcome Nat) : Option (Outcome Nat) :=
  match action with
  | followedFile name policy => (followTransfer (filePath name) policy transfer).1
  | _ => some transfer

end RouteAction

/-- A handler that a server is tried with. -/
inductive TrialHandler where
  | stock (handler : StockHandler)
  | routes (table : List Route)

namespace TrialHandler

/-- The route that acts on a request, if one does. -/
def route? (table : List Route) (request : Request) : Option Route :=
  table.find? fun route => route.path = request.path

/-- What the handler does on a worker with a request. -/
def call (handler : TrialHandler) (worker : WorkerId) (request : Request) : HandlerCall :=
  match handler with
  | stock handler => handler.call request
  | routes table =>
    match route? table request with
    | none => .ofEnding (.sendResponse (echo request))
    | some route =>
      { fields := route.fields
        ending := route.action.ending worker request
        panics := route.action.panics
        elsewhere := route.action.isElsewhere
        settlingPanics := false
        delay := 0 }

/-- Whether the handler waits for the gate. -/
def waits (handler : TrialHandler) (request : Request) : Bool :=
  match handler with
  | stock _ => false
  | routes table =>
    match route? table request with
    | some ⟨_, _, .gate _ _⟩ => true
    | _ => false

/-- What becomes of the promise of a transfer, if the handler keeps it; a transfer that has not
come to its end leaves it pending. -/
def kept? (handler : TrialHandler) (request : Request) (transfer : Option (Outcome Nat)) :
    Option (Option (Outcome Nat)) :=
  match handler with
  | stock _ => none
  | routes table =>
    match route? table request with
    | none => some transfer
    | some route =>
      if route.action.keepsPromise then some (transfer.bind route.action.kept) else none

end TrialHandler

end PromiseHttp
