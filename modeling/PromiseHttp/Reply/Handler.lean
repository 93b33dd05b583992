import PromiseHttp.Http.Request
import PromiseHttp.Promise.Value
import PromiseHttp.Reply.Writer

namespace PromiseHttp

open Promise (FailurePolicy LogEntry)

/-!
# Handlers

A handler is called with a request and a writer.  Nothing is asked of what it does in between, so
a call is described by what the connection can tell of it: the fields it adds, how it ends with its
writer, and whether it panics.  The handlers of the library answer with a greeting, at once or
after a delay, or serve one file and follow its transfer.
-/

/-- What a handler does when it is called with a request and a writer. -/
structure HandlerCall where
  /-- The fields that are added to the response. -/
  fields : List Field
  ending : WriterEnding
  /-- Whether the call panics, which it does after the writer was used or because of which the
  writer is let go. -/
  panics : Bool
  /-- Whether the writer is used by another thread, after the call has come back. -/
  elsewhere : Bool
  /-- Whether settling the promise of the transfer panics: a continuation of the handler does, or
  the handler has settled the promise itself. -/
  settlingPanics : Bool
  /-- How long the call sleeps before it does anything else, in milliseconds. -/
  delay : Nat
  deriving DecidableEq, Repr

namespace HandlerCall

/-- A call that ends with its writer and comes back. -/
def ofEnding (ending : WriterEnding) : HandlerCall := ⟨[], ending, false, false, false, 0⟩

/-- All settlements of the reply to a request on a connection that is kept or closed after it. -/
def settlements (call : HandlerCall) (keepAlive : Bool) : List (Outcome Reply) :=
  ((ResponseWriter.new keepAlive).addAll call.fields).settlements call.ending

/-- The reply that the connection gets: the first settlement. -/
def reply (call : HandlerCall) (keepAlive : Bool) : Outcome Reply :=
  (call.settlements keepAlive).headD (.error ResponseWriter.silence)

/-- A call settles its reply exactly once. -/
theorem settlements_eq_reply (call : HandlerCall) (keepAlive : Bool) :
    call.settlements keepAlive = [call.reply keepAlive] := by
  simp [reply, settlements, ResponseWriter.settlements_eq]

/-- The reply of a call is what a writer with the fields of the call settles its reply with. -/
theorem reply_eq (call : HandlerCall) (keepAlive : Bool) :
    call.reply keepAlive =
      ((ResponseWriter.new keepAlive).addAll call.fields).reply call.ending := by
  simp [reply, settlements, ResponseWriter.settlements_eq]

end HandlerCall

/-- The handlers of the library. -/
inductive StockHandler where
  /-- Greets after a delay, in milliseconds. -/
  | delayed (delay : Nat)
  /-- Greets, after a delay if one path is asked for. -/
  | slowPath (path : String) (delay : Nat)
  /-- Serves one file. -/
  | file (path : String) (policy : FailurePolicy)
  deriving DecidableEq, Repr

namespace StockHandler

/-- What the greeting handlers say. -/
def greeting : String := "Hello, World!"

/-- How long the handler sleeps before it answers a request, in milliseconds. -/
def delay (handler : StockHandler) (request : Request) : Nat :=
  match handler with
  | delayed delay => delay
  | slowPath path delay => if request.path = path then delay else 0
  | file _ _ => 0

/-- How the handler ends with its writer. -/
def ending : StockHandler → WriterEnding
  | delayed _ => .send .ok greeting
  | slowPath _ _ => .send .ok greeting
  | file path _ => .serveFile path

/-- What the handler does with a request. -/
def call (handler : StockHandler) (request : Request) : HandlerCall :=
  { HandlerCall.ofEnding handler.ending with delay := handler.delay request }

end StockHandler

/-! ## Following a transfer -/

/-- What becomes of the promise chained onto the transfer of a file, and what is logged: a finished
transfer is logged, and a failed one is treated as the policy says. -/
def followTransfer (path : String) (policy : FailurePolicy) (transfer : Outcome Nat) :
    Option (Outcome Nat) × List LogEntry :=
  match transfer, policy with
  | .ok count, _ =>
    (some (.ok count),
      [⟨.info, "file sent", [("bytes", Text.numeral count), ("path", path)]⟩])
  | .error failure, .propagate => (some (.error failure), [])
  | .error failure, .ignore =>
    (none, [⟨.warn, "ignoring rejected promise", [("error", failure.message)]⟩])

end PromiseHttp
