import PromiseHttp.Connection.Delivery
import PromiseHttp.Connection.Verdict
import PromiseHttp.Reply.Handler
import PromiseHttp.Stream.ReadBuffer

namespace PromiseHttp

/-!
# Connections

A connection serves one request after another.  It reads, judges what it holds, calls the handler
for a complete request, delivers the reply, and reads again.  Every read is followed by at most one
response: what is held behind a request is looked at after the next read.  Before the handler is
called the connection looks whether the server is stopping, and ends silently if it is.

The phases are the places at which others may act in between.  The look at the server and the call
of the handler are two steps, and so are the return of the handler and the delivery of the reply,
because the writer may be used by another thread.  A handler that sleeps is woken by the passing of
time, which is no step of the connection.
-/

/-- Who is at the other side of a connection. -/
abbrev PeerId := Nat

/-- How a connection ends. -/
inductive ConnectionEnd where
  /-- The peer has closed. -/
  | peerClosed
  /-- A request was refused. -/
  | refused
  /-- The request asked for the close that followed its response. -/
  | lastResponse
  /-- The server was stopping when a request was complete. -/
  | stopped
  | failed (failure : Failure)
  /-- The connection's own work panicked. -/
  | crashed
  /-- The worker stopped and let the connection go. -/
  | dropped
  deriving DecidableEq

/-- What a connection is doing. -/
inductive ConnectionPhase where
  | reading
  /-- A request is complete and the server was not stopping. -/
  | cleared (request : Request)
  /-- The handler is running, and sleeps so much longer, in milliseconds. -/
  | calling (request : Request) (call : HandlerCall) (asleep : Nat)
  /-- The handler has come back, and its reply is delivered next. -/
  | replying (request : Request) (call : HandlerCall)
  | ended (ending : ConnectionEnd)
  deriving DecidableEq

/-- A connection, with a record of what it has done. -/
structure Connection where
  peer : PeerId
  /-- The most octets that may be held. -/
  limit : Nat
  inbound : Inbound
  buffer : ReadBuffer
  outbound : Outbound
  phase : ConnectionPhase
  /-- The requests that the handler was called with, in order, and what it did. -/
  handled : List (Request × HandlerCall)
  /-- For every reply that was delivered, what the promise of its transfer was settled with. -/
  completions : List (Option (Outcome Nat))

namespace Connection

/-- A connection on which nothing has happened. -/
def new (peer : PeerId) (limit : Nat) : Connection :=
  ⟨peer, limit, .empty, .empty, .empty, .reading, [], []⟩

/-- The connection after its end. -/
def finish (connection : Connection) (ending : ConnectionEnd) : Connection :=
  { connection with phase := .ended ending }

/-- How the connection has ended, if it has. -/
def ending? (connection : Connection) : Option ConnectionEnd :=
  match connection.phase with
  | .ended ending => some ending
  | _ => none

/-- Whether the connection keeps its worker from doing anything else: between the look at the
server and the return of the handler. -/
def isBusy (connection : Connection) : Bool :=
  match connection.phase with
  | .cleared _ => true
  | .calling _ _ _ => true
  | _ => false

/-! ## Steps -/

/-- Writes a final response and ends. -/
def refuse (connection : Connection) (response : Response) : Connection :=
  match connection.outbound.write response.wire with
  | .ok outbound => finish { connection with outbound := outbound } .refused
  | .error fault =>
    finish { connection with outbound := connection.outbound.tear response.wire }
      (.failed (.io fault))

/-- Acts on what is held after a read. -/
def consider (connection : Connection) (stopping : Bool) : Connection :=
  match Verdict.judge connection.limit connection.buffer.held with
  | .wait => connection
  | .refuse response => connection.refuse response
  | .overflow => connection.finish .crashed
  | .accept request size =>
    let connection := { connection with buffer := connection.buffer.consume size }
    if stopping then connection.finish .stopped
    else { connection with phase := .cleared request }

/-- What a reading connection makes of a read. -/
def onRead (connection : Connection) (stopping : Bool) : ReadResult → Connection
  | .octets piece =>
    consider { connection with buffer := connection.buffer.append piece } stopping
  | .ended => connection.finish .peerClosed
  | .failed fault => connection.finish (.failed (.io fault))

/-- Calls the handler, which does what the call says. -/
def callHandler (connection : Connection) (request : Request) (call : HandlerCall) : Connection :=
  { connection with
    phase := .calling request call call.delay
    handled := connection.handled ++ [(request, call)] }

/-- Delivers the reply to a request. -/
def reply (connection : Connection) (files : Files) (request : Request) (call : HandlerCall) :
    Connection :=
  let keepAlive := request.isKeepAlive
  let delivery := Delivery.deliver files keepAlive call.settlingPanics connection.outbound
    (call.reply keepAlive)
  let connection := { connection with
    outbound := delivery.outbound
    completions := connection.completions ++ [delivery.settled] }
  if delivery.settled.isSome && call.settlingPanics then connection.finish .crashed
  else match delivery.result with
    | .error failure => connection.finish (.failed failure)
    | .ok () =>
      if keepAlive then { connection with phase := .reading }
      else connection.finish .lastResponse

/-- What a connection depends on. -/
structure Surroundings where
  /-- What the handler does with a request. -/
  handler : Request → HandlerCall
  files : Files
  /-- Whether the server is stopping. -/
  stopping : Bool
  /-- Whether the handler's call for a request comes back. -/
  returns : Request → Bool

/-- One step; none if the connection has ended or has to wait. -/
def advance? (surroundings : Surroundings) (connection : Connection) : Option Connection :=
  match connection.phase with
  | .reading =>
    match connection.inbound.read? connection.buffer.room with
    | none => none
    | some (result, inbound) =>
      some (onRead { connection with inbound := inbound } surroundings.stopping result)
  | .cleared request => some (connection.callHandler request (surroundings.handler request))
  | .calling request call asleep =>
    if asleep = 0 && surroundings.returns request then
      some { connection with phase := .replying request call }
    else none
  | .replying request call => some (connection.reply surroundings.files request call)
  | .ended _ => none

/-! ## Time -/

/-- How much longer the handler of the connection sleeps, if it does. -/
def sleep? (connection : Connection) : Option Nat :=
  match connection.phase with
  | .calling _ _ asleep => if asleep = 0 then none else some asleep
  | _ => none

/-- The connection after some time, in milliseconds, in which it made no step. -/
def elapse (time : Nat) (connection : Connection) : Connection :=
  match connection.phase with
  | .calling request call asleep =>
    { connection with phase := .calling request call (asleep - time) }
  | _ => connection

/-- A bound on the steps that the octets on their way can cause.  A read causes at most three steps
behind it. -/
def stepBound (connection : Connection) : Nat :=
  4 * connection.inbound.readBound + 4

end Connection

end PromiseHttp
