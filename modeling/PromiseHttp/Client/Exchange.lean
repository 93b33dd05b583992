import PromiseHttp.Fault.Failure
import PromiseHttp.Http.Response
import PromiseHttp.Stream.Duplex
import PromiseHttp.Stream.ReadBuffer

namespace PromiseHttp

/-!
# Exchanges

An exchange reads the response to a request that has been written on a connection of its own.  It
reads the head, decides from the head how the body is delimited, and reads the body: as many octets
as a length announces, or everything up to the close of the connection.  A bound on what is held is
looked at while the head is incomplete, when a length is announced, and after every read of a body
without a length.

The length is announced by the server, and its sum with the length of the head may exceed every
count.  The exchange crashes over such a sum: it ends without an outcome.
-/

/-- How far an exchange has come. -/
inductive ExchangePhase where
  /-- The head is not complete. -/
  | head
  /-- The body begins at the offset and has the length. -/
  | sized (head : Response) (offset length : Nat)
  /-- The body begins at the offset and ends with the connection. -/
  | unsized (head : Response) (offset : Nat)
  | settled (outcome : Outcome Response)
  | crashed

/-- An exchange in the middle of its work. -/
structure Exchange where
  /-- The most octets of head and body together. -/
  limit : Nat
  buffer : ReadBuffer
  phase : ExchangePhase

namespace Exchange

/-! ## Framing -/

/-- Whether the first `Transfer-Encoding` mentions chunks. -/
def mentionsChunks (headers : Headers) : Bool :=
  match headers.get? "transfer-encoding" with
  | some encoding => Text.occursIn "chunked".toList (Text.fold encoding)
  | none => false

/-- The failure of a response that is not acceptable. -/
def refusal (reason : String) : ExchangePhase := .settled (.error (.protocol reason))

/-- How the body behind a head is delimited, if it is. -/
def framing (limit : Nat) (head : Response) (offset : Nat) : ExchangePhase :=
  if mentionsChunks head.headers then refusal "chunked responses are not supported"
  else match head.headers.get? "content-length" with
    | none => .unsized head offset
    | some announced =>
      match Text.readNumeral Text.countBound (Text.trim announced) with
      | none => refusal ("invalid Content-Length: " ++ Text.quote announced)
      | some length =>
        if Text.countBound ≤ offset + length then .crashed
        else if limit < offset + length then
          refusal ("response body of " ++ Text.numeral length ++ " bytes is too large")
        else .sized head offset length

/-! ## Steps -/

/-- The response with the part of the held octets that is its body. -/
def deliver (head : Response) (held : Octets) (offset length : Nat) : ExchangePhase :=
  .settled (.ok (head.withBody ((held.drop offset).take length)))

/-- Settles an exchange whose announced body is complete. -/
def completed (exchange : Exchange) : Exchange :=
  match exchange.phase with
  | .sized head offset length =>
    if exchange.buffer.held.length < offset + length then exchange
    else { exchange with phase := deliver head exchange.buffer.held offset length }
  | _ => exchange

/-- Looks for a complete head in the held octets. -/
def sought (exchange : Exchange) : Exchange :=
  match Response.parse exchange.buffer.held with
  | .ok (head, offset) =>
    completed { exchange with phase := framing exchange.limit head offset }
  | .error .incomplete =>
    if exchange.limit < exchange.buffer.held.length then
      { exchange with phase := refusal "response head too large" }
    else exchange
  | .error fault => { exchange with phase := refusal fault.message }

/-- An exchange that has not read yet.  Nothing is no head. -/
def start (limit : Nat) : Exchange := sought ⟨limit, .empty, .head⟩

/-- What an exchange makes of a close. -/
def onEnd (exchange : Exchange) : Exchange :=
  match exchange.phase with
  | .head =>
    { exchange with
      phase := .settled (.error (.io (.closedEarly "before the response head"))) }
  | .sized _ _ _ =>
    { exchange with phase := .settled (.error (.io (.closedEarly "mid-body"))) }
  | .unsized head offset =>
    { exchange with
      phase := deliver head exchange.buffer.held offset
        (exchange.buffer.held.length - offset) }
  | .settled _ => exchange
  | .crashed => exchange

/-- What an exchange makes of octets that have arrived. -/
def onOctets (exchange : Exchange) (piece : Octets) : Exchange :=
  let exchange := { exchange with buffer := exchange.buffer.append piece }
  match exchange.phase with
  | .head => exchange.sought
  | .sized _ _ _ => exchange.completed
  | .unsized _ _ =>
    if exchange.limit < exchange.buffer.held.length then
      { exchange with phase := refusal "response too large" }
    else exchange
  | .settled _ => exchange
  | .crashed => exchange

/-- Whether the exchange reads no more. -/
def isOver (exchange : Exchange) : Bool :=
  match exchange.phase with
  | .settled _ => true
  | .crashed => true
  | _ => false

/-- What an exchange makes of a read. -/
def onRead (exchange : Exchange) (result : ReadResult) : Exchange :=
  match result with
  | .octets piece => exchange.onOctets piece
  | .ended => exchange.onEnd
  | .failed fault =>
    if exchange.isOver then exchange
    else { exchange with phase := .settled (.error (.io fault)) }

/-! ## Runs -/

/-- Reads until the exchange is over or has to wait, at most as often as the fuel allows. -/
def runFor : Nat → Exchange → Inbound → Exchange
  | 0, exchange, _ => exchange
  | fuel + 1, exchange, inbound =>
    if exchange.isOver then exchange
    else match inbound.read? exchange.buffer.room with
      | none => exchange
      | some (result, inbound) => runFor fuel (exchange.onRead result) inbound

/-- Reads a response until the exchange is over or has to wait. -/
def run (limit : Nat) (inbound : Inbound) : Exchange :=
  runFor inbound.readBound (start limit) inbound

/-- What the promise of the response has settled with, if it has.  Nobody is left to settle the
promise of a crashed exchange. -/
def outcome? (exchange : Exchange) : Option (Outcome Response) :=
  match exchange.phase with
  | .settled outcome => some outcome
  | .crashed => some (.error .abandoned)
  | _ => none

end Exchange

end PromiseHttp
