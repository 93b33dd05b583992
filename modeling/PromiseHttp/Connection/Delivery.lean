import PromiseHttp.Connection.StoredFile
import PromiseHttp.Reply.Writer

namespace PromiseHttp

/-!
# Deliveries

Once a handler has replied, the reply is put on the wire.  A message goes out in one write, and the
promise of its transfer settles with the number of octets or with the fault of the write.  A file is
opened first; if that fails, the promise is rejected and then the peer is told that there is nothing.
Otherwise the head announces the length of the file and the content follows.  A file that ends
before the announced length leaves the peer waiting for the rest, so the connection ends with it.
A failed handler is reported to the peer, and no promise is left to settle.
-/

/-- What delivering a reply has come to. -/
structure Delivery where
  outbound : Outbound
  /-- What the promise of the transfer is settled with, if there is one. -/
  settled : Option (Outcome Nat)
  /-- The failure that ends the connection, if there is one. -/
  result : Except Failure Unit

namespace Delivery

/-- The response to a request for a file that cannot be opened. -/
def notFound (keepAlive : Bool) : Response :=
  ((Response.new .notFound).withText "Not Found").keeping keepAlive

/-- The response to a request whose handler failed. -/
def handlerFailed (failure : Failure) (keepAlive : Bool) : Response :=
  ((Response.new .internalServerError).withText
    ("Internal Server Error: " ++ failure.message)).keeping keepAlive

/-- The failure of a file that ended too early. -/
def shrank (path : String) (sent announced : Nat) : Failure :=
  .protocol (path ++ " shrank while streaming: sent " ++ Text.numeral sent ++ " of " ++
    Text.numeral announced ++ " bytes")

/-- Writes a response of the connection's own, with a settled promise of another transfer or
none. -/
def notice (outbound : Outbound) (response : Response) (settled : Option (Outcome Nat)) :
    Delivery :=
  match outbound.write response.wire with
  | .ok outbound => ⟨outbound, settled, .ok ()⟩
  | .error fault => ⟨outbound.tear response.wire, settled, .error (.io fault)⟩

/-- A delivery that fails and takes its promise with it. -/
def failed (outbound : Outbound) (failure : Failure) : Delivery :=
  ⟨outbound, some (.error failure), .error failure⟩

/-- Writes a message. -/
def message (outbound : Outbound) (response : Response) : Delivery :=
  match outbound.write response.wire with
  | .ok outbound => ⟨outbound, some (.ok response.wire.length), .ok ()⟩
  | .error fault => failed (outbound.tear response.wire) (.io fault)

/-- Writes the head for an announced length and copies a file behind it. -/
def content (outbound : Outbound) (response : Response) (path : String) (announced : Nat)
    (file : StoredFile) : Delivery :=
  match outbound.write (response.headWire announced) with
  | .error fault => failed (outbound.tear (response.headWire announced)) (.io fault)
  | .ok outbound =>
    match StoredFile.copy outbound 0 announced file.reads with
    | (outbound, .error fault) => failed outbound (.io fault)
    | (outbound, .ok sent) =>
      if sent < announced then failed outbound (shrank path sent announced)
      else ⟨outbound, some (.ok sent), .ok ()⟩

/-- Opens a file and writes it.  If it cannot be opened, the promise is rejected first, and where that
panics nothing is written. -/
def file (files : Files) (keepAlive settlingPanics : Bool) (outbound : Outbound)
    (response : Response) (path : String) : Delivery :=
  match files path with
  | .error fault =>
    if settlingPanics then ⟨outbound, some (.error (.io fault)), .ok ()⟩
    else notice outbound (notFound keepAlive) (some (.error (.io fault)))
  | .ok file =>
    match file.length with
    | .error fault => failed outbound (.io fault)
    | .ok announced => content outbound response path announced file

/-- Delivers a reply on a connection that is kept or closed after it. -/
def deliver (files : Files) (keepAlive settlingPanics : Bool) (outbound : Outbound) :
    Outcome Reply → Delivery
  | .ok (.message response) => message outbound response
  | .ok (.file response path) => file files keepAlive settlingPanics outbound response path
  | .error failure => notice outbound (handlerFailed failure keepAlive) none

end Delivery

end PromiseHttp
