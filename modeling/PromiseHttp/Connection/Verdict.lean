import PromiseHttp.Http.Request
import PromiseHttp.Http.Response

namespace PromiseHttp

/-!
# Verdicts

After every read a connection judges what it holds: whether it has to wait for more, whether it
holds a complete request, or whether the peer has to be refused.  A request is complete when its
head and as many octets of body as it announces are held.  It is refused when more octets are held
than the bound allows, when the head is malformed, and when the announced length is unreadable,
because nobody can tell then where the next request begins.

The announced length is chosen by the peer, and its sum with the length of the head may exceed every
count; the connection cannot survive such a sum.
-/

/-- What is made of the octets that a connection holds. -/
inductive Verdict where
  /-- More octets are needed. -/
  | wait
  /-- A final response is due. -/
  | refuse (response : Response)
  /-- The request and the number of octets that it takes up. -/
  | accept (request : Request) (size : Nat)
  /-- The end of the request lies beyond every count. -/
  | overflow
  deriving DecidableEq

namespace Verdict

/-- The response to more octets than the bound allows. -/
def tooLarge : Response :=
  ((Response.new .payloadTooLarge).withText "Request entity too large").keeping false

/-- The response to a request that cannot be read. -/
def badRequest (fault : RequestFault) : Response :=
  ((Response.new .badRequest).withText ("Bad Request: " ++ fault.message)).keeping false

/-- Judges a request whose head is complete, by the length of its body. -/
def ofRequest (held : Nat) (request : Request) (offset : Nat) : Verdict :=
  match request.bodyLength with
  | .error fault => refuse (badRequest fault)
  | .ok length =>
    if Text.countBound ≤ offset + length then overflow
    else if held < offset + length then wait
    else accept (request.truncateBody length) (offset + length)

/-- Judges the held octets of a connection that may hold as many as the limit. -/
def judge (limit : Nat) (held : Octets) : Verdict :=
  if limit < held.length then refuse tooLarge
  else match Request.parse held with
    | .ok (request, offset) => ofRequest held.length request offset
    | .error .incomplete => wait
    | .error fault => refuse (badRequest fault)

end Verdict

end PromiseHttp
