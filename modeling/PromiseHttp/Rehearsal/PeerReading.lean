import PromiseHttp.Http.Response

namespace PromiseHttp

/-!
# What a peer reads

A peer that waits for responses cuts what it has received at their ends.  A response reaches as far
behind its head as its own first `Content-Length` announces, and not at all behind the head if no
readable length is announced.  Octets that do not open with a complete head hold no response,
whatever follows them.
-/

/-- The length of the complete response at the front of the octets. -/
def responseLength? (octets : Octets) : Option Nat :=
  match Response.parse octets with
  | .error _ => none
  | .ok (response, bodyStart) =>
    let total := bodyStart + response.headers.contentLength?.getD 0
    if total ≤ octets.length then some total else none

/-- At most a number of complete responses from the front of the octets. -/
def takeResponses : Nat → Octets → List Octets
  | 0, _ => []
  | count + 1, octets =>
    match responseLength? octets with
    | none => []
    | some length => octets.take length :: takeResponses count (octets.drop length)

end PromiseHttp
