import PromiseHttp.Proofs.Connection.History
import PromiseHttp.Proofs.Http.LongerInput

namespace PromiseHttp

/-!
# The requests of a stream

What a peer sends on a connection is one stream of octets, and where its requests begin and end is a
matter of the stream alone.  The decoding reads a request at the front, if its head is complete, its
length is readable and its body is there, and goes on behind it until the requests end or one of
them asks for the close.

A connection sees the stream piece by piece, reads its buffer again after each piece and keeps what
is left over for the next request.  Whatever it hands to its handler is nevertheless a beginning of
the decoding of the stream: a connection may stop early, but it never takes the octets of one
request for those of another.
-/

/-- A request as it lies in a stream. -/
structure FramedRequest where
  /-- The request with exactly the body that it announces. -/
  request : Request
  headLength : Nat

namespace FramedRequest

/-- The number of octets that the request takes up. -/
def size (framed : FramedRequest) : Nat := framed.headLength + framed.request.body.length

/-- The request at the front of a stream, if all of it is there. -/
def first? (stream : Octets) : Option FramedRequest :=
  match Request.parse stream with
  | .error _ => none
  | .ok (request, offset) =>
    match request.bodyLength with
    | .error _ => none
    | .ok length =>
      if offset + length ≤ stream.length then some ⟨request.truncateBody length, offset⟩ else none

/-- A request at the front is one that was read, cut to the length that it announces. -/
theorem first?_eq_some {stream : Octets} {framed : FramedRequest} :
    first? stream = some framed ↔
      ∃ request offset length, Request.parse stream = .ok (request, offset) ∧
        request.bodyLength = .ok length ∧ offset + length ≤ stream.length ∧
        framed = ⟨request.truncateBody length, offset⟩ := by
  unfold first?
  constructor
  · intro found
    cases parsed : Request.parse stream with
    | error fault => simp only [parsed, reduceCtorEq] at found
    | ok pair =>
        rcases pair with ⟨request, offset⟩
        simp only [parsed] at found
        cases announced : request.bodyLength with
        | error fault => simp only [announced, reduceCtorEq] at found
        | ok length =>
            simp only [announced] at found
            by_cases there : offset + length ≤ stream.length
            · rw [if_pos there] at found
              cases found
              exact ⟨request, offset, length, rfl, announced, there, rfl⟩
            · rw [if_neg there] at found
              cases found
  · rintro ⟨request, offset, length, parsed, announced, there, same⟩
    simp only [parsed, announced, if_pos there, same]

/-- The size of a request at the front is the length of its head and the length it announces. -/
theorem size_eq {stream : Octets} {request : Request} {offset length : Nat}
    (parsed : Request.parse stream = .ok (request, offset))
    (there : offset + length ≤ stream.length) :
    size ⟨request.truncateBody length, offset⟩ = offset + length := by
  rcases Request.found_of_parse parsed with ⟨head, _, same, _, _⟩
  have body : request.body = stream.drop offset := by rw [same]; rfl
  simp only [size, Request.truncateBody, body, List.length_take, List.length_drop]
  omega

theorem size_of_first? {stream : Octets} {framed : FramedRequest}
    (found : first? stream = some framed) : 0 < framed.size ∧ framed.size ≤ stream.length := by
  rcases first?_eq_some.mp found with ⟨request, offset, length, parsed, _, there, rfl⟩
  rcases Request.found_of_parse parsed with ⟨_, _, _, positive, _⟩
  rw [size_eq parsed there]
  exact ⟨by omega, there⟩

/-- A request at the front stays there when more octets arrive. -/
theorem first?_append {stream : Octets} {framed : FramedRequest}
    (found : first? stream = some framed) (more : Octets) :
    first? (stream ++ more) = some framed := by
  rcases first?_eq_some.mp found with ⟨request, offset, length, parsed, announced, there, rfl⟩
  rcases Request.found_of_parse parsed with ⟨head, _, same, _, _⟩
  have body : request.body = stream.drop offset := by rw [same]; rfl
  refine first?_eq_some.mpr ⟨{ request with body := request.body ++ more }, offset, length,
    Request.parse_append parsed more, announced, ?_, ?_⟩
  · rw [List.length_append]
    omega
  · have long : length ≤ request.body.length := by
      rw [body, List.length_drop]
      omega
    simp only [Request.truncateBody, List.take_append_of_le_length long]

/-- The requests of a stream, one behind another, up to the first that is not complete or behind
which the connection is not kept. -/
def decode (stream : Octets) : List FramedRequest :=
  match _found : first? stream with
  | none => []
  | some framed =>
    if framed.request.isKeepAlive then framed :: decode (stream.drop framed.size) else [framed]
termination_by stream.length
decreasing_by
  rcases size_of_first? _found with ⟨positive, within⟩
  rw [List.length_drop]
  omega

/-- What is decoded behind a request. -/
def behind (request : Request) (more : Octets) : List FramedRequest :=
  if request.isKeepAlive then decode more else []

/-- Decoding takes the request at the front and goes on behind it. -/
theorem decode_of_first? {stream : Octets} {framed : FramedRequest}
    (found : first? stream = some framed) :
    decode stream = framed :: behind framed.request (stream.drop framed.size) := by
  rw [decode]
  split
  · rename_i nothing
    rw [nothing] at found
    cases found
  · rename_i other same
    rw [same] at found
    cases found
    unfold behind
    split <;> rfl

/-- What is decoded lies at the front of some rest of the stream. -/
theorem first?_of_mem_decode {stream : Octets} {framed : FramedRequest}
    (member : framed ∈ decode stream) :
    ∃ before behind, stream = before ++ behind ∧ first? behind = some framed := by
  induction size : stream.length using Nat.strongRecOn generalizing stream with
  | ind length inductionHypothesis =>
      cases found : first? stream with
      | none =>
          rw [decode] at member
          split at member
          · cases member
          · rename_i other same
            cases same.symm.trans found
      | some other =>
          rw [decode_of_first? found] at member
          rcases List.mem_cons.mp member with rfl | later
          · exact ⟨[], stream, rfl, found⟩
          · rcases size_of_first? found with ⟨positive, within⟩
            unfold FramedRequest.behind at later
            split at later
            · have shorter : (stream.drop other.size).length < length := by
                rw [List.length_drop]
                omega
              rcases inductionHypothesis _ shorter later rfl with ⟨before, behind, divided, found'⟩
              refine ⟨stream.take other.size ++ before, behind, ?_, found'⟩
              rw [List.append_assoc, ← divided, List.take_append_drop]
            · cases later

end FramedRequest

namespace Verdict

/-- A request is accepted if it lies at the front of what is held, and what is held is within the
limit. -/
theorem first?_of_accept {limit size : Nat} {held : Octets} {request : Request}
    (accepted : judge limit held = .accept request size) :
    held.length ≤ limit ∧
      ∃ framed, FramedRequest.first? held = some framed ∧ framed.request = request ∧
        framed.size = size := by
  unfold judge at accepted
  by_cases tooMuch : limit < held.length
  · rw [if_pos tooMuch] at accepted
    cases accepted
  · rw [if_neg tooMuch] at accepted
    refine ⟨Nat.le_of_not_lt tooMuch, ?_⟩
    cases parsed : Request.parse held with
    | error fault => cases fault <;> simp only [parsed, reduceCtorEq] at accepted
    | ok pair =>
        rcases pair with ⟨whole, offset⟩
        simp only [parsed, ofRequest] at accepted
        cases announced : whole.bodyLength with
        | error fault => simp only [announced, reduceCtorEq] at accepted
        | ok length =>
            simp only [announced] at accepted
            split at accepted
            · cases accepted
            · split at accepted
              · cases accepted
              · rename_i there
                cases accepted
                have within : offset + length ≤ held.length := Nat.le_of_not_lt there
                exact ⟨⟨whole.truncateBody length, offset⟩, FramedRequest.first?_eq_some.mpr
                  ⟨whole, offset, length, parsed, announced, within, rfl⟩, rfl,
                  FramedRequest.size_eq parsed within⟩

end Verdict

end PromiseHttp
