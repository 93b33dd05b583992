import PromiseHttp.Proofs.Client.Decoding
import PromiseHttp.Proofs.Connection.Refusal

namespace PromiseHttp
namespace Exchange

/-!
# Responses that state their length

The length of the body of a response stands in its head, in the lines named `Content-Length`.  If they
do not tell one count of 64 bits, the response should be refused, as a request is, and neither a part of
what follows nor all of it should be delivered as a body.

An exchange falls short of that.  It looks at the first of these lines only, so it does not notice when
another one says something else; and a line whose value is not text has been lost by then, so that the
next one is the first, or everything up to the close is the body.  The text that it does look at is judged
as the length of a request is: there may be a plus sign and blanks of any kind.
-/

variable {limit : Nat} {stream front : Octets} {head : Head.ResponseHead} {rest : Octets}

/-! ## Heads within the limit -/

theorem parse_of_found (found : Head.readResponse front = .found head rest) :
    Response.parse front = .ok (Response.ofHead head, front.length - rest.length) := by
  rw [Response.parse, found]

/-- Nothing is delivered behind a length that cannot be read. -/
theorem framing_unreadable {text : String} {offset : Nat}
    (first : Head.FirstText "content-length" head.fields text)
    (nothing : ∀ count < Text.countBound, ¬ Text.Denotes text count) :
    framing limit (Response.ofHead head) offset = refusal
      (if mentionsChunks (Headers.ofOctets head.fields) then "chunked responses are not supported"
        else "invalid Content-Length: " ++ Text.quote text) := by
  have announced : (Response.ofHead head).headers.get? "content-length" = some text :=
    Headers.get?_of_firstText first
  have unread : Text.readNumeral Text.countBound (Text.trim text) = none :=
    Request.lengthOf?_eq_none.mpr nothing
  unfold framing
  by_cases chunked : mentionsChunks (Headers.ofOctets head.fields) = true
  · have chunked' : mentionsChunks (Response.ofHead head).headers = true := chunked
    rw [if_pos chunked', if_pos chunked]
  · have unchunked : ¬ mentionsChunks (Response.ofHead head).headers = true := chunked
    rw [if_neg unchunked, if_neg chunked, announced]
    dsimp only
    rw [unread]

/-- The count of the first line delimits the body, if it fits. -/
theorem framing_readable {text : String} {count offset : Nat}
    (unchunked : mentionsChunks (Headers.ofOctets head.fields) = false)
    (first : Head.FirstText "content-length" head.fields text) (denotes : Text.Denotes text count)
    (counted : offset + count < Text.countBound) (fits : offset + count ≤ limit) :
    framing limit (Response.ofHead head) offset = .sized (Response.ofHead head) offset count := by
  have announced : (Response.ofHead head).headers.get? "content-length" = some text :=
    Headers.get?_of_firstText first
  have read : Text.readNumeral Text.countBound (Text.trim text) = some count :=
    Text.readNumeral_trim_eq_some.mpr ⟨denotes, by omega⟩
  have unchunked' : ¬ mentionsChunks (Response.ofHead head).headers = true :=
    Bool.eq_false_iff.mp unchunked
  unfold framing
  rw [if_neg unchunked', announced]
  dsimp only
  rw [read]
  dsimp only
  rw [if_neg (Nat.not_le_of_lt counted), if_neg (Nat.not_lt_of_le fits)]

/-- Without a line whose text states a length the body ends with the connection. -/
theorem framing_unstated {offset : Nat}
    (unchunked : mentionsChunks (Headers.ofOctets head.fields) = false)
    (unstated : ∀ text, ¬ Head.StatesLength head.fields text) :
    framing limit (Response.ofHead head) offset = .unsized (Response.ofHead head) offset := by
  have unannounced : (Response.ofHead head).headers.get? "content-length" = none := by
    rw [Headers.get?_eq_head?, List.head?_eq_none_iff]
    apply List.eq_nil_iff_forall_not_mem.mpr
    exact fun text member => unstated text (Headers.mem_getAll_ofOctets.mp member)
  have unchunked' : ¬ mentionsChunks (Response.ofHead head).headers = true :=
    Bool.eq_false_iff.mp unchunked
  rw [framing, if_neg unchunked', unannounced]

/-- What the lines of a head within the limit that are named `Content-Length` come to.  The response is
refused if the first whose value is text denotes no count of 64 bits.  If it denotes one, that many octets
behind the head are delivered once they are there, whatever the other lines say, unless that is more than
the limit.  And if none of the values is text, everything up to the close is delivered. -/
theorem first_length_decides {answer : Inbound} (brings : answer.Brings stream)
    (found : Head.readResponse (stream.take limit) = .found head rest) :
    (∀ text, Head.FirstText "content-length" head.fields text →
      (∀ count < Text.countBound, ¬ Text.Denotes text count) →
      (run limit answer).outcome? = some (.error (.protocol
        (if mentionsChunks (Headers.ofOctets head.fields) then "chunked responses are not supported"
          else "invalid Content-Length: " ++ Text.quote text)))) ∧
    (mentionsChunks (Headers.ofOctets head.fields) = false →
      let offset := (stream.take limit).length - rest.length
      (∀ text count, Head.FirstText "content-length" head.fields text → Text.Denotes text count →
        offset + count < Text.countBound → offset + count ≤ limit →
        offset + count ≤ stream.length →
          (run limit answer).outcome? =
            some (.ok ((Response.ofHead head).withBody ((stream.drop offset).take count)))) ∧
      ((∀ text, ¬ Head.StatesLength head.fields text) → answer.closed = true →
        stream.length ≤ limit →
          (run limit answer).outcome? =
            some (.ok ((Response.ofHead head).withBody (stream.drop offset))))) := by
  have begins : stream.take limit <+: stream := List.take_prefix limit stream
  have short : (stream.take limit).length ≤ limit := List.length_take_le limit stream
  have parsed := parse_of_found found
  refine ⟨fun text first nothing => ?_, fun unchunked => ⟨?_, ?_⟩⟩
  · apply outcome?_of_decided brings begins short
    rw [view_parsed parsed, framing_unreadable first nothing]
    rfl
  · intro text count first denotes counted fits there
    have held : ¬ (stream.take limit).length <
        (stream.take limit).length - rest.length + count := by
      have length : (stream.take limit).length = min limit stream.length := List.length_take
      omega
    have same : ((stream.take limit).drop ((stream.take limit).length - rest.length)).take count =
        (stream.drop ((stream.take limit).length - rest.length)).take count := by
      rw [List.drop_take, List.take_take, Nat.min_eq_left (by omega)]
    apply outcome?_of_decided brings begins short
    rw [view_parsed parsed, framing_readable unchunked first denotes counted fits, completed]
    dsimp only
    rw [if_neg held, deliver, same]
  · intro unstated closed whole
    rw [List.take_of_length_le whole] at parsed ⊢
    rw [outcome?, phase_run brings whole, make, closed, if_pos rfl, phase_onEnd_parsed parsed,
      framing_unstated unchunked unstated]
    dsimp only [completed, onEnd, deliver]
    rw [← List.length_drop, List.take_length]

namespace LengthLines

/-- A head with these lines, and three octets behind the end of the head. -/
def answering (lines : Octets) : Octets :=
  Octets.encode "HTTP/1.1 200 OK\r\n" ++ lines ++ Octets.encode "\r\n\r\nhi!"

/-- A line that states a length, if the value is text. -/
def line (value : Octets) : Octets := Octets.encode "Content-Length: " ++ value

/-- The value is a word. -/
def spelled : Octets := answering (line (Octets.encode "two"))

/-- There is a sign. -/
def signed : Octets := answering (line (Octets.encode "+2"))

/-- There is a blank that is no space. -/
def spaced : Octets := answering (line (Octets.encode "\u00A02"))

/-- The value is not text. -/
def garbled : Octets := answering (line [0xFF])

/-- Two lines state different lengths. -/
def different : Octets :=
  answering (line (Octets.encode "2") ++ Octets.encode "\r\n" ++ line (Octets.encode "3"))

theorem readResponse_spelled : Head.readResponse (spelled.take 100) =
    .found ⟨.http11, 200, [Head.raw ("Content-Length", "two")]⟩ (Octets.encode "hi!") := rfl

end LengthLines

/-- A length in words is refused, although the connection stays open. -/
theorem spelled_length_is_refused :
    (run 100 (Inbound.empty.feed LengthLines.spelled)).outcome? =
      some (.error (.protocol "invalid Content-Length: \"two\"")) := by
  have brings : (Inbound.empty.feed LengthLines.spelled).Brings ([] ++ LengthLines.spelled) :=
    Inbound.brings_empty.feed LengthLines.spelled
  have first : Head.FirstText "content-length" [Head.raw ("Content-Length", "two")] "two" :=
    ⟨[], "Content-Length", [], rfl, by decide, fun _ _ _ => List.not_mem_nil⟩
  have refused := (first_length_decides brings LengthLines.readResponse_spelled).1 "two" first
    (Request.lengthOf?_eq_none.mp (by decide))
  rw [refused]
  rfl

/-- At the front stands a head within the limit, without a line named `Transfer-Encoding`, and with a
line that is not plain or with lines that state different lengths. -/
def BeginsAmbiguously (limit : Nat) (octets : Octets) : Prop :=
  ∃ head rest, Head.readResponse octets = .found head rest ∧ octets.length - rest.length ≤ limit ∧
    (∀ field ∈ head.fields,
      (Octets.decode? field.1).any (Text.sameLetters · "transfer-encoding") = false) ∧
    (none ∈ Connection.plainLengths head.fields ∨
      ∃ one ∈ Connection.plainLengths head.fields, ∃ other ∈ Connection.plainLengths head.fields,
        one ≠ other)

/-- Three lines that are not plain and two that contradict each other, and in each case a body is
delivered: as long as the first line that is text says, or up to the close. -/
theorem ambiguous_length_is_delivered :
    (BeginsAmbiguously 100 LengthLines.signed ∧
      ∃ response, (run 100 (.ofArrivals [.octets LengthLines.signed])).outcome? =
        some (.ok response) ∧ response.body = Octets.encode "hi") ∧
    (BeginsAmbiguously 100 LengthLines.spaced ∧
      ∃ response, (run 100 (.ofArrivals [.octets LengthLines.spaced])).outcome? =
        some (.ok response) ∧ response.body = Octets.encode "hi") ∧
    (BeginsAmbiguously 100 LengthLines.garbled ∧
      ∃ response, (run 100 (.ofArrivals [.octets LengthLines.garbled])).outcome? =
        some (.ok response) ∧ response.body = Octets.encode "hi!") ∧
    (BeginsAmbiguously 100 LengthLines.different ∧
      ∃ response, (run 100 (.ofArrivals [.octets LengthLines.different])).outcome? =
        some (.ok response) ∧ response.body = Octets.encode "hi") := by
  refine ⟨⟨⟨_, _, rfl, by decide, by decide, Or.inl (by decide)⟩, _, rfl, rfl⟩,
    ⟨⟨_, _, rfl, by decide, by decide, Or.inl (by decide)⟩, _, rfl, rfl⟩,
    ⟨⟨_, _, rfl, by decide, by decide, Or.inl (by decide)⟩, _, rfl, rfl⟩,
    ⟨⟨_, _, rfl, by decide, by decide, Or.inr ⟨some 2, by decide, some 3, by decide, by decide⟩⟩,
      _, rfl, rfl⟩⟩

end Exchange
end PromiseHttp
