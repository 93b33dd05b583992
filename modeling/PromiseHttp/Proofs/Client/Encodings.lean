import PromiseHttp.Proofs.Client.Lengths

namespace PromiseHttp
namespace Exchange

/-!
# Responses in chunks

An exchange cannot read a body that comes in chunks.  It should refuse every response that names such an
encoding, and deliver nothing of it.  Where it does, it does so as soon as the head is there, whatever
lengths the head announces.

But it looks at one line only: the first that names an encoding and whose value is text.  Another line may
mention chunks behind it, and a line whose value is not text has been lost by then.  What is delivered as
a body in these cases is the chunks themselves.
-/

variable {limit : Nat} {stream : Octets} {head : Head.ResponseHead} {rest : Octets}

/-! ## The line that is looked at -/

/-- Whether the first line that names an encoding in text mentions chunks, in letters of whatever case. -/
def NamesChunks (fields : List Head.RawField) : Prop :=
  ∃ text, Head.FirstText "transfer-encoding" fields text ∧ "chunked".toList <:+: Text.fold text

theorem mentionsChunks_ofOctets {fields : List Head.RawField} :
    mentionsChunks (Headers.ofOctets fields) = true ↔ NamesChunks fields := by
  unfold mentionsChunks
  constructor
  · intro mentions
    cases named : (Headers.ofOctets fields).get? "transfer-encoding" with
    | none =>
        rw [named] at mentions
        cases mentions
    | some text =>
        rw [named] at mentions
        exact ⟨text, Headers.firstText_of_get? named, Text.occursIn_iff.mp mentions⟩
  · rintro ⟨text, first, mentions⟩
    rw [Headers.get?_of_firstText first]
    exact Text.occursIn_iff.mpr mentions

/-! ## Other outcomes -/

/-- The phase of an exchange that has refused a response in chunks. -/
def chunksRefused : ExchangePhase := refusal "chunked responses are not supported"

theorem refusal_ne_chunksRefused {reason : String} (first : reason.toList.head? ≠ some 'c') :
    refusal reason ≠ chunksRefused := by
  intro same
  simp only [refusal, chunksRefused, ExchangePhase.settled.injEq, Except.error.injEq,
    Failure.protocol.injEq] at same
  rw [same] at first
  exact first rfl

theorem framing_ne_chunksRefused {whole : Response}
    (unchunked : mentionsChunks whole.headers = false) (offset : Nat) :
    framing limit whole offset ≠ chunksRefused := by
  unfold framing
  rw [if_neg (Bool.eq_false_iff.mp unchunked)]
  split
  · exact ExchangePhase.noConfusion
  · split
    · apply refusal_ne_chunksRefused
      simp
    · split
      · exact ExchangePhase.noConfusion
      · split
        · apply refusal_ne_chunksRefused
          simp
        · exact ExchangePhase.noConfusion

theorem completed_ne_chunksRefused {exchange : Exchange} (other : exchange.phase ≠ chunksRefused) :
    exchange.completed.phase ≠ chunksRefused := by
  unfold completed
  split
  · split
    · exact other
    · simp [deliver, chunksRefused, refusal]
  · exact other

/-- What an exchange makes of the beginning of a stream whose head does not name chunks. -/
theorem sought_ne_chunksRefused {exchange : Exchange} {more : Octets} {whole : Response} {offset : Nat}
    (parsed : Response.parse (exchange.buffer.held ++ more) = .ok (whole, offset))
    (unchunked : mentionsChunks whole.headers = false) (seeking : exchange.phase = .head) :
    exchange.sought.phase ≠ chunksRefused := by
  unfold sought
  cases front : Response.parse exchange.buffer.held with
  | ok pair =>
      cases (Response.parse_append_ok front more).symm.trans parsed
      exact completed_ne_chunksRefused (framing_ne_chunksRefused unchunked _)
  | error fault =>
      by_cases undecided : fault = .incomplete
      · subst undecided
        dsimp only
        split
        · exact refusal_ne_chunksRefused (by simp)
        · rw [seeking]
          exact ExchangePhase.noConfusion
      · have decided : Response.parse exchange.buffer.held ≠ .error .incomplete := by
          rw [front]
          exact fun same => undecided (Except.error.inj same)
        cases ((Response.parse_append decided more).trans front).symm.trans parsed

theorem onOctets_ne_chunksRefused {exchange : Exchange} {piece more : Octets} {whole : Response}
    {offset : Nat}
    (parsed : Response.parse (exchange.buffer.held ++ (piece ++ more)) = .ok (whole, offset))
    (unchunked : mentionsChunks whole.headers = false) (other : exchange.phase ≠ chunksRefused) :
    (exchange.onOctets piece).phase ≠ chunksRefused := by
  rcases exchange with ⟨limit, buffer, phase⟩
  cases phase with
  | head =>
      rw [← List.append_assoc, ← ReadBuffer.held_append] at parsed
      exact @sought_ne_chunksRefused ⟨limit, buffer.append piece, .head⟩ more whole _ parsed unchunked rfl
  | sized head offset length => exact completed_ne_chunksRefused ExchangePhase.noConfusion
  | unsized head offset =>
      simp only [onOctets]
      split
      · exact refusal_ne_chunksRefused (by simp)
      · exact other
  | settled outcome => exact other
  | crashed => exact other

theorem onEnd_ne_chunksRefused {exchange : Exchange} (other : exchange.phase ≠ chunksRefused) :
    exchange.onEnd.phase ≠ chunksRefused := by
  unfold onEnd
  split
  · simp [chunksRefused, refusal]
  · simp [chunksRefused, refusal]
  · simp [deliver, chunksRefused, refusal]
  · exact other
  · exact other

/-- An exchange does not refuse a stream for its chunks if the head at its front does not name them. -/
theorem runFor_ne_chunksRefused (fuel : Nat) {exchange : Exchange} {inbound : Inbound}
    {whole : Response} {offset : Nat}
    (parsed : Response.parse (exchange.buffer.held ++ inbound.octets) = .ok (whole, offset))
    (unchunked : mentionsChunks whole.headers = false) (other : exchange.phase ≠ chunksRefused) :
    (runFor fuel exchange inbound).phase ≠ chunksRefused := by
  induction fuel generalizing exchange inbound with
  | zero => exact other
  | succ fuel inductionHypothesis =>
      by_cases ended : exchange.isOver = true
      · rw [runFor_over _ ended]
        exact other
      · cases answer : inbound.read? exchange.buffer.room with
        | none =>
            rw [runFor_waits answer]
            exact other
        | some pair =>
            rcases pair with ⟨result, after⟩
            cases result with
            | octets piece =>
                rw [runFor_onOctets ended answer]
                have held := held_onOctets exchange answer
                refine inductionHypothesis (held.symm ▸ parsed) ?_
                rw [← held, buffer_onOctets, ReadBuffer.held_append, List.append_assoc] at parsed
                exact onOctets_ne_chunksRefused parsed unchunked other
            | ended =>
                rw [runFor_ended ended answer]
                exact onEnd_ne_chunksRefused other
            | failed fault =>
                rw [runFor_failed ended answer]
                simp [chunksRefused, refusal]

/-! ## The refusal -/

/-- Whatever lengths a head announces, it is refused if it names chunks. -/
theorem framing_chunked (chunked : mentionsChunks (Headers.ofOctets head.fields) = true) (offset : Nat) :
    framing limit (Response.ofHead head) offset = chunksRefused := by
  have chunked' : mentionsChunks (Response.ofHead head).headers = true := chunked
  rw [framing, if_pos chunked', chunksRefused]

/-- A response whose head is within the limit is refused for its chunks exactly if the first of its lines
that name a transfer encoding in text mentions chunks, in letters of whatever case.  It does not matter
how the response is cut, what stands in the other lines, what lengths they state, and what comes behind
the head. -/
theorem refused_for_chunks_iff {answer : Inbound} (brings : answer.Brings stream)
    (found : Head.readResponse (stream.take limit) = .found head rest) :
    (run limit answer).outcome? =
        some (.error (.protocol "chunked responses are not supported")) ↔
      NamesChunks head.fields := by
  rw [← mentionsChunks_ofOctets]
  have begins : stream.take limit <+: stream := List.take_prefix limit stream
  have parsed := parse_of_found found
  constructor
  · intro refused
    by_contra unchunked
    have whole := Response.parse_append_ok parsed (stream.drop limit)
    rw [List.take_append_drop, ← brings.2] at whole
    have other : (run limit answer).phase ≠ chunksRefused := by
      rw [run, start_eq]
      exact runFor_ne_chunksRefused _ whole (Bool.eq_false_iff.mpr unchunked)
        ExchangePhase.noConfusion
    unfold outcome? at refused
    split at refused
    · rename_i outcome settled
      cases refused
      exact other settled
    · cases refused
    · cases refused
  · intro chunked
    apply outcome?_of_decided brings begins (List.length_take_le limit stream)
    rw [view_parsed parsed, framing_chunked chunked]
    rfl

namespace EncodingLines

/-- A head with these lines, and a body of one chunk behind it. -/
def answering (lines : Octets) : Octets :=
  Octets.encode "HTTP/1.1 200 OK\r\n" ++ lines ++ Octets.encode "\r\n\r\n2\r\nhi\r\n0\r\n\r\n"

/-- Two lengths are stated beside an encoding. -/
def beside : Octets := answering
  (Octets.encode "Content-Length: 2\r\nTRANSFER-encoding: gzip, Chunked\r\nContent-Length: x")

/-- The second of two encodings is that of chunks. -/
def repeated : Octets :=
  answering (Octets.encode "Transfer-Encoding: gzip\r\nTransfer-Encoding: chunked")

/-- The value is not text. -/
def garbled : Octets := answering (Octets.encode "Transfer-Encoding: chunked;" ++ [0xFF])

/-- The fields of the head with two lengths. -/
def fields : List Head.RawField :=
  [Head.raw ("Content-Length", "2"), Head.raw ("TRANSFER-encoding", "gzip, Chunked"),
    Head.raw ("Content-Length", "x")]

theorem readResponse_beside : Head.readResponse (beside.take 200) =
    .found ⟨.http11, 200, fields⟩ (Octets.encode "2\r\nhi\r\n0\r\n\r\n") := rfl

end EncodingLines

/-- Neither of the lengths beside the encoding has a say. -/
theorem chunks_beside_lengths_are_refused :
    (run 200 ((Inbound.empty.feed (EncodingLines.beside.take 40)).feed
      (EncodingLines.beside.drop 40))).outcome? =
        some (.error (.protocol "chunked responses are not supported")) := by
  have brings := (Inbound.brings_empty.feed (EncodingLines.beside.take 40)).feed
    (EncodingLines.beside.drop 40)
  rw [List.nil_append, List.take_append_drop] at brings
  apply (refused_for_chunks_iff brings EncodingLines.readResponse_beside).mpr
  refine ⟨"gzip, Chunked", ⟨[Head.raw ("Content-Length", "2")], "TRANSFER-encoding",
    [Head.raw ("Content-Length", "x")], rfl, by decide, ?_⟩, "gzip, ".toList, [], by decide⟩
  intro other earlier bears member
  have same := congrArg (Octets.decode? ·.1) (List.mem_singleton.mp member)
  simp only [Head.raw, Octets.decode?_encode, Option.some.injEq] at same
  rw [same] at bears
  exact absurd bears (by decide)

/-- An octet, in lower case if it is a letter. -/
def lowerOctet (octet : UInt8) : UInt8 := if 65 ≤ octet && octet ≤ 90 then octet + 32 else octet

/-- At the front stands a head within the limit, with some line that names a transfer encoding and
mentions chunks. -/
def BeginsChunked (limit : Nat) (octets : Octets) : Prop :=
  ∃ head rest, Head.readResponse octets = .found head rest ∧ octets.length - rest.length ≤ limit ∧
    ∃ field ∈ head.fields,
      (Octets.decode? field.1).any (Text.sameLetters · "transfer-encoding") = true ∧
      Octets.encode "chunked" <:+: field.2.map lowerOctet

/-- Two responses in chunks are delivered as they stand: in one of them the first of two lines says
something else, and in the other the line is not text. -/
theorem chunks_are_delivered :
    (BeginsChunked 100 EncodingLines.repeated ∧
      ∃ response, (run 100 (.ofArrivals [.octets EncodingLines.repeated])).outcome? =
        some (.ok response) ∧ response.body = Octets.encode "2\r\nhi\r\n0\r\n\r\n") ∧
    (BeginsChunked 100 EncodingLines.garbled ∧
      ∃ response, (run 100 (.ofArrivals [.octets EncodingLines.garbled])).outcome? =
        some (.ok response) ∧ response.body = Octets.encode "2\r\nhi\r\n0\r\n\r\n") := by
  refine ⟨⟨⟨_, _, rfl, by decide, ?_⟩, _, rfl, rfl⟩, ⟨⟨_, _, rfl, by decide, ?_⟩, _, rfl, rfl⟩⟩
  · exact ⟨Head.raw ("Transfer-Encoding", "chunked"), List.mem_cons_of_mem _ List.mem_cons_self,
      by decide, [], [], by decide⟩
  · exact ⟨(Octets.encode "Transfer-Encoding", Octets.encode "chunked;" ++ [0xFF]),
      List.mem_cons_self, by decide, [], [59, 0xFF], by decide⟩

end Exchange
end PromiseHttp
