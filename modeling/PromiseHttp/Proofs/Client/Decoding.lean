import PromiseHttp.Proofs.Client.Receiving

namespace PromiseHttp

/-!
# The response in a stream

What a closed connection brings is one stream of octets, and what response it holds is a matter of
the stream alone.  The decoding looks at the whole stream at once: it reads the head at the front,
decides from the head how the body is delimited, and cuts the body out of what stands behind.

An exchange sees the stream piece by piece.  It may learn that the body is complete before the stream
ends, or that there is too much or too little of it only at the end.  It comes to the outcome of the
decoding all the same, unless the announced length and the length of the head exceed every count
together.
-/

namespace Inbound

theorem brings_foldl_feed (chunks : List Octets) {inbound : Inbound} {octets : Octets}
    (brings : inbound.Brings octets) :
    (chunks.foldl feed inbound).Brings (octets ++ chunks.flatten) := by
  induction chunks generalizing inbound octets with
  | nil =>
      rw [List.flatten_nil, List.append_nil]
      exact brings
  | cons chunk chunks inductionHypothesis =>
      rw [List.flatten_cons, ← List.append_assoc]
      exact inductionHypothesis (brings.feed chunk)

theorem ofArrivals_octets (chunks : List Octets) :
    ofArrivals (chunks.map .octets) = close (chunks.foldl feed empty) := by
  rw [ofArrivals, List.foldl_map]

/-- Chunks that arrive one after another bring what they are together. -/
theorem brings_ofArrivals (chunks : List Octets) :
    (ofArrivals (chunks.map .octets)).Brings chunks.flatten := by
  rw [ofArrivals_octets]
  exact brings_foldl_feed chunks brings_empty

end Inbound

namespace Exchange

/-- The outcome that a closed stream stands for. -/
def decode (limit : Nat) (stream : Octets) : Outcome Response :=
  match Response.parse stream with
  | .error .incomplete => .error (.io (.closedEarly "before the response head"))
  | .error fault => .error (.protocol fault.message)
  | .ok (head, offset) =>
    if mentionsChunks head.headers then
      .error (.protocol "chunked responses are not supported")
    else match head.headers.get? "content-length" with
      | none => .ok (head.withBody (stream.drop offset))
      | some announced =>
        match Text.readNumeral Text.countBound (Text.trim announced) with
        | none => .error (.protocol ("invalid Content-Length: " ++ Text.quote announced))
        | some length =>
          if limit < offset + length then
            .error (.protocol ("response body of " ++ Text.numeral length ++ " bytes is too large"))
          else if stream.length < offset + length then .error (.io (.closedEarly "mid-body"))
          else .ok (head.withBody ((stream.drop offset).take length))

/-- A body that is neither cut short nor too long: it has the length that the head announces, and
without an announcement it is all that stands behind the head. -/
def IsWholeBody (head : Response) (behind body : Octets) : Prop :=
  match head.headers.contentLength? with
  | some length => body.length = length ∧ body <+: behind
  | none => body = behind

variable {limit : Nat} {stream : Octets}

/-- Decoding resolves only with the head at the front of the stream and its whole body. -/
theorem wholeBody_of_decode {response : Response} (decoded : decode limit stream = .ok response) :
    ∃ head offset, Response.parse stream = .ok (head, offset) ∧
      response = head.withBody response.body ∧
      IsWholeBody head (stream.drop offset) response.body := by
  unfold decode at decoded
  cases parsed : Response.parse stream with
  | error fault => cases fault <;> simp only [parsed, reduceCtorEq] at decoded
  | ok pair =>
      rcases pair with ⟨head, offset⟩
      refine ⟨head, offset, rfl, ?_⟩
      unfold IsWholeBody Headers.contentLength?
      simp only [parsed] at decoded
      split at decoded
      · cases decoded
      · cases named : head.headers.get? "content-length" with
        | none =>
            simp only [named, Except.ok.injEq] at decoded
            subst decoded
            exact ⟨rfl, rfl⟩
        | some announced =>
            simp only [named] at decoded ⊢
            cases read : Text.readNumeral Text.countBound (Text.trim announced) with
            | none => simp only [read, reduceCtorEq] at decoded
            | some length =>
                simp only [read] at decoded ⊢
                split at decoded
                · cases decoded
                · split at decoded
                  · cases decoded
                  · rename_i there
                    cases decoded
                    refine ⟨rfl, ?_, List.take_prefix _ _⟩
                    simp only [Response.withBody, List.length_take, List.length_drop]
                    omega

/-! ## The end of a stream -/

/-- The length that a head announces does not carry the end of the body beyond every count. -/
def Countable (stream : Octets) : Prop :=
  ∀ head offset length, Response.parse stream = .ok (head, offset) →
    head.headers.contentLength? = some length → offset + length < Text.countBound

/-- A close behind a stream that begins with a head. -/
theorem phase_onEnd_parsed {head : Response} {offset : Nat}
    (parsed : Response.parse stream = .ok (head, offset)) :
    (viewing limit stream).onEnd.phase =
      (onEnd (completed ⟨limit, ⟨stream, 0, 0⟩, framing limit head offset⟩)).phase := by
  apply phase_onEnd
  · exact view_parsed parsed
  · rw [held_viewing, buffer_completed]

/-- A body of an announced length, when everything has come and the connection is closed. -/
theorem phase_onEnd_sized (head : Response) (offset length : Nat) :
    (onEnd (completed ⟨limit, ⟨stream, 0, 0⟩, .sized head offset length⟩)).phase =
      .settled (if stream.length < offset + length then .error (.io (.closedEarly "mid-body"))
        else .ok (head.withBody ((stream.drop offset).take length))) := by
  by_cases cutShort : stream.length < offset + length
  · simp only [completed, if_pos cutShort, onEnd]
  · simp only [completed, if_neg cutShort, onEnd, deliver]

/-- What an exchange makes of a stream that comes at once, with the close behind it. -/
theorem phase_onEnd_viewing (short : stream.length ≤ limit) (countable : Countable stream) :
    (viewing limit stream).onEnd.phase = .settled (decode limit stream) := by
  unfold decode
  cases parsed : Response.parse stream with
  | error fault =>
      by_cases undecided : fault = .incomplete
      · subst undecided
        have phase : (viewing limit stream).phase = .head := view_incomplete short parsed
        rw [onEnd, phase]
      · have phase : (viewing limit stream).phase = refusal fault.message :=
          view_refused parsed undecided
        rw [onEnd_over (isOver_iff.mpr (Or.inl ⟨_, phase⟩)), phase]
        cases fault with
        | incomplete => exact absurd rfl undecided
        | malformed fault => rfl
        | missingStatus => rfl
  | ok pair =>
      rcases pair with ⟨head, offset⟩
      rw [phase_onEnd_parsed parsed]
      dsimp only
      unfold framing
      by_cases chunked : mentionsChunks head.headers = true
      · simp only [if_pos chunked]
        rfl
      · simp only [if_neg chunked]
        cases named : head.headers.get? "content-length" with
        | none =>
            have rest : (stream.drop offset).take (stream.length - offset) = stream.drop offset := by
              rw [← List.length_drop, List.take_length]
            simp only [completed, onEnd, deliver, rest]
        | some announced =>
            cases read : Text.readNumeral Text.countBound (Text.trim announced) with
            | none =>
                simp only [read]
                rfl
            | some length =>
                have announces : head.headers.contentLength? = some length := by
                  rw [Headers.contentLength?, named]
                  exact read
                have counted : ¬ Text.countBound ≤ offset + length :=
                  Nat.not_le_of_lt (countable head offset length parsed announces)
                simp only [read, if_neg counted]
                by_cases tooLarge : limit < offset + length
                · simp only [if_pos tooLarge]
                  rfl
                · simp only [if_neg tooLarge]
                  exact phase_onEnd_sized head offset length

/-- An exchange with a connection that brings some chunks and is closed then comes to the outcome
that decoding the octets of all chunks at once yields, if they are within the limit together and the
announced length does not exceed every count.  So it resolves only with a whole body. -/
theorem outcome_is_decoded {chunks : List Octets} (short : chunks.flatten.length ≤ limit)
    (countable : Countable chunks.flatten) :
    (run limit (.ofArrivals (chunks.map .octets))).outcome? = some (decode limit chunks.flatten) ∧
      ∀ response,
        (run limit (.ofArrivals (chunks.map .octets))).outcome? = some (.ok response) →
          ∃ head offset, Response.parse chunks.flatten = .ok (head, offset) ∧
            response = head.withBody response.body ∧
            IsWholeBody head (chunks.flatten.drop offset) response.body := by
  have closed : (Inbound.ofArrivals (chunks.map .octets)).closed = true := by
    rw [Inbound.ofArrivals_octets]
    rfl
  have decoded : (run limit (.ofArrivals (chunks.map .octets))).outcome? =
      some (decode limit chunks.flatten) := by
    rw [outcome?, phase_run (Inbound.brings_ofArrivals chunks) short, closed]
    simp only [make, if_true, phase_onEnd_viewing short countable]
  constructor
  · exact decoded
  · intro response resolved
    rw [decoded] at resolved
    exact wholeBody_of_decode (Option.some.inj resolved)

/-- A body of two octets comes in two chunks, the first of them behind the end of the head, and an
octet too many follows. -/
def greetingChunks : List Octets :=
  ["HTTP/1.1 200 OK\r\nContent-Len", "gth: 2\r\n\r\nh", "i!"].map Octets.encode

/-- The two octets are the body. -/
theorem greeting_is_decoded :
    greetingChunks.flatten.length ≤ 41 ∧ Countable greetingChunks.flatten ∧
      (run 41 (.ofArrivals (greetingChunks.map .octets))).outcome? =
        some (.ok ⟨.ok, ⟨[("Content-Length", "2")]⟩, Octets.encode "hi", true⟩) := by
  have short : greetingChunks.flatten.length ≤ 41 := by decide
  have parsed : Response.parse greetingChunks.flatten =
      .ok (⟨.ok, ⟨[("Content-Length", "2")]⟩, [], true⟩, 38) := by
    rfl
  have countable : Countable greetingChunks.flatten := by
    intro head offset length parsed' announces
    rw [parsed] at parsed'
    cases parsed'
    have two : Headers.contentLength? ⟨[("Content-Length", "2")]⟩ = some 2 := by decide
    cases two.symm.trans announces
    decide
  refine ⟨short, countable, ?_⟩
  rw [(outcome_is_decoded short countable).1]
  have decoded : decode 41 greetingChunks.flatten =
      .ok ⟨.ok, ⟨[("Content-Length", "2")]⟩, Octets.encode "hi", true⟩ := by
    unfold decode
    rw [parsed]
    rfl
  rw [decoded]

end Exchange
end PromiseHttp
