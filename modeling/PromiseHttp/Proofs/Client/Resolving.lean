import PromiseHttp.Client.Sending
import PromiseHttp.Proofs.Client.Receiving
import PromiseHttp.Proofs.Http.ResponseWire

namespace PromiseHttp

/-!
# A written response resolves the promise

When a response is written and every octet of it arrives, the promise of the exchange is resolved
with the same status code, the same body and the fields that are on the wire, however the octets are
cut into chunks and whether or not the connection is closed behind them.
-/

namespace Response

/-- A response as the promise of an exchange is resolved with it. -/
def delivered (response : Response) : Response :=
  ⟨.ofCode response.status.code,
    ⟨response.ownFields ++ response.suppliedType ++
      [("Connection", response.connectionOption),
        ("Content-Length", Text.numeral response.body.length)]⟩,
    response.body, response.keepAlive⟩

/-- The head on the wire with the body behind it is the response that is delivered. -/
theorem withBody_headReceived (response : Response) :
    (response.typed.headReceived response.body.length).withBody response.body =
      response.delivered := by
  rw [headReceived_eq, sentFields_typed, status_typed, keepAlive_typed]
  rfl

/-- A content type says nothing about the encoding of the transfer. -/
theorem get?_typed {name : String} (response : Response)
    (different : Text.sameLetters name "Content-Type" = false) :
    response.typed.headers.get? name = response.headers.get? name := by
  have apart : Headers.named name ("Content-Type", "text/plain; charset=utf-8") = false := by
    rw [← Bool.not_eq_true]
    intro bears
    exact Bool.false_ne_true (different.symm.trans
      (Text.sameLetters_iff.mpr (Text.sameLetters_iff.mp bears).symm))
  unfold typed
  split
  · rfl
  · simp only [header, Headers.get?, Headers.toList_insert, List.find?_append, List.find?_cons,
      apart, List.find?_nil, Option.or_none]

end Response

namespace Exchange

/-- The fields that concern the framing say nothing about the encoding of the transfer. -/
theorem mentionsChunks_headReceived (head : Response) (length : Nat) :
    mentionsChunks (head.headReceived length).headers = mentionsChunks head.headers := by
  unfold mentionsChunks
  rw [Response.get?_headReceived _ _ (by decide) (by decide)]

/-- What is made of a head is a matter of its encoding and of the length that it was written for. -/
theorem framing_written (head : Response) (limit offset length : Nat) :
    framing limit (head.headReceived length) offset =
      if mentionsChunks head.headers then refusal "chunked responses are not supported"
      else if ¬ length < Text.countBound then
        refusal ("invalid Content-Length: " ++ Text.quote (Text.numeral length))
      else if Text.countBound ≤ offset + length then .crashed
      else if limit < offset + length then
        refusal ("response body of " ++ Text.numeral length ++ " bytes is too large")
      else .sized (head.headReceived length) offset length := by
  unfold framing
  rw [mentionsChunks_headReceived, Response.contentLength_headReceived]
  simp only [Text.trim_numeral, Text.readNumeral_numeral_eq]
  by_cases within : length < Text.countBound
  · simp only [within, not_true_eq_false, if_true, if_false]
  · simp only [within, not_false_eq_true, if_true, if_false]

/-- A head that is not chunked is framed by the length that it was written for, if the body fits. -/
theorem framing_sized {head : Response} {limit offset length : Nat}
    (unchunked : mentionsChunks head.headers = false) (counted : offset + length < Text.countBound)
    (fits : offset + length ≤ limit) :
    framing limit (head.headReceived length) offset =
      .sized (head.headReceived length) offset length := by
  have within : length < Text.countBound := by omega
  rw [framing_written, unchunked, if_neg Bool.false_ne_true, if_neg (not_not_intro within),
    if_neg (Nat.not_le_of_lt counted), if_neg (Nat.not_lt_of_le fits)]

/-- A response that is not chunked is framed by the length of its body. -/
theorem framing_headReceived {response : Response} {limit offset : Nat}
    (unchunked : mentionsChunks response.headers = false)
    (short : offset + response.body.length ≤ limit) (countable : limit < Text.countBound) :
    framing limit (response.typed.headReceived response.body.length) offset =
      .sized (response.typed.headReceived response.body.length) offset response.body.length := by
  apply framing_sized
  · unfold mentionsChunks at unchunked ⊢
    rw [Response.get?_typed _ (by decide)]
    exact unchunked
  · exact Nat.lt_of_le_of_lt short countable
  · exact short

/-- What is made of a written response. -/
theorem view_wire {response : Response} {limit : Nat} (sendable : response.Sendable)
    (unchunked : mentionsChunks response.headers = false)
    (short : response.wire.length ≤ limit) (countable : limit < Text.countBound) :
    view limit response.wire = .settled (.ok response.delivered) := by
  have length : response.wire.length =
      (response.typed.headWire response.body.length).length + response.body.length :=
    List.length_append
  have parsed : Response.parse response.wire =
      .ok (response.typed.headReceived response.body.length,
        (response.typed.headWire response.body.length).length) :=
    Response.parse_wire sendable.head response.body
  have whole : ¬ response.wire.length <
      (response.typed.headWire response.body.length).length + response.body.length := by omega
  have body : (response.wire.drop (response.typed.headWire response.body.length).length).take
      response.body.length = response.body := by
    rw [Response.wire, List.drop_left, List.take_length]
  rw [view_parsed parsed, framing_headReceived unchunked (length ▸ short) countable]
  simp only [completed, if_neg whole, deliver, body, Response.withBody_headReceived]

/-- Whoever sends a response resolves the promise of the exchange. -/
theorem outcome?_run {response : Response} {limit : Nat} {inbound : Inbound}
    (sendable : response.Sendable) (unchunked : mentionsChunks response.headers = false)
    (short : response.wire.length ≤ limit) (countable : limit < Text.countBound)
    (brings : inbound.Brings response.wire) :
    (run limit inbound).outcome? = some (.ok response.delivered) := by
  have view := view_wire sendable unchunked short countable
  have ended : (viewing limit response.wire).isOver = true :=
    isOver_iff.mpr (Or.inl ⟨_, view⟩)
  have made := make_over [] (by rw [List.append_nil]; exact short) ended inbound.closed
  rw [List.append_nil, view] at made
  rw [outcome?, phase_run brings short, made]

end Exchange

namespace Client

/-- A client that has a connection writes the request of its draft and reads the answer. -/
theorem send_connected {client : Client} (ready : client.isShutDown = false) (draft : RequestDraft)
    (answer : Inbound) :
    client.send draft (.ok .empty) answer =
      ⟨some (draft.wire client.target),
        (Exchange.run client.settings.maxResponseSize answer).outcome?⟩ := by
  have some_octet : (draft.wire client.target).isEmpty = false := by
    rw [← Bool.not_eq_true, List.isEmpty_iff]
    intro nothing
    have ends : Octets.encode "\r\n" = [] := by
      unfold RequestDraft.wire Request.wire Request.headText at nothing
      rw [Octets.encode_append] at nothing
      exact (List.append_eq_nil_iff.mp (List.append_eq_nil_iff.mp nothing).1).2
    exact absurd ends (by decide)
  have written : Outbound.empty.write (draft.wire client.target) =
      .ok ⟨[draft.wire client.target], none⟩ := by
    simp only [Outbound.write, some_octet, Bool.false_eq_true, if_false, Outbound.empty,
      List.nil_append]
  unfold send
  simp only [ready, written, Bool.false_eq_true, if_false, Outbound.written, List.flatten_cons,
    List.flatten_nil, List.append_nil]

end Client

end PromiseHttp
