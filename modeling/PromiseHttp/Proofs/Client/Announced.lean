import PromiseHttp.Proofs.Client.Limits

namespace PromiseHttp
namespace Exchange

/-!
# Bodies of an announced length

A server that has announced the length of a body may send more octets than it has announced, or close
before it has sent as many.  An exchange takes as many as are announced and leaves the others alone.  If
there are fewer, it resolves with none of them, whatever its limit is.  It reports that the connection
was closed in the middle of the body, unless there is a reason not to read the body at all: the head has
too many lines, mentions chunks, or announces more than the limit.
-/

variable {limit length : Nat} {head : Response} {answer : Inbound} {body : Octets}

/-- A head whose body is read: the reader takes all its lines, it does not mention chunks, and the
end of the body is within the limit and within every count. -/
structure Admits (limit : Nat) (head : Response) (length : Nat) : Prop where
  few : (head.sentFields length).length ≤ Head.maxFields
  unchunked : mentionsChunks head.headers = false
  fits : (head.headWire length).length + length ≤ limit
  counted : (head.headWire length).length + length < Text.countBound

/-- A head that is admitted is framed by the length that it announces. -/
theorem Admits.view (admits : Admits limit head length) (sendable : head.HeadSendable length)
    (behind : Octets) :
    view limit (head.headWire length ++ behind) =
      (completed ⟨limit, ⟨head.headWire length ++ behind, 0, 0⟩,
        .sized (head.headReceived length) (head.headWire length).length length⟩).phase := by
  rw [view_parsed (Response.parse_wire sendable behind),
    framing_sized admits.unchunked admits.counted admits.fits]

/-- As many octets as are announced are the body, whatever stands behind them. -/
theorem Admits.delivers (admits : Admits limit head length) (sendable : head.HeadSendable length)
    (size : body.length = length) {more : Octets}
    (brings : answer.Brings (head.headWire length ++ body ++ more)) :
    (run limit answer).outcome? = some (.ok ((head.headReceived length).withBody body)) := by
  have measure : (head.headWire length ++ body).length = (head.headWire length).length + length := by
    rw [List.length_append, size]
  have whole : ¬ (head.headWire length ++ body).length <
      (head.headWire length).length + length := by omega
  have same : ((head.headWire length ++ body).drop (head.headWire length).length).take length =
      body := by
    rw [List.drop_left, ← size, List.take_length]
  apply outcome?_of_decided brings (List.prefix_append _ more) (measure ▸ admits.fits)
  rw [admits.view sendable]
  simp only [completed, if_neg whole, deliver, same]

/-- Fewer octets than are announced are waited for, and a close before the others is reported. -/
theorem Admits.outcome_short (admits : Admits limit head length)
    (sendable : head.HeadSendable length) (size : body.length < length)
    (brings : answer.Brings (head.headWire length ++ body)) :
    (run limit answer).outcome? =
      if answer.closed then some (.error (.io (.closedEarly "mid-body"))) else none := by
  have cutShort : (head.headWire length ++ body).length <
      (head.headWire length).length + length := by
    rw [List.length_append]
    omega
  have short : (head.headWire length ++ body).length ≤ limit :=
    Nat.le_trans (Nat.le_of_lt cutShort) admits.fits
  rw [outcome?, phase_run brings short, make]
  cases answer.closed with
  | true =>
      rw [if_pos rfl, phase_onEnd_parsed (Response.parse_wire sendable body),
        framing_sized admits.unchunked admits.counted admits.fits, phase_onEnd_sized,
        if_pos cutShort]
      rfl
  | false =>
      rw [if_neg Bool.false_ne_true, admits.view sendable]
      simp only [completed, if_pos cutShort]
      rfl

/-- A head within the limit whose body is not to be read is refused at once, or crashes the exchange. -/
theorem fails_of_not_admitted (sendable : head.HeadSendable length)
    (rejected : ¬ Admits limit head length) (short : (head.headWire length).length ≤ limit)
    (brings : answer.Brings (head.headWire length ++ body)) :
    ∃ failure, (run limit answer).outcome? = some (.error failure) := by
  have begins : head.headWire length <+: head.headWire length ++ body := List.prefix_append _ body
  have parsed := Response.parse_wire sendable []
  rw [List.append_nil] at parsed
  have viewed : Exchange.view limit (head.headWire length) = _ := view_parsed parsed
  rw [framing_written] at viewed
  by_cases chunked : mentionsChunks head.headers = true
  · rw [if_pos chunked] at viewed
    exact ⟨_, outcome?_of_decided brings begins short viewed⟩
  · rw [if_neg chunked] at viewed
    split at viewed
    · exact ⟨_, outcome?_of_decided brings begins short viewed⟩
    · split at viewed
      · have decided : (viewing limit (head.headWire length)).isOver = true :=
          isOver_iff.mpr (Or.inr viewed)
        refine ⟨.abandoned, ?_⟩
        rw [outcome?, run_decided brings begins short decided, viewed]
        rfl
      · rename_i counted
        split at viewed
        · exact ⟨_, outcome?_of_decided brings begins short viewed⟩
        · rename_i fits
          exact absurd ⟨sendable.few, Bool.eq_false_iff.mpr chunked, Nat.le_of_not_lt fits,
            Nat.lt_of_not_le counted⟩ rejected

/-- What an exchange resolves with is a whole head and what stands behind it, within the limit or
overlooked. -/
theorem accounted_run {response : Response}
    (resolved : (run limit answer).outcome? = some (.ok response)) :
    ∃ head offset, Response.parse answer.octets = .ok (head, offset) ∧
      (offset + response.body.length ≤ limit ∨
        Overlooked (start limit) answer response head offset) := by
  have settled : (run limit answer).phase = .settled (.ok response) := by
    unfold outcome? at resolved
    split at resolved
    · rename_i phase
      cases resolved
      exact phase
    · cases resolved
    · cases resolved
  have nothing : (start limit).buffer.held = [] := by
    rw [start_eq]
    rfl
  rw [run] at settled
  rcases accounted_runFor answer.readBound (by rw [start_eq]; exact Nat.zero_le _)
    (by rw [start_eq]; exact ReadBuffer.fits_empty) (by rw [start_eq]; exact ReadBuffer.snug_empty)
    settled with ⟨head, offset, parsed, _, size⟩
  rw [nothing, List.nil_append] at parsed
  refine ⟨head, offset, parsed, ?_⟩
  rw [start_eq] at size ⊢
  exact size

/-- Fewer octets than are announced are never delivered. -/
theorem never_resolves_short (least : 100 ≤ head.status.code) (most : head.status.code ≤ 999)
    (fit : ∀ field ∈ head.headers.toList, Head.IsField field) (size : body.length < length)
    (brings : answer.Brings (head.headWire length ++ body)) (response : Response) :
    (run limit answer).outcome? ≠ some (.ok response) := by
  intro resolved
  rcases accounted_run resolved with ⟨read, offset, parsed, within⟩
  rw [brings.2] at parsed
  by_cases few : (head.sentFields length).length ≤ Head.maxFields
  · have sendable : head.HeadSendable length := ⟨least, most, fit, few⟩
    rw [Response.parse_wire sendable] at parsed
    cases parsed
    rcases within with within | overlooked
    · -- The head is within the limit, so what is made of it is made of it alone.
      have short : (head.headWire length).length ≤ limit := by omega
      by_cases admits : Admits limit head length
      · rw [admits.outcome_short sendable size brings] at resolved
        split at resolved <;> cases resolved
      · rcases fails_of_not_admitted sendable admits short brings with ⟨failure, failed⟩
        rw [failed] at resolved
        cases resolved
    · have announced := Response.contentLength_headReceived head length
      rw [overlooked.unannounced] at announced
      cases announced
  · rw [Response.parse_many least most fit (Nat.lt_of_not_le few)] at parsed
    cases parsed

end Exchange
end PromiseHttp
