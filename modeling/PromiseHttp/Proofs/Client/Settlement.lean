import PromiseHttp.Proofs.Client.Decoding
import PromiseHttp.Proofs.Client.Resolving

namespace PromiseHttp

/-!
# Every send comes to an outcome

A server that closes its connection leaves nothing to wait for, so the exchange ends whatever the
server has sent.  It ends with a response or with a report of what went wrong, but for one case:
a head announces a body whose end lies beyond every count.  Then the exchange crashes, and the
promise of the send is abandoned instead of being rejected for the size of the body.

How the stream is cut decides whether a head longer than the limit is read at all, so a crash is
certain only for a head within the limit.
-/

/-- Whether an outcome is a response or tells what was wrong with the connection or the response. -/
def IsReport : Outcome Response → Prop
  | .ok _ => True
  | .error (.io _) => True
  | .error (.protocol _) => True
  | .error _ => False

namespace Exchange

/-- A head at the front announces a body that ends beyond every count. -/
def Overruns (stream : Octets) : Prop :=
  ∃ head offset length, Response.parse stream = .ok (head, offset) ∧
    mentionsChunks head.headers = false ∧ head.headers.contentLength? = some length ∧
    Text.countBound ≤ offset + length

variable {limit : Nat}

theorem Overruns.append {stream : Octets} (overruns : Overruns stream) (more : Octets) :
    Overruns (stream ++ more) := by
  rcases overruns with ⟨head, offset, length, parsed, rest⟩
  exact ⟨head, offset, length, Response.parse_append_ok parsed more, rest⟩

/-! ## What an exchange can end with -/

/-- An end is a report, or a crash over a length at the front of the octets. -/
def EndsWell (octets : Octets) : ExchangePhase → Prop
  | .settled outcome => IsReport outcome
  | .crashed => Overruns octets
  | _ => True

theorem EndsWell.append {octets : Octets} {phase : ExchangePhase} (well : EndsWell octets phase)
    (more : Octets) : EndsWell (octets ++ more) phase := by
  cases phase with
  | crashed => exact Overruns.append well more
  | settled outcome => exact well
  | head => trivial
  | sized head offset length => trivial
  | unsized head offset => trivial

/-- A head is framed, refused, or carries the end of the body beyond every count. -/
theorem endsWell_framing {octets : Octets} {head : Response} {offset : Nat}
    (parsed : Response.parse octets = .ok (head, offset)) :
    EndsWell octets (framing limit head offset) := by
  unfold framing
  split
  · trivial
  · rename_i unchunked
    cases named : head.headers.get? "content-length" with
    | none => trivial
    | some announced =>
        dsimp only
        cases read : Text.readNumeral Text.countBound (Text.trim announced) with
        | none => trivial
        | some length =>
            dsimp only
            by_cases counted : Text.countBound ≤ offset + length
            · rw [if_pos counted]
              refine ⟨head, offset, length, parsed, Bool.eq_false_iff.mpr unchunked, ?_, counted⟩
              rw [Headers.contentLength?, named]
              exact read
            · rw [if_neg counted]
              split <;> trivial

theorem endsWell_completed {octets : Octets} {exchange : Exchange}
    (well : EndsWell octets exchange.phase) : EndsWell octets exchange.completed.phase := by
  unfold completed
  split
  · split
    · exact well
    · trivial
  · exact well

theorem endsWell_sought {exchange : Exchange} (phase : exchange.phase = .head) :
    EndsWell exchange.buffer.held exchange.sought.phase := by
  unfold sought
  split
  · rename_i parsed
    exact endsWell_completed (endsWell_framing parsed)
  · split
    · trivial
    · rw [phase]
      trivial
  · trivial

theorem endsWell_onEnd {octets : Octets} {exchange : Exchange}
    (well : EndsWell octets exchange.phase) : EndsWell octets exchange.onEnd.phase := by
  unfold onEnd
  split
  · trivial
  · trivial
  · trivial
  · exact well
  · exact well

theorem endsWell_onOctets {exchange : Exchange} (piece : Octets)
    (well : EndsWell exchange.buffer.held exchange.phase) :
    EndsWell (exchange.buffer.held ++ piece) (exchange.onOctets piece).phase := by
  have later := well.append piece
  rcases exchange with ⟨limit, buffer, phase⟩
  rw [← ReadBuffer.held_append]
  rw [← ReadBuffer.held_append] at later
  cases phase with
  | head => exact endsWell_sought rfl
  | sized head offset length => exact endsWell_completed later
  | unsized head offset =>
      unfold onOctets
      dsimp only
      split <;> trivial
  | settled outcome => exact later
  | crashed => exact later

theorem endsWell_runFor (fuel : Nat) {exchange : Exchange} {inbound : Inbound}
    (well : EndsWell exchange.buffer.held exchange.phase) :
    EndsWell (exchange.buffer.held ++ inbound.octets) (runFor fuel exchange inbound).phase := by
  induction fuel generalizing exchange inbound with
  | zero => exact well.append _
  | succ fuel inductionHypothesis =>
      by_cases ended : exchange.isOver = true
      · rw [runFor_over _ ended]
        exact well.append _
      · cases answer : inbound.read? exchange.buffer.room with
        | none =>
            rw [runFor_waits answer]
            exact well.append _
        | some pair =>
            rcases pair with ⟨result, after⟩
            cases result with
            | octets piece =>
                rw [runFor_onOctets ended answer, ← held_onOctets exchange answer]
                apply inductionHypothesis
                rw [buffer_onOctets, ReadBuffer.held_append]
                exact endsWell_onOctets piece well
            | ended =>
                rw [runFor_ended ended answer]
                exact (endsWell_onEnd well).append _
            | failed fault =>
                rw [runFor_failed ended answer]
                trivial

/-! ## Coming to an end -/

/-- A closed connection answers every read, and the reads that it answers come to an end. -/
theorem isOver_runFor (fuel : Nat) {exchange : Exchange} {inbound : Inbound}
    (closed : inbound.closed = true) (fits : exchange.buffer.Fits)
    (enough : inbound.readBound ≤ fuel) : (runFor fuel exchange inbound).isOver = true := by
  induction fuel generalizing exchange inbound with
  | zero =>
      unfold Inbound.readBound at enough
      omega
  | succ fuel inductionHypothesis =>
      by_cases ended : exchange.isOver = true
      · rw [runFor_over _ ended]
        exact ended
      · cases answer : inbound.read? exchange.buffer.room with
        | none =>
            unfold Inbound.read? at answer
            split at answer
            · cases answer
            · cases answer
            · rw [if_pos closed] at answer
              cases answer
        | some pair =>
            rcases pair with ⟨result, after⟩
            cases result with
            | octets piece =>
                have shorter := Inbound.readBound_of_read? answer fits.room_pos
                rw [or_iff_left ReadResult.noConfusion] at shorter
                have closed' : after.closed = true := by
                  rw [Inbound.closed_of_read? answer]
                  exact closed
                rw [runFor_onOctets ended answer]
                refine inductionHypothesis closed' ?_ (by omega)
                rw [buffer_onOctets]
                exact fits.append (Inbound.length_of_read? answer)
            | ended =>
                rw [runFor_ended ended answer]
                exact isOver_onEnd exchange
            | failed fault =>
                rw [runFor_failed ended answer]
                rfl

theorem outcome?_of_goesOn {exchange : Exchange} (goesOn : exchange.isOver = false) :
    exchange.outcome? = none := by
  unfold isOver at goesOn
  unfold outcome?
  split at goesOn <;> first | rfl | cases goesOn

/-- An exchange that comes to an end comes to it with some read, has no outcome before, and keeps
the outcome from then on. -/
theorem settles_with_some_read (fuel : Nat) {exchange : Exchange} {inbound : Inbound}
    (ended : (runFor fuel exchange inbound).isOver = true) :
    ∃ last, ∀ reads, (runFor reads exchange inbound).outcome? =
      if reads < last then none else (runFor fuel exchange inbound).outcome? := by
  induction fuel generalizing exchange inbound with
  | zero =>
      refine ⟨0, fun reads => ?_⟩
      have finished : exchange.isOver = true := ended
      rw [if_neg (Nat.not_lt_zero reads), runFor_over reads finished, runFor]
  | succ fuel inductionHypothesis =>
      by_cases finished : exchange.isOver = true
      · refine ⟨0, fun reads => ?_⟩
        rw [if_neg (Nat.not_lt_zero reads), runFor_over reads finished, runFor_over (fuel + 1) finished]
      · have goesOn := Bool.eq_false_iff.mpr finished
        rw [runFor, if_neg finished] at ended ⊢
        cases answer : inbound.read? exchange.buffer.room with
        | none =>
            rw [answer] at ended
            exact absurd ended finished
        | some pair =>
            rcases pair with ⟨result, after⟩
            rw [answer] at ended
            rcases inductionHypothesis ended with ⟨last, settles⟩
            refine ⟨last + 1, fun reads => ?_⟩
            cases reads with
            | zero =>
                rw [if_pos (Nat.succ_pos last)]
                exact outcome?_of_goesOn goesOn
            | succ reads =>
                rw [runFor, if_neg finished, answer]
                simp only [settles reads, Nat.add_lt_add_iff_right]

/-! ## Crashes -/

/-- A head that overruns every count is read as far as the framing. -/
theorem view_overruns {front : Octets} (overruns : Overruns front) :
    view limit front = .crashed := by
  rcases overruns with ⟨head, offset, length, parsed, unchunked, announced, beyond⟩
  have framed : framing limit head offset = .crashed := by
    unfold Headers.contentLength? at announced
    unfold framing
    rw [if_neg (Bool.eq_false_iff.mp unchunked)]
    cases named : head.headers.get? "content-length" with
    | none =>
        rw [named] at announced
        cases announced
    | some value =>
        rw [named] at announced
        have read : Text.readNumeral Text.countBound (Text.trim value) = some length := announced
        simp only [read, if_pos beyond]
  rw [view_parsed parsed, framed, completed]

/-- A run crashes over a beginning of the stream within the limit. -/
theorem run_crashes {limit : Nat} {chunks : List Octets} {front : Octets}
    (begins : front <+: chunks.flatten) (short : front.length ≤ limit) (overruns : Overruns front) :
    (run limit (.ofArrivals (chunks.map .octets))).outcome? = some (.error .abandoned) := by
  have crashed : view limit front = .crashed := view_overruns overruns
  have decided : (viewing limit front).isOver = true := isOver_iff.mpr (Or.inr crashed)
  rw [outcome?, run_decided (Inbound.brings_ofArrivals chunks) begins short decided, crashed]

/-- What an exchange makes of a closed connection is a report, or a crash over what it brought. -/
theorem run_ends (limit : Nat) (chunks : List Octets) :
    ∃ outcome, (run limit (.ofArrivals (chunks.map .octets))).outcome? = some outcome ∧
      (IsReport outcome ∨ outcome = .error .abandoned ∧ Overruns chunks.flatten) := by
  have brings := Inbound.brings_ofArrivals chunks
  have well : EndsWell chunks.flatten
      (run limit (.ofArrivals (chunks.map .octets))).phase := by
    have begun : EndsWell (start limit).buffer.held (start limit).phase := by
      rw [start_eq]
      trivial
    have nothing : (start limit).buffer.held = [] := by
      rw [start_eq]
      rfl
    have ran := @endsWell_runFor (Inbound.ofArrivals (chunks.map .octets)).readBound _
      (Inbound.ofArrivals (chunks.map .octets)) begun
    rw [brings.2, nothing, List.nil_append] at ran
    exact ran
  have finished : (run limit (.ofArrivals (chunks.map .octets))).isOver = true :=
    isOver_runFor _ rfl (by rw [start_eq]; exact ReadBuffer.fits_empty) (Nat.le_refl _)
  rcases isOver_iff.mp finished with ⟨outcome, settled⟩ | crashed
  · rw [settled] at well
    exact ⟨outcome, by rw [outcome?, settled], Or.inl well⟩
  · rw [crashed] at well
    exact ⟨.error .abandoned, by rw [outcome?, crashed], Or.inr ⟨rfl, well⟩⟩

end Exchange

namespace Client

open Exchange

/-- A send of a client that is not shut down, to a server that sends some chunks and closes, comes
to one outcome: the promise is pending up to some read and has the outcome from then on.  The outcome
is a report unless a head announces a body that ends beyond every count; then, if that head
is within the limit and the request has been written, the exchange crashes. -/
theorem send_settles_unless_overrun {client : Client} (ready : client.isShutDown = false)
    (draft : RequestDraft) (connect : Except IoFault Outbound) (chunks : List Octets) :
    let answer := Inbound.ofArrivals (chunks.map .octets)
    let limit := client.settings.maxResponseSize
    (∃ outcome, (client.send draft connect answer).outcome = some outcome ∧
      (IsReport outcome ∨ outcome = .error .abandoned ∧ Overruns chunks.flatten)) ∧
    (∃ last, ∀ reads, (runFor reads (start limit) answer).outcome? =
      if reads < last then none else (run limit answer).outcome?) ∧
    ∀ front outbound, front <+: chunks.flatten → front.length ≤ limit → Overruns front →
      connect = .ok outbound → (∃ sent, outbound.write (draft.wire client.target) = .ok sent) →
        (client.send draft connect answer).outcome = some (.error .abandoned) := by
  dsimp only
  refine ⟨?_, ?_, ?_⟩
  · unfold send
    rw [if_neg (Bool.eq_false_iff.mp ready)]
    cases connect with
    | error fault => exact ⟨.error (.io fault), rfl, Or.inl trivial⟩
    | ok outbound =>
        dsimp only
        cases outbound.write (draft.wire client.target) with
        | error fault => exact ⟨.error (.io fault), rfl, Or.inl trivial⟩
        | ok sent => exact run_ends _ chunks
  · exact settles_with_some_read _ (isOver_runFor _ rfl
      (by rw [start_eq]; exact ReadBuffer.fits_empty) (Nat.le_refl _))
  · rintro front outbound begins short overruns rfl ⟨sent, written⟩
    unfold send
    rw [if_neg (Bool.eq_false_iff.mp ready)]
    simp only [written]
    exact run_crashes begins short overruns

/-- A client with the settings that it has when it is not told otherwise. -/
def visitor : Client := ⟨"h:80", .defaults, false⟩

/-- A response whose body is cut short comes in two chunks. -/
def cutShort : List Octets :=
  ["HTTP/1.1 200 OK\r\nContent-Len", "gth: 3\r\n\r\nhi"].map Octets.encode

/-- The client is told that the body is cut short, or something else that is wrong. -/
theorem cut_short_is_reported :
    visitor.isShutDown = false ∧
      ∃ outcome, (visitor.send (.new .get "/") (.ok .empty)
          (.ofArrivals (cutShort.map .octets))).outcome = some outcome ∧ IsReport outcome := by
  have ready : visitor.isShutDown = false := rfl
  refine ⟨ready, ?_⟩
  have settles := (send_settles_unless_overrun ready (.new .get "/") (.ok .empty) cutShort).1
  rcases settles with ⟨outcome, sent, report | ⟨_, overruns⟩⟩
  · exact ⟨outcome, sent, report⟩
  · rcases overruns with ⟨head, offset, length, parsed, _, announced, beyond⟩
    have same : Response.parse cutShort.flatten =
        .ok (⟨.ok, ⟨[("Content-Length", "3")]⟩, [], true⟩, 38) := rfl
    rw [same] at parsed
    cases parsed
    have three : Headers.contentLength? ⟨[("Content-Length", "3")]⟩ = some 3 := by decide
    cases three.symm.trans announced
    exact absurd beyond (by decide)

/-- A response that announces the greatest length that is readable. -/
def endless : List Octets :=
  [Octets.encode "HTTP/1.1 200 OK\r\nContent-Length: 18446744073709551615\r\n\r\nhi"]

/-- An announced length of every count but one abandons the promise, and nothing is reported. -/
theorem endless_body_is_not_reported :
    visitor.isShutDown = false ∧
      ¬ ∃ outcome, (visitor.send (.new .get "/") (.ok .empty)
          (.ofArrivals (endless.map .octets))).outcome = some outcome ∧ IsReport outcome := by
  have ready : visitor.isShutDown = false := rfl
  refine ⟨ready, ?_⟩
  have overruns : Overruns endless.flatten :=
    ⟨⟨.ok, ⟨[("Content-Length", "18446744073709551615")]⟩, [], true⟩, 57, 18446744073709551615,
      rfl, by decide, by decide, by decide⟩
  have short : endless.flatten.length ≤ visitor.settings.maxResponseSize := by decide
  have crashed := run_crashes (List.prefix_refl _) short overruns
  rintro ⟨outcome, sent, report⟩
  rw [send_connected ready, crashed] at sent
  cases sent
  exact report

end Client

end PromiseHttp
