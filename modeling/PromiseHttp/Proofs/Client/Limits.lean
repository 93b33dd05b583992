import PromiseHttp.Proofs.Client.Settlement

namespace PromiseHttp

/-!
# The size of a response

An exchange compares what it holds with its limit while the head is incomplete, when a length is
announced, and after every read of a body without a length.  Only the read that completes a head
without a length is not followed by a look at the limit.  So a response is within the limit, head
and body together, unless that read has brought all that the connection brings.  Such a response is
delivered however small the limit is; it is as long as one read can make it.
-/

namespace Exchange

variable {limit : Nat}

/-! ## What is within the limit -/

/-- What holds of an exchange whose limit has been looked at. -/
def Within (limit : Nat) (held : Octets) : ExchangePhase → Prop
  | .head => held.length ≤ limit
  | .sized head offset length =>
    Response.parse held = .ok (head, offset) ∧ offset + length ≤ limit
  | .unsized head offset =>
    Response.parse held = .ok (head, offset) ∧ held.length ≤ limit
  | .settled (.ok response) =>
    ∃ head offset, Response.parse held = .ok (head, offset) ∧
      response = head.withBody response.body ∧ offset + response.body.length ≤ limit
  | .settled (.error _) => True
  | .crashed => True

/-- The octets are more than the limit, and they begin with a head that announces no length. -/
structure Exceeds (limit : Nat) (held : Octets) (head : Response) (offset : Nat) : Prop where
  parsed : Response.parse held = .ok (head, offset)
  unannounced : head.headers.get? "content-length" = none
  long : limit < held.length

/-- A head is framed within the limit, or nobody looks at the limit. -/
theorem within_framing (limit : Nat) {held : Octets} {head : Response} {offset : Nat}
    (parsed : Response.parse held = .ok (head, offset)) :
    Within limit held (framing limit head offset) ∨
      framing limit head offset = .unsized head offset ∧ Exceeds limit held head offset := by
  unfold framing
  split
  · exact Or.inl trivial
  · cases named : head.headers.get? "content-length" with
    | none =>
        by_cases short : held.length ≤ limit
        · exact Or.inl ⟨parsed, short⟩
        · exact Or.inr ⟨rfl, parsed, named, Nat.lt_of_not_le short⟩
    | some announced =>
        refine Or.inl ?_
        dsimp only
        split
        · trivial
        · split
          · trivial
          · split
            · trivial
            · rename_i fits
              exact ⟨parsed, Nat.le_of_not_lt fits⟩

theorem within_completed (exchange : Exchange)
    (within : Within exchange.limit exchange.buffer.held exchange.phase) :
    Within exchange.limit exchange.buffer.held exchange.completed.phase := by
  unfold completed
  split
  · rename_i head offset length sized
    rw [sized] at within
    rcases within with ⟨parsed, fits⟩
    split
    · rw [sized]
      exact ⟨parsed, fits⟩
    · refine ⟨head, offset, parsed, rfl, ?_⟩
      have taken : ((exchange.buffer.held.drop offset).take length).length ≤ length :=
        List.length_take_le _ _
      exact Nat.le_trans (Nat.add_le_add_left taken offset) fits
  · exact within

theorem within_sought (exchange : Exchange) (seeking : exchange.phase = .head) :
    Within exchange.limit exchange.buffer.held exchange.sought.phase ∨
      ∃ head offset, exchange.sought.phase = .unsized head offset ∧
        Exceeds exchange.limit exchange.buffer.held head offset := by
  unfold sought
  split
  · rename_i head offset parsed
    rcases within_framing exchange.limit parsed with within | ⟨framed, exceeds⟩
    · exact Or.inl (within_completed _ within)
    · refine Or.inr ⟨head, offset, ?_, exceeds⟩
      rw [framed]
      rfl
  · refine Or.inl ?_
    split
    · trivial
    · rename_i short
      rw [seeking]
      exact Nat.le_of_not_lt short
  · exact Or.inl trivial

theorem Within.append {held : Octets} {outcome : Outcome Response}
    (within : Within limit held (.settled outcome)) (more : Octets) :
    Within limit (held ++ more) (.settled outcome) := by
  cases outcome with
  | error fault => trivial
  | ok response =>
      rcases within with ⟨head, offset, parsed, whole, fits⟩
      exact ⟨head, offset, Response.parse_append_ok parsed more, whole, fits⟩

theorem within_onEnd {exchange : Exchange}
    (within : Within exchange.limit exchange.buffer.held exchange.phase) :
    Within exchange.limit exchange.buffer.held exchange.onEnd.phase := by
  unfold onEnd
  split
  · trivial
  · trivial
  · rename_i head offset unsized
    rw [unsized] at within
    rcases within with ⟨parsed, short⟩
    refine ⟨head, offset, parsed, rfl, ?_⟩
    have begins := Response.offset_le_of_parse parsed
    simp only [Response.withBody, List.length_take, List.length_drop]
    omega
  · exact within
  · exact within

/-- More octets leave an exchange within its limit, unless they complete a head without a length. -/
theorem within_onOctets {exchange : Exchange} (piece : Octets)
    (within : Within exchange.limit exchange.buffer.held exchange.phase) :
    Within exchange.limit (exchange.buffer.held ++ piece) (exchange.onOctets piece).phase ∨
      exchange.phase = .head ∧ ∃ head offset,
        (exchange.onOctets piece).phase = .unsized head offset ∧
          Exceeds exchange.limit (exchange.buffer.held ++ piece) head offset := by
  rcases exchange with ⟨limit, buffer, phase⟩
  rw [← ReadBuffer.held_append]
  have further : ∀ {head offset}, Response.parse buffer.held = .ok (head, offset) →
      Response.parse (buffer.append piece).held = .ok (head, offset) := by
    intro head offset parsed
    rw [ReadBuffer.held_append]
    exact Response.parse_append_ok parsed piece
  cases phase with
  | head =>
      rcases within_sought ⟨limit, buffer.append piece, .head⟩ rfl with
        within | exceeds
      · exact Or.inl within
      · exact Or.inr ⟨rfl, exceeds⟩
  | sized head offset length =>
      refine Or.inl (within_completed ⟨limit, buffer.append piece, _⟩ ?_)
      exact ⟨further within.1, within.2⟩
  | unsized head offset =>
      refine Or.inl ?_
      unfold onOctets
      dsimp only
      split
      · trivial
      · rename_i short
        exact ⟨further within.1, Nat.le_of_not_lt short⟩
  | settled outcome =>
      rw [ReadBuffer.held_append]
      exact Or.inl (within.append piece)
  | crashed => exact Or.inl trivial

/-! ## What gets past the limit -/

/-- A response that is delivered without a look at the limit.  The read that completes its head
brings all that the connection brings. -/
structure Overlooked (exchange : Exchange) (inbound : Inbound) (response head : Response)
    (offset : Nat) : Prop where
  unannounced : head.headers.get? "content-length" = none
  closed : inbound.closed = true
  body : response.body = (exchange.buffer.held ++ inbound.octets).drop offset
  atOnce : ∃ reads, (runFor reads exchange inbound).phase = .head ∧
    (runFor (reads + 1) exchange inbound).phase = .unsized head offset ∧
    (runFor (reads + 1) exchange inbound).buffer.held = exchange.buffer.held ++ inbound.octets
  /-- One read brings no more than the storage has room for. -/
  bounded : offset + response.body.length ≤
    max ReadBuffer.initialCapacity (2 * exchange.limit)

/-- Past the limit an exchange goes on to nothing but the end. -/
theorem Exceeds.resolved {exchange : Exchange} {inbound : Inbound} {head response : Response}
    {offset : Nat} (exceeds : Exceeds exchange.limit exchange.buffer.held head offset)
    (unsized : exchange.phase = .unsized head offset) (fuel : Nat)
    (resolved : (runFor fuel exchange inbound).phase = .settled (.ok response)) :
    inbound.octets = [] ∧ inbound.closed = true ∧
      response = head.withBody (exchange.buffer.held.drop offset) := by
  cases fuel with
  | zero =>
      rw [runFor, unsized] at resolved
      cases resolved
  | succ fuel =>
      have goesOn : ¬ exchange.isOver = true := by
        rw [isOver, unsized]
        exact Bool.false_ne_true
      cases answer : inbound.read? exchange.buffer.room with
      | none =>
          rw [runFor_waits answer, unsized] at resolved
          cases resolved
      | some pair =>
          rcases pair with ⟨result, after⟩
          cases result with
          | octets piece =>
              have long : exchange.limit < (exchange.buffer.append piece).held.length := by
                rw [ReadBuffer.held_append, List.length_append]
                exact Nat.lt_add_right piece.length exceeds.long
              have refused : (exchange.onOctets piece).phase = refusal "response too large" := by
                simp only [onOctets, unsized, if_pos long]
              have finished : (exchange.onOctets piece).isOver = true := by
                rw [isOver, refused]
                rfl
              rw [runFor_onOctets goesOn answer, runFor_over _ finished, refused] at resolved
              cases resolved
          | ended =>
              rw [runFor_ended goesOn answer] at resolved
              simp only [onEnd, unsized, deliver] at resolved
              cases resolved
              rcases Inbound.exhausted_of_read? answer with ⟨exhausted, closed⟩
              refine ⟨exhausted, closed, ?_⟩
              rw [← List.length_drop, List.take_length]
          | failed fault =>
              rw [runFor_failed goesOn answer] at resolved
              cases resolved

/-- What is overlooked behind a read is overlooked. -/
theorem Overlooked.earlier {exchange : Exchange} {inbound after : Inbound} {piece : Octets}
    {response head : Response} {offset : Nat} (goesOn : ¬ exchange.isOver = true)
    (answer : inbound.read? exchange.buffer.room = some (.octets piece, after))
    (overlooked : Overlooked (exchange.onOctets piece) after response head offset) :
    Overlooked exchange inbound response head offset := by
  have held := held_onOctets exchange answer
  rcases overlooked with ⟨unannounced, closed, body, ⟨reads, seeking, unsized, all⟩, bounded⟩
  rw [held] at body all
  rw [limit_onOctets] at bounded
  refine ⟨unannounced, ?_, body, ⟨reads + 1, ?_, ?_, ?_⟩, bounded⟩
  · rw [← Inbound.closed_of_read? answer]
    exact closed
  · rw [runFor_onOctets goesOn answer]
    exact seeking
  · rw [runFor_onOctets goesOn answer]
    exact unsized
  · rw [runFor_onOctets goesOn answer]
    exact all

/-- A response is within the limit or has been overlooked. -/
def Accounted (exchange : Exchange) (inbound : Inbound) (response : Response) : Prop :=
  ∃ head offset, Response.parse (exchange.buffer.held ++ inbound.octets) = .ok (head, offset) ∧
    response = head.withBody response.body ∧
    (offset + response.body.length ≤ exchange.limit ∨
      Overlooked exchange inbound response head offset)

theorem Within.accounted {exchange : Exchange} {response : Response}
    (within : Within exchange.limit exchange.buffer.held (.settled (.ok response)))
    (inbound : Inbound) : Accounted exchange inbound response := by
  rcases within.append inbound.octets with ⟨head, offset, parsed, whole, fits⟩
  exact ⟨head, offset, parsed, whole, Or.inl fits⟩

/-- The read that takes an exchange past its limit is the only one that brings anything. -/
theorem Exceeds.overlooked {exchange : Exchange} {inbound after : Inbound} {piece : Octets}
    {head response : Response} {offset : Nat} {fuel : Nat} (seeking : exchange.phase = .head)
    (short : exchange.buffer.held.length ≤ exchange.limit) (fits : exchange.buffer.Fits)
    (snug : exchange.buffer.Snug)
    (answer : inbound.read? exchange.buffer.room = some (.octets piece, after))
    (exceeds : Exceeds exchange.limit (exchange.buffer.held ++ piece) head offset)
    (unsized : (exchange.onOctets piece).phase = .unsized head offset)
    (resolved : (runFor fuel (exchange.onOctets piece) after).phase = .settled (.ok response)) :
    Accounted exchange inbound response := by
  have goesOn : ¬ exchange.isOver = true := by
    rw [isOver, seeking]
    exact Bool.false_ne_true
  have held : (exchange.onOctets piece).buffer.held = exchange.buffer.held ++ piece := by
    rw [buffer_onOctets, ReadBuffer.held_append]
  have exceeds' : Exceeds (exchange.onOctets piece).limit (exchange.onOctets piece).buffer.held
      head offset := by
    rw [limit_onOctets, held]
    exact exceeds
  rcases exceeds'.resolved unsized fuel resolved with ⟨exhausted, closed, rfl⟩
  have all : (exchange.onOctets piece).buffer.held = exchange.buffer.held ++ inbound.octets := by
    rw [← held_onOctets exchange answer, exhausted, List.append_nil]
  have begins := Response.offset_le_of_parse exceeds'.parsed
  have stored := (snug.append fits (Inbound.length_of_read? answer)).2
  rw [← buffer_onOctets] at stored
  refine ⟨head, offset, ?_, rfl, Or.inr ?_⟩
  · rw [← all]
    exact exceeds'.parsed
  · refine ⟨exceeds.unannounced, ?_, ?_, ⟨0, seeking, ?_, ?_⟩, ?_⟩
    · rw [← Inbound.closed_of_read? answer]
      exact closed
    · rw [← all]
      rfl
    · rw [runFor_onOctets goesOn answer]
      exact unsized
    · rw [runFor_onOctets goesOn answer]
      exact all
    · simp only [Response.withBody, List.length_drop]
      omega

/-- What an exchange resolves its promise with is accounted for. -/
theorem accounted_runFor (fuel : Nat) {exchange : Exchange} {inbound : Inbound}
    {response : Response}
    (within : Within exchange.limit exchange.buffer.held exchange.phase)
    (fits : exchange.buffer.Fits) (snug : exchange.buffer.Snug)
    (resolved : (runFor fuel exchange inbound).phase = .settled (.ok response)) :
    Accounted exchange inbound response := by
  induction fuel generalizing exchange inbound with
  | zero =>
      rw [runFor] at resolved
      rw [resolved] at within
      exact within.accounted inbound
  | succ fuel inductionHypothesis =>
      by_cases ended : exchange.isOver = true
      · rw [runFor_over _ ended] at resolved
        rw [resolved] at within
        exact within.accounted inbound
      · cases answer : inbound.read? exchange.buffer.room with
        | none =>
            rw [runFor_waits answer] at resolved
            exact absurd (isOver_iff.mpr (Or.inl ⟨_, resolved⟩)) ended
        | some pair =>
            rcases pair with ⟨result, after⟩
            cases result with
            | octets piece =>
                rw [runFor_onOctets ended answer] at resolved
                have room := Inbound.length_of_read? answer
                rcases within_onOctets piece within with
                  within' | ⟨seeking, head, offset, unsized, exceeds⟩
                · rw [← ReadBuffer.held_append, ← buffer_onOctets, ← limit_onOctets exchange piece]
                    at within'
                  have later := inductionHypothesis within'
                    (by rw [buffer_onOctets]; exact fits.append room)
                    (by rw [buffer_onOctets]; exact (snug.append fits room).1) resolved
                  rcases later with ⟨head, offset, parsed, whole, size⟩
                  rw [held_onOctets exchange answer] at parsed
                  rw [limit_onOctets] at size
                  exact ⟨head, offset, parsed, whole,
                    size.imp_right (Overlooked.earlier ended answer)⟩
                · rw [seeking] at within
                  exact exceeds.overlooked seeking within fits snug answer unsized resolved
            | ended =>
                rw [runFor_ended ended answer] at resolved
                have within' := within_onEnd within
                rw [resolved] at within'
                exact within'.accounted inbound
            | failed fault =>
                rw [runFor_failed ended answer] at resolved
                cases resolved

/-- Whatever is held behind a head without a length is its body when the end is found. -/
theorem runFor_unsized_ended (exchange : Exchange) {head : Response} {offset : Nat}
    (unsized : exchange.phase = .unsized head offset) (fuel : Nat) :
    (runFor (fuel + 1) exchange ⟨[], true⟩).phase =
      .settled (.ok (head.withBody (exchange.buffer.held.drop offset))) := by
  have goesOn : ¬ exchange.isOver = true := by
    rw [isOver, unsized]
    exact Bool.false_ne_true
  have ends : (Inbound.mk [] true).read? exchange.buffer.room = some (.ended, ⟨[], true⟩) := rfl
  rw [runFor_ended goesOn ends]
  simp only [onEnd, unsized, deliver]
  rw [← List.length_drop, List.take_length]

/-- A short response without a length that comes in one chunk is delivered, whatever the limit. -/
theorem run_at_once (limit : Nat) {stream : Octets} {head : Response} {offset : Nat}
    (parsed : Response.parse stream = .ok (head, offset))
    (unchunked : mentionsChunks head.headers = false)
    (unannounced : head.headers.get? "content-length" = none)
    (small : stream.length ≤ ReadBuffer.initialCapacity) :
    (run limit (.ofArrivals [.octets stream])).outcome? =
      some (.ok (head.withBody (stream.drop offset))) := by
  have some_octet : stream ≠ [] := by
    rintro rfl
    cases parsed
  have arrives : Inbound.ofArrivals [.octets stream] = ⟨[.octets stream], true⟩ := by
    simp only [Inbound.ofArrivals, List.foldl_cons, List.foldl_nil, Inbound.feed, Inbound.close,
      Inbound.empty, List.isEmpty_iff, some_octet, if_false, List.nil_append]
  have bound : (Inbound.mk [.octets stream] true).readBound = stream.length + 2 := by
    simp only [Inbound.readBound, tally_cons, tally_nil]
    omega
  have framed : framing limit head offset = .unsized head offset := by
    simp only [framing, unchunked, unannounced, Bool.false_eq_true, if_false]
  have goesOn : ¬ (Exchange.mk limit .empty .head).isOver = true := Bool.false_ne_true
  have first : (Inbound.mk [.octets stream] true).read?
      (Exchange.mk limit .empty .head).buffer.room = some (.octets stream, ⟨[], true⟩) := by
    have room : (Exchange.mk limit .empty .head).buffer.room = ReadBuffer.initialCapacity := rfl
    have behind : stream.drop ReadBuffer.initialCapacity = [] := List.drop_eq_nil_of_le small
    simp only [Inbound.read?, room, behind, List.isEmpty_nil, if_true, List.take_of_length_le small]
  have held : (ReadBuffer.empty.append stream).held = stream := by
    rw [ReadBuffer.held_append, ReadBuffer.held_empty, List.nil_append]
  have read : (Exchange.mk limit .empty .head).onOctets stream =
      ⟨limit, ReadBuffer.empty.append stream, .unsized head offset⟩ := by
    simp only [onOctets, sought, held, parsed, framed, completed]
  have ended := runFor_unsized_ended
    ⟨limit, ReadBuffer.empty.append stream, .unsized head offset⟩ rfl stream.length
  rw [held] at ended
  rw [outcome?, arrives, run, bound, start_eq, runFor_onOctets goesOn first, read, ended]

end Exchange

namespace Client

open Exchange

/-- A response that a send is resolved with is within the limit, head and body together, unless the
read that completes its head brings all that the server sends. -/
theorem resolves_within_limit_unless_overlooked {client : Client} {draft : RequestDraft}
    {connect : Except IoFault Outbound} {answer : Inbound} {response : Response}
    (resolved : (client.send draft connect answer).outcome = some (.ok response)) :
    ∃ head offset, Response.parse answer.octets = .ok (head, offset) ∧
      response = head.withBody response.body ∧
      (offset + response.body.length ≤ client.settings.maxResponseSize ∨
        Overlooked (start client.settings.maxResponseSize) answer response head offset) := by
  have read : (run client.settings.maxResponseSize answer).phase = .settled (.ok response) := by
    unfold send at resolved
    split at resolved
    · cases resolved
    · split at resolved
      · cases resolved
      · split at resolved
        · cases resolved
        · unfold outcome? at resolved
          split at resolved
          · rename_i outcome settled
            cases resolved
            exact settled
          · cases resolved
          · cases resolved
  have begun : Within (start client.settings.maxResponseSize).limit
      (start client.settings.maxResponseSize).buffer.held
      (start client.settings.maxResponseSize).phase := by
    rw [start_eq]
    exact Nat.zero_le _
  have accounted := accounted_runFor answer.readBound begun
    (by rw [start_eq]; exact ReadBuffer.fits_empty) (by rw [start_eq]; exact ReadBuffer.snug_empty)
    read
  rcases accounted with ⟨head, offset, parsed, whole, size⟩
  have nothing : (start client.settings.maxResponseSize).buffer.held = [] := by
    rw [start_eq]
    rfl
  have limit : (start client.settings.maxResponseSize).limit = client.settings.maxResponseSize := by
    rw [start_eq]
  rw [nothing, List.nil_append] at parsed
  rw [limit] at size
  exact ⟨head, offset, parsed, whole, size⟩

/-- A response without a length. -/
def greetingAtOnce : Octets := Octets.encode "HTTP/1.1 200 OK\r\n\r\nhello world"

/-- The response as a client receives it. -/
def greeted : Response := ⟨.ok, .empty, Octets.encode "hello world", true⟩

theorem parse_greetingAtOnce :
    Response.parse greetingAtOnce = .ok (⟨.ok, .empty, [], true⟩, 19) := rfl

theorem send_greetingAtOnce {client : Client} (ready : client.isShutDown = false) :
    (client.send (.new .get "/") (.ok .empty) (.ofArrivals [.octets greetingAtOnce])).outcome =
      some (.ok greeted) := by
  have body : greetingAtOnce.drop 19 = Octets.encode "hello world" := by decide
  rw [send_connected ready, run_at_once _ parse_greetingAtOnce (by decide) (by decide) (by decide),
    body]
  rfl

/-- A client with a limit below the size of the response. -/
def frugal : Client := ⟨"h:80", ⟨1, 25⟩, false⟩

/-- The response exceeds the limit, so it has been overlooked. -/
theorem greeting_is_overlooked :
    (frugal.send (.new .get "/") (.ok .empty) (.ofArrivals [.octets greetingAtOnce])).outcome =
        some (.ok greeted) ∧
      ∃ head, Overlooked (start 25) (.ofArrivals [.octets greetingAtOnce]) greeted head 19 := by
  have sent : (frugal.send (.new .get "/") (.ok .empty)
      (.ofArrivals [.octets greetingAtOnce])).outcome = some (.ok greeted) :=
    send_greetingAtOnce rfl
  refine ⟨sent, ?_⟩
  obtain ⟨head, offset, parsed, _, size⟩ := resolves_within_limit_unless_overlooked sent
  have octets : (Inbound.ofArrivals [.octets greetingAtOnce]).octets = greetingAtOnce := rfl
  rw [octets, parse_greetingAtOnce] at parsed
  cases parsed
  rcases size with within | overlooked
  · exact absurd within (by decide)
  · exact ⟨_, overlooked⟩

/-- A response of thirty octets is delivered to a client whose limit is twenty-five. -/
theorem limit_does_not_hold :
    ∃ response, (frugal.send (.new .get "/") (.ok .empty)
        (.ofArrivals [.octets greetingAtOnce])).outcome = some (.ok response) ∧
      ∃ head offset, Response.parse greetingAtOnce = .ok (head, offset) ∧
        ¬ offset + response.body.length ≤ frugal.settings.maxResponseSize :=
  ⟨greeted, send_greetingAtOnce rfl, _, 19, parse_greetingAtOnce, by decide⟩

end Client

end PromiseHttp
