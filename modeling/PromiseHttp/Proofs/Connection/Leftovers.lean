import Mathlib.Data.List.Induction
import PromiseHttp.Proofs.Connection.Succession
import PromiseHttp.Proofs.Connection.Refusal

namespace PromiseHttp

/-!
# What is left behind a request

The read that completes a request may bring more than the end of the request.  What stands behind it is
kept for the next request, but it is not looked at before something else has been read.  So a connection
that is about to read holds no complete request, unless one was left behind the last request that was
taken.  Such a request waits for octets that it does not need: it is taken with the next read, if that
stays within the limit, and it is lost if the peer has nothing more to send.

The limit is compared with everything that is held after a read.  A request that is complete and within
the limit is taken then, unless what has come behind it carries the held octets beyond the limit.
-/

namespace Verdict

variable {limit : Nat} {held : Octets} {framed : FramedRequest}

/-- The verdict on octets that begin with a complete request. -/
theorem judge_of_first? (found : FramedRequest.first? held = some framed) :
    judge limit held =
      if limit < held.length then .refuse tooLarge
      else if Text.countBound ≤ framed.size then .overflow
      else .accept framed.request framed.size := by
  rcases FramedRequest.first?_eq_some.mp found with
    ⟨request, offset, length, parsed, announced, there, rfl⟩
  rw [FramedRequest.size_eq parsed there]
  unfold judge
  rw [parsed]
  simp only [ofRequest, announced, if_neg (Nat.not_lt_of_le there)]

/-- Whoever waits for more holds no complete request. -/
theorem first?_of_wait (waits : judge limit held = .wait) : FramedRequest.first? held = none := by
  cases found : FramedRequest.first? held with
  | none => rfl
  | some framed =>
      rw [judge_of_first? found] at waits
      split at waits
      · cases waits
      · split at waits <;> cases waits

/-- Nothing is no request. -/
theorem judge_nil (limit : Nat) : judge limit [] = .wait := by
  have nothing : Request.parse [] = .error .incomplete := rfl
  rw [judge, nothing]
  exact if_neg (Nat.not_lt_zero limit)

end Verdict

namespace Connection

/-! ## Reads -/

theorem pieces_append (connection : Connection) (events further : List Event) :
    connection.pieces (events ++ further) =
      connection.pieces events ++ (events.foldl occur connection).pieces further := by
  induction events generalizing connection with
  | nil => rfl
  | cons event events inductionHypothesis =>
      rw [List.cons_append, pieces, inductionHypothesis, pieces, List.append_assoc]
      rfl

/-- A piece is read by a connection that reads. -/
theorem read_of_mem_piecesIn {connection : Connection} {event : Event} {piece : Octets}
    (member : piece ∈ connection.piecesIn event) :
    connection.phase = .reading ∧ ∃ inbound,
      connection.inbound.read? connection.buffer.room = some (.octets piece, inbound) := by
  unfold piecesIn at member
  split at member
  · split at member
    · rename_i result inbound reading answer
      cases result with
      | octets other =>
          rw [brought, List.mem_singleton] at member
          subst member
          exact ⟨reading, inbound, answer⟩
      | ended => cases member
      | failed fault => cases member
    · cases member
  · cases member

/-- A connection that reads the end of a request within the limit takes the request. -/
theorem accepts_step {connection : Connection} (reading : connection.phase = .reading)
    {piece : Octets} {inbound : Inbound}
    (answer : connection.inbound.read? connection.buffer.room = some (.octets piece, inbound))
    {request : Request} {size : Nat}
    (accepted : Verdict.judge connection.limit (connection.buffer.held ++ piece) =
      .accept request size) (surroundings : Surroundings) :
    (connection.occur (.step surroundings)).buffer.held =
        (connection.buffer.held ++ piece).drop size ∧
      (connection.occur (.step surroundings)).phase =
        if surroundings.stopping then .ended .stopped else .cleared request := by
  have judged : Verdict.judge connection.limit (connection.buffer.append piece).held =
      .accept request size := by
    rw [ReadBuffer.held_append]
    exact accepted
  simp only [occur, advance?, reading, answer, Option.getD_some, onRead, consider, judged]
  split
  · exact ⟨by rw [finish, ReadBuffer.held_consume, ReadBuffer.held_append], rfl⟩
  · exact ⟨by rw [ReadBuffer.held_consume, ReadBuffer.held_append], rfl⟩

/-! ## Octets that are left behind -/

/-- The read of an event completes a request and brings some octets behind it. -/
def LeavesBehind (connection : Connection) (event : Event) (rest : Octets) : Prop :=
  ∃ piece ∈ connection.piecesIn event, ∃ framed,
    FramedRequest.first? (connection.buffer.held ++ piece) = some framed ∧
      rest = (connection.buffer.held ++ piece).drop framed.size ∧ rest ≠ []

/-- The octets were left behind a request in a history, and nothing has been read since. -/
def HasLeft (peer : PeerId) (limit : Nat) (events : List Event) (rest : Octets) : Prop :=
  ∃ before event later, events = before ++ event :: later ∧
    (after peer limit before).LeavesBehind event rest ∧
    (after peer limit (before ++ [event])).pieces later = []

theorem HasLeft.append {peer : PeerId} {limit : Nat} {events : List Event} {rest : Octets}
    (hasLeft : HasLeft peer limit events rest) {event : Event}
    (silent : (after peer limit events).piecesIn event = []) :
    HasLeft peer limit (events ++ [event]) rest := by
  rcases hasLeft with ⟨before, taking, later, rfl, leaves, unread⟩
  refine ⟨before, taking, later ++ [event], ?_, leaves, ?_⟩
  · rw [List.append_assoc, List.cons_append]
  · have here : later.foldl occur (after peer limit (before ++ [taking])) =
        after peer limit (before ++ taking :: later) := by
      rw [← after_append, List.append_assoc, List.singleton_append]
    rw [pieces_append, unread, here, pieces, silent]
    rfl

/-- Behind a read, a connection that has not ended waits for more, or has taken a request and left
something behind. -/
theorem held_read {connection : Connection} (reading : connection.phase = .reading)
    {result : ReadResult} {inbound : Inbound}
    (answer : connection.inbound.read? connection.buffer.room = some (result, inbound))
    (surroundings : Surroundings) :
    let next := onRead { connection with inbound := inbound } surroundings.stopping result
    (∃ ending, next.phase = .ended ending) ∨
      Verdict.judge connection.limit next.buffer.held = .wait ∨
      connection.LeavesBehind (.step surroundings) next.buffer.held := by
  cases result with
  | ended => exact Or.inl ⟨_, rfl⟩
  | failed fault => exact Or.inl ⟨_, rfl⟩
  | octets piece =>
      have held : (connection.buffer.append piece).held = connection.buffer.held ++ piece :=
        ReadBuffer.held_append connection.buffer piece
      dsimp only [onRead, consider]
      cases verdict : Verdict.judge connection.limit (connection.buffer.append piece).held with
      | wait => exact Or.inr (Or.inl verdict)
      | refuse response => exact Or.inl (phase_refuse _ response)
      | overflow => exact Or.inl ⟨_, rfl⟩
      | accept request size =>
          dsimp only
          split
          · exact Or.inl ⟨_, rfl⟩
          · right
            rcases Verdict.first?_of_accept verdict with ⟨_, framed, found, rfl, rfl⟩
            rw [held] at found
            rw [ReadBuffer.held_consume, held]
            by_cases nothing : (connection.buffer.held ++ piece).drop framed.size = []
            · rw [nothing]
              exact Or.inl (Verdict.judge_nil connection.limit)
            · refine Or.inr ⟨piece, ?_, framed, found, rfl, nothing⟩
              simp only [piecesIn, reading, answer, brought, List.mem_singleton]

/-- An event leaves what is held as it is, unless the connection reads. -/
theorem held_occur (connection : Connection) (event : Event) :
    (connection.piecesIn event = [] ∧
        (connection.occur event).buffer.held = connection.buffer.held) ∨
      (∃ ending, (connection.occur event).phase = .ended ending) ∨
      Verdict.judge connection.limit (connection.occur event).buffer.held = .wait ∨
      connection.LeavesBehind event (connection.occur event).buffer.held := by
  cases event with
  | send chunk => exact Or.inl ⟨rfl, rfl⟩
  | disturb fault => exact Or.inl ⟨rfl, rfl⟩
  | close => exact Or.inl ⟨rfl, rfl⟩
  | takeWrites budget => exact Or.inl ⟨rfl, rfl⟩
  | elapse time =>
      refine Or.inl ⟨rfl, ?_⟩
      rw [occur, elapse]
      split <;> rfl
  | letGo =>
      refine Or.inl ⟨rfl, ?_⟩
      rw [occur, letGo]
      split <;> rfl
  | step surroundings =>
      rw [occur]
      cases step : connection.advance? surroundings with
      | none => exact Or.inl ⟨piecesIn_of_stuck step, rfl⟩
      | some next =>
          cases moves_of_advance step with
          | read reading answer => exact Or.inr (held_read reading answer surroundings)
          | call cleared => exact Or.inl ⟨by simp only [piecesIn, cleared], rfl⟩
          | comeBack calling returns => exact Or.inl ⟨by simp only [piecesIn, calling], rfl⟩
          | reply replying =>
              refine Or.inl ⟨by simp only [piecesIn, replying], ?_⟩
              rw [Option.getD_some, buffer_reply]

/-- In every history, a connection that has not ended waits for more, or has left something behind that
it has not looked at. -/
theorem waits_or_hasLeft (peer : PeerId) (limit : Nat) (events : List Event) :
    (∃ ending, (after peer limit events).phase = .ended ending) ∨
      Verdict.judge limit (after peer limit events).buffer.held = .wait ∨
      HasLeft peer limit events (after peer limit events).buffer.held := by
  induction events using List.reverseRecOn with
  | nil => exact Or.inr (Or.inl (Verdict.judge_nil limit))
  | append_singleton events event inductionHypothesis =>
      have here : after peer limit (events ++ [event]) = (after peer limit events).occur event :=
        after_append peer limit events [event]
      rw [here]
      rcases held_occur (after peer limit events) event with
        ⟨silent, same⟩ | ended | waits | leaves
      · rcases inductionHypothesis with ⟨ending, ended⟩ | waits | hasLeft
        · exact Or.inl ⟨ending, (ended_occur ended event).1⟩
        · rw [same]
          exact Or.inr (Or.inl waits)
        · rw [same]
          exact Or.inr (Or.inr (hasLeft.append silent))
      · exact Or.inl ended
      · rw [limit_after] at waits
        exact Or.inr (Or.inl waits)
      · exact Or.inr (Or.inr ⟨events, event, [], rfl, leaves, rfl⟩)

/-! ## Complete requests -/

/-- A connection reads nothing where nothing has arrived: it waits, or ends if its peer has closed. -/
theorem occur_of_nothing {connection : Connection} (reading : connection.phase = .reading)
    (nothing : connection.inbound.queue = []) (surroundings : Surroundings) :
    connection.occur (.step surroundings) =
      if connection.inbound.closed then connection.finish .peerClosed else connection := by
  rw [occur, advance?, reading]
  unfold Inbound.read?
  rw [nothing]
  cases closed : connection.inbound.closed with
  | true => rfl
  | false => rfl

/-- A read that completes a request, or brings something behind it, lets the connection take the request
if all that is held then is within the limit, and refuse it if not. -/
theorem taken_or_refused {connection : Connection} {surroundings : Surroundings} {piece : Octets}
    (member : piece ∈ connection.piecesIn (.step surroundings)) {framed : FramedRequest}
    (found : FramedRequest.first? (connection.buffer.held ++ piece) = some framed)
    (counted : framed.size < Text.countBound) :
    let next := connection.occur (.step surroundings)
    ((connection.buffer.held ++ piece).length ≤ connection.limit →
      next.buffer.held = (connection.buffer.held ++ piece).drop framed.size ∧
      next.phase = if surroundings.stopping then .ended .stopped else .cleared framed.request) ∧
    (connection.limit < (connection.buffer.held ++ piece).length →
      connection.HasRefused Verdict.tooLarge next) := by
  rcases read_of_mem_piecesIn member with ⟨reading, inbound, answer⟩
  have judged := @Verdict.judge_of_first? connection.limit _ _ found
  constructor
  · intro within
    rw [if_neg (Nat.not_lt_of_le within), if_neg (Nat.not_le_of_lt counted)] at judged
    exact accepts_step reading answer judged surroundings
  · intro tooMuch
    rw [if_pos tooMuch] at judged
    exact hasRefused_step reading answer judged surroundings

/-- A connection that is about to read holds no complete request, unless the request was left behind
another and nothing has been read since.  Once something has been read, the complete request at the front
is taken exactly if everything that is held is within the limit: a request that is within the limit is
taken when nothing has come behind it, and is refused for its size when so much has come behind it that
the limit is exceeded.  If there is nothing to be read, the connection waits, or ends when its peer has
closed, whatever it holds. -/
theorem waits_unless_left_behind (peer : PeerId) (limit : Nat) (events : List Event)
    (reading : (after peer limit events).phase = .reading) :
    let connection := after peer limit events
    let held := connection.buffer.held
    (FramedRequest.first? held = none ∨ HasLeft peer limit events held) ∧
    (∀ surroundings, ∀ piece ∈ connection.piecesIn (.step surroundings), ∀ framed,
      FramedRequest.first? (held ++ piece) = some framed → framed.size < Text.countBound →
      let next := connection.occur (.step surroundings)
      ((held ++ piece).length ≤ limit →
        next.buffer.held = (held ++ piece).drop framed.size ∧
        next.phase = if surroundings.stopping then .ended .stopped else .cleared framed.request) ∧
      (limit < (held ++ piece).length → connection.HasRefused Verdict.tooLarge next)) ∧
    (connection.inbound.queue = [] → ∀ surroundings, connection.occur (.step surroundings) =
      if connection.inbound.closed then connection.finish .peerClosed else connection) := by
  refine ⟨?_, ?_, occur_of_nothing reading⟩
  · rcases waits_or_hasLeft peer limit events with ⟨ending, ended⟩ | waits | hasLeft
    · cases reading.symm.trans ended
    · exact Or.inl (Verdict.first?_of_wait waits)
    · exact Or.inr hasLeft
  · intro surroundings piece member framed found counted
    have fate := taken_or_refused member found counted
    rw [limit_after] at fate
    exact fate

/-! ## Peers that keep pace -/

/-- No read of a history brings anything behind the end of a request. -/
def KeepsPace (peer : PeerId) (limit : Nat) (events : List Event) : Prop :=
  ∀ before event later rest, events = before ++ event :: later →
    ¬ (after peer limit before).LeavesBehind event rest

/-- With a peer that sends nothing behind a request before the request has been read, a connection never
waits for what it has, and takes every request within the limit with the read that completes it. -/
theorem KeepsPace.served_at_once {peer : PeerId} {limit : Nat} {events : List Event}
    {surroundings : Surroundings} (pace : KeepsPace peer limit (events ++ [.step surroundings]))
    (reading : (after peer limit events).phase = .reading) :
    FramedRequest.first? (after peer limit events).buffer.held = none ∧
    ∀ piece ∈ (after peer limit events).piecesIn (.step surroundings), ∀ framed,
      FramedRequest.first? ((after peer limit events).buffer.held ++ piece) = some framed →
      framed.size ≤ limit → framed.size < Text.countBound →
      (after peer limit (events ++ [.step surroundings])).phase =
        if surroundings.stopping then .ended .stopped else .cleared framed.request := by
  constructor
  · rcases waits_or_hasLeft peer limit events with ⟨ending, ended⟩ | waits | hasLeft
    · cases reading.symm.trans ended
    · exact Verdict.first?_of_wait waits
    · rcases hasLeft with ⟨before, event, later, rfl, leaves, _⟩
      refine absurd leaves (pace before event (later ++ [.step surroundings]) _ ?_)
      rw [List.append_assoc, List.cons_append]
  · intro piece member framed found fits counted
    have nothing : ((after peer limit events).buffer.held ++ piece).drop framed.size = [] := by
      apply Classical.byContradiction
      intro some_octet
      exact pace events (.step surroundings) [] _ rfl
        ⟨piece, member, framed, found, rfl, some_octet⟩
    have within : ((after peer limit events).buffer.held ++ piece).length ≤
        (after peer limit events).limit := by
      rw [limit_after]
      exact Nat.le_trans (List.drop_eq_nil_iff.mp nothing) fits
    have taken := (taken_or_refused member found counted).1 within
    rw [after_append]
    exact taken.2

/-! ## Two requests in one chunk -/

namespace Pair

def first : Octets := Octets.encode "GET /a HTTP/1.1\r\n\r\n"

def second : Octets := Octets.encode "GET /b HTTP/1.1\r\n\r\n"

/-- A read, the call of the handler, its return and the reply. -/
def serving : List Event := List.replicate 4 (.step Conversation.surroundings)

/-- Both requests come at once, and the connection makes the steps for one. -/
def events : List Event := .send (first ++ second) :: serving

/-- The second request. -/
def framed : FramedRequest := ⟨⟨.get, "/b", none, .http11, .empty, []⟩, 19⟩

/-- The first octet of a third request comes behind them. -/
def later : List Event := events ++ [.send [71]]

theorem held_later : (after 0 100 later).buffer.held = second := by decide +kernel

theorem first?_second : FramedRequest.first? second = some framed := rfl

end Pair

/-- The second request is taken with the first octet of a third one. -/
theorem second_request_is_taken_late :
    (after 0 100 Pair.later).phase = .reading ∧
      (after 0 100 (Pair.later ++ [.step Conversation.surroundings])).phase =
        .cleared Pair.framed.request := by
  have reading : (after 0 100 Pair.later).phase = .reading := rfl
  have found : FramedRequest.first? ((after 0 100 Pair.later).buffer.held ++ [71]) =
      some Pair.framed := by
    rw [Pair.held_later]
    exact FramedRequest.first?_append Pair.first?_second [71]
  have within : ((after 0 100 Pair.later).buffer.held ++ [71]).length ≤ 100 := by
    rw [Pair.held_later]
    decide
  rcases waits_unless_left_behind 0 100 Pair.later reading with ⟨_, read, _⟩
  have taken := (read Conversation.surroundings [71] (List.mem_singleton.mpr rfl) Pair.framed found
    (by decide)).1 within
  refine ⟨reading, ?_⟩
  rw [after_append]
  exact taken.2

/-- The second of two requests that come at once is held and not served: the connection waits, and it
ends when the peer closes, having called its handler once.  If the limit is below both together, the
first is refused although it is within the limit. -/
theorem second_request_is_lost :
    ((after 0 100 Pair.events).phase = .reading ∧
      FramedRequest.first? (after 0 100 Pair.events).buffer.held = some Pair.framed ∧
      Pair.framed.size ≤ 100 ∧
      (after 0 100 Pair.events).advance? Conversation.surroundings = none ∧
      (after 0 100 (Pair.events ++ [.close, .step Conversation.surroundings])).phase =
        .ended .peerClosed ∧
      (after 0 100 (Pair.events ++ [.close, .step Conversation.surroundings])).handled.length = 1) ∧
    ∃ framed, FramedRequest.first? (Pair.first ++ Pair.second) = some framed ∧
      framed.size ≤ 30 ∧
      (after 0 30 Pair.events).phase = .ended .refused ∧
      (after 0 30 Pair.events).outbound.written = Verdict.tooLarge.wire ∧
      (after 0 30 Pair.events).handled = [] := by
  have held : (after 0 100 Pair.events).buffer.held = Pair.second := by decide +kernel
  refine ⟨⟨rfl, ?_, by decide, rfl, rfl, rfl⟩, _, rfl, by decide, rfl, by decide +kernel, rfl⟩
  rw [held]
  exact Pair.first?_second

end Connection
end PromiseHttp
