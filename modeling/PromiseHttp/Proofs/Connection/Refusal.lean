import PromiseHttp.Proofs.Connection.Synchrony
import PromiseHttp.Proofs.Connection.Transcript
import PromiseHttp.Proofs.Http.LengthFields

namespace PromiseHttp

/-!
# Unreadable lengths

A head whose lines do not tell the length of the body leaves the place unknown where the next request
begins, so neither its request nor anything behind it should reach the handler.  A connection that comes
upon a head whose texts are unreadable writes one refusal, which announces the close, and ends.  Mostly
the refusal says that the length is unreadable; when more is held than the connection may hold, it says
that instead.

That is short of what is due in one way.  A line whose value is not text is lost before the length is
looked for.  It tells the length no better than a misspelt one, but the connection goes by the lines that
are left, and takes a body for the next request if there are none.  (A plus sign or a blank that is no
space in front of the digits is let through as well; there the length is told.)
-/

/-- The request of a head that is unreadable is refused, whatever is held behind the head. -/
theorem Verdict.judge_unreadable {held rest : Octets} {head : Head.RequestHead}
    (found : Head.readRequest held = .found head rest) (unreadable : Head.Unreadable head.fields)
    (limit : Nat) :
    limit < held.length ∧ judge limit held = .refuse tooLarge ∨
      held.length ≤ limit ∧ ∃ text, Head.StatesLength head.fields text ∧
        judge limit held = .refuse (badRequest (.invalidContentLength text)) := by
  unfold judge
  by_cases tooMuch : limit < held.length
  · exact Or.inl ⟨tooMuch, if_pos tooMuch⟩
  · refine Or.inr ⟨Nat.le_of_not_lt tooMuch, ?_⟩
    rcases (Request.bodyLength_eq_error_iff head rest).mpr unreadable with ⟨fault, refused⟩
    rcases (Request.bodyLength_eq_error refused).2 with ⟨text, states, rfl⟩
    refine ⟨text, states, ?_⟩
    rw [if_neg tooMuch, Request.parse_of_found found]
    simp only [ofRequest, refused]

namespace Connection

variable {connection : Connection}

/-- The refusal of octets at whose front there is a head with such lines: they are too many, or one of
the lines is at fault. -/
def IsLengthRefusal (limit : Nat) (held : Octets) (fields : List Head.RawField)
    (response : Response) : Prop :=
  limit < held.length ∧ response = Verdict.tooLarge ∨
    held.length ≤ limit ∧ ∃ text, Head.StatesLength fields text ∧
      response = Verdict.badRequest (.invalidContentLength text)

/-- A connection has ended with a refusal, and has called its handler no more.  If the peer did not take
the refusal, only a part of it has been written. -/
def HasRefused (connection : Connection) (response : Response) (next : Connection) : Prop :=
  next.handled = connection.handled ∧
    (next.phase = .ended .refused ∧
        next.outbound.written = connection.outbound.written ++ response.wire ∨
      ∃ fault part, connection.outbound.write response.wire = .error fault ∧
        next.phase = .ended (.failed (.io fault)) ∧ part <+: response.wire ∧
        part.length < response.wire.length ∧
        next.outbound.written = connection.outbound.written ++ part)

theorem hasRefused_refuse (connection : Connection) (response : Response) :
    connection.HasRefused response (connection.refuse response) := by
  unfold refuse
  cases write : connection.outbound.write response.wire with
  | ok outbound => exact ⟨rfl, Or.inl ⟨rfl, Outbound.written_of_write write⟩⟩
  | error fault =>
      rcases Outbound.written_tear write with ⟨part, written, begins, short⟩
      exact ⟨rfl, Or.inr ⟨fault, part, write, rfl, begins, short, written⟩⟩

/-- A refusal is final. -/
theorem HasRefused.occurAll {response : Response} {next : Connection}
    (refused : connection.HasRefused response next) (later : List Event) :
    connection.HasRefused response (later.foldl occur next) := by
  rcases refused with
    ⟨handled, ⟨ended, written⟩ | ⟨fault, part, fails, ended, begins, short, written⟩⟩
  · rcases ended_occurAll later ended with ⟨ended', written', handled', _⟩
    exact ⟨handled'.trans handled, Or.inl ⟨ended', written'.trans written⟩⟩
  · rcases ended_occurAll later ended with ⟨ended', written', handled', _⟩
    exact ⟨handled'.trans handled,
      Or.inr ⟨fault, part, fails, ended', begins, short, written'.trans written⟩⟩

/-- A connection that reads octets that have to be refused refuses them. -/
theorem hasRefused_step (reading : connection.phase = .reading) {piece : Octets} {inbound : Inbound}
    (answer : connection.inbound.read? connection.buffer.room = some (.octets piece, inbound))
    {response : Response}
    (refuses : Verdict.judge connection.limit (connection.buffer.held ++ piece) = .refuse response)
    (surroundings : Surroundings) :
    connection.HasRefused response (connection.occur (.step surroundings)) := by
  have judged : Verdict.judge connection.limit (connection.buffer.append piece).held =
      .refuse response := by
    rw [ReadBuffer.held_append]
    exact refuses
  simp only [occur, advance?, reading, answer, Option.getD_some, onRead, consider, judged]
  exact hasRefused_refuse { connection with
    inbound := inbound, buffer := connection.buffer.append piece, phase := .reading } response

/-- A connection that reads octets with a head at their front whose texts tell the length goes by it, and
refuses nothing. -/
theorem passes_step (reading : connection.phase = .reading) {piece : Octets} {inbound : Inbound}
    (answer : connection.inbound.read? connection.buffer.room = some (.octets piece, inbound))
    {head : Head.RequestHead} {rest : Octets}
    (found : Head.readRequest (connection.buffer.held ++ piece) = .found head rest)
    (within : (connection.buffer.held ++ piece).length ≤ connection.limit)
    (readable : ¬ Head.Unreadable head.fields) :
    ∃ length, Head.Tells head.fields length ∧
      ∀ surroundings : Surroundings,
        (connection.occur (.step surroundings)).outbound = connection.outbound ∧
        (connection.occur (.step surroundings)).ending? ≠ some .refused ∧
        let size := (connection.buffer.held ++ piece).length - rest.length + length
        (surroundings.stopping = false → size < Text.countBound →
          size ≤ (connection.buffer.held ++ piece).length →
          (connection.occur (.step surroundings)).phase =
            .cleared ((Request.ofHead head rest).truncateBody length)) := by
  have announced : ∃ length, (Request.ofHead head rest).bodyLength = .ok length := by
    cases told : (Request.ofHead head rest).bodyLength with
    | ok length => exact ⟨length, rfl⟩
    | error fault =>
        exact absurd ((Request.bodyLength_eq_error_iff head rest).mp ⟨fault, told⟩) readable
  rcases announced with ⟨length, announced⟩
  refine ⟨length, Request.tells_of_bodyLength announced, fun surroundings => ?_⟩
  have judged : Verdict.judge connection.limit (connection.buffer.append piece).held =
      Verdict.ofRequest (connection.buffer.held ++ piece).length (Request.ofHead head rest)
        ((connection.buffer.held ++ piece).length - rest.length) := by
    rw [ReadBuffer.held_append, Verdict.judge, if_neg (Nat.not_lt_of_le within),
      Request.parse_of_found found]
  simp only [occur, advance?, reading, answer, Option.getD_some, onRead, consider, judged,
    Verdict.ofRequest, announced]
  by_cases beyond : Text.countBound ≤
      (connection.buffer.held ++ piece).length - rest.length + length
  · rw [if_pos beyond]
    exact ⟨rfl, by rintro ⟨⟩, fun _ below => absurd beyond (Nat.not_le_of_lt below)⟩
  · rw [if_neg beyond]
    by_cases short : (connection.buffer.held ++ piece).length <
        (connection.buffer.held ++ piece).length - rest.length + length
    · rw [if_pos short]
      exact ⟨rfl, by rintro ⟨⟩, fun _ _ there => absurd short (Nat.not_lt_of_le there)⟩
    · rw [if_neg short]
      cases stops : surroundings.stopping with
      | true => exact ⟨rfl, by rintro ⟨⟩, fun running => Bool.noConfusion running⟩
      | false => exact ⟨rfl, by rintro ⟨⟩, fun _ _ _ => rfl⟩

/-- What the handler is called with has a head from which the length can be read. -/
theorem handed_readable (peer : PeerId) (limit : Nat) (events : List Event) {request : Request}
    (handed : request ∈ (after peer limit events).handed) :
    ∃ before behind head rest length, stream events = before ++ behind ∧
      Head.readRequest behind = .found head rest ∧
      request = (Request.ofHead head rest).truncateBody length ∧
      ¬ Head.Unreadable head.fields := by
  rcases (inStep_new peer limit).occurAll events with ⟨taken, served, accounts⟩
  rcases accounts.handed_begins with ⟨handedOver, begins, same, _⟩
  have among : request ∈ handedOver.map FramedRequest.request := same ▸ handed
  rcases List.mem_map.mp among with ⟨framed, member, rfl⟩
  rcases FramedRequest.first?_of_mem_decode (begins.subset member) with
    ⟨before, behind, divided, found⟩
  rcases FramedRequest.first?_eq_some.mp found with
    ⟨request, offset, length, parsed, announced, there, rfl⟩
  rcases Request.found_of_parse parsed with ⟨head, read, rfl, _, _⟩
  refine ⟨before, behind, head, _, length, divided, read, rfl, ?_⟩
  intro unreadable
  rcases (Request.bodyLength_eq_error_iff head _).mpr unreadable with ⟨fault, refused⟩
  cases announced.symm.trans refused

/-- A length is refused exactly if the texts that state it are unreadable.  What the handler is called
with has a head whose texts tell the length.  When a connection reads octets that complete a head whose
texts do not, it writes one refusal, which announces the close, and ends, and whatever happens then the
handler is not called again.  When it reads octets within the limit that complete any other head, it
refuses nothing, though there may be lines that tell no length and are not text: it goes by the length
that the texts tell, and by none if there are none. -/
theorem refuses_exactly_unreadable_texts (peer : PeerId) (limit : Nat) (events : List Event) :
    (∀ request ∈ (after peer limit events).handed, ∃ before behind head rest length,
      stream events = before ++ behind ∧ Head.readRequest behind = .found head rest ∧
      request = (Request.ofHead head rest).truncateBody length ∧
      ¬ Head.Unreadable head.fields) ∧
    ∀ piece inbound head rest, (after peer limit events).phase = .reading →
      (after peer limit events).inbound.read? (after peer limit events).buffer.room =
        some (.octets piece, inbound) →
      let held := (after peer limit events).buffer.held ++ piece
      Head.readRequest held = .found head rest →
      (Head.Unreadable head.fields →
        ∃ response, IsLengthRefusal limit held head.fields response ∧
          (Answer.ofResponse response).received.Delimits response.wire ∧
          (Answer.ofResponse response).received.keepAlive = false ∧
          ∀ surroundings later, (after peer limit events).HasRefused response
            (after peer limit (events ++ .step surroundings :: later))) ∧
      (¬ Head.Unreadable head.fields → held.length ≤ limit →
        ∃ length, Head.Tells head.fields length ∧
          ∀ surroundings : Surroundings,
            let next := after peer limit (events ++ [.step surroundings])
            next.outbound = (after peer limit events).outbound ∧ next.ending? ≠ some .refused ∧
            let size := held.length - rest.length + length
            (surroundings.stopping = false → size < Text.countBound → size ≤ held.length →
              next.phase = .cleared ((Request.ofHead head rest).truncateBody length))) := by
  constructor
  · intro request handed
    exact handed_readable peer limit events handed
  intro piece inbound head rest reading answer held found
  have bound : (after peer limit events).limit = limit := limit_after peer limit events
  constructor
  · intro unreadable
    have refuses : ∃ response, IsLengthRefusal limit held head.fields response ∧
        Verdict.judge limit held = .refuse response := by
      rcases Verdict.judge_unreadable found unreadable limit with
        ⟨tooMuch, refuses⟩ | ⟨within, text, states, refuses⟩
      · exact ⟨_, Or.inl ⟨tooMuch, rfl⟩, refuses⟩
      · exact ⟨_, Or.inr ⟨within, text, states, rfl⟩, refuses⟩
    rcases refuses with ⟨response, isRefusal, refuses⟩
    rcases (isRefusal_of_judge refuses).sendable with ⟨sendable, closes⟩
    refine ⟨response, isRefusal, sendable.delimits, closes, ?_⟩
    intro surroundings later
    have judged : Verdict.judge (after peer limit events).limit held = .refuse response := by
      rw [bound]
      exact refuses
    have refused := (hasRefused_step reading answer judged surroundings).occurAll later
    rw [after_append]
    exact refused
  · intro readable within
    have within' : held.length ≤ (after peer limit events).limit := by
      rw [bound]
      exact within
    rcases passes_step reading answer found within' readable with ⟨length, tells, passes⟩
    refine ⟨length, tells, fun surroundings => ?_⟩
    rw [after_append]
    exact passes surroundings

/-! ## Plain lengths

A length is plain if its octets are digits and nothing else.  If every line that is not plain had to be
refused, a connection would fail to do so in two ways: it lets a sign and a blank through, by which a
length is told all the same, and it overlooks octets that are no text, by which none is told.  Besides,
too many octets are refused for being too many. -/

/-- The count of 64 bits that octets spell in digits and nothing else. -/
def plainLength? (value : Octets) : Option Nat :=
  if value.isEmpty || !value.all Head.isDigitOctet then none
  else
    let count := Nat.ofDigitChars 10 (value.map fun octet => Char.ofNat octet.toNat) 0
    if count < Text.countBound then some count else none

/-- The lengths that the lines named `Content-Length` state, none for a line that is not plain. -/
def plainLengths (fields : List Head.RawField) : List (Option Nat) :=
  (fields.filter fun field =>
    (Octets.decode? field.1).any (Text.sameLetters · "content-length")).map fun field =>
      plainLength? field.2

/-- At the front stands a head within the limit, with a line that is not plain or with lines that state
different lengths. -/
def BeginsAmbiguously (limit : Nat) (octets : Octets) : Prop :=
  ∃ head rest, Head.readRequest octets = .found head rest ∧ octets.length - rest.length ≤ limit ∧
    (none ∈ plainLengths head.fields ∨
      ∃ one ∈ plainLengths head.fields, ∃ other ∈ plainLengths head.fields, one ≠ other)

namespace LengthLines

/-- A line of another kind, a line with this value, and three octets behind the end of the head. -/
def posting (value : Octets) : Octets :=
  Octets.encode "POST / HTTP/1.1\r\nHost: h\r\ncontent-LENGTH: " ++ value ++
    Octets.encode "\r\n\r\nabc"

def head (value : Octets) : Head.RequestHead :=
  ⟨"POST", "/", .http11,
    [(Octets.encode "Host", Octets.encode "h"), (Octets.encode "content-LENGTH", value)]⟩

/-- The value is misspelt. -/
def misspelt : Octets := posting (Octets.encode "3x")

/-- There is a sign. -/
def signed : Octets := posting (Octets.encode "+3")

/-- There is a blank that is no space. -/
def spaced : Octets := posting (Octets.encode "\u00A03")

/-- The value is not text. -/
def garbled : Octets := posting [0xFF]

theorem readRequest_misspelt :
    Head.readRequest misspelt = .found (head (Octets.encode "3x")) (Octets.encode "abc") := rfl

theorem unreadable_misspelt : Head.Unreadable (head (Octets.encode "3x")).fields := by
  refine Or.inl ⟨"3x", ⟨"content-LENGTH", by decide, ?_⟩, Request.lengthOf?_eq_none.mp (by decide)⟩
  exact List.mem_cons_of_mem _ List.mem_cons_self

/-- A line that is not plain makes a posting ambiguous. -/
theorem beginsAmbiguously {limit : Nat} {value : Octets}
    (found : Head.readRequest (posting value) = .found (head value) (Octets.encode "abc"))
    (within : (posting value).length - (Octets.encode "abc").length ≤ limit)
    (plain : none ∈ plainLengths (head value).fields) : BeginsAmbiguously limit (posting value) :=
  ⟨head value, Octets.encode "abc", found, within, Or.inl plain⟩

end LengthLines

/-- A letter behind the digits of a length is not passed over. -/
theorem misspelt_length_is_refused :
    ∃ response, (Answer.ofResponse response).received.keepAlive = false ∧
      ∀ surroundings later,
        (after 0 100 [.send LengthLines.misspelt]).HasRefused response
          (after 0 100 ([.send LengthLines.misspelt] ++ .step surroundings :: later)) := by
  have reading : (after 0 100 [.send LengthLines.misspelt]).phase = .reading := rfl
  have answer : (after 0 100 [.send LengthLines.misspelt]).inbound.read?
      (after 0 100 [.send LengthLines.misspelt]).buffer.room =
        some (.octets LengthLines.misspelt, ⟨[], false⟩) := by
    decide
  rcases ((refuses_exactly_unreadable_texts 0 100 [.send LengthLines.misspelt]).2 _ _ _ _ reading
    answer LengthLines.readRequest_misspelt).1 LengthLines.unreadable_misspelt with
    ⟨response, _, _, closes, refused⟩
  exact ⟨response, closes, refused⟩

/-- Three ambiguous heads lead to calls of the handler, and a fourth is refused for another reason. -/
theorem ambiguous_length_is_handled :
    (BeginsAmbiguously 100 LengthLines.signed ∧
      (after 0 100 [.send LengthLines.signed, .step Conversation.surroundings,
        .step Conversation.surroundings]).handled.length = 1) ∧
    (BeginsAmbiguously 100 LengthLines.spaced ∧
      (after 0 100 [.send LengthLines.spaced, .step Conversation.surroundings,
        .step Conversation.surroundings]).handled.length = 1) ∧
    (BeginsAmbiguously 100 LengthLines.garbled ∧
      (after 0 100 [.send LengthLines.garbled, .step Conversation.surroundings,
        .step Conversation.surroundings]).handled.length = 1) ∧
    (BeginsAmbiguously 50 LengthLines.misspelt ∧
      (after 0 50 [.send LengthLines.misspelt, .step Conversation.surroundings]).outbound.written =
        Verdict.tooLarge.wire) := by
  refine ⟨⟨?_, ?_⟩, ⟨?_, ?_⟩, ⟨?_, ?_⟩, ⟨?_, ?_⟩⟩
  · exact LengthLines.beginsAmbiguously rfl (by decide) (by decide)
  · decide
  · exact LengthLines.beginsAmbiguously rfl (by decide) (by decide)
  · decide
  · exact LengthLines.beginsAmbiguously rfl (by decide) (by decide)
  · decide
  · exact LengthLines.beginsAmbiguously rfl (by decide) (by decide)
  · decide

end Connection
end PromiseHttp
