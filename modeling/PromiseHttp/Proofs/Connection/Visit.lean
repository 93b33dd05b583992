import PromiseHttp.Proofs.Connection.Labour

namespace PromiseHttp

/-!
# A connection with one request

A peer that sends one request, asks for the close behind it and sends nothing else makes the handler
run once and gets the reply.  While the request is incomplete the connection waits, however the
octets are cut, because no beginning of a complete request is refused or taken for a request.  When
the last octet has been read the request is accepted, and the steps behind that lead to the end.
-/

/-- The octets are one complete request, and a connection can hold it. -/
structure Request.IsWhole (request : Request) (limit : Nat) (wire : Octets) : Prop where
  parsed : ∃ offset, Request.parse wire = .ok (request, offset) ∧
    offset + request.body.length = wire.length
  announced : request.bodyLength = .ok request.body.length
  fits : wire.length ≤ limit
  countable : limit < Text.countBound

namespace Verdict

variable {limit : Nat} {wire : Octets} {request : Request}

/-- A complete request is accepted. -/
theorem judge_whole (whole : request.IsWhole limit wire) :
    judge limit wire = .accept request wire.length := by
  rcases whole.parsed with ⟨offset, parsed, length⟩
  have within : ¬ limit < wire.length := Nat.not_lt_of_le whole.fits
  have countable : ¬ Text.countBound ≤ wire.length :=
    Nat.not_le_of_lt (Nat.lt_of_le_of_lt whole.fits whole.countable)
  have own : request.truncateBody request.body.length = request := by
    rw [Request.truncateBody, List.take_length]
  simp only [judge, if_neg within, parsed, ofRequest, whole.announced, length, if_neg countable,
    Nat.lt_irrefl, if_false, own]

/-- A beginning of a complete request has to wait for the rest. -/
theorem judge_part (whole : request.IsWhole limit wire) {held more : Octets}
    (divided : wire = held ++ more) (further : more ≠ []) : judge limit held = .wait := by
  rcases whole.parsed with ⟨offset, parsed, length⟩
  have shorter : held.length < wire.length := by
    have positive := List.length_pos_iff.mpr further
    rw [divided, List.length_append]
    omega
  have within : ¬ limit < held.length := by
    have fits := whole.fits
    omega
  unfold judge
  rw [if_neg within]
  cases part : Request.parse held with
  | error fault =>
      by_cases undecided : fault = .incomplete
      · subst undecided
        rfl
      · rw [divided, Request.parse_append_refused part undecided more] at parsed
        cases parsed
  | ok pair =>
      rcases pair with ⟨beginning, place⟩
      have again := Request.parse_append part more
      rw [← divided, parsed] at again
      injection again with same
      injection same with same place'
      have announced : beginning.bodyLength = .ok request.body.length := by
        rw [← whole.announced, same]
        rfl
      have countable : ¬ Text.countBound ≤ wire.length :=
        Nat.not_le_of_lt (Nat.lt_of_le_of_lt whole.fits whole.countable)
      simp only [ofRequest, announced, ← place', length, if_neg countable, if_pos shorter]

end Verdict

namespace Connection

variable {limit : Nat} {wire : Octets} {request : Request} {calls : HandlerCall → Prop}

/-- How far a connection has come with its one request, of which something may not have been sent
yet.  The handler has made one of the given calls, or none. -/
def Stage (wire : Octets) (request : Request) (calls : HandlerCall → Prop)
    (connection : Connection) (unsent : Octets) : Prop :=
  match connection.phase with
  | .reading =>
    connection.handled = [] ∧ connection.outbound = .empty ∧ connection.inbound.closed = false ∧
      ∃ unread, connection.inbound.Brings unread ∧
        wire = connection.buffer.held ++ (unread ++ unsent) ∧ unread ++ unsent ≠ []
  | .cleared asked =>
    asked = request ∧ unsent = [] ∧ connection.handled = [] ∧ connection.outbound = .empty
  | .calling asked call _ =>
    asked = request ∧ unsent = [] ∧ calls call ∧ connection.handled = [(request, call)] ∧
      connection.outbound = .empty
  | .replying asked call =>
    asked = request ∧ unsent = [] ∧ calls call ∧ connection.handled = [(request, call)] ∧
      connection.outbound = .empty
  | .ended _ =>
    unsent = [] ∧ ∃ call response, calls call ∧ call.reply false = .ok (.message response) ∧
      connection.handled = [(request, call)] ∧ connection.outbound.written = response.wire

/-- A connection in the course of its one request. -/
structure Visits (limit : Nat) (wire : Octets) (request : Request) (calls : HandlerCall → Prop)
    (connection : Connection) (unsent : Octets) : Prop where
  bound : connection.limit = limit
  fits : connection.buffer.Fits
  stage : Stage wire request calls connection unsent

/-- A new connection has its request before it. -/
theorem visits_new (peer : PeerId) (whole : request.IsWhole limit wire) :
    Visits limit wire request calls (Connection.new peer limit) wire := by
  have nonempty : wire ≠ [] := by
    rcases whole.parsed with ⟨offset, parsed, _⟩
    rintro rfl
    cases parsed
  exact ⟨rfl, ReadBuffer.fits_empty, rfl, rfl, rfl, [], Inbound.brings_empty, rfl, nonempty⟩

/-! ## What the peer does -/

/-- A chunk that is sent has not been sent any more. -/
theorem Visits.send {connection : Connection} {chunk unsent : Octets}
    (visits : Visits limit wire request calls connection (chunk ++ unsent)) :
    Visits limit wire request calls
      { connection with inbound := connection.inbound.feed chunk } unsent := by
  refine ⟨visits.bound, visits.fits, ?_⟩
  have stage := visits.stage
  unfold Stage at stage ⊢
  cases phase : connection.phase with
  | reading =>
      simp only [phase] at stage ⊢
      rcases stage with ⟨handled, written, opened, unread, brings, divided, further⟩
      refine ⟨handled, written, ?_, unread ++ chunk, brings.feed chunk, ?_, ?_⟩
      · unfold Inbound.feed
        split <;> exact opened
      · rw [List.append_assoc]
        exact divided
      · rw [List.append_assoc]
        exact further
  | cleared asked =>
      simp only [phase] at stage ⊢
      exact ⟨stage.1, (List.append_eq_nil_iff.mp stage.2.1).2, stage.2.2⟩
  | calling asked call asleep =>
      simp only [phase] at stage ⊢
      exact ⟨stage.1, (List.append_eq_nil_iff.mp stage.2.1).2, stage.2.2⟩
  | replying asked call =>
      simp only [phase] at stage ⊢
      exact ⟨stage.1, (List.append_eq_nil_iff.mp stage.2.1).2, stage.2.2⟩
  | ended ending =>
      simp only [phase] at stage ⊢
      exact ⟨(List.append_eq_nil_iff.mp stage.1).2, stage.2⟩

/-- The passing of time changes nothing but the sleep of a handler. -/
theorem Visits.elapse {connection : Connection} {unsent : Octets}
    (visits : Visits limit wire request calls connection unsent) (time : Nat) :
    Visits limit wire request calls (connection.elapse time) unsent := by
  unfold Connection.elapse
  cases phase : connection.phase with
  | calling asked call asleep =>
      have stage := visits.stage
      simp only [Stage, phase] at stage
      exact ⟨visits.bound, visits.fits, stage⟩
  | reading => exact visits
  | cleared asked => exact visits
  | replying asked call => exact visits
  | ended ending => exact visits

/-! ## What the connection does -/

/-- What has been read is judged: the connection goes on reading or has the whole request. -/
theorem Visits.read {connection : Connection} {unsent : Octets} {after : Inbound}
    {result : ReadResult}
    (whole : request.IsWhole limit wire) (visits : Visits limit wire request calls connection unsent)
    (phase : connection.phase = .reading)
    (answer : connection.inbound.read? connection.buffer.room = some (result, after)) :
    Visits limit wire request calls
      (Connection.onRead { connection with inbound := after } false result) unsent := by
  have stage := visits.stage
  simp only [Stage, phase] at stage
  rcases stage with ⟨handled, written, opened, unread, brings, divided, further⟩
  by_cases nothing : unread = []
  · -- An open connection on which nothing has arrived has to wait.
    subst nothing
    simp only [Inbound.read?, brings.queue_eq_nil, opened, Bool.false_eq_true, if_false,
      reduceCtorEq] at answer
  · rcases brings.read nothing visits.fits.room_pos with
      ⟨piece, rest, after', read, parted, _, brings', opened'⟩
    rw [answer] at read
    cases read
    have fits := visits.fits.append (Inbound.length_of_read? answer)
    have held : (connection.buffer.append piece).held = connection.buffer.held ++ piece :=
      ReadBuffer.held_append _ _
    have divided' : wire = (connection.buffer.append piece).held ++ (rest ++ unsent) := by
      rw [held, divided, parted]
      simp only [List.append_assoc]
    have bound := visits.bound
    unfold Connection.onRead consider
    dsimp only
    rw [bound]
    by_cases complete : rest ++ unsent = []
    · have arrived : (connection.buffer.append piece).held = wire := by
        rw [divided', complete, List.append_nil]
      rw [arrived, Verdict.judge_whole whole]
      simp only [Bool.false_eq_true, if_false]
      have there : wire.length ≤ (connection.buffer.append piece).held.length := by
        exact arrived ▸ Nat.le_refl _
      exact ⟨rfl, fits.consume there, rfl, (List.append_eq_nil_iff.mp complete).2, handled, written⟩
    · rw [Verdict.judge_part whole divided' complete]
      refine ⟨rfl, fits, ?_⟩
      simp only [Stage, phase]
      exact ⟨handled, written, opened'.trans opened, rest, brings', divided', complete⟩

/-- The reply to the request ends the connection, and it has been written. -/
theorem Visits.reply {connection : Connection} {unsent : Octets} {call : HandlerCall}
    (last : request.isKeepAlive = false)
    (replies : ∀ call, calls call → ∃ response, call.reply false = .ok (.message response))
    (visits : Visits limit wire request calls connection unsent)
    (phase : connection.phase = .replying request call) (files : Files) :
    Visits limit wire request calls (connection.reply files request call) unsent := by
  have stage := visits.stage
  simp only [Stage, phase] at stage
  rcases stage with ⟨_, sent, called, handled, silent⟩
  rcases replies call called with ⟨response, replied⟩
  have writes : ∃ outbound, Outbound.empty.write response.wire = .ok outbound := by
    unfold Outbound.write
    split
    · exact ⟨_, rfl⟩
    · exact ⟨_, rfl⟩
  rcases writes with ⟨outbound, writes⟩
  have delivered : Delivery.deliver files false call.settlingPanics connection.outbound
      (call.reply false) = ⟨outbound, some (.ok response.wire.length), .ok ()⟩ := by
    rw [replied, silent, Delivery.deliver, Delivery.message, writes]
  have written : outbound.written = response.wire := Outbound.written_of_write writes
  have ended : ∀ ending, Visits limit wire request calls
      (Connection.finish { connection with
        outbound := outbound
        completions := connection.completions ++ [some (.ok response.wire.length)] } ending)
      unsent := fun ending =>
    ⟨visits.bound, visits.fits, sent, call, response, called, replied, handled, written⟩
  unfold Connection.reply
  rw [last]
  dsimp only
  rw [delivered]
  dsimp only
  split
  · exact ended _
  · rw [if_neg Bool.false_ne_true]
    exact ended _

/-- Every step of the connection keeps it on its course. -/
theorem Visits.advance {surroundings : Surroundings} {connection next : Connection}
    {unsent : Octets} (whole : request.IsWhole limit wire) (last : request.isKeepAlive = false)
    (replies : ∀ call, calls call → ∃ response, call.reply false = .ok (.message response))
    (calm : surroundings.stopping = false) (serves : calls (surroundings.handler request))
    (visits : Visits limit wire request calls connection unsent)
    (step : connection.advance? surroundings = some next) :
    Visits limit wire request calls next unsent := by
  have stage := visits.stage
  cases moves_of_advance step with
  | read reading answer =>
      rw [calm]
      exact visits.read whole reading answer
  | call cleared =>
      simp only [Stage, cleared] at stage
      rcases stage with ⟨rfl, sent, handled, silent⟩
      refine ⟨visits.bound, visits.fits, rfl, sent, serves, ?_, silent⟩
      rw [callHandler, handled]
      rfl
  | comeBack calling returns =>
      simp only [Stage, calling] at stage
      exact ⟨visits.bound, visits.fits, stage⟩
  | reply replying =>
      simp only [Stage, replying] at stage
      rcases stage with ⟨rfl, _⟩
      exact visits.reply last replies replying surroundings.files

/-- A connection that has been sent everything, and can make no step although no handler is at work,
has come to its end. -/
theorem Visits.done {surroundings : Surroundings} {connection : Connection}
    (visits : Visits limit wire request calls connection [])
    (stuck : connection.advance? surroundings = none) (idle : connection.isBusy = false) :
    ∃ call response, calls call ∧ call.reply false = .ok (.message response) ∧
      connection.handled = [(request, call)] ∧ connection.outbound.written = response.wire := by
  have stage := visits.stage
  unfold advance? at stuck
  unfold isBusy at idle
  cases phase : connection.phase with
  | reading =>
      simp only [phase] at stuck
      simp only [Stage, phase] at stage
      rcases stage with ⟨_, _, _, unread, brings, _, further⟩
      cases answer : connection.inbound.read? connection.buffer.room with
      | none =>
          rw [brings.of_waits answer] at further
          exact absurd rfl further
      | some pair => simp only [answer, reduceCtorEq] at stuck
  | cleared asked => simp only [phase, reduceCtorEq] at stuck
  | calling asked call asleep => simp only [phase, reduceCtorEq] at idle
  | replying asked call => simp only [phase, reduceCtorEq] at stuck
  | ended ending =>
      simp only [Stage, phase] at stage
      exact stage.2

end Connection

end PromiseHttp
