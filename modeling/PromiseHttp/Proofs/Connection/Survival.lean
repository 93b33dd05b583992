import PromiseHttp.Proofs.Connection.Labour
import PromiseHttp.Proofs.Connection.Refusal

namespace PromiseHttp

/-!
# What ends a connection

The work of a connection panics for two reasons.  One lies with the handler: settling the promise of
a transfer may panic.  The other lies with the peer: it may announce a body whose end lies beyond
every count, and a head within the limit is enough for that.  There is no third reason, so a connection
whose handler is gentle survives every stream in which no such head comes behind the requests that
were handled.

A length that is merely beyond the limit does no harm.  The connection reads on without a word until
more is held than the limit allows, and refuses then.
-/

/-- At the front stands a head whose lines announce a body of this length. -/
def Announces (octets : Octets) (offset length : Nat) : Prop :=
  ∃ request, Request.parse octets = .ok (request, offset) ∧ request.bodyLength = .ok length

namespace Announces

variable {octets front : Octets} {offset length limit : Nat}

/-- A head at the front stays there when more octets arrive. -/
theorem append (announces : Announces octets offset length) (more : Octets) :
    Announces (octets ++ more) offset length := by
  rcases announces with ⟨request, parsed, announced⟩
  exact ⟨_, Request.parse_append parsed more, announced⟩

/-- A beginning of the octets holds the same head, or is no complete head. -/
theorem of_prefix (announces : Announces octets offset length) (begins : front <+: octets) :
    Request.parse front = .error .incomplete ∨ Announces front offset length := by
  rcases begins with ⟨more, rfl⟩
  rcases announces with ⟨request, parsed, announced⟩
  cases decided : Request.parse front with
  | ok pair =>
      rcases pair with ⟨shorter, place⟩
      have longer := Request.parse_append decided more
      rw [parsed] at longer
      cases longer
      exact Or.inr ⟨shorter, decided, announced⟩
  | error fault =>
      by_cases incomplete : fault = .incomplete
      · exact Or.inl (by rw [incomplete])
      · have longer := Request.parse_append_refused decided incomplete more
        rw [parsed] at longer
        cases longer

end Announces

namespace Verdict

variable {limit offset length : Nat} {held : Octets}

/-- The end of a request is beyond every count exactly if a head within the limit says so. -/
theorem judge_eq_overflow_iff : judge limit held = .overflow ↔
    held.length ≤ limit ∧
      ∃ offset length, Announces held offset length ∧ Text.countBound ≤ offset + length := by
  unfold judge
  by_cases tooMuch : limit < held.length
  · rw [if_pos tooMuch]
    constructor
    · intro impossible
      cases impossible
    · rintro ⟨within, _⟩
      omega
  · rw [if_neg tooMuch]
    cases parsed : Request.parse held with
    | error fault =>
        constructor
        · intro overflows
          cases fault <;> cases overflows
        · rintro ⟨_, offset, length, ⟨request, parsed', _⟩, _⟩
          cases parsed.symm.trans parsed'
    | ok pair =>
        rcases pair with ⟨request, offset⟩
        dsimp only [ofRequest]
        cases announced : request.bodyLength with
        | error fault =>
            constructor
            · intro impossible
              cases impossible
            · rintro ⟨_, place, length, ⟨other, parsed', announced'⟩, _⟩
              cases parsed.symm.trans parsed'
              cases announced.symm.trans announced'
        | ok length =>
            dsimp only
            constructor
            · intro overflows
              by_cases beyond : Text.countBound ≤ offset + length
              · exact ⟨Nat.le_of_not_lt tooMuch, offset, length, ⟨request, parsed, announced⟩, beyond⟩
              · rw [if_neg beyond] at overflows
                split at overflows <;> cases overflows
            · rintro ⟨_, place, other, ⟨whole, parsed', announced'⟩, beyond⟩
              cases parsed.symm.trans parsed'
              cases announced.symm.trans announced'
              rw [if_pos beyond]

/-- Whoever waits for more holds no more than the limit. -/
theorem within_of_wait (waits : judge limit held = .wait) : held.length ≤ limit := by
  unfold judge at waits
  split at waits
  · cases waits
  · rename_i within
    exact Nat.le_of_not_lt within

/-- A head that announces more than the limit is waited for up to the limit. -/
theorem judge_announced {octets : Octets} (announces : Announces octets offset length)
    (begins : held <+: octets) (tooLong : limit < offset + length)
    (countable : offset + length < Text.countBound) :
    judge limit held = if limit < held.length then .refuse tooLarge else .wait := by
  unfold judge
  by_cases tooMuch : limit < held.length
  · rw [if_pos tooMuch, if_pos tooMuch]
  · rw [if_neg tooMuch, if_neg tooMuch]
    rcases announces.of_prefix begins with incomplete | ⟨request, parsed, announced⟩
    · rw [incomplete]
    · have counted : ¬ Text.countBound ≤ offset + length := Nat.not_le_of_lt countable
      have missing : held.length < offset + length := by omega
      simp only [parsed, ofRequest, announced, if_neg counted, if_pos missing]

end Verdict

namespace Connection

open FramedRequest (decode)

variable {limit : Nat} {connection : Connection} {octets : Octets}

/-! ## Gentle handlers -/

/-- Settling the promise of a transfer never panics. -/
def Surroundings.AreGentle (surroundings : Surroundings) : Prop :=
  ∀ request, (surroundings.handler request).settlingPanics = false

/-- A step in gentle surroundings, or anything else. -/
def Event.IsGentle : Event → Prop
  | .step surroundings => surroundings.AreGentle
  | _ => True

/-- Behind the requests that were handled, a head within the limit carries the end of its body beyond
every count. -/
def Overtaken (limit : Nat) (handed : List Request) (octets : Octets) : Prop :=
  ∃ before behind served front offset length, octets = before ++ behind ∧
    handed = served.map FramedRequest.request ∧
    (∀ more, decode (octets ++ more) = served ++ decode (behind ++ more)) ∧
    front <+: behind ∧ front.length ≤ limit ∧ Announces front offset length ∧
    Text.countBound ≤ offset + length

theorem Overtaken.append {handed : List Request} (overtaken : Overtaken limit handed octets)
    (chunk : Octets) : Overtaken limit handed (octets ++ chunk) := by
  rcases overtaken with
    ⟨before, behind, served, front, offset, length, divided, same, goesOn, begins, rest⟩
  refine ⟨before, behind ++ chunk, served, front, offset, length, ?_, same, ?_,
    begins.trans (List.prefix_append _ _), rest⟩
  · rw [divided, List.append_assoc]
  · intro more
    rw [List.append_assoc, List.append_assoc]
    exact goesOn (chunk ++ more)

/-- A crash has its reason in the stream, and no call that is under way can cause one. -/
def HoldsUp (limit : Nat) (octets : Octets) (connection : Connection) : Prop :=
  match connection.phase with
  | .calling _ call _ => call.settlingPanics = false
  | .replying _ call => call.settlingPanics = false
  | .ended .crashed => Overtaken limit connection.handed octets
  | _ => True

theorem HoldsUp.append (holdsUp : HoldsUp limit octets connection) (chunk : Octets) :
    HoldsUp limit (octets ++ chunk) connection := by
  unfold HoldsUp at holdsUp ⊢
  split
  · rename_i phase
    rw [phase] at holdsUp
    exact holdsUp
  · rename_i phase
    rw [phase] at holdsUp
    exact holdsUp
  · rename_i phase
    rw [phase] at holdsUp
    exact holdsUp.append chunk
  · trivial

/-- Any other end is a regular one. -/
theorem holdsUp_finish {ending : ConnectionEnd} (regular : ending ≠ .crashed) :
    HoldsUp limit octets (connection.finish ending) := by
  cases ending with
  | crashed => exact absurd rfl regular
  | peerClosed => trivial
  | refused => trivial
  | lastResponse => trivial
  | stopped => trivial
  | failed failure => trivial
  | dropped => trivial

theorem holdsUp_refuse (response : Response) :
    HoldsUp limit octets (connection.refuse response) := by
  unfold refuse
  split
  · exact holdsUp_finish ConnectionEnd.noConfusion
  · exact holdsUp_finish ConnectionEnd.noConfusion

/-- A read ends in a crash only over a head in what is left. -/
theorem holdsUp_read {taken : Octets} {served : List FramedRequest}
    (accounts : Accounts limit connection octets taken served) (reading : connection.phase = .reading)
    {result : ReadResult} {inbound : Inbound}
    (answer : connection.inbound.read? connection.buffer.room = some (result, inbound))
    (stopping : Bool) :
    HoldsUp limit octets (onRead { connection with inbound := inbound } stopping result) := by
  cases result with
  | ended => exact holdsUp_finish ConnectionEnd.noConfusion
  | failed fault => exact holdsUp_finish ConnectionEnd.noConfusion
  | octets piece =>
      rcases Inbound.octets_of_read? answer with ⟨_, same, moved⟩ | ⟨other, _⟩
      · cases same
        dsimp only [onRead, consider]
        cases verdict : Verdict.judge connection.limit (connection.buffer.append piece).held with
        | wait =>
            unfold HoldsUp
            simp only [reading]
        | refuse response => exact holdsUp_refuse response
        | accept request size =>
            dsimp only
            split
            · exact holdsUp_finish ConnectionEnd.noConfusion
            · trivial
        | overflow =>
            rcases Verdict.judge_eq_overflow_iff.mp verdict with
              ⟨within, offset, length, announces, beyond⟩
            have goesOn := accounts.goesOn
            have matched := accounts.matched
            rw [reading] at goesOn
            simp only [owed, reading] at matched
            refine ⟨taken, connection.left, served, _, offset, length, accounts.divided,
              matched.symm, ?_, ?_, accounts.bound ▸ within, announces, beyond⟩
            · intro more
              rw [accounts.divided, List.append_assoc]
              exact goesOn more
            · rw [left, moved, ← List.append_assoc, ReadBuffer.held_append]
              exact List.prefix_append _ _
      · exact absurd rfl (other piece)

/-- The delivery of a reply whose promise settles without a panic does not end in a crash. -/
theorem holdsUp_reply {files : Files} {request : Request} {call : HandlerCall}
    (gentle : call.settlingPanics = false) :
    HoldsUp limit octets (connection.reply files request call) := by
  unfold reply
  simp only [gentle, Bool.and_false, Bool.false_eq_true, if_false]
  split
  · exact holdsUp_finish ConnectionEnd.noConfusion
  · split
    · trivial
    · exact holdsUp_finish ConnectionEnd.noConfusion

theorem holdsUp_step {surroundings : Surroundings} (gentle : surroundings.AreGentle)
    (inStep : InStep limit connection octets) (holdsUp : HoldsUp limit octets connection) :
    HoldsUp limit octets (connection.occur (.step surroundings)) := by
  rw [occur]
  cases step : connection.advance? surroundings with
  | none => exact holdsUp
  | some next =>
      rcases inStep with ⟨taken, served, accounts⟩
      cases moves_of_advance step with
      | read reading answer => exact holdsUp_read accounts reading answer surroundings.stopping
      | @call request cleared => exact gentle request
      | comeBack calling returns =>
          unfold HoldsUp at holdsUp
          rw [calling] at holdsUp
          exact holdsUp
      | reply replying =>
          unfold HoldsUp at holdsUp
          rw [replying] at holdsUp
          exact holdsUp_reply holdsUp

theorem holdsUp_occur {event : Event} (gentle : event.IsGentle)
    (inStep : InStep limit connection octets) (holdsUp : HoldsUp limit octets connection) :
    HoldsUp limit (octets ++ event.sent) (connection.occur event) := by
  cases event with
  | send chunk => exact holdsUp.append chunk
  | step surroundings => exact (holdsUp_step gentle inStep holdsUp).append []
  | disturb fault => exact holdsUp.append []
  | close => exact holdsUp.append []
  | takeWrites budget => exact holdsUp.append []
  | elapse time =>
      refine HoldsUp.append ?_ []
      rw [occur, elapse]
      split
      · rename_i phase
        unfold HoldsUp at holdsUp
        rw [phase] at holdsUp
        exact holdsUp
      · exact holdsUp
  | letGo =>
      refine HoldsUp.append ?_ []
      rw [occur, letGo]
      split
      · exact holdsUp
      · exact holdsUp_finish ConnectionEnd.noConfusion

theorem holdsUp_occurAll {events : List Event} (gentle : ∀ event ∈ events, event.IsGentle)
    (inStep : InStep limit connection octets) (holdsUp : HoldsUp limit octets connection) :
    HoldsUp limit (octets ++ Connection.stream events) (events.foldl occur connection) := by
  induction events generalizing connection octets with
  | nil => exact holdsUp.append []
  | cons event events inductionHypothesis =>
      have further := inductionHypothesis
        (fun other member => gentle other (List.mem_cons_of_mem _ member)) (inStep.occur event)
        (holdsUp_occur (gentle event List.mem_cons_self) inStep holdsUp)
      rw [List.append_assoc] at further
      exact further

/-! ## Lengths beyond the limit -/

/-- What a peer does that only sends, and what the connection does by itself. -/
def Event.IsSending : Event → Prop
  | .send _ => True
  | .step _ => True
  | .elapse _ => True
  | .disturb _ => False
  | .close => False
  | .takeWrites _ => False
  | .letGo => False

/-- A connection waits for a request that is longer than the limit, and the peer can still send. -/
structure AwaitsTooMuch (limit offset length : Nat) (connection : Connection) : Prop where
  bound : connection.limit = limit
  reading : connection.phase = .reading
  fits : connection.buffer.Fits
  within : connection.buffer.held.length ≤ limit
  plain : connection.inbound.Brings connection.inbound.octets
  opened : connection.inbound.closed = false
  announces : Announces connection.left offset length

variable {offset length : Nat}

/-- A connection still waits for the same request, and all that the peer has sent is there. -/
structure StillAwaits (limit offset length : Nat) (connection : Connection) (sent : Octets)
    (next : Connection) : Prop where
  awaits : AwaitsTooMuch limit offset length next
  handled : next.handled = connection.handled
  outbound : next.outbound = connection.outbound
  left : next.left = connection.left ++ sent

theorem AwaitsTooMuch.stays (awaits : AwaitsTooMuch limit offset length connection) :
    StillAwaits limit offset length connection [] connection :=
  ⟨awaits, rfl, rfl, (List.append_nil _).symm⟩

/-- A read brings more of the request, or too much. -/
theorem AwaitsTooMuch.read (awaits : AwaitsTooMuch limit offset length connection)
    (tooLong : limit < offset + length) (countable : offset + length < Text.countBound)
    {result : ReadResult} {inbound : Inbound}
    (answer : connection.inbound.read? connection.buffer.room = some (result, inbound))
    (stopping : Bool) :
    StillAwaits limit offset length connection []
        (onRead { connection with inbound := inbound } stopping result) ∨
      connection.HasRefused Verdict.tooLarge
        (onRead { connection with inbound := inbound } stopping result) := by
  by_cases nothing : connection.inbound.octets = []
  · have empty := awaits.plain
    rw [nothing] at empty
    have closed := (empty.ended_of_read? answer).1
    rw [awaits.opened] at closed
    cases closed
  · rcases awaits.plain.read nothing awaits.fits.room_pos with
      ⟨piece, rest, after, read, divided, _, brings, closed⟩
    cases answer.symm.trans read
    have held : (connection.buffer.append piece).held = connection.buffer.held ++ piece :=
      ReadBuffer.held_append _ _
    have whole : connection.left = connection.buffer.held ++ piece ++ rest := by
      rw [left, divided, List.append_assoc]
    have part : connection.buffer.held ++ piece <+: connection.left := by
      rw [whole]
      exact List.prefix_append _ _
    have judged := Verdict.judge_announced awaits.announces part tooLong countable
    rw [← awaits.bound, ← held] at judged
    dsimp only [onRead, consider]
    by_cases tooMuch : connection.limit < (connection.buffer.append piece).held.length
    · rw [judged, if_pos tooMuch]
      exact Or.inr (hasRefused_refuse
        { connection with inbound := inbound, buffer := connection.buffer.append piece }
        Verdict.tooLarge)
    · rw [judged, if_neg tooMuch]
      have unchanged : left { connection with
          inbound := inbound, buffer := connection.buffer.append piece } = connection.left := by
        rw [whole, left, held, brings.2]
      refine Or.inl ⟨⟨awaits.bound, awaits.reading, ?_, ?_, ?_, ?_, ?_⟩, rfl, rfl, ?_⟩
      · exact awaits.fits.append (Inbound.length_of_read? answer)
      · exact awaits.bound ▸ Nat.le_of_not_lt tooMuch
      · exact ⟨brings.1, rfl⟩
      · exact closed.trans awaits.opened
      · rw [unchanged]
        exact awaits.announces
      · rw [List.append_nil]
        exact unchanged

/-- Whatever a sending peer does, the connection goes on waiting or refuses. -/
theorem AwaitsTooMuch.occur (awaits : AwaitsTooMuch limit offset length connection)
    (tooLong : limit < offset + length) (countable : offset + length < Text.countBound)
    {event : Event} (sending : event.IsSending) :
    StillAwaits limit offset length connection event.sent (connection.occur event) ∨
      connection.HasRefused Verdict.tooLarge (connection.occur event) := by
  cases event with
  | send chunk =>
      have grown : left { connection with inbound := connection.inbound.feed chunk } =
          connection.left ++ chunk := by
        simp only [left, Inbound.octets_feed, List.append_assoc]
      refine Or.inl ⟨⟨awaits.bound, awaits.reading, awaits.fits, awaits.within, ?_, ?_, ?_⟩,
        rfl, rfl, grown⟩
      · have brings := awaits.plain.feed chunk
        rw [← Inbound.octets_feed] at brings
        exact brings
      · rw [Connection.occur, Inbound.feed]
        split <;> exact awaits.opened
      · rw [Connection.occur, grown]
        exact awaits.announces.append chunk
  | elapse time =>
      have same : connection.occur (.elapse time) = connection := by
        simp only [Connection.occur, elapse, awaits.reading]
      rw [same]
      exact Or.inl awaits.stays
  | step surroundings =>
      rw [Connection.occur]
      cases step : connection.advance? surroundings with
      | none => exact Or.inl awaits.stays
      | some next =>
          cases moves_of_advance step with
          | read _ answer => exact awaits.read tooLong countable answer surroundings.stopping
          | call cleared => cases awaits.reading.symm.trans cleared
          | comeBack calling => cases awaits.reading.symm.trans calling
          | reply replying => cases awaits.reading.symm.trans replying
  | disturb fault => cases sending
  | close => cases sending
  | takeWrites budget => cases sending
  | letGo => cases sending

theorem AwaitsTooMuch.occurAll (awaits : AwaitsTooMuch limit offset length connection)
    (tooLong : limit < offset + length) (countable : offset + length < Text.countBound)
    {events : List Event} (sending : ∀ event ∈ events, event.IsSending) :
    StillAwaits limit offset length connection (stream events)
        (events.foldl Connection.occur connection) ∨
      connection.HasRefused Verdict.tooLarge (events.foldl Connection.occur connection) := by
  induction events generalizing connection with
  | nil => exact Or.inl awaits.stays
  | cons event events inductionHypothesis =>
      rcases awaits.occur tooLong countable (sending event List.mem_cons_self) with
        ⟨awaits', handled, outbound, grown⟩ | refused
      · rcases inductionHypothesis awaits'
          (fun other member => sending other (List.mem_cons_of_mem _ member)) with
          ⟨awaits'', handled', outbound', grown'⟩ | refused
        · refine Or.inl ⟨awaits'', handled'.trans handled, outbound'.trans outbound, ?_⟩
          rw [grown, List.append_assoc] at grown'
          exact grown'
        · refine Or.inr ?_
          unfold HasRefused at refused ⊢
          rw [handled, outbound] at refused
          exact refused
      · exact Or.inr (refused.occurAll events)

/-- Having been sent too much, the connection has refused once it is at rest. -/
theorem AwaitsTooMuch.refuses (awaits : AwaitsTooMuch limit offset length connection)
    (tooLong : limit < offset + length) (countable : offset + length < Text.countBound)
    {events : List Event} (sending : ∀ event ∈ events, event.IsSending)
    (tooMuch : limit < (connection.left ++ stream events).length)
    (rest : (events.foldl Connection.occur connection).IsAtRest) :
    connection.HasRefused Verdict.tooLarge (events.foldl Connection.occur connection) := by
  rcases awaits.occurAll tooLong countable sending with ⟨awaits', _, _, grown⟩ | refused
  · exfalso
    rcases rest.ended_or_waits with ⟨ending, ended⟩ | ⟨_, waits⟩
    · cases awaits'.reading.symm.trans ended
    · have within := awaits'.within
      rw [← grown, left, awaits'.plain.of_waits waits, List.append_nil] at tooMuch
      omega
  · exact refused

/-- What a connection does by itself leaves the peer sending, and sends nothing. -/
theorem isSending_of_isOwn {around : Surroundings → Prop} {event : Event}
    (own : event.IsOwn around) : event.IsSending ∧ event.sent = [] := by
  cases event with
  | step surroundings => exact ⟨trivial, rfl⟩
  | elapse time => exact ⟨trivial, rfl⟩
  | send chunk => cases own
  | disturb fault => cases own
  | close => cases own
  | takeWrites budget => cases own
  | letGo => cases own

/-- Having been sent too much, the connection comes to refuse by itself. -/
theorem AwaitsTooMuch.comes_to_refuse (awaits : AwaitsTooMuch limit offset length connection)
    (tooLong : limit < offset + length) (countable : offset + length < Text.countBound)
    {events : List Event} (sending : ∀ event ∈ events, event.IsSending)
    (tooMuch : limit < (connection.left ++ stream events).length) :
    ∃ further, (∀ event ∈ further, event.IsOwn fun _ => True) ∧
      connection.HasRefused Verdict.tooLarge
        ((events ++ further).foldl Connection.occur connection) := by
  let idle : Surroundings := ⟨fun _ => .ofEnding .letGo, fun _ => .error .noSuchFile, false, fun _ => true⟩
  rcases @comes_to_rest (fun _ => True) idle trivial (fun _ => rfl) _
    (fits_occurAll events awaits.fits) with ⟨further, own, rest⟩
  rw [← List.foldl_append] at rest
  have quiet : stream further = [] := by
    rw [stream, List.flatMap_eq_nil_iff]
    exact fun event member => (isSending_of_isOwn (own event member)).2
  have all : ∀ event ∈ events ++ further, event.IsSending := by
    intro event member
    rcases List.mem_append.mp member with sent | later
    · exact sending event sent
    · exact (isSending_of_isOwn (own event later)).1
  have same : stream (events ++ further) = stream events := by
    rw [stream, List.flatMap_append, ← stream, ← stream, quiet, List.append_nil]
  exact ⟨further, own, awaits.refuses tooLong countable all (same.symm ▸ tooMuch) rest⟩

/-! ## What is held -/

/-- A connection that has not ended holds no more than its limit. -/
def HoldsWithin (connection : Connection) : Prop :=
  connection.buffer.held.length ≤ connection.limit ∨ ∃ ending, connection.phase = .ended ending

theorem holdsWithin_refuse (response : Response) : HoldsWithin (connection.refuse response) := by
  unfold refuse
  split <;> exact Or.inr ⟨_, rfl⟩

theorem HoldsWithin.advance (within : HoldsWithin connection) {surroundings : Surroundings}
    {next : Connection} (step : connection.advance? surroundings = some next) :
    HoldsWithin next := by
  have held : connection.buffer.held.length ≤ connection.limit := by
    rcases within with held | ⟨ending, ended⟩
    · exact held
    · simp only [advance?, ended, reduceCtorEq] at step
  cases moves_of_advance step with
  | call cleared => exact Or.inl held
  | comeBack calling returns => exact Or.inl held
  | @reply request call replying =>
      left
      rw [buffer_reply]
      have limited : (connection.reply surroundings.files request call).limit = connection.limit := by
        simp only [Connection.reply]
        split
        · rfl
        · split
          · rfl
          · split <;> rfl
      rw [limited]
      exact held
  | @read result inbound reading answer =>
      cases result with
      | ended => exact Or.inr ⟨_, rfl⟩
      | failed fault => exact Or.inr ⟨_, rfl⟩
      | octets piece =>
          dsimp only [onRead, consider]
          cases verdict : Verdict.judge connection.limit (connection.buffer.append piece).held with
          | wait => exact Or.inl (Verdict.within_of_wait verdict)
          | refuse response => exact holdsWithin_refuse response
          | overflow => exact Or.inr ⟨_, rfl⟩
          | accept request size =>
              have accepted := (Verdict.first?_of_accept verdict).1
              have less : ((connection.buffer.append piece).consume size).held.length ≤
                  connection.limit := by
                rw [ReadBuffer.held_consume, List.length_drop]
                omega
              dsimp only
              split
              · exact Or.inr ⟨_, rfl⟩
              · exact Or.inl less

theorem HoldsWithin.occur (within : HoldsWithin connection) (event : Event) :
    HoldsWithin (connection.occur event) := by
  cases event with
  | send chunk => exact within
  | disturb fault => exact within
  | close => exact within
  | takeWrites budget => exact within
  | step surroundings =>
      rw [Connection.occur]
      cases step : connection.advance? surroundings with
      | none => exact within
      | some next => exact within.advance step
  | elapse time =>
      rw [Connection.occur, elapse]
      split
      · rename_i phase
        rcases within with held | ⟨ending, ended⟩
        · exact Or.inl held
        · cases phase.symm.trans ended
      · exact within
  | letGo =>
      rw [Connection.occur, letGo]
      split
      · exact within
      · exact Or.inr ⟨_, rfl⟩

theorem holdsWithin_after (peer : PeerId) (limit : Nat) (events : List Event) :
    HoldsWithin (after peer limit events) := by
  unfold after
  generalize start : Connection.new peer limit = connection
  have within : HoldsWithin connection := by
    rw [← start]
    exact Or.inl (Nat.zero_le limit)
  clear start
  induction events generalizing connection with
  | nil => exact within
  | cons event events inductionHypothesis => exact inductionHypothesis _ (within.occur event)

/-! ## Survival -/

/-- What the handler is called with announces no more than the limit allows. -/
theorem handed_within (peer : PeerId) (limit : Nat) (events : List Event) {request : Request}
    (handed : request ∈ (after peer limit events).handed) :
    ∃ before behind whole offset length, stream events = before ++ behind ∧
      Request.parse behind = .ok (whole, offset) ∧ whole.bodyLength = .ok length ∧
      request = whole.truncateBody length ∧ offset + length ≤ limit := by
  rcases (inStep_new peer limit).occurAll events with ⟨taken, served, accounts⟩
  rcases accounts.handed_begins with ⟨handedOver, begins, same, small⟩
  have among : request ∈ handedOver.map FramedRequest.request := same ▸ handed
  rcases List.mem_map.mp among with ⟨framed, member, rfl⟩
  rcases FramedRequest.first?_of_mem_decode (begins.subset member) with
    ⟨before, behind, divided, found⟩
  have size := small framed member
  rcases FramedRequest.first?_eq_some.mp found with
    ⟨whole, offset, length, parsed, announced, there, rfl⟩
  rw [FramedRequest.size_eq parsed there] at size
  exact ⟨before, behind, whole, offset, length, divided, parsed, announced, rfl, size⟩

/-- A connection that reads the end of a head within the limit whose length carries the end of the
body beyond every count has crashed. -/
theorem crashes_step (reading : connection.phase = .reading) {piece : Octets} {inbound : Inbound}
    (answer : connection.inbound.read? connection.buffer.room = some (.octets piece, inbound))
    (within : (connection.buffer.held ++ piece).length ≤ connection.limit)
    (announces : Announces (connection.buffer.held ++ piece) offset length)
    (beyond : Text.countBound ≤ offset + length) (surroundings : Surroundings) :
    (connection.occur (.step surroundings)).phase = .ended .crashed := by
  have judged : Verdict.judge connection.limit (connection.buffer.append piece).held =
      .overflow := by
    rw [ReadBuffer.held_append]
    exact Verdict.judge_eq_overflow_iff.mpr ⟨within, offset, length, announces, beyond⟩
  simp only [occur, advance?, reading, answer, Option.getD_some, onRead, consider, judged, finish]

/-- A reading connection with a peer that can still send waits for a request that is too long. -/
theorem awaitsTooMuch_after {peer : PeerId} {events : List Event}
    (reading : (after peer limit events).phase = .reading)
    (plain : (after peer limit events).inbound.Brings (after peer limit events).inbound.octets)
    (opened : (after peer limit events).inbound.closed = false)
    (announces : Announces (after peer limit events).left offset length) :
    AwaitsTooMuch limit offset length (after peer limit events) := by
  have bound := limit_after peer limit events
  refine ⟨bound, reading, fits_occurAll events ReadBuffer.fits_empty, ?_, plain, opened, announces⟩
  rcases holdsWithin_after peer limit events with held | ⟨ending, ended⟩
  · rw [bound] at held
    exact held
  · cases reading.symm.trans ended

/-- A connection whose handler is gentle crashes only if, behind the requests that were handled, its
peer sends a head within the limit that carries the end of the body beyond every count; and if such
a head is complete with a read that stays within the limit, the connection crashes.  What the
handler is called with announces no more than the limit allows.  A request that announces more, but
a length that can be counted, is waited for while its peer goes on sending, and is refused once
more than the limit has come. -/
theorem survives_unless_overtaken (peer : PeerId) (limit : Nat) {events : List Event}
    (gentle : ∀ event ∈ events, event.IsGentle) :
    let connection := after peer limit events
    (connection.phase = .ended .crashed → Overtaken limit connection.handed (stream events)) ∧
    (∀ request ∈ connection.handed, ∃ before behind whole offset length,
      stream events = before ++ behind ∧ Request.parse behind = .ok (whole, offset) ∧
      whole.bodyLength = .ok length ∧ request = whole.truncateBody length ∧
      offset + length ≤ limit) ∧
    ∀ offset length, connection.phase = .reading →
      (∀ piece inbound,
        connection.inbound.read? connection.buffer.room = some (.octets piece, inbound) →
        (connection.buffer.held ++ piece).length ≤ limit →
        Announces (connection.buffer.held ++ piece) offset length →
        Text.countBound ≤ offset + length → ∀ surroundings later,
          (after peer limit (events ++ .step surroundings :: later)).phase = .ended .crashed) ∧
      (connection.inbound.Brings connection.inbound.octets → connection.inbound.closed = false →
        Announces connection.left offset length → limit < offset + length →
        offset + length < Text.countBound → ∀ later, (∀ event ∈ later, event.IsSending) →
        limit < (connection.left ++ stream later).length →
          ∃ further, (∀ event ∈ further, event.IsOwn fun _ => True) ∧
            connection.HasRefused Verdict.tooLarge (after peer limit (events ++ later ++ further))) := by
  intro connection
  have holdsUp : HoldsUp limit (stream events) connection :=
    holdsUp_occurAll gentle (inStep_new peer limit) trivial
  refine ⟨?_, fun request handed => handed_within peer limit events handed, ?_⟩
  · intro crashed
    unfold HoldsUp at holdsUp
    rw [crashed] at holdsUp
    exact holdsUp
  · intro offset length reading
    constructor
    · intro piece inbound answer within announces beyond surroundings later
      rcases (inStep_new peer limit).occurAll events with ⟨_, _, accounts⟩
      have bound : connection.limit = limit := accounts.bound
      have crashed := crashes_step reading answer (bound.symm ▸ within) announces beyond surroundings
      rw [after_append]
      exact (ended_occurAll later crashed).1
    · intro plain opened announces tooLong countable later sending tooMuch
      have awaits := awaitsTooMuch_after reading plain opened announces
      rcases awaits.comes_to_refuse tooLong countable sending tooMuch with ⟨further, own, refused⟩
      refine ⟨further, own, ?_⟩
      rw [List.append_assoc, after_append]
      exact refused

namespace Uploads

/-- A request announces a body, of which nothing has been sent yet. -/
def head (length : String) : Octets :=
  Octets.encode ("POST / HTTP/1.1\r\nHost: h\r\nContent-Length: " ++ length ++ "\r\n\r\n")

def surroundings : Surroundings :=
  ⟨fun _ => .ofEnding (.send .ok StockHandler.greeting), fun _ => .error .noSuchFile, false, fun _ => true⟩

def events (length : String) : List Event := [.send (head length), .step surroundings]

theorem gentle (length : String) : ∀ event ∈ events length, event.IsGentle := by
  intro event member
  rcases List.mem_cons.mp member with rfl | member
  · trivial
  · rw [List.mem_singleton.mp member]
    exact fun _ => rfl

end Uploads

/-- A body of two hundred octets is more than a limit of one hundred allows.  It is refused when its
first sixty octets have come. -/
theorem large_upload_is_refused :
    (∀ event ∈ Uploads.events "200", event.IsGentle) ∧
      ∃ further, (∀ event ∈ further, event.IsOwn fun _ => True) ∧
        (after 0 100 (Uploads.events "200")).HasRefused Verdict.tooLarge
          (after 0 100 (Uploads.events "200" ++ [.send (List.replicate 60 97)] ++ further)) := by
  refine ⟨Uploads.gentle "200", ?_⟩
  have survives := (survives_unless_overtaken 0 100 (Uploads.gentle "200")).2.2 49 200 rfl
  refine survives.2 ⟨?_, rfl⟩ rfl ⟨_, rfl, by decide⟩ (by decide) (by decide) _ ?_ (by decide)
  · intro arrival member
    cases member
  · intro event member
    rw [List.mem_singleton.mp member]
    trivial

/-- An announced length of every count but one crashes the connection, however gentle its handler is. -/
theorem endless_upload_crashes :
    (∀ event ∈ Uploads.events "18446744073709551615", event.IsGentle) ∧
      (after 0 100 (Uploads.events "18446744073709551615")).phase = .ended .crashed :=
  ⟨Uploads.gentle _, by decide⟩

end Connection
end PromiseHttp
