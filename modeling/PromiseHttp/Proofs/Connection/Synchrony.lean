import PromiseHttp.Proofs.Connection.Framing

namespace PromiseHttp
namespace Connection

open FramedRequest (decode behind)

/-!
# A connection keeps in step with its stream

The invariant of a connection divides its stream in two: what the connection has taken, and what is
left, because it is held or has not been read.  Decoding the stream yields the requests that were
taken and goes on with what is left, and it does so however the stream continues.  So the invariant
survives the arrival of further octets without a word about them, and a read only moves octets
within the part that is left.

A request is taken when it is complete, one step before the handler is called with it.  A connection
that ends in between, because the server is stopping or its worker lets it go, has taken a request
that it never hands over.
-/

/-- The octets that have arrived and have not been taken. -/
def left (connection : Connection) : Octets :=
  connection.buffer.held ++ connection.inbound.octets

/-- The requests that the handler was called with. -/
def handed (connection : Connection) : List Request := connection.handled.map Prod.fst

/-- What decoding yields behind the requests that were taken, as far as the phase tells: all that
follows, or what follows the request in work, which may ask for the close.  About a connection that
has ended it only tells that those requests come first. -/
def GoesOn (taken left : Octets) (served : List FramedRequest) : ConnectionPhase → Prop
  | .reading => ∀ more, decode (taken ++ (left ++ more)) = served ++ decode (left ++ more)
  | .cleared request =>
    ∀ more, decode (taken ++ (left ++ more)) = served ++ behind request (left ++ more)
  | .calling request _ _ =>
    ∀ more, decode (taken ++ (left ++ more)) = served ++ behind request (left ++ more)
  | .replying request _ =>
    ∀ more, decode (taken ++ (left ++ more)) = served ++ behind request (left ++ more)
  | .ended _ => ∀ more, served <+: decode (taken ++ (left ++ more))

/-- The requests that have been taken, the one included that is about to be handed over. -/
def owed (connection : Connection) : List Request :=
  match connection.phase with
  | .cleared request => connection.handed ++ [request]
  | _ => connection.handed

/-- What a connection has made of a stream: it has taken some octets, and with them requests within
the limit. -/
structure Accounts (limit : Nat) (connection : Connection) (stream taken : Octets)
    (served : List FramedRequest) : Prop where
  bound : connection.limit = limit
  divided : stream = taken ++ connection.left
  small : ∀ framed ∈ served, framed.size ≤ limit
  matched : served.map FramedRequest.request = connection.owed
  goesOn : GoesOn taken connection.left served connection.phase

/-- A connection is in step with a stream if it can account for what it has done. -/
def InStep (limit : Nat) (connection : Connection) (stream : Octets) : Prop :=
  ∃ taken served, Accounts limit connection stream taken served

/-- In every phase, what was taken begins the decoding. -/
theorem GoesOn.begins {taken left : Octets} {served : List FramedRequest} {phase : ConnectionPhase}
    (goesOn : GoesOn taken left served phase) (more : Octets) :
    served <+: decode (taken ++ (left ++ more)) := by
  cases phase with
  | reading => exact ⟨_, (goesOn more).symm⟩
  | cleared request => exact ⟨_, (goesOn more).symm⟩
  | calling request call asleep => exact ⟨_, (goesOn more).symm⟩
  | replying request call => exact ⟨_, (goesOn more).symm⟩
  | ended ending => exact goesOn more

/-- Octets that arrive are left for later. -/
theorem GoesOn.arrive {taken left : Octets} {served : List FramedRequest} {phase : ConnectionPhase}
    (goesOn : GoesOn taken left served phase) (chunk : Octets) :
    GoesOn taken (left ++ chunk) served phase := by
  cases phase <;>
    · intro more
      rw [List.append_assoc left chunk more]
      exact goesOn (chunk ++ more)

/-- The requests handed over are the first of those taken. -/
theorem handed_prefix_owed (connection : Connection) : connection.handed <+: connection.owed := by
  unfold owed
  split
  · exact List.prefix_append _ _
  · exact List.prefix_refl _

variable {limit : Nat} {connection : Connection} {stream taken : Octets}
  {served : List FramedRequest}

/-- What was handed over is a beginning of the decoding of the stream. -/
theorem Accounts.handed_begins (accounts : Accounts limit connection stream taken served) :
    ∃ handedOver, handedOver <+: decode stream ∧
      connection.handed = handedOver.map FramedRequest.request ∧
      ∀ framed ∈ handedOver, framed.size ≤ limit := by
  have begins := accounts.goesOn.begins []
  rw [List.append_nil, ← accounts.divided] at begins
  have first := handed_prefix_owed connection
  rw [← accounts.matched] at first
  have same := List.prefix_iff_eq_take.mp first
  refine ⟨served.take connection.handed.length, (List.take_prefix _ _).trans begins, ?_, ?_⟩
  · rw [List.map_take]
    exact same
  · intro framed member
    exact accounts.small framed (List.mem_of_mem_take member)

/-- A connection that ends has accounted for all that it will ever do. -/
theorem Accounts.finish (accounts : Accounts limit connection stream taken served)
    (ending : ConnectionEnd) : InStep limit (connection.finish ending) stream := by
  have first := handed_prefix_owed connection
  rw [← accounts.matched] at first
  refine ⟨taken, served.take connection.handed.length, accounts.bound, accounts.divided, ?_, ?_, ?_⟩
  · intro framed member
    exact accounts.small framed (List.mem_of_mem_take member)
  · rw [List.map_take]
    exact (List.prefix_iff_eq_take.mp first).symm
  · intro more
    exact (List.take_prefix _ _).trans (accounts.goesOn.begins more)

/-! ## Steps -/

/-- Refusing a request writes and ends. -/
theorem Accounts.refuse (accounts : Accounts limit connection stream taken served)
    (response : Response) : InStep limit (connection.refuse response) stream := by
  have written : ∀ outbound,
      Accounts limit { connection with outbound := outbound } stream taken served :=
    fun _ => ⟨accounts.bound, accounts.divided, accounts.small, accounts.matched, accounts.goesOn⟩
  unfold Connection.refuse
  cases connection.outbound.write response.wire with
  | error fault => exact (written _).finish _
  | ok outbound => exact (written outbound).finish _

/-- A reading connection that acts on what it holds stays in step.  Accepting a request is the only
act that takes octets: those of the request at the front of what was left. -/
theorem Accounts.consider (accounts : Accounts limit connection stream taken served)
    (reading : connection.phase = .reading) (stopping : Bool) :
    InStep limit (connection.consider stopping) stream := by
  unfold Connection.consider
  cases verdict : Verdict.judge connection.limit connection.buffer.held with
  | wait => exact ⟨taken, served, accounts⟩
  | refuse response => exact accounts.refuse response
  | overflow => exact accounts.finish _
  | accept request size =>
      rcases Verdict.first?_of_accept verdict with ⟨within, framed, found, rfl, rfl⟩
      have goesOn := accounts.goesOn
      rw [reading] at goesOn
      have matched := accounts.matched
      simp only [owed, reading] at matched
      have whole :
          connection.buffer.held.take framed.size ++ connection.buffer.held.drop framed.size =
          connection.buffer.held := List.take_append_drop framed.size connection.buffer.held
      -- The accepted request is at the front of what is left, so decoding yields it next.
      have next : ∀ more, decode (connection.left ++ more) = framed ::
          behind framed.request (connection.buffer.held.drop framed.size ++
            connection.inbound.octets ++ more) := by
        intro more
        have there := FramedRequest.first?_append found (connection.inbound.octets ++ more)
        have size := (FramedRequest.size_of_first? found).2
        rw [← List.append_assoc] at there
        rw [left, FramedRequest.decode_of_first? there, List.append_assoc,
          List.drop_append_of_le_length size, List.append_assoc]
      have cleared : Accounts limit
          { connection with
            buffer := connection.buffer.consume framed.size
            phase := .cleared framed.request }
          stream (taken ++ connection.buffer.held.take framed.size) (served ++ [framed]) := by
        refine ⟨accounts.bound, ?_, ?_, ?_, ?_⟩
        · rw [accounts.divided, List.append_assoc]
          simp only [left, ReadBuffer.held_consume]
          rw [← List.append_assoc (connection.buffer.held.take framed.size), whole]
        · intro other member
          rcases List.mem_append.mp member with earlier | last
          · exact accounts.small other earlier
          · rw [List.mem_singleton.mp last, ← accounts.bound]
            exact Nat.le_trans (FramedRequest.size_of_first? found).2 within
        · rw [List.map_append, matched]
          rfl
        · intro more
          have whole' := goesOn more
          rw [next, left] at whole'
          simp only [left, ReadBuffer.held_consume]
          rw [List.append_assoc, List.append_assoc served, List.singleton_append, ← whole',
            ← List.append_assoc (connection.buffer.held.take framed.size), ← List.append_assoc
            (connection.buffer.held.take framed.size), whole]
      by_cases stops : stopping = true
      · simp only [if_pos stops]
        exact cleared.finish .stopped
      · simp only [if_neg stops]
        exact ⟨_, _, cleared⟩

/-- A read moves octets from the stream to the buffer. -/
theorem Accounts.read (accounts : Accounts limit connection stream taken served)
    (reading : connection.phase = .reading) {result : ReadResult} {inbound : Inbound}
    (answer : connection.inbound.read? connection.buffer.room = some (result, inbound))
    (stopping : Bool) :
    InStep limit (onRead { connection with inbound := inbound } stopping result) stream := by
  rcases Inbound.octets_of_read? answer with ⟨piece, same, moved⟩ | ⟨noPiece, kept⟩
  · subst same
    have appended : Accounts limit
        { connection with inbound := inbound, buffer := connection.buffer.append piece }
        stream taken served := by
      have unchanged : left
          { connection with inbound := inbound, buffer := connection.buffer.append piece } =
          connection.left := by
        simp only [left, ReadBuffer.held_append, moved, List.append_assoc]
      refine ⟨accounts.bound, ?_, accounts.small, accounts.matched, ?_⟩
      · rw [unchanged]
        exact accounts.divided
      · rw [unchanged]
        exact accounts.goesOn
    exact appended.consider reading stopping
  · have moved : Accounts limit { connection with inbound := inbound } stream taken served := by
      have unchanged : left { connection with inbound := inbound } = connection.left := by
        simp only [left, kept]
      refine ⟨accounts.bound, ?_, accounts.small, accounts.matched, ?_⟩
      · rw [unchanged]
        exact accounts.divided
      · rw [unchanged]
        exact accounts.goesOn
    cases result with
    | octets piece => exact absurd rfl (noPiece piece)
    | ended => exact moved.finish _
    | failed fault => exact moved.finish _

/-- Delivering a reply keeps the connection in step, whatever becomes of the reply. -/
theorem Accounts.reply (accounts : Accounts limit connection stream taken served)
    {request : Request} {call : HandlerCall} (replying : connection.phase = .replying request call)
    (files : Files) : InStep limit (connection.reply files request call) stream := by
  unfold Connection.reply
  have goesOn := accounts.goesOn
  have matched := accounts.matched
  rw [replying] at goesOn
  simp only [owed, replying] at matched
  -- Whatever is written and noted, the octets and the requests are those from before.
  have delivered : ∀ outbound completions, Accounts limit
      { connection with outbound := outbound, completions := completions } stream taken served :=
    fun _ _ => ⟨accounts.bound, accounts.divided, accounts.small, accounts.matched, accounts.goesOn⟩
  dsimp only
  split
  · exact (delivered _ _).finish _
  · split
    · exact (delivered _ _).finish _
    · by_cases kept : request.isKeepAlive = true
      · simp only [if_pos kept]
        refine ⟨taken, served, accounts.bound, accounts.divided, accounts.small, matched, ?_⟩
        intro more
        have follows := goesOn more
        rw [behind, if_pos kept] at follows
        exact follows
      · simp only [if_neg kept]
        exact (delivered _ _).finish _

/-- A step keeps the connection in step, whatever surrounds it. -/
theorem Accounts.advance (accounts : Accounts limit connection stream taken served)
    {surroundings : Surroundings} {next : Connection}
    (step : connection.advance? surroundings = some next) : InStep limit next stream := by
  have goesOn := accounts.goesOn
  have matched := accounts.matched
  cases moves_of_advance step with
  | read reading answer => exact accounts.read reading answer surroundings.stopping
  | call cleared =>
      rw [cleared] at goesOn
      simp only [owed, cleared] at matched
      refine ⟨taken, served, accounts.bound, accounts.divided, accounts.small, ?_, goesOn⟩
      simp only [owed, callHandler, handed, List.map_append, List.map_cons, List.map_nil]
      exact matched
  | comeBack calling returns =>
      rw [calling] at goesOn
      simp only [owed, calling] at matched
      exact ⟨taken, served, accounts.bound, accounts.divided, accounts.small, matched, goesOn⟩
  | reply replying => exact accounts.reply replying surroundings.files

/-! ## Histories -/

/-- Whatever happens to a connection that is in step with what its peer has sent so far, it is in
step with what its peer has sent then. -/
theorem InStep.occur {connection : Connection} {stream : Octets}
    (inStep : InStep limit connection stream) (event : Event) :
    InStep limit (connection.occur event) (stream ++ event.sent) := by
  rcases inStep with ⟨taken, served, accounts⟩
  cases event with
  | send chunk =>
      have grown : left { connection with inbound := connection.inbound.feed chunk } =
          connection.left ++ chunk := by
        simp only [left, Inbound.octets_feed, List.append_assoc]
      refine ⟨taken, served, accounts.bound, ?_, accounts.small, accounts.matched, ?_⟩
      · rw [Connection.occur, grown, accounts.divided, List.append_assoc]
        rfl
      · rw [Connection.occur, grown]
        exact accounts.goesOn.arrive chunk
  | disturb fault =>
      have unchanged : left { connection with inbound := connection.inbound.disturb fault } =
          connection.left := by
        simp only [left, Inbound.octets_disturb]
      simp only [Event.sent, List.append_nil]
      refine ⟨taken, served, accounts.bound, ?_, accounts.small, accounts.matched, ?_⟩
      · rw [Connection.occur, unchanged]
        exact accounts.divided
      · rw [Connection.occur, unchanged]
        exact accounts.goesOn
  | close =>
      simp only [Event.sent, List.append_nil]
      exact ⟨taken, served, accounts.bound, accounts.divided, accounts.small, accounts.matched,
        accounts.goesOn⟩
  | takeWrites budget =>
      simp only [Event.sent, List.append_nil]
      exact ⟨taken, served, accounts.bound, accounts.divided, accounts.small, accounts.matched,
        accounts.goesOn⟩
  | step surroundings =>
      simp only [Event.sent, List.append_nil, Connection.occur]
      cases step : connection.advance? surroundings with
      | none => exact ⟨taken, served, accounts⟩
      | some next => exact accounts.advance step
  | elapse time =>
      simp only [Event.sent, List.append_nil, Connection.occur, Connection.elapse]
      cases phase : connection.phase with
      | calling request call asleep =>
          have goesOn := accounts.goesOn
          have matched := accounts.matched
          rw [phase] at goesOn
          simp only [owed, phase] at matched
          exact ⟨taken, served, accounts.bound, accounts.divided, accounts.small, matched, goesOn⟩
      | reading => exact ⟨taken, served, accounts⟩
      | cleared request => exact ⟨taken, served, accounts⟩
      | replying request call => exact ⟨taken, served, accounts⟩
      | ended ending => exact ⟨taken, served, accounts⟩
  | letGo =>
      simp only [Event.sent, List.append_nil, Connection.occur, Connection.letGo]
      split
      · exact ⟨taken, served, accounts⟩
      · exact accounts.finish _

theorem InStep.occurAll {connection : Connection} {stream : Octets}
    (inStep : InStep limit connection stream) (events : List Event) :
    InStep limit (events.foldl Connection.occur connection) (stream ++ Connection.stream events) := by
  induction events generalizing connection stream with
  | nil =>
      rw [Connection.stream, List.flatMap_nil, List.append_nil]
      exact inStep
  | cons event events inductionHypothesis =>
      have further := inductionHypothesis (inStep.occur event)
      rw [List.append_assoc] at further
      exact further

/-- A new connection has taken nothing of a stream of which nothing has arrived. -/
theorem inStep_new (peer : PeerId) (limit : Nat) : InStep limit (Connection.new peer limit) [] := by
  refine ⟨[], [], rfl, rfl, ?_, rfl, fun _ => rfl⟩
  intro framed member
  cases member

/-- Nothing changes the limit of a connection. -/
theorem limit_after (peer : PeerId) (limit : Nat) (events : List Event) :
    (after peer limit events).limit = limit := by
  rcases (inStep_new peer limit).occurAll events with ⟨_, _, accounts⟩
  exact accounts.bound

/-- Whatever a peer sends, however it is cut into chunks, whatever the limit is, whatever the handler
does, and whenever the server begins to stop or a read or a write fails: the requests that the
handler was called with are a beginning of the decoding of the stream, and head and body of each are
together within the limit. -/
theorem handed_begins_decode (peer : PeerId) (limit : Nat) (events : List Event) :
    ∃ served, served <+: decode (Connection.stream events) ∧
      (after peer limit events).handled.map Prod.fst = served.map FramedRequest.request ∧
      ∀ framed ∈ served, framed.headLength + framed.request.body.length ≤ limit := by
  rcases (inStep_new peer limit).occurAll events with ⟨taken, served, accounts⟩
  exact accounts.handed_begins

end Connection
end PromiseHttp
