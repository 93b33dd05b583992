import PromiseHttp.Proofs.Stream.Reading
import PromiseHttp.Workers.Worker

namespace PromiseHttp

/-!
# Histories of a connection

Everything that can happen to a connection is one of a few events: its peer sends a chunk, makes a
read fail, closes, or takes no more than so many writes from now on; the connection makes a step in
some surroundings; time passes; its worker lets it go.  A history is any list of events.  Nothing
ties the surroundings of one step to those of another, so the handler may do something else at every
call, files may change, and the server may begin to stop between any two steps.

A step of a connection is one of four moves: a read, a call of the handler, its return, or the delivery
of a reply.  Whatever a step preserves is shown for these.
-/

namespace Connection

/-- What can happen to a connection. -/
inductive Event where
  /-- The peer sends a chunk. -/
  | send (chunk : Octets)
  /-- A read at this place of the stream fails. -/
  | disturb (fault : IoFault)
  /-- The peer sends no more. -/
  | close
  /-- From now on the peer takes only so many writes, or all. -/
  | takeWrites (budget : Option WriteBudget)
  /-- The connection makes a step, if it can. -/
  | step (surroundings : Surroundings)
  | elapse (time : Nat)
  /-- The worker lets the connection go. -/
  | letGo

/-- Whether an event is something that the peer does. -/
def Event.byPeer : Event → Bool
  | .send _ => true
  | .disturb _ => true
  | .close => true
  | .takeWrites _ => true
  | .step _ => false
  | .elapse _ => false
  | .letGo => false

/-- The connection after an event. -/
def occur (connection : Connection) : Event → Connection
  | .send chunk => { connection with inbound := connection.inbound.feed chunk }
  | .disturb fault => { connection with inbound := connection.inbound.disturb fault }
  | .close => { connection with inbound := connection.inbound.close }
  | .takeWrites budget =>
    { connection with outbound := { connection.outbound with budget := budget } }
  | .step surroundings => (connection.advance? surroundings).getD connection
  | .elapse time => connection.elapse time
  | .letGo => connection.letGo

/-- A new connection after a history. -/
def after (peer : PeerId) (limit : Nat) (events : List Event) : Connection :=
  events.foldl occur (Connection.new peer limit)

/-- A history that goes on goes on from where it was. -/
theorem after_append (peer : PeerId) (limit : Nat) (events later : List Event) :
    after peer limit (events ++ later) = later.foldl occur (after peer limit events) := by
  rw [after, List.foldl_append]
  rfl

/-- The octets that the peer sends with an event. -/
def Event.sent : Event → Octets
  | .send chunk => chunk
  | _ => []

/-- All octets that the peer sends in a history, however they were cut into chunks. -/
def stream (events : List Event) : Octets := events.flatMap Event.sent

/-! ## Steps -/

/-- What a connection does in one step. -/
inductive Moves (surroundings : Surroundings) (connection : Connection) : Connection → Prop
  | read {result : ReadResult} {inbound : Inbound} (reading : connection.phase = .reading)
      (answer : connection.inbound.read? connection.buffer.room = some (result, inbound)) :
      Moves surroundings connection
        (onRead { connection with inbound := inbound } surroundings.stopping result)
  | call {request : Request} (cleared : connection.phase = .cleared request) :
      Moves surroundings connection
        (connection.callHandler request (surroundings.handler request))
  | comeBack {request : Request} {call : HandlerCall}
      (calling : connection.phase = .calling request call 0)
      (returns : surroundings.returns request = true) :
      Moves surroundings connection { connection with phase := .replying request call }
  | reply {request : Request} {call : HandlerCall}
      (replying : connection.phase = .replying request call) :
      Moves surroundings connection (connection.reply surroundings.files request call)

/-- A step is a read, a call of the handler, its return, or the delivery of a reply. -/
theorem moves_of_advance {surroundings : Surroundings} {connection next : Connection}
    (step : connection.advance? surroundings = some next) : Moves surroundings connection next := by
  unfold advance? at step
  cases phase : connection.phase with
  | reading =>
      simp only [phase] at step
      cases answer : connection.inbound.read? connection.buffer.room with
      | none => simp only [answer, reduceCtorEq] at step
      | some pair =>
          simp only [answer, Option.some.injEq, ← phase] at step
          subst step
          exact .read phase answer
  | cleared request =>
      simp only [phase, Option.some.injEq] at step
      subst step
      exact .call phase
  | calling request call asleep =>
      simp only [phase] at step
      split at step
      · rename_i returns
        simp only [Bool.and_eq_true, decide_eq_true_eq] at returns
        rcases returns with ⟨rfl, returns⟩
        cases step
        exact .comeBack phase returns
      · cases step
  | replying request call =>
      simp only [phase, Option.some.injEq] at step
      subst step
      exact .reply phase
  | ended ending => simp only [phase, reduceCtorEq] at step

end Connection

end PromiseHttp
