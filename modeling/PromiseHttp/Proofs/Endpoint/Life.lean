import PromiseHttp.Endpoint.Lifecycle
import PromiseHttp.Proofs.Workers.Closing

namespace PromiseHttp
namespace Endpoint

/-!
# The life of an endpoint, step by step

An endpoint is served and shut down by calls, which may come from several threads.  Serving starts the
workers and an acceptor, either on a thread of its own, which the call notes down afterwards, or on the
thread of the call, which comes back when the acceptor has ended.  The machine may have no thread for a
worker, which leaves the endpoint stopped, or none for the acceptor, which leaves it serving with nobody
at its address.  A shutdown tells the acceptor to stop, ends the serving, waits for the acceptor if it has
been noted down, and shuts the pool down.  The acceptor, too, shuts the pool down when it is told to stop
or interrupted.  All of these are separate steps, and connections, requests and interrupts may come
between any two of them.
-/

/-- Where the acceptor of an endpoint has got to. -/
inductive Acceptor where
  | absent
  /-- It gets a thread next. -/
  | made
  /-- There was no thread for it. -/
  | lost
  | accepting
  /-- It takes no more connections, and gives up the address next. -/
  | leaving
  /-- It shuts the pool down; what has come of that stands at a place. -/
  | closing (place : Nat)
  | ended
  deriving DecidableEq

/-- Where a call to an endpoint has got to. -/
inductive Call where
  /-- It starts the endpoint next, with the acceptor on a thread of its own or on that of the call, as
  the machine has threads. -/
  | starting (threaded : Bool) (startup : Startup)
  /-- The workers have been started, and the acceptor gets its thread next. -/
  | launching (startup : Startup)
  /-- There was no thread for the acceptor, and the call has failed with that. -/
  | stranded (fault : ServerFault)
  /-- The acceptor has been started, and is noted down next. -/
  | noting
  /-- The acceptor is at work on the thread of the call. -/
  | hosting
  | served (result : Except ServerFault Unit)
  /-- It tells the acceptor to stop next. -/
  | telling
  /-- It ends the serving next. -/
  | stopping
  /-- It waits for the acceptor. -/
  | awaiting
  /-- It shuts the pool down; what has come of that stands at a place. -/
  | closing (place : Nat)
  /-- The pool is down, and the shutdown is made known next. -/
  | announcing
  /-- A shutdown has returned, after it had found the endpoint in a state. -/
  | shut (found : EndpointState)

namespace Call

/-- Whether a call has started the endpoint. -/
def hasStarted : Call → Bool
  | launching _ => true
  | stranded _ => true
  | noting => true
  | hosting => true
  | served (.ok _) => true
  | _ => false

def hasReturned : Call → Bool
  | stranded _ => true
  | served _ => true
  | shut _ => true
  | _ => false

/-- Whether a call has ended the serving. -/
def endsServing : Call → Bool
  | awaiting => true
  | closing _ => true
  | announcing => true
  | shut .serving => true
  | _ => false

/-- Whether a call is just shutting the pool down. -/
def isClosing : Call → Bool
  | closing _ => true
  | _ => false

/-- Whether a call has shut the pool down. -/
def hasClosed : Call → Bool
  | announcing => true
  | shut .serving => true
  | _ => false

/-- Whether a call shuts the pool down or has done so. -/
def closes (call : Call) : Bool := call.isClosing || call.hasClosed

/-- Whether a call has shut the pool down and has returned. -/
def hasAnnounced : Call → Bool
  | shut .serving => true
  | _ => false

/-- Whether a call is a shutdown that has left the endpoint stopped. -/
def hasStopped : Call → Bool
  | awaiting => true
  | closing _ => true
  | announcing => true
  | shut _ => true
  | _ => false

end Call

/-- An endpoint with its acceptor and the calls to it. -/
structure Life where
  endpoint : Endpoint
  /-- Whether the acceptor has been told to stop. -/
  told : Bool
  /-- Whether the acceptor has been noted down. -/
  noted : Bool
  acceptor : Acceptor
  /-- The workers whose threads somebody has taken hold of. -/
  taken : List WorkerId
  /-- What has come of the attempts to shut the pool down. -/
  closers : List WorkerPool.Closer
  calls : List Call

namespace Life

/-- The life of an endpoint that has just been bound. -/
def start (endpoint : Endpoint) : Life := ⟨endpoint, false, false, .absent, [], [], []⟩

/-- Somebody begins to shut the pool down. -/
def close (life : Life) : Life := { life with closers := life.closers ++ [.starting] }

/-- The next step of a call; none if it has returned or has to wait. -/
def step? (life : Life) : Call → Option (Life × Call)
  | .starting threaded startup =>
    match life.endpoint.start startup, threaded with
    | (.error fault, endpoint), _ => some ({ life with endpoint := endpoint }, .served (.error fault))
    | (.ok (), endpoint), true =>
      some ({ life with endpoint := endpoint, acceptor := .made }, .launching startup)
    | (.ok (), endpoint), false =>
      some ({ life with endpoint := endpoint, acceptor := .accepting }, .hosting)
  | .launching startup =>
    match life.endpoint.launch startup with
    | (.ok (), endpoint) => some ({ life with endpoint := endpoint, acceptor := .accepting }, .noting)
    | (.error fault, endpoint) =>
      some ({ life with endpoint := endpoint, acceptor := .lost }, .stranded fault)
  | .stranded _ => none
  | .noting =>
    some ({ life with noted := life.noted || life.endpoint.state = .serving }, .served (.ok ()))
  | .hosting => if life.acceptor = .ended then some (life, .served (.ok ())) else none
  | .served _ => none
  | .telling => some ({ life with told := true }, .stopping)
  | .stopping =>
    match life.endpoint.state with
    | .bound =>
      some ({ life with endpoint := { life.endpoint.stopListening with state := .stopped } },
        .shut .bound)
    | .serving =>
      let stopped := { life with endpoint := { life.endpoint with state := .stopped } }
      if life.noted then some (stopped, .awaiting)
      else some (stopped.close, .closing life.closers.length)
    | .stopped => some (life, .shut .stopped)
  | .awaiting =>
    if life.acceptor = .ended then some (life.close, .closing life.closers.length) else none
  | .closing place =>
    if life.closers[place]? = some .returned then some (life, .announcing) else none
  | .announcing =>
    some ({ life with endpoint := life.endpoint.notify .shutDown }, .shut .serving)
  | .shut _ => none

/-- The life after the next step of the call at a place, if it can make one. -/
def advance? (life : Life) (place : Nat) : Option Life :=
  (life.calls[place]?.bind life.step?).map fun (next, call) =>
    { next with calls := life.calls.set place call }

/-- The next step of the acceptor towards its end, if it can make one. -/
def leave? (life : Life) : Option Life :=
  match life.acceptor with
  | .accepting => if life.told then some { life with acceptor := .leaving } else none
  | .leaving =>
    some { life.close with
      endpoint := life.endpoint.stopListening
      acceptor := .closing life.closers.length }
  | .closing place =>
    if life.closers[place]? = some .returned then some { life with acceptor := .ended } else none
  | _ => none

/-- An interrupt from the keyboard, if the acceptor notices it. -/
def interrupt? (life : Life) : Option Life :=
  if life.acceptor = .accepting && life.endpoint.settings.stopOnInterrupt &&
      life.endpoint.hearsInterrupts then
    some { life with endpoint := life.endpoint.notify .interrupted, acceptor := .leaving }
  else none

/-- The acceptor hands a connection to the pool. -/
def accept? (life : Life) : Option Life :=
  if life.acceptor = .accepting then
    life.endpoint.accept?.map fun next => { life with endpoint := next }
  else none

/-- Something happens to the pool, if there is one. -/
def atPool (life : Life) (event : WorkerPool.Closing.Event) : Life :=
  match life.endpoint.pool with
  | none => life
  | some pool =>
    let closing := WorkerPool.Closing.occur ⟨pool, life.taken, life.closers⟩ event
    { life with
      endpoint := { life.endpoint with pool := some closing.pool }
      taken := closing.taken
      closers := closing.closers }

/-- What can happen in the life of an endpoint. -/
inductive Event where
  /-- A peer connects to the address. -/
  | arrive (peer : PeerId)
  /-- A peer does something on its connection. -/
  | touch (peer : PeerId) (event : Connection.Event)
  /-- The acceptor hands a connection to the pool. -/
  | accept
  /-- A worker makes a step. -/
  | work (service : ServiceSurroundings) (id : WorkerId) (step : Worker.Step)
  /-- A worker cannot register the stream that has waited longest. -/
  | discard (id : WorkerId) (fault : IoFault)
  /-- The thread of a worker comes to its end. -/
  | exit (id : WorkerId)
  | elapse (time : Nat)
  | interrupt
  /-- The acceptor makes a step towards its end. -/
  | leave
  /-- An attempt to shut the pool down makes a step. -/
  | close (place : Nat)
  /-- A call begins that serves the endpoint, with an acceptor on a thread of its own or not. -/
  | serve (threaded : Bool) (startup : Startup)
  /-- A call begins that shuts the endpoint down, as giving it up does. -/
  | shutDown
  /-- The call at a place makes a step. -/
  | advance (place : Nat)

/-- The life after an event.  What is not possible changes nothing. -/
def occur (life : Life) : Event → Life
  | .arrive peer => { life with endpoint := (life.endpoint.arrive? peer).getD life.endpoint }
  | .touch peer event =>
    if event.byPeer then
      { life with endpoint := life.endpoint.modify peer (Connection.occur · event) }
    else life
  | .accept => life.accept?.getD life
  | .work service id step => life.atPool (.usual (.work service id step))
  | .discard id fault => life.atPool (.usual (.discard id fault))
  | .exit id => life.atPool (.exit id)
  | .elapse time => { life with endpoint := life.endpoint.elapse time }
  | .interrupt => life.interrupt?.getD life
  | .leave => life.leave?.getD life
  | .close place => life.atPool (.close place)
  | .serve threaded startup => { life with calls := life.calls ++ [.starting threaded startup] }
  | .shutDown => { life with calls := life.calls ++ [.telling] }
  | .advance place => (life.advance? place).getD life

/-- The life after a history. -/
def occurAll (life : Life) (events : List Event) : Life := events.foldl occur life

/-! ## What the steps do -/

/-- What a step of a call does. -/
inductive Steps (life : Life) : Call → Life → Call → Prop
  | starts {threaded : Bool} {startup : Startup} {pool : WorkerPool}
      (state : life.endpoint.state = .bound)
      (spawned : WorkerPool.spawn life.endpoint.settings startup = .ok pool) :
      Steps life (.starting threaded startup)
        { life with
          endpoint := notify { life.endpoint with state := .serving, pool := some pool } .serving
          acceptor := if threaded then .made else .accepting }
        (if threaded then .launching startup else .hosting)
  | fails {threaded : Bool} {startup : Startup} {fault : ServerFault}
      (state : life.endpoint.state = .bound)
      (failed : WorkerPool.spawn life.endpoint.settings startup = .error fault) :
      Steps life (.starting threaded startup)
        { life with endpoint := { life.endpoint.stopListening with state := .stopped } }
        (.served (.error fault))
  | refused {threaded : Bool} {startup : Startup} (state : life.endpoint.state ≠ .bound) :
      Steps life (.starting threaded startup) life (.served (.error .notBound))
  | launches {startup : Startup} (smooth : startup.acceptor = none) :
      Steps life (.launching startup) { life with acceptor := .accepting } .noting
  | strands {startup : Startup} {fault : IoFault} (none_left : startup.acceptor = some fault) :
      Steps life (.launching startup)
        { life with endpoint := life.endpoint.stopListening, acceptor := .lost }
        (.stranded (.spawn fault))
  | notes : Steps life .noting
      { life with noted := life.noted || life.endpoint.state = .serving } (.served (.ok ()))
  | comesBack (ended : life.acceptor = .ended) : Steps life .hosting life (.served (.ok ()))
  | tells : Steps life .telling { life with told := true } .stopping
  | stopsBound (state : life.endpoint.state = .bound) :
      Steps life .stopping
        { life with endpoint := { life.endpoint.stopListening with state := .stopped } } (.shut .bound)
  | stopsNoted (state : life.endpoint.state = .serving) (noted : life.noted = true) :
      Steps life .stopping { life with endpoint := { life.endpoint with state := .stopped } } .awaiting
  | stopsUnnoted (state : life.endpoint.state = .serving) (unnoted : life.noted = false) :
      Steps life .stopping
        (close { life with endpoint := { life.endpoint with state := .stopped } })
        (.closing life.closers.length)
  | stopsAgain (state : life.endpoint.state = .stopped) : Steps life .stopping life (.shut .stopped)
  | awaits (ended : life.acceptor = .ended) :
      Steps life .awaiting life.close (.closing life.closers.length)
  | closes {place : Nat} (down : life.closers[place]? = some .returned) :
      Steps life (.closing place) life .announcing
  | announces : Steps life .announcing
      { life with endpoint := life.endpoint.notify .shutDown } (.shut .serving)

theorem steps {life next : Life} {before after : Call}
    (step : life.step? before = some (next, after)) : Steps life before next after := by
  cases before with
  | starting threaded startup =>
      have begins := begins_start life.endpoint startup
      simp only [step?] at step
      generalize life.endpoint.start startup = result at begins step
      cases begins with
      | serves state spawned =>
          cases threaded with
          | true =>
              cases step
              exact .starts state spawned
          | false =>
              cases step
              exact .starts state spawned
      | fails state failed =>
          cases step
          exact .fails state failed
      | refused state =>
          cases step
          exact .refused state
  | launching startup =>
      simp only [step?, launch] at step
      cases acceptor : startup.acceptor with
      | none =>
          rw [acceptor] at step
          cases step
          exact .launches acceptor
      | some fault =>
          rw [acceptor] at step
          cases step
          exact .strands acceptor
  | stranded fault => cases step
  | noting =>
      cases step
      exact .notes
  | hosting =>
      simp only [step?] at step
      split at step
      · rename_i ended
        cases step
        exact .comesBack ended
      · cases step
  | served result => cases step
  | telling =>
      cases step
      exact .tells
  | stopping =>
      simp only [step?] at step
      split at step
      · rename_i state
        cases step
        exact .stopsBound state
      · rename_i state
        split at step
        · rename_i noted
          cases step
          exact .stopsNoted state noted
        · rename_i unnoted
          cases step
          exact .stopsUnnoted state (Bool.not_eq_true _ ▸ unnoted)
      · rename_i state
        cases step
        exact .stopsAgain state
  | awaiting =>
      simp only [step?] at step
      split at step
      · rename_i ended
        cases step
        exact .awaits ended
      · cases step
  | closing place =>
      simp only [step?] at step
      split at step
      · rename_i down
        cases step
        exact .closes down
      · cases step
  | announcing =>
      cases step
      exact .announces
  | shut found => cases step

/-- The shutdown of an endpoint that has never served is done in one step. -/
theorem step?_stopping_of_bound {life : Life} (state : life.endpoint.state = .bound)
    (unserved : life.endpoint.pool = none) (surroundings : ServiceSurroundings) :
    life.step? .stopping =
      some ({ life with endpoint := life.endpoint.shutDown surroundings }, .shut .bound) := by
  simp only [step?, state, Endpoint.shutDown, beginShutDown, endShutDown, stopListening, unserved,
    Option.map_none]

/-- What a step of a call at a place does. -/
theorem advance?_eq_some {life next : Life} {place : Nat} (step : life.advance? place = some next) :
    ∃ before middle after, life.calls[place]? = some before ∧ Steps life before middle after ∧
      next = { middle with calls := life.calls.set place after } := by
  unfold advance? at step
  rcases Option.map_eq_some_iff.mp step with ⟨⟨middle, after⟩, taken, rfl⟩
  rcases Option.bind_eq_some_iff.mp taken with ⟨before, there, goes⟩
  exact ⟨before, middle, after, there, steps goes, rfl⟩

/-- What the acceptor does on its way to its end. -/
inductive Leaves (life : Life) : Life → Prop
  | heeds (accepting : life.acceptor = .accepting) (told : life.told = true) :
      Leaves life { life with acceptor := .leaving }
  | interrupted (accepting : life.acceptor = .accepting) :
      Leaves life
        { life with endpoint := life.endpoint.notify .interrupted, acceptor := .leaving }
  | closes (leaving : life.acceptor = .leaving) :
      Leaves life { life.close with
        endpoint := life.endpoint.stopListening
        acceptor := .closing life.closers.length }
  | ends {place : Nat} (closing : life.acceptor = .closing place)
      (down : life.closers[place]? = some .returned) : Leaves life { life with acceptor := .ended }

theorem leaves {life next : Life} (step : life.leave? = some next) : Leaves life next := by
  unfold leave? at step
  split at step
  · rename_i accepting
    split at step
    · rename_i told
      cases step
      exact .heeds accepting told
    · cases step
  · rename_i leaving
    cases step
    exact .closes leaving
  · rename_i place closing
    split at step
    · rename_i down
      cases step
      exact .ends closing down
    · cases step
  · cases step

theorem leaves_of_interrupt {life next : Life} (step : life.interrupt? = some next) :
    Leaves life next := by
  unfold interrupt? at step
  split at step
  · rename_i noticed
    simp only [Bool.and_eq_true, decide_eq_true_eq] at noticed
    cases step
    exact .interrupted noticed.1.1
  · cases step

end Life

end Endpoint

namespace WorkerPool

/-! ## What happens beside the calls -/

/-- A step changes the attempt that makes it, which has not come to its end. -/
theorem Closing.closers_of_advance {closing next : Closing} {place : Nat}
    (step : closing.advance? place = some next) :
    ∃ before after, closing.closers[place]? = some before ∧ before ≠ .returned ∧
      next.closers = closing.closers.set place after := by
  cases Closing.advances step with
  | raises there => exact ⟨_, _, there, nofun, rfl⟩
  | closes there => exact ⟨_, _, there, nofun, rfl⟩
  | hasClosed there all => exact ⟨_, _, there, nofun, rfl⟩
  | takes there => exact ⟨_, _, there, nofun, rfl⟩
  | skips there elsewhere => exact ⟨_, _, there, nofun, rfl⟩
  | joins there ended => exact ⟨_, _, there, nofun, rfl⟩
  | returns there all => exact ⟨_, _, there, nofun, rfl⟩

/-- What may become of a pool and of the attempts to shut it down. -/
structure Closing.Goes (before after : Closing) : Prop where
  sound : before.Sound → after.Sound
  alters : Alters before.pool after.pool
  length : after.closers.length = before.closers.length
  /-- An attempt that has come to its end stays there. -/
  returned : ∀ place : Nat, before.closers[place]? = some .returned →
    after.closers[place]? = some .returned

theorem Closing.Goes.of_alters {before : Closing} {next : WorkerPool}
    (alters : Alters before.pool next) : before.Goes { before with pool := next } :=
  ⟨fun sound => sound.alters alters, alters, rfl, fun _ down => down⟩

theorem Closing.goes_occur (closing : Closing) {event : Closing.Event} (known : event ≠ .call) :
    closing.Goes (closing.occur event) := by
  have sound : closing.Sound → (closing.occur event).Sound := fun sound => sound.occur event
  have alters := closing.alters_occur event
  cases event with
  | usual event => exact ⟨sound, alters, rfl, fun _ down => down⟩
  | exit id => exact ⟨sound, alters, rfl, fun _ down => down⟩
  | call => exact absurd rfl known
  | close place =>
      cases step : closing.advance? place with
      | none =>
          simp only [Closing.occur, step, Option.getD_none]
          exact ⟨id, .of_workers rfl id, rfl, fun _ down => down⟩
      | some next =>
          simp only [Closing.occur, step, Option.getD_some] at sound alters ⊢
          rcases Closing.closers_of_advance step with ⟨before, after, there, awake, same⟩
          refine ⟨sound, alters, by rw [same, List.length_set], fun other down => ?_⟩
          rw [same, List.getElem?_set_ne, down]
          rintro rfl
          rw [there] at down
          exact awake (Option.some.inj down)

theorem alters_dispatch (pool : WorkerPool) {connection : Connection}
    (reading : connection.phase = .reading) (new : connection.handled = []) :
    Alters pool (pool.dispatch connection).2 := by
  have chosen : Alters pool pool.choose.2 := .of_workers rfl fun flag => flag
  simp only [dispatch]
  cases offered : pool.choose.2.offer pool.choose.1 connection with
  | error fault => exact chosen
  | ok next =>
      rcases offer_eq_ok offered with ⟨worker, there, rfl⟩
      have changes : Alters pool.choose.2 { pool.choose.2 with
          workers := pool.choose.2.workers.set pool.choose.1 (worker.offered connection) } := by
        refine .set there (.offered ?_ reading new)
        by_contra closed
        simp only [offer, there, Option.bind_some, Worker.offer?, if_neg closed, reduceCtorEq]
          at offered
      exact ⟨changes.size, changes.flag, changes.workers⟩

end WorkerPool

end PromiseHttp
