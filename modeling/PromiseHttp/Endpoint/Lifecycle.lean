import PromiseHttp.Endpoint.Address
import PromiseHttp.Workers.Pool

namespace PromiseHttp

/-!
# Endpoints

An endpoint is a server at one address.  It is bound first; then it serves, once; and then it is
stopped for good.  It is stopped, too, if its workers cannot be started.  While it serves, an acceptor
hands the connections that arrive at the address to a pool of workers.  The acceptor ends when the
endpoint is shut down or, if the settings ask for it, at an interrupt from the keyboard; either way
nobody listens at the address from then on, and the pool is shut down.  Connections that arrive before
the endpoint serves wait at the address.
-/

/-- Where an endpoint is in its life. -/
inductive EndpointState where
  | bound
  | serving
  | stopped
  deriving DecidableEq, Repr

/-- What an endpoint makes known about its life. -/
inductive EndpointNotice where
  | serving
  | interrupted
  | shutDown
  deriving DecidableEq, Repr

/-- The machine that an endpoint is bound on. -/
structure Site where
  names : HostNames
  /-- Whether somebody listens at an address already. -/
  isTaken : Address → Bool
  /-- The port that is chosen when none is asked for. -/
  freePort : Nat
  /-- Whether interrupts from the keyboard can be received. -/
  hearsInterrupts : Bool

/-- An endpoint. -/
structure Endpoint where
  address : Address
  settings : ServerSettings
  /-- Whether interrupts from the keyboard can be received. -/
  hearsInterrupts : Bool
  state : EndpointState
  /-- Whether somebody listens at the address. -/
  listening : Bool
  /-- Connections that have not been accepted. -/
  waiting : List Connection
  /-- The workers, once the endpoint has served. -/
  pool : Option WorkerPool
  notices : List EndpointNotice

namespace Endpoint

/-! ## Binding -/

/-- The address that a text names on a machine, if the machine has it and nobody listens there.
Port zero stands for a port that the machine chooses. -/
def place (site : Site) (text : String) : Except ServerFault Address :=
  match Address.resolve site.names text with
  | .error fault => .error (.bind text fault)
  | .ok addresses =>
    match Address.preferred? addresses with
    | none => .error (.resolve text)
    | some address =>
      if !address.host.isOwn then .error (.bind text .addressNotAvailable)
      else if site.isTaken address then .error (.bind text .addressInUse)
      else .ok (if address.port = 0 then { address with port := site.freePort } else address)

/-- An endpoint at the address that a text names.  The settings are looked at first. -/
def bind (site : Site) (text : String) (settings : ServerSettings) :
    Except ServerFault Endpoint :=
  match settings.validate with
  | .error fault => .error (.settings fault)
  | .ok () =>
    (place site text).map fun address =>
      ⟨address, settings, site.hearsInterrupts, .bound, true, [], none, []⟩

/-! ## Serving -/

/-- Adds a notice. -/
def notify (endpoint : Endpoint) (notice : EndpointNotice) : Endpoint :=
  { endpoint with notices := endpoint.notices ++ [notice] }

/-- Nobody listens from now on, and connections that wait are let go. -/
def stopListening (endpoint : Endpoint) : Endpoint :=
  { endpoint with listening := false, waiting := [] }

/-- Starts the workers of an endpoint that is bound and has never served.  If that fails, the endpoint
gives up its address and is stopped. -/
def start (endpoint : Endpoint) (startup : Startup) : Except ServerFault Unit × Endpoint :=
  match endpoint.state with
  | .bound =>
    match WorkerPool.spawn endpoint.settings startup with
    | .ok pool =>
      (.ok (), notify { endpoint with state := .serving, pool := some pool } .serving)
    | .error fault => (.error fault, { endpoint.stopListening with state := .stopped })
  | .serving => (.error .notBound, endpoint)
  | .stopped => (.error .notBound, endpoint)

/-- Gives the acceptor of an endpoint that has been started a thread of its own.  If there is none for
it, the endpoint still counts as serving, but nobody listens. -/
def launch (endpoint : Endpoint) (startup : Startup) : Except ServerFault Unit × Endpoint :=
  match startup.acceptor with
  | none => (.ok (), endpoint)
  | some fault => (.error (.spawn fault), endpoint.stopListening)

/-- Starts the workers of an endpoint and an acceptor with a thread of its own. -/
def serveThreaded (endpoint : Endpoint) (startup : Startup) : Except ServerFault Unit × Endpoint :=
  match endpoint.start startup with
  | (.ok (), started) => started.launch startup
  | refused => refused

/-- What starting an endpoint comes to: its workers are started, or one of them cannot be, or the
endpoint is not bound. -/
inductive Begins (endpoint : Endpoint) (startup : Startup) :
    Except ServerFault Unit × Endpoint → Prop
  | serves {pool : WorkerPool} (state : endpoint.state = .bound)
      (spawned : WorkerPool.spawn endpoint.settings startup = .ok pool) :
      Begins endpoint startup
        (.ok (), notify { endpoint with state := .serving, pool := some pool } .serving)
  | fails {fault : ServerFault} (state : endpoint.state = .bound)
      (failed : WorkerPool.spawn endpoint.settings startup = .error fault) :
      Begins endpoint startup (.error fault, { endpoint.stopListening with state := .stopped })
  | refused (state : endpoint.state ≠ .bound) :
      Begins endpoint startup (.error .notBound, endpoint)

theorem begins_start (endpoint : Endpoint) (startup : Startup) :
    Begins endpoint startup (endpoint.start startup) := by
  unfold start
  cases state : endpoint.state with
  | bound =>
      dsimp only
      cases spawned : WorkerPool.spawn endpoint.settings startup with
      | ok pool => exact .serves state spawned
      | error fault => exact .fails state spawned
  | serving => exact .refused (by rw [state]; nofun)
  | stopped => exact .refused (by rw [state]; nofun)

/-- An endpoint that starts has been bound. -/
theorem start_eq_ok {endpoint begun : Endpoint} {startup : Startup}
    (started : endpoint.start startup = (.ok (), begun)) :
    endpoint.state = .bound ∧
      ∃ pool, WorkerPool.spawn endpoint.settings startup = .ok pool ∧
        begun = notify { endpoint with state := .serving, pool := some pool } .serving := by
  have begins := begins_start endpoint startup
  rw [started] at begins
  cases begins with
  | serves state spawned => exact ⟨state, _, spawned, rfl⟩

/-- Whether the acceptor is at work. -/
def isAccepting (endpoint : Endpoint) : Bool :=
  endpoint.listening && endpoint.pool.isSome

/-- A connection arrives at the address; it is refused if nobody listens there. -/
def arrive? (endpoint : Endpoint) (peer : PeerId) : Option Endpoint :=
  if endpoint.listening then
    some { endpoint with
      waiting := endpoint.waiting ++ [Connection.new peer endpoint.settings.maxRequestSize] }
  else none

/-- The acceptor hands the connection that has waited longest to the pool. -/
def accept? (endpoint : Endpoint) : Option Endpoint :=
  match endpoint.listening, endpoint.pool, endpoint.waiting with
  | true, some pool, connection :: rest =>
    some { endpoint with waiting := rest, pool := some (pool.dispatch connection).2 }
  | _, _, _ => none

/-- The acceptor hands over all connections that wait, at most as many as the fuel allows. -/
def acceptAll : Nat → Endpoint → Endpoint
  | 0, endpoint => endpoint
  | fuel + 1, endpoint =>
    match endpoint.accept? with
    | some next => acceptAll fuel next
    | none => endpoint

/-- The acceptor and the workers do all that is possible before anything else happens. -/
def run (endpoint : Endpoint) (surroundings : ServiceSurroundings) : Endpoint :=
  let endpoint := acceptAll endpoint.waiting.length endpoint
  { endpoint with pool := endpoint.pool.map fun pool => pool.run surroundings }

/-- The endpoint after some time, in milliseconds, in which nobody made a step. -/
def elapse (time : Nat) (endpoint : Endpoint) : Endpoint :=
  { endpoint with pool := endpoint.pool.map (WorkerPool.elapse time) }

/-! ## Stopping -/

/-- An interrupt from the keyboard, which only an acceptor at work can notice, and only if the
settings ask for it.  The endpoint does not count as shut down. -/
def interrupt (endpoint : Endpoint) (surroundings : ServiceSurroundings) : Endpoint :=
  if endpoint.isAccepting && endpoint.settings.stopOnInterrupt && endpoint.hearsInterrupts then
    let endpoint := endpoint.stopListening.notify .interrupted
    { endpoint with pool := endpoint.pool.map fun pool => pool.shutDown surroundings }
  else endpoint

/-- The first half of a shutdown, after which no connection is taken and no handler called. -/
def beginShutDown (endpoint : Endpoint) : Endpoint :=
  { endpoint.stopListening with
    state := .stopped
    pool := endpoint.pool.map WorkerPool.beginShutDown }

/-- The second half of a shutdown: the workers come to their end. -/
def endShutDown (endpoint : Endpoint) (surroundings : ServiceSurroundings) : Endpoint :=
  { endpoint with pool := endpoint.pool.map fun pool => pool.endShutDown surroundings }

/-- Shuts the endpoint down.  Only an endpoint that serves makes it known. -/
def shutDown (endpoint : Endpoint) (surroundings : ServiceSurroundings) : Endpoint :=
  let down := endpoint.beginShutDown.endShutDown surroundings
  match endpoint.state with
  | .serving => down.notify .shutDown
  | .bound => down
  | .stopped => down

/-! ## Connections by their peers -/

/-- The connection of a peer, if the endpoint has it. -/
def find? (endpoint : Endpoint) (peer : PeerId) : Option Connection :=
  (endpoint.waiting.find? fun connection => connection.peer == peer).or
    (endpoint.pool.bind fun pool => pool.find? peer)

/-- Changes the connection of a peer. -/
def modify (endpoint : Endpoint) (peer : PeerId) (change : Connection → Connection) : Endpoint :=
  { endpoint with
    waiting := endpoint.waiting.map fun connection =>
      if connection.peer = peer then change connection else connection
    pool := endpoint.pool.map fun pool => pool.modify peer change }

end Endpoint

end PromiseHttp
