import PromiseHttp.Settings.Server
import PromiseHttp.Workers.Worker

namespace PromiseHttp

/-!
# Pools of workers

A pool hands every new connection to one of its workers and stays with that choice.  A pool that is
shut down raises a flag, which keeps handlers from being called for further requests, closes the
queues of its workers, and waits until their threads have come to an end.  A connection that is
dispatched after that finds the queue of its worker closed.
-/

/-- A pool of workers. -/
structure WorkerPool where
  workers : List Worker
  dispatcher : Dispatcher
  /-- Whether handlers are called no more. -/
  stopping : Bool

/-- How a machine starts the threads of a server. -/
structure Startup where
  /-- Why a worker cannot be started, if it cannot. -/
  worker : WorkerId → Option ThreadFault
  /-- Why an acceptor cannot have a thread of its own, if it cannot. -/
  acceptor : Option IoFault

/-- A machine that starts all threads. -/
def Startup.smooth : Startup := ⟨fun _ => none, none⟩

/-- What the connections of a pool depend on. -/
structure ServiceSurroundings where
  /-- What the handler does on a worker with a request. -/
  handler : WorkerId → Request → HandlerCall
  files : Files
  /-- Whether the handler's call for a request comes back. -/
  returns : Request → Bool

namespace WorkerPool

/-- Starts the workers that the settings ask for, one after another.  There is no pool if one of them
cannot be started; those before it come to their end again. -/
def spawn (settings : ServerSettings) (startup : Startup) : Except ServerFault WorkerPool :=
  match settings.validate with
  | .error fault => .error (.settings fault)
  | .ok () =>
    match (List.range settings.threads).findSome? startup.worker with
    | some fault => .error (.ofThread fault)
    | none => .ok ⟨List.replicate settings.threads .new, .new settings.dispatch, false⟩

/-- A pool that has been started has as many new workers as the settings ask for. -/
theorem spawn_eq_ok {settings : ServerSettings} {startup : Startup} {pool : WorkerPool}
    (spawned : spawn settings startup = .ok pool) :
    pool = ⟨List.replicate settings.threads .new, .new settings.dispatch, false⟩ := by
  unfold spawn at spawned
  split at spawned
  · cases spawned
  · split at spawned
    · cases spawned
    · cases spawned
      rfl

/-- With valid settings a pool cannot be started only if one of its workers cannot. -/
theorem spawn_eq_error {settings : ServerSettings} (valid : settings.validate = .ok ())
    {startup : Startup} {fault : ServerFault} (failed : spawn settings startup = .error fault) :
    ∃ id refused, id < settings.threads ∧ startup.worker id = some refused ∧
      fault = .ofThread refused := by
  simp only [spawn, valid] at failed
  split at failed
  · rename_i refused first
    cases failed
    rcases List.exists_of_findSome?_eq_some first with ⟨id, within, why⟩
    exact ⟨id, refused, List.mem_range.mp within, why, rfl⟩
  · cases failed

/-- The number of workers. -/
def size (pool : WorkerPool) : Nat := pool.workers.length

/-- The loads of the workers, by their numbers. -/
def loads (pool : WorkerPool) : List Nat := pool.workers.map Worker.load

/-! ## Dispatching -/

/-- Chooses a worker. -/
def choose (pool : WorkerPool) : WorkerId × WorkerPool :=
  let (worker, dispatcher) := pool.dispatcher.pick pool.loads
  (worker, { pool with dispatcher := dispatcher })

/-- Offers a connection to a worker. -/
def offer (pool : WorkerPool) (worker : WorkerId) (connection : Connection) :
    Except ServerFault WorkerPool :=
  match pool.workers[worker]?.bind fun found => found.offer? connection with
  | some taken => .ok { pool with workers := pool.workers.set worker taken }
  | none => .error (.workerGone worker)

/-- Chooses a worker and offers it a connection.  The choice counts even if the offer fails. -/
def dispatch (pool : WorkerPool) (connection : Connection) :
    Except ServerFault WorkerId × WorkerPool :=
  let (worker, pool) := pool.choose
  match pool.offer worker connection with
  | .ok pool => (.ok worker, pool)
  | .error fault => (.error fault, pool)

/-- Dispatches a stream, unless it cannot be taken off the thread that has accepted it.  The choice
counts even then. -/
def dispatchStream (pool : WorkerPool) (stream : Except IoFault Connection) :
    Except ServerFault WorkerId × WorkerPool :=
  match stream with
  | .ok connection => pool.dispatch connection
  | .error fault => (.error (.io fault), pool.choose.2)

/-! ## Working -/

/-- What the connections of one worker depend on. -/
def around (pool : WorkerPool) (surroundings : ServiceSurroundings) (worker : WorkerId) :
    Connection.Surroundings :=
  ⟨surroundings.handler worker, surroundings.files, pool.stopping, surroundings.returns⟩

/-- Lets every worker take all steps that are possible before anything else happens. -/
def run (pool : WorkerPool) (surroundings : ServiceSurroundings) : WorkerPool :=
  { pool with
    workers := pool.workers.mapIdx fun place worker =>
      worker.run (pool.around surroundings place) }

/-- The pool after some time, in milliseconds, in which no worker made a step. -/
def elapse (time : Nat) (pool : WorkerPool) : WorkerPool :=
  { pool with workers := pool.workers.map (Worker.elapse time) }

/-! ## Shutting down -/

/-- Raises the flag. -/
def raiseFlag (pool : WorkerPool) : WorkerPool := { pool with stopping := true }

/-- Closes the queue of a worker. -/
def closeQueue (pool : WorkerPool) (worker : WorkerId) : WorkerPool :=
  { pool with workers := pool.workers.modify worker Worker.closeQueue }

/-- Closes the queues of all workers. -/
def closeQueues (pool : WorkerPool) : WorkerPool :=
  { pool with workers := pool.workers.map Worker.closeQueue }

/-- Ends the threads that can end. -/
def exitAll (pool : WorkerPool) : WorkerPool :=
  { pool with workers := pool.workers.map fun worker => worker.exit?.getD worker }

/-- The first half of a shutdown, after which no connection is taken and no handler called. -/
def beginShutDown (pool : WorkerPool) : WorkerPool := pool.raiseFlag.closeQueues

/-- The second half of a shutdown: the workers finish what they do not interrupt, and end. -/
def endShutDown (pool : WorkerPool) (surroundings : ServiceSurroundings) : WorkerPool :=
  (pool.run surroundings).exitAll

/-- Shuts the pool down.  Doing so again changes nothing. -/
def shutDown (pool : WorkerPool) (surroundings : ServiceSurroundings) : WorkerPool :=
  pool.beginShutDown.endShutDown surroundings

/-! ## Connections by their peers -/

/-- The connection of a peer. -/
def find? (pool : WorkerPool) (peer : PeerId) : Option Connection :=
  pool.workers.findSome? fun worker => worker.find? peer

/-- Changes the connection of a peer. -/
def modify (pool : WorkerPool) (peer : PeerId) (change : Connection → Connection) : WorkerPool :=
  { pool with workers := pool.workers.map fun worker => worker.modify peer change }

/-- All connections. -/
def connections (pool : WorkerPool) : List Connection :=
  pool.workers.flatMap fun worker => worker.queue ++ worker.tasks

end WorkerPool

end PromiseHttp
