import PromiseHttp.Connection.Serve
import PromiseHttp.Workers.Dispatcher

namespace PromiseHttp

/-!
# Workers

A worker is a thread with a queue of connections on their way to it and the connections that it
serves.  It does one thing at a time: while it calls a handler for one connection, nothing else of
it moves.  Its load counts the connections that were offered to it and have not given their place
back.  A connection gives its place back when its work comes to an end, so one that crashes never
does, and neither does one that the worker lets go when it stops.
-/

/-- A worker. -/
structure Worker where
  /-- Whether connections may still be offered. -/
  accepting : Bool
  /-- Whether the thread has not come to its end. -/
  running : Bool
  load : Nat
  /-- Connections that the thread has not received yet. -/
  queue : List Connection
  /-- Connections that the thread has received, those included that have ended. -/
  tasks : List Connection

namespace Connection

/-- Whether a connection that has ended gives its place back. -/
def givesBack (connection : Connection) : Bool :=
  match connection.ending? with
  | none => false
  | some .crashed => false
  | some .dropped => false
  | some _ => true

/-- The connection when its worker lets it go. -/
def letGo (connection : Connection) : Connection :=
  if connection.ending?.isSome then connection else connection.finish .dropped

end Connection

namespace Worker

/-- A worker that has just been started. -/
def new : Worker := ⟨true, true, 0, [], []⟩

/-- Whether the thread is in the middle of something that it does not interrupt. -/
def isBusy (worker : Worker) : Bool :=
  worker.tasks.any Connection.isBusy

/-! ## Steps -/

/-- Offers a connection, which is taken unless the queue has been closed. -/
def offer? (worker : Worker) (connection : Connection) : Option Worker :=
  if worker.accepting then
    some { worker with load := worker.load + 1, queue := worker.queue ++ [connection] }
  else none

/-- Closes the queue behind what is in it. -/
def closeQueue (worker : Worker) : Worker := { worker with accepting := false }

/-- Receives the connection that has waited longest. -/
def receive? (worker : Worker) : Option Worker :=
  if worker.running && !worker.isBusy then
    match worker.queue with
    | connection :: rest =>
      some { worker with queue := rest, tasks := worker.tasks ++ [connection] }
    | [] => none
  else none

/-- Receives the connection that has waited longest, but cannot register its stream with the thread.
The connection ends before it is served, and gives its place back at once. -/
def discard? (worker : Worker) (fault : IoFault) : Option Worker :=
  if worker.running && !worker.isBusy then
    match worker.queue with
    | connection :: rest =>
      some { worker with
        load := worker.load - 1
        queue := rest
        tasks := worker.tasks ++ [connection.finish (.failed (.io fault))] }
    | [] => none
  else none

/-- Lets the connection at a place make a step. -/
def advance? (worker : Worker) (surroundings : Connection.Surroundings) (place : Nat) :
    Option Worker :=
  match worker.tasks[place]? with
  | none => none
  | some connection =>
    if worker.running && (connection.isBusy || !worker.isBusy) then
      match connection.advance? surroundings with
      | none => none
      | some next =>
        some { worker with
          load := if next.givesBack then worker.load - 1 else worker.load
          tasks := worker.tasks.set place next }
    else none

/-- Ends the thread, which is possible once the queue is closed and empty.  Connections that are
still served are let go. -/
def exit? (worker : Worker) : Option Worker :=
  if worker.running && !worker.accepting && worker.queue.isEmpty && !worker.isBusy then
    some { worker with running := false, tasks := worker.tasks.map Connection.letGo }
  else none

/-! ## Runs -/

/-- The first step that is possible. -/
def step? (worker : Worker) (surroundings : Connection.Surroundings) : Option Worker :=
  match worker.receive? with
  | some next => some next
  | none => (List.range worker.tasks.length).findSome? (worker.advance? surroundings)

/-- A bound on the steps that are possible. -/
def stepBound (worker : Worker) : Nat :=
  tally (fun connection => connection.stepBound + 1) (worker.queue ++ worker.tasks)

/-- Takes steps while there are any, at most as many as the fuel allows. -/
def runFor : Nat → Worker → Connection.Surroundings → Worker
  | 0, worker, _ => worker
  | fuel + 1, worker, surroundings =>
    match worker.step? surroundings with
    | some next => runFor fuel next surroundings
    | none => worker

/-- Takes all steps that are possible before anything else happens. -/
def run (worker : Worker) (surroundings : Connection.Surroundings) : Worker :=
  runFor worker.stepBound worker surroundings

/-- The worker after some time, in milliseconds, in which it made no step. -/
def elapse (time : Nat) (worker : Worker) : Worker :=
  { worker with tasks := worker.tasks.map (Connection.elapse time) }

/-! ## Connections by their peers -/

/-- The connection of a peer. -/
def find? (worker : Worker) (peer : PeerId) : Option Connection :=
  (worker.queue ++ worker.tasks).find? fun connection => connection.peer == peer

/-- Changes the connection of a peer. -/
def modify (worker : Worker) (peer : PeerId) (change : Connection → Connection) : Worker :=
  let visit (connection : Connection) : Connection :=
    if connection.peer = peer then change connection else connection
  { worker with queue := worker.queue.map visit, tasks := worker.tasks.map visit }

end Worker

end PromiseHttp
