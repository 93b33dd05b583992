import PromiseHttp.Endpoint.Lifecycle

namespace PromiseHttp

/-!
# Services

What is tried in a rehearsal: an endpoint, or a pool of workers without an endpoint in front of it.
-/

/-- What is tried. -/
inductive Service where
  | endpoint (endpoint : Endpoint)
  | pool (pool : WorkerPool)

namespace Service

/-- The pool of a service, if it has one. -/
def pool? : Service → Option WorkerPool
  | .endpoint server => server.pool
  | .pool workers => some workers

/-- The loads of the workers, if there are any. -/
def loads (service : Service) : List Nat := (service.pool?.map WorkerPool.loads).getD []

/-- The connection of a peer, if the service has it. -/
def find? (service : Service) (peer : PeerId) : Option Connection :=
  match service with
  | .endpoint server => server.find? peer
  | .pool workers => workers.find? peer

/-- Changes the connection of a peer. -/
def modify (service : Service) (peer : PeerId) (change : Connection → Connection) : Service :=
  match service with
  | .endpoint server => .endpoint (server.modify peer change)
  | .pool workers => .pool (workers.modify peer change)

/-- Does all that is possible before anything else happens. -/
def run (service : Service) (surroundings : ServiceSurroundings) : Service :=
  match service with
  | .endpoint server => .endpoint (server.run surroundings)
  | .pool workers => .pool (workers.run surroundings)

/-- The service after some time, in milliseconds, in which nobody made a step. -/
def elapse (time : Nat) (service : Service) : Service :=
  match service with
  | .endpoint server => .endpoint (server.elapse time)
  | .pool workers => .pool (workers.elapse time)

/-- The first half of a shutdown. -/
def beginShutDown : Service → Service
  | .endpoint server => .endpoint server.beginShutDown
  | .pool workers => .pool workers.beginShutDown

/-- The second half of a shutdown. -/
def endShutDown (service : Service) (surroundings : ServiceSurroundings) : Service :=
  match service with
  | .endpoint server => .endpoint (server.endShutDown surroundings)
  | .pool workers => .pool (workers.endShutDown surroundings)

/-- The connections that workers have, in the order of the workers. -/
def connections (service : Service) : List Connection :=
  (service.pool?.map WorkerPool.connections).getD []

end Service

end PromiseHttp
