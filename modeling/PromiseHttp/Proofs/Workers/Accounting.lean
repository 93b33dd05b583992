import PromiseHttp.Proofs.Workers.Balance

namespace PromiseHttp

/-!
# The loads of the workers

Whatever happens to a pool, and in whatever order the dispatches, the peers and the workers act,
the load of a worker is the number of its connections that have not ended, and of those that have
crashed.  A dispatch that fails leaves all loads as they are, and one that succeeds puts its
connection into one queue.
-/

namespace WorkerPool

/-! ## Dispatches -/

theorem offer_eq_ok {pool next : WorkerPool} {id : WorkerId} {connection : Connection}
    (taken : pool.offer id connection = .ok next) :
    ∃ worker, pool.workers[id]? = some worker ∧
      next = { pool with workers := pool.workers.set id (worker.offered connection) } := by
  unfold offer at taken
  cases there : pool.workers[id]? with
  | none =>
      rw [there] at taken
      cases taken
  | some worker =>
      rw [there, Option.bind_some, Worker.offer?] at taken
      by_cases accepting : worker.accepting = true
      · rw [if_pos accepting] at taken
        cases taken
        exact ⟨worker, rfl, rfl⟩
      · rw [if_neg accepting] at taken
        cases taken

/-- A dispatch that fails leaves the workers as they are. -/
theorem workers_of_dispatch_error {pool : WorkerPool} {stream : Except IoFault Connection}
    {fault : ServerFault} (failed : (pool.dispatchStream stream).1 = .error fault) :
    (pool.dispatchStream stream).2.workers = pool.workers := by
  cases stream with
  | error reason => rfl
  | ok connection =>
      simp only [dispatchStream, dispatch] at failed ⊢
      cases offered : pool.choose.2.offer pool.choose.1 connection with
      | error reason => rfl
      | ok next =>
          rw [offered] at failed
          cases failed

/-- A dispatch that succeeds puts the connection at the end of one queue, and changes no other
worker. -/
theorem workers_of_dispatch_ok {pool : WorkerPool} {stream : Except IoFault Connection}
    {id : WorkerId} (done : (pool.dispatchStream stream).1 = .ok id) :
    ∃ connection front worker back, stream = .ok connection ∧
      pool.workers = front ++ worker :: back ∧ front.length = id ∧
      (pool.dispatchStream stream).2.workers = front ++ worker.offered connection :: back := by
  cases stream with
  | error reason => cases done
  | ok connection =>
      simp only [dispatchStream, dispatch] at done ⊢
      cases offered : pool.choose.2.offer pool.choose.1 connection with
      | error reason =>
          rw [offered] at done
          cases done
      | ok next =>
          rw [offered] at done
          cases done
          rcases offer_eq_ok offered with ⟨worker, there, rfl⟩
          have there : pool.workers[pool.choose.1]? = some worker := there
          rcases List.getElem?_eq_some_iff.mp there with ⟨within, rfl⟩
          rcases @List.exists_of_set _ _ (pool.workers[pool.choose.1].offered connection) _ within
            with ⟨front, back, split, length, set⟩
          exact ⟨connection, front, _, back, rfl, split, length, set⟩

/-! ## Histories of a pool -/

/-- A stream that has been accepted, with what its peer has done on it already. -/
structure Stream where
  peer : PeerId
  limit : Nat
  inbound : Inbound
  outbound : Outbound

/-- The connection that serves a stream. -/
def Stream.connection (stream : Stream) : Connection :=
  { Connection.new stream.peer stream.limit with
    inbound := stream.inbound
    outbound := stream.outbound }

/-- What can happen to a pool that is not shut down.  A dispatch is two of these events, the choice
of a worker and the offer of a stream to it, and others may come between the two. -/
inductive Event where
  | choose
  | offer (id : WorkerId) (stream : Stream)
  /-- A peer does something on its connection. -/
  | touch (peer : PeerId) (event : Connection.Event)
  /-- A worker makes a step. -/
  | work (service : ServiceSurroundings) (id : WorkerId) (step : Worker.Step)
  /-- A worker cannot register the stream that has waited longest. -/
  | discard (id : WorkerId) (fault : IoFault)
  | elapse (time : Nat)

/-- The pool after a worker has failed to register a stream, if one waits. -/
def discard? (pool : WorkerPool) (id : WorkerId) (fault : IoFault) : Option WorkerPool :=
  (pool.workers[id]?.bind (Worker.discard? · fault)).map fun next =>
    { pool with workers := pool.workers.set id next }

/-- The peers whose connections were bound to a worker, by a record of who was bound to which. -/
def boundTo (bound : List (WorkerId × PeerId)) (id : WorkerId) : List PeerId :=
  (bound.filter fun entry => entry.1 == id).map Prod.snd

theorem boundTo_concat (bound : List (WorkerId × PeerId)) (id : WorkerId) (peer : PeerId) :
    boundTo (bound ++ [(id, peer)]) id = boundTo bound id ++ [peer] := by
  simp only [boundTo, List.filter_append, List.filter_cons_of_pos, beq_self_eq_true,
    List.filter_nil, List.map_append, List.map_cons, List.map_nil]

theorem boundTo_concat_of_ne (bound : List (WorkerId × PeerId)) {id other : WorkerId}
    (different : id ≠ other) (peer : PeerId) :
    boundTo (bound ++ [(id, peer)]) other = boundTo bound other := by
  have apart : (id == other) = false := beq_eq_false_iff_ne.mpr different
  simp only [boundTo, List.filter_append, List.filter_cons, apart, Bool.false_eq_true, if_false,
    List.filter_nil, List.append_nil]

/-- A pool, with a record of which peers' connections were bound to which workers. -/
structure Record where
  pool : WorkerPool
  bound : List (WorkerId × PeerId)

namespace Record

/-- The pool and the record after an event.  What is not possible changes nothing. -/
def occur (record : Record) : Event → Record
  | .choose => { record with pool := record.pool.choose.2 }
  | .offer id stream =>
    match record.pool.offer id stream.connection with
    | .ok pool => ⟨pool, record.bound ++ [(id, stream.peer)]⟩
    | .error _ => record
  | .touch peer event =>
    if event.byPeer then
      { record with pool := record.pool.modify peer (Connection.occur · event) }
    else record
  | .work service id step =>
    { record with pool := (record.pool.take? service id step).getD record.pool }
  | .discard id fault => { record with pool := (record.pool.discard? id fault).getD record.pool }
  | .elapse time => { record with pool := record.pool.elapse time }

/-- A dispatch is a choice and an offer to the worker that was chosen, if nothing comes between. -/
theorem occur_choose_offer (record : Record) (stream : Stream) :
    (record.occur .choose).occur (.offer record.pool.choose.1 stream) =
      ⟨(record.pool.dispatchStream (.ok stream.connection)).2,
        match (record.pool.dispatchStream (.ok stream.connection)).1 with
        | .ok id => record.bound ++ [(id, stream.peer)]
        | .error _ => record.bound⟩ := by
  simp only [occur, dispatchStream, dispatch]
  cases record.pool.choose.2.offer record.pool.choose.1 stream.connection with
  | ok next => rfl
  | error fault => rfl

/-- A pool after a history. -/
def after (start : WorkerPool) (events : List Event) : Record := events.foldl occur ⟨start, []⟩

/-- Every worker is balanced with what was bound to it. -/
def Accounts (record : Record) : Prop :=
  ∀ (id : WorkerId) (worker : Worker), record.pool.workers[id]? = some worker →
    worker.Balanced (boundTo record.bound id)

variable {record : Record}

/-- The account stays right when one worker changes and is balanced with what is bound to it. -/
theorem Accounts.set (accounts : record.Accounts) {id : WorkerId} {worker moved : Worker}
    {bound : List (WorkerId × PeerId)} (there : record.pool.workers[id]? = some worker)
    (balanced : worker.Balanced (boundTo record.bound id) → moved.Balanced (boundTo bound id))
    (others : ∀ other, id ≠ other → boundTo bound other = boundTo record.bound other) :
    Accounts ⟨{ record.pool with workers := record.pool.workers.set id moved }, bound⟩ := by
  intro other found place
  rw [List.getElem?_set] at place
  by_cases same : id = other
  · subst same
    rw [if_pos rfl] at place
    split at place
    · cases place
      exact balanced (accounts id worker there)
    · cases place
  · rw [if_neg same] at place
    rw [others other same]
    exact accounts other found place

/-- The account stays right when every worker changes and stays balanced. -/
theorem Accounts.map (accounts : record.Accounts) {change : Worker → Worker}
    (balanced : ∀ {worker : Worker} {bound : List PeerId}, worker.Balanced bound →
      (change worker).Balanced bound) :
    Accounts { record with
      pool := { record.pool with workers := record.pool.workers.map change } } := by
  intro id found place
  rw [List.getElem?_map] at place
  cases there : record.pool.workers[id]? with
  | none =>
      rw [there] at place
      cases place
  | some worker =>
      rw [there] at place
      cases place
      exact balanced (accounts id worker there)

/-- Whatever happens, the account stays right. -/
theorem Accounts.occur (accounts : record.Accounts) (event : Event) :
    (record.occur event).Accounts := by
  cases event with
  | choose => exact accounts
  | offer id stream =>
      simp only [Record.occur]
      cases offered : record.pool.offer id stream.connection with
      | error fault => exact accounts
      | ok next =>
          rcases offer_eq_ok offered with ⟨worker, there, rfl⟩
          refine accounts.set there (fun balanced => ?_) fun other different =>
            boundTo_concat_of_ne _ different _
          rw [boundTo_concat]
          exact balanced.offered rfl
  | touch peer event =>
      simp only [Record.occur]
      split
      · rename_i own
        exact accounts.map fun balanced => balanced.modify own peer
      · exact accounts
  | work service id step =>
      simp only [Record.occur]
      cases taken : record.pool.take? service id step with
      | none => exact accounts
      | some next =>
          rcases take?_eq_some taken with ⟨worker, moved, there, takes, rfl⟩
          exact accounts.set there (fun balanced => balanced.take takes) fun _ _ => rfl
  | discard id fault =>
      simp only [Record.occur, WorkerPool.discard?]
      cases there : record.pool.workers[id]? with
      | none => exact accounts
      | some worker =>
          rw [Option.bind_some]
          cases discarded : worker.discard? fault with
          | none => exact accounts
          | some moved =>
              exact accounts.set there (fun balanced => balanced.discard discarded) fun _ _ => rfl
  | elapse time => exact accounts.map fun balanced => balanced.elapse time

/-- Nothing changes how many workers there are. -/
theorem size_occur (record : Record) (event : Event) :
    (record.occur event).pool.size = record.pool.size := by
  cases event with
  | choose => rfl
  | offer id stream =>
      simp only [Record.occur]
      cases offered : record.pool.offer id stream.connection with
      | error fault => rfl
      | ok next =>
          rcases offer_eq_ok offered with ⟨worker, there, rfl⟩
          exact List.length_set
  | touch peer event =>
      simp only [Record.occur]
      split
      · exact List.length_map _
      · rfl
  | work service id step =>
      simp only [Record.occur]
      cases taken : record.pool.take? service id step with
      | none => rfl
      | some next =>
          rcases take?_eq_some taken with ⟨worker, moved, there, takes, rfl⟩
          exact List.length_set
  | discard id fault =>
      simp only [Record.occur, WorkerPool.discard?]
      cases record.pool.workers[id]?.bind (Worker.discard? · fault) with
      | none => rfl
      | some moved => exact List.length_set
  | elapse time => exact List.length_map _

/-- What holds of a new pool holds of it after every history. -/
theorem holds_after {settings : ServerSettings} {startup : Startup} {start : WorkerPool}
    (spawned : spawn settings startup = .ok start) (events : List Event) :
    (after start events).Accounts ∧ (after start events).pool.size = settings.threads := by
  have begun : Accounts ⟨start, []⟩ ∧ start.size = settings.threads := by
    cases spawn_eq_ok spawned
    refine ⟨?_, List.length_replicate⟩
    intro id worker there
    rw [List.getElem?_replicate] at there
    split at there
    · cases there
      exact Worker.balanced_new
    · cases there
  have goesOn : ∀ (events : List Event) (record : Record),
      record.Accounts ∧ record.pool.size = settings.threads →
      (events.foldl occur record).Accounts ∧
        (events.foldl occur record).pool.size = settings.threads := by
    intro events
    induction events with
    | nil => exact fun _ holds => holds
    | cons event events inductionHypothesis =>
        rintro record ⟨accounts, size⟩
        exact inductionHypothesis _ ⟨accounts.occur event, (record.size_occur event).trans size⟩
  exact goesOn events ⟨start, []⟩ begun

/-! ## What the loads say -/

/-- What the load of a worker says about its connections. -/
structure Exact (record : Record) (id : WorkerId) (worker : Worker) : Prop where
  /-- The load counts the connections that have not ended and, for ever, those that have crashed. -/
  load : record.pool.loads[id]? = some (worker.connections.countP Connection.isOpen +
    worker.connections.countP Connection.hasCrashed)
  /-- The connections of the worker are those that were bound to it. -/
  bound : (worker.connections.map Connection.peer).Perm (boundTo record.bound id)
  /-- Whenever a step may lower the load there is something to lower. -/
  stepping : ∀ {surroundings connection moved}, connection ∈ worker.tasks →
    connection.advance? surroundings = some moved → 0 < worker.load
  discarding : worker.queue ≠ [] → 0 < worker.load

theorem Accounts.exact (accounts : record.Accounts) {id : WorkerId} {worker : Worker}
    (there : record.pool.workers[id]? = some worker) : record.Exact id worker := by
  have balanced := accounts id worker there
  refine ⟨?_, balanced.peers, ?_, ?_⟩
  · rw [loads, List.getElem?_map, there, Option.map_some, balanced.load_eq]
  · intro surroundings connection moved member step
    exact balanced.load_pos (List.mem_append_right _ member) (Connection.isOpen_of_advance step)
  · intro waiting
    rcases List.exists_mem_of_ne_nil _ waiting with ⟨connection, member⟩
    exact balanced.load_pos (List.mem_append_left _ member) (balanced.waiting connection member)

end Record

/-- After every history of a pool, the load of a worker is the number of the connections that were
bound to it and have not ended, together with the number of those that have crashed; and a load that
is lowered was not zero.  A dispatch that fails leaves all loads as they are, and one that succeeds
puts its connection into the queue of one worker. -/
theorem loads_are_exact_but_for_crashes {settings : ServerSettings} {startup : Startup}
    {start : WorkerPool} (spawned : spawn settings startup = .ok start) (events : List Event) :
    let record := Record.after start events
    record.pool.size = settings.threads ∧
    (∀ id worker, record.pool.workers[id]? = some worker → record.Exact id worker) ∧
    (∀ stream fault, (record.pool.dispatchStream stream).1 = .error fault →
      (record.pool.dispatchStream stream).2.loads = record.pool.loads) ∧
    ∀ stream id, (record.pool.dispatchStream stream).1 = .ok id →
      ∃ connection front worker back, stream = .ok connection ∧
        record.pool.workers = front ++ worker :: back ∧ front.length = id ∧
        (record.pool.dispatchStream stream).2.workers =
          front ++ worker.offered connection :: back := by
  intro record
  rcases Record.holds_after spawned events with ⟨accounts, size⟩
  refine ⟨size, fun id worker there => accounts.exact there, ?_, ?_⟩
  · intro stream fault failed
    rw [loads, workers_of_dispatch_error failed, loads]
  · intro stream id done
    exact workers_of_dispatch_ok done

namespace Bindings

/-- The settings of a server with two workers, the less loaded of which gets the next connection. -/
def settings : ServerSettings :=
  { ServerSettings.defaults with threads := 2, dispatch := .leastLoaded }

def start : WorkerPool := ⟨[.new, .new], .new .leastLoaded, false⟩

theorem spawn_settings : spawn settings .smooth = .ok start := rfl

/-- A stream on which the peer has sent something. -/
def stream (peer : PeerId) (text : String) : Stream :=
  ⟨peer, 100, Inbound.empty.feed (Octets.encode text), .empty⟩

def service : ServiceSurroundings :=
  ⟨fun _ _ => .ofEnding (.send .ok StockHandler.greeting), fun _ => .error .noSuchFile, fun _ => true⟩

/-- The first worker serves a connection up to its close, while the second receives another. -/
def closing : List Event :=
  [.choose, .offer 0 (stream 7 "GET / HTTP/1.1\r\nConnection: close\r\n\r\n"), .choose,
    .offer 1 (stream 8 ""), .work service 1 .receive, .work service 0 .receive] ++
    List.replicate 4 (.work service 0 (.advance 0))

/-- The first worker serves a connection up to a crash. -/
def crashing : List Event :=
  [.choose, .offer 0 (stream 7 "POST / HTTP/1.1\r\nContent-Length: 18446744073709551615\r\n\r\n"),
    .work service 0 .receive, .work service 0 (.advance 0)]

end Bindings

/-- A connection that closes gives its place back, and one that waits for its peer keeps it. -/
theorem close_gives_the_place_back :
    spawn Bindings.settings .smooth = .ok Bindings.start ∧
      (Record.after Bindings.start Bindings.closing).pool.loads = [0, 1] ∧
      ∀ id worker, (Record.after Bindings.start Bindings.closing).pool.workers[id]? = some worker →
        (Record.after Bindings.start Bindings.closing).Exact id worker := by
  refine ⟨Bindings.spawn_settings, by decide, ?_⟩
  exact (loads_are_exact_but_for_crashes Bindings.spawn_settings Bindings.closing).2.1

/-- A connection that crashes keeps its place, although no connection is open. -/
theorem crash_keeps_the_place :
    spawn Bindings.settings .smooth = .ok Bindings.start ∧
      (Record.after Bindings.start Bindings.crashing).pool.loads = [1, 0] ∧
      (Record.after Bindings.start Bindings.crashing).pool.connections.countP
        Connection.isOpen = 0 :=
  ⟨Bindings.spawn_settings, by decide, by decide⟩

end WorkerPool

end PromiseHttp
