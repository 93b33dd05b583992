import PromiseHttp.Proofs.Connection.Labour
import PromiseHttp.Workers.Pool

namespace PromiseHttp

/-!
# Steps of workers

A worker makes two kinds of steps: it receives a connection, or a connection that it serves makes a
step.  Either changes the place of one connection or one connection at its place, and leaves less
work.  A step of a pool is a step of one of its workers.
-/

namespace Worker

/-- A step of a worker. -/
inductive Step where
  | receive
  /-- The connection at a place makes a step. -/
  | advance (place : Nat)

/-- The worker after a step, if the step is possible. -/
def take? (worker : Worker) (surroundings : Connection.Surroundings) : Step → Option Worker
  | .receive => worker.receive?
  | .advance place => worker.advance? surroundings place

/-- The connections of a worker. -/
def connections (worker : Worker) : List Connection := worker.queue ++ worker.tasks

/-- The worker after it has taken a connection that was offered. -/
def offered (worker : Worker) (connection : Connection) : Worker :=
  { worker with load := worker.load + 1, queue := worker.queue ++ [connection] }

/-- A bound on the steps that are left, unless something comes from outside. -/
def work (worker : Worker) : Nat :=
  tally (fun connection => connection.work + 1) worker.queue + tally Connection.work worker.tasks

/-- What a step of a worker does, and when it is possible. -/
inductive Takes (surroundings : Connection.Surroundings) (worker next : Worker) : Prop where
  | receives {connection : Connection} {rest : List Connection} (idle : worker.isBusy = false)
      (before : worker.queue = connection :: rest)
      (after : next = { worker with queue := rest, tasks := worker.tasks ++ [connection] })
  | advances {front back : List Connection} {connection moved : Connection}
      (free : connection.isBusy = true ∨ worker.isBusy = false)
      (before : worker.tasks = front ++ connection :: back)
      (step : connection.advance? surroundings = some moved)
      (after : next = { worker with
        load := if moved.givesBack then worker.load - 1 else worker.load
        tasks := front ++ moved :: back })

theorem takes {surroundings : Connection.Surroundings} {worker next : Worker} {step : Step}
    (taken : worker.take? surroundings step = some next) : Takes surroundings worker next := by
  cases step with
  | receive =>
      simp only [take?, receive?] at taken
      split at taken
      · rename_i free
        simp only [Bool.and_eq_true, Bool.not_eq_true'] at free
        cases queue : worker.queue with
        | nil => simp only [queue, reduceCtorEq] at taken
        | cons connection rest =>
            simp only [queue, Option.some.injEq] at taken
            exact .receives free.2 queue taken.symm
      · cases taken
  | advance place =>
      simp only [take?, advance?] at taken
      cases there : worker.tasks[place]? with
      | none => simp only [there, reduceCtorEq] at taken
      | some connection =>
          simp only [there] at taken
          split at taken
          · rename_i free
            simp only [Bool.and_eq_true, Bool.or_eq_true, Bool.not_eq_true'] at free
            cases moves : connection.advance? surroundings with
            | none => simp only [moves, reduceCtorEq] at taken
            | some moved =>
                simp only [moves, Option.some.injEq] at taken
                rcases List.getElem?_eq_some_iff.mp there with ⟨within, same⟩
                rcases @List.exists_of_set _ _ moved _ within with ⟨front, back, split, _, set⟩
                rw [same] at split
                rw [set] at taken
                exact .advances free.2 split moves taken.symm
          · cases taken

/-- A running worker receives when it can. -/
theorem receives_of_queue {surroundings : Connection.Surroundings} {worker : Worker}
    (running : worker.running = true) (idle : worker.isBusy = false) (waiting : worker.queue ≠ []) :
    ∃ next, worker.take? surroundings .receive = some next := by
  cases queue : worker.queue with
  | nil => exact absurd queue waiting
  | cons connection rest =>
      refine ⟨{ worker with queue := rest, tasks := worker.tasks ++ [connection] }, ?_⟩
      simp only [take?, receive?, running, idle, queue, Bool.not_false, Bool.and_true, if_true]

/-- A connection of a running worker makes a step when it can and nothing else keeps the worker. -/
theorem advances_of_task {surroundings : Connection.Surroundings} {worker : Worker}
    {connection moved : Connection} (running : worker.running = true)
    (free : connection.isBusy = true ∨ worker.isBusy = false)
    (member : connection ∈ worker.tasks) (step : connection.advance? surroundings = some moved) :
    ∃ place next, worker.take? surroundings (.advance place) = some next := by
  rcases List.getElem_of_mem member with ⟨place, within, same⟩
  have there : worker.tasks[place]? = some connection := by
    rw [List.getElem?_eq_getElem within, same]
  have allowed : (worker.running && (connection.isBusy || !worker.isBusy)) = true := by
    rcases free with busy | idle
    · simp only [running, busy, Bool.true_or, Bool.and_true]
    · simp only [running, idle, Bool.not_false, Bool.or_true, Bool.and_true]
  refine ⟨place, { worker with
    load := if moved.givesBack then worker.load - 1 else worker.load
    tasks := worker.tasks.set place moved }, ?_⟩
  simp only [take?, advance?, there, if_pos allowed, step]

/-! ## Consequences -/

variable {surroundings : Connection.Surroundings} {worker next : Worker}

/-- A step only concerns the connections. -/
theorem Takes.flags (takes : Takes surroundings worker next) :
    next.accepting = worker.accepting ∧ next.running = worker.running := by
  cases takes with
  | receives idle before after =>
      subst after
      exact ⟨rfl, rfl⟩
  | advances free before step after =>
      subst after
      exact ⟨rfl, rfl⟩

/-- A step leaves less work. -/
theorem Takes.work_lt (takes : Takes surroundings worker next)
    (fits : ∀ connection ∈ worker.connections, connection.buffer.Fits) :
    next.work < worker.work := by
  cases takes with
  | receives idle before after =>
      subst after
      simp only [work, before, tally_append, tally_cons, tally_nil]
      omega
  | advances free before step after =>
      rename_i front back connection moved
      have among : connection ∈ worker.connections := by
        unfold connections
        rw [before]
        simp
      have less := Connection.work_advance (fits connection among) step
      subst after
      simp only [work, before, tally_append, tally_cons]
      omega

/-- The connections after a step: the same, or one of them has made a step. -/
theorem Takes.connections (takes : Takes surroundings worker next) :
    next.connections.Perm worker.connections ∨
      ∃ front back connection moved, worker.connections = front ++ connection :: back ∧
        connection.advance? surroundings = some moved ∧
        next.connections = front ++ moved :: back := by
  cases takes with
  | receives idle before after =>
      rename_i connection rest
      refine Or.inl ?_
      subst after
      simp only [Worker.connections, before]
      rw [← List.append_assoc]
      exact List.perm_append_comm
  | advances free before step after =>
      rename_i front back connection moved
      refine Or.inr ⟨worker.queue ++ front, back, connection, moved, ?_, step, ?_⟩
      · rw [Worker.connections, before, List.append_assoc]
      · subst after
        rw [Worker.connections, List.append_assoc]

end Worker

namespace Dispatcher

/-- A choice is the number of a worker, if there is one. -/
theorem pick_lt (dispatcher : Dispatcher) {loads : List Nat} (some_worker : loads ≠ []) :
    (dispatcher.pick loads).1 < loads.length := by
  unfold pick
  split
  · exact Nat.mod_lt _ (List.length_pos_iff.mpr some_worker)
  · simp only [leastLoaded]
    cases least : loads.min? with
    | none => exact List.length_pos_iff.mpr some_worker
    | some load =>
        exact List.findIdx_lt_length_of_exists ⟨load, List.min?_mem least, beq_self_eq_true load⟩

end Dispatcher

namespace WorkerPool

/-- The pool after a step of a worker, if the step is possible. -/
def take? (pool : WorkerPool) (service : ServiceSurroundings) (id : WorkerId)
    (step : Worker.Step) : Option WorkerPool :=
  match pool.workers[id]? with
  | none => none
  | some worker =>
    match worker.take? (pool.around service id) step with
    | none => none
    | some next => some { pool with workers := pool.workers.set id next }

/-- A bound on the steps that are left, unless something comes from outside. -/
def work (pool : WorkerPool) : Nat := tally Worker.work pool.workers

/-- A pool that takes connections and serves them. -/
structure Ready (pool : WorkerPool) : Prop where
  calm : pool.stopping = false
  some_worker : pool.workers ≠ []
  accepting : ∀ worker ∈ pool.workers, worker.accepting = true
  running : ∀ worker ∈ pool.workers, worker.running = true

variable {service : ServiceSurroundings} {pool next : WorkerPool} {id : WorkerId}
  {step : Worker.Step}

/-- A step of a pool is a step of the worker with the number. -/
theorem take?_eq_some (taken : pool.take? service id step = some next) :
    ∃ worker moved, pool.workers[id]? = some worker ∧
      Worker.Takes (pool.around service id) worker moved ∧
      next = { pool with workers := pool.workers.set id moved } := by
  unfold take? at taken
  cases there : pool.workers[id]? with
  | none => simp only [there, reduceCtorEq] at taken
  | some worker =>
      simp only [there] at taken
      cases steps : worker.take? (pool.around service id) step with
      | none => simp only [steps, reduceCtorEq] at taken
      | some moved =>
          simp only [steps, Option.some.injEq] at taken
          exact ⟨worker, moved, rfl, Worker.takes steps, taken.symm⟩

/-- What a step does to a pool. -/
theorem takes (taken : pool.take? service id step = some next) :
    ∃ front worker back moved, pool.workers = front ++ worker :: back ∧
      Worker.Takes (pool.around service id) worker moved ∧
      next = { pool with workers := front ++ moved :: back } := by
  rcases take?_eq_some taken with ⟨worker, moved, there, takes, rfl⟩
  rcases List.getElem?_eq_some_iff.mp there with ⟨within, rfl⟩
  rcases @List.exists_of_set _ _ moved _ within with ⟨front, back, split, _, set⟩
  exact ⟨front, _, back, moved, split, takes, by rw [set]⟩

/-- A step that a worker can make is a step of its pool. -/
theorem takes_of_worker {worker : Worker} (member : worker ∈ pool.workers)
    (able : ∀ surroundings : Connection.Surroundings, surroundings.stopping = pool.stopping →
      surroundings.returns = service.returns →
      ∃ step moved, worker.take? surroundings step = some moved) :
    ∃ id step next, pool.take? service id step = some next := by
  rcases List.getElem_of_mem member with ⟨id, within, same⟩
  have there : pool.workers[id]? = some worker := by
    rw [List.getElem?_eq_getElem within, same]
  rcases able (pool.around service id) rfl rfl with ⟨step, moved, steps⟩
  refine ⟨id, step, { pool with workers := pool.workers.set id moved }, ?_⟩
  simp only [take?, there, steps]

theorem connections_eq (pool : WorkerPool) :
    pool.connections = pool.workers.flatMap Worker.connections := rfl

theorem work_take (taken : pool.take? service id step = some next)
    (fits : ∀ connection ∈ pool.connections, connection.buffer.Fits) : next.work < pool.work := by
  rcases takes taken with ⟨front, worker, back, moved, before, takes, rfl⟩
  have less : moved.work < worker.work := by
    apply takes.work_lt
    intro connection member
    apply fits
    rw [connections_eq, before]
    exact List.mem_flatMap.mpr ⟨worker, by simp, member⟩
  simp only [work, before, tally_append, tally_cons]
  omega

/-- The connections after a step: the same, or one of them has made a step. -/
theorem connections_take (taken : pool.take? service id step = some next) :
    next.connections.Perm pool.connections ∨
      ∃ front back connection moved, pool.connections = front ++ connection :: back ∧
        connection.advance? (pool.around service id) = some moved ∧
        next.connections = front ++ moved :: back := by
  rcases takes taken with ⟨front, worker, back, moved, before, takes, rfl⟩
  simp only [connections_eq, before, List.flatMap_append, List.flatMap_cons]
  rcases takes.connections with same | ⟨front', back', connection, moved', split, step, after⟩
  · exact Or.inl (List.Perm.append_left _ (List.Perm.append_right _ same))
  · refine Or.inr ⟨front.flatMap Worker.connections ++ front',
      back' ++ back.flatMap Worker.connections, connection, moved', ?_, step, ?_⟩
    · rw [split]
      simp only [List.append_assoc, List.cons_append]
    · rw [after]
      simp only [List.append_assoc, List.cons_append]

/-- A pool stays ready when a worker is replaced by one that accepts and runs as well. -/
theorem Ready.replace (ready : pool.Ready) {front back : List Worker} {worker moved : Worker}
    (before : pool.workers = front ++ worker :: back)
    (flags : moved.accepting = worker.accepting ∧ moved.running = worker.running)
    (dispatcher : Dispatcher) :
    Ready { pool with dispatcher := dispatcher, workers := front ++ moved :: back } := by
  have among : worker ∈ pool.workers := by
    rw [before]
    simp
  have either : ∀ other ∈ front ++ moved :: back, other = moved ∨ other ∈ pool.workers := by
    intro other member
    rw [before]
    rcases List.mem_append.mp member with first | later
    · exact Or.inr (List.mem_append_left _ first)
    · rcases List.mem_cons.mp later with same | last
      · exact Or.inl same
      · exact Or.inr (List.mem_append_right _ (List.mem_cons_of_mem _ last))
  refine ⟨ready.calm, by simp, ?_, ?_⟩
  · intro other member
    rcases either other member with rfl | old
    · exact flags.1.trans (ready.accepting worker among)
    · exact ready.accepting other old
  · intro other member
    rcases either other member with rfl | old
    · exact flags.2.trans (ready.running worker among)
    · exact ready.running other old

theorem Ready.take (ready : pool.Ready) (taken : pool.take? service id step = some next) :
    next.Ready := by
  rcases takes taken with ⟨front, worker, back, moved, before, takes, rfl⟩
  exact ready.replace before takes.flags pool.dispatcher

/-- A connection that is dispatched gets to a worker. -/
theorem Ready.dispatched (ready : pool.Ready) (connection : Connection) :
    ∃ front worker back dispatcher, pool.workers = front ++ worker :: back ∧
      (pool.dispatch connection).2 =
        { pool with
          dispatcher := dispatcher
          workers := front ++ worker.offered connection :: back } := by
  have some_load : pool.loads ≠ [] := by
    intro nothing
    exact ready.some_worker (List.map_eq_nil_iff.mp nothing)
  have within := pool.dispatcher.pick_lt some_load
  cases chosen : pool.dispatcher.pick pool.loads with
  | mk id dispatcher =>
      rw [chosen] at within
      unfold loads at within
      rw [List.length_map] at within
      have accepting := ready.accepting _ (List.getElem_mem within)
      rcases @List.exists_of_set _ _ (pool.workers[id].offered connection) _ within with
        ⟨front, back, split, _, set⟩
      refine ⟨front, pool.workers[id], back, dispatcher, split, ?_⟩
      rw [← set]
      simp only [WorkerPool.dispatch, choose, chosen, offer, List.getElem?_eq_getElem within,
        Option.bind_some, Worker.offer?, if_pos accepting, Worker.offered]

theorem Ready.dispatch (ready : pool.Ready) (connection : Connection) :
    (pool.dispatch connection).2.Ready := by
  rcases ready.dispatched connection with ⟨front, worker, back, dispatcher, before, same⟩
  have flags : (worker.offered connection).accepting = worker.accepting ∧
      (worker.offered connection).running = worker.running := ⟨rfl, rfl⟩
  rw [same]
  exact ready.replace before flags dispatcher

theorem Ready.connections_dispatch (ready : pool.Ready) (connection : Connection) :
    (pool.dispatch connection).2.connections.Perm (connection :: pool.connections) := by
  rcases ready.dispatched connection with ⟨front, worker, back, dispatcher, before, same⟩
  rw [same]
  simp only [connections_eq, before, List.flatMap_append, List.flatMap_cons, Worker.connections,
    Worker.offered, List.append_assoc, List.cons_append, List.nil_append]
  rw [← List.append_assoc, ← List.append_assoc (front.flatMap Worker.connections)]
  exact List.perm_middle

theorem Ready.work_dispatch (ready : pool.Ready) (connection : Connection) :
    (pool.dispatch connection).2.work = pool.work + (connection.work + 1) := by
  rcases ready.dispatched connection with ⟨front, worker, back, dispatcher, before, same⟩
  rw [same]
  simp only [work, before, Worker.work, Worker.offered, tally_append, tally_cons, tally_nil]
  omega

end WorkerPool

end PromiseHttp
