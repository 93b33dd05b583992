import PromiseHttp.Proofs.Endpoint.History

namespace PromiseHttp
namespace Endpoint

/-!
# An endpoint comes to rest

Every step of an endpoint leaves less work, so only finitely many steps follow on what has come from
outside.  A worker may have to wait for a handler that sleeps; when the sleep is over the worker goes
on.  So from every point of a history an endpoint can come to rest by its own steps and the passing
of time, provided that the calls of its handler come back.
-/

variable {service : ServiceSurroundings} {endpoint : Endpoint} {limit : Nat}

/-- An endpoint that can make no step and in which no handler is at work. -/
structure Quiet (service : ServiceSurroundings) (endpoint : Endpoint) : Prop where
  done : ∀ step, endpoint.take? service step = none
  idle : ∀ pool, endpoint.pool = some pool → ∀ worker ∈ pool.workers, worker.isBusy = false

/-- Whether an event is a step of the endpoint or the passing of time. -/
def Event.isOwn : Event → Bool
  | .arrive _ => false
  | .touch _ _ => false
  | .step _ => true
  | .elapse _ => true

/-! ## Work -/

theorem Serves.work_take (serves : endpoint.Serves limit)
    (fits : ∀ connection ∈ endpoint.connections, connection.buffer.Fits) {step : Step}
    {next : Endpoint} (taken : endpoint.take? service step = some next) :
    next.work < endpoint.work := by
  rcases serves.ready with ⟨pool, served, ready⟩
  cases step with
  | accept =>
      cases waiting : endpoint.waiting with
      | nil => simp only [take?, accept?, served, waiting, serves.listening, reduceCtorEq] at taken
      | cons connection rest =>
          simp only [take?, accept?, served, waiting, serves.listening, Option.some.injEq] at taken
          subst taken
          simp only [work, served, waiting, Option.elim_some, tally_cons,
            ready.work_dispatch]
          omega
  | work id step =>
      simp only [take?, served] at taken
      cases steps : pool.take? service id step with
      | none => simp only [steps, reduceCtorEq] at taken
      | some after =>
          simp only [steps, Option.some.injEq] at taken
          subst taken
          have less := WorkerPool.work_take steps fun connection member => fits connection
            (by
              simp only [connections, served, Option.elim_some]
              exact List.mem_append_right _ member)
          simp only [work, served, Option.elim_some]
          omega

theorem work_elapse (endpoint : Endpoint) (time : Nat) :
    (endpoint.elapse time).work = endpoint.work := by
  have connection : ∀ connection : Connection, (connection.elapse time).work = connection.work := by
    intro connection
    unfold Connection.elapse
    split
    · rename_i phase
      simp only [Connection.work, phase]
      rfl
    · rfl
  have worker : ∀ worker : Worker, (worker.elapse time).work = worker.work := by
    intro worker
    simp only [Worker.work, Worker.elapse, tally_map connection]
  unfold work Endpoint.elapse
  cases endpoint.pool with
  | none => rfl
  | some pool =>
      simp only [Option.map_some, Option.elim_some, WorkerPool.work, WorkerPool.elapse,
        tally_map worker]

/-! ## Possible steps -/

/-- A step of a worker of the endpoint is a step of the endpoint. -/
theorem takes_of_worker {pool : WorkerPool} {worker : Worker} (served : endpoint.pool = some pool)
    (member : worker ∈ pool.workers)
    (able : ∀ surroundings : Connection.Surroundings, surroundings.stopping = pool.stopping →
      surroundings.returns = service.returns →
      ∃ step moved, worker.take? surroundings step = some moved) :
    ∃ step next, endpoint.take? service step = some next := by
  rcases WorkerPool.takes_of_worker member able with ⟨id, step, next, taken⟩
  refine ⟨.work id step, { endpoint with pool := some next }, ?_⟩
  simp only [take?, served, taken]

/-- A connection of a quiet endpoint can make no step, and its handler is not at work. -/
theorem Quiet.stuck (quiet : Quiet service endpoint) (serves : endpoint.Serves limit)
    {connection : Connection} (member : connection ∈ endpoint.connections) :
    connection.isBusy = false ∧ ∃ surroundings, connection.advance? surroundings = none := by
  rcases serves.ready with ⟨pool, served, ready⟩
  have accepted : endpoint.waiting = [] := by
    cases waiting : endpoint.waiting with
    | nil => rfl
    | cons first rest =>
        have stuck := quiet.done .accept
        simp only [take?, accept?, served, waiting, serves.listening, reduceCtorEq] at stuck
  simp only [connections, served, accepted, List.nil_append, Option.elim_some,
    WorkerPool.connections_eq, List.mem_flatMap] at member
  rcases member with ⟨worker, among, member⟩
  have idle := quiet.idle pool served worker among
  have running := ready.running worker among
  have unable : ¬ ∃ step next, endpoint.take? service step = some next := by
    rintro ⟨step, next, taken⟩
    rw [quiet.done step] at taken
    cases taken
  rcases List.mem_append.mp member with waits | served'
  · apply absurd _ unable
    apply takes_of_worker served among
    intro surroundings _ _
    exact ⟨.receive, Worker.receives_of_queue running idle (List.ne_nil_of_mem waits)⟩
  · refine ⟨?_, ?_⟩
    · have none_busy : ∀ task ∈ worker.tasks, ¬ task.isBusy = true :=
        List.any_eq_false.mp idle
      exact Bool.eq_false_iff.mpr (none_busy connection served')
    · by_cases stuck : ∃ surroundings, connection.advance? surroundings = none
      · exact stuck
      · apply absurd _ unable
        apply takes_of_worker served among
        intro surroundings _ _
        cases moves : connection.advance? surroundings with
        | none => exact absurd ⟨surroundings, moves⟩ stuck
        | some moved =>
            rcases Worker.advances_of_task running (Or.inr idle) served' moves with
              ⟨place, next, taken⟩
            exact ⟨.advance place, next, taken⟩

/-- A worker that is kept by a handler can go on when the handler has slept. -/
theorem Serves.wakes (serves : endpoint.Serves limit)
    (returns : ∀ request, service.returns request = true) {pool : WorkerPool} {worker : Worker}
    (served : endpoint.pool = some pool) (among : worker ∈ pool.workers)
    (busy : worker.isBusy = true) :
    ∃ time step next, (endpoint.elapse time).take? service step = some next := by
  rcases serves.ready with ⟨pool', served', ready⟩
  rw [served] at served'
  cases served'
  have running := ready.running worker among
  rcases List.any_eq_true.mp busy with ⟨connection, member, busy⟩
  -- The handler of the connection is about to be called, or sleeps for so long.
  have able : ∃ time, (connection.elapse time).isBusy = true ∧
      ∀ surroundings : Connection.Surroundings, surroundings.returns = service.returns →
        ∃ moved, (connection.elapse time).advance? surroundings = some moved := by
    unfold Connection.isBusy at busy
    cases phase : connection.phase with
    | reading => simp only [phase, Bool.false_eq_true] at busy
    | replying request call => simp only [phase, Bool.false_eq_true] at busy
    | ended ending => simp only [phase, Bool.false_eq_true] at busy
    | cleared request =>
        have same : connection.elapse 0 = connection := by
          simp only [Connection.elapse, phase]
        refine ⟨0, ?_, ?_⟩
        · simp only [same, Connection.isBusy, phase]
        · intro surroundings _
          refine ⟨connection.callHandler request (surroundings.handler request), ?_⟩
          simp only [same, Connection.advance?, phase]
    | calling request call asleep =>
        have woken : connection.elapse asleep =
            { connection with phase := .calling request call 0 } := by
          simp only [Connection.elapse, phase, Nat.sub_self]
        refine ⟨asleep, by simp only [woken, Connection.isBusy], ?_⟩
        intro surroundings same
        refine ⟨{ connection with phase := .replying request call }, ?_⟩
        simp only [woken, Connection.advance?, same, returns request, decide_true, Bool.and_true,
          if_true]
  rcases able with ⟨time, busy', able⟩
  have served' : (endpoint.elapse time).pool = some (pool.elapse time) := by
    simp only [Endpoint.elapse, served, Option.map_some]
  have among' : worker.elapse time ∈ (pool.elapse time).workers := List.mem_map_of_mem among
  have member' : connection.elapse time ∈ (worker.elapse time).tasks := List.mem_map_of_mem member
  refine ⟨time, takes_of_worker served' among' ?_⟩
  intro surroundings _ same
  rcases able surroundings same with ⟨moved, moves⟩
  have running' : (worker.elapse time).running = true := running
  rcases Worker.advances_of_task running' (Or.inl busy') member' moves with ⟨place, next, taken⟩
  exact ⟨.advance place, next, taken⟩

/-- From every point an endpoint can come to rest by its own steps and the passing of time. -/
theorem Serves.comes_to_rest (serves : endpoint.Serves limit)
    (fits : ∀ connection ∈ endpoint.connections, connection.buffer.Fits)
    (returns : ∀ request, service.returns request = true) :
    ∃ further, (∀ event ∈ further, Event.isOwn event = true) ∧
      Quiet service (after service endpoint further) := by
  induction bound : endpoint.work using Nat.strongRecOn generalizing endpoint with
  | ind load inductionHypothesis =>
      by_cases able : ∃ step next, endpoint.take? service step = some next
      · rcases able with ⟨step, next, taken⟩
        have occurs : endpoint.occur service (.step step) = next := by
          rw [Endpoint.occur, taken, Option.getD_some]
        have fits' := occurs ▸ serves.fits service fits (.step step)
        rcases inductionHypothesis next.work (bound ▸ serves.work_take fits taken)
          (serves.take taken).1 fits' rfl with ⟨further, own, quiet⟩
        refine ⟨.step step :: further, List.forall_mem_cons.mpr ⟨rfl, own⟩, ?_⟩
        rw [after, List.foldl_cons, occurs]
        exact quiet
      · by_cases busy : ∃ pool worker, endpoint.pool = some pool ∧ worker ∈ pool.workers ∧
          worker.isBusy = true
        · rcases busy with ⟨pool, worker, served, among, busy⟩
          rcases serves.wakes returns served among busy with ⟨time, step, next, taken⟩
          have occurs : (endpoint.elapse time).occur service (.step step) = next := by
            rw [Endpoint.occur, taken, Option.getD_some]
          have serves' := (serves.elapse service time).1
          have fits' : ∀ connection ∈ (endpoint.elapse time).connections, connection.buffer.Fits :=
            serves.fits service fits (.elapse time)
          have fits'' := occurs ▸ serves'.fits service fits' (.step step)
          have less := serves'.work_take fits' taken
          rw [work_elapse, bound] at less
          rcases inductionHypothesis next.work less (serves'.take taken).1 fits'' rfl with
            ⟨further, own, quiet⟩
          refine ⟨.elapse time :: .step step :: further,
            List.forall_mem_cons.mpr ⟨rfl, List.forall_mem_cons.mpr ⟨rfl, own⟩⟩, ?_⟩
          rw [after, List.foldl_cons, List.foldl_cons]
          have waits : endpoint.occur service (.elapse time) = endpoint.elapse time := rfl
          rw [waits, occurs]
          exact quiet
        · refine ⟨[], fun event member => absurd member List.not_mem_nil, ?_, ?_⟩
          · intro step
            cases taken : endpoint.take? service step with
            | none => exact taken
            | some next => exact absurd ⟨step, next, taken⟩ able
          · intro pool served worker among
            exact Bool.eq_false_iff.mpr fun kept => busy ⟨pool, worker, served, among, kept⟩

end Endpoint
end PromiseHttp
