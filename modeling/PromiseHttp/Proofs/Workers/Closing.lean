import PromiseHttp.Proofs.Workers.Stopping

namespace PromiseHttp

/-!
# Shutting a pool down

Anybody may shut a pool down, also several at once.  Each call raises the flag, closes the queues one
after another, and then goes through the threads: it takes hold of one after another and waits for
its end.  A thread that another call has taken hold of is left to that call, so a call may return
before all threads have come to an end.  Every one of these is a step of its own, and dispatches,
peers, workers and other calls may do something between any two steps.

Three things carry the safety of this.  A worker does one thing at a time, so at most one request has
been let through when the flag is raised.  A queue is closed for good, and what is offered afterwards is
refused.  And of every thread that has been taken hold of, the end has been seen or is still awaited by
some call.
-/

namespace WorkerPool

/-! ## Calls -/

/-- Where a call that shuts a pool down has got to. -/
inductive Closer where
  /-- It raises the flag next. -/
  | starting
  /-- It closes the queues, that of a worker next. -/
  | closing (next : WorkerId)
  /-- It goes through the threads, that of a worker next. -/
  | collecting (next : WorkerId)
  /-- It has taken hold of the thread of a worker and waits for its end. -/
  | joining (id : WorkerId)
  | returned
  deriving DecidableEq

/-- A pool with the calls that shut it down. -/
structure Closing where
  pool : WorkerPool
  /-- The workers whose threads some call has taken hold of. -/
  taken : List WorkerId
  closers : List Closer

/-- What the next step of a call makes of the pool, of the threads that have been taken hold of, and of
the call; none if the call has returned or has to wait. -/
def Closer.step? (pool : WorkerPool) (taken : List WorkerId) :
    Closer → Option (WorkerPool × List WorkerId × Closer)
  | .starting => some (pool.raiseFlag, taken, .closing 0)
  | .closing next =>
    if next < pool.size then some (pool.closeQueue next, taken, .closing (next + 1))
    else some (pool, taken, .collecting 0)
  | .collecting next =>
    if next < pool.size then
      if next ∈ taken then some (pool, taken, .collecting (next + 1))
      else some (pool, next :: taken, .joining next)
    else some (pool, taken, .returned)
  | .joining id =>
    if (pool.workers[id]?.any Worker.running) then none
    else some (pool, taken, .collecting (id + 1))
  | .returned => none

/-- The pool after the thread of a worker has come to its end, if it can. -/
def exitThread? (pool : WorkerPool) (id : WorkerId) : Option WorkerPool :=
  (pool.workers[id]?.bind Worker.exit?).map fun next =>
    { pool with workers := pool.workers.set id next }

namespace Closing

/-- What can happen to a pool that is shut down. -/
inductive Event where
  /-- Something that can happen to any pool. -/
  | usual (event : WorkerPool.Event)
  /-- The thread of a worker comes to its end. -/
  | exit (id : WorkerId)
  /-- A call begins that shuts the pool down. -/
  | call
  /-- The call at a place makes a step. -/
  | close (place : Nat)

/-- The step of the call at a place, if it can make one. -/
def advance? (closing : Closing) (place : Nat) : Option Closing :=
  (closing.closers[place]?.bind (Closer.step? closing.pool closing.taken)).map
    fun (pool, taken, next) => ⟨pool, taken, closing.closers.set place next⟩

/-- What is after an event.  What is not possible changes nothing. -/
def occur (closing : Closing) : Event → Closing
  | .usual event => { closing with pool := ((⟨closing.pool, []⟩ : Record).occur event).pool }
  | .exit id => { closing with pool := (closing.pool.exitThread? id).getD closing.pool }
  | .call => { closing with closers := closing.closers ++ [.starting] }
  | .close place => (closing.advance? place).getD closing

/-- What is after a history. -/
def occurAll (closing : Closing) (events : List Event) : Closing := events.foldl occur closing

/-- A pool that nobody shuts down yet, after a history. -/
def after (start : WorkerPool) (events : List Event) : Closing :=
  occurAll ⟨start, [], []⟩ events

end Closing

/-! ## What a step does to the workers -/

/-- Every worker of a pool has changed in one of the ways in which workers change, and the flag has not
been lowered. -/
structure Alters (pool next : WorkerPool) : Prop where
  size : next.workers.length = pool.workers.length
  flag : pool.stopping = true → next.stopping = true
  workers : ∀ {id : WorkerId} {worker : Worker}, pool.workers[id]? = some worker →
    ∃ moved, next.workers[id]? = some moved ∧ worker.Changes pool.stopping moved

variable {pool next : WorkerPool}

/-- Nothing has happened to the workers. -/
theorem Alters.of_workers (same : next.workers = pool.workers)
    (flag : pool.stopping = true → next.stopping = true) : Alters pool next :=
  ⟨by rw [same], flag, fun {_ worker} there =>
    ⟨worker, same.symm ▸ there, Worker.Changes.same pool.stopping worker⟩⟩

/-- One worker has changed. -/
theorem Alters.set {id : WorkerId} {worker moved : Worker}
    (there : pool.workers[id]? = some worker) (changes : worker.Changes pool.stopping moved) :
    Alters pool { pool with workers := pool.workers.set id moved } := by
  refine ⟨List.length_set, fun flag => flag, ?_⟩
  intro other found place
  by_cases same : id = other
  · subst same
    rw [there] at place
    cases place
    exact ⟨moved, List.getElem?_set_self (List.getElem?_eq_some_iff.mp there).1, changes⟩
  · refine ⟨found, ?_, Worker.Changes.same pool.stopping found⟩
    rw [List.getElem?_set_ne same, place]

/-- Every worker has changed in the same way. -/
theorem Alters.map {change : Worker → Worker}
    (changes : ∀ worker : Worker, worker.Changes pool.stopping (change worker)) :
    Alters pool { pool with workers := pool.workers.map change } := by
  refine ⟨List.length_map _, fun flag => flag, ?_⟩
  intro id worker there
  refine ⟨change worker, ?_, changes worker⟩
  rw [List.getElem?_map, there, Option.map_some]

/-- A worker after the change was there before it. -/
theorem Alters.back (alters : Alters pool next) {id : WorkerId} {moved : Worker}
    (there : next.workers[id]? = some moved) :
    ∃ worker, pool.workers[id]? = some worker ∧ worker.Changes pool.stopping moved := by
  have within : id < pool.workers.length := by
    rw [← alters.size]
    exact (List.getElem?_eq_some_iff.mp there).1
  rcases alters.workers (List.getElem?_eq_getElem within) with ⟨found, there', changes⟩
  rw [there] at there'
  cases there'
  exact ⟨_, List.getElem?_eq_getElem within, changes⟩

theorem alters_closeQueue (pool : WorkerPool) (id : WorkerId) :
    Alters pool (pool.closeQueue id) := by
  refine ⟨List.length_modify _ _ _, fun flag => flag, ?_⟩
  intro other worker there
  rw [closeQueue, List.getElem?_modify, there, Option.map_eq_map, Option.map_some]
  by_cases same : id = other
  · exact ⟨worker.closeQueue, by rw [if_pos same], Worker.changes_closeQueue worker⟩
  · exact ⟨worker, by rw [if_neg same], Worker.Changes.same pool.stopping worker⟩

/-- Whatever can happen to any pool changes its workers in these ways. -/
theorem alters_usual (record : Record) (event : Event) :
    Alters record.pool (record.occur event).pool := by
  have nothing : Alters record.pool record.pool := .of_workers rfl id
  cases event with
  | choose => exact .of_workers rfl id
  | offer id stream =>
      simp only [Record.occur]
      cases offered : record.pool.offer id stream.connection with
      | error fault => exact nothing
      | ok next =>
          rcases offer_eq_ok offered with ⟨worker, there, rfl⟩
          refine .set there (.offered ?_ rfl rfl)
          by_contra closed
          simp only [offer, there, Option.bind_some, Worker.offer?, if_neg closed, reduceCtorEq]
            at offered
  | touch peer event =>
      simp only [Record.occur]
      split
      · rename_i own
        exact .map fun worker => Worker.changes_modify worker own peer
      · exact nothing
  | work service id step =>
      simp only [Record.occur]
      cases taken : record.pool.take? service id step with
      | none => exact nothing
      | some next =>
          rcases take?_eq_some taken with ⟨worker, moved, there, takes, rfl⟩
          exact .set there (Worker.changes_of_takes rfl takes)
  | discard id fault =>
      simp only [Record.occur, WorkerPool.discard?]
      cases there : record.pool.workers[id]? with
      | none => exact nothing
      | some worker =>
          rw [Option.bind_some]
          cases discarded : worker.discard? fault with
          | none => exact nothing
          | some moved => exact .set there (Worker.changes_of_discard discarded)
  | elapse time => exact .map fun worker => Worker.changes_elapse worker time

theorem alters_exitThread {id : WorkerId} (exited : pool.exitThread? id = some next) : Alters pool next := by
  unfold exitThread? at exited
  cases there : pool.workers[id]? with
  | none =>
      rw [there] at exited
      cases exited
  | some worker =>
      rw [there, Option.bind_some] at exited
      cases ends : worker.exit? with
      | none =>
          rw [ends] at exited
          cases exited
      | some moved =>
          rw [ends] at exited
          cases exited
          exact .set there (Worker.changes_of_exit ends)

namespace Closing

variable {closing : Closing}

/-- What a step of a call does. -/
inductive Advances (closing : Closing) (place : Nat) : Closing → Prop
  | raises (there : closing.closers[place]? = some .starting) :
      Advances closing place
        ⟨closing.pool.raiseFlag, closing.taken, closing.closers.set place (.closing 0)⟩
  | closes {id : WorkerId} (there : closing.closers[place]? = some (.closing id)) :
      Advances closing place
        ⟨closing.pool.closeQueue id, closing.taken, closing.closers.set place (.closing (id + 1))⟩
  | hasClosed {id : WorkerId} (there : closing.closers[place]? = some (.closing id))
      (all : closing.pool.size ≤ id) :
      Advances closing place { closing with closers := closing.closers.set place (.collecting 0) }
  | takes {id : WorkerId} (there : closing.closers[place]? = some (.collecting id)) :
      Advances closing place
        ⟨closing.pool, id :: closing.taken, closing.closers.set place (.joining id)⟩
  | skips {id : WorkerId} (there : closing.closers[place]? = some (.collecting id))
      (elsewhere : id ∈ closing.taken) :
      Advances closing place
        { closing with closers := closing.closers.set place (.collecting (id + 1)) }
  | joins {id : WorkerId} (there : closing.closers[place]? = some (.joining id))
      (ended : ∀ worker, closing.pool.workers[id]? = some worker → worker.running = false) :
      Advances closing place
        { closing with closers := closing.closers.set place (.collecting (id + 1)) }
  | returns {id : WorkerId} (there : closing.closers[place]? = some (.collecting id))
      (all : closing.pool.size ≤ id) :
      Advances closing place { closing with closers := closing.closers.set place .returned }

theorem advances {place : Nat} {next : Closing} (step : closing.advance? place = some next) :
    Advances closing place next := by
  unfold advance? at step
  cases there : closing.closers[place]? with
  | none =>
      rw [there] at step
      cases step
  | some closer =>
      rw [there, Option.bind_some] at step
      cases closer with
      | starting =>
          cases step
          exact .raises there
      | closing id =>
          simp only [Closer.step?] at step
          split at step
          · cases step
            exact .closes there
          · rename_i all
            cases step
            exact .hasClosed there (Nat.le_of_not_lt all)
      | collecting id =>
          simp only [Closer.step?] at step
          split at step
          · split at step
            · rename_i elsewhere
              cases step
              exact .skips there elsewhere
            · cases step
              exact .takes there
          · rename_i all
            cases step
            exact .returns there (Nat.le_of_not_lt all)
      | joining id =>
          simp only [Closer.step?] at step
          split at step
          · cases step
          · rename_i ended
            cases step
            refine .joins there fun worker found => ?_
            rw [found, Option.any_some, Bool.not_eq_true] at ended
            exact ended
      | returned => cases step

/-- Whatever happens, the workers change in their ways. -/
theorem alters_occur (closing : Closing) (event : Event) :
    Alters closing.pool (closing.occur event).pool := by
  have nothing : Alters closing.pool closing.pool := .of_workers rfl id
  cases event with
  | usual event => exact alters_usual ⟨closing.pool, []⟩ event
  | exit id =>
      simp only [occur]
      cases exited : closing.pool.exitThread? id with
      | none => exact nothing
      | some next => exact alters_exitThread exited
  | call => exact nothing
  | close place =>
      simp only [occur]
      cases step : closing.advance? place with
      | none => exact nothing
      | some next =>
          cases advances step with
          | raises there => exact .of_workers rfl fun _ => rfl
          | closes there => exact alters_closeQueue _ _
          | hasClosed there all => exact nothing
          | takes there => exact nothing
          | skips there elsewhere => exact nothing
          | joins there ended => exact nothing
          | returns there all => exact nothing

/-! ## A call by itself -/

theorem foldl_closeQueue (pool : WorkerPool) (count : Nat) :
    (List.range count).foldl closeQueue pool = { pool with
      workers := pool.workers.mapIdx fun id worker =>
        if id < count then worker.closeQueue else worker } := by
  induction count with
  | zero =>
      have same : pool.workers.mapIdx (fun id worker =>
          if id < 0 then worker.closeQueue else worker) = pool.workers := by
        apply List.ext_getElem?
        intro id
        simp only [List.getElem?_mapIdx, Nat.not_lt_zero, if_false, Option.map_id']
      rw [same]
      rfl
  | succ count inductionHypothesis =>
      rw [List.range_succ, List.foldl_append, inductionHypothesis, List.foldl_cons, List.foldl_nil,
        closeQueue]
      congr 1
      apply List.ext_getElem?
      intro id
      rw [List.getElem?_modify, List.getElem?_mapIdx, List.getElem?_mapIdx]
      cases pool.workers[id]? with
      | none => rfl
      | some worker =>
          rcases Nat.lt_trichotomy id count with before | rfl | behind
          · simp only [Option.map_eq_map, Option.map_some, if_pos before,
              if_pos (Nat.lt_succ_of_lt before), if_neg (Nat.ne_of_gt before)]
          · simp only [Option.map_eq_map, Option.map_some, Nat.lt_irrefl, Nat.lt_succ_self, if_true,
              if_false]
          · simp only [Option.map_eq_map, Option.map_some, if_neg (Nat.not_lt_of_gt behind),
              if_neg (Nat.ne_of_lt behind), if_neg (Nat.not_lt_of_le behind)]

/-- Closing the queues one after another closes them all. -/
theorem foldl_closeQueue_size (pool : WorkerPool) :
    (List.range pool.size).foldl closeQueue pool = pool.closeQueues := by
  rw [foldl_closeQueue, closeQueues]
  congr 1
  apply List.ext_getElem?
  intro id
  rw [List.getElem?_mapIdx, List.getElem?_map]
  cases there : pool.workers[id]? with
  | none => rfl
  | some worker =>
      have within : id < pool.size := (List.getElem?_eq_some_iff.mp there).1
      simp only [Option.map_some, if_pos within]

theorem occurAll_concat (closing : Closing) (events : List Event) (event : Event) :
    closing.occurAll (events ++ [event]) = (closing.occurAll events).occur event := by
  rw [occurAll, List.foldl_append]
  rfl

/-- The steps that a call makes after it has raised the flag. -/
theorem occurAll_closing {place : Nat} (there : closing.closers[place]? = some (.closing 0))
    {count : Nat} (within : count ≤ closing.pool.size) :
    closing.occurAll (List.replicate count (.close place)) =
      ⟨(List.range count).foldl closeQueue closing.pool, closing.taken,
        closing.closers.set place (.closing count)⟩ := by
  rcases List.getElem?_eq_some_iff.mp there with ⟨among, same⟩
  induction count with
  | zero =>
      rw [← same, List.set_getElem_self]
      rfl
  | succ count inductionHypothesis =>
      have size : ((List.range count).foldl closeQueue closing.pool).size = closing.pool.size := by
        rw [foldl_closeQueue, size, size, List.length_mapIdx]
      have next : count < ((List.range count).foldl closeQueue closing.pool).size := by
        rw [size]
        exact within
      rw [List.replicate_succ', occurAll_concat, inductionHypothesis (Nat.le_of_succ_le within),
        List.range_succ, List.foldl_append]
      simp only [occur, advance?, List.getElem?_set_self among, Option.bind_some, Closer.step?,
        if_pos next, Option.map_some, Option.getD_some, List.set_set, List.foldl_cons,
        List.foldl_nil]

/-- If nothing comes in between, the first steps of a call are the first half of a shutdown. -/
theorem occurAll_beginShutDown {place : Nat} (there : closing.closers[place]? = some .starting) :
    closing.occurAll (List.replicate (closing.pool.size + 2) (.close place)) =
      ⟨closing.pool.beginShutDown, closing.taken, closing.closers.set place (.collecting 0)⟩ := by
  have among := (List.getElem?_eq_some_iff.mp there).1
  have raised : closing.occur (.close place) =
      ⟨closing.pool.raiseFlag, closing.taken, closing.closers.set place (.closing 0)⟩ := by
    simp only [occur, advance?, there, Option.bind_some, Closer.step?, Option.map_some,
      Option.getD_some]
  have closed := @occurAll_closing
    ⟨closing.pool.raiseFlag, closing.taken, closing.closers.set place (.closing 0)⟩ place
    (List.getElem?_set_self among) closing.pool.size (Nat.le_refl _)
  rw [show closing.pool.size = closing.pool.raiseFlag.size from rfl, foldl_closeQueue_size,
    List.set_set] at closed
  have size : closing.pool.beginShutDown.size = closing.pool.raiseFlag.size := List.length_map _
  have all : ¬ closing.pool.raiseFlag.size < closing.pool.raiseFlag.closeQueues.size :=
    fun less => Nat.lt_irrefl _ (size ▸ less)
  rw [List.replicate_succ, occurAll, List.foldl_cons, raised, ← occurAll, List.replicate_succ',
    occurAll_concat, show closing.pool.size = closing.pool.raiseFlag.size from rfl, closed]
  simp only [occur, advance?, List.getElem?_set_self among, Option.bind_some, Closer.step?,
    if_neg all, Option.map_some, Option.getD_some, List.set_set]
  rfl

/-! ## What holds at all times -/

/-- Whether the queue of a worker is closed, if there is such a worker. -/
def IsClosed (pool : WorkerPool) (id : WorkerId) : Prop :=
  ∀ worker, pool.workers[id]? = some worker → worker.accepting = false

/-- What a call has behind it. -/
def Closer.Has (pool : WorkerPool) (taken : List WorkerId) : Closer → Prop
  | .starting => True
  | .closing next => pool.stopping = true ∧ ∀ id < next, IsClosed pool id
  | .collecting next =>
    pool.stopping = true ∧ (∀ id, IsClosed pool id) ∧ ∀ id < next, id ∈ taken
  | .joining id => pool.stopping = true ∧ (∀ id, IsClosed pool id) ∧ ∀ other ≤ id, other ∈ taken
  | .returned => pool.stopping = true ∧ ∀ id < pool.size, id ∈ taken

/-- What holds of a pool and the calls that shut it down. -/
structure Sound (closing : Closing) : Prop where
  orderly : ∀ {id : WorkerId} {worker : Worker}, closing.pool.workers[id]? = some worker →
    worker.Orderly
  closers : ∀ closer ∈ closing.closers, Closer.Has closing.pool closing.taken closer
  /-- The end of a thread that a call has taken hold of has been seen or is awaited. -/
  joined : ∀ id ∈ closing.taken, ∀ worker, closing.pool.workers[id]? = some worker →
    worker.running = false ∨ .joining id ∈ closing.closers

theorem IsClosed.alters {pool next : WorkerPool} {id : WorkerId} (closed : IsClosed pool id)
    (alters : Alters pool next) : IsClosed next id := by
  intro moved there
  rcases alters.back there with ⟨worker, there', changes⟩
  exact changes.flags.1 (closed worker there')

theorem isClosed_beyond {pool : WorkerPool} {id : WorkerId} (beyond : pool.size ≤ id) :
    IsClosed pool id := by
  intro worker there
  exact absurd (List.getElem?_eq_some_iff.mp there).1 (Nat.not_lt_of_le beyond)

theorem isClosed_closeQueue (pool : WorkerPool) (id : WorkerId) :
    IsClosed (pool.closeQueue id) id := by
  intro worker there
  rw [closeQueue, List.getElem?_modify, Option.map_eq_map] at there
  rcases Option.map_eq_some_iff.mp there with ⟨old, _, rfl⟩
  rw [if_pos rfl]
  rfl

/-- What a call has behind it stays behind it. -/
theorem Closer.Has.alters {pool next : WorkerPool} {taken more : List WorkerId} {closer : Closer}
    (has : Closer.Has pool taken closer) (alters : Alters pool next)
    (grows : ∀ id ∈ taken, id ∈ more) : Closer.Has next more closer := by
  cases closer with
  | starting => trivial
  | closing id => exact ⟨alters.flag has.1, fun other less => (has.2 other less).alters alters⟩
  | collecting id =>
      exact ⟨alters.flag has.1, fun other => (has.2.1 other).alters alters,
        fun other less => grows other (has.2.2 other less)⟩
  | joining id =>
      exact ⟨alters.flag has.1, fun other => (has.2.1 other).alters alters,
        fun other less => grows other (has.2.2 other less)⟩
  | returned =>
      refine ⟨alters.flag has.1, fun id less => grows id (has.2 id ?_)⟩
      rw [size, ← alters.size]
      exact less

/-- What happens beside the calls. -/
theorem Sound.alters (sound : closing.Sound) {next : WorkerPool}
    (alters : Alters closing.pool next) : Sound { closing with pool := next } := by
  refine ⟨?_, ?_, ?_⟩
  · intro id moved there
    rcases alters.back there with ⟨worker, there', changes⟩
    exact (sound.orderly there').changes changes
  · intro closer member
    exact (sound.closers closer member).alters alters fun _ taken => taken
  · intro id taken moved there
    rcases alters.back there with ⟨worker, there', changes⟩
    exact (sound.joined id taken worker there').imp_left changes.flags.2

/-- A call goes on.  It may have taken hold of a thread that it now waits for, and if it has waited
for a thread the thread has ended. -/
theorem Sound.goOn (sound : closing.Sound) {place : Nat} {before after : Closer}
    {taken : List WorkerId} (there : closing.closers[place]? = some before)
    (has : Closer.Has closing.pool taken after) (grows : ∀ id ∈ closing.taken, id ∈ taken)
    (new : ∀ id ∈ taken, id ∈ closing.taken ∨ after = .joining id)
    (joined : ∀ id, before = .joining id →
      ∀ worker, closing.pool.workers[id]? = some worker → worker.running = false) :
    Sound ⟨closing.pool, taken, closing.closers.set place after⟩ := by
  have within : place < closing.closers.length := (List.getElem?_eq_some_iff.mp there).1
  refine ⟨sound.orderly, ?_, ?_⟩
  · intro closer member
    rcases List.mem_or_eq_of_mem_set member with old | rfl
    · exact (sound.closers closer old).alters (.of_workers rfl id) grows
    · exact has
  · intro id among worker found
    rcases new id among with old | rfl
    · rcases sound.joined id old worker found with ended | awaited
      · exact Or.inl ended
      · rcases List.getElem?_of_mem awaited with ⟨other, other_there⟩
        by_cases same : place = other
        · subst same
          rw [there] at other_there
          exact Or.inl (joined id (Option.some.inj other_there) worker found)
        · refine Or.inr (List.mem_of_getElem? (i := other) ?_)
          rw [List.getElem?_set_ne same, other_there]
    · exact Or.inr (List.mem_set within _)

/-- Every step of a call keeps the pool sound. -/
theorem Sound.advance (sound : closing.Sound) {place : Nat} {next : Closing}
    (advances : Advances closing place next) : next.Sound := by
  have has : ∀ {closer}, closing.closers[place]? = some closer →
      Closer.Has closing.pool closing.taken closer :=
    fun there => sound.closers _ (List.mem_of_getElem? there)
  cases advances with
  | raises there =>
      have raises : Alters closing.pool closing.pool.raiseFlag := .of_workers rfl fun _ => rfl
      have raised := sound.alters raises
      refine raised.goOn there ⟨rfl, ?_⟩ (fun _ member => member) (fun _ => Or.inl) ?_
      · exact fun id less => absurd less (Nat.not_lt_zero id)
      · exact fun id same => by cases same
  | closes there =>
      rename_i id
      have closed := sound.alters (alters_closeQueue closing.pool id)
      refine closed.goOn there ⟨(has there).1, ?_⟩ (fun _ member => member) (fun _ => Or.inl) ?_
      · intro other less
        rcases Nat.lt_or_eq_of_le (Nat.le_of_lt_succ less) with earlier | rfl
        · exact ((has there).2 other earlier).alters (alters_closeQueue closing.pool id)
        · exact isClosed_closeQueue closing.pool other
      · exact fun id same => by cases same
  | hasClosed there all =>
      refine sound.goOn there ⟨(has there).1, ?_, ?_⟩ (fun _ member => member) (fun _ => Or.inl) ?_
      · intro id
        rcases Nat.lt_or_ge id closing.pool.size with less | beyond
        · exact (has there).2 id (Nat.lt_of_lt_of_le less all)
        · exact isClosed_beyond beyond
      · exact fun id less => absurd less (Nat.not_lt_zero id)
      · exact fun id same => by cases same
  | takes there =>
      rcases has there with ⟨flag, closed, before⟩
      refine sound.goOn there ⟨flag, closed, ?_⟩ (fun _ => List.mem_cons_of_mem _) ?_ ?_
      · intro other less
        rcases Nat.lt_or_eq_of_le less with earlier | rfl
        · exact List.mem_cons_of_mem _ (before other earlier)
        · exact List.mem_cons_self
      · intro other member
        rcases List.mem_cons.mp member with rfl | old
        · exact Or.inr rfl
        · exact Or.inl old
      · exact fun id same => by cases same
  | skips there elsewhere =>
      rcases has there with ⟨flag, closed, before⟩
      refine sound.goOn there ⟨flag, closed, ?_⟩ (fun _ member => member) (fun _ => Or.inl) ?_
      · intro other less
        rcases Nat.lt_or_eq_of_le (Nat.le_of_lt_succ less) with earlier | rfl
        · exact before other earlier
        · exact elsewhere
      · exact fun id same => by cases same
  | joins there ended =>
      rcases has there with ⟨flag, closed, before⟩
      refine sound.goOn there ⟨flag, closed, ?_⟩ (fun _ member => member) (fun _ => Or.inl) ?_
      · exact fun other less => before other (Nat.le_of_lt_succ less)
      · intro id same
        cases same
        exact ended
  | returns there all =>
      rcases has there with ⟨flag, closed, before⟩
      refine sound.goOn there ⟨flag, ?_⟩ (fun _ member => member) (fun _ => Or.inl) ?_
      · exact fun id less => before id (Nat.lt_of_lt_of_le less all)
      · exact fun id same => by cases same

/-- Whatever happens, the pool and the calls stay sound. -/
theorem Sound.occur (sound : closing.Sound) (event : Event) : (closing.occur event).Sound := by
  cases event with
  | usual event => exact sound.alters (alters_usual ⟨closing.pool, []⟩ event)
  | exit id =>
      simp only [Closing.occur]
      cases exited : closing.pool.exitThread? id with
      | none => exact sound
      | some next => exact sound.alters (alters_exitThread exited)
  | call =>
      refine ⟨sound.orderly, ?_, ?_⟩
      · intro closer member
        rcases List.mem_append.mp member with old | new
        · exact sound.closers closer old
        · rw [List.mem_singleton.mp new]
          trivial
      · intro id taken worker there
        exact (sound.joined id taken worker there).imp_right (List.mem_append_left _)
  | close place =>
      simp only [Closing.occur]
      cases step : closing.advance? place with
      | none => exact sound
      | some next => exact sound.advance (advances step)

theorem Sound.occurAll (sound : closing.Sound) (events : List Event) :
    (closing.occurAll events).Sound := by
  induction events generalizing closing with
  | nil => exact sound
  | cons event events inductionHypothesis => exact inductionHypothesis (sound.occur event)

/-- A pool that has just been started is sound, and nobody shuts it down. -/
theorem sound_start {settings : ServerSettings} {startup : Startup} {start : WorkerPool}
    (spawned : spawn settings startup = .ok start) : Sound ⟨start, [], []⟩ := by
  cases spawn_eq_ok spawned
  refine ⟨?_, fun _ member => absurd member List.not_mem_nil,
    fun _ member => absurd member List.not_mem_nil⟩
  intro id worker there
  rw [List.getElem?_replicate] at there
  split at there
  · cases there
    exact Worker.orderly_new
  · cases there

/-! ## Runs -/

/-- What every change of a worker preserves is preserved by every history.  A flag that is raised at
the beginning is raised at every change. -/
theorem Sound.keeps (sound : closing.Sound) (holds : Worker → Prop)
    (kept : ∀ (flag : Bool) (worker next : Worker), (closing.pool.stopping = true → flag = true) →
      worker.Orderly → holds worker → worker.Changes flag next → holds next)
    {id : WorkerId} {worker : Worker} (there : closing.pool.workers[id]? = some worker)
    (first : holds worker) (events : List Event) :
    ∃ later, (closing.occurAll events).pool.workers[id]? = some later ∧ later.Orderly ∧
      holds later := by
  induction events generalizing closing worker with
  | nil => exact ⟨worker, there, sound.orderly there, first⟩
  | cons event events inductionHypothesis =>
      have alters := closing.alters_occur event
      rcases alters.workers there with ⟨moved, there', changes⟩
      refine inductionHypothesis (sound.occur event) ?_ there'
        (kept _ worker moved (fun raised => raised) (sound.orderly there) first changes)
      intro flag before after raised
      exact kept flag before after fun earlier => raised (alters.flag earlier)

/-- When all calls have returned, and there were any, all threads have come to their end. -/
theorem Sound.ended (sound : closing.Sound) (called : closing.closers ≠ [])
    (returned : ∀ closer ∈ closing.closers, closer = .returned) {id : WorkerId} {worker : Worker}
    (there : closing.pool.workers[id]? = some worker) :
    closing.pool.stopping = true ∧ worker.running = false := by
  rcases List.exists_mem_of_ne_nil _ called with ⟨closer, member⟩
  have has := sound.closers closer member
  rw [returned closer member] at has
  refine ⟨has.1, ?_⟩
  rcases sound.joined id (has.2 id (List.getElem?_eq_some_iff.mp there).1) worker there with
    ended | awaited
  · exact ended
  · cases returned _ awaited

/-! ## What a shutdown guarantees -/

/-- What is guaranteed from some point of the history of a pool on. -/
structure Safe (closing : Closing) : Prop where
  /-- Once the flag is raised a worker calls the handler at most once more, and only for a request that
  has been let through by then. -/
  last_call : closing.pool.stopping = true →
    ∀ (further : List Event) (id : WorkerId) (worker : Worker),
    closing.pool.workers[id]? = some worker →
    ∃ (later : Worker) (calls : List (PeerId × Request)), (closing.occurAll further).pool.workers[id]? = some later ∧
      later.called.Perm (worker.called ++ calls) ∧ calls.Subperm worker.due ∧ calls.length ≤ 1
  /-- Once all calls that shut the pool down have returned, no connection is open, so no handler is
  running, and no handler is ever called again. -/
  silent : closing.closers ≠ [] → (∀ closer ∈ closing.closers, closer = .returned) →
    ∀ (further : List Event) (id : WorkerId) (worker : Worker),
    closing.pool.workers[id]? = some worker →
    ∃ later : Worker, (closing.occurAll further).pool.workers[id]? = some later ∧
      later.called.Perm worker.called ∧ ∀ connection ∈ later.connections, connection.isOpen = false
  /-- A request that turns out to be complete while the flag is raised gets no call and no response,
  then or later. -/
  turned_away : closing.pool.stopping = true →
    ∀ (service : ServiceSurroundings) (id : WorkerId) (place : Nat) (worker : Worker)
      (connection : Connection), closing.pool.workers[id]? = some worker → worker.tasks[place]? = some connection →
    connection.phase = .reading → ∀ (piece : Octets) (inbound : Inbound),
    connection.inbound.read? connection.buffer.room = some (.octets piece, inbound) →
    ∀ (request : Request) (size : Nat),
    Verdict.judge connection.limit (connection.buffer.held ++ piece) = .accept request size →
    (closing.pool.take? service id (.advance place)).isSome = true →
    ∀ further : List Event,
    ∃ (later : Worker) (moved : Connection), (closing.occurAll (.usual (.work service id (.advance place)) ::
        further)).pool.workers[id]? = some later ∧
      later.tasks[place]? = some moved ∧ moved.phase = .ended .stopped ∧
      moved.handled = connection.handled ∧ moved.outbound.written = connection.outbound.written
  /-- A dispatch that finds the queue of its worker closed fails, and nothing is changed by the
  offer. -/
  refused : ∀ (id : WorkerId) (worker : Worker) (stream : Stream),
    closing.pool.workers[id]? = some worker → worker.accepting = false →
    closing.pool.offer id stream.connection = .error (.workerGone id) ∧
      closing.occur (.usual (.offer id stream)) = closing ∧
      (closing.pool.choose.1 = id →
        (closing.pool.dispatch stream.connection).1 = .error (.workerGone id) ∧
          (closing.pool.dispatch stream.connection).2.loads = closing.pool.loads)
  /-- A queue that is closed only gets shorter, and its worker gets no further connection. -/
  closed : ∀ (id : WorkerId) (worker : Worker), closing.pool.workers[id]? = some worker →
    worker.accepting = false →
    ∀ further : List Event, ∃ later : Worker, (closing.occurAll further).pool.workers[id]? = some later ∧
      later.queue.map Connection.peer <:+ worker.queue.map Connection.peer ∧
      (later.connections.map Connection.peer).Perm (worker.connections.map Connection.peer)

theorem Sound.last_call (sound : closing.Sound) (raised : closing.pool.stopping = true)
    (further : List Event) {id : WorkerId} {worker : Worker}
    (there : closing.pool.workers[id]? = some worker) :
    ∃ later calls, (closing.occurAll further).pool.workers[id]? = some later ∧ later.Orderly ∧
      later.called.Perm (worker.called ++ calls) ∧ calls.Subperm worker.due := by
  have kept : ∀ (flag : Bool) (before after : Worker),
      (closing.pool.stopping = true → flag = true) → before.Orderly → worker.Spends before →
      before.Changes flag after → worker.Spends after := by
    intro flag before after stays orderly spends changes
    rw [stays raised] at changes
    exact spends.trans (orderly.spends changes)
  rcases sound.keeps worker.Spends kept there (Worker.Spends.refl worker) further with
    ⟨later, there', orderly, calls, called, due⟩
  refine ⟨later, calls, there', orderly, called, ?_⟩
  exact (List.sublist_append_left calls later.due).subperm.trans due

theorem Sound.silent (sound : closing.Sound) (called : closing.closers ≠ [])
    (returned : ∀ closer ∈ closing.closers, closer = .returned) (further : List Event)
    {id : WorkerId} {worker : Worker} (there : closing.pool.workers[id]? = some worker) :
    ∃ later, (closing.occurAll further).pool.workers[id]? = some later ∧
      later.called.Perm worker.called ∧
      ∀ connection ∈ later.connections, connection.isOpen = false := by
  rcases sound.ended called returned there with ⟨raised, ended⟩
  have none_due := (sound.orderly there).due_of_ended ended
  have stays_ended : ∀ (flag : Bool) (before after : Worker),
      (closing.pool.stopping = true → flag = true) → before.Orderly → before.running = false →
      before.Changes flag after → after.running = false :=
    fun _ _ _ _ _ gone changes => changes.flags.2 gone
  rcases sound.last_call raised further there with ⟨later, calls, there', orderly, called, due⟩
  rcases sound.keeps _ stays_ended there ended further with ⟨_, there'', _, ended'⟩
  rw [there'] at there''
  cases there''
  rw [none_due, List.subperm_nil] at due
  rw [due, List.append_nil] at called
  refine ⟨later, there', called, ?_⟩
  rcases orderly.finished ended' with ⟨_, queue, tasks⟩
  rw [Worker.connections, queue]
  exact tasks

theorem Sound.turned_away (sound : closing.Sound) (raised : closing.pool.stopping = true)
    {service : ServiceSurroundings} {id : WorkerId} {place : Nat} {worker : Worker}
    {connection : Connection} (there : closing.pool.workers[id]? = some worker)
    (task : worker.tasks[place]? = some connection) (reading : connection.phase = .reading)
    {piece : Octets} {inbound : Inbound}
    (answer : connection.inbound.read? connection.buffer.room = some (.octets piece, inbound))
    {request : Request} {size : Nat}
    (complete : Verdict.judge connection.limit (connection.buffer.held ++ piece) =
      .accept request size)
    (able : (closing.pool.take? service id (.advance place)).isSome = true)
    (further : List Event) :
    ∃ later moved, (closing.occurAll (.usual (.work service id (.advance place)) ::
        further)).pool.workers[id]? = some later ∧
      later.tasks[place]? = some moved ∧ moved.phase = .ended .stopped ∧
      moved.handled = connection.handled ∧
      moved.outbound.written = connection.outbound.written := by
  rcases Option.isSome_iff_exists.mp able with ⟨next, taken⟩
  have steps := taken
  unfold take? at steps
  rw [there] at steps
  cases moves : worker.take? (closing.pool.around service id) (.advance place) with
  | none => simp only [moves, reduceCtorEq] at steps
  | some moved =>
      simp only [moves, Option.some.injEq] at steps
      subst steps
      rcases Worker.tasks_of_advance task moves with ⟨stopped, step, task'⟩
      have gone := Connection.stops_advance raised reading answer complete step
      have after : (closing.occur (.usual (.work service id (.advance place)))).pool.workers[id]? =
          some moved := by
        simp only [Closing.occur, Record.occur, taken, Option.getD_some]
        exact List.getElem?_set_self (List.getElem?_eq_some_iff.mp there).1
      rcases (sound.occur (.usual (.work service id (.advance place)))).keeps
          (fun later => ∃ moved, later.tasks[place]? = some moved ∧
            moved.phase = .ended .stopped ∧ moved.handled = connection.handled ∧
            moved.outbound.written = connection.outbound.written)
          (fun flag before next _ _ ended changes => by
            rcases ended with ⟨old, place', ended, handled, written⟩
            rcases changes.task_ended place' ended with ⟨new, place'', ended', handled', written'⟩
            exact ⟨new, place'', ended', handled'.trans handled, written'.trans written⟩)
          after ⟨stopped, task', gone⟩ further with ⟨later, there', _, moved', kept⟩
      exact ⟨later, moved', there', kept⟩

/-- An offer to a worker whose queue is closed is refused. -/
theorem offer_of_closed (pool : WorkerPool) {id : WorkerId} {worker : Worker}
    (there : pool.workers[id]? = some worker) (closed : worker.accepting = false)
    (connection : Connection) : pool.offer id connection = .error (.workerGone id) := by
  simp only [offer, there, Option.bind_some, Worker.offer?, closed, Bool.false_eq_true, if_false]

end Closing

/-- At every point of every history of a pool, with any number of calls that shut it down, it is
safe: raising the flag leaves each worker at most the one call for a request that has been let through,
when the calls have returned there is no further call, requests that are complete too late are dropped,
and nothing gets into a queue that is closed. -/
theorem shutdown_is_safe {settings : ServerSettings} {startup : Startup} {start : WorkerPool}
    (spawned : spawn settings startup = .ok start) (events : List Closing.Event) :
    (Closing.after start events).Safe := by
  have sound : (Closing.after start events).Sound := (Closing.sound_start spawned).occurAll events
  refine ⟨?_, ?_, ?_, ?_, ?_⟩
  · intro raised further id worker there
    rcases sound.last_call raised further there with ⟨later, calls, there', _, called, due⟩
    refine ⟨later, calls, there', called, due, ?_⟩
    exact Nat.le_trans due.length_le (sound.orderly there).length_due_le
  · intro called returned further id worker there
    exact sound.silent called returned further there
  · intro raised service id place worker connection there task reading piece inbound answer request
      size complete able further
    exact sound.turned_away raised there task reading answer complete able further
  · intro id worker stream there closed
    have refused := Closing.offer_of_closed _ there closed stream.connection
    refine ⟨refused, ?_, ?_⟩
    · simp only [Closing.occur, Record.occur, refused]
    · intro chosen
      have refused' := Closing.offer_of_closed (Closing.after start events).pool.choose.2 there
        closed stream.connection
      simp only [dispatch, chosen, refused', true_and]
      rfl
  · intro id worker there closed further
    rcases sound.keeps (fun next => next.accepting = false ∧
          next.queue.map Connection.peer <:+ worker.queue.map Connection.peer ∧
          (next.connections.map Connection.peer).Perm (worker.connections.map Connection.peer))
        (fun flag before next _ _ kept changes => by
          rcases kept with ⟨closed, queue, connections⟩
          rcases changes.closed closed with ⟨queue', connections'⟩
          exact ⟨changes.flags.1 closed, queue'.trans queue, connections'.trans connections⟩)
        there ⟨closed, List.suffix_refl _, List.Perm.refl _⟩ further with
      ⟨later, there', _, _, queue, connections⟩
    exact ⟨later, there', queue, connections⟩

namespace Closing

/-- A request has been let through on the first worker when two calls begin to shut the pool down.  The
second call leaves the thread of that worker to the first one, and returns before it. -/
def overtaking : List Event :=
  List.flatten [[.usual .choose, .usual (.offer 0 (Bindings.stream 7 "GET / HTTP/1.1\r\n\r\n")),
      .usual (.work Bindings.service 0 .receive), .usual (.work Bindings.service 0 (.advance 0)),
      .call, .call],
    List.replicate 5 (.close 0), List.replicate 6 (.close 1), [.exit 1, .close 1, .close 1]]

end Closing

/-- One of two calls has returned although the handler is still to be called once.  Only the return of
both says that it is called no more. -/
theorem first_return_is_not_the_last :
    spawn Bindings.settings .smooth = .ok Bindings.start ∧
      (Closing.after Bindings.start Closing.overtaking).closers = [.joining 0, .returned] ∧
      (Closing.after Bindings.start Closing.overtaking).pool.workers.map
        (fun worker => worker.due.length) = [1, 0] ∧
      (Closing.after Bindings.start Closing.overtaking).Safe :=
  ⟨Bindings.spawn_settings, by decide, by decide,
    shutdown_is_safe Bindings.spawn_settings Closing.overtaking⟩

end WorkerPool

end PromiseHttp
