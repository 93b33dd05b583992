import PromiseHttp.Proofs.Endpoint.Fidelity
import PromiseHttp.Proofs.Endpoint.Lifetime

namespace PromiseHttp
namespace Endpoint
namespace Life

/-!
# The life cycle of an endpoint

An endpoint is bound, then it may serve, and then it is stopped for good.  Only one call ever starts
it, and that call comes back with a fault if the machine has no thread for a worker or for the acceptor.

A shutdown has to wait until the workers have come to their end, so that the handler is called no more
when it has returned.  It does so if it has found the acceptor noted down, and in any case if the calls
follow one another.  But an acceptor that works on the thread of the call that serves is never noted
down.  It shuts the pool down at the same time as the shutdown does, and each of the two waits only for
the threads that the other has not taken hold of.  So either may come back while the other still waits,
and until then a worker may call the handler once more, for a request that had been let through before.
-/

variable {life next middle : Life} {begins : Bool}

/-! ## Histories -/

/-- What holds at every point of the life of an endpoint. -/
structure Proper (life : Life) : Prop where
  sound : life.Sound
  counted : life.Counted
  owned : life.Owned

theorem Proper.turns (proper : life.Proper) (turns : life.Turns begins next) : next.Proper := by
  rcases proper with ⟨sound, counted, owned⟩
  cases turns with
  | beside beside => exact ⟨sound.beside beside, counted.beside beside, owned.beside beside⟩
  | leaves leaves => exact ⟨sound.leaves leaves, counted.leaves leaves, owned.leaves sound leaves⟩
  | begins new =>
      refine ⟨?_, counted.begin new, owned.begin new⟩
      exact ⟨sound.valid, sound.fresh, sound.pool, sound.unserved, sound.absent, sound.bound,
        sound.serving⟩
  | advances there steps =>
      refine ⟨?_, counted.steps sound there steps, owned.steps sound counted there steps⟩
      have after := sound.steps (fun startup same =>
        counted.made startup (same ▸ List.mem_of_getElem? there)) steps
      exact ⟨after.valid, after.fresh, after.pool, after.unserved, after.absent, after.bound,
        after.serving⟩

theorem Proper.occur (proper : life.Proper) (event : Event) : (life.occur event).Proper :=
  proper.turns (Life.turns proper.sound.fresh event)

theorem Proper.occurAll (proper : life.Proper) (events : List Event) :
    (life.occurAll events).Proper := by
  induction events generalizing life with
  | nil => exact proper
  | cons event events inductionHypothesis => exact inductionHypothesis (proper.occur event)

/-- The states that one state can become at once. -/
def Follows (before after : EndpointState) : Prop :=
  after = before ∨ before = .bound ∧ after = .serving ∨ before ≠ .stopped ∧ after = .stopped

/-- Once there is a pool it stays, and its workers change in their ways. -/
theorem Sound.alters (sound : life.Sound) (turns : life.Turns begins next) {pool : WorkerPool}
    (served : life.endpoint.pool = some pool) :
    ∃ after, next.endpoint.pool = some after ∧ WorkerPool.Alters pool after := by
  have nothing : WorkerPool.Alters pool pool := .of_workers rfl id
  cases turns with
  | beside beside =>
      cases beside with
      | moves fresh unserved there =>
          rcases there pool served with ⟨after, found, goes⟩
          exact ⟨after, found, goes.alters⟩
  | leaves leaves => cases leaves <;> exact ⟨pool, served, nothing⟩
  | begins new => exact ⟨pool, served, nothing⟩
  | advances there steps =>
      cases steps with
      | starts state spawned =>
          rw [sound.bound state] at served
          cases served
      | fails state failed =>
          rw [sound.bound state] at served
          cases served
      | stopsBound state =>
          rw [sound.bound state] at served
          cases served
      | _ => exact ⟨pool, served, nothing⟩

/-- While the flag is raised the workers make no calls but those that are due. -/
theorem Proper.spends (proper : life.Proper) {pool : WorkerPool}
    (served : life.endpoint.pool = some pool) (raised : pool.stopping = true)
    (further : List Event) :
    ∃ last, (life.occurAll further).endpoint.pool = some last ∧
      last.workers.length = pool.workers.length ∧
      ∀ (id : WorkerId) (worker : Worker), pool.workers[id]? = some worker →
        ∃ later, last.workers[id]? = some later ∧ worker.Spends later ∧
          (worker.running = false → later.running = false) := by
  induction further generalizing life pool with
  | nil => exact ⟨pool, served, rfl, fun _ worker there => ⟨worker, there, .refl worker, id⟩⟩
  | cons event further inductionHypothesis =>
      rcases proper.sound.alters (Life.turns proper.sound.fresh event) served with
        ⟨after, served', alters⟩
      rcases inductionHypothesis (proper.occur event) served' (alters.flag raised) with
        ⟨last, last_served, size, spends⟩
      refine ⟨last, last_served, size.trans alters.size, fun id worker there => ?_⟩
      rcases alters.workers there with ⟨moved, there', changes⟩
      rcases spends id moved there' with ⟨later, found, spent, ended⟩
      rw [raised] at changes
      refine ⟨later, found, ?_, fun gone => ended (changes.flags.2 gone)⟩
      exact (((proper.sound.pool pool served).orderly there).spends changes).trans spent

/-! ## Calls that follow one another -/

/-- Whether a call begins only when all calls before it have returned. -/
def InTurn (life : Life) : List Event → Prop
  | [] => True
  | event :: rest =>
    (event.begins = true → ∀ call ∈ life.calls, call.hasReturned = true) ∧
      (life.occur event).InTurn rest

/-- Whether the acceptor has come to its end or never got a thread. -/
def Gone (life : Life) : Prop := life.acceptor = .ended ∨ life.acceptor = .lost

/-- Whether a call has started the endpoint and has not returned. -/
def Busy (calls : List Call) : Prop :=
  ∃ call ∈ calls, call.hasStarted = true ∧ call.hasReturned = false

/-- What holds while calls follow one another.  A shutdown that ends the serving finds that the acceptor
has been noted down or is gone. -/
structure Successive (life : Life) : Prop where
  single : life.calls.countP (fun call => !call.hasReturned) ≤ 1
  hosted : life.endpoint.state = .serving → life.noted = true ∨ life.Gone ∨ Busy life.calls
  known : life.endpoint.state = .stopped → life.endpoint.pool ≠ none →
    life.noted = true ∨ life.Gone
  down : life.acceptor = .ended → life.Down

theorem Successive.beside (successive : life.Successive) (beside : life.Beside next) :
    next.Successive := by
  have down := fun ended => (successive.down ended).beside beside
  cases beside with
  | @moves waiting pool taken closers fresh unserved served =>
      refine ⟨successive.single, successive.hosted, fun state there => successive.known state ?_, down⟩
      exact fun gone => there (unserved gone).1

theorem Successive.begin (successive : life.Successive) {call : Call}
    (first : ∀ call ∈ life.calls, call.hasReturned = true) :
    Successive { life with calls := life.calls ++ [call] } := by
  refine ⟨?_, fun state => ?_, successive.known, successive.down⟩
  · have none_yet : life.calls.countP (fun call => !call.hasReturned) = 0 := by
      rw [List.countP_eq_zero]
      intro call member
      rw [first call member]
      exact Bool.false_ne_true
    rw [List.countP_append, none_yet, Nat.zero_add]
    exact List.countP_le_length
  · refine (successive.hosted state).imp_right (Or.imp_right ?_)
    rintro ⟨other, member, busy⟩
    exact ⟨other, List.mem_append_left _ member, busy⟩

/-- The acceptor of an endpoint that has a pool has been noted down, or the endpoint is serving, or the
acceptor is gone. -/
theorem Successive.leaves (successive : life.Successive) (proper : life.Proper)
    (leaves : life.Leaves next) : next.Successive := by
  have after := proper.owned.leaves proper.sound leaves
  have not_gone : ¬ life.Gone → life.endpoint.pool ≠ none →
      life.endpoint.state = .serving ∨ life.noted = true := by
    intro still served
    cases state : life.endpoint.state with
    | bound => exact absurd (proper.sound.bound state) served
    | serving => exact Or.inl rfl
    | stopped => exact Or.inr ((successive.known state served).resolve_right still)
  have here : ∀ {moved : Acceptor}, life.acceptor = moved → moved ≠ .ended → moved ≠ .lost →
      ¬ life.Gone := by
    intro moved same one other gone
    exact gone.elim (fun ended => one (same.symm.trans ended))
      fun lost => other (same.symm.trans lost)
  cases leaves with
  | heeds accepting told =>
      have still := here accepting nofun nofun
      refine ⟨successive.single, fun state => ?_, fun state served => ?_, nofun⟩
      · exact (successive.hosted state).imp_right fun rest => Or.inr (rest.resolve_left still)
      · exact Or.inl ((successive.known state served).resolve_right still)
  | interrupted accepting =>
      have still := here accepting nofun nofun
      refine ⟨successive.single, fun state => ?_, fun state served => ?_, nofun⟩
      · exact (successive.hosted state).imp_right fun rest => Or.inr (rest.resolve_left still)
      · exact Or.inl ((successive.known state served).resolve_right still)
  | closes leaving =>
      have still := here leaving nofun nofun
      refine ⟨successive.single, fun state => ?_, fun state served => ?_, nofun⟩
      · exact (successive.hosted state).imp_right fun rest => Or.inr (rest.resolve_left still)
      · exact Or.inl ((successive.known state served).resolve_right still)
  | @ends place closing down =>
      have gone : Gone { life with acceptor := .ended } := Or.inl rfl
      refine ⟨successive.single, fun _ => Or.inr (Or.inl gone), fun _ _ => Or.inr gone, fun _ => ?_⟩
      have present : life.acceptor ≠ .absent := by rw [closing]; nofun
      exact after.alone (not_gone (here closing nofun nofun) (proper.sound.served present))

theorem Successive.steps (successive : life.Successive) (proper : life.Proper) {place : Nat}
    {before after : Call} (there : life.calls[place]? = some before)
    (steps : life.Steps before middle after) :
    Successive { middle with calls := life.calls.set place after } := by
  have member := List.mem_of_getElem? there
  have counts := countP_set there after fun call => !call.hasReturned
  have awake : before.hasReturned = false := by cases steps <;> rfl
  have single : (life.calls.set place after).countP (fun call => !call.hasReturned) ≤ 1 := by
    have single := successive.single
    simp only [awake, Bool.not_false, Bool.toNat_true] at counts
    have least : (!after.hasReturned).toNat ≤ 1 := Bool.toNat_le _
    omega
  -- A call that has not started the endpoint leaves the one that has where it is.
  have hosted : before.hasStarted = false → life.endpoint.state = .serving →
      life.noted = true ∨ life.Gone ∨ Busy (life.calls.set place after) := by
    intro other state
    refine (successive.hosted state).imp_right (Or.imp_right ?_)
    rintro ⟨call, among, started, returned⟩
    refine ⟨call, mem_set_of_ne there among ?_, started, returned⟩
    rintro rfl
    cases started.symm.trans other
  have busy : after.hasStarted = true → after.hasReturned = false →
      Busy (life.calls.set place after) := fun started returned =>
    ⟨after, List.mem_set (List.getElem?_eq_some_iff.mp there).1 after, started, returned⟩
  cases steps with
  | @starts threaded startup pool state spawned =>
      refine ⟨single, fun _ => Or.inr (Or.inr (busy ?_ ?_)), nofun, ?_⟩
      · cases threaded <;> rfl
      · cases threaded <;> rfl
      · cases threaded <;> exact nofun
  | fails state failed =>
      exact ⟨single, nofun, fun _ served => absurd (proper.sound.bound state) served, successive.down⟩
  | refused state => exact ⟨single, hosted rfl, successive.known, successive.down⟩
  | launches smooth =>
      have made := proper.counted.made _ member
      have still : ¬ life.Gone := fun gone =>
        gone.elim (fun ended => nomatch made.symm.trans ended) fun lost => nomatch made.symm.trans lost
      refine ⟨single, fun _ => Or.inr (Or.inr (busy rfl rfl)), fun state served => ?_, nofun⟩
      exact Or.inl ((successive.known state served).resolve_right still)
  | strands none_left =>
      exact ⟨single, fun _ => Or.inr (Or.inl (Or.inr rfl)), fun _ _ => Or.inr (Or.inr rfl), nofun⟩
  | notes =>
      refine ⟨single, fun state => Or.inl ?_, fun state served => ?_, successive.down⟩
      · rw [Bool.or_eq_true, decide_eq_true_eq]
        exact Or.inr state
      · rw [Bool.or_eq_true]
        exact (successive.known state served).imp_left Or.inl
  | comesBack ended =>
      exact ⟨single, fun _ => Or.inr (Or.inl (Or.inl ended)), successive.known, successive.down⟩
  | tells => exact ⟨single, hosted rfl, successive.known, successive.down⟩
  | stopsBound state =>
      exact ⟨single, nofun, fun _ served => absurd (proper.sound.bound state) served, successive.down⟩
  | stopsNoted state noted =>
      exact ⟨single, nofun, fun _ _ => Or.inl noted, successive.down⟩
  | stopsUnnoted state unnoted =>
      refine ⟨single, nofun, fun _ _ => ?_, successive.down⟩
      -- This call is the only one that has not returned, so no other holds the acceptor.
      refine (successive.hosted state).imp_right fun rest => rest.resolve_right ?_
      rintro ⟨call, among, started, returned⟩
      have same := unique_of_countP_le successive.single member among rfl
        (by rw [returned, Bool.not_false])
      rw [← same] at started
      cases started
  | stopsAgain state => exact ⟨single, hosted rfl, successive.known, successive.down⟩
  | awaits ended => exact ⟨single, hosted rfl, successive.known, successive.down⟩
  | closes down => exact ⟨single, hosted rfl, successive.known, successive.down⟩
  | announces => exact ⟨single, hosted rfl, successive.known, successive.down⟩

theorem Successive.turns (successive : life.Successive) (proper : life.Proper)
    (turns : life.Turns begins next)
    (first : begins = true → ∀ call ∈ life.calls, call.hasReturned = true) : next.Successive := by
  cases turns with
  | beside beside => exact successive.beside beside
  | leaves leaves => exact successive.leaves proper leaves
  | begins new => exact successive.begin (first rfl)
  | advances there steps => exact successive.steps proper there steps

theorem Successive.occurAll (successive : life.Successive) (proper : life.Proper)
    {events : List Event} (turn : life.InTurn events) : (life.occurAll events).Successive := by
  induction events generalizing life with
  | nil => exact successive
  | cons event events inductionHypothesis =>
      refine inductionHypothesis ?_ (proper.occur event) turn.2
      exact successive.turns proper (Life.turns proper.sound.fresh event) turn.1

/-- The worker with a number, if the endpoint has it. -/
def worker? (life : Life) (id : WorkerId) : Option Worker :=
  life.endpoint.pool.bind fun pool => pool.workers[id]?

/-- Whether no connection is open and no handler is ever called again. -/
def Silent (life : Life) : Prop :=
  ∀ (further : List Event) (id : WorkerId) (later : Worker),
    (life.occurAll further).worker? id = some later →
    ∃ worker, life.worker? id = some worker ∧ later.called.Perm worker.called ∧
      ∀ connection ∈ later.connections, connection.isOpen = false

/-- The pool of an endpoint that somebody has shut down. -/
theorem Proper.raised (proper : life.Proper) (returned : .returned ∈ life.closers) :
    ∃ pool, life.endpoint.pool = some pool ∧ pool.stopping = true := by
  cases served : life.endpoint.pool with
  | none =>
      rw [(proper.sound.unserved served).2] at returned
      cases returned
  | some pool => exact ⟨pool, rfl, ((proper.sound.pool pool served).closers _ returned).1⟩

/-- Once somebody has shut the pool down, a worker makes no call but the one that is due. -/
theorem Proper.last_call (proper : life.Proper) (returned : .returned ∈ life.closers)
    (further : List Event) {id : WorkerId} {later : Worker}
    (found : (life.occurAll further).worker? id = some later) :
    ∃ worker calls, life.worker? id = some worker ∧ later.called.Perm (worker.called ++ calls) ∧
      calls.Subperm worker.due ∧ calls.length ≤ 1 ∧ (worker.running = false →
        calls = [] ∧ ∀ connection ∈ later.connections, connection.isOpen = false) := by
  rcases proper.raised returned with ⟨pool, served, raised⟩
  rcases proper.spends served raised further with ⟨last, served', size, spends⟩
  rw [worker?, served', Option.bind_some] at found
  have within : id < pool.workers.length := by
    rw [← size]
    exact (List.getElem?_eq_some_iff.mp found).1
  have there := List.getElem?_eq_getElem within
  have orderly := (proper.sound.pool pool served).orderly there
  have orderly' := ((proper.occurAll further).sound.pool last served').orderly found
  rcases spends id _ there with ⟨later', found', ⟨calls, called, due⟩, stays⟩
  rw [found] at found'
  cases found'
  have subperm := (List.sublist_append_left calls later.due).subperm.trans due
  refine ⟨_, calls, ?_, called, subperm, Nat.le_trans subperm.length_le orderly.length_due_le,
    fun ended => ⟨?_, ?_⟩⟩
  · rw [worker?, served, Option.bind_some, there]
  · rw [orderly.due_of_ended ended, List.subperm_nil] at subperm
    exact subperm
  · rcases orderly'.finished (stays ended) with ⟨_, queue, tasks⟩
    rw [Worker.connections, queue]
    exact tasks

/-- When all threads have come to their end no handler is called any more. -/
theorem Proper.silent (proper : life.Proper) (returned : .returned ∈ life.closers)
    (down : life.Down) : life.Silent := by
  intro further id later found
  rcases proper.last_call returned further found with
    ⟨worker, calls, there, called, _, _, ended⟩
  rcases proper.raised returned with ⟨pool, served, _⟩
  have there' := there
  rw [worker?, served, Option.bind_some] at there'
  rcases ended ((down pool served).2 id worker there') with ⟨none_left, gone⟩
  rw [none_left, List.append_nil] at called
  exact ⟨worker, there, called, gone⟩

/-- When neither the acceptor nor a call is just shutting the pool down, but somebody has, all threads
have come to their end. -/
theorem Proper.down (proper : life.Proper) (returned : .returned ∈ life.closers)
    (acceptor : ∀ place, life.acceptor ≠ .closing place)
    (calls : ∀ call ∈ life.calls, call.isClosing = false) : life.Down := by
  refine proper.sound.down (List.ne_nil_of_mem returned) fun closer member => ?_
  rcases List.getElem?_of_mem member with ⟨place, there⟩
  rcases proper.owned.owners place closer there with gone | owner | call
  · exact gone
  · exact absurd owner (acceptor place)
  · cases calls _ call

end Life

namespace Life

instance decidableInTurn (life : Life) : (events : List Event) → Decidable (life.InTurn events)
  | [] => isTrue trivial
  | event :: rest =>
    have := decidableInTurn (life.occur event) rest
    inferInstanceAs (Decidable ((_ → ∀ call ∈ life.calls, _) ∧ _))

/-- A peer connects and sends a request, which is let through. -/
def knocking : List Event :=
  [.arrive 7, .touch 7 (.send (Octets.encode "GET / HTTP/1.1\r\n\r\n")), .accept,
    .work Greeting.service 0 .receive, .work Greeting.service 0 (.advance 0)]

/-- The endpoint serves, refuses to serve again, and is shut down while the handler is still to be
called. -/
def stopping : List Event :=
  List.flatten [[.serve true .smooth, .advance 0, .advance 0, .advance 0, .serve false .smooth,
    .advance 1], knocking, [.shutDown, .advance 2, .advance 2, .leave, .leave],
    List.replicate 5 (.close 0), List.replicate 3 (.work Greeting.service 0 (.advance 0)),
    [.exit 0, .close 0, .close 0, .leave, .advance 2], List.replicate 6 (.close 1),
    [.advance 2, .advance 2]]

/-- The endpoint serves on the thread of the call, and is shut down from another, while the handler is
still to be called.  The acceptor waits for the worker, and the shutdown leaves that to it. -/
def overtaking : List Event :=
  List.flatten [[.serve false .smooth, .advance 0], knocking,
    [.shutDown, .advance 1, .advance 1, .leave, .leave], List.replicate 4 (.close 1),
    List.replicate 5 (.close 0), [.advance 1, .advance 1]]

/-- The worker calls the handler and comes to its end, and so do the acceptor and the call that serves. -/
def answering : List Event :=
  List.flatten [List.replicate 3 (.work Greeting.service 0 (.advance 0)),
    [.exit 0, .close 1, .close 1, .leave, .advance 0]]

/-- The machine has no more threads. -/
def exhaustion : IoFault := ⟨.other, "Resource temporarily unavailable (os error 11)"⟩

/-- There is no thread for any worker. -/
def exhausted : Startup := ⟨fun _ => some (.spawn exhaustion), none⟩

end Life

end Endpoint
end PromiseHttp
