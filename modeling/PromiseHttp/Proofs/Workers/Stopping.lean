import Mathlib.Data.List.Perm.Subperm
import PromiseHttp.Proofs.Connection.Transcript
import PromiseHttp.Proofs.Workers.Accounting

namespace PromiseHttp

/-!
# Workers of a pool that is stopping

Once the flag of a pool is raised, no look at it lets a request through.  So the handler is called at
most for a request that was let through before, and of these a worker has at most one, because it
does nothing else until the handler has come back.

Whatever happens to a pool changes each of its workers in one of a few ways.  The worker takes a step,
it is offered a connection, its thread comes to an end, or all that happens is that its connections
are changed from outside and its queue is closed.  What follows is shown for these.
-/

namespace Connection

/-! ## Calls of the handler -/

/-- The calls of the handler so far, each with the peer whose request it was. -/
def calls (connection : Connection) : List (PeerId × Request) :=
  connection.handled.map fun entry => (connection.peer, entry.1)

/-- The call of the handler that is about to be made, for a request that has been let through. -/
def due? (connection : Connection) : Option (PeerId × Request) :=
  match connection.phase with
  | .cleared request => some (connection.peer, request)
  | _ => none

theorem isBusy_of_due {connection : Connection} (due : connection.due?.isSome = true) :
    connection.isBusy = true := by
  unfold due? at due
  unfold isBusy
  split at due
  · rename_i cleared
    rw [cleared]
  · cases due

theorem due?_of_idle {connection : Connection} (idle : connection.isBusy = false) :
    connection.due? = none := by
  cases due : connection.due? with
  | none => rfl
  | some call =>
      rw [isBusy_of_due (by rw [due]; rfl)] at idle
      cases idle

theorem isBusy_of_reading {connection : Connection} (reading : connection.phase = .reading) :
    connection.isBusy = false := by
  simp only [isBusy, reading]

theorem phase_of_ended {connection : Connection} (ended : connection.isOpen = false) :
    ∃ ending, connection.phase = .ended ending := by
  unfold isOpen ending? at ended
  split at ended
  · rename_i ending phase
    exact ⟨ending, phase⟩
  · cases ended

theorem isBusy_of_ended {connection : Connection} (ended : connection.isOpen = false) :
    connection.isBusy = false := by
  rcases phase_of_ended ended with ⟨ending, phase⟩
  simp only [isBusy, phase]

theorem handled_refuse (connection : Connection) (response : Response) :
    (connection.refuse response).handled = connection.handled := by
  unfold refuse
  split <;> rfl

/-- A read does not call the handler, and while the server is stopping it lets no request through. -/
theorem idle_onRead (connection : Connection) (reading : connection.phase = .reading)
    (result : ReadResult) :
    (connection.onRead true result).handled = connection.handled ∧
      (connection.onRead true result).due? = none := by
  have ended : ∀ {next : Connection}, (∃ ending, next.phase = .ended ending) → next.due? = none := by
    rintro next ⟨ending, phase⟩
    simp only [due?, phase]
  cases result with
  | ended => exact ⟨rfl, rfl⟩
  | failed fault => exact ⟨rfl, rfl⟩
  | octets piece =>
      simp only [onRead, consider]
      split
      · exact ⟨rfl, by simp only [due?, reading]⟩
      · exact ⟨handled_refuse _ _, ended (phase_refuse _ _)⟩
      · exact ⟨rfl, rfl⟩
      · exact ⟨rfl, rfl⟩

theorem idle_reply (connection : Connection) (files : Files) (request : Request)
    (call : HandlerCall) :
    (connection.reply files request call).handled = connection.handled ∧
      (connection.reply files request call).due? = none := by
  simp only [reply]
  split
  · exact ⟨rfl, rfl⟩
  · split
    · exact ⟨rfl, rfl⟩
    · split <;> exact ⟨rfl, rfl⟩

/-- While the server is stopping, a step makes the call that is due, and no other call becomes
due. -/
theorem calls_advance {surroundings : Surroundings} (stopping : surroundings.stopping = true)
    {connection next : Connection} (step : connection.advance? surroundings = some next) :
    next.calls = connection.calls ++ connection.due?.toList ∧ next.due? = none := by
  have silent : ∀ {next : Connection}, next.peer = connection.peer →
      next.handled = connection.handled → connection.due? = none →
      next.calls = connection.calls ++ connection.due?.toList := by
    intro next peer handled nothing
    rw [calls, calls, peer, handled, nothing, Option.toList_none, List.append_nil]
  cases moves_of_advance step with
  | @read result inbound reading answer =>
      rw [stopping]
      rcases idle_onRead { connection with inbound := inbound } reading result with ⟨handled, due⟩
      exact ⟨silent (by rw [peer_onRead]) handled (by simp only [due?, reading]), due⟩
  | call cleared =>
      refine ⟨?_, rfl⟩
      simp only [calls, callHandler, due?, cleared, List.map_append, List.map_cons, List.map_nil,
        Option.toList_some]
  | comeBack calling returns => exact ⟨silent rfl rfl (by simp only [due?, calling]), rfl⟩
  | @reply request call replying =>
      rcases idle_reply connection surroundings.files request call with ⟨handled, due⟩
      exact ⟨silent (peer_reply _ _ _ _) handled (by simp only [due?, replying]), due⟩

/-- A request that turns out to be complete while the server is stopping is dropped: the connection
ends without a call and without a word. -/
theorem stops_advance {surroundings : Surroundings} (stopping : surroundings.stopping = true)
    {connection next : Connection} (reading : connection.phase = .reading) {piece : Octets}
    {inbound : Inbound}
    (answer : connection.inbound.read? connection.buffer.room = some (.octets piece, inbound))
    {request : Request} {size : Nat}
    (complete : Verdict.judge connection.limit (connection.buffer.held ++ piece) =
      .accept request size)
    (step : connection.advance? surroundings = some next) :
    next.phase = .ended .stopped ∧ next.handled = connection.handled ∧
      next.outbound.written = connection.outbound.written := by
  have judged : Verdict.judge connection.limit (connection.buffer.append piece).held =
      .accept request size := by
    rw [ReadBuffer.held_append]
    exact complete
  simp only [advance?, reading, answer, onRead, consider, judged, stopping, if_true,
    Option.some.injEq] at step
  subst step
  exact ⟨rfl, rfl, rfl⟩

/-! ## What happens from outside -/

/-- What becomes of a connection at an event that is no step of its own. -/
structure Idles (before after : Connection) : Prop where
  peer : after.peer = before.peer
  handled : after.handled = before.handled
  written : after.outbound.written = before.outbound.written
  busy : after.isBusy = true → before.isBusy = true
  due : after.due? = none ∨ after.due? = before.due?
  ended : ∀ ending, before.phase = .ended ending → after.phase = .ended ending

theorem Idles.refl (connection : Connection) : Idles connection connection :=
  ⟨rfl, rfl, rfl, id, Or.inr rfl, fun _ ended => ended⟩

theorem Idles.calls {before after : Connection} (idles : Idles before after) :
    after.calls = before.calls := by
  rw [Connection.calls, Connection.calls, idles.peer, idles.handled]

/-- Peers do not move a connection on. -/
theorem idles_byPeer (connection : Connection) {event : Event} (own : event.byPeer = true) :
    Idles connection (connection.occur event) ∧
      (connection.occur event).phase = connection.phase := by
  cases event with
  | send chunk => exact ⟨⟨rfl, rfl, rfl, id, Or.inr rfl, fun _ ended => ended⟩, rfl⟩
  | disturb fault => exact ⟨⟨rfl, rfl, rfl, id, Or.inr rfl, fun _ ended => ended⟩, rfl⟩
  | close => exact ⟨⟨rfl, rfl, rfl, id, Or.inr rfl, fun _ ended => ended⟩, rfl⟩
  | takeWrites budget => exact ⟨⟨rfl, rfl, rfl, id, Or.inr rfl, fun _ ended => ended⟩, rfl⟩
  | step surroundings => cases own
  | elapse time => cases own
  | letGo => cases own

theorem idles_elapse (connection : Connection) (time : Nat) :
    Idles connection (connection.elapse time) := by
  unfold elapse
  split
  · rename_i request call asleep calling
    refine ⟨rfl, rfl, rfl, fun _ => by simp only [isBusy, calling], Or.inl rfl, ?_⟩
    intro ending ended
    rw [calling] at ended
    cases ended
  · exact Idles.refl connection

theorem idles_letGo (connection : Connection) :
    Idles connection connection.letGo ∧ connection.letGo.isOpen = false := by
  unfold letGo
  split
  · rename_i finished
    refine ⟨Idles.refl connection, ?_⟩
    unfold isOpen
    rw [Option.isNone_eq_false_iff]
    exact finished
  · rename_i still
    refine ⟨⟨rfl, rfl, rfl, fun busy => Bool.noConfusion busy, Or.inl rfl, ?_⟩, rfl⟩
    intro ending ended
    apply absurd _ still
    simp only [ending?, ended, Option.isSome_some]

end Connection

namespace Worker

/-! ## What may become of a worker -/

/-- The calls of the handler that a worker has made. -/
def called (worker : Worker) : List (PeerId × Request) :=
  worker.connections.flatMap Connection.calls

/-- The calls of the handler that a worker is about to make. -/
def due (worker : Worker) : List (PeerId × Request) := worker.tasks.filterMap Connection.due?

/-- What may become of a worker while the flag of its pool is raised, or is not. -/
inductive Changes (stopping : Bool) (worker : Worker) : Worker → Prop
  /-- Its connections are changed from outside, and its queue may be closed. -/
  | idles {next : Worker} {early late : Connection → Connection}
      (queue : next.queue = worker.queue.map early) (tasks : next.tasks = worker.tasks.map late)
      (waits : ∀ connection, (early connection).phase = connection.phase)
      (early_idles : ∀ connection, Connection.Idles connection (early connection))
      (late_idles : ∀ connection, Connection.Idles connection (late connection))
      (accepting : worker.accepting = false → next.accepting = false)
      (running : next.running = worker.running) : Changes stopping worker next
  /-- The connection that has waited longest is received, or given up. -/
  | receives {connection moved : Connection} {rest : List Connection} {load : Nat}
      (idle : worker.isBusy = false) (queue : worker.queue = connection :: rest)
      (received : moved = connection ∨ ∃ ending, moved = connection.finish ending) :
      Changes stopping worker
        { worker with load := load, queue := rest, tasks := worker.tasks ++ [moved] }
  /-- One of its connections makes a step. -/
  | advances {front back : List Connection} {connection moved : Connection}
      {surroundings : Connection.Surroundings} {load : Nat}
      (flag : surroundings.stopping = stopping)
      (free : connection.isBusy = true ∨ worker.isBusy = false)
      (tasks : worker.tasks = front ++ connection :: back)
      (step : connection.advance? surroundings = some moved) :
      Changes stopping worker { worker with load := load, tasks := front ++ moved :: back }
  | offered {connection : Connection} (accepting : worker.accepting = true)
      (reading : connection.phase = .reading) (new : connection.handled = []) :
      Changes stopping worker (worker.offered connection)
  /-- Its thread comes to an end. -/
  | exits (idle : worker.isBusy = false) (closed : worker.accepting = false)
      (queue : worker.queue = []) :
      Changes stopping worker
        { worker with running := false, tasks := worker.tasks.map Connection.letGo }

theorem Changes.same (stopping : Bool) (worker : Worker) : Changes stopping worker worker :=
  .idles (List.map_id' _).symm (List.map_id' _).symm (fun _ => rfl) Connection.Idles.refl
    Connection.Idles.refl id rfl

variable {stopping : Bool} {worker next : Worker}

theorem changes_of_takes {surroundings : Connection.Surroundings}
    (flag : surroundings.stopping = stopping) (takes : Takes surroundings worker next) :
    Changes stopping worker next := by
  cases takes with
  | receives idle before after =>
      subst after
      exact .receives idle before (Or.inl rfl)
  | advances free before step after =>
      subst after
      exact .advances flag free before step

/-- A step of the connection at a place leaves what has become of it there. -/
theorem tasks_of_advance {surroundings : Connection.Surroundings} {place : Nat}
    {connection : Connection} (there : worker.tasks[place]? = some connection)
    (taken : worker.take? surroundings (.advance place) = some next) :
    ∃ moved, connection.advance? surroundings = some moved ∧
      next.tasks[place]? = some moved := by
  simp only [take?, advance?, there] at taken
  split at taken
  · cases moves : connection.advance? surroundings with
    | none => simp only [moves, reduceCtorEq] at taken
    | some moved =>
        simp only [moves, Option.some.injEq] at taken
        subst taken
        exact ⟨moved, rfl, List.getElem?_set_self (List.getElem?_eq_some_iff.mp there).1⟩
  · cases taken

theorem changes_of_discard {fault : IoFault} (discarded : worker.discard? fault = some next) :
    Changes stopping worker next := by
  unfold discard? at discarded
  split at discarded
  · rename_i free
    simp only [Bool.and_eq_true, Bool.not_eq_true'] at free
    cases queue : worker.queue with
    | nil => simp only [queue, reduceCtorEq] at discarded
    | cons connection rest =>
        simp only [queue, Option.some.injEq] at discarded
        subst discarded
        exact .receives free.2 queue (Or.inr ⟨_, rfl⟩)
  · cases discarded

theorem changes_of_exit (exited : worker.exit? = some next) : Changes stopping worker next := by
  unfold exit? at exited
  split at exited
  · rename_i free
    simp only [Bool.and_eq_true, Bool.not_eq_true', List.isEmpty_iff] at free
    rcases free with ⟨⟨⟨_, closed⟩, queue⟩, idle⟩
    cases exited
    exact .exits idle closed queue
  · cases exited

theorem changes_modify (worker : Worker) {event : Connection.Event} (own : event.byPeer = true)
    (peer : PeerId) : Changes stopping worker (worker.modify peer (Connection.occur · event)) := by
  refine .idles rfl rfl ?_ ?_ ?_ id rfl
  · intro connection
    split
    · exact (Connection.idles_byPeer connection own).2
    · rfl
  all_goals
    intro connection
    split
    · exact (Connection.idles_byPeer connection own).1
    · exact Connection.Idles.refl connection

theorem changes_elapse (worker : Worker) (time : Nat) :
    Changes stopping worker (worker.elapse time) :=
  .idles (List.map_id' _).symm rfl (fun _ => rfl) Connection.Idles.refl
    (fun connection => Connection.idles_elapse connection time) id rfl

theorem changes_closeQueue (worker : Worker) : Changes stopping worker worker.closeQueue :=
  .idles (List.map_id' _).symm (List.map_id' _).symm (fun _ => rfl) Connection.Idles.refl
    Connection.Idles.refl (fun _ => rfl) rfl

/-- A queue that is closed stays closed, and a thread that has come to an end stays there. -/
theorem Changes.flags (changes : Changes stopping worker next) :
    (worker.accepting = false → next.accepting = false) ∧
      (worker.running = false → next.running = false) := by
  cases changes with
  | idles queue tasks waits early_idles late_idles accepting running =>
      exact ⟨accepting, running.trans⟩
  | receives idle queue received => exact ⟨id, id⟩
  | advances flag free tasks step => exact ⟨id, id⟩
  | offered accepting reading new => exact ⟨id, id⟩
  | exits idle closed queue => exact ⟨id, fun _ => rfl⟩

/-! ## One thing at a time -/

/-- What holds of a worker at all times. -/
structure Orderly (worker : Worker) : Prop where
  /-- At most one connection is between the look at the server and the return of the handler. -/
  single : worker.tasks.countP Connection.isBusy ≤ 1
  waiting : ∀ connection ∈ worker.queue, connection.phase = .reading
  /-- A thread comes to an end behind a closed and empty queue, and leaves no connection open. -/
  finished : worker.running = false → worker.accepting = false ∧ worker.queue = [] ∧
    ∀ connection ∈ worker.tasks, connection.isOpen = false

theorem orderly_new : Worker.new.Orderly :=
  ⟨Nat.zero_le 1, fun _ member => absurd member List.not_mem_nil, fun ended => by cases ended⟩

theorem countP_of_idle (idle : worker.isBusy = false) :
    worker.tasks.countP Connection.isBusy = 0 := by
  rw [List.countP_eq_zero]
  exact List.any_eq_false.mp idle

/-- Whatever becomes of a worker, it does one thing at a time. -/
theorem Orderly.changes (orderly : worker.Orderly) (changes : Changes stopping worker next) :
    next.Orderly := by
  cases changes with
  | @idles _ early late queue tasks waits early_idles late_idles accepting running =>
      refine ⟨?_, ?_, ?_⟩
      · rw [tasks, List.countP_map]
        refine Nat.le_trans (List.countP_mono_left ?_) orderly.single
        exact fun connection _ busy => (late_idles connection).busy busy
      · rw [queue]
        intro connection member
        rcases List.mem_map.mp member with ⟨old, among, rfl⟩
        rw [waits]
        exact orderly.waiting old among
      · intro ended
        rcases orderly.finished (running.symm.trans ended) with ⟨closed, empty, all_ended⟩
        refine ⟨accepting closed, by rw [queue, empty, List.map_nil], ?_⟩
        rw [tasks]
        intro connection member
        rcases List.mem_map.mp member with ⟨old, among, rfl⟩
        rcases Connection.phase_of_ended (all_ended old among) with ⟨ending, phase⟩
        simp only [Connection.isOpen, Connection.ending?, (late_idles old).ended ending phase,
          Option.isNone_some]
  | @receives connection moved rest load idle queue received =>
      have reading := orderly.waiting connection (by rw [queue]; exact List.mem_cons_self)
      have still : moved.isBusy = false := by
        rcases received with rfl | ⟨ending, rfl⟩
        · exact Connection.isBusy_of_reading reading
        · rfl
      refine ⟨?_, ?_, ?_⟩
      · rw [List.countP_append, countP_of_idle idle, List.countP_singleton, still]
        exact Nat.zero_le 1
      · intro other member
        exact orderly.waiting other (by rw [queue]; exact List.mem_cons_of_mem connection member)
      · intro ended
        rw [(orderly.finished ended).2.1] at queue
        cases queue
  | @advances front back connection moved surroundings load flag free tasks step =>
      refine ⟨?_, orderly.waiting, ?_⟩
      · have single := orderly.single
        rw [tasks, List.countP_append, List.countP_cons] at single
        rw [List.countP_append, List.countP_cons]
        rcases free with busy | idle
        · rw [if_pos busy] at single
          split <;> omega
        · have none_busy := countP_of_idle idle
          rw [tasks, List.countP_append, List.countP_cons] at none_busy
          split <;> omega
      · intro ended
        have gone := (orderly.finished ended).2.2 connection (by rw [tasks]; simp)
        rw [Connection.isOpen_of_advance step] at gone
        cases gone
  | @offered connection accepting reading new =>
      refine ⟨orderly.single, ?_, ?_⟩
      · intro other member
        rcases List.mem_append.mp member with old | fresh
        · exact orderly.waiting other old
        · rw [List.mem_singleton.mp fresh]
          exact reading
      · intro ended
        rw [(orderly.finished ended).1] at accepting
        cases accepting
  | exits idle closed queue =>
      refine ⟨?_, ?_, fun _ => ⟨closed, queue, ?_⟩⟩
      · rw [List.countP_map]
        refine Nat.le_trans (List.countP_mono_left ?_) orderly.single
        exact fun connection _ busy => (Connection.idles_letGo connection).1.busy busy
      · exact orderly.waiting
      · intro connection member
        rcases List.mem_map.mp member with ⟨old, _, rfl⟩
        exact (Connection.idles_letGo old).2

/-- At most one call is due. -/
theorem Orderly.length_due_le (orderly : worker.Orderly) : worker.due.length ≤ 1 := by
  unfold due
  rw [List.length_filterMap_eq_countP]
  exact Nat.le_trans (List.countP_mono_left fun connection _ => Connection.isBusy_of_due)
    orderly.single

/-- When the thread has come to an end no call is due. -/
theorem Orderly.due_of_ended (orderly : worker.Orderly) (ended : worker.running = false) :
    worker.due = [] := by
  apply List.filterMap_eq_nil_iff.mpr
  intro connection member
  exact Connection.due?_of_idle
    (Connection.isBusy_of_ended ((orderly.finished ended).2.2 connection member))

/-! ## What stays -/

/-- Nothing gets into a queue that is closed. -/
theorem Changes.closed (changes : Changes stopping worker next)
    (closed : worker.accepting = false) :
    next.queue.map Connection.peer <:+ worker.queue.map Connection.peer ∧
      (next.connections.map Connection.peer).Perm (worker.connections.map Connection.peer) := by
  cases changes with
  | @idles _ early late queue tasks waits early_idles late_idles accepting running =>
      have early_peers : Connection.peer ∘ early = Connection.peer :=
        funext fun connection => (early_idles connection).peer
      have late_peers : Connection.peer ∘ late = Connection.peer :=
        funext fun connection => (late_idles connection).peer
      rw [connections, connections, queue, tasks, List.map_append, List.map_append, List.map_map,
        List.map_map, early_peers, late_peers]
      exact ⟨List.suffix_refl _, List.Perm.refl _⟩
  | @receives connection moved rest load idle queue received =>
      have same : moved.peer = connection.peer := by
        rcases received with rfl | ⟨ending, rfl⟩ <;> rfl
      rcases perm_receive queue moved with ⟨before, after⟩
      constructor
      · rw [queue, List.map_cons]
        exact List.suffix_cons _ _
      · refine (after.map Connection.peer).trans (List.Perm.trans ?_ (before.map _).symm)
        rw [List.map_cons, List.map_cons, same]
  | advances flag free tasks step =>
      refine ⟨List.suffix_refl _, List.Perm.of_eq ?_⟩
      rw [connections, connections, tasks, List.map_append, List.map_append, List.map_append,
        List.map_append, List.map_cons, List.map_cons, Connection.peer_advance step]
  | offered accepting reading new =>
      rw [closed] at accepting
      cases accepting
  | exits idle closed queue =>
      have peers : Connection.peer ∘ Connection.letGo = Connection.peer :=
        funext fun connection => (Connection.idles_letGo connection).1.peer
      rw [connections, connections, List.map_append, List.map_append, List.map_map, peers]
      exact ⟨List.suffix_refl _, List.Perm.refl _⟩

/-- A connection that has been received stays at its place. -/
theorem Changes.task (changes : Changes stopping worker next) {place : Nat}
    {connection : Connection} (there : worker.tasks[place]? = some connection) :
    ∃ moved, next.tasks[place]? = some moved ∧ (Connection.Idles connection moved ∨
      ∃ surroundings, connection.advance? surroundings = some moved) := by
  cases changes with
  | idles queue tasks waits early_idles late_idles accepting running =>
      refine ⟨_, ?_, Or.inl (late_idles connection)⟩
      rw [tasks, List.getElem?_map, there, Option.map_some]
  | receives idle queue received =>
      refine ⟨connection, ?_, Or.inl (Connection.Idles.refl connection)⟩
      exact List.getElem?_append_left (List.getElem?_eq_some_iff.mp there).1 ▸ there
  | @advances front back other moved surroundings load flag free tasks step =>
      rw [tasks] at there
      rcases Nat.lt_trichotomy place front.length with before | rfl | behind
      · rw [List.getElem?_append_left before] at there
        refine ⟨connection, ?_, Or.inl (Connection.Idles.refl connection)⟩
        rw [List.getElem?_append_left before, there]
      · rw [List.getElem?_append_right (Nat.le_refl _), Nat.sub_self, List.getElem?_cons_zero]
          at there
        cases there
        refine ⟨moved, ?_, Or.inr ⟨surroundings, step⟩⟩
        rw [List.getElem?_append_right (Nat.le_refl _), Nat.sub_self, List.getElem?_cons_zero]
      · rcases Nat.exists_eq_add_of_lt behind with ⟨rest, rfl⟩
        have shift : front.length + rest + 1 - front.length = rest + 1 := by omega
        rw [List.getElem?_append_right (by omega), shift, List.getElem?_cons_succ] at there
        refine ⟨connection, ?_, Or.inl (Connection.Idles.refl connection)⟩
        rw [List.getElem?_append_right (by omega), shift, List.getElem?_cons_succ, there]
  | offered accepting reading new =>
      exact ⟨connection, there, Or.inl (Connection.Idles.refl connection)⟩
  | exits idle closed queue =>
      refine ⟨connection.letGo, ?_, Or.inl (Connection.idles_letGo connection).1⟩
      rw [List.getElem?_map, there, Option.map_some]

/-- A connection that has ended is over for good: the handler is not called for it and it writes
nothing. -/
theorem Changes.task_ended (changes : Changes stopping worker next) {place : Nat}
    {connection : Connection} (there : worker.tasks[place]? = some connection)
    {ending : ConnectionEnd} (ended : connection.phase = .ended ending) :
    ∃ moved, next.tasks[place]? = some moved ∧ moved.phase = .ended ending ∧
      moved.handled = connection.handled ∧
      moved.outbound.written = connection.outbound.written := by
  rcases changes.task there with ⟨moved, there', idles | ⟨surroundings, step⟩⟩
  · exact ⟨moved, there', idles.ended ending ended, idles.handled, idles.written⟩
  · simp only [Connection.advance?, ended, reduceCtorEq] at step

/-! ## Calls while the pool is stopping -/

/-- The calls that a worker has made since are among those that were due. -/
def Spends (worker next : Worker) : Prop :=
  ∃ further, next.called.Perm (worker.called ++ further) ∧ (further ++ next.due).Subperm worker.due

theorem Spends.refl (worker : Worker) : worker.Spends worker :=
  ⟨[], by rw [List.append_nil], List.Subperm.refl _⟩

theorem Spends.trans {last : Worker} (first : worker.Spends next) (second : next.Spends last) :
    worker.Spends last := by
  rcases first with ⟨earlier, called, due⟩
  rcases second with ⟨later, called', due'⟩
  refine ⟨earlier ++ later, ?_, ?_⟩
  · rw [← List.append_assoc]
    exact called'.trans (called.append_right later)
  · rw [List.append_assoc]
    exact ((List.subperm_append_left earlier).mpr due').trans due

/-- A change of the connections from outside makes no call. -/
theorem spends_of_idles {early late : Connection → Connection}
    (queue : next.queue = worker.queue.map early) (tasks : next.tasks = worker.tasks.map late)
    (early_idles : ∀ connection, Connection.Idles connection (early connection))
    (late_idles : ∀ connection, Connection.Idles connection (late connection)) :
    worker.Spends next := by
  have early_calls : (fun connection => (early connection).calls) = Connection.calls :=
    funext fun connection => (early_idles connection).calls
  have late_calls : (fun connection => (late connection).calls) = Connection.calls :=
    funext fun connection => (late_idles connection).calls
  refine ⟨[], ?_, ?_⟩
  · rw [List.append_nil, called, called, connections, connections, queue, tasks,
      List.flatMap_append, List.flatMap_append, List.flatMap_map, List.flatMap_map, early_calls,
      late_calls]
  · rw [List.nil_append, due, due, tasks, List.filterMap_map]
    apply List.Sublist.subperm
    induction worker.tasks with
    | nil => exact List.Sublist.refl _
    | cons connection rest inductionHypothesis =>
        rw [List.filterMap_cons, List.filterMap_cons, Function.comp_apply]
        rcases (late_idles connection).due with nothing | same
        · rw [nothing]
          cases connection.due? with
          | none => exact inductionHypothesis
          | some call => exact inductionHypothesis.cons call
        · rw [same]
          cases connection.due? with
          | none => exact inductionHypothesis
          | some call => exact inductionHypothesis.cons_cons call

/-- While the flag is raised, whatever becomes of a worker, it makes no call but those that were
due. -/
theorem Orderly.spends (orderly : worker.Orderly) (changes : Changes true worker next) :
    worker.Spends next := by
  cases changes with
  | idles queue tasks waits early_idles late_idles accepting running =>
      exact spends_of_idles queue tasks early_idles late_idles
  | @receives connection moved rest load idle queue received =>
      have reading := orderly.waiting connection (by rw [queue]; exact List.mem_cons_self)
      have same : moved.calls = connection.calls ∧ moved.due? = none := by
        rcases received with rfl | ⟨ending, rfl⟩
        · exact ⟨rfl, Connection.due?_of_idle (Connection.isBusy_of_reading reading)⟩
        · exact ⟨rfl, rfl⟩
      refine ⟨[], ?_, ?_⟩
      · rcases perm_receive queue moved with ⟨before, after⟩
        rw [List.append_nil]
        refine (after.flatMap_right _).trans ((List.Perm.of_eq ?_).trans
          (before.flatMap_right _).symm)
        rw [List.flatMap_cons, List.flatMap_cons, same.1]
      · apply List.Sublist.subperm
        rw [List.nil_append, due, due, List.filterMap_append, List.filterMap_cons, same.2,
          List.filterMap_nil, List.append_nil]
  | @advances front back connection moved surroundings load flag free tasks step =>
      rcases Connection.calls_advance flag step with ⟨calls, nothing⟩
      refine ⟨connection.due?.toList, ?_, ?_⟩
      · have before : worker.called.Perm (connection.calls ++
            (worker.queue ++ front ++ back).flatMap Connection.calls) := by
          rw [called, connections, tasks, ← List.append_assoc]
          exact List.perm_middle.flatMap_right _
        have after : List.Perm
            (called { worker with load := load, tasks := front ++ moved :: back })
            (moved.calls ++ (worker.queue ++ front ++ back).flatMap Connection.calls) := by
          rw [called, connections, ← List.append_assoc]
          exact List.perm_middle.flatMap_right _
        refine after.trans ?_
        rw [calls, List.append_assoc]
        refine (List.Perm.append_left _ List.perm_append_comm).trans ?_
        rw [← List.append_assoc]
        exact before.symm.append_right _
      · rw [due, due, tasks, List.filterMap_append, List.filterMap_append, List.filterMap_cons,
          List.filterMap_cons, nothing]
        cases connection.due? with
        | none => exact List.Subperm.refl _
        | some call =>
            simp only [Option.toList_some, List.singleton_append]
            exact (List.Perm.symm List.perm_middle).subperm
  | offered accepting reading new =>
      refine ⟨[], ?_, List.Subperm.refl _⟩
      rename_i connection
      have silent : connection.calls = [] := by
        rw [Connection.calls, new, List.map_nil]
      rw [List.append_nil, called, called, connections, connections, Worker.offered,
        List.append_assoc, List.flatMap_append, List.flatMap_append, List.flatMap_append,
        List.flatMap_singleton, silent, List.nil_append]
  | exits idle closed queue =>
      exact @spends_of_idles worker _ id Connection.letGo (List.map_id _).symm rfl
        Connection.Idles.refl fun connection => (Connection.idles_letGo connection).1

end Worker

end PromiseHttp
