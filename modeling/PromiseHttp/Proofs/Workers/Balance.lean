import PromiseHttp.Proofs.Workers.Steps

namespace PromiseHttp

/-!
# The load of a worker

The load of a worker is raised when a connection is bound to it and lowered when the connection
comes to an end.  Between these two the connection is counted once, whatever happens to it.  Nothing
lowers the load for a connection that crashes, so it counts for ever.
-/

namespace Connection

/-- Whether the connection has not ended. -/
def isOpen (connection : Connection) : Bool := connection.ending?.isNone

/-- Whether the connection's own work has panicked. -/
def hasCrashed (connection : Connection) : Bool := connection.ending? = some .crashed

/-- A connection that its worker has not let go is open, has crashed or has given its place back. -/
theorem counts_once {connection : Connection} (kept : connection.ending? ≠ some .dropped) :
    connection.isOpen.toNat + connection.hasCrashed.toNat + connection.givesBack.toNat = 1 := by
  unfold isOpen hasCrashed givesBack
  cases ending : connection.ending? with
  | none => rfl
  | some reason =>
      cases reason with
      | dropped => exact absurd ending kept
      | _ => rfl

theorem countP_once {connections : List Connection}
    (kept : ∀ connection ∈ connections, connection.ending? ≠ some .dropped) :
    connections.countP isOpen + connections.countP hasCrashed + connections.countP givesBack =
      connections.length := by
  induction connections with
  | nil => rfl
  | cons connection rest inductionHypothesis =>
      have once := counts_once (kept connection List.mem_cons_self)
      have others := inductionHypothesis fun other member =>
        kept other (List.mem_cons_of_mem connection member)
      have counted : ∀ counts : Connection → Bool, (connection :: rest).countP counts =
          rest.countP counts + (counts connection).toNat := by
        intro counts
        rw [List.countP_cons]
        cases counts connection <;> rfl
      rw [counted, counted, counted, List.length_cons]
      omega

theorem not_givesBack_of_isOpen {connection : Connection} (unended : connection.isOpen = true) :
    connection.givesBack = false := by
  unfold isOpen at unended
  unfold givesBack
  rw [Option.isNone_iff_eq_none.mp unended]

/-! ## Steps end no connection from outside -/

theorem isOpen_of_advance {surroundings : Surroundings} {connection next : Connection}
    (step : connection.advance? surroundings = some next) : connection.isOpen = true := by
  unfold isOpen ending?
  cases phase : connection.phase with
  | ended ending => simp only [advance?, phase, reduceCtorEq] at step
  | _ => rfl

theorem kept_refuse (connection : Connection) (response : Response) :
    (connection.refuse response).ending? ≠ some .dropped := by
  unfold refuse
  split
  all_goals
    intro same
    cases same

/-- A step does not let its connection go. -/
theorem kept_advance {surroundings : Surroundings} {connection next : Connection}
    (step : connection.advance? surroundings = some next) : next.ending? ≠ some .dropped := by
  intro same
  cases moves_of_advance step with
  | @read result inbound reading answer =>
      cases result with
      | ended => cases same
      | failed fault => cases same
      | octets piece =>
          simp only [onRead, consider] at same
          split at same
          · simp only [ending?, reading, reduceCtorEq] at same
          · exact kept_refuse _ _ same
          · cases same
          · split at same <;> cases same
  | call cleared => cases same
  | comeBack calling returns => cases same
  | reply replying =>
      simp only [reply] at same
      split at same
      · cases same
      · split at same
        · cases same
        · split at same <;> cases same

end Connection

namespace Worker

/-! ## One worker -/

/-- A worker whose load is accounted for by the connections of the peers that are bound to it. -/
structure Balanced (worker : Worker) (bound : List PeerId) : Prop where
  /-- Every place that is not taken has been given back. -/
  returned : worker.load + worker.connections.countP Connection.givesBack =
    worker.connections.length
  kept : ∀ connection ∈ worker.connections, connection.ending? ≠ some .dropped
  waiting : ∀ connection ∈ worker.queue, connection.isOpen = true
  peers : (worker.connections.map Connection.peer).Perm bound

variable {worker next : Worker} {bound : List PeerId}

theorem balanced_new : Worker.new.Balanced [] :=
  ⟨rfl, fun _ member => absurd member List.not_mem_nil,
    fun _ member => absurd member List.not_mem_nil, List.Perm.nil⟩

/-- Open connections and crashed ones make up the load. -/
theorem Balanced.load_eq (balanced : worker.Balanced bound) :
    worker.load = worker.connections.countP Connection.isOpen +
      worker.connections.countP Connection.hasCrashed := by
  have once := Connection.countP_once balanced.kept
  have returned := balanced.returned
  omega

/-- As long as a connection is open there is something to lower. -/
theorem Balanced.load_pos (balanced : worker.Balanced bound) {connection : Connection}
    (member : connection ∈ worker.connections) (unended : connection.isOpen = true) :
    0 < worker.load := by
  have counted : 0 < worker.connections.countP Connection.isOpen :=
    List.countP_pos_iff.mpr ⟨connection, member, unended⟩
  rw [balanced.load_eq]
  omega

/-- What becomes of an open connection is accounted for if its place is given back exactly when it
ends without a crash. -/
theorem Balanced.replace (balanced : worker.Balanced bound) {connection moved : Connection}
    {others : List Connection} (before : worker.connections.Perm (connection :: others))
    (after : next.connections.Perm (moved :: others)) (unended : connection.isOpen = true)
    (same : moved.peer = connection.peer) (kept : moved.ending? ≠ some .dropped)
    (load : next.load = if moved.givesBack = true then worker.load - 1 else worker.load)
    (waiting : ∀ connection ∈ next.queue, connection ∈ worker.queue) : next.Balanced bound := by
  have among : ∀ other ∈ others, other ∈ worker.connections := fun other member =>
    before.mem_iff.mpr (List.mem_cons_of_mem connection member)
  have positive : 0 < worker.load :=
    balanced.load_pos (before.mem_iff.mpr List.mem_cons_self) unended
  have taken := Bool.eq_false_iff.mp (Connection.not_givesBack_of_isOpen unended)
  have returned := balanced.returned
  rw [before.countP_eq, before.length_eq, List.countP_cons_of_neg taken, List.length_cons]
    at returned
  refine ⟨?_, ?_, ?_, ?_⟩
  · rw [after.countP_eq, after.length_eq, List.countP_cons, List.length_cons, load]
    split
    · omega
    · exact returned
  · intro other member
    rcases List.mem_cons.mp (after.mem_iff.mp member) with rfl | member
    · exact kept
    · exact balanced.kept other (among other member)
  · exact fun other member => balanced.waiting other (waiting other member)
  · have peers := (before.map Connection.peer).symm.trans balanced.peers
    refine (after.map Connection.peer).trans ?_
    rw [List.map_cons, same]
    exact peers

theorem perm_receive {connection : Connection} {rest : List Connection}
    (queue : worker.queue = connection :: rest) (moved : Connection) :
    worker.connections.Perm (connection :: (rest ++ worker.tasks)) ∧
      (rest ++ (worker.tasks ++ [moved])).Perm (moved :: (rest ++ worker.tasks)) := by
  constructor
  · rw [connections, queue]
    exact List.Perm.refl _
  · rw [← List.append_assoc]
    exact List.perm_append_comm

/-- A step of a worker leaves its account in balance. -/
theorem Balanced.take (balanced : worker.Balanced bound) {surroundings : Connection.Surroundings}
    (takes : Takes surroundings worker next) : next.Balanced bound := by
  cases takes with
  | @receives connection rest idle queue after =>
      subst after
      have first : connection ∈ worker.queue := by
        rw [queue]
        exact List.mem_cons_self
      have unended := balanced.waiting connection first
      rcases perm_receive queue connection with ⟨before, behind⟩
      refine balanced.replace before behind unended rfl
        (balanced.kept connection (List.mem_append_left _ first)) ?_ ?_
      · rw [if_neg (Bool.eq_false_iff.mp (Connection.not_givesBack_of_isOpen unended))]
      · intro other member
        rw [queue]
        exact List.mem_cons_of_mem connection member
  | @advances front back connection moved free tasks step after =>
      subst after
      have before : worker.connections.Perm (connection :: (worker.queue ++ front ++ back)) := by
        rw [connections, tasks, ← List.append_assoc]
        exact List.perm_middle
      have behind : (worker.queue ++ (front ++ moved :: back)).Perm
          (moved :: (worker.queue ++ front ++ back)) := by
        rw [← List.append_assoc]
        exact List.perm_middle
      exact balanced.replace before behind (Connection.isOpen_of_advance step)
        (Connection.peer_advance step) (Connection.kept_advance step) rfl fun _ member => member

/-- A connection whose stream cannot be registered gives its place back. -/
theorem Balanced.discard (balanced : worker.Balanced bound) {fault : IoFault}
    (discarded : worker.discard? fault = some next) : next.Balanced bound := by
  unfold discard? at discarded
  split at discarded
  · cases queue : worker.queue with
    | nil => simp only [queue, reduceCtorEq] at discarded
    | cons connection rest =>
        simp only [queue, Option.some.injEq] at discarded
        subst discarded
        have first : connection ∈ worker.queue := by
          rw [queue]
          exact List.mem_cons_self
        have kept : (connection.finish (.failed (.io fault))).ending? ≠ some .dropped := by
          intro same
          cases same
        rcases perm_receive queue (connection.finish (.failed (.io fault))) with ⟨before, behind⟩
        refine balanced.replace before behind (balanced.waiting connection first) rfl kept rfl ?_
        intro other member
        rw [queue]
        exact List.mem_cons_of_mem connection member
  · cases discarded

/-- A connection that is bound to a worker takes a place. -/
theorem Balanced.offered (balanced : worker.Balanced bound) {connection : Connection}
    (unended : connection.isOpen = true) :
    (worker.offered connection).Balanced (bound ++ [connection.peer]) := by
  have perm : (worker.offered connection).connections.Perm (connection :: worker.connections) := by
    simp only [Worker.connections, Worker.offered, List.append_assoc, List.singleton_append]
    exact List.perm_middle
  have kept : connection.ending? ≠ some .dropped := by
    intro dropped
    rw [Connection.isOpen, dropped] at unended
    cases unended
  have load : (worker.offered connection).load = worker.load + 1 := rfl
  refine ⟨?_, ?_, ?_, ?_⟩
  · have taken := Bool.eq_false_iff.mp (Connection.not_givesBack_of_isOpen unended)
    have returned := balanced.returned
    rw [perm.countP_eq, perm.length_eq, List.countP_cons_of_neg taken, List.length_cons, load]
    omega
  · intro other member
    rcases List.mem_cons.mp (perm.mem_iff.mp member) with rfl | member
    · exact kept
    · exact balanced.kept other member
  · intro other member
    rcases List.mem_append.mp member with old | new
    · exact balanced.waiting other old
    · rw [List.mem_singleton.mp new]
      exact unended
  · refine (perm.map Connection.peer).trans ?_
    rw [List.map_cons]
    exact (List.Perm.cons connection.peer balanced.peers).trans
      (List.perm_append_singleton connection.peer bound).symm

/-- What changes neither the end of a connection nor its peer leaves the account in balance. -/
theorem Balanced.map (balanced : worker.Balanced bound) {early late : Connection → Connection}
    (endings : ∀ connection, (early connection).ending? = connection.ending? ∧
      (late connection).ending? = connection.ending?)
    (peers : ∀ connection, (early connection).peer = connection.peer ∧
      (late connection).peer = connection.peer) :
    Balanced { worker with
      queue := worker.queue.map early
      tasks := worker.tasks.map late } bound := by
  have gives : Connection.givesBack ∘ early = Connection.givesBack ∧
      Connection.givesBack ∘ late = Connection.givesBack := by
    constructor
    · funext connection
      simp only [Function.comp_apply, Connection.givesBack, (endings connection).1]
    · funext connection
      simp only [Function.comp_apply, Connection.givesBack, (endings connection).2]
  have bears : Connection.peer ∘ early = Connection.peer ∧
      Connection.peer ∘ late = Connection.peer :=
    ⟨funext fun connection => (peers connection).1, funext fun connection => (peers connection).2⟩
  refine ⟨?_, ?_, ?_, ?_⟩
  · have returned := balanced.returned
    rw [connections, List.countP_append, List.length_append] at returned ⊢
    rw [List.countP_map, List.countP_map, gives.1, gives.2, List.length_map, List.length_map]
    exact returned
  · intro connection member
    rcases List.mem_append.mp member with waiting | received
    · rcases List.mem_map.mp waiting with ⟨old, among, rfl⟩
      rw [(endings old).1]
      exact balanced.kept old (List.mem_append_left _ among)
    · rcases List.mem_map.mp received with ⟨old, among, rfl⟩
      rw [(endings old).2]
      exact balanced.kept old (List.mem_append_right _ among)
  · intro connection member
    rcases List.mem_map.mp member with ⟨old, among, rfl⟩
    rw [Connection.isOpen, (endings old).1]
    exact balanced.waiting old among
  · have peers := balanced.peers
    rw [connections, List.map_append] at peers ⊢
    rw [List.map_map, List.map_map, bears.1, bears.2]
    exact peers

theorem Balanced.modify (balanced : worker.Balanced bound) {event : Connection.Event}
    (own : event.byPeer = true) (peer : PeerId) :
    (worker.modify peer (Connection.occur · event)).Balanced bound := by
  have same : ∀ connection : Connection,
      (connection.occur event).ending? = connection.ending? ∧
        (connection.occur event).peer = connection.peer := by
    intro connection
    cases event with
    | send chunk => exact ⟨rfl, rfl⟩
    | disturb fault => exact ⟨rfl, rfl⟩
    | close => exact ⟨rfl, rfl⟩
    | takeWrites budget => exact ⟨rfl, rfl⟩
    | step surroundings => cases own
    | elapse time => cases own
    | letGo => cases own
  refine balanced.map (fun connection => ?_) fun connection => ?_
  · constructor <;> split <;> first | exact (same connection).1 | rfl
  · constructor <;> split <;> first | exact (same connection).2 | rfl

theorem Balanced.elapse (balanced : worker.Balanced bound) (time : Nat) :
    (worker.elapse time).Balanced bound := by
  have same : ∀ connection : Connection,
      (connection.elapse time).ending? = connection.ending? ∧
        (connection.elapse time).peer = connection.peer := by
    intro connection
    unfold Connection.elapse
    split
    · rename_i phase
      simp only [Connection.ending?, phase, and_self]
    · exact ⟨rfl, rfl⟩
  have elapsed := balanced.map (fun connection => ⟨rfl, (same connection).1⟩)
    fun connection => ⟨rfl, (same connection).2⟩
  rw [List.map_id'] at elapsed
  exact elapsed

end Worker

end PromiseHttp
