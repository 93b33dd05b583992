import Mathlib.Data.List.Forall2
import PromiseHttp.Endpoint.Lifecycle
import PromiseHttp.Proofs.Connection.History
import PromiseHttp.Proofs.Workers.Steps

namespace PromiseHttp

/-!
# Histories of an endpoint

While an endpoint serves, connections arrive, their peers do something, time passes, and the
endpoint makes steps: its acceptor hands a connection to the pool, or a worker makes a step.  A
history is any list of these events, so nothing is said about which of the possible steps comes
first.  An event moves connections about and changes each of them by an event of its own, or not at
all.
-/

namespace Endpoint

/-- A step of an endpoint. -/
inductive Step where
  | accept
  /-- A worker makes a step. -/
  | work (id : WorkerId) (step : Worker.Step)

/-- The endpoint after a step, if the step is possible. -/
def take? (endpoint : Endpoint) (service : ServiceSurroundings) : Step → Option Endpoint
  | .accept => endpoint.accept?
  | .work id step =>
    match endpoint.pool with
    | none => none
    | some pool =>
      match pool.take? service id step with
      | none => none
      | some next => some { endpoint with pool := some next }

/-- What can happen to an endpoint that is not stopped. -/
inductive Event where
  /-- A peer connects to the address. -/
  | arrive (peer : PeerId)
  /-- A peer does something on its connection. -/
  | touch (peer : PeerId) (event : Connection.Event)
  | step (step : Step)
  | elapse (time : Nat)

/-- Whether an event is something that the peer does. -/
def Event.concerns (peer : PeerId) : Event → Bool
  | .arrive other => other == peer
  | .touch other _ => other == peer
  | .step _ => false
  | .elapse _ => false

/-- The endpoint after an event.  A step that is not possible changes nothing. -/
def occur (service : ServiceSurroundings) (endpoint : Endpoint) : Event → Endpoint
  | .arrive peer => (endpoint.arrive? peer).getD endpoint
  | .touch peer event =>
    if event.byPeer then endpoint.modify peer (Connection.occur · event) else endpoint
  | .step step => (endpoint.take? service step).getD endpoint
  | .elapse time => endpoint.elapse time

/-- The endpoint after a history. -/
def after (service : ServiceSurroundings) (endpoint : Endpoint) (events : List Event) : Endpoint :=
  events.foldl (occur service) endpoint

/-- The connections of an endpoint. -/
def connections (endpoint : Endpoint) : List Connection :=
  endpoint.waiting ++ endpoint.pool.elim [] WorkerPool.connections

/-- A bound on the steps that are left, unless something comes from outside. -/
def work (endpoint : Endpoint) : Nat :=
  tally (fun connection => connection.work + 2) endpoint.waiting +
    endpoint.pool.elim 0 WorkerPool.work

/-- An endpoint that serves, with the bound on requests that its connections get. -/
structure Serves (endpoint : Endpoint) (limit : Nat) : Prop where
  listening : endpoint.listening = true
  ready : ∃ pool, endpoint.pool = some pool ∧ pool.Ready
  bound : endpoint.settings.maxRequestSize = limit

/-! ## What an event does to the connections -/

/-- What becomes of a connection at an event. -/
def Becomes (service : ServiceSurroundings) (event : Event) (before after : Connection) : Prop :=
  match event with
  | .arrive _ => after = before
  | .touch peer event =>
    after = if before.peer = peer ∧ event.byPeer = true then before.occur event else before
  | .step _ =>
    after = before ∨ ∃ id, before.advance? ⟨service.handler id, service.files, false,
      service.returns⟩ = some after
  | .elapse time => after = before ∨ after = before.elapse time

/-- The connections that arrive with an event. -/
def newcomers (limit : Nat) : Event → List Connection
  | .arrive peer => [Connection.new peer limit]
  | .touch _ _ => []
  | .step _ => []
  | .elapse _ => []

variable {service : ServiceSurroundings} {endpoint : Endpoint} {limit : Nat}

theorem becomes_self_step (step : Step) (connections : List Connection) :
    List.Forall₂ (Becomes service (.step step)) connections connections :=
  List.forall₂_same.mpr fun _ _ => Or.inl rfl

/-- A step of an endpoint that serves. -/
theorem Serves.take (serves : endpoint.Serves limit) {step : Step} {next : Endpoint}
    (taken : endpoint.take? service step = some next) :
    next.Serves limit ∧ ∃ moved, moved.Perm endpoint.connections ∧
      List.Forall₂ (Becomes service (.step step)) moved next.connections := by
  rcases serves.ready with ⟨pool, served, ready⟩
  cases step with
  | accept =>
      cases waiting : endpoint.waiting with
      | nil => simp only [take?, accept?, served, waiting, serves.listening, reduceCtorEq] at taken
      | cons connection rest =>
          simp only [take?, accept?, served, waiting, serves.listening, Option.some.injEq] at taken
          subst taken
          refine ⟨⟨rfl, ⟨_, rfl, ready.dispatch connection⟩, serves.bound⟩, _, ?_,
            becomes_self_step .accept _⟩
          simp only [connections, served, waiting, Option.elim_some, List.cons_append]
          exact (List.Perm.append_left rest (ready.connections_dispatch connection)).trans
            List.perm_middle
  | work id step =>
      simp only [take?, served] at taken
      cases steps : pool.take? service id step with
      | none => simp only [steps, reduceCtorEq] at taken
      | some after =>
          simp only [steps, Option.some.injEq] at taken
          subst taken
          refine ⟨⟨serves.listening, ⟨after, rfl, ready.take steps⟩, serves.bound⟩, ?_⟩
          simp only [connections, served, Option.elim_some]
          rcases WorkerPool.connections_take steps with
            same | ⟨front, back, connection, moved, before, advanced, after'⟩
          · exact ⟨_, List.Perm.append_left endpoint.waiting same, becomes_self_step _ _⟩
          · refine ⟨_, List.Perm.refl _, ?_⟩
            rw [before, after']
            refine List.rel_append (becomes_self_step _ _) (List.rel_append (becomes_self_step _ _)
              (List.Forall₂.cons (Or.inr ⟨id, ?_⟩) (becomes_self_step _ _)))
            rw [← ready.calm]
            exact advanced

/-- Changing the connection of a peer changes it wherever it is. -/
theorem connections_modify (endpoint : Endpoint) (peer : PeerId)
    (change : Connection → Connection) :
    (endpoint.modify peer change).connections =
      endpoint.connections.map fun connection =>
        if connection.peer = peer then change connection else connection := by
  unfold connections modify
  rw [List.map_append]
  congr 1
  cases endpoint.pool with
  | none => rfl
  | some pool =>
      simp only [Option.map_some, Option.elim_some, WorkerPool.connections, WorkerPool.modify,
        List.flatMap_map, List.map_flatMap, Worker.modify, List.map_append]

theorem Serves.modify (serves : endpoint.Serves limit) (peer : PeerId)
    (change : Connection → Connection) : (endpoint.modify peer change).Serves limit := by
  rcases serves.ready with ⟨pool, served, ready⟩
  refine ⟨serves.listening, ⟨pool.modify peer change, ?_, ready.calm, ?_, ?_, ?_⟩, serves.bound⟩
  · simp only [Endpoint.modify, served, Option.map_some]
  · intro nothing
    exact ready.some_worker (List.map_eq_nil_iff.mp nothing)
  · intro worker member
    rcases List.mem_map.mp member with ⟨old, among, rfl⟩
    exact ready.accepting old among
  · intro worker member
    rcases List.mem_map.mp member with ⟨old, among, rfl⟩
    exact ready.running old among

theorem Serves.elapse (service : ServiceSurroundings) (serves : endpoint.Serves limit) (time : Nat) :
    (endpoint.elapse time).Serves limit ∧
      List.Forall₂ (Becomes service (.elapse time)) endpoint.connections
        (endpoint.elapse time).connections := by
  rcases serves.ready with ⟨pool, served, ready⟩
  have same : ∀ connections : List Connection,
      List.Forall₂ (Becomes service (.elapse time)) connections connections :=
    fun _ => List.forall₂_same.mpr fun _ _ => Or.inl rfl
  have later : ∀ worker : Worker, List.Forall₂ (Becomes service (.elapse time))
      worker.connections (worker.elapse time).connections := by
    intro worker
    refine List.rel_append (same worker.queue) ?_
    exact List.forall₂_map_right_iff.mpr (List.forall₂_same.mpr fun _ _ => Or.inr rfl)
  constructor
  · refine ⟨serves.listening, ⟨pool.elapse time, ?_, ready.calm, ?_, ?_, ?_⟩, serves.bound⟩
    · simp only [Endpoint.elapse, served, Option.map_some]
    · intro nothing
      exact ready.some_worker (List.map_eq_nil_iff.mp nothing)
    · intro worker member
      rcases List.mem_map.mp member with ⟨old, among, rfl⟩
      exact ready.accepting old among
    · intro worker member
      rcases List.mem_map.mp member with ⟨old, among, rfl⟩
      exact ready.running old among
  · simp only [connections, Endpoint.elapse, served, Option.map_some, Option.elim_some,
      WorkerPool.connections_eq, WorkerPool.elapse, List.flatMap_map]
    refine List.rel_append (same endpoint.waiting) ?_
    induction pool.workers with
    | nil => exact List.Forall₂.nil
    | cons worker workers inductionHypothesis =>
        rw [List.flatMap_cons, List.flatMap_cons]
        exact List.rel_append (later worker) inductionHypothesis

/-- An event moves the connections about and changes each of them in its own way. -/
theorem Serves.occur (service : ServiceSurroundings) (serves : endpoint.Serves limit)
    (event : Event) :
    (endpoint.occur service event).Serves limit ∧
      ∃ moved, moved.Perm (newcomers limit event ++ endpoint.connections) ∧
        List.Forall₂ (Becomes service event) moved (endpoint.occur service event).connections := by
  cases event with
  | arrive peer =>
      simp only [Endpoint.occur, arrive?, serves.listening, if_true, Option.getD_some, serves.bound]
      refine ⟨⟨rfl, serves.ready, serves.bound⟩, _, ?_,
        List.forall₂_same.mpr fun _ _ => rfl⟩
      simp only [connections, newcomers, List.append_assoc, List.cons_append, List.nil_append]
      exact List.perm_middle
  | touch peer event =>
      simp only [Endpoint.occur]
      by_cases own : event.byPeer = true
      · rw [if_pos own]
        refine ⟨serves.modify peer _, _, List.Perm.refl _, ?_⟩
        rw [connections_modify]
        refine List.forall₂_map_right_iff.mpr (List.forall₂_same.mpr fun connection _ => ?_)
        simp only [Becomes, own, and_true]
      · rw [if_neg own]
        refine ⟨serves, _, List.Perm.refl _, List.forall₂_same.mpr fun connection _ => ?_⟩
        simp only [Becomes, own, Bool.false_eq_true, and_false, if_false]
  | step step =>
      simp only [Endpoint.occur]
      cases taken : endpoint.take? service step with
      | none => exact ⟨serves, _, List.Perm.refl _, becomes_self_step step _⟩
      | some next => exact serves.take taken
  | elapse time =>
      rcases serves.elapse service time with ⟨serves', changes⟩
      exact ⟨serves', _, List.Perm.refl _, changes⟩

/-! ## Every connection -/

/-- Nothing that happens to a connection makes it the connection of another peer. -/
theorem peer_becomes {event : Event} {before after : Connection}
    (becomes : Becomes service event before after) : after.peer = before.peer := by
  cases event with
  | arrive peer => rw [show after = before from becomes]
  | touch peer event =>
      simp only [Becomes] at becomes
      subst becomes
      split
      · rename_i own
        cases event <;> first | rfl | cases own.2
      · rfl
  | step step =>
      rcases becomes with rfl | ⟨id, step⟩
      · rfl
      · exact Connection.peer_advance step
  | elapse time =>
      rcases becomes with rfl | rfl
      · rfl
      · unfold Connection.elapse
        split <;> rfl

/-- Whatever happens to a connection, its buffer has room. -/
theorem fits_becomes {event : Event} {before after : Connection}
    (becomes : Becomes service event before after) (fits : before.buffer.Fits) :
    after.buffer.Fits := by
  cases event with
  | arrive peer =>
      rw [show after = before from becomes]
      exact fits
  | touch peer event =>
      simp only [Becomes] at becomes
      subst becomes
      split
      · rename_i own
        cases event <;> first | exact fits | cases own.2
      · exact fits
  | step step =>
      rcases becomes with rfl | ⟨id, step⟩
      · exact fits
      · exact Connection.fits_advance fits step
  | elapse time =>
      rcases becomes with rfl | rfl
      · exact fits
      · unfold Connection.elapse
        split <;> exact fits

/-- An invariant of connections that every event preserves and that holds of newcomers holds of all
connections. -/
theorem Serves.all (serves : endpoint.Serves limit) {event : Event}
    (before after : Connection → Prop)
    (held : ∀ connection ∈ endpoint.connections, before connection)
    (new : ∀ connection ∈ newcomers limit event, before connection)
    (kept : ∀ old new, before old → Becomes service event old new → after new) :
    ∀ connection ∈ (endpoint.occur service event).connections, after connection := by
  rcases (serves.occur service event).2 with ⟨moved, perm, changes⟩
  have holds : ∀ connection ∈ moved, before connection := by
    intro connection member
    rcases List.mem_append.mp (perm.mem_iff.mp member) with newcomer | old
    · exact new connection newcomer
    · exact held connection old
  intro connection member
  rcases List.getElem_of_mem member with ⟨place, within, rfl⟩
  have within' : place < moved.length := by
    rw [changes.length_eq]
    exact within
  exact kept _ _ (holds _ (List.getElem_mem within')) (changes.get within' within)

/-- The peers after an event are those before it and those that arrive. -/
theorem Serves.peers (service : ServiceSurroundings) (serves : endpoint.Serves limit)
    (event : Event) :
    ((endpoint.occur service event).connections.map Connection.peer).Perm
      ((newcomers limit event ++ endpoint.connections).map Connection.peer) := by
  rcases (serves.occur service event).2 with ⟨moved, perm, changes⟩
  have same : ∀ {old new : List Connection}, List.Forall₂ (Becomes service event) old new →
      new.map Connection.peer = old.map Connection.peer := by
    intro old new changes
    induction changes with
    | nil => rfl
    | cons becomes _ inductionHypothesis =>
        rw [List.map_cons, List.map_cons, peer_becomes becomes, inductionHypothesis]
  rw [same changes]
  exact perm.map Connection.peer

/-- All connections have room, whatever happens. -/
theorem Serves.fits (service : ServiceSurroundings) (serves : endpoint.Serves limit)
    (fits : ∀ connection ∈ endpoint.connections, connection.buffer.Fits) (event : Event) :
    ∀ connection ∈ (endpoint.occur service event).connections, connection.buffer.Fits := by
  refine serves.all _ _ fits ?_ fun old new fits becomes => fits_becomes becomes fits
  intro connection member
  cases event with
  | arrive peer =>
      rw [List.mem_singleton.mp member]
      exact ReadBuffer.fits_empty
  | touch peer event => cases member
  | step step => cases member
  | elapse time => cases member

end Endpoint

end PromiseHttp
