import PromiseHttp.Proofs.Connection.Visit
import PromiseHttp.Proofs.Endpoint.Rest

namespace PromiseHttp
namespace Endpoint

/-!
# An endpoint and one of its visitors

A peer connects once and sends one request in some chunks, while other peers connect and do whatever
they like on connections of their own.  Nothing that they do, and none of the steps in between,
changes the course of the visit: at every point the endpoint has one connection of the peer, which
is on its way through the request.  When the endpoint is quiet, the visit is over.
-/

section

variable {service : ServiceSurroundings} {limit : Nat} {wire : Octets} {request : Request}
  {peer : PeerId}

/-- What the handler does with a request on some worker. -/
def Handles (service : ServiceSurroundings) (request : Request) (call : HandlerCall) : Prop :=
  ∃ id, call = service.handler id request

/-- The connections of a peer. -/
def visits (endpoint : Endpoint) (peer : PeerId) : List Connection :=
  endpoint.connections.filter fun connection => connection.peer == peer

/-- An endpoint that serves and to which the peer has not connected. -/
structure Awaits (limit : Nat) (peer : PeerId) (endpoint : Endpoint) : Prop where
  serves : endpoint.Serves limit
  fits : ∀ connection ∈ endpoint.connections, connection.buffer.Fits
  absent : (endpoint.connections.map Connection.peer).count peer = 0

/-- An endpoint with a connection of the peer, on its way through its request. -/
structure Hosts (service : ServiceSurroundings) (limit : Nat) (wire : Octets) (request : Request)
    (peer : PeerId) (endpoint : Endpoint) (unsent : Octets) : Prop where
  serves : endpoint.Serves limit
  fits : ∀ connection ∈ endpoint.connections, connection.buffer.Fits
  visiting : ∀ connection ∈ endpoint.connections, connection.peer = peer →
    Connection.Visits limit wire request (Handles service request) connection unsent
  single : (endpoint.connections.map Connection.peer).count peer = 1

/-! ## Events -/

/-- An event of others brings no connection of the peer. -/
theorem newcomers_apart {event : Event} (apart : event.concerns peer = false) :
    ((newcomers limit event).map Connection.peer).count peer = 0 := by
  cases event with
  | arrive other =>
      have different : ¬ other = peer := by
        intro same
        rw [Event.concerns, same, beq_self_eq_true] at apart
        cases apart
      rw [List.count_eq_zero]
      intro member
      exact different (List.mem_singleton.mp member).symm
  | touch other event => rfl
  | step step => rfl
  | elapse time => rfl

theorem count_occur {endpoint : Endpoint} (serves : endpoint.Serves limit) (event : Event) :
    ((endpoint.occur service event).connections.map Connection.peer).count peer =
      ((newcomers limit event).map Connection.peer).count peer +
        (endpoint.connections.map Connection.peer).count peer := by
  rw [(serves.peers service event).count_eq, List.map_append, List.count_append]

theorem Awaits.occur {endpoint : Endpoint} (awaits : Awaits limit peer endpoint) {event : Event}
    (apart : event.concerns peer = false) : Awaits limit peer (endpoint.occur service event) := by
  refine ⟨(awaits.serves.occur service event).1, awaits.serves.fits service awaits.fits event, ?_⟩
  rw [count_occur awaits.serves, newcomers_apart apart, awaits.absent]

/-- The peer connects. -/
theorem Awaits.arrive {endpoint : Endpoint} (awaits : Awaits limit peer endpoint)
    (whole : request.IsWhole limit wire) :
    Hosts service limit wire request peer (endpoint.occur service (.arrive peer)) wire := by
  refine ⟨(awaits.serves.occur service _).1, awaits.serves.fits service awaits.fits _, ?_, ?_⟩
  · refine awaits.serves.all (fun connection => connection.peer = peer →
      Connection.Visits limit wire request (Handles service request) connection wire) _ ?_ ?_ ?_
    · intro connection member own
      have none_there := List.count_eq_zero.mp awaits.absent
      exact absurd (List.mem_map.mpr ⟨connection, member, own⟩) none_there
    · intro connection member _
      rw [List.mem_singleton.mp member]
      exact Connection.visits_new peer whole
    · intro old new visiting becomes own
      rw [show new = old from becomes] at own ⊢
      exact visiting own
  · rw [count_occur awaits.serves, awaits.absent]
    simp only [newcomers, List.map_cons, List.map_nil, Connection.new, List.count_singleton_self]

variable (whole : request.IsWhole limit wire) (last : request.isKeepAlive = false)
  (replies : ∀ call, Handles service request call →
    ∃ response, call.reply false = .ok (.message response))

include whole last replies

/-- An event that the peer has no part in keeps the visit on its course. -/
theorem Hosts.occur {endpoint : Endpoint} {unsent : Octets}
    (hosts : Hosts service limit wire request peer endpoint unsent) {event : Event}
    (apart : event.concerns peer = false) :
    Hosts service limit wire request peer (endpoint.occur service event) unsent := by
  refine ⟨(hosts.serves.occur service event).1, hosts.serves.fits service hosts.fits event, ?_, ?_⟩
  · refine hosts.serves.all _ _ hosts.visiting ?_ ?_
    · intro connection member own
      have none_there := List.count_eq_zero.mp (@newcomers_apart limit peer event apart)
      exact absurd (List.mem_map.mpr ⟨connection, member, own⟩) none_there
    · intro old new visiting becomes own
      have same : old.peer = peer := (peer_becomes becomes).symm.trans own
      cases event with
      | arrive other =>
          rw [show new = old from becomes]
          exact visiting same
      | touch other event =>
          have different : ¬ (old.peer = other ∧ event.byPeer = true) := by
            rintro ⟨both, _⟩
            rw [Event.concerns, ← both, same, beq_self_eq_true] at apart
            cases apart
          rw [Becomes, if_neg different] at becomes
          rw [becomes]
          exact visiting same
      | step step =>
          rcases becomes with rfl | ⟨id, moves⟩
          · exact visiting own
          · exact (visiting same).advance whole last replies rfl ⟨id, rfl⟩ moves
      | elapse time =>
          rcases becomes with rfl | rfl
          · exact visiting own
          · exact (visiting same).elapse time
  · rw [count_occur hosts.serves, newcomers_apart apart, hosts.single]

omit whole last replies in
/-- A chunk that the peer sends gets to its connection. -/
theorem Hosts.send {endpoint : Endpoint} {chunk unsent : Octets}
    (hosts : Hosts service limit wire request peer endpoint (chunk ++ unsent)) :
    Hosts service limit wire request peer
      (endpoint.occur service (.touch peer (.send chunk))) unsent := by
  refine ⟨(hosts.serves.occur service _).1, hosts.serves.fits service hosts.fits _, ?_, ?_⟩
  · refine hosts.serves.all _ _ hosts.visiting ?_ ?_
    · intro connection member
      cases member
    · intro old new visiting becomes own
      have same : old.peer = peer := (peer_becomes becomes).symm.trans own
      rw [Becomes, if_pos ⟨same, rfl⟩] at becomes
      rw [becomes]
      exact (visiting same).send
  · rw [count_occur hosts.serves, hosts.single]
    rfl

/-! ## Histories -/

/-- The chunks that the peer sends in a history get to its connection. -/
theorem Hosts.after {endpoint : Endpoint} {events : List Event} {chunks : List Octets}
    {unsent : Octets}
    (hosts : Hosts service limit wire request peer endpoint (chunks.flatten ++ unsent))
    (own : events.filter (Event.concerns peer) =
      chunks.map fun chunk => .touch peer (.send chunk)) :
    Hosts service limit wire request peer (endpoint.after service events) unsent := by
  induction events generalizing endpoint chunks with
  | nil =>
      rw [List.filter_nil] at own
      rw [List.map_eq_nil_iff.mp own.symm] at hosts
      exact hosts
  | cons event events inductionHypothesis =>
      rw [Endpoint.after, List.foldl_cons]
      cases concerned : event.concerns peer with
      | false =>
          rw [List.filter_cons_of_neg (by rw [concerned]; exact Bool.false_ne_true)] at own
          exact inductionHypothesis (hosts.occur whole last replies concerned) own
      | true =>
          rw [List.filter_cons_of_pos concerned] at own
          cases chunks with
          | nil => cases own
          | cons chunk chunks =>
              rw [List.map_cons] at own
              injection own with first later
              subst first
              rw [List.flatten_cons, List.append_assoc] at hosts
              exact inductionHypothesis hosts.send later

/-- A peer that connects in a history and sends its request is on its way. -/
theorem Awaits.after {endpoint : Endpoint} {events : List Event} {chunks : List Octets}
    (awaits : Awaits limit peer endpoint)
    (own : events.filter (Event.concerns peer) =
      .arrive peer :: chunks.map fun chunk => .touch peer (.send chunk))
    (sent : chunks.flatten = wire) :
    Hosts service limit wire request peer (endpoint.after service events) [] := by
  induction events generalizing endpoint with
  | nil => cases own
  | cons event events inductionHypothesis =>
      rw [Endpoint.after, List.foldl_cons]
      cases concerned : event.concerns peer with
      | false =>
          rw [List.filter_cons_of_neg (by rw [concerned]; exact Bool.false_ne_true)] at own
          exact inductionHypothesis (awaits.occur concerned) own
      | true =>
          rw [List.filter_cons_of_pos concerned] at own
          injection own with first later
          subst first
          subst sent
          have arrived : Hosts service limit chunks.flatten request peer
              (endpoint.occur service (.arrive peer)) (chunks.flatten ++ []) := by
            rw [List.append_nil]
            exact awaits.arrive whole
          exact arrived.after whole last replies later

omit whole last replies in
/-- In a quiet endpoint the visit is over: the handler has run once, and its reply is written. -/
theorem Hosts.done {endpoint : Endpoint} (hosts : Hosts service limit wire request peer endpoint [])
    (quiet : Quiet service endpoint) :
    ∃ connection id response, endpoint.visits peer = [connection] ∧
      connection.handled = [(request, service.handler id request)] ∧
      (service.handler id request).reply false = .ok (.message response) ∧
      connection.outbound.written = response.wire := by
  have length : (endpoint.visits peer).length = 1 := by
    rw [← hosts.single, visits, List.count, List.countP_map, List.countP_eq_length_filter]
    rfl
  rcases List.length_eq_one_iff.mp length with ⟨connection, only⟩
  have member : connection ∈ endpoint.visits peer := by
    rw [only]
    exact List.mem_singleton_self connection
  rcases List.mem_filter.mp member with ⟨among, own⟩
  rcases quiet.stuck hosts.serves among with ⟨idle, surroundings, stuck⟩
  rcases (hosts.visiting connection among (beq_iff_eq.mp own)).done stuck idle with
    ⟨call, response, ⟨id, rfl⟩, replied, handled, written⟩
  exact ⟨connection, id, response, only, handled, replied, written⟩

end

/-! ## The beginning -/

/-- An endpoint that has just begun to serve waits for its first visitor. -/
theorem awaits_start {site : Site} {address : String} {settings : ServerSettings}
    {bound endpoint : Endpoint} {startup : Startup}
    (binds : Endpoint.bind site address settings = .ok bound)
    (starts : bound.start startup = (.ok (), endpoint)) (peer : PeerId) :
    Awaits settings.maxRequestSize peer endpoint := by
  unfold Endpoint.bind at binds
  cases valid : settings.validate with
  | error fault => simp only [valid, reduceCtorEq] at binds
  | ok _ =>
      simp only [valid] at binds
      cases placed : place site address with
      | error fault => simp only [placed, Except.map, reduceCtorEq] at binds
      | ok place =>
          simp only [placed, Except.map, Except.ok.injEq] at binds
          subst binds
          rcases start_eq_ok starts with ⟨_, pool, spawned, rfl⟩
          cases WorkerPool.spawn_eq_ok spawned
          have some_thread : settings.threads ≠ 0 := by
            intro none
            rw [ServerSettings.validate, if_pos none] at valid
            cases valid
          have new : ∀ worker ∈ List.replicate settings.threads Worker.new, worker = Worker.new :=
            fun worker member => List.eq_of_mem_replicate member
          have nothing : ∀ count, (List.replicate count Worker.new).flatMap Worker.connections =
              [] := by
            intro count
            rw [List.flatMap_eq_nil_iff]
            intro worker member
            rw [List.eq_of_mem_replicate member]
            rfl
          refine ⟨⟨rfl, ⟨_, rfl, rfl, ?_, ?_, ?_⟩, rfl⟩, ?_, ?_⟩
          · intro none
            exact some_thread ((List.replicate_eq_nil_iff _).mp none)
          · intro worker member
            rw [new worker member]
            rfl
          · intro worker member
            rw [new worker member]
            rfl
          · intro connection member
            simp only [connections, notify, Option.elim_some, List.nil_append,
              WorkerPool.connections_eq, nothing] at member
            cases member
          · simp only [connections, notify, Option.elim_some, List.nil_append,
              WorkerPool.connections_eq, nothing, List.map_nil, List.count_nil]

end Endpoint
end PromiseHttp
