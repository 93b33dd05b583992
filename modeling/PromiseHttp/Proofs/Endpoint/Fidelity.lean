import Mathlib
import PromiseHttp.Proofs.Client.Drafts
import PromiseHttp.Proofs.Client.Resolving
import PromiseHttp.Proofs.Endpoint.Hosting
import PromiseHttp.Proofs.Reply.Calls

namespace PromiseHttp

/-!
# A client and an endpoint understand each other

A client sends a draft to an endpoint that serves.  The handler is called once, with the request that
the draft describes, and the promise of the client is resolved with the response that the handler has
given.  Nothing depends on how the octets are cut on their way in either direction, on what other
peers do in the meantime, on the worker that gets the connection, or on the order in which the
workers make their steps.
-/

namespace HandlerCall

/-- The response that a call gives to a request on a connection that is not kept, if it gives one. -/
def message? (call : HandlerCall) : Option Response :=
  match call.ending with
  | .send status text => some ⟨status, ⟨call.fields⟩, Octets.encode text, false⟩
  | .sendResponse response =>
    some ⟨response.status, ⟨response.headers.toList ++ call.fields⟩, response.body, false⟩
  | .serveFile _ => none
  | .fail _ => none
  | .letGo => none

/-- A call that gives a response of which an exchange with the limit can make sense. -/
def Answers (call : HandlerCall) (limit : Nat) : Prop :=
  ∃ response, call.message? = some response ∧ response.Sendable ∧
    Exchange.mentionsChunks response.headers = false ∧ response.wire.length ≤ limit

/-- The message of a call is what its writer settles the reply with. -/
theorem reply_of_message? {call : HandlerCall} {response : Response}
    (message : call.message? = some response) : call.reply false = .ok (.message response) := by
  rw [reply_eq, addAll_eq]
  unfold message? at message
  cases ending : call.ending with
  | send status text =>
      simp only [ending, Option.some.injEq] at message
      subst message
      rfl
  | sendResponse own =>
      simp only [ending, Option.some.injEq] at message
      subst message
      rfl
  | serveFile path => simp only [ending, reduceCtorEq] at message
  | fail reason => simp only [ending, reduceCtorEq] at message
  | letGo => simp only [ending, reduceCtorEq] at message

end HandlerCall

namespace Endpoint

/-- A peer connects to an endpoint that serves and sends the draft of a client in some chunks.  If
the calls of the handler come back, the endpoint comes to rest; and whenever it has come to rest,
the handler has been called once for the peer, with the delivered request, and whoever brings the
octets that were written for the peer to the client resolves its promise with the response of the
handler. -/
theorem exchange_is_faithful {site : Site} {address : String} {settings : ServerSettings}
    {bound endpoint : Endpoint} {startup : Startup} {service : ServiceSurroundings}
    {client : Client} {draft : RequestDraft} {peer : PeerId} {events : List Event}
    {chunks : List Octets} (binds : Endpoint.bind site address settings = .ok bound)
    (starts : bound.start startup = (.ok (), endpoint)) (ready : client.isShutDown = false)
    (acceptable : draft.Acceptable client.target)
    (requestFits : (draft.wire client.target).length ≤ settings.maxRequestSize)
    (requestCount : settings.maxRequestSize < Text.countBound)
    (responseCount : client.settings.maxResponseSize < Text.countBound)
    (answers : ∀ id, (service.handler id (draft.delivered client.target)).Answers
      client.settings.maxResponseSize)
    (own : events.filter (Event.concerns peer) =
      .arrive peer :: chunks.map fun chunk => .touch peer (.send chunk))
    (sent : chunks.flatten = draft.wire client.target) :
    ((∀ request, service.returns request = true) →
      ∃ further, (∀ event ∈ further, Event.isOwn event = true) ∧
        Quiet service (endpoint.after service (events ++ further))) ∧
    ∀ further, (∀ event ∈ further, Event.isOwn event = true) →
      Quiet service (endpoint.after service (events ++ further)) →
      ∃ connection id response,
        (endpoint.after service (events ++ further)).visits peer = [connection] ∧
        connection.handled = [(draft.delivered client.target,
          service.handler id (draft.delivered client.target))] ∧
        (service.handler id (draft.delivered client.target)).message? = some response ∧
        ∀ answer : Inbound, answer.Brings connection.outbound.written →
          client.send draft (.ok .empty) answer =
            ⟨some (draft.wire client.target), some (.ok response.delivered)⟩ := by
  have whole := acceptable.isWhole requestFits requestCount
  have last := RequestDraft.isKeepAlive_delivered client.target acceptable.unannounced
  have replies : ∀ call, Handles service (draft.delivered client.target) call →
      ∃ response, call.reply false = .ok (.message response) := by
    rintro call ⟨id, rfl⟩
    rcases answers id with ⟨response, message, _⟩
    exact ⟨response, HandlerCall.reply_of_message? message⟩
  have hosts := (awaits_start binds starts peer).after whole last replies own sent
  have goesOn : ∀ further : List Event, endpoint.after service (events ++ further) =
      (endpoint.after service events).after service further := by
    intro further
    exact List.foldl_append
  constructor
  · intro returns
    rcases hosts.serves.comes_to_rest hosts.fits returns with ⟨further, steps, quiet⟩
    exact ⟨further, steps, goesOn further ▸ quiet⟩
  · intro further steps quiet
    rw [goesOn] at quiet ⊢
    -- The steps behind the history are no concern of the peer, so nothing more is sent.
    have nothing : further.filter (Event.concerns peer) = [] := by
      rw [List.filter_eq_nil_iff]
      intro event member concerned
      have step := steps event member
      cases event with
      | arrive other => cases step
      | touch other event => cases step
      | step step => cases concerned
      | elapse time => cases concerned
    have before : Hosts service settings.maxRequestSize (draft.wire client.target)
        (draft.delivered client.target) peer (endpoint.after service events)
        (([] : List Octets).flatten ++ []) := hosts
    have hosts' := before.after whole last replies nothing
    rcases hosts'.done quiet with ⟨connection, id, response, only, handled, replied, written⟩
    rcases answers id with ⟨response', message, sendable, unchunked, fits⟩
    have same : response' = response := by
      have both := (HandlerCall.reply_of_message? message).symm.trans replied
      injection both with both
      injection both with both
    subst same
    refine ⟨connection, id, response', only, handled, message, ?_⟩
    intro answer brings
    rw [written] at brings
    rw [Client.send_connected ready,
      Exchange.outcome?_run sendable unchunked fits responseCount brings]

/-! ## A greeting -/

namespace Greeting

/-- A machine that knows one host, itself. -/
def site : Site := ⟨fun _ => some [.loopbackV4], fun _ => false, 49152, false⟩

/-- A handler that greets at once. -/
def service : ServiceSurroundings :=
  ⟨fun _ _ => .ofEnding (.send .ok StockHandler.greeting), fun _ => .error .noSuchFile, fun _ => true⟩

def client : Client := ⟨"h:80", .defaults, false⟩

def draft : RequestDraft := (RequestDraft.new .get "hello").header "Accept" "text/plain"

/-- The draft is sent in two chunks, with some time between them. -/
def events : List Event :=
  [.arrive 0, .touch 0 (.send ((draft.wire "h:80").take 9)), .elapse 5,
    .touch 0 (.send ((draft.wire "h:80").drop 9))]

/-- The endpoint at the address of the host. -/
def endpoint : Endpoint :=
  ⟨⟨.loopbackV4, 80⟩, .defaults, false, .bound, true, [], none, []⟩

theorem binds : Endpoint.bind site "h:80" .defaults = .ok endpoint := by
  have parts : "h".splitOn "." = ["h"] := by cbv
  have octet : Host.octet? "h" = none := by decide
  have bracket : "h".startsWith "[" = false := by cbv
  have octets : Host.v4Octets? "h" = none := by
    simp only [Host.v4Octets?, parts, List.mapM_cons, octet, Option.bind_eq_bind, Option.bind_none]
  have split : Address.splitPort? "h:80" = some ("h", "80") := by decide
  have literal : Address.ofLiteral? "h:80" = none := by
    simp only [Address.ofLiteral?, split, Address.literalHost?, bracket, octets, Bool.false_and,
      Bool.false_eq_true, if_false, Option.map_none]
  have port : Text.readNumeral Text.portBound "80" = some 80 := by decide
  have valid : ServerSettings.defaults.validate = .ok () := rfl
  simp only [Endpoint.bind, valid, place, Address.resolve, literal, split, port, site]
  rfl

theorem acceptable : draft.Acceptable client.target := by
  refine ⟨by decide, List.all_eq_true.mp (by decide), by decide, by decide, by decide, by decide⟩

/-- What the handler answers, before the headers that a response states by itself. -/
def response : Response := ⟨.ok, ⟨[]⟩, Octets.encode StockHandler.greeting, false⟩

theorem delivered : response.delivered =
    ⟨.ok, ⟨[("Content-Type", "text/plain; charset=utf-8"), ("Connection", "close"),
      ("Content-Length", "13")]⟩, Octets.encode "Hello, World!", false⟩ := by
  decide

end Greeting

/-- A greeting gets through. -/
theorem greeting_gets_through :
    ∃ endpoint, Greeting.endpoint.start .smooth = (.ok (), endpoint) ∧
      ∃ further connection,
        (endpoint.after Greeting.service (Greeting.events ++ further)).visits 0 = [connection] ∧
        connection.handled = [(Greeting.draft.delivered "h:80",
          .ofEnding (.send .ok StockHandler.greeting))] ∧
        ∀ answer : Inbound, answer.Brings connection.outbound.written →
          Greeting.client.send Greeting.draft (.ok .empty) answer =
            ⟨some (Greeting.draft.wire "h:80"),
              some (.ok ⟨.ok, ⟨[("Content-Type", "text/plain; charset=utf-8"),
                ("Connection", "close"), ("Content-Length", "13")]⟩,
                Octets.encode "Hello, World!", false⟩)⟩ := by
  have answers : ∀ id, (Greeting.service.handler id
      (Greeting.draft.delivered Greeting.client.target)).Answers
        Greeting.client.settings.maxResponseSize := by
    intro id
    refine ⟨Greeting.response, rfl, ?_, rfl, ?_⟩
    · constructor <;> decide
    · decide
  have own : Greeting.events.filter (Event.concerns 0) = .arrive 0 ::
      [(Greeting.draft.wire "h:80").take 9, (Greeting.draft.wire "h:80").drop 9].map
        fun chunk => .touch 0 (.send chunk) := rfl
  have sent : [(Greeting.draft.wire "h:80").take 9, (Greeting.draft.wire "h:80").drop 9].flatten =
      Greeting.draft.wire Greeting.client.target := by
    rw [List.flatten_cons, List.flatten_cons, List.flatten_nil, List.append_nil,
      List.take_append_drop]
    rfl
  have starts : Greeting.endpoint.start .smooth = (.ok (), _) := rfl
  have exchange := exchange_is_faithful Greeting.binds starts rfl Greeting.acceptable (by decide)
    (by decide) (by decide) answers own sent
  rcases exchange.1 (fun _ => rfl) with ⟨further, steps, quiet⟩
  rcases exchange.2 further steps quiet with
    ⟨connection, id, response, only, handled, message, resolved⟩
  refine ⟨_, starts, further, connection, only, handled, ?_⟩
  intro answer brings
  have same : Greeting.response = response := Option.some.inj message
  rw [resolved answer brings, ← same, Greeting.delivered]
  rfl

end Endpoint

end PromiseHttp
