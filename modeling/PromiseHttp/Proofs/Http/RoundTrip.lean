import PromiseHttp.Proofs.Http.RequestWire
import PromiseHttp.Proofs.Http.ResponseWire

namespace PromiseHttp

/-!
# Reading undoes writing

What is written for a message is read as that message.  A response is read up to its body, which is
all that stands behind its head, and its framing is the truth about it whatever its own fields say:
`Connection` and `Content-Length` occur once each, and none of those that were put into the response
survives.  A request is composed from a method, a target, fields and a body, and it is read with the
same method name, the same resource, the same body and the same fields between those that are
supplied for it.
-/

namespace Response

/-- What the other side makes of the octets of a response. -/
structure ReadBack (response received : Response) (offset : Nat) : Prop where
  parsed : parse response.wire = .ok (received, offset)
  /-- The body is everything behind the head. -/
  ends : offset + response.body.length = response.wire.length
  behind : response.wire.drop offset = response.body
  bodiless : received.body = []
  code : received.status.code = response.status.code
  /-- The variant of the status comes back as well if it is the one that its number stands for. -/
  status : response.status = .ofCode response.status.code → received.status = response.status
  keepAlive : received.keepAlive = response.keepAlive
  /-- The fields that do not concern the framing, a content type if there is a body without one,
  and the framing. -/
  headers : received.headers.toList =
    (response.headers.toList.filter fun field =>
      !Headers.named "Connection" field && !Headers.named "content-length" field) ++
    (if response.body ≠ [] ∧ response.headers.contains "content-type" = false then
      [("Content-Type", "text/plain; charset=utf-8")] else []) ++
    [("Connection", if response.keepAlive then "keep-alive" else "close"),
      ("Content-Length", Text.numeral response.body.length)]
  connection : received.headers.getAll "Connection" =
    [if response.keepAlive then "keep-alive" else "close"]
  length : received.headers.getAll "content-length" = [Text.numeral response.body.length]
  /-- The length is read as the number that it is. -/
  counted : response.body.length < Text.countBound →
    received.headers.contentLength? = some response.body.length

/-- A content type is supplied for a body that the fields say nothing about. -/
theorem suppliedType_eq (response : Response) :
    response.suppliedType =
      if response.body ≠ [] ∧ response.headers.contains "content-type" = false then
        [("Content-Type", "text/plain; charset=utf-8")] else [] := by
  unfold suppliedType
  cases response.headers.contains "content-type" <;> cases response.body <;> rfl

/-- One field speaks for the connection, whatever the response says about it. -/
theorem getAll_connection_headReceived (response : Response) (length : Nat) :
    (response.headReceived length).headers.getAll "Connection" = [response.connectionOption] := by
  have apart : Headers.named "Connection" ("Content-Length", Text.numeral length) = false := by
    simp only [Headers.named]
    decide
  have different : Text.sameLetters "Connection" "content-length" = false := by decide
  have only := Headers.getAll_set response.headers "Connection" response.connectionOption
  rw [headers_headReceived]
  simp only [Headers.getAll, sentFields, writtenHeaders, Headers.toList_remove, List.filter_append,
    Headers.filter_others different, List.filter_cons, apart, Bool.false_eq_true, if_false,
    List.filter_nil, List.append_nil]
  exact only

/-- Whatever response can be sent is read back, with its body behind it. -/
theorem written_is_read_back {response : Response} (sendable : response.Sendable) :
    ∃ received offset, response.ReadBack received offset := by
  refine ⟨response.typed.headReceived response.body.length,
    (response.typed.headWire response.body.length).length, ?_⟩
  have whole : response.wire =
      response.typed.headWire response.body.length ++ response.body := rfl
  have option : (if response.keepAlive = true then "keep-alive" else "close") =
      response.typed.connectionOption := by
    rw [connectionOption, keepAlive_typed]
  have code : (Status.ofCode response.typed.status.code).code = response.status.code := by
    rw [Status.code_ofCode, status_typed]
  have length := getAll_headReceived response.typed response.body.length
  refine
    { parsed := parse_wire sendable.head response.body
      ends := ?_
      behind := ?_
      bodiless := rfl
      code := code
      status := ?_
      keepAlive := ?_
      headers := ?_
      connection := ?_
      length := length
      counted := ?_ }
  · rw [whole, List.length_append]
  · rw [whole, List.drop_left]
  · intro variant
    rw [headReceived_eq, status_typed]
    exact variant.symm
  · rw [keepAlive_headReceived, keepAlive_typed]
  · rw [headers_headReceived, sentFields_typed, suppliedType_eq]
    rfl
  · rw [option]
    exact getAll_connection_headReceived response.typed response.body.length
  · intro countable
    rw [Headers.contentLength?, contentLength_headReceived]
    dsimp only
    rw [Text.trim_numeral, Text.readNumeral_numeral countable]

/-- A response whose fields contradict its framing. -/
def contradictory : Response where
  status := .other 418
  headers := ⟨[("CONNECTION", "close"), ("X-Tag", "a\tb"), ("content-LENGTH", "7"),
    ("Connection", "upgrade"), ("cONTENT-tYPE", "image/png"), ("Content-Length", "x"),
    ("x-tag", "")]⟩
  body := [255, 13, 10]
  keepAlive := true

/-- What the response says about its framing does not get through, and the content type that it
brings stays the only one. -/
theorem contradictions_are_dropped :
    contradictory.Sendable ∧ ∃ received offset, contradictory.ReadBack received offset ∧
      received.headers.toList =
        [("X-Tag", "a\tb"), ("cONTENT-tYPE", "image/png"), ("x-tag", ""),
          ("Connection", "keep-alive"), ("Content-Length", "3")] := by
  have fields : ∀ field ∈ contradictory.headers.toList, Head.IsField field := by decide
  have sendable : contradictory.Sendable := ⟨by decide, by decide, fields, by decide⟩
  obtain ⟨received, offset, readBack⟩ := written_is_read_back sendable
  refine ⟨sendable, received, offset, readBack, ?_⟩
  rw [readBack.headers]
  decide

end Response

namespace Request

/-- What a request is composed of. -/
structure Parts where
  method : Method
  target : String
  fields : List Field
  body : Octets

namespace Parts

/-- The request for the target, with the fields in their order and the body. -/
def request (parts : Parts) : Request :=
  (parts.fields.foldl (fun request field => request.header field.1 field.2)
    (new parts.method parts.target)).withBody parts.body

/-- The fields of the request when it is written for a host. -/
def sentFields (parts : Parts) (host : String) : List Field :=
  (if parts.fields.any (Headers.named "host") then [] else [("Host", host)]) ++ parts.fields ++
    [("Content-Length", Text.numeral parts.body.length)]

/-- Parts of a request that can be sent to a host.  The length of the body is left to be
supplied. -/
structure Fit (parts : Parts) (host : String) : Prop where
  method : Head.IsToken parts.method.name
  target : ∀ octet ∈ Octets.encode parts.target, Head.isTargetOctet octet = true
  fields : ∀ field ∈ parts.fields, Head.IsField field
  unannounced : ∀ field ∈ parts.fields, Headers.named "content-length" field = false
  few : (parts.sentFields host).length ≤ Head.maxFields
  host : Head.IsValue host

/-- What the other side makes of the octets of a request that is composed of the parts. -/
structure ReadBack (parts : Parts) (host : String) (received : Request) (offset : Nat) : Prop where
  parsed : parse (parts.request.wire host) = .ok (received, offset)
  ends : offset + parts.body.length = (parts.request.wire host).length
  method : received.method.name = parts.method.name
  version : received.version = .http11
  path : received.path = parts.request.path
  query : received.query = parts.request.query
  /-- The path ends where the query begins. -/
  unmarked : '?' ∉ received.path.toList
  /-- A slash stands in front of the target, supplied if it is missing. -/
  resource : received.resource =
    if parts.target.toList.head? = some '/' then parts.target else "/" ++ parts.target
  headers : received.headers.toList = parts.sentFields host
  body : received.body = parts.body
  /-- The length is read as the number that it is. -/
  length : parts.body.length < Text.countBound → received.bodyLength = .ok parts.body.length
  keepAlive : received.isKeepAlive = parts.request.isKeepAlive

variable {parts : Parts} {host : String}

theorem foldl_header (fields : List Field) (request : Request) :
    fields.foldl (fun request field => request.header field.1 field.2) request =
      { request with headers := ⟨request.headers.toList ++ fields⟩ } := by
  induction fields generalizing request with
  | nil => rw [List.foldl_nil, List.append_nil]
  | cons field fields inductionHypothesis =>
      rw [List.foldl_cons, inductionHypothesis]
      simp only [header, Headers.toList_insert, List.append_assoc, List.singleton_append]

theorem request_eq (parts : Parts) :
    parts.request =
      { new parts.method parts.target with headers := ⟨parts.fields⟩, body := parts.body } := by
  rw [request, foldl_header]
  rfl

theorem resource_request (parts : Parts) : parts.request.resource = rooted parts.target := by
  rw [request_eq]
  exact resource_new parts.method parts.target

theorem contains_length (unannounced : ∀ field ∈ parts.fields,
    Headers.named "content-length" field = false) :
    parts.request.headers.contains "content-length" = false := by
  rw [request_eq, Headers.contains, List.any_eq_false]
  intro field member
  rw [unannounced field member]
  exact Bool.false_ne_true

theorem sentFields_request (unannounced : ∀ field ∈ parts.fields,
    Headers.named "content-length" field = false) :
    parts.request.sentFields host = parts.sentFields host := by
  rw [Request.sentFields, contains_length unannounced, request_eq]
  rfl

/-- A request that is composed of fitting parts can be sent. -/
theorem Fit.sendable (fit : parts.Fit host) : parts.request.Sendable host := by
  have sent : parts.request.sentFields host = parts.sentFields host :=
    sentFields_request fit.unannounced
  refine ⟨?_, ?_, ?_, ?_⟩
  · rw [request_eq]
    exact fit.method
  · rw [resource_request]
    exact isTarget_rooted fit.target
  · have named : Head.IsToken "Host" := by decide
    intro field member
    rw [sent] at member
    simp only [sentFields, List.mem_append, List.mem_singleton] at member
    rcases member with (supplied | own) | rfl
    · split at supplied
      · cases supplied
      · rw [List.mem_singleton.mp supplied]
        exact ⟨named, fit.host⟩
    · exact fit.fields field own
    · exact Head.isField_length _
  · rw [sent]
    exact fit.few

/-- Whatever request is composed of fitting parts is read back. -/
theorem composed_is_read_back (fit : parts.Fit host) :
    ∃ received offset, parts.ReadBack host received offset := by
  have split : (parts.request.path, parts.request.query) = splitTarget (rooted parts.target) := by
    rw [request_eq]
    rfl
  have read := @received_eq parts.request host _ split
  refine ⟨parts.request.received host,
    (Octets.encode (parts.request.headText host)).length, ?_⟩
  have body : parts.request.body = parts.body := by rw [request_eq]
  refine
    { parsed := parse_wire fit.sendable
      ends := ?_
      method := ?_
      version := ?_
      path := ?_
      query := ?_
      unmarked := ?_
      resource := ?_
      headers := ?_
      body := ?_
      length := ?_
      keepAlive := isKeepAlive_received parts.request host }
  · rw [wire, List.length_append, body]
  · rw [read, request_eq]
    exact Method.name_ofName parts.method.name
  · rw [read, request_eq]
    rfl
  · rw [read]
  · rw [read]
  · rw [read, request_eq]
    exact not_mem_splitTarget (rooted parts.target)
  · rw [read]
    exact (resource_request parts).trans (rooted_eq parts.target)
  · rw [headers_received, sentFields_request fit.unannounced]
  · rw [read, body]
  · intro countable
    rw [← body] at countable ⊢
    exact bodyLength_received (contains_length fit.unannounced) countable

/-- Parts with a target that begins with no slash and has two question marks, and with a host of
their own. -/
def search : Parts where
  method := .custom "SEARCH"
  target := "find?a=1?b"
  fields := [("X-Tag", "é"), ("hOST", "h:1"), ("Connection", "close")]
  body := [255]

/-- The query begins behind the first question mark, and the host of the parts is the only one. -/
theorem search_is_read_back :
    search.Fit "localhost" ∧ ∃ received offset, search.ReadBack "localhost" received offset ∧
      received.resource = "/find?a=1?b" ∧ received.path = "/find" ∧
      received.query = some "a=1?b" ∧ received.headers.toList =
        [("X-Tag", "é"), ("hOST", "h:1"), ("Connection", "close"), ("Content-Length", "1")] := by
  have target : ∀ octet ∈ Octets.encode search.target, Head.isTargetOctet octet = true :=
    List.all_eq_true.mp (by decide)
  have fit : search.Fit "localhost" :=
    ⟨by decide, target, by decide, by decide, by decide, by decide⟩
  obtain ⟨received, offset, readBack⟩ := composed_is_read_back fit
  refine ⟨fit, received, offset, readBack, ?_, ?_, ?_, ?_⟩
  · rw [readBack.resource]
    decide
  · rw [readBack.path]
    decide
  · rw [readBack.query]
    decide
  · rw [readBack.headers]
    decide

end Parts
end Request
end PromiseHttp
