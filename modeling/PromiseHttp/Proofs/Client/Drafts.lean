import PromiseHttp.Client.Sending
import PromiseHttp.Proofs.Connection.Visit
import PromiseHttp.Proofs.Http.RequestWire

namespace PromiseHttp

/-!
# Drafts on the wire

What a client sends for a draft is one complete request, and it asks for the close of the connection.
The server reads the method name, the target and the body of the draft, and its fields in their
order.  In front of them stands the host, if the draft does not name one itself, and behind them the
length of the body.
-/

namespace RequestDraft

/-- The request that a server reads when a draft is sent to it. -/
def delivered (draft : RequestDraft) (target : String) : Request :=
  let parts := Request.splitTarget (Request.rooted draft.path)
  ⟨.ofName draft.method.name, parts.1, parts.2, .http11,
    ⟨(if draft.headers.contains "host" then [] else [("Host", target)]) ++
      [("Connection", "close")] ++ draft.headers.toList ++
      [("Content-Length", Text.numeral draft.body.length)]⟩,
    draft.body⟩

/-- A draft that can be sent to a server and leaves the length of its body to the client. -/
structure Acceptable (draft : RequestDraft) (target : String) : Prop where
  method : Head.IsToken draft.method.name
  path : ∀ octet ∈ Octets.encode draft.path, Head.isTargetOctet octet = true
  fields : ∀ field ∈ draft.headers.toList, Head.IsField field
  unannounced : draft.headers.contains "content-length" = false
  host : Head.IsValue target
  few : (draft.delivered target).headers.size ≤ Head.maxFields

variable {draft : RequestDraft}

theorem toList_request (draft : RequestDraft) :
    draft.request.headers.toList = ("Connection", "close") :: draft.headers.toList := rfl

theorem contains_request {name : String} (different : Text.sameLetters "Connection" name = false) :
    draft.request.headers.contains name = draft.headers.contains name := by
  have apart : Headers.named name ("Connection", "close") = false := different
  simp only [Headers.contains, toList_request, List.any_cons, apart, Bool.false_or]

theorem sentFields_request (target : String)
    (unannounced : draft.headers.contains "content-length" = false) :
    draft.request.sentFields target = (draft.delivered target).headers.toList := by
  have host : draft.request.headers.contains "host" = draft.headers.contains "host" :=
    contains_request (by decide)
  have length : draft.request.headers.contains "content-length" = false :=
    (contains_request (by decide)).trans unannounced
  have body : draft.request.body = draft.body := rfl
  simp only [Request.sentFields, host, length, body, Bool.false_eq_true, if_false, toList_request,
    delivered, List.append_assoc, List.cons_append, List.nil_append]

theorem resource_request (draft : RequestDraft) :
    draft.request.resource = Request.rooted draft.path :=
  Request.resource_new draft.method draft.path

/-- Whatever is acceptable can be sent. -/
theorem Acceptable.sendable {target : String} (acceptable : draft.Acceptable target) :
    draft.request.Sendable target := by
  have fields := sentFields_request target acceptable.unannounced
  have target : Head.IsTarget draft.request.resource := by
    rw [resource_request]
    exact Request.isTarget_rooted acceptable.path
  refine ⟨acceptable.method, target, ?_, ?_⟩
  · have close : Head.IsField ("Connection", "close") := by decide
    have named : Head.IsToken "Host" := by decide
    intro field member
    rw [fields] at member
    simp only [delivered, List.mem_append, List.mem_singleton] at member
    rcases member with ((host | rfl) | own) | rfl
    · split at host
      · cases host
      · rw [List.mem_singleton.mp host]
        exact ⟨named, acceptable.host⟩
    · exact close
    · exact acceptable.fields field own
    · exact Head.isField_length _
  · rw [fields]
    exact acceptable.few

/-- The server reads the delivered request. -/
theorem received_request (target : String)
    (unannounced : draft.headers.contains "content-length" = false) :
    draft.request.received target = draft.delivered target := by
  have split : (draft.request.path, draft.request.query) =
      Request.splitTarget (Request.rooted draft.path) := rfl
  rw [Request.received_eq split, sentFields_request target unannounced]
  rfl

/-- What is sent for a draft is one complete request. -/
theorem Acceptable.isWhole {target : String} (acceptable : draft.Acceptable target) {limit : Nat}
    (fits : (draft.wire target).length ≤ limit) (countable : limit < Text.countBound) :
    (draft.delivered target).IsWhole limit (draft.wire target) := by
  have same : draft.request.received target = draft.delivered target :=
    received_request target acceptable.unannounced
  have length : (draft.wire target).length =
      (Octets.encode (draft.request.headText target)).length + draft.body.length :=
    List.length_append
  have parsed := Request.parse_wire acceptable.sendable
  rw [same] at parsed
  refine ⟨⟨_, parsed, length.symm⟩, ?_, fits, countable⟩
  have unannounced : draft.request.headers.contains "content-length" = false :=
    (contains_request (by decide)).trans acceptable.unannounced
  have short : draft.body.length < Text.countBound := by omega
  have announced := @Request.bodyLength_received draft.request target unannounced short
  rw [same] at announced
  exact announced

/-- A draft is sent with the wish that the connection be closed behind it. -/
theorem isKeepAlive_delivered (target : String)
    (unannounced : draft.headers.contains "content-length" = false) :
    (draft.delivered target).isKeepAlive = false := by
  have close : draft.request.headers.get? "connection" = some "close" := by
    have named : Headers.named "connection" ("Connection", "close") = true := by decide
    simp only [Headers.get?, toList_request, List.find?_cons, named, Option.map_some]
  rw [← received_request target unannounced, Request.isKeepAlive_received, Request.isKeepAlive,
    keepsAlive, close]
  exact (by decide : Text.sameLetters "close" "keep-alive" = false)

end RequestDraft

end PromiseHttp
