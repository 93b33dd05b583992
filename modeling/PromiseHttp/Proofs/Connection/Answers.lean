import PromiseHttp.Connection.Serve
import PromiseHttp.Proofs.Client.Resolving
import PromiseHttp.Proofs.Connection.Copying
import PromiseHttp.Proofs.Reply.Calls

namespace PromiseHttp

/-!
# Answers

An answer is what a peer gets for one request: a head that announces the length of the body, and the
body behind it.  Every reply comes to an answer: a message does, a failure is reported with one, and
so is a file that is not there.  A file that is there comes to an answer if it tells a length and holds
out that long while it is sent.  As long as the peer takes every write, delivering a reply puts exactly the octets of its
answer on the wire.

Whatever stands behind an answer, it is read as one response whose only `Content-Length` is the
length of the body, and the other side keeps the connection if the connection was told to be kept.
-/

/-- A head and a body for one request. -/
structure Answer where
  head : Response
  body : Octets

namespace Answer

/-- The octets of the answer: the head announces the length of the body. -/
def wire (answer : Answer) : Octets := answer.head.headWire answer.body.length ++ answer.body

/-- The answer that a response amounts to. -/
def ofResponse (response : Response) : Answer := ⟨response.typed, response.body⟩

theorem wire_ofResponse (response : Response) : (ofResponse response).wire = response.wire := rfl

/-- The head of the answer as the other side reads it. -/
def received (answer : Answer) : Response := answer.head.headReceived answer.body.length

/-- An answer that can be put on the wire. -/
def IsSendable (answer : Answer) : Prop := answer.head.HeadSendable answer.body.length

end Answer

/-! ## Reading an answer -/

namespace Response

/-- Whether octets are one response with the given head: it is read from their front whatever stands
behind them, and its only `Content-Length` is the number of the octets behind the head. -/
def Delimits (head : Response) (octets : Octets) : Prop :=
  ∃ offset, offset ≤ octets.length ∧
    head.headers.getAll "content-length" = [Text.numeral (octets.length - offset)] ∧
    ∀ more, Response.parse (octets ++ more) = .ok (head, offset)

end Response

/-- The octets of an answer are one response. -/
theorem Answer.IsSendable.delimits {answer : Answer} (sendable : answer.IsSendable) :
    answer.received.Delimits answer.wire := by
  have length : answer.wire.length - (answer.head.headWire answer.body.length).length =
      answer.body.length := by
    rw [wire, List.length_append, Nat.add_sub_cancel_left]
  refine ⟨(answer.head.headWire answer.body.length).length, ?_, ?_, ?_⟩
  · rw [wire, List.length_append]
    exact Nat.le_add_right _ _
  · rw [length]
    exact Response.getAll_headReceived answer.head answer.body.length
  · intro more
    rw [wire, List.append_assoc]
    exact Response.parse_wire sendable _

/-- An answer takes up some octets. -/
theorem Answer.IsSendable.wire_ne_nil {answer : Answer} (sendable : answer.IsSendable) :
    answer.wire ≠ [] := by
  intro nothing
  rcases sendable.delimits with ⟨offset, _, _, parsed⟩
  have read := parsed []
  rw [nothing] at read
  cases read

/-! ## Notices of the connection -/

/-- A response that the connection gives of its own accord can be sent. -/
theorem Response.sendable_notice {status : Status} (least : 100 ≤ status.code)
    (most : status.code ≤ 999) (text : String) (keepAlive : Bool) :
    (((Response.new status).withText text).keeping keepAlive).Sendable := by
  refine ⟨least, most, ?_, ?_⟩
  · intro field member
    cases member
  · have typed : (((Response.new status).withText text).keeping keepAlive).suppliedType.length ≤ 1 := by
      unfold suppliedType
      split
      · exact Nat.zero_le 1
      · exact Nat.le_refl 1
    have none_own : (((Response.new status).withText text).keeping keepAlive).ownFields = [] := rfl
    rw [sentFields_typed, none_own, List.nil_append, List.length_append]
    exact Nat.le_trans (Nat.add_le_add_right typed 2) (by decide)

/-- The answer to a response that can be sent. -/
theorem Response.Sendable.answer {response : Response} (sendable : response.Sendable) :
    (Answer.ofResponse response).IsSendable :=
  sendable.head

/-- The other side is told what the answer says about the connection. -/
theorem Answer.keepAlive_received (answer : Answer) :
    answer.received.keepAlive = answer.head.keepAlive :=
  Response.keepAlive_headReceived answer.head answer.body.length

/-! ## Files -/

namespace StoredFile

/-- A file that keeps what it tells while it is sent: it tells the length of the content, and its reads
yield the content, whatever comes of reading on. -/
def Keeps (file : StoredFile) (content : Octets) : Prop :=
  file.length = .ok content.length ∧ content <+: yields file.reads

end StoredFile

/-! ## Replies and their answers -/

/-- The answer that a reply comes to. -/
inductive Reply.Gives (files : Files) (keepAlive : Bool) : Outcome Reply → Answer → Prop
  | message (response : Response) :
      Gives files keepAlive (.ok (.message response)) (.ofResponse response)
  | content {path : String} {file : StoredFile} {content : Octets} (response : Response)
      (there : files path = .ok file) (keeps : file.Keeps content) :
      Gives files keepAlive (.ok (.file response path)) ⟨response, content⟩
  | absent {path : String} {fault : IoFault} (response : Response)
      (nothing : files path = .error fault) :
      Gives files keepAlive (.ok (.file response path)) (.ofResponse (Delivery.notFound keepAlive))
  | failure (failure : Failure) :
      Gives files keepAlive (.error failure) (.ofResponse (Delivery.handlerFailed failure keepAlive))

/-- Files that keep what they tell. -/
def Files.Stay (files : Files) : Prop :=
  ∀ path file, files path = .ok file → ∃ content, file.Keeps content

namespace Reply

variable {files : Files} {keepAlive : Bool} {reply : Outcome Reply} {answer : Answer}

/-- Among files that keep what they tell every reply comes to an answer. -/
theorem gives_of_stay (stay : files.Stay) (keepAlive : Bool) (reply : Outcome Reply) :
    ∃ answer, Gives files keepAlive reply answer := by
  cases reply with
  | error failure => exact ⟨_, .failure failure⟩
  | ok reply =>
      cases reply with
      | message response => exact ⟨_, .message response⟩
      | file response path =>
          cases found : files path with
          | error fault => exact ⟨_, .absent response found⟩
          | ok file =>
              rcases stay path file found with ⟨content, keeps⟩
              exact ⟨_, .content response found keeps⟩

/-- The answer to a reply that can be sent can be sent, and tells the other side what becomes of the
connection. -/
theorem Gives.sendable (gives : Gives files keepAlive reply answer)
    (sendable : CanBeSent keepAlive reply) :
    answer.IsSendable ∧ answer.received.keepAlive = keepAlive := by
  rw [Answer.keepAlive_received]
  cases gives with
  | message response =>
      refine ⟨sendable.1.answer, ?_⟩
      rw [Answer.ofResponse, Response.keepAlive_typed]
      exact sendable.2
  | content response there keeps => exact ⟨sendable.1 _, sendable.2⟩
  | absent response nothing =>
      refine ⟨(Response.sendable_notice (by decide) (by decide) _ _).answer, ?_⟩
      rw [Answer.ofResponse, Response.keepAlive_typed]
      rfl
  | failure failure =>
      refine ⟨(Response.sendable_notice (by decide) (by decide) _ _).answer, ?_⟩
      rw [Answer.ofResponse, Response.keepAlive_typed]
      rfl

/-- A peer that takes every write gets exactly the answer, unless settling the promise of the transfer
panics. -/
theorem Gives.deliver (gives : Gives files keepAlive reply answer) (settlingPanics : Bool)
    {outbound : Outbound} (free : outbound.budget = none) :
    ∃ after settled, Delivery.deliver files keepAlive settlingPanics outbound reply =
        ⟨after, settled, .ok ()⟩ ∧ after.budget = none ∧
      (¬ (settled.isSome && settlingPanics) = true →
        after.written = outbound.written ++ answer.wire) := by
  cases gives with
  | message response =>
      rcases outbound.write_free free response.wire with ⟨after, takes, free', written⟩
      refine ⟨after, some (.ok response.wire.length), ?_, free', fun _ => written⟩
      rw [Delivery.deliver, Delivery.message, takes]
  | @absent path fault response nothing =>
      cases settlingPanics with
      | true =>
          refine ⟨outbound, some (.error (.io fault)), ?_, free, fun calm => absurd rfl calm⟩
          rw [Delivery.deliver, Delivery.file, nothing]
          simp only [if_true]
      | false =>
          rcases outbound.write_free free (Delivery.notFound keepAlive).wire with
            ⟨after, takes, free', written⟩
          refine ⟨after, some (.error (.io fault)), ?_, free', fun _ => written⟩
          rw [Delivery.deliver, Delivery.file, nothing]
          simp only [Delivery.notice, takes, Bool.false_eq_true, if_false]
  | failure failure =>
      rcases outbound.write_free free (Delivery.handlerFailed failure keepAlive).wire with
        ⟨after, takes, free', written⟩
      refine ⟨after, none, ?_, free', fun _ => written⟩
      rw [Delivery.deliver, Delivery.notice, takes]
  | @content path file content response there keeps =>
      rcases keeps with ⟨length, begins⟩
      have lasts : StoredFile.Lasts file.reads content.length := fun _ _ => begins.length_le
      have sent : (StoredFile.yields file.reads).take content.length = content :=
        (List.prefix_iff_eq_take.mp begins).symm
      rcases outbound.write_free free (response.headWire content.length) with
        ⟨between, takes, free', written⟩
      rcases StoredFile.copy_yields lasts free' with ⟨after, copied, free'', written'⟩
      rw [sent] at copied written'
      refine ⟨after, some (.ok content.length), ?_, free'', fun _ => ?_⟩
      · rw [Delivery.deliver, Delivery.file, there]
        simp only [length, Delivery.content, takes, copied, Nat.lt_irrefl, if_false]
      · rw [written', written, Answer.wire, List.append_assoc]

end Reply

/-- A reply that comes to an answer puts it on the wire, and the connection goes on or ends as the
request asks, unless settling the promise of the transfer panics. -/
theorem Connection.reply_of_gives {connection : Connection} {files : Files} {request : Request}
    {call : HandlerCall} {answer : Answer} (free : connection.outbound.budget = none)
    (gives : Reply.Gives files request.isKeepAlive (call.reply request.isKeepAlive) answer) :
    (call.settlingPanics = true ∧
        (connection.reply files request call).phase = .ended .crashed) ∨
      ∃ outbound completions, outbound.budget = none ∧
        outbound.written = connection.outbound.written ++ answer.wire ∧
        connection.reply files request call =
          { connection with
            outbound := outbound
            completions := completions
            phase := if request.isKeepAlive then .reading else .ended .lastResponse } := by
  rcases gives.deliver call.settlingPanics free with
    ⟨outbound, settled, delivered, free', written⟩
  by_cases panics : (settled.isSome && call.settlingPanics) = true
  · refine Or.inl ⟨(Bool.and_eq_true_iff.mp panics).2, ?_⟩
    simp only [reply, delivered, panics, if_true, finish]
  · refine Or.inr ⟨outbound, connection.completions ++ [settled], free', written panics, ?_⟩
    simp only [reply, delivered, if_neg panics]
    split
    · rfl
    · rfl

end PromiseHttp
