import PromiseHttp.Proofs.Client.Announced
import PromiseHttp.Proofs.Connection.Deliveries
import PromiseHttp.Proofs.Connection.Transcript

namespace PromiseHttp

/-!
# Files on the wire

The length of a file and its content come from different questions to the system, and nothing ties the
answers to each other.  The head in front of a file announces the length that was told when the file was
opened.  Behind it the peer is given as much of the content as has been announced, so a file that has
grown does no harm.  A file that has shrunk leaves the peer with less than the head announces.  Then the
promise of the transfer is rejected and the connection ends without another octet, and no reader takes
what there is for a body.
-/

/-- A request that is answered with a file: what the handler does, and the file as it is while it is
sent.  No read of the part that is sent fails. -/
structure FileTransfer where
  request : Request
  call : HandlerCall
  path : String
  file : StoredFile
  /-- The length that the file tells when it has been opened. -/
  announced : Nat
  serves : call.ending = .serveFile path
  valid : ∀ field ∈ call.fields, Head.IsField field
  told : file.length = .ok announced
  lasts : StoredFile.Lasts file.reads announced

namespace FileTransfer

variable (transfer : FileTransfer)

/-- What reading the file yields. -/
def content : Octets := StoredFile.yields transfer.file.reads

/-- The head in front of the file. -/
def head : Response :=
  ResponseWriter.finish
    (((ResponseWriter.new transfer.request.isKeepAlive).addAll transfer.call.fields).typedFor
      transfer.path)
    (Response.new .ok)

/-- The part of the content that is sent. -/
def body : Octets := transfer.content.take transfer.announced

/-- What the peer is given. -/
def wire : Octets := transfer.head.headWire transfer.announced ++ transfer.body

/-- The head as the other side reads it. -/
def received : Response := transfer.head.headReceived transfer.announced

/-- The failure of a transfer whose file has shrunk. -/
def failure : Failure :=
  Delivery.shrank transfer.path transfer.content.length transfer.announced

/-- Whether the file has shrunk since its length was told. -/
def HasShrunk : Prop := transfer.content.length < transfer.announced

instance : Decidable transfer.HasShrunk :=
  inferInstanceAs (Decidable (transfer.content.length < transfer.announced))

variable {transfer}

theorem length_body_of_shrunk (shrunk : transfer.HasShrunk) : transfer.body = transfer.content :=
  List.take_of_length_le (Nat.le_of_lt shrunk)

theorem length_body (whole : ¬ transfer.HasShrunk) : transfer.body.length = transfer.announced := by
  rw [body, List.length_take]
  exact Nat.min_eq_left (Nat.le_of_not_lt whole)

variable (transfer)

theorem reply_eq : transfer.call.reply transfer.request.isKeepAlive =
    .ok (.file transfer.head transfer.path) := by
  rw [HandlerCall.reply_eq, transfer.serves]
  rfl

theorem status_head : transfer.head.status = .ok := rfl

/-- The fields of the head can be sent. -/
theorem isField_head : ∀ field ∈ transfer.head.headers.toList, Head.IsField field := by
  rcases ResponseWriter.typedFor_eq transfer.request.isKeepAlive transfer.call.fields transfer.path
    with ⟨typed, same, origin⟩
  have fields : transfer.head.headers.toList = typed := by
    rw [head, HandlerCall.addAll_eq, same]
    rfl
  rw [fields]
  intro field member
  rcases origin field member with own | rfl
  · exact transfer.valid field own
  · exact MediaType.isField_ofPath transfer.path

/-- The head can be sent, if it has no more lines than the other side reads. -/
theorem sendable (few : (transfer.head.sentFields transfer.announced).length ≤ Head.maxFields) :
    transfer.head.HeadSendable transfer.announced :=
  ⟨by rw [status_head]; decide, by rw [status_head]; decide, transfer.isField_head, few⟩

/-! ## The side of the connection -/

/-- The delivery of the file to a peer that takes every write. -/
theorem deliver {files : Files} (there : files transfer.path = .ok transfer.file)
    {outbound : Outbound} (free : outbound.budget = none) :
    ∃ after, after.budget = none ∧ after.written = outbound.written ++ transfer.wire ∧
      Delivery.deliver files transfer.request.isKeepAlive transfer.call.settlingPanics outbound
          (transfer.call.reply transfer.request.isKeepAlive) =
        if transfer.HasShrunk then Delivery.failed after transfer.failure
        else ⟨after, some (.ok transfer.announced), .ok ()⟩ := by
  rcases outbound.write_free free (transfer.head.headWire transfer.announced) with
    ⟨between, takes, free', written⟩
  rcases StoredFile.copy_yields transfer.lasts free' with
    ⟨after, copied, free'', written'⟩
  refine ⟨after, free'', ?_, ?_⟩
  · rw [written', written, List.append_assoc]
    rfl
  · have sent : (StoredFile.yields transfer.file.reads).take transfer.announced = transfer.body := rfl
    rw [reply_eq, Delivery.deliver, Delivery.file, there]
    simp only [transfer.told, Delivery.content, takes, copied, sent]
    by_cases shrunk : transfer.HasShrunk
    · have less : transfer.content.length < transfer.announced := shrunk
      rw [length_body_of_shrunk shrunk, if_pos shrunk, if_pos less]
      rfl
    · rw [length_body shrunk, if_neg (Nat.lt_irrefl _), if_neg shrunk]

/-- What the promise of the transfer is settled with. -/
def outcome : Outcome Nat :=
  if transfer.HasShrunk then .error transfer.failure else .ok transfer.announced

/-- How the connection goes on after the transfer. -/
def phase : ConnectionPhase :=
  if transfer.call.settlingPanics then .ended .crashed
  else if transfer.HasShrunk then .ended (.failed transfer.failure)
  else if transfer.request.isKeepAlive then .reading else .ended .lastResponse

/-- The step in which the connection delivers the file. -/
theorem advance {connection : Connection} {surroundings : Connection.Surroundings}
    (replying : connection.phase = .replying transfer.request transfer.call)
    (free : connection.outbound.budget = none)
    (there : surroundings.files transfer.path = .ok transfer.file) :
    ∃ after, connection.advance? surroundings = some after ∧
      after.outbound.written = connection.outbound.written ++ transfer.wire ∧
      after.completions = connection.completions ++ [some transfer.outcome] ∧
      after.phase = transfer.phase := by
  rcases transfer.deliver there free with ⟨outbound, _, written, delivered⟩
  have step : connection.advance? surroundings =
      some (connection.reply surroundings.files transfer.request transfer.call) := by
    rw [Connection.advance?, replying]
  refine ⟨_, step, ?_⟩
  simp only [Connection.reply, delivered, outcome, phase]
  by_cases panics : transfer.call.settlingPanics = true
  · by_cases shrunk : transfer.HasShrunk
    · simp [panics, shrunk, Delivery.failed, Connection.finish, written]
    · simp [panics, shrunk, Connection.finish, written]
  · by_cases shrunk : transfer.HasShrunk
    · simp [panics, shrunk, Delivery.failed, Connection.finish, written]
    · by_cases keepAlive : transfer.request.isKeepAlive = true
      · simp [panics, shrunk, keepAlive, written]
      · simp [panics, shrunk, keepAlive, Connection.finish, written]

/-! ## The side of the reader -/

variable {transfer}

/-- What the peer is given for a file that has not shrunk is one response. -/
theorem delimits (whole : ¬ transfer.HasShrunk)
    (few : (transfer.head.sentFields transfer.announced).length ≤ Head.maxFields) :
    transfer.received.Delimits transfer.wire := by
  have length := length_body whole
  have sendable : (Answer.mk transfer.head transfer.body).IsSendable := by
    rw [Answer.IsSendable, length]
    exact transfer.sendable few
  have delimits := sendable.delimits
  rw [Answer.received, Answer.wire, length] at delimits
  exact delimits

/-- A file that has not shrunk is received as it was sent, whatever the connection brings behind it. -/
theorem resolves (whole : ¬ transfer.HasShrunk) {limit : Nat}
    (admits : Exchange.Admits limit transfer.head transfer.announced) {answer : Inbound}
    {more : Octets} (brings : answer.Brings (transfer.wire ++ more)) :
    (Exchange.run limit answer).outcome? = some (.ok (transfer.received.withBody transfer.body)) :=
  admits.delivers (transfer.sendable admits.few) (length_body whole) brings

/-- A file that has shrunk is never received, and the close behind it is reported. -/
theorem never_resolves (shrunk : transfer.HasShrunk) {limit : Nat} {answer : Inbound}
    (brings : answer.Brings transfer.wire) :
    (∀ response, (Exchange.run limit answer).outcome? ≠ some (.ok response)) ∧
      (Exchange.Admits limit transfer.head transfer.announced → answer.closed = true →
        (Exchange.run limit answer).outcome? = some (.error (.io (.closedEarly "mid-body")))) := by
  have size : transfer.body.length < transfer.announced := by
    rw [length_body_of_shrunk shrunk]
    exact shrunk
  constructor
  · intro response
    exact Exchange.never_resolves_short (by rw [status_head]; decide) (by rw [status_head]; decide)
      transfer.isField_head size brings response
  · intro admits closed
    rw [admits.outcome_short (transfer.sendable admits.few) size brings, if_pos closed]

end FileTransfer

/-- A peer that takes every write is given one head that announces the length that the file has told, and
behind it the content of the file up to that length.  If there is as much of it, the promise of the
transfer resolves with the length and the connection goes on as the request asks.  If there is less, the
promise is rejected, the connection ends, and the peer is given nothing more.  (If settling the promise
panics, the connection ends in either case.)  Whoever reads this, in whatever chunks, receives the content
in the first case, if the head is one whose body is read, and nothing in the second. -/
theorem Connection.files_keep_their_framing (transfer : FileTransfer) {connection : Connection}
    {surroundings : Surroundings}
    (replying : connection.phase = .replying transfer.request transfer.call)
    (free : connection.outbound.budget = none)
    (there : surroundings.files transfer.path = .ok transfer.file) :
    ∃ after, connection.advance? surroundings = some after ∧
      after.outbound.written = connection.outbound.written ++
        (transfer.head.headWire transfer.announced ++ transfer.content.take transfer.announced) ∧
      transfer.received.headers.getAll "content-length" = [Text.numeral transfer.announced] ∧
      (transfer.announced ≤ transfer.content.length →
        after.completions = connection.completions ++ [some (.ok transfer.announced)] ∧
        after.phase = (if transfer.call.settlingPanics then .ended .crashed
          else if transfer.request.isKeepAlive then .reading else .ended .lastResponse) ∧
        ((transfer.head.sentFields transfer.announced).length ≤ Head.maxFields →
          transfer.received.Delimits transfer.wire) ∧
        ∀ limit answer more, Exchange.Admits limit transfer.head transfer.announced →
          answer.Brings (transfer.wire ++ more) →
          (Exchange.run limit answer).outcome? =
              some (.ok (transfer.received.withBody (transfer.content.take transfer.announced))) ∧
            (transfer.content.length = transfer.announced →
              transfer.content.take transfer.announced = transfer.content)) ∧
      (transfer.content.length < transfer.announced →
        after.completions = connection.completions ++ [some (.error (Delivery.shrank transfer.path
          transfer.content.length transfer.announced))] ∧
        (∀ events : List Event, (events.foldl occur after).ending?.isSome = true ∧
          (events.foldl occur after).outbound.written = after.outbound.written) ∧
        ∀ limit answer, answer.Brings transfer.wire →
          (∀ response, (Exchange.run limit answer).outcome? ≠ some (.ok response)) ∧
          (Exchange.Admits limit transfer.head transfer.announced → answer.closed = true →
            (Exchange.run limit answer).outcome? =
              some (.error (.io (.closedEarly "mid-body"))))) := by
  rcases transfer.advance replying free there with ⟨after, step, written, settled, phase⟩
  rw [FileTransfer.outcome] at settled
  rw [FileTransfer.phase] at phase
  refine ⟨after, step, written, Response.getAll_headReceived _ _, ?_, ?_⟩
  · intro enough
    have whole : ¬ transfer.HasShrunk := Nat.not_lt_of_le enough
    rw [if_neg whole] at settled phase
    refine ⟨settled, phase, FileTransfer.delimits whole, ?_⟩
    intro limit answer more admits brings
    refine ⟨FileTransfer.resolves whole admits brings, ?_⟩
    intro unchanged
    exact List.take_of_length_le (Nat.le_of_eq unchanged)
  · intro less
    have shrunk : transfer.HasShrunk := less
    rw [if_pos shrunk] at settled phase
    refine ⟨settled, ?_, fun limit answer brings => FileTransfer.never_resolves shrunk brings⟩
    have ended : ∃ ending, after.phase = .ended ending := by
      rw [phase]
      split
      · exact ⟨_, rfl⟩
      · exact ⟨_, rfl⟩
    rcases ended with ⟨ending, ended⟩
    intro events
    rcases ended_occurAll events ended with ⟨ended', written', _, _⟩
    refine ⟨?_, written'⟩
    simp only [ending?, ended', Option.isSome_some]

/-! ## A file in two pieces -/

namespace Served

/-- A call that serves the file, with some fields. -/
def call (fields : List Field) : HandlerCall :=
  { HandlerCall.ofEnding (.serveFile "x.txt") with fields := fields }

/-- A file of five octets that tells some length. -/
def file (length : Nat) : StoredFile :=
  ⟨.ok length, [.ok (Octets.encode "he"), .ok (Octets.encode "llo")]⟩

def request : Request := ⟨.get, "/", none, .http11, .empty, []⟩

theorem lasts_file (length bound : Nat) : StoredFile.Lasts (file length).reads bound := by
  intro fault member
  simp only [file, List.mem_cons, List.not_mem_nil, reduceCtorEq, or_self] at member

def transfer (fields : List Field) (valid : ∀ field ∈ fields, Head.IsField field) (length : Nat) :
    FileTransfer :=
  ⟨request, call fields, "x.txt", file length, length, rfl, valid, rfl, lasts_file length length⟩

def surroundings (fields : List Field) (length : Nat) : Connection.Surroundings :=
  ⟨fun _ => call fields, fun _ => .ok (file length), false, fun _ => true⟩

/-- A connection whose handler has come back. -/
def connection (fields : List Field) (length : Nat) : Connection :=
  let step := .step (surroundings fields length)
  Connection.after 0 100 [.send (Octets.encode "GET / HTTP/1.1\r\n\r\n"), step, step, step]

/-- The fields of a call that tells the content type. -/
def typed : List Field := [("Content-Type", "text/plain")]

/-- The transfer of the file with these fields. -/
def typedTransfer (length : Nat) : FileTransfer := transfer typed (by decide) length

/-- The octets of a transfer as a client receives them, in two chunks. -/
def answer (transfer : FileTransfer) : Inbound :=
  .ofArrivals ([transfer.wire.take 20, transfer.wire.drop 20].map .octets)

theorem brings_answer (transfer : FileTransfer) : (answer transfer).Brings transfer.wire := by
  have brings := Inbound.brings_ofArrivals [transfer.wire.take 20, transfer.wire.drop 20]
  rw [List.flatten_cons, List.flatten_cons, List.flatten_nil, List.append_nil,
    List.take_append_drop] at brings
  exact brings

theorem admits {length : Nat} (either : length = 5 ∨ length = 9) :
    Exchange.Admits 200 (typedTransfer length).head length := by
  rcases either with rfl | rfl
  · exact ⟨by decide, by decide, by decide +kernel, by decide +kernel⟩
  · exact ⟨by decide, by decide, by decide +kernel, by decide +kernel⟩

end Served

/-- A file that tells five is received, and one that tells nine is reported on both sides. -/
theorem Connection.five_octets_of_five_and_of_nine :
    (∃ after, (Served.connection Served.typed 5).advance? (Served.surroundings Served.typed 5) =
        some after ∧
      after.completions = [some (.ok 5)] ∧ after.phase = .reading ∧
      (Exchange.run 200 (Served.answer (Served.typedTransfer 5))).outcome? =
        some (.ok ((Served.typedTransfer 5).received.withBody (Octets.encode "hello")))) ∧
    ∃ after, (Served.connection Served.typed 9).advance? (Served.surroundings Served.typed 9) =
        some after ∧
      after.completions = [some (.error (Delivery.shrank "x.txt" 5 9))] ∧
      after.ending?.isSome = true ∧
      (Exchange.run 200 (Served.answer (Served.typedTransfer 9))).outcome? =
        some (.error (.io (.closedEarly "mid-body"))) := by
  constructor
  · rcases @files_keep_their_framing (Served.typedTransfer 5) (Served.connection Served.typed 5)
      (Served.surroundings Served.typed 5) rfl rfl rfl with ⟨after, step, _, _, whole, _⟩
    rcases whole (by decide) with ⟨settled, phase, _, received⟩
    refine ⟨after, step, settled, phase, ?_⟩
    exact (received 200 _ [] (Served.admits (Or.inl rfl)) (by
      rw [List.append_nil]
      exact Served.brings_answer _)).1
  · rcases @files_keep_their_framing (Served.typedTransfer 9) (Served.connection Served.typed 9)
      (Served.surroundings Served.typed 9) rfl rfl rfl with ⟨after, step, _, _, _, short⟩
    rcases short (by decide) with ⟨settled, ended, never⟩
    refine ⟨after, step, settled, (ended []).1, ?_⟩
    exact (never 200 _ (Served.brings_answer _)).2 (Served.admits (Or.inr rfl)) rfl

namespace Served

/-- What a connection has written for the file, and what its promises have come to. -/
def given (fields : List Field) (length : Nat) : Option (Octets × List (Option (Outcome Nat))) :=
  ((connection fields length).advance? (surroundings fields length)).map
    fun after => (after.outbound.written, after.completions)

/-- The fields of a call that says more than the content type. -/
def chunked : List Field := ("Transfer-Encoding", "chunked") :: typed

/-- The fields of a call that says too much. -/
def many : List Field := List.replicate 62 ("a", "b") ++ typed

end Served

/-- A file that has five octets and tells five is sent, and the client does not receive it for the fields
that the handler has added: one that mentions chunks, or many that mention nothing.  A client with a small
limit refuses the head of a file that has shrunk. -/
theorem Connection.unchanged_files_are_refused :
    (∃ valid : ∀ field ∈ Served.chunked, Head.IsField field,
      let transfer := Served.transfer Served.chunked valid 5
      transfer.content.length = 5 ∧ transfer.wire.length ≤ 200 ∧
      Served.given Served.chunked 5 = some (transfer.wire, [some (.ok 5)]) ∧
      (Exchange.run 200 (Served.answer transfer)).outcome? =
        some (.error (.protocol "chunked responses are not supported"))) ∧
    (∃ valid : ∀ field ∈ Served.many, Head.IsField field,
      let transfer := Served.transfer Served.many valid 5
      transfer.content.length = 5 ∧ transfer.wire.length ≤ 500 ∧
      Served.given Served.many 5 = some (transfer.wire, [some (.ok 5)]) ∧
      (Exchange.run 500 (Served.answer transfer)).outcome? =
        some (.error (.protocol "HTTP parse error: too many headers"))) ∧
    (Served.typedTransfer 9).HasShrunk ∧
      (Exchange.run 90 (Served.answer (Served.typedTransfer 9))).outcome? =
        some (.error (.protocol "response body of 9 bytes is too large")) := by
  refine ⟨⟨by decide, by decide, by decide +kernel, ?_, ?_⟩,
    ⟨by decide, by decide, by decide +kernel, ?_, ?_⟩, by decide, ?_⟩
  · decide +kernel
  · decide +kernel
  · decide +kernel
  · decide +kernel
  · decide +kernel

end PromiseHttp
