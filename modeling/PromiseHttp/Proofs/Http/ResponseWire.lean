import PromiseHttp.Proofs.Http.HeadParts

namespace PromiseHttp

/-!
# Responses are read back

A response on the wire is read as a response with the same status code and with the body behind it.
Its fields are those of the response that do not concern the framing, then a content type, if there
is a body and the response says nothing about it, then one `Connection` field and one
`Content-Length` field, both of which are true.  So no field of a response can put its framing in
doubt.
-/

namespace Headers

theorem named_of_named {name other : String} {field : Field} (bears : named name field = true)
    (different : Text.sameLetters name other = false) : named other field = false := by
  rw [← Bool.not_eq_true]
  intro both
  have same := (Text.sameLetters_iff.mp bears).symm.trans (Text.sameLetters_iff.mp both)
  rw [Text.sameLetters_iff.mpr same] at different
  cases different

/-- Dropping the fields of one name leaves those of another where they are. -/
theorem filter_others {name other : String} (different : Text.sameLetters name other = false)
    (fields : List Field) :
    (fields.filter fun field => !named other field).filter (named name) =
      fields.filter (named name) := by
  rw [List.filter_filter]
  refine List.filter_congr ?_
  intro field member
  cases bears : named name field with
  | true => rw [named_of_named bears different, Bool.not_false, Bool.and_true]
  | false => rw [Bool.false_and]

theorem find?_others {name other : String} (different : Text.sameLetters name other = false)
    (fields : List Field) :
    (fields.filter fun field => !named other field).find? (named name) =
      fields.find? (named name) := by
  rw [← List.head?_filter, filter_others different, List.head?_filter]

end Headers

namespace Response

/-! ## Written responses -/

/-- The fields that are written in front of a body of the given length. -/
def sentFields (response : Response) (length : Nat) : List Field :=
  response.writtenHeaders.toList ++ [("Content-Length", Text.numeral length)]

/-- A head that can be sent in front of a body of the given length. -/
structure HeadSendable (response : Response) (length : Nat) : Prop where
  least : 100 ≤ response.status.code
  most : response.status.code ≤ 999
  fields : ∀ field ∈ response.headers.toList, Head.IsField field
  few : (response.sentFields length).length ≤ Head.maxFields

/-- A response that can be sent. -/
structure Sendable (response : Response) : Prop where
  least : 100 ≤ response.status.code
  most : response.status.code ≤ 999
  fields : ∀ field ∈ response.headers.toList, Head.IsField field
  few : (response.typed.sentFields response.body.length).length ≤ Head.maxFields

/-- A head as the other side reads it. -/
def headReceived (response : Response) (length : Nat) : Response :=
  ofHead ⟨.http11, response.status.code, (response.sentFields length).map Head.raw⟩

theorem headText_eq (response : Response) (length : Nat) :
    response.headText length =
      response.statusLine ++ Headers.lines ⟨response.sentFields length⟩ ++ "\r\n" := by
  have lengthLine : Headers.lines ⟨[("Content-Length", Text.numeral length)]⟩ =
      "Content-Length: " ++ Text.numeral length ++ "\r\n" := by
    simp only [Headers.lines, List.map_cons, List.map_nil, String.join_cons, String.join_nil,
      String.append_empty]
    rfl
  have lineEnds : "\r\n" ++ "\r\n" = "\r\n\r\n" := by decide
  unfold headText sentFields
  rw [Head.lines_append, lengthLine, ← lineEnds]
  simp only [String.append_assoc]

/-- The octets of the line that begins a response. -/
theorem encode_statusLine (response : Response) (rest : Octets) :
    Octets.encode response.statusLine ++ rest =
      Head.Version.http11.spelling ++ Head.space ::
        (Octets.encode (Text.numeral response.status.code) ++ Head.space ::
          (Octets.encode response.status.reason ++ Head.cr :: Head.lf :: rest)) := by
  have version : Octets.encode "HTTP/1.1 " = Head.Version.http11.spelling ++ [Head.space] := by
    decide
  have blank : Octets.encode " " = [Head.space] := by decide
  have lineEnd : Octets.encode "\r\n" = [Head.cr, Head.lf] := by decide
  simp only [statusLine, Octets.encode_append, version, blank, lineEnd, List.append_assoc,
    List.cons_append, List.nil_append]

/-- A field that is written is one of the response or one of the framing. -/
theorem isField_sentFields {response : Response}
    (fit : ∀ field ∈ response.headers.toList, Head.IsField field) (length : Nat) :
    ∀ field ∈ response.sentFields length, Head.IsField field := by
  have connection : Head.IsField ("Connection", response.connectionOption) := by
    unfold connectionOption
    split <;> decide
  intro field member
  rcases List.mem_append.mp member with written | length
  · rcases List.mem_append.mp (List.mem_filter.mp written).1 with own | supplied
    · exact fit field (List.mem_filter.mp own).1
    · rw [List.mem_singleton.mp supplied]
      exact connection
  · rw [List.mem_singleton.mp length]
    exact Head.isField_length _

theorem status_typed (response : Response) : response.typed.status = response.status := by
  unfold typed
  split <;> rfl

theorem keepAlive_typed (response : Response) : response.typed.keepAlive = response.keepAlive := by
  unfold typed
  split <;> rfl

/-- The content type that is supplied can be sent as well. -/
theorem Sendable.head {response : Response} (sendable : response.Sendable) :
    response.typed.HeadSendable response.body.length := by
  refine ⟨?_, ?_, ?_, sendable.few⟩
  · rw [status_typed]
    exact sendable.least
  · rw [status_typed]
    exact sendable.most
  · have supplied : Head.IsField ("Content-Type", "text/plain; charset=utf-8") := by decide
    unfold typed
    split
    · exact sendable.fields
    · intro field member
      rcases List.mem_append.mp member with own | new
      · exact sendable.fields field own
      · rw [List.mem_singleton.mp new]
        exact supplied

/-- The status line is read, and the fields are read behind it. -/
theorem readResponse_headWire {response : Response} (least : 100 ≤ response.status.code)
    (most : response.status.code ≤ 999) (length : Nat) (body : Octets) :
    Head.readResponse (response.headWire length ++ body) =
      (Head.readFields Head.maxFields
        (Octets.encode (Headers.lines ⟨response.sentFields length⟩) ++
          Head.cr :: Head.lf :: body)).map
            fun fields => ⟨.http11, response.status.code, fields⟩ := by
  have lineEnd : Octets.encode "\r\n" = [Head.cr, Head.lf] := by decide
  have begins : ∀ rest, Head.skipEmptyLines (Head.Version.http11.spelling ++ rest) =
      .found () (Head.Version.http11.spelling ++ rest) := by
    intro rest
    have start : Head.Version.http11.spelling = 72 :: [84, 84, 80, 47, 49, 46, 49] := by decide
    rw [start, List.cons_append]
    exact Head.skipEmptyLines_start (by decide) (by decide) _
  have spaced : ∀ rest, Head.readSpace (Head.space :: rest) = .found () rest := fun _ => rfl
  unfold headWire Head.readResponse
  rw [headText_eq, Octets.encode_append, Octets.encode_append, List.append_assoc, List.append_assoc,
    encode_statusLine, begins, Scan.andThen_found, Head.readVersion_spelling, Scan.andThen_found,
    spaced, Scan.andThen_found, Head.readCode_numeral least most,
    Scan.andThen_found, Head.readReason_text (Head.reason_text _), Scan.andThen_found, lineEnd,
    List.cons_append, List.cons_append, List.nil_append]

/-- What is written is read as the head of the response, with the body behind it. -/
theorem readResponse_wire {response : Response} {length : Nat}
    (sendable : response.HeadSendable length) (body : Octets) :
    Head.readResponse (response.headWire length ++ body) =
      .found ⟨.http11, response.status.code, (response.sentFields length).map Head.raw⟩ body := by
  rw [readResponse_headWire sendable.least sendable.most,
    Head.readFields_lines (isField_sentFields sendable.fields length) sendable.few]
  rfl

/-- What is written is read as the head, and the body begins behind it. -/
theorem parse_wire {response : Response} {length : Nat} (sendable : response.HeadSendable length)
    (body : Octets) :
    parse (response.headWire length ++ body) =
      .ok (response.headReceived length, (response.headWire length).length) := by
  have length : (response.headWire length ++ body).length - body.length =
      (response.headWire length).length := by
    rw [List.length_append, Nat.add_sub_cancel]
  unfold parse
  rw [readResponse_wire sendable, ← length]
  rfl

/-- A head with too many lines is refused, whatever length it announces. -/
theorem parse_many {response : Response} {length : Nat} (least : 100 ≤ response.status.code)
    (most : response.status.code ≤ 999)
    (fit : ∀ field ∈ response.headers.toList, Head.IsField field)
    (many : Head.maxFields < (response.sentFields length).length) (body : Octets) :
    parse (response.headWire length ++ body) = .error (.malformed .tooManyFields) := by
  have refused : Head.readResponse (response.headWire length ++ body) =
      .refused .tooManyFields := by
    rw [readResponse_headWire least most,
      Head.readFields_many (isField_sentFields fit length) many]
    rfl
  rw [parse, refused]

/-! ## Received responses -/

theorem headers_headReceived (response : Response) (length : Nat) :
    (response.headReceived length).headers = ⟨response.sentFields length⟩ :=
  Head.ofOctets_raw (response.sentFields length)

theorem named_length (value : String) :
    Headers.named "content-length" ("Content-Length", value) = true := by
  simp only [Headers.named]
  decide

/-- The written headers announce no length. -/
theorem not_named_length_writtenHeaders (response : Response) :
    ∀ field ∈ response.writtenHeaders.toList, ¬ Headers.named "content-length" field = true := by
  intro field member named
  have kept := (List.mem_filter.mp member).2
  rw [named] at kept
  cases kept

/-- The announced length is the length that the head was written for. -/
theorem contentLength_headReceived (response : Response) (length : Nat) :
    (response.headReceived length).headers.get? "content-length" = some (Text.numeral length) := by
  have others : response.writtenHeaders.toList.find? (Headers.named "content-length") = none :=
    List.find?_eq_none.mpr response.not_named_length_writtenHeaders
  rw [headers_headReceived]
  simp only [Headers.get?, sentFields, List.find?_append, others, List.find?_cons, named_length,
    Option.none_or, Option.map_some]

/-- The announced length is announced once. -/
theorem getAll_headReceived (response : Response) (length : Nat) :
    (response.headReceived length).headers.getAll "content-length" = [Text.numeral length] := by
  have others : response.writtenHeaders.toList.filter (Headers.named "content-length") = [] :=
    List.filter_eq_nil_iff.mpr response.not_named_length_writtenHeaders
  rw [headers_headReceived]
  simp only [Headers.getAll, sentFields, List.filter_append, others, List.filter_cons, named_length,
    if_true, List.filter_nil, List.nil_append, List.map_cons, List.map_nil]

/-- The first field of a name that does not concern the framing is where it was. -/
theorem get?_headReceived {name : String} (response : Response) (length : Nat)
    (noConnection : Text.sameLetters name "Connection" = false)
    (noLength : Text.sameLetters name "content-length" = false) :
    (response.headReceived length).headers.get? name = response.headers.get? name := by
  have apart : ∀ value, Headers.named name ("Connection", value) = false := by
    intro value
    rw [← Bool.not_eq_true]
    intro bears
    exact Bool.false_ne_true (noConnection.symm.trans
      (Text.sameLetters_iff.mpr (Text.sameLetters_iff.mp bears).symm))
  have apart' : ∀ value, Headers.named name ("Content-Length", value) = false := by
    intro value
    rw [← Bool.not_eq_true]
    intro bears
    have folded : Text.fold "Content-Length" = Text.fold "content-length" := by decide
    exact Bool.false_ne_true (noLength.symm.trans
      (Text.sameLetters_iff.mpr ((Text.sameLetters_iff.mp bears).symm.trans folded)))
  rw [headers_headReceived]
  simp only [Headers.get?, sentFields, writtenHeaders, Headers.toList_remove, Headers.toList_set,
    List.find?_append, Headers.find?_others noLength, Headers.find?_others noConnection,
    List.find?_cons, apart, apart', List.find?_nil, Option.or_none]

/-- The fields that do not concern the framing. -/
def ownFields (response : Response) : List Field :=
  response.headers.toList.filter fun field =>
    !Headers.named "Connection" field && !Headers.named "content-length" field

/-- The content type that is supplied. -/
def suppliedType (response : Response) : List Field :=
  if response.body.isEmpty || response.headers.contains "content-type" then []
  else [("Content-Type", "text/plain; charset=utf-8")]

/-- The fields of a response on the wire. -/
theorem sentFields_typed (response : Response) (length : Nat) :
    response.typed.sentFields length =
      response.ownFields ++ response.suppliedType ++
        [("Connection", response.connectionOption), ("Content-Length", Text.numeral length)] := by
  have framing : ∀ value, Headers.named "content-length" ("Connection", value) = false := by
    intro value
    simp only [Headers.named]
    decide
  have typing : ∀ value, Headers.named "content-length" ("Content-Type", value) = false := by
    intro value
    simp only [Headers.named]
    decide
  have typing' : ∀ value, Headers.named "Connection" ("Content-Type", value) = false := by
    intro value
    simp only [Headers.named]
    decide
  unfold sentFields writtenHeaders typed ownFields suppliedType
  split
  · simp [connectionOption, List.filter_append, List.filter_filter, framing, Bool.and_comm]
  · simp [connectionOption, header, List.filter_append, List.filter_filter, framing, typing,
      typing', Bool.and_comm]
    rfl

/-- The other side keeps the connection if the response says so. -/
theorem keepAlive_headReceived (response : Response) (length : Nat) :
    (response.headReceived length).keepAlive = response.keepAlive := by
  have bears : ∀ value, Headers.named "connection" ("Connection", value) = true := by
    intro value
    simp only [Headers.named]
    decide
  have others : (response.headers.toList.filter fun field =>
      !Headers.named "Connection" field).find? (Headers.named "connection") = none := by
    rw [List.find?_eq_none]
    intro field member named
    have kept := (List.mem_filter.mp member).2
    have folded : Text.fold "connection" = Text.fold "Connection" := by decide
    have same : Headers.named "Connection" field = true :=
      Text.sameLetters_iff.mpr ((Text.sameLetters_iff.mp named).trans folded)
    rw [same] at kept
    cases kept
  have found : (response.headReceived length).headers.get? "connection" =
      some response.connectionOption := by
    have different : Text.sameLetters "connection" "content-length" = false := by decide
    rw [headers_headReceived]
    simp only [Headers.get?, sentFields, writtenHeaders, Headers.toList_remove, Headers.toList_set,
      List.find?_append, Headers.find?_others different, others, List.find?_cons, bears,
      Option.none_or, Option.some_or, Option.map_some]
  have kept : (response.headReceived length).keepAlive =
      keepsAlive (response.headReceived length).headers .http11 := rfl
  rw [kept, keepsAlive, found]
  unfold connectionOption
  cases response.keepAlive <;> decide

/-- A head is received with the status that its code stands for. -/
theorem headReceived_eq (response : Response) (length : Nat) :
    response.headReceived length =
      ⟨.ofCode response.status.code, ⟨response.sentFields length⟩, [], response.keepAlive⟩ := by
  rw [← keepAlive_headReceived response length, ← headers_headReceived response length]
  rfl

end Response
end PromiseHttp
