import PromiseHttp.Proofs.Http.HeadParts

namespace PromiseHttp

/-!
# Requests are read back

A request that is written for a host and read at the other side is the same request: with the same
method name, target and body, and with its fields between those that are supplied for it.  The
method is named again by its spelling, and the target is split again, which changes nothing when it
was split the first time.
-/

namespace Head

/-- A text that may be the target of a request. -/
def IsTarget (text : String) : Prop :=
  text ≠ "" ∧ ∀ octet ∈ Octets.encode text, isTargetOctet octet = true

instance (text : String) : Decidable (IsTarget text) :=
  @instDecidableAnd _ _ inferInstance (List.decidableBAll _ _)

end Head

namespace Request

/-! ## Targets -/

/-- A target is made of its path and, behind a question mark, its query. -/
theorem join_splitTarget (target : String) :
    (match (splitTarget target).2 with
      | some query => (splitTarget target).1 ++ "?" ++ query
      | none => (splitTarget target).1) = target := by
  have whole := List.takeWhile_append_dropWhile (p := (· != '?')) (l := target.toList)
  unfold splitTarget
  cases behind : target.toList.dropWhile (· != '?') with
  | nil =>
      rw [behind, List.append_nil] at whole
      simp only [behind, whole, String.ofList_toList]
  | cons mark query =>
      have marked : mark = '?' := by
        have first := List.head?_dropWhile_not (· != '?') target.toList
        rw [behind] at first
        simpa using first
      subst marked
      rw [behind] at whole
      have sign : String.ofList ['?'] = "?" := by decide
      simp only [behind]
      rw [← sign, ← String.ofList_append, ← String.ofList_append, List.append_assoc,
        List.singleton_append, whole, String.ofList_toList]

theorem resource_new (method : Method) (target : String) :
    (new method target).resource = rooted target := join_splitTarget (rooted target)

/-- The path of a target ends in front of its first question mark. -/
theorem not_mem_splitTarget (target : String) : '?' ∉ (splitTarget target).1.toList := by
  have path : (splitTarget target).1 = String.ofList (target.toList.takeWhile (· != '?')) := by
    unfold splitTarget
    dsimp only
    split <;> rfl
  intro member
  rw [path, String.toList_ofList] at member
  have unmarked := List.all_eq_true.mp List.all_takeWhile '?' member
  exact absurd unmarked (by decide)

theorem rooted_eq (target : String) :
    rooted target = if target.toList.head? = some '/' then target else "/" ++ target := by
  unfold rooted
  split
  · rename_i rest starts
    rw [starts, List.head?_cons, if_pos rfl]
  · rename_i apart
    have different : target.toList.head? ≠ some '/' := by
      intro slash
      obtain ⟨rest, starts⟩ := List.head?_eq_some_iff.mp slash
      exact apart rest starts
    rw [if_neg different]

/-- A slash in front makes a target of any text that may stand in one. -/
theorem isTarget_rooted {target : String}
    (octets : ∀ octet ∈ Octets.encode target, Head.isTargetOctet octet = true) :
    Head.IsTarget (rooted target) := by
  have slash : Octets.encode "/" = [47] := by decide
  have slashed : Head.IsTarget ("/" ++ target) := by
    refine ⟨?_, ?_⟩
    · intro nothing
      have encoded := congrArg Octets.encode nothing
      rw [Octets.encode_append, slash] at encoded
      cases encoded
    · intro octet member
      rw [Octets.encode_append, slash] at member
      rcases List.mem_cons.mp member with rfl | member
      · decide
      · exact octets octet member
  rw [rooted_eq]
  split
  · rename_i slash
    refine ⟨?_, octets⟩
    rintro rfl
    cases slash
  · exact slashed

/-! ## Written requests -/

/-- The fields that are written for a host. -/
def sentFields (request : Request) (host : String) : List Field :=
  (if request.headers.contains "host" then [] else [("Host", host)]) ++ request.headers.toList ++
    (if request.headers.contains "content-length" then []
      else [("Content-Length", Text.numeral request.body.length)])

/-- A request that can be sent to a host. -/
structure Sendable (request : Request) (host : String) : Prop where
  method : Head.IsToken request.method.name
  target : Head.IsTarget request.resource
  fields : ∀ field ∈ request.sentFields host, Head.IsField field
  few : (request.sentFields host).length ≤ Head.maxFields

/-- A request as the other side reads it. -/
def received (request : Request) (host : String) : Request :=
  ofHead ⟨request.method.name, request.resource, request.version,
    (request.sentFields host).map Head.raw⟩ request.body

theorem headText_eq (request : Request) (host : String) :
    request.headText host =
      request.startLine ++ Headers.lines ⟨request.sentFields host⟩ ++ "\r\n" := by
  have line : ∀ (there : Bool) (name value : String),
      Headers.lines ⟨if there then [] else [(name, value)]⟩ =
        if there then "" else name ++ ": " ++ value ++ "\r\n" := by
    intro there name value
    cases there with
    | true => rfl
    | false =>
        simp only [Headers.lines, Bool.false_eq_true, if_false, List.map_cons, List.map_nil,
          String.join_cons, String.join_nil, String.append_empty]
  have hostName : "Host" ++ ": " = "Host: " := by decide
  have lengthName : "Content-Length" ++ ": " = "Content-Length: " := by decide
  rw [headText, sentFields, Head.lines_append, Head.lines_append, line, line, hostName, lengthName]
  simp only [String.append_assoc]

/-- The octets of the line that begins a request. -/
theorem encode_startLine (request : Request) (rest : Octets) :
    Octets.encode request.startLine ++ rest =
      Octets.encode request.method.name ++ Head.space :: (Octets.encode request.resource ++
        Head.space :: (request.version.spelling ++ Head.cr :: Head.lf :: rest)) := by
  have blank : Octets.encode " " = [Head.space] := by decide
  have version : Octets.encode " HTTP/1." = Head.space :: Octets.encode "HTTP/1." := by decide
  have lineEnd : Octets.encode "\r\n" = [Head.cr, Head.lf] := by decide
  rw [startLine, Octets.encode_append, Octets.encode_append, Octets.encode_append,
    Octets.encode_append, Octets.encode_append, blank, version, lineEnd, ← Head.encode_version]
  simp only [List.append_assoc, List.cons_append, List.nil_append]

/-- What is written for a host is read as the head of the request, with the body behind it. -/
theorem readRequest_wire {request : Request} {host : String} (sendable : request.Sendable host) :
    Head.readRequest (request.wire host) =
      .found ⟨request.method.name, request.resource, request.version,
        (request.sentFields host).map Head.raw⟩ request.body := by
  have lineEnd : Octets.encode "\r\n" = [Head.cr, Head.lf] := by decide
  have noToken : Head.isTokenOctet Head.space = false := by decide
  have noTarget : Head.isTargetOctet Head.space = false := by decide
  unfold wire Head.readRequest
  rw [headText_eq, Octets.encode_append, Octets.encode_append, List.append_assoc, List.append_assoc,
    encode_startLine, Head.skipEmptyLines_token sendable.method, Scan.andThen_found,
    Head.readWord_stop sendable.method.1 sendable.method.2 noToken, Scan.andThen_found,
    Head.readWord_stop sendable.target.1 sendable.target.2 noTarget, Scan.andThen_found,
    Head.readVersion_spelling, Scan.andThen_found, Head.readLineEnd_crlf, Scan.andThen_found,
    lineEnd, List.cons_append, List.cons_append, List.nil_append,
    Head.readFields_lines sendable.fields sendable.few]
  rfl

/-- What is written for a host is read as the request, and its body begins behind the head. -/
theorem parse_wire {request : Request} {host : String} (sendable : request.Sendable host) :
    parse (request.wire host) =
      .ok (request.received host, (Octets.encode (request.headText host)).length) := by
  have length : (request.wire host).length - request.body.length =
      (Octets.encode (request.headText host)).length := by
    rw [wire, List.length_append, Nat.add_sub_cancel]
  unfold parse
  rw [readRequest_wire sendable, ← length]
  rfl

/-! ## Received requests -/

theorem headers_received (request : Request) (host : String) :
    (request.received host).headers = ⟨request.sentFields host⟩ :=
  Head.ofOctets_raw (request.sentFields host)

/-- A target that was split once is split again in the same way. -/
theorem received_eq {request : Request} {host target : String}
    (split : (request.path, request.query) = splitTarget target) :
    request.received host =
      { request with
        method := .ofName request.method.name
        headers := ⟨request.sentFields host⟩ } := by
  have same : request.resource = target := by
    have joined := join_splitTarget target
    rw [← split] at joined
    exact joined
  unfold received ofHead
  rw [Head.ofOctets_raw, same, ← split]

/-- A single value that is readable announces what it says. -/
theorem agreedLength_singleton {value : String} {length : Nat}
    (readable : Text.readNumeral Text.countBound (Text.trim value) = some length) :
    agreedLength none [value] = .ok (some length) := by
  rw [agreedLength.eq_def]
  dsimp only
  rw [readable]
  dsimp only
  rw [agreedLength.eq_def]

/-- The announced length is the length of the body, unless the request announces one itself. -/
theorem bodyLength_received {request : Request} {host : String}
    (unannounced : request.headers.contains "content-length" = false)
    (countable : request.body.length < Text.countBound) :
    (request.received host).bodyLength = .ok request.body.length := by
  have noHost : Headers.named "content-length" ("Host", host) = false := by
    simp only [Headers.named]
    decide
  have announces : Headers.named "content-length"
      ("Content-Length", Text.numeral request.body.length) = true := by
    simp only [Headers.named]
    decide
  have others : request.headers.toList.filter (Headers.named "content-length") = [] := by
    rw [List.filter_eq_nil_iff]
    intro field member named
    exact Bool.false_ne_true (unannounced.symm.trans (Headers.contains_iff.mpr ⟨field, member, named⟩))
  have supplied : (if request.headers.contains "host" = true then []
      else [("Host", host)]).filter (Headers.named "content-length") = [] := by
    split
    · rfl
    · exact List.filter_cons_of_neg (Bool.eq_false_iff.mp noHost)
  have lengths : (request.received host).headers.getAll "content-length" =
      [Text.numeral request.body.length] := by
    rw [headers_received]
    simp only [Headers.getAll, sentFields, unannounced, Bool.false_eq_true, if_false]
    rw [List.filter_append, List.filter_append, supplied, others, List.filter_cons_of_pos announces]
    rfl
  have readable : Text.readNumeral Text.countBound (Text.trim (Text.numeral request.body.length)) =
      some request.body.length := by
    rw [Text.trim_numeral, Text.readNumeral_numeral countable]
  simp only [bodyLength, lengths, agreedLength_singleton readable, Option.getD_some]

/-- The other side keeps the connection if the request asks for it. -/
theorem isKeepAlive_received (request : Request) (host : String) :
    (request.received host).isKeepAlive = request.isKeepAlive := by
  have noHost : Headers.named "connection" ("Host", host) = false := by
    simp only [Headers.named]
    decide
  have noLength : Headers.named "connection"
      ("Content-Length", Text.numeral request.body.length) = false := by
    simp only [Headers.named]
    decide
  have found : (request.received host).headers.get? "connection" =
      request.headers.get? "connection" := by
    rw [headers_received]
    simp only [Headers.get?, sentFields, List.find?_append]
    split <;> split <;> simp [noHost, noLength]
  unfold isKeepAlive keepsAlive
  rw [found]
  rfl

end Request
end PromiseHttp
