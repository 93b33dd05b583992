import PromiseHttp.Http.Request
import PromiseHttp.Proofs.Http.HeadParts
import PromiseHttp.Proofs.Text.Counts

namespace PromiseHttp

/-!
# Lines that state a length

How long the body of a request is stands in the lines of its head that are named `Content-Length`, in
whatever case.  The length is told if all their values denote one count of 64 bits, and where there is
no such line the body is empty.  `Head.Unreadable` says of the lines, as they stand on the wire, that
their texts do not tell the length; it is exactly then that `Request.bodyLength` is a fault.

Both look at values that are text only.  A value that is not text denotes no count either and ought to be
a fault, but it has been lost by the time a length is looked for.
-/

namespace Head

/-- One of the lines states a length with this text. -/
def StatesLength (fields : List RawField) (text : String) : Prop :=
  ∃ name, Text.sameLetters name "content-length" = true ∧ raw (name, text) ∈ fields

/-- The first line of the name whose value is text has this text. -/
def FirstText (name : String) (fields : List RawField) (text : String) : Prop :=
  ∃ before bearer behind, fields = before ++ raw (bearer, text) :: behind ∧
    Text.sameLetters bearer name = true ∧
    ∀ other earlier, Text.sameLetters other name = true → raw (other, earlier) ∉ before

/-- One of the texts that state a length denotes no count of 64 bits, or two of them denote different
counts. -/
def Unreadable (fields : List RawField) : Prop :=
  (∃ text, StatesLength fields text ∧ ∀ count < Text.countBound, ¬ Text.Denotes text count) ∨
    ∃ text other count different, StatesLength fields text ∧ StatesLength fields other ∧
      Text.Denotes text count ∧ Text.Denotes other different ∧ count ≠ different

/-- All texts that state a length denote this one, and where there are none it is nought. -/
def Tells (fields : List RawField) (length : Nat) : Prop :=
  (∀ text, StatesLength fields text → Text.Denotes text length) ∧
    ((∀ text, ¬ StatesLength fields text) → length = 0)

end Head

/-- The texts of a name are those of the lines that bear it. -/
theorem Headers.mem_getAll_ofOctets {fields : List Head.RawField} {name text : String} :
    text ∈ (Headers.ofOctets fields).getAll name ↔
      ∃ bearer, Text.sameLetters bearer name = true ∧ Head.raw (bearer, text) ∈ fields := by
  simp only [getAll, ofOctets, List.mem_map, List.mem_filter, List.mem_filterMap, named]
  constructor
  · rintro ⟨⟨bearer, value⟩, ⟨⟨⟨octets, octets'⟩, member, read⟩, bears⟩, rfl⟩
    refine ⟨bearer, bears, ?_⟩
    cases decoded : Octets.decode? octets with
    | none => simp only [decoded, reduceCtorEq] at read
    | some first =>
        cases decoded' : Octets.decode? octets' with
        | none => simp only [decoded, decoded', reduceCtorEq] at read
        | some second =>
            simp only [decoded, decoded', Option.some.injEq, Prod.mk.injEq] at read
            rcases read with ⟨rfl, rfl⟩
            rw [Head.raw, Octets.encode_of_decode? decoded, Octets.encode_of_decode? decoded']
            exact member
  · rintro ⟨bearer, bears, member⟩
    refine ⟨(bearer, text), ⟨⟨Head.raw (bearer, text), member, ?_⟩, bears⟩, rfl⟩
    simp only [Head.raw, Octets.decode?_encode]

theorem Headers.get?_eq_head? (headers : Headers) (name : String) :
    headers.get? name = (headers.getAll name).head? := by
  rw [get?, getAll, List.head?_map, List.head?_filter]

theorem Headers.getAll_ofOctets_append (front behind : List Head.RawField) (name : String) :
    (ofOctets (front ++ behind)).getAll name =
      (ofOctets front).getAll name ++ (ofOctets behind).getAll name := by
  simp only [getAll, ofOctets, List.filterMap_append, List.filter_append, List.map_append]

/-- The value that is found first is that of the first line whose value is text. -/
theorem Headers.get?_of_firstText {name : String} {fields : List Head.RawField} {text : String}
    (first : Head.FirstText name fields text) : (ofOctets fields).get? name = some text := by
  rcases first with ⟨before, bearer, behind, rfl, bears, nothing⟩
  have none_before : (ofOctets before).getAll name = [] := by
    apply List.eq_nil_iff_forall_not_mem.mpr
    intro earlier member
    rcases mem_getAll_ofOctets.mp member with ⟨other, bears', there⟩
    exact nothing other earlier bears' there
  have there : Headers.named name (bearer, text) = true := bears
  rw [get?_eq_head?, getAll_ofOctets_append, none_before, List.nil_append]
  simp only [getAll, ofOctets, Head.raw, List.filterMap_cons, Octets.decode?_encode,
    List.filter_cons_of_pos there, List.map_cons, List.head?_cons]

/-- A value that is found first is that of the first line whose value is text. -/
theorem Headers.firstText_of_get? {name : String} {fields : List Head.RawField} {text : String}
    (found : (ofOctets fields).get? name = some text) : Head.FirstText name fields text := by
  rw [get?_eq_head?] at found
  induction fields with
  | nil => cases found
  | cons field fields inductionHypothesis =>
      rw [← List.singleton_append, getAll_ofOctets_append] at found
      cases own : (ofOctets [field]).getAll name with
      | nil =>
          rw [own, List.nil_append] at found
          rcases inductionHypothesis found with ⟨before, bearer, behind, rfl, bears, nothing⟩
          refine ⟨field :: before, bearer, behind, rfl, bears, fun other earlier bears' member => ?_⟩
          rcases List.mem_cons.mp member with same | among
          · have there := mem_getAll_ofOctets.mpr ⟨other, bears', List.mem_singleton.mpr same⟩
            rw [own] at there
            cases there
          · exact nothing other earlier bears' among
      | cons value values =>
          rw [own] at found
          cases found
          have there : text ∈ (ofOctets [field]).getAll name := own ▸ List.mem_cons_self
          rcases mem_getAll_ofOctets.mp there with ⟨bearer, bears, member⟩
          rw [List.mem_singleton] at member
          exact ⟨[], bearer, fields, by rw [member, List.nil_append], bears,
            fun _ _ _ => List.not_mem_nil⟩

namespace Request

/-- The count that a value is read as. -/
def lengthOf? (value : String) : Option Nat := Text.readNumeral Text.countBound (Text.trim value)

/-- What is made of the next value: it cannot be read, or it is read as something else than those before
it, or it agrees with them. -/
theorem agreedLength_cons (before : Option Nat) (value : String) (values : List String) :
    (lengthOf? value = none ∧
        agreedLength before (value :: values) = .error (.invalidContentLength value)) ∨
      ∃ length, lengthOf? value = some length ∧
        ((∃ earlier, before = some earlier ∧ length ≠ earlier ∧
            agreedLength before (value :: values) = .error (.invalidContentLength value)) ∨
          ((∀ earlier, before = some earlier → earlier = length) ∧
            agreedLength before (value :: values) = agreedLength (some length) values)) := by
  rw [agreedLength.eq_def, lengthOf?]
  dsimp only
  cases Text.readNumeral Text.countBound (Text.trim value) with
  | none => exact Or.inl ⟨rfl, rfl⟩
  | some length =>
      refine Or.inr ⟨length, rfl, ?_⟩
      cases before with
      | none =>
          refine Or.inr ⟨?_, rfl⟩
          intro earlier given
          cases given
      | some earlier =>
          by_cases same : earlier = length
          · refine Or.inr ⟨?_, if_pos same⟩
            intro other given
            cases given
            exact same
          · exact Or.inl ⟨earlier, rfl, fun other => same other.symm, if_neg same⟩

/-- Values agree on a length if each of them is read as that length. -/
theorem agreedLength_eq_ok {values : List String} {before announced : Option Nat}
    (agreed : agreedLength before values = .ok announced) :
    (∀ earlier, before = some earlier → announced = some earlier) ∧
      ∀ value ∈ values, ∃ length, lengthOf? value = some length ∧ announced = some length := by
  induction values generalizing before with
  | nil =>
      rw [agreedLength.eq_def] at agreed
      cases agreed
      exact ⟨fun _ same => same, fun value member => absurd member List.not_mem_nil⟩
  | cons value values inductionHypothesis =>
      rcases agreedLength_cons before value values with
        ⟨_, refused⟩ | ⟨length, read, ⟨earlier, _, _, refused⟩ | ⟨same, goesOn⟩⟩
      · rw [refused] at agreed
        cases agreed
      · rw [refused] at agreed
        cases agreed
      · rw [goesOn] at agreed
        rcases inductionHypothesis agreed with ⟨kept, others⟩
        have announces := kept length rfl
        constructor
        · intro earlier given
          rw [same earlier given]
          exact announces
        · exact List.forall_mem_cons.mpr ⟨⟨length, read, announces⟩, others⟩

/-- The value at which the agreement fails cannot be read, or is read as something else than one before
it. -/
theorem agreedLength_eq_error {values : List String} {before : Option Nat} {fault : RequestFault}
    (refused : agreedLength before values = .error fault) :
    ∃ value ∈ values, fault = .invalidContentLength value ∧
      (lengthOf? value = none ∨ ∃ length earlier, lengthOf? value = some length ∧ length ≠ earlier ∧
        (before = some earlier ∨ ∃ other ∈ values, lengthOf? other = some earlier)) := by
  induction values generalizing before with
  | nil =>
      rw [agreedLength.eq_def] at refused
      cases refused
  | cons value values inductionHypothesis =>
      rcases agreedLength_cons before value values with
        ⟨unread, stops⟩ | ⟨length, read, ⟨earlier, given, differs, stops⟩ | ⟨_, goesOn⟩⟩
      · cases refused.symm.trans stops
        exact ⟨value, List.mem_cons_self, rfl, Or.inl unread⟩
      · cases refused.symm.trans stops
        exact ⟨value, List.mem_cons_self, rfl, Or.inr ⟨length, earlier, read, differs, Or.inl given⟩⟩
      · rw [goesOn] at refused
        rcases inductionHypothesis refused with ⟨other, member, same, reason⟩
        refine ⟨other, List.mem_cons_of_mem value member, same, ?_⟩
        rcases reason with unread | ⟨own, earlier, found, differs, origin⟩
        · exact Or.inl unread
        · refine Or.inr ⟨own, earlier, found, differs, Or.inr ?_⟩
          rcases origin with first | ⟨third, among, found'⟩
          · exact ⟨value, List.mem_cons_self, read.trans first⟩
          · exact ⟨third, List.mem_cons_of_mem value among, found'⟩

/-! ## The length of a request -/

theorem lengthOf?_eq_some {value : String} {length : Nat} :
    lengthOf? value = some length ↔ Text.Denotes value length ∧ length < Text.countBound :=
  Text.readNumeral_trim_eq_some

/-- A value that cannot be read denotes no count of 64 bits. -/
theorem lengthOf?_eq_none {value : String} :
    lengthOf? value = none ↔ ∀ count < Text.countBound, ¬ Text.Denotes value count := by
  constructor
  · intro unread count below denotes
    rw [lengthOf?_eq_some.mpr ⟨denotes, below⟩] at unread
    cases unread
  · intro nothing
    cases read : lengthOf? value with
    | none => rfl
    | some length =>
        rcases lengthOf?_eq_some.mp read with ⟨denotes, below⟩
        exact absurd denotes (nothing length below)

/-- Every line that states a length has a say in the length of the request of a head. -/
theorem bodyLength_eq_ok {head : Head.RequestHead} {body : Octets} {length : Nat}
    (readable : (ofHead head body).bodyLength = .ok length) :
    ∀ text, Head.StatesLength head.fields text →
      Text.Denotes text length ∧ length < Text.countBound := by
  intro text states
  have member : text ∈ (ofHead head body).headers.getAll "content-length" :=
    Headers.mem_getAll_ofOctets.mpr states
  unfold bodyLength at readable
  cases agreed : agreedLength none ((ofHead head body).headers.getAll "content-length") with
  | error fault => simp only [agreed, reduceCtorEq] at readable
  | ok announced =>
      rcases (agreedLength_eq_ok agreed).2 text member with ⟨own, read, rfl⟩
      simp only [agreed, Option.getD_some, Except.ok.injEq] at readable
      subst readable
      exact lengthOf?_eq_some.mp read

/-- The length of the request of a head is what the lines tell. -/
theorem tells_of_bodyLength {head : Head.RequestHead} {body : Octets} {length : Nat}
    (readable : (ofHead head body).bodyLength = .ok length) : Head.Tells head.fields length := by
  refine ⟨fun text states => (bodyLength_eq_ok readable text states).1, fun nothing => ?_⟩
  have none_states : (ofHead head body).headers.getAll "content-length" = [] := by
    apply List.eq_nil_iff_forall_not_mem.mpr
    exact fun text member => nothing text (Headers.mem_getAll_ofOctets.mp member)
  rw [bodyLength, none_states, agreedLength] at readable
  cases readable
  rfl

/-- If the length of the request of a head is a fault, it names one of the lines that state a length,
and the lines are unreadable. -/
theorem bodyLength_eq_error {head : Head.RequestHead} {body : Octets} {fault : RequestFault}
    (refused : (ofHead head body).bodyLength = .error fault) :
    Head.Unreadable head.fields ∧
      ∃ text, Head.StatesLength head.fields text ∧ fault = .invalidContentLength text := by
  unfold bodyLength at refused
  cases agreed : agreedLength none ((ofHead head body).headers.getAll "content-length") with
  | ok announced => simp only [agreed, reduceCtorEq] at refused
  | error other =>
      simp only [agreed, Except.error.injEq] at refused
      subst refused
      have states : ∀ text ∈ (ofHead head body).headers.getAll "content-length",
          Head.StatesLength head.fields text :=
        fun text member => Headers.mem_getAll_ofOctets.mp member
      rcases agreedLength_eq_error agreed with ⟨text, member, rfl, reason⟩
      refine ⟨?_, text, states text member, rfl⟩
      rcases reason with unread | ⟨length, earlier, read, differs, given | ⟨other, among, found⟩⟩
      · exact Or.inl ⟨text, states text member, lengthOf?_eq_none.mp unread⟩
      · cases given
      · exact Or.inr ⟨text, other, length, earlier, states text member, states other among,
          (lengthOf?_eq_some.mp read).1, (lengthOf?_eq_some.mp found).1, differs⟩

/-- The length of the request of a head is a fault exactly if the lines are unreadable. -/
theorem bodyLength_eq_error_iff (head : Head.RequestHead) (body : Octets) :
    (∃ fault, (ofHead head body).bodyLength = .error fault) ↔ Head.Unreadable head.fields := by
  constructor
  · rintro ⟨fault, refused⟩
    exact (bodyLength_eq_error refused).1
  · intro unreadable
    cases length : (ofHead head body).bodyLength with
    | error fault => exact ⟨fault, rfl⟩
    | ok length' =>
        have agree := bodyLength_eq_ok length
        rcases unreadable with ⟨text, states, nothing⟩ |
          ⟨text, other, count, different, states, states', denotes, denotes', differs⟩
        · rcases agree text states with ⟨denotes, below⟩
          exact absurd denotes (nothing length' below)
        · have same := denotes.unique (agree text states).1
          have same' := denotes'.unique (agree other states').1
          exact absurd (same.trans same'.symm) differs

end Request
end PromiseHttp
