import PromiseHttp.Proofs.Http.LongerInput
import PromiseHttp.Proofs.Text.Numerals

namespace PromiseHttp

/-!
# The parts of a head are read back

Each part of a head is read back from the octets that it is written as, whatever stands behind it.
A field is written as one line: its name, a colon, a space, its value and a line end.  The line is
read as the field if the name is a token and the value is plain and not padded.  These are the
fields that can be sent: a name that is no token is not recognized as one, a control character ends
the value, and padding around a value is dropped.
-/

namespace Head

/-- A text that may be a method or the name of a field. -/
def IsToken (text : String) : Prop :=
  text ≠ "" ∧ ∀ octet ∈ Octets.encode text, isTokenOctet octet = true

instance (text : String) : Decidable (IsToken text) :=
  @instDecidableAnd _ _ inferInstance (List.decidableBAll _ _)

/-- A text that may be the value of a field: it has no control characters but tabs, and neither
spaces nor tabs at its ends. -/
def IsValue (text : String) : Prop :=
  (∀ octet ∈ Octets.encode text, isTextOctet octet = true) ∧
    (∀ octet ∈ (Octets.encode text).head?, isPadding octet = false) ∧
    ∀ octet ∈ (Octets.encode text).getLast?, isPadding octet = false

instance (text : String) : Decidable (IsValue text) :=
  @instDecidableAnd _ _ (List.decidableBAll _ _)
    (@instDecidableAnd _ _ (Option.decidableForallMem _) (Option.decidableForallMem _))

/-- A field that can be sent. -/
def IsField (field : Field) : Prop := IsToken field.1 ∧ IsValue field.2

instance (field : Field) : Decidable (IsField field) := inferInstanceAs (Decidable (_ ∧ _))

/-- A field as it is read from a connection. -/
def raw (field : Field) : RawField := (Octets.encode field.1, Octets.encode field.2)

/-! ## Runs -/

theorem encode_ne_nil {text : String} (nonempty : text ≠ "") : Octets.encode text ≠ [] := by
  intro nothing
  apply nonempty
  have same : Octets.encode text = Octets.encode "" := nothing
  have decoded := congrArg Octets.decode? same
  rw [Octets.decode?_encode, Octets.decode?_encode] at decoded
  exact Option.some.inj decoded

theorem takeWhile_stop {ofClass : UInt8 → Bool} {run : Octets} {stop : UInt8}
    (within : ∀ octet ∈ run, ofClass octet = true) (outside : ofClass stop = false)
    (rest : Octets) : (run ++ stop :: rest).takeWhile ofClass = run := by
  rw [List.takeWhile_append_of_pos within, List.takeWhile_cons, outside]
  simp only [Bool.false_eq_true, if_false, List.append_nil]

theorem dropWhile_stop {ofClass : UInt8 → Bool} {run : Octets} {stop : UInt8}
    (within : ∀ octet ∈ run, ofClass octet = true) (outside : ofClass stop = false)
    (rest : Octets) : (run ++ stop :: rest).dropWhile ofClass = stop :: rest := by
  rw [List.dropWhile_append_of_pos within, List.dropWhile_cons, outside]
  simp only [Bool.false_eq_true, if_false]

/-- A run that does not begin with padding is left as it is, whatever follows. -/
theorem dropWhile_unpadded {run : Octets} {stop : UInt8}
    (solid : ∀ octet ∈ run.head?, isPadding octet = false) (outside : isPadding stop = false)
    (rest : Octets) : (run ++ stop :: rest).dropWhile isPadding = run ++ stop :: rest := by
  cases run with
  | nil =>
      rw [List.nil_append, List.dropWhile_cons, outside]
      simp only [Bool.false_eq_true, if_false]
  | cons first more =>
      rw [List.cons_append, List.dropWhile_cons, solid first rfl]
      simp only [Bool.false_eq_true, if_false]

theorem dropPaddingEnd_unpadded {value : Octets}
    (solid : ∀ octet ∈ value.getLast?, isPadding octet = false) : dropPaddingEnd value = value := by
  have kept : value.reverse.dropWhile isPadding = value.reverse := by
    cases backwards : value.reverse with
    | nil => rfl
    | cons last before =>
        have ends : last ∈ value.getLast? := by
          rw [← List.head?_reverse, backwards]
          rfl
        rw [List.dropWhile_cons, solid last ends]
        simp only [Bool.false_eq_true, if_false]
  rw [dropPaddingEnd, kept, List.reverse_reverse]

theorem readLineEnd_crlf (fault : HeadFault) (rest : Octets) :
    readLineEnd fault (cr :: lf :: rest) = .found () rest := rfl

/-! ## Parts of start lines -/

theorem readWord_stop {ofClass : UInt8 → Bool} {word : String} (nonempty : word ≠ "")
    (within : ∀ octet ∈ Octets.encode word, ofClass octet = true) (outside : ofClass space = false)
    (rest : Octets) :
    readWord ofClass (Octets.encode word ++ space :: rest) = .found word rest := by
  have some_octet : (Octets.encode word).isEmpty = false := by
    rw [← Bool.not_eq_true, List.isEmpty_iff]
    exact encode_ne_nil nonempty
  simp only [readWord, takeWhile_stop within outside, dropWhile_stop within outside, some_octet,
    Bool.not_false, Bool.and_true, decide_true, if_true, Octets.decode?_encode]

/-- Nothing is passed over in front of a token. -/
theorem skipEmptyLines_token {text : String} (token : IsToken text) (rest : Octets) :
    skipEmptyLines (Octets.encode text ++ rest) = .found () (Octets.encode text ++ rest) := by
  cases start : Octets.encode text with
  | nil => exact absurd start (encode_ne_nil token.1)
  | cons first more =>
      have marks : isTokenOctet first = true := token.2 first (start ▸ List.mem_cons_self)
      rw [List.cons_append]
      refine skipEmptyLines_start ?_ ?_ _
      · rintro rfl
        exact absurd marks (by decide)
      · rintro rfl
        exact absurd marks (by decide)

theorem readVersion_spelling (version : Version) (rest : Octets) :
    readVersion (version.spelling ++ rest) = .found version rest := by
  have long : ¬ (version.spelling ++ rest).length < 8 := by
    rw [List.length_append, spelling_length]
    omega
  have front : (version.spelling ++ rest).take 8 = version.spelling := by
    rw [← spelling_length version, List.take_left]
  have behind : (version.spelling ++ rest).drop 8 = rest := by
    rw [← spelling_length version, List.drop_left]
  rw [readVersion, if_neg long, front, behind]
  cases version with
  | http10 => rfl
  | http11 => exact if_neg (by decide)

theorem encode_version (version : Version) :
    Octets.encode "HTTP/1." ++ Octets.encode (Text.numeral version.minor) = version.spelling := by
  cases version <;> decide

theorem readDigit_octet {digit : Nat} (below : digit < 10) (rest : Octets) :
    readDigit (Text.digitOctet digit :: rest) = .found digit rest := by
  have value : (Text.digitOctet digit).toNat = 48 + digit := by
    rw [Text.digitOctet, UInt8.toNat_ofNat']
    omega
  have among : isDigitOctet (Text.digitOctet digit) = true := by
    simp only [isDigitOctet, Bool.and_eq_true, decide_eq_true_eq, UInt8.le_iff_toNat_le, value]
    constructor
    · exact Nat.le_add_right 48 digit
    · exact Nat.add_le_add_left (Nat.le_of_lt_succ below) 48
  rw [readDigit, if_pos among, value, Nat.add_sub_cancel_left]

theorem readCode_numeral {code : Nat} (least : 100 ≤ code) (most : code ≤ 999) (rest : Octets) :
    readCode (Octets.encode (Text.numeral code) ++ rest) = .found code rest := by
  have value : code / 100 * 100 + code / 10 % 10 * 10 + code % 10 = code := by omega
  rw [Text.encode_code least most]
  simp only [readCode, List.cons_append, List.nil_append,
    readDigit_octet (by omega : code / 100 < 10), readDigit_octet (by omega : code / 10 % 10 < 10),
    readDigit_octet (by omega : code % 10 < 10), Scan.andThen_found, value]

theorem reason_text (status : Status) :
    ∀ octet ∈ Octets.encode status.reason, isTextOctet octet = true := by
  cases status with
  | other number =>
      intro octet member
      cases member
  | _ => exact List.all_eq_true.mp (by decide)

theorem readReason_text {reason : String}
    (plain : ∀ octet ∈ Octets.encode reason, isTextOctet octet = true) (rest : Octets) :
    readReason (space :: (Octets.encode reason ++ cr :: lf :: rest)) = .found () rest := by
  have noText : isTextOctet cr = false := by decide
  rw [readReason, if_pos rfl, dropWhile_stop plain noText, readLineEnd_crlf]

/-! ## Field lines -/

/-- The octets of a field line. -/
theorem encode_line (field : Field) (rest : Octets) :
    Octets.encode (field.1 ++ ": " ++ field.2 ++ "\r\n") ++ rest =
      Octets.encode field.1 ++ colon :: space :: (Octets.encode field.2 ++ cr :: lf :: rest) := by
  have separator : Octets.encode ": " = [colon, space] := by decide
  have lineEnd : Octets.encode "\r\n" = [cr, lf] := by decide
  simp only [Octets.encode_append, separator, lineEnd, List.append_assoc, List.cons_append,
    List.nil_append]

theorem readField_line {field : Field} (fit : IsField field) (rest : Octets) :
    readField (Octets.encode (field.1 ++ ": " ++ field.2 ++ "\r\n") ++ rest) =
      .found (raw field) rest := by
  rcases fit with ⟨⟨nonempty, token⟩, plain, begins, ends⟩
  have noToken : isTokenOctet colon = false := by decide
  have noText : isTextOctet cr = false := by decide
  have noPadding : isPadding cr = false := by decide
  have named : (colon = space) = False := by decide
  have some_name : (Octets.encode field.1).isEmpty = false := by
    rw [← Bool.not_eq_true, List.isEmpty_iff]
    exact encode_ne_nil nonempty
  have padded : (space :: (Octets.encode field.2 ++ cr :: lf :: rest)).dropWhile isPadding =
      Octets.encode field.2 ++ cr :: lf :: rest := by
    rw [List.dropWhile_cons, if_pos (by decide), dropWhile_unpadded begins noPadding]
  simp only [readField, encode_line, takeWhile_stop token noToken, dropWhile_stop token noToken,
    some_name, Bool.not_false, Bool.and_true, decide_true, if_true, padded,
    takeWhile_stop plain noText, dropWhile_stop plain noText, readLineEnd_crlf, Scan.map,
    Scan.andThen_found, dropPaddingEnd_unpadded ends, raw]

theorem isField_length (length : Nat) : IsField ("Content-Length", Text.numeral length) := by
  have digits : ∀ octet ∈ Octets.encode (Text.numeral length),
      isTextOctet octet = true ∧ isPadding octet = false := by
    intro octet member
    have digit := Text.octets_numeral member
    simp only [isDigitOctet, Bool.and_eq_true, decide_eq_true_eq, UInt8.le_iff_toNat_le] at digit
    have least : 48 ≤ octet.toNat := digit.1
    have most : octet.toNat ≤ 57 := digit.2
    have apart : ∀ other : UInt8, other.toNat < 48 ∨ 57 < other.toNat → octet ≠ other := by
      rintro other outside rfl
      omega
    constructor
    · have above : (32 : UInt8) ≤ octet := UInt8.le_iff_toNat_le.mpr (Nat.le_trans (by decide) least)
      simp only [isTextOctet, Bool.or_eq_true, Bool.and_eq_true, decide_eq_true_eq, bne_iff_ne]
      exact Or.inr ⟨above, apart 127 (by decide)⟩
    · simp only [isPadding, Bool.or_eq_false_iff, beq_eq_false_iff_ne]
      exact ⟨apart space (by decide), apart tab (by decide)⟩
  have token : IsToken "Content-Length" := by decide
  refine ⟨token, fun octet member => (digits octet member).1, ?_, ?_⟩
  · intro octet first
    exact (digits octet (List.mem_of_mem_head? first)).2
  · intro octet last
    exact (digits octet (List.mem_of_mem_getLast? last)).2

theorem lines_cons (field : Field) (fields : List Field) :
    Headers.lines ⟨field :: fields⟩ =
      field.1 ++ ": " ++ field.2 ++ "\r\n" ++ Headers.lines ⟨fields⟩ := by
  simp only [Headers.lines, List.map_cons, String.join_cons]

theorem lines_append (fields further : List Field) :
    Headers.lines ⟨fields ++ further⟩ = Headers.lines ⟨fields⟩ ++ Headers.lines ⟨further⟩ := by
  simp only [Headers.lines, List.map_append, String.join_append]

/-- The line of a field takes one of the slots, if there is one. -/
theorem readFields_line {field : Field} (fits : IsField field) (slots : Nat) (rest : Octets) :
    readFields slots
        (Octets.encode (field.1 ++ ": " ++ field.2 ++ "\r\n") ++ rest) =
      match slots with
      | 0 => .refused .tooManyFields
      | slots + 1 => (readFields slots rest).map (raw field :: ·) := by
  have line := readField_line fits rest
  -- The line begins with an octet of the name, so it is not the empty line.
  cases start : Octets.encode field.1 with
  | nil => exact absurd start (encode_ne_nil fits.1.1)
  | cons first name =>
      have marks : isTokenOctet first = true := fits.1.2 first (start ▸ List.mem_cons_self)
      have goesOn : ¬ (first = lf || first = cr) = true := by
        intro ends
        rcases (by simpa using ends : first = lf ∨ first = cr) with rfl | rfl
        · exact absurd marks (by decide)
        · exact absurd marks (by decide)
      rw [encode_line, start, List.cons_append] at line ⊢
      cases slots with
      | zero => rw [readFields_full goesOn, line, Scan.andThen_found]
      | succ slots => rw [readFields_further goesOn, line, Scan.andThen_found]

/-- Fields that can be sent are read back from their lines, if they are not too many. -/
theorem readFields_lines {fields : List Field} (fit : ∀ field ∈ fields, IsField field)
    {slots : Nat} (room : fields.length ≤ slots) (body : Octets) :
    readFields slots (Octets.encode (Headers.lines ⟨fields⟩) ++ cr :: lf :: body) =
      .found (fields.map raw) body := by
  induction fields generalizing slots with
  | nil =>
      have nothing : Octets.encode (Headers.lines ⟨[]⟩) = [] := by decide
      rw [nothing, List.nil_append, readFields_end (by decide)]
      rfl
  | cons field fields inductionHypothesis =>
      cases slots with
      | zero => exact absurd room (Nat.not_succ_le_zero _)
      | succ slots =>
          have behind := inductionHypothesis
            (fun other member => fit other (List.mem_cons_of_mem field member))
            (Nat.le_of_succ_le_succ room)
          rw [lines_cons, Octets.encode_append, List.append_assoc,
            readFields_line (fit field List.mem_cons_self)]
          dsimp only
          rw [behind]
          rfl

/-- Too many fields are refused, whatever stands behind them. -/
theorem readFields_many {fields : List Field} (fit : ∀ field ∈ fields, IsField field)
    {slots : Nat} (many : slots < fields.length) (rest : Octets) :
    readFields slots (Octets.encode (Headers.lines ⟨fields⟩) ++ rest) =
      .refused .tooManyFields := by
  induction fields generalizing slots with
  | nil => exact absurd many (Nat.not_lt_zero slots)
  | cons field fields inductionHypothesis =>
      rw [lines_cons, Octets.encode_append, List.append_assoc,
        readFields_line (fit field List.mem_cons_self)]
      cases slots with
      | zero => rfl
      | succ slots =>
          have behind := inductionHypothesis
            (fun other member => fit other (List.mem_cons_of_mem field member))
            (Nat.lt_of_succ_lt_succ many)
          dsimp only
          rw [behind]
          rfl

/-- What is read from a connection is text again. -/
theorem ofOctets_raw (fields : List Field) : Headers.ofOctets (fields.map raw) = ⟨fields⟩ := by
  have whole : ∀ read : RawField → Option Field, (∀ field, read (raw field) = some field) →
      (fields.map raw).filterMap read = fields := by
    intro read reads
    have same : read ∘ raw = some := by
      funext field
      exact reads field
    rw [List.filterMap_map, same, List.filterMap_some]
  unfold Headers.ofOctets
  rw [whole]
  intro field
  simp only [raw, Octets.decode?_encode]

end Head
end PromiseHttp
