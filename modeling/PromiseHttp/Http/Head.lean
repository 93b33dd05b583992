import PromiseHttp.Text.Octets

namespace PromiseHttp

/-!
# The grammar of message heads

A head is a start line followed by field lines and an empty line.  It is read octet by octet from
the front of a list, and what is left over is handed back.  There are three answers: the part was
found, more octets are needed, or an octet was met that no continuation can repair.  Running out
of octets is never a fault, so an answer `refused` rests on octets that are really there.

Lines end in a line feed, with or without a carriage return before it.  A head has at most
sixty-four fields.  No field is continued on a second line.
-/

/-- Why a head is refused. -/
inductive HeadFault where
  | fieldName
  | fieldValue
  | newLine
  | status
  | token
  | tooManyFields
  | version
  deriving DecidableEq, Repr

/-- The fault in words. -/
def HeadFault.message : HeadFault → String
  | fieldName => "invalid header name"
  | fieldValue => "invalid header value"
  | newLine => "invalid new line"
  | status => "invalid response status"
  | token => "invalid token"
  | tooManyFields => "too many headers"
  | version => "invalid HTTP version"

/-- The answer of a reader: a part and the octets behind it, a call for more octets, or a
refusal. -/
inductive Scan (α : Type) where
  | found (part : α) (rest : Octets)
  | needMore
  | refused (fault : HeadFault)
  deriving Repr

namespace Scan

/-- Reads on behind a part. -/
def andThen {α β : Type} (scan : Scan α) (next : α → Octets → Scan β) : Scan β :=
  match scan with
  | found part rest => next part rest
  | needMore => needMore
  | refused fault => refused fault

/-- Changes the part and keeps the rest. -/
def map {α β : Type} (change : α → β) (scan : Scan α) : Scan β :=
  scan.andThen fun part rest => found (change part) rest

@[simp]
theorem andThen_found {α β : Type} (part : α) (rest : Octets) (next : α → Octets → Scan β) :
    (found part rest).andThen next = next part rest := rfl

@[simp]
theorem andThen_needMore {α β : Type} (next : α → Octets → Scan β) :
    (needMore : Scan α).andThen next = needMore := rfl

@[simp]
theorem andThen_refused {α β : Type} (fault : HeadFault) (next : α → Octets → Scan β) :
    (refused fault : Scan α).andThen next = refused fault := rfl

end Scan

namespace Head

/-! ## Classes of octets -/

/-- Carriage return. -/
def cr : UInt8 := 13

/-- Line feed. -/
def lf : UInt8 := 10

/-- Space. -/
def space : UInt8 := 32

/-- Horizontal tab. -/
def tab : UInt8 := 9

/-- The colon behind a field name. -/
def colon : UInt8 := 58

/-- The characters of a token that are neither letters nor digits. -/
def tokenMarks : Octets := Octets.encode "!#$%&'*+-.^_`|~"

/-- An octet of a method or of a field name. -/
def isTokenOctet (octet : UInt8) : Bool :=
  (48 ≤ octet && octet ≤ 57) || (65 ≤ octet && octet ≤ 90) || (97 ≤ octet && octet ≤ 122) ||
    tokenMarks.contains octet

/-- An octet of a request target. -/
def isTargetOctet (octet : UInt8) : Bool :=
  33 ≤ octet && octet != 127

/-- An octet of a field value or of a reason phrase. -/
def isTextOctet (octet : UInt8) : Bool :=
  octet == tab || (32 ≤ octet && octet != 127)

/-- A space or a tab. -/
def isPadding (octet : UInt8) : Bool :=
  octet == space || octet == tab

/-- A decimal digit. -/
def isDigitOctet (octet : UInt8) : Bool :=
  48 ≤ octet && octet ≤ 57

/-! ## Lines -/

/-- The end of a line, which must be next. -/
def readLineEnd (fault : HeadFault) : Octets → Scan Unit
  | [] => .needMore
  | first :: rest =>
    if first = lf then .found () rest
    else if first = cr then
      match rest with
      | [] => .needMore
      | second :: rest₁ => if second = lf then .found () rest₁ else .refused fault
    else .refused fault

/-- Empty lines in front of the start line are passed over. -/
def skipEmptyLines : Octets → Scan Unit
  | [] => .needMore
  | first :: rest =>
    if first = lf then skipEmptyLines rest
    else if first = cr then
      match rest with
      | [] => .needMore
      | second :: rest₁ => if second = lf then skipEmptyLines rest₁ else .refused .newLine
    else .found () (first :: rest)

/-- A non-empty run of octets of one class, up to a space, which is consumed.  The run must be
text. -/
def readWord (ofClass : UInt8 → Bool) (octets : Octets) : Scan String :=
  let run := octets.takeWhile ofClass
  match octets.dropWhile ofClass with
  | [] => .needMore
  | stop :: rest =>
    if stop = space && !run.isEmpty then
      match Octets.decode? run with
      | some word => .found word rest
      | none => .refused .token
    else .refused .token

/-! ## Start lines -/

/-- The versions that are spoken. -/
inductive Version where
  | http10
  | http11
  deriving DecidableEq, Repr

/-- The number behind the point of a version. -/
def Version.minor : Version → Nat
  | .http10 => 0
  | .http11 => 1

/-- How a version is spelled. -/
def Version.spelling : Version → Octets
  | .http10 => Octets.encode "HTTP/1.0"
  | .http11 => Octets.encode "HTTP/1.1"

/-- A version takes eight octets.  When fewer are there, they must begin one. -/
def readVersion (octets : Octets) : Scan Version :=
  if octets.length < 8 then
    if octets.isPrefixOf (Octets.encode "HTTP/1.") then .needMore else .refused .version
  else if octets.take 8 = Version.spelling .http10 then .found .http10 (octets.drop 8)
  else if octets.take 8 = Version.spelling .http11 then .found .http11 (octets.drop 8)
  else .refused .version

/-- One digit of a status code. -/
def readDigit : Octets → Scan Nat
  | [] => .needMore
  | octet :: rest =>
    if isDigitOctet octet then .found (octet.toNat - 48) rest else .refused .status

/-- A status code has three digits. -/
def readCode (octets : Octets) : Scan Nat :=
  (readDigit octets).andThen fun hundreds rest =>
  (readDigit rest).andThen fun tens rest =>
  (readDigit rest).andThen fun ones rest =>
  .found (hundreds * 100 + tens * 10 + ones) rest

/-- The space behind the version of a response. -/
def readSpace : Octets → Scan Unit
  | [] => .needMore
  | octet :: rest => if octet = space then .found () rest else .refused .version

/-- The end of a status line: a space and a reason phrase, or neither. -/
def readReason : Octets → Scan Unit
  | [] => .needMore
  | octet :: rest =>
    if octet = space then readLineEnd .status (rest.dropWhile isTextOctet)
    else readLineEnd .status (octet :: rest)

/-! ## Fields -/

/-- A field as it stands on the wire, without the padding around its value. -/
abbrev RawField := Octets × Octets

/-- A value without the spaces and tabs behind it. -/
def dropPaddingEnd (value : Octets) : Octets :=
  (value.reverse.dropWhile isPadding).reverse

/-- One field line, its end included. -/
def readField (octets : Octets) : Scan RawField :=
  let name := octets.takeWhile isTokenOctet
  match octets.dropWhile isTokenOctet with
  | [] => .needMore
  | stop :: rest =>
    if stop = colon && !name.isEmpty then
      let padded := rest.dropWhile isPadding
      let value := padded.takeWhile isTextOctet
      (readLineEnd .fieldValue (padded.dropWhile isTextOctet)).map
        fun _ => (name, dropPaddingEnd value)
    else .refused .fieldName

/-- The most fields that a head may have. -/
def maxFields : Nat := 64

/-- The field lines and the empty line behind them, given how many more fields there may be. -/
def readFields : Nat → Octets → Scan (List RawField)
  | slots, octets =>
    match octets with
    | [] => .needMore
    | first :: _ =>
      if first = lf || first = cr then (readLineEnd .newLine octets).map fun _ => []
      else
        (readField octets).andThen fun field rest =>
        match slots with
        | 0 => .refused .tooManyFields
        | slots + 1 => (readFields slots rest).map (field :: ·)

/-! ## Heads -/

/-- The head of a request. -/
structure RequestHead where
  method : String
  target : String
  version : Version
  fields : List RawField

/-- The head of a response.  The reason phrase is not kept. -/
structure ResponseHead where
  version : Version
  code : Nat
  fields : List RawField

/-- The head of a request at the front of the octets. -/
def readRequest (octets : Octets) : Scan RequestHead :=
  (skipEmptyLines octets).andThen fun _ rest =>
  (readWord isTokenOctet rest).andThen fun method rest =>
  (readWord isTargetOctet rest).andThen fun target rest =>
  (readVersion rest).andThen fun version rest =>
  (readLineEnd .newLine rest).andThen fun _ rest =>
  (readFields maxFields rest).map fun fields => ⟨method, target, version, fields⟩

/-- The head of a response at the front of the octets. -/
def readResponse (octets : Octets) : Scan ResponseHead :=
  (skipEmptyLines octets).andThen fun _ rest =>
  (readVersion rest).andThen fun version rest =>
  (readSpace rest).andThen fun _ rest =>
  (readCode rest).andThen fun code rest =>
  (readReason rest).andThen fun _ rest =>
  (readFields maxFields rest).map fun fields => ⟨version, code, fields⟩

end Head

end PromiseHttp
