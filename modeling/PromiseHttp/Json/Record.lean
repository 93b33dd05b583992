import PromiseHttp.Json.Reader

namespace PromiseHttp
namespace Json

/-!
# Records in a configuration text

A record is written as an object whose keys are the names of its fields, or as a list of the
values of its fields in their order.  Fields that are left out keep their defaults.  An object may
hold keys that are no fields; a list may not hold more values than there are fields.
-/

open Reader

/-! ## Values of a wanted kind -/

/-- Refuses the value that begins at the next octet, because a value of another kind is wanted.
Scalars are read to be named in the refusal; lists and objects are not entered. -/
def refuseValue {α : Type} (expected : String) : Reader α := do
  let first ← peek
  if first = some 0x6E then do
    advance
    expectLetters (Octets.encode "ull")
    refuseHere (.wrongType .null expected)
  else if first = some 0x74 then do
    advance
    expectLetters (Octets.encode "rue")
    refuseHere (.wrongType (.flag true) expected)
  else if first = some 0x66 then do
    advance
    expectLetters (Octets.encode "alse")
    refuseHere (.wrongType (.flag false) expected)
  else if first = some minus then do
    advance
    let number ← readNumber false
    refuseHere (.wrongType number.met expected)
  else if first.any isDigit then do
    let number ← readNumber true
    refuseHere (.wrongType number.met expected)
  else if first = some quoteMark then do
    advance
    let text ← readString
    refuseHere (.wrongType (.text text) expected)
  else if first = some openBracket then refuseHere (.wrongType .sequence expected)
  else if first = some openBrace then refuseHere (.wrongType .map expected)
  else refuseNext .noValue

/-- A count below a bound. -/
def readCount (bound : Nat) (expected : String) : Reader Nat := do
  let judge (number : Number) : Reader Nat :=
    match number with
    | .whole value =>
      if 0 ≤ value && value < bound then pure value.toNat
      else refuseHere (.wrongValue value expected)
    | .real value => refuseHere (.wrongType (.real value) expected)
  match ← skipSpaces with
  | none => refuseNext .endInValue
  | some octet =>
    if octet = minus then do
      advance
      judge (← readNumber false)
    else if isDigit octet then do
      judge (← readNumber true)
    else refuseValue expected

/-- A truth value. -/
def readFlag : Reader Bool := do
  match ← skipSpaces with
  | none => refuseNext .endInValue
  | some octet =>
    if octet = 0x74 then do
      advance
      expectLetters (Octets.encode "rue")
      pure true
    else if octet = 0x66 then do
      advance
      expectLetters (Octets.encode "alse")
      pure false
    else refuseValue "a boolean"

/-- The colon behind a key. -/
def readColon : Reader Unit := do
  match ← skipSpaces with
  | none => refuseNext .endInObject
  | some octet =>
    if octet = colon then do
      advance
    else refuseNext .missingColon

/-- Nothing, written as a null. -/
def readNull : Reader Unit := do
  match ← skipSpaces with
  | none => refuseNext .endInValue
  | some octet =>
    if octet = 0x6E then do
      advance
      expectLetters (Octets.encode "ull")
    else refuseValue "unit"

/-- The choice that the string at the next octet names. -/
def readChoiceName {α : Type} (choices : List (String × α)) : Reader α := do
  advance
  let name ← readString
  match choices.lookup name with
  | some choice => pure choice
  | none => refuseHere (.unknownChoice name (choices.map Prod.fst))

/-- The choice that the key of an object names, read behind the opening brace. -/
def readChoiceKey {α : Type} (choices : List (String × α)) : Reader α := do
  match ← skipSpaces with
  | none => refuseNext .endInObject
  | some octet =>
    if octet = quoteMark then readChoiceName choices
    else if octet = closeBrace then refuseNext .noValue
    else refuseNext .keyNotString

/-- One of several choices: its name, or an object that maps its name to nothing. -/
def readChoice {α : Type} (choices : List (String × α)) : Reader α := do
  match ← skipSpaces with
  | none => refuseNext .endInValue
  | some octet =>
    if octet = openBrace then do
      advance
      let choice ← readChoiceKey choices
      readColon
      readNull
      match ← skipSpaces with
      | none => refuseHere .endInObject
      | some octet =>
        if octet = closeBrace then do
          advance
          pure choice
        else refuseHere .noValue
    else if octet = quoteMark then readChoiceName choices
    else refuseNext .noValue

/-! ## Records -/

/-- A field of a record: its name, and how its value is read into the record. -/
structure FieldReader (ρ : Type) where
  name : String
  readInto : ρ → Reader ρ

/-- The fields of an object behind its opening brace.  The names met so far are kept, because a
field may be given once only.  Every round takes an octet at least. -/
def readObject {ρ : Type} (fields : List (FieldReader ρ)) :
    Nat → List String → ρ → Bool → Reader ρ
  | 0, _, record, _ => pure record
  | fuel + 1, met, record, first => do
    let done ← match ← skipSpaces with
      | none => refuseNext .endInObject
      | some octet =>
        if octet = closeBrace then pure true
        else if first then
          if octet = quoteMark then pure false else refuseNext .keyNotString
        else if octet = comma then do
          advance
          match ← skipSpaces with
          | none => refuseNext .endInValue
          | some octet =>
            if octet = quoteMark then pure false
            else if octet = closeBrace then refuseNext .trailingComma
            else refuseNext .keyNotString
        else refuseNext .objectNotContinued
    if done then do
      advance
      pure record
    else do
      advance
      let name ← readString
      match fields.find? (·.name = name) with
      | none => do
        readColon
        skipValue
        readObject fields fuel met record false
      | some field =>
        if met.contains name then do
          match ← skipSpaces with
          | some octet =>
            if octet = closeBrace then do
              advance
          | none => pure ()
          refuseHere (.repeatedField name)
        else do
          readColon
          let record ← field.readInto record
          readObject fields fuel (name :: met) record false

/-- The end of a list that holds a value for every field. -/
def readListEnd : Reader Unit := do
  match ← skipSpaces with
  | none => refuseNext .endInList
  | some octet =>
    if octet = closeBracket then do
      advance
    else if octet = comma then do
      advance
      match ← skipSpaces with
      | some octet =>
        refuseNext (if octet = closeBracket then .trailingComma else .trailingCharacters)
      | none => refuseNext .trailingCharacters
    else refuseNext .trailingCharacters

/-- The values of a list behind its opening bracket, one per field. -/
def readList {ρ : Type} : List (FieldReader ρ) → ρ → Bool → Reader ρ
  | [], record, _ => do
    readListEnd
    pure record
  | field :: fields, record, first => do
    match ← skipSpaces with
    | none => refuseNext .endInList
    | some octet =>
      if octet = closeBracket then do
        advance
        pure record
      else if first then do
        let record ← field.readInto record
        readList fields record false
      else if octet = comma then do
        advance
        match ← skipSpaces with
        | none => refuseNext .endInValue
        | some octet =>
          if octet = closeBracket then refuseNext .trailingComma
          else do
            let record ← field.readInto record
            readList fields record false
      else refuseNext .listNotContinued

/-- A record, starting from its defaults. -/
def readRecord {ρ : Type} (expected : String) (fields : List (FieldReader ρ)) (defaults : ρ) :
    Reader ρ := do
  match ← skipSpaces with
  | none => refuseNext .endInValue
  | some octet =>
    if octet = openBrace then do
      advance
      let length ← left
      readObject fields (length + 1) [] defaults true
    else if octet = openBracket then do
      advance
      readList fields defaults true
    else refuseValue expected

/-- A record that is the whole text. -/
def readText {ρ : Type} (expected : String) (fields : List (FieldReader ρ)) (defaults : ρ)
    (text : String) : Except Fault ρ :=
  let octets := Octets.encode text
  let reader : Reader ρ := do
    let record ← readRecord expected fields defaults
    match ← skipSpaces with
    | some _ => refuseNext .trailingCharacters
    | none => pure record
  match reader.run octets with
  | .ok (record, _) => .ok record
  | .error refusal => .error (refusal.locate octets)

end Json
end PromiseHttp
