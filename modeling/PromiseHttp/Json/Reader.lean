import PromiseHttp.Json.Fault

namespace PromiseHttp
namespace Json

/-!
# Reading the parts of a configuration text

A reader takes octets from the front of what is left of the text.  This module holds the parts
that are not records: blanks, literals, strings and numbers, and the skipping of values that
nobody asks for.  Skipping is more lenient than reading: it does not pair surrogates and it does
not ask whether a number has a double.
-/

/-- Takes octets from the front of a text or refuses it. -/
abbrev Reader (α : Type) := StateT Octets (Except Refusal) α

namespace Reader

/-- Refuses the text behind the octets taken so far. -/
def refuseHere {α : Type} (cause : Cause) : Reader α := fun rest =>
  .error ⟨cause, rest.length⟩

/-- Refuses the text at the next octet, which is not taken. -/
def refuseNext {α : Type} (cause : Cause) : Reader α := fun rest =>
  .error ⟨cause, rest.length - 1⟩

/-- Refuses the text some octets before the place that has been reached. -/
def refuseBack {α : Type} (cause : Cause) (distance : Nat) : Reader α := fun rest =>
  .error ⟨cause, rest.length + distance⟩

/-- The number of octets that are left. -/
def left : Reader Nat := fun rest => .ok (rest.length, rest)

/-- The next octet, not taken. -/
def peek : Reader (Option UInt8) := fun rest => .ok (rest.head?, rest)

/-- Takes the next octet, if there is one. -/
def next : Reader (Option UInt8) := fun rest =>
  match rest with
  | [] => .ok (none, [])
  | octet :: rest => .ok (some octet, rest)

/-- Takes the next octet without a look at it. -/
def advance : Reader Unit := fun rest => .ok ((), rest.tail)

/-- Takes the longest run of octets of a class. -/
def takeRun (ofClass : UInt8 → Bool) : Reader Octets := fun rest =>
  .ok (rest.takeWhile ofClass, rest.dropWhile ofClass)

end Reader

open Reader

/-! ## Octets of the notation -/

def openBrace : UInt8 := 0x7B
def closeBrace : UInt8 := 0x7D
def openBracket : UInt8 := 0x5B
def closeBracket : UInt8 := 0x5D
def comma : UInt8 := 0x2C
def colon : UInt8 := 0x3A
def quoteMark : UInt8 := 0x22
def backslash : UInt8 := 0x5C
def minus : UInt8 := 0x2D
def plus : UInt8 := 0x2B
def point : UInt8 := 0x2E
def letterU : UInt8 := 0x75

/-- White space between the parts of a text. -/
def isSpace (octet : UInt8) : Bool :=
  octet == 0x20 || octet == 0x0A || octet == 0x09 || octet == 0x0D

def isDigit (octet : UInt8) : Bool :=
  0x30 ≤ octet && octet ≤ 0x39

/-- The mark in front of an exponent. -/
def isExponentMark (octet : UInt8) : Bool :=
  octet == 0x65 || octet == 0x45

/-- Passes over white space and looks at the octet behind it. -/
def skipSpaces : Reader (Option UInt8) := do
  let _ ← takeRun isSpace
  peek

/-! ## Literals -/

/-- The letters of a literal behind its first one. -/
def expectLetters : Octets → Reader Unit
  | [] => pure ()
  | letter :: rest => do
    match ← next with
    | none => refuseHere .endInValue
    | some octet => if octet = letter then expectLetters rest else refuseHere .unknownLiteral

/-! ## Strings -/

/-- The value of a hexadecimal digit. -/
def hexValue? (octet : UInt8) : Option Nat :=
  if isDigit octet then some (octet.toNat - 0x30)
  else if 0x41 ≤ octet && octet ≤ 0x46 then some (octet.toNat - 0x37)
  else if 0x61 ≤ octet && octet ≤ 0x66 then some (octet.toNat - 0x57)
  else none

/-- The four digits of a code unit.  All four are taken before they are judged. -/
def readUnit : Reader Nat := fun rest =>
  match rest with
  | a :: b :: c :: d :: rest =>
    match hexValue? a, hexValue? b, hexValue? c, hexValue? d with
    | some a, some b, some c, some d => .ok (a * 4096 + b * 256 + c * 16 + d, rest)
    | _, _, _, _ => .error ⟨.invalidEscape, rest.length⟩
  | _ => .error ⟨.endInString, 0⟩

/-- What a one-letter escape stands for. -/
def plainEscape? (octet : UInt8) : Option UInt8 :=
  if octet = quoteMark then some quoteMark
  else if octet = backslash then some backslash
  else if octet = 0x2F then some 0x2F
  else if octet = 0x62 then some 0x08
  else if octet = 0x66 then some 0x0C
  else if octet = 0x6E then some 0x0A
  else if octet = 0x72 then some 0x0D
  else if octet = 0x74 then some 0x09
  else none

def isLowSurrogate (unit : Nat) : Bool := 0xDC00 ≤ unit && unit ≤ 0xDFFF

def isHighSurrogate (unit : Nat) : Bool := 0xD800 ≤ unit && unit ≤ 0xDBFF

/-- One octet that must be the given one; both the wrong one and the right one are taken. -/
def pairOctet (wanted : UInt8) : Reader Unit := do
  match ← next with
  | none => refuseHere .endInString
  | some octet => if octet = wanted then pure () else refuseHere .unfinishedEscape

/-- The character of a code unit escape.  A high surrogate needs its low half right behind it. -/
def readUnitEscape : Reader Octets := do
  let unit ← readUnit
  if isLowSurrogate unit then refuseHere .loneSurrogate
  else if isHighSurrogate unit then do
    pairOctet backslash
    pairOctet letterU
    let low ← readUnit
    if isLowSurrogate low then
      pure (Octets.encode (String.singleton
        (Char.ofNat ((unit - 0xD800) * 1024 + (low - 0xDC00) + 0x10000))))
    else refuseHere .loneSurrogate
  else pure (Octets.encode (String.singleton (Char.ofNat unit)))

/-- What stands behind a backslash. -/
def readEscape : Reader Octets := do
  match ← next with
  | none => refuseHere .endInString
  | some octet =>
    if octet = letterU then readUnitEscape
    else
      match plainEscape? octet with
      | some meant => pure [meant]
      | none => refuseHere .invalidEscape

/-- An octet that stands for itself inside a string. -/
def isPlain (octet : UInt8) : Bool :=
  octet != quoteMark && octet != backslash && 0x20 ≤ octet

/-- The octets of a string up to its closing quotation mark, which is taken too.  Every round
takes an octet at least, so the fuel is the length of what is left. -/
def readStringOctets : Nat → Octets → Reader Octets
  | 0, _ => refuseHere .endInString
  | fuel + 1, done => do
    let run ← takeRun isPlain
    match ← next with
    | none => refuseHere .endInString
    | some octet =>
      if octet = quoteMark then pure (done ++ run)
      else if octet = backslash then do
        let meant ← readEscape
        readStringOctets fuel (done ++ run ++ meant)
      else refuseHere .controlCharacter

/-- The text of a string whose opening quotation mark has been taken. -/
def readString : Reader String := fun rest =>
  ((readStringOctets (rest.length + 1) []).run rest).map fun (octets, rest) =>
    ((Octets.decode? octets).getD "", rest)

/-- Skips what stands behind a backslash. -/
def skipEscape : Reader Unit := do
  match ← next with
  | none => refuseHere .endInString
  | some octet =>
    if octet = letterU then do
      let _ ← readUnit
      pure ()
    else if (plainEscape? octet).isSome then pure ()
    else refuseHere .invalidEscape

/-- Skips the octets of a string.  A raw control character is refused without being taken. -/
def skipStringOctets : Nat → Reader Unit
  | 0 => refuseHere .endInString
  | fuel + 1 => do
    let _ ← takeRun isPlain
    match ← peek with
    | none => refuseHere .endInString
    | some octet =>
      if octet = quoteMark then do
        advance
        pure ()
      else if octet = backslash then do
        advance
        skipEscape
        skipStringOctets fuel
      else refuseHere .controlCharacter

/-- Skips a string whose opening quotation mark has been taken. -/
def skipString : Reader Unit := fun rest => (skipStringOctets (rest.length + 1)).run rest

/-! ## Numbers -/

/-- A number of the notation: a whole one that fits sixty-four bits, or a double. -/
inductive Number where
  | whole (value : Int)
  | real (value : Float)

/-- The number in words of what was met. -/
def Number.met : Number → Met
  | whole value => .whole value
  | real value => .real value

/-- Splits a run of digits where another digit would push the value, continued from a start, to
the bound. -/
def fittingDigits (bound : Nat) : Nat → Octets → Nat × Octets
  | value, [] => (value, [])
  | value, digit :: rest =>
    if value * 10 + (digit.toNat - 0x30) < bound then
      fittingDigits bound (value * 10 + (digit.toNat - 0x30)) rest
    else (value, digit :: rest)

/-- One more than the largest significand that is kept exactly. -/
def significandBound : Nat := UInt64.size

/-- One more than the largest exponent that is kept exactly. -/
def exponentBound : Nat := 0x80000000

/-- A power of ten as a double. -/
def tenTo (exponent : Nat) : Float := Float.ofScientific 1 false exponent

/-- Scales a double by a power of ten, dividing in steps of `10 ^ 308` where the power is too
small to have a reciprocal.  A result beyond the doubles has none. -/
def scaleDouble : Nat → Float → Int → Option Float
  | 0, value, _ => some value
  | fuel + 1, value, exponent =>
    if exponent.natAbs ≤ 308 then
      if 0 ≤ exponent then
        let scaled := value * tenTo exponent.natAbs
        if scaled.isInf then none else some scaled
      else some (value / tenTo exponent.natAbs)
    else if value == 0.0 then some value
    else if 0 ≤ exponent then none
    else scaleDouble fuel (value / tenTo 308) (exponent + 308)

/-- The double of a significand and a power of ten. -/
def makeDouble (positive : Bool) (significand : Nat) (exponent : Int) : Reader Number := do
  let rounds := exponent.natAbs / 308 + 2
  match scaleDouble rounds (UInt64.ofNat significand).toFloat exponent with
  | some value => pure (.real (if positive then value else -value))
  | none => refuseHere .numberOutOfRange

/-- The exponent behind its mark, which is still there. -/
def readExponent (positive : Bool) (significand : Nat) (start : Int) : Reader Number := do
  advance
  let sign ← peek
  if sign = some plus || sign = some minus then do
    advance
  match ← next with
  | none => refuseHere .endInValue
  | some first =>
    if isDigit first then do
      let digits ← takeRun isDigit
      let (exponent, beyond) := fittingDigits exponentBound (first.toNat - 0x30) digits
      if beyond.isEmpty then
        makeDouble positive significand
          (if sign = some minus then start - exponent else start + exponent)
      else if significand != 0 && sign != some minus then
        refuseBack .numberOutOfRange (beyond.length - 1)
      else pure (.real (if positive then 0.0 else -0.0))
    else refuseHere .invalidNumber

/-- Goes on with an exponent if there is one. -/
def maybeExponent (positive : Bool) (significand : Nat) (exponent : Int) : Reader Number := do
  match ← peek with
  | some octet =>
    if isExponentMark octet then readExponent positive significand exponent
    else makeDouble positive significand exponent
  | none => makeDouble positive significand exponent

/-- The places behind the point, which is still there.  Places that no longer fit the significand
are dropped. -/
def readPlaces (positive : Bool) (significand : Nat) (exponent : Int) : Reader Number := do
  advance
  let digits ← takeRun isDigit
  let (value, beyond) := fittingDigits significandBound significand digits
  let places := digits.length - beyond.length
  if digits.isEmpty then do
    match ← peek with
    | some _ => refuseNext .invalidNumber
    | none => refuseNext .endInValue
  else maybeExponent positive value (exponent - places)

/-- A whole number that fits, with its sign; a negative one below the range of sixty-four bits and
a negative zero become doubles. -/
def wholeNumber (positive : Bool) (significand : Nat) : Number :=
  if positive then .whole significand
  else if significand = 0 || 0x8000000000000000 < significand then
    .real (-(UInt64.ofNat significand).toFloat)
  else .whole (-(significand : Int))

/-- What stands behind the whole part of a number. -/
def readNumberRest (positive : Bool) (significand : Nat) (dropped : Nat) : Reader Number := do
  match ← peek with
  | some octet =>
    if octet = point then readPlaces positive significand dropped
    else if isExponentMark octet then readExponent positive significand dropped
    else if dropped = 0 then pure (wholeNumber positive significand)
    else makeDouble positive significand dropped
  | none =>
    if dropped = 0 then pure (wholeNumber positive significand)
    else makeDouble positive significand dropped

/-- A number behind its sign.  A zero is not followed by another digit. -/
def readNumber (positive : Bool) : Reader Number := do
  match ← next with
  | none => refuseHere .endInValue
  | some first =>
    if first = 0x30 then do
      match ← peek with
      | some octet =>
        if isDigit octet then refuseNext .invalidNumber else readNumberRest positive 0 0
      | none => readNumberRest positive 0 0
    else if isDigit first then do
      let digits ← takeRun isDigit
      let (significand, beyond) := fittingDigits significandBound (first.toNat - 0x30) digits
      readNumberRest positive significand beyond.length
    else refuseHere .invalidNumber

/-- Skips an exponent, whose mark is still there. -/
def skipExponent : Reader Unit := do
  advance
  let sign ← peek
  if sign = some plus || sign = some minus then do
    advance
  match ← next with
  | some octet =>
    if isDigit octet then do
      let _ ← takeRun isDigit
      pure ()
    else refuseHere .invalidNumber
  | none => refuseHere .invalidNumber

/-- Skips an exponent if there is one. -/
def skipMaybeExponent : Reader Unit := do
  match ← peek with
  | some octet => if isExponentMark octet then skipExponent else pure ()
  | none => pure ()

/-- Skips a number behind its sign. -/
def skipNumber : Reader Unit := do
  match ← next with
  | none => refuseHere .invalidNumber
  | some first =>
    if !isDigit first then refuseHere .invalidNumber
    else do
      if first != 0x30 then
        let _ ← takeRun isDigit
      match ← peek with
      | none => pure ()
      | some octet =>
        if isDigit octet then refuseNext .invalidNumber
        else if octet = point then do
          advance
          let places ← takeRun isDigit
          if places.isEmpty then refuseNext .invalidNumber else skipMaybeExponent
        else skipMaybeExponent

/-! ## Values that nobody asks for -/

/-- Skips a value that is neither a list nor an object; says whether it was an opening bracket of
one instead. -/
def skipScalar : Reader (Option UInt8) := do
  match ← skipSpaces with
  | none => refuseNext .endInValue
  | some octet =>
    if octet = 0x6E then do
      advance
      expectLetters (Octets.encode "ull")
      pure none
    else if octet = 0x74 then do
      advance
      expectLetters (Octets.encode "rue")
      pure none
    else if octet = 0x66 then do
      advance
      expectLetters (Octets.encode "alse")
      pure none
    else if octet = minus then do
      advance
      skipNumber
      pure none
    else if isDigit octet then do
      skipNumber
      pure none
    else if octet = quoteMark then do
      advance
      skipString
      pure none
    else if octet = openBracket || octet = openBrace then do
      advance
      pure (some octet)
    else refuseNext .noValue

/-- The bracket that closes what a bracket opened. -/
def closing (opened : UInt8) : UInt8 :=
  if opened = openBracket then closeBracket else closeBrace

/-- Skips a key and its colon if the enclosing value is an object. -/
def skipKey (enclosing : UInt8) : Reader Unit := do
  if enclosing = openBrace then do
    match ← skipSpaces with
    | none => refuseNext .endInObject
    | some octet =>
      if octet = quoteMark then do
        advance
      else refuseNext .keyNotString
    skipString
    match ← skipSpaces with
    | none => refuseNext .endInObject
    | some octet =>
      if octet = colon then do
        advance
      else refuseNext .missingColon
  else pure ()

/-- Goes on behind a value or an opening bracket inside the open brackets, innermost first.  The
answer holds the brackets that are still open when another value must follow; none are left when
the outermost one has been closed. -/
def skipClosings : Bool → List UInt8 → Reader (List UInt8)
  | _, [] => pure []
  | behindValue, innermost :: outer => do
    match ← skipSpaces with
    | none => refuseNext (if innermost = openBracket then .endInList else .endInObject)
    | some octet =>
      if octet = comma && behindValue then do
        advance
        pure (innermost :: outer)
      else if octet = closing innermost then do
        advance
        skipClosings true outer
      else if behindValue then
        refuseNext (if innermost = openBracket then .listNotContinued else .objectNotContinued)
      else pure (innermost :: outer)

/-- Skips values until every open bracket is closed.  Every round takes an octet at least. -/
def skipValues : Nat → List UInt8 → Reader Unit
  | 0, _ => pure ()
  | fuel + 1, unclosed => do
    let opened ← skipScalar
    let still ← match opened with
      | some bracket => skipClosings false (bracket :: unclosed)
      | none => skipClosings true unclosed
    match still with
    | [] => pure ()
    | innermost :: outer => do
      skipKey innermost
      skipValues fuel (innermost :: outer)

/-- Skips one value of any kind. -/
def skipValue : Reader Unit := fun rest => (skipValues (rest.length + 1) []).run rest

end Json
end PromiseHttp
