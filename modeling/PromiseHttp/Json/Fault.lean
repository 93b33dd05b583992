import PromiseHttp.Text.Octets
import PromiseHttp.Text.Quoted
import PromiseHttp.Text.Numeral
import PromiseHttp.Text.Shortest

namespace PromiseHttp
namespace Json

/-!
# Faults of a configuration text

A configuration is refused at the first octet where it goes wrong, and the refusal names the line
and the column.  A fault found at an octet that was only looked at points one further than a
fault found in octets already taken, but never behind the end of the text.
-/

/-- What was met where something else was expected. -/
inductive Met where
  | null
  | flag (value : Bool)
  | whole (value : Int)
  | real (value : Float)
  | text (value : String)
  | sequence
  | map

/-- The thing met, in words. -/
def Met.words : Met → String
  | null => "null"
  | flag value => "boolean `" ++ (if value then "true" else "false") ++ "`"
  | whole value => "integer `" ++ toString value ++ "`"
  | real value => "floating point `" ++ Text.shortestDouble value ++ "`"
  | text value => "string " ++ Text.quote value
  | sequence => "sequence"
  | map => "map"

/-- Why a configuration text is refused. -/
inductive Cause where
  | endInValue
  | endInObject
  | endInList
  | endInString
  | missingColon
  | listNotContinued
  | objectNotContinued
  | unknownLiteral
  | noValue
  | invalidEscape
  | invalidNumber
  | numberOutOfRange
  | keyNotString
  | controlCharacter
  | loneSurrogate
  | unfinishedEscape
  | trailingComma
  | trailingCharacters
  | wrongType (met : Met) (expected : String)
  | wrongValue (value : Int) (expected : String)
  | repeatedField (name : String)
  | unknownChoice (name : String) (choices : List String)

/-- The choices of a field in words. -/
def choiceWords (choices : List String) : String :=
  " or ".intercalate (choices.map fun choice => "`" ++ choice ++ "`")

/-- The cause in words. -/
def Cause.words : Cause → String
  | endInValue => "EOF while parsing a value"
  | endInObject => "EOF while parsing an object"
  | endInList => "EOF while parsing a list"
  | endInString => "EOF while parsing a string"
  | missingColon => "expected `:`"
  | listNotContinued => "expected `,` or `]`"
  | objectNotContinued => "expected `,` or `\x7d`"
  | unknownLiteral => "expected ident"
  | noValue => "expected value"
  | invalidEscape => "invalid escape"
  | invalidNumber => "invalid number"
  | numberOutOfRange => "number out of range"
  | keyNotString => "key must be a string"
  | controlCharacter => "control character (\\u0000-\\u001F) found while parsing a string"
  | loneSurrogate => "lone leading surrogate in hex escape"
  | unfinishedEscape => "unexpected end of hex escape"
  | trailingComma => "trailing comma"
  | trailingCharacters => "trailing characters"
  | wrongType met expected => "invalid type: " ++ met.words ++ ", expected " ++ expected
  | wrongValue value expected =>
    "invalid value: integer `" ++ toString value ++ "`, expected " ++ expected
  | repeatedField name => "duplicate field `" ++ name ++ "`"
  | unknownChoice name choices =>
    "unknown variant `" ++ name ++ "`, expected " ++ choiceWords choices

/-- A cause and how many octets were left behind the place it points to. -/
structure Refusal where
  cause : Cause
  left : Nat

/-- A fault of a configuration text, with the place in the text. -/
structure Fault where
  cause : Cause
  line : Nat
  column : Nat

/-- The fault in words. -/
def Fault.message (fault : Fault) : String :=
  fault.cause.words ++ " at line " ++ Text.numeral fault.line ++
    " column " ++ Text.numeral fault.column

/-- The line feed, which ends a line. -/
def lineFeed : UInt8 := 10

/-- Finds the place of a refusal in the text.  Lines count from one; the column counts the octets
behind the last line feed. -/
def Refusal.locate (refusal : Refusal) (whole : Octets) : Fault :=
  let before := whole.take (whole.length - refusal.left)
  let line := (before.filter (· == lineFeed)).length + 1
  let column := (before.reverse.takeWhile (· != lineFeed)).length
  ⟨refusal.cause, line, column⟩

end Json
end PromiseHttp
