import PromiseHttp.Fault.Failure

namespace PromiseHttp
namespace Promise

/-!
# Values and outcomes

What promises carry and how waits on them end.  A promise of several values carries a list, and a
promise of the first of several carries the place of the winner together with its value; both are
lists here, so that promises of every kind live side by side.
-/

/-- A value carried by a promise. -/
inductive Value where
  | null
  | flag (value : Bool)
  | whole (value : Int)
  | text (value : String)
  | list (values : List Value)
  | record (fields : List (String × Value))

namespace Value

instance : Inhabited Value := ⟨null⟩

/-- The value of the promise that wins a race, with its place. -/
def placed (place : Nat) (value : Value) : Value :=
  .list [.whole place, value]

/-- Whether a whole number fits a signed 64-bit word. -/
def fitsWord (value : Int) : Bool :=
  -0x8000000000000000 ≤ value && value < 0x8000000000000000

/-- Adds to a number that fits a signed 64-bit word, wrapping around; nothing else can be added
to. -/
def add (amount : Int) : Value → Value
  | .whole value =>
    if fitsWord value then .whole (Int.bmod (value + amount) UInt64.size) else .text "not a number"
  | _ => .text "not a number"

end Value

/-- How a bounded wait ends. -/
inductive WaitOutcome where
  | ready (value : Value)
  | failed (failure : Failure)
  | timedOut

namespace WaitOutcome

/-- A wait that ends because the promise settled. -/
def ofOutcome : Outcome Value → WaitOutcome
  | .ok value => ready value
  | .error failure => failed failure

/-- What a wait for as long as it takes returns.  One that ended without an outcome would count as
abandoned. -/
def returned : WaitOutcome → Outcome Value
  | ready value => .ok value
  | failed failure => .error failure
  | timedOut => .error .abandoned

/-- Whether the deadline passed first. -/
def isTimedOut : WaitOutcome → Bool
  | timedOut => true
  | _ => false

/-- The value, if there is one. -/
def value? : WaitOutcome → Option Value
  | ready value => some value
  | _ => none

end WaitOutcome

/-- What a chained promise does when its source is rejected. -/
inductive FailurePolicy where
  /-- It is rejected with the same failure. -/
  | propagate
  /-- The failure is logged and the chained promise stays as it is. -/
  | ignore
  deriving DecidableEq, Repr

/-- How serious a log entry is. -/
inductive LogLevel where
  | error
  | warn
  | info
  deriving DecidableEq, Repr

/-- An entry of the log, with its named details. -/
structure LogEntry where
  level : LogLevel
  message : String
  details : List (String × String)
  deriving DecidableEq, Repr

end Promise
end PromiseHttp
