import PromiseHttp.Promise.Value

namespace PromiseHttp
namespace Promise

/-!
# Actions on promises

An action is one operation on the promises that have a name.  Continuations are programs too: what
runs when a promise settles is a list of actions, and what is chained onto a value is a mapping
that may perform actions of its own.  So every program over promises, nested to any depth, is a
finite piece of data, and the weight of an action bounds the work it can cause.
-/

mutual

/-- One operation on named promises. -/
inductive Action where
  /-- Names a new pending promise. -/
  | create (fresh : String)
  | resolved (fresh : String) (value : Value)
  | rejected (fresh : String) (failure : Failure)
  /-- Gives a promise a second name. -/
  | share (fresh name : String)
  /-- Takes a name away. -/
  | drop (name : String)
  | resolve (name : String) (value : Value)
  | reject (name : String) (failure : Failure)
  /-- Settles without complaint when the promise has settled before. -/
  | settle (name : String) (outcome : Outcome Value)
  /-- Performs an action on another thread and waits for it. -/
  | onThread (action : Action)
  /-- Registers a list of actions to run with the outcome. -/
  | onComplete (name label : String) (body : List Action)
  | panic (text : String)
  /-- Chains a mapping onto the value of a promise. -/
  | chain (fresh source : String) (mapping : Mapping) (policy : FailurePolicy)
  | whenAll (fresh : String) (inputs : List String)
  | whenAny (fresh : String) (inputs : List String)
  | peek (name : String)
  | isSettled (name : String)
  | describe (name : String)
  /-- Attaches a barrier. -/
  | barrier (fresh name : String)
  | wait (barrier : String)
  /-- Waits at a barrier for a time, in milliseconds. -/
  | waitFor (barrier : String) (patience : Nat)
  /-- Starts a thread that waits at a barrier, for a time or for as long as it takes. -/
  | spawnWait (fresh barrier : String) (patience : Option Nat)
  | join (thread : String)
  /-- Awaits a promise for a time and keeps its name. -/
  | await (name : String) (patience : Nat)
  /-- Awaits a promise for a time and gives its name up first. -/
  | awaitTake (name : String) (patience : Nat)
  | future (fresh name : String)
  /-- Turns a promise into a future and gives its name up. -/
  | futureTake (fresh name : String)
  | poll (future : String)

/-- What is chained onto the value of a promise. -/
inductive Mapping where
  | add (amount : Int)
  | const (value : Value)
  | wrap
  | identity
  | panic (text : String)
  /-- Performs actions and hands the value on. -/
  | perform (body : List Action)

end

instance : Inhabited Action := ⟨.panic ""⟩

instance : Inhabited Mapping := ⟨.identity⟩

mutual

/-- A bound on the work that performing an action can cause. -/
def Action.weight : Action → Nat
  | .onComplete _ _ body => 8 + Action.weights body
  | .chain _ _ mapping _ => 16 + mapping.weight
  | .whenAll _ inputs => 8 + 8 * inputs.length
  | .whenAny _ inputs => 8 + 8 * inputs.length
  | .onThread action => 2 + action.weight
  | _ => 8

/-- A bound on the work of a mapping beyond settling the chained promise. -/
def Mapping.weight : Mapping → Nat
  | .perform body => 2 + Action.weights body
  | _ => 0

/-- A bound on the work of a list of actions. -/
def Action.weights : List Action → Nat
  | [] => 0
  | action :: rest => 2 + action.weight + Action.weights rest

end

/-- What a mapping does with a value when it performs no actions: it hands a value on or panics. -/
def Mapping.apply? (mapping : Mapping) (value : Value) : Option (Except String Value) :=
  match mapping with
  | .add amount => some (.ok (value.add amount))
  | .const constant => some (.ok constant)
  | .wrap => some (.ok (.list [value]))
  | .identity => some (.ok value)
  | .panic text => some (.error text)
  | .perform _ => none

end Promise
end PromiseHttp
