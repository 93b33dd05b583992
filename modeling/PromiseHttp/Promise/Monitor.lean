import PromiseHttp.Promise.Value

namespace PromiseHttp
namespace Promise

/-!
# Waiting at a barrier

A barrier has a slot behind a lock.  The continuation of the barrier takes the lock, fills the slot
with the outcome of the promise, wakes everybody who sleeps there, and gives the lock back.  A party
that waits takes the lock and looks.  If the slot is full the party leaves with the outcome; if the
time it was willing to wait is up it leaves without one; otherwise it gives the lock back and falls
asleep, and nothing can come between these two.  A sleeper that wakes, for whatever reason, looks
again.

An event is one step of one party or of the continuation, and events come in any order.  An event
that is not possible, such as a look while the lock is held, changes nothing.
-/

/-- Where a party is that waits at a barrier. -/
inductive WaitStage where
  /-- On its way to the lock, because it has just come or has just been woken. -/
  | approaching
  | asleep
  /-- Gone, with the way its wait ended. -/
  | left (ending : WaitOutcome)

/-- A party that waits at a barrier. -/
structure WaitingParty where
  /-- Whether it waits for a time only. -/
  bounded : Bool
  /-- Whether that time is up. -/
  expired : Bool
  stage : WaitStage

namespace WaitingParty

/-- A party that has just come. -/
def new (bounded : Bool) : WaitingParty := ⟨bounded, false, .approaching⟩

/-- Takes the lock and looks at the slot. -/
def look (party : WaitingParty) (content : Option (Outcome Value)) : WaitingParty :=
  match party.stage with
  | .approaching =>
    match content with
    | some outcome => { party with stage := .left (.ofOutcome outcome) }
    | none =>
      if party.expired then { party with stage := .left .timedOut }
      else { party with stage := .asleep }
  | _ => party

/-- Wakes the party if it sleeps. -/
def wake (party : WaitingParty) : WaitingParty :=
  match party.stage with
  | .asleep => { party with stage := .approaching }
  | _ => party

/-- Lets the time of the party run out; a party that waits for as long as it takes has no such
time. -/
def expire (party : WaitingParty) : WaitingParty :=
  { party with expired := party.bounded }

/-- How the wait of the party ended, if it has. -/
def ending? (party : WaitingParty) : Option WaitOutcome :=
  match party.stage with
  | .left ending => some ending
  | _ => none

end WaitingParty

/-- How far the continuation of a barrier has come. -/
inductive FillStage where
  | ahead
  /-- It has filled the slot and still holds the lock. -/
  | holding
  | finished
  deriving DecidableEq, Repr

/-- The slot of a barrier, its continuation, and everybody who has come to wait. -/
structure Monitor where
  content : Option (Outcome Value)
  filling : FillStage
  parties : List WaitingParty

namespace Monitor

/-- One step of somebody at a barrier; parties are numbered in the order in which they come. -/
inductive Event where
  | arrive (bounded : Bool)
  | look (party : Nat)
  /-- Wakes one party without a reason. -/
  | wake (party : Nat)
  /-- The time of a party is up. -/
  | expire (party : Nat)
  | fill
  /-- Wakes all parties and gives the lock back. -/
  | wakeAll

/-- A barrier that nobody waits at, on a promise that is pending or has settled. -/
def unattended : Option (Outcome Value) → Monitor
  | none => ⟨none, .ahead, []⟩
  | some outcome => ⟨some outcome, .finished, []⟩

/-- What an event changes at a barrier, given the outcome of its promise so far. -/
def step (promised : Option (Outcome Value)) (monitor : Monitor) : Event → Monitor
  | .arrive bounded => { monitor with parties := monitor.parties ++ [.new bounded] }
  | .look party =>
    if monitor.filling = .holding then monitor
    else { monitor with
      parties := monitor.parties.modify party fun found => found.look monitor.content }
  | .wake party => { monitor with parties := monitor.parties.modify party WaitingParty.wake }
  | .expire party => { monitor with parties := monitor.parties.modify party WaitingParty.expire }
  | .fill =>
    match promised, monitor.filling with
    | some outcome, .ahead => { monitor with content := some outcome, filling := .holding }
    | _, _ => monitor
  | .wakeAll =>
    if monitor.filling = .holding then
      { monitor with filling := .finished, parties := monitor.parties.map WaitingParty.wake }
    else monitor

/-- The events of a wait during which nothing happens but that its time runs out. -/
def undisturbed (bounded : Bool) : List Event :=
  [.arrive bounded, .look 0, .expire 0, .wake 0, .look 0]

/-- How a wait ends that begins now and is not disturbed, if it ends. -/
def waitOut? (content : Option (Outcome Value)) (bounded : Bool) : Option WaitOutcome :=
  let monitor := (undisturbed bounded).foldl (step content) (unattended content)
  monitor.parties.head?.bind WaitingParty.ending?

end Monitor

/-! ## Barriers on one promise -/

/-- A promise and the barriers on it, in the order in which they were attached. -/
structure WaitingRoom where
  promised : Option (Outcome Value)
  barriers : List Monitor

namespace WaitingRoom

/-- One step of somebody who has to do with the promise or with a barrier on it. -/
inductive Event where
  /-- Attaches a barrier, whose continuation runs later. -/
  | attach
  | settle (outcome : Outcome Value)
  | atBarrier (place : Nat) (event : Monitor.Event)

/-- A pending promise without barriers. -/
def empty : WaitingRoom := ⟨none, []⟩

/-- What an event changes.  A promise that has settled keeps its outcome. -/
def step (room : WaitingRoom) : Event → WaitingRoom
  | .attach => { room with barriers := room.barriers ++ [.unattended none] }
  | .settle outcome => { room with promised := room.promised.or (some outcome) }
  | .atBarrier place event =>
    { room with
      barriers := room.barriers.modify place fun monitor => monitor.step room.promised event }

/-- The room after a run of events. -/
def after (events : List Event) : WaitingRoom := events.foldl step empty

end WaitingRoom

end Promise
end PromiseHttp
