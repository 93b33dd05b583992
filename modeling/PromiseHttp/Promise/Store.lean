import PromiseHttp.Promise.Action
import PromiseHttp.Text.Quoted
import PromiseHttp.Text.Numeral
import PromiseHttp.Tally

namespace PromiseHttp
namespace Promise

/-!
# Cells

Every promise is a handle to a cell.  A cell is pending with the continuations registered so far,
or settled with its one outcome, or abandoned: it was pending and the last party that could have
settled it let go.  A cell counts its holders.  Holders are the names given to it and the links
that will settle it, which sit among the continuations of other cells or are about to run.

Letting go of the last hold on a pending cell drops its continuations unrun.  That lets go of the
cells their links would have settled, and it closes the channels they would have sent on.
-/

abbrev CellId := Nat
abbrev BoardId := Nat
abbrev SlotId := Nat
abbrev ChannelId := Nat

/-- What is registered on a pending cell. -/
inductive Continuation where
  /-- Reports the outcome under a label, then performs actions. -/
  | observe (label : String) (body : List Action)
  /-- Settles a chained cell with the mapped value. -/
  | link (target : CellId) (mapping : Mapping) (policy : FailurePolicy)
  /-- Enters the value on a board and settles the target when the board is full. -/
  | gather (target : CellId) (board : BoardId) (place : Nat)
  /-- Settles the target with the outcome and its place. -/
  | race (target : CellId) (place : Nat)
  /-- Fills the slot of a barrier. -/
  | fill (slot : SlotId)
  /-- Sends the outcome to a future. -/
  | send (channel : ChannelId)

namespace Continuation

/-- The cell that a continuation holds. -/
def target? : Continuation → Option CellId
  | link target _ _ => some target
  | gather target _ _ => some target
  | race target _ => some target
  | _ => none

/-- The channel that a continuation sends on. -/
def channel? : Continuation → Option ChannelId
  | send channel => some channel
  | _ => none

/-- A bound on the work of running a continuation. -/
def weight : Continuation → Nat
  | observe _ body => 4 + Action.weights body
  | link _ mapping _ => 12 + mapping.weight
  | gather _ _ _ => 8
  | race _ _ => 8
  | fill _ => 2
  | send _ => 2

end Continuation

/-- The state of a cell. -/
inductive CellState where
  | pending (continuations : List Continuation)
  | settled (outcome : Outcome Value)
  | abandoned

/-- A cell and the number of its holders. -/
structure Cell where
  state : CellState
  holders : Nat

/-- The values gathered for a combined promise. -/
structure Board where
  total : Nat
  values : List (Option Value)
  entered : Nat

/-- The receiving side of a future. -/
inductive Channel where
  | waiting
  | delivered (outcome : Outcome Value)
  | closed

/-- All cells, and what their continuations share with the outside. -/
structure Store where
  cells : List Cell
  boards : List Board
  slots : List (Option (Outcome Value))
  channels : List Channel

namespace Store

/-- Nothing. -/
def empty : Store := ⟨[], [], [], []⟩

/-- The state of a cell; a cell that does not exist counts as abandoned. -/
def state (store : Store) (cell : CellId) : CellState :=
  match store.cells[cell]? with
  | some found => found.state
  | none => .abandoned

/-- The outcome of a cell, if it has settled. -/
def outcome? (store : Store) (cell : CellId) : Option (Outcome Value) :=
  match store.state cell with
  | .settled outcome => some outcome
  | _ => none

/-- Changes one cell. -/
def modifyCell (store : Store) (cell : CellId) (change : Cell → Cell) : Store :=
  { store with cells := store.cells.modify cell change }

/-- A new cell with one holder. -/
def addCell (store : Store) (state : CellState) : Store × CellId :=
  ({ store with cells := store.cells ++ [⟨state, 1⟩] }, store.cells.length)

/-- One more holder. -/
def hold (store : Store) (cell : CellId) : Store :=
  store.modifyCell cell fun found => { found with holders := found.holders + 1 }

/-- Gives a cell a new state. -/
def setState (store : Store) (cell : CellId) (state : CellState) : Store :=
  store.modifyCell cell fun found => { found with state := state }

/-- Registers a continuation on a pending cell; on another cell it is dropped. -/
def register (store : Store) (cell : CellId) (continuation : Continuation) : Store :=
  match store.state cell with
  | .pending continuations => store.setState cell (.pending (continuations ++ [continuation]))
  | _ => store

/-! ## Slots and channels -/

/-- A new empty slot. -/
def addSlot (store : Store) : Store × SlotId :=
  ({ store with slots := store.slots ++ [none] }, store.slots.length)

/-- Fills a slot. -/
def fillSlot (store : Store) (slot : SlotId) (outcome : Outcome Value) : Store :=
  { store with slots := store.slots.set slot (some outcome) }

/-- The content of a slot. -/
def slot? (store : Store) (slot : SlotId) : Option (Outcome Value) :=
  (store.slots[slot]?).join

/-- A new channel that waits. -/
def addChannel (store : Store) : Store × ChannelId :=
  ({ store with channels := store.channels ++ [.waiting] }, store.channels.length)

/-- What a channel holds; a channel that does not exist counts as closed. -/
def channel (store : Store) (channel : ChannelId) : Channel :=
  (store.channels[channel]?).getD .closed

/-- Sends an outcome on a channel. -/
def deliver (store : Store) (channel : ChannelId) (outcome : Outcome Value) : Store :=
  { store with channels := store.channels.set channel (.delivered outcome) }

/-- Closes a channel on which nothing was sent. -/
def closeChannel (store : Store) (channel : ChannelId) : Store :=
  { store with
    channels := store.channels.modify channel fun
      | .waiting => .closed
      | other => other }

/-! ## Letting go -/

/-- Drops continuations unrun: closes their channels and names the cells they held. -/
def dropContinuations (store : Store) (continuations : List Continuation) :
    Store × List CellId :=
  ((continuations.filterMap Continuation.channel?).foldl closeChannel store,
    continuations.filterMap Continuation.target?)

/-- One holder of a cell lets go.  The answer names the cells that are let go of in turn. -/
def releaseOne (store : Store) (cell : CellId) : Store × List CellId :=
  match store.cells[cell]? with
  | none => (store, [])
  | some found =>
    let counted := store.modifyCell cell fun found => { found with holders := found.holders - 1 }
    if found.holders ≤ 1 then
      match found.state with
      | .pending continuations =>
        (counted.setState cell .abandoned).dropContinuations continuations
      | _ => (counted, [])
    else (counted, [])

/-- The number of continuations registered on a cell. -/
def Cell.registered (cell : Cell) : Nat :=
  match cell.state with
  | .pending continuations => continuations.length
  | _ => 0

/-- Lets go of cells one after another, those that follow from it included. -/
def releaseAll : Nat → Store → List CellId → Store
  | 0, store, _ => store
  | _, store, [] => store
  | fuel + 1, store, cell :: rest =>
    let (store, further) := store.releaseOne cell
    releaseAll fuel store (rest ++ further)

/-- One holder of a cell lets go of it.  Every hold that follows from it belongs to a registered
continuation, so their number bounds the work. -/
def release (store : Store) (cell : CellId) : Store :=
  releaseAll (tally Cell.registered store.cells + 1) store [cell]

/-! ## Settling -/

/-- Settles a pending cell and hands out the continuations that are to run, in the order of their
registration.  A cell that has settled keeps its outcome. -/
def settle? (store : Store) (cell : CellId) (outcome : Outcome Value) :
    Option (Store × List Continuation) :=
  match store.state cell with
  | .pending continuations => some (store.setState cell (.settled outcome), continuations)
  | _ => none

/-! ## Combining -/

/-- A new board with an empty place for every input. -/
def addBoard (store : Store) (total : Nat) : Store × BoardId :=
  ({ store with boards := store.boards ++ [⟨total, List.replicate total none, 0⟩] },
    store.boards.length)

/-- Enters a value on a board.  The entry that completes the board takes all values off it. -/
def enter (store : Store) (board : BoardId) (place : Nat) (value : Value) :
    Store × Option (List Value) :=
  match store.boards[board]? with
  | none => (store, none)
  | some found =>
    let values := found.values.set place (some value)
    if found.entered + 1 = found.total then
      ({ store with boards := store.boards.set board ⟨found.total, [], found.entered + 1⟩ },
        some (values.filterMap id))
    else
      ({ store with boards := store.boards.set board ⟨found.total, values, found.entered + 1⟩ },
        none)

/-- What a gathering link settles its target with, if anything yet. -/
def gatherOutcome (store : Store) (board : BoardId) (place : Nat) (outcome : Outcome Value) :
    Store × Option (Outcome Value) :=
  match outcome with
  | .error failure => (store, some (.error failure))
  | .ok value =>
    let (store, complete) := store.enter board place value
    (store, complete.map fun values => .ok (.list values))

/-- What a racing link settles its target with. -/
def raceOutcome (place : Nat) (outcome : Outcome Value) : Outcome Value :=
  outcome.map (Value.placed place)

/-- Links the inputs of a combined promise to its cell, from a place on.  An input that has
settled acts at once; nothing is registered on the new cell yet, so settling it runs nothing. -/
def enlist (store : Store) (target : CellId)
    (arrive : Store → Nat → Outcome Value → Store × Option (Outcome Value))
    (link : Nat → Continuation) : Nat → List CellId → Store
  | _, [] => store
  | place, input :: rest =>
    match store.outcome? input with
    | none => enlist ((store.hold target).register input (link place)) target arrive link
        (place + 1) rest
    | some outcome =>
      let (store, settling) := arrive store place outcome
      let store := match settling with
        | none => store
        | some outcome =>
          match store.settle? target outcome with
          | some (store, _) => store
          | none => store
      enlist store target arrive link (place + 1) rest

/-- A new cell that settles with all values of the inputs. -/
def whenAll (store : Store) (inputs : List CellId) : Store × CellId :=
  if inputs.isEmpty then store.addCell (.settled (.ok (.list [])))
  else
    let (store, target) := store.addCell (.pending [])
    let (store, board) := store.addBoard inputs.length
    (store.enlist target (fun store place outcome => store.gatherOutcome board place outcome)
      (.gather target board ·) 0 inputs, target)

/-- A new cell that settles like the first of the inputs to settle. -/
def whenAny (store : Store) (inputs : List CellId) : Store × CellId :=
  if inputs.isEmpty then store.addCell (.settled (.error .nothingToAwait))
  else
    let (store, target) := store.addCell (.pending [])
    (store.enlist target (fun store place outcome => (store, some (raceOutcome place outcome)))
      (.race target ·) 0 inputs, target)

/-! ## Showing -/

/-- The state of a cell as a word. -/
def stateText (store : Store) (cell : CellId) : String :=
  match store.state cell with
  | .pending continuations =>
    "Pending(" ++ Text.numeral continuations.length ++ " continuations)"
  | .settled (.ok _) => "Resolved"
  | .settled (.error failure) => "Rejected(" ++ failure.message ++ ")"
  | .abandoned => "Pending(0 continuations)"

/-- A promise as it is shown in logs. -/
def describe (store : Store) (cell : CellId) : String :=
  "Promise \x7b state: " ++ Text.quote (store.stateText cell) ++ " \x7d"

/-- A bound on the work of all registered continuations. -/
def weight (store : Store) : Nat :=
  tally (fun cell =>
    match cell.state with
    | .pending continuations => tally Continuation.weight continuations
    | _ => 0) store.cells

end Store

end Promise
end PromiseHttp
