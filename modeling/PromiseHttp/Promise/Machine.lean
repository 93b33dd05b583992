import PromiseHttp.Promise.Monitor
import PromiseHttp.Promise.Store

namespace PromiseHttp
namespace Promise

/-!
# Performing actions

Settling a promise runs its continuations one after another, and these may settle further promises,
register on the one that is settling, or panic.  The machine makes every such step visible: its
control is what is being done now, and its frames are what waits for that to come to an end.

A panic unwinds the frames.  It stops at a settlement that is under way, which runs the remaining
continuations first and then goes on with the first panic it met, and at a thread, whose starter
learns of it as a result.  On its way it lets go of what the unwound frames held.
-/

/-- The result of an action. -/
inductive Result where
  | nothing
  | done
  /-- The promise had settled before. -/
  | alreadySettled
  | pending
  | outcome (outcome : Outcome Value)
  | flag (value : Bool)
  | text (value : String)
  | waited (outcome : WaitOutcome)
  | panicked (text : String)
  /-- The wait can only be ended from elsewhere. -/
  | blocked

/-- What a labelled continuation reports. -/
inductive Report where
  | settled (outcome : Outcome Value)
  | step (result : Result)

/-- A thread that waits at a barrier. -/
structure Waiter where
  slot : SlotId
  /-- How much longer it is willing to wait, in milliseconds, unless it waits for as long as it
  takes. -/
  patience : Option Nat
  /-- Whether its time ran out at an empty slot. -/
  gaveUp : Bool

/-- The thread after some time in which its slot stayed as it is.  At a full slot it has left with
the outcome, and time means nothing to it. -/
def Waiter.elapse (waiter : Waiter) (full : Bool) (time : Nat) : Waiter :=
  match waiter.patience with
  | some patience =>
    if full then waiter
    else
      { waiter with
        patience := some (patience - time)
        gaveUp := waiter.gaveUp || patience ≤ time }
  | none => waiter

/-- The cells together with everything that has a name, and what has been reported and logged. -/
structure Scene where
  store : Store
  names : List (String × CellId)
  barriers : List (String × SlotId)
  futures : List (String × ChannelId)
  waiters : List (String × Waiter)
  reports : List (String × Report)
  logs : List LogEntry

/-- What waits for the control to come to an end. -/
inductive Frame where
  /-- Further actions; their results are reported if there is a label. -/
  | body (label : Option String) (rest : List Action)
  /-- Continuations that are still to run with an outcome, and the first panic among those that
  have run. -/
  | drain (outcome : Outcome Value) (rest : List Continuation) (panic : Option String)
  /-- Somebody who must not settle twice. -/
  | complain (verb : String)
  /-- A mapping that performs actions before it settles its target with the value. -/
  | hand (target : CellId) (value : Value)
  /-- A link that lets go of its target when it is done. -/
  | letGo (cell : CellId)
  /-- A promise that is named when the work on it is done. -/
  | name (fresh : String) (cell : CellId)
  /-- The boundary of a thread. -/
  | thread

/-- What is being done. -/
inductive Control where
  | perform (action : Action)
  | settle (cell : CellId) (outcome : Outcome Value)
  | run (continuation : Continuation) (outcome : Outcome Value)
  | answer (result : Result)
  | panic (text : String)

/-- A machine in the middle of its work. -/
structure Machine where
  scene : Scene
  control : Control
  frames : List Frame

namespace Scene

/-- Nothing. -/
def empty : Scene := ⟨.empty, [], [], [], [], [], []⟩

/-- Appends to the log. -/
def log (scene : Scene) (level : LogLevel) (message : String)
    (details : List (String × String)) : Scene :=
  { scene with logs := scene.logs ++ [⟨level, message, details⟩] }

/-- Appends a report. -/
def report (scene : Scene) (label : String) (report : Report) : Scene :=
  { scene with reports := scene.reports ++ [(label, report)] }

/-- Removes a key from an association list. -/
def without {α : Type} (key : String) (entries : List (String × α)) : List (String × α) :=
  entries.filter fun entry => entry.1 != key

/-- Gives a cell a name and takes the name from the cell that had it before. -/
def bind (scene : Scene) (fresh : String) (cell : CellId) : Scene :=
  let named := { scene with names := (fresh, cell) :: without fresh scene.names }
  match scene.names.lookup fresh with
  | none => named
  | some earlier => { named with store := named.store.release earlier }

/-- Takes a name away without letting go of its cell. -/
def unbind (scene : Scene) (name : String) : Scene :=
  { scene with names := without name scene.names }

/-- A new cell under a name. -/
def create (scene : Scene) (fresh : String) (state : CellState) : Scene :=
  let (store, cell) := scene.store.addCell state
  bind { scene with store := store } fresh cell

/-- The cells of several names, or the first name that has none. -/
def cells (scene : Scene) : List String → Except String (List CellId)
  | [] => .ok []
  | name :: rest =>
    match scene.names.lookup name with
    | none => .error name
    | some cell => (scene.cells rest).map (cell :: ·)

/-- Registers a channel on a cell, or sends on it at once if the cell has settled. -/
def openChannel (scene : Scene) (cell : CellId) : Scene × ChannelId :=
  let (store, channel) := scene.store.addChannel
  let store := match store.outcome? cell with
    | some outcome => store.deliver channel outcome
    | none => store.register cell (.send channel)
  ({ scene with store := store }, channel)

/-- How awaiting on a channel ends when its time runs out before anything else happens. -/
def awaited (scene : Scene) (channel : ChannelId) : WaitOutcome :=
  match scene.store.channel channel with
  | .delivered outcome => .ofOutcome outcome
  | .closed => .failed .abandoned
  | .waiting => .timedOut

/-- What a wait at a slot reports when nothing happens before its time runs out. -/
def waited (scene : Scene) (slot : SlotId) (bounded : Bool) : Result :=
  match Monitor.waitOut? (scene.store.slot? slot) bounded, bounded with
  | some ending, true => .waited ending
  | some ending, false => .outcome ending.returned
  | none, _ => .blocked

/-- Lets time pass for the threads that wait. -/
def elapse (scene : Scene) (time : Nat) : Scene :=
  { scene with
    waiters := scene.waiters.map fun (name, waiter) =>
      (name, waiter.elapse (scene.store.slot? waiter.slot).isSome time) }

/-- The scene after a wait of which this is the result.  Only a wait that ends for lack of time
takes time, and it takes all that it was given. -/
def afterWait (scene : Scene) (patience : Option Nat) (result : Result) : Scene :=
  match result, patience with
  | .waited .timedOut, some time => scene.elapse time
  | _, _ => scene

end Scene

/-- The text of a panic that complains about settling twice. -/
def complaint (verb : String) : String :=
  verb ++ " called on a promise that already settled"

namespace Machine

/-- Goes on with a control. -/
def goOn (machine : Machine) (control : Control) : Machine :=
  { machine with control := control }

/-- Goes on with a control above a frame. -/
def above (machine : Machine) (frame : Frame) (control : Control) : Machine :=
  { machine with control := control, frames := frame :: machine.frames }

/-- Changes the scene and answers. -/
def answerIn (machine : Machine) (scene : Scene) (result : Result) : Machine :=
  { machine with scene := scene, control := .answer result }

/-- Waits at a slot and answers with what came of it. -/
def waitAt (machine : Machine) (scene : Scene) (slot : SlotId) (patience : Option Nat) : Machine :=
  let result := scene.waited slot patience.isSome
  machine.answerIn (scene.afterWait patience result) result

/-- Awaits a channel and answers with what came of it. -/
def awaitOn (machine : Machine) (scene : Scene) (channel : ChannelId) (patience : Nat) : Machine :=
  let result := Result.waited (scene.awaited channel)
  machine.answerIn (scene.afterWait (some patience) result) result

/-- Does something with the cell of a name; without such a cell it panics. -/
def withCell (machine : Machine) (name : String) (next : CellId → Machine) : Machine :=
  match machine.scene.names.lookup name with
  | some cell => next cell
  | none => machine.goOn (.panic ("no promise " ++ name))

/-- Does something with the slot of a barrier; without such a barrier it panics. -/
def withBarrier (machine : Machine) (name : String) (next : SlotId → Machine) : Machine :=
  match machine.scene.barriers.lookup name with
  | some slot => next slot
  | none => machine.goOn (.panic "barrier")

/-- Chains a mapping onto a cell. -/
def chain (machine : Machine) (fresh : String) (source : CellId) (mapping : Mapping)
    (policy : FailurePolicy) : Machine :=
  let scene := machine.scene
  let (store, target) := scene.store.addCell (.pending [])
  let store := store.hold target
  let link := Continuation.link target mapping policy
  match store.outcome? source with
  | none =>
    machine.answerIn (Scene.bind { scene with store := store.register source link } fresh target)
      .nothing
  | some outcome =>
    { machine with
      scene := { scene with store := store }
      control := .run link outcome
      frames := .name fresh target :: machine.frames }

/-- Performs an action. -/
def perform (machine : Machine) : Action → Machine
  | .create fresh => machine.answerIn (machine.scene.create fresh (.pending [])) .nothing
  | .resolved fresh value =>
    machine.answerIn (machine.scene.create fresh (.settled (.ok value))) .nothing
  | .rejected fresh failure =>
    machine.answerIn (machine.scene.create fresh (.settled (.error failure))) .nothing
  | .share fresh name =>
    machine.withCell name fun cell =>
      let scene := { machine.scene with store := machine.scene.store.hold cell }
      machine.answerIn (scene.bind fresh cell) .nothing
  | .drop name =>
    machine.withCell name fun cell =>
      let scene := machine.scene.unbind name
      machine.answerIn { scene with store := scene.store.release cell } .nothing
  | .resolve name value =>
    machine.withCell name fun cell =>
      machine.above (.complain "resolve") (.settle cell (.ok value))
  | .reject name failure =>
    machine.withCell name fun cell =>
      machine.above (.complain "reject") (.settle cell (.error failure))
  | .settle name outcome => machine.withCell name fun cell => machine.goOn (.settle cell outcome)
  | .onThread action => machine.above .thread (.perform action)
  | .onComplete name label body =>
    machine.withCell name fun cell =>
      let scene := machine.scene
      match scene.store.outcome? cell with
      | some outcome => machine.goOn (.run (.observe label body) outcome)
      | none =>
        machine.answerIn
          { scene with store := scene.store.register cell (.observe label body) } .nothing
  | .panic text => machine.goOn (.panic text)
  | .chain fresh source mapping policy =>
    machine.withCell source fun cell => machine.chain fresh cell mapping policy
  | .whenAll fresh inputs =>
    match machine.scene.cells inputs with
    | .error name => machine.goOn (.panic ("no promise " ++ name))
    | .ok cells =>
      let (store, target) := machine.scene.store.whenAll cells
      machine.answerIn (Scene.bind { machine.scene with store := store } fresh target) .nothing
  | .whenAny fresh inputs =>
    match machine.scene.cells inputs with
    | .error name => machine.goOn (.panic ("no promise " ++ name))
    | .ok cells =>
      let (store, target) := machine.scene.store.whenAny cells
      machine.answerIn (Scene.bind { machine.scene with store := store } fresh target) .nothing
  | .peek name =>
    machine.withCell name fun cell =>
      machine.goOn (.answer (match machine.scene.store.outcome? cell with
        | some outcome => .outcome outcome
        | none => .pending))
  | .isSettled name =>
    machine.withCell name fun cell =>
      machine.goOn (.answer (.flag (machine.scene.store.outcome? cell).isSome))
  | .describe name =>
    machine.withCell name fun cell =>
      machine.goOn (.answer (.text (machine.scene.store.describe cell)))
  | .barrier fresh name =>
    machine.withCell name fun cell =>
      let scene := machine.scene
      let (store, slot) := scene.store.addSlot
      let store := match store.outcome? cell with
        | some outcome => store.fillSlot slot outcome
        | none => store.register cell (.fill slot)
      machine.answerIn
        { scene with
          store := store
          barriers := (fresh, slot) :: Scene.without fresh scene.barriers } .nothing
  | .wait barrier =>
    machine.withBarrier barrier fun slot => machine.waitAt machine.scene slot none
  | .waitFor barrier patience =>
    machine.withBarrier barrier fun slot => machine.waitAt machine.scene slot (some patience)
  | .spawnWait fresh barrier patience =>
    machine.withBarrier barrier fun slot =>
      let scene := machine.scene
      machine.answerIn
        { scene with
          waiters := (fresh, ⟨slot, patience, false⟩) :: Scene.without fresh scene.waiters }
        .nothing
  | .join thread =>
    match machine.scene.waiters.lookup thread with
    | none => machine.goOn (.panic "thread")
    | some waiter =>
      let scene := { machine.scene with
        waiters := Scene.without thread machine.scene.waiters }
      if waiter.gaveUp then machine.answerIn scene (.waited .timedOut)
      else machine.waitAt scene waiter.slot waiter.patience
  | .await name patience =>
    machine.withCell name fun cell =>
      let (scene, channel) := machine.scene.openChannel cell
      machine.awaitOn scene channel patience
  | .awaitTake name patience =>
    machine.withCell name fun cell =>
      let (scene, channel) := (machine.scene.unbind name).openChannel cell
      let scene := { scene with store := scene.store.release cell }
      machine.awaitOn scene channel patience
  | .future fresh name =>
    machine.withCell name fun cell =>
      let (scene, channel) := machine.scene.openChannel cell
      machine.answerIn
        { scene with futures := (fresh, channel) :: Scene.without fresh scene.futures } .nothing
  | .futureTake fresh name =>
    machine.withCell name fun cell =>
      let (scene, channel) := (machine.scene.unbind name).openChannel cell
      machine.answerIn
        { scene with
          store := scene.store.release cell
          futures := (fresh, channel) :: Scene.without fresh scene.futures } .nothing
  | .poll future =>
    match machine.scene.futures.lookup future with
    | none => machine.goOn (.panic "future")
    | some channel =>
      let scene := { machine.scene with
        futures := Scene.without future machine.scene.futures }
      match machine.scene.store.channel channel with
      | .waiting => machine.goOn (.answer .pending)
      | .delivered outcome => machine.answerIn scene (.outcome outcome)
      | .closed => machine.answerIn scene (.outcome (.error .abandoned))

/-- Runs a link onto a chained cell. -/
def runLink (machine : Machine) (target : CellId) (mapping : Mapping) (policy : FailurePolicy)
    (outcome : Outcome Value) : Machine :=
  match outcome, policy with
  | .error failure, .propagate =>
    machine.above (.letGo target) (.settle target (.error failure))
  | .error failure, .ignore =>
    let machine := machine.above (.letGo target) (.answer .nothing)
    { machine with
      scene := machine.scene.log .warn "ignoring rejected promise" [("error", failure.message)] }
  | .ok value, _ =>
    match mapping.apply? value, mapping with
    | some (.ok mapped), _ => machine.above (.letGo target) (.settle target (.ok mapped))
    | some (.error text), _ => machine.above (.letGo target) (.panic text)
    | none, .perform body =>
      { machine with
        control := .answer .nothing
        frames := .body none body :: .hand target value :: .letGo target :: machine.frames }
    | none, _ => machine.above (.letGo target) (.answer .nothing)

/-- Runs a continuation with the outcome of its cell. -/
def run (machine : Machine) (continuation : Continuation) (outcome : Outcome Value) : Machine :=
  let scene := machine.scene
  match continuation with
  | .observe label body =>
    { machine with
      scene := scene.report label (.settled outcome)
      control := .answer .nothing
      frames := .body (some label) body :: machine.frames }
  | .link target mapping policy => machine.runLink target mapping policy outcome
  | .gather target board place =>
    let (store, settling) := scene.store.gatherOutcome board place outcome
    let machine := { machine with scene := { scene with store := store } }
    match settling with
    | some outcome => machine.above (.letGo target) (.settle target outcome)
    | none => machine.above (.letGo target) (.answer .nothing)
  | .race target place =>
    machine.above (.letGo target) (.settle target (Store.raceOutcome place outcome))
  | .fill slot =>
    machine.answerIn { scene with store := scene.store.fillSlot slot outcome } .nothing
  | .send channel =>
    machine.answerIn { scene with store := scene.store.deliver channel outcome } .nothing

/-- Settles a cell, if it is pending, and begins to run its continuations. -/
def settle (machine : Machine) (cell : CellId) (outcome : Outcome Value) : Machine :=
  match machine.scene.store.settle? cell outcome with
  | none => machine.goOn (.answer .alreadySettled)
  | some (store, continuations) =>
    { machine with
      scene := { machine.scene with store := store }
      control := .answer .nothing
      frames := .drain outcome continuations none :: machine.frames }

/-- Goes on with the continuations of a settlement under way. -/
def drainOn (machine : Machine) (outcome : Outcome Value) (rest : List Continuation)
    (panic : Option String) : Machine :=
  match rest with
  | continuation :: rest => machine.above (.drain outcome rest panic) (.run continuation outcome)
  | [] =>
    match panic with
    | some text => machine.goOn (.panic text)
    | none => machine.goOn (.answer .done)

/-- Hands a result to the topmost frame, which has been taken off. -/
def resume (machine : Machine) (frame : Frame) (result : Result) : Machine :=
  match frame with
  | .body label rest =>
    let scene := match label, result with
      | _, .nothing => machine.scene
      | none, _ => machine.scene
      | some label, result => machine.scene.report label (.step result)
    let machine := { machine with scene := scene }
    match rest with
    | action :: rest => machine.above (.body label rest) (.perform action)
    | [] => machine.goOn (.answer .nothing)
  | .drain outcome rest panic => machine.drainOn outcome rest panic
  | .complain verb =>
    match result with
    | .alreadySettled =>
      machine.goOn (.panic (complaint verb)) |> fun machine =>
        { machine with scene := machine.scene.log .error (complaint verb) [] }
    | result => machine.goOn (.answer result)
  | .hand target value => machine.goOn (.settle target (.ok value))
  | .letGo cell =>
    machine.answerIn { machine.scene with store := machine.scene.store.release cell } .nothing
  | .name fresh cell => machine.answerIn (machine.scene.bind fresh cell) .nothing
  | .thread => machine.goOn (.answer result)

/-- Hands a panic to the topmost frame, which has been taken off. -/
def unwind (machine : Machine) (frame : Frame) (text : String) : Machine :=
  match frame with
  | .drain outcome rest panic =>
    let machine := { machine with
      scene := machine.scene.log .error "promise continuation panicked" [] }
    machine.drainOn outcome rest (some (panic.getD text))
  | .letGo cell =>
    let scene := { machine.scene with store := machine.scene.store.release cell }
    { machine with scene := scene, control := .panic text }
  | .name _ cell =>
    let scene := { machine.scene with store := machine.scene.store.release cell }
    { machine with scene := scene, control := .panic text }
  | .thread => machine.goOn (.answer (.panicked text))
  | .body _ _ => machine.goOn (.panic text)
  | .complain _ => machine.goOn (.panic text)
  | .hand _ _ => machine.goOn (.panic text)

/-- One step; none once an answer or a panic has no frame left to go to. -/
def step? (machine : Machine) : Option Machine :=
  match machine.control, machine.frames with
  | .perform action, _ => some (machine.perform action)
  | .settle cell outcome, _ => some (machine.settle cell outcome)
  | .run continuation outcome, _ => some (machine.run continuation outcome)
  | .answer result, frame :: frames => some (resume { machine with frames := frames } frame result)
  | .panic text, frame :: frames => some (unwind { machine with frames := frames } frame text)
  | .answer _, [] => none
  | .panic _, [] => none

/-! ## The work left -/

/-- A bound on the steps that a frame causes. -/
def frameWeight : Frame → Nat
  | .body _ rest => 1 + Action.weights rest
  | .drain _ rest _ => 1 + tally Continuation.weight rest
  | .hand _ _ => 4
  | _ => 1

/-- A bound on the steps that a control causes. -/
def controlWeight : Control → Nat
  | .perform action => action.weight + 1
  | .settle _ _ => 3
  | .run continuation _ => continuation.weight
  | .answer _ => 1
  | .panic _ => 1

/-- A bound on the steps that are left. -/
def weight (machine : Machine) : Nat :=
  machine.scene.store.weight + controlWeight machine.control + tally frameWeight machine.frames

/-- Takes steps while there are any, at most as many as the fuel allows. -/
def runFor : Nat → Machine → Machine
  | 0, machine => machine
  | fuel + 1, machine =>
    match machine.step? with
    | some next => runFor fuel next
    | none => machine

/-- Takes all steps. -/
def finish (machine : Machine) : Machine :=
  runFor machine.weight machine

end Machine

end Promise
end PromiseHttp
