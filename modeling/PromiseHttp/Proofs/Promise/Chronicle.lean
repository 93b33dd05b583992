import PromiseHttp.Promise.Script
import PromiseHttp.Proofs.Promise.Effects

namespace PromiseHttp
namespace Promise

/-!
# Chronicles

A machine does not remember.  A settlement under way knows which continuations are still to run, but
not which cell they were registered on or which of them have run.  A chronicle runs a script on the
machine step by step and writes down what happens to each cell.  It only watches: the machine in it
takes the steps that it takes anyway.

What is written down about a cell is its story.  A story is whole when it tells of all
registrations, of the settlement, of every continuation in turn, how it started and how it ended,
and of the return to whoever settled the cell.
-/

/-- What happens to a cell. -/
inductive Event where
  /-- A continuation is registered on a cell that has not settled. -/
  | registered (cell : CellId) (continuation : Continuation)
  /-- A continuation is registered on a cell that has settled. -/
  | late (cell : CellId) (continuation : Continuation) (outcome : Outcome Value)
  /-- The cell is settled on behalf of the frames that wait. -/
  | settled (cell : CellId) (outcome : Outcome Value) (caller : List Frame)
  | started (cell : CellId) (continuation : Continuation) (outcome : Outcome Value)
  /-- A continuation comes to its end, well or with a panic. -/
  | ended (cell : CellId) (continuation : Continuation) (failure : Option String)
      (logged : List LogEntry)
  /-- The settlement is over, and the frames that wait learn how it ended. -/
  | returned (cell : CellId) (caller : List Frame) (control : Control)

namespace Event

/-- Whether an event belongs to the story of a cell.  Late registrations do not, because they may
come at any time after the settlement. -/
def concerns (cell : CellId) : Event → Bool
  | registered other _ => other == cell
  | late _ _ _ => false
  | settled other _ _ => other == cell
  | started other _ _ => other == cell
  | ended other _ _ _ => other == cell
  | returned other _ _ => other == cell

/-- How the registration of a continuation is written down. -/
def ofRegistration (store : Store) (entry : CellId × Continuation) : Event :=
  match store.outcome? entry.1 with
  | none => .registered entry.1 entry.2
  | some outcome => .late entry.1 entry.2 outcome

end Event

/-- A continuation that ran, with its panic if it panicked. -/
abbrev Ran := Continuation × Option String

/-- The first panic among the continuations that ran. -/
def firstPanic (ran : List Ran) : Option String := ran.findSome? Prod.snd

/-- A continuation starts and ends. -/
def round (cell : CellId) (outcome : Outcome Value) (ran : Ran) : List Event :=
  [.started cell ran.1 outcome, .ended cell ran.1 ran.2 (complaints ran.2)]

/-- The story of a cell on which some continuations are registered, which is settled on behalf of
some frames, and of whose continuations some have run. -/
def tale (cell : CellId) (outcome : Outcome Value) (caller : List Frame)
    (registered : List Continuation) (ran : List Ran) : List Event :=
  registered.map (.registered cell) ++
    .settled cell outcome caller :: ran.flatMap (round cell outcome)

/-- The whole story of a cell. -/
def wholeTale (cell : CellId) (outcome : Outcome Value) (caller : List Frame) (ran : List Ran) :
    List Event :=
  tale cell outcome caller (ran.map Prod.fst) ran ++
    [.returned cell caller (.closing (firstPanic ran))]

/-- The story of a cell, as some events tell it. -/
def storyOf (events : List Event) (cell : CellId) : List Event :=
  events.filter (Event.concerns cell)

/-- A settlement under way and the continuation that it is running. -/
structure Settlement where
  cell : CellId
  running : Option Continuation

/-- A machine that works through a script, the settlements under way, the innermost first, and what
has happened so far. -/
structure Chronicle where
  machine : Machine
  settling : List Settlement
  events : List Event
  script : List Action

namespace Chronicle

/-- Before the script begins. -/
def begin (script : List Action) : Chronicle :=
  ⟨⟨.empty, .answer .nothing, []⟩, [], [], script⟩

/-- The settlement on top goes on, because its continuation has ended. -/
def recordEnding (chronicle : Chronicle) (failure : Option String) (next : Machine) : Chronicle :=
  match chronicle.machine.frames, chronicle.settling with
  | .drain outcome rest _ :: _, current :: outer =>
    let logged := next.scene.logs.drop chronicle.machine.scene.logs.length
    let events := chronicle.events ++
      current.running.toList.map fun running => .ended current.cell running failure logged
    match rest with
    | continuation :: _ =>
      { chronicle with
        machine := next
        settling := ⟨current.cell, some continuation⟩ :: outer
        events := events ++ [.started current.cell continuation outcome] }
    | [] =>
      { chronicle with
        machine := next
        settling := outer
        events := events ++ [.returned current.cell next.frames next.control] }
  | _, _ => { chronicle with machine := next }

/-- Writes down what happens in a step of the machine. -/
def record (chronicle : Chronicle) (next : Machine) : Chronicle :=
  match chronicle.machine.control with
  | .perform action =>
    { chronicle with
      machine := next
      events := chronicle.events ++ (action.registrations chronicle.machine.scene).map
        (.ofRegistration chronicle.machine.scene.store) }
  | .settle cell outcome =>
    match chronicle.machine.scene.store.state cell with
    | .pending _ =>
      { chronicle with
        machine := next
        settling := ⟨cell, none⟩ :: chronicle.settling
        events := chronicle.events ++ [.settled cell outcome chronicle.machine.frames] }
    | _ => { chronicle with machine := next }
  | .run _ _ => { chronicle with machine := next }
  | .answer _ => chronicle.recordEnding none next
  | .panic text => chronicle.recordEnding (some text) next

/-- One step: of the machine, or on to the next action of the script when the machine has come to
rest. -/
def advance (chronicle : Chronicle) : Chronicle :=
  match chronicle.machine.step? with
  | some next => chronicle.record next
  | none =>
    match chronicle.script with
    | [] => chronicle
    | action :: rest =>
      { chronicle with
        machine := ⟨{ chronicle.machine.scene with reports := [], logs := [] }, .perform action, []⟩
        script := rest }

/-- A chronicle some steps later. -/
def advanced (chronicle : Chronicle) : Nat → Chronicle
  | 0 => chronicle
  | steps + 1 => (chronicle.advanced steps).advance

/-- A script after some steps. -/
def after (script : List Action) (steps : Nat) : Chronicle := (begin script).advanced steps

/-- The story of a cell so far. -/
def story (chronicle : Chronicle) (cell : CellId) : List Event :=
  storyOf chronicle.events cell

/-- The outcome of a cell, if it has settled. -/
def outcome? (chronicle : Chronicle) (cell : CellId) : Option (Outcome Value) :=
  chronicle.machine.scene.store.outcome? cell

/-! ## Records of the kinds of steps -/

theorem machine_record (chronicle : Chronicle) (next : Machine) :
    (chronicle.record next).machine = next := by
  unfold record
  split
  · rfl
  · split <;> rfl
  · rfl
  · unfold recordEnding
    split
    · split <;> rfl
    · rfl
  · unfold recordEnding
    split
    · split <;> rfl
    · rfl

theorem script_record (chronicle : Chronicle) (next : Machine) :
    (chronicle.record next).script = chronicle.script := by
  unfold record
  split
  · rfl
  · split <;> rfl
  · rfl
  · unfold recordEnding
    split
    · split <;> rfl
    · rfl
  · unfold recordEnding
    split
    · split <;> rfl
    · rfl

theorem record_performed {chronicle : Chronicle} {action : Action}
    (doing : chronicle.machine.control = .perform action) (next : Machine) :
    chronicle.record next =
      { chronicle with
        machine := next
        events := chronicle.events ++ (action.registrations chronicle.machine.scene).map
          (.ofRegistration chronicle.machine.scene.store) } := by
  simp only [record, doing]

theorem record_refused {chronicle : Chronicle} {cell : CellId} {outcome : Outcome Value}
    (doing : chronicle.machine.control = .settle cell outcome)
    (closed : ∀ continuations,
      chronicle.machine.scene.store.state cell ≠ .pending continuations) (next : Machine) :
    chronicle.record next = { chronicle with machine := next } := by
  simp only [record, doing]

theorem record_settled {chronicle : Chronicle} {cell : CellId} {outcome : Outcome Value}
    {continuations : List Continuation}
    (doing : chronicle.machine.control = .settle cell outcome)
    (pending : chronicle.machine.scene.store.state cell = .pending continuations)
    (next : Machine) :
    chronicle.record next =
      { chronicle with
        machine := next
        settling := ⟨cell, none⟩ :: chronicle.settling
        events := chronicle.events ++ [.settled cell outcome chronicle.machine.frames] } := by
  simp only [record, doing, pending]

theorem record_ran {chronicle : Chronicle} {continuation : Continuation} {outcome : Outcome Value}
    (doing : chronicle.machine.control = .run continuation outcome) (next : Machine) :
    chronicle.record next = { chronicle with machine := next } := by
  simp only [record, doing]

theorem record_ending {chronicle : Chronicle} {failure : Option String}
    (doing : chronicle.machine.control.ending? = some failure) (next : Machine) :
    chronicle.record next = chronicle.recordEnding failure next := by
  cases ends : chronicle.machine.control with
  | answer result =>
      rw [ends] at doing
      cases doing
      simp only [record, ends]
  | panic text =>
      rw [ends] at doing
      cases doing
      simp only [record, ends]
  | perform action =>
      rw [ends] at doing
      cases doing
  | settle cell outcome =>
      rw [ends] at doing
      cases doing
  | run continuation outcome =>
      rw [ends] at doing
      cases doing

theorem record_popped {chronicle : Chronicle} {failure : Option String} {frame : Frame}
    {rest : List Frame} (doing : chronicle.machine.control.ending? = some failure)
    (top : chronicle.machine.frames = frame :: rest) (plain : frame.isDrain = false)
    (next : Machine) : chronicle.record next = { chronicle with machine := next } := by
  rw [record_ending doing]
  unfold recordEnding
  rw [top]
  cases frame with
  | drain outcome continuations panic => cases plain
  | _ => rfl

end Chronicle

/-! ## Stories -/

theorem storyOf_append (earlier later : List Event) (cell : CellId) :
    storyOf (earlier ++ later) cell = storyOf earlier cell ++ storyOf later cell :=
  List.filter_append earlier later

/-- Events about other cells do not belong to the story of a cell. -/
theorem storyOf_eq_nil {events : List Event} {cell : CellId}
    (elsewhere : ∀ event ∈ events, event.concerns cell = false) : storyOf events cell = [] := by
  apply List.filter_eq_nil_iff.mpr
  intro event member
  rw [elsewhere event member]
  exact Bool.false_ne_true

/-- Events about a cell all belong to its story. -/
theorem storyOf_eq_self {events : List Event} {cell : CellId}
    (here : ∀ event ∈ events, event.concerns cell = true) : storyOf events cell = events :=
  List.filter_eq_self.mpr here

/-- A further event about a cell. -/
theorem storyOf_concat_self (events : List Event) {event : Event} {cell : CellId}
    (here : event.concerns cell = true) :
    storyOf (events ++ [event]) cell = storyOf events cell ++ [event] := by
  rw [storyOf_append]
  refine congrArg (_ ++ ·) (storyOf_eq_self ?_)
  intro other member
  rw [List.mem_singleton.mp member]
  exact here

/-- A further event that is not about a cell. -/
theorem storyOf_concat_other (events : List Event) {event : Event} {cell : CellId}
    (elsewhere : event.concerns cell = false) :
    storyOf (events ++ [event]) cell = storyOf events cell := by
  have nothing : storyOf [event] cell = [] := by
    apply storyOf_eq_nil
    intro other member
    rw [List.mem_singleton.mp member]
    exact elsewhere
  rw [storyOf_append, nothing, List.append_nil]

/-- A cell that has settled is only registered on late. -/
theorem storyOf_registrations_settled {store : Store} {cell : CellId} {outcome : Outcome Value}
    (settled : store.state cell = .settled outcome) (added : List (CellId × Continuation)) :
    storyOf (added.map (.ofRegistration store)) cell = [] := by
  apply storyOf_eq_nil
  intro event member
  rcases List.mem_map.mp member with ⟨entry, _, rfl⟩
  unfold Event.ofRegistration
  cases found : store.outcome? entry.1 with
  | some other => rfl
  | none =>
      apply beq_false_of_ne
      intro same
      rw [same, Store.outcome?_eq_some.mpr settled] at found
      cases found

/-- The registrations on a cell that has not settled, in their order. -/
theorem storyOf_registrations {store : Store} {cell : CellId}
    (unsettled : store.outcome? cell = none) (added : List (CellId × Continuation)) :
    storyOf (added.map (.ofRegistration store)) cell =
      (Store.joining cell added).map (.registered cell) := by
  induction added with
  | nil => rfl
  | cons entry rest inductionHypothesis =>
      rcases entry with ⟨other, continuation⟩
      rw [List.map_cons, ← List.singleton_append, storyOf_append, inductionHypothesis]
      by_cases same : other = cell
      · subst same
        have here : Event.ofRegistration store (other, continuation) =
            .registered other continuation := by
          simp only [Event.ofRegistration, unsettled]
        rw [Store.joining_cons_self, here, storyOf_eq_self]
        · rfl
        · intro event member
          cases List.mem_singleton.mp member
          exact beq_self_eq_true other
      · rw [Store.joining_cons_of_ne same, storyOf_eq_nil]
        · rfl
        · intro event member
          cases List.mem_singleton.mp member
          unfold Event.ofRegistration
          cases store.outcome? other with
          | none => exact beq_false_of_ne same
          | some outcome => rfl

end Promise
end PromiseHttp
