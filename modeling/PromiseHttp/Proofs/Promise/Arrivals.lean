import PromiseHttp.Proofs.Promise.Agreement
import PromiseHttp.Proofs.Promise.Causes

namespace PromiseHttp
namespace Promise

/-!
# What arrives at a board

The links of a promise of all values carry its board and their places, so what has arrived at the
board can be read off the chronicle: the outcomes with which a link started, or came late, in the
order in which that is written down.

New cells and boards get the next free number.  So nothing that was there before the call has to do
with the new cell and the new board, and whatever is registered later has to do with others.  The
links of the call are thus the only ones for ever.  Each of them is attached to its input once, and
what is attached once begins at most once; so no two arrivals are for one place, and an arrival is
the outcome of its input.
-/

/-! ## Boards and links -/

namespace Continuation

/-- The board on which a continuation enters. -/
def board? : Continuation → Option BoardId
  | gather _ board _ => some board
  | _ => none

/-- What a continuation that gets an outcome brings to a board. -/
def arrival? (board : BoardId) (outcome : Outcome Value) : Continuation → Option Arrival
  | gather _ other place => if other = board then some (place, outcome) else none
  | _ => none

/-- Whether a continuation has to do with a cell as its target, or with a board. -/
def serves (target : CellId) (board : BoardId) (continuation : Continuation) : Bool :=
  continuation.target? == some target || continuation.board? == some board

theorem arrival?_eq_some {board : BoardId} {outcome : Outcome Value} {continuation : Continuation}
    {arrival : Arrival} : continuation.arrival? board outcome = some arrival ↔
      ∃ target place, continuation = .gather target board place ∧ arrival = (place, outcome) := by
  cases continuation with
  | gather target other place =>
      simp only [arrival?]
      constructor
      · intro arrives
        by_cases same : other = board
        · rw [if_pos same] at arrives
          cases arrives
          exact ⟨target, place, by rw [same], rfl⟩
        · rw [if_neg same] at arrives
          cases arrives
      · rintro ⟨_, _, same, rfl⟩
        cases same
        exact if_pos rfl
  | _ => simp [arrival?]

theorem arrival?_eq_none {board : BoardId} {outcome : Outcome Value} {continuation : Continuation}
    (elsewhere : continuation.board? ≠ some board) :
    continuation.arrival? board outcome = none := by
  cases arrives : continuation.arrival? board outcome with
  | none => rfl
  | some arrival =>
      rcases arrival?_eq_some.mp arrives with ⟨target, place, rfl, _⟩
      exact absurd rfl elsewhere

end Continuation

/-- What a control that runs a continuation brings to a board. -/
def Control.arrival? (board : BoardId) : Control → Option Arrival
  | .run continuation outcome => continuation.arrival? board outcome
  | _ => none

theorem Control.arrival?_eq (control : Control) (board : BoardId) :
    control.arrival? board = control.brings? (Continuation.arrival? board) := by
  cases control <;> rfl

namespace Event

/-- The registration that an event writes down, in time or late. -/
def attachment? : Event → Option (CellId × Continuation)
  | registered cell continuation => some (cell, continuation)
  | late cell continuation _ => some (cell, continuation)
  | _ => none

/-- What arrives at a board with an event. -/
def arrival? (board : BoardId) : Event → Option Arrival
  | late _ continuation outcome => continuation.arrival? board outcome
  | started _ continuation outcome => continuation.arrival? board outcome
  | _ => none

theorem attachment?_ofRegistration (store : Store) (entry : CellId × Continuation) :
    (ofRegistration store entry).attachment? = some entry := by
  unfold ofRegistration
  split <;> rfl

/-- What a continuation brings that gets its outcome with an event. -/
def brings? {α : Type} (brings : Outcome Value → Continuation → Option α) : Event → Option α
  | late _ continuation outcome => brings outcome continuation
  | started _ continuation outcome => brings outcome continuation
  | _ => none

theorem arrival?_eq (board : BoardId) :
    Event.arrival? board = brings? (Continuation.arrival? board) := by
  funext event
  cases event <;> rfl

theorem brings?_ofRegistration {α : Type} (store : Store) (entry : CellId × Continuation)
    (brings : Outcome Value → Continuation → Option α) :
    (ofRegistration store entry).brings? brings =
      (store.outcome? entry.1).bind fun outcome => brings outcome entry.2 := by
  unfold ofRegistration
  cases store.outcome? entry.1 <;> rfl

end Event

namespace Chronicle

/-- All continuations that have been registered, each with its cell. -/
def attachments (chronicle : Chronicle) : List (CellId × Continuation) :=
  chronicle.events.filterMap Event.attachment?

/-- All that has arrived at a board, in the order in which it is written down. -/
def arrivals (chronicle : Chronicle) (board : BoardId) : List Arrival :=
  chronicle.events.filterMap (Event.arrival? board)

theorem mem_attachments {chronicle : Chronicle} {cell : CellId} {continuation : Continuation} :
    (cell, continuation) ∈ chronicle.attachments ↔ chronicle.Attached cell continuation := by
  unfold attachments Attached
  rw [List.mem_filterMap]
  constructor
  · rintro ⟨event, member, attaches⟩
    cases event with
    | registered other another =>
        cases attaches
        exact Or.inl member
    | late other another outcome =>
        cases attaches
        exact Or.inr ⟨outcome, member⟩
    | settled other outcome caller => cases attaches
    | started other another outcome => cases attaches
    | ended other another failure logged => cases attaches
    | returned other caller control => cases attaches
  · rintro (registered | ⟨outcome, late⟩)
    · exact ⟨_, registered, rfl⟩
    · exact ⟨_, late, rfl⟩

/-- Whatever has been brought was brought by a continuation that started or came late. -/
theorem mem_brought {α : Type} {chronicle : Chronicle}
    {brings : Outcome Value → Continuation → Option α} {thing : α} :
    thing ∈ chronicle.events.filterMap (Event.brings? brings) ↔
      ∃ cell continuation outcome, brings outcome continuation = some thing ∧
        (.started cell continuation outcome ∈ chronicle.events ∨
          .late cell continuation outcome ∈ chronicle.events) := by
  rw [List.mem_filterMap]
  constructor
  · rintro ⟨event, member, brought⟩
    cases event with
    | started cell continuation outcome => exact ⟨cell, continuation, outcome, brought, Or.inl member⟩
    | late cell continuation outcome => exact ⟨cell, continuation, outcome, brought, Or.inr member⟩
    | settled other outcome caller => cases brought
    | registered other another => cases brought
    | ended other another failure logged => cases brought
    | returned other caller control => cases brought
  · rintro ⟨cell, continuation, outcome, brought, started | late⟩
    · exact ⟨_, started, brought⟩
    · exact ⟨_, late, brought⟩

/-- Whatever begins has been attached, and it gets the outcome of its cell. -/
theorem attached_of_begun {chronicle : Chronicle} (sound : chronicle.Sound)
    (heard : chronicle.Heard) {cell : CellId} {continuation : Continuation}
    {outcome : Outcome Value}
    (begun : .started cell continuation outcome ∈ chronicle.events ∨
      .late cell continuation outcome ∈ chronicle.events) :
    chronicle.Attached cell continuation ∧ chronicle.outcome? cell = some outcome := by
  rcases begun with started | late
  · exact (heard.started started).imp_right Store.outcome?_eq_some.mpr
  · exact ⟨Or.inr ⟨_, late⟩, Store.outcome?_eq_some.mpr (sound.late late)⟩

theorem mem_arrivals {chronicle : Chronicle} {board : BoardId} {arrival : Arrival} :
    arrival ∈ chronicle.arrivals board ↔ ∃ cell target,
      .started cell (.gather target board arrival.1) arrival.2 ∈ chronicle.events ∨
        .late cell (.gather target board arrival.1) arrival.2 ∈ chronicle.events := by
  rw [arrivals, Event.arrival?_eq, mem_brought]
  constructor
  · rintro ⟨cell, continuation, outcome, brought, begun⟩
    rcases Continuation.arrival?_eq_some.mp brought with ⟨target, place, rfl, rfl⟩
    exact ⟨cell, target, begun⟩
  · rintro ⟨cell, target, begun⟩
    exact ⟨cell, _, _, Continuation.arrival?_eq_some.mpr ⟨target, _, rfl, rfl⟩, begun⟩

end Chronicle

/-! ## What is written down in a step -/

/-- What a step writes down.  When an action is performed it is what the action registers.  When a
settlement goes on with a continuation it is, in the end, that the continuation starts.  Otherwise
nothing is registered and nothing starts. -/
inductive Writes (before after : Chronicle) : Prop where
  | acting (action : Action) (doing : before.machine.control = .perform action)
      (result : after.machine = before.machine.perform action)
      (performs : Performs action before.machine after.machine)
      (events : after.events = before.events ++
        (action.registrations before.machine.scene).map (.ofRegistration before.store))
  | starting (cell : CellId) (continuation : Continuation) (outcome : Outcome Value)
      (earlier : List Event) (rest : List Continuation) (panic : Option String)
      (frames : List Frame) (idle : ∀ action, before.machine.control ≠ .perform action)
      (store : after.store = before.store)
      (control : after.machine.control = .run continuation outcome)
      (top : after.machine.frames = .drain outcome rest panic :: frames)
      (silent : ∀ event ∈ earlier, Chronicle.isSilent event = true)
      (events : after.events =
        before.events ++ (earlier ++ [.started cell continuation outcome]))
  | quiet (new : List Event) (idle : ∀ action, before.machine.control ≠ .perform action)
      (calm : after.machine.control.isRun = false)
      (silent : ∀ event ∈ new, Chronicle.isSilent event = true)
      (events : after.events = before.events ++ new)

namespace Chronicle

theorem writes_of_step {chronicle : Chronicle} (sound : chronicle.Sound) {next : Machine}
    (steps : chronicle.machine.step? = some next) : Writes chronicle (chronicle.record next) := by
  have nothing : ∀ {after : Chronicle}, after.events = chronicle.events →
      (∀ action, chronicle.machine.control ≠ .perform action) →
      after.machine.control.isRun = false → Writes chronicle after :=
    fun same idle calm => .quiet [] idle calm (fun _ member => absurd member List.not_mem_nil)
      (same.trans (List.append_nil _).symm)
  have unperformed : ∀ {failure}, chronicle.machine.control.ending? = some failure →
      ∀ action, chronicle.machine.control ≠ .perform action := by
    intro failure doing action performing
    rw [performing] at doing
    cases doing
  cases effect_of_step sound.valid steps with
  | performed action doing performs =>
      have result : next = chronicle.machine.perform action := by
        simp only [Machine.step?, doing, Option.some.injEq] at steps
        exact steps.symm
      rw [record_performed doing]
      exact .acting action doing result performs rfl
  | refused cell outcome doing closed result =>
      rw [record_refused doing closed]
      exact nothing rfl (by simp [doing]) (by rw [result]; rfl)
  | settled cell outcome continuations doing pending result =>
      rw [record_settled doing pending]
      refine .quiet _ (by simp [doing]) (by rw [result]; rfl) ?_ rfl
      intro event member
      rw [List.mem_singleton.mp member]
      rfl
  | ran continuation outcome doing runs =>
      rw [record_ran doing]
      exact nothing rfl (by simp [doing]) runs.calm
  | wentOn failure outcome rest panic frames doing top result =>
      have logs : next.scene.logs = chronicle.machine.scene.logs ++ complaints failure := by
        rw [result, Machine.scene_drainOn]
        exact Scene.logs_afterEnding _ _
      have tracks := sound.tracks
      rw [top] at tracks
      rcases tracks.top with ⟨current, outer, first, _, _, _⟩
      rw [record_ending doing]
      cases rest with
      | cons continuation rest =>
          rw [recordEnding_next top first logs]
          refine .starting current.cell continuation outcome
            (current.running.toList.map (.ended current.cell · failure (complaints failure)))
            rest (panic.or failure) frames (unperformed doing) ?_ ?_ ?_ ?_ rfl
          · simp only [Chronicle.store, result, Machine.scene_drainOn, Scene.store_afterEnding]
          · rw [result]
            rfl
          · rw [result]
            rfl
          · intro event member
            rcases List.mem_map.mp member with ⟨running, _, rfl⟩
            rfl
      | nil =>
          rw [recordEnding_last top first logs]
          refine .quiet _ (unperformed doing) ?_ ?_ rfl
          · rw [result, Machine.drainOn_nil]
            cases panic.or failure <;> rfl
          · intro event member
            rcases mem_turn member with ⟨running, rfl⟩ | rfl
            · rfl
            · rfl
  | popped failure frame rest doing top plain pops =>
      rw [record_popped doing top plain]
      exact nothing rfl (unperformed doing) pops.calm

/-- What any step of a chronicle writes down. -/
theorem Sound.writes {chronicle : Chronicle} (sound : chronicle.Sound) :
    Writes chronicle chronicle.advance := by
  unfold Chronicle.advance
  cases steps : chronicle.machine.step? with
  | some next => exact writes_of_step sound steps
  | none =>
      have idle : ∀ action, chronicle.machine.control ≠ .perform action := by
        intro action doing
        simp only [Machine.step?, doing, reduceCtorEq] at steps
      have calm : chronicle.machine.control.isRun = false := by
        cases doing : chronicle.machine.control with
        | run continuation outcome => simp only [Machine.step?, doing, reduceCtorEq] at steps
        | _ => rfl
      cases chronicle.script with
      | nil =>
          exact .quiet [] idle calm (fun _ member => absurd member List.not_mem_nil)
            (List.append_nil _).symm
      | cons action rest =>
          exact .quiet [] idle rfl (fun _ member => absurd member List.not_mem_nil)
            (List.append_nil _).symm

/-! ## What a step adds -/

theorem attachments_of_silent {events : List Event}
    (silent : ∀ event ∈ events, isSilent event = true) :
    events.filterMap Event.attachment? = [] := by
  apply List.filterMap_eq_nil_iff.mpr
  intro event member
  have quiet := silent event member
  cases event <;> first | rfl | cases quiet

theorem brings_of_silent {α : Type} {events : List Event}
    (brings : Outcome Value → Continuation → Option α)
    (silent : ∀ event ∈ events, isSilent event = true) :
    events.filterMap (Event.brings? brings) = [] := by
  apply List.filterMap_eq_nil_iff.mpr
  intro event member
  have quiet := silent event member
  cases event <;> first | rfl | cases quiet

/-- What a step registers on a cell that has settled brings what the continuation brings that runs
then.  A continuation with steps of its own is registered alone and runs at once. -/
theorem brings_registered {α : Type} {action : Action} {before after : Machine}
    (performs : Performs action before after)
    {brings : Outcome Value → Continuation → Option α}
    (older : ∀ {cell continuation}, (cell, continuation) ∈ action.registrations before.scene →
      continuation.takesSteps = false → ∀ outcome, brings outcome continuation = none) :
    ((action.registrations before.scene).map (Event.ofRegistration before.scene.store)).filterMap
      (Event.brings? brings) = (after.control.brings? brings).toList := by
  cases running : after.control.isRun with
  | true =>
      cases doing : after.control with
      | run continuation outcome =>
          rcases (performs.runs doing).2 with ⟨cell, registers, settled⟩
          rw [registers, List.map_singleton, List.filterMap_cons, Event.brings?_ofRegistration,
            Store.outcome?_eq_some.mpr settled]
          cases brought : brings outcome continuation <;>
            simp [Control.brings?, brought]
      | _ =>
          rw [doing] at running
          cases running
  | false =>
      rw [Control.brings?_of_calm running]
      apply List.filterMap_eq_nil_iff.mpr
      intro event member
      rcases List.mem_map.mp member with ⟨⟨cell, continuation⟩, there, rfl⟩
      rw [Event.brings?_ofRegistration]
      cases known : before.scene.store.outcome? cell with
      | none => rfl
      | some outcome =>
          cases steps : continuation.takesSteps with
          | false => exact older there steps outcome
          | true =>
              have runs := performs.late there (Store.outcome?_eq_some.mp known) steps
              exact absurd runs (Control.ne_run running _ _)

/-- In a step the continuation brings something that runs then, if what the step registers brings
nothing without running. -/
theorem brings_advance {α : Type} {chronicle : Chronicle} (sound : chronicle.Sound)
    {brings : Outcome Value → Continuation → Option α}
    (older : ∀ {action cell continuation}, chronicle.machine.control = .perform action →
      (cell, continuation) ∈ action.registrations chronicle.machine.scene →
      continuation.takesSteps = false → ∀ outcome, brings outcome continuation = none) :
    chronicle.advance.events.filterMap (Event.brings? brings) =
      chronicle.events.filterMap (Event.brings? brings) ++
        (chronicle.advance.machine.control.brings? brings).toList := by
  cases sound.writes with
  | acting action doing result performs events =>
      rw [events, List.filterMap_append]
      exact congrArg (_ ++ ·) (brings_registered performs (older doing))
  | starting cell continuation outcome earlier rest panic frames idle store control top silent events =>
      have last : [Event.started cell continuation outcome].filterMap (Event.brings? brings) =
          (brings outcome continuation).toList := by
        rw [List.filterMap_cons]
        have same : (Event.started cell continuation outcome).brings? brings =
            brings outcome continuation := rfl
        rw [same]
        cases brings outcome continuation <;> rfl
      rw [events, List.filterMap_append, List.filterMap_append, brings_of_silent brings silent, last,
        control]
      rfl
  | quiet new idle calm silent events =>
      rw [events, List.filterMap_append, brings_of_silent brings silent,
        Control.brings?_of_calm calm]
      rfl

/-- Nothing is attached but what an action registers. -/
theorem attachments_advance {chronicle : Chronicle} (sound : chronicle.Sound) :
    (∃ action, chronicle.machine.control = .perform action ∧
        chronicle.advance.machine = chronicle.machine.perform action ∧
        chronicle.advance.attachments =
          chronicle.attachments ++ action.registrations chronicle.machine.scene) ∨
      (∀ action, chronicle.machine.control ≠ .perform action) ∧
        chronicle.advance.attachments = chronicle.attachments := by
  unfold attachments
  cases sound.writes with
  | acting action doing result performs events =>
      refine Or.inl ⟨action, doing, result, ?_⟩
      rw [events, List.filterMap_append, List.filterMap_map]
      refine congrArg (_ ++ ·) ?_
      rw [show Event.attachment? ∘ Event.ofRegistration chronicle.store = some from
        funext (Event.attachment?_ofRegistration _)]
      exact List.filterMap_some
  | starting cell continuation outcome earlier rest panic frames idle _ _ _ silent events =>
      refine Or.inr ⟨idle, ?_⟩
      rw [events, List.filterMap_append, List.filterMap_append, attachments_of_silent silent]
      exact List.append_nil _
  | quiet new idle calm silent events =>
      refine Or.inr ⟨idle, ?_⟩
      rw [events, List.filterMap_append, attachments_of_silent silent, List.append_nil]

end Chronicle

/-! ## Numbers -/

theorem length_chain (machine : Machine) (fresh : String) (source : CellId) (mapping : Mapping)
    (policy : FailurePolicy) :
    (machine.chain fresh source mapping policy).scene.store.cells.length =
      machine.scene.store.cells.length + 1 := by
  unfold Machine.chain
  dsimp only
  split
  · simp only [Machine.answerIn]
    rw [(Scene.letGo_bind _ _ _).cells]
    dsimp only
    rw [Store.length_register, Store.length_hold, Store.length_addCell]
  · dsimp only
    rw [Store.length_hold, Store.length_addCell]

/-- The target and the board of a continuation are the next ones, and they are there afterwards. -/
structure Fresh (continuation : Continuation) (before after : Store) : Prop where
  target : ∀ {target}, continuation.target? = some target →
    target = before.cells.length ∧ target < after.cells.length
  board : ∀ {board}, continuation.board? = some board →
    board = before.boards.length ∧ board < after.boards.length

theorem Fresh.none {continuation : Continuation} {before after : Store}
    (noTarget : continuation.target? = none) (noBoard : continuation.board? = none) :
    Fresh continuation before after where
  target := by
    intro target holds
    cases noTarget.symm.trans holds
  board := by
    intro board enters
    cases noBoard.symm.trans enters

/-- What an action registers has to do with the next cell and the next board, if with any. -/
theorem registrations_fresh {machine : Machine} (named : machine.scene.Named) {action : Action}
    {cell : CellId} {continuation : Continuation}
    (member : (cell, continuation) ∈ action.registrations machine.scene) :
    Fresh continuation machine.scene.store (machine.perform action).scene.store := by
  have plainly : ∀ {name another}, (cell, continuation) ∈ machine.scene.onCell name another →
      another.target? = none → another.board? = none →
      Fresh continuation machine.scene.store (machine.perform action).scene.store := by
    intro name another there noTarget noBoard
    unfold Scene.onCell at there
    split at there
    · cases List.mem_singleton.mp there
      exact .none noTarget noBoard
    · cases there
  cases action with
  | onComplete name label body => exact plainly member rfl rfl
  | barrier fresh name => exact plainly member rfl rfl
  | await name patience => exact plainly member rfl rfl
  | awaitTake name patience => exact plainly member rfl rfl
  | future fresh name => exact plainly member rfl rfl
  | futureTake fresh name => exact plainly member rfl rfl
  | chain fresh source mapping policy =>
      simp only [Action.registrations, Scene.onCell] at member
      split at member
      · next known =>
          cases List.mem_singleton.mp member
          refine ⟨fun holds => ?_, fun enters => by cases enters⟩
          cases holds
          refine ⟨rfl, ?_⟩
          simp only [Machine.perform, Machine.withCell, known]
          rw [length_chain]
          exact Nat.lt_succ_self _
      · cases member
  | whenAll fresh names =>
      simp only [Action.registrations, Scene.onCells] at member
      split at member
      · next inputs known =>
          have there := Scene.cells_there named known
          have some_input : inputs ≠ [] := by
            rintro rfl
            cases member
          rcases (Store.mem_enlisted member).2 with ⟨place, rfl⟩
          have shows := (Store.shows_whenAll machine.scene.store some_input there).board
          have cells := (Store.combines_whenAll machine.scene.store inputs there).cells
          simp only [Machine.perform, known, Machine.answerIn]
          constructor
          · intro target holds
            cases holds
            rw [(Scene.letGo_bind _ _ _).cells]
            exact ⟨rfl, Nat.lt_of_lt_of_eq (Nat.lt_succ_self _) cells.symm⟩
          · intro board enters
            cases enters
            rw [Scene.boards_bind]
            exact ⟨rfl, (List.getElem?_eq_some_iff.mp shows).1⟩
      · cases member
  | whenAny fresh names =>
      simp only [Action.registrations, Scene.onCells] at member
      split at member
      · next inputs known =>
          have there := Scene.cells_there named known
          have cells := (Store.combines_whenAny machine.scene.store inputs there).cells
          rcases (Store.mem_enlisted member).2 with ⟨place, rfl⟩
          refine ⟨fun holds => ?_, fun enters => by cases enters⟩
          cases holds
          refine ⟨rfl, ?_⟩
          simp only [Machine.perform, known, Machine.answerIn]
          rw [(Scene.letGo_bind _ _ _).cells]
          exact Nat.lt_of_lt_of_eq (Nat.lt_succ_self _) cells.symm
      · cases member
  | _ => cases member

/-- Entering on a board makes no board and removes none. -/
theorem Store.length_gatherOutcome (store : Store) (board : BoardId) (place : Nat)
    (outcome : Outcome Value) :
    (store.gatherOutcome board place outcome).1.boards.length = store.boards.length := by
  cases outcome with
  | error failure => rfl
  | ok value =>
      simp only [gatherOutcome, enter]
      split
      · rfl
      · split <;> exact List.length_set

theorem boards_of_step {machine next : Machine} (steps : machine.step? = some next) :
    machine.scene.store.boards.length ≤ next.scene.store.boards.length := by
  apply Nat.le_of_not_lt
  intro fewer
  by_cases enters : ∃ target board place outcome,
      machine.control = .run (.gather target board place) outcome
  · rcases enters with ⟨target, board, place, outcome, doing⟩
    simp only [Machine.step?, doing, Option.some.injEq] at steps
    have same : next.scene.store = (machine.scene.store.gatherOutcome board place outcome).1 := by
      rw [← steps]
      simp only [Machine.run]
      split <;> rfl
    rw [same, Store.length_gatherOutcome] at fewer
    exact Nat.lt_irrefl _ fewer
  · have kept := (causes_of_step steps).boards fewer
      fun target place outcome doing => enters ⟨target, _, place, outcome, doing⟩
    rw [List.getElem?_eq_none (Nat.le_refl _), List.getElem?_eq_getElem fewer] at kept
    cases kept

theorem cells_of_step {machine next : Machine} (valid : machine.Valid)
    (steps : machine.step? = some next) :
    machine.scene.store.cells.length ≤ next.scene.store.cells.length := by
  cases effect_of_step valid steps with
  | performed action doing performs => exact performs.grows.cells
  | refused cell outcome doing closed result =>
      rw [result]
      exact Nat.le_refl _
  | settled cell outcome continuations doing pending result =>
      rw [result]
      exact Nat.le_of_eq (Store.length_setState _ _ _).symm
  | ran continuation outcome doing runs => exact Nat.le_of_eq (congrArg List.length runs.cells.symm)
  | wentOn failure outcome rest panic frames doing top result =>
      rw [result, Machine.scene_drainOn]
      simp only [Scene.store_afterEnding]
      exact Nat.le_refl _
  | popped failure frame rest doing top plain pops => exact Nat.le_of_eq pops.released.cells.symm

namespace Chronicle

/-- No cell and no board is taken away. -/
theorem counts_advance {chronicle : Chronicle} (sound : chronicle.Sound) :
    chronicle.store.cells.length ≤ chronicle.advance.store.cells.length ∧
      chronicle.store.boards.length ≤ chronicle.advance.store.boards.length := by
  unfold Chronicle.advance store
  cases steps : chronicle.machine.step? with
  | some next =>
      rw [machine_record]
      exact ⟨cells_of_step sound.valid steps, boards_of_step steps⟩
  | none => cases chronicle.script <;> exact ⟨Nat.le_refl _, Nat.le_refl _⟩

/-- Whatever is attached has to do with cells and boards that are there. -/
structure Numbered (chronicle : Chronicle) : Prop where
  target : ∀ {cell continuation target}, (cell, continuation) ∈ chronicle.attachments →
    continuation.target? = some target → target < chronicle.store.cells.length
  board : ∀ {cell continuation board}, (cell, continuation) ∈ chronicle.attachments →
    continuation.board? = some board → board < chronicle.store.boards.length

theorem Numbered.advance {chronicle : Chronicle} (numbered : chronicle.Numbered)
    (sound : chronicle.Sound) : chronicle.advance.Numbered := by
  rcases counts_advance sound with ⟨cells, boards⟩
  rcases attachments_advance sound with ⟨action, _, result, attached⟩ | ⟨_, attached⟩
  · constructor
    · intro cell continuation target member holds
      rw [attached] at member
      rcases List.mem_append.mp member with earlier | new
      · exact Nat.lt_of_lt_of_le (numbered.target earlier holds) cells
      · rw [store, result]
        exact ((registrations_fresh sound.valid.named new).target holds).2
    · intro cell continuation board member enters
      rw [attached] at member
      rcases List.mem_append.mp member with earlier | new
      · exact Nat.lt_of_lt_of_le (numbered.board earlier enters) boards
      · rw [store, result]
        exact ((registrations_fresh sound.valid.named new).board enters).2
  · constructor
    · intro cell continuation target member holds
      rw [attached] at member
      exact Nat.lt_of_lt_of_le (numbered.target member holds) cells
    · intro cell continuation board member enters
      rw [attached] at member
      exact Nat.lt_of_lt_of_le (numbered.board member enters) boards

theorem numbered_after (script : List Action) (steps : Nat) : (after script steps).Numbered := by
  induction steps with
  | zero =>
      exact ⟨fun member => absurd member List.not_mem_nil,
        fun member => absurd member List.not_mem_nil⟩
  | succ steps inductionHypothesis => exact inductionHypothesis.advance (sound_after script steps)

/-! ## Running links -/

/-- A continuation that runs at once, without steps of its own, has just started in a settlement. -/
theorem running_in_settlement (script : List Action) (steps : Nat) {continuation : Continuation}
    {outcome : Outcome Value}
    (running : (after script steps).machine.control = .run continuation outcome)
    (plain : continuation.takesSteps = false) :
    (∃ cell, .started cell continuation outcome ∈ (after script steps).events) ∧
      ∃ rest panic frames, (after script steps).machine.frames = .drain outcome rest panic :: frames := by
  cases steps with
  | zero => cases running
  | succ steps =>
      have next : after script (steps + 1) = (after script steps).advance := rfl
      rw [next] at running ⊢
      cases (sound_after script steps).writes with
      | acting action doing result performs events =>
          have acts := (performs.runs running).1
          rw [plain] at acts
          cases acts
      | starting cell other another earlier rest panic frames idle store control top silent events =>
          rw [control] at running
          cases running
          refine ⟨⟨cell, ?_⟩, rest, panic, frames, top⟩
          rw [events]
          exact List.mem_append_right _ (List.mem_append_right _ List.mem_cons_self)
      | quiet new idle calm silent events => exact absurd running (Control.ne_run calm _ _)

/-- Whatever continuation runs has been registered. -/
theorem attached_of_running (script : List Action) (steps : Nat) {continuation : Continuation}
    {outcome : Outcome Value}
    (running : (after script steps).machine.control = .run continuation outcome) :
    ∃ cell, (after script steps).Attached cell continuation := by
  cases steps with
  | zero => cases running
  | succ steps =>
      have heard := heard_after script (steps + 1)
      have next : after script (steps + 1) = (after script steps).advance := rfl
      rw [next] at running heard ⊢
      cases (sound_after script steps).writes with
      | acting action doing result performs events =>
          rcases (performs.runs running).2 with ⟨cell, registers, _⟩
          refine ⟨cell, mem_attachments.mp ?_⟩
          rcases attachments_advance (sound_after script steps) with
            ⟨other, doing', _, attached⟩ | ⟨idle, _⟩
          · cases doing.symm.trans doing'
            rw [attached, registers]
            exact List.mem_append_right _ List.mem_cons_self
          · exact absurd doing (idle _)
      | starting cell other another earlier rest panic frames idle store control top silent events =>
          rw [control] at running
          cases running
          have started : .started cell continuation outcome ∈
              (after script steps).advance.events := by
            rw [events]
            exact List.mem_append_right _ (List.mem_append_right _ List.mem_cons_self)
          exact ⟨cell, (heard.started started).1⟩
      | quiet new idle calm silent events => exact absurd running (Control.ne_run calm _ _)

/-! ## Links of one call -/

/-- The links of a call, place by place. -/
theorem mem_enlisted_iff {link : Nat → Continuation} {first : Nat} {inputs : List CellId}
    {cell : CellId} {continuation : Continuation} :
    (cell, continuation) ∈ enlisted link first inputs ↔
      ∃ place, continuation = link (first + place) ∧ inputs[place]? = some cell := by
  induction inputs generalizing first with
  | nil =>
      constructor
      · intro member
        cases member
      · rintro ⟨place, _, known⟩
        cases known
  | cons input rest inductionHypothesis =>
      rw [enlisted, List.mem_cons, inductionHypothesis]
      constructor
      · rintro (same | ⟨place, same, known⟩)
        · cases same
          exact ⟨0, rfl, rfl⟩
        · exact ⟨place + 1, by rw [same, Nat.add_right_comm, Nat.add_assoc], known⟩
      · rintro ⟨place, rfl, known⟩
        cases place with
        | zero =>
            cases known
            exact Or.inl rfl
        | succ place => exact Or.inr ⟨place, by rw [Nat.add_right_comm, Nat.add_assoc], known⟩

/-- The links of one call of all values: they have a cell and a board of their own, one for each
input, and nothing else that has ever been attached has to do with that cell or that board. -/
structure Links (target : CellId) (board : BoardId) (inputs : List CellId) (chronicle : Chronicle) :
    Prop where
  cells : target < chronicle.store.cells.length
  boards : board < chronicle.store.boards.length
  only : chronicle.attachments.filter (fun entry => entry.2.serves target board) =
    enlisted (.gather target board ·) 0 inputs

variable {target : CellId} {board : BoardId} {inputs : List CellId} {chronicle : Chronicle}

/-- Whatever is registered later has to do with other cells and boards. -/
theorem Links.advance (links : Links target board inputs chronicle) (sound : chronicle.Sound) :
    Links target board inputs chronicle.advance := by
  rcases counts_advance sound with ⟨cells, boards⟩
  refine ⟨Nat.lt_of_lt_of_le links.cells cells, Nat.lt_of_lt_of_le links.boards boards, ?_⟩
  rcases attachments_advance sound with ⟨action, _, _, attached⟩ | ⟨_, attached⟩
  · have nothing : (action.registrations chronicle.machine.scene).filter
        (fun entry => entry.2.serves target board) = [] := by
      apply List.filter_eq_nil_iff.mpr
      rintro ⟨cell, continuation⟩ member
      have fresh := registrations_fresh sound.valid.named member
      simp only [Continuation.serves, Bool.or_eq_true, beq_iff_eq, not_or]
      constructor
      · intro holds
        exact absurd links.cells (Nat.not_lt_of_le (Nat.le_of_eq (fresh.target holds).1.symm))
      · intro enters
        exact absurd links.boards (Nat.not_lt_of_le (Nat.le_of_eq (fresh.board enters).1.symm))
    rw [attached, List.filter_append, nothing, List.append_nil]
    exact links.only
  · rw [attached]
    exact links.only

theorem registrations_of_call (fresh : String) {names : List String}
    (found : chronicle.machine.scene.cells names = .ok inputs) :
    Action.registrations chronicle.machine.scene (.whenAll fresh names) =
      enlisted (.gather chronicle.store.cells.length chronicle.store.boards.length ·) 0 inputs := by
  simp only [Action.registrations, Scene.onCells, found]
  rfl

/-- The call registers the links. -/
theorem links_of_call (sound : chronicle.Sound) (numbered : chronicle.Numbered) {fresh : String}
    {names : List String} (calls : chronicle.machine.control = .perform (.whenAll fresh names))
    (found : chronicle.machine.scene.cells names = .ok inputs) (some_input : inputs ≠ []) :
    Links chronicle.store.cells.length chronicle.store.boards.length inputs chronicle.advance := by
  have registers := registrations_of_call fresh found
  rcases attachments_advance sound with ⟨action, doing, result, attached⟩ | ⟨idle, _⟩
  · rw [calls] at doing
    cases doing
    rw [registers] at attached
    have first : ∃ input, (input, Continuation.gather chronicle.store.cells.length
        chronicle.store.boards.length 0) ∈
        Action.registrations chronicle.machine.scene (.whenAll fresh names) := by
      rw [registers]
      cases inputs with
      | nil => exact absurd rfl some_input
      | cons input rest => exact ⟨input, List.mem_cons_self⟩
    rcases first with ⟨input, member⟩
    have counted := registrations_fresh sound.valid.named member
    have after : chronicle.advance.store =
        (chronicle.machine.perform (.whenAll fresh names)).scene.store := by
      rw [store, result]
    refine ⟨?_, ?_, ?_⟩
    · rw [after]
      exact (counted.target rfl).2
    · rw [after]
      exact (counted.board rfl).2
    · have earlier : chronicle.attachments.filter (fun entry =>
          entry.2.serves chronicle.store.cells.length chronicle.store.boards.length) = [] := by
        apply List.filter_eq_nil_iff.mpr
        rintro ⟨cell, continuation⟩ there
        simp only [Continuation.serves, Bool.or_eq_true, beq_iff_eq, not_or]
        exact ⟨fun holds => Nat.lt_irrefl _ (numbered.target there holds),
          fun enters => Nat.lt_irrefl _ (numbered.board there enters)⟩
      rw [attached, List.filter_append, earlier, List.nil_append]
      apply List.filter_eq_self.mpr
      rintro ⟨cell, continuation⟩ there
      rcases (Store.mem_enlisted there).2 with ⟨place, rfl⟩
      simp [Continuation.serves, Continuation.target?]
  · exact absurd calls (idle _)

/-- What has been attached and has to do with the cell or the board is a link of the call, to the
input at its place. -/
theorem Links.of_attached (links : Links target board inputs chronicle) {cell : CellId}
    {continuation : Continuation} (attached : chronicle.Attached cell continuation)
    (serves : continuation.serves target board = true) :
    ∃ place, continuation = .gather target board place ∧ inputs[place]? = some cell := by
  have member : (cell, continuation) ∈ enlisted (.gather target board ·) 0 inputs := by
    rw [← links.only]
    exact List.mem_filter.mpr ⟨mem_attachments.mpr attached, serves⟩
  rcases mem_enlisted_iff.mp member with ⟨place, same, known⟩
  exact ⟨place, by rw [same, Nat.zero_add], known⟩

/-- Every input has been linked. -/
theorem Links.attached (links : Links target board inputs chronicle) {cell : CellId} {place : Nat}
    (known : inputs[place]? = some cell) :
    chronicle.Attached cell (.gather target board place) := by
  have member : (cell, Continuation.gather target board place) ∈
      enlisted (.gather target board ·) 0 inputs :=
    mem_enlisted_iff.mpr ⟨place, by rw [Nat.zero_add], known⟩
  rw [← links.only] at member
  exact mem_attachments.mp (List.mem_filter.mp member).1

/-- What arrives is the outcome of the input at the place. -/
theorem Links.arrival (links : Links target board inputs chronicle) (sound : chronicle.Sound)
    (heard : chronicle.Heard) {arrival : Arrival} (member : arrival ∈ chronicle.arrivals board) :
    ∃ cell, inputs[arrival.1]? = some cell ∧ chronicle.outcome? cell = some arrival.2 := by
  rcases mem_arrivals.mp member with ⟨cell, other, begun⟩
  have known := attached_of_begun sound heard begun
  have serves : Continuation.serves target board (.gather other board arrival.1) = true := by
    simp [Continuation.serves, Continuation.board?]
  rcases links.of_attached known.1 serves with ⟨place, same, input⟩
  cases same
  exact ⟨cell, input, known.2⟩

/-- When no settlement is under way, all inputs that have settled have arrived. -/
theorem Links.arrives (links : Links target board inputs chronicle) (sound : chronicle.Sound)
    (calm : ∀ frame ∈ chronicle.machine.frames, frame.isDrain = false) {cell : CellId}
    {place : Nat} (input : inputs[place]? = some cell) {outcome : Outcome Value}
    (known : chronicle.outcome? cell = some outcome) :
    (place, outcome) ∈ chronicle.arrivals board := by
  apply mem_arrivals.mpr
  rcases begun_or_waits sound known (links.attached input) with begun | ⟨rest, panic, under, _⟩
  · exact ⟨cell, target, begun⟩
  · cases calm _ under

/-! ## In order -/

end Chronicle

namespace Event

/-- The continuation that an event registers in time. -/
def registered? : Event → Option Continuation
  | registered _ continuation => some continuation
  | _ => none

/-- The continuation that starts with an event. -/
def started? : Event → Option Continuation
  | started _ continuation _ => some continuation
  | _ => none

end Event

theorem registered?_wholeTale (cell : CellId) (outcome : Outcome Value) (caller : List Frame)
    (ran : List Ran) :
    (wholeTale cell outcome caller ran).filterMap Event.registered? = ran.map Prod.fst := by
  have rounds : (ran.flatMap (round cell outcome)).filterMap Event.registered? = [] := by
    apply List.filterMap_eq_nil_iff.mpr
    intro event member
    rcases List.mem_flatMap.mp member with ⟨one, _, there⟩
    simp only [round, List.mem_cons, List.not_mem_nil, or_false] at there
    rcases there with rfl | rfl <;> rfl
  rw [wholeTale, tale, List.append_assoc, List.filterMap_append, List.filterMap_map,
    List.cons_append, List.filterMap_cons, List.filterMap_append, rounds]
  exact (List.append_nil _).trans List.filterMap_some

theorem started?_registered (cell : CellId) (continuations : List Continuation) :
    (continuations.map (Event.registered cell)).filterMap Event.started? = [] := by
  rw [List.filterMap_map]
  exact List.filterMap_eq_nil_iff.mpr fun _ _ => rfl

theorem started?_wholeTale (cell : CellId) (outcome : Outcome Value) (caller : List Frame)
    (ran : List Ran) :
    (wholeTale cell outcome caller ran).filterMap Event.started? = ran.map Prod.fst := by
  have rounds : (ran.flatMap (round cell outcome)).filterMap Event.started? =
      ran.map Prod.fst := by
    induction ran with
    | nil => rfl
    | cons one rest inductionHypothesis =>
        rw [List.flatMap_cons, List.filterMap_append, inductionHypothesis]
        rfl
  rw [wholeTale, tale, List.append_assoc, List.filterMap_append, started?_registered,
    List.cons_append, List.filterMap_cons, List.filterMap_append, rounds]
  exact List.append_nil _

/-- What a story tells of registrations in time is among all that has been attached. -/
theorem registered?_sublist (events : List Event) (cell : CellId) :
    (((storyOf events cell).filterMap Event.registered?).map (cell, ·)).Sublist
      (events.filterMap Event.attachment?) := by
  induction events with
  | nil => exact List.Sublist.refl _
  | cons event rest inductionHypothesis =>
      rw [← List.singleton_append, storyOf_append, List.filterMap_append, List.filterMap_append,
        List.map_append]
      refine List.Sublist.append ?_ inductionHypothesis
      cases concerns : event.concerns cell with
      | false =>
          rw [storyOf_eq_nil fun other member => List.mem_singleton.mp member ▸ concerns]
          exact List.nil_sublist _
      | true =>
          rw [storyOf_eq_self fun other member => List.mem_singleton.mp member ▸ concerns]
          cases event with
          | registered other continuation =>
              cases beq_iff_eq.mp concerns
              exact List.Sublist.refl _
          | late other continuation outcome => cases concerns
          | _ => exact List.nil_sublist _

namespace Chronicle

/-- The continuations of a cell start in the order in which they were registered in time. -/
theorem starts_in_order {chronicle : Chronicle} (sound : chronicle.Sound) (cell : CellId) :
    (chronicle.story cell).filterMap Event.started? <+:
      (chronicle.story cell).filterMap Event.registered? := by
  rcases sound.orderly.begins cell with ⟨outcome, caller, ran, begins⟩
  have started := begins.filterMap Event.started?
  have registered := begins.filterMap Event.registered?
  rw [started?_wholeTale] at started
  rw [registered?_wholeTale] at registered
  have first : (ran.map Prod.fst).map (Event.registered cell) <+: wholeTale cell outcome caller ran :=
    (List.prefix_append _ _).trans (List.prefix_append _ _)
  rcases List.prefix_or_prefix_of_prefix begins first with short | long
  · have nothing := short.filterMap Event.started?
    rw [started?_registered] at nothing
    rw [List.prefix_nil.mp nothing]
    exact List.nil_prefix
  · have all := long.filterMap Event.registered?
    rw [List.filterMap_map, show Event.registered? ∘ Event.registered cell = some from rfl,
      List.filterMap_some] at all
    rw [registered.eq_of_length_le all.length_le]
    exact started

/-- What starts on a cell after something else has been registered there in time starts after it, or
it was registered earlier. -/
theorem started_or_earlier {chronicle : Chronicle} (sound : chronicle.Sound) {cell : CellId}
    {first second : Continuation} {outcome : Outcome Value}
    (registered : .registered cell first ∈ chronicle.events)
    (started : .started cell second outcome ∈ chronicle.events) :
    (∃ given, .started cell first given ∈ chronicle.events) ∨
      [(cell, second), (cell, first)].Sublist chronicle.attachments := by
  have told : ∀ {event}, event ∈ chronicle.events → event.concerns cell = true →
      event ∈ chronicle.story cell := fun member concerns => List.mem_filter.mpr ⟨member, concerns⟩
  rcases starts_in_order sound cell with ⟨waiting, order⟩
  have listed : first ∈ (chronicle.story cell).filterMap Event.registered? :=
    List.mem_filterMap.mpr ⟨_, told registered (beq_self_eq_true cell), rfl⟩
  have among : second ∈ (chronicle.story cell).filterMap Event.started? :=
    List.mem_filterMap.mpr ⟨_, told started (beq_self_eq_true cell), rfl⟩
  rw [← order] at listed
  rcases List.mem_append.mp listed with ran | waits
  · left
    rcases List.mem_filterMap.mp ran with ⟨event, member, same⟩
    rcases List.mem_filter.mp member with ⟨there, concerns⟩
    cases event with
    | started other continuation given =>
        cases same
        cases beq_iff_eq.mp concerns
        exact ⟨given, there⟩
    | _ => cases same
  · right
    have pair : [second, first].Sublist ((chronicle.story cell).filterMap Event.registered?) := by
      rw [← order]
      exact (List.singleton_sublist.mpr among).append (List.singleton_sublist.mpr waits)
    exact (pair.map (cell, ·)).trans (registered?_sublist chronicle.events cell)

/-! ## At most once -/

end Chronicle

/-- Whether a continuation enters at a place of a board. -/
def Continuation.enters (board : BoardId) (place : Nat) : Continuation → Bool
  | gather _ other at' => other == board && at' == place
  | _ => false

namespace Event

/-- Whether a continuation of some kind is registered in time. -/
def registers (kind : Continuation → Bool) : Event → Bool
  | registered _ continuation => kind continuation
  | _ => false

/-- Whether a continuation of some kind comes late. -/
def comesLate (kind : Continuation → Bool) : Event → Bool
  | late _ continuation _ => kind continuation
  | _ => false

/-- Whether a continuation of some kind starts. -/
def starts (kind : Continuation → Bool) : Event → Bool
  | started _ continuation _ => kind continuation
  | _ => false

end Event

section Counting

variable {kind : Continuation → Bool}

theorem countP_rounds (cell : CellId) (outcome : Outcome Value) (ran : List Ran) :
    (ran.flatMap (round cell outcome)).countP (Event.starts kind) =
      (ran.map Prod.fst).countP kind := by
  induction ran with
  | nil => rfl
  | cons one rest inductionHypothesis =>
      have first : (round cell outcome one).countP (Event.starts kind) = [one.1].countP kind := rfl
      rw [List.flatMap_cons, List.countP_append, inductionHypothesis, first, ← List.countP_append]
      rfl

/-- As far as a story has come, no continuation has started more often than it was registered. -/
theorem starts_le_registers {story : List Event} {cell : CellId} {outcome : Outcome Value}
    {caller : List Frame} {ran : List Ran} (begins : story <+: wholeTale cell outcome caller ran) :
    story.countP (Event.starts kind) ≤ story.countP (Event.registers kind) := by
  let registered : List Event := (ran.map Prod.fst).map (.registered cell)
  let behind : List Event := .settled cell outcome caller :: ran.flatMap (round cell outcome) ++
    [.returned cell caller (.closing (firstPanic ran))]
  have whole : wholeTale cell outcome caller ran = registered ++ behind := by
    simp only [wholeTale, tale, registered, behind, List.append_assoc, List.cons_append]
  have before : registered.countP (Event.starts kind) = 0 := by
    apply List.countP_eq_zero.mpr
    intro event member
    rcases List.mem_map.mp member with ⟨continuation, _, rfl⟩
    exact Bool.false_ne_true
  have same : registered.countP (Event.registers kind) = (ran.map Prod.fst).countP kind := by
    rw [List.countP_map]
    rfl
  have after : behind.countP (Event.starts kind) = (ran.map Prod.fst).countP kind := by
    simp only [behind, List.countP_append, List.countP_cons, countP_rounds]
    simp [Event.starts]
  rw [whole] at begins
  rcases List.prefix_or_prefix_of_prefix begins (List.prefix_append registered behind) with
    short | ⟨further, rfl⟩
  · have few := short.sublist.countP_le (p := Event.starts kind)
    omega
  · have rest := (List.prefix_append_right_inj registered).mp begins
    have few := rest.sublist.countP_le (p := Event.starts kind)
    rw [List.countP_append, List.countP_append]
    omega

/-- What has been attached was registered in time or came late. -/
theorem countP_attachments (events : List Event) :
    (events.filterMap Event.attachment?).countP (fun entry => kind entry.2) =
      events.countP (Event.registers kind) + events.countP (Event.comesLate kind) := by
  have one : ∀ event, ([event].filterMap Event.attachment?).countP (fun entry => kind entry.2) =
      [event].countP (Event.registers kind) + [event].countP (Event.comesLate kind) := by
    intro event
    cases event with
    | registered cell continuation => exact (Nat.add_zero _).symm
    | late cell continuation outcome => exact (Nat.zero_add _).symm
    | _ => rfl
  induction events with
  | nil => rfl
  | cons event rest inductionHypothesis =>
      rw [← List.singleton_append, List.filterMap_append, List.countP_append, List.countP_append,
        List.countP_append, one, inductionHypothesis]
      omega

/-- What has arrived for a place started or came late. -/
theorem count_arrivals (events : List Event) (board : BoardId) (place : Nat) :
    ((events.filterMap (Event.arrival? board)).map Prod.fst).count place =
      events.countP (Event.starts (Continuation.enters board place)) +
        events.countP (Event.comesLate (Continuation.enters board place)) := by
  have brings : ∀ {event : Event} (continuation : Continuation) {outcome : Outcome Value},
      event.arrival? board = continuation.arrival? board outcome →
      (([event].filterMap (Event.arrival? board)).map Prod.fst).count place =
        [continuation].countP (Continuation.enters board place) := by
    intro event continuation outcome same
    rw [List.filterMap_cons, same]
    cases continuation with
    | gather target other at' =>
        by_cases there : other = board
        · by_cases here : at' = place <;>
            simp [Continuation.arrival?, Continuation.enters, there, here]
        · simp [Continuation.arrival?, Continuation.enters, there]
    | _ => rfl
  have one : ∀ event, (([event].filterMap (Event.arrival? board)).map Prod.fst).count place =
      [event].countP (Event.starts (Continuation.enters board place)) +
        [event].countP (Event.comesLate (Continuation.enters board place)) := by
    intro event
    cases event with
    | started cell continuation outcome => exact brings continuation rfl
    | late cell continuation outcome => exact (brings continuation rfl).trans (Nat.zero_add _).symm
    | _ => rfl
  induction events with
  | nil => rfl
  | cons event rest inductionHypothesis =>
      rw [← List.singleton_append, List.filterMap_append, List.map_append, List.count_append,
        List.countP_append, List.countP_append, one, inductionHypothesis]
      omega

/-- No more of some things is brought than continuations of some kind begin, if only these bring any of
them. -/
theorem countP_brought_le {α : Type} {brings : Outcome Value → Continuation → Option α}
    {counts : α → Bool}
    (kinds : ∀ outcome continuation thing, brings outcome continuation = some thing →
      counts thing = true → kind continuation = true) {events : List Event} :
    (events.filterMap (Event.brings? brings)).countP counts ≤
      events.countP (Event.starts kind) + events.countP (Event.comesLate kind) := by
  have one : ∀ event, ([event].filterMap (Event.brings? brings)).countP counts ≤
      [event].countP (Event.starts kind) + [event].countP (Event.comesLate kind) := by
    intro event
    cases brought : event.brings? brings with
    | none =>
        rw [List.filterMap_cons, brought]
        exact Nat.zero_le _
    | some thing =>
        rw [List.filterMap_cons, brought]
        cases counted : counts thing with
        | false => simp [counted]
        | true =>
            cases event with
            | started cell continuation outcome =>
                simp [Event.starts, Event.comesLate, counted, kinds _ _ _ brought counted]
            | late cell continuation outcome =>
                simp [Event.starts, Event.comesLate, counted, kinds _ _ _ brought counted]
            | _ => cases brought
  induction events with
  | nil => exact Nat.le_refl _
  | cons event rest inductionHypothesis =>
      have first := one event
      rw [← List.singleton_append, List.filterMap_append, List.countP_append, List.countP_append,
        List.countP_append]
      omega

/-- Of the links of a call, only one is for a place. -/
theorem countP_enlisted (target : CellId) (board : BoardId) (inputs : List CellId)
    (first place : Nat) :
    (enlisted (.gather target board ·) first inputs).countP
      (fun entry => entry.2.enters board place) ≤ if place < first then 0 else 1 := by
  induction inputs generalizing first with
  | nil => exact Nat.zero_le _
  | cons input rest inductionHypothesis =>
      have others := inductionHypothesis (first + 1)
      rw [enlisted, List.countP_cons]
      by_cases here : first = place
      · have itself : (Continuation.gather target board first).enters board place = true := by
          simp [Continuation.enters, here]
        rw [if_pos (by omega)] at others
        rw [if_pos itself, if_neg (by omega)]
        omega
      · have other : ¬ (Continuation.gather target board first).enters board place = true := by
          simp [Continuation.enters, here]
        rw [if_neg other]
        split at others <;> split <;> omega

end Counting

namespace Chronicle

variable {target : CellId} {board : BoardId} {inputs : List CellId} {chronicle : Chronicle}

/-- What is registered on one cell only starts at most as often as it was registered in time. -/
theorem starts_le {kind : Continuation → Bool} (sound : chronicle.Sound) (heard : chronicle.Heard)
    {cell : CellId}
    (only : ∀ {other continuation}, chronicle.Attached other continuation →
      kind continuation = true → other = cell) :
    chronicle.events.countP (Event.starts kind) ≤
      chronicle.events.countP (Event.registers kind) := by
  -- all of it is told in the story of the cell
  have story : chronicle.events.countP (Event.starts kind) =
      (chronicle.story cell).countP (Event.starts kind) := by
    rw [Chronicle.story, storyOf, List.countP_filter]
    apply List.countP_congr
    intro event member
    rw [Bool.and_eq_true]
    refine ⟨fun starts => ⟨starts, ?_⟩, fun both => both.1⟩
    cases event with
    | started other continuation outcome =>
        exact beq_iff_eq.mpr (only (heard.started member).1 starts)
    | _ => cases starts
  rcases sound.orderly.begins cell with ⟨outcome, caller, ran, begins⟩
  rw [story]
  exact Nat.le_trans (starts_le_registers begins) List.filter_sublist.countP_le

/-- What is attached at most once begins at most once. -/
theorem begins_once {kind : Continuation → Bool} (sound : chronicle.Sound)
    (heard : chronicle.Heard)
    (once : chronicle.attachments.countP (fun entry => kind entry.2) ≤ 1) :
    chronicle.events.countP (Event.starts kind) +
      chronicle.events.countP (Event.comesLate kind) ≤ 1 := by
  have there : ∀ {cell continuation}, chronicle.Attached cell continuation →
      kind continuation = true →
      (cell, continuation) ∈ chronicle.attachments.filter fun entry => kind entry.2 :=
    fun attached same => List.mem_filter.mpr ⟨mem_attachments.mpr attached, same⟩
  have only : ∃ cell, ∀ {other continuation}, chronicle.Attached other continuation →
      kind continuation = true → other = cell := by
    rw [List.countP_eq_length_filter] at once
    match all : chronicle.attachments.filter fun entry => kind entry.2 with
    | [] =>
        refine ⟨0, fun {other continuation} attached same => ?_⟩
        have member := there attached same
        rw [all] at member
        cases member
    | [entry] =>
        refine ⟨entry.1, fun {other continuation} attached same => ?_⟩
        have member := there attached same
        rw [all, List.mem_singleton] at member
        exact congrArg Prod.fst member
    | first :: second :: rest =>
        rw [all, List.length_cons, List.length_cons] at once
        omega
  rcases only with ⟨cell, only⟩
  have few := starts_le sound heard only
  have attached := @countP_attachments kind chronicle.events
  rw [attachments] at once
  omega

/-- No two arrivals are for one place. -/
theorem Links.distinct (links : Links target board inputs chronicle) (sound : chronicle.Sound)
    (heard : chronicle.Heard) : ((chronicle.arrivals board).map Prod.fst).Nodup := by
  apply List.nodup_iff_count.mpr
  intro place
  have once : chronicle.attachments.countP (fun entry => entry.2.enters board place) ≤ 1 := by
    have serving : chronicle.attachments.countP (fun entry => entry.2.enters board place) =
        (chronicle.attachments.filter fun entry => entry.2.serves target board).countP
          (fun entry => entry.2.enters board place) := by
      rw [List.countP_filter]
      apply List.countP_congr
      rintro ⟨cell, continuation⟩ _
      cases continuation with
      | gather other another at' =>
          simp only [Continuation.enters, Continuation.serves, Continuation.board?, Bool.and_eq_true,
            Bool.or_eq_true, beq_iff_eq, Option.some.injEq]
          exact ⟨fun both => ⟨both, Or.inr both.1⟩, fun both => both.1⟩
      | _ => exact ⟨fun enters => absurd enters Bool.false_ne_true, fun both => by cases both⟩
    rw [serving, links.only]
    exact countP_enlisted target board inputs 0 place
  rw [arrivals, count_arrivals]
  exact begins_once sound heard once

/-! ## One step after another -/

/-- What arrives in a step is what the continuation brings that runs then. -/
theorem arrivals_advance (sound : chronicle.Sound) (old : board < chronicle.store.boards.length) :
    chronicle.advance.arrivals board =
      chronicle.arrivals board ++ (chronicle.advance.machine.control.arrival? board).toList := by
  rw [arrivals, arrivals, Event.arrival?_eq, Control.arrival?_eq]
  refine brings_advance sound fun doing there _ outcome => ?_
  refine Continuation.arrival?_eq_none fun enters => ?_
  have next := ((registrations_fresh sound.valid.named there).board enters).1
  exact Nat.lt_irrefl _ (Nat.lt_of_lt_of_eq old next.symm)

/-- The links to inputs that have settled come late, in the order of the inputs. -/
theorem brings_enlisted (store : Store) {brings : Outcome Value → Continuation → Option Arrival}
    {link : Nat → Continuation} (each : ∀ place outcome, brings outcome (link place) = some (place, outcome))
    (inputs : List CellId) (first : Nat) :
    ((enlisted link first inputs).map (Event.ofRegistration store)).filterMap
      (Event.brings? brings) = store.brought first inputs := by
  induction inputs generalizing first with
  | nil => rfl
  | cons input rest inductionHypothesis =>
      rw [enlisted, List.map_cons, List.filterMap_cons, inductionHypothesis,
        Event.brings?_ofRegistration, Store.brought]
      cases store.outcome? input with
      | none => rfl
      | some outcome => simp [each]

/-- At the call, what has arrived is what the inputs bring that have settled. -/
theorem arrivals_of_call (sound : chronicle.Sound) (heard : chronicle.Heard)
    (numbered : chronicle.Numbered) {fresh : String} {names : List String}
    (calls : chronicle.machine.control = .perform (.whenAll fresh names))
    (found : chronicle.machine.scene.cells names = .ok inputs) :
    chronicle.advance.arrivals chronicle.store.boards.length = chronicle.store.brought 0 inputs := by
  have registers := registrations_of_call fresh found
  have before : chronicle.arrivals chronicle.store.boards.length = [] := by
    apply List.eq_nil_iff_forall_not_mem.mpr
    intro arrival member
    rcases mem_arrivals.mp member with ⟨cell, target, begun⟩
    have attached := (attached_of_begun sound heard begun).1
    exact Nat.lt_irrefl _ (numbered.board (mem_attachments.mpr attached) rfl)
  cases sound.writes with
  | acting action doing result performs events =>
      rw [calls] at doing
      cases doing
      rw [arrivals, Event.arrival?_eq] at before ⊢
      rw [events, List.filterMap_append, before, registers, List.nil_append]
      exact brings_enlisted _ (fun place outcome => if_pos rfl) inputs 0
  | starting cell continuation outcome earlier rest panic frames idle =>
      exact absurd calls (idle _)
  | quiet new idle => exact absurd calls (idle _)

end Chronicle

end Promise
end PromiseHttp
