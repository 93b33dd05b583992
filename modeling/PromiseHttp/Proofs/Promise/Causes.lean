import PromiseHttp.Proofs.Promise.Effects
import PromiseHttp.Proofs.Promise.Gathering

namespace PromiseHttp
namespace Promise

/-!
# Where a settlement comes from

A cell is settled by somebody who knows its name, or by a link to it.  A link whose mapping performs
actions settles its target when these are over, and meanwhile a frame is pledged to it.  So whoever
is about to settle a cell can be traced to an action or to a link.  In the same way a board changes
only at the hands of the links that enter on it, and only a link that ignores a failure warns.
-/

/-- The cell that a frame is pledged to settle, and the value it will hand on. -/
def Frame.pledge? : Frame → Option (CellId × Value)
  | .hand target value => some (target, value)
  | _ => none

/-- The pledges that wait for actions to be over. -/
def Machine.pledges (machine : Machine) : List (CellId × Value) :=
  machine.frames.filterMap Frame.pledge?

theorem Frame.pledge?_eq_some {frame : Frame} {cell : CellId} {value : Value} :
    frame.pledge? = some (cell, value) ↔ frame = .hand cell value := by
  cases frame <;> simp [pledge?]

theorem Machine.mem_pledges {machine : Machine} {cell : CellId} {value : Value} :
    (cell, value) ∈ machine.pledges ↔ .hand cell value ∈ machine.frames := by
  rw [pledges, List.mem_filterMap]
  constructor
  · rintro ⟨frame, member, pledges⟩
    rw [← Frame.pledge?_eq_some.mp pledges]
    exact member
  · exact fun member => ⟨_, member, rfl⟩

/-- What a link pledges that performs actions for a value. -/
def Continuation.pledge? : Outcome Value → Continuation → Option (CellId × Value)
  | .ok value, .link target (.perform _) _ => some (target, value)
  | _, _ => none

theorem Continuation.target?_of_pledge? {outcome : Outcome Value} {continuation : Continuation}
    {pledge : CellId × Value} (pledges : continuation.pledge? outcome = some pledge) :
    continuation.target? = some pledge.1 := by
  cases continuation with
  | link target mapping policy =>
      cases outcome with
      | error failure => cases pledges
      | ok value =>
          cases mapping with
          | perform body =>
              cases pledges
              rfl
          | _ => cases pledges
  | _ => cases outcome <;> cases pledges

/-- The failure that a link ignores, and its target. -/
def Continuation.ignored? : Outcome Value → Continuation → Option (CellId × Failure)
  | .error failure, .link target _ .ignore => some (target, failure)
  | _, _ => none

theorem Continuation.ignored?_eq_some {outcome : Outcome Value} {continuation : Continuation}
    {target : CellId} {failure : Failure} :
    continuation.ignored? outcome = some (target, failure) ↔
      ∃ mapping, continuation = .link target mapping .ignore ∧ outcome = .error failure := by
  constructor
  · intro ignores
    cases continuation with
    | link other mapping policy =>
        cases outcome with
        | ok value => cases ignores
        | error given =>
            cases policy with
            | propagate => cases ignores
            | ignore =>
                cases ignores
                exact ⟨mapping, rfl, rfl⟩
    | _ => cases outcome <;> cases ignores
  · rintro ⟨mapping, rfl, rfl⟩
    rfl

/-- The warning that a failure is ignored. -/
def ignoring (failure : Failure) : LogEntry :=
  ⟨.warn, "ignoring rejected promise", [("error", failure.message)]⟩

/-- What a continuation logs with an outcome. -/
def Continuation.warning? (outcome : Outcome Value) (continuation : Continuation) :
    Option LogEntry :=
  (continuation.ignored? outcome).map fun one => ignoring one.2

/-- What a control brings that runs a continuation. -/
def Control.brings? {α : Type} (brings : Outcome Value → Continuation → Option α) :
    Control → Option α
  | .run continuation outcome => brings outcome continuation
  | _ => none

theorem Control.brings?_of_calm {α : Type} {control : Control} (calm : control.isRun = false)
    (brings : Outcome Value → Continuation → Option α) : control.brings? brings = none := by
  cases control with
  | run continuation outcome => cases calm
  | _ => rfl

/-- The cell that an action settles under one of its names, and what it settles it with. -/
def Action.settles? (scene : Scene) : Action → Option (CellId × Outcome Value)
  | .resolve name value => (scene.names.lookup name).map (·, .ok value)
  | .reject name failure => (scene.names.lookup name).map (·, .error failure)
  | .settle name outcome => (scene.names.lookup name).map (·, outcome)
  | _ => none

/-- What an action leaves to others: it settles nothing but the cell that it names, it pledges nothing
and logs nothing, and it leaves the boards that are there. -/
structure Spares (action : Action) (before after : Machine) : Prop where
  settles : ∀ {cell outcome}, after.control = .settle cell outcome →
    action.settles? before.scene = some (cell, outcome)
  pledges : after.pledges = before.pledges
  logs : after.scene.logs = before.scene.logs
  boards : ∀ {board}, board < before.scene.store.boards.length →
    after.scene.store.boards[board]? = before.scene.store.boards[board]?

section Sparing

variable {action : Action} {before after : Machine}

/-- An action that settles nothing. -/
theorem Spares.plainly (idle : ∀ cell outcome, after.control ≠ .settle cell outcome)
    (frames : after.frames = before.frames) (logs : after.scene.logs = before.scene.logs)
    (boards : ∀ {board}, board < before.scene.store.boards.length →
      after.scene.store.boards[board]? = before.scene.store.boards[board]?) :
    Spares action before after where
  settles := fun doing => absurd doing (idle _ _)
  pledges := congrArg (List.filterMap Frame.pledge?) frames
  logs := logs
  boards := boards

/-- An action that only answers, in a scene with the same boards. -/
theorem spares_answerIn {scene : Scene} (result : Result) (logs : scene.logs = before.scene.logs)
    (boards : scene.store.boards = before.scene.store.boards) :
    Spares action before (before.answerIn scene result) := by
  refine .plainly (fun _ _ same => Control.noConfusion same) rfl logs ?_
  intro board _
  exact congrArg (·[board]?) boards

theorem spares_panic (text : String) : Spares action before (before.goOn (.panic text)) :=
  .plainly (fun _ _ same => Control.noConfusion same) rfl rfl fun _ => rfl

theorem spares_answer (result : Result) : Spares action before (before.goOn (.answer result)) :=
  .plainly (fun _ _ same => Control.noConfusion same) rfl rfl fun _ => rfl

theorem spares_withCell {name : String} {next : CellId → Machine}
    (found : ∀ cell, before.scene.names.lookup name = some cell →
      Spares action before (next cell)) : Spares action before (before.withCell name next) := by
  unfold Machine.withCell
  cases known : before.scene.names.lookup name with
  | none => exact spares_panic _
  | some cell => exact found cell known

theorem spares_withBarrier {name : String} {next : SlotId → Machine}
    (found : ∀ slot, Spares action before (next slot)) :
    Spares action before (before.withBarrier name next) := by
  unfold Machine.withBarrier
  cases before.scene.barriers.lookup name with
  | none => exact spares_panic _
  | some slot => exact found slot

theorem Scene.boards_bind (scene : Scene) (fresh : String) (cell : CellId) :
    (scene.bind fresh cell).store.boards = scene.store.boards :=
  (scene.letGo_bind fresh cell).boards

theorem Scene.logs_bind (scene : Scene) (fresh : String) (cell : CellId) :
    (scene.bind fresh cell).logs = scene.logs := by
  unfold bind
  dsimp only
  split <;> rfl

theorem Scene.logs_afterWait (scene : Scene) (patience : Option Nat) (result : Result) :
    (scene.afterWait patience result).logs = scene.logs := by
  unfold afterWait
  split <;> rfl

theorem spares_waitAt {scene : Scene} (slot : SlotId) (patience : Option Nat)
    (logs : scene.logs = before.scene.logs) (store : scene.store = before.scene.store) :
    Spares action before (before.waitAt scene slot patience) := by
  refine spares_answerIn _ ?_ ?_
  · rw [Scene.logs_afterWait, logs]
  · rw [Scene.store_afterWait, store]

theorem Store.boards_withChannel (store : Store) (cell : CellId) :
    (store.withChannel cell).boards = store.boards := by
  unfold withChannel
  split
  · rfl
  · exact boards_register _ _ _

theorem Store.boards_withBarrier (store : Store) (cell : CellId) :
    (store.withBarrier cell).boards = store.boards := by
  unfold withBarrier
  split
  · rfl
  · exact boards_register _ _ _

theorem spares_awaitOn {scene : Scene} (channel : ChannelId) (patience : Nat)
    (logs : scene.logs = before.scene.logs)
    (boards : scene.store.boards = before.scene.store.boards) :
    Spares action before (before.awaitOn scene channel patience) := by
  refine spares_answerIn _ ?_ ?_
  · rw [Scene.logs_afterWait, logs]
  · rw [Scene.store_afterWait, boards]

/-- An action that settles a named cell, perhaps above a frame. -/
theorem Spares.settling {name : String} {cell : CellId} {outcome : Outcome Value}
    (names : ∀ scene, action.settles? scene = (scene.names.lookup name).map (·, outcome))
    (found : before.scene.names.lookup name = some cell)
    (control : after.control = .settle cell outcome) (scene : after.scene = before.scene)
    (pledges : after.pledges = before.pledges) : Spares action before after where
  settles := by
    intro other another doing
    rw [control] at doing
    cases doing
    rw [names, found]
    rfl
  pledges := pledges
  logs := congrArg Scene.logs scene
  boards := fun _ => by rw [scene]

theorem spares_chain (fresh : String) (source : CellId) (mapping : Mapping)
    (policy : FailurePolicy) : Spares action before (before.chain fresh source mapping policy) := by
  unfold Machine.chain
  dsimp only
  split
  · refine spares_answerIn _ (Scene.logs_bind _ _ _) ?_
    rw [Scene.boards_bind]
    exact Store.boards_register _ _ _
  · exact ⟨fun doing => Control.noConfusion doing, rfl, rfl, fun _ => rfl⟩

/-- A new combined promise, of either kind. -/
theorem spares_combine {combined : Store × CellId} (fresh : String)
    (boards : ∀ {board}, board < before.scene.store.boards.length →
      combined.1.boards[board]? = before.scene.store.boards[board]?) :
    Spares action before
      (before.answerIn (Scene.bind { before.scene with store := combined.1 } fresh combined.2)
        .nothing) := by
  refine .plainly (fun _ _ same => Control.noConfusion same) rfl (Scene.logs_bind _ _ _) ?_
  intro board old
  simp only [Machine.answerIn, Scene.boards_bind]
  exact boards old

/-- What performing any action leaves to others. -/
theorem spares_perform (before : Machine) (action : Action) :
    Spares action before (before.perform action) := by
  cases action with
  | create fresh => exact spares_answerIn _ (Scene.logs_bind _ _ _) (Scene.boards_bind _ _ _)
  | resolved fresh value =>
      exact spares_answerIn _ (Scene.logs_bind _ _ _) (Scene.boards_bind _ _ _)
  | rejected fresh failure =>
      exact spares_answerIn _ (Scene.logs_bind _ _ _) (Scene.boards_bind _ _ _)
  | share fresh name =>
      exact spares_withCell fun cell _ =>
        spares_answerIn _ (Scene.logs_bind _ _ _) (Scene.boards_bind _ _ _)
  | drop name =>
      exact spares_withCell fun cell _ => spares_answerIn _ rfl (Store.letGo_release _ _).boards
  | resolve name value =>
      exact spares_withCell fun cell found =>
        .settling (fun _ => rfl) found rfl rfl rfl
  | reject name failure =>
      exact spares_withCell fun cell found =>
        .settling (fun _ => rfl) found rfl rfl rfl
  | settle name outcome =>
      exact spares_withCell fun cell found =>
        .settling (fun _ => rfl) found rfl rfl rfl
  | onThread action => exact ⟨fun doing => Control.noConfusion doing, rfl, rfl, fun _ => rfl⟩
  | onComplete name label body =>
      refine spares_withCell fun cell _ => ?_
      dsimp only
      split
      · exact .plainly (fun _ _ same => Control.noConfusion same) rfl rfl fun _ => rfl
      · exact spares_answerIn _ rfl (Store.boards_register _ _ _)
  | panic text => exact spares_panic text
  | chain fresh source mapping policy =>
      exact spares_withCell fun cell _ => spares_chain fresh cell mapping policy
  | whenAll fresh inputs =>
      simp only [Machine.perform]
      split
      · exact spares_panic _
      · exact spares_combine fresh fun old => Store.boards_whenAll _ _ old
  | whenAny fresh inputs =>
      simp only [Machine.perform]
      split
      · exact spares_panic _
      · exact spares_combine fresh fun old => Store.boards_whenAny _ _ _
  | peek name => exact spares_withCell fun cell _ => spares_answer _
  | isSettled name => exact spares_withCell fun cell _ => spares_answer _
  | describe name => exact spares_withCell fun cell _ => spares_answer _
  | barrier fresh name =>
      exact spares_withCell fun cell _ => spares_answerIn _ rfl (Store.boards_withBarrier _ _)
  | wait barrier => exact spares_withBarrier fun slot => spares_waitAt _ _ rfl rfl
  | waitFor barrier patience => exact spares_withBarrier fun slot => spares_waitAt _ _ rfl rfl
  | spawnWait fresh barrier patience =>
      exact spares_withBarrier fun slot => spares_answerIn _ rfl rfl
  | join thread =>
      simp only [Machine.perform]
      split
      · exact spares_panic _
      · split
        · exact spares_answerIn _ rfl rfl
        · exact spares_waitAt _ _ rfl rfl
  | await name patience =>
      exact spares_withCell fun cell _ => spares_awaitOn _ _ rfl (Store.boards_withChannel _ _)
  | awaitTake name patience =>
      exact spares_withCell fun cell _ => spares_awaitOn _ _ rfl
        ((Store.letGo_release _ _).boards.trans (Store.boards_withChannel _ _))
  | future fresh name =>
      exact spares_withCell fun cell _ => spares_answerIn _ rfl (Store.boards_withChannel _ _)
  | futureTake fresh name =>
      exact spares_withCell fun cell _ => spares_answerIn _ rfl
        ((Store.letGo_release _ _).boards.trans (Store.boards_withChannel _ _))
  | poll future =>
      simp only [Machine.perform]
      split
      · exact spares_panic _
      · split
        · exact spares_answer _
        · exact spares_answerIn _ rfl rfl
        · exact spares_answerIn _ rfl rfl

end Sparing

/-! ## Running -/

/-- What a continuation that runs leaves to others: it settles nothing but its target, it pledges
something only if it is a link whose mapping performs actions, it logs something only if it is a link
that ignores a failure, and it changes no board but its own. -/
structure Bears (continuation : Continuation) (outcome : Outcome Value) (before after : Machine) :
    Prop where
  settles : ∀ {cell outcome}, after.control = .settle cell outcome →
    continuation.target? = some cell
  pledges : after.pledges = (continuation.pledge? outcome).toList ++ before.pledges
  logs : after.scene.logs = before.scene.logs ++ (continuation.warning? outcome).toList
  boards : ∀ {board}, (∀ target place, continuation ≠ .gather target board place) →
    after.scene.store.boards[board]? = before.scene.store.boards[board]?

section Bearing

variable {continuation : Continuation} {outcome : Outcome Value} {before : Machine}

/-- A link to a target that lets go of it when it is done. -/
theorem bears_above {scene : Scene} {control : Control} {target : CellId}
    (holds : continuation.target? = some target)
    (settles : ∀ {cell outcome}, control = .settle cell outcome → cell = target)
    (pledges : continuation.pledge? outcome = none)
    (logs : scene.logs = before.scene.logs ++ (continuation.warning? outcome).toList)
    (boards : ∀ {board}, (∀ target place, continuation ≠ .gather target board place) →
      scene.store.boards[board]? = before.scene.store.boards[board]?) :
    Bears continuation outcome before ⟨scene, control, .letGo target :: before.frames⟩ where
  settles := by
    intro cell outcome doing
    rw [settles doing]
    exact holds
  pledges := by
    rw [pledges]
    rfl
  logs := logs
  boards := boards

/-- A continuation that only changes the scene. -/
theorem bears_answerIn {scene : Scene} (result : Result)
    (pledges : continuation.pledge? outcome = none)
    (warns : continuation.warning? outcome = none) (logs : scene.logs = before.scene.logs)
    (boards : scene.store.boards = before.scene.store.boards) :
    Bears continuation outcome before (before.answerIn scene result) where
  settles := fun doing => Control.noConfusion doing
  pledges := by
    rw [pledges]
    rfl
  logs := by
    rw [warns]
    exact logs.trans (List.append_nil _).symm
  boards := fun _ => congrArg (·[_]?) boards

end Bearing

theorem bears_runLink (before : Machine) (target : CellId) (mapping : Mapping)
    (policy : FailurePolicy) (outcome : Outcome Value) :
    Bears (.link target mapping policy) outcome before
      (before.runLink target mapping policy outcome) := by
  have unsaid : before.scene.logs = before.scene.logs ++ [] := (List.append_nil _).symm
  have itself : ∀ {given : Outcome Value} {cell other},
      Control.settle target given = .settle cell other → cell = target := by
    intro given cell other same
    cases same
    rfl
  cases outcome with
  | error failure =>
      cases policy with
      | propagate => exact bears_above rfl itself rfl unsaid fun _ => rfl
      | ignore => exact bears_above rfl (fun doing => Control.noConfusion doing) rfl rfl fun _ => rfl
  | ok value =>
      cases mapping with
      | perform body => exact ⟨fun doing => Control.noConfusion doing, rfl, unsaid, fun _ => rfl⟩
      | panic text =>
          exact bears_above rfl (fun doing => Control.noConfusion doing) rfl unsaid fun _ => rfl
      | add amount => exact bears_above rfl itself rfl unsaid fun _ => rfl
      | const constant => exact bears_above rfl itself rfl unsaid fun _ => rfl
      | wrap => exact bears_above rfl itself rfl unsaid fun _ => rfl
      | identity => exact bears_above rfl itself rfl unsaid fun _ => rfl

theorem bears_run (before : Machine) (continuation : Continuation) (outcome : Outcome Value) :
    Bears continuation outcome before (before.run continuation outcome) := by
  have nothing : ∀ other : Continuation, (∀ target mapping policy,
      other ≠ .link target mapping policy) →
      other.pledge? outcome = none ∧ other.warning? outcome = none := by
    intro other different
    cases other with
    | link target mapping policy => exact absurd rfl (different target mapping policy)
    | _ => cases outcome <;> exact ⟨rfl, rfl⟩
  have unsaid : before.scene.logs = before.scene.logs ++ [] := (List.append_nil _).symm
  cases continuation with
  | observe label body =>
      rcases nothing (.observe label body) (fun _ _ _ same => Continuation.noConfusion same) with
        ⟨pledges, warns⟩
      refine ⟨fun doing => Control.noConfusion doing, ?_, ?_, fun _ => rfl⟩
      · rw [pledges]
        rfl
      · rw [warns]
        exact unsaid
  | link target mapping policy => exact bears_runLink before target mapping policy outcome
  | gather target board place =>
      rcases nothing (.gather target board place) (fun _ _ _ same => Continuation.noConfusion same) with
        ⟨pledges, warns⟩
      have boards : ∀ {other}, (∀ target' place',
          Continuation.gather target board place ≠ .gather target' other place') →
          (before.scene.store.gatherOutcome board place outcome).1.boards[other]? =
            before.scene.store.boards[other]? := by
        intro other different
        apply Store.boards_gatherOutcome
        rintro rfl
        exact different target place rfl
      simp only [Machine.run]
      split
      · refine bears_above rfl ?_ pledges (by rw [warns]; exact unsaid) boards
        intro cell other doing
        cases doing
        rfl
      · exact bears_above rfl (fun doing => Control.noConfusion doing) pledges
          (by rw [warns]; exact unsaid) boards
  | race target place =>
      rcases nothing (.race target place) (fun _ _ _ same => Continuation.noConfusion same) with
        ⟨pledges, warns⟩
      refine bears_above rfl ?_ pledges (by rw [warns]; exact unsaid) fun _ => rfl
      intro cell other doing
      cases doing
      rfl
  | fill slot =>
      rcases nothing (.fill slot) (fun _ _ _ same => Continuation.noConfusion same) with
        ⟨pledges, warns⟩
      exact bears_answerIn _ pledges warns rfl rfl
  | send channel =>
      rcases nothing (.send channel) (fun _ _ _ same => Continuation.noConfusion same) with
        ⟨pledges, warns⟩
      exact bears_answerIn _ pledges warns rfl rfl

/-! ## Taking frames off -/

/-- What a frame that is taken off leaves to others: it settles a cell only if it is pledged to, it
pledges nothing, and whatever it logs is an error. -/
structure Yields (machine after : Machine) (frame : Frame) : Prop where
  settles : ∀ {cell outcome}, after.control = .settle cell outcome →
    ∃ value, frame = .hand cell value ∧ outcome = .ok value
  pledges : after.pledges = machine.pledges
  logs : ∃ errors, after.scene.logs = machine.scene.logs ++ errors ∧
    ∀ entry ∈ errors, entry.level = .error
  boards : after.scene.store.boards = machine.scene.store.boards

section Yielding

variable {machine after : Machine} {frame : Frame}

/-- A frame that logs nothing. -/
theorem Yields.silently
    (settles : ∀ {cell outcome}, after.control = .settle cell outcome →
      ∃ value, frame = .hand cell value ∧ outcome = .ok value)
    (pledges : after.pledges = machine.pledges) (logs : after.scene.logs = machine.scene.logs)
    (boards : after.scene.store.boards = machine.scene.store.boards) :
    Yields machine after frame :=
  ⟨settles, pledges, ⟨[], logs.trans (List.append_nil _).symm,
    fun _ member => absurd member List.not_mem_nil⟩, boards⟩

theorem yields_drainOn (machine : Machine) (outcome : Outcome Value) (rest : List Continuation)
    (panic : Option String) (frame : Frame) :
    Yields machine (machine.drainOn outcome rest panic) frame := by
  cases rest with
  | nil =>
      rw [Machine.drainOn_nil]
      refine .silently ?_ rfl rfl rfl
      intro cell other doing
      cases panic <;> cases doing
  | cons continuation rest =>
      exact .silently (fun doing => Control.noConfusion doing) rfl rfl rfl

theorem yields_resume (machine : Machine) (frame : Frame) (result : Result) :
    Yields machine (machine.resume frame result) frame := by
  cases frame with
  | body label actions =>
      cases actions with
      | cons action rest =>
          refine .silently (fun doing => Control.noConfusion doing) rfl ?_ ?_
          · simp only [Machine.resume, Machine.above]
            split <;> rfl
          · simp only [Machine.resume, Machine.above]
            split <;> rfl
      | nil =>
          refine .silently (fun doing => Control.noConfusion doing) rfl ?_ ?_
          · simp only [Machine.resume, Machine.goOn]
            split <;> rfl
          · simp only [Machine.resume, Machine.goOn]
            split <;> rfl
  | drain outcome rest panic => exact yields_drainOn _ _ _ _ _
  | complain verb =>
      simp only [Machine.resume]
      split
      · refine ⟨fun doing => Control.noConfusion doing, rfl, ⟨_, rfl, fun entry member => ?_⟩, rfl⟩
        rw [List.mem_singleton.mp member]
      · exact .silently (fun doing => Control.noConfusion doing) rfl rfl rfl
  | hand target value =>
      refine .silently ?_ rfl rfl rfl
      intro cell outcome doing
      cases doing
      exact ⟨value, rfl, rfl⟩
  | letGo cell =>
      exact .silently (fun doing => Control.noConfusion doing) rfl rfl (Store.letGo_release _ _).boards
  | name fresh cell =>
      exact .silently (fun doing => Control.noConfusion doing) rfl (Scene.logs_bind _ _ _)
        (Scene.boards_bind _ _ _)
  | thread => exact .silently (fun doing => Control.noConfusion doing) rfl rfl rfl

theorem yields_unwind (machine : Machine) (frame : Frame) (text : String) :
    Yields machine (machine.unwind frame text) frame := by
  cases frame with
  | drain outcome rest panic =>
      have goesOn := yields_drainOn { machine with
        scene := machine.scene.log .error "promise continuation panicked" [] } outcome rest
        (some (panic.getD text)) (.drain outcome rest panic)
      refine ⟨goesOn.settles, goesOn.pledges,
        ⟨[⟨.error, "promise continuation panicked", []⟩], ?_, ?_⟩, goesOn.boards⟩
      · exact congrArg Scene.logs (Machine.scene_drainOn _ _ _ _)
      · intro entry member
        rw [List.mem_singleton.mp member]
  | letGo cell =>
      exact .silently (fun doing => Control.noConfusion doing) rfl rfl (Store.letGo_release _ _).boards
  | name fresh cell =>
      exact .silently (fun doing => Control.noConfusion doing) rfl rfl (Store.letGo_release _ _).boards
  | body label actions => exact .silently (fun doing => Control.noConfusion doing) rfl rfl rfl
  | complain verb => exact .silently (fun doing => Control.noConfusion doing) rfl rfl rfl
  | hand target value => exact .silently (fun doing => Control.noConfusion doing) rfl rfl rfl
  | thread => exact .silently (fun doing => Control.noConfusion doing) rfl rfl rfl

end Yielding

/-! ## Steps -/

/-- Somebody is settling a cell by one of its names. -/
def Machine.SettlesByName (machine : Machine) (cell : CellId) (outcome : Outcome Value) : Prop :=
  ∃ action, machine.control = .perform action ∧
    action.settles? machine.scene = some (cell, outcome)

/-- Whoever settles a cell by name has its name and is about to settle it. -/
theorem Machine.SettlesByName.step {machine : Machine} {cell : CellId} {outcome : Outcome Value}
    (settles : machine.SettlesByName cell outcome) :
    (∃ name, machine.scene.names.lookup name = some cell) ∧
      ∃ frames, machine.step? = some ⟨machine.scene, .settle cell outcome, frames⟩ := by
  rcases settles with ⟨action, doing, names⟩
  have found : ∀ {name : String} {given : Outcome Value},
      (machine.scene.names.lookup name).map (·, given) = some (cell, outcome) →
      machine.scene.names.lookup name = some cell ∧ given = outcome := by
    intro name given same
    rcases Option.map_eq_some_iff.mp same with ⟨other, known, pair⟩
    cases pair
    exact ⟨known, rfl⟩
  cases action with
  | resolve name value =>
      rcases found names with ⟨known, rfl⟩
      refine ⟨⟨name, known⟩, .complain "resolve" :: machine.frames, ?_⟩
      simp only [step?, doing, perform, withCell, known, above]
  | reject name failure =>
      rcases found names with ⟨known, rfl⟩
      refine ⟨⟨name, known⟩, .complain "reject" :: machine.frames, ?_⟩
      simp only [step?, doing, perform, withCell, known, above]
  | settle name given =>
      rcases found names with ⟨known, rfl⟩
      refine ⟨⟨name, known⟩, machine.frames, ?_⟩
      simp only [step?, doing, perform, withCell, known, goOn]
  | _ => cases names

/-- The frames that stay when a step is taken.  At its end a control goes to the topmost frame, which
is taken off. -/
def Machine.standing (machine : Machine) : List Frame :=
  match machine.control.ending? with
  | some _ => machine.frames.tail
  | none => machine.frames

/-- What a step does to the boards, the pledges and the log, and where it can lead to a settlement. -/
structure Causes (before after : Machine) : Prop where
  settles : ∀ {cell outcome}, after.control = .settle cell outcome →
    before.SettlesByName cell outcome ∨
      (∃ continuation given, before.control = .run continuation given ∧
        continuation.target? = some cell) ∨
      ∃ value result frames, before.frames = .hand cell value :: frames ∧
        before.control = .answer result ∧ outcome = .ok value
  pledges : after.pledges = (before.control.brings? Continuation.pledge?).toList ++
    before.standing.filterMap Frame.pledge?
  logs : ∃ errors, after.scene.logs = before.scene.logs ++
      ((before.control.brings? Continuation.warning?).toList ++ errors) ∧
    ∀ entry ∈ errors, entry.level = .error
  boards : ∀ {board}, board < before.scene.store.boards.length →
    (∀ target place outcome, before.control ≠ .run (.gather target board place) outcome) →
    after.scene.store.boards[board]? = before.scene.store.boards[board]?

/-- No frame is pledged anew but for a link whose mapping performs actions. -/
theorem Causes.hands {before after : Machine} (causes : Causes before after) {cell : CellId}
    {value : Value} (member : .hand cell value ∈ after.frames) :
    .hand cell value ∈ before.frames ∨
      ∃ mapping policy outcome, before.control = .run (.link cell mapping policy) outcome := by
  have pledged := Machine.mem_pledges.mpr member
  rw [causes.pledges] at pledged
  rcases List.mem_append.mp pledged with new | old
  · right
    cases doing : before.control with
    | run continuation outcome =>
        rw [doing, Control.brings?, Option.mem_toList] at new
        cases continuation with
        | link target mapping policy =>
            cases outcome with
            | error failure => cases new
            | ok given =>
                cases mapping with
                | perform body =>
                    cases new
                    exact ⟨_, _, _, rfl⟩
                | _ => cases new
        | _ => cases outcome <;> cases new
    | _ =>
        rw [doing] at new
        cases new
  · left
    rcases List.mem_filterMap.mp old with ⟨frame, standing, pledges⟩
    rw [← Frame.pledge?_eq_some.mp pledges]
    unfold Machine.standing at standing
    split at standing
    · exact List.mem_of_mem_tail standing
    · exact standing

theorem causes_of_step {machine next : Machine} (steps : machine.step? = some next) :
    Causes machine next := by
  rcases machine with ⟨scene, control, frames⟩
  cases control with
  | perform action =>
      cases steps
      have spares := spares_perform ⟨scene, .perform action, frames⟩ action
      exact ⟨fun doing => Or.inl ⟨action, rfl, spares.settles doing⟩, spares.pledges,
        ⟨[], spares.logs.trans (List.append_nil _).symm,
          fun _ member => absurd member List.not_mem_nil⟩,
        fun old _ => spares.boards old⟩
  | settle cell outcome =>
      cases steps
      simp only [Machine.settle]
      split
      · exact ⟨fun doing => Control.noConfusion doing, rfl,
          ⟨[], (List.append_nil _).symm, fun _ member => absurd member List.not_mem_nil⟩,
          fun _ _ => rfl⟩
      · next store continuations settles =>
          refine ⟨fun doing => Control.noConfusion doing, rfl,
            ⟨[], (List.append_nil _).symm, fun _ member => absurd member List.not_mem_nil⟩, ?_⟩
          intro board _ _
          rw [(Store.settle?_eq_some.mp settles).2]
          rfl
  | run continuation outcome =>
      cases steps
      have bears := bears_run ⟨scene, .run continuation outcome, frames⟩ continuation outcome
      refine ⟨fun doing => Or.inr (Or.inl ⟨_, _, rfl, bears.settles doing⟩), bears.pledges,
        ⟨[], ?_, fun _ member => absurd member List.not_mem_nil⟩, ?_⟩
      · rw [List.append_nil]
        exact bears.logs
      · intro board _ different
        apply bears.boards
        rintro target place rfl
        exact different target place outcome rfl
  | answer result =>
      cases frames with
      | nil => cases steps
      | cons frame rest =>
          cases steps
          have yields := yields_resume ⟨scene, .answer result, rest⟩ frame result
          refine ⟨fun doing => ?_, yields.pledges, yields.logs, fun _ _ => by rw [yields.boards]⟩
          rcases yields.settles doing with ⟨value, rfl, rfl⟩
          exact Or.inr (Or.inr ⟨value, result, rest, rfl, rfl, rfl⟩)
  | panic text =>
      cases frames with
      | nil => cases steps
      | cons frame rest =>
          cases steps
          have yields := yields_unwind ⟨scene, .panic text, rest⟩ frame text
          refine ⟨fun doing => ?_, yields.pledges, yields.logs, fun _ _ => by rw [yields.boards]⟩
          -- a panic settles nothing, not even what a frame is pledged to
          cases frame with
          | hand target value => cases doing
          | _ => rcases yields.settles doing with ⟨value, same, _⟩; cases same

end Promise
end PromiseHttp
