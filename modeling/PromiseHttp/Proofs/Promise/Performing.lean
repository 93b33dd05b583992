import PromiseHttp.Proofs.Promise.Combining

namespace PromiseHttp
namespace Promise

/-!
# What performing an action does

However many actions there are, they have few effects on the promises.  An action registers the
continuations that can be read off it, and with them the cells grow.  It never settles a cell that
was there before and never goes on with a settlement.  If it runs a continuation, it is one that it
has just registered on a cell that has settled.

The names of promises and the frames that will name one only ever speak of cells that are there.
-/

/-! ## Names -/

/-- Every name is the name of a cell that is there. -/
def Scene.Named (scene : Scene) : Prop :=
  ∀ entry ∈ scene.names, entry.2 < scene.store.cells.length

theorem mem_of_lookup {α : Type} {name : String} {entries : List (String × α)} {found : α}
    (there : entries.lookup name = some found) : (name, found) ∈ entries := by
  induction entries with
  | nil => cases there
  | cons entry rest inductionHypothesis =>
      rcases entry with ⟨key, value⟩
      rw [List.lookup_cons] at there
      split at there
      · next same =>
          cases there
          rw [eq_of_beq same]
          exact List.mem_cons_self
      · exact List.mem_cons_of_mem _ (inductionHypothesis there)

theorem Scene.Named.lookup {scene : Scene} (named : scene.Named) {name : String} {cell : CellId}
    (found : scene.names.lookup name = some cell) : cell < scene.store.cells.length :=
  named (name, cell) (mem_of_lookup found)

/-- Fewer names of more cells. -/
theorem Scene.Named.mono {before after : Scene} (named : before.Named)
    (names : ∀ entry ∈ after.names, entry ∈ before.names)
    (cells : before.store.cells.length ≤ after.store.cells.length) : after.Named :=
  fun entry member => Nat.lt_of_lt_of_le (named entry (names entry member)) cells

theorem Scene.mem_without {α : Type} {key : String} {entries : List (String × α)}
    {entry : String × α} (member : entry ∈ without key entries) : entry ∈ entries :=
  (List.mem_filter.mp member).1

theorem Scene.names_bind (scene : Scene) (fresh : String) (cell : CellId) :
    (scene.bind fresh cell).names = (fresh, cell) :: without fresh scene.names := by
  unfold bind
  cases scene.names.lookup fresh <;> rfl

theorem Scene.letGo_bind (scene : Scene) (fresh : String) (cell : CellId) :
    Store.LetGo scene.store (scene.bind fresh cell).store := by
  unfold bind
  cases scene.names.lookup fresh with
  | none => exact Store.LetGo.refl _
  | some earlier => exact Store.letGo_release _ _

theorem Scene.Named.bind {scene : Scene} (named : scene.Named) {cell : CellId}
    (there : cell < scene.store.cells.length) (fresh : String) : (scene.bind fresh cell).Named := by
  intro entry member
  rw [(scene.letGo_bind fresh cell).cells]
  rw [scene.names_bind] at member
  rcases List.mem_cons.mp member with rfl | earlier
  · exact there
  · exact named entry (mem_without earlier)

theorem Scene.cells_there {scene : Scene} (named : scene.Named) {names : List String}
    {found : List CellId} (all : scene.cells names = .ok found) :
    ∀ cell ∈ found, cell < scene.store.cells.length := by
  induction names generalizing found with
  | nil =>
      cases all
      intro cell member
      cases member
  | cons name rest inductionHypothesis =>
      simp only [cells] at all
      cases first : scene.names.lookup name with
      | none =>
          rw [first] at all
          cases all
      | some cell =>
          rw [first] at all
          cases others : scene.cells rest with
          | error missing =>
              rw [others] at all
              cases all
          | ok further =>
              rw [others] at all
              cases all
              intro other member
              rcases List.mem_cons.mp member with rfl | later
              · exact named.lookup first
              · exact inductionHypothesis others other later

/-! ## Frames -/

/-- Whether a frame is a settlement under way. -/
def Frame.isDrain : Frame → Bool
  | .drain _ _ _ => true
  | _ => false

/-- A frame that will name a cell speaks of one that is there. -/
def Frame.Within (store : Store) : Frame → Prop
  | .name _ cell => cell < store.cells.length
  | _ => True

theorem Frame.Within.mono {before after : Store} {frame : Frame} (within : frame.Within before)
    (cells : before.cells.length ≤ after.cells.length) : frame.Within after := by
  cases frame with
  | name fresh cell => exact Nat.lt_of_lt_of_le within cells
  | body label rest => trivial
  | drain outcome rest panic => trivial
  | complain verb => trivial
  | hand target value => trivial
  | letGo cell => trivial
  | thread => trivial

/-- The frames after a step are some new ones, none of them a settlement, above the old ones. -/
def Piles (frames : List Frame) (after : Machine) : Prop :=
  ∃ above, after.frames = above ++ frames ∧
    ∀ frame ∈ above, frame.isDrain = false ∧ frame.Within after.scene.store

theorem Piles.none {frames : List Frame} {after : Machine} (same : after.frames = frames) :
    Piles frames after :=
  ⟨[], same, fun _ member => absurd member List.not_mem_nil⟩

theorem Piles.one {frames : List Frame} {after : Machine} {frame : Frame}
    (same : after.frames = frame :: frames) (plain : frame.isDrain = false)
    (within : frame.Within after.scene.store) : Piles frames after := by
  refine ⟨[frame], same, ?_⟩
  intro other member
  cases List.mem_singleton.mp member
  exact ⟨plain, within⟩

/-- Whether a control is that of a continuation about to run. -/
def Control.isRun : Control → Bool
  | .run _ _ => true
  | _ => false

theorem Control.ne_run {control : Control} (calm : control.isRun = false)
    (continuation : Continuation) (outcome : Outcome Value) :
    control ≠ .run continuation outcome := by
  intro running
  rw [running] at calm
  cases calm

/-- Whether a continuation takes steps of its own when it runs.  The others act at once. -/
def Continuation.takesSteps : Continuation → Bool
  | .observe _ _ => true
  | .link _ _ _ => true
  | _ => false

/-- What performing an action does.  It never settles and never goes on with a settlement; if it runs
a continuation, it is the one that the action has just registered on a cell that has settled. -/
structure Performs (action : Action) (before after : Machine) : Prop where
  grows : Store.Grows (action.registrations before.scene) before.scene.store after.scene.store
  named : after.scene.Named
  frames : Piles before.frames after
  runs : ∀ {continuation outcome}, after.control = .run continuation outcome →
    continuation.takesSteps = true ∧
      ∃ cell, action.registrations before.scene = [(cell, continuation)] ∧
        before.scene.store.state cell = .settled outcome
  late : ∀ {cell continuation outcome},
    (cell, continuation) ∈ action.registrations before.scene →
    before.scene.store.state cell = .settled outcome → continuation.takesSteps = true →
    after.control = .run continuation outcome
  heeds : ∀ {cell continuation outcome},
    (cell, continuation) ∈ action.registrations before.scene →
    before.scene.store.state cell = .settled outcome → continuation.takesSteps = false →
    after.scene.store.Heeds outcome continuation

/-- An action that runs no continuation, and what it registers on a cell that has settled has acted
at once. -/
theorem Performs.quietly {action : Action} {before after : Machine}
    (grows : Store.Grows (action.registrations before.scene) before.scene.store after.scene.store)
    (named : after.scene.Named) (frames : after.frames = before.frames)
    (calm : after.control.isRun = false)
    (late : ∀ {cell continuation outcome},
      (cell, continuation) ∈ action.registrations before.scene →
      before.scene.store.state cell = .settled outcome →
      continuation.takesSteps = false ∧ after.scene.store.Heeds outcome continuation) :
    Performs action before after where
  grows := grows
  named := named
  frames := Piles.none frames
  runs := fun found => absurd found (Control.ne_run calm _ _)
  late := by
    intro cell continuation outcome member settled steps
    rw [(late member settled).1] at steps
    cases steps
  heeds := fun member settled _ => (late member settled).2

/-- An action that registers nothing. -/
theorem Performs.plainly {action : Action} {before after : Machine}
    (none : action.registrations before.scene = [])
    (released : Store.Grows [] before.scene.store after.scene.store) (named : after.scene.Named)
    (frames : after.frames = before.frames)
    (calm : after.control.isRun = false) :
    Performs action before after := by
  refine Performs.quietly (none ▸ released) named frames calm ?_
  intro cell continuation outcome member
  rw [none] at member
  cases member

/-- An action that changes the control only. -/
theorem Performs.goingOn {action : Action} {before : Machine} (named : before.scene.Named)
    (none : action.registrations before.scene = []) (control : Control)
    (calm : control.isRun = false) :
    Performs action before (before.goOn control) :=
  Performs.plainly none (Store.Grows.refl _) named rfl calm

/-- An action that waits above a frame for another control. -/
theorem Performs.waiting {action : Action} {before : Machine} (named : before.scene.Named)
    (none : action.registrations before.scene = []) (frame : Frame) (control : Control)
    (plain : frame.isDrain = false) (within : frame.Within before.scene.store)
    (calm : control.isRun = false) :
    Performs action before (before.above frame control) where
  grows := none ▸ Store.Grows.refl _
  named := named
  frames := Piles.one rfl plain within
  runs := fun found => absurd found (Control.ne_run calm _ _)
  late := by
    intro cell continuation outcome member
    rw [none] at member
    cases member
  heeds := by
    intro cell continuation outcome member
    rw [none] at member
    cases member

/-- An action on the cell of a name has to be looked at only if there is one. -/
theorem performs_withCell {action : Action} {before : Machine} (named : before.scene.Named)
    {name : String} {next : CellId → Machine}
    (none : before.scene.names.lookup name = none → action.registrations before.scene = [])
    (found : ∀ cell, before.scene.names.lookup name = some cell →
      cell < before.scene.store.cells.length → Performs action before (next cell)) :
    Performs action before (before.withCell name next) := by
  unfold Machine.withCell
  cases known : before.scene.names.lookup name with
  | none => exact Performs.goingOn named (none known) _ rfl
  | some cell => exact found cell known (named.lookup known)

theorem performs_withBarrier {action : Action} {before : Machine} (named : before.scene.Named)
    {name : String} {next : SlotId → Machine}
    (none : action.registrations before.scene = [])
    (found : ∀ slot, Performs action before (next slot)) :
    Performs action before (before.withBarrier name next) := by
  unfold Machine.withBarrier
  cases before.scene.barriers.lookup name with
  | none => exact Performs.goingOn named none _ rfl
  | some slot => exact found slot

/-! ## Performing -/

theorem Scene.onCell_of_lookup {scene : Scene} {name : String} {cell : CellId}
    (known : scene.names.lookup name = some cell) (continuation : Continuation) :
    scene.onCell name continuation = [(cell, continuation)] := by
  simp only [onCell, known]

theorem Scene.onCell_of_none {scene : Scene} {name : String}
    (unknown : scene.names.lookup name = none) (continuation : Continuation) :
    scene.onCell name continuation = [] := by
  simp only [onCell, unknown]

theorem Scene.store_afterWait (scene : Scene) (patience : Option Nat) (result : Result) :
    (scene.afterWait patience result).store = scene.store := by
  unfold afterWait
  split <;> rfl

theorem Scene.names_afterWait (scene : Scene) (patience : Option Nat) (result : Result) :
    (scene.afterWait patience result).names = scene.names := by
  unfold afterWait
  split <;> rfl

/-- Continuations are only registered on cells that are there. -/
theorem registrations_there {scene : Scene} (named : scene.Named) (action : Action) :
    ∀ entry ∈ action.registrations scene, entry.1 < scene.store.cells.length := by
  have single : ∀ name continuation, ∀ entry ∈ scene.onCell name continuation,
      entry.1 < scene.store.cells.length := by
    intro name continuation entry member
    simp only [Scene.onCell] at member
    split at member
    · next cell known =>
        cases List.mem_singleton.mp member
        exact named.lookup known
    · cases member
  have several : ∀ names link, ∀ entry ∈ scene.onCells names link,
      entry.1 < scene.store.cells.length := by
    intro names link entry member
    simp only [Scene.onCells] at member
    split at member
    · next inputs known =>
        exact Scene.cells_there named known entry.1 (Store.mem_enlisted member).1
    · cases member
  cases action with
  | onComplete name label body => exact single _ _
  | chain fresh source mapping policy => exact single _ _
  | whenAll fresh inputs => exact several _ _
  | whenAny fresh inputs => exact several _ _
  | barrier fresh name => exact single _ _
  | await name patience => exact single _ _
  | awaitTake name patience => exact single _ _
  | future fresh name => exact single _ _
  | futureTake fresh name => exact single _ _
  | _ =>
      intro entry member
      cases member

/-- A wait changes neither the cells nor their names. -/
theorem performs_waitAt (action : Action) {before : Machine} (named : before.scene.Named)
    (none : action.registrations before.scene = []) {scene : Scene}
    (store : scene.store = before.scene.store) (names : scene.names = before.scene.names)
    (slot : SlotId) (patience : Option Nat) :
    Performs action before (before.waitAt scene slot patience) := by
  unfold Machine.waitAt
  refine Performs.plainly none ?_ ?_ rfl rfl
  · simp only [Machine.answerIn, Scene.store_afterWait, store]
    exact Store.Grows.refl _
  · refine named.mono ?_ ?_
    · intro entry member
      simp only [Machine.answerIn, Scene.names_afterWait, names] at member
      exact member
    · simp only [Machine.answerIn, Scene.store_afterWait, store]
      exact Nat.le_refl _

/-- A new cell under a name. -/
theorem performs_create {action : Action} {before : Machine} (named : before.scene.Named)
    (none : action.registrations before.scene = []) (fresh : String) {state : CellState}
    (bare : ∀ continuations, state = .pending continuations → continuations = []) :
    Performs action before (before.answerIn (before.scene.create fresh state) .nothing) := by
  have grows := Store.grows_addCell before.scene.store bare
  refine Performs.plainly none (grows.letGo ?_) ?_ rfl rfl
  · exact Scene.letGo_bind { before.scene with store := (before.scene.store.addCell state).1 } _ _
  · apply Scene.Named.bind
    · exact named.mono (fun _ member => member) grows.cells
    · exact Nat.lt_of_lt_of_eq (Nat.lt_succ_self _) (Store.length_addCell _ _).symm

/-- A new channel on a cell, of which afterwards a name may be given up. -/
theorem performs_openChannel {action : Action} {before after : Machine}
    (named : before.scene.Named) {cell : CellId}
    (only : action.registrations before.scene =
      [(cell, .send before.scene.store.channels.length)])
    (released : Store.LetGo (before.scene.store.withChannel cell) after.scene.store)
    (names : ∀ entry ∈ after.scene.names, entry ∈ before.scene.names)
    (frames : after.frames = before.frames)
    (calm : after.control.isRun = false) :
    Performs action before after := by
  have grows : Store.Grows (action.registrations before.scene) before.scene.store
      after.scene.store := by
    rw [only]
    exact (Store.grows_withChannel _ cell).letGo released
  refine Performs.quietly grows (named.mono names grows.cells) frames calm ?_
  intro other continuation outcome member settled
  rw [only] at grows member
  cases List.mem_singleton.mp member
  have told := (grows.attached List.mem_cons_self rfl).2.2.1
  rw [Store.outcome?_eq_some.mpr settled] at told
  exact ⟨rfl, told⟩

/-- A new combined promise. -/
theorem performs_combine {action : Action} {before : Machine} (named : before.scene.Named)
    {link : Nat → Continuation} {inputs : List String} {cells : List CellId}
    {combined : Store × CellId} (found : before.scene.cells inputs = .ok cells)
    (only : action.registrations before.scene = before.scene.onCells inputs link)
    (combines : Store.Combines (enlisted link 0 cells) before.scene.store combined)
    (acts : ∀ place, (link place).takesSteps = false)
    (heeds : ∀ {cell continuation outcome}, (cell, continuation) ∈ enlisted link 0 cells →
      before.scene.store.state cell = .settled outcome → combined.1.Heeds outcome continuation)
    (fresh : String) :
    Performs action before
      (before.answerIn (Scene.bind { before.scene with store := combined.1 } fresh combined.2)
        .nothing) := by
  have registered : action.registrations before.scene = enlisted link 0 cells := by
    rw [only]
    simp only [Scene.onCells, found]
  refine Performs.quietly ?_ ?_ rfl rfl ?_
  · rw [registered]
    exact combines.grows.letGo (Scene.letGo_bind { before.scene with store := combined.1 } _ _)
  · apply Scene.Named.bind
    · exact named.mono (fun _ member => member) combines.grows.cells
    · rw [combines.target]
      exact Nat.lt_of_lt_of_eq (Nat.lt_succ_self _) combines.cells.symm
  · intro cell continuation outcome member settled
    rw [registered] at member
    have released := Scene.letGo_bind { before.scene with store := combined.1 } fresh combined.2
    refine ⟨?_, released.heeds (heeds member settled)⟩
    rcases (Store.mem_enlisted member).2 with ⟨place, rfl⟩
    exact acts place

/-- A chained promise.  Its link runs at once if the source has settled. -/
theorem performs_chain {action : Action} {before : Machine} (named : before.scene.Named)
    {source : CellId} (there : source < before.scene.store.cells.length) {mapping : Mapping}
    {policy : FailurePolicy}
    (only : action.registrations before.scene =
      [(source, .link before.scene.store.cells.length mapping policy)]) (fresh : String) :
    Performs action before (before.chain fresh source mapping policy) := by
  have same : ((before.scene.store.addCell (.pending [])).1.hold
      before.scene.store.cells.length).outcome? source = before.scene.store.outcome? source := by
    apply Store.outcome?_of_state_eq
    rw [Store.state_hold, Store.state_addCell_old _ _ there]
  have longer : before.scene.store.cells.length < ((before.scene.store.addCell (.pending [])).1.hold
      before.scene.store.cells.length).cells.length := by
    rw [Store.length_hold, Store.length_addCell]
    exact Nat.lt_succ_self _
  unfold Machine.chain
  cases found : before.scene.store.outcome? source with
  | none =>
      have grows := Store.grows_chain before.scene.store there mapping policy
      have unsettled : ∀ outcome, before.scene.store.state source ≠ .settled outcome := by
        intro outcome settled
        rw [Store.outcome?_eq_some.mpr settled] at found
        cases found
      simp only [Store.addCell] at same ⊢
      rw [same, found]
      refine Performs.quietly ?_ ?_ rfl rfl ?_
      · rw [only]
        exact grows.letGo (Scene.letGo_bind { before.scene with store := _ } _ _)
      · apply Scene.Named.bind
        · exact named.mono (fun _ member => member) grows.cells
        · exact Nat.lt_of_lt_of_eq longer (Store.length_register _ _ _).symm
      · intro cell continuation outcome member settled
        rw [only] at member
        cases List.mem_singleton.mp member
        exact absurd settled (unsettled outcome)
  | some outcome =>
      have settled := Store.outcome?_eq_some.mp found
      have grows := Store.grows_chain_late before.scene.store settled mapping policy
      simp only [Store.addCell] at same ⊢
      rw [same, found]
      refine ⟨?_, ?_, Piles.one rfl rfl longer, ?_, ?_, ?_⟩
      · rw [only]
        exact grows
      · exact named.mono (fun _ member => member) grows.cells
      · intro continuation other running
        cases running
        exact ⟨rfl, source, only, settled⟩
      · intro cell continuation other member settled' _
        rw [only] at member
        cases List.mem_singleton.mp member
        rw [settled] at settled'
        cases settled'
        rfl
      · intro cell continuation other member _ steps
        rw [only] at member
        cases List.mem_singleton.mp member
        cases steps

/-- An observer.  It runs at once if the cell has settled. -/
theorem performs_onComplete {before : Machine} (named : before.scene.Named) (name label : String)
    (body : List Action) :
    Performs (.onComplete name label body) before
      (before.perform (.onComplete name label body)) := by
  refine performs_withCell named (fun unknown => Scene.onCell_of_none unknown _) ?_
  intro cell known there
  have only : Action.registrations before.scene (.onComplete name label body) =
      [(cell, .observe label body)] := Scene.onCell_of_lookup known _
  cases found : before.scene.store.outcome? cell with
  | none =>
      simp only [found]
      have grows := Store.grows_register before.scene.store cell
        (rfl : (Continuation.observe label body).listens = false)
      refine Performs.quietly ?_ ?_ rfl rfl ?_
      · rw [only]
        exact grows
      · exact named.mono (fun _ member => member) grows.cells
      · intro other continuation outcome member settled
        rw [only] at member
        cases List.mem_singleton.mp member
        rw [Store.outcome?_eq_some.mpr settled] at found
        cases found
  | some outcome =>
      simp only [found]
      have settled := Store.outcome?_eq_some.mp found
      refine ⟨?_, named, Piles.none rfl, ?_, ?_, ?_⟩
      · rw [only]
        exact Store.grows_late _ settled rfl
      · intro continuation other running
        cases running
        exact ⟨rfl, cell, only, settled⟩
      · intro other continuation another member settled' _
        rw [only] at member
        cases List.mem_singleton.mp member
        rw [settled] at settled'
        cases settled'
        rfl
      · intro other continuation another member _ steps
        rw [only] at member
        cases List.mem_singleton.mp member
        cases steps

/-- A barrier on a cell. -/
theorem performs_barrier {before : Machine} (named : before.scene.Named) (fresh name : String) :
    Performs (.barrier fresh name) before (before.perform (.barrier fresh name)) := by
  refine performs_withCell named (fun unknown => Scene.onCell_of_none unknown _) ?_
  intro cell known _
  have only : Action.registrations before.scene (.barrier fresh name) =
      [(cell, .fill before.scene.store.slots.length)] := Scene.onCell_of_lookup known _
  have grows := Store.grows_withBarrier before.scene.store cell
  refine Performs.quietly ?_ ?_ rfl rfl ?_
  · rw [only]
    exact grows
  · exact named.mono (fun _ member => member) grows.cells
  · intro other continuation outcome member settled
    rw [only] at member
    cases List.mem_singleton.mp member
    have told := (grows.attached List.mem_cons_self rfl).2.2.1
    rw [Store.outcome?_eq_some.mpr settled] at told
    exact ⟨rfl, told⟩

/-- What performing any action does. -/
theorem performs {before : Machine} (named : before.scene.Named) (action : Action) :
    Performs action before (before.perform action) := by
  cases action with
  | create fresh =>
      refine performs_create named rfl fresh ?_
      intro continuations same
      cases same
      rfl
  | resolved fresh value => exact performs_create named rfl fresh (by intro _ same; cases same)
  | rejected fresh failure => exact performs_create named rfl fresh (by intro _ same; cases same)
  | share fresh name =>
      refine performs_withCell named (fun _ => rfl) ?_
      intro cell _ there
      let held := { before.scene with store := before.scene.store.hold cell }
      have kept : Store.LetGo before.scene.store held.store :=
        Store.letGo_modifyCell _ cell fun _ => rfl
      refine Performs.plainly rfl (kept.trans (held.letGo_bind fresh cell)).grows ?_ rfl rfl
      apply Scene.Named.bind
      · exact named.mono (fun _ member => member) (Nat.le_of_eq kept.cells.symm)
      · exact Nat.lt_of_lt_of_eq there kept.cells.symm
  | drop name =>
      refine performs_withCell named (fun _ => rfl) ?_
      intro cell _ _
      have released := Store.letGo_release before.scene.store cell
      refine Performs.plainly rfl released.grows ?_ rfl rfl
      exact named.mono (fun _ member => Scene.mem_without member)
        (Nat.le_of_eq released.cells.symm)
  | resolve name value =>
      refine performs_withCell named (fun _ => rfl) ?_
      intro cell _ _
      exact Performs.waiting named rfl _ _ rfl trivial rfl
  | reject name failure =>
      refine performs_withCell named (fun _ => rfl) ?_
      intro cell _ _
      exact Performs.waiting named rfl _ _ rfl trivial rfl
  | settle name outcome =>
      refine performs_withCell named (fun _ => rfl) ?_
      intro cell _ _
      exact Performs.goingOn named rfl _ rfl
  | onThread action => exact Performs.waiting named rfl _ _ rfl trivial rfl
  | onComplete name label body => exact performs_onComplete named name label body
  | panic text => exact Performs.goingOn named rfl _ rfl
  | chain fresh source mapping policy =>
      refine performs_withCell named (fun unknown => Scene.onCell_of_none unknown _) ?_
      intro cell known there
      have only : Action.registrations before.scene (.chain fresh source mapping policy) =
          [(cell, .link before.scene.store.cells.length mapping policy)] :=
        Scene.onCell_of_lookup known _
      exact performs_chain named there only fresh
  | whenAll fresh inputs =>
      simp only [Machine.perform]
      cases found : before.scene.cells inputs with
      | error name =>
          refine Performs.goingOn named ?_ _ rfl
          simp only [Action.registrations, Scene.onCells, found]
      | ok cells =>
          have there := Scene.cells_there named found
          exact performs_combine named found rfl (Store.combines_whenAll _ _ there)
            (fun _ => rfl) (Store.heeds_whenAll _ there) fresh
  | whenAny fresh inputs =>
      simp only [Machine.perform]
      cases found : before.scene.cells inputs with
      | error name =>
          refine Performs.goingOn named ?_ _ rfl
          simp only [Action.registrations, Scene.onCells, found]
      | ok cells =>
          have there := Scene.cells_there named found
          exact performs_combine named found rfl (Store.combines_whenAny _ _ there)
            (fun _ => rfl) (Store.heeds_whenAny _ there) fresh
  | peek name =>
      refine performs_withCell named (fun _ => rfl) ?_
      intro cell _ _
      exact Performs.goingOn named rfl _ rfl
  | isSettled name =>
      refine performs_withCell named (fun _ => rfl) ?_
      intro cell _ _
      exact Performs.goingOn named rfl _ rfl
  | describe name =>
      refine performs_withCell named (fun _ => rfl) ?_
      intro cell _ _
      exact Performs.goingOn named rfl _ rfl
  | barrier fresh name => exact performs_barrier named fresh name
  | wait barrier =>
      refine performs_withBarrier named rfl ?_
      intro slot
      exact performs_waitAt (.wait barrier) named rfl rfl rfl slot none
  | waitFor barrier patience =>
      refine performs_withBarrier named rfl ?_
      intro slot
      exact performs_waitAt (.waitFor barrier patience) named rfl rfl rfl slot (some patience)
  | spawnWait fresh barrier patience =>
      refine performs_withBarrier named rfl ?_
      intro slot
      exact Performs.plainly rfl (Store.Grows.refl _) named rfl rfl
  | join thread =>
      simp only [Machine.perform]
      cases before.scene.waiters.lookup thread with
      | none => exact Performs.goingOn named rfl _ rfl
      | some waiter =>
          dsimp only
          split
          · exact Performs.plainly rfl (Store.Grows.refl _) named rfl rfl
          · apply performs_waitAt (.join thread) named rfl
            · rfl
            · rfl
  | await name patience =>
      refine performs_withCell named (fun unknown => Scene.onCell_of_none unknown _) ?_
      intro cell known _
      refine performs_openChannel named (Scene.onCell_of_lookup known _) ?_ ?_ rfl rfl
      · simp only [Machine.awaitOn, Machine.answerIn, Scene.store_afterWait]
        exact Store.LetGo.refl _
      · intro entry member
        simp only [Machine.awaitOn, Machine.answerIn, Scene.names_afterWait] at member
        exact member
  | awaitTake name patience =>
      refine performs_withCell named (fun unknown => Scene.onCell_of_none unknown _) ?_
      intro cell known _
      refine performs_openChannel named (Scene.onCell_of_lookup known _) ?_ ?_ rfl rfl
      · simp only [Machine.awaitOn, Machine.answerIn, Scene.store_afterWait]
        exact Store.letGo_release _ cell
      · intro entry member
        simp only [Machine.awaitOn, Machine.answerIn, Scene.names_afterWait] at member
        exact Scene.mem_without member
  | future fresh name =>
      refine performs_withCell named (fun unknown => Scene.onCell_of_none unknown _) ?_
      intro cell known _
      exact performs_openChannel named (Scene.onCell_of_lookup known _) (Store.LetGo.refl _)
        (fun _ member => member) rfl rfl
  | futureTake fresh name =>
      refine performs_withCell named (fun unknown => Scene.onCell_of_none unknown _) ?_
      intro cell known _
      exact performs_openChannel named (Scene.onCell_of_lookup known _)
        (Store.letGo_release _ cell) (fun _ member => Scene.mem_without member) rfl rfl
  | poll future =>
      simp only [Machine.perform]
      cases before.scene.futures.lookup future with
      | none => exact Performs.goingOn named rfl _ rfl
      | some channel =>
          dsimp only
          cases before.scene.store.channel channel with
          | waiting => exact Performs.goingOn named rfl _ rfl
          | delivered outcome =>
              exact Performs.plainly rfl (Store.Grows.refl _) named rfl rfl
          | closed => exact Performs.plainly rfl (Store.Grows.refl _) named rfl rfl

end Promise
end PromiseHttp
