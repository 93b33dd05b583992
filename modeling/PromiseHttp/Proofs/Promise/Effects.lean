import PromiseHttp.Proofs.Promise.Performing

namespace PromiseHttp
namespace Promise

/-!
# What a step does

A machine takes six kinds of steps.  It performs an action, which may register continuations; it
finds that a cell to be settled has settled before; it settles a cell and puts a settlement above
its frames; it runs a continuation; it goes on with the settlement on top of its frames, because a
continuation has come to an end; or it takes another frame off.  Every invariant of the machine is
proved from this list, and none of the proofs looks into the machine again.
-/

/-! ## Running -/

/-- What running a continuation does.  It leaves the cells as they are.  If somebody listens at its
end, they hear the outcome. -/
structure Runs (continuation : Continuation) (outcome : Outcome Value) (before after : Machine) :
    Prop where
  cells : after.scene.store.cells = before.scene.store.cells
  names : after.scene.names = before.scene.names
  frames : Piles before.frames after
  calm : after.control.isRun = false
  offers : ∀ {other}, before.scene.store.Offers other → after.scene.store.Offers other
  heard : ∀ {other}, other ≠ continuation →
    after.scene.store.heard? other = before.scene.store.heard? other
  told : continuation.listens = true → before.scene.store.Offers continuation →
    after.scene.store.heard? continuation = some outcome

/-- A continuation without a listener. -/
theorem Runs.unheard {continuation : Continuation} {outcome : Outcome Value}
    {before after : Machine} (cells : after.scene.store.cells = before.scene.store.cells)
    (slots : after.scene.store.slots = before.scene.store.slots)
    (channels : after.scene.store.channels = before.scene.store.channels)
    (names : after.scene.names = before.scene.names) (frames : Piles before.frames after)
    (calm : after.control.isRun = false)
    (unheard : continuation.listens = false) : Runs continuation outcome before after where
  cells := cells
  names := names
  frames := frames
  calm := calm
  offers := fun there => (Store.offers_of_eq slots channels _).mpr there
  heard := fun _ => Store.heard?_of_eq slots channels _
  told := by
    intro listens
    rw [unheard] at listens
    cases listens

theorem runs_runLink (before : Machine) (target : CellId) (mapping : Mapping)
    (policy : FailurePolicy) (outcome : Outcome Value) :
    Runs (.link target mapping policy) outcome before
      (before.runLink target mapping policy outcome) := by
  cases outcome with
  | error failure =>
      cases policy with
      | propagate =>
          exact Runs.unheard rfl rfl rfl rfl (Piles.one rfl rfl trivial) rfl rfl
      | ignore =>
          exact Runs.unheard rfl rfl rfl rfl (Piles.one rfl rfl trivial) rfl rfl
  | ok value =>
      cases mapping with
      | perform body =>
          refine Runs.unheard rfl rfl rfl rfl ?_ rfl rfl
          refine ⟨[.body none body, .hand target value, .letGo target], rfl, ?_⟩
          intro frame member
          simp only [List.mem_cons, List.not_mem_nil, or_false] at member
          rcases member with rfl | rfl | rfl <;> exact ⟨rfl, trivial⟩
      | add amount => exact Runs.unheard rfl rfl rfl rfl (Piles.one rfl rfl trivial) rfl rfl
      | const constant =>
          exact Runs.unheard rfl rfl rfl rfl (Piles.one rfl rfl trivial) rfl rfl
      | wrap => exact Runs.unheard rfl rfl rfl rfl (Piles.one rfl rfl trivial) rfl rfl
      | identity => exact Runs.unheard rfl rfl rfl rfl (Piles.one rfl rfl trivial) rfl rfl
      | panic text => exact Runs.unheard rfl rfl rfl rfl (Piles.one rfl rfl trivial) rfl rfl

theorem runs (before : Machine) (continuation : Continuation) (outcome : Outcome Value) :
    Runs continuation outcome before (before.run continuation outcome) := by
  cases continuation with
  | observe label body =>
      exact Runs.unheard rfl rfl rfl rfl (Piles.one rfl rfl trivial) rfl rfl
  | link target mapping policy => exact runs_runLink before target mapping policy outcome
  | gather target board place =>
      rcases Store.gatherOutcome_keeps before.scene.store board place outcome with
        ⟨cells, slots, channels⟩
      simp only [Machine.run]
      split
      · exact Runs.unheard cells slots channels rfl (Piles.one rfl rfl trivial) rfl rfl
      · exact Runs.unheard cells slots channels rfl (Piles.one rfl rfl trivial) rfl rfl
  | race target place =>
      exact Runs.unheard rfl rfl rfl rfl (Piles.one rfl rfl trivial) rfl rfl
  | fill slot =>
      refine ⟨rfl, rfl, Piles.none rfl, rfl, ?_, ?_, ?_⟩
      · exact fun there => (Store.offers_fillSlot _ slot outcome _).mpr there
      · exact fun different => Store.heard?_fillSlot_of_ne _ different outcome
      · intro _ there
        exact Store.slot?_fillSlot _ there outcome
  | send channel =>
      refine ⟨rfl, rfl, Piles.none rfl, rfl, ?_, ?_, ?_⟩
      · exact fun there => (Store.offers_deliver _ channel outcome _).mpr there
      · exact fun different => Store.heard?_deliver_of_ne _ different outcome
      · intro _ there
        exact Store.heard?_send_eq_some.mpr (Store.channel_deliver _ there outcome)

/-! ## Taking a frame off -/

/-- What is to be read in the log of a continuation that ended like this. -/
def complaints : Option String → List LogEntry
  | none => []
  | some _ => [⟨.error, "promise continuation panicked", []⟩]

/-- What a panic adds to the log when it ends a continuation. -/
def Scene.afterEnding (scene : Scene) : Option String → Scene
  | none => scene
  | some _ => scene.log .error "promise continuation panicked" []

/-- How a control ends: a result ends well and a panic ends with its text.  Any other control is not
at its end. -/
def Control.ending? : Control → Option (Option String)
  | .answer _ => some none
  | .panic text => some (some text)
  | _ => none

/-- What taking a frame off does that is no settlement. -/
structure Pops (rest : List Frame) (before after : Machine) : Prop where
  released : Store.LetGo before.scene.store after.scene.store
  named : after.scene.Named
  frames : Piles rest after
  calm : after.control.isRun = false

/-- A frame that only has a say in the control. -/
theorem Pops.simply {rest : List Frame} {before after : Machine} (named : before.scene.Named)
    (store : after.scene.store = before.scene.store) (names : after.scene.names = before.scene.names)
    (frames : Piles rest after)
    (calm : after.control.isRun = false) :
    Pops rest before after where
  released := store ▸ Store.LetGo.refl _
  named := by
    unfold Scene.Named
    rw [store, names]
    exact named
  frames := frames
  calm := calm

/-- A frame that lets go of a cell. -/
theorem Pops.releasing {rest : List Frame} {before after : Machine} (named : before.scene.Named)
    {cell : CellId} (store : after.scene.store = before.scene.store.release cell)
    (names : after.scene.names = before.scene.names) (frames : after.frames = rest)
    (calm : after.control.isRun = false) :
    Pops rest before after := by
  have released : Store.LetGo before.scene.store after.scene.store :=
    store ▸ Store.letGo_release _ cell
  refine ⟨released, ?_, Piles.none frames, calm⟩
  refine named.mono ?_ (Nat.le_of_eq released.cells.symm)
  intro entry member
  rw [names] at member
  exact member

theorem pops_resume {before : Machine} (named : before.scene.Named) {frame : Frame}
    {rest : List Frame} (plain : frame.isDrain = false)
    (within : frame.Within before.scene.store) (result : Result) :
    Pops rest before (Machine.resume { before with frames := rest } frame result) := by
  cases frame with
  | body label actions =>
      simp only [Machine.resume]
      split
      · refine Pops.simply named ?_ ?_ (Piles.one rfl rfl trivial) rfl
        · simp only [Machine.above]
          split <;> rfl
        · simp only [Machine.above]
          split <;> rfl
      · refine Pops.simply named ?_ ?_ (Piles.none rfl) rfl
        · simp only [Machine.goOn]
          split <;> rfl
        · simp only [Machine.goOn]
          split <;> rfl
  | drain outcome continuations panic => cases plain
  | complain verb =>
      simp only [Machine.resume]
      split
      · exact Pops.simply named rfl rfl (Piles.none rfl) rfl
      · exact Pops.simply named rfl rfl (Piles.none rfl) rfl
  | hand target value => exact Pops.simply named rfl rfl (Piles.none rfl) rfl
  | letGo cell => exact Pops.releasing named rfl rfl rfl rfl
  | name fresh cell =>
      exact ⟨before.scene.letGo_bind fresh cell, named.bind within fresh, Piles.none rfl, rfl⟩
  | thread => exact Pops.simply named rfl rfl (Piles.none rfl) rfl

theorem pops_unwind {before : Machine} (named : before.scene.Named) {frame : Frame}
    {rest : List Frame} (plain : frame.isDrain = false) (text : String) :
    Pops rest before (Machine.unwind { before with frames := rest } frame text) := by
  cases frame with
  | body label actions => exact Pops.simply named rfl rfl (Piles.none rfl) rfl
  | drain outcome continuations panic => cases plain
  | complain verb => exact Pops.simply named rfl rfl (Piles.none rfl) rfl
  | hand target value => exact Pops.simply named rfl rfl (Piles.none rfl) rfl
  | letGo cell => exact Pops.releasing named rfl rfl rfl rfl
  | name fresh cell => exact Pops.releasing named rfl rfl rfl rfl
  | thread => exact Pops.simply named rfl rfl (Piles.none rfl) rfl

/-! ## Steps -/

/-- What a machine needs to go on: all that will be named is there. -/
structure Machine.Valid (machine : Machine) : Prop where
  named : machine.scene.Named
  frames : ∀ frame ∈ machine.frames, frame.Within machine.scene.store

/-- What a step does. -/
inductive Effect (before after : Machine) : Prop where
  | performed (action : Action) (doing : before.control = .perform action)
      (performs : Performs action before after)
  /-- The cell to be settled is not pending. -/
  | refused (cell : CellId) (outcome : Outcome Value)
      (doing : before.control = .settle cell outcome)
      (closed : ∀ continuations, before.scene.store.state cell ≠ .pending continuations)
      (result : after = before.goOn (.answer .alreadySettled))
  | settled (cell : CellId) (outcome : Outcome Value) (continuations : List Continuation)
      (doing : before.control = .settle cell outcome)
      (pending : before.scene.store.state cell = .pending continuations)
      (result : after = Machine.mk
        { before.scene with store := before.scene.store.setState cell (.settled outcome) }
        (.answer .nothing) (.drain outcome continuations none :: before.frames))
  | ran (continuation : Continuation) (outcome : Outcome Value)
      (doing : before.control = .run continuation outcome)
      (runs : Runs continuation outcome before after)
  /-- The settlement on top goes on. -/
  | wentOn (failure : Option String) (outcome : Outcome Value) (rest : List Continuation)
      (panic : Option String) (frames : List Frame) (doing : before.control.ending? = some failure)
      (top : before.frames = .drain outcome rest panic :: frames)
      (result : after = Machine.drainOn
        { before with scene := before.scene.afterEnding failure, frames := frames }
        outcome rest (panic.or failure))
  | popped (failure : Option String) (frame : Frame) (rest : List Frame)
      (doing : before.control.ending? = some failure) (top : before.frames = frame :: rest)
      (plain : frame.isDrain = false) (pops : Pops rest before after)

/-- Every step has one of these effects. -/
theorem effect_of_step {before after : Machine} (valid : before.Valid)
    (steps : before.step? = some after) : Effect before after := by
  rcases before with ⟨scene, control, frames⟩
  cases control with
  | perform action =>
      cases steps
      exact .performed action rfl (performs valid.named action)
  | settle cell outcome =>
      cases steps
      simp only [Machine.settle]
      cases settles : scene.store.settle? cell outcome with
      | none =>
          exact .refused cell outcome rfl (Store.settle?_eq_none.mp settles) rfl
      | some pair =>
          rcases pair with ⟨store, continuations⟩
          rcases Store.settle?_eq_some.mp settles with ⟨pending, rfl⟩
          exact .settled cell outcome continuations rfl pending rfl
  | run continuation outcome =>
      cases steps
      exact .ran continuation outcome rfl (runs _ continuation outcome)
  | answer result =>
      cases frames with
      | nil => cases steps
      | cons frame rest =>
          cases steps
          cases kind : frame.isDrain with
          | true =>
              cases frame with
              | drain outcome continuations panic =>
                  refine .wentOn none outcome continuations panic rest rfl rfl ?_
                  rw [Option.or_none]
                  rfl
              | _ => cases kind
          | false =>
              have within := valid.frames frame List.mem_cons_self
              exact .popped none frame rest rfl rfl kind
                (pops_resume valid.named kind within result)
  | panic text =>
      cases frames with
      | nil => cases steps
      | cons frame rest =>
          cases steps
          cases kind : frame.isDrain with
          | true =>
              cases frame with
              | drain outcome continuations panic =>
                  refine .wentOn (some text) outcome continuations panic rest rfl rfl ?_
                  cases panic <;> rfl
              | _ => cases kind
          | false =>
              exact .popped (some text) frame rest rfl rfl kind
                (pops_unwind valid.named kind text)

/-- A machine rests when nothing waits for its control to come to an end. -/
theorem Machine.frames_of_rest {machine : Machine} (rest : machine.step? = none) :
    machine.frames = [] := by
  unfold step? at rest
  split at rest
  · cases rest
  · cases rest
  · cases rest
  · cases rest
  · cases rest
  · assumption
  · assumption

theorem Scene.store_afterEnding (scene : Scene) (failure : Option String) :
    (scene.afterEnding failure).store = scene.store := by
  cases failure <;> rfl

/-- A continuation that panicked leaves one entry in the log, and one that did not leaves none. -/
theorem Scene.logs_afterEnding (scene : Scene) (failure : Option String) :
    (scene.afterEnding failure).logs = scene.logs ++ complaints failure := by
  cases failure with
  | none => exact (List.append_nil _).symm
  | some text => rfl

theorem Scene.names_afterEnding (scene : Scene) (failure : Option String) :
    (scene.afterEnding failure).names = scene.names := by
  cases failure <;> rfl

/-- How a settlement ends: well, or with the first panic among its continuations. -/
def Control.closing : Option String → Control
  | none => .answer .done
  | some text => .panic text

theorem Machine.drainOn_nil (machine : Machine) (outcome : Outcome Value) (panic : Option String) :
    machine.drainOn outcome [] panic = machine.goOn (.closing panic) := by
  cases panic <;> rfl

/-- Going on with a settlement only touches the control and the frames. -/
theorem Machine.scene_drainOn (machine : Machine) (outcome : Outcome Value)
    (rest : List Continuation) (panic : Option String) :
    (machine.drainOn outcome rest panic).scene = machine.scene := by
  cases rest with
  | nil =>
      rw [Machine.drainOn_nil]
      rfl
  | cons continuation rest => rfl

theorem Piles.within {frames : List Frame} {before after : Machine} (piles : Piles frames after)
    (below : ∀ frame ∈ frames, frame.Within before.scene.store)
    (cells : before.scene.store.cells.length ≤ after.scene.store.cells.length) :
    ∀ frame ∈ after.frames, frame.Within after.scene.store := by
  rcases piles with ⟨above, same, plain⟩
  intro frame member
  rw [same] at member
  rcases List.mem_append.mp member with new | old
  · exact (plain frame new).2
  · exact (below frame old).mono cells

/-- A machine stays able to go on. -/
theorem Effect.valid {before after : Machine} (effect : Effect before after)
    (valid : before.Valid) : after.Valid := by
  cases effect with
  | performed action doing performs =>
      exact ⟨performs.named, performs.frames.within valid.frames performs.grows.cells⟩
  | refused cell outcome doing closed result =>
      subst result
      exact ⟨valid.named, valid.frames⟩
  | settled cell outcome continuations doing pending result =>
      subst result
      have cells := Store.length_setState before.scene.store cell (.settled outcome)
      constructor
      · exact valid.named.mono (fun _ member => member) (Nat.le_of_eq cells.symm)
      · intro frame member
        rcases List.mem_cons.mp member with rfl | below
        · trivial
        · exact (valid.frames frame below).mono (Nat.le_of_eq cells.symm)
  | ran continuation outcome doing runs =>
      have cells := Nat.le_of_eq (congrArg List.length runs.cells).symm
      refine ⟨valid.named.mono ?_ cells, runs.frames.within valid.frames cells⟩
      intro entry member
      rw [runs.names] at member
      exact member
  | wentOn failure outcome rest panic frames doing top result =>
      have store : after.scene.store = before.scene.store := by
        rw [result, Machine.scene_drainOn]
        exact Scene.store_afterEnding _ _
      have names : after.scene.names = before.scene.names := by
        rw [result, Machine.scene_drainOn]
        exact Scene.names_afterEnding _ _
      have below : ∀ frame ∈ frames, frame.Within after.scene.store := by
        intro frame member
        rw [store]
        exact valid.frames frame (top ▸ List.mem_cons_of_mem _ member)
      constructor
      · unfold Scene.Named
        rw [store, names]
        exact valid.named
      · intro frame member
        rw [result] at member
        cases rest with
        | nil =>
            rw [Machine.drainOn_nil] at member
            exact below frame member
        | cons continuation rest =>
            rcases List.mem_cons.mp member with rfl | old
            · trivial
            · exact below frame old
  | popped failure frame rest doing top plain pops =>
      have below : ∀ frame ∈ rest, frame.Within before.scene.store := fun other member =>
        valid.frames other (top ▸ List.mem_cons_of_mem _ member)
      exact ⟨pops.named, pops.frames.within below (Nat.le_of_eq pops.released.cells.symm)⟩

/-- No step takes an outcome away or puts another in its place. -/
theorem Effect.keeps {before after : Machine} (effect : Effect before after) {cell : CellId}
    {outcome : Outcome Value} (settled : before.scene.store.state cell = .settled outcome) :
    after.scene.store.state cell = .settled outcome := by
  cases effect with
  | performed action doing performs => exact performs.grows.settled settled
  | refused other another doing closed result =>
      subst result
      exact settled
  | settled other another continuations doing pending result =>
      subst result
      have different : cell ≠ other := by
        intro same
        rw [same, pending] at settled
        cases settled
      exact (Store.state_setState_of_ne _ different _).trans settled
  | ran continuation another doing runs =>
      exact (Store.state_of_cells_eq runs.cells cell).trans settled
  | wentOn failure another rest panic frames doing top result =>
      rw [result, Machine.scene_drainOn]
      simp only [Scene.store_afterEnding]
      exact settled
  | popped failure frame rest doing top plain pops => exact pops.released.settled.mpr settled

end Promise
end PromiseHttp
