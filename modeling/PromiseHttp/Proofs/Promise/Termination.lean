import PromiseHttp.Proofs.Promise.Combining

namespace PromiseHttp
namespace Promise

/-!
# Coming to rest

Every step of a machine takes some of its weight away, whatever panics and however settlements nest.
What a continuation can still cause is counted while it is registered, while it waits in a
settlement, and while it runs, so that it is never counted twice.  Hence the machine comes to rest
within as many steps as its weight, and this is the fuel that it is given.
-/

/-- A bound on the work of the continuations in a state. -/
def CellState.weight : CellState → Nat
  | .pending continuations => tally Continuation.weight continuations
  | _ => 0

namespace Store

/-! ## The weight of the cells -/

theorem weight_of_cells_eq {first second : Store} (same : first.cells = second.cells) :
    first.weight = second.weight :=
  across_of_cells_eq same CellState.weight

theorem weight_setState {store : Store} {cell : CellId} {earlier : CellState}
    (found : store.state cell = earlier) (there : cell < store.cells.length) (state : CellState) :
    (store.setState cell state).weight + earlier.weight = store.weight + state.weight :=
  across_setState found there state CellState.weight

theorem weight_addCell (store : Store) (state : CellState) :
    (store.addCell state).1.weight = store.weight + state.weight :=
  across_addCell store state CellState.weight

theorem weight_hold (store : Store) (cell : CellId) : (store.hold cell).weight = store.weight :=
  across_hold store cell CellState.weight

theorem weight_register_le (store : Store) (cell : CellId) (continuation : Continuation) :
    (store.register cell continuation).weight ≤ store.weight + continuation.weight := by
  unfold register
  split
  · next continuations found =>
      have there : cell < store.cells.length := there_of_pending found
      have moved := weight_setState found there (.pending (continuations ++ [continuation]))
      simp only [CellState.weight, tally_append, tally_cons, tally_nil, Nat.add_zero] at moved
      omega
  · omega

/-- Settling a cell takes the weight of its continuations out of the cells. -/
theorem weight_settle? {store after : Store} {cell : CellId} {outcome : Outcome Value}
    {continuations : List Continuation}
    (settles : store.settle? cell outcome = some (after, continuations)) :
    after.weight + tally Continuation.weight continuations = store.weight := by
  rcases settle?_eq_some.mp settles with ⟨pending, rfl⟩
  have there : cell < store.cells.length := there_of_pending pending
  exact weight_setState pending there (.settled outcome)

/-! ## Letting go -/

theorem cells_closeChannels (store : Store) (channels : List ChannelId) :
    (channels.foldl closeChannel store).cells = store.cells := by
  induction channels generalizing store with
  | nil => rfl
  | cons channel rest inductionHypothesis => exact inductionHypothesis (store.closeChannel channel)

theorem weight_dropContinuations (store : Store) (continuations : List Continuation) :
    (store.dropContinuations continuations).1.weight = store.weight :=
  weight_of_cells_eq (cells_closeChannels store _)

theorem weight_releaseOne_le (store : Store) (cell : CellId) :
    (store.releaseOne cell).1.weight ≤ store.weight := by
  unfold releaseOne
  cases there : store.cells[cell]? with
  | none => exact Nat.le_refl _
  | some found =>
      have counted : (store.modifyCell cell fun found =>
          { found with holders := found.holders - 1 }).weight = store.weight :=
        across_modifyCell_keep store cell CellState.weight fun _ => rfl
      dsimp only
      split
      · split
        · have existing : cell < (store.modifyCell cell fun found =>
              { found with holders := found.holders - 1 }).cells.length := by
            rw [length_modifyCell]
            exact (List.getElem?_eq_some_iff.mp there).1
          have moved := weight_setState rfl existing .abandoned
          rw [weight_dropContinuations]
          simp only [CellState.weight] at moved
          omega
        · exact Nat.le_of_eq counted
      · exact Nat.le_of_eq counted

theorem weight_releaseAll_le (fuel : Nat) (store : Store) (cells : List CellId) :
    (releaseAll fuel store cells).weight ≤ store.weight := by
  induction fuel generalizing store cells with
  | zero => exact Nat.le_refl _
  | succ fuel inductionHypothesis =>
      cases cells with
      | nil => exact Nat.le_refl _
      | cons cell rest =>
          exact Nat.le_trans (inductionHypothesis _ _) (weight_releaseOne_le store cell)

theorem weight_release_le (store : Store) (cell : CellId) :
    (store.release cell).weight ≤ store.weight :=
  weight_releaseAll_le _ store [cell]

/-! ## Combined promises -/

theorem weight_enlist_le (target : CellId)
    {arrive : Store → Nat → Outcome Value → Store × Option (Outcome Value)}
    (kept : ∀ store place outcome, (arrive store place outcome).1.cells = store.cells)
    {link : Nat → Continuation} {cost : Nat} (costs : ∀ place, (link place).weight = cost)
    (inputs : List CellId) (store : Store) (place : Nat) :
    (store.enlist target arrive link place inputs).weight ≤
      store.weight + cost * inputs.length := by
  induction inputs generalizing store place with
  | nil => exact Nat.le_refl _
  | cons input rest inductionHypothesis =>
      rw [List.length_cons, Nat.mul_succ]
      unfold enlist
      split
      · have registered := weight_register_le (store.hold target) input (link place)
        have further := inductionHypothesis ((store.hold target).register input (link place))
          (place + 1)
        rw [costs, weight_hold] at registered
        omega
      · next outcome found =>
          have arrived := weight_of_cells_eq (kept store place outcome)
          dsimp only
          split
          · have further := inductionHypothesis (arrive store place outcome).1 (place + 1)
            omega
          · split
            · next settled continuations settles =>
                have taken := weight_settle? settles
                have further := inductionHypothesis settled (place + 1)
                omega
            · have further := inductionHypothesis (arrive store place outcome).1 (place + 1)
              omega

theorem weight_whenAll_le (store : Store) (inputs : List CellId) :
    (store.whenAll inputs).1.weight ≤ store.weight + 8 * inputs.length := by
  unfold whenAll
  cases inputs with
  | nil => exact Nat.le_of_eq (weight_addCell store _)
  | cons input rest =>
      have linked := weight_enlist_le store.cells.length
        (fun store' place outcome =>
          (gatherOutcome_keeps store' store.boards.length place outcome).1)
        (fun place =>
          (rfl : (Continuation.gather store.cells.length store.boards.length place).weight = 8))
        (input :: rest)
        ((store.addCell (.pending [])).1.addBoard (input :: rest).length).1 0
      have added : ((store.addCell (.pending [])).1.addBoard (input :: rest).length).1.weight =
          store.weight := weight_addCell store (.pending [])
      rw [added] at linked
      exact linked

theorem weight_whenAny_le (store : Store) (inputs : List CellId) :
    (store.whenAny inputs).1.weight ≤ store.weight + 8 * inputs.length := by
  unfold whenAny
  cases inputs with
  | nil => exact Nat.le_of_eq (weight_addCell store _)
  | cons input rest =>
      have linked := weight_enlist_le store.cells.length
        (fun store place outcome =>
          (rfl : (store, some (raceOutcome place outcome)).1.cells = store.cells))
        (fun place => (rfl : (Continuation.race store.cells.length place).weight = 8))
        (input :: rest) (store.addCell (.pending [])).1 0
      have added : (store.addCell (.pending [])).1.weight = store.weight :=
        weight_addCell store (.pending [])
      rw [added] at linked
      exact linked

theorem weight_withBarrier_le (store : Store) (cell : CellId) :
    (store.withBarrier cell).weight ≤ store.weight + 2 := by
  unfold withBarrier
  split
  · exact Nat.le_add_right _ _
  · exact weight_register_le store.addSlot.1 cell (.fill store.slots.length)

theorem weight_withChannel_le (store : Store) (cell : CellId) :
    (store.withChannel cell).weight ≤ store.weight + 2 := by
  unfold withChannel
  split
  · exact Nat.le_add_right _ _
  · exact weight_register_le store.addChannel.1 cell (.send store.channels.length)

end Store

theorem Scene.weight_bind_le (scene : Scene) (fresh : String) (cell : CellId) :
    (scene.bind fresh cell).store.weight ≤ scene.store.weight := by
  unfold bind
  cases scene.names.lookup fresh with
  | none => exact Nat.le_refl _
  | some earlier => exact Store.weight_release_le _ _

theorem Scene.weight_create_le (scene : Scene) (fresh : String) (state : CellState) :
    (scene.create fresh state).store.weight ≤ scene.store.weight + state.weight :=
  Nat.le_trans (weight_bind_le { scene with store := (scene.store.addCell state).1 } _ _)
    (Nat.le_of_eq (Store.weight_addCell _ _))

theorem Scene.weight_afterWait (scene : Scene) (patience : Option Nat) (result : Result) :
    (scene.afterWait patience result).store.weight = scene.store.weight := by
  unfold afterWait
  split <;> rfl

theorem Scene.length_cells {scene : Scene} {names : List String} {found : List CellId}
    (all : scene.cells names = .ok found) : found.length = names.length := by
  induction names generalizing found with
  | nil =>
      cases all
      rfl
  | cons name rest inductionHypothesis =>
      simp only [cells] at all
      split at all
      · cases all
      · cases others : scene.cells rest with
        | error missing =>
            rw [others] at all
            cases all
        | ok further =>
            rw [others] at all
            cases all
            simp only [List.length_cons, inductionHypothesis others]

/-! ## Performing -/

namespace Machine

/-- The weight of everything but the control. -/
def load (machine : Machine) : Nat :=
  machine.scene.store.weight + tally frameWeight machine.frames

theorem weight_eq_load (machine : Machine) :
    machine.weight = machine.load + controlWeight machine.control := by
  simp only [weight, load]
  omega

theorem weight_goOn_le {machine : Machine} {control : Control} {budget : Nat}
    (fits : controlWeight control ≤ budget) :
    (machine.goOn control).weight ≤ machine.load + budget := by
  rw [weight_eq_load]
  exact Nat.add_le_add_left fits _

theorem weight_above_le {machine : Machine} {frame : Frame} {control : Control} {budget : Nat}
    (fits : frameWeight frame + controlWeight control ≤ budget) :
    (machine.above frame control).weight ≤ machine.load + budget := by
  simp only [weight, above, load, tally_cons]
  omega

theorem weight_answerIn_le {machine : Machine} {scene : Scene} {result : Result} {budget : Nat}
    (fits : scene.store.weight + 1 ≤ machine.scene.store.weight + budget) :
    (machine.answerIn scene result).weight ≤ machine.load + budget := by
  simp only [weight, answerIn, load, controlWeight]
  omega

theorem weight_waitAt_le {machine : Machine} {scene : Scene} {slot : SlotId}
    {patience : Option Nat} (same : scene.store = machine.scene.store) :
    (machine.waitAt scene slot patience).weight ≤ machine.load + 8 := by
  apply weight_answerIn_le
  rw [Scene.weight_afterWait, same]
  omega

theorem weight_withCell_le {machine : Machine} {name : String} {next : CellId → Machine}
    {budget : Nat} (panics : 1 ≤ budget)
    (found : ∀ cell, (next cell).weight ≤ machine.load + budget) :
    (machine.withCell name next).weight ≤ machine.load + budget := by
  unfold withCell
  split
  · exact found _
  · exact weight_goOn_le panics

theorem weight_onCell_le {machine : Machine} {name : String} {next : CellId → Machine}
    (found : ∀ cell, (next cell).weight ≤ machine.load + 8) :
    (machine.withCell name next).weight ≤ machine.load + 8 :=
  weight_withCell_le (by decide) found

theorem weight_withBarrier_le {machine : Machine} {name : String} {next : SlotId → Machine}
    (found : ∀ slot, (next slot).weight ≤ machine.load + 8) :
    (machine.withBarrier name next).weight ≤ machine.load + 8 := by
  unfold withBarrier
  split
  · exact found _
  · exact weight_goOn_le (by decide)

theorem weight_create_le (machine : Machine) (fresh : String) {state : CellState}
    (bare : state.weight = 0) :
    (machine.answerIn (machine.scene.create fresh state) .nothing).weight ≤ machine.load + 8 := by
  apply weight_answerIn_le
  have created := machine.scene.weight_create_le fresh state
  omega

theorem weight_chain_le (machine : Machine) (fresh : String) (source : CellId) (mapping : Mapping)
    (policy : FailurePolicy) :
    (machine.chain fresh source mapping policy).weight ≤
      machine.load + (16 + mapping.weight) := by
  have added : ((machine.scene.store.addCell (.pending [])).1.hold
      machine.scene.store.cells.length).weight = machine.scene.store.weight := by
    rw [Store.weight_hold]
    exact Store.weight_addCell _ (.pending [])
  unfold chain
  dsimp only
  split
  · apply weight_answerIn_le
    refine Nat.le_trans (Nat.add_le_add_right (Scene.weight_bind_le _ _ _) 1) ?_
    have registered := Store.weight_register_le
      ((machine.scene.store.addCell (.pending [])).1.hold machine.scene.store.cells.length) source
      (.link machine.scene.store.cells.length mapping policy)
    simp only [Continuation.weight, added] at registered
    simp only [Store.addCell] at registered ⊢
    omega
  · have same := added
    simp only [Store.addCell] at same
    simp only [weight, load, Store.addCell, tally_cons, controlWeight,
      frameWeight, Continuation.weight, same]
    omega

/-- A new combined promise causes no more work than its links. -/
theorem weight_combine_le {machine : Machine} {inputs : List String} {cells : List CellId}
    {combined : Store × CellId} (found : machine.scene.cells inputs = .ok cells)
    (linked : combined.1.weight ≤ machine.scene.store.weight + 8 * cells.length) (fresh : String) :
    (machine.answerIn (Scene.bind { machine.scene with store := combined.1 } fresh combined.2)
      .nothing).weight ≤ machine.load + (8 + 8 * inputs.length) := by
  apply weight_answerIn_le
  refine Nat.le_trans (Nat.add_le_add_right (Scene.weight_bind_le _ _ _) 1) ?_
  rw [Scene.length_cells found] at linked
  dsimp only
  omega

/-- An action causes no more work than its weight says. -/
theorem weight_perform_le (machine : Machine) (action : Action) :
    (machine.perform action).weight ≤ machine.load + action.weight := by
  have shared : ∀ cell, (machine.scene.store.hold cell).weight = machine.scene.store.weight :=
    Store.weight_hold machine.scene.store
  have released := Store.weight_release_le machine.scene.store
  have opened : ∀ cell, (machine.scene.store.withChannel cell).weight + 1 ≤
      machine.scene.store.weight + 8 := by
    intro cell
    have added := Store.weight_withChannel_le machine.scene.store cell
    omega
  have taken : ∀ cell, ((machine.scene.store.withChannel cell).release cell).weight + 1 ≤
      machine.scene.store.weight + 8 :=
    fun cell => Nat.le_trans (Nat.add_le_add_right (Store.weight_release_le _ cell) 1) (opened cell)
  cases action with
  | create fresh => exact weight_create_le machine fresh rfl
  | resolved fresh value => exact weight_create_le machine fresh rfl
  | rejected fresh failure => exact weight_create_le machine fresh rfl
  | share fresh name =>
      refine weight_onCell_le fun cell => weight_answerIn_le ?_
      refine Nat.le_trans (Nat.add_le_add_right (Scene.weight_bind_le _ fresh cell) 1) ?_
      dsimp only
      rw [shared]
      omega
  | drop name =>
      refine weight_onCell_le fun cell => weight_answerIn_le ?_
      have less := released cell
      simp only [Scene.unbind]
      omega
  | resolve name value =>
      exact weight_onCell_le fun cell => weight_above_le (Nat.le_of_ble_eq_true rfl)
  | reject name failure =>
      exact weight_onCell_le fun cell => weight_above_le (Nat.le_of_ble_eq_true rfl)
  | settle name outcome =>
      exact weight_onCell_le fun cell => weight_goOn_le (Nat.le_of_ble_eq_true rfl)
  | onThread action =>
      apply weight_above_le
      simp only [frameWeight, controlWeight, Action.weight]
      omega
  | onComplete name label body =>
      simp only [Action.weight]
      refine weight_withCell_le (Nat.le_trans (by decide) (Nat.le_add_right 8 _)) fun cell => ?_
      dsimp only
      split
      · apply weight_goOn_le
        simp only [controlWeight, Continuation.weight]
        omega
      · apply weight_answerIn_le
        have registered := Store.weight_register_le machine.scene.store cell (.observe label body)
        simp only [Continuation.weight] at registered
        dsimp only
        omega
  | panic text => exact weight_goOn_le (by decide : 1 ≤ 8)
  | chain fresh source mapping policy =>
      simp only [Action.weight]
      exact weight_withCell_le (Nat.le_trans (by decide) (Nat.le_add_right 16 _))
        fun cell => weight_chain_le machine fresh cell mapping policy
  | whenAll fresh inputs =>
      simp only [perform, Action.weight]
      split
      · apply weight_goOn_le
        simp only [controlWeight]
        omega
      · next cells found =>
          exact weight_combine_le found (Store.weight_whenAll_le machine.scene.store cells) fresh
  | whenAny fresh inputs =>
      simp only [perform, Action.weight]
      split
      · apply weight_goOn_le
        simp only [controlWeight]
        omega
      · next cells found =>
          exact weight_combine_le found (Store.weight_whenAny_le machine.scene.store cells) fresh
  | peek name =>
      exact weight_onCell_le fun cell => weight_goOn_le (Nat.le_of_ble_eq_true rfl)
  | isSettled name =>
      exact weight_onCell_le fun cell => weight_goOn_le (Nat.le_of_ble_eq_true rfl)
  | describe name =>
      exact weight_onCell_le fun cell => weight_goOn_le (Nat.le_of_ble_eq_true rfl)
  | barrier fresh name =>
      refine weight_onCell_le fun cell => weight_answerIn_le ?_
      have attached : _ ≤ _ := Store.weight_withBarrier_le machine.scene.store cell
      refine Nat.le_trans (Nat.add_le_add_right attached 1) ?_
      omega
  | wait barrier => exact weight_withBarrier_le fun slot => weight_waitAt_le rfl
  | waitFor barrier patience => exact weight_withBarrier_le fun slot => weight_waitAt_le rfl
  | spawnWait fresh barrier patience =>
      exact weight_withBarrier_le fun slot => weight_answerIn_le (Nat.add_le_add_left (by decide) _)
  | join thread =>
      simp only [perform]
      split
      · exact weight_goOn_le (by decide : 1 ≤ 8)
      · split
        · exact weight_answerIn_le (Nat.add_le_add_left (by decide : 1 ≤ 8) _)
        · exact weight_waitAt_le rfl
  | await name patience =>
      refine weight_onCell_le fun cell => weight_answerIn_le ?_
      rw [Scene.weight_afterWait]
      exact opened cell
  | awaitTake name patience =>
      refine weight_onCell_le fun cell => weight_answerIn_le ?_
      rw [Scene.weight_afterWait]
      exact taken cell
  | future fresh name => exact weight_onCell_le fun cell => weight_answerIn_le (opened cell)
  | futureTake fresh name => exact weight_onCell_le fun cell => weight_answerIn_le (taken cell)
  | poll future =>
      simp only [perform]
      split
      · exact weight_goOn_le (by decide : 1 ≤ 8)
      · split
        · exact weight_goOn_le (by decide : 1 ≤ 8)
        · exact weight_answerIn_le (Nat.add_le_add_left (by decide : 1 ≤ 8) _)
        · exact weight_answerIn_le (Nat.add_le_add_left (by decide : 1 ≤ 8) _)

/-! ## Running and settling -/

theorem weight_runLink_lt (machine : Machine) (target : CellId) (mapping : Mapping)
    (policy : FailurePolicy) (outcome : Outcome Value) :
    (machine.runLink target mapping policy outcome).weight <
      machine.load + (12 + mapping.weight) := by
  have little : ∀ {next : Machine}, next.weight ≤ machine.load + 4 →
      next.weight < machine.load + (12 + mapping.weight) := by
    intro next light
    omega
  cases outcome with
  | error failure =>
      cases policy with
      | propagate => exact little (weight_above_le (Nat.le_of_ble_eq_true rfl))
      | ignore =>
          have light : (machine.above (.letGo target) (.answer .nothing)).weight ≤
              machine.load + 4 := weight_above_le (Nat.le_of_ble_eq_true rfl)
          exact little light
  | ok value =>
      cases mapping with
      | perform body =>
          simp only [runLink, Mapping.apply?, weight, load, controlWeight, tally_cons, frameWeight,
            Mapping.weight]
          omega
      | add amount => exact little (weight_above_le (Nat.le_of_ble_eq_true rfl))
      | const constant => exact little (weight_above_le (Nat.le_of_ble_eq_true rfl))
      | wrap => exact little (weight_above_le (Nat.le_of_ble_eq_true rfl))
      | identity => exact little (weight_above_le (Nat.le_of_ble_eq_true rfl))
      | panic text => exact little (weight_above_le (Nat.le_of_ble_eq_true rfl))

theorem weight_run_lt (machine : Machine) (continuation : Continuation)
    (outcome : Outcome Value) :
    (machine.run continuation outcome).weight < machine.load + continuation.weight := by
  cases continuation with
  | observe label body =>
      simp only [run, weight, load, Scene.report, controlWeight, tally_cons,
        frameWeight, Continuation.weight]
      omega
  | link target mapping policy => exact weight_runLink_lt machine target mapping policy outcome
  | gather target board place =>
      have kept := Store.weight_of_cells_eq
        (Store.gatherOutcome_keeps machine.scene.store board place outcome).1
      simp only [run, Continuation.weight]
      split
      · simp only [above, weight, load, controlWeight, tally_cons, frameWeight,
          kept]
        omega
      · simp only [above, weight, load, controlWeight, tally_cons, frameWeight,
          kept]
        omega
  | race target place =>
      exact Nat.lt_of_le_of_lt (weight_above_le (Nat.le_refl 4))
        (Nat.add_lt_add_left (by decide : 4 < 8) _)
  | fill slot =>
      exact Nat.lt_of_le_of_lt (weight_answerIn_le (Nat.le_refl _))
        (Nat.add_lt_add_left (by decide : 1 < 2) _)
  | send channel =>
      exact Nat.lt_of_le_of_lt (weight_answerIn_le (Nat.le_refl _))
        (Nat.add_lt_add_left (by decide : 1 < 2) _)

theorem weight_settle_lt (machine : Machine) (cell : CellId) (outcome : Outcome Value) :
    (machine.settle cell outcome).weight < machine.load + 3 := by
  unfold settle
  split
  · exact Nat.lt_of_le_of_lt (weight_goOn_le (Nat.le_refl 1))
      (Nat.add_lt_add_left (by decide) _)
  · next store continuations settles =>
      have taken := Store.weight_settle? settles
      simp only [weight, load, controlWeight, tally_cons, frameWeight]
      omega

theorem weight_drainOn_lt (machine : Machine) (outcome : Outcome Value)
    (rest : List Continuation) (panic : Option String) :
    (machine.drainOn outcome rest panic).weight <
      machine.load + (frameWeight (.drain outcome rest panic) + 1) := by
  cases rest with
  | nil =>
      have light : (machine.drainOn outcome [] panic).weight ≤ machine.load + 1 := by
        cases panic <;> exact weight_goOn_le (Nat.le_of_ble_eq_true rfl)
      exact Nat.lt_of_le_of_lt light (Nat.add_lt_add_left (Nat.le_of_ble_eq_true rfl) _)
  | cons continuation rest =>
      simp only [drainOn, above, weight, load, controlWeight, frameWeight, tally_cons]
      omega

/-! ## Taking frames off -/

theorem weight_resume_lt (machine : Machine) (frame : Frame) (result : Result) :
    (machine.resume frame result).weight < machine.load + (frameWeight frame + 1) := by
  have light : ∀ {next : Machine}, next.weight ≤ machine.load + 1 → frameWeight frame = 1 →
      next.weight < machine.load + (frameWeight frame + 1) := by
    intro next little same
    omega
  cases frame with
  | body label actions =>
      have kept : ∀ scene : Scene, scene.store = machine.scene.store →
          ({ machine with scene := scene } : Machine).load = machine.load := by
        intro scene same
        simp only [load, same]
      simp only [resume]
      split
      · next action rest =>
          refine Nat.lt_of_le_of_lt (weight_above_le (Nat.le_refl _)) ?_
          rw [kept]
          · simp only [frameWeight, controlWeight, Action.weights]
            omega
          · split <;> rfl
      · refine Nat.lt_of_le_of_lt (weight_goOn_le (Nat.le_refl _)) ?_
        rw [kept]
        · simp only [frameWeight, controlWeight]
          omega
        · split <;> rfl
  | drain outcome rest panic => exact weight_drainOn_lt machine outcome rest panic
  | complain verb =>
      simp only [resume]
      split
      · have complains : (machine.goOn (.panic (complaint verb))).weight ≤ machine.load + 1 :=
          weight_goOn_le (Nat.le_of_ble_eq_true rfl)
        exact light complains rfl
      · exact light (weight_goOn_le (Nat.le_of_ble_eq_true rfl)) rfl
  | hand target value =>
      exact Nat.lt_of_le_of_lt (weight_goOn_le (Nat.le_refl 3))
        (Nat.add_lt_add_left (by decide : 3 < 4 + 1) _)
  | letGo cell =>
      refine light (weight_answerIn_le ?_) rfl
      exact Nat.add_le_add_right (Store.weight_release_le _ cell) 1
  | name fresh cell =>
      refine light (weight_answerIn_le ?_) rfl
      exact Nat.add_le_add_right (Scene.weight_bind_le _ fresh cell) 1
  | thread => exact light (weight_goOn_le (Nat.le_of_ble_eq_true rfl)) rfl

theorem weight_unwind_lt (machine : Machine) (frame : Frame) (text : String) :
    (machine.unwind frame text).weight < machine.load + (frameWeight frame + 1) := by
  have light : ∀ {next : Machine}, next.weight ≤ machine.load + 1 → 1 ≤ frameWeight frame →
      next.weight < machine.load + (frameWeight frame + 1) := by
    intro next little some
    omega
  have releasing : ∀ cell, ({ machine with
      scene := { machine.scene with store := machine.scene.store.release cell }
      control := .panic text } : Machine).weight ≤ machine.load + 1 := by
    intro cell
    have less := Store.weight_release_le machine.scene.store cell
    simp only [weight, load, controlWeight]
    omega
  cases frame with
  | drain outcome rest panic => exact weight_drainOn_lt _ outcome rest _
  | letGo cell => exact light (releasing cell) (Nat.le_refl 1)
  | name fresh cell => exact light (releasing cell) (Nat.le_refl 1)
  | thread => exact light (weight_goOn_le (Nat.le_of_ble_eq_true rfl)) (Nat.le_refl 1)
  | body label actions =>
      exact light (weight_goOn_le (Nat.le_of_ble_eq_true rfl)) (Nat.le_add_right 1 _)
  | complain verb => exact light (weight_goOn_le (Nat.le_of_ble_eq_true rfl)) (Nat.le_refl 1)
  | hand target value =>
      exact light (weight_goOn_le (Nat.le_of_ble_eq_true rfl)) (Nat.le_of_ble_eq_true rfl)

/-! ## All steps -/

/-- Every step takes some of the weight away. -/
theorem weight_step_lt {machine next : Machine} (steps : machine.step? = some next) :
    next.weight < machine.weight := by
  rcases machine with ⟨scene, control, frames⟩
  rw [weight_eq_load ⟨scene, control, frames⟩]
  cases control with
  | perform action =>
      cases steps
      exact Nat.lt_succ_of_le (weight_perform_le ⟨scene, .perform action, frames⟩ action)
  | settle cell outcome =>
      cases steps
      exact weight_settle_lt _ cell outcome
  | run continuation outcome =>
      cases steps
      exact weight_run_lt _ continuation outcome
  | answer result =>
      cases frames with
      | nil => cases steps
      | cons frame frames =>
          cases steps
          have less := weight_resume_lt ⟨scene, .answer result, frames⟩ frame result
          simp only [load, tally_cons, controlWeight] at less ⊢
          omega
  | panic text =>
      cases frames with
      | nil => cases steps
      | cons frame frames =>
          cases steps
          have less := weight_unwind_lt ⟨scene, .panic text, frames⟩ frame text
          simp only [load, tally_cons, controlWeight] at less ⊢
          omega

theorem runFor_rests (fuel : Nat) (machine : Machine) (enough : machine.weight ≤ fuel) :
    (runFor fuel machine).step? = none := by
  induction fuel generalizing machine with
  | zero =>
      cases steps : machine.step? with
      | none => exact steps
      | some next =>
          have less := weight_step_lt steps
          omega
  | succ fuel inductionHypothesis =>
      unfold runFor
      cases steps : machine.step? with
      | none =>
          simp only [steps]
      | some next =>
          have less := weight_step_lt steps
          exact inductionHypothesis next (by omega)

/-- A machine that takes all its steps comes to rest. -/
theorem finish_rests (machine : Machine) : machine.finish.step? = none :=
  runFor_rests _ machine (Nat.le_refl _)

end Machine
end Promise
end PromiseHttp
