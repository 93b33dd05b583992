import PromiseHttp.Promise.Machine
import PromiseHttp.Proofs.Promise.Growth

namespace PromiseHttp
namespace Promise

/-!
# What an action registers

The continuations that an action registers, each with its cell, can be read off the action and the
scene before it.  New cells, boards, slots and channels get the next free number, so the numbers that
the continuations carry are known beforehand.  For each way to register, the cells then grow by
exactly these continuations.
-/

/-- The continuations that link the inputs of a combined promise, from a place on. -/
def enlisted (link : Nat → Continuation) : Nat → List CellId → List (CellId × Continuation)
  | _, [] => []
  | place, input :: rest => (input, link place) :: enlisted link (place + 1) rest

/-- What is registered on the cell of a name, if there is one. -/
def Scene.onCell (scene : Scene) (name : String) (continuation : Continuation) :
    List (CellId × Continuation) :=
  match scene.names.lookup name with
  | some cell => [(cell, continuation)]
  | none => []

/-- What is registered on the cells of several names, if all of them have one. -/
def Scene.onCells (scene : Scene) (names : List String) (link : Nat → Continuation) :
    List (CellId × Continuation) :=
  match scene.cells names with
  | .ok inputs => enlisted link 0 inputs
  | .error _ => []

/-- The continuations that an action registers. -/
def Action.registrations (scene : Scene) : Action → List (CellId × Continuation)
  | .onComplete name label body => scene.onCell name (.observe label body)
  | .chain _ source mapping policy =>
    scene.onCell source (.link scene.store.cells.length mapping policy)
  | .whenAll _ inputs =>
    scene.onCells inputs (.gather scene.store.cells.length scene.store.boards.length ·)
  | .whenAny _ inputs => scene.onCells inputs (.race scene.store.cells.length ·)
  | .barrier _ name => scene.onCell name (.fill scene.store.slots.length)
  | .await name _ => scene.onCell name (.send scene.store.channels.length)
  | .awaitTake name _ => scene.onCell name (.send scene.store.channels.length)
  | .future _ name => scene.onCell name (.send scene.store.channels.length)
  | .futureTake _ name => scene.onCell name (.send scene.store.channels.length)
  | _ => []

namespace Store

/-! ## New cells and single registrations -/

/-- A new cell has no continuations yet. -/
theorem grows_addCell (store : Store) {state : CellState}
    (bare : ∀ continuations, state = .pending continuations → continuations = []) :
    Grows [] store (store.addCell state).1 := by
  apply Grows.ofStates
  · rw [length_addCell]
    exact Nat.le_succ _
  · intro cell there
    rw [state_addCell_old store state there, joining_nil, CellState.joinedBy_nil]
  · intro cell continuations beyond found
    by_cases new : cell = store.cells.length
    · rw [new, state_addCell_new] at found
      exact bare continuations found
    · rw [state_addCell_of_ne store state new,
        state_of_none (List.getElem?_eq_none beyond)] at found
      cases found
  · rfl
  · rfl
  · intro cell continuation member
    cases member

/-- A cell with one more continuation, if it is pending. -/
theorem state_register_joinedBy (store : Store) (cell other : CellId)
    (continuation : Continuation) :
    (store.register cell continuation).state other =
      CellState.joinedBy (joining other [(cell, continuation)]) (store.state other) := by
  by_cases same : cell = other
  · subst same
    rw [state_register, joining_cons_self, CellState.joinedBy_cons, joining_nil,
      CellState.joinedBy_nil]
  · rw [state_register_of_ne store (Ne.symm same), joining_cons_of_ne same, joining_nil,
      CellState.joinedBy_nil]

@[simp]
theorem slots_register (store : Store) (cell : CellId) (continuation : Continuation) :
    (store.register cell continuation).slots = store.slots := by
  unfold register
  split <;> rfl

@[simp]
theorem channels_register (store : Store) (cell : CellId) (continuation : Continuation) :
    (store.register cell continuation).channels = store.channels := by
  unfold register
  split <;> rfl

/-- A cell that is not there does not become pending by a registration. -/
theorem not_pending_register (store : Store) (cell : CellId) (continuation : Continuation)
    {other : CellId} (beyond : store.cells.length ≤ other) (continuations : List Continuation) :
    (store.register cell continuation).state other ≠ .pending continuations := by
  intro found
  have there : other < (store.register cell continuation).cells.length :=
    there_of_pending found
  rw [length_register] at there
  exact absurd there (Nat.not_lt_of_le beyond)

theorem grows_register (store : Store) (cell : CellId) {continuation : Continuation}
    (unheard : continuation.listens = false) :
    Grows [(cell, continuation)] store (store.register cell continuation) := by
  apply Grows.ofStates
  · exact Nat.le_of_eq (length_register store cell continuation).symm
  · intro other _
    exact state_register_joinedBy store cell other continuation
  · intro other continuations beyond found
    exact absurd found (not_pending_register store cell continuation beyond continuations)
  · exact slots_register store cell continuation
  · exact channels_register store cell continuation
  · intro other added member
    cases List.mem_singleton.mp member
    exact unheard

/-- A cell that has settled is joined by nothing. -/
theorem joinedBy_of_settled {store : Store} {cell other : CellId} {outcome : Outcome Value}
    (settled : store.state cell = .settled outcome) (continuation : Continuation) :
    store.state other = CellState.joinedBy (joining other [(cell, continuation)])
      (store.state other) := by
  by_cases same : cell = other
  · subst same
    rw [settled]
    rfl
  · rw [joining_cons_of_ne same, joining_nil, CellState.joinedBy_nil]

/-- A registration on a cell that has settled leaves the cells as they are. -/
theorem grows_late (store : Store) {cell : CellId} {outcome : Outcome Value}
    (settled : store.state cell = .settled outcome) {continuation : Continuation}
    (unheard : continuation.listens = false) : Grows [(cell, continuation)] store store := by
  apply Grows.ofStates
  · exact Nat.le_refl _
  · intro other _
    exact joinedBy_of_settled settled continuation
  · intro other continuations beyond found
    rw [state_of_none (List.getElem?_eq_none beyond)] at found
    cases found
  · rfl
  · rfl
  · intro other added member
    cases List.mem_singleton.mp member
    exact unheard

/-- Whatever grows from a new cell grows from the cells before it. -/
theorem Grows.afterNewCell {store after : Store} {added : List (CellId × Continuation)}
    (cells : after.cells.length = store.cells.length + 1)
    (old : ∀ {cell}, cell < store.cells.length →
      after.state cell = CellState.joinedBy (joining cell added) (store.state cell))
    (target : ∀ {continuations}, after.state store.cells.length = .pending continuations →
      continuations = [])
    (slots : after.slots = store.slots) (channels : after.channels = store.channels)
    (unheard : ∀ {cell continuation}, (cell, continuation) ∈ added →
      continuation.listens = false) : Grows added store after := by
  apply Grows.ofStates
  · rw [cells]
    exact Nat.le_succ _
  · exact old
  · intro cell continuations beyond found
    have there : cell < after.cells.length := there_of_pending found
    rw [cells] at there
    have same : cell = store.cells.length := Nat.le_antisymm (Nat.le_of_lt_succ there) beyond
    rw [same] at found
    exact target found
  · exact slots
  · exact channels
  · exact unheard

/-- A chained promise is a new cell with a link among the continuations of its source. -/
theorem grows_chain (store : Store) {source : CellId} (there : source < store.cells.length)
    (mapping : Mapping) (policy : FailurePolicy) :
    Grows [(source, .link store.cells.length mapping policy)] store
      ((((store.addCell (.pending [])).1.hold store.cells.length).register source
        (.link store.cells.length mapping policy))) := by
  apply Grows.afterNewCell
  · rw [length_register, length_hold, length_addCell]
  · intro cell old
    rw [state_register_joinedBy, state_hold, state_addCell_old store _ old]
  · intro continuations found
    rw [state_register_of_ne _ (Nat.ne_of_gt there), state_hold, state_addCell_new] at found
    cases found
    rfl
  · rw [slots_register]
    rfl
  · rw [channels_register]
    rfl
  · intro cell continuation member
    cases List.mem_singleton.mp member
    rfl

/-- The same when the source has settled and the link runs at once. -/
theorem grows_chain_late (store : Store) {source : CellId} {outcome : Outcome Value}
    (settled : store.state source = .settled outcome) (mapping : Mapping) (policy : FailurePolicy) :
    Grows [(source, .link store.cells.length mapping policy)] store
      ((store.addCell (.pending [])).1.hold store.cells.length) := by
  apply Grows.afterNewCell
  · rw [length_hold, length_addCell]
  · intro cell old
    rw [state_hold, state_addCell_old store _ old]
    exact joinedBy_of_settled settled _
  · intro continuations found
    rw [state_hold, state_addCell_new] at found
    cases found
    rfl
  · rfl
  · rfl
  · intro cell continuation member
    cases List.mem_singleton.mp member
    rfl

/-! ## Listeners -/

/-- A new listener on a cell.  If the cell has settled the listener is told at once, otherwise its
continuation is registered. -/
theorem Grows.listen {store after : Store} (between : Store) {cell : CellId}
    {continuation : Continuation} (opened : between.cells = store.cells)
    (settledOrNot : after = between.register cell continuation ∨
      (∃ outcome, store.state cell = .settled outcome) ∧ after.cells = store.cells)
    (offers : ∀ {other}, store.Offers other → after.Offers other)
    (heard : ∀ {other}, store.Offers other → after.heard? other = store.heard? other)
    (new : ¬store.Offers continuation) (there : after.Offers continuation)
    (told : after.heard? continuation = store.outcome? cell) :
    Grows [(cell, continuation)] store after := by
  have cells : after.cells.length = store.cells.length := by
    rcases settledOrNot with rfl | ⟨_, kept⟩
    · rw [length_register, opened]
    · rw [kept]
  refine ⟨⟨Nat.le_of_eq cells.symm, ?_, ?_⟩, offers, heard, ?_⟩
  · intro other _
    left
    rcases settledOrNot with rfl | ⟨⟨outcome, settled⟩, kept⟩
    · rw [state_register_joinedBy, state_of_cells_eq opened]
    · rw [state_of_cells_eq kept]
      exact joinedBy_of_settled settled continuation
  · intro other continuations beyond found
    have existing : other < after.cells.length := there_of_pending found
    rw [cells] at existing
    exact absurd existing (Nat.not_lt_of_le beyond)
  · intro other added member _
    cases List.mem_singleton.mp member
    refine ⟨new, there, told, ?_⟩
    intro another member'
    cases List.mem_singleton.mp member'
    rfl

/-! ### Slots -/

theorem slot?_fillSlot (store : Store) {slot : SlotId} (there : slot < store.slots.length)
    (outcome : Outcome Value) : (store.fillSlot slot outcome).slot? slot = some outcome := by
  simp only [slot?, fillSlot, List.getElem?_set_self there]
  rfl

theorem offers_fillSlot (store : Store) (slot : SlotId) (outcome : Outcome Value)
    (continuation : Continuation) :
    (store.fillSlot slot outcome).Offers continuation ↔ store.Offers continuation := by
  cases continuation <;> simp only [Offers, fillSlot, List.length_set]

theorem heard?_fillSlot_of_ne (store : Store) {slot : SlotId} {continuation : Continuation}
    (different : continuation ≠ .fill slot) (outcome : Outcome Value) :
    (store.fillSlot slot outcome).heard? continuation = store.heard? continuation := by
  cases continuation with
  | fill other =>
      have apart : slot ≠ other := fun same => different (congrArg Continuation.fill same.symm)
      simp only [heard?, slot?, fillSlot, List.getElem?_set_ne apart]
  | _ => rfl

theorem length_addSlot (store : Store) :
    store.addSlot.1.slots.length = store.slots.length + 1 := by
  simp only [addSlot, List.length_append, List.length_singleton]

theorem offers_addSlot {store : Store} {continuation : Continuation}
    (there : store.Offers continuation) : store.addSlot.1.Offers continuation := by
  cases continuation with
  | fill slot => exact Nat.lt_of_lt_of_eq (Nat.lt_succ_of_lt there) (length_addSlot store).symm
  | _ => exact there

theorem heard?_addSlot {store : Store} {continuation : Continuation}
    (there : store.Offers continuation) :
    store.addSlot.1.heard? continuation = store.heard? continuation := by
  cases continuation with
  | fill slot =>
      have below : slot < store.slots.length := there
      simp only [heard?, slot?, addSlot, List.getElem?_append_left below]
  | _ => rfl

/-- The cells with a new barrier on one of them. -/
def withBarrier (store : Store) (cell : CellId) : Store :=
  match store.addSlot.1.outcome? cell with
  | some outcome => store.addSlot.1.fillSlot store.slots.length outcome
  | none => store.addSlot.1.register cell (.fill store.slots.length)

theorem grows_withBarrier (store : Store) (cell : CellId) :
    Grows [(cell, .fill store.slots.length)] store (store.withBarrier cell) := by
  have longer : store.slots.length < store.addSlot.1.slots.length := by
    rw [length_addSlot]
    exact Nat.lt_succ_self _
  have same : store.addSlot.1.outcome? cell = store.outcome? cell := rfl
  unfold withBarrier
  rw [same]
  cases found : store.outcome? cell with
  | none =>
      have slots := slots_register store.addSlot.1 cell (.fill store.slots.length)
      have channels := channels_register store.addSlot.1 cell (.fill store.slots.length)
      refine Grows.listen store.addSlot.1 rfl (Or.inl rfl) ?_ ?_ (Nat.lt_irrefl _) ?_ ?_
      · intro other there
        exact (offers_of_eq slots channels other).mpr (offers_addSlot there)
      · intro other there
        exact (heard?_of_eq slots channels other).trans (heard?_addSlot there)
      · exact (offers_of_eq slots channels _).mpr longer
      · rw [heard?_of_eq slots channels, found]
        simp only [heard?, slot?, addSlot, List.getElem?_concat_length]
        rfl
  | some outcome =>
      have settled := outcome?_eq_some.mp found
      refine Grows.listen store.addSlot.1 rfl (Or.inr ⟨⟨outcome, settled⟩, rfl⟩) ?_ ?_
        (Nat.lt_irrefl _) ?_ ?_
      · intro other there
        exact (offers_fillSlot _ _ outcome other).mpr (offers_addSlot there)
      · intro other there
        have apart : other ≠ .fill store.slots.length := by
          rintro rfl
          exact Nat.lt_irrefl _ there
        exact (heard?_fillSlot_of_ne _ apart outcome).trans (heard?_addSlot there)
      · exact (offers_fillSlot _ _ outcome _).mpr longer
      · rw [found]
        exact slot?_fillSlot _ longer outcome

/-! ### Channels -/

theorem channel_deliver (store : Store) {channel : ChannelId}
    (there : channel < store.channels.length) (outcome : Outcome Value) :
    (store.deliver channel outcome).channel channel = .delivered outcome := by
  simp only [Store.channel, deliver, List.getElem?_set_self there, Option.getD_some]

theorem offers_deliver (store : Store) (channel : ChannelId) (outcome : Outcome Value)
    (continuation : Continuation) :
    (store.deliver channel outcome).Offers continuation ↔ store.Offers continuation := by
  cases continuation <;> simp only [Offers, deliver, List.length_set]

theorem heard?_deliver_of_ne (store : Store) {channel : ChannelId} {continuation : Continuation}
    (different : continuation ≠ .send channel) (outcome : Outcome Value) :
    (store.deliver channel outcome).heard? continuation = store.heard? continuation := by
  cases continuation with
  | send other =>
      have apart : channel ≠ other := fun same => different (congrArg Continuation.send same.symm)
      simp only [heard?, Store.channel, deliver, List.getElem?_set_ne apart]
  | _ => rfl

theorem length_addChannel (store : Store) :
    store.addChannel.1.channels.length = store.channels.length + 1 := by
  simp only [addChannel, List.length_append, List.length_singleton]

theorem offers_addChannel {store : Store} {continuation : Continuation}
    (there : store.Offers continuation) : store.addChannel.1.Offers continuation := by
  cases continuation with
  | send channel =>
      exact Nat.lt_of_lt_of_eq (Nat.lt_succ_of_lt there) (length_addChannel store).symm
  | _ => exact there

theorem heard?_addChannel {store : Store} {continuation : Continuation}
    (there : store.Offers continuation) :
    store.addChannel.1.heard? continuation = store.heard? continuation := by
  cases continuation with
  | send channel =>
      have below : channel < store.channels.length := there
      simp only [heard?, Store.channel, addChannel, List.getElem?_append_left below]
  | _ => rfl

/-- The cells with a new channel on one of them. -/
def withChannel (store : Store) (cell : CellId) : Store :=
  match store.addChannel.1.outcome? cell with
  | some outcome => store.addChannel.1.deliver store.channels.length outcome
  | none => store.addChannel.1.register cell (.send store.channels.length)

theorem grows_withChannel (store : Store) (cell : CellId) :
    Grows [(cell, .send store.channels.length)] store (store.withChannel cell) := by
  have longer : store.channels.length < store.addChannel.1.channels.length := by
    rw [length_addChannel]
    exact Nat.lt_succ_self _
  have same : store.addChannel.1.outcome? cell = store.outcome? cell := rfl
  unfold withChannel
  rw [same]
  cases found : store.outcome? cell with
  | none =>
      have slots := slots_register store.addChannel.1 cell (.send store.channels.length)
      have channels := channels_register store.addChannel.1 cell (.send store.channels.length)
      refine Grows.listen store.addChannel.1 rfl (Or.inl rfl) ?_ ?_ (Nat.lt_irrefl _) ?_ ?_
      · intro other there
        exact (offers_of_eq slots channels other).mpr (offers_addChannel there)
      · intro other there
        exact (heard?_of_eq slots channels other).trans (heard?_addChannel there)
      · exact (offers_of_eq slots channels _).mpr longer
      · rw [heard?_of_eq slots channels, found]
        simp only [heard?, Store.channel, addChannel, List.getElem?_concat_length, Option.getD_some]
  | some outcome =>
      have settled := outcome?_eq_some.mp found
      refine Grows.listen store.addChannel.1 rfl (Or.inr ⟨⟨outcome, settled⟩, rfl⟩) ?_ ?_
        (Nat.lt_irrefl _) ?_ ?_
      · intro other there
        exact (offers_deliver _ _ outcome other).mpr (offers_addChannel there)
      · intro other there
        have apart : other ≠ .send store.channels.length := by
          rintro rfl
          exact Nat.lt_irrefl _ there
        exact (heard?_deliver_of_ne _ apart outcome).trans (heard?_addChannel there)
      · exact (offers_deliver _ _ outcome _).mpr longer
      · rw [found, heard?_send_eq_some]
        exact channel_deliver _ longer outcome

end Store
end Promise
end PromiseHttp
