import PromiseHttp.Promise.Store

namespace PromiseHttp
namespace Promise
namespace Store

/-!
# What the operations do to the cells

A cell is known by its state.  Of all operations on the cells only three change the state of a cell
that is there: a registration extends the continuations of a pending cell, a settlement ends its
wait, and letting go of it may abandon it.  The lemmas here say for each operation what it does to
the states, the slots and the channels, so that nothing else has to look into the lists behind them.

Letting go may reach many cells at once.  What it does is summed up in one relation, which has no
word on which cells are reached.
-/

/-! ## States -/

theorem state_of_cells {store : Store} {cell : CellId} {found : Cell}
    (there : store.cells[cell]? = some found) : store.state cell = found.state := by
  simp only [state, there]

theorem state_of_none {store : Store} {cell : CellId} (missing : store.cells[cell]? = none) :
    store.state cell = .abandoned := by
  simp only [state, missing]

/-- A cell that is pending or settled is there. -/
theorem there_of_state {store : Store} {cell : CellId} (alive : store.state cell ≠ .abandoned) :
    cell < store.cells.length := by
  apply Classical.byContradiction
  intro missing
  exact alive (state_of_none (List.getElem?_eq_none (Nat.le_of_not_lt missing)))

theorem there_of_pending {store : Store} {cell : CellId} {continuations : List Continuation}
    (found : store.state cell = .pending continuations) : cell < store.cells.length :=
  there_of_state (by simp [found])

theorem there_of_settled {store : Store} {cell : CellId} {outcome : Outcome Value}
    (found : store.state cell = .settled outcome) : cell < store.cells.length :=
  there_of_state (by simp [found])

theorem state_of_cells_eq {first second : Store} (same : first.cells = second.cells) (cell : CellId) :
    first.state cell = second.state cell := by
  simp only [state, same]

@[simp]
theorem length_modifyCell (store : Store) (cell : CellId) (change : Cell → Cell) :
    (store.modifyCell cell change).cells.length = store.cells.length := by
  simp only [modifyCell, List.length_modify]

theorem state_modifyCell_of_ne (store : Store) {cell other : CellId} (different : other ≠ cell)
    (change : Cell → Cell) : (store.modifyCell cell change).state other = store.state other := by
  simp only [state, modifyCell, List.getElem?_modify, if_neg (Ne.symm different)]
  cases store.cells[other]? <;> rfl

/-- A change that leaves the state of a cell as it is leaves all states as they are. -/
theorem state_modifyCell_keep (store : Store) (cell other : CellId) {change : Cell → Cell}
    (keeps : ∀ found, (change found).state = found.state) :
    (store.modifyCell cell change).state other = store.state other := by
  simp only [state, modifyCell, List.getElem?_modify]
  cases store.cells[other]? with
  | none => rfl
  | some found =>
      by_cases same : cell = other
      · simp only [if_pos same, Option.map_eq_map, Option.map_some, keeps]
      · simp only [if_neg same, Option.map_eq_map, Option.map_some]

@[simp]
theorem state_hold (store : Store) (cell other : CellId) :
    (store.hold cell).state other = store.state other :=
  state_modifyCell_keep store cell other fun _ => rfl

@[simp]
theorem length_hold (store : Store) (cell : CellId) :
    (store.hold cell).cells.length = store.cells.length :=
  length_modifyCell store cell _

@[simp]
theorem length_setState (store : Store) (cell : CellId) (state : CellState) :
    (store.setState cell state).cells.length = store.cells.length :=
  length_modifyCell store cell _

theorem state_setState_of_ne (store : Store) {cell other : CellId} (different : other ≠ cell)
    (state : CellState) : (store.setState cell state).state other = store.state other :=
  state_modifyCell_of_ne store different _

theorem state_setState (store : Store) {cell : CellId} (there : cell < store.cells.length)
    (state : CellState) : (store.setState cell state).state cell = state := by
  simp only [setState, Store.state, modifyCell, List.getElem?_modify, List.getElem?_eq_getElem there,
    if_true, Option.map_eq_map, Option.map_some]

theorem state_addCell_new (store : Store) (state : CellState) :
    (store.addCell state).1.state store.cells.length = state := by
  simp only [addCell, Store.state, List.getElem?_concat_length]

theorem state_addCell_old (store : Store) (state : CellState) {cell : CellId}
    (there : cell < store.cells.length) : (store.addCell state).1.state cell = store.state cell := by
  simp only [addCell, Store.state, List.getElem?_append_left there]

theorem state_addCell_of_ne (store : Store) (state : CellState) {cell : CellId}
    (different : cell ≠ store.cells.length) :
    (store.addCell state).1.state cell = store.state cell := by
  by_cases there : cell < store.cells.length
  · exact state_addCell_old store state there
  · have beyond : store.cells.length < cell :=
      Nat.lt_of_le_of_ne (Nat.le_of_not_lt there) (Ne.symm different)
    have missing : store.cells[cell]? = none := List.getElem?_eq_none (Nat.le_of_lt beyond)
    have missing' : (store.addCell state).1.cells[cell]? = none := by
      apply List.getElem?_eq_none
      simp only [addCell, List.length_append, List.length_singleton]
      exact beyond
    rw [state_of_none missing, state_of_none missing']

@[simp]
theorem length_addCell (store : Store) (state : CellState) :
    (store.addCell state).1.cells.length = store.cells.length + 1 := by
  simp only [addCell, List.length_append, List.length_singleton]

/-! ## Counting over all cells -/

/-- What is counted of the states of all cells, added up. -/
def across (store : Store) (count : CellState → Nat) : Nat :=
  tally (fun cell => count cell.state) store.cells

theorem across_of_cells_eq {first second : Store} (same : first.cells = second.cells)
    (count : CellState → Nat) : first.across count = second.across count := by
  simp only [across, same]

theorem modifyCell_of_none {store : Store} {cell : CellId} (missing : store.cells[cell]? = none)
    (change : Cell → Cell) : store.modifyCell cell change = store := by
  have beyond : store.cells.length ≤ cell := List.getElem?_eq_none_iff.mp missing
  simp only [modifyCell, List.modify_eq_self beyond]

theorem across_modifyCell {store : Store} {cell : CellId} {found : Cell}
    (there : store.cells[cell]? = some found) (change : Cell → Cell) (count : CellState → Nat) :
    (store.modifyCell cell change).across count + count found.state =
      store.across count + count (change found).state :=
  tally_modify there (fun cell => count cell.state) change

/-- A change that leaves the state of a cell as it is leaves all counts as they are. -/
theorem across_modifyCell_keep (store : Store) (cell : CellId) (count : CellState → Nat)
    {change : Cell → Cell} (keeps : ∀ found, (change found).state = found.state) :
    (store.modifyCell cell change).across count = store.across count := by
  cases there : store.cells[cell]? with
  | none => rw [modifyCell_of_none there]
  | some found =>
      have moved := across_modifyCell there change count
      rw [keeps] at moved
      omega

theorem across_setState {store : Store} {cell : CellId} {earlier : CellState}
    (found : store.state cell = earlier) (there : cell < store.cells.length) (state : CellState)
    (count : CellState → Nat) :
    (store.setState cell state).across count + count earlier =
      store.across count + count state := by
  have moved := across_modifyCell (List.getElem?_eq_getElem there)
    (fun found => { found with state := state }) count
  rw [state_of_cells (List.getElem?_eq_getElem there)] at found
  rw [found] at moved
  exact moved

theorem across_addCell (store : Store) (state : CellState) (count : CellState → Nat) :
    (store.addCell state).1.across count = store.across count + count state := by
  simp only [across, addCell, tally_append, tally_cons, tally_nil, Nat.add_zero]

theorem across_hold (store : Store) (cell : CellId) (count : CellState → Nat) :
    (store.hold cell).across count = store.across count :=
  across_modifyCell_keep store cell count fun _ => rfl

/-! ## Registering and settling -/

theorem outcome?_eq_some {store : Store} {cell : CellId} {outcome : Outcome Value} :
    store.outcome? cell = some outcome ↔ store.state cell = .settled outcome := by
  unfold outcome?
  cases store.state cell with
  | pending continuations => simp
  | settled other => simp
  | abandoned => simp

theorem outcome?_of_state_eq {first second : Store} {cell other : CellId}
    (same : first.state cell = second.state other) : first.outcome? cell = second.outcome? other := by
  simp only [outcome?, same]

@[simp]
theorem length_register (store : Store) (cell : CellId) (continuation : Continuation) :
    (store.register cell continuation).cells.length = store.cells.length := by
  unfold register
  split
  · exact length_setState _ _ _
  · rfl

/-- What a registration on a cell makes of the state of the cell. -/
def CellState.joined (continuation : Continuation) : CellState → CellState
  | .pending continuations => .pending (continuations ++ [continuation])
  | other => other

theorem state_register (store : Store) (cell : CellId) (continuation : Continuation) :
    (store.register cell continuation).state cell =
      CellState.joined continuation (store.state cell) := by
  unfold register
  cases found : store.state cell with
  | pending continuations =>
      have there : cell < store.cells.length := by
        exact there_of_pending found
      exact state_setState store there _
  | settled outcome => exact found
  | abandoned => exact found

theorem state_register_of_ne (store : Store) {cell other : CellId} (different : other ≠ cell)
    (continuation : Continuation) :
    (store.register cell continuation).state other = store.state other := by
  unfold register
  split
  · exact state_setState_of_ne store different _
  · rfl

theorem settle?_eq_some {store after : Store} {cell : CellId} {outcome : Outcome Value}
    {continuations : List Continuation} :
    store.settle? cell outcome = some (after, continuations) ↔
      store.state cell = .pending continuations ∧ after = store.setState cell (.settled outcome) := by
  unfold settle?
  cases store.state cell with
  | pending others =>
      simp only [Option.some.injEq, Prod.mk.injEq, CellState.pending.injEq]
      constructor
      · rintro ⟨rfl, rfl⟩
        exact ⟨rfl, rfl⟩
      · rintro ⟨rfl, rfl⟩
        exact ⟨rfl, rfl⟩
  | settled other => simp
  | abandoned => simp

theorem settle?_eq_none {store : Store} {cell : CellId} {outcome : Outcome Value} :
    store.settle? cell outcome = none ↔
      ∀ continuations, store.state cell ≠ .pending continuations := by
  unfold settle?
  cases store.state cell with
  | pending others => simp
  | settled other => simp
  | abandoned => simp

/-! ## Letting go -/

/-- What letting go of cells can do, however far it reaches: pending cells are abandoned, waiting
channels are closed, and everything else stays. -/
structure LetGo (before after : Store) : Prop where
  cells : after.cells.length = before.cells.length
  state : ∀ cell, after.state cell = before.state cell ∨
    (∃ continuations, before.state cell = .pending continuations) ∧ after.state cell = .abandoned
  slots : after.slots = before.slots
  boards : after.boards = before.boards
  channels : after.channels.length = before.channels.length
  channel : ∀ channel, after.channel channel = before.channel channel ∨
    before.channel channel = .waiting ∧ after.channel channel = .closed

theorem LetGo.refl (store : Store) : LetGo store store :=
  ⟨rfl, fun _ => Or.inl rfl, rfl, rfl, rfl, fun _ => Or.inl rfl⟩

theorem LetGo.trans {first second third : Store} (earlier : LetGo first second)
    (later : LetGo second third) : LetGo first third where
  cells := later.cells.trans earlier.cells
  state := by
    intro cell
    rcases earlier.state cell with kept | ⟨pending, gone⟩
    · rw [← kept]
      exact later.state cell
    · refine Or.inr ⟨pending, ?_⟩
      rcases later.state cell with kept' | ⟨⟨continuations, pending'⟩, _⟩
      · exact kept'.trans gone
      · rw [gone] at pending'
        cases pending'
  slots := later.slots.trans earlier.slots
  boards := later.boards.trans earlier.boards
  channels := later.channels.trans earlier.channels
  channel := by
    intro channel
    rcases earlier.channel channel with kept | ⟨waiting, gone⟩
    · rw [← kept]
      exact later.channel channel
    · refine Or.inr ⟨waiting, ?_⟩
      rcases later.channel channel with kept' | ⟨waiting', _⟩
      · exact kept'.trans gone
      · rw [gone] at waiting'
        cases waiting'

/-- An outcome is never let go of. -/
theorem LetGo.settled {before after : Store} (released : LetGo before after) {cell : CellId}
    {outcome : Outcome Value} :
    after.state cell = .settled outcome ↔ before.state cell = .settled outcome := by
  rcases released.state cell with kept | ⟨⟨continuations, pending⟩, gone⟩
  · rw [kept]
  · rw [pending, gone]
    constructor
    · intro same
      cases same
    · intro same
      cases same

theorem letGo_closeChannel (store : Store) (channel : ChannelId) :
    LetGo store (store.closeChannel channel) where
  cells := rfl
  state := fun _ => Or.inl rfl
  slots := rfl
  boards := rfl
  channels := by simp only [closeChannel, List.length_modify]
  channel := by
    intro other
    simp only [Store.channel, closeChannel, List.getElem?_modify]
    cases store.channels[other]? with
    | none => exact Or.inl rfl
    | some found =>
        by_cases same : channel = other
        · cases found with
          | waiting =>
              refine Or.inr ⟨rfl, ?_⟩
              simp only [if_pos same, Option.map_eq_map, Option.map_some, Option.getD_some]
          | delivered outcome =>
              left
              simp only [if_pos same, Option.map_eq_map, Option.map_some, Option.getD_some]
          | closed =>
              left
              simp only [if_pos same, Option.map_eq_map, Option.map_some, Option.getD_some]
        · left
          simp only [if_neg same, Option.map_eq_map, Option.map_some]

theorem letGo_closeChannels (store : Store) (channels : List ChannelId) :
    LetGo store (channels.foldl closeChannel store) := by
  induction channels generalizing store with
  | nil => exact LetGo.refl store
  | cons channel rest inductionHypothesis =>
      exact (letGo_closeChannel store channel).trans (inductionHypothesis _)

theorem letGo_modifyCell (store : Store) (cell : CellId) {change : Cell → Cell}
    (keeps : ∀ found, (change found).state = found.state) :
    LetGo store (store.modifyCell cell change) where
  cells := length_modifyCell store cell change
  state := fun other => Or.inl (state_modifyCell_keep store cell other keeps)
  slots := rfl
  boards := rfl
  channels := rfl
  channel := fun _ => Or.inl rfl

theorem letGo_abandon (store : Store) {cell : CellId} {continuations : List Continuation}
    (pending : store.state cell = .pending continuations) :
    LetGo store (store.setState cell .abandoned) where
  cells := length_setState store cell _
  state := by
    intro other
    by_cases same : other = cell
    · subst same
      have there : other < store.cells.length := by
        exact there_of_pending pending
      exact Or.inr ⟨⟨continuations, pending⟩, state_setState store there _⟩
    · exact Or.inl (state_setState_of_ne store same _)
  slots := rfl
  boards := rfl
  channels := rfl
  channel := fun _ => Or.inl rfl

theorem letGo_releaseOne (store : Store) (cell : CellId) : LetGo store (store.releaseOne cell).1 := by
  unfold releaseOne
  cases there : store.cells[cell]? with
  | none => exact LetGo.refl store
  | some found =>
      have counted : LetGo store
          (store.modifyCell cell fun found => { found with holders := found.holders - 1 }) :=
        letGo_modifyCell store cell fun _ => rfl
      dsimp only
      split
      · cases state : found.state with
        | pending continuations =>
            have pending : (store.modifyCell cell
                fun found => { found with holders := found.holders - 1 }).state cell =
                .pending continuations := by
              rw [← state, ← state_of_cells there]
              apply state_modifyCell_keep
              intro other
              rfl
            exact (counted.trans (letGo_abandon _ pending)).trans (letGo_closeChannels _ _)
        | settled outcome => exact counted
        | abandoned => exact counted
      · exact counted

theorem letGo_releaseAll (fuel : Nat) (store : Store) (cells : List CellId) :
    LetGo store (releaseAll fuel store cells) := by
  induction fuel generalizing store cells with
  | zero => exact LetGo.refl store
  | succ fuel inductionHypothesis =>
      cases cells with
      | nil => exact LetGo.refl store
      | cons cell rest =>
          exact (letGo_releaseOne store cell).trans (inductionHypothesis _ _)

/-- Letting go of a cell. -/
theorem letGo_release (store : Store) (cell : CellId) : LetGo store (store.release cell) :=
  letGo_releaseAll _ store [cell]

end Store
end Promise
end PromiseHttp
