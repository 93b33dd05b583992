import PromiseHttp.Proofs.Promise.Termination

namespace PromiseHttp
namespace Promise

/-!
# Who holds a cell

A cell knows how many holders it has, but not who they are.  A channel, likewise, waits as long as
there is a continuation that will send on it.  Everything that can be held is held by somebody in
particular: by a name, by a continuation that is registered on a pending cell, or by something on its
way.  The account balances if every cell has as many holders as there are holds on it and every
channel waits for exactly one continuation.

What is on its way is loose.  Each operation on the cells moves holds between the loose ones and the
registered ones, makes new ones, or ends some, and the account balances before and after.  Letting go
ends one hold on a cell.  If it was the last one, the holds of the continuations that are dropped
become loose and are ended in turn, and as each of them was registered the fuel lasts.

A link is only ever registered on a cell that is older than its target, so holding cannot go around
in a circle.
-/

/-- What can be held: a cell, or the sending end of a channel. -/
inductive Holding where
  | cell (cell : CellId)
  | channel (channel : ChannelId)
  deriving DecidableEq

/-- What a continuation holds. -/
def Continuation.holdings (continuation : Continuation) : List Holding :=
  (continuation.target?.map Holding.cell).toList ++
    (continuation.channel?.map Holding.channel).toList

theorem Continuation.mem_holdings_cell {continuation : Continuation} {cell : CellId} :
    .cell cell ∈ continuation.holdings ↔ continuation.target? = some cell := by
  simp [holdings]

theorem Continuation.mem_holdings_channel {continuation : Continuation} {channel : ChannelId} :
    .channel channel ∈ continuation.holdings ↔ continuation = .send channel := by
  cases continuation <;> simp [holdings, channel?, target?, eq_comm]

/-- The continuations registered in a state. -/
def CellState.continuations : CellState → List Continuation
  | .pending continuations => continuations
  | _ => []

/-- What the continuations registered in a state hold. -/
def CellState.holdings (state : CellState) : List Holding :=
  state.continuations.flatMap Continuation.holdings

namespace Store

/-! ## The account -/

/-- How many holds there must be on something: as many as a cell has holders, and one on a channel
that waits. -/
def due (store : Store) : Holding → Nat
  | .cell cell =>
    match store.cells[cell]? with
    | some found => found.holders
    | none => 0
  | .channel channel =>
    match store.channel channel with
    | .waiting => 1
    | _ => 0

/-- How many registered continuations hold something. -/
def pledged (store : Store) (holding : Holding) : Nat :=
  store.across fun state => state.holdings.count holding

/-- Some loose holds and those of the registered continuations are all there are. -/
def Balanced (loose : List Holding) (store : Store) : Prop :=
  ∀ holding, store.due holding = loose.count holding + store.pledged holding

/-- The account balances, a cell is pending only while somebody holds it, nobody holds a cell that is
abandoned, and links lead upward. -/
structure Accounted (loose : List Holding) (store : Store) : Prop where
  balanced : store.Balanced loose
  held : ∀ {cell continuations}, store.state cell = .pending continuations →
    0 < store.due (.cell cell)
  dead : ∀ {cell}, store.state cell = .abandoned → store.due (.cell cell) = 0
  upward : ∀ {cell continuations continuation target},
    store.state cell = .pending continuations → continuation ∈ continuations →
    continuation.target? = some target → cell < target

/-- The order of the loose holds does not matter. -/
theorem Accounted.perm {loose loose' : List Holding} {store : Store}
    (accounted : store.Accounted loose) (same : loose.Perm loose') : store.Accounted loose' where
  balanced := by
    intro holding
    rw [← same.count_eq]
    exact accounted.balanced holding
  held := accounted.held
  dead := accounted.dead
  upward := accounted.upward

/-- Whatever is loose is due. -/
theorem Accounted.due_pos {loose : List Holding} {store : Store}
    (accounted : store.Accounted loose) {holding : Holding} (member : holding ∈ loose) :
    0 < store.due holding := by
  have once := List.count_pos_iff.mpr member
  have balanced := accounted.balanced holding
  omega

/-- A cell that is held is not abandoned. -/
theorem Accounted.alive {loose : List Holding} {store : Store}
    (accounted : store.Accounted loose) {cell : CellId} (member : .cell cell ∈ loose) :
    store.state cell ≠ .abandoned := by
  intro abandoned
  have due := accounted.due_pos member
  rw [accounted.dead abandoned] at due
  exact Nat.lt_irrefl 0 due

theorem Accounted.there {loose : List Holding} {store : Store}
    (accounted : store.Accounted loose) {cell : CellId} (member : .cell cell ∈ loose) :
    cell < store.cells.length :=
  there_of_state (accounted.alive member)

theorem due_channel_eq {store : Store} {channel : ChannelId} :
    0 < store.due (.channel channel) ↔ store.channel channel = .waiting := by
  cases found : store.channel channel <;> simp [due, found]

/-- Something is pledged if a continuation registered on a pending cell holds it. -/
theorem pledged_pos {store : Store} {holding : Holding} :
    0 < store.pledged holding ↔ ∃ cell continuations continuation,
      store.state cell = .pending continuations ∧ continuation ∈ continuations ∧
        holding ∈ continuation.holdings := by
  have counted : ∀ cells : List Cell,
      0 < tally (fun cell => cell.state.holdings.count holding) cells ↔
        ∃ (place : Nat) (found : Cell), cells[place]? = some found ∧
          holding ∈ found.state.holdings := by
    intro cells
    induction cells with
    | nil => simp [tally_nil]
    | cons first rest inductionHypothesis =>
        rw [tally_cons, Nat.add_pos_iff_pos_or_pos, List.count_pos_iff, inductionHypothesis]
        constructor
        · rintro (here | ⟨place, found, there, holds⟩)
          · exact ⟨0, first, rfl, here⟩
          · exact ⟨place + 1, found, there, holds⟩
        · rintro ⟨place, found, there, holds⟩
          cases place with
          | zero =>
              cases there
              exact Or.inl holds
          | succ place => exact Or.inr ⟨place, found, there, holds⟩
  rw [pledged, across, counted]
  constructor
  · rintro ⟨cell, found, there, holds⟩
    rcases List.mem_flatMap.mp holds with ⟨continuation, member, held⟩
    cases state : found.state with
    | pending continuations =>
        rw [state] at member
        exact ⟨cell, continuations, continuation, (state_of_cells there).trans state, member, held⟩
    | settled outcome =>
        rw [state] at member
        cases member
    | abandoned =>
        rw [state] at member
        cases member
  · rintro ⟨cell, continuations, continuation, pending, member, held⟩
    have there := there_of_pending pending
    rw [state_of_cells (List.getElem?_eq_getElem there)] at pending
    refine ⟨cell, _, List.getElem?_eq_getElem there, ?_⟩
    rw [pending]
    exact List.mem_flatMap.mpr ⟨continuation, member, held⟩

theorem pledged_setState {store : Store} {cell : CellId} {continuations : List Continuation}
    (pending : store.state cell = .pending continuations) (state : CellState)
    (holding : Holding) :
    (store.setState cell state).pledged holding +
        (continuations.flatMap Continuation.holdings).count holding =
      store.pledged holding + state.holdings.count holding :=
  across_setState pending (there_of_pending pending) state fun state => state.holdings.count holding

/-! ## Operations that end or make no hold -/

theorem state_cells_channels_due {first second : Store} (cells : second.cells = first.cells)
    (channels : second.channels = first.channels) (holding : Holding) :
    second.due holding = first.due holding := by
  cases holding with
  | cell cell => simp only [due, cells]
  | channel channel => simp only [due, Store.channel, channels]

/-- The account is about the cells and the channels alone. -/
theorem Accounted.of_eq {loose : List Holding} {store after : Store}
    (accounted : store.Accounted loose) (cells : after.cells = store.cells)
    (channels : after.channels = store.channels) : after.Accounted loose where
  balanced := by
    intro holding
    rw [state_cells_channels_due cells channels, accounted.balanced, pledged, pledged,
      across_of_cells_eq cells]
  held := by
    intro cell continuations pending
    rw [state_cells_channels_due cells channels]
    rw [state_of_cells_eq cells] at pending
    exact accounted.held pending
  dead := by
    intro cell abandoned
    rw [state_cells_channels_due cells channels]
    rw [state_of_cells_eq cells] at abandoned
    exact accounted.dead abandoned
  upward := by
    intro cell continuations continuation target pending
    rw [state_of_cells_eq cells] at pending
    exact accounted.upward pending

/-! ## New cells, holders and channels -/

theorem due_modifyCell_of_ne (store : Store) {cell : CellId} {holding : Holding}
    (different : holding ≠ .cell cell) (change : Cell → Cell) :
    (store.modifyCell cell change).due holding = store.due holding := by
  cases holding with
  | channel channel => rfl
  | cell other =>
      have apart : cell ≠ other := by
        rintro rfl
        exact different rfl
      simp only [due, modifyCell, List.getElem?_modify, if_neg apart]
      cases store.cells[other]? <;> rfl

theorem due_modifyCell {store : Store} {cell : CellId} {found : Cell}
    (there : store.cells[cell]? = some found) (change : Cell → Cell) :
    (store.modifyCell cell change).due (.cell cell) = (change found).holders := by
  simp only [due, modifyCell, List.getElem?_modify, there, if_true, Option.map_eq_map,
    Option.map_some]

theorem due_cell {store : Store} {cell : CellId} {found : Cell}
    (there : store.cells[cell]? = some found) : store.due (.cell cell) = found.holders := by
  simp only [due, there]

@[simp]
theorem due_setState (store : Store) (cell : CellId) (state : CellState) (holding : Holding) :
    (store.setState cell state).due holding = store.due holding := by
  by_cases same : holding = .cell cell
  · subst same
    cases there : store.cells[cell]? with
    | none => rw [setState, modifyCell_of_none there]
    | some found => rw [setState, due_modifyCell there, due_cell there]
  · exact due_modifyCell_of_ne store same _

theorem due_addCell_new (store : Store) (state : CellState) :
    (store.addCell state).1.due (.cell store.cells.length) = 1 := by
  simp only [due, addCell, List.getElem?_concat_length]

theorem due_beyond (store : Store) : store.due (.cell store.cells.length) = 0 := by
  simp only [due, List.getElem?_eq_none (Nat.le_refl _)]

theorem due_addCell_of_ne (store : Store) (state : CellState) {holding : Holding}
    (different : holding ≠ .cell store.cells.length) :
    (store.addCell state).1.due holding = store.due holding := by
  cases holding with
  | channel channel => rfl
  | cell cell =>
      have apart : cell ≠ store.cells.length := by
        rintro rfl
        exact different rfl
      simp only [due, addCell]
      by_cases there : cell < store.cells.length
      · rw [List.getElem?_append_left there]
      · have beyond : store.cells.length < cell :=
          Nat.lt_of_le_of_ne (Nat.le_of_not_lt there) (Ne.symm apart)
        rw [List.getElem?_eq_none (Nat.le_of_lt beyond), List.getElem?_eq_none]
        rw [List.length_append, List.length_singleton]
        exact beyond

/-- A new cell has one holder. -/
theorem Accounted.addCell {loose : List Holding} {store : Store}
    (accounted : store.Accounted loose) {state : CellState} (bare : state.continuations = [])
    (alive : state ≠ .abandoned) :
    (store.addCell state).1.Accounted (.cell store.cells.length :: loose) where
  balanced := by
    intro holding
    have before := accounted.balanced holding
    have nothing : state.holdings.count holding = 0 := by
      rw [CellState.holdings, bare]
      rfl
    rw [pledged, across_addCell, nothing, Nat.add_zero]
    by_cases new : holding = .cell store.cells.length
    · subst new
      rw [due_beyond, pledged] at before
      rw [due_addCell_new, List.count_cons_self]
      omega
    · rw [due_addCell_of_ne store state new, List.count_cons_of_ne (Ne.symm new)]
      exact before
  held := by
    intro cell continuations pending
    by_cases new : cell = store.cells.length
    · rw [new, due_addCell_new]
      exact Nat.one_pos
    · rw [state_addCell_of_ne store state new] at pending
      rw [due_addCell_of_ne store state (by simpa using new)]
      exact accounted.held pending
  dead := by
    intro cell abandoned
    by_cases new : cell = store.cells.length
    · rw [new, state_addCell_new] at abandoned
      exact absurd abandoned alive
    · rw [state_addCell_of_ne store state new] at abandoned
      rw [due_addCell_of_ne store state (by simpa using new)]
      exact accounted.dead abandoned
  upward := by
    intro cell continuations continuation target pending member
    by_cases new : cell = store.cells.length
    · rw [new, state_addCell_new] at pending
      rw [pending] at bare
      rw [show continuations = [] from bare] at member
      cases member
    · rw [state_addCell_of_ne store state new] at pending
      exact accounted.upward pending member

/-- One more holder. -/
theorem Accounted.hold {loose : List Holding} {store : Store} (accounted : store.Accounted loose)
    {cell : CellId} (alive : store.state cell ≠ .abandoned) :
    (store.hold cell).Accounted (.cell cell :: loose) := by
  have there := List.getElem?_eq_getElem (there_of_state alive)
  have more : (store.hold cell).due (.cell cell) = store.due (.cell cell) + 1 := by
    rw [Store.hold, due_modifyCell there, due_cell there]
  have same : ∀ {holding}, holding ≠ .cell cell →
      (store.hold cell).due holding = store.due holding :=
    fun different => due_modifyCell_of_ne store different _
  refine ⟨?_, ?_, ?_, ?_⟩
  · intro holding
    rw [pledged, across_hold]
    have before := accounted.balanced holding
    rw [pledged] at before
    by_cases here : holding = .cell cell
    · subst here
      rw [more, List.count_cons_self]
      omega
    · rw [same here, List.count_cons_of_ne (Ne.symm here)]
      exact before
  · intro other continuations pending
    by_cases here : other = cell
    · rw [here, more]
      exact Nat.succ_pos _
    · rw [state_hold] at pending
      rw [same (by simpa using here)]
      exact accounted.held pending
  · intro other abandoned
    rw [state_hold] at abandoned
    have different : other ≠ cell := by
      rintro rfl
      exact alive abandoned
    rw [same (by simpa using different)]
    exact accounted.dead abandoned
  · intro other continuations continuation target pending
    rw [state_hold] at pending
    exact accounted.upward pending

/-- A change of one channel that leaves the cells as they are moves holds on this channel only. -/
theorem Accounted.of_channel {loose loose' : List Holding} {store after : Store}
    (accounted : store.Accounted loose) (cells : after.cells = store.cells) (channel : ChannelId)
    (same : ∀ other, other ≠ channel → after.channel other = store.channel other)
    (counts : ∀ holding, holding ≠ .channel channel →
      loose'.count holding = loose.count holding)
    (moved : after.due (.channel channel) + loose.count (.channel channel) =
      store.due (.channel channel) + loose'.count (.channel channel)) :
    after.Accounted loose' := by
  have dues : ∀ {holding}, holding ≠ .channel channel → after.due holding = store.due holding := by
    intro holding different
    cases holding with
    | cell cell => simp only [due, cells]
    | channel other =>
        have apart : other ≠ channel := by
          rintro rfl
          exact different rfl
        simp only [due, same other apart]
  refine ⟨?_, ?_, ?_, ?_⟩
  · intro holding
    have before := accounted.balanced holding
    have pledges : after.pledged holding = store.pledged holding := across_of_cells_eq cells _
    rw [pledges]
    by_cases here : holding = .channel channel
    · subst here
      omega
    · rw [dues here, counts holding here]
      exact before
  · intro cell continuations pending
    rw [state_of_cells_eq cells] at pending
    rw [dues (by simp)]
    exact accounted.held pending
  · intro cell abandoned
    rw [state_of_cells_eq cells] at abandoned
    rw [dues (by simp)]
    exact accounted.dead abandoned
  · intro cell continuations continuation target pending
    rw [state_of_cells_eq cells] at pending
    exact accounted.upward pending

/-- A new channel waits to be sent on. -/
theorem Accounted.addChannel {loose : List Holding} {store : Store}
    (accounted : store.Accounted loose) :
    store.addChannel.1.Accounted (.channel store.channels.length :: loose) := by
  refine accounted.of_channel rfl store.channels.length ?_ ?_ ?_
  · intro other different
    simp only [Store.channel, Store.addChannel]
    by_cases there : other < store.channels.length
    · rw [List.getElem?_append_left there]
    · have beyond : store.channels.length < other :=
        Nat.lt_of_le_of_ne (Nat.le_of_not_lt there) (Ne.symm different)
      rw [List.getElem?_eq_none (Nat.le_of_lt beyond), List.getElem?_eq_none]
      rw [List.length_append, List.length_singleton]
      exact beyond
  · intro holding different
    exact List.count_cons_of_ne (Ne.symm different)
  · have closed : store.due (.channel store.channels.length) = 0 := by
      simp only [due, Store.channel, List.getElem?_eq_none (Nat.le_refl _), Option.getD_none]
    have waits : store.addChannel.1.due (.channel store.channels.length) = 1 := by
      simp only [due, Store.channel, Store.addChannel, List.getElem?_concat_length,
        Option.getD_some]
    rw [closed, waits, List.count_cons_self]
    omega

/-- A channel that is held waits, and afterwards it does not. -/
theorem Accounted.endChannel {loose : List Holding} {store after : Store} {channel : ChannelId}
    (accounted : store.Accounted (.channel channel :: loose)) (cells : after.cells = store.cells)
    (same : ∀ other, other ≠ channel → after.channel other = store.channel other)
    (ended : after.channel channel ≠ .waiting) : after.Accounted loose := by
  refine accounted.of_channel cells channel same ?_ ?_
  · intro holding different
    exact (List.count_cons_of_ne (Ne.symm different)).symm
  · have waiting := due_channel_eq.mp (accounted.due_pos List.mem_cons_self)
    have one : store.due (.channel channel) = 1 := by
      simp only [due, waiting]
    have none : after.due (.channel channel) = 0 :=
      Nat.eq_zero_of_not_pos fun positive => ended (due_channel_eq.mp positive)
    rw [one, none, List.count_cons_self]
    omega

theorem channel_of_waiting {store : Store} {channel : ChannelId}
    (waiting : store.channel channel = .waiting) : channel < store.channels.length := by
  apply Classical.byContradiction
  intro beyond
  simp only [Store.channel, List.getElem?_eq_none (Nat.le_of_not_lt beyond),
    Option.getD_none] at waiting
  cases waiting

/-- Sending on a channel ends the hold on it. -/
theorem Accounted.deliver {loose : List Holding} {store : Store} {channel : ChannelId}
    (accounted : store.Accounted (.channel channel :: loose)) (outcome : Outcome Value) :
    (store.deliver channel outcome).Accounted loose := by
  have waiting := due_channel_eq.mp (accounted.due_pos List.mem_cons_self)
  refine accounted.endChannel rfl ?_ ?_
  · intro other different
    simp only [Store.channel, Store.deliver, List.getElem?_set_ne (Ne.symm different)]
  · rw [channel_deliver store (channel_of_waiting waiting)]
    exact fun same => Channel.noConfusion same

/-- So does closing it. -/
theorem Accounted.closeChannel {loose : List Holding} {store : Store} {channel : ChannelId}
    (accounted : store.Accounted (.channel channel :: loose)) :
    (store.closeChannel channel).Accounted loose := by
  have waiting := due_channel_eq.mp (accounted.due_pos List.mem_cons_self)
  refine accounted.endChannel rfl ?_ ?_
  · intro other different
    simp only [Store.channel, Store.closeChannel, List.getElem?_modify,
      if_neg (Ne.symm different)]
    cases store.channels[other]? <;> rfl
  · have there := List.getElem?_eq_getElem (channel_of_waiting waiting)
    simp only [Store.channel, there, Option.getD_some] at waiting
    simp only [Store.channel, Store.closeChannel, List.getElem?_modify, if_true, there, waiting,
      Option.map_eq_map, Option.map_some, Option.getD_some]
    exact fun same => Channel.noConfusion same

theorem Accounted.closeChannels (channels : List ChannelId) {loose : List Holding} {store : Store}
    (accounted : store.Accounted (channels.map Holding.channel ++ loose)) :
    (channels.foldl Store.closeChannel store).Accounted loose := by
  induction channels generalizing store with
  | nil => exact accounted
  | cons channel rest inductionHypothesis => exact inductionHypothesis accounted.closeChannel

/-! ## Registering and settling -/

/-- A continuation that is registered on a pending cell keeps what it holds. -/
theorem Accounted.register {loose : List Holding} {store : Store} {continuation : Continuation}
    (accounted : store.Accounted (continuation.holdings ++ loose)) {cell : CellId}
    (alive : store.outcome? cell = none) (held : store.state cell ≠ .abandoned)
    (upward : ∀ target, continuation.target? = some target → cell < target) :
    (store.register cell continuation).Accounted loose := by
  cases found : store.state cell with
  | settled outcome =>
      rw [outcome?_eq_some.mpr found] at alive
      cases alive
  | abandoned => exact absurd found held
  | pending continuations =>
      have there := there_of_pending found
      have joined : (store.register cell continuation).state cell =
          .pending (continuations ++ [continuation]) := by
        rw [state_register, found]
        rfl
      have result : store.register cell continuation =
          store.setState cell (.pending (continuations ++ [continuation])) := by
        simp only [Store.register, found]
      have due : ∀ holding, (store.register cell continuation).due holding = store.due holding := by
        intro holding
        rw [result, due_setState]
      refine ⟨?_, ?_, ?_, ?_⟩
      · intro holding
        have before := accounted.balanced holding
        have moved := pledged_setState found (.pending (continuations ++ [continuation])) holding
        have longer : (CellState.pending (continuations ++ [continuation])).holdings.count holding =
            (continuations.flatMap Continuation.holdings).count holding +
              continuation.holdings.count holding := by
          rw [← List.count_append, ← List.flatMap_singleton Continuation.holdings continuation,
            ← List.flatMap_append]
          rfl
        rw [List.count_append] at before
        rw [due, result]
        omega
      · intro other others pending
        rw [due]
        by_cases same : other = cell
        · subst same
          exact accounted.held found
        · rw [state_register_of_ne store same] at pending
          exact accounted.held pending
      · intro other abandoned
        rw [due]
        by_cases same : other = cell
        · subst same
          rw [joined] at abandoned
          cases abandoned
        · rw [state_register_of_ne store same] at abandoned
          exact accounted.dead abandoned
      · intro other others another target pending member holds
        by_cases same : other = cell
        · subst same
          rw [joined] at pending
          cases pending
          rcases List.mem_append.mp member with earlier | new
          · exact accounted.upward found earlier holds
          · rw [List.mem_singleton.mp new] at holds
            exact upward target holds
        · rw [state_register_of_ne store same] at pending
          exact accounted.upward pending member holds

/-- The holds of the continuations of a cell become loose when the cell is pending no more. -/
theorem Balanced.takeOff {loose : List Holding} {store : Store} (balanced : store.Balanced loose)
    {cell : CellId} {continuations : List Continuation}
    (pending : store.state cell = .pending continuations) {state : CellState}
    (empty : state.continuations = []) :
    (store.setState cell state).Balanced
      (continuations.flatMap Continuation.holdings ++ loose) := by
  intro holding
  have before := balanced holding
  have moved := pledged_setState pending state holding
  have nothing : state.holdings.count holding = 0 := by
    rw [CellState.holdings, empty]
    rfl
  rw [due_setState, List.count_append]
  omega

/-- A cell that settles hands its continuations out. -/
theorem Accounted.settle {loose : List Holding} {store : Store}
    (accounted : store.Accounted loose) {cell : CellId} {continuations : List Continuation}
    (pending : store.state cell = .pending continuations) (outcome : Outcome Value) :
    (store.setState cell (.settled outcome)).Accounted
      (continuations.flatMap Continuation.holdings ++ loose) := by
  have settled := state_setState store (there_of_pending pending) (.settled outcome)
  refine ⟨accounted.balanced.takeOff pending rfl, ?_, ?_, ?_⟩
  · intro other others found
    rw [due_setState]
    by_cases same : other = cell
    · rw [same, settled] at found
      cases found
    · rw [state_setState_of_ne store same] at found
      exact accounted.held found
  · intro other abandoned
    rw [due_setState]
    by_cases same : other = cell
    · rw [same, settled] at abandoned
      cases abandoned
    · rw [state_setState_of_ne store same] at abandoned
      exact accounted.dead abandoned
  · intro other others another target found
    by_cases same : other = cell
    · rw [same, settled] at found
      cases found
    · rw [state_setState_of_ne store same] at found
      exact accounted.upward found

/-! ## Letting go -/

/-- The cell with one holder less. -/
def countDown (store : Store) (cell : CellId) : Store :=
  store.modifyCell cell fun found => { found with holders := found.holders - 1 }

theorem state_countDown (store : Store) (cell other : CellId) :
    (store.countDown cell).state other = store.state other :=
  state_modifyCell_keep store cell other fun _ => rfl

theorem releaseOne_eq {store : Store} {cell : CellId} {found : Cell}
    (there : store.cells[cell]? = some found) :
    store.releaseOne cell =
      if found.holders ≤ 1 then
        match found.state with
        | .pending continuations =>
          ((store.countDown cell).setState cell .abandoned).dropContinuations continuations
        | _ => (store.countDown cell, [])
      else (store.countDown cell, []) := by
  simp only [releaseOne, there]
  rfl

theorem Balanced.countDown {loose : List Holding} {store : Store} {cell : CellId}
    (balanced : store.Balanced (.cell cell :: loose)) (there : cell < store.cells.length) :
    (store.countDown cell).Balanced loose ∧
      (store.countDown cell).due (.cell cell) + 1 = store.due (.cell cell) ∧
      ∀ holding, holding ≠ .cell cell →
        (store.countDown cell).due holding = store.due holding := by
  have known := List.getElem?_eq_getElem there
  have one := balanced (.cell cell)
  rw [List.count_cons_self] at one
  have fewer : (store.countDown cell).due (.cell cell) + 1 = store.due (.cell cell) := by
    have less : (store.countDown cell).due (.cell cell) = store.cells[cell].holders - 1 :=
      due_modifyCell known _
    rw [due_cell known] at one ⊢
    omega
  have others : ∀ holding, holding ≠ .cell cell →
      (store.countDown cell).due holding = store.due holding :=
    fun holding different => due_modifyCell_of_ne store different _
  refine ⟨?_, fewer, others⟩
  intro holding
  have same : (store.countDown cell).pledged holding = store.pledged holding :=
    across_modifyCell_keep store cell _ fun _ => rfl
  have before := balanced holding
  rw [same]
  by_cases here : holding = .cell cell
  · subst here
    omega
  · rw [List.count_cons_of_ne (Ne.symm here)] at before
    rw [others holding here]
    exact before

/-- A holder lets go of a cell that others hold or that has settled. -/
theorem Accounted.countDown {loose : List Holding} {store : Store} {cell : CellId}
    (accounted : store.Accounted (.cell cell :: loose))
    (kept : (store.outcome? cell).isSome = true ∨ 1 < store.due (.cell cell)) :
    (store.countDown cell).Accounted loose := by
  have alive := accounted.alive List.mem_cons_self
  rcases accounted.balanced.countDown (there_of_state alive) with ⟨balanced, fewer, others⟩
  refine ⟨balanced, ?_, ?_, ?_⟩
  · intro other continuations pending
    rw [state_countDown] at pending
    by_cases here : other = cell
    · subst here
      have unsettled : store.outcome? other = none := by
        simp only [outcome?, pending]
      rw [unsettled] at kept
      rcases kept with settled | more
      · cases settled
      · omega
    · rw [others _ (by simpa using here)]
      exact accounted.held pending
  · intro other abandoned
    rw [state_countDown] at abandoned
    have different : other ≠ cell := by
      rintro rfl
      exact alive abandoned
    rw [others _ (by simpa using different)]
    exact accounted.dead abandoned
  · intro other continuations continuation target pending
    rw [state_countDown] at pending
    exact accounted.upward pending

/-- The last holder of a pending cell lets go. -/
theorem Accounted.abandon {loose : List Holding} {store : Store} {cell : CellId}
    {continuations : List Continuation} (accounted : store.Accounted (.cell cell :: loose))
    (pending : store.state cell = .pending continuations)
    (last : store.due (.cell cell) ≤ 1) :
    ((store.countDown cell).setState cell .abandoned).Accounted
      (continuations.flatMap Continuation.holdings ++ loose) := by
  have there := there_of_pending pending
  rcases accounted.balanced.countDown there with ⟨balanced, fewer, others⟩
  have still : (store.countDown cell).state cell = .pending continuations := by
    rw [state_countDown, pending]
  have gone := state_setState (store.countDown cell) (there_of_pending still) .abandoned
  refine ⟨balanced.takeOff still rfl, ?_, ?_, ?_⟩
  · intro other others' found
    by_cases same : other = cell
    · rw [same, gone] at found
      cases found
    · rw [state_setState_of_ne _ same, state_countDown] at found
      rw [due_setState, others _ (by simpa using same)]
      exact accounted.held found
  · intro other abandoned
    rw [due_setState]
    by_cases same : other = cell
    · subst same
      omega
    · rw [state_setState_of_ne _ same, state_countDown] at abandoned
      rw [others _ (by simpa using same)]
      exact accounted.dead abandoned
  · intro other others' another target found
    by_cases same : other = cell
    · rw [same, gone] at found
      cases found
    · rw [state_setState_of_ne _ same, state_countDown] at found
      exact accounted.upward found

/-- Continuations hold channels and cells. -/
theorem holdings_perm (continuations : List Continuation) :
    (continuations.flatMap Continuation.holdings).Perm
      ((continuations.filterMap Continuation.channel?).map Holding.channel ++
        (continuations.filterMap Continuation.target?).map Holding.cell) := by
  rw [List.perm_iff_count]
  intro holding
  induction continuations with
  | nil => rfl
  | cons continuation rest inductionHypothesis =>
      rw [List.flatMap_cons, List.count_append, inductionHypothesis, List.filterMap_cons,
        List.filterMap_cons]
      simp only [Continuation.holdings, List.count_append]
      cases continuation.target? <;> cases continuation.channel? <;>
        simp only [Option.map_none, Option.map_some, Option.toList_none, Option.toList_some,
          List.map_cons, List.count_cons, List.count_nil] <;> omega

/-- What is dropped closes its channels and leaves its holds on cells to be let go of. -/
theorem Accounted.dropContinuations {loose : List Holding} {store : Store}
    {continuations : List Continuation}
    (accounted : store.Accounted (continuations.flatMap Continuation.holdings ++ loose)) :
    (store.dropContinuations continuations).1.Accounted
      ((store.dropContinuations continuations).2.map Holding.cell ++ loose) := by
  apply Accounted.closeChannels (continuations.filterMap Continuation.channel?)
  rw [← List.append_assoc]
  exact accounted.perm ((holdings_perm continuations).append_right loose)

/-- The number of continuations registered on all cells. -/
def registered (store : Store) : Nat :=
  store.across fun state => state.continuations.length

theorem tally_registered (store : Store) :
    tally Cell.registered store.cells = store.registered := by
  have same : Cell.registered = fun cell => cell.state.continuations.length := by
    funext cell
    unfold Cell.registered
    cases cell.state <;> rfl
  rw [same]
  rfl

/-- One holder lets go.  Each hold that is to be let go of in turn was that of a continuation that is
registered no more. -/
theorem Accounted.releaseOne {loose : List Holding} {store : Store} {cell : CellId}
    (accounted : store.Accounted (.cell cell :: loose)) :
    (store.releaseOne cell).1.Accounted
        ((store.releaseOne cell).2.map Holding.cell ++ loose) ∧
      (store.releaseOne cell).1.registered + (store.releaseOne cell).2.length ≤
        store.registered := by
  have there := accounted.there List.mem_cons_self
  have known := List.getElem?_eq_getElem there
  have counted : (store.countDown cell).registered = store.registered :=
    across_modifyCell_keep store cell _ fun _ => rfl
  rw [releaseOne_eq known]
  by_cases last : store.cells[cell].holders ≤ 1
  · rw [if_pos last]
    cases state : store.cells[cell].state with
    | settled outcome =>
        have settled := outcome?_eq_some.mpr ((state_of_cells known).trans state)
        exact ⟨accounted.countDown (Or.inl (by simp [settled])), Nat.le_of_eq counted⟩
    | abandoned =>
        exact absurd ((state_of_cells known).trans state) (accounted.alive List.mem_cons_self)
    | pending continuations =>
        have pending := (state_of_cells known).trans state
        have single : store.due (.cell cell) ≤ 1 := by
          rw [due_cell known]
          exact last
        refine ⟨(accounted.abandon pending single).dropContinuations, ?_⟩
        have still : (store.countDown cell).state cell = .pending continuations :=
          (state_countDown store cell cell).trans pending
        have moved : ((store.countDown cell).setState cell .abandoned).registered +
            continuations.length = (store.countDown cell).registered + 0 :=
          across_setState still (there_of_pending still) .abandoned
            fun state => state.continuations.length
        have dropped : (((store.countDown cell).setState cell .abandoned).dropContinuations
            continuations).1.registered =
            ((store.countDown cell).setState cell .abandoned).registered :=
          across_of_cells_eq (cells_closeChannels _ _) _
        have fewer : (((store.countDown cell).setState cell .abandoned).dropContinuations
            continuations).2.length ≤ continuations.length :=
          List.length_filterMap_le Continuation.target? continuations
        dsimp only
        omega
  · rw [if_neg last]
    have more : 1 < store.due (.cell cell) := by
      rw [due_cell known]
      exact Nat.lt_of_not_le last
    exact ⟨accounted.countDown (Or.inr more), Nat.le_of_eq counted⟩

/-- Letting go of cells ends one hold on each, as long as the fuel lasts. -/
theorem Accounted.releaseAll {fuel : Nat} {loose : List Holding} {store : Store}
    {cells : List CellId} (accounted : store.Accounted (cells.map Holding.cell ++ loose))
    (lasts : store.registered + cells.length ≤ fuel) :
    (Store.releaseAll fuel store cells).Accounted loose := by
  induction fuel generalizing store cells with
  | zero =>
      have none : cells = [] := List.length_eq_zero_iff.mp (by omega)
      subst none
      exact accounted
  | succ fuel inductionHypothesis =>
      cases cells with
      | nil => exact accounted
      | cons cell rest =>
          rcases accounted.releaseOne with ⟨further, fewer⟩
          have order : ((store.releaseOne cell).2.map Holding.cell ++
              (rest.map Holding.cell ++ loose)).Perm
              ((rest ++ (store.releaseOne cell).2).map Holding.cell ++ loose) := by
            rw [List.map_append, ← List.append_assoc]
            exact List.perm_append_comm.append_right loose
          have enough : (store.releaseOne cell).1.registered +
              (rest ++ (store.releaseOne cell).2).length ≤ fuel := by
            rw [List.length_cons] at lasts
            rw [List.length_append]
            omega
          exact inductionHypothesis (further.perm order) enough

/-- Letting go of a cell ends one hold on it and leaves the account balanced. -/
theorem Accounted.release {loose : List Holding} {store : Store} {cell : CellId}
    (accounted : store.Accounted (.cell cell :: loose)) :
    (store.release cell).Accounted loose := by
  have one : store.Accounted ([cell].map Holding.cell ++ loose) := accounted
  refine one.releaseAll ?_
  rw [tally_registered]
  exact Nat.le_refl _

end Store
end Promise
end PromiseHttp
