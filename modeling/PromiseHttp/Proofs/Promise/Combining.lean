import PromiseHttp.Proofs.Promise.Registration

namespace PromiseHttp
namespace Promise
namespace Store

/-!
# Combining promises

A combined promise is a new cell to which the inputs are linked one after another.  An input that is
pending gets a continuation.  An input that has settled acts at once, as its continuation would have
done: it may enter its value on the board and may settle the new cell.  None of this touches the
inputs themselves, because the new cell is not among them.
-/

theorem joining_append (cell : CellId) (first second : List (CellId × Continuation)) :
    joining cell (first ++ second) = joining cell first ++ joining cell second :=
  List.filterMap_append

theorem CellState.joinedBy_append (first second : List Continuation) (state : CellState) :
    CellState.joinedBy (first ++ second) state =
      CellState.joinedBy second (CellState.joinedBy first state) := by
  cases state with
  | pending continuations => simp only [CellState.joinedBy, List.append_assoc]
  | settled outcome => rfl
  | abandoned => rfl

/-- What linking inputs does to the cells.  The target is settled by it or stays as it is; what was
registered on the other cells is told. -/
structure Joins (target : CellId) (added : List (CellId × Continuation)) (before after : Store) :
    Prop where
  cells : after.cells.length = before.cells.length
  slots : after.slots = before.slots
  channels : after.channels = before.channels
  other : ∀ {cell}, cell ≠ target →
    after.state cell = CellState.joinedBy (joining cell added) (before.state cell)
  unsettled : ∀ {continuations}, after.state target = .pending continuations →
    before.state target = .pending continuations
  alive : before.state target ≠ .abandoned → after.state target ≠ .abandoned

theorem Joins.refl (target : CellId) (store : Store) : Joins target [] store store where
  cells := rfl
  slots := rfl
  channels := rfl
  other := by
    intro cell _
    rw [joining_nil, CellState.joinedBy_nil]
  unsettled := fun found => found
  alive := fun kept => kept

theorem Joins.trans {target : CellId} {first second : List (CellId × Continuation)}
    {before between after : Store} (earlier : Joins target first before between)
    (later : Joins target second between after) : Joins target (first ++ second) before after where
  cells := later.cells.trans earlier.cells
  slots := later.slots.trans earlier.slots
  channels := later.channels.trans earlier.channels
  other := by
    intro cell different
    rw [later.other different, earlier.other different, joining_append,
      CellState.joinedBy_append]
  unsettled := fun found => earlier.unsettled (later.unsettled found)
  alive := fun kept => later.alive (earlier.alive kept)

/-- A target that has settled keeps its outcome or another. -/
theorem Joins.settled_target {target : CellId} {added : List (CellId × Continuation)}
    {before after : Store} (joins : Joins target added before after)
    (settled : (before.outcome? target).isSome = true) :
    (after.outcome? target).isSome = true := by
  rcases Option.isSome_iff_exists.mp settled with ⟨outcome, known⟩
  have found := outcome?_eq_some.mp known
  cases now : after.state target with
  | settled other => simp only [outcome?, now, Option.isSome_some]
  | pending continuations =>
      rw [joins.unsettled now] at found
      cases found
  | abandoned => exact absurd now (joins.alive (by simp [found]))

/-- An input that is pending is linked. -/
theorem joins_pending (store : Store) {target input : CellId} (different : input ≠ target)
    (link : Continuation) :
    Joins target [(input, link)] store ((store.hold target).register input link) where
  cells := by rw [length_register, length_hold]
  slots := slots_register _ _ _
  channels := channels_register _ _ _
  other := by
    intro cell _
    rw [state_register_joinedBy, state_hold]
  unsettled := by
    intro continuations found
    rw [state_register_of_ne _ (Ne.symm different), state_hold] at found
    exact found
  alive := by
    intro kept
    rw [state_register_of_ne _ (Ne.symm different), state_hold]
    exact kept

/-- Settles a cell if there is something to settle it with and it is pending. -/
def settleWith (store : Store) (target : CellId) (settling : Option (Outcome Value)) : Store :=
  match settling with
  | none => store
  | some outcome =>
    match store.settle? target outcome with
    | some (store, _) => store
    | none => store

theorem settleWith_of_pending {store : Store} {target : CellId}
    {continuations : List Continuation} (pending : store.state target = .pending continuations)
    (outcome : Outcome Value) :
    store.settleWith target (some outcome) = store.setState target (.settled outcome) := by
  have settles : store.settle? target outcome =
      some (store.setState target (.settled outcome), continuations) :=
    settle?_eq_some.mpr ⟨pending, rfl⟩
  simp only [settleWith, settles]

theorem settleWith_of_closed {store : Store} {target : CellId}
    (closed : ∀ continuations, store.state target ≠ .pending continuations)
    (settling : Option (Outcome Value)) : store.settleWith target settling = store := by
  cases settling with
  | none => rfl
  | some outcome => simp only [settleWith, settle?_eq_none.mpr closed]

theorem joins_settleWith (store : Store) (target : CellId) (settling : Option (Outcome Value)) :
    Joins target [] store (store.settleWith target settling) := by
  cases settling with
  | none => exact Joins.refl target store
  | some outcome =>
      cases found : store.state target with
      | settled other =>
          rw [settleWith_of_closed (by simp [found])]
          exact Joins.refl target store
      | abandoned =>
          rw [settleWith_of_closed (by simp [found])]
          exact Joins.refl target store
      | pending continuations =>
          have there : target < store.cells.length := there_of_pending found
          rw [settleWith_of_pending found]
          refine ⟨length_setState _ _ _, rfl, rfl, ?_, ?_, ?_⟩
          · intro cell different
            rw [joining_nil, CellState.joinedBy_nil]
            exact state_setState_of_ne store different _
          · intro others now
            rw [state_setState store there] at now
            cases now
          · intro _ gone
            rw [state_setState store there] at gone
            cases gone

/-- A target that is not abandoned settles with something or has settled before. -/
theorem settled_settleWith {store : Store} {target : CellId}
    (alive : store.state target ≠ .abandoned) (outcome : Outcome Value) :
    ((store.settleWith target (some outcome)).outcome? target).isSome = true := by
  cases found : store.state target with
  | settled other =>
      rw [settleWith_of_closed (by simp [found])]
      simp only [outcome?, found, Option.isSome_some]
  | abandoned => exact absurd found alive
  | pending continuations =>
      have there : target < store.cells.length := there_of_pending found
      rw [settleWith_of_pending found]
      simp only [outcome?, state_setState store there, Option.isSome_some]

/-- An input that has settled acts at once.  What it does concerns the target and the boards, and
it has nothing to be joined by. -/
theorem joins_settled {store between : Store} {target input : CellId} {outcome : Outcome Value}
    (settled : store.state input = .settled outcome) (kept : between.cells = store.cells)
    (slots : between.slots = store.slots) (channels : between.channels = store.channels)
    (link : Continuation) : Joins target [(input, link)] store between where
  cells := congrArg List.length kept
  slots := slots
  channels := channels
  other := by
    intro cell _
    rw [state_of_cells_eq kept]
    exact joinedBy_of_settled settled link
  unsettled := by
    intro continuations found
    rw [state_of_cells_eq kept] at found
    exact found
  alive := by
    intro alive
    rw [state_of_cells_eq kept]
    exact alive

/-- What an input that has settled does to a combined promise: it may enter something on the boards
and may have something to settle the target with. -/
structure Arrives (arrive : Store → Nat → Outcome Value → Store × Option (Outcome Value)) :
    Prop where
  cells : ∀ store place outcome, (arrive store place outcome).1.cells = store.cells
  slots : ∀ store place outcome, (arrive store place outcome).1.slots = store.slots
  channels : ∀ store place outcome, (arrive store place outcome).1.channels = store.channels

/-- Links one input. -/
def enroll (store : Store) (target : CellId)
    (arrive : Store → Nat → Outcome Value → Store × Option (Outcome Value))
    (link : Nat → Continuation) (place : Nat) (input : CellId) : Store :=
  match store.outcome? input with
  | none => (store.hold target).register input (link place)
  | some outcome =>
    (arrive store place outcome).1.settleWith target (arrive store place outcome).2

theorem enlist_cons (store : Store) (target : CellId)
    (arrive : Store → Nat → Outcome Value → Store × Option (Outcome Value))
    (link : Nat → Continuation) (place : Nat) (input : CellId) (rest : List CellId) :
    store.enlist target arrive link place (input :: rest) =
      (store.enroll target arrive link place input).enlist target arrive link (place + 1) rest := by
  cases found : store.outcome? input with
  | none => simp only [enlist, enroll, found]
  | some outcome =>
      simp only [enlist, enroll, found]
      rfl

theorem joins_enroll {target : CellId}
    {arrive : Store → Nat → Outcome Value → Store × Option (Outcome Value)}
    (arrives : Arrives arrive) (link : Nat → Continuation) {input : CellId}
    (different : input ≠ target) (store : Store) (place : Nat) :
    Joins target [(input, link place)] store (store.enroll target arrive link place input) := by
  unfold enroll
  cases found : store.outcome? input with
  | none => exact joins_pending store different (link place)
  | some outcome =>
      have arrived : Joins target [(input, link place)] store (arrive store place outcome).1 :=
        joins_settled (outcome?_eq_some.mp found) (arrives.cells _ _ _) (arrives.slots _ _ _)
          (arrives.channels _ _ _) (link place)
      exact arrived.trans (joins_settleWith _ target _)

/-- Linking the inputs of a combined promise. -/
theorem joins_enlist {target : CellId}
    {arrive : Store → Nat → Outcome Value → Store × Option (Outcome Value)}
    (arrives : Arrives arrive) (link : Nat → Continuation) (inputs : List CellId)
    (apart : ∀ input ∈ inputs, input ≠ target) (store : Store) (place : Nat) :
    Joins target (enlisted link place inputs) store
      (store.enlist target arrive link place inputs) := by
  induction inputs generalizing store place with
  | nil => exact Joins.refl target store
  | cons input rest inductionHypothesis =>
      rw [enlist_cons]
      exact (joins_enroll arrives link (apart input List.mem_cons_self) store place).trans
        (inductionHypothesis (fun other member => apart other (List.mem_cons_of_mem _ member)) _ _)

/-- A combined promise is a new cell, and the continuations that link its inputs to it are
registered. -/
structure Combines (added : List (CellId × Continuation)) (store : Store)
    (combined : Store × CellId) : Prop where
  grows : Grows added store combined.1
  target : combined.2 = store.cells.length
  cells : combined.1.cells.length = store.cells.length + 1

theorem Joins.combines {store after : Store} {added : List (CellId × Continuation)} (linked : Store)
    (cells : linked.cells = (store.addCell (.pending [])).1.cells)
    (slots : linked.slots = store.slots) (channels : linked.channels = store.channels)
    (joins : Joins store.cells.length added linked after)
    (unheard : ∀ {cell continuation}, (cell, continuation) ∈ added →
      continuation.listens = false) : Combines added store (after, store.cells.length) := by
  have length : after.cells.length = store.cells.length + 1 := by
    rw [joins.cells, cells, length_addCell]
  refine ⟨Grows.afterNewCell length ?_ ?_ (joins.slots.trans slots)
    (joins.channels.trans channels) unheard, rfl, length⟩
  · intro cell old
    rw [joins.other (Nat.ne_of_lt old), state_of_cells_eq cells, state_addCell_old store _ old]
  · intro continuations found
    have before := joins.unsettled found
    rw [state_of_cells_eq cells, state_addCell_new] at before
    cases before
    rfl

/-- A combined promise without inputs. -/
theorem combines_addCell (store : Store) (outcome : Outcome Value) :
    Combines [] store (store.addCell (.settled outcome)) where
  grows := grows_addCell store fun _ same => CellState.noConfusion same
  target := rfl
  cells := length_addCell store _

theorem mem_enlisted {link : Nat → Continuation} {place : Nat} {inputs : List CellId}
    {cell : CellId} {continuation : Continuation}
    (member : (cell, continuation) ∈ enlisted link place inputs) :
    cell ∈ inputs ∧ ∃ place, continuation = link place := by
  induction inputs generalizing place with
  | nil => cases member
  | cons input rest inductionHypothesis =>
      rcases List.mem_cons.mp member with first | later
      · cases first
        exact ⟨List.mem_cons_self, place, rfl⟩
      · rcases inductionHypothesis later with ⟨there, known⟩
        exact ⟨List.mem_cons_of_mem _ there, known⟩

theorem arrives_race :
    Arrives fun store place outcome => (store, some (raceOutcome place outcome)) :=
  ⟨fun _ _ _ => rfl, fun _ _ _ => rfl, fun _ _ _ => rfl⟩

theorem gatherOutcome_keeps (store : Store) (board : BoardId) (place : Nat)
    (outcome : Outcome Value) :
    (store.gatherOutcome board place outcome).1.cells = store.cells ∧
      (store.gatherOutcome board place outcome).1.slots = store.slots ∧
      (store.gatherOutcome board place outcome).1.channels = store.channels := by
  cases outcome with
  | error failure => exact ⟨rfl, rfl, rfl⟩
  | ok value =>
      simp only [gatherOutcome, enter]
      split
      · exact ⟨rfl, rfl, rfl⟩
      · split <;> exact ⟨rfl, rfl, rfl⟩

theorem arrives_gather (board : BoardId) :
    Arrives fun store place outcome => store.gatherOutcome board place outcome where
  cells := fun store place outcome => (gatherOutcome_keeps store board place outcome).1
  slots := fun store place outcome => (gatherOutcome_keeps store board place outcome).2.1
  channels := fun store place outcome => (gatherOutcome_keeps store board place outcome).2.2

theorem combines_whenAll (store : Store) (inputs : List CellId)
    (there : ∀ input ∈ inputs, input < store.cells.length) :
    Combines (enlisted (.gather store.cells.length store.boards.length ·) 0 inputs) store
      (store.whenAll inputs) := by
  unfold whenAll
  cases inputs with
  | nil => exact combines_addCell store _
  | cons input rest =>
      refine Joins.combines ((store.addCell (.pending [])).1.addBoard (input :: rest).length).1
        rfl rfl rfl ?_ ?_
      · exact joins_enlist (arrives_gather _) _ _
          (fun input member => Nat.ne_of_lt (there input member)) _ 0
      · intro cell continuation member
        rcases (mem_enlisted member).2 with ⟨place, rfl⟩
        rfl

theorem combines_whenAny (store : Store) (inputs : List CellId)
    (there : ∀ input ∈ inputs, input < store.cells.length) :
    Combines (enlisted (.race store.cells.length ·) 0 inputs) store (store.whenAny inputs) := by
  unfold whenAny
  cases inputs with
  | nil => exact combines_addCell store _
  | cons input rest =>
      refine Joins.combines (store.addCell (.pending [])).1 rfl rfl rfl ?_ ?_
      · exact joins_enlist arrives_race _ _
          (fun input member => Nat.ne_of_lt (there input member)) _ 0
      · intro cell continuation member
        rcases (mem_enlisted member).2 with ⟨place, rfl⟩
        rfl

/-! ## Inputs that have settled -/

/-- What a continuation that takes no steps of its own has done with an outcome.  A listener has
heard it.  The target of a link has settled, or at least the value is on the board. -/
def Heeds (store : Store) (outcome : Outcome Value) : Continuation → Prop
  | .race target _ => (store.outcome? target).isSome = true
  | .gather target board place =>
    (store.outcome? target).isSome = true ∨ ∃ value found, outcome = .ok value ∧
      store.boards[board]? = some found ∧ found.values[place]? = some (some value)
  | other => store.heard? other = some outcome

theorem LetGo.heeds {before after : Store} (released : LetGo before after)
    {outcome : Outcome Value} {continuation : Continuation}
    (heeds : before.Heeds outcome continuation) : after.Heeds outcome continuation := by
  have settled : ∀ {target}, (before.outcome? target).isSome = true →
      (after.outcome? target).isSome = true := by
    intro target known
    rcases Option.isSome_iff_exists.mp known with ⟨other, found⟩
    rw [outcome?_eq_some.mpr (released.settled.mpr (outcome?_eq_some.mp found))]
    rfl
  cases continuation with
  | race target place => exact settled heeds
  | gather target board place =>
      rcases heeds with known | entered
      · exact Or.inl (settled known)
      · right
        rw [released.boards]
        exact entered
  | fill slot => exact (released.heard?_eq (.fill slot)).trans heeds
  | send channel => exact (released.heard?_eq (.send channel)).trans heeds
  | observe label body => cases heeds
  | link target mapping policy => cases heeds

section Telling

variable {target : CellId} {arrive : Store → Nat → Outcome Value → Store × Option (Outcome Value)}
  {link : Nat → Continuation} (Ready : Store → Prop) (Told : Nat → Outcome Value → Store → Prop)

/-- What an input has done is not undone by the inputs after it. -/
theorem told_enlist
    (ready : ∀ store input place, Ready store → input ≠ target →
      Ready (store.enroll target arrive link place input))
    (keeps : ∀ store input place other outcome, Ready store → input ≠ target → other < place →
      Told other outcome store → Told other outcome (store.enroll target arrive link place input))
    (inputs : List CellId) (apart : ∀ input ∈ inputs, input ≠ target) (store : Store)
    (place : Nat) (before : Ready store) {other : Nat} {outcome : Outcome Value}
    (earlier : other < place) (told : Told other outcome store) :
    Told other outcome (store.enlist target arrive link place inputs) := by
  induction inputs generalizing store place with
  | nil => exact told
  | cons input rest inductionHypothesis =>
      have different := apart input List.mem_cons_self
      rw [enlist_cons]
      exact inductionHypothesis (fun other member => apart other (List.mem_cons_of_mem _ member)) _ _
        (ready store input place before different) (Nat.lt_succ_of_lt earlier)
        (keeps store input place other outcome before different earlier told)

/-- Every input that has settled does what its continuation would have done. -/
theorem enlist_tells (arrives : Arrives arrive) {bound : Nat}
    (ready : ∀ store input place, Ready store → input ≠ target →
      Ready (store.enroll target arrive link place input))
    (tells : ∀ store input place outcome, Ready store → input ≠ target → place < bound →
      store.state input = .settled outcome →
      Told place outcome (store.enroll target arrive link place input))
    (keeps : ∀ store input place other outcome, Ready store → input ≠ target → other < place →
      Told other outcome store → Told other outcome (store.enroll target arrive link place input))
    (inputs : List CellId) (apart : ∀ input ∈ inputs, input ≠ target) (store : Store)
    (place : Nat) (before : Ready store) (fits : place + inputs.length ≤ bound)
    {input : CellId} {continuation : Continuation} {outcome : Outcome Value}
    (member : (input, continuation) ∈ enlisted link place inputs)
    (settled : store.state input = .settled outcome) :
    ∃ other, continuation = link other ∧
      Told other outcome (store.enlist target arrive link place inputs) := by
  induction inputs generalizing store place with
  | nil => cases member
  | cons first rest inductionHypothesis =>
      have different := apart first List.mem_cons_self
      have apart' : ∀ input ∈ rest, input ≠ target :=
        fun other member => apart other (List.mem_cons_of_mem _ member)
      have next := ready store first place before different
      rw [List.length_cons] at fits
      rw [enlist_cons]
      rcases List.mem_cons.mp member with here | later
      · cases here
        refine ⟨place, rfl, ?_⟩
        exact told_enlist Ready Told ready keeps rest apart' _ _ next (Nat.lt_succ_self place)
          (tells store input place outcome before different (by omega) settled)
      · have still : (store.enroll target arrive link place first).state input =
            .settled outcome := by
          have other := apart' input (mem_enlisted later).1
          rw [(joins_enroll arrives link different store place).other other, settled]
          rfl
        exact inductionHypothesis apart' _ _ next (by omega) later still

end Telling

theorem enroll_of_settled {store : Store} {target input : CellId} {outcome : Outcome Value}
    (settled : store.state input = .settled outcome)
    (arrive : Store → Nat → Outcome Value → Store × Option (Outcome Value))
    (link : Nat → Continuation) (place : Nat) :
    store.enroll target arrive link place input =
      (arrive store place outcome).1.settleWith target (arrive store place outcome).2 := by
  simp only [enroll, outcome?_eq_some.mpr settled]

theorem heeds_whenAny (store : Store) {inputs : List CellId}
    (there : ∀ input ∈ inputs, input < store.cells.length) {input : CellId}
    {continuation : Continuation} {outcome : Outcome Value}
    (member : (input, continuation) ∈ enlisted (.race store.cells.length ·) 0 inputs)
    (settled : store.state input = .settled outcome) :
    (store.whenAny inputs).1.Heeds outcome continuation := by
  unfold whenAny
  cases inputs with
  | nil => cases member
  | cons first rest =>
      have apart : ∀ input ∈ first :: rest, input ≠ store.cells.length :=
        fun input member => Nat.ne_of_lt (there input member)
      have existing := there input (mem_enlisted member).1
      rcases enlist_tells (fun store' => store'.state store.cells.length ≠ .abandoned)
        (fun _ _ store' => (store'.outcome? store.cells.length).isSome = true) arrives_race
        (fun store' input place alive different =>
          (joins_enroll arrives_race (.race store.cells.length ·) different store' place).alive alive)
        (fun store' input place outcome alive different _ settled =>
          (enroll_of_settled settled _ _ place) ▸ settled_settleWith alive _)
        (fun store' input place other outcome alive different _ told =>
          (joins_enroll arrives_race (.race store.cells.length ·) different store'
            place).settled_target told)
        (first :: rest) apart (store.addCell (.pending [])).1 0
        (by simp [state_addCell_new]) (Nat.le_refl _) member
        (by rw [state_addCell_old store _ existing]; exact settled) with ⟨place, rfl, told⟩
      exact told

theorem boards_register (store : Store) (cell : CellId) (continuation : Continuation) :
    (store.register cell continuation).boards = store.boards := by
  unfold register
  split <;> rfl

/-- The board after an entry that does not complete it. -/
def entering (board : Board) (place : Nat) (value : Value) : Board :=
  ⟨board.total, board.values.set place (some value), board.entered + 1⟩

/-- An input that has settled completes the combined promise or enters its value on the board. -/
theorem enroll_gather {store : Store} {target input : CellId} {board : BoardId}
    {outcome : Outcome Value} (alive : store.state target ≠ .abandoned)
    (settled : store.state input = .settled outcome) (link : Nat → Continuation) (place : Nat) :
    let enrolled := store.enroll target
      (fun store place outcome => store.gatherOutcome board place outcome) link place input
    (enrolled.outcome? target).isSome = true ∨
      (∃ value found, outcome = .ok value ∧ store.boards[board]? = some found ∧
        enrolled.boards = store.boards.set board (entering found place value)) ∨
      (store.boards[board]? = none ∧ enrolled.boards = store.boards) := by
  intro enrolled
  have same : enrolled = _ := enroll_of_settled settled _ link place
  rw [same]
  cases outcome with
  | error failure => exact Or.inl (settled_settleWith alive (.error failure))
  | ok value =>
      cases known : store.boards[board]? with
      | none =>
          refine Or.inr (Or.inr ⟨rfl, ?_⟩)
          simp only [gatherOutcome, enter, known]
          rfl
      | some found =>
          by_cases complete : found.entered + 1 = found.total
          · left
            simp only [gatherOutcome, enter, known, if_pos complete, Option.map_some]
            apply settled_settleWith
            exact alive
          · refine Or.inr (Or.inl ⟨value, found, rfl, rfl, ?_⟩)
            simp only [gatherOutcome, enter, known, if_neg complete, Option.map_none]
            rfl

/-- A combined promise that may still gather: its cell is there, and the board has all places or is
not needed any more. -/
def Gathering (target : CellId) (board : BoardId) (total : Nat) (store : Store) : Prop :=
  store.state target ≠ .abandoned ∧
    ((store.outcome? target).isSome = true ∨
      ∃ found, store.boards[board]? = some found ∧ found.values.length = total)

theorem enroll_of_unsettled {store : Store} {input : CellId}
    (unsettled : store.outcome? input = none) (target : CellId)
    (arrive : Store → Nat → Outcome Value → Store × Option (Outcome Value))
    (link : Nat → Continuation) (place : Nat) :
    (store.enroll target arrive link place input).boards = store.boards := by
  simp only [enroll, unsettled]
  exact boards_register _ input (link place)

theorem getElem?_set_board {boards : List Board} {board : BoardId} {found : Board}
    (known : boards[board]? = some found) (entered : Board) :
    (boards.set board entered)[board]? = some entered :=
  List.getElem?_set_self (List.getElem?_eq_some_iff.mp known).1

theorem gathering_enroll {target : CellId} {board : BoardId} {total : Nat} {store : Store}
    (gathering : Gathering target board total store) (link : Nat → Continuation) {input : CellId}
    (different : input ≠ target) (place : Nat) :
    Gathering target board total (store.enroll target
      (fun store place outcome => store.gatherOutcome board place outcome) link place input) := by
  have joins := joins_enroll (arrives_gather board) link different store place
  refine ⟨joins.alive gathering.1, ?_⟩
  rcases gathering.2 with settled | ⟨found, known, length⟩
  · exact Or.inl (joins.settled_target settled)
  · cases outcome : store.outcome? input with
    | none =>
        right
        rw [enroll_of_unsettled outcome]
        exact ⟨found, known, length⟩
    | some outcome =>
        rcases enroll_gather gathering.1 (outcome?_eq_some.mp outcome) link place with
          complete | ⟨value, other, _, known', boards⟩ | ⟨missing, _⟩
        · exact Or.inl complete
        · rw [known] at known'
          cases known'
          right
          rw [boards]
          refine ⟨entering found place value, getElem?_set_board known _, ?_⟩
          exact List.length_set.trans length
        · rw [known] at missing
          cases missing

theorem heeds_enroll {target : CellId} {board : BoardId} {total : Nat} {store : Store}
    (gathering : Gathering target board total store) (link : Nat → Continuation) {input : CellId}
    (different : input ≠ target) {place : Nat} (fits : place < total) {outcome : Outcome Value}
    (settled : store.state input = .settled outcome) :
    (store.enroll target (fun store place outcome => store.gatherOutcome board place outcome) link
      place input).Heeds outcome (.gather target board place) := by
  have joins := joins_enroll (arrives_gather board) link different store place
  rcases gathering.2 with before | ⟨found, known, length⟩
  · exact Or.inl (joins.settled_target before)
  · rcases enroll_gather gathering.1 settled link place with
      complete | ⟨value, other, same, known', boards⟩ | ⟨missing, _⟩
    · exact Or.inl complete
    · rw [known] at known'
      cases known'
      refine Or.inr ⟨value, entering found place value, same, ?_, ?_⟩
      · rw [boards]
        exact getElem?_set_board known _
      · exact List.getElem?_set_self (length ▸ fits)
    · rw [known] at missing
      cases missing

theorem heeds_enroll_earlier {target : CellId} {board : BoardId} {total : Nat} {store : Store}
    (gathering : Gathering target board total store) (link : Nat → Continuation) {input : CellId}
    (different : input ≠ target) {place other : Nat} (earlier : other < place)
    {outcome : Outcome Value} (heeds : store.Heeds outcome (.gather target board other)) :
    (store.enroll target (fun store place outcome => store.gatherOutcome board place outcome) link
      place input).Heeds outcome (.gather target board other) := by
  have joins := joins_enroll (arrives_gather board) link different store place
  rcases heeds with before | ⟨value, found, same, known, entered⟩
  · exact Or.inl (joins.settled_target before)
  · cases now : store.outcome? input with
    | none =>
        refine Or.inr ⟨value, found, same, ?_, entered⟩
        rw [enroll_of_unsettled now]
        exact known
    | some another =>
        rcases enroll_gather gathering.1 (outcome?_eq_some.mp now) link place with
          complete | ⟨value', found', _, known', boards⟩ | ⟨missing, _⟩
        · exact Or.inl complete
        · rw [known] at known'
          cases known'
          refine Or.inr ⟨value, entering found place value', same, ?_, ?_⟩
          · rw [boards]
            exact getElem?_set_board known _
          · exact (List.getElem?_set_ne (Nat.ne_of_gt earlier)).trans entered
        · rw [known] at missing
          cases missing

theorem heeds_whenAll (store : Store) {inputs : List CellId}
    (there : ∀ input ∈ inputs, input < store.cells.length) {input : CellId}
    {continuation : Continuation} {outcome : Outcome Value}
    (member : (input, continuation) ∈
      enlisted (.gather store.cells.length store.boards.length ·) 0 inputs)
    (settled : store.state input = .settled outcome) :
    (store.whenAll inputs).1.Heeds outcome continuation := by
  unfold whenAll
  cases inputs with
  | nil => cases member
  | cons first rest =>
      have apart : ∀ input ∈ first :: rest, input ≠ store.cells.length :=
        fun input member => Nat.ne_of_lt (there input member)
      have existing := there input (mem_enlisted member).1
      have gathering : Gathering store.cells.length store.boards.length (first :: rest).length
          ((store.addCell (.pending [])).1.addBoard (first :: rest).length).1 := by
        constructor
        · have pending : ((store.addCell (.pending [])).1.addBoard
              (first :: rest).length).1.state store.cells.length = .pending [] :=
            state_addCell_new store (.pending [])
          intro abandoned
          rw [pending] at abandoned
          cases abandoned
        · right
          refine ⟨_, List.getElem?_concat_length, ?_⟩
          exact List.length_replicate
      rcases enlist_tells
        (Gathering store.cells.length store.boards.length (first :: rest).length)
        (fun place outcome store' =>
          store'.Heeds outcome (.gather store.cells.length store.boards.length place))
        (arrives_gather store.boards.length)
        (fun store' input place before different => gathering_enroll before _ different place)
        (fun store' input place outcome before different fits settled =>
          heeds_enroll before (.gather store.cells.length store.boards.length ·) different fits
            settled)
        (fun store' input place other outcome before different earlier told =>
          heeds_enroll_earlier before (.gather store.cells.length store.boards.length ·) different
            earlier told)
        (first :: rest) apart _ 0 gathering (Nat.le_of_eq (Nat.zero_add _)) member
        ((state_addCell_old store (.pending []) existing).trans settled) with ⟨place, rfl, told⟩
      exact told

end Store
end Promise
end PromiseHttp
