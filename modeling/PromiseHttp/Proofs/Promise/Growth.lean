import PromiseHttp.Proofs.Promise.Cells

namespace PromiseHttp
namespace Promise
namespace Store

/-!
# How the cells grow

An action may register continuations, make new cells, slots and channels, and let go of cells.  It
never settles a cell that was there before, because settling is a step of its own.  So what an action
does to the cells is told by the continuations that it registers, each with the cell that it is
registered on.

Slots and channels serve the same purpose: somebody outside waits there for the outcome of a cell.
They are told apart by the continuation that brings the outcome to them.
-/

/-! ## Listeners -/

end Store

/-- Whether a continuation only brings the outcome to somebody who listens, at a slot or at the end
of a channel. -/
def Continuation.listens : Continuation → Bool
  | .fill _ => true
  | .send _ => true
  | _ => false

namespace Store

/-- What the listener of a continuation has heard. -/
def heard? (store : Store) : Continuation → Option (Outcome Value)
  | .fill slot => store.slot? slot
  | .send channel =>
    match store.channel channel with
    | .delivered outcome => some outcome
    | _ => none
  | _ => none

/-- Whether the slot or the channel of a continuation is there. -/
def Offers (store : Store) : Continuation → Prop
  | .fill slot => slot < store.slots.length
  | .send channel => channel < store.channels.length
  | _ => True

theorem heard?_send_eq_some {store : Store} {channel : ChannelId} {outcome : Outcome Value} :
    store.heard? (.send channel) = some outcome ↔ store.channel channel = .delivered outcome := by
  simp only [heard?]
  cases store.channel channel with
  | waiting => simp
  | delivered other => simp
  | closed => simp

/-- What is offered and heard depends on the slots and the channels alone. -/
theorem offers_of_eq {first second : Store} (slots : first.slots = second.slots)
    (channels : first.channels = second.channels) (continuation : Continuation) :
    first.Offers continuation ↔ second.Offers continuation := by
  cases continuation <;> simp only [Offers, slots, channels]

theorem heard?_of_eq {first second : Store} (slots : first.slots = second.slots)
    (channels : first.channels = second.channels) (continuation : Continuation) :
    first.heard? continuation = second.heard? continuation := by
  cases continuation <;> simp only [heard?, slot?, channel, slots, channels]

/-- Nobody hears anything when cells are let go of. -/
theorem LetGo.heard?_eq {before after : Store} (released : LetGo before after)
    (continuation : Continuation) : after.heard? continuation = before.heard? continuation := by
  cases continuation with
  | fill slot => simp only [heard?, slot?, released.slots]
  | send channel =>
      rcases released.channel channel with kept | ⟨waiting, closed⟩
      · simp only [heard?, kept]
      · simp only [heard?, waiting, closed]
  | observe label body => rfl
  | link target mapping policy => rfl
  | gather target board place => rfl
  | race target place => rfl

theorem LetGo.offers {before after : Store} (released : LetGo before after)
    (continuation : Continuation) : after.Offers continuation ↔ before.Offers continuation := by
  cases continuation <;> simp only [Offers, released.slots, released.channels]

/-! ## Joining -/

/-- The continuations among those to be registered that concern a cell. -/
def joining (cell : CellId) (added : List (CellId × Continuation)) : List Continuation :=
  added.filterMap fun entry => if entry.1 = cell then some entry.2 else none

@[simp]
theorem joining_nil (cell : CellId) : joining cell [] = [] := rfl

theorem joining_eq_nil {cell : CellId} {added : List (CellId × Continuation)}
    (elsewhere : ∀ entry ∈ added, entry.1 ≠ cell) : joining cell added = [] := by
  apply List.filterMap_eq_nil_iff.mpr
  intro entry member
  rw [if_neg (elsewhere entry member)]

theorem joining_cons_self (cell : CellId) (continuation : Continuation)
    (added : List (CellId × Continuation)) :
    joining cell ((cell, continuation) :: added) = continuation :: joining cell added := by
  simp only [joining, List.filterMap_cons, if_true]

theorem joining_cons_of_ne {cell other : CellId} (different : other ≠ cell)
    (continuation : Continuation) (added : List (CellId × Continuation)) :
    joining cell ((other, continuation) :: added) = joining cell added := by
  simp only [joining, List.filterMap_cons, if_neg different]

/-- What registrations one after another make of the state of a cell. -/
def CellState.joinedBy (added : List Continuation) : CellState → CellState
  | .pending continuations => .pending (continuations ++ added)
  | other => other

@[simp]
theorem CellState.joinedBy_nil (state : CellState) : CellState.joinedBy [] state = state := by
  cases state with
  | pending continuations => simp only [CellState.joinedBy, List.append_nil]
  | settled outcome => rfl
  | abandoned => rfl

theorem CellState.joinedBy_cons (continuation : Continuation) (added : List Continuation)
    (state : CellState) :
    CellState.joinedBy (continuation :: added) state =
      CellState.joinedBy added (CellState.joined continuation state) := by
  cases state with
  | pending continuations =>
      simp only [CellState.joinedBy, CellState.joined, List.append_assoc, List.singleton_append]
  | settled outcome => rfl
  | abandoned => rfl

/-! ## Growing -/

/-- What becomes of the cells while some continuations are registered.  Those that were there before
keep what they have, except that pending cells may be joined or abandoned, and new ones have no
continuations. -/
structure CellsGrow (added : List (CellId × Continuation)) (before after : Store) : Prop where
  cells : before.cells.length ≤ after.cells.length
  state : ∀ {cell}, cell < before.cells.length →
    after.state cell = CellState.joinedBy (joining cell added) (before.state cell) ∨
      (∃ continuations, before.state cell = .pending continuations) ∧
        after.state cell = .abandoned
  fresh : ∀ {cell continuations}, before.cells.length ≤ cell →
    after.state cell = .pending continuations → continuations = []

/-- The same with the listeners.  Those that were there before hear nothing new, and a new listener
has heard the outcome of its cell if the cell has settled. -/
structure Grows (added : List (CellId × Continuation)) (before after : Store) : Prop extends
    CellsGrow added before after where
  offers : ∀ {continuation}, before.Offers continuation → after.Offers continuation
  heard : ∀ {continuation}, before.Offers continuation →
    after.heard? continuation = before.heard? continuation
  attached : ∀ {cell continuation}, (cell, continuation) ∈ added → continuation.listens = true →
    ¬before.Offers continuation ∧ after.Offers continuation ∧
      after.heard? continuation = before.outcome? cell ∧
      ∀ other, (other, continuation) ∈ added → other = cell

theorem CellsGrow.pending {added : List (CellId × Continuation)} {before after : Store}
    (grows : CellsGrow added before after) {cell : CellId} {continuations : List Continuation}
    (found : before.state cell = .pending continuations) :
    after.state cell = .pending (continuations ++ joining cell added) ∨
      after.state cell = .abandoned := by
  have there : cell < before.cells.length := there_of_pending found
  rcases grows.state there with joined | ⟨_, gone⟩
  · left
    rw [joined, found]
    rfl
  · exact Or.inr gone

theorem CellsGrow.settled {added : List (CellId × Continuation)} {before after : Store}
    (grows : CellsGrow added before after) {cell : CellId} {outcome : Outcome Value}
    (found : before.state cell = .settled outcome) : after.state cell = .settled outcome := by
  have there : cell < before.cells.length := there_of_settled found
  rcases grows.state there with joined | ⟨⟨continuations, pending⟩, _⟩
  · rw [joined, found]
    rfl
  · rw [found] at pending
    cases pending

theorem CellsGrow.abandoned {added : List (CellId × Continuation)} {before after : Store}
    (grows : CellsGrow added before after) {cell : CellId} (there : cell < before.cells.length)
    (found : before.state cell = .abandoned) : after.state cell = .abandoned := by
  rcases grows.state there with joined | ⟨_, gone⟩
  · rw [joined, found]
    rfl
  · exact gone

/-- Nothing grows while the cells stay as they are. -/
theorem CellsGrow.ofCellsEq {before after : Store} (same : after.cells = before.cells) :
    CellsGrow [] before after where
  cells := Nat.le_of_eq (congrArg List.length same).symm
  state := by
    intro cell _
    left
    rw [state_of_cells_eq same, joining_nil, CellState.joinedBy_nil]
  fresh := by
    intro cell continuations beyond found
    rw [state_of_cells_eq same, state_of_none (List.getElem?_eq_none beyond)] at found
    cases found

/-- Letting go registers nothing. -/
theorem LetGo.grows {before after : Store} (released : LetGo before after) :
    Grows [] before after where
  cells := Nat.le_of_eq released.cells.symm
  state := by
    intro cell _
    rcases released.state cell with kept | abandoned
    · left
      rw [kept, joining_nil, CellState.joinedBy_nil]
    · exact Or.inr abandoned
  fresh := by
    intro cell continuations beyond found
    have there : cell < after.cells.length := there_of_pending found
    rw [released.cells] at there
    exact absurd there (Nat.not_lt_of_le beyond)
  offers := (released.offers _).mpr
  heard := fun _ => released.heard?_eq _
  attached := by
    intro cell continuation member
    cases member

theorem Grows.refl (store : Store) : Grows [] store store := (LetGo.refl store).grows

/-- Cells may be let go of when everything has been registered. -/
theorem Grows.letGo {added : List (CellId × Continuation)} {before between after : Store}
    (grows : Grows added before between) (released : LetGo between after) :
    Grows added before after where
  cells := released.cells ▸ grows.cells
  state := by
    intro cell there
    rcases released.state cell with kept | ⟨⟨continuations, pending⟩, gone⟩
    · rw [kept]
      exact grows.state there
    · refine Or.inr ⟨?_, gone⟩
      cases found : before.state cell with
      | pending earlier => exact ⟨earlier, rfl⟩
      | settled outcome =>
          rw [grows.settled found] at pending
          cases pending
      | abandoned =>
          rw [grows.abandoned there found] at pending
          cases pending
  fresh := by
    intro cell continuations beyond found
    rcases released.state cell with kept | ⟨_, gone⟩
    · rw [kept] at found
      exact grows.fresh beyond found
    · rw [gone] at found
      cases found
  offers := fun there => (released.offers _).mpr (grows.offers there)
  heard := fun there => (released.heard?_eq _).trans (grows.heard there)
  attached := by
    intro cell continuation member listens
    rcases grows.attached member listens with ⟨new, there, content, alone⟩
    exact ⟨new, (released.offers _).mpr there, (released.heard?_eq _).trans content, alone⟩

/-- Without listeners it is enough to know the states. -/
theorem Grows.ofStates {added : List (CellId × Continuation)} {before after : Store}
    (cells : before.cells.length ≤ after.cells.length)
    (state : ∀ {cell}, cell < before.cells.length →
      after.state cell = CellState.joinedBy (joining cell added) (before.state cell))
    (fresh : ∀ {cell continuations}, before.cells.length ≤ cell →
      after.state cell = .pending continuations → continuations = [])
    (slots : after.slots = before.slots) (channels : after.channels = before.channels)
    (unheard : ∀ {cell continuation}, (cell, continuation) ∈ added →
      continuation.listens = false) : Grows added before after where
  cells := cells
  state := fun there => Or.inl (state there)
  fresh := fresh
  offers := fun there => (offers_of_eq slots channels _).mpr there
  heard := fun _ => heard?_of_eq slots channels _
  attached := by
    intro cell continuation member listens
    rw [unheard member] at listens
    cases listens

end Store
end Promise
end PromiseHttp
