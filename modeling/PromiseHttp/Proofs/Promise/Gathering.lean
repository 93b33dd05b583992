import PromiseHttp.Proofs.Promise.Combining

namespace PromiseHttp
namespace Promise

/-!
# Gathering all values

A promise of all values has a board with a place for each input.  What arrives from the inputs, one
after another, fills the board or decides the promise.  A failure decides it, unless it was decided
before.  A value goes to the place of its input.  The board counts the values, and when the count
reaches the number of places all of them are filled: then the values are taken off the board and the
promise is decided with their list.

Nothing here depends on when something arrives, as long as every input arrives at most once.
-/

/-- An outcome that arrives from an input of a combined promise, with the place of the input. -/
abbrev Arrival := Nat × Outcome Value

/-- The value that has arrived for a place. -/
def valueAt (arrivals : List Arrival) (place : Nat) : Option Value :=
  arrivals.findSome? fun arrival => if arrival.1 = place then arrival.2.toOption else none

/-- The failure that arrived first. -/
def firstFailure (arrivals : List Arrival) : Option Failure :=
  arrivals.findSome? fun arrival =>
    match arrival.2 with
    | .error failure => some failure
    | .ok _ => none

/-! ## What has arrived -/

section Arriving

variable {arrivals : List Arrival} {place : Nat}

theorem mem_of_valueAt {value : Value} (found : valueAt arrivals place = some value) :
    (place, .ok value) ∈ arrivals := by
  rcases List.exists_of_findSome?_eq_some found with ⟨⟨other, outcome⟩, member, shows⟩
  by_cases same : other = place
  · subst same
    cases outcome with
    | ok other =>
        simp only [if_true, Except.toOption, Option.some.injEq] at shows
        subst shows
        exact member
    | error failure =>
        simp only [if_true, Except.toOption] at shows
        cases shows
  · simp only [if_neg same] at shows
    cases shows

/-- Where nothing arrives twice, the place shows what has arrived for it. -/
theorem valueAt_of_mem (distinct : (arrivals.map Prod.fst).Nodup) {outcome : Outcome Value}
    (member : (place, outcome) ∈ arrivals) : valueAt arrivals place = outcome.toOption := by
  induction arrivals with
  | nil => cases member
  | cons arrival rest inductionHypothesis =>
      rw [List.map_cons, List.nodup_cons] at distinct
      unfold valueAt
      rw [List.findSome?_cons]
      have elsewhere : ∀ other ∈ rest, other.1 = arrival.1 → False := by
        intro other there same
        exact distinct.1 (List.mem_map.mpr ⟨other, there, same⟩)
      rcases List.mem_cons.mp member with here | later
      · subst here
        cases outcome with
        | ok value => simp [Except.toOption]
        | error failure =>
            simp only [if_true, Except.toOption]
            apply List.findSome?_eq_none_iff.mpr
            intro other there
            exact if_neg fun same => elsewhere other there same
      · have different : arrival.1 ≠ place := fun same => elsewhere _ later same.symm
        simp only [if_neg different]
        exact inductionHypothesis distinct.2 later

theorem valueAt_eq_none (absent : place ∉ arrivals.map Prod.fst) :
    valueAt arrivals place = none := by
  cases found : valueAt arrivals place with
  | none => rfl
  | some value => exact absurd (List.mem_map.mpr ⟨_, mem_of_valueAt found, rfl⟩) absent

theorem valueAt_concat (arrivals : List Arrival) (arrival : Arrival) (place : Nat) :
    valueAt (arrivals ++ [arrival]) place =
      (valueAt arrivals place).or
        (if arrival.1 = place then arrival.2.toOption else none) := by
  unfold valueAt
  rw [List.findSome?_append, List.findSome?_singleton]

theorem firstFailure_concat (arrivals : List Arrival) (arrival : Arrival) :
    firstFailure (arrivals ++ [arrival]) =
      (firstFailure arrivals).or
        (match arrival.2 with
        | .error failure => some failure
        | .ok _ => none) := by
  unfold firstFailure
  rw [List.findSome?_append, List.findSome?_singleton]

theorem mem_of_firstFailure {failure : Failure} (found : firstFailure arrivals = some failure) :
    ∃ place, (place, .error failure) ∈ arrivals := by
  rcases List.exists_of_findSome?_eq_some found with ⟨⟨place, outcome⟩, member, shows⟩
  cases outcome with
  | ok value => cases shows
  | error other =>
      cases shows
      exact ⟨place, member⟩

theorem not_mem_of_firstFailure (unfailed : firstFailure arrivals = none) (failure : Failure) :
    (place, .error failure) ∉ arrivals := by
  intro member
  have nothing := List.findSome?_eq_none_iff.mp unfailed _ member
  cases nothing

end Arriving

/-! ## Progress -/

/-- How far a promise of all values has come: its board, and what it is decided with. -/
structure Progress where
  board : Board
  decision : Option (Outcome Value)

namespace Progress

/-- Nothing has arrived. -/
def start (total : Nat) : Progress := ⟨⟨total, List.replicate total none, 0⟩, none⟩

/-- Something arrives. -/
def receive (progress : Progress) (arrival : Arrival) : Progress :=
  match arrival.2 with
  | .error failure => ⟨progress.board, progress.decision.or (some (.error failure))⟩
  | .ok value =>
    if progress.board.entered + 1 = progress.board.total then
      ⟨⟨progress.board.total, [], progress.board.entered + 1⟩,
        progress.decision.or (some (.ok (.list
          ((progress.board.values.set arrival.1 (some value)).filterMap id))))⟩
    else ⟨Store.entering progress.board arrival.1 value, progress.decision⟩

/-- What has come of all arrivals. -/
def after (total : Nat) (arrivals : List Arrival) : Progress :=
  arrivals.foldl receive (start total)

theorem after_concat (total : Nat) (arrivals : List Arrival) (arrival : Arrival) :
    after total (arrivals ++ [arrival]) = (after total arrivals).receive arrival :=
  List.foldl_append

end Progress

/-- What a progress has to do with the arrivals.  While the board waits, it shows what has arrived and
counts it, and the promise is decided if a failure is among the arrivals.  When it is complete it is
empty, all values have arrived and no failure, and the promise is decided with the values. -/
inductive Collects (total : Nat) (arrivals : List Arrival) : Progress → Prop where
  | waiting {values : List (Option Value)} {entered : Nat} (few : entered < total)
      (length : values.length = total) (counts : entered = values.countP Option.isSome)
      (shows : ∀ place < total, values[place]? = some (valueAt arrivals place)) :
      Collects total arrivals ⟨⟨total, values, entered⟩, (firstFailure arrivals).map .error⟩
  | complete {values : List Value} (length : values.length = total)
      (shows : ∀ place < total, valueAt arrivals place = values[place]?)
      (unfailed : firstFailure arrivals = none) :
      Collects total arrivals ⟨⟨total, [], total⟩, some (.ok (.list values))⟩

theorem collects_start {total : Nat} (places : 0 < total) : Collects total [] (.start total) := by
  refine .waiting places List.length_replicate ?_ ?_
  · symm
    apply List.countP_eq_zero.mpr
    intro value member
    rw [List.eq_of_mem_replicate member]
    exact Bool.false_ne_true
  · intro place fits
    rw [List.getElem?_replicate, if_pos fits]
    rfl

/-- A list of which every entry is there. -/
theorem eq_map_some {α : Type} {entries : List (Option α)}
    (full : ∀ entry ∈ entries, entry.isSome = true) :
    entries = (entries.filterMap id).map some := by
  induction entries with
  | nil => rfl
  | cons entry rest inductionHypothesis =>
      have others := inductionHypothesis fun other member => full other (List.mem_cons_of_mem _ member)
      cases entry with
      | none => cases full none List.mem_cons_self
      | some value => exact congrArg (some value :: ·) others

section Receiving

variable {total : Nat} {arrivals : List Arrival} {place : Nat}

/-- A failure arrives. -/
theorem Collects.fail {values : List (Option Value)} {entered : Nat} (few : entered < total)
    (length : values.length = total) (counts : entered = values.countP Option.isSome)
    (shows : ∀ place < total, values[place]? = some (valueAt arrivals place))
    (place : Nat) (failure : Failure) :
    Collects total (arrivals ++ [(place, .error failure)])
      (Progress.receive ⟨⟨total, values, entered⟩, (firstFailure arrivals).map .error⟩
        (place, .error failure)) := by
  have decided : ((firstFailure arrivals).map (Except.error (α := Value))).or
      (some (.error failure)) =
      (firstFailure (arrivals ++ [(place, .error failure)])).map .error := by
    rw [firstFailure_concat]
    cases firstFailure arrivals <;> rfl
  unfold Progress.receive
  dsimp only
  rw [decided]
  refine .waiting few length counts ?_
  intro other fits
  rw [shows other fits, valueAt_concat]
  have nothing : (if place = other then (Except.error (α := Value) failure).toOption else none) =
      none := by
    split <;> rfl
  simp only [nothing, Option.or_none]

/-- A value arrives at a place that is still empty. -/
theorem shows_set {values : List (Option Value)} (length : values.length = total)
    (shows : ∀ other < total, values[other]? = some (valueAt arrivals other))
    (absent : place ∉ arrivals.map Prod.fst) (value : Value) :
    ∀ other < total,
      (values.set place (some value))[other]? =
        some (valueAt (arrivals ++ [(place, Except.ok value)]) other) := by
  intro other fits
  rw [List.getElem?_set, valueAt_concat]
  by_cases same : place = other
  · subst same
    rw [if_pos rfl, if_pos (length ▸ fits), valueAt_eq_none absent]
    simp [Except.toOption]
  · rw [if_neg same, if_neg same, shows other fits, Option.or_none]

theorem countP_set_filled {values : List (Option Value)} (empty : values[place]? = some none)
    (value : Value) :
    (values.set place (some value)).countP Option.isSome = values.countP Option.isSome + 1 := by
  rcases List.getElem?_eq_some_iff.mp empty with ⟨fits, known⟩
  rw [List.countP_set fits, known]
  simp

theorem Collects.fill {values : List (Option Value)} {entered : Nat}
    (length : values.length = total) (counts : entered = values.countP Option.isSome)
    (shows : ∀ other < total, values[other]? = some (valueAt arrivals other)) {value : Value}
    (distinct : ((arrivals ++ [(place, Except.ok value)]).map Prod.fst).Nodup) (fits : place < total)
    (within : ∀ arrival ∈ arrivals, arrival.1 < total) :
    Collects total (arrivals ++ [(place, .ok value)])
      (Progress.receive ⟨⟨total, values, entered⟩, (firstFailure arrivals).map .error⟩
        (place, .ok value)) := by
  have absent : place ∉ arrivals.map Prod.fst := by
    intro member
    rw [List.map_append, List.nodup_append] at distinct
    exact distinct.2.2 place member place List.mem_cons_self rfl
  have empty : values[place]? = some none := by
    rw [shows place fits, valueAt_eq_none absent]
  have shows' := shows_set length shows absent value
  have counts' := countP_set_filled empty value
  have length' : (values.set place (some value)).length = total := List.length_set.trans length
  have same : firstFailure (arrivals ++ [(place, .ok value)]) = firstFailure arrivals := by
    rw [firstFailure_concat, Option.or_none]
  by_cases complete : entered + 1 = total
  · have full : ∀ entry ∈ values.set place (some value), entry.isSome = true := by
      apply List.countP_eq_length.mp
      omega
    -- a failure would have left its place empty
    have unfailed : firstFailure arrivals = none := by
      cases failed : firstFailure arrivals with
      | none => rfl
      | some failure =>
          rcases mem_of_firstFailure failed with ⟨other, member⟩
          have open' := shows' other (within _ member)
          rw [valueAt_of_mem distinct (List.mem_append_left _ member)] at open'
          cases full none (List.mem_of_getElem? open')
    have taken := eq_map_some full
    unfold Progress.receive
    dsimp only
    rw [if_pos complete, unfailed]
    subst complete
    refine .complete ?_ ?_ (same.trans unfailed)
    · rw [taken, List.length_map] at length'
      exact length'
    · intro other fits'
      have shown := shows' other fits'
      rw [taken, List.getElem?_map] at shown
      cases found : ((values.set place (some value)).filterMap id)[other]? with
      | none =>
          rw [found] at shown
          cases shown
      | some arrived =>
          rw [found] at shown
          exact (Option.some.inj shown).symm
  · have few : entered + 1 < total := by
      have bound := List.countP_le_length (p := Option.isSome) (l := values.set place (some value))
      omega
    unfold Progress.receive
    dsimp only
    rw [if_neg complete, ← same]
    refine .waiting few length' ?_ shows'
    exact (congrArg (· + 1) counts).trans counts'.symm

/-- Whatever arrives, the progress keeps up with it. -/
theorem Collects.receive {progress : Progress} (collects : Collects total arrivals progress)
    {arrival : Arrival} (distinct : ((arrivals ++ [arrival]).map Prod.fst).Nodup)
    (within : ∀ other ∈ arrivals ++ [arrival], other.1 < total) :
    Collects total (arrivals ++ [arrival]) (progress.receive arrival) := by
  rcases arrival with ⟨place, outcome⟩
  have fits : place < total := within (place, outcome) (List.mem_append_right _ List.mem_cons_self)
  cases collects with
  | waiting few length counts shows =>
      cases outcome with
      | error failure => exact .fail few length counts shows place failure
      | ok value =>
          exact .fill length counts shows distinct fits
            fun other member => within other (List.mem_append_left _ member)
  | complete length shows unfailed =>
      -- all places have been filled, so nothing is left to arrive
      have absent : place ∉ arrivals.map Prod.fst := by
        intro member
        rw [List.map_append, List.nodup_append] at distinct
        exact distinct.2.2 place member place List.mem_cons_self rfl
      have filled := shows place fits
      rw [valueAt_eq_none absent, List.getElem?_eq_getElem (length ▸ fits)] at filled
      cases filled

theorem Collects.receiveAll {progress : Progress} (collects : Collects total arrivals progress)
    (further : List Arrival) (distinct : ((arrivals ++ further).map Prod.fst).Nodup)
    (within : ∀ arrival ∈ arrivals ++ further, arrival.1 < total) :
    Collects total (arrivals ++ further) (further.foldl Progress.receive progress) := by
  induction further generalizing arrivals progress with
  | nil =>
      rw [List.append_nil]
      exact collects
  | cons arrival rest inductionHypothesis =>
      rw [← List.singleton_append, ← List.append_assoc] at distinct within ⊢
      refine inductionHypothesis (collects.receive ?_ ?_) distinct within
      · rw [List.map_append, List.nodup_append] at distinct
        exact distinct.1
      · exact fun other member => within other (List.mem_append_left _ member)

/-- What has come of arrivals of which no two are for one place. -/
theorem collects_after (places : 0 < total) (distinct : (arrivals.map Prod.fst).Nodup)
    (within : ∀ arrival ∈ arrivals, arrival.1 < total) :
    Collects total arrivals (.after total arrivals) :=
  (collects_start places).receiveAll arrivals distinct within

end Receiving

/-! ## At the call -/

namespace Store

/-- A gathering link does to its board, and to what its target is settled with, what its arrival
does. -/
theorem gatherOutcome_receives {store : Store} {board : BoardId} {progress : Progress}
    (known : store.boards[board]? = some progress.board) (place : Nat) (outcome : Outcome Value) :
    (store.gatherOutcome board place outcome).1.boards[board]? =
        some (progress.receive (place, outcome)).board ∧
      progress.decision.or (store.gatherOutcome board place outcome).2 =
        (progress.receive (place, outcome)).decision := by
  cases outcome with
  | error failure => exact ⟨known, rfl⟩
  | ok value =>
      by_cases complete : progress.board.entered + 1 = progress.board.total
      · simp only [gatherOutcome, enter, known, if_pos complete, Progress.receive,
          Option.map_some, and_true]
        exact getElem?_set_board known _
      · simp only [gatherOutcome, enter, known, if_neg complete, Progress.receive,
          Option.map_none, Option.or_none, and_true]
        exact getElem?_set_board known _

/-- And nothing to other boards. -/
theorem boards_gatherOutcome (store : Store) {board other : BoardId} (different : other ≠ board)
    (place : Nat) (outcome : Outcome Value) :
    (store.gatherOutcome board place outcome).1.boards[other]? = store.boards[other]? := by
  cases outcome with
  | error failure => rfl
  | ok value =>
      simp only [gatherOutcome, enter]
      split
      · rfl
      · split
        · exact List.getElem?_set_ne (Ne.symm different)
        · exact List.getElem?_set_ne (Ne.symm different)

/-- A cell that is not abandoned is settled with something unless it has settled before. -/
theorem outcome?_settleWith {store : Store} {target : CellId}
    (alive : store.state target ≠ .abandoned) (settling : Option (Outcome Value)) :
    (store.settleWith target settling).outcome? target = (store.outcome? target).or settling := by
  cases settling with
  | none => exact (Option.or_none).symm
  | some outcome =>
      cases found : store.state target with
      | settled other =>
          rw [settleWith_of_closed (by simp [found]), outcome?_eq_some.mpr found]
          rfl
      | abandoned => exact absurd found alive
      | pending continuations =>
          have unsettled : store.outcome? target = none := by
            simp only [outcome?, found]
          rw [settleWith_of_pending found, unsettled]
          exact outcome?_eq_some.mpr (state_setState store (there_of_pending found) _)

/-- What the inputs that have settled bring, from a place on. -/
def brought (store : Store) : Nat → List CellId → List Arrival
  | _, [] => []
  | place, input :: rest =>
    ((store.outcome? input).map (place, ·)).toList ++ store.brought (place + 1) rest

theorem brought_congr {first second : Store} {inputs : List CellId}
    (same : ∀ input ∈ inputs, second.outcome? input = first.outcome? input) (place : Nat) :
    second.brought place inputs = first.brought place inputs := by
  induction inputs generalizing place with
  | nil => rfl
  | cons input rest inductionHypothesis =>
      rw [brought, brought, same input List.mem_cons_self,
        inductionHypothesis fun other member => same other (List.mem_cons_of_mem _ member)]

/-- A registration gives no outcome and takes none. -/
theorem outcome?_joinedBy {first second : Store} {cell : CellId} {added : List Continuation}
    (joined : second.state cell = CellState.joinedBy added (first.state cell)) :
    second.outcome? cell = first.outcome? cell := by
  unfold outcome?
  rw [joined]
  cases first.state cell <;> rfl

theorem boards_settleWith (store : Store) (target : CellId)
    (settling : Option (Outcome Value)) :
    (store.settleWith target settling).boards = store.boards := by
  cases settling with
  | none => rfl
  | some outcome =>
      cases found : store.state target with
      | pending continuations =>
          rw [settleWith_of_pending found]
          rfl
      | settled other => rw [settleWith_of_closed (by simp [found])]
      | abandoned => rw [settleWith_of_closed (by simp [found])]

/-- A store in which a promise of all values has come this far. -/
structure Shows (target : CellId) (board : BoardId) (progress : Progress) (store : Store) :
    Prop where
  board : store.boards[board]? = some progress.board
  decision : store.outcome? target = progress.decision

section Enlisting

variable {target : CellId} {board : BoardId} {store : Store} {progress : Progress}

/-- Linking an input, the new cell receives what the input brings. -/
theorem Shows.enroll (shows : store.Shows target board progress)
    (alive : store.state target ≠ .abandoned) (link : Nat → Continuation) {input : CellId}
    (different : input ≠ target) (place : Nat) :
    (store.enroll target (fun store place outcome => store.gatherOutcome board place outcome) link
      place input).Shows target board
      (((store.outcome? input).map (place, ·)).toList.foldl Progress.receive progress) := by
  cases found : store.outcome? input with
  | none =>
      have boards := enroll_of_unsettled found target
        (fun store place outcome => store.gatherOutcome board place outcome) link place
      refine ⟨boards ▸ shows.board, Eq.trans ?_ shows.decision⟩
      simp only [Store.enroll, found]
      apply outcome?_of_state_eq
      rw [state_register_of_ne _ (Ne.symm different), state_hold]
  | some outcome =>
      have cells := (gatherOutcome_keeps store board place outcome).1
      have receives := gatherOutcome_receives shows.board place outcome
      have alive' : (store.gatherOutcome board place outcome).1.state target ≠ .abandoned := by
        rw [state_of_cells_eq cells]
        exact alive
      rw [enroll_of_settled (outcome?_eq_some.mp found)]
      refine ⟨?_, ?_⟩
      · rw [boards_settleWith]
        exact receives.1
      · rw [outcome?_settleWith alive', outcome?_of_state_eq (state_of_cells_eq cells target),
          shows.decision]
        exact receives.2

/-- Linking all inputs, it receives what those that have settled bring. -/
theorem Shows.enlist (shows : store.Shows target board progress)
    (alive : store.state target ≠ .abandoned) (link : Nat → Continuation) (inputs : List CellId)
    (apart : ∀ input ∈ inputs, input ≠ target) (place : Nat) :
    (store.enlist target (fun store place outcome => store.gatherOutcome board place outcome) link
      place inputs).Shows target board
      ((store.brought place inputs).foldl Progress.receive progress) := by
  induction inputs generalizing store progress place with
  | nil => exact shows
  | cons input rest inductionHypothesis =>
      have different := apart input List.mem_cons_self
      have apart' : ∀ other ∈ rest, other ≠ target :=
        fun other member => apart other (List.mem_cons_of_mem _ member)
      have joins := joins_enroll (arrives_gather board) link different store place
      have same : ∀ other ∈ rest,
          (store.enroll target (fun store place outcome => store.gatherOutcome board place outcome)
            link place input).outcome? other = store.outcome? other :=
        fun other member => outcome?_joinedBy (joins.other (apart' other member))
      rw [enlist_cons, brought, List.foldl_append, ← brought_congr same]
      exact inductionHypothesis (shows.enroll alive link different place) (joins.alive alive) apart'
        (place + 1)

end Enlisting

/-- A new promise of all values shows what the inputs that have settled bring. -/
theorem shows_whenAll (store : Store) {inputs : List CellId} (some_input : inputs ≠ [])
    (there : ∀ input ∈ inputs, input < store.cells.length) :
    (store.whenAll inputs).1.Shows store.cells.length store.boards.length
      (.after inputs.length (store.brought 0 inputs)) := by
  unfold whenAll
  cases inputs with
  | nil => exact absurd rfl some_input
  | cons first rest =>
      let opened := ((store.addCell (.pending [])).1.addBoard (first :: rest).length).1
      have pending : opened.state store.cells.length = .pending [] :=
        state_addCell_new store (.pending [])
      have same : opened.brought 0 (first :: rest) = store.brought 0 (first :: rest) := by
        apply brought_congr
        intro input member
        exact outcome?_of_state_eq (state_addCell_old store (.pending []) (there input member))
      rw [← same]
      refine Shows.enlist ⟨?_, ?_⟩ ?_ _ _ (fun input member => Nat.ne_of_lt (there input member)) 0
      · exact List.getElem?_concat_length
      · simp only [outcome?, pending]
        rfl
      · rw [pending]
        exact fun same => CellState.noConfusion same

/-- Linking inputs touches no board but that of the links. -/
theorem boards_enlist {target : CellId}
    {arrive : Store → Nat → Outcome Value → Store × Option (Outcome Value)} {other : BoardId}
    (keeps : ∀ store place outcome,
      (arrive store place outcome).1.boards[other]? = store.boards[other]?)
    (link : Nat → Continuation) (inputs : List CellId) (store : Store) (place : Nat) :
    (store.enlist target arrive link place inputs).boards[other]? = store.boards[other]? := by
  induction inputs generalizing store place with
  | nil => rfl
  | cons input rest inductionHypothesis =>
      rw [enlist_cons, inductionHypothesis]
      cases found : store.outcome? input with
      | none => rw [enroll_of_unsettled found]
      | some outcome =>
          rw [enroll_of_settled (outcome?_eq_some.mp found), boards_settleWith, keeps]

theorem boards_whenAll (store : Store) (inputs : List CellId) {board : BoardId}
    (old : board < store.boards.length) :
    (store.whenAll inputs).1.boards[board]? = store.boards[board]? := by
  unfold whenAll
  cases inputs with
  | nil => rfl
  | cons input rest =>
      refine (boards_enlist (fun store' place outcome =>
        boards_gatherOutcome store' (Nat.ne_of_lt old) place outcome) _ _ _ _).trans ?_
      exact List.getElem?_append_left old

theorem boards_whenAny (store : Store) (inputs : List CellId) (board : BoardId) :
    (store.whenAny inputs).1.boards[board]? = store.boards[board]? := by
  unfold whenAny
  cases inputs with
  | nil => rfl
  | cons input rest => exact boards_enlist (fun _ _ _ => rfl) _ _ _ _

end Store

end Promise
end PromiseHttp
