import PromiseHttp.Proofs.Promise.Decisions

namespace PromiseHttp
namespace Promise

/-!
# Promises of all values

At any time the board of a promise of all values shows what had arrived before the link that is
running now, and the promise is settled with what these arrivals decide, or it is just about to be.
Both are preserved by a step of a link, which enters its arrival, and by all other steps, which leave
the board alone.  The promise itself has only these links, so nothing else settles it, unless
somebody does so by one of its names.

When no settlement is under way, all inputs that have settled have arrived.  Then what is decided is
what the inputs say: the list of their values when all of them are resolved, and the failure that
arrived first when one of them is rejected.
-/

theorem Control.arrival?_eq_some {control : Control} {board : BoardId} {arrival : Arrival} :
    control.arrival? board = some arrival ↔
      ∃ target, control = .run (.gather target board arrival.1) arrival.2 := by
  cases control with
  | run continuation outcome =>
      rw [arrival?, Continuation.arrival?_eq_some]
      constructor
      · rintro ⟨target, place, rfl, rfl⟩
        exact ⟨target, rfl⟩
      · rintro ⟨target, same⟩
        cases same
        exact ⟨target, _, rfl, rfl⟩
  | _ => simp [arrival?]

/-- A gathering link that runs enters on its board and settles its target if that decides it. -/
theorem Machine.run_gather (machine : Machine) (target : CellId) (board : BoardId) (place : Nat)
    (outcome : Outcome Value) :
    let entering := machine.scene.store.gatherOutcome board place outcome
    machine.run (.gather target board place) outcome =
      ⟨{ machine.scene with store := entering.1 }, .handingOn target entering.2,
        .letGo target :: machine.frames⟩ := by
  simp only [Machine.run]
  cases (machine.scene.store.gatherOutcome board place outcome).2 <;> rfl

/-! ## The board -/

namespace Chronicle

/-- The board shows what had arrived before the link that is running. -/
structure Tallies (board : BoardId) (total : Nat) (entered : List Arrival) (chronicle : Chronicle) :
    Prop where
  arrivals : chronicle.arrivals board =
    entered ++ (chronicle.machine.control.arrival? board).toList
  board : chronicle.store.boards[board]? = some (Progress.after total entered).board

theorem Tallies.advance {board : BoardId} {total : Nat} {entered : List Arrival}
    {chronicle : Chronicle} (tallies : Tallies board total entered chronicle)
    (sound : chronicle.Sound) :
    Tallies board total (chronicle.arrivals board) chronicle.advance := by
  have old := (List.getElem?_eq_some_iff.mp tallies.board).1
  refine ⟨arrivals_advance sound old, ?_⟩
  rw [tallies.arrivals]
  cases arrives : chronicle.machine.control.arrival? board with
  | some arrival =>
      rcases Control.arrival?_eq_some.mp arrives with ⟨target, doing⟩
      have steps : chronicle.machine.step? =
          some (chronicle.machine.run (.gather target board arrival.1) arrival.2) := by
        simp only [Machine.step?, doing]
      rw [store, machine_of_step steps, Machine.run_gather, Option.toList_some,
        Progress.after_concat]
      exact (Store.gatherOutcome_receives tallies.board _ _).1
  | none =>
      rw [Option.toList_none, List.append_nil, ← tallies.board]
      cases steps : chronicle.machine.step? with
      | none => rw [(advance_of_rest steps).2]
      | some next =>
          rw [store, machine_of_step steps]
          refine (causes_of_step steps).boards old fun target place outcome doing => ?_
          have some_arrival : chronicle.machine.control.arrival? board = some (place, outcome) :=
            Control.arrival?_eq_some.mpr ⟨target, doing⟩
          rw [arrives] at some_arrival
          cases some_arrival

/-- The call makes the promise and gives it its name. -/
theorem machine_of_call {chronicle : Chronicle} {fresh : String} {names : List String}
    {inputs : List CellId}
    (calls : chronicle.machine.control = .perform (.whenAll fresh names))
    (found : chronicle.machine.scene.cells names = .ok inputs) :
    chronicle.advance.machine = chronicle.machine.answerIn
      (Scene.bind
        { chronicle.machine.scene with store := (chronicle.machine.scene.store.whenAll inputs).1 }
        fresh (chronicle.machine.scene.store.whenAll inputs).2) .nothing := by
  apply machine_of_step
  simp only [Machine.step?, calls, Machine.perform, found]

/-- At the call, the board shows what the inputs have brought that had settled. -/
theorem tallies_of_call {chronicle : Chronicle} (sound : chronicle.Sound)
    (heard : chronicle.Heard) (numbered : chronicle.Numbered) {fresh : String}
    {names : List String} {inputs : List CellId}
    (calls : chronicle.machine.control = .perform (.whenAll fresh names))
    (found : chronicle.machine.scene.cells names = .ok inputs) (some_input : inputs ≠ []) :
    Tallies chronicle.store.boards.length inputs.length (chronicle.store.brought 0 inputs)
      chronicle.advance := by
  have there := Scene.cells_there sound.valid.named found
  have shows := Store.shows_whenAll chronicle.store some_input there
  have moved := machine_of_call calls found
  constructor
  · rw [arrivals_of_call sound heard numbered calls found, moved]
    exact (List.append_nil _).symm
  · rw [store, moved, Machine.answerIn, Scene.boards_bind]
    exact shows.board

end Chronicle

/-! ## The promise -/

/-- A link enters its arrival, and if that decides, the promise is settled next. -/
theorem Obeys.enter {machine : Machine} {target : CellId} {progress : Progress} {board : BoardId}
    (obeys : Obeys target progress.decision machine)
    (shows : machine.scene.store.boards[board]? = some progress.board) {place : Nat}
    {outcome : Outcome Value}
    (doing : machine.control = .run (.gather target board place) outcome)
    (under : ∃ frame ∈ machine.frames, frame.isDrain = true) :
    Obeys target (progress.receive (place, outcome)).decision
      (machine.run (.gather target board place) outcome) := by
  have cells := (Store.gatherOutcome_keeps machine.scene.store board place outcome).1
  rw [← (Store.gatherOutcome_receives shows place outcome).2, Machine.run_gather]
  exact obeys.handOn (by rw [doing]; rfl) under
    (Store.outcome?_of_state_eq (Store.state_of_cells_eq cells target)) _

namespace Chronicle

/-- At the call, the promise is settled with what the inputs decide that had settled. -/
theorem obeys_of_call {chronicle : Chronicle} (sound : chronicle.Sound)
    (accounted : chronicle.machine.Accounted) {fresh : String} {names : List String}
    {inputs : List CellId}
    (calls : chronicle.machine.control = .perform (.whenAll fresh names))
    (found : chronicle.machine.scene.cells names = .ok inputs) (some_input : inputs ≠ []) :
    Obeys chronicle.store.cells.length
      (Progress.after inputs.length (chronicle.store.brought 0 inputs)).decision
      chronicle.advance.machine := by
  have there := Scene.cells_there sound.valid.named found
  have shows := Store.shows_whenAll chronicle.store some_input there
  have decision : chronicle.advance.machine.scene.store.outcome? chronicle.store.cells.length =
      (Progress.after inputs.length (chronicle.store.brought 0 inputs)).decision := by
    rw [machine_of_call calls found, Machine.answerIn, (Scene.letGo_bind _ _ _).outcome?_eq]
    exact shows.decision
  constructor
  · exact fun known => decision.symm.trans known
  · intro outcome settling
    rw [machine_of_call calls found] at settling
    cases settling
  · exact fun decides => Or.inl (decision.trans decides)
  · intro value member
    rw [machine_of_call calls found] at member
    have old := accounted.backed.there accounted.account.account
      (fun holding held => List.mem_append_right _ (List.mem_append_right _ held)) member
    exact Nat.lt_irrefl _ old

/-- In a step the promise goes on to follow what the arrivals decide. -/
theorem obeys_advance {script : List Action} {steps : Nat} {target : CellId} {board : BoardId}
    {inputs : List CellId} {entered : List Arrival}
    (links : Links target board inputs (after script steps))
    (tallies : Tallies board inputs.length entered (after script steps))
    (unnamed : ¬ SettledByName script target (steps + 1))
    (obeys : Obeys target (Progress.after inputs.length entered).decision
      (after script steps).machine) :
    Obeys target
      (Progress.after inputs.length ((after script steps).arrivals board)).decision
      (after script (steps + 1)).machine := by
  have sound := sound_after script steps
  have linked : ∀ {continuation outcome},
      (after script steps).machine.control = .run continuation outcome →
      continuation.serves target board = true →
      ∃ place, continuation = .gather target board place := by
    intro continuation outcome doing serves
    rcases attached_of_running script steps doing with ⟨cell, attached⟩
    rcases links.of_attached attached serves with ⟨place, same, _⟩
    exact ⟨place, same⟩
  change Obeys target _ (after script steps).advance.machine
  rw [tallies.arrivals]
  cases arrives : (after script steps).machine.control.arrival? board with
  | some arrival =>
      rcases Control.arrival?_eq_some.mp arrives with ⟨other, doing⟩
      rcases linked doing (by simp [Continuation.serves, Continuation.board?]) with ⟨place, same⟩
      cases same
      rcases running_in_settlement script steps doing rfl with ⟨_, rest, panic, frames, top⟩
      have moves : (after script steps).machine.step? = some ((after script steps).machine.run
          (.gather target board arrival.1) arrival.2) := by
        simp only [Machine.step?, doing]
      rw [machine_of_step moves, Option.toList_some, Progress.after_concat]
      exact obeys.enter tallies.board doing ⟨_, top ▸ List.mem_cons_self, rfl⟩
  | none =>
      rw [Option.toList_none, List.append_nil]
      cases moves : (after script steps).machine.step? with
      | some next =>
          rw [machine_of_step moves]
          refine obeys.pass sound.valid (accounted_after script steps) moves links.cells ?_ ?_
          · intro continuation outcome doing holds
            rcases linked doing (by simp [Continuation.serves, holds]) with ⟨place, rfl⟩
            have some_arrival := Control.arrival?_eq_some.mpr
              (⟨target, doing⟩ : ∃ target, (after script steps).machine.control =
                .run (.gather target board (place, outcome).1) (place, outcome).2)
            cases arrives.symm.trans some_arrival
          · intro outcome byName unsettled
            exact unnamed ⟨steps, Nat.lt_succ_self _, unsettled, outcome, byName⟩
      | none => exact obeys_rest obeys moves

/-- At any time after the call the links are the only ones, the board shows what has been entered, and
the promise follows what that decides unless somebody has settled it by name. -/
theorem follows_call {script : List Action} {start : Nat} {fresh : String} {names : List String}
    {inputs : List CellId}
    (calls : (after script start).machine.control = .perform (.whenAll fresh names))
    (found : (after script start).machine.scene.cells names = .ok inputs)
    (some_input : inputs ≠ []) (further : Nat) :
    ∃ entered,
      Links (after script start).store.cells.length (after script start).store.boards.length inputs
        (after script (start + 1 + further)) ∧
      Tallies (after script start).store.boards.length inputs.length entered
        (after script (start + 1 + further)) ∧
      (¬ SettledByName script (after script start).store.cells.length (start + 1 + further) →
        Obeys (after script start).store.cells.length
          (Progress.after inputs.length entered).decision
          (after script (start + 1 + further)).machine) := by
  have sound := sound_after script start
  induction further with
  | zero =>
      have numbered := numbered_after script start
      exact ⟨_, links_of_call sound numbered calls found some_input,
        tallies_of_call sound (heard_after script start) numbered calls found some_input,
        fun _ => obeys_of_call sound (accounted_after script start) calls found some_input⟩
  | succ further inductionHypothesis =>
      rcases inductionHypothesis with ⟨entered, links, tallies, obeys⟩
      have sound' := sound_after script (start + 1 + further)
      refine ⟨_, links.advance sound', tallies.advance sound', ?_⟩
      intro unnamed
      exact obeys_advance links tallies unnamed (obeys fun settled => unnamed settled.mono)

end Chronicle

/-! ## What the inputs say -/

/-- What has arrived is what the inputs have, each input once for each of its places. -/
structure Reported (inputs : List CellId) (outcome? : CellId → Option (Outcome Value))
    (arrivals : List Arrival) : Prop where
  outcomes : ∀ arrival ∈ arrivals, ∃ input,
    inputs[arrival.1]? = some input ∧ outcome? input = some arrival.2
  once : (arrivals.map Prod.fst).Nodup

section Reporting

variable {inputs : List CellId} {outcome? : CellId → Option (Outcome Value)}
  {arrivals : List Arrival}

theorem Reported.within (reported : Reported inputs outcome? arrivals) :
    ∀ arrival ∈ arrivals, arrival.1 < inputs.length := by
  intro arrival member
  rcases reported.outcomes arrival member with ⟨input, known, _⟩
  exact (List.getElem?_eq_some_iff.mp known).1

/-- What arrived earlier was reported, too. -/
theorem Reported.earlier {earlier later : List Arrival}
    (reported : Reported inputs outcome? (earlier ++ later)) : Reported inputs outcome? earlier where
  outcomes := fun arrival member => reported.outcomes arrival (List.mem_append_left _ member)
  once := by
    have once := reported.once
    rw [List.map_append, List.nodup_append] at once
    exact once.1

theorem Reported.collects (reported : Reported inputs outcome? arrivals) (some_input : inputs ≠ []) :
    Collects inputs.length arrivals (.after inputs.length arrivals) :=
  collects_after (List.length_pos_iff.mpr some_input) reported.once reported.within

/-- A place for which nothing has arrived is there on the board, and it is empty. -/
theorem Collects.empty {total place : Nat} {progress : Progress}
    (collects : Collects total arrivals progress) (absent : place ∉ arrivals.map Prod.fst)
    (fits : place < total) : progress.board.values[place]? = some none := by
  cases collects with
  | waiting few length counts shows => rw [shows place fits, valueAt_eq_none absent]
  | complete length shows unfailed =>
      have filled := shows place fits
      rw [valueAt_eq_none absent, List.getElem?_eq_getElem (length ▸ fits)] at filled
      cases filled

/-- Whatever arrives finds its place empty. -/
theorem Reported.empty {earlier later : List Arrival} {arrival : Arrival}
    (reported : Reported inputs outcome? (earlier ++ arrival :: later)) (some_input : inputs ≠ []) :
    (Progress.after inputs.length earlier).board.values[arrival.1]? = some none := by
  have fits := reported.within arrival (List.mem_append_right _ List.mem_cons_self)
  have absent : arrival.1 ∉ earlier.map Prod.fst := by
    intro member
    have once := reported.once
    rw [List.map_append, List.nodup_append] at once
    exact once.2.2 _ member arrival.1 List.mem_cons_self rfl
  exact (reported.earlier.collects some_input).empty absent fits

variable {progress : Progress}

theorem Collects.rejected {total : Nat} (collects : Collects total arrivals progress)
    (failure : Failure) :
    progress.decision = some (.error failure) ↔ firstFailure arrivals = some failure := by
  cases collects with
  | waiting few length counts shows =>
      cases firstFailure arrivals <;> simp
  | complete length shows unfailed =>
      rw [unfailed]
      simp

/-- A value that has arrived is the value of its input. -/
theorem Reported.resolves (reported : Reported inputs outcome? arrivals) {place : Nat}
    {input : CellId} (known : inputs[place]? = some input) {value : Value}
    (shown : valueAt arrivals place = some value) : outcome? input = some (.ok value) := by
  rcases reported.outcomes _ (mem_of_valueAt shown) with ⟨other, known', has⟩
  cases known.symm.trans known'
  exact has

/-- Where a value has arrived for every place, all inputs are resolved with these values. -/
theorem Reported.all_resolved (reported : Reported inputs outcome? arrivals) {values : List Value}
    (length : values.length = inputs.length)
    (shows : ∀ place < inputs.length, valueAt arrivals place = values[place]?) :
    inputs.map outcome? = values.map fun value => some (.ok value) := by
  apply List.ext_getElem?
  intro place
  rw [List.getElem?_map, List.getElem?_map]
  cases known : inputs[place]? with
  | none =>
      have beyond := List.getElem?_eq_none_iff.mp known
      rw [List.getElem?_eq_none (length ▸ beyond)]
      rfl
  | some input =>
      have fits := (List.getElem?_eq_some_iff.mp known).1
      have shown := shows place fits
      rw [List.getElem?_eq_getElem (length ▸ fits)] at shown ⊢
      rw [Option.map_some, reported.resolves known shown, Option.map_some]

/-- When all inputs are resolved and all of them have arrived, no place of the board is empty. -/
theorem Reported.filled (reported : Reported inputs outcome? arrivals)
    (arrives : ∀ {place input outcome}, inputs[place]? = some input →
      outcome? input = some outcome → (place, outcome) ∈ arrivals) {values : List Value}
    (all : inputs.map outcome? = values.map fun value => some (.ok value))
    {entries : List (Option Value)} (length : entries.length = inputs.length)
    (shows : ∀ place < inputs.length, entries[place]? = some (valueAt arrivals place)) :
    entries.countP Option.isSome = inputs.length := by
  rw [← length, List.countP_eq_length]
  intro entry member
  rcases List.mem_iff_getElem?.mp member with ⟨place, there⟩
  have fits := length ▸ (List.getElem?_eq_some_iff.mp there).1
  have said := congrArg (·[place]?) all
  simp only [List.getElem?_map, List.getElem?_eq_getElem fits, Option.map_some] at said
  cases value : values[place]? with
  | none =>
      rw [value] at said
      cases said
  | some resolved =>
      rw [value] at said
      have arrived := arrives (List.getElem?_eq_getElem fits) (Option.some.inj said)
      rw [shows place fits, valueAt_of_mem reported.once arrived] at there
      cases there
      rfl

/-- When all inputs that have settled have arrived, the promise is resolved exactly when all inputs
are, and with their values. -/
theorem Collects.resolved (collects : Collects inputs.length arrivals progress)
    (reported : Reported inputs outcome? arrivals)
    (arrives : ∀ {place input outcome}, inputs[place]? = some input →
      outcome? input = some outcome → (place, outcome) ∈ arrivals) (value : Value) :
    progress.decision = some (.ok value) ↔
      ∃ values, value = .list values ∧
        inputs.map outcome? = values.map fun value => some (.ok value) := by
  cases collects with
  | waiting few length counts shows =>
      constructor
      · intro decides
        cases failed : firstFailure arrivals <;> (rw [failed] at decides; cases decides)
      · rintro ⟨values, rfl, all⟩
        have filled := reported.filled arrives all length shows
        omega
  | @complete values length shows unfailed =>
      have all := reported.all_resolved length shows
      constructor
      · intro decides
        cases decides
        exact ⟨values, rfl, all⟩
      · rintro ⟨others, rfl, all'⟩
        have same : values = others := by
          refine (List.map_inj_right ?_).mp (all.symm.trans all')
          intro first second same
          cases same
          rfl
        rw [same]

/-- A failure has arrived exactly when an input is rejected. -/
theorem Reported.failed (reported : Reported inputs outcome? arrivals)
    (arrives : ∀ {place input outcome}, inputs[place]? = some input →
      outcome? input = some outcome → (place, outcome) ∈ arrivals) :
    (∃ failure, firstFailure arrivals = some failure) ↔
      ∃ input ∈ inputs, ∃ failure, outcome? input = some (.error failure) := by
  constructor
  · rintro ⟨failure, first⟩
    rcases mem_of_firstFailure first with ⟨place, member⟩
    rcases reported.outcomes _ member with ⟨input, known, has⟩
    exact ⟨input, List.mem_of_getElem? known, failure, has⟩
  · rintro ⟨input, member, failure, has⟩
    rcases List.mem_iff_getElem?.mp member with ⟨place, known⟩
    cases first : firstFailure arrivals with
    | some other => exact ⟨other, rfl⟩
    | none => exact absurd (arrives known has) (not_mem_of_firstFailure first failure)

end Reporting

/-! ## A promise of all values -/

namespace Chronicle

/-- What a promise of all values knows of its inputs. -/
structure Gathers (board : BoardId) (inputs : List CellId) (chronicle : Chronicle) : Prop where
  reported : Reported inputs chronicle.outcome? (chronicle.arrivals board)
  /-- The next to arrive is what the link brings that runs next. -/
  next : chronicle.advance.arrivals board =
    chronicle.arrivals board ++ (chronicle.advance.machine.control.arrival? board).toList
  /-- The board shows all that has arrived, but not yet what the link brings that is running. -/
  shows : ∃ entered,
    chronicle.arrivals board = entered ++ (chronicle.machine.control.arrival? board).toList ∧
      chronicle.store.boards[board]? = some (Progress.after inputs.length entered).board ∧
      Collects inputs.length entered (.after inputs.length entered)
  /-- Whatever has arrived found its place on the board, and found it empty. -/
  room : ∀ {earlier arrival later}, chronicle.arrivals board = earlier ++ arrival :: later →
    (Progress.after inputs.length earlier).board.values[arrival.1]? = some none
  /-- Once the values have been taken off the board, nothing is entered on it any more. -/
  drained : ∀ {found}, chronicle.store.boards[board]? = some found → found.values = [] →
    chronicle.advance.store.boards[board]? = some found

/-- What a promise of all values is, as its inputs are. -/
structure Decides (target : CellId) (board : BoardId) (inputs : List CellId)
    (chronicle : Chronicle) : Prop where
  /-- It is rejected as soon as the first link has run that brings a failure, or that link is still
  at work. -/
  prompt : ∀ {failure}, firstFailure (chronicle.arrivals board) = some failure →
    chronicle.outcome? target = some (.error failure) ∨
      chronicle.machine.control = .settle target (.error failure) ∨
      ∃ place, chronicle.machine.control = .run (.gather target board place) (.error failure)
  resolved : (∀ frame ∈ chronicle.machine.frames, frame.isDrain = false) → ∀ value,
    (chronicle.outcome? target = some (.ok value) ↔
      ∃ values, value = .list values ∧
        inputs.map chronicle.outcome? = values.map fun value => some (.ok value))
  rejected : (∀ frame ∈ chronicle.machine.frames, frame.isDrain = false) → ∀ failure,
    (chronicle.outcome? target = some (.error failure) ↔
      firstFailure (chronicle.arrivals board) = some failure)
  failed : (∀ frame ∈ chronicle.machine.frames, frame.isDrain = false) →
    ((∃ failure, firstFailure (chronicle.arrivals board) = some failure) ↔
      ∃ input ∈ inputs, ∃ failure, chronicle.outcome? input = some (.error failure))

variable {script : List Action} {steps : Nat} {target : CellId} {board : BoardId}
  {inputs : List CellId} {entered : List Arrival}

theorem Links.reported (links : Links target board inputs (after script steps)) :
    Reported inputs (after script steps).outcome? ((after script steps).arrivals board) where
  outcomes := fun _ member =>
    links.arrival (sound_after script steps) (heard_after script steps) member
  once := links.distinct (sound_after script steps) (heard_after script steps)

/-- The board has come as far as what has been entered on it. -/
theorem Links.collects (links : Links target board inputs (after script steps))
    (tallies : Tallies board inputs.length entered (after script steps))
    (some_input : inputs ≠ []) :
    Collects inputs.length entered (.after inputs.length entered) := by
  have reported := links.reported
  rw [tallies.arrivals] at reported
  exact reported.earlier.collects some_input

theorem Links.gathers (links : Links target board inputs (after script steps))
    (tallies : Tallies board inputs.length entered (after script steps))
    (some_input : inputs ≠ []) : Gathers board inputs (after script steps) := by
  have sound := sound_after script steps
  have reported := links.reported
  refine ⟨reported, arrivals_advance sound links.boards,
    ⟨entered, tallies.arrivals, tallies.board, links.collects tallies some_input⟩, ?_, ?_⟩
  · intro earlier arrival later arrived
    rw [arrived] at reported
    exact reported.empty some_input
  · intro found shown empty
    have board := (tallies.advance sound).board
    cases tallies.board.symm.trans shown
    rw [tallies.arrivals] at board reported
    cases arrives : (after script steps).machine.control.arrival? _ with
    | none =>
        rw [arrives, Option.toList_none, List.append_nil] at board
        exact board
    | some arrival =>
        -- a link that runs would find no place on a board that is empty
        rw [arrives] at reported
        have room := reported.empty some_input
        rw [empty] at room
        cases room

/-- While no settlement is under way no link is running, so all that has arrived is on the board. -/
theorem Tallies.entered_of_calm
    (tallies : Tallies board inputs.length entered (after script steps))
    (calm : ∀ frame ∈ (after script steps).machine.frames, frame.isDrain = false) :
    (after script steps).arrivals board = entered := by
  rw [tallies.arrivals]
  cases arrives : (after script steps).machine.control.arrival? board with
  | none => rw [Option.toList_none, List.append_nil]
  | some arrival =>
      rcases Control.arrival?_eq_some.mp arrives with ⟨other, doing⟩
      rcases running_in_settlement script steps doing rfl with ⟨_, rest, panic, frames, top⟩
      cases calm _ (top ▸ List.mem_cons_self)

/-- The first failure that arrives decides, as soon as it has been entered. -/
theorem Links.prompt (links : Links target board inputs (after script steps))
    (tallies : Tallies board inputs.length entered (after script steps))
    (obeys : Obeys target (Progress.after inputs.length entered).decision
      (after script steps).machine)
    (some_input : inputs ≠ []) {failure : Failure}
    (first : firstFailure ((after script steps).arrivals board) = some failure) :
    (after script steps).outcome? target = some (.error failure) ∨
      (after script steps).machine.control = .settle target (.error failure) ∨
      ∃ place, (after script steps).machine.control =
        .run (.gather target board place) (.error failure) := by
  have collects := links.collects tallies some_input
  have entered_failure : firstFailure entered = some failure →
      (after script steps).outcome? target = some (.error failure) ∨
        (after script steps).machine.control = .settle target (.error failure) := by
    intro before
    rcases obeys.decided ((collects.rejected failure).mpr before) with known | ⟨settling, _⟩
    · exact Or.inl known
    · exact Or.inr settling
  rw [tallies.arrivals] at first
  cases arrives : (after script steps).machine.control.arrival? board with
  | none =>
      rw [arrives, Option.toList_none, List.append_nil] at first
      exact (entered_failure first).imp_right Or.inl
  | some arrival =>
      rcases arrival with ⟨place, outcome⟩
      rcases Control.arrival?_eq_some.mp arrives with ⟨other, doing⟩
      rw [arrives, Option.toList_some, firstFailure_concat] at first
      cases before : firstFailure entered with
      | some earlier =>
          rw [before] at first
          cases first
          exact (entered_failure before).imp_right Or.inl
      | none =>
          rw [before] at first
          cases outcome with
          | ok value => cases first
          | error brought =>
              cases first
              rcases attached_of_running script steps doing with ⟨cell, attached⟩
              rcases links.of_attached attached
                (by simp [Continuation.serves, Continuation.board?]) with ⟨_, same, _⟩
              cases same
              exact Or.inr (Or.inr ⟨place, doing⟩)

theorem Links.decides (links : Links target board inputs (after script steps))
    (tallies : Tallies board inputs.length entered (after script steps))
    (obeys : Obeys target (Progress.after inputs.length entered).decision
      (after script steps).machine)
    (some_input : inputs ≠ []) : Decides target board inputs (after script steps) := by
  have sound := sound_after script steps
  have collects := links.collects tallies some_input
  have reported := links.reported
  refine ⟨links.prompt tallies obeys some_input, ?_, ?_, ?_⟩
  · intro calm value
    rw [outcome?_of_calm obeys calm]
    rw [tallies.entered_of_calm calm] at reported
    refine collects.resolved reported (fun known has => ?_) value
    rw [← tallies.entered_of_calm calm]
    exact links.arrives sound calm known has
  · intro calm failure
    rw [outcome?_of_calm obeys calm, tallies.entered_of_calm calm]
    exact collects.rejected failure
  · intro calm
    exact reported.failed fun known has => links.arrives sound calm known has

/-- What a call makes of some inputs: a promise of all their values under a new name. -/
structure Aggregate (script : List Action) (start : Nat) (fresh : String) (inputs : List CellId)
    (target : CellId) (board : BoardId) : Prop where
  named : (after script (start + 1)).machine.scene.names.lookup fresh = some target
  /-- Without inputs it has resolved with no values. -/
  nothing : inputs = [] → ∀ further,
    (after script (start + 1 + further)).outcome? target = some (.ok (.list []))
  /-- The inputs that have settled come first, in their order. -/
  first : inputs ≠ [] →
    (after script (start + 1)).arrivals board = (after script start).store.brought 0 inputs
  gathers : inputs ≠ [] → ∀ further,
    Gathers board inputs (after script (start + 1 + further))
  decides : inputs ≠ [] → ∀ further,
    ¬ SettledByName script target (start + 1 + further) →
      Decides target board inputs (after script (start + 1 + further))
  /-- Whoever settles it by name before it has an outcome settles it with what they bring. -/
  overruled : ∀ further outcome, (after script (start + 1 + further)).outcome? target = none →
    (after script (start + 1 + further)).machine.SettlesByName target outcome →
      ∀ later, (after script (start + 1 + further + 2 + later)).outcome? target = some outcome
  /-- As long as it has no outcome it is pending for everybody who has kept it. -/
  pending : ∀ further, (after script (start + 1 + further)).outcome? target = none →
    (after script (start + 1 + further)).machine.Keeps target →
      ∃ continuations,
        (after script (start + 1 + further)).store.state target = .pending continuations
  /-- An outcome stays. -/
  stays : ∀ further outcome, (after script (start + 1 + further)).outcome? target = some outcome →
    ∀ later, (after script (start + 1 + further + later)).outcome? target = some outcome

/-- A promise of all values is resolved when all inputs are, with their values in the order of the
inputs, and rejected with the failure that arrives first, whatever settles in whatever order.  The
order in which failures arrive is that in which links run, after those of the inputs that had
settled.  No outcome gives way to another.  Like any promise it can also be settled by somebody who
has a name of it; whoever does so before the inputs decide has decided. -/
theorem gathers_all_values {script : List Action} {start : Nat} {fresh : String}
    {names : List String} {inputs : List CellId}
    (calls : (after script start).machine.control = .perform (.whenAll fresh names))
    (found : (after script start).machine.scene.cells names = .ok inputs) :
    Aggregate script start fresh inputs (after script start).store.cells.length
      (after script start).store.boards.length := by
  have sound := sound_after script start
  have there := Scene.cells_there sound.valid.named found
  have moved : (after script (start + 1)).machine = _ := machine_of_call calls found
  constructor
  · have target := (Store.combines_whenAll (after script start).store inputs there).target
    rw [moved, Machine.answerIn, Scene.names_bind, List.lookup_cons_self]
    exact congrArg some target
  · rintro rfl further
    refine outcome?_stays ?_ further
    rw [outcome?, moved, Machine.answerIn, (Scene.letGo_bind _ _ _).outcome?_eq]
    exact Store.outcome?_eq_some.mpr (Store.state_addCell_new _ _)
  · exact fun _ => arrivals_of_call sound (heard_after script start) (numbered_after script start)
      calls found
  · intro some_input further
    rcases follows_call calls found some_input further with ⟨entered, links, tallies, _⟩
    exact links.gathers tallies some_input
  · intro some_input further unnamed
    rcases follows_call calls found some_input further with ⟨entered, links, tallies, obeys⟩
    exact links.decides tallies (obeys unnamed) some_input
  · exact fun further outcome unsettled byName => outcome?_of_settlesByName unsettled byName
  · exact fun further unsettled kept => pending_of_kept unsettled kept
  · exact fun further outcome known later => outcome?_stays known later

/-- A promise may be among the inputs twice, and an input may be settled by a continuation of
another. -/
theorem gathers_an_input_twice :
    let script : List Action :=
      [.create "a", .create "b", .onComplete "a" "a settled" [.resolve "b" (.whole 1)],
        .whenAll "all" ["a", "b", "a"], .resolve "a" (.whole 2)]
    (after script 7).machine.control = .perform (.whenAll "all" ["a", "b", "a"]) ∧
      (after script 7).machine.scene.cells ["a", "b", "a"] = .ok [0, 1, 0] ∧
      Aggregate script 7 "all" [0, 1, 0] 2 0 :=
  ⟨rfl, rfl, gathers_all_values rfl rfl⟩

example :
    (after [.create "a", .create "b", .onComplete "a" "a settled" [.resolve "b" (.whole 1)],
      .whenAll "all" ["a", "b", "a"], .resolve "a" (.whole 2)] 40).outcome? 2 =
        some (.ok (.list [.whole 2, .whole 1, .whole 2])) := rfl

end Chronicle

end Promise
end PromiseHttp
