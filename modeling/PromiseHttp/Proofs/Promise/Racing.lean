import PromiseHttp.Proofs.Promise.Decisions

namespace PromiseHttp
namespace Promise

/-!
# Promises of the first value

The links of a promise of the first value do not know of each other.  Each of them settles the
promise with its place and the outcome of its input, and only the first one finds it pending.  So
the promise has what the first link brings that comes to run.  The inputs that have settled at the
call come first, in the order of the list.  Among the links to one input the one with the least
place comes first, because the links were registered in the order of the list and run in that order.

A link that finds the promise settled loses in silence: it does not panic, and it logs nothing.
-/

/-! ## Who wins -/

/-- What the promise has when these have come in, one after another. -/
def winner (entered : List Arrival) : Option (Outcome Value) :=
  entered.head?.map fun arrival => Store.raceOutcome arrival.1 arrival.2

/-- Whoever comes in later wins only if nobody has come in before. -/
theorem winner_append (earlier later : List Arrival) :
    winner (earlier ++ later) = (winner earlier).or (winner later) := by
  cases earlier <;> rfl

theorem winner_eq_none {entered : List Arrival} : winner entered = none ↔ entered = [] := by
  cases entered with
  | nil => exact iff_of_true rfl rfl
  | cons first rest => exact iff_of_false (Option.some_ne_none _) (List.cons_ne_nil _ _)

namespace Store

/-- The first to have settled among some inputs brings its outcome first. -/
theorem head?_brought_eq_some {store : Store} {inputs : List CellId} {first : Nat}
    {arrival : Arrival} :
    (store.brought first inputs).head? = some arrival ↔
      ∃ place input, arrival.1 = first + place ∧ inputs[place]? = some input ∧
        store.outcome? input = some arrival.2 ∧
        ∀ earlier < place, ∀ other, inputs[earlier]? = some other → store.outcome? other = none := by
  induction inputs generalizing first with
  | nil =>
      constructor
      · intro nothing
        cases nothing
      · rintro ⟨_, _, _, known, _⟩
        cases known
  | cons input rest inductionHypothesis =>
      rw [brought]
      cases settled : store.outcome? input with
      | some outcome =>
          constructor
          · intro same
            cases same
            exact ⟨0, input, rfl, rfl, settled, fun _ before => absurd before (Nat.not_lt_zero _)⟩
          · rintro ⟨place, other, number, known, has, unsettled⟩
            cases place with
            | zero =>
                cases known
                cases settled.symm.trans has
                exact congrArg some (Prod.ext number.symm rfl)
            | succ place =>
                cases settled.symm.trans (unsettled 0 (Nat.succ_pos _) input rfl)
      | none =>
          refine Iff.trans inductionHypothesis ?_
          constructor
          · rintro ⟨place, other, number, known, has, unsettled⟩
            refine ⟨place + 1, other, by rw [number, Nat.add_right_comm, Nat.add_assoc], known, has, ?_⟩
            intro earlier before another there
            cases earlier with
            | zero =>
                cases there
                exact settled
            | succ earlier =>
                exact unsettled earlier (Nat.lt_of_succ_lt_succ before) another there
          · rintro ⟨place, other, number, known, has, unsettled⟩
            cases place with
            | zero =>
                cases known
                cases settled.symm.trans has
            | succ place =>
                refine ⟨place, other, by rw [number, Nat.add_right_comm, Nat.add_assoc], known, has, ?_⟩
                exact fun earlier before => unsettled (earlier + 1) (Nat.succ_lt_succ before)

section Enlisting

variable {store : Store} {target : CellId}

/-- Linking an input that has settled settles the new cell, unless that has settled before. -/
theorem outcome?_enroll_race (alive : store.state target ≠ .abandoned) (link : Nat → Continuation)
    {input : CellId} (different : input ≠ target) (place : Nat) :
    (store.enroll target (fun store place outcome => (store, some (raceOutcome place outcome))) link
      place input).outcome? target =
      (store.outcome? target).or (winner ((store.outcome? input).map (place, ·)).toList) := by
  cases settled : store.outcome? input with
  | some outcome =>
      rw [enroll_of_settled (outcome?_eq_some.mp settled)]
      exact outcome?_settleWith alive _
  | none =>
      simp only [enroll, settled]
      refine Eq.trans (outcome?_of_state_eq ?_) Option.or_none.symm
      rw [state_register_of_ne _ (Ne.symm different), state_hold]

/-- Linking all inputs, the first that has settled settles the new cell. -/
theorem outcome?_enlist_race (alive : store.state target ≠ .abandoned) (link : Nat → Continuation)
    {inputs : List CellId} (apart : ∀ input ∈ inputs, input ≠ target) (place : Nat) :
    (store.enlist target (fun store place outcome => (store, some (raceOutcome place outcome))) link
      place inputs).outcome? target =
      (store.outcome? target).or (winner (store.brought place inputs)) := by
  induction inputs generalizing store place with
  | nil => exact Option.or_none.symm
  | cons input rest inductionHypothesis =>
      have different := apart input List.mem_cons_self
      have apart' : ∀ other ∈ rest, other ≠ target :=
        fun other member => apart other (List.mem_cons_of_mem _ member)
      have joins := joins_enroll arrives_race link different store place
      rw [enlist_cons, inductionHypothesis (joins.alive alive) apart',
        outcome?_enroll_race alive link different, brought_congr, Option.or_assoc, ← winner_append]
      · rfl
      · exact fun other member => outcome?_joinedBy (joins.other (apart' other member))

end Enlisting

/-- A new promise of the first value has what the first input brings that has settled. -/
theorem outcome?_whenAny (store : Store) {inputs : List CellId} (some_input : inputs ≠ [])
    (there : ∀ input ∈ inputs, input < store.cells.length) :
    (store.whenAny inputs).1.outcome? store.cells.length = winner (store.brought 0 inputs) := by
  unfold whenAny
  cases inputs with
  | nil => exact absurd rfl some_input
  | cons first rest =>
      have pending : (store.addCell (.pending [])).1.state store.cells.length = .pending [] :=
        state_addCell_new store (.pending [])
      have unsettled : (store.addCell (.pending [])).1.outcome? store.cells.length = none := by
        simp only [outcome?, pending]
      have same : (store.addCell (.pending [])).1.brought 0 (first :: rest) =
          store.brought 0 (first :: rest) := by
        apply brought_congr
        intro input member
        exact outcome?_of_state_eq (state_addCell_old store (.pending []) (there input member))
      have alive : (store.addCell (.pending [])).1.state store.cells.length ≠ .abandoned := by
        rw [pending]
        exact fun same => CellState.noConfusion same
      have linked := outcome?_enlist_race alive (.race store.cells.length ·)
        (fun input member => Nat.ne_of_lt (there input member)) 0
      rw [unsettled, same] at linked
      exact linked

end Store

/-! ## What comes in -/

namespace Continuation

/-- What a link that gets an outcome brings to a promise of the first value. -/
def finish? (target : CellId) (outcome : Outcome Value) : Continuation → Option Arrival
  | race other place => if other = target then some (place, outcome) else none
  | _ => none

theorem finish?_eq_some {target : CellId} {outcome : Outcome Value} {continuation : Continuation}
    {arrival : Arrival} : continuation.finish? target outcome = some arrival ↔
      ∃ place, continuation = .race target place ∧ arrival = (place, outcome) := by
  cases continuation with
  | race other place =>
      rw [finish?]
      constructor
      · intro brings
        by_cases same : other = target
        · rw [if_pos same] at brings
          cases brings
          exact ⟨place, by rw [same], rfl⟩
        · rw [if_neg same] at brings
          cases brings
      · rintro ⟨_, same, rfl⟩
        cases same
        exact if_pos rfl
  | _ => simp [finish?]

end Continuation

/-- What a control that runs a link brings to a promise of the first value. -/
def Control.finish? (target : CellId) (control : Control) : Option Arrival :=
  control.brings? (Continuation.finish? target)

theorem Control.finish?_eq_some {control : Control} {target : CellId} {arrival : Arrival} :
    control.finish? target = some arrival ↔ control = .run (.race target arrival.1) arrival.2 := by
  cases control with
  | run continuation outcome =>
      refine Continuation.finish?_eq_some.trans ?_
      constructor
      · rintro ⟨place, rfl, rfl⟩
        rfl
      · intro same
        cases same
        exact ⟨_, rfl, rfl⟩
  | _ => simp [finish?, brings?]

namespace Chronicle

/-- All that has come in at a promise of the first value, in the order in which the links got their
outcomes. -/
def finishes (chronicle : Chronicle) (target : CellId) : List Arrival :=
  chronicle.events.filterMap (Event.brings? (Continuation.finish? target))

section Finishing

variable {chronicle : Chronicle} {target : CellId} {inputs : List CellId}

theorem mem_finishes {arrival : Arrival} : arrival ∈ chronicle.finishes target ↔ ∃ cell,
    .started cell (.race target arrival.1) arrival.2 ∈ chronicle.events ∨
      .late cell (.race target arrival.1) arrival.2 ∈ chronicle.events := by
  rw [finishes, mem_brought]
  constructor
  · rintro ⟨cell, continuation, outcome, brought, begun⟩
    rcases Continuation.finish?_eq_some.mp brought with ⟨place, rfl, rfl⟩
    exact ⟨cell, begun⟩
  · rintro ⟨cell, begun⟩
    exact ⟨cell, _, _, Continuation.finish?_eq_some.mpr ⟨_, rfl, rfl⟩, begun⟩

/-- What comes in in a step is what the link brings that runs then. -/
theorem finishes_advance (sound : chronicle.Sound) (old : target < chronicle.store.cells.length) :
    chronicle.advance.finishes target =
      chronicle.finishes target ++ (chronicle.advance.machine.control.finish? target).toList := by
  refine brings_advance sound fun doing there _ outcome => ?_
  apply Option.eq_none_iff_forall_ne_some.mpr
  intro arrival brings
  rcases Continuation.finish?_eq_some.mp brings with ⟨place, rfl, _⟩
  have next := ((registrations_fresh sound.valid.named there).target rfl).1
  exact Nat.lt_irrefl _ (Nat.lt_of_lt_of_eq old next.symm)

theorem registrations_of_race (fresh : String) {names : List String}
    (found : chronicle.machine.scene.cells names = .ok inputs) :
    Action.registrations chronicle.machine.scene (.whenAny fresh names) =
      enlisted (.race chronicle.store.cells.length ·) 0 inputs := by
  simp only [Action.registrations, Scene.onCells, found]
  rfl

/-- The call makes the promise and gives it its name. -/
theorem machine_of_race {fresh : String} {names : List String}
    (calls : chronicle.machine.control = .perform (.whenAny fresh names))
    (found : chronicle.machine.scene.cells names = .ok inputs) :
    chronicle.advance.machine = chronicle.machine.answerIn
      (Scene.bind
        { chronicle.machine.scene with store := (chronicle.machine.scene.store.whenAny inputs).1 }
        fresh (chronicle.machine.scene.store.whenAny inputs).2) .nothing := by
  apply machine_of_step
  simp only [Machine.step?, calls, Machine.perform, found]

/-- At the call, what has come in is what the inputs bring that have settled. -/
theorem finishes_of_call (sound : chronicle.Sound) (heard : chronicle.Heard)
    (numbered : chronicle.Numbered) {fresh : String} {names : List String}
    (calls : chronicle.machine.control = .perform (.whenAny fresh names))
    (found : chronicle.machine.scene.cells names = .ok inputs) :
    chronicle.advance.finishes chronicle.store.cells.length = chronicle.store.brought 0 inputs := by
  have before : chronicle.finishes chronicle.store.cells.length = [] := by
    apply List.eq_nil_iff_forall_not_mem.mpr
    intro arrival member
    rcases mem_finishes.mp member with ⟨cell, begun⟩
    have attached := (attached_of_begun sound heard begun).1
    exact Nat.lt_irrefl _ (numbered.target (mem_attachments.mpr attached) rfl)
  cases sound.writes with
  | acting action doing result performs events =>
      cases calls.symm.trans doing
      rw [finishes] at before ⊢
      rw [events, List.filterMap_append, before, registrations_of_race fresh found,
        List.nil_append]
      exact brings_enlisted _ (fun place outcome => if_pos rfl) inputs 0
  | starting cell continuation outcome earlier rest panic frames idle =>
      exact absurd calls (idle _)
  | quiet new idle => exact absurd calls (idle _)

/-- The call registers a link for each input. -/
theorem linked_of_race (sound : chronicle.Sound) (numbered : chronicle.Numbered) {fresh : String}
    {names : List String} (calls : chronicle.machine.control = .perform (.whenAny fresh names))
    (found : chronicle.machine.scene.cells names = .ok inputs) (some_input : inputs ≠ []) :
    Linked chronicle.store.cells.length (enlisted (.race chronicle.store.cells.length ·) 0 inputs)
      chronicle.advance := by
  have registers := registrations_of_race fresh found
  rw [← registers]
  cases inputs with
  | nil => exact absurd rfl some_input
  | cons input rest =>
      have first : (input, Continuation.race chronicle.store.cells.length 0) ∈
          Action.registrations chronicle.machine.scene (.whenAny fresh names) := by
        rw [registers]
        exact List.mem_cons_self
      refine linked_of_call sound numbered calls first fun entry member => ?_
      rw [registers] at member
      rcases (Store.mem_enlisted member).2 with ⟨place, same⟩
      rw [same]
      rfl

/-- A link to the promise is a link to the input at its place. -/
theorem Linked.input_of_race
    (linked : Linked target (enlisted (.race target ·) 0 inputs) chronicle) {cell : CellId}
    {continuation : Continuation} (attached : chronicle.Attached cell continuation)
    (holds : continuation.target? = some target) :
    ∃ place, continuation = .race target place ∧ inputs[place]? = some cell := by
  rcases mem_enlisted_iff.mp (linked.mem_iff.mpr ⟨attached, holds⟩) with ⟨place, same, known⟩
  exact ⟨place, by rw [same, Nat.zero_add], known⟩

/-- Every input has been linked. -/
theorem Linked.attached_of_race
    (linked : Linked target (enlisted (.race target ·) 0 inputs) chronicle) {cell : CellId}
    {place : Nat} (known : inputs[place]? = some cell) :
    chronicle.Attached cell (.race target place) :=
  (linked.mem_iff.mp (mem_enlisted_iff.mpr ⟨place, by rw [Nat.zero_add], known⟩)).1

/-- What comes in is the outcome of the input at the place. -/
theorem Linked.finish (linked : Linked target (enlisted (.race target ·) 0 inputs) chronicle)
    (sound : chronicle.Sound) (heard : chronicle.Heard) {arrival : Arrival}
    (member : arrival ∈ chronicle.finishes target) :
    ∃ cell, inputs[arrival.1]? = some cell ∧ chronicle.outcome? cell = some arrival.2 := by
  rcases mem_finishes.mp member with ⟨cell, begun⟩
  have known := attached_of_begun sound heard begun
  rcases linked.input_of_race known.1 rfl with ⟨place, same, input⟩
  cases same
  exact ⟨cell, input, known.2⟩

/-- When no settlement is under way, all inputs that have settled have come in. -/
theorem Linked.finishes (linked : Linked target (enlisted (.race target ·) 0 inputs) chronicle)
    (sound : chronicle.Sound)
    (calm : ∀ frame ∈ chronicle.machine.frames, frame.isDrain = false) {cell : CellId}
    {place : Nat} (input : inputs[place]? = some cell) {outcome : Outcome Value}
    (known : chronicle.outcome? cell = some outcome) :
    (place, outcome) ∈ chronicle.finishes target := by
  apply mem_finishes.mpr
  rcases begun_or_waits sound known (linked.attached_of_race input) with
    begun | ⟨rest, panic, under, _⟩
  · exact ⟨cell, begun⟩
  · cases calm _ under

end Finishing

end Chronicle

/-! ## The least place -/

/-- A place is the least at which its input occurs. -/
def Least (inputs : List CellId) (place : Nat) : Prop :=
  ∃ input, inputs[place]? = some input ∧ ∀ earlier < place, inputs[earlier]? ≠ some input

/-- Links are registered in the order of their places. -/
theorem enlisted_ordered (link : Nat → Continuation) (inputs : List CellId) (first : Nat) :
    (enlisted link first inputs).Pairwise fun former latter =>
      ∃ lesser greater, lesser < greater ∧ former.2 = link lesser ∧ latter.2 = link greater := by
  induction inputs generalizing first with
  | nil => exact List.Pairwise.nil
  | cons input rest inductionHypothesis =>
      refine List.pairwise_cons.mpr ⟨?_, inductionHypothesis (first + 1)⟩
      rintro ⟨cell, continuation⟩ member
      rcases Chronicle.mem_enlisted_iff.mp member with ⟨place, same, _⟩
      exact ⟨first, first + 1 + place, by omega, rfl, same⟩

/-- The first of all that some inputs bring comes from the least place of its input. -/
theorem Store.least_of_brought {store : Store} {inputs : List CellId} {arrival : Arrival}
    (head : (store.brought 0 inputs).head? = some arrival) : Least inputs arrival.1 := by
  rcases head?_brought_eq_some.mp head with ⟨place, input, number, known, has, unsettled⟩
  rw [number, Nat.zero_add]
  refine ⟨input, known, fun earlier before same => ?_⟩
  cases (unsettled earlier before input same).symm.trans has

namespace Chronicle

variable {script : List Action} {steps : Nat} {target : CellId} {inputs : List CellId}

/-- The link that runs first is the one from the least place of its input: another link from an
earlier place would have been registered earlier, and so it would have run. -/
theorem Linked.least (linked : Linked target (enlisted (.race target ·) 0 inputs) (after script steps))
    {arrival : Arrival} (alone : (after script steps).finishes target = [arrival])
    (running : (after script steps).machine.control = .run (.race target arrival.1) arrival.2) :
    Least inputs arrival.1 := by
  have sound := sound_after script steps
  rcases (running_in_settlement script steps running rfl).1 with ⟨cell, started⟩
  rcases linked.input_of_race (attached_of_begun sound (heard_after script steps) (Or.inl started)).1
    rfl with ⟨place, same, known⟩
  cases same
  refine ⟨cell, known, fun earlier before also => ?_⟩
  have waits : ∀ {given}, ¬(.started cell (.race target earlier) given ∈ (after script steps).events ∨
      .late cell (.race target earlier) given ∈ (after script steps).events) := by
    intro given begun
    have member := (mem_finishes.mpr ⟨cell, begun⟩ :
      (earlier, given) ∈ (after script steps).finishes target)
    rw [alone, List.mem_singleton] at member
    cases member
    exact Nat.lt_irrefl _ before
  rcases linked.attached_of_race also with registered | ⟨given, late⟩
  · rcases started_or_earlier sound registered started with ⟨given, begun⟩ | ordered
    · exact waits (Or.inl begun)
    · have among := ordered.filter fun entry => entry.2.target? == some target
      rw [linked.only] at among
      have pair := (enlisted_ordered (.race target ·) inputs 0).sublist among
      simp only [Continuation.target?, beq_self_eq_true, List.filter_cons_of_pos, List.filter_nil,
        List.pairwise_cons, List.mem_singleton, forall_eq] at pair
      rcases pair.1 with ⟨lesser, greater, less, former, latter⟩
      cases former
      cases latter
      exact Nat.lt_asymm before less
  · exact waits (Or.inr late)

end Chronicle

/-! ## The promise -/

namespace Chronicle

section Winning

variable {script : List Action} {steps : Nat} {target : CellId} {inputs : List CellId}
  {entered : List Arrival}

/-- At the call, the promise has what the first input brings that has settled. -/
theorem obeys_of_race {chronicle : Chronicle} (sound : chronicle.Sound)
    (accounted : chronicle.machine.Accounted) {fresh : String} {names : List String}
    (calls : chronicle.machine.control = .perform (.whenAny fresh names))
    (found : chronicle.machine.scene.cells names = .ok inputs) (some_input : inputs ≠ []) :
    Obeys chronicle.store.cells.length (winner (chronicle.store.brought 0 inputs))
      chronicle.advance.machine := by
  have there := Scene.cells_there sound.valid.named found
  have decision : chronicle.advance.machine.scene.store.outcome? chronicle.store.cells.length =
      winner (chronicle.store.brought 0 inputs) := by
    rw [machine_of_race calls found, Machine.answerIn, (Scene.letGo_bind _ _ _).outcome?_eq]
    exact Store.outcome?_whenAny chronicle.store some_input there
  constructor
  · exact fun known => decision.symm.trans known
  · intro outcome settling
    rw [machine_of_race calls found] at settling
    cases settling
  · exact fun decides => Or.inl (decision.trans decides)
  · intro value member
    rw [machine_of_race calls found] at member
    have old := accounted.backed.there accounted.account.account
      (fun holding held => List.mem_append_right _ (List.mem_append_right _ held)) member
    exact Nat.lt_irrefl _ old

/-- In a step the promise goes on to follow what has come in. -/
theorem obeys_race_advance
    (linked : Linked target (enlisted (.race target ·) 0 inputs) (after script steps))
    (came : (after script steps).finishes target =
      entered ++ ((after script steps).machine.control.finish? target).toList)
    (unnamed : ¬ SettledByName script target (steps + 1))
    (obeys : Obeys target (winner entered) (after script steps).machine) :
    Obeys target (winner ((after script steps).finishes target))
      (after script (steps + 1)).machine := by
  change Obeys target _ (after script steps).advance.machine
  rw [came]
  cases brings : (after script steps).machine.control.finish? target with
  | some arrival =>
      have doing := Control.finish?_eq_some.mp brings
      rcases running_in_settlement script steps doing rfl with ⟨_, rest, panic, frames, top⟩
      have moves : (after script steps).machine.step? = some ⟨(after script steps).machine.scene,
          .handingOn target (some (Store.raceOutcome arrival.1 arrival.2)),
          .letGo target :: (after script steps).machine.frames⟩ := by
        simp only [Machine.step?, doing]
        rfl
      rw [machine_of_step moves, Option.toList_some, winner_append]
      exact obeys.handOn (by rw [doing]; rfl) ⟨_, top ▸ List.mem_cons_self, rfl⟩ rfl _
  | none =>
      rw [Option.toList_none, List.append_nil]
      cases moves : (after script steps).machine.step? with
      | some next =>
          rw [machine_of_step moves]
          refine obeys.pass (sound_after script steps).valid (accounted_after script steps) moves
            linked.cells ?_ ?_
          · intro continuation outcome doing holds
            rcases attached_of_running script steps doing with ⟨cell, attached⟩
            rcases linked.input_of_race attached holds with ⟨place, rfl, _⟩
            have came : (after script steps).machine.control.finish? target =
                some (place, outcome) := Control.finish?_eq_some.mpr doing
            cases brings.symm.trans came
          · intro outcome byName unsettled
            exact unnamed ⟨steps, Nat.lt_succ_self _, unsettled, outcome, byName⟩
      | none => exact obeys_rest obeys moves

/-- At any time after the call the links of the call are the only ones, what has come in first came
from the least place of its input, and the promise follows what has come in unless somebody has
settled it by name. -/
theorem follows_race {start : Nat} {fresh : String} {names : List String}
    (calls : (after script start).machine.control = .perform (.whenAny fresh names))
    (found : (after script start).machine.scene.cells names = .ok inputs)
    (some_input : inputs ≠ []) (further : Nat) :
    ∃ entered,
      Linked (after script start).store.cells.length
        (enlisted (.race (after script start).store.cells.length ·) 0 inputs)
        (after script (start + 1 + further)) ∧
      (after script (start + 1 + further)).finishes (after script start).store.cells.length =
        entered ++ ((after script (start + 1 + further)).machine.control.finish?
          (after script start).store.cells.length).toList ∧
      (∀ {arrival}, ((after script (start + 1 + further)).finishes
          (after script start).store.cells.length).head? = some arrival → Least inputs arrival.1) ∧
      (¬ SettledByName script (after script start).store.cells.length (start + 1 + further) →
        Obeys (after script start).store.cells.length (winner entered)
          (after script (start + 1 + further)).machine) := by
  have sound := sound_after script start
  induction further with
  | zero =>
      have numbered := numbered_after script start
      have first : (after script (start + 1)).finishes (after script start).store.cells.length =
          (after script start).store.brought 0 inputs :=
        finishes_of_call sound (heard_after script start) numbered calls found
      refine ⟨(after script start).store.brought 0 inputs,
        linked_of_race sound numbered calls found some_input, ?_, ?_,
        fun _ => obeys_of_race sound (accounted_after script start) calls found some_input⟩
      · refine first.trans ?_
        have moved : (after script (start + 1)).machine = _ := machine_of_race calls found
        rw [Nat.add_zero, moved]
        exact (List.append_nil _).symm
      · intro arrival head
        rw [Nat.add_zero, first] at head
        exact Store.least_of_brought head
  | succ further inductionHypothesis =>
      rcases inductionHypothesis with ⟨entered, linked, came, least, obeys⟩
      have sound' := sound_after script (start + 1 + further)
      have next : after script (start + 1 + (further + 1)) =
          (after script (start + 1 + further)).advance := rfl
      have linked' := linked.advance sound'
      have comes := finishes_advance sound' linked.cells
      rw [← next] at linked' comes
      refine ⟨_, linked', comes, ?_, ?_⟩
      · intro arrival head
        cases before : (after script (start + 1 + further)).finishes
            (after script start).store.cells.length with
        | cons first rest =>
            rw [comes, before] at head
            exact least (before ▸ head)
        | nil =>
            rw [before, List.nil_append] at comes
            rw [comes, Option.head?_toList] at head
            rw [head] at comes
            exact Linked.least linked' comes (Control.finish?_eq_some.mp head)
      · intro unnamed
        exact obeys_race_advance linked came unnamed (obeys fun settled => unnamed settled.mono)

end Winning

end Chronicle

/-! ## A promise of the first value -/

namespace Chronicle

section Racing

variable {script : List Action} {steps : Nat} {target : CellId} {inputs : List CellId}
  {entered : List Arrival}

/-- A link that runs when the promise has settled lets go of it and goes on.  It says nothing, it
logs nothing, and it does not panic. -/
theorem loses {place : Nat} {given outcome : Outcome Value}
    (running : (after script steps).machine.control = .run (.race target place) given)
    (settled : (after script steps).outcome? target = some outcome) :
    (after script (steps + 3)).machine =
      ⟨{ (after script steps).machine.scene with
          store := (after script steps).store.release target },
        .answer .nothing, (after script steps).machine.frames⟩ := by
  have closed : ∀ continuations,
      (after script steps).machine.scene.store.state target ≠ .pending continuations := by
    intro continuations pending
    rw [Store.outcome?_eq_some.mp settled] at pending
    cases pending
  have tries : (after script (steps + 1)).machine = ⟨(after script steps).machine.scene,
      .settle target (Store.raceOutcome place given),
      .letGo target :: (after script steps).machine.frames⟩ := by
    have moves : (after script steps).machine.step? =
        some ((after script steps).machine.run (.race target place) given) := by
      simp only [Machine.step?, running]
    exact machine_of_step moves
  have refused : (after script (steps + 2)).machine = ⟨(after script steps).machine.scene,
      .answer .alreadySettled, .letGo target :: (after script steps).machine.frames⟩ := by
    have moves : (after script (steps + 1)).machine.step? = some _ := congrArg Machine.step? tries
    refine (machine_of_step moves).trans ?_
    simp only [Machine.settle, Store.settle?_eq_none.mpr closed]
    rfl
  have moves : (after script (steps + 2)).machine.step? = some _ := congrArg Machine.step? refused
  exact machine_of_step moves

/-- While no settlement is under way no link is running, so all that has come in counts. -/
theorem entered_of_calm
    (came : (after script steps).finishes target =
      entered ++ ((after script steps).machine.control.finish? target).toList)
    (calm : ∀ frame ∈ (after script steps).machine.frames, frame.isDrain = false) :
    (after script steps).finishes target = entered := by
  rw [came]
  cases brings : (after script steps).machine.control.finish? target with
  | none => rw [Option.toList_none, List.append_nil]
  | some arrival =>
      rcases running_in_settlement script steps (Control.finish?_eq_some.mp brings) rfl with
        ⟨_, rest, panic, frames, top⟩
      cases calm _ (top ▸ List.mem_cons_self)

/-- Nothing has come in exactly as long as no input has settled. -/
theorem Linked.finishes_eq_nil
    (linked : Linked target (enlisted (.race target ·) 0 inputs) (after script steps))
    (calm : ∀ frame ∈ (after script steps).machine.frames, frame.isDrain = false) :
    (after script steps).finishes target = [] ↔
      ∀ input ∈ inputs, (after script steps).outcome? input = none := by
  have sound := sound_after script steps
  constructor
  · intro nothing input member
    cases known : (after script steps).outcome? input with
    | none => rfl
    | some outcome =>
        rcases List.mem_iff_getElem?.mp member with ⟨place, there⟩
        have came := linked.finishes sound calm there known
        rw [nothing] at came
        cases came
  · intro unsettled
    apply List.eq_nil_iff_forall_not_mem.mpr
    intro arrival member
    rcases linked.finish sound (heard_after script steps) member with ⟨cell, known, has⟩
    cases (unsettled cell (List.mem_of_getElem? known)).symm.trans has

/-- What a call makes of some inputs: a promise of the first of their values under a new name. -/
structure Race (script : List Action) (start : Nat) (fresh : String) (inputs : List CellId)
    (target : CellId) : Prop where
  named : (after script (start + 1)).machine.scene.names.lookup fresh = some target
  /-- The call itself logs nothing and does not panic, whatever has settled before. -/
  silent : (after script (start + 1)).machine.control = .answer .nothing ∧
    (after script (start + 1)).machine.scene.logs = (after script start).machine.scene.logs
  /-- Without inputs it is rejected. -/
  nothing : inputs = [] → ∀ further,
    (after script (start + 1 + further)).outcome? target = some (.error .nothingToAwait)
  /-- The inputs that have settled come first, in their order, and the next is whatever link runs
  next. -/
  order : inputs ≠ [] →
    (after script (start + 1)).finishes target = (after script start).store.brought 0 inputs ∧
      ∀ further, (after script (start + 1 + further + 1)).finishes target =
        (after script (start + 1 + further)).finishes target ++
          ((after script (start + 1 + further + 1)).machine.control.finish? target).toList
  /-- What comes in is the outcome of the input at its place. -/
  reported : inputs ≠ [] → ∀ further,
    ∀ arrival ∈ (after script (start + 1 + further)).finishes target, ∃ input,
      inputs[arrival.1]? = some input ∧
        (after script (start + 1 + further)).outcome? input = some arrival.2
  /-- If an input has settled before, it has what the first of these has, in the order of the
  inputs. -/
  settled : ∀ {place input outcome}, inputs[place]? = some input →
    (after script start).outcome? input = some outcome →
    (∀ earlier < place, ∀ other, inputs[earlier]? = some other →
      (after script start).outcome? other = none) →
    ∀ further, (after script (start + 1 + further)).outcome? target =
      some (Store.raceOutcome place outcome)
  /-- Otherwise it has what the first link has brought that ran. -/
  first : inputs ≠ [] → ∀ further, ¬ SettledByName script target (start + 1 + further) →
    (∀ frame ∈ (after script (start + 1 + further)).machine.frames, frame.isDrain = false) →
    (after script (start + 1 + further)).outcome? target =
      winner ((after script (start + 1 + further)).finishes target)
  /-- That link comes from the least place at which its input occurs. -/
  least : inputs ≠ [] → ∀ further arrival,
    ((after script (start + 1 + further)).finishes target).head? = some arrival →
      Least inputs arrival.1
  unsettled : ∀ further, ¬ SettledByName script target (start + 1 + further) →
    (∀ frame ∈ (after script (start + 1 + further)).machine.frames, frame.isDrain = false) →
    ((after script (start + 1 + further)).outcome? target = none ↔
      inputs ≠ [] ∧ ∀ input ∈ inputs, (after script (start + 1 + further)).outcome? input = none)
  /-- A link that finds it settled lets go of it without a word. -/
  losers : ∀ further place given outcome,
    (after script (start + 1 + further)).machine.control = .run (.race target place) given →
    (after script (start + 1 + further)).outcome? target = some outcome →
      (after script (start + 1 + further + 3)).machine =
        ⟨{ (after script (start + 1 + further)).machine.scene with
            store := (after script (start + 1 + further)).store.release target },
          .answer .nothing, (after script (start + 1 + further)).machine.frames⟩
  /-- Whoever settles it by name before it has an outcome settles it with what they bring. -/
  overruled : ∀ further outcome, (after script (start + 1 + further)).outcome? target = none →
    (after script (start + 1 + further)).machine.SettlesByName target outcome →
      ∀ later, (after script (start + 1 + further + 2 + later)).outcome? target = some outcome
  /-- As long as it has no outcome it is pending for everybody who has kept it. -/
  pending : ∀ further, (after script (start + 1 + further)).outcome? target = none →
    (after script (start + 1 + further)).machine.Keeps target →
      ∃ continuations,
        (after script (start + 1 + further)).store.state target = .pending continuations
  /-- An outcome stays. -/
  stays : ∀ further outcome, (after script (start + 1 + further)).outcome? target = some outcome →
    ∀ later, (after script (start + 1 + further + later)).outcome? target = some outcome

/-- A promise of the first value has what the first input brings that has settled when it is made,
or else what the first link brings that runs, with the least place of its input.  It makes no
difference whether that is a value or a failure.  Nothing that settles later changes it, and the
links that come too late lose in silence.  Like any promise it can also be settled by somebody who
has a name of it; whoever does so before an input has settled has decided. -/
theorem races_to_the_first {start : Nat} {fresh : String} {names : List String}
    (calls : (after script start).machine.control = .perform (.whenAny fresh names))
    (found : (after script start).machine.scene.cells names = .ok inputs) :
    Race script start fresh inputs (after script start).store.cells.length := by
  have sound := sound_after script start
  have there := Scene.cells_there sound.valid.named found
  have moved : (after script (start + 1)).machine = _ := machine_of_race calls found
  have empty : inputs = [] → ∀ further, (after script (start + 1 + further)).outcome?
      (after script start).store.cells.length = some (.error .nothingToAwait) := by
    rintro rfl further
    refine outcome?_stays ?_ further
    rw [outcome?, moved, Machine.answerIn, (Scene.letGo_bind _ _ _).outcome?_eq]
    exact Store.outcome?_eq_some.mpr (Store.state_addCell_new _ _)
  have named := (Store.combines_whenAny (after script start).store inputs there).target
  constructor
  · rw [moved, Machine.answerIn, Scene.names_bind, List.lookup_cons_self]
    exact congrArg some named
  · rw [moved]
    exact ⟨rfl, Scene.logs_bind _ _ _⟩
  · exact empty
  · intro some_input
    refine ⟨finishes_of_call sound (heard_after script start) (numbered_after script start) calls
      found, fun further => ?_⟩
    rcases follows_race calls found some_input further with ⟨entered, linked, _⟩
    exact finishes_advance (sound_after script (start + 1 + further)) linked.cells
  · intro some_input further arrival member
    rcases follows_race calls found some_input further with ⟨entered, linked, _⟩
    exact linked.finish (sound_after _ _) (heard_after _ _) member
  · intro place input outcome known has unsettled further
    have some_input : inputs ≠ [] := List.ne_nil_of_mem (List.mem_of_getElem? known)
    have first : ((after script start).store.brought 0 inputs).head? = some (place, outcome) :=
      Store.head?_brought_eq_some.mpr
        ⟨place, input, (Nat.zero_add place).symm, known, has, unsettled⟩
    have wins : winner ((after script start).store.brought 0 inputs) =
        some (Store.raceOutcome place outcome) := by
      rw [winner, first]
      rfl
    refine outcome?_stays ?_ further
    rw [outcome?, moved, Machine.answerIn, (Scene.letGo_bind _ _ _).outcome?_eq, ← wins]
    exact Store.outcome?_whenAny (after script start).store some_input there
  · intro some_input further unnamed calm
    rcases follows_race calls found some_input further with ⟨entered, linked, came, _, obeys⟩
    rw [entered_of_calm came calm]
    exact outcome?_of_calm (obeys unnamed) calm
  · intro some_input further arrival head
    rcases follows_race calls found some_input further with ⟨entered, _, _, least, _⟩
    exact least head
  · intro further unnamed calm
    by_cases some_input : inputs = []
    · rw [empty some_input]
      exact iff_of_false (Option.some_ne_none _) fun both => both.1 some_input
    · rcases follows_race calls found some_input further with ⟨entered, linked, came, _, obeys⟩
      rw [outcome?_of_calm (obeys unnamed) calm, winner_eq_none, ← entered_of_calm came calm,
        linked.finishes_eq_nil calm, and_iff_right some_input]
  · exact fun further place given outcome running settled => loses running settled
  · exact fun further outcome unsettled byName => outcome?_of_settlesByName unsettled byName
  · exact fun further unsettled kept => pending_of_kept unsettled kept
  · exact fun further outcome known later => outcome?_stays known later

/-- The inputs are settled in a continuation of another promise, the second of them first. -/
theorem races_an_input_twice :
    let script : List Action :=
      [.create "a", .create "b", .create "c",
        .onComplete "c" "c settled" [.reject "b" .nothingToAwait, .resolve "a" (.whole 1)],
        .whenAny "any" ["a", "b", "a", "b"], .resolve "c" (.whole 2)]
    (after script 9).machine.control = .perform (.whenAny "any" ["a", "b", "a", "b"]) ∧
      (after script 9).machine.scene.cells ["a", "b", "a", "b"] = .ok [0, 1, 0, 1] ∧
      Race script 9 "any" [0, 1, 0, 1] 3 :=
  ⟨rfl, rfl, races_to_the_first rfl rfl⟩

example :
    (after [.create "a", .create "b", .create "c",
      .onComplete "c" "c settled" [.reject "b" .nothingToAwait, .resolve "a" (.whole 1)],
      .whenAny "any" ["a", "b", "a", "b"], .resolve "c" (.whole 2)] 40).outcome? 3 =
        some (.error .nothingToAwait) := rfl

end Racing

end Chronicle

end Promise
end PromiseHttp
