import PromiseHttp.Proofs.Promise.Chronicle

namespace PromiseHttp
namespace Promise

/-!
# Settlements under way

Settlements nest.  A continuation may settle another cell, whose continuations settle further cells
and register on the first again.  The invariant that survives all of this pairs every settlement
frame with the settlement that the chronicle has written down: the story of its cell tells of the
continuations that have run and of the one that is running, and the frame holds what is still to run
and the first panic so far.  Cells without a settlement under way have nothing to wait for: their
story is that of the continuations registered on them, or it is whole.
-/

/-- A settlement under way, as the story of its cell tells it, and the frame that carries it out. -/
structure Underway (events : List Event) (store : Store) (current : Settlement)
    (outcome : Outcome Value) (rest : List Continuation) (panic : Option String)
    (caller : List Frame) : Prop where
  settled : store.state current.cell = .settled outcome
  told : ∃ ran,
    storyOf events current.cell =
        tale current.cell outcome caller
          (ran.map Prod.fst ++ (current.running.toList ++ rest)) ran ++
        current.running.toList.map (.started current.cell · outcome) ∧
      panic = firstPanic ran

/-- The settlement frames, from the top, belong to the settlements written down, the innermost
first. -/
inductive Tracks (events : List Event) (store : Store) : List Frame → List Settlement → Prop where
  | none : Tracks events store [] []
  | other {frame : Frame} {frames : List Frame} {settling : List Settlement}
      (plain : frame.isDrain = false) (below : Tracks events store frames settling) :
      Tracks events store (frame :: frames) settling
  | drain {outcome : Outcome Value} {rest : List Continuation} {panic : Option String}
      {frames : List Frame} {current : Settlement} {outer : List Settlement}
      (underway : Underway events store current outcome rest panic frames)
      (apart : ∀ settlement ∈ outer, settlement.cell ≠ current.cell)
      (below : Tracks events store frames outer) :
      Tracks events store (.drain outcome rest panic :: frames) (current :: outer)

/-- A cell without a settlement under way and its story. -/
def Rests (cell : CellId) : CellState → List Event → Prop
  | .pending continuations, story => story = continuations.map (.registered cell)
  | .settled outcome, story =>
    story = [] ∨ ∃ caller ran, story = wholeTale cell outcome caller ran
  | .abandoned, story => ∃ continuations : List Continuation,
    story = continuations.map (.registered cell)

/-- A settlement that has just begun is on top of the frames, and the machine is about to go on with
it.  All others are running a continuation. -/
inductive Busy (chronicle : Chronicle) : Prop where
  | running (all : ∀ settlement ∈ chronicle.settling, settlement.running ≠ none)
  | begun {cell : CellId} {outer : List Settlement} {outcome : Outcome Value}
      {rest : List Continuation} {panic : Option String} {frames : List Frame}
      (first : chronicle.settling = ⟨cell, none⟩ :: outer)
      (top : chronicle.machine.frames = .drain outcome rest panic :: frames)
      (answers : chronicle.machine.control = .answer .nothing)
      (others : ∀ settlement ∈ outer, settlement.running ≠ none)

namespace Chronicle

/-- The cells of a chronicle. -/
def store (chronicle : Chronicle) : Store := chronicle.machine.scene.store

/-- What holds of a chronicle at any time. -/
structure Sound (chronicle : Chronicle) : Prop where
  valid : chronicle.machine.Valid
  tracks : Tracks chronicle.events chronicle.store chronicle.machine.frames chronicle.settling
  busy : Busy chronicle
  resting : ∀ cell, (∀ settlement ∈ chronicle.settling, settlement.cell ≠ cell) →
    Rests cell (chronicle.store.state cell) (chronicle.story cell)
  unborn : ∀ cell, chronicle.store.cells.length ≤ cell → chronicle.story cell = []
  late : ∀ {cell continuation outcome}, .late cell continuation outcome ∈ chronicle.events →
    chronicle.store.state cell = .settled outcome

end Chronicle

/-! ## What tracking survives -/

/-- A settlement stays under way while the story of its cell and its outcome stay. -/
theorem Underway.mono {events events' : List Event} {store store' : Store} {current : Settlement}
    {outcome : Outcome Value} {rest : List Continuation} {panic : Option String}
    {caller : List Frame}
    (underway : Underway events store current outcome rest panic caller)
    (same : storyOf events' current.cell = storyOf events current.cell)
    (kept : store'.state current.cell = .settled outcome) :
    Underway events' store' current outcome rest panic caller where
  settled := kept
  told := by
    rw [same]
    exact underway.told

theorem Tracks.mono {events events' : List Event} {store store' : Store} {frames : List Frame}
    {settling : List Settlement} (tracks : Tracks events store frames settling)
    (same : ∀ settlement ∈ settling,
      storyOf events' settlement.cell = storyOf events settlement.cell)
    (kept : ∀ settlement ∈ settling, ∀ outcome, store.state settlement.cell = .settled outcome →
      store'.state settlement.cell = .settled outcome) :
    Tracks events' store' frames settling := by
  induction tracks with
  | none => exact .none
  | other plain below inductionHypothesis => exact .other plain (inductionHypothesis same kept)
  | drain underway apart below inductionHypothesis =>
      refine .drain ?_ apart (inductionHypothesis ?_ ?_)
      · exact underway.mono (same _ List.mem_cons_self)
          (kept _ List.mem_cons_self _ underway.settled)
      · exact fun settlement member => same settlement (List.mem_cons_of_mem _ member)
      · exact fun settlement member => kept settlement (List.mem_cons_of_mem _ member)

/-- New frames that are no settlements. -/
theorem Tracks.pile {events : List Event} {store : Store} {frames : List Frame} {after : Machine}
    {settling : List Settlement} (tracks : Tracks events store frames settling)
    (piles : Piles frames after) : Tracks events store after.frames settling := by
  rcases piles with ⟨above, same, plain⟩
  rw [same]
  clear same
  induction above with
  | nil => exact tracks
  | cons frame rest inductionHypothesis =>
      refine .other (plain frame List.mem_cons_self).1 (inductionHypothesis ?_)
      exact fun other member => plain other (List.mem_cons_of_mem _ member)

/-- A frame that is no settlement can be taken off. -/
theorem Tracks.pop {events : List Event} {store : Store} {frame : Frame} {frames : List Frame}
    {settling : List Settlement} (tracks : Tracks events store (frame :: frames) settling)
    (plain : frame.isDrain = false) : Tracks events store frames settling := by
  cases tracks with
  | other _ below => exact below
  | drain underway apart below => cases plain

/-- A settlement frame belongs to the innermost settlement. -/
theorem Tracks.top {events : List Event} {store : Store} {outcome : Outcome Value}
    {rest : List Continuation} {panic : Option String} {frames : List Frame}
    {settling : List Settlement}
    (tracks : Tracks events store (.drain outcome rest panic :: frames) settling) :
    ∃ current outer, settling = current :: outer ∧
      Underway events store current outcome rest panic frames ∧
      (∀ settlement ∈ outer, settlement.cell ≠ current.cell) ∧
      Tracks events store frames outer := by
  cases tracks with
  | other plain _ => cases plain
  | drain underway apart below => exact ⟨_, _, rfl, underway, apart, below⟩

/-- Settlements under way are settlements of cells that have settled. -/
theorem Tracks.settled {events : List Event} {store : Store} {frames : List Frame}
    {settling : List Settlement} (tracks : Tracks events store frames settling) :
    ∀ settlement ∈ settling, ∃ outcome, store.state settlement.cell = .settled outcome := by
  induction tracks with
  | none =>
      intro settlement member
      cases member
  | other _ _ inductionHypothesis => exact inductionHypothesis
  | drain underway apart below inductionHypothesis =>
      intro settlement member
      rcases List.mem_cons.mp member with rfl | outer
      · exact ⟨_, underway.settled⟩
      · exact inductionHypothesis settlement outer

/-- Without settlement frames there are no settlements under way. -/
theorem Tracks.done {events : List Event} {store : Store} {frames : List Frame}
    {settling : List Settlement} (tracks : Tracks events store frames settling)
    (calm : ∀ frame ∈ frames, frame.isDrain = false) : settling = [] := by
  induction tracks with
  | none => rfl
  | other _ _ inductionHypothesis =>
      exact inductionHypothesis fun frame member => calm frame (List.mem_cons_of_mem _ member)
  | drain _ _ _ _ => cases calm _ List.mem_cons_self

/-! ## Steps -/

namespace Chronicle

/-- Only a settlement on top can have begun. -/
theorem Sound.running_of_plain {chronicle : Chronicle} (sound : chronicle.Sound)
    (plain : ∀ outcome rest panic frames,
      chronicle.machine.frames = .drain outcome rest panic :: frames →
      chronicle.machine.control ≠ .answer .nothing) :
    ∀ settlement ∈ chronicle.settling, settlement.running ≠ none := by
  cases sound.busy with
  | running all => exact all
  | begun first top answers others => exact absurd answers (plain _ _ _ _ top)

/-- A cell that rests goes on resting while it is joined or let go of, and its story takes down by
whom it is joined. -/
theorem Sound.rests_of_grows {chronicle : Chronicle} (sound : chronicle.Sound)
    {added : List (CellId × Continuation)} {after : Store}
    (grows : Store.CellsGrow added chronicle.store after)
    (there : ∀ entry ∈ added, entry.1 < chronicle.store.cells.length) {cell : CellId}
    (rests : Rests cell (chronicle.store.state cell) (chronicle.story cell)) :
    Rests cell (after.state cell) (storyOf (chronicle.events ++
      added.map (.ofRegistration chronicle.store)) cell) := by
  rw [storyOf_append]
  by_cases old : cell < chronicle.store.cells.length
  · cases found : chronicle.store.state cell with
    | settled outcome =>
        rw [storyOf_registrations_settled found, List.append_nil, grows.settled found]
        rw [found] at rests
        exact rests
    | pending continuations =>
        have unsettled : chronicle.store.outcome? cell = none := by
          simp only [Store.outcome?, found]
        rw [found] at rests
        have joined : storyOf chronicle.events cell ++
            (Store.joining cell added).map (.registered cell) =
            (continuations ++ Store.joining cell added).map (.registered cell) := by
          rw [List.map_append]
          exact congrArg (· ++ _) rests
        rw [storyOf_registrations unsettled, joined]
        rcases grows.pending found with pending | gone
        · rw [pending]
          rfl
        · rw [gone]
          exact ⟨_, rfl⟩
    | abandoned =>
        have unsettled : chronicle.store.outcome? cell = none := by
          simp only [Store.outcome?, found]
        rw [found] at rests
        rcases rests with ⟨continuations, told⟩
        rw [storyOf_registrations unsettled, grows.abandoned old found]
        refine ⟨continuations ++ Store.joining cell added, ?_⟩
        rw [List.map_append]
        exact congrArg (· ++ _) told
  · -- a cell that has just come into being has no story yet
    have beyond : chronicle.store.cells.length ≤ cell := Nat.le_of_not_lt old
    have unsettled : chronicle.store.outcome? cell = none := by
      simp only [Store.outcome?, Store.state_of_none (List.getElem?_eq_none beyond)]
    have alone : Store.joining cell added = [] := by
      apply Store.joining_eq_nil
      intro entry member same
      exact old (same ▸ there entry member)
    have bare : storyOf chronicle.events cell = [] := sound.unborn cell beyond
    rw [storyOf_registrations unsettled, alone, bare]
    cases found : after.state cell with
    | settled outcome => exact Or.inl rfl
    | pending continuations =>
        rw [grows.fresh beyond found]
        rfl
    | abandoned => exact ⟨[], rfl⟩

/-- A step in which the cells grow. -/
theorem Sound.grow {chronicle : Chronicle} (sound : chronicle.Sound)
    {added : List (CellId × Continuation)} {next : Machine} (valid : next.Valid)
    (running : ∀ settlement ∈ chronicle.settling, settlement.running ≠ none)
    (tracks : Tracks chronicle.events chronicle.store next.frames chronicle.settling)
    (grows : Store.CellsGrow added chronicle.store next.scene.store)
    (there : ∀ entry ∈ added, entry.1 < chronicle.store.cells.length) :
    Sound { chronicle with
      machine := next
      events := chronicle.events ++ added.map (.ofRegistration chronicle.store) } where
  valid := valid
  tracks := by
    refine tracks.mono ?_ (fun _ _ _ found => grows.settled found)
    intro settlement member
    rcases sound.tracks.settled settlement member with ⟨outcome, settled⟩
    rw [storyOf_append, storyOf_registrations_settled settled, List.append_nil]
  busy := .running running
  resting := fun cell free => sound.rests_of_grows grows there (sound.resting cell free)
  unborn := by
    intro cell beyond
    have before : chronicle.store.cells.length ≤ cell := Nat.le_trans grows.cells beyond
    have unsettled : chronicle.store.outcome? cell = none := by
      simp only [Store.outcome?, Store.state_of_none (List.getElem?_eq_none before)]
    have alone : Store.joining cell added = [] := by
      apply Store.joining_eq_nil
      intro entry member same
      exact Nat.not_lt_of_le before (same ▸ there entry member)
    have bare : storyOf chronicle.events cell = [] := sound.unborn cell before
    simp only [story, storyOf_append, storyOf_registrations unsettled, alone, bare]
    rfl
  late := by
    intro cell continuation outcome member
    rcases List.mem_append.mp member with earlier | new
    · exact grows.settled (sound.late earlier)
    · rcases List.mem_map.mp new with ⟨entry, _, told⟩
      unfold Event.ofRegistration at told
      split at told
      · cases told
      · next found =>
          cases told
          exact grows.settled (Store.outcome?_eq_some.mp found)

/-- A step in which nothing is registered. -/
theorem Sound.quiet {chronicle : Chronicle} (sound : chronicle.Sound) {next : Machine}
    (valid : next.Valid) (running : ∀ settlement ∈ chronicle.settling, settlement.running ≠ none)
    (tracks : Tracks chronicle.events chronicle.store next.frames chronicle.settling)
    (grows : Store.CellsGrow [] chronicle.store next.scene.store) :
    Sound { chronicle with machine := next } := by
  have grown := sound.grow valid running tracks grows (fun _ member => absurd member List.not_mem_nil)
  rw [List.map_nil, List.append_nil] at grown
  exact grown

/-- A step that settles a pending cell. -/
theorem Sound.settle {chronicle : Chronicle} (sound : chronicle.Sound) {cell : CellId}
    {outcome : Outcome Value} {continuations : List Continuation} {next : Machine}
    (valid : next.Valid) (doing : chronicle.machine.control = .settle cell outcome)
    (pending : chronicle.store.state cell = .pending continuations)
    (result : next = Machine.mk
      { chronicle.machine.scene with store := chronicle.store.setState cell (.settled outcome) }
      (.answer .nothing) (.drain outcome continuations none :: chronicle.machine.frames)) :
    Sound { chronicle with
      machine := next
      settling := ⟨cell, none⟩ :: chronicle.settling
      events := chronicle.events ++ [.settled cell outcome chronicle.machine.frames] } := by
  subst result
  have there : cell < chronicle.store.cells.length :=
    Store.there_of_pending pending
  have free : ∀ settlement ∈ chronicle.settling, settlement.cell ≠ cell := by
    intro settlement member same
    rcases sound.tracks.settled settlement member with ⟨other, settled⟩
    rw [same, pending] at settled
    cases settled
  have others : ∀ other, other ≠ cell →
      storyOf (chronicle.events ++ [.settled cell outcome chronicle.machine.frames]) other =
        storyOf chronicle.events other :=
    fun other different => storyOf_concat_other _ (beq_false_of_ne (Ne.symm different))
  have kept : ∀ other, other ≠ cell →
      (chronicle.store.setState cell (.settled outcome)).state other =
        chronicle.store.state other :=
    fun other different => Store.state_setState_of_ne _ different _
  have running : ∀ settlement ∈ chronicle.settling, settlement.running ≠ none := by
    apply sound.running_of_plain
    intro _ _ _ _ _ answers
    rw [doing] at answers
    cases answers
  have before : storyOf chronicle.events cell = continuations.map (.registered cell) := by
    have rests := sound.resting cell free
    rw [pending] at rests
    exact rests
  refine ⟨valid, .drain ⟨?_, [], ?_, rfl⟩ free ?_, .begun rfl rfl rfl running, ?_, ?_, ?_⟩
  · exact Store.state_setState _ there _
  · have here : Event.concerns cell (.settled cell outcome chronicle.machine.frames) = true :=
      beq_self_eq_true cell
    rw [storyOf_concat_self _ here, before]
    simp only [tale, Option.toList_none, List.map_nil, List.nil_append, List.flatMap_nil,
      List.append_nil]
  · refine sound.tracks.mono ?_ ?_
    · exact fun settlement member => others _ (free settlement member)
    · intro settlement member other settled
      exact (kept _ (free settlement member)).trans settled
  · intro other alone
    have different : other ≠ cell := fun same => alone _ List.mem_cons_self same.symm
    have rests : Rests other (chronicle.store.state other) (storyOf chronicle.events other) :=
      sound.resting other fun settlement member =>
        alone settlement (List.mem_cons_of_mem _ member)
    rw [← others other different, ← kept other different] at rests
    exact rests
  · intro other beyond
    have beyond' : chronicle.store.cells.length ≤ other :=
      Nat.le_trans (Nat.le_of_eq (Store.length_setState _ _ _).symm) beyond
    have different : other ≠ cell := fun same => Nat.not_lt_of_le beyond' (same ▸ there)
    exact (others other different).trans (sound.unborn other beyond')
  · intro other continuation another member
    rcases List.mem_append.mp member with earlier | new
    · have settled := sound.late earlier
      have different : other ≠ cell := by
        intro same
        rw [same, pending] at settled
        cases settled
      exact (kept other different).trans settled
    · cases List.mem_singleton.mp new

end Chronicle

/-- The panics of continuations one after another. -/
theorem firstPanic_concat (ran : List Ran) (continuation : Continuation)
    (failure : Option String) :
    firstPanic (ran ++ [(continuation, failure)]) = (firstPanic ran).or failure := by
  unfold firstPanic
  rw [List.findSome?_append]
  cases failure <;> rfl

/-- What is written down when a settlement goes on: the end of the continuation that was running, if
one was, and one thing more. -/
def Settlement.turn (current : Settlement) (failure : Option String) (next : Event) : List Event :=
  current.running.toList.map (.ended current.cell · failure (complaints failure)) ++ [next]

theorem mem_turn {current : Settlement} {failure : Option String} {next event : Event}
    (member : event ∈ current.turn failure next) :
    (∃ running, event = .ended current.cell running failure (complaints failure)) ∨
      event = next := by
  rcases List.mem_append.mp member with ending | final
  · rcases List.mem_map.mp ending with ⟨running, _, told⟩
    exact Or.inl ⟨running, told.symm⟩
  · exact Or.inr (List.mem_singleton.mp final)

/-- The stories of other cells stay as they are. -/
theorem storyOf_turn_other (events : List Event) {current : Settlement} {failure : Option String}
    {next : Event} {cell : CellId} (different : cell ≠ current.cell)
    (elsewhere : next.concerns cell = false) :
    storyOf (events ++ current.turn failure next) cell = storyOf events cell := by
  have nothing : storyOf (current.turn failure next) cell = [] := by
    apply storyOf_eq_nil
    intro event member
    rcases mem_turn member with ⟨running, rfl⟩ | rfl
    · exact beq_false_of_ne (Ne.symm different)
    · exact elsewhere
  rw [storyOf_append, nothing, List.append_nil]

/-- When the continuation that is running ends, all that were registered before the rest have run.
A settlement that has only begun has no continuation that could panic. -/
theorem Underway.turn {events : List Event} {store : Store} {current : Settlement}
    {outcome : Outcome Value} {rest : List Continuation} {panic : Option String}
    {caller : List Frame}
    (underway : Underway events store current outcome rest panic caller) (failure : Option String)
    (begun : current.running = none → failure = none) :
    ∃ ran, panic.or failure = firstPanic ran ∧
      ∀ {next : Event}, next.concerns current.cell = true →
        storyOf (events ++ current.turn failure next) current.cell =
          tale current.cell outcome caller (ran.map Prod.fst ++ rest) ran ++ [next] := by
  rcases underway.told with ⟨ran, told, first⟩
  cases running : current.running with
  | none =>
      rw [running] at told
      refine ⟨ran, ?_, ?_⟩
      · rw [begun running, Option.or_none]
        exact first
      · intro next here
        simp only [Option.toList_none, List.map_nil, List.append_nil, List.nil_append] at told
        simp only [Settlement.turn, running, Option.toList_none, List.map_nil, List.nil_append]
        rw [storyOf_concat_self _ here, told]
  | some continuation =>
      rw [running] at told
      refine ⟨ran ++ [(continuation, failure)], ?_, ?_⟩
      · rw [firstPanic_concat, first]
      · intro next here
        have ending : Event.concerns current.cell
            (.ended current.cell continuation failure (complaints failure)) = true :=
          beq_self_eq_true current.cell
        simp only [Option.toList_some, List.map_cons, List.map_nil] at told
        simp only [Settlement.turn, running, Option.toList_some, List.map_cons, List.map_nil]
        rw [← List.append_assoc, storyOf_concat_self _ here, storyOf_concat_self _ ending, told]
        simp only [tale, round, List.map_append, List.map_cons, List.map_nil, List.flatMap_append,
          List.flatMap_cons, List.flatMap_nil, List.append_assoc, List.cons_append,
          List.nil_append]

namespace Chronicle

/-- The settlement on top goes on with a further continuation. -/
theorem recordEnding_next {chronicle : Chronicle} {failure : Option String}
    {outcome : Outcome Value} {continuation : Continuation} {rest : List Continuation}
    {panic : Option String} {frames : List Frame} {current : Settlement} {outer : List Settlement}
    {next : Machine}
    (top : chronicle.machine.frames = .drain outcome (continuation :: rest) panic :: frames)
    (first : chronicle.settling = current :: outer)
    (logs : next.scene.logs = chronicle.machine.scene.logs ++ complaints failure) :
    chronicle.recordEnding failure next =
      { chronicle with
        machine := next
        settling := ⟨current.cell, some continuation⟩ :: outer
        events := chronicle.events ++
          current.turn failure (.started current.cell continuation outcome) } := by
  simp only [recordEnding, top, first, logs, List.drop_left, Settlement.turn, List.append_assoc]

/-- The settlement on top is over. -/
theorem recordEnding_last {chronicle : Chronicle} {failure : Option String}
    {outcome : Outcome Value} {panic : Option String} {frames : List Frame}
    {current : Settlement} {outer : List Settlement} {next : Machine}
    (top : chronicle.machine.frames = .drain outcome [] panic :: frames)
    (first : chronicle.settling = current :: outer)
    (logs : next.scene.logs = chronicle.machine.scene.logs ++ complaints failure) :
    chronicle.recordEnding failure next =
      { chronicle with
        machine := next
        settling := outer
        events := chronicle.events ++
          current.turn failure (.returned current.cell next.frames next.control) } := by
  simp only [recordEnding, top, first, logs, List.drop_left, Settlement.turn, List.append_assoc]

/-- What is known when the settlement on top goes on: of its cell, of the continuations that have
run by then, and of the settlements below it. -/
structure Topmost (chronicle : Chronicle) (failure : Option String) (outcome : Outcome Value)
    (rest : List Continuation) (frames : List Frame) (current : Settlement)
    (outer : List Settlement) (ran : List Ran) : Prop where
  first : chronicle.settling = current :: outer
  settled : chronicle.store.state current.cell = .settled outcome
  told : ∀ {next : Event}, next.concerns current.cell = true →
    storyOf (chronicle.events ++ current.turn failure next) current.cell =
      tale current.cell outcome frames (ran.map Prod.fst ++ rest) ran ++ [next]
  apart : ∀ settlement ∈ outer, settlement.cell ≠ current.cell
  below : Tracks chronicle.events chronicle.store frames outer
  running : ∀ settlement ∈ outer, settlement.running ≠ none

theorem Sound.topmost {chronicle : Chronicle} (sound : chronicle.Sound) {failure : Option String}
    {outcome : Outcome Value} {rest : List Continuation} {panic : Option String}
    {frames : List Frame} (doing : chronicle.machine.control.ending? = some failure)
    (top : chronicle.machine.frames = .drain outcome rest panic :: frames) :
    ∃ current outer ran, chronicle.Topmost failure outcome rest frames current outer ran ∧
      panic.or failure = firstPanic ran := by
  have tracks := sound.tracks
  rw [top] at tracks
  rcases tracks.top with ⟨current, outer, first, underway, apart, below⟩
  -- only a running continuation can have panicked, and below the top all are running
  have calm : (current.running = none → failure = none) ∧
      ∀ settlement ∈ outer, settlement.running ≠ none := by
    cases sound.busy with
    | running all =>
        rw [first] at all
        constructor
        · intro idle
          exact absurd idle (all current List.mem_cons_self)
        · exact fun settlement member => all settlement (List.mem_cons_of_mem _ member)
    | begun first' _ answers others =>
        rw [first] at first'
        cases first'
        rw [answers] at doing
        cases doing
        exact ⟨fun _ => rfl, others⟩
  rcases underway.turn failure calm.1 with ⟨ran, panics, told⟩
  exact ⟨current, outer, ran, ⟨first, underway.settled, told, apart, below, calm.2⟩, panics⟩

section

variable {chronicle : Chronicle} {failure : Option String} {outcome : Outcome Value}
  {rest : List Continuation} {frames : List Frame} {current : Settlement}
  {outer : List Settlement} {ran : List Ran}

/-- The settlements below the top do not notice. -/
theorem Topmost.tracks
    (topmost : chronicle.Topmost failure outcome rest frames current outer ran) {event : Event}
    (foreign : ∀ cell, cell ≠ current.cell → event.concerns cell = false) :
    Tracks (chronicle.events ++ current.turn failure event) chronicle.store frames outer := by
  refine topmost.below.mono ?_ (fun _ _ _ settled => settled)
  intro settlement member
  have different := topmost.apart settlement member
  exact storyOf_turn_other _ different (foreign _ different)

/-- A step in which the settlement on top goes on concerns its cell alone, and leaves the cells as
they are. -/
theorem Topmost.sound
    (topmost : chronicle.Topmost failure outcome rest frames current outer ran)
    (sound : chronicle.Sound) {next : Machine} {event : Event} {settling : List Settlement}
    (valid : next.Valid) (store : next.scene.store = chronicle.store)
    (foreign : ∀ cell, cell ≠ current.cell → event.concerns cell = false)
    (punctual : ∀ cell continuation outcome, event ≠ .late cell continuation outcome)
    (remaining : ∀ settlement ∈ outer, settlement ∈ settling)
    (tracks : Tracks (chronicle.events ++ current.turn failure event) chronicle.store next.frames
      settling)
    (running : ∀ settlement ∈ settling, settlement.running ≠ none)
    (own : (∀ settlement ∈ settling, settlement.cell ≠ current.cell) →
      Rests current.cell (.settled outcome)
        (storyOf (chronicle.events ++ current.turn failure event) current.cell)) :
    Sound { chronicle with
      machine := next
      settling := settling
      events := chronicle.events ++ current.turn failure event } where
  valid := valid
  tracks := by
    simp only [Chronicle.store, store]
    exact tracks
  busy := .running running
  resting := by
    intro cell free
    simp only [Chronicle.store, store]
    by_cases same : cell = current.cell
    · subst same
      rw [show chronicle.machine.scene.store.state current.cell = _ from topmost.settled]
      exact own free
    · rw [story, storyOf_turn_other _ same (foreign cell same)]
      apply sound.resting
      intro settlement member here
      rw [topmost.first] at member
      rcases List.mem_cons.mp member with rfl | outside
      · exact same here.symm
      · exact free settlement (remaining settlement outside) here
  unborn := by
    intro cell beyond
    simp only [Chronicle.store, store] at beyond
    have different : cell ≠ current.cell := by
      rintro rfl
      exact Nat.not_lt_of_le beyond (Store.there_of_settled topmost.settled)
    rw [story, storyOf_turn_other _ different (foreign cell different)]
    exact sound.unborn cell beyond
  late := by
    intro cell continuation other member
    simp only [Chronicle.store, store]
    rcases List.mem_append.mp member with earlier | new
    · exact sound.late earlier
    · rcases mem_turn new with ⟨_, told⟩ | told
      · cases told
      · exact absurd told.symm (punctual _ _ _)

end

/-- A step in which the settlement on top goes on. -/
theorem Sound.goOn {chronicle : Chronicle} (sound : chronicle.Sound) {failure : Option String}
    {outcome : Outcome Value} {rest : List Continuation} {panic : Option String}
    {frames : List Frame} {next : Machine} (valid : next.Valid)
    (doing : chronicle.machine.control.ending? = some failure)
    (top : chronicle.machine.frames = .drain outcome rest panic :: frames)
    (result : next = Machine.drainOn
      { chronicle.machine with
        scene := chronicle.machine.scene.afterEnding failure, frames := frames }
      outcome rest (panic.or failure)) :
    (chronicle.record next).Sound := by
  have scene : next.scene = chronicle.machine.scene.afterEnding failure := by
    rw [result, Machine.scene_drainOn]
  have store : next.scene.store = chronicle.store := by
    rw [scene]
    exact Scene.store_afterEnding _ _
  have logs : next.scene.logs = chronicle.machine.scene.logs ++ complaints failure := by
    rw [scene]
    exact Scene.logs_afterEnding _ _
  rcases sound.topmost doing top with ⟨current, outer, ran, topmost, panics⟩
  rw [record_ending doing]
  cases rest with
  | cons continuation rest =>
      rw [recordEnding_next top topmost.first logs]
      have frames' : next.frames = .drain outcome rest (panic.or failure) :: frames := by
        rw [result]
        rfl
      have here : Event.concerns current.cell (.started current.cell continuation outcome) = true :=
        beq_self_eq_true current.cell
      have foreign : ∀ cell, cell ≠ current.cell →
          Event.concerns cell (.started current.cell continuation outcome) = false :=
        fun cell different => beq_false_of_ne (Ne.symm different)
      refine topmost.sound sound valid store foreign ?_ ?_ ?_ ?_ ?_
      · intro _ _ _ same
        cases same
      · exact fun settlement member => List.mem_cons_of_mem _ member
      · rw [frames']
        refine .drain ⟨topmost.settled, ran, ?_, panics⟩ topmost.apart (topmost.tracks foreign)
        rw [topmost.told here]
        rfl
      · intro settlement member
        rcases List.mem_cons.mp member with rfl | outside
        · intro same
          cases same
        · exact topmost.running settlement outside
      · intro free
        exact absurd rfl (free ⟨current.cell, some continuation⟩ List.mem_cons_self)
  | nil =>
      rw [recordEnding_last top topmost.first logs]
      have frames' : next.frames = frames := by
        rw [result, Machine.drainOn_nil]
        rfl
      have control : next.control = .closing (firstPanic ran) := by
        rw [result, Machine.drainOn_nil, ← panics]
        rfl
      have here : Event.concerns current.cell
          (.returned current.cell next.frames next.control) = true :=
        beq_self_eq_true current.cell
      have foreign : ∀ cell, cell ≠ current.cell →
          Event.concerns cell (.returned current.cell next.frames next.control) = false :=
        fun cell different => beq_false_of_ne (Ne.symm different)
      refine topmost.sound sound valid store foreign ?_ (fun _ member => member) ?_
        topmost.running ?_
      · intro _ _ _ same
        cases same
      · have tracks := topmost.tracks foreign
        rw [← frames'] at tracks
        exact tracks
      · intro _
        refine Or.inr ⟨frames, ran, ?_⟩
        rw [topmost.told here, frames', control, List.append_nil]
        rfl

/-- Every step of the machine keeps the chronicle sound. -/
theorem Sound.record {chronicle : Chronicle} (sound : chronicle.Sound) {next : Machine}
    (steps : chronicle.machine.step? = some next) : (chronicle.record next).Sound := by
  have effect := effect_of_step sound.valid steps
  have valid := effect.valid sound.valid
  cases effect with
  | performed action doing performs =>
      rw [record_performed doing]
      refine sound.grow valid ?_ (sound.tracks.pile performs.frames)
        performs.grows.toCellsGrow (registrations_there sound.valid.named action)
      apply sound.running_of_plain
      intro _ _ _ _ _ answers
      rw [doing] at answers
      cases answers
  | refused cell outcome doing closed result =>
      rw [record_refused doing closed]
      subst result
      refine sound.quiet valid ?_ sound.tracks (.ofCellsEq rfl)
      apply sound.running_of_plain
      intro _ _ _ _ _ answers
      rw [doing] at answers
      cases answers
  | settled cell outcome continuations doing pending result =>
      rw [record_settled doing pending]
      exact sound.settle valid doing pending result
  | ran continuation outcome doing runs =>
      rw [record_ran doing]
      refine sound.quiet valid ?_ (sound.tracks.pile runs.frames) (.ofCellsEq runs.cells)
      apply sound.running_of_plain
      intro _ _ _ _ _ answers
      rw [doing] at answers
      cases answers
  | wentOn failure outcome rest panic frames doing top result =>
      exact sound.goOn valid doing top result
  | popped failure frame rest doing top plain pops =>
      rw [record_popped doing top plain]
      have tracks := sound.tracks
      rw [top] at tracks
      refine sound.quiet valid ?_ ((tracks.pop plain).pile pops.frames)
        pops.released.grows.toCellsGrow
      apply sound.running_of_plain
      intro _ _ _ _ top' _
      rw [top] at top'
      cases top'
      cases plain

theorem sound_begin (script : List Action) : (begin script).Sound where
  valid := ⟨(fun _ member => absurd member List.not_mem_nil),
    (fun _ member => absurd member List.not_mem_nil)⟩
  tracks := .none
  busy := .running fun _ member => absurd member List.not_mem_nil
  resting := fun _ _ => ⟨[], rfl⟩
  unborn := fun _ _ => rfl
  late := fun member => absurd member List.not_mem_nil

/-- A machine at rest has no settlement under way. -/
theorem Sound.settling_of_rest {chronicle : Chronicle} (sound : chronicle.Sound)
    (rest : chronicle.machine.step? = none) :
    chronicle.settling = [] ∧ chronicle.machine.frames = [] := by
  have frames := Machine.frames_of_rest rest
  have tracks := sound.tracks
  rw [frames] at tracks
  exact ⟨tracks.done (fun _ member => absurd member List.not_mem_nil), frames⟩

theorem Sound.advance {chronicle : Chronicle} (sound : chronicle.Sound) :
    chronicle.advance.Sound := by
  unfold Chronicle.advance
  cases steps : chronicle.machine.step? with
  | some next => exact sound.record steps
  | none =>
      cases chronicle.script with
      | nil => exact sound
      | cons action rest =>
          rcases sound.settling_of_rest steps with ⟨settling, _⟩
          refine ⟨⟨sound.valid.named, fun _ member => absurd member List.not_mem_nil⟩, ?_, ?_,
            sound.resting,
            sound.unborn, sound.late⟩
          · rw [settling]
            exact .none
          · apply Busy.running
            rw [settling]
            exact fun _ member => absurd member List.not_mem_nil

/-- A chronicle is sound at any time. -/
theorem sound_after (script : List Action) (steps : Nat) : (after script steps).Sound := by
  induction steps with
  | zero => exact sound_begin script
  | succ steps inductionHypothesis => exact inductionHypothesis.advance

end Chronicle
end Promise
end PromiseHttp
