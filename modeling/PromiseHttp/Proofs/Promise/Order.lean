import PromiseHttp.Proofs.Promise.Settling
import PromiseHttp.Proofs.Promise.Termination

namespace PromiseHttp
namespace Promise

/-!
# Continuations run in order

Each continuation that is registered on a promise runs once, with the outcome of the promise, and in
the order of registration, whatever panics and whatever else is settled on the way.  Whoever settles
the promise goes on when all of them have run, and learns of the first panic among them.  A
continuation that comes too late runs on the spot.

The story of a cell says all of this, as it is at any time the beginning of a whole story.
-/

/-- What a chronicle tells about the cells. -/
structure Orderly (chronicle : Chronicle) : Prop where
  /-- The continuations registered before the settlement start in their order, each after the one
  before it has ended, and the settlement returns after all of them with the first panic. -/
  begins : ∀ cell, ∃ outcome caller ran,
    chronicle.story cell <+: wholeTale cell outcome caller ran
  /-- The outcome that the continuations get is the outcome of the cell, and it stays. -/
  settled : ∀ {cell outcome caller}, .settled cell outcome caller ∈ chronicle.events →
    chronicle.outcome? cell = some outcome
  /-- A cell that has settled was settled once, or it was made with its outcome. -/
  origin : ∀ {cell outcome}, chronicle.outcome? cell = some outcome →
    chronicle.story cell = [] ∨ ∃ caller, .settled cell outcome caller ∈ chronicle.events
  /-- While a cell is pending nothing but registrations happens to it. -/
  pending : ∀ {cell continuations}, chronicle.store.state cell = .pending continuations →
    chronicle.story cell = continuations.map (.registered cell)
  /-- A settlement that is not under way is over, and its story is whole. -/
  whole : ∀ {cell outcome caller}, .settled cell outcome caller ∈ chronicle.events →
    (∀ settlement ∈ chronicle.settling, settlement.cell ≠ cell) →
    ∃ ran, chronicle.story cell = wholeTale cell outcome caller ran
  /-- Whatever is registered late is registered on a cell that has settled. -/
  late : ∀ {cell continuation outcome}, .late cell continuation outcome ∈ chronicle.events →
    chronicle.outcome? cell = some outcome
  /-- When the machine rests no settlement is under way. -/
  rests : chronicle.machine.step? = none → chronicle.settling = []

/-- What one step of a chronicle adds. -/
structure Follows (before after : Chronicle) (new : List Event) : Prop where
  events : after.events = before.events ++ new
  /-- A continuation is run only when it has just been written down that it starts. -/
  runs : ∀ {continuation outcome}, after.machine.control = .run continuation outcome →
    ∃ earlier cell, new = earlier ++ [.started cell continuation outcome] ∨
      new = [.late cell continuation outcome]
  /-- And it is run whenever that is written down. -/
  starts : ∀ {cell continuation outcome}, .started cell continuation outcome ∈ new →
    after.machine.control = .run continuation outcome
  /-- A late continuation with steps of its own runs above the frames of the call that registers
  it. -/
  late : ∀ {cell continuation outcome}, .late cell continuation outcome ∈ new →
    continuation.takesSteps = true →
    after.machine.control = .run continuation outcome ∧
      before.machine.frames <:+ after.machine.frames
  /-- Any other late continuation has acted when the call is over. -/
  heeds : ∀ {cell continuation outcome}, .late cell continuation outcome ∈ new →
    continuation.takesSteps = false → after.store.Heeds outcome continuation
  /-- All that an action registers is written down. -/
  registers : ∀ {action}, before.machine.control = .perform action →
    new = (action.registrations before.machine.scene).map (.ofRegistration before.store)
  /-- A cell is settled on behalf of the frames that are there. -/
  calls : ∀ {cell outcome caller}, .settled cell outcome caller ∈ new →
    before.machine.control = .settle cell outcome ∧ before.machine.frames = caller
  /-- What is written down about the end of a continuation is how it ends and what that adds to the
  log. -/
  ends : ∀ {cell continuation failure logged}, .ended cell continuation failure logged ∈ new →
    before.machine.control.ending? = some failure ∧
      after.machine.scene.logs = before.machine.scene.logs ++ logged
  /-- A settlement returns to the frames that waited for it. -/
  returns : ∀ {cell caller control}, .returned cell caller control ∈ new →
    after.machine.frames = caller ∧ after.machine.control = control
  /-- Who must not settle twice hands on how the settlement ended. -/
  handsOn : ∀ {failure verb frames}, before.machine.control = .closing failure →
    before.machine.frames = .complain verb :: frames →
    after.machine = Machine.mk before.machine.scene (.closing failure) frames

/-! ## Stories that have begun -/

/-- Registrations are the beginning of a whole story, whatever outcome is to come. -/
theorem begins_of_registered (cell : CellId) (continuations : List Continuation) :
    ∃ outcome caller ran,
      continuations.map (Event.registered cell) <+: wholeTale cell outcome caller ran := by
  refine ⟨.ok .null, [], continuations.map fun continuation => (continuation, none), ?_⟩
  have names : (continuations.map fun continuation => ((continuation, none) : Ran)).map Prod.fst =
      continuations := by
    rw [List.map_map]
    exact List.map_id _
  unfold wholeTale tale
  rw [names, List.append_assoc]
  exact List.prefix_append _ _

/-- A settlement under way is the beginning of a whole story, however its continuations will end. -/
theorem Underway.begins {events : List Event} {store : Store} {current : Settlement}
    {outcome : Outcome Value} {rest : List Continuation} {panic : Option String}
    {caller : List Frame}
    (underway : Underway events store current outcome rest panic caller) :
    ∃ ran, storyOf events current.cell <+: wholeTale current.cell outcome caller ran := by
  rcases underway.told with ⟨ran, told, _⟩
  refine ⟨ran ++ (current.running.toList ++ rest).map fun continuation => (continuation, none), ?_⟩
  have names : (ran ++ (current.running.toList ++ rest).map
      fun continuation => ((continuation, none) : Ran)).map Prod.fst =
      ran.map Prod.fst ++ (current.running.toList ++ rest) := by
    rw [List.map_append, List.map_map]
    exact congrArg (_ ++ ·) (List.map_id _)
  rw [told]
  unfold wholeTale
  rw [names]
  simp only [tale, List.flatMap_append, List.map_append, List.append_assoc, List.cons_append]
  apply (List.prefix_append_right_inj _).mpr
  apply (List.prefix_append_right_inj _).mpr
  apply (List.prefix_append_right_inj _).mpr
  apply List.prefix_cons_inj _ |>.mpr
  apply (List.prefix_append_right_inj _).mpr
  cases current.running with
  | none => exact List.nil_prefix
  | some continuation =>
      simp only [Option.toList_some, List.map_cons, List.map_nil, List.flatMap_cons, round,
        List.flatMap_nil, List.append_nil, List.cons_append, List.nil_append]
      exact List.prefix_cons_inj _ |>.mpr List.nil_prefix

/-! ## What a sound chronicle tells -/

/-- A story that tells of a settlement tells of one only. -/
theorem settled_mem_tale {cell : CellId} {outcome other : Outcome Value}
    {caller another : List Frame} {registered : List Continuation} {ran : List Ran}
    (member : .settled cell outcome caller ∈ tale cell other another registered ran) :
    outcome = other ∧ caller = another := by
  rcases List.mem_append.mp member with before | after
  · rcases List.mem_map.mp before with ⟨continuation, _, told⟩
    cases told
  · rcases List.mem_cons.mp after with here | rounds
    · cases here
      exact ⟨rfl, rfl⟩
    · rcases List.mem_flatMap.mp rounds with ⟨one, _, told⟩
      simp only [round, List.mem_cons, List.not_mem_nil, or_false, reduceCtorEq] at told

theorem settled_mem_wholeTale {cell : CellId} {outcome other : Outcome Value}
    {caller another : List Frame} {ran : List Ran}
    (member : .settled cell outcome caller ∈ wholeTale cell other another ran) :
    outcome = other ∧ caller = another := by
  rcases List.mem_append.mp member with told | last
  · exact settled_mem_tale told
  · cases List.mem_singleton.mp last

/-- In a whole story every continuation that is registered starts. -/
theorem started_of_registered {cell : CellId} {continuation : Continuation}
    {outcome : Outcome Value} {caller : List Frame} {ran : List Ran}
    (member : .registered cell continuation ∈ wholeTale cell outcome caller ran) :
    .started cell continuation outcome ∈ wholeTale cell outcome caller ran := by
  have registered : continuation ∈ ran.map Prod.fst := by
    rcases List.mem_append.mp member with told | last
    · rcases List.mem_append.mp told with before | after
      · rcases List.mem_map.mp before with ⟨other, there, same⟩
        cases same
        exact there
      · rcases List.mem_cons.mp after with here | rounds
        · cases here
        · rcases List.mem_flatMap.mp rounds with ⟨one, _, told⟩
          simp only [round, List.mem_cons, List.not_mem_nil, or_false, reduceCtorEq] at told
    · cases List.mem_singleton.mp last
  rcases List.mem_map.mp registered with ⟨one, there, rfl⟩
  apply List.mem_append_left
  apply List.mem_append_right
  apply List.mem_cons_of_mem
  exact List.mem_flatMap.mpr ⟨one, there, List.mem_cons_self⟩

theorem mem_tale_settled (cell : CellId) (outcome : Outcome Value) (caller : List Frame)
    (registered : List Continuation) (ran : List Ran) :
    .settled cell outcome caller ∈ tale cell outcome caller registered ran :=
  List.mem_append_right _ List.mem_cons_self

/-- A settlement that is written down belongs to the story of its cell. -/
theorem settled_mem_story {chronicle : Chronicle} {cell : CellId} {outcome : Outcome Value}
    {caller : List Frame} (member : .settled cell outcome caller ∈ chronicle.events) :
    .settled cell outcome caller ∈ chronicle.story cell :=
  List.mem_filter.mpr ⟨member, beq_self_eq_true cell⟩

theorem settled_not_mem_registered {cell : CellId} {outcome : Outcome Value} {caller : List Frame}
    {continuations : List Continuation} :
    .settled cell outcome caller ∉ continuations.map (Event.registered cell) := by
  intro member
  rcases List.mem_map.mp member with ⟨continuation, _, told⟩
  cases told

/-- Every settlement under way is carried out by a frame. -/
theorem Tracks.underway {events : List Event} {store : Store} {frames : List Frame}
    {settling : List Settlement} (tracks : Tracks events store frames settling) :
    ∀ settlement ∈ settling, ∃ outcome rest panic caller, .drain outcome rest panic ∈ frames ∧
      Underway events store settlement outcome rest panic caller := by
  induction tracks with
  | none =>
      intro settlement member
      cases member
  | other _ _ inductionHypothesis =>
      intro settlement member
      rcases inductionHypothesis settlement member with
        ⟨outcome, rest, panic, caller, there, underway⟩
      exact ⟨outcome, rest, panic, caller, List.mem_cons_of_mem _ there, underway⟩
  | drain underway apart below inductionHypothesis =>
      intro settlement member
      rcases List.mem_cons.mp member with rfl | outer
      · exact ⟨_, _, _, _, List.mem_cons_self, underway⟩
      · rcases inductionHypothesis settlement outer with
          ⟨outcome, rest, panic, caller, there, further⟩
        exact ⟨outcome, rest, panic, caller, List.mem_cons_of_mem _ there, further⟩

/-- And every frame that carries out a settlement belongs to one under way. -/
theorem Tracks.settlement {events : List Event} {store : Store} {frames : List Frame}
    {settling : List Settlement} (tracks : Tracks events store frames settling)
    {outcome : Outcome Value} {rest : List Continuation} {panic : Option String}
    (there : .drain outcome rest panic ∈ frames) :
    ∃ settlement ∈ settling, ∃ caller,
      Underway events store settlement outcome rest panic caller := by
  induction tracks with
  | none => cases there
  | other plain _ inductionHypothesis =>
      rcases List.mem_cons.mp there with rfl | below
      · cases plain
      · exact inductionHypothesis below
  | drain underway apart below inductionHypothesis =>
      rcases List.mem_cons.mp there with same | further
      · cases same
        exact ⟨_, List.mem_cons_self, _, underway⟩
      · rcases inductionHypothesis further with ⟨settlement, member, known⟩
        exact ⟨settlement, List.mem_cons_of_mem _ member, known⟩

namespace Chronicle

/-- Either a cell is being settled or it rests. -/
theorem Sound.underway_or_rests {chronicle : Chronicle} (sound : chronicle.Sound) (cell : CellId) :
    (∃ settlement ∈ chronicle.settling, settlement.cell = cell ∧ ∃ outcome rest panic caller,
      .drain outcome rest panic ∈ chronicle.machine.frames ∧
      Underway chronicle.events chronicle.store settlement outcome rest panic caller) ∨
    (∀ settlement ∈ chronicle.settling, settlement.cell ≠ cell) ∧
      Rests cell (chronicle.store.state cell) (chronicle.story cell) := by
  by_cases busy : ∃ settlement ∈ chronicle.settling, settlement.cell = cell
  · rcases busy with ⟨settlement, member, same⟩
    exact Or.inl ⟨settlement, member, same, sound.tracks.underway settlement member⟩
  · have free : ∀ settlement ∈ chronicle.settling, settlement.cell ≠ cell :=
      fun settlement member same => busy ⟨settlement, member, same⟩
    exact Or.inr ⟨free, sound.resting cell free⟩

theorem Sound.whole {chronicle : Chronicle} {cell : CellId}
    {outcome : Outcome Value} {caller : List Frame}
    (rests : Rests cell (chronicle.store.state cell) (chronicle.story cell))
    (member : .settled cell outcome caller ∈ chronicle.events) :
    chronicle.store.state cell = .settled outcome ∧
      ∃ ran, chronicle.story cell = wholeTale cell outcome caller ran := by
  have told := settled_mem_story member
  cases found : chronicle.store.state cell with
  | pending continuations =>
      rw [found] at rests
      rw [rests] at told
      exact absurd told settled_not_mem_registered
  | abandoned =>
      rw [found] at rests
      rcases rests with ⟨continuations, registered⟩
      rw [registered] at told
      exact absurd told settled_not_mem_registered
  | settled other =>
      rw [found] at rests
      rcases rests with nothing | ⟨another, ran, whole⟩
      · rw [nothing] at told
        cases told
      · rw [whole] at told
        rcases settled_mem_wholeTale told with ⟨rfl, rfl⟩
        exact ⟨rfl, ran, whole⟩

theorem Sound.orderly {chronicle : Chronicle} (sound : chronicle.Sound) : Orderly chronicle where
  begins := by
    intro cell
    rcases sound.underway_or_rests cell with
      ⟨settlement, _, rfl, outcome, rest, panic, caller, _, underway⟩ | ⟨_, rests⟩
    · rcases underway.begins with ⟨ran, begins⟩
      exact ⟨outcome, caller, ran, begins⟩
    · cases found : chronicle.store.state cell with
      | pending continuations =>
          rw [found] at rests
          rw [rests]
          exact begins_of_registered cell continuations
      | abandoned =>
          rw [found] at rests
          rcases rests with ⟨continuations, told⟩
          rw [told]
          exact begins_of_registered cell continuations
      | settled outcome =>
          rw [found] at rests
          rcases rests with told | ⟨caller, ran, told⟩
          · rw [told]
            exact begins_of_registered cell []
          · exact ⟨outcome, caller, ran, told ▸ List.prefix_rfl⟩
  settled := by
    intro cell outcome caller member
    apply Store.outcome?_eq_some.mpr
    rcases sound.underway_or_rests cell with
      ⟨settlement, _, rfl, other, rest, panic, another, _, underway⟩ | ⟨_, rests⟩
    · have told := settled_mem_story member
      rcases underway.told with ⟨ran, story, _⟩
      rw [Chronicle.story, story] at told
      rcases List.mem_append.mp told with here | started
      · rw [(settled_mem_tale here).1]
        exact underway.settled
      · rcases List.mem_map.mp started with ⟨continuation, _, different⟩
        cases different
    · exact (Sound.whole rests member).1
  origin := by
    intro cell outcome known
    have found := Store.outcome?_eq_some.mp known
    have tells : ∀ caller, .settled cell outcome caller ∈ chronicle.story cell →
        .settled cell outcome caller ∈ chronicle.events :=
      fun caller member => (List.mem_filter.mp member).1
    rcases sound.underway_or_rests cell with
      ⟨settlement, _, rfl, other, rest, panic, caller, _, underway⟩ | ⟨_, rests⟩
    · rcases underway.told with ⟨ran, story, _⟩
      have same : outcome = other := by
        have settled := underway.settled
        rw [show chronicle.store.state settlement.cell = .settled outcome from found] at settled
        cases settled
        rfl
      subst same
      refine Or.inr ⟨caller, tells caller ?_⟩
      rw [Chronicle.story, story]
      exact List.mem_append_left _ (mem_tale_settled _ _ _ _ _)
    · rw [show chronicle.store.state cell = .settled outcome from found] at rests
      rcases rests with told | ⟨caller, ran, told⟩
      · exact Or.inl told
      · refine Or.inr ⟨caller, tells caller ?_⟩
        rw [told]
        exact List.mem_append_left _ (mem_tale_settled _ _ _ _ _)
  pending := by
    intro cell continuations found
    rcases sound.underway_or_rests cell with
      ⟨settlement, _, rfl, other, rest, panic, caller, _, underway⟩ | ⟨_, rests⟩
    · have settled := underway.settled
      rw [found] at settled
      cases settled
    · rw [found] at rests
      exact rests
  whole := by
    intro cell outcome caller member free
    exact (Sound.whole (sound.resting cell free) member).2
  late := fun member => Store.outcome?_eq_some.mpr (sound.late member)
  rests := fun rest => (sound.settling_of_rest rest).1

/-! ## What a step adds -/

/-- Who must not settle twice hands on how the settlement ended. -/
theorem handsOn_of_step {before after : Machine} (steps : before.step? = some after)
    {failure : Option String} {verb : String} {frames : List Frame}
    (control : before.control = .closing failure) (top : before.frames = .complain verb :: frames) :
    after = Machine.mk before.scene (.closing failure) frames := by
  rcases before with ⟨scene, control', frames'⟩
  cases control
  cases top
  cases failure with
  | none =>
      cases steps
      rfl
  | some text =>
      cases steps
      rfl

/-- A step about which nothing is to be written down. -/
theorem follows_nothing {before after : Chronicle} (events : after.events = before.events)
    (steps : before.machine.step? = some after.machine)
    (calm : ∀ continuation outcome, after.machine.control ≠ .run continuation outcome)
    (idle : ∀ action, before.machine.control ≠ .perform action) : Follows before after [] where
  events := events.trans (List.append_nil _).symm
  runs := fun running => absurd running (calm _ _)
  starts := fun member => absurd member List.not_mem_nil
  late := fun member => absurd member List.not_mem_nil
  heeds := fun member => absurd member List.not_mem_nil
  registers := fun doing => absurd doing (idle _)
  calls := fun member => absurd member List.not_mem_nil
  ends := fun member => absurd member List.not_mem_nil
  returns := fun member => absurd member List.not_mem_nil
  handsOn := handsOn_of_step steps

/-- The registrations of an action are written down as such or as late ones. -/
theorem late_of_registration {store : Store} {added : List (CellId × Continuation)}
    {event : Event} (member : event ∈ added.map (.ofRegistration store)) :
    (∃ cell continuation, event = .registered cell continuation) ∨
      ∃ cell continuation outcome, event = .late cell continuation outcome ∧
        (cell, continuation) ∈ added ∧ store.state cell = .settled outcome := by
  rcases List.mem_map.mp member with ⟨entry, there, rfl⟩
  unfold Event.ofRegistration
  cases found : store.outcome? entry.1 with
  | none => exact Or.inl ⟨entry.1, entry.2, rfl⟩
  | some outcome =>
      exact Or.inr ⟨entry.1, entry.2, outcome, rfl, there, Store.outcome?_eq_some.mp found⟩

theorem follows_performed {chronicle : Chronicle} {action : Action} {next : Machine}
    (steps : chronicle.machine.step? = some next)
    (doing : chronicle.machine.control = .perform action)
    (performs : Performs action chronicle.machine next) :
    Follows chronicle (chronicle.record next) ((action.registrations chronicle.machine.scene).map
      (.ofRegistration chronicle.store)) := by
  have known : ∀ {cell continuation outcome},
      Event.late cell continuation outcome ∈ (action.registrations chronicle.machine.scene).map
        (Event.ofRegistration chronicle.store) →
      (cell, continuation) ∈ action.registrations chronicle.machine.scene ∧
        chronicle.store.state cell = .settled outcome := by
    intro cell continuation outcome member
    rcases late_of_registration member with ⟨_, _, other⟩ | ⟨_, _, _, same, there, settled⟩
    · cases other
    · cases same
      exact ⟨there, settled⟩
  have nothingElse : ∀ event ∈ (action.registrations chronicle.machine.scene).map
      (Event.ofRegistration chronicle.store),
      (∃ cell continuation, event = .registered cell continuation) ∨
        ∃ cell continuation outcome, event = .late cell continuation outcome := by
    intro event member
    rcases late_of_registration member with registered | ⟨cell, continuation, outcome, same, _⟩
    · exact Or.inl registered
    · exact Or.inr ⟨cell, continuation, outcome, same⟩
  rw [record_performed doing]
  refine ⟨rfl, ?_, ?_, ?_, ?_, ?_, ?_, ?_, ?_, handsOn_of_step steps⟩
  · intro continuation outcome running
    rcases performs.runs running with ⟨_, cell, only, settled⟩
    refine ⟨[], cell, Or.inr ?_⟩
    have told : Event.ofRegistration chronicle.store (cell, continuation) =
        .late cell continuation outcome := by
      have found : chronicle.store.outcome? cell = some outcome :=
        Store.outcome?_eq_some.mpr settled
      simp only [Event.ofRegistration, found]
    rw [only, List.map_singleton, told]
  · intro cell continuation outcome member
    rcases nothingElse _ member with ⟨_, _, other⟩ | ⟨_, _, _, other⟩ <;> cases other
  · intro cell continuation outcome member acts
    rcases known member with ⟨there, settled⟩
    rcases performs.frames with ⟨above, same, _⟩
    exact ⟨performs.late there settled acts, above, same.symm⟩
  · intro cell continuation outcome member acts
    rcases known member with ⟨there, settled⟩
    exact performs.heeds there settled acts
  · intro other doing'
    rw [doing] at doing'
    cases doing'
    rfl
  · intro cell outcome caller member
    rcases nothingElse _ member with ⟨_, _, other⟩ | ⟨_, _, _, other⟩ <;> cases other
  · intro cell continuation failure logged member
    rcases nothingElse _ member with ⟨_, _, other⟩ | ⟨_, _, _, other⟩ <;> cases other
  · intro cell caller control member
    rcases nothingElse _ member with ⟨_, _, other⟩ | ⟨_, _, _, other⟩ <;> cases other

theorem follows_settled {chronicle : Chronicle} {cell : CellId} {outcome : Outcome Value}
    {continuations : List Continuation} {next : Machine}
    (steps : chronicle.machine.step? = some next)
    (doing : chronicle.machine.control = .settle cell outcome)
    (pending : chronicle.machine.scene.store.state cell = .pending continuations)
    (answers : next.control = .answer .nothing) :
    Follows chronicle (chronicle.record next)
      [.settled cell outcome chronicle.machine.frames] := by
  have only : ∀ {event : Event}, event ∈ [Event.settled cell outcome chronicle.machine.frames] →
      event = .settled cell outcome chronicle.machine.frames := List.mem_singleton.mp
  rw [record_settled doing pending]
  refine ⟨rfl, ?_, ?_, ?_, ?_, ?_, ?_, ?_, ?_, handsOn_of_step steps⟩
  · intro continuation other running
    rw [show next.control = _ from running] at answers
    cases answers
  · intro _ _ _ member
    cases only member
  · intro _ _ _ member
    cases only member
  · intro _ _ _ member
    cases only member
  · intro action other
    rw [doing] at other
    cases other
  · intro _ _ _ member
    cases only member
    exact ⟨doing, rfl⟩
  · intro _ _ _ _ member
    cases only member
  · intro _ _ _ member
    cases only member

theorem follows_next {chronicle : Chronicle} {failure : Option String} {outcome : Outcome Value}
    {continuation : Continuation} {rest : List Continuation} {panic : Option String}
    {frames : List Frame} {current : Settlement} {outer : List Settlement} {next : Machine}
    (steps : chronicle.machine.step? = some next)
    (doing : chronicle.machine.control.ending? = some failure)
    (top : chronicle.machine.frames = .drain outcome (continuation :: rest) panic :: frames)
    (first : chronicle.settling = current :: outer)
    (logs : next.scene.logs = chronicle.machine.scene.logs ++ complaints failure)
    (control : next.control = .run continuation outcome) :
    Follows chronicle (chronicle.record next)
      (current.turn failure (.started current.cell continuation outcome)) := by
  rw [record_ending doing, recordEnding_next top first logs]
  refine ⟨rfl, ?_, ?_, ?_, ?_, ?_, ?_, ?_, ?_, handsOn_of_step steps⟩
  · intro other another running
    rw [show next.control = _ from running] at control
    cases control
    exact ⟨_, current.cell, Or.inl rfl⟩
  · intro _ _ _ member
    rcases mem_turn member with ⟨_, other⟩ | same
    · cases other
    · cases same
      exact control
  · intro _ _ _ member
    rcases mem_turn member with ⟨_, other⟩ | other <;> cases other
  · intro _ _ _ member
    rcases mem_turn member with ⟨_, other⟩ | other <;> cases other
  · intro action performing
    rw [performing] at doing
    cases doing
  · intro _ _ _ member
    rcases mem_turn member with ⟨_, other⟩ | other <;> cases other
  · intro _ _ _ _ member
    rcases mem_turn member with ⟨_, same⟩ | other
    · cases same
      exact ⟨doing, logs⟩
    · cases other
  · intro _ _ _ member
    rcases mem_turn member with ⟨_, other⟩ | other <;> cases other

theorem follows_last {chronicle : Chronicle} {failure : Option String} {outcome : Outcome Value}
    {panic : Option String} {frames : List Frame} {current : Settlement}
    {outer : List Settlement} {next : Machine} (steps : chronicle.machine.step? = some next)
    (doing : chronicle.machine.control.ending? = some failure)
    (top : chronicle.machine.frames = .drain outcome [] panic :: frames)
    (first : chronicle.settling = current :: outer)
    (logs : next.scene.logs = chronicle.machine.scene.logs ++ complaints failure)
    (calm : ∀ continuation outcome, next.control ≠ .run continuation outcome) :
    Follows chronicle (chronicle.record next)
      (current.turn failure (.returned current.cell next.frames next.control)) := by
  rw [record_ending doing, recordEnding_last top first logs]
  refine ⟨rfl, fun running => absurd running (calm _ _), ?_, ?_, ?_, ?_, ?_,
    ?_, ?_, handsOn_of_step steps⟩
  · intro _ _ _ member
    rcases mem_turn member with ⟨_, other⟩ | other <;> cases other
  · intro _ _ _ member
    rcases mem_turn member with ⟨_, other⟩ | other <;> cases other
  · intro _ _ _ member
    rcases mem_turn member with ⟨_, other⟩ | other <;> cases other
  · intro action performing
    rw [performing] at doing
    cases doing
  · intro _ _ _ member
    rcases mem_turn member with ⟨_, other⟩ | other <;> cases other
  · intro _ _ _ _ member
    rcases mem_turn member with ⟨_, same⟩ | other
    · cases same
      exact ⟨doing, logs⟩
    · cases other
  · intro _ _ _ member
    rcases mem_turn member with ⟨_, other⟩ | same
    · cases other
    · cases same
      exact ⟨rfl, rfl⟩

/-- What a step of the machine adds to a sound chronicle. -/
theorem Sound.follows {chronicle : Chronicle} (sound : chronicle.Sound) {next : Machine}
    (steps : chronicle.machine.step? = some next) :
    ∃ new, Follows chronicle (chronicle.record next) new := by
  have recorded : chronicle.machine.step? = some (chronicle.record next).machine := by
    rw [machine_record]
    exact steps
  have silent : ∀ (_ : (chronicle.record next).events = chronicle.events)
      (_ : ∀ continuation outcome, next.control ≠ .run continuation outcome)
      (_ : ∀ action, chronicle.machine.control ≠ .perform action),
      ∃ new, Follows chronicle (chronicle.record next) new := by
    intro events calm idle
    refine ⟨[], follows_nothing events recorded ?_ idle⟩
    rw [machine_record]
    exact calm
  cases effect_of_step sound.valid steps with
  | performed action doing performs => exact ⟨_, follows_performed steps doing performs⟩
  | refused cell outcome doing closed result =>
      refine silent (by rw [record_refused doing closed]) ?_ (by simp [doing])
      intro _ _ running
      rw [result] at running
      cases running
  | settled cell outcome continuations doing pending result =>
      exact ⟨_, follows_settled steps doing pending (by rw [result])⟩
  | ran continuation outcome doing runs =>
      exact silent (by rw [record_ran doing]) (Control.ne_run runs.calm) (by simp [doing])
  | wentOn failure outcome rest panic frames doing top result =>
      have logs : next.scene.logs = chronicle.machine.scene.logs ++ complaints failure := by
        rw [result, Machine.scene_drainOn]
        exact Scene.logs_afterEnding _ _
      have tracks := sound.tracks
      rw [top] at tracks
      rcases tracks.top with ⟨current, outer, first, _, _, _⟩
      cases rest with
      | cons continuation rest =>
          exact ⟨_, follows_next steps doing top first logs (by rw [result]; rfl)⟩
      | nil =>
          refine ⟨_, follows_last steps doing top first logs ?_⟩
          intro _ _ running
          rw [result, Machine.drainOn_nil] at running
          cases first : panic.or failure with
          | none =>
              rw [first] at running
              cases running
          | some text =>
              rw [first] at running
              cases running
  | popped failure frame rest doing top plain pops =>
      refine silent (by rw [record_popped doing top plain]) (Control.ne_run pops.calm) ?_
      intro action performing
      rw [performing] at doing
      cases doing

theorem Sound.follows_advance {chronicle : Chronicle} (sound : chronicle.Sound) :
    ∃ new, Follows chronicle chronicle.advance new := by
  unfold Chronicle.advance
  cases steps : chronicle.machine.step? with
  | some next => exact sound.follows steps
  | none =>
      have settled : ∀ {failure verb frames}, chronicle.machine.control = .closing failure →
          chronicle.machine.frames = .complain verb :: frames → False := by
        intro failure verb frames _ top
        rw [(sound.settling_of_rest steps).2] at top
        cases top
      have idle : ∀ action, chronicle.machine.control ≠ .perform action := by
        intro action doing
        simp only [Machine.step?, doing] at steps
        cases steps
      have calm : ∀ continuation outcome,
          chronicle.machine.control ≠ .run continuation outcome := by
        intro continuation outcome doing
        simp only [Machine.step?, doing] at steps
        cases steps
      cases chronicle.script with
      | nil =>
          exact ⟨[], (List.append_nil _).symm, fun running => absurd running (calm _ _),
            (fun member => absurd member List.not_mem_nil),
            (fun member => absurd member List.not_mem_nil),
            (fun member => absurd member List.not_mem_nil), fun doing => absurd doing (idle _),
            (fun member => absurd member List.not_mem_nil),
            (fun member => absurd member List.not_mem_nil),
            (fun member => absurd member List.not_mem_nil),
            fun control top => (settled control top).elim⟩
      | cons action rest =>
          exact ⟨[], (List.append_nil _).symm, (fun running => Control.noConfusion running),
            (fun member => absurd member List.not_mem_nil),
            (fun member => absurd member List.not_mem_nil),
            (fun member => absurd member List.not_mem_nil), fun doing => absurd doing (idle _),
            (fun member => absurd member List.not_mem_nil),
            (fun member => absurd member List.not_mem_nil),
            (fun member => absurd member List.not_mem_nil),
            fun control top => (settled control top).elim⟩

/-! ## Whole scripts -/

theorem advanced_advance (chronicle : Chronicle) (steps : Nat) :
    chronicle.advance.advanced steps = chronicle.advanced (steps + 1) := by
  induction steps with
  | zero => rfl
  | succ steps inductionHypothesis =>
      rw [advanced, inductionHypothesis]
      rfl

theorem advanced_advanced (chronicle : Chronicle) (first second : Nat) :
    (chronicle.advanced first).advanced second = chronicle.advanced (first + second) := by
  induction second with
  | zero => rfl
  | succ second inductionHypothesis =>
      rw [advanced, inductionHypothesis]
      rfl

/-- The machine in a chronicle comes to where it comes on its own. -/
theorem advanced_runFor (fuel : Nat) (chronicle : Chronicle) :
    ∃ steps, (chronicle.advanced steps).machine = Machine.runFor fuel chronicle.machine ∧
      (chronicle.advanced steps).script = chronicle.script := by
  induction fuel generalizing chronicle with
  | zero => exact ⟨0, rfl, rfl⟩
  | succ fuel inductionHypothesis =>
      cases steps : chronicle.machine.step? with
      | none =>
          refine ⟨0, ?_, rfl⟩
          simp only [Machine.runFor, steps]
          rfl
      | some next =>
          have moved : chronicle.advance = chronicle.record next := by
            simp only [advance, steps]
          rcases inductionHypothesis chronicle.advance with ⟨further, machine, script⟩
          rw [advanced_advance, moved, machine_record] at machine
          rw [advanced_advance, moved, script_record] at script
          refine ⟨further + 1, ?_, script⟩
          simp only [Machine.runFor, steps]
          exact machine

/-- A script comes to its end, with the scene that its actions lead to one after another. -/
theorem advanced_to_end (script : List Action) (chronicle : Chronicle)
    (ahead : chronicle.script = script) (rest : chronicle.machine.step? = none) :
    ∃ steps, (chronicle.advanced steps).script = [] ∧
      (chronicle.advanced steps).machine.step? = none ∧
      (chronicle.advanced steps).machine.scene =
        script.foldl (fun scene action => (scene.perform action).1) chronicle.machine.scene := by
  induction script generalizing chronicle with
  | nil => exact ⟨0, ahead, rest, rfl⟩
  | cons action script inductionHypothesis =>
      let machine : Machine :=
        ⟨{ chronicle.machine.scene with reports := [], logs := [] }, .perform action, []⟩
      have moved : chronicle.advance = { chronicle with machine := machine, script := script } := by
        simp only [advance, rest, ahead]
        rfl
      rcases advanced_runFor machine.weight chronicle.advance with ⟨first, reached, remaining⟩
      have started : chronicle.advance.machine = machine := by rw [moved]
      have left : chronicle.advance.script = script := by rw [moved]
      rw [left] at remaining
      have finished : (chronicle.advance.advanced first).machine = machine.finish := by
        rw [reached, started]
        rfl
      have rests : (chronicle.advance.advanced first).machine.step? = none := by
        rw [finished]
        exact machine.finish_rests
      rcases inductionHypothesis _ remaining rests with ⟨second, done, still, scene⟩
      have joined : (chronicle.advance.advanced first).advanced second =
          chronicle.advanced (first + second + 1) := by
        rw [advanced_advanced, advanced_advance]
      rw [joined] at done still scene
      rw [finished] at scene
      exact ⟨first + second + 1, done, still, scene⟩

/-- For every script and at every moment the chronicle is in order, and so is what the next step
adds to it; and the script comes to its end, as it does without a chronicle. -/
theorem continuations_run_in_order (script : List Action) :
    (∀ steps, Orderly (after script steps) ∧
      ∃ new, Follows (after script steps) (after script (steps + 1)) new) ∧
    ∃ steps, (after script steps).script = [] ∧ (after script steps).machine.step? = none ∧
      (after script steps).machine.scene =
        script.foldl (fun scene action => (scene.perform action).1) .empty := by
  refine ⟨?_, advanced_to_end script (begin script) rfl rfl⟩
  intro steps
  have sound := sound_after script steps
  exact ⟨sound.orderly, sound.follows_advance⟩

end Chronicle
end Promise
end PromiseHttp
