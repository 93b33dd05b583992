import PromiseHttp.Proofs.Promise.Order

namespace PromiseHttp
namespace Promise

/-!
# Observers agree

The outcome of a promise is copied to many places: into the slots of its barriers, onto the channels
of its futures, and into the hands of its continuations.  Each copy is made by a continuation, and
the invariant is about these.  A slot or a channel belongs to one cell, and what it holds is the
outcome of that cell.  A listening continuation that has started has filled its slot or sent on its
channel, unless it is about to.

When no settlement is under way every continuation of a cell that has settled has started, and then
all observers of the cell see the same.
-/

namespace Chronicle

/-- A continuation has been registered on a cell, in time or late. -/
def Attached (chronicle : Chronicle) (cell : CellId) (continuation : Continuation) : Prop :=
  .registered cell continuation ∈ chronicle.events ∨
    ∃ outcome, .late cell continuation outcome ∈ chronicle.events

/-- What holds of the listeners at any time. -/
structure Heard (chronicle : Chronicle) : Prop where
  offered : ∀ {cell continuation}, continuation.listens = true →
    chronicle.Attached cell continuation → chronicle.store.Offers continuation
  /-- Nobody listens to two cells. -/
  alone : ∀ {cell other continuation}, continuation.listens = true →
    chronicle.Attached cell continuation → chronicle.Attached other continuation → other = cell
  /-- Listeners hear nothing but the outcome. -/
  heard : ∀ {cell continuation outcome}, continuation.listens = true →
    chronicle.Attached cell continuation →
    chronicle.store.heard? continuation = some outcome →
    chronicle.store.state cell = .settled outcome
  started : ∀ {cell continuation outcome},
    .started cell continuation outcome ∈ chronicle.events →
    chronicle.Attached cell continuation ∧ chronicle.store.state cell = .settled outcome
  /-- What has been told is heard, or is just about to be. -/
  told : ∀ {cell continuation outcome}, continuation.listens = true →
    .started cell continuation outcome ∈ chronicle.events ∨
      .late cell continuation outcome ∈ chronicle.events →
    chronicle.store.heard? continuation = some outcome ∨
      chronicle.machine.control = .run continuation outcome
  /-- A listening continuation runs only in a settlement. -/
  running : ∀ {continuation outcome}, continuation.listens = true →
    chronicle.machine.control = .run continuation outcome →
    chronicle.settling ≠ [] ∧ ∃ cell, .started cell continuation outcome ∈ chronicle.events

end Chronicle

theorem Continuation.takesSteps_of_listens {continuation : Continuation}
    (listens : continuation.listens = true) : continuation.takesSteps = false := by
  cases continuation with
  | fill slot => rfl
  | send channel => rfl
  | _ => cases listens

namespace Chronicle

/-- What is attached stays attached, and what has started or come late stays so. -/
theorem Attached.mono {before after : Chronicle} {new : List Event}
    (events : after.events = before.events ++ new) {cell : CellId} {continuation : Continuation}
    (attached : before.Attached cell continuation) : after.Attached cell continuation := by
  unfold Attached
  rw [events]
  rcases attached with registered | ⟨outcome, late⟩
  · exact Or.inl (List.mem_append_left _ registered)
  · exact Or.inr ⟨outcome, List.mem_append_left _ late⟩

/-- Whether an event neither attaches a continuation nor starts one. -/
def isSilent : Event → Bool
  | .settled _ _ _ => true
  | .ended _ _ _ _ => true
  | .returned _ _ _ => true
  | _ => false

/-- A step in which nothing is registered and nothing starts. -/
theorem Heard.quiet {before after : Chronicle} (heard : before.Heard) {new : List Event}
    (events : after.events = before.events ++ new) (silent : ∀ event ∈ new, isSilent event = true)
    (offers : ∀ {continuation}, before.store.Offers continuation →
      after.store.Offers continuation)
    (same : ∀ continuation, after.store.heard? continuation = before.store.heard? continuation)
    (kept : ∀ {cell outcome}, before.store.state cell = .settled outcome →
      after.store.state cell = .settled outcome)
    (idle : before.machine.control.isRun = false) (calm : after.machine.control.isRun = false) :
    after.Heard := by
  have older : ∀ {event}, event ∈ after.events → isSilent event = false →
      event ∈ before.events := by
    intro event member loud
    rw [events] at member
    rcases List.mem_append.mp member with earlier | here
    · exact earlier
    · rw [silent event here] at loud
      cases loud
  have attached : ∀ {cell continuation}, after.Attached cell continuation →
      before.Attached cell continuation := by
    rintro cell continuation (registered | ⟨outcome, late⟩)
    · exact Or.inl (older registered rfl)
    · exact Or.inr ⟨outcome, older late rfl⟩
  refine ⟨fun listens there => offers (heard.offered listens (attached there)), ?_, ?_, ?_, ?_, ?_⟩
  · intro cell other continuation listens first second
    exact heard.alone listens (attached first) (attached second)
  · intro cell continuation outcome listens there found
    rw [same] at found
    exact kept (heard.heard listens (attached there) found)
  · intro cell continuation outcome member
    rcases heard.started (older member rfl) with ⟨there, settled⟩
    exact ⟨there.mono events, kept settled⟩
  · intro cell continuation outcome listens member
    have before' : Event.started cell continuation outcome ∈ before.events ∨
        .late cell continuation outcome ∈ before.events := by
      rcases member with started | late
      · exact Or.inl (older started rfl)
      · exact Or.inr (older late rfl)
    rw [same]
    rcases heard.told listens before' with known | running
    · exact Or.inl known
    · exact absurd running (Control.ne_run idle _ _)
  · intro continuation outcome _ running
    exact absurd running (Control.ne_run calm _ _)

/-! ## Steps -/

/-- What is attached after an action was attached before it or has just been registered. -/
theorem attached_performed {chronicle : Chronicle} {added : List (CellId × Continuation)}
    {next : Machine} {cell : CellId} {continuation : Continuation}
    (attached : Attached { chronicle with
      machine := next
      events := chronicle.events ++ added.map (.ofRegistration chronicle.store) }
      cell continuation) :
    chronicle.Attached cell continuation ∨ (cell, continuation) ∈ added := by
  have here : ∀ {event : Event}, event ∈ added.map (.ofRegistration chronicle.store) →
      ∃ entry ∈ added, Event.ofRegistration chronicle.store entry = event := List.mem_map.mp
  rcases attached with registered | ⟨outcome, late⟩
  · rcases List.mem_append.mp registered with earlier | new
    · exact Or.inl (Or.inl earlier)
    · rcases here new with ⟨entry, there, told⟩
      right
      unfold Event.ofRegistration at told
      split at told
      · cases told
        exact there
      · cases told
  · rcases List.mem_append.mp late with earlier | new
    · exact Or.inl (Or.inr ⟨outcome, earlier⟩)
    · rcases late_of_registration new with ⟨_, _, other⟩ | ⟨_, _, _, same, there, _⟩
      · cases other
      · cases same
        exact Or.inr there

theorem Heard.performed {chronicle : Chronicle} (heard : chronicle.Heard) {action : Action}
    {next : Machine} (doing : chronicle.machine.control = .perform action)
    (performs : Performs action chronicle.machine next) : (chronicle.record next).Heard := by
  have grows := performs.grows
  have unheard : ∀ {cell other continuation}, continuation.listens = true →
      chronicle.Attached cell continuation →
      (other, continuation) ∉ action.registrations chronicle.machine.scene :=
    fun listens there new => (grows.attached new listens).1 (heard.offered listens there)
  rw [record_performed doing]
  refine ⟨?_, ?_, ?_, ?_, ?_, ?_⟩
  · intro cell continuation listens there
    rcases attached_performed there with earlier | new
    · exact grows.offers (heard.offered listens earlier)
    · exact (grows.attached new listens).2.1
  · intro cell other continuation listens first second
    rcases attached_performed first with earlier | new
    · rcases attached_performed second with earlier' | new'
      · exact heard.alone listens earlier earlier'
      · exact absurd new' (unheard listens earlier)
    · rcases attached_performed second with earlier' | new'
      · exact absurd new (unheard listens earlier')
      · exact (grows.attached new listens).2.2.2 other new'
  · intro cell continuation outcome listens there found
    rcases attached_performed there with earlier | new
    · have before : chronicle.store.heard? continuation = some outcome :=
        (grows.heard (heard.offered listens earlier)).symm.trans found
      exact grows.settled (heard.heard listens earlier before)
    · have known : chronicle.store.outcome? cell = some outcome :=
        (grows.attached new listens).2.2.1.symm.trans found
      exact grows.settled (Store.outcome?_eq_some.mp known)
  · intro cell continuation outcome member
    rcases List.mem_append.mp member with earlier | new
    · rcases heard.started earlier with ⟨there, settled⟩
      exact ⟨there.mono rfl, grows.settled settled⟩
    · rcases late_of_registration new with ⟨_, _, other⟩ | ⟨_, _, _, other, _⟩ <;> cases other
  · intro cell continuation outcome listens member
    left
    have kept : chronicle.Attached cell continuation →
        (.started cell continuation outcome ∈ chronicle.events ∨
          .late cell continuation outcome ∈ chronicle.events) →
        next.scene.store.heard? continuation = some outcome := by
      intro there before
      rcases heard.told listens before with known | running
      · exact (grows.heard (heard.offered listens there)).trans known
      · rw [doing] at running
        cases running
    rcases member with started | late
    · rcases List.mem_append.mp started with earlier | new
      · exact kept (heard.started earlier).1 (Or.inl earlier)
      · rcases late_of_registration new with ⟨_, _, other⟩ | ⟨_, _, _, other, _⟩ <;> cases other
    · rcases List.mem_append.mp late with earlier | new
      · exact kept (Or.inr ⟨outcome, earlier⟩) (Or.inr earlier)
      · rcases late_of_registration new with ⟨_, _, other⟩ | ⟨_, _, _, same, there, settled⟩
        · cases other
        · cases same
          exact (grows.attached there listens).2.2.1.trans (Store.outcome?_eq_some.mpr settled)
  · intro continuation outcome listens running
    have steps := (performs.runs running).1
    rw [Continuation.takesSteps_of_listens listens] at steps
    cases steps

theorem Heard.ran {chronicle : Chronicle} (heard : chronicle.Heard) (sound : chronicle.Sound)
    {continuation : Continuation} {outcome : Outcome Value} {next : Machine}
    (doing : chronicle.machine.control = .run continuation outcome)
    (runs : Runs continuation outcome chronicle.machine next) : (chronicle.record next).Heard := by
  have same : ∀ cell, next.scene.store.state cell = chronicle.store.state cell :=
    Store.state_of_cells_eq runs.cells
  -- a listener hears the outcome of the cell that it is attached to
  have proper : ∀ {cell other}, continuation.listens = true →
      chronicle.Attached cell continuation → chronicle.store.state cell = .settled other →
      outcome = other := by
    intro cell other listens there settled
    rcases (heard.running listens doing).2 with ⟨another, started⟩
    rcases heard.started started with ⟨attached, settled'⟩
    rw [heard.alone listens there attached, settled] at settled'
    cases settled'
    rfl
  rw [record_ran doing]
  refine ⟨fun listens there => runs.offers (heard.offered listens there), heard.alone, ?_, ?_, ?_,
    ?_⟩
  · intro cell other another listens there found
    refine (same cell).trans ?_
    by_cases itself : other = continuation
    · subst itself
      rcases (heard.running listens doing).2 with ⟨_, started⟩
      rcases heard.started started with ⟨attached, settled⟩
      have told := runs.told listens (heard.offered listens there)
      rw [heard.alone listens there attached] at settled
      rw [settled, Option.some.inj (told.symm.trans found)]
    · exact heard.heard listens there ((runs.heard itself).symm.trans found)
  · intro cell other another member
    rcases heard.started member with ⟨there, settled⟩
    exact ⟨there, (same cell).trans settled⟩
  · intro cell other another listens member
    left
    have attached : chronicle.Attached cell other ∧
        chronicle.store.state cell = .settled another := by
      rcases member with started | late
      · exact heard.started started
      · exact ⟨Or.inr ⟨another, late⟩, sound.late late⟩
    by_cases itself : other = continuation
    · subst itself
      rw [← proper listens attached.1 attached.2]
      exact runs.told listens (heard.offered listens attached.1)
    · rcases heard.told listens member with known | running
      · exact (runs.heard itself).trans known
      · rw [doing] at running
        cases running
        exact absurd rfl itself
  · intro other another _ running
    exact absurd running (Control.ne_run runs.calm _ _)

/-- The continuations that are still to run in a settlement are attached to its cell. -/
theorem attached_of_underway {chronicle : Chronicle} {current : Settlement}
    {outcome : Outcome Value} {rest : List Continuation} {panic : Option String}
    {caller : List Frame}
    (underway : Underway chronicle.events chronicle.store current outcome rest panic caller) :
    ∀ continuation ∈ rest, chronicle.Attached current.cell continuation := by
  intro continuation member
  rcases underway.told with ⟨ran, told, _⟩
  have registered : .registered current.cell continuation ∈
      storyOf chronicle.events current.cell := by
    rw [told]
    apply List.mem_append_left
    apply List.mem_append_left
    apply List.mem_map_of_mem
    exact List.mem_append_right _ (List.mem_append_right _ member)
  exact Or.inl (List.mem_filter.mp registered).1

theorem Heard.next {chronicle : Chronicle} (heard : chronicle.Heard) {failure : Option String}
    {outcome : Outcome Value} {continuation : Continuation} {rest : List Continuation}
    {panic : Option String} {frames : List Frame} {current : Settlement} {outer : List Settlement}
    {next : Machine} (doing : chronicle.machine.control.ending? = some failure)
    (top : chronicle.machine.frames = .drain outcome (continuation :: rest) panic :: frames)
    (first : chronicle.settling = current :: outer)
    (logs : next.scene.logs = chronicle.machine.scene.logs ++ complaints failure)
    (underway : Underway chronicle.events chronicle.store current outcome (continuation :: rest)
      panic frames)
    (store : next.scene.store = chronicle.store)
    (control : next.control = .run continuation outcome) : (chronicle.record next).Heard := by
  have idle : ∀ other another, chronicle.machine.control ≠ .run other another := by
    intro other another running
    rw [running] at doing
    cases doing
  have added : ∀ {event : Event}, event ∈ chronicle.events ++
        current.turn failure (.started current.cell continuation outcome) →
      event ∈ chronicle.events ∨
        (∃ running, event = .ended current.cell running failure (complaints failure)) ∨
        event = .started current.cell continuation outcome := by
    intro event member
    rcases List.mem_append.mp member with earlier | new
    · exact Or.inl earlier
    · exact Or.inr (mem_turn new)
  rw [record_ending doing, recordEnding_next top first logs]
  have attached : ∀ {cell other}, Attached ⟨next, ⟨current.cell, some continuation⟩ :: outer,
      chronicle.events ++ current.turn failure (.started current.cell continuation outcome),
      chronicle.script⟩ cell other →
      chronicle.Attached cell other := by
    rintro cell other (registered | ⟨another, late⟩)
    · rcases added registered with earlier | ⟨_, told⟩ | told
      · exact Or.inl earlier
      · cases told
      · cases told
    · rcases added late with earlier | ⟨_, told⟩ | told
      · exact Or.inr ⟨another, earlier⟩
      · cases told
      · cases told
  have here := attached_of_underway underway continuation List.mem_cons_self
  refine ⟨?_, ?_, ?_, ?_, ?_, ?_⟩
  · intro cell other listens there
    simp only [Chronicle.store, store]
    exact heard.offered listens (attached there)
  · intro cell other another listens one two
    exact heard.alone listens (attached one) (attached two)
  · intro cell other another listens there found
    simp only [Chronicle.store, store] at found ⊢
    exact heard.heard listens (attached there) found
  · intro cell other another member
    simp only [Chronicle.store, store]
    rcases added member with earlier | ⟨_, told⟩ | told
    · rcases heard.started earlier with ⟨there, settled⟩
      exact ⟨there.mono rfl, settled⟩
    · cases told
    · cases told
      exact ⟨here.mono rfl, underway.settled⟩
  · intro cell other another listens member
    simp only [Chronicle.store, store]
    have known : ∀ before : Event.started cell other another ∈ chronicle.events ∨
        .late cell other another ∈ chronicle.events,
        chronicle.store.heard? other = some another := by
      intro before
      rcases heard.told listens before with known | running
      · exact known
      · exact absurd running (idle _ _)
    rcases member with started | late
    · rcases added started with earlier | ⟨_, told⟩ | told
      · exact Or.inl (known (Or.inl earlier))
      · cases told
      · cases told
        exact Or.inr control
    · rcases added late with earlier | ⟨_, told⟩ | told
      · exact Or.inl (known (Or.inr earlier))
      · cases told
      · cases told
  · intro other another _ running
    rw [show next.control = _ from running] at control
    cases control
    have started : Event.started current.cell continuation outcome ∈
        current.turn failure (.started current.cell continuation outcome) :=
      List.mem_append_right _ List.mem_cons_self
    exact ⟨List.cons_ne_nil _ _, current.cell, List.mem_append_right _ started⟩

/-- A control that is at its end runs nothing. -/
theorem isRun_of_ending {control : Control} {failure : Option String}
    (doing : control.ending? = some failure) : control.isRun = false := by
  cases control with
  | run continuation outcome => cases doing
  | _ => rfl

theorem Heard.last {chronicle : Chronicle} (heard : chronicle.Heard) {failure : Option String}
    {outcome : Outcome Value} {panic : Option String} {frames : List Frame} {current : Settlement}
    {outer : List Settlement} {next : Machine}
    (doing : chronicle.machine.control.ending? = some failure)
    (top : chronicle.machine.frames = .drain outcome [] panic :: frames)
    (first : chronicle.settling = current :: outer)
    (logs : next.scene.logs = chronicle.machine.scene.logs ++ complaints failure)
    (store : next.scene.store = chronicle.store) (calm : next.control.isRun = false) :
    (chronicle.record next).Heard := by
  rw [record_ending doing, recordEnding_last top first logs]
  refine heard.quiet rfl ?_ ?_ ?_ ?_ (isRun_of_ending doing) calm
  · intro event member
    rcases mem_turn member with ⟨running, rfl⟩ | rfl
    · rfl
    · rfl
  · simp only [Chronicle.store, store]
    exact fun there => there
  · exact fun continuation => congrArg (·.heard? continuation) store
  · simp only [Chronicle.store, store]
    exact fun found => found

theorem Heard.record {chronicle : Chronicle} (heard : chronicle.Heard) (sound : chronicle.Sound)
    {next : Machine} (steps : chronicle.machine.step? = some next) :
    (chronicle.record next).Heard := by
  cases effect_of_step sound.valid steps with
  | performed action doing performs => exact heard.performed doing performs
  | refused cell outcome doing closed result =>
      have idle : chronicle.machine.control.isRun = false := by
        rw [doing]
        rfl
      rw [record_refused doing closed]
      subst result
      exact heard.quiet (List.append_nil _).symm (fun _ member => absurd member List.not_mem_nil)
        (fun there => there) (fun _ => rfl) (fun found => found) idle rfl
  | settled cell outcome continuations doing pending result =>
      have idle : chronicle.machine.control.isRun = false := by
        rw [doing]
        rfl
      rw [record_settled doing pending]
      subst result
      refine heard.quiet rfl ?_ (fun there => ?_) (fun _ => rfl) ?_ idle rfl
      · intro event member
        rw [List.mem_singleton.mp member]
        rfl
      · exact there
      · intro other another found
        have different : other ≠ cell := by
          intro same
          rw [same, show chronicle.store.state cell = _ from pending] at found
          cases found
        exact (Store.state_setState_of_ne _ different _).trans found
  | ran continuation outcome doing runs => exact heard.ran sound doing runs
  | wentOn failure outcome rest panic frames doing top result =>
      have store : next.scene.store = chronicle.store := by
        rw [result, Machine.scene_drainOn]
        exact Scene.store_afterEnding _ _
      have logs : next.scene.logs = chronicle.machine.scene.logs ++ complaints failure := by
        rw [result, Machine.scene_drainOn]
        exact Scene.logs_afterEnding _ _
      have tracks := sound.tracks
      rw [top] at tracks
      rcases tracks.top with ⟨current, outer, first, underway, _, _⟩
      cases rest with
      | cons continuation rest =>
          exact heard.next doing top first logs underway store (by rw [result]; rfl)
      | nil =>
          refine heard.last doing top first logs store ?_
          rw [result, Machine.drainOn_nil]
          cases panic.or failure <;> rfl
  | popped failure frame rest doing top plain pops =>
      rw [record_popped doing top plain]
      exact heard.quiet (List.append_nil _).symm (fun _ member => absurd member List.not_mem_nil)
        (pops.released.offers _).mpr pops.released.heard?_eq pops.released.settled.mpr
        (isRun_of_ending doing) pops.calm

theorem heard_begin (script : List Action) : (begin script).Heard where
  offered := by
    rintro _ _ _ (registered | ⟨_, late⟩)
    · cases registered
    · cases late
  alone := by
    rintro _ _ _ _ (registered | ⟨_, late⟩)
    · cases registered
    · cases late
  heard := by
    rintro _ _ _ _ (registered | ⟨_, late⟩)
    · cases registered
    · cases late
  started := fun member => absurd member List.not_mem_nil
  told := by
    rintro _ _ _ _ (started | late)
    · cases started
    · cases late
  running := fun _ running => Control.noConfusion running

theorem Heard.advance {chronicle : Chronicle} (heard : chronicle.Heard)
    (sound : chronicle.Sound) : chronicle.advance.Heard := by
  unfold Chronicle.advance
  cases steps : chronicle.machine.step? with
  | some next => exact heard.record sound steps
  | none =>
      cases chronicle.script with
      | nil => exact heard
      | cons action rest =>
          have idle : chronicle.machine.control.isRun = false := by
            cases doing : chronicle.machine.control with
            | run continuation outcome =>
                simp only [Machine.step?, doing] at steps
                cases steps
            | _ => rfl
          exact heard.quiet (List.append_nil _).symm (fun _ member => absurd member List.not_mem_nil)
            (fun there => there) (fun _ => rfl) (fun found => found) idle rfl

theorem heard_after (script : List Action) (steps : Nat) : (after script steps).Heard := by
  induction steps with
  | zero => exact heard_begin script
  | succ steps inductionHypothesis =>
      exact inductionHypothesis.advance (sound_after script steps)

/-- A continuation that is attached to a cell that has settled has started or has come late, or it
is still to run in the settlement of the cell. -/
theorem begun_or_waits {chronicle : Chronicle} (sound : chronicle.Sound) {cell : CellId}
    {outcome : Outcome Value} (known : chronicle.outcome? cell = some outcome)
    {continuation : Continuation} (attached : chronicle.Attached cell continuation) :
    (.started cell continuation outcome ∈ chronicle.events ∨
      .late cell continuation outcome ∈ chronicle.events) ∨
    ∃ rest panic, .drain outcome rest panic ∈ chronicle.machine.frames ∧ continuation ∈ rest := by
  have settled := Store.outcome?_eq_some.mp known
  rcases attached with registered | ⟨other, late⟩
  · have told : .registered cell continuation ∈ chronicle.story cell :=
      List.mem_filter.mpr ⟨registered, beq_self_eq_true cell⟩
    have started : .started cell continuation outcome ∈ chronicle.story cell →
        .started cell continuation outcome ∈ chronicle.events :=
      fun member => (List.mem_filter.mp member).1
    rcases sound.underway_or_rests cell with
      ⟨settlement, _, rfl, other, rest, panic, caller, there, underway⟩ | ⟨_, rests⟩
    · have same : other = outcome := by
        have proper := underway.settled
        rw [show chronicle.store.state settlement.cell = _ from settled] at proper
        cases proper
        rfl
      subst same
      rcases underway.told with ⟨ran, story, _⟩
      rw [Chronicle.story, story] at told started
      rcases List.mem_append.mp told with before | now
      · rcases List.mem_append.mp before with listed | after
        · rcases List.mem_map.mp listed with ⟨another, among, itself⟩
          cases itself
          rcases List.mem_append.mp among with has | left
          · rcases List.mem_map.mp has with ⟨one, member, rfl⟩
            refine Or.inl (Or.inl (started (List.mem_append_left _ (List.mem_append_right _ ?_))))
            exact List.mem_cons_of_mem _ (List.mem_flatMap.mpr ⟨one, member, List.mem_cons_self⟩)
          · rcases List.mem_append.mp left with running | waits
            · refine Or.inl (Or.inl (started (List.mem_append_right _ ?_)))
              exact List.mem_map_of_mem running
            · exact Or.inr ⟨rest, panic, there, waits⟩
        · rcases List.mem_cons.mp after with here | rounds
          · cases here
          · rcases List.mem_flatMap.mp rounds with ⟨one, _, member⟩
            simp only [round, List.mem_cons, List.not_mem_nil, or_false, reduceCtorEq] at member
      · rcases List.mem_map.mp now with ⟨another, _, different⟩
        cases different
    · rw [show chronicle.store.state cell = _ from settled] at rests
      rcases rests with nothing | ⟨caller, ran, whole⟩
      · rw [nothing] at told
        cases told
      · rw [whole] at told started
        exact Or.inl (Or.inl (started (started_of_registered told)))
  · have same := sound.orderly.late late
    rw [known] at same
    cases same
    exact Or.inl (Or.inr late)

end Chronicle
end Promise
end PromiseHttp
