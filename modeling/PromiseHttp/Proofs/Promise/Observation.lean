import PromiseHttp.Proofs.Promise.Agreement

namespace PromiseHttp
namespace Promise

/-!
# One outcome for all observers

A promise settles once.  Whoever tries again is refused: a call that must not settle twice panics, any
other learns that it came too late, and in both cases nothing else happens.  And whoever looks at a
promise while no settlement is under way sees its one outcome, at the promise itself, at a barrier, or
at a future, however early or late they came to it.
-/

/-! ## Waiting -/

/-- At a full slot every wait ends with the outcome, however short it is meant to be. -/
theorem Monitor.waitOut?_full (outcome : Outcome Value) (bounded : Bool) :
    waitOut? (some outcome) bounded = some (.ofOutcome outcome) := by
  cases bounded <;> rfl

theorem Scene.waited_full {scene : Scene} {slot : SlotId} {outcome : Outcome Value}
    (full : scene.store.slot? slot = some outcome) :
    scene.waited slot false = .outcome outcome ∧
      scene.waited slot true = .waited (.ofOutcome outcome) := by
  unfold waited
  rw [full, Monitor.waitOut?_full, Monitor.waitOut?_full]
  cases outcome <;> exact ⟨rfl, rfl⟩

theorem Scene.awaited_delivered {scene : Scene} {channel : ChannelId} {outcome : Outcome Value}
    (delivered : scene.store.channel channel = .delivered outcome) :
    scene.awaited channel = .ofOutcome outcome := by
  simp only [awaited, delivered]

/-- A channel that is opened on a cell that has settled has the outcome on it. -/
theorem Store.channel_withChannel {store : Store} {cell : CellId} {outcome : Outcome Value}
    (settled : store.outcome? cell = some outcome) :
    (store.withChannel cell).channel store.channels.length = .delivered outcome := by
  have told := ((grows_withChannel store cell).attached List.mem_cons_self rfl).2.2.1
  rw [settled] at told
  exact heard?_send_eq_some.mp told

/-! ## What observers see -/

namespace Chronicle

/-- All observers of a cell see this outcome. -/
structure Agrees (chronicle : Chronicle) (cell : CellId) (outcome : Outcome Value) : Prop where
  peek : ∀ {name}, chronicle.machine.scene.names.lookup name = some cell →
    (chronicle.machine.perform (.peek name)).control = .answer (.outcome outcome)
  isSettled : ∀ {name}, chronicle.machine.scene.names.lookup name = some cell →
    (chronicle.machine.perform (.isSettled name)).control = .answer (.flag true)
  /-- The slot of every barrier on the cell holds it. -/
  slot : ∀ {slot}, chronicle.Attached cell (.fill slot) →
    chronicle.store.slot? slot = some outcome
  wait : ∀ {slot barrier}, chronicle.Attached cell (.fill slot) →
    chronicle.machine.scene.barriers.lookup barrier = some slot →
    (chronicle.machine.perform (.wait barrier)).control = .answer (.outcome outcome)
  waitFor : ∀ {slot barrier patience}, chronicle.Attached cell (.fill slot) →
    chronicle.machine.scene.barriers.lookup barrier = some slot →
    (chronicle.machine.perform (.waitFor barrier patience)).control =
      .answer (.waited (.ofOutcome outcome))
  /-- It has been sent to every future of the cell. -/
  channel : ∀ {channel}, chronicle.Attached cell (.send channel) →
    chronicle.store.channel channel = .delivered outcome
  poll : ∀ {channel future}, chronicle.Attached cell (.send channel) →
    chronicle.machine.scene.futures.lookup future = some channel →
    (chronicle.machine.perform (.poll future)).control = .answer (.outcome outcome)
  await : ∀ {name patience}, chronicle.machine.scene.names.lookup name = some cell →
    (chronicle.machine.perform (.await name patience)).control =
      .answer (.waited (.ofOutcome outcome))
  awaitTake : ∀ {name patience}, chronicle.machine.scene.names.lookup name = some cell →
    (chronicle.machine.perform (.awaitTake name patience)).control =
      .answer (.waited (.ofOutcome outcome))
  /-- Every continuation that has run was given it. -/
  given : ∀ {continuation other}, .started cell continuation other ∈ chronicle.events ∨
    .late cell continuation other ∈ chronicle.events → other = outcome

/-- Nobody sees an outcome of a cell. -/
structure Unsettled (chronicle : Chronicle) (cell : CellId) : Prop where
  peek : ∀ {name}, chronicle.machine.scene.names.lookup name = some cell →
    (chronicle.machine.perform (.peek name)).control = .answer .pending
  isSettled : ∀ {name}, chronicle.machine.scene.names.lookup name = some cell →
    (chronicle.machine.perform (.isSettled name)).control = .answer (.flag false)
  slot : ∀ {slot}, chronicle.Attached cell (.fill slot) → chronicle.store.slot? slot = none
  given : ∀ {continuation other}, .started cell continuation other ∉ chronicle.events ∧
    .late cell continuation other ∉ chronicle.events

/-- Settling a cell once more has no effect but the answer.  Nothing is written down, and the machine
is where it was, with a complaint in its log if the call must not settle twice. -/
structure Refuses (chronicle : Chronicle) (cell : CellId) : Prop where
  resolve : ∀ {name value}, chronicle.machine.control = .perform (.resolve name value) →
    chronicle.machine.scene.names.lookup name = some cell →
    chronicle.advanced 3 = { chronicle with
      machine := ⟨chronicle.machine.scene.log .error
        "resolve called on a promise that already settled" [],
        .panic "resolve called on a promise that already settled", chronicle.machine.frames⟩ }
  reject : ∀ {name failure}, chronicle.machine.control = .perform (.reject name failure) →
    chronicle.machine.scene.names.lookup name = some cell →
    chronicle.advanced 3 = { chronicle with
      machine := ⟨chronicle.machine.scene.log .error
        "reject called on a promise that already settled" [],
        .panic "reject called on a promise that already settled", chronicle.machine.frames⟩ }
  settle : ∀ {name other}, chronicle.machine.control = .perform (.settle name other) →
    chronicle.machine.scene.names.lookup name = some cell →
    chronicle.advanced 2 =
      { chronicle with machine := chronicle.machine.goOn (.answer .alreadySettled) }
  /-- So it is when the machine itself settles, on behalf of a link. -/
  internally : ∀ {other}, chronicle.machine.control = .settle cell other →
    chronicle.advanced 1 =
      { chronicle with machine := chronicle.machine.goOn (.answer .alreadySettled) }

/-! ## Refusals -/

theorem advance_of_step {chronicle : Chronicle} {next : Machine}
    (steps : chronicle.machine.step? = some next) : chronicle.advance = chronicle.record next := by
  simp only [advance, steps]

theorem advance_settle {chronicle : Chronicle} {cell : CellId} {outcome other : Outcome Value}
    (settled : chronicle.store.state cell = .settled outcome)
    (doing : chronicle.machine.control = .settle cell other) :
    chronicle.advance =
      { chronicle with machine := chronicle.machine.goOn (.answer .alreadySettled) } := by
  have closed : ∀ continuations,
      chronicle.machine.scene.store.state cell ≠ .pending continuations := by
    intro continuations pending
    rw [show chronicle.machine.scene.store.state cell = _ from settled] at pending
    cases pending
  have steps : chronicle.machine.step? =
      some (chronicle.machine.goOn (.answer .alreadySettled)) := by
    simp only [Machine.step?, doing, Machine.settle, Store.settle?_eq_none.mpr closed]
  rw [advance_of_step steps, record_refused doing closed]

/-- An action that registers nothing leaves no trace in the chronicle. -/
theorem advance_perform {chronicle : Chronicle} {action : Action}
    (doing : chronicle.machine.control = .perform action)
    (nothing : action.registrations chronicle.machine.scene = []) :
    chronicle.advance = { chronicle with machine := chronicle.machine.perform action } := by
  have steps : chronicle.machine.step? = some (chronicle.machine.perform action) := by
    simp only [Machine.step?, doing]
  rw [advance_of_step steps, record_performed doing, nothing, List.map_nil, List.append_nil]

/-- Whoever must not settle twice complains. -/
theorem advanced_complain {chronicle : Chronicle} {cell : CellId} {outcome other : Outcome Value}
    (settled : chronicle.store.state cell = .settled outcome) {verb : String} {frames : List Frame}
    (doing : chronicle.machine.control = .settle cell other)
    (top : chronicle.machine.frames = .complain verb :: frames) :
    chronicle.advanced 2 = { chronicle with
      machine := ⟨chronicle.machine.scene.log .error (complaint verb) [],
        .panic (complaint verb), frames⟩ } := by
  have refused := advance_settle settled doing
  have steps : (chronicle.machine.goOn (.answer .alreadySettled)).step? =
      some ⟨chronicle.machine.scene.log .error (complaint verb) [],
        .panic (complaint verb), frames⟩ := by
    simp only [Machine.step?, Machine.goOn, top, Machine.resume]
  let late : Chronicle :=
    { chronicle with machine := chronicle.machine.goOn (.answer .alreadySettled) }
  have answers : late.machine.control.ending? = some none := rfl
  simp only [advanced]
  rw [refused, advance_of_step steps]
  exact record_popped answers top rfl _

theorem refuses {chronicle : Chronicle} {cell : CellId} {outcome : Outcome Value}
    (known : chronicle.outcome? cell = some outcome) : Refuses chronicle cell := by
  have settled : chronicle.store.state cell = .settled outcome := Store.outcome?_eq_some.mp known
  have complaining : ∀ {action name verb other},
      chronicle.machine.control = .perform action →
      action.registrations chronicle.machine.scene = [] →
      chronicle.machine.perform action =
        chronicle.machine.withCell name
          (fun cell => chronicle.machine.above (.complain verb) (.settle cell other)) →
      chronicle.machine.scene.names.lookup name = some cell →
      chronicle.advanced 3 = { chronicle with
        machine := ⟨chronicle.machine.scene.log .error (complaint verb) [],
          .panic (complaint verb), chronicle.machine.frames⟩ } := by
    intro action name verb other doing nothing performs found
    have moved : chronicle.advance = { chronicle with
        machine := chronicle.machine.above (.complain verb) (.settle cell other) } := by
      rw [advance_perform doing nothing, performs]
      simp only [Machine.withCell, found]
    let tried : Chronicle := { chronicle with
      machine := chronicle.machine.above (.complain verb) (.settle cell other) }
    have stays : tried.store.state cell = .settled outcome := settled
    rw [← advanced_advance, moved]
    exact advanced_complain stays rfl rfl
  refine ⟨?_, ?_, ?_, ?_⟩
  · intro name value doing found
    exact complaining doing rfl rfl found
  · intro name failure doing found
    exact complaining doing rfl rfl found
  · intro name other doing found
    have moved : chronicle.advance =
        { chronicle with machine := chronicle.machine.goOn (.settle cell other) } := by
      rw [advance_perform doing rfl]
      simp only [Machine.perform, Machine.withCell, found]
    let tried : Chronicle :=
      { chronicle with machine := chronicle.machine.goOn (.settle cell other) }
    have stays : tried.store.state cell = .settled outcome := settled
    simp only [advanced]
    rw [moved]
    exact advance_settle stays rfl
  · intro other doing
    exact advance_settle settled doing

/-! ## Agreement -/

/-- Once no settlement is under way, every listener of a cell that has settled has been told. -/
theorem told_of_calm {chronicle : Chronicle} (sound : chronicle.Sound) (heard : chronicle.Heard)
    (calm : chronicle.settling = []) {cell : CellId} {outcome : Outcome Value}
    (known : chronicle.outcome? cell = some outcome) {continuation : Continuation}
    (listens : continuation.listens = true) (attached : chronicle.Attached cell continuation) :
    chronicle.store.heard? continuation = some outcome := by
  rcases begun_or_waits sound known attached with begun | ⟨rest, panic, there, _⟩
  · rcases heard.told listens begun with told | running
    · exact told
    · exact absurd calm (heard.running listens running).1
  · rcases sound.tracks.settlement there with ⟨settlement, member, _⟩
    rw [calm] at member
    cases member

theorem peek_eq {machine : Machine} {name : String} {cell : CellId}
    (found : machine.scene.names.lookup name = some cell) :
    (machine.perform (.peek name)).control = .answer
        (match machine.scene.store.outcome? cell with
          | some outcome => .outcome outcome
          | none => .pending) ∧
      (machine.perform (.isSettled name)).control =
        .answer (.flag (machine.scene.store.outcome? cell).isSome) := by
  simp only [Machine.perform, Machine.withCell, found]
  exact ⟨rfl, rfl⟩

theorem wait_eq {machine : Machine} {barrier : String} {slot : SlotId}
    (found : machine.scene.barriers.lookup barrier = some slot) (patience : Nat) :
    (machine.perform (.wait barrier)).control = .answer (machine.scene.waited slot false) ∧
      (machine.perform (.waitFor barrier patience)).control =
        .answer (machine.scene.waited slot true) := by
  simp only [Machine.perform, Machine.withBarrier, found, Machine.waitAt, Machine.answerIn,
    Option.isSome_none, Option.isSome_some, and_self]

/-- An await opens a channel and ends with what is on it. -/
theorem await_eq {machine : Machine} {name : String} {cell : CellId} {outcome : Outcome Value}
    (found : machine.scene.names.lookup name = some cell)
    (settled : machine.scene.store.outcome? cell = some outcome) (patience : Nat) :
    (machine.perform (.await name patience)).control = .answer (.waited (.ofOutcome outcome)) ∧
      (machine.perform (.awaitTake name patience)).control =
        .answer (.waited (.ofOutcome outcome)) := by
  have delivered := Store.channel_withChannel settled
  constructor
  · simp only [Machine.perform, Machine.withCell, found]
    refine congrArg (fun ending => Control.answer (.waited ending)) ?_
    exact Scene.awaited_delivered delivered
  · simp only [Machine.perform, Machine.withCell, found]
    refine congrArg (fun ending => Control.answer (.waited ending)) ?_
    apply Scene.awaited_delivered
    have released := (Store.letGo_release (machine.scene.store.withChannel cell) cell).heard?_eq
      (.send machine.scene.store.channels.length)
    exact Store.heard?_send_eq_some.mp
      (released.trans (Store.heard?_send_eq_some.mpr delivered))

theorem agrees {chronicle : Chronicle} (sound : chronicle.Sound) (heard : chronicle.Heard)
    (calm : chronicle.settling = []) {cell : CellId} {outcome : Outcome Value}
    (known : chronicle.outcome? cell = some outcome) : Agrees chronicle cell outcome := by
  have settled : chronicle.machine.scene.store.outcome? cell = some outcome := known
  have slot : ∀ {slot}, chronicle.Attached cell (.fill slot) →
      chronicle.store.slot? slot = some outcome :=
    fun attached => told_of_calm sound heard calm known rfl attached
  have channel : ∀ {channel}, chronicle.Attached cell (.send channel) →
      chronicle.store.channel channel = .delivered outcome := fun attached =>
    Store.heard?_send_eq_some.mp (told_of_calm sound heard calm known rfl attached)
  refine ⟨?_, ?_, slot, ?_, ?_, channel, ?_, ?_, ?_, ?_⟩
  · intro name found
    rw [(peek_eq found).1, settled]
  · intro name found
    rw [(peek_eq found).2, settled]
    rfl
  · intro place barrier attached found
    rw [(wait_eq found 0).1, (Scene.waited_full (slot attached)).1]
  · intro place barrier patience attached found
    rw [(wait_eq found patience).2, (Scene.waited_full (slot attached)).2]
  · intro place future attached found
    have delivered : chronicle.machine.scene.store.channel place = .delivered outcome :=
      channel attached
    simp only [Machine.perform, found, delivered, Machine.answerIn]
  · intro name patience found
    exact (await_eq found settled patience).1
  · intro name patience found
    exact (await_eq found settled patience).2
  · intro continuation other member
    have same : chronicle.outcome? cell = some other := by
      rcases member with started | late
      · exact Store.outcome?_eq_some.mpr (heard.started started).2
      · exact sound.orderly.late late
    rw [known] at same
    cases same
    rfl

theorem unsettled {chronicle : Chronicle} (sound : chronicle.Sound) (heard : chronicle.Heard)
    {cell : CellId} {continuations : List Continuation}
    (pending : chronicle.store.state cell = .pending continuations) : Unsettled chronicle cell := by
  have open' : chronicle.machine.scene.store.outcome? cell = none := by
    simp only [Store.outcome?, show chronicle.machine.scene.store.state cell = _ from pending]
  refine ⟨?_, ?_, ?_, ?_⟩
  · intro name found
    rw [(peek_eq found).1, open']
  · intro name found
    rw [(peek_eq found).2, open']
    rfl
  · intro slot attached
    cases content : chronicle.store.slot? slot with
    | none => rfl
    | some outcome =>
        have settled := heard.heard rfl attached content
        rw [pending] at settled
        cases settled
  · intro continuation other
    constructor
    · intro started
      have settled := (heard.started started).2
      rw [pending] at settled
      cases settled
    · intro late
      have settled := sound.late late
      rw [pending] at settled
      cases settled

/-- An outcome stays from one step to the next. -/
theorem outcome?_advance {chronicle : Chronicle} (sound : chronicle.Sound) {cell : CellId}
    {outcome : Outcome Value} (known : chronicle.outcome? cell = some outcome) :
    chronicle.advance.outcome? cell = some outcome := by
  have settled := Store.outcome?_eq_some.mp known
  unfold Chronicle.advance
  cases steps : chronicle.machine.step? with
  | some next =>
      have kept := (effect_of_step sound.valid steps).keeps settled
      simp only [Chronicle.outcome?, machine_record]
      exact Store.outcome?_eq_some.mpr kept
  | none =>
      cases chronicle.script with
      | nil => exact known
      | cons action rest => exact known

theorem outcome?_stays {script : List Action} {steps : Nat} {cell : CellId}
    {outcome : Outcome Value} (known : (after script steps).outcome? cell = some outcome)
    (further : Nat) : (after script (steps + further)).outcome? cell = some outcome := by
  induction further with
  | zero => exact known
  | succ further inductionHypothesis =>
      exact outcome?_advance (sound_after script (steps + further)) inductionHypothesis

/-- An outcome stays for ever, whoever tries to settle the cell again is refused, and while no
settlement is under way all observers of a cell agree. -/
theorem observers_agree (script : List Action) :
    (∀ steps cell outcome, (after script steps).outcome? cell = some outcome →
      ∀ further, (after script (steps + further)).outcome? cell = some outcome) ∧
    (∀ steps cell outcome, (after script steps).outcome? cell = some outcome →
      Refuses (after script steps) cell) ∧
    ∀ steps, (∀ frame ∈ (after script steps).machine.frames, frame.isDrain = false) → ∀ cell,
      (∀ outcome, (after script steps).outcome? cell = some outcome →
        Agrees (after script steps) cell outcome) ∧
      ∀ continuations, (after script steps).store.state cell = .pending continuations →
        Unsettled (after script steps) cell := by
  refine ⟨fun steps cell outcome known => outcome?_stays known,
    fun steps cell outcome known => refuses known, ?_⟩
  · intro steps calm cell
    have sound := sound_after script steps
    have heard := heard_after script steps
    have idle := sound.tracks.done calm
    exact ⟨fun outcome known => agrees sound heard idle known,
      fun continuations pending => unsettled sound heard pending⟩

end Chronicle
end Promise
end PromiseHttp
