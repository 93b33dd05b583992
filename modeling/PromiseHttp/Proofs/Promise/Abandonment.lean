import PromiseHttp.Proofs.Promise.Accounts
import PromiseHttp.Proofs.Promise.Observation

namespace PromiseHttp
namespace Promise

/-!
# Abandonment is exact

A pending promise stays alive as long as somebody could still settle it, and no longer.  Whoever could
is a name, or a link, or works on behalf of one.  A link can settle its target only if its own source
settles, so a link keeps its target as long as its source is kept itself.

Nobody needs to look for cells that are not kept any more.  The account of the holds balances, and
links lead from older cells to newer ones; so the cells that still have holders are exactly those
that are kept.  When a cell is abandoned, its continuations are gone without having run, its futures
learn that it was abandoned, and nothing happens to it ever after.
-/

/-- Somebody could still settle a cell: it has a name, or a link to it runs, or is about to let go of
it, or is still to run in a settlement, or it is about to be named, or a link to it is registered on
a pending cell that is kept itself. -/
inductive Machine.Keeps (machine : Machine) : CellId → Prop where
  | name {name : String} {cell : CellId} (found : machine.scene.names.lookup name = some cell) :
      Keeps machine cell
  | running {continuation : Continuation} {outcome : Outcome Value} {cell : CellId}
      (doing : machine.control = .run continuation outcome)
      (holds : continuation.target? = some cell) : Keeps machine cell
  | work {frame : Frame} {cell : CellId} (there : frame ∈ machine.frames)
      (holds : .cell cell ∈ frame.holdings) : Keeps machine cell
  | link {source cell : CellId} {continuations : List Continuation} {continuation : Continuation}
      (pending : machine.scene.store.state source = .pending continuations)
      (registered : continuation ∈ continuations) (holds : continuation.target? = some cell)
      (kept : Keeps machine source) : Keeps machine cell

/-! ## Kept and alive -/

theorem Scene.lookup_of_mem {α : Type} {key : String} {found : α} {entries : List (String × α)}
    (distinct : (entries.map Prod.fst).Nodup) (member : (key, found) ∈ entries) :
    entries.lookup key = some found := by
  induction entries with
  | nil => cases member
  | cons entry rest inductionHypothesis =>
      rcases entry with ⟨name, value⟩
      rw [List.map_cons, List.nodup_cons] at distinct
      rw [List.lookup_cons]
      rcases List.mem_cons.mp member with same | later
      · cases same
        rw [beq_self_eq_true]
      · have different : key ≠ name := by
          rintro rfl
          exact distinct.1 (List.mem_map.mpr ⟨(key, found), later, rfl⟩)
        rw [show (key == name) = false from beq_false_of_ne different]
        exact inductionHypothesis distinct.2 later

namespace Machine

/-- Whoever has a hold on a cell that is not that of a registered link keeps the cell. -/
theorem Accounted.keeps_of_held {machine : Machine} (accounted : machine.Accounted)
    {cell : CellId} (held : .cell cell ∈ machine.scene.holdings ++ machine.inHand) :
    machine.Keeps cell := by
  rcases List.mem_append.mp held with named | inHand
  · rcases List.mem_map.mp named with ⟨⟨name, other⟩, member, same⟩
    cases same
    exact .name (Scene.lookup_of_mem accounted.account.distinct member)
  · rcases List.mem_append.mp inHand with control | frames
    · rcases Control.mem_holdings.mp control with ⟨continuation, outcome, doing, holds⟩
      exact .running doing (Continuation.mem_holdings_cell.mp holds)
    · rcases List.mem_flatMap.mp frames with ⟨frame, there, holds⟩
      exact .work there holds

/-- A cell that is kept is not abandoned. -/
theorem Accounted.alive_of_keeps {machine : Machine} (accounted : machine.Accounted)
    {cell : CellId} (kept : machine.Keeps cell) :
    machine.scene.store.state cell ≠ .abandoned := by
  have balanced := accounted.account.account
  cases kept with
  | name found => exact balanced.alive (List.mem_append_left _ (Scene.mem_holdings found))
  | running doing holds =>
      refine balanced.alive (List.mem_append_right _ (List.mem_append_left _ ?_))
      rw [doing]
      exact Continuation.mem_holdings_cell.mpr holds
  | work there holds =>
      refine balanced.alive (List.mem_append_right _ (List.mem_append_right _ ?_))
      exact List.mem_flatMap.mpr ⟨_, there, holds⟩
  | link pending registered holds _ =>
      intro abandoned
      have pledged := Store.pledged_pos.mpr
        ⟨_, _, _, pending, registered, Continuation.mem_holdings_cell.mpr holds⟩
      have account := balanced.balanced (.cell cell)
      rw [balanced.dead abandoned] at account
      omega

/-- A pending cell is kept.  It has holders, and if they are registered links then their sources are
older cells. -/
theorem Accounted.keeps_of_pending {machine : Machine} (accounted : machine.Accounted)
    {cell : CellId} {continuations : List Continuation}
    (pending : machine.scene.store.state cell = .pending continuations) :
    machine.Keeps cell := by
  have balanced := accounted.account.account
  induction cell using Nat.strongRecOn generalizing continuations with
  | ind cell inductionHypothesis =>
      have held := balanced.held pending
      rw [balanced.balanced, Nat.add_pos_iff_pos_or_pos] at held
      rcases held with loose | pledged
      · exact accounted.keeps_of_held (List.count_pos_iff.mp loose)
      · rcases Store.pledged_pos.mp pledged with
          ⟨source, others, continuation, waits, registered, holds⟩
        have links := Continuation.mem_holdings_cell.mp holds
        have older : source < cell := balanced.upward waits registered links
        exact .link waits registered links (inductionHypothesis source older waits)

end Machine

/-! ## Futures -/

/-- Awaiting on a channel fails as abandoned if the channel is closed, or if that is what was sent on
it. -/
theorem Scene.awaited_eq_abandoned {scene : Scene} {channel : ChannelId} :
    scene.awaited channel = .failed .abandoned ↔
      scene.store.channel channel = .closed ∨
        scene.store.channel channel = .delivered (.error .abandoned) := by
  unfold awaited
  cases scene.store.channel channel with
  | waiting => simp
  | closed => simp
  | delivered outcome =>
      cases outcome with
      | ok value => simp [WaitOutcome.ofOutcome]
      | error failure => simp [WaitOutcome.ofOutcome]

namespace Chronicle

section

variable {chronicle : Chronicle}

/-- While a cell is pending its futures wait. -/
theorem waits_of_pending (sound : chronicle.Sound) (accounted : chronicle.machine.Accounted)
    {cell : CellId} {channel : ChannelId} (attached : chronicle.Attached cell (.send channel))
    {continuations : List Continuation}
    (pending : chronicle.store.state cell = .pending continuations) :
    chronicle.store.channel channel = .waiting := by
  have registered : .registered cell (.send channel) ∈ chronicle.events := by
    rcases attached with registered | ⟨outcome, late⟩
    · exact registered
    · rw [sound.late late] at pending
      cases pending
  have told : .registered cell (.send channel) ∈ chronicle.story cell :=
    List.mem_filter.mpr ⟨registered, beq_self_eq_true cell⟩
  rw [sound.orderly.pending pending] at told
  rcases List.mem_map.mp told with ⟨continuation, member, same⟩
  cases same
  have pledged := Store.pledged_pos.mpr
    ⟨cell, continuations, _, pending, member, Continuation.mem_holdings_channel.mpr rfl⟩
  have due : chronicle.store.due (.channel channel) = _ :=
    accounted.account.account.balanced (.channel channel)
  exact Store.due_channel_eq.mp (due ▸ Nat.add_pos_right _ pledged)

/-- Once it has settled they have been told, or wait to be. -/
theorem open_of_settled (sound : chronicle.Sound) (heard : chronicle.Heard)
    (accounted : chronicle.machine.Accounted) {cell : CellId} {channel : ChannelId}
    (attached : chronicle.Attached cell (.send channel)) {outcome : Outcome Value}
    (known : chronicle.outcome? cell = some outcome) :
    chronicle.store.channel channel ≠ .closed := by
  have waits : .channel channel ∈ chronicle.machine.inHand →
      chronicle.store.channel channel ≠ .closed := by
    intro held closed
    have waiting : chronicle.store.channel channel = .waiting :=
      Store.due_channel_eq.mp (accounted.account.account.due_pos (List.mem_append_right _ held))
    rw [closed] at waiting
    cases waiting
  rcases begun_or_waits sound known attached with begun | ⟨rest, panic, there, member⟩
  · rcases heard.told rfl begun with told | running
    · rw [Store.heard?_send_eq_some.mp told]
      exact fun same => Channel.noConfusion same
    · refine waits (List.mem_append_left _ (Control.mem_holdings.mpr ⟨_, _, running, ?_⟩))
      exact Continuation.mem_holdings_channel.mpr rfl
  · refine waits (List.mem_append_right _ (List.mem_flatMap.mpr ⟨_, there, ?_⟩))
    exact Frame.mem_holdings_channel.mpr ⟨_, _, _, rfl, member⟩

/-- A channel waits only for a cell that is not abandoned. -/
theorem alive_of_waiting (sound : chronicle.Sound) (heard : chronicle.Heard)
    (accounted : chronicle.machine.Accounted) {channel : ChannelId}
    (waiting : chronicle.store.channel channel = .waiting) :
    ∃ cell, chronicle.Attached cell (.send channel) ∧
      chronicle.store.state cell ≠ .abandoned := by
  have due := Store.due_channel_eq.mpr waiting
  rw [show chronicle.store.due (.channel channel) = _ from
    accounted.account.account.balanced _, Nat.add_pos_iff_pos_or_pos] at due
  have settled : ∀ {cell : CellId} {outcome : Outcome Value},
      chronicle.Attached cell (.send channel) → chronicle.store.state cell = .settled outcome →
      ∃ cell, chronicle.Attached cell (.send channel) ∧
        chronicle.store.state cell ≠ .abandoned := by
    intro cell outcome there found
    refine ⟨cell, there, ?_⟩
    rw [found]
    exact fun same => CellState.noConfusion same
  rcases due with loose | pledged
  · rcases List.mem_append.mp (List.count_pos_iff.mp loose) with names | inHand
    · rcases List.mem_map.mp names with ⟨_, _, same⟩
      cases same
    · rcases List.mem_append.mp inHand with control | frames
      · rcases Control.mem_holdings.mp control with ⟨continuation, outcome, doing, holds⟩
        have itself := Continuation.mem_holdings_channel.mp holds
        subst itself
        rcases (heard.running rfl doing).2 with ⟨cell, started⟩
        exact settled (heard.started started).1 (heard.started started).2
      · rcases List.mem_flatMap.mp frames with ⟨frame, there, holds⟩
        rcases Frame.mem_holdings_channel.mp holds with ⟨outcome, rest, panic, rfl, member⟩
        rcases sound.tracks.settlement there with ⟨settlement, _, caller, underway⟩
        exact settled (attached_of_underway underway _ member) underway.settled
  · rcases Store.pledged_pos.mp pledged with
      ⟨cell, continuations, continuation, pending, member, holds⟩
    have itself := Continuation.mem_holdings_channel.mp holds
    subst itself
    have told : .registered cell (.send channel) ∈ chronicle.story cell := by
      rw [sound.orderly.pending pending]
      exact List.mem_map_of_mem member
    refine ⟨cell, Or.inl (List.mem_filter.mp told).1, ?_⟩
    rw [show chronicle.store.state cell = _ from pending]
    exact fun same => CellState.noConfusion same

/-- The channel of a future on a cell is closed exactly if the cell is abandoned. -/
theorem closed_iff (sound : chronicle.Sound) (heard : chronicle.Heard)
    (accounted : chronicle.machine.Accounted) {cell : CellId} {channel : ChannelId}
    (attached : chronicle.Attached cell (.send channel)) :
    chronicle.store.channel channel = .closed ↔ chronicle.store.state cell = .abandoned := by
  constructor
  · intro closed
    cases state : chronicle.store.state cell with
    | abandoned => rfl
    | pending continuations =>
        rw [waits_of_pending sound accounted attached state] at closed
        cases closed
    | settled outcome =>
        exact absurd closed (open_of_settled sound heard accounted attached
          (Store.outcome?_eq_some.mpr state))
  · intro abandoned
    cases content : chronicle.store.channel channel with
    | closed => rfl
    | delivered outcome =>
        have settled := heard.heard rfl attached (Store.heard?_send_eq_some.mpr content)
        rw [abandoned] at settled
        cases settled
    | waiting =>
        rcases alive_of_waiting sound heard accounted content with ⟨other, there, alive⟩
        rw [heard.alone rfl attached there] at alive
        exact absurd abandoned alive

end

end Chronicle

/-! ## Names of futures -/

theorem Scene.futures_bind (scene : Scene) (fresh : String) (cell : CellId) :
    (scene.bind fresh cell).futures = scene.futures := by
  unfold bind
  cases scene.names.lookup fresh <;> rfl

theorem Scene.futures_afterWait (scene : Scene) (patience : Option Nat) (result : Result) :
    (scene.afterWait patience result).futures = scene.futures := by
  unfold afterWait
  split <;> rfl

theorem futures_withCell {machine : Machine} {name : String} {next : CellId → Machine}
    (same : ∀ cell, (next cell).scene.futures = machine.scene.futures) :
    (machine.withCell name next).scene.futures = machine.scene.futures := by
  unfold Machine.withCell
  cases machine.scene.names.lookup name with
  | none => rfl
  | some cell => exact same cell

theorem futures_withBarrier {machine : Machine} {name : String} {next : SlotId → Machine}
    (same : ∀ slot, (next slot).scene.futures = machine.scene.futures) :
    (machine.withBarrier name next).scene.futures = machine.scene.futures := by
  unfold Machine.withBarrier
  cases machine.scene.barriers.lookup name with
  | none => rfl
  | some slot => exact same slot

/-- Whether an action makes a future or takes one away. -/
def Action.isAboutFutures : Action → Bool
  | .future _ _ => true
  | .futureTake _ _ => true
  | .poll _ => true
  | _ => false

theorem futures_perform (machine : Machine) {action : Action}
    (other : action.isAboutFutures = false) :
    (machine.perform action).scene.futures = machine.scene.futures := by
  cases action with
  | future fresh name => cases other
  | futureTake fresh name => cases other
  | poll future => cases other
  | create fresh => exact Scene.futures_bind _ _ _
  | resolved fresh value => exact Scene.futures_bind _ _ _
  | rejected fresh failure => exact Scene.futures_bind _ _ _
  | share fresh name => exact futures_withCell fun cell => Scene.futures_bind _ _ _
  | chain fresh source mapping policy =>
      refine futures_withCell fun cell => ?_
      unfold Machine.chain
      dsimp only
      split
      · exact Scene.futures_bind _ _ _
      · rfl
  | onComplete name label body =>
      refine futures_withCell fun cell => ?_
      dsimp only
      split <;> rfl
  | whenAll fresh inputs =>
      simp only [Machine.perform]
      split
      · rfl
      · exact Scene.futures_bind _ _ _
  | whenAny fresh inputs =>
      simp only [Machine.perform]
      split
      · rfl
      · exact Scene.futures_bind _ _ _
  | wait barrier => exact futures_withBarrier fun slot => Scene.futures_afterWait _ _ _
  | waitFor barrier patience => exact futures_withBarrier fun slot => Scene.futures_afterWait _ _ _
  | spawnWait fresh barrier patience => exact futures_withBarrier fun slot => rfl
  | join thread =>
      simp only [Machine.perform]
      split
      · rfl
      · split
        · rfl
        · exact Scene.futures_afterWait _ _ _
  | await name patience => exact futures_withCell fun cell => Scene.futures_afterWait _ _ _
  | awaitTake name patience => exact futures_withCell fun cell => Scene.futures_afterWait _ _ _
  | onThread action => rfl
  | panic text => rfl
  | _ => exact futures_withCell fun cell => rfl

/-- A new future has a channel that has just been registered. -/
theorem future_perform {machine : Machine} {action : Action} :
    ∀ entry ∈ (machine.perform action).scene.futures, entry ∈ machine.scene.futures ∨
      ∃ cell, (cell, .send entry.2) ∈ action.registrations machine.scene := by
  intro entry member
  cases about : action.isAboutFutures with
  | false =>
      rw [futures_perform machine about] at member
      exact Or.inl member
  | true =>
      cases action with
      | future fresh name =>
          simp only [Machine.perform, Machine.withCell] at member
          cases known : machine.scene.names.lookup name with
          | none =>
              rw [known] at member
              exact Or.inl member
          | some cell =>
              rw [known] at member
              rcases List.mem_cons.mp member with rfl | earlier
              · refine Or.inr ⟨cell, ?_⟩
                rw [show Action.registrations machine.scene (.future fresh name) = _ from
                  Scene.onCell_of_lookup known _]
                exact List.mem_cons_self
              · exact Or.inl (Scene.mem_without earlier)
      | futureTake fresh name =>
          simp only [Machine.perform, Machine.withCell] at member
          cases known : machine.scene.names.lookup name with
          | none =>
              rw [known] at member
              exact Or.inl member
          | some cell =>
              rw [known] at member
              rcases List.mem_cons.mp member with rfl | earlier
              · refine Or.inr ⟨cell, ?_⟩
                rw [show Action.registrations machine.scene (.futureTake fresh name) = _ from
                  Scene.onCell_of_lookup known _]
                exact List.mem_cons_self
              · exact Or.inl (Scene.mem_without earlier)
      | poll future =>
          left
          simp only [Machine.perform] at member
          split at member
          · exact member
          · split at member
            · exact member
            · exact Scene.mem_without member
            · exact Scene.mem_without member
      | _ => cases about

/-- Only actions concern the futures. -/
theorem futures_of_step {machine next : Machine} (steps : machine.step? = some next)
    (idle : ∀ action, machine.control ≠ .perform action) :
    next.scene.futures = machine.scene.futures := by
  have drains : ∀ (machine : Machine) (outcome : Outcome Value) (rest : List Continuation)
      (panic : Option String),
      (machine.drainOn outcome rest panic).scene.futures = machine.scene.futures :=
    fun machine outcome rest panic => congrArg Scene.futures (machine.scene_drainOn _ _ _)
  rcases machine with ⟨scene, control, frames⟩
  cases control with
  | perform action => exact absurd rfl (idle action)
  | settle cell outcome =>
      cases steps
      simp only [Machine.settle]
      split <;> rfl
  | run continuation outcome =>
      cases steps
      cases continuation with
      | link target mapping policy =>
          cases outcome with
          | error failure => cases policy <;> rfl
          | ok value => cases mapping <;> rfl
      | gather target board place =>
          simp only [Machine.run]
          split <;> rfl
      | _ => rfl
  | answer result =>
      cases frames with
      | nil => cases steps
      | cons frame rest =>
          cases steps
          cases frame with
          | body label actions =>
              cases actions with
              | cons action further =>
                  simp only [Machine.resume, Machine.above]
                  split <;> rfl
              | nil =>
                  simp only [Machine.resume, Machine.goOn]
                  split <;> rfl
          | drain outcome further panic => exact drains _ _ _ _
          | complain verb =>
              simp only [Machine.resume]
              split <;> rfl
          | name fresh cell => exact Scene.futures_bind _ _ _
          | _ => rfl
  | panic text =>
      cases frames with
      | nil => cases steps
      | cons frame rest =>
          cases steps
          cases frame with
          | drain outcome further panic => exact drains _ _ _ _
          | _ => rfl

namespace Chronicle

/-- What an action registers is attached afterwards. -/
theorem attached_of_registration {chronicle : Chronicle} {action : Action} {next : Machine}
    (doing : chronicle.machine.control = .perform action) {cell : CellId}
    {continuation : Continuation}
    (member : (cell, continuation) ∈ action.registrations chronicle.machine.scene) :
    (chronicle.record next).Attached cell continuation := by
  have written : Event.ofRegistration chronicle.machine.scene.store (cell, continuation) ∈
      (chronicle.record next).events := by
    rw [record_performed doing]
    exact List.mem_append_right _ (List.mem_map_of_mem member)
  unfold Event.ofRegistration at written
  cases known : chronicle.machine.scene.store.outcome? cell with
  | none =>
      rw [known] at written
      exact Or.inl written
  | some outcome =>
      rw [known] at written
      exact Or.inr ⟨outcome, written⟩

/-- Every future has a cell. -/
theorem futures_attached (script : List Action) (steps : Nat) :
    ∀ entry ∈ (after script steps).machine.scene.futures,
      ∃ cell, (after script steps).Attached cell (.send entry.2) := by
  induction steps with
  | zero => exact fun entry member => absurd member List.not_mem_nil
  | succ steps inductionHypothesis =>
      have sound := sound_after script steps
      rcases sound.follows_advance with ⟨new, follows⟩
      have older : ∀ entry ∈ (after script steps).machine.scene.futures,
          ∃ cell, (after script (steps + 1)).Attached cell (.send entry.2) := by
        intro entry member
        rcases inductionHypothesis entry member with ⟨cell, attached⟩
        exact ⟨cell, attached.mono follows.events⟩
      change ∀ entry ∈ (after script steps).advance.machine.scene.futures, _
      cases moved : (after script steps).machine.step? with
      | none =>
          unfold advance
          rw [moved]
          cases ahead : (after script steps).script with
          | nil => exact older
          | cons action rest => exact older
      | some next =>
          intro entry member
          rw [advance_of_step moved, machine_record] at member
          by_cases acts : ∃ action, (after script steps).machine.control = .perform action
          · rcases acts with ⟨action, doing⟩
            have performed : next = (after script steps).machine.perform action := by
              simp only [Machine.step?, doing] at moved
              exact (Option.some.inj moved).symm
            rw [performed] at member
            rcases future_perform entry member with earlier | ⟨cell, registered⟩
            · exact older entry earlier
            · refine ⟨cell, ?_⟩
              change (after script steps).advance.Attached _ _
              rw [advance_of_step moved]
              exact attached_of_registration doing registered
          · rw [futures_of_step moved fun action doing => acts ⟨action, doing⟩] at member
            exact older entry member

/-! ## Exactness -/

/-- A cell that was abandoned.  Nothing has happened to it but registrations, nobody could still
settle it and nobody tries to, and its futures know that it was abandoned. -/
structure Lost (chronicle : Chronicle) (cell : CellId) : Prop where
  abandoned : chronicle.store.state cell = .abandoned
  unkept : ¬chronicle.machine.Keeps cell
  story : ∃ continuations : List Continuation,
    chronicle.story cell = continuations.map (.registered cell)
  /-- Its continuations have not run. -/
  unrun : ∀ {continuation outcome}, .started cell continuation outcome ∉ chronicle.events ∧
    .late cell continuation outcome ∉ chronicle.events
  untried : ∀ {outcome}, chronicle.machine.control ≠ .settle cell outcome
  closed : ∀ {channel}, chronicle.Attached cell (.send channel) →
    chronicle.store.channel channel = .closed
  poll : ∀ {channel future}, chronicle.Attached cell (.send channel) →
    chronicle.machine.scene.futures.lookup future = some channel →
    (chronicle.machine.perform (.poll future)).control = .answer (.outcome (.error .abandoned))

/-- Futures say that a promise was abandoned only if it was, or if it was rejected with just this
failure. -/
structure Truthful (chronicle : Chronicle) : Prop where
  /-- The channel of a future is closed exactly if its cell is abandoned. -/
  closed : ∀ {cell channel}, chronicle.Attached cell (.send channel) →
    (chronicle.store.channel channel = .closed ↔ chronicle.store.state cell = .abandoned)
  poll : ∀ {future channel}, chronicle.machine.scene.futures.lookup future = some channel →
    (chronicle.machine.perform (.poll future)).control = .answer (.outcome (.error .abandoned)) →
    ∃ cell, chronicle.Attached cell (.send channel) ∧
      (Lost chronicle cell ∨ chronicle.outcome? cell = some (.error .abandoned))
  /-- A promise that is awaited under its name is not abandoned meanwhile. -/
  await : ∀ {name patience cell}, chronicle.machine.control = .perform (.await name patience) →
    chronicle.machine.scene.names.lookup name = some cell →
    (chronicle.advance.machine.control = .answer (.waited (.failed .abandoned)) ↔
      chronicle.outcome? cell = some (.error .abandoned))
  /-- One whose name is given up to await it may be. -/
  awaitTake : ∀ {name patience cell},
    chronicle.machine.control = .perform (.awaitTake name patience) →
    chronicle.machine.scene.names.lookup name = some cell →
    (chronicle.advance.machine.control = .answer (.waited (.failed .abandoned)) ↔
      Lost chronicle.advance cell ∨ chronicle.outcome? cell = some (.error .abandoned))

theorem lost_of_abandoned {chronicle : Chronicle} (sound : chronicle.Sound)
    (heard : chronicle.Heard) (accounted : chronicle.machine.Accounted) {cell : CellId}
    (abandoned : chronicle.store.state cell = .abandoned) : Lost chronicle cell := by
  have unsettled : ∀ outcome, chronicle.store.state cell ≠ .settled outcome := by
    intro outcome settled
    rw [abandoned] at settled
    cases settled
  have closed : ∀ {channel}, chronicle.Attached cell (.send channel) →
      chronicle.store.channel channel = .closed :=
    fun attached => (closed_iff sound heard accounted attached).mpr abandoned
  refine ⟨abandoned, ?_, ?_, ?_, ?_, closed, ?_⟩
  · exact fun kept => accounted.alive_of_keeps kept abandoned
  · rcases sound.underway_or_rests cell with
      ⟨settlement, _, rfl, outcome, rest, panic, caller, _, underway⟩ | ⟨_, rests⟩
    · exact absurd underway.settled (unsettled outcome)
    · rw [abandoned] at rests
      exact rests
  · intro continuation outcome
    exact ⟨fun started => unsettled outcome (heard.started started).2,
      fun late => unsettled outcome (sound.late late)⟩
  · intro outcome doing
    exact accounted.account.account.alive (accounted.settles doing) abandoned
  · intro channel future attached found
    have content : chronicle.machine.scene.store.channel channel = .closed := closed attached
    simp only [Machine.perform, found, content, Machine.answerIn]

theorem abandoned_advance {chronicle : Chronicle} (sound : chronicle.Sound) {cell : CellId}
    (there : cell < chronicle.store.cells.length)
    (abandoned : chronicle.store.state cell = .abandoned) :
    cell < chronicle.advance.store.cells.length ∧
      chronicle.advance.store.state cell = .abandoned := by
  unfold advance
  cases moved : chronicle.machine.step? with
  | none =>
      cases chronicle.script with
      | nil => exact ⟨there, abandoned⟩
      | cons action rest => exact ⟨there, abandoned⟩
  | some next =>
      simp only [Chronicle.store, machine_record]
      cases effect_of_step sound.valid moved with
      | performed action doing performs =>
          exact ⟨Nat.lt_of_lt_of_le there performs.grows.cells,
            performs.grows.abandoned there abandoned⟩
      | refused other outcome doing closed result =>
          subst result
          exact ⟨there, abandoned⟩
      | settled other outcome continuations doing pending result =>
          subst result
          have different : cell ≠ other := by
            rintro rfl
            rw [show chronicle.machine.scene.store.state cell = _ from abandoned] at pending
            cases pending
          exact ⟨Nat.lt_of_lt_of_eq there (Store.length_setState _ _ _).symm,
            (Store.state_setState_of_ne _ different _).trans abandoned⟩
      | ran continuation outcome doing runs =>
          exact ⟨Nat.lt_of_lt_of_eq there (congrArg List.length runs.cells).symm,
            (Store.state_of_cells_eq runs.cells cell).trans abandoned⟩
      | wentOn failure outcome rest panic frames doing top result =>
          rw [result, Machine.scene_drainOn]
          simp only [Scene.store_afterEnding]
          exact ⟨there, abandoned⟩
      | popped failure frame rest doing top plain pops =>
          refine ⟨Nat.lt_of_lt_of_eq there pops.released.cells.symm, ?_⟩
          rcases pops.released.state cell with kept | ⟨⟨continuations, pending⟩, _⟩
          · exact kept.trans abandoned
          · rw [show chronicle.machine.scene.store.state cell = _ from abandoned] at pending
            cases pending

theorem lost_after (script : List Action) {steps : Nat} {cell : CellId}
    (there : cell < (after script steps).store.cells.length)
    (abandoned : (after script steps).store.state cell = .abandoned) (further : Nat) :
    Lost (after script (steps + further)) cell := by
  have stays : cell < (after script (steps + further)).store.cells.length ∧
      (after script (steps + further)).store.state cell = .abandoned := by
    induction further with
    | zero => exact ⟨there, abandoned⟩
    | succ further inductionHypothesis =>
        exact abandoned_advance (sound_after script (steps + further)) inductionHypothesis.1
          inductionHypothesis.2
  exact lost_of_abandoned (sound_after script _) (heard_after script _)
    (accounted_after script _) stays.2

/-- How an await ends is to be read off the channel that it opens. -/
theorem awaits_eq {machine : Machine} {name : String} {cell : CellId}
    (found : machine.scene.names.lookup name = some cell) (patience : Nat) :
    (∀ ending, (machine.perform (.await name patience)).control = .answer (.waited ending) ↔
      (machine.perform (.await name patience)).scene.awaited
        machine.scene.store.channels.length = ending) ∧
    ∀ ending, (machine.perform (.awaitTake name patience)).control = .answer (.waited ending) ↔
      (machine.perform (.awaitTake name patience)).scene.awaited
        machine.scene.store.channels.length = ending := by
  have same : ∀ (scene : Scene) (result : Result) (channel : ChannelId),
      (scene.afterWait (some patience) result).awaited channel = scene.awaited channel := by
    intro scene result channel
    simp only [Scene.awaited, Scene.store_afterWait]
  have ends : ∀ {ending other : WaitOutcome},
      Control.answer (.waited ending) = .answer (.waited other) ↔ ending = other := by
    intro ending other
    simp
  constructor
  · intro ending
    simp only [Machine.perform, Machine.withCell, found, Machine.awaitOn, Machine.answerIn, same,
      ends]
    rfl
  · intro ending
    simp only [Machine.perform, Machine.withCell, found, Machine.awaitOn, Machine.answerIn, same,
      ends]
    rfl

/-- An await that opens a channel on a pending cell ends as abandoned exactly if the cell is
abandoned then. -/
theorem awaited_of_pending {chronicle : Chronicle} (sound : chronicle.Sound)
    (heard : chronicle.advance.Heard) (accounted : chronicle.advance.machine.Accounted)
    {action : Action} (doing : chronicle.machine.control = .perform action) {cell : CellId}
    (registers : (cell, .send chronicle.machine.scene.store.channels.length) ∈
      action.registrations chronicle.machine.scene)
    {continuations : List Continuation}
    (pending : chronicle.store.state cell = .pending continuations) :
    chronicle.advance.machine.scene.awaited chronicle.machine.scene.store.channels.length =
        .failed .abandoned ↔
      chronicle.advance.store.state cell = .abandoned := by
  have moved : chronicle.machine.step? = some (chronicle.machine.perform action) := by
    simp only [Machine.step?, doing]
  have attached : chronicle.advance.Attached cell
      (.send chronicle.machine.scene.store.channels.length) := by
    rw [advance_of_step moved]
    exact attached_of_registration doing registers
  rw [Scene.awaited_eq_abandoned, ← closed_iff sound.advance heard accounted attached]
  constructor
  · rintro (closed | delivered)
    · exact closed
    · -- nobody can have sent anything, because the cell has not settled
      have settled := heard.heard rfl attached (Store.heard?_send_eq_some.mpr delivered)
      have grows := (performs sound.valid.named action).grows
      have store : chronicle.advance.store = (chronicle.machine.perform action).scene.store := by
        rw [advance_of_step moved, Chronicle.store, machine_record]
      rw [store] at settled
      rcases grows.pending pending with joined | gone
      · rw [joined] at settled
        cases settled
      · rw [gone] at settled
        cases settled
  · exact Or.inl

theorem WaitOutcome.ofOutcome_eq_abandoned {outcome : Outcome Value} :
    WaitOutcome.ofOutcome outcome = .failed .abandoned ↔ outcome = .error .abandoned := by
  cases outcome <;> simp [WaitOutcome.ofOutcome]

/-- What an await on a named cell says of it. -/
theorem awaits_truthfully {chronicle : Chronicle} (sound : chronicle.Sound)
    (heard : chronicle.advance.Heard) (accounted : chronicle.machine.Accounted)
    (accounted' : chronicle.advance.machine.Accounted) {action : Action}
    (doing : chronicle.machine.control = .perform action) {name : String} {cell : CellId}
    (found : chronicle.machine.scene.names.lookup name = some cell)
    (registers : action.registrations chronicle.machine.scene =
      [(cell, .send chronicle.machine.scene.store.channels.length)])
    (ends : ∀ ending, (chronicle.machine.perform action).control = .answer (.waited ending) ↔
      (chronicle.machine.perform action).scene.awaited
        chronicle.machine.scene.store.channels.length = ending)
    (told : ∀ outcome, chronicle.machine.scene.store.outcome? cell = some outcome →
      (chronicle.machine.perform action).control = .answer (.waited (.ofOutcome outcome))) :
    chronicle.advance.machine.control = .answer (.waited (.failed .abandoned)) ↔
      chronicle.advance.store.state cell = .abandoned ∨
        chronicle.outcome? cell = some (.error .abandoned) := by
  have moved : chronicle.machine.step? = some (chronicle.machine.perform action) := by
    simp only [Machine.step?, doing]
  have next : chronicle.advance.machine = chronicle.machine.perform action := by
    rw [advance_of_step moved, machine_record]
  cases state : chronicle.store.state cell with
  | abandoned => exact absurd state (accounted.alive_of_keeps (.name found))
  | pending continuations =>
      have unsettled : chronicle.outcome? cell = none := by
        simp only [Chronicle.outcome?, Store.outcome?,
          show chronicle.machine.scene.store.state cell = _ from state]
      have ending := awaited_of_pending sound heard accounted' doing
        (registers ▸ List.mem_cons_self) state
      rw [← ending, next, ends, unsettled]
      simp
  | settled outcome =>
      have known : chronicle.outcome? cell = some outcome := Store.outcome?_eq_some.mpr state
      have stays := Store.outcome?_eq_some.mp (outcome?_advance sound known)
      rw [next, told outcome known, known]
      rw [show chronicle.advance.store.state cell = _ from stays]
      simp [WaitOutcome.ofOutcome_eq_abandoned]

theorem truthful (script : List Action) (steps : Nat) : Truthful (after script steps) := by
  have sound := sound_after script steps
  have heard := heard_after script steps
  have accounted := accounted_after script steps
  have heard' : (after script steps).advance.Heard := heard_after script (steps + 1)
  have accounted' : (after script steps).advance.machine.Accounted :=
    accounted_after script (steps + 1)
  refine ⟨closed_iff sound heard accounted, ?_, ?_, ?_⟩
  · intro future channel found answers
    rcases futures_attached script steps _ (mem_of_lookup found) with ⟨cell, attached⟩
    refine ⟨cell, attached, ?_⟩
    simp only [Machine.perform, found] at answers
    cases content : (after script steps).machine.scene.store.channel channel with
    | waiting =>
        rw [content] at answers
        cases answers
    | closed =>
        have abandoned := (closed_iff sound heard accounted attached).mp content
        exact Or.inl (lost_of_abandoned sound heard accounted abandoned)
    | delivered outcome =>
        rw [content] at answers
        cases answers
        have settled := heard.heard rfl attached (Store.heard?_send_eq_some.mpr content)
        exact Or.inr (Store.outcome?_eq_some.mpr settled)
  · intro name patience cell doing found
    rw [awaits_truthfully sound heard' accounted accounted' doing found
      (Scene.onCell_of_lookup found _) (awaits_eq found patience).1
      (fun outcome known => (await_eq found known patience).1)]
    have named : (after script steps).advance.machine.scene.names.lookup name = some cell := by
      have moved : (after script steps).machine.step? =
          some ((after script steps).machine.perform (.await name patience)) := by
        simp only [Machine.step?, doing]
      rw [advance_of_step moved, machine_record]
      simp only [Machine.perform, Machine.withCell, found, Machine.awaitOn, Machine.answerIn,
        Scene.names_afterWait]
      exact found
    have alive := accounted'.alive_of_keeps (.name named)
    exact or_iff_right alive
  · intro name patience cell doing found
    rw [awaits_truthfully sound heard' accounted accounted' doing found
      (Scene.onCell_of_lookup found _) (awaits_eq found patience).2
      (fun outcome known => (await_eq found known patience).2)]
    refine or_congr_left ⟨?_, Lost.abandoned⟩
    exact lost_of_abandoned (sound_after script (steps + 1)) heard' accounted'

/-- A machine at rest keeps what has a name, and what is linked to something that it keeps. -/
theorem keeps_of_rest {machine : Machine} (rest : machine.step? = none) (cell : CellId) :
    machine.Keeps cell ↔
      (∃ name, machine.scene.names.lookup name = some cell) ∨
        ∃ source continuations continuation,
          machine.scene.store.state source = .pending continuations ∧
            continuation ∈ continuations ∧ continuation.target? = some cell ∧
            machine.Keeps source := by
  have free := Machine.inHand_of_rest rest
  constructor
  · intro kept
    cases kept with
    | name found => exact Or.inl ⟨_, found⟩
    | running doing holds =>
        have held : .cell cell ∈ machine.inHand :=
          List.mem_append_left _ (Control.mem_holdings.mpr
            ⟨_, _, doing, Continuation.mem_holdings_cell.mpr holds⟩)
        rw [free] at held
        cases held
    | work there holds =>
        have held : .cell cell ∈ machine.inHand :=
          List.mem_append_right _ (List.mem_flatMap.mpr ⟨_, there, holds⟩)
        rw [free] at held
        cases held
    | link pending registered holds kept =>
        exact Or.inr ⟨_, _, _, pending, registered, holds, kept⟩
  · rintro (⟨name, found⟩ | ⟨source, continuations, continuation, pending, registered, holds, kept⟩)
    · exact .name found
    · exact .link pending registered holds kept

/-- A promise that has not settled is alive exactly as long as it is kept.  One that is abandoned
never had an outcome, and from then on it is lost for ever.  Its futures say so, and no future says
so of any other promise. -/
theorem abandonment_is_exact (script : List Action) :
    (∀ steps cell, (after script steps).outcome? cell = none →
      ((∃ continuations, (after script steps).store.state cell = .pending continuations) ↔
        (after script steps).machine.Keeps cell)) ∧
    (∀ steps, (after script steps).machine.step? = none → ∀ cell,
      (after script steps).machine.Keeps cell ↔
        (∃ name, (after script steps).machine.scene.names.lookup name = some cell) ∨
          ∃ source continuations continuation,
            (after script steps).store.state source = .pending continuations ∧
              continuation ∈ continuations ∧ continuation.target? = some cell ∧
              (after script steps).machine.Keeps source) ∧
    (∀ steps cell, cell < (after script steps).store.cells.length →
      (after script steps).store.state cell = .abandoned →
      (∀ earlier ≤ steps, (after script earlier).outcome? cell = none) ∧
        ∀ further, Lost (after script (steps + further)) cell) ∧
    ∀ steps, Truthful (after script steps) := by
  refine ⟨?_, ?_, ?_, truthful script⟩
  · intro steps cell unsettled
    have accounted := accounted_after script steps
    constructor
    · rintro ⟨continuations, pending⟩
      exact accounted.keeps_of_pending pending
    · intro kept
      cases state : (after script steps).store.state cell with
      | pending continuations => exact ⟨continuations, rfl⟩
      | abandoned => exact absurd state (accounted.alive_of_keeps kept)
      | settled outcome =>
          have known : (after script steps).outcome? cell = some outcome :=
            Store.outcome?_eq_some.mpr state
          rw [known] at unsettled
          cases unsettled
  · exact fun steps rest cell => keeps_of_rest rest cell
  · intro steps cell there abandoned
    refine ⟨?_, lost_after script there abandoned⟩
    intro earlier before
    cases known : (after script earlier).outcome? cell with
    | none => rfl
    | some outcome =>
        have stays := outcome?_stays known (steps - earlier)
        rw [Nat.add_sub_cancel' before] at stays
        have settled := Store.outcome?_eq_some.mp stays
        rw [show (after script steps).machine.scene.store.state cell = _ from abandoned] at settled
        cases settled

end Chronicle

end Promise
end PromiseHttp
