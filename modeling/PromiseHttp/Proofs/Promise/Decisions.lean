import PromiseHttp.Proofs.Promise.Abandonment
import PromiseHttp.Proofs.Promise.Arrivals

namespace PromiseHttp
namespace Promise

/-!
# What decides a promise

A promise that is made by a call has links to it, registered by that call, and no others ever.  So
what its links bring decides what it is settled with.  It follows that decision: it has no other
outcome, and when something has been decided it has that outcome or is just about to be settled with
it.  A step of a link lets it follow the decision that the link hands on, and all other steps let it
follow the same decision as before.

There is one exception.  Like any promise, it can be settled by somebody who has a name of it.
-/

theorem Store.LetGo.outcome?_eq {before after : Store} (released : Store.LetGo before after)
    (cell : CellId) : after.outcome? cell = before.outcome? cell := by
  apply Option.ext
  intro outcome
  rw [Store.outcome?_eq_some, Store.outcome?_eq_some, released.settled]

/-- A step gives a cell an outcome only by settling it while it is pending. -/
theorem outcome?_of_step {machine next : Machine} (valid : machine.Valid)
    (steps : machine.step? = some next) {cell : CellId}
    (there : cell < machine.scene.store.cells.length) :
    next.scene.store.outcome? cell = machine.scene.store.outcome? cell ∨
      ∃ outcome, machine.control = .settle cell outcome ∧
        machine.scene.store.outcome? cell = none ∧
        next.scene.store.outcome? cell = some outcome := by
  cases effect_of_step valid steps with
  | performed action doing performs =>
      left
      rcases performs.grows.state there with joined | ⟨⟨continuations, pending⟩, gone⟩
      · exact Store.outcome?_joinedBy joined
      · simp only [Store.outcome?, pending, gone]
  | refused other outcome doing closed result =>
      rw [result]
      exact Or.inl rfl
  | settled other outcome continuations doing pending result =>
      rw [result]
      by_cases same : cell = other
      · subst same
        refine Or.inr ⟨outcome, doing, ?_, ?_⟩
        · simp only [Store.outcome?, pending]
        · exact Store.outcome?_eq_some.mpr (Store.state_setState _ there _)
      · exact Or.inl (Store.outcome?_of_state_eq (Store.state_setState_of_ne _ same _))
  | ran continuation outcome doing runs =>
      exact Or.inl (Store.outcome?_of_state_eq (Store.state_of_cells_eq runs.cells cell))
  | wentOn failure outcome rest panic frames doing top result =>
      left
      rw [result, Machine.scene_drainOn]
      simp only [Scene.store_afterEnding]
  | popped failure frame rest doing top plain pops => exact Or.inl (pops.released.outcome?_eq cell)

/-- A cell that is alive is settled when it is to be. -/
theorem outcome?_of_settle {machine next : Machine} (steps : machine.step? = some next)
    {cell : CellId} {outcome : Outcome Value} (doing : machine.control = .settle cell outcome)
    (alive : machine.scene.store.state cell ≠ .abandoned)
    (unsettled : machine.scene.store.outcome? cell = none) :
    next.scene.store.outcome? cell = some outcome := by
  simp only [Machine.step?, doing, Option.some.injEq] at steps
  subst steps
  cases state : machine.scene.store.state cell with
  | pending continuations =>
      simp only [Machine.settle, Store.settle?, state]
      exact Store.outcome?_eq_some.mpr (Store.state_setState _ (Store.there_of_pending state) _)
  | settled other =>
      rw [Store.outcome?_eq_some.mpr state] at unsettled
      cases unsettled
  | abandoned => exact absurd state alive

namespace Chronicle

theorem machine_of_step {chronicle : Chronicle} {next : Machine}
    (steps : chronicle.machine.step? = some next) : chronicle.advance.machine = next := by
  rw [advance_of_step steps, machine_record]

/-- A machine at rest stays as it is, or it goes on to the next action of the script. -/
theorem machine_of_rest {chronicle : Chronicle} (rest : chronicle.machine.step? = none) :
    chronicle.advance.machine = chronicle.machine ∨
      ∃ action, chronicle.advance.machine =
        ⟨{ chronicle.machine.scene with reports := [], logs := [] }, .perform action, []⟩ := by
  unfold advance
  rw [rest]
  cases chronicle.script with
  | nil => exact Or.inl rfl
  | cons action rest => exact Or.inr ⟨action, rfl⟩

/-- A machine at rest runs nothing, and the next action of the script finds the cells and boards as
they are. -/
theorem advance_of_rest {chronicle : Chronicle} (rest : chronicle.machine.step? = none) :
    chronicle.machine.control.isRun = false ∧ chronicle.advance.store = chronicle.store := by
  constructor
  · cases doing : chronicle.machine.control with
    | run continuation outcome => simp only [Machine.step?, doing, reduceCtorEq] at rest
    | _ => rfl
  · rcases machine_of_rest rest with same | ⟨action, next⟩
    · rw [store, same, store]
    · rw [store, next, store]

end Chronicle

/-! ## Following a decision -/

/-- A promise follows what is decided: it has no other outcome, and it has this one or is just about
to be settled with it, in the settlement of an input. -/
structure Obeys (target : CellId) (decision : Option (Outcome Value)) (machine : Machine) :
    Prop where
  outcome : ∀ {outcome}, machine.scene.store.outcome? target = some outcome →
    decision = some outcome
  settles : ∀ {outcome}, machine.control = .settle target outcome →
    machine.scene.store.outcome? target = none → decision = some outcome
  decided : ∀ {outcome}, decision = some outcome →
    machine.scene.store.outcome? target = some outcome ∨
      machine.control = .settle target outcome ∧
        ∃ frame ∈ machine.frames, frame.isDrain = true
  free : ∀ {value}, .hand target value ∉ machine.frames

/-- How a link goes on that has this for its target, if that is anything. -/
def Control.handingOn (target : CellId) : Option (Outcome Value) → Control
  | some outcome => .settle target outcome
  | none => .answer .nothing

section Obeying

variable {machine next : Machine} {target : CellId}

/-- A link that runs in a settlement hands on what it has for the promise, if that is anything, and
then the promise is settled next. -/
theorem Obeys.handOn {decision : Option (Outcome Value)} (obeys : Obeys target decision machine)
    (running : machine.control.isRun = true)
    (under : ∃ frame ∈ machine.frames, frame.isDrain = true) {scene : Scene}
    (same : scene.store.outcome? target = machine.scene.store.outcome? target)
    (settling : Option (Outcome Value)) :
    Obeys target (decision.or settling)
      ⟨scene, .handingOn target settling, .letGo target :: machine.frames⟩ := by
  have settled : ∀ {outcome}, decision = some outcome →
      machine.scene.store.outcome? target = some outcome := by
    intro outcome decides
    rcases obeys.decided decides with known | ⟨doing, _⟩
    · exact known
    · rw [doing] at running
      cases running
  have under' : ∃ frame ∈ Frame.letGo target :: machine.frames, frame.isDrain = true := by
    rcases under with ⟨frame, member, drains⟩
    exact ⟨frame, List.mem_cons_of_mem _ member, drains⟩
  constructor
  · intro outcome known
    rw [obeys.outcome (same.symm.trans known)]
    rfl
  · intro outcome doing unsettled
    have undecided : decision = none := by
      cases decides : decision with
      | none => rfl
      | some earlier => cases (same.symm.trans unsettled).symm.trans (settled decides)
    rw [undecided, Option.none_or]
    cases settling with
    | none => cases doing
    | some another =>
        cases doing
        rfl
  · intro outcome decides
    cases earlier : decision with
    | some another =>
        rw [earlier] at decides
        cases decides
        exact Or.inl (same.trans (settled earlier))
    | none =>
        rw [earlier, Option.none_or] at decides
        exact Or.inr ⟨by rw [decides]; rfl, under'⟩
  · intro value member
    rcases List.mem_cons.mp member with here | below
    · cases here
    · exact obeys.free below

/-- All other steps let it follow the same decision, unless somebody settles it by name. -/
theorem Obeys.pass {decision : Option (Outcome Value)} (obeys : Obeys target decision machine)
    (valid : machine.Valid) (accounted : machine.Accounted) (steps : machine.step? = some next)
    (there : target < machine.scene.store.cells.length)
    (unlinked : ∀ continuation outcome, machine.control = .run continuation outcome →
      continuation.target? ≠ some target)
    (unnamed : ∀ outcome, machine.SettlesByName target outcome →
      machine.scene.store.outcome? target ≠ none) : Obeys target decision next := by
  have causes := causes_of_step steps
  have kept : ∀ {outcome}, machine.scene.store.outcome? target = some outcome →
      next.scene.store.outcome? target = some outcome := by
    intro outcome known
    rw [Store.outcome?_eq_some] at known ⊢
    exact (effect_of_step valid steps).keeps known
  constructor
  · intro outcome known
    rcases outcome?_of_step valid steps there with same | ⟨other, settling, unsettled, settled⟩
    · exact obeys.outcome (same.symm.trans known)
    · cases settled.symm.trans known
      exact obeys.settles settling unsettled
  · intro outcome settling unsettled
    have before : machine.scene.store.outcome? target = none := by
      cases known : machine.scene.store.outcome? target with
      | none => rfl
      | some earlier => cases unsettled.symm.trans (kept known)
    rcases causes.settles settling with
      byName | ⟨continuation, another, doing, holds⟩ | ⟨value, result, rest, top, _⟩
    · exact absurd before (unnamed outcome byName)
    · exact absurd holds (unlinked continuation another doing)
    · exact absurd (top ▸ List.mem_cons_self) obeys.free
  · intro outcome decides
    left
    rcases obeys.decided decides with known | ⟨settling, _⟩
    · exact kept known
    · cases known : machine.scene.store.outcome? target with
      | some earlier =>
          cases decides.symm.trans (obeys.outcome known)
          exact kept known
      | none =>
          have held := accounted.settles settling
          exact outcome?_of_settle steps settling (accounted.account.account.alive held) known
  · intro value member
    rcases causes.hands member with below | ⟨mapping, policy, outcome, doing⟩
    · exact obeys.free below
    · exact unlinked _ _ doing rfl

end Obeying

/-- No frame is going to settle a cell that is not there. -/
theorem Backed.there {frames : List Frame} (backed : Backed frames) {store : Store}
    {loose : List Holding} (accounted : store.Accounted loose)
    (held : ∀ holding ∈ frames.flatMap Frame.holdings, holding ∈ loose) {cell : CellId}
    {value : Value} (member : .hand cell value ∈ frames) : cell < store.cells.length := by
  induction frames with
  | nil => cases member
  | cons frame rest inductionHypothesis =>
      have held' : ∀ holding ∈ rest.flatMap Frame.holdings, holding ∈ loose := by
        intro holding there
        exact held holding (List.mem_append_right _ there)
      rcases List.mem_cons.mp member with here | below
      · subst here
        exact accounted.there (held' _ backed.1)
      · exact inductionHypothesis backed.tail held' below

namespace Chronicle

/-- Before some step somebody has settled a cell, which was unsettled then, by one of its names. -/
def SettledByName (script : List Action) (cell : CellId) (steps : Nat) : Prop :=
  ∃ earlier < steps, (after script earlier).outcome? cell = none ∧
    ∃ outcome, (after script earlier).machine.SettlesByName cell outcome

/-- Whoever settles an unsettled cell by name settles it with what they bring. -/
theorem outcome?_of_settlesByName {script : List Action} {steps : Nat} {cell : CellId}
    {outcome : Outcome Value} (unsettled : (after script steps).outcome? cell = none)
    (settles : (after script steps).machine.SettlesByName cell outcome) (later : Nat) :
    (after script (steps + 2 + later)).outcome? cell = some outcome := by
  refine outcome?_stays ?_ later
  rcases settles.step with ⟨⟨name, known⟩, frames, settling⟩
  have next : (after script (steps + 1)).machine =
      ⟨(after script steps).machine.scene, .settle cell outcome, frames⟩ :=
    machine_of_step settling
  have alive := (accounted_after script steps).alive_of_keeps (.name known)
  have steps' : (after script (steps + 1)).machine.step? =
      some ((after script (steps + 1)).machine.settle cell outcome) := by
    rw [next]
    rfl
  have settled : ((after script (steps + 1)).machine.settle cell outcome).scene.store.outcome? cell =
      some outcome := by
    refine outcome?_of_settle steps' (by rw [next]) ?_ ?_
    · rw [next]
      exact alive
    · rw [next]
      exact unsettled
  rw [← settled]
  exact congrArg (fun machine : Machine => machine.scene.store.outcome? cell)
    (machine_of_step steps')

/-- Nothing is settled while the machine is at rest and the script goes on to its next action. -/
theorem obeys_rest {chronicle : Chronicle} {target : CellId} {decision : Option (Outcome Value)}
    (obeys : Obeys target decision chronicle.machine) (rest : chronicle.machine.step? = none) :
    Obeys target decision chronicle.advance.machine := by
  have settled : ∀ {outcome}, decision = some outcome →
      chronicle.machine.scene.store.outcome? target = some outcome := by
    intro outcome decides
    rcases obeys.decided decides with known | ⟨settling, _⟩
    · exact known
    · simp only [Machine.step?, settling, reduceCtorEq] at rest
  rcases machine_of_rest rest with same | ⟨action, next⟩
  · rw [same]
    exact obeys
  · rw [next]
    exact ⟨obeys.outcome, fun settling => Control.noConfusion settling,
      fun decides => Or.inl (settled decides), fun member => absurd member List.not_mem_nil⟩

theorem SettledByName.mono {script : List Action} {cell : CellId} {steps : Nat}
    (settled : SettledByName script cell steps) : SettledByName script cell (steps + 1) := by
  rcases settled with ⟨earlier, before, rest⟩
  exact ⟨earlier, Nat.lt_succ_of_lt before, rest⟩

/-- Whatever has no outcome is pending for everybody who has kept it. -/
theorem pending_of_kept {script : List Action} {steps : Nat} {cell : CellId}
    (unsettled : (after script steps).outcome? cell = none)
    (kept : (after script steps).machine.Keeps cell) :
    ∃ continuations, (after script steps).store.state cell = .pending continuations := by
  have alive := (accounted_after script steps).alive_of_keeps kept
  cases state : (after script steps).store.state cell with
  | pending continuations => exact ⟨continuations, rfl⟩
  | settled outcome => cases unsettled.symm.trans (Store.outcome?_eq_some.mpr state)
  | abandoned => exact absurd state alive

/-- When no settlement is under way, the promise has been settled with what is decided. -/
theorem outcome?_of_calm {chronicle : Chronicle} {target : CellId}
    {decision : Option (Outcome Value)} (obeys : Obeys target decision chronicle.machine)
    (calm : ∀ frame ∈ chronicle.machine.frames, frame.isDrain = false) :
    chronicle.outcome? target = decision := by
  apply Option.ext
  intro outcome
  constructor
  · exact obeys.outcome
  · intro decides
    rcases obeys.decided decides with known | ⟨_, frame, member, drains⟩
    · exact known
    · cases (calm frame member).symm.trans drains

/-! ## The links to a promise -/

/-- The links to a promise that is there.  Nothing else that has ever been attached has it for its
target. -/
structure Linked (target : CellId) (links : List (CellId × Continuation)) (chronicle : Chronicle) :
    Prop where
  cells : target < chronicle.store.cells.length
  only : chronicle.attachments.filter (fun entry => entry.2.target? == some target) = links

section Linking

variable {chronicle : Chronicle} {target : CellId} {links : List (CellId × Continuation)}

theorem Linked.mem_iff (linked : Linked target links chronicle) {cell : CellId}
    {continuation : Continuation} :
    (cell, continuation) ∈ links ↔
      chronicle.Attached cell continuation ∧ continuation.target? = some target := by
  rw [← linked.only, List.mem_filter, mem_attachments, beq_iff_eq]

/-- Whatever is registered later has other targets. -/
theorem Linked.advance (linked : Linked target links chronicle) (sound : chronicle.Sound) :
    Linked target links chronicle.advance := by
  refine ⟨Nat.lt_of_lt_of_le linked.cells (counts_advance sound).1, ?_⟩
  rcases attachments_advance sound with ⟨action, _, _, attached⟩ | ⟨_, attached⟩
  · have nothing : (action.registrations chronicle.machine.scene).filter
        (fun entry => entry.2.target? == some target) = [] := by
      apply List.filter_eq_nil_iff.mpr
      rintro ⟨cell, continuation⟩ member holds
      have next := ((registrations_fresh sound.valid.named member).target (beq_iff_eq.mp holds)).1
      exact absurd linked.cells (Nat.not_lt_of_le (Nat.le_of_eq next.symm))
    rw [attached, List.filter_append, nothing, List.append_nil]
    exact linked.only
  · rw [attached]
    exact linked.only

/-- A call that registers something has a target of its own. -/
theorem linked_of_call (sound : chronicle.Sound) (numbered : chronicle.Numbered) {action : Action}
    (calls : chronicle.machine.control = .perform action) {first : CellId × Continuation}
    (some_link : first ∈ action.registrations chronicle.machine.scene)
    (new : ∀ entry ∈ action.registrations chronicle.machine.scene,
      entry.2.target? = some chronicle.store.cells.length) :
    Linked chronicle.store.cells.length (action.registrations chronicle.machine.scene)
      chronicle.advance := by
  rcases attachments_advance sound with ⟨other, doing, result, attached⟩ | ⟨idle, _⟩
  · cases calls.symm.trans doing
    have after : chronicle.advance.store = (chronicle.machine.perform action).scene.store := by
      rw [store, result]
    refine ⟨?_, ?_⟩
    · rw [after]
      exact ((registrations_fresh sound.valid.named some_link).target (new first some_link)).2
    · have earlier : chronicle.attachments.filter
          (fun entry => entry.2.target? == some chronicle.store.cells.length) = [] := by
        apply List.filter_eq_nil_iff.mpr
        rintro ⟨cell, continuation⟩ there holds
        exact Nat.lt_irrefl _ (numbered.target there (beq_iff_eq.mp holds))
      rw [attached, List.filter_append, earlier, List.nil_append]
      exact List.filter_eq_self.mpr fun entry there => beq_iff_eq.mpr (new entry there)
  · exact absurd calls (idle _)

end Linking

end Chronicle

end Promise
end PromiseHttp
