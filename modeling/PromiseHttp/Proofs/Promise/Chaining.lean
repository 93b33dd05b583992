import PromiseHttp.Proofs.Promise.Decisions

namespace PromiseHttp
namespace Promise

/-!
# Chained promises

A chained promise has one link, from its source.  The link waits until it is given the outcome of the
source, and that happens once.  A failure it hands on or ignores.  To a value it applies its mapping:
a mapping that performs actions is at work until the frame that is pledged to the chained promise is
reached, by a result or by a panic.  What is handed on settles the chained promise.

A link runs at once when the source has settled before, and otherwise in the settlement of the source.
Its life is the same.
-/

/-! ## What a link makes of an outcome -/

/-- A chained promise and what it makes of the outcome of its source. -/
structure Link where
  target : CellId
  mapping : Mapping
  policy : FailurePolicy

/-- What a mapping makes of a value, unless it panics.  Whether actions panic is not for the mapping
to say; when they do not, it hands the value on. -/
def Mapping.result? (mapping : Mapping) (panicked : Bool) (value : Value) : Option Value :=
  match mapping.apply? value with
  | some (.ok mapped) => some mapped
  | some (.error _) => none
  | none => if panicked then none else some value

namespace Link

def continuation (link : Link) : Continuation :=
  .link link.target link.mapping link.policy

/-- What the chained promise has when its source has this. -/
def carry (link : Link) (panicked : Bool) : Option (Outcome Value) → Option (Outcome Value)
  | none => none
  | some (.error failure) =>
    match link.policy with
    | .propagate => some (.error failure)
    | .ignore => none
  | some (.ok value) => (link.mapping.result? panicked value).map .ok

end Link

/-! ## Steps that have nothing to do with a cell -/

/-- The values that frames are pledged to hand on to a cell. -/
def Machine.pledgedTo (machine : Machine) (cell : CellId) : List Value :=
  machine.pledges.filterMap fun pledge => if pledge.1 = cell then some pledge.2 else none

theorem Machine.mem_pledgedTo {machine : Machine} {cell : CellId} {value : Value} :
    value ∈ machine.pledgedTo cell ↔ .hand cell value ∈ machine.frames := by
  rw [← mem_pledges, pledgedTo, List.mem_filterMap]
  constructor
  · rintro ⟨⟨other, another⟩, member, same⟩
    split at same
    · next here =>
        cases here
        cases same
        exact member
    · cases same
  · exact fun member => ⟨_, member, if_pos rfl⟩

/-- Somebody with a frame on top that is pledged to a cell comes to an end. -/
def Machine.RedeemsFor (machine : Machine) (cell : CellId) : Prop :=
  ∃ value frames, machine.frames = .hand cell value :: frames ∧
    ∃ failure, machine.control.ending? = some failure

/-- Where nothing is pledged nothing is redeemed. -/
theorem Machine.not_redeemsFor {machine : Machine} {cell : CellId}
    (unpledged : machine.pledgedTo cell = []) : ¬ machine.RedeemsFor cell := by
  rintro ⟨value, frames, top, _⟩
  have member : value ∈ machine.pledgedTo cell :=
    Machine.mem_pledgedTo.mpr (top ▸ List.mem_cons_self)
  rw [unpledged] at member
  cases member

/-- A step that has nothing to do with a cell. -/
structure Apart (cell : CellId) (before after : Machine) : Prop where
  outcome : after.scene.store.outcome? cell = before.scene.store.outcome? cell
  pledged : after.pledgedTo cell = before.pledgedTo cell
  idle : ∀ outcome, after.control = .settle cell outcome →
    before.scene.store.outcome? cell ≠ none

/-- The pledges to a cell stay when no link to it runs and nobody redeems them. -/
theorem Causes.pledgedTo {before after : Machine} (causes : Causes before after) {cell : CellId}
    (unlinked : ∀ continuation given, before.control = .run continuation given →
      continuation.target? ≠ some cell)
    (unredeemed : ¬ before.RedeemsFor cell) : after.pledgedTo cell = before.pledgedTo cell := by
  have new : ((before.control.brings? Continuation.pledge?).toList).filterMap
      (fun pledge => if pledge.1 = cell then some pledge.2 else none) = [] := by
    apply List.filterMap_eq_nil_iff.mpr
    rintro ⟨other, value⟩ member
    refine if_neg fun same => ?_
    subst same
    cases doing : before.control with
    | run continuation given =>
        rw [doing, Control.brings?, Option.mem_toList] at member
        exact unlinked continuation given doing (Continuation.target?_of_pledge? member)
    | _ =>
        rw [doing] at member
        cases member
  have old : (before.standing.filterMap Frame.pledge?).filterMap
      (fun pledge => if pledge.1 = cell then some pledge.2 else none) = before.pledgedTo cell := by
    unfold Machine.standing
    cases ends : before.control.ending? with
    | none => rfl
    | some failure =>
        cases top : before.frames with
        | nil =>
            rw [Machine.pledgedTo, Machine.pledges, top]
            rfl
        | cons frame rest =>
            rw [Machine.pledgedTo, Machine.pledges, top, List.tail_cons, List.filterMap_cons]
            cases pledges : frame.pledge? with
            | none => rfl
            | some pledge =>
                have other : pledge.1 ≠ cell := by
                  rintro rfl
                  exact unredeemed ⟨pledge.2, rest,
                    top.trans (congrArg (· :: rest) (Frame.pledge?_eq_some.mp pledges)), failure, ends⟩
                rw [List.filterMap_cons, if_neg other]
  rw [Machine.pledgedTo, causes.pledges, List.filterMap_append, new, old]
  rfl

/-- A step has nothing to do with a cell when no link to it runs, nobody redeems a pledge to it, and
nobody is settling it or does so by its name. -/
theorem apart_of_step {machine next : Machine} (valid : machine.Valid)
    (steps : machine.step? = some next) {cell : CellId}
    (there : cell < machine.scene.store.cells.length)
    (unlinked : ∀ continuation given, machine.control = .run continuation given →
      continuation.target? ≠ some cell)
    (unredeemed : ¬ machine.RedeemsFor cell)
    (unsettling : ∀ outcome, machine.control = .settle cell outcome →
      machine.scene.store.outcome? cell ≠ none)
    (unnamed : ∀ outcome, machine.SettlesByName cell outcome →
      machine.scene.store.outcome? cell ≠ none) : Apart cell machine next where
  outcome := by
    rcases outcome?_of_step valid steps there with same | ⟨outcome, doing, unsettled, _⟩
    · exact same
    · exact absurd unsettled (unsettling outcome doing)
  pledged := (causes_of_step steps).pledgedTo unlinked unredeemed
  idle := by
    intro outcome doing
    rcases (causes_of_step steps).settles doing with
      byName | ⟨continuation, given, running, holds⟩ | ⟨value, result, frames, top, answers, _⟩
    · exact unnamed outcome byName
    · exact absurd holds (unlinked continuation given running)
    · exact absurd ⟨value, frames, top, none, by rw [answers]; rfl⟩ unredeemed

/-! ## The life of a link -/

/-- What a link to a cell is given. -/
def Continuation.given? (target : CellId) (outcome : Outcome Value) :
    Continuation → Option (Outcome Value)
  | .link other _ _ => if other = target then some outcome else none
  | _ => none

theorem Link.given?_continuation (link : Link) (outcome : Outcome Value) :
    link.continuation.given? link.target outcome = some outcome :=
  if_pos rfl

theorem Continuation.target?_of_given? {target : CellId} {outcome given : Outcome Value}
    {continuation : Continuation} (gives : continuation.given? target outcome = some given) :
    continuation.target? = some target := by
  cases continuation with
  | link other mapping policy =>
      rw [given?] at gives
      split at gives
      · next same => exact congrArg some same
      · cases gives
  | _ => cases gives

/-- Whether a continuation has a cell for its target. -/
def Continuation.aimsAt (target : CellId) (continuation : Continuation) : Bool :=
  continuation.target? == some target

/-- Whether a panic reaches the frame that is pledged to a cell. -/
def Machine.breaksPledge (machine : Machine) (cell : CellId) : Bool :=
  match machine.control, machine.frames with
  | .panic _, .hand other _ :: _ => other == cell
  | _, _ => false

theorem Machine.breaksPledge_eq_false {machine : Machine} {cell : CellId}
    (unredeemed : ¬ machine.RedeemsFor cell) : machine.breaksPledge cell = false := by
  unfold breaksPledge
  split
  · next text other value frames doing top =>
      refine beq_false_of_ne fun same => unredeemed ⟨value, frames, same ▸ top, some text, ?_⟩
      rw [doing]
      rfl
  · rfl

/-- How far a link has come that has been given this, if anything, and whose actions have or have
not panicked. -/
inductive Stage (link : Link) (machine : Machine) : Option (Outcome Value) → Bool → Prop where
  | waiting (unsettled : machine.scene.store.outcome? link.target = none)
      (unpledged : machine.pledgedTo link.target = [])
      (idle : ∀ outcome, machine.control = .settle link.target outcome →
        machine.scene.store.outcome? link.target ≠ none) : Stage link machine none false
  | working {value : Value} (acts : link.mapping.apply? value = none)
      (unsettled : machine.scene.store.outcome? link.target = none)
      (pledged : machine.pledgedTo link.target = [value])
      (idle : ∀ outcome, machine.control = .settle link.target outcome →
        machine.scene.store.outcome? link.target ≠ none) :
      Stage link machine (some (.ok value)) false
  | settling {given outcome : Outcome Value} {panicked : Bool}
      (carries : link.carry panicked (some given) = some outcome)
      (unsettled : machine.scene.store.outcome? link.target = none)
      (unpledged : machine.pledgedTo link.target = [])
      (doing : machine.control = .settle link.target outcome) :
      Stage link machine (some given) panicked
  | finished {given : Outcome Value} {panicked : Bool}
      (carried : machine.scene.store.outcome? link.target = link.carry panicked (some given))
      (unpledged : machine.pledgedTo link.target = [])
      (idle : ∀ outcome, machine.control = .settle link.target outcome →
        machine.scene.store.outcome? link.target ≠ none) : Stage link machine (some given) panicked

section Living

variable {link : Link} {machine next : Machine}

/-- A link that waits is given an outcome. -/
theorem Stage.run (stage : Stage link machine none false) (given : Outcome Value) :
    Stage link (machine.run link.continuation given) (some given) false := by
  rcases link with ⟨target, mapping, policy⟩
  cases stage with
  | waiting unsettled unpledged idle =>
      have unmoved : ∀ {control : Control}, (∀ outcome, control ≠ .settle target outcome) →
          ∀ outcome, control = .settle target outcome →
            machine.scene.store.outcome? target ≠ none :=
        fun different outcome same => absurd same (different outcome)
      cases given with
      | error failure =>
          cases policy with
          | propagate => exact .settling rfl unsettled unpledged rfl
          | ignore => exact .finished unsettled unpledged (unmoved fun _ => Control.noConfusion)
      | ok value =>
          cases mapping with
          | perform body =>
              refine .working rfl unsettled ?_ (unmoved fun _ => Control.noConfusion)
              have pledges : (machine.run (Link.continuation ⟨target, .perform body, policy⟩)
                  (.ok value)).pledges = (target, value) :: machine.pledges := rfl
              rw [Machine.pledgedTo, pledges, List.filterMap_cons, if_pos rfl]
              exact congrArg (value :: ·) unpledged
          | panic text => exact .finished unsettled unpledged (unmoved fun _ => Control.noConfusion)
          | add amount => exact .settling rfl unsettled unpledged rfl
          | const constant => exact .settling rfl unsettled unpledged rfl
          | wrap => exact .settling rfl unsettled unpledged rfl
          | identity => exact .settling rfl unsettled unpledged rfl

/-- Actions that a link performs come to their end. -/
theorem Stage.redeem {value : Value} (acts : link.mapping.apply? value = none)
    (unsettled : machine.scene.store.outcome? link.target = none)
    (pledged : machine.pledgedTo link.target = [value]) (redeems : machine.RedeemsFor link.target)
    (steps : machine.step? = some next) :
    Stage link next (some (.ok value)) (machine.breaksPledge link.target) := by
  rcases machine with ⟨scene, control, frames⟩
  rcases redeems with ⟨other, rest, top, failure, ends⟩
  cases top
  have pledges : (Machine.mk scene control (.hand link.target other :: rest)).pledges =
      (link.target, other) :: rest.filterMap Frame.pledge? := rfl
  rw [Machine.pledgedTo, pledges, List.filterMap_cons, if_pos rfl, List.cons.injEq] at pledged
  rcases pledged with ⟨rfl, unpledged⟩
  cases control with
  | answer result =>
      cases steps
      refine .settling ?_ unsettled unpledged rfl
      rw [Link.carry, Mapping.result?, acts]
      rfl
  | panic text =>
      cases steps
      have breaks : (Machine.mk scene (.panic text) (.hand link.target other :: rest)).breaksPledge
          link.target = true := beq_self_eq_true link.target
      rw [breaks]
      refine .finished (unsettled.trans ?_) unpledged fun _ same => Control.noConfusion same
      rw [Link.carry, Mapping.result?, acts]
      rfl
  | perform action => cases ends
  | settle cell outcome => cases ends
  | run continuation outcome => cases ends

/-- A step that has nothing to do with a chained promise leaves its link at the same stage. -/
theorem Stage.apart {entered : Option (Outcome Value)} {panicked : Bool}
    (stage : Stage link machine entered panicked) (apart : Apart link.target machine next)
    (unsettling : ∀ outcome, machine.control = .settle link.target outcome →
      machine.scene.store.outcome? link.target ≠ none) : Stage link next entered panicked := by
  have idle : ∀ outcome, next.control = .settle link.target outcome →
      next.scene.store.outcome? link.target ≠ none := by
    rw [apart.outcome]
    exact apart.idle
  cases stage with
  | waiting unsettled unpledged _ =>
      exact .waiting (apart.outcome.trans unsettled) (apart.pledged.trans unpledged) idle
  | working acts unsettled pledged _ =>
      exact .working acts (apart.outcome.trans unsettled) (apart.pledged.trans pledged) idle
  | settling carries unsettled unpledged doing => exact absurd unsettled (unsettling _ doing)
  | finished carried unpledged _ =>
      exact .finished (apart.outcome.trans carried) (apart.pledged.trans unpledged) idle

/-- A link that has been given nothing runs. -/
theorem Stage.step_running {panicked : Bool} {given : Outcome Value}
    (stage : Stage link machine none panicked) (steps : machine.step? = some next)
    (doing : machine.control = .run link.continuation given) :
    Stage link next (some given) (panicked || machine.breaksPledge link.target) := by
  have unbroken : machine.breaksPledge link.target = false := by
    simp only [Machine.breaksPledge, doing]
  have moves : next = machine.run link.continuation given := by
    simp only [Machine.step?, doing, Option.some.injEq] at steps
    exact steps.symm
  cases stage with
  | waiting unsettled unpledged idle =>
      rw [unbroken, moves]
      exact Stage.run (.waiting unsettled unpledged idle) given

/-- A link goes on in a step in which it does not run. -/
theorem Stage.step_unlinked {entered : Option (Outcome Value)} {panicked : Bool}
    (stage : Stage link machine entered panicked) (valid : machine.Valid)
    (accounted : machine.Accounted) (steps : machine.step? = some next)
    (there : link.target < machine.scene.store.cells.length)
    (unlinked : ∀ continuation given, machine.control = .run continuation given →
      continuation.target? ≠ some link.target)
    (unnamed : ∀ outcome, machine.SettlesByName link.target outcome →
      machine.scene.store.outcome? link.target ≠ none) :
    Stage link next entered (panicked || machine.breaksPledge link.target) := by
  have apart := fun unredeemed unsettling =>
    apart_of_step valid steps there unlinked unredeemed unsettling unnamed
  cases stage with
  | waiting unsettled unpledged idle =>
      have unredeemed := Machine.not_redeemsFor unpledged
      rw [Machine.breaksPledge_eq_false unredeemed]
      exact Stage.apart (.waiting unsettled unpledged idle) (apart unredeemed idle) idle
  | working acts unsettled pledged idle =>
      rw [Bool.false_or]
      by_cases redeems : machine.RedeemsFor link.target
      · exact Stage.redeem acts unsettled pledged redeems steps
      · rw [Machine.breaksPledge_eq_false redeems]
        exact Stage.apart (.working acts unsettled pledged idle) (apart redeems idle) idle
  | settling carries unsettled unpledged doing =>
      have unredeemed := Machine.not_redeemsFor unpledged
      have alive := accounted.account.account.alive (accounted.settles doing)
      have settled := outcome?_of_settle steps doing alive unsettled
      rw [Machine.breaksPledge_eq_false unredeemed, Bool.or_false]
      refine .finished (settled.trans carries.symm) ?_ fun _ _ => ?_
      · rw [(causes_of_step steps).pledgedTo unlinked unredeemed, unpledged]
      · rw [settled]
        exact Option.some_ne_none _
  | finished carried unpledged idle =>
      have unredeemed := Machine.not_redeemsFor unpledged
      rw [Machine.breaksPledge_eq_false unredeemed, Bool.or_false]
      exact Stage.apart (.finished carried unpledged idle) (apart unredeemed idle) idle

/-- A link goes on in a step.  It is given an outcome if it runs then. -/
theorem Stage.step {entered : Option (Outcome Value)} {panicked : Bool}
    (stage : Stage link machine entered panicked) (valid : machine.Valid)
    (accounted : machine.Accounted) (steps : machine.step? = some next)
    (there : link.target < machine.scene.store.cells.length)
    (linked : ∀ continuation given, machine.control = .run continuation given →
      continuation.target? = some link.target →
      continuation = link.continuation ∧ entered = none)
    (unnamed : ∀ outcome, machine.SettlesByName link.target outcome →
      machine.scene.store.outcome? link.target ≠ none) :
    Stage link next (entered.or (machine.control.brings? (Continuation.given? link.target)))
      (panicked || machine.breaksPledge link.target) := by
  by_cases runs : ∃ continuation given, machine.control = .run continuation given ∧
      continuation.target? = some link.target
  · rcases runs with ⟨continuation, given, doing, holds⟩
    rcases linked continuation given doing holds with ⟨rfl, rfl⟩
    have gives : machine.control.brings? (Continuation.given? link.target) = some given := by
      rw [doing]
      exact link.given?_continuation given
    rw [gives]
    exact stage.step_running steps doing
  · have unlinked : ∀ continuation given, machine.control = .run continuation given →
        continuation.target? ≠ some link.target :=
      fun continuation given doing holds => runs ⟨continuation, given, doing, holds⟩
    have nothing : machine.control.brings? (Continuation.given? link.target) = none := by
      cases doing : machine.control with
      | run continuation given =>
          cases gives : continuation.given? link.target given with
          | none => exact gives
          | some outcome => exact absurd (Continuation.target?_of_given? gives) (unlinked _ _ doing)
      | _ => rfl
    rw [nothing, Option.or_none]
    exact stage.step_unlinked valid accounted steps there unlinked unnamed

/-- A machine at rest leaves links at their stage when the script goes on. -/
theorem Stage.rest {entered : Option (Outcome Value)} {panicked : Bool}
    (stage : Stage link machine entered panicked) (rest : machine.step? = none) {scene : Scene}
    (store : scene.store = machine.scene.store) (action : Action) :
    Stage link ⟨scene, .perform action, []⟩ entered panicked := by
  have same : scene.store.outcome? link.target = machine.scene.store.outcome? link.target := by
    rw [store]
  have idle : ∀ outcome, Control.perform action = .settle link.target outcome →
      scene.store.outcome? link.target ≠ none := fun _ doing => Control.noConfusion doing
  cases stage with
  | waiting unsettled _ _ => exact .waiting (same.trans unsettled) rfl idle
  | working acts unsettled pledged _ =>
      have member := Machine.mem_pledgedTo.mp (pledged ▸ List.mem_cons_self)
      rw [Machine.frames_of_rest rest] at member
      cases member
  | settling _ _ _ doing => simp only [Machine.step?, doing, reduceCtorEq] at rest
  | finished carried _ _ => exact .finished (same.trans carried) rfl idle

/-- When the machine rests a link has carried over what it has been given. -/
theorem Stage.carried {entered : Option (Outcome Value)} {panicked : Bool}
    (stage : Stage link machine entered panicked) (rest : machine.step? = none) :
    machine.scene.store.outcome? link.target = link.carry panicked entered := by
  cases stage with
  | waiting unsettled _ _ => exact unsettled
  | working acts unsettled pledged _ =>
      have member := Machine.mem_pledgedTo.mp (pledged ▸ List.mem_cons_self)
      rw [Machine.frames_of_rest rest] at member
      cases member
  | settling _ _ _ doing => simp only [Machine.step?, doing, reduceCtorEq] at rest
  | finished carried _ _ => exact carried

end Living

/-! ## At most one thing -/

theorem eq_none_of_length_le {α : Type} {first : Option α} {thing : α}
    (few : (first.toList ++ (some thing).toList).length ≤ 1) : first = none := by
  cases first with
  | none => rfl
  | some before => exact absurd few (Nat.not_succ_le_self 1)

/-- Of two things at most one of which is there, the one that is there is the first or the second. -/
theorem toList_or_of_length_le {α : Type} {first second : Option α}
    (few : (first.toList ++ second.toList).length ≤ 1) :
    (first.or second).toList = first.toList ++ second.toList := by
  cases second with
  | none => rw [Option.or_none, Option.toList_none, List.append_nil]
  | some thing =>
      rw [eq_none_of_length_le few]
      rfl

/-! ## Calls -/

/-- Nobody is pledged to a cell that is not there. -/
theorem Machine.Accounted.unpledged {machine : Machine} (accounted : machine.Accounted)
    {cell : CellId} (beyond : machine.scene.store.cells.length ≤ cell) :
    machine.pledgedTo cell = [] := by
  apply List.eq_nil_iff_forall_not_mem.mpr
  intro value member
  have there := accounted.backed.there accounted.account.account
    (fun holding held => List.mem_append_right _ (List.mem_append_right _ held))
    (Machine.mem_pledgedTo.mp member)
  exact Nat.lt_irrefl _ (Nat.lt_of_lt_of_le there beyond)

/-- A link is registered by a call of its own. -/
theorem registrations_of_link {scene : Scene} {action : Action} {source : CellId} {link : Link}
    (member : (source, link.continuation) ∈ action.registrations scene) :
    (∃ fresh name, action = .chain fresh name link.mapping link.policy ∧
      scene.names.lookup name = some source) ∧ link.target = scene.store.cells.length ∧
      action.registrations scene = [(source, link.continuation)] := by
  have plainly : ∀ {name another}, (source, link.continuation) ∈ scene.onCell name another →
      link.continuation = another ∧ scene.names.lookup name = some source ∧
        scene.onCell name another = [(source, link.continuation)] := by
    intro name another there
    cases known : scene.names.lookup name with
    | none =>
        rw [Scene.onCell_of_none known] at there
        cases there
    | some cell =>
        rw [Scene.onCell_of_lookup known] at there ⊢
        cases List.mem_singleton.mp there
        exact ⟨rfl, rfl, rfl⟩
  have linked : ∀ {names another}, (∀ place, link.continuation ≠ another place) →
      (source, link.continuation) ∉ scene.onCells names another := by
    intro names another different there
    unfold Scene.onCells at there
    split at there
    · rcases (Store.mem_enlisted there).2 with ⟨place, same⟩
      exact different place same
    · cases there
  cases action with
  | chain fresh name mapping policy =>
      rcases plainly member with ⟨same, known, alone⟩
      rcases link with ⟨target, mapping, policy⟩
      cases same
      exact ⟨⟨fresh, name, rfl, known⟩, rfl, alone⟩
  | onComplete name label body => cases (plainly member).1
  | barrier fresh name => cases (plainly member).1
  | await name patience => cases (plainly member).1
  | awaitTake name patience => cases (plainly member).1
  | future fresh name => cases (plainly member).1
  | futureTake fresh name => cases (plainly member).1
  | whenAll fresh names => exact absurd member (linked fun _ same => Continuation.noConfusion same)
  | whenAny fresh names => exact absurd member (linked fun _ same => Continuation.noConfusion same)
  | _ => cases member

/-- A chained promise is pending when it is made. -/
theorem outcome?_of_chain (machine : Machine) (fresh : String) {source : CellId}
    (there : source < machine.scene.store.cells.length) (mapping : Mapping)
    (policy : FailurePolicy) :
    (machine.chain fresh source mapping policy).scene.store.outcome?
      machine.scene.store.cells.length = none := by
  have pending : ((machine.scene.store.addCell (.pending [])).1.hold
      machine.scene.store.cells.length).outcome? machine.scene.store.cells.length = none := by
    rw [Store.outcome?, Store.state_hold, Store.state_addCell_new]
  unfold Machine.chain
  dsimp only
  split
  · rw [Machine.answerIn, (Scene.letGo_bind _ _ _).outcome?_eq]
    refine (Store.outcome?_of_state_eq ?_).trans pending
    exact Store.state_register_of_ne _ (Nat.ne_of_gt there) _
  · exact pending

namespace Chronicle

/-- Whether a panic has reached a frame that was pledged to a cell, before some step. -/
def broken (script : List Action) (cell : CellId) : Nat → Bool
  | 0 => false
  | steps + 1 => broken script cell steps || (after script steps).machine.breaksPledge cell

/-- What the links to a cell have been given. -/
def given (chronicle : Chronicle) (target : CellId) : List (Outcome Value) :=
  chronicle.events.filterMap (Event.brings? (Continuation.given? target))

section Giving

variable {chronicle : Chronicle} {source : CellId} {link : Link}

/-- What is given in a step is given to the link that runs then. -/
theorem given_advance (sound : chronicle.Sound) (target : CellId) :
    chronicle.advance.given target = chronicle.given target ++
      (chronicle.advance.machine.control.brings? (Continuation.given? target)).toList := by
  refine brings_advance sound fun {_ _ continuation} _ _ plain outcome => ?_
  cases continuation with
  | link other mapping policy => cases plain
  | _ => rfl

/-- A link is given the outcome of its source. -/
theorem Linked.given (linked : Linked link.target [(source, link.continuation)] chronicle)
    (sound : chronicle.Sound) (heard : chronicle.Heard) {outcome : Outcome Value}
    (member : outcome ∈ chronicle.given link.target) : chronicle.outcome? source = some outcome := by
  rcases mem_brought.mp member with ⟨cell, continuation, another, gives, begun⟩
  have known := attached_of_begun sound heard begun
  have itself := linked.mem_iff.mpr ⟨known.1, Continuation.target?_of_given? gives⟩
  cases List.mem_singleton.mp itself
  rw [link.given?_continuation] at gives
  cases gives
  exact known.2

/-- When no settlement is under way, a link to a source that has settled has been given its outcome. -/
theorem given_of_calm (sound : chronicle.Sound)
    (calm : ∀ frame ∈ chronicle.machine.frames, frame.isDrain = false)
    (attached : chronicle.Attached source link.continuation) {outcome : Outcome Value}
    (known : chronicle.outcome? source = some outcome) :
    outcome ∈ chronicle.given link.target := by
  rcases begun_or_waits sound known attached with begun | ⟨rest, panic, under, _⟩
  · exact mem_brought.mpr ⟨source, _, outcome, link.given?_continuation outcome, begun⟩
  · cases calm _ under

/-- A link begins at most once. -/
theorem Linked.begins_once (linked : Linked link.target [(source, link.continuation)] chronicle)
    (sound : chronicle.Sound) (heard : chronicle.Heard) :
    chronicle.events.countP (Event.starts (Continuation.aimsAt link.target)) +
      chronicle.events.countP (Event.comesLate (Continuation.aimsAt link.target)) ≤ 1 := by
  refine Chronicle.begins_once sound heard ?_
  have only : chronicle.attachments.filter (fun entry => entry.2.aimsAt link.target) =
      [(source, link.continuation)] := linked.only
  rw [List.countP_eq_length_filter, only]
  exact Nat.le_refl _

/-- A link is given an outcome at most once. -/
theorem Linked.given_once (linked : Linked link.target [(source, link.continuation)] chronicle)
    (sound : chronicle.Sound) (heard : chronicle.Heard) :
    (chronicle.given link.target).length ≤ 1 := by
  rw [← List.countP_true]
  refine Nat.le_trans (countP_brought_le fun outcome continuation given gives _ => ?_)
    (linked.begins_once sound heard)
  exact beq_iff_eq.mpr (Continuation.target?_of_given? gives)

end Giving

section Chained

variable {script : List Action} {steps : Nat} {source : CellId} {link : Link}

/-- A link that has been attached was attached before, or the call that makes it has just been
performed. -/
theorem attached_link_succ
    (attached : (after script (steps + 1)).Attached source link.continuation) :
    (after script steps).Attached source link.continuation ∨
      ∃ action, (after script steps).machine.control = .perform action ∧
        (source, link.continuation) ∈ action.registrations (after script steps).machine.scene := by
  have member : (source, link.continuation) ∈ (after script steps).advance.attachments :=
    mem_attachments.mpr attached
  rcases attachments_advance (sound_after script steps) with ⟨action, doing, _, attachments⟩ |
    ⟨_, attachments⟩
  · rw [attachments] at member
    rcases List.mem_append.mp member with earlier | new
    · exact Or.inl (mem_attachments.mp earlier)
    · exact Or.inr ⟨action, doing, new⟩
  · rw [attachments] at member
    exact Or.inl (mem_attachments.mp member)

/-- A chained promise has one link for ever, and it is newer than its source. -/
theorem linked_of_attached (attached : (after script steps).Attached source link.continuation) :
    Linked link.target [(source, link.continuation)] (after script steps) ∧
      source < link.target := by
  induction steps with
  | zero =>
      rcases attached with registered | ⟨outcome, late⟩
      · cases registered
      · cases late
  | succ steps inductionHypothesis =>
      have sound := sound_after script steps
      rcases attached_link_succ attached with earlier | ⟨action, doing, new⟩
      · rcases inductionHypothesis earlier with ⟨linked, older⟩
        exact ⟨linked.advance sound, older⟩
      · rcases registrations_of_link new with ⟨_, target, alone⟩
        have there := registrations_there sound.valid.named action _ new
        refine ⟨?_, target ▸ there⟩
        rw [target, ← alone]
        refine linked_of_call sound (numbered_after script steps) doing new fun entry member => ?_
        rw [alone] at member
        cases List.mem_singleton.mp member
        exact congrArg some target

/-- No frame is broken that is pledged to a cell that is not there. -/
theorem there_of_broken {cell : CellId} (breaks : broken script cell steps = true) :
    cell < (after script steps).store.cells.length := by
  induction steps with
  | zero => cases breaks
  | succ steps inductionHypothesis =>
      have older := (counts_advance (sound_after script steps)).1
      rw [broken, Bool.or_eq_true] at breaks
      rcases breaks with earlier | now
      · exact Nat.lt_of_lt_of_le (inductionHypothesis earlier) older
      · refine Nat.lt_of_lt_of_le ?_ older
        apply Nat.lt_of_not_le
        intro beyond
        have unpledged := (accounted_after script steps).unpledged beyond
        rw [Machine.breaksPledge_eq_false (Machine.not_redeemsFor unpledged)] at now
        cases now

/-- The link of a promise that has just been made waits. -/
theorem waiting_of_call {action : Action}
    (doing : (after script steps).machine.control = .perform action)
    (new : (source, link.continuation) ∈ action.registrations (after script steps).machine.scene) :
    Stage link (after script (steps + 1)).machine none (broken script link.target (steps + 1)) := by
  have sound := sound_after script steps
  rcases registrations_of_link new with ⟨⟨fresh, name, rfl, known⟩, target, _⟩
  have moves : (after script steps).machine.step? = some ((after script steps).machine.chain fresh
      source link.mapping link.policy) := by
    simp only [Machine.step?, doing, Machine.perform, Machine.withCell, known]
  have moved : (after script (steps + 1)).machine = _ := machine_of_step moves
  have causes := causes_of_step moves
  have unbroken : broken script link.target (steps + 1) = false := by
    rw [broken, Bool.or_eq_false_iff]
    constructor
    · apply Bool.eq_false_iff.mpr
      intro breaks
      have there := there_of_broken breaks
      rw [target] at there
      exact Nat.lt_irrefl _ there
    · simp only [Machine.breaksPledge, doing]
  rw [unbroken, moved]
  refine .waiting ?_ ?_ ?_
  · rw [target]
    exact outcome?_of_chain _ fresh (sound.valid.named.lookup known) _ _
  · rw [causes.pledgedTo (by simp [doing]), target]
    · exact (accounted_after script steps).unpledged (Nat.le_refl _)
    · rintro ⟨value, frames, _, failure, ends⟩
      rw [doing] at ends
      cases ends
  · intro outcome settling
    rcases causes.settles settling with
      ⟨other, performs, names⟩ | ⟨continuation, given, running, _⟩ | ⟨value, result, frames, _, answers, _⟩
    · cases doing.symm.trans performs
      cases names
    · cases doing.symm.trans running
    · cases doing.symm.trans answers

/-- Before the call that makes a promise, its link has been given nothing. -/
theorem given_before_call {action : Action}
    (new : (source, link.continuation) ∈ action.registrations (after script steps).machine.scene) :
    (after script steps).given link.target = [] := by
  apply List.eq_nil_iff_forall_not_mem.mpr
  intro outcome member
  rcases mem_brought.mp member with ⟨cell, continuation, another, brings, begun⟩
  have attached := (attached_of_begun (sound_after script steps) (heard_after script steps) begun).1
  have there := (numbered_after script steps).target (mem_attachments.mpr attached)
    (Continuation.target?_of_given? brings)
  rw [(registrations_of_link new).2.1] at there
  exact Nat.lt_irrefl _ there

/-- When the machine rests, a link stays at its stage. -/
theorem stage_of_rest {entered : Option (Outcome Value)}
    (stage : Stage link (after script steps).machine entered (broken script link.target steps))
    (rest : (after script steps).machine.step? = none) :
    Stage link (after script (steps + 1)).machine entered
      (broken script link.target (steps + 1)) := by
  have unbroken : (after script steps).machine.breaksPledge link.target = false := by
    apply Machine.breaksPledge_eq_false
    rintro ⟨value, frames, top, _⟩
    rw [Machine.frames_of_rest rest] at top
    cases top
  rw [broken, unbroken, Bool.or_false]
  change Stage link (after script steps).advance.machine _ _
  rcases machine_of_rest rest with same | ⟨action, next⟩
  · rw [same]
    exact stage
  · rw [next]
    refine stage.rest rest ?_ action
    rfl

/-- A link goes on while the machine does.  It is not given a second outcome. -/
theorem stage_advance {entered : Option (Outcome Value)}
    (stage : Stage link (after script steps).machine entered (broken script link.target steps))
    (linked : Linked link.target [(source, link.continuation)] (after script steps))
    (once : (entered.toList ++ ((after script steps).machine.control.brings?
      (Continuation.given? link.target)).toList).length ≤ 1)
    (unnamed : ¬ SettledByName script link.target (steps + 1)) :
    Stage link (after script (steps + 1)).machine
      (entered.or ((after script steps).machine.control.brings? (Continuation.given? link.target)))
      (broken script link.target (steps + 1)) := by
  have sound := sound_after script steps
  cases moves : (after script steps).machine.step? with
  | none =>
      rw [Control.brings?_of_calm (advance_of_rest moves).1, Option.or_none]
      exact stage_of_rest stage moves
  | some next =>
      have moved : (after script (steps + 1)).machine = next := machine_of_step moves
      rw [moved]
      refine stage.step sound.valid (accounted_after script steps) moves linked.cells ?_ ?_
      · intro continuation outcome doing holds
        rcases attached_of_running script steps doing with ⟨cell, runs⟩
        cases List.mem_singleton.mp (linked.mem_iff.mpr ⟨runs, holds⟩)
        rw [doing, Control.brings?, link.given?_continuation] at once
        exact ⟨rfl, eq_none_of_length_le once⟩
      · intro outcome byName unsettled
        exact unnamed ⟨steps, Nat.lt_succ_self _, unsettled, outcome, byName⟩

/-- A link that has been attached is at some stage, and it has been given what it has been given but
for the outcome with which it is running now. -/
theorem stage_after (attached : (after script steps).Attached source link.continuation)
    (unnamed : ¬ SettledByName script link.target steps) :
    ∃ entered, (after script steps).given link.target = entered.toList ++
        ((after script steps).machine.control.brings?
          (Continuation.given? link.target)).toList ∧
      Stage link (after script steps).machine entered (broken script link.target steps) := by
  induction steps with
  | zero =>
      rcases attached with registered | ⟨outcome, late⟩
      · cases registered
      · cases late
  | succ steps inductionHypothesis =>
      have sound := sound_after script steps
      have gives : (after script (steps + 1)).given link.target = _ := given_advance sound link.target
      rcases attached_link_succ attached with earlier | ⟨action, doing, new⟩
      · rcases inductionHypothesis earlier fun settled => unnamed settled.mono with
          ⟨entered, came, stage⟩
        have linked := (linked_of_attached earlier).1
        have once := linked.given_once sound (heard_after script steps)
        rw [came] at once
        refine ⟨_, ?_, stage_advance stage linked once unnamed⟩
        rw [gives, came, toList_or_of_length_le once]
        rfl
      · refine ⟨none, ?_, waiting_of_call doing new⟩
        rw [gives, given_before_call new]
        rfl

/-- When the machine rests, a chained promise has what its link makes of what its source has. -/
theorem outcome?_of_link (rest : (after script steps).machine.step? = none)
    (attached : (after script steps).Attached source link.continuation)
    (unnamed : ¬ SettledByName script link.target steps) :
    (after script steps).outcome? link.target =
      link.carry (broken script link.target steps) ((after script steps).outcome? source) := by
  have sound := sound_after script steps
  have linked := (linked_of_attached attached).1
  rcases stage_after attached unnamed with ⟨entered, came, stage⟩
  rw [Control.brings?_of_calm (advance_of_rest rest).1, Option.toList_none, List.append_nil] at came
  have calm : ∀ frame ∈ (after script steps).machine.frames, frame.isDrain = false := by
    rw [Machine.frames_of_rest rest]
    exact fun _ member => absurd member List.not_mem_nil
  have given : entered = (after script steps).outcome? source := by
    cases known : (after script steps).outcome? source with
    | some outcome =>
        have member := given_of_calm sound calm attached known
        rw [came, Option.mem_toList] at member
        exact member
    | none =>
        cases entered with
        | none => rfl
        | some outcome =>
            have member : outcome ∈ (after script steps).given link.target :=
              came ▸ List.mem_cons_self
            cases known.symm.trans (linked.given sound (heard_after script steps) member)
  rw [← given]
  exact stage.carried rest

end Chained

end Chronicle

end Promise
end PromiseHttp
