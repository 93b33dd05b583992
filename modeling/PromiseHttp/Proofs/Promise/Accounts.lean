import PromiseHttp.Proofs.Promise.Chronicle
import PromiseHttp.Proofs.Promise.Holding

namespace PromiseHttp
namespace Promise

/-!
# The account of a machine

In a machine the loose holds belong to its names, to the continuation that it is running, and to its
frames: to the continuations that a settlement has still to run, to the links that let go of their
target when they are done, and to the promises that are still to be named.  Every step keeps the
account, so it balances at any time in any script.
-/

namespace Store

/-! ## Listening and combining -/

/-- A continuation that holds nothing changes nothing in the account. -/
theorem Accounted.registerPlain {store : Store} {cell : CellId} {loose : List Holding}
    (accounted : store.Accounted loose) (held : .cell cell ∈ loose)
    (unsettled : store.outcome? cell = none) {continuation : Continuation}
    (plain : continuation.holdings = []) :
    (store.register cell continuation).Accounted loose := by
  have same : store.Accounted (continuation.holdings ++ loose) := by
    rw [plain]
    exact accounted
  refine same.register unsettled (accounted.alive held) ?_
  intro target holds
  have member := Continuation.mem_holdings_cell.mpr holds
  rw [plain] at member
  cases member

/-- A barrier holds nothing. -/
theorem Accounted.withBarrier {loose : List Holding} {store : Store}
    (accounted : store.Accounted loose) {cell : CellId} (held : .cell cell ∈ loose) :
    (store.withBarrier cell).Accounted loose := by
  have opened : store.addSlot.1.Accounted loose := accounted.of_eq rfl rfl
  unfold Store.withBarrier
  cases unsettled : store.addSlot.1.outcome? cell with
  | none => exact opened.registerPlain held unsettled rfl
  | some outcome => exact opened.of_eq rfl rfl

/-- The channel of a future is held by the continuation that will send on it. -/
theorem Accounted.withChannel {loose : List Holding} {store : Store}
    (accounted : store.Accounted loose) {cell : CellId} (held : .cell cell ∈ loose) :
    (store.withChannel cell).Accounted loose := by
  have opened := accounted.addChannel
  unfold Store.withChannel
  cases unsettled : store.addChannel.1.outcome? cell with
  | none =>
      refine Accounted.register opened unsettled (accounted.alive held) ?_
      intro target holds
      cases holds
  | some outcome => exact opened.deliver outcome

/-- Settling a cell on which nothing is registered makes nothing loose. -/
theorem Accounted.settleWith {loose : List Holding} {store : Store}
    (accounted : store.Accounted loose) {target : CellId}
    (bare : ∀ continuations, store.state target = .pending continuations → continuations = [])
    (settling : Option (Outcome Value)) : (store.settleWith target settling).Accounted loose := by
  cases settling with
  | none => exact accounted
  | some outcome =>
      cases found : store.state target with
      | pending continuations =>
          have none := bare continuations found
          subst none
          rw [settleWith_of_pending found]
          exact accounted.settle found outcome
      | settled other =>
          rw [settleWith_of_closed (by simp [found])]
          exact accounted
      | abandoned =>
          rw [settleWith_of_closed (by simp [found])]
          exact accounted

section Combining

variable {target : CellId} {loose : List Holding}
  {arrive : Store → Nat → Outcome Value → Store × Option (Outcome Value)}
  {link : Nat → Continuation}

/-- Linking an input to a newer cell. -/
theorem Accounted.enroll {store : Store} (accounted : store.Accounted loose)
    (arrives : Arrives arrive) (holds : ∀ place, (link place).target? = some target)
    (silent : ∀ place, (link place).channel? = none)
    (bare : ∀ continuations, store.state target = .pending continuations → continuations = [])
    (own : .cell target ∈ loose) {input : CellId} (held : .cell input ∈ loose)
    (older : input < target) (place : Nat) :
    (store.enroll target arrive link place input).Accounted loose := by
  unfold Store.enroll
  cases found : store.outcome? input with
  | none =>
      have only : (link place).holdings = [.cell target] := by
        simp only [Continuation.holdings, holds, silent]
        rfl
      have holding : (store.hold target).Accounted ((link place).holdings ++ loose) := by
        rw [only]
        exact accounted.hold (accounted.alive own)
      refine holding.register ?_ ?_ ?_
      · rw [outcome?_of_state_eq (store.state_hold target input)]
        exact found
      · rw [state_hold]
        exact accounted.alive held
      · intro other known
        rw [holds] at known
        cases known
        exact older
  | some outcome =>
      have arrived : (arrive store place outcome).1.Accounted loose :=
        accounted.of_eq (arrives.cells _ _ _) (arrives.channels _ _ _)
      refine arrived.settleWith ?_ _
      intro continuations pending
      rw [state_of_cells_eq (arrives.cells _ _ _)] at pending
      exact bare continuations pending

theorem Accounted.enlist {store : Store} (accounted : store.Accounted loose)
    (arrives : Arrives arrive) (holds : ∀ place, (link place).target? = some target)
    (silent : ∀ place, (link place).channel? = none)
    (bare : ∀ continuations, store.state target = .pending continuations → continuations = [])
    (own : .cell target ∈ loose) (inputs : List CellId)
    (held : ∀ input ∈ inputs, .cell input ∈ loose) (older : ∀ input ∈ inputs, input < target)
    (place : Nat) : (store.enlist target arrive link place inputs).Accounted loose := by
  induction inputs generalizing store place with
  | nil => exact accounted
  | cons input rest inductionHypothesis =>
      rw [enlist_cons]
      have before := older input List.mem_cons_self
      have joins := joins_enroll arrives link (Nat.ne_of_lt before) store place
      refine inductionHypothesis ?_ ?_ ?_ ?_ _
      · exact accounted.enroll arrives holds silent bare own (held input List.mem_cons_self)
          before place
      · exact fun continuations pending => bare continuations (joins.unsettled pending)
      · exact fun other member => held other (List.mem_cons_of_mem _ member)
      · exact fun other member => older other (List.mem_cons_of_mem _ member)

end Combining

/-- A combined promise has one loose hold on it, that of whoever gets it. -/
theorem Accounted.combine {loose : List Holding} {store : Store} (linked : Store)
    (accounted : store.Accounted loose)
    {arrive : Store → Nat → Outcome Value → Store × Option (Outcome Value)}
    (arrives : Arrives arrive) {link : Nat → Continuation}
    (cells : linked.cells = (store.addCell (.pending [])).1.cells)
    (channels : linked.channels = (store.addCell (.pending [])).1.channels)
    (holds : ∀ place, (link place).target? = some store.cells.length)
    (silent : ∀ place, (link place).channel? = none) (inputs : List CellId)
    (held : ∀ input ∈ inputs, .cell input ∈ loose) :
    (linked.enlist store.cells.length arrive link 0 inputs).Accounted
      (.cell store.cells.length :: loose) := by
  have added := accounted.addCell (rfl : (CellState.pending []).continuations = [])
    (fun same => CellState.noConfusion same)
  refine (added.of_eq cells channels).enlist arrives holds silent ?_ List.mem_cons_self inputs ?_ ?_
    0
  · intro continuations pending
    rw [state_of_cells_eq cells, state_addCell_new] at pending
    cases pending
    rfl
  · exact fun input member => List.mem_cons_of_mem _ (held input member)
  · exact fun input member => accounted.there (held input member)

theorem Accounted.whenAll {loose : List Holding} {store : Store}
    (accounted : store.Accounted loose) {inputs : List CellId}
    (held : ∀ input ∈ inputs, .cell input ∈ loose) :
    (store.whenAll inputs).1.Accounted (.cell (store.whenAll inputs).2 :: loose) := by
  unfold Store.whenAll
  cases inputs with
  | nil => exact accounted.addCell rfl fun same => CellState.noConfusion same
  | cons input rest =>
      exact accounted.combine ((store.addCell (.pending [])).1.addBoard (input :: rest).length).1
        (arrives_gather _) rfl rfl (fun _ => rfl) (fun _ => rfl) (input :: rest) held

theorem Accounted.whenAny {loose : List Holding} {store : Store}
    (accounted : store.Accounted loose) {inputs : List CellId}
    (held : ∀ input ∈ inputs, .cell input ∈ loose) :
    (store.whenAny inputs).1.Accounted (.cell (store.whenAny inputs).2 :: loose) := by
  unfold Store.whenAny
  cases inputs with
  | nil => exact accounted.addCell rfl fun same => CellState.noConfusion same
  | cons input rest =>
      exact accounted.combine (store.addCell (.pending [])).1 arrives_race rfl rfl (fun _ => rfl)
        (fun _ => rfl) (input :: rest) held

end Store
/-! ## Names -/

namespace Scene

theorem without_of_none {α : Type} {key : String} {entries : List (String × α)}
    (missing : entries.lookup key = none) : without key entries = entries := by
  apply List.filter_eq_self.mpr
  intro entry member
  have different := List.lookup_eq_none_iff.mp missing entry member
  exact bne_iff_ne.mpr (Ne.symm (bne_iff_ne.mp different))

theorem not_mem_without {α : Type} (key : String) (entries : List (String × α)) :
    key ∉ (without key entries).map Prod.fst := by
  intro member
  rcases List.mem_map.mp member with ⟨entry, there, same⟩
  have different := (List.mem_filter.mp there).2
  rw [same] at different
  simp at different

/-- Where no key occurs twice, one entry is taken away. -/
theorem perm_without {α : Type} {key : String} {entries : List (String × α)} {found : α}
    (distinct : (entries.map Prod.fst).Nodup) (there : entries.lookup key = some found) :
    entries.Perm ((key, found) :: without key entries) := by
  induction entries with
  | nil => cases there
  | cons entry rest inductionHypothesis =>
      rcases entry with ⟨name, value⟩
      rw [List.map_cons, List.nodup_cons] at distinct
      rw [List.lookup_cons] at there
      by_cases same : key = name
      · subst same
        rw [beq_self_eq_true] at there
        cases there
        have absent : rest.lookup key = none := by
          apply List.lookup_eq_none_iff.mpr
          intro entry member
          apply bne_iff_ne.mpr
          intro same
          exact distinct.1 (List.mem_map.mpr ⟨entry, member, same.symm⟩)
        have kept : without key ((key, found) :: rest) = rest := by
          rw [without, List.filter_cons_of_neg (by simp)]
          exact without_of_none absent
        rw [kept]
      · have other : (key == name) = false := beq_false_of_ne same
        rw [other] at there
        have kept : without key ((name, value) :: rest) = (name, value) :: without key rest := by
          rw [without, List.filter_cons_of_pos (by simpa using Ne.symm same)]
          rfl
        rw [kept]
        exact ((inductionHypothesis distinct.2 there).cons _).trans (List.Perm.swap _ _ _)

/-- What the names hold. -/
def holdings (scene : Scene) : List Holding :=
  scene.names.map fun entry => .cell entry.2

/-- No name is given twice, and the account balances with what the names and others hold. -/
structure Accounted (others : List Holding) (scene : Scene) : Prop where
  distinct : (scene.names.map Prod.fst).Nodup
  account : scene.store.Accounted (scene.holdings ++ others)

section

variable {scene : Scene} {others : List Holding}

theorem mem_holdings {name : String} {cell : CellId}
    (found : scene.names.lookup name = some cell) : .cell cell ∈ scene.holdings :=
  List.mem_map.mpr ⟨(name, cell), mem_of_lookup found, rfl⟩

theorem Accounted.named (_ : scene.Accounted others) {name : String} {cell : CellId}
    (found : scene.names.lookup name = some cell) : .cell cell ∈ scene.holdings ++ others :=
  List.mem_append_left others (mem_holdings found)

/-- A change of the cells that concerns the loose holds of others only. -/
theorem Accounted.change (old new : List Holding) {store : Store}
    (accounted : scene.Accounted (old ++ others))
    (changes : ∀ {loose : List Holding}, scene.store.Accounted (old ++ loose) →
      store.Accounted (new ++ loose)) :
    Accounted (new ++ others) { scene with store := store } where
  distinct := accounted.distinct
  account := by
    have front {part : List Holding} : (scene.holdings ++ (part ++ others)).Perm
        (part ++ (scene.holdings ++ others)) := by
      rw [← List.append_assoc, ← List.append_assoc]
      exact List.perm_append_comm.append_right others
    exact (changes (accounted.account.perm front)).perm front.symm

/-- A change of the cells that is none in the account. -/
theorem Accounted.keep {store : Store} (accounted : scene.Accounted others)
    (changes : scene.store.Accounted (scene.holdings ++ others) →
      store.Accounted (scene.holdings ++ others)) :
    Accounted others { scene with store := store } where
  distinct := accounted.distinct
  account := changes accounted.account

theorem Accounted.of_eq {other : Scene} (accounted : scene.Accounted others)
    (store : other.store = scene.store) (names : other.names = scene.names) :
    other.Accounted others where
  distinct := by
    rw [names]
    exact accounted.distinct
  account := by
    rw [store, holdings, names]
    exact accounted.account

theorem Accounted.perm {others' : List Holding} (accounted : scene.Accounted others)
    (same : others.Perm others') : scene.Accounted others' where
  distinct := accounted.distinct
  account := accounted.account.perm (same.append_left _)

theorem Accounted.release {cell : CellId} (accounted : scene.Accounted (.cell cell :: others)) :
    Accounted others { scene with store := scene.store.release cell } :=
  Accounted.change [.cell cell] [] accounted Store.Accounted.release

/-- A name that is taken away leaves its hold to somebody else. -/
theorem Accounted.unbind (accounted : scene.Accounted others) {name : String} {cell : CellId}
    (found : scene.names.lookup name = some cell) :
    (scene.unbind name).Accounted (.cell cell :: others) where
  distinct := (List.filter_sublist.map Prod.fst).nodup accounted.distinct
  account := by
    have taken := ((perm_without accounted.distinct found).map
      fun entry => Holding.cell entry.2).append_right others
    exact accounted.account.perm (taken.trans List.perm_middle.symm)

/-- A name takes over a hold, and the cell that had the name before is let go of. -/
theorem Accounted.bind {cell : CellId} (accounted : scene.Accounted (.cell cell :: others))
    (fresh : String) : (scene.bind fresh cell).Accounted others := by
  have distinct : (((fresh, cell) :: without fresh scene.names).map Prod.fst).Nodup :=
    List.nodup_cons.mpr ⟨not_mem_without fresh scene.names,
      (List.filter_sublist.map Prod.fst).nodup accounted.distinct⟩
  unfold Scene.bind
  cases found : scene.names.lookup fresh with
  | none =>
      refine ⟨distinct, accounted.account.perm ?_⟩
      simp only [holdings, List.map_cons, without_of_none found]
      exact List.perm_middle
  | some earlier =>
      have moved : Accounted (.cell earlier :: others)
          { scene with names := (fresh, cell) :: without fresh scene.names } := by
        refine ⟨distinct, (accounted.unbind found).account.perm ?_⟩
        exact (List.Perm.append_left _ (List.Perm.swap _ _ _)).trans List.perm_middle
      exact moved.release

theorem Accounted.create (accounted : scene.Accounted others) (fresh : String) {state : CellState}
    (bare : state.continuations = []) (alive : state ≠ .abandoned) :
    (scene.create fresh state).Accounted others := by
  refine Accounted.bind ?_ fresh
  exact accounted.change [] [.cell scene.store.cells.length]
    fun account => account.addCell bare alive

/-- A channel is opened on a cell that somebody holds. -/
theorem Accounted.openChannel (accounted : scene.Accounted others) {cell : CellId}
    (held : .cell cell ∈ scene.holdings ++ others) :
    (scene.openChannel cell).1.Accounted others :=
  accounted.keep fun balanced => balanced.withChannel held

/-- The cells of several names are held. -/
theorem held_of_cells {names : List String} {found : List CellId}
    (all : scene.cells names = .ok found) : ∀ cell ∈ found, .cell cell ∈ scene.holdings := by
  induction names generalizing found with
  | nil =>
      cases all
      intro cell member
      cases member
  | cons name rest inductionHypothesis =>
      simp only [cells] at all
      cases first : scene.names.lookup name with
      | none =>
          rw [first] at all
          cases all
      | some cell =>
          rw [first] at all
          cases others : scene.cells rest with
          | error missing =>
              rw [others] at all
              cases all
          | ok further =>
              rw [others] at all
              cases all
              intro other member
              rcases List.mem_cons.mp member with rfl | later
              · exact mem_holdings first
              · exact inductionHypothesis others other later

end

end Scene

/-! ## What is in hand -/

/-- What a control holds on behalf of the continuation that is running. -/
def Control.holdings : Control → List Holding
  | .run continuation _ => continuation.holdings
  | _ => []

/-- What a frame holds. -/
def Frame.holdings : Frame → List Holding
  | .drain _ rest _ => rest.flatMap Continuation.holdings
  | .letGo cell => [.cell cell]
  | .name _ cell => [.cell cell]
  | _ => []

theorem Control.mem_holdings {control : Control} {holding : Holding} :
    holding ∈ control.holdings ↔
      ∃ continuation outcome, control = .run continuation outcome ∧
        holding ∈ continuation.holdings := by
  cases control <;> simp [holdings]

/-- Among the frames only a settlement holds channels, those of the futures it has still to tell. -/
theorem Frame.mem_holdings_channel {frame : Frame} {channel : ChannelId} :
    .channel channel ∈ frame.holdings ↔
      ∃ outcome rest panic, frame = .drain outcome rest panic ∧ .send channel ∈ rest := by
  cases frame with
  | drain outcome rest panic => simp [holdings, Continuation.mem_holdings_channel, and_assoc]
  | _ => simp [holdings]

/-- Whoever is to settle a cell with a value is above somebody who holds the cell. -/
def Backed : List Frame → Prop
  | [] => True
  | .hand target _ :: rest => .cell target ∈ rest.flatMap Frame.holdings ∧ Backed rest
  | _ :: rest => Backed rest

theorem Backed.tail {frame : Frame} {frames : List Frame} (backed : Backed (frame :: frames)) :
    Backed frames := by
  cases frame with
  | hand target value => exact backed.2
  | _ => exact backed

namespace Machine

/-- What is held on behalf of the work that is going on. -/
def inHand (machine : Machine) : List Holding :=
  machine.control.holdings ++ machine.frames.flatMap Frame.holdings

/-- The account balances with what the names hold and what is in hand, and whoever settles a cell
holds it. -/
structure Accounted (machine : Machine) : Prop where
  account : machine.scene.Accounted machine.inHand
  backed : Backed machine.frames
  settles : ∀ {cell outcome}, machine.control = .settle cell outcome →
    .cell cell ∈ machine.scene.holdings ++ machine.inHand

/-- What the frames hold. -/
def below (machine : Machine) : List Holding := machine.frames.flatMap Frame.holdings

section

variable {machine : Machine}

/-- The account of a machine whose control holds nothing and settles nothing. -/
theorem Accounted.plainly (account : machine.scene.Accounted machine.below)
    (backed : Backed machine.frames) (free : machine.control.holdings = [])
    (idle : ∀ cell outcome, machine.control ≠ .settle cell outcome) : machine.Accounted where
  account := by
    rw [inHand, free]
    exact account
  backed := backed
  settles := fun doing => absurd doing (idle _ _)

theorem Accounted.answerIn {scene : Scene} (account : scene.Accounted machine.below)
    (backed : Backed machine.frames) (result : Result) :
    (machine.answerIn scene result).Accounted :=
  .plainly account backed rfl fun _ _ same => Control.noConfusion same

theorem Accounted.goOnAnswering (account : machine.scene.Accounted machine.below)
    (backed : Backed machine.frames) (result : Result) :
    (machine.goOn (.answer result)).Accounted :=
  .plainly account backed rfl fun _ _ same => Control.noConfusion same

theorem Accounted.goOnPanicking (account : machine.scene.Accounted machine.below)
    (backed : Backed machine.frames) (text : String) :
    (machine.goOn (.panic text)).Accounted :=
  .plainly account backed rfl fun _ _ same => Control.noConfusion same

/-- A cell that somebody holds is to be settled. -/
theorem Accounted.settling {cell : CellId} {outcome : Outcome Value}
    (doing : machine.control = .settle cell outcome)
    (account : machine.scene.Accounted machine.below) (backed : Backed machine.frames)
    (held : .cell cell ∈ machine.scene.holdings ++ machine.below) : machine.Accounted where
  account := by
    rw [inHand, doing]
    exact account
  backed := backed
  settles := by
    intro other another doing'
    rw [doing] at doing'
    cases doing'
    rw [inHand, doing]
    exact held

theorem accounted_withCell {name : String} {next : CellId → Machine}
    (account : machine.scene.Accounted machine.below) (backed : Backed machine.frames)
    (found : ∀ cell, machine.scene.names.lookup name = some cell → (next cell).Accounted) :
    (machine.withCell name next).Accounted := by
  unfold withCell
  cases known : machine.scene.names.lookup name with
  | none => exact .goOnPanicking account backed _
  | some cell => exact found cell known

theorem accounted_withBarrier {name : String} {next : SlotId → Machine}
    (account : machine.scene.Accounted machine.below) (backed : Backed machine.frames)
    (found : ∀ slot, (next slot).Accounted) : (machine.withBarrier name next).Accounted := by
  unfold withBarrier
  cases machine.scene.barriers.lookup name with
  | none => exact .goOnPanicking account backed _
  | some slot => exact found slot

theorem accounted_waitAt {scene : Scene} (account : scene.Accounted machine.below)
    (backed : Backed machine.frames) (slot : SlotId) (patience : Option Nat) :
    (machine.waitAt scene slot patience).Accounted :=
  .answerIn (account.of_eq (Scene.store_afterWait _ _ _) (Scene.names_afterWait _ _ _)) backed _

theorem accounted_awaitOn {scene : Scene} (account : scene.Accounted machine.below)
    (backed : Backed machine.frames) (channel : ChannelId) (patience : Nat) :
    (machine.awaitOn scene channel patience).Accounted :=
  .answerIn (account.of_eq (Scene.store_afterWait _ _ _) (Scene.names_afterWait _ _ _)) backed _

/-- A chained promise is held by its name and by its link. -/
theorem accounted_chain (account : machine.scene.Accounted machine.below)
    (backed : Backed machine.frames) {source : CellId}
    (held : .cell source ∈ machine.scene.holdings ++ machine.below) (fresh : String)
    (mapping : Mapping) (policy : FailurePolicy) :
    (machine.chain fresh source mapping policy).Accounted := by
  have alive := account.account.alive held
  have older := account.account.there held
  let target := machine.scene.store.cells.length
  let store := ((machine.scene.store.addCell (.pending [])).1.hold target)
  have doubled : Scene.Accounted (.cell target :: .cell target :: machine.below)
      { machine.scene with store := store } := by
    refine account.change [] [.cell target, .cell target] fun balanced => ?_
    have added := balanced.addCell (rfl : (CellState.pending []).continuations = [])
      fun same => CellState.noConfusion same
    exact added.hold (added.alive List.mem_cons_self)
  have same : store.state source = machine.scene.store.state source := by
    rw [Store.state_hold, Store.state_addCell_old _ _ older]
  unfold chain
  dsimp only
  split
  · next found =>
      refine .answerIn (Scene.Accounted.bind ?_ fresh) backed _
      refine doubled.change [.cell target] [] fun balanced => ?_
      refine Store.Accounted.register balanced found (same ▸ alive) ?_
      intro other known
      cases known
      exact older
  · exact ⟨doubled, backed, fun doing => Control.noConfusion doing⟩

theorem accounted_onComplete (account : machine.scene.Accounted machine.below)
    (backed : Backed machine.frames) (name label : String) (body : List Action) :
    (machine.perform (.onComplete name label body)).Accounted := by
  refine accounted_withCell account backed ?_
  intro cell known
  cases unsettled : machine.scene.store.outcome? cell with
  | some outcome =>
      simp only [unsettled]
      exact ⟨account, backed, fun doing => Control.noConfusion doing⟩
  | none =>
      simp only [unsettled]
      refine .answerIn (account.keep fun balanced => ?_) backed _
      exact balanced.registerPlain (account.named known) unsettled rfl

/-- A combined promise is held by its name. -/
theorem accounted_combine (account : machine.scene.Accounted machine.below)
    (backed : Backed machine.frames) {inputs : List String} {cells : List CellId}
    (found : machine.scene.cells inputs = .ok cells) {combined : Store × CellId}
    (combines : ∀ {loose : List Holding}, machine.scene.store.Accounted loose →
      (∀ input ∈ cells, .cell input ∈ loose) →
      combined.1.Accounted (.cell combined.2 :: loose)) (fresh : String) :
    (machine.answerIn (Scene.bind { machine.scene with store := combined.1 } fresh combined.2)
      .nothing).Accounted := by
  refine .answerIn (Scene.Accounted.bind ?_ fresh) backed _
  refine ⟨account.distinct, (combines account.account ?_).perm List.perm_middle.symm⟩
  intro input member
  exact List.mem_append_left _ (Scene.held_of_cells found input member)

/-- Performing an action keeps the account. -/
theorem accounted_perform (account : machine.scene.Accounted machine.below)
    (backed : Backed machine.frames) (action : Action) : (machine.perform action).Accounted := by
  have onCell : ∀ {name : String} {next : CellId → Machine},
      (∀ cell, machine.scene.names.lookup name = some cell →
        .cell cell ∈ machine.scene.holdings ++ machine.below → (next cell).Accounted) →
      (machine.withCell name next).Accounted :=
    fun found => accounted_withCell account backed
      fun cell known => found cell known (account.named known)
  cases action with
  | create fresh =>
      exact .answerIn (account.create fresh rfl fun same => CellState.noConfusion same) backed _
  | resolved fresh value =>
      exact .answerIn (account.create fresh rfl fun same => CellState.noConfusion same) backed _
  | rejected fresh failure =>
      exact .answerIn (account.create fresh rfl fun same => CellState.noConfusion same) backed _
  | share fresh name =>
      refine onCell fun cell known held => .answerIn (Scene.Accounted.bind ?_ fresh) backed _
      exact account.change [] [.cell cell] fun balanced =>
        balanced.hold (account.account.alive held)
  | drop name =>
      refine onCell fun cell known held => .answerIn ?_ backed _
      exact (account.unbind known).release
  | resolve name value =>
      exact onCell fun cell known held => .settling rfl account backed held
  | reject name failure =>
      exact onCell fun cell known held => .settling rfl account backed held
  | settle name outcome =>
      exact onCell fun cell known held => .settling rfl account backed held
  | onThread action => exact .plainly account backed rfl fun _ _ same => Control.noConfusion same
  | onComplete name label body => exact accounted_onComplete account backed name label body
  | panic text => exact .goOnPanicking account backed text
  | chain fresh source mapping policy =>
      exact onCell fun cell known held => accounted_chain account backed held fresh mapping policy
  | whenAll fresh inputs =>
      simp only [perform]
      cases found : machine.scene.cells inputs with
      | error name => exact .goOnPanicking account backed _
      | ok cells => exact accounted_combine account backed found (fun balanced => balanced.whenAll) fresh
  | whenAny fresh inputs =>
      simp only [perform]
      cases found : machine.scene.cells inputs with
      | error name => exact .goOnPanicking account backed _
      | ok cells => exact accounted_combine account backed found (fun balanced => balanced.whenAny) fresh
  | peek name => exact onCell fun cell known held => .goOnAnswering account backed _
  | isSettled name => exact onCell fun cell known held => .goOnAnswering account backed _
  | describe name => exact onCell fun cell known held => .goOnAnswering account backed _
  | barrier fresh name =>
      refine onCell fun cell known held => .answerIn ?_ backed _
      exact (account.keep fun balanced => balanced.withBarrier held).of_eq rfl rfl
  | wait barrier =>
      exact accounted_withBarrier account backed fun slot => accounted_waitAt account backed _ _
  | waitFor barrier patience =>
      exact accounted_withBarrier account backed fun slot => accounted_waitAt account backed _ _
  | spawnWait fresh barrier patience =>
      refine accounted_withBarrier account backed fun slot => .answerIn ?_ backed _
      exact account.of_eq rfl rfl
  | join thread =>
      simp only [perform]
      cases machine.scene.waiters.lookup thread with
      | none => exact .goOnPanicking account backed _
      | some waiter =>
          dsimp only
          split
          · refine .answerIn ?_ backed _
            exact account.of_eq rfl rfl
          · refine accounted_waitAt ?_ backed _ _
            exact account.of_eq rfl rfl
  | await name patience =>
      exact onCell fun cell known held =>
        accounted_awaitOn (account.openChannel held) backed _ _
  | awaitTake name patience =>
      refine onCell fun cell known held => accounted_awaitOn ?_ backed _ _
      have taken := account.unbind known
      exact (taken.openChannel (List.mem_append_right _ List.mem_cons_self)).release
  | future fresh name =>
      refine onCell fun cell known held => .answerIn ?_ backed _
      exact (account.openChannel held).of_eq rfl rfl
  | futureTake fresh name =>
      refine onCell fun cell known held => .answerIn ?_ backed _
      have taken := account.unbind known
      exact (taken.openChannel (List.mem_append_right _ List.mem_cons_self)).release.of_eq rfl rfl
  | poll future =>
      simp only [perform]
      cases machine.scene.futures.lookup future with
      | none => exact .goOnPanicking account backed _
      | some channel =>
          have emptied : Scene.Accounted machine.below
              { machine.scene with futures := Scene.without future machine.scene.futures } :=
            account.of_eq rfl rfl
          dsimp only
          cases machine.scene.store.channel channel with
          | waiting => exact .goOnAnswering account backed _
          | delivered outcome => exact .answerIn emptied backed _
          | closed => exact .answerIn emptied backed _

/-! ## Running -/

/-- A link that settles its target lets go of it afterwards. -/
theorem accounted_settleTarget {target : CellId}
    (account : machine.scene.Accounted (.cell target :: machine.below))
    (backed : Backed machine.frames) (outcome : Outcome Value) :
    (machine.above (.letGo target) (.settle target outcome)).Accounted :=
  .settling rfl account backed (List.mem_append_right _ List.mem_cons_self)

/-- A link that does not settle its target lets go of it all the same. -/
theorem accounted_leaveTarget {target : CellId} {control : Control}
    (account : machine.scene.Accounted (.cell target :: machine.below))
    (backed : Backed machine.frames) (free : control.holdings = [])
    (idle : ∀ cell outcome, control ≠ .settle cell outcome) :
    (machine.above (.letGo target) control).Accounted :=
  .plainly account backed free idle

theorem accounted_runLink {target : CellId}
    (account : machine.scene.Accounted (.cell target :: machine.below))
    (backed : Backed machine.frames) (mapping : Mapping) (policy : FailurePolicy)
    (outcome : Outcome Value) : (machine.runLink target mapping policy outcome).Accounted := by
  cases outcome with
  | error failure =>
      cases policy with
      | propagate => exact accounted_settleTarget account backed _
      | ignore =>
          have left : (machine.above (.letGo target) (.answer .nothing)).Accounted :=
            accounted_leaveTarget account backed rfl fun _ _ same => Control.noConfusion same
          exact ⟨left.account.of_eq rfl rfl, left.backed, left.settles⟩
  | ok value =>
      cases mapping with
      | perform body =>
          refine .plainly account ?_ rfl fun _ _ same => Control.noConfusion same
          exact ⟨List.mem_cons_self, backed⟩
      | panic text =>
          exact accounted_leaveTarget account backed rfl fun _ _ same => Control.noConfusion same
      | add amount => exact accounted_settleTarget account backed _
      | const constant => exact accounted_settleTarget account backed _
      | wrap => exact accounted_settleTarget account backed _
      | identity => exact accounted_settleTarget account backed _

/-- What a continuation holds while it runs is passed on or given up. -/
theorem accounted_run {continuation : Continuation}
    (account : machine.scene.Accounted (continuation.holdings ++ machine.below))
    (backed : Backed machine.frames) (outcome : Outcome Value) :
    (machine.run continuation outcome).Accounted := by
  cases continuation with
  | observe label body =>
      refine .plainly ?_ backed rfl fun _ _ same => Control.noConfusion same
      exact account.of_eq rfl rfl
  | link target mapping policy => exact accounted_runLink account backed mapping policy outcome
  | gather target board place =>
      rcases Store.gatherOutcome_keeps machine.scene.store board place outcome with
        ⟨cells, _, channels⟩
      let gathered : Machine := { machine with scene :=
        { machine.scene with
          store := (machine.scene.store.gatherOutcome board place outcome).1 } }
      have account' : gathered.scene.Accounted (.cell target :: gathered.below) :=
        account.keep fun balanced => balanced.of_eq cells channels
      unfold run
      dsimp only
      split
      · exact accounted_settleTarget account' backed _
      · exact accounted_leaveTarget account' backed rfl fun _ _ same => Control.noConfusion same
  | race target place => exact accounted_settleTarget account backed _
  | fill slot =>
      refine .answerIn ?_ backed _
      exact account.keep fun balanced => balanced.of_eq rfl rfl
  | send channel =>
      refine .answerIn ?_ backed _
      exact account.change [.channel channel] [] fun balanced => balanced.deliver outcome

/-! ## Settling and taking frames off -/

theorem accounted_settle (account : machine.scene.Accounted machine.below)
    (backed : Backed machine.frames) (cell : CellId) (outcome : Outcome Value) :
    (machine.settle cell outcome).Accounted := by
  unfold settle
  cases settles : machine.scene.store.settle? cell outcome with
  | none => exact .goOnAnswering account backed _
  | some pair =>
      rcases pair with ⟨store, continuations⟩
      rcases Store.settle?_eq_some.mp settles with ⟨pending, rfl⟩
      refine .plainly ?_ backed rfl fun _ _ same => Control.noConfusion same
      exact account.change [] (continuations.flatMap Continuation.holdings)
        fun balanced => balanced.settle pending outcome

theorem accounted_drainOn {rest : List Continuation}
    (account : machine.scene.Accounted
      (rest.flatMap Continuation.holdings ++ machine.below))
    (backed : Backed machine.frames) (outcome : Outcome Value) (panic : Option String) :
    (machine.drainOn outcome rest panic).Accounted := by
  cases rest with
  | cons continuation rest =>
      refine ⟨?_, backed, fun doing => Control.noConfusion doing⟩
      rw [List.flatMap_cons, List.append_assoc] at account
      exact account
  | nil =>
      cases panic with
      | none => exact .goOnAnswering account backed _
      | some text => exact .goOnPanicking account backed text

/-- A frame that is taken off passes on what it holds or gives it up. -/
theorem accounted_resume {frame : Frame}
    (account : machine.scene.Accounted (frame.holdings ++ machine.below))
    (backed : Backed (frame :: machine.frames)) (result : Result) :
    (machine.resume frame result).Accounted := by
  cases frame with
  | body label actions =>
      cases actions with
      | cons action rest =>
          refine .plainly (account.of_eq ?_ ?_) backed rfl fun _ _ same => Control.noConfusion same
          · simp only [resume, above]
            split <;> rfl
          · simp only [resume, above]
            split <;> rfl
      | nil =>
          refine .plainly (account.of_eq ?_ ?_) backed rfl fun _ _ same => Control.noConfusion same
          · simp only [resume, goOn]
            split <;> rfl
          · simp only [resume, goOn]
            split <;> rfl
  | drain outcome rest panic => exact accounted_drainOn account backed outcome panic
  | complain verb =>
      simp only [resume]
      split
      · exact .plainly (account.of_eq rfl rfl) backed rfl
          fun _ _ same => Control.noConfusion same
      · exact .goOnAnswering account backed _
  | hand target value =>
      exact .settling rfl account backed.2 (List.mem_append_right _ backed.1)
  | letGo cell => exact .answerIn (Scene.Accounted.release account) backed _
  | name fresh cell => exact .answerIn (Scene.Accounted.bind account fresh) backed _
  | thread => exact .goOnAnswering account backed _

theorem accounted_unwind {frame : Frame}
    (account : machine.scene.Accounted (frame.holdings ++ machine.below))
    (backed : Backed (frame :: machine.frames)) (text : String) :
    (machine.unwind frame text).Accounted := by
  have panicking : ∀ {cell : CellId}, machine.scene.Accounted (.cell cell :: machine.below) →
      Accounted { machine with
        scene := { machine.scene with store := machine.scene.store.release cell }
        control := .panic text } :=
    fun held => .plainly held.release backed.tail rfl fun _ _ same => Control.noConfusion same
  cases frame with
  | drain outcome rest panic =>
      let logged : Machine := { machine with
        scene := machine.scene.log .error "promise continuation panicked" [] }
      have account' : logged.scene.Accounted
          (rest.flatMap Continuation.holdings ++ logged.below) := account.of_eq rfl rfl
      exact accounted_drainOn account' backed outcome _
  | letGo cell => exact panicking account
  | name fresh cell => exact panicking account
  | thread => exact .goOnAnswering account backed _
  | body label actions => exact .goOnPanicking account backed text
  | complain verb => exact .goOnPanicking account backed text
  | hand target value => exact .goOnPanicking account backed.2 text

/-- A step keeps the account. -/
theorem Accounted.step {next : Machine} (accounted : machine.Accounted)
    (steps : machine.step? = some next) : next.Accounted := by
  rcases machine with ⟨scene, control, frames⟩
  have account := accounted.account
  have backed := accounted.backed
  cases control with
  | perform action =>
      cases steps
      exact accounted_perform account backed action
  | settle cell outcome =>
      cases steps
      exact accounted_settle account backed cell outcome
  | run continuation outcome =>
      cases steps
      exact accounted_run account backed outcome
  | answer result =>
      cases frames with
      | nil => cases steps
      | cons frame rest =>
          cases steps
          let taken : Machine := ⟨scene, .answer result, rest⟩
          have account' : taken.scene.Accounted (frame.holdings ++ taken.below) := account
          exact accounted_resume account' backed result
  | panic text =>
      cases frames with
      | nil => cases steps
      | cons frame rest =>
          cases steps
          let taken : Machine := ⟨scene, .panic text, rest⟩
          have account' : taken.scene.Accounted (frame.holdings ++ taken.below) := account
          exact accounted_unwind account' backed text

/-- A machine at rest has nothing in hand. -/
theorem inHand_of_rest (rest : machine.step? = none) : machine.inHand = [] := by
  rcases machine with ⟨scene, control, frames⟩
  cases control with
  | perform action => cases rest
  | settle cell outcome => cases rest
  | run continuation outcome => cases rest
  | answer result =>
      cases frames with
      | nil => rfl
      | cons frame frames => cases rest
  | panic text =>
      cases frames with
      | nil => rfl
      | cons frame frames => cases rest

end

end Machine

namespace Chronicle

/-- The account balances at any time. -/
theorem accounted_after (script : List Action) (steps : Nat) :
    (after script steps).machine.Accounted := by
  induction steps with
  | zero =>
      refine ⟨⟨List.nodup_nil, ?_, ?_, ?_, ?_⟩, trivial, fun doing => Control.noConfusion doing⟩
      · intro holding
        cases holding <;> rfl
      · intro cell continuations pending
        cases pending
      · intro cell _
        rfl
      · intro cell continuations continuation target pending
        cases pending
  | succ steps inductionHypothesis =>
      change (after script steps).advance.machine.Accounted
      unfold advance
      cases moved : (after script steps).machine.step? with
      | some next =>
          rw [machine_record]
          exact inductionHypothesis.step moved
      | none =>
          cases (after script steps).script with
          | nil => exact inductionHypothesis
          | cons action rest =>
              have account := inductionHypothesis.account
              rw [Machine.inHand_of_rest moved] at account
              refine .plainly ?_ trivial rfl fun _ _ same => Control.noConfusion same
              exact account.of_eq rfl rfl

end Chronicle

end Promise
end PromiseHttp
