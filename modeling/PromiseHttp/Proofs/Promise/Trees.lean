import PromiseHttp.Proofs.Promise.Chaining

namespace PromiseHttp
namespace Promise

/-!
# Trees of chained promises

Promises that are chained to promises make trees, since each of them has one link, from a source that
is older.  What a promise of a tree has is found by going down from the root.  A value is mapped by
one function after another, a failure passes through as long as no link ignores it, and where nothing
is handed on everything below stays unsettled.  It makes no difference when the links were registered,
in which order the settlements went through the tree, or what happened on other branches.

Each function is applied at most once, to the value of a source that is resolved.  The warnings in the
log are those of the links that ignore a failure, one for each.
-/

/-! ## Going down a path -/

/-- What the links of a path make of what the root has, if these panic. -/
def follow (panicked : CellId → Bool) (path : List Link) (outcome : Option (Outcome Value)) :
    Option (Outcome Value) :=
  path.foldl (fun had link => link.carry (panicked link.target) had) outcome

section Following

variable {panicked : CellId → Bool}

/-- Where nothing is handed on, everything below stays unsettled. -/
theorem follow_none (path : List Link) : follow panicked path none = none := by
  induction path with
  | nil => rfl
  | cons link rest inductionHypothesis => exact inductionHypothesis

/-- A failure passes through as long as no link ignores it. -/
theorem follow_error (path : List Link) (failure : Failure) :
    follow panicked path (some (.error failure)) =
      if ∀ link ∈ path, link.policy = .propagate then some (.error failure) else none := by
  induction path with
  | nil => exact (if_pos fun _ member => absurd member List.not_mem_nil).symm
  | cons link rest inductionHypothesis =>
      rw [follow, List.foldl_cons]
      cases policy : link.policy with
      | propagate =>
          have carries : link.carry (panicked link.target) (some (.error failure)) =
              some (.error failure) := by
            rw [Link.carry, policy]
          rw [carries]
          refine inductionHypothesis.trans ?_
          simp only [List.forall_mem_cons, policy, true_and]
      | ignore =>
          have carries : link.carry (panicked link.target) (some (.error failure)) = none := by
            rw [Link.carry, policy]
          rw [carries]
          refine (follow_none rest).trans (if_neg fun all => ?_).symm
          have propagates := all link List.mem_cons_self
          rw [policy] at propagates
          cases propagates

/-- A value is mapped by one function after another. -/
theorem follow_ok (path : List Link) (value : Value) :
    follow panicked path (some (.ok value)) =
      (path.foldlM (fun value (link : Link) => link.mapping.result? (panicked link.target) value)
        value).map .ok := by
  induction path generalizing value with
  | nil => rfl
  | cons link rest inductionHypothesis =>
      rw [follow, List.foldl_cons, List.foldlM_cons, Link.carry]
      cases link.mapping.result? (panicked link.target) value with
      | none => exact follow_none rest
      | some mapped => exact inductionHypothesis mapped

/-- What comes of an outcome on its way down depends on how the links act, and on nothing else. -/
theorem follow_congr {others : CellId → Bool} {path other : List Link}
    (same : path.map (fun link => (link.mapping, link.policy, panicked link.target)) =
      other.map fun link => (link.mapping, link.policy, others link.target))
    (outcome : Option (Outcome Value)) :
    follow panicked path outcome = follow others other outcome := by
  induction path generalizing other outcome with
  | nil =>
      rw [List.map_eq_nil_iff.mp same.symm]
      rfl
  | cons link rest inductionHypothesis =>
      cases other with
      | nil => cases same
      | cons another remaining =>
          rw [List.map_cons, List.map_cons, List.cons.injEq] at same
          rcases same with ⟨acts, below⟩
          have carries : link.carry (panicked link.target) outcome =
              another.carry (others another.target) outcome := by
            simp only [Prod.mk.injEq] at acts
            rcases acts with ⟨mapping, policy, panics⟩
            cases outcome with
            | none => rfl
            | some outcome => cases outcome <;> simp only [Link.carry, mapping, policy, panics]
          rw [follow, List.foldl_cons, carries]
          exact inductionHypothesis below _

end Following

namespace Chronicle

/-- A promise is reached from a root by a path of links that have been attached, each to the promise
before it. -/
inductive Descends (chronicle : Chronicle) (root : CellId) : List Link → CellId → Prop where
  | root : Descends chronicle root [] root
  | link {path : List Link} {source : CellId} {link : Link}
      (above : Descends chronicle root path source)
      (attached : chronicle.Attached source link.continuation) :
      Descends chronicle root (path ++ [link]) link.target

section Descending

variable {script : List Action} {steps : Nat} {root cell : CellId} {path : List Link}

/-- When the machine rests, a promise of a tree has what comes of the outcome of the root on the way
down to it. -/
theorem outcome?_of_descends (rest : (after script steps).machine.step? = none)
    (descends : Descends (after script steps) root path cell)
    (unnamed : ∀ link ∈ path, ¬ SettledByName script link.target steps) :
    (after script steps).outcome? cell =
      follow (broken script · steps) path ((after script steps).outcome? root) := by
  induction descends with
  | root => rfl
  | @link path source link above attached inductionHypothesis =>
      have before := inductionHypothesis fun other member =>
        unnamed other (List.mem_append_left _ member)
      have last := unnamed link (List.mem_append_right _ List.mem_cons_self)
      rw [outcome?_of_link rest attached last, before, follow, follow, List.foldl_append]
      rfl

/-- No promise of a tree is older than the root. -/
theorem Descends.root_le (descends : Descends (after script steps) root path cell) :
    root ≤ cell := by
  induction descends with
  | root => exact Nat.le_refl _
  | link above attached inductionHypothesis =>
      exact Nat.le_trans inductionHypothesis (Nat.le_of_lt (linked_of_attached attached).2)

/-- A promise of a tree is reached from the root by one path only. -/
theorem Descends.unique {other : List Link}
    (first : Descends (after script steps) root path cell)
    (second : Descends (after script steps) root other cell) : path = other := by
  induction first generalizing other with
  | root =>
      cases second with
      | root => rfl
      | link above attached =>
          have newer := (linked_of_attached attached).2
          exact absurd (Nat.lt_of_le_of_lt above.root_le newer) (Nat.lt_irrefl _)
  | @link path source link above attached inductionHypothesis =>
      have linked := linked_of_attached attached
      generalize same : link.target = cell at second
      cases second with
      | root => exact absurd (same ▸ Nat.lt_of_le_of_lt above.root_le linked.2) (Nat.lt_irrefl _)
      | @link path' source' link' above' attached' =>
          have itself := linked.1.mem_iff.mpr ⟨attached', by rw [same]; rfl⟩
          rcases link with ⟨target, mapping, policy⟩
          rcases link' with ⟨target', mapping', policy'⟩
          cases List.mem_singleton.mp itself
          rw [inductionHypothesis above']

end Descending

/-! ## Functions -/

section Applying

variable {script : List Action}

/-- A link that runs is given what it runs with, after all that it has been given before. -/
theorem given_of_running {steps : Nat} {link : Link} {outcome : Outcome Value}
    (running : (after script (steps + 1)).machine.control = .run link.continuation outcome) :
    (after script (steps + 1)).given link.target =
      (after script steps).given link.target ++ [outcome] := by
  have gives : (after script (steps + 1)).given link.target = (after script steps).given link.target ++
      ((after script (steps + 1)).machine.control.brings?
        (Continuation.given? link.target)).toList :=
    given_advance (sound_after script steps) link.target
  rw [gives, running, Control.brings?, link.given?_continuation]
  rfl

theorem given_grows (script : List Action) (first further : Nat) (target : CellId) :
    (after script first).given target <+: (after script (first + further)).given target := by
  induction further with
  | zero => exact List.prefix_refl _
  | succ further inductionHypothesis =>
      have gives : (after script (first + (further + 1))).given target = _ :=
        given_advance (sound_after script (first + further)) target
      rw [gives]
      exact inductionHypothesis.trans (List.prefix_append _ _)

/-- A link that has run does not run again. -/
theorem runs_not_again {first further : Nat} {link again : Link} {outcome other : Outcome Value}
    (same : again.target = link.target)
    (once : (after script first).machine.control = .run link.continuation outcome) :
    (after script (first + further + 1)).machine.control ≠ .run again.continuation other := by
  intro twice
  cases first with
  | zero => cases once
  | succ earlier =>
      rcases attached_of_running script _ twice with ⟨source, attached⟩
      have few := (linked_of_attached attached).1.given_once (sound_after script _)
        (heard_after script _)
      have before := (given_grows script (earlier + 1) further link.target).length_le
      rw [given_of_running once, List.length_append] at before
      rw [given_of_running twice, same, List.length_append] at few
      simp only [List.length_singleton] at before few
      omega

/-- A function is applied to the value of a source that is resolved. -/
theorem source_of_running {steps : Nat} {link : Link} {outcome : Outcome Value}
    (running : (after script steps).machine.control = .run link.continuation outcome) :
    ∃ source, (after script steps).Attached source link.continuation ∧
      (after script steps).outcome? source = some outcome := by
  rcases attached_of_running script steps running with ⟨source, attached⟩
  refine ⟨source, attached, ?_⟩
  cases steps with
  | zero => cases running
  | succ steps =>
      have member : outcome ∈ (after script (steps + 1)).given link.target := by
        rw [given_of_running running]
        exact List.mem_append_right _ List.mem_cons_self
      exact (linked_of_attached attached).1.given (sound_after script _) (heard_after script _) member

end Applying

/-! ## Warnings -/

/-- All that has been logged.  The log of the machine starts anew with each action of the script. -/
def written (script : List Action) : Nat → List LogEntry
  | 0 => []
  | steps + 1 => written script steps ++
      (after script (steps + 1)).machine.scene.logs.drop
        (after script steps).machine.scene.logs.length

/-- The failures that links have ignored, each with the target of its link. -/
def ignored (chronicle : Chronicle) : List (CellId × Failure) :=
  chronicle.events.filterMap (Event.brings? Continuation.ignored?)

section Warning

variable {script : List Action} {steps : Nat}

theorem ignored_advance {chronicle : Chronicle} (sound : chronicle.Sound) :
    chronicle.advance.ignored = chronicle.ignored ++
      (chronicle.advance.machine.control.brings? Continuation.ignored?).toList := by
  refine brings_advance sound fun {_ _ continuation} _ _ plain outcome => ?_
  cases continuation with
  | link target mapping policy => cases plain
  | _ => cases outcome <;> rfl

/-- What a step adds to the warnings is the warning of the link that runs, if it ignores a failure. -/
theorem warnings_of_step (script : List Action) (steps : Nat) :
    ((after script (steps + 1)).machine.scene.logs.drop
      (after script steps).machine.scene.logs.length).filter (fun entry => entry.level == .warn) =
      ((after script steps).machine.control.brings? Continuation.ignored?).toList.map
        fun one => ignoring one.2 := by
  cases moves : (after script steps).machine.step? with
  | none =>
      have nothing : (after script (steps + 1)).machine.scene.logs.drop
          (after script steps).machine.scene.logs.length = [] := by
        apply List.drop_eq_nil_of_le
        rcases machine_of_rest moves with same | ⟨action, next⟩
        · exact Nat.le_of_eq (congrArg (fun machine : Machine => machine.scene.logs.length) same)
        · change (after script steps).advance.machine.scene.logs.length ≤ _
          rw [next]
          exact Nat.zero_le _
      rw [nothing, Control.brings?_of_calm (advance_of_rest moves).1]
      rfl
  | some next =>
      rcases (causes_of_step moves).logs with ⟨errors, logs, all⟩
      have quiet : errors.filter (fun entry => entry.level == .warn) = [] := by
        apply List.filter_eq_nil_iff.mpr
        intro entry member
        rw [all entry member]
        exact Bool.false_ne_true
      have moved : (after script (steps + 1)).machine = next := machine_of_step moves
      rw [moved, logs, List.drop_left, List.filter_append, quiet, List.append_nil]
      cases (after script steps).machine.control with
      | run continuation outcome =>
          cases ignores : continuation.ignored? outcome with
          | none => simp [Control.brings?, Continuation.warning?, ignores]
          | some one => simp [Control.brings?, Continuation.warning?, ignores, ignoring]
      | _ => rfl

/-- The warnings in the log are those of the links that have ignored a failure, but for a link that is
just about to. -/
theorem warnings_after (script : List Action) (steps : Nat) :
    (written script steps).filter (fun entry => entry.level == .warn) ++
      ((after script steps).machine.control.brings? Continuation.ignored?).toList.map
        (fun one => ignoring one.2) =
      (after script steps).ignored.map fun one => ignoring one.2 := by
  induction steps with
  | zero => rfl
  | succ steps inductionHypothesis =>
      have ignores : (after script (steps + 1)).ignored = _ :=
        ignored_advance (sound_after script steps)
      rw [written, List.filter_append, warnings_of_step, inductionHypothesis, ignores,
        List.map_append]
      rfl

theorem mem_ignored {chronicle : Chronicle} {target : CellId} {failure : Failure} :
    (target, failure) ∈ chronicle.ignored ↔ ∃ source mapping,
      .started source (.link target mapping .ignore) (.error failure) ∈ chronicle.events ∨
        .late source (.link target mapping .ignore) (.error failure) ∈ chronicle.events := by
  rw [ignored, mem_brought]
  constructor
  · rintro ⟨source, continuation, outcome, ignores, begun⟩
    rcases Continuation.ignored?_eq_some.mp ignores with ⟨mapping, rfl, rfl⟩
    exact ⟨source, mapping, begun⟩
  · rintro ⟨source, mapping, begun⟩
    exact ⟨source, _, _, Continuation.ignored?_eq_some.mpr ⟨mapping, rfl, rfl⟩, begun⟩

/-- Whatever has been ignored was ignored by a link to a source that is rejected. -/
theorem attached_of_ignored {target : CellId} {failure : Failure}
    (member : (target, failure) ∈ (after script steps).ignored) : ∃ source mapping,
      (after script steps).Attached source (.link target mapping .ignore) ∧
        (after script steps).outcome? source = some (.error failure) := by
  rcases mem_ignored.mp member with ⟨source, mapping, begun⟩
  exact ⟨source, mapping,
    attached_of_begun (sound_after script steps) (heard_after script steps) begun⟩

/-- No link ignores two failures. -/
theorem ignored_once (script : List Action) (steps : Nat) :
    ((after script steps).ignored.map Prod.fst).Nodup := by
  apply List.nodup_iff_count.mpr
  intro target
  by_cases found : target ∈ (after script steps).ignored.map Prod.fst
  · rcases List.mem_map.mp found with ⟨⟨other, failure⟩, member, same⟩
    obtain rfl : other = target := same
    rcases attached_of_ignored member with ⟨source, mapping, attached, _⟩
    let link : Link := ⟨other, mapping, .ignore⟩
    have linked : Linked other [(source, link.continuation)] (after script steps) :=
      (@linked_of_attached script steps source link attached).1
    rw [List.count, List.countP_map]
    refine Nat.le_trans (countP_brought_le fun outcome continuation thing ignores same => ?_)
      (@Linked.begins_once _ source link linked (sound_after script steps)
        (heard_after script steps))
    rcases thing with ⟨other, given⟩
    cases beq_iff_eq.mp same
    rcases Continuation.ignored?_eq_some.mp ignores with ⟨mapping, rfl, _⟩
    exact beq_self_eq_true (some _)
  · rw [List.count_eq_zero.mpr found]
    exact Nat.zero_le _

end Warning

/-! ## Trees -/

section Growing

variable {script : List Action} {steps : Nat}

/-- What has been attached stays attached. -/
theorem attached_later {cell : CellId} {continuation : Continuation}
    (attached : (after script steps).Attached cell continuation) (further : Nat) :
    (after script (steps + further)).Attached cell continuation := by
  induction further with
  | zero => exact attached
  | succ further inductionHypothesis =>
      have member := mem_attachments.mpr inductionHypothesis
      refine mem_attachments.mp (?_ : _ ∈ (after script (steps + further)).advance.attachments)
      rcases attachments_advance (sound_after script (steps + further)) with
        ⟨action, _, _, attachments⟩ | ⟨_, attachments⟩
      · rw [attachments]
        exact List.mem_append_left _ member
      · rw [attachments]
        exact member

/-- A call attaches the link of a new promise to its source.  The promise gets its name at once, or
when the link is done that runs at once. -/
theorem attached_of_call {fresh name : String} {mapping : Mapping} {policy : FailurePolicy}
    {source : CellId}
    (calls : (after script steps).machine.control = .perform (.chain fresh name mapping policy))
    (found : (after script steps).machine.scene.names.lookup name = some source) :
    (after script (steps + 1)).Attached source
        (Link.continuation ⟨(after script steps).store.cells.length, mapping, policy⟩) ∧
      ((after script (steps + 1)).machine.scene.names.lookup fresh =
          some (after script steps).store.cells.length ∨
        .name fresh (after script steps).store.cells.length ∈
          (after script (steps + 1)).machine.frames) := by
  constructor
  · have registers : Action.registrations (after script steps).machine.scene
        (.chain fresh name mapping policy) =
        [(source, Link.continuation ⟨(after script steps).store.cells.length, mapping, policy⟩)] :=
      Scene.onCell_of_lookup found _
    rcases attachments_advance (sound_after script steps) with ⟨action, doing, _, attachments⟩ |
      ⟨idle, _⟩
    · cases calls.symm.trans doing
      refine mem_attachments.mp (?_ : _ ∈ (after script steps).advance.attachments)
      rw [attachments, registers]
      exact List.mem_append_right _ List.mem_cons_self
    · exact absurd calls (idle _)
  · have moves : (after script steps).machine.step? =
        some ((after script steps).machine.chain fresh source mapping policy) := by
      simp only [Machine.step?, calls, Machine.perform, Machine.withCell, found]
    have moved : (after script (steps + 1)).machine = _ := machine_of_step moves
    rw [moved]
    unfold Machine.chain
    dsimp only
    split
    · rw [Machine.answerIn, Scene.names_bind, List.lookup_cons_self]
      exact Or.inl rfl
    · exact Or.inr List.mem_cons_self

/-- What holds of all trees of chained promises when the machine rests. -/
structure Forest (script : List Action) (steps : Nat) : Prop where
  /-- Whoever chains a promise attaches its link to the source, before the source settles or after
  it, and gets the promise. -/
  calls : ∀ {earlier fresh name mapping policy source}, earlier < steps →
    (after script earlier).machine.control = .perform (.chain fresh name mapping policy) →
    (after script earlier).machine.scene.names.lookup name = some source →
      (after script steps).Attached source
          (Link.continuation ⟨(after script earlier).store.cells.length, mapping, policy⟩) ∧
        ((after script (earlier + 1)).machine.scene.names.lookup fresh =
            some (after script earlier).store.cells.length ∨
          .name fresh (after script earlier).store.cells.length ∈
            (after script (earlier + 1)).machine.frames)
  /-- A promise has one path from a root. -/
  unique : ∀ {root path other cell}, Descends (after script steps) root path cell →
    Descends (after script steps) root other cell → path = other
  /-- A value is mapped by the functions in their order.  Below one that panics nothing settles. -/
  resolved : ∀ {root path cell value}, Descends (after script steps) root path cell →
    (∀ link ∈ path, ¬ SettledByName script link.target steps) →
    (after script steps).outcome? root = some (.ok value) →
      (after script steps).outcome? cell =
        (path.foldlM (fun value (link : Link) =>
          link.mapping.result? (broken script link.target steps) value) value).map .ok
  /-- A failure passes unchanged.  Below a link that ignores it nothing settles. -/
  rejected : ∀ {root path cell failure}, Descends (after script steps) root path cell →
    (∀ link ∈ path, ¬ SettledByName script link.target steps) →
    (after script steps).outcome? root = some (.error failure) →
      (after script steps).outcome? cell =
        if ∀ link ∈ path, link.policy = .propagate then some (.error failure) else none
  unsettled : ∀ {root path cell}, Descends (after script steps) root path cell →
    (∀ link ∈ path, ¬ SettledByName script link.target steps) →
    (after script steps).outcome? root = none → (after script steps).outcome? cell = none
  /-- Whatever has no outcome is pending for everybody who has kept it. -/
  pending : ∀ {cell}, (after script steps).outcome? cell = none →
    (after script steps).machine.Keeps cell →
      ∃ continuations, (after script steps).store.state cell = .pending continuations
  /-- Nothing but the root and the functions matters, least of all when they were registered. -/
  timeless : ∀ {other later}, (after other later).machine.step? = none →
    ∀ {root path cell root' path' cell'}, Descends (after script steps) root path cell →
      Descends (after other later) root' path' cell' →
      (∀ link ∈ path, ¬ SettledByName script link.target steps) →
      (∀ link ∈ path', ¬ SettledByName other link.target later) →
      path.map (fun link => (link.mapping, link.policy, broken script link.target steps)) =
        path'.map (fun link => (link.mapping, link.policy, broken other link.target later)) →
      (after script steps).outcome? root = (after other later).outcome? root' →
        (after script steps).outcome? cell = (after other later).outcome? cell'
  /-- A link runs with the outcome of its source, so its function is applied only to the value of a
  source that is resolved, and it does not run again. -/
  applied : ∀ {step} {link : Link} {outcome},
    (after script step).machine.control = .run link.continuation outcome →
      (∃ source, (after script step).Attached source link.continuation ∧
        (after script step).outcome? source = some outcome) ∧
      ∀ {further} {again : Link} {other}, again.target = link.target →
        (after script (step + further + 1)).machine.control ≠ .run again.continuation other
  /-- The warnings in the log are those that a failure is ignored, one for each link that ignores
  failures and whose source is rejected. -/
  warned : ∃ ignored : List (CellId × Failure),
    (written script steps).filter (fun entry => entry.level == .warn) =
        ignored.map (fun one => ignoring one.2) ∧
      (ignored.map Prod.fst).Nodup ∧
      ∀ {target failure}, (target, failure) ∈ ignored ↔ ∃ source mapping,
        (after script steps).Attached source (Link.continuation ⟨target, mapping, .ignore⟩) ∧
          (after script steps).outcome? source = some (.error failure)

/-- When the machine rests, every chained promise has what the functions and policies on its path make
of what the root has, whatever has been registered when and whatever has panicked elsewhere.  Like
any promise it can also be settled by somebody who has a name of it; then it is a root itself. -/
theorem trees_follow_their_roots (rest : (after script steps).machine.step? = none) :
    Forest script steps := by
  have sound := sound_after script steps
  constructor
  · intro earlier fresh name mapping policy source before calls found
    rcases attached_of_call calls found with ⟨attached, named⟩
    refine ⟨?_, named⟩
    have later := attached_later attached (steps - (earlier + 1))
    rw [Nat.add_sub_cancel' before] at later
    exact later
  · exact fun first second => first.unique second
  · intro root path cell value descends unnamed known
    rw [outcome?_of_descends rest descends unnamed, known, follow_ok]
  · intro root path cell failure descends unnamed known
    rw [outcome?_of_descends rest descends unnamed, known, follow_error]
  · intro root path cell descends unnamed known
    rw [outcome?_of_descends rest descends unnamed, known, follow_none]
  · exact fun unsettled kept => pending_of_kept unsettled kept
  · intro other later rest' root path cell root' path' cell' descends descends' unnamed unnamed' same
      known
    rw [outcome?_of_descends rest descends unnamed, outcome?_of_descends rest' descends' unnamed',
      ← known]
    exact follow_congr same _
  · exact fun running => ⟨source_of_running running, fun same => runs_not_again same running⟩
  · refine ⟨(after script steps).ignored, ?_, ignored_once script steps, ?_⟩
    · rw [← warnings_after script steps, Control.brings?_of_calm (advance_of_rest rest).1]
      exact (List.append_nil _).symm
    · intro target failure
      refine ⟨attached_of_ignored, ?_⟩
      rintro ⟨source, mapping, attached, known⟩
      rcases begun_or_waits sound known attached with begun | ⟨waiting, panic, under, _⟩
      · exact mem_ignored.mpr ⟨source, mapping, begun⟩
      · rw [Machine.frames_of_rest rest] at under
        cases under

/-- One branch panics, another performs actions, and the last link is registered when its source has
settled. -/
theorem three_branches_follow :
    let script : List Action :=
      [.create "p", .chain "a" "p" (.add 1) .propagate, .chain "b" "a" (.panic "boom") .ignore,
        .chain "c" "a" (.perform [.create "q"]) .ignore, .chain "d" "b" .identity .propagate,
        .resolve "p" (.whole 1), .chain "e" "a" .wrap .propagate]
    (after script 40).machine.step? = none ∧ Forest script 40 :=
  ⟨rfl, trees_follow_their_roots rfl⟩

end Growing

end Chronicle

end Promise
end PromiseHttp
