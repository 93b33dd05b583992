import PromiseHttp.Proofs.Promise.Abandonment

namespace PromiseHttp
namespace Promise

/-!
# Waits that run out of time

A barrier and a future are two ways to wait for the same promise.  While it is pending both of them
run out of time, and once it has settled both end with its outcome.  They differ when the promise is
abandoned.  A future learns that, because the channel it waits on is closed.  The slot of a barrier
is filled by a continuation or not at all, and the continuations of an abandoned promise never run.
So a wait for a time only runs out of time there, as if the promise were still pending, and a wait
for as long as it takes never ends.
-/

/-- At an empty slot a wait for a time only runs out of time, and any other goes on. -/
theorem Monitor.waitOut?_empty (bounded : Bool) :
    waitOut? none bounded = if bounded then some .timedOut else none := by
  cases bounded <;> rfl

namespace Scene

variable {scene : Scene} {slot : SlotId} {channel : ChannelId}

theorem waited_empty (empty : scene.store.slot? slot = none) :
    scene.waited slot false = .blocked ∧ scene.waited slot true = .waited .timedOut := by
  unfold waited
  rw [empty, Monitor.waitOut?_empty, Monitor.waitOut?_empty]
  exact ⟨rfl, rfl⟩

theorem awaited_waiting (waiting : scene.store.channel channel = .waiting) :
    scene.awaited channel = .timedOut := by
  simp only [awaited, waiting]

end Scene

namespace Chronicle

variable {chronicle : Chronicle} {cell : CellId} {slot : SlotId} {channel : ChannelId}

theorem ne_settled_of_unsettled (unsettled : chronicle.outcome? cell = none)
    (outcome : Outcome Value) : chronicle.store.state cell ≠ .settled outcome := by
  intro settled
  have known : chronicle.outcome? cell = some outcome := Store.outcome?_eq_some.mpr settled
  rw [unsettled] at known
  cases known

/-- The slot of a barrier stays empty as long as the cell has not settled. -/
theorem slot_of_unsettled (heard : chronicle.Heard) (attached : chronicle.Attached cell (.fill slot))
    (unsettled : chronicle.outcome? cell = none) : chronicle.store.slot? slot = none := by
  cases content : chronicle.store.slot? slot with
  | none => rfl
  | some outcome =>
      have settled := heard.heard rfl attached content
      exact absurd settled (ne_settled_of_unsettled unsettled outcome)

theorem there_of_attached (sound : chronicle.Sound) {continuation : Continuation}
    (attached : chronicle.Attached cell continuation) (unsettled : chronicle.outcome? cell = none) :
    cell < chronicle.store.cells.length := by
  rcases attached with registered | ⟨outcome, late⟩
  · apply Nat.lt_of_not_le
    intro unborn
    have told : .registered cell continuation ∈ chronicle.story cell :=
      List.mem_filter.mpr ⟨registered, beq_self_eq_true cell⟩
    rw [sound.unborn cell unborn] at told
    cases told
  · exact absurd (sound.late late) (ne_settled_of_unsettled unsettled outcome)

/-- What waits on a cell that has not settled report, while its settlement is not under way. -/
theorem waits_of_unsettled (sound : chronicle.Sound) (heard : chronicle.Heard)
    (accounted : chronicle.machine.Accounted) (barrier : chronicle.Attached cell (.fill slot))
    (future : chronicle.Attached cell (.send channel)) (unsettled : chronicle.outcome? cell = none) :
    (chronicle.machine.scene.waited slot true = .waited .timedOut ∧
      chronicle.machine.scene.waited slot false = .blocked) ∧
    (chronicle.machine.Keeps cell ∧ chronicle.machine.scene.awaited channel = .timedOut ∨
      chronicle.store.state cell = .abandoned ∧
        chronicle.machine.scene.awaited channel = .failed .abandoned) := by
  have empty := Scene.waited_empty (slot_of_unsettled heard barrier unsettled)
  refine ⟨empty.symm, ?_⟩
  cases state : chronicle.store.state cell with
  | pending continuations =>
      have waiting := waits_of_pending sound accounted future state
      exact Or.inl ⟨accounted.keeps_of_pending state, Scene.awaited_waiting waiting⟩
  | abandoned =>
      have closed := (closed_iff sound heard accounted future).mpr state
      exact Or.inr ⟨rfl, Scene.awaited_eq_abandoned.mpr (Or.inl closed)⟩
  | settled outcome => exact absurd state (ne_settled_of_unsettled unsettled outcome)

theorem attached_after {script : List Action} {steps : Nat} {continuation : Continuation}
    (attached : (after script steps).Attached cell continuation) (further : Nat) :
    (after script (steps + further)).Attached cell continuation := by
  induction further with
  | zero => exact attached
  | succ further inductionHypothesis =>
      rcases (sound_after script (steps + further)).follows_advance with ⟨new, follows⟩
      exact inductionHypothesis.mono follows.events

/-- What waits on a cell report, at one of its barriers and at one of its futures, if nothing happens
before their time runs out. -/
structure Waits (script : List Action) (steps : Nat) (cell : CellId) (slot : SlotId)
    (channel : ChannelId) : Prop where
  settled : ∀ {outcome}, (after script steps).outcome? cell = some outcome →
    (after script steps).machine.scene.waited slot true = .waited (.ofOutcome outcome) ∧
      (after script steps).machine.scene.waited slot false = .outcome outcome ∧
        (after script steps).machine.scene.awaited channel = .ofOutcome outcome
  /-- As long as somebody could still settle the cell, both waits run out of time. -/
  pending : (after script steps).outcome? cell = none →
    (after script steps).machine.Keeps cell →
    (after script steps).machine.scene.waited slot true = .waited .timedOut ∧
      (after script steps).machine.scene.waited slot false = .blocked ∧
        (after script steps).machine.scene.awaited channel = .timedOut
  /-- When nobody can, only the future says so, and this is so for ever. -/
  abandoned : (after script steps).outcome? cell = none →
    ¬(after script steps).machine.Keeps cell → ∀ further,
    (after script (steps + further)).machine.scene.waited slot true = .waited .timedOut ∧
      (after script (steps + further)).machine.scene.waited slot false = .blocked ∧
        (after script (steps + further)).machine.scene.awaited channel = .failed .abandoned
  agree : (after script steps).machine.scene.waited slot true =
      .waited ((after script steps).machine.scene.awaited channel) ↔
    ((after script steps).outcome? cell).isSome ∨ (after script steps).machine.Keeps cell

/-- A wait at a barrier and a wait on a future agree on every promise that is not abandoned, and on
no other. -/
theorem waits_agree_unless_abandoned {script : List Action} {steps : Nat}
    (calm : ∀ frame ∈ (after script steps).machine.frames, frame.isDrain = false)
    (barrier : (after script steps).Attached cell (.fill slot))
    (future : (after script steps).Attached cell (.send channel)) :
    Waits script steps cell slot channel := by
  have sound := sound_after script steps
  have heard := heard_after script steps
  have accounted := accounted_after script steps
  have settled : ∀ {outcome}, (after script steps).outcome? cell = some outcome →
      (after script steps).machine.scene.waited slot true = .waited (.ofOutcome outcome) ∧
        (after script steps).machine.scene.waited slot false = .outcome outcome ∧
          (after script steps).machine.scene.awaited channel = .ofOutcome outcome := by
    intro outcome known
    have observers := agrees sound heard (sound.tracks.done calm) known
    have told := Scene.waited_full (observers.slot barrier)
    exact ⟨told.2, told.1, Scene.awaited_delivered (observers.channel future)⟩
  refine ⟨settled, ?_, ?_, ?_⟩
  · intro unsettled kept
    rcases waits_of_unsettled sound heard accounted barrier future unsettled with
      ⟨⟨bounded, patient⟩, ⟨_, ending⟩ | ⟨gone, _⟩⟩
    · exact ⟨bounded, patient, ending⟩
    · exact absurd gone (accounted.alive_of_keeps kept)
  · intro unsettled unkept further
    have there := there_of_attached sound barrier unsettled
    have gone : (after script steps).store.state cell = .abandoned := by
      rcases waits_of_unsettled sound heard accounted barrier future unsettled with
        ⟨_, ⟨kept, _⟩ | ⟨gone, _⟩⟩
      · exact absurd kept unkept
      · exact gone
    have lost := lost_after script there gone further
    have unsettled' : (after script (steps + further)).outcome? cell = none := by
      simp only [Chronicle.outcome?, Store.outcome?,
        show (after script (steps + further)).machine.scene.store.state cell = _ from lost.abandoned]
    rcases waits_of_unsettled (sound_after script _) (heard_after script _)
        (accounted_after script _) (attached_after barrier further) (attached_after future further)
        unsettled' with ⟨⟨bounded, patient⟩, ⟨kept, _⟩ | ⟨_, ending⟩⟩
    · exact absurd kept lost.unkept
    · exact ⟨bounded, patient, ending⟩
  · cases known : (after script steps).outcome? cell with
    | some outcome =>
        rw [(settled known).1, (settled known).2.2]
        simp
    | none =>
        rcases waits_of_unsettled sound heard accounted barrier future known with
          ⟨⟨bounded, _⟩, ⟨kept, ending⟩ | ⟨gone, ending⟩⟩
        · rw [bounded, ending]
          simp [kept]
        · have unkept : ¬(after script steps).machine.Keeps cell :=
            fun kept => accounted.alive_of_keeps kept gone
          rw [bounded, ending]
          simp [unkept]

/-- While a promise has a name, its barrier and its future both run out of time. -/
theorem named_promise_times_out :
    let script : List Action := [.create "p", .barrier "b" "p", .future "f" "p"]
    (∀ frame ∈ (after script 6).machine.frames, frame.isDrain = false) ∧
      (after script 6).Attached 0 (.fill 0) ∧ (after script 6).Attached 0 (.send 0) ∧
        Waits script 6 0 0 0 := by
  intro script
  have calm : ∀ frame ∈ (after script 6).machine.frames, frame.isDrain = false :=
    fun frame member => absurd member List.not_mem_nil
  have barrier : (after script 6).Attached 0 (.fill 0) := Or.inl List.mem_cons_self
  have future : (after script 6).Attached 0 (.send 0) :=
    Or.inl (List.mem_cons_of_mem _ List.mem_cons_self)
  exact ⟨calm, barrier, future, waits_agree_unless_abandoned calm barrier future⟩

/-- A promise with a barrier and a future gives up its only name.  Nobody can settle it any more, and
the future says so, but a wait at the barrier runs out of time or never ends. -/
theorem barrier_misses_abandonment :
    let chronicle := after [.create "p", .barrier "b" "p", .future "f" "p", .drop "p"] 8
    chronicle.machine.step? = none ∧
      chronicle.Attached 0 (.fill 0) ∧ chronicle.Attached 0 (.send 0) ∧
        chronicle.outcome? 0 = none ∧ ¬chronicle.machine.Keeps 0 ∧
          chronicle.machine.scene.awaited 0 = .failed .abandoned ∧
            chronicle.machine.scene.waited 0 true = .waited .timedOut ∧
              chronicle.machine.scene.waited 0 false = .blocked := by
  intro chronicle
  refine ⟨rfl, Or.inl List.mem_cons_self, Or.inl (List.mem_cons_of_mem _ List.mem_cons_self), rfl,
    ?_, rfl, rfl, rfl⟩
  intro kept
  exact (accounted_after _ 8).alive_of_keeps kept rfl

end Chronicle
end Promise
end PromiseHttp
