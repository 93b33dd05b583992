import Mathlib.Data.List.Induction
import PromiseHttp.Promise.Monitor

namespace PromiseHttp
namespace Promise

/-!
# Waits at the barriers of a promise

Any number of parties come to any number of barriers, look, sleep and are woken, while the promise
settles, continuations run and times run out, all in any order.  Nobody is left asleep behind a
continuation that has finished.  What a party leaves with is what it found when it looked last.  And
whatever a party does, being out of time included, everybody else is where they would be had it never
moved.
-/

/-- What holds of all elements of a list still holds after a change of one that preserves it. -/
theorem forall_mem_modify {α : Type} {holds : α → Prop} {change : α → α} {elements : List α}
    (all : ∀ element ∈ elements, holds element)
    (keeps : ∀ element, holds element → holds (change element)) (place : Nat) :
    ∀ element ∈ elements.modify place change, holds element := by
  intro element member
  rcases List.mem_iff_getElem?.mp member with ⟨there, found⟩
  rw [List.getElem?_modify] at found
  rcases Option.map_eq_some_iff.mp found with ⟨before, stood, rfl⟩
  have held := all before (List.mem_of_getElem? stood)
  split
  · exact keeps before held
  · exact held

/-- A change that leaves the last element alone. -/
theorem modify_concat {α : Type} {change : α → α} {last : α} (fixed : change last = last)
    (elements : List α) (place : Nat) :
    (elements ++ [last]).modify place change = elements.modify place change ++ [last] := by
  induction elements generalizing place with
  | nil => cases place <;> simp [fixed]
  | cons first elements inductionHypothesis =>
      cases place with
      | zero => rfl
      | succ place =>
          simp only [List.cons_append, List.modify_succ_cons, inductionHypothesis place]

theorem WaitOutcome.ofOutcome_ne_timedOut (outcome : Outcome Value) :
    ofOutcome outcome ≠ .timedOut := by
  cases outcome <;> simp [ofOutcome]

theorem WaitOutcome.returned_ofOutcome (outcome : Outcome Value) :
    (ofOutcome outcome).returned = outcome := by
  cases outcome <;> rfl

/-! ## Parties -/

namespace WaitingParty

/-- The ways in which a look at the slot ends a wait. -/
def Concludes (party : WaitingParty) (content : Option (Outcome Value)) (ending : WaitOutcome) :
    Prop :=
  (∃ outcome, content = some outcome ∧ ending = .ofOutcome outcome) ∨
    content = none ∧ party.expired = true ∧ ending = .timedOut

theorem ending?_eq_some {party : WaitingParty} {ending : WaitOutcome} :
    party.ending? = some ending ↔ party.stage = .left ending := by
  unfold ending?
  cases party.stage <;> simp

@[simp]
theorem ending?_wake (party : WaitingParty) : party.wake.ending? = party.ending? := by
  unfold wake
  split
  case h_1 asleep => simp only [ending?, asleep]
  case h_2 => rfl

@[simp]
theorem bounded_wake (party : WaitingParty) : party.wake.bounded = party.bounded := by
  unfold wake
  split <;> rfl

/-- The party as it was when it came. -/
def anew (party : WaitingParty) : WaitingParty :=
  new party.bounded

@[simp]
theorem anew_wake (party : WaitingParty) : party.wake.anew = party.anew := by
  simp only [anew, bounded_wake]

@[simp]
theorem anew_expire (party : WaitingParty) : party.expire.anew = party.anew := rfl

@[simp]
theorem wake_anew (party : WaitingParty) : party.anew.wake = party.anew := rfl

/-- A look changes neither how long a party is willing to wait nor whether that time is up. -/
theorem look_eq (party : WaitingParty) (content : Option (Outcome Value)) :
    party.look content = { party with stage := (party.look content).stage } := by
  unfold look
  split
  · split
    · rfl
    · split <;> rfl
  · rfl

@[simp]
theorem anew_look (party : WaitingParty) (content : Option (Outcome Value)) :
    (party.look content).anew = party.anew := by
  rw [look_eq]
  rfl

/-- A party that has left stays away, and one that leaves has a reason. -/
theorem ending_of_look {party : WaitingParty} {content : Option (Outcome Value)}
    {ending : WaitOutcome} (ended : (party.look content).ending? = some ending) :
    party.ending? = some ending ∨
      party.stage = .approaching ∧ party.Concludes content ending := by
  unfold look at ended
  split at ended
  case h_1 approaching =>
    refine Or.inr ⟨approaching, ?_⟩
    cases content with
    | some outcome =>
        cases ending?_eq_some.mp ended
        exact Or.inl ⟨outcome, rfl, rfl⟩
    | none =>
        cases expired : party.expired with
        | true =>
            simp only [expired] at ended
            cases ending?_eq_some.mp ended
            exact Or.inr ⟨rfl, expired, rfl⟩
        | false =>
            simp only [expired] at ended
            cases ended
  case h_2 => exact Or.inl ended

/-- Whoever looks at a full slot does not sleep. -/
theorem look_full_ne_asleep {party : WaitingParty} (awake : party.stage ≠ .asleep)
    (outcome : Outcome Value) : (party.look (some outcome)).stage ≠ .asleep := by
  unfold look
  split
  · simp
  · exact awake

theorem wake_ne_asleep (party : WaitingParty) : party.wake.stage ≠ .asleep := by
  unfold wake
  split
  case h_1 => simp
  case h_2 awake => exact awake

/-- Whoever is awake and looks at a full slot leaves with what is in it. -/
theorem ending?_look_full {party : WaitingParty} (awake : party.stage ≠ .asleep)
    (waits : party.ending? = none) (outcome : Outcome Value) :
    (party.look (some outcome)).ending? = some (.ofOutcome outcome) := by
  unfold look
  split
  case h_1 => rfl
  case h_2 elsewhere =>
    cases stage : party.stage with
    | approaching => exact absurd stage elsewhere
    | asleep => exact absurd stage awake
    | left ending =>
        rw [ending?_eq_some.mpr stage] at waits
        cases waits

end WaitingParty

/-! ## One barrier -/

namespace Monitor

variable {promised : Option (Outcome Value)} {monitor : Monitor} {number : Nat}

/-- A party takes the lock, finds the slot as it is, and leaves. -/
structure Leaves (monitor : Monitor) (number : Nat) (party : WaitingParty) (ending : WaitOutcome) :
    Prop where
  there : monitor.parties[number]? = some party
  free : monitor.filling ≠ .holding
  approaching : party.stage = .approaching
  concludes : party.Concludes monitor.content ending

/-- Whoever has left after an event had left before, or leaves by that event. -/
theorem ending_of_step {event : Event} {party : WaitingParty} {ending : WaitOutcome}
    (there : (monitor.step promised event).parties[number]? = some party)
    (ended : party.ending? = some ending) :
    ∃ before : WaitingParty, before.bounded = party.bounded ∧
      (monitor.parties[number]? = some before ∧ before.ending? = some ending ∨
        event = .look number ∧ monitor.Leaves number before ending) := by
  have changed : ∀ {change : WaitingParty → WaitingParty} {place : Nat},
      (monitor.parties.modify place change)[number]? = some party →
      ∃ before, monitor.parties[number]? = some before ∧
        (if place = number then change before else before) = party := by
    intro change place found
    rw [List.getElem?_modify] at found
    exact Option.map_eq_some_iff.mp found
  cases event with
  | arrive bounded =>
      rcases Nat.lt_or_ge number monitor.parties.length with old | new
      · rw [step, List.getElem?_append_left old] at there
        exact ⟨party, rfl, Or.inl ⟨there, ended⟩⟩
      · rw [step, List.getElem?_append_right new] at there
        have member := List.mem_of_getElem? there
        rw [List.mem_singleton.mp member] at ended
        cases ended
  | look place =>
      by_cases held : monitor.filling = .holding
      · simp only [step, held, if_true] at there
        exact ⟨party, rfl, Or.inl ⟨there, ended⟩⟩
      · simp only [step, held, if_false] at there
        rcases changed there with ⟨before, stood, rfl⟩
        by_cases same : place = number
        · subst same
          rw [if_pos rfl] at ended
          refine ⟨before, ?_, ?_⟩
          · rw [if_pos rfl, WaitingParty.look_eq]
          · rcases WaitingParty.ending_of_look ended with gone | ⟨approaching, concludes⟩
            · exact Or.inl ⟨stood, gone⟩
            · exact Or.inr ⟨rfl, stood, held, approaching, concludes⟩
        · rw [if_neg same] at ended ⊢
          exact ⟨before, rfl, Or.inl ⟨stood, ended⟩⟩
  | wake place =>
      rcases changed there with ⟨before, stood, rfl⟩
      refine ⟨before, ?_, Or.inl ⟨stood, ?_⟩⟩
      · split
        · exact before.bounded_wake.symm
        · rfl
      · split at ended
        · rwa [WaitingParty.ending?_wake] at ended
        · exact ended
  | expire place =>
      rcases changed there with ⟨before, stood, rfl⟩
      refine ⟨before, ?_, Or.inl ⟨stood, ?_⟩⟩
      · split <;> rfl
      · split at ended <;> exact ended
  | fill =>
      have same : (monitor.step promised .fill).parties = monitor.parties := by
        simp only [step]
        split <;> rfl
      rw [same] at there
      exact ⟨party, rfl, Or.inl ⟨there, ended⟩⟩
  | wakeAll =>
      simp only [step] at there
      split at there
      · rw [List.getElem?_map] at there
        rcases Option.map_eq_some_iff.mp there with ⟨before, stood, rfl⟩
        rw [WaitingParty.ending?_wake] at ended
        exact ⟨before, before.bounded_wake.symm, Or.inl ⟨stood, ended⟩⟩
      · exact ⟨party, rfl, Or.inl ⟨there, ended⟩⟩

/-- What holds at a barrier at all times. -/
structure Sound (promised : Option (Outcome Value)) (monitor : Monitor) : Prop where
  truthful : ∀ outcome, monitor.content = some outcome → promised = some outcome
  empty : monitor.content = none ↔ monitor.filling = .ahead
  /-- The continuation wakes everybody before it finishes, and nobody falls asleep at a full
  slot. -/
  awake : monitor.filling = .finished → ∀ party ∈ monitor.parties, party.stage ≠ .asleep
  /-- Only a party that waits for a time only can be out of time. -/
  bounded : ∀ party ∈ monitor.parties, party.expired = true → party.bounded = true

theorem sound_unattended (promised : Option (Outcome Value)) : Sound promised (unattended none) where
  truthful := by
    intro outcome content
    cases content
  empty := ⟨fun _ => rfl, fun _ => rfl⟩
  awake := by
    intro finished
    cases finished
  bounded := by
    intro party member
    cases member

/-- A promise that has settled keeps its outcome, so a settlement takes nothing away. -/
theorem Sound.settle (sound : Sound promised monitor) (outcome : Outcome Value) :
    Sound (promised.or (some outcome)) monitor := by
  refine ⟨?_, sound.empty, sound.awake, sound.bounded⟩
  intro told content
  rw [sound.truthful told content, Option.some_or]

theorem Sound.full (sound : Sound promised monitor) (finished : monitor.filling = .finished) :
    ∃ outcome, monitor.content = some outcome := by
  cases content : monitor.content with
  | some outcome => exact ⟨outcome, rfl⟩
  | none =>
      have ahead := sound.empty.mp content
      rw [finished] at ahead
      cases ahead

/-- What a step at a barrier preserves. -/
theorem Sound.step (sound : Sound promised monitor) (event : Event) :
    Sound promised (monitor.step promised event) := by
  cases event with
  | arrive bounded =>
      refine ⟨sound.truthful, sound.empty, ?_, ?_⟩
      · intro finished
        simp only [Monitor.step, List.forall_mem_append, List.forall_mem_singleton]
        exact ⟨sound.awake finished, by simp [WaitingParty.new]⟩
      · simp only [Monitor.step, List.forall_mem_append, List.forall_mem_singleton]
        exact ⟨sound.bounded, by simp [WaitingParty.new]⟩
  | look place =>
      by_cases held : monitor.filling = .holding
      · simp only [Monitor.step, held, if_true]
        exact sound
      · simp only [Monitor.step, held, if_false]
        refine ⟨sound.truthful, sound.empty, ?_, ?_⟩
        · intro finished
          rcases sound.full finished with ⟨outcome, full⟩
          rw [full]
          exact forall_mem_modify (sound.awake finished)
            (fun _ awake => WaitingParty.look_full_ne_asleep awake outcome) place
        · refine forall_mem_modify sound.bounded ?_ place
          intro party bounded
          rw [WaitingParty.look_eq]
          exact bounded
  | wake place =>
      refine ⟨sound.truthful, sound.empty, ?_, ?_⟩
      · intro finished
        exact forall_mem_modify (sound.awake finished) (fun party _ => party.wake_ne_asleep) place
      · refine forall_mem_modify sound.bounded ?_ place
        intro party bounded
        unfold WaitingParty.wake
        split <;> exact bounded
  | expire place =>
      refine ⟨sound.truthful, sound.empty, ?_, ?_⟩
      · intro finished
        refine forall_mem_modify (sound.awake finished) ?_ place
        exact fun _ awake => awake
      · refine forall_mem_modify sound.bounded ?_ place
        exact fun _ _ expired => expired
  | fill =>
      simp only [Monitor.step]
      split
      case h_1 outcome ahead =>
        exact ⟨fun told content => content ▸ rfl, by simp, by simp, sound.bounded⟩
      case h_2 => exact sound
  | wakeAll =>
      simp only [Monitor.step]
      split
      case isTrue holding =>
        refine ⟨sound.truthful, ?_, ?_, ?_⟩
        · simp [sound.empty, holding]
        · intro _ party member
          rcases List.mem_map.mp member with ⟨before, _, rfl⟩
          exact before.wake_ne_asleep
        · intro party member
          rcases List.mem_map.mp member with ⟨before, stood, rfl⟩
          have bounded := sound.bounded before stood
          unfold WaitingParty.wake
          split <;> exact bounded
      case isFalse => exact sound

/-- Behind a continuation that has finished, whoever has not left leaves at the next look. -/
theorem Sound.leaves (sound : Sound promised monitor) (finished : monitor.filling = .finished)
    {party : WaitingParty} (there : monitor.parties[number]? = some party)
    (waits : party.ending? = none) :
    ∃ outcome after, promised = some outcome ∧
      (monitor.step promised (.look number)).parties[number]? = some after ∧
        after.ending? = some (.ofOutcome outcome) := by
  rcases sound.full finished with ⟨outcome, full⟩
  have awake := sound.awake finished party (List.mem_of_getElem? there)
  refine ⟨outcome, party.look (some outcome), sound.truthful outcome full, ?_,
    WaitingParty.ending?_look_full awake waits outcome⟩
  have free : monitor.filling ≠ .holding := by
    rw [finished]
    exact FillStage.noConfusion
  simp only [Monitor.step, free, if_false, List.getElem?_modify, there, full, if_true,
    Option.map_eq_map, Option.map_some]

/-! ## A party that does not move -/

/-- Whether an event is a move of a party that has come.  Coming itself is not a move. -/
def Event.isOf (number : Nat) : Event → Bool
  | .look party => party == number
  | .wake party => party == number
  | .expire party => party == number
  | _ => false

/-- The barrier as it would be had a party come and not moved since. -/
def unmoved (number : Nat) (monitor : Monitor) : Monitor :=
  { monitor with parties := monitor.parties.modify number WaitingParty.anew }

/-- Taking back the moves of a party takes back a change that is a move of it, and no other. -/
theorem modify_anew {change : WaitingParty → WaitingParty}
    (taken : ∀ party, (change party).anew = party.anew) (parties : List WaitingParty)
    (place number : Nat) :
    (parties.modify place change).modify number WaitingParty.anew =
      if place = number then parties.modify number WaitingParty.anew
      else (parties.modify number WaitingParty.anew).modify place change := by
  split
  case isTrue same =>
    subst same
    rw [List.modify_modify_eq]
    exact congrArg (parties.modify place) (funext taken)
  case isFalse different => exact List.modify_modify_ne change WaitingParty.anew parties different

theorem map_wake_modify_anew (parties : List WaitingParty) (number : Nat) :
    (parties.map WaitingParty.wake).modify number WaitingParty.anew =
      (parties.modify number WaitingParty.anew).map WaitingParty.wake := by
  apply List.ext_getElem?
  intro place
  simp only [List.getElem?_modify, List.getElem?_map]
  cases parties[place]? with
  | none => rfl
  | some party =>
      by_cases same : number = place
      · simp [same]
      · simp [same]

/-- The only effect of the moves of a party is on that party. -/
theorem unmoved_step (promised : Option (Outcome Value)) (monitor : Monitor) (number : Nat)
    (event : Event) :
    (monitor.step promised event).unmoved number =
      if event.isOf number then monitor.unmoved number
      else (monitor.unmoved number).step promised event := by
  cases event with
  | arrive bounded =>
      have same : (WaitingParty.new bounded).anew = .new bounded := rfl
      simp only [step, unmoved, Event.isOf, modify_concat same, Bool.false_eq_true, if_false]
  | look place =>
      by_cases held : monitor.filling = .holding
      · simp only [step, unmoved, held, if_true, ite_self]
      · simp only [step, unmoved, held, if_false, Event.isOf, beq_iff_eq,
          modify_anew (fun party => party.anew_look monitor.content)]
        split <;> rfl
  | wake place =>
      simp only [step, unmoved, Event.isOf, beq_iff_eq, modify_anew WaitingParty.anew_wake]
      split <;> rfl
  | expire place =>
      simp only [step, unmoved, Event.isOf, beq_iff_eq, modify_anew WaitingParty.anew_expire]
      split <;> rfl
  | fill =>
      rcases monitor with ⟨content, filling, parties⟩
      cases promised with
      | none => rfl
      | some outcome => cases filling <;> rfl
  | wakeAll =>
      by_cases holding : monitor.filling = .holding
      · simp only [step, unmoved, Event.isOf, holding, if_true, map_wake_modify_anew,
          Bool.false_eq_true, if_false]
      · simp only [step, unmoved, Event.isOf, holding, Bool.false_eq_true, if_false]

end Monitor

/-! ## All barriers -/

namespace WaitingRoom

variable {place number : Nat}

theorem after_concat (events : List Event) (event : Event) :
    after (events ++ [event]) = (after events).step event := by
  rw [after, List.foldl_append]
  rfl

/-- What a step makes of the barriers. -/
theorem barrier_of_step {room : WaitingRoom} {event : Event} {monitor : Monitor}
    (there : (room.step event).barriers[place]? = some monitor) :
    room.barriers[place]? = some monitor ∨ monitor = .unattended none ∨
      ∃ before move, event = .atBarrier place move ∧ room.barriers[place]? = some before ∧
        monitor = before.step room.promised move := by
  cases event with
  | attach =>
      simp only [step] at there
      rcases Nat.lt_or_ge place room.barriers.length with old | new
      · rw [List.getElem?_append_left old] at there
        exact Or.inl there
      · rw [List.getElem?_append_right new] at there
        exact Or.inr (Or.inl (List.mem_singleton.mp (List.mem_of_getElem? there)))
  | settle outcome => exact Or.inl there
  | atBarrier changed move =>
      simp only [step, List.getElem?_modify] at there
      rcases Option.map_eq_some_iff.mp there with ⟨before, stood, became⟩
      by_cases same : changed = place
      · subst same
        rw [if_pos rfl] at became
        exact Or.inr (Or.inr ⟨before, move, rfl, stood, became.symm⟩)
      · rw [if_neg same] at became
        exact Or.inl (became ▸ stood)

/-- Every barrier is sound at all times. -/
theorem sound_after (events : List Event) :
    ∀ monitor ∈ (after events).barriers, monitor.Sound (after events).promised := by
  induction events using List.reverseRecOn with
  | nil =>
      intro monitor member
      cases member
  | append_singleton events event sound =>
      rw [after_concat]
      cases event with
      | attach =>
          simp only [step, List.forall_mem_append, List.forall_mem_singleton]
          exact ⟨sound, Monitor.sound_unattended _⟩
      | settle outcome => exact fun monitor member => (sound monitor member).settle outcome
      | atBarrier place move =>
          exact forall_mem_modify sound (fun _ before => before.step move) place

/-- A party at a barrier. -/
def party? (room : WaitingRoom) (place number : Nat) : Option WaitingParty :=
  room.barriers[place]?.bind fun monitor => monitor.parties[number]?

/-- Whoever has left did so by a look of its own, at what was in the slot then. -/
theorem left_by_look (events : List Event) {party : WaitingParty} {ending : WaitOutcome}
    (waited : (after events).party? place number = some party)
    (ended : party.ending? = some ending) :
    ∃ earlier later found before,
      events = earlier ++ .atBarrier place (.look number) :: later ∧
        (after earlier).barriers[place]? = some found ∧
          found.Leaves number before ending ∧ before.bounded = party.bounded := by
  induction events using List.reverseRecOn generalizing party with
  | nil =>
      simp only [party?, after, List.foldl_nil, empty, List.getElem?_nil, Option.bind_none] at waited
      cases waited
  | append_singleton events event inductionHypothesis =>
      have sooner : ∀ {party}, (after events).party? place number = some party →
          party.ending? = some ending →
          ∃ earlier later found before,
            events ++ [event] = earlier ++ .atBarrier place (.look number) :: later ∧
              (after earlier).barriers[place]? = some found ∧
                found.Leaves number before ending ∧ before.bounded = party.bounded := by
        intro party waited ended
        rcases inductionHypothesis waited ended with ⟨earlier, later, found, before, split, leaves⟩
        refine ⟨earlier, later ++ [event], found, before, ?_, leaves⟩
        rw [split, List.append_assoc, List.cons_append]
      rw [after_concat] at waited
      rcases Option.bind_eq_some_iff.mp waited with ⟨monitor, there, waited⟩
      rcases barrier_of_step there with old | rfl | ⟨found, move, rfl, old, rfl⟩
      · exact sooner (Option.bind_eq_some_iff.mpr ⟨monitor, old, waited⟩) ended
      · simp only [Monitor.unattended, List.getElem?_nil] at waited
        cases waited
      · rcases Monitor.ending_of_step waited ended with ⟨before, bounded, stood⟩
        rcases stood with ⟨stood, gone⟩ | ⟨rfl, leaves⟩
        · rw [← bounded]
          exact sooner (Option.bind_eq_some_iff.mpr ⟨found, old, stood⟩) gone
        · exact ⟨events, [], found, before, rfl, old, leaves, bounded⟩

/-- An outcome is there to stay. -/
theorem promised_append {earlier : List Event} {outcome : Outcome Value}
    (promised : (after earlier).promised = some outcome) (later : List Event) :
    (after (earlier ++ later)).promised = some outcome := by
  induction later using List.reverseRecOn with
  | nil => rwa [List.append_nil]
  | append_singleton later event inductionHypothesis =>
      rw [← List.append_assoc, after_concat]
      cases event with
      | attach => exact inductionHypothesis
      | settle other => rw [step, inductionHypothesis, Option.some_or]
      | atBarrier place move => exact inductionHypothesis

/-- Whether an event is a move of a party that has come to a barrier. -/
def Event.isOf (place number : Nat) : Event → Bool
  | .atBarrier there move => there == place && move.isOf number
  | _ => false

/-- The room as it would be had a party come to its barrier and not moved since. -/
def unmoved (place number : Nat) (room : WaitingRoom) : WaitingRoom :=
  { room with barriers := room.barriers.modify place (Monitor.unmoved number) }

theorem unmoved_step (room : WaitingRoom) (place number : Nat) (event : Event) :
    (room.step event).unmoved place number =
      if event.isOf place number then room.unmoved place number
      else (room.unmoved place number).step event := by
  cases event with
  | attach =>
      have same : (Monitor.unattended none).unmoved number = .unattended none := by
        rw [Monitor.unmoved, Monitor.unattended, List.modify_nil]
      simp only [step, unmoved, Event.isOf, modify_concat same, Bool.false_eq_true, if_false]
  | settle outcome => rfl
  | atBarrier there move =>
      by_cases same : there = place
      · subst same
        have changes : (Monitor.unmoved number ∘ fun monitor : Monitor =>
              monitor.step room.promised move) =
            fun monitor => if move.isOf number then monitor.unmoved number
              else (monitor.unmoved number).step room.promised move := by
          funext monitor
          exact Monitor.unmoved_step room.promised monitor number move
        simp only [step, unmoved, Event.isOf, beq_self_eq_true, Bool.true_and,
          List.modify_modify_eq, changes]
        split
        · rfl
        · rfl
      · have other : (there == place) = false := beq_eq_false_iff_ne.mpr same
        simp only [step, unmoved, Event.isOf, List.modify_modify_ne _ _ _ same, other,
          Bool.false_and, Bool.false_eq_true, if_false]

/-- Without the moves of a party everything but the party is as it is with them. -/
theorem unmoved_after (events : List Event) (place number : Nat) :
    (after events).unmoved place number =
      after (events.filter fun event => !event.isOf place number) := by
  induction events using List.reverseRecOn with
  | nil => simp only [after, empty, unmoved, List.filter_nil, List.foldl_nil, List.modify_nil]
  | append_singleton events event inductionHypothesis =>
      rw [after_concat, unmoved_step, inductionHypothesis, List.filter_append]
      cases moves : event.isOf place number with
      | true => simp [moves]
      | false => simp [moves, after_concat]

/-- Every other party is the same in the room in which one has not moved. -/
theorem party?_unmoved (room : WaitingRoom) {place number there other : Nat}
    (different : (there, other) ≠ (place, number)) :
    (room.unmoved place number).party? there other = room.party? there other := by
  simp only [party?, unmoved, List.getElem?_modify]
  cases room.barriers[there]? with
  | none => rfl
  | some monitor =>
      by_cases same : place = there
      · subst same
        have apart : number ≠ other := fun same => different (same ▸ rfl)
        simp [Monitor.unmoved, apart]
      · simp [same]

/-- What the parties that wait at the barriers of a promise can rely on, after these events. -/
structure Reliable (events : List Event) : Prop where
  /-- Nobody is left asleep behind a continuation that has finished, -/
  awake : ∀ {place : Nat} {monitor : Monitor}, (after events).barriers[place]? = some monitor →
    monitor.filling = .finished → ∀ party ∈ monitor.parties, party.stage ≠ .asleep
  /-- and whoever has not left leaves with the outcome at the next look. -/
  leaves : ∀ {place number : Nat} {monitor : Monitor} {party : WaitingParty},
    (after events).barriers[place]? = some monitor → monitor.filling = .finished →
    monitor.parties[number]? = some party → party.ending? = none →
    ∃ outcome left, (after events).promised = some outcome ∧
      (after (events ++ [.atBarrier place (.look number)])).party? place number = some left ∧
        left.ending? = some (.ofOutcome outcome)
  /-- Nobody is told anything but the outcome. -/
  truthful : ∀ {place number party ending}, (after events).party? place number = some party →
    party.ending? = some ending → ending ≠ .timedOut →
    ∃ outcome, (after events).promised = some outcome ∧ ending = .ofOutcome outcome
  /-- Whoever has timed out had a time only to wait, took the lock when that time was up, and found
  the slot empty. -/
  timedOut : ∀ {place number party}, (after events).party? place number = some party →
    party.ending? = some .timedOut →
    ∃ (earlier later : List Event) (found : Monitor) (before : WaitingParty),
      events = earlier ++ .atBarrier place (.look number) :: later ∧
      (after earlier).barriers[place]? = some found ∧ found.filling ≠ .holding ∧
        found.content = none ∧ found.parties[number]? = some before ∧
          before.bounded = true ∧ before.expired = true
  /-- Whoever waits for as long as it takes takes the lock and finds the slot full before it leaves.
  So it never counts as abandoned, unless that is how the promise was rejected. -/
  patient : ∀ {place number party ending}, (after events).party? place number = some party →
    party.bounded = false → party.ending? = some ending →
    ∃ (earlier later : List Event) (found : Monitor) (outcome : Outcome Value),
      events = earlier ++ .atBarrier place (.look number) :: later ∧
      (after earlier).barriers[place]? = some found ∧ found.filling ≠ .holding ∧
        found.content = some outcome ∧ (after events).promised = some outcome ∧
          ending ≠ .timedOut ∧ ending.returned = outcome
  /-- Whatever a party does, which includes timing out, the promise and everybody else, at this
  barrier and at any other, early and late, are as they would be had it not done that. -/
  undisturbed : ∀ place number,
    let without := after (events.filter fun event => !event.isOf place number)
    (after events).promised = without.promised ∧
      ∀ there other, (there, other) ≠ (place, number) →
        (after events).party? there other = without.party? there other

theorem waits_reliable (events : List Event) : Reliable events := by
  have sound := sound_after events
  have known : ∀ {earlier later : List Event} {event : Event} {place : Nat} {found : Monitor}
      {outcome : Outcome Value}, events = earlier ++ event :: later →
      (after earlier).barriers[place]? = some found → found.content = some outcome →
      (after events).promised = some outcome := by
    intro earlier later event place found outcome split there full
    have promised := (sound_after earlier found (List.mem_of_getElem? there)).truthful outcome full
    rw [split]
    exact promised_append promised (event :: later)
  refine ⟨?_, ?_, ?_, ?_, ?_, ?_⟩
  · intro place monitor there finished
    exact (sound monitor (List.mem_of_getElem? there)).awake finished
  · intro place number monitor party there finished waits remains
    have leaves := (sound monitor (List.mem_of_getElem? there)).leaves finished waits remains
    rcases leaves with ⟨outcome, left, promised, stands, ended⟩
    refine ⟨outcome, left, promised, ?_, ended⟩
    rw [after_concat]
    simp only [party?, step, List.getElem?_modify, there, if_true]
    exact stands
  · intro place number party ending waited ended outcomes
    rcases left_by_look events waited ended with
      ⟨earlier, later, found, before, split, there, leaves, _⟩
    rcases leaves.concludes with ⟨outcome, full, told⟩ | ⟨_, _, timedOut⟩
    · exact ⟨outcome, known split there full, told⟩
    · exact absurd timedOut outcomes
  · intro place number party waited ended
    rcases left_by_look events waited ended with
      ⟨earlier, later, found, before, split, there, leaves, _⟩
    rcases leaves.concludes with ⟨outcome, _, told⟩ | ⟨empty, expired, _⟩
    · exact absurd told.symm (WaitOutcome.ofOutcome_ne_timedOut outcome)
    · have bounded := (sound_after earlier found (List.mem_of_getElem? there)).bounded before
        (List.mem_of_getElem? leaves.there) expired
      exact ⟨earlier, later, found, before, split, there, leaves.free, empty, leaves.there, bounded,
        expired⟩
  · intro place number party ending waited patient ended
    rcases left_by_look events waited ended with
      ⟨earlier, later, found, before, split, there, leaves, same⟩
    rcases leaves.concludes with ⟨outcome, full, told⟩ | ⟨_, expired, _⟩
    · subst told
      exact ⟨earlier, later, found, outcome, split, there, leaves.free, full,
        known split there full, WaitOutcome.ofOutcome_ne_timedOut outcome,
        WaitOutcome.returned_ofOutcome outcome⟩
    · have bounded := (sound_after earlier found (List.mem_of_getElem? there)).bounded before
        (List.mem_of_getElem? leaves.there) expired
      rw [same, patient] at bounded
      cases bounded
  · intro place number
    have same := unmoved_after events place number
    have promised := congrArg WaitingRoom.promised same
    refine ⟨promised, ?_⟩
    intro there other different
    rw [← party?_unmoved _ different, same]

end WaitingRoom
end Promise
end PromiseHttp
