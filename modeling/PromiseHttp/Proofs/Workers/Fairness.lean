import Mathlib.Data.Int.CardIntervalMod
import PromiseHttp.Proofs.Workers.Accounting

namespace PromiseHttp

/-!
# Fair choices

A dispatcher that cycles does not look at the loads, and among consecutive choices no worker comes up
more often than another by more than one, wherever one begins and ends to count.  A dispatcher that
looks at the loads picks the first worker of those with the least load, whatever it has picked before.
So a pool whose loads are equal fills evenly: as long as no connection departs, no load is ever ahead of
another by more than one.

The counter of a cycling dispatcher is a word, and the cycle is broken where the word starts over, unless
the number of workers divides the number of words.
-/

namespace Dispatcher

/-! ## Cycling -/

/-- No worker below the size is picked more often than another by more than one. -/
def EvenlySpread (size : Nat) (picks : List WorkerId) : Prop :=
  ∀ one < size, ∀ other < size, picks.count one ≤ picks.count other + 1

/-- The first choices of a cycle. -/
def cycle (size number : Nat) : List WorkerId := (List.range number).map (· % size)

/-- As long as the counter does not start over, a cycling dispatcher goes on with the cycle. -/
theorem pickAll_roundRobin {size : Nat} {picks : UInt64} {history : List (List Nat)}
    (sized : ∀ loads ∈ history, loads.length = size)
    (few : picks.toNat + history.length ≤ UInt64.size) :
    pickAll ⟨.roundRobin, picks⟩ history =
      (List.range' picks.toNat history.length).map (· % size) := by
  induction history generalizing picks with
  | nil => rfl
  | cons loads history inductionHypothesis =>
      rw [List.forall_mem_cons] at sized
      rw [List.length_cons] at few ⊢
      rw [pickAll, List.range'_succ, List.map_cons]
      simp only [pick, sized.1]
      cases history with
      | nil => rfl
      | cons next history =>
          have one : (1 : UInt64).toNat = 1 := rfl
          have counted : (picks + 1).toNat = picks.toNat + 1 := by
            rw [UInt64.toNat_add, one]
            apply Nat.mod_eq_of_lt
            rw [List.length_cons] at few
            exact Nat.lt_of_lt_of_le (by omega) few
          have later := @inductionHypothesis (picks + 1) sized.2 (by rw [counted]; omega)
          rw [later, counted]

/-- How often a worker comes up among the first choices of a cycle. -/
theorem count_cycle {size worker : Nat} (within : worker < size) (number : Nat) :
    (cycle size number).count worker =
      number / size + if worker < number % size then 1 else 0 := by
  have residues := Nat.count_modEq_card number (Nat.zero_lt_of_lt within) worker
  rw [Nat.mod_eq_of_lt within] at residues
  rw [← residues, Nat.count, cycle, List.count, List.countP_map]
  apply List.countP_congr
  intro place _
  simp only [Function.comp_apply, beq_iff_eq, decide_eq_true_eq, Nat.ModEq, Nat.mod_eq_of_lt within]

/-- Between any two places of a cycle the choices are evenly spread. -/
theorem evenlySpread_cycle {size number : Nat} {before window behind : List WorkerId}
    (divided : cycle size number = before ++ window ++ behind) : EvenlySpread size window := by
  intro one one_within other other_within
  have begins : ∀ {front : List WorkerId}, front <+: cycle size number →
      front = cycle size front.length := by
    intro front begins
    have short : front.length ≤ number := by
      have long := begins.length_le
      rwa [cycle, List.length_map, List.length_range] at long
    rw [List.prefix_iff_eq_take.mp begins, cycle, ← List.map_take, List.take_range]
    rw [List.length_map, List.length_range, Nat.min_eq_left short]
    rfl
  have front : before = cycle size before.length :=
    begins ⟨window ++ behind, by rw [divided, List.append_assoc]⟩
  have longer : before ++ window = cycle size (before ++ window).length :=
    begins ⟨behind, divided.symm⟩
  -- What is counted in the window is what is counted up to its end, less what is counted before it.
  have counts : ∀ worker < size, before.length / size +
      (if worker < before.length % size then 1 else 0) + window.count worker =
        (before ++ window).length / size +
          if worker < (before ++ window).length % size then 1 else 0 := by
    intro worker within
    rw [← count_cycle within, ← count_cycle within, ← front, ← longer, List.count_append]
  have first := counts one one_within
  have second := counts other other_within
  split at first <;> split at first <;> split at second <;> split at second <;> omega

/-! ## Looking at the loads -/

/-- The worker has the least load, and all in front of it have more. -/
def IsFirstLeast (loads : List Nat) (worker : WorkerId) : Prop :=
  ∃ load, loads[worker]? = some load ∧ (∀ other ∈ loads, load ≤ other) ∧
    ∀ place < worker, ∀ other, loads[place]? = some other → load < other

theorem isFirstLeast_leastLoaded {loads : List Nat} (some_worker : loads ≠ []) :
    IsFirstLeast loads (leastLoaded loads) := by
  rw [leastLoaded]
  cases least : loads.min? with
  | none => exact absurd (List.min?_eq_none_iff.mp least) some_worker
  | some load =>
      rcases List.min?_eq_some_iff.mp least with ⟨member, bound⟩
      have within : loads.findIdx (· == load) < loads.length :=
        List.findIdx_lt_length_of_exists ⟨load, member, beq_self_eq_true load⟩
      have found : loads[loads.findIdx (· == load)] = load := by
        have equal := @List.findIdx_getElem _ (· == load) loads within
        exact eq_of_beq equal
      refine ⟨load, ?_, bound, ?_⟩
      · rw [List.getElem?_eq_getElem within, found]
      · intro place before other there
        have passed := List.not_of_lt_findIdx before
        rcases List.getElem?_eq_some_iff.mp there with ⟨_, rfl⟩
        apply Nat.lt_of_le_of_ne (bound _ (List.getElem_mem _))
        intro same
        rw [← same, beq_self_eq_true] at passed
        cases passed

/-- The choices by loads are made anew each time. -/
theorem pickAll_leastLoaded (picks : UInt64) (history : List (List Nat)) :
    pickAll ⟨.leastLoaded, picks⟩ history = history.map leastLoaded := by
  induction history with
  | nil => rfl
  | cons loads history inductionHypothesis =>
      rw [pickAll, List.map_cons, ← inductionHypothesis]
      rfl

end Dispatcher

namespace WorkerPool

open Dispatcher (IsFirstLeast)

/-! ## Filling a pool -/

/-- No load is ahead of another by more than one. -/
def Level (loads : List Nat) : Prop :=
  ∀ one ∈ loads, ∀ other ∈ loads, one ≤ other + 1

/-- A least load may become one more. -/
theorem Level.raise {front back : List Nat} {load : Nat} (level : Level (front ++ load :: back))
    (least : ∀ other ∈ front ++ load :: back, load ≤ other) :
    Level (front ++ (load + 1) :: back) := by
  have old : ∀ other ∈ front ++ (load + 1) :: back,
      other = load + 1 ∨ other ∈ front ++ load :: back := by
    intro other member
    rcases List.mem_append.mp member with before | rest
    · exact Or.inr (List.mem_append_left _ before)
    · rcases List.mem_cons.mp rest with same | behind
      · exact Or.inl same
      · exact Or.inr (List.mem_append_right _ (List.mem_cons_of_mem load behind))
  intro one member other member'
  rcases old one member with rfl | one_old
  · rcases old other member' with rfl | other_old
    · exact Nat.le_succ _
    · exact Nat.succ_le_succ (least other other_old)
  · rcases old other member' with rfl | other_old
    · exact Nat.le_succ_of_le (level one one_old load (List.mem_append_right _ List.mem_cons_self))
    · exact level one one_old other other_old

/-- A pool that has come from another by dispatches, and by whatever else leaves the loads and the policy
as they are. -/
inductive Fills (start : WorkerPool) : WorkerPool → Prop
  | start : Fills start start
  | dispatch {pool : WorkerPool} (fills : Fills start pool) (stream : Except IoFault Connection) :
      Fills start (pool.dispatchStream stream).2
  | other {pool next : WorkerPool} (fills : Fills start pool) (loads : next.loads = pool.loads)
      (policy : next.dispatcher.policy = pool.dispatcher.policy) : Fills start next

variable {pool : WorkerPool} {stream : Except IoFault Connection}

theorem policy_dispatchStream (pool : WorkerPool) (stream : Except IoFault Connection) :
    (pool.dispatchStream stream).2.dispatcher.policy = pool.dispatcher.policy := by
  have chosen : pool.choose.2.dispatcher.policy = pool.dispatcher.policy :=
    Dispatcher.policy_pick pool.dispatcher pool.loads
  cases stream with
  | error fault => exact chosen
  | ok connection =>
      rw [dispatchStream, dispatch]
      dsimp only
      cases offered : pool.choose.2.offer pool.choose.1 connection with
      | error fault => exact chosen
      | ok next =>
          rcases offer_eq_ok offered with ⟨worker, _, rfl⟩
          exact chosen

/-- A dispatch that succeeds goes to the worker that is chosen. -/
theorem dispatched_to_choice {id : WorkerId} (done : (pool.dispatchStream stream).1 = .ok id) :
    id = pool.choose.1 := by
  cases stream with
  | error fault => cases done
  | ok connection =>
      rw [dispatchStream, dispatch] at done
      dsimp only at done
      cases offered : pool.choose.2.offer pool.choose.1 connection with
      | error fault =>
          rw [offered] at done
          cases done
      | ok next =>
          rw [offered] at done
          cases done
          rfl

/-- A dispatch by loads keeps them level. -/
theorem level_dispatchStream (policy : pool.dispatcher.policy = .leastLoaded)
    (level : Level pool.loads) : Level (pool.dispatchStream stream).2.loads := by
  cases result : (pool.dispatchStream stream).1 with
  | error fault =>
      rw [loads, workers_of_dispatch_error result]
      exact level
  | ok id =>
      rcases workers_of_dispatch_ok result with
        ⟨connection, front, worker, back, _, divided, place, after⟩
      have loads_eq : pool.loads = front.map Worker.load ++ worker.load :: back.map Worker.load := by
        rw [loads, divided, List.map_append, List.map_cons]
      have chosen : pool.choose.1 = Dispatcher.leastLoaded pool.loads := by
        rw [choose, Dispatcher.pick, policy]
      have some_worker : pool.loads ≠ [] := by
        rw [loads_eq]
        exact List.append_ne_nil_of_right_ne_nil _ (List.cons_ne_nil _ _)
      rcases Dispatcher.isFirstLeast_leastLoaded some_worker with ⟨load, there, least, _⟩
      rw [← chosen, ← dispatched_to_choice result, ← place, loads_eq,
        List.getElem?_append_right (by rw [List.length_map]), List.length_map, Nat.sub_self,
        List.getElem?_cons_zero, Option.some.injEq] at there
      subst there
      rw [loads_eq] at level least
      rw [loads, after, List.map_append, List.map_cons]
      exact level.raise least

/-- However a pool fills that chooses by loads, level loads stay level. -/
theorem Fills.level {start pool : WorkerPool} (fills : Fills start pool)
    (policy : start.dispatcher.policy = .leastLoaded) (level : Level start.loads) :
    pool.dispatcher.policy = .leastLoaded ∧ Level pool.loads := by
  induction fills with
  | start => exact ⟨policy, level⟩
  | dispatch fills stream inductionHypothesis =>
      rcases inductionHypothesis with ⟨kept, level⟩
      exact ⟨(policy_dispatchStream _ stream).trans kept, level_dispatchStream kept level⟩
  | other fills loads same inductionHypothesis =>
      rcases inductionHypothesis with ⟨kept, level⟩
      exact ⟨same.trans kept, loads ▸ level⟩

/-- For any number of workers and any history of their loads, every choice is the number of a worker.  A
cycling dispatcher goes through the workers one after another whatever the loads, and evenly so
between any two of its choices.  A dispatcher by loads picks the first of the least loaded workers,
and has no memory.  A pool that chooses by loads and starts with equal loads stays level as long as
nothing departs. -/
theorem choices_are_fair {size : Nat} (some_worker : 0 < size) {history : List (List Nat)}
    (sized : ∀ loads ∈ history, loads.length = size) (few : history.length < UInt64.size) :
    (∀ policy, ∀ worker ∈ (Dispatcher.new policy).pickAll history, worker < size) ∧
    ((Dispatcher.new .roundRobin).pickAll history = Dispatcher.cycle size history.length ∧
      ∀ before window behind,
        (Dispatcher.new .roundRobin).pickAll history = before ++ window ++ behind →
        Dispatcher.EvenlySpread size window) ∧
    ((Dispatcher.new .leastLoaded).pickAll history = history.map Dispatcher.leastLoaded ∧
      ∀ loads ∈ history, IsFirstLeast loads (Dispatcher.leastLoaded loads)) ∧
    ∀ start pool : WorkerPool, start.dispatcher.policy = .leastLoaded →
      (∀ one ∈ start.loads, ∀ other ∈ start.loads, one = other) → Fills start pool →
      Level pool.loads := by
  have cycles : (Dispatcher.new .roundRobin).pickAll history =
      Dispatcher.cycle size history.length := by
    have zero : (0 : UInt64).toNat = 0 := rfl
    rw [Dispatcher.new, Dispatcher.pickAll_roundRobin sized (by rw [zero]; omega), zero,
      ← List.range_eq_range']
    rfl
  have looks : (Dispatcher.new .leastLoaded).pickAll history =
      history.map Dispatcher.leastLoaded :=
    Dispatcher.pickAll_leastLoaded 0 history
  have first : ∀ loads ∈ history, IsFirstLeast loads (Dispatcher.leastLoaded loads) := by
    intro loads member
    apply Dispatcher.isFirstLeast_leastLoaded
    rintro rfl
    rw [← sized [] member] at some_worker
    exact Nat.lt_irrefl 0 some_worker
  refine ⟨?_, ⟨cycles, ?_⟩, ⟨looks, first⟩, ?_⟩
  · intro policy worker picked
    cases policy with
    | roundRobin =>
        rw [cycles] at picked
        rcases List.mem_map.mp picked with ⟨number, _, rfl⟩
        exact Nat.mod_lt number some_worker
    | leastLoaded =>
        rw [looks] at picked
        rcases List.mem_map.mp picked with ⟨loads, member, rfl⟩
        rcases first loads member with ⟨load, there, _⟩
        rcases List.getElem?_eq_some_iff.mp there with ⟨within, _⟩
        rw [← sized loads member]
        exact within
  · intro before window behind divided
    exact Dispatcher.evenlySpread_cycle (cycles.symm.trans divided)
  · intro start pool policy equal fills
    refine (fills.level policy ?_).2
    intro one member other member'
    rw [equal one member other member']
    exact Nat.le_succ other

/-- Five choices among three workers, of which one more is busy each time. -/
theorem five_choices_are_fair :
    let history := [[0, 0, 0], [1, 0, 0], [1, 1, 0], [1, 1, 1], [2, 1, 1]]
    let start : WorkerPool := ⟨List.replicate 3 .new, .new .leastLoaded, false⟩
    (∀ loads ∈ history, loads.length = 3) ∧ history.length < UInt64.size ∧
      (Dispatcher.new .roundRobin).pickAll history = [0, 1, 2, 0, 1] ∧
      Dispatcher.EvenlySpread 3 [1, 2, 0] ∧
      (Dispatcher.new .leastLoaded).pickAll history = [0, 1, 2, 0, 1] ∧
      IsFirstLeast [1, 1, 0] 2 ∧ Level (start.dispatchStream (.ok (.new 0 64))).2.loads := by
  intro history start
  have sized : ∀ loads ∈ history, loads.length = 3 := by decide
  have few : history.length < UInt64.size := by decide
  rcases choices_are_fair (by decide) sized few with ⟨_, ⟨cycles, spread⟩, ⟨looks, first⟩, level⟩
  refine ⟨sized, few, cycles, spread [0] [1, 2, 0] [1] cycles, looks, ?_, ?_⟩
  · exact first [1, 1, 0] (by decide)
  · exact level start _ rfl (by decide) (.dispatch .start _)

end WorkerPool
end PromiseHttp
