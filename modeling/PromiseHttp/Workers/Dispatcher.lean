namespace PromiseHttp

/-!
# Choosing a worker

Every new connection goes to one worker.  A dispatcher either cycles through the workers, whatever
their loads, or picks the one with the fewest open connections, ties going to the lowest number.
The cycling counter is a 64-bit word and starts over when it is exhausted.
-/

/-- The number of a worker within its pool. -/
abbrev WorkerId := Nat

/-- How a worker is chosen for a new connection. -/
inductive DispatchPolicy where
  | roundRobin
  | leastLoaded
  deriving DecidableEq, Repr

/-- A policy and how many choices have been made. -/
structure Dispatcher where
  policy : DispatchPolicy
  picks : UInt64
  deriving DecidableEq, Repr

namespace Dispatcher

/-- A dispatcher that has made no choice yet. -/
def new (policy : DispatchPolicy) : Dispatcher := ⟨policy, 0⟩

/-- The first position that holds the least load; of no loads, the first position. -/
def leastLoaded (loads : List Nat) : WorkerId :=
  match loads.min? with
  | some least => loads.findIdx (· == least)
  | none => 0

/-- Chooses a worker, given the loads of all of them.  There must be at least one. -/
def pick (dispatcher : Dispatcher) (loads : List Nat) : WorkerId × Dispatcher :=
  match dispatcher.policy with
  | .roundRobin =>
    (dispatcher.picks.toNat % loads.length, { dispatcher with picks := dispatcher.picks + 1 })
  | .leastLoaded => (leastLoaded loads, dispatcher)

/-- The choices for a sequence of loads. -/
def pickAll (dispatcher : Dispatcher) : List (List Nat) → List WorkerId
  | [] => []
  | loads :: rest =>
    let (worker, dispatcher) := dispatcher.pick loads
    worker :: dispatcher.pickAll rest

theorem policy_pick (dispatcher : Dispatcher) (loads : List Nat) :
    (dispatcher.pick loads).2.policy = dispatcher.policy := by
  unfold pick
  split <;> simp_all

end Dispatcher

end PromiseHttp
