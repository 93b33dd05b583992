namespace PromiseHttp

/-!
# Tallies

What is counted of every entry of a list, added up.  Tallies say how long a loop can go on at most,
and how much there is left to do.
-/

variable {α : Type}

/-- The sum of what is counted of the entries. -/
def tally (count : α → Nat) : List α → Nat
  | [] => 0
  | entry :: rest => count entry + tally count rest

theorem tally_nil (count : α → Nat) : tally count [] = 0 := rfl

theorem tally_cons (count : α → Nat) (entry : α) (rest : List α) :
    tally count (entry :: rest) = count entry + tally count rest := rfl

theorem tally_append (count : α → Nat) (front back : List α) :
    tally count (front ++ back) = tally count front + tally count back := by
  induction front with
  | nil => exact (Nat.zero_add _).symm
  | cons entry front inductionHypothesis =>
      rw [List.cons_append, tally_cons, tally_cons, inductionHypothesis, Nat.add_assoc]

/-- A change of every entry that the count does not see leaves the tally as it is. -/
theorem tally_map {count : α → Nat} {change : α → α}
    (same : ∀ entry, count (change entry) = count entry) (entries : List α) :
    tally count (entries.map change) = tally count entries := by
  induction entries with
  | nil => rfl
  | cons entry rest inductionHypothesis =>
      rw [List.map_cons, tally_cons, tally_cons, inductionHypothesis, same]

/-- Where one entry changes, the tally changes by as much. -/
theorem tally_modify {entries : List α} {place : Nat} {entry : α}
    (there : entries[place]? = some entry) (count : α → Nat) (change : α → α) :
    tally count (entries.modify place change) + count entry =
      tally count entries + count (change entry) := by
  induction entries generalizing place with
  | nil => cases there
  | cons first rest inductionHypothesis =>
      cases place with
      | zero =>
          cases there
          rw [List.modify_zero_cons, tally_cons, tally_cons]
          omega
      | succ place =>
          have further := inductionHypothesis there
          rw [List.modify_succ_cons, tally_cons, tally_cons]
          omega

end PromiseHttp
