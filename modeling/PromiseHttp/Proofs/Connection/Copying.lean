import PromiseHttp.Connection.StoredFile

namespace PromiseHttp

/-!
# Copying a file

What reading a file yields is the octets of its reads, up to the first that fails or finds the end.
Copying writes as much of them as it is allowed to, or fails before.  With a peer that takes every write
it fails only if a read does.
-/

namespace Outbound

/-- A peer that takes every write takes these octets. -/
theorem write_free {outbound : Outbound} (free : outbound.budget = none) (octets : Octets) :
    ∃ after, outbound.write octets = .ok after ∧ after.budget = none ∧
      after.written = outbound.written ++ octets := by
  have takes : ∃ after, outbound.write octets = .ok after ∧ after.budget = none := by
    unfold write
    split
    · exact ⟨outbound, rfl, free⟩
    · rw [free]
      exact ⟨_, rfl, rfl⟩
  rcases takes with ⟨after, written, free'⟩
  exact ⟨after, written, free', written_of_write written⟩

end Outbound

namespace StoredFile

/-- The octets that reads yield, up to the first read that fails or finds the end. -/
def yields : List (Except IoFault Octets) → Octets
  | .ok piece :: rest => if piece.isEmpty then [] else piece ++ yields rest
  | _ => []

/-- What copying at most so many octets comes to: all of them are written, up to the bound or the end of
the file, or something fails before. -/
inductive Copies (outbound : Outbound) (sent left : Nat) (reads : List (Except IoFault Octets)) :
    Outbound × Except IoFault Nat → Prop
  | all {after : Outbound} {count : Nat}
      (written : after.written = outbound.written ++ (yields reads).take left)
      (counted : count = sent + ((yields reads).take left).length) :
      Copies outbound sent left reads (after, .ok count)
  | part {after : Outbound} {fault : IoFault} {octets : Octets}
      (written : after.written = outbound.written ++ octets) (short : octets.length < left) :
      Copies outbound sent left reads (after, .error fault)

/-- Nothing is copied where nothing is left to copy or to read. -/
theorem copies_nothing (outbound : Outbound) (sent : Nat) {left : Nat}
    {reads : List (Except IoFault Octets)} (nothing : (yields reads).take left = []) :
    Copies outbound sent left reads (outbound, .ok sent) := by
  apply Copies.all
  · rw [nothing, List.append_nil]
  · rw [nothing, List.length_nil, Nat.add_zero]

theorem copy_copies (reads : List (Except IoFault Octets)) (outbound : Outbound) (sent left : Nat) :
    Copies outbound sent left reads (copy outbound sent left reads) := by
  induction reads generalizing outbound sent left with
  | nil => exact copies_nothing outbound sent List.take_nil
  | cons read rest inductionHypothesis =>
      have unwritten : outbound.written = outbound.written ++ [] := (List.append_nil _).symm
      by_cases done : left = 0
      · subst done
        have nothing : Copies outbound sent 0 (read :: rest) (outbound, .ok sent) :=
          copies_nothing outbound sent List.take_zero
        cases read <;> exact nothing
      · cases read with
        | error fault =>
            rw [copy, if_neg done]
            exact .part unwritten (Nat.pos_of_ne_zero done)
        | ok piece =>
            rw [copy, if_neg done]
            by_cases empty : piece.isEmpty = true
            · rw [if_pos empty]
              apply copies_nothing
              rw [yields, if_pos empty, List.take_nil]
            · rw [if_neg empty]
              have content : (yields (.ok piece :: rest)).take left =
                  piece.take left ++ (yields rest).take (left - (piece.take left).length) := by
                rw [yields, if_neg empty, List.take_append, List.length_take]
                congr 2
                omega
              cases took : outbound.write (piece.take left) with
              | error fault =>
                  rcases Outbound.written_tear took with ⟨part, written, _, short⟩
                  refine .part written (Nat.lt_of_lt_of_le short ?_)
                  exact List.length_take_le left piece
              | ok next =>
                  have copied := inductionHypothesis next (sent + (piece.take left).length)
                    (left - (piece.take left).length)
                  have written := Outbound.written_of_write took
                  dsimp only
                  generalize copy next _ _ rest = result at copied ⊢
                  cases copied with
                  | all written' counted =>
                      apply Copies.all
                      · rw [written', written, content, List.append_assoc]
                      · rw [counted, content, List.length_append, Nat.add_assoc]
                  | @part after fault octets written' short =>
                      have whole : after.written =
                          outbound.written ++ (piece.take left ++ octets) := by
                        rw [written', written, List.append_assoc]
                      refine .part whole ?_
                      rw [List.length_append]
                      omega

/-! ## Copying to a peer that takes every write -/

/-- Reads that fail, if at all, behind so many octets. -/
def Lasts (reads : List (Except IoFault Octets)) (bound : Nat) : Prop :=
  ∀ fault, .error fault ∈ reads → bound ≤ (yields reads).length

theorem Lasts.tail {piece : Octets} {rest : List (Except IoFault Octets)} {bound : Nat}
    (lasts : Lasts (.ok piece :: rest) bound) (some_octet : ¬ piece.isEmpty = true) :
    Lasts rest (bound - (piece.take bound).length) := by
  intro fault member
  have enough := lasts fault (List.mem_cons_of_mem _ member)
  rw [yields, if_neg some_octet, List.length_append] at enough
  rw [List.length_take]
  omega

/-- Copying to a peer that takes every write goes on until the bound or the end of the file. -/
theorem copy_free {reads : List (Except IoFault Octets)} {left : Nat} (lasts : Lasts reads left)
    {outbound : Outbound} (free : outbound.budget = none) (sent : Nat) :
    ∃ after count, copy outbound sent left reads = (after, .ok count) ∧ after.budget = none := by
  induction reads generalizing outbound sent left with
  | nil => exact ⟨outbound, sent, rfl, free⟩
  | cons read rest inductionHypothesis =>
      cases read with
      | error fault =>
          have done : left = 0 := Nat.le_zero.mp (lasts fault List.mem_cons_self)
          rw [copy, if_pos done]
          exact ⟨outbound, sent, rfl, free⟩
      | ok piece =>
          by_cases done : left = 0
          · rw [copy, if_pos done]
            exact ⟨outbound, sent, rfl, free⟩
          · rw [copy, if_neg done]
            by_cases ends : piece.isEmpty = true
            · rw [if_pos ends]
              exact ⟨outbound, sent, rfl, free⟩
            · rw [if_neg ends]
              rcases outbound.write_free free (piece.take left) with ⟨next, takes, free', _⟩
              rw [takes]
              exact inductionHypothesis (lasts.tail ends) free' _

/-- A peer that takes every write is given the content of the file up to the bound. -/
theorem copy_yields {reads : List (Except IoFault Octets)} {bound : Nat} (lasts : Lasts reads bound)
    {outbound : Outbound} (free : outbound.budget = none) :
    ∃ after, copy outbound 0 bound reads = (after, .ok ((yields reads).take bound).length) ∧
      after.budget = none ∧ after.written = outbound.written ++ (yields reads).take bound := by
  rcases copy_free lasts free 0 with ⟨after, count, copied, free'⟩
  have copies := copy_copies reads outbound 0 bound
  rw [copied] at copies
  cases copies with
  | all written counted =>
      rw [Nat.zero_add] at counted
      subst counted
      exact ⟨after, copied, free', written⟩

end StoredFile

end PromiseHttp
