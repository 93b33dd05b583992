import PromiseHttp.Stream.Duplex
import PromiseHttp.Stream.ReadBuffer

namespace PromiseHttp

/-!
# Reading a stream in pieces

A reader asks for no more than its buffer has room for, and there is always room.  So every read
makes progress: it takes octets from the front of what has not been read, or finds a fault or the
end, and what remains to be read becomes less.
-/

namespace Inbound

/-- The octets that have not been read. -/
def octets (inbound : Inbound) : Octets :=
  inbound.queue.flatMap fun
    | .octets chunk => chunk
    | .fault _ => []

@[simp]
theorem octets_feed (inbound : Inbound) (chunk : Octets) :
    (inbound.feed chunk).octets = inbound.octets ++ chunk := by
  unfold feed
  cases chunk with
  | nil => simp
  | cons first rest => simp [octets]

@[simp]
theorem octets_disturb (inbound : Inbound) (fault : IoFault) :
    (inbound.disturb fault).octets = inbound.octets := by
  simp [disturb, octets]

/-- A read takes octets from the front. -/
theorem octets_of_read? {inbound after : Inbound} {room : Nat} {result : ReadResult}
    (read : inbound.read? room = some (result, after)) :
    (∃ piece, result = .octets piece ∧ inbound.octets = piece ++ after.octets) ∨
      ((∀ piece, result ≠ .octets piece) ∧ after.octets = inbound.octets) := by
  unfold read? at read
  cases front : inbound.queue with
  | nil =>
      simp only [front] at read
      by_cases closed : inbound.closed = true
      · rw [if_pos closed] at read
        cases read
        exact Or.inr ⟨fun _ same => ReadResult.noConfusion same, rfl⟩
      · rw [if_neg closed] at read
        cases read
  | cons arrival rest =>
      cases arrival with
      | fault fault =>
          simp only [front] at read
          cases read
          refine Or.inr ⟨fun _ same => ReadResult.noConfusion same, ?_⟩
          simp only [octets, front, List.flatMap_cons, List.nil_append]
      | octets chunk =>
          simp only [front] at read
          cases read
          refine Or.inl ⟨chunk.take room, rfl, ?_⟩
          simp only [octets, front, List.flatMap_cons]
          have whole : chunk.take room ++ chunk.drop room = chunk := List.take_append_drop room chunk
          by_cases nothing : (chunk.drop room).isEmpty = true
          · rw [if_pos nothing]
            rw [List.isEmpty_iff.mp nothing, List.append_nil] at whole
            rw [whole]
          · rw [if_neg nothing, List.flatMap_cons, ← List.append_assoc, whole]

/-! ## Streams without faults -/

/-- Whether these octets are what the direction brings, in non-empty chunks and without a fault. -/
def Brings (inbound : Inbound) (octets : Octets) : Prop :=
  (∀ arrival ∈ inbound.queue, ∃ chunk, chunk ≠ [] ∧ arrival = .octets chunk) ∧
    inbound.octets = octets

theorem brings_empty : empty.Brings [] := by
  refine ⟨?_, rfl⟩
  intro arrival member
  cases member

theorem Brings.feed {inbound : Inbound} {octets : Octets} (brings : inbound.Brings octets)
    (chunk : Octets) : (inbound.feed chunk).Brings (octets ++ chunk) := by
  refine ⟨?_, by rw [octets_feed, brings.2]⟩
  cases chunk with
  | nil => exact brings.1
  | cons first rest =>
      intro arrival member
      rcases List.mem_append.mp member with before | new
      · exact brings.1 arrival before
      · exact ⟨first :: rest, List.cons_ne_nil first rest, List.mem_singleton.mp new⟩

/-- A direction that brings octets brings a piece of them to every reader that has room. -/
theorem Brings.read {inbound : Inbound} {octets : Octets} (brings : inbound.Brings octets)
    (some_octet : octets ≠ []) {room : Nat} (roomy : 0 < room) :
    ∃ piece rest after, inbound.read? room = some (.octets piece, after) ∧
      octets = piece ++ rest ∧ piece ≠ [] ∧ after.Brings rest ∧ after.closed = inbound.closed := by
  rcases brings with ⟨plain, whole⟩
  cases front : inbound.queue with
  | nil =>
      rw [Inbound.octets, front] at whole
      exact absurd whole.symm some_octet
  | cons arrival queue =>
      rw [front] at plain
      rcases plain arrival List.mem_cons_self with ⟨chunk, nonempty, rfl⟩
      have read : inbound.read? room = some (.octets (chunk.take room),
          { inbound with
            queue := if (chunk.drop room).isEmpty then queue else .octets (chunk.drop room) :: queue
          }) := by
        simp only [read?, front]
      have divided := octets_of_read? read
      rcases divided with ⟨piece, same, divided⟩ | ⟨other, _⟩
      · cases same
        refine ⟨_, _, _, read, whole.symm.trans divided, ?_, ⟨?_, rfl⟩, rfl⟩
        · intro nothing
          rcases List.take_eq_nil_iff.mp nothing with none_taken | nothing
          · omega
          · exact nonempty nothing
        · intro arrival member
          dsimp only at member
          split at member
          · exact plain arrival (List.mem_cons_of_mem _ member)
          · rename_i left
            rcases List.mem_cons.mp member with rfl | later
            · exact ⟨_, fun nothing => left (List.isEmpty_iff.mpr nothing), rfl⟩
            · exact plain arrival (List.mem_cons_of_mem _ later)
      · exact absurd rfl (other _)

theorem Brings.queue_eq_nil {inbound : Inbound} (brings : inbound.Brings []) :
    inbound.queue = [] := by
  rcases brings with ⟨plain, whole⟩
  cases front : inbound.queue with
  | nil => rfl
  | cons arrival queue =>
      rcases plain arrival (front ▸ List.mem_cons_self) with ⟨chunk, nonempty, rfl⟩
      rw [Inbound.octets, front, List.flatMap_cons] at whole
      exact absurd (List.append_eq_nil_iff.mp whole).1 nonempty

/-- A reader waits only when there is nothing to read. -/
theorem Brings.of_waits {inbound : Inbound} {octets : Octets} (brings : inbound.Brings octets)
    {room : Nat} (waits : inbound.read? room = none) : octets = [] := by
  rw [← brings.2]
  unfold read? at waits
  cases front : inbound.queue with
  | nil => rw [Inbound.octets, front, List.flatMap_nil]
  | cons arrival queue => cases arrival <;> simp only [front, reduceCtorEq] at waits

/-- A read that is answered although there is nothing to read finds the end. -/
theorem Brings.ended_of_read? {inbound after : Inbound} (brings : inbound.Brings []) {room : Nat}
    {result : ReadResult} (answer : inbound.read? room = some (result, after)) :
    inbound.closed = true ∧ result = .ended ∧ after = inbound := by
  unfold read? at answer
  rw [brings.queue_eq_nil] at answer
  by_cases closed : inbound.closed = true
  · simp only [if_pos closed, Option.some.injEq, Prod.mk.injEq] at answer
    exact ⟨closed, answer.1.symm, answer.2.symm⟩
  · simp only [if_neg closed, reduceCtorEq] at answer

/-! ## Progress -/

/-- Every read that has room leaves less to read, but the one that finds the end. -/
theorem readBound_of_read? {inbound after : Inbound} {room : Nat} {result : ReadResult}
    (read : inbound.read? room = some (result, after)) (roomy : 0 < room) :
    after.readBound < inbound.readBound ∨ result = .ended := by
  unfold read? at read
  cases front : inbound.queue with
  | nil =>
      simp only [front] at read
      split at read
      · cases read
        exact Or.inr rfl
      · cases read
  | cons arrival queue =>
      refine Or.inl ?_
      cases arrival with
      | fault fault =>
          simp only [front] at read
          cases read
          simp only [readBound, front, tally_cons]
          omega
      | octets chunk =>
          simp only [front] at read
          cases read
          simp only [readBound, front, tally_cons]
          split
          · omega
          · rename_i left
            have long : (chunk.drop room).length ≠ 0 := by
              intro nothing
              exact left (List.isEmpty_iff.mpr (List.eq_nil_of_length_eq_zero nothing))
            simp only [tally_cons]
            rw [List.length_drop] at long ⊢
            omega

end Inbound

namespace ReadBuffer

/-- A buffer whose held octets are within its storage. -/
def Fits (buffer : ReadBuffer) : Prop :=
  0 < buffer.capacity ∧ buffer.gap + buffer.held.length ≤ buffer.capacity

theorem fits_empty : empty.Fits := ⟨by decide, by decide⟩

/-- Making room leaves the held octets within the storage, and room behind them. -/
theorem Fits.makeRoom {buffer : ReadBuffer} (fits : buffer.Fits) :
    buffer.makeRoom.gap + buffer.held.length < buffer.makeRoom.capacity := by
  rcases fits with ⟨positive, within⟩
  unfold ReadBuffer.makeRoom
  split
  · assumption
  · split
    · rename_i closes
      simp only [Bool.and_eq_true, decide_eq_true_eq, spareRoom] at closes
      dsimp only
      omega
    · dsimp only
      omega

theorem Fits.room_pos {buffer : ReadBuffer} (fits : buffer.Fits) : 0 < buffer.room := by
  have roomy := fits.makeRoom
  simp only [room, held_makeRoom]
  omega

/-- A piece for which there was room stays within the storage. -/
theorem Fits.append {buffer : ReadBuffer} (fits : buffer.Fits) {piece : Octets}
    (room : piece.length ≤ buffer.room) : (buffer.append piece).Fits := by
  have roomy := fits.makeRoom
  simp only [ReadBuffer.room, held_makeRoom] at room
  refine ⟨?_, ?_⟩
  · simp only [ReadBuffer.append]
    omega
  · simp only [ReadBuffer.append, held_makeRoom, List.length_append]
    omega

/-- A buffer from which nothing has been consumed, and whose storage has grown only as it was
full. -/
def Snug (buffer : ReadBuffer) : Prop :=
  buffer.gap = 0 ∧ buffer.capacity ≤ max initialCapacity (2 * buffer.held.length)

theorem snug_empty : empty.Snug := ⟨rfl, by decide⟩

/-- A read brings no more than the storage has room for once it is made. -/
theorem Snug.append {buffer : ReadBuffer} (snug : buffer.Snug) (fits : buffer.Fits)
    {piece : Octets} (room : piece.length ≤ buffer.room) :
    (buffer.append piece).Snug ∧
      (buffer.append piece).held.length ≤ max initialCapacity (2 * buffer.held.length) := by
  rcases snug with ⟨front, storage⟩
  have roomy := fits.makeRoom
  have made : buffer.makeRoom.gap = 0 ∧
      buffer.makeRoom.capacity ≤ max initialCapacity (2 * buffer.held.length) := by
    rcases fits with ⟨positive, within⟩
    unfold ReadBuffer.makeRoom
    split
    · exact ⟨front, storage⟩
    · split
      · exact ⟨rfl, storage⟩
      · dsimp only
        omega
  simp only [ReadBuffer.room, held_makeRoom] at room
  refine ⟨⟨made.1, ?_⟩, ?_⟩
  · have length : (buffer.append piece).held.length = buffer.held.length + piece.length := by
      rw [held_append, List.length_append]
    rw [length]
    exact Nat.le_trans made.2 (by omega)
  · rw [held_append, List.length_append]
    omega

theorem Fits.consume {buffer : ReadBuffer} (fits : buffer.Fits) {count : Nat}
    (there : count ≤ buffer.held.length) : (buffer.consume count).Fits := by
  rcases fits with ⟨positive, within⟩
  refine ⟨positive, ?_⟩
  simp only [ReadBuffer.consume, List.length_drop]
  omega

end ReadBuffer

namespace Inbound

/-- A read brings no more than there was room for. -/
theorem length_of_read? {inbound after : Inbound} {room : Nat} {piece : Octets}
    (read : inbound.read? room = some (.octets piece, after)) : piece.length ≤ room := by
  unfold read? at read
  split at read
  · cases read
    rw [List.length_take]
    exact Nat.min_le_left _ _
  · cases read
  · split at read <;> cases read

/-- Reading does not close or open a direction. -/
theorem closed_of_read? {inbound after : Inbound} {room : Nat} {result : ReadResult}
    (read : inbound.read? room = some (result, after)) : after.closed = inbound.closed := by
  unfold read? at read
  split at read
  · cases read
    rfl
  · cases read
    rfl
  · split at read <;> cases read
    rfl

/-- The end is found only behind everything, on a direction that is closed. -/
theorem exhausted_of_read? {inbound after : Inbound} {room : Nat}
    (read : inbound.read? room = some (.ended, after)) :
    inbound.octets = [] ∧ inbound.closed = true := by
  unfold read? at read
  split at read
  · cases read
  · cases read
  · rename_i empty
    split at read
    · rename_i closed
      refine ⟨?_, closed⟩
      rw [octets, empty, List.flatMap_nil]
    · cases read

/-- The end can be found again and again. -/
theorem ended_of_read? {inbound after : Inbound} {room : Nat}
    (read : inbound.read? room = some (.ended, after)) : after = inbound := by
  unfold read? at read
  split at read
  · cases read
  · cases read
  · split at read
    · cases read
      rfl
    · cases read

end Inbound

end PromiseHttp
