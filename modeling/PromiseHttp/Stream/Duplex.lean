import PromiseHttp.Fault.Io
import PromiseHttp.Text.Octets
import PromiseHttp.Tally

namespace PromiseHttp

/-!
# Duplex streams

A connection is a pair of directions.  What the other side writes arrives as a queue of chunks, and
a read takes from the first chunk only, as much as there is room for.  Behind the last chunk a read
waits, or finds the end if the other side has closed.  What this side writes is recorded chunk by
chunk; a write fails once the other side no longer receives, and some of its octets may have gone out
by then.
-/

/-- What the queue of a direction holds. -/
inductive Arrival where
  | octets (chunk : Octets)
  /-- A read at this place fails. -/
  | fault (fault : IoFault)
  deriving DecidableEq, Repr

/-- What a read brings. -/
inductive ReadResult where
  | octets (piece : Octets)
  | ended
  | failed (fault : IoFault)
  deriving DecidableEq, Repr

/-- The incoming direction. -/
structure Inbound where
  queue : List Arrival
  /-- Whether the other side has closed it. -/
  closed : Bool
  deriving DecidableEq, Repr

namespace Inbound

/-- A direction on which nothing has arrived. -/
def empty : Inbound := ⟨[], false⟩

/-- Appends a chunk; writing nothing appends nothing. -/
def feed (inbound : Inbound) (chunk : Octets) : Inbound :=
  if chunk.isEmpty then inbound else { inbound with queue := inbound.queue ++ [.octets chunk] }

/-- Lets the read at the end of the queue fail. -/
def disturb (inbound : Inbound) (fault : IoFault) : Inbound :=
  { inbound with queue := inbound.queue ++ [.fault fault] }

/-- Closes the direction behind what has been written. -/
def close (inbound : Inbound) : Inbound := { inbound with closed := true }

/-- A direction on which all this arrives before it is closed. -/
def ofArrivals (arrivals : List Arrival) : Inbound :=
  close (arrivals.foldl (fun inbound arrival =>
    match arrival with
    | .octets chunk => inbound.feed chunk
    | .fault fault => inbound.disturb fault) empty)

/-- Reads at most as many octets as there is room for; nothing if the read has to wait. -/
def read? (inbound : Inbound) (room : Nat) : Option (ReadResult × Inbound) :=
  match inbound.queue with
  | .octets chunk :: rest =>
    let behind := chunk.drop room
    let queue := if behind.isEmpty then rest else .octets behind :: rest
    some (.octets (chunk.take room), { inbound with queue := queue })
  | .fault fault :: rest => some (.failed fault, { inbound with queue := rest })
  | [] => if inbound.closed then some (.ended, inbound) else none

/-- A bound on the number of reads that the direction can answer, the one that finds the end
included, when every read has room. -/
def readBound (inbound : Inbound) : Nat :=
  1 + tally (fun
    | .octets chunk => chunk.length + 1
    | .fault _ => 1) inbound.queue

end Inbound

/-- How many writes the other side still takes. -/
structure WriteBudget where
  left : Nat
  /-- What the writes behind these fail with. -/
  fault : IoFault
  /-- How many octets of a write that fails go out, though never all of them. -/
  torn : Nat
  deriving DecidableEq, Repr

/-- The outgoing direction. -/
structure Outbound where
  /-- What has been written, chunk by chunk. -/
  chunks : List Octets
  /-- The writes that the other side still takes, if they are limited. -/
  budget : Option WriteBudget
  deriving DecidableEq, Repr

namespace Outbound

/-- A direction on which nothing has been written. -/
def empty : Outbound := ⟨[], none⟩

/-- Everything that has been written. -/
def written (outbound : Outbound) : Octets := outbound.chunks.flatten

/-- Writes octets in one chunk; writing nothing always succeeds and leaves no trace. -/
def write (outbound : Outbound) (octets : Octets) : Except IoFault Outbound :=
  if octets.isEmpty then .ok outbound
  else match outbound.budget with
    | none => .ok { outbound with chunks := outbound.chunks ++ [octets] }
    | some ⟨0, fault, _⟩ => .error fault
    | some ⟨left + 1, fault, torn⟩ =>
      .ok ⟨outbound.chunks ++ [octets], some ⟨left, fault, torn⟩⟩

/-- The direction after a write of the octets has failed. -/
def tear (outbound : Outbound) (octets : Octets) : Outbound :=
  let part := octets.dropLast.take ((outbound.budget.map WriteBudget.torn).getD 0)
  if part.isEmpty then outbound else { outbound with chunks := outbound.chunks ++ [part] }

/-- The direction when the other side stops receiving after so many writes. -/
def deafenAfter (outbound : Outbound) (count : Nat) : Outbound :=
  { outbound with budget := some ⟨count, .brokenPipe, 0⟩ }

/-- The direction after the other side has stopped receiving. -/
def deafen (outbound : Outbound) : Outbound := outbound.deafenAfter 0

/-- A write that succeeds appends exactly the octets. -/
theorem written_of_write {outbound after : Outbound} {octets : Octets}
    (done : outbound.write octets = .ok after) :
    after.written = outbound.written ++ octets := by
  unfold write at done
  split at done
  · rename_i empty
    cases octets with
    | nil =>
      cases done
      simp
    | cons => simp at empty
  · split at done
    · cases done
      simp [written]
    · cases done
    · cases done
      simp [written]

/-- A write of nothing does not fail. -/
theorem ne_nil_of_write {outbound : Outbound} {octets : Octets} {fault : IoFault}
    (failed : outbound.write octets = .error fault) : octets ≠ [] := by
  rintro rfl
  cases failed

/-- A write that fails appends a part of the octets. -/
theorem written_tear {outbound : Outbound} {octets : Octets} {fault : IoFault}
    (failed : outbound.write octets = .error fault) :
    ∃ part, (outbound.tear octets).written = outbound.written ++ part ∧ part <+: octets ∧
      part.length < octets.length := by
  refine ⟨octets.dropLast.take ((outbound.budget.map WriteBudget.torn).getD 0), ?_, ?_, ?_⟩
  · unfold tear
    dsimp only
    split
    · rename_i nothing
      rw [List.isEmpty_iff.mp nothing, List.append_nil]
    · simp [written]
  · exact (List.take_prefix _ _).trans (List.dropLast_prefix octets)
  · have some_octet := List.length_pos_iff.mpr (ne_nil_of_write failed)
    have most : (octets.dropLast.take ((outbound.budget.map WriteBudget.torn).getD 0)).length ≤
        octets.dropLast.length := List.length_take_le' _ _
    rw [List.length_dropLast] at most
    omega

end Outbound

end PromiseHttp
