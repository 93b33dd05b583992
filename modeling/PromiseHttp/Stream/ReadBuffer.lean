import PromiseHttp.Text.Octets

namespace PromiseHttp

/-!
# Read buffers

The octets that have arrived on a connection and have not been consumed yet.  Only `held` matters
for what is made of them.  How the buffer is laid out in its storage decides how much a single read
may bring: the storage has a capacity, consumed octets leave a gap in front, and new octets go
behind the held ones.  A full storage first closes the gap, if the gap is at least as long as what
has to be moved into it, and doubles otherwise.
-/

/-- Octets that have arrived and not been consumed. -/
structure ReadBuffer where
  held : Octets
  /-- The size of the storage. -/
  capacity : Nat
  /-- The length of the gap in front of the held octets. -/
  gap : Nat
  deriving DecidableEq, Repr

namespace ReadBuffer

/-- The size of a new storage. -/
def initialCapacity : Nat := 4096

/-- The room that closing the gap must at least bring. -/
def spareRoom : Nat := 64

/-- A new buffer. -/
def empty : ReadBuffer := ⟨[], initialCapacity, 0⟩

/-- Makes room behind the held octets, if there is none. -/
def makeRoom (buffer : ReadBuffer) : ReadBuffer :=
  if buffer.gap + buffer.held.length < buffer.capacity then buffer
  else if buffer.held.length ≤ buffer.gap && buffer.held.length + spareRoom ≤ buffer.capacity then
    { buffer with gap := 0 }
  else { buffer with capacity := 2 * buffer.capacity }

/-- The number of octets that the next read may bring. -/
def room (buffer : ReadBuffer) : Nat :=
  let buffer := buffer.makeRoom
  buffer.capacity - buffer.gap - buffer.held.length

/-- Adds octets that have arrived. -/
def append (buffer : ReadBuffer) (piece : Octets) : ReadBuffer :=
  let buffer := buffer.makeRoom
  { buffer with held := buffer.held ++ piece }

/-- Consumes octets from the front. -/
def consume (buffer : ReadBuffer) (count : Nat) : ReadBuffer :=
  { buffer with held := buffer.held.drop count, gap := buffer.gap + count }

@[simp]
theorem held_empty : empty.held = [] := rfl

@[simp]
theorem held_makeRoom (buffer : ReadBuffer) : buffer.makeRoom.held = buffer.held := by
  unfold makeRoom
  split
  · rfl
  · split <;> rfl

@[simp]
theorem held_append (buffer : ReadBuffer) (piece : Octets) :
    (buffer.append piece).held = buffer.held ++ piece := by
  simp [append]

@[simp]
theorem held_consume (buffer : ReadBuffer) (count : Nat) :
    (buffer.consume count).held = buffer.held.drop count := rfl

end ReadBuffer

end PromiseHttp
