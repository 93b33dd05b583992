import PromiseHttp.Reply.FilePath
import PromiseHttp.Stream.Duplex

namespace PromiseHttp

/-!
# Files on their way to a peer

A file that has been opened tells its length once and is then read piece by piece.  Nothing ties
what reading yields to the length that was told: the file may grow, shrink, or fail in between.
Copying stops at the told length, whatever there is behind it.
-/

/-- A file that has been opened. -/
structure StoredFile where
  /-- What asking for the length yields. -/
  length : Except IoFault Nat
  /-- What successive reads yield; behind the last of them, and at an empty piece, is the end. -/
  reads : List (Except IoFault Octets)

namespace StoredFile

/-- The most octets that a single read yields. -/
def pieceBound : Nat := 8192

/-- Cuts octets into the pieces of successive reads. -/
def cut (octets : Octets) : List Octets :=
  if octets.length ≤ pieceBound then (if octets.isEmpty then [] else [octets])
  else octets.take pieceBound :: cut (octets.drop pieceBound)
termination_by octets.length
decreasing_by simp [pieceBound] at *; omega

/-- A file with a content, which may claim another length, be unable to tell its length, or fail
when it is read at a place. -/
def ofContent (content : Octets) (claimed failsAt : Option Nat) (secretive : Bool) : StoredFile :=
  { length := if secretive then .error .device else .ok (claimed.getD content.length)
    reads := match failsAt with
      | some place =>
        if place ≤ content.length then
          (cut (content.take place)).map .ok ++ [.error .device]
        else (cut content).map .ok
      | none => (cut content).map .ok }

/-- Copies at most a number of octets to a peer and counts them on top of those sent before. -/
def copy (outbound : Outbound) (sent left : Nat) :
    List (Except IoFault Octets) → Outbound × Except IoFault Nat
  | [] => (outbound, .ok sent)
  | read :: rest =>
    if left = 0 then (outbound, .ok sent)
    else match read with
      | .error fault => (outbound, .error fault)
      | .ok piece =>
        if piece.isEmpty then (outbound, .ok sent)
        else match outbound.write (piece.take left) with
          | .error fault => (outbound.tear (piece.take left), .error fault)
          | .ok outbound =>
            copy outbound (sent + (piece.take left).length) (left - (piece.take left).length) rest

end StoredFile

/-- What comes of opening the files at their paths. -/
abbrev Files := String → Except IoFault StoredFile

/-- The files that have been stored under their paths, in order.  What is stored under a path
replaces what was there. -/
def Files.ofList (stored : List (String × StoredFile)) : Files := fun path =>
  match stored.reverse.find? fun entry => FilePath.same path entry.1 with
  | some entry => .ok entry.2
  | none => .error .noSuchFile

end PromiseHttp
