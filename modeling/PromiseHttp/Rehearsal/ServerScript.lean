import PromiseHttp.Fault.Server
import PromiseHttp.Client.Sending

namespace PromiseHttp

/-!
# Scripts for a server

The steps that named peers and the owner of a service take, and what each of them shows.
-/

/-- How the requests of a client are waited for. -/
inductive Gathering where
  /-- All at once. -/
  | all
  /-- The first of all. -/
  | any
  /-- One after another. -/
  | each

/-- A step of a script. -/
inductive ServerStep where
  /-- Serves, with an acceptor of its own. -/
  | serveThreaded
  /-- Serves on a thread that can be joined. -/
  | serve
  | join
  /-- Serves where serving fails. -/
  | serveHere
  | shutDown
  | portMatches
  | threads
  /-- Binds the same address once more. -/
  | bindAgain
  /-- Connects and closes at once. -/
  | connectFails
  | openPeer (name : String)
  /-- Writes octets and reads a number of responses. -/
  | send (name : String) (octets : Octets) (count : Nat)
  /-- Closes the way to the server and reads up to the end. -/
  | halfClose (name : String)
  | drain (name : String)
  | closePeer (name : String)
  /-- The server's read at this place fails. -/
  | reset (name : String)
  /-- The server's writes fail after a number of them. -/
  | deafenAfter (name : String) (count : Nat)
  | client (gathering : Gathering) (settings : Except ClientFault ClientSettings)
      (drafts : List RequestDraft)
  | completions
  /-- Begins the shutdown while a handler waits at the gate, and then opens the gate. -/
  | shutDownDuring (name : String) (first second : Octets)
  | interrupt
  /-- The acceptor fails to accept a connection. -/
  | acceptFault
  /-- Looks at the loads once they add up to a number. -/
  | loads (total : Nat)
  | size

/-- What a step shows. -/
inductive ServerNote where
  | nothing
  | done
  | fault (fault : ServerFault)
  | clientFault (fault : ClientFault)
  | flag (value : Bool)
  | count (value : Nat)
  | loads (loads : List Nat)
  /-- The worker that a connection was handed to. -/
  | dispatched (worker : WorkerId) (loads : List Nat)
  /-- The responses that were read, and what was left if the server had closed. -/
  | responses (responses : List Octets) (leftover : Option Octets)
  | rest (octets : Octets)
  | completions (outcomes : List (Option (Outcome Nat)))
  | outcomes (outcomes : List (Option (Outcome Response)))
  | gathered (responses : List Response)
  | first (place : Nat) (response : Response)
  | failed (failure : Failure)
  /-- Something that was waited for has not happened. -/
  | timedOut

end PromiseHttp
