import PromiseHttp.Reply.Handler

namespace PromiseHttp

open Promise (FailurePolicy LogEntry)

/-!
# Rehearsing a handler

A handler can be tried without a connection: it is given a writer, and the reply is looked at
instead of being sent.  The promise that the writer returned may be followed the way a file handler
follows it, and may then be settled as if the reply had gone out.
-/

/-- A handler that is to be tried. -/
structure Trial where
  /-- Whether the connection would be kept. -/
  keepAlive : Bool
  fields : List Field
  ending : WriterEnding
  /-- The policy with which the transfer of a file is followed, if it is. -/
  followed : Option FailurePolicy
  /-- Whether the promise is kept by whoever tries the handler. -/
  kept : Bool

/-- What a trial shows. -/
structure Findings where
  reply : Outcome Reply
  /-- Whether there is a promise; it is pending. -/
  promised : Bool
  /-- What the promise is settled with in the end, if it is. -/
  settled : Option (Outcome Nat)
  logs : List LogEntry

namespace Trial

/-- The path of the file that is served, if one is. -/
def path (trial : Trial) : String :=
  match trial.ending with
  | .serveFile path => path
  | _ => ""

/-- What is logged when the handler comes back. -/
def farewell (trial : Trial) : List LogEntry :=
  match trial.ending with
  | .letGo => [⟨.warn, "response writer dropped without a reply", []⟩]
  | _ => []

/-- What becomes of the promise when the reply is settled. -/
def follow (trial : Trial) (transfer : Outcome Nat) : Option (Outcome Nat) × List LogEntry :=
  match trial.followed with
  | some policy => followTransfer trial.path policy transfer
  | none => (some transfer, [])

/-- Tries the handler and settles its reply, if there is a promise to settle. -/
def run (trial : Trial) (transfer : Option (Outcome Nat)) : Findings :=
  let writer := (ResponseWriter.new trial.keepAlive).addAll trial.fields
  let followed := if trial.ending.promises then transfer.map trial.follow else none
  { reply := writer.reply trial.ending
    promised := trial.kept && trial.ending.promises
    settled := if trial.kept then followed.bind Prod.fst else none
    logs := trial.farewell ++ (followed.map Prod.snd).getD [] }

end Trial

end PromiseHttp
