import PromiseHttp.Fault.Io

namespace PromiseHttp

/-!
# Failures

A promise settles with a value or with a failure.  The failure is shared by everyone who observes
the promise, so it is a plain value.
-/

/-- The failure side of a settled promise. -/
inductive Failure where
  /-- The transport or a file failed. -/
  | io (fault : IoFault)
  /-- The peer sent what is not acceptable HTTP. -/
  | protocol (reason : String)
  /-- A handler failed while it produced its response. -/
  | handler (reason : String)
  /-- Everyone who could have settled the promise is gone. -/
  | abandoned
  /-- The client was shut down before the request was issued. -/
  | shutdown
  /-- A combination was asked to wait for nothing. -/
  | nothingToAwait
  deriving DecidableEq, Repr

namespace Failure

/-- The failure in words. -/
def message : Failure → String
  | io fault => "I/O failure: " ++ fault.text
  | protocol reason => "protocol error: " ++ reason
  | handler reason => "handler failed: " ++ reason
  | abandoned => "promise abandoned before it settled"
  | shutdown => "client has been shut down"
  | nothingToAwait => "no promises to wait on"

end Failure

/-- How a promise settles. -/
abbrev Outcome (α : Type) := Except Failure α

/-- What is said to someone who settles a settled promise. -/
def alreadySettledText : String := "promise already settled"

end PromiseHttp
