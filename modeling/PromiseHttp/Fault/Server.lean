import PromiseHttp.Fault.Io
import PromiseHttp.Json.Fault
import PromiseHttp.Settings.Fault
import PromiseHttp.Workers.Dispatcher

namespace PromiseHttp

/-!
# Faults of a server

What can go wrong between the settings of a server and the moment a connection is handed to one
of its workers.
-/

/-- Why a thread with a runtime of its own cannot be started. -/
inductive ThreadFault where
  /-- The runtime cannot be built. -/
  | runtime (fault : IoFault)
  /-- The machine has no thread for it. -/
  | spawn (fault : IoFault)

/-- A fault of a server. -/
inductive ServerFault where
  | io (fault : IoFault)
  | bind (address : String) (fault : IoFault)
  | resolve (address : String)
  | settings (fault : SettingsFault)
  | configuration (fault : Json.Fault)
  | runtime (fault : IoFault)
  | spawn (fault : IoFault)
  | notBound
  | workerGone (worker : WorkerId)

namespace ServerFault

/-- The fault of a server that needs a thread and cannot start it. -/
def ofThread : ThreadFault → ServerFault
  | .runtime fault => .runtime fault
  | .spawn fault => .spawn fault

/-- The fault in words. -/
def message : ServerFault → String
  | io fault => "I/O error: " ++ fault.text
  | bind address fault => "failed to bind to " ++ address ++ ": " ++ fault.text
  | resolve address => address ++ " did not resolve to any address"
  | settings fault => "invalid server options: " ++ fault.message
  | configuration fault => "invalid server configuration: " ++ fault.message
  | runtime fault => "failed to build runtime: " ++ fault.text
  | spawn fault => "failed to spawn thread: " ++ fault.text
  | notBound => "endpoint is already serving or has been shut down"
  | workerGone worker =>
    "worker " ++ Text.numeral worker ++ " is no longer accepting connections"

/-- The words of the fault that lies beneath this one. -/
def cause? : ServerFault → Option String
  | io fault => some fault.text
  | bind _ fault => some fault.text
  | configuration fault => some fault.message
  | runtime fault => some fault.text
  | spawn fault => some fault.text
  | _ => none

end ServerFault

end PromiseHttp
