import PromiseHttp.Fault.Io
import PromiseHttp.Json.Fault
import PromiseHttp.Settings.Fault

namespace PromiseHttp

/-!
# Faults of a client

What can go wrong before a client exists.  Everything later is a failure of a single request.
-/

/-- A fault of a client. -/
inductive ClientFault where
  | invalidTarget (target : String)
  | settings (fault : SettingsFault)
  | configuration (fault : Json.Fault)
  | runtime (fault : IoFault)

namespace ClientFault

/-- The fault in words. -/
def message : ClientFault → String
  | invalidTarget target => "invalid target " ++ Text.quote target ++ ": expected host:port"
  | settings fault => "invalid client options: " ++ fault.message
  | configuration fault => "invalid client configuration: " ++ fault.message
  | runtime fault => "failed to build runtime: " ++ fault.text

/-- The words of the fault that lies beneath this one. -/
def cause? : ClientFault → Option String
  | configuration fault => some fault.message
  | runtime fault => some fault.text
  | _ => none

end ClientFault

end PromiseHttp
