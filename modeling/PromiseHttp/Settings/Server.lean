import PromiseHttp.Fault.Server
import PromiseHttp.Json.Record

namespace PromiseHttp

/-!
# Settings of a server

The settings come from defaults, from a configuration text, or from a program that changes single
fields.  A configuration text is validated as it is read; changes made by a program are validated
when a server is started with them.
-/

/-- The settings of a server. -/
structure ServerSettings where
  /-- How many workers there are. -/
  threads : Nat
  /-- Whether the address may be taken over from a socket that lingers. -/
  reuseAddress : Bool
  /-- Whether an interrupt from the keyboard stops the server. -/
  stopOnInterrupt : Bool
  /-- How many connections may wait to be accepted. -/
  backlog : Nat
  /-- The most octets of head and body together that a connection holds for a request. -/
  maxRequestSize : Nat
  dispatch : DispatchPolicy
  deriving DecidableEq, Repr

namespace ServerSettings

/-- The settings of a server that is not told otherwise. -/
def defaults : ServerSettings := ⟨1, true, false, 1024, 8 * 1024 * 1024, .roundRobin⟩

/-- Finds the first field that makes no sense. -/
def validate (settings : ServerSettings) : Except SettingsFault Unit :=
  if settings.threads = 0 then .error .noThreads
  else if settings.maxRequestSize = 0 then .error .noRequestRoom
  else .ok ()

/-- One more than the longest queue of connections. -/
def backlogBound : Nat := UInt32.size

/-- The policies by their names in a configuration. -/
def policies : List (String × DispatchPolicy) :=
  [("round_robin", .roundRobin), ("least_loaded", .leastLoaded)]

/-- The fields in the order in which a list gives them. -/
def fields : List (Json.FieldReader ServerSettings) :=
  [⟨"threads", fun settings => do
      return { settings with threads := ← Json.readCount Text.countBound "usize" }⟩,
    ⟨"reuse_addr", fun settings => do
      return { settings with reuseAddress := ← Json.readFlag }⟩,
    ⟨"install_signal_handler", fun settings => do
      return { settings with stopOnInterrupt := ← Json.readFlag }⟩,
    ⟨"backlog", fun settings => do
      return { settings with backlog := ← Json.readCount backlogBound "u32" }⟩,
    ⟨"max_request_size", fun settings => do
      return { settings with maxRequestSize := ← Json.readCount Text.countBound "usize" }⟩,
    ⟨"dispatch", fun settings => do
      return { settings with dispatch := ← Json.readChoice policies }⟩]

/-- Reads settings from a configuration text and validates them. -/
def ofText (text : String) : Except ServerFault ServerSettings :=
  match Json.readText "struct ServerOptions" fields defaults text with
  | .error fault => .error (.configuration fault)
  | .ok settings =>
    match settings.validate with
    | .error fault => .error (.settings fault)
    | .ok () => .ok settings

end ServerSettings

end PromiseHttp
