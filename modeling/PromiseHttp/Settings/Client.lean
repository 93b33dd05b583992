import PromiseHttp.Fault.Client
import PromiseHttp.Json.Record

namespace PromiseHttp

/-!
# Settings of a client

A client needs somebody to do its work, and it bounds the size of a response.  A bound of zero is
allowed.
-/

/-- The settings of a client. -/
structure ClientSettings where
  /-- How many threads drive the exchanges. -/
  threads : Nat
  /-- The most octets of head and body together that an exchange holds. -/
  maxResponseSize : Nat
  deriving DecidableEq, Repr

namespace ClientSettings

/-- The settings of a client that is not told otherwise. -/
def defaults : ClientSettings := ⟨1, 8 * 1024 * 1024⟩

/-- Finds the first field that makes no sense. -/
def validate (settings : ClientSettings) : Except SettingsFault Unit :=
  if settings.threads = 0 then .error .noThreads else .ok ()

/-- The fields in the order in which a list gives them. -/
def fields : List (Json.FieldReader ClientSettings) :=
  [⟨"threads", fun settings => do
      return { settings with threads := ← Json.readCount Text.countBound "usize" }⟩,
    ⟨"max_response_size", fun settings => do
      return { settings with maxResponseSize := ← Json.readCount Text.countBound "usize" }⟩]

/-- Reads settings from a configuration text and validates them. -/
def ofText (text : String) : Except ClientFault ClientSettings :=
  match Json.readText "struct ClientOptions" fields defaults text with
  | .error fault => .error (.configuration fault)
  | .ok settings =>
    match settings.validate with
    | .error fault => .error (.settings fault)
    | .ok () => .ok settings

end ClientSettings

end PromiseHttp
