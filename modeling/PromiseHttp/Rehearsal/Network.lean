import PromiseHttp.Endpoint.Lifecycle

namespace PromiseHttp

/-!
# The network of a rehearsal

Servers and clients are tried on a machine of their own.  Its name service knows this machine by a
name of both families and by one of the newer family alone, and it knows a name without any host.
-/

namespace Rehearsal

/-- The names that can be looked up. -/
def names : HostNames := fun name =>
  [("localhost", [Host.loopbackV6, .loopbackV4]),
    ("six.test", [.loopbackV6]),
    ("none.test", [])].lookup name

/-- The port that is chosen when none is asked for. -/
def freePort : Nat := 40000

/-- The machine when nobody listens on it. -/
def site (hearsInterrupts : Bool) : Site :=
  ⟨names, fun _ => false, freePort, hearsInterrupts⟩

/-- The machine when an endpoint is bound on it. -/
def siteBeside (endpoint : Endpoint) : Site :=
  ⟨names, fun address => endpoint.listening && address == endpoint.address, freePort,
    endpoint.hearsInterrupts⟩

end Rehearsal

end PromiseHttp
