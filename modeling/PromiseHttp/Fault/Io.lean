namespace PromiseHttp

/-!
# Transport faults

A fault of the transport or of a file has a kind, by which a program reacts to it, and a text,
which a person reads.  A fault raised by this library itself carries a text of its own; one that
comes from the operating system ends in the system's number for it.
-/

/-- The kinds of transport and file faults. -/
inductive IoKind where
  | connectionRefused
  | connectionReset
  | connectionAborted
  | notConnected
  | brokenPipe
  | notFound
  | alreadyExists
  | permissionDenied
  | addressInUse
  | addressNotAvailable
  | timedOut
  | unexpectedEnd
  | writeZero
  | interrupted
  | invalidInput
  | invalidData
  | deviceFault
  | other
  deriving DecidableEq, Repr

/-- What a fault of the kind says when it carries no text of its own. -/
def IoKind.description : IoKind → String
  | connectionRefused => "connection refused"
  | connectionReset => "connection reset"
  | connectionAborted => "connection aborted"
  | notConnected => "not connected"
  | brokenPipe => "broken pipe"
  | notFound => "entity not found"
  | alreadyExists => "entity already exists"
  | permissionDenied => "permission denied"
  | addressInUse => "address in use"
  | addressNotAvailable => "address not available"
  | timedOut => "timed out"
  | unexpectedEnd => "unexpected end of file"
  | writeZero => "write zero"
  | interrupted => "operation interrupted"
  | invalidInput => "invalid input parameter"
  | invalidData => "invalid data"
  | deviceFault => "input/output error"
  | other => "other error"

/-- A fault of the transport or of a file. -/
structure IoFault where
  kind : IoKind
  text : String
  deriving DecidableEq, Repr

namespace IoFault

/-- A fault that says no more than its kind. -/
def ofKind (kind : IoKind) : IoFault := ⟨kind, kind.description⟩

/-! ## Faults the operating system reports -/

/-- Nobody listens at the address. -/
def refused : IoFault := ⟨.connectionRefused, "Connection refused (os error 111)"⟩

/-- The peer tore the connection down. -/
def reset : IoFault := ⟨.connectionReset, "Connection reset by peer (os error 104)"⟩

/-- The peer no longer receives. -/
def brokenPipe : IoFault := ⟨.brokenPipe, "Broken pipe (os error 32)"⟩

/-- There is no such file. -/
def noSuchFile : IoFault := ⟨.notFound, "No such file or directory (os error 2)"⟩

/-- The device failed. -/
def device : IoFault := ⟨.deviceFault, "Input/output error (os error 5)"⟩

/-- The address is taken. -/
def addressInUse : IoFault := ⟨.addressInUse, "Address already in use (os error 98)"⟩

/-- The address belongs to another machine. -/
def addressNotAvailable : IoFault :=
  ⟨.addressNotAvailable, "Cannot assign requested address (os error 99)"⟩

/-- The host has no name service entry. -/
def unknownHost : IoFault :=
  ⟨.other, "failed to lookup address information: Name or service not known"⟩

/-- The address has no port. -/
def invalidAddress : IoFault := ⟨.invalidInput, "invalid socket address"⟩

/-- What stands after the last colon of the address is no port. -/
def invalidPort : IoFault := ⟨.invalidInput, "invalid port value"⟩

/-- The name of the server stands for no address. -/
def namesNothing : IoFault := ⟨.invalidInput, "could not resolve to any address"⟩

/-! ## Faults raised by the exchange itself -/

/-- The peer closed the connection before everything it owed had arrived. -/
def closedEarly (moment : String) : IoFault :=
  ⟨.unexpectedEnd, "connection closed " ++ moment⟩

end IoFault

end PromiseHttp
