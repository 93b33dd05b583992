import PromiseHttp.Fault.Client

namespace PromiseHttp

/-!
# Targets of a client

A client is bound to one server, named by its host and port.  A scheme in front and slashes behind
are tolerated and dropped; they are no part of the name.  The port is what stands behind the last
colon.
-/

namespace Target

/-- The scheme that may stand in front. -/
def scheme : List Char := "http://".toList

/-- The characters without one scheme in front. -/
def dropScheme (chars : List Char) : List Char :=
  if scheme.isPrefixOf chars then chars.drop scheme.length else chars

/-- The characters without the slashes at the end. -/
def dropSlashes (chars : List Char) : List Char :=
  (chars.reverse.dropWhile (· == '/')).reverse

/-- Splits at the last colon: what stands before it and behind it. -/
def splitPort? (chars : List Char) : Option (List Char × List Char) :=
  match chars.reverse.dropWhile (· != ':') with
  | [] => none
  | _ :: host => some (host.reverse, (chars.reverse.takeWhile (· != ':')).reverse)

/-- Whether the characters are a host, a colon and a port. -/
def isAuthority (chars : List Char) : Bool :=
  match splitPort? chars with
  | some (host, port) =>
    !host.isEmpty && (Text.readNumeral Text.portBound (String.ofList port)).isSome
  | none => false

/-- The name of the server that a target stands for. -/
def parse (target : String) : Except ClientFault String :=
  let authority := dropSlashes (dropScheme target.toList)
  if isAuthority authority then .ok (String.ofList authority)
  else .error (.invalidTarget target)

end Target

end PromiseHttp
