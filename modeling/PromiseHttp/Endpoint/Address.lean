import PromiseHttp.Fault.Io
import PromiseHttp.Text.Numeral

namespace PromiseHttp

/-!
# Addresses

An address is a host of one of the two families and a port.  A text names addresses: it is a
literal, or the name of a host that is looked up, followed by a colon and a port.  A server listens
on this machine only, so it binds a loopback host or the host that stands for all of its own.
-/

/-- A host: four octets, or eight groups of sixteen bits and the number of the scope in which they
are meant.  Scope zero stands for none in particular. -/
inductive Host where
  | v4 (octets : List Nat)
  | v6 (groups : List Nat) (scope : Nat)
  deriving DecidableEq, Repr

/-- A host and a port. -/
structure Address where
  host : Host
  port : Nat
  deriving DecidableEq, Repr

namespace Host

/-- Whether the host is of the older family. -/
def isV4 : Host → Bool
  | v4 _ => true
  | v6 _ _ => false

/-- The loopback host of the older family. -/
def loopbackV4 : Host := .v4 [127, 0, 0, 1]

/-- The loopback host of the newer family. -/
def loopbackV6 : Host := .v6 [0, 0, 0, 0, 0, 0, 0, 1] 0

/-- Whether the host belongs to this machine: a loopback host or the one that stands for all, in
whatever scope. -/
def isOwn : Host → Bool
  | v4 octets => octets.head? == some 127 || octets == [0, 0, 0, 0]
  | v6 groups _ =>
    groups.dropLast.all (· == 0) &&
      (groups.getLast? == some 0 || groups.getLast? == some 1)

/-! ## Literals -/

/-- The value of a run of decimal digits below a bound, if it has any digits. -/
def decimal? (bound : Nat) (text : String) : Option Nat :=
  match Text.digitsValue? text.toList with
  | some value => if value < bound then some value else none
  | none => none

/-- One octet of a literal: at most three digits, without leading zeros. -/
def octet? (text : String) : Option Nat :=
  if 3 < text.length || (1 < text.length && text.startsWith "0") then none else decimal? 256 text

/-- A host of four octets with dots between them. -/
def v4Octets? (text : String) : Option (List Nat) :=
  match (text.splitOn ".").mapM octet? with
  | some octets => if octets.length = 4 then some octets else none
  | none => none

/-- The value of a hexadecimal digit. -/
def hexDigit? (c : Char) : Option Nat :=
  if c.isDigit then some (c.toNat - '0'.toNat)
  else if 'a' ≤ c.toLower && c.toLower ≤ 'f' then some (c.toLower.toNat - 'a'.toNat + 10)
  else none

/-- One group of a literal: one to four hexadecimal digits. -/
def group? (text : String) : Option Nat :=
  if text.isEmpty || 4 < text.length then none
  else (text.toList.mapM hexDigit?).map fun digits =>
    digits.foldl (fun value digit => value * 16 + digit) 0

/-- Groups with colons between them; the last two may be written as four octets. -/
def groups? (text : String) : Option (List Nat) :=
  if text.isEmpty then some []
  else
    let parts := text.splitOn ":"
    match parts.getLast?.bind v4Octets? with
    | some [a, b, c, d] =>
      (parts.dropLast.mapM group?).map (· ++ [a * 256 + b, c * 256 + d])
    | _ => parts.mapM group?

/-- Eight groups, a run of zeros among them possibly left out between two colons.  Only the last
groups of all may be written as octets. -/
def v6Groups? (text : String) : Option (List Nat) :=
  match text.splitOn "::" with
  | [whole] =>
    match groups? whole with
    | some groups => if groups.length = 8 then some groups else none
    | none => none
  | [front, back] =>
    match groups? front, groups? back with
    | some ahead, some behind =>
      if front.toList.contains '.' || 8 ≤ ahead.length + behind.length then none
      else some (ahead ++ List.replicate (8 - ahead.length - behind.length) 0 ++ behind)
    | _, _ => none
  | _ => none

/-- Scopes are below this number. -/
def scopeBound : Nat := UInt32.size

/-- A host of the newer family: its groups, and its scope behind a percent sign if it has one. -/
def v6? (text : String) : Option Host :=
  match text.splitOn "%" with
  | [groups] => (v6Groups? groups).map (.v6 · 0)
  | [groups, scope] =>
    match v6Groups? groups, decimal? scopeBound scope with
    | some groups, some scope => some (.v6 groups scope)
    | _, _ => none
  | _ => none

/-! ## Texts -/

/-- A group in hexadecimal, without leading zeros. -/
def groupText (group : Nat) : String :=
  String.ofList (Nat.toDigits 16 group)

/-- The length of the run of zeros at the front. -/
def zeroRun (groups : List Nat) : Nat :=
  (groups.takeWhile (· == 0)).length

/-- Where the first of the longest runs of zeros begins, and its length. -/
def longestZeroRun (groups : List Nat) : Nat × Nat :=
  (List.range groups.length).foldl (fun best place =>
    let length := zeroRun (groups.drop place)
    if best.2 < length then (place, length) else best) (0, 0)

/-- Groups with colons between them.  The longest run of at least two zeros is left out. -/
def groupsText (groups : List Nat) : String :=
  let (place, length) := longestZeroRun groups
  let join (groups : List Nat) : String := ":".intercalate (groups.map groupText)
  if length < 2 then join groups
  else join (groups.take place) ++ "::" ++ join (groups.drop (place + length))

/-- The literal of a host.  In the newer family it is bracketed and tells the scope unless that is
zero. -/
def text : Host → String
  | v4 octets => ".".intercalate (octets.map Text.numeral)
  | v6 groups scope =>
    let scopeText := if scope = 0 then "" else "%" ++ Text.numeral scope
    "[" ++ groupsText groups ++ scopeText ++ "]"

end Host

/-- A name service: the hosts of a name that it knows, which may be none. -/
abbrev HostNames := String → Option (List Host)

namespace Address

/-- The literal of an address. -/
def text (address : Address) : String :=
  address.host.text ++ ":" ++ Text.numeral address.port

/-- Splits a text at its last colon. -/
def splitPort? (text : String) : Option (String × String) :=
  let reversed := text.toList.reverse
  match reversed.dropWhile (· != ':') with
  | [] => none
  | _ :: host =>
    some (String.ofList host.reverse, String.ofList (reversed.takeWhile (· != ':')).reverse)

/-- The host of a literal, which is bracketed in the newer family. -/
def literalHost? (text : String) : Option Host :=
  if text.startsWith "[" && text.endsWith "]" then
    Host.v6? (String.ofList (text.toList.drop 1).dropLast)
  else (Host.v4Octets? text).map .v4

/-- The address that a literal stands for. -/
def ofLiteral? (text : String) : Option Address :=
  match splitPort? text with
  | none => none
  | some (host, port) =>
    match literalHost? host, Host.decimal? Text.portBound port with
    | some host, some port => some ⟨host, port⟩
    | _, _ => none

/-- The addresses that a text names, in the order in which they are tried. -/
def resolve (names : HostNames) (text : String) : Except IoFault (List Address) :=
  match ofLiteral? text with
  | some address => .ok [address]
  | none =>
    match splitPort? text with
    | none => .error .invalidAddress
    | some (host, port) =>
      match Text.readNumeral Text.portBound port with
      | none => .error .invalidPort
      | some port =>
        match names host with
        | none => .error .unknownHost
        | some found => .ok (found.map (⟨·, port⟩))

/-- The address to listen on: the first of the older family, or else the first. -/
def preferred? (addresses : List Address) : Option Address :=
  (addresses.find? fun address => address.host.isV4).or addresses.head?

/-- Connects to the first of the named addresses at which somebody listens. -/
def reach (names : HostNames) (target : String) (listens : Address → Bool) :
    Except IoFault Unit :=
  match resolve names target with
  | .error fault => .error fault
  | .ok addresses =>
    if addresses.any listens then .ok ()
    else if addresses.isEmpty then .error .namesNothing
    else .error .refused

end Address

end PromiseHttp
