import Pipescript.Domain.Basic
import Pipescript.Host.Ipv6
import Pipescript.Uri.Percent

/-!
# Hosts

A host is written in normal form: an address of eight groups in brackets, and on the web an address
of four bytes or a domain name in ASCII characters.  Schemes that are not of the web leave every
other host as it is.
-/

namespace Pipescript

/-- Why a text is no host. -/
inductive HostError where
  | empty
  /-- A host of the web is neither an address nor a domain name. -/
  | badName
  /-- Another host holds a character that separates the parts of a URI. -/
  | badCharacter
  | badIpv4
  | badIpv6
  deriving DecidableEq, Repr

namespace HostError

def message : HostError → String
  | empty => "empty host"
  | badName => "invalid international domain name"
  | badCharacter => "invalid domain character"
  | badIpv4 => "invalid IPv4 address"
  | badIpv6 => "invalid IPv6 address"

end HostError

namespace Host

/-- The normal form of an address that begins with a bracket. -/
def bracketed (host : Text) : Except HostError Text :=
  let inside := (host.drop 1).dropLast
  match if host.getLast? = some ']' then Ipv6Address.ofText? inside else none with
  | some address => .ok ('[' :: address.text ++ [']'])
  | none => .error .badIpv6

/-- The normal form of a host of the web. -/
def ofWeb (host : Text) : Except HostError Text :=
  if host.head? = some '[' then bracketed host
  else
    match (Text.ofUtf8? (percentDecode host)).bind writtenDomain? with
    | none => .error .badName
    | some name =>
        if name.isEmpty then .error .empty
        else if Ipv4Address.isNamedBy name then
          match Ipv4Address.ofName? name with
          | some address => .ok address.text
          | none => .error .badIpv4
        else
          .ok name

/-- The characters that no host may hold. -/
def exclusions : List Char :=
  ['\x00', ' ', '#', '/', ':', '<', '>', '?', '@', '[', '\\', ']', '^', '|']

/-- The normal form of a host that is not of the web. -/
def ofOther (host : Text) : Except HostError Text :=
  if host.head? = some '[' then bracketed host
  else if host.any exclusions.contains then .error .badCharacter
  else .ok (percentEncode isControlOrWide host)

end Host

end Pipescript
