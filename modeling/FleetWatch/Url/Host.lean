import FleetWatch.Url.Escape
import FleetWatch.Url.Idna.Domain
import FleetWatch.Url.Ipv4
import FleetWatch.Url.Ipv6

/-!
# Hosts

A host is a domain name, an address, or, for schemes without rules of their own, an opaque text.
-/

namespace FleetWatch

inductive Host where
  | domain (name : String)
  | ipv4 (address : Nat)
  | ipv6 (pieces : List Nat)
  | opaqueText (name : String)
deriving DecidableEq, Repr

namespace Host

/-- The text between the brackets of an IPv6 host; none if it does not begin with a bracket. -/
def bracketed? : List Char → Option (Option (List Char))
  | '[' :: cs => some (if cs.getLast? == some ']' then some cs.dropLast else none)
  | _ => none

def parseBracketed (inner : Option (List Char)) : Except UrlError Host :=
  match inner with
  | some cs => (Ipv6.parse cs).map .ipv6
  | none => .error .invalidIpv6

def parse (cs : List Char) : Except UrlError Host :=
  match bracketed? cs with
  | some inner => parseBracketed inner
  | none =>
    match Idna.toAscii (Percent.decode (Utf8.encode (String.ofList cs))) with
    | none => .error .invalidDomain
    | some [] => .error .emptyHost
    | some name =>
      if Ipv4.endsInNumber name then (Ipv4.parse name).map .ipv4
      else .ok (.domain (String.ofList name))

def isForbidden (c : Char) : Bool :=
  c.toNat == 0 || "\t\n\r #/:<>?@[\\]^|".toList.contains c

def parseOpaque (cs : List Char) : Except UrlError Host :=
  match bracketed? cs with
  | some inner => parseBracketed inner
  | none =>
    if cs.any isForbidden then .error .forbiddenHostCharacter
    else .ok (.opaqueText (String.ofList (Percent.encode (fun _ => false) cs)))

end Host
end FleetWatch
