import NodeAdmin.Domain.Reading
import NodeAdmin.Url.Basic
import NodeAdmin.Url.Percent

/-!
# Hosts

A host is an IPv6 address in brackets, an IPv4 address if its last label is a
number, and otherwise a domain.
-/

namespace NodeAdmin.Url

/-- The domain that a host stands for. -/
def domain? (host : List Char) : Except Problem (List Char) :=
  match Domain.written? (Text.decodeLossy (percentDecode host)) with
  | some domain => .ok domain
  | none => .error .invalidDomain

/-- The IPv6 address after an opening bracket. -/
def bracketed? (text : List Char) : Except Problem Host :=
  match text.getLast? with
  | some ']' =>
      match ipv6? text.dropLast with
      | some pieces => .ok (.ipv6 pieces)
      | none => .error .invalidIpv6
  | _ => .error .invalidIpv6

/-- The host of a text. -/
def host? (text : List Char) : Except Problem Host :=
  match text with
  | [] => .error .emptyHost
  | '[' :: rest => bracketed? rest
  | _ => do
      let domain ← domain? text
      if domain.isEmpty then .error .emptyHost
      else if endsInNumber domain then
        match ipv4? domain with
        | some address => .ok (.ipv4 address)
        | none => .error .invalidIpv4
      else .ok (.domain (String.ofList domain))

end NodeAdmin.Url
