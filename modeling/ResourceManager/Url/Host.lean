import ResourceManager.Url.Domain
import ResourceManager.Url.Ipv6

/-!
# Hosts

The host of a URL in normal form.  In a scheme whose URLs name a host it is an address or a domain
name; elsewhere it is an address between brackets or any text without a few characters.
-/

set_option autoImplicit false

namespace ResourceManager
namespace Url

/-- The text between brackets. -/
def bracketed? : List Char → Option (List Char)
  | '[' :: rest => if rest.getLast? = some ']' then some rest.dropLast else none
  | _ => none

/-- A host that begins with a bracket. -/
def ipv6Host (text : List Char) : Except UrlError (List Char) :=
  match (bracketed? text).bind Ipv6.ofText? with
  | some groups => .ok ('[' :: (Ipv6.text groups ++ [']']))
  | none => .error .invalidIpv6

/-- A host that is an address or a domain name. -/
def networkHost (text : List Char) : Except UrlError (List Char) :=
  if text.head? = some '[' then ipv6Host text
  else
    match (Utf8.decode? (Percent.decode text)).bind Domain.normalize? with
    | none => .error .invalidDomain
    | some domain =>
      if domain = [] then .error .emptyHost
      else if Ipv4.isCandidate domain then
        match Ipv4.ofHost? domain with
        | some address => .ok (Ipv4.text address)
        | none => .error .invalidIpv4
      else .ok domain

/-- The characters that no host of another scheme has. -/
def isForbiddenInHost (c : Char) : Bool :=
  c == '\x00' || c == '\t' || c == '\n' || c == '\r' || c == ' ' || c == '#' || c == '/' ||
    c == ':' || c == '<' || c == '>' || c == '?' || c == '@' || c == '[' || c == '\\' ||
    c == ']' || c == '^' || c == '|'

/-- A host that is not looked into. -/
def opaqueHost (text : List Char) : Except UrlError (List Char) :=
  if text.head? = some '[' then ipv6Host text
  else if text.any isForbiddenInHost then .error .invalidHostCharacter
  else .ok (Percent.encode isNotControl text)

/-- A host of the given kind of scheme. -/
def normalHost (kind : SchemeKind) (text : List Char) : Except UrlError (List Char) :=
  if kind.isSpecial then networkHost text else opaqueHost text

end Url
end ResourceManager
