import AgentPlan.Web.Domain
import AgentPlan.Web.Ipv6

/-!
# Hosts

The host in a web address: a domain, a number, or, in addresses whose scheme has no rules of its
own, any name.
-/

namespace AgentPlan.Web

/-- A host. The texts are in the spelling that is used in an address, and an opaque name may be
empty. -/
inductive Host where
  | domain (name : String)
  | ipv4 (number : Nat)
  | ipv6 (parts : List Nat)
  | opaqueName (name : String)
deriving DecidableEq, Repr

namespace Host

/-- The text of a host, with brackets around a number of eight parts. -/
def text : Host → String
  | .domain name | .opaqueName name => name
  | .ipv4 n => Ipv4.text n
  | .ipv6 ns => "[" ++ Ipv6.text ns ++ "]"

/-- The number between brackets, the first of which is already read. -/
def bracketed? (cs : List Char) : Option Host :=
  if cs.getLast? = some ']' then (Ipv6.ofText? cs.dropLast).map .ipv6 else none

/-- The host that some characters spell, where percent signs are resolved. A name whose last label
is a number has to be a number of four parts. -/
def ofText? : List Char → Option Host
  | '[' :: rest => bracketed? rest
  | cs => do
    let name ← Domain.ascii? (← Percent.decode? cs)
    guard (!name.isEmpty)
    if Ipv4.endsInNumber name then return .ipv4 (← Ipv4.ofText? name) else return .domain name

/-- A character that cannot stand in an opaque name. Percent signs can, and stay as they are. -/
def isForbidden (c : Char) : Bool :=
  ['\x00', '\t', '\n', '\r', ' ', '#', '/', ':', '<', '>', '?', '@', '[', '\\', ']', '^',
    '|'].contains c

/-- The host that some characters spell, where percent signs stay. It is a name even if it looks
like a number of four parts. -/
def opaqueOfText? : List Char → Option Host
  | '[' :: rest => bracketed? rest
  | cs => if cs.any isForbidden then none else some (.opaqueName (Percent.escape [] cs))

end Host

end AgentPlan.Web
