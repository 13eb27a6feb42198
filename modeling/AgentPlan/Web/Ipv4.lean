/-!
# Numbers of hosts with four parts

A host name whose last label is a number stands for the number of a host. It has up to four parts of
which the last one fills what the others leave; a part is written in base 10, in base 8 after a
zero, or in base 16 after `0x`. The one spelling that is used has four parts in base 10.
-/

namespace AgentPlan.Web.Ipv4

/-- The digits of a number and the base that they are written in. A zero by itself is a digit of
base 10. -/
def baseOf (cs : List Char) : Nat × List Char :=
  match cs with
  | '0' :: 'x' :: rest | '0' :: 'X' :: rest => (16, rest)
  | '0' :: c :: rest => (8, c :: rest)
  | cs => (10, cs)

/-- The value of a digit, if it is one in the base. Letters may be in either case. -/
def digit? (base : Nat) (c : Char) : Option Nat :=
  let value :=
    if c.isDigit then c.toNat - '0'.toNat
    else if 'a' ≤ c ∧ c ≤ 'f' then c.toNat - 'a'.toNat + 10
    else if 'A' ≤ c ∧ c ≤ 'F' then c.toNat - 'A'.toNat + 10
    else base
  if value < base then some value else none

/-- The number that a part spells. A base without digits spells zero, and no characters spell no
number. -/
def number? (cs : List Char) : Option Nat :=
  if cs.isEmpty then none
  else
    let (base, digits) := baseOf cs
    (digits.mapM (digit? base)).map fun ds => ds.foldl (fun n d => n * base + d) 0

/-- The parts of a name, without an empty one at the end: one dot may follow the last part. -/
def parts (name : String) : List (List Char) :=
  let ps := (name.splitOn ".").map String.toList
  match ps.reverse with
  | [] :: _ :: _ => ps.dropLast
  | _ => ps

/-- The last part of a name is a number, or consists of digits. Such a name is no domain, even if it
spells no number of a host. -/
def endsInNumber (name : String) : Bool :=
  match (parts name).reverse with
  | last :: _ => (!last.isEmpty && last.all Char.isDigit) || (number? last).isSome
  | [] => false

/-- The number of the host with some parts, at most four: all but the last one fit a byte, and the
last one fits what is left. -/
def value? (ns : List Nat) : Option Nat :=
  let firsts := ns.dropLast
  let room := Nat.pow 256 (4 - firsts.length)
  match ns.getLast? with
  | some last =>
    if ns.length ≤ 4 ∧ firsts.all (· < 256) ∧ last < room then
      some (firsts.foldl (fun n d => n * 256 + d) 0 * room + last)
    else none
  | none => none

/-- The four parts of a number, in base 10 and with dots between them. -/
def text (n : Nat) : String :=
  String.intercalate "." ([16777216, 65536, 256, 1].map fun unit => toString (n / unit % 256))

/-- The number that a name spells, all of whose parts have to be numbers. -/
def ofText? (name : String) : Option Nat := do
  value? (← (parts name).mapM number?)

end AgentPlan.Web.Ipv4
