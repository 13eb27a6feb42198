import AgentPlan.Web.Ipv4
import AgentPlan.Web.Percent

/-!
# Numbers of hosts with eight parts

The number of a host in brackets: eight parts in base 16 with colons between them. Two colons stand
for parts that are zero, once, and the last two parts may be written as four in base 10. The one
spelling that is used leaves out the first longest run of at least two zeros.
-/

namespace AgentPlan.Web.Ipv6

/-- The number below 65536 that up to four digits in base 16 spell. -/
def part? (cs : List Char) : Option Nat :=
  if cs.isEmpty ∨ 4 < cs.length then none
  else (cs.mapM Percent.hexValue?).map fun ds => ds.foldl (fun n d => n * 16 + d) 0

/-- The number below 256 that digits spell, without a zero in front. -/
def byte? (cs : List Char) : Option Nat :=
  if cs.isEmpty ∨ ¬cs.all Char.isDigit ∨ (1 < cs.length ∧ cs.head? = some '0') then none
  else
    let n := cs.foldl (fun n c => n * 10 + (c.toNat - '0'.toNat)) 0
    if n < 256 then some n else none

/-- The two parts that four bytes in base 10 spell, with dots between them. -/
def lastParts? (cs : List Char) : Option (List Nat) := do
  match ← ((String.ofList cs).splitOn ".").mapM fun p => byte? p.toList with
  | [a, b, c, d] => return [a * 256 + b, c * 256 + d]
  | _ => none

/-- The pieces of a text between its colons. -/
def pieces (cs : List Char) : List (List Char) :=
  ((String.ofList cs).splitOn ":").map String.toList

/-- The parts that some pieces spell, the last of which may be four bytes in base 10 where the
number ends. -/
def partsOf? (atEnd : Bool) : List (List Char) → Option (List Nat)
  | [] => some []
  | [p] => match part? p with
    | some n => some [n]
    | none => if atEnd then lastParts? p else none
  | p :: rest => do return (← part? p) :: (← partsOf? atEnd rest)

/-- The parts that some characters spell on one side of two colons; there may be none. -/
def side? (atEnd : Bool) (cs : List Char) : Option (List Nat) :=
  if cs.isEmpty then some [] else partsOf? atEnd (pieces cs)

/-- The characters before the first two colons, and those after them. `before` holds the characters
already passed, the last one first. -/
def atGap (before : List Char) : List Char → Option (List Char × List Char)
  | ':' :: ':' :: rest => some (before.reverse, rest)
  | c :: rest => atGap (c :: before) rest
  | [] => none

/-- The eight parts that some characters spell. Two colons leave out at least one part. -/
def ofText? (cs : List Char) : Option (List Nat) := do
  match atGap [] cs with
  | none =>
    let ns ← partsOf? true (pieces cs)
    guard (ns.length = 8)
    return ns
  | some (left, right) =>
    let left ← side? false left
    let right ← side? true right
    guard (left.length + right.length ≤ 7)
    return left ++ List.replicate (8 - left.length - right.length) 0 ++ right

/-! ## Writing -/

/-- The number of zeros in front: the length of the run that starts here. -/
def zeros (ns : List Nat) : Nat :=
  (ns.takeWhile (· = 0)).length

/-- The place and the length of the first longest run of zeros, if it has at least two. -/
def gap? (ns : List Nat) : Option (Nat × Nat) :=
  (List.range ns.length).foldl (fun best i =>
    let length := zeros (ns.drop i)
    match best with
    | some (_, longest) => if longest < length then some (i, length) else best
    | none => if 2 ≤ length then some (i, length) else none) none

/-- Parts in base 16, with colons between them and without zeros in front of a part. -/
def joined (ns : List Nat) : String :=
  String.intercalate ":" (ns.map fun n => String.ofList (Nat.toDigits 16 n))

/-- The text of a number, in which two colons stand for the first longest run of zeros. -/
def text (ns : List Nat) : String :=
  match gap? ns with
  | some (place, length) => joined (ns.take place) ++ "::" ++ joined (ns.drop (place + length))
  | none => joined ns

end AgentPlan.Web.Ipv6
