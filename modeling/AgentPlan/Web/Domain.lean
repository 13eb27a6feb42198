import AgentPlan.Web.Punycode
import AgentPlan.Web.Folding
import AgentPlan.Web.Direction
import AgentPlan.Web.Joining

/-!
# Domains

A domain is a list of labels with dots between them. `ascii?` gives the one spelling of a domain
that is used in a web address, in small letters of ASCII. A label with other characters starts with
`xn--` in this spelling. What cannot stand in a domain has no such spelling.
-/

namespace AgentPlan.Web.Domain

open AgentPlan.Text

/-- The characters in front of a label that stands for one with other characters than ASCII. -/
def mark : List Char := ['x', 'n', '-', '-']

/-- A character of ASCII that cannot stand in a domain: a control, white space, or a sign that has a
meaning elsewhere in an address. -/
def isForbidden (c : Char) : Bool :=
  c.toNat ≤ 0x20 || c.toNat = 0x7f ||
    ['%', '#', '/', ':', '<', '>', '?', '@', '[', '\\', ']', '^', '|'].contains c

/-- A label, and the spelling that it came in if that is ASCII. A label with other characters than
ASCII that came without a mark has no such spelling yet. -/
structure Label where
  characters : List Char
  ascii : Option (List Char)
deriving DecidableEq, Repr

/-- The label may be part of a domain, as far as one can say without the others: it begins with no
mark, and joiners stand where they make a difference. -/
def Label.isSound (l : Label) : Bool :=
  !Joining.startsWithMark l.characters && Joining.joinersFit [] l.characters

/-- The label that has been written with a mark in front, in ASCII. It has other characters, and
there is no other spelling of them. -/
def markedLabel? (written : List Char) : Option Label := do
  guard (written.all Punycode.isBasic)
  let label ← Punycode.decode? (written.drop mark.length)
  guard (!label.all Punycode.isBasic && label.all Folding.isFolded && composed label = label)
  return ⟨label, some written⟩

/-- The label that some characters spell, with a mark in front or not. -/
def label? (cs : List Char) : Option Label :=
  if mark.isPrefixOf cs then markedLabel? cs
  else if cs.all Punycode.isBasic then some ⟨cs, some cs⟩
  else some ⟨cs, none⟩

/-- The spelling of a label in ASCII: the one that it came in, or the mark and what encodes its
characters. -/
def Label.text (l : Label) : String :=
  String.ofList (l.ascii.getD (mark ++ Punycode.encode l.characters))

/-- The pieces of a text between its dots. `current` holds the piece so far, the last character
first. -/
def pieces : (current : List Char) → List Char → List (List Char)
  | current, [] => [current.reverse]
  | current, c :: rest =>
    if c = '.' then current.reverse :: pieces [] rest else pieces (c :: current) rest

/-- The labels may stand together: if a character of one is written from right to left, each of them
runs in one direction. -/
def fitTogether (labels : List Label) : Bool :=
  let backward := labels.any fun l => l.characters.any Direction.isBackward
  !backward || labels.all fun l => Direction.isOneWay l.characters

/-- The spelling of a domain in ASCII, if it is sound. The labels are checked after all characters
are folded and composed. -/
def ascii? (domain : String) : Option String := do
  let cs := composed (← Folding.folded? domain.toList)
  guard (!cs.any isForbidden)
  let labels ← (pieces [] cs).mapM label?
  guard (labels.all Label.isSound && fitTogether labels)
  return String.intercalate "." (labels.map Label.text)

end AgentPlan.Web.Domain
