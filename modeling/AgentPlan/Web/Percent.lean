import AgentPlan.Text.Utf8

/-!
# Percent signs

In the parts of a web address a byte that cannot stand for itself is written as a percent sign and
two digits in base 16. Which bytes these are depends on the part.
-/

namespace AgentPlan.Web.Percent

/-! ## Which characters are written so -/

/-- Controls and characters that are not ASCII are written so, everywhere. -/
def always (c : Char) : Bool :=
  c.toNat < 0x20 || 0x7e < c.toNat

/-- Characters that are written so besides these, in a fragment. -/
def inFragment : List Char := [' ', '"', '<', '>', '\x60']

/-- Characters that are written so besides these, in the query of an address. -/
def inQuery : List Char := [' ', '"', '#', '<', '>']

/-- Characters that are written so besides these, in a query that a server for web pages or files
gets. -/
def inServerQuery : List Char := '\'' :: inQuery

/-- Characters that are written so besides these, in a path. -/
def inPath : List Char := inFragment ++ ['#', '?', '\x7b', '\x7d']

/-- Characters that are written so besides these, in the name and the password of a user. -/
def inUser : List Char := inPath ++ ['/', ':', ';', '=', '@', '[', '\\', ']', '^', '|']

/-! ## Writing and reading -/

/-- Two digits in base 16, in capital letters: how a byte is written after a percent sign. -/
def hexPair (b : UInt8) : List Char :=
  [(Nat.digitChar (b.toNat / 16)).toUpper, (Nat.digitChar (b.toNat % 16)).toUpper]

/-- A text with percent signs for some characters, byte by byte of their UTF-8. A percent sign stays
as it is, so a text that is escaped already is not escaped again. -/
def escape (special : List Char) (cs : List Char) : String :=
  String.ofList <| cs.flatMap fun c =>
    if always c || special.contains c then
      (String.utf8EncodeChar c).flatMap fun b => '%' :: hexPair b
    else [c]

/-- The value of a digit in base 16, in either letter case. -/
def hexValue? (c : Char) : Option Nat :=
  if c.isDigit then some (c.toNat - '0'.toNat)
  else if 'a' ≤ c ∧ c ≤ 'f' then some (c.toNat - 'a'.toNat + 10)
  else if 'A' ≤ c ∧ c ≤ 'F' then some (c.toNat - 'A'.toNat + 10)
  else none

/-- The bytes that a text with percent signs stands for. A percent sign without two digits after it
stands for itself. -/
def bytes : List Char → List UInt8
  | '%' :: a :: b :: rest =>
    match hexValue? a, hexValue? b with
    | some x, some y => UInt8.ofNat (x * 16 + y) :: bytes rest
    | _, _ => 0x25 :: bytes (a :: b :: rest)
  | c :: rest => String.utf8EncodeChar c ++ bytes rest
  | [] => []

/-- The text that a text with percent signs stands for, if its bytes are sound UTF-8. -/
def decode? (cs : List Char) : Option String :=
  Text.Utf8.decode? (bytes cs)

end AgentPlan.Web.Percent
