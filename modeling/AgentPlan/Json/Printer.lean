import AgentPlan.Json.Value
import AgentPlan.Binary.Shortest

/-!
# Printed values

JSON texts of values: `compact` puts nothing between the tokens, `pretty` puts every item and member
on a line of its own, indented by two spaces for each level. Members are printed in the order in
which the object holds them. Integers are printed by their digits, floats by their shortest digits,
with a decimal point where that is short and with a power of ten elsewhere.
-/

namespace AgentPlan.Json

/-! ## Numbers -/

/-- How 64-bit floats are printed: with a point down to `0.00001` and below `10 ^ 16`, and with a
power of ten elsewhere. A whole number ends in `.0`, so that it is read back as a float. -/
def doubleLayout : Binary.Layout := ⟨some (-5, 15), true, true, .even⟩

/-- How 32-bit floats are printed: with a point down to `0.000001` and below `10 ^ 13`, and with a
power of ten elsewhere. -/
def singleLayout : Binary.Layout := ⟨some (-6, 12), true, true, .even⟩

/-- The text of a 64-bit float: the shortest digits that are read back as the same float, laid out
by `doubleLayout`. -/
def doubleText (b : Binary) : String :=
  doubleLayout.text .double b

/-- The text of a 32-bit float: the shortest digits that tell it from its neighbours of 32 bits. -/
def singleText (b : Binary) : String :=
  singleLayout.text .single b

/-- The text of the result of a 32-bit operation: null if it is not finite, since JSON has no word
for such a number. -/
def singleOrNull : Binary.Extended → String
  | .finite b => singleText b
  | _ => "null"

/-- The text of a number. An integer has its digits and no point, so that it is read back as an
integer. -/
def Number.text : Number → String
  | .int i => toString i
  | .float b => doubleText b

/-! ## Strings and values -/

/-- A character inside the quotes of a string. Quotes, backslashes and controls are escaped, the
latter by a letter where there is one; any other character stands for itself, also one that is not
ASCII. -/
def escapedChar (c : Char) : String :=
  if c = '"' then "\\\""
  else if c = '\\' then "\\\\"
  else if c = '\x08' then "\\b"
  else if c = '\x0c' then "\\f"
  else if c = '\n' then "\\n"
  else if c = '\r' then "\\r"
  else if c = '\t' then "\\t"
  else if c.toNat < 0x20 then
    "\\u00" ++ String.ofList [Nat.digitChar (c.toNat / 16), Nat.digitChar (c.toNat % 16)]
  else c.toString

/-- A string with its quotes, as it stands in a JSON text. -/
def stringText (s : String) : String :=
  "\"" ++ String.join (s.toList.map escapedChar) ++ "\""

mutual

/-- The text of a value without white space. This is the form in which a draft goes to a
repairer. -/
def compact : Json → String
  | .null => "null"
  | .bool b => toString b
  | .num n => n.text
  | .str s => stringText s
  | .arr items => "[" ++ compactItems items ++ "]"
  | .obj members => "\x7b" ++ compactMembers members ++ "\x7d"

/-- The items of an array with commas between them, without the brackets. -/
def compactItems : List Json → String
  | [] => ""
  | [v] => compact v
  | v :: rest => compact v ++ "," ++ compactItems rest

/-- The members of an object with commas between them, without the braces. -/
def compactMembers : List (String × Json) → String
  | [] => ""
  | [(k, v)] => stringText k ++ ":" ++ compact v
  | (k, v) :: rest => stringText k ++ ":" ++ compact v ++ "," ++ compactMembers rest

end

/-- The text of a record, without white space, from the names and the texts of its members. It
serves records with members that are no JSON values, such as 32-bit floats. -/
def recordText (members : List (String × String)) : String :=
  "\x7b" ++ String.intercalate "," (members.map fun m => stringText m.1 ++ ":" ++ m.2) ++ "\x7d"

/-- A line break and the indentation of a level, two spaces for each. A line break in a pretty text
is always one of these. -/
def newLine (level : Nat) : String :=
  "\n" ++ "".pushn ' ' (2 * level)

mutual

/-- The text of a value that stands on the given level. An empty array or object stays on its
line. -/
def prettyAt (level : Nat) : Json → String
  | .null => "null"
  | .bool b => toString b
  | .num n => n.text
  | .str s => stringText s
  | .arr [] => "[]"
  | .arr (v :: rest) =>
    "[" ++ newLine (level + 1) ++ prettyAt (level + 1) v ++ prettyItems (level + 1) rest ++
      newLine level ++ "]"
  | .obj [] => "\x7b\x7d"
  | .obj ((k, v) :: rest) =>
    "\x7b" ++ newLine (level + 1) ++ stringText k ++ ": " ++ prettyAt (level + 1) v ++
      prettyMembers (level + 1) rest ++ newLine level ++ "\x7d"

/-- The items after the first one, each after a comma and on a line of its own. -/
def prettyItems (level : Nat) : List Json → String
  | [] => ""
  | v :: rest => "," ++ newLine level ++ prettyAt level v ++ prettyItems level rest

/-- The members after the first one, each after a comma and on a line of its own. -/
def prettyMembers (level : Nat) : List (String × Json) → String
  | [] => ""
  | (k, v) :: rest =>
    "," ++ newLine level ++ stringText k ++ ": " ++ prettyAt level v ++ prettyMembers level rest

end

/-- The text of a value on several lines. This is the form of values in a prompt. -/
def pretty (v : Json) : String :=
  prettyAt 0 v

end AgentPlan.Json
