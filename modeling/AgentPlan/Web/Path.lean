import AgentPlan.Web.Percent

/-!
# Paths

The path in a web address: steps with slashes between them. A step `.` stays where it is, and a step
`..` goes back, but not past a step that looks like the name of a drive. Both are resolved
(`resolve`), also in their spellings with percent signs.
-/

namespace AgentPlan.Web.Path

/-- A step that stays where it is: a dot, also in its spelling with a percent sign. -/
def isHere (step : String) : Bool :=
  step == "." || step.toLower == "%2e"

/-- A step that goes back: two dots, each also in its spelling with a percent sign. -/
def isUp (step : String) : Bool :=
  ["..", ".%2e", "%2e.", "%2e%2e"].contains step.toLower

/-- A step that looks like the name of a drive: a letter and a colon or a bar. -/
def isDrive (step : String) : Bool :=
  match step.toList with
  | [letter, mark] => letter.isAlpha && (mark == ':' || mark == '|')
  | _ => false

/-- The steps before after a step back. The last one comes first. From the root, and from a drive,
there is no way back. -/
def back : List String → List String
  | [] => []
  | last :: rest => if isDrive last then last :: rest else rest

/-- Resolves the steps that stay or go back. `before` holds the steps before, the last one first. A
path that ends in such a step ends in a slash. -/
def resolve (before : List String) : List String → List String
  | [] => before.reverse
  | [s] =>
    if isUp s then ("" :: back before).reverse
    else if isHere s then ("" :: before).reverse
    else (s :: before).reverse
  | s :: rest =>
    if isUp s then resolve (back before) rest
    else if isHere s then resolve before rest
    else resolve (s :: before) rest

/-- The pieces of a path between its slashes; backslashes count as slashes or not. `current` holds
the piece so far, the last character first. -/
def pieces (backslashes : Bool) : (current : List Char) → List Char → List (List Char)
  | current, [] => [current.reverse]
  | current, c :: rest =>
    if c = '/' ∨ (backslashes ∧ c = '\\') then current.reverse :: pieces backslashes [] rest
    else pieces backslashes (c :: current) rest

/-- The steps of a path, resolved and with percent signs for what cannot stand in a path. -/
def steps (backslashes : Bool) (cs : List Char) : List String :=
  resolve [] ((pieces backslashes [] cs).map (Percent.escape Percent.inPath))

/-- The text of some steps, each after a slash. -/
def text (steps : List String) : String :=
  "/" ++ String.intercalate "/" steps

/-! ## Paths of files -/

/-- The name of a drive with a colon, where it may have been written with a bar. -/
def driveName (step : String) : String :=
  String.ofList (step.toList.take 1 ++ [':'])

/-- The characters after a slash or a backslash in front, if there is one. -/
def afterSlash : List Char → List Char
  | c :: rest => if c = '/' ∨ c = '\\' then rest else c :: rest
  | [] => []

/-- The steps of the path of a file. If the first one is a drive it is written with a colon. -/
def fileSteps (cs : List Char) : List String :=
  match steps true (afterSlash cs) with
  | first :: rest => if isDrive first then driveName first :: rest else first :: rest
  | [] => []

/-- The path starts with a drive. Such a file is on this computer. -/
def hasDrive (steps : List String) : Bool :=
  steps.head?.any isDrive

/-- The text of the steps of a file, without empty ones in front. -/
def fileText (steps : List String) : String :=
  text (steps.dropWhile String.isEmpty)

end AgentPlan.Web.Path
