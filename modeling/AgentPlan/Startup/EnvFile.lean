import AgentPlan.Text.Basic
import AgentPlan.Text.Property

/-!
# Files of variables

A file that gives values to variables, one a line: `NAME=value`, with white space where one likes,
perhaps with `export` in front, and with a comment after a number sign. A value may stand in quotes,
in parts; a backslash takes the special meaning from the next character, except between single
quotes; a dollar sign with a name, in braces or not, stands for the value of a variable, except
between single quotes. A line goes on after a line break in quotes (`logicalLines`). Reading stops
at a line that is not of this form.
-/

namespace AgentPlan.Startup

/-! ## Lines -/

/-- The characters between line breaks, each with the line break after it. `current` holds the line
so far, the last character first. -/
def physicalLines : (current : List Char) → List Char → List (List Char)
  | [], [] => []
  | current, [] => [current.reverse]
  | current, c :: rest =>
    if c = '\n' then (c :: current).reverse :: physicalLines [] rest
    else physicalLines (c :: current) rest

/-- What a line is cut by: nothing special, white space, a backslash, or quotes, with a backslash or
not. A backslash counts in both kinds of quotes here. -/
inductive Cutting where
  | plain
  | blank
  | escape
  | single
  | singleEscape
  | double
  | doubleEscape
deriving DecidableEq, Repr

/-- What counts after a character that is not in quotes and follows no backslash. -/
def Cutting.afterPlain (c : Char) : Cutting :=
  if c = '\\' then .escape
  else if c = '"' then .double
  else if c = '\'' then .single
  else .plain

/-- What counts after a character, given what counted before it. A line break is not white space
here. -/
def Cutting.after : Cutting → Char → Cutting
  | .plain, c =>
    if Text.isBlank c ∧ c ≠ '\n' ∧ c ≠ '\r' then .blank else .afterPlain c
  | .blank, c => .afterPlain c
  | .escape, _ => .plain
  | .single, c => if c = '\\' then .singleEscape else if c = '\'' then .plain else .single
  | .singleEscape, _ => .single
  | .double, c => if c = '\\' then .doubleEscape else if c = '"' then .plain else .double
  | .doubleEscape, _ => .double

/-- The characters of a line before a comment, and what counts at its end if there is none. A
comment starts with a number sign after white space. -/
def beforeComment : Cutting → List Char → List Char × Option Cutting
  | cutting, [] => ([], some cutting)
  | cutting, c :: rest =>
    if cutting = .blank ∧ c = '#' then ([], none)
    else
      let (before, result) := beforeComment (cutting.after c) rest
      (c :: before, result)

/-- A line is a comment: its first character that is not blank is a number sign. -/
def isComment (cs : List Char) : Bool :=
  (cs.dropWhile Text.isBlank).head? == some '#'

/-- The lines that give values to variables, without comments. `held` holds the beginning of a line
that is not at its end yet. A file that ends in quotes, after a backslash or after white space ends
in a line that is none. -/
def logicalLines (cutting : Cutting) (held : List Char) :
    List (List Char) → List (Option (List Char))
  | [] => if cutting = .plain then [] else [none]
  | line :: rest =>
    if isComment (held ++ line) then logicalLines .plain [] rest
    else match beforeComment cutting line with
      | (before, none) => some (held ++ before) :: logicalLines .plain [] rest
      | (_, some .plain) => some (held ++ line) :: logicalLines .plain [] rest
      | (_, some cutting) => logicalLines cutting (held ++ line) rest

/-! ## Values -/

/-- The character that a backslash and a character stand for. Other characters must not follow a
backslash. -/
def escapedChar? (c : Char) : Option Char :=
  if c = 'n' then some '\n'
  else if c ∈ ['\\', '\'', '"', '$', ' '] then some c
  else none

/-- A letter or a number, which can stand in the name of a variable after a dollar sign. Underscores
end such a name. -/
def isNameChar (c : Char) : Bool :=
  Text.within Text.alphanumeric c.toNat

/-- Where a character of a value stands: outside of quotes or in them, after a backslash, in a name
after a dollar sign, in braces or not, or after the value. Except in single quotes and after the
value, `quoted` says whether double quotes are open. -/
inductive Spot where
  | open (quoted : Bool)
  | single
  | escaped (quoted : Bool)
  | named (quoted : Bool) (name : String)
  | braced (quoted : Bool) (name : String)
  | done
deriving DecidableEq, Repr

/-- The value that some characters spell, where `lookup` knows the values of variables. The
character that ends a name without braces belongs to the value, even if it is a quote. -/
def value? (lookup : String → String) : Spot → List Char → Option (List Char)
  | spot, [] =>
    match spot with
    | .open false | .escaped false | .done => some []
    | .named false name => some (lookup name).toList
    | _ => none
  | .done, c :: rest =>
    if c = ' ' ∨ c = '\t' then value? lookup .done rest
    else if c = '#' then some []
    else none
  | .escaped quoted, c :: rest => do
    return (← escapedChar? c) :: (← value? lookup (.open quoted) rest)
  | .single, c :: rest =>
    if c = '\'' then value? lookup (.open false) rest
    else (value? lookup .single rest).map (c :: ·)
  | .named quoted name, c :: rest =>
    if isNameChar c then value? lookup (.named quoted (name.push c)) rest
    else if c = '\x7b' ∧ name = "" then value? lookup (.braced quoted "") rest
    else if c = '$' then
      (value? lookup (.named quoted "") rest).map ((lookup name).toList ++ ·)
    else (value? lookup (.open quoted) rest).map ((lookup name).toList ++ c :: ·)
  | .braced quoted name, c :: rest =>
    if c = '\x7d' then (value? lookup (.open quoted) rest).map ((lookup name).toList ++ ·)
    else value? lookup (.braced quoted (name.push c)) rest
  | .open quoted, c :: rest =>
    if c = '$' then value? lookup (.named quoted "") rest
    else if c = '\\' then value? lookup (.escaped quoted) rest
    else if c = '"' then value? lookup (.open !quoted) rest
    else if quoted then (value? lookup (.open true) rest).map (c :: ·)
    else if c = '\'' then value? lookup .single rest
    else if c = ' ' ∨ c = '\t' then value? lookup .done rest
    else (value? lookup (.open false) rest).map (c :: ·)

/-! ## Assignments -/

/-- A name at the start of some characters, and what follows. It begins with a letter of ASCII or an
underscore. -/
def name? (cs : List Char) : Option (String × List Char) :=
  let (name, rest) := cs.span fun c => c.isAlphanum || c == '_' || c == '.'
  match name with
  | first :: _ =>
    if first.isAlpha || first == '_' then some (String.ofList name, rest) else none
  | [] => none

/-- What follows an equals sign, which may stand after white space. White space after it is dropped,
too. -/
def afterEquals? (cs : List Char) : Option (List Char) :=
  match cs.dropWhile Text.isBlank with
  | '=' :: rest => some (rest.dropWhile Text.isBlank)
  | _ => none

/-- The name that a line gives a value to, and what follows the equals sign. `export` in front of
the name is passed over; a variable may itself have that name. -/
def assigned? (cs : List Char) : Option (String × List Char) := do
  let (name, rest) ← name? cs
  match afterEquals? rest with
  | some value => return (name, value)
  | none =>
    guard (name = "export")
    let (name, rest) ← name? (rest.dropWhile Text.isBlank)
    return (name, ← afterEquals? rest)

/-- The variable and the value of a line that has some. Right after the equals sign a number sign
starts a comment, so that the value is empty. -/
def assignment? (lookup : String → String) (cs : List Char) : Option (String × String) := do
  let (name, rest) ← assigned? cs
  let value ← if rest.head? = some '#' then some [] else value? lookup (.open false) rest
  return (name, String.ofList value)

/-- The values of variables: those of the environment, and those of a file for variables that the
environment does not have. The first value for a variable counts. -/
def merged (environment : String → Option String) (file : List (String × String)) :
    String → Option String :=
  fun name => (environment name).or ((file.find? fun a => a.1 = name).map Prod.snd)

/-- The variables that some lines give values to, after those of the lines before. A variable
without a value stands for nothing. Reading stops at the first line that is not sound. -/
def assignments (environment : String → Option String) (before : List (String × String)) :
    List (Option (List Char)) → List (String × String)
  | [] | none :: _ => before
  | some line :: rest =>
    match Text.trimChars line with
    | [] | '#' :: _ => assignments environment before rest
    | cs =>
      match assignment? (fun name => (merged environment before name).getD "") cs with
      | some a => assignments environment (before ++ [a]) rest
      | none => before

/-- A text without a mark in front that says how it is written. -/
def withoutMark : List Char → List Char
  | '\uFEFF' :: rest => rest
  | cs => cs

/-- The variables that a file gives values to, in an environment, in the order of the file.
Reference: the call of `dotenv` in `main`. -/
def readFile (environment : String → Option String) (text : String) : List (String × String) :=
  assignments environment [] (logicalLines .plain [] (physicalLines [] (withoutMark text.toList)))

end AgentPlan.Startup
