import AgentPlan.Text.Basic
import AgentPlan.Text.Property
import AgentPlan.Text.Number

/-!
# Filters of the log

Which lines a log shows. A filter is a list of directives between commas: a level, the name of a
part of the program, or a name and a level with an equals sign between them. A name stands for every
part whose name starts with it, and with all levels if it has none. In brackets a directive may name
a span of time, and in braces there a field. Of the directives for a line the most special one
counts: the one with the longest name, and of these one with a field.
-/

namespace AgentPlan.Startup

/-- How much is shown: from nothing to everything. Each shows what those before it show. -/
inductive Verbosity where
  | off
  | error
  | warn
  | info
  | debug
  | trace
deriving DecidableEq, Repr

namespace Verbosity

/-- The number of levels that are shown. A line of a level is shown when the number of its level is
at most this. -/
def rank : Verbosity → Nat
  | .off => 0
  | .error => 1
  | .warn => 2
  | .info => 3
  | .debug => 4
  | .trace => 5

/-- The verbosity with a number of levels. -/
def ofRank? : Nat → Option Verbosity
  | 0 => some .off
  | 1 => some .error
  | 2 => some .warn
  | 3 => some .info
  | 4 => some .debug
  | 5 => some .trace
  | _ => none

/-- The verbosity that a word names or numbers. Letter case does not matter, and an empty word shows
errors. -/
def ofWord? (word : String) : Option Verbosity :=
  match Text.unsigned 6 word with
  | .ok rank => ofRank? rank
  | .error _ =>
    match word.toLower with
    | "" | "error" => some .error
    | "off" => some .off
    | "warn" => some .warn
    | "info" => some .info
    | "debug" => some .debug
    | "trace" => some .trace
    | _ => none

end Verbosity

/-- A field that a line or a span has to have, perhaps with a value. A directive that asks for a
value is not about lines outside of spans. -/
structure FieldTest where
  name : String
  hasValue : Bool
deriving DecidableEq, Repr

/-- How much is shown of the parts whose names start with `part`, in a span, of what has a field.
What is absent is not asked for. -/
structure Directive where
  part : Option String
  span : Option String
  field : Option FieldTest
  verbosity : Verbosity
deriving DecidableEq, Repr

namespace Directive

/-! ## Spelling -/

/-- A character that a directive can start with, other than a bracket. -/
def canStart (c : Char) : Bool :=
  c == '-' || c == ':' || c == '_' || Text.within Text.alphanumeric c.toNat

/-- The characters from one place up to, but not including, another one. -/
def piece (cs : List Char) (start stop : Nat) : String :=
  String.ofList ((cs.drop start).take (stop - start))

/-- The first place from `start` on with one of the given characters, and which of them it is. -/
def findFrom (cs marks : List Char) (start : Nat) : Option (Nat × Char) := do
  let steps := ((cs.drop start).takeWhile fun c => !marks.contains c).length
  return (start + steps, ← cs[start + steps]?)

/-- The verbosity after the equals sign at a place, everything if there is no word. A word that
names no level makes the directive unsound. -/
def levelFrom? (cs : List Char) (start : Nat) : Option Verbosity :=
  match cs.drop start with
  | [] => some .trace
  | word => Verbosity.ofWord? (String.ofList word)

/-- The verbosity after a closing bracket: everything, or what an equals sign is followed by. -/
def afterBracket? (cs trimmed : List Char) (start : Nat) : Option Verbosity :=
  match trimmed[start]? with
  | none => some .trace
  | some c => if c = '=' then levelFrom? cs (start + 1) else none

/-- The field that some characters in braces ask for: a name, perhaps with an equals sign and a
value. -/
def fieldTest? (s : String) : Option FieldTest :=
  if s.isEmpty then none
  else
    let (name, value) := s.toList.span fun c => c ≠ '='
    some ⟨String.ofList name, !value.isEmpty⟩

/-- The directive whose bracket opens before place `start`. A span comes first, then perhaps a field
in braces. -/
def inBracket? (cs trimmed : List Char) (part : Option String) (start : Nat) :
    Option Directive := do
  let (stop, mark) ← findFrom trimmed [']', '\x7b'] start
  let span := piece cs start stop
  if mark = ']' then
    return ⟨part, some span, none, ← afterBracket? cs trimmed (stop + 1)⟩
  else
    let (fieldStop, _) ← findFrom trimmed ['\x7d'] (stop + 1)
    let field ← fieldTest? (piece cs (stop + 1) fieldStop)
    guard (trimmed[fieldStop + 1]? = some ']')
    return ⟨part, if span.isEmpty then none else some span, some field,
      ← afterBracket? cs trimmed (fieldStop + 2)⟩

/-- The directive that a text spells. Its marks are looked for without the white space around it,
and its words are taken at the places so found from the text as it is. -/
def ofText? (s : String) : Option Directive := do
  let cs := s.toList
  let trimmed := Text.trimChars cs
  let first ← trimmed.head?
  if first = '[' then inBracket? cs trimmed none 1
  else
    guard (canStart first)
    match findFrom trimmed ['=', '['] 0 with
    | none =>
      match Verbosity.ofWord? s with
      | some v => return ⟨none, none, none, v⟩
      | none => return ⟨some s, none, none, .trace⟩
    | some (stop, mark) =>
      let part := some (piece cs 0 stop)
      if mark = '=' then return ⟨part, none, none, ← levelFrom? cs (stop + 1)⟩
      else inBracket? cs trimmed part (stop + 1)

/-! ## Meaning -/

/-- The directive says something about lines outside of all spans: it names no span, and asks for no
value. -/
def concernsLines (d : Directive) : Bool :=
  d.span.isNone && d.field.all fun f => !f.hasValue

/-- The directive is about lines of a part with the given fields. Names of parts are compared from
their start. -/
def covers (d : Directive) (part : String) (fields : List String) : Bool :=
  d.concernsLines && d.part.all (·.isPrefixOf part) &&
    d.field.all fun f => fields.contains f.name

/-- How special a directive for a part is: by the length of its name, then by its field. The rank is
compared from left to right. -/
def rank (d : Directive) : Nat × Nat × String :=
  ((d.part.map fun p => p.utf8ByteSize + 1).getD 0,
    if d.field.isSome then 1 else 0, (d.field.map FieldTest.name).getD "")

/-- A directive is less special than another one. Two may be equally special without being equal. -/
def lessSpecial (d e : Directive) : Bool :=
  let (a, b, c) := d.rank
  let (a', b', c') := e.rank
  a < a' || (a == a' && (b < b' || (b == b' && c < c')))

end Directive

/-- What a log shows: the directives of a filter, in the order of its text. -/
abbrev Filter := List Directive

namespace Filter

/-- The filter where none is given, or one that is not well formed: information from all parts, and
more from the service itself. -/
def default : Filter :=
  [⟨none, none, none, .info⟩, ⟨some "toolplan_service", none, none, .debug⟩]

/-- The filter that a text spells. An empty one shows errors only, and one with an unsound directive
is none. -/
def ofText? (s : String) : Option Filter :=
  match (s.splitOn ",").filter fun d => !d.isEmpty with
  | [] => some [⟨none, none, none, .error⟩]
  | ds => ds.mapM Directive.ofText?

/-- The filter of a variable. Reference: the `EnvFilter` of `main`. -/
def ofVariable (value : Option String) : Filter :=
  (value.bind ofText?).getD default

/-- The directive that counts for lines of a part with the given fields, if one does: of the most
special ones the last. -/
def directive? (f : Filter) (part : String) (fields : List String) : Option Directive :=
  f.foldl (fun best d =>
    if !d.covers part fields then best
    else match best with
      | some b => if d.lessSpecial b then best else some d
      | none => some d) none

/-- The log shows lines of a part with the given fields at a verbosity. Without a directive for them
nothing is shown. -/
def shows (f : Filter) (part : String) (fields : List String) (v : Verbosity) : Bool :=
  match f.directive? part fields with
  | some d => decide (v.rank ≤ d.verbosity.rank)
  | none => false

end Filter

end AgentPlan.Startup
