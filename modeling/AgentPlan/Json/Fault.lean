import AgentPlan.Json.Printer
import AgentPlan.Text.Basic

/-!
# Faults

What can be wrong with a JSON text, and where. A fault that arises while a record is put together
has no place of its own; it gets the place where the enclosing object or array ends
(`Fault.settle`). A place is a number of bytes from the start of the text, printed as a line and a
column.
-/

namespace AgentPlan.Json

/-- What stands where something else was expected, as a message names it. Arrays and objects are
named by their kind only, other values with what they are. -/
inductive Found where
  | null
  | bool (value : Bool)
  | num (value : Number)
  | str (value : String)
  | sequence
  | map
  | unitVariant

/-- What is wrong with a text. The first causes are noticed by the grammar, then come those in
numbers and strings, and the last ones are noticed by a reader that expects a value of a certain
type. -/
inductive Cause where
  | endInValue
  | endInList
  | endInObject
  | endInString
  | expectedValue
  | expectedIdent
  | expectedListEnd
  | expectedObjectEnd
  | expectedColon
  | expectedKey
  | trailingComma
  | trailingCharacters
  | tooDeep
  | invalidNumber
  | outOfRange
  | controlCharacter
  | invalidEscape
  | unpairedHigh
  | unpairedLow
  | invalidCodePoint
  | wrongType (found : Found) (wanted : String)
  | wrongValue (found : Found) (wanted : String)
  | wrongLength (length : Nat) (wanted : String)
  | unknownVariant (name : String) (variants : List String)
  | missingField (name : String)
  | duplicateField (name : String)

/-- A fault, with its place where it has one. A place is a number of bytes from the start of the
text. -/
structure Fault where
  cause : Cause
  place : Option Nat

/-- A fault at a place. Faults of the grammar always have one. -/
def Cause.at (c : Cause) (place : Nat) : Fault :=
  ⟨c, some place⟩

/-- A fault whose place is the end of whatever encloses it. A reader that gets a value of the right
kind, but not one that it can use, gives such a fault. -/
def Cause.unplaced (c : Cause) : Fault :=
  ⟨c, none⟩

/-- The fault at its own place, or at the given one. An inner place is kept, so a fault is settled
once, by the innermost object or array around it. -/
def Fault.settle (f : Fault) (place : Nat) : Fault :=
  { f with place := some (f.place.getD place) }

/-! ## Messages -/

/-- The name of what was found, in a message. Numbers, strings and truth values are shown with their
value, a string between quotes. -/
def Found.text : Found → String
  | .null => "null"
  | .bool b => "boolean \x60" ++ toString b ++ "\x60"
  | .num (.int i) => "integer \x60" ++ toString i ++ "\x60"
  | .num (.float b) => "floating point \x60" ++ doubleText b ++ "\x60"
  | .str s => "string " ++ Text.quoted s
  | .sequence => "sequence"
  | .map => "map"
  | .unitVariant => "unit variant"

/-- A name in a message, between two grave accents. Names of fields and of variants are shown so. -/
def ticked (name : String) : String :=
  "\x60" ++ name ++ "\x60"

/-- The names one of which was expected, as a list in words: one name, two with `or`, and more after
`one of`. -/
def oneOf : List String → String
  | [] => "there are no variants"
  | [a] => "expected " ++ ticked a
  | [a, b] => "expected " ++ ticked a ++ " or " ++ ticked b
  | names => "expected one of " ++ String.intercalate ", " (names.map ticked)

/-- The message of a cause, without its place. This is the text that a report on a reply shows, and
the service in its answer to a bad request. -/
def Cause.message : Cause → String
  | .endInValue => "EOF while parsing a value"
  | .endInList => "EOF while parsing a list"
  | .endInObject => "EOF while parsing an object"
  | .endInString => "EOF while parsing a string"
  | .expectedValue => "expected value"
  | .expectedIdent => "expected ident"
  | .expectedListEnd => "expected \x60,\x60 or \x60]\x60"
  | .expectedObjectEnd => "expected \x60,\x60 or \x60\x7d\x60"
  | .expectedColon => "expected \x60:\x60"
  | .expectedKey => "key must be a string"
  | .trailingComma => "trailing comma"
  | .trailingCharacters => "trailing characters"
  | .tooDeep => "recursion limit exceeded"
  | .invalidNumber => "invalid number"
  | .outOfRange => "number out of range"
  | .controlCharacter => "control character (\\u0000-\\u001F) found while parsing a string"
  | .invalidEscape => "invalid escape"
  | .unpairedHigh => "unexpected end of hex escape"
  | .unpairedLow => "lone leading surrogate in hex escape"
  | .invalidCodePoint => "invalid unicode code point"
  | .wrongType found wanted => "invalid type: " ++ found.text ++ ", expected " ++ wanted
  | .wrongValue found wanted => "invalid value: " ++ found.text ++ ", expected " ++ wanted
  | .wrongLength length wanted => "invalid length " ++ toString length ++ ", expected " ++ wanted
  | .unknownVariant name variants => "unknown variant " ++ ticked name ++ ", " ++ oneOf variants
  | .missingField name => "missing field " ++ ticked name
  | .duplicateField name => "duplicate field " ++ ticked name

/-- The line of a place: one more than the line breaks before it. Only the line feed counts as a
break. -/
def lineAt (bytes : List UInt8) (place : Nat) : Nat :=
  1 + (bytes.take place).count 10

/-- The column of a place: the bytes since the last line break before it. Bytes are counted, not
characters. -/
def columnAt (bytes : List UInt8) (place : Nat) : Nat :=
  ((bytes.take place).reverse.takeWhile fun b => b ≠ 10).length

/-- The message of a fault in a text, with its line and its column. A fault that never got a place
has its cause only. -/
def Fault.message (bytes : List UInt8) (f : Fault) : String :=
  match f.place with
  | none => f.cause.message
  | some p => f.cause.message ++ " at line " ++ toString (lineAt bytes p) ++ " column " ++
      toString (columnAt bytes p)

end AgentPlan.Json
