import AgentPlan.Json.Tree

/-!
# Readers of typed values

A reader takes the tree of a text to a value of a type, nested at most so deep as a first argument
says. Numbers, strings, lists and objects have readers here, and so do choices, which a text names
by a string or by an object with one member, and records.

A record is described by its fields in declaration order (`Fields`). It can be written as an object,
whose unknown members are passed over, or as an array that holds the fields in order. Faults come
in the order of the text; a field that is missing is noticed at the end.
-/

namespace AgentPlan.Json

/-- Reads a value from a tree whose arrays and objects are nested at most so deep. Every typed value
of a text, from a truth value to a whole request, has a reader. -/
abbrev Reader (α : Type) := (room : Nat) → Tree → Except Fault α

/-! ## Wrong types -/

/-- The fault of a token where something else is wanted. A token with a fault of its own has that
one. Arrays and objects are told by their first byte, other values only after they are read, which
is where their faults are placed. -/
def Token.mismatch (t : Token) (wanted : String) : Fault :=
  match t.kind with
  | .openBracket => (Cause.wrongType .sequence wanted).at t.start
  | .openBrace => (Cause.wrongType .map wanted).at t.start
  | _ =>
    match t.scalar with
    | .error f => f
    | .ok (.bool b) => (Cause.wrongType (.bool b) wanted).at t.stop
    | .ok (.num n) => (Cause.wrongType (.num n) wanted).at t.stop
    | .ok (.str s) => (Cause.wrongType (.str s) wanted).at t.stop
    | .ok _ => (Cause.wrongType .null wanted).at t.stop

/-- What a value is called where something else is wanted. This is for values that are read already;
tokens have `Token.mismatch`. -/
def found : Json → Found
  | .null => .null
  | .bool b => .bool b
  | .num n => .num n
  | .str s => .str s
  | .arr _ => .sequence
  | .obj _ => .map

/-- The fault of a tree where something else is wanted: that of its first token. -/
def Tree.mismatch (t : Tree) (wanted : String) : Fault :=
  t.token.mismatch wanted

/-! ## Simple values -/

namespace Reader

/-- Reads a string. Nothing else is taken for one, not even a number. -/
def text : Reader String
  | _, t =>
    match t.token.kind with
    | .text strict _ => strict
    | _ => .error (t.mismatch "a string")

/-- Reads a truth value. Nothing else is taken for one, not even 0 or a string. -/
def bool : Reader Bool
  | _, t =>
    match t.token.kind with
    | .bool b => .ok b
    | _ => .error (t.mismatch "a boolean")

/-- Reads a number with `take`, which gives nothing for a number out of its range. The fault of such
a number is placed after the number. -/
def number (wanted : String) (take : Number → Except Cause α) : Reader α
  | _, t =>
    match t.token.kind with
    | .number strict _ => do
      match take (← strict) with
      | .ok a => return a
      | .error cause => .error (cause.at t.token.stop)
    | _ => .error (t.mismatch wanted)

/-- Takes an integer from `low` up to but not including `high`. A float is of the wrong type, even
if its value is an integer. -/
def integer (wanted : String) (low high : Int) : Number → Except Cause Int
  | .int i =>
    if low ≤ i ∧ i < high then .ok i else .error (.wrongValue (.num (.int i)) wanted)
  | .float b => .error (.wrongType (.num (.float b)) wanted)

/-- Reads an integer of 32 bits without sign. Limits, and counts of tokens, are read so. -/
def uint32 : Reader UInt32 :=
  number "u32" fun n => (integer "u32" 0 UInt32.size n).map fun i => UInt32.ofNat i.toNat

/-- Reads an integer of 64 bits without sign. The time limits of settings are read so. -/
def uint64 : Reader UInt64 :=
  number "u64" fun n => (integer "u64" 0 UInt64.size n).map fun i => UInt64.ofNat i.toNat

/-- Reads an integer of 64 bits. The times to live of a printed plan are read so. -/
def int64 : Reader Int64 :=
  number "i64" fun n =>
    (integer "i64" Int64.minValue.toInt (Int64.maxValue.toInt + 1) n).map Int64.ofInt

/-- Reads any number as a 32-bit float: the value that was read, rounded to the format. One that is
too large for it becomes infinite. Temperatures are read so. -/
def single : Reader Binary.Extended :=
  number "f32" fun
    | .int i => .ok (Binary.Format.single.ofInt i)
    | .float b => .ok (Binary.Format.single.convert b)

/-! ## Containers -/

/-- Reads an array or an object one level deeper, or is at the limit. The fault at the limit is
placed at the opening token. -/
def enter (opening : Token) (room : Nat) (read : Nat → Except Fault α) : Except Fault α :=
  match room with
  | 0 => .error (Cause.tooDeep.at opening.peeked)
  | room + 1 => read room

/-- Reads a value that may be null. Null is told by the token, so that a reader which itself takes
null is not asked. -/
def optional (read : Reader α) : Reader (Option α)
  | room, t =>
    match t.token.kind with
    | .null => .ok none
    | _ => (read room t).map some

/-- Reads an array, each element with the given function, from left to right. The first fault
counts. -/
def elements (read : Tree → Except Fault α) : Reader (List α)
  | room, .array opening es => enter opening room fun _ => es.collect read true
  | _, t => .error (t.mismatch "a sequence")

/-- Reads an array, whose elements have one level less to go deeper. -/
def list (read : Reader α) : Reader (List α)
  | room, t => elements (read (room - 1)) room t

/-- Reads an object with free keys, all of whose values are kept as they are. They are read
strictly. -/
def members : Reader Members
  | room, .object opening es =>
    match Tree.value room (.object opening es) with
    | .ok (.obj m) => .ok m
    | .ok _ => .ok []
    | .error f => .error f
  | _, t => .error (t.mismatch "a map")

/-! ## Choices -/

/-- What a choice stands for: a value of its own, or one made from data. -/
inductive Variant (α : Type) where
  | unit (value : α)
  | data (read : Reader α)

/-- Reads null where a variant has no data. This is the object form of such a variant. -/
def noData : Reader Unit
  | _, t =>
    match t.token.kind with
    | .null => .ok ()
    | _ => .error (t.mismatch "unit")

/-- The variant with a name, or the fault that there is none, with the names that there are. -/
def variant (variants : List (String × Variant α)) (name : String) (place : Nat) :
    Except Fault (Variant α) :=
  match variants.find? fun v => v.1 = name with
  | some v => .ok v.2
  | none => .error ((Cause.unknownVariant name (variants.map (·.1))).at place)

/-- The fault of a token where the object form of a choice should name its variant. -/
def unnamed (t : Token) : Fault :=
  match t.kind with
  | .closeBrace => Cause.expectedValue.at t.peeked
  | .finish => Cause.endInObject.at t.start
  | _ => Cause.expectedKey.at t.peeked

/-- Reads the object form of a choice: a variant's name and its data, as the only member. -/
def choiceEntry (variants : List (String × Variant α)) (room : Nat) : Entries → Except Fault α
  | .done t => .error (unnamed t)
  | .cons key colon value next _ => do
    let v ← variant variants (← key.key) key.stop
    colon.expectColon
    let a ← match v with
      | .unit a => do
        noData room value
        pure a
      | .data read => read room value
    match next.kind with
    | .closeBrace => return a
    | .finish => .error (Cause.endInObject.at next.start)
    | _ => .error (Cause.expectedValue.at next.start)

/-- Reads a choice, in either of its forms: a string that names a variant without data, or an object
with one member. -/
def choice (variants : List (String × Variant α)) : Reader α
  | room, .object opening es => enter opening room fun room => choiceEntry variants room es
  | _, .array opening _ => .error (Cause.expectedValue.at opening.peeked)
  | _, .leaf t =>
    match t.kind with
    | .text strict _ => do
      match ← variant variants (← strict) t.stop with
      | .unit a => return a
      | .data _ => .error (Cause.wrongType .unitVariant "newtype variant").unplaced
    | .finish => .error (Cause.endInValue.at t.start)
    | _ => .error (Cause.expectedValue.at t.peeked)

end Reader

/-! ## Records -/

/-- A field of a record: its name, how it is read, its value where an object lacks it, and its value
where an array ends before it. A field without such a value is required. -/
structure Field (α : Type) where
  name : String
  read : Reader α
  absent : Option α
  cutOff : Option α

namespace Field

/-- A field that has to be there, in an object and in an array. -/
def required (name : String) (read : Reader α) : Field α :=
  ⟨name, read, none, none⟩

/-- A field with a default. An array may end before it. -/
def withDefault (name : String) (read : Reader α) (default : α) : Field α :=
  ⟨name, read, some default, some default⟩

/-- A field that may be null or absent, but has its place in an array: an array that ends before it
is too short. -/
def nullable (name : String) (read : Reader α) : Field (Option α) :=
  ⟨name, .optional read, some none, none⟩

/-- A field that may be null or absent, and before which an array may end. -/
def maybe (name : String) (read : Reader α) : Field (Option α) :=
  .withDefault name (.optional read) none

end Field

/-- The fields of a record in declaration order. The first type holds what has been read so far, the
second one the values of all fields. -/
inductive Fields : Type → Type → Type 1 where
  | nil : Fields Unit Unit
  | cons {α σ τ : Type} (field : Field α) (rest : Fields σ τ) : Fields (Option α × σ) (α × τ)

/-- A place between the elements of an array: at its start, or after an element and before the given
token. -/
inductive Between where
  | start (elements : Elements)
  | after (next : Token) (rest : Elements)

namespace Between

/-- The next element with the place behind it, or nothing at the end of the array. Commas are
checked here, one at a time, as the fields ask for elements. -/
def advance : Between → Except Fault (Option (Tree × Between))
  | .start (.done t) =>
    match t.kind with
    | .closeBracket => .ok none
    | _ => .error (Cause.endInList.at t.start)
  | .start (.cons v next rest) => .ok (some (v, .after next rest))
  | .after next rest =>
    match next.kind with
    | .closeBracket => .ok none
    | .comma =>
      match rest with
      | .cons v next rest => .ok (some (v, .after next rest))
      | .done t =>
        match t.kind with
        | .closeBracket => .error (Cause.trailingComma.at t.peeked)
        | _ => .error (Cause.endInValue.at t.start)
    | _ => .error next.listFault

/-- Leaves the array, which has to end here: a record in the form of an array has no more elements
than fields. -/
def leave : Between → Except Fault Unit
  | .start es =>
    match es.token.kind with
    | .closeBracket => .ok ()
    | .finish => .error (Cause.endInList.at es.token.start)
    | _ => .error (Cause.trailingCharacters.at es.token.peeked)
  | .after next rest =>
    match next.kind with
    | .closeBracket => .ok ()
    | .comma =>
      match rest.token.kind with
      | .closeBracket => .error (Cause.trailingComma.at rest.token.peeked)
      | _ => .error (Cause.trailingCharacters.at rest.token.peeked)
    | .finish => .error (Cause.endInList.at next.start)
    | _ => .error (Cause.trailingCharacters.at next.peeked)

/-- The end of an array that is left here before its time, because of a fault that has no place of
its own. -/
def endPlace : Between → Nat
  | .start es => es.token.listEnd
  | .after next rest => Elements.endAfter next rest

end Between

namespace Fields

/-- Nothing has been read yet: no field has a value. -/
def empty : Fields σ τ → σ
  | .nil => ()
  | .cons _ rest => (none, rest.empty)

/-- Reads the member with the given key into its field. Gives nothing if no field has that name. A
field that has a value already is not read again: that is a fault. -/
def store (room : Nat) (key : String) (colon : Token) (value : Tree) :
    Fields σ τ → σ → Option (Except Fault σ)
  | .nil, _ => none
  | .cons f rest, (slot, slots) =>
    if f.name = key then
      some <| match slot with
        | some _ => .error ((Cause.duplicateField key).at colon.objectEnd)
        | none => do
          colon.expectColon
          return (some (← f.read room value), slots)
    else (rest.store room key colon value slots).map fun r => r.map fun slots => (slot, slots)

/-- The values of all fields, or the first one that is missing. Fields are asked in declaration
order, whatever their order in the text. -/
def close : Fields σ τ → σ → Except Cause τ
  | .nil, _ => .ok ()
  | .cons f rest, (slot, slots) =>
    match slot.or f.absent with
    | some a => (rest.close slots).map fun r => (a, r)
    | none => .error (.missingField f.name)

/-- Reads a member of an object: into its field, or past it if there is none. What is passed over is
read laxly. -/
def member (fields : Fields σ τ) (room : Nat) (slots : σ) (key : String) (colon : Token)
    (value : Tree) : Except Fault σ :=
  match fields.store room key colon value slots with
  | some r => r
  | none => do
    colon.expectColon
    value.skip
    return slots

/-- Reads the fields from the elements of an array, the first of them at `index`. The index is the
length that is reported if the array ends too early. -/
def fromElements (room : Nat) (wanted : String) :
    Fields σ τ → (index : Nat) → Between → Except Fault τ
  | .nil, _, place => place.leave
  | .cons f rest, index, place => do
    match ← place.advance with
    | some (v, place) =>
      match f.read room v with
      | .ok a => return (a, ← rest.fromElements room wanted (index + 1) place)
      | .error fault => .error (fault.settle place.endPlace)
    | none =>
      match f.cutOff with
      | some a => return (a, ← rest.fromElements room wanted (index + 1) place)
      | none => .error ((Cause.wrongLength index wanted).at place.endPlace)

/-- The number of fields, as a message gives it. -/
def count : Fields σ τ → Nat
  | .nil => 0
  | .cons _ rest => rest.count + 1

/-- The name of a record with the number of its fields, as an array would have them. This is what a
message says was expected. -/
def wanted (fields : Fields σ τ) (name : String) : String :=
  name ++ " with " ++ toString fields.count ++
    (if fields.count = 1 then " element" else " elements")

end Fields

/-- Reads a record of the given name, in the form of an object or of an array. The decoders of
requests, plans and completions are instances of this. -/
def Reader.record (name : String) (fields : Fields σ τ) : Reader τ
  | _, .leaf t => .error (t.mismatch ("struct " ++ name))
  | room, .array opening es => enter opening room fun room =>
    fields.fromElements room (fields.wanted ("struct " ++ name)) 0 (.start es)
  | room, .object opening es => enter opening room fun room => do
    let (slots, place) ← es.walk (fields.member room) true fields.empty
    match fields.close slots with
    | .ok a => return a
    | .error cause => .error (cause.at place)

/-- Reads a whole text given as bytes, or gives the message of the first fault in it. -/
def Reader.run (read : Reader α) (bytes : List UInt8) : Except String α :=
  ((Document.ofBytes bytes).readWith (read depthLimit)).mapError (Fault.message bytes)

/-- Reads a whole text given as characters, or gives the message of the first fault in it. -/
def Reader.runText (read : Reader α) (text : String) : Except String α :=
  read.run (Text.Utf8.encode text)

end AgentPlan.Json
