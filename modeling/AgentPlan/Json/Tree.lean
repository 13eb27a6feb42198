import AgentPlan.Json.Token

/-!
# Syntax trees

What stands in a JSON text, sound or not. Where the grammar breaks off the tree holds the token that
stands there instead, so that it depends on the reader of the tree what the fault is: `Tree.value`
reads a value, `Tree.skip` passes over one.
-/

namespace AgentPlan.Json

mutual

/-- What stands in the place of a value: a single token, an array or an object. A token that is no
value stands here where the text has a fault. -/
inductive Tree where
  | leaf (token : Token)
  | array (opening : Token) (elements : Elements)
  | object (opening : Token) (entries : Entries)

/-- What follows the opening bracket of an array, or a comma in it. `done` holds a token that begins
no value. `cons` holds the token after the value, and what follows that token if it is a comma. -/
inductive Elements where
  | done (token : Token)
  | cons (value : Tree) (next : Token) (rest : Elements)

/-- What follows the opening brace of an object, or a comma in it. `done` holds a token that is no
key. `cons` holds a key, the token after it, the value after that, the token after the value, and
what follows that token if it is a comma. -/
inductive Entries where
  | done (token : Token)
  | cons (key colon : Token) (value : Tree) (next : Token) (rest : Entries)

end

/-! ## From tokens to trees -/

mutual

/-- The tree at the start of a list of tokens, and the tokens after it. `fuel` bounds the number of
nested calls, `finish` is the token after the last one. -/
def Tree.read (finish : Token) : (fuel : Nat) → List Token → Tree × List Token
  | 0, tokens => (.leaf finish, tokens)
  | _ + 1, [] => (.leaf finish, [])
  | fuel + 1, t :: rest =>
    match t.kind with
    | .openBracket =>
      let (elements, rest) := Elements.read finish fuel rest
      (.array t elements, rest)
    | .openBrace =>
      let (entries, rest) := Entries.read finish fuel rest
      (.object t entries, rest)
    | _ => (.leaf t, rest)

/-- The elements at the start of a list of tokens, and the tokens after their end. An array that is
not closed ends where its fault is. -/
def Elements.read (finish : Token) : (fuel : Nat) → List Token → Elements × List Token
  | 0, tokens => (.done finish, tokens)
  | _ + 1, [] => (.done finish, [])
  | fuel + 1, t :: rest =>
    match t.kind with
    | .closeBracket => (.done t, rest)
    | _ =>
      let (value, rest) := Tree.read finish fuel (t :: rest)
      let next := rest.headD finish
      match next.kind with
      | .comma =>
        let (more, rest) := Elements.read finish fuel rest.tail
        (.cons value next more, rest)
      | _ => (.cons value next (.done next), rest.tail)

/-- The entries at the start of a list of tokens, and the tokens after their end. The token after a
key is kept whatever it is: whether it is a colon is asked by the reader of the tree. -/
def Entries.read (finish : Token) : (fuel : Nat) → List Token → Entries × List Token
  | 0, tokens => (.done finish, tokens)
  | _ + 1, [] => (.done finish, [])
  | fuel + 1, t :: rest =>
    match t.kind with
    | .text .. =>
      let colon := rest.headD finish
      let (value, rest) := Tree.read finish fuel rest.tail
      let next := rest.headD finish
      match next.kind with
      | .comma =>
        let (more, rest) := Entries.read finish fuel rest.tail
        (.cons t colon value next more, rest)
      | _ => (.cons t colon value next (.done next), rest.tail)
    | _ => (.done t, rest)

end

/-- A text as a tree, with the token after it. That token has to be the end of the text, which is
asked only after the tree is read (`Document.readWith`). -/
structure Document where
  tree : Tree
  next : Token

/-- The tree of a text. Every call takes a token or is made once for a list, so twice the number of
tokens bounds the nested calls. -/
def Document.ofBytes (bytes : List UInt8) : Document :=
  let tokens := Token.list bytes
  let finish := Token.ending bytes.length
  let (tree, rest) := Tree.read finish (2 * tokens.length + 2) tokens
  ⟨tree, rest.headD finish⟩

/-! ## Tokens as values -/

namespace Token

/-- The value of a token that is a whole value, by a strict reading. Of a token that is none this
gives the fault that is found in the place of a value. -/
def scalar (t : Token) : Except Fault Json :=
  match t.kind with
  | .null => .ok .null
  | .bool b => .ok (.bool b)
  | .number strict _ => strict.map .num
  | .text strict _ => strict.map .str
  | .broken f => .error f
  | .finish => .error (Cause.endInValue.at t.start)
  | _ => .error (Cause.expectedValue.at t.peeked)

/-- Passes over a token that is a whole value, by a lax reading. It can differ from `scalar` only on
numbers and strings. -/
def skip (t : Token) : Except Fault Unit :=
  match t.kind with
  | .null | .bool _ => .ok ()
  | .number _ lax | .text _ lax => match lax with
    | some f => .error f
    | none => .ok ()
  | .broken f => .error f
  | .finish => .error (Cause.endInValue.at t.start)
  | _ => .error (Cause.expectedValue.at t.peeked)

/-- The text of a key, by a strict reading. The keys of a record are read so, also those of members
that nobody wants; only the keys inside a value that is passed over are not. -/
def key (t : Token) : Except Fault String :=
  match t.kind with
  | .text strict _ => strict
  | _ => .error (Cause.expectedKey.at t.peeked)

/-- Passes over the colon after a key, or gives the fault of the token that stands there instead. -/
def expectColon (t : Token) : Except Fault Unit :=
  match t.kind with
  | .colon => .ok ()
  | .finish => .error (Cause.endInObject.at t.start)
  | _ => .error (Cause.expectedColon.at t.peeked)

/-- The end of an object that is left at this token: after the closing brace, or before a token that
is none. -/
def objectEnd (t : Token) : Nat :=
  match t.kind with
  | .closeBrace => t.stop
  | _ => t.start

/-- The end of an array that is left at this token: after the closing bracket, or before a token
that is none. -/
def listEnd (t : Token) : Nat :=
  match t.kind with
  | .closeBracket => t.stop
  | _ => t.start

/-- The fault of a token after an element: neither a comma nor the end of the array. Used by the
strict and the lax reading alike. -/
def listFault (t : Token) : Fault :=
  match t.kind with
  | .finish => Cause.endInList.at t.start
  | _ => Cause.expectedListEnd.at t.peeked

/-- The fault of a token after a member: neither a comma nor the end of the object. Used by the
strict and the lax reading alike. -/
def objectFault (t : Token) : Fault :=
  match t.kind with
  | .finish => Cause.endInObject.at t.start
  | _ => Cause.expectedObjectEnd.at t.peeked

end Token

/-- The first token of a tree, by which a reader tells what kind of value stands there. -/
def Tree.token : Tree → Token
  | .leaf t => t
  | .array t _ => t
  | .object t _ => t

/-- The first token of what follows a bracket or a comma in an array. -/
def Elements.token : Elements → Token
  | .done t => t
  | .cons v _ _ => v.token

/-- The end of an array that is left after an element, where a comma counts as passed. A fault of an
element that has no place of its own gets this one. -/
def Elements.endAfter (next : Token) (rest : Elements) : Nat :=
  match next.kind with
  | .comma => rest.token.start
  | _ => next.listEnd

/-! ## Reading values -/

/-- Reads the elements of an array, each with `read`. `first` says that no comma came before: a
bracket right after a comma is a fault. -/
def Elements.collect (read : Tree → Except Fault α) :
    (first : Bool) → Elements → Except Fault (List α)
  | first, .done t =>
    match t.kind with
    | .closeBracket => if first then .ok [] else .error (Cause.trailingComma.at t.peeked)
    | _ => .error ((if first then Cause.endInList else Cause.endInValue).at t.start)
  | _, .cons v next rest =>
    match read v with
    | .error f => .error (f.settle (Elements.endAfter next rest))
    | .ok a =>
      match next.kind with
      | .closeBracket => .ok [a]
      | .comma => (Elements.collect read false rest).map (a :: ·)
      | _ => .error next.listFault

/-- Reads the members of an object one after another. `step` gets the text of the key, the token
after it and the value. Gives the result and the place after the object. -/
def Entries.walk (step : σ → String → Token → Tree → Except Fault σ) :
    (first : Bool) → σ → Entries → Except Fault (σ × Nat)
  | first, s, .done t =>
    match t.kind with
    | .closeBrace => if first then .ok (s, t.stop) else .error (Cause.trailingComma.at t.peeked)
    | .finish => .error ((if first then Cause.endInObject else Cause.endInValue).at t.start)
    | _ => .error (Cause.expectedKey.at t.peeked)
  | _, s, .cons key colon v next rest =>
    match key.key with
    | .error f => .error f
    | .ok k =>
      match step s k colon v with
      | .error f => .error (f.settle next.objectEnd)
      | .ok s =>
        match next.kind with
        | .closeBrace => .ok (s, next.stop)
        | .comma => Entries.walk step false s rest
        | _ => .error next.objectFault

/-- How deep the arrays and objects of a text may be nested. Values that are passed over are not
limited. -/
def depthLimit : Nat := 127

/-- The value that a tree spells, nested at most `room` deep. The last member with a key counts.
Objects are built by insertion, so their members are sorted and each key occurs once. -/
def Tree.value : (room : Nat) → Tree → Except Fault Json
  | _, .leaf t => t.scalar
  | 0, .array opening _ => .error (Cause.tooDeep.at opening.peeked)
  | 0, .object opening _ => .error (Cause.tooDeep.at opening.peeked)
  | room + 1, .array _ elements => (elements.collect (Tree.value room) true).map .arr
  | room + 1, .object _ entries =>
    (entries.walk (fun (m : Members) k colon v => do
      colon.expectColon
      return m.insert k (← Tree.value room v)) true []).map fun r => .obj r.1

/-! ## Passing over values -/

mutual

/-- Passes over a value, however deep it is nested. Only the grammar is checked: a number out of
range or a half of a surrogate pair is no fault here. -/
def Tree.skip : Tree → Except Fault Unit
  | .leaf t => t.skip
  | .array _ elements => elements.skip true
  | .object _ entries => entries.skip true

/-- Passes over the elements of an array. `first` says that no comma came before. -/
def Elements.skip : (first : Bool) → Elements → Except Fault Unit
  | first, .done t =>
    match t.kind with
    | .closeBracket => if first then .ok () else .error (Cause.expectedValue.at t.peeked)
    | _ => .error ((if first then Cause.endInList else Cause.endInValue).at t.start)
  | _, .cons v next rest => do
    v.skip
    match next.kind with
    | .closeBracket => .ok ()
    | .comma => rest.skip false
    | _ => .error next.listFault

/-- Passes over the members of an object, whose keys are read laxly, too. `first` says that no comma
came before. -/
def Entries.skip : (first : Bool) → Entries → Except Fault Unit
  | first, .done t =>
    match t.kind with
    | .closeBrace => if first then .ok () else .error (Cause.expectedKey.at t.peeked)
    | .finish => .error (Cause.endInObject.at t.start)
    | _ => .error (Cause.expectedKey.at t.peeked)
  | _, .cons key colon v next rest => do
    key.skip
    colon.expectColon
    v.skip
    match next.kind with
    | .closeBrace => .ok ()
    | .comma => rest.skip false
    | _ => .error next.objectFault

end

/-! ## Documents -/

/-- Reads a whole text: a value and nothing after it. A fault in the value counts before what
follows the value. -/
def Document.readWith (d : Document) (read : Tree → Except Fault α) : Except Fault α := do
  let a ← read d.tree
  match d.next.kind with
  | .finish => return a
  | _ => .error (Cause.trailingCharacters.at d.next.peeked)

/-- The value of a JSON text given as bytes. Reference: the parsing in `parse_model_json`, where the
text of a reply is read as a free value. -/
def parseBytes (bytes : List UInt8) : Except Fault Json :=
  (Document.ofBytes bytes).readWith (Tree.value depthLimit)

/-- The value of a JSON text, or the message of the first fault in it. The message is part of the
report that a repairer gets. Reference: the parsing in `parse_model_json`. -/
def parse (text : String) : Except String Json :=
  let bytes := Text.Utf8.encode text
  (parseBytes bytes).mapError (Fault.message bytes)

end AgentPlan.Json
