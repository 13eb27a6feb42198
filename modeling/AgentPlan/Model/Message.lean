import AgentPlan.Json.Printer
import AgentPlan.Json.Reader

/-!
# Messages

What is said to a model: who says it, and blocks of text. In a JSON text a block is a record whose
member `type` says of which kind it is. There is one kind, and it has one more member, the text. A
block can also be written as an array, with its kind first. It is read as a whole before its kind is
looked at, so a fault in its text has no place of its own.
-/

namespace AgentPlan.Model

open Json (Reader Tree Token Elements Cause)

/-- Who speaks. Reference: `MessageRole`. -/
inductive Role where
  | system
  | user
  | assistant
deriving DecidableEq, Repr

namespace Role

/-- The name of a role. Reference: the encoder of `MessageRole`. -/
def name : Role → String
  | .system => "system"
  | .user => "user"
  | .assistant => "assistant"

/-- Reads a role, by its name. Reference: the decoder of `MessageRole`. -/
def reader : Reader Role :=
  .choice [("system", .unit .system), ("user", .unit .user), ("assistant", .unit .assistant)]

end Role

/-- A message to a model, in blocks of text. Reference: `Message`, whose blocks are
`MessageContent`. -/
structure Message where
  role : Role
  blocks : List String
deriving DecidableEq, Repr

namespace Message

/-- The text of a message, a line break between two blocks. Reference: `Message.joined_text`. -/
def joined (m : Message) : String :=
  String.intercalate "\n" m.blocks

/-- The value of a block, with its kind. Reference: the encoder of `MessageContent`. -/
def blockJson (text : String) : Json :=
  .obj [("type", .str "text"), ("text", .str text)]

/-- The value of a message. Reference: the encoder of `Message`. -/
def toJson (m : Message) : Json :=
  .obj [("role", .str m.role.name), ("content", .arr (m.blocks.map blockJson))]

/-- The JSON text of a message. Reference: the encoder of `Message`. -/
def text (m : Message) : String :=
  m.toJson.compact

/-! ## Blocks -/

/-- Reads the kind of a block, of which there is one. Reference: the tag of `MessageContent`. -/
def readKind (t : Tree) : Except Json.Fault Unit :=
  match t.token.kind with
  | .text strict _ => do
    let name ← strict
    if name = "text" then return ()
    else .error ((Cause.unknownVariant name ["text"]).at t.token.stop)
  | _ => .error (t.mismatch "variant identifier")

/-- The text that a value is. A fault in it has no place, since the block was read before. -/
def blockText (v : Json) : Except Cause String :=
  match v with
  | .str s => .ok s
  | v => .error (.wrongType (Json.found v) "a string")

/-- The text among the members of a block, after one that may have been found already. Members with
other keys are passed over. -/
def textAmong : (found : Option String) → List (String × Json) → Except Cause String
  | some s, [] => .ok s
  | none, [] => .error (.missingField "text")
  | found, (k, v) :: rest =>
    if k = "text" then
      match found with
      | some _ => .error (.duplicateField "text")
      | none => do textAmong (some (← blockText v)) rest
    else textAmong found rest

/-- The text among the elements of a block after its kind: there is exactly one. -/
def onlyText (items : List Json) : Except Cause String :=
  match items with
  | [] => .error (.wrongLength 0 "struct variant MessageContent::Text with 1 element")
  | v :: rest => do
    let s ← blockText v
    if rest.isEmpty then return s
    else .error (.wrongLength items.length "1 element in sequence")

/-- What has been read of a block: whether its kind was there, and its other members, the last one
first. -/
structure Collected where
  hasKind : Bool
  members : List (String × Json)

/-- Reads a member of a block: its kind, which may be there only once, or a member that is kept as a
value until the kind is known. -/
def blockMember (room : Nat) (p : Collected) (key : String) (colon : Token) (value : Tree) :
    Except Json.Fault Collected :=
  if key = "type" then
    if p.hasKind then .error ((Cause.duplicateField "type").at colon.objectEnd)
    else do
      colon.expectColon
      readKind value
      return { p with hasKind := true }
  else do
    colon.expectColon
    return { p with members := (key, ← Tree.value room value) :: p.members }

/-- Reads the elements of a block: its kind, and the values after it. -/
def blockElements (room : Nat) : Elements → Except Json.Fault (List Json)
  | .done t =>
    match t.kind with
    | .closeBracket => .error ((Cause.missingField "type").at t.stop)
    | _ => .error (Cause.endInList.at t.start)
  | .cons kind next rest => do
    readKind kind
    match next.kind with
    | .closeBracket => return []
    | .comma => rest.collect (Tree.value room) false
    | _ => .error next.listFault

/-- Reads a block, in either form. Reference: the decoder of `MessageContent`. -/
def blockReader : Reader String
  | _, .leaf t => .error (t.mismatch "internally tagged enum MessageContent")
  | room, .array opening es => Reader.enter opening room fun room => do
    (onlyText (← blockElements room es)).mapError Cause.unplaced
  | room, .object opening es => Reader.enter opening room fun room => do
    let (p, place) ← es.walk (blockMember room) true ⟨false, []⟩
    if p.hasKind then (textAmong none p.members.reverse).mapError Cause.unplaced
    else .error ((Cause.missingField "type").at place)

/-- Reads a message. Reference: the decoder of `Message`. -/
def reader : Reader Message := fun room t =>
  let fields := .cons (.required "role" Role.reader) <|
    .cons (.required "content" (.list blockReader)) .nil
  (Reader.record "Message" fields room t).map fun (role, blocks, _) => { role, blocks }

/-- Reads a list of messages. Reference: the decoder of `Message`. -/
def listReader : Reader (List Message) :=
  .list reader

end Message

end AgentPlan.Model
