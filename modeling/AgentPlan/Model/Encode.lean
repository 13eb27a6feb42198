import AgentPlan.Model.Reply
import AgentPlan.Json.Reader
import AgentPlan.Json.Printer

/-!
# Replies and JSON

The JSON value of a model's reply, and how a reply is read from a JSON text. A reply without a
content or without thinking has no such member.
-/

namespace AgentPlan.Model

open Json (Reader)

namespace StopReason

/-- The value of a reason: its name, or an object with the name of another reason. Reference: the
encoder of `StopReason`. -/
def toJson : StopReason → Json
  | .endTurn => .str "end_turn"
  | .maxTokens => .str "max_tokens"
  | .stopSequence => .str "stop_sequence"
  | .other name => .obj [("other", .str name)]

/-- Reads a reason. Reference: the decoder of `StopReason`. -/
def reader : Reader StopReason :=
  .choice [("end_turn", .unit .endTurn), ("max_tokens", .unit .maxTokens),
    ("stop_sequence", .unit .stopSequence),
    ("other", .data fun room t => (Reader.text room t).map .other)]

end StopReason

namespace Usage

/-- The value of the number of tokens. Reference: the encoder of `UsageStats`. -/
def toJson (u : Usage) : Json :=
  .obj [("input_tokens", .num (.int u.input.toNat)), ("output_tokens", .num (.int u.output.toNat))]

/-- Reads the number of tokens. Reference: the decoder of `UsageStats`. -/
def reader : Reader Usage := fun room t =>
  let fields := .cons (.required "input_tokens" .uint32) <|
    .cons (.required "output_tokens" .uint32) .nil
  (Reader.record "UsageStats" fields room t).map fun (input, output, _) => { input, output }

end Usage

namespace Reply

/-- The value of a reply. A text that is absent has no member. Reference: the encoder of
`LlmResponse`. -/
def toJson (r : Reply) : Json :=
  let maybe (name : String) (value : Option String) :=
    (value.map fun v => (name, Json.str v)).toList
  .obj <| maybe "content" r.content ++ maybe "thinking" r.thinking ++
    [("stop_reason", r.stopReason.toJson), ("usage", r.usage.toJson), ("model", .str r.model)]

/-- The JSON text of a reply. Reference: the encoder of `LlmResponse`. -/
def text (r : Reply) : String :=
  r.toJson.compact

/-- Reads a reply. Texts may be null or absent, but an array needs them. Reference: the decoder of
`LlmResponse`. -/
def reader : Reader Reply := fun room t =>
  let fields := .cons (.nullable "content" .text) <| .cons (.nullable "thinking" .text) <|
    .cons (.required "stop_reason" StopReason.reader) <|
    .cons (.required "usage" Usage.reader) <| .cons (.required "model" .text) .nil
  (Reader.record "LlmResponse" fields room t).map
    fun (content, thinking, stopReason, usage, model, _) =>
      { content, thinking, stopReason, usage, model }

end Reply

end AgentPlan.Model
