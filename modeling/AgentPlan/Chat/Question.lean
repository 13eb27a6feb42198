import AgentPlan.Model.Provider
import AgentPlan.Model.Message
import AgentPlan.Planner.Client

/-!
# Questions to a provider

What a call to a provider sends: the model, its limits, and the messages, as a JSON object whose
members are in the order of their keys.
-/

namespace AgentPlan.Chat

open Model (Config Options Message)

/-- What is asked in a call: an instruction for the model, and the messages. Reference: the
arguments of `LlmProvider.send_message`. -/
structure Question where
  system : Option String
  messages : List Message
  options : Options

namespace Question

/-- The question of a planner's call: its instruction, and one message of the user. Reference: the
call in `ModelClient.complete`. -/
def ofCall (call : Model.Call) : Question :=
  ⟨some call.system, [⟨.user, [call.user]⟩], ⟨none⟩⟩

/-- A message on the way: who speaks, and what. Reference: `OpenAIProvider.message_to_openai`. -/
def spoken (role text : String) : Json :=
  .obj [("content", .str text), ("role", .str role)]

/-- The messages on the way, the instruction first. Reference: `openai_messages` in
`OpenAIProvider.build_request_body`. -/
def conversation (q : Question) : List Json :=
  (q.system.map (spoken "system")).toList ++
    q.messages.map fun m => spoken m.role.name m.joined

/-- A 32-bit number as a 64-bit one; null if it is not finite. The text of the number is that of the
64-bit one. -/
def widened : Binary.Extended → Json
  | .finite b =>
    match Binary.Format.double.convert b with
    | .finite d => .num (.float d)
    | _ => .null
  | _ => .null

/-- The body of a call. The answer is asked for in one piece. Reference:
`OpenAIProvider.build_request_body`. -/
def body (q : Question) (c : Config) : Json :=
  .obj [("max_tokens", .num (.int c.maxTokens.toNat)), ("messages", .arr q.conversation),
    ("model", .str c.model), ("stream", .bool false),
    ("temperature", widened (q.options.temperature.getD c.temperature))]

end Question

end AgentPlan.Chat
