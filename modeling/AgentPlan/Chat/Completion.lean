import AgentPlan.Model.Reply
import AgentPlan.Json.Reader

/-!
# Completions

What a provider answers to a call that went well. It offers choices; the reply is the first one, and
nothing else of the answer but the model's name and the number of tokens counts. Almost everything
in a completion may be absent.
-/

namespace AgentPlan.Chat

open Json (Reader)
open Model (Reply StopReason Usage)

/-- What a model said in a choice: its content, and what it wrote while thinking. Reference:
`ResponseMessage`. -/
structure Said where
  content : Option String
  reasoning : Option String
deriving DecidableEq, Repr

/-- A choice, with the name of the reason why the model stopped. Reference: `Choice`. -/
structure Choice where
  said : Option Said
  stopped : Option String
deriving DecidableEq, Repr

/-- A completion, as a provider answers a call. Reference: `OpenAIResponse`. -/
structure Completion where
  model : String
  choices : List Choice
  usage : Option Usage
deriving DecidableEq, Repr

/-- Reads what a model said. Reference: the decoder of `ResponseMessage`. -/
def Said.reader : Reader Said := fun room t =>
  let fields :=
    .cons (.nullable "content" .text) <| .cons (.nullable "reasoning_content" .text) .nil
  (Reader.record "ResponseMessage" fields room t).map fun (content, reasoning, _) =>
    { content, reasoning }

/-- Reads a choice. Reference: the decoder of `Choice`. -/
def Choice.reader : Reader Choice := fun room t =>
  let fields := .cons (.nullable "message" Said.reader) <|
    .cons (.nullable "finish_reason" .text) .nil
  (Reader.record "Choice" fields room t).map fun (said, stopped, _) => { said, stopped }

/-- Reads the number of tokens, under the names that a provider has for them. Reference: the decoder
of `ResponseUsage`. -/
def usageReader : Reader Usage := fun room t =>
  let fields := .cons (.required "prompt_tokens" .uint32) <|
    .cons (.required "completion_tokens" .uint32) .nil
  (Reader.record "ResponseUsage" fields room t).map fun (input, output, _) => { input, output }

namespace Completion

/-- Reads a completion. Reference: the decoder of `OpenAIResponse`. -/
def reader : Reader Completion := fun room t =>
  let fields := .cons (.withDefault "model" .text "") <|
    .cons (.withDefault "choices" (.list Choice.reader) []) <|
    .cons (.nullable "usage" usageReader) .nil
  (Reader.record "OpenAIResponse" fields room t).map fun (model, choices, usage, _) =>
    { model, choices, usage }

/-- The reply in a completion: that of its first choice. Without a choice it has no text, and a
reason that is absent is the end of a turn. Reference: `OpenAIProvider.parse_response`. -/
def reply (c : Completion) : Reply :=
  let choice := c.choices.head?
  let said := choice.bind Choice.said
  { content := said.bind Said.content
    thinking := said.bind Said.reasoning
    stopReason := ((choice.bind Choice.stopped).map StopReason.ofName).getD .endTurn
    usage := c.usage.getD ⟨0, 0⟩
    model := c.model }

end Completion

end AgentPlan.Chat
