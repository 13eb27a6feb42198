import AgentPlan.Text.Basic

/-!
# Replies of a model

What a hosted model answers to a call, and how it can fail to answer. `Reply.output` is the text
that counts: the content, or what the model wrote while thinking if the content is blank.
-/

namespace AgentPlan.Model

/-- Why a model stopped writing. Reference: `StopReason`. -/
inductive StopReason where
  | endTurn
  | maxTokens
  | stopSequence
  | other (name : String)
deriving DecidableEq, Repr

namespace StopReason

/-- The reason with a name, in any letter case. Two of the reasons have two names; the name of
another reason is kept in small letters. Reference: the conversion of a text to `StopReason`. -/
def ofName (name : String) : StopReason :=
  let small := Text.lower name
  if small = "end_turn" ∨ small = "stop" then .endTurn
  else if small = "max_tokens" ∨ small = "length" then .maxTokens
  else if small = "stop_sequence" then .stopSequence
  else .other small

/-- The reason in a message. Reference: `stop_reason` in the message of `extract_response_text`. -/
def text : StopReason → String
  | .endTurn => "EndTurn"
  | .maxTokens => "MaxTokens"
  | .stopSequence => "StopSequence"
  | .other name => "Other(" ++ Text.quoted name ++ ")"

end StopReason

/-- The number of tokens that a call took. Reference: `UsageStats`. -/
structure Usage where
  input : UInt32
  output : UInt32
deriving DecidableEq, Repr

/-- A model's answer to a call. Reference: `LlmResponse`. -/
structure Reply where
  content : Option String
  thinking : Option String
  stopReason : StopReason
  usage : Usage
  model : String
deriving DecidableEq, Repr

namespace Reply

/-- A text that is not blank. It is not trimmed. -/
def visible (text : Option String) : Option String :=
  text.filter fun t => !Text.blank t

/-- The text of a reply: its content, or what the model wrote while thinking if the content is blank
or absent. Reference: `LlmResponse.text_output`. -/
def output (r : Reply) : Option String :=
  (visible r.content).or (visible r.thinking)

/-- The text of the reply is what the model wrote while thinking. Reference: the condition of the
log line in `extract_response_text`. -/
def usesThinking (r : Reply) : Bool :=
  (visible r.content).isNone && r.output.isSome

end Reply

/-- Why a call got no reply. How long to wait after `rateLimited` is never known, and left out.
Reference: `LlmError`. -/
inductive Error where
  | authentication (message : String)
  | rateLimited (message : String)
  | modelNotFound (model : String)
  | invalidRequest (message : String)
  | server (message : String) (status : Option UInt16)
  | network (message : String)
  | unreadable (message : String)
  | other (message : String)
deriving DecidableEq, Repr

/-- The message of an error. Reference: the text of `LlmError`. -/
def Error.message : Error → String
  | .authentication m => "Authentication failed: " ++ m
  | .rateLimited m => "Rate limited: " ++ m
  | .modelNotFound model => "Model not found: " ++ model
  | .invalidRequest m => "Invalid request: " ++ m
  | .server m (some status) => "Server error (" ++ toString status.toNat ++ "): " ++ m
  | .server m none => "Server error: " ++ m
  | .network m => "Network error: " ++ m
  | .unreadable m => "Parse error: " ++ m
  | .other m => "Error: " ++ m

end AgentPlan.Model
