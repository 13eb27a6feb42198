import AgentPlan.Model.Reply
import AgentPlan.Json.Printer
import AgentPlan.Json.Reader

/-!
# Providers

Who hosts a model, and how a model is to be called there. All providers speak the same language;
they differ in the address of their service.
-/

namespace AgentPlan.Model

open Json (Reader)

/-- A provider of models. Reference: `ProviderType`. -/
inductive Provider where
  | groq
  | openAI
deriving DecidableEq, Repr

namespace Provider

/-- The name of a provider. Reference: the text of `ProviderType`. -/
def name : Provider → String
  | .groq => "groq"
  | .openAI => "openai"

/-- The name of a provider in a log line. Reference: `provider` in the log form of
`PlannerSettings`. -/
def label : Provider → String
  | .groq => "Groq"
  | .openAI => "OpenAI"

/-- The address of a provider's service. Reference: `GROQ_API_URL` and `OPENAI_API_URL`. -/
def address : Provider → String
  | .groq => "https://api.groq.com/openai/v1/chat/completions"
  | .openAI => "https://api.openai.com/v1/chat/completions"

/-- The provider with a name, in any letter case and with white space around it. Reference: the
conversion of a text to `ProviderType`. -/
def ofName (name : String) : Except Error Provider :=
  match Text.lower (Text.trim name) with
  | "groq" => .ok .groq
  | "openai" => .ok .openAI
  | other => .error (.invalidRequest
      ("unknown provider '" ++ other ++ "', expected 'groq' or 'openai'"))

/-- Reads a provider, by its name in small letters. Reference: the decoder of `ProviderType`. -/
def reader : Reader Provider :=
  .choice [("groq", .unit .groq), ("openai", .unit .openAI)]

end Provider

/-- How a model is called. The timeout is in seconds. Reference: `ProviderConfig`. -/
structure Config where
  provider : Provider
  apiKey : Option String
  baseUrl : Option String
  model : String
  maxTokens : UInt32
  temperature : Binary.Extended
  timeout : UInt64
deriving DecidableEq

namespace Config

/-- The number of tokens that a model may write. Reference: `default_max_tokens`. -/
def defaultMaxTokens : UInt32 := 1200

/-- The temperature at which a model writes: the 32-bit float nearest to 0.2. Reference:
`default_temperature`. -/
def defaultTemperature : Binary.Extended := Binary.Format.single.round false 2 10

/-- The number of seconds that a call may take. Reference: `default_timeout_seconds`. -/
def defaultTimeout : UInt64 := 20

/-- The JSON text of a configuration. The key is part of it, unlike in the texts of settings.
Reference: the encoder of `ProviderConfig`. -/
def text (c : Config) : String :=
  let maybe (name : String) (value : Option String) :=
    (value.map fun v => (name, Json.stringText v)).toList
  Json.recordText <|
    [("provider", Json.stringText c.provider.name)] ++ maybe "api_key" c.apiKey ++
      maybe "base_url" c.baseUrl ++
      [("model", Json.stringText c.model), ("max_tokens", toString c.maxTokens.toNat),
        ("temperature", Json.singleOrNull c.temperature),
        ("timeout_seconds", toString c.timeout.toNat)]

/-- Reads a configuration. Reference: the decoder of `ProviderConfig`. -/
def reader : Reader Config := fun room t =>
  let fields := .cons (.required "provider" Provider.reader) <|
    .cons (.nullable "api_key" .text) <| .cons (.nullable "base_url" .text) <|
    .cons (.required "model" .text) <|
    .cons (.withDefault "max_tokens" .uint32 defaultMaxTokens) <|
    .cons (.withDefault "temperature" .single defaultTemperature) <|
    .cons (.withDefault "timeout_seconds" .uint64 defaultTimeout) .nil
  (Reader.record "ProviderConfig" fields room t).map
    fun (provider, apiKey, baseUrl, model, maxTokens, temperature, timeout, _) =>
      { provider, apiKey, baseUrl, model, maxTokens, temperature, timeout }

end Config

/-- What a single call may change in the configuration. Reference: `LlmRequestOptions`. -/
structure Options where
  temperature : Option Binary.Extended
deriving DecidableEq

namespace Options

/-- The JSON text of the options of a call. Reference: the encoder of `LlmRequestOptions`. -/
def text (o : Options) : String :=
  Json.recordText (o.temperature.map fun t => ("temperature_override", Json.singleOrNull t)).toList

/-- Reads the options of a call. Reference: the decoder of `LlmRequestOptions`. -/
def reader : Reader Options := fun room t =>
  let fields := .cons (.nullable "temperature_override" .single) .nil
  (Reader.record "LlmRequestOptions" fields room t).map fun (temperature, _) => { temperature }

end Options

end AgentPlan.Model
