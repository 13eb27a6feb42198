import AgentPlan.Settings.Basic
import AgentPlan.Json.Printer
import AgentPlan.Json.Reader

/-!
# Settings as texts

The JSON text of settings, the line that a log has about them, and how settings are read from a JSON
text. The key is in neither of the texts that are written.
-/

namespace AgentPlan.Settings

open Json (Reader)
open Model (Provider)

/-- The JSON text of settings, without the key. Reference: the encoder of `PlannerSettings`. -/
def text (s : Settings) : String :=
  Json.recordText [("provider", Json.stringText s.provider.name),
    ("base_url", (s.baseUrl.map Json.stringText).getD "null"),
    ("model", Json.stringText s.model), ("temperature", Json.singleOrNull s.temperature),
    ("timeout_seconds", toString s.timeout.toNat), ("max_tokens", toString s.maxTokens.toNat),
    ("max_steps", toString s.maxSteps.toNat),
    ("repair_attempts", toString s.repairAttempts.toNat),
    ("strict_json", toString s.strictJson), ("bind_addr", Json.stringText s.bindAddress)]

/-- Floats in the log have a point down to `0.0001` and below `10^16`, and `.0` after whole
numbers. -/
def logLayout : Binary.Layout := ⟨some (-4, 15), true, false, .up⟩

/-- The temperature in the log. Reference: `temperature` in the log form of `PlannerSettings`. -/
def temperatureLabel : Binary.Extended → String
  | .finite b => logLayout.text .single b
  | t => placesText t

/-- What the log says instead of the key: whether there is one. Reference: `redact`. -/
def keyLabel (key : String) : String :=
  if key.isEmpty then "<unset>" else "<redacted>"

/-- An optional text in the log, quoted. Reference: `base_url` in the log form of
`PlannerSettings`. -/
def optionLabel : Option String → String
  | none => "None"
  | some s => "Some(" ++ Text.quoted s ++ ")"

/-- Settings in the log, on one line. The key is in none of its fields (`key_unseen`). Reference:
the log form of `PlannerSettings`. -/
def label (s : Settings) : String :=
  let fields := [("api_key", Text.quoted (keyLabel s.apiKey)), ("provider", s.provider.label),
    ("base_url", optionLabel s.baseUrl), ("model", Text.quoted s.model),
    ("temperature", temperatureLabel s.temperature),
    ("timeout_seconds", toString s.timeout.toNat), ("max_tokens", toString s.maxTokens.toNat),
    ("max_steps", toString s.maxSteps.toNat),
    ("repair_attempts", toString s.repairAttempts.toNat),
    ("strict_json", toString s.strictJson), ("bind_addr", Text.quoted s.bindAddress)]
  "PlannerSettings \x7b " ++ String.intercalate ", " (fields.map fun f => f.1 ++ ": " ++ f.2) ++
    " \x7d"

/-- Reads settings, all of whose fields have to be there; only the address of the provider may be
null. The rules for settings are not checked. Reference: the decoder of `PlannerSettings`. -/
def reader : Reader Settings := fun room t =>
  let fields := .cons (.required "api_key" .text) <| .cons (.required "provider" Provider.reader) <|
    .cons (.nullable "base_url" .text) <| .cons (.required "model" .text) <|
    .cons (.required "temperature" .single) <| .cons (.required "timeout_seconds" .uint64) <|
    .cons (.required "max_tokens" .uint32) <| .cons (.required "max_steps" .uint32) <|
    .cons (.required "repair_attempts" .uint32) <| .cons (.required "strict_json" .bool) <|
    .cons (.required "bind_addr" .text) .nil
  (Reader.record "PlannerSettings" fields room t).map
    fun (apiKey, provider, baseUrl, model, temperature, timeout, maxTokens, maxSteps,
        repairAttempts, strictJson, bindAddress, _) =>
      { apiKey, provider, baseUrl, model, temperature, timeout, maxTokens, maxSteps,
        repairAttempts, strictJson, bindAddress }

end AgentPlan.Settings
