import AgentPlan.Model.Provider
import AgentPlan.Request.Basic
import AgentPlan.Failure

/-!
# Settings

How the service is set up: which model it asks, and the bounds of its runs. `Settings.fault?` is the
first rule for settings that is broken, however they came about; `Settings.Fault` also has what can
be wrong with the variables that settings are read from.
-/

namespace AgentPlan

open Model (Provider Config)

/-- The settings of the service. The timeout is in seconds. Reference: `PlannerSettings`. -/
structure Settings where
  apiKey : String
  provider : Provider
  baseUrl : Option String
  model : String
  temperature : Binary.Extended
  timeout : UInt64
  maxTokens : UInt32
  maxSteps : UInt32
  repairAttempts : UInt32
  strictJson : Bool
  bindAddress : String
deriving DecidableEq

namespace Settings

/-- The settings that hold where nothing else is said, with a key. Reference: the defaults of
`PlannerSettings`. -/
def withKey (apiKey : String) : Settings :=
  { apiKey
    provider := .groq
    baseUrl := none
    model := "llama-3.3-70b-versatile"
    temperature := Config.defaultTemperature
    timeout := Config.defaultTimeout
    maxTokens := Config.defaultMaxTokens
    maxSteps := defaultMaxSteps
    repairAttempts := 2
    strictJson := true
    bindAddress := "0.0.0.0:8088" }

/-- What can be wrong with settings, or with the variables that they are read from. Reference: the
errors of `PlannerSettings.from_lookup` and `PlannerSettings.validate`. -/
inductive Fault where
  | noKey
  | unknownProvider (error : Model.Error)
  | badValue (name value reason : String)
  | badTruthValue (name value : String)
  | stepsOutOfRange (maxSteps : UInt32)
  | noTime
  | temperatureOutOfRange (temperature : Binary.Extended)
deriving DecidableEq, Repr

/-- The text of a number in a message, with every place written out. Reference: the message of
`PlannerSettings.validate` about the temperature. -/
def placesText : Binary.Extended → String
  | .nan => "NaN"
  | .infinite negative => if negative then "-inf" else "inf"
  | .finite b => Binary.Layout.places.text .single b

/-- The message of a fault. Reference: `PlannerSettings.from_lookup`, `PlannerSettings.validate`,
`parse_var` and `parse_bool`. -/
def Fault.message : Fault → String
  | .noKey => "LLM_API_KEY (or GROQ_API_KEY) is required"
  | .unknownProvider error => "LLM_PROVIDER: " ++ error.message
  | .badValue name value reason =>
    name ++ ": invalid value '" ++ value ++ "': " ++ reason
  | .badTruthValue name value => name ++ ": invalid boolean '" ++ value ++ "'"
  | .stepsOutOfRange n =>
    "PLANNER_MAX_STEPS must be between " ++ toString leastMaxSteps.toNat ++ " and " ++
      toString greatestMaxSteps.toNat ++ ", got " ++ toString n.toNat
  | .noTime => "LLM_TIMEOUT_SECONDS must be positive"
  | .temperatureOutOfRange t =>
    "LLM_TEMPERATURE must be between 0.0 and 2.0, got " ++ placesText t

/-- The failure to set up the service. All faults have the same code. Reference:
`AppError.config`. -/
def Fault.failure (f : Fault) : Failure :=
  .config f.message

/-- The temperature lies between 0 and 2, ends included. No temperature that is not a number does.
Reference: the last check in `PlannerSettings.validate`. -/
def temperate : Binary.Extended → Bool
  | .finite b => b.between 2
  | _ => false

/-- The first rule that settings break. The key is not looked at here. Reference:
`PlannerSettings.validate`. -/
def fault? (s : Settings) : Option Fault :=
  if s.maxSteps < leastMaxSteps ∨ greatestMaxSteps < s.maxSteps then
    some (.stepsOutOfRange s.maxSteps)
  else if s.timeout = 0 then some .noTime
  else if ¬temperate s.temperature then some (.temperatureOutOfRange s.temperature)
  else none

/-- The settings, if they break no rule. Reference: `PlannerSettings.validate`. -/
def checked (s : Settings) : Except Fault Settings :=
  match s.fault? with
  | some f => .error f
  | none => .ok s

/-- How the model is called under some settings. Reference: `PlannerSettings.provider_config`. -/
def config (s : Settings) : Config :=
  { provider := s.provider
    apiKey := some s.apiKey
    baseUrl := s.baseUrl
    model := s.model
    maxTokens := s.maxTokens
    temperature := s.temperature
    timeout := s.timeout }

end Settings

end AgentPlan
