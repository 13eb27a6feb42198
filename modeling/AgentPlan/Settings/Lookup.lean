import AgentPlan.Settings.Basic
import AgentPlan.Text.Number

/-!
# Settings from variables

How settings are read from variables of an environment. White space around a value is dropped, and
a blank value is none. Variables are looked at in one order, and the first that is wrong counts.
-/

namespace AgentPlan.Settings

open Model (Provider)

/-- The value of a variable, if it has one. Reference: the argument of
`PlannerSettings.from_lookup`. -/
abbrev Variables := String → Option String

/-- The trimmed value of a variable that is not blank. A blank variable counts as absent. Reference:
`get` in `PlannerSettings.from_lookup`. -/
def present (vars : Variables) (name : String) : Option String :=
  ((vars name).map Text.trim).filter (· ≠ "")

/-- The value of a variable read with `read`, or the default if the variable is absent. Reference:
`parse_var`. -/
def readVariable (vars : Variables) (name : String) (default : α)
    (read : String → Except String α) : Except Fault α :=
  match present vars name with
  | none => .ok default
  | some value => (read value).mapError (.badValue name value)

/-- Reads a 32-bit float; also infinities and not-a-number, which the rules then refuse. Reference:
`parse_var` at the type of `temperature`. -/
def readSingle (value : String) : Except String Binary.Extended :=
  match Binary.Format.single.ofText? value with
  | some t => .ok t
  | none => .error "invalid float literal"

/-- Reads an integer of 32 bits without sign. Reference: `parse_var` at the type of `max_tokens`. -/
def readUInt32 (value : String) : Except String UInt32 :=
  ((Text.unsigned UInt32.size value).map UInt32.ofNat).mapError Text.NumberFault.message

/-- Reads an integer of 64 bits without sign. Reference: `parse_var` at the type of
`timeout_seconds`. -/
def readUInt64 (value : String) : Except String UInt64 :=
  ((Text.unsigned UInt64.size value).map UInt64.ofNat).mapError Text.NumberFault.message

/-- The truth value of a word in small letters, four for each. Reference: `parse_bool`. -/
def truthValue? (word : String) : Option Bool :=
  if word ∈ ["1", "true", "yes", "on"] then some true
  else if word ∈ ["0", "false", "no", "off"] then some false
  else none

/-- The truth value of a variable, in any letter case, or the default. The message has the word in
small letters. Reference: `parse_bool`. -/
def readTruth (vars : Variables) (name : String) (default : Bool) : Except Fault Bool :=
  match (present vars name).map Text.lower with
  | none => .ok default
  | some word =>
    match truthValue? word with
    | some b => .ok b
    | none => .error (.badTruthValue name word)

/-- The provider that a variable names, or the default. Reference: `LLM_PROVIDER` in
`PlannerSettings.from_lookup`. -/
def readProvider (vars : Variables) (name : String) (default : Provider) :
    Except Fault Provider :=
  match present vars name with
  | none => .ok default
  | some value => (Provider.ofName value).mapError .unknownProvider

/-- The key for the provider: of two variables the first one that is present. Reference: `api_key`
in `PlannerSettings.from_lookup`. -/
def readKey (vars : Variables) : Except Fault String :=
  match (present vars "LLM_API_KEY").or (present vars "GROQ_API_KEY") with
  | some key => .ok key
  | none => .error .noKey

/-- The settings that variables spell, whether they break a rule or not. The variables are read one
after another, and the first that is wrong is the fault. Reference: `PlannerSettings.from_lookup`,
without its last check. -/
def spelled (vars : Variables) : Except Fault Settings := do
  let default := withKey (← readKey vars)
  let provider ← readProvider vars "LLM_PROVIDER" default.provider
  let temperature ← readVariable vars "LLM_TEMPERATURE" default.temperature readSingle
  let timeout ← readVariable vars "LLM_TIMEOUT_SECONDS" default.timeout readUInt64
  let maxTokens ← readVariable vars "LLM_MAX_TOKENS" default.maxTokens readUInt32
  let maxSteps ← readVariable vars "PLANNER_MAX_STEPS" default.maxSteps readUInt32
  let repairAttempts ←
    readVariable vars "PLANNER_REPAIR_ATTEMPTS" default.repairAttempts readUInt32
  let strictJson ← readTruth vars "PLANNER_STRICT_JSON" default.strictJson
  return { default with
    provider, temperature, timeout, maxTokens, maxSteps, repairAttempts, strictJson
    baseUrl := present vars "LLM_BASE_URL"
    model := (present vars "LLM_MODEL").getD default.model
    bindAddress := (present vars "PLANNER_BIND_ADDR").getD default.bindAddress }

/-- The settings of an environment: those that it spells, if they break no rule. Reference:
`PlannerSettings.from_lookup`. -/
def ofVariables (vars : Variables) : Except Fault Settings := do
  (← spelled vars).checked

end AgentPlan.Settings
