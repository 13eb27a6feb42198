/-!
# Failures

Why the service cannot answer a request or start. Each failure has a message, and a code that stays
the same whatever the message says.
-/

namespace AgentPlan

/-- A failure of the service: a bad request, a model that did not answer, an answer that is not
JSON, a document that is no plan, a repair budget that is spent, or bad settings. Reference:
`AppError`. -/
inductive Failure where
  | inputValidation (message : String)
  | transport (message : String)
  | parse (message : String)
  | schemaValidation (message : String)
  | exhausted (attempts : UInt32) (lastError : String)
  | config (message : String)
deriving DecidableEq, Repr

namespace Failure

/-- The code of a failure, which callers of the web service see. Reference: `AppError.kind`. -/
def code : Failure → String
  | .inputValidation _ => "InputValidationError"
  | .transport _ => "TransportError"
  | .parse _ => "ParseError"
  | .schemaValidation _ => "SchemaValidationError"
  | .exhausted .. => "PlannerExhaustedError"
  | .config _ => "ConfigError"

/-- The message of a failure. That of a spent budget has the number of validations and the last
report. Reference: the error texts of `AppError`. -/
def message : Failure → String
  | .inputValidation m | .transport m | .parse m | .schemaValidation m | .config m => m
  | .exhausted attempts lastError =>
    "Planner output invalid after " ++ toString attempts.toNat ++ " validation attempt(s): " ++
      lastError

end Failure

end AgentPlan
