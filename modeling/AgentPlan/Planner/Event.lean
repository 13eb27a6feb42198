import AgentPlan.Plan.Audit

/-!
# The log

What the service notes while it works. An event has a level and named fields; the text of an event,
if it has one, is its field `message`.
-/

namespace AgentPlan

/-- How important an event is. Reference: the macros with which an event is noted. -/
inductive Level where
  | debug
  | info
  | warn
deriving DecidableEq, Repr

/-- The value of a field: a text or a number. -/
inductive EventField where
  | text (value : String)
  | number (value : Nat)
deriving DecidableEq, Repr

/-- Something that the service notes, with what it notes of it. The planner notes the events up to
`repairingPlan`; the repairer, the model's client, the web service and the provider note the others.
Reference: the log lines of `PlanOrchestrator.run` and of the functions that it calls. -/
inductive Event where
  | drafting (wanted limit : UInt32)
  | planningFailed (error : String)
  | parsing (length : Nat)
  | notJson (error : String)
  | repairingText (round : UInt32) (defect : String)
  | normalizing (round : Option UInt32)
  | validating (attempt : UInt32)
  | finding (finding : Finding)
  | done (steps : Nat) (attempts : UInt32)
  | exhausted (attempts : UInt32) (error : String)
  | repairingPlan (round attempt : UInt32)
  | repairReceived (length : Nat)
  | thinkingUsed (model : String)
  | requested (conversation : String) (maxSteps : UInt32)
  | refused (code message : String)
  | completionReceived (provider : String) (status length : Nat)
deriving DecidableEq, Repr

namespace Event

/-- The level of an event. A repair that fails has no event of its own, so a run that it ends has no
warning (`failed_repair_unnoticed`). Reference: the log lines of `PlanOrchestrator.run`. -/
def level : Event → Level
  | .planningFailed _ | .notJson _ | .finding _ | .exhausted .. | .refused .. => .warn
  | .repairingText .. | .repairingPlan .. => .info
  | _ => .debug

/-- A number as a field. -/
def count (n : UInt32) : EventField :=
  .number n.toNat

/-- The fields of an event by name, the text among them. Reference: the log lines of
`PlanOrchestrator.run` and of the functions that it calls. -/
def fields : Event → List (String × EventField)
  | .drafting wanted limit => [("state", .text "drafting"),
    ("requested_max_steps", count wanted), ("max_steps", count limit)]
  | .planningFailed error => [("error", .text error), ("message", .text "planning call failed")]
  | .parsing length => [("state", .text "parsing"), ("len", .number length)]
  | .notJson error => [("error", .text error),
    ("message", .text "model output is not JSON and no repair budget remains")]
  | .repairingText round defect => [("round", count round), ("defect", .text defect),
    ("message", .text "repairing unparseable output")]
  | .normalizing none => [("state", .text "normalizing")]
  | .normalizing (some round) => [("state", .text "normalizing"), ("round", count round)]
  | .validating attempt => [("state", .text "validating"), ("attempt", count attempt)]
  | .finding f => [("finding", .text f.text), ("message", .text "plan audit")]
  | .done steps attempts => [("state", .text "done"), ("steps", .number steps),
    ("attempts", count attempts)]
  | .exhausted attempts error => [("attempts", count attempts), ("error", .text error),
    ("message", .text "repair budget exhausted")]
  | .repairingPlan round attempt => [("round", count round), ("attempt", count attempt),
    ("message", .text "repairing invalid plan")]
  | .repairReceived length => [("len", .number length),
    ("message", .text "repair response received")]
  | .thinkingUsed model => [("model", .text model),
    ("message", .text "content field empty, falling back to thinking field")]
  | .requested conversation maxSteps => [("conversation_id", .text conversation),
    ("max_steps", count maxSteps), ("message", .text "plan request")]
  | .refused code message => [("code", .text code), ("message", .text message)]
  | .completionReceived provider status length => [("provider", .text provider),
    ("status", .number status), ("len", .number length),
    ("message", .text "chat completion received")]

end Event

end AgentPlan
