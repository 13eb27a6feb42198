import AgentPlan.Plan.Decode

/-!
# Times to live of a draft

A step may state its time to live as a float with an integral value. Before a draft is read as a
plan, such a float is replaced by the integer that it is equal to.
-/

namespace AgentPlan

open Json (Members)

/-- The integer that a number is equal to, if it has 64 bits. Integers beyond the signed ones are
not read by way of a float here; `Number.roundedInt64?_eq_toInt64?` shows that this makes no
difference. Reference: `integral_ttl`. -/
def Json.Number.toInt64? (n : Json.Number) : Option Int64 :=
  let value := match n with
    | .int i => some i
    | .float b => b.toInt?
  value.bind Json.signed?

/-- The time to live that a value states: that of a number, and none for any other value. Reference:
`integral_ttl`. -/
def Json.ttl? : Json → Option Int64
  | .num n => n.toInt64?
  | _ => none

namespace Draft

/-- A time to live as an integer; another value as it is. Reference: the assignment in
`with_integer_ttls`. -/
def integerTtl (v : Json) : Json :=
  match v.ttl? with
  | some t => .num (.int t.toInt)
  | none => v

/-- A step with an integer for its time to live. A step that is no object stays as it is. Reference:
the loop in `with_integer_ttls`. -/
def integerStep : Json → Json
  | .obj m => .obj (Members.modify "cache_ttl_seconds" integerTtl m)
  | v => v

/-- Steps with integers for their times to live. Reference: the loop in `with_integer_ttls`. -/
def integerSteps : Json → Json
  | .arr steps => .arr (steps.map integerStep)
  | v => v

/-- A draft with integers for the times to live of its steps, and the same otherwise. Reference:
`with_integer_ttls`. -/
def withIntegerTtls : Json → Json
  | .obj m => .obj (Members.modify "steps" integerSteps m)
  | v => v

end Draft

end AgentPlan
