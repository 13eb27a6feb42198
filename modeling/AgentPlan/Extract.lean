import AgentPlan.Json.Tree
import AgentPlan.Text.Basic

/-!
# Values in a model's reply

A model is asked for JSON only, but likes to put it between words or fences. The trimmed reply is
read as it is; if it is not JSON, the piece from its first opening brace to its last closing brace
is read.
-/

namespace AgentPlan.Extract

/-- The piece from the first opening brace to the last closing brace, if they stand in this order.
Reference: `extract_json_object`. -/
def braced? (cs : List Char) : Option (List Char) :=
  let fromOpen := cs.dropWhile (· ≠ '\x7b')
  let piece := (fromOpen.reverse.dropWhile (· ≠ '\x7d')).reverse
  if piece.isEmpty then none else some piece

/-- The value in a reply, or the message of the first fault in the piece that was read last. The
value need not be an object. Reference: `parse_model_json`. -/
def value (reply : String) : Except String Json :=
  let whole := Text.trim reply
  match Json.parse whole with
  | .ok v => .ok v
  | .error message =>
    match braced? whole.toList with
    | some piece => Json.parse (String.ofList piece)
    | none => .error message

end AgentPlan.Extract
