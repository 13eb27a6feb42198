import AgentPlan.Model.Reply
import AgentPlan.Planner.Event
import AgentPlan.Failure
import AgentPlan.Binary.Shortest

/-!
# Calls to a model

One call sends an instruction and a prompt and waits, for a limited time, for a reply with a text.
What the model does is given by a script, the outcomes of its calls in order; a call takes the first
one, whatever becomes of it. `complete` makes a call, `receive` judges its outcome.
-/

namespace AgentPlan

namespace Model

/-- What is sent in a call: an instruction for the model, and a prompt. Reference: the arguments of
`ModelClient.complete`. -/
structure Call where
  system : String
  user : String
deriving DecidableEq, Repr

/-- What a call comes to, and after how many milliseconds. Reference: what
`LlmProvider.send_message` gives. -/
structure Outcome where
  result : Except Error Reply
  delay : Nat

/-- The outcomes of the calls to a model, in order. All that a model does to a run is in its
script. -/
abbrev Script := List Outcome

/-- The outcome of a call when the script is at its end: an error at once. -/
def unscripted : Outcome :=
  ⟨.error (.other "No more scripted responses available"), 0⟩

/-- The outcome of the next call and the script after it. A script at its end stays there. -/
def Script.next : Script → Outcome × Script
  | [] => (unscripted, [])
  | outcome :: rest => (outcome, rest)

/-- Why a call gave no text: the time limit, a reply without a text, or an error. Reference: the
failures of `ModelClient.complete` and `extract_response_text`. -/
inductive Fault where
  | timedOut (milliseconds : Nat)
  | noText (model : String) (stopReason : StopReason)
  | failed (error : Error)
deriving DecidableEq, Repr

/-- A duration in seconds as a 32-bit float: the whole seconds and the nanoseconds are rounded
first, and then their sum. Reference: the duration in the message of `ModelClient.complete`. -/
def seconds (milliseconds : Nat) : Binary.Extended :=
  let single := Binary.Format.single
  match single.round false (milliseconds / 1000) 1,
      single.round false (milliseconds % 1000 * 1000000) 1, single.round false 1000000000 1 with
  | .finite whole, .finite nanos, .finite unit =>
    match single.div nanos unit with
    | .finite part => single.addMagnitudes whole part
    | e => e
  | e, _, _ => e

/-- The text of a duration in seconds, as it stands in the message about the time limit. Reference:
the message of `ModelClient.complete`. -/
def secondsText (milliseconds : Nat) : String :=
  match seconds milliseconds with
  | .finite b => Binary.Layout.places.text .single b
  | .infinite _ => "inf"
  | .nan => "NaN"

/-- The message of a fault. Reference: the messages of `ModelClient.complete` and
`extract_response_text`. -/
def Fault.message : Fault → String
  | .timedOut ms => "model call timed out after " ++ secondsText ms ++ "s"
  | .noText model stopReason =>
    "model response contained no text content (model: " ++ model ++ ", stop_reason: " ++
      stopReason.text ++ ")"
  | .failed error => error.message

/-- The text of a reply, or that it has none. Reference: `extract_response_text`. -/
def Reply.toText (r : Reply) : Except Fault String :=
  match r.output with
  | some text => .ok text
  | none => .error (.noText r.model r.stopReason)

/-- The text that a call got within the time limit. A reply that comes exactly at the limit is in
time. Reference: `ModelClient.complete`, from the time limit on. -/
def receive (timeout : Nat) (o : Outcome) : Except Fault String :=
  if timeout < o.delay then .error (.timedOut timeout)
  else match o.result with
    | .ok reply => reply.toText
    | .error error => .error (.failed error)

/-- What is noted when a call comes back within the time limit: that the text is what the model
wrote while thinking. Reference: the log line of `extract_response_text`. -/
def receiveEvents (timeout : Nat) (o : Outcome) : List Event :=
  if timeout < o.delay then []
  else match o.result with
    | .ok reply => if reply.usesThinking then [.thinkingUsed reply.model] else []
    | .error _ => []

end Model

/-- Something that can be observed of the service: it calls the model, it hands a document and its
defect to a repairer other than the model, or it notes an event. -/
inductive Happening where
  | called (call : Model.Call)
  | repairAsked (document defect : String)
  | logged (event : Event)
deriving DecidableEq, Repr

namespace Happening

/-- The calls among some happenings, in order. Reference: the calls of
`LlmProvider.send_message`. -/
def calls (hs : List Happening) : List Model.Call :=
  hs.filterMap fun
    | .called c => some c
    | _ => none

@[simp] theorem calls_nil : calls [] = [] := rfl

@[simp] theorem calls_called (c : Model.Call) (hs : List Happening) :
    calls (.called c :: hs) = c :: calls hs := rfl

@[simp] theorem calls_logged (e : Event) (hs : List Happening) :
    calls (.logged e :: hs) = calls hs := rfl

/-- The calls of what happens in two stretches are those of the first and then those of the
second. -/
@[simp] theorem calls_append (hs hs' : List Happening) :
    calls (hs ++ hs') = calls hs ++ calls hs' :=
  List.filterMap_append

/-- Nothing is called by what is only noted. -/
@[simp] theorem calls_map_logged (es : List Event) : calls (es.map .logged) = [] := by
  induction es with
  | nil => rfl
  | cons e rest ih => rw [List.map_cons, calls_logged, ih]

/-- The documents and defects handed to a repairer, in order. Reference: the calls of
`DefectRepairer.repair`. -/
def repairs (hs : List Happening) : List (String × String) :=
  hs.filterMap fun
    | .repairAsked document defect => some (document, defect)
    | _ => none

/-- The events among some happenings: the log. -/
def events (hs : List Happening) : List Event :=
  hs.filterMap fun
    | .logged e => some e
    | _ => none

@[simp] theorem events_nil : events [] = [] := rfl

@[simp] theorem events_called (c : Model.Call) (hs : List Happening) :
    events (.called c :: hs) = events hs := rfl

@[simp] theorem events_logged (e : Event) (hs : List Happening) :
    events (.logged e :: hs) = e :: events hs := rfl

/-- What is noted in two stretches is what is noted in the first and then in the second. -/
@[simp] theorem events_append (hs hs' : List Happening) :
    events (hs ++ hs') = events hs ++ events hs' :=
  List.filterMap_append

/-- What is only noted is events. -/
@[simp] theorem events_map_logged (es : List Event) : events (es.map .logged) = es := by
  induction es with
  | nil => rfl
  | cons e rest ih => rw [List.map_cons, events_logged, ih]

end Happening

namespace Model

/-- A finished call: its text or failure, the script after it, and what happened. -/
structure Completion where
  result : Except Failure String
  script : Script
  transcript : List Happening

/-- Makes a call. It takes one outcome of the script whatever comes of it, and is not repeated.
Reference: `ModelClient.complete`. -/
def complete (timeout : Nat) (call : Call) (script : Script) : Completion :=
  let (outcome, rest) := script.next
  { result := (receive timeout outcome).mapError fun f => .transport f.message
    script := rest
    transcript := .called call :: (receiveEvents timeout outcome).map .logged }

section
variable {timeout : Nat} {call : Call} {script : Script}

/-- A call leaves the script after its next outcome, also when it fails. -/
@[simp] theorem complete_script : (complete timeout call script).script = script.next.2 := rfl

/-- A call without a text fails. -/
theorem complete_result_of_fault {fault : Fault}
    (h : receive timeout script.next.1 = .error fault) :
    (complete timeout call script).result = .error (.transport fault.message) := by
  show (receive timeout script.next.1).mapError _ = _
  rw [h]
  rfl

/-- A call with a text gives it. -/
theorem complete_result_of_text {text : String} (h : receive timeout script.next.1 = .ok text) :
    (complete timeout call script).result = .ok text := by
  show (receive timeout script.next.1).mapError _ = _
  rw [h]
  rfl

end

end Model

end AgentPlan
