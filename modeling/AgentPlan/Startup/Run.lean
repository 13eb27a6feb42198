import AgentPlan.Settings.Lookup
import AgentPlan.Settings.Encode
import AgentPlan.Startup.EnvFile
import AgentPlan.Startup.Filter

/-!
# Start of the service

What happens before the service listens: the settings are read from the environment and a file, and
the address to listen at is looked at. What is noted on the way goes to the log, and the first thing
that is wrong ends the start.
-/

namespace AgentPlan.Startup

/-- The part of the program that writes the log. -/
def part : String := "toolplan_service"

/-- A line of the log: how important it is, its text, and what it shows by name after it. -/
structure Line where
  verbosity : Verbosity
  message : String
  shown : List (String × String)
deriving DecidableEq, Repr

/-- The name of a verbosity in a line. -/
def Verbosity.name : Verbosity → String
  | .off => "OFF"
  | .error => "ERROR"
  | .warn => "WARN"
  | .info => "INFO"
  | .debug => "DEBUG"
  | .trace => "TRACE"

/-- The names of a line's fields. Its text counts as one, so that a filter can ask for it. -/
def Line.fields (l : Line) : List String :=
  "message" :: l.shown.map Prod.fst

/-- The text of a line, with the fields in the order in which they are shown. -/
def Line.text (l : Line) : String :=
  l.verbosity.name ++ " " ++ part ++ ": " ++ l.message ++
    String.join (l.shown.map fun f => " " ++ f.1 ++ "=" ++ f.2)

/-- Why the service does not start, and what that comes from. Reference: the contexts of the errors
of `main`. -/
structure Refusal where
  message : String
  reason : String
deriving DecidableEq, Repr

/-- The text of a refusal. The lines of the reason are indented. -/
def Refusal.text (r : Refusal) : String :=
  "Error: " ++ r.message ++ "\n\nCaused by:\n    " ++
    String.intercalate "\n    " (r.reason.splitOn "\n") ++ "\n"

/-- What is wrong with an address to listen at: it has no colon, or what follows the last one is no
number of 16 bits. Whether the address can be used is not known here. -/
def addressFault? (address : String) : Option String :=
  match (address.splitOn ":").reverse with
  | number :: _ :: _ =>
    match Text.unsigned UInt16.size number with
    | .ok _ => none
    | .error _ => some "invalid port value"
  | _ => some "invalid socket address"

/-- What is noted about settings: what they are, without the key, and that one of them has no
effect. Reference: the log lines of `main`. -/
def settingsLines (s : Settings) : List Line :=
  ⟨.info, "configuration loaded", [("settings", s.label)]⟩ ::
    if s.strictJson then []
    else [⟨.debug, "PLANNER_STRICT_JSON=false has no effect; output is always parsed as JSON", []⟩]

/-- A finished start: the lines that the log shows, and the settings of the service that is about to
listen, or why it does not. Reference: `main`, up to its listener. -/
structure Start where
  log : List Line
  result : Except Refusal Settings

/-- Starts the service with the variables of the environment and the text of a file. Reference:
`main`, up to its listener. -/
def start (environment : String → Option String) (file : String) : Start :=
  let vars := merged environment (readFile environment file)
  let filter := Filter.ofVariable (vars "RUST_LOG")
  match Settings.ofVariables vars with
  | .error f => ⟨[], .error ⟨"invalid configuration", f.message⟩⟩
  | .ok s =>
    { log := (settingsLines s).filter fun l => filter.shows part l.fields l.verbosity
      result := match addressFault? s.bindAddress with
        | some reason => .error ⟨"failed to bind to " ++ s.bindAddress, reason⟩
        | none => .ok s }

end AgentPlan.Startup
