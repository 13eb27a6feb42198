import AgentPlan.Startup.Run

/-!
# Program

Starts the service with the environment of the process and the file `.env`: prints the log, and why
the service cannot listen, if so.
-/

namespace AgentPlan.Program

/-- The variables that the start looks at. Reference: `PlannerSettings.from_lookup`, and the filter
in `main`. -/
def names : List String :=
  ["LLM_API_KEY", "GROQ_API_KEY", "LLM_PROVIDER", "LLM_BASE_URL", "LLM_MODEL", "LLM_TEMPERATURE",
    "LLM_TIMEOUT_SECONDS", "LLM_MAX_TOKENS", "PLANNER_MAX_STEPS", "PLANNER_REPAIR_ATTEMPTS",
    "PLANNER_STRICT_JSON", "PLANNER_BIND_ADDR", "RUST_LOG"]

/-- The values of the variables in the environment of the process. Reference:
`PlannerSettings.from_env`. -/
def environment : IO (String → Option String) := do
  let values ← names.filterMapM fun name => do
    return (← IO.getEnv name).map fun value => (name, value)
  return fun name => (values.find? fun v => v.1 = name).map Prod.snd

/-- The text of the file, empty if there is none. Reference: the first line of `main`. -/
def envFile : IO String := do
  try IO.FS.readFile ".env" catch _ => return ""

end AgentPlan.Program

/-- Starts the service: prints the log, and tells by its exit code whether the service could listen.
Reference: `main`. -/
def main : IO UInt32 := do
  let environment ← AgentPlan.Program.environment
  let start := AgentPlan.Startup.start environment (← AgentPlan.Program.envFile)
  for line in start.log do
    IO.println line.text
  match start.result with
  | .ok _ => return 0
  | .error refusal =>
    IO.eprint refusal.text
    return 1
