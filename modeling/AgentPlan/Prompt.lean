import AgentPlan.Request.Reader
import AgentPlan.Text.Basic

/-!
# Prompts

The texts that the model is given: an instruction with the request and the rules for plans, and, for
a repair, the document with what is wrong with it. A prompt depends on its arguments only.
-/

namespace AgentPlan.Prompt

/-- The instruction for the model as a planner. Reference: `PLANNER_SYSTEM_PROMPT`. -/
def plannerInstruction : String := "You are a strict JSON planner."

/-- The instruction for the model as a repairer. Reference: `REPAIR_SYSTEM_PROMPT`. -/
def repairInstruction : String :=
  "You are a JSON repair assistant. Output ONLY valid JSON matching the required schema. " ++
    "No markdown, no extra text."

/-- The rules for plans, line by line. They do not depend on the request. Reference: `RULES`. -/
def rules : List String := [
  "## CRITICAL RULES (STRICT)",
  "1) Output MUST be VALID JSON. Output ONLY JSON. No markdown, no comments, no extra text.",
  "2) Use ONLY tools listed in toolCatalog.tools[].name. NEVER invent tools.",
  "3) Use ONLY UI components listed in uiComponentCatalog.components[].name. NEVER invent components.",
  "4) Steps must be <= constraints.maxSteps.",
  "5) If UI is not requested or not appropriate, set \"uiIntent\": null.",
  "6) Tool usage rule (VERY IMPORTANT):",
  "   - ONLY add tool steps when tools are NECESSARY to fulfill the user request.",
  "   - If the user asks a general knowledge question, opinion, explanation, or anything that tools cannot answer,",
  "     then return:",
  "       - \"steps\": []",
  "       - \"uiIntent\": null",
  "     and put in \"safety\": \x7b\"needAssistantAnswer\": true, \"reason\": \"...\"\x7d.",
  "   - If tools are available and relevant, plan the minimal set of tool calls needed.",
  "7) NEVER invent data. If tools are needed to compute numbers or fetch products, use tools.",
  "8) Do NOT generate HTML or code.",
  "",
  "## OUTPUT SCHEMA (MUST MATCH EXACTLY)",
  "\x7b",
  "  \"schema\": \"tool_plan.v1\",",
  "  \"rationale\": \"string (required, short)\",",
  "  \"steps\": [",
  "    \x7b",
  "      \"id\": \"step_1\",",
  "      \"tool\": \"tool.name\",",
  "      \"args\": \x7b \x7d,",
  "      \"cache_ttl_seconds\": null",
  "    \x7d",
  "  ],",
  "  \"uiIntent\": null OR \x7b",
  "    \"component_tree\": \x7b",
  "      \"type\": \"layout|component\",",
  "      \"name\": \"string\",",
  "      \"props\": \x7b \x7d,",
  "      \"children\": [ ... ]",
  "    \x7d,",
  "    \"bindings\": [ ... ],",
  "    \"subscriptions\": [ ... ]",
  "  \x7d,",
  "  \"safety\": \x7b",
  "    \"needAssistantAnswer\": false,",
  "    \"reason\": \"optional string\"",
  "  \x7d",
  "\x7d",
  "",
  "## REQUIRED FIELD RULES",
  "- Always include \"schema\", \"rationale\", \"steps\", \"uiIntent\", \"safety\".",
  "- Every step MUST include: id, tool, args, cache_ttl_seconds (cache_ttl_seconds can be null).",
  "- Step ids MUST be unique within the plan.",
  "- If steps is empty, uiIntent MUST be null.",
  "",
  "## component_tree conventions",
  "- For layouts use:",
  "  \x7b\"type\":\"layout\",\"name\":\"column|row|grid\",\"props\":\x7b\"gap\":12\x7d,\"children\":[...]\x7d",
  "- For components use:",
  "  \x7b\"type\":\"component\",\"name\":\"<componentNameFromCatalog>\",\"props\":\x7b...\x7d,\"children\":[]\x7d",
  "",
  "## bindings conventions",
  "- A binding maps UI props to tool result keys or computed keys:",
  "  \x7b",
  "    \"componentPath\": \"/root/children/0\",",
  "    \"prop\": \"dataKey\",",
  "    \"from\": \"toolResultKeyOrComputedKey\"",
  "  \x7d",
  "",
  "## subscriptions conventions",
  "- A subscription declares event-driven refresh (only if relevant):",
  "  \x7b",
  "    \"event\": \"<subject>\",",
  "    \"refresh\": [",
  "      \x7b \"tool\": \"<toolName>\", \"args\": \x7b \x7d, \"patchPath\": \"/data/<toolName>\" \x7d",
  "    ]",
  "  \x7d",
  "",
  "## EXAMPLES (DO NOT COPY VERBATIM)",
  "",
  "Example A: General knowledge question (no tools)",
  "\x7b",
  "  \"schema\": \"tool_plan.v1\",",
  "  \"rationale\": \"This is a general knowledge question; tools are not required.\",",
  "  \"steps\": [],",
  "  \"uiIntent\": null,",
  "  \"safety\": \x7b",
  "    \"needAssistantAnswer\": true,",
  "    \"reason\": \"Answer should come from assistant knowledge, not tools.\"",
  "  \x7d",
  "\x7d",
  "",
  "Example B: Tool-backed question (minimal tools + optional UI)",
  "\x7b",
  "  \"schema\": \"tool_plan.v1\",",
  "  \"rationale\": \"Need tool data to compute the answer and present it visually.\",",
  "  \"steps\": [",
  "    \x7b \"id\":\"step_1\",\"tool\":\"<tool1>\",\"args\":\x7b\x7d,\"cache_ttl_seconds\":null \x7d,",
  "    \x7b \"id\":\"step_2\",\"tool\":\"<tool2>\",\"args\":\x7b\"rangeDays\":30\x7d,\"cache_ttl_seconds\":null \x7d",
  "  ],",
  "  \"uiIntent\": \x7b",
  "    \"component_tree\": \x7b",
  "      \"type\":\"layout\",",
  "      \"name\":\"column\",",
  "      \"props\":\x7b\"gap\":12\x7d,",
  "      \"children\":[",
  "        \x7b\"type\":\"component\",\"name\":\"<componentFromCatalog>\",\"props\":\x7b\"title\":\"...\"\x7d,\"children\":[]\x7d",
  "      ]",
  "    \x7d,",
  "    \"bindings\": [],",
  "    \"subscriptions\": []",
  "  \x7d,",
  "  \"safety\": \x7b",
  "    \"needAssistantAnswer\": false,",
  "    \"reason\": \"\"",
  "  \x7d",
  "\x7d",
  "",
  "Return ONLY JSON."]

/-- The prompt for a request, whose limit on the number of steps is already clamped. Catalogs,
context and limits stand in it as indented JSON, and the prompt of the user without its blank ends.
Reference: `build_planner_prompt`. -/
def plan (r : Request) : String :=
  "You are a PLANNER for a microservice system.\n" ++
  "You DO NOT answer the user directly.\n" ++
  "You DO NOT execute tools.\n" ++
  "You ONLY output a plan JSON that the backend will execute.\n" ++
  "\n" ++
  "## INPUT\n" ++
  "User prompt:\n" ++
  Text.trim r.prompt ++ "\n\n" ++
  "Conversation context:\n" ++
  (Json.obj r.context).pretty ++ "\n\n" ++
  "Available tools (authoritative):\n" ++
  (Json.obj r.tools).pretty ++ "\n\n" ++
  "Available UI components (authoritative):\n" ++
  (Json.obj r.components).pretty ++ "\n\n" ++
  "Constraints:\n" ++
  r.limits.pretty ++ "\n\n" ++
  String.intercalate "\n" rules

/-- The prompt for the repair of a document with a defect, both of which stand in it as they are.
Reference: `build_repair_prompt`. -/
def repair (document defect : String) : String :=
  "The previous JSON is invalid.\n\n" ++
  "Validation error:\n" ++ defect ++ "\n\n" ++
  "Here is the invalid JSON (or near-JSON):\n" ++ document ++ "\n\n" ++
  "Return ONLY corrected JSON with required fields: schema, rationale, " ++
  "steps[].id, steps[].tool, steps[].args, uiIntent.component_tree or uiIntent=null."

end AgentPlan.Prompt
