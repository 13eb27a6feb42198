import AgentPlan.Prompt
import AgentPlan.Proofs.Json.Printed

/-!
# Planning prompts are unambiguous

A planning prompt shows the prompt of the user as it is, and then four blocks of indented JSON, each
after an empty line and a title. Whatever the user wrote, the last empty lines of the prompt are
those before its own blocks, because no block has an empty line in itself. So the blocks can be cut
off from the right, one after another, and what is left is the prompt of the user
(`plan_clamp_eq_iff`).
-/

namespace AgentPlan.Prompt

open Json (Members)
open Text (NoEmptyLine noEmptyLine_line append_emptyLine_inj)

/-- What every planning prompt starts with. -/
def opening : String :=
  "You are a PLANNER for a microservice system.\n" ++
  "You DO NOT answer the user directly.\n" ++
  "You DO NOT execute tools.\n" ++
  "You ONLY output a plan JSON that the backend will execute.\n" ++
  "\n" ++
  "## INPUT\n" ++
  "User prompt:\n"

/-- The block of a value, after an empty line. -/
def block (title : String) (v : Json) : String :=
  "\n\n" ++ (title ++ v.pretty)

/-- A planning prompt by its blocks. -/
theorem plan_eq_blocks (r : Request) :
    plan r = opening ++ Text.trim r.prompt ++
      block "Conversation context:\n" (.obj r.context) ++
      block "Available tools (authoritative):\n" (.obj r.tools) ++
      block "Available UI components (authoritative):\n" (.obj r.components) ++
      block "Constraints:\n" r.limits ++ ("\n\n" ++ String.intercalate "\n" rules) := by
  delta plan opening block
  simp only [String.append_assoc]

/-- A title is one line with its line break. -/
def IsTitle (title : String) : Prop :=
  ∃ line, title = line ++ "\n" ∧ '\n' ∉ line.toList ∧ line.toList ≠ []

variable {title : String}

/-- The title and the object of a block have no empty line. -/
theorem noEmptyLine_block (h : IsTitle title) (m : Members) :
    NoEmptyLine ("\n" ++ (title ++ (Json.obj m).pretty)) := by
  obtain ⟨line, rfl, hline, hne⟩ := h
  have hobject : NoEmptyLine ("\n" ++ (Json.obj m).pretty) :=
    (Json.noEmptyLine_pretty _).lineBreak (Json.head?_pretty_obj m) (by decide)
  rw [String.append_assoc, ← String.append_assoc]
  exact (noEmptyLine_line hline hne).append hobject

/-- Texts with a block at their ends are equal only if the blocks and the texts before them are. -/
theorem append_block_inj (h : IsTitle title) {x y : String} {m n : Members} :
    x ++ block title (.obj m) = y ++ block title (.obj n) ↔
      x = y ∧ (Json.obj m).pretty = (Json.obj n).pretty := by
  rw [block, block, append_emptyLine_inj (noEmptyLine_block h m) (noEmptyLine_block h n),
    String.append_right_inj]

/-- How the limits of a request are shown. -/
theorem pretty_limits (r : Request) :
    r.limits.pretty = "\x7b\n  \"maxSteps\": " ++ toString r.maxSteps.toNat ++ "\n\x7d" := by
  have hpretty : r.limits.pretty = "\x7b" ++ Json.newLine 1 ++ Json.stringText "maxSteps" ++ ": " ++
      toString r.maxSteps.toNat ++ "" ++ Json.newLine 0 ++ "\x7d" := rfl
  have hbefore : "\x7b" ++ Json.newLine 1 ++ Json.stringText "maxSteps" ++ ": " =
      "\x7b\n  \"maxSteps\": " := by decide
  have hafter : "" ++ Json.newLine 0 ++ "\x7d" = "\n\x7d" := by decide
  rw [hpretty, hbefore, ← hafter]
  simp only [String.append_assoc]

/-- The limits of requests are shown alike only if they are equal. -/
theorem pretty_limits_inj {a b : Request} :
    a.limits.pretty = b.limits.pretty ↔ a.maxSteps = b.maxSteps := by
  rw [pretty_limits, pretty_limits, String.append_left_inj, String.append_right_inj]
  constructor
  · exact fun h => UInt32.toNat_inj.1 (Text.toString_injective h)
  · exact fun h => by rw [h]

/-- A prompt states a limit on the number of steps: before the rules stands the block of constraints
with this limit. -/
def StatesLimit (prompt : String) (limit : UInt32) : Prop :=
  ∃ before, prompt = before ++ ("\n\nConstraints:\n\x7b\n  \"maxSteps\": " ++
    toString limit.toNat ++ "\n\x7d") ++ ("\n\n" ++ String.intercalate "\n" rules)

/-- The block with the limits of a request. -/
theorem block_limits (r : Request) :
    block "Constraints:\n" r.limits =
      "\n\nConstraints:\n\x7b\n  \"maxSteps\": " ++ toString r.maxSteps.toNat ++ "\n\x7d" := by
  have hbefore : "\n\n" ++ ("Constraints:\n" ++ "\x7b\n  \"maxSteps\": ") =
      "\n\nConstraints:\n\x7b\n  \"maxSteps\": " := by decide
  rw [block, pretty_limits, ← hbefore]
  simp only [String.append_assoc]

/-- A planning prompt states the limit of its request, and no other one. -/
theorem statesLimit_plan_iff {r : Request} {limit : UInt32} :
    StatesLimit (plan r) limit ↔ limit = r.maxSteps := by
  have hconstraints : IsTitle "Constraints:\n" :=
    ⟨"Constraints:", by decide, by decide, by decide⟩
  rw [StatesLimit, plan_eq_blocks]
  constructor
  · rintro ⟨before, h⟩
    rw [String.append_left_inj, ← block_limits { r with maxSteps := limit }, Request.limits,
      Request.limits, append_block_inj hconstraints] at h
    have hlimits : r.maxSteps = limit :=
      (pretty_limits_inj (a := r) (b := { r with maxSteps := limit })).1 h.2
    exact hlimits.symm
  · rintro rfl
    exact ⟨_, by rw [block_limits]⟩

/-- **A planning prompt is unambiguous.** The prompts for two requests, clamped at one ceiling, are
equal exactly if the requests show the same to the model: the same trimmed prompt of the user, the
same indented context and catalogs, and the same clamped limit. The other fields of a request, its
schema tag and its caller, do not matter. Reference: `build_planner_prompt` and
`PlannerConstraints.clamped`. -/
theorem plan_clamp_eq_iff (ceiling : UInt32) (a b : Request) :
    (plan (a.clamp ceiling) = plan (b.clamp ceiling) ↔
      Text.trim a.prompt = Text.trim b.prompt ∧
      (Json.obj a.context).pretty = (Json.obj b.context).pretty ∧
      (Json.obj a.tools).pretty = (Json.obj b.tools).pretty ∧
      (Json.obj a.components).pretty = (Json.obj b.components).pretty ∧
      min a.maxSteps ceiling = min b.maxSteps ceiling) ∧
    ∀ schema caller,
      plan (Request.clamp ceiling { a with schema, caller }) = plan (a.clamp ceiling) := by
  refine ⟨?_, fun _ _ => rfl⟩
  have hlimits : (a.clamp ceiling).limits.pretty = (b.clamp ceiling).limits.pretty ↔
      min a.maxSteps ceiling = min b.maxSteps ceiling := pretty_limits_inj
  rw [plan_eq_blocks, plan_eq_blocks, String.append_left_inj, ← hlimits]
  have hcontext : IsTitle "Conversation context:\n" :=
    ⟨"Conversation context:", by decide, by decide, by decide⟩
  have htools : IsTitle "Available tools (authoritative):\n" :=
    ⟨"Available tools (authoritative):", by decide, by decide, by decide⟩
  have hcomponents : IsTitle "Available UI components (authoritative):\n" :=
    ⟨"Available UI components (authoritative):", by decide, by decide, by decide⟩
  have hconstraints : IsTitle "Constraints:\n" :=
    ⟨"Constraints:", by decide, by decide, by decide⟩
  -- the blocks are cut off from the right, the one with the limits first
  rw [Request.limits, Request.limits, append_block_inj hconstraints, append_block_inj hcomponents,
    append_block_inj htools, append_block_inj hcontext, String.append_right_inj]
  simp only [Request.clamp, and_assoc]

end AgentPlan.Prompt
