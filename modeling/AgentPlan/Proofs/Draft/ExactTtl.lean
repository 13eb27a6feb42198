import AgentPlan.Proofs.Draft.Acceptance
import AgentPlan.Proofs.Json.RoundedValue

/-!
# Times to live are exact

A step of a draft may state any number for its time to live. The draft has a defect at that place
exactly if the number is no integer from `-2^63` up to but not including `2^63`, and where it is
one, the plan has that integer at that place and is the plan of the draft without the number in
everything else. `ttl_exact` says this of drafts. The walk for defects comes to a time to live by
the index of its step (`mem_stepsFrom_ttl_iff`), and the reader by the list of steps, of which only
the one differs (`mapM_eq_some_iff_modify`).
-/

namespace AgentPlan

open Json (Members)

/-! ## Lists of which one item differs -/

/-- Changing an item in something that is not looked at changes nothing. -/
theorem map_modify_eq_map {α β : Type} {look : α → β} {f : α → α} (h : ∀ a, look (f a) = look a)
    (items : List α) (index : Nat) : (items.modify index f).map look = items.map look := by
  induction items generalizing index with
  | nil => rw [List.modify_nil]
  | cons a rest ih =>
    cases index with
    | zero => rw [List.modify_zero_cons, List.map_cons, List.map_cons, h]
    | succ index => rw [List.modify_succ_cons, List.map_cons, List.map_cons, ih]

section
variable {α β ι : Type} {read : α → Option β} {f : α → α} {C : ι → Prop} {g : ι → β → β}

/-- If an item is read as what another one in its place would be read as, changed by `g`, then so is
the list. -/
theorem mapM_eq_some_iff_modify {items : List α} {index : Nat} {a : α}
    (hget : items[index]? = some a)
    (hread : ∀ b, read a = some b ↔ ∃ t, C t ∧ ∃ base, read (f a) = some base ∧ b = g t base)
    {values : List β} :
    items.mapM read = some values ↔
      ∃ t, C t ∧ ∃ base, (items.modify index f).mapM read = some base ∧
        values = base.modify index (g t) := by
  induction items generalizing index values with
  | nil => cases hget
  | cons first rest ih =>
    cases index with
    | zero =>
      cases hget
      simp only [List.modify_zero_cons, mapM_eq_some_iff_forall₂, List.forall₂_cons_left_iff, hread]
      constructor
      · rintro ⟨_, bs, ⟨t, ht, b, hb, rfl⟩, hbs, rfl⟩
        exact ⟨t, ht, b :: bs, ⟨b, bs, hb, hbs, rfl⟩, rfl⟩
      · rintro ⟨t, ht, _, ⟨b, bs, hb, hbs, rfl⟩, rfl⟩
        exact ⟨_, bs, ⟨t, ht, b, hb, rfl⟩, hbs, rfl⟩
    | succ index =>
      have hrest (bs : List β) : rest.mapM read = some bs ↔ ∃ t, C t ∧ ∃ base,
          (rest.modify index f).mapM read = some base ∧ bs = base.modify index (g t) := ih hget
      simp only [mapM_eq_some_iff_forall₂] at hrest
      simp only [List.modify_succ_cons, mapM_eq_some_iff_forall₂, List.forall₂_cons_left_iff, hrest]
      constructor
      · rintro ⟨b, _, hb, ⟨t, ht, bs, hbs, rfl⟩, rfl⟩
        exact ⟨t, ht, b :: bs, ⟨b, bs, hb, hbs, rfl⟩, rfl⟩
      · rintro ⟨t, ht, _, ⟨b, bs, hb, hbs, rfl⟩, rfl⟩
        exact ⟨b, _, hb, ⟨t, ht, bs, hbs, rfl⟩, rfl⟩

end

/-! ## Plans -/

/-- The step with a time to live. -/
def Step.withTtl (t : Int64) (s : Step) : Step :=
  { s with cacheTtl := some t }

/-- The plan with a time to live for one of its steps. -/
def Plan.withTtl (index : Nat) (t : Int64) (p : Plan) : Plan :=
  { p with steps := p.steps.modify index (Step.withTtl t) }

/-- A time to live makes no difference to what every plan keeps. -/
theorem Plan.valid_withTtl_iff {index : Nat} {t : Int64} {p : Plan} :
    (p.withTtl index t).Valid ↔ p.Valid := by
  have hids : (p.withTtl index t).steps.map (·.id) = p.steps.map (·.id) :=
    map_modify_eq_map (f := Step.withTtl t) (fun _ => rfl) p.steps index
  have hvisible (q : Plan) : (∀ step ∈ q.steps, Text.trim step.id ≠ "") ↔
      ∀ id ∈ q.steps.map (·.id), Text.trim id ≠ "" :=
    (List.forall_mem_map (P := fun id => Text.trim id ≠ "")).symm
  constructor
  · rintro ⟨hschema, hrationale, hvis, hdistinct⟩
    rw [hvisible, hids] at hvis
    rw [hids] at hdistinct
    exact ⟨hschema, hrationale, (hvisible p).2 hvis, hdistinct⟩
  · rintro ⟨hschema, hrationale, hvis, hdistinct⟩
    refine ⟨hschema, hrationale, ?_, ?_⟩
    · rwa [hvisible, hids, ← hvisible]
    · rwa [hids]

namespace Draft

/-! ## The place of a time to live -/

/-- What a draft states as the time to live of one of its steps. -/
def ttlAt? (index : Nat) (draft : Json) : Option Json := do
  let steps ← (draft.get? "steps").bind Json.items?
  let step ← steps[index]?
  step.get? "cache_ttl_seconds"

/-- The path to the time to live of a step. -/
def ttlPath (index : Nat) : List Segment :=
  [.key "steps", .index index, .key "cache_ttl_seconds"]

/-- A step without a time to live, if it is one that states one. -/
def clearStep : Json → Json
  | .obj step => .obj (Members.modify "cache_ttl_seconds" (fun _ => .null) step)
  | v => v

/-- The same steps, one of them without a time to live. -/
def clearSteps (index : Nat) : Json → Json
  | .arr steps => .arr (steps.modify index clearStep)
  | v => v

/-- The draft with null for the time to live of one of its steps. -/
def clearTtl (index : Nat) : Json → Json
  | .obj m => .obj (Members.modify "steps" (clearSteps index) m)
  | v => v

/-- A draft that states a time to live for a step has steps, of which that one is an object. -/
theorem exists_of_ttlAt? {index : Nat} {draft v : Json} (h : ttlAt? index draft = some v) :
    ∃ (m : Members) (steps : List Json) (step : Members), draft = .obj m ∧
      m.get? "steps" = some (.arr steps) ∧ steps[index]? = some (.obj step) ∧
      step.get? "cache_ttl_seconds" = some v := by
  simp only [ttlAt?, Option.bind_eq_bind, Option.bind_eq_some_iff] at h
  obtain ⟨steps, ⟨list, hlist, hitems⟩, step, hstep, hget⟩ := h
  obtain ⟨m, rfl⟩ := Json.eq_obj_of_get? hlist
  obtain ⟨step, rfl⟩ := Json.eq_obj_of_get? hget
  cases list <;> cases hitems
  exact ⟨m, steps, step, rfl, hlist, hstep, hget⟩

/-! ## Defects at the place -/

variable {index : Nat} {p : Problem} {path : List Segment} {ds : List Defect}

/-- The defects below a segment are those whose path begins with it. -/
theorem mem_below_iff {s s' : Segment} :
    ⟨s' :: path, p⟩ ∈ below s ds ↔ s' = s ∧ ⟨path, p⟩ ∈ ds := by
  rw [below, List.mem_map]
  constructor
  · rintro ⟨d, hd, heq⟩
    cases heq
    exact ⟨rfl, hd⟩
  · rintro ⟨rfl, hd⟩
    exact ⟨_, hd, rfl⟩

/-- The defects of the steps from an index on have no lower index. -/
theorem le_of_mem_stepsFrom {seen : List String} {first : Nat} {steps : List Json}
    (h : ⟨.index index :: path, p⟩ ∈ stepsFrom seen first steps) : first ≤ index := by
  induction steps generalizing seen first with
  | nil => cases h
  | cons step rest ih =>
    rw [stepsFrom, List.mem_append, mem_below_iff] at h
    rcases h with ⟨hindex, -⟩ | h
    · cases hindex
      exact le_rfl
    · exact Nat.le_of_succ_le (ih h)

/-- The defects at the time to live of a step are those of the time to live. -/
theorem mem_stepDefects_ttl_iff {seen : List String} {step : Members} :
    ⟨[.key "cache_ttl_seconds"], p⟩ ∈ stepDefects seen (.obj step) ↔
      ⟨[], p⟩ ∈ ttlDefects (step.get? "cache_ttl_seconds") := by
  simp [stepDefects, object, member, mem_below_iff]

/-- The defects at the time to live of a step are those of the time to live, wherever the step
stands. -/
theorem mem_stepsFrom_ttl_iff {seen : List String} {first : Nat} {steps : List Json}
    {step : Members} (hstep : steps[index]? = some (.obj step)) :
    ⟨[.index (first + index), .key "cache_ttl_seconds"], p⟩ ∈ stepsFrom seen first steps ↔
      ⟨[], p⟩ ∈ ttlDefects (step.get? "cache_ttl_seconds") := by
  induction steps generalizing seen first index with
  | nil => cases hstep
  | cons v rest ih =>
    rw [stepsFrom, List.mem_append, mem_below_iff]
    cases index with
    | zero =>
      cases hstep
      rw [mem_stepDefects_ttl_iff]
      refine ⟨fun h => h.elim And.right fun h => ?_, fun h => .inl ⟨rfl, h⟩⟩
      exact absurd (le_of_mem_stepsFrom h) (Nat.not_succ_le_self first)
    | succ index =>
      have hne : ¬ (Segment.index (first + (index + 1)) = .index first) := by simp
      have hsum : first + (index + 1) = first + 1 + index := by omega
      rw [or_iff_right fun h => hne h.1, hsum]
      exact ih hstep

/-- The defects of a draft at the time to live of a step are those of the time to live. -/
theorem mem_defects_ttl_iff {draft v : Json} (h : ttlAt? index draft = some v) :
    ⟨ttlPath index, p⟩ ∈ defects draft ↔ ⟨[], p⟩ ∈ ttlDefects (some v) := by
  obtain ⟨m, steps, step, rfl, hsteps, hstep, hget⟩ := exists_of_ttlAt? h
  have hmem : ⟨ttlPath index, p⟩ ∈ defects (.obj m) ↔
      ⟨[.index index, .key "cache_ttl_seconds"], p⟩ ∈ stepsDefects (m.get? "steps") := by
    simp [ttlPath, defects, object, member, mem_below_iff]
  have hfirst : ⟨[.index (0 + index), .key "cache_ttl_seconds"], p⟩ ∈ stepsFrom [] 0 steps ↔
      ⟨[], p⟩ ∈ ttlDefects (step.get? "cache_ttl_seconds") := mem_stepsFrom_ttl_iff hstep
  rw [hmem, hsteps, stepsDefects, ← hget, ← hfirst, Nat.zero_add]

/-- A number has a defect as a time to live exactly if it is no integer of 64 bits. -/
theorem mem_ttlDefects_num_iff {n : Json.Number} :
    ⟨[], p⟩ ∈ ttlDefects (some (.num n)) ↔
      p = .notIntegerOrNull ∧ ¬ ∃ t : Int, n.value = t ∧ -2 ^ 63 ≤ t ∧ t < 2 ^ 63 := by
  have hnil : ttlDefects (some (.num n)) = [] ↔
      ∃ t : Int, n.value = t ∧ -2 ^ 63 ≤ t ∧ t < 2 ^ 63 := by
    rw [ttlDefects_eq_nil_iff]
    simp [NullOr, IsTtl]
  rw [← hnil]
  simp only [ttlDefects, Json.ttl?]
  by_cases h : n.toInt64?.isSome = true <;> simp [h, here]

/-! ## Reading -/

section
variable {n : Json.Number} {step : Members}

/-- A step with a number for its time to live is read as it is read with null, but for the time to
live, which is the number. -/
theorem read_eq_some_iff_clearStep (hget : step.get? "cache_ttl_seconds" = some (.num n))
    {s : Step} : Step.ofJson? (integerStep (.obj step)) = some s ↔
      ∃ t : Int64, n.value = t.toInt ∧ ∃ base,
        Step.ofJson? (integerStep (clearStep (.obj step))) = some base ∧ s = base.withTtl t := by
  have hcleared : (step.modify "cache_ttl_seconds" fun _ => .null).nullable? "cache_ttl_seconds"
      Json.ttl? = some none := by
    rw [Members.nullable?, Members.get?_modify_self, hget]
    rfl
  have hstated : step.nullable? "cache_ttl_seconds" Json.ttl? = n.toInt64?.map some := by
    rw [Members.nullable?, hget]
    rfl
  rw [clearStep]
  simp only [Step.ofJson?_integerStep_obj_eq_some_iff, hcleared, hstated]
  simp (disch := decide) only [Members.text?, Members.objectOrEmpty?, Members.get?_modify_of_ne]
  simp only [Option.map_eq_some_iff, Json.Number.toInt64?_eq_some_iff, Option.some_inj]
  constructor
  · rintro ⟨hid, htool, hargs, t, hvalue, hcache⟩
    refine ⟨t, hvalue, { s with cacheTtl := none }, ⟨hid, htool, hargs, rfl⟩, ?_⟩
    rw [Step.withTtl, hcache]
  · rintro ⟨t, hvalue, base, ⟨hid, htool, hargs, -⟩, rfl⟩
    exact ⟨hid, htool, hargs, t, hvalue, rfl⟩

end

/-- A draft with a number for the time to live of a step is accepted as it is accepted with null,
but for the time to live, which is the number. -/
theorem validate_eq_ok_iff_clearTtl {draft : Json} {n : Json.Number} {plan : Plan}
    (h : ttlAt? index draft = some (.num n)) :
    validate draft = .ok plan ↔ ∃ t : Int64, n.value = t.toInt ∧ ∃ base,
      validate (clearTtl index draft) = .ok base ∧ plan = base.withTtl index t := by
  obtain ⟨m, steps, step, rfl, hsteps, hstep, hget⟩ := exists_of_ttlAt? h
  have hread (values : List Step) :
      m.listOrEmpty? "steps" (Step.ofJson? ∘ integerStep) = some values ↔
        ∃ t : Int64, n.value = t.toInt ∧ ∃ base,
          (m.modify "steps" (clearSteps index)).listOrEmpty? "steps"
            (Step.ofJson? ∘ integerStep) = some base ∧
          values = base.modify index (Step.withTtl t) := by
    rw [Members.listOrEmpty?, hsteps, Members.listOrEmpty?, Members.get?_modify_self, hsteps]
    exact mapM_eq_some_iff_modify hstep fun _ => read_eq_some_iff_clearStep hget
  simp (disch := decide) only [clearTtl, validate_eq_ok_iff_read,
    Plan.ofJson?_withIntegerTtls_obj_eq_some_iff, hread, Members.text?, Members.nullable?,
    Members.get?_modify_of_ne]
  constructor
  · rintro ⟨⟨hschema, hrationale, ⟨t, hvalue, base, hbase, hplan⟩, hview, hsafety⟩, hvalid⟩
    have heq : plan = ({ plan with steps := base } : Plan).withTtl index t := by
      rw [Plan.withTtl, ← hplan]
    rw [heq, Plan.valid_withTtl_iff] at hvalid
    exact ⟨t, hvalue, { plan with steps := base },
      ⟨⟨hschema, hrationale, hbase, hview, hsafety⟩, hvalid⟩, heq⟩
  · rintro ⟨t, hvalue, base, ⟨⟨hschema, hrationale, hbase, hview, hsafety⟩, hvalid⟩, rfl⟩
    exact ⟨⟨hschema, hrationale, ⟨t, hvalue, _, hbase, rfl⟩, hview, hsafety⟩,
      Plan.valid_withTtl_iff.2 hvalid⟩

/-- A step that states a time to live is a step of the plan. -/
theorem exists_step_of_validate {draft v : Json} {plan : Plan} (h : ttlAt? index draft = some v)
    (hplan : validate draft = .ok plan) : ∃ step, plan.steps[index]? = some step := by
  obtain ⟨m, steps, step, rfl, hsteps, hstep, -⟩ := exists_of_ttlAt? h
  obtain ⟨-, -, hread, -, -⟩ :=
    Plan.ofJson?_withIntegerTtls_obj_eq_some_iff.1 (validate_eq_ok_iff_read.1 hplan).1
  rw [Members.listOrEmpty?, hsteps] at hread
  have hlength : steps.length = plan.steps.length :=
    (mapM_eq_some_iff_forall₂.1 hread).length_eq
  obtain ⟨hlt, -⟩ := List.getElem?_eq_some_iff.1 hstep
  exact ⟨_, List.getElem?_eq_getElem (hlength ▸ hlt)⟩

/-- **A time to live is taken exactly if it is an integer of 64 bits, and it is taken as that
integer.** With such a number a draft is accepted if it is accepted with null in its place, and the
plan differs in that place only. Any other number is a defect there. Nothing changes if integers
beyond the signed ones are read by way of a float. Reference: `integral_ttl` and
`with_integer_ttls`. -/
theorem ttl_exact {index : Nat} {draft : Json} {n : Json.Number}
    (h : ttlAt? index draft = some (.num n)) :
    ((∃ plan, validate draft = .ok plan) ↔
      (∃ t : Int, n.value = t ∧ -2 ^ 63 ≤ t ∧ t < 2 ^ 63) ∧
      ∃ base, validate (clearTtl index draft) = .ok base) ∧
    (∀ p, ⟨ttlPath index, p⟩ ∈ defects draft ↔
      p = .notIntegerOrNull ∧ ¬ ∃ t : Int, n.value = t ∧ -2 ^ 63 ≤ t ∧ t < 2 ^ 63) ∧
    (∀ plan, validate draft = .ok plan →
      ∃ step t, plan.steps[index]? = some step ∧ step.cacheTtl = some t ∧ n.value = t.toInt ∧
        ∃ base, validate (clearTtl index draft) = .ok base ∧ plan = base.withTtl index t) ∧
    (n.IsWord → ∀ t : Int64, n.roundedInt64? = some t ↔ n.value = t.toInt) := by
  refine ⟨⟨?accepted, ?accepts⟩, fun p => ?defect, fun plan hplan => ?taken, fun hword t => ?word⟩
  case accepted =>
    rintro ⟨plan, hplan⟩
    obtain ⟨t, hvalue, base, hbase, -⟩ := (validate_eq_ok_iff_clearTtl h).1 hplan
    exact ⟨⟨t.toInt, hvalue, Json.exists_int64_iff.1 ⟨t, rfl⟩⟩, base, hbase⟩
  case accepts =>
    rintro ⟨⟨i, hvalue, hrange⟩, base, hbase⟩
    obtain ⟨t, rfl⟩ := Json.exists_int64_iff.2 hrange
    exact ⟨_, (validate_eq_ok_iff_clearTtl h).2 ⟨t, hvalue, base, hbase, rfl⟩⟩
  case defect => rw [mem_defects_ttl_iff h, mem_ttlDefects_num_iff]
  case taken =>
    obtain ⟨step, hstep⟩ := exists_step_of_validate h hplan
    obtain ⟨t, hvalue, base, hbase, rfl⟩ := (validate_eq_ok_iff_clearTtl h).1 hplan
    have hget : (base.steps[index]?).map (Step.withTtl t) = some step := by
      rw [← hstep, Plan.withTtl, List.getElem?_modify_eq]
      rfl
    obtain ⟨s, -, rfl⟩ := Option.map_eq_some_iff.1 hget
    exact ⟨_, t, hstep, rfl, hvalue, base, hbase, rfl⟩
  case word =>
    rw [Json.Number.roundedInt64?_eq_toInt64? hword, Json.Number.toInt64?_eq_some_iff]

/-- The least integer of 64 bits as a float and a zero with a sign are taken; the float and the
integer above the greatest one are not, nor is this integer, as its digits spell it, by way of a
float. -/
theorem ttl_exact_edges :
    let draft (n : Json.Number) := Json.obj [("rationale", .str "r"),
      ("schema", .str "tool_plan.v1"), ("steps", .arr [.obj [("cache_ttl_seconds", .num n),
        ("id", .str "a"), ("tool", .str "t")]])]
    (∃ plan step, validate (draft (.float ⟨true, 2 ^ 52, 11⟩)) = .ok plan ∧
      plan.steps[0]? = some step ∧ step.cacheTtl = some Int64.minValue) ∧
    (∃ plan step, validate (draft (.float ⟨true, 0, -1074⟩)) = .ok plan ∧
      plan.steps[0]? = some step ∧ step.cacheTtl = some 0) ∧
    (¬ ∃ plan, validate (draft (.float ⟨false, 2 ^ 52, 11⟩)) = .ok plan) ∧
    (¬ ∃ plan, validate (draft (.int (2 ^ 63))) = .ok plan) ∧
    ∃ n, Json.Numeral.number ⟨false, [9, 2, 2, 3, 3, 7, 2, 0, 3, 6, 8, 5, 4, 7, 7, 5, 8, 0, 8], [],
      none⟩ = .ok n ∧ n.roundedInt64? = none := by
  intro draft
  have hplace (n : Json.Number) : ttlAt? 0 (draft n) = some (.num n) := rfl
  have hnull (n : Json.Number) : ∃ base, validate (clearTtl 0 (draft n)) = .ok base := by
    have hwell : WellFormed (clearTtl 0 (draft (.int 0))) := by decide +kernel
    obtain ⟨base, hbase⟩ := exists_plan hwell
    exact ⟨base, validate_eq_ok_iff.2 ⟨hwell, hbase⟩⟩
  have htaken (n : Json.Number) (t : Int64) (hvalue : n.value = t.toInt) :
      ∃ plan step, validate (draft n) = .ok plan ∧ plan.steps[0]? = some step ∧
        step.cacheTtl = some t := by
    obtain ⟨haccepted, -, htaken, -⟩ := ttl_exact (hplace n)
    obtain ⟨plan, hplan⟩ :=
      haccepted.2 ⟨⟨t.toInt, hvalue, Json.exists_int64_iff.1 ⟨t, rfl⟩⟩, hnull n⟩
    obtain ⟨step, t', hstep, hcache, hvalue', -⟩ := htaken plan hplan
    have hsame : t = t' := Int64.toInt_inj.1 (by exact_mod_cast hvalue.symm.trans hvalue')
    exact ⟨plan, step, hplan, hstep, hsame ▸ hcache⟩
  have hrejected (n : Json.Number) (hvalue : n.value = ((2 ^ 63 : Int) : ℚ)) :
      ¬ ∃ plan, validate (draft n) = .ok plan := by
    rw [(ttl_exact (hplace n)).1]
    rintro ⟨⟨i, hi, -, hlt⟩, -⟩
    have : i = 2 ^ 63 := by exact_mod_cast hi.symm.trans hvalue
    omega
  have hnumber : Json.Numeral.number ⟨false, [9, 2, 2, 3, 3, 7, 2, 0, 3, 6, 8, 5, 4, 7, 7, 5, 8, 0,
      8], [], none⟩ = .ok (.int (2 ^ 63)) := rfl
  have hrounded : Json.Number.roundedInt64? (.int (2 ^ 63)) = none := by
    obtain ⟨-, -, -, hexact⟩ := ttl_exact (hplace (.int (2 ^ 63)))
    refine Option.eq_none_iff_forall_ne_some.2 fun t ht => ?_
    have hvalue : ((2 ^ 63 : Int) : ℚ) = t.toInt :=
      (hexact (Json.Numeral.isWord_of_number hnumber) t).1 ht
    have hlt : t.toInt < 2 ^ 63 := (Json.exists_int64_iff.1 ⟨t, rfl⟩).2
    have : (2 ^ 63 : Int) = t.toInt := by exact_mod_cast hvalue
    omega
  refine ⟨htaken _ _ ?_, htaken _ _ ?_, hrejected _ ?_, hrejected _ ?_, _, hnumber, hrounded⟩
  · rw [Int64.toInt_minValue]
    norm_num [Json.Number.value, Binary.value, Binary.sign]
  · norm_num [Json.Number.value, Binary.value, Binary.sign, Int64.toInt_zero]
  · norm_num [Json.Number.value, Binary.value, Binary.sign]
  · norm_num [Json.Number.value]

end Draft

end AgentPlan
