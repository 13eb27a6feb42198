import AgentPlan.Proofs.Draft.NormalForm
import AgentPlan.Proofs.Text.Decimal

/-!
# Identifiers that are filled in

A step without an identifier is given one for its position. No two positions have the same one, so
steps whose own identifiers are different have different ones afterwards, unless one of them is the
identifier for the position of a step that had none (`nodup_ids_normalizeStepsFrom_iff`). Validation
looks at the visible identifiers only and reports a duplicate exactly if two of them are equal
(`reportsDuplicate_stepsFrom_iff`). `filled_ids_distinct_iff` says both of whole drafts.
-/

namespace AgentPlan.Draft

open Json (Members)

/-! ## Reports of duplicates -/

/-- One of the defects is that an identifier has been used before. Of all checks only that of a
step's identifier reports this. -/
def ReportsDuplicate (ds : List Defect) : Prop :=
  ∃ d ∈ ds, ∃ id, d.problem = .duplicateId id

section
variable {ds ds' : List Defect} {check : Option Json → List Defect}

/-- Where nothing is wrong no duplicate is reported. -/
@[simp] theorem not_reportsDuplicate_nil : ¬ ReportsDuplicate [] := by
  rintro ⟨d, hd, -⟩
  cases hd

/-- Two checks side by side report a duplicate when one of them does. -/
@[simp] theorem reportsDuplicate_append_iff :
    ReportsDuplicate (ds ++ ds') ↔ ReportsDuplicate ds ∨ ReportsDuplicate ds' := by
  simp only [ReportsDuplicate, List.mem_append, or_and_right, exists_or]

/-- Seen from the whole, a part reports a duplicate when it does by itself. -/
@[simp] theorem reportsDuplicate_below_iff {s : Segment} :
    ReportsDuplicate (below s ds) ↔ ReportsDuplicate ds := by
  simp only [ReportsDuplicate, below, List.mem_map, exists_exists_and_eq_and, Defect.below]

/-- A single problem reports a duplicate when it is one. -/
@[simp] theorem reportsDuplicate_here_iff {p : Problem} :
    ReportsDuplicate (here p) ↔ ∃ id, p = .duplicateId id := by
  simp [ReportsDuplicate, here]

/-- The check of a member reports a duplicate when that of its value does. -/
@[simp] theorem reportsDuplicate_member_iff {key : String} {m : Members} :
    ReportsDuplicate (member key check m) ↔ ReportsDuplicate (check (m.get? key)) :=
  reportsDuplicate_below_iff

/-- The check for a string reports no duplicate. -/
@[simp] theorem not_reportsDuplicate_requiredText (v? : Option Json) :
    ¬ ReportsDuplicate (requiredText v?) := by
  unfold requiredText
  split <;> simp

/-- The check for an object reports no duplicate. -/
@[simp] theorem not_reportsDuplicate_optionalObject (v? : Option Json) :
    ¬ ReportsDuplicate (optionalObject v?) := by
  unfold optionalObject
  split <;> simp

end

/-! ### Parts without steps -/

section
variable {check : Json → List Defect}

/-- The check of an object reports no duplicate if that of its members does not. -/
theorem not_reportsDuplicate_object {check : Members → List Defect}
    (h : ∀ m, ¬ ReportsDuplicate (check m)) (v : Json) : ¬ ReportsDuplicate (object check v) := by
  cases v with
  | obj m => exact h m
  | null | bool | num | str | arr => simp [object]

/-- The check of some items reports no duplicate if that of each item does not. -/
theorem not_reportsDuplicate_itemsFrom (h : ∀ v, ¬ ReportsDuplicate (check v)) (index : Nat)
    (items : List Json) : ¬ ReportsDuplicate (itemsFrom check index items) := by
  induction items generalizing index with
  | nil => exact not_reportsDuplicate_nil
  | cons v rest ih => simp [itemsFrom, h, ih]

/-- The check of a list reports no duplicate if that of each item does not. -/
theorem not_reportsDuplicate_optionalList (h : ∀ v, ¬ ReportsDuplicate (check v))
    (v? : Option Json) : ¬ ReportsDuplicate (optionalList check v?) := by
  unfold optionalList
  split
  · exact not_reportsDuplicate_nil
  · exact not_reportsDuplicate_nil
  · exact not_reportsDuplicate_itemsFrom h 0 _
  · simp

end

mutual

/-- The nodes of a tree have no identifiers. -/
theorem not_reportsDuplicate_nodeDefects : ∀ v : Json, ¬ ReportsDuplicate (nodeDefects v)
  | .obj m => by
    have hkind : ¬ ReportsDuplicate (kindDefects (Members.get? "type" m)) := by
      unfold kindDefects
      split <;> [skip; split; skip] <;> simp
    simp [nodeDefects, hkind, not_reportsDuplicate_childrenDefects m]
  | .null | .bool _ | .num _ | .str _ | .arr _ => by simp [nodeDefects]

/-- The check of a node's children reports no duplicate. -/
theorem not_reportsDuplicate_childrenDefects : ∀ m : List (String × Json),
    ¬ ReportsDuplicate (childrenDefects m)
  | [] => by simp [childrenDefects]
  | (k, .arr nodes) :: rest => by
    rw [childrenDefects]
    split
    · exact not_reportsDuplicate_nodesFrom 0 nodes
    · exact not_reportsDuplicate_childrenDefects rest
  | (k, .null) :: rest | (k, .bool _) :: rest | (k, .num _) :: rest | (k, .str _) :: rest
  | (k, .obj _) :: rest => by
    simp only [childrenDefects]
    split
    · simp
    · exact not_reportsDuplicate_childrenDefects rest

/-- The check of some nodes reports no duplicate. -/
theorem not_reportsDuplicate_nodesFrom : ∀ (index : Nat) (vs : List Json),
    ¬ ReportsDuplicate (nodesFrom index vs)
  | _, [] => by simp [nodesFrom]
  | index, v :: rest => by
    simp [nodesFrom, not_reportsDuplicate_nodeDefects v,
      not_reportsDuplicate_nodesFrom (index + 1) rest]

end

/-- A view has no identifiers. -/
theorem not_reportsDuplicate_viewDefects (m : Members) : ¬ ReportsDuplicate (viewDefects m) := by
  have htree : ¬ ReportsDuplicate (treeDefects (m.get? "component_tree")) := by
    unfold treeDefects
    split
    · simp
    · exact not_reportsDuplicate_nodeDefects _
  have hbinding : ∀ v, ¬ ReportsDuplicate (bindingDefects v) :=
    not_reportsDuplicate_object fun m => by simp
  have hrefresh : ∀ v, ¬ ReportsDuplicate (refreshDefects v) :=
    not_reportsDuplicate_object fun m => by
      have hpath : ¬ ReportsDuplicate (patchPathDefects (m.get? "patchPath")) := by
        unfold patchPathDefects
        split <;> simp
      simp [hpath]
  have hsubscription : ∀ v, ¬ ReportsDuplicate (subscriptionDefects v) :=
    not_reportsDuplicate_object fun m => by
      have hlist : ¬ ReportsDuplicate (refreshListDefects (m.get? "refresh")) := by
        unfold refreshListDefects
        split
        · simp
        · exact not_reportsDuplicate_itemsFrom hrefresh 0 _
        · simp
      simp [hlist]
  simp [viewDefects, htree, not_reportsDuplicate_optionalList hbinding,
    not_reportsDuplicate_optionalList hsubscription]

/-! ### Steps -/

/-- The identifier that a step adds to those seen is its own, if it is visible. -/
theorem stepId?_eq_some_iff {step : Json} {id : String} :
    stepId? step = some id ↔ step.get? "id" = some (.str id) ∧ Text.blank id = false := by
  rw [stepId?, Option.filter_eq_some_iff, Option.bind_eq_some_iff, Bool.not_eq_true']
  refine and_congr_left fun _ => ⟨?_, fun h => ⟨_, h, rfl⟩⟩
  rintro ⟨v, hget, htext⟩
  cases v <;> cases htext
  exact hget

/-- An identifier is a repeated one exactly if it is visible and has been seen. -/
theorem reportsDuplicate_idDefects_iff {seen : List String} {id? : Option Json} :
    ReportsDuplicate (idDefects seen id?) ↔
      ∃ id, id? = some (.str id) ∧ Text.blank id = false ∧ id ∈ seen := by
  cases id? with
  | none => simp [idDefects]
  | some v =>
    cases v with
    | str id =>
      rw [idDefects]
      split_ifs with hblank hseen <;> simp [*]
    | null | bool | num | arr | obj => simp [idDefects]

/-- A step repeats an identifier exactly if its own is visible and has been seen. -/
theorem reportsDuplicate_stepDefects_iff {seen : List String} {step : Json} :
    ReportsDuplicate (stepDefects seen step) ↔ ∃ id, stepId? step = some id ∧ id ∈ seen := by
  simp only [stepId?_eq_some_iff, and_assoc]
  cases step with
  | obj m =>
    have httl : ¬ ReportsDuplicate (ttlDefects (Members.get? "cache_ttl_seconds" m)) := by
      unfold ttlDefects
      split <;> [skip; skip; split] <;> simp
    simp [stepDefects, object, httl, reportsDuplicate_idDefects_iff, Json.get?]
  | null | bool | num | str | arr => simp [stepDefects, object, Json.get?]

/-- The visible identifiers of some steps. -/
def visibleIds (steps : List Json) : List String :=
  steps.filterMap stepId?

/-- **The steps repeat an identifier exactly if two visible ones are equal**, or one has been seen
before. -/
theorem reportsDuplicate_stepsFrom_iff (seen : List String) (index : Nat) (steps : List Json) :
    ReportsDuplicate (stepsFrom seen index steps) ↔
      ¬ ((visibleIds steps).Nodup ∧ ∀ id ∈ visibleIds steps, id ∉ seen) := by
  induction steps generalizing seen index with
  | nil => simp [stepsFrom, visibleIds]
  | cons step rest ih =>
    rw [stepsFrom, reportsDuplicate_append_iff, reportsDuplicate_below_iff,
      reportsDuplicate_stepDefects_iff, ih]
    cases hid : stepId? step with
    | none => simp [visibleIds, hid]
    | some id =>
      have hids : visibleIds (step :: rest) = id :: visibleIds rest :=
        List.filterMap_cons_some hid
      rw [hids, List.nodup_cons, List.forall_mem_cons]
      simp only [Option.some.injEq, exists_eq_left', Option.toList_some, List.mem_append,
        List.mem_singleton, not_or, forall_and]
      grind

/-- A draft has a repeated identifier exactly if two visible ones of its steps are equal. -/
theorem reportsDuplicate_defects_iff {m : Members} {steps : List Json}
    (hsteps : m.get? "steps" = some (.arr steps)) :
    ReportsDuplicate (defects (.obj m)) ↔ ¬ (visibleIds steps).Nodup := by
  have hschema : ¬ ReportsDuplicate (schemaDefects (m.get? "schema")) := by
    unfold schemaDefects
    split <;> [skip; split; skip] <;> simp
  have hrationale : ¬ ReportsDuplicate (rationaleDefects (m.get? "rationale")) := by
    unfold rationaleDefects
    split <;> [skip; split; skip] <;> simp
  have hview : ¬ ReportsDuplicate (optionalView (m.get? "uiIntent")) := by
    unfold optionalView
    split <;> simp [not_reportsDuplicate_viewDefects]
  have hsafety : ¬ ReportsDuplicate (safetyDefects (m.get? "safety")) := by
    unfold safetyDefects
    split <;> simp
  simp [defects, object, hschema, hrationale, hview, hsafety, hsteps, stepsDefects,
    reportsDuplicate_stepsFrom_iff]

/-! ## Identifiers for positions -/

/-- No two positions have the same identifier, since their numbers have different digits. -/
theorem positionalId_injective {i j : Nat} (h : positionalId i = positionalId j) : i = j := by
  rw [positionalId, positionalId, String.append_right_inj] at h
  exact Nat.succ_injective (Text.toString_injective h)

/-- The identifier of a position is visible. -/
theorem blank_positionalId (index : Nat) : Text.blank (positionalId index) = false := by
  have hfirst : (positionalId index).toList =
      's' :: ("tep_".toList ++ (toString (index + 1)).toList) := by
    rw [positionalId, String.toList_append]
    rfl
  have hvisible : Text.isBlank 's' = false := by decide
  rw [Text.blank, hfirst, List.all_cons, hvisible, Bool.false_and]

/-- Every step has an identifier after normalization: its own, or the one for its position. -/
theorem get?_id_normalizeStep (index : Nat) (step : Json) :
    (normalizeStep index step).get? "id" =
      some ((step.get? "id").getD (.str (positionalId index))) := by
  cases step with
  | obj m =>
    rw [normalizeStep, Json.get?, Json.get?, Members.get?_insertNew_of_ne _ _ (by decide),
      Members.get?_insertNew_of_ne _ _ (by decide), Members.get?_insertNew_self]
  | null | bool | num | str | arr => rfl

/-- The steps are normalized one by one, each for its position. -/
theorem getElem?_normalizeStepsFrom (index : Nat) (steps : List Json) (k : Nat) :
    (normalizeStepsFrom index steps)[k]? = steps[k]?.map (normalizeStep (index + k)) := by
  induction steps generalizing index k with
  | nil => rfl
  | cons step rest ih =>
    cases k with
    | zero => rfl
    | succ k =>
      rw [normalizeStepsFrom, List.getElem?_cons_succ, List.getElem?_cons_succ, ih, Nat.add_assoc,
        Nat.add_comm 1]

/-- Normalizing steps keeps how many there are, so that positions mean the same before and after. -/
theorem length_normalizeStepsFrom (index : Nat) (steps : List Json) :
    (normalizeStepsFrom index steps).length = steps.length := by
  induction steps generalizing index with
  | nil => rfl
  | cons step rest ih => rw [normalizeStepsFrom, List.length_cons, List.length_cons, ih]

/-- A normalized step has the identifier that it states, or the one for its position. -/
theorem getElem?_ids_normalizeStepsFrom {steps : List Json} {k : Nat} {step : Json}
    (hstep : steps[k]? = some step) (index : Nat) :
    ((normalizeStepsFrom index steps).map (Json.get? "id"))[k]? =
      some (some ((step.get? "id").getD (.str (positionalId (index + k))))) := by
  rw [List.getElem?_map, getElem?_normalizeStepsFrom, hstep, Option.map_some, Option.map_some,
    get?_id_normalizeStep]

/-- Two steps have different identifiers if what they state is different, and no step states the
identifier for the position of one of them that states none. -/
theorem idOr_ne_of_free {first second : Json} {i j : Nat} (hij : i ≠ j)
    (hstated : ∀ v, first.get? "id" = some v → second.get? "id" ≠ some v)
    (hfirst : first.get? "id" = none → second.get? "id" ≠ some (.str (positionalId i)))
    (hsecond : second.get? "id" = none → first.get? "id" ≠ some (.str (positionalId j))) :
    (first.get? "id").getD (.str (positionalId i)) ≠
      (second.get? "id").getD (.str (positionalId j)) := by
  intro hsame
  cases hidi : first.get? "id" with
  | none =>
    cases hidj : second.get? "id" with
    | none =>
      rw [hidi, hidj, Option.getD_none, Option.getD_none, Json.str.injEq] at hsame
      exact hij (positionalId_injective hsame)
    | some v =>
      rw [hidi, hidj, Option.getD_none, Option.getD_some] at hsame
      exact hfirst hidi (hidj.trans (congrArg some hsame.symm))
  | some v =>
    cases hidj : second.get? "id" with
    | none =>
      rw [hidi, hidj, Option.getD_some, Option.getD_none] at hsame
      exact hsecond hidj (hidi.trans (congrArg some hsame))
    | some w =>
      rw [hidi, hidj, Option.getD_some, Option.getD_some] at hsame
      exact hstated v hidi (hidj.trans (congrArg some hsame.symm))

/-- **Identifiers that are filled in** are different from each other, and from the identifiers of
the other steps unless one of these has the identifier for the position of a step without one. -/
theorem nodup_ids_normalizeStepsFrom_iff {steps : List Json}
    (hdistinct : (steps.filterMap (Json.get? "id")).Nodup) (index : Nat) :
    ((normalizeStepsFrom index steps).map (Json.get? "id")).Nodup ↔
      ∀ (k : Nat) (step : Json), steps[k]? = some step → step.get? "id" = none →
        ∀ other ∈ steps, other.get? "id" ≠ some (.str (positionalId (index + k))) := by
  have hlength : ((normalizeStepsFrom index steps).map (Json.get? "id")).length = steps.length := by
    rw [List.length_map, length_normalizeStepsFrom]
  constructor
  · intro hnodup k step hstep hnone other hother hsame
    obtain ⟨j, hj⟩ := List.mem_iff_getElem?.1 hother
    have hk : k < steps.length := (List.getElem?_eq_some_iff.1 hstep).1
    have hkj : k = j := by
      refine (List.getElem?_inj (hlength ▸ hk) hnodup).1 ?_
      rw [getElem?_ids_normalizeStepsFrom hstep, getElem?_ids_normalizeStepsFrom hj, hnone, hsame]
      rfl
    subst hkj
    cases hstep.symm.trans hj
    exact nomatch hnone.symm.trans hsame
  · intro hfree
    rw [List.nodup_iff_getElem?_ne_getElem?]
    intro i j hij hj
    rw [hlength] at hj
    have hi : i < steps.length := hij.trans hj
    have hgeti : steps[i]? = some steps[i] := List.getElem?_eq_getElem hi
    have hgetj : steps[j]? = some steps[j] := List.getElem?_eq_getElem hj
    have hpairs := List.pairwise_iff_getElem.1 (List.pairwise_filterMap.1 hdistinct)
    rw [getElem?_ids_normalizeStepsFrom hgeti, getElem?_ids_normalizeStepsFrom hgetj, Ne,
      Option.some.injEq, Option.some.injEq]
    refine idOr_ne_of_free (by omega) (fun v hv hw => ?_)
      (fun hnone => hfree i _ hgeti hnone _ (List.getElem_mem hj))
      (fun hnone => hfree j _ hgetj hnone _ (List.getElem_mem hi))
    exact hpairs i j hi hj hij v hv v hw rfl

/-- Where the identifiers that the steps state are visible, all of them are visible after
normalization. -/
theorem map_visibleIds_normalizeStepsFrom {steps : List Json}
    (hvisible : ∀ step ∈ steps, ∀ id, step.get? "id" = some id → IsVisibleText id) (index : Nat) :
    (visibleIds (normalizeStepsFrom index steps)).map (some ∘ Json.str) =
      (normalizeStepsFrom index steps).map (Json.get? "id") := by
  induction steps generalizing index with
  | nil => rfl
  | cons step rest ih =>
    obtain ⟨hfirst, hrest⟩ := List.forall_mem_cons.1 hvisible
    obtain ⟨id, hid⟩ : ∃ id, stepId? (normalizeStep index step) = some id := by
      simp only [stepId?_eq_some_iff, get?_id_normalizeStep]
      cases hget : step.get? "id" with
      | none => exact ⟨_, rfl, blank_positionalId index⟩
      | some v =>
        obtain ⟨id, rfl, hid⟩ := hfirst v hget
        exact ⟨id, rfl, blank_eq_false_iff.2 hid⟩
    rw [normalizeStepsFrom, visibleIds, List.filterMap_cons_some hid, List.map_cons, List.map_cons,
      (stepId?_eq_some_iff.1 hid).1]
    exact congrArg _ (ih hrest (index + 1))

/-- **Filled in identifiers are distinct unless a step has the identifier for another's position.**
Where the identifiers that the steps of a draft state are visible and pairwise different, those of
the normal form are pairwise different exactly if none of them is the one for the position of a step
that states none. Exactly otherwise validation reports a duplicate. Reference: `normalize_steps` and
`check_steps`. -/
theorem filled_ids_distinct_iff {m : Members} {steps : List Json}
    (hsteps : m.get? "steps" = some (.arr steps))
    (hvisible : ∀ step ∈ steps, ∀ id, step.get? "id" = some id → IsVisibleText id)
    (hdistinct : (steps.filterMap (Json.get? "id")).Nodup) :
    ∃ normal, (normalize (.obj m)).get? "steps" = some (.arr normal) ∧
      ((normal.map (Json.get? "id")).Nodup ↔
        ∀ (k : Nat) (step : Json), steps[k]? = some step → step.get? "id" = none →
          ∀ other ∈ steps, other.get? "id" ≠ some (.str (positionalId k))) ∧
      ((∃ ds, validate (normalize (.obj m)) = .error ds ∧ ReportsDuplicate ds) ↔
        ¬ (normal.map (Json.get? "id")).Nodup) := by
  obtain ⟨n, hnormal, hn⟩ := exists_normalOf m
  have hnsteps : Members.get? "steps" n = some (.arr (normalizeStepsFrom 0 steps)) := by
    rw [hn.steps, hsteps, normalizeSteps]
  refine ⟨normalizeStepsFrom 0 steps, ?_, ?_, ?_⟩
  · rw [hnormal, Json.get?, hnsteps]
  · simpa only [Nat.zero_add] using nodup_ids_normalizeStepsFrom_iff hdistinct 0
  · have hids : (visibleIds (normalizeStepsFrom 0 steps)).Nodup ↔
        ((normalizeStepsFrom 0 steps).map (Json.get? "id")).Nodup := by
      rw [← map_visibleIds_normalizeStepsFrom hvisible]
      exact (List.nodup_map_iff fun a b hab => by simpa using hab).symm
    rw [hnormal, ← hids, ← reportsDuplicate_defects_iff hnsteps]
    constructor
    · rintro ⟨ds, hrejected, hreports⟩
      rwa [← (validate_eq_error_iff.1 hrejected).2]
    · intro hreports
      refine ⟨_, validate_eq_error_iff.2 ⟨fun hwell => ?_, rfl⟩, hreports⟩
      rw [(defects_eq_nil_iff _).2 hwell] at hreports
      exact not_reportsDuplicate_nil hreports

/-- The first step has the identifier for the third position, where a step has its own. The second
one, which has none, and the last one, which is no object, are given theirs. -/
theorem filled_ids_distinct_iff_four_steps :
    let steps : List Json := [.obj [("id", .str "step_3")], .obj [("tool", .str "b")],
      .obj [("id", .str "x")], .str "c"]
    let draft : Members := [("steps", .arr steps)]
    draft.get? "steps" = some (.arr steps) ∧
    (∀ step ∈ steps, ∀ id, step.get? "id" = some id → IsVisibleText id) ∧
    (steps.filterMap (Json.get? "id")).Nodup ∧
    ∃ normal, (normalize (.obj draft)).get? "steps" = some (.arr normal) ∧
      (normal.map (Json.get? "id")).Nodup ∧
      ¬ ∃ ds, validate (normalize (.obj draft)) = .error ds ∧ ReportsDuplicate ds := by
  intro steps draft
  have htrim : Text.trim "step_3" ≠ "" ∧ Text.trim "x" ≠ "" := by decide
  have hvisible : ∀ step ∈ steps, ∀ id, step.get? "id" = some id → IsVisibleText id := by
    simp [steps, Json.get?, Members.get?, IsVisibleText, htrim]
  have hdistinct : (steps.filterMap (Json.get? "id")).Nodup := by decide
  obtain ⟨normal, hnormal, -, hreports⟩ :=
    filled_ids_distinct_iff (m := draft) rfl hvisible hdistinct
  have hsteps : (normalize (.obj draft)).get? "steps" =
      some (.arr (normalizeStepsFrom 0 steps)) := by decide +kernel
  obtain rfl : normal = normalizeStepsFrom 0 steps := by
    simpa using hnormal.symm.trans hsteps
  have hnodup : ((normalizeStepsFrom 0 steps).map (Json.get? "id")).Nodup := by decide +kernel
  exact ⟨rfl, hvisible, hdistinct, _, hnormal, hnodup, fun h => hreports.1 h hnodup⟩

/-- The first step has the identifier for the position of the second one, which has none: both have
it after normalization, and validation reports the second one. -/
theorem filled_ids_collide :
    let steps : List Json := [.obj [("id", .str "step_2"), ("tool", .str "a")],
      .obj [("tool", .str "b")]]
    let draft : Json := .obj [("steps", .arr steps)]
    (∀ step ∈ steps, ∀ id, step.get? "id" = some id → IsVisibleText id) ∧
    (steps.filterMap (Json.get? "id")).Nodup ∧
    ∃ normal, (normalize draft).get? "steps" = some (.arr normal) ∧
      ¬ (normal.map (Json.get? "id")).Nodup ∧
      validate (normalize draft) =
        .error [⟨[.key "steps", .index 1, .key "id"], .duplicateId "step_2"⟩] := by
  intro steps draft
  have htrim : Text.trim "step_2" ≠ "" := by decide
  have hvisible : ∀ step ∈ steps, ∀ id, step.get? "id" = some id → IsVisibleText id := by
    simp [steps, Json.get?, Members.get?, IsVisibleText, htrim]
  have hdistinct : (steps.filterMap (Json.get? "id")).Nodup := by decide
  refine ⟨hvisible, hdistinct, normalizeStepsFrom 0 steps, ?_, ?_, validate_eq_error_iff.2 ⟨?_, ?_⟩⟩
  all_goals decide +kernel

end AgentPlan.Draft
