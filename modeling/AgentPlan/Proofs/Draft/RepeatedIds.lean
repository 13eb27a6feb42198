import AgentPlan.Proofs.Draft.StepIds
import Mathlib.Data.Finset.Card

/-!
# Repeated identifiers

The walk through the steps keeps the visible identifiers of the steps that it has passed, and reports
a step exactly if its own visible identifier is among them. What one step adds to the report is said
once (`repeats_stepDefects`); for the whole walk this gives the reported places
(`mem_repeats_stepsFrom_iff`) and their number (`length_repeats_stepsFrom`). `repeats_exact` says both
of lists of steps: entries without a visible identifier neither count nor hide a repetition.
-/

namespace AgentPlan.Draft

open Json (Members)

/-! ## Repetitions among defects -/

/-- The defect is that an identifier has been used before. -/
def Defect.isRepeat (d : Defect) : Bool :=
  match d.problem with
  | .duplicateId _ => true
  | _ => false

/-- The defects that report a repeated identifier. -/
def repeats (ds : List Defect) : List Defect :=
  ds.filter Defect.isRepeat

section
variable {ds ds' : List Defect}

/-- The repeated identifiers of two checks side by side are those of the first and then those of the
second. -/
theorem repeats_append : repeats (ds ++ ds') = repeats ds ++ repeats ds' :=
  List.filter_append ds ds'

/-- Repetitions are the same below a segment. -/
theorem repeats_below (s : Segment) : repeats (below s ds) = below s (repeats ds) := by
  rw [repeats, below, List.filter_map]
  rfl

/-- Where no repetition is reported there is none among the defects. -/
theorem repeats_eq_nil (h : ¬ ReportsDuplicate ds) : repeats ds = [] := by
  rw [repeats, List.filter_eq_nil_iff]
  rintro ⟨path, problem⟩ hd hrepeat
  cases problem with
  | duplicateId id => exact h ⟨_, hd, id, rfl⟩
  | _ => cases hrepeat

end

/-! ## One step -/

/-- The entry is an object whose identifier is a string of which trimming leaves something. The
identifier is not trimmed itself. -/
def StatesId (entry : Json) (id : String) : Prop :=
  ∃ m : Members, entry = .obj m ∧ m.get? "id" = some (.str id) ∧ Text.trim id ≠ ""

/-- The identifier that a step adds to those seen is the one that it states. -/
theorem stepId?_eq_some_iff_statesId {step : Json} {id : String} :
    stepId? step = some id ↔ StatesId step id := by
  rw [stepId?_eq_some_iff, blank_eq_false_iff]
  constructor
  · rintro ⟨hget, hvisible⟩
    obtain ⟨m, rfl⟩ := Json.eq_obj_of_get? hget
    exact ⟨m, rfl, hget, hvisible⟩
  · rintro ⟨m, rfl, hget, hvisible⟩
    exact ⟨hget, hvisible⟩

/-- Of what is wrong with an identifier, that it has been seen is the one repetition. -/
theorem repeats_idDefects (seen : List String) (id? : Option Json) :
    repeats (idDefects seen id?) =
      match (id?.bind Json.text?).filter fun id => !Text.blank id with
      | some id => if id ∈ seen then here (.duplicateId id) else []
      | none => [] := by
  cases id? with
  | none => rfl
  | some v =>
    cases v with
    | str id =>
      rw [Option.bind_some, Json.text?, Option.filter_some, idDefects]
      cases Text.blank id with
      | true => rfl
      | false =>
        simp only [Bool.not_false, if_true, if_false, Bool.false_eq_true]
        split <;> rfl
    | null | bool | num | arr | obj => rfl

/-- A step repeats its identifier, if it has a visible one that has been seen, and nothing else. -/
theorem repeats_stepDefects (seen : List String) (step : Json) :
    repeats (stepDefects seen step) = match stepId? step with
      | some id => if id ∈ seen then [⟨[.key "id"], .duplicateId id⟩] else []
      | none => [] := by
  cases step with
  | obj m =>
    have hrest : repeats (member "tool" requiredText m ++ (member "args" optionalObject m ++
        member "cache_ttl_seconds" ttlDefects m)) = [] := by
      refine repeats_eq_nil ?_
      have httl : ¬ ReportsDuplicate (ttlDefects (Members.get? "cache_ttl_seconds" m)) := by
        unfold ttlDefects
        split <;> [skip; skip; split] <;> simp
      simp [httl]
    rw [stepDefects, object, List.append_assoc, List.append_assoc, repeats_append, hrest,
      List.append_nil, member, repeats_below, repeats_idDefects, stepId?, Json.get?]
    split
    · split <;> rfl
    · rfl
  | null | bool | num | str | arr => rfl

/-! ## The walk -/

/-- The repetition of an identifier, at the step with an index. -/
def repeatAt (index : Nat) (id : String) : Defect :=
  ⟨[.index index, .key "id"], .duplicateId id⟩

/-- A step has its repetition at its index. -/
theorem mem_below_repeats_iff {seen : List String} {index : Nat} {step : Json} {d : Defect} :
    d ∈ repeats (below (.index index) (stepDefects seen step)) ↔
      ∃ id, stepId? step = some id ∧ id ∈ seen ∧ d = repeatAt index id := by
  rw [repeats_below, repeats_stepDefects]
  cases stepId? step with
  | none => simp [below]
  | some id =>
    by_cases hseen : id ∈ seen
    · simp [below, hseen, repeatAt, Defect.below]
    · simp [below, hseen]

/-- A step's identifier, if it is visible, comes before those of the steps after it. -/
theorem visibleIds_cons (step : Json) (rest : List Json) :
    visibleIds (step :: rest) = (stepId? step).toList ++ visibleIds rest := by
  rw [visibleIds, List.filterMap_cons]
  cases stepId? step <;> rfl

/-- The visible identifiers before an entry are those that the earlier entries state. -/
theorem mem_visibleIds_take_iff {steps : List Json} {k : Nat} {id : String} :
    id ∈ visibleIds (steps.take k) ↔
      ∃ j < k, ∃ earlier, steps[j]? = some earlier ∧ StatesId earlier id := by
  rw [visibleIds, List.mem_filterMap]
  simp only [stepId?_eq_some_iff_statesId, List.mem_iff_getElem?, List.getElem?_take]
  constructor
  · rintro ⟨earlier, ⟨j, hj⟩, hid⟩
    split_ifs at hj with hlt
    exact ⟨j, hlt, earlier, hj, hid⟩
  · rintro ⟨j, hlt, earlier, hj, hid⟩
    exact ⟨earlier, ⟨j, by rw [if_pos hlt, hj]⟩, hid⟩

/-- The walk reports the steps whose visible identifier has been seen before the walk or passed in
it. -/
theorem mem_repeats_stepsFrom_iff {seen : List String} {index : Nat} {steps : List Json}
    {d : Defect} : d ∈ repeats (stepsFrom seen index steps) ↔
      ∃ k step id, steps[k]? = some step ∧ stepId? step = some id ∧
        (id ∈ seen ∨ id ∈ visibleIds (steps.take k)) ∧ d = repeatAt (index + k) id := by
  -- The invariant of the walk is that `seen` holds the visible identifiers before the index: what
  -- is passed now is seen by the rest.
  induction steps generalizing seen index with
  | nil => simp [stepsFrom, repeats]
  | cons first rest ih =>
    have hpassed {k : Nat} {id : String} :
        (id ∈ seen ++ (stepId? first).toList ∨ id ∈ visibleIds (rest.take k)) ↔
          (id ∈ seen ∨ id ∈ visibleIds ((first :: rest).take (k + 1))) := by
      rw [List.take_succ_cons, visibleIds_cons, List.mem_append, List.mem_append, or_assoc]
    rw [stepsFrom, repeats_append, List.mem_append, mem_below_repeats_iff, ih]
    constructor
    · rintro (⟨id, hid, hseen, rfl⟩ | ⟨k, step, id, hstep, hid, hbefore, rfl⟩)
      · exact ⟨0, first, id, rfl, hid, .inl hseen, rfl⟩
      · exact ⟨k + 1, step, id, hstep, hid, hpassed.1 hbefore, by rw [Nat.add_right_comm]; rfl⟩
    · rintro ⟨k, step, id, hstep, hid, hbefore, rfl⟩
      cases k with
      | zero =>
        cases hstep
        exact .inl ⟨id, hid, hbefore.resolve_right List.not_mem_nil, rfl⟩
      | succ k =>
        refine .inr ⟨k, step, id, hstep, hid, hpassed.2 hbefore, ?_⟩
        rw [Nat.add_right_comm]
        rfl

/-- No step is reported twice. -/
theorem nodup_repeats_stepsFrom (seen : List String) (index : Nat) (steps : List Json) :
    (repeats (stepsFrom seen index steps)).Nodup := by
  induction steps generalizing seen index with
  | nil => exact List.nodup_nil
  | cons first rest ih =>
    rw [stepsFrom, repeats_append, List.nodup_append]
    refine ⟨?_, ih _ _, ?_⟩
    · rw [repeats_below, repeats_stepDefects]
      split
      · split
        · exact List.nodup_singleton _
        · exact List.nodup_nil
      · exact List.nodup_nil
    · intro d hd d' hd' heq
      obtain ⟨id, -, -, rfl⟩ := mem_below_repeats_iff.1 hd
      obtain ⟨k, step, id', -, -, -, rfl⟩ := mem_repeats_stepsFrom_iff.1 hd'
      have hindex : index = index + 1 + k := by
        simpa [repeatAt] using congrArg Defect.path heq
      omega

/-- Every visible identifier is a new one or a repetition: those that are reported, with the
different ones seen in the end, are as many as there are, with the different ones seen before. -/
theorem length_repeats_stepsFrom (seen : List String) (index : Nat) (steps : List Json) :
    (repeats (stepsFrom seen index steps)).length + (seen ++ visibleIds steps).toFinset.card =
      (visibleIds steps).length + seen.toFinset.card := by
  induction steps generalizing seen index with
  | nil => simp [stepsFrom, repeats, visibleIds]
  | cons first rest ih =>
    have hrest := ih (seen ++ (stepId? first).toList) (index + 1)
    rw [stepsFrom, repeats_append, List.length_append, repeats_below, repeats_stepDefects,
      visibleIds_cons]
    cases hid : stepId? first with
    | none =>
      rw [hid, Option.toList_none, List.append_nil] at hrest
      simpa [below] using hrest
    | some id =>
      rw [hid, Option.toList_some, List.append_assoc] at hrest
      have hcard : (seen ++ [id]).toFinset.card + (if id ∈ seen then 1 else 0) =
          seen.toFinset.card + 1 := by
        have hinsert : (seen ++ [id]).toFinset = insert id seen.toFinset := by
          ext
          simp
        rw [hinsert]
        split_ifs with hseen
        · rw [Finset.card_insert_of_mem (List.mem_toFinset.2 hseen)]
        · rw [Finset.card_insert_of_notMem (List.mem_toFinset.not.2 hseen), Nat.add_zero]
      have hfirst : (below (.index index)
          (if id ∈ seen then [⟨[.key "id"], .duplicateId id⟩] else [])).length =
            if id ∈ seen then 1 else 0 := by
        split <;> rfl
      rw [Option.toList_some, List.length_append, hfirst]
      simp only [List.length_singleton]
      omega

/-! ## Lists of steps -/

/-- **Exactly the repetitions are reported.** Among the defects of a list of steps, an identifier is
reported as used before at exactly those entries that state it after an earlier entry stated the
same one, once for each of them. So the number of these reports is the number of identifiers that
are stated without the number of different ones. Reference: `check_steps`. -/
theorem repeats_exact (steps : List Json) :
    let reported := repeats (below (.key "steps") (stepsDefects (some (.arr steps))))
    (∀ d, d ∈ reported ↔ ∃ i entry id, steps[i]? = some entry ∧ StatesId entry id ∧
      (∃ j < i, ∃ earlier, steps[j]? = some earlier ∧ StatesId earlier id) ∧
      d = ⟨[.key "steps", .index i, .key "id"], .duplicateId id⟩) ∧
    reported.Nodup ∧
    reported.length = (visibleIds steps).length - (visibleIds steps).toFinset.card := by
  intro reported
  have hreported : reported = below (.key "steps") (repeats (stepsFrom [] 0 steps)) :=
    repeats_below _
  have hlength := length_repeats_stepsFrom [] 0 steps
  rw [List.nil_append, List.toFinset_nil, Finset.card_empty, Nat.add_zero] at hlength
  refine ⟨fun d => ?_, ?_, ?_⟩
  · rw [hreported, below, List.mem_map]
    simp only [mem_repeats_stepsFrom_iff, List.not_mem_nil, false_or, mem_visibleIds_take_iff,
      stepId?_eq_some_iff_statesId, Nat.zero_add]
    constructor
    · rintro ⟨_, ⟨i, entry, id, hentry, hid, hearlier, rfl⟩, rfl⟩
      exact ⟨i, entry, id, hentry, hid, hearlier, rfl⟩
    · rintro ⟨i, entry, id, hentry, hid, hearlier, rfl⟩
      exact ⟨_, ⟨i, entry, id, hentry, hid, hearlier, rfl⟩, rfl⟩
  · rw [hreported, below]
    refine (nodup_repeats_stepsFrom [] 0 steps).map fun d d' heq => ?_
    cases d
    cases d'
    simpa [Defect.below] using heq
  · rw [hreported, below, List.length_map]
    omega

end AgentPlan.Draft
