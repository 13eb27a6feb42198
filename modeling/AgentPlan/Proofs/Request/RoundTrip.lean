import AgentPlan.Proofs.Json.ValueTrees
import AgentPlan.Proofs.Request.Forms
import AgentPlan.Request.Reader

/-!
# Requests as values, and back

The value of a request states this request and no other, in whatever order its members come
(`states_of_toJson`). So the request is what is read from its value, and the value is accepted
exactly if the request keeps the rules; else it is refused for the rule that the request breaks,
with what the request has there (`accept_toJson`). All this is said of requests whose maps are in
order, as they are in those that have been read (`ordered_of_reader`).
-/

namespace AgentPlan.Request

open Json (Members Tree Document Field)

/-! ## Values instead of texts -/

/-- The request, if it keeps the rules for requests. -/
def checked (r : Request) : Except Failure Request :=
  match r.fault? with
  | some f => .error (.inputValidation f.message)
  | none => .ok r

/-- The request that a value holds, if it keeps the rules for requests. This is `parse` for a value
that is not in a text, so that nothing has a place in it. -/
def accept (v : Json) : Except Failure Request :=
  match reader.ofValue v with
  | .error f => .error (.inputValidation ("invalid request body: " ++ f.cause.message))
  | .ok r => r.checked

/-- The members of the value of a request. -/
def members (r : Request) : Members :=
  r.toJson.members?.getD []

/-- The maps of a request are in order, as they are when they are built member by member. -/
structure Ordered (r : Request) : Prop where
  context : (Json.obj r.context).Ordered
  tools : (Json.obj r.tools).Ordered
  components : (Json.obj r.components).Ordered

section
variable {r : Request} {m : Members} {body : List UInt8}

/-- A body that is read is accepted or rejected by the rules for requests. -/
theorem parse_of_run (h : reader.run body = .ok r) : parse body = r.checked := by
  rw [parse, h]
  rfl

/-- A value that is read is accepted or rejected by the rules for requests. -/
theorem accept_of_ofValue {v : Json} (h : reader.ofValue v = .ok r) : accept v = r.checked := by
  rw [accept, h]

/-! ## Reading what has been written -/

/-- A request is written with seven different keys. -/
theorem nodup_members : (r.members.map Prod.fst).Nodup := by
  have hkeys : r.members.map Prod.fst = ["schema", "userPrompt", "conversationContext",
    "toolCatalog", "uiComponentCatalog", "constraints", "meta"] := rfl
  rw [hkeys]
  decide

/-- Members with the values of the fields of a request state the request. -/
theorem states_of_members (hr : r.Ordered)
    (h : ∀ key, m.get? key = (r.members.get? key).map Json.sorted) : States m r where
  schema := by rw [h]; rfl
  prompt := by rw [h]; rfl
  context := by
    have hget : r.members.get? "conversationContext" = some (.obj r.context) := rfl
    rw [h, hget, Option.map_some, Json.sorted_of_ordered _ hr.context]
    rfl
  tools := by
    have hget : r.members.get? "toolCatalog" = some (.obj r.tools) := rfl
    rw [h, hget, Option.map_some, Json.sorted_of_ordered _ hr.tools]
    rfl
  components := by
    have hget : r.members.get? "uiComponentCatalog" = some (.obj r.components) := rfl
    rw [h, hget, Option.map_some, Json.sorted_of_ordered _ hr.components]
    rfl
  limits := by rw [h]; exact ⟨_, rfl, rfl⟩
  caller := by
    have hname (o : Option String) : (Json.orNull .str o).sorted = Json.orNull .str o := by
      cases o <;> rfl
    rw [h]
    exact ⟨_, rfl, hname _, hname _⟩

/-- A request is read from members with the values of its own. -/
theorem reader_eq_ok {room : Nat} {t : Tree} (hr : r.Ordered) (ht : t.Sound)
    (hkeys : DistinctKeys t) (hvalue : t.value room = .ok (.obj m))
    (h : ∀ key, m.get? key = (r.members.get? key).map Json.sorted) : reader room t = .ok r := by
  have hlimits : m.get? "constraints" = some r.limits.sorted := by rw [h]; rfl
  have hcaller : ∃ o, m.get? "meta" = some (.obj o) := by rw [h]; exact ⟨_, rfl⟩
  obtain ⟨o, ho⟩ := hcaller
  refine Except.toOption_eq_some_iff.1 ((toOption_reader_eq_some_iff ht hkeys hvalue ?_ ?_).2
    (states_of_members hr h))
  · intro items hitems
    rw [hlimits] at hitems
    cases hitems
  · intro items hitems
    rw [ho] at hitems
    cases hitems

/-- A request is what is read from its value, in whatever order the members come. -/
theorem ofValue_members (hr : r.Ordered) (hm : m.Perm r.members) :
    reader.ofValue (.obj m) = .ok r := by
  have hget (key : String) : m.get? key = r.members.get? key :=
    Members.get?_eq_of_perm hm nodup_members
  have hdistinct : (m.map Prod.fst).Nodup := (hm.map Prod.fst).nodup_iff.2 nodup_members
  refine reader_eq_ok hr (Json.sound_tree _) ⟨Json.distinctKeys_tree_obj hdistinct, ?_, ?_⟩
    (Json.value_tree _ _ (Nat.le_refl _)) fun key => ?_
  · intro part hpart
    rw [Json.member?_tree_obj, hget] at hpart
    cases hpart
    exact Json.distinctKeys_tree_obj (by simp)
  · intro part hpart
    rw [Json.member?_tree_obj, hget] at hpart
    cases hpart
    exact Json.distinctKeys_tree_obj (by simp)
  · rw [Members.get?_insertSorted hdistinct, hget]
    exact Option.or_none

/-- A request is what is read from a text with its value, if no key comes twice. -/
theorem run_of_value (hr : r.Ordered) (hbody : Json.parseBytes body = .ok r.toJson.sorted)
    (hkeys : DistinctKeys (Document.ofBytes body).tree) : reader.run body = .ok r := by
  obtain ⟨hvalue, hfinish⟩ := Json.readWith_eq_ok_iff.1 hbody
  rw [Json.run_eq_ok_iff, and_iff_left hfinish, Except.toOption_eq_some_iff]
  refine reader_eq_ok hr (Json.sound_ofBytes body) hkeys hvalue fun key => ?_
  exact (Members.get?_insertSorted nodup_members).trans Option.or_none

end

/-! ## Checking what has been read -/

section
variable {r : Request}

/-- A request keeps the rules if its schema is the right one and its limit is in range. -/
theorem checked_eq_ok_iff : r.checked = .ok r ↔
    r.schema = "planner_input.v1" ∧ 1 ≤ r.maxSteps.toNat ∧ r.maxSteps.toNat ≤ 32 := by
  have hchecked : r.checked = .ok r ↔ r.fault? = none := by
    rw [checked]
    cases r.fault? <;> simp
  rw [hchecked, fault?_eq_none_iff, UInt32.le_iff_toNat_le, UInt32.le_iff_toNat_le]
  rfl

/-- A wrong schema is named first, whatever the limit. -/
theorem checked_of_schema (h : r.schema ≠ "planner_input.v1") :
    r.checked = .error (.inputValidation
      ("schema: expected \"planner_input.v1\", got \"" ++ r.schema ++ "\"")) := by
  have htag : r.schema ≠ schemaTag := h
  rw [checked, fault?, if_pos htag]
  rfl

/-- With the right schema, a limit that is out of range is named. -/
theorem checked_of_maxSteps (hschema : r.schema = "planner_input.v1")
    (h : ¬ (1 ≤ r.maxSteps.toNat ∧ r.maxSteps.toNat ≤ 32)) :
    r.checked = .error (.inputValidation
      ("constraints.maxSteps: must be between 1 and 32, got " ++ toString r.maxSteps.toNat)) := by
  have htag : ¬ r.schema ≠ schemaTag := not_not.2 hschema
  have hrange : r.maxSteps < leastMaxSteps ∨ greatestMaxSteps < r.maxSteps := by
    rw [UInt32.lt_iff_toNat_lt, UInt32.lt_iff_toNat_lt]
    show r.maxSteps.toNat < 1 ∨ 32 < r.maxSteps.toNat
    omega
  rw [checked, fault?, if_neg htag, if_pos hrange]
  rfl

end

/-! ## Writing what has been read -/

/-- A part that is a map is in order, also if it is the empty one in place of an absent part. -/
theorem ordered_of_gather {name : String} {room : Nat} {parts : List (String × Tree)} {m : Members}
    (h : (Field.withDefault name .members []).gather room parts = some m) :
    (Json.obj m).Ordered := by
  rw [Field.gather] at h
  split at h
  · exact Json.ordered_of_members (Except.toOption_eq_some_iff.1 h)
  · cases h
    exact ⟨.nil, trivial⟩

/-- The maps of a request that has been read are in order. -/
theorem ordered_of_reader {room : Nat} {t : Tree} {r : Request} (h : reader room t = .ok r) :
    r.Ordered := by
  obtain ⟨-, hparts⟩ := gathered_of_reader h
  exact ⟨ordered_of_gather hparts.context, ordered_of_gather hparts.tools,
    ordered_of_gather hparts.components⟩

/-- What has been accepted is accepted again by way of its value. -/
theorem accept_of_parse {body : List UInt8} {r : Request} (h : parse body = .ok r) :
    accept r.toJson = .ok r := by
  obtain ⟨hrun, hfault⟩ := parse_eq_ok_iff.1 h
  obtain ⟨hread, -⟩ := Json.run_eq_ok_iff.1 hrun
  have hr := ordered_of_reader (Except.toOption_eq_some_iff.1 hread)
  have hvalue : reader.ofValue r.toJson = .ok r := ofValue_members hr (.refl _)
  rw [accept_of_ofValue hvalue, checked, hfault]

/-- **There and back.** A request is what is read from its value, in whatever order the members
come. The value is accepted, as the request, exactly if the schema is the right one and the limit is
in range. Otherwise it is refused with the schema that the request has or, if the schema is right,
with the limit that it has. A body with this value, in which no key comes twice, has the same
answer. Reference: `PlannerInput`, in both directions, and `PlannerInput.validate`. -/
theorem accept_toJson {r : Request} (hr : r.Ordered) {m : Members} (hm : m.Perm r.members) :
    reader.ofValue r.toJson = .ok r ∧ reader.ofValue (.obj m) = .ok r ∧
    (accept (.obj m) = .ok r ↔
      r.schema = "planner_input.v1" ∧ 1 ≤ r.maxSteps.toNat ∧ r.maxSteps.toNat ≤ 32) ∧
    (r.schema ≠ "planner_input.v1" → accept (.obj m) = .error (.inputValidation
      ("schema: expected \"planner_input.v1\", got \"" ++ r.schema ++ "\""))) ∧
    (r.schema = "planner_input.v1" → ¬ (1 ≤ r.maxSteps.toNat ∧ r.maxSteps.toNat ≤ 32) →
      accept (.obj m) = .error (.inputValidation
        ("constraints.maxSteps: must be between 1 and 32, got " ++ toString r.maxSteps.toNat))) ∧
    ∀ body, Json.parseBytes body = .ok r.toJson.sorted →
      DistinctKeys (Document.ofBytes body).tree → parse body = accept (.obj m) := by
  have haccept : accept (.obj m) = r.checked := accept_of_ofValue (ofValue_members hr hm)
  rw [haccept]
  refine ⟨ofValue_members hr (List.Perm.refl _), ofValue_members hr hm, checked_eq_ok_iff,
    checked_of_schema, checked_of_maxSteps, fun body hbody hkeys => ?_⟩
  exact parse_of_run (run_of_value hr hbody hkeys)

/-- A request with nested objects, and without one of the names for the log. -/
def sampleRequest : Request :=
  { ofPrompt "x" with
    context := [("a", .arr [.obj [("b", .null), ("c", .num (.int 1))]]), ("b", .obj [])]
    maxSteps := 32, caller := ⟨none, some "u"⟩ }

/-- The greatest limit is accepted, also from the text; a greater one is not, and a wrong schema is
named before a limit that is too small. -/
theorem accept_toJson_three_requests :
    reader.ofValue sampleRequest.toJson = .ok sampleRequest ∧
    accept (.obj sampleRequest.members.reverse) = .ok sampleRequest ∧
    parse (Text.Utf8.encode sampleRequest.text) = .ok sampleRequest ∧
    accept { sampleRequest with maxSteps := 33 }.toJson = .error
      (.inputValidation "constraints.maxSteps: must be between 1 and 32, got 33") ∧
    accept { sampleRequest with schema := "planner_input.v2", maxSteps := 0 }.toJson = .error
      (.inputValidation "schema: expected \"planner_input.v1\", got \"planner_input.v2\"") := by
  have hempty : (Json.obj []).Ordered := ⟨.nil, trivial⟩
  have hinner : (Json.obj [("b", .null), ("c", .num (.int 1))]).Ordered :=
    ⟨by decide, trivial, trivial, trivial⟩
  have hcontext : (Json.obj sampleRequest.context).Ordered :=
    ⟨by decide, ⟨hinner, trivial⟩, hempty, trivial⟩
  have hordered (schema : String) (n : UInt32) :
      Ordered { sampleRequest with schema := schema, maxSteps := n } := ⟨hcontext, hempty, hempty⟩
  obtain ⟨hvalue, hkeys⟩ : (Json.parseBytes (Text.Utf8.encode sampleRequest.text)).toOption =
        some sampleRequest.toJson.sorted ∧
      DistinctKeys (Document.ofBytes (Text.Utf8.encode sampleRequest.text)).tree := by
    decide +kernel
  have hr : sampleRequest.Ordered := hordered sampleRequest.schema sampleRequest.maxSteps
  obtain ⟨hread, -, haccepted, -, -, hbodies⟩ := accept_toJson hr (List.reverse_perm _)
  have haccept := haccepted.2 ⟨rfl, by decide, by decide⟩
  have hbody := hbodies _ (Except.toOption_eq_some_iff.1 hvalue) hkeys
  obtain ⟨-, -, -, -, hlimit, -⟩ := accept_toJson (hordered _ 33) (.refl _)
  obtain ⟨-, -, -, hschema, -, -⟩ := accept_toJson (hordered "planner_input.v2" 0) (.refl _)
  exact ⟨hread, haccept, hbody.trans haccept, hlimit rfl (by decide), hschema (by decide)⟩

end AgentPlan.Request
