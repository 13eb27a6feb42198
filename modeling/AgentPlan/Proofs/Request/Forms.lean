import AgentPlan.Proofs.Json.Forms
import AgentPlan.Proofs.Request.Acceptance

/-!
# The forms of accepted requests

A request, its limits and what it says of the caller are records, and each of them is read from an
object or from an array. So an accepted body is an object with objects in it, unless one of the
three is written as an array (`hasNamedFields_iff`).
-/

namespace AgentPlan.Request

open Json (Tree Document Field Fields)
open Draft (IsObject)

/-! ## Parts -/

/-- The names of the fields of a request, in their order. -/
def fieldNames : List String :=
  ["schema", "userPrompt", "conversationContext", "toolCatalog", "uiComponentCatalog",
    "constraints", "meta"]

/-- Every part of the request is read from the one of the named trees that has its name, or is the
default where none has. -/
structure Gathered (room : Nat) (members : List (String × Tree)) (r : Request) : Prop where
  once : Json.Once fieldNames members
  schema : (Field.withDefault "schema" .text schemaTag).gather room members = some r.schema
  prompt : (Field.required "userPrompt" .text).gather room members = some r.prompt
  context : (Field.withDefault "conversationContext" .members []).gather room members =
    some r.context
  tools : (Field.withDefault "toolCatalog" .members []).gather room members = some r.tools
  components : (Field.withDefault "uiComponentCatalog" .members []).gather room members =
    some r.components
  limits : (Field.withDefault "constraints" limitsReader defaultMaxSteps).gather room members =
    some r.maxSteps
  caller : (Field.withDefault "meta" callerReader ⟨none, none⟩).gather room members =
    some r.caller

section
variable {room : Nat} {t : Tree} {r : Request}

/-- A request is read from a record, part by part. -/
theorem gathered_of_reader (h : reader room t = .ok r) :
    t.IsRecord ∧ Gathered (room - 1) (t.named fieldNames) r := by
  obtain ⟨⟨schema, prompt, context, tools, components, maxSteps, caller, _⟩, hrecord, rfl⟩ :=
    Except.map_eq_ok_iff.1 h
  obtain ⟨ht, hgather, honce⟩ := Json.gather_of_record (by decide)
    (Fields.Uniform.consistent (by exact ⟨rfl, rfl, rfl, rfl, rfl, rfl, rfl, trivial⟩)) hrecord
  obtain ⟨hschema, hgather⟩ := Fields.exists_of_gather hgather
  obtain ⟨hprompt, hgather⟩ := Fields.exists_of_gather hgather
  obtain ⟨hcontext, hgather⟩ := Fields.exists_of_gather hgather
  obtain ⟨htools, hgather⟩ := Fields.exists_of_gather hgather
  obtain ⟨hcomponents, hgather⟩ := Fields.exists_of_gather hgather
  obtain ⟨hlimits, hgather⟩ := Fields.exists_of_gather hgather
  obtain ⟨hcaller, -⟩ := Fields.exists_of_gather hgather
  exact ⟨ht, honce, hschema, hprompt, hcontext, htools, hcomponents, hlimits, hcaller⟩

/-- What is read as limits has the form of a record. -/
theorem isRecord_of_limitsReader {n : UInt32} (h : limitsReader room t = .ok n) : t.IsRecord := by
  obtain ⟨_, hrecord, -⟩ := Except.map_eq_ok_iff.1 h
  exact (Json.gather_of_record (by decide) (Fields.Uniform.consistent (by exact ⟨rfl, trivial⟩))
    hrecord).1

/-- What is read as a caller has the form of a record. -/
theorem isRecord_of_callerReader {c : Caller} (h : callerReader room t = .ok c) : t.IsRecord := by
  obtain ⟨_, hrecord, -⟩ := Except.map_eq_ok_iff.1 h
  exact (Json.gather_of_record (by decide)
    (Fields.Uniform.consistent (by exact ⟨rfl, rfl, trivial⟩)) hrecord).1

/-- The limits are read from a record, if the request has a part for them. -/
theorem Gathered.isRecord_limits {members : List (String × Tree)} (h : Gathered room members r)
    {part : Tree} (hpart : ("constraints", part) ∈ members) : part.IsRecord :=
  isRecord_of_limitsReader (h.once.read_eq_ok (by decide) h.limits hpart)

/-- What is said of the caller is read from a record, if the request has a part for it. -/
theorem Gathered.isRecord_caller {members : List (String × Tree)} (h : Gathered room members r)
    {part : Tree} (hpart : ("meta", part) ∈ members) : part.IsRecord :=
  isRecord_of_callerReader (h.once.read_eq_ok (by decide) h.caller hpart)

end

/-! ## Accepted bodies -/

/-- The value is an object, and so are the limits and what it says of the caller, where it has them.
-/
structure HasNamedFields (v : Json) : Prop where
  whole : IsObject v
  limits : ∀ c, v.get? "constraints" = some c → IsObject c
  caller : ∀ c, v.get? "meta" = some c → IsObject c

/-- What is no array is an object, if it is one of both. -/
theorem isObject_of_isRecord {room : Nat} {t : Tree} {v : Json} (ht : t.IsRecord)
    (h : t.value room = .ok v) (harr : v.items? = none) : IsObject v := by
  rcases ht.value_cases h with hobj | ⟨items, rfl⟩
  · exact hobj
  · cases harr

/-- An object is no array. -/
theorem items?_of_isObject {v : Json} (h : IsObject v) : v.items? = none := by
  obtain ⟨m, rfl⟩ := h
  rfl

/-- **The forms of an accepted body.** The body is an object or an array, and so are the limits and
what it says of the caller: the parts with these names or, in an array, the sixth and the seventh
element. Its fields are named, then, exactly if none of the three is an array. Reference:
`parse_planner_input` and the decoders of `PlannerInput`, `PlannerConstraints` and `PlannerMeta`. -/
theorem hasNamedFields_iff {body : List UInt8} {r : Request} (h : parse body = .ok r) :
    let t := (Document.ofBytes body).tree
    (t.IsRecord ∧ (∀ part, ("constraints", part) ∈ t.named fieldNames → part.IsRecord) ∧
      ∀ part, ("meta", part) ∈ t.named fieldNames → part.IsRecord) ∧
    ∀ v, Json.parseBytes body = .ok v → (HasNamedFields v ↔ v.items? = none ∧
      (∀ c, v.get? "constraints" = some c → c.items? = none) ∧
      ∀ c, v.get? "meta" = some c → c.items? = none) := by
  intro t
  obtain ⟨hread, -⟩ := Json.run_eq_ok_iff.1 (parse_eq_ok_iff.1 h).1
  obtain ⟨ht, hgathered⟩ := gathered_of_reader (Except.toOption_eq_some_iff.1 hread)
  refine ⟨⟨ht, fun _ => hgathered.isRecord_limits, fun _ => hgathered.isRecord_caller⟩, ?_⟩
  intro v hv
  obtain ⟨hvalue, -⟩ := Json.readWith_eq_ok_iff.1 hv
  constructor
  · intro hnamed
    exact ⟨items?_of_isObject hnamed.whole, fun c hc => items?_of_isObject (hnamed.limits c hc),
      fun c hc => items?_of_isObject (hnamed.caller c hc)⟩
  · rintro ⟨harr, hlimits, hcaller⟩
    obtain ⟨m, rfl⟩ := isObject_of_isRecord ht hvalue harr
    refine ⟨⟨m, rfl⟩, fun c hc => ?_, fun c hc => ?_⟩
    · obtain ⟨_, part, hpart, hc'⟩ := Tree.exists_named_of_get? fieldNames hvalue hc
      exact isObject_of_isRecord (hgathered.isRecord_limits hpart) hc' (hlimits c hc)
    · obtain ⟨_, part, hpart, hc'⟩ := Tree.exists_named_of_get? fieldNames hvalue hc
      exact isObject_of_isRecord (hgathered.isRecord_caller hpart) hc' (hcaller c hc)

/-- The body of a request with limits as they are written. -/
def limitsBody (limits : String) : List UInt8 :=
  Text.Utf8.encode ("\x7b\"constraints\":" ++ limits ++ ",\"userPrompt\":\"x\"\x7d")

/-- The value of this body. -/
def limitsValue (limits : Json) : Json :=
  .obj [("constraints", limits), ("userPrompt", .str "x")]

/-- A limit that stands in an object is accepted, and so is one that stands in an array; but only
the first body has named fields throughout. -/
theorem hasNamedFields_iff_two_limits :
    let named := limitsValue (.obj [("maxSteps", .num (.int 5))])
    let listed := limitsValue (.arr [.num (.int 5)])
    let request := { ofPrompt "x" with maxSteps := 5 }
    parse (limitsBody "\x7b\"maxSteps\":5\x7d") = .ok request ∧
    Json.parseBytes (limitsBody "\x7b\"maxSteps\":5\x7d") = .ok named ∧ HasNamedFields named ∧
    parse (limitsBody "[5]") = .ok request ∧
    Json.parseBytes (limitsBody "[5]") = .ok listed ∧ ¬ HasNamedFields listed := by
  intro named listed request
  have hnamed : (parse (limitsBody "\x7b\"maxSteps\":5\x7d")).toOption = some request ∧
      (Json.parseBytes (limitsBody "\x7b\"maxSteps\":5\x7d")).toOption = some named := by
    decide +kernel
  have hlisted : (parse (limitsBody "[5]")).toOption = some request ∧
      (Json.parseBytes (limitsBody "[5]")).toOption = some listed := by
    decide +kernel
  simp only [Except.toOption_eq_some_iff] at hnamed hlisted
  refine ⟨hnamed.1, hnamed.2, ?_, hlisted.1, hlisted.2, fun h => ?_⟩
  · refine ((hasNamedFields_iff hnamed.1).2 named hnamed.2).2 ⟨rfl, fun c hc => ?_, fun c hc => ?_⟩
    · cases hc
      rfl
    · cases hc
  · cases (((hasNamedFields_iff hlisted.1).2 listed hlisted.2).1 h).2.1 _ rfl

/-- **A request without names.** A list of the schema and the prompt is accepted as a request. -/
theorem array_accepted :
    let body := Text.Utf8.encode "[\"planner_input.v1\",\"p\"]"
    parse body = .ok (ofPrompt "p") ∧
      Json.parseBytes body = .ok (.arr [.str "planner_input.v1", .str "p"]) ∧
      ¬ HasNamedFields (.arr [.str "planner_input.v1", .str "p"]) := by
  intro body
  have hread : (parse body).toOption = some (ofPrompt "p") ∧
      (Json.parseBytes body).toOption = some (.arr [.str "planner_input.v1", .str "p"]) := by
    decide +kernel
  refine ⟨Except.toOption_eq_some_iff.1 hread.1, Except.toOption_eq_some_iff.1 hread.2, ?_⟩
  rintro ⟨⟨m, hm⟩, -, -⟩
  cases hm

end AgentPlan.Request
