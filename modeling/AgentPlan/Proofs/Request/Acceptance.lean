import AgentPlan.Proofs.Draft.WellFormed
import AgentPlan.Proofs.Json.Records
import AgentPlan.Plan.Encode
import AgentPlan.Request.Reader

/-!
# Which requests are accepted

What the members of a document have to be for a request (`IsRequest`), and what the request is that
they state (`States`), are said of the JSON value, without the reader that walks through the text.
`accepted_iff_isRequest` says that the two agree, for the texts of objects in which no key comes
twice.
-/

namespace AgentPlan.Request

open Json (Members Tree Document)
open Draft (Has MayHave IsText IsObject NullOr ObjectOf)

/-! ## Rules -/

section
variable {r : Request}

/-- A request breaks no rule exactly if its schema is the one of requests and its limit on the
number of steps lies within the bounds. -/
theorem fault?_eq_none_iff :
    r.fault? = none ↔
      r.schema = schemaTag ∧ leastMaxSteps ≤ r.maxSteps ∧ r.maxSteps ≤ greatestMaxSteps := by
  rw [fault?]
  split_ifs with hschema hsteps
  · exact iff_of_false nofun fun h => hschema h.1
  · refine iff_of_false nofun fun h => ?_
    rcases hsteps with hsteps | hsteps
    · exact absurd h.2.1 (UInt32.not_le.2 hsteps)
    · exact absurd h.2.2 (UInt32.not_le.2 hsteps)
  · rw [not_or, UInt32.not_lt, UInt32.not_lt] at hsteps
    exact iff_of_true rfl ⟨not_not.1 hschema, hsteps⟩

/-- The request of a body is the one that is read from it, and keeps the rules. -/
theorem parse_eq_ok_iff {body : List UInt8} :
    parse body = .ok r ↔ reader.run body = .ok r ∧ r.fault? = none := by
  rw [parse]
  cases reader.run body with
  | error message => exact iff_of_false nofun nofun
  | ok r' =>
    constructor
    · intro h
      cases hfault : r'.fault? with
      | some f =>
        simp only [hfault] at h
        cases h
      | none =>
        simp only [hfault] at h
        cases h
        exact ⟨rfl, hfault⟩
    · rintro ⟨h, hfault⟩
      cases h
      simp only [hfault]

/-- A body that is not accepted is refused as a bad request. -/
theorem exists_message_of_parse {body : List UInt8} {f : Failure} (h : parse body = .error f) :
    ∃ message, f = .inputValidation message := by
  rw [parse] at h
  split at h
  · cases h
    exact ⟨_, rfl⟩
  · split at h
    · cases h
      exact ⟨_, rfl⟩
    · cases h

end

/-! ## The format -/

/-- The members of the limits of a request. -/
def IsLimits (m : Members) : Prop :=
  MayHave "maxSteps" (fun v => ∃ i : Int, v = .num (.int i) ∧ 1 ≤ i ∧ i ≤ 32) m

/-- The members of what a request says of the caller. -/
structure IsCaller (m : Members) : Prop where
  conversationId : MayHave "conversationId" (NullOr IsText) m
  userId : MayHave "userId" (NullOr IsText) m

/-- The members of a request. Other members may be there. -/
structure IsRequest (m : Members) : Prop where
  schema : MayHave "schema" (· = .str "planner_input.v1") m
  prompt : Has "userPrompt" IsText m
  context : MayHave "conversationContext" IsObject m
  tools : MayHave "toolCatalog" IsObject m
  components : MayHave "uiComponentCatalog" IsObject m
  limits : MayHave "constraints" (ObjectOf IsLimits) m
  caller : MayHave "meta" (ObjectOf IsCaller) m

/-- The members state a limit on the number of steps, or leave it at eight. -/
def StatesLimits (n : UInt32) (m : Members) : Prop :=
  (m.get? "maxSteps").getD (.num (.int 8)) = .num (.int n.toNat)

/-- The members state who asks, as far as they say it. -/
structure StatesCaller (c : Caller) (m : Members) : Prop where
  conversationId :
    (m.get? "conversationId").getD .null = Json.orNull .str c.conversationId
  userId : (m.get? "userId").getD .null = Json.orNull .str c.userId

/-- The members state a request: every part of it is what they give for it, or empty where they give
nothing. -/
structure States (m : Members) (r : Request) : Prop where
  schema : (m.get? "schema").getD (.str "planner_input.v1") = .str r.schema
  prompt : m.get? "userPrompt" = some (.str r.prompt)
  context : (m.get? "conversationContext").getD (.obj []) = .obj r.context
  tools : (m.get? "toolCatalog").getD (.obj []) = .obj r.tools
  components : (m.get? "uiComponentCatalog").getD (.obj []) = .obj r.components
  limits : ObjectOf (StatesLimits r.maxSteps) ((m.get? "constraints").getD (.obj []))
  caller : ObjectOf (StatesCaller r.caller) ((m.get? "meta").getD (.obj []))

/-! ## Members with defaults -/

section
variable {m : Members} {key : String} {P : Json → Prop} {d : Json}

/-- A member may be absent exactly if its default is as it may be. -/
theorem mayHave_iff_getD (hd : P d) : MayHave key P m ↔ P ((m.get? key).getD d) := by
  rw [MayHave]
  cases m.get? key with
  | none => simpa using hd
  | some v => simp

/-- A default is viewed like any other value. -/
theorem read?_eq_getD {α : Type} {view : Json → Option α} {absent : Option α}
    (hd : view d = absent) : m.read? key view absent = view ((m.get? key).getD d) := by
  rw [Members.read?]
  cases m.get? key with
  | none => exact hd.symm
  | some v => rfl

end

/-! ## Views -/

section
variable {v : Json}

/-- A value that may be null and is else a string is the one that stands for its text. -/
theorem orNull?_text?_eq_some_iff {o : Option String} :
    Json.orNull? Json.text? v = some o ↔ v = Json.orNull .str o := by
  cases v <;> cases o <;> simp [Json.orNull?, Json.orNull, Json.text?, eq_comm]

/-- The limit on the number of steps that a value states. -/
def limits? (v : Json) : Option UInt32 :=
  v.members?.bind (·.read? "maxSteps" Json.uint32? (some defaultMaxSteps))

/-- Who asks, as a value says it. -/
def caller? (v : Json) : Option Caller :=
  v.members?.bind fun m =>
    (m.read? "conversationId" (Json.orNull? Json.text?) (some none)).bind fun conversationId =>
      (m.read? "userId" (Json.orNull? Json.text?) (some none)).map fun userId =>
        { conversationId, userId }

/-- A value is viewed as limits exactly if it is an object that states them. -/
theorem limits?_eq_some_iff {n : UInt32} :
    limits? v = some n ↔ ObjectOf (StatesLimits n) v := by
  have hdefault : Json.uint32? (.num (.int 8)) = some defaultMaxSteps := by decide
  simp only [limits?, Option.bind_eq_some_iff, Json.members?_eq_some_iff, read?_eq_getD hdefault,
    Json.uint32?_eq_some_iff]
  rfl

/-- A value is viewed as a caller exactly if it is an object that states one. -/
theorem caller?_eq_some_iff {c : Caller} :
    caller? v = some c ↔ ObjectOf (StatesCaller c) v := by
  have hdefault : Json.orNull? Json.text? .null = some none := rfl
  simp only [caller?, Option.bind_eq_some_iff, Option.map_eq_some_iff, Json.members?_eq_some_iff,
    read?_eq_getD hdefault, orNull?_text?_eq_some_iff]
  constructor
  · rintro ⟨m, hm, conversationId, hconversation, userId, huser, rfl⟩
    exact ⟨m, hm, hconversation, huser⟩
  · rintro ⟨m, hm, hstates⟩
    exact ⟨m, hm, _, hstates.conversationId, _, hstates.userId, rfl⟩

end

/-- A request is stated exactly if each of its parts is what is viewed of the member for it. -/
theorem states_iff_read? {m : Members} {r : Request} : States m r ↔
    m.read? "schema" Json.text? (some schemaTag) = some r.schema ∧
    m.read? "userPrompt" Json.text? none = some r.prompt ∧
    m.read? "conversationContext" Json.members? (some []) = some r.context ∧
    m.read? "toolCatalog" Json.members? (some []) = some r.tools ∧
    m.read? "uiComponentCatalog" Json.members? (some []) = some r.components ∧
    m.read? "constraints" limits? (some defaultMaxSteps) = some r.maxSteps ∧
    m.read? "meta" caller? (some ⟨none, none⟩) = some r.caller := by
  have hschema : Json.text? (.str "planner_input.v1") = some schemaTag := rfl
  have hobject : Json.members? (.obj []) = some [] := rfl
  have hlimits : limits? (.obj []) = some defaultMaxSteps := rfl
  have hcaller : caller? (.obj []) = some ⟨none, none⟩ := rfl
  have hprompt : m.read? "userPrompt" Json.text? none = some r.prompt ↔
      m.get? "userPrompt" = some (.str r.prompt) := by
    rw [Members.read?]
    cases m.get? "userPrompt" <;> simp [Json.text?_eq_some_iff]
  rw [hprompt]
  simp only [read?_eq_getD hschema, read?_eq_getD hobject, read?_eq_getD hlimits,
    read?_eq_getD hcaller, Json.text?_eq_some_iff, Json.members?_eq_some_iff, limits?_eq_some_iff,
    caller?_eq_some_iff]
  constructor
  · intro h
    exact ⟨h.schema, h.prompt, h.context, h.tools, h.components, h.limits, h.caller⟩
  · rintro ⟨hs, hp, hx, ht, hc, hl, hm⟩
    exact ⟨hs, hp, hx, ht, hc, hl, hm⟩

/-! ## Readers -/

section
variable {room : Nat} {t : Tree} {v : Json} {m : Members}

open Json (Fields Field Reader)

/-- If they are not an array, the limits of a request are read as the value says. -/
theorem toOption_limitsReader (ht : t.Sound) (hkeys : t.DistinctKeys) (h : t.value room = .ok v)
    (harr : v.items? = none) : (limitsReader room t).toOption = limits? v := by
  rw [limitsReader, Except.toOption_map]
  cases hobj : v.members? with
  | none => rw [Json.record_of_scalar ht h harr hobj, limits?, hobj]; rfl
  | some m =>
    obtain rfl := Json.members?_eq_some_iff.1 hobj
    obtain ⟨room, opening, entries, rfl, rfl, hspells⟩ := Json.Entries.exists_spells ht hkeys h
    have hsteps : (Field.withDefault "maxSteps" .uint32 defaultMaxSteps).gather room entries.keyed =
        m.read? "maxSteps" Json.uint32? (some defaultMaxSteps) :=
      hspells.gather_of_follows Reader.follows_uint32
    rw [Json.record_eq_gather (by decide) hspells.valued hspells.sound hspells.distinct,
      Fields.gather, hsteps, limits?, hobj, Option.bind_some]
    cases m.read? "maxSteps" Json.uint32? (some defaultMaxSteps) <;> rfl

/-- If it is not an array, what a request says of the caller is read as the value says. -/
theorem toOption_callerReader (ht : t.Sound) (hkeys : t.DistinctKeys) (h : t.value room = .ok v)
    (harr : v.items? = none) : (callerReader room t).toOption = caller? v := by
  rw [callerReader, Except.toOption_map]
  cases hobj : v.members? with
  | none => rw [Json.record_of_scalar ht h harr hobj, caller?, hobj]; rfl
  | some m =>
    obtain rfl := Json.members?_eq_some_iff.1 hobj
    obtain ⟨room, opening, entries, rfl, rfl, hspells⟩ := Json.Entries.exists_spells ht hkeys h
    have hname (key : String) : (Field.maybe key .text).gather room entries.keyed =
        m.read? key (Json.orNull? Json.text?) (some none) :=
      hspells.gather_of_follows (Reader.follows_optional Reader.follows_text)
    rw [Json.record_eq_gather (by decide) hspells.valued hspells.sound hspells.distinct,
      Fields.gather, Fields.gather, hname, hname, caller?, hobj, Option.bind_some]
    cases m.read? "conversationId" (Json.orNull? Json.text?) (some none) with
    | none => rfl
    | some conversationId =>
      cases m.read? "userId" (Json.orNull? Json.text?) (some none) <;> rfl

/-- No key comes twice in the object, in its limits or in what it says of the caller. -/
structure DistinctKeys (t : Tree) : Prop where
  whole : t.DistinctKeys
  limits : ∀ part ∈ t.member? "constraints", part.DistinctKeys
  caller : ∀ part ∈ t.member? "meta", part.DistinctKeys

instance : DecidablePred DistinctKeys := fun t =>
  decidable_of_iff (t.DistinctKeys ∧ (∀ part ∈ t.member? "constraints", part.DistinctKeys) ∧
    ∀ part ∈ t.member? "meta", part.DistinctKeys)
    ⟨fun h => ⟨h.1, h.2.1, h.2.2⟩, fun h => ⟨h.whole, h.limits, h.caller⟩⟩

/-- A request is read exactly if the members of the object state it. -/
theorem toOption_reader_eq_some_iff (ht : t.Sound) (hkeys : DistinctKeys t)
    (h : t.value room = .ok (.obj m))
    (hlimits : ∀ items, m.get? "constraints" ≠ some (.arr items))
    (hcaller : ∀ items, m.get? "meta" ≠ some (.arr items)) {r : Request} :
    (reader room t).toOption = some r ↔ States m r := by
  obtain ⟨room, opening, entries, rfl, rfl, hspells⟩ :=
    Json.Entries.exists_spells ht hkeys.whole h
  have hitems {v : Json} {key : String} (hget : m.get? key = some v)
      (harr : ∀ items, m.get? key ≠ some (.arr items)) : v.items? = none := by
    cases v with
    | arr items => exact absurd hget (harr items)
    | null | bool | num | str | obj => rfl
  have hschema : (Field.withDefault "schema" .text schemaTag).gather room entries.keyed =
      m.read? "schema" Json.text? (some schemaTag) :=
    hspells.gather_of_follows Reader.follows_text
  have hprompt : (Field.required "userPrompt" .text).gather room entries.keyed =
      m.read? "userPrompt" Json.text? none :=
    hspells.gather_of_follows Reader.follows_text
  have hobject (key : String) : (Field.withDefault key .members []).gather room entries.keyed =
      m.read? key Json.members? (some []) :=
    hspells.gather_of_follows Reader.follows_members
  have hlimitsField : (Field.withDefault "constraints" limitsReader defaultMaxSteps).gather room
      entries.keyed = m.read? "constraints" limits? (some defaultMaxSteps) :=
    hspells.gather_eq fun part v hpart hsound hv hget =>
      toOption_limitsReader hsound (hkeys.limits part hpart) hv (hitems hget hlimits)
  have hcallerField : (Field.withDefault "meta" callerReader ⟨none, none⟩).gather room
      entries.keyed = m.read? "meta" caller? (some ⟨none, none⟩) :=
    hspells.gather_eq fun part v hpart hsound hv hget =>
      toOption_callerReader hsound (hkeys.caller part hpart) hv (hitems hget hcaller)
  rw [reader, Except.toOption_map,
    Json.record_eq_gather (by decide) hspells.valued hspells.sound hspells.distinct]
  cases r
  simp [Fields.gather, hschema, hprompt, hobject, hlimitsField, hcallerField, states_iff_read?,
    Option.bind_eq_some_iff]

end

/-! ## Acceptance -/

section
variable {m : Members}

/-- Limits are those of a request exactly if they state a number of steps that keeps the rules. -/
theorem isLimits_iff : IsLimits m ↔
    ∃ n, StatesLimits n m ∧ leastMaxSteps ≤ n ∧ n ≤ greatestMaxSteps := by
  rw [IsLimits, mayHave_iff_getD ⟨8, rfl, by decide, by decide⟩]
  constructor
  · rintro ⟨i, hi, hleast, hgreatest⟩
    have hn : (UInt32.ofNat i.toNat).toNat = i.toNat :=
      UInt32.toNat_ofNat_of_lt' (by rw [UInt32.size]; omega)
    refine ⟨UInt32.ofNat i.toNat, ?_, ?_, ?_⟩
    · rw [StatesLimits, hi, hn, Int.toNat_of_nonneg (by omega)]
    · rw [UInt32.le_iff_toNat_le, hn]
      exact Int.le_toNat (by omega) |>.2 hleast
    · rw [UInt32.le_iff_toNat_le, hn]
      exact Int.toNat_le.2 hgreatest
  · rintro ⟨n, hn, hleast, hgreatest⟩
    exact ⟨_, hn, by exact_mod_cast UInt32.le_iff_toNat_le.1 hleast,
      by exact_mod_cast UInt32.le_iff_toNat_le.1 hgreatest⟩

/-- A string or null is what some optional text is written as. -/
theorem nullOr_isText_iff {v : Json} : NullOr IsText v ↔ ∃ o, v = Json.orNull .str o := by
  constructor
  · rintro (rfl | ⟨s, rfl⟩)
    · exact ⟨none, rfl⟩
    · exact ⟨some s, rfl⟩
  · rintro ⟨o, rfl⟩
    cases o with
    | none => exact .inl rfl
    | some s => exact .inr ⟨s, rfl⟩

/-- Members tell of a caller exactly if they state one. -/
theorem isCaller_iff : IsCaller m ↔ ∃ c, StatesCaller c m := by
  have hid (key : String) : MayHave key (NullOr IsText) m ↔
      ∃ o, (m.get? key).getD .null = Json.orNull .str o := by
    rw [mayHave_iff_getD (.inl rfl), nullOr_isText_iff]
  constructor
  · intro h
    obtain ⟨conversationId, hconversation⟩ := (hid _).1 h.conversationId
    obtain ⟨userId, huser⟩ := (hid _).1 h.userId
    exact ⟨⟨conversationId, userId⟩, hconversation, huser⟩
  · rintro ⟨c, hc⟩
    exact ⟨(hid _).2 ⟨_, hc.conversationId⟩, (hid _).2 ⟨_, hc.userId⟩⟩

/-- Members are those of a request exactly if they state one that keeps the rules. -/
theorem isRequest_iff : IsRequest m ↔ ∃ r, States m r ∧ r.fault? = none := by
  have hobject (key : String) : MayHave key IsObject m ↔
      ∃ o, (m.get? key).getD (.obj []) = .obj o := mayHave_iff_getD ⟨[], rfl⟩
  have hlimits : MayHave "constraints" (ObjectOf IsLimits) m ↔
      ObjectOf IsLimits ((m.get? "constraints").getD (.obj [])) :=
    mayHave_iff_getD ⟨[], rfl, nofun⟩
  have hcaller : MayHave "meta" (ObjectOf IsCaller) m ↔
      ObjectOf IsCaller ((m.get? "meta").getD (.obj [])) :=
    mayHave_iff_getD ⟨[], rfl, nofun, nofun⟩
  have hschema : MayHave "schema" (· = .str "planner_input.v1") m ↔
      (m.get? "schema").getD (.str "planner_input.v1") = .str "planner_input.v1" :=
    mayHave_iff_getD rfl
  simp only [fault?_eq_none_iff]
  constructor
  · intro h
    obtain ⟨_, hget, prompt, rfl⟩ := h.prompt
    obtain ⟨context, hcontext⟩ := (hobject _).1 h.context
    obtain ⟨tools, htools⟩ := (hobject _).1 h.tools
    obtain ⟨components, hcomponents⟩ := (hobject _).1 h.components
    obtain ⟨l, hl, hisLimits⟩ := hlimits.1 h.limits
    obtain ⟨n, hn, hrange⟩ := isLimits_iff.1 hisLimits
    obtain ⟨c, hc, hisCaller⟩ := hcaller.1 h.caller
    obtain ⟨caller, hstates⟩ := isCaller_iff.1 hisCaller
    exact ⟨⟨schemaTag, prompt, context, tools, components, n, caller⟩,
      ⟨hschema.1 h.schema, hget, hcontext, htools, hcomponents, ⟨l, hl, hn⟩, ⟨c, hc, hstates⟩⟩,
      rfl, hrange⟩
  · rintro ⟨r, hr, htag, hrange⟩
    obtain ⟨l, hl, hn⟩ := hr.limits
    obtain ⟨c, hc, hstates⟩ := hr.caller
    exact {
      schema := hschema.2 (hr.schema.trans (congrArg Json.str htag))
      prompt := ⟨_, hr.prompt, _, rfl⟩
      context := (hobject _).2 ⟨_, hr.context⟩
      tools := (hobject _).2 ⟨_, hr.tools⟩
      components := (hobject _).2 ⟨_, hr.components⟩
      limits := hlimits.2 ⟨l, hl, isLimits_iff.2 ⟨_, hn, hrange⟩⟩
      caller := hcaller.2 ⟨c, hc, isCaller_iff.2 ⟨_, hstates⟩⟩ }

end

/-- **A request is accepted exactly if its members are what they should be**, where its body is the
text of an object in which no key comes twice, and in which the limits and what is said of the
caller are not arrays. The accepted request is the one that the members state, and a body that is
not accepted makes a bad request. That the body is the text of an object asks of unknown members,
too, that they can be parsed (`hbody`). The reader passes over them without asking so much: a body
is accepted whose unknown member is the number `1e999` or half of a surrogate pair, or is nested too
deep, but such a body is no text of an object and outside of this statement. Reference:
`parse_planner_input`, with the decoder of `PlannerInput` and `PlannerInput.validate`. -/
theorem accepted_iff_isRequest {body : List UInt8} {m : Members}
    (hbody : Json.parseBytes body = .ok (.obj m))
    (hkeys : DistinctKeys (Document.ofBytes body).tree)
    (hlimits : ∀ items, m.get? "constraints" ≠ some (.arr items))
    (hcaller : ∀ items, m.get? "meta" ≠ some (.arr items)) :
    ((∃ r, parse body = .ok r) ↔ IsRequest m) ∧
    (∀ r, parse body = .ok r → States m r) ∧
    (¬ IsRequest m → ∃ message, parse body = .error (.inputValidation message)) := by
  obtain ⟨hvalue, hfinish⟩ := Json.readWith_eq_ok_iff.1 hbody
  have hparse (r : Request) : parse body = .ok r ↔ States m r ∧ r.fault? = none := by
    rw [parse_eq_ok_iff, Json.run_eq_ok_iff, and_iff_left hfinish,
      toOption_reader_eq_some_iff (Json.sound_ofBytes body) hkeys hvalue hlimits hcaller]
  have haccepted : (∃ r, parse body = .ok r) ↔ IsRequest m := by
    simp only [hparse, isRequest_iff]
  refine ⟨haccepted, fun r hr => ((hparse r).1 hr).1, fun hnot => ?_⟩
  cases hresult : parse body with
  | ok r => exact absurd (haccepted.1 ⟨r, hresult⟩) hnot
  | error f =>
    obtain ⟨message, rfl⟩ := exists_message_of_parse hresult
    exact ⟨message, rfl⟩

/-- The body of a request with a limit on the number of steps, as it is written, and a member that
no request has. -/
def sampleBody (limit : String) : List UInt8 :=
  Text.Utf8.encode ("\x7b\"constraints\":\x7b\"maxSteps\":" ++ limit ++
    "\x7d,\"extra\":[],\"userPrompt\":\"x\"\x7d")

/-- The members of this request. -/
def sampleMembers (limit : Json.Number) : Members :=
  [("constraints", .obj [("maxSteps", .num limit)]), ("extra", .arr []), ("userPrompt", .str "x")]

/-- With the greatest limit the request is accepted, and with a limit that is written as a float it
is not. -/
theorem accepted_iff_isRequest_two_limits :
    (∃ r, parse (sampleBody "32") = .ok r ∧ States (sampleMembers (.int 32)) r) ∧
    ∃ message, parse (sampleBody "8.0") = .error (.inputValidation message) := by
  have hspelled : (Json.parseBytes (sampleBody "32")).toOption =
        some (.obj (sampleMembers (.int 32))) ∧
      (Json.parseBytes (sampleBody "8.0")).toOption =
        some (.obj (sampleMembers (.float ⟨false, 2 ^ 52, -49⟩))) := by decide +kernel
  have hkeys : DistinctKeys (Document.ofBytes (sampleBody "32")).tree ∧
      DistinctKeys (Document.ofBytes (sampleBody "8.0")).tree := by
    refine ⟨⟨?_, ?_, ?_⟩, ⟨?_, ?_, ?_⟩⟩
    all_goals decide +kernel
  have hlimits (n : Json.Number) (items : List Json) :
      (sampleMembers n).get? "constraints" ≠ some (.arr items) := by
    simp [sampleMembers, Members.get?]
  have hcaller (n : Json.Number) (items : List Json) :
      (sampleMembers n).get? "meta" ≠ some (.arr items) := by
    simp [sampleMembers, Members.get?]
  have hrequest : IsRequest (sampleMembers (.int 32)) :=
    isRequest_iff.2 ⟨{ ofPrompt "x" with maxSteps := 32 },
      ⟨rfl, rfl, rfl, rfl, rfl, ⟨_, rfl, rfl⟩, ⟨_, rfl, rfl, rfl⟩⟩, rfl⟩
  have hno : ¬ IsRequest (sampleMembers (.float ⟨false, 2 ^ 52, -49⟩)) := by
    intro h
    obtain ⟨l, hl, hmax⟩ := h.limits _ rfl
    cases hl
    obtain ⟨i, hi, -⟩ := hmax _ rfl
    cases hi
  constructor
  · obtain ⟨haccepted, hstates, -⟩ := accepted_iff_isRequest
      (Except.toOption_eq_some_iff.1 hspelled.1) hkeys.1 (hlimits _) (hcaller _)
    obtain ⟨r, hr⟩ := haccepted.2 hrequest
    exact ⟨r, hr, hstates r hr⟩
  · exact (accepted_iff_isRequest (Except.toOption_eq_some_iff.1 hspelled.2) hkeys.2 (hlimits _)
      (hcaller _)).2.2 hno

end AgentPlan.Request
