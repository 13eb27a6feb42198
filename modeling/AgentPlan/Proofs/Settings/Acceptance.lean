import AgentPlan.Proofs.Json.NumberValue
import AgentPlan.Proofs.Settings.Reading
import AgentPlan.Proofs.Text.Decimal
import AgentPlan.Proofs.Text.Ends
import AgentPlan.Proofs.Text.LetterCase

/-!
# Which variables are accepted

Settings are read from variables exactly if each variable for itself is absent or has a value of
the right form, and there is a key (`Acceptable`). Each setting is then what its variable spells, or
the default (`States`). Both are said without the readers, and it is proved of each reader that it
follows them (`ofVariables_eq_ok_iff_states`, `ofVariables_exact`).
-/

namespace AgentPlan.Settings

open Model (Provider)

/-! ## What variables say -/

section
variable {α : Type} {vars : Variables} {name : String} {default a : α} {spells : String → α → Prop}

/-- What a variable says: what its value spells, or the default where it is absent. -/
inductive Says (vars : Variables) (name : String) (default : α) (spells : String → α → Prop) :
    α → Prop
  | absent (h : present vars name = none) : Says vars name default spells default
  | spelled {value : String} {a : α} (h : present vars name = some value)
      (hspells : spells value a) : Says vars name default spells a

/-- What a variable says is what its value spells, if it has one. -/
theorem Says.spells_of_mem (h : Says vars name default spells a) :
    ∀ value ∈ present vars name, spells value a := by
  intro value hvalue
  cases h with
  | absent habsent => simp [habsent] at hvalue
  | spelled hpresent hspells =>
    obtain rfl := Option.some.inj (hpresent.symm.trans hvalue)
    exact hspells

/-- What gives the default where a variable is absent, and what its value spells where it is
present, gives what the variable says. -/
theorem eq_ok_iff_says {r : Except Fault α} (habsent : present vars name = none → r = .ok default)
    (hpresent : ∀ value, present vars name = some value → (r = .ok a ↔ spells value a)) :
    r = .ok a ↔ Says vars name default spells a := by
  refine ⟨fun hr => ?_, fun h => ?_⟩
  · cases hvalue : present vars name with
    | none =>
      obtain rfl := Except.ok.inj ((habsent hvalue).symm.trans hr)
      exact .absent hvalue
    | some value => exact .spelled hvalue ((hpresent value hvalue).1 hr)
  · cases h with
    | absent hvalue => exact habsent hvalue
    | spelled hvalue hspells => exact (hpresent _ hvalue).2 hspells

/-- A variable says something with a property of the default, if whatever value it has spells
something with this property. -/
theorem exists_says {P : α → Prop} (default : α) (spells : String → α → Prop)
    (hdefault : P default) (h : ∀ value ∈ present vars name, ∃ a, spells value a ∧ P a) :
    ∃ a, Says vars name default spells a ∧ P a := by
  cases hpresent : present vars name with
  | none => exact ⟨default, .absent hpresent, hdefault⟩
  | some value =>
    obtain ⟨a, hspells, ha⟩ := h value hpresent
    exact ⟨a, .spelled hpresent hspells, ha⟩

/-- A variable says a number of 32 bits, if whatever value it has is such a number. -/
theorem exists_says_uint32 {P : Nat → Prop} (default : UInt32) (hdefault : P default.toNat)
    (h : ∀ value ∈ present vars name, ∃ n, Text.Numeral n value ∧ P n ∧ n < 2 ^ 32) :
    ∃ n : UInt32, Says vars name default (fun value n => Text.Numeral n.toNat value) n ∧
      P n.toNat :=
  exists_says default _ hdefault fun value hvalue =>
    have ⟨n, hnumeral, hn, hbound⟩ := h value hvalue
    ⟨.ofNatLT n hbound, hnumeral, hn⟩

end

/-- The words for a truth value. -/
def truthWords : Bool → List String
  | true => ["1", "true", "yes", "on"]
  | false => ["0", "false", "no", "off"]

/-- Settings as the variables state them: each one is what its variable spells, or the default. -/
structure States (vars : Variables) (s : Settings) : Prop where
  apiKey : present vars "LLM_API_KEY" = some s.apiKey ∨
    present vars "LLM_API_KEY" = none ∧ present vars "GROQ_API_KEY" = some s.apiKey
  provider : Says vars "LLM_PROVIDER" .groq
    (fun value provider => Text.AnyCase provider.name value) s.provider
  baseUrl : s.baseUrl = present vars "LLM_BASE_URL"
  model : s.model = (present vars "LLM_MODEL").getD "llama-3.3-70b-versatile"
  temperature : Says vars "LLM_TEMPERATURE" (Binary.Format.single.round false 2 10)
    (fun value t => Binary.Format.single.ofText? value = some t) s.temperature
  timeout : Says vars "LLM_TIMEOUT_SECONDS" 20 (fun value n => Text.Numeral n.toNat value) s.timeout
  maxTokens : Says vars "LLM_MAX_TOKENS" 1200 (fun value n => Text.Numeral n.toNat value)
    s.maxTokens
  maxSteps : Says vars "PLANNER_MAX_STEPS" 8 (fun value n => Text.Numeral n.toNat value) s.maxSteps
  repairAttempts : Says vars "PLANNER_REPAIR_ATTEMPTS" 2
    (fun value n => Text.Numeral n.toNat value) s.repairAttempts
  strictJson : Says vars "PLANNER_STRICT_JSON" true
    (fun value b => ∃ word ∈ truthWords b, Text.AnyCase word value) s.strictJson
  bindAddress : s.bindAddress = (present vars "PLANNER_BIND_ADDR").getD "0.0.0.0:8088"

/-- Variables that settings can be read from: there is a key, and each other variable is absent or
has a value of its form, within its bounds. -/
structure Acceptable (vars : Variables) : Prop where
  key : (present vars "LLM_API_KEY").isSome ∨ (present vars "GROQ_API_KEY").isSome
  provider : ∀ value ∈ present vars "LLM_PROVIDER",
    Text.AnyCase "groq" value ∨ Text.AnyCase "openai" value
  temperature : ∀ value ∈ present vars "LLM_TEMPERATURE", ∃ b : Binary,
    Binary.Format.single.ofText? value = some (.finite b) ∧ 0 ≤ b.value ∧ b.value ≤ 2
  timeout : ∀ value ∈ present vars "LLM_TIMEOUT_SECONDS",
    ∃ n, Text.Numeral n value ∧ 0 < n ∧ n < 2 ^ 64
  maxTokens : ∀ value ∈ present vars "LLM_MAX_TOKENS", ∃ n, Text.Numeral n value ∧ n < 2 ^ 32
  maxSteps : ∀ value ∈ present vars "PLANNER_MAX_STEPS", ∃ n, Text.Numeral n value ∧ 1 ≤ n ∧ n ≤ 32
  repairAttempts : ∀ value ∈ present vars "PLANNER_REPAIR_ATTEMPTS",
    ∃ n, Text.Numeral n value ∧ n < 2 ^ 32
  strictJson : ∀ value ∈ present vars "PLANNER_STRICT_JSON",
    ∃ word ∈ ["1", "true", "yes", "on", "0", "false", "no", "off"], Text.AnyCase word value

/-! ## Single readers -/

section
variable {vars : Variables} {name : String}

/-- The key is the value of the first variable for it that is present, of two. -/
theorem readKey_eq_ok_iff {key : String} : readKey vars = .ok key ↔
    present vars "LLM_API_KEY" = some key ∨
      present vars "LLM_API_KEY" = none ∧ present vars "GROQ_API_KEY" = some key := by
  rw [readKey]
  cases present vars "LLM_API_KEY" with
  | some first => simp
  | none => cases present vars "GROQ_API_KEY" <;> simp

/-- A key is read if one of the two variables for it is present. -/
theorem exists_readKey
    (h : (present vars "LLM_API_KEY").isSome ∨ (present vars "GROQ_API_KEY").isSome) :
    ∃ key, readKey vars = .ok key := by
  cases hfirst : present vars "LLM_API_KEY" with
  | some key => exact ⟨key, readKey_eq_ok_iff.2 (.inl hfirst)⟩
  | none =>
    obtain ⟨key, hsecond⟩ := Option.isSome_iff_exists.1 (h.resolve_left (by simp [hfirst]))
    exact ⟨key, readKey_eq_ok_iff.2 (.inr ⟨hfirst, hsecond⟩)⟩

/-- A variable is read as what it says, if the reader reads what its value spells. -/
theorem readVariable_eq_ok_iff {α : Type} {default a : α} {read : String → Except String α}
    {spells : String → α → Prop} (hread : ∀ value a, read value = .ok a ↔ spells value a) :
    readVariable vars name default read = .ok a ↔ Says vars name default spells a := by
  refine eq_ok_iff_says (fun hvalue => ?_) fun value hvalue => ?_
  · rw [readVariable, hvalue]
  · rw [readVariable, hvalue]
    exact Except.mapError_eq_ok_iff.trans (hread value a)

/-- A text is read as a 32-bit number exactly if it spells the number. -/
theorem readSingle_eq_ok_iff (value : String) (t : Binary.Extended) :
    readSingle value = .ok t ↔ Binary.Format.single.ofText? value = some t := by
  rw [readSingle]
  cases Binary.Format.single.ofText? value <;> simp

/-- Where numbers below a bound are the elements of a type, the text of a number is read as its
element. -/
theorem readNumber_eq_ok_iff {α : Type} {bound : Nat} {ofNat : Nat → α} {toNat : α → Nat}
    (hbelow : ∀ a, toNat a < bound) (hof : ∀ a, ofNat (toNat a) = a)
    (hto : ∀ n < bound, toNat (ofNat n) = n) (value : String) (a : α) :
    ((Text.unsigned bound value).map ofNat).mapError Text.NumberFault.message = .ok a ↔
      Text.Numeral (toNat a) value := by
  have hbound : 0 < bound := Nat.zero_lt_of_lt (hbelow a)
  have hunsigned : Text.unsigned bound value = .ok (toNat a) ↔ Text.Numeral (toNat a) value :=
    (Text.unsigned_eq_ok_iff hbound value).trans (and_iff_left (hbelow a))
  rw [← hunsigned]
  cases hread : Text.unsigned bound value with
  | error e => exact iff_of_false nofun nofun
  | ok n =>
    have hn : n < bound := ((Text.unsigned_eq_ok_iff hbound value).1 hread).2
    refine ⟨fun h => ?_, fun h => ?_⟩
    · obtain rfl : ofNat n = a := Except.ok.inj h
      rw [hto n hn]
    · obtain rfl : n = toNat a := Except.ok.inj h
      exact congrArg Except.ok (hof a)

/-- A text is read as an integer of 32 bits exactly if it is a numeral of the integer. -/
theorem readUInt32_eq_ok_iff (value : String) (n : UInt32) :
    readUInt32 value = .ok n ↔ Text.Numeral n.toNat value :=
  readNumber_eq_ok_iff UInt32.toNat_lt (fun _ => UInt32.ofNat_toNat)
    (fun _ => UInt32.toNat_ofNat_of_lt') value n

/-- A text is read as an integer of 64 bits exactly if it is a numeral of the integer. -/
theorem readUInt64_eq_ok_iff (value : String) (n : UInt64) :
    readUInt64 value = .ok n ↔ Text.Numeral n.toNat value :=
  readNumber_eq_ok_iff UInt64.toNat_lt (fun _ => UInt64.ofNat_toNat)
    (fun _ => UInt64.toNat_ofNat_of_lt') value n

/-- A word has a truth value exactly if it is one of the words for it. -/
theorem truthValue?_eq_some_iff (word : String) (b : Bool) :
    truthValue? word = some b ↔ word ∈ truthWords b := by
  have hdisjoint : ∀ word ∈ truthWords false, word ∉ truthWords true := by decide
  rw [truthValue?]
  split_ifs with htrue hfalse
  · cases b with
    | true => exact iff_of_true rfl htrue
    | false => exact iff_of_false nofun fun h => hdisjoint word h htrue
  · cases b with
    | true => exact iff_of_false nofun htrue
    | false => exact iff_of_true rfl hfalse
  · cases b with
    | true => exact iff_of_false nofun htrue
    | false => exact iff_of_false nofun hfalse

/-- A value stands for the truth value that it is a word for, in any letter case. -/
theorem truthValue?_lower_eq_some_iff (value : String) (b : Bool) :
    truthValue? (Text.lower value) = some b ↔
      ∃ word ∈ truthWords b, Text.AnyCase word value := by
  have hplain : ∀ b, ∀ word ∈ truthWords b, word.toList.all Text.plain = true := by decide
  rw [truthValue?_eq_some_iff]
  refine ⟨fun h => ⟨_, h, (Text.lower_eq_iff (hplain b _ h) value).1 rfl⟩, ?_⟩
  rintro ⟨word, hword, hcase⟩
  rwa [(Text.lower_eq_iff (hplain b word hword) value).2 hcase]

/-- A switch is read as a truth value exactly if the variable holds a word for it, in any letter
case, or is absent and the value is the default. -/
theorem readTruth_eq_ok_iff {default b : Bool} : readTruth vars name default = .ok b ↔
    Says vars name default (fun value b => ∃ word ∈ truthWords b, Text.AnyCase word value) b := by
  refine eq_ok_iff_says (fun hvalue => ?_) fun value hvalue => ?_
  · rw [readTruth, hvalue]
    rfl
  · rw [readTruth, hvalue, Option.map_some, ← truthValue?_lower_eq_some_iff]
    dsimp only
    cases truthValue? (Text.lower value) <;> simp

/-- A value that is trimmed names the provider whose name it is in some letter case. -/
theorem ofName_eq_ok_iff {value : String} (htrim : Text.trim value = value) (p : Provider) :
    Provider.ofName value = .ok p ↔ Text.AnyCase p.name value := by
  have hplain : p.name.toList.all Text.plain = true := by cases p <;> decide
  rw [← Text.lower_eq_iff hplain, Provider.ofName, htrim]
  split
  · next hgroq => cases p <;> simp [hgroq, Provider.name]
  · next hopenAI => cases p <;> simp [hopenAI, Provider.name]
  · next hgroq hopenAI =>
    refine iff_of_false nofun ?_
    cases p with
    | groq => exact hgroq
    | openAI => exact hopenAI

/-- A variable is read as a provider exactly if it holds the provider's name, in any letter case, or
is absent and the provider is the default. -/
theorem readProvider_eq_ok_iff {default p : Provider} : readProvider vars name default = .ok p ↔
    Says vars name default (fun value p => Text.AnyCase p.name value) p := by
  refine eq_ok_iff_says (fun hvalue => ?_) fun value hvalue => ?_
  · rw [readProvider, hvalue]
  · rw [readProvider, hvalue]
    exact Except.mapError_eq_ok_iff.trans (ofName_eq_ok_iff (trim_of_present hvalue) p)

end

/-! ## All variables -/

section
variable {vars : Variables} {s : Settings}

/-- The variables spell the settings that they state, and no others. -/
theorem spelled_eq_ok_iff : spelled vars = .ok s ↔ States vars s := by
  rw [spelled]
  simp only [Except.bind_eq_ok_iff, readKey_eq_ok_iff, readProvider_eq_ok_iff,
    readVariable_eq_ok_iff readSingle_eq_ok_iff, readVariable_eq_ok_iff readUInt32_eq_ok_iff,
    readVariable_eq_ok_iff readUInt64_eq_ok_iff, readTruth_eq_ok_iff]
  constructor
  · rintro ⟨key, hkey, provider, hprovider, t, ht, timeout, htimeout, maxTokens, hmaxTokens,
      maxSteps, hmaxSteps, repairAttempts, hrepairAttempts, strictJson, hstrictJson, h⟩
    cases h
    exact ⟨hkey, hprovider, rfl, rfl, ht, htimeout, hmaxTokens, hmaxSteps, hrepairAttempts,
      hstrictJson, rfl⟩
  · intro h
    refine ⟨_, h.apiKey, _, h.provider, _, h.temperature, _, h.timeout, _, h.maxTokens, _,
      h.maxSteps, _, h.repairAttempts, _, h.strictJson, ?_⟩
    have hmodel : (present vars "LLM_MODEL").getD (withKey s.apiKey).model = s.model := h.model.symm
    have hbind : (present vars "PLANNER_BIND_ADDR").getD (withKey s.apiKey).bindAddress =
        s.bindAddress := h.bindAddress.symm
    rw [← h.baseUrl, hmodel, hbind]
    rfl

/-- A temperature lies within the bounds if it is finite and its exact value does. -/
theorem temperate_iff {t : Binary.Extended} :
    temperate t = true ↔ ∃ b, t = .finite b ∧ 0 ≤ b.value ∧ b.value ≤ 2 := by
  cases t with
  | finite b => simpa [temperate] using b.between_iff 2
  | nan => simp [temperate]
  | infinite => simp [temperate]

/-- Settings are read exactly if the variables state them, and they break no rule. -/
theorem ofVariables_eq_ok_iff_states :
    ofVariables vars = .ok s ↔ States vars s ∧ (1 ≤ s.maxSteps.toNat ∧ s.maxSteps.toNat ≤ 32) ∧
      0 < s.timeout.toNat ∧ ∃ b, s.temperature = .finite b ∧ 0 ≤ b.value ∧ b.value ≤ 2 := by
  have htimeout : s.timeout ≠ 0 ↔ 0 < s.timeout.toNat := by
    rw [Nat.pos_iff_ne_zero, ← UInt64.toNat_zero, Ne, Ne, UInt64.toNat_inj]
  rw [ofVariables_eq_ok_iff, spelled_eq_ok_iff, fault?_eq_none_iff, UInt32.le_iff_toNat_le,
    UInt32.le_iff_toNat_le, htimeout, temperate_iff]
  rfl

/-- Settings that are read are read from acceptable variables. -/
theorem acceptable_of_ofVariables (h : ofVariables vars = .ok s) : Acceptable vars := by
  obtain ⟨hstates, hsteps, htimeout, b, hb, hbounds⟩ := ofVariables_eq_ok_iff_states.1 h
  constructor
  case key =>
    rcases hstates.apiKey with hfirst | ⟨-, hsecond⟩
    · exact .inl (by simp [hfirst])
    · exact .inr (by simp [hsecond])
  case provider =>
    intro value hvalue
    have hname := hstates.provider.spells_of_mem value hvalue
    cases hprovider : s.provider with
    | groq => exact .inl (by rwa [hprovider] at hname)
    | openAI => exact .inr (by rwa [hprovider] at hname)
  case temperature =>
    intro value hvalue
    exact ⟨b, hb ▸ hstates.temperature.spells_of_mem value hvalue, hbounds⟩
  case timeout =>
    intro value hvalue
    exact ⟨_, hstates.timeout.spells_of_mem value hvalue, htimeout, s.timeout.toNat_lt⟩
  case maxTokens =>
    intro value hvalue
    exact ⟨_, hstates.maxTokens.spells_of_mem value hvalue, s.maxTokens.toNat_lt⟩
  case maxSteps =>
    intro value hvalue
    exact ⟨_, hstates.maxSteps.spells_of_mem value hvalue, hsteps⟩
  case repairAttempts =>
    intro value hvalue
    exact ⟨_, hstates.repairAttempts.spells_of_mem value hvalue, s.repairAttempts.toNat_lt⟩
  case strictJson =>
    intro value hvalue
    obtain ⟨word, hword, hcase⟩ := hstates.strictJson.spells_of_mem value hvalue
    refine ⟨word, List.mem_append (s := truthWords true).2 ?_, hcase⟩
    cases hstrict : s.strictJson with
    | true => exact .inl (by rwa [hstrict] at hword)
    | false => exact .inr (by rwa [hstrict] at hword)

/-- Settings are read from acceptable variables. -/
theorem Acceptable.exists_ofVariables (h : Acceptable vars) : ∃ s, ofVariables vars = .ok s := by
  obtain ⟨key, hkey⟩ := exists_readKey h.key
  obtain ⟨provider, hprovider, -⟩ := exists_says (P := fun _ => True) Provider.groq
    (fun value provider => Text.AnyCase provider.name value) trivial (by
      intro value hvalue
      rcases h.provider value hvalue with hgroq | hopenAI
      · exact ⟨.groq, hgroq, trivial⟩
      · exact ⟨.openAI, hopenAI, trivial⟩)
  obtain ⟨t, ht, hbounds⟩ := exists_says
    (P := fun t => ∃ b, t = .finite b ∧ 0 ≤ b.value ∧ b.value ≤ 2)
    (Binary.Format.single.round false 2 10)
    (fun value t => Binary.Format.single.ofText? value = some t)
    (temperate_iff.1 (by decide +kernel)) (by
      intro value hvalue
      obtain ⟨b, hb, hbounds⟩ := h.temperature value hvalue
      exact ⟨.finite b, hb, b, rfl, hbounds⟩)
  obtain ⟨timeout, htimeout, hpositive⟩ := exists_says (P := fun n => 0 < n.toNat) (20 : UInt64)
    (fun value n => Text.Numeral n.toNat value) (by decide) (by
      intro value hvalue
      obtain ⟨n, hn, hpositive, hbound⟩ := h.timeout value hvalue
      exact ⟨.ofNatLT n hbound, hn, hpositive⟩)
  obtain ⟨maxTokens, hmaxTokens, -⟩ := exists_says_uint32 (P := fun _ => True) 1200 trivial (by
    intro value hvalue
    obtain ⟨n, hn, hbound⟩ := h.maxTokens value hvalue
    exact ⟨n, hn, trivial, hbound⟩)
  obtain ⟨maxSteps, hmaxSteps, hsteps⟩ := exists_says_uint32 (P := fun n => 1 ≤ n ∧ n ≤ 32) 8
    (by decide) (by
      intro value hvalue
      obtain ⟨n, hn, hsteps⟩ := h.maxSteps value hvalue
      exact ⟨n, hn, hsteps, by omega⟩)
  obtain ⟨attempts, hattempts, -⟩ := exists_says_uint32 (P := fun _ => True) 2 trivial (by
    intro value hvalue
    obtain ⟨n, hn, hbound⟩ := h.repairAttempts value hvalue
    exact ⟨n, hn, trivial, hbound⟩)
  obtain ⟨strict, hstrict, -⟩ := exists_says (P := fun _ => True) true
    (fun value b => ∃ word ∈ truthWords b, Text.AnyCase word value) trivial (by
      intro value hvalue
      obtain ⟨word, hword, hcase⟩ := h.strictJson value hvalue
      rcases List.mem_append (s := truthWords true).1 hword with hyes | hno
      · exact ⟨true, ⟨word, hyes, hcase⟩, trivial⟩
      · exact ⟨false, ⟨word, hno, hcase⟩, trivial⟩)
  have hstates : States vars ⟨key, provider, present vars "LLM_BASE_URL", _, t, timeout, maxTokens,
      maxSteps, attempts, strict, _⟩ :=
    ⟨readKey_eq_ok_iff.1 hkey, hprovider, rfl, rfl, ht, htimeout, hmaxTokens, hmaxSteps, hattempts,
      hstrict, rfl⟩
  exact ⟨_, ofVariables_eq_ok_iff_states.2 ⟨hstates, hsteps, hpositive, hbounds⟩⟩

/-- **Which variables are accepted.** Settings are read from acceptable variables, and from no
others. They are what the variables state; otherwise the failure is one of the configuration. And
nothing counts but the values that are not blank, without the white space around them. Reference:
`PlannerSettings.from_lookup` and `PlannerSettings.validate`. -/
theorem ofVariables_exact (vars : Variables) :
    ((∃ s, ofVariables vars = .ok s) ↔ Acceptable vars) ∧
    (∀ s, ofVariables vars = .ok s → States vars s) ∧
    (∀ f, ofVariables vars = .error f → f.failure.code = "ConfigError") ∧
    ∀ vars', (∀ name, present vars' name = present vars name) →
      ofVariables vars' = ofVariables vars := by
  refine ⟨⟨?_, Acceptable.exists_ofVariables⟩, ?_, fun f _ => rfl, ?_⟩
  · rintro ⟨s, hs⟩
    exact acceptable_of_ofVariables hs
  · exact fun s hs => (ofVariables_eq_ok_iff_states.1 hs).1
  · intro vars' h
    simp only [ofVariables, spelled, readKey, h, readProvider_congr (h _),
      readVariable_congr (h _), readTruth_congr (h _)]

end

/-- A blank key before another one, a provider and a truth value in other letters, bounds that are
reached, and a temperature that is zero with a sign: settings are read, from the trimmed values as
well, but not with a temperature that is no number. -/
theorem ofVariables_exact_within_bounds :
    let vars : Variables := fun name =>
      [("LLM_API_KEY", " "), ("GROQ_API_KEY", " gsk-2"), ("LLM_PROVIDER", "OpenAI"),
        ("LLM_TEMPERATURE", "-0"), ("LLM_TIMEOUT_SECONDS", "18446744073709551615"),
        ("PLANNER_MAX_STEPS", "+32 "), ("PLANNER_STRICT_JSON", "OFF")].lookup name
    let wrong : Variables := fun name =>
      [("LLM_API_KEY", "gsk-1"), ("LLM_TEMPERATURE", "NaN")].lookup name
    (∃ s, ofVariables vars = .ok s ∧ Acceptable vars ∧ States vars s ∧ s.apiKey = "gsk-2" ∧
      s.provider = .openAI ∧ s.maxSteps = 32 ∧ s.strictJson = false ∧
      ofVariables (present vars) = .ok s) ∧
    ∃ f, ofVariables wrong = .error f ∧ f.failure.code = "ConfigError" ∧ ¬Acceptable wrong := by
  intro vars wrong
  have hread : ((ofVariables vars).toOption.map fun s =>
      (s.apiKey, s.provider, s.maxSteps, s.strictJson)) = some ("gsk-2", .openAI, 32, false) := by
    decide +kernel
  obtain ⟨hacceptable, hstates, -, hagree⟩ := ofVariables_exact vars
  obtain ⟨hwrong, -, hfails, -⟩ := ofVariables_exact wrong
  constructor
  · cases hs : ofVariables vars with
    | error f => simp [hs, Except.toOption] at hread
    | ok s =>
      simp only [hs, Except.toOption, Option.map_some, Option.some.injEq, Prod.mk.injEq] at hread
      exact ⟨s, rfl, hacceptable.1 ⟨s, hs⟩, hstates s hs, hread.1, hread.2.1, hread.2.2.1,
        hread.2.2.2, (hagree _ (present_present vars)).trans hs⟩
  · obtain ⟨f, hf⟩ : ∃ f, ofVariables wrong = .error f := ⟨_, rfl⟩
    refine ⟨f, hf, hfails f hf, fun h => ?_⟩
    obtain ⟨s, hs⟩ := hwrong.2 h
    rw [hf] at hs
    cases hs

end AgentPlan.Settings
