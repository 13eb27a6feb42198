import AgentPlan.Proofs.Settings.Reading
import AgentPlan.Startup.Run

/-!
# The key stays secret

Two environments that differ in nothing but their keys give settings that differ in nothing but the
key, or the same fault (`ofVariables_rekeyed`). What is written about settings tells of a key only
whether there is one (`label_rekeyed`, `text_rekeyed`). So neither the texts of settings nor what
the start of the service writes depend on which key it is (`key_unseen`, `start_unseen`).
-/

namespace AgentPlan.Settings

/-- The variables that may hold the key. -/
def keyNames : List String := ["LLM_API_KEY", "GROQ_API_KEY"]

/-- Some variable for the key is not blank. -/
def HasKey (vars : Variables) : Prop :=
  ∃ name ∈ keyNames, ∃ value, vars name = some value ∧ Text.trim value ≠ ""

/-- The variables have the same values, except for those that may hold the key. -/
def AgreeButKey (vars vars' : Variables) : Prop :=
  ∀ name, name ∉ keyNames → vars name = vars' name

/-- The settings with another key. -/
def rekeyed (key : String) (s : Settings) : Settings :=
  { s with apiKey := key }

variable {vars vars' : Variables} {s : Settings} {key : String}

/-! ## What is read -/

/-- Variables that differ only in the key agree on whether another variable is present, and with
which value. -/
theorem AgreeButKey.present_eq {name : String} (h : AgreeButKey vars vars')
    (hname : name ∉ keyNames) : present vars name = present vars' name :=
  present_congr (h name hname)

/-- Where some variable for the key is not blank, a key is read. -/
theorem HasKey.exists_readKey (h : HasKey vars) : ∃ key, key ≠ "" ∧ readKey vars = .ok key := by
  obtain ⟨name, hname, value, hvalue, hblank⟩ := h
  have hpresent := present_eq_some hvalue hblank
  rw [readKey]
  cases hfirst : present vars "LLM_API_KEY" with
  | some key => exact ⟨key, ne_empty_of_present hfirst, rfl⟩
  | none =>
    rw [keyNames, List.mem_cons, List.mem_singleton] at hname
    rcases hname with rfl | rfl
    · rw [hfirst] at hpresent
      cases hpresent
    · rw [hpresent]
      exact ⟨Text.trim value, hblank, rfl⟩

/-- With another key the variables spell the same settings but for the key. -/
theorem spelled_rekeyed {key' : String} (h : AgreeButKey vars vars')
    (hkey : readKey vars = pure key) (hkey' : readKey vars' = pure key') :
    spelled vars' = rekeyed key' <$> spelled vars := by
  simp (disch := decide) only [spelled, hkey, hkey', readVariable_congr (h.present_eq _),
    readTruth_congr (h.present_eq _), readProvider_congr (h.present_eq _), h.present_eq,
    pure_bind, map_bind, map_pure]
  rfl

/-- The key is in the settings that are read with it. -/
theorem apiKey_of_spelled (hkey : readKey vars = pure key) (h : spelled vars = .ok s) :
    s.apiKey = key := by
  have hself := spelled_rekeyed (fun _ _ => rfl) hkey hkey
  rw [h] at hself
  exact congrArg apiKey (Except.ok.inj hself)

/-- No rule for settings is about the key. -/
theorem checked_rekeyed (key : String) (s : Settings) :
    (s.rekeyed key).checked = rekeyed key <$> s.checked := by
  have hfault : (s.rekeyed key).fault? = s.fault? := rfl
  rw [checked, checked, hfault]
  cases s.fault? <;> rfl

/-- Variables that differ only in the key, and have one each, give the same settings but for the
key, or the same failure. -/
theorem ofVariables_rekeyed {key' : String} (h : AgreeButKey vars vars')
    (hkey : readKey vars = pure key) (hkey' : readKey vars' = pure key') :
    ofVariables vars' = rekeyed key' <$> ofVariables vars := by
  rw [ofVariables, ofVariables, spelled_rekeyed h hkey hkey']
  cases spelled vars with
  | error f => rfl
  | ok s => exact checked_rekeyed key' s

/-! ## What is written -/

/-- A key that is not empty is shown as if it were any other. -/
theorem keyLabel_of_ne (h : key ≠ "") : keyLabel key = "<redacted>" := by
  rw [keyLabel, if_neg (mt String.isEmpty_iff.1 h)]

/-- The line about settings in the log is the same for every key. -/
theorem label_rekeyed (hs : s.apiKey ≠ "") (hkey : key ≠ "") : (s.rekeyed key).label = s.label := by
  have hlabel : keyLabel key = keyLabel s.apiKey := by
    rw [keyLabel_of_ne hs, keyLabel_of_ne hkey]
  unfold label rekeyed
  dsimp only
  rw [hlabel]

/-- The JSON text of settings is the same for every key. -/
theorem text_rekeyed (s : Settings) (key : String) : (s.rekeyed key).text = s.text :=
  rfl

/-- What is noted about settings is the same for every key. -/
theorem settingsLines_rekeyed (hs : s.apiKey ≠ "") (hkey : key ≠ "") :
    Startup.settingsLines (s.rekeyed key) = Startup.settingsLines s := by
  rw [Startup.settingsLines, label_rekeyed hs hkey]
  rfl

/-! ## Two environments -/

/-- Settings from two environments that differ in nothing but their keys: both fail with one fault,
or both succeed with settings that differ in nothing but the key. -/
theorem ofVariables_cases (h : AgreeButKey vars vars') (hkey : HasKey vars)
    (hkey' : HasKey vars') :
    (∃ f, ofVariables vars = .error f ∧ ofVariables vars' = .error f) ∨
      ∃ s key, s.apiKey ≠ "" ∧ key ≠ "" ∧
        ofVariables vars = .ok s ∧ ofVariables vars' = .ok (s.rekeyed key) := by
  obtain ⟨key, hne, hread⟩ := hkey.exists_readKey
  obtain ⟨key', hne', hread'⟩ := hkey'.exists_readKey
  have hrekeyed := ofVariables_rekeyed h hread hread'
  cases hvars : ofVariables vars with
  | error f =>
    rw [hvars] at hrekeyed
    exact .inl ⟨f, rfl, hrekeyed⟩
  | ok s =>
    rw [hvars] at hrekeyed
    have hapiKey := apiKey_of_spelled hread (ofVariables_eq_ok_iff.1 hvars).1
    exact .inr ⟨s, key', hapiKey ▸ hne, hne', rfl, hrekeyed⟩

/-- **The key is not seen in what is written about settings.** Where two environments differ in
nothing but their keys, and both have one, both fail with the same message, or both succeed with
settings that differ in nothing but the key, and of which both texts are the same. Reference:
`PlannerSettings`, with its two texts, and `PlannerSettings.from_lookup`. -/
theorem key_unseen (h : AgreeButKey vars vars') (hkey : HasKey vars) (hkey' : HasKey vars') :
    (∃ f f', ofVariables vars = .error f ∧ ofVariables vars' = .error f' ∧
        f.failure = f'.failure) ∨
      ∃ s s', ofVariables vars = .ok s ∧ ofVariables vars' = .ok s' ∧
        s' = { s with apiKey := s'.apiKey } ∧ s'.label = s.label ∧ s'.text = s.text := by
  rcases ofVariables_cases h hkey hkey' with ⟨f, hf, hf'⟩ | ⟨s, key, hs, hne, hok, hok'⟩
  · exact .inl ⟨f, f, hf, hf', rfl⟩
  · exact .inr ⟨s, s.rekeyed key, hok, hok', rfl, label_rekeyed hs hne, text_rekeyed s key⟩

/-- A key in the one variable, and one with blanks around it in the other: both environments give
settings. -/
theorem key_unseen_four_steps :
    let vars : Variables := fun name =>
      [("LLM_API_KEY", "gsk-1"), ("PLANNER_MAX_STEPS", "4")].lookup name
    let vars' : Variables := fun name =>
      [("GROQ_API_KEY", " gsk-2 "), ("PLANNER_MAX_STEPS", "4")].lookup name
    ∃ s s', ofVariables vars = .ok s ∧ ofVariables vars' = .ok s' ∧
      s' = { s with apiKey := s'.apiKey } ∧ s'.label = s.label ∧ s'.text = s.text := by
  intro vars vars'
  have hagree : AgreeButKey vars vars' := by
    intro name hname
    rw [keyNames, List.mem_cons, List.mem_singleton, not_or] at hname
    simp [vars, vars', List.lookup_cons, hname.1, hname.2, beq_eq_false_iff_ne.2]
  have hkey : HasKey vars := ⟨"LLM_API_KEY", by decide, "gsk-1", rfl, by decide⟩
  have hkey' : HasKey vars' := ⟨"GROQ_API_KEY", by decide, " gsk-2 ", rfl, by decide⟩
  have haccepted : ∀ o, ofVariables vars = o → o.toBool = true := by
    rintro _ rfl
    decide +kernel
  rcases key_unseen hagree hkey hkey' with ⟨f, f', hf, -⟩ | hok
  · cases haccepted _ hf
  · exact hok

end AgentPlan.Settings

namespace AgentPlan.Startup

open Settings (AgreeButKey HasKey)

/-- The start of the service writes the same whichever key it finds: the same lines, and the same
text if it is refused. -/
theorem start_unseen {environment environment' : String → Option String} {file file' : String}
    (h : AgreeButKey (merged environment (readFile environment file))
      (merged environment' (readFile environment' file')))
    (hkey : HasKey (merged environment (readFile environment file)))
    (hkey' : HasKey (merged environment' (readFile environment' file'))) :
    (start environment file).log = (start environment' file').log ∧
      ∀ r, (start environment file).result = .error r ↔
        (start environment' file').result = .error r := by
  have hfilter := h "RUST_LOG" (by decide)
  rcases Settings.ofVariables_cases h hkey hkey' with ⟨f, hf, hf'⟩ | ⟨s, key, hs, hne, hok, hok'⟩
  · rw [start, start, hf, hf']
    exact ⟨rfl, fun r => Iff.rfl⟩
  · have hlines := Settings.settingsLines_rekeyed hs hne
    have haddress : (s.rekeyed key).bindAddress = s.bindAddress := rfl
    simp only [start, hok, hok', hfilter, hlines, haddress, true_and]
    intro r
    cases addressFault? s.bindAddress with
    | some reason => exact Iff.rfl
    | none => exact iff_of_false nofun nofun

end AgentPlan.Startup
