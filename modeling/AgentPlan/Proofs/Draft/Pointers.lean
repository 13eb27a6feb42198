import AgentPlan.Proofs.Draft.Validation
import AgentPlan.Proofs.Json.Places

/-!
# Defects point into the draft

The path of a defect leads through the draft to the place where the defect lies. The walk that
collects the defects joins the segments of a path from the inside out, so what is shown of each
check is that its defects are located in the value that it was given, and that no two have one path
(`Sound`). Three lemmas carry the proof: what becomes of this below a key (`sound_below_key`), below
an index (`sound_below_index`), and where the checks of several parts stand side by side
(`SoundUnder.append`, which needs the parts to differ in the first word of their paths).
`report_points_into_draft` says it of the texts of the paths, split at their dots, which are what a
report shows.
-/

namespace AgentPlan

open Json (Members)

namespace Draft

/-! ## Located defects -/

/-- The words of a path: the texts of its segments, which a report joins by dots. -/
def Defect.words (d : Defect) : List String :=
  d.path.map Segment.text

/-- A defect lies in a value: its path leads to a part that is there, or, where the defect is that
a key is required, to an object that lacks it. No key on the way has a dot. -/
inductive Located : Json → Defect → Prop
  | here {v : Json} {p : Problem} : p ≠ .required → Located v ⟨[], p⟩
  | missing {m : Members} {key : String} : '.' ∉ key.toList → m.get? key = none →
      Located (.obj m) ⟨[.key key], .required⟩
  | key {m : Members} {key : String} {v : Json} {d : Defect} : '.' ∉ key.toList →
      m.get? key = some v → Located v d → Located (.obj m) (d.below (.key key))
  | item {items : List Json} {index : Nat} {v : Json} {d : Defect} : items[index]? = some v →
      Located v d → Located (.arr items) (d.below (.index index))

variable {v : Json} {d : Defect}

/-- No word of a path has a dot. -/
theorem Located.dot_notMem (h : Located v d) : ∀ word ∈ d.words, '.' ∉ word.toList := by
  induction h with
  | here => exact nofun
  | missing hdot =>
    rintro _ (_ | ⟨_, ⟨⟩⟩)
    exact hdot
  | key hdot _ _ ih => exact List.forall_mem_cons.2 ⟨hdot, ih⟩
  | item _ _ ih =>
    refine List.forall_mem_cons.2 ⟨fun hmem => ?_, ih⟩
    exact absurd (Text.isDigit_of_mem_toString hmem) (by decide)

/-- The path of a defect leads to a value that is there, unless a key is required. -/
theorem Located.leads (h : Located v d) (hproblem : d.problem ≠ .required) :
    ∃ w, v.Leads d.words w := by
  induction h with
  | here => exact ⟨_, .here⟩
  | missing => exact absurd rfl hproblem
  | key _ hget _ ih =>
    obtain ⟨w, hw⟩ := ih hproblem
    exact ⟨w, .key hget hw⟩
  | item hget _ ih =>
    obtain ⟨w, hw⟩ := ih hproblem
    exact ⟨w, .item hget hw⟩

/-- The path of a required key leads to an object that lacks it. -/
theorem Located.lacks (h : Located v d) (hproblem : d.problem = .required) :
    ∃ parent key m, d.words = parent ++ [key] ∧ v.Leads parent (.obj m) ∧
      Members.get? key m = none := by
  induction h with
  | here hne => exact absurd hproblem hne
  | @missing m key _ hnone => exact ⟨[], key, m, rfl, .here, hnone⟩
  | @key _ k _ _ _ hget _ ih =>
    obtain ⟨parent, key, m, hwords, hleads, hnone⟩ := ih hproblem
    exact ⟨k :: parent, key, m, congrArg (k :: ·) hwords, .key hget hleads, hnone⟩
  | @item _ index _ _ hget _ ih =>
    obtain ⟨parent, key, m, hwords, hleads, hnone⟩ := ih hproblem
    exact ⟨toString index :: parent, key, m, congrArg (toString index :: ·) hwords,
      .item hget hleads, hnone⟩

/-! ## Sound lists of defects -/

/-- The defects of a value are located in it, and no two have one path. -/
structure Sound (v : Json) (ds : List Defect) : Prop where
  located : ∀ d ∈ ds, Located v d
  apart : (ds.map Defect.words).Nodup

/-- The defects of a value are sound and lie in parts of it, whose words satisfy `P`. -/
structure SoundUnder (v : Json) (P : String → Prop) (ds : List Defect) : Prop
    extends Sound v ds where
  heads : ∀ d ∈ ds, ∃ word, P word ∧ d.words.head? = some word

/-- The defects of the value of a key are sound, and if there is no value then nothing is wrong but
that the key is required. -/
structure SoundMember (m : Members) (key : String) (ds : List Defect) : Prop where
  present : ∀ v, m.get? key = some v → Sound v ds
  absent : m.get? key = none → ds = [] ∨ ds = Draft.here .required

variable {ds ds₁ ds₂ : List Defect} {m : Members} {P Q : String → Prop} {key : String}

/-- Below a segment the words of a path start with that of the segment. -/
@[simp] theorem Defect.words_below (s : Segment) (d : Defect) :
    (d.below s).words = s.text :: d.words := rfl

/-- No defects are sound. -/
theorem Sound.nil : Sound v [] := ⟨by simp, by simp⟩

/-- A problem of the value itself is sound, unless it is that a key is required. -/
theorem Sound.here {p : Problem} (hp : p ≠ .required) : Sound v (here p) where
  located d hd := by
    rw [List.mem_singleton.1 hd]
    exact .here hp
  apart := List.nodup_singleton _

/-- No defects are sound and lie in any parts. -/
theorem SoundUnder.nil : SoundUnder v P [] := ⟨.nil, by simp⟩

/-- Defects of parts with different words stand side by side. -/
theorem SoundUnder.append (h₁ : SoundUnder v P ds₁) (h₂ : SoundUnder v Q ds₂)
    (hne : ∀ word, P word → ¬ Q word) :
    SoundUnder v (fun word => P word ∨ Q word) (ds₁ ++ ds₂) where
  located d hd := (List.mem_append.1 hd).elim (h₁.located d) (h₂.located d)
  apart := by
    rw [List.map_append, List.nodup_append]
    refine ⟨h₁.apart, h₂.apart, fun words hwords words' hwords' heq => ?_⟩
    obtain ⟨d, hd, rfl⟩ := List.mem_map.1 hwords
    obtain ⟨d', hd', rfl⟩ := List.mem_map.1 hwords'
    obtain ⟨word, hword, hhead⟩ := h₁.heads d hd
    obtain ⟨word', hword', hhead'⟩ := h₂.heads d' hd'
    rw [heq, hhead'] at hhead
    cases hhead
    exact hne _ hword hword'
  heads d hd := by
    rcases List.mem_append.1 hd with hd | hd
    · obtain ⟨word, hword, hhead⟩ := h₁.heads d hd
      exact ⟨word, .inl hword, hhead⟩
    · obtain ⟨word, hword, hhead⟩ := h₂.heads d hd
      exact ⟨word, .inr hword, hhead⟩

/-- Less may be said of the words with which the paths start. -/
theorem SoundUnder.mono (h : SoundUnder v P ds) (hPQ : ∀ word, P word → Q word) :
    SoundUnder v Q ds where
  toSound := h.toSound
  heads d hd := by
    obtain ⟨word, hword, hhead⟩ := h.heads d hd
    exact ⟨word, hPQ word hword, hhead⟩

/-- Paths that differ still differ behind the same first segment. -/
theorem nodup_map_words_below {s : Segment} (h : (ds.map Defect.words).Nodup) :
    ((below s ds).map Defect.words).Nodup := by
  have hwords : (below s ds).map Defect.words = (ds.map Defect.words).map (s.text :: ·) := by
    simp [below, Function.comp_def]
  rw [hwords]
  exact h.map fun _ _ heq => (List.cons.inj heq).2

/-- The paths below a segment start with its word. -/
theorem heads_below {s : Segment} :
    ∀ d ∈ below s ds, ∃ word, word = s.text ∧ d.words.head? = some word := by
  intro d hd
  obtain ⟨d, -, rfl⟩ := List.mem_map.1 hd
  exact ⟨_, rfl, rfl⟩

/-- Defects of a member are sound defects of the object, all of which start with the key. -/
theorem sound_below_key (hdot : '.' ∉ key.toList) (h : SoundMember m key ds) :
    SoundUnder (.obj m) (· = key) (below (.key key) ds) := by
  refine ⟨?_, heads_below⟩
  cases hget : m.get? key with
  | some v =>
    have hv := h.present v hget
    refine ⟨fun d hd => ?_, nodup_map_words_below hv.apart⟩
    obtain ⟨d, hmem, rfl⟩ := List.mem_map.1 hd
    exact .key hdot hget (hv.located d hmem)
  | none =>
    rcases h.absent hget with rfl | rfl
    · exact .nil
    · refine ⟨fun d hd => ?_, List.nodup_singleton _⟩
      rw [List.mem_singleton.1 hd]
      exact .missing hdot hget

/-- Defects of an item are sound defects of the array, all of which start with the index. -/
theorem sound_below_index {items : List Json} {index : Nat} (hget : items[index]? = some v)
    (h : Sound v ds) :
    SoundUnder (.arr items) (· = toString index) (below (.index index) ds) := by
  refine ⟨⟨fun d hd => ?_, nodup_map_words_below h.apart⟩, heads_below⟩
  obtain ⟨d, hmem, rfl⟩ := List.mem_map.1 hd
  exact .item hget (h.located d hmem)

/-! ## Objects and lists -/

/-- The defects of the first member that is checked are sound, and start with one of one key. -/
theorem SoundUnder.first (hdot : '.' ∉ key.toList) (h : SoundMember m key ds) :
    SoundUnder (.obj m) (· ∈ [key]) (below (.key key) ds) :=
  (sound_below_key hdot h).mono fun _ => List.mem_singleton.2

/-- One member more is checked, of another key. Repeated for all members of a record, this gives the
soundness of its check. -/
theorem SoundUnder.and {keys : List String} (h₁ : SoundUnder (.obj m) (· ∈ keys) ds₁)
    (hkey : '.' ∉ key.toList ∧ key ∉ keys) (h₂ : SoundMember m key ds₂) :
    SoundUnder (.obj m) (· ∈ key :: keys) (ds₁ ++ below (.key key) ds₂) := by
  have happart : ∀ word, word ∈ keys → ¬ word = key := by
    rintro _ hmem rfl
    exact hkey.2 hmem
  refine (h₁.append (sound_below_key hkey.1 h₂) happart).mono fun word hword => ?_
  exact List.mem_cons.2 hword.symm

/-- A check of a member is sound if its defects are those of the value, and if without a value
nothing is wrong but that the key is required. -/
structure SoundCheck (check : Option Json → List Defect) : Prop where
  absent : check none = [] ∨ check none = here .required
  present : ∀ v, Sound v (check (some v))

/-- A sound check is sound for the member of every key. -/
theorem SoundCheck.member {check : Option Json → List Defect} (h : SoundCheck check) :
    SoundMember m key (check (m.get? key)) where
  present v hget := by
    rw [hget]
    exact h.present v
  absent hget := by
    rw [hget]
    exact h.absent

/-- What is no object is a problem of the value itself. -/
theorem sound_object {check : Members → List Defect} (h : ∀ m, Sound (.obj m) (check m))
    (v : Json) : Sound v (object check v) := by
  cases v with
  | obj m => exact h m
  | null | bool | num | str | arr => exact .here (by simp)

/-- The word is an index from some index on. -/
def FromIndex (index : Nat) (word : String) : Prop :=
  ∃ i, index ≤ i ∧ word = toString i

/-- One item more is checked, before the items from the next index on. -/
theorem SoundUnder.cons {items rest : List Json} {index : Nat}
    (hdrop : items.drop index = v :: rest) (h₁ : Sound v ds₁)
    (h₂ : SoundUnder (.arr items) (FromIndex (index + 1)) ds₂) :
    SoundUnder (.arr items) (FromIndex index) (below (.index index) ds₁ ++ ds₂) := by
  have hget : items[index]? = some v := by
    rw [← List.head?_drop, hdrop, List.head?_cons]
  refine ((sound_below_index hget h₁).append h₂ ?_).mono ?_
  · rintro _ rfl ⟨i, hi, heq⟩
    have := Text.toString_injective heq
    omega
  · rintro word (rfl | ⟨i, hi, rfl⟩)
    · exact ⟨index, le_rfl, rfl⟩
    · exact ⟨i, by omega, rfl⟩

/-- The items behind the first one of some are those from the next index on. -/
theorem drop_succ_of_drop {items rest : List Json} {index : Nat}
    (hdrop : items.drop index = v :: rest) : items.drop (index + 1) = rest := by
  rw [← List.tail_drop, hdrop, List.tail_cons]

/-- The defects of the items from an index on are sound if those of each item are. -/
theorem sound_itemsFrom {check : Json → List Defect} (h : ∀ v, Sound v (check v))
    {all items : List Json} {index : Nat} (hdrop : all.drop index = items) :
    SoundUnder (.arr all) (FromIndex index) (itemsFrom check index items) := by
  induction items generalizing index with
  | nil => exact .nil
  | cons v rest ih => exact .cons hdrop (h v) (ih (drop_succ_of_drop hdrop))

/-- The check for a string is sound: it requires the key, or finds one problem of the value. -/
theorem soundCheck_requiredText : SoundCheck requiredText where
  absent := .inr rfl
  present v := by
    cases v with
    | str => exact .nil
    | null | bool | num | arr | obj => exact .here (by simp)

/-- The check for an object is sound: without a value nothing is wrong. -/
theorem soundCheck_optionalObject : SoundCheck optionalObject where
  absent := .inl rfl
  present v := by
    cases v with
    | obj => exact .nil
    | null | bool | num | str | arr => exact .here (by simp)

/-- The check for a list is sound if that of its items is. -/
theorem soundCheck_optionalList {check : Json → List Defect} (h : ∀ v, Sound v (check v)) :
    SoundCheck (optionalList check) where
  absent := .inl rfl
  present v := by
    cases v with
    | null => exact .nil
    | arr items => exact (sound_itemsFrom h rfl).toSound
    | bool | num | str | obj => exact .here (by simp)

/-! ## Steps -/

/-- The check of a step's identifier is sound, whatever identifiers were seen. -/
theorem soundCheck_idDefects (seen : List String) : SoundCheck (idDefects seen) where
  absent := .inr rfl
  present v := by
    cases v with
    | str id =>
      rw [idDefects]
      split
      · exact .here (by simp)
      · split
        · exact .here (by simp)
        · exact .nil
    | null | bool | num | arr | obj => exact .here (by simp)

/-- The check of a time to live is sound. -/
theorem soundCheck_ttlDefects : SoundCheck ttlDefects where
  absent := .inl rfl
  present v := by
    cases v with
    | null => exact .nil
    | bool | num | str | arr | obj =>
      simp only [ttlDefects]
      split
      · exact .nil
      · exact .here (by simp)

/-- The check of a step is sound: its four members have different keys. -/
theorem sound_stepDefects (seen : List String) : ∀ v, Sound v (stepDefects seen v) :=
  sound_object fun _ =>
    SoundUnder.first (by decide) (soundCheck_idDefects seen).member
      |>.and (by decide) soundCheck_requiredText.member
      |>.and (by decide) soundCheck_optionalObject.member
      |>.and (by decide) soundCheck_ttlDefects.member
      |>.toSound

/-- The steps from an index on, whatever identifiers were seen. -/
theorem sound_stepsFrom {all steps : List Json} {seen : List String} {index : Nat}
    (hdrop : all.drop index = steps) :
    SoundUnder (.arr all) (FromIndex index) (stepsFrom seen index steps) := by
  induction steps generalizing seen index with
  | nil => exact .nil
  | cons step rest ih =>
    exact .cons hdrop (sound_stepDefects seen step) (ih (drop_succ_of_drop hdrop))

/-- The check of the steps of a draft is sound. -/
theorem soundCheck_stepsDefects : SoundCheck stepsDefects where
  absent := .inl rfl
  present v := by
    cases v with
    | arr steps => exact (sound_stepsFrom rfl).toSound
    | null | bool | num | str | obj => exact .here (by simp)

/-! ## Nodes -/

/-- The check of the kind of a node is sound. -/
theorem soundCheck_kindDefects : SoundCheck kindDefects where
  absent := .inr rfl
  present v := by
    cases v with
    | str name =>
      rw [kindDefects]
      split
      · exact .nil
      · exact .here (by simp)
    | null | bool | num | arr | obj => exact .here (by simp)

/-- The member of a key that comes first has its value. -/
theorem SoundMember.first {rest : Members} (h : Sound v ds) :
    SoundMember ((key, v) :: rest) key ds where
  present w hget := by
    simp only [Members.get?, if_true, Option.some.injEq] at hget
    exact hget ▸ h
  absent hget := by simp [Members.get?] at hget

/-- A member of another key does not matter. -/
theorem SoundMember.cons {k : String} {rest : Members} (hk : k ≠ key)
    (h : SoundMember rest key ds) : SoundMember ((k, v) :: rest) key ds where
  present w hget := h.present w (by simpa [Members.get?, hk] using hget)
  absent hget := h.absent (by simpa [Members.get?, hk] using hget)

mutual

/-- The defects of a node, by the recursion of the walk. -/
theorem sound_nodeDefects : ∀ v : Json, Sound v (nodeDefects v)
  | .obj m => by
    rw [nodeDefects]
    exact SoundUnder.first (by decide) soundCheck_kindDefects.member
      |>.and (by decide) soundCheck_requiredText.member
      |>.and (by decide) soundCheck_optionalObject.member
      |>.and (by decide) (soundMember_childrenDefects m)
      |>.toSound
  | .null | .bool _ | .num _ | .str _ | .arr _ => .here (by simp)

/-- The children that an object lists. -/
theorem soundMember_childrenDefects : ∀ m : List (String × Json),
    SoundMember m "children" (childrenDefects m)
  | [] => ⟨nofun, fun _ => .inl rfl⟩
  | (k, .arr nodes) :: rest => by
    rw [childrenDefects]
    split
    · next hk =>
      subst hk
      exact .first (sound_nodesFrom nodes 0 nodes rfl).toSound
    · next hk => exact .cons hk (soundMember_childrenDefects rest)
  | (k, .null) :: rest | (k, .bool _) :: rest | (k, .num _) :: rest | (k, .str _) :: rest
  | (k, .obj _) :: rest => by
    simp only [childrenDefects]
    split
    · next hk =>
      subst hk
      exact .first (.here (by simp))
    · next hk => exact .cons hk (soundMember_childrenDefects rest)

/-- The nodes from an index on. -/
theorem sound_nodesFrom : ∀ (all : List Json) (index : Nat) (nodes : List Json),
    all.drop index = nodes → SoundUnder (.arr all) (FromIndex index) (nodesFrom index nodes)
  | _, _, [], _ => .nil
  | all, index, v :: rest, hdrop =>
    .cons hdrop (sound_nodeDefects v)
      (sound_nodesFrom all (index + 1) rest (drop_succ_of_drop hdrop))

end

/-! ## Views -/

/-- The check of the tree of a view is sound. -/
theorem soundCheck_treeDefects : SoundCheck treeDefects where
  absent := .inr rfl
  present := sound_nodeDefects

/-- The check of a binding is sound: its three members have different keys. -/
theorem sound_bindingDefects : ∀ v, Sound v (bindingDefects v) :=
  sound_object fun _ =>
    SoundUnder.first (by decide) soundCheck_requiredText.member
      |>.and (by decide) soundCheck_requiredText.member
      |>.and (by decide) soundCheck_requiredText.member
      |>.toSound

/-- The check of the path of a patch is sound. -/
theorem soundCheck_patchPathDefects : SoundCheck patchPathDefects where
  absent := .inl rfl
  present v := by
    cases v with
    | null | str => exact .nil
    | bool | num | arr | obj => exact .here (by simp)

/-- The check of a refresh action is sound: its three members have different keys. -/
theorem sound_refreshDefects : ∀ v, Sound v (refreshDefects v) :=
  sound_object fun _ =>
    SoundUnder.first (by decide) soundCheck_requiredText.member
      |>.and (by decide) soundCheck_optionalObject.member
      |>.and (by decide) soundCheck_patchPathDefects.member
      |>.toSound

/-- The check of a list of refresh actions is sound: it requires the key, and null is one problem of
the value. -/
theorem soundCheck_refreshListDefects : SoundCheck refreshListDefects where
  absent := .inr rfl
  present v := by
    cases v with
    | arr actions => exact (sound_itemsFrom sound_refreshDefects rfl).toSound
    | null | bool | num | str | obj => exact .here (by simp)

/-- The check of a subscription is sound: its two members have different keys. -/
theorem sound_subscriptionDefects : ∀ v, Sound v (subscriptionDefects v) :=
  sound_object fun _ =>
    SoundUnder.first (by decide) soundCheck_requiredText.member
      |>.and (by decide) soundCheck_refreshListDefects.member
      |>.toSound

/-- The check of a view is sound: its three members have different keys. -/
theorem sound_viewDefects (m : Members) : Sound (.obj m) (viewDefects m) :=
  SoundUnder.first (by decide) soundCheck_treeDefects.member
    |>.and (by decide) (soundCheck_optionalList sound_bindingDefects).member
    |>.and (by decide) (soundCheck_optionalList sound_subscriptionDefects).member
    |>.toSound

/-- The check of a view that may be absent is sound. -/
theorem soundCheck_optionalView : SoundCheck optionalView where
  absent := .inl rfl
  present v := by
    cases v with
    | null => exact .nil
    | obj view => exact sound_viewDefects view
    | bool | num | str | arr => exact .here (by simp)

/-! ## Plans -/

/-- The check of the name of the schema is sound. -/
theorem soundCheck_schemaDefects : SoundCheck schemaDefects where
  absent := .inr rfl
  present v := by
    cases v with
    | str tag =>
      rw [schemaDefects]
      split
      · exact .nil
      · exact .here (by simp)
    | null | bool | num | arr | obj => exact .here (by simp)

/-- The check of the rationale is sound. -/
theorem soundCheck_rationaleDefects : SoundCheck rationaleDefects where
  absent := .inr rfl
  present v := by
    cases v with
    | str rationale =>
      rw [rationaleDefects]
      split
      · exact .here (by simp)
      · exact .nil
    | null | bool | num | arr | obj => exact .here (by simp)

/-- The check of the safety of a plan is sound. -/
theorem soundCheck_safetyDefects : SoundCheck safetyDefects where
  absent := .inl rfl
  present v := by
    cases v with
    | null | obj => exact .nil
    | bool | num | str | arr => exact .here (by simp)

/-- The defects of an object are sound, and each lies in one of the members of a plan. -/
theorem sound_defects_obj (m : Members) :
    SoundUnder (.obj m) (· ∈ ["safety", "uiIntent", "steps", "rationale", "schema"])
      (defects (.obj m)) :=
  SoundUnder.first (by decide) soundCheck_schemaDefects.member
    |>.and (by decide) soundCheck_rationaleDefects.member
    |>.and (by decide) soundCheck_stepsDefects.member
    |>.and (by decide) soundCheck_optionalView.member
    |>.and (by decide) soundCheck_safetyDefects.member

/-! ## Reports -/

/-- Only a required key has the message that says so, whatever identifier a message quotes. -/
theorem Problem.message_eq_required_iff {p : Problem} :
    p.message = "field required" ↔ p = .required := by
  cases p with
  | duplicateId id =>
    refine ⟨fun h => ?_, nofun⟩
    have htext : "duplicate step id '" ++ id ++ "'" = "field required" := h
    have hhead := congrArg (fun s => s.toList.head?) htext
    simp at hhead
  | _ => decide

/-- The text of a path that has words gives them back. -/
theorem dotted_pathText (h : Located v d) (hne : d.words ≠ []) :
    Text.dotted d.pathText = d.words := by
  obtain ⟨path, p⟩ := d
  cases path with
  | nil => exact absurd rfl hne
  | cons s path => exact Text.dotted_intercalate hne h.dot_notMem

/-- The texts of the paths of an object's defects give back their words. -/
theorem dotted_of_mem_defects {m : Members} (hd : d ∈ defects (.obj m)) :
    Text.dotted d.pathText = d.words := by
  obtain ⟨word, -, hhead⟩ := (sound_defects_obj m).heads d hd
  exact dotted_pathText ((sound_defects_obj m).located d hd) (by rintro hnil; simp [hnil] at hhead)

/-- No key of a plan is the word that stands for the root. -/
theorem pathText_ne_root {m : Members} (hd : d ∈ defects (.obj m)) : d.pathText ≠ "(root)" := by
  intro hroot
  obtain ⟨word, hword, hhead⟩ := (sound_defects_obj m).heads d hd
  have hroot' : Text.dotted "(root)" = ["(root)"] := by decide
  rw [← dotted_of_mem_defects hd, hroot, hroot'] at hhead
  cases hhead
  exact absurd hword (by decide)

/-- The defects of a report, told by the texts of their paths, point into the draft. No two have
one path (`apart`). The path of the root stands for a draft that is no object, and nothing else is
told of it then (`root`). Any other path, split at its dots, leads to a value of the draft
(`leads`), or, if the message is that the field is required and only then, to an object of the draft
and further to a key that this object lacks (`lacks`). -/
structure PointsInto (draft : Json) (ds : List Defect) : Prop where
  apart : (ds.map Defect.pathText).Nodup
  root : ∀ d ∈ ds, d.pathText = "(root)" → ds = [d] ∧ ∀ m, draft ≠ .obj m
  leads : ∀ d ∈ ds, d.pathText ≠ "(root)" → d.problem.message ≠ "field required" →
    ∃ v, draft.Leads (Text.dotted d.pathText) v
  lacks : ∀ d ∈ ds, d.pathText ≠ "(root)" → (d.problem.message = "field required" ↔
    ∃ parent key m, Text.dotted d.pathText = parent ++ [key] ∧ draft.Leads parent (.obj m) ∧
      Members.get? key m = none)

/-- A draft that is no object has one defect, of the root. -/
theorem pointsInto_of_not_obj {draft : Json} (h : ∀ m, draft ≠ .obj m) :
    PointsInto draft (defects draft) := by
  have hdefects : defects draft = [⟨[], .notDictionary⟩] := by
    cases draft with
    | obj m => exact absurd rfl (h m)
    | null | bool | num | str | arr => rfl
  rw [hdefects]
  have hroot : ∀ d ∈ [(⟨[], .notDictionary⟩ : Defect)], d.pathText = "(root)" := by
    intro d hd
    rw [List.mem_singleton.1 hd]
    rfl
  constructor
  case apart => exact List.nodup_singleton _
  case root =>
    intro d hd _
    exact ⟨by rw [List.mem_singleton.1 hd], h⟩
  case leads => exact fun d hd hne => absurd (hroot d hd) hne
  case lacks => exact fun d hd hne => absurd (hroot d hd) hne

/-- A draft that is an object has defects in its members. -/
theorem pointsInto_obj (m : Members) : PointsInto (.obj m) (defects (.obj m)) := by
  have hsound := sound_defects_obj m
  constructor
  case apart =>
    have hwords : ((defects (.obj m)).map Defect.pathText).map Text.dotted =
        (defects (.obj m)).map Defect.words := by
      rw [List.map_map]
      exact List.map_congr_left fun d hd => dotted_of_mem_defects hd
    exact List.Nodup.of_map _ (hwords ▸ hsound.apart)
  case root => exact fun d hd hroot => absurd hroot (pathText_ne_root hd)
  case leads =>
    intro d hd _ hmessage
    rw [dotted_of_mem_defects hd]
    exact (hsound.located d hd).leads (mt Problem.message_eq_required_iff.2 hmessage)
  case lacks =>
    intro d hd _
    rw [dotted_of_mem_defects hd, Problem.message_eq_required_iff]
    refine ⟨(hsound.located d hd).lacks, ?_⟩
    rintro ⟨parent, key, m', hwords, hparent, hnone⟩
    by_contra hproblem
    obtain ⟨w, hleads⟩ := (hsound.located d hd).leads hproblem
    rw [hwords, hparent.append_key_iff, hnone] at hleads
    cases hleads

/-- **The defects of a rejected draft point into it**, and the report of them says how many there
are and gives each a line, in their order. Reference: `check_plan` and `Defects.render`. -/
theorem report_points_into_draft {draft : Json} {ds : List Defect}
    (h : validate draft = .error ds) :
    ds ≠ [] ∧ PointsInto draft ds ∧
    report ds = toString ds.length ++ " validation error(s) for ToolPlan" ++
      String.join (ds.map fun d => "\n" ++ (d.pathText ++ ": " ++ d.problem.message)) := by
  obtain ⟨hbad, rfl⟩ := validate_eq_error_iff.1 h
  refine ⟨fun hnil => hbad ((defects_eq_nil_iff draft).1 hnil), ?_, rfl⟩
  cases draft with
  | obj m => exact pointsInto_obj m
  | null | bool | num | str | arr => exact pointsInto_of_not_obj nofun

/-- Two steps of one identifier, the first with a tool that is no string and the second without one,
under a schema tag of another format, and a view without a tree. -/
def brokenDraft : Json :=
  .obj [("rationale", .str "r"), ("schema", .str "other"),
    ("steps", .arr [.obj [("id", .str "a"), ("tool", .null)], .obj [("id", .str "a")]]),
    ("uiIntent", .obj [])]

/-- What is wrong with that draft. -/
def brokenDefects : List Defect :=
  [⟨[.key "schema"], .wrongSchema⟩, ⟨[.key "steps", .index 0, .key "tool"], .notText⟩,
    ⟨[.key "steps", .index 1, .key "id"], .duplicateId "a"⟩,
    ⟨[.key "steps", .index 1, .key "tool"], .required⟩,
    ⟨[.key "uiIntent", .key "component_tree"], .required⟩]

/-- Its five defects are reported with their paths. -/
theorem report_points_into_brokenDraft :
    validate brokenDraft = .error brokenDefects ∧ PointsInto brokenDraft brokenDefects ∧
    brokenDefects.map Defect.pathText =
      ["schema", "steps.0.tool", "steps.1.id", "steps.1.tool", "uiIntent.component_tree"] :=
  have h : validate brokenDraft = .error brokenDefects := by rfl
  ⟨h, (report_points_into_draft h).2.1, by decide +kernel⟩

end Draft

end AgentPlan
