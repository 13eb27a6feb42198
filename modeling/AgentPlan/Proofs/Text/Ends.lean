import AgentPlan.Text.Basic
import Mathlib.Data.List.DropRight

/-!
# The two ends of a text

What is left of a list without the elements of one kind at its front and those of another kind at
its back (`inner`). A trimmed text is of this form, and so is a piece between two brackets. Such an
inner part is found again wherever it is put between elements of the two kinds (`inner_between`).
-/

namespace AgentPlan.Text

section
variable {α : Type} {p q : α → Bool} {before cs after : List α}

/-- The list without the elements at its front that satisfy `p` and, behind these, without those at
its back that satisfy `q`. -/
def inner (p q : α → Bool) (cs : List α) : List α :=
  (cs.dropWhile p).rdropWhile q

/-- Elements at the back that satisfy the test are dropped. -/
theorem rdropWhile_append_of_pos (h : ∀ a ∈ after, q a = true) :
    (cs ++ after).rdropWhile q = cs.rdropWhile q := by
  have hreverse : ∀ a ∈ after.reverse, q a = true := fun a ha => h a (List.mem_reverse.1 ha)
  rw [List.rdropWhile, List.reverse_append, List.dropWhile_append_of_pos hreverse, List.rdropWhile]

/-- The inner part stands between elements of the two kinds. -/
theorem exists_inner (p q : α → Bool) (cs : List α) : ∃ before after,
    cs = before ++ inner p q cs ++ after ∧ (∀ a ∈ before, p a = true) ∧
      ∀ a ∈ after, q a = true := by
  refine ⟨cs.takeWhile p, (cs.dropWhile p).rtakeWhile q, ?_, fun _ => List.mem_takeWhile_imp,
    fun _ => List.mem_rtakeWhile_imp⟩
  rw [inner, List.append_assoc, List.rdropWhile_append_rtakeWhile, List.takeWhile_append_dropWhile]

/-- The inner part does not begin with an element of the first kind. -/
theorem exists_head?_inner (h : inner p q cs ≠ []) :
    ∃ a, (inner p q cs).head? = some a ∧ p a = false := by
  obtain ⟨rest, hrest⟩ : inner p q cs <+: cs.dropWhile p := List.rdropWhile_prefix q _
  have hne : cs.dropWhile p ≠ [] := fun hnil => h (by rw [inner, hnil, List.rdropWhile_nil])
  refine ⟨(cs.dropWhile p).head hne, ?_, List.head_dropWhile_not p hne⟩
  rw [← List.head?_append_of_ne_nil _ h, hrest, List.head?_eq_some_head hne]

/-- The inner part does not end with an element of the second kind. -/
theorem exists_getLast?_inner (h : inner p q cs ≠ []) :
    ∃ a, (inner p q cs).getLast? = some a ∧ q a = false :=
  ⟨_, List.getLast?_eq_some_getLast h,
    Bool.eq_false_iff.2 (List.rdropWhile_last_not q (cs.dropWhile p) h)⟩

/-- A list whose ends are of neither kind is the inner part of what it stands in, between elements
of the two kinds. -/
theorem inner_between {a b : α} (hbefore : ∀ a ∈ before, p a = true) (hhead : cs.head? = some a)
    (ha : p a = false) (hlast : cs.getLast? = some b) (hb : q b = false)
    (hafter : ∀ a ∈ after, q a = true) : inner p q (before ++ cs ++ after) = cs := by
  obtain ⟨rest, rfl⟩ := List.head?_eq_some_iff.1 hhead
  obtain ⟨init, hinit⟩ := List.getLast?_eq_some_iff.1 hlast
  rw [inner, List.append_assoc, List.dropWhile_append_of_pos hbefore, List.cons_append,
    List.dropWhile_cons_of_neg (by rw [ha]; decide), ← List.cons_append,
    rdropWhile_append_of_pos hafter, hinit, List.rdropWhile_concat_neg _ _ _ (by rw [hb]; decide)]

/-- What satisfies both tests may be added at the back, and what satisfies the first one at the
front. -/
theorem inner_append (hbefore : ∀ a ∈ before, p a = true) (hp : ∀ a ∈ after, p a = true)
    (hq : ∀ a ∈ after, q a = true) : inner p q (before ++ cs ++ after) = inner p q cs := by
  rw [inner, inner, List.append_assoc, List.dropWhile_append_of_pos hbefore,
    List.dropWhile_append]
  split
  · next hnil =>
    rw [List.isEmpty_iff] at hnil
    rw [hnil, List.dropWhile_eq_nil_iff.2 hp]
  · exact rdropWhile_append_of_pos hq

end

/-! ## Trimmed texts -/

/-- Trimming leaves the part between the blank characters at the two ends. -/
theorem trim_eq_inner (s : String) : trim s = String.ofList (inner isBlank isBlank s.toList) := rfl

/-- A trimmed text stands between blank characters. -/
theorem exists_trim (s : String) : ∃ before after : String,
    s = before ++ trim s ++ after ∧ blank before = true ∧ blank after = true := by
  obtain ⟨before, after, hs, hbefore, hafter⟩ := exists_inner isBlank isBlank s.toList
  refine ⟨String.ofList before, String.ofList after, ?_, ?_, ?_⟩
  · rw [← String.toList_inj]
    simpa [trim_eq_inner] using hs
  · simpa [blank] using hbefore
  · simpa [blank] using hafter

/-- A text whose ends are visible is what trimming leaves of it between blank texts. -/
theorem trim_between {before s after : String} {c d : Char} (hbefore : blank before = true)
    (hhead : s.toList.head? = some c) (hc : isBlank c = false)
    (hlast : s.toList.getLast? = some d) (hd : isBlank d = false) (hafter : blank after = true) :
    trim (before ++ s ++ after) = s := by
  rw [trim_eq_inner, String.toList_append, String.toList_append,
    inner_between (List.all_eq_true.1 hbefore) hhead hc hlast hd (List.all_eq_true.1 hafter),
    String.ofList_toList]

/-- A trimmed text is left as it is. -/
theorem trim_trim (s : String) : trim (trim s) = trim s := by
  by_cases h : inner isBlank isBlank s.toList = []
  · rw [trim_eq_inner s, h]
    rfl
  · obtain ⟨c, hhead, hc⟩ := exists_head?_inner h
    obtain ⟨d, hlast, hd⟩ := exists_getLast?_inner h
    have htrim : (trim s).toList = inner isBlank isBlank s.toList := by
      rw [trim_eq_inner, String.toList_ofList]
    simpa using @trim_between "" (trim s) "" c d rfl (htrim ▸ hhead) hc (htrim ▸ hlast) hd rfl

end AgentPlan.Text
