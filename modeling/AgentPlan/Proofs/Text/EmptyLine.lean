import Mathlib.Data.List.Basic

/-!
# Texts without an empty line

A text has no empty line if another character than a line break stands behind each of its line
breaks. Such texts are closed under concatenation, and what an empty line separates from a text of
this kind can be told apart from it (`append_emptyLine_inj`): the last empty line is the separator,
however many there are before it.
-/

namespace AgentPlan.Text

/-- Behind each line break stands a character that is none, so that no line is empty, the one after
the last line break included. -/
def NoEmptyLine (s : String) : Prop :=
  ∀ pre post, s.toList = pre ++ '\n' :: post → ∃ c rest, post = c :: rest ∧ c ≠ '\n'

variable {s t : String}

/-- A text on one line has no empty line. -/
theorem noEmptyLine_of_notMem (h : '\n' ∉ s.toList) : NoEmptyLine s := by
  intro pre post heq
  rw [heq] at h
  exact absurd (List.mem_append_right _ List.mem_cons_self) h

/-- Two texts that make no empty line make none together. -/
theorem NoEmptyLine.append (hs : NoEmptyLine s) (ht : NoEmptyLine t) : NoEmptyLine (s ++ t) := by
  intro pre post heq
  rw [String.toList_append] at heq
  rcases List.append_eq_append_iff.1 heq with ⟨pre', -, hpost⟩ | ⟨post', hs', hpost⟩
  · exact ht pre' post hpost
  · cases post' with
    | nil => exact ht [] post hpost.symm
    | cons b post' =>
      obtain ⟨rfl, rfl⟩ := List.cons.inj hpost
      obtain ⟨c, rest, rfl, hc⟩ := hs pre post' hs'
      exact ⟨c, rest ++ t.toList, rfl, hc⟩

/-- A line break before a text that does not start with one. -/
theorem NoEmptyLine.lineBreak (hs : NoEmptyLine s) {c : Char} (hhead : s.toList.head? = some c)
    (hc : c ≠ '\n') : NoEmptyLine ("\n" ++ s) := by
  intro pre post heq
  have hlist : ("\n" ++ s).toList = '\n' :: s.toList := by
    rw [String.toList_append]
    rfl
  rw [hlist] at heq
  cases pre with
  | nil =>
    obtain ⟨rest, hrest⟩ := List.head?_eq_some_iff.1 hhead
    exact ⟨c, rest, (List.cons.inj heq).2.symm.trans hrest, hc⟩
  | cons _ pre => exact hs pre post (List.cons.inj heq).2

/-- A line break before a line. -/
theorem noEmptyLine_line (h : '\n' ∉ s.toList) (hne : s.toList ≠ []) : NoEmptyLine ("\n" ++ s) := by
  obtain ⟨c, rest, hlist⟩ := List.exists_cons_of_ne_nil hne
  refine (noEmptyLine_of_notMem h).lineBreak (c := c) (by rw [hlist, List.head?_cons]) ?_
  rintro rfl
  exact h (hlist ▸ List.mem_cons_self)

/-- A text that is cut at an empty line with no other one behind it cannot be cut at an earlier
place in this way. -/
theorem eq_of_emptyLine_prefix {z : List Char} {u : String} (ht : NoEmptyLine ("\n" ++ t))
    (h : '\n' :: '\n' :: t.toList = z ++ '\n' :: '\n' :: u.toList) : z = [] := by
  cases z with
  | nil => rfl
  | cons a z =>
    have hlist : ("\n" ++ t).toList = z ++ '\n' :: '\n' :: u.toList := by
      rw [String.toList_append]
      exact (List.cons.inj h).2
    obtain ⟨c, rest, heq, hc⟩ := ht z _ hlist
    exact absurd (List.cons.inj heq).1.symm hc

/-- **The last empty line separates.** Texts that consist of any text, an empty line, and a text
without one are equal only if their parts are. -/
theorem append_emptyLine_inj {x y : String} (hs : NoEmptyLine ("\n" ++ s))
    (ht : NoEmptyLine ("\n" ++ t)) :
    x ++ ("\n\n" ++ s) = y ++ ("\n\n" ++ t) ↔ x = y ∧ s = t := by
  refine ⟨fun h => ?_, by rintro ⟨rfl, rfl⟩; rfl⟩
  have hempty : "\n\n".toList = ['\n', '\n'] := rfl
  have hlist : x.toList ++ '\n' :: '\n' :: s.toList = y.toList ++ '\n' :: '\n' :: t.toList := by
    simpa only [String.toList_append, hempty, List.cons_append, List.nil_append] using
      congrArg String.toList h
  have hxy : x.toList = y.toList := by
    rcases List.append_eq_append_iff.1 hlist with ⟨z, hy, htail⟩ | ⟨z, hx, htail⟩
    · rw [hy, eq_of_emptyLine_prefix hs htail, List.append_nil]
    · rw [hx, eq_of_emptyLine_prefix ht htail, List.append_nil]
  obtain rfl := String.toList_inj.1 hxy
  exact ⟨rfl, (String.append_right_inj _).1 ((String.append_right_inj _).1 h)⟩

end AgentPlan.Text
