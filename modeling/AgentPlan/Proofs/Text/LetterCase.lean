import AgentPlan.Text.Basic

/-!
# Words in any letter case

Small letters are found by the tables of Unicode. For a word of small letters and digits without a
`k` they find nothing but the capitals of the alphabet: a text has the word as its small letters
exactly if it is the word in some letter case (`lower_eq_iff`). A `k` is also what the sign of the
unit Kelvin has as its small letter.
-/

namespace AgentPlan.Text

/-- The text is the word, with capitals or small letters of the alphabet. -/
def AnyCase (word s : String) : Prop :=
  s.toList.map Char.toLower = word.toList

/-! ## Characters -/

/-- A character that is the small form of itself and its capital only: a digit, or a small letter
other than `k`. -/
def plain (c : Char) : Bool :=
  (c.isDigit || c.isLower) && c ≠ 'k'

/-- A capital letter of ASCII is told by its number. -/
theorem isUpper_iff {c : Char} : c.isUpper = true ↔ 0x41 ≤ c.toNat ∧ c.toNat ≤ 0x5a :=
  decide_eq_true_iff

/-- A plain character lies between the digit zero and the small letter z. -/
theorem toNat_bounds_of_plain {c : Char} (h : plain c = true) :
    0x30 ≤ c.toNat ∧ c.toNat ≤ 0x7a := by
  have hdigit : c.isDigit = (decide (0x30 ≤ c.toNat) && decide (c.toNat ≤ 0x39)) := rfl
  have hlower : c.isLower = (decide (0x61 ≤ c.toNat) && decide (c.toNat ≤ 0x7a)) := rfl
  simp only [plain, hdigit, hlower, Bool.and_eq_true, Bool.or_eq_true, decide_eq_true_eq] at h
  omega

/-- The capitals after those of the alphabet come after `z`, and so do their small forms, but for
the sign of the unit Kelvin. -/
theorem capitals_far : ∀ row ∈ capitals.tail, 0x7a < row.1 ∧
    (0x7a < (row.1 : Int) + row.2.2.2 ∨ row = (0x212a, 0x212a, 1, -8383)) := by
  decide +kernel

/-- The character with a number has this number, or there is none and it is the null character. -/
theorem toNat_ofNat_cases (n : Nat) : (Char.ofNat n).toNat = n ∨ (Char.ofNat n).toNat = 0 := by
  by_cases h : n.isValidChar
  · exact .inl (congrArg Char.toNat (dif_pos h : Char.ofNat n = Char.ofNatAux n h))
  · exact .inr (congrArg Char.toNat (dif_neg h))

/-- The small form of a capital of the alphabet is its small letter. -/
theorem smallForm_of_isUpper {c : Char} (h : c.isUpper = true) : smallForm c = c.toLower := by
  have hcapitals : ∀ i : Fin 26,
      smallForm (Char.ofNat (0x41 + i)) = (Char.ofNat (0x41 + i)).toLower := by decide +kernel
  have hbounds := isUpper_iff.1 h
  have hc : Char.ofNat (0x41 + (c.toNat - 0x41)) = c := by
    rw [Nat.add_sub_cancel' hbounds.1, Char.ofNat_toNat]
  exact hc ▸ hcapitals ⟨c.toNat - 0x41, by omega⟩

/-- A plain character is the small form of what has it as its small letter in the alphabet. -/
theorem smallForm_eq_iff {c w : Char} (hw : plain w = true) : smallForm c = w ↔ c.toLower = w := by
  by_cases hupper : c.isUpper = true
  · rw [smallForm_of_isUpper hupper]
  have hlower : c.toLower = c := dif_neg fun h => hupper (decide_eq_true h)
  have hbounds := toNat_bounds_of_plain hw
  rw [hlower, smallForm]
  split
  · next first last step distance hfind =>
    have hholds := List.find?_some hfind
    simp only [Bool.and_eq_true, decide_eq_true_eq] at hholds
    have hmem : (first, last, step, distance) ∈ capitals.tail := by
      have hmem := List.mem_of_find?_eq_some hfind
      rw [show capitals = (0x41, 0x5a, 1, 32) :: capitals.tail from rfl, List.mem_cons] at hmem
      refine hmem.resolve_left fun hrow => hupper ?_
      cases hrow
      exact isUpper_iff.2 hholds.1
    obtain ⟨hfirst, hdistance⟩ := capitals_far _ hmem
    have hc : c ≠ w := by
      rintro rfl
      omega
    refine iff_of_false (fun hsmall => ?_) hc
    rcases hdistance with hdistance | hkelvin
    · dsimp only at hdistance
      have hnumber := toNat_ofNat_cases ((c.toNat : Int) + distance).toNat
      rw [hsmall] at hnumber
      omega
    · cases hkelvin
      rw [show c.toNat = 0x212a by omega] at hsmall
      rw [← hsmall] at hw
      exact absurd hw (by decide)
  · rfl

/-! ## Texts -/

/-- A text has a plain word as its small form, by the rules of Unicode, exactly if it has it by
those of ASCII. -/
theorem lowerFrom_eq_iff {word : List Char} (hword : ∀ c ∈ word, plain c = true)
    (before cs : List Char) : lowerFrom before cs = word ↔ cs.map Char.toLower = word := by
  induction cs generalizing before word with
  | nil => rw [lowerFrom, List.map_nil]
  | cons c rest ih =>
    rw [lowerFrom, List.map_cons]
    by_cases hi : c = 'İ'
    · -- The dot above that follows the small letter is not plain, and neither is the capital.
      rw [if_pos hi]
      refine iff_of_false (fun h => ?_) (fun h => ?_)
      · exact absurd (hword '\u0307' (by simp [← h])) (by decide)
      · exact absurd (hword c.toLower (by simp [← h])) (by rw [hi]; decide)
    rw [if_neg hi]
    by_cases hsigma : c = 'Σ'
    · rw [if_pos hsigma]
      generalize hsmall : (if casedNext before && !casedNext rest then 'ς' else 'σ') = small
      have hgreek : plain small = false := by
        rw [← hsmall]
        split <;> decide
      refine iff_of_false (fun h => ?_) (fun h => ?_)
      · exact absurd (hword small (by simp [← h])) (by rw [hgreek]; decide)
      · exact absurd (hword c.toLower (by simp [← h])) (by rw [hsigma]; decide)
    rw [if_neg hsigma]
    cases word with
    | nil => exact iff_of_false nofun nofun
    | cons w word =>
      rw [List.forall_mem_cons] at hword
      simp only [List.cons_append, List.nil_append, List.cons_eq_cons, smallForm_eq_iff hword.1,
        ih hword.2]

/-- **Any letter case.** A word of plain characters is what a text has as its small letters exactly
if the text is the word in some letter case. -/
theorem lower_eq_iff {word : String} (hword : word.toList.all plain = true) (s : String) :
    lower s = word ↔ AnyCase word s := by
  rw [lower, ← String.toList_inj, String.toList_ofList]
  exact lowerFrom_eq_iff (List.all_eq_true.1 hword) [] s.toList

end AgentPlan.Text
