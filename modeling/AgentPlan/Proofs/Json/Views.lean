import AgentPlan.Json.Reader
import AgentPlan.Proofs.Json.Skipped

/-!
# Readers and values

A reader works on the tree of a text. Where the tree has a value, the first token says of which kind
it is (`begins_of_value`), so what a simple reader gives can be said of the value alone: the reader
follows a view of values (`Reader.Follows`).
-/

namespace AgentPlan.Json

/-! ## Values and their first tokens -/

/-- The kind of token that a value begins with. -/
def Begins (k : Token.Kind) : Json → Prop
  | .null => k = .null
  | .bool b => k = .bool b
  | .num n => ∃ lax, k = .number (.ok n) lax
  | .str s => ∃ lax, k = .text (.ok s) lax
  | .arr _ => k = .openBracket
  | .obj _ => k = .openBrace

/-- A token that is a whole value is of the kind that the value begins with. -/
theorem begins_of_scalar {t : Token} {v : Json} (h : t.scalar = .ok v) : Begins t.kind v := by
  rw [Token.scalar] at h
  cases hkind : t.kind with
  | null | bool =>
    simp only [hkind] at h
    cases h
    rfl
  | number strict lax | text strict lax =>
    simp only [hkind] at h
    obtain ⟨value, rfl, rfl⟩ := Except.map_eq_ok_iff.1 h
    exact ⟨lax, rfl⟩
  | _ =>
    simp only [hkind] at h
    cases h

/-- No single token is an object. -/
theorem members?_of_scalar {t : Token} {v : Json} (h : t.scalar = .ok v) : v.members? = none := by
  have hbegins := begins_of_scalar h
  cases v with
  | obj =>
    have hkind : t.kind = .openBrace := hbegins
    simp only [Token.scalar, hkind] at h
    cases h
  | null | bool | num | str | arr => rfl

/-- The first token of a sound tree with a value is one that the value begins with. -/
theorem begins_of_value {room : Nat} {t : Tree} {v : Json} (ht : t.Sound)
    (h : t.value room = .ok v) : Begins t.token.kind v := by
  obtain ⟨token, rfl, hscalar⟩ | ⟨_, _, _, _, _, rfl, _, rfl⟩ | ⟨_, _, _, _, _, _, rfl, _, rfl⟩ :=
    Tree.value_cases h
  · exact begins_of_scalar hscalar
  · exact ht.1
  · exact ht.1

/-! ## Views -/

/-- An integer of 32 bits without sign, as a reader of such integers takes it. A float with the same
value is none. -/
def uint32? : Json → Option UInt32
  | .num (.int i) => if 0 ≤ i ∧ i < UInt32.size then some (UInt32.ofNat i.toNat) else none
  | _ => none

/-- Nothing from null, and else something that is viewed with `view`, as a field has it that may be
null. -/
def orNull? {α : Type} (view : Json → Option α) : Json → Option (Option α)
  | .null => some none
  | v => (view v).map some

section
variable {v : Json}

/-- A value has a text when it is the string with this text. -/
theorem text?_eq_some_iff {s : String} : v.text? = some s ↔ v = .str s := by
  cases v <;> simp [text?]

/-- A value has members when it is the object with these members. -/
theorem members?_eq_some_iff {o : Members} : v.members? = some o ↔ v = .obj o := by
  cases v <;> simp [members?]

/-- A value is an integer of 32 bits when it is the number with this value, written as an
integer. -/
theorem uint32?_eq_some_iff {n : UInt32} : uint32? v = some n ↔ v = .num (.int n.toNat) := by
  cases v with
  | num x =>
    cases x with
    | int i =>
      rw [uint32?]
      constructor
      · intro h
        split_ifs at h with hrange
        cases h
        have hlt : i.toNat < UInt32.size := by omega
        rw [UInt32.toNat_ofNat_of_lt' hlt, Int.toNat_of_nonneg hrange.1]
      · intro h
        cases h
        have hlt := n.toNat_lt
        rw [if_pos ⟨Int.natCast_nonneg _, by exact_mod_cast hlt⟩, Int.toNat_natCast,
          UInt32.ofNat_toNat]
    | float b => simp [uint32?]
  | null | bool | str | arr | obj => simp [uint32?]

end

/-! ## Readers that follow a view -/

/-- On the tree of a value a reader gives what `view` makes of the value. Trees without a value are
not spoken of: a reader may pass over a part of a tree that has none, and read the rest. -/
def Reader.Follows {α : Type} (read : Reader α) (view : Json → Option α) : Prop :=
  ∀ room t v, t.Sound → t.value room = .ok v → (read room t).toOption = view v

namespace Reader

/-- The reader of strings gives the text of a string, and nothing from another value. -/
theorem follows_text : Follows .text Json.text? := by
  intro room t v ht h
  have hbegins := begins_of_value ht h
  rw [text]
  cases v with
  | str s | num n =>
    obtain ⟨lax, hkind⟩ := hbegins
    simp only [hkind]
    rfl
  | null | bool | arr | obj =>
    rw [Begins] at hbegins
    simp only [hbegins]
    rfl

/-- A number is taken as what it is: the reader gives what `take` makes of it. -/
theorem number_toOption {α : Type} {wanted : String} {take : Number → Except Cause α} {room : Nat}
    {t : Tree} {n : Number} {lax : Option Fault} (hkind : t.token.kind = .number (.ok n) lax) :
    (number wanted take room t).toOption = (take n).toOption := by
  rw [number]
  simp only [hkind]
  cases htake : take n <;> simp only [bind, Except.bind, htake] <;> rfl

/-- The reader of integers of 32 bits gives those that are in range, and nothing from another
value. -/
theorem follows_uint32 : Follows .uint32 uint32? := by
  intro room t v ht h
  have hbegins := begins_of_value ht h
  cases v with
  | num n =>
    obtain ⟨lax, hkind⟩ := hbegins
    rw [uint32, number_toOption hkind]
    cases n with
    | int i =>
      simp only [integer, uint32?]
      split_ifs <;> rfl
    | float b => rfl
  | str s =>
    obtain ⟨lax, hkind⟩ := hbegins
    rw [uint32, number]
    simp only [hkind]
    rfl
  | null | bool | arr | obj =>
    rw [Begins] at hbegins
    rw [uint32, number]
    simp only [hbegins]
    rfl

/-- A reader that takes null besides what another one reads follows the view that does. -/
theorem follows_optional {α : Type} {read : Reader α} {view : Json → Option α}
    (hread : Follows read view) : Follows (.optional read) (orNull? view) := by
  intro room t v ht h
  have hbegins := begins_of_value ht h
  rw [optional]
  cases v with
  | null =>
    rw [Begins] at hbegins
    simp only [hbegins]
    rfl
  | num | str =>
    obtain ⟨lax, hkind⟩ := hbegins
    simp only [hkind, Except.toOption_map, hread room t _ ht h]
    rfl
  | bool | arr | obj =>
    rw [Begins] at hbegins
    simp only [hbegins, Except.toOption_map, hread room t _ ht h]
    rfl

/-- The reader of objects with free keys gives the members of an object, and nothing from another
value. -/
theorem follows_members : Follows .members Json.members? := by
  intro room t v ht h
  obtain ⟨token, rfl, hscalar⟩ | ⟨_, _, _, _, _, rfl, _, rfl⟩ | ⟨_, _, _, _, _, _, rfl, _, rfl⟩ :=
    Tree.value_cases h
  · exact (members?_of_scalar hscalar).symm
  · rfl
  · rw [members, h]
    rfl

end Reader

end AgentPlan.Json
