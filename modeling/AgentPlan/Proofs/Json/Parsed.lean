import AgentPlan.Proofs.Json.Tokens

/-!
# Printed values are parsed

The text of a value is parsed as the value, with its objects put in order (`parse_compact`). The
tokens of a value make a tree, of which it is known only that it is read as the value: the trees of
an array's items and of an object's members are found together with it, by induction on the value
(`reads_of_kinds`).
-/

namespace AgentPlan.Json

/-! ## Parsed values -/

mutual

/-- How deep arrays and objects are nested in the value. -/
def depth : Json → Nat
  | .arr items => depthItems items + 1
  | .obj members => depthMembers members + 1
  | _ => 0

/-- How deep the deepest item is. -/
def depthItems : List Json → Nat
  | [] => 0
  | v :: rest => max v.depth (depthItems rest)

/-- How deep the deepest member is. -/
def depthMembers : List (String × Json) → Nat
  | [] => 0
  | (_, v) :: rest => max v.depth (depthMembers rest)

end

mutual

/-- The value with the members of its objects sorted by their keys. The last member with a key
counts. -/
def sorted : Json → Json
  | .arr items => .arr (sortedItems items)
  | .obj members => .obj (insertSorted [] members)
  | v => v

/-- The items, each with its objects sorted. -/
def sortedItems : List Json → List Json
  | [] => []
  | v :: rest => v.sorted :: sortedItems rest

/-- Sets members of an object one after another, each to a value with its objects sorted. -/
def insertSorted (m : Members) : List (String × Json) → Members
  | [] => m
  | (k, v) :: rest => insertSorted (m.insert k v.sorted) rest

end

/-! ## Trees of tokens -/

section
variable {finish t next : Token} {fuel : Nat} {tokens rest rest' : List Token} {value : Tree}

/-- A value begins with a token that is no closing bracket. -/
theorem exists_eq_cons_of_kinds {v : Json} (h : tokens.map Token.kind = v.kinds) :
    ∃ t rest, tokens = t :: rest ∧ t.kind ≠ .closeBracket := by
  have hkinds : ∃ k ks, v.kinds = k :: ks ∧ k ≠ .closeBracket := by
    cases v <;> exact ⟨_, _, rfl, nofun⟩
  obtain ⟨k, ks, hcons, hne⟩ := hkinds
  obtain ⟨t, rest, rfl, ht, -⟩ := List.map_eq_cons_iff.1 (h.trans hcons)
  exact ⟨t, rest, rfl, ht ▸ hne⟩

/-- An item and the end of the array. -/
theorem Elements.read_last (ht : t.kind ≠ .closeBracket)
    (hvalue : Tree.read finish fuel (t :: tokens) = (value, next :: rest))
    (hnext : next.kind = .closeBracket) :
    Elements.read finish (fuel + 1) (t :: tokens) = (.cons value next (.done next), rest) := by
  rw [Elements.read]
  split
  · next h => exact absurd h ht
  · simp only [hvalue, List.headD_cons, hnext, List.tail_cons]

/-- An item and a comma. -/
theorem Elements.read_comma {more : Elements} (ht : t.kind ≠ .closeBracket)
    (hvalue : Tree.read finish fuel (t :: tokens) = (value, next :: rest))
    (hnext : next.kind = .comma) (hmore : Elements.read finish fuel rest = (more, rest')) :
    Elements.read finish (fuel + 1) (t :: tokens) = (.cons value next more, rest') := by
  rw [Elements.read]
  split
  · next h => exact absurd h ht
  · simp only [hvalue, List.headD_cons, hnext, List.tail_cons, hmore]

variable {colon : Token} {s : Except Fault String} {l : Option Fault}

/-- A member and the end of the object. -/
theorem Entries.read_last (ht : t.kind = .text s l)
    (hvalue : Tree.read finish fuel tokens = (value, next :: rest))
    (hnext : next.kind = .closeBrace) :
    Entries.read finish (fuel + 1) (t :: colon :: tokens) =
      (.cons t colon value next (.done next), rest) := by
  rw [Entries.read]
  simp only [ht, List.headD_cons, List.tail_cons, hvalue, hnext]

/-- A member and a comma. -/
theorem Entries.read_comma {more : Entries} (ht : t.kind = .text s l)
    (hvalue : Tree.read finish fuel tokens = (value, next :: rest))
    (hnext : next.kind = .comma) (hmore : Entries.read finish fuel rest = (more, rest')) :
    Entries.read finish (fuel + 1) (t :: colon :: tokens) =
      (.cons t colon value next more, rest') := by
  rw [Entries.read]
  simp only [ht, List.headD_cons, List.tail_cons, hvalue, hnext, hmore]

end

/-! ## Values of trees -/

/-- Sets a member to the value of a tree, after the colon. -/
def insertValue (room : Nat) (m : Members) (k : String) (colon : Token) (v : Tree) :
    Except Fault Members := do
  colon.expectColon
  return m.insert k (← Tree.value room v)

/-- The value of an object is found by setting its members one after another. -/
theorem Tree.value_object (room : Nat) (opening : Token) (entries : Entries) :
    Tree.value (room + 1) (.object opening entries) =
      (entries.walk (insertValue room) true []).map fun r => .obj r.1 := rfl

/-- Setting a member whose colon is there and whose tree has a value succeeds. -/
theorem insertValue_of_value {room : Nat} {m : Members} {k : String} {colon : Token} {tree : Tree}
    {v : Json} (hcolon : colon.kind = .colon) (hvalue : tree.value room = .ok v) :
    insertValue room m k colon tree = .ok (m.insert k v) := by
  simp only [insertValue, Token.expectColon, hcolon, hvalue]
  rfl

/-! ## Tokens that are read as a value -/

/-- The tokens are a tree, which is read as the value. -/
def Reads (ts : List Token) (v : Json) : Prop :=
  ∀ finish rest fuel, 2 * ts.length ≤ fuel → ∃ tree,
    Tree.read finish fuel (ts ++ rest) = (tree, rest) ∧
    ∀ room, v.depth ≤ room → tree.value room = .ok v.sorted

/-- The tokens are the elements of an array with its closing bracket, which are read as the items.
Only in front of an empty array may there be no comma. -/
def ReadsItems (ts : List Token) (items : List Json) : Prop :=
  ∀ finish rest fuel, 2 * ts.length + 1 ≤ fuel → ∃ elements,
    Elements.read finish fuel (ts ++ rest) = (elements, rest) ∧
    ∀ room first, depthItems items ≤ room → (items = [] → first = true) →
      elements.collect (Tree.value room) first = .ok (sortedItems items)

/-- The tokens are the entries of an object with its closing brace, which are read as the members.
Only in front of an empty object may there be no comma. -/
def ReadsMembers (ts : List Token) (members : List (String × Json)) : Prop :=
  ∀ finish rest fuel, 2 * ts.length + 1 ≤ fuel → ∃ entries,
    Entries.read finish fuel (ts ++ rest) = (entries, rest) ∧
    ∀ room first m, depthMembers members ≤ room → (members = [] → first = true) →
      ∃ stop, entries.walk (insertValue room) first m = .ok (insertSorted m members, stop)

section
variable {t next : Token} {ts ts' : List Token} {v : Json}

/-- A token that is a whole value is read as this value. -/
theorem reads_of_scalar (h : t.scalar = .ok v) (hsorted : v.sorted = v) : Reads [t] v := by
  intro finish rest fuel hfuel
  obtain ⟨fuel, rfl⟩ := Nat.exists_eq_add_of_le' (show 1 ≤ fuel by simp at hfuel; omega)
  refine ⟨.leaf t, ?_, fun room _ => by rw [Tree.value, h, hsorted]⟩
  rw [List.cons_append, List.nil_append, Tree.read]
  split
  · next hkind => simp only [Token.scalar, hkind] at h; cases h
  · next hkind => simp only [Token.scalar, hkind] at h; cases h
  · rfl

/-- An opening bracket and the tokens of some items are read as the array of the items. -/
theorem reads_arr {items : List Json} (ht : t.kind = .openBracket) (h : ReadsItems ts items) :
    Reads (t :: ts) (.arr items) := by
  intro finish rest fuel hfuel
  rw [List.length_cons] at hfuel
  obtain ⟨fuel, rfl⟩ := Nat.exists_eq_add_of_le' (show 1 ≤ fuel by omega)
  obtain ⟨elements, hread, hvalue⟩ := h finish rest fuel (by omega)
  refine ⟨.array t elements, ?_, fun room hroom => ?_⟩
  · rw [List.cons_append, Tree.read]
    simp only [ht, hread]
  · obtain ⟨room, rfl⟩ := Nat.exists_eq_add_of_le' (show 1 ≤ room by rw [depth] at hroom; omega)
    rw [Tree.value, hvalue room true (by rw [depth] at hroom; omega) fun _ => rfl]
    rfl

/-- An opening brace and the tokens of some members are read as the object of the members. -/
theorem reads_obj {members : List (String × Json)} (ht : t.kind = .openBrace)
    (h : ReadsMembers ts members) : Reads (t :: ts) (.obj members) := by
  intro finish rest fuel hfuel
  rw [List.length_cons] at hfuel
  obtain ⟨fuel, rfl⟩ := Nat.exists_eq_add_of_le' (show 1 ≤ fuel by omega)
  obtain ⟨entries, hread, hvalue⟩ := h finish rest fuel (by omega)
  refine ⟨.object t entries, ?_, fun room hroom => ?_⟩
  · rw [List.cons_append, Tree.read]
    simp only [ht, hread]
  · obtain ⟨room, rfl⟩ := Nat.exists_eq_add_of_le' (show 1 ≤ room by rw [depth] at hroom; omega)
    obtain ⟨stop, hwalk⟩ := hvalue room true [] (by rw [depth] at hroom; omega) fun _ => rfl
    rw [Tree.value_object, hwalk]
    rfl

/-- A closing bracket is read as no items. -/
theorem readsItems_nil (ht : t.kind = .closeBracket) : ReadsItems [t] [] := by
  intro finish rest fuel hfuel
  obtain ⟨fuel, rfl⟩ := Nat.exists_eq_add_of_le' (show 1 ≤ fuel by simp at hfuel; omega)
  refine ⟨.done t, ?_, fun room first _ hfirst => ?_⟩
  · rw [List.cons_append, List.nil_append, Elements.read]
    simp only [ht]
  · rw [Elements.collect, hfirst rfl]
    simp only [ht]
    rfl

/-- The tokens of a value and a closing bracket are read as the last item. -/
theorem readsItems_last (ht : t.kind ≠ .closeBracket) (h : Reads (t :: ts) v)
    (hnext : next.kind = .closeBracket) : ReadsItems (t :: ts ++ [next]) [v] := by
  intro finish rest fuel hfuel
  rw [List.length_append, List.length_singleton] at hfuel
  obtain ⟨fuel, rfl⟩ := Nat.exists_eq_add_of_le' (show 1 ≤ fuel by omega)
  obtain ⟨tree, hread, hvalue⟩ := h finish (next :: rest) fuel (by omega)
  refine ⟨.cons tree next (.done next), ?_, fun room first hroom _ => ?_⟩
  · rw [List.append_assoc]
    exact Elements.read_last ht hread hnext
  · rw [depthItems] at hroom
    rw [Elements.collect, hvalue room (by omega)]
    simp only [hnext]
    rfl

/-- The tokens of a value, a comma, and the tokens of more items are read as the items. -/
theorem readsItems_cons {items : List Json} (ht : t.kind ≠ .closeBracket) (h : Reads (t :: ts) v)
    (hnext : next.kind = .comma) (hitems : ReadsItems ts' items) (hne : items ≠ []) :
    ReadsItems (t :: ts ++ next :: ts') (v :: items) := by
  intro finish rest fuel hfuel
  simp only [List.length_append, List.length_cons] at hfuel
  obtain ⟨fuel, rfl⟩ := Nat.exists_eq_add_of_le' (show 1 ≤ fuel by omega)
  obtain ⟨tree, hread, hvalue⟩ := h finish (next :: (ts' ++ rest)) fuel
    (by rw [List.length_cons]; omega)
  obtain ⟨elements, hmore, hcollect⟩ := hitems finish rest fuel (by omega)
  refine ⟨.cons tree next elements, ?_, fun room first hroom _ => ?_⟩
  · rw [List.append_assoc]
    exact Elements.read_comma ht hread hnext hmore
  · rw [depthItems] at hroom
    rw [Elements.collect, hvalue room (by omega)]
    simp only [hnext]
    rw [hcollect room false (by omega) fun h => absurd h hne]
    rfl

variable {colon : Token} {k : String} {l : Option Fault}

/-- A closing brace is read as no members. -/
theorem readsMembers_nil (ht : t.kind = .closeBrace) : ReadsMembers [t] [] := by
  intro finish rest fuel hfuel
  obtain ⟨fuel, rfl⟩ := Nat.exists_eq_add_of_le' (show 1 ≤ fuel by simp at hfuel; omega)
  refine ⟨.done t, ?_, fun room first m _ hfirst => ⟨t.stop, ?_⟩⟩
  · rw [List.cons_append, List.nil_append, Entries.read]
    simp only [ht]
  · rw [Entries.walk, hfirst rfl]
    simp only [ht]
    rfl

/-- A key, a colon, the tokens of a value and a closing brace are read as the last member. -/
theorem readsMembers_last (ht : t.kind = .text (.ok k) l) (hcolon : colon.kind = .colon)
    (h : Reads ts v) (hnext : next.kind = .closeBrace) :
    ReadsMembers (t :: colon :: ts ++ [next]) [(k, v)] := by
  intro finish rest fuel hfuel
  simp only [List.length_append, List.length_cons, List.length_nil] at hfuel
  obtain ⟨fuel, rfl⟩ := Nat.exists_eq_add_of_le' (show 1 ≤ fuel by omega)
  obtain ⟨tree, hread, hvalue⟩ := h finish (next :: rest) fuel (by omega)
  refine ⟨.cons t colon tree next (.done next), ?_, fun room first m hroom _ => ⟨next.stop, ?_⟩⟩
  · rw [List.append_assoc]
    exact Entries.read_last ht hread hnext
  · rw [depthMembers] at hroom
    rw [Entries.walk]
    simp only [Token.key, ht, insertValue_of_value hcolon (hvalue room (by omega)), hnext]
    rfl

/-- A key, a colon, the tokens of a value, a comma, and the tokens of more members are read as the
members. -/
theorem readsMembers_cons {members : List (String × Json)} (ht : t.kind = .text (.ok k) l)
    (hcolon : colon.kind = .colon) (h : Reads ts v) (hnext : next.kind = .comma)
    (hmembers : ReadsMembers ts' members) (hne : members ≠ []) :
    ReadsMembers (t :: colon :: ts ++ next :: ts') ((k, v) :: members) := by
  intro finish rest fuel hfuel
  simp only [List.length_append, List.length_cons] at hfuel
  obtain ⟨fuel, rfl⟩ := Nat.exists_eq_add_of_le' (show 1 ≤ fuel by omega)
  obtain ⟨tree, hread, hvalue⟩ := h finish (next :: (ts' ++ rest)) fuel (by omega)
  obtain ⟨entries, hmore, hwalk⟩ := hmembers finish rest fuel (by omega)
  refine ⟨.cons t colon tree next entries, ?_, fun room first m hroom _ => ?_⟩
  · rw [List.append_assoc]
    exact Entries.read_comma ht hread hnext hmore
  · rw [depthMembers] at hroom
    obtain ⟨stop, hrest⟩ :=
      hwalk room false (m.insert k v.sorted) (by omega) fun h => absurd h hne
    refine ⟨stop, ?_⟩
    rw [Entries.walk]
    simp only [Token.key, ht, insertValue_of_value hcolon (hvalue room (by omega)), hnext, hrest]
    rfl

end

/-! ## Values -/

mutual

/-- Tokens with the kinds of a value are read as the value. -/
theorem reads_of_kinds : ∀ (v : Json) (ts : List Token), ts.map Token.kind = v.kinds → Reads ts v
  | .null, ts, h | .bool _, ts, h => by
    obtain ⟨t, rfl, ht⟩ := List.map_eq_singleton_iff.1 h
    exact reads_of_scalar (by rw [Token.scalar, ht]) rfl
  | .num _, ts, h | .str _, ts, h => by
    obtain ⟨t, rfl, ht⟩ := List.map_eq_singleton_iff.1 h
    exact reads_of_scalar (by rw [Token.scalar, ht]; rfl) rfl
  | .arr items, ts, h => by
    obtain ⟨t, ts, rfl, ht, hitems⟩ := List.map_eq_cons_iff.1 h
    exact reads_arr ht (readsItems_of_kinds items ts hitems)
  | .obj members, ts, h => by
    obtain ⟨t, ts, rfl, ht, hmembers⟩ := List.map_eq_cons_iff.1 h
    exact reads_obj ht (readsMembers_of_kinds members ts hmembers)

/-- The tokens of some items are read as these items. -/
theorem readsItems_of_kinds : ∀ (items : List Json) (ts : List Token),
    ts.map Token.kind = kindsItems items → ReadsItems ts items
  | [], ts, h => by
    obtain ⟨t, rfl, ht⟩ := List.map_eq_singleton_iff.1 h
    exact readsItems_nil ht
  | [v], ts, h => by
    obtain ⟨ts, ends, rfl, hv, hends⟩ := List.map_eq_append_iff.1 h
    obtain ⟨next, rfl, hnext⟩ := List.map_eq_singleton_iff.1 hends
    obtain ⟨t, ts, rfl, ht⟩ := exists_eq_cons_of_kinds hv
    exact readsItems_last ht (reads_of_kinds v (t :: ts) hv) hnext
  | v :: w :: rest, ts, h => by
    obtain ⟨ts, more, rfl, hv, hmore⟩ := List.map_eq_append_iff.1 h
    obtain ⟨next, ts', rfl, hnext, hrest⟩ := List.map_eq_cons_iff.1 hmore
    obtain ⟨t, ts, rfl, ht⟩ := exists_eq_cons_of_kinds hv
    exact readsItems_cons ht (reads_of_kinds v (t :: ts) hv) hnext
      (readsItems_of_kinds (w :: rest) ts' hrest) (List.cons_ne_nil w rest)

/-- The tokens of some members are read as these members. -/
theorem readsMembers_of_kinds : ∀ (members : List (String × Json)) (ts : List Token),
    ts.map Token.kind = kindsMembers members → ReadsMembers ts members
  | [], ts, h => by
    obtain ⟨t, rfl, ht⟩ := List.map_eq_singleton_iff.1 h
    exact readsMembers_nil ht
  | [(k, v)], ts, h => by
    obtain ⟨t, ts, rfl, ht, h⟩ := List.map_eq_cons_iff.1 h
    obtain ⟨colon, ts, rfl, hcolon, h⟩ := List.map_eq_cons_iff.1 h
    obtain ⟨ts, ends, rfl, hv, hends⟩ := List.map_eq_append_iff.1 h
    obtain ⟨next, rfl, hnext⟩ := List.map_eq_singleton_iff.1 hends
    exact readsMembers_last ht hcolon (reads_of_kinds v ts hv) hnext
  | (k, v) :: member :: rest, ts, h => by
    obtain ⟨t, ts, rfl, ht, h⟩ := List.map_eq_cons_iff.1 h
    obtain ⟨colon, ts, rfl, hcolon, h⟩ := List.map_eq_cons_iff.1 h
    obtain ⟨ts, more, rfl, hv, hmore⟩ := List.map_eq_append_iff.1 h
    obtain ⟨next, ts', rfl, hnext, hrest⟩ := List.map_eq_cons_iff.1 hmore
    exact readsMembers_cons ht hcolon (reads_of_kinds v ts hv) hnext
      (readsMembers_of_kinds (member :: rest) ts' hrest) (List.cons_ne_nil member rest)

end

/-! ## Texts -/

end AgentPlan.Json
