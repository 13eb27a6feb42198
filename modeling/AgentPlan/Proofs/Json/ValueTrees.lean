import AgentPlan.Proofs.Json.Records

/-!
# Trees of values

A reader takes the tree of a text. A value that is at hand is read by way of the tree that spells it
(`Json.tree`), whatever its depth (`Reader.ofValue`). This tree is sound and has the value with its
objects in order (`sound_tree`, `value_tree`). A value in which the keys of every object increase
stays as it is under this (`sorted_of_ordered`), and every value that is read from a tree is like
that (`ordered_of_value`).
-/

namespace AgentPlan.Json

/-! ## Trees -/

/-- A token without a place. -/
def Token.ofKind (kind : Token.Kind) : Token :=
  ⟨kind, 0, 0⟩

/-- The token made for a kind is of this kind. -/
theorem Token.kind_ofKind (kind : Token.Kind) : (Token.ofKind kind).kind = kind := rfl

/-- The token made for a string is a key with this text. -/
theorem Token.key_ofKind (k : String) : (Token.ofKind (.text (.ok k) none)).key = .ok k := rfl

mutual

/-- The tree that spells a value. -/
def tree : Json → Tree
  | .null => .leaf (.ofKind .null)
  | .bool b => .leaf (.ofKind (.bool b))
  | .num n => .leaf (.ofKind (.number (.ok n) none))
  | .str s => .leaf (.ofKind (.text (.ok s) none))
  | .arr items => .array (.ofKind .openBracket) (elementsOf items)
  | .obj members => .object (.ofKind .openBrace) (entriesOf members)

/-- The elements that spell the items of an array. -/
def elementsOf : List Json → Elements
  | [] => .done (.ofKind .closeBracket)
  | [v] => .cons v.tree (.ofKind .closeBracket) (.done (.ofKind .closeBracket))
  | v :: rest => .cons v.tree (.ofKind .comma) (elementsOf rest)

/-- The entries that spell the members of an object. -/
def entriesOf : List (String × Json) → Entries
  | [] => .done (.ofKind .closeBrace)
  | [(k, v)] => .cons (.ofKind (.text (.ok k) none)) (.ofKind .colon) v.tree
      (.ofKind .closeBrace) (.done (.ofKind .closeBrace))
  | (k, v) :: rest => .cons (.ofKind (.text (.ok k) none)) (.ofKind .colon) v.tree
      (.ofKind .comma) (entriesOf rest)

end

/-- Reads a value that is not in a text, and may be nested at will. -/
def Reader.ofValue {α : Type} (read : Reader α) (v : Json) : Except Fault α :=
  read v.depth v.tree

mutual

/-- The tree that spells a value is sound. -/
theorem sound_tree : ∀ v : Json, v.tree.Sound
  | .null | .bool _ => trivial
  | .num _ | .str _ => fun _ => rfl
  | .arr items => ⟨rfl, sound_elementsOf items⟩
  | .obj members => ⟨rfl, sound_entriesOf members⟩

/-- The elements made from some items are sound. -/
theorem sound_elementsOf : ∀ items : List Json, (elementsOf items).Sound
  | [] => trivial
  | [v] => ⟨sound_tree v, trivial⟩
  | v :: w :: rest => ⟨sound_tree v, sound_elementsOf (w :: rest)⟩

/-- The entries made from some members are sound. -/
theorem sound_entriesOf : ∀ members : List (String × Json), (entriesOf members).Sound
  | [] => trivial
  | [(_, v)] => ⟨fun _ => rfl, sound_tree v, trivial⟩
  | (_, v) :: member :: rest => ⟨fun _ => rfl, sound_tree v, sound_entriesOf (member :: rest)⟩

end

mutual

/-- The tree that spells a value has the value with its objects in order. -/
theorem value_tree : ∀ (v : Json) (room : Nat), v.depth ≤ room → v.tree.value room = .ok v.sorted
  | .null, room, _ | .bool _, room, _ | .num _, room, _ | .str _, room, _ => by cases room <;> rfl
  | .arr items, room, h => by
    obtain ⟨room, rfl⟩ := Nat.exists_eq_add_of_le' (show 1 ≤ room by rw [depth] at h; omega)
    rw [tree, Tree.value,
      collect_elementsOf items room true (by rw [depth] at h; omega) fun _ => rfl]
    rfl
  | .obj members, room, h => by
    obtain ⟨room, rfl⟩ := Nat.exists_eq_add_of_le' (show 1 ≤ room by rw [depth] at h; omega)
    rw [tree, Tree.value_object,
      walk_entriesOf members room true [] (by rw [depth] at h; omega) fun _ => rfl]
    rfl

/-- Only in front of an empty array may there be no comma. -/
theorem collect_elementsOf : ∀ (items : List Json) (room : Nat) (first : Bool),
    depthItems items ≤ room → (items = [] → first = true) →
      (elementsOf items).collect (Tree.value room) first = .ok (sortedItems items)
  | [], _, _, _, hfirst => by
    rw [hfirst rfl]
    rfl
  | [v], room, _, h, _ => by
    rw [depthItems] at h
    rw [elementsOf, Elements.collect, value_tree v room (by omega)]
    rfl
  | v :: w :: rest, room, _, h, _ => by
    rw [depthItems] at h
    have hrest := collect_elementsOf (w :: rest) room false (by omega) nofun
    simp only [elementsOf, Elements.collect, value_tree v room (by omega), Token.kind_ofKind, hrest]
    rfl

/-- Only in front of an empty object may there be no comma. -/
theorem walk_entriesOf : ∀ (members : List (String × Json)) (room : Nat) (first : Bool)
    (m : Members), depthMembers members ≤ room → (members = [] → first = true) →
      (entriesOf members).walk (insertValue room) first m = .ok (insertSorted m members, 0)
  | [], _, _, _, _, hfirst => by
    rw [hfirst rfl]
    rfl
  | [(k, v)], room, _, m, h, _ => by
    rw [depthMembers] at h
    have hstep : insertValue room m k (.ofKind .colon) v.tree = .ok (m.insert k v.sorted) :=
      insertValue_of_value rfl (value_tree v room (by omega))
    simp only [entriesOf, Entries.walk, Token.key_ofKind, hstep]
    rfl
  | (k, v) :: member :: rest, room, _, m, h, _ => by
    rw [depthMembers] at h
    have hstep : insertValue room m k (.ofKind .colon) v.tree = .ok (m.insert k v.sorted) :=
      insertValue_of_value rfl (value_tree v room (by omega))
    have hrest := walk_entriesOf (member :: rest) room false (m.insert k v.sorted) (by omega) nofun
    simp only [entriesOf, Entries.walk, Token.key_ofKind, hstep]
    exact hrest

end

/-- The members of an object are the entries that spell it, each with the tree of its value. -/
theorem keyed_entriesOf : ∀ members : List (String × Json),
    (entriesOf members).keyed = members.map fun member => (member.1, member.2.tree)
  | [] => rfl
  | [_] => rfl
  | (k, v) :: member :: rest => by
    rw [List.map_cons, ← keyed_entriesOf (member :: rest), entriesOf]
    · rfl
    · exact nofun

/-- The tree of an object has the tree of a key's value as its part. -/
theorem member?_tree_obj (m : Members) (key : String) :
    (Json.obj m).tree.member? key = (m.get? key).map tree := by
  rw [tree, Tree.member?, keyed_entriesOf]
  induction m with
  | nil => rfl
  | cons member m ih =>
    obtain ⟨k, v⟩ := member
    by_cases hkey : k = key
    · subst hkey
      simp [Members.get?]
    · rw [List.map_cons, lookup_cons_of_ne (Ne.symm hkey), ih, Members.get?, if_neg hkey]

/-- No key comes twice in the tree of an object in which none does. -/
theorem distinctKeys_tree_obj {m : Members} (h : (m.map Prod.fst).Nodup) :
    (Json.obj m).tree.DistinctKeys := by
  rw [tree, Tree.DistinctKeys, keyed_entriesOf, List.map_map]
  exact h

/-! ## Members in any order -/

namespace Members

variable {m m' members : Members} {key : String} {v : Json}

/-- A key has no value when no member has it. -/
theorem get?_eq_none_iff : m.get? key = none ↔ key ∉ m.map Prod.fst := by
  induction m with
  | nil => simp [get?]
  | cons member m ih =>
    obtain ⟨k, v⟩ := member
    by_cases hkey : k = key
    · simp [get?, hkey]
    · simpa [get?, hkey, Ne.symm hkey] using ih

/-- Where no key comes twice, a key has the value of the member with it. -/
theorem get?_eq_some_iff_mem (h : (m.map Prod.fst).Nodup) : m.get? key = some v ↔ (key, v) ∈ m := by
  induction m with
  | nil => simp [get?]
  | cons member m ih =>
    obtain ⟨k, w⟩ := member
    rw [List.map_cons, List.nodup_cons] at h
    by_cases hkey : k = key
    · subst hkey
      have hnot : (k, v) ∉ m := fun hmem => h.1 (List.mem_map.2 ⟨(k, v), hmem, rfl⟩)
      simp [get?, hnot, eq_comm]
    · simp [get?, hkey, Ne.symm hkey, ih h.2]

/-- Where no key comes twice, the order of the members makes no difference to a key. -/
theorem get?_eq_of_perm (hperm : m.Perm m') (h : (m'.map Prod.fst).Nodup) :
    m.get? key = m'.get? key := by
  have hm : (m.map Prod.fst).Nodup := (hperm.map Prod.fst).nodup_iff.2 h
  refine Option.ext fun v => ?_
  rw [get?_eq_some_iff_mem hm, get?_eq_some_iff_mem h, hperm.mem_iff]

/-- Where no key comes twice, a member that is set keeps its value, with its objects in order. -/
theorem get?_insertSorted (h : (members.map Prod.fst).Nodup) :
    get? key (insertSorted m members) = ((members.get? key).map sorted).or (m.get? key) := by
  induction members generalizing m with
  | nil => rfl
  | cons member members ih =>
    obtain ⟨k, v⟩ := member
    rw [List.map_cons, List.nodup_cons] at h
    rw [insertSorted, ih h.2]
    by_cases hkey : k = key
    · subst hkey
      rw [get?_eq_none_iff.2 h.1, get?_insert_self, get?, if_pos rfl]
      rfl
    · rw [get?_insert_of_ne _ _ (Ne.symm hkey), get?, if_neg hkey]

end Members

/-! ## Values in order -/

mutual

/-- The keys of every object in the value increase, so that none comes twice. -/
def Ordered : Json → Prop
  | .arr items => OrderedItems items
  | .obj members => (members.map Prod.fst).Pairwise (· < ·) ∧ OrderedMembers members
  | _ => True

/-- The keys of every object in the items increase. -/
def OrderedItems : List Json → Prop
  | [] => True
  | v :: rest => v.Ordered ∧ OrderedItems rest

/-- The keys of every object in the values of the members increase. -/
def OrderedMembers : List (String × Json) → Prop
  | [] => True
  | (_, v) :: rest => v.Ordered ∧ OrderedMembers rest

end

/-- A key that is greater than all others comes at the end. -/
theorem Members.insert_of_lt {m : Members} {k : String} {v : Json}
    (h : ∀ k' ∈ m.map Prod.fst, k' < k) : m.insert k v = m ++ [(k, v)] := by
  have hplace : m.place k v = m ++ [(k, v)] := by
    induction m with
    | nil => rfl
    | cons member m ih =>
      rw [List.map_cons, List.forall_mem_cons] at h
      rw [place, if_neg (String.lt_asymm h.1), ih h.2]
      rfl
  have hnew : k ∉ m.map Prod.fst := fun hmem => String.lt_irrefl k (h k hmem)
  rw [insert, (contains_eq_false_iff k m).2 (get?_eq_none_iff.2 hnew), hplace]
  rfl

mutual

/-- Values in order stay as they are. -/
theorem sorted_of_ordered : ∀ v : Json, v.Ordered → v.sorted = v
  | .null, _ | .bool _, _ | .num _, _ | .str _, _ => rfl
  | .arr items, h => by rw [sorted, sortedItems_of_ordered items h]
  | .obj members, h => by
    rw [sorted, insertSorted_of_ordered members [] h.2 (by simpa using h.1), List.nil_append]

/-- Ordered items are already as sorting would make them. -/
theorem sortedItems_of_ordered : ∀ items : List Json, OrderedItems items →
    sortedItems items = items
  | [], _ => rfl
  | v :: rest, h => by rw [sortedItems, sorted_of_ordered v h.1, sortedItems_of_ordered rest h.2]

/-- The members of an object in order are set one behind the other. -/
theorem insertSorted_of_ordered : ∀ members m : Members, OrderedMembers members →
    ((m ++ members).map Prod.fst).Pairwise (· < ·) → insertSorted m members = m ++ members
  | [], m, _, _ => by rw [insertSorted, List.append_nil]
  | (k, v) :: rest, m, h, hkeys => by
    have hlast : ∀ k' ∈ m.map Prod.fst, k' < k := by
      rw [List.map_append, List.pairwise_append] at hkeys
      exact fun k' hk' => hkeys.2.2 k' hk' k List.mem_cons_self
    rw [insertSorted, sorted_of_ordered v h.1, Members.insert_of_lt hlast]
    rw [List.append_cons m (k, v) rest] at hkeys ⊢
    exact insertSorted_of_ordered rest (m ++ [(k, v)]) h.2 hkeys

end

/-! ## Values that have been read -/

namespace Members

variable {m : Members} {key : String} {v : Json} {member : String × Json}

/-- Replacing a value keeps the keys and their order. -/
theorem map_fst_replace : (m.replace key v).map Prod.fst = m.map Prod.fst := by
  induction m with
  | nil => rfl
  | cons first m ih =>
    obtain ⟨k, w⟩ := first
    by_cases hkey : k = key
    · simp [replace, hkey]
    · simp [replace, hkey, ih]

/-- After a replacement a member has the new value, or was there before. -/
theorem mem_of_replace (h : member ∈ m.replace key v) : member.2 = v ∨ member ∈ m := by
  induction m with
  | nil => cases h
  | cons first m ih =>
    obtain ⟨k, w⟩ := first
    by_cases hkey : k = key
    · rw [replace, if_pos hkey] at h
      rcases List.mem_cons.1 h with rfl | h
      · exact .inl rfl
      · exact .inr (List.mem_cons_of_mem _ h)
    · rw [replace, if_neg hkey] at h
      rcases List.mem_cons.1 h with rfl | h
      · exact .inr List.mem_cons_self
      · exact (ih h).imp_right (List.mem_cons_of_mem _)

/-- After a member is put in its place it is there, besides those that were. -/
theorem mem_place : member ∈ m.place key v ↔ member = (key, v) ∨ member ∈ m := by
  induction m with
  | nil => exact List.mem_cons
  | cons first m ih =>
    obtain ⟨k, w⟩ := first
    rw [place]
    split
    · exact List.mem_cons
    · rw [List.mem_cons, ih, List.mem_cons, or_left_comm]

/-- A new key is placed where the keys still increase. -/
theorem pairwise_place (h : (m.map Prod.fst).Pairwise (· < ·)) (hnew : key ∉ m.map Prod.fst) :
    ((m.place key v).map Prod.fst).Pairwise (· < ·) := by
  induction m with
  | nil => exact List.pairwise_singleton _ _
  | cons first m ih =>
    obtain ⟨k, w⟩ := first
    obtain ⟨hfirst, hrest⟩ := List.pairwise_cons.1 h
    rw [List.map_cons, List.mem_cons, not_or] at hnew
    rw [place]
    split
    · next hlt =>
      exact List.pairwise_cons.2
        ⟨List.forall_mem_cons.2 ⟨hlt, fun k' hk' => String.lt_trans hlt (hfirst k' hk')⟩, h⟩
    · next hnot =>
      have hlt : k < key := Std.lt_of_le_of_ne (String.not_lt.1 hnot) (Ne.symm hnew.1)
      refine List.pairwise_cons.2 ⟨fun k' hk' => ?_, ih hrest hnew.2⟩
      obtain ⟨member, hmem, rfl⟩ := List.mem_map.1 hk'
      rcases mem_place.1 hmem with rfl | hmem
      · exact hlt
      · exact hfirst _ (List.mem_map_of_mem hmem)

end Members

/-- Items are ordered when each of them is. -/
theorem orderedItems_iff {items : List Json} : OrderedItems items ↔ ∀ v ∈ items, v.Ordered := by
  induction items with
  | nil => simp [OrderedItems]
  | cons v items ih => rw [OrderedItems, ih, List.forall_mem_cons]

/-- The values of some members are ordered when each of them is. -/
theorem orderedMembers_iff {members : List (String × Json)} :
    OrderedMembers members ↔ ∀ member ∈ members, member.2.Ordered := by
  induction members with
  | nil => simp [OrderedMembers]
  | cons member members ih =>
    obtain ⟨k, v⟩ := member
    rw [OrderedMembers, ih, List.forall_mem_cons]

/-- An object in order stays so when a key is set to a value in order. -/
theorem ordered_insert {m : Members} {key : String} {v : Json} (hm : (Json.obj m).Ordered)
    (hv : v.Ordered) : (Json.obj (m.insert key v)).Ordered := by
  obtain ⟨hkeys, hvalues⟩ := hm
  rw [orderedMembers_iff] at hvalues
  rw [Members.insert]
  split
  · refine ⟨by rwa [Members.map_fst_replace], orderedMembers_iff.2 fun member hmem => ?_⟩
    rcases Members.mem_of_replace hmem with rfl | hmem
    · exact hv
    · exact hvalues member hmem
  · next hnew =>
    have hnot : key ∉ m.map Prod.fst :=
      Members.get?_eq_none_iff.1 ((Members.contains_eq_false_iff key m).1 (by simpa using hnew))
    refine ⟨Members.pairwise_place hkeys hnot, orderedMembers_iff.2 fun member hmem => ?_⟩
    rcases Members.mem_place.1 hmem with rfl | hmem
    · exact hv
    · exact hvalues member hmem

/-- What holds of everything that is read holds of all elements. -/
theorem Elements.forall_of_collect {α : Type} {read : Tree → Except Fault α} {p : α → Prop}
    (hread : ∀ t a, read t = .ok a → p a) :
    ∀ {elements : Elements} {first : Bool} {items : List α},
      elements.collect read first = .ok items → ∀ a ∈ items, p a
  | .done t, first, items, h => by
    rw [collect] at h
    split at h
    · split_ifs at h
      cases h
      exact List.forall_mem_nil p
    · cases h
  | .cons v next rest, first, items, h => by
    rw [collect] at h
    split at h
    · cases h
    · next a ha =>
      split at h
      · cases h
        exact List.forall_mem_singleton.2 (hread v a ha)
      · obtain ⟨more, hmore, rfl⟩ := Except.map_eq_ok_iff.1 h
        exact List.forall_mem_cons.2 ⟨hread v a ha, forall_of_collect hread hmore⟩
      · cases h

/-- A value that is read from a tree is in order: its objects are built member by member. -/
theorem ordered_of_value {room : Nat} {t : Tree} {v : Json} (h : t.value room = .ok v) :
    v.Ordered := by
  induction room using Nat.strongRecOn generalizing t v with
  | ind room ih =>
    obtain ⟨token, rfl, hscalar⟩ | ⟨room, _, _, items, rfl, rfl, hitems, rfl⟩ |
      ⟨room, _, _, m, _, rfl, rfl, hwalk, rfl⟩ := Tree.value_cases h
    · cases v with
      | null | bool | num | str => trivial
      | arr | obj =>
        have hkind := begins_of_scalar hscalar
        simp only [Begins] at hkind
        simp only [Token.scalar, hkind] at hscalar
        cases hscalar
    · have hread (t : Tree) (v : Json) : t.value room = .ok v → v.Ordered :=
        ih room (Nat.lt_succ_self room)
      exact orderedItems_iff.2 (Elements.forall_of_collect hread hitems)
    · have hempty : (Json.obj []).Ordered := ⟨.nil, trivial⟩
      refine Entries.induction_of_walk (p := fun _ m => (Json.obj m).Ordered)
        hempty (fun _ m k colon t m' hm hstep => ?_) hwalk
      obtain ⟨_, -, hset⟩ := Except.bind_eq_ok_iff.1 hstep
      obtain ⟨v, hv, hset⟩ := Except.bind_eq_ok_iff.1 hset
      cases hset
      exact ordered_insert hm (ih room (Nat.lt_succ_self room) hv)

/-- An object that is read with free keys is in order. -/
theorem ordered_of_members {room : Nat} {t : Tree} {m : Members}
    (h : Reader.members room t = .ok m) : (Json.obj m).Ordered := by
  cases t with
  | leaf | array => cases h
  | object opening entries =>
    rw [Reader.members] at h
    split at h
    · next m' hvalue =>
      cases h
      exact ordered_of_value hvalue
    · cases h
      exact ⟨.nil, trivial⟩
    · cases h

end AgentPlan.Json
