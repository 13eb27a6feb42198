import AgentPlan.Proofs.Except
import AgentPlan.Proofs.Json.Parsed

/-!
# What has a value can be passed over

A token holds the results of two readings. They are made by one scan, so a number or a string that
has a value has no fault in the lax reading either (`Token.Kind.Sound`). The trees that are read
from the tokens of a text keep this (`sound_ofBytes`), and so a tree that has a value can be passed
over (`Tree.skip_of_value`).
-/

namespace AgentPlan.Json

/-! ## Sound tokens -/

/-- If it has a value in the strict reading, it has no fault in the lax one. -/
def Token.Kind.Sound : Token.Kind → Prop
  | .number strict lax => (∃ n, strict = .ok n) → lax = none
  | .text strict lax => (∃ s, strict = .ok s) → lax = none
  | _ => True

/-- All of the tokens are sound. -/
def SoundTokens (tokens : List Token) : Prop :=
  ∀ t ∈ tokens, t.kind.Sound

namespace Token

/-- Only parts that a quote ends stand for bytes. -/
theorem strict_eq_none_of_spell {ps : List Piece} {close : Close} {bytes : List UInt8}
    (h : spell ps close = .ok bytes) : close.strict = none := by
  fun_induction spell ps close generalizing bytes with
  | case2 close hnone => exact hnone
  | case3 | case4 | case6 | case11 =>
    next ih =>
    obtain ⟨_, hrest, -⟩ := Except.bind_eq_ok_iff.1 h
    exact ih hrest
  | case1 | case5 | case7 | case8 | case9 | case10 => cases h

/-- A string that stands for a text is one in the lax reading, too. -/
theorem lax_eq_none_of_spelled {ps : List Piece} {close : Close} {stop : Nat} {s : String}
    (h : spelled ps close stop = .ok s) : close.lax = none := by
  obtain ⟨bytes, hspell, -⟩ := Except.bind_eq_ok_iff.1 h
  have hstrict := strict_eq_none_of_spell hspell
  cases close with
  | quote => rfl
  | finish | control | badEscape | badHex => cases hstrict

/-- The token of a string is sound: what its strict reading accepts its lax reading accepts, too. -/
theorem sound_text (i finish : Nat) (rest : List UInt8) : (text i finish rest).kind.Sound :=
  fun ⟨_, h⟩ => lax_eq_none_of_spelled h

/-- The token of a number is sound: a numeral whose value is read has its grammar in order. -/
theorem sound_number (i finish : Nat) (bytes : List UInt8) :
    (number i finish bytes).kind.Sound := by
  rw [number]
  split
  · exact fun _ => rfl
  · exact fun ⟨_, h⟩ => nomatch h

/-- The token of a word is as sound as the kind of the whole word is: a broken word has one fault in
both readings. -/
theorem sound_wordToken {kind : Kind} (hkind : kind.Sound) (expected : List UInt8)
    (i finish : Nat) (rest : List UInt8) :
    (wordToken kind expected i finish rest).kind.Sound := by
  rw [wordToken]
  split
  · exact hkind
  · trivial

/-- A token that is one of two sound ones is sound. -/
theorem sound_ite {c : Prop} [Decidable c] {t u : Token} (ht : t.kind.Sound) (hu : u.kind.Sound) :
    (if c then t else u).kind.Sound := by
  split <;> assumption

/-- The token that starts with a byte is sound, by cases of the byte. -/
theorem sound_first (i : Nat) (b : UInt8) (rest : List UInt8) : (first i b rest).kind.Sound := by
  have hnull : Kind.null.Sound := trivial
  have hbool (b : Bool) : (Kind.bool b).Sound := trivial
  exact sound_ite trivial <| sound_ite trivial <| sound_ite trivial <| sound_ite trivial <|
    sound_ite trivial <| sound_ite trivial <| sound_ite (sound_text i _ rest) <|
    sound_ite (sound_wordToken hnull _ i _ rest) <|
    sound_ite (sound_wordToken (hbool true) _ i _ rest) <|
    sound_ite (sound_wordToken (hbool false) _ i _ rest) <| sound_ite (sound_number i _ _) trivial

/-- The tokens of some bytes are sound, wherever among the bytes one starts. -/
theorem sound_listFrom (skip i : Nat) (bytes : List UInt8) :
    SoundTokens (listFrom skip i bytes) := by
  fun_induction listFrom skip i bytes with
  | case1 => exact fun _ h => nomatch h
  | case2 _ _ _ _ ih | case3 _ _ _ _ ih => exact ih
  | case4 i b rest _ t ih =>
    exact List.forall_mem_cons.2 ⟨sound_first i b rest, ih⟩

/-- The tokens of a text are sound. -/
theorem sound_list (bytes : List UInt8) : SoundTokens (list bytes) :=
  sound_listFrom 0 0 bytes

end Token

/-! ## Sound trees -/

mutual

/-- The tokens of a tree are sound, and those before elements and entries open an array or an
object. -/
def Tree.Sound : Tree → Prop
  | .leaf t => t.kind.Sound
  | .array t elements => t.kind = .openBracket ∧ elements.Sound
  | .object t entries => t.kind = .openBrace ∧ entries.Sound

/-- The elements are sound. -/
def Elements.Sound : Elements → Prop
  | .done _ => True
  | .cons v _ rest => v.Sound ∧ rest.Sound

/-- The keys and values are sound. -/
def Entries.Sound : Entries → Prop
  | .done _ => True
  | .cons key _ v _ rest => key.kind.Sound ∧ v.Sound ∧ rest.Sound

end

/-- What follows the first of some sound tokens is sound. -/
theorem SoundTokens.tail {tokens : List Token} (h : SoundTokens tokens) :
    SoundTokens tokens.tail :=
  fun t ht => h t (List.mem_of_mem_tail ht)

section
variable {finish : Token}

mutual

/-- What is read from sound tokens is sound, and so are the tokens after it. -/
theorem Tree.sound_read (hfinish : finish.kind.Sound) :
    ∀ (fuel : Nat) (tokens : List Token), SoundTokens tokens →
      (Tree.read finish fuel tokens).1.Sound ∧ SoundTokens (Tree.read finish fuel tokens).2
  | 0, _, h => ⟨hfinish, h⟩
  | _ + 1, [], h => ⟨hfinish, h⟩
  | fuel + 1, t :: rest, h => by
    obtain ⟨ht, hrest⟩ := List.forall_mem_cons.1 h
    rw [Tree.read]
    split
    · next hkind =>
      obtain ⟨helements, hafter⟩ := Elements.sound_read hfinish fuel rest hrest
      exact ⟨⟨hkind, helements⟩, hafter⟩
    · next hkind =>
      obtain ⟨hentries, hafter⟩ := Entries.sound_read hfinish fuel rest hrest
      exact ⟨⟨hkind, hentries⟩, hafter⟩
    · exact ⟨ht, hrest⟩

/-- The elements that are read from sound tokens are sound, and so are the tokens after them. -/
theorem Elements.sound_read (hfinish : finish.kind.Sound) :
    ∀ (fuel : Nat) (tokens : List Token), SoundTokens tokens →
      (Elements.read finish fuel tokens).1.Sound ∧
        SoundTokens (Elements.read finish fuel tokens).2
  | 0, _, h => ⟨trivial, h⟩
  | _ + 1, [], h => ⟨trivial, h⟩
  | fuel + 1, t :: rest, h => by
    obtain ⟨hvalue, hafter⟩ := Tree.sound_read hfinish fuel (t :: rest) h
    rw [Elements.read]
    split
    · exact ⟨trivial, (List.forall_mem_cons.1 h).2⟩
    · dsimp only
      split
      · obtain ⟨hmore, hend⟩ := Elements.sound_read hfinish fuel _ hafter.tail
        exact ⟨⟨hvalue, hmore⟩, hend⟩
      · exact ⟨⟨hvalue, trivial⟩, hafter.tail⟩

/-- The entries that are read from sound tokens are sound, and so are the tokens after them. -/
theorem Entries.sound_read (hfinish : finish.kind.Sound) :
    ∀ (fuel : Nat) (tokens : List Token), SoundTokens tokens →
      (Entries.read finish fuel tokens).1.Sound ∧ SoundTokens (Entries.read finish fuel tokens).2
  | 0, _, h => ⟨trivial, h⟩
  | _ + 1, [], h => ⟨trivial, h⟩
  | fuel + 1, t :: rest, h => by
    obtain ⟨ht, hrest⟩ := List.forall_mem_cons.1 h
    rw [Entries.read]
    split
    · obtain ⟨hvalue, hafter⟩ := Tree.sound_read hfinish fuel _ (SoundTokens.tail hrest)
      dsimp only
      split
      · obtain ⟨hmore, hend⟩ := Entries.sound_read hfinish fuel _ hafter.tail
        exact ⟨⟨ht, hvalue, hmore⟩, hend⟩
      · exact ⟨⟨ht, hvalue, trivial⟩, hafter.tail⟩
    · exact ⟨trivial, hrest⟩

end

end

/-- The tree of a text is sound. -/
theorem sound_ofBytes (bytes : List UInt8) : (Document.ofBytes bytes).tree.Sound := by
  have hfinish : (Token.ending bytes.length).kind.Sound := trivial
  simp only [Document.ofBytes]
  exact (Tree.sound_read hfinish _ _ (Token.sound_list bytes)).1

/-! ## Passing over what has a value -/

/-- A sound token that is read as a value is passed over without a fault. -/
theorem Token.skip_of_scalar {t : Token} {v : Json} (ht : t.kind.Sound) (h : t.scalar = .ok v) :
    t.skip = .ok () := by
  rw [scalar] at h
  rw [skip]
  cases hkind : t.kind with
  | null | bool => rfl
  | number strict lax | text strict lax =>
    rw [hkind] at h ht
    obtain ⟨value, hvalue, -⟩ := Except.map_eq_ok_iff.1 h
    obtain rfl : lax = none := ht ⟨value, hvalue⟩
    rfl
  | _ =>
    rw [hkind] at h
    cases h

/-- A key that has a text can be passed over. -/
theorem Token.skip_of_key {t : Token} {k : String} (ht : t.kind.Sound) (h : t.key = .ok k) :
    t.skip = .ok () := by
  rw [key] at h
  rw [skip]
  cases hkind : t.kind with
  | text strict lax =>
    rw [hkind] at h ht
    obtain rfl : lax = none := ht ⟨k, h⟩
    rfl
  | _ => simp only [hkind] at h; cases h

/-- Elements that are read one by one can be passed over, if what is read can be. -/
theorem Elements.skip_of_collect {α : Type} {read : Tree → Except Fault α}
    (hread : ∀ v a, v.Sound → read v = .ok a → v.skip = .ok ()) :
    ∀ (elements : Elements) (first : Bool) (items : List α), elements.Sound →
      elements.collect read first = .ok items → elements.skip first = .ok ()
  | .done t, first, items, _, h => by
    rw [collect] at h
    rw [skip]
    split at h
    · split_ifs at h with hfirst
      rw [if_pos hfirst]
    · cases h
  | .cons v next rest, first, items, hsound, h => by
    obtain ⟨hv, hrest⟩ := hsound
    rw [collect] at h
    rw [skip]
    split at h
    · cases h
    · next a ha =>
      rw [hread v a hv ha]
      split at h
      · rfl
      · obtain ⟨more, hmore, -⟩ := Except.map_eq_ok_iff.1 h
        exact skip_of_collect hread rest false more hrest hmore
      · cases h

/-- Entries that are walked through can be passed over, if every step passes a colon and a value
that can be. -/
theorem Entries.skip_of_walk {σ : Type} {step : σ → String → Token → Tree → Except Fault σ}
    (hstep : ∀ s k colon v s', v.Sound → step s k colon v = .ok s' →
      colon.expectColon = .ok () ∧ v.skip = .ok ()) :
    ∀ (entries : Entries) (first : Bool) (s : σ) (r : σ × Nat), entries.Sound →
      entries.walk step first s = .ok r → entries.skip first = .ok ()
  | .done t, first, s, r, _, h => by
    rw [walk] at h
    rw [skip]
    split at h
    · split_ifs at h with hfirst
      rw [if_pos hfirst]
    · cases h
    · cases h
  | .cons key colon v next rest, first, s, r, hsound, h => by
    obtain ⟨hkey, hv, hrest⟩ := hsound
    rw [walk] at h
    rw [skip]
    split at h
    · cases h
    · next k hk =>
      split at h
      · cases h
      · next s' hs' =>
        obtain ⟨hcolon, hskip⟩ := hstep s k colon v s' hv hs'
        rw [Token.skip_of_key hkey hk, hcolon, hskip]
        split at h
        · rfl
        · exact skip_of_walk hstep rest false s' r hrest h
        · cases h

/-- A tree that has a value is a token with this value, an array whose elements are read as the
items, or an object whose entries are read as the members. -/
theorem Tree.value_cases {room : Nat} {t : Tree} {v : Json} (h : t.value room = .ok v) :
    (∃ token, t = .leaf token ∧ token.scalar = .ok v) ∨
    (∃ room' opening elements items, room = room' + 1 ∧ t = .array opening elements ∧
      elements.collect (Tree.value room') true = .ok items ∧ v = .arr items) ∨
    ∃ room' opening entries m stop, room = room' + 1 ∧ t = .object opening entries ∧
      entries.walk (insertValue room') true [] = .ok (m, stop) ∧ v = .obj m := by
  cases t with
  | leaf token => cases room <;> exact .inl ⟨token, rfl, h⟩
  | array opening elements =>
    cases room with
    | zero => cases h
    | succ room =>
      obtain ⟨items, hitems, rfl⟩ := Except.map_eq_ok_iff.1 h
      exact .inr (.inl ⟨room, opening, elements, items, rfl, rfl, hitems, rfl⟩)
  | object opening entries =>
    cases room with
    | zero => cases h
    | succ room =>
      rw [Tree.value_object] at h
      obtain ⟨⟨m, stop⟩, hwalk, rfl⟩ := Except.map_eq_ok_iff.1 h
      exact .inr (.inr ⟨room, opening, entries, m, stop, rfl, rfl, hwalk, rfl⟩)

/-- A sound tree that has a value can be passed over. -/
theorem Tree.skip_of_value {room : Nat} {t : Tree} {v : Json} (ht : t.Sound)
    (h : t.value room = .ok v) : t.skip = .ok () := by
  induction room using Nat.strongRecOn generalizing t v with
  | ind room ih =>
    obtain ⟨token, rfl, hscalar⟩ | ⟨room, opening, elements, items, rfl, rfl, hitems, -⟩ |
      ⟨room, opening, entries, m, stop, rfl, rfl, hwalk, -⟩ := Tree.value_cases h
    · exact Token.skip_of_scalar ht hscalar
    · exact Elements.skip_of_collect (fun v a hv ha => ih room (Nat.lt_succ_self room) hv ha)
        elements true items ht.2 hitems
    · refine Entries.skip_of_walk (fun m k colon v m' hv hm' => ?_) entries true [] _ ht.2 hwalk
      obtain ⟨_, hcolon, hrest⟩ := Except.bind_eq_ok_iff.1 hm'
      obtain ⟨a, ha, -⟩ := Except.bind_eq_ok_iff.1 hrest
      exact ⟨hcolon, ih room (Nat.lt_succ_self room) hv ha⟩

end AgentPlan.Json
