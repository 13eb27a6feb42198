import AgentPlan.Extract
import AgentPlan.Proofs.Text.Ends

/-!
# What is read from a reply

A reply is read as a whole, or else from its first opening brace to its last closing brace
(`IsBraced`, `braced?_eq_some_iff`). Blank ends of the reply make no difference to that piece, and
what is read from it can only be an object (`Json.exists_obj_of_parse`). So an object is found
between any words without braces (`value_wrapped`), and nothing is read but what stands in one piece
of the reply (`value_from_piece`).
-/

namespace AgentPlan

/-! ## Texts that begin with a brace -/

namespace Json

/-- The value of a text is the value of its tree. -/
theorem value_of_parse {text : String} {v : Json} (h : parse text = .ok v) :
    (Document.ofBytes (Text.Utf8.encode text)).tree.value depthLimit = .ok v := by
  rw [parse, parseBytes, Document.readWith] at h
  cases hvalue : (Document.ofBytes (Text.Utf8.encode text)).tree.value depthLimit with
  | error f =>
    rw [hvalue] at h
    cases h
  | ok w =>
    rw [hvalue] at h
    simp only [bind, Except.bind] at h
    split at h
    · cases h
      rfl
    · cases h

/-- The tree of a text that begins with an opening brace is an object. -/
theorem exists_object_of_openBrace {text : String} (h : text.toList.head? = some '\x7b') :
    ∃ opening entries,
      (Document.ofBytes (Text.Utf8.encode text)).tree = .object opening entries := by
  obtain ⟨cs, hcs⟩ := List.head?_eq_some_iff.1 h
  have hbytes : Text.Utf8.encode text = 0x7b :: cs.flatMap String.utf8EncodeChar := by
    rw [Text.Utf8.encode, hcs, List.flatMap_cons]
    rfl
  have htokens : Token.list (Text.Utf8.encode text) =
      ⟨.openBrace, 0, 1⟩ :: Token.listFrom 0 1 (cs.flatMap String.utf8EncodeChar) := by
    rw [hbytes]
    rfl
  rw [Document.ofBytes, htokens]
  exact ⟨_, _, rfl⟩

/-- **What is read from a text that begins with an opening brace is an object.** -/
theorem exists_obj_of_parse {text : String} {v : Json} (hopen : text.toList.head? = some '\x7b')
    (h : parse text = .ok v) : ∃ m, v = .obj m := by
  obtain ⟨opening, entries, htree⟩ := exists_object_of_openBrace hopen
  have hvalue := value_of_parse h
  rw [htree, depthLimit, Tree.value] at hvalue
  generalize entries.walk _ true _ = walked at hvalue
  cases walked with
  | error f => cases hvalue
  | ok r =>
    cases hvalue
    exact ⟨r.1, rfl⟩

end Json

namespace Extract

/-! ## The braced piece -/

/-- The piece reaches from the first opening brace of the text to its last closing brace. -/
def IsBraced (piece text : List Char) : Prop :=
  ∃ before after, text = before ++ piece ++ after ∧ '\x7b' ∉ before ∧ '\x7d' ∉ after ∧
    piece.head? = some '\x7b' ∧ piece.getLast? = some '\x7d'

/-- The piece that is looked for. -/
theorem braced?_eq (cs : List Char) : braced? cs =
    if (Text.inner (· ≠ '\x7b') (· ≠ '\x7d') cs).isEmpty then none
    else some (Text.inner (· ≠ '\x7b') (· ≠ '\x7d') cs) := rfl

/-- The piece that is found reaches from the first opening brace to the last closing brace, and such
a piece is always found. -/
theorem braced?_eq_some_iff {piece cs : List Char} :
    braced? cs = some piece ↔ IsBraced piece cs := by
  rw [braced?_eq]
  constructor
  · intro h
    split at h
    · cases h
    · next hne =>
      cases h
      rw [List.isEmpty_iff] at hne
      obtain ⟨before, after, hcs, hbefore, hafter⟩ := Text.exists_inner _ _ cs
      obtain ⟨a, hhead, ha⟩ := Text.exists_head?_inner hne
      obtain ⟨b, hlast, hb⟩ := Text.exists_getLast?_inner hne
      simp only [ne_eq, decide_not, Bool.not_eq_false', decide_eq_true_eq] at ha hb
      subst ha hb
      refine ⟨before, after, hcs, fun hmem => ?_, fun hmem => ?_, hhead, hlast⟩
      · simpa using hbefore _ hmem
      · simpa using hafter _ hmem
  · rintro ⟨before, after, rfl, hbefore, hafter, hhead, hlast⟩
    have hinner : Text.inner (· ≠ '\x7b') (· ≠ '\x7d') (before ++ piece ++ after) = piece := by
      refine Text.inner_between (fun a ha => ?_) hhead (by decide) hlast (by decide)
        (fun a ha => ?_)
      · exact decide_eq_true (ne_of_mem_of_not_mem ha hbefore)
      · exact decide_eq_true (ne_of_mem_of_not_mem ha hafter)
    rw [hinner, if_neg]
    rw [List.isEmpty_iff]
    rintro rfl
    cases hhead

/-- Blank characters at the ends of a text make no difference to its piece between braces. -/
theorem braced?_trimChars (cs : List Char) : braced? (Text.trimChars cs) = braced? cs := by
  obtain ⟨before, after, hcs, hbefore, hafter⟩ := Text.exists_inner Text.isBlank Text.isBlank cs
  have hvisible {a c : Char} (ha : Text.isBlank a = true) (hc : Text.isBlank c = false) :
      a ≠ c := by
    rintro rfl
    rw [ha] at hc
    cases hc
  have hinner : Text.inner (· ≠ '\x7b') (· ≠ '\x7d') (before ++ Text.trimChars cs ++ after) =
      Text.inner (· ≠ '\x7b') (· ≠ '\x7d') (Text.trimChars cs) := by
    refine Text.inner_append ?_ ?_ ?_
    · exact fun a ha => decide_eq_true (hvisible (hbefore a ha) (by decide))
    · exact fun a ha => decide_eq_true (hvisible (hafter a ha) (by decide))
    · exact fun a ha => decide_eq_true (hvisible (hafter a ha) (by decide))
  have hwhole : before ++ Text.trimChars cs ++ after = cs := hcs.symm
  rw [braced?_eq, braced?_eq, ← hinner, hwhole]

/-- The piece between braces of a trimmed reply is the one of the reply. -/
theorem braced?_trim_eq_some_iff {piece : List Char} {reply : String} :
    braced? (Text.trim reply).toList = some piece ↔ IsBraced piece reply.toList := by
  rw [Text.trim, String.toList_ofList, braced?_trimChars, braced?_eq_some_iff]

/-! ## Replies -/

/-- **A reply is read from one of two pieces**: the value is that of the trimmed reply, or else, if
this is not JSON, that of the piece between the braces of the reply. -/
theorem value_eq_ok_iff {reply : String} {v : Json} :
    value reply = .ok v ↔ Json.parse (Text.trim reply) = .ok v ∨
      (∀ w, Json.parse (Text.trim reply) ≠ .ok w) ∧
        ∃ piece : String, IsBraced piece.toList reply.toList ∧ Json.parse piece = .ok v := by
  simp only [value]
  cases hwhole : Json.parse (Text.trim reply) with
  | ok w => simp
  | error message =>
    cases hbraced : braced? (Text.trim reply).toList with
    | some cs =>
      show Json.parse (String.ofList cs) = .ok v ↔ _
      have hpiece := braced?_trim_eq_some_iff.1 hbraced
      constructor
      · intro h
        exact .inr ⟨nofun, String.ofList cs, by rwa [String.toList_ofList], h⟩
      · rintro (h | ⟨-, piece, hother, h⟩)
        · cases h
        · rw [← braced?_trim_eq_some_iff, hbraced, Option.some_inj] at hother
          rwa [hother, String.ofList_toList]
    | none =>
      constructor
      · intro h
        cases h
      · rintro (h | ⟨-, piece, hother, -⟩)
        · cases h
        · rw [← braced?_trim_eq_some_iff, hbraced] at hother
          cases hother

/-- An opening brace is visible, and so is a closing brace. -/
theorem isBlank_brace : Text.isBlank '\x7b' = false ∧ Text.isBlank '\x7d' = false := by
  decide

/-- **An object between other words is found.** A text that is JSON and reaches from one brace to
another is read from every reply in which no opening brace stands before it and no closing brace
behind it, unless the reply is JSON as a whole. Between blank texts it is always read. Reference:
`parse_model_json` and `extract_json_object`. -/
theorem value_wrapped {text : String} {v : Json} (hopen : text.toList.head? = some '\x7b')
    (hclose : text.toList.getLast? = some '\x7d') (hparse : Json.parse text = .ok v) :
    (∀ before after : String, '\x7b' ∉ before.toList → '\x7d' ∉ after.toList →
      (∀ w, Json.parse (Text.trim (before ++ text ++ after)) ≠ .ok w) →
      value (before ++ text ++ after) = .ok v) ∧
    ∀ before after : String, Text.blank before = true → Text.blank after = true →
      value (before ++ text ++ after) = .ok v := by
  constructor
  · intro before after hbefore hafter hwhole
    refine value_eq_ok_iff.2 (.inr ⟨hwhole, text, ?_, hparse⟩)
    refine ⟨before.toList, after.toList, ?_, hbefore, hafter, hopen, hclose⟩
    rw [String.toList_append, String.toList_append]
  · intro before after hbefore hafter
    refine value_eq_ok_iff.2 (.inl ?_)
    rw [Text.trim_between hbefore hopen isBlank_brace.1 hclose isBlank_brace.2 hafter, hparse]

/-- An object with braces in its strings, in a fence and between blank lines. -/
theorem value_wrapped_fenced :
    let text := "\x7b\"a\": \"\x7d \x7b\", \"b\": []\x7d"
    let v := Json.obj [("a", .str "\x7d \x7b"), ("b", .arr [])]
    Json.parse text = .ok v ∧ value ("Sure — here:\n```json\n" ++ text ++ "\n```") = .ok v ∧
      value ("\n\u2003" ++ text ++ " \r\n") = .ok v := by
  intro text v
  have hparse : Json.parse text = .ok v := by decide +kernel
  have hwhole : ∀ o, Json.parse (Text.trim ("Sure — here:\n```json\n" ++ text ++ "\n```")) = o →
      o.toBool = false := by
    rintro _ rfl
    decide +kernel
  have hopen : text.toList.head? = some '\x7b' := by decide
  have hclose : text.toList.getLast? = some '\x7d' := by decide
  obtain ⟨hwrapped, hblank⟩ := value_wrapped hopen hclose hparse
  refine ⟨hparse, hwrapped _ _ (by decide) (by decide) fun w hw => ?_,
    hblank _ _ (by decide) (by decide)⟩
  cases hwhole _ hw

/-- **Nothing is read but what stands in the reply.** A value is what one piece of the reply is
parsed as, and this piece is the trimmed reply unless the value is an object. A reply from which
nothing is read is not JSON when it is trimmed, and neither is its piece between braces. So a reply
that is not JSON as a whole can only yield an object. Reference: `parse_model_json` and
`extract_json_object`. -/
theorem value_from_piece (reply : String) :
    (∀ v, value reply = .ok v → ∃ before piece after : String, reply = before ++ piece ++ after ∧
      Json.parse piece = .ok v ∧ (piece = Text.trim reply ∨ ∃ m, v = .obj m)) ∧
    (∀ message, value reply = .error message →
      (∀ w, Json.parse (Text.trim reply) ≠ .ok w) ∧
      ∀ piece : String, IsBraced piece.toList reply.toList → ∀ w, Json.parse piece ≠ .ok w) ∧
    ((∀ w, Json.parse (Text.trim reply) ≠ .ok w) →
      ∀ v, value reply = .ok v → ∃ m, v = .obj m) := by
  refine ⟨fun v h => ?_, fun message h => ⟨fun w hw => ?_, fun piece hpiece w hw => ?_⟩,
    fun hwhole v h => ?_⟩
  · rcases value_eq_ok_iff.1 h with h | ⟨-, piece, hpiece, h⟩
    · obtain ⟨before, after, hreply, -, -⟩ := Text.exists_trim reply
      exact ⟨before, Text.trim reply, after, hreply, h, .inl rfl⟩
    · obtain ⟨before, after, hreply, -, -, hopen, -⟩ := hpiece
      refine ⟨String.ofList before, piece, String.ofList after, ?_, h,
        .inr (Json.exists_obj_of_parse hopen h)⟩
      rw [← String.toList_inj]
      simpa using hreply
  · rw [value_eq_ok_iff.2 (.inl hw)] at h
    cases h
  · by_cases hwhole : ∃ w, Json.parse (Text.trim reply) = .ok w
    · obtain ⟨w, hw⟩ := hwhole
      rw [value_eq_ok_iff.2 (.inl hw)] at h
      cases h
    · rw [value_eq_ok_iff.2 (.inr ⟨not_exists.1 hwhole, piece, hpiece, hw⟩)] at h
      cases h
  · rcases value_eq_ok_iff.1 h with h | ⟨-, piece, ⟨_, _, -, -, -, hopen, -⟩, h⟩
    · exact absurd h (hwhole v)
    · exact Json.exists_obj_of_parse hopen h

end Extract

end AgentPlan
