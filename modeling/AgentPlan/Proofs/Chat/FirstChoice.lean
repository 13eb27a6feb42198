import AgentPlan.Proofs.Json.Forms
import AgentPlan.Chat.Exchange
import AgentPlan.Settings.Basic

/-!
# What a completion says

The text of a call is what the model said in the first choice of a completion: the content, or the
reasoning where the content is blank, absent or null. `firstSaid` finds both in the tree of the
body, in which a record may be an object or an array, and any part may be missing; they are the
texts of the reply (`reply_of_reader`). What becomes of them in a call is the text as it stands or a
failure, and a note that the reasoning was used exactly if it was (`complete_says_first_choice`).
-/

namespace AgentPlan

/-! ## Texts of replies -/

namespace Model

/-- Something is said that is not blank: a text of which trimming leaves something. -/
def Says (said : Option String) (text : String) : Prop :=
  said = some text ∧ Text.trim text ≠ ""

/-- Nothing is said, or a blank text. -/
def Silent (said : Option String) : Prop :=
  ∀ text, ¬ Says said text

namespace Reply

/-- What is visible of what was said is a text that says something. -/
theorem visible_eq_some_iff {said : Option String} {text : String} :
    visible said = some text ↔ Says said text := by
  rw [visible, Option.filter_eq_some_iff, Says, Bool.not_eq_true', ← Bool.not_eq_true,
    Text.blank_iff_trim_eq]

/-- Nothing is visible of what was said exactly if it says nothing. -/
theorem visible_eq_none_iff {said : Option String} : visible said = none ↔ Silent said := by
  simp only [Silent, ← visible_eq_some_iff, Option.eq_none_iff_forall_ne_some, ne_eq]

/-- The text of a reply is its content, or what was thought if the content is silent. -/
theorem output_eq_some_iff {r : Reply} {text : String} :
    r.output = some text ↔
      Says r.content text ∨ Silent r.content ∧ Says r.thinking text := by
  rw [output, Option.or_eq_some_iff, visible_eq_some_iff, visible_eq_none_iff, visible_eq_some_iff]

/-- A reply has no text if neither its content nor what was thought says something. -/
theorem output_eq_none_iff {r : Reply} :
    r.output = none ↔ Silent r.content ∧ Silent r.thinking := by
  rw [output, Option.or_eq_none_iff, visible_eq_none_iff, visible_eq_none_iff]

/-- What was thought is used where the content is silent and it is not. -/
theorem usesThinking_iff {r : Reply} :
    r.usesThinking = true ↔ Silent r.content ∧ ∃ text, Says r.thinking text := by
  rw [usesThinking, Bool.and_eq_true, Option.isNone_iff_eq_none, visible_eq_none_iff,
    Option.isSome_iff_exists]
  refine and_congr_right fun hsilent => exists_congr fun text => ?_
  rw [output_eq_some_iff]
  exact ⟨fun h => (h.resolve_left (hsilent text)).2, fun h => .inr ⟨hsilent, h⟩⟩

end Reply

end Model

namespace Chat

open Json (Tree Field Fields Reader)
open Model (Config Reply Says Silent)

/-! ## The first choice in a body -/

/-- The names of the fields of what a model said, in their order. -/
def Said.fieldNames : List String :=
  ["content", "reasoning_content"]

/-- The names of the fields of a choice, in their order. -/
def Choice.fieldNames : List String :=
  ["message", "finish_reason"]

/-- The names of the fields of a completion, in their order. -/
def Completion.fieldNames : List String :=
  ["model", "choices", "usage"]

/-- The first choice in the tree of a completion, if there is one. -/
def firstChoice? (t : Tree) : Option Tree :=
  ((t.named Completion.fieldNames).lookup "choices").bind Tree.first?

/-- The text with a name in what the model said in the first choice. There is none if a part on the
way to it is absent or null. -/
def firstSaid (name : String) (t : Tree) : Option String :=
  (firstChoice? t).bind fun choice =>
    (choice.part? Choice.fieldNames "message").bind fun said =>
      (said.part? Said.fieldNames name).bind Tree.text?

section
variable {room : Nat} {t : Tree}

/-- What follows from related values is the same if it is the same for any two of them. -/
theorem bind_eq_of_rel {α β γ : Type} {R : α → β → Prop} {o : Option α} {o' : Option β}
    {f : α → Option γ} {g : β → Option γ} (h : Option.Rel R o o')
    (hfg : ∀ a b, R a b → f a = g b) : o.bind f = o'.bind g := by
  cases h with
  | none => rfl
  | some h => exact hfg _ _ h

/-- A text that is read where it may be absent or null is the text of its part. -/
theorem part?_bind_text? {names : List String} {name : String} {text : Option String}
    (h : (Field.nullable name .text).gather room (t.named names) = some text) :
    (t.part? names name).bind Tree.text? = text := by
  rw [← Option.bind_fun_some text]
  refine bind_eq_of_rel (Field.rel_gather_nullable h) fun part read hread => ?_
  exact Except.toOption_eq_some_iff.2 hread

/-- What a model said is read part by part. -/
theorem parts_of_saidReader {said : Said} (h : Said.reader room t = .ok said) :
    (t.part? Said.fieldNames "content").bind Tree.text? = said.content ∧
      (t.part? Said.fieldNames "reasoning_content").bind Tree.text? = said.reasoning := by
  obtain ⟨⟨content, reasoning, _⟩, hrecord, rfl⟩ := Except.map_eq_ok_iff.1 h
  obtain ⟨-, hgather, -⟩ := Json.gather_of_record (by decide)
    (by exact ⟨nofun, nofun, trivial⟩) hrecord
  obtain ⟨hcontent, hgather⟩ := Fields.exists_of_gather hgather
  obtain ⟨hreasoning, -⟩ := Fields.exists_of_gather hgather
  exact ⟨part?_bind_text? hcontent, part?_bind_text? hreasoning⟩

/-- What the model said in a choice is read from its message. -/
theorem message_of_choiceReader {choice : Choice} (h : Choice.reader room t = .ok choice) :
    Option.Rel (fun part said => Said.reader (room - 1) part = .ok said)
      (t.part? Choice.fieldNames "message") choice.said := by
  obtain ⟨⟨said, stopped, _⟩, hrecord, rfl⟩ := Except.map_eq_ok_iff.1 h
  obtain ⟨-, hgather, -⟩ := Json.gather_of_record (by decide)
    (by exact ⟨nofun, nofun, trivial⟩) hrecord
  obtain ⟨hsaid, -⟩ := Fields.exists_of_gather hgather
  exact Field.rel_gather_nullable hsaid

/-- The first choice is read from the first one in the tree. -/
theorem firstChoice_of_reader {c : Completion} (h : Completion.reader room t = .ok c) :
    Option.Rel (fun part choice => Choice.reader (room - 1 - 1) part = .ok choice) (firstChoice? t)
      c.choices.head? := by
  obtain ⟨⟨model, choices, usage, _⟩, hrecord, rfl⟩ := Except.map_eq_ok_iff.1 h
  obtain ⟨-, hgather, -⟩ := Json.gather_of_record (by decide)
    (by exact ⟨fun _ => id, fun _ => id, nofun, trivial⟩) hrecord
  obtain ⟨-, hgather⟩ := Fields.exists_of_gather hgather
  have hchoices : (Field.withDefault "choices" (.list Choice.reader) []).gather (room - 1)
      (t.named Completion.fieldNames) = some choices := (Fields.exists_of_gather hgather).1
  rw [Field.gather] at hchoices
  dsimp only [Field.withDefault] at hchoices
  rw [firstChoice?]
  cases hlookup : (t.named Completion.fieldNames).lookup "choices" with
  | none =>
    rw [hlookup] at hchoices
    cases hchoices
    exact .none
  | some part =>
    rw [hlookup] at hchoices
    exact Reader.rel_first_list (Except.toOption_eq_some_iff.1 hchoices)

/-- **The texts of a reply.** They stand in the first choice, and nowhere else in the body. -/
theorem reply_of_reader {c : Completion} (h : Completion.reader room t = .ok c) :
    c.reply.content = firstSaid "content" t ∧
      c.reply.thinking = firstSaid "reasoning_content" t := by
  have hfirst := firstChoice_of_reader h
  have hchoice (name : String) (text : Said → Option String)
      (htext : ∀ {room : Nat} {part : Tree} {said : Said}, Said.reader room part = .ok said →
        (part.part? Said.fieldNames name).bind Tree.text? = text said) :
      (c.choices.head?.bind Choice.said).bind text = firstSaid name t := by
    rw [Option.bind_assoc]
    refine (bind_eq_of_rel hfirst fun part choice hpart => ?_).symm
    exact bind_eq_of_rel (message_of_choiceReader hpart) fun _ _ => htext
  exact ⟨hchoice _ _ fun hsaid => (parts_of_saidReader hsaid).1,
    hchoice _ _ fun hsaid => (parts_of_saidReader hsaid).2⟩

end

/-! ## What becomes of it in a call -/

/-- Choices after the first one make no difference to the reply. -/
theorem reply_take_one (c : Completion) :
    Completion.reply { c with choices := c.choices.take 1 } = c.reply := by
  simp [Completion.reply, List.head?_take]

section
variable {config : Config} {call : Model.Call} {arrival : Arrival} {status : Nat}
  {body : List UInt8} {c : Completion} {timeout delay : Nat}

/-- A call that is answered with a status from 200 to 299 and with a completion has its reply, and
notes nothing but that the completion was received. -/
theorem exchange_of_completion {q : Question} (hposted : (exchange config q arrival).posted.isSome)
    (harrival : arrival.settled = .answer status body) (hstatus : 200 ≤ status ∧ status ≤ 299)
    (hread : Completion.reader.runText (Text.decodeMarked body) = .ok c) :
    (exchange config q arrival).result = .ok c.reply ∧
      (exchange config q arrival).events = [.completionReceived config.provider.name status
        (Text.decodeMarked body).utf8ByteSize] := by
  obtain ⟨posted, hexchange⟩ := exchange_of_posted hposted
  have hsuccess : isSuccess status = true := by
    rw [isSuccess, Bool.and_eq_true, decide_eq_true_eq, decide_eq_true_eq]
    omega
  simp only [hexchange, harrival, received, arrivalEvents, hsuccess, replyIn, hread]
  exact ⟨rfl, rfl⟩

/-- A reply that comes in time is judged, and whether what was thought is used is noted. -/
theorem complete_of_reply (call : Model.Call) (reply : Reply) (hdelay : delay ≤ timeout)
    (rest : Model.Script) :
    let done := Model.complete timeout call (⟨.ok reply, delay⟩ :: rest)
    done.result = reply.toText.mapError (fun fault => .transport fault.message) ∧
      done.script = rest ∧ Happening.calls done.transcript = [call] ∧
      Happening.events done.transcript =
        if reply.usesThinking then [.thinkingUsed reply.model] else [] := by
  intro done
  have hlate : ¬ timeout < delay := Nat.not_lt.2 hdelay
  refine ⟨?_, rfl, ?_, ?_⟩
  · simp [done, Model.complete, Model.Script.next, Model.receive, hlate]
  · simp [done, Model.complete]
  · simp [done, Model.complete, Model.Script.next, Model.receiveEvents, hlate]

/-- **The text of a call is what the first choice says.** A call that is answered in time, with a
status from 200 to 299 and a body that is a completion, gives the content of the first choice as it
stands, or its reasoning as it stands if the content is silent, and fails if both are; what it gives
is never blank. It is one call, and takes one outcome of the script. That the reasoning was used is
noted exactly if it was, with the name of the model. All of this is the same without the choices
after the first one. Reference: `OpenAIProvider.parse_response` and `extract_response_text`. -/
theorem complete_says_first_choice
    (hposted : (exchange config (.ofCall call) arrival).posted.isSome)
    (harrival : arrival.settled = .answer status body) (hstatus : 200 ≤ status ∧ status ≤ 299)
    (hread : Completion.reader.runText (Text.decodeMarked body) = .ok c)
    (hdelay : delay ≤ timeout) (rest : Model.Script) :
    let t := (Json.Document.ofBytes (Text.Utf8.encode (Text.decodeMarked body))).tree
    let content := firstSaid "content" t
    let reasoning := firstSaid "reasoning_content" t
    let done := Model.complete timeout call (outcome config call arrival delay :: rest)
    (∀ text, done.result = .ok text ↔
      Says content text ∨ Silent content ∧ Says reasoning text) ∧
    (Silent content ∧ Silent reasoning → done.result =
      .error (.transport (Model.Fault.noText c.model c.reply.stopReason).message)) ∧
    (∀ text, done.result = .ok text → Text.trim text ≠ "") ∧
    (Happening.calls done.transcript = [call] ∧ done.script = rest) ∧
    (∀ model, .thinkingUsed model ∈ (exchange config (.ofCall call) arrival).events ++
        Happening.events done.transcript ↔
      model = c.model ∧ Silent content ∧ ∃ text, Says reasoning text) ∧
    done = Model.complete timeout call
      (⟨.ok (Completion.reply { c with choices := c.choices.take 1 }), delay⟩ :: rest) := by
  intro t content reasoning done
  obtain ⟨hresult, hevents⟩ := exchange_of_completion hposted harrival hstatus hread
  have hparts : c.reply.content = content ∧ c.reply.thinking = reasoning :=
    reply_of_reader (Except.toOption_eq_some_iff.1 (Json.run_eq_ok_iff.1 hread).1)
  rw [← hparts.1, ← hparts.2]
  have hdone : done = Model.complete timeout call (⟨.ok c.reply, delay⟩ :: rest) := by
    simp only [done, outcome, hresult]
  obtain ⟨hend, hscript, hcalls, hnoted⟩ := complete_of_reply call c.reply hdelay rest
  rw [← hdone] at hend hscript hcalls hnoted
  have htext (text : String) : done.result = .ok text ↔
      Says c.reply.content text ∨ Silent c.reply.content ∧ Says c.reply.thinking text := by
    rw [← Reply.output_eq_some_iff, hend, Except.mapError_eq_ok_iff, Reply.toText]
    cases c.reply.output <;> simp
  refine ⟨htext, ?_, ?_, ⟨hcalls, hscript⟩, ?_, ?_⟩
  · intro hsilent
    rw [hend, Reply.toText, Reply.output_eq_none_iff.2 hsilent]
    rfl
  · intro text hok
    rcases (htext text).1 hok with ⟨-, hvisible⟩ | ⟨-, -, hvisible⟩ <;> exact hvisible
  · intro model
    rw [hevents, hnoted, ← Reply.usesThinking_iff]
    cases c.reply.usesThinking <;> simp [Completion.reply]
  · rw [hdone, reply_take_one]

end

/-- Two choices, and a first one whose content is a space that no line breaks at: its reasoning is
the text of the call, spaces included, and this is noted. -/
theorem complete_says_first_choice_reasoning :
    let body := Text.Utf8.encode ("\x7b\"model\":\"m\",\"choices\":[\x7b\"message\":\x7b" ++
      "\"content\":\"\\u00a0\",\"reasoning_content\":\" yes \"\x7d\x7d," ++
      "\x7b\"message\":\x7b\"content\":\"no\"\x7d\x7d]\x7d")
    let config := { (Settings.withKey "gsk-1").config with baseUrl := some "http://[::]/" }
    let call : Model.Call := ⟨"s", "u"⟩
    let x := exchange config (.ofCall call) (.answer 200 body)
    let done := Model.complete 20000 call [outcome config call (.answer 200 body) 5]
    done.result = .ok " yes " ∧ Happening.calls done.transcript = [call] ∧
      .thinkingUsed "m" ∈ x.events ++ Happening.events done.transcript := by
  intro body config call x done
  let c : Completion := ⟨"m", [⟨some ⟨some "\u00a0", some " yes "⟩, none⟩,
    ⟨some ⟨some "no", none⟩, none⟩], none⟩
  have hread : (Completion.reader.runText (Text.decodeMarked body)).toOption = some c := by
    decide +kernel
  have hread : Completion.reader.runText (Text.decodeMarked body) = .ok c :=
    Except.toOption_eq_some_iff.1 hread
  have hposted : (exchange config (.ofCall call) (.answer 200 body)).posted.isSome = true := by
    decide +kernel
  obtain ⟨htext, -, -, ⟨hcalls, -⟩, hnoted, -⟩ := complete_says_first_choice hposted rfl
    (by decide) hread (show 5 ≤ 20000 by decide) []
  obtain ⟨hcontent, hreasoning⟩ :=
    reply_of_reader (Except.toOption_eq_some_iff.1 (Json.run_eq_ok_iff.1 hread).1)
  rw [← hcontent, ← hreasoning] at htext hnoted
  have hsilent : Silent c.reply.content := by
    rintro _ ⟨⟨⟩, hvisible⟩
    exact hvisible (by decide +kernel)
  have hsays : Says c.reply.thinking " yes " := ⟨rfl, by decide +kernel⟩
  exact ⟨(htext _).2 (.inr ⟨hsilent, hsays⟩), hcalls, (hnoted _).2 ⟨rfl, hsilent, _, hsays⟩⟩

end Chat

end AgentPlan
