import AgentPlan.Chat.Exchange
import AgentPlan.Proofs.Planner.Dialogue
import AgentPlan.Settings.Basic
import Mathlib.Tactic.SplitIfs

/-!
# Calls that end a run

A call that gets no text ends the run in which it is made, whether it asks for a draft or for a
repair: its failure is the result, and nothing happens after it but that a failed planning call is
noted (`run_endsWith`). What a provider answers with a status outside of 200 to 299 is such a call.
Its error is the one that the status reports (`Chat.refusal_statusError`), so no body makes a plan
of it (`Chat.refusal_ends_run`).
-/

namespace AgentPlan

variable {ρ : Type}

/-! ## Calls without a text -/

section
variable {timeout : Nat} {fault : Model.Fault}

/-- Nothing is noted of a call that gets no text. -/
theorem Model.receiveEvents_of_fault {o : Outcome} (h : receive timeout o = .error fault) :
    receiveEvents timeout o = [] := by
  rw [receive] at h
  rw [receiveEvents]
  split
  · rfl
  · next hlate =>
    rw [if_neg hlate] at h
    cases hresult : o.result with
    | error e => rfl
    | ok reply =>
      simp only [hresult, Reply.toText] at h
      split at h
      · cases h
      · next hnone => simp [Reply.usesThinking, hnone]

/-- A call that gets no text is all that happens in it. -/
theorem Model.transcript_of_fault {call : Call} {script : Script}
    (h : receive timeout script.next.1 = .error fault) :
    (complete timeout call script).transcript = [.called call] := by
  show Happening.called call :: (receiveEvents timeout script.next.1).map _ = _
  rw [receiveEvents_of_fault h]
  rfl

/-- A repair by the model fails with its call. -/
theorem Repairer.model_of_fault {script : Model.Script} {i : Nat} {document defect : String}
    (h : Model.receive timeout (script.outcome i) = .error fault) :
    model timeout document defect ⟨script.drop i, ()⟩ =
      ⟨.error (.transport fault.message), ⟨script.drop (i + 1), ()⟩,
        [.called ⟨Prompt.repairInstruction, Prompt.repair document defect⟩]⟩ := by
  have hnext := script.next_drop i
  have hreceive : Model.receive timeout (Model.Script.next (script.drop i)).1 = .error fault := by
    rw [hnext, h]
  simp only [model, Model.complete_result_of_fault hreceive, Model.transcript_of_fault hreceive,
    Model.complete_script, hnext]

end

/-! ## Last calls -/

/-- The run ends with a call: with its failure, after `made` other calls, with `left` not taken from
the script, and with nothing but `later` happening after the call. -/
structure Run.EndsWith (call : Model.Call) (made : Nat) (left : Model.Script) (failure : Failure)
    (later : List Happening) (r : Run ρ) : Prop where
  result : r.result = .error failure
  script : r.session.script = left
  transcript : ∃ before, r.transcript = before ++ .called call :: later ∧
    (Happening.calls before).length = made

/-- What happened before a run comes before its last call. -/
theorem Run.EndsWith.after {call : Model.Call} {made total : Nat} {left : Model.Script}
    {failure : Failure} {later : List Happening} {r : Run ρ}
    (h : r.EndsWith call made left failure later) (happened : List Happening)
    (htotal : (Happening.calls happened).length + made = total) :
    (r.after happened).EndsWith call total left failure later where
  result := h.result
  script := h.script
  transcript := by
    obtain ⟨before, htranscript, hmade⟩ := h.transcript
    refine ⟨happened ++ before, ?_, ?_⟩
    · rw [Run.after_transcript, htranscript, List.append_assoc]
    · rw [Happening.calls_append, List.length_append, hmade, htotal]

namespace Planner

/-- Whoever repairs, a run whose planning call gets no text ends with this call. -/
theorem run_endsWith_firstCall (p : Planner ρ) (request : Request) (session : Session ρ)
    {fault : Model.Fault} (h : Model.receive p.timeout session.script.next.1 = .error fault) :
    (p.run request session).EndsWith (p.firstCall request) 0 session.script.next.2
      (.transport fault.message) [.logged (.planningFailed fault.message)] := by
  rw [run_of_fault h]
  refine ⟨rfl, rfl,
    [.logged (.drafting request.maxSteps (request.clamp p.ceiling).maxSteps)], ?_, rfl⟩
  simp only [drafted, Model.transcript_of_fault h]
  rfl

variable {script : Model.Script}

/-- Rounds end with the first repair whose call gets no text. -/
theorem rounds_endsWith (timeout : Nat) (request : Request) (s : State Unit) :
    ∀ (i j : Nat) (call : Model.Call) (fault : Model.Fault), s.session = ⟨script.drop i, ()⟩ →
      (Happening.calls (rounds (.model timeout) request s).transcript)[j]? = some call →
      Model.receive timeout (script.outcome (i + j)) = .error fault →
      (rounds (.model timeout) request s).EndsWith call j (script.drop (i + j + 1))
        (.transport fault.message) [] := by
  -- The next outcome of the script, the one with the index `i`, is that of the next repair, and `j`
  -- other repairs come before the one whose call fails.
  induction s using rounds_induction (.model timeout) request with
  | done s plan hvalid =>
    intro i j call fault _ hcall
    simp at hcall
  | exhausted s ds hinvalid htake =>
    intro i j call fault _ hcall
    simp at hcall
  | failed s ds round b failure repaired hinvalid htake hrepair hresult =>
    intro i j call fault hsession hcall hfault
    subst hrepair
    rw [hsession] at hcall hresult ⊢
    rw [Happening.calls_logged, Happening.calls_logged, Repairer.calls_model] at hcall
    cases j with
    | succ j => cases hcall
    | zero =>
      cases hcall
      rw [Nat.add_zero] at hfault ⊢
      rw [Repairer.model_of_fault hfault] at hresult ⊢
      cases hresult
      exact ⟨rfl, rfl, [_, _], rfl, rfl⟩
  | goesOn s ds round b document repaired hinvalid htake hrepair hresult ih =>
    intro i j call fault hsession hcall hfault
    subst hrepair
    cases j with
    | zero =>
      rw [Nat.add_zero] at hfault
      rw [hsession, Repairer.model_of_fault hfault] at hresult
      cases hresult
    | succ j =>
      have hnext : i + 1 + j = i + (j + 1) := by omega
      have hends := ih (i + 1) j call fault
        (by rw [hsession, Repairer.model_session_drop]) (by simpa using hcall) (hnext ▸ hfault)
      rw [hnext] at hends
      exact hends.after _ (by simp [Nat.add_comm])

/-- The call of a repair that has no text ends the run, whether the repair is that of the first text
or of a later draft. -/
theorem run_endsWith_repair {p : Planner Unit} (hmodel : p.repairer = .model p.timeout)
    {request : Request} {i : Nat} {call : Model.Call} {fault : Model.Fault}
    (hcall : (Happening.calls (p.run request ⟨script, ()⟩).transcript)[i + 1]? = some call)
    (hfault : Model.receive p.timeout (script.outcome (i + 1)) = .error fault) :
    (p.run request ⟨script, ()⟩).EndsWith call (i + 1) (script.drop (i + 2))
      (.transport fault.message) [] := by
  have hnext : script.next = (script.outcome 0, script.drop 1) := script.next_drop 0
  have hcourse := p.run_course request ⟨script, ()⟩
  generalize p.run request ⟨script, ()⟩ = r at hcall hcourse ⊢
  cases hcourse with
  | callFailed => simp at hcall
  | notJson => simp at hcall
  | @parsed text value hreceive hparse =>
    simp only [hnext, hmodel] at hcall ⊢
    have hends := rounds_endsWith p.timeout (request.clamp p.ceiling)
      ⟨.fresh p.budget, 0, Draft.normalize value, ⟨script.drop 1, ()⟩⟩ 1 i call fault rfl
      (by simpa using hcall) (Nat.add_comm i 1 ▸ hfault)
    rw [Nat.add_comm 1 i] at hends
    exact hends.after _ (by simp [Nat.add_comm])
  | @textFailed text error round b failure repaired hreceive hparse htake hrepair hresult =>
    simp only [hnext, hmodel] at hrepair
    subst hrepair
    cases i with
    | zero =>
      rw [Repairer.model_of_fault hfault] at hresult hcall ⊢
      cases hresult
      obtain rfl : ⟨Prompt.repairInstruction, Prompt.repair text (textDefect error)⟩ = call := by
        simpa using hcall
      exact ⟨rfl, rfl, p.drafted request script ++ [.logged (.parsing text.utf8ByteSize),
        .logged (.repairingText round (textDefect error))], by simp, by simp⟩
    | succ i => simp at hcall
  | @textRepaired text error round b value repaired hreceive hparse htake hrepair hresult =>
    simp only [hnext, hmodel] at hrepair hcall ⊢
    subst hrepair
    cases i with
    | zero =>
      rw [Repairer.model_of_fault hfault] at hresult
      cases hresult
    | succ i =>
      have hends := rounds_endsWith p.timeout (request.clamp p.ceiling)
        ⟨b, 0, Draft.normalize value, _⟩ 2 i call fault Repairer.model_session_drop
        (by simpa using hcall) (Nat.add_comm i 2 ▸ hfault)
      rw [Nat.add_comm 2 i] at hends
      exact hends.after _ (by simp; omega)

/-- **A call without a text ends the run.** If the model repairs its own drafts and a run makes a
call whose outcome has no text, then the failure of this call is the result of the run, no other
outcome is taken from the script, and nothing happens after the call but that it is noted if it is
the planning call. -/
theorem run_endsWith {p : Planner Unit} (hmodel : p.repairer = .model p.timeout)
    {request : Request} {i : Nat} {call : Model.Call} {fault : Model.Fault}
    (hcall : (Happening.calls (p.run request ⟨script, ()⟩).transcript)[i]? = some call)
    (hfault : Model.receive p.timeout (script.outcome i) = .error fault) :
    (p.run request ⟨script, ()⟩).EndsWith call i (script.drop (i + 1)) (.transport fault.message)
      (if i = 0 then [.logged (.planningFailed fault.message)] else []) := by
  cases i with
  | zero =>
    have hnext : script.next = (script.outcome 0, script.drop 1) := script.next_drop 0
    have hfirst : Model.receive p.timeout (Session.mk script ()).script.next.1 = .error fault := by
      rw [hnext, hfault]
    have hends := run_endsWith_firstCall p request ⟨script, ()⟩ hfirst
    obtain rfl : p.firstCall request = call := by
      rw [run_of_fault hfirst] at hcall
      simpa using hcall
    rwa [hnext] at hends
  | succ i => exact run_endsWith_repair hmodel hcall hfault

end Planner

/-! ## Refusals -/

namespace Chat

open Model (Error)

/-- A status reports an error. `text` is what the answer says and `provider` whose answer it is;
that a key is refused is reported without what the answer says. -/
inductive Refusal (provider text : String) : (status : Nat) → Error → Prop
  | badRequest : Refusal provider text 400 (.invalidRequest text)
  | unauthorized : Refusal provider text 401 (.authentication (provider ++ ": Invalid API key"))
  | forbidden : Refusal provider text 403 (.authentication (provider ++ ": Access denied"))
  | notFound : Refusal provider text 404 (.modelNotFound text)
  | tooMany : Refusal provider text 429 (.rateLimited text)
  | server {code : UInt16} (low : 500 ≤ code.toNat) (high : code.toNat ≤ 599) :
      Refusal provider text code.toNat (.server text (some code))
  | other {status : Nat} (rest : status ∉ [400, 401, 403, 404, 429])
      (outside : status < 500 ∨ 599 < status) :
      Refusal provider text status (.other ("HTTP " ++ toString status ++ ": " ++ text))

/-- The error of an answer is the one that its status reports. -/
theorem refusal_statusError (provider text : String) (status : Nat) :
    Refusal provider text status (statusError status text provider) := by
  rw [statusError]
  split_ifs with h401 h403 h404 h429 h400 hserver
  · exact h401 ▸ .unauthorized
  · exact h403 ▸ .forbidden
  · exact h404 ▸ .notFound
  · exact h429 ▸ .tooMany
  · exact h400 ▸ .badRequest
  · have hcode : (UInt16.ofNat status).toNat = status :=
      UInt16.toNat_ofNat_of_lt' (by rw [UInt16.size]; omega)
    have hrefusal : Refusal provider text (UInt16.ofNat status).toNat
        (.server text (some (UInt16.ofNat status))) := .server (by omega) (by omega)
    rwa [hcode] at hrefusal
  · exact .other (by simp [*]) (by omega)

section
variable {c : Model.Config} {q : Question} {arrival : Arrival} {status : Nat} {body : List UInt8}

/-- A call that is answered with a status outside of 200 to 299 has the error for the status, and
not what the body says. -/
theorem exchange_result_of_refusal (hposted : (exchange c q arrival).posted.isSome)
    (harrival : arrival.settled = .answer status body) (hstatus : status < 200 ∨ 299 < status) :
    (exchange c q arrival).result =
      .error (statusError status (Text.decodeMarked body) c.provider.name) := by
  obtain ⟨posted, hexchange⟩ := exchange_of_posted hposted
  have hfailed : isSuccess status = false := by
    simp only [isSuccess, Bool.and_eq_false_iff, decide_eq_false_iff_not]
    omega
  simp only [hexchange, harrival, received, hfailed]
  rfl

/-- **A refusal never becomes a plan.** Where a call went out, and the answer that counts has a
status outside of 200 to 299, the call has the error that the status reports, whatever the body
says. A run that makes this call in time ends with it and with the message of this error, whoever
repairs if it is the planning call, and also where it is a repair by the model. Reference:
`parse_http_error`, `OpenAIProvider.send_message` and `PlanOrchestrator.run`. -/
theorem refusal_ends_run (hposted : (exchange c q arrival).posted.isSome)
    (harrival : arrival.settled = .answer status body) (hstatus : status < 200 ∨ 299 < status) :
    ∃ e, Refusal c.provider.name (Text.decodeMarked body) status e ∧
      (exchange c q arrival).result = .error e ∧
      (∀ (ρ : Type) (p : Planner ρ) (request : Request) (session : Session ρ) (delay : Nat),
        session.script.head? = some ⟨(exchange c q arrival).result, delay⟩ → delay ≤ p.timeout →
        (p.run request session).EndsWith (p.firstCall request) 0 session.script.tail
          (.transport e.message) [.logged (.planningFailed e.message)]) ∧
      ∀ (p : Planner Unit) (request : Request) (script : Model.Script) (i : Nat)
        (call : Model.Call) (delay : Nat), p.repairer = .model p.timeout →
        (Happening.calls (p.run request ⟨script, ()⟩).transcript)[i + 1]? = some call →
        script[i + 1]? = some ⟨(exchange c q arrival).result, delay⟩ → delay ≤ p.timeout →
        (p.run request ⟨script, ()⟩).EndsWith call (i + 1) (script.drop (i + 2))
          (.transport e.message) [] := by
  have hresult := exchange_result_of_refusal hposted harrival hstatus
  have hreceive {timeout delay : Nat} (hdelay : delay ≤ timeout) :
      Model.receive timeout ⟨(exchange c q arrival).result, delay⟩ =
        .error (.failed (statusError status (Text.decodeMarked body) c.provider.name)) := by
    rw [hresult, Model.receive, if_neg (Nat.not_lt.2 hdelay)]
  refine ⟨_, refusal_statusError _ _ _, hresult, ?_, ?_⟩
  · intro ρ p request session delay hhead hdelay
    have hnext : session.script.next = (⟨(exchange c q arrival).result, delay⟩,
        session.script.tail) := by
      obtain ⟨rest, hscript⟩ := List.head?_eq_some_iff.1 hhead
      rw [hscript]
      rfl
    have hends := Planner.run_endsWith_firstCall p request session
      (by rw [hnext, hreceive hdelay])
    rwa [hnext] at hends
  · intro p request script i call delay hmodel hcall hscript hdelay
    have houtcome : script.outcome (i + 1) = ⟨(exchange c q arrival).result, delay⟩ := by
      rw [Model.Script.outcome, hscript, Option.getD_some]
    exact Planner.run_endsWith hmodel hcall (by rw [houtcome, hreceive hdelay])

end

/-- A first reply that is not JSON, and then an answer with status 503 whose body is a completion
with a plan: the run ends with this answer, and the plan after it is not asked for. -/
theorem refusal_ends_run_despite_plan :
    let plan := "\x7b\"choices\":[\x7b\"message\":\x7b\"content\":\"\x7b\x7d\"\x7d\x7d]\x7d"
    let c := { (Settings.withKey "gsk-1").config with baseUrl := some "http://[::]/" }
    let repair : Model.Call := ⟨Prompt.repairInstruction,
      Prompt.repair "x" "JSON parse failed: expected value at line 1 column 1"⟩
    let refused := outcome c repair (.answer 503 (Text.Utf8.encode plan)) 5
    let p : Planner Unit := ⟨20000, 8, 2, .model 20000⟩
    let r := p.run (.ofPrompt "x") ⟨[.ofText "x", refused, .ofText "\x7b\x7d"], ()⟩
    (replyIn plan).toOption.bind Model.Reply.output = some "\x7b\x7d" ∧
      r.EndsWith repair 1 [.ofText "\x7b\x7d"] (.transport ("Server error (503): " ++ plan)) [] := by
  intro plan c repair refused p r
  have hposted :
      (exchange c (.ofCall repair) (.answer 503 (Text.Utf8.encode plan))).posted.isSome = true := by
    decide +kernel
  have hsettled : Arrival.settled (.answer 503 (Text.Utf8.encode plan)) =
      .answer 503 (Text.Utf8.encode plan) := rfl
  obtain ⟨e, hrefusal, -, -, hrepairs⟩ := refusal_ends_run hposted hsettled (by decide)
  have hcall : (Happening.calls r.transcript)[0 + 1]? = some repair := by decide +kernel
  have hends := hrepairs p (.ofPrompt "x") _ 0 repair 5 rfl hcall rfl (by decide)
  have hdecoded : Text.decodeMarked (Text.Utf8.encode plan) = plan := by decide +kernel
  have he : e = .server plan (some 503) := by
    rw [hdecoded] at hrefusal
    generalize hstatus : 503 = status at hrefusal
    cases hrefusal with
    | @server code =>
      have hcode : code.toNat = (503 : UInt16).toNat := hstatus.symm
      rw [UInt16.toNat_inj.1 hcode]
    | other => omega
    | _ => cases hstatus
  subst he
  exact ⟨by decide +kernel, hends⟩

end Chat

end AgentPlan
