import AgentPlan.Proofs.Service.Answers

/-!
# Requests that go unnoticed

Requests other than accepted plan requests leave the session as it is (`session_serve`), and the two
paths of plan requests stand for each other (`serve_congr`). So two sequences of requests lead to
the same session if one comes from the other by inserting and deleting such requests and by
exchanging the paths (`sessionAfter_edited`), and what becomes of a request depends only on the
session that it meets (`serveAll_edited`).
-/

namespace AgentPlan.Service

variable {ρ : Type} {s : Service ρ} {session : Session ρ}

/-! ## Single requests -/

/-- A plan request with a body that is accepted. -/
structure Incoming.Accepted (x : Incoming) : Prop where
  method : x.method = "POST"
  path : PlanPath x.target
  body : ∃ request, Request.parse x.body = .ok request

/-- The requests are the same, except that one may have the one path of plan requests where the
other has the other. -/
structure Incoming.Alias (x y : Incoming) : Prop where
  method : x.method = y.method
  target : x.target = y.target ∨ PlanPath x.target ∧ PlanPath y.target
  body : x.body = y.body

/-- The paths of plan requests stand for each other. -/
theorem serve_congr {x y : Incoming} (h : x.Alias y) : s.serve x session = s.serve y session := by
  have hroute : route? x.target = route? y.target := by
    rcases h.target with heq | ⟨hx, hy⟩
    · rw [heq]
    · rw [route?_eq_plan_iff.2 hx, route?_eq_plan_iff.2 hy]
  simp only [serve, hroute, h.method, h.body]

/-- A request that is no accepted plan request leaves the session as it is. -/
theorem session_serve {x : Incoming} (h : ¬ x.Accepted) :
    (s.serve x session).session = session := by
  cases hroute : route? x.target with
  | none => simp only [serve, hroute]
  | some route =>
    cases route with
    | health =>
      simp only [serve, hroute]
      split_ifs <;> rfl
    | plan =>
      by_cases hmethod : x.method = "POST"
      · rw [serve_plan_request hmethod hroute]
        cases hparse : Request.parse x.body with
        | error f => rw [answerBody_of_error hparse]
        | ok request => exact absurd ⟨hmethod, route?_eq_plan_iff.1 hroute, request, hparse⟩ h
      · simp only [serve, hroute, if_neg hmethod]

/-! ## Sequences of requests -/

/-- The session after some requests. -/
def sessionAfter (s : Service ρ) : List Incoming → Session ρ → Session ρ
  | [], session => session
  | x :: rest, session => s.sessionAfter rest (s.serve x session).session

/-- Every incoming request gets one answer. -/
theorem length_serveAll (xs : List Incoming) (session : Session ρ) :
    (s.serveAll xs session).length = xs.length := by
  induction xs generalizing session with
  | nil => rfl
  | cons x xs ih => rw [serveAll, List.length_cons, ih, List.length_cons]

/-- Later requests meet the session after the earlier ones. -/
theorem serveAll_append (xs ys : List Incoming) (session : Session ρ) :
    s.serveAll (xs ++ ys) session =
      s.serveAll xs session ++ s.serveAll ys (s.sessionAfter xs session) := by
  induction xs generalizing session with
  | nil => rfl
  | cons x xs ih => rw [List.cons_append, serveAll, ih, serveAll, sessionAfter, List.cons_append]

/-- What becomes of a request depends on the session after the requests before it. -/
theorem serveAll_getElem?_length (xs : List Incoming) (x : Incoming) (ys : List Incoming) :
    (s.serveAll (xs ++ x :: ys) session)[xs.length]? =
      some (s.serve x (s.sessionAfter xs session)) := by
  rw [serveAll_append, serveAll, ← length_serveAll (s := s) xs session,
    List.getElem?_append_right (Nat.le_refl _), Nat.sub_self, List.getElem?_cons_zero]

/-! ## Edits -/

/-- A step from one sequence of requests to another: a request that is in both, possibly with
another path, one that is only in the second, or one that is only in the first. -/
inductive Edit where
  | keep (x y : Incoming)
  | insert (y : Incoming)
  | delete (x : Incoming)

namespace Edit

/-- The request of the first sequence. -/
def original? : Edit → Option Incoming
  | .keep x _ | .delete x => some x
  | .insert _ => none

/-- The request of the second sequence. -/
def edited? : Edit → Option Incoming
  | .keep _ y | .insert y => some y
  | .delete _ => none

/-- The first sequence. -/
def original (edits : List Edit) : List Incoming :=
  edits.filterMap original?

/-- The second sequence. -/
def edited (edits : List Edit) : List Incoming :=
  edits.filterMap edited?

/-- Only requests that are no accepted plan requests come or go, and only paths of plan requests are
exchanged. -/
def Harmless : Edit → Prop
  | .keep x y => x.Alias y
  | .insert y => ¬ y.Accepted
  | .delete x => ¬ x.Accepted

end Edit

open Edit (original edited)

/-- Harmless edits change no session. -/
theorem sessionAfter_edited {edits : List Edit} (h : ∀ e ∈ edits, e.Harmless)
    (session : Session ρ) :
    s.sessionAfter (original edits) session = s.sessionAfter (edited edits) session := by
  induction edits generalizing session with
  | nil => rfl
  | cons e edits ih =>
    have he := h e List.mem_cons_self
    have hrest := ih fun e' he' => h e' (List.mem_cons_of_mem e he')
    cases e with
    | keep x y =>
      show s.sessionAfter (original edits) (s.serve x session).session =
        s.sessionAfter (edited edits) (s.serve y session).session
      rw [serve_congr he, hrest]
    | insert y =>
      show s.sessionAfter (original edits) session =
        s.sessionAfter (edited edits) (s.serve y session).session
      rw [session_serve he, hrest]
    | delete x =>
      show s.sessionAfter (original edits) (s.serve x session).session =
        s.sessionAfter (edited edits) session
      rw [session_serve he, hrest]

/-- **Requests that are no accepted plan requests go unnoticed.** However many of them are inserted
or deleted, and wherever the paths of plan requests are exchanged, the answer to every other
request, what happens for it and the session after it stay the same. Reference: `build_router`. -/
theorem serveAll_edited (s : Service ρ) (session : Session ρ) {edits : List Edit}
    (h : ∀ e ∈ edits, e.Harmless) {before after : List Edit} {x y : Incoming}
    (hedits : edits = before ++ .keep x y :: after) :
    ∃ served, (s.serveAll (original edits) session)[(original before).length]? = some served ∧
      (s.serveAll (edited edits) session)[(edited before).length]? = some served := by
  subst hedits
  have hbefore : s.sessionAfter (original before) session =
      s.sessionAfter (edited before) session :=
    sessionAfter_edited (fun e he => h e (List.mem_append_left _ he)) session
  have halias : x.Alias y := h (.keep x y) (List.mem_append_right _ List.mem_cons_self)
  have horiginal : original (before ++ .keep x y :: after) =
      original before ++ x :: original after := List.filterMap_append
  have hedited : edited (before ++ .keep x y :: after) = edited before ++ y :: edited after :=
    List.filterMap_append
  refine ⟨s.serve x (s.sessionAfter (original before) session), ?_, ?_⟩
  · rw [horiginal, serveAll_getElem?_length]
  · rw [hedited, serveAll_getElem?_length, hbefore, serve_congr halias]

/-- Two requests that are not for plans come in, one with a body that is not accepted goes, and a
path is exchanged: the last plan request is answered as before. -/
theorem serveAll_edited_four_edits :
    let s : Service Unit := ⟨⟨20000, 8, 1, .model 20000⟩, "scripted", "scripted"⟩
    let session : Session Unit := ⟨[.ofText "no JSON", .ofText "\x7b\x7d", .ofText "\x7b\x7d"], ()⟩
    let body := Text.Utf8.encode "\x7b\"userPrompt\":\"x\"\x7d"
    ∃ served,
      (s.serveAll [⟨"POST", "/plan", Text.Utf8.encode "x"⟩, ⟨"POST", "/plan", body⟩,
        ⟨"POST", "/plan", body⟩] session)[2]? = some served ∧
      (s.serveAll [⟨"GET", "/health", []⟩, ⟨"POST", "/v1/plan", body⟩, ⟨"PUT", "/plan", body⟩,
        ⟨"POST", "/plan", body⟩] session)[3]? = some served := by
  intro s session body
  have hrejected : ∀ o, Request.parse (Text.Utf8.encode "x") = o → o.toBool = false := by
    rintro _ rfl
    decide +kernel
  have hpath : path? "/plan" = some "/plan" ∧ path? "/v1/plan" = some "/v1/plan" := by
    decide +kernel
  have hedits : ∀ e ∈ [Edit.insert ⟨"GET", "/health", []⟩,
      .delete ⟨"POST", "/plan", Text.Utf8.encode "x"⟩,
      .keep ⟨"POST", "/plan", body⟩ ⟨"POST", "/v1/plan", body⟩, .insert ⟨"PUT", "/plan", body⟩] ++
      .keep ⟨"POST", "/plan", body⟩ ⟨"POST", "/plan", body⟩ :: [], e.Harmless := by
    intro e he
    simp only [List.mem_append, List.mem_cons, List.not_mem_nil, or_false] at he
    rcases he with (rfl | rfl | rfl | rfl) | rfl
    · exact fun h => absurd h.method (by decide)
    · rintro ⟨-, -, request, hparse⟩
      cases hrejected _ hparse
    · exact ⟨rfl, .inr ⟨.inl hpath.1, .inr hpath.2⟩, rfl⟩
    · exact fun h => absurd h.method (by decide)
    · exact ⟨rfl, .inl rfl, rfl⟩
  exact serveAll_edited s session hedits rfl

end AgentPlan.Service
