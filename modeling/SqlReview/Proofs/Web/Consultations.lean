import SqlReview.Proofs.Advice.Contract
import SqlReview.Proofs.Web.Visit
import SqlReview.Query.Comment

/-!
# Consultations over the web

A visit to the endpoint for consultations, with any gate, any users, any engine and any package for
validation. Main statement: the engine is asked if and only if the caller is a user, the form holds a
query and a database, and there is an engine; it is asked no more than once; and the caller is answered
if and only if the reply is in the agreed form and the findings are told in whole texts. If they are
not, the service breaks down. Otherwise the caller reads one of the texts that are meant for callers,
whatever the reply was and whatever else went wrong.
-/

namespace SqlReview

/-! ## Prompts -/

namespace Advice

open Web

variable {part : Json} {text : Text}

theorem exists_givenText_eq (entry : IsEntry part) : ∃ given, givenText part = .ok given := by
  rcases entry with rfl | ⟨text, rfl⟩
  · exact ⟨none, rfl⟩
  · cases text with
    | nil => exact ⟨none, rfl⟩
    | cons c rest => exact ⟨some (c :: rest), rfl⟩

theorem requireText_eq_ok
    (usable : usableText? part = some text)
    (complaint : Text) :
    requireText part complaint = .ok text := by
  cases part with
  | string given =>
      obtain ⟨solid, same⟩ := Option.ite_none_left_eq_some.mp usable
      obtain rfl := Option.some.inj same
      cases given with
      | nil => exact absurd rfl solid
      | cons c rest => exact if_neg solid
  | _ => contradiction

/-- The parts of a good form make a prompt, which is about the findings for the query. -/
theorem Inquiry.exists_prepare_eq
    [CommentRemover]
    {inquiry : Inquiry}
    {query database : Text}
    (asks : usableText? inquiry.query = some query)
    (names : usableText? inquiry.database = some database)
    (schema : IsEntry inquiry.schema)
    (plan : IsEntry inquiry.plan) :
    ∃ prompt, inquiry.prepare = .ok ⟨prompt, detect allChecks (Structure.extract query)⟩ := by
  obtain ⟨givenSchema, readSchema⟩ := exists_givenText_eq schema
  obtain ⟨givenPlan, readPlan⟩ := exists_givenText_eq plan
  rw [prepare, requireText_eq_ok asks, requireText_eq_ok names, readSchema, readPlan]
  exact ⟨_, rfl⟩

/-- Whatever is wrong with an answer, the failure says that it is not in the agreed form. -/
theorem Reply.exists_malformed_of_parse
    {validate : Validation}
    {answer : Text}
    {failure : Failure}
    (parsed : Reply.parse validate answer = .error failure) :
    ∃ details, failure = Reply.malformed details := by
  rw [Reply.parse] at parsed
  split at parsed
  · contradiction
  · exact ⟨_, (Except.error.inj parsed).symm⟩

end Advice

/-! ## Conversations -/

namespace Advice.Conversation

variable {α β : Type} {engine : Engine} {earlier : List Text}

/-- A conversation with another result asks the same. -/
theorem hold_map
    (convert : α → β)
    (conversation : Conversation α) :
    (conversation.map convert).hold engine earlier =
      ⟨(conversation.hold engine earlier).asked,
        convert (conversation.hold engine earlier).result⟩ := by
  induction conversation generalizing earlier with
  | done result => rfl
  | ask prompt next inductionHypothesis =>
      rw [map, hold, inductionHypothesis, hold]

end Advice.Conversation

namespace Web

open Access Admission Advice

/-! ## The service -/

section Service

variable {inquiry : Inquiry} {preparation : Preparation}

/-- A consultation that is prepared asks its prompt, and concludes from the answer. -/
theorem hold_consult
    [CommentRemover]
    (prepared : inquiry.prepare = .ok preparation)
    (validate : Validation)
    (engine : Engine) :
    (consult validate inquiry).hold engine [] =
      ⟨[preparation.prompt], engine [] preparation.prompt >>= preparation.conclude validate⟩ := by
  rw [consult, prepared]
  rfl

end Service

/-! ## Users and visits -/

/-- Whether a visit may lead to a consultation, as far as the visitor is concerned. -/
structure Entitled {τ : Type} {readBody : BodyReader}
    (users : List (Text × Text))
    (visit : Visit τ readBody .optimize) : Prop where
  /-- The header presents the token of a user. -/
  isUser : ∃ token, HeadersPresent visit.request.headers token ∧ token ∈ users.map Prod.snd
  /-- The form holds a query. -/
  asks : ∃ query, HoldsText visit.form queryField query
  /-- The form names a database. -/
  names : ∃ database, HoldsText visit.form databaseField database

section Visits

variable {τ σ : Type} {readBody : BodyReader} {users : List (Text × Text)}
variable {visit : Visit τ readBody .optimize}

theorem isUser_textFields_iff :
    visit.IsUser (textFields users) ↔
      ∃ token, HeadersPresent visit.request.headers token ∧ token ∈ users.map Prod.snd := by
  have owned : ∀ token, (∃ entry ∈ textFields users, ComparesAs entry.2 token) ↔
      token ∈ users.map Prod.snd := by
    intro token
    simp only [textFields, List.mem_map, exists_exists_and_eq_and, comparesAs_string_iff]
  simp only [Visit.IsUser, owned]

/-- A visit is a consultation by the service for the caller behind it, unless there is no
authorization at all. -/
theorem Visit.handling_optimize
    [CommentRemover]
    (visit : Visit τ readBody .optimize)
    (service : Service τ σ)
    (tokens : Fields)
    (records : σ) :
    visit.handling service tokens records =
      if (visit.request.headers.valueOf "authorization").isEmpty then
        ⟨openToOrigin visit.request (failed 401 "Missing authorization header"), [], records⟩
      else
        let consultation := service.hold
          (service.advisorAnalysis visit.form.inquiry (visit.caller tokens))
        ⟨openToOrigin visit.request
          (consultationResponse visit.form.halves visit.occasion.id consultation.result),
          consultation.asked, records⟩ := by
  have read : readBody consultationFields visit.request = .accepted visit.form := visit.hasForm
  rw [Visit.handling_eq]
  simp only [serve, optimize, read, Reading.form]
  split
  · rfl
  · simp only [Application.hold, Application.parts, Service.hold, Conversation.hold_map, bind,
      Except.bind, pure, Except.pure]
    rfl

/-- What comes of a visit that may lead to a consultation: without an engine the visitor learns that
there is none, and with an engine it is asked. The prompt does not depend on the engine. -/
theorem handling_of_entitled
    [CommentRemover]
    (gate : Gate τ σ)
    (validate : Validation)
    (entitled : Entitled users visit)
    {query : Text}
    (asks : HoldsText visit.form queryField query) :
    ∃ prompt, ∀ records,
      visit.handling ⟨gate, none, validate⟩ (textFields users) records =
        ⟨openToOrigin visit.request (failed 500 "OpenAI API key not configured"), [], records⟩ ∧
      ∀ engine : Engine,
        visit.handling ⟨gate, some engine, validate⟩ (textFields users) records =
          ⟨openToOrigin visit.request (consultationResponse visit.form.halves visit.occasion.id
            (engine [] prompt >>=
              Preparation.conclude validate ⟨prompt, detect allChecks (Structure.extract query)⟩)),
            [prompt], records⟩ := by
  obtain ⟨token, presented, -⟩ := entitled.isUser
  obtain ⟨database, names⟩ := entitled.names
  have authenticated : (visit.caller (textFields users)).isAuthenticated = true :=
    Visit.isAuthenticated_caller_iff.mpr (isUser_textFields_iff.mpr entitled.isUser)
  have usableQuery : usableText? visit.form.inquiry.query = some query :=
    usableText?_part_iff.mpr asks
  have usableDatabase : usableText? visit.form.inquiry.database = some database :=
    usableText?_part_iff.mpr names
  obtain ⟨prompt, prepared⟩ := visit.form.inquiry.exists_prepare_eq usableQuery usableDatabase
    (isEntry_part visit.form schemaField) (isEntry_part visit.form planField)
  have ready : ∀ engine, (⟨gate, engine, validate⟩ : Service τ σ).advisorAnalysis
      visit.form.inquiry (visit.caller (textFields users)) =
        if engine.isNone then Service.refused notConfigured
        else consult validate visit.form.inquiry := by
    intro engine
    rw [Service.advisorAnalysis, authenticated, usableQuery, usableDatabase]
    rfl
  refine ⟨prompt, fun records => ⟨?_, fun engine => ?_⟩⟩
  · rw [Visit.handling_optimize, presented.isEmpty_valueOf, if_neg Bool.false_ne_true, ready]
    rfl
  · rw [Visit.handling_optimize, presented.isEmpty_valueOf, if_neg Bool.false_ne_true, ready]
    dsimp only [Option.isNone_some]
    rw [if_neg Bool.false_ne_true, Service.hold, Option.getD_some, hold_consult prepared]

/-- Whoever may not consult the engine is refused, with an engine as well as without. -/
theorem handling_of_not_entitled
    [CommentRemover]
    (gate : Gate τ σ)
    (validate : Validation)
    (unentitled : ¬Entitled users visit) :
    ∃ status error, status ≠ 200 ∧ ∀ engine records,
      visit.handling ⟨gate, engine, validate⟩ (textFields users) records =
        ⟨openToOrigin visit.request (failed status error), [], records⟩ := by
  simp only [Visit.handling_optimize, Service.advisorAnalysis]
  -- The checks come one after the other, and none of them looks at the engine.
  cases missing : (visit.request.headers.valueOf "authorization").isEmpty with
  | true => exact ⟨401, "Missing authorization header", by decide, fun _ _ => rfl⟩
  | false =>
  cases authenticated : (visit.caller (textFields users)).isAuthenticated with
  | false => exact ⟨401, "Unauthorized", by decide, fun _ _ => rfl⟩
  | true =>
  cases usableQuery : usableText? visit.form.inquiry.query with
  | none => exact ⟨400, "Query is required", by decide, fun _ _ => rfl⟩
  | some query =>
  cases usableDatabase : usableText? visit.form.inquiry.database with
  | none => exact ⟨400, "Database type is required", by decide, fun _ _ => rfl⟩
  | some database =>
      have asks : HoldsText visit.form queryField query := usableText?_part_iff.mp usableQuery
      have names : HoldsText visit.form databaseField database :=
        usableText?_part_iff.mp usableDatabase
      rw [Visit.isAuthenticated_caller_iff, isUser_textFields_iff] at authenticated
      exact absurd ⟨authenticated, ⟨query, asks⟩, ⟨database, names⟩⟩ unentitled

end Visits

/-! ## Responses -/

/-- What a visitor reads who is not answered. -/
def failedContent (error : Text) : Content :=
  .json (.object [("success", .bool false), ("error", .string error)])

/-- What a visitor reads who is answered: the reply of the engine with a number and the findings. -/
def reportContent
    (id : Text)
    (reply : Reply)
    (findings : List Finding) : Content :=
  .json (.object [
    ("success", .bool true),
    ("data", .object [
      ("id", .string id),
      ("analysis", .string reply.analysis),
      ("warnings", .array (reply.warnings.map .string)),
      ("rewrittenQuery", .string reply.saferQuery),
      ("recommendedIndexes", .string reply.recommendedIndexes),
      ("notes", .string reply.notes),
      ("detectedPatterns", .array (findings.map Finding.toJson))])])

/-- Whether no finding for a query mentions half a code point. -/
def TellsWhole
    [CommentRemover]
    (halves : Halves)
    (query : Text) : Prop :=
  halves.occurInItems ((detect allChecks (Structure.extract query)).map Finding.toJson) = false

instance [CommentRemover] (halves : Halves) (query : Text) : Decidable (TellsWhole halves query) :=
  inferInstanceAs (Decidable (_ = _))

/-- Whether the message of a problem is meant for callers. -/
def ShowsMessage (problem : Problem) : Prop :=
  ∃ failure, problem = .failure failure ∧ failure.kind.isPublic = true

theorem status_ne_ok (kind : FailureKind) : kind.status ≠ 200 := by
  cases kind <;> simp [FailureKind.status]

/-- A problem is never taken for an answer, and the visitor learns the message of the problem only
if it is meant for callers. -/
theorem consultationProblem_eq
    (problem : Problem) :
    ∃ status error, consultationProblem problem = failed status error ∧ status ≠ 200 ∧
      (¬ShowsMessage problem → error = "Internal server error") := by
  cases problem with
  | fault fault => exact ⟨500, _, rfl, by decide, fun _ => rfl⟩
  | failure failure =>
      refine ⟨failure.kind.status, _, rfl, status_ne_ok failure.kind, ?_⟩
      intro hidden
      exact if_neg fun shown => hidden ⟨failure, rfl, shown⟩

/-- The response to an answer: the report if the answer is a reply in the agreed form and the findings
are told in whole texts, a breakdown if they are not, and else an error, of which the visitor learns no
more than is meant for callers. -/
theorem consultationResponse_cases
    [CommentRemover]
    (validate : Validation)
    (prompt query : Text)
    (answer : Except Problem Text)
    (halves : Halves)
    (id : Text) :
    let findings := detect allChecks (Structure.extract query)
    let response := consultationResponse halves id
      (answer >>= Preparation.conclude validate ⟨prompt, findings⟩)
    (∃ text reply, answer = .ok text ∧ Reply.parse validate text = .ok reply ∧
      (TellsWhole halves query ∧ response.status = 200 ∧
          response.content = reportContent id reply findings ∨
        ¬TellsWhole halves query ∧ response = .breakdown)) ∨
    ∃ status error, response = failed status error ∧ status ≠ 200 ∧
      (∀ text, answer = .ok text → (∃ failure, Reply.parse validate text = .error failure) ∧
        error = "Invalid AI response format") ∧
      ∀ problem, answer = .error problem → ¬ShowsMessage problem →
        error = "Internal server error" := by
  intro findings response
  cases answer with
  | error problem =>
      obtain ⟨status, error, failed, notAnswered, hidden⟩ := consultationProblem_eq problem
      refine Or.inr ⟨status, error, failed, notAnswered, by simp, ?_⟩
      intro other same
      obtain rfl := Except.error.inj same
      exact hidden
  | ok text =>
      have concluded : response = consultationResponse halves id
        (Preparation.conclude validate ⟨prompt, findings⟩ text) := rfl
      rw [Preparation.conclude] at concluded
      cases parsed : Reply.parse validate text with
      | ok reply =>
          rw [parsed] at concluded
          refine Or.inl ⟨text, reply, rfl, parsed, ?_⟩
          cases halved : halves.occurInItems (findings.map Finding.toJson) with
          | false =>
              simp only [consultationResponse, halved, Bool.false_eq_true, if_false] at concluded
              rw [concluded]
              exact Or.inl ⟨halved, rfl, rfl⟩
          | true =>
              simp only [consultationResponse, halved, if_true] at concluded
              refine Or.inr ⟨fun whole => ?_, concluded⟩
              rw [show halves.occurInItems _ = false from whole] at halved
              contradiction
      | error failure =>
          rw [parsed] at concluded
          obtain ⟨details, rfl⟩ := Reply.exists_malformed_of_parse parsed
          refine Or.inr ⟨500, "Invalid AI response format", concluded, by decide, ?_, by simp⟩
          intro other same
          obtain rfl := Except.ok.inj same
          exact ⟨⟨_, parsed⟩, rfl⟩

/-! ## Consultations -/

section Consultations

variable {τ σ : Type} {readBody : BodyReader}

/-- Whether the engine was asked once in the course of a visit, and gave an answer. -/
def Answered
    (engine : Option Engine)
    (handling : Handling σ)
    (answer : Except Problem Text) : Prop :=
  ∃ prompt used, handling.asked = [prompt] ∧ engine = some used ∧ used [] prompt = answer

theorem Answered.unique
    {engine : Option Engine}
    {handling : Handling σ}
    {answer other : Except Problem Text}
    (answered : Answered engine handling answer)
    (answeredOther : Answered engine handling other) :
    other = answer := by
  obtain ⟨prompt, used, asked, rfl, rfl⟩ := answered
  obtain ⟨_, _, askedOther, same, rfl⟩ := answeredOther
  obtain rfl := Option.some.inj same
  obtain rfl := List.singleton_inj.mp (asked.symm.trans askedOther)
  rfl

/-- Either the engine is not asked, and an error is sent that no engine has a part in, or it is
asked, and all that is sent comes of the answer to one prompt. -/
theorem handling_cases
    [CommentRemover]
    (gate : Gate τ σ)
    (engine : Option Engine)
    (validate : Validation)
    (users : List (Text × Text))
    (visit : Visit τ readBody .optimize)
    (records : σ) :
    (¬(Entitled users visit ∧ engine.isSome = true) ∧ ∃ status error, status ≠ 200 ∧
      ∀ other, other.isSome = engine.isSome →
        visit.handling ⟨gate, other, validate⟩ (textFields users) records =
          ⟨openToOrigin visit.request (failed status error), [], records⟩) ∨
    (Entitled users visit ∧ ∃ used query prompt, engine = some used ∧
      HoldsText visit.form queryField query ∧ ∀ other : Engine,
        visit.handling ⟨gate, some other, validate⟩ (textFields users) records =
          ⟨openToOrigin visit.request (consultationResponse visit.form.halves visit.occasion.id
            (other [] prompt >>=
              Preparation.conclude validate ⟨prompt, detect allChecks (Structure.extract query)⟩)),
            [prompt], records⟩) := by
  by_cases entitled : Entitled users visit
  · obtain ⟨query, asks⟩ := entitled.asks
    obtain ⟨prompt, handled⟩ := handling_of_entitled gate validate entitled asks
    cases engine with
    | none =>
        refine Or.inl ⟨by simp, 500, "OpenAI API key not configured", by decide, ?_⟩
        intro other same
        rw [Option.isSome_none, Option.isSome_eq_false_iff, Option.isNone_iff_eq_none] at same
        rw [same]
        exact (handled records).1
    | some used =>
        exact Or.inr ⟨entitled, used, query, prompt, rfl, asks, (handled records).2⟩
  · obtain ⟨status, error, notAnswered, handled⟩ := handling_of_not_entitled gate validate entitled
    exact Or.inl ⟨fun both => entitled both.1, status, error, notAnswered,
      fun other _ => handled other records⟩

section OneVisit

variable (gate : Gate τ σ) (engine : Option Engine) (validate : Validation)
variable (users : List (Text × Text)) (visit : Visit τ readBody .optimize) (records : σ)

/-- The engine is asked once by those who may, if there is one, and else never. -/
theorem asked_cases [CommentRemover] :
    let asked := (visit.handling ⟨gate, engine, validate⟩ (textFields users) records).asked
    asked = [] ∧ ¬(Entitled users visit ∧ engine.isSome = true) ∨
      (∃ prompt, asked = [prompt]) ∧ Entitled users visit ∧ engine.isSome = true := by
  rcases handling_cases gate engine validate users visit records with
    ⟨unready, status, error, -, handled⟩ | ⟨entitled, used, query, prompt, rfl, -, handled⟩
  · rw [handled engine rfl]
    exact Or.inl ⟨rfl, unready⟩
  · rw [handled used]
    exact Or.inr ⟨⟨prompt, rfl⟩, entitled, rfl⟩

/-- The engine is never asked twice. -/
theorem length_asked_le_one [CommentRemover] :
    (visit.handling ⟨gate, engine, validate⟩ (textFields users) records).asked.length ≤ 1 := by
  rcases asked_cases gate engine validate users visit records with
    ⟨never, -⟩ | ⟨⟨prompt, once⟩, -⟩
  · rw [never]
    exact Nat.zero_le 1
  · rw [once]
    exact Nat.le_refl 1

/-- The engine is asked by those who may, if there is one, and by nobody else. -/
theorem asked_ne_nil_iff [CommentRemover] :
    (visit.handling ⟨gate, engine, validate⟩ (textFields users) records).asked ≠ [] ↔
      Entitled users visit ∧ engine.isSome = true := by
  rcases asked_cases gate engine validate users visit records with
    ⟨never, unready⟩ | ⟨⟨prompt, once⟩, ready⟩
  · exact iff_of_false (fun some => some never) unready
  · rw [once]
    exact iff_of_true (List.cons_ne_nil _ _) ready

/-- Who may have the engine asked gets its answer to one prompt. -/
theorem exists_answered
    [CommentRemover]
    (used : Engine)
    (entitled : Entitled users visit) :
    ∃ prompt, Answered (some used)
      (visit.handling ⟨gate, some used, validate⟩ (textFields users) records)
      (used [] prompt) := by
  rcases asked_cases gate (some used) validate users visit records with
    ⟨-, unready⟩ | ⟨⟨prompt, once⟩, -⟩
  · exact absurd ⟨entitled, rfl⟩ unready
  · exact ⟨prompt, prompt, used, once, rfl, rfl⟩

/-- No answer but the one to the prompt that is sent has a part in what comes of a visit. -/
theorem handling_eq_of_agrees
    [CommentRemover]
    {used other : Engine}
    (agrees : ∀ prompt ∈
      (visit.handling ⟨gate, some used, validate⟩ (textFields users) records).asked,
        other [] prompt = used [] prompt) :
    visit.handling ⟨gate, some other, validate⟩ (textFields users) records =
      visit.handling ⟨gate, some used, validate⟩ (textFields users) records := by
  rcases handling_cases gate (some used) validate users visit records with
    ⟨-, status, error, -, handled⟩ | ⟨-, _, query, prompt, -, -, handled⟩
  · rw [handled (some other) rfl, handled (some used) rfl]
  · have sameAnswer : other [] prompt = used [] prompt := by
      apply agrees
      rw [handled used]
      exact List.mem_singleton_self prompt
    rw [handled other, handled used, sameAnswer]

/-- How a visit may end. -/
inductive Concludes
    [CommentRemover]
    (handling : Handling σ) : Prop where
  /-- The reply of the engine is in the agreed form, and the visitor reads a report on it. -/
  | reported
      {answer : Text}
      {reply : Reply}
      {query : Text}
      (answered : Answered engine handling (.ok answer))
      (accepted : Reply.parse validate answer = .ok reply)
      (asks : HoldsText visit.form queryField query)
      (whole : TellsWhole visit.form.halves query)
      (status : handling.response.status = 200)
      (content : handling.response.content =
        reportContent visit.occasion.id reply (detect allChecks (Structure.extract query)))
  /-- The reply of the engine is in the agreed form, and the report on it cannot be sent. -/
  | brokeDown
      {answer : Text}
      {reply : Reply}
      {query : Text}
      (answered : Answered engine handling (.ok answer))
      (accepted : Reply.parse validate answer = .ok reply)
      (asks : HoldsText visit.form queryField query)
      (halved : ¬TellsWhole visit.form.halves query)
      (status : handling.response.status = 500)
      (content : handling.response.content = .text "Internal Server Error")
  /-- There is no reply in the agreed form, and the visitor reads an error. -/
  | failed
      (error : Text)
      (status : handling.response.status ≠ 200)
      (content : handling.response.content = failedContent error)
      (rejected : ∀ answer, Answered engine handling (.ok answer) →
        (∃ failure, Reply.parse validate answer = .error failure) ∧
          error = "Invalid AI response format")
      (hidden : ∀ problem, Answered engine handling (.error problem) → ¬ShowsMessage problem →
        error = "Internal server error")

/-- Every visit ends in one of these ways. -/
theorem concludes_handling [CommentRemover] :
    Concludes engine validate visit
      (visit.handling ⟨gate, engine, validate⟩ (textFields users) records) := by
  rcases handling_cases gate engine validate users visit records with
    ⟨-, status, error, notAnswered, handled⟩ | ⟨-, used, query, prompt, rfl, asks, handled⟩
  · rw [handled engine rfl]
    have unasked : ∀ answer, ¬Answered engine
        ⟨openToOrigin visit.request (failed status error), [], records⟩ answer := by
      rintro answer ⟨prompt, used, asked, -⟩
      contradiction
    refine .failed error ?_ ?_ (fun _ answered => absurd answered (unasked _))
      (fun _ answered => absurd answered (unasked _))
    · rw [status_openToOrigin]
      exact notAnswered
    · rw [content_openToOrigin]
      rfl
  · -- The answer to the prompt settles both what is sent and which answer was given.
    rw [handled used]
    have answered : ∀ response, Answered (some used)
        (⟨openToOrigin visit.request response, [prompt], records⟩ : Handling σ) (used [] prompt) :=
      fun response => ⟨prompt, used, rfl, rfl, rfl⟩
    rcases consultationResponse_cases validate prompt query (used [] prompt) visit.form.halves
        visit.occasion.id with
      ⟨answer, reply, gave, accepted, ⟨whole, status, content⟩ | ⟨halved, brokeDown⟩⟩ |
      ⟨status, error, response, notAnswered, rejected, hidden⟩
    · refine .reported (gave ▸ answered _) accepted asks whole ?_ ?_
      · rw [status_openToOrigin, status]
      · rw [content_openToOrigin, content]
    · refine .brokeDown (gave ▸ answered _) accepted asks halved ?_ ?_
      · rw [status_openToOrigin, brokeDown]
        rfl
      · rw [content_openToOrigin, brokeDown]
        rfl
    · refine .failed error ?_ ?_ (fun text gave => rejected text (gave.unique (answered _)))
        (fun problem gave => hidden problem (gave.unique (answered _)))
      · rw [status_openToOrigin, response]
        exact notAnswered
      · rw [content_openToOrigin, response]
        rfl

end OneVisit

namespace Concludes

variable [CommentRemover] {engine : Option Engine} {validate : Validation}
variable {visit : Visit τ readBody .optimize} {handling : Handling σ}
variable (concludes : Concludes engine validate visit handling)

include concludes

/-- The visitor is answered just if the reply is in the agreed form and the findings are whole. -/
theorem status_eq_ok_iff :
    handling.response.status = 200 ↔ ∃ answer reply query, Answered engine handling (.ok answer) ∧
      Reply.parse validate answer = .ok reply ∧ HoldsText visit.form queryField query ∧
        TellsWhole visit.form.halves query := by
  cases concludes with
  | reported answered accepted asks whole status content =>
      exact iff_of_true status ⟨_, _, _, answered, accepted, asks, whole⟩
  | brokeDown answered accepted asks halved status content =>
      refine iff_of_false (by rw [status]; decide) ?_
      rintro ⟨-, -, other, -, -, asksOther, whole⟩
      obtain rfl := asks.unique asksOther
      exact halved whole
  | failed error status content rejected hidden =>
      refine iff_of_false status ?_
      rintro ⟨answer, reply, -, answered, accepted, -⟩
      obtain ⟨⟨failure, refused⟩, -⟩ := rejected answer answered
      cases refused.symm.trans accepted

/-- What is sent when the reply is in the agreed form. -/
theorem content_of_accepted
    {answer query : Text}
    {reply : Reply}
    (answered : Answered engine handling (.ok answer))
    (accepted : Reply.parse validate answer = .ok reply)
    (asks : HoldsText visit.form queryField query) :
    handling.response.content =
      if TellsWhole visit.form.halves query then
        reportContent visit.occasion.id reply (detect allChecks (Structure.extract query))
      else .text "Internal Server Error" := by
  cases concludes with
  | reported answeredOther acceptedOther asksOther whole status content =>
      obtain rfl := Except.ok.inj (answered.unique answeredOther)
      obtain rfl := Except.ok.inj (accepted.symm.trans acceptedOther)
      obtain rfl := asks.unique asksOther
      rw [if_pos whole]
      exact content
  | brokeDown answeredOther acceptedOther asksOther halved status content =>
      obtain rfl := asks.unique asksOther
      rw [if_neg halved]
      exact content
  | failed error status content rejected hidden =>
      obtain ⟨⟨failure, refused⟩, -⟩ := rejected answer answered
      cases refused.symm.trans accepted

/-- An error is sent when there is no reply in the agreed form. -/
theorem exists_failedContent
    (unaccepted : ¬∃ answer reply, Answered engine handling (.ok answer) ∧
      Reply.parse validate answer = .ok reply) :
    ∃ error, handling.response.content = failedContent error := by
  cases concludes with
  | reported answered accepted => exact absurd ⟨_, _, answered, accepted⟩ unaccepted
  | brokeDown answered accepted => exact absurd ⟨_, _, answered, accepted⟩ unaccepted
  | failed error status content => exact ⟨_, content⟩

/-- All replies in another form have one error. -/
theorem content_of_rejected
    {answer : Text}
    {failure : Failure}
    (answered : Answered engine handling (.ok answer))
    (refused : Reply.parse validate answer = .error failure) :
    handling.response.content = failedContent "Invalid AI response format" := by
  cases concludes with
  | reported answeredOther accepted =>
      obtain rfl := Except.ok.inj (answered.unique answeredOther)
      cases refused.symm.trans accepted
  | brokeDown answeredOther accepted =>
      obtain rfl := Except.ok.inj (answered.unique answeredOther)
      cases refused.symm.trans accepted
  | failed error status content rejected hidden => rw [content, (rejected answer answered).2]

/-- All problems whose messages are not for callers have one error. -/
theorem content_of_hidden
    {problem : Problem}
    (answered : Answered engine handling (.error problem))
    (notShown : ¬ShowsMessage problem) :
    handling.response.content = failedContent "Internal server error" := by
  cases concludes with
  | reported answeredOther => cases answered.unique answeredOther
  | brokeDown answeredOther => cases answered.unique answeredOther
  | failed error status content rejected hidden => rw [content, hidden problem answered notShown]

end Concludes

/-- The engine is asked no more than once, and it is asked if and only if the header presents the token
of a user, the form holds a query and a database, and there is an engine. Nothing but the answer to that
one prompt counts. If the answer is a reply in the agreed form, the visitor reads the reply with the
findings for the query, provided that no finding mentions half a code point; if one does, the service
breaks down. Otherwise the visitor reads an error, which is the same for all replies in another form,
and the same for all problems whose messages are not meant for callers. -/
theorem consultation_exact
    [CommentRemover]
    (gate : Gate τ σ)
    (engine : Option Engine)
    (validate : Validation)
    (users : List (Text × Text))
    (visit : Visit τ readBody .optimize)
    (records : σ) :
    let handling := visit.handling ⟨gate, engine, validate⟩ (textFields users) records
    handling.asked.length ≤ 1 ∧
    (handling.asked ≠ [] ↔ Entitled users visit ∧ engine.isSome = true) ∧
    (∀ used other, engine = some used →
      (∀ prompt ∈ handling.asked, other [] prompt = used [] prompt) →
        visit.handling ⟨gate, some other, validate⟩ (textFields users) records = handling) ∧
    (handling.response.status = 200 ↔ ∃ answer reply query, Answered engine handling (.ok answer) ∧
      Reply.parse validate answer = .ok reply ∧ HoldsText visit.form queryField query ∧
        TellsWhole visit.form.halves query) ∧
    (∀ answer reply query, Answered engine handling (.ok answer) →
      Reply.parse validate answer = .ok reply → HoldsText visit.form queryField query →
        handling.response.content =
          if TellsWhole visit.form.halves query then
            reportContent visit.occasion.id reply (detect allChecks (Structure.extract query))
          else .text "Internal Server Error") ∧
    ((¬∃ answer reply, Answered engine handling (.ok answer) ∧
        Reply.parse validate answer = .ok reply) →
      ∃ error, handling.response.content = failedContent error) ∧
    (∀ answer failure, Answered engine handling (.ok answer) →
      Reply.parse validate answer = .error failure →
        handling.response.content = failedContent "Invalid AI response format") ∧
    (∀ problem, Answered engine handling (.error problem) → ¬ShowsMessage problem →
      handling.response.content = failedContent "Internal server error") := by
  intro handling
  have concludes : Concludes engine validate visit handling :=
    concludes_handling gate engine validate users visit records
  refine ⟨length_asked_le_one gate engine validate users visit records,
    asked_ne_nil_iff gate engine validate users visit records, ?_, concludes.status_eq_ok_iff,
    fun _ _ _ => concludes.content_of_accepted, concludes.exists_failedContent,
    fun _ _ => concludes.content_of_rejected, fun _ => concludes.content_of_hidden⟩
  rintro used other rfl agrees
  exact handling_eq_of_agrees gate validate users visit records agrees

end Consultations

/-! ## Two consultations -/

/-- An engine that gives the same reply to every prompt. -/
def steadyEngine : Engine :=
  fun _ _ => .ok Reply.shuffledAnswer

/-- A service with this engine. -/
def adviceService : Service Nat (Ledger Nat) :=
  ⟨Gate.ledger none, some steadyEngine, (Validator.ofSpelling Shape.spelled?).validate⟩

/-- The reply as it is read. -/
def steadyReply : Reply :=
  ⟨"a", ["w"], "q", "", "n"⟩

theorem parse_shuffledAnswer :
    Reply.parse adviceService.validate Reply.shuffledAnswer = .ok steadyReply := by
  have validates : adviceService.validate = Shape.validate Shape.spelled? := rfl
  rw [validates, Reply.parse, Shape.validate, Reply.spelled?_shuffledAnswer]
  rfl

/-- A user with a token. -/
def oneAccount : List (Text × Text) :=
  [("alice", "secret")]

/-- The user asks about a query that is a whole text. -/
def wholeConsultation : Visit Nat (Body.reader 950) .optimize :=
  .ofTexts ⟨0, [], "id"⟩ [("Authorization", "Bearer secret")] none
    [("query", "SELECT * FROM t"), ("db", "mysql")] (by decide) (by decide)

theorem entitled_wholeConsultation : Entitled oneAccount wholeConsultation where
  isUser := isUser_textFields_iff.mp (Visit.isAuthenticated_caller_iff.mp (by decide +kernel))
  asks := ⟨"SELECT * FROM t", rfl, by decide⟩
  names := ⟨"mysql", rfl, by decide⟩

/-- The engine is asked once, and the user reads its reply with the findings. -/
theorem consultation_of_user :
    let handling := wholeConsultation.handling adviceService (textFields oneAccount) {}
    handling.asked.length = 1 ∧ handling.response.status = 200 ∧ handling.response.content =
        reportContent "id" steadyReply (detect allChecks (Structure.extract "SELECT * FROM t")) := by
  intro handling
  obtain ⟨atMostOnce, asked, -, succeeds, sends, -⟩ := consultation_exact (Gate.ledger none)
    (some steadyEngine) adviceService.validate oneAccount wholeConsultation {}
  obtain ⟨prompt, answered⟩ := exists_answered (Gate.ledger none) adviceService.validate oneAccount
    wholeConsultation {} steadyEngine entitled_wholeConsultation
  have some : handling.asked ≠ [] := asked.mpr ⟨entitled_wholeConsultation, rfl⟩
  have asks : HoldsText wholeConsultation.form queryField "SELECT * FROM t" := ⟨rfl, by decide⟩
  have whole : TellsWhole wholeConsultation.form.halves "SELECT * FROM t" := by decide +kernel
  refine ⟨?_, ?_, ?_⟩
  · exact Nat.le_antisymm atMostOnce (List.length_pos_iff.mpr some)
  · exact succeeds.mpr ⟨_, steadyReply, _, answered, parse_shuffledAnswer, asks, whole⟩
  · have content := sends _ _ _ answered parse_shuffledAnswer asks
    rw [if_pos whole] at content
    exact content

/-- A document with half a code point in the name of a table. -/
def halvedNameDocument : Text :=
  "\x7b\"query\": \"SELECT a FROM t JOIN \\\"\\ud800_meta\\\" ON t.a = b\", ".toList ++
    "\"db\": \"mysql\"\x7d".toList

/-- The query of the document. -/
def halvedNameQuery : Text :=
  "SELECT a FROM t JOIN \"\uE000_meta\" ON t.a = b"

theorem textsIn?_halvedNameDocument :
    textsIn? (Json.lenient (some 950) halvedNameDocument) halvedNameDocument =
      some ([("query", halvedNameQuery), ("db", "mysql")] : List (Text × Text)) := by
  decide +kernel

/-- The user asks about a query with half a code point. -/
def halvedConsultation : Visit Nat (Body.reader 950) .optimize :=
  .ofDocument ⟨0, [], "id"⟩ [("Authorization", "Bearer secret")] none (by decide)
    (parse_of_textsIn? textsIn?_halvedNameDocument)

/-- The reply is in the agreed form, and the user is not answered, nor told of an error as others
are. -/
theorem halvedConsultation_breaks_down :
    let handling := halvedConsultation.handling adviceService (textFields oneAccount) {}
    (∃ answer reply, Answered (some steadyEngine) handling (.ok answer) ∧
      Reply.parse adviceService.validate answer = .ok reply) ∧
    handling.response.status ≠ 200 ∧ ∀ error, handling.response.content ≠ failedContent error := by
  intro handling
  have entitled : Entitled oneAccount halvedConsultation :=
    ⟨isUser_textFields_iff.mp (Visit.isAuthenticated_caller_iff.mp (by decide +kernel)),
      ⟨halvedNameQuery, rfl, by decide⟩, ⟨"mysql", rfl, by decide⟩⟩
  have halved : ¬TellsWhole halvedConsultation.form.halves halvedNameQuery := by decide +kernel
  obtain ⟨prompt, answered⟩ := exists_answered (Gate.ledger none) adviceService.validate oneAccount
    halvedConsultation {} steadyEngine entitled
  have concludes : Concludes (some steadyEngine) adviceService.validate halvedConsultation handling :=
    concludes_handling (Gate.ledger none) _ _ oneAccount halvedConsultation {}
  have asks : HoldsText halvedConsultation.form queryField halvedNameQuery := ⟨rfl, by decide⟩
  have content := concludes.content_of_accepted answered parse_shuffledAnswer asks
  rw [if_neg halved] at content
  refine ⟨⟨_, steadyReply, answered, parse_shuffledAnswer⟩, ?_, fun error same => ?_⟩
  · rw [ne_eq, concludes.status_eq_ok_iff]
    rintro ⟨-, -, other, -, -, asksOther, whole⟩
    rw [asks.unique asksOther] at whole
    exact halved whole
  · have differs := content.symm.trans same
    cases differs

end Web
end SqlReview
