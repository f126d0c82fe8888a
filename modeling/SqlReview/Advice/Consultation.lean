import SqlReview.Advice.Engine
import SqlReview.Advice.Prompt

/-!
# Consultations

A query is taken to the reasoning engine: its structure and the findings go into the prompt, and
the reply and the findings make the report. A failure is never covered up.
-/

namespace SqlReview
namespace Advice

/-! ## Inquiries -/

/-- What a caller asks. The parts come from outside, so that each may be of any type. -/
structure Inquiry where
  /-- The query. -/
  query : Json := .null
  /-- The database engine. -/
  database : Json := .null
  /-- The table definitions. -/
  schema : Json := .null
  /-- The execution plan. -/
  plan : Json := .null

/-- The text that a part is, if the part is given. -/
def givenText (part : Json) : Except Problem (Option Text) :=
  if part.isVacant then .ok none
  else
    match part with
    | .string text => .ok (some text)
    | _ => .error (.fault .noOperation)

/-- The text that a part must be. A part that is missing or blank is refused with a complaint. -/
def requireText (part : Json) (complaint : Text) : Except Problem Text := do
  match ← givenText part with
  | some text =>
    if Text.isAllBlank text then .error (.fail .invalidInput complaint) else .ok text
  | none => .error (.fail .invalidInput complaint)

/-! ## Reports -/

/-- What a consultation ends with. -/
structure Report where
  /-- The advice of the engine. -/
  reply : Reply
  /-- What the rules find. -/
  findings : List Finding

/-- A report as a document with a number of its own. -/
def Report.toJson (report : Report) (id : Text) : Json :=
  let number : Fields := [("id", .string id)]
  let findings : Fields := [("detectedPatterns", .array (report.findings.map Finding.toJson))]
  .object (number ++ report.reply.fields ++ findings)

/-! ## Consultations -/

/-- A prompt with the findings it tells about. -/
structure Preparation where
  /-- The prompt. -/
  prompt : Text
  /-- What the rules find. -/
  findings : List Finding

/-- The preparation of a consultation. -/
def Inquiry.prepare [CommentRemover] (inquiry : Inquiry) : Except Problem Preparation := do
  let query ← requireText inquiry.query "Query is required"
  let database ← requireText inquiry.database "Database type is required"
  let structured := Structure.extract query
  let findings := detect allChecks structured
  let schema ← givenText inquiry.schema
  let plan ← givenText inquiry.plan
  pure ⟨Advice.prompt query database structured findings schema plan, findings⟩

/-- The report made of the answer to a prompt. -/
def Preparation.conclude (validate : Validation) (preparation : Preparation) (answer : Text) :
    Except Problem Report :=
  match Reply.parse validate answer with
  | .ok reply => .ok ⟨reply, preparation.findings⟩
  | .error failure => .error (.failure failure)

/-- The consultation of the engine about an inquiry, with a validation of its answer. -/
def consult [CommentRemover] (validate : Validation) (inquiry : Inquiry) :
    Conversation (Except Problem Report) :=
  match inquiry.prepare with
  | .error problem => .done (.error problem)
  | .ok preparation =>
    .ask preparation.prompt fun answer => .done (answer >>= preparation.conclude validate)

end Advice
end SqlReview
