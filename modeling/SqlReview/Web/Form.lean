import SqlReview.Advice.Consultation
import SqlReview.Web.Message

/-!
# Forms

The body of a request is a form whose known fields are texts or absent. A framework reads it before
anything else is done, and complains about all that is wrong with it at once. How it reads is a
parameter of the service.
-/

namespace SqlReview
namespace Web

open Advice

/-! ## Reading -/

/-- A field of a form by its names, of which the first that is there counts. -/
abbrev FieldNames := List Text

/-- A form. -/
structure Form where
  /-- The text in a field, if there is one. -/
  value : FieldNames → Option Text
  /-- The halves in the texts. -/
  halves : Halves

/-- What the body of a request is read as. -/
inductive Reading where
  /-- A form. -/
  | accepted (form : Form)
  /-- Something else, with complaints in which halves may be mentioned. -/
  | invalid (complaints : List Json) (halves : Halves)
  /-- Something that is answered right away. -/
  | refused (response : Response)

/-- What a framework makes of the known fields of a form and a request. -/
abbrev BodyReader := List FieldNames → Request → Reading

/-- The response to a request with complaints. It can only be written if all the numbers that it
repeats are finite and all the texts are whole. -/
def invalid (complaints : List Json) (halves : Halves) : Response :=
  if Json.areFinite complaints && !halves.occurInItems complaints then
    .ofFields 400 [
      ("success", .bool false),
      ("error", .string "Invalid request"),
      ("details", .array complaints)]
  else .breakdown

/-- The form, or the response to a request without one. -/
def Reading.form : Reading → Except Response Form
  | .accepted form => .ok form
  | .invalid complaints halves => .error (Web.invalid complaints halves)
  | .refused response => .error response

/-! ## Fields -/

/-- The query. -/
def queryField : FieldNames := ["query"]

/-- The database engine. -/
def databaseField : FieldNames := ["db"]

/-- The table definitions. -/
def schemaField : FieldNames := ["schema", "table_schema"]

/-- The execution plan. -/
def planField : FieldNames := ["executionPlan"]

/-- The execution plan by an older name. -/
def explainField : FieldNames := ["explain"]

namespace Form

/-- The value of a field. -/
def part (form : Form) (field : FieldNames) : Json :=
  Json.ofText? (form.value field)

/-! ## Inquiries -/

/-- The inquiry of a request for a quick analysis. -/
def quickInquiry (form : Form) : Inquiry where
  query := form.part queryField
  schema := form.part schemaField
  plan := if (form.part planField).isVacant then form.part explainField else form.part planField

/-- The inquiry of a request for a consultation. -/
def inquiry (form : Form) : Inquiry where
  query := form.part queryField
  database := form.part databaseField
  schema := form.part schemaField
  plan := form.part planField

end Form
end Web
end SqlReview
