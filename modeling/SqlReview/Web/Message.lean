import SqlReview.Json.Token
import SqlReview.Text.Case

/-!
# Requests and responses

The messages that the service exchanges with its callers over the web. Names of header fields are
compared without regard to case, and of several fields with one name the first counts.
-/

namespace SqlReview
namespace Web

/-! ## Header fields -/

/-- Header fields, as names and values. -/
abbrev Headers := List (Text × Text)

namespace Headers

/-- The value of the first field with a name, which must be given in lower case. -/
def get? (headers : Headers) (name : Text) : Option Text :=
  (headers.find? fun field => Text.lower field.1 = name).map Prod.snd

/-- The value of the first field with a name, or the empty text. -/
def valueOf (headers : Headers) (name : Text) : Text :=
  (headers.get? name).getD []

end Headers
/-! ## Requests -/

/-- A request. -/
structure Request where
  /-- The method. -/
  method : Text
  /-- The path, with a query part if there is one. -/
  target : Text
  /-- The header fields. -/
  headers : Headers := []
  /-- The body. -/
  body : List UInt8 := []
  /-- The peer of the connection, if it is known. -/
  peer : Option Text := none

/-- The path of a request without the query part. -/
def Request.path (request : Request) : Text :=
  (Text.cut '?' request.target).1

/-! ## Responses -/

/-- The body of a response. -/
inductive Content where
  /-- A document. -/
  | json (value : Json)
  /-- A text. -/
  | text (text : Text)

/-- A response. -/
structure Response where
  /-- The status. -/
  status : Nat
  /-- The body. -/
  content : Content
  /-- The header fields, besides the one for the type of the body. -/
  headers : Headers := []
  /-- The type of the body. -/
  contentType : Text := "application/json"
  /-- Whether pages of other origins may read it. -/
  isOpen : Bool := true

namespace Response

/-- A response with a document of given fields. -/
def ofFields (status : Nat) (fields : Fields) : Response :=
  { status := status, content := .json (.object fields) }

/-- A response with a plain text. -/
def ofText (status : Nat) (text : Text) : Response :=
  { status := status, content := .text text, contentType := "text/plain; charset=utf-8" }

/-- A response that gives a detail of what is wrong. -/
def detail (status : Nat) (detail : Text) : Response :=
  ofFields status [("detail", .string detail)]

/-- The response of a service that broke down. -/
def breakdown : Response :=
  { ofText 500 "Internal Server Error" with isOpen := false }

/-- The response with more header fields. -/
def withHeaders (response : Response) (headers : Headers) : Response :=
  { response with headers := response.headers ++ headers }

/-- The response without its body. -/
def withoutBody (response : Response) : Response :=
  { response with content := .text [] }

end Response

/-! ## Halves of code points -/

/-- The characters that stand for halves of code points in the texts of a request. They are for
private use, and stand for nothing else there. -/
structure Halves where
  /-- Whether a character stands for a half. -/
  isHalf : Char → Bool
  /-- What stands for a half is for private use. -/
  isPrivate : ∀ c, isHalf c = true → Json.isPrivate c = true

namespace Halves

/-- The halves of texts that are whole. -/
def none : Halves where
  isHalf _ := false
  isPrivate _ absurd := Bool.noConfusion absurd

/-- The halves in the texts of a document. -/
def ofText (text : Text) : Halves where
  isHalf := Json.isSpare text
  isPrivate _ spare := (Bool.and_eq_true_iff.mp spare).1

mutual

/-- Whether a document mentions a half. -/
def occurIn (halves : Halves) : Json → Bool
  | .string text => text.any halves.isHalf
  | .array items => occurInItems halves items
  | .object fields => occurInFields halves fields
  | _ => false

/-- Whether items mention a half. -/
def occurInItems (halves : Halves) : List Json → Bool
  | [] => false
  | item :: items => halves.occurIn item || halves.occurInItems items

/-- Whether fields mention a half. -/
def occurInFields (halves : Halves) : List (Text × Json) → Bool
  | [] => false
  | (name, value) :: fields =>
    name.any halves.isHalf || halves.occurIn value || halves.occurInFields fields

end

end Halves
end Web
end SqlReview
