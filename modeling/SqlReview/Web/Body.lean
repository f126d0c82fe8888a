import SqlReview.Json.Reader
import SqlReview.Text.Blank
import SqlReview.Text.Utf8
import SqlReview.Web.Form

/-!
# Bodies in UTF-8

One way to read the body of a request: a JSON object in UTF-8, as the header must say, whose known
fields are texts or absent.
-/

namespace SqlReview
namespace Web
namespace Body

/-! ## Documents -/

/-- What a body holds. -/
inductive Payload where
  /-- Nothing. -/
  | absent
  /-- A text that is not said to be a document. -/
  | raw (text : Text)
  /-- A document, and the halves in its texts. -/
  | document (value : Json) (halves : Halves)
  /-- A text that is said to be a document and is none. -/
  | malformed
  /-- A text that is said to be a document and cannot be processed. -/
  | unreadable
  /-- Bytes that are no text. -/
  | undecodable

/-- Whether the header says that the body is a document. -/
def isJsonType (contentType : Text) : Bool :=
  let type := Text.lower (Text.trim (Text.cut ';' contentType).1)
  match Text.splitAt '/' type with
  | [kind, subtype] =>
    kind = "application".toList &&
      (subtype = "json".toList || "+json".toList.isSuffixOf subtype)
  | _ => false

/-- The document in a text, which may start with a byte-order mark. -/
def readDocument (depthLimit : Nat) (text : Text) : Payload :=
  let text := (Text.after? ['\uFEFF'] text).getD text
  match Json.parse (Json.lenient (some depthLimit) text) text with
  | .ok .null => .absent
  | .ok value => .document value (.ofText text)
  | .error .malformed => .malformed
  | .error .numberTooLong | .error .tooDeep => .unreadable

/-- What the body of a request holds. -/
def payload (depthLimit : Nat) (request : Request) : Payload :=
  if request.body.isEmpty then .absent
  else
    match Text.decode? request.body, isJsonType (request.headers.valueOf "content-type") with
    | some text, true => readDocument depthLimit text
    | some text, false => .raw text
    | none, true => .unreadable
    | none, false => .undecodable

/-! ## Complaints -/

/-- A complaint about a part of a request. -/
def complaint (kind : Text) (place : List Text) (message : Text) (input : Json) : Json :=
  .object [
    ("type", .string kind),
    ("loc", .array (place.map .string)),
    ("msg", .string message),
    ("input", input)]

/-- The complaint about a body that is missing. -/
def missingBody : Json :=
  complaint "missing" ["body"] "Field required" .null

/-- The complaint about a body that is no form. -/
def notForm (input : Json) : Json :=
  complaint "model_attributes_type" ["body"]
    "Input should be a valid dictionary or object to extract fields from" input

/-- The complaint about a field that is no text. -/
def notText (name : Text) (input : Json) : Json :=
  complaint "string_type" ["body", name] "Input should be a valid string" input

/-- The complaint about a body that is no document. -/
def notJson : Json :=
  .object [("type", .string "json_invalid")]

/-! ## Fields -/

/-- The name and the value of a field. -/
def findField (fields : Fields) (names : FieldNames) : Option (Text × Json) :=
  names.findSome? fun name => (fields.get? name).map fun value => (name, value)

/-- The complaint about a field, if there is one. -/
def fieldComplaint? (fields : Fields) (names : FieldNames) : Option Json :=
  match findField fields names with
  | none | some (_, .null) | some (_, .string _) => none
  | some (name, value) => some (notText name value)

/-- The form that fields are. -/
def form (fields : Fields) (halves : Halves) : Form where
  value names := (findField fields names).bind fun field => field.2.text?
  halves := halves

/-- What a body is read as, where arrays and objects may be nested up to a depth. -/
def reader (depthLimit : Nat) : BodyReader := fun known request =>
  match payload depthLimit request with
  | .absent => .invalid [missingBody] .none
  | .raw text => .invalid [notForm (.string text)] .none
  | .malformed => .invalid [notJson] .none
  | .unreadable => .refused (.detail 400 "There was an error parsing the body")
  | .undecodable => .refused .breakdown
  | .document (.object fields) halves =>
    match known.filterMap (fieldComplaint? fields) with
    | [] => .accepted (form fields halves)
    | complaints => .invalid complaints halves
  | .document value halves => .invalid [notForm value] halves

end Body
end Web
end SqlReview
