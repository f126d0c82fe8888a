import SqlReview.Json.Reader

/-!
# Validation

Whether a text is a document of a given shape is for a package of its own to say. It answers with
what the fields hold, or with complaints about all that is wrong. Everything here that asks for a
validation gets it as a parameter; `Shape.validate` is one.
-/

namespace SqlReview
namespace Advice

/-! ## Shapes -/

/-- What a field holds. -/
inductive Kind where
  /-- A text. -/
  | text
  /-- A list of texts. -/
  | texts
  deriving DecidableEq, Repr

/-- The shape of an object. -/
structure Shape where
  /-- The fields, all of which must be there, with what they hold. -/
  fields : List (Text × Kind)
  /-- Whether there may be no other fields. -/
  forbidsOthers : Bool
  /-- Whether a value of another type is never converted. -/
  isStrict : Bool
  /-- No field comes twice. -/
  distinct : (fields.map Prod.fst).Nodup

/-- The names of the fields. -/
def Shape.names (shape : Shape) : List Text :=
  shape.fields.map Prod.fst

/-! ## Validations -/

/-- A complaint about a text. -/
structure Complaint where
  /-- What is wrong. -/
  kind : Text
  /-- The field that it is about, if it is about one. -/
  field : Option Text := none
  deriving DecidableEq, Repr

/-- What the fields of a text hold. -/
structure Members where
  /-- The text in a field. -/
  text : Text → Text
  /-- The texts in a field. -/
  texts : Text → List Text

/-- What a package makes of a shape and a text. -/
abbrev Validation := Shape → Text → Except (List Complaint) Members

/-! ## One validation -/

/-- The fields with the last of the values under each name. -/
def latest (fields : Fields) : Fields :=
  fields.foldl (fun latest field => Fields.put field.1 field.2 latest) []

/-- The texts among the items of a list. -/
def textItems : Json → List Text
  | .array items => items.filterMap Json.text?
  | _ => []

/-- What is wrong with the value of a field, if there is one. -/
def Kind.errors : Kind → Option Json → List Text
  | _, none => ["missing"]
  | .text, some (.string _) => []
  | .text, some _ => ["string_type"]
  | .texts, some (.array items) => (items.filter (·.text?.isNone)).map fun _ => "string_type"
  | .texts, some _ => ["list_type"]

namespace Shape

/-- What a field of a name holds, if there is one. -/
def kind? (shape : Shape) (name : Text) : Option Kind :=
  (shape.fields.find? (·.1 = name)).map Prod.snd

/-- The complaints about a name. -/
def complaintsAbout (shape : Shape) (fields : Fields) (name : Text) : List Complaint :=
  match shape.kind? name with
  | some kind => (kind.errors (fields.get? name)).map fun error => ⟨error, name⟩
  | none => if shape.forbidsOthers then [⟨"extra_forbidden", name⟩] else []

/-- The complaints about the fields of a shape, and then about other names. -/
def complaints (shape : Shape) (fields : Fields) : List Complaint :=
  (shape.names ++ fields.names.filter (!shape.names.contains ·)).flatMap
    (shape.complaintsAbout fields)

/-- What fields hold. -/
def members (fields : Fields) : Members where
  text name := ((fields.get? name).bind Json.text?).getD []
  texts name := ((fields.get? name).map textItems).getD []

/-- The validation of the values that texts spell, in which nothing is ever converted. -/
def validate (spells : Text → Option Json) : Validation := fun shape text =>
  match spells text with
  | none => .error [⟨"json_invalid", none⟩]
  | some (.object fields) =>
    match shape.complaints (latest fields) with
    | [] => .ok (members (latest fields))
    | complaints => .error complaints
  | some _ => .error [⟨"model_type", none⟩]

/-- The value that a text spells in the format itself, with two hundred levels at most. -/
def spelled? (text : Text) : Option Json :=
  (Json.read (Json.strict (some 200)) text).toOption

end Shape
end Advice
end SqlReview
