import SqlReview.Proofs.Access.Identity
import SqlReview.Proofs.Json.Ascii
import SqlReview.Web.Application
import SqlReview.Web.Body

/-!
# Visits

A visit is a request that reaches an endpoint with a good form, that is, with a body that the
framework accepts. Whatever the endpoint answers is sent as it is, but for a header field that opens it
to the page that the request came from. To a framework that reads documents in UTF-8, texts under
distinct names make a visit.
-/

namespace SqlReview
namespace Web

open Access Advice

/-! ## Forms -/

/-- Whether a part of an inquiry is a text, or nothing. -/
def IsEntry (value : Json) : Prop :=
  value = .null ∨ ∃ text, value = .string text

/-- Whether a form holds a text in a field that is not blank. -/
def HoldsText
    (form : Form)
    (field : FieldNames)
    (text : Text) : Prop :=
  form.value field = some text ∧ text.isAllBlank = false

section Forms

variable {form : Form} {field : FieldNames} {text other : Text}

theorem isEntry_part
    (form : Form)
    (field : FieldNames) :
    IsEntry (form.part field) := by
  rw [Form.part]
  cases form.value field with
  | none => exact Or.inl rfl
  | some text => exact Or.inr ⟨text, rfl⟩

theorem HoldsText.unique
    (holds : HoldsText form field text)
    (holdsOther : HoldsText form field other) :
    other = text :=
  Option.some.inj (holdsOther.1.symm.trans holds.1)

theorem usableText?_part_iff :
    usableText? (form.part field) = some text ↔ HoldsText form field text := by
  rw [HoldsText, Form.part]
  cases form.value field with
  | none => simp [usableText?, Json.ofText?, Json.text?]
  | some given =>
      have usable : usableText? (Json.ofText? (some given)) = some text ↔
          ¬given.isAllBlank = true ∧ some given = some text := Option.ite_none_left_eq_some
      rw [usable]
      constructor
      · rintro ⟨solid, same⟩
        obtain rfl := Option.some.inj same
        exact ⟨rfl, Bool.eq_false_iff.mpr solid⟩
      · rintro ⟨same, solid⟩
        obtain rfl := Option.some.inj same
        exact ⟨by simp [solid], rfl⟩

end Forms

/-! ## Requests that reach an endpoint -/

/-- The fields of the form that an endpoint knows. -/
def Endpoint.fields : Endpoint → List FieldNames
  | .analyze => quickFields
  | .optimize => consultationFields
  | .health => []

/-- A request that reaches an endpoint with a body that is read as a good form, and when it is
handled. -/
structure Visit (τ : Type) (readBody : BodyReader) (endpoint : Endpoint) where
  /-- When the request is handled. -/
  occasion : Occasion τ
  /-- The request. -/
  request : Request
  /-- The form in its body. -/
  form : Form
  /-- The request has the method of the endpoint. -/
  hasMethod : request.method = endpoint.method
  /-- The request is for the path of the endpoint. -/
  hasPath : request.path = endpoint.path
  /-- The body of the request is read as the form. -/
  hasForm : readBody endpoint.fields request = .accepted form

@[simp] theorem status_openToOrigin
    (request : Request)
    (response : Response) :
    (openToOrigin request response).status = response.status := by
  rw [openToOrigin]
  split <;> rfl

@[simp] theorem content_openToOrigin
    (request : Request)
    (response : Response) :
    (openToOrigin request response).content = response.content := by
  rw [openToOrigin]
  split <;> rfl

theorem Endpoint.at?_path (endpoint : Endpoint) : Endpoint.at? endpoint.path = some endpoint := by
  cases endpoint <;> decide

namespace Visit

variable {τ σ : Type} {readBody : BodyReader} {endpoint : Endpoint}

/-- What comes of a visit to a service for given users. -/
def handling
    [CommentRemover]
    (service : Service τ σ)
    (tokens : Fields)
    (visit : Visit τ readBody endpoint)
    (records : σ) : Handling σ :=
  handle ⟨.ok service, .ok tokens, readBody⟩ visit.occasion visit.request records

/-- A visit is served by its endpoint. -/
theorem handling_eq
    [CommentRemover]
    (service : Service τ σ)
    (tokens : Fields)
    (visit : Visit τ readBody endpoint)
    (records : σ) :
    visit.handling service tokens records =
      let handling := serve ⟨.ok service, .ok tokens, readBody⟩ visit.occasion visit.request records
        endpoint
      { handling with response := openToOrigin visit.request handling.response } := by
  have noQuestion : askedMethod? visit.request = none := by
    rw [askedMethod?, visit.hasMethod]
    cases endpoint <;> rfl
  have noHead : endpoint.method ≠ "HEAD".toList := by
    cases endpoint <;> decide
  rw [handling, handle, noQuestion]
  simp only [route, finish, visit.hasPath, visit.hasMethod, Endpoint.at?_path, if_true,
    if_neg noHead]

/-- The caller behind a visit. -/
def caller
    (tokens : Fields)
    (visit : Visit τ readBody endpoint) : Caller :=
  callerOf visit.request.headers visit.request.peer tokens

/-- Whether the header presents a token that is configured for a user. -/
def IsUser
    (tokens : Fields)
    (visit : Visit τ readBody endpoint) : Prop :=
  ∃ token, HeadersPresent visit.request.headers token ∧ ∃ entry ∈ tokens, ComparesAs entry.2 token

theorem isAuthenticated_caller_iff
    {tokens : Fields}
    {visit : Visit τ readBody endpoint} :
    (visit.caller tokens).isAuthenticated = true ↔ visit.IsUser tokens :=
  isAuthenticated_callerOf_iff

end Visit

/-! ## Documents in ASCII -/

/-- A request for an endpoint with a document in ASCII. -/
def Endpoint.requestWith
    (endpoint : Endpoint)
    (headers : Headers)
    (peer : Option Text)
    (document : Text) : Request where
  method := endpoint.method
  target := endpoint.path
  headers := ("content-type", "application/json") :: headers
  body := Json.bytes document
  peer := peer

section Documents

variable {depthLimit : Nat} {document : Text} {fields : Fields}

theorem valueOf_contentType
    (headers : Headers)
    (type : Text) :
    Headers.valueOf (("content-type", type) :: headers) "content-type" = type := by
  have same : Text.lower "content-type" = "content-type".toList := by decide +kernel
  rw [Headers.valueOf, Headers.get?, List.find?_cons]
  simp only [same, decide_true]
  rfl

/-- An object in a document in ASCII is read as it is spelled. -/
theorem Body.payload_requestWith
    (ascii : Json.IsAscii document)
    (spelled : Json.parse (Json.lenient (some depthLimit) document) document = .ok (.object fields))
    (endpoint : Endpoint)
    (headers : Headers)
    (peer : Option Text) :
    Body.payload depthLimit (endpoint.requestWith headers peer document) =
      .document (.object fields) (.ofText document) := by
  have isDocument : Body.isJsonType "application/json" = true := by decide
  cases document with
  | nil => contradiction
  | cons c rest =>
      -- The byte-order mark is beyond ASCII.
      have unmarked : Text.after? ['\uFEFF'] (c :: rest) = none := by
        apply if_neg
        have small := ascii c List.mem_cons_self
        intro marked
        obtain rfl : '\uFEFF' = c := by simpa using marked
        exact absurd small (by decide)
      rw [Body.payload, Endpoint.requestWith, valueOf_contentType, Json.decode?_bytes ascii,
        isDocument]
      dsimp only
      rw [Body.readDocument, unmarked]
      dsimp only [Option.getD_none]
      rw [spelled]
      rfl

/-- A document in ASCII that spells good fields is read as a form. -/
theorem Body.reader_requestWith
    (ascii : Json.IsAscii document)
    (spelled : Json.parse (Json.lenient (some depthLimit) document) document = .ok (.object fields))
    {known : List FieldNames}
    (good : ∀ names ∈ known, Body.fieldComplaint? fields names = none)
    (endpoint : Endpoint)
    (headers : Headers)
    (peer : Option Text) :
    Body.reader depthLimit known (endpoint.requestWith headers peer document) =
      .accepted (Body.form fields (.ofText document)) := by
  have noComplaint : known.filterMap (Body.fieldComplaint? fields) = [] :=
    List.filterMap_eq_nil_iff.mpr good
  rw [Body.reader, Body.payload_requestWith ascii spelled]
  simp only [noComplaint]

end Documents

/-! ## Texts under names -/

/-- Fields that hold texts. -/
def textFields (texts : List (Text × Text)) : Fields :=
  texts.map fun field => (field.1, .string field.2)

section TextFields

variable {texts : List (Text × Text)}

theorem isReadable_textFields
    {tolerance : Json.Tolerance}
    (allowed : tolerance.allows 0 = true)
    (distinct : (texts.map Prod.fst).Nodup) :
    Json.IsReadable tolerance 0 (.object (textFields texts)) := by
  refine .object allowed ?_ ?_
  · rwa [Fields.names, textFields, List.map_map]
  · intro field present
    obtain ⟨text, -, rfl⟩ := List.mem_map.mp present
    exact .string

theorem isString_of_findField
    {names : FieldNames}
    {name : Text}
    {value : Json}
    (found : Body.findField (textFields texts) names = some (name, value)) :
    ∃ text, value = .string text := by
  obtain ⟨known, -, here⟩ := List.exists_of_findSome?_eq_some found
  obtain ⟨_, got, same⟩ := Option.map_eq_some_iff.mp here
  obtain ⟨field, held, rfl⟩ := Option.map_eq_some_iff.mp got
  obtain ⟨text, -, rfl⟩ := List.mem_map.mp (List.mem_of_find?_eq_some held)
  exact ⟨text.2, (Prod.mk.inj same).2.symm⟩

theorem fieldComplaint?_textFields
    (texts : List (Text × Text))
    (names : FieldNames) :
    Body.fieldComplaint? (textFields texts) names = none := by
  rw [Body.fieldComplaint?]
  cases found : Body.findField (textFields texts) names with
  | none => rfl
  | some field =>
      obtain ⟨name, value⟩ := field
      obtain ⟨text, rfl⟩ := isString_of_findField found
      rfl

/-- The texts under names that a document holds, if it is an object of texts. -/
def textsIn? (tolerance : Json.Tolerance) (document : Text) : Option (List (Text × Text)) :=
  match Json.parse tolerance document with
  | .ok (.object fields) => fields.mapM fun field => field.2.text?.map fun text => (field.1, text)
  | _ => none

theorem eq_textFields_of_mapM
    {fields : Fields}
    (read : (fields.mapM fun field => field.2.text?.map fun text => (field.1, text)) = some texts) :
    fields = textFields texts := by
  induction fields generalizing texts with
  | nil =>
      obtain rfl : [] = texts := Option.some.inj read
      rfl
  | cons field fields inductionHypothesis =>
      obtain ⟨name, value⟩ := field
      simp only [List.mapM_cons, Option.bind_eq_bind, Option.bind_eq_some_iff,
        Option.map_eq_some_iff, Option.pure_def, Option.some.injEq] at read
      obtain ⟨_, ⟨text, isText, rfl⟩, rest, restRead, rfl⟩ := read
      cases value with
      | string given =>
          obtain rfl := Option.some.inj isText
          rw [inductionHypothesis restRead]
          rfl
      | _ => contradiction

/-- An object of texts is read as its texts. -/
theorem parse_of_textsIn?
    {tolerance : Json.Tolerance}
    {document : Text}
    (read : textsIn? tolerance document = some texts) :
    Json.parse tolerance document = .ok (.object (textFields texts)) := by
  rw [textsIn?] at read
  split at read
  next fields parsed => rw [parsed, eq_textFields_of_mapM read]
  next => contradiction

/-- The visit with a document in ASCII that spells texts under names. -/
def Visit.ofDocument
    {τ : Type}
    {endpoint : Endpoint}
    {depthLimit : Nat}
    {document : Text}
    (occasion : Occasion τ)
    (headers : Headers)
    (peer : Option Text)
    (ascii : Json.IsAscii document)
    (spelled : Json.parse (Json.lenient (some depthLimit) document) document =
      .ok (.object (textFields texts))) : Visit τ (Body.reader depthLimit) endpoint where
  occasion := occasion
  request := endpoint.requestWith headers peer document
  form := Body.form (textFields texts) (.ofText document)
  hasMethod := rfl
  hasPath := by cases endpoint <;> rfl
  hasForm := Body.reader_requestWith ascii spelled
    (fun names _ => fieldComplaint?_textFields texts names) endpoint headers peer

/-- The visit with texts under distinct names, for a framework that allows objects. -/
def Visit.ofTexts
    {τ : Type}
    {endpoint : Endpoint}
    {depthLimit : Nat}
    (occasion : Occasion τ)
    (headers : Headers)
    (peer : Option Text)
    (texts : List (Text × Text))
    (distinct : (texts.map Prod.fst).Nodup)
    (allowed : 0 < depthLimit) : Visit τ (Body.reader depthLimit) endpoint :=
  let document := Json.render (.object (textFields texts))
  have readable : Json.IsReadable (Json.lenient (some depthLimit) document) 0
      (.object (textFields texts)) :=
    isReadable_textFields (decide_eq_true allowed) distinct
  .ofDocument occasion headers peer (Json.isAscii_write readable 0) (Json.parse_render readable)

end TextFields
end Web
end SqlReview
