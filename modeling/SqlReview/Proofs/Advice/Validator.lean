import SqlReview.Advice.Validation
import SqlReview.Proofs.Json.Names

/-!
# Packages for validation

A package for validation is a program of its own. `Validator` says what the form of replies relies
on: a text that spells no object is refused as such, the values of accepted fields are handed over as
they are, and everything that is wrong with fields is told, name by name. `Validator.ofSpelling` is
such a package for any way to spell values. Main statement: the kinds of all complaints about fields
follow from what each of the fields holds.
-/

namespace SqlReview
namespace Advice

/-! ## Fields that came -/

theorem nodup_names_latest (fields : Fields) : (latest fields).names.Nodup := by
  have distinct : ∀ before : Fields, before.names.Nodup →
      (fields.foldl (fun latest field => Fields.put field.1 field.2 latest) before).names.Nodup := by
    induction fields with
    | nil => exact fun before distinct => distinct
    | cons field fields inductionHypothesis =>
        exact fun before distinct => inductionHypothesis _ (Fields.nodup_names_put distinct)
  exact distinct [] List.nodup_nil

/-- Fields of which none comes twice are all there. -/
theorem latest_eq_self
    {fields : Fields}
    (distinct : fields.names.Nodup) :
    latest fields = fields := by
  have behind : ∀ before : Fields, (Fields.names (before ++ fields)).Nodup →
      fields.foldl (fun latest field => Fields.put field.1 field.2 latest) before =
        before ++ fields := by
    clear distinct
    induction fields with
    | nil => simp
    | cons field fields inductionHypothesis =>
        intro before distinct
        have isNew : field.1 ∉ Fields.names before := by
          rw [Fields.names, List.map_append, List.nodup_append] at distinct
          intro present
          exact distinct.2.2 field.1 present field.1 (List.mem_cons_self ..) rfl
        rw [List.append_cons] at distinct ⊢
        rw [List.foldl_cons, Fields.put_of_not_mem isNew, inductionHypothesis _ distinct]
  exact behind [] distinct

/-- The kinds of the complaints about a name. -/
def kindsAbout
    (name : Text)
    (complaints : List Complaint) : List Text :=
  (complaints.filter (·.field = some name)).map Complaint.kind

variable {shape : Shape} {fields : Fields}

/-- Whether fields are of a shape, and hold what is handed over. -/
structure HandsOver
    (shape : Shape)
    (fields : Fields)
    (members : Members) : Prop where
  /-- Texts are handed over. -/
  text : ∀ name, (name, Kind.text) ∈ shape.fields →
    fields.get? name = some (.string (members.text name))
  /-- Lists of texts are handed over. -/
  texts : ∀ name, (name, Kind.texts) ∈ shape.fields →
    fields.get? name = some (.array ((members.texts name).map .string))
  /-- There is no other field if there may be none. -/
  noOther : shape.forbidsOthers = true → ∀ name ∈ fields.names, name ∈ shape.names

/-- Whether complaints tell what is wrong with fields. -/
structure Tells
    (shape : Shape)
    (fields : Fields)
    (complaints : List Complaint) : Prop where
  /-- There is something to complain about. -/
  something : complaints ≠ []
  /-- The complaints come field by field, and then by the other names. -/
  inOrder : complaints = (shape.names ++ fields.names.filter (· ∉ shape.names)).flatMap fun name =>
    complaints.filter (·.field = some name)
  /-- A field is missing. -/
  missing : ∀ name ∈ shape.names, fields.get? name = none → kindsAbout name complaints = ["missing"]
  /-- A text is right. -/
  isText : ∀ name text, (name, Kind.text) ∈ shape.fields → fields.get? name = some (.string text) →
    kindsAbout name complaints = []
  /-- Any other value is no text. -/
  notText : ∀ name value, (name, Kind.text) ∈ shape.fields → fields.get? name = some value →
    value.text? = none → kindsAbout name complaints = ["string_type"]
  /-- Each item of a list that is no text is told. -/
  items : ∀ name items, (name, Kind.texts) ∈ shape.fields →
    fields.get? name = some (.array items) →
      kindsAbout name complaints =
        (items.filter (·.text?.isNone)).map fun _ => ("string_type" : Text)
  /-- Any other value is no list. -/
  notList : ∀ name value, (name, Kind.texts) ∈ shape.fields → fields.get? name = some value →
    (∀ items, value ≠ .array items) → kindsAbout name complaints = ["list_type"]
  /-- A name that may not be there is told. -/
  other : shape.forbidsOthers = true → ∀ name ∈ fields.names, name ∉ shape.names →
    kindsAbout name complaints = ["extra_forbidden"]

/-! ## Packages -/

/-- A package that checks whether texts are objects of a strict shape. Which value a text spells, if
it spells one, is for the package to say. Of several values under one name the last counts. -/
structure Validator where
  /-- What the package makes of a shape and a text. -/
  validate : Validation
  /-- The value that a text spells, with the fields of objects as they come. -/
  spells : Text → Option Json
  /-- A text that spells nothing is refused as such. -/
  validate_unreadable : ∀ shape {text}, spells text = none →
    validate shape text = .error [⟨"json_invalid", none⟩]
  /-- A value that is no object is refused as such. -/
  validate_other : ∀ shape {text value}, spells text = some value →
    (∀ fields, value ≠ .object fields) → validate shape text = .error [⟨"model_type", none⟩]
  /-- The values of an object that is accepted are handed over. -/
  handsOver : ∀ {shape text fields members}, shape.isStrict = true →
    spells text = some (.object fields) → validate shape text = .ok members →
      HandsOver shape (latest fields) members
  /-- Of an object that is not accepted it is told what is wrong. -/
  tells : ∀ {shape text fields complaints}, shape.isStrict = true →
    spells text = some (.object fields) → validate shape text = .error complaints →
      Tells shape (latest fields) complaints

/-- Whether a package reads documents in the format itself, if they are not nested more deeply than
two hundred levels. -/
def Validator.ReadsFormat (package : Validator) : Prop :=
  ∀ text value, Json.read (Json.strict (some 200)) text = .ok value →
    package.spells text = some value

/-! ## What is told -/

section Telling

variable {complaints : List Complaint} {name : Text} {kind : Kind}

theorem Tells.kindsAbout_eq
    (tells : Tells shape fields complaints)
    (known : (name, kind) ∈ shape.fields) :
    kindsAbout name complaints = kind.errors (fields.get? name) := by
  cases found : fields.get? name with
  | none =>
      rw [tells.missing name (List.mem_map_of_mem known) found]
      cases kind <;> rfl
  | some value =>
      cases kind with
      | text =>
          cases value with
          | string text => exact tells.isText name text known found
          | _ => exact tells.notText name _ known found rfl
      | texts =>
          cases value with
          | array items => exact tells.items name items known found
          | _ => exact tells.notList name _ known found (by simp)

/-- The kinds of all complaints about fields, where no other names may be there. -/
theorem Tells.kinds_eq
    (tells : Tells shape fields complaints)
    (forbids : shape.forbidsOthers = true) :
    complaints.map Complaint.kind =
      (shape.fields.flatMap fun field => field.2.errors (fields.get? field.1)) ++
        (fields.names.filter (· ∉ shape.names)).map fun _ => ("extra_forbidden" : Text) := by
  have byName : complaints.map Complaint.kind =
      (shape.names ++ fields.names.filter (· ∉ shape.names)).flatMap fun name =>
        kindsAbout name complaints := by
    conv_lhs => rw [tells.inOrder]
    rw [List.map_flatMap]
    rfl
  rw [byName, List.flatMap_append, Shape.names, List.flatMap_map]
  congr 1
  · refine List.flatMap_congr fun field known => tells.kindsAbout_eq ?_
    exact known
  · refine (List.flatMap_congr fun name present => ?_).trans List.map_eq_flatMap.symm
    obtain ⟨present, unknown⟩ := List.mem_filter.mp present
    exact tells.other forbids name present (of_decide_eq_true unknown)

end Telling

/-! ## One package -/

section OnePackage

variable {name : Text} {kind : Kind}

theorem Shape.kind?_eq (known : (name, kind) ∈ shape.fields) : shape.kind? name = some kind := by
  have distinct := shape.distinct
  rw [Shape.kind?]
  generalize shape.fields = entries at known distinct
  induction entries with
  | nil => contradiction
  | cons entry entries inductionHypothesis =>
      obtain ⟨first, distinctRest⟩ := List.nodup_cons.mp distinct
      rcases List.mem_cons.mp known with rfl | later
      · simp
      · have other : entry.1 ≠ name := by
          rintro rfl
          exact first (List.mem_map.mpr ⟨_, later, rfl⟩)
        rw [List.find?_cons_of_neg (by simpa using other)]
        exact inductionHypothesis later distinctRest

theorem Shape.kind?_eq_none (unknown : name ∉ shape.names) : shape.kind? name = none := by
  rw [Shape.kind?, Option.map_eq_none_iff, List.find?_eq_none]
  rintro field present same
  exact unknown (of_decide_eq_true same ▸ List.mem_map_of_mem present)

theorem Shape.field_of_mem_complaintsAbout
    {complaint : Complaint}
    (present : complaint ∈ shape.complaintsAbout fields name) :
    complaint.field = some name := by
  rw [complaintsAbout] at present
  split at present
  · obtain ⟨error, -, rfl⟩ := List.mem_map.mp present
    rfl
  · split at present
    · rw [List.mem_singleton.mp present]
    · contradiction

/-- Among complaints that come name by name, those about a name are told by that name alone. -/
theorem filter_flatMap_about
    {names : List Text}
    (distinct : names.Nodup)
    (present : name ∈ names) :
    (names.flatMap (shape.complaintsAbout fields)).filter (·.field = some name) =
      shape.complaintsAbout fields name := by
  have own : ∀ other, (shape.complaintsAbout fields other).filter (·.field = some name) =
      if other = name then shape.complaintsAbout fields name else [] := by
    intro other
    split
    next same =>
        subst same
        rw [List.filter_eq_self]
        exact fun complaint about => decide_eq_true (Shape.field_of_mem_complaintsAbout about)
    next different =>
        rw [List.filter_eq_nil_iff]
        intro complaint about isName
        rw [decide_eq_true_eq, Shape.field_of_mem_complaintsAbout about] at isName
        exact different (Option.some.inj isName)
  induction names with
  | nil => contradiction
  | cons first names inductionHypothesis =>
      obtain ⟨fresh, distinctRest⟩ := List.nodup_cons.mp distinct
      rw [List.flatMap_cons, List.filter_append, own]
      rcases List.mem_cons.mp present with rfl | later
      · have nothing : (names.flatMap (shape.complaintsAbout fields)).filter
            (·.field = some name) = [] := by
          rw [List.filter_flatMap, List.flatMap_eq_nil_iff]
          intro other isOther
          refine (own other).trans (if_neg ?_)
          rintro rfl
          exact fresh isOther
        rw [if_pos rfl, nothing, List.append_nil]
      · have different : first ≠ name := by
          rintro rfl
          exact fresh later
        rw [if_neg different, List.nil_append]
        exact inductionHypothesis distinctRest later

theorem Shape.nodup_names_append (distinct : fields.names.Nodup) :
    (shape.names ++ fields.names.filter (!shape.names.contains ·)).Nodup := by
  refine List.Nodup.append shape.distinct (distinct.filter _) ?_
  intro name known unknown
  have absent := (List.mem_filter.mp unknown).2
  simp only [Bool.not_eq_true', List.contains_eq_mem, decide_eq_false_iff_not] at absent
  exact absent known

theorem eq_map_string_of_noOthers
    {items : List Json}
    (noOthers : items.filter (·.text?.isNone) = []) :
    items = (items.filterMap Json.text?).map .string := by
  induction items with
  | nil => rfl
  | cons item items inductionHypothesis =>
      cases item with
      | string text => exact congrArg (Json.string text :: ·) (inductionHypothesis noOthers)
      | _ => contradiction

/-- Fields without complaints hold what is handed over. -/
theorem handsOver_members (nothing : shape.complaints fields = []) :
    HandsOver shape fields (Shape.members fields) := by
  have about : ∀ name ∈ shape.names ++ fields.names.filter (!shape.names.contains ·),
      shape.complaintsAbout fields name = [] := List.flatMap_eq_nil_iff.mp nothing
  have right : ∀ name kind, (name, kind) ∈ shape.fields → kind.errors (fields.get? name) = [] := by
    intro name kind known
    have silent := about name (List.mem_append_left _ (List.mem_map_of_mem known))
    rw [Shape.complaintsAbout, Shape.kind?_eq known] at silent
    exact List.map_eq_nil_iff.mp silent
  refine ⟨?_, ?_, ?_⟩
  · intro name known
    have silent := right name .text known
    cases found : fields.get? name with
    | none => simp [found, Kind.errors] at silent
    | some value =>
        cases value with
        | string text => simp [Shape.members, found, Json.text?]
        | _ => simp [found, Kind.errors] at silent
  · intro name known
    have silent := right name .texts known
    cases found : fields.get? name with
    | none => simp [found, Kind.errors] at silent
    | some value =>
        cases value with
        | array items =>
            rw [found, Kind.errors, List.map_eq_nil_iff] at silent
            have texts : (Shape.members fields).texts name = items.filterMap Json.text? := by
              simp [Shape.members, found, textItems]
            rw [texts, ← eq_map_string_of_noOthers silent]
        | _ => simp [found, Kind.errors] at silent
  · intro forbids name present
    by_contra unknown
    have silent := about name (List.mem_append_right _ (List.mem_filter.mpr
      ⟨present, by simp [unknown]⟩))
    simp [Shape.complaintsAbout, Shape.kind?_eq_none unknown, forbids] at silent

/-- The complaints about fields tell what is wrong with them. -/
theorem tells_complaints
    (distinct : fields.names.Nodup)
    (something : shape.complaints fields ≠ []) :
    Tells shape fields (shape.complaints fields) := by
  have about : ∀ name ∈ shape.names ++ fields.names.filter (!shape.names.contains ·),
      (shape.complaints fields).filter (·.field = some name) =
        shape.complaintsAbout fields name :=
    fun name present => filter_flatMap_about (Shape.nodup_names_append distinct) present
  have known : ∀ name kind, (name, kind) ∈ shape.fields →
      kindsAbout name (shape.complaints fields) = kind.errors (fields.get? name) := by
    intro name kind isField
    rw [kindsAbout, about name (List.mem_append_left _ (List.mem_map_of_mem isField)),
      Shape.complaintsAbout, Shape.kind?_eq isField, List.map_map]
    exact List.map_id _
  refine ⟨something, ?_, ?_, ?_, ?_, ?_, ?_, ?_⟩
  · have same : fields.names.filter (· ∉ shape.names) =
        fields.names.filter (!shape.names.contains ·) := by simp
    rw [same]
    exact (List.flatMap_congr fun name present => (about name present)).symm
  · intro name isName absent
    obtain ⟨⟨_, kind⟩, isField, rfl⟩ := List.mem_map.mp isName
    rw [known _ _ isField, absent]
    cases kind <;> rfl
  · intro name text isField found
    rw [known _ _ isField, found]
    rfl
  · intro name value isField found noText
    rw [known _ _ isField, found]
    cases value with
    | string text => contradiction
    | _ => rfl
  · intro name items isField found
    rw [known _ _ isField, found]
    rfl
  · intro name value isField found noList
    rw [known _ _ isField, found]
    cases value with
    | array items => exact absurd rfl (noList items)
    | _ => rfl
  · intro forbids name present unknown
    rw [kindsAbout, about name (List.mem_append_right _ (List.mem_filter.mpr
      ⟨present, by simp [unknown]⟩)), Shape.complaintsAbout, Shape.kind?_eq_none unknown,
      if_pos forbids]
    rfl

/-- The package that checks the values that texts spell. -/
def Validator.ofSpelling (spells : Text → Option Json) : Validator where
  validate := Shape.validate spells
  spells := spells
  validate_unreadable := by
    intro shape text unreadable
    rw [Shape.validate, unreadable]
  validate_other := by
    intro shape text value spelled noObject
    rw [Shape.validate, spelled]
    cases value with
    | object fields => exact absurd rfl (noObject fields)
    | _ => rfl
  handsOver := by
    intro shape text fields members _ spelled accepted
    rw [Shape.validate, spelled] at accepted
    dsimp only at accepted
    split at accepted
    next nothing =>
        obtain rfl := Except.ok.inj accepted
        exact handsOver_members nothing
    next => contradiction
  tells := by
    intro shape text fields complaints _ spelled refused
    rw [Shape.validate, spelled] at refused
    dsimp only at refused
    split at refused
    next => contradiction
    next something =>
        obtain rfl := Except.error.inj refused
        exact tells_complaints (nodup_names_latest fields) something

theorem readsFormat_spelled? : (Validator.ofSpelling Shape.spelled?).ReadsFormat := by
  intro text value spelled
  change (Json.read (Json.strict (some 200)) text).toOption = some value
  rw [spelled]
  rfl

end OnePackage

end Advice
end SqlReview
