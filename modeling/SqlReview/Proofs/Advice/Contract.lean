import SqlReview.Advice.Reply
import SqlReview.Proofs.Advice.Validator

/-!
# The form of replies

An answer of the reasoning engine is accepted if it is an object with the five agreed fields and
no other, in any order. Main statement, for any package that validates the answer: the advice is then
exactly what the fields hold, and of any other answer the failure reports all that is wrong: that it
is no document, that it is no object, or what is wrong with each field in the agreed order and with
each name that does not belong there.
-/

namespace SqlReview
namespace Advice
namespace Reply

/-! ## What is reported -/

/-- What is wrong with the fields of an answer. -/
def fieldErrors (fields : Fields) : List Text :=
  Kind.text.errors (fields.get? "analysis") ++ Kind.texts.errors (fields.get? "warnings") ++
    Kind.text.errors (fields.get? "rewrittenQuery") ++
    Kind.text.errors (fields.get? "recommendedIndexes") ++ Kind.text.errors (fields.get? "notes") ++
    (fields.names.filter (· ∉ shape.names)).map fun _ => ("extra_forbidden" : Text)

/-- What is wrong with the value that an answer spells, if it spells one. -/
def errors : Option Json → List Text
  | none => ["json_invalid"]
  | some (.object fields) => fieldErrors (latest fields)
  | some _ => ["model_type"]

/-! ## Fields that are accepted -/

variable {fields : Fields} {reply other : Reply} {members : Members} {complaints : List Complaint}

theorem names_fields (reply : Reply) : reply.fields.names = shape.names := rfl

theorem nodup_names_fields (reply : Reply) : reply.fields.names.Nodup := by
  rw [names_fields]
  exact shape.distinct

/-- Fields are those of a reply, in some order, if each of them is and there is no other. -/
theorem perm_fields_iff (distinct : fields.names.Nodup) :
    fields.Perm reply.fields ↔
      fields.get? "analysis" = some (.string reply.analysis) ∧
        fields.get? "warnings" = some (.array (reply.warnings.map .string)) ∧
        fields.get? "rewrittenQuery" = some (.string reply.saferQuery) ∧
        fields.get? "recommendedIndexes" = some (.string reply.recommendedIndexes) ∧
        fields.get? "notes" = some (.string reply.notes) ∧
        ∀ name ∈ fields.names, name ∈ shape.names := by
  rw [Fields.perm_iff_get? distinct (nodup_names_fields reply)]
  constructor
  · intro same
    refine ⟨same _, same _, same _, same _, same _, ?_⟩
    intro name present
    by_contra unknown
    have absent : reply.fields.get? name = none := Fields.get?_eq_none_iff.mpr unknown
    rw [← same, Fields.get?_eq_none_iff] at absent
    exact absent present
  · rintro ⟨analysis, warnings, saferQuery, indexes, notes, noOther⟩ name
    by_cases known : name ∈ shape.names
    · simp only [Shape.names, shape, List.map_cons, List.map_nil, List.mem_cons, List.not_mem_nil,
        or_false] at known
      rcases known with rfl | rfl | rfl | rfl | rfl
      · exact analysis
      · exact warnings
      · exact saferQuery
      · exact indexes
      · exact notes
    · have absent : name ∉ fields.names := fun present => known (noOther name present)
      rw [Fields.get?_eq_none_iff.mpr absent]
      exact (Fields.get?_eq_none_iff.mpr known).symm

/-- No two replies have the same fields. -/
theorem eq_of_perm (same : reply.fields.Perm other.fields) : reply = other := by
  obtain ⟨analysis, warnings, saferQuery, indexes, notes, -⟩ :=
    (perm_fields_iff (nodup_names_fields reply)).mp same
  have areWarnings : reply.warnings.map Json.string = other.warnings.map Json.string :=
    Json.array.inj (Option.some.inj warnings)
  cases reply
  cases other
  simp only [mk.injEq]
  exact ⟨Json.string.inj (Option.some.inj analysis),
    List.map_injective_iff.mpr (fun _ _ => Json.string.inj) areWarnings,
    Json.string.inj (Option.some.inj saferQuery), Json.string.inj (Option.some.inj indexes),
    Json.string.inj (Option.some.inj notes)⟩

/-- What is handed over are the fields of the advice. -/
theorem perm_of_handsOver
    (distinct : fields.names.Nodup)
    (handsOver : HandsOver shape fields members) :
    fields.Perm (ofMembers members).fields := by
  rw [perm_fields_iff distinct]
  exact ⟨handsOver.text _ (by simp [shape]), handsOver.texts _ (by simp [shape]),
    handsOver.text _ (by simp [shape]), handsOver.text _ (by simp [shape]),
    handsOver.text _ (by simp [shape]), handsOver.noOther rfl⟩

theorem errors_texts (texts : List Text) :
    Kind.texts.errors (some (.array (texts.map .string))) = [] := by
  rw [Kind.errors, List.map_eq_nil_iff, List.filter_eq_nil_iff]
  intro item present
  obtain ⟨text, -, rfl⟩ := List.mem_map.mp present
  exact Bool.false_ne_true

/-- Nothing is wrong with the fields of a reply. -/
theorem fieldErrors_of_perm
    (distinct : fields.names.Nodup)
    (order : fields.Perm reply.fields) :
    fieldErrors fields = [] := by
  obtain ⟨analysis, warnings, saferQuery, indexes, notes, noOther⟩ :=
    (perm_fields_iff distinct).mp order
  have noOthers : fields.names.filter (· ∉ shape.names) = [] := by
    rw [List.filter_eq_nil_iff]
    intro name present unknown
    exact of_decide_eq_true unknown (noOther name present)
  rw [fieldErrors, analysis, warnings, saferQuery, indexes, notes, noOthers, errors_texts]
  rfl

/-- What is told about fields is reported. -/
theorem kinds_eq_fieldErrors (tells : Tells shape fields complaints) :
    complaints.map Complaint.kind = fieldErrors fields := by
  rw [tells.kinds_eq rfl, fieldErrors]
  simp only [shape, List.flatMap_cons, List.flatMap_nil, List.append_nil, List.append_assoc]

/-! ## Answers -/

variable {package : Validator} {answer : Text}

/-- What a package says about an answer: either it hands over the fields of an object that are the
agreed ones, or it tells what is wrong. -/
theorem validate_cases
    (package : Validator)
    (answer : Text) :
    (∃ fields members, package.spells answer = some (.object fields) ∧
        package.validate shape answer = .ok members ∧
        (latest fields).Perm (ofMembers members).fields) ∨
      ∃ complaints, package.validate shape answer = .error complaints ∧
        complaints.map Complaint.kind = errors (package.spells answer) ∧ complaints ≠ [] := by
  cases spelled : package.spells answer with
  | none =>
      exact Or.inr ⟨_, package.validate_unreadable shape spelled, rfl, List.cons_ne_nil _ _⟩
  | some value =>
      cases value with
      | object fields =>
          cases validated : package.validate shape answer with
          | ok members =>
              exact Or.inl ⟨fields, members, rfl, rfl,
                perm_of_handsOver (nodup_names_latest fields)
                  (package.handsOver rfl spelled validated)⟩
          | error complaints =>
              have tells := package.tells rfl spelled validated
              exact Or.inr ⟨complaints, rfl, kinds_eq_fieldErrors tells, tells.something⟩
      | _ =>
          exact Or.inr ⟨_, package.validate_other shape spelled (by simp), rfl,
            List.cons_ne_nil _ _⟩

/-- An answer, which is any Unicode text, is accepted if and only if it spells an object whose fields
are, in some order, the five agreed ones, and the advice is what they hold. Of any other answer the
failure says what is wrong, and something always is. -/
theorem parse_contract
    (package : Validator)
    (answer : Text) :
    (∀ reply, parse package.validate answer = .ok reply ↔
      ∃ fields, package.spells answer = some (.object fields) ∧
        (latest fields).Perm reply.fields) ∧
    ∀ failure, parse package.validate answer = .error failure →
      errors (package.spells answer) ≠ [] ∧
        failure = ⟨.engineReplyMalformed, "Invalid AI response format",
          [("errors", .array ((errors (package.spells answer)).map .string))]⟩ := by
  rcases validate_cases package answer with
    ⟨fields, members, spelled, validated, order⟩ | ⟨complaints, validated, kinds, something⟩
  · have parsed : parse package.validate answer = .ok (ofMembers members) := by
      rw [parse, validated]
    rw [parsed]
    refine ⟨fun reply => ?_, by simp⟩
    constructor
    · intro same
      obtain rfl := Except.ok.inj same
      exact ⟨fields, spelled, order⟩
    · rintro ⟨others, spelledToo, orderToo⟩
      rw [spelled, Option.some.injEq, Json.object.injEq] at spelledToo
      subst spelledToo
      rw [eq_of_perm (order.symm.trans orderToo)]
  · have parsed : parse package.validate answer =
        .error (malformed [("errors", .array ((errors (package.spells answer)).map .string))]) := by
      rw [parse, validated, ← kinds, List.map_map]
      rfl
    have reports : errors (package.spells answer) ≠ [] := by
      rw [← kinds]
      exact fun nothing => something (List.map_eq_nil_iff.mp nothing)
    rw [parsed]
    refine ⟨fun reply => iff_of_false (by simp) ?_, ?_⟩
    · rintro ⟨fields, spelled, order⟩
      apply reports
      rw [spelled]
      exact fieldErrors_of_perm (nodup_names_latest fields) order
    · intro failure same
      exact ⟨reports, (Except.error.inj same).symm⟩

/-- An answer in another order, in which a name comes twice. -/
def shuffledAnswer : Text :=
  "\x7b\"notes\": \"n\", \"analysis\": 0, \"warnings\": [\"w\"], \"rewrittenQuery\": \"q\", ".toList ++
    "\"recommendedIndexes\": \"\", \"analysis\": \"a\"\x7d".toList

/-- An answer with a number for a text, an item that is no text, a missing field and another one. -/
def wrongAnswer : Text :=
  "\x7b\"warnings\": [\"w\", 2], \"analysis\": 1, \"more\": null, \"notes\": \"n\", ".toList ++
    "\"rewrittenQuery\": \"q\"\x7d".toList

set_option maxRecDepth 4000 in
theorem spelled?_shuffledAnswer :
    Shape.spelled? shuffledAnswer = some (.object [("notes", .string "n"), ("analysis", .int 0),
      ("warnings", .array [.string "w"]), ("rewrittenQuery", .string "q"),
      ("recommendedIndexes", .string ""), ("analysis", .string "a")]) := by
  rfl

set_option maxRecDepth 4000 in
theorem errors_spelled?_wrongAnswer :
    errors (Shape.spelled? wrongAnswer) =
      (["string_type", "string_type", "missing", "extra_forbidden"] : List Text) := by
  rfl

set_option maxRecDepth 4000 in
/-- A package that reads the format itself accepts the one answer, and tells all that is wrong with
the other. -/
theorem parse_contract_spelled :
    parse (Validator.ofSpelling Shape.spelled?).validate shuffledAnswer =
        .ok ⟨"a", ["w"], "q", "", "n"⟩ ∧
      parse (Validator.ofSpelling Shape.spelled?).validate wrongAnswer =
        .error (malformed [("errors", .array [.string "string_type", .string "string_type",
          .string "missing", .string "extra_forbidden"])]) := by
  have contract := parse_contract (Validator.ofSpelling Shape.spelled?)
  constructor
  · refine ((contract shuffledAnswer).1 _).mpr ⟨_, spelled?_shuffledAnswer, ?_⟩
    rw [perm_fields_iff (nodup_names_latest _)]
    exact ⟨rfl, rfl, rfl, rfl, rfl, by decide⟩
  · cases parsed : parse (Validator.ofSpelling Shape.spelled?).validate wrongAnswer with
    | error failure =>
        have wrong : errors ((Validator.ofSpelling Shape.spelled?).spells wrongAnswer) = _ :=
          errors_spelled?_wrongAnswer
        rw [((contract wrongAnswer).2 failure parsed).2, wrong]
        rfl
    | ok reply =>
        obtain ⟨fields, spelled, order⟩ := ((contract wrongAnswer).1 reply).mp parsed
        have silent := fieldErrors_of_perm (nodup_names_latest fields) order
        have wrong := errors_spelled?_wrongAnswer
        rw [show Shape.spelled? wrongAnswer = _ from spelled, errors, silent] at wrong
        contradiction

end Reply
end Advice
end SqlReview
