import Mathlib.Data.List.Nodup
import SqlReview.Json.Reader

/-!
# Names in objects

However often a name comes in an object that is read, it names one field: a later value takes the
place of an earlier one. Main statement: the fields of an object that was read have distinct names.
So to look a name up is to ask which field is there under it.
-/

namespace SqlReview

/-! ## Fields -/

namespace Fields

variable {fields : Fields} {name other : Text} {value : Json}

@[simp] theorem names_nil : names [] = [] := rfl

@[simp] theorem names_cons
    (field : Text × Json)
    (fields : Fields) :
    names (field :: fields) = field.1 :: fields.names := rfl

theorem mem_names_of_mem
    {field : Text × Json}
    (present : field ∈ fields) :
    field.1 ∈ fields.names :=
  List.mem_map_of_mem present

theorem mem_names_put :
    other ∈ (put name value fields).names ↔ other = name ∨ other ∈ fields.names := by
  induction fields with
  | nil => simp
  | cons field fields inductionHypothesis =>
      rw [put]
      by_cases same : field.1 = name
      · simp [same]
      · simp only [if_neg same, names_cons, List.mem_cons, inductionHypothesis]
        exact or_left_comm

theorem eq_or_mem_of_mem_put
    {field : Text × Json}
    (present : field ∈ put name value fields) :
    field = (name, value) ∨ field ∈ fields := by
  induction fields with
  | nil => exact Or.inl (List.mem_singleton.mp present)
  | cons first fields inductionHypothesis =>
      rw [put] at present
      split at present
      · rcases List.mem_cons.mp present with here | later
        · exact Or.inl here
        · exact Or.inr (.tail _ later)
      · rcases List.mem_cons.mp present with rfl | later
        · exact Or.inr (.head _)
        · exact (inductionHypothesis later).imp_right (.tail _)

/-- A new name comes last. -/
theorem put_of_not_mem (absent : name ∉ fields.names) :
    put name value fields = fields ++ [(name, value)] := by
  induction fields with
  | nil => rfl
  | cons field fields inductionHypothesis =>
      rw [names_cons, List.mem_cons, not_or] at absent
      rw [put, if_neg (Ne.symm absent.1), inductionHypothesis absent.2, List.cons_append]

/-- A value that is put under a name does not add a second field of that name. -/
theorem nodup_names_put (distinct : fields.names.Nodup) :
    (put name value fields).names.Nodup := by
  induction fields with
  | nil => simp
  | cons field fields inductionHypothesis =>
      obtain ⟨absent, distinctRest⟩ := List.nodup_cons.mp distinct
      rw [put]
      by_cases same : field.1 = name
      · rw [if_pos same, names_cons, List.nodup_cons]
        exact ⟨same ▸ absent, distinctRest⟩
      · rw [if_neg same, names_cons, List.nodup_cons, mem_names_put, not_or]
        exact ⟨⟨same, absent⟩, inductionHypothesis distinctRest⟩

theorem get?_eq_none_iff : fields.get? name = none ↔ name ∉ fields.names := by
  rw [get?, Option.map_eq_none_iff, List.find?_eq_none, names, List.mem_map]
  simp only [decide_eq_true_eq, not_exists, not_and]

/-- With distinct names, the value under a name is that of the field of that name. -/
theorem get?_eq_some_iff (distinct : fields.names.Nodup) :
    fields.get? name = some value ↔ (name, value) ∈ fields := by
  induction fields with
  | nil => simp [get?]
  | cons field fields inductionHypothesis =>
      obtain ⟨first, firstValue⟩ := field
      obtain ⟨absent, distinctRest⟩ := List.nodup_cons.mp distinct
      by_cases same : first = name
      · subst same
        have elsewhere : (first, value) ∉ fields := by
          intro present
          have named : first ∈ Fields.names fields := mem_names_of_mem present
          exact absent named
        simp [get?, elsewhere, eq_comm]
      · have later := inductionHypothesis distinctRest
        simp only [get?] at later
        simp [get?, same, later, Ne.symm same]

/-- Fields with distinct names are the same but for their order if the same value is found under
each name. -/
theorem perm_iff_get?
    {others : Fields}
    (distinct : fields.names.Nodup)
    (distinctOthers : others.names.Nodup) :
    fields.Perm others ↔ ∀ name, fields.get? name = others.get? name := by
  rw [List.perm_ext_iff_of_nodup (List.Nodup.of_map _ distinct) (List.Nodup.of_map _ distinctOthers)]
  constructor
  · intro same name
    ext value
    rw [get?_eq_some_iff distinct, get?_eq_some_iff distinctOthers, same]
  · rintro same ⟨name, value⟩
    rw [← get?_eq_some_iff distinct, ← get?_eq_some_iff distinctOthers, same]

end Fields

/-! ## Values that were read -/

namespace Json

theorem nodup_names_settledFields
    {before : Fields}
    (distinct : before.names.Nodup)
    (fields : Fields) :
    (settledFields before fields).names.Nodup := by
  induction fields generalizing before with
  | nil => exact distinct
  | cons field fields inductionHypothesis =>
      rw [settledFields]
      exact inductionHypothesis (Fields.nodup_names_put distinct)

/-- No name comes twice in an object that was read. -/
theorem nodup_names_of_parse
    {tolerance : Tolerance}
    {text : Text}
    {fields : Fields}
    (parsed : parse tolerance text = .ok (.object fields)) :
    fields.names.Nodup := by
  rw [parse] at parsed
  cases spelled : read tolerance text with
  | error fault =>
      rw [spelled] at parsed
      contradiction
  | ok value =>
      rw [spelled] at parsed
      have same : settled value = .object fields := Except.ok.inj parsed
      cases value with
      | object raw =>
          rw [settled, Json.object.injEq] at same
          rw [← same]
          have nothing : (Fields.names []).Nodup := List.nodup_nil
          exact nodup_names_settledFields nothing raw
      | _ => simp [settled] at same

end Json
end SqlReview
