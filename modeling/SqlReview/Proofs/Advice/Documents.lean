import SqlReview.Advice.Prompt
import SqlReview.Proofs.Advice.Contract
import SqlReview.Proofs.Json.Ascii

/-!
# The documents of a consultation

The prompt holds the structure of the query and the findings as documents, and the answer is a
document. Main statement: what the prompt holds is ASCII and is read back as the structure and the
findings, whatever their texts and whatever the names of tables; and an answer that is written in
the same way is read as the advice that it holds, in whatever order its fields come.
-/

namespace SqlReview

/-! ## Structures and findings -/

theorem Json.Tolerance.allows_of_le
    {tolerance : Tolerance}
    {depth inner : Nat}
    (allowed : tolerance.allows inner = true)
    (outside : depth ≤ inner) :
    tolerance.allows depth = true := by
  rw [allows, Option.all_eq_true] at allowed ⊢
  intro limit isLimit
  have within := allowed limit isLimit
  rw [decide_eq_true_eq] at within ⊢
  omega

section Documents

open Json

variable {tolerance : Tolerance} {depth : Nat}

theorem isReadable_texts
    (allowed : tolerance.allows depth = true)
    (texts : List Text) :
    IsReadable tolerance depth (.array (texts.map .string)) := by
  refine .array allowed fun item present => ?_
  obtain ⟨text, -, rfl⟩ := List.mem_map.mp present
  exact .string

theorem isReadable_documents
    {α : Type}
    {write : α → Json}
    {items : List α}
    (allowed : tolerance.allows depth = true)
    (each : ∀ item ∈ items, IsReadable tolerance (depth + 1) (write item)) :
    IsReadable tolerance depth (.array (items.map write)) := by
  refine .array allowed fun item present => ?_
  obtain ⟨source, isSource, rfl⟩ := List.mem_map.mp present
  exact each source isSource

theorem isReadable_nat
    {n : Nat}
    (short : (Text.ofNat n).length ≤ Decimal.digitLimit) :
    IsReadable tolerance depth (.nat n) :=
  .int short

/-- The aliases of a query are an object, whatever their names. -/
theorem isReadable_aliases
    {aliases : List (Text × Text)}
    (allowed : tolerance.allows depth = true)
    (distinct : (aliases.map Prod.fst).Nodup) :
    IsReadable tolerance depth (.object (aliases.map fun entry => (entry.1, .string entry.2))) := by
  refine .object allowed ?_ fun field present => ?_
  · rw [Fields.names, List.map_map]
    exact distinct
  · obtain ⟨entry, -, rfl⟩ := List.mem_map.mp present
    exact .string

theorem isReadable_join
    (allowed : tolerance.allows depth = true)
    (join : Query.Join) :
    IsReadable tolerance depth join.toJson := by
  refine .object allowed (by simp [Fields.names]) ?_
  simp [IsReadable.string, IsReadable.bool]

theorem isReadable_whereColumn
    (allowed : tolerance.allows depth = true)
    (column : Query.WhereColumn) :
    IsReadable tolerance depth column.toJson := by
  refine .object allowed (by simp [Fields.names]) ?_
  simp [IsReadable.string, IsReadable.bool]

theorem isReadable_aggregate
    (allowed : tolerance.allows depth = true)
    (aggregate : Query.Aggregate) :
    IsReadable tolerance depth aggregate.toJson := by
  refine .object allowed (by simp [Fields.names]) ?_
  simp [IsReadable.string, IsReadable.bool]

theorem isReadable_finding
    {finding : Finding}
    (allowed : tolerance.allows depth = true)
    (short : (Text.ofNat finding.weight).length ≤ Decimal.digitLimit) :
    IsReadable tolerance depth finding.toJson := by
  refine .object allowed (by simp [Fields.names]) ?_
  simp [IsReadable.string, isReadable_nat short]

/-- A structure is read back if its aliases are distinct and its count is not too long a number. -/
theorem isReadable_structure
    {structured : Structure}
    (allowed : tolerance.allows (depth + 2) = true)
    (distinct : (structured.aliases.map Prod.fst).Nodup)
    (short : (Text.ofNat structured.subqueryCount).length ≤ Decimal.digitLimit) :
    IsReadable tolerance depth structured.toJson := by
  have outside : tolerance.allows depth = true := Tolerance.allows_of_le allowed (by omega)
  have inside : tolerance.allows (depth + 1) = true := Tolerance.allows_of_le allowed (by omega)
  refine .object outside (by simp [Fields.names]) ?_
  simp [isReadable_texts inside, IsReadable.bool, isReadable_nat short,
    isReadable_aliases inside distinct,
    isReadable_documents inside fun join _ => isReadable_join allowed join,
    isReadable_documents inside fun column _ => isReadable_whereColumn allowed column,
    isReadable_documents inside fun aggregate _ => isReadable_aggregate allowed aggregate]

theorem isReadable_findings
    {findings : List Finding}
    (allowed : tolerance.allows (depth + 1) = true)
    (short : ∀ finding ∈ findings, (Text.ofNat finding.weight).length ≤ Decimal.digitLimit) :
    IsReadable tolerance depth (.array (findings.map Finding.toJson)) :=
  isReadable_documents (Tolerance.allows_of_le allowed (by omega)) fun finding present =>
    isReadable_finding allowed (short finding present)

end Documents

namespace Advice

/-! ## The prompt -/

/-- What the prompt says in front of the structure. -/
def beforeStructure (query database : Text) : Text :=
  introduction ++ "\n\n".toList ++
    lines ["Database engine: ".toList ++ database, "", "Here is the SQL query:", query, "",
      "Here is the extracted structure:", ""]

/-- What the prompt says between the structure and the findings. -/
def beforeFindings : Text :=
  lines ["", "", "Here are the detected patterns:", ""]

/-- What the prompt says behind the findings. -/
def afterFindings (schema plan : Option Text) : Text :=
  optionalSection schema schemaSection ++ optionalSection plan planSection ++ contract

theorem prompt_eq
    (query database : Text)
    (structured : Structure)
    (findings : List Finding)
    (schema plan : Option Text) :
    prompt query database structured findings schema plan =
      beforeStructure query database ++ Json.render structured.toJson ++ beforeFindings ++
        Json.render (.array (findings.map Finding.toJson)) ++ afterFindings schema plan := by
  simp only [prompt, subject, lines, Text.join, beforeStructure, beforeFindings, afterFindings,
    List.intercalate_cons_cons, List.intercalate_singleton, String.toList_empty, List.append_assoc,
    List.nil_append, List.append_nil]

/-! ## The answer -/

theorem isReadable_reply
    {reply : Reply}
    {fields : Fields}
    (order : fields.Perm reply.fields) :
    Json.IsReadable (Json.strict (some 200)) 0 (.object fields) := by
  have names : fields.names.Perm reply.fields.names := order.map Prod.fst
  have each : ∀ field ∈ reply.fields, Json.IsReadable (Json.strict (some 200)) 1 field.2 := by
    have texts : ∀ texts : List Text,
        Json.IsReadable (Json.strict (some 200)) 1 (.array (texts.map .string)) :=
      isReadable_texts rfl
    simp [Reply.fields, Json.IsReadable.string, texts]
  exact .object rfl (names.nodup_iff.mpr reply.nodup_names_fields) fun field present =>
    each field (order.mem_iff.mp present)

/-- An answer that is written as a document is read as the advice that it holds. -/
theorem parse_reply
    {package : Validator}
    (readsFormat : package.ReadsFormat)
    {reply : Reply}
    {fields : Fields}
    (order : fields.Perm reply.fields) :
    Reply.parse package.validate (Json.render (.object fields)) = .ok reply := by
  have distinct : fields.names.Nodup :=
    (order.map Prod.fst).nodup_iff.mpr reply.nodup_names_fields
  have spelled := readsFormat _ _ (Json.read_render (isReadable_reply order))
  rcases Reply.validate_cases package (Json.render (.object fields)) with
    ⟨others, members, spelledToo, validated, orderToo⟩ | ⟨complaints, -, kinds, something⟩
  · rw [spelled, Option.some.injEq, Json.object.injEq] at spelledToo
    subst spelledToo
    rw [latest_eq_self distinct] at orderToo
    rw [Reply.parse, validated]
    exact congrArg Except.ok (Reply.eq_of_perm (orderToo.symm.trans order))
  · rw [spelled, Reply.errors, latest_eq_self distinct, Reply.fieldErrors_of_perm distinct order,
      List.map_eq_nil_iff] at kinds
    exact absurd kinds something

/-! ## Both directions -/

/-- The prompt holds two documents in ASCII, and they are read back as the structure and the
findings by whoever follows three levels of a document. An answer written as a document is read as
the advice that it holds, in whatever order its fields come, by any package that reads the format.
The aliases are a dictionary, and the numbers are not longer than a reader takes them, which is also
how long a writer makes them. -/
theorem documents_read_back
    (query database : Text)
    (schema plan : Option Text)
    (structured : Structure)
    (findings : List Finding)
    (reply : Reply)
    (fields : Fields)
    (tolerance : Json.Tolerance)
    (package : Validator)
    (allowed : tolerance.allows 2 = true)
    (readsFormat : package.ReadsFormat)
    (distinctAliases : (structured.aliases.map Prod.fst).Nodup)
    (shortCount : (Text.ofNat structured.subqueryCount).length ≤ Decimal.digitLimit)
    (shortWeights : ∀ finding ∈ findings,
      (Text.ofNat finding.weight).length ≤ Decimal.digitLimit)
    (order : fields.Perm reply.fields) :
    prompt query database structured findings schema plan =
        beforeStructure query database ++ Json.render structured.toJson ++ beforeFindings ++
          Json.render (.array (findings.map Finding.toJson)) ++ afterFindings schema plan ∧
      (∀ c ∈ Json.render structured.toJson, c.toNat < 0x80) ∧
      (∀ c ∈ Json.render (.array (findings.map Finding.toJson)), c.toNat < 0x80) ∧
      Json.parse tolerance (Json.render structured.toJson) = .ok structured.toJson ∧
      Json.parse tolerance (Json.render (.array (findings.map Finding.toJson))) =
        .ok (.array (findings.map Finding.toJson)) ∧
      Reply.parse package.validate (Json.render (.object fields)) = .ok reply := by
  have readableStructure : Json.IsReadable tolerance 0 structured.toJson :=
    isReadable_structure allowed distinctAliases shortCount
  have readableFindings :
      Json.IsReadable tolerance 0 (.array (findings.map Finding.toJson)) :=
    isReadable_findings (Json.Tolerance.allows_of_le allowed (by omega)) shortWeights
  exact ⟨prompt_eq query database structured findings schema plan,
    Json.isAscii_write readableStructure 0, Json.isAscii_write readableFindings 0,
    Json.parse_render readableStructure, Json.parse_render readableFindings,
    parse_reply readsFormat order⟩

/-- A structure with aliases that need every kind of escape, or none. -/
def oddStructure : Structure :=
  { tables := ["orders", "caf\u00E9\u007F"]
    aliases := [("\"\\", "orders"), ("", "(subquery)"), ("\n\t\x01", "orders"), ("\u2028", "x"),
      ("😀", "caf\u00E9")]
    subqueryCount := 12 }

/-- Advice with texts that need escapes. -/
def oddReply : Reply :=
  ⟨"😀 \"ok\"", ["", "a\\b", "\u00E9"], "SELECT 1", "", "\x7F\x08\x0C\r"⟩

/-- The texts of documents may hold quotes, backslashes, control characters and characters beyond
ASCII, and the fields of an answer may come in another order. -/
theorem odd_documents_read_back :
    (∀ c ∈ Json.render oddStructure.toJson, c.toNat < 0x80) ∧
    Json.parse (Json.strict none) (Json.render oddStructure.toJson) = .ok oddStructure.toJson ∧
    Reply.parse (Validator.ofSpelling Shape.spelled?).validate
      (Json.render (.object oddReply.fields.reverse)) = .ok oddReply := by
  have holds := documents_read_back "SELECT 1" "mysql" none (some "CREATE TABLE t") oddStructure
    [⟨.subquery, "\u00FC😀", 10, none⟩] oddReply oddReply.fields.reverse (Json.strict none)
    (Validator.ofSpelling Shape.spelled?) rfl readsFormat_spelled? (by decide) (by decide)
    (by decide) (List.reverse_perm _)
  exact ⟨holds.2.1, holds.2.2.2.1, holds.2.2.2.2.2⟩

end Advice
end SqlReview
