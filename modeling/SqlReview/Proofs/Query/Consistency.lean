import SqlReview.Proofs.Query.Sources

/-!
# Consistency of structures

The parts of an extracted structure fit together, whatever the text. Main statement: nothing is
recorded twice, aliases and joins refer to recorded tables, and conditions are found in a WHERE
clause only.
-/

namespace SqlReview
namespace Query

/-! ## Columns -/

/-- The names of compared columns, case ignored. -/
def columnKeys (columns : List WhereColumn) : List Text :=
  columns.map fun column => Text.lower column.name

@[simp] theorem columnKeys_cons
    (column : WhereColumn)
    (others : List WhereColumn) :
    columnKeys (column :: others) = Text.lower column.name :: columnKeys others := rfl

/-- A comparison adds the name of its column unless the name is there, case ignored. -/
theorem columnKeys_addComparison
    (comparison : Comparison)
    (columns : List WhereColumn) :
    columnKeys (addComparison comparison columns) =
      if Text.lower comparison.name ∈ columnKeys columns then columnKeys columns
      else columnKeys columns ++ [Text.lower comparison.name] := by
  induction columns with
  | nil => rfl
  | cons column others inductionHypothesis =>
      rw [addComparison]
      by_cases same : Text.lower column.name = Text.lower comparison.name
      · rw [if_pos same, columnKeys_cons, columnKeys_cons, same, if_pos (.head _)]
      · rw [if_neg same, columnKeys_cons, columnKeys_cons, inductionHypothesis]
        by_cases known : Text.lower comparison.name ∈ columnKeys others
        · rw [if_pos known, if_pos (.tail _ known)]
        · rw [if_neg known, if_neg (by simp [known, Ne.symm same]), List.cons_append]

theorem nodup_columnKeys_whereColumns (view : Text) :
    (columnKeys (whereColumns view)).Nodup := by
  refine List.foldlRecOn (motive := fun columns => (columnKeys columns).Nodup) (comparisons view) _
    List.nodup_nil fun columns distinct comparison _ => ?_
  rw [columnKeys_addComparison]
  split
  · exact distinct
  next absent => exact List.concat_eq_append ▸ distinct.concat absent

/-! ## Aggregates -/

theorem nodup_aggregates (text : Text) :
    (aggregates text).Nodup := by
  refine List.foldlRecOn (motive := List.Nodup) (aggregateCall.occurrences text) _
    List.nodup_nil fun aggregates distinct call _ => ?_
  simp only [addAggregate]
  split
  · exact distinct
  next unknown =>
      rw [← List.concat_eq_append]
      exact distinct.concat (by simpa using unknown)

end Query

/-! ## Structures -/

open Query

namespace Structure

/-- The tables, aliases and joins of a structure. -/
def sources (query : Structure) : Sources :=
  ⟨query.tables, query.aliases, query.joins⟩

/-- Whether the parts of a structure fit together. -/
structure IsConsistent (query : Structure) : Prop where
  /-- Aliases and joins refer to recorded tables, and no table or alias is recorded twice. -/
  sources : query.sources.IsConsistent
  /-- No two compared columns have the same name, case ignored. -/
  columns_nodup : (query.whereColumns.map fun column => Text.lower column.name).Nodup
  /-- No two aggregates are the same function with the same treatment of duplicates. -/
  aggregates_nodup : (query.aggregates.map fun use => (use.function, use.isDistinct)).Nodup
  /-- There is an OR or a compared column only if there is a WHERE clause. -/
  hasWhere : query.hasOrInWhere = true ∨ query.whereColumns ≠ [] → query.hasWhere = true

theorem isConsistent_blank (hasIndexHint : Bool) :
    IsConsistent { hasIndexHint := hasIndexHint } :=
  ⟨Sources.isConsistent_empty, List.nodup_nil, List.nodup_nil, by simp⟩

theorem isConsistent_ofNormal
    (hasIndexHint : Bool)
    (text : Text) :
    (ofNormal hasIndexHint text).IsConsistent := by
  refine ⟨isConsistent_allSources text (mask text), ?_, ?_, ?_⟩
  · simp only [ofNormal]
    cases clause? (clauses (mask text)) "where" with
    | none => exact List.nodup_nil
    | some clause => exact nodup_columnKeys_whereColumns _
  · refine (nodup_aggregates text).map fun first second same => ?_
    cases first
    cases second
    cases same
    rfl
  · simp only [ofNormal]
    cases clause? (clauses (mask text)) "where" with
    | none => simp
    | some clause => simp

/-- The structure extracted from any text, or from any bytes, is consistent: tables, aliases,
compared columns and aggregates are recorded once, aliases and joins refer to recorded tables or
are marked as referring to none, and only a query with a WHERE clause has conditions. -/
theorem extraction_consistent [CommentRemover] :
    (∀ text : Text, (extract text).IsConsistent) ∧
      ∀ bytes : List UInt8, (extractBytes bytes).IsConsistent := by
  have ofText (text : Text) : (extract text).IsConsistent := by
    rw [extract]
    split
    · exact isConsistent_blank false
    · split
      · exact isConsistent_blank _
      · exact isConsistent_ofNormal _ _
  exact ⟨ofText, fun bytes => ofText (Text.decodeLenient bytes)⟩

end Structure
end SqlReview
