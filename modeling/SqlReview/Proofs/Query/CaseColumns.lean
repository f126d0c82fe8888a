import SqlReview.Proofs.Query.CaseSources

/-!
# Columns and capital letters

With small letters in the place of plain capital ones a condition compares the same columns and a
select list returns the same ones, up to these letters. Entries for one column are put together case
ignored, and aggregates are named in capital letters anyway.
-/

namespace SqlReview
namespace Query

open Pattern Text

/-! ## Conditions -/

/-- A comparison with small letters. -/
def Comparison.small (comparison : Comparison) : Comparison :=
  { comparison with name := comparison.name.small }

/-- A compared column with small letters. -/
def WhereColumn.small (column : WhereColumn) : WhereColumn :=
  { column with name := column.name.small }

theorem matchesLeadingWildcard_small
    (view : Text)
    (occurrence : Occurrence) :
    matchesLeadingWildcard view.small occurrence.small =
      matchesLeadingWildcard view occurrence := by
  rw [matchesLeadingWildcard, matchesLeadingWildcard, Occurrence.groupText_small, lower_small,
    Occurrence.stop_small, place_within_small, fitsAt_small ignoresCase_leadingWildcard]

theorem comparison_small
    (view : Text)
    (isWrapped : Bool)
    (occurrence : Occurrence) :
    comparison view.small isWrapped occurrence.small =
      (comparison view isWrapped occurrence).small := by
  simp only [comparison, Comparison.small, Occurrence.groupText_small, Occurrence.group?_small,
    matchesLeadingWildcard_small, Option.map_map]
  rfl

theorem wrappedComparisons_small
    (view : Text) :
    wrappedComparisons view.small = (wrappedComparisons view).map Comparison.small := by
  simp only [wrappedComparisons, occurrences_small ignoresCase_wrappedColumn, List.filter_map,
    List.map_map, Function.comp_def, Occurrence.groupText_small, isAmong_small, comparison_small]

theorem plainComparisons_small
    (view : Text) :
    plainComparisons view.small = (plainComparisons view).map Comparison.small := by
  simp only [plainComparisons, occurrences_small ignoresCase_plainColumn, List.filter_map,
    List.map_map, Function.comp_def, Occurrence.groupText_small, isAmong_small, comparison_small]

theorem comparisons_small
    (view : Text) :
    comparisons view.small = (comparisons view).map Comparison.small := by
  rw [comparisons, comparisons, wrappedComparisons_small, plainComparisons_small, ← List.map_append]
  exact (List.map_mergeSort (f := Comparison.small) fun _ _ _ _ => rfl).symm

theorem addComparison_small
    (comparison : Comparison)
    (columns : List WhereColumn) :
    addComparison comparison.small (columns.map WhereColumn.small) =
      (addComparison comparison columns).map WhereColumn.small := by
  induction columns with
  | nil => rfl
  | cons column columns inductionHypothesis =>
      have same : Text.lower column.small.name = Text.lower comparison.small.name ↔
          Text.lower column.name = Text.lower comparison.name := by
        rw [WhereColumn.small, Comparison.small, lower_small, lower_small]
      rw [List.map_cons, addComparison, addComparison, inductionHypothesis]
      simp only [same]
      split <;> rfl

theorem whereColumns_small
    (view : Text) :
    whereColumns view.small = (whereColumns view).map WhereColumn.small := by
  have run (list : List Comparison) (columns : List WhereColumn) :
      list.foldl (fun columns comparison => addComparison comparison.small columns)
          (columns.map WhereColumn.small) =
        (list.foldl (fun columns comparison => addComparison comparison columns) columns).map
          WhereColumn.small :=
    List.foldl_hom _ fun columns comparison => (addComparison_small comparison columns)
  rw [whereColumns, whereColumns, comparisons_small, List.foldl_map]
  exact run (comparisons view) []

theorem hasOr_small
    (view : Text) :
    hasOr view.small = hasOr view := by
  have literal : (all [.char '\'', .many (· ≠ '\''), .char '\'']).IgnoresCase := by simp
  rw [hasOr, hasOr, withoutLiterals, withoutLiterals, replace_small literal rfl, orKeyword,
    occursIn_small (ignoresCase_word _)]

/-! ## Select lists -/

/-- What a select list returns, with small letters. -/
def Projection.small (projection : Projection) : Projection :=
  { projection with columns := projection.columns.map Text.small }

theorem Projection.add_small
    (projection : Projection)
    (item : Text) :
    projection.small.add item.small = (projection.add item).small := by
  rw [add, add, occursIn_small ignoresCase_starItem, occursIn_small ignoresCase_aggregateCall,
    occursIn_small ignoresCase_windowKeyword, atStart?_small ignoresCase_columnItem]
  split
  · rfl
  split
  · split <;> rfl
  · cases columnItem.atStart? item with
    | none => rfl
    | some occurrence =>
        simp only [Option.map_some, Occurrence.groupText_small, isAmong_small]
        split
        · rfl
        · simp [small]

theorem Projection.ofClause_small
    (body masked : Text) :
    ofClause body.small masked.small = (ofClause body masked).small := by
  have preamble : ((selectPreamble.atStart? masked.small).map (·.stop)).getD 0 =
      ((selectPreamble.atStart? masked).map (·.stop)).getD 0 := by
    rw [atStart?_small ignoresCase_selectPreamble, Option.map_map]
    rfl
  have run (list : List Text) (projection : Projection) :
      list.foldl (fun projection item => projection.add item.small) projection.small =
        (list.foldl add projection).small :=
    List.foldl_hom _ fun projection item => projection.add_small item
  rw [ofClause, ofClause, preamble, small_drop, small_drop, items_small, List.foldl_map]
  exact run _ {}

/-! ## Aggregates -/

theorem aggregates_small
    (text : Text) :
    aggregates text.small = aggregates text := by
  have add (found : List Aggregate) (call : Occurrence) :
      addAggregate found call.small = addAggregate found call := by
    rw [addAggregate, addAggregate, Occurrence.groupText_small, upper_small,
      Occurrence.group?_small, Option.isSome_map]
  rw [aggregates, aggregates, occurrences_small ignoresCase_aggregateCall, List.foldl_map]
  simp only [add]

end Query
end SqlReview
