import SqlReview.Proofs.Query.CaseColumns
import SqlReview.Proofs.Query.Normal

/-!
# Structures and capital letters

The structure of a query does not depend on the case of plain letters, but for the case of the
letters in its names, and for its aliases. Main statement: two texts without comments that are the
same with small letters have structures that are the same with small letters.
-/

namespace SqlReview

open Query Pattern Text

/-- A structure with small letters and without aliases. -/
def Structure.small (query : Structure) : Structure :=
  { query with
    tables := query.tables.map Text.small
    aliases := []
    joins := query.joins.map Join.small
    whereColumns := query.whereColumns.map WhereColumn.small
    selectColumns := query.selectColumns.map Text.small
    groupByColumns := query.groupByColumns.map Text.small
    orderByColumns := query.orderByColumns.map Text.small }

namespace Query

/-! ## The fields of a structure -/

theorem map_small_small
    (texts : List Text) :
    (texts.map Text.small).map Text.small = texts.map Text.small := by
  rw [List.map_map]
  exact List.map_congr_left fun text _ => small_small text

theorem clauseItems_small
    (text masked : Text)
    (clauses : List Clause)
    (name : Text) :
    clauseItems text.small masked.small clauses name =
      (clauseItems text masked clauses name).map Text.small := by
  rw [clauseItems, clauseItems]
  cases clause? clauses name with
  | none => rfl
  | some clause => simp only [clause.body_small, items_small]

/-- The items of an ORDER BY clause without their directions. -/
theorem orderBy_small
    (items : List Text) :
    ((items.map Text.small).map orderDirection.beforeFirst).filter (· ≠ []) =
      ((items.map orderDirection.beforeFirst).filter (· ≠ [])).map Text.small := by
  have each : orderDirection.beforeFirst ∘ Text.small = Text.small ∘ orderDirection.beforeFirst :=
    funext fun item => beforeFirst_small ignoresCase_orderDirection item
  rw [List.map_map, each, ← List.map_map, List.filter_map]
  congr 2
  funext item
  simp

theorem normalize_small
    [CommentRemover]
    {text : Text}
    (plain : hasCommentMark text = false) :
    (normalize text).small = trim (dropTerminators (trim (collapse text.small))) := by
  have terminator (c : Char) : (decide (smallLetter c = ';') || decide (smallLetter c = ' ')) =
      (decide (c = ';') || decide (c = ' ')) := by simp
  rw [normalize_of_plain plain, small_collapse, small_trim, dropTerminators, dropTerminators,
    small_trimEndWhere terminator, small_trim]

end Query

namespace Structure

/-- With small letters in the place of plain capital ones, the structure of a query in normal form
is the same up to the case of letters. -/
theorem ofNormal_small
    (hasIndexHint : Bool)
    (text : Text) :
    (ofNormal hasIndexHint text.small).small = (ofNormal hasIndexHint text).small := by
  obtain ⟨tables, -, joins⟩ := Sources.mk.inj (allSources_small text (mask text))
  have columns (columns : List WhereColumn) :
      (columns.map WhereColumn.small).map WhereColumn.small = columns.map WhereColumn.small := by
    simp [WhereColumn.small]
  simp only [ofNormal, small, mask_small, clauses_small, clauseItems_small, outsideView_small,
    Clause.body_small, aggregates_small, subqueryCount_small,
    occursIn_small Query.ignoresCase_rowLimit, orderBy_small, map_small_small, tables, joins]
  cases clause? (clauses (mask text)) "where" <;> cases clause? (clauses (mask text)) "select" <;>
    simp only [Option.map_none, Option.map_some, Option.getD_none, Option.getD_some,
      Option.any_some, Option.isSome_some, whereColumns_small, columns, hasOr_small,
      Projection.ofClause_small, Projection.small, map_small_small]

/-- Two texts without comments that are the same with small letters have structures that are the
same with small letters. -/
theorem small_extract
    [CommentRemover]
    {text other : Text}
    (plain : hasCommentMark text = false)
    (plainToo : hasCommentMark other = false)
    (same : text.small = other.small) :
    (extract text).small = (extract other).small := by
  have blank : isAllBlank text = isAllBlank other := by
    rw [← isAllBlank_small, same, isAllBlank_small]
  have hint : indexHint.occursIn text = indexHint.occursIn other := by
    rw [← occursIn_small ignoresCase_indexHint, same, occursIn_small ignoresCase_indexHint]
  have normal : (normalize text).small = (normalize other).small := by
    rw [normalize_small plain, normalize_small plainToo, same]
  have empty : (normalize text).isEmpty = (normalize other).isEmpty := by
    rw [← isEmpty_small, normal, isEmpty_small]
  rw [extract, extract, blank, empty, hint]
  split
  · rfl
  split
  · rfl
  · rw [← ofNormal_small, normal, ofNormal_small]

end Structure
end SqlReview
