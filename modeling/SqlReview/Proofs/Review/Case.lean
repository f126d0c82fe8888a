import SqlReview.Proofs.Heuristic.Case
import SqlReview.Proofs.Query.Case
import SqlReview.Query.Comment
import SqlReview.Review.Finding

/-!
# Reviews and capital letters

The rules look at names case ignored, so they object to a query however its plain letters are
written. Main statement: two ASCII texts without comments that are the same in lower case have
structures that are the same in lower case, apart from aliases, and break the same rules.
-/

namespace SqlReview

open Query Pattern Text

/-! ## Names -/

theorem bareName_small
    (name : Text) :
    bareName name.small = bareName name := by
  have mark (c : Char) :
      (decide (smallLetter c = '"') || decide (smallLetter c = '\x60') ||
        decide (smallLetter c = '[') || decide (smallLetter c = ']')) =
      (decide (c = '"') || decide (c = '\x60') || decide (c = '[') || decide (c = ']')) := by
    simp
  rw [bareName, bareName, small_lastPiece name (by decide), small_trimWhere mark, lower_small]

namespace Structure

variable (query : Structure)

theorem isPosition_small
    (item : Text) :
    isPosition item.small = isPosition item := by
  have digit (c : Char) : Text.isDigit (smallLetter c) = Text.isDigit c :=
    eq_smallLetter (by decide) c
  rw [isPosition, isPosition, small_trim, isEmpty_small, all_small digit]

/-! ## What rules look at -/

theorem hasUnconditionedJoin_small :
    query.small.hasUnconditionedJoin = query.hasUnconditionedJoin := by
  simp only [hasUnconditionedJoin, small, List.any_map]
  rfl

theorem groupedNames_small : query.small.groupedNames = query.groupedNames := by
  simp only [groupedNames, small, List.map_map, Function.comp_def, lower_small, bareName_small]

theorem ungroupedColumns_small :
    query.small.ungroupedColumns = query.ungroupedColumns.map Text.small := by
  have positions :
      query.small.groupByColumns.any isPosition = query.groupByColumns.any isPosition := by
    simp only [small, List.any_map, Function.comp_def, isPosition_small]
  rw [ungroupedColumns, ungroupedColumns, positions, groupedNames_small]
  change (if (!query.selectHasAggregate || _) = true then _ else
    (query.selectColumns.map Text.small).filter _) = _
  split
  · rfl
  · simp only [List.filter_map, Function.comp_def, lower_small, bareName_small]

theorem wrappedColumns_small :
    query.small.wrappedColumns = query.wrappedColumns.map Text.small := by
  simp only [wrappedColumns, small, List.filter_map, List.map_map]
  rfl

theorem metadataTables_small :
    query.small.metadataTables = query.metadataTables.map Text.small := by
  rw [metadataTables, metadataTables]
  simp only [small, List.isEmpty_map, List.filter_map, Function.comp_def, bareName_small]
  split <;> rfl

end Structure

/-! ## Rules -/

/-- No rule of the catalog depends on the case of plain letters, or on aliases. -/
theorem applies_small
    (query : Structure) :
    ∀ check ∈ allChecks, check.applies query.small = check.applies query := by
  have joins := query.hasUnconditionedJoin_small
  have ungrouped := query.ungroupedColumns_small
  have wrapped := query.wrappedColumns_small
  have metadata := query.metadataTables_small
  have sorted : query.small.orderByColumns.isEmpty = query.orderByColumns.isEmpty :=
    List.isEmpty_map
  have joined : query.small.joins.isEmpty = query.joins.isEmpty := List.isEmpty_map
  have wildcards : query.small.whereColumns.any (·.hasLeadingWildcard) =
      query.whereColumns.any (·.hasLeadingWildcard) := List.any_map
  have aggregates : query.small.fanoutAggregates = query.fanoutAggregates := rfl
  simp only [allChecks, coreChecks, extendedChecks, Check.naming, List.cons_append, List.nil_append,
    List.forall_mem_cons, joins, ungrouped, wrapped, metadata, aggregates, List.isEmpty_map, sorted,
    joined, wildcards, true_and]
  exact ⟨rfl, rfl, rfl, rfl, rfl, by simp⟩

/-- The rules that a structure breaks do not depend on the case of plain letters. -/
theorem codes_small
    (query : Structure)
    {checks : List Check}
    (known : ∀ check ∈ checks, check ∈ allChecks) :
    (detect checks query.small).map (·.code) = (detect checks query).map (·.code) := by
  rw [detect, detect, List.map_filterMap, List.map_filterMap]
  refine List.filterMap_congr fun check present => ?_
  rw [Check.finding?, Check.finding?, applies_small query check (known check present)]
  split <;> rfl

/-! ## Lower case -/

/-- A structure with all names in lower case and without aliases. -/
def Structure.lowered (query : Structure) : Structure :=
  { query with
    tables := query.tables.map Text.lower
    aliases := []
    joins := query.joins.map fun join =>
      { join with
        left := Text.lower join.left
        right := Text.lower join.right
        kind := Text.lower join.kind }
    whereColumns := query.whereColumns.map fun column =>
      { column with name := Text.lower column.name }
    selectColumns := query.selectColumns.map Text.lower
    groupByColumns := query.groupByColumns.map Text.lower
    orderByColumns := query.orderByColumns.map Text.lower
    aggregates := query.aggregates.map fun aggregate =>
      { aggregate with function := Text.lower aggregate.function } }

theorem Structure.lowered_small
    (query : Structure) :
    query.small.lowered = query.lowered := by
  simp only [lowered, small, List.map_map, Function.comp_def, lower_small, Join.small,
    WhereColumn.small]

/-- Letter case does not matter. Two ASCII texts without comments that are equal up to upper and
lower case have structures that become equal, apart from aliases, when all their names are put in
lower case. Rules of the catalog find the same in both, in the same order, and the score and the
tier are the same. -/
theorem case_irrelevant
    [CommentRemover]
    {text other : Text}
    (ascii : ∀ c ∈ text, c.toNat < 0x80)
    (asciiToo : ∀ c ∈ other, c.toNat < 0x80)
    (plain : hasCommentMark text = false)
    (plainToo : hasCommentMark other = false)
    (same : Text.lower text = Text.lower other) :
    (Structure.extract text).lowered = (Structure.extract other).lowered ∧
      ∀ checks : List Check, (∀ check ∈ checks, check ∈ allChecks) →
        (detect checks (Structure.extract text)).map (·.code) =
            (detect checks (Structure.extract other)).map (·.code) ∧
          ∀ base, assessFindings (detect checks (Structure.extract text)) base =
            assessFindings (detect checks (Structure.extract other)) base := by
  rw [lower_of_ascii ascii, lower_of_ascii asciiToo] at same
  have structures := Structure.small_extract plain plainToo same
  refine ⟨?_, fun checks known => ?_⟩
  · rw [← Structure.lowered_small, structures, Structure.lowered_small]
  · have codes : (detect checks (Structure.extract text)).map (·.code) =
        (detect checks (Structure.extract other)).map (·.code) := by
      rw [← codes_small _ known, structures, codes_small _ known]
    refine ⟨codes, fun base => ?_⟩
    have rules (findings : List Finding) :
        findings.map (·.code.rule) = (findings.map (·.code)).map RuleCode.rule := by
      rw [List.map_map]
      rfl
    rw [assessFindings, assessFindings, rules, rules, codes]

/-- A query in mixed case, with tables, columns, a function and an aggregate. -/
def mixedQuery : Text :=
  "SELECT Count(X), Y FROM Orders o JOIN USER_META m WHERE Lower(A) = 1 OR a LIKE '%Z'"

/-- The same query with other letters capital. -/
def remixedQuery : Text :=
  "select COUNT(x), y from orders O join user_meta M where LOWER(a) = 1 or A like '%z'"

/-- Two spellings of one query have the same structure in lower case and break the same rules. -/
theorem case_irrelevant_mixed :
    (Structure.extract mixedQuery).lowered = (Structure.extract remixedQuery).lowered ∧
      (detect allChecks (Structure.extract mixedQuery)).map (·.code) =
        (detect allChecks (Structure.extract remixedQuery)).map (·.code) ∧
      assessFindings (detect allChecks (Structure.extract mixedQuery)) structuredBase =
        assessFindings (detect allChecks (Structure.extract remixedQuery)) structuredBase := by
  have ascii (query : Text) (isAscii : query.all (fun c => decide (c.toNat < 0x80)) = true) :
      ∀ c ∈ query, c.toNat < 0x80 := by
    simpa using isAscii
  obtain ⟨structures, rules⟩ := case_irrelevant (ascii mixedQuery (by decide +kernel))
    (ascii remixedQuery (by decide +kernel)) (by decide +kernel) (by decide +kernel)
    (by decide +kernel)
  obtain ⟨codes, assessed⟩ := rules allChecks fun _ known => known
  exact ⟨structures, codes, assessed structuredBase⟩

end SqlReview
