import SqlReview.Proofs.Text.Signs
import SqlReview.Query.Comment
import SqlReview.Review.Finding

/-!
# Columns that are not grouped

Columns beside an aggregate are looked up in the GROUP BY clause by their names and by their bare names,
in one list of both. Main statement: the rule reports the columns that no item stands for, in order,
except those that differ from an item in nothing but the qualifier.
-/

namespace SqlReview

open Text

variable {name other : Text}

/-! ## Marks around names -/

/-- The marks that enclose names. -/
def isNameMark (c : Char) : Bool :=
  c = '"' || c = '\x60' || c = '[' || c = ']'

theorem isNameSign_of_isNameMark
    (c : Char)
    (isMark : isNameMark c = true) :
    isNameSign c = true := by
  simp only [isNameMark, Bool.or_eq_true, decide_eq_true_eq] at isMark
  rcases isMark with ((rfl | rfl) | rfl) | rfl <;> decide

/-! ## Bare names -/

theorem bareName_eq (name : Text) :
    bareName name = Text.lower (trimWhere isNameMark (lastPiece '.' name)) := rfl

/-- A bare name has no qualifier and no marks around it. -/
theorem bareName_ends (name : Text) :
    '.' ∉ bareName name ∧ (bareName name).head?.any isNameMark = false ∧
      (bareName name).getLast?.any isNameMark = false := by
  obtain ⟨first, last⟩ := ends_trimWhere isNameMark (lastPiece '.' name)
  rw [bareName_eq, Text.lower, head?_lowerFrom isNameSign_of_isNameMark,
    getLast?_lowerFrom isNameSign_of_isNameMark, mem_lowerFrom_iff (by decide)]
  refine ⟨fun present => ?_, first, last⟩
  exact not_mem_lastPiece '.' name (mem_of_mem_trimWhere present)

/-- A name that is a bare name, case ignored, is its own bare name. -/
theorem bareName_of_lower_eq (same : Text.lower name = bareName other) :
    '.' ∉ name ∧ bareName name = bareName other := by
  obtain ⟨noDot, first, last⟩ := bareName_ends other
  rw [← same, Text.lower] at noDot first last
  rw [mem_lowerFrom_iff (by decide)] at noDot
  rw [head?_lowerFrom isNameSign_of_isNameMark] at first
  rw [getLast?_lowerFrom isNameSign_of_isNameMark] at last
  have whole : lastPiece '.' name = name := by
    rw [lastPiece, splitAt_of_not_mem noDot]
    rfl
  rw [bareName_eq name, whole, trimWhere_of_ends first last]
  exact ⟨noDot, same⟩

/-! ## Grouped columns -/

/-- Whether an item of a GROUP BY clause stands for a column: the two are the same, case ignored, or have
the same bare name, and one of them has no qualifier. -/
def groups (item column : Text) : Bool :=
  Text.lower item = Text.lower column ||
    (bareName item = bareName column && (!item.contains '.' || !column.contains '.'))

/-- Whether an item and a column differ in nothing but their qualifiers. -/
def isHomonym (item column : Text) : Bool :=
  item.contains '.' && column.contains '.' && bareName item = bareName column

/-- The columns beside an aggregate that no item stands for, and that no item is taken for. -/
def Structure.missingColumns (query : Structure) : List Text :=
  query.selectColumns.filter fun column =>
    !query.groupByColumns.any fun item => groups item column || isHomonym item column

theorem groups_or_isHomonym (item column : Text) :
    (groups item column || isHomonym item column) =
      (decide (Text.lower item = Text.lower column) || decide (bareName item = bareName column)) := by
  rw [groups, isHomonym]
  cases decide (Text.lower item = Text.lower column) <;>
    cases decide (bareName item = bareName column) <;>
    cases item.contains '.' <;> cases column.contains '.' <;> rfl

/-- A column counts as grouped if its name or its bare name is that of an item. -/
theorem Structure.contains_groupedNames
    (query : Structure)
    (column : Text) :
    (query.groupedNames.contains (Text.lower column) ||
        query.groupedNames.contains (bareName column)) =
      query.groupByColumns.any fun item => groups item column || isHomonym item column := by
  simp only [groups_or_isHomonym]
  rw [Bool.eq_iff_iff, Bool.or_eq_true, List.contains_iff_mem, List.contains_iff_mem, List.any_eq_true]
  simp only [groupedNames, List.mem_append, List.mem_map, Bool.or_eq_true, decide_eq_true_eq]
  constructor
  · rintro ((⟨item, present, same⟩ | ⟨item, present, same⟩) |
      (⟨item, present, same⟩ | ⟨item, present, same⟩))
    · exact ⟨item, present, .inl same⟩
    · exact ⟨item, present, .inr (bareName_of_lower_eq same.symm).2.symm⟩
    · exact ⟨item, present, .inr (bareName_of_lower_eq same).2⟩
    · exact ⟨item, present, .inr same⟩
  · rintro ⟨item, present, same | same⟩
    · exact .inl (.inl ⟨item, present, same⟩)
    · exact .inr (.inr ⟨item, present, same⟩)

theorem Structure.ungroupedColumns_eq
    {query : Structure}
    (aggregates : query.selectHasAggregate = true)
    (noPosition : query.groupByColumns.any isPosition = false) :
    query.ungroupedColumns = query.missingColumns := by
  rw [ungroupedColumns, missingColumns, aggregates, noPosition]
  refine (if_neg (by decide)).trans (List.filter_congr fun column _ => ?_)
  rw [← query.contains_groupedNames, Bool.not_or]

/-! ## The rule -/

/-- The findings with a code are those of the rule with this code. -/
theorem filter_detect
    (checks : List Check)
    (query : Structure)
    (code : RuleCode) :
    (detect checks query).filter (·.code = code) =
      detect (checks.filter (·.rule.code = code)) query := by
  rw [detect, detect, List.filter_filterMap, List.filterMap_filter]
  refine List.filterMap_congr fun check _ => ?_
  rw [Check.finding?]
  split
  · exact Option.filter_some
  · exact (ite_self _).symm

/-- A rule that names what it is about is broken if there is anything to name. -/
theorem detect_naming
    (code : RuleCode)
    (subjects : Structure → List Text)
    (query : Structure) :
    detect [.naming code subjects] query =
      if subjects query = [] then []
      else [⟨code, code.rule.message ++ ": ".toList ++ Text.join ", " (subjects query),
        code.rule.weight, code.rule.floor⟩] := by
  cases named : subjects query with
  | nil => simp [detect, Check.finding?, Check.naming, named]
  | cons name names => simp [detect, Check.finding?, Check.naming, Check.message, named]

/-- Beside an aggregate, the rule reports the columns that no item of the GROUP BY clause stands for,
unless an item differs in nothing but its qualifier. -/
theorem grouping_reported
    {query : Structure}
    (aggregates : query.selectHasAggregate = true)
    (noPosition : query.groupByColumns.any Structure.isPosition = false) :
    (detect allChecks query).filter (·.code = .missingGroupByColumns) =
      if query.missingColumns = [] then []
      else [⟨.missingGroupByColumns,
        "Non-aggregated SELECT columns are missing from GROUP BY".toList ++ ": ".toList ++
          Text.join ", " query.missingColumns, 20, some .high⟩] := by
  have only : allChecks.filter (·.rule.code = .missingGroupByColumns) =
      [.naming .missingGroupByColumns Structure.ungroupedColumns] := rfl
  rw [filter_detect, only, detect_naming, Structure.ungroupedColumns_eq aggregates noPosition]
  rfl

/-- A column in another spelling is grouped, and a column that no item resembles is reported. -/
theorem grouping_reported_other_column :
    let query : Structure :=
      { selectColumns := ["A.id", "b.x"]
        selectHasAggregate := true
        groupByColumns := ["a.\"ID\""] }
    (detect allChecks query).filter (·.code = .missingGroupByColumns) =
      [⟨.missingGroupByColumns, "Non-aggregated SELECT columns are missing from GROUP BY: b.x", 20,
        some .high⟩] :=
  (grouping_reported rfl (by decide)).trans (by decide +kernel)

/-- The column of the one table is not grouped, and the column of the other one is taken for it. -/
theorem homonym_not_reported :
    let query := Structure.extract "SELECT a.id, MAX(b.x) FROM a JOIN b ON a.k = b.k GROUP BY b.id"
    query.selectHasAggregate = true ∧ query.groupByColumns.any Structure.isPosition = false ∧
      (∃ column ∈ query.selectColumns, ∀ item ∈ query.groupByColumns, groups item column = false) ∧
      detect allChecks query = [] := by
  decide +kernel

end SqlReview
