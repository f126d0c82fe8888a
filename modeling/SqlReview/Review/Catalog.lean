import SqlReview.Review.Severity

/-!
# The rule catalog

The rules against which queries are reviewed. A rule takes points off the score, has a message,
and may set a tier below which a query that breaks it cannot fall.
-/

namespace SqlReview

/-- The rules by what they object to. -/
inductive RuleCode where
  /-- All columns are selected. -/
  | selectStar
  /-- A filter may lack an index. -/
  | missingIndex
  /-- All rows are sorted. -/
  | orderByWithoutLimit
  /-- A pattern match starts with a wildcard. -/
  | leadingWildcardLike
  /-- A filter has alternatives. -/
  | orInWhere
  /-- Tables are joined without a condition. -/
  | joinWithoutCondition
  /-- A query is nested in another. -/
  | subquery
  /-- Rows multiplied by a join are aggregated. -/
  | joinFanoutAggregate
  /-- Columns are neither grouped nor aggregated. -/
  | missingGroupByColumns
  /-- A filter applies a function to a column. -/
  | functionWrappedPredicate
  /-- A table of keys and values is joined. -/
  | metadataTableJoin
  deriving DecidableEq, Repr

/-- A rule of the catalog. -/
structure Rule where
  /-- What the rule objects to. -/
  code : RuleCode
  /-- The points taken off the score. -/
  weight : Nat
  /-- What the review says. -/
  message : Text
  /-- The least severe tier of a query that breaks the rule. -/
  floor : Option Severity := none
  deriving DecidableEq, Repr

namespace RuleCode

/-- All codes in catalog order. -/
def all : List RuleCode :=
  [.selectStar, .missingIndex, .orderByWithoutLimit, .leadingWildcardLike, .orInWhere,
    .joinWithoutCondition, .subquery, .joinFanoutAggregate, .missingGroupByColumns,
    .functionWrappedPredicate, .metadataTableJoin]

/-- The name of a code. -/
def name : RuleCode → Text
  | .selectStar => "select_star"
  | .missingIndex => "missing_index"
  | .orderByWithoutLimit => "order_by_without_limit"
  | .leadingWildcardLike => "leading_wildcard_like"
  | .orInWhere => "or_in_where"
  | .joinWithoutCondition => "join_without_condition"
  | .subquery => "subquery"
  | .joinFanoutAggregate => "join_fanout_aggregate"
  | .missingGroupByColumns => "missing_group_by_columns"
  | .functionWrappedPredicate => "function_wrapped_predicate"
  | .metadataTableJoin => "metadata_table_join"

/-- The code of a name. -/
def ofName? (name : Text) : Option RuleCode :=
  all.find? (·.name = name)

/-- The rule of a code. -/
def rule : RuleCode → Rule
  | .selectStar =>
    ⟨.selectStar, 15, "Using SELECT * retrieves unnecessary columns", some .low⟩
  | .missingIndex =>
    ⟨.missingIndex, 20, "Missing index on WHERE clause columns", some .high⟩
  | .orderByWithoutLimit =>
    ⟨.orderByWithoutLimit, 10, "ORDER BY without LIMIT can cause performance issues", none⟩
  | .leadingWildcardLike =>
    ⟨.leadingWildcardLike, 15, "Leading wildcard in LIKE prevents index usage", some .high⟩
  | .orInWhere =>
    ⟨.orInWhere, 10, "OR conditions may prevent index optimization", none⟩
  | .joinWithoutCondition =>
    ⟨.joinWithoutCondition, 25, "JOIN without proper ON clause", some .critical⟩
  | .subquery =>
    ⟨.subquery, 12, "Subquery detected - consider using JOIN instead", none⟩
  | .joinFanoutAggregate =>
    ⟨.joinFanoutAggregate, 15,
      "Aggregate without DISTINCT over a JOIN may overcount rows (join fan-out)", some .medium⟩
  | .missingGroupByColumns =>
    ⟨.missingGroupByColumns, 20,
      "Non-aggregated SELECT columns are missing from GROUP BY", some .high⟩
  | .functionWrappedPredicate =>
    ⟨.functionWrappedPredicate, 15,
      "Function applied to a WHERE column prevents index usage", some .high⟩
  | .metadataTableJoin =>
    ⟨.metadataTableJoin, 10,
      "JOIN on a key/value metadata table - consider a composite index or pivoting with a CTE",
      none⟩

@[simp] theorem code_rule (code : RuleCode) : code.rule.code = code := by
  cases code <;> rfl

end RuleCode

/-- The rules in catalog order. -/
def catalog : List Rule :=
  RuleCode.all.map RuleCode.rule

end SqlReview
