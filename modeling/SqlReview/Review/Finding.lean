import SqlReview.Query.Structure
import SqlReview.Review.Assessment
import SqlReview.Text.Digit

/-!
# Findings

The rules applied to the structure of a query. Findings come in catalog order, whatever the order
of things in the query; some name the columns, tables or functions they are about.
-/

namespace SqlReview

/-- A rule that a query breaks. -/
structure Finding where
  /-- The rule. -/
  code : RuleCode
  /-- What the review says, with the names of what it is about. -/
  message : Text
  /-- The points taken off the score. -/
  weight : Nat
  /-- The least severe tier of the query. -/
  floor : Option Severity
  deriving DecidableEq, Repr

/-- A rule with the test that decides whether a query breaks it. -/
structure Check where
  /-- The rule. -/
  rule : Rule
  /-- Whether a query breaks the rule. -/
  applies : Structure → Bool
  /-- The names that the message ends with, if it has any. -/
  subjects : Option (Structure → List Text) := none

namespace Check

/-- The message of a rule about a query. -/
def message (check : Check) (query : Structure) : Text :=
  match check.subjects with
  | some subjects => check.rule.message ++ ": ".toList ++ Text.join ", " (subjects query)
  | none => check.rule.message

/-- What the rule finds in a query. -/
def finding? (check : Check) (query : Structure) : Option Finding :=
  if check.applies query then
    some ⟨check.rule.code, check.message query, check.rule.weight, check.rule.floor⟩
  else none

end Check

/-! ## Names -/

/-- A name without what qualifies it, without marks around it, and in lower case. -/
def bareName (name : Text) : Text :=
  Text.lower (Text.trimWhere (fun c => c = '"' || c = '\x60' || c = '[' || c = ']')
    (Text.lastPiece '.' name))

/-- The name of a table of keys and values. -/
def metadataTable : Pattern :=
  .any [
    .seq (.letters "meta") .textEnd, .letters "_meta_", .seq (.letters "metadata") .textEnd,
    .all [.letters "_attribute", .optional (.letter 's'), .textEnd],
    .seq (.letters "_properties") .textEnd, .seq (.letters "_props") .textEnd,
    .seq (.letters "_kv") .textEnd, .seq .textStart (.letters "eav_"),
    .seq (.letters "_eav") .textEnd]

/-- The aggregates whose result changes when a join multiplies rows. -/
def fanoutSensitive : List Text :=
  ["COUNT", "SUM", "AVG", "GROUP_CONCAT", "STRING_AGG", "ARRAY_AGG", "LISTAGG"]

namespace Structure

/-! ## Tests -/

/-- Whether some join has neither an ON condition nor a USING list. -/
def hasUnconditionedJoin (query : Structure) : Bool :=
  query.joins.any fun join => !(join.hasOn || join.hasUsing)

/-- The aggregates that would count rows multiplied by a join. -/
def fanoutAggregates (query : Structure) : List Text :=
  (query.aggregates.filter fun aggregate =>
    fanoutSensitive.contains aggregate.function && !aggregate.isDistinct).map (·.function)

/-- Whether an item of a GROUP BY clause is the position of a column. -/
def isPosition (item : Text) : Bool :=
  let digits := Text.trim item
  !digits.isEmpty && digits.all Text.isDigit

/-- The names under which columns count as grouped: the items, and their bare names. -/
def groupedNames (query : Structure) : List Text :=
  query.groupByColumns.map Text.lower ++ query.groupByColumns.map bareName

/-- The selected columns that are not grouped beside an aggregate. Positions in GROUP BY are not
followed, so with one of them there are none. -/
def ungroupedColumns (query : Structure) : List Text :=
  if !query.selectHasAggregate || query.groupByColumns.any isPosition then []
  else
    query.selectColumns.filter fun column =>
      !query.groupedNames.contains (Text.lower column) &&
        !query.groupedNames.contains (bareName column)

/-- The columns that conditions apply functions to. -/
def wrappedColumns (query : Structure) : List Text :=
  (query.whereColumns.filter (·.isWrapped)).map (·.name)

/-- The joined tables of keys and values. -/
def metadataTables (query : Structure) : List Text :=
  if query.joins.isEmpty then []
  else query.tables.filter fun table => metadataTable.occursIn (bareName table)

end Structure

/-! ## Rules -/

/-- A rule whose message ends with the names it is about, and which is broken if there are any. -/
def Check.naming (code : RuleCode) (subjects : Structure → List Text) : Check :=
  ⟨code.rule, fun query => !(subjects query).isEmpty, some subjects⟩

/-- The rules about the outline of a query. -/
def coreChecks : List Check :=
  [⟨RuleCode.selectStar.rule, (·.selectsAllColumns), none⟩,
    ⟨RuleCode.missingIndex.rule, fun query => query.hasWhere && !query.hasIndexHint, none⟩,
    ⟨RuleCode.orderByWithoutLimit.rule,
      fun query => !query.orderByColumns.isEmpty && !query.hasLimit, none⟩,
    ⟨RuleCode.leadingWildcardLike.rule,
      fun query => query.whereColumns.any (·.hasLeadingWildcard), none⟩,
    ⟨RuleCode.orInWhere.rule, (·.hasOrInWhere), none⟩,
    ⟨RuleCode.joinWithoutCondition.rule, Structure.hasUnconditionedJoin, none⟩,
    ⟨RuleCode.subquery.rule, fun query => 0 < query.subqueryCount, none⟩]

/-- The rules about particular columns, tables and functions. -/
def extendedChecks : List Check :=
  [⟨RuleCode.joinFanoutAggregate.rule,
      fun query => !query.joins.isEmpty && !query.fanoutAggregates.isEmpty,
      some Structure.fanoutAggregates⟩,
    .naming .missingGroupByColumns Structure.ungroupedColumns,
    .naming .functionWrappedPredicate Structure.wrappedColumns,
    .naming .metadataTableJoin Structure.metadataTables]

/-- All rules in catalog order. -/
def allChecks : List Check :=
  coreChecks ++ extendedChecks

/-- What rules find in a query. -/
def detect (checks : List Check) (query : Structure) : List Finding :=
  checks.filterMap (·.finding? query)

/-- The assessment of findings, starting from a given score. -/
def assessFindings (findings : List Finding) (base : Int) : Assessment :=
  Assessment.ofRules (findings.map (·.code.rule)) base

/-- The findings in one line. -/
def summarize (findings : List Finding) : Text :=
  if findings.isEmpty then "No major issues detected"
  else Text.join "; " (findings.map (·.message))

end SqlReview
