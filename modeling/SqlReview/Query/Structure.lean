import SqlReview.Query.Condition
import SqlReview.Query.Mask
import SqlReview.Query.Normal
import SqlReview.Query.Projection
import SqlReview.Query.Scope
import SqlReview.Query.Source
import SqlReview.Text.Utf8

/-!
# The structure of a query

The signals in a query text that the review rules look at. Extraction always succeeds: what it
does not recognise leaves the corresponding field empty. Clauses are found on the top level, and
tables and joins also in every subquery on its own level.
-/

namespace SqlReview

open Query

/-- The structural signals of a query. -/
structure Structure where
  /-- The tables in the order of appearance. -/
  tables : List Text := []
  /-- The aliases and what they stand for. -/
  aliases : List (Text × Text) := []
  /-- The joins in the order of appearance. -/
  joins : List Join := []
  /-- The columns that the outer WHERE clause compares. -/
  whereColumns : List WhereColumn := []
  /-- Whether there is an outer WHERE clause. -/
  hasWhere : Bool := false
  /-- Whether the outer WHERE clause has an OR. -/
  hasOrInWhere : Bool := false
  /-- Whether the query tells the planner which index to use. -/
  hasIndexHint : Bool := false
  /-- The plain columns of the outer select list. -/
  selectColumns : List Text := []
  /-- Whether the outer select list calls an aggregate. -/
  selectHasAggregate : Bool := false
  /-- The items of the outer GROUP BY clause. -/
  groupByColumns : List Text := []
  /-- The items of the outer ORDER BY clause without their directions. -/
  orderByColumns : List Text := []
  /-- Whether the number of rows is limited. -/
  hasLimit : Bool := false
  /-- The uses of aggregate functions. -/
  aggregates : List Aggregate := []
  /-- The number of subqueries. -/
  subqueryCount : Nat := 0
  /-- Whether all columns of some table are selected. -/
  selectsAllColumns : Bool := false
  deriving DecidableEq, Repr

namespace Query

/-! ## Patterns -/

/-- An instruction to the planner about indexes: after a table, in a WITH list, or in a hint. -/
def indexHint : Pattern :=
  .any [
    .all [.edge, .any [.letters "use", .letters "force", .letters "ignore"], .someBlanks,
      .letters "index", .edge],
    .all [.edge, .letters "with", .blanks, .char '(', .blanks,
      .optional (.all [.letters "nolock", .blanks, .char ',', .blanks]),
      .letters "index", .blanks, .one (fun c => c = '(' || c = '=')],
    .all [.letters "/*+", .many (· ≠ '*'), .edge, .letters "index", .blanks, .char '(']]

/-- A limit on the number of rows, in any of its forms. -/
def rowLimit : Pattern :=
  .any [
    .word "limit",
    .all [.edge, .letters "fetch", .someBlanks, .alt (.letters "first") (.letters "next"), .edge],
    .all [.textStart, .blanks, .letters "select", .someBlanks, optionalWord "distinct",
      .letters "top", .edge]]

/-- The direction of an ORDER BY item, perhaps missing, at the end of the item. -/
def orderDirection : Pattern :=
  .all [
    .optional (.seq .someBlanks (.alt (.letters "asc") (.letters "desc"))),
    .optional (.all [.someBlanks, .letters "nulls", .someBlanks,
      .alt (.letters "first") (.letters "last")]),
    .blanks, .textEnd]

/-! ## Clauses -/

/-- The items of a clause of a given name. -/
def clauseItems (text masked : Text) (clauses : List Clause) (name : Text) : List Text :=
  match clause? clauses name with
  | some clause => items (clause.body text) (clause.body masked)
  | none => []

/-- The tables and joins of a query and, after them, of its subqueries. -/
def allSources (text masked : Text) : Sources :=
  (scopes text).foldl (fun sources scope => collectSources scope.text scope.masked sources)
    (collectSources text masked {})

end Query

namespace Structure

/-- The structure of a query in normal form. -/
def ofNormal (hasIndexHint : Bool) (text : Text) : Structure :=
  let masked := mask text
  let clauses := clauses masked
  let sources := allSources text masked
  let projection := match clause? clauses "select" with
    | some clause => Projection.ofClause (clause.body text) (clause.body masked)
    | none => {}
  let condition := (clause? clauses "where").map fun clause => clause.body (outsideView text)
  { tables := sources.tables
    aliases := sources.aliases
    joins := sources.joins
    whereColumns := (condition.map Query.whereColumns).getD []
    hasWhere := condition.isSome
    hasOrInWhere := condition.any hasOr
    hasIndexHint := hasIndexHint
    selectColumns := projection.columns
    selectHasAggregate := projection.hasAggregate
    groupByColumns := clauseItems text masked clauses "group by"
    orderByColumns := ((clauseItems text masked clauses "order by").map
      orderDirection.beforeFirst).filter (· ≠ [])
    hasLimit := rowLimit.occursIn masked
    aggregates := Query.aggregates text
    subqueryCount := Query.subqueryCount text
    selectsAllColumns := projection.selectsAll }

/-- The structure of a query. Index hints are looked for in the text as it is, since comments can
hold them. -/
def extract [CommentRemover] (text : Text) : Structure :=
  let hasIndexHint := indexHint.occursIn text
  if Text.isAllBlank text then {}
  else if (normalize text).isEmpty then { hasIndexHint := hasIndexHint }
  else ofNormal hasIndexHint (normalize text)

/-- The structure of a query given as bytes, which are read leniently. -/
def extractBytes [CommentRemover] (bytes : List UInt8) : Structure :=
  extract (Text.decodeLenient bytes)

end Structure
end SqlReview
