import SqlReview.Query.Items
import SqlReview.Query.Name
import SqlReview.Text.Digit

/-!
# Select lists and aggregates

What a query returns: plain columns, everything, or aggregates. An aggregate with a window does
not group rows and counts neither as a column nor as an aggregate of the list.
-/

namespace SqlReview
namespace Query

/-- The use of an aggregate function. -/
structure Aggregate where
  /-- The name of the function in capital letters. -/
  function : Text
  /-- Whether only distinct values count. -/
  isDistinct : Bool := false
  deriving DecidableEq, Repr

/-- What a select list returns. -/
structure Projection where
  /-- The plain columns in order. -/
  columns : List Text := []
  /-- Whether an aggregate without a window is called. -/
  hasAggregate : Bool := false
  /-- Whether all columns of some table are returned. -/
  selectsAll : Bool := false
  deriving DecidableEq, Repr

/-! ## Patterns -/

/-- The aggregate functions. -/
def aggregateNames : List Text :=
  ["count", "sum", "avg", "min", "max", "group_concat", "string_agg",
    "array_agg", "listagg", "stddev", "variance", "median"]

/-- A call of an aggregate function, recorded as group 1, perhaps over distinct values, recorded as
group 2. -/
def aggregateCall : Pattern :=
  .all [.edge, .group 1 (.any (aggregateNames.map .letters)), .blanks, .char '(', .blanks,
    .optional (.group 2 (.seq (.letters "distinct") .edge))]

/-- The word OVER and an opening parenthesis. -/
def windowKeyword : Pattern :=
  .all [.edge, .letters "over", .blanks, .char '(']

/-- What can stand between SELECT and the list: a treatment of duplicates, and a number of rows. -/
def selectPreamble : Pattern :=
  .all [.textStart, .blanks,
    .optional (.any [
      .all [.letters "distinct", .someBlanks, .letters "on", .blanks, .char '(',
        .many (fun c => c ≠ '(' && c ≠ ')'), .char ')'],
      .letters "distinct", .letters "all"]),
    .blanks,
    .optional (.all [.letters "top", .someBlanks, .optional (.char '('), .blanks,
      .oneOrMore Text.isDecimalDigit, .blanks, .optional (.char ')'), .blanks,
      .optional (.seq (.letters "percent") .someBlanks)])]

/-- Whether a character can start the name of a table in front of a star. -/
def startsPlainIdentifier (c : Char) : Bool :=
  ('A' ≤ c && c ≤ 'Z') || ('a' ≤ c && c ≤ 'z') || c = '_'

/-- A star, perhaps with one table in front. -/
def starItem : Pattern :=
  .all [.textStart,
    .optional (.seq
      (.alt (.seq (.one startsPlainIdentifier) (.many Text.continuesIdentifier)) delimitedName)
      dot),
    .char '*', .textEnd]

/-- A column, recorded as group 1, perhaps with a name of its own. -/
def columnItem : Pattern :=
  .all [.textStart, .group 1 columnName,
    .optional (.all [.someBlanks, .optional (.seq (.letters "as") .someBlanks), .identifier]),
    .textEnd]

/-! ## Reading a list -/

namespace Projection

/-- One more item. -/
def add (projection : Projection) (item : Text) : Projection :=
  if starItem.occursIn item then { projection with selectsAll := true }
  else if aggregateCall.occursIn item then
    if windowKeyword.occursIn item then projection else { projection with hasAggregate := true }
  else
    match columnItem.atStart? item with
    | none => projection
    | some occurrence =>
      let column := occurrence.groupText 1
      if isAmong sqlWords column then projection
      else { projection with columns := projection.columns ++ [column] }

/-- What a select list returns, given the body of the clause and its top level. -/
def ofClause (body masked : Text) : Projection :=
  let preamble := ((selectPreamble.atStart? masked).map (·.stop)).getD 0
  (items (body.drop preamble) (masked.drop preamble)).foldl add {}

end Projection

/-- One more call of an aggregate, unless it is there. -/
def addAggregate (aggregates : List Aggregate) (call : Occurrence) : List Aggregate :=
  let aggregate : Aggregate := ⟨Text.upper (call.groupText 1), (call.group? 2).isSome⟩
  if aggregates.contains aggregate then aggregates else aggregates ++ [aggregate]

/-- The different uses of aggregate functions anywhere in a query. -/
def aggregates (text : Text) : List Aggregate :=
  (aggregateCall.occurrences text).foldl addAggregate []

end Query
end SqlReview
