import SqlReview.Query.Name
import SqlReview.Text.Basic

/-!
# Columns in conditions

The columns that a WHERE clause compares: a column directly before an operator, or a column that
is the first argument of a function before an operator. Entries for one column, case ignored, are
put together.
-/

namespace SqlReview
namespace Query

/-- A column that a condition compares. -/
structure WhereColumn where
  /-- The name of the column as it first appears. -/
  name : Text
  /-- Whether some comparison applies a function to it. -/
  isWrapped : Bool := false
  /-- Whether some comparison matches it against a literal that starts with a wildcard. -/
  hasLeadingWildcard : Bool := false
  deriving DecidableEq, Repr

/-- The name of a column without the name of its table. -/
def WhereColumn.column (column : WhereColumn) : Text :=
  Text.lastPiece '.' column.name

/-! ## Patterns -/

/-- The text of an operator of two words. -/
def wordOperator (first second : Pattern) : Pattern :=
  .all [.edge, first, .someBlanks, second, .edge]

/-- The word LIKE, perhaps in the form that ignores case. -/
def likeWord : Pattern :=
  .seq (.optional (.letter 'i')) (.letters "like")

/-- A comparison operator, recorded as group 3. -/
def operator : Pattern :=
  .group 3 (.any [.letters "=", .letters "<>", .letters "!=", .letters "<=", .letters ">=",
    .letters "<", .letters ">",
    wordOperator (.letters "not") likeWord, .all [.edge, likeWord, .edge],
    wordOperator (.letters "not") (.letters "in"), .word "in",
    wordOperator (.letters "not") (.letters "between"), .word "between", .word "is"])

/-- A function, recorded as group 1, applied to a column, recorded as group 2, before an
operator. -/
def wrappedColumn : Pattern :=
  .all [.edge, .group 1 .identifier, .blanks, .char '(', .blanks, .group 2 columnName, .blanks,
    .optional (.seq (.char ',') (.many fun c => c ≠ '(' && c ≠ ')')),
    .char ')', .blanks, operator]

/-- A column, recorded as group 2, before an operator. -/
def plainColumn : Pattern :=
  .all [.notAfter (fun c => Text.continuesIdentifier c || c = '.' || c = '\'' || c = '"'),
    .group 2 columnName, .blanks, operator]

/-- A literal that starts with a wildcard. -/
def leadingWildcard : Pattern :=
  .all [.blanks, .optional (.one fun c => c = 'n' || c = 'N'), .letters "'%"]

/-- The word OR. -/
def orKeyword : Pattern :=
  .word "or"

/-! ## Comparisons -/

/-- A comparison found in a condition. -/
structure Comparison where
  /-- Where the column stands. -/
  start : Nat
  /-- The name of the column. -/
  name : Text
  /-- Whether a function is applied to the column. -/
  isWrapped : Bool
  /-- Whether the column is matched against a literal that starts with a wildcard. -/
  hasLeadingWildcard : Bool
  deriving DecidableEq, Repr

/-- Whether the operator of an occurrence is a LIKE and a literal with a leading wildcard
follows. -/
def matchesLeadingWildcard (view : Text) (occurrence : Occurrence) : Bool :=
  Text.holds "like" (Text.lower (occurrence.groupText 3)) &&
    leadingWildcard.fitsAt (Place.within view occurrence.stop)

/-- The comparison that an occurrence stands for. -/
def comparison (view : Text) (isWrapped : Bool) (occurrence : Occurrence) : Comparison :=
  { start := ((occurrence.group? 2).map (·.start)).getD occurrence.start
    name := occurrence.groupText 2
    isWrapped := isWrapped
    hasLeadingWildcard := matchesLeadingWildcard view occurrence }

/-- The comparisons of columns inside functions. -/
def wrappedComparisons (view : Text) : List Comparison :=
  ((wrappedColumn.occurrences view).filter fun occurrence =>
    !isAmong nonFunctionWords (occurrence.groupText 1)).map (comparison view true)

/-- The comparisons of columns that stand alone. -/
def plainComparisons (view : Text) : List Comparison :=
  ((plainColumn.occurrences view).filter fun occurrence =>
    !isAmong sqlWords (occurrence.groupText 2)).map (comparison view false)

/-- All comparisons from left to right. -/
def comparisons (view : Text) : List Comparison :=
  (wrappedComparisons view ++ plainComparisons view).mergeSort fun first second =>
    first.start ≤ second.start

/-! ## Columns -/

/-- One more comparison put together with the columns before it. -/
def addComparison (comparison : Comparison) : List WhereColumn → List WhereColumn
  | [] => [⟨comparison.name, comparison.isWrapped, comparison.hasLeadingWildcard⟩]
  | column :: others =>
    if Text.lower column.name = Text.lower comparison.name then
      { column with
        isWrapped := column.isWrapped || comparison.isWrapped
        hasLeadingWildcard := column.hasLeadingWildcard || comparison.hasLeadingWildcard } ::
        others
    else column :: addComparison comparison others

/-- The columns that a condition compares, given its view from outside all subqueries. -/
def whereColumns (view : Text) : List WhereColumn :=
  (comparisons view).foldl (fun columns comparison => addComparison comparison columns) []

/-- A text with every closed literal emptied. -/
def withoutLiterals (text : Text) : Text :=
  Pattern.replace (.all [.char '\'', .many (· ≠ '\''), .char '\'']) "''" text

/-- Whether a condition has an OR outside of literals. -/
def hasOr (view : Text) : Bool :=
  orKeyword.occursIn (withoutLiterals view)

end Query
end SqlReview
