import SqlReview.Query.Scope
import SqlReview.Query.Source
import SqlReview.Review.Catalog

/-!
# Signals in the plain text

A quick review looks for the core rules in the text of a query without taking it apart. Words
count wherever they stand, in comments and literals too.
-/

namespace SqlReview
namespace Heuristic

open Query

/-! ## Patterns -/

/-- A star directly after the word SELECT, which may end a longer word. -/
def selectStar : Pattern :=
  .all [.letters "select", .someBlanks, .char '*']

/-- The words ORDER BY. -/
def orderBy : Pattern :=
  .all [.edge, twoWords "order" "by", .edge]

/-- A limit on the number of rows, in any of its forms and anywhere. -/
def rowLimit : Pattern :=
  .any [
    .word "limit",
    .all [.edge, .letters "fetch", .someBlanks, .alt (.letters "first") (.letters "next"), .edge],
    .all [.edge, .letters "select", .someBlanks, optionalWord "distinct", .letters "top", .edge]]

/-- A match against a literal that starts with a wildcard. -/
def leadingWildcard : Pattern :=
  .all [.letters "like", .someBlanks, .optional (.letter 'n'), .letters "'%"]

/-- A condition of a join. -/
def joinCondition : Pattern :=
  .alt (.word "on") (.word "using")

/-! ## Tests -/

/-- Whether rows are sorted without a limit. -/
def lacksLimit (text : Text) : Bool :=
  orderBy.occursIn text && !rowLimit.occursIn text

/-- Whether there is an OR somewhere behind the first WHERE. -/
def hasOrAfterWhere (text : Text) : Bool :=
  match (Pattern.word "where").search text with
  | some found =>
    let behind := Place.within text found.stop
    ((Pattern.word "or").searchFrom behind.before behind.index behind.rest).isSome
  | none => false

/-- Whether there are more joins than conditions of joins. -/
def hasUnconditionedJoin (text : Text) : Bool :=
  (joinCondition.occurrences text).length < ((Pattern.word "join").occurrences text).length

/-- The core rules with their tests on the text of a query in lower case. -/
def tests (text : Text) : List (RuleCode × Bool) :=
  [(.selectStar, selectStar.occursIn text),
    (.missingIndex,
      (Pattern.word "where").occursIn text && !(Pattern.word "index").occursIn text),
    (.orderByWithoutLimit, lacksLimit text),
    (.leadingWildcardLike, leadingWildcard.occursIn text),
    (.orInWhere, hasOrAfterWhere text),
    (.joinWithoutCondition, hasUnconditionedJoin text),
    (.subquery, subqueryHead.occursIn text)]

/-- The core rules that the text of a query in lower case seems to break. -/
def signals (text : Text) : List RuleCode :=
  ((tests text).filter Prod.snd).map Prod.fst

end Heuristic
end SqlReview
