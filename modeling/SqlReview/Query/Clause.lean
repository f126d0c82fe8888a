import SqlReview.Pattern.Letter
import SqlReview.Pattern.Search
import SqlReview.Text.Case

/-!
# Clauses

The clauses of a query, found on its top level. A clause runs from behind its keyword to the next
keyword of any clause; of several clauses with one keyword only the first counts.
-/

namespace SqlReview
namespace Query

/-- A keyword of two words with white space between them. -/
def twoWords (first second : Text) : Pattern :=
  .all [.letters first, .someBlanks, .letters second]

/-- The keyword of a clause, recorded as group 1. -/
def clauseKeyword : Pattern :=
  .all [.edge,
    .group 1 (.any [.letters "select", .letters "from", .letters "where",
      twoWords "group" "by", .letters "having", twoWords "order" "by",
      .letters "limit", .letters "offset", .letters "fetch", .letters "union",
      .letters "intersect", .letters "except", .letters "window", .letters "returning"]),
    .edge]

/-- A clause: the name of its keyword, and the offsets of its body. -/
structure Clause where
  /-- The keyword in lower case with single blanks. -/
  name : Text
  /-- Where the body starts. -/
  start : Nat
  /-- Where the body ends. -/
  stop : Nat
  deriving DecidableEq, Repr

/-- The name of a keyword as it stands in a query. -/
def clauseName (keyword : Text) : Text :=
  Text.collapse (Text.lower keyword)

/-- The clauses of the keywords of a text of a given length, those already seen left out. -/
def clausesFrom (length : Nat) (seen : List Text) : List Occurrence → List Clause
  | [] => []
  | keyword :: rest =>
    let name := clauseName (keyword.groupText 1)
    let stop := (rest.head?.map (·.start)).getD length
    if seen.contains name then clausesFrom length seen rest
    else ⟨name, keyword.stop, stop⟩ :: clausesFrom length (name :: seen) rest

/-- The clauses of a query, given its top level. -/
def clauses (masked : Text) : List Clause :=
  clausesFrom masked.length [] (clauseKeyword.occurrences masked)

/-- The clause of a given name. -/
def clause? (clauses : List Clause) (name : Text) : Option Clause :=
  clauses.find? (·.name = name)

namespace Clause

/-- The body of a clause in a text of the length it was found in. -/
def body (clause : Clause) (text : Text) : Text :=
  Text.slice text clause.start clause.stop

end Clause
end Query
end SqlReview
