import SqlReview.Pattern.Letter
import SqlReview.Pattern.Search
import SqlReview.Text.Case

/-!
# Names in queries

The forms that names of tables, columns and aliases can take, and the words that look like names
and are none.
-/

namespace SqlReview
namespace Query

/-! ## Forms -/

/-- A name between two marks, without the closing mark inside. -/
def delimited (opening closing : Char) : Pattern :=
  .all [.char opening, .oneOrMore (· ≠ closing), .char closing]

/-- A name between one of the pairs of marks that engines use. -/
def delimitedName : Pattern :=
  .any [delimited '"' '"', delimited '\x60' '\x60', delimited '[' ']']

/-- One part of the name of a table. -/
def namePart : Pattern :=
  .alt .identifier delimitedName

/-- A dot with white space around it. -/
def dot : Pattern :=
  .all [.blanks, .char '.', .blanks]

/-- The name of a column, perhaps with the name of a table in front. -/
def columnName : Pattern :=
  .seq (.optional (.seq .identifier (.char '.'))) .identifier

/-- A name without white space at its ends and around its dots. -/
def cleanName (name : Text) : Text :=
  dot.replace ['.'] (Text.trim name)

/-! ## Words -/

/-- Words that can follow a table and are never its alias. -/
def nonAliasWords : List Text :=
  ["as", "on", "using", "where", "join", "inner", "left", "right", "full", "cross",
    "natural", "outer", "group", "order", "limit", "having", "union", "window",
    "lateral", "tablesample", "with", "use", "force", "ignore", "offset",
    "fetch", "set", "returning", "intersect", "except"]

/-- Words that look like columns in conditions and select lists and are none. -/
def sqlWords : List Text :=
  ["and", "or", "not", "where", "null", "true", "false", "exists", "case",
    "when", "then", "else", "end", "between", "like", "ilike", "in", "is",
    "any", "all", "some", "select", "from", "escape"]

/-- Words that can stand before a parenthesis and are no functions. -/
def nonFunctionWords : List Text :=
  ["in", "exists", "any", "all", "some", "not", "and", "or", "values", "select"]

/-- Whether a name is one of a list of words, case ignored. -/
def isAmong (words : List Text) (name : Text) : Bool :=
  words.contains (Text.lower name)

end Query
end SqlReview
