import SqlReview.Proofs.Pattern.Words
import SqlReview.Proofs.Query.Clauses
import SqlReview.Query.Projection
import SqlReview.Query.Source

/-!
# Plain queries

A family of queries on which both reviews can be compared: a list of columns or a star, a table with
joins, and perhaps a filter, an order and a limit, written with single blanks. Names and the words
in literals are none of the words that a review looks for.
-/

namespace SqlReview
namespace Plain

open Query

/-! ## Names -/

/-- The words that one of the reviews looks for. -/
def reservedWords : List Text :=
  clausePhrases.flatten ++ nonAliasWords ++ sqlWords ++ nonFunctionWords ++ aggregateNames ++
    (["index", "distinct", "top", "percent", "first", "next", "last", "asc", "desc", "nulls",
      "nolock", "over", "only"] : List Text)

/-- Whether a character can stand in a name. -/
def isNameChar (c : Char) : Bool :=
  startsPlainIdentifier c || ('0' ≤ c && c ≤ '9')

/-- The name of a table or a column, or an alias. -/
structure Name where
  /-- Its first character. -/
  first : Char
  /-- What follows the first character. -/
  others : Text
  /-- It starts with a letter or an underscore. -/
  starts : startsPlainIdentifier first = true
  /-- It has letters, digits and underscores. -/
  continues : ∀ c ∈ others, isNameChar c = true
  /-- It is none of the reserved words, case ignored. -/
  isFree : (first :: others).map Text.foldLetter ∉ reservedWords

def Name.text (name : Name) : Text :=
  name.first :: name.others

/-- A column, perhaps with the name of its table. -/
structure Column where
  /-- The table. -/
  table : Option Name
  /-- The column itself. -/
  name : Name

def Column.text (column : Column) : Text :=
  match column.table with
  | some table => table.text ++ '.' :: column.name.text
  | none => column.name.text

/-- A list of columns. -/
structure Columns where
  /-- The first one. -/
  first : Column
  /-- The others, each with whether a blank follows the comma in front of it. -/
  others : List (Bool × Column)

/-- A comma, perhaps with a blank behind it. -/
def comma (spaced : Bool) : Text :=
  if spaced then ", " else ","

def Columns.text (columns : Columns) : Text :=
  columns.first.text ++ columns.others.flatMap fun other => comma other.1 ++ other.2.text

/-! ## Tables -/

/-- A table, perhaps with an alias. -/
structure Table where
  /-- The name of the table. -/
  name : Name
  /-- The alias. -/
  aliasName : Option Name

def Table.text (table : Table) : Text :=
  match table.aliasName with
  | some aliasName => table.name.text ++ ' ' :: aliasName.text
  | none => table.name.text

/-- The kinds of joins. -/
inductive JoinKind where
  | plain
  | inner
  | left
  | right
  | cross
  | fullOuter
  deriving DecidableEq, Repr

def JoinKind.text : JoinKind → Text
  | .plain => "JOIN"
  | .inner => "INNER JOIN"
  | .left => "LEFT JOIN"
  | .right => "RIGHT JOIN"
  | .cross => "CROSS JOIN"
  | .fullOuter => "FULL OUTER JOIN"

/-- The condition of a join, which may be missing: two columns behind ON, or a column that both tables
have behind USING. -/
inductive JoinCondition where
  | none
  | on (first second : Column)
  | shared (column : Column)

def JoinCondition.text : JoinCondition → Text
  | .none => []
  | .on first second => " ON ".toList ++ (first.text ++ (" = ".toList ++ second.text))
  | .shared column => " USING (".toList ++ (column.text ++ ")".toList)

/-- A further table. -/
structure JoinedTable where
  /-- The kind of the join. -/
  kind : JoinKind
  /-- The table. -/
  table : Table
  /-- The condition. -/
  condition : JoinCondition

def JoinedTable.text (joined : JoinedTable) : Text :=
  joined.kind.text ++ ' ' :: (joined.table.text ++ joined.condition.text)

/-! ## Conditions -/

/-- Whether a character is a digit. -/
def isNumeralChar (c : Char) : Bool :=
  '0' ≤ c && c ≤ '9'

/-- A numeral. -/
structure Numeral where
  /-- Its digits. -/
  text : Text
  /-- There are digits. -/
  nonempty : text ≠ []
  /-- There are only digits. -/
  digits : ∀ c ∈ text, isNumeralChar c = true

/-- Whether a character can stand in a literal. -/
def isLiteralChar (c : Char) : Bool :=
  ('A' ≤ c && c ≤ 'Z') || ('a' ≤ c && c ≤ 'z') || isNumeralChar c || c = '%'

/-- What a literal holds. -/
structure LiteralText where
  /-- The characters between the quotes. -/
  text : Text
  /-- They are letters, digits and wildcards. -/
  plain : ∀ c ∈ text, isLiteralChar c = true
  /-- No word among them is reserved. -/
  isFree : ∀ word ∈ Text.words text, word ∉ reservedWords

/-- What a column is compared with. -/
inductive Value where
  | number (numeral : Numeral)
  | literal (content : LiteralText)

def Value.text : Value → Text
  | .number numeral => numeral.text
  | .literal content => '\'' :: (content.text ++ ['\''])

/-- The operators. -/
inductive Comparator where
  | eq
  | ne
  | lt
  | gt
  | le
  | ge
  | like
  deriving DecidableEq, Repr

def Comparator.text : Comparator → Text
  | .eq => "="
  | .ne => "<>"
  | .lt => "<"
  | .gt => ">"
  | .le => "<="
  | .ge => ">="
  | .like => "LIKE"

/-- A comparison of a column with a value. -/
structure Predicate where
  /-- The column. -/
  column : Column
  /-- The operator. -/
  comparator : Comparator
  /-- The value. -/
  value : Value

def Predicate.text (predicate : Predicate) : Text :=
  predicate.column.text ++ ' ' :: (predicate.comparator.text ++ ' ' :: predicate.value.text)

/-- What connects two predicates. -/
inductive Connective where
  | and
  | or
  deriving DecidableEq, Repr

def Connective.text : Connective → Text
  | .and => "AND"
  | .or => "OR"

/-- A filter. -/
structure Filter where
  /-- The first predicate. -/
  first : Predicate
  /-- The others, each with what connects it to the one before. -/
  others : List (Connective × Predicate)

def Filter.text (filter : Filter) : Text :=
  filter.first.text ++
    filter.others.flatMap fun other => ' ' :: (other.1.text ++ ' ' :: other.2.text)

/-! ## Clauses -/

/-- The clauses of a plain query. -/
inductive ClauseKind where
  | select
  | source
  | filter
  | order
  | limit
  deriving DecidableEq, Repr

/-- The keyword of a clause. -/
def ClauseKind.keyword : ClauseKind → Text
  | .select => "SELECT"
  | .source => "FROM"
  | .filter => "WHERE"
  | .order => "ORDER BY"
  | .limit => "LIMIT"

/-- The name under which a clause is found. -/
def ClauseKind.name : ClauseKind → Text
  | .select => "select"
  | .source => "from"
  | .filter => "where"
  | .order => "order by"
  | .limit => "limit"

/-- A clause: its kind, and what follows its keyword and a blank. -/
abbrev Section := ClauseKind × Text

/-- Clauses one after another with single blanks between them. -/
def sectionsText (sections : List Section) : Text :=
  Text.join " " (sections.map fun part => part.1.keyword ++ ' ' :: part.2)

/-! ## Queries -/

/-- What a query selects. -/
inductive Selection where
  | star
  | list (columns : Columns)

def Selection.text : Selection → Text
  | .star => "*"
  | .list columns => columns.text

end Plain

open Plain

/-- A plain query. -/
structure PlainQuery where
  /-- What is selected. -/
  selection : Selection
  /-- The first table. -/
  table : Table
  /-- The other tables. -/
  joined : List JoinedTable
  /-- The filter. -/
  filter : Option Filter
  /-- The columns by which the rows are sorted. -/
  order : Option Columns
  /-- The greatest number of rows. -/
  limit : Option Numeral

namespace PlainQuery

/-- The tables of a query. -/
def source (query : PlainQuery) : Text :=
  query.table.text ++ query.joined.flatMap fun joined => ' ' :: joined.text

/-- The clauses of a query. -/
def sections (query : PlainQuery) : List Section :=
  [(.select, query.selection.text), (.source, query.source)] ++
    query.filter.toList.map (fun filter => (.filter, filter.text)) ++
    query.order.toList.map (fun order => (.order, order.text)) ++
    query.limit.toList.map (fun limit => (.limit, limit.text))

/-- The text of a query. -/
def text (query : PlainQuery) : Text :=
  sectionsText query.sections

example :
    let table : Name := ⟨'t', [], rfl, List.all_eq_true.mp rfl, by decide⟩
    let name : Name := ⟨'n', ['1'], rfl, List.all_eq_true.mp rfl, by decide⟩
    let content : LiteralText := ⟨"%x", List.all_eq_true.mp rfl, by decide⟩
    let predicate : Predicate := ⟨⟨none, name⟩, .like, .literal content⟩
    text ⟨.star, ⟨table, none⟩, [], some ⟨predicate, []⟩, none, none⟩ =
      "SELECT * FROM t WHERE n1 LIKE '%x'" := by
  decide

end PlainQuery
end SqlReview
