import SqlReview.Proofs.FromClause.Recording
import SqlReview.Query.Condition

/-!
# WHERE clauses

The conditions whose columns are read back: comparisons of columns, bare or under a function, with
numbers and literals, connected by AND and OR and written with single blanks. Literals can hold any
words, also those that an extraction looks for.
-/

namespace SqlReview
namespace WhereClause

open Query Plain FromClause

/-! ## Comparisons -/

/-- What a literal holds. -/
structure LiteralText where
  /-- The characters between the quotes. -/
  text : Text
  /-- They are letters, digits and wildcards. -/
  plain : ∀ c ∈ text, isLiteralChar c = true

/-- What a column is compared with. -/
inductive Value where
  | number (numeral : Numeral)
  | literal (content : LiteralText)

namespace Value

def text : Value → Text
  | .number numeral => numeral.text
  | .literal content => '\'' :: (content.text ++ ['\''])

/-- Whether a value is a literal that starts with a wildcard. -/
def startsWildcard : Value → Bool
  | .number _ => false
  | .literal content => content.text.head? = some '%'

end Value

/-- The operators. -/
inductive Comparator where
  | eq
  | ne
  | otherThan
  | lt
  | gt
  | le
  | ge
  | like
  | notLike
  | ilike
  | notIlike
  deriving DecidableEq, Repr

namespace Comparator

def text : Comparator → Text
  | .eq => "="
  | .ne => "<>"
  | .otherThan => "!="
  | .lt => "<"
  | .gt => ">"
  | .le => "<="
  | .ge => ">="
  | .like => "LIKE"
  | .notLike => "NOT LIKE"
  | .ilike => "ILIKE"
  | .notIlike => "NOT ILIKE"

/-- Whether an operator matches a pattern. -/
def isMatch : Comparator → Bool
  | .like | .notLike | .ilike | .notIlike => true
  | .eq | .ne | .otherThan | .lt | .gt | .le | .ge => false

end Comparator

/-- A comparison of a column, perhaps under a function, with a value. -/
structure Predicate where
  /-- The function. -/
  function : Option Identifier
  /-- The column. -/
  column : QualifiedName
  /-- The operator. -/
  comparator : Comparator
  /-- The value. -/
  value : Value

namespace Predicate

/-- What stands in front of the column. -/
def lead (predicate : Predicate) : Text :=
  predicate.function.elim [] fun function => function.text ++ ['(']

/-- What stands in front of the operator. -/
def operand (predicate : Predicate) : Text :=
  match predicate.function with
  | some function => function.text ++ '(' :: (predicate.column.text ++ [')'])
  | none => predicate.column.text

def text (predicate : Predicate) : Text :=
  predicate.operand ++ ' ' :: (predicate.comparator.text ++ ' ' :: predicate.value.text)

/-- Whether a column is matched against a literal that starts with a wildcard. -/
def hasWildcard (predicate : Predicate) : Bool :=
  predicate.comparator.isMatch && predicate.value.startsWildcard

end Predicate

/-! ## Conditions -/

/-- Further predicates, each with what connects it to the one before. -/
abbrev Further := List (Connective × Predicate)

/-- The text of further predicates. -/
def furtherText (others : Further) : Text :=
  others.flatMap fun other => ' ' :: (other.1.text ++ ' ' :: other.2.text)

/-- A condition. -/
structure Filter where
  /-- The first predicate. -/
  first : Predicate
  /-- The others. -/
  others : Further

namespace Filter

variable (filter : Filter)

def text : Text :=
  filter.first.text ++ furtherText filter.others

/-- The predicates in order. -/
def predicates : List Predicate :=
  filter.first :: filter.others.map Prod.snd

/-- Whether some predicates are alternatives. -/
def hasOr : Bool :=
  filter.others.any (·.1 = .or)

/-- A column of a condition by its name, with what some of the predicates on it do. -/
def columnNamed (name : Text) : WhereColumn :=
  { name := name
    isWrapped := filter.predicates.any fun predicate =>
      sameName name predicate.column.text && predicate.function.isSome
    hasLeadingWildcard := filter.predicates.any fun predicate =>
      sameName name predicate.column.text && predicate.hasWildcard }

/-- The columns of a condition in the order of appearance, each once, case ignored. -/
def columns : List WhereColumn :=
  (distinctNames (filter.predicates.map (·.column.text))).map filter.columnNamed

end Filter

/-- A query that selects a column from a table under a condition. -/
def queryText (column table : Identifier) (filter : Filter) : Text :=
  "SELECT ".toList ++ (column.text ++ (" FROM ".toList ++ (table.text ++
    (" WHERE ".toList ++ filter.text))))

end WhereClause
end SqlReview
