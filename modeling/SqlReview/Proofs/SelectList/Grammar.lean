import SqlReview.Proofs.FromClause.Grammar
import SqlReview.Proofs.Plain.Items

/-!
# Select lists

The select lists that are read back: columns, perhaps with aliases, stars, perhaps with a table in
front, and calls of aggregate functions, with commas and single blanks between them.
-/

namespace SqlReview
namespace SelectList

open Query Plain FromClause

/-! ## Items -/

/-- The name of an aggregate function in any letter case. -/
structure AggregateName where
  /-- The name. -/
  text : Text
  /-- Its characters are those of names. -/
  plain : ∀ c ∈ text, isNameChar c = true
  /-- It is one of the names, case ignored. -/
  isAggregate : text.map Text.foldLetter ∈ aggregateNames

/-- An item of a select list. -/
inductive Entry where
  /-- A column, perhaps with an alias. -/
  | column (item : Item)
  /-- All columns, perhaps of one table. -/
  | star (table : Option Identifier)
  /-- An aggregate of a column. -/
  | aggregate (function : AggregateName) (argument : QualifiedName)

namespace Entry

def text : Entry → Text
  | .column item => item.text
  | .star none => ['*']
  | .star (some table) => table.text ++ ['.', '*']
  | .aggregate function argument => function.text ++ '(' :: (argument.text ++ [')'])

/-- The column of an item. -/
def column? : Entry → Option Text
  | .column item => some item.table.text
  | .star _ | .aggregate _ _ => none

/-- Whether an item stands for all columns. -/
def isStar : Entry → Bool
  | .star _ => true
  | .column _ | .aggregate _ _ => false

/-- Whether an item calls an aggregate function. -/
def isAggregate : Entry → Bool
  | .aggregate _ _ => true
  | .column _ | .star _ => false

end Entry

/-! ## Lists -/

/-- A select list. -/
structure Entries where
  /-- The first item. -/
  first : Entry
  /-- The others. -/
  others : List Entry

namespace Entries

variable (entries : Entries)

def text : Text :=
  entries.first.text ++ listedText (entries.others.map fun entry => (true, entry.text))

/-- The items in order. -/
def toList : List Entry :=
  entries.first :: entries.others

/-- The columns in order. -/
def columns : List Text :=
  entries.toList.filterMap Entry.column?

end Entries

/-- A query that selects the items of a list from a table. -/
def queryText (entries : Entries) (table : Identifier) : Text :=
  "SELECT ".toList ++ (entries.text ++ (" FROM ".toList ++ table.text))

/-! ## Words in front of a list -/

/-- Whether a text starts with the letters of a word, case ignored. -/
def startsWith (word text : Text) : Bool :=
  (text.take word.length).map Text.foldLetter = word

/-- How much of a text is taken for a treatment of duplicates: the letters of DISTINCT or ALL at its
start, whatever follows them. -/
def prefixLength (text : Text) : Nat :=
  if startsWith "distinct" text then 8 else if startsWith "all" text then 3 else 0

namespace Entry

variable (entry : Entry) (cut : Nat)

/-- The column of an item whose first characters are cut off. -/
def columnFrom : Option Text :=
  (entry.column?.map (·.drop cut)).filter fun column =>
    column.head?.any startsPlainIdentifier && !isAmong sqlWords column

/-- Whether an item whose first characters are cut off stands for all columns. -/
def isStarFrom : Bool :=
  entry.isStar && (entry.text.drop cut).head?.any fun c => c = '*' || startsPlainIdentifier c

end Entry

end SelectList
end SqlReview
