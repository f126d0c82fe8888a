import SqlReview.Proofs.Plain.Grammar

/-!
# FROM clauses

The FROM clauses whose tables are read back: tables with their aliases, each but the first one behind
a comma or the keywords of a join, written with single blanks. Identifiers are ASCII and hold none of
the words that an extraction looks for.
-/

namespace SqlReview
namespace FromClause

open Query Plain

/-! ## Names -/

/-- Whether a character can stand in an identifier. -/
def isIdentifierChar (c : Char) : Bool :=
  isNameChar c || c = '$'

/-- An identifier. Words end at dollar signs when keywords are looked for, so it can have several. -/
structure Identifier where
  /-- Its first character. -/
  first : Char
  /-- What follows the first character. -/
  others : Text
  /-- It starts with a letter or an underscore. -/
  starts : startsPlainIdentifier first = true
  /-- It has letters, digits, underscores and dollar signs. -/
  continues : ∀ c ∈ others, isIdentifierChar c = true
  /-- It has no reserved word, case ignored. -/
  isFree : ∀ word ∈ Text.words (first :: others), word ∉ reservedWords

def Identifier.text (identifier : Identifier) : Text :=
  identifier.first :: identifier.others

/-- The identifier that has one character. -/
def Identifier.ofChar
    (c : Char)
    (starts : startsPlainIdentifier c = true)
    (isFree : ∀ word ∈ Text.words [c], word ∉ reservedWords) : Identifier :=
  ⟨c, [], starts, List.forall_mem_nil _, isFree⟩

/-- The name of a table or a column, perhaps with a qualifier. -/
structure QualifiedName where
  /-- The qualifier. -/
  qualifier : Option Identifier
  /-- The name itself. -/
  name : Identifier

def QualifiedName.text (name : QualifiedName) : Text :=
  match name.qualifier with
  | some qualifier => qualifier.text ++ '.' :: name.name.text
  | none => name.name.text

/-! ## Tables -/

/-- An alias, perhaps behind the word AS. -/
structure Alias where
  /-- Whether AS stands in front of it. -/
  usesAs : Bool
  /-- The alias itself. -/
  name : Identifier

def Alias.text (aliasName : Alias) : Text :=
  if aliasName.usesAs then " AS ".toList ++ aliasName.name.text else ' ' :: aliasName.name.text

/-- A table, perhaps with an alias. -/
structure Item where
  /-- The name of the table. -/
  table : QualifiedName
  /-- The alias. -/
  aliasName : Option Alias

/-- A table without a qualifier and without an alias. -/
def Item.plain (name : Identifier) : Item :=
  ⟨⟨none, name⟩, none⟩

def Item.text (item : Item) : Text :=
  item.table.text ++ item.aliasName.elim [] Alias.text

/-- The alias of a table together with the table, if it has one. -/
def Item.alias? (item : Item) : Option (Text × Text) :=
  item.aliasName.map fun aliasName => (aliasName.name.text, item.table.text)

/-! ## Joins -/

/-- The kinds of joins. -/
inductive JoinKind where
  | plain
  | inner
  | left
  | right
  | full
  | cross
  | natural
  | leftOuter
  | rightOuter
  | fullOuter
  deriving DecidableEq, Repr

def JoinKind.text : JoinKind → Text
  | .plain => "JOIN"
  | .inner => "INNER JOIN"
  | .left => "LEFT JOIN"
  | .right => "RIGHT JOIN"
  | .full => "FULL JOIN"
  | .cross => "CROSS JOIN"
  | .natural => "NATURAL JOIN"
  | .leftOuter => "LEFT OUTER JOIN"
  | .rightOuter => "RIGHT OUTER JOIN"
  | .fullOuter => "FULL OUTER JOIN"

/-- The condition of a join, which may be missing: two columns behind ON, or a column that both tables
have behind USING. -/
inductive Condition where
  | none
  | on (first second : QualifiedName)
  | shared (column : Identifier)

namespace Condition

def text : Condition → Text
  | .none => []
  | .on first second => " ON ".toList ++ (first.text ++ (" = ".toList ++ second.text))
  | .shared column => " USING (".toList ++ (column.text ++ ")".toList)

/-- Whether a condition stands behind ON. -/
def isOn : Condition → Bool
  | .on _ _ => true
  | .none | .shared _ => false

/-- Whether a condition stands behind USING. -/
def isShared : Condition → Bool
  | .shared _ => true
  | .none | .on _ _ => false

end Condition

/-- A table that is joined to what stands before it. -/
structure JoinedItem where
  /-- The kind of the join. -/
  kind : JoinKind
  /-- The table. -/
  item : Item
  /-- The condition. -/
  condition : Condition

def JoinedItem.text (joined : JoinedItem) : Text :=
  joined.kind.text ++ ' ' :: (joined.item.text ++ joined.condition.text)

/-- What follows the first table of a FROM clause: tables behind commas and joined tables. -/
inductive Continuation where
  | listed (spaced : Bool) (item : Item)
  | joined (next : JoinedItem)

def Continuation.text : Continuation → Text
  | .listed spaced item => comma spaced ++ item.text
  | .joined next => ' ' :: next.text

/-- A query that selects a column from the tables of a FROM clause. -/
def queryText (column : Identifier) (source : Text) : Text :=
  "SELECT ".toList ++ (column.text ++ (" FROM ".toList ++ source))

end FromClause
end SqlReview
