import SqlReview.Pattern.Letter
import SqlReview.Pattern.Search

/-!
# Subqueries

One scan over a query resolves every parenthesis that encloses a SELECT. Each character gets a
mark: how it looks from outside all subqueries, and which subquery it belongs to, if any. A
character belongs to the innermost subquery around it, provided that no other parenthesis stands
between them, so no character belongs to two. The scan is one pass however deep the nesting.
-/

namespace SqlReview
namespace Query

/-! ## The state of the scan -/

/-- Where a place stands among the parentheses of a query. -/
structure Nest where
  /-- The open parentheses, innermost first, with the number of the subquery if there is one. -/
  stack : List (Option Nat)
  /-- The number of subqueries met so far. -/
  opened : Nat
  /-- The number of subqueries around the place. -/
  around : Nat
  /-- Whether the place is inside a literal. -/
  inLiteral : Bool
  deriving DecidableEq, Repr

namespace Nest

/-- The start of a query. -/
def outermost : Nest :=
  ⟨[], 0, 0, false⟩

/-- The subquery that the innermost open parenthesis encloses. -/
def owner (nest : Nest) : Option Nat :=
  nest.stack.head?.join

/-- A parenthesis opened, which encloses a subquery or not. -/
def push (nest : Nest) (isSubquery : Bool) : Nest :=
  if isSubquery then
    ⟨some nest.opened :: nest.stack, nest.opened + 1, nest.around + 1, nest.inLiteral⟩
  else
    ⟨none :: nest.stack, nest.opened, nest.around, nest.inLiteral⟩

/-- The innermost parenthesis closed, if one is open. -/
def pop (nest : Nest) : Nest :=
  match nest.stack with
  | [] => nest
  | none :: stack => ⟨stack, nest.opened, nest.around, nest.inLiteral⟩
  | some _ :: stack => ⟨stack, nest.opened, nest.around - 1, nest.inLiteral⟩

/-- The place behind a character. `isSubquery` tells whether an opening parenthesis there would
enclose a subquery. -/
def step (nest : Nest) (isSubquery : Bool) (c : Char) : Nest :=
  if c = '\'' then ⟨nest.stack, nest.opened, nest.around, !nest.inLiteral⟩
  else if nest.inLiteral then nest
  else if c = '(' then nest.push isSubquery
  else if c = ')' then nest.pop
  else nest

end Nest

/-! ## Marks -/

/-- What the scan says about one character. -/
structure Mark where
  /-- The character itself. -/
  char : Char
  /-- How it looks from outside all subqueries. -/
  outside : Char
  /-- How it looks in its subquery when the contents of literals are blanked out. -/
  masked : Char
  /-- The subquery it belongs to. -/
  owner : Option Nat
  deriving DecidableEq, Repr

/-- The mark of a character. A closing parenthesis belongs to what is outside of it. -/
def Nest.mark (nest : Nest) (c : Char) : Mark :=
  let seen := if c = ')' && !nest.inLiteral then nest.pop else nest
  { char := c
    outside := if 0 < seen.around then ' ' else c
    masked := if nest.inLiteral && c ≠ '\'' then ' ' else c
    owner := seen.owner }

/-- The word SELECT behind an opening parenthesis. -/
def subqueryHead : Pattern :=
  .all [.char '(', .blanks, .letters "select", .edge]

/-- Whether a text starts with a parenthesis that encloses a subquery. -/
def startsSubquery (text : Text) : Bool :=
  subqueryHead.fitsStart text

/-- The marks of the characters of a text. -/
def marksFrom (nest : Nest) : Text → List Mark
  | [] => []
  | c :: rest =>
    nest.mark c :: marksFrom (nest.step (c = '(' && startsSubquery (c :: rest)) c) rest

/-- The marks of the characters of a query. -/
def marks (text : Text) : List Mark :=
  marksFrom .outermost text

/-- The number of subqueries that a text opens. -/
def countFrom (nest : Nest) : Text → Nat
  | [] => nest.opened
  | c :: rest => countFrom (nest.step (c = '(' && startsSubquery (c :: rest)) c) rest

/-- The number of subqueries of a query. -/
def subqueryCount (text : Text) : Nat :=
  countFrom .outermost text

/-! ## Views -/

/-- A query with the bodies of its subqueries blanked out. -/
def outsideView (text : Text) : Text :=
  (marks text).map (·.outside)

/-- A subquery without what is nested in it: its text, and its text with the contents of literals
blanked out. -/
structure Scope where
  /-- The characters of the subquery itself. -/
  text : Text
  /-- The same with the contents of literals blanked out. -/
  masked : Text
  deriving DecidableEq, Repr

/-- The subquery of a given number. -/
def scope (marks : List Mark) (number : Nat) : Scope :=
  let own := marks.filter (·.owner = some number)
  ⟨own.map (·.char), own.map (·.masked)⟩

/-- The subqueries of a query in the order in which they open. -/
def scopes (text : Text) : List Scope :=
  (List.range (subqueryCount text)).map (scope (marks text))

@[simp] theorem length_marksFrom (nest : Nest) (text : Text) :
    (marksFrom nest text).length = text.length := by
  induction text generalizing nest with
  | nil => rfl
  | cons c rest ih => simp [marksFrom, ih]

end Query
end SqlReview
