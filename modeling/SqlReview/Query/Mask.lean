import SqlReview.Text.Basic

/-!
# The top level of a query

`mask` blanks out everything that is nested: what stands inside parentheses and inside quoted
literals. The outermost parentheses and the quotes outside parentheses stay, and the length does
not change, so that offsets found in the masked text hold in the text itself. Parentheses that do
not match are tolerated; the depth never falls below zero.
-/

namespace SqlReview
namespace Query

/-- Where a place is nested: the number of open parentheses, and whether a literal is open. -/
structure Depth where
  /-- The number of open parentheses. -/
  level : Nat
  /-- Whether the place is inside a literal. -/
  inLiteral : Bool
  deriving DecidableEq, Repr

namespace Depth

/-- The start of a text. -/
def outermost : Depth :=
  ⟨0, false⟩

/-- Where the place behind a character is nested. -/
def step (depth : Depth) (c : Char) : Depth :=
  if c = '\'' then ⟨depth.level, !depth.inLiteral⟩
  else if depth.inLiteral then depth
  else if c = '(' then ⟨depth.level + 1, false⟩
  else if c = ')' then ⟨depth.level - 1, false⟩
  else depth

/-- Where the end of a text is nested. -/
def after (depth : Depth) (text : Text) : Depth :=
  text.foldl step depth

/-- Whether a character belongs to the top level. Quotes and parentheses do if one side of them
does. -/
def shows (depth : Depth) (c : Char) : Bool :=
  if c = '\'' then depth.level = 0
  else if depth.inLiteral then false
  else if c = ')' then depth.level ≤ 1
  else depth.level = 0

@[simp] theorem after_nil (depth : Depth) : depth.after [] = depth := rfl

@[simp] theorem after_cons (depth : Depth) (c : Char) (rest : Text) :
    depth.after (c :: rest) = (depth.step c).after rest := rfl

theorem after_append (depth : Depth) (first second : Text) :
    depth.after (first ++ second) = (depth.after first).after second :=
  List.foldl_append

end Depth

/-- The top level of a text that starts at a given depth. -/
def maskFrom (depth : Depth) : Text → Text
  | [] => []
  | c :: rest => (if depth.shows c then c else ' ') :: maskFrom (depth.step c) rest

/-- The top level of a text. -/
def mask (text : Text) : Text :=
  maskFrom .outermost text

@[simp] theorem maskFrom_nil (depth : Depth) : maskFrom depth [] = [] := rfl

@[simp] theorem maskFrom_cons (depth : Depth) (c : Char) (rest : Text) :
    maskFrom depth (c :: rest) =
      (if depth.shows c then c else ' ') :: maskFrom (depth.step c) rest := rfl

@[simp] theorem length_maskFrom (depth : Depth) (text : Text) :
    (maskFrom depth text).length = text.length := by
  induction text generalizing depth with
  | nil => rfl
  | cons c rest ih => simp [ih]

theorem maskFrom_append (depth : Depth) (first second : Text) :
    maskFrom depth (first ++ second) =
      maskFrom depth first ++ maskFrom (depth.after first) second := by
  induction first generalizing depth with
  | nil => rfl
  | cons c rest ih => simp [ih]

end Query
end SqlReview
