import SqlReview.Text.Blank

/-!
# Lists in clauses

The items of a comma-separated list, given its top level: the stretches between the commas without
the white space around them. Empty items do not count.
-/

namespace SqlReview
namespace Query

/-- The offsets of an item in a list. -/
structure Span where
  /-- Where the item starts. -/
  start : Nat
  /-- Where the item ends. -/
  stop : Nat
  deriving DecidableEq, Repr

namespace Span

/-- The item in a text of the length it was found in. -/
def of (text : Text) (span : Span) : Text :=
  Text.slice text span.start span.stop

end Span

/-- The offsets of what a piece holds apart from the white space around it. -/
def pieceSpan? (offset : Nat) (piece : Text) : Option Span :=
  let lead := (piece.takeWhile Text.isBlank).length
  let item := Text.trim piece
  if item.isEmpty then none else some ⟨offset + lead, offset + lead + item.length⟩

/-- The offsets of the items in pieces that follow one another with a comma between neighbours. -/
def spansFrom (offset : Nat) : List Text → List Span
  | [] => []
  | piece :: pieces =>
    (pieceSpan? offset piece).toList ++ spansFrom (offset + piece.length + 1) pieces

/-- The offsets of the items of a list, given its top level. -/
def spans (masked : Text) : List Span :=
  spansFrom 0 (Text.splitAt ',' masked)

/-- The items of a list, given its text and its top level. -/
def items (text masked : Text) : List Text :=
  (spans masked).map (Span.of text)

end Query
end SqlReview
