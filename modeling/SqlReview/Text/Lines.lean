import SqlReview.Text.Basic

/-!
# Lines

A text divided into lines. Every character that any script uses to end a line does so here, the
separators of files, groups and records included. A line end at the end of a text starts no further
line.
-/

namespace SqlReview
namespace Text

/-- Whether a character ends a line. -/
def endsLine (c : Char) : Bool :=
  let point := c.toNat
  (0x0A ≤ point && point ≤ 0x0D) || (0x1C ≤ point && point ≤ 0x1E) || point = 0x85 ||
    point = 0x2028 || point = 0x2029

/-- The lines of a text, without their ends. A carriage return and a line feed behind it end one
line together. -/
def lines : Text → List Text
  | [] => []
  | '\r' :: '\n' :: rest => [] :: lines rest
  | c :: rest =>
    if endsLine c then [] :: lines rest
    else
      match lines rest with
      | [] => [[c]]
      | line :: others => (c :: line) :: others

/-- The last line of a text, empty if the text is. -/
def lastLine (text : Text) : Text :=
  (lines text).getLast?.getD []

end Text
end SqlReview
