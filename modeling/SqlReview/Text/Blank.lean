import SqlReview.Text.Basic

/-!
# White space

The blank characters of every script, line breaks and the four information separators included.
The zero-width space and the byte-order mark are not blank.
-/

namespace SqlReview
namespace Text

/-- Whether a character is white space. -/
def isBlank (c : Char) : Bool :=
  let point := c.toNat
  (0x09 ≤ point && point ≤ 0x0D) || (0x1C ≤ point && point ≤ 0x20) || point = 0x85 ||
    point = 0xA0 || point = 0x1680 || (0x2000 ≤ point && point ≤ 0x200A) ||
    point = 0x2028 || point = 0x2029 || point = 0x202F || point = 0x205F || point = 0x3000

/-- A text without the white space at its ends. -/
def trim (text : Text) : Text :=
  trimWhere isBlank text

/-- Whether a text consists of white space only, as the empty text does. -/
def isAllBlank (text : Text) : Bool :=
  text.all isBlank

/-- Every maximal run of white space replaced by one plain blank. The flag tells whether the
character before was white space. -/
def collapseFrom (afterBlank : Bool) : Text → Text
  | [] => []
  | c :: rest =>
    if isBlank c then
      if afterBlank then collapseFrom true rest else ' ' :: collapseFrom true rest
    else
      c :: collapseFrom false rest

/-- Every maximal run of white space replaced by one plain blank. -/
def collapse (text : Text) : Text :=
  collapseFrom false text

end Text
end SqlReview
