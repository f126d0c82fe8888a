import SqlReview.Pattern.Basic
import SqlReview.Text.Blank

/-!
# Words and letters in patterns

Keywords are recognised in any mixture of cases. A letter is compared by its folded form, under
which capital letters, the two Turkish letters i, the long s and the Kelvin sign stand for the
plain small letters.
-/

namespace SqlReview
namespace Text

/-- The plain small letter that a character stands for when case is ignored, or the character
itself. -/
def foldLetter (c : Char) : Char :=
  if 'A' ≤ c && c ≤ 'Z' then Char.ofNat (c.toNat + 32)
  else if c = '\u0130' || c = '\u0131' then 'i'
  else if c = '\u017F' then 's'
  else if c = '\u212A' then 'k'
  else c

/-- Whether a character can start an identifier, case ignored. -/
def startsIdentifier (c : Char) : Bool :=
  let folded := foldLetter c
  ('a' ≤ folded && folded ≤ 'z') || folded = '_'

/-- Whether a character can continue an identifier. -/
def continuesIdentifier (c : Char) : Bool :=
  isWord c || c = '$'

end Text

namespace Pattern

/-- A small letter or any character that stands for it. -/
def letter (c : Char) : Pattern :=
  .one fun found => Text.foldLetter found = c

/-- The letters of a word in any mixture of cases. Characters that are no letters stand for
themselves. -/
def letters (word : Text) : Pattern :=
  all (word.map letter)

/-- A word in any mixture of cases between two word edges. -/
def word (word : Text) : Pattern :=
  all [.edge, letters word, .edge]

/-- White space, perhaps none. -/
def blanks : Pattern :=
  .many Text.isBlank

/-- White space, at least one character. -/
def someBlanks : Pattern :=
  oneOrMore Text.isBlank

/-- A plain identifier. -/
def identifier : Pattern :=
  .seq (.one Text.startsIdentifier) (.many Text.continuesIdentifier)

end Pattern
end SqlReview
