import SqlReview.Text.Basic
import SqlReview.Text.Printable

/-!
# Quoted texts

How a diagnostic shows a text: between single quotes, or between double quotes when it holds a
single quote and no double quote. The backslash and the quote in use are escaped, line breaks and
tabs have their letters, and every other character that is not printable is given by its number.
-/

namespace SqlReview
namespace Text

/-- The quote that a diagnostic puts around a text. -/
def quoteMark (text : Text) : Char :=
  if text.contains '\'' && !text.contains '"' then '"' else '\''

/-- How a diagnostic shows one character between given quotes. -/
def quoteChar (mark c : Char) : Text :=
  if c = mark || c = '\\' then ['\\', c]
  else if c = '\t' then "\\t"
  else if c = '\n' then "\\n"
  else if c = '\r' then "\\r"
  else if isPrintable c then [c]
  else if c.toNat < 0x100 then "\\x" ++ hexadecimal 2 c.toNat
  else if c.toNat < 0x10000 then "\\u" ++ hexadecimal 4 c.toNat
  else "\\U" ++ hexadecimal 8 c.toNat

/-- How a diagnostic shows a text. -/
def quoted (text : Text) : Text :=
  let mark := quoteMark text
  mark :: text.flatMap (quoteChar mark) ++ [mark]

end Text
end SqlReview
