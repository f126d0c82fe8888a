import SqlReview.Decimal.Notation
import SqlReview.Json.Basic

/-!
# Writing JSON

Documents are written in plain ASCII: every other character is escaped by its UTF-16 units. Items
and fields stand on lines of their own, two blanks further in than what holds them, and empty
arrays and objects on one line.
-/

namespace SqlReview
namespace Json

/-! ## Strings -/

/-- An escape by the number of a unit. -/
def unitEscape (unit : Nat) : Text :=
  '\\' :: 'u' :: Text.hexadecimal 4 unit

/-- How a character is written inside a string. -/
def writeChar (c : Char) : Text :=
  if c = '"' then ['\\', '"']
  else if c = '\\' then ['\\', '\\']
  else if c = '\n' then ['\\', 'n']
  else if c = '\r' then ['\\', 'r']
  else if c = '\t' then ['\\', 't']
  else if c = '\x08' then ['\\', 'b']
  else if c = '\x0C' then ['\\', 'f']
  else if 0x20 ≤ c.toNat && c.toNat < 0x7F then [c]
  else if c.toNat < 0x10000 then unitEscape c.toNat
  else
    unitEscape (0xD800 + (c.toNat - 0x10000) / 0x400) ++
      unitEscape (0xDC00 + (c.toNat - 0x10000) % 0x400)

/-- How a string is written. -/
def writeString (text : Text) : Text :=
  '"' :: text.flatMap writeChar ++ ['"']

/-! ## Values -/

/-- How a float is written. -/
def writeFloat (x : Float) : Text :=
  if x.isNaN then "NaN"
  else if x.isInf then (if x < 0 then "-Infinity" else "Infinity")
  else Decimal.floatText x

/-- A line break and the blanks in front of a line at a given depth. -/
def lineStart (depth : Nat) : Text :=
  '\n' :: List.replicate (2 * depth) ' '

mutual

/-- How a value is written at a given depth. -/
def write (depth : Nat) : Json → Text
  | .null => "null"
  | .bool value => if value then "true" else "false"
  | .int value => Text.ofInt value
  | .float value => writeFloat value
  | .string value => writeString value
  | .array [] => "[]"
  | .array (item :: items) =>
    '[' :: lineStart (depth + 1) ++ write (depth + 1) item ++ writeItems (depth + 1) items ++
      lineStart depth ++ [']']
  | .object [] => "\x7b\x7d"
  | .object ((name, value) :: fields) =>
    '\x7b' :: lineStart (depth + 1) ++ writeString name ++ ": " ++ write (depth + 1) value ++
      writeFields (depth + 1) fields ++ lineStart depth ++ ['\x7d']

/-- How the items behind the first are written. -/
def writeItems (depth : Nat) : List Json → Text
  | [] => []
  | item :: items => ',' :: lineStart depth ++ write depth item ++ writeItems depth items

/-- How the fields behind the first are written. -/
def writeFields (depth : Nat) : List (Text × Json) → Text
  | [] => []
  | (name, value) :: fields =>
    ',' :: lineStart depth ++ writeString name ++ ": " ++ write depth value ++
      writeFields depth fields

end

/-- The document of a value. -/
def render (value : Json) : Text :=
  write 0 value

end Json
end SqlReview
