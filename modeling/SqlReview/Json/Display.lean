import SqlReview.Decimal.Notation
import SqlReview.Json.Basic
import SqlReview.Text.Quoted

/-!
# Values in diagnostics

How a diagnostic shows a value: texts quoted, the absent value and truth values by capitalised
words, lists and objects in one line.
-/

namespace SqlReview
namespace Json

mutual

/-- How a diagnostic shows a value. -/
def display : Json → Text
  | .null => "None"
  | .bool value => if value then "True" else "False"
  | .int value => Text.ofInt value
  | .float value => Decimal.floatText value
  | .string value => Text.quoted value
  | .array [] => "[]"
  | .array (item :: items) => '[' :: display item ++ displayItems items ++ [']']
  | .object [] => "\x7b\x7d"
  | .object ((name, value) :: fields) =>
    '\x7b' :: Text.quoted name ++ ": ".toList ++ display value ++ displayFields fields ++ ['\x7d']

/-- How the items behind the first are shown. -/
def displayItems : List Json → Text
  | [] => []
  | item :: items => ", ".toList ++ display item ++ displayItems items

/-- How the fields behind the first are shown. -/
def displayFields : List (Text × Json) → Text
  | [] => []
  | (name, value) :: fields =>
    ", ".toList ++ Text.quoted name ++ ": ".toList ++ display value ++ displayFields fields

end

/-- A value as plain text: a text as it is, and any other value as a diagnostic shows it. -/
def plainText : Json → Text
  | .string value => value
  | value => display value

end Json
end SqlReview
