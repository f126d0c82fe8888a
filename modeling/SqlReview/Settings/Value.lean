import SqlReview.Decimal.Binary64
import SqlReview.Decimal.Numeral
import SqlReview.Failure

/-!
# Values of settings

Settings are written by people, so that a number may be written as a text and a table as a list of
pairs, whose names may be of any type. A value of the wrong type, a text that is no number and a
number that is too large are told apart.
-/

namespace SqlReview
namespace Settings

/-! ## Numbers -/

/-- The whole part of a float. -/
def wholePart (x : Float) : Except Fault Int :=
  match Decimal.Binary64.ofFloat? x with
  | some value => .ok value.wholePart
  | none => .error (if x.isNaN then .badValue else .tooLarge)

/-- The integer that a value stands for. -/
def toInt : Json → Except Fault Int
  | .int value => .ok value
  | .bool value => .ok (if value then 1 else 0)
  | .float value => wholePart value
  | .string numeral =>
    match Decimal.readInt? numeral with
    | some value => .ok value
    | none => .error .badValue
  | _ => .error .wrongType

/-- The float that a value stands for. -/
def toFloat : Json → Except Fault Float
  | .int value =>
    match Decimal.ofInt? value with
    | some x => .ok x
    | none => .error .tooLarge
  | .bool value => .ok (if value then 1 else 0)
  | .float value => .ok value
  | .string numeral =>
    match Decimal.readFloat? numeral with
    | some x => .ok x
    | none => .error .badValue
  | _ => .error .wrongType

/-! ## Tables -/

/-- Values under names. A name need not be a text. -/
abbrev Table := List (Json × Json)

/-- The whole number that a value is equal to. -/
def wholeNumber? : Json → Option Int
  | .bool value => some (if value then 1 else 0)
  | .int value => some value
  | .float x => if x.floor == x then (wholePart x).toOption else none
  | _ => none

/-- Whether two values are the same name. Numbers are the same if they are equal, and the truth
values are numbers. -/
def isSameName : Json → Json → Bool
  | .string a, .string b => a = b
  | .null, .null => true
  | .float x, .float y => x == y
  | a, b => (wholeNumber? a).isSome && wholeNumber? a = wholeNumber? b

/-- The table with a value under a name. A new name comes last; a name that is there stays as it
is. -/
def Table.put (name value : Json) : Table → Table
  | [] => [(name, value)]
  | entry :: others =>
    if isSameName entry.1 name then (entry.1, value) :: others else entry :: put name value others

/-- The values that a value consists of: the items of a list, the characters of a text or the names
of an object. -/
def parts : Json → Except Fault (List Json)
  | .array items => .ok items
  | .string text => .ok (text.map fun c => .string [c])
  | .object fields => .ok (fields.map fun field => .string field.1)
  | _ => .error .wrongType

/-- The entry that a value of two parts stands for. Lists and objects are no names. -/
def toEntry (pair : Json) : Except Fault (Json × Json) := do
  match ← parts pair with
  | [.array _, _] | [.object _, _] => .error .wrongType
  | [name, value] => pure (name, value)
  | _ => .error .badValue

/-- The table that a value stands for. Of several entries with one name the last counts. -/
def toTable : Json → Except Fault Table
  | .object fields => .ok (fields.map fun field => (.string field.1, field.2))
  | value => do
    (← parts value).foldlM
      (fun table pair => do
        let (name, entry) ← toEntry pair
        pure (table.put name entry)) []

end Settings
end SqlReview
