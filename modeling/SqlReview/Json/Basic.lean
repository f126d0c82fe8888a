import SqlReview.Text.Basic

/-!
# JSON values

Values of the data format in which settings, requests, replies and results are exchanged. Whole
numbers and floats are told apart, and the fields of an object keep the order in which they first
came.
-/

namespace SqlReview

/-- A JSON value. -/
inductive Json where
  /-- The absent value. -/
  | null
  /-- A truth value. -/
  | bool (value : Bool)
  /-- A whole number of any size. -/
  | int (value : Int)
  /-- A float, the infinite ones and not-a-number included. -/
  | float (value : Float)
  /-- A text. -/
  | string (value : Text)
  /-- A list of values. -/
  | array (items : List Json)
  /-- Values under names. -/
  | object (fields : List (Text × Json))

/-- The fields of an object. -/
abbrev Fields := List (Text × Json)

namespace Fields

/-- The names of fields. -/
def names (fields : Fields) : List Text :=
  fields.map Prod.fst

/-- The value under a name. -/
def get? (fields : Fields) (name : Text) : Option Json :=
  (fields.find? (·.1 = name)).map Prod.snd

/-- Fields with a value under a name. A new name comes last; a name that is there keeps its
place. -/
def put (name : Text) (value : Json) : Fields → Fields
  | [] => [(name, value)]
  | field :: others =>
    if field.1 = name then (name, value) :: others else field :: put name value others

@[simp] theorem put_nil (name : Text) (value : Json) : put name value [] = [(name, value)] := rfl

end Fields

namespace Json

/-- A text, or the absent value. -/
def ofText? : Option Text → Json
  | some text => .string text
  | none => .null

/-- A whole number that cannot be negative. -/
def nat (n : Nat) : Json :=
  .int n

/-- Whether the value is the absent one. -/
def isNull : Json → Bool
  | .null => true
  | _ => false

/-- Whether the value counts as not given: absent, false, zero or empty. -/
def isVacant : Json → Bool
  | .null | .bool false | .string [] | .array [] | .object [] => true
  | .int value => value = 0
  | .float value => value == 0
  | _ => false

mutual

/-- Whether all numbers in the value are finite, as the format itself requires. -/
def isFinite : Json → Bool
  | .float value => value.isFinite
  | .array items => areFinite items
  | .object fields => fieldsAreFinite fields
  | _ => true

/-- Whether all numbers in the items are finite. -/
def areFinite : List Json → Bool
  | [] => true
  | item :: items => isFinite item && areFinite items

/-- Whether all numbers in the fields are finite. -/
def fieldsAreFinite : List (Text × Json) → Bool
  | [] => true
  | (_, value) :: fields => isFinite value && fieldsAreFinite fields

end

/-- The text, if the value is one. -/
def text? : Json → Option Text
  | .string text => some text
  | _ => none

end Json
end SqlReview
