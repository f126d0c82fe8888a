import SqlReview.Json.Token

/-!
# Reading JSON

A document is read token by token. The arrays and objects around the place that has been reached
are kept on a stack, innermost first, so that every token takes reading one step further. What is
wrong first is what is reported. Of several fields with one name the last value counts.
-/

namespace SqlReview
namespace Json

/-- An array or object of which a part has been read and a value is awaited. -/
inductive Frame where
  /-- An array with its items so far, the latest first. -/
  | items (before : List Json)
  /-- An object with its fields so far, the latest first, and the name of the awaited value. -/
  | field (before : Fields) (name : Text)

/-- How far reading has come, inside the frames of a stack. -/
inductive Reading where
  /-- A value must come. -/
  | awaiting (stack : List Frame)
  /-- A value or the end of an array must come. -/
  | firstItem (stack : List Frame)
  /-- The name of a field or, if `mayEnd`, the end of the object must come. -/
  | fieldName (mayEnd : Bool) (before : Fields) (stack : List Frame)
  /-- The colon behind the name of a field must come. -/
  | fieldColon (before : Fields) (name : Text) (stack : List Frame)
  /-- A value is complete. -/
  | complete (value : Json) (stack : List Frame)

/-- How far a reader follows a text. -/
structure Tolerance where
  /-- How many arrays and objects may be nested, if there is a limit. -/
  depthLimit : Option Nat
  /-- The character that stands for an escaped half of a code point that stands alone, if there is
  one. -/
  standIn : Nat → Option Char

/-- Whether one more array or object may stand inside a number of them. -/
def Tolerance.allows (tolerance : Tolerance) (depth : Nat) : Bool :=
  tolerance.depthLimit.all (depth < ·)

namespace Reading

/-- Whether a value may come next. -/
def awaitsValue : Reading → Bool
  | .awaiting _ | .firstItem _ => true
  | _ => false

/-- A token that starts a value inside the frames of a stack. -/
def start (tolerance : Tolerance) (stack : List Frame) : Token → Except Fault Reading
  | .scalar value => .ok (.complete value stack)
  | .string value => .ok (.complete (.string value) stack)
  | .openArray => if tolerance.allows stack.length then .ok (.firstItem stack) else .error .tooDeep
  | .openObject =>
    if tolerance.allows stack.length then .ok (.fieldName true [] stack) else .error .tooDeep
  | _ => .error .malformed

/-- What one more token makes of a complete value inside the frames of a stack. -/
def continueFrom (value : Json) : List Frame → Token → Except Fault Reading
  | .items before :: stack, .comma => .ok (.awaiting (.items (value :: before) :: stack))
  | .items before :: stack, .closeArray => .ok (.complete (.array (value :: before).reverse) stack)
  | .field before name :: stack, .comma => .ok (.fieldName false ((name, value) :: before) stack)
  | .field before name :: stack, .closeObject =>
    .ok (.complete (.object ((name, value) :: before).reverse) stack)
  | _, _ => .error .malformed

/-- How far reading has come after one more token. -/
def step (tolerance : Tolerance) : Reading → Token → Except Fault Reading
  | .awaiting stack, token => start tolerance stack token
  | .firstItem stack, .closeArray => .ok (.complete (.array []) stack)
  | .firstItem stack, token => start tolerance (.items [] :: stack) token
  | .fieldName mayEnd before stack, .closeObject =>
    if mayEnd then .ok (.complete (.object before.reverse) stack) else .error .malformed
  | .fieldName _ before stack, .string name => .ok (.fieldColon before name stack)
  | .fieldName _ _ _, _ => .error .malformed
  | .fieldColon before name stack, .colon => .ok (.awaiting (.field before name :: stack))
  | .fieldColon _ _ _, _ => .error .malformed
  | .complete value stack, token => continueFrom value stack token

/-- How far reading has come after more tokens. -/
def run (tolerance : Tolerance) (reading : Reading) (tokens : List Token) : Except Fault Reading :=
  tokens.foldlM (step tolerance) reading

/-- What has been read when the text ends. -/
def finish : Reading → Except Fault Json
  | .complete value [] => .ok value
  | _ => .error .malformed

end Reading

/-! ## Texts -/

/-- The value that a text spells, with the fields of objects as they come. A fault of a token only
counts where a value may come, since anything else is refused by its first character. Every step
takes a character, so as many steps as the text is long are enough. -/
def readWithin (tolerance : Tolerance) : (steps : Nat) → Reading → Text → Except Fault Json
  | _, reading, [] => reading.finish
  | 0, _, _ :: _ => .error .malformed
  | steps + 1, reading, c :: rest =>
    if isSpace c then readWithin tolerance steps reading rest
    else
      match readToken tolerance.standIn c rest with
      | .error fault => .error (if reading.awaitsValue then fault else .malformed)
      | .ok (token, rest) =>
        match reading.step tolerance token with
        | .error fault => .error fault
        | .ok reading => readWithin tolerance steps reading rest

/-- The value that a text spells, with the fields of objects as they come. -/
def read (tolerance : Tolerance) (text : Text) : Except Fault Json :=
  readWithin tolerance text.length (.awaiting []) text

mutual

/-- The value in whose objects each name comes once, with the last of its values. -/
def settled : Json → Json
  | .array items => .array (settledItems items)
  | .object fields => .object (settledFields [] fields)
  | value => value

/-- The items, each of them settled. -/
def settledItems : List Json → List Json
  | [] => []
  | item :: items => settled item :: settledItems items

/-- The fields behind others, each of them settled. -/
def settledFields (before : Fields) : List (Text × Json) → Fields
  | [] => before
  | (name, value) :: fields => settledFields (Fields.put name (settled value) before) fields

end

/-- The document that a text is. -/
def parse (tolerance : Tolerance) (text : Text) : Except Fault Json :=
  (read tolerance text).map settled

/-- The tolerance of the format itself: no half of a code point stands alone. -/
def strict (depthLimit : Option Nat) : Tolerance :=
  ⟨depthLimit, fun _ => none⟩

/-- The tolerance for documents written by people: any escapes. -/
def lenient (depthLimit : Option Nat) (text : Text) : Tolerance :=
  ⟨depthLimit, standIn? text⟩

end Json
end SqlReview
