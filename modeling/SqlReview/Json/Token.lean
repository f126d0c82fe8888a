import SqlReview.Decimal.Numeral
import SqlReview.Json.Basic

/-!
# JSON tokens

The marks, scalars and strings that a JSON text consists of, white space between them aside.
Besides the numbers of the format, the words for not-a-number and for the infinite values are
accepted.
-/

namespace SqlReview
namespace Json

/-- Why a text is no JSON document. -/
inductive Fault where
  /-- The text does not have the form of a document. -/
  | malformed
  /-- A whole number has too many digits. -/
  | numberTooLong
  /-- Arrays and objects are nested too deeply. -/
  | tooDeep
  deriving DecidableEq, Repr

/-- A token of a JSON text. -/
inductive Token where
  /-- The start of an array. -/
  | openArray
  /-- The end of an array. -/
  | closeArray
  /-- The start of an object. -/
  | openObject
  /-- The end of an object. -/
  | closeObject
  /-- The mark between items or fields. -/
  | comma
  /-- The mark between the name and the value of a field. -/
  | colon
  /-- A value without parts that is no string. -/
  | scalar (value : Json)
  /-- A string. -/
  | string (value : Text)

/-! ## Strings -/

/-- The value of a hexadecimal digit. -/
def hexValue? (c : Char) : Option Nat :=
  if '0' ≤ c && c ≤ '9' then some (c.toNat - 0x30)
  else if 'a' ≤ c && c ≤ 'f' then some (c.toNat - 0x61 + 10)
  else if 'A' ≤ c && c ≤ 'F' then some (c.toNat - 0x41 + 10)
  else none

/-- The value of four hexadecimal digits. -/
def hexUnit? (a b c d : Char) : Option Nat := do
  some (((← hexValue? a) * 16 + (← hexValue? b)) * 256 + ((← hexValue? c) * 16 + (← hexValue? d)))

/-- The character that a one-letter escape stands for. -/
def escapedChar? (c : Char) : Option Char :=
  if c = '"' || c = '\\' || c = '/' then some c
  else if c = 'b' then some '\x08'
  else if c = 'f' then some '\x0C'
  else if c = 'n' then some '\n'
  else if c = 'r' then some '\r'
  else if c = 't' then some '\t'
  else none

/-- The units of a string up to its closing quote, and what follows it. A unit is a code point, or
half of one where a code point is escaped in two halves. `read` holds the units read, the latest
first. -/
def stringUnits (read : List Nat) : Text → Option (List Nat × Text)
  | [] => none
  | '"' :: rest => some (read.reverse, rest)
  | '\\' :: 'u' :: a :: b :: c :: d :: rest =>
    match hexUnit? a b c d with
    | some unit => stringUnits (unit :: read) rest
    | none => none
  | '\\' :: c :: rest =>
    match escapedChar? c with
    | some char => stringUnits (char.toNat :: read) rest
    | none => none
  | c :: rest => if c.toNat < 0x20 || c = '\\' then none else stringUnits (c.toNat :: read) rest

/-- Whether a unit is the first half of a code point. -/
def isHighHalf (unit : Nat) : Bool :=
  0xD800 ≤ unit && unit ≤ 0xDBFF

/-- Whether a unit is the second half of a code point. -/
def isLowHalf (unit : Nat) : Bool :=
  0xDC00 ≤ unit && unit ≤ 0xDFFF

/-- The character of a unit, or what stands for a half. -/
def unitChar? (standIn : Nat → Option Char) (unit : Nat) : Option Char :=
  if isHighHalf unit || isLowHalf unit then standIn unit else some (Char.ofNat unit)

/-- The characters of units, if there is one to stand for each half that stands alone. -/
def joinHalves (standIn : Nat → Option Char) : List Nat → Option Text
  | [] => some []
  | [unit] => (unitChar? standIn unit).map fun c => [c]
  | unit :: next :: rest =>
    if isHighHalf unit && isLowHalf next then
      (joinHalves standIn rest).map
        (Char.ofNat (0x10000 + (unit - 0xD800) * 0x400 + (next - 0xDC00)) :: ·)
    else do
      let c ← unitChar? standIn unit
      (joinHalves standIn (next :: rest)).map (c :: ·)

/-- The string behind an opening quote, and what follows it. -/
def readString (standIn : Nat → Option Char) (text : Text) : Option (Text × Text) := do
  let (units, rest) ← stringUnits [] text
  (joinHalves standIn units).map fun value => (value, rest)

/-! ## Halves that stand alone -/

/-- The code points that a text holds or escapes. -/
def codePoints : Text → List Nat
  | [] => []
  | c :: rest =>
    match c, rest with
    | '\\', 'u' :: first :: second :: third :: fourth :: _ =>
      (hexUnit? first second third fourth).toList ++ c.toNat :: codePoints rest
    | _, _ => c.toNat :: codePoints rest

/-- Whether a character is for private use. -/
def isPrivate (c : Char) : Bool :=
  0xE000 ≤ c.toNat && c.toNat ≤ 0xF8FF

/-- Whether a character is for private use and a text neither holds nor escapes it. -/
def isSpare (text : Text) (c : Char) : Bool :=
  isPrivate c && !(codePoints text).contains c.toNat

/-- The spare character behind `skipped` others, among as many code points as `points` says from
`point` on. -/
def spareBehind? (text : Text) : (points point skipped : Nat) → Option Char
  | 0, _, _ => none
  | points + 1, point, skipped =>
    if isSpare text (Char.ofNat point) then
      match skipped with
      | 0 => some (Char.ofNat point)
      | skipped + 1 => spareBehind? text points (point + 1) skipped
    else spareBehind? text points (point + 1) skipped

/-- What stands for a half in the strings of a text. A half is no character. To a program that asks
for letters, digits, blanks and marks it is like a character for private use, so one that comes
nowhere else in the text takes its place. -/
def standIn? (text : Text) (half : Nat) : Option Char :=
  spareBehind? text 0x1900 0xE000 (half - 0xD800)

/-! ## Numbers -/

/-- The digits at the start of a text, at least one, and what follows them. -/
def someDigits (text : Text) : Option (Text × Text) :=
  let digits := text.takeWhile Char.isDigit
  if digits.isEmpty then none else some (digits, text.drop digits.length)

/-- The digits of a whole number: a single zero, or digits that do not start with one. -/
def wholeDigits (text : Text) : Option (Text × Text) :=
  match text with
  | '0' :: rest => some (['0'], rest)
  | _ => someDigits text

/-- The digits behind a point, if there are any, and what follows them. -/
def fractionDigits (text : Text) : Text × Text :=
  match text with
  | '.' :: rest => (someDigits rest).getD ([], text)
  | _ => ([], text)

/-- The exponent behind a letter e, if there is one, and what follows it. -/
def exponentPart (text : Text) : Option Int × Text :=
  match text with
  | c :: rest =>
    if c = 'e' || c = 'E' then
      let (negative, magnitude) := Decimal.splitSign rest
      match someDigits magnitude with
      | some (digits, rest) =>
        let value : Int := Decimal.digitsValue digits
        (some (if negative then -value else value), rest)
      | none => (none, text)
    else (none, text)
  | [] => (none, text)

/-- A number, and what follows it. A fraction or an exponent makes it a float. -/
def readNumber (text : Text) : Except Fault (Json × Text) :=
  let negative := text.head? = some '-'
  match wholeDigits (if negative then text.drop 1 else text) with
  | none => .error .malformed
  | some (whole, rest) =>
    let (fraction, rest) := fractionDigits rest
    let (exponent, rest) := exponentPart rest
    if fraction.isEmpty && exponent.isNone then
      let value : Int := Decimal.digitsValue whole
      if Decimal.digitLimit < whole.length then .error .numberTooLong
      else .ok (.int (if negative then -value else value), rest)
    else
      .ok (.float (Decimal.signedFloat negative (Decimal.digitsValue (whole ++ fraction))
        (exponent.getD 0 - fraction.length)), rest)

/-! ## Tokens -/

/-- The words that stand for values. -/
def words : List (Text × Json) :=
  [("null", .null), ("true", .bool true), ("false", .bool false),
    ("NaN", .float (0.0 / 0.0)), ("Infinity", .float (1.0 / 0.0)),
    ("-Infinity", .float (-1.0 / 0.0))]

/-- A word at the start of a text, as its value, and what follows it. -/
def readWord? (text : Text) : Option (Json × Text) :=
  words.findSome? fun word => (Text.after? word.1 text).map fun rest => (word.2, rest)

/-- The token at the start of a text that starts with a given character, and what follows it. -/
def readToken (standIn : Nat → Option Char) (c : Char) (rest : Text) : Except Fault (Token × Text) :=
  if c = '[' then .ok (.openArray, rest)
  else if c = ']' then .ok (.closeArray, rest)
  else if c = '\x7b' then .ok (.openObject, rest)
  else if c = '\x7d' then .ok (.closeObject, rest)
  else if c = ',' then .ok (.comma, rest)
  else if c = ':' then .ok (.colon, rest)
  else if c = '"' then
    match readString standIn rest with
    | some (value, rest) => .ok (.string value, rest)
    | none => .error .malformed
  else
    match readWord? (c :: rest) with
    | some (value, rest) => .ok (.scalar value, rest)
    | none => (readNumber (c :: rest)).map fun (value, rest) => (.scalar value, rest)

/-- Whether a character may stand between tokens. -/
def isSpace (c : Char) : Bool :=
  c = ' ' || c = '\t' || c = '\n' || c = '\r'

end Json
end SqlReview
