import SqlReview.Text.Blank
import SqlReview.Text.Case
import SqlReview.Text.Digit

/-!
# Reading numbers

The numbers that a setting or a document may hold, read exactly: a decimal is a whole number
times a power of ten, and becomes the nearest float. Numerals written by people may use the
digits of any script, single underscores between digits, and blanks around the whole.
-/

namespace SqlReview
namespace Decimal

/-! ## Decimals as floats -/

/-- The float nearest to `digits * 10 ^ exponent`. Powers far outside the range of floats are
infinite or zero without being computed. -/
def nearestFloat (digits : Nat) (exponent : Int) : Float :=
  let magnitude := exponent + (Text.ofNat digits).length
  if digits = 0 then 0.0
  else if 310 < magnitude then 1.0 / 0.0
  else if magnitude < -330 then 0.0
  else Float.ofScientific digits (exponent < 0) exponent.natAbs

/-- The float nearest to a signed decimal. -/
def signedFloat (negative : Bool) (digits : Nat) (exponent : Int) : Float :=
  if negative then -(nearestFloat digits exponent) else nearestFloat digits exponent

/-- The float nearest to an integer, or `none` if the integer is beyond the largest float. -/
def ofInt? (n : Int) : Option Float :=
  let x := signedFloat (n < 0) n.natAbs 0
  if x.isInf then none else some x

/-! ## Numerals -/

/-- A numeral with the digits of every script replaced by the plain ones and every kind of white
space by a plain blank, then without blanks at its ends. -/
def plain (numeral : Text) : Text :=
  Text.trim (numeral.map fun c =>
    match Text.decimalValue? c with
    | some value => Char.ofNat (0x30 + value)
    | none => if Text.isBlank c then ' ' else c)

/-- Digits with single underscores between them, without the underscores. `afterDigit` tells
whether a digit has just been read. -/
def dropUnderscoresFrom (afterDigit : Bool) : Text → Option Text
  | [] => some []
  | '_' :: c :: rest =>
    if afterDigit && '0' ≤ c && c ≤ '9' then (dropUnderscoresFrom true rest).map (c :: ·) else none
  | ['_'] => none
  | c :: rest => (dropUnderscoresFrom ('0' ≤ c && c ≤ '9') rest).map (c :: ·)

/-- A sign at the start of a numeral, and the rest. -/
def splitSign : Text → Bool × Text
  | '-' :: rest => (true, rest)
  | '+' :: rest => (false, rest)
  | rest => (false, rest)

/-- The number that plain digits write. -/
def digitsValue (digits : Text) : Nat :=
  digits.foldl (fun value c => 10 * value + (c.toNat - 0x30)) 0

/-- The greatest number of digits that an integer numeral may have. -/
def digitLimit : Nat := 4300

/-- A non-empty run of plain digits as a number. -/
def natural? (digits : Text) : Option Nat :=
  if digits.isEmpty || !digits.all Char.isDigit then none else some (digitsValue digits)

/-- An integer numeral as a number. -/
def readInt? (numeral : Text) : Option Int := do
  let (negative, magnitude) := splitSign (plain numeral)
  let digits ← dropUnderscoresFrom false magnitude
  let value ← natural? digits
  if digitLimit < digits.length then none
  else some (if negative then -(value : Int) else value)

/-- The exponent part of a decimal numeral: nothing, or a letter e and an integer. -/
def readExponent? : Text → Option Int
  | [] => some 0
  | c :: rest =>
    if c = 'e' || c = 'E' then do
      let (negative, magnitude) := splitSign rest
      let value ← natural? magnitude
      some (if negative then -(value : Int) else value)
    else none

/-- An unsigned decimal numeral: digits with an optional point, at least one of them, and an
optional exponent. -/
def readMagnitude? (numeral : Text) : Option (Nat × Int) := do
  let whole := numeral.takeWhile Char.isDigit
  let afterWhole := numeral.dropWhile Char.isDigit
  let pointed := afterWhole.head? = some '.'
  let fraction := if pointed then (afterWhole.drop 1).takeWhile Char.isDigit else []
  let tail := if pointed then (afterWhole.drop 1).dropWhile Char.isDigit else afterWhole
  let digits ← natural? (whole ++ fraction)
  let exponent ← readExponent? tail
  some (digits, exponent - fraction.length)

/-- A decimal numeral, or one of the words for the infinite and for not-a-number, as a float. -/
def readFloat? (numeral : Text) : Option Float := do
  let (negative, magnitude) := splitSign (← dropUnderscoresFrom false (plain numeral))
  let word := Text.lower magnitude
  if word = "inf".toList || word = "infinity".toList then
    some (if negative then -(1.0 / 0.0) else 1.0 / 0.0)
  else if word = "nan".toList then
    some (0.0 / 0.0)
  else do
    let (digits, exponent) ← readMagnitude? magnitude
    some (signedFloat negative digits exponent)

end Decimal
end SqlReview
