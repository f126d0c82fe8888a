import SqlReview.Decimal.Binary64
import SqlReview.Text.Basic

/-!
# Writing floats

A float is written with its shortest digits. Among all decimals that read back to a float, the one
with the fewest digits is taken, and of those the nearest. A decimal reads back if it lies in the
interval of reals that round to the float; the ends of the interval belong to it exactly when the
significand is even. The digits are written positionally while the decimal point stays within
sixteen places to the right and four zeros to the left, otherwise with a signed exponent of at
least two digits. A whole number keeps `.0`.
-/

namespace SqlReview
namespace Decimal

/-! ## The shortest decimal -/

/-- The decimal `digits * 10 ^ exponent`. -/
structure Scientific where
  /-- The digits, read as one number. -/
  digits : Nat
  /-- The power of ten they are multiplied by. -/
  exponent : Int
  deriving DecidableEq, Repr

/-- How `a * 10 ^ i` compares with `b * 2 ^ j`. -/
def compareScaled (a : Nat) (i : Int) (b : Nat) (j : Int) : Ordering :=
  compare (a * Nat.pow 10 i.toNat * Nat.pow 2 (-j).toNat)
    (b * Nat.pow 2 j.toNat * Nat.pow 10 (-i).toNat)

namespace Binary64

/-- Whether a decimal lies in the interval of the magnitudes that round to this one. The interval
reaches half a unit upwards and downwards, but only a quarter downwards at a power of two. -/
def readsBack (value : Binary64) (decimal : Scientific) : Bool :=
  let isPower := value.significand = Nat.pow 2 52 && value.exponent ≠ -1074
  let low := if isPower then 4 * value.significand - 1 else 4 * value.significand - 2
  let high := 4 * value.significand + 2
  let withEnds := value.significand % 2 = 0
  let fromLow := compareScaled decimal.digits decimal.exponent low (value.exponent - 2)
  let toHigh := compareScaled decimal.digits decimal.exponent high (value.exponent - 2)
  (fromLow = .gt || (withEnds && fromLow = .eq)) && (toHigh = .lt || (withEnds && toHigh = .eq))

/-- A power of ten at or below the magnitude that is off by one at most, from the binary
logarithm. -/
def decimalLogEstimate (value : Binary64) : Int :=
  ((value.significand.log2 + value.exponent) * 30103).fdiv 100000

/-- The greatest `k` with `10 ^ k` at most the magnitude. -/
def decimalLog (value : Binary64) : Int :=
  let reaches (k : Int) : Bool := compareScaled 1 k value.significand value.exponent ≠ .gt
  let estimate := value.decimalLogEstimate
  if reaches (estimate + 1) then estimate + 1
  else if reaches estimate then estimate
  else estimate - 1

/-- The multiples of `10 ^ scale` next to the magnitude, below and above. -/
def neighbours (value : Binary64) (scale : Int) : Scientific × Scientific :=
  let below := value.ratio.1 * Nat.pow 10 (-scale).toNat /
    (value.ratio.2 * Nat.pow 10 scale.toNat)
  (⟨below, scale⟩, ⟨below + 1, scale⟩)

/-- Whether the lower of two neighbouring multiples of `10 ^ scale` is the nearer one; on a tie,
whether it is even. -/
def isNearerBelow (value : Binary64) (below : Scientific) : Bool :=
  match compareScaled (2 * below.digits + 1) below.exponent
      (2 * value.significand) value.exponent with
  | .gt => true
  | .lt => false
  | .eq => below.digits % 2 = 0

/-- The nearest decimal with a given last place that reads back. -/
def nearestAt? (value : Binary64) (scale : Int) : Option Scientific :=
  let (below, above) := value.neighbours scale
  match value.readsBack below, value.readsBack above with
  | true, true => some (if value.isNearerBelow below then below else above)
  | true, false => some below
  | false, true => some above
  | false, false => none

/-- The shortest decimal that reads back, looked for with more and more digits. Seventeen digits
always suffice, so the exact whole number in the last case is never reached. -/
def shortest (value : Binary64) : Scientific :=
  let scales := (List.range 17).map fun (count : Nat) => value.decimalLog - count
  (scales.findSome? value.nearestAt?).getD ⟨value.ratio.1 / value.ratio.2, 0⟩

end Binary64

/-! ## Its notation -/

/-- The digits of a decimal without trailing zeros, and the place of the point: the value is the
digits after a leading `0.`, times ten to that power. -/
def pointed (decimal : Scientific) : Text × Int :=
  let all := Text.ofNat decimal.digits
  let digits := Text.trimEndWhere (· = '0') all
  (digits, decimal.exponent + all.length)

/-- Digits written with the point in its place. -/
def positional (digits : Text) (point : Int) : Text :=
  if point ≤ 0 then
    "0." ++ List.replicate (-point).toNat '0' ++ digits
  else if digits.length ≤ point.toNat then
    digits ++ List.replicate (point.toNat - digits.length) '0' ++ ".0".toList
  else
    digits.take point.toNat ++ '.' :: digits.drop point.toNat

/-- Digits written with one digit before the point and an exponent. -/
def exponential (digits : Text) (point : Int) : Text :=
  let exponent := point - 1
  let fraction := if digits.length ≤ 1 then [] else '.' :: digits.drop 1
  let power := Text.ofNat exponent.natAbs
  digits.take 1 ++ fraction ++ 'e' :: (if exponent < 0 then '-' else '+') ::
    (List.replicate (2 - power.length) '0' ++ power)

/-- The text of a magnitude. -/
def magnitudeText (value : Binary64) : Text :=
  if value.significand = 0 then "0.0"
  else
    let (digits, point) := pointed value.shortest
    if -4 < point && point ≤ 16 then positional digits point else exponential digits point

/-- The text of a float. -/
def floatText (x : Float) : Text :=
  match Binary64.ofFloat? x with
  | some value => (if value.negative then ['-'] else []) ++ magnitudeText value
  | none => if x.isNaN then "nan" else if x < 0 then "-inf" else "inf"

end Decimal
end SqlReview
