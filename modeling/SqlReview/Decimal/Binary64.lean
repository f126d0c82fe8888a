/-!
# Finite floating-point values, exactly

A finite floating-point number is a sign and a natural number times a power of two. From this
form follow the whole part, the rounding to a number of decimal places and, in the next module,
the shortest decimal. All comparisons are made between natural numbers.
-/

namespace SqlReview
namespace Decimal

/-- A finite floating-point value: `significand * 2 ^ exponent`, negated if `negative`. -/
structure Binary64 where
  /-- Whether the sign bit is set, as it is for the negative zero. -/
  negative : Bool
  /-- The significand, below `2 ^ 53`. -/
  significand : Nat
  /-- The power of two it is multiplied by. -/
  exponent : Int
  deriving DecidableEq, Repr

namespace Binary64

/-- The exact value of a float that is neither infinite nor not-a-number. -/
def ofFloat? (x : Float) : Option Binary64 :=
  let bits := x.toBits.toNat
  let biased : Nat := bits / Nat.pow 2 52 % Nat.pow 2 11
  let fraction : Nat := bits % Nat.pow 2 52
  if biased = 2047 then none
  else if biased = 0 then some ⟨bits / Nat.pow 2 63 = 1, fraction, -1074⟩
  else some ⟨bits / Nat.pow 2 63 = 1, Nat.pow 2 52 + fraction, (biased : Int) - 1075⟩

/-- The magnitude as a quotient of natural numbers. -/
def ratio (value : Binary64) : Nat × Nat :=
  (value.significand * Nat.pow 2 value.exponent.toNat, Nat.pow 2 (-value.exponent).toNat)

/-- A sign put in front of a magnitude. -/
def signed (value : Binary64) (magnitude : Nat) : Int :=
  if value.negative then -(magnitude : Int) else magnitude

/-- The whole part: the value without its fraction, whatever its sign. -/
def wholePart (value : Binary64) : Int :=
  value.signed (value.ratio.1 / value.ratio.2)

end Binary64

/-- The quotient of two natural numbers rounded to the nearest natural number, a half to the even
neighbour. -/
def roundedQuotient (numerator denominator : Nat) : Nat :=
  let quotient := numerator / denominator
  let twice := 2 * (numerator % denominator)
  if twice < denominator || (twice = denominator && quotient % 2 = 0) then quotient
  else quotient + 1

/-- A float rounded to a number of decimal places, a half of the last place to the even side. -/
def roundToPlaces (places : Nat) (x : Float) : Float :=
  match Binary64.ofFloat? x with
  | none => x
  | some value =>
    let scaled := roundedQuotient (value.ratio.1 * Nat.pow 10 places) value.ratio.2
    let rounded := Float.ofScientific scaled true places
    if value.negative then -rounded else rounded

end Decimal
end SqlReview
