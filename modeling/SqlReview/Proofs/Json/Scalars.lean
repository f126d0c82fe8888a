import Mathlib.Data.Nat.Basic
import SqlReview.Json.Printer
import SqlReview.Json.Token

/-!
# Numbers and words written and read

A whole number is written by its digits and a word as it stands. Either is read as it was written
where a document goes on as it does behind a value: with a comma, a line break or not at all.
-/

namespace SqlReview
namespace Json

/-- What may follow a value in a document that was written: nothing, a comma, or a line break. -/
def EndsValue (rest : Text) : Prop :=
  ∀ c ∈ rest.head?, c = ',' ∨ c = '\n'

@[simp] theorem endsValue_nil : EndsValue [] := by simp [EndsValue]

@[simp] theorem endsValue_comma
    (rest : Text) :
    EndsValue (',' :: rest) := by simp [EndsValue]

@[simp] theorem endsValue_lineBreak
    (rest : Text) :
    EndsValue ('\n' :: rest) := by simp [EndsValue]

/-! ## Digits -/

theorem digitsValue_ofNat
    (n : Nat) :
    Decimal.digitsValue (Text.ofNat n) = n := by
  have value := Nat.ofDigitChars_toDigits (b := 10) (n := n) (by decide) (by decide)
  rwa [Nat.ofDigitChars_eq_foldl] at value

theorem isDigit_of_mem_ofNat
    {n : Nat}
    {c : Char}
    (present : c ∈ Text.ofNat n) :
    c.isDigit = true :=
  Nat.isDigit_of_mem_toDigits (by decide) (by decide) present

theorem ofNat_eq_cons
    (n : Nat) :
    ∃ c later, Text.ofNat n = c :: later ∧ c.isDigit = true := by
  cases digits : Text.ofNat n with
  | nil => exact absurd digits Nat.toDigits_ne_nil
  | cons c later =>
      have isFirst : c ∈ Text.ofNat n := by simp [digits]
      exact ⟨c, later, rfl, isDigit_of_mem_ofNat isFirst⟩

/-- Only the numeral of zero starts with a zero. -/
theorem head?_ofNat_ne_zero
    {n : Nat}
    (nonzero : n ≠ 0) :
    (Text.ofNat n).head? ≠ some '0' := by
  induction n using Nat.strongRecOn with
  | ind n inductionHypothesis =>
      rw [Text.ofNat, Nat.toDigits_eq_if (by decide)]
      split
      next single =>
          have each : ∀ digit < 10, digit ≠ 0 → digit.digitChar ≠ '0' := by decide
          simpa using each n single nonzero
      next =>
          have leading := inductionHypothesis (n / 10) (by omega) (by omega)
          obtain ⟨c, later, starts, -⟩ := ofNat_eq_cons (n / 10)
          rw [Text.ofNat] at starts leading
          rw [starts] at leading ⊢
          exact leading

section Following

variable {rest : Text}

/-- Behind a value comes no digit. -/
theorem takeWhile_isDigit_of_endsValue (ends : EndsValue rest) :
    rest.takeWhile Char.isDigit = [] := by
  cases rest with
  | nil => rfl
  | cons c rest =>
      obtain rfl | rfl := ends c rfl
      · rfl
      · rfl

theorem fractionDigits_of_endsValue (ends : EndsValue rest) : fractionDigits rest = ([], rest) := by
  cases rest with
  | nil => rfl
  | cons c rest =>
      obtain rfl | rfl := ends c rfl
      · rfl
      · rfl

theorem exponentPart_of_endsValue (ends : EndsValue rest) : exponentPart rest = (none, rest) := by
  cases rest with
  | nil => rfl
  | cons c rest =>
      obtain rfl | rfl := ends c rfl
      · rfl
      · rfl

theorem someDigits_ofNat
    (n : Nat)
    (ends : EndsValue rest) :
    someDigits (Text.ofNat n ++ rest) = some (Text.ofNat n, rest) := by
  have digits : (Text.ofNat n ++ rest).takeWhile Char.isDigit = Text.ofNat n := by
    rw [List.takeWhile_append_of_pos fun c => isDigit_of_mem_ofNat,
      takeWhile_isDigit_of_endsValue ends, List.append_nil]
  have some : Text.ofNat n ≠ [] := Nat.toDigits_ne_nil
  simp [someDigits, digits, some]

theorem wholeDigits_ofNat
    (n : Nat)
    (ends : EndsValue rest) :
    wholeDigits (Text.ofNat n ++ rest) = some (Text.ofNat n, rest) := by
  by_cases zero : n = 0
  · subst zero
    rfl
  · have leading : ∀ later, Text.ofNat n ++ rest ≠ '0' :: later := by
      intro later same
      obtain ⟨c, digits, starts, -⟩ := ofNat_eq_cons n
      rw [starts] at same
      obtain ⟨rfl, -⟩ := List.cons.inj same
      exact head?_ofNat_ne_zero zero (by rw [starts]; rfl)
    rw [wholeDigits.eq_2 _ leading]
    exact someDigits_ofNat n ends

/-! ## Whole numbers -/

/-- A number with few enough digits is read as it was written. -/
theorem readNumber_ofInt
    {n : Int}
    (short : (Text.ofNat n.natAbs).length ≤ Decimal.digitLimit)
    (ends : EndsValue rest) :
    readNumber (Text.ofInt n ++ rest) = .ok (.int n, rest) := by
  have notLong := Nat.not_lt.mpr short
  cases n with
  | ofNat n =>
      obtain ⟨c, later, starts, isDigit⟩ := ofNat_eq_cons n
      have noSign : (Text.ofNat n ++ rest).head? ≠ some '-' := by
        rw [starts]
        rintro ⟨rfl⟩
        contradiction
      have whole := wholeDigits_ofNat n ends
      simp only [readNumber, Text.ofInt, noSign, decide_false, if_false, whole,
        fractionDigits_of_endsValue ends, exponentPart_of_endsValue ends, digitsValue_ofNat]
      exact if_neg notLong
  | negSucc n =>
      have sign : ('-' :: Text.ofNat (n + 1) ++ rest).head? = some '-' := rfl
      have whole : wholeDigits (('-' :: Text.ofNat (n + 1) ++ rest).drop 1) =
          some (Text.ofNat (n + 1), rest) := wholeDigits_ofNat (n + 1) ends
      simp only [readNumber, Text.ofInt, sign, decide_true, if_true, whole,
        fractionDigits_of_endsValue ends, exponentPart_of_endsValue ends, digitsValue_ofNat]
      exact if_neg notLong

/-! ## Words -/

/-- No word starts like a number. -/
theorem readWord?_ofInt
    (n : Int)
    (rest : Text) :
    readWord? (Text.ofInt n ++ rest) = none := by
  have unlike : ∀ {digit : Char}, digit.isDigit = true →
      ∀ letter : Char, letter.isDigit = false → letter ≠ digit := by
    rintro digit isDigit letter noDigit rfl
    exact Bool.false_ne_true (noDigit.symm.trans isDigit)
  cases n with
  | ofNat n =>
      obtain ⟨c, later, starts, isDigit⟩ := ofNat_eq_cons n
      simp [readWord?, words, Text.after?, Text.ofInt, starts, unlike isDigit]
  | negSucc n =>
      obtain ⟨c, later, starts, isDigit⟩ := ofNat_eq_cons (n + 1)
      simp [readWord?, words, Text.after?, Text.ofInt, starts, unlike isDigit]

end Following

theorem readWord?_null
    (rest : Text) :
    readWord? ("null".toList ++ rest) = some (.null, rest) := by
  simp [readWord?, words, Text.after?]

theorem readWord?_bool
    (value : Bool)
    (rest : Text) :
    readWord? ((if value then "true" else "false" : String).toList ++ rest) =
      some (.bool value, rest) := by
  cases value <;> simp [readWord?, words, Text.after?]

end Json
end SqlReview
