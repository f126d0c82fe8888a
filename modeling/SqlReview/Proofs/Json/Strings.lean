import Mathlib.Data.Nat.Basic
import SqlReview.Json.Printer
import SqlReview.Json.Token

/-!
# Strings written and read

A string is written in plain characters, whatever it holds: everything else is escaped by its
UTF-16 units. Reading takes the units back one escape at a time and joins the halves, so a string
that was written is read as it was.
-/

namespace SqlReview
namespace Json

/-! ## Hexadecimal numerals -/

/-- A unit has four hexadecimal digits. -/
theorem hexadecimal_four
    {unit : Nat}
    (small : unit < 0x10000) :
    Text.hexadecimal 4 unit =
      [(unit / 0x1000).digitChar, (unit / 0x100 % 0x10).digitChar, (unit / 0x10 % 0x10).digitChar,
        (unit % 0x10).digitChar] := by
  have zero : Nat.digitChar 0 = '0' := rfl
  have base : 1 < 16 := by decide
  unfold Text.hexadecimal
  rw [Nat.toDigits_eq_if base]
  split
  next single =>
      have high : unit / 0x1000 = 0 ∧ unit / 0x100 % 0x10 = 0 ∧ unit / 0x10 % 0x10 = 0 := by omega
      simp [high, zero, Nat.mod_eq_of_lt single]
  next =>
    rw [Nat.toDigits_eq_if base]
    split
    next =>
        have high : unit / 0x1000 = 0 ∧ unit / 0x100 % 0x10 = 0 ∧
            unit / 0x10 % 0x10 = unit / 0x10 := by omega
        simp [high, zero]
    next =>
      rw [Nat.toDigits_eq_if base]
      split
      next =>
          have high : unit / 0x1000 = 0 ∧ unit / 0x100 % 0x10 = unit / 0x10 / 0x10 := by omega
          simp [high, zero]
      next =>
          have high : unit / 0x10 / 0x10 / 0x10 < 0x10 ∧
              unit / 0x1000 = unit / 0x10 / 0x10 / 0x10 ∧
              unit / 0x100 % 0x10 = unit / 0x10 / 0x10 % 0x10 := by omega
          rw [Nat.toDigits_of_lt_base high.1]
          simp [high.2]

theorem hexValue?_digitChar
    {digit : Nat}
    (small : digit < 0x10) :
    hexValue? digit.digitChar = some digit := by
  have each : ∀ digit < 0x10, hexValue? digit.digitChar = some digit := by decide
  exact each digit small

/-- The digits of a unit give the unit back. -/
theorem hexUnit?_digits
    {unit : Nat}
    (small : unit < 0x10000) :
    hexUnit? (unit / 0x1000).digitChar (unit / 0x100 % 0x10).digitChar
      (unit / 0x10 % 0x10).digitChar (unit % 0x10).digitChar = some unit := by
  have digits : ∀ n, n % 0x10 < 0x10 := fun n => Nat.mod_lt n (by decide)
  have whole : (unit / 0x1000 * 0x10 + unit / 0x100 % 0x10) * 0x100 +
      (unit / 0x10 % 0x10 * 0x10 + unit % 0x10) = unit := by omega
  simp only [hexUnit?, hexValue?_digitChar (show unit / 0x1000 < 0x10 by omega),
    hexValue?_digitChar (digits _), Option.bind_eq_bind, Option.bind_some, whole]

/-- An escape is read as its unit. -/
theorem stringUnits_unitEscape
    {unit : Nat}
    (small : unit < 0x10000)
    (read : List Nat)
    (rest : Text) :
    stringUnits read (unitEscape unit ++ rest) = stringUnits (unit :: read) rest := by
  rw [unitEscape, hexadecimal_four small]
  simp only [List.cons_append, List.nil_append]
  rw [stringUnits, hexUnit?_digits small]

/-! ## Units of characters -/

/-- The units by which a character is written: its code point, or two halves of it. -/
def charUnits (c : Char) : List Nat :=
  if c.toNat < 0x10000 then [c.toNat]
  else [0xD800 + (c.toNat - 0x10000) / 0x400, 0xDC00 + (c.toNat - 0x10000) % 0x400]

theorem toNat_lt
    (c : Char) :
    c.toNat < 0x110000 := by
  rcases c.valid with low | high
  · exact Nat.lt_trans low (by decide)
  · exact high.2

/-- A plain character is read as it stands. -/
theorem stringUnits_plain
    {c : Char}
    (noQuote : c ≠ '"')
    (noBackslash : c ≠ '\\')
    (visible : 0x20 ≤ c.toNat)
    (read : List Nat)
    (rest : Text) :
    stringUnits read (c :: rest) = stringUnits (c.toNat :: read) rest := by
  rw [stringUnits.eq_5]
  · rw [if_neg (by simp [noBackslash, Nat.not_lt.mpr visible])]
  all_goals simp_all

/-- A character is read back by its units, however it is written. -/
theorem stringUnits_writeChar
    (read : List Nat)
    (c : Char)
    (rest : Text) :
    stringUnits read (writeChar c ++ rest) = stringUnits ((charUnits c).reverse ++ read) rest := by
  have range : c.toNat < 0x110000 := toNat_lt c
  unfold writeChar
  split
  · subst c; rfl
  split
  · subst c; rfl
  split
  · subst c; rfl
  split
  · subst c; rfl
  split
  · subst c; rfl
  split
  · subst c; rfl
  split
  · subst c; rfl
  split
  next noQuote noBackslash _ _ _ _ _ plain =>
      simp only [Bool.and_eq_true, decide_eq_true_eq] at plain
      have basic : c.toNat < 0x10000 := by omega
      rw [charUnits, if_pos basic]
      exact stringUnits_plain noQuote noBackslash plain.1 read rest
  split
  next basic =>
      rw [charUnits, if_pos basic]
      exact stringUnits_unitEscape basic read rest
  next astral =>
      rw [charUnits, if_neg astral, List.append_assoc, stringUnits_unitEscape (by omega),
        stringUnits_unitEscape (by omega)]
      rfl

/-- The characters of a string are read up to its closing quote. -/
theorem stringUnits_flatMap_writeChar
    (read : List Nat)
    (text rest : Text) :
    stringUnits read (text.flatMap writeChar ++ '"' :: rest) =
      some (read.reverse ++ text.flatMap charUnits, rest) := by
  induction text generalizing read with
  | nil => simp [stringUnits]
  | cons c text inductionHypothesis =>
      rw [List.flatMap_cons, List.append_assoc, stringUnits_writeChar, inductionHypothesis]
      simp

/-! ## Strings -/

theorem not_half
    {c : Char}
    (basic : c.toNat < 0x10000) :
    (isHighHalf c.toNat || isLowHalf c.toNat) = false := by
  have valid : c.toNat < 0xD800 ∨ 0xDFFF < c.toNat := c.valid.imp id And.left
  simp only [isHighHalf, isLowHalf, Bool.or_eq_false_iff, Bool.and_eq_false_iff,
    decide_eq_false_iff_not]
  omega

section Reading

variable {standIn : Nat → Option Char}

/-- The units of a character are joined to it. -/
theorem joinHalves_charUnits
    (c : Char)
    (units : List Nat) :
    joinHalves standIn (charUnits c ++ units) = (joinHalves standIn units).map (c :: ·) := by
  rw [charUnits]
  split
  next basic =>
      have whole := not_half basic
      obtain ⟨noHigh, noLow⟩ := Bool.or_eq_false_iff.mp whole
      cases units with
      | nil => simp [joinHalves, unitChar?, whole]
      | cons unit units => simp [joinHalves, unitChar?, noHigh, noLow]
  next astral =>
      have range : c.toNat < 0x110000 := toNat_lt c
      have high : isHighHalf (0xD800 + (c.toNat - 0x10000) / 0x400) = true := by
        simp only [isHighHalf, Bool.and_eq_true, decide_eq_true_eq]
        omega
      have low : isLowHalf (0xDC00 + (c.toNat - 0x10000) % 0x400) = true := by
        simp only [isLowHalf, Bool.and_eq_true, decide_eq_true_eq]
        omega
      have whole : 0x10000 + (0xD800 + (c.toNat - 0x10000) / 0x400 - 0xD800) * 0x400 +
          (0xDC00 + (c.toNat - 0x10000) % 0x400 - 0xDC00) = c.toNat := by omega
      simp only [List.cons_append, List.nil_append, joinHalves, high, low, Bool.and_true, if_true,
        whole, Char.ofNat_toNat]

theorem joinHalves_flatMap_charUnits
    (text : Text) :
    joinHalves standIn (text.flatMap charUnits) = some text := by
  induction text with
  | nil => rfl
  | cons c text inductionHypothesis =>
      rw [List.flatMap_cons, joinHalves_charUnits, inductionHypothesis, Option.map_some]

/-- A string that was written is read as it was, whether or not halves may stand alone. -/
theorem readString_writeString
    (text rest : Text) :
    readString standIn (text.flatMap writeChar ++ '"' :: rest) = some (text, rest) := by
  rw [readString, stringUnits_flatMap_writeChar]
  simp [joinHalves_flatMap_charUnits]

end Reading

end Json
end SqlReview
