import Mathlib.Data.List.DropRight
import SqlReview.Proofs.Pattern.Word
import SqlReview.Proofs.Text.Cutting
import SqlReview.Text.Case

/-!
# Signs in lower case

The case mapping leaves the signs that qualify and enclose names where they are and adds none. So a
text has the same signs as its lower-case form, and the same signs at its ends.
-/

namespace SqlReview
namespace Text

/-- The signs that qualify and enclose names. -/
def isNameSign (c : Char) : Bool :=
  ['.', '"', '\x60', '[', ']'].contains c

/-! ## Single characters -/

theorem toNat_of_isNameSign
    {c : Char}
    (isSign : isNameSign c = true) :
    0 < c.toNat ∧ c.toNat ≤ 0x60 := by
  have each : ∀ sign ∈ ['.', '"', '\x60', '[', ']'], 0 < sign.toNat ∧ sign.toNat ≤ 0x60 := by
    simp
  exact each c (List.contains_iff_mem.mp isSign)

/-- The row that a search in a table finds. -/
theorem of_findRow?
    {α : Type}
    {table : Array (Nat × α)}
    {point : Nat}
    {row : Nat × α}
    (found : findRow? table point = some row) :
    row ∈ table ∧ row.1 ≤ point := by
  rw [findRow?] at found
  split at found
  next here isRow =>
    split at found
    next reaches =>
      obtain rfl := Option.some.inj found
      exact ⟨Array.mem_of_getElem? isRow, reaches⟩
    · exact absurd found (by simp)
  · exact absurd found (by simp)

/-- Beyond ASCII, no character becomes one below the small letters. -/
theorem lt_shiftIn_lowerRows
    {point : Nat}
    (beyond : 0x80 ≤ point) :
    0x60 < shiftIn lowerRows point := by
  have rows : ∀ row ∈ lowerRows.toList, row.2.1 < 0x80 ∨ 0x60 < (row.1 : Int) + row.2.2.2 := by
    decide +kernel
  rw [shiftIn]
  split
  next row found =>
    obtain ⟨present, reaches⟩ := of_findRow? found
    rw [shiftBy]
    split
    next covered =>
      rw [Bool.and_eq_true, decide_eq_true_eq] at covered
      rcases rows row (Array.mem_toList_iff.mpr present) with ascii | far
      · omega
      · omega
    · omega
  · omega

/-- A sign is its own lower-case form, and no other character becomes a sign. -/
theorem lowerChar_sign (c : Char) :
    (isNameSign c = true → lowerChar c = c) ∧ isNameSign (lowerChar c) = isNameSign c := by
  rcases Nat.lt_or_ge c.toNat 0x80 with ascii | beyond
  · apply forall_ascii _ c ascii
    decide +kernel
  · have noSign : isNameSign c = false := by
      refine Bool.eq_false_iff.mpr fun isSign => ?_
      have bound := toNat_of_isNameSign isSign
      omega
    refine ⟨fun isSign => absurd (noSign.symm.trans isSign) Bool.false_ne_true, ?_⟩
    rw [noSign, lowerChar, if_neg (by omega)]
    split
    · decide
    · have far := lt_shiftIn_lowerRows beyond
      generalize shiftIn lowerRows c.toNat = point at far
      by_cases valid : point.isValidChar
      · rw [Char.ofNat, dif_pos valid]
        refine Bool.eq_false_iff.mpr fun isSign => ?_
        have bound : point ≤ 0x60 := (toNat_of_isNameSign isSign).2
        omega
      · rw [Char.ofNat, dif_neg valid]
        decide

/-! ## Texts -/

/-- Whether a text can be the lower-case form of a character, as far as signs go. -/
structure LowersTo (c : Char) (piece : Text) : Prop where
  /-- It is not empty. -/
  nonempty : piece ≠ []
  /-- A sign stays as it is. -/
  sign : isNameSign c = true → piece = [c]
  /-- No other character becomes a sign. -/
  others : isNameSign c = false → ∀ d ∈ piece, isNameSign d = false

theorem lowersTo_of_noSign
    {c : Char}
    {piece : Text}
    (noSign : isNameSign c = false)
    (nonempty : piece ≠ [])
    (noSigns : piece.all (fun d => !isNameSign d) = true) :
    LowersTo c piece :=
  ⟨nonempty, fun isSign => absurd (noSign.symm.trans isSign) Bool.false_ne_true,
    fun _ d present => by simpa using List.all_eq_true.mp noSigns d present⟩

/-- Where a sign is looked for, the lower-case form of a character shows what the character does. -/
theorem LowersTo.isMark_eq
    {c d : Char}
    {piece : Text}
    (lowers : LowersTo c piece)
    (present : d ∈ piece)
    {isMark : Char → Bool}
    (areSigns : ∀ c, isMark c = true → isNameSign c = true) :
    isMark d = isMark c := by
  cases signHere : isNameSign c with
  | true =>
      rw [lowers.sign signHere] at present
      rw [List.mem_singleton.mp present]
  | false =>
      have none {e : Char} (noSign : isNameSign e = false) : isMark e = false :=
        Bool.eq_false_iff.mpr fun isMark =>
          absurd (noSign.symm.trans (areSigns e isMark)) Bool.false_ne_true
      rw [none signHere, none (lowers.others signHere d present)]

/-- The lower-case form of a text starts with that of its first character. -/
theorem exists_lowerFrom_cons
    (afterCased : Bool)
    (c : Char)
    (rest : Text) :
    ∃ piece afterwards, lowerFrom afterCased (c :: rest) = piece ++ lowerFrom afterwards rest ∧
      LowersTo c piece := by
  have single : LowersTo c [lowerChar c] := by
    obtain ⟨same, stays⟩ := lowerChar_sign c
    exact ⟨List.cons_ne_nil _ _, fun isSign => by rw [same isSign],
      fun noSign => List.forall_mem_singleton.mpr (stays.trans noSign)⟩
  rw [lowerFrom]
  split
  · exact ⟨[lowerChar c], _, rfl, single⟩
  · refine ⟨_, _, rfl, ?_⟩
    rw [lowerAt]
    split
    next isSigma =>
      subst isSigma
      split
      · exact lowersTo_of_noSign (by decide) (List.cons_ne_nil _ _) (by decide)
      · exact lowersTo_of_noSign (by decide) (List.cons_ne_nil _ _) (by decide)
    · split
      next isDotted =>
        subst isDotted
        exact lowersTo_of_noSign (by decide) (List.cons_ne_nil _ _) (by decide)
      · exact single

variable {afterCased : Bool} {text : Text}

/-- The signs of a text are those of its lower-case form. -/
theorem mem_lowerFrom_iff
    {c : Char}
    (isSign : isNameSign c = true) :
    c ∈ lowerFrom afterCased text ↔ c ∈ text := by
  induction text generalizing afterCased with
  | nil => rfl
  | cons d rest inductionHypothesis =>
      obtain ⟨piece, afterwards, equal, lowers⟩ := exists_lowerFrom_cons afterCased d rest
      rw [equal, List.mem_append, inductionHypothesis, List.mem_cons]
      refine or_congr_left ?_
      cases signHere : isNameSign d with
      | true => rw [lowers.sign signHere, List.mem_singleton]
      | false =>
          refine iff_of_false (fun present => ?_) (fun same => ?_)
          · exact absurd (isSign.symm.trans (lowers.others signHere c present)) (by decide)
          · exact absurd (isSign.symm.trans (same ▸ signHere)) (by decide)

section

variable {isMark : Char → Bool}

/-- A text starts with a sign just if its lower-case form does. -/
theorem head?_lowerFrom
    (areSigns : ∀ c, isMark c = true → isNameSign c = true) :
    (lowerFrom afterCased text).head?.any isMark = text.head?.any isMark := by
  cases text with
  | nil => rfl
  | cons c rest =>
      obtain ⟨piece, afterwards, equal, lowers⟩ := exists_lowerFrom_cons afterCased c rest
      obtain ⟨d, more, rfl⟩ := List.exists_cons_of_ne_nil lowers.nonempty
      rw [equal]
      exact lowers.isMark_eq (.head _) areSigns

/-- A text ends with a sign just if its lower-case form does. -/
theorem getLast?_lowerFrom
    (areSigns : ∀ c, isMark c = true → isNameSign c = true) :
    (lowerFrom afterCased text).getLast?.any isMark = text.getLast?.any isMark := by
  induction text generalizing afterCased with
  | nil => rfl
  | cons c rest inductionHypothesis =>
      obtain ⟨piece, afterwards, equal, lowers⟩ := exists_lowerFrom_cons afterCased c rest
      rw [equal]
      cases rest with
      | nil =>
          rw [lowerFrom, List.append_nil, List.getLast?_eq_some_getLast lowers.nonempty]
          exact lowers.isMark_eq (List.getLast_mem lowers.nonempty) areSigns
      | cons d rest =>
          have nonempty : lowerFrom afterwards (d :: rest) ≠ [] := by
            obtain ⟨next, _, equal, lowers⟩ := exists_lowerFrom_cons afterwards d rest
            rw [equal]
            exact List.append_ne_nil_of_left_ne_nil lowers.nonempty _
          rw [List.getLast?_append_of_ne_nil _ nonempty, inductionHypothesis, List.getLast?_cons_cons]

end

end Text
end SqlReview
