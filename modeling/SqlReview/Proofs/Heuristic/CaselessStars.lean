import SqlReview.Proofs.Heuristic.Keywords
import SqlReview.Proofs.Heuristic.Stars

/-!
# Selected stars in caseless texts

A star is selected in a text just if one is selected in its caseless form. The characters that the
search for stars takes are the lower-case forms of no characters but those that it takes as well.
-/

namespace SqlReview
namespace Heuristic

open Pattern Text

variable {text : Text}

/-! ## Characters -/

/-- Ranges with the code points of all characters that a selected star has, but without those that
come from characters beyond ASCII by a change of case. -/
def starRanges : List (Nat × Nat) :=
  [(0x09, 0x6A), (0x6C, 0xA0), (0x17F, 0x17F), (0x1680, 0x1680), (0x2000, 0x205F), (0x3000, 0x3000)]

theorem exists_starRange
    {c : Char}
    (admitted : selectStar.admits c = true) :
    ∃ range ∈ starRanges, range.1 ≤ c.toNat ∧ c.toNat ≤ range.2 := by
  rcases Nat.lt_or_ge c.toNat 0x80 with ascii | beyond
  · revert admitted
    apply forall_ascii _ c ascii
    decide +kernel
  · have parts : (∃ letter ∈ "select".toList, foldLetter c = letter) ∨ isBlank c = true ∨ c = '*' := by
      simpa [selectStar, someBlanks, oneOrMore, Pattern.char, letters, all, letter, admits,
        or_assoc] using admitted
    rcases parts with ⟨letter, present, folds⟩ | blank | rfl
    · have areLetters : ∀ letter ∈ "select".toList, 'a' ≤ letter ∧ letter ≤ 'z' := by decide
      have four := mem_of_foldLetter beyond (folds ▸ areLetters letter present)
      have each : ∀ d ∈ ['\u0130', '\u0131', '\u017F', '\u212A'],
          foldLetter d ∈ "select".toList →
            ∃ range ∈ starRanges, range.1 ≤ d.toNat ∧ d.toNat ≤ range.2 := by
        decide
      exact each c four (folds ▸ present)
    · have each : ∀ point ∈ blankPoints,
          ∃ range ∈ starRanges, range.1 ≤ point ∧ point ≤ range.2 := by
        decide
      exact each c.toNat (mem_blankPoints blank)
    · decide

/-- No row for characters beyond ASCII leads to a character of a selected star. -/
theorem rows_miss_starRanges :
    ∀ row ∈ lowerRows.toList, row.2.1 < 0x80 ∨ ∀ range ∈ starRanges,
      (range.2 : Int) < row.1 + row.2.2.2 ∨ row.2.1 + row.2.2.2 < (range.1 : Int) := by
  decide +kernel

/-- A character beyond ASCII is its own lower-case form where that is a character of a selected
star. -/
theorem lowerChar_of_admits
    {c : Char}
    (beyond : 0x80 ≤ c.toNat)
    (noDotted : c ≠ '\u0130')
    (admitted : selectStar.admits (lowerChar c) = true) :
    lowerChar c = c := by
  obtain ⟨range, isStarRange, atLeast, atMost⟩ := exists_starRange admitted
  have positive : ∀ range ∈ starRanges, 0 < range.1 := by decide
  have positiveHere := positive range isStarRange
  rw [lowerChar, if_neg (by omega), if_neg noDotted] at atLeast atMost ⊢
  rcases shiftIn_cases lowerRows c.toNat with same | ⟨row, inTable, reaches, inside, -, shifted⟩
  · rw [same, Char.ofNat_toNat]
  · rw [shifted] at atLeast atMost
    generalize target : ((c.toNat : Int) + row.2.2.2).toNat = point at atLeast atMost
    have valid : point.isValidChar := by
      by_contra invalid
      rw [Char.ofNat, dif_neg invalid] at atLeast
      exact absurd (positiveHere.trans_le atLeast) (by decide)
    rw [Char.ofNat, dif_pos valid] at atLeast atMost
    change range.1 ≤ point at atLeast
    change point ≤ range.2 at atMost
    rcases rows_miss_starRanges row inTable with ascii | misses
    · omega
    · have outside := misses range isStarRange
      omega

/-- A character of a selected star in a caseless form is all that a character of the text became. -/
theorem caselessChar_of_admits
    {c d : Char}
    (present : d ∈ caselessChar c)
    (admitted : selectStar.admits d = true) :
    caselessChar c = [d] ∧ foldForms c = d := by
  rw [caselessChar] at present ⊢
  split at present
  · have none : ∀ e ∈ ['i', '\u0307'], selectStar.admits e = false := by decide
    rw [none d present] at admitted
    contradiction
  next noDotted =>
    obtain rfl := List.mem_singleton.mp present
    rw [if_neg noDotted]
    refine ⟨rfl, ?_⟩
    rcases Nat.lt_or_ge c.toNat 0x80 with ascii | beyond
    · clear present admitted noDotted
      apply forall_ascii _ c ascii
      decide +kernel
    · rw [admits_change overlooks_phrases.1] at admitted
      rw [lowerChar_of_admits beyond noDotted admitted]

/-! ## Texts -/

theorem exists_append_of_caseless
    {run rest : Text}
    (admitted : ∀ d ∈ run, selectStar.admits d = true)
    (whole : caseless text = run ++ rest) :
    ∃ first others, text = first ++ others ∧ first.map foldForms = run := by
  induction run generalizing text with
  | nil => exact ⟨[], text, rfl, rfl⟩
  | cons d run inductionHypothesis =>
      rw [List.forall_mem_cons] at admitted
      cases text with
      | nil => exact absurd whole (by simp)
      | cons c text =>
          obtain ⟨e, more, here⟩ := exists_caselessChar_cons c
          rw [caseless_cons, here] at whole
          obtain ⟨rfl, behind⟩ := List.cons.inj whole
          obtain ⟨single, folds⟩ := caselessChar_of_admits (here ▸ List.mem_cons_self) admitted.1
          obtain rfl := (List.cons.inj (here.symm.trans single)).2
          obtain ⟨first, others, rfl, firstFolds⟩ := inductionHypothesis admitted.2 behind
          exact ⟨c :: first, others, rfl, by rw [List.map_cons, folds, firstFolds]⟩

/-- A run of characters of a selected star in a caseless form was a run of the text. -/
theorem exists_run_of_caseless
    {lead run rest : Text}
    (nonempty : run ≠ [])
    (admitted : ∀ d ∈ run, selectStar.admits d = true)
    (whole : caseless text = lead ++ (run ++ rest)) :
    ∃ front first others, text = front ++ (first ++ others) ∧ first.map foldForms = run := by
  induction text generalizing lead with
  | nil =>
      exact absurd (List.append_eq_nil_iff.mp (List.append_eq_nil_iff.mp whole.symm).2).1 nonempty
  | cons c text inductionHypothesis =>
      cases lead with
      | nil =>
          obtain ⟨first, others, equal, folds⟩ := exists_append_of_caseless admitted whole
          exact ⟨[], first, others, equal, folds⟩
      | cons e lead =>
          rw [caseless_cons] at whole
          rcases List.append_eq_append_iff.mp whole with ⟨more, -, behind⟩ | ⟨more, here, behind⟩
          · obtain ⟨front, first, others, rfl, folds⟩ := inductionHypothesis behind
            exact ⟨c :: front, first, others, rfl, folds⟩
          · cases more with
            | nil =>
                have atStart : caseless text = [] ++ (run ++ rest) := behind.symm
                obtain ⟨front, first, others, rfl, folds⟩ := inductionHypothesis atStart
                exact ⟨c :: front, first, others, rfl, folds⟩
            | cons d more =>
                -- The run would start behind the first character of a longer caseless form.
                obtain ⟨d, run, rfl⟩ := List.exists_cons_of_ne_nil nonempty
                obtain ⟨rfl, -⟩ := List.cons.inj behind
                obtain ⟨single, -⟩ := caselessChar_of_admits (c := c) (d := d)
                  (by rw [here]; simp) (admitted d (.head _))
                rw [single] at here
                exact absurd (congrArg List.length here) (by simp)

theorem IsStarRun.caseless
    {run : Text}
    (isStar : IsStarRun run) :
    ∃ blanks, Text.caseless run = "select".toList ++ (blanks ++ ['*']) ∧ blanks ≠ [] ∧
      ∀ c ∈ blanks, isBlank c = true := by
  obtain ⟨select, blanks, rfl, folds, nonempty, areBlank⟩ := isStar
  refine ⟨blanks, ?_, nonempty, areBlank⟩
  rw [caseless_append, caseless_append, caseless_of_map_foldLetter folds (by decide),
    caseless_of_terminators fun c present => isTerminator_of_isBlank (areBlank c present)]
  rfl

/-- A star is selected in a text just if one is selected in its caseless form. -/
theorem selectStar_occursIn_caseless (text : Text) :
    selectStar.occursIn (caseless text) = selectStar.occursIn text := by
  rw [Bool.eq_iff_iff, occursIn_iff, occursIn_iff]
  constructor
  · rintro ⟨lead, run, rest, whole, covered⟩
    have nonempty := (covers_selectStar.mp covered).ne_nil
    obtain ⟨front, first, others, rfl, folds⟩ := exists_run_of_caseless nonempty covered.admits whole
    refine ⟨front, first, others, rfl, ?_⟩
    rw [← covers_map_iff overlooks_phrases.1, covers_selectStar, folds]
    exact covers_selectStar.mp covered
  · rintro ⟨lead, run, rest, rfl, covered⟩
    obtain ⟨blanks, equal, nonempty, areBlank⟩ := (covers_selectStar.mp covered).caseless
    refine ⟨Text.caseless lead, Text.caseless run, Text.caseless rest, by simp, ?_⟩
    exact covers_selectStar.mpr ⟨_, blanks, equal, by decide, nonempty, areBlank⟩

end Heuristic
end SqlReview
