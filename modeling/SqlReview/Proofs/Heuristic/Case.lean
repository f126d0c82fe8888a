import SqlReview.Heuristic.Analysis
import SqlReview.Proofs.Pattern.Case

/-!
# Signals and capital letters

A quick review looks at the lower-case form of a query. For plain characters this makes no
difference: all that it looks for ignores case.
-/

namespace SqlReview

/-- The lower-case form of a text of plain characters changes plain capital letters only. -/
theorem Text.lower_of_ascii
    {text : Text}
    (ascii : ∀ c ∈ text, c.toNat < 0x80) :
    lower text = text.small := by
  have run (afterCased : Bool) : lowerFrom afterCased text = text.small := by
    induction text generalizing afterCased with
    | nil => rfl
    | cons c rest inductionHypothesis =>
        have here := ascii c (.head _)
        have later := inductionHypothesis fun d present => ascii d (.tail _ present)
        have single : lowerAt afterCased rest c = [lowerChar c] := by
          have noSigma : c ≠ '\u03A3' := by
            rintro rfl
            exact absurd here (by decide)
          have noDotted : c ≠ '\u0130' := by
            rintro rfl
            exact absurd here (by decide)
          rw [lowerAt, if_neg noSigma, if_neg noDotted]
        have small : lowerChar c = smallLetter c := by
          rw [lowerChar, if_pos here, smallLetter]
        rw [lowerFrom, single, later, later, small]
        split <;> rfl
  exact run false

namespace Heuristic

open Query Pattern

/-- The patterns of a quick review ignore case. -/
theorem ignoresCase_patterns :
    selectStar.IgnoresCase ∧ orderBy.IgnoresCase ∧ rowLimit.IgnoresCase ∧
      leadingWildcard.IgnoresCase ∧ joinCondition.IgnoresCase ∧ subqueryHead.IgnoresCase := by
  have mark {c : Char} (isMark : c = '*' ∨ c = '(') : (Pattern.char c).IgnoresCase := by
    rcases isMark with rfl | rfl
    · exact fun c => @Text.eq_smallLetter Bool (fun d => decide (d = '*')) (by decide) c
    · exact fun c => @Text.eq_smallLetter Bool (fun d => decide (d = '(')) (by decide) c
  have letters := ignoresCase_letters
  have blanks := ignoresCase_someBlanks
  refine ⟨⟨letters _, blanks, mark (.inl rfl), trivial⟩,
    ⟨trivial, ⟨letters _, blanks, letters _, trivial⟩, trivial, trivial⟩, ?_, ?_, ?_, ?_⟩
  · refine ⟨ignoresCase_word _, ?_, ?_⟩
    · exact ⟨trivial, letters _, blanks, ⟨letters _, letters _⟩, trivial, trivial⟩
    · exact ⟨trivial, letters _, blanks, ⟨⟨letters _, blanks⟩, trivial⟩, letters _, trivial,
        trivial⟩
  · exact ⟨letters _, blanks, ⟨(letters ['n']).1, trivial⟩, letters _, trivial⟩
  · exact ⟨ignoresCase_word _, ignoresCase_word _⟩
  · exact ⟨mark (.inr rfl), ignoresCase_blanks, letters _, trivial, trivial⟩

theorem hasOrAfterWhere_small (text : Text) :
    hasOrAfterWhere text.small = hasOrAfterWhere text := by
  have search : (Pattern.word "where").search text.small =
      ((Pattern.word "where").search text).map Occurrence.small :=
    searchFrom_small (ignoresCase_word "where") none 0 text
  rw [hasOrAfterWhere, hasOrAfterWhere, search]
  cases (Pattern.word "where").search text with
  | none => rfl
  | some found =>
      have place : Place.within text.small found.stop = (Place.within text found.stop).small := by
        simp only [Place.within, Place.small, Text.small, ← List.map_take, ← List.map_drop,
          List.getLast?_map]
      change ((Pattern.word "or").searchFrom (Place.within text.small found.stop).before
        (Place.within text.small found.stop).index
        (Place.within text.small found.stop).rest).isSome = _
      rw [place]
      have behind := searchFrom_small (ignoresCase_word "or") (Place.within text found.stop).before
        (Place.within text found.stop).index (Place.within text found.stop).rest
      exact (congrArg Option.isSome behind).trans Option.isSome_map

/-- A quick review does not depend on the case of plain letters. -/
theorem signals_lower
    {text : Text}
    (ascii : ∀ c ∈ text, c.toNat < 0x80) :
    signals (Text.lower text) = signals text := by
  obtain ⟨star, order, limit, wildcard, condition, subquery⟩ := ignoresCase_patterns
  rw [Text.lower_of_ascii ascii, signals, signals, tests, tests, lacksLimit, lacksLimit,
    hasUnconditionedJoin, hasUnconditionedJoin, hasOrAfterWhere_small,
    length_occurrences_small condition, length_occurrences_small (ignoresCase_word _),
    occursIn_small star, occursIn_small order, occursIn_small limit, occursIn_small wildcard,
    occursIn_small subquery, occursIn_small (ignoresCase_word _),
    occursIn_small (ignoresCase_word _)]

end Heuristic
end SqlReview
