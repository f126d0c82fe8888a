import SqlReview.Proofs.Pattern.Case
import SqlReview.Text.Blank
import SqlReview.Text.Case

/-!
# Small letters in the place of capital ones

Cutting, trimming and collapsing a text give the same parts after its plain capital letters have
become small, up to these letters, and its lower-case and upper-case forms stay the same.
-/

namespace SqlReview
namespace Text

/-! ## Characters -/

theorem isBlank_smallLetter
    (c : Char) :
    isBlank (smallLetter c) = isBlank c :=
  eq_smallLetter (by decide) c

/-- Becoming small once is enough. -/
theorem smallLetter_smallLetter
    (c : Char) :
    smallLetter (smallLetter c) = smallLetter c :=
  eq_smallLetter (by decide) c

/-- A character that is no letter comes from itself only. -/
@[simp] theorem smallLetter_eq_iff
    {c d : Char}
    (noLetter : d.isAlpha = false) :
    smallLetter c = d ↔ c = d := by
  by_cases capital : ('A' ≤ c && c ≤ 'Z') = true
  · have areLetters : c.isAlpha = true ∧ (smallLetter c).isAlpha = true := by
      have ascii := ascii_of_between capital (by decide)
      revert capital
      apply forall_ascii _ c ascii
      decide
    apply iff_of_false
    · rintro rfl
      exact Bool.false_ne_true (noLetter.symm.trans areLetters.2)
    · rintro rfl
      exact Bool.false_ne_true (noLetter.symm.trans areLetters.1)
  · rw [smallLetter, if_neg capital]

/-! ## Parts -/

section Parts

variable (text other : Text)

@[simp] theorem small_cons (c : Char) : small (c :: text) = smallLetter c :: small text := rfl

@[simp] theorem small_append : small (text ++ other) = small text ++ small other :=
  List.map_append

@[simp] theorem length_small : (small text).length = text.length :=
  List.length_map _

@[simp] theorem isEmpty_small : (small text).isEmpty = text.isEmpty :=
  List.isEmpty_map

@[simp] theorem small_eq_nil : small text = [] ↔ text = [] :=
  List.map_eq_nil_iff

@[simp] theorem small_small : small (small text) = small text := by
  rw [small, small, List.map_map]
  exact List.map_congr_left fun c _ => smallLetter_smallLetter c

theorem small_take (n : Nat) : (small text).take n = small (text.take n) :=
  (List.map_take ..).symm

theorem small_drop (n : Nat) : (small text).drop n = small (text.drop n) :=
  (List.map_drop ..).symm

theorem small_slice (start stop : Nat) :
    slice (small text) start stop = small (slice text start stop) := by
  rw [slice, slice, small_drop, small_take]

end Parts

section Classes

variable {drop : Char → Bool} (ignores : ∀ c, drop (smallLetter c) = drop c) (text : Text)

include ignores

theorem small_dropWhile : (small text).dropWhile drop = small (text.dropWhile drop) := by
  have same : drop ∘ smallLetter = drop := funext ignores
  rw [small, small, List.dropWhile_map, same]

theorem small_takeWhile : (small text).takeWhile drop = small (text.takeWhile drop) := by
  have same : drop ∘ smallLetter = drop := funext ignores
  rw [small, small, List.takeWhile_map, same]

theorem all_small : (small text).all drop = text.all drop := by
  have same : drop ∘ smallLetter = drop := funext ignores
  rw [small, List.all_map, same]

theorem small_trimEndWhere :
    trimEndWhere drop (small text) = small (trimEndWhere drop text) := by
  have reverse (text : Text) : (small text).reverse = small text.reverse := List.map_reverse.symm
  rw [trimEndWhere, trimEndWhere, reverse, small_dropWhile ignores, reverse]

theorem small_trimWhere : trimWhere drop (small text) = small (trimWhere drop text) := by
  rw [trimWhere, trimWhere, small_dropWhile ignores, small_trimEndWhere ignores]

end Classes

variable (text : Text)

theorem small_trim : trim (small text) = small (trim text) :=
  small_trimWhere isBlank_smallLetter text

theorem isAllBlank_small : isAllBlank (small text) = isAllBlank text :=
  all_small isBlank_smallLetter text

theorem small_collapse : collapse (small text) = small (collapse text) := by
  have run (afterBlank : Bool) :
      collapseFrom afterBlank (small text) = small (collapseFrom afterBlank text) := by
    induction text generalizing afterBlank with
    | nil => rfl
    | cons c text inductionHypothesis =>
        rw [small_cons, collapseFrom, collapseFrom, isBlank_smallLetter]
        cases isBlank c with
        | false => simp [inductionHypothesis]
        | true =>
            cases afterBlank with
            | false => simp [inductionHypothesis, show smallLetter ' ' = ' ' from rfl]
            | true => simp [inductionHypothesis]
  exact run false

section Pieces

variable {separator : Char} (noLetter : separator.isAlpha = false)

include noLetter

theorem small_splitAt : splitAt separator (small text) = (splitAt separator text).map small := by
  induction text with
  | nil => rfl
  | cons c text inductionHypothesis =>
      rw [small_cons, splitAt, splitAt, inductionHypothesis]
      simp only [smallLetter_eq_iff noLetter]
      split
      · rfl
      · cases splitAt separator text <;> rfl

theorem small_lastPiece : lastPiece separator (small text) = small (lastPiece separator text) := by
  rw [lastPiece, lastPiece, small_splitAt text noLetter, List.getLast?_map]
  cases (splitAt separator text).getLast? <;> rfl

end Pieces

/-! ## Lower and upper case -/

theorem isCased_smallLetter
    (c : Char) :
    isCased (smallLetter c) = isCased c :=
  eq_smallLetter (by decide) c

theorem isCaseIgnorable_smallLetter
    (c : Char) :
    isCaseIgnorable (smallLetter c) = isCaseIgnorable c :=
  eq_smallLetter (by decide +kernel) c

theorem leansOnCased_small : leansOnCased (small text) = leansOnCased text := by
  rw [leansOnCased, leansOnCased, small_dropWhile isCaseIgnorable_smallLetter]
  cases text.dropWhile isCaseIgnorable with
  | nil => rfl
  | cons c rest => exact isCased_smallLetter c

/-- The lower-case form does not depend on the case of plain letters. -/
theorem lower_small : lower (small text) = lower text := by
  have lowered (c : Char) : lowerChar (smallLetter c) = lowerChar c :=
    eq_smallLetter (by decide +kernel) c
  have leaning (c : Char) :
      (decide ((smallLetter c).toNat < 0x80) && !(decide (smallLetter c = '\'') ||
        decide (smallLetter c = '.') || decide (smallLetter c = ':') ||
        decide (smallLetter c = '^') || decide (smallLetter c = '\x60'))) =
      (decide (c.toNat < 0x80) && !(decide (c = '\'') || decide (c = '.') || decide (c = ':') ||
        decide (c = '^') || decide (c = '\x60'))) :=
    @eq_smallLetter Bool (fun d => decide (d.toNat < 0x80) && !(decide (d = '\'') ||
      decide (d = '.') || decide (d = ':') || decide (d = '^') || decide (d = '\x60')))
      (by decide) c
  have here (afterCased : Bool) (rest : Text) (c : Char) :
      lowerAt afterCased (small rest) (smallLetter c) = lowerAt afterCased rest c := by
    rw [lowerAt, lowerAt, leansOnCased_small, lowered]
    simp only [smallLetter_eq_iff (show ('\u03A3').isAlpha = false by decide),
      smallLetter_eq_iff (show ('\u0130').isAlpha = false by decide)]
  have run (afterCased : Bool) : lowerFrom afterCased (small text) = lowerFrom afterCased text := by
    induction text generalizing afterCased with
    | nil => rfl
    | cons c rest inductionHypothesis =>
        rw [small_cons, lowerFrom, lowerFrom, leaning, lowered, here, isCased_smallLetter,
          isCaseIgnorable_smallLetter, inductionHypothesis, inductionHypothesis]
  exact run false

/-- The upper-case form does not depend on the case of plain letters. -/
theorem upper_small : upper (small text) = upper text := by
  have raised (c : Char) : upperChar (smallLetter c) = upperChar c :=
    eq_smallLetter (by decide +kernel) c
  rw [upper, upper, small, List.flatMap_map]
  exact congrArg text.flatMap (funext raised)

end Text
end SqlReview
