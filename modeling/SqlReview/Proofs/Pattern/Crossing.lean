import SqlReview.Proofs.Pattern.Sides

/-!
# Occurrences across a border

What a pattern covers may reach over a border in the text. The part in front of the border is then
covered by another pattern, read off the first one: all that it can take until a given character is
next. Where that pattern does not fit up to the border, nothing reaches over it, and each side can be
searched alone.
-/

namespace SqlReview
namespace Pattern

variable {pattern : Pattern} {before : Option Char} {c : Char} {run others rest : Text}

/-- A pattern that fits nowhere. -/
def never : Pattern :=
  .one fun _ => false

/-- What a pattern might have taken when it goes on with a given character. -/
def upTo (c : Char) : Pattern → Pattern
  | .one accepts => if accepts c then .nothing else never
  | .many accepts => if accepts c then .many accepts else never
  | .seq first second => .alt (upTo c first) (.seq first (upTo c second))
  | .alt first second => .alt (upTo c first) (upTo c second)
  | .star body => .seq (.star body) (upTo c body)
  | .group _ body => upTo c body
  | .nothing | .edge | .textStart | .textEnd | .notAfter _ => never

theorem isLocal_upTo
    (isLocal : pattern.isLocal = true) :
    (pattern.upTo c).isLocal = true := by
  induction pattern with
  | one accepts => cases taken : accepts c <;> simp [upTo, taken, never, Pattern.isLocal]
  | many accepts => cases taken : accepts c <;> simp [upTo, taken, never, Pattern.isLocal]
  | seq first second firstLocal secondLocal =>
      rw [Pattern.isLocal, Bool.and_eq_true] at isLocal
      simp [upTo, Pattern.isLocal, isLocal.1, firstLocal isLocal.1, secondLocal isLocal.2]
  | alt first second firstLocal secondLocal =>
      rw [Pattern.isLocal, Bool.and_eq_true] at isLocal
      simp [upTo, Pattern.isLocal, firstLocal isLocal.1, secondLocal isLocal.2]
  | star body bodyLocal =>
      have bodyIsLocal : body.isLocal = true := isLocal
      simp [upTo, Pattern.isLocal, bodyIsLocal, bodyLocal bodyIsLocal]
  | group number body bodyLocal => exact bodyLocal isLocal
  | nothing | edge | textStart | textEnd | notAfter _ => rfl

/-- What stands in front of a character in a covered run is covered up to this character. -/
theorem Covers.upTo
    (covered : pattern.Covers before (run ++ c :: others) rest) :
    (pattern.upTo c).Covers before run (c :: others ++ rest) := by
  induction pattern generalizing before run others rest with
  | one accepts =>
      obtain ⟨d, equal, accepted⟩ := covered
      obtain ⟨rfl, rfl, rfl⟩ : run = [] ∧ c = d ∧ others = [] := by
        cases run with
        | nil => simpa using equal
        | cons e run => simp at equal
      rw [Pattern.upTo, if_pos accepted]
      rfl
  | many accepts =>
      rw [Pattern.upTo, if_pos (covered c (by simp))]
      exact fun d present => covered d (List.mem_append_left _ present)
  | seq first second firstUpTo secondUpTo =>
      obtain ⟨left, right, equal, isFirst, isSecond⟩ := covered
      rcases Text.part_cases equal with ⟨more, rfl, rfl⟩ | ⟨more, rfl, rfl⟩
      · exact .inl (by simpa using firstUpTo isFirst)
      · exact .inr ⟨left, more, rfl, by simpa using isFirst, secondUpTo isSecond⟩
  | alt first second firstUpTo secondUpTo => exact covered.imp firstUpTo secondUpTo
  | star body bodyUpTo =>
      change Repeats body.Covers before (run ++ c :: others) rest at covered
      generalize whole : run ++ c :: others = text at covered
      induction covered generalizing run with
      | stop => exact absurd whole (by simp)
      | @more before first behind rest nonempty once repeated inductionHypothesis =>
          rcases Text.part_cases whole with ⟨more, rfl, rfl⟩ | ⟨more, rfl, rfl⟩
          · exact ⟨[], run, rfl, .stop _ _, by simpa using bodyUpTo once⟩
          · obtain ⟨left, right, rfl, isStar, isBody⟩ := inductionHypothesis rfl
            rw [← Text.lastOr_append] at isBody
            refine ⟨first ++ left, right, by simp, .more nonempty ?_ isStar, isBody⟩
            simpa using once
  | group number body bodyUpTo => exact bodyUpTo covered
  | nothing => exact absurd (show run ++ c :: others = [] from covered) (by simp)
  | edge | textStart | textEnd | notAfter _ => exact absurd covered.1 (by simp)

/-- Whether a pattern might start in a text and go on behind it with a given character. -/
def leavesOpen (pattern : Pattern) (c : Char) (text : Text) : Bool :=
  ((pattern.upTo c).seq .textEnd).occursIn text

/-- A text can be cut at a character with which nothing goes on. -/
theorem occursIn_append_cons_of_leavesOpen
    (isLocal : pattern.isLocal = true)
    (outside : Text.isWord c = false)
    {front : Text}
    (closed : pattern.leavesOpen c front = false)
    (back : Text) :
    pattern.occursIn (front ++ c :: back) = (pattern.occursIn front || pattern.occursIn back) := by
  refine occursIn_append_cons_of_clear isLocal outside ?_
  rintro lead run others rest rfl rfl covered
  have isOpen : pattern.leavesOpen c (lead ++ run) = true := by
    have inFront : (pattern.upTo c).Covers (Text.lastOr none lead) run [] :=
      covered.upTo.of_sides (isLocal_upTo isLocal) rfl outside
    exact occursIn_iff.mpr ⟨lead, run, [], by simp, run, [], by simp, by simpa using inFront, rfl,
      .inl rfl⟩
  rw [isOpen] at closed
  contradiction

end Pattern
end SqlReview
