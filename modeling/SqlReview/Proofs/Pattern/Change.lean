import SqlReview.Proofs.Pattern.Captures
import SqlReview.Proofs.Pattern.Words

/-!
# Patterns and changed characters

A change of single characters that the classes of a pattern do not notice is not noticed by the
pattern: it covers a run in a changed text just if it covers the run that the change was made to. The
words of a changed text are the words of the text, changed.
-/

namespace SqlReview

namespace Text

theorem lastOr_map
    (change : Char → Char)
    (before : Option Char)
    (run : Text) :
    lastOr (before.map change) (run.map change) = (lastOr before run).map change := by
  rw [lastOr, lastOr, List.getLast?_map]
  cases run.getLast? <;> rfl

/-- Words changed character by character, where the change leaves other characters outside words. -/
theorem words_map
    {change changeFolded : Char → Char}
    (keepsWords : ∀ c, isWord (change c) = isWord c)
    (folds : ∀ c, foldLetter (change c) = changeFolded (foldLetter c))
    (text : Text) :
    words (text.map change) = (words text).map (·.map changeFolded) := by
  have pieces : (text.map change).splitOnP (!isWord ·) =
      (text.splitOnP (!isWord ·)).map (·.map change) := by
    induction text with
    | nil => rfl
    | cons c text inductionHypothesis =>
        rw [List.map_cons, List.splitOnP_cons_eq_if_modifyHead, List.splitOnP_cons_eq_if_modifyHead,
          inductionHypothesis, keepsWords]
        split
        · rfl
        · cases text.splitOnP (!isWord ·) <;> rfl
  rw [words, words, pieces, List.filter_map, List.map_map, List.map_map]
  have nonempty : (fun piece : Text => decide (piece ≠ [])) ∘ (·.map change) =
      fun piece => decide (piece ≠ []) := by
    funext piece
    simp
  rw [nonempty]
  refine List.map_congr_left fun piece _ => ?_
  simp [folds]

end Text

namespace Pattern

variable {change : Char → Char} {pattern : Pattern} {before : Option Char} {run rest : Text}

/-- Whether the classes of a pattern do not notice a change of single characters. -/
def Overlooks (change : Char → Char) : Pattern → Prop
  | .nothing | .textStart => True
  | .one accepts | .many accepts | .notAfter accepts => ∀ c, accepts (change c) = accepts c
  | .seq first second | .alt first second => first.Overlooks change ∧ second.Overlooks change
  | .star body | .group _ body => body.Overlooks change
  | .edge => ∀ c, Text.isWord (change c) = Text.isWord c
  | .textEnd => ∀ c, change c = '\n' ↔ c = '\n'

theorem overlooks_all
    {parts : List Pattern}
    (overlook : ∀ part ∈ parts, part.Overlooks change) :
    (all parts).Overlooks change := by
  induction parts with
  | nil => trivial
  | cons part parts inductionHypothesis =>
      rw [List.forall_mem_cons] at overlook
      exact ⟨overlook.1, inductionHypothesis overlook.2⟩

theorem overlooks_letters
    {word : Text}
    (folds : ∀ letter ∈ word, ∀ c,
      Text.foldLetter (change c) = letter ↔ Text.foldLetter c = letter) :
    (letters word).Overlooks change := by
  refine overlooks_all fun part present => ?_
  obtain ⟨letter, inWord, rfl⟩ := List.mem_map.mp present
  exact fun c => decide_eq_decide.mpr (folds letter inWord c)

/-- The classes have a changed character just if they have the character. -/
theorem admits_change
    (overlooks : pattern.Overlooks change)
    (c : Char) :
    pattern.admits (change c) = pattern.admits c := by
  induction pattern with
  | one accepts | many accepts => exact overlooks c
  | seq first second firstAdmits secondAdmits | alt first second firstAdmits secondAdmits =>
      rw [admits, admits, firstAdmits overlooks.1, secondAdmits overlooks.2]
  | star body bodyAdmits | group _ body bodyAdmits => exact bodyAdmits overlooks
  | nothing | edge | textStart | textEnd | notAfter _ => rfl

theorem Repeats.map_iff
    {step stepToo : Option Char → Text → Text → Prop}
    (steps : ∀ before run rest,
      step (before.map change) (run.map change) (rest.map change) ↔ stepToo before run rest) :
    Repeats step (before.map change) (run.map change) (rest.map change) ↔
      Repeats stepToo before run rest := by
  constructor
  · intro repeated
    generalize beforeEq : before.map change = changedBefore at repeated
    generalize runEq : run.map change = changedRun at repeated
    generalize restEq : rest.map change = changedRest at repeated
    induction repeated generalizing before run with
    | stop =>
        obtain rfl := List.map_eq_nil_iff.mp runEq
        exact .stop _ _
    | more nonempty once repeated inductionHypothesis =>
        obtain ⟨first, others, rfl, rfl, rfl⟩ := List.map_eq_append_iff.mp runEq
        subst beforeEq restEq
        rw [← List.map_append, steps] at once
        exact .more (by simpa using nonempty) once
          (inductionHypothesis (Text.lastOr_map change before first).symm rfl rfl)
  · intro repeated
    induction repeated with
    | stop => exact .stop _ _
    | more nonempty once repeated inductionHypothesis =>
        rw [List.map_append]
        refine .more (by simpa using nonempty) ?_ (by rwa [Text.lastOr_map])
        rw [← List.map_append]
        exact (steps _ _ _).mpr once

/-- What a pattern covers does not depend on a change that its classes do not notice. -/
theorem covers_map_iff
    (overlooks : pattern.Overlooks change) :
    pattern.Covers (before.map change) (run.map change) (rest.map change) ↔
      pattern.Covers before run rest := by
  induction pattern generalizing before run rest with
  | nothing => exact List.map_eq_nil_iff
  | one accepts =>
      constructor
      · rintro ⟨c, equal, accepted⟩
        obtain ⟨d, rfl, rfl⟩ := List.map_eq_singleton_iff.mp equal
        exact ⟨d, rfl, (overlooks d).symm.trans accepted⟩
      · rintro ⟨c, rfl, accepted⟩
        exact ⟨change c, rfl, (overlooks c).trans accepted⟩
  | many accepts =>
      change (∀ c ∈ run.map change, accepts c = true) ↔ ∀ c ∈ run, accepts c = true
      simp only [List.forall_mem_map, overlooks _]
  | seq first second firstIff secondIff =>
      constructor
      · rintro ⟨left, right, equal, isFirst, isSecond⟩
        obtain ⟨left, right, rfl, rfl, rfl⟩ := List.map_eq_append_iff.mp equal
        rw [← List.map_append, firstIff overlooks.1] at isFirst
        rw [Text.lastOr_map, secondIff overlooks.2] at isSecond
        exact ⟨left, right, rfl, isFirst, isSecond⟩
      · rintro ⟨left, right, rfl, isFirst, isSecond⟩
        rw [← firstIff overlooks.1, List.map_append] at isFirst
        rw [← secondIff overlooks.2, ← Text.lastOr_map] at isSecond
        exact ⟨left.map change, right.map change, List.map_append, isFirst, isSecond⟩
  | alt first second firstIff secondIff =>
      exact or_congr (firstIff overlooks.1) (secondIff overlooks.2)
  | star body bodyIff => exact Repeats.map_iff fun _ _ _ => bodyIff overlooks
  | edge =>
      refine and_congr List.map_eq_nil_iff (Eq.congr_left ?_)
      cases before <;> cases rest <;> simp [Place.isWordEdge, show ∀ c, _ from overlooks]
  | textStart => exact and_congr List.map_eq_nil_iff Option.map_eq_none_iff
  | textEnd =>
      refine and_congr List.map_eq_nil_iff (or_congr List.map_eq_nil_iff ?_)
      rw [List.map_eq_singleton_iff]
      constructor
      · rintro ⟨c, rfl, isBreak⟩
        rw [(overlooks c).mp isBreak]
      · rintro rfl
        exact ⟨'\n', rfl, (overlooks '\n').mpr rfl⟩
  | notAfter refuses =>
      refine and_congr List.map_eq_nil_iff (Eq.congr_left ?_)
      cases before with
      | none => rfl
      | some c => exact overlooks c
  | group number body bodyIff => exact bodyIff overlooks

/-- A pattern occurs in a changed text just if it occurs in the text. -/
theorem occursIn_map
    (overlooks : pattern.Overlooks change)
    (text : Text) :
    pattern.occursIn (text.map change) = pattern.occursIn text := by
  have atPlace (lead run rest : Text) :
      pattern.Covers (Text.lastOr none (lead.map change)) (run.map change) (rest.map change) ↔
        pattern.Covers (Text.lastOr none lead) run rest := by
    have start : Text.lastOr none (lead.map change) = (Text.lastOr none lead).map change :=
      Text.lastOr_map change none lead
    rw [start]
    exact covers_map_iff overlooks
  rw [Bool.eq_iff_iff, occursIn_iff, occursIn_iff]
  constructor
  · rintro ⟨lead, run, rest, equal, covered⟩
    obtain ⟨lead, behind, rfl, rfl, equalBehind⟩ := List.map_eq_append_iff.mp equal
    obtain ⟨run, rest, rfl, rfl, rfl⟩ := List.map_eq_append_iff.mp equalBehind
    exact ⟨lead, run, rest, rfl, (atPlace lead run rest).mp covered⟩
  · rintro ⟨lead, run, rest, rfl, covered⟩
    exact ⟨lead.map change, run.map change, rest.map change, by simp,
      (atPlace lead run rest).mpr covered⟩

end Pattern
end SqlReview
