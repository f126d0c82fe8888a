import SqlReview.Proofs.Text.Small

/-!
# Searches and capital letters

A pattern that does not tell plain capital letters from small ones finds the same stretches, records
the same groups, and leaves the same text when occurrences are replaced or cut off, up to the case
of letters. The second part says how patterns that ignore case are put together.
-/

namespace SqlReview

/-! ## Occurrences with small letters -/

namespace Occurrence

variable (occurrence : Occurrence) (number : Nat)

@[simp] theorem stop_small : occurrence.small.stop = occurrence.stop := rfl

@[simp] theorem text_small : occurrence.small.text = occurrence.text.small := rfl

@[simp] theorem group?_small :
    occurrence.small.group? number = (occurrence.group? number).map Capture.small := by
  rw [group?, group?, small, List.find?_map]
  rfl

@[simp] theorem groupText_small :
    occurrence.small.groupText number = (occurrence.groupText number).small := by
  rw [groupText, groupText, group?_small]
  cases occurrence.group? number <;> rfl

end Occurrence

namespace Pattern

/-! ## Searches -/

section Searches

variable {pattern : Pattern} (ignores : pattern.IgnoresCase)

include ignores

theorem search_small
    (text : Text) :
    pattern.search text.small = (pattern.search text).map Occurrence.small :=
  searchFrom_small ignores none 0 text

theorem occurrences_small
    (text : Text) :
    pattern.occurrences text.small = (pattern.occurrences text).map Occurrence.small :=
  occurrencesFrom_small ignores 0 none 0 text

theorem atStart?_small
    (text : Text) :
    pattern.atStart? text.small = (pattern.atStart? text).map Occurrence.small :=
  occurrenceAt?_small ignores (Place.start text)

theorem fitsAt_small
    (place : Place) :
    pattern.fitsAt place.small = pattern.fitsAt place := by
  rw [fitsAt, fitsAt, occurrenceAt?_small ignores, Option.isSome_map]

theorem fitsStart_small
    (text : Text) :
    pattern.fitsStart text.small = pattern.fitsStart text :=
  fitsAt_small ignores (Place.start text)

theorem beforeFirst_small
    (text : Text) :
    pattern.beforeFirst text.small = (pattern.beforeFirst text).small := by
  rw [beforeFirst, beforeFirst, search_small ignores]
  cases pattern.search text with
  | none => rfl
  | some occurrence => exact Text.small_take text occurrence.start

theorem replace_small
    {replacement : Text}
    (plain : replacement.small = replacement)
    (text : Text) :
    pattern.replace replacement text.small = (pattern.replace replacement text).small := by
  have run (skip : Nat) (before : Option Char) (index : Nat) :
      pattern.replaceFrom replacement skip (before.map Text.smallLetter) index text.small =
        (pattern.replaceFrom replacement skip before index text).small := by
    induction text generalizing skip before index with
    | nil => rfl
    | cons c text inductionHypothesis =>
        rw [Text.small_cons]
        cases skip with
        | succ skip => exact inductionHypothesis skip (some c) (index + 1)
        | zero =>
            have here := occurrenceAt?_small ignores ⟨before, index, c :: text⟩
            change pattern.occurrenceAt? ⟨_, index, Text.smallLetter c :: Text.small text⟩ = _
              at here
            have behind (skip : Nat) := inductionHypothesis skip (some c) (index + 1)
            rw [Option.map_some] at behind
            rw [replaceFrom, replaceFrom, here]
            cases pattern.occurrenceAt? ⟨before, index, c :: text⟩ with
            | none => exact congrArg _ (behind 0)
            | some occurrence =>
                simp only [Option.map_some]
                change (if 0 < occurrence.length then _ else _) = _
                split
                · rw [Text.small_append, plain]
                  exact congrArg _ (behind _)
                · exact congrArg _ (behind 0)
  exact run 0 none 0

end Searches

theorem place_within_small
    (text : Text)
    (index : Nat) :
    Place.within text.small index = (Place.within text index).small := by
  simp only [Place.within, Place.small, Text.small, ← List.map_take, ← List.map_drop,
    List.getLast?_map]

/-! ## Patterns put together -/

section Composition

variable {first second pattern : Pattern} {others parts : List Pattern} {number : Nat}

@[simp] theorem ignoresCase_nothing : IgnoresCase .nothing := trivial

@[simp] theorem ignoresCase_edge : IgnoresCase .edge := trivial

@[simp] theorem ignoresCase_textStart : IgnoresCase .textStart := trivial

@[simp] theorem ignoresCase_textEnd : IgnoresCase .textEnd := trivial

@[simp] theorem ignoresCase_seq :
    IgnoresCase (.seq first second) ↔ first.IgnoresCase ∧ second.IgnoresCase := Iff.rfl

@[simp] theorem ignoresCase_alt :
    IgnoresCase (.alt first second) ↔ first.IgnoresCase ∧ second.IgnoresCase := Iff.rfl

@[simp] theorem ignoresCase_star : IgnoresCase (.star pattern) ↔ pattern.IgnoresCase := Iff.rfl

@[simp] theorem ignoresCase_group :
    IgnoresCase (.group number pattern) ↔ pattern.IgnoresCase := Iff.rfl

@[simp] theorem ignoresCase_optional :
    IgnoresCase (.optional pattern) ↔ pattern.IgnoresCase :=
  iff_of_eq (and_true _)

@[simp] theorem ignoresCase_all_iff :
    (all parts).IgnoresCase ↔ ∀ part ∈ parts, part.IgnoresCase := by
  refine ⟨fun ignores => ?_, ignoresCase_all⟩
  induction parts with
  | nil => simp
  | cons part parts inductionHypothesis =>
      exact List.forall_mem_cons.mpr ⟨ignores.1, inductionHypothesis ignores.2⟩

@[simp] theorem ignoresCase_any
    {parts : List Pattern} :
    (any parts).IgnoresCase ↔ ∀ part ∈ parts, part.IgnoresCase := by
  match parts with
  | [] => simp [any]
  | [last] => simp [any]
  | first :: second :: others =>
      change first.IgnoresCase ∧ (any (second :: others)).IgnoresCase ↔ _
      rw [ignoresCase_any, List.forall_mem_cons (l := second :: others)]

@[simp] theorem ignoresCase_one
    {accepts : Char → Bool} :
    IgnoresCase (.one accepts) ↔ ∀ c, accepts (Text.smallLetter c) = accepts c := Iff.rfl

@[simp] theorem ignoresCase_many
    {accepts : Char → Bool} :
    IgnoresCase (.many accepts) ↔ ∀ c, accepts (Text.smallLetter c) = accepts c := Iff.rfl

@[simp] theorem ignoresCase_notAfter
    {accepts : Char → Bool} :
    IgnoresCase (.notAfter accepts) ↔ ∀ c, accepts (Text.smallLetter c) = accepts c := Iff.rfl

@[simp] theorem ignoresCase_letter
    (c : Char) :
    IgnoresCase (.letter c) :=
  (ignoresCase_letters [c]).1

attribute [simp] ignoresCase_letters ignoresCase_blanks ignoresCase_someBlanks ignoresCase_word

/-- A character that is no letter. -/
@[simp] theorem ignoresCase_char
    {c : Char}
    (noLetter : c.isAlpha = false) :
    (char c).IgnoresCase := by
  intro d
  exact decide_eq_decide.mpr (Text.smallLetter_eq_iff noLetter)

end Composition

end Pattern
end SqlReview
