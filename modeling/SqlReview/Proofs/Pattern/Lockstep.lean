import Mathlib.Data.List.Forall2
import SqlReview.Proofs.Pattern.Captures

/-!
# Texts that look the same up to a character

Two texts may look the same up to a character that a pattern does not take. Then the pattern cannot tell
them apart: it fits in both in the same ways, in the same order, with the same groups recorded. What it
leaves of the one text looks like what it leaves of the other.
-/

namespace SqlReview

/-- Whether related texts look the same up to a character, with something of the same length behind
it. -/
structure LooksSame
    (mark : Char)
    (related : Text → Text → Prop) : Prop where
  /-- The next character is the same. -/
  head? : ∀ {text other}, related text other → text.head? = other.head?
  /-- Behind another character than the one given, the texts are related again. -/
  tail : ∀ {c text other}, related (c :: text) (c :: other) → c ≠ mark → related text other
  /-- Equally many characters are left. -/
  length : ∀ {text other}, related text other → text.length = other.length

/-- Whether two attempts have come equally far, in texts that are related from there on. -/
structure Progress.InStep
    (related : Text → Text → Prop)
    (progress other : Progress) : Prop where
  /-- The characters before the places. -/
  before : progress.place.before = other.place.before
  /-- The offsets of the places. -/
  index : progress.place.index = other.place.index
  /-- The texts behind the places. -/
  rest : related progress.place.rest other.place.rest
  /-- The groups seen. -/
  captures : progress.captures = other.captures

namespace LooksSame

variable {mark : Char} {related : Text → Text → Prop}

/-- A run without the character is a run of the other text as well. -/
theorem exists_append
    (same : LooksSame mark related)
    {run rest other : Text}
    (noMark : mark ∉ run)
    (texts : related (run ++ rest) other) :
    ∃ otherRest, other = run ++ otherRest ∧ related rest otherRest := by
  induction run generalizing other with
  | nil => exact ⟨other, rfl, texts⟩
  | cons c run inductionHypothesis =>
      rw [List.mem_cons, not_or] at noMark
      cases other with
      | nil => exact absurd (same.head? texts) (by simp)
      | cons d other =>
          obtain rfl : c = d := by simpa using same.head? texts
          obtain ⟨otherRest, rfl, behind⟩ :=
            inductionHypothesis noMark.2 (same.tail texts (Ne.symm noMark.1))
          exact ⟨otherRest, rfl, behind⟩

theorem isEnd_eq
    (same : LooksSame mark related)
    {place other : Place}
    (texts : related place.rest other.rest) :
    place.isEnd = other.isEnd := by
  have head := same.head? texts
  have length := same.length texts
  rw [Place.isEnd, Place.isEnd]
  generalize place.rest = text at *
  generalize other.rest = otherText at *
  rcases text with _ | ⟨c, _ | ⟨_, _⟩⟩ <;> rcases otherText with _ | ⟨d, _ | ⟨_, _⟩⟩ <;> simp_all

end LooksSame

namespace Pattern

variable {mark : Char} {related : Text → Text → Prop} {pattern first second body : Pattern}

/-- Whether a pattern fits in the same ways in related texts. -/
def StaysInStep
    (related : Text → Text → Prop)
    (pattern : Pattern) : Prop :=
  ∀ progress other, progress.InStep related other →
    List.Forall₂ (Progress.InStep related) (pattern.outcomes progress) (pattern.outcomes other)

/-! ## Composition -/

theorem StaysInStep.seq
    (stays : first.StaysInStep related)
    (secondStays : second.StaysInStep related) :
    (first.seq second).StaysInStep related :=
  fun progress other inStep =>
    List.rel_flatMap (stays progress other inStep) fun _ _ here => secondStays _ _ here

theorem StaysInStep.alt
    (stays : first.StaysInStep related)
    (secondStays : second.StaysInStep related) :
    (first.alt second).StaysInStep related :=
  fun progress other inStep =>
    List.rel_append (stays progress other inStep) (secondStays progress other inStep)

theorem forall₂_repeatOutcomes
    {step : Progress → List Progress}
    (stays : ∀ progress other, progress.InStep related other →
      List.Forall₂ (Progress.InStep related) (step progress) (step other))
    (times : Nat)
    {progress other : Progress}
    (inStep : progress.InStep related other) :
    List.Forall₂ (Progress.InStep related) (repeatOutcomes step times progress)
      (repeatOutcomes step times other) := by
  induction times generalizing progress other with
  | zero => exact .cons inStep .nil
  | succ times inductionHypothesis =>
      refine List.rel_append ?_ (.cons inStep .nil)
      refine List.rel_flatMap (stays progress other inStep) fun later otherLater here => ?_
      rw [inStep.index, here.index]
      split
      · exact inductionHypothesis here
      · exact .nil

/-! ## Patterns that do not take the character -/

theorem forall₂_runsOnto
    (same : LooksSame mark related)
    {accepts : Char → Bool}
    (refuses : accepts mark = false)
    {text other : Text}
    (texts : related text other)
    (captures : List Capture)
    (before : Option Char)
    (index : Nat)
    {outcomes others : List Progress}
    (inStep : List.Forall₂ (Progress.InStep related) outcomes others) :
    List.Forall₂ (Progress.InStep related)
      (Progress.runsOnto accepts captures before index text outcomes)
      (Progress.runsOnto accepts captures before index other others) := by
  induction text generalizing before index other outcomes others with
  | nil =>
      obtain rfl := List.length_eq_zero_iff.mp (same.length texts).symm
      exact .cons ⟨rfl, rfl, texts, rfl⟩ inStep
  | cons c text inductionHypothesis =>
      cases other with
      | nil => exact absurd (same.length texts) (by simp)
      | cons d other =>
          obtain rfl : c = d := by simpa using same.head? texts
          have here : Progress.InStep related ⟨⟨before, index, c :: text⟩, captures⟩
              ⟨⟨before, index, c :: other⟩, captures⟩ :=
            ⟨rfl, rfl, texts, rfl⟩
          rw [Progress.runsOnto, Progress.runsOnto]
          split
          next accepted =>
              refine inductionHypothesis (same.tail texts ?_) _ _ (.cons here inStep)
              rintro rfl
              rw [refuses] at accepted
              exact absurd accepted Bool.false_ne_true
          · exact .cons here inStep

/-- A pattern fits in the same ways in texts that look the same up to a character that it does not
take. -/
theorem staysInStep
    (same : LooksSame mark related)
    (refuses : pattern.admits mark = false) :
    pattern.StaysInStep related := by
  induction pattern with
  | nothing => exact fun _ _ inStep => .cons inStep .nil
  | one accepts =>
      rintro ⟨⟨before, index, text⟩, captures⟩ ⟨⟨_, _, other⟩, _⟩ ⟨rfl, rfl, texts, rfl⟩
      cases text with
      | nil =>
          obtain rfl : other = [] := List.length_eq_zero_iff.mp (same.length texts).symm
          exact .nil
      | cons c text =>
          cases other with
          | nil => exact absurd (same.length texts) (by simp)
          | cons d other =>
              obtain rfl : c = d := by simpa using same.head? texts
              simp only [outcomes, Progress.next?]
              split
              next accepted =>
                  have noMark : c ≠ mark := by
                    rintro rfl
                    exact absurd (accepted.symm.trans refuses) (by decide)
                  exact .cons ⟨rfl, rfl, same.tail texts noMark, rfl⟩ .nil
              · exact .nil
  | many accepts =>
      rintro ⟨⟨before, index, text⟩, captures⟩ ⟨⟨_, _, other⟩, _⟩ ⟨rfl, rfl, texts, rfl⟩
      exact forall₂_runsOnto same refuses texts captures before index .nil
  | seq first second stays secondStays =>
      rw [admits, Bool.or_eq_false_iff] at refuses
      exact (stays refuses.1).seq (secondStays refuses.2)
  | alt first second stays secondStays =>
      rw [admits, Bool.or_eq_false_iff] at refuses
      exact (stays refuses.1).alt (secondStays refuses.2)
  | star body stays =>
      intro progress other inStep
      rw [outcomes, outcomes, same.length inStep.rest]
      exact forall₂_repeatOutcomes (stays refuses) _ inStep
  | edge =>
      intro progress other inStep
      have isWordEdge : progress.place.isWordEdge = other.place.isWordEdge := by
        rw [Place.isWordEdge, Place.isWordEdge, inStep.before, same.head? inStep.rest]
      rw [outcomes, outcomes, isWordEdge]
      split
      · exact .cons inStep .nil
      · exact .nil
  | textStart =>
      intro progress other inStep
      rw [outcomes, outcomes, inStep.before]
      split
      · exact .cons inStep .nil
      · exact .nil
  | textEnd =>
      intro progress other inStep
      rw [outcomes, outcomes, same.isEnd_eq inStep.rest]
      split
      · exact .cons inStep .nil
      · exact .nil
  | notAfter refuses =>
      intro progress other inStep
      rw [outcomes, outcomes, inStep.before]
      split
      · exact .nil
      · exact .cons inStep .nil
  | group number body stays =>
      intro progress other inStep
      have inBody := stays refuses progress other inStep
      have covered : ∀ reached ∈ body.outcomes progress, ∃ run rest,
          progress.place.rest = run ++ rest ∧ mark ∉ run ∧
            reached.place.index = progress.place.index + run.length := by
        intro reached present
        obtain ⟨run, rest, text, place, isBody⟩ := covers_of_mem_outcomes present
        refine ⟨run, rest, text, fun isMark => ?_, by rw [place]; rfl⟩
        exact absurd ((isBody.admits mark isMark).symm.trans refuses) (by decide)
      rw [outcomes, outcomes, List.forall₂_map_left_iff, List.forall₂_map_right_iff]
      refine ((List.forall₂_and_left _ _).mpr ⟨covered, inBody⟩).imp ?_
      rintro reached otherReached ⟨⟨run, rest, text, noMark, stop⟩, here⟩
      have texts := inStep.rest
      rw [text] at texts
      obtain ⟨otherRest, otherText, -⟩ := same.exists_append noMark texts
      refine ⟨here.before, here.index, here.rest, ?_⟩
      rw [Progress.record, Progress.record, ← here.index, ← inStep.index, stop, here.captures, text,
        otherText]
      simp

/-! ## Occurrences -/

/-- Whether two occurrences have the same place in their texts and the same groups, with related texts
behind them. The texts start at a given offset. -/
structure FoundInStep
    (related : Text → Text → Prop)
    (index : Nat)
    (text other : Text)
    (found otherFound : Occurrence) : Prop where
  /-- Where they start. -/
  start : found.start = otherFound.start
  /-- Where they end. -/
  stop : found.stop = otherFound.stop
  /-- What they record. -/
  captures : found.captures = otherFound.captures
  /-- What stands behind them. -/
  rest : ∃ count, found.stop = index + count ∧ related (text.drop count) (other.drop count)

/-- Occurrences behind beginnings of the same length. -/
theorem FoundInStep.behind
    {index : Nat}
    {run otherRun text other : Text}
    {found otherFound : Occurrence}
    (inStep : FoundInStep related (index + run.length) text other found otherFound)
    (sameLength : run.length = otherRun.length) :
    FoundInStep related index (run ++ text) (otherRun ++ other) found otherFound := by
  obtain ⟨start, stop, captures, count, stopEq, behind⟩ := inStep
  refine ⟨start, stop, captures, run.length + count, stopEq.trans (Nat.add_assoc _ _ _), ?_⟩
  rw [List.drop_length_add_append, sameLength, List.drop_length_add_append]
  exact behind

theorem FoundInStep.group?_eq
    {index : Nat}
    {text other : Text}
    {found otherFound : Occurrence}
    (inStep : FoundInStep related index text other found otherFound)
    (number : Nat) :
    found.group? number = otherFound.group? number := by
  rw [Occurrence.group?, Occurrence.group?, inStep.captures]

theorem FoundInStep.groupText_eq
    {index : Nat}
    {text other : Text}
    {found otherFound : Occurrence}
    (inStep : FoundInStep related index text other found otherFound)
    (number : Nat) :
    found.groupText number = otherFound.groupText number := by
  rw [Occurrence.groupText, Occurrence.groupText, inStep.group?_eq]

/-- In related texts the same is found or nothing in both. -/
theorem StaysInStep.occurrenceAt?
    (stays : pattern.StaysInStep related)
    (before : Option Char)
    (index : Nat)
    {text other : Text}
    (texts : related text other) :
    (pattern.occurrenceAt? ⟨before, index, text⟩ = none ∧
        pattern.occurrenceAt? ⟨before, index, other⟩ = none) ∨
      ∃ run rest otherRun otherRest found otherFound,
        text = run ++ rest ∧ other = otherRun ++ otherRest ∧ run.length = otherRun.length ∧
          Text.lastOr before run = Text.lastOr before otherRun ∧ related rest otherRest ∧
          pattern.occurrenceAt? ⟨before, index, text⟩ = some found ∧
          pattern.occurrenceAt? ⟨before, index, other⟩ = some otherFound ∧
          found.length = run.length ∧ otherFound.length = otherRun.length ∧
          FoundInStep related index text other found otherFound := by
  have inStep := stays ⟨⟨before, index, text⟩, []⟩ ⟨⟨before, index, other⟩, []⟩
    ⟨rfl, rfl, texts, rfl⟩
  rw [occurrenceAt?_eq_head?, occurrenceAt?_eq_head?]
  cases reached : pattern.outcomes ⟨⟨before, index, text⟩, []⟩ with
  | nil =>
      rw [reached, List.forall₂_nil_left_iff] at inStep
      rw [inStep]
      exact .inl ⟨rfl, rfl⟩
  | cons first others =>
      obtain ⟨otherFirst, otherOthers, here, -, otherReached⟩ :=
        List.forall₂_cons_left_iff.mp (reached ▸ inStep)
      obtain ⟨run, rest, equal, place, -⟩ := covers_of_mem_outcomes (reached ▸ List.mem_cons_self)
      obtain ⟨otherRun, otherRest, otherEqual, otherPlace, -⟩ :=
        covers_of_mem_outcomes (otherReached ▸ List.mem_cons_self)
      obtain ⟨sameBefore, sameIndex, behind, sameCaptures⟩ := here
      rw [place, otherPlace] at sameBefore sameIndex behind
      have sameLength : run.length = otherRun.length := Nat.add_left_cancel sameIndex
      change text = run ++ rest at equal
      change other = otherRun ++ otherRest at otherEqual
      subst equal otherEqual
      have stop : first.place.index = index + run.length := by
        rw [place]
        rfl
      have otherStop : otherFirst.place.index = index + otherRun.length := by
        rw [otherPlace]
        rfl
      rw [otherReached]
      refine .inr ⟨run, rest, otherRun, otherRest, _, _, rfl, rfl, sameLength, sameBefore, behind, rfl,
        rfl, ?_, ?_, rfl, ?_, sameCaptures, run.length, stop, ?_⟩
      · rw [Occurrence.length, occurrenceOf, stop, Nat.add_sub_cancel_left]
      · rw [Occurrence.length, occurrenceOf, otherStop, Nat.add_sub_cancel_left]
      · rw [occurrenceOf, occurrenceOf, stop, otherStop, sameLength]
      · rw [List.drop_left, sameLength, List.drop_left]
        exact behind

end Pattern
end SqlReview
