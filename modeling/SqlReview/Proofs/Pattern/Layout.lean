import SqlReview.Proofs.Text.Layout

/-!
# Patterns and layout

A pattern that asks for white space only in front of something else fits texts of one layout alike:
whatever it covers in one text has a counterpart in the other. Main statement: such a pattern occurs
in both texts or in none.
-/

namespace SqlReview
namespace Pattern

open Text

/-- Whether what a pattern covers has a counterpart in every text of the same layout. -/
def IgnoresLayout (pattern : Pattern) : Prop :=
  ∀ ⦃before beforeToo : Option Char⦄ ⦃run rest other : Text⦄, pattern.Covers before run rest →
    before.any isWord = beforeToo.any isWord → SameBehind (run ++ rest) other →
    ∃ runToo restToo, other = runToo ++ restToo ∧ pattern.Covers beforeToo runToo restToo ∧
      (lastOr before run).any isWord = (lastOr beforeToo runToo).any isWord ∧
      SameBehind rest restToo

/-- Whether all that a pattern covers starts with a character of the query. -/
def StartsSolid (pattern : Pattern) : Prop :=
  ∀ ⦃before : Option Char⦄ ⦃run rest : Text⦄, pattern.Covers before run rest →
    ∃ c more, run = c :: more ∧ isTerminator c = false

variable {first second pattern : Pattern} {accepts : Char → Bool} {word text other : Text}

/-! ## Where patterns start -/

theorem startsSolid_one (solid : ∀ c, accepts c = true → isTerminator c = false) :
    StartsSolid (.one accepts) := by
  rintro before run rest ⟨c, rfl, accepted⟩
  exact ⟨c, [], rfl, solid c accepted⟩

theorem startsSolid_char
    {c : Char}
    (solid : isTerminator c = false) :
    StartsSolid (.char c) :=
  startsSolid_one fun _ same => of_decide_eq_true same ▸ solid

theorem StartsSolid.seq (starts : first.StartsSolid) : StartsSolid (.seq first second) := by
  rintro before run rest ⟨left, right, rfl, covered, -⟩
  obtain ⟨c, more, rfl, solid⟩ := starts covered
  exact ⟨c, more ++ right, rfl, solid⟩

theorem StartsSolid.alt
    (starts : first.StartsSolid)
    (startsToo : second.StartsSolid) :
    StartsSolid (.alt first second) := by
  rintro before run rest (covered | covered)
  · exact starts covered
  · exact startsToo covered

theorem StartsSolid.behind_edge (starts : pattern.StartsSolid) :
    StartsSolid (.seq .edge pattern) := by
  rintro before run rest ⟨left, right, rfl, ⟨rfl, -⟩, covered⟩
  exact starts covered

theorem StartsSolid.behind_nothing (starts : pattern.StartsSolid) :
    StartsSolid (.seq .nothing pattern) := by
  rintro before run rest ⟨left, right, rfl, rfl, covered⟩
  exact starts covered

theorem StartsSolid.behind_optional
    (starts : first.StartsSolid)
    (startsToo : pattern.StartsSolid) :
    StartsSolid (.seq (.optional first) pattern) := by
  rintro before run rest ⟨left, right, rfl, covered | rfl, behind⟩
  · obtain ⟨c, more, rfl, solid⟩ := starts covered
    exact ⟨c, more ++ right, rfl, solid⟩
  · exact startsToo behind

/-- A small letter is no form of white space, nor of a semicolon. -/
theorem isTerminator_of_foldLetter
    {c d : Char}
    (solid : isTerminator d = false)
    (folds : foldLetter c = d) :
    isTerminator c = false := by
  rw [Bool.eq_false_iff]
  intro terminator
  have same : foldLetter c = c := by
    apply forall_isTerminator _ c terminator
    decide +kernel
  rw [same] at folds
  rw [← folds, terminator] at solid
  contradiction

theorem startsSolid_letter
    {c : Char}
    (solid : isTerminator c = false) :
    StartsSolid (.letter c) :=
  startsSolid_one fun _ folds => isTerminator_of_foldLetter solid (of_decide_eq_true folds)

theorem startsSolid_letters
    {c : Char}
    (solid : isTerminator c = false) :
    StartsSolid (.letters (c :: word)) :=
  (startsSolid_letter solid).seq

/-! ## Patterns that ignore layout -/

theorem ignoresLayout_nothing : IgnoresLayout .nothing := by
  rintro before beforeToo run rest other rfl edges same
  exact ⟨[], other, rfl, rfl, edges, same⟩

theorem ignoresLayout_one (solid : ∀ c, accepts c = true → isTerminator c = false) :
    IgnoresLayout (.one accepts) := by
  rintro before beforeToo run rest other ⟨c, rfl, accepted⟩ edges same
  obtain ⟨others, rfl, behind⟩ := same.cons_inv (solid c accepted)
  exact ⟨[c], others, rfl, ⟨c, rfl, accepted⟩, rfl, behind⟩

theorem ignoresLayout_char
    (c : Char)
    (solid : isTerminator c = false) :
    IgnoresLayout (.char c) :=
  ignoresLayout_one fun _ same => of_decide_eq_true same ▸ solid

theorem ignoresLayout_edge : IgnoresLayout .edge := by
  rintro before beforeToo run rest other ⟨rfl, isEdge⟩ edges same
  refine ⟨[], other, rfl, ⟨rfl, ?_⟩, edges, same⟩
  rw [Place.isWordEdge] at isEdge ⊢
  rw [← edges, ← same.isWord_head?]
  exact isEdge

theorem IgnoresLayout.seq
    (ignores : first.IgnoresLayout)
    (ignoresToo : second.IgnoresLayout) :
    IgnoresLayout (.seq first second) := by
  rintro before beforeToo run rest other ⟨left, right, rfl, covered, coveredToo⟩ edges same
  rw [List.append_assoc] at same
  obtain ⟨leftToo, restToo, rfl, coveredLeft, edgesLeft, behind⟩ := ignores covered edges same
  obtain ⟨rightToo, restToo, rfl, coveredRight, edgesRight, behind⟩ :=
    ignoresToo coveredToo edgesLeft behind
  refine ⟨leftToo ++ rightToo, restToo, by simp, ⟨leftToo, rightToo, rfl, coveredLeft,
    coveredRight⟩, ?_, behind⟩
  rw [lastOr_append, lastOr_append, edgesRight]

theorem IgnoresLayout.alt
    (ignores : first.IgnoresLayout)
    (ignoresToo : second.IgnoresLayout) :
    IgnoresLayout (.alt first second) := by
  rintro before beforeToo run rest other (covered | covered) edges same
  · obtain ⟨runToo, restToo, rfl, coveredToo, found⟩ := ignores covered edges same
    exact ⟨runToo, restToo, rfl, .inl coveredToo, found⟩
  · obtain ⟨runToo, restToo, rfl, coveredToo, found⟩ := ignoresToo covered edges same
    exact ⟨runToo, restToo, rfl, .inr coveredToo, found⟩

/-- White space in front of a pattern: how much there is does not matter, but whether there is. -/
theorem IgnoresLayout.behind_white
    {white : Pattern}
    (ignores : pattern.IgnoresLayout)
    (starts : pattern.StartsSolid)
    (areBlank : ∀ before run rest, white.Covers before run rest → ∀ c ∈ run, isBlank c = true)
    (anyBlanks : ∀ before beforeToo run runToo rest restToo, white.Covers before run rest →
      (∀ c ∈ runToo, isBlank c = true) → (runToo = [] ↔ run = []) →
        white.Covers beforeToo runToo restToo) :
    IgnoresLayout (.seq white pattern) := by
  rintro before beforeToo run rest other ⟨left, right, rfl, covered, coveredToo⟩ edges same
  have leftBlank := areBlank _ _ _ covered
  obtain ⟨c, more, rfl, solid⟩ := starts coveredToo
  rw [List.append_assoc, List.cons_append] at same
  obtain ⟨leftToo, others, rfl, leftTooBlank, empty, behind⟩ := same.blanks_inv leftBlank solid
  have edgesLeft : (lastOr before left).any isWord = (lastOr beforeToo leftToo).any isWord := by
    by_cases none : left = []
    · rw [none, empty.mpr none]
      exact edges
    · rw [(isWord_of_blanks none leftBlank).1,
        (isWord_of_blanks (fun none' => none (empty.mp none')) leftTooBlank).1]
  obtain ⟨rightToo, restToo, rightEq, coveredRight, edgesRight, behind⟩ :=
    ignores coveredToo edgesLeft (.char c behind)
  refine ⟨leftToo ++ rightToo, restToo, by rw [rightEq, List.append_assoc], ⟨leftToo, rightToo, rfl,
    anyBlanks _ _ _ _ _ _ covered leftTooBlank empty, coveredRight⟩, ?_, behind⟩
  rw [lastOr_append, lastOr_append, edgesRight]

theorem IgnoresLayout.behind_blanks
    (ignores : pattern.IgnoresLayout)
    (starts : pattern.StartsSolid) :
    IgnoresLayout (.seq .blanks pattern) := by
  refine ignores.behind_white starts ?_ ?_
  · intro _ _ _ covered
    exact covered
  · intro _ _ _ _ _ _ _ areBlank _
    exact areBlank

theorem IgnoresLayout.behind_someBlanks
    (ignores : pattern.IgnoresLayout)
    (starts : pattern.StartsSolid) :
    IgnoresLayout (.seq .someBlanks pattern) := by
  refine ignores.behind_white starts (fun _ _ _ covered => (covers_someBlanks.mp covered).2) ?_
  intro _ _ _ _ _ _ covered areBlank empty
  exact covers_someBlanks.mpr ⟨mt empty.mp (covers_someBlanks.mp covered).1, areBlank⟩

/-- Parts of a sequence may be taken together in either way. -/
theorem covers_seq_seq
    {before : Option Char}
    {run rest : Text} :
    (Pattern.seq (.seq first second) pattern).Covers before run rest ↔
      (Pattern.seq first (.seq second pattern)).Covers before run rest := by
  constructor
  · rintro ⟨_, right, rfl, ⟨left, middle, rfl, covered, coveredMiddle⟩, behind⟩
    rw [lastOr_append] at behind
    exact ⟨left, middle ++ right, by simp, by simpa using covered, middle, right, rfl,
      coveredMiddle, behind⟩
  · rintro ⟨left, _, rfl, covered, middle, right, rfl, coveredMiddle, behind⟩
    rw [← lastOr_append] at behind
    exact ⟨left ++ middle, right, by simp, ⟨left, middle, rfl, by simpa using covered,
      coveredMiddle⟩, behind⟩

theorem IgnoresLayout.seq_seq
    (ignores : IgnoresLayout (.seq first (.seq second pattern))) :
    IgnoresLayout (.seq (.seq first second) pattern) := by
  intro before beforeToo run rest other covered edges same
  obtain ⟨runToo, restToo, rfl, coveredToo, found⟩ :=
    ignores (covers_seq_seq.mp covered) edges same
  exact ⟨runToo, restToo, rfl, covers_seq_seq.mpr coveredToo, found⟩

theorem IgnoresLayout.behind_nothing
    (ignores : pattern.IgnoresLayout) :
    IgnoresLayout (.seq .nothing pattern) :=
  ignoresLayout_nothing.seq ignores

/-- A pattern behind something that may be missing: both ways must ignore layout. -/
theorem IgnoresLayout.behind_optional
    (ignores : IgnoresLayout (.seq first pattern))
    (ignoresToo : pattern.IgnoresLayout) :
    IgnoresLayout (.seq (.optional first) pattern) := by
  rintro before beforeToo run rest other ⟨left, right, rfl, covered | rfl, behind⟩ edges same
  · obtain ⟨runToo, restToo, rfl, ⟨leftToo, rightToo, rfl, coveredToo, behindToo⟩, found⟩ :=
      ignores ⟨left, right, rfl, covered, behind⟩ edges same
    exact ⟨leftToo ++ rightToo, restToo, rfl, ⟨leftToo, rightToo, rfl, .inl coveredToo, behindToo⟩,
      found⟩
  · obtain ⟨runToo, restToo, rfl, coveredToo, found⟩ := ignoresToo behind edges same
    exact ⟨runToo, restToo, rfl, ⟨[], runToo, rfl, .inr rfl, coveredToo⟩, found⟩

theorem ignoresLayout_letter
    {c : Char}
    (solid : isTerminator c = false) :
    IgnoresLayout (.letter c) :=
  ignoresLayout_one fun _ folds => isTerminator_of_foldLetter solid (of_decide_eq_true folds)

theorem ignoresLayout_letters
    (word : Text)
    (solid : word.any isTerminator = false) :
    IgnoresLayout (.letters word) := by
  induction word with
  | nil => exact ignoresLayout_nothing
  | cons c word inductionHypothesis =>
      rw [List.any_cons, Bool.or_eq_false_iff] at solid
      exact (ignoresLayout_letter solid.1).seq (inductionHypothesis solid.2)

theorem ignoresLayout_word
    (word : Text)
    (solid : word.any isTerminator = false) :
    IgnoresLayout (.word word) :=
  ignoresLayout_edge.seq ((ignoresLayout_letters word solid).seq
    (ignoresLayout_edge.seq ignoresLayout_nothing))

/-! ## Occurrences -/

/-- A pattern that ignores layout occurs in both of two texts of one layout or in none. -/
theorem IgnoresLayout.occursIn_eq
    (ignores : pattern.IgnoresLayout)
    (starts : pattern.StartsSolid)
    (same : SameLayout text other) :
    pattern.occursIn text = pattern.occursIn other := by
  have occurs {text other : Text} (same : SameLayout text other) (found : pattern.occursIn text) :
      pattern.occursIn other := by
    obtain ⟨lead, run, rest, rfl, covered⟩ := occursIn_iff.mp found
    obtain ⟨c, more, rfl, solid⟩ := starts covered
    obtain ⟨leadToo, others, rfl, behind, edges⟩ := same.split solid
    obtain ⟨runToo, restToo, whole, coveredToo, -⟩ := ignores covered edges (.char c behind)
    exact occursIn_iff.mpr ⟨leadToo, runToo, restToo, by rw [whole], coveredToo⟩
  exact Bool.eq_iff_iff.mpr ⟨occurs same, occurs same.symm⟩

end Pattern
end SqlReview
