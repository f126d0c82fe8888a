import SqlReview.Proofs.Pattern.Word

/-!
# Preferred readings

What a pattern covers says nothing about which of several ways to fit it prefers, and so nothing about
the captures. `Reads` says it: the first outcome in front of a text covers a given run and records
given captures. It is built up along the syntax of the pattern, where a choice passes on to its second
part only if the first one covers nothing there, `Refuses`.
-/

namespace SqlReview
namespace Pattern

/-- Whether the preferred way to fit in front of a text covers a run of it, with a rest behind it,
and records given captures, the latest first. -/
def Reads
    (pattern : Pattern)
    (before : Option Char)
    (index : Nat)
    (run rest : Text)
    (found : List Capture) : Prop :=
  ∀ captures, (pattern.outcomes ⟨⟨before, index, run ++ rest⟩, captures⟩).head? =
    some ⟨⟨Text.lastOr before run, index + run.length, rest⟩, found ++ captures⟩

/-- Whether a pattern does not fit in front of a text. -/
def Refuses
    (pattern : Pattern)
    (before : Option Char)
    (text : Text) : Prop :=
  ∀ run rest, text = run ++ rest → ¬pattern.Covers before run rest

variable {pattern first second body : Pattern} {before : Option Char} {index : Nat}
variable {run others rest text : Text} {found further : List Capture}

theorem Refuses.outcomes_eq_nil
    (refuses : pattern.Refuses before text)
    (index : Nat)
    (captures : List Capture) :
    pattern.outcomes ⟨⟨before, index, text⟩, captures⟩ = [] := by
  rw [List.eq_nil_iff_forall_not_mem]
  intro reached present
  obtain ⟨run, rest, equal, -, covered⟩ := covers_of_mem_outcomes present
  exact refuses run rest equal covered

theorem Refuses.alt
    (refuses : first.Refuses before text)
    (refusesToo : second.Refuses before text) :
    (first.alt second).Refuses before text := by
  rintro run rest equal (covered | covered)
  · exact refuses run rest equal covered
  · exact refusesToo run rest equal covered

/-- The reading of a pattern is the occurrence found there. -/
theorem Reads.occurrenceAt?
    (reads : pattern.Reads before index run rest found) :
    pattern.occurrenceAt? ⟨before, index, run ++ rest⟩ =
      some ⟨index, index + run.length, run, found⟩ := by
  rw [occurrenceAt?_eq_head?, reads []]
  simp [occurrenceOf]

/-! ## Single characters and runs -/

theorem reads_nothing : nothing.Reads before index [] rest [] :=
  fun _ => rfl

theorem reads_notAfter
    {refuses : Char → Bool}
    (outside : before.any refuses = false) :
    (notAfter refuses).Reads before index [] rest [] := by
  intro captures
  simp [outcomes, outside]

theorem reads_textStart : textStart.Reads none index [] rest [] :=
  fun _ => rfl

theorem reads_textEnd : textEnd.Reads before index [] [] [] :=
  fun _ => rfl

theorem reads_edge
    (isEdge : (before.any Text.isWord != rest.head?.any Text.isWord) = true) :
    edge.Reads before index [] rest [] := by
  intro captures
  simp [outcomes, Place.isWordEdge, isEdge]

theorem reads_one
    {accepts : Char → Bool}
    {c : Char}
    (accepted : accepts c = true) :
    (one accepts).Reads before index [c] rest [] := by
  intro captures
  simp [outcomes, Progress.next?, accepted]

theorem reads_char (c : Char) : (char c).Reads before index [c] rest [] :=
  reads_one (decide_eq_true rfl)

/-- As many characters of a class as possible are read. -/
theorem reads_many
    {accepts : Char → Bool}
    (accepted : ∀ c ∈ run, accepts c = true)
    (ends : rest.head?.any accepts = false) :
    (many accepts).Reads before index run rest [] := by
  have longest (captures : List Capture) (others : List Progress) :
      (Progress.runsOnto accepts captures before index (run ++ rest) others).head? =
        some ⟨⟨Text.lastOr before run, index + run.length, rest⟩, captures⟩ := by
    induction run generalizing before index others with
    | nil =>
        cases rest with
        | nil => rfl
        | cons c rest =>
            have refused : accepts c = false := by simpa using ends
            simp [Progress.runsOnto, refused]
    | cons c run inductionHypothesis =>
        have acceptedRest : ∀ d ∈ run, accepts d = true := fun d present =>
          accepted d (.tail _ present)
        rw [List.cons_append, Progress.runsOnto, if_pos (accepted c (.head _)),
          inductionHypothesis acceptedRest, Text.lastOr_cons, List.length_cons,
          Nat.add_right_comm, Nat.add_assoc]
  exact fun captures => longest captures []

/-! ## Composition -/

theorem Reads.seq
    (reads : first.Reads before index run (others ++ rest) found)
    (readsBehind : second.Reads (Text.lastOr before run) (index + run.length) others rest further) :
    (first.seq second).Reads before index (run ++ others) rest (further ++ found) := by
  intro captures
  obtain ⟨later, outcomesEq⟩ := List.head?_eq_some_iff.mp (reads captures)
  have behind := readsBehind (found ++ captures)
  rw [List.append_assoc, outcomes, outcomesEq, List.flatMap_cons, List.head?_append, behind]
  simp [Nat.add_assoc]

theorem Reads.last
    (reads : pattern.Reads before index run rest found) :
    (all [pattern]).Reads before index run rest found := by
  have whole := (show pattern.Reads before index run ([] ++ rest) found from reads).seq reads_nothing
  rwa [List.append_nil] at whole

theorem Reads.alt_left
    (reads : first.Reads before index run rest found) :
    (first.alt second).Reads before index run rest found := by
  intro captures
  rw [outcomes, List.head?_append, reads captures]
  rfl

/-- The second choice is taken where the first one does not fit. -/
theorem Reads.alt_right
    (reads : second.Reads before index run rest found)
    (refuses : first.Refuses before (run ++ rest)) :
    (first.alt second).Reads before index run rest found := by
  intro captures
  rw [outcomes, refuses.outcomes_eq_nil, List.nil_append, reads captures]

/-- A choice behind others is taken where none of them fits. -/
theorem reads_any_append
    {refusing patterns : List Pattern}
    (refuse : ∀ pattern ∈ refusing, pattern.Refuses before (run ++ rest))
    (nonempty : patterns ≠ [])
    (reads : (any patterns).Reads before index run rest found) :
    (any (refusing ++ patterns)).Reads before index run rest found := by
  induction refusing with
  | nil => exact reads
  | cons pattern refusing inductionHypothesis =>
      obtain ⟨next, others, equal⟩ : ∃ next others, refusing ++ patterns = next :: others :=
        List.exists_cons_of_ne_nil (List.append_ne_nil_of_right_ne_nil refusing nonempty)
      have behind := inductionHypothesis fun other present => refuse other (.tail _ present)
      rw [equal] at behind
      rw [List.cons_append, equal]
      exact behind.alt_right (refuse pattern (.head _))

theorem Reads.optional
    (reads : body.Reads before index run rest found) :
    body.optional.Reads before index run rest found :=
  reads.alt_left

theorem reads_optional_nothing
    (refuses : body.Refuses before rest) :
    body.optional.Reads before index [] rest [] :=
  reads_nothing.alt_right refuses

theorem Reads.group
    (reads : body.Reads before index run rest found)
    (number : Nat) :
    (body.group number).Reads before index run rest (⟨number, index, run⟩ :: found) := by
  intro captures
  rw [outcomes, List.head?_map, reads captures]
  simp [Progress.record]

theorem reads_star_nothing
    (refuses : body.Refuses before rest) :
    body.star.Reads before index [] rest [] := by
  intro captures
  rw [List.nil_append, outcomes]
  change (repeatOutcomes _ rest.length _).head? = _
  cases rest.length with
  | zero => rfl
  | succ times =>
      rw [repeatOutcomes, refuses.outcomes_eq_nil]
      rfl

/-- A pattern is not repeated where it does not fit again. -/
theorem reads_star_once
    (reads : body.Reads before index run rest found)
    (nonempty : run ≠ [])
    (refuses : body.Refuses (Text.lastOr before run) rest) :
    body.star.Reads before index run rest found := by
  intro captures
  obtain ⟨later, outcomesEq⟩ := List.head?_eq_some_iff.mp (reads captures)
  have positive : 0 < run.length := List.length_pos_iff.mpr nonempty
  have again (times : Nat) : repeatOutcomes (fun reached => body.outcomes reached) times
      ⟨⟨Text.lastOr before run, index + run.length, rest⟩, found ++ captures⟩ =
        [⟨⟨Text.lastOr before run, index + run.length, rest⟩, found ++ captures⟩] := by
    cases times with
    | zero => rfl
    | succ times => rw [repeatOutcomes, refuses.outcomes_eq_nil, List.flatMap_nil, List.nil_append]
  obtain ⟨times, length⟩ : ∃ times, (run ++ rest).length = times + 1 :=
    Nat.exists_eq_succ_of_ne_zero (by rw [List.length_append]; omega)
  rw [outcomes]
  change (repeatOutcomes _ (run ++ rest).length _).head? = _
  rw [length, repeatOutcomes, outcomesEq, List.flatMap_cons,
    if_pos (show index < index + run.length by omega), again]
  rfl

/-! ## Words and white space -/

theorem reads_letters
    {word : Text}
    (folds : run.map Text.foldLetter = word) :
    (letters word).Reads before index run rest [] := by
  subst folds
  induction run generalizing before index with
  | nil => exact reads_nothing
  | cons c run inductionHypothesis =>
      have readsLetter : (letter (Text.foldLetter c)).Reads before index [c] (run ++ rest) [] :=
        reads_one (decide_eq_true rfl)
      exact readsLetter.seq inductionHypothesis

theorem reads_blanks
    (blank : ∀ c ∈ run, Text.isBlank c = true)
    (ends : rest.head?.any Text.isBlank = false) :
    blanks.Reads before index run rest [] :=
  reads_many blank ends

theorem reads_blank
    (ends : rest.head?.any Text.isBlank = false) :
    someBlanks.Reads before index [' '] rest [] := by
  have one : (Pattern.one Text.isBlank).Reads before index [' '] ([] ++ rest) [] :=
    reads_one (by decide)
  exact one.seq (reads_many (by simp) ends)

theorem reads_identifier
    {c : Char}
    (starts : Text.startsIdentifier c = true)
    (continues : ∀ d ∈ run, Text.continuesIdentifier d = true)
    (ends : rest.head?.any Text.continuesIdentifier = false) :
    identifier.Reads before index (c :: run) rest [] :=
  (reads_one starts : (one Text.startsIdentifier).Reads before index [c] (run ++ rest) []).seq
    (reads_many continues ends)

end Pattern
end SqlReview
