import SqlReview.Heuristic.Analysis
import SqlReview.Proofs.Pattern.Sides
import SqlReview.Proofs.Pattern.Words

/-!
# Selected stars

A text is a row of selected stars with stretches between them in which no star is selected: induction
over this row, `stars_induction`, follows what the search for stars and their replacement do. Both work
on each part of the row on its own, wherever it stands.
-/

namespace SqlReview
namespace Heuristic

open Pattern

variable {before : Option Char} {index : Nat} {lead run rest text : Text}

/-! ## Runs -/

/-- Whether a run is the word SELECT and a star with white space between them. -/
def IsStarRun (run : Text) : Prop :=
  ∃ select blanks, run = select ++ (blanks ++ ['*']) ∧
    select.map Text.foldLetter = "select".toList ∧ blanks ≠ [] ∧
      ∀ c ∈ blanks, Text.isBlank c = true

theorem covers_selectStar :
    selectStar.Covers before run rest ↔ IsStarRun run := by
  rw [selectStar, covers_letters_cons]
  constructor
  · rintro ⟨select, _, rfl, folds, blanks, _, rfl, isBlanks, _, _, rfl, isStar, rfl⟩
    obtain rfl := covers_char.mp isStar
    obtain ⟨nonempty, areBlank⟩ := covers_someBlanks.mp isBlanks
    exact ⟨select, blanks, rfl, folds, nonempty, areBlank⟩
  · rintro ⟨select, blanks, rfl, folds, nonempty, areBlank⟩
    exact ⟨select, _, rfl, folds, blanks, _, rfl, covers_someBlanks.mpr ⟨nonempty, areBlank⟩, ['*'], [],
      rfl, covers_char.mpr rfl, rfl⟩

/-- A run starts with a form of the letter S. Behind its start there is none. -/
theorem IsStarRun.exists_cons (isStar : IsStarRun run) :
    ∃ c more, run = c :: more ∧ Text.foldLetter c = 's' ∧ ∀ d ∈ more, Text.foldLetter d ≠ 's' := by
  obtain ⟨select, blanks, rfl, folds, -, areBlank⟩ := isStar
  obtain ⟨c, others, rfl, isS, othersFold⟩ := List.map_eq_cons_iff.mp folds
  refine ⟨c, others ++ (blanks ++ ['*']), rfl, isS, fun d present => ?_⟩
  simp only [List.mem_append, List.mem_singleton] at present
  rcases present with inSelect | inBlanks | rfl
  · have folded := List.mem_map_of_mem (f := Text.foldLetter) inSelect
    rw [othersFold] at folded
    intro isS
    rw [isS] at folded
    exact absurd folded (by decide)
  · intro isS
    have isWord := Text.isWord_of_foldLetter (c := d) (by rw [isS]; decide)
    rw [Text.isWord_of_isBlank (areBlank d inBlanks)] at isWord
    contradiction
  · decide

/-- Two runs at the start of one text are the same. -/
theorem IsStarRun.unique
    {other others : Text}
    (isStar : IsStarRun run)
    (isStarToo : IsStarRun other)
    (whole : run ++ rest = other ++ others) :
    run = other := by
  obtain ⟨select, blanks, rfl, folds, -, areBlank⟩ := isStar
  obtain ⟨selectToo, blanksToo, rfl, foldsToo, -, areBlankToo⟩ := isStarToo
  have length : select.length = selectToo.length := by
    rw [← List.length_map (f := Text.foldLetter), folds, ← foldsToo, List.length_map]
  simp only [List.append_assoc] at whole
  obtain ⟨rfl, behind⟩ := List.append_inj whole length
  obtain rfl := run_unique behind areBlank areBlankToo rfl rfl
  rfl

theorem IsStarRun.occursIn
    (isStar : IsStarRun run)
    (lead rest : Text) :
    selectStar.occursIn (lead ++ (run ++ rest)) = true :=
  occursIn_iff.mpr ⟨lead, run, rest, rfl, covers_selectStar.mpr isStar⟩

/-- The occurrence that is found at a run is the run. -/
theorem IsStarRun.exists_occurrenceAt?
    (isStar : IsStarRun run)
    (before : Option Char)
    (index : Nat)
    (rest : Text) :
    ∃ found, selectStar.occurrenceAt? ⟨before, index, run ++ rest⟩ = some found ∧
      found.length = run.length ∧ found.stop = index + run.length := by
  have covered : selectStar.Covers before run rest := covers_selectStar.mpr isStar
  obtain ⟨found, isFound⟩ := Option.isSome_iff_exists.mp
    (occurrenceAt?_isSome_iff.mpr ⟨run, rest, rfl, covered⟩ :
      (selectStar.occurrenceAt? ⟨before, index, run ++ rest⟩).isSome)
  obtain ⟨first, others, whole, firstCovered, start, stop, -⟩ := covers_of_occurrenceAt? isFound
  obtain rfl := isStar.unique (covers_selectStar.mp firstCovered) whole
  exact ⟨found, isFound, by rw [Occurrence.length, start, stop, Nat.add_sub_cancel_left], stop⟩

/-- In front of a selected star, and of the end of the text, nothing starts that is not in the stretch
before it. -/
theorem isQuiet_of_not_occursIn
    (quiet : selectStar.occursIn lead = false)
    (behind : ∀ c, rest.head? = some c → Text.foldLetter c = 's') :
    selectStar.IsQuiet before lead rest := by
  rintro front c tail rfl run others whole covered
  have isStar := covers_selectStar.mp covered
  rcases List.append_eq_append_iff.mp whole with ⟨inRest, runEq, restEq⟩ | ⟨more, tailEq, -⟩
  · cases inRest with
    | nil =>
        rw [List.append_nil] at runEq
        have found := isStar.occursIn front []
        rw [runEq, List.append_nil, quiet] at found
        contradiction
    | cons d inRest =>
        obtain ⟨e, more, rfl, -, noS⟩ := isStar.exists_cons
        obtain ⟨-, rfl⟩ := List.cons.inj runEq
        exact noS d (by simp) (behind d (by rw [restEq]; rfl))
  · have found := isStar.occursIn front more
    rw [← tailEq, quiet] at found
    contradiction

theorem not_occursIn_of_isQuiet
    (isQuiet : selectStar.IsQuiet none lead rest) :
    selectStar.occursIn lead = false := by
  rw [Bool.eq_false_iff]
  intro occurs
  obtain ⟨front, run, others, rfl, covered⟩ := occursIn_iff.mp occurs
  obtain ⟨c, more, rfl, -⟩ := (covers_selectStar.mp covered).exists_cons
  exact isQuiet front c (more ++ others) rfl (c :: more) (others ++ rest) (by simp)
    (covers_selectStar.mpr (covers_selectStar.mp covered))

/-- Induction over the selected stars of a text. -/
theorem stars_induction
    {motive : Text → Prop}
    (quiet : ∀ text, selectStar.occursIn text = false → motive text)
    (star : ∀ lead run rest, selectStar.occursIn lead = false → IsStarRun run → motive rest →
      motive (lead ++ (run ++ rest)))
    (text : Text) :
    motive text := by
  induction size : text.length using Nat.strongRecOn generalizing text with
  | ind bound inductionHypothesis =>
    cases search : selectStar.search text with
    | none => exact quiet text (by rw [occursIn, search]; rfl)
    | some found =>
        obtain ⟨lead, run, rest, rfl, covered, start, -⟩ := covers_of_searchFrom search
        have isStar := covers_selectStar.mp covered
        have isQuiet := isQuiet_of_searchFrom search start rfl
        refine star lead run rest (not_occursIn_of_isQuiet isQuiet) isStar
          (inductionHypothesis rest.length ?_ rest rfl)
        obtain ⟨c, more, rfl, -⟩ := isStar.exists_cons
        simp only [← size, List.length_append, List.length_cons]
        omega

theorem IsStarRun.head?_append
    (isStar : IsStarRun run)
    (rest : Text) :
    ∀ c, (run ++ rest).head? = some c → Text.foldLetter c = 's' := by
  obtain ⟨d, more, rfl, isS, -⟩ := isStar.exists_cons
  rintro c head
  obtain rfl : d = c := Option.some.inj head
  exact isS

/-! ## The search -/

theorem isQuiet_of_star
    (quiet : selectStar.occursIn lead = false)
    (isStar : IsStarRun run) :
    selectStar.IsQuiet before lead (run ++ rest) :=
  isQuiet_of_not_occursIn quiet (isStar.head?_append rest)

theorem isQuiet_nil (quiet : selectStar.occursIn text = false) :
    selectStar.IsQuiet before text [] :=
  isQuiet_of_not_occursIn quiet fun _ head => absurd head (by simp)

theorem IsStarRun.ne_nil (isStar : IsStarRun run) : run ≠ [] := by
  obtain ⟨c, more, rfl, -⟩ := isStar.exists_cons
  exact List.cons_ne_nil c more

/-! ### Replacement -/

section Replacement

variable (replacement : Text)

theorem replaceFrom_star
    (quiet : selectStar.occursIn lead = false)
    (isStar : IsStarRun run) :
    selectStar.replaceFrom replacement 0 before index (lead ++ (run ++ rest)) =
      lead ++ (replacement ++ selectStar.replaceFrom replacement 0
        (Text.lastOr (Text.lastOr before lead) run) (index + lead.length + run.length) rest) := by
  obtain ⟨found, isFound, length, -⟩ := isStar.exists_occurrenceAt? (Text.lastOr before lead)
    (index + lead.length) rest
  rw [replaceFrom_quiet (isQuiet_of_star quiet isStar),
    replaceFrom_of_occurrenceAt? isFound length isStar.ne_nil]

theorem replaceFrom_of_not_occursIn
    (quiet : selectStar.occursIn text = false) :
    selectStar.replaceFrom replacement 0 before index text = text := by
  have whole : selectStar.replaceFrom replacement 0 before index (text ++ []) = text ++ [] :=
    replaceFrom_quiet (isQuiet_nil quiet) replacement
  rwa [List.append_nil] at whole

/-- Where a text stands does not matter to the replacement of its stars. -/
theorem replaceFrom_eq_replace (text : Text) :
    selectStar.replaceFrom replacement 0 before index text =
      selectStar.replace replacement text := by
  induction text using stars_induction generalizing before index with
  | quiet text quiet =>
      rw [replace, replaceFrom_of_not_occursIn replacement quiet,
        replaceFrom_of_not_occursIn replacement quiet]
  | star lead run rest quiet isStar inductionHypothesis =>
      rw [replace, replaceFrom_star replacement quiet isStar, replaceFrom_star replacement quiet isStar,
        inductionHypothesis, inductionHypothesis]

/-- Nothing is replaced where no star is selected. -/
theorem replace_of_not_occursIn
    (quiet : selectStar.occursIn text = false) :
    selectStar.replace replacement text = text :=
  replaceFrom_of_not_occursIn replacement quiet

/-- The first star is replaced, and so are those behind it. -/
theorem replace_star
    (quiet : selectStar.occursIn lead = false)
    (isStar : IsStarRun run) :
    selectStar.replace replacement (lead ++ (run ++ rest)) =
      lead ++ (replacement ++ selectStar.replace replacement rest) := by
  rw [replace, replaceFrom_star replacement quiet isStar, replaceFrom_eq_replace]

end Replacement

/-! ### Places -/

/-- Where the selected stars of a text end. -/
def starEnds (text : Text) : List Nat :=
  (selectStar.occurrences text).map (·.stop)

theorem map_stop_star
    (quiet : selectStar.occursIn lead = false)
    (isStar : IsStarRun run) :
    (selectStar.occurrencesFrom 0 before index (lead ++ (run ++ rest))).map (·.stop) =
      (index + lead.length + run.length) ::
        (selectStar.occurrencesFrom 0 (Text.lastOr (Text.lastOr before lead) run)
          (index + lead.length + run.length) rest).map (·.stop) := by
  obtain ⟨found, isFound, length, stop⟩ := isStar.exists_occurrenceAt? (Text.lastOr before lead)
    (index + lead.length) rest
  rw [occurrencesFrom_quiet (isQuiet_of_star quiet isStar),
    occurrencesFrom_of_occurrenceAt? isFound length isStar.ne_nil, List.map_cons, stop]

theorem occurrencesFrom_of_not_occursIn
    (quiet : selectStar.occursIn text = false) :
    selectStar.occurrencesFrom 0 before index text = [] := by
  have whole : selectStar.occurrencesFrom 0 before index (text ++ []) = [] :=
    occurrencesFrom_quiet (isQuiet_nil quiet)
  rwa [List.append_nil] at whole

/-- Where a text starts, its stars are counted from. -/
theorem map_stop_eq (text : Text) :
    (selectStar.occurrencesFrom 0 before index text).map (·.stop) =
      (starEnds text).map (index + ·) := by
  induction text using stars_induction generalizing before index with
  | quiet text quiet =>
      rw [starEnds, occurrences, occurrencesFrom_of_not_occursIn quiet,
        occurrencesFrom_of_not_occursIn quiet]
      rfl
  | star lead run rest quiet isStar inductionHypothesis =>
      rw [starEnds, occurrences, map_stop_star quiet isStar, map_stop_star quiet isStar,
        inductionHypothesis, inductionHypothesis, List.map_cons, List.map_map]
      simp [Function.comp_def, Nat.add_assoc]

theorem starEnds_of_not_occursIn
    (quiet : selectStar.occursIn text = false) :
    starEnds text = [] := by
  rw [starEnds, occurrences, occurrencesFrom_of_not_occursIn quiet]
  rfl

theorem starEnds_star
    (quiet : selectStar.occursIn lead = false)
    (isStar : IsStarRun run) :
    starEnds (lead ++ (run ++ rest)) =
      (lead ++ run).length :: (starEnds rest).map ((lead ++ run).length + ·) := by
  rw [starEnds, occurrences, map_stop_star quiet isStar, map_stop_eq, Nat.zero_add,
    List.length_append]

/-- Whether no word starts directly behind a selected star. -/
def NoWordBehindStar (query : Text) : Prop :=
  ∀ found ∈ selectStar.occurrences query, (query[found.stop]?).any Text.isWord = false

instance (query : Text) : Decidable (NoWordBehindStar query) :=
  inferInstanceAs (Decidable (∀ found ∈ selectStar.occurrences query, _))

theorem noWordBehindStar_iff :
    NoWordBehindStar text ↔ ∀ stop ∈ starEnds text, (text[stop]?).any Text.isWord = false := by
  rw [starEnds, List.forall_mem_map]
  rfl

theorem noWordBehindStar_of_not_occursIn
    (quiet : selectStar.occursIn text = false) :
    NoWordBehindStar text := by
  rw [noWordBehindStar_iff, starEnds_of_not_occursIn quiet]
  exact List.forall_mem_nil _

theorem noWordBehindStar_star
    (quiet : selectStar.occursIn lead = false)
    (isStar : IsStarRun run) :
    NoWordBehindStar (lead ++ (run ++ rest)) ↔
      rest.head?.any Text.isWord = false ∧ NoWordBehindStar rest := by
  have behind (offset : Nat) :
      (lead ++ (run ++ rest))[(lead ++ run).length + offset]? = rest[offset]? := by
    rw [← List.append_assoc, List.getElem?_append_right (Nat.le_add_right _ _),
      Nat.add_sub_cancel_left]
  have first := behind 0
  rw [Nat.add_zero] at first
  rw [noWordBehindStar_iff, noWordBehindStar_iff, starEnds_star quiet isStar, List.forall_mem_cons,
    List.forall_mem_map, first, List.head?_eq_getElem?]
  simp only [behind]

/-! ## Both ends -/

section Ends

variable {replacement : Text} {holds : Char → Bool}

/-- A text with its stars replaced starts like the text, if the replacement starts like a star. -/
theorem any_head?_replace
    (nonempty : replacement ≠ [])
    (same : ∀ c, Text.foldLetter c = 's' → holds c = replacement.head?.any holds)
    (text : Text) :
    (selectStar.replace replacement text).head?.any holds = text.head?.any holds := by
  induction text using stars_induction with
  | quiet text quiet => rw [replace_of_not_occursIn replacement quiet]
  | star lead run rest quiet isStar =>
      rw [replace_star replacement quiet isStar]
      refine Text.any_head?_congr ?_ lead
      obtain ⟨c, more, rfl, isS, -⟩ := isStar.exists_cons
      rw [List.head?_append_of_ne_nil _ nonempty]
      exact (same c isS).symm

/-- A text with its stars replaced ends like the text, if the replacement ends like a star. -/
theorem any_lastOr_replace
    (nonempty : replacement ≠ [])
    (same : holds '*' = replacement.getLast?.any holds)
    (text : Text) :
    (Text.lastOr before (selectStar.replace replacement text)).any holds =
      (Text.lastOr before text).any holds := by
  induction text using stars_induction generalizing before with
  | quiet text quiet => rw [replace_of_not_occursIn replacement quiet]
  | star lead run rest quiet isStar inductionHypothesis =>
      have star : Text.lastOr (Text.lastOr before lead) run = some '*' := by
        obtain ⟨select, blanks, rfl, -⟩ := isStar
        simp
      rw [replace_star replacement quiet isStar]
      simp only [Text.lastOr_append, inductionHypothesis]
      refine Text.any_lastOr_congr ?_ rest
      rw [star, Text.lastOr]
      rw [List.getLast?_eq_some_getLast nonempty] at same ⊢
      exact same.symm

end Ends

/-! ## The replaced text -/

/-- A star is selected in no tail without a star. -/
theorem occursIn_append_of_noStar
    {tail : Text}
    (noStar : '*' ∉ tail)
    (front : Text) :
    selectStar.occursIn (front ++ tail) = selectStar.occursIn front := by
  rw [Bool.eq_iff_iff]
  constructor
  · intro found
    obtain ⟨lead, run, rest, whole, covered⟩ := occursIn_iff.mp found
    have isStar := covers_selectStar.mp covered
    obtain ⟨select, blanks, rfl, -⟩ := covers_selectStar.mp covered
    have split : front ++ tail = (lead ++ (select ++ blanks)) ++ '*' :: rest := by simp [whole]
    rcases List.append_eq_append_iff.mp split with ⟨middle, -, tailEq⟩ | ⟨middle, frontEq, behind⟩
    · exact absurd (by simp [tailEq]) noStar
    · cases middle with
      | nil => exact absurd (by simp [← show '*' :: rest = tail from behind]) noStar
      | cons c middle =>
          obtain ⟨rfl, -⟩ := List.cons.inj behind
          rw [frontEq]
          simpa using isStar.occursIn lead middle
  · intro found
    obtain ⟨lead, run, rest, rfl, covered⟩ := occursIn_iff.mp found
    have isStar := covers_selectStar.mp covered
    rw [List.append_assoc, List.append_assoc]
    exact isStar.occursIn lead (rest ++ tail)

/-- No star is selected where the columns stand for stars. -/
theorem not_occursIn_replace (text : Text) :
    selectStar.occursIn (selectStar.replace replacementColumns text) = false := by
  induction text using stars_induction with
  | quiet text quiet => rw [replace_of_not_occursIn replacementColumns quiet, quiet]
  | star lead run rest quiet isStar inductionHypothesis =>
      have inFront : selectStar.occursIn (lead ++ "SELECT id".toList) = false :=
        (occursIn_append_of_noStar (by decide) lead).trans quiet
      have inMiddle : selectStar.occursIn " status" = false := by decide
      have noStart : ∀ c ∈ " created_at".toList, selectStar.starts c = false := by decide
      have columns (behind : Text) : lead ++ (replacementColumns ++ behind) =
          lead ++ "SELECT id".toList ++
            ',' :: (" status".toList ++ ',' :: (" created_at".toList ++ behind)) := by
        rw [List.append_assoc]
        rfl
      rw [replace_star replacementColumns quiet isStar, columns,
        occursIn_append_cons rfl (by decide) (by decide), inFront,
        occursIn_append_cons rfl (by decide) (by decide), inMiddle,
        occursIn_append_front rfl noStart (.inl rfl), inductionHypothesis]
      rfl

/-! ## White space at the ends -/

/-- White space around a text is kept when its stars are replaced. -/
theorem replace_around_blanks
    (replacement : Text)
    {front back : Text}
    (frontBlank : ∀ c ∈ front, Text.isBlank c = true)
    (backBlank : ∀ c ∈ back, Text.isBlank c = true)
    (text : Text) :
    selectStar.replace replacement (front ++ (text ++ back)) =
      front ++ (selectStar.replace replacement text ++ back) := by
  have isQuiet : selectStar.IsQuiet none front (text ++ back) := by
    rintro lead c tail rfl run others whole covered
    obtain ⟨d, more, rfl, isS, -⟩ := (covers_selectStar.mp covered).exists_cons
    obtain ⟨rfl, -⟩ := List.cons.inj whole
    have isWord := Text.isWord_of_foldLetter (c := c) (by rw [isS]; decide)
    rw [Text.isWord_of_isBlank (frontBlank c (by simp))] at isWord
    contradiction
  rw [replace, replaceFrom_quiet isQuiet, replaceFrom_eq_replace]
  refine congrArg _ ?_
  clear isQuiet
  induction text using stars_induction with
  | quiet text quiet =>
      have noStar : '*' ∉ back := fun present => absurd (backBlank '*' present) (by decide)
      have quietToo := (occursIn_append_of_noStar noStar text).trans quiet
      rw [replace_of_not_occursIn replacement quietToo, replace_of_not_occursIn replacement quiet]
  | star lead run rest quiet isStar inductionHypothesis =>
      simp only [List.append_assoc]
      rw [replace_star replacement quiet isStar, replace_star replacement quiet isStar,
        inductionHypothesis]
      simp only [List.append_assoc]

end Heuristic
end SqlReview
