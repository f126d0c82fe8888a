import Mathlib.Data.List.TakeWhile
import Mathlib.Tactic.Tauto
import SqlReview.Proofs.Pattern.Occurrence
import SqlReview.Proofs.Pattern.Word
import SqlReview.Text.Digit

/-!
# The words of a text

A text has its maximal runs of word characters as words, case ignored. A pattern that covers whole
words only is found as often as the text has words that it accepts, and a pattern that starts with a
whole word is not found in a stretch without such words.
-/

namespace SqlReview
namespace Text

/-- The code points of white space. -/
def blankPoints : List Nat :=
  [0x09, 0x0A, 0x0B, 0x0C, 0x0D, 0x1C, 0x1D, 0x1E, 0x1F, 0x20, 0x85, 0xA0, 0x1680, 0x2000, 0x2001,
    0x2002, 0x2003, 0x2004, 0x2005, 0x2006, 0x2007, 0x2008, 0x2009, 0x200A, 0x2028, 0x2029, 0x202F,
    0x205F, 0x3000]

theorem mem_blankPoints
    {c : Char}
    (blank : isBlank c = true) :
    c.toNat ∈ blankPoints := by
  simp only [isBlank, Bool.or_eq_true, Bool.and_eq_true, decide_eq_true_eq] at blank
  simp only [blankPoints, List.mem_cons, List.not_mem_nil, or_false]
  omega

/-- A class without the code points of white space has no white space. -/
theorem false_of_isBlank
    {holds : Char → Bool}
    (none : ∀ point ∈ blankPoints, holds (Char.ofNat point) = false)
    {c : Char}
    (blank : isBlank c = true) :
    holds c = false := by
  have outside := none c.toNat (mem_blankPoints blank)
  rwa [Char.ofNat_toNat] at outside

/-- White space belongs to no word. -/
theorem isWord_of_isBlank
    {c : Char}
    (blank : isBlank c = true) :
    isWord c = false :=
  false_of_isBlank (by decide +kernel) blank

/-- No identifier has white space. -/
theorem isBlank_of_continuesIdentifier
    {c : Char}
    (continues : continuesIdentifier c = true) :
    isBlank c = false := by
  refine Bool.eq_false_iff.mpr fun blank => ?_
  rw [continuesIdentifier, isWord_of_isBlank blank, Bool.false_or, decide_eq_true_eq] at continues
  subst continues
  exact absurd blank (by decide)

theorem isBlank_of_isDecimalDigit
    {c : Char}
    (isDigit : isDecimalDigit c = true) :
    isBlank c = false :=
  Bool.eq_false_iff.mpr fun blank =>
    absurd (isDigit.symm.trans (false_of_isBlank (by decide +kernel) blank)) (by decide)

/-- The words of a text in order, by their folded letters. -/
def words (text : Text) : List Text :=
  ((text.splitOnP (!isWord ·)).filter (· ≠ [])).map (·.map foldLetter)

@[simp] theorem words_nil : words [] = [] := rfl

/-- Words end at every other character. -/
theorem words_append_cons
    {c : Char}
    (noWord : isWord c = false)
    (first second : Text) :
    words (first ++ c :: second) = words first ++ words second := by
  rw [words, List.splitOnP_append_cons first second (by simp [noWord]), List.filter_append,
    List.map_append]
  rfl

@[simp] theorem words_cons
    {c : Char}
    (noWord : isWord c = false)
    (rest : Text) :
    words (c :: rest) = words rest :=
  words_append_cons noWord [] rest

theorem words_of_noWord
    {text : Text}
    (noWord : ∀ c ∈ text, isWord c = false) :
    words text = [] := by
  induction text with
  | nil => rfl
  | cons c text inductionHypothesis =>
      rw [words_cons (noWord c (.head _)), inductionHypothesis fun d present =>
        noWord d (.tail _ present)]

/-- A run of word characters is one word. -/
theorem words_of_isWord
    {run : Text}
    (nonempty : run ≠ [])
    (isWordRun : ∀ c ∈ run, isWord c = true) :
    words run = [run.map foldLetter] := by
  rw [words, List.splitOnP_eq_singleton fun c present => by simp [isWordRun c present]]
  simp [nonempty]

theorem words_append_of_head
    (first : Text)
    {second : Text}
    (outside : second.head?.any isWord = false) :
    words (first ++ second) = words first ++ words second := by
  cases second with
  | nil => simp
  | cons c second => rw [words_append_cons outside, words_cons outside]

theorem words_append_of_last
    {first : Text}
    (outside : first.getLast?.any isWord = false)
    (second : Text) :
    words (first ++ second) = words first ++ words second := by
  rcases List.eq_nil_or_concat first with rfl | ⟨front, c, rfl⟩
  · rfl
  · have noWord : isWord c = false := by simpa using outside
    rw [List.concat_eq_append, List.append_assoc, List.singleton_append, words_append_cons noWord,
      words_append_cons noWord, words_nil, List.append_nil]

/-- The words of a text around a whole word. -/
theorem words_whole
    {before : Option Char}
    {lead run rest : Text}
    (isWordRun : run ≠ [] ∧ ∀ c ∈ run, isWord c = true)
    (outside : (lastOr before lead).any isWord = false)
    (outsideBehind : rest.head?.any isWord = false) :
    words (lead ++ (run ++ rest)) = words lead ++ run.map foldLetter :: words rest := by
  have leadOutside : lead.getLast?.any isWord = false := by
    rw [lastOr] at outside
    cases last : lead.getLast? with
    | none => rfl
    | some c => simpa [last] using outside
  rw [words_append_of_last leadOutside, words_append_of_head run outsideBehind,
    words_of_isWord isWordRun.1 isWordRun.2]
  rfl

/-- A whole word is one of the words of the text around it. -/
theorem mem_words
    {before : Option Char}
    {lead run rest : Text}
    (nonempty : run ≠ [])
    (isWordRun : ∀ c ∈ run, isWord c = true)
    (outside : (lastOr before lead).any isWord = false)
    (outsideBehind : rest.head?.any isWord = false) :
    run.map foldLetter ∈ words (lead ++ (run ++ rest)) := by
  rw [words_whole ⟨nonempty, isWordRun⟩ outside outsideBehind]
  simp

/-- A word in small letters, in any mixture of cases, is one of the words of the text around it. -/
theorem IsSmallWord.mem_words
    {word : Text}
    (isSmallWord : word.IsSmallWord)
    {before : Option Char}
    {lead run rest : Text}
    (folds : run.map foldLetter = word)
    (outside : (lastOr before lead).any isWord = false)
    (outsideBehind : rest.head?.any isWord = false) :
    word ∈ words (lead ++ (run ++ rest)) := by
  have present := Text.mem_words (isSmallWord.ne_nil folds)
    (fun _ inRun => isSmallWord.isWord_of_mem folds inRun) outside outsideBehind
  rwa [folds] at present

/-- No word reaches out of white space, at its start or at its end. -/
theorem isWord_of_blanks
    {blanks : Text}
    (nonempty : blanks ≠ [])
    (blank : ∀ c ∈ blanks, isBlank c = true) :
    (∀ before, (lastOr before blanks).any isWord = false) ∧
      ∀ rest, (blanks ++ rest).head?.any isWord = false := by
  constructor
  · intro before
    rw [lastOr, List.getLast?_eq_some_getLast nonempty]
    exact isWord_of_isBlank (blank _ (List.getLast_mem nonempty))
  · intro rest
    obtain ⟨c, blanks, rfl⟩ := List.exists_cons_of_ne_nil nonempty
    exact isWord_of_isBlank (blank c (.head _))

end Text

namespace Pattern

variable {pattern : Pattern} {accepts : Text → Bool} {before : Option Char} {index : Nat}
variable {text : Text}

/-! ## Patterns of whole words -/

/-- Whether a pattern covers exactly the whole words that a test accepts. -/
def IsWhole (pattern : Pattern) (accepts : Text → Bool) : Prop :=
  ∀ before run rest, pattern.Covers before run rest ↔
    (run ≠ [] ∧ ∀ c ∈ run, Text.isWord c = true) ∧ accepts (run.map Text.foldLetter) = true ∧
      before.any Text.isWord = false ∧ rest.head?.any Text.isWord = false

theorem isWhole_word
    {word : Text}
    (isSmallWord : word.IsSmallWord) :
    (Pattern.word word).IsWhole (· = word) := by
  intro before run rest
  rw [covers_word isSmallWord, decide_eq_true_eq]
  constructor
  · rintro ⟨folds, outside⟩
    exact ⟨⟨isSmallWord.ne_nil folds, fun c present => isSmallWord.isWord_of_mem folds present⟩,
      folds, outside⟩
  · rintro ⟨-, covered⟩
    exact covered

theorem IsWhole.alt
    {other : Pattern}
    {acceptsToo : Text → Bool}
    (isWhole : pattern.IsWhole accepts)
    (otherIsWhole : other.IsWhole acceptsToo) :
    (pattern.alt other).IsWhole (fun word => accepts word || acceptsToo word) := by
  intro before run rest
  change pattern.Covers before run rest ∨ other.Covers before run rest ↔ _
  rw [isWhole, otherIsWhole, Bool.or_eq_true]
  tauto

/-- Two longest runs of a class at the start of one text are the same. -/
theorem run_unique
    {holds : Char → Bool}
    {first second rest others : Text}
    (equal : first ++ rest = second ++ others)
    (firstHolds : ∀ c ∈ first, holds c = true)
    (secondHolds : ∀ c ∈ second, holds c = true)
    (ends : rest.head?.any holds = false)
    (endsToo : others.head?.any holds = false) :
    first = second := by
  have cut {run others : Text} (runHolds : ∀ c ∈ run, holds c = true)
      (ends : others.head?.any holds = false) : (run ++ others).takeWhile holds = run := by
    rw [List.takeWhile_append_of_pos runHolds]
    cases others with
    | nil => simp
    | cons c others => simp [show holds c = false from ends]
  rw [← cut firstHolds ends, equal, cut secondHolds endsToo]

/-- Two whole words at the start of one text are the same. -/
theorem whole_unique
    {first second rest others : Text}
    (equal : first ++ rest = second ++ others)
    (firstWord : ∀ c ∈ first, Text.isWord c = true)
    (secondWord : ∀ c ∈ second, Text.isWord c = true)
    (outside : rest.head?.any Text.isWord = false)
    (outsideToo : others.head?.any Text.isWord = false) :
    first = second :=
  run_unique equal firstWord secondWord outside outsideToo

/-! ## Stretches without words -/

/-- Whether everything that a pattern covers starts with a whole word that a test accepts. -/
def StartsWithWord (pattern : Pattern) (accepts : Text → Bool) : Prop :=
  ∀ before run rest, pattern.Covers before run rest →
    ∃ word more, run = word ++ more ∧ (word ≠ [] ∧ ∀ c ∈ word, Text.isWord c = true) ∧
      accepts (word.map Text.foldLetter) = true ∧ before.any Text.isWord = false ∧
        (more ++ rest).head?.any Text.isWord = false

theorem IsWhole.startsWithWord (isWhole : pattern.IsWhole accepts) :
    pattern.StartsWithWord accepts := by
  intro before run rest covered
  obtain ⟨isWordRun, accepted, outside, outsideBehind⟩ := (isWhole before run rest).mp covered
  exact ⟨run, [], (List.append_nil run).symm, isWordRun, accepted, outside, outsideBehind⟩

/-- Nothing starts in a stretch without accepted words, if no word reaches out of it. -/
theorem StartsWithWord.isQuiet
    (startsWithWord : pattern.StartsWithWord accepts)
    {stretch rest : Text}
    (absent : ∀ word ∈ Text.words stretch, accepts word = false)
    (closed : stretch.getLast?.any Text.isWord = false ∨ rest.head?.any Text.isWord = false) :
    pattern.IsQuiet before stretch rest := by
  rintro lead c tail rfl run others equal covered
  obtain ⟨word, more, rfl, ⟨nonempty, isWordRun⟩, accepted, outside, outsideBehind⟩ :=
    startsWithWord _ _ _ covered
  rw [List.append_assoc] at equal
  rcases List.append_eq_append_iff.mp equal with ⟨left, wordEq, restEq⟩ | ⟨back, tailEq, moreEq⟩
  · -- The word would reach from the stretch into what follows it.
    cases left with
    | nil =>
        rw [List.append_nil] at wordEq
        have present := Text.mem_words nonempty isWordRun outside
          (show ([] : Text).head?.any Text.isWord = false from rfl)
        rw [wordEq, List.append_nil] at present
        rw [wordEq, absent _ present] at accepted
        exact absurd accepted (by decide)
    | cons d left =>
        have lastWord : (lead ++ c :: tail).getLast?.any Text.isWord = true := by
          have nonemptyTail : c :: tail ≠ [] := List.cons_ne_nil c tail
          rw [List.getLast?_append, List.getLast?_eq_some_getLast nonemptyTail]
          refine isWordRun _ ?_
          rw [wordEq]
          exact List.mem_append_left _ (List.getLast_mem nonemptyTail)
        have headWord : rest.head?.any Text.isWord = true := by
          rw [restEq]
          exact isWordRun d (by rw [wordEq]; simp)
        rcases closed with closed | closed
        · rw [closed] at lastWord
          exact absurd lastWord (by decide)
        · rw [closed] at headWord
          exact absurd headWord (by decide)
  · have backOutside : back.head?.any Text.isWord = false := by
      cases back with
      | nil => rfl
      | cons d back =>
          rw [moreEq] at outsideBehind
          exact outsideBehind
    have present := Text.mem_words nonempty isWordRun outside backOutside
    rw [← tailEq] at present
    rw [absent _ present] at accepted
    exact absurd accepted (by decide)

/-! ## Counting words -/

/-- A pattern of whole words occurs where a word that it accepts stands. -/
theorem IsWhole.exists_occurrenceAt?
    (isWhole : pattern.IsWhole accepts)
    {run rest : Text}
    (isWordRun : run ≠ [] ∧ ∀ c ∈ run, Text.isWord c = true)
    (accepted : accepts (run.map Text.foldLetter) = true)
    (outside : before.any Text.isWord = false)
    (outsideBehind : rest.head?.any Text.isWord = false) :
    ∃ occurrence, pattern.occurrenceAt? ⟨before, index, run ++ rest⟩ = some occurrence ∧
      occurrence.length = run.length ∧ occurrence.stop = index + run.length := by
  have covered := (isWhole before run rest).mpr ⟨isWordRun, accepted, outside, outsideBehind⟩
  obtain ⟨occurrence, found⟩ := Option.isSome_iff_exists.mp
    (occurrenceAt?_isSome_iff.mpr ⟨run, rest, show run ++ rest = run ++ rest from rfl, covered⟩ :
      (pattern.occurrenceAt? ⟨before, index, run ++ rest⟩).isSome)
  obtain ⟨first, others, equal, firstCovered, start, stop, -⟩ := covers_of_occurrenceAt? found
  obtain ⟨⟨-, firstWord⟩, -, -, firstOutside⟩ := (isWhole _ _ _).mp firstCovered
  obtain rfl : run = first :=
    whole_unique equal isWordRun.2 firstWord outsideBehind firstOutside
  refine ⟨occurrence, found, ?_, stop⟩
  rw [Occurrence.length, start, stop, Nat.add_sub_cancel_left]

/-- A text that starts with a word character starts with a whole word. -/
theorem exists_word
    {c : Char}
    (isWord : Text.isWord c = true)
    (rest : Text) :
    ∃ word others, c :: rest = word ++ others ∧
      (word ≠ [] ∧ ∀ c ∈ word, Text.isWord c = true) ∧
      others.head?.any Text.isWord = false ∧
      Text.words (c :: rest) = word.map Text.foldLetter :: Text.words others := by
  have nonempty : (c :: rest).takeWhile Text.isWord ≠ [] := by simp [isWord]
  have isWordRun : ∀ d ∈ (c :: rest).takeWhile Text.isWord, Text.isWord d = true :=
    fun d present => List.mem_takeWhile_imp present
  have outside : ((c :: rest).dropWhile Text.isWord).head?.any Text.isWord = false := by
    have first := List.head?_dropWhile_not Text.isWord (c :: rest)
    cases head : ((c :: rest).dropWhile Text.isWord).head? with
    | none => rfl
    | some d => simpa [head] using first
  refine ⟨_, _, List.takeWhile_append_dropWhile.symm, ⟨nonempty, isWordRun⟩, outside, ?_⟩
  have split := Text.words_append_of_head ((c :: rest).takeWhile Text.isWord) outside
  rwa [List.takeWhile_append_dropWhile, Text.words_of_isWord nonempty isWordRun] at split

/-- A pattern of whole words is found as often as there are words that it accepts. -/
theorem IsWhole.length_occurrencesFrom
    (isWhole : pattern.IsWhole accepts)
    (boundary : before.any Text.isWord = false ∨ text.head?.any Text.isWord = false) :
    (pattern.occurrencesFrom 0 before index text).length =
      (Text.words text).countP accepts := by
  induction size : text.length using Nat.strongRecOn generalizing before index text with
  | ind bound inductionHypothesis =>
    cases text with
    | nil => rfl
    | cons c rest =>
        cases isWord : Text.isWord c with
        | false =>
            have absent : ∀ word ∈ Text.words [c], accepts word = false := by simp [isWord]
            have isQuiet : pattern.IsQuiet before [c] rest :=
              isWhole.startsWithWord.isQuiet absent (.inl (by simp [isWord]))
            have shorter : rest.length < bound := by simp [← size]
            rw [← List.singleton_append, occurrencesFrom_quiet isQuiet,
              inductionHypothesis rest.length shorter (.inl (by simp [isWord])) rfl,
              List.singleton_append, Text.words_cons isWord]
        | true =>
            have outside : before.any Text.isWord = false :=
              boundary.resolve_right (by simp [isWord])
            obtain ⟨word, others, equal, isWordRun, outsideBehind, words⟩ := exists_word isWord rest
            have positive := List.length_pos_iff.mpr isWordRun.1
            have shorter : others.length < bound := by
              rw [← size, equal, List.length_append]
              omega
            rw [words, List.countP_cons, equal]
            cases accepted : accepts (word.map Text.foldLetter) with
            | true =>
                obtain ⟨occurrence, found, length, -⟩ :=
                  isWhole.exists_occurrenceAt? isWordRun accepted outside outsideBehind
                rw [occurrencesFrom_of_occurrenceAt? found length isWordRun.1, List.length_cons,
                  inductionHypothesis others.length shorter (.inr outsideBehind) rfl]
                simp
            | false =>
                have absent : ∀ found ∈ Text.words word, accepts found = false := by
                  rw [Text.words_of_isWord isWordRun.1 isWordRun.2]
                  simpa using accepted
                have isQuiet : pattern.IsQuiet before word others :=
                  isWhole.startsWithWord.isQuiet absent (.inr outsideBehind)
                rw [occurrencesFrom_quiet isQuiet,
                  inductionHypothesis others.length shorter (.inr outsideBehind) rfl]
                simp

theorem IsWhole.length_occurrences
    (isWhole : pattern.IsWhole accepts)
    (text : Text) :
    (pattern.occurrences text).length = (Text.words text).countP accepts :=
  isWhole.length_occurrencesFrom (.inl rfl)

/-- A pattern of whole words is found behind a place if there is a word that it accepts. -/
theorem IsWhole.searchFrom_isSome_iff
    (isWhole : pattern.IsWhole accepts)
    (boundary : before.any Text.isWord = false ∨ text.head?.any Text.isWord = false) :
    (pattern.searchFrom before index text).isSome ↔ ∃ word ∈ Text.words text, accepts word := by
  rw [Pattern.searchFrom_isSome_iff]
  constructor
  · rintro ⟨lead, run, rest, rfl, covered⟩
    obtain ⟨⟨nonempty, isWordRun⟩, accepted, outside, outsideBehind⟩ := (isWhole _ _ _).mp covered
    exact ⟨_, Text.mem_words nonempty isWordRun outside outsideBehind, accepted⟩
  · intro found
    have positive : 0 < (pattern.occurrencesFrom 0 before index text).length := by
      rw [isWhole.length_occurrencesFrom boundary]
      exact List.countP_pos_iff.mpr found
    obtain ⟨occurrence, present⟩ := List.exists_mem_of_length_pos positive
    obtain ⟨lead, run, rest, equal, -, covered, -⟩ := isStretch_of_mem_occurrencesFrom present
    exact ⟨lead, run, rest, equal, covered⟩

theorem IsWhole.occursIn_iff
    (isWhole : pattern.IsWhole accepts)
    (text : Text) :
    pattern.occursIn text ↔ ∃ word ∈ Text.words text, accepts word :=
  isWhole.searchFrom_isSome_iff (.inl rfl)

theorem word_occursIn_iff
    {word : Text}
    (isSmallWord : word.IsSmallWord)
    (text : Text) :
    (Pattern.word word).occursIn text ↔ word ∈ Text.words text := by
  rw [(isWhole_word isSmallWord).occursIn_iff]
  simp

/-- A word is not among those of a stretch in which no occurrence of it starts. -/
theorem not_mem_words_of_isQuiet
    {word lead rest : Text}
    (isSmallWord : word.IsSmallWord)
    (isQuiet : (Pattern.word word).IsQuiet none lead rest)
    (outside : (Text.lastOr none lead).any Text.isWord = false) :
    word ∉ Text.words lead := by
  intro present
  have occurs := (word_occursIn_iff isSmallWord lead).mpr present
  obtain ⟨front, run, behind, rfl, covered⟩ := Pattern.occursIn_iff.mp occurs
  obtain ⟨folds, outsideBefore, outsideBehind⟩ := (covers_word isSmallWord).mp covered
  cases behind with
  | nil =>
      rw [List.append_nil, Text.lastOr_append, isSmallWord.isWord_lastOr folds] at outside
      exact absurd outside (by decide)
  | cons d behind =>
      obtain ⟨c, tail, rfl⟩ := List.exists_cons_of_ne_nil (isSmallWord.ne_nil folds)
      refine isQuiet front c (tail ++ d :: behind) rfl (c :: tail) (d :: behind ++ rest)
        (by simp) ?_
      exact (covers_word isSmallWord).mpr ⟨folds, outsideBefore, outsideBehind⟩

end Pattern
end SqlReview
