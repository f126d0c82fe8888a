import SqlReview.Proofs.Heuristic.CaselessStars
import SqlReview.Proofs.Heuristic.Layout

/-!
# What the safer query settles

The safer query breaks the rules that the query breaks, but for those about stars and limits, and is
its own safer query. Main statement: `saferQuery_settles`, for queries without a word directly behind a
selected star.
-/

namespace SqlReview
namespace Heuristic

open Pattern Query Text

variable {text query : Text}

/-! ## The columns in the place of a star -/

/-- What the phrases have in common that lets a text be taken apart at a star and at the commas of the
columns. -/
theorem phrases_around_columns :
    ∀ phrase ∈ phrases, (phrase.isLocal = true ∧ phrase.isNullable = false) ∧
      (phrase.admits '*' = false ∧ phrase.admits ',' = false) ∧
      (∀ c ∈ " id".toList, phrase.ends c = false) ∧ phrase.occursIn " status" = false ∧
      ∀ c ∈ " created_at".toList, phrase.starts c = false := by
  decide

theorem phrases_not_endWithBlank :
    ∀ phrase ∈ phrases, ∀ point ∈ blankPoints, phrase.ends (Char.ofNat point) = false := by
  decide

/-- A phrase starts with a sign or with a letter. -/
theorem phrases_start :
    ∀ phrase ∈ phrases, phrase.takesFirst = true ∨
      ∀ c, phrase.starts c = true → isWord c = true := by
  have isWordOf {c : Char} (letters : Text) (present : foldLetter c ∈ letters)
      (areLetters : ∀ letter ∈ letters, 'a' ≤ letter ∧ letter ≤ 'z') : isWord c = true :=
    isWord_of_foldLetter (areLetters _ present)
  simp only [phrases, List.forall_mem_cons]
  refine ⟨.inr fun c isStart => ?_, .inr fun c isStart => ?_, .inl rfl, .inl rfl,
    List.forall_mem_nil _⟩
  · have first : foldLetter c = 'o' := by
      simpa [orderBy, twoWords, all, letters, letter, starts, isNullable] using isStart
    exact isWordOf "o" (by simp [first]) (by decide)
  · have first : foldLetter c = 'l' ∨ foldLetter c = 'f' ∨ foldLetter c = 's' := by
      simpa [rowLimit, Pattern.any, Pattern.word, all, letters, letter, starts, isNullable]
        using isStart
    exact isWordOf "lfs" (by simp [first]) (by decide)

/-- The columns in the place of a star neither make nor break a phrase. -/
theorem phrase_occursIn_columns
    {phrase : Pattern}
    (present : phrase ∈ phrases)
    {blanks behind : Text}
    (nonempty : blanks ≠ [])
    (areBlank : ∀ c ∈ blanks, isBlank c = true)
    (outside : behind.head?.any isWord = false)
    (front : Text) :
    phrase.occursIn (front ++ ("select".toList ++ (blanks ++ '*' :: behind))) =
      phrase.occursIn (front ++ ("select id, status, created_at".toList ++ behind)) := by
  obtain ⟨⟨isLocal, hasCharacters⟩, ⟨noStar, noComma⟩, noEnd, noStatus, noStart⟩ :=
    phrases_around_columns phrase present
  have noEndInBlanks : ∀ c ∈ blanks, phrase.ends c = false := fun c inBlanks =>
    false_of_isBlank (phrases_not_endWithBlank phrase present) (areBlank c inBlanks)
  have blanksOutside : blanks.head?.any isWord = false := by
    simpa using (isWord_of_blanks nonempty areBlank).2 []
  have withBlanks : phrase.occursIn (front ++ "select".toList ++ blanks) =
      phrase.occursIn (front ++ "select".toList) :=
    occursIn_append_tail isLocal hasCharacters blanksOutside
      (endsBefore_of_ends noEndInBlanks true) _
  have withId : phrase.occursIn (front ++ "select".toList ++ " id".toList) =
      phrase.occursIn (front ++ "select".toList) :=
    occursIn_append_tail isLocal hasCharacters (by decide) (endsBefore_of_ends noEnd true) _
  have lastColumn : phrase.occursIn (" created_at".toList ++ behind) = phrase.occursIn behind :=
    occursIn_append_front hasCharacters noStart
      ((phrases_start phrase present).imp_right fun areWords => ⟨outside, areWords⟩)
  calc phrase.occursIn (front ++ ("select".toList ++ (blanks ++ '*' :: behind)))
    _ = phrase.occursIn (front ++ "select".toList ++ blanks ++ '*' :: behind) := by simp
    _ = (phrase.occursIn (front ++ "select".toList) || phrase.occursIn behind) := by
        rw [occursIn_append_cons isLocal (by decide) noStar, withBlanks]
    _ = phrase.occursIn (front ++ "select".toList ++ " id".toList ++
          ',' :: (" status".toList ++ ',' :: (" created_at".toList ++ behind))) := by
        rw [occursIn_append_cons isLocal (by decide) noComma,
          occursIn_append_cons isLocal (by decide) noComma, withId, lastColumn]
        exact congrArg _ ((congrArg (· || phrase.occursIn behind) noStatus).symm)
    _ = phrase.occursIn (front ++ ("select id, status, created_at".toList ++ behind)) := by
        simp

/-- The columns are no keywords. -/
theorem keywords_columns
    {blanks behind : Text}
    (areBlank : ∀ c ∈ blanks, isBlank c = true)
    (outside : behind.head?.any isWord = false)
    (front : Text) :
    keywords (front ++ ("select".toList ++ (blanks ++ '*' :: behind))) =
      keywords (front ++ ("select id, status, created_at".toList ++ behind)) := by
  have star : words (blanks ++ '*' :: behind) = words behind := by
    rw [words_append_cons (by decide), words_of_noWord fun c present =>
      isWord_of_isBlank (areBlank c present), List.nil_append]
  have outsideStar : (blanks ++ '*' :: behind).head?.any isWord = false := by
    cases blanks with
    | nil => exact (by decide : isWord '*' = false)
    | cons c blanks => exact isWord_of_isBlank (areBlank c (.head _))
  have columns : (words " id, status, created_at").filter isKeyword = [] := by decide
  have split : front ++ ("select id, status, created_at".toList ++ behind) =
      (front ++ "select".toList) ++ (" id, status, created_at".toList ++ behind) := by simp
  rw [split, ← List.append_assoc, keywords, keywords, words_append_of_head _ outsideStar, star,
    words_append_of_head (front ++ "select".toList) (by rfl), words_append_of_head _ outside,
    List.filter_append, List.filter_append, List.filter_append, columns, List.nil_append]

/-- In caseless form, a text with a star resembles the text with the columns in its place. -/
theorem resembles_columns
    {run rest : Text}
    (isStar : IsStarRun run)
    (outside : rest.head?.any isWord = false)
    (front : Text) :
    Resembles (caseless (front ++ (run ++ rest)))
      (caseless (front ++ (replacementColumns ++ rest))) := by
  obtain ⟨blanks, equal, nonempty, areBlank⟩ := isStar.caseless
  have outsideCaseless := isWord_head?_caseless outside
  have columns : caseless replacementColumns = "select id, status, created_at".toList := by
    decide
  have withStar : caseless (front ++ (run ++ rest)) =
      caseless front ++ ("select".toList ++ (blanks ++ '*' :: caseless rest)) := by
    rw [caseless_append, caseless_append, equal]
    simp
  rw [withStar, caseless_append, caseless_append, columns]
  exact ⟨keywords_columns areBlank outsideCaseless _, fun phrase present =>
    phrase_occursIn_columns present nonempty areBlank outsideCaseless _⟩

/-- In caseless form, a text resembles the text with columns in the places of its stars. -/
theorem resembles_replace
    (front : Text)
    (noWord : NoWordBehindStar text) :
    Resembles (caseless (front ++ text))
      (caseless (front ++ selectStar.replace replacementColumns text)) := by
  induction text using stars_induction generalizing front with
  | quiet text quiet =>
      rw [replace_of_not_occursIn replacementColumns quiet]
      exact ⟨rfl, fun _ _ => rfl⟩
  | star lead run rest quiet isStar inductionHypothesis =>
      obtain ⟨outside, noWordBehind⟩ := (noWordBehindStar_star quiet isStar).mp noWord
      rw [replace_star replacementColumns quiet isStar]
      have first := resembles_columns isStar outside (front ++ lead)
      have others := inductionHypothesis (front ++ lead ++ replacementColumns) noWordBehind
      simp only [List.append_assoc] at first others ⊢
      exact first.trans others

/-! ## Signals -/

/-- Only the signal about stars is gone once columns stand in the places of the stars. -/
theorem signals_replace
    (noWord : NoWordBehindStar query) :
    signals (lower (selectStar.replace replacementColumns query)) =
      (signals (lower query)).filter (· ≠ .selectStar) := by
  rw [signals_lower_eq_caseless, signals_lower_eq_caseless]
  refine (resembles_replace [] noWord).signals_eq_filter ?_
  rw [selectStar_occursIn_caseless]
  exact not_occursIn_replace query

/-- A limit at the end is no keyword, and no phrase ends in it that might have begun before. -/
theorem tests_limitLine (text : Text) :
    tests (text ++ "\nlimit 100;".toList) =
      (tests text).map fun test => (test.1, test.2 && test.1 ≠ .orderByWithoutLimit) := by
  have tail {pattern : Pattern} (isLocal : pattern.isLocal = true)
      (hasCharacters : pattern.isNullable = false)
      (noEnd : pattern.endsBefore true "\nlimit 100;" = true) :
      pattern.occursIn (text ++ "\nlimit 100;".toList) = pattern.occursIn text :=
    occursIn_append_tail isLocal hasCharacters (by decide) noEnd text
  have words : words (text ++ "\nlimit 100;".toList) =
      words text ++ ["limit".toList, "100".toList] := by
    have line : words "\nlimit 100;" = ["limit".toList, "100".toList] := by decide
    rw [words_append_of_head text (by decide : ("\nlimit 100;".toList).head?.any isWord = false), line]
  have sameKeywords : keywords text = keywords (text ++ "\nlimit 100;".toList) := by
    rw [keywords, keywords, words, List.filter_append]
    exact (List.append_nil _).symm
  have limited : lacksLimit (text ++ "\nlimit 100;".toList) = false := by
    have isLimited : rowLimit.occursIn (text ++ "\nlimit 100;".toList) = true := by
      obtain ⟨lead, run, rest, whole, covered⟩ := occursIn_iff.mp
        ((word_occursIn_iff (by decide) _).mpr (by rw [words]; simp :
          "limit".toList ∈ Text.words (text ++ "\nlimit 100;".toList)))
      exact occursIn_iff.mpr ⟨lead, run, rest, whole, .inl covered⟩
    rw [lacksLimit, isLimited, Bool.not_true, Bool.and_false]
  rw [tests_of_keywords sameKeywords, limited, tail rfl rfl (by decide), tail rfl rfl (by decide),
    tail rfl rfl (by decide)]
  simp [tests]

/-- A limit at the end settles the rule about limits and nothing else. -/
theorem signals_appendLimit (query : Text) :
    signals (lower (appendLimit query)) =
      (signals (lower query)).filter (· ≠ .orderByWithoutLimit) := by
  have line : caseless limitLine = "\nlimit 100;".toList := by decide
  have atEnd (stem : Text) :
      signals (lower (stem ++ limitLine)) =
        (signals (lower stem)).filter (· ≠ .orderByWithoutLimit) := by
    rw [signals_lower_eq_caseless, signals_lower_eq_caseless, caseless_append, line]
    exact signals_eq_filter (tests_limitLine _)
  rw [appendLimit]
  split
  next isEnd =>
    obtain ⟨stem, rfl⟩ := List.getLast?_eq_some_iff.mp isEnd
    have noFront : ∀ c ∈ ([] : Text), isBlank c = true := by simp
    have same : SameLayout (stem ++ [';']) stem := sameLayout_of_ends noFront (by decide) stem
    rw [List.dropLast_concat, atEnd, signals_layout same.lower]
  · exact atEnd query

/-! ## The safer query -/

theorem contains_selectStar (query : Text) :
    (signals (lower query)).contains .selectStar = selectStar.occursIn query := by
  have fires (text : Text) : (signals text).contains .selectStar = selectStar.occursIn text := by
    rw [Bool.eq_iff_iff, List.contains_iff_mem]
    simp [signals, tests]
  rw [signals_lower_eq_caseless, fires, selectStar_occursIn_caseless]

/-- The safer query has columns in the place of every star, and a limit if it needs one. -/
theorem saferQuery_eq (query : Text) :
    (analyze query).saferQuery =
      if (signals (lower query)).contains .orderByWithoutLimit then
        appendLimit (selectStar.replace replacementColumns (trim query))
      else selectStar.replace replacementColumns (trim query) := by
  obtain ⟨front, back, whole, frontBlank, backBlank⟩ := exists_trim query
  have same : SameLayout query (trim query) := by
    have ends := sameLayout_of_ends frontBlank
      (fun c present => isTerminator_of_isBlank (backBlank c present)) (trim query)
    rwa [← whole] at ends
  change saferQuery query (signals (lower query)) = _
  rw [saferQuery, contains_selectStar, selectStar_layout same]
  cases quiet : selectStar.occursIn (trim query) with
  | true => rfl
  | false => rw [replace_of_not_occursIn replacementColumns quiet]; rfl

/-- Trimming makes no difference to the layout of the text with columns. -/
theorem sameLayout_replace_trim (query : Text) :
    SameLayout (selectStar.replace replacementColumns query)
      (selectStar.replace replacementColumns (trim query)) := by
  obtain ⟨front, back, whole, frontBlank, backBlank⟩ := exists_trim query
  have replaced := replace_around_blanks replacementColumns frontBlank backBlank (trim query)
  rw [← whole] at replaced
  rw [replaced]
  exact sameLayout_of_ends frontBlank
    (fun c present => isTerminator_of_isBlank (backBlank c present)) _

theorem signals_replace_trim
    (noWord : NoWordBehindStar query) :
    signals (lower (selectStar.replace replacementColumns (trim query))) =
      (signals (lower query)).filter (· ≠ .selectStar) := by
  rw [← signals_layout (sameLayout_replace_trim query).lower, signals_replace noWord]

theorem ends_replace_trim (query : Text) :
    (selectStar.replace replacementColumns (trim query)).head?.any isBlank = false ∧
      (selectStar.replace replacementColumns (trim query)).getLast?.any isBlank = false := by
  obtain ⟨first, last⟩ := ends_trimWhere isBlank query
  have noBlank : ∀ c, foldLetter c = 's' → isBlank c = replacementColumns.head?.any isBlank := by
    intro c isS
    change isBlank c = false
    rw [Bool.eq_false_iff]
    intro blank
    have isWord := isWord_of_foldLetter (c := c) (by rw [isS]; decide)
    rw [isWord_of_isBlank blank] at isWord
    contradiction
  constructor
  · rw [any_head?_replace (by decide) noBlank]
    exact first
  · have sameEnd : (lastOr none (selectStar.replace replacementColumns (trim query))).any isBlank =
        (lastOr none (trim query)).any isBlank :=
      any_lastOr_replace (by decide) (by decide) (trim query)
    rw [lastOr, lastOr, Option.or_none, Option.or_none] at sameEnd
    exact sameEnd.trans last

theorem appendLimit_eq (text : Text) :
    ∃ stem ending, text = stem ++ ending ∧ (ending = [] ∨ ending = [';']) ∧
      appendLimit text = stem ++ limitLine := by
  rw [appendLimit]
  split
  next isEnd =>
    obtain ⟨stem, rfl⟩ := List.getLast?_eq_some_iff.mp isEnd
    exact ⟨stem, [';'], rfl, .inr rfl, by rw [List.dropLast_concat]⟩
  · exact ⟨text, [], (List.append_nil text).symm, .inl rfl, rfl⟩

/-- A sorted text with a limit starts like the text. -/
theorem ends_appendLimit
    (sorted : .orderByWithoutLimit ∈ signals (lower text))
    (first : text.head?.any isBlank = false) :
    (appendLimit text).head?.any isBlank = false ∧
      (appendLimit text).getLast?.any isBlank = false := by
  obtain ⟨stem, ending, rfl, few, equal⟩ := appendLimit_eq text
  have unsorted : .orderByWithoutLimit ∉ signals (lower []) ∧
      .orderByWithoutLimit ∉ signals (lower [';']) := by
    decide
  rw [equal]
  constructor
  · cases stem with
    | nil =>
        rcases few with rfl | rfl
        · exact absurd sorted unsorted.1
        · exact absurd sorted unsorted.2
    | cons c stem => exact first
  · rw [List.getLast?_append_of_ne_nil stem (by decide)]
    decide

/-- The safer query has no white space at its ends. -/
theorem trim_saferQuery
    (noWord : NoWordBehindStar query) :
    trim (analyze query).saferQuery = (analyze query).saferQuery := by
  have ends := ends_replace_trim query
  rw [saferQuery_eq]
  split
  next sorted =>
    have stillSorted : .orderByWithoutLimit ∈
        signals (lower (selectStar.replace replacementColumns (trim query))) := by
      rw [signals_replace_trim noWord]
      exact List.mem_filter.mpr ⟨List.contains_iff_mem.mp sorted, rfl⟩
    obtain ⟨first, last⟩ := ends_appendLimit stillSorted ends.1
    exact trim_of_ends first last
  · exact trim_of_ends ends.1 ends.2

/-- The signals of the safer query. -/
theorem signals_saferQuery
    (noWord : NoWordBehindStar query) :
    signals (lower (analyze query).saferQuery) =
      (signals (lower query)).filter
        (fun code => code ≠ .selectStar ∧ code ≠ .orderByWithoutLimit) := by
  rw [saferQuery_eq]
  split
  · rw [signals_appendLimit, signals_replace_trim noWord, List.filter_filter]
    refine List.filter_congr fun code _ => ?_
    rw [Bool.and_comm, Bool.decide_and]
  next unsorted =>
    rw [signals_replace_trim noWord]
    refine List.filter_congr fun code present => ?_
    have noLimit : code ≠ .orderByWithoutLimit := by
      rintro rfl
      exact unsorted (List.contains_iff_mem.mpr present)
    simp [noLimit]

/-- The safer query settles the rules about stars and limits and no others, and is its own safer
query, if no word starts directly behind a selected star. -/
theorem saferQuery_settles
    (noWord : NoWordBehindStar query) :
    signals (lower (analyze query).saferQuery) =
        (signals (lower query)).filter
          (fun code => code ≠ .selectStar ∧ code ≠ .orderByWithoutLimit) ∧
      (analyze (analyze query).saferQuery).saferQuery = (analyze query).saferQuery := by
  refine ⟨signals_saferQuery noWord, ?_⟩
  have settled : (signals (lower (analyze query).saferQuery)).contains .selectStar = false ∧
      (signals (lower (analyze query).saferQuery)).contains .orderByWithoutLimit = false := by
    rw [signals_saferQuery noWord]
    simp
  change saferQuery (analyze query).saferQuery (signals (lower (analyze query).saferQuery)) = _
  rw [saferQuery, settled.1, settled.2]
  exact trim_saferQuery noWord

/-- Two selected stars, one of them behind a semicolon. -/
def starredQuery : Text :=
  " select * from a where b like '%x'; SELECT\t* FROM c ORDER BY d ; "

theorem saferQuery_settles_starred :
    signals (lower (analyze starredQuery).saferQuery) =
        (signals (lower starredQuery)).filter
          (fun code => code ≠ .selectStar ∧ code ≠ .orderByWithoutLimit) ∧
      (analyze (analyze starredQuery).saferQuery).saferQuery = (analyze starredQuery).saferQuery :=
  saferQuery_settles (by decide)

end Heuristic
end SqlReview
