import SqlReview.Proofs.Heuristic.Words
import SqlReview.Proofs.Pattern.Change
import SqlReview.Proofs.Text.Caseless

/-!
# What signals depend on

A quick review sees a few words of a text, whether the text has certain phrases, and whether a star is
selected. Texts that agree in the words and the phrases resemble each other, and have the same signals
but for the one about stars. The lower-case form of a text has the signals of its caseless form.
-/

namespace SqlReview
namespace Heuristic

open Query Pattern

variable {text other : Text}

/-! ## Keywords -/

/-- Whether a word is one of those that are looked for on their own. -/
def isKeyword (word : Text) : Bool :=
  [("where" : Text), "index", "or", "join", "on", "using"].contains word

/-- The keywords of a text in order. -/
def keywords (text : Text) : List Text :=
  (Text.words text).filter isKeyword

theorem word_occursIn_iff_keywords
    {word : Text}
    (isSmallWord : word.IsSmallWord)
    (isKeyword : isKeyword word = true) :
    (Pattern.word word).occursIn text ↔ word ∈ keywords text := by
  rw [word_occursIn_iff isSmallWord, keywords, List.mem_filter, and_iff_left isKeyword]

theorem hasOrAfterWhere_iff_keywords :
    hasOrAfterWhere text = true ↔ ∃ front behind,
      keywords text = front ++ "where".toList :: behind ∧ "or".toList ∈ behind := by
  rw [hasOrAfterWhere_iff_words]
  constructor
  · rintro ⟨front, behind, words, present⟩
    refine ⟨front.filter isKeyword, behind.filter isKeyword, ?_, List.mem_filter.mpr ⟨present, rfl⟩⟩
    rw [keywords, words, List.filter_append, List.filter_cons_of_pos rfl]
  · rintro ⟨front, behind, words, present⟩
    obtain ⟨lead, rest, wordsEq, -, restEq⟩ := List.filter_eq_append_iff.mp words
    obtain ⟨between, others, rfl, -, -, rfl⟩ := List.filter_eq_cons_iff.mp restEq
    exact ⟨lead ++ between, others, by simp [wordsEq], (List.mem_filter.mp present).1⟩

theorem hasUnconditionedJoin_keywords :
    hasUnconditionedJoin text =
      decide ((keywords text).countP isConditionWord < (keywords text).countP isJoinWord) := by
  have counts {counted : Text → Bool} (areKeywords : ∀ word, counted word → isKeyword word) :
      (keywords text).countP counted = (Text.words text).countP counted := by
    rw [keywords, List.countP_filter]
    refine List.countP_congr fun word _ => ?_
    rw [Bool.and_eq_true, and_iff_left_of_imp (areKeywords word)]
  rw [hasUnconditionedJoin_eq, counts, counts]
  · intro word isJoin
    rw [isJoinWord, decide_eq_true_eq] at isJoin
    rw [isJoin]
    decide
  · intro word isCondition
    rw [isConditionWord, Bool.or_eq_true, decide_eq_true_eq, decide_eq_true_eq] at isCondition
    rcases isCondition with rfl | rfl <;> decide

/-! ## Phrases -/

/-- The phrases that a quick review looks for, selected stars aside. -/
def phrases : List Pattern :=
  [orderBy, rowLimit, leadingWildcard, subqueryHead]

/-- Whether two texts have the same keywords and the same phrases. -/
structure Resembles (text other : Text) : Prop where
  /-- The keywords are the same. -/
  keywords : keywords text = keywords other
  /-- A phrase is in both texts or in none. -/
  phrases : ∀ phrase ∈ phrases, phrase.occursIn text = phrase.occursIn other

theorem Resembles.trans
    {third : Text}
    (resembles : Resembles text other)
    (resemblesToo : Resembles other third) :
    Resembles text third :=
  ⟨resembles.keywords.trans resemblesToo.keywords, fun phrase present =>
    (resembles.phrases phrase present).trans (resemblesToo.phrases phrase present)⟩

/-- Most tests depend on the keywords only. -/
theorem tests_of_keywords
    (same : keywords text = keywords other) :
    tests other =
      [(.selectStar, selectStar.occursIn other),
        (.missingIndex,
          (Pattern.word "where").occursIn text && !(Pattern.word "index").occursIn text),
        (.orderByWithoutLimit, lacksLimit other),
        (.leadingWildcardLike, leadingWildcard.occursIn other),
        (.orInWhere, hasOrAfterWhere text),
        (.joinWithoutCondition, hasUnconditionedJoin text),
        (.subquery, subqueryHead.occursIn other)] := by
  have words {word : Text} (isSmallWord : word.IsSmallWord) (isKeyword : isKeyword word = true) :
      (Pattern.word word).occursIn other = (Pattern.word word).occursIn text := by
    rw [Bool.eq_iff_iff, word_occursIn_iff_keywords isSmallWord isKeyword,
      word_occursIn_iff_keywords isSmallWord isKeyword, same]
  have orBehind : hasOrAfterWhere other = hasOrAfterWhere text := by
    rw [Bool.eq_iff_iff, hasOrAfterWhere_iff_keywords, hasOrAfterWhere_iff_keywords, same]
  have joins : hasUnconditionedJoin other = hasUnconditionedJoin text := by
    rw [hasUnconditionedJoin_keywords, hasUnconditionedJoin_keywords, same]
  rw [tests, words (by decide) (by decide), words (by decide) (by decide), orBehind, joins]

/-- Texts that resemble each other have the same outcomes of the tests, the one for stars aside. -/
theorem Resembles.tests_eq
    (resembles : Resembles text other) :
    tests other = (.selectStar, selectStar.occursIn other) :: (tests text).tail := by
  have same := resembles.phrases
  simp only [Heuristic.phrases, List.forall_mem_cons] at same
  obtain ⟨order, limit, wildcard, subquery, -⟩ := same
  rw [tests_of_keywords resembles.keywords, lacksLimit, ← order, ← limit, ← wildcard, ← subquery]
  rfl

/-- Where tests are outdone, the codes are left out. -/
theorem signals_eq_filter
    {keep : RuleCode → Bool}
    (outdone : tests other = (tests text).map fun test => (test.1, test.2 && keep test.1)) :
    signals other = (signals text).filter keep := by
  rw [signals, signals, outdone, List.filter_map, List.map_map, List.filter_map, List.filter_filter]
  refine congrArg _ (List.filter_congr fun test _ => ?_)
  exact Bool.and_comm _ _

/-- Without a star selected, a text has the signals of the texts that it resembles, the one about stars
aside. -/
theorem Resembles.signals_eq_filter
    (resembles : Resembles text other)
    (noStar : selectStar.occursIn other = false) :
    signals other = (signals text).filter (· ≠ .selectStar) := by
  apply Heuristic.signals_eq_filter
  rw [resembles.tests_eq, noStar]
  simp [tests]

/-! ## Case -/

theorem map_mergeSigma_eq_iff
    {word plain : Text}
    (noSigma : ∀ c ∈ plain, c ≠ '\u03C2' ∧ c ≠ '\u03C3') :
    word.map Text.mergeSigma = plain ↔ word = plain := by
  induction plain generalizing word with
  | nil => exact List.map_eq_nil_iff
  | cons d plain inductionHypothesis =>
      rw [List.forall_mem_cons] at noSigma
      cases word with
      | nil => simp
      | cons c word =>
          rw [List.map_cons, List.cons.injEq, List.cons.injEq, Text.mergeSigma_eq_iff noSigma.1,
            inductionHypothesis noSigma.2]

/-- No keyword has a sigma. -/
theorem isKeyword_mergeSigma (word : Text) :
    isKeyword (word.map Text.mergeSigma) = isKeyword word ∧
      (isKeyword word = true → word.map Text.mergeSigma = word) := by
  have noSigma : ∀ keyword ∈ [("where" : Text), "index", "or", "join", "on", "using"],
      ∀ c ∈ keyword, c ≠ '\u03C2' ∧ c ≠ '\u03C3' := by decide
  have same (present : isKeyword word = true) : word.map Text.mergeSigma = word :=
    (map_mergeSigma_eq_iff (noSigma word (List.contains_iff_mem.mp present))).mpr rfl
  refine ⟨Bool.eq_iff_iff.mpr ⟨fun present => ?_, fun present => ?_⟩, same⟩
  · rwa [(map_mergeSigma_eq_iff (noSigma _ (List.contains_iff_mem.mp present))).mp rfl]
  · rwa [same present]

theorem keywords_map_foldForms (text : Text) :
    keywords (text.map Text.foldForms) = keywords text := by
  rw [keywords, Text.words_map Text.isWord_foldForms Text.foldLetter_foldForms, List.filter_map]
  have same : isKeyword ∘ (·.map Text.mergeSigma) = isKeyword := by
    funext word
    exact (isKeyword_mergeSigma word).1
  rw [same]
  refine (List.map_congr_left fun word present => ?_).trans (List.map_id _)
  exact (isKeyword_mergeSigma word).2 (List.mem_filter.mp present).2

/-- What a quick review looks for is found in any form of the letters. -/
theorem overlooks_phrases :
    selectStar.Overlooks Text.foldForms ∧ ∀ phrase ∈ phrases, phrase.Overlooks Text.foldForms := by
  have letters (word : Text) (noSigma : ∀ c ∈ word, c ≠ '\u03C2' ∧ c ≠ '\u03C3') :
      (letters word).Overlooks Text.foldForms := by
    refine overlooks_letters fun letter present c => ?_
    rw [Text.foldLetter_foldForms, Text.mergeSigma_eq_iff (noSigma letter present)]
  have blanks := Text.class_foldForms fun _ => Text.isWord_of_isBlank
  have mark (d : Char) (noWord : Text.isWord d = false) : (char d).Overlooks Text.foldForms :=
    @Text.class_foldForms (fun c => c = d) fun c isMark => by rwa [of_decide_eq_true isMark]
  have edge := Text.isWord_foldForms
  have word (word : Text) (noSigma : ∀ c ∈ word, c ≠ '\u03C2' ∧ c ≠ '\u03C3') :
      (Pattern.word word).Overlooks Text.foldForms :=
    ⟨edge, letters word noSigma, edge, trivial⟩
  refine ⟨⟨letters _ (by decide), ⟨blanks, blanks⟩, mark '*' (by decide), trivial⟩, ?_⟩
  simp only [phrases, List.forall_mem_cons]
  refine ⟨?_, ?_, ?_, ?_, List.forall_mem_nil _⟩
  · exact ⟨edge, ⟨letters _ (by decide), ⟨blanks, blanks⟩, letters _ (by decide), trivial⟩, edge,
      trivial⟩
  · refine ⟨word _ (by decide), ?_, ?_⟩
    · exact ⟨edge, letters _ (by decide), ⟨blanks, blanks⟩,
        ⟨letters _ (by decide), letters _ (by decide)⟩, edge, trivial⟩
    · exact ⟨edge, letters _ (by decide), ⟨blanks, blanks⟩,
        ⟨⟨letters _ (by decide), ⟨blanks, blanks⟩⟩, trivial⟩, letters _ (by decide), edge, trivial⟩
  · exact ⟨letters _ (by decide), ⟨blanks, blanks⟩, ⟨(letters ['n'] (by decide)).1, trivial⟩,
      letters _ (by decide), trivial⟩
  · exact ⟨mark '(' (by decide), blanks, letters _ (by decide), edge, trivial⟩

/-- The lower-case form of a text has the signals of its caseless form. -/
theorem signals_lower_eq_caseless (text : Text) :
    signals (Text.lower text) = signals (Text.caseless text) := by
  rw [← Text.map_foldForms_lower]
  generalize Text.lower text = text
  obtain ⟨star, overlooked⟩ := overlooks_phrases
  have resembles : Resembles text (text.map Text.foldForms) :=
    ⟨(keywords_map_foldForms text).symm, fun phrase present =>
      (occursIn_map (overlooked phrase present) text).symm⟩
  have same : tests (text.map Text.foldForms) = tests text := by
    rw [resembles.tests_eq, occursIn_map star]
    rfl
  rw [signals, signals, same]

end Heuristic
end SqlReview
