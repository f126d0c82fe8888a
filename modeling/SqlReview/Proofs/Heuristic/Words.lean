import Mathlib.Data.List.Basic
import SqlReview.Heuristic.Signals
import SqlReview.Proofs.Query.Clauses
import SqlReview.Proofs.Query.Hints

/-!
# Signals in the words of a text

Most of what a quick review looks for can be read off the words of the text: whether certain words
are there, how many there are, and whether one stands behind another.
-/

namespace SqlReview
namespace Heuristic

open Query Pattern

variable {text : Text}

/-- In a text without the words FETCH and TOP, rows are limited by the word LIMIT. -/
theorem rowLimit_occursIn_iff
    (noFetch : "fetch".toList ∉ Text.words text)
    (noTop : "top".toList ∉ Text.words text) :
    rowLimit.occursIn text ↔ "limit".toList ∈ Text.words text := by
  refine limit_occursIn_iff (fun {lead run rest} isTop => ?_) noFetch noTop
  obtain ⟨start, _, rfl, ⟨rfl, -⟩, covered⟩ := covers_all_cons.mp isTop
  exact mem_words_of_selectTop covered

theorem covers_orderBy
    {before : Option Char}
    {run rest : Text} :
    orderBy.Covers before run rest ↔ SpellsPhrase ["order", "by"] run ∧
      before.any Text.isWord = false ∧ rest.head?.any Text.isWord = false := by
  have isPhrase (before : Option Char) (run rest : Text) :
      (phrasePattern ["order", "by"]).Covers before run rest ↔ SpellsPhrase ["order", "by"] run :=
    covers_phrasePattern (.inr rfl)
  have ends (before : Option Char) (run rest : Text)
      (covered : (phrasePattern ["order", "by"]).Covers before run rest) :=
    ((isPhrase before run rest).mp covered).isWord_ends (List.cons_ne_nil _ _) (by decide)
  rw [← isPhrase before run rest]
  exact covers_between_edges ends

/-- Sorting takes the word ORDER. -/
theorem mem_words_of_orderBy
    (found : orderBy.occursIn text) :
    "order".toList ∈ Text.words text := by
  have isSmallWord : Text.IsSmallWord "order" := by decide
  obtain ⟨lead, run, rest, rfl, covered⟩ := occursIn_iff.mp found
  obtain ⟨spells, outside, outsideBehind⟩ := covers_orderBy.mp covered
  obtain ⟨first, more, rfl, folds, isBehind⟩ := spells.exists_first
  rw [List.append_assoc]
  refine isSmallWord.mem_words folds outside ?_
  rcases isBehind with rfl | ⟨c, head, blank⟩
  · exact outsideBehind
  · rw [List.head?_append, head]
    exact Text.isWord_of_isBlank blank

/-- The words around the first WHERE. What is behind it decides whether an OR counts. -/
theorem exists_words_of_search
    {found : Occurrence}
    (search : (Pattern.word "where").search text = some found) :
    ∃ front rest, Text.words text = front ++ "where".toList :: Text.words rest ∧
      "where".toList ∉ front ∧ (hasOrAfterWhere text = true ↔ "or".toList ∈ Text.words rest) := by
  have isSmallWord : Text.IsSmallWord "where" := by decide
  obtain ⟨lead, run, rest, equal, covered, start, stop⟩ := covers_of_searchFrom search
  obtain ⟨folds, outside, outsideBehind⟩ := (covers_word isSmallWord).mp covered
  have isWordRun : run ≠ [] ∧ ∀ c ∈ run, Text.isWord c = true :=
    ⟨isSmallWord.ne_nil folds, fun _ inRun => isSmallWord.isWord_of_mem folds inRun⟩
  have words := Text.words_whole isWordRun outside outsideBehind
  rw [← equal, folds] at words
  have place : Place.within text found.stop = ⟨(lead ++ run).getLast?, found.stop, rest⟩ := by
    have length : found.stop = (lead ++ run).length := by
      rw [stop, List.length_append]
      omega
    rw [Place.within, equal, ← List.append_assoc, length, List.take_left, List.drop_left]
  refine ⟨Text.words lead, rest, words, ?_, ?_⟩
  · exact not_mem_words_of_isQuiet isSmallWord (isQuiet_of_searchFrom search start equal) outside
  · rw [hasOrAfterWhere, search]
    simp only [place]
    rw [(isWhole_word (by decide)).searchFrom_isSome_iff (.inr outsideBehind)]
    simp only [decide_eq_true_eq, exists_eq_right]

/-- Whether an OR stands behind the only WHERE, given the words of a text that matter. -/
theorem hasOrAfterWhere_iff
    {matters : Text → Bool}
    (whereMatters : matters "where" = true)
    (orMatters : matters "or" = true)
    {front behind : List Text}
    (words : (Text.words text).filter matters = front ++ "where".toList :: behind)
    (first : "where".toList ∉ front)
    (last : "where".toList ∉ behind) :
    hasOrAfterWhere text = true ↔ "or".toList ∈ behind := by
  have present : "where".toList ∈ Text.words text := by
    refine (List.mem_filter.mp (?_ : _ ∈ (Text.words text).filter matters)).1
    rw [words]
    simp
  have occurs := (word_occursIn_iff (by decide) text).mpr present
  obtain ⟨found, search⟩ := Option.isSome_iff_exists.mp occurs
  obtain ⟨lead, rest, wordsEq, -, orBehind⟩ := exists_words_of_search search
  have behindEq : (Text.words rest).filter matters = behind := by
    rw [wordsEq, List.filter_append, List.filter_cons_of_pos whereMatters] at words
    exact ((List.append_cons_inj_of_notMem first last).mp words.symm).2.2.symm
  rw [orBehind, ← behindEq, List.mem_filter]
  exact (and_iff_left orMatters).symm

theorem not_hasOrAfterWhere
    (absent : "where".toList ∉ Text.words text) :
    hasOrAfterWhere text = false := by
  have nothing : (Pattern.word "where").search text = none := by
    rw [← Option.not_isSome_iff_eq_none]
    exact fun occurs => absent ((word_occursIn_iff (by decide) text).mp occurs)
  rw [hasOrAfterWhere, nothing]

/-- An OR behind a WHERE is a matter of words. -/
theorem hasOrAfterWhere_iff_words :
    hasOrAfterWhere text = true ↔ ∃ front behind,
      Text.words text = front ++ "where".toList :: behind ∧ "or".toList ∈ behind := by
  cases search : (Pattern.word "where").search text with
  | none =>
      have absent : "where".toList ∉ Text.words text := by
        intro present
        have occurs := (word_occursIn_iff (by decide) text).mpr present
        rw [occursIn, search] at occurs
        contradiction
      rw [not_hasOrAfterWhere absent]
      refine iff_of_false Bool.false_ne_true ?_
      rintro ⟨front, behind, words, -⟩
      exact absent (by simp [words])
  | some found =>
      obtain ⟨lead, rest, words, first, orBehind⟩ := exists_words_of_search search
      rw [orBehind]
      constructor
      · exact fun present => ⟨lead, Text.words rest, words, present⟩
      · rintro ⟨front, behind, wordsToo, present⟩
        -- No WHERE comes before the one that was found, so this one is it or comes behind it.
        rw [words] at wordsToo
        rcases List.append_eq_append_iff.mp wordsToo with ⟨middle, -, restEq⟩ |
          ⟨middle, leadEq, behindEq⟩
        · cases middle with
          | nil => rwa [(List.cons.inj restEq).2]
          | cons word middle =>
              rw [(List.cons.inj restEq).2]
              exact List.mem_append_right _ (.tail _ present)
        · cases middle with
          | nil => rwa [← (List.cons.inj behindEq).2]
          | cons word middle =>
              refine absurd ?_ first
              rw [leadEq, ← (List.cons.inj behindEq).1]
              simp

/-- Whether a word counts as a join. -/
def isJoinWord (word : Text) : Bool :=
  word = "join".toList

/-- Whether a word counts as the condition of a join. -/
def isConditionWord (word : Text) : Bool :=
  word = "on".toList || word = "using".toList

/-- Joins and their conditions are counted by words. -/
theorem hasUnconditionedJoin_eq :
    hasUnconditionedJoin text =
      decide ((Text.words text).countP isConditionWord < (Text.words text).countP isJoinWord) := by
  have conditions := (isWhole_word (show Text.IsSmallWord "on" by decide)).alt
    (isWhole_word (show Text.IsSmallWord "using" by decide))
  have joins := isWhole_word (show Text.IsSmallWord "join" by decide)
  rw [hasUnconditionedJoin, joinCondition, conditions.length_occurrences,
    joins.length_occurrences]
  rfl

end Heuristic
end SqlReview
