import SqlReview.Proofs.Pattern.Words
import SqlReview.Query.Structure

/-!
# Words behind hints and limits

An index hint and a limit on the number of rows are spelled with certain words. A text without these
words has no such hint, and only the word LIMIT can limit its rows.
-/

namespace SqlReview
namespace Query

open Pattern

variable {word lead run rest : Text}

/-- What starts with a whole word and white space has this word. -/
theorem mem_words_of_edge_letters
    (isSmallWord : word.IsSmallWord)
    {others : List Pattern}
    (covered : (all (.edge :: .letters word :: .someBlanks :: others)).Covers
      (Text.lastOr none lead) run rest) :
    word ∈ Text.words (lead ++ (run ++ rest)) := by
  rw [covers_edge_letters isSmallWord] at covered
  obtain ⟨outside, first, _, rfl, folds, covered⟩ := covered
  obtain ⟨blanks, more, rfl, isBlanks, -⟩ := covers_all_cons.mp covered
  obtain ⟨nonempty, blank⟩ := covers_someBlanks.mp isBlanks
  rw [List.append_assoc, List.append_assoc]
  exact isSmallWord.mem_words folds outside ((Text.isWord_of_blanks nonempty blank).2 _)

/-- What starts with a whole word and an opening parenthesis has this word. -/
theorem mem_words_of_edge_letters_open
    (isSmallWord : word.IsSmallWord)
    {others : List Pattern}
    (covered : (all (.edge :: .letters word :: .blanks :: .char '(' :: others)).Covers
      (Text.lastOr none lead) run rest) :
    word ∈ Text.words (lead ++ (run ++ rest)) := by
  rw [covers_edge_letters isSmallWord] at covered
  obtain ⟨outside, first, _, rfl, folds, covered⟩ := covered
  obtain ⟨blanks, _, rfl, blank, covered⟩ := covers_blanks_cons.mp covered
  obtain ⟨more, rfl, -⟩ := covers_char_cons.mp covered
  have outsideBehind : (blanks ++ '(' :: more ++ rest).head?.any Text.isWord = false := by
    cases blanks with
    | nil => rfl
    | cons c blanks => exact Text.isWord_of_isBlank (blank c (.head _))
  rw [List.append_assoc]
  exact isSmallWord.mem_words folds outside outsideBehind

/-! ## Limits -/

/-- The word TOP behind SELECT, as both reviews look for it. -/
def selectTop : List Pattern :=
  [.letters "select", .someBlanks, optionalWord "distinct", .letters "top", .edge]

theorem mem_words_of_selectTop
    {before : Option Char}
    (covered : (all selectTop).Covers before run rest) :
    "top".toList ∈ Text.words (lead ++ (run ++ rest)) := by
  have isSmallWord : Text.IsSmallWord "top" := by decide
  obtain ⟨select, _, rfl, -, covered⟩ := covers_all_cons.mp covered
  obtain ⟨blanks, _, rfl, isBlanks, covered⟩ := covers_all_cons.mp covered
  obtain ⟨distinct, _, rfl, isDistinct, covered⟩ := covers_all_cons.mp covered
  obtain ⟨top, more, rfl, folds, outsideBehind, nothing⟩ :=
    (covers_letters_edge isSmallWord).mp covered
  obtain rfl : more = [] := nothing
  obtain ⟨nonempty, blank⟩ := covers_someBlanks.mp isBlanks
  have outside : (Text.lastOr none (lead ++ select ++ (blanks ++ distinct))).any Text.isWord =
      false := by
    rw [Text.lastOr_append, Text.lastOr_append]
    rcases isDistinct with ⟨letters, others, rfl, -, isOthers⟩ | nothing
    · obtain ⟨nonempty, blank⟩ := covers_someBlanks.mp isOthers
      rw [Text.lastOr_append]
      exact (Text.isWord_of_blanks nonempty blank).1 _
    · obtain rfl : distinct = [] := nothing
      exact (Text.isWord_of_blanks nonempty blank).1 _
  have split : lead ++ (select ++ (blanks ++ (distinct ++ (top ++ []))) ++ rest) =
      lead ++ select ++ (blanks ++ distinct) ++ (top ++ rest) := by
    simp
  rw [split]
  exact isSmallWord.mem_words folds outside outsideBehind

variable {text : Text}

/-- Where TOP is looked for as a word, a text without the words FETCH and TOP has its rows limited by the
word LIMIT. -/
theorem limit_occursIn_iff
    {top : Pattern}
    (isWord : ∀ {lead run rest : Text}, top.Covers (Text.lastOr none lead) run rest →
      "top".toList ∈ Text.words (lead ++ (run ++ rest)))
    (noFetch : "fetch".toList ∉ Text.words text)
    (noTop : "top".toList ∉ Text.words text) :
    (Pattern.any [.word "limit",
      all [.edge, .letters "fetch", .someBlanks, .alt (.letters "first") (.letters "next"), .edge],
      top]).occursIn text ↔ "limit".toList ∈ Text.words text := by
  rw [← word_occursIn_iff (by decide), occursIn_iff, occursIn_iff]
  constructor
  · rintro ⟨lead, run, rest, rfl, covered⟩
    rcases covered with isLimit | isFetch | isTop
    · exact ⟨lead, run, rest, rfl, isLimit⟩
    · exact absurd (mem_words_of_edge_letters (by decide) isFetch) noFetch
    · exact absurd (isWord isTop) noTop
  · rintro ⟨lead, run, rest, rfl, covered⟩
    exact ⟨lead, run, rest, rfl, .inl covered⟩

/-- In a text without the words FETCH and TOP, rows are limited by the word LIMIT. -/
theorem rowLimit_occursIn_iff
    (noFetch : "fetch".toList ∉ Text.words text)
    (noTop : "top".toList ∉ Text.words text) :
    rowLimit.occursIn text ↔ "limit".toList ∈ Text.words text := by
  refine limit_occursIn_iff (fun {lead run rest} isTop => ?_) noFetch noTop
  obtain ⟨start, _, rfl, ⟨rfl, -⟩, covered⟩ := covers_all_cons.mp isTop
  obtain ⟨blanks, top, rfl, -, covered⟩ := covers_blanks_cons.mp covered
  have present : "top".toList ∈ Text.words (lead ++ blanks ++ (top ++ rest)) :=
    mem_words_of_selectTop covered
  simpa using present

/-! ## Index hints -/

/-- An index hint is in a comment, or it starts with one of a few words. -/
theorem of_indexHint_occursIn
    (found : indexHint.occursIn text) :
    '/' ∈ text ∨ ∃ word ∈ (["use", "force", "ignore", "with"] : List Text),
      word ∈ Text.words text := by
  obtain ⟨lead, run, rest, rfl, covered⟩ := occursIn_iff.mp found
  rcases covered with behindTable | inList | inComment
  · obtain ⟨_, _, rfl, isEdge, covered⟩ := covers_all_cons.mp behindTable
    obtain ⟨first, _, rfl, isFirst, covered⟩ := covers_all_cons.mp covered
    obtain ⟨pattern, present, isLetters⟩ := (covers_any (List.cons_ne_nil _ _)).mp isFirst
    have isWord {word : Text} (isSmallWord : word.IsSmallWord)
        (letters : pattern = .letters word) :
        word ∈ Text.words (lead ++ (_ ++ (first ++ _) ++ rest)) :=
      mem_words_of_edge_letters isSmallWord (covers_all_cons.mpr ⟨_, _, rfl, isEdge,
        covers_all_cons.mpr ⟨_, _, rfl, letters ▸ isLetters, covered⟩⟩)
    simp only [List.mem_cons, List.not_mem_nil, or_false] at present
    rcases present with rfl | rfl | rfl
    · exact .inr ⟨"use", by decide, isWord (by decide) rfl⟩
    · exact .inr ⟨"force", by decide, isWord (by decide) rfl⟩
    · exact .inr ⟨"ignore", by decide, isWord (by decide) rfl⟩
  · exact .inr ⟨"with", by decide, mem_words_of_edge_letters_open (by decide) inList⟩
  · obtain ⟨mark, others, rfl, folds, -⟩ := covers_letters_cons.mp inComment
    obtain ⟨c, tail, rfl, isSlash, -⟩ := List.map_eq_cons_iff.mp folds
    obtain rfl : c = '/' := Text.eq_of_foldLetter isSlash (by decide)
    exact .inl (by simp)

end Query
end SqlReview
