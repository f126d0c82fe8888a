import SqlReview.Proofs.Pattern.Word
import SqlReview.Query.Scope

/-!
# The start of a subquery

Whether an opening parenthesis encloses a subquery depends on the text behind it: white space, the
word SELECT, and no word character behind the word. A text that starts with neither white space
nor a word character therefore decides nothing for the parentheses before it,
`startsSubquery_append`.
-/

namespace SqlReview
namespace Query

/-- Whether a text starts with the word SELECT, white space before it aside. -/
def StartsWithSelect (text : Text) : Prop :=
  ∃ lead word rest, text = lead ++ word ++ rest ∧ (∀ c ∈ lead, Text.isBlank c = true) ∧
    word.map Text.foldLetter = "select".toList ∧ rest.head?.any Text.isWord = false

theorem isSmallWord_select : Text.IsSmallWord "select" := by decide

theorem startsSubquery_iff {text : Text} :
    startsSubquery text ↔ ∃ body, text = '(' :: body ∧ StartsWithSelect body := by
  rw [startsSubquery, Pattern.fitsStart_iff]
  simp only [subqueryHead, Pattern.covers_char_cons, Pattern.covers_blanks_cons,
    Pattern.covers_letters_edge isSmallWord_select, Pattern.covers_all_nil]
  constructor
  · rintro ⟨_, rest, rfl, _, rfl, lead, _, rfl, blank, word, _, rfl, folds, outside, rfl⟩
    exact ⟨lead ++ word ++ rest, by simp, lead, word, rest, rfl, blank, folds, outside⟩
  · rintro ⟨_, rfl, lead, word, rest, rfl, blank, folds, outside⟩
    exact ⟨'(' :: (lead ++ word), rest, rfl, lead ++ word, rfl, lead, word, rfl, blank,
      word, [], (List.append_nil word).symm, folds, outside, rfl⟩

/-- Whether a text can stand behind a word SELECT, or in the middle of its beginning, without any
effect on it: neither white space nor a word character comes first. -/
def IsBarrier (text : Text) : Prop :=
  ∀ c ∈ text.head?, Text.isBlank c = false ∧ Text.isWord c = false

theorem isBarrier_open (rest : Text) :
    IsBarrier ('(' :: rest) := by
  rintro c present
  obtain rfl : '(' = c := by simpa using present
  decide

theorem isBarrier_close (rest : Text) :
    IsBarrier (')' :: rest) := by
  rintro c present
  obtain rfl : ')' = c := by simpa using present
  decide

/-- A barrier does not reach into the beginning of the text that it follows. -/
theorem startsWithSelect_append
    {rest : Text}
    (isBarrier : IsBarrier rest)
    (text : Text) :
    StartsWithSelect (text ++ rest) ↔ StartsWithSelect text := by
  constructor
  · rintro ⟨lead, word, tail, equal, blank, folds, outside⟩
    rcases List.append_eq_append_iff.mp equal with ⟨more, head, back⟩ | ⟨more, head, back⟩
    · -- The beginning ends inside `rest`, so it can take nothing of it.
      cases more with
      | nil =>
          rw [List.append_nil] at head
          exact ⟨lead, word, [], by rw [head, List.append_nil], blank, folds, rfl⟩
      | cons c more =>
          obtain ⟨noBlank, noWord⟩ := isBarrier c (by rw [back]; rfl)
          have present : c ∈ lead ++ word := by
            rw [head]
            exact List.mem_append_right _ (.head _)
          rcases List.mem_append.mp present with inLead | inWord
          · exact absurd (blank c inLead) (by simp [noBlank])
          · exact absurd (isSmallWord_select.isWord_of_mem folds inWord) (by simp [noWord])
    · refine ⟨lead, word, more, head, blank, folds, ?_⟩
      cases more with
      | nil => rfl
      | cons c more =>
          rw [back] at outside
          exact outside
  · rintro ⟨lead, word, tail, rfl, blank, folds, outside⟩
    refine ⟨lead, word, tail ++ rest, by simp, blank, folds, ?_⟩
    cases tail with
    | nil =>
        cases rest with
        | nil => rfl
        | cons c rest => exact (isBarrier c rfl).2
    | cons c tail => exact outside

/-- Whether a parenthesis encloses a subquery does not depend on what follows a barrier. -/
theorem startsSubquery_append
    {rest : Text}
    (isBarrier : IsBarrier rest)
    (c : Char)
    (text : Text) :
    startsSubquery (c :: text ++ rest) = startsSubquery (c :: text) := by
  rw [Bool.eq_iff_iff, startsSubquery_iff, startsSubquery_iff]
  constructor
  · rintro ⟨body, equal, starts⟩
    obtain ⟨rfl, rfl⟩ := List.cons.inj equal
    exact ⟨text, rfl, (startsWithSelect_append isBarrier text).mp starts⟩
  · rintro ⟨body, equal, starts⟩
    obtain ⟨rfl, rfl⟩ := List.cons.inj equal
    exact ⟨text ++ rest, rfl, (startsWithSelect_append isBarrier text).mpr starts⟩

end Query
end SqlReview
