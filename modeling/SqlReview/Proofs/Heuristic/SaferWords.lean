import SqlReview.Proofs.Heuristic.SaferQuery

/-!
# The words of the safer query

The safer query has the words of the query with three columns behind every selected star, and those of
a limit if it needs one, just if no word starts directly behind a selected star,
`words_saferQuery_iff`. Otherwise the last column and that word become one.
-/

namespace SqlReview
namespace Heuristic

open Pattern Query Text

variable {lead run rest text query : Text}

/-! ## Words with columns -/

/-- A text cut at places given in increasing order, where the text itself starts at an offset. -/
def cutAt (offset : Nat) : List Nat → Text → List Text
  | [], text => [text]
  | stop :: stops, text => text.take (stop - offset) :: cutAt stop stops (text.drop (stop - offset))

/-- The words of the columns that take the place of a star. -/
def columnWords : List Text :=
  ["id", "status", "created_at"]

/-- The words of a query with those of the columns behind every selected star. -/
def wordsWithColumns (query : Text) : List Text :=
  columnWords.intercalate ((cutAt 0 (starEnds query) query).map words)

theorem cutAt_add
    (count offset : Nat)
    (stops : List Nat)
    (text : Text) :
    cutAt (count + offset) (stops.map (count + ·)) text = cutAt offset stops text := by
  induction stops generalizing offset text with
  | nil => rfl
  | cons stop stops inductionHypothesis =>
      rw [List.map_cons, cutAt, cutAt, inductionHypothesis, Nat.add_sub_add_left]

theorem cutAt_ne_nil
    (offset : Nat)
    (stops : List Nat)
    (text : Text) :
    cutAt offset stops text ≠ [] := by
  cases stops <;> exact List.cons_ne_nil _ _

theorem wordsWithColumns_of_not_occursIn
    (quiet : selectStar.occursIn text = false) :
    wordsWithColumns text = words text := by
  rw [wordsWithColumns, starEnds_of_not_occursIn quiet]
  exact List.append_nil _

/-- The columns stand behind the words up to the first star. -/
theorem wordsWithColumns_star
    (quiet : selectStar.occursIn lead = false)
    (isStar : IsStarRun run) :
    wordsWithColumns (lead ++ (run ++ rest)) =
      words (lead ++ run) ++ (columnWords ++ wordsWithColumns rest) := by
  have cut : cutAt 0 (starEnds (lead ++ (run ++ rest))) (lead ++ (run ++ rest)) =
      (lead ++ run) :: cutAt 0 (starEnds rest) rest := by
    rw [starEnds_star quiet isStar, cutAt, Nat.sub_zero, ← List.append_assoc, List.take_left,
      List.drop_left]
    exact congrArg _ (cutAt_add (lead ++ run).length 0 (starEnds rest) rest)
  obtain ⟨first, others, pieces⟩ := List.exists_cons_of_ne_nil (cutAt_ne_nil 0 (starEnds rest) rest)
  rw [wordsWithColumns, wordsWithColumns, cut, pieces, List.map_cons, List.map_cons,
    List.intercalate_cons_cons, List.append_assoc]

/-! ## Words around a star -/

/-- Words are compared by the letters that their characters stand for. -/
theorem words_map_foldLetter (text : Text) :
    words (text.map foldLetter) = words text := by
  have keepsWords (c : Char) : isWord (foldLetter c) = isWord c := by
    by_cases isLetter : 'a' ≤ foldLetter c ∧ foldLetter c ≤ 'z'
    · rw [isWord_of_foldLetter isLetter, isWord_of_foldLetter (by rwa [foldLetter_foldLetter])]
    · rw [← eq_of_foldLetter rfl isLetter]
  rw [words_map keepsWords fun _ => rfl]
  refine (List.map_congr_left fun word present => ?_).trans (List.map_id _)
  obtain ⟨piece, -, rfl⟩ := List.mem_map.mp present
  rw [List.map_map]
  exact List.map_congr_left fun c _ => foldLetter_foldLetter c

/-- A selected star has the word SELECT, which may end a longer word. -/
theorem words_star
    (isStar : IsStarRun run)
    (lead : Text) :
    words (lead ++ run) = words (lead ++ "SELECT".toList) := by
  obtain ⟨select, blanks, rfl, folds, nonempty, areBlank⟩ := isStar
  have noWord : ∀ c ∈ blanks ++ ['*'], isWord c = false := by
    rw [List.forall_mem_append]
    exact ⟨fun c present => isWord_of_isBlank (areBlank c present), by decide⟩
  have behind : words (lead ++ (select ++ (blanks ++ ['*']))) = words (lead ++ select) := by
    rw [← List.append_assoc, words_append_of_head _ ((isWord_of_blanks nonempty areBlank).2 ['*']),
      words_of_noWord noWord, List.append_nil]
  rw [behind, ← words_map_foldLetter, ← words_map_foldLetter (lead ++ "SELECT".toList),
    List.map_append, List.map_append, folds]
  rfl

theorem words_columns
    {behind : Text}
    (outside : behind.head?.any isWord = false)
    (front : Text) :
    words (front ++ (replacementColumns ++ behind)) =
      words (front ++ "SELECT".toList) ++ (columnWords ++ words behind) := by
  have columns : words " id, status, created_at" = columnWords := by decide
  have split : front ++ (replacementColumns ++ behind) =
      (front ++ "SELECT".toList) ++ (" id, status, created_at".toList ++ behind) := by
    rw [List.append_assoc]
    rfl
  rw [split, words_append_of_head (front ++ "SELECT".toList) (by rfl),
    words_append_of_head _ outside, columns]

/-- A word directly behind the columns becomes one with the last of them. -/
theorem length_words_columns
    {behind : Text}
    (inside : behind.head?.any isWord = true)
    (front : Text) :
    (words (front ++ (replacementColumns ++ behind))).length + 1 =
      (words (front ++ "SELECT".toList)).length + (columnWords.length + (words behind).length) := by
  cases behind with
  | nil => exact absurd inside (by decide)
  | cons c behind =>
      obtain ⟨word, others, equal, isWordRun, outside, behindWords⟩ := exists_word inside behind
      have isLonger : "created_at".toList ++ word ≠ [] ∧
          ∀ d ∈ "created_at".toList ++ word, isWord d = true := by
        refine ⟨by simp, List.forall_mem_append.mpr ⟨?_, isWordRun.2⟩⟩
        decide
      have first : words " id, status, " = ["id".toList, "status".toList] := by decide
      have split : front ++ (replacementColumns ++ (word ++ others)) =
          front ++ "SELECT".toList ++ " id, status, ".toList ++
            (("created_at".toList ++ word) ++ others) := by
        rw [List.append_assoc, List.append_assoc, List.append_assoc]
        rfl
      have outsideFront : (lastOr none (front ++ "SELECT".toList ++ " id, status, ".toList)).any
          isWord = false := by
        rw [lastOr_append]
        rfl
      rw [behindWords, equal, split, words_whole isLonger outsideFront outside,
        words_append_of_head (front ++ "SELECT".toList) (by rfl), first]
      simp only [List.length_append, List.length_cons, List.length_nil, columnWords]
      omega

/-! ## The text with columns -/

theorem length_words_replace_le (text : Text) :
    (words (selectStar.replace replacementColumns text)).length ≤ (wordsWithColumns text).length := by
  induction text using stars_induction with
  | quiet text quiet =>
      rw [replace_of_not_occursIn replacementColumns quiet, wordsWithColumns_of_not_occursIn quiet]
  | star lead run rest quiet isStar inductionHypothesis =>
      rw [replace_star replacementColumns quiet isStar, wordsWithColumns_star quiet isStar,
        words_star isStar, List.length_append, List.length_append]
      cases inside : (selectStar.replace replacementColumns rest).head?.any isWord with
      | true =>
          have length := length_words_columns inside lead
          omega
      | false =>
          rw [words_columns inside, List.length_append, List.length_append]
          omega

/-- Columns in the places of stars leave the words alone just if no word starts behind a star. -/
theorem words_replace_iff (text : Text) :
    words (selectStar.replace replacementColumns text) = wordsWithColumns text ↔
      NoWordBehindStar text := by
  induction text using stars_induction with
  | quiet text quiet =>
      rw [replace_of_not_occursIn replacementColumns quiet, wordsWithColumns_of_not_occursIn quiet]
      exact iff_of_true rfl (noWordBehindStar_of_not_occursIn quiet)
  | star lead run rest quiet isStar inductionHypothesis =>
      have head : (selectStar.replace replacementColumns rest).head?.any isWord =
          rest.head?.any isWord := by
        refine any_head?_replace (by decide) (fun c isS => ?_) rest
        exact isWord_of_foldLetter (c := c) (by rw [isS]; decide)
      rw [replace_star replacementColumns quiet isStar, wordsWithColumns_star quiet isStar,
        words_star isStar, noWordBehindStar_star quiet isStar, ← head]
      cases inside : (selectStar.replace replacementColumns rest).head?.any isWord with
      | true =>
          refine iff_of_false (fun same => ?_) (fun outside => absurd outside.1 (by decide))
          have length := length_words_columns inside lead
          have atMost := length_words_replace_le rest
          rw [same, List.length_append, List.length_append] at length
          omega
      | false =>
          rw [words_columns inside, List.append_right_inj, List.append_right_inj,
            inductionHypothesis, and_iff_right rfl]

/-! ## The safer query -/

/-- The words of a limit. -/
def limitWords : List Text :=
  ["limit", "100"]

theorem words_appendLimit (text : Text) :
    words (appendLimit text) = words text ++ limitWords := by
  obtain ⟨stem, ending, rfl, few, equal⟩ := appendLimit_eq text
  have line : words limitLine = limitWords := by decide
  have noWord : ∀ c ∈ ending, isWord c = false := by
    rcases few with rfl | rfl <;> decide
  have outside : ending.head?.any isWord = false := by
    rcases few with rfl | rfl <;> decide
  rw [equal, words_append_of_head stem (by rfl : limitLine.head?.any isWord = false), line,
    words_append_of_head stem outside, words_of_noWord noWord, List.append_nil]

/-- The safer query has the words of the query, the columns behind every star and those of a limit if
it needs one, just if no word starts directly behind a selected star. -/
theorem words_saferQuery_iff (query : Text) :
    words (analyze query).saferQuery =
        wordsWithColumns query ++
          (if (signals (lower query)).contains .orderByWithoutLimit then limitWords else []) ↔
      NoWordBehindStar query := by
  rw [← words_replace_iff query, (sameLayout_replace_trim query).words_eq, saferQuery_eq]
  split
  · rw [words_appendLimit, List.append_left_inj]
  · rw [List.append_nil]

/-- A star directly followed by the word FROM. -/
def tightStarQuery : Text :=
  "SELECT *FROM t"

/-- The safer query has lost the word FROM. -/
theorem words_saferQuery_tight :
    words (analyze tightStarQuery).saferQuery ≠
      wordsWithColumns tightStarQuery ++
        (if (signals (lower tightStarQuery)).contains .orderByWithoutLimit then limitWords
        else []) := by
  decide

end Heuristic
end SqlReview
