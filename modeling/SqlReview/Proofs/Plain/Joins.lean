import SqlReview.Proofs.Plain.Items
import SqlReview.Proofs.Query.Hints
import SqlReview.Proofs.Query.Joins

/-!
# The joins of a plain query

Each further table of a plain query is found as one join. Its condition is missing if and only if
the query has none there.
-/

namespace SqlReview
namespace Plain

open Query

/-! ## Keywords of joins -/

/-- The words with which the keywords of a join start. -/
def joinWords : List Text :=
  ["natural", "inner", "cross", "left", "right", "full", "outer", "join"]

theorem isSmallWord_of_mem_joinWords :
    ∀ word ∈ joinWords, Text.IsSmallWord word := by
  decide

/-- Whether everything that a pattern covers starts with one of the words of a join, as a whole word
at its end. -/
def StartsJoin (pattern : Pattern) : Prop :=
  ∀ before run rest, pattern.Covers before run rest →
    ∃ word more, run = word ++ more ∧ word.map Text.foldLetter ∈ joinWords ∧
      (more ++ rest).head?.any Text.isWord = false

/-- A word with white space behind it may be missing. -/
theorem startsJoin_optional
    {body : Pattern}
    {parts : List Pattern}
    (isJoinWord : ∀ before run rest, body.Covers before run rest →
      run.map Text.foldLetter ∈ joinWords)
    (others : StartsJoin (.all parts)) :
    StartsJoin (.all (.optional (.seq body .someBlanks) :: parts)) := by
  intro before run rest covered
  obtain ⟨first, behind, rfl, isFirst, covered⟩ := Pattern.covers_all_cons.mp covered
  rcases isFirst with ⟨word, blanks, rfl, isWord, isBlanks⟩ | nothing
  · obtain ⟨nonempty, blank⟩ := Pattern.covers_someBlanks.mp isBlanks
    refine ⟨word, blanks ++ behind, by simp, isJoinWord _ _ _ isWord, ?_⟩
    rw [List.append_assoc]
    exact (Text.isWord_of_blanks nonempty blank).2 _
  · obtain rfl : first = [] := nothing
    exact others _ _ _ covered

theorem startsWithWord_joinKeyword :
    joinKeyword.StartsWithWord (joinWords.contains ·) := by
  have letters {word : Text} (isJoinWord : word ∈ joinWords) (before : Option Char)
      (run rest : Text) (covered : (Pattern.letters word).Covers before run rest) :
      run.map Text.foldLetter ∈ joinWords := by
    rwa [Pattern.covers_letters.mp covered]
  have sides (before : Option Char) (run rest : Text)
      (covered : (Pattern.any [.letters "inner", .letters "cross", .letters "left",
        .letters "right", .letters "full"]).Covers before run rest) :
      run.map Text.foldLetter ∈ joinWords := by
    obtain ⟨pattern, present, isWord⟩ := (Pattern.covers_any (List.cons_ne_nil _ _)).mp covered
    simp only [List.mem_cons, List.not_mem_nil, or_false] at present
    rcases present with rfl | rfl | rfl | rfl | rfl
    · exact letters (by decide) _ _ _ isWord
    · exact letters (by decide) _ _ _ isWord
    · exact letters (by decide) _ _ _ isWord
    · exact letters (by decide) _ _ _ isWord
    · exact letters (by decide) _ _ _ isWord
  have join : StartsJoin (.all [.letters "join", .edge]) := by
    intro before run rest covered
    obtain ⟨first, more, rfl, folds, outside, -⟩ :=
      (Pattern.covers_letters_edge (by decide)).mp covered
    exact ⟨first, more, rfl, folds ▸ by decide, outside⟩
  have outer := startsJoin_optional (letters (show "outer".toList ∈ joinWords by decide)) join
  have natural := startsJoin_optional (letters (show "natural".toList ∈ joinWords by decide))
    (startsJoin_optional sides outer)
  intro before run rest covered
  obtain ⟨start, _, rfl, ⟨rfl, isEdge⟩, covered⟩ := Pattern.covers_all_cons.mp covered
  obtain ⟨word, more, rfl, isJoinWord, outside⟩ := natural _ _ _ covered
  have isSmallWord := isSmallWord_of_mem_joinWords _ isJoinWord
  refine ⟨word, more, rfl, ⟨isSmallWord.ne_nil rfl, fun _ inWord =>
    isSmallWord.isWord_of_mem rfl inWord⟩, List.contains_iff_mem.mpr isJoinWord, ?_, outside⟩
  rw [Place.isWordEdge, List.append_assoc, isSmallWord.isWord_head? rfl] at isEdge
  simpa using isEdge

/-! ## Joins one after another -/

/-- The occurrence of the keywords of a join. -/
def phraseAt (phrase : Text) (index : Nat) : Occurrence :=
  ⟨index, index + phrase.length, phrase, []⟩

/-- Joins one after another, each given by its keywords and by what stands behind them. -/
def joinTexts (joins : List (Text × Text)) : Text :=
  joins.flatMap fun join => ' ' :: (join.1 ++ ' ' :: join.2)

/-- A text up to the end of one more join. -/
def withJoin (front : Text) (join : Text × Text) : Text :=
  front ++ ' ' :: (join.1 ++ ' ' :: join.2)

/-- Whether a text is that of a join, given by its keywords and by what stands behind them. -/
structure IsJoin (join : Text × Text) : Prop where
  /-- There are keywords. -/
  nonempty : join.1 ≠ []
  /-- The keywords are found where they stand. -/
  found : ∀ index rest, joinKeyword.occurrenceAt? ⟨some ' ', index, join.1 ++ ' ' :: rest⟩ =
    some (phraseAt join.1 index)
  /-- No further keywords of a join follow. -/
  absent : ∀ word ∈ keywords join.2, word ∉ joinWords

theorem isJoin_of_keywords
    {phrase target : Text}
    (nonempty : phrase ≠ [])
    (found : ∀ index rest, joinKeyword.occurrenceAt? ⟨some ' ', index, phrase ++ ' ' :: rest⟩ =
      some ⟨index, index + phrase.length,
        (phrase ++ ' ' :: rest).take (index + phrase.length - index), []⟩)
    (absent : ∀ word ∈ keywords target, word ∉ joinWords) :
    IsJoin (phrase, target) := by
  refine ⟨nonempty, fun index rest => ?_, absent⟩
  change joinKeyword.occurrenceAt? ⟨_, _, phrase ++ _⟩ = some (phraseAt phrase index)
  rw [found, Nat.add_sub_cancel_left, List.take_left]
  rfl

section

variable {join : Text × Text} {others : List (Text × Text)} {closing : Text}

/-- No keywords of a join are found in front of joins. -/
theorem isQuiet_joinTexts
    {front : Text}
    (absent : ∀ word ∈ keywords front, word ∉ joinWords)
    (isGap : IsGap closing)
    (joins : List (Text × Text))
    (before : Option Char) :
    joinKeyword.IsQuiet before (' ' :: front) (joinTexts joins ++ closing) := by
  refine startsWithWord_joinKeyword.isQuiet (fun word present => ?_) (.inr ?_)
  · have reserved : ∀ word ∈ joinWords, word ∈ reservedWords := by decide
    rw [Text.words_cons (by decide)] at present
    rw [Bool.eq_false_iff]
    intro isJoinWord
    have isJoinWord := List.contains_iff_mem.mp isJoinWord
    exact absent word ((mem_keywords (reserved word isJoinWord)).mpr present) isJoinWord
  · cases joins with
    | nil => rcases isGap with rfl | rfl <;> rfl
    | cons next others => rfl

/-- The first of several joins is found first. -/
theorem occurrencesFrom_joinTexts
    (isJoin : IsJoin join)
    (isGap : IsGap closing)
    (others : List (Text × Text))
    (before : Option Char)
    (front : Text) :
    ∃ later, joinKeyword.occurrencesFrom 0 before front.length
        (joinTexts (join :: others) ++ closing) =
      phraseAt join.1 (front.length + 1) :: joinKeyword.occurrencesFrom 0 later
        (withJoin front join).length (joinTexts others ++ closing) := by
  obtain ⟨phrase, target⟩ := join
  have blankQuiet (rest : Text) : joinKeyword.IsQuiet before [' '] rest :=
    startsWithWord_joinKeyword.isQuiet (by decide) (.inl rfl)
  have targetQuiet := isQuiet_joinTexts isJoin.absent isGap others
  have found := isJoin.found (front.length + 1) (target ++ (joinTexts others ++ closing))
  refine ⟨Text.lastOr (Text.lastOr (some ' ') phrase) (' ' :: target), ?_⟩
  have split : joinTexts ((phrase, target) :: others) ++ closing =
      [' '] ++ (phrase ++ (' ' :: target ++ (joinTexts others ++ closing))) := by
    simp [joinTexts]
  rw [split, Pattern.occurrencesFrom_quiet (blankQuiet _)]
  have length : (withJoin front (phrase, target)).length =
      front.length + [' '].length + phrase.length + (' ' :: target).length := by
    simp [withJoin]
    omega
  rw [length, ← Pattern.occurrencesFrom_quiet (targetQuiet _)]
  exact Pattern.occurrencesFrom_of_occurrenceAt? found (by simp [phraseAt, Occurrence.length])
    isJoin.nonempty

theorem occurrencesFrom_closing
    (isGap : IsGap closing)
    (before : Option Char)
    (index : Nat) :
    joinKeyword.occurrencesFrom 0 before index closing = [] := by
  rcases isGap with rfl | rfl
  · rfl
  · have isQuiet : joinKeyword.IsQuiet before [' '] [] :=
      startsWithWord_joinKeyword.isQuiet (by decide) (.inl rfl)
    exact Pattern.occurrencesFrom_quiet isQuiet

/-- Where the keywords of the first of several joins start. -/
theorem start_joinTexts
    (areJoins : ∀ join ∈ others, IsJoin join)
    (isGap : IsGap closing)
    (before : Option Char)
    (front : Text) :
    (joinKeyword.occurrencesFrom 0 before front.length (joinTexts others ++ closing)).head?.map
      (·.start) = others.head?.map fun _ => front.length + 1 := by
  cases others with
  | nil =>
      change (joinKeyword.occurrencesFrom 0 before front.length closing).head?.map _ = _
      rw [occurrencesFrom_closing isGap]
      rfl
  | cons next others =>
      obtain ⟨later, found⟩ :=
        occurrencesFrom_joinTexts (areJoins next (.head _)) isGap others before front
      rw [found]
      rfl

/-- The top level of joins consists of the top levels of what stands behind their keywords. -/
theorem mask_joinTexts
    {joins : List (Text × Text)}
    (closed : ∀ join ∈ joins, mask join.1 = join.1 ∧ IsClosed join.1 ∧ IsClosed join.2) :
    mask (joinTexts joins) = joinTexts (joins.map fun join => (join.1, mask join.2)) := by
  induction joins with
  | nil => rfl
  | cons join joins inductionHypothesis =>
      obtain ⟨phrase, target⟩ := join
      obtain ⟨phraseMask, phraseClosed, targetClosed⟩ := closed _ (.head _)
      have blank : mask [' '] = [' '] ∧ IsClosed [' '] := by decide
      have others := inductionHypothesis fun join present => closed join (.tail _ present)
      change mask ([' '] ++ (phrase ++ ([' '] ++ target)) ++ joinTexts joins) = _
      rw [mask_append (blank.2.append (phraseClosed.append (blank.2.append targetClosed))),
        mask_append blank.2, mask_append phraseClosed, mask_append blank.2, others, blank.1,
        phraseMask]
      rfl

/-- The target of a join reaches to the keywords of the next one, or to the end. -/
theorem exists_joinTarget
    (isGap : IsGap closing)
    (front : Text)
    (join : Text × Text)
    {next : Option Occurrence}
    (isNext : next.map (·.start) = others.head?.map fun _ => (withJoin front join).length + 1) :
    ∃ gap, IsGap gap ∧ joinTarget (phraseAt join.1 (front.length + 1)) next
      (withJoin front join ++ (joinTexts others ++ closing)) = ' ' :: (join.2 ++ gap) := by
  obtain ⟨phrase, target⟩ := join
  have cut (gap rest : Text) :
      Text.slice (withJoin front (phrase, target) ++ (gap ++ rest))
        (phraseAt phrase (front.length + 1)).stop
        ((withJoin front (phrase, target)).length + gap.length) = ' ' :: (target ++ gap) := by
    have split : withJoin front (phrase, target) ++ (gap ++ rest) =
        front ++ ' ' :: phrase ++ (' ' :: (target ++ gap) ++ rest) := by
      simp [withJoin]
    have start : (phraseAt phrase (front.length + 1)).stop =
        (front ++ ' ' :: phrase).length := by
      simp only [phraseAt, List.length_append, List.length_cons]
      omega
    have stop : (withJoin front (phrase, target)).length + gap.length =
        (front ++ ' ' :: phrase).length + (' ' :: (target ++ gap)).length := by
      simp only [withJoin, List.length_append, List.length_cons]
      omega
    rw [split, start, stop, Text.slice, List.drop_left, Nat.add_sub_cancel_left, List.take_left]
  rw [joinTarget, isNext]
  cases others with
  | nil =>
      refine ⟨closing, isGap, ?_⟩
      have target := cut closing []
      rw [List.append_nil, ← List.length_append] at target
      exact target
  | cons next others => exact ⟨[' '], .inr rfl, cut [' '] _⟩

end

/-! ## Conditions -/

/-- A condition behind ON is found by its word. -/
theorem onKeyword_occursIn_iff
    {closing : Text}
    (isGap : IsGap closing)
    (target : Text) :
    onKeyword.occursIn (' ' :: (target ++ closing)) ↔ "on".toList ∈ keywords target := by
  rw [onKeyword, Pattern.word_occursIn_iff (by decide), ← mem_keywords (by decide),
    keywords_gap isGap]

/-- A list behind USING is found only where the word stands. -/
theorem mem_keywords_of_usingKeyword
    {closing target : Text}
    (isGap : IsGap closing)
    (found : usingKeyword.occursIn (' ' :: (target ++ closing))) :
    "using".toList ∈ keywords target := by
  obtain ⟨lead, run, rest, equal, covered⟩ := Pattern.occursIn_iff.mp found
  have present := mem_words_of_edge_letters_open (by decide) covered
  rwa [← equal, ← mem_keywords (by decide), keywords_gap isGap] at present

/-- A join with a list behind USING has this list on the top level. -/
theorem usingKeyword_occursIn_list
    {front column : Text}
    (closed : IsClosed front)
    (isSolid : column.all isSolidChar = true)
    (closing : Text) :
    usingKeyword.occursIn
      (' ' :: (mask (front ++ (" USING (".toList ++ (column ++ [')']))) ++ closing)) := by
  have shared : mask (" USING ".toList) = " USING " ∧ IsClosed " USING " := by decide
  have enclosed := mask_enclosed (.inr rfl) fun c present =>
    (of_isSolidChar (List.all_eq_true.mp isSolid c present)).2.2
  have split : mask (front ++ (" USING (".toList ++ (column ++ [')']))) =
      mask front ++ (" USING ".toList ++ '(' :: (List.replicate column.length ' ' ++ [')'])) := by
    change mask (front ++ (" USING ".toList ++ '(' :: (column ++ [')']))) = _
    rw [mask_append closed, mask_append shared.2, shared.1, enclosed.1]
  rw [split, Pattern.occursIn_iff]
  refine ⟨' ' :: (mask front ++ [' ']), "USING (",
    List.replicate column.length ' ' ++ [')'] ++ closing, by simp, ?_⟩
  rw [usingKeyword, Pattern.covers_edge_letters (by decide)]
  refine ⟨by simp [Text.lastOr, List.getLast?_cons]; decide, "USING", " (", rfl, by decide, ?_⟩
  rw [Pattern.covers_blanks_cons]
  exact ⟨" ", "(", rfl, fun _ => isBlank_of_mem, Pattern.covers_char_cons.mpr ⟨[], rfl, rfl⟩⟩

/-! ## Further tables -/

/-- What the top level of a query shows behind the keywords of a join. -/
def JoinedTable.target (joined : JoinedTable) : Text :=
  mask (joined.table.text ++ joined.condition.text)

/-- A further table as a join on the top level. -/
def JoinedTable.shown (joined : JoinedTable) : Text × Text :=
  (joined.kind.text, joined.target)

/-- Whether a join has no condition. -/
def JoinCondition.isMissing : JoinCondition → Bool
  | .none => true
  | .on _ _ | .shared _ => false

theorem JoinedTable.keywords_target (joined : JoinedTable) :
    keywords joined.target = joined.condition.words := by
  have piece := joined.condition.isPiece_append joined.table.isPiece
  exact piece.topWords

theorem JoinedTable.isJoin (joined : JoinedTable) :
    IsJoin joined.shown := by
  have nonempty : joined.kind.text ≠ [] := by cases joined.kind <;> decide
  refine isJoin_of_keywords nonempty (fun index rest => by cases joined.kind <;> rfl) ?_
  rw [joined.keywords_target]
  cases joined.condition <;> simp [JoinCondition.words, joinWords]

/-- A condition is found behind a join unless it is missing. -/
theorem JoinedTable.hasCondition_target
    (joined : JoinedTable)
    {closing : Text}
    (isGap : IsGap closing) :
    (onKeyword.occursIn (' ' :: (joined.target ++ closing)) ||
      usingKeyword.occursIn (' ' :: (joined.target ++ closing))) =
        !joined.condition.isMissing := by
  have on := onKeyword_occursIn_iff isGap joined.target
  have using_ : usingKeyword.occursIn (' ' :: (joined.target ++ closing)) →
      "using".toList ∈ keywords joined.target :=
    mem_keywords_of_usingKeyword isGap
  rw [joined.keywords_target] at on using_
  obtain ⟨kind, table, condition⟩ := joined
  cases condition with
  | none =>
      rw [JoinCondition.isMissing, Bool.not_true, Bool.or_eq_false_iff, Bool.eq_false_iff,
        Bool.eq_false_iff]
      exact ⟨fun found => absurd (on.mp found) List.not_mem_nil,
        fun found => absurd (using_ found) List.not_mem_nil⟩
  | on first second =>
      rw [on.mpr (.head _)]
      rfl
  | shared column =>
      have found := usingKeyword_occursIn_list table.isPiece.closed column.isSolid_text closing
      change usingKeyword.occursIn
        (' ' :: (mask (table.text ++ (JoinCondition.shared column).text) ++ closing)) at found
      rw [JoinedTable.target, found, Bool.or_true]
      rfl

/-- What the top level of a query shows of its further tables. -/
def joinedText (joined : List JoinedTable) : Text :=
  joined.flatMap fun next => ' ' :: (next.kind.text ++ ' ' :: next.target)

theorem joinedText_eq (joined : List JoinedTable) :
    joinedText joined = joinTexts (joined.map JoinedTable.shown) := by
  rw [joinTexts, List.flatMap_map]
  rfl

/-- Whether a join has neither an ON condition nor a USING list, given its form. -/
def lacksCondition (form : Text × Bool × Bool) : Bool :=
  !(form.2.1 || form.2.2)

/-- A join is found without a condition if and only if a further table has none. `front` is what
stands before the further tables, and `closing` the gap behind them. -/
theorem any_joinForms
    (joined : List JoinedTable)
    (front : Text)
    {closing : Text}
    (isGap : IsGap closing)
    (before : Option Char) :
    (joinForms (front ++ (joinedText joined ++ closing))
      (joinKeyword.occurrencesFrom 0 before front.length (joinedText joined ++ closing))).any
        lacksCondition = joined.any (·.condition.isMissing) := by
  rw [joinedText_eq]
  induction joined generalizing front before with
  | nil =>
      change (joinForms _ (joinKeyword.occurrencesFrom 0 before _ closing)).any _ = _
      rw [occurrencesFrom_closing isGap]
      rfl
  | cons next others inductionHypothesis =>
      have areJoins : ∀ join ∈ others.map JoinedTable.shown, IsJoin join := by
        intro join present
        obtain ⟨other, -, rfl⟩ := List.mem_map.mp present
        exact other.isJoin
      obtain ⟨later, found⟩ := occurrencesFrom_joinTexts next.isJoin isGap
        (others.map JoinedTable.shown) before front
      have whole : front ++ (joinTexts ((next :: others).map JoinedTable.shown) ++ closing) =
          withJoin front next.shown ++ (joinTexts (others.map JoinedTable.shown) ++ closing) := by
        simp [joinTexts, withJoin]
      obtain ⟨gap, isGapBehind, target⟩ := exists_joinTarget isGap front next.shown
        (start_joinTexts areJoins isGap later (withJoin front next.shown))
      rw [whole, List.map_cons, found, joinForms, target, List.any_cons, List.any_cons,
        inductionHypothesis (withJoin front next.shown) later, lacksCondition, JoinedTable.shown,
        next.hasCondition_target isGapBehind, Bool.not_not]

end Plain

open Plain Query

namespace PlainQuery

variable (query : PlainQuery)

/-- The top level of the tables of a query. -/
theorem mask_source :
    mask query.source = mask query.table.text ++ joinedText query.joined := by
  have joins : (query.joined.flatMap fun joined => ' ' :: joined.text) =
      joinTexts (query.joined.map fun next =>
        (next.kind.text, next.table.text ++ next.condition.text)) := by
    rw [joinTexts, List.flatMap_map]
    rfl
  have closed : ∀ join ∈ query.joined.map fun next =>
      (next.kind.text, next.table.text ++ next.condition.text),
      mask join.1 = join.1 ∧ Plain.IsClosed join.1 ∧ Plain.IsClosed join.2 := by
    intro join present
    obtain ⟨next, -, rfl⟩ := List.mem_map.mp present
    have kind : mask next.kind.text = next.kind.text := by cases next.kind <;> decide
    exact ⟨kind, next.kind.isPiece.closed,
      (next.condition.isPiece_append next.table.isPiece).closed⟩
  rw [source, mask_append query.table.isPiece.closed, joins, mask_joinTexts closed, List.map_map,
    joinedText_eq]
  rfl

/-- A join of a query is found without a condition if and only if a further table has none. -/
theorem any_lacksCondition :
    (levelForms (mask query.text)).any lacksCondition =
      query.joined.any (·.condition.isMissing) := by
  obtain ⟨closing, isGap, body⟩ : ∃ closing, (closing = [] ∨ closing = [' ']) ∧
      bodyOf? .source (viewed mask query.sections) =
        some (' ' :: mask query.table.text ++ (joinedText query.joined ++ closing)) := by
    have sections : viewed mask query.sections = (.select, mask query.selection.text) ::
        (.source, mask query.source) :: viewed mask query.sections.tail.tail := rfl
    refine ⟨gap (viewed mask query.sections.tail.tail), ?_, ?_⟩
    · unfold gap
      split
      · exact .inl rfl
      · exact .inr rfl
    · rw [sections, bodyOf?, if_neg (by decide), bodyOf?, if_pos rfl, bodyText, mask_source,
        List.append_assoc]
      rfl
  have found := (query.clause?_text .source).2
  rw [body] at found
  obtain ⟨clause, isClause, clauseBody⟩ := Option.map_eq_some_iff.mp found
  change clause? _ "from" = some clause at isClause
  have isQuiet : joinKeyword.IsQuiet none (' ' :: mask query.table.text)
      (joinedText query.joined ++ closing) := by
    rw [joinedText_eq]
    refine isQuiet_joinTexts (fun word present => ?_) isGap _ _
    rw [query.table.isPiece.topWords] at present
    exact absurd present List.not_mem_nil
  rw [levelForms, isClause]
  simp only [clauseBody]
  rw [Pattern.occurrences, Pattern.occurrencesFrom_quiet isQuiet, Nat.zero_add]
  exact any_joinForms query.joined _ isGap _

end PlainQuery
end SqlReview
