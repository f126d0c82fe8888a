import Mathlib.Data.List.Count
import SqlReview.Proofs.Heuristic.Words
import SqlReview.Proofs.Plain.Comparisons
import SqlReview.Proofs.Plain.Joins

/-!
# The quick review of a plain query

Which core rules a plain query breaks can be read off its parts. A quick review of its text finds
exactly these rules: each signal is a word, a phrase or a sign that stands nowhere else.
-/

namespace SqlReview
namespace Plain

open Query

/-- Whether everything is selected. -/
def Selection.isStar : Selection → Bool
  | .star => true
  | .list _ => false

/-- Whether some predicates are alternatives. -/
def Filter.hasOr (filter : Filter) : Bool :=
  filter.others.any (·.1 = .or)

/-- The keyword OR is among those of a filter if some of its predicates are alternatives. -/
theorem Filter.or_mem_words (filter : Filter) :
    "or".toList ∈ filter.words ↔ filter.hasOr = true := by
  have comparator (comparator : Comparator) : "or".toList ∉ keywords comparator.text := by
    cases comparator <;> decide
  have connective (connective : Connective) :
      "or".toList ∈ keywords connective.text ↔ connective = .or := by
    cases connective <;> decide
  rw [Filter.words, List.mem_append, List.mem_flatMap, Filter.hasOr, List.any_eq_true]
  constructor
  · rintro (inFirst | ⟨other, present, inOther⟩)
    · exact absurd inFirst (comparator _)
    · rcases List.mem_append.mp inOther with inConnective | inComparator
      · exact ⟨other, present, decide_eq_true ((connective _).mp inConnective)⟩
      · exact absurd inComparator (comparator _)
  · rintro ⟨other, present, isOr⟩
    refine .inr ⟨other, present, List.mem_append_left _ ?_⟩
    exact (connective _).mpr (of_decide_eq_true isOr)

/-- Every further table has one word JOIN, and a word of a condition if it has a condition. -/
theorem countP_joined (joined : List JoinedTable) :
    (joined.flatMap JoinedTable.words).countP Heuristic.isJoinWord = joined.length ∧
      (joined.flatMap JoinedTable.words).countP Heuristic.isConditionWord =
        joined.countP (!·.condition.isMissing) := by
  have kind (kind : JoinKind) : (keywords kind.text).countP Heuristic.isJoinWord = 1 ∧
      (keywords kind.text).countP Heuristic.isConditionWord = 0 := by
    cases kind <;> decide
  have condition (condition : JoinCondition) :
      condition.words.countP Heuristic.isJoinWord = 0 ∧
        condition.words.countP Heuristic.isConditionWord =
          if condition.isMissing then 0 else 1 := by
    cases condition <;> exact ⟨rfl, rfl⟩
  induction joined with
  | nil => exact ⟨rfl, rfl⟩
  | cons first others inductionHypothesis =>
      obtain ⟨joins, conditions⟩ := inductionHypothesis
      rw [List.flatMap_cons, List.countP_append, List.countP_append, joins, conditions,
        JoinedTable.words, List.countP_append, List.countP_append, (kind _).1, (kind _).2,
        (condition _).1, (condition _).2, List.countP_cons, List.length_cons]
      refine ⟨Nat.add_comm 1 others.length, ?_⟩
      cases first.condition.isMissing <;> simp [Nat.add_comm]

end Plain

open Plain

namespace PlainQuery

open Query

variable (query : PlainQuery)

/-! ## What a query breaks -/

/-- The core rules with whether a query breaks them. -/
def tests : List (RuleCode × Bool) :=
  [(.selectStar, query.selection.isStar),
    (.missingIndex, query.filter.isSome),
    (.orderByWithoutLimit, query.order.isSome && query.limit.isNone),
    (.leadingWildcardLike, query.hasWildcard),
    (.orInWhere, query.filter.any Filter.hasOr),
    (.joinWithoutCondition, query.joined.any (·.condition.isMissing)),
    (.subquery, false)]

/-- The core rules that a query breaks. -/
def broken : List RuleCode :=
  (query.tests.filter Prod.snd).map Prod.fst

/-! ## Words -/

/-- A query has the keywords of its clauses and what can stand inside of clauses. -/
theorem mem_words_iff
    {word : Text}
    (notInner : word ∉ innerWords) :
    word ∈ query.words ↔ word = "select" ∨ word = "from" ∨
      (word = "where" ∧ query.filter.isSome) ∨
      (word ∈ ["order".toList, "by".toList] ∧ query.order.isSome) ∨
      (word = "limit" ∧ query.limit.isSome) := by
  have notSource : word ∉ query.sourceWords := fun present =>
    notInner (List.mem_append_left _ (query.sourceWords_subset present))
  have notFilter (filter : Filter) : word ∉ filter.words := fun present =>
    notInner (List.mem_append_right _ (filter.words_subset present))
  rw [words, lastWords]
  cases query.filter <;> cases query.order <;> cases query.limit <;>
    simp [notSource, notFilter, or_assoc]

/-- The reserved words of a query are those of its text, and of the top level of its text. -/
theorem mem_words_text
    {word : Text}
    (reserved : word ∈ reservedWords) :
    word ∈ Text.words query.text ↔ word ∈ query.words := by
  rw [← mem_keywords reserved, query.isPiece.words]

theorem mem_words_mask
    {word : Text}
    (reserved : word ∈ reservedWords) :
    word ∈ Text.words (mask query.text) ↔ word ∈ query.words := by
  rw [← mem_keywords reserved, query.isPiece.topWords]

theorem where_mem_words :
    "where".toList ∈ query.words ↔ query.filter.isSome := by
  rw [query.mem_words_iff (by decide)]
  simp

theorem order_mem_words :
    "order".toList ∈ query.words ↔ query.order.isSome := by
  rw [query.mem_words_iff (by decide)]
  simp

theorem limit_mem_words :
    "limit".toList ∈ query.words ↔ query.limit.isSome := by
  rw [query.mem_words_iff (by decide)]
  simp

/-- The words that limit rows in other ways, and those of index hints, are missing. -/
theorem absent_words :
    ∀ word ∈ ["fetch".toList, "top".toList, "index".toList, "use".toList, "force".toList,
      "ignore".toList, "with".toList], word ∈ reservedWords ∧ word ∉ query.words := by
  have each : ∀ word ∈ ["fetch".toList, "top".toList, "index".toList, "use".toList,
      "force".toList, "ignore".toList, "with".toList], word ∈ reservedWords ∧
        word ∉ ["select".toList, "from".toList, "where".toList, "order".toList, "by".toList,
          "limit".toList] ++ innerWords := by
    decide
  intro word present
  obtain ⟨reserved, notThere⟩ := each word present
  exact ⟨reserved, fun inQuery => notThere (query.words_subset inQuery)⟩

/-! ## Stars and limits -/

/-- The signs of a query without a star. -/
def signs : List Char :=
  [' ', '.', ',', '=', '<', '>', '\'', '%', '(', ')']

theorem uses_text
    (noStar : query.selection.isStar = false) :
    Uses signs query.text := by
  refine uses_sectionsText (by decide) fun part present => ?_
  simp only [sections, List.cons_append, List.nil_append, List.mem_cons, List.mem_append,
    List.mem_map] at present
  rcases present with rfl | rfl | (⟨filter, -, rfl⟩ | ⟨order, -, rfl⟩) | ⟨limit, -, rfl⟩
  · change Uses signs query.selection.text
    cases selection : query.selection with
    | star => exact absurd noStar (by rw [selection]; decide)
    | list columns => exact columns.uses.mono (by decide)
  · exact query.uses_source.mono (by decide)
  · exact filter.uses.mono (by decide)
  · exact order.uses.mono (by decide)
  · exact limit.uses

/-- A star is found behind SELECT if and only if everything is selected. -/
theorem selectStar_occursIn :
    Heuristic.selectStar.occursIn query.text = query.selection.isStar := by
  rw [Bool.eq_iff_iff, Pattern.occursIn_iff]
  constructor
  · rintro ⟨lead, run, rest, equal, covered⟩
    by_contra noStar
    rw [Bool.not_eq_true] at noStar
    obtain ⟨select, _, rfl, -, covered⟩ := Pattern.covers_letters_cons.mp covered
    obtain ⟨blanks, _, rfl, -, covered⟩ := Pattern.covers_all_cons.mp covered
    obtain ⟨_, rfl, -⟩ := Pattern.covers_char_cons.mp covered
    refine (query.uses_text noStar).not_mem (show isNameChar '*' = false by decide)
      (show signs.contains '*' = false by decide) ?_
    rw [equal]
    simp
  · intro isStar
    have isText : query.selection.text = "*" := by
      cases selection : query.selection with
      | star => rfl
      | list columns =>
          rw [selection] at isStar
          exact absurd isStar Bool.false_ne_true
    refine ⟨[], "SELECT *", gap query.sections.tail ++ sectionsText query.sections.tail, ?_, ?_⟩
    · rw [text_eq, rest, isText, List.append_assoc]
      rfl
    · refine Pattern.covers_letters_cons.mpr ⟨"SELECT", " *", rfl, by decide, ?_⟩
      refine Pattern.covers_all_cons.mpr ⟨" ", "*", rfl, ?_, ?_⟩
      · exact covers_blank _ _
      · exact Pattern.covers_char_cons.mpr ⟨[], rfl, rfl⟩

/-- Rows are sorted if and only if there is an order. -/
theorem orderBy_occursIn :
    Heuristic.orderBy.occursIn query.text = query.order.isSome := by
  rw [Bool.eq_iff_iff]
  constructor
  · intro found
    have present := Heuristic.mem_words_of_orderBy found
    rw [query.mem_words_text (by decide)] at present
    exact query.order_mem_words.mp present
  · intro isSome
    obtain ⟨order, isOrder⟩ := Option.isSome_iff_exists.mp isSome
    have present : (.order, order.text) ∈ query.sections := by
      simp [sections, isOrder]
    obtain ⟨lead, others, equal, isLead⟩ := exists_split_of_mem present
    refine Pattern.occursIn_iff.mpr ⟨lead, "ORDER BY", ' ' :: (order.text ++ others), equal, ?_⟩
    have spells : SpellsPhrase ["order", "by"] "ORDER BY" := by
      refine ⟨"ORDER", " ", "BY", rfl, by decide, Pattern.covers_someBlanks.mp
        (covers_blank none []), ?_⟩
      exact show "BY".toList.map Text.foldLetter = "by" by decide
    refine Heuristic.covers_orderBy.mpr ⟨spells, ?_, show Text.isWord ' ' = false by decide⟩
    rcases isLead with rfl | last
    · rfl
    · rw [Text.lastOr, last]
      decide

theorem lacksLimit_text :
    Heuristic.lacksLimit query.text = (query.order.isSome && query.limit.isNone) := by
  have noWord {word : Text} (absent : word ∈ reservedWords ∧ word ∉ query.words) :
      word ∉ Text.words query.text := by
    rw [query.mem_words_text absent.1]
    exact absent.2
  have limit : Heuristic.rowLimit.occursIn query.text = query.limit.isSome := by
    rw [Bool.eq_iff_iff, Heuristic.rowLimit_occursIn_iff
      (noWord (query.absent_words _ (by decide))) (noWord (query.absent_words _ (by decide))),
      query.mem_words_text (by decide)]
    exact query.limit_mem_words
  rw [Heuristic.lacksLimit, query.orderBy_occursIn, limit, Option.not_isSome]

/-! ## Alternatives and joins -/

/-- The only WHERE of a query stands in front of the words of its filter. -/
theorem hasOrAfterWhere_text :
    Heuristic.hasOrAfterWhere query.text = query.filter.any Filter.hasOr := by
  cases isFilter : query.filter with
  | none =>
      have absent : "where".toList ∉ Text.words query.text := by
        rw [query.mem_words_text (by decide), query.where_mem_words, isFilter]
        decide
      exact Heuristic.not_hasOrAfterWhere absent
  | some filter =>
      have split : (Text.words query.text).filter (reservedWords.contains ·) =
          ("select".toList :: "from".toList :: query.sourceWords) ++
            "where".toList :: (filter.words ++ query.lastWords) := by
        change keywords query.text = _
        rw [query.isPiece.words, words, isFilter]
        simp
      have elsewhere {word : Text} {found others : List Text} (subset : found ⊆ others)
          (absent : word ∉ others) : word ∉ found := fun present => absent (subset present)
      rw [Bool.eq_iff_iff, Heuristic.hasOrAfterWhere_iff (by decide) (by decide)
        split, List.mem_append, filter.or_mem_words]
      · have notLast := elsewhere query.lastWords_subset (show "or".toList ∉ _ by decide)
        exact or_iff_left notLast
      · simp only [List.mem_cons, not_or]
        exact ⟨by decide, by decide, elsewhere query.sourceWords_subset (by decide)⟩
      · simp only [List.mem_append, not_or]
        exact ⟨elsewhere filter.words_subset (by decide),
          elsewhere query.lastWords_subset (by decide)⟩

/-- Words of joins are counted in the tables of a query. -/
theorem countP_words
    {counts : Text → Bool}
    (elsewhere : ∀ word ∈ ["select".toList, "from".toList, "where".toList, "order".toList,
      "by".toList, "limit".toList] ++ filterWords, counts word = false)
    (reserved : ∀ word, counts word = true → word ∈ reservedWords) :
    (Text.words query.text).countP counts = query.sourceWords.countP counts := by
  have none {found : List Text} (subset : found ⊆ ["select".toList, "from".toList,
      "where".toList, "order".toList, "by".toList, "limit".toList] ++ filterWords) :
      found.countP counts = 0 := by
    rw [List.countP_eq_zero]
    intro word present
    rw [elsewhere word (subset present)]
    decide
  have keywords : (Text.words query.text).countP counts = query.words.countP counts := by
    rw [← query.isPiece.words, Plain.keywords, List.countP_filter]
    refine List.countP_congr fun word _ => ?_
    rw [Bool.and_eq_true]
    exact ⟨fun counted => ⟨counted, List.contains_iff_mem.mpr (reserved word counted)⟩,
      And.left⟩
  have head := none (show ["select".toList, "from".toList] ⊆ _ by decide)
  have filter : (query.filter.toList.flatMap fun filter => "where".toList :: filter.words).countP
      counts = 0 := by
    cases query.filter with
    | none => rfl
    | some filter =>
        rw [Option.toList_some, List.flatMap_singleton]
        refine none (List.cons_subset.mpr ⟨by decide, ?_⟩)
        exact List.subset_append_of_subset_right _ filter.words_subset
  have last : query.lastWords.countP counts = 0 :=
    none (List.Subset.trans query.lastWords_subset (by decide))
  rw [keywords, words, show "select".toList :: "from".toList :: (query.sourceWords ++ _) =
    ["select".toList, "from".toList] ++ (query.sourceWords ++ _) from rfl, List.countP_append,
    List.countP_append, List.countP_append, head, filter, last]
  omega

theorem hasUnconditionedJoin_text :
    Heuristic.hasUnconditionedJoin query.text = query.joined.any (·.condition.isMissing) := by
  have joins : (Text.words query.text).countP Heuristic.isJoinWord =
      query.sourceWords.countP Heuristic.isJoinWord := by
    refine query.countP_words (by decide) fun word isJoin => ?_
    rw [of_decide_eq_true isJoin]
    decide
  have conditions : (Text.words query.text).countP Heuristic.isConditionWord =
      query.sourceWords.countP Heuristic.isConditionWord := by
    refine query.countP_words (by decide) fun word isCondition => ?_
    rw [Heuristic.isConditionWord, Bool.or_eq_true, decide_eq_true_eq, decide_eq_true_eq]
      at isCondition
    rcases isCondition with rfl | rfl <;> decide
  obtain ⟨joinsCount, conditionsCount⟩ := countP_joined query.joined
  rw [Heuristic.hasUnconditionedJoin_eq, joins, conditions, sourceWords, joinsCount,
    conditionsCount, Bool.eq_iff_iff, decide_eq_true_eq, List.countP_lt_length_iff,
    List.any_eq_true]
  simp only [Bool.not_eq_false']

/-- The only SELECT of a query stands at its start. -/
theorem subqueryHead_occursIn :
    subqueryHead.occursIn query.text = false := by
  rw [Bool.eq_false_iff, Ne, subqueryHead_occursIn_iff]
  rintro ⟨lead, rest, split, starts⟩
  exact query.not_startsWithSelect split starts

/-- A quick review of a plain query finds the rules that the query breaks. -/
theorem signals_text :
    Heuristic.signals query.text = query.broken := by
  have isWhere : (Pattern.word "where").occursIn query.text = query.filter.isSome := by
    rw [Bool.eq_iff_iff, Pattern.word_occursIn_iff (by decide),
      query.mem_words_text (by decide)]
    exact query.where_mem_words
  have noIndex : (Pattern.word "index").occursIn query.text = false := by
    obtain ⟨reserved, absent⟩ := query.absent_words "index" (by decide)
    rw [Bool.eq_false_iff, Ne, Pattern.word_occursIn_iff (by decide),
      query.mem_words_text reserved]
    exact absent
  have tests : Heuristic.tests query.text = query.tests := by
    rw [Heuristic.tests, query.selectStar_occursIn, isWhere, noIndex, query.lacksLimit_text,
      query.leadingWildcard_occursIn, query.hasOrAfterWhere_text, query.hasUnconditionedJoin_text,
      query.subqueryHead_occursIn, Bool.not_false, Bool.and_true]
    rfl
  rw [Heuristic.signals, tests, broken]

end PlainQuery
end SqlReview
