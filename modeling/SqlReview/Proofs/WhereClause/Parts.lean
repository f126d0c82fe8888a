import SqlReview.Proofs.Nested.Levels
import SqlReview.Proofs.Query.Columns
import SqlReview.Proofs.Query.Literals
import SqlReview.Proofs.WhereClause.Grammar

/-!
# The parts of a WHERE clause

Every part of a condition is an outline of a query, whatever its literals hold. No parenthesis of a
condition encloses a subquery, so the condition is seen as it stands, and its literals emptied it has
an OR just if two of its predicates are alternatives.
-/

namespace SqlReview
namespace WhereClause

open Query Plain FromClause

/-! ## Outlines -/

theorem Value.isOutline (value : Value) :
    IsOutline [] value.text := by
  cases value with
  | number numeral => exact (Plain.Value.number numeral).isPiece.toIsOutline
  | literal content =>
      exact isOutline_enclosed (.inl rfl) (List.all_eq_true.mpr fun c present =>
        isSolidChar_of_isLiteralChar (content.plain c present))

theorem Comparator.isPiece (comparator : Comparator) :
    IsPiece (keywords comparator.text) comparator.text := by
  cases comparator <;> exact isPiece_of_words (by decide)

theorem Predicate.isPiece_operand (predicate : Predicate) :
    IsPiece [] predicate.operand := by
  obtain ⟨function, column, comparator, value⟩ := predicate
  cases function with
  | none => exact column.isPiece
  | some function => exact function.isPiece.call column.isSolid_text column.isPiece.words

theorem Predicate.isOutline (predicate : Predicate) :
    IsOutline (keywords predicate.comparator.text) predicate.text := by
  have comparison := predicate.comparator.isPiece.toIsOutline.separated blank_mem_separators
    predicate.value.isOutline
  have whole := predicate.isPiece_operand.toIsOutline.separated blank_mem_separators comparison
  rwa [List.nil_append, List.append_nil] at whole

/-- The reserved words of a connective and the predicate behind it. -/
def wordsOf (other : Connective × Predicate) : List Text :=
  keywords other.1.text ++ keywords other.2.comparator.text

/-- The reserved words of a condition, literals aside. -/
def Filter.words (filter : Filter) : List Text :=
  keywords filter.first.comparator.text ++ filter.others.flatMap wordsOf

theorem Filter.isOutline (filter : Filter) :
    IsOutline filter.words filter.text :=
  filter.first.isOutline.flatMap (fun _ => blank_mem_separators)
    (fun other => other.1.isPiece.toIsOutline.separated blank_mem_separators other.2.isOutline)
    filter.others

/-! ## Queries without subqueries -/

/-- Whether no parenthesis of a text encloses a subquery, whatever follows the text. -/
def OpensNoSubquery (text : Text) : Prop :=
  ∀ lead rest more, text = lead ++ '(' :: rest → ¬StartsWithSelect (rest ++ more)

theorem opensNoSubquery_of_noOpen
    {text : Text}
    (noOpen : '(' ∉ text) :
    OpensNoSubquery text := by
  rintro lead rest more rfl
  exact absurd (by simp) noOpen

theorem OpensNoSubquery.append
    {first second : Text}
    (opensNone : OpensNoSubquery first)
    (secondOpensNone : OpensNoSubquery second) :
    OpensNoSubquery (first ++ second) := by
  intro lead rest more equal
  rcases List.append_eq_append_iff.mp equal with ⟨back, -, split⟩ | ⟨back, split, restEq⟩
  · exact secondOpensNone back rest more split
  · cases back with
    | nil => exact secondOpensNone [] rest more restEq.symm
    | cons c back =>
        obtain rfl : '(' = c := (List.cons.inj restEq).1
        have behind : rest = back ++ second := (List.cons.inj restEq).2
        rw [behind, List.append_assoc]
        exact opensNone lead back (second ++ more) split

/-- A text without the word SELECT in front of a parenthesis does not start with this word. -/
theorem not_startsWithSelect_of_keywords
    {inner : Text}
    (isFree : keywords inner = [])
    (more : Text) :
    ¬StartsWithSelect (inner ++ ')' :: more) := by
  rintro ⟨lead, word, rest, equal, blank, folds, outside⟩
  have noClose : ')' ∉ lead ++ word := by
    rw [List.mem_append, not_or]
    refine ⟨fun present => absurd (blank _ present) (by decide), fun present => ?_⟩
    exact absurd (isSmallWord_select.isWord_of_mem folds present) (by decide)
  obtain ⟨back, innerEq, restEq⟩ : ∃ back, inner = lead ++ word ++ back ∧
      rest = back ++ ')' :: more := by
    rcases List.append_eq_append_iff.mp equal with ⟨back, front, behind⟩ | ⟨back, front, behind⟩
    · cases back with
      | nil => exact ⟨[], by simpa using front.symm, behind.symm⟩
      | cons c back =>
          obtain ⟨rfl, -⟩ := List.cons.inj behind
          exact absurd (by rw [front]; simp) noClose
    · exact ⟨back, front, behind⟩
  have starts : StartsWithSelect inner := by
    refine ⟨lead, word, back, innerEq, blank, folds, ?_⟩
    cases back with
    | nil => rfl
    | cons c back =>
        rw [restEq] at outside
        exact outside
  have present := (mem_keywords (by decide)).mpr starts.mem_words
  rw [isFree] at present
  exact absurd present List.not_mem_nil

/-- The signs of what stands behind the operand of a predicate. -/
def comparedSigns : List Char :=
  '!' :: filterSigns

/-- What stands behind the operand of a predicate. -/
def Predicate.compared (predicate : Predicate) : Text :=
  ' ' :: (predicate.comparator.text ++ ' ' :: predicate.value.text)

theorem Value.uses (value : Value) :
    Uses filterSigns value.text := by
  cases value with
  | number numeral => exact numeral.uses
  | literal content => exact (uses_of_isLiteralChar content.plain).literal

theorem Predicate.uses_compared (predicate : Predicate) :
    Uses comparedSigns predicate.compared := by
  have comparator : Uses comparedSigns predicate.comparator.text := by
    cases predicate.comparator <;> decide
  have value : Uses comparedSigns predicate.value.text := predicate.value.uses.mono (by decide)
  exact (comparator.append (value.cons (by decide))).cons (by decide)

/-- The signs of the operand of a predicate. -/
def operandSigns : List Char :=
  ['$', '.', '(', ')']

theorem Predicate.uses_operand (predicate : Predicate) :
    Uses operandSigns predicate.operand := by
  obtain ⟨function, column, comparator, value⟩ := predicate
  have inner : Uses operandSigns column.text := column.uses (by decide) (by decide)
  cases function with
  | none => exact inner
  | some function =>
      exact (function.uses (by decide)).append
        ((inner.append (show Uses operandSigns [')'] by decide)).cons (by decide))

theorem noOpen_column (column : QualifiedName) :
    '(' ∉ column.text :=
  (column.uses (show ['$', '.'].contains '$' = true by decide) (by decide)).not_mem (by decide)
    (by decide)

theorem Predicate.opensNoSubquery (predicate : Predicate) :
    OpensNoSubquery predicate.text := by
  have compared : OpensNoSubquery predicate.compared :=
    opensNoSubquery_of_noOpen (predicate.uses_compared.not_mem (by decide) (by decide))
  refine OpensNoSubquery.append ?_ compared
  obtain ⟨function, column, comparator, value⟩ := predicate
  cases function with
  | none => exact opensNoSubquery_of_noOpen (noOpen_column column)
  | some function =>
      have noOpenBefore : '(' ∉ function.text :=
        (function.uses (show ['$'].contains '$' = true by decide)).not_mem (by decide) (by decide)
      refine (opensNoSubquery_of_noOpen noOpenBefore).append ?_
      rintro lead rest more equal
      cases lead with
      | nil =>
          rw [← (List.cons.inj equal).2, List.append_assoc]
          exact not_startsWithSelect_of_keywords column.isPiece.words more
      | cons c lead =>
          have inside : '(' ∈ column.text ++ [')'] := by
            rw [(List.cons.inj equal).2]
            simp
          exact absurd inside (by simp [noOpen_column])

theorem Filter.opensNoSubquery (filter : Filter) :
    OpensNoSubquery filter.text := by
  have further (others : Further) : OpensNoSubquery (furtherText others) := by
    induction others with
    | nil => exact opensNoSubquery_of_noOpen List.not_mem_nil
    | cons other others inductionHypothesis =>
        obtain ⟨connective, predicate⟩ := other
        have front : '(' ∉ ' ' :: (connective.text ++ [' ']) := by cases connective <;> decide
        have whole := (opensNoSubquery_of_noOpen front).append
          (predicate.opensNoSubquery.append inductionHypothesis)
        simpa [furtherText] using whole
  exact filter.first.opensNoSubquery.append (further filter.others)

/-! ## The condition of a query -/

/-- The reserved words that can stand in a condition, literals aside. -/
def conditionWords : List Text :=
  ["and", "or", "not", "like", "ilike"]

theorem Comparator.words_subset (comparator : Comparator) :
    keywords comparator.text ⊆ ["not".toList, "like".toList, "ilike".toList] := by
  cases comparator <;> decide

theorem Filter.words_subset (filter : Filter) :
    filter.words ⊆ conditionWords := by
  have comparator (comparator : Comparator) : keywords comparator.text ⊆ conditionWords :=
    List.Subset.trans comparator.words_subset (by decide)
  have connective (connective : Connective) : keywords connective.text ⊆ conditionWords := by
    cases connective <;> decide
  refine List.append_subset.mpr ⟨comparator _, fun word present => ?_⟩
  obtain ⟨other, -, inOther⟩ := List.mem_flatMap.mp present
  exact List.append_subset.mpr ⟨connective _, comparator _⟩ inOther

section

variable (column table : Identifier) (filter : Filter)

/-- The clauses of a query with a condition. -/
def sectionsOf : List Section :=
  [(.select, column.text), (.source, table.text), (.filter, filter.text)]

theorem queryText_eq :
    queryText column table filter = sectionsText (sectionsOf column table filter) :=
  (Nested.sectionsText_filter column.text table.text filter.text).symm

theorem isContent :
    ∀ part ∈ sectionsOf column table filter, IsContent part.2 := by
  have inner : ∀ word ∈ conditionWords, startsClause word = false := by decide
  have condition : IsContent filter.text := filter.isOutline.isContent fun word present =>
    inner word (filter.words_subset present)
  exact List.forall_mem_cons.mpr ⟨column.isPiece.isContent, List.forall_mem_cons.mpr
    ⟨table.isPiece.isContent, List.forall_mem_singleton.mpr condition⟩⟩

theorem normalize_queryText [CommentRemover] :
    normalize (queryText column table filter) = queryText column table filter := by
  rw [queryText_eq]
  exact normalize_sectionsText (List.cons_ne_nil _ _) (isContent column table filter)

theorem outsideView_queryText :
    outsideView (queryText column table filter) = queryText column table filter := by
  have name (identifier : Identifier) : OpensNoSubquery identifier.text :=
    opensNoSubquery_of_noOpen ((identifier.uses (show ['$'].contains '$' = true by decide)).not_mem
      (by decide) (by decide))
  have keyword {text : Text} (noOpen : '(' ∉ text) : OpensNoSubquery text :=
    opensNoSubquery_of_noOpen noOpen
  have opensNone : OpensNoSubquery (queryText column table filter) :=
    (keyword (by decide)).append ((name column).append ((keyword (by decide)).append
      ((name table).append ((keyword (by decide)).append filter.opensNoSubquery))))
  refine (noSubquery fun lead rest equal => ?_).2
  have none := opensNone lead rest [] equal
  rwa [List.append_nil] at none

/-- The condition of a query is seen as it stands. -/
theorem condition?_queryText [CommentRemover] :
    condition? (queryText column table filter) = some (' ' :: filter.text) := by
  have isBody : bodyOf? .filter (sectionsOf column table filter) =
      some (' ' :: (filter.text ++ [])) := rfl
  obtain ⟨clause, found, body, -⟩ := exists_clause_of_contents (isContent column table filter)
    (by simp [sectionsOf]) isBody rfl
  rw [← queryText_eq] at found body
  rw [condition?, normalize_queryText, outsideView_queryText,
    show clause? (clauses (mask (queryText column table filter))) "where" = some clause from found,
    Option.map_some, body, List.append_nil]

end

/-! ## Alternatives -/

/-- A value without what its literal holds. -/
def Value.emptied : Value → Value
  | .number numeral => .number numeral
  | .literal _ => .literal ⟨[], List.forall_mem_nil _⟩

/-- A predicate without what its literal holds. -/
def Predicate.emptied (predicate : Predicate) : Predicate :=
  { predicate with value := predicate.value.emptied }

/-- A condition without what its literals hold. -/
def Filter.emptied (filter : Filter) : Filter :=
  ⟨filter.first.emptied, filter.others.map fun other => (other.1, other.2.emptied)⟩

theorem Value.withoutLiterals_append
    (value : Value)
    (rest : Text) :
    withoutLiterals (value.text ++ rest) = value.emptied.text ++ withoutLiterals rest := by
  cases value with
  | number numeral =>
      have uses : Uses [] numeral.text := numeral.uses
      exact Query.withoutLiterals_append (uses.not_mem (by decide) (by decide)) rest
  | literal content =>
      have noQuote : '\'' ∉ content.text := fun present =>
        absurd (content.plain _ present) (by decide)
      have split : Value.text (.literal content) ++ rest =
          '\'' :: (content.text ++ '\'' :: rest) := by
        simp [Value.text]
      rw [split, withoutLiterals_literal noQuote]
      rfl

theorem Predicate.withoutLiterals_append
    (predicate : Predicate)
    (rest : Text) :
    withoutLiterals (predicate.text ++ rest) =
      predicate.emptied.text ++ withoutLiterals rest := by
  have noQuote : '\'' ∉ predicate.operand ++ ' ' :: (predicate.comparator.text ++ [' ']) := by
    have comparator : '\'' ∉ predicate.comparator.text := by
      cases predicate.comparator <;> decide
    simp [predicate.uses_operand.not_mem (show isNameChar '\'' = false by decide) (by decide), comparator]
  have split : predicate.text ++ rest =
      predicate.operand ++ ' ' :: (predicate.comparator.text ++ [' ']) ++
        (predicate.value.text ++ rest) := by
    simp [text]
  rw [split, Query.withoutLiterals_append noQuote, Value.withoutLiterals_append]
  simp [text, emptied, operand]

theorem Filter.withoutLiterals_text (filter : Filter) :
    withoutLiterals (' ' :: filter.text) = ' ' :: filter.emptied.text := by
  have further (others : Further) : withoutLiterals (furtherText others) =
      furtherText (others.map fun other => (other.1, other.2.emptied)) := by
    induction others with
    | nil => rfl
    | cons other others inductionHypothesis =>
        obtain ⟨connective, predicate⟩ := other
        have noQuote : '\'' ∉ ' ' :: (connective.text ++ [' ']) := by cases connective <;> decide
        have split : furtherText ((connective, predicate) :: others) =
            ' ' :: (connective.text ++ [' ']) ++ (predicate.text ++ furtherText others) := by
          simp [furtherText]
        rw [split, Query.withoutLiterals_append noQuote, predicate.withoutLiterals_append,
          inductionHypothesis]
        simp [furtherText]
  have blank : '\'' ∉ [' '] := by decide
  have whole := Query.withoutLiterals_append blank filter.text
  rw [text, filter.first.withoutLiterals_append, further] at whole
  exact whole

theorem Value.keywords_emptied (value : Value) :
    keywords value.emptied.text = [] := by
  cases value with
  | number numeral => exact keywords_numeral numeral
  | literal content => exact show keywords "''" = [] by decide

theorem Predicate.keywords_emptied (predicate : Predicate) :
    keywords predicate.emptied.text = keywords predicate.comparator.text := by
  have isBlank : Text.isWord ' ' = false := by decide
  have operand : predicate.emptied.operand = predicate.operand := rfl
  rw [text, operand, keywords_append_cons isBlank, keywords_append_cons isBlank,
    predicate.isPiece_operand.words, List.nil_append]
  exact (congrArg _ predicate.value.keywords_emptied).trans (List.append_nil _)

/-- Its literals emptied, a condition has the words of its connectives and operators. -/
theorem Filter.keywords_emptied (filter : Filter) :
    keywords filter.emptied.text = filter.words := by
  have isBlank : Text.isWord ' ' = false := by decide
  have further (front : Text) (others : Further) :
      keywords (front ++ furtherText (others.map fun other => (other.1, other.2.emptied))) =
        keywords front ++ others.flatMap wordsOf := by
    induction others generalizing front with
    | nil => simp [furtherText]
    | cons other others inductionHypothesis =>
        have split : front ++ furtherText ((other :: others).map fun other =>
            (other.1, other.2.emptied)) =
              front ++ ' ' :: (other.1.text ++ ' ' :: other.2.emptied.text) ++
                furtherText (others.map fun other => (other.1, other.2.emptied)) := by
          simp [furtherText]
        rw [split, inductionHypothesis, keywords_append_cons isBlank, keywords_append_cons isBlank,
          other.2.keywords_emptied]
        simp [wordsOf]
  rw [text, emptied, further, Predicate.keywords_emptied]
  rfl

theorem Filter.or_mem_words (filter : Filter) :
    "or".toList ∈ filter.words ↔ filter.hasOr = true := by
  have comparator (comparator : Comparator) : "or".toList ∉ keywords comparator.text := by
    cases comparator <;> decide
  have connective (connective : Connective) :
      "or".toList ∈ keywords connective.text ↔ connective = .or := by
    cases connective <;> decide
  simp only [words, wordsOf, List.mem_append, List.mem_flatMap, comparator, connective, hasOr,
    List.any_eq_true, decide_eq_true_eq, false_or, or_false]

/-- Outside of literals a condition has an OR just if some of its predicates are alternatives. -/
theorem Filter.hasOr_view (filter : Filter) :
    Query.hasOr (' ' :: filter.text) = filter.hasOr := by
  rw [Bool.eq_iff_iff, Query.hasOr, orKeyword, filter.withoutLiterals_text,
    Pattern.word_occursIn_iff (by decide), ← filter.or_mem_words, ← filter.keywords_emptied,
    mem_keywords (by decide), Text.words_cons (by decide)]

end WhereClause
end SqlReview
