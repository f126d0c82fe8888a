import SqlReview.Proofs.FromClause.Extraction
import SqlReview.Proofs.Query.SubqueryBody

/-!
# Nested queries

Queries whose condition looks for a column in a list, where the list is a query of the same form. On
every level the FROM clause is read as if the list was empty.
-/

namespace SqlReview
namespace Query

/-! ## Bodies in parentheses -/

/-- A self-contained text inside parentheses leads back to them. -/
theorem closesFrom_inside
    {depth : Depth}
    {body : Text}
    (closes : closesFrom depth body = true)
    (base : Nat)
    (rest : Text) :
    closesFrom (depth.inside base) (body ++ rest) = closesFrom ⟨base, false⟩ rest := by
  induction body generalizing depth with
  | nil =>
      obtain rfl : depth = .outermost := by simpa [closesFrom] using closes
      simp [Depth.inside, Depth.outermost]
  | cons c body inductionHypothesis =>
      obtain ⟨stays, closesRest⟩ := closesFrom_cons.mp closes
      have staysInside : ¬(c = ')' ∧ (depth.inside base).inLiteral = false ∧
          (depth.inside base).level = 0) := by
        rintro ⟨isClose, outside, level⟩
        exact stays ⟨isClose, outside, Nat.eq_zero_of_add_eq_zero_right level⟩
      have guard : (!(decide (c = ')') && !(depth.inside base).inLiteral &&
          decide ((depth.inside base).level = 0))) = true := by
        simpa [imp_iff_not_or, or_assoc] using staysInside
      rw [List.cons_append, closesFrom, guard, Bool.true_and, Depth.step_inside stays,
        inductionHypothesis closesRest]

theorem closesFrom_plain_append
    {plain : Text}
    (isPlain : ∀ c ∈ plain, c ≠ '\'' ∧ c ≠ '(' ∧ c ≠ ')')
    (rest : Text) :
    closesFrom .outermost (plain ++ rest) = closesFrom .outermost rest := by
  induction plain with
  | nil => rfl
  | cons c plain inductionHypothesis =>
      obtain ⟨noQuote, noOpen, noClose⟩ := isPlain c (.head _)
      have step : Depth.outermost.step c = .outermost := by
        simp [Depth.step, noQuote, noOpen, noClose, Depth.outermost]
      rw [List.cons_append, closesFrom, step,
        inductionHypothesis fun d present => isPlain d (.tail _ present)]
      simp [noClose]

theorem isSelfContained_plain
    {plain : Text}
    (isPlain : ∀ c ∈ plain, c ≠ '\'' ∧ c ≠ '(' ∧ c ≠ ')') :
    IsSelfContained plain := by
  have closes := closesFrom_plain_append isPlain []
  rwa [List.append_nil] at closes

theorem isSelfContained_enclosed
    {lead body : Text}
    (isPlain : ∀ c ∈ lead, c ≠ '\'' ∧ c ≠ '(' ∧ c ≠ ')')
    (selfContained : IsSelfContained body) :
    IsSelfContained (lead ++ '(' :: (body ++ [')'])) := by
  rw [IsSelfContained, closesFrom_plain_append isPlain]
  exact closesFrom_inside selfContained 1 [')']

/-- A body inside parentheses is blank on the top level. -/
theorem mask_parenthesized
    {body : Text}
    (selfContained : IsSelfContained body) :
    mask ('(' :: (body ++ [')'])) = '(' :: (List.replicate body.length ' ' ++ [')']) ∧
      Plain.IsClosed ('(' :: (body ++ [')'])) := by
  obtain ⟨blank, after⟩ := maskFrom_inside selfContained (Nat.one_pos)
  change maskFrom ⟨1, false⟩ body = _ at blank
  change Depth.after ⟨1, false⟩ body = _ at after
  rw [mask, maskFrom_cons, Plain.IsClosed, Depth.after_cons]
  change '(' :: maskFrom ⟨1, false⟩ (body ++ [')']) = _ ∧ Depth.after ⟨1, false⟩ (body ++ [')']) = _
  rw [maskFrom_append, Depth.after_append, blank, after]
  exact ⟨rfl, rfl⟩

end Query

namespace Nested

open Query Plain FromClause

/-! ## Levels -/

/-- One level of a nested query. -/
structure Level where
  /-- The selected column. -/
  column : Identifier
  /-- The table. -/
  table : Identifier
  /-- The column that is looked for in the list. -/
  filtered : Identifier

namespace Level

/-- A level in front of its list. -/
def head (level : Level) : Text :=
  "SELECT ".toList ++ (level.column.text ++ (" FROM ".toList ++ (level.table.text ++
    (" WHERE ".toList ++ (level.filtered.text ++ " IN ".toList)))))

/-- A level with what its list encloses. -/
def text (level : Level) (enclosed : Text) : Text :=
  level.head ++ '(' :: (enclosed ++ [')'])

end Level

/-- Levels nested into each other. The innermost list is the number 1. -/
def nestedText : List Level → Text
  | [] => "1"
  | level :: inner => level.text (nestedText inner)

/-! ## Clauses -/

theorem sectionsText_filter (selection source filter : Text) :
    sectionsText [(.select, selection), (.source, source), (.filter, filter)] =
      "SELECT ".toList ++ (selection ++ (" FROM ".toList ++ (source ++
        (" WHERE ".toList ++ filter)))) := by
  rw [sectionsText_cons_cons, sectionsText_cons_cons, sectionsText_singleton]
  change _ = ClauseKind.select.keyword ++ [' '] ++ (selection ++
    (' ' :: (ClauseKind.source.keyword ++ [' ']) ++ (source ++
      (' ' :: (ClauseKind.filter.keyword ++ [' ']) ++ filter))))
  simp only [List.append_assoc, List.cons_append, List.nil_append]

namespace Level

variable (level : Level)

/-- The condition of a level with what its list encloses. -/
def condition (enclosed : Text) : Text :=
  level.filtered.text ++ (" IN ".toList ++ '(' :: (enclosed ++ [')']))

def sections (enclosed : Text) : List Section :=
  [(.select, level.column.text), (.source, level.table.text), (.filter, level.condition enclosed)]

theorem text_eq (enclosed : Text) :
    level.text enclosed = sectionsText (level.sections enclosed) := by
  have whole := sectionsText_filter level.column.text level.table.text (level.condition enclosed)
  refine Eq.trans ?_ whole.symm
  unfold text head condition
  simp only [List.append_assoc]

theorem isPlain_head :
    ∀ c ∈ level.head, c ≠ '\'' ∧ c ≠ '(' ∧ c ≠ ')' := by
  have dollar : ['$', ' '].contains '$' = true := by decide
  have uses : Uses ['$', ' '] level.head :=
    .append (show Uses _ "SELECT ".toList by decide) (.append (level.column.uses dollar)
      (.append (show Uses _ " FROM ".toList by decide) (.append (level.table.uses dollar)
        (.append (show Uses _ " WHERE ".toList by decide) (.append (level.filtered.uses dollar)
          (show Uses _ " IN ".toList by decide))))))
  exact fun c present => ⟨ne_of_mem_of_not_mem present (uses.not_mem (by decide) (by decide)),
    ne_of_mem_of_not_mem present (uses.not_mem (by decide) (by decide)),
    ne_of_mem_of_not_mem present (uses.not_mem (by decide) (by decide))⟩

/-- The top level of a level does not depend on what its list encloses, its length aside. -/
theorem mask_text
    {enclosed : Text}
    (selfContained : IsSelfContained enclosed) :
    mask (level.text enclosed) = level.text (List.replicate enclosed.length ' ') := by
  obtain ⟨masked, closed⟩ := mask_of_isPlain level.isPlain_head
  rw [text, mask_append closed, masked, (mask_parenthesized selfContained).1]
  rfl

theorem mask_condition
    {enclosed : Text}
    (selfContained : IsSelfContained enclosed) :
    mask (level.condition enclosed) =
        level.condition (List.replicate enclosed.length ' ') ∧
      IsClosed (level.condition enclosed) := by
  have name : mask level.filtered.text = level.filtered.text :=
    mask_of_uses (level.filtered.uses (show ['$'].contains '$' = true by decide)) (by decide)
  have inWord : mask " IN ".toList = " IN ".toList ∧ IsClosed " IN ".toList := by decide
  obtain ⟨list, listClosed⟩ := mask_parenthesized selfContained
  rw [condition, mask_append level.filtered.isPiece.closed, mask_append inWord.2, name, inWord.1,
    list]
  exact ⟨rfl, level.filtered.isPiece.closed.append (inWord.2.append listClosed)⟩

/-- A condition has the reserved words of its list, and IN. -/
theorem keywords_condition (enclosed : Text) :
    keywords (level.condition enclosed) = "in".toList :: keywords enclosed := by
  have blank : Text.isWord ' ' = false := by decide
  have opens : Text.isWord '(' = false := by decide
  have closes : Text.isWord ')' = false := by decide
  have inWord : keywords "IN " = ["in".toList] := by decide
  change keywords (level.filtered.text ++ ' ' :: ("IN ".toList ++ '(' :: (enclosed ++ [')']))) = _
  rw [keywords_append_cons blank, level.filtered.isPiece.words, keywords_append_cons opens,
    keywords_append_cons closes, inWord]
  exact congrArg ("in".toList :: ·) (List.append_nil _)

theorem closed_sections
    {enclosed : Text}
    (selfContained : IsSelfContained enclosed) :
    ∀ part ∈ level.sections enclosed, IsClosed part.2 := by
  simp only [sections, List.mem_cons, List.not_mem_nil, or_false]
  rintro part (rfl | rfl | rfl)
  · exact level.column.isPiece.closed
  · exact level.table.isPiece.closed
  · exact (level.mask_condition selfContained).2

/-- On the top level, no keyword of a clause stands inside a clause. -/
theorem startsClause_sections
    {enclosed : Text}
    (selfContained : IsSelfContained enclosed) :
    ∀ part ∈ level.sections enclosed, ∀ word ∈ Text.words (mask part.2),
      startsClause word = false := by
  simp only [sections, List.mem_cons, List.not_mem_nil, or_false]
  rintro part (rfl | rfl | rfl)
  · refine startsClause_of_keywords fun word present => ?_
    rw [level.column.isPiece.topWords] at present
    exact absurd present List.not_mem_nil
  · refine startsClause_of_keywords fun word present => ?_
    rw [level.table.isPiece.topWords] at present
    exact absurd present List.not_mem_nil
  · refine startsClause_of_keywords fun word present => ?_
    have blanks : keywords (List.replicate enclosed.length ' ') = [] := by
      refine keywords_of_noWord fun c inBlanks => ?_
      rw [List.eq_of_mem_replicate inBlanks]
      decide
    rw [(level.mask_condition selfContained).1, keywords_condition, blanks] at present
    obtain rfl := List.mem_singleton.mp present
    decide

theorem exists_clause
    {enclosed : Text}
    (selfContained : IsSelfContained enclosed)
    (kind : ClauseKind)
    {body masked : Text}
    (isBody : bodyOf? kind (level.sections enclosed) = some body)
    (isMasked : bodyOf? kind (viewed mask (level.sections enclosed)) = some masked) :
    ∃ clause, clause? (clauses (mask (level.text enclosed))) kind.name = some clause ∧
      clause.body (level.text enclosed) = body ∧
      clause.body (mask (level.text enclosed)) = masked := by
  rw [text_eq]
  exact exists_clause_of_bodyOf? (level.closed_sections selfContained) (by simp [sections])
    (level.startsClause_sections selfContained) isBody isMasked

/-- The table of a level is recorded, whatever its list encloses. -/
theorem collectSources_text
    {enclosed : Text}
    (selfContained : IsSelfContained enclosed)
    (sources : Sources) :
    collectSources (level.text enclosed) (mask (level.text enclosed)) sources =
      record sources [.plain level.table] [] := by
  obtain ⟨clause, found, body, masked⟩ := level.exists_clause selfContained .source rfl rfl
  have recorded := collectFrom_eq (.plain level.table) [] (.inr rfl : IsGap [' ']) sources
  rw [collectSources, show clause? (clauses (mask (level.text enclosed))) "from" = some clause
    from found]
  simp only [body, masked]
  have source : sourceText (.plain level.table) [] = level.table.text := by
    simp [sourceText, Item.plain, Item.text, QualifiedName.text]
  rw [source] at recorded
  exact recorded

end Level

/-! ## Nested levels -/

namespace Level

/-- A level up to the word IN. -/
def front (level : Level) : Text :=
  sectionsText [(.select, level.column.text), (.source, level.table.text),
    (.filter, level.filtered.text ++ ' ' :: "IN".toList)]

theorem text_eq_front (level : Level) (enclosed : Text) :
    level.text enclosed = level.front ++ ' ' :: '(' :: (enclosed ++ [')']) := by
  have whole := sectionsText_filter level.column.text level.table.text
    (level.filtered.text ++ ' ' :: "IN".toList)
  have inWord : " IN ".toList = ' ' :: ("IN".toList ++ [' ']) := by decide
  rw [front, whole]
  unfold text head
  simp only [List.append_assoc, inWord, List.cons_append, List.nil_append]

/-- The reserved words of a level. -/
def words : List Text :=
  ["select", "from", "where", "in"]

theorem isPiece_front (level : Level) :
    IsPiece words level.front := by
  have inWord : IsPiece ["in".toList] "IN".toList :=
    isPiece_of_isSolid (by decide) (by decide) (by decide)
  have condition := level.filtered.isPiece.separated blank_mem_separators inWord
  have contents : ∀ part ∈ ([(.select, level.column.text), (.source, level.table.text),
      (.filter, level.filtered.text ++ ' ' :: "IN".toList)] : List Section),
      IsPiece (keywords part.2) part.2 := by
    simp only [List.mem_cons, List.not_mem_nil, or_false]
    rintro part (rfl | rfl | rfl)
    · exact level.column.isPiece.words.symm ▸ level.column.isPiece
    · exact level.table.isPiece.words.symm ▸ level.table.isPiece
    · exact condition.words.symm ▸ condition
  have piece := isPiece_sectionsText (List.cons_ne_nil _ _) contents
  have words : List.flatMap sectionWords [(.select, level.column.text),
      (.source, level.table.text), (.filter, level.filtered.text ++ ' ' :: "IN".toList)] =
        words := by
    have keywordWords : keywords ClauseKind.select.keyword = ["select".toList] ∧
        keywords ClauseKind.source.keyword = ["from".toList] ∧
        keywords ClauseKind.filter.keyword = ["where".toList] := by
      decide
    have conditionWords : keywords (level.filtered.text ++ ' ' :: "IN".toList) = ["in".toList] :=
      condition.words
    simp only [List.flatMap_cons, List.flatMap_nil, sectionWords, keywordWords,
      level.column.isPiece.words, level.table.isPiece.words, conditionWords]
    rfl
  exact words ▸ piece

end Level

theorem isSelfContained_nestedText (levels : List Level) :
    IsSelfContained (nestedText levels) := by
  induction levels with
  | nil => decide
  | cons level inner inductionHypothesis =>
      exact isSelfContained_enclosed level.isPlain_head inductionHypothesis

theorem isQueryChar_nestedText (levels : List Level) :
    ∀ c ∈ nestedText levels, isQueryChar c = true := by
  induction levels with
  | nil => exact List.all_eq_true.mp (by decide)
  | cons level inner inductionHypothesis =>
      have signs : [' ', '(', ')'].all isQueryChar = true := by decide
      intro c present
      rw [nestedText, Level.text_eq_front] at present
      simp only [List.mem_append, List.mem_cons, List.not_mem_nil, or_false] at present
      rcases present with inFront | rfl | rfl | inList | rfl
      · exact level.isPiece_front.chars c inFront
      · exact List.all_eq_true.mp signs ' ' (by simp)
      · exact List.all_eq_true.mp signs '(' (by simp)
      · exact inductionHypothesis c inList
      · exact List.all_eq_true.mp signs ')' (by simp)

theorem isTight_nestedText (levels : List Level) :
    IsTight (nestedText levels) := by
  induction levels with
  | nil => exact isTight_of_noBlank (by decide) (List.forall_mem_singleton.mpr (by decide))
  | cons level inner inductionHypothesis =>
      have sign {c : Char} (noBlank : Text.isBlank c = false) : IsTight [c] :=
        isTight_of_noBlank (List.cons_ne_nil _ _) (by simpa using noBlank)
      have enclosed := (sign (show Text.isBlank '(' = false by decide)).append
        (inductionHypothesis.append (sign (show Text.isBlank ')' = false by decide)))
      rw [nestedText, Level.text_eq_front]
      exact level.isPiece_front.tight.blank enclosed

theorem keywords_nestedText (levels : List Level) :
    keywords (nestedText levels) ⊆ Level.words := by
  induction levels with
  | nil => decide
  | cons level inner inductionHypothesis =>
      have blank : Text.isWord ' ' = false := by decide
      have opens : Text.isWord '(' = false := by decide
      have closes : Text.isWord ')' = false := by decide
      rw [nestedText, Level.text_eq_front, keywords_append_cons blank, keywords_cons opens,
        keywords_append_cons closes, level.isPiece_front.words]
      exact List.append_subset.mpr ⟨List.Subset.refl _,
        List.append_subset.mpr ⟨inductionHypothesis, List.nil_subset _⟩⟩

/-- A nested query has no index hint, so its structure is that of its text as it stands. -/
theorem extract_nestedText [CommentRemover] (levels : List Level) :
    Structure.extract (nestedText levels) = Structure.ofNormal false (nestedText levels) := by
  have absent : ∀ word ∈ hintWords, word ∉ Level.words := by decide
  exact extract_of_isTight (isQueryChar_nestedText levels) (isTight_nestedText levels)
    fun word isHintWord present => absent word isHintWord (keywords_nestedText levels present)

end Nested
end SqlReview
