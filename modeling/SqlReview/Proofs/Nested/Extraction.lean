import SqlReview.Proofs.Nested.Scopes
import SqlReview.Proofs.Query.Conditions
import SqlReview.Proofs.Query.Literals
import SqlReview.Proofs.WhereClause.Reading

/-!
# What is extracted from a nested query

The tables of all levels are recorded, outermost first, and nothing of the inner levels reaches the
condition of the outermost one: it compares the column in front of its list, and no other.
-/

namespace SqlReview
namespace Nested

open Query Plain FromClause

/-! ## The condition of a level -/

section

variable (level : Level) {shown : Text}

/-- A condition behind the word WHERE, up to its list. -/
def Level.lead : Text :=
  ' ' :: (level.filtered.text ++ " IN ".toList)

theorem Level.cons_condition (enclosed : Text) :
    ' ' :: level.condition enclosed = level.lead ++ '(' :: (enclosed ++ [')']) := by
  simp [condition, lead]

theorem Level.uses_lead : Uses ['$', ' '] level.lead :=
  ((level.filtered.uses (by decide)).append (show Uses _ " IN ".toList by decide)).cons (by decide)

/-- No function is applied to a column. -/
theorem wrappedComparisons_condition (isShown : IsShown shown) :
    wrappedComparisons (' ' :: level.condition shown) = [] := by
  refine wrappedComparisons_of_noName fun front behind equal c present => isShown.noName c ?_
  rw [level.cons_condition] at equal
  rcases List.append_eq_append_iff.mp equal with ⟨more, -, list⟩ | ⟨more, lead, list⟩
  · rw [list]
    simp [present]
  · cases more with
    | nil =>
        obtain rfl : behind = shown ++ [')'] := (List.cons.inj list).2
        exact .tail _ present
    | cons d more =>
        -- The parenthesis would stand in front of the list.
        obtain rfl : '(' = d := (List.cons.inj list).1
        exact absurd (lead ▸ List.mem_append_right front (.head more))
          (level.uses_lead.not_mem (by decide) (by decide))

/-- The column in front of the list is the only one that is found in front of an operator. -/
theorem occurrences_condition (isShown : IsShown shown) :
    plainColumn.occurrences (' ' :: level.condition shown) =
      [⟨1, 1 + (level.filtered.text ++ " IN".toList).length, level.filtered.text ++ " IN".toList,
        [⟨3, 1 + level.filtered.text.length + 1, "IN"⟩, ⟨2, 1, level.filtered.text⟩]⟩] := by
  have split : ' ' :: level.condition shown = [' '] ++ (level.filtered.text ++ " IN".toList ++
      (' ' :: '(' :: (shown ++ [')']))) := by
    simp [Level.condition]
  have noName : ∀ c ∈ ' ' :: '(' :: (shown ++ [')']), Text.startsIdentifier c = false :=
    List.forall_mem_cons.mpr ⟨by decide, isShown.noName⟩
  have isName : columnName.Reads (some ' ') 1 level.filtered.text
      (' ' :: "IN".toList ++ ' ' :: '(' :: (shown ++ [')'])) [] :=
    QualifiedName.reads_columnName ⟨none, level.filtered⟩ rfl
  have isIn (index : Nat) : (Pattern.any operatorForms).Reads (some ' ') index "IN".toList
      (' ' :: '(' :: (shown ++ [')'])) [] :=
    fun _ => rfl
  have reads : plainColumn.Reads (some ' ') 1 (level.filtered.text ++ " IN".toList)
      (' ' :: '(' :: (shown ++ [')'])) _ :=
    WhereClause.reads_plainColumn isName isIn rfl
  have found := reads.occurrenceAt?
  have isQuiet (before : Option Char) :
      plainColumn.IsQuiet before (' ' :: '(' :: (shown ++ [')'])) [] :=
    isQuiet_plainColumn noName
  have blank : plainColumn.IsQuiet none [' '] (level.filtered.text ++ " IN".toList ++
      (' ' :: '(' :: (shown ++ [')']))) :=
    isQuiet_plainColumn (List.forall_mem_singleton.mpr (by decide))
  rw [Pattern.occurrences, split, Pattern.occurrencesFrom_quiet blank]
  change plainColumn.occurrencesFrom 0 (some ' ') 1 _ = _
  rw [Pattern.occurrencesFrom_of_occurrenceAt? found (by simp [Occurrence.length]) (by simp),
    ← List.append_nil (' ' :: '(' :: (shown ++ [')'])), Pattern.occurrencesFrom_quiet (isQuiet _)]
  rfl

/-- The condition of a level compares the column in front of the list, and no other. -/
theorem whereColumns_condition (isShown : IsShown shown) :
    whereColumns (' ' :: level.condition shown) = [⟨level.filtered.text, false, false⟩] := by
  have isColumn : isAmong sqlWords level.filtered.text = false :=
    level.filtered.isPiece.not_isAmong_sqlWords
  have plain : plainComparisons (' ' :: level.condition shown) =
      [⟨1, level.filtered.text, false, false⟩] := by
    rw [plainComparisons, occurrences_condition level isShown, List.filter_cons_of_pos]
    · rfl
    · exact congrArg not isColumn
  rw [whereColumns, comparisons, wrappedComparisons_condition level isShown, plain,
    List.nil_append, List.mergeSort_singleton]
  rfl

theorem hasOr_condition (isShown : IsShown shown) :
    hasOr (' ' :: level.condition shown) = false := by
  have noQuote : '\'' ∉ ' ' :: level.condition shown := by
    have inLead : '\'' ∉ level.lead := level.uses_lead.not_mem (by decide) (by decide)
    have inShown : '\'' ∉ shown := fun present => (isShown.isPlain _ present).1 rfl
    rw [level.cons_condition, List.mem_append, not_or]
    exact ⟨inLead, by simp [inShown]⟩
  rw [hasOr, withoutLiterals_of_noQuote noQuote, Bool.eq_false_iff]
  intro found
  have present := (Pattern.word_occursIn_iff (by decide) _).mp found
  rw [← mem_keywords (by decide), keywords_cons (by decide), level.keywords_condition,
    isShown.keywords_eq_nil] at present
  revert present
  decide

end

/-! ## What is extracted -/

/-- The subqueries of nested levels are recorded in order. -/
theorem foldl_collectSources
    (inner : List Level)
    (sources : Sources) :
    (inner.map fun found => (⟨found.text [], mask (found.text [])⟩ : Scope)).foldl
        (fun sources scope => collectSources scope.text scope.masked sources) sources =
      record sources (inner.map fun found => .plain found.table) [] := by
  induction inner generalizing sources with
  | nil => simp [record]
  | cons level inner inductionHypothesis =>
      have first := level.collectSources_text (show IsSelfContained [] by decide) sources
      rw [List.map_cons, List.foldl_cons, first, inductionHypothesis, record_record]
      rfl

/-- The tables of all levels are recorded, outermost first. -/
theorem allSources_nestedText
    (outer : Level)
    (inner : List Level) :
    allSources (nestedText (outer :: inner)) (mask (nestedText (outer :: inner))) =
      ⟨distinctNames ((outer :: inner).map (·.table.text)), [], []⟩ := by
  have first := outer.collectSources_text (isSelfContained_nestedText inner) {}
  have recorded : allSources (nestedText (outer :: inner)) (mask (nestedText (outer :: inner))) =
      record {} ((outer :: inner).map fun level => .plain level.table) [] := by
    rw [allSources, scopes_nestedText, foldl_collectSources, nestedText, first, record_record]
    rfl
  have noAliases : ((outer :: inner).map fun level => Item.plain level.table).filterMap
      Item.alias? = [] := by
    simp [Item.plain, Item.alias?]
  rw [recorded, record_empty, noAliases, List.map_map]
  rfl

/-- The condition of a nested query is that of its outermost level, with nothing of the inner
levels. -/
theorem exists_condition
    (outer : Level)
    (inner : List Level) :
    ∃ clause shown, clause? (clauses (mask (nestedText (outer :: inner)))) "where" = some clause ∧
      clause.body (outsideView (nestedText (outer :: inner))) = ' ' :: outer.condition shown ∧
      IsShown shown := by
  obtain ⟨shown, view, length, isShown⟩ := exists_outsideView outer inner
  have selfContained := isSelfContained_plain isShown.isPlain
  obtain ⟨clause, found, body, -⟩ := outer.exists_clause selfContained .filter rfl rfl
  refine ⟨clause, shown, ?_, ?_, isShown⟩
  · rw [nestedText, outer.mask_text (isSelfContained_nestedText inner), ← length,
      ← outer.mask_text selfContained]
    exact found
  · rw [view, body]
    exact congrArg (' ' :: ·) (List.append_nil _)

/-- Every level of a nested query is looked at, at any depth. The tables of all levels are recorded,
each once, case ignored; the condition is that of the outermost level only. -/
theorem levels_read_back
    [CommentRemover]
    (outer : Level)
    (inner : List Level) :
    (Structure.extract (nestedText (outer :: inner))).subqueryCount = inner.length ∧
      (Structure.extract (nestedText (outer :: inner))).tables =
        distinctNames ((outer :: inner).map (·.table.text)) ∧
      (Structure.extract (nestedText (outer :: inner))).whereColumns =
        [⟨outer.filtered.text, false, false⟩] ∧
      (Structure.extract (nestedText (outer :: inner))).joins = [] ∧
      (Structure.extract (nestedText (outer :: inner))).hasOrInWhere = false := by
  obtain ⟨clause, shown, found, body, isShown⟩ := exists_condition outer inner
  rw [extract_nestedText]
  simp only [Structure.ofNormal, allSources_nestedText, subqueryCount_nestedText, found,
    Option.map_some, Option.getD_some, Option.any_some, body, List.tail_cons, true_and]
  exact ⟨whereColumns_condition outer isShown, hasOr_condition outer isShown⟩

/-- A query nested into another one that reads the same table. -/
theorem levels_read_back_twice :
    ∃ outer inner, nestedText [outer, inner] =
        "SELECT a FROM t WHERE b IN (SELECT c FROM T WHERE d IN (1))" ∧
      (Structure.extract (nestedText [outer, inner])).subqueryCount = 1 ∧
      (Structure.extract (nestedText [outer, inner])).tables = ["t".toList] ∧
      (Structure.extract (nestedText [outer, inner])).whereColumns = [⟨"b", false, false⟩] := by
  let outer : Level :=
    ⟨.ofChar 'a' rfl (by decide), .ofChar 't' rfl (by decide), .ofChar 'b' rfl (by decide)⟩
  let inner : Level :=
    ⟨.ofChar 'c' rfl (by decide), .ofChar 'T' rfl (by decide), .ofChar 'd' rfl (by decide)⟩
  obtain ⟨count, tables, columns, -⟩ := levels_read_back outer [inner]
  exact ⟨outer, inner, by decide, count, tables.trans (by decide), columns⟩

end Nested
end SqlReview
