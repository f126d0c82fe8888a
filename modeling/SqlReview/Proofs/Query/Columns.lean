import Mathlib.Data.List.Induction
import SqlReview.Proofs.FromClause.Recording
import SqlReview.Proofs.Query.Normal
import SqlReview.Proofs.Text.Layout
import SqlReview.Query.Comment

/-!
# Compared columns

The columns of a condition are the names in its comparisons, each once, case ignored, with what some
comparison of it does. Comparisons stem from two scans. Main statement: the words that look like
columns are kept out by one of them only, so a column is recorded as wrapped, and such a word as a
column, exactly if the other scan takes a call for one.
-/

namespace SqlReview
namespace Query

open FromClause

/-! ## Putting comparisons together -/

/-- A column by its name, with what some of the comparisons of it do. -/
def columnOf (comparisons : List Comparison) (name : Text) : WhereColumn :=
  { name := name
    isWrapped := comparisons.any fun comparison =>
      sameName name comparison.name && comparison.isWrapped
    hasLeadingWildcard := comparisons.any fun comparison =>
      sameName name comparison.name && comparison.hasLeadingWildcard }

/-- The columns of comparisons in the order of appearance, each once, case ignored. -/
def columnsOf (comparisons : List Comparison) : List WhereColumn :=
  (distinctNames (comparisons.map (·.name))).map (columnOf comparisons)

variable {comparisons : List Comparison} {comparison : Comparison} {name : Text}

theorem columnOf_concat_of_same
    (same : Text.lower name = Text.lower comparison.name) :
    columnOf (comparisons ++ [comparison]) name =
      { columnOf comparisons name with
        isWrapped := (columnOf comparisons name).isWrapped || comparison.isWrapped
        hasLeadingWildcard :=
          (columnOf comparisons name).hasLeadingWildcard || comparison.hasLeadingWildcard } := by
  simp [columnOf, sameName, same]

theorem columnOf_concat_of_ne
    (other : Text.lower name ≠ Text.lower comparison.name) :
    columnOf (comparisons ++ [comparison]) name = columnOf comparisons name := by
  simp [columnOf, sameName, other.symm]

/-- A column that no earlier comparison names has what its first comparison does. -/
theorem columnOf_concat_self
    (new : ∀ earlier ∈ comparisons, Text.lower earlier.name ≠ Text.lower comparison.name) :
    columnOf (comparisons ++ [comparison]) comparison.name =
      ⟨comparison.name, comparison.isWrapped, comparison.hasLeadingWildcard⟩ := by
  have none (flag : Comparison → Bool) : (comparisons.any fun earlier =>
      sameName comparison.name earlier.name && flag earlier) = false := by
    refine List.any_eq_false.mpr fun earlier present => ?_
    simp [sameName, new earlier present]
  rw [columnOf_concat_of_same rfl]
  simp [columnOf, none]

/-- One more comparison, put together with columns whose names differ, case ignored. -/
theorem addComparison_map_columnOf
    {names : List Text}
    (distinct : names.Pairwise fun name other => Text.lower name ≠ Text.lower other) :
    addComparison comparison (names.map (columnOf comparisons)) =
      names.map (columnOf (comparisons ++ [comparison])) ++
        if names.any (sameName comparison.name) then []
        else [⟨comparison.name, comparison.isWrapped, comparison.hasLeadingWildcard⟩] := by
  induction names with
  | nil => rfl
  | cons name names inductionHypothesis =>
      obtain ⟨different, othersDistinct⟩ := List.pairwise_cons.mp distinct
      rw [List.map_cons, List.map_cons, addComparison, List.any_cons]
      by_cases same : Text.lower name = Text.lower comparison.name
      · have others : names.map (columnOf (comparisons ++ [comparison])) =
            names.map (columnOf comparisons) :=
          List.map_congr_left fun other present =>
            columnOf_concat_of_ne (same ▸ (different other present).symm)
        rw [columnOf_concat_of_same same, others]
        simp [sameName, same, columnOf]
      · have notSame : Text.lower (columnOf comparisons name).name ≠ Text.lower comparison.name :=
          same
        rw [if_neg notSame, inductionHypothesis othersDistinct, columnOf_concat_of_ne same]
        simp [sameName, same]

theorem pairwise_distinctNames (names : List Text) :
    (distinctNames names).Pairwise fun name other => Text.lower name ≠ Text.lower other := by
  rw [distinctNames, ← foldl_addNew_nil]
  refine List.foldlRecOn (motive := List.Pairwise fun name other =>
    Text.lower name ≠ Text.lower other) names _ .nil fun known distinct name _ => ?_
  rw [addNew]
  split
  · exact distinct
  next unknown =>
      rw [List.pairwise_append]
      refine ⟨distinct, List.pairwise_singleton _ _, fun earlier present other isLast => ?_⟩
      obtain rfl := List.mem_singleton.mp isLast
      intro same
      exact unknown (List.any_eq_true.mpr ⟨earlier, present, by simp [sameName, same]⟩)

/-- Comparisons are put together by the names of their columns. -/
theorem foldl_addComparison (comparisons : List Comparison) :
    comparisons.foldl (fun columns comparison => addComparison comparison columns) [] =
      columnsOf comparisons := by
  induction comparisons using List.reverseRecOn with
  | nil => rfl
  | append_singleton comparisons comparison inductionHypothesis =>
      have names : distinctNames ((comparisons ++ [comparison]).map (·.name)) =
          addNew sameName (distinctNames (comparisons.map (·.name))) comparison.name := by
        rw [distinctNames, distinctNames, ← foldl_addNew_nil, ← foldl_addNew_nil, List.map_append,
          List.foldl_append]
        rfl
      rw [List.foldl_concat, inductionHypothesis, columnsOf, columnsOf, names,
        addComparison_map_columnOf (pairwise_distinctNames _), addNew]
      split
      · exact List.append_nil _
      next unknown =>
          have new : ∀ earlier ∈ comparisons,
              Text.lower earlier.name ≠ Text.lower comparison.name := by
            intro earlier present same
            have known : Text.lower comparison.name ∈
                (distinctNames (comparisons.map (·.name))).map Text.lower :=
              lower_mem_distinctNames.mpr ⟨_, List.mem_map_of_mem present, same⟩
            obtain ⟨name, isKnown, equal⟩ := List.mem_map.mp known
            exact unknown (List.any_eq_true.mpr ⟨name, isKnown, by simp [sameName, equal]⟩)
          rw [List.map_append, List.map_singleton, columnOf_concat_self new]

theorem whereColumns_eq (view : Text) :
    whereColumns view = columnsOf (Query.comparisons view) :=
  foldl_addComparison (Query.comparisons view)

/-! ## Calls -/

/-- A function applied to a column. -/
structure Call where
  /-- The name in front of the parenthesis. -/
  function : Text
  /-- The first argument. -/
  column : Text
  deriving DecidableEq, Repr

/-- What a condition has in front of operators that looks like a function applied to a column, apart
from the words that are known to be no functions. -/
def calls (view : Text) : List Call :=
  ((wrappedColumn.occurrences view).map fun occurrence =>
    (⟨occurrence.groupText 1, occurrence.groupText 2⟩ : Call)).filter fun call =>
      !isAmong nonFunctionWords call.function

variable {view : Text}

theorem mem_comparisons :
    comparison ∈ Query.comparisons view ↔
      comparison ∈ wrappedComparisons view ∨ comparison ∈ plainComparisons view := by
  rw [Query.comparisons, List.mem_mergeSort, List.mem_append]

/-- The scan for calls compares the columns of the calls. -/
theorem exists_wrappedComparison_iff (isRight : Text → Prop) :
    (∃ comparison ∈ wrappedComparisons view, isRight comparison.name) ↔
      ∃ call ∈ calls view, isRight call.column := by
  rw [wrappedComparisons, calls, List.filter_map]
  simp only [List.mem_map, exists_exists_and_eq_and]
  rfl

theorem isWrapped_of_mem (present : comparison ∈ wrappedComparisons view) :
    comparison.isWrapped = true := by
  obtain ⟨occurrence, -, rfl⟩ := List.mem_map.mp present
  rfl

/-- The scan for columns alone passes the words by. -/
theorem of_mem_plainComparisons (present : comparison ∈ plainComparisons view) :
    comparison.isWrapped = false ∧ isAmong sqlWords comparison.name = false := by
  obtain ⟨occurrence, found, rfl⟩ := List.mem_map.mp present
  have notAmong : isAmong sqlWords (occurrence.groupText 2) = false := by
    simpa using (List.mem_filter.mp found).2
  exact ⟨rfl, notAmong⟩

/-- A column counts as wrapped just if there is a call of it. -/
theorem isWrapped_iff
    {column : WhereColumn}
    (present : column ∈ whereColumns view) :
    column.isWrapped = true ↔ ∃ call ∈ calls view, Text.lower call.column = Text.lower column.name := by
  rw [whereColumns_eq] at present
  obtain ⟨name, -, rfl⟩ := List.mem_map.mp present
  have scanned := @exists_wrappedComparison_iff view fun other =>
    Text.lower other = Text.lower name
  refine Iff.trans ?_ scanned
  rw [columnOf, List.any_eq_true]
  constructor
  · rintro ⟨comparison, isOne, flagged⟩
    rw [Bool.and_eq_true, sameName, decide_eq_true_eq] at flagged
    rcases mem_comparisons.mp isOne with isCall | isPlain
    · exact ⟨comparison, isCall, flagged.1⟩
    · rw [(of_mem_plainComparisons isPlain).1] at flagged
      exact absurd flagged.2 Bool.false_ne_true
  · rintro ⟨comparison, isCall, same⟩
    refine ⟨comparison, mem_comparisons.mpr (.inl isCall), ?_⟩
    rw [isWrapped_of_mem isCall, Bool.and_true, sameName]
    exact decide_eq_true same

/-- A column is recorded just if it is compared. -/
theorem exists_column_iff :
    (∃ column ∈ whereColumns view, Text.lower column.name = Text.lower name) ↔
      ∃ comparison ∈ Query.comparisons view, Text.lower comparison.name = Text.lower name := by
  have recorded : Text.lower name ∈
      (distinctNames ((Query.comparisons view).map (·.name))).map Text.lower ↔ _ :=
    lower_mem_distinctNames
  rw [List.mem_map] at recorded
  simp only [whereColumns_eq, columnsOf, List.mem_map, exists_exists_and_eq_and]
  simpa [columnOf] using recorded

/-- One of the words is recorded as a column just if there is a call of it. -/
theorem exists_word_iff
    {word : Text}
    (isWord : word ∈ sqlWords) :
    (∃ column ∈ whereColumns view, Text.lower column.name = word) ↔
      ∃ call ∈ calls view, Text.lower call.column = word := by
  have small : ∀ word ∈ sqlWords, Text.lower word = word := by decide
  have recorded : (∃ column ∈ whereColumns view, Text.lower column.name = Text.lower word) ↔
      ∃ comparison ∈ Query.comparisons view, Text.lower comparison.name = Text.lower word :=
    exists_column_iff
  rw [small word isWord] at recorded
  rw [recorded]
  refine Iff.trans ?_ (exists_wrappedComparison_iff fun other => Text.lower other = word)
  constructor
  · rintro ⟨comparison, isOne, same⟩
    rcases mem_comparisons.mp isOne with isCall | isPlain
    · exact ⟨comparison, isCall, same⟩
    · have notAmong := (of_mem_plainComparisons isPlain).2
      rw [isAmong, same, List.contains_iff_mem.mpr isWord] at notAmong
      exact absurd notAmong (by decide)
  · rintro ⟨comparison, isCall, same⟩
    exact ⟨comparison, mem_comparisons.mpr (.inl isCall), same⟩

/-! ## Queries -/

theorem normalize_of_isAllBlank
    [CommentRemover]
    {text : Text}
    (blank : text.isAllBlank = true) :
    normalize text = [] := by
  have noMark {mark : Char} (isMark : Text.isBlank mark = false) : mark ∉ text := by
    intro present
    rw [List.all_eq_true.mp blank mark present] at isMark
    exact absurd isMark (by decide)
  have plain : hasCommentMark text = false := by
    have noHolds {mark : Char} {others : Text} (isMark : Text.isBlank mark = false) :
        Text.holds (mark :: others) text = false :=
      Bool.eq_false_iff.mpr fun found =>
        noMark isMark (Text.mem_of_holds found (.head _))
    have noHash : text.contains '#' = false :=
      Bool.eq_false_iff.mpr fun found => noMark (by decide) (List.contains_iff_mem.mp found)
    rw [hasCommentMark, show "--".toList = '-' :: ['-'] from rfl, noHolds (by decide),
      show "/*".toList = '/' :: ['*'] from rfl, noHolds (by decide), noHash]
    rfl
  rw [normalize_of_plain plain, Text.trim_eq_nil_iff.mpr (Text.isAllBlank_collapse blank)]
  rfl

/-- What the WHERE clause of a query holds, seen from outside its subqueries. -/
def condition? [CommentRemover] (text : Text) : Option Text :=
  (clause? (clauses (mask (normalize text))) "where").map fun clause =>
    clause.body (outsideView (normalize text))

/-- What is extracted from the WHERE clause is what its condition gives. -/
theorem extract_condition [CommentRemover] (text : Text) :
    (Structure.extract text).whereColumns = ((condition? text).map whereColumns).getD [] ∧
      (Structure.extract text).hasOrInWhere = (condition? text).any hasOr := by
  have nothing (empty : normalize text = []) : condition? text = none := by
    rw [condition?, empty]
    rfl
  rw [Structure.extract]
  cases blank : Text.isAllBlank text with
  | true =>
      rw [nothing (normalize_of_isAllBlank blank)]
      exact ⟨rfl, rfl⟩
  | false =>
      by_cases empty : normalize text = []
      · rw [nothing empty, empty]
        exact ⟨rfl, rfl⟩
      · have nonempty : (normalize text).isEmpty = false := by simpa using empty
        rw [nonempty, if_neg Bool.false_ne_true, if_neg Bool.false_ne_true]
        simp only [Structure.ofNormal, condition?, and_self]

/-- The calls in the WHERE clause of a query. -/
def conditionCalls [CommentRemover] (text : Text) : List Call :=
  ((condition? text).map calls).getD []

/-- Calls alone decide whether a column is wrapped and whether a word that looks like a column is
recorded: the names in front of them are checked against the words that are no functions only, and
their arguments against no words. -/
theorem calls_decide [CommentRemover] (text : Text) :
    (∀ column ∈ (Structure.extract text).whereColumns, column.isWrapped = true ↔
        ∃ call ∈ conditionCalls text, Text.lower call.column = Text.lower column.name) ∧
      ∀ word ∈ sqlWords,
        (∃ column ∈ (Structure.extract text).whereColumns, Text.lower column.name = word) ↔
          ∃ call ∈ conditionCalls text, Text.lower call.column = word := by
  rw [(extract_condition text).1, conditionCalls]
  cases condition? text with
  | none => simp
  | some view => exact ⟨fun column => isWrapped_iff, fun word => exists_word_iff⟩

/-- NULL is recorded as a column where it is the first argument of a function, and a word of a case
distinction counts as a function. -/
theorem calls_miss_words :
    (Structure.extract "SELECT a FROM t WHERE COALESCE(NULL, b) = 1").whereColumns =
        [⟨"NULL", true, false⟩] ∧
      (Structure.extract "SELECT a FROM t WHERE CASE WHEN (b) = 1 THEN 2 END = 3").whereColumns =
        [⟨"b", true, false⟩] ∧
      conditionCalls "SELECT a FROM t WHERE CASE WHEN (b) = 1 THEN 2 END = 3" = [⟨"WHEN", "b"⟩] ∧
      isAmong sqlWords "NULL" = true ∧ isAmong sqlWords "WHEN" = true := by
  decide +kernel

end Query
end SqlReview
