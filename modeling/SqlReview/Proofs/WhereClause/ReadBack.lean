import SqlReview.Proofs.WhereClause.Scans
import SqlReview.Query.Comment

/-!
# What is extracted from a WHERE clause

Main statement: the columns of a condition are recorded in the order of appearance, each once, case
ignored, with whether a function is applied to it and whether it is matched against a leading wildcard
somewhere, and the condition has alternatives just if a connective is OR.
-/

namespace SqlReview
namespace WhereClause

open Query Plain FromClause

/-! ## Comparisons in order -/

variable {index : Nat}

theorem le_start_of_mem
    {first : Predicate}
    {others : Further}
    {comparison : Comparison}
    (present : comparison ∈ comparisonsAt index first others) :
    index ≤ comparison.start := by
  induction others generalizing index first with
  | nil =>
      obtain rfl := List.mem_singleton.mp present
      exact Nat.le_add_right index _
  | cons other others inductionHypothesis =>
      obtain ⟨connective, next⟩ := other
      rcases List.mem_cons.mp present with rfl | inOthers
      · exact Nat.le_add_right index _
      · exact Nat.le_trans (Nat.le_add_right index _) (inductionHypothesis inOthers)

/-- The column of a predicate starts before the predicate ends. -/
theorem Predicate.length_lead_lt (predicate : Predicate) :
    predicate.lead.length < predicate.text.length := by
  have inOperand : predicate.lead.length ≤ predicate.operand.length := by
    obtain ⟨function, column, comparator, value⟩ := predicate
    cases function with
    | none => exact Nat.zero_le _
    | some function => simp [lead, operand]
  rw [text, List.length_append, List.length_cons]
  omega

/-- The comparisons of a condition stand one behind the other. -/
theorem pairwise_comparisonsAt
    (first : Predicate)
    (others : Further) :
    (comparisonsAt index first others).Pairwise (·.start < ·.start) := by
  induction others generalizing index first with
  | nil => exact List.pairwise_singleton _ _
  | cons other others inductionHypothesis =>
      obtain ⟨connective, next⟩ := other
      refine List.pairwise_cons.mpr ⟨fun later present => ?_, inductionHypothesis next⟩
      have behind := le_start_of_mem present
      have inside := first.length_lead_lt
      rw [List.length_append] at behind
      change index + first.lead.length < later.start
      omega

variable (filter : Filter)

/-- Put in order, the comparisons of both scans are those of the predicates. -/
theorem comparisons_condition :
    Query.comparisons (' ' :: filter.text) = filter.comparisons := by
  obtain ⟨wrapped, plain⟩ := scans_condition filter
  have inOrder : filter.comparisons.Pairwise (·.start < ·.start) :=
    pairwise_comparisonsAt filter.first filter.others
  have distinct : (filter.comparisons.map (·.start)).Nodup :=
    List.pairwise_map.mpr (inOrder.imp Nat.ne_of_lt)
  have both : (wrappedComparisons (' ' :: filter.text) ++ plainComparisons (' ' :: filter.text)).Perm
      filter.comparisons := by
    rw [wrapped, plain]
    simpa using List.filter_append_perm (·.isWrapped) filter.comparisons
  have sorted := (List.mergeSort_perm _ fun first second : Comparison =>
    decide (first.start ≤ second.start)).trans both
  refine List.Perm.eq_of_pairwise (fun a b inSorted present le ge => ?_)
    (List.pairwise_mergeSort ?_ ?_ _) (inOrder.imp fun lt => decide_eq_true (Nat.le_of_lt lt)) sorted
  · refine List.inj_on_of_nodup_map distinct (sorted.mem_iff.mp inSorted) present ?_
    exact Nat.le_antisymm (of_decide_eq_true le) (of_decide_eq_true ge)
  · intro a b c le leToo
    exact decide_eq_true (Nat.le_trans (of_decide_eq_true le) (of_decide_eq_true leToo))
  · intro a b
    simpa using Nat.le_total a.start b.start

/-! ## Columns -/

/-- What does not depend on where a comparison stands is that of the predicate. -/
theorem map_comparisonsAt
    {Image : Type}
    {ofComparison : Comparison → Image}
    {ofPredicate : Predicate → Image}
    (same : ∀ (predicate : Predicate) (index : Nat),
      ofComparison (predicate.comparisonAt index) = ofPredicate predicate)
    (first : Predicate)
    (others : Further) :
    (comparisonsAt index first others).map ofComparison =
      (first :: others.map Prod.snd).map ofPredicate := by
  induction others generalizing index first with
  | nil => exact congrArg ([·]) (same first index)
  | cons other others inductionHypothesis =>
      exact congrArg₂ List.cons (same first index) (inductionHypothesis other.2)

theorem Filter.any_comparisons
    (ofComparison : Comparison → Bool)
    (ofPredicate : Predicate → Bool)
    (same : ∀ (predicate : Predicate) (index : Nat),
      ofComparison (predicate.comparisonAt index) = ofPredicate predicate) :
    filter.comparisons.any ofComparison = filter.predicates.any ofPredicate := by
  have mapped : filter.comparisons.map ofComparison = filter.predicates.map ofPredicate :=
    map_comparisonsAt same filter.first filter.others
  have any := congrArg (·.any id) mapped
  simpa only [List.any_map, Function.id_comp] using any

/-- The columns of the comparisons are those of the predicates. -/
theorem Filter.columnsOf_comparisons :
    columnsOf filter.comparisons = filter.columns := by
  have column (name : Text) : columnOf filter.comparisons name = filter.columnNamed name := by
    have wrapped := filter.any_comparisons
      (fun comparison => sameName name comparison.name && comparison.isWrapped)
      (fun predicate => sameName name predicate.column.text && predicate.function.isSome)
      (fun _ _ => rfl)
    have matched := filter.any_comparisons
      (fun comparison => sameName name comparison.name && comparison.hasLeadingWildcard)
      (fun predicate => sameName name predicate.column.text && predicate.hasWildcard)
      (fun _ _ => rfl)
    rw [columnOf, wrapped, matched]
    rfl
  have names : filter.comparisons.map (·.name) = filter.predicates.map (·.column.text) :=
    map_comparisonsAt (fun _ _ => rfl) filter.first filter.others
  rw [columnsOf, columns, names]
  exact List.map_congr_left fun name _ => column name

/-- The columns of a condition are read back with what is done to them, and whether it has
alternatives. -/
theorem Filter.predicates_read_back [CommentRemover] (column table : Identifier) :
    (Structure.extract (queryText column table filter)).whereColumns = filter.columns ∧
      (Structure.extract (queryText column table filter)).hasOrInWhere = filter.hasOr := by
  have extracted := extract_condition (queryText column table filter)
  rw [condition?_queryText] at extracted
  refine ⟨extracted.1.trans ?_, extracted.2.trans filter.hasOr_view⟩
  exact (whereColumns_eq _).trans ((congrArg columnsOf (comparisons_condition filter)).trans
    filter.columnsOf_comparisons)

/-- A column is under a function in one predicate and matched against a wildcard in another one. -/
theorem Filter.predicates_read_back_of_both :
    ∃ column table filter, queryText column table filter =
        "SELECT a FROM t WHERE f(b) = 1 OR B LIKE '%x' AND t.c > 2" ∧
      (Structure.extract (queryText column table filter)).whereColumns =
        [⟨"b", true, true⟩, ⟨"t.c", false, false⟩] ∧
      (Structure.extract (queryText column table filter)).hasOrInWhere = true := by
  let t : Identifier := .ofChar 't' rfl (by decide)
  let wrapped : Predicate :=
    ⟨some (.ofChar 'f' rfl (by decide)), ⟨none, .ofChar 'b' rfl (by decide)⟩, .eq,
      .number ⟨['1'], List.cons_ne_nil _ _, by decide⟩⟩
  let matched : Predicate :=
    ⟨none, ⟨none, .ofChar 'B' rfl (by decide)⟩, .like, .literal ⟨"%x", List.all_eq_true.mp rfl⟩⟩
  let plain : Predicate :=
    ⟨none, ⟨some t, .ofChar 'c' rfl (by decide)⟩, .gt,
      .number ⟨['2'], List.cons_ne_nil _ _, by decide⟩⟩
  obtain ⟨columns, alternatives⟩ := Filter.predicates_read_back
    ⟨wrapped, [(.or, matched), (.and, plain)]⟩ (.ofChar 'a' rfl (by decide)) t
  exact ⟨_, _, _, by decide, columns.trans (by decide), alternatives.trans (by decide)⟩

end WhereClause
end SqlReview
