import SqlReview.Proofs.Literals.Lists

/-!
# What is read from queries with other literals

The columns that a WHERE clause compares and the aggregates of a query are looked for in texts that still
hold the contents of literals. Main statement: they do not change when literals change behind their first
characters, provided that no literal holds what looks like a column in front of an operator or a mark at
which a scan stops. Without the proviso they do change.
-/

namespace SqlReview
namespace Query

variable {text other : Text}

/-! ## The top level of a clause -/

/-- Nothing is open where a clause starts, so the top level of its body is that of the body alone. -/
theorem body_mask
    {clause : Clause}
    (present : clause ∈ clauses (mask text)) :
    clause.body (mask text) = mask (clause.body text) := by
  rw [Clause.body, Clause.body, Text.slice, Text.slice, mask, drop_maskFrom, after_take_start present,
    take_maskFrom]
  rfl

/-! ## Literals with the same first characters -/

/-- Texts that agree at the first character of every literal have literals with the same first
characters. -/
theorem head?_eq_of_agree
    (sameLength : text.length = other.length)
    (agree : ∀ index < text.length, ¬IsBehindFirst text index → text[index]? = other[index]?)
    {lead rest otherLead otherRest : Text}
    (split : text = lead ++ '\'' :: rest)
    (otherSplit : other = otherLead ++ '\'' :: otherRest)
    (sameLead : lead.length = otherLead.length)
    (closed : literalAfter false lead = false) :
    rest.head? = otherRest.head? := by
  have first (lead rest : Text) : (lead ++ '\'' :: rest)[lead.length + 1]? = rest.head? := by
    rw [List.getElem?_append_right (Nat.le_add_right _ 1), Nat.add_sub_cancel_left,
      List.getElem?_cons_succ, List.head?_eq_getElem?]
  have notBehind : ¬IsBehindFirst text (lead.length + 1) := by
    rintro ⟨-, opens⟩
    rw [Nat.add_sub_cancel, split, List.take_left, closed] at opens
    exact absurd opens (by decide)
  rw [← first lead rest, ← first otherLead otherRest, ← split, ← otherSplit, ← sameLead]
  rcases Nat.lt_or_ge (lead.length + 1) text.length with inside | beyond
  · exact agree _ inside notBehind
  · rw [List.getElem?_eq_none beyond, List.getElem?_eq_none (sameLength ▸ beyond)]

/-! ## Readings -/

/-- What is read of a query in normal form depends on the texts that read the same only. -/
theorem SameReading.extract_eq
    [CommentRemover]
    (same : SameReading text other)
    (normal : normalize text = text)
    (otherNormal : normalize other = other)
    (nonempty : text ≠ []) :
    let first := Structure.extract text
    let second := Structure.extract other
    first.whereColumns = second.whereColumns ∧ first.aggregates = second.aggregates ∧
      first.selectHasAggregate = second.selectHasAggregate := by
  have otherNonempty : other ≠ [] := fun empty =>
    nonempty (List.length_eq_zero_iff.mp ((looksSame.length same).trans (by rw [empty]; rfl)))
  have sameMask : mask text = mask other := same.sameOutside.mask_eq
  rw [extract_of_normal normal nonempty, extract_of_normal otherNormal otherNonempty]
  simp only [Structure.ofNormal, ← sameMask]
  refine ⟨?_, same.aggregates_eq, ?_⟩
  · cases found : clause? (clauses (mask text)) "where" with
    | none => rfl
    | some clause =>
        have present : clause ∈ clauses (mask text) := List.mem_of_find?_eq_some found
        exact (same.viewedBody present).whereColumns_eq
  · cases found : clause? (clauses (mask text)) "select" with
    | none => rfl
    | some clause =>
        have present : clause ∈ clauses (mask text) := List.mem_of_find?_eq_some found
        have listed := (same.body present).hasAggregate_ofClause
        rw [← body_mask present] at listed
        exact listed

/-- Literals of two queries in normal form do not move what is compared and what is aggregated if the
queries agree outside of literals and in the first characters of literals, and the scans pass all
literals by. -/
theorem readings_agree
    [CommentRemover]
    (normal : normalize text = text)
    (otherNormal : normalize other = other)
    (sameLength : text.length = other.length)
    (sameQuotes : ∀ index < text.length, text[index]? = some '\'' ↔ other[index]? = some '\'')
    (agree : ∀ index < text.length, ¬IsBehindFirst text index → text[index]? = other[index]?)
    (inert : ∀ content ∈ literalContents text, isInert content = true)
    (otherInert : ∀ content ∈ literalContents other, isInert content = true) :
    let first := Structure.extract text
    let second := Structure.extract other
    first.whereColumns = second.whereColumns ∧ first.aggregates = second.aggregates ∧
      first.selectHasAggregate = second.selectHasAggregate := by
  by_cases empty : text = []
  · subst empty
    obtain rfl := List.length_eq_zero_iff.mp sameLength.symm
    simp
  have outside : SameOutside false text other :=
    sameOutside_of_inClosedLiteral sameLength sameQuotes fun index inside notInside =>
      agree index inside fun behind => notInside behind.1
  have same : SameReading text other :=
    outside.sameReading
      (fun _ _ _ _ split otherSplit sameLead closed =>
        head?_eq_of_agree sameLength agree split otherSplit sameLead closed)
      inert otherInert
  exact same.extract_eq normal otherNormal empty

/-- Words, commas and clause keywords inside literals have no effect. -/
theorem readings_agree_in_condition :
    let first := Structure.extract "SELECT MAX(a) FROM t WHERE f(b, 'x, y') = 1 AND c LIKE '%or u'".toList
    let second := Structure.extract "SELECT MAX(a) FROM t WHERE f(b, 'xand') = 1 AND c LIKE '%, in'".toList
    first.whereColumns = second.whereColumns ∧ first.aggregates = second.aggregates ∧
      first.selectHasAggregate = second.selectHasAggregate :=
  readings_agree (by decide +kernel) (by decide +kernel) (by decide) (by decide +kernel)
    (by decide +kernel) (by decide +kernel) (by decide +kernel)

/-- A literal that holds a column in front of an operator adds the column to those that are
compared. -/
theorem readings_differ :
    ∃ text other : Text, hasCommentMark text = false ∧ hasCommentMark other = false ∧
      normalize text = text ∧ normalize other = other ∧ text.length = other.length ∧
      (∀ index < text.length, text[index]? = some '\'' ↔ other[index]? = some '\'') ∧
      (∀ index < text.length, ¬IsBehindFirst text index → text[index]? = other[index]?) ∧
      (Structure.extract text).whereColumns ≠ (Structure.extract other).whereColumns :=
  ⟨"SELECT a FROM t WHERE 1 = 'x c = 1'".toList, "SELECT a FROM t WHERE 1 = 'x c + 1'".toList,
    by decide +kernel, by decide +kernel, by decide +kernel, by decide +kernel, by decide,
    by decide +kernel, by decide +kernel, by decide +kernel⟩

end Query
end SqlReview
