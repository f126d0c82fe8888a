import SqlReview.Proofs.Pattern.CaseSearch
import SqlReview.Query.Structure

/-!
# The patterns of queries and capital letters

No pattern by which queries are examined tells plain capital letters from small ones. Letters stand in
a pattern as words, which are compared with case ignored, or through classes of characters, each of
which holds both cases of a letter or none. So it suffices to take a pattern apart.
-/

namespace SqlReview
namespace Query

open Pattern Text

/-! ## Classes of characters -/

/-- Both cases of a letter start an identifier. -/
@[simp] theorem startsIdentifier_smallLetter
    (c : Char) :
    startsIdentifier (smallLetter c) = startsIdentifier c :=
  eq_smallLetter (by decide) c

/-- Both cases of a letter continue an identifier. -/
@[simp] theorem continuesIdentifier_smallLetter
    (c : Char) :
    continuesIdentifier (smallLetter c) = continuesIdentifier c :=
  eq_smallLetter (by decide) c

@[simp] theorem startsPlainIdentifier_smallLetter
    (c : Char) :
    startsPlainIdentifier (smallLetter c) = startsPlainIdentifier c :=
  eq_smallLetter (by decide) c

/-- No letter is a digit. -/
@[simp] theorem isDecimalDigit_smallLetter
    (c : Char) :
    isDecimalDigit (smallLetter c) = isDecimalDigit c :=
  eq_smallLetter (by decide) c

/-! ## Names -/

@[simp] theorem ignoresCase_identifier : IgnoresCase .identifier := by
  simp [Pattern.identifier]

/-- A delimited name is read up to its closing mark, which is no letter. -/
@[simp] theorem ignoresCase_delimitedName : delimitedName.IgnoresCase := by
  simp [delimitedName, delimited, oneOrMore]

@[simp] theorem ignoresCase_dot : dot.IgnoresCase := by
  simp [dot]

@[simp] theorem ignoresCase_namePart : namePart.IgnoresCase := by
  simp [namePart]

/-- A column is found by its name in any letter case, qualified or not. -/
@[simp] theorem ignoresCase_columnName : columnName.IgnoresCase := by
  simp [columnName]

/-! ## Clauses and tables -/

@[simp] theorem ignoresCase_twoWords
    (first second : Text) :
    (twoWords first second).IgnoresCase := by
  simp [twoWords]

@[simp] theorem ignoresCase_optionalWord
    (word : Text) :
    (optionalWord word).IgnoresCase := by
  simp [optionalWord]

/-- A clause is found by its keyword in any letter case. -/
theorem ignoresCase_clauseKeyword : clauseKeyword.IgnoresCase := by
  simp [clauseKeyword]

/-- A join is found by its keywords in any letter case. -/
theorem ignoresCase_joinKeyword : joinKeyword.IgnoresCase := by
  simp [joinKeyword]

/-- The word between a table and its alias is found in any letter case. -/
theorem ignoresCase_tableReference : tableReference.IgnoresCase := by
  simp [tableReference]

theorem ignoresCase_derivedTable : derivedTable.IgnoresCase := by
  simp [derivedTable]

theorem ignoresCase_usingKeyword : usingKeyword.IgnoresCase := by
  simp [usingKeyword]

/-- A subquery is found by the word SELECT in any letter case. -/
theorem ignoresCase_subqueryHead : subqueryHead.IgnoresCase := by
  simp [subqueryHead]

/-! ## Conditions -/

/-- The operators that are words are found in any letter case. -/
@[simp] theorem ignoresCase_operator : operator.IgnoresCase := by
  simp [operator, wordOperator, likeWord]

theorem ignoresCase_wrappedColumn : wrappedColumn.IgnoresCase := by
  simp [wrappedColumn]

theorem ignoresCase_plainColumn : plainColumn.IgnoresCase := by
  simp [plainColumn]

/-- The letter in front of a national literal may be a capital one. -/
theorem ignoresCase_leadingWildcard : leadingWildcard.IgnoresCase := by
  -- This class is no named one, so that `simp` has nothing to use for it.
  have mark (c : Char) : (decide (smallLetter c = 'n') || decide (smallLetter c = 'N')) =
      (decide (c = 'n') || decide (c = 'N')) :=
    @eq_smallLetter Bool (fun d => decide (d = 'n') || decide (d = 'N')) (by decide) c
  simp [leadingWildcard, mark]

/-! ## Select lists -/

/-- An aggregate function is found by its name in any letter case. -/
theorem ignoresCase_aggregateCall : aggregateCall.IgnoresCase := by
  simp [aggregateCall]

theorem ignoresCase_windowKeyword : windowKeyword.IgnoresCase := by
  simp [windowKeyword]

/-- What stands in front of a select list is found in any letter case. -/
theorem ignoresCase_selectPreamble : selectPreamble.IgnoresCase := by
  simp [selectPreamble, oneOrMore]

theorem ignoresCase_starItem : starItem.IgnoresCase := by
  simp [starItem]

theorem ignoresCase_columnItem : columnItem.IgnoresCase := by
  simp [columnItem]

/-! ## Hints, limits and rules -/

/-- A hint is found in any letter case. -/
theorem ignoresCase_indexHint : indexHint.IgnoresCase := by
  simp [indexHint]

/-- A limit on the rows is found in any letter case. -/
theorem ignoresCase_rowLimit : rowLimit.IgnoresCase := by
  simp [rowLimit]

/-- ASC and DESC are found in any letter case. -/
theorem ignoresCase_orderDirection : orderDirection.IgnoresCase := by
  simp [orderDirection]

end Query
end SqlReview
