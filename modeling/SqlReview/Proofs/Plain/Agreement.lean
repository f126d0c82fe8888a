import SqlReview.Proofs.Heuristic.Case
import SqlReview.Proofs.Plain.Extraction
import SqlReview.Query.Comment

/-!
# The agreement of both reviews

On plain queries the quick review of the text and the core rules of the full review object to the
same things, and the scores differ by what the quick review takes off at the start.
-/

namespace SqlReview

/-- The rules that are found, by their codes. -/
theorem codes_detect
    (checks : List Check)
    (signals : Structure) :
    (detect checks signals).map (·.code) =
      ((checks.map fun check => (check.rule.code, check.applies signals)).filter
        Prod.snd).map Prod.fst := by
  induction checks with
  | nil => rfl
  | cons check checks inductionHypothesis =>
      rw [detect] at inductionHypothesis
      rw [detect, List.filterMap_cons, Check.finding?, List.map_cons]
      cases applies : check.applies signals with
      | false => simpa using inductionHypothesis
      | true => simpa using inductionHypothesis

/-- The signals that the core rules look at. -/
theorem applies_coreChecks (signals : Structure) :
    (coreChecks.map fun check => (check.rule.code, check.applies signals)) =
      [(.selectStar, signals.selectsAllColumns),
        (.missingIndex, signals.hasWhere && !signals.hasIndexHint),
        (.orderByWithoutLimit, !signals.orderByColumns.isEmpty && !signals.hasLimit),
        (.leadingWildcardLike, signals.whereColumns.any (·.hasLeadingWildcard)),
        (.orInWhere, signals.hasOrInWhere),
        (.joinWithoutCondition, signals.hasUnconditionedJoin),
        (.subquery, 0 < signals.subqueryCount)] :=
  rfl

/-- A lower base lowers a score by the difference, but not below zero. -/
theorem score_ofRules_heuristicBase (rules : List Rule) :
    (Assessment.ofRules rules heuristicBase).score =
      max 0 ((Assessment.ofRules rules structuredBase).score - 15) := by
  change clampScore (heuristicBase - _) = max 0 (clampScore (structuredBase - _) - 15)
  unfold clampScore heuristicBase structuredBase
  omega

namespace PlainQuery

open Plain

variable (query : PlainQuery)

/-- The core rules of a full review of a plain query find the rules that the query breaks. -/
theorem codes_extract [CommentRemover] :
    (detect coreChecks (Structure.extract query.text)).map (·.code) = query.broken := by
  have copied (hint : Bool) (text : Text) : (Structure.ofNormal hint text).hasIndexHint = hint ∧
      (Structure.ofNormal hint text).subqueryCount = Query.subqueryCount text := ⟨rfl, rfl⟩
  obtain ⟨noHint, count⟩ := copied false query.text
  have tests := applies_coreChecks (Structure.ofNormal false query.text)
  rw [query.selectsAllColumns_text, query.hasWhere_text, noHint, query.orderByColumns_text,
    query.hasLimit_text, query.whereColumns_text, query.hasOrInWhere_text,
    query.hasUnconditionedJoin_structure, count, query.noSubquery.1, Bool.not_false, Bool.and_true,
    Option.not_isNone, Option.not_isSome] at tests
  rw [query.extract_text, codes_detect, tests]
  rfl

/-- Both reviews of a plain query find the same rules, and the score of the quick review is fifteen
points lower, but not below zero. -/
theorem reviews_agree [CommentRemover] :
    Heuristic.signals (Text.lower query.text) =
        (detect coreChecks (Structure.extract query.text)).map (·.code) ∧
      (Heuristic.analyze query.text).score =
        max 0 ((assessFindings (detect coreChecks (Structure.extract query.text))
          structuredBase).score - 15) := by
  have codes : Heuristic.signals (Text.lower query.text) =
      (detect coreChecks (Structure.extract query.text)).map (·.code) := by
    rw [Heuristic.signals_lower fun c present => ascii_of_isQueryChar (query.isPiece.chars c present),
      query.signals_text, query.codes_extract]
  refine ⟨codes, ?_⟩
  have rules : (Heuristic.signals (Text.lower query.text)).map RuleCode.rule =
      (detect coreChecks (Structure.extract query.text)).map (·.code.rule) := by
    rw [codes, List.map_map]
    rfl
  change (Assessment.ofRules ((Heuristic.signals _).map RuleCode.rule) heuristicBase).score = _
  rw [rules, score_ofRules_heuristicBase]
  rfl

/-- Both reviews agree on a query that breaks five rules. -/
theorem reviews_agree_on_five :
    ∃ query : PlainQuery, query.text = "SELECT * FROM t JOIN u WHERE n1 LIKE '%x' ORDER BY n1" ∧
      (detect coreChecks (Structure.extract query.text)).map (·.code) =
        [.selectStar, .missingIndex, .orderByWithoutLimit, .leadingWildcardLike,
          .joinWithoutCondition] ∧
      Heuristic.signals (Text.lower query.text) =
        (detect coreChecks (Structure.extract query.text)).map (·.code) ∧
      (Heuristic.analyze query.text).score =
        max 0 ((assessFindings (detect coreChecks (Structure.extract query.text))
          structuredBase).score - 15) := by
  let first : Table := ⟨⟨'t', [], rfl, List.forall_mem_nil _, by decide⟩, none⟩
  let second : Table := ⟨⟨'u', [], rfl, List.forall_mem_nil _, by decide⟩, none⟩
  let column : Column := ⟨none, 'n', ['1'], rfl, List.all_eq_true.mp rfl, by decide⟩
  let content : LiteralText := ⟨"%x", List.all_eq_true.mp rfl, by decide⟩
  refine ⟨⟨.star, first, [⟨.plain, second, .none⟩], some ⟨⟨column, .like, .literal content⟩, []⟩,
    some ⟨column, []⟩, none⟩, by decide, ?_, reviews_agree _⟩
  rw [codes_extract]
  decide

end PlainQuery
end SqlReview
