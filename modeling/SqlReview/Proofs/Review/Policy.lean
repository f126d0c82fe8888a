import Mathlib.Algebra.Order.BigOperators.Group.List
import Mathlib.Algebra.Order.Ring.Nat
import Mathlib.Data.List.Perm.Subperm
import SqlReview.Review.Assessment

/-!
# The scoring policy

What an assessment owes to the broken rules: its score stays in range, its tier is the least one that
no floor and no score forces up, the order of the rules does not matter, and further broken rules
never make a query look better. The tiers are compared by rank throughout; that the most severe tier
is a least upper bound, `rank_mostSevere_le_iff`, carries all statements about them.
-/

namespace SqlReview

namespace Severity

/-! ## Tiers -/

theorem rank_injective : Function.Injective rank := by
  intro first second equal
  cases first <;> cases second <;> first | rfl | exact absurd equal (by decide)

theorem rank_raise_le_iff
    {severity : Severity}
    {other : Option Severity}
    {bound : Nat} :
    (severity.raise other).rank ≤ bound ↔
      severity.rank ≤ bound ∧ ∀ tier ∈ other, tier.rank ≤ bound := by
  cases other with
  | none => simp [raise]
  | some tier =>
      rw [raise]
      simp only [Option.mem_def, Option.some.injEq, forall_eq']
      split <;> omega

/-- The most severe of several tiers is at most as severe as a bound if and only if each of them
is. -/
theorem rank_mostSevere_le_iff
    {tiers : List (Option Severity)}
    {bound : Nat} :
    (mostSevere tiers).rank ≤ bound ↔ ∀ tier, some tier ∈ tiers → tier.rank ≤ bound := by
  have fold (severity : Severity) : (tiers.foldl raise severity).rank ≤ bound ↔
      severity.rank ≤ bound ∧ ∀ tier, some tier ∈ tiers → tier.rank ≤ bound := by
    induction tiers generalizing severity with
    | nil => simp
    | cons other tiers inductionHypothesis =>
        rw [List.foldl_cons, inductionHypothesis, rank_raise_le_iff]
        simp only [List.mem_cons, or_imp, forall_and, and_assoc, Option.mem_def, eq_comm]
  rw [mostSevere, fold]
  exact and_iff_right (Nat.zero_le bound)

theorem ofScore_eq (score : Int) :
    ofScore score =
      if score < 40 then .critical else if score < 60 then .high
      else if score < 75 then .medium else .low := by
  simp only [ofScore, bounds, List.find?_cons, List.find?_nil]
  repeat' split
  all_goals simp_all

/-- A lower score never falls into a less severe tier. -/
theorem rank_ofScore_antitone
    {lower higher : Int}
    (le : lower ≤ higher) :
    (ofScore higher).rank ≤ (ofScore lower).rank := by
  simp only [ofScore_eq]
  repeat' split
  all_goals first | decide | omega

end Severity

/-! ## Scores -/

theorem clampScore_mem (score : Int) :
    0 ≤ clampScore score ∧ clampScore score ≤ 100 := by
  unfold clampScore
  omega

theorem clampScore_mono
    {lower higher : Int}
    (le : lower ≤ higher) :
    clampScore lower ≤ clampScore higher := by
  unfold clampScore
  omega

namespace Assessment

theorem deduction_eq_sum (rules : List Rule) :
    deduction rules = (rules.map (·.weight)).sum := by
  induction rules with
  | nil => rfl
  | cons rule rules inductionHypothesis =>
      rw [deduction, inductionHypothesis, List.map_cons, List.sum_cons]

/-- Further rules take off further points. -/
theorem deduction_le_of_subperm
    {rules larger : List Rule}
    (contained : rules.Subperm larger) :
    deduction rules ≤ deduction larger := by
  obtain ⟨arranged, perm, sublist⟩ := contained
  calc deduction rules
      = (arranged.map (·.weight)).sum := by
        rw [deduction_eq_sum, (perm.map (·.weight)).sum_eq]
    _ ≤ (larger.map (·.weight)).sum :=
        (sublist.map (·.weight)).sum_le_sum fun _ _ => Nat.zero_le _
    _ = deduction larger := (deduction_eq_sum larger).symm

/-! ## Assessments -/

/-- The tier of an assessment is at most as severe as a bound if and only if the floors of the rules
and the tier of the score are. -/
theorem rank_severity_le_iff
    {rules : List Rule}
    {base : Int}
    {bound : Nat} :
    (ofRules rules base).severity.rank ≤ bound ↔
      (∀ rule ∈ rules, ∀ floor ∈ rule.floor, floor.rank ≤ bound) ∧
        (Severity.ofScore (ofRules rules base).score).rank ≤ bound := by
  have floors : (Severity.mostSevere (rules.map (·.floor))).rank ≤ bound ↔
      ∀ rule ∈ rules, ∀ floor ∈ rule.floor, floor.rank ≤ bound := by
    rw [Severity.rank_mostSevere_le_iff]
    simp only [List.mem_map, forall_exists_index, and_imp, Option.mem_def]
    exact ⟨fun each rule present floor isFloor => each floor rule present isFloor,
      fun each floor rule present isFloor => each rule present floor isFloor⟩
  rw [← floors]
  simp only [ofRules, Severity.rank_mostSevere_le_iff, List.mem_cons,
    List.not_mem_nil, or_false, Option.some.injEq, or_imp, forall_and, forall_eq]

/-- Further broken rules never raise the score and never make the tier less severe. -/
theorem worsens_of_subperm
    {rules larger : List Rule}
    (contained : rules.Subperm larger)
    (base : Int) :
    (ofRules larger base).score ≤ (ofRules rules base).score ∧
      (ofRules rules base).severity.rank ≤ (ofRules larger base).severity.rank := by
  have score : (ofRules larger base).score ≤ (ofRules rules base).score := by
    have deducted := deduction_le_of_subperm contained
    exact clampScore_mono (by omega)
  obtain ⟨floors, ofScore⟩ := rank_severity_le_iff.mp (Nat.le_refl (ofRules larger base).severity.rank)
  refine ⟨score, rank_severity_le_iff.mpr ⟨?_, ?_⟩⟩
  · exact fun rule present => floors rule (contained.subset present)
  · exact Nat.le_trans (Severity.rank_ofScore_antitone score) ofScore

/-- The assessment of broken rules has a score from zero to a hundred; its tier is the least one at or
above all floors of the rules and the tier of the score; it does not depend on the order of the
rules; and when further rules are broken the score is not higher and the tier not less severe. -/
theorem ofRules_policy
    (rules : List Rule)
    (base : Int) :
    let found := ofRules rules base
    (0 ≤ found.score ∧ found.score ≤ 100) ∧
      (∀ tier : Severity, found.severity.rank ≤ tier.rank ↔
        (∀ rule ∈ rules, ∀ floor ∈ rule.floor, floor.rank ≤ tier.rank) ∧
          (Severity.ofScore found.score).rank ≤ tier.rank) ∧
      (∀ other : List Rule, other.Perm rules → ofRules other base = found) ∧
      ∀ larger : List Rule, rules.Subperm larger →
        (ofRules larger base).score ≤ found.score ∧
          found.severity.rank ≤ (ofRules larger base).severity.rank := by
  refine ⟨clampScore_mem _, fun tier => rank_severity_le_iff, fun other perm => ?_,
    fun larger contained => worsens_of_subperm contained base⟩
  -- Each of two lists in different orders contains the other one.
  obtain ⟨scoreLe, rankLe⟩ := worsens_of_subperm perm.subperm base
  obtain ⟨scoreGe, rankGe⟩ := worsens_of_subperm perm.symm.subperm base
  have score := Int.le_antisymm scoreGe scoreLe
  have severity := Severity.rank_injective (Nat.le_antisymm rankLe rankGe)
  generalize ofRules other base = first at score severity
  generalize ofRules rules base = second at score severity
  cases first
  cases second
  simp_all

/-- Two rules in either order, and a third one with a higher floor. -/
theorem ofRules_policy_three :
    let rules := [RuleCode.orderByWithoutLimit.rule, RuleCode.selectStar.rule]
    let other := [RuleCode.selectStar.rule, RuleCode.orderByWithoutLimit.rule]
    let larger := RuleCode.missingIndex.rule :: rules
    (other.Perm rules ∧ ofRules other structuredBase = ofRules rules structuredBase) ∧
      rules.Subperm larger ∧
        (ofRules larger structuredBase).score ≤ (ofRules rules structuredBase).score ∧
        (ofRules rules structuredBase).severity.rank ≤
          (ofRules larger structuredBase).severity.rank := by
  intro rules other larger
  have perm : other.Perm rules := .swap _ _ _
  have contained : rules.Subperm larger := (List.sublist_cons_self _ rules).subperm
  obtain ⟨-, -, ordered, worse⟩ := ofRules_policy rules structuredBase
  exact ⟨⟨perm, ordered other perm⟩, contained, worse larger contained⟩

end Assessment
end SqlReview
