import SqlReview.Review.Catalog

/-!
# Assessment

The rules that a query breaks, put together into a score and a tier. The tier is the most severe
of the tier of the score and the floors of the rules, so one more broken rule never makes a query
look better.
-/

namespace SqlReview

/-- A score and a tier. -/
structure Assessment where
  /-- The score, from zero to a hundred. -/
  score : Int
  /-- The tier. -/
  severity : Severity
  deriving DecidableEq, Repr

/-- The score from which a review of the structure starts. -/
def structuredBase : Int := 100

/-- The score from which a review of the plain text starts. -/
def heuristicBase : Int := 85

namespace Assessment

/-- The points that rules take off together. -/
def deduction : List Rule → Nat
  | [] => 0
  | rule :: rest => rule.weight + deduction rest

/-- The assessment of a query that breaks given rules, starting from a given score. -/
def ofRules (rules : List Rule) (base : Int) : Assessment :=
  let score := clampScore (base - deduction rules)
  let floor := Severity.mostSevere (rules.map (·.floor))
  ⟨score, Severity.mostSevere [some floor, some (Severity.ofScore score)]⟩

end Assessment
end SqlReview
