import SqlReview.Text.Basic

/-!
# Severity

How risky a query is. A score of a hundred is best; lower scores fall into more severe tiers, and
the most severe of several tiers counts.
-/

namespace SqlReview

/-- The tiers of risk, the least severe first. -/
inductive Severity where
  /-- Nothing that needs attention. -/
  | low
  /-- Worth a look. -/
  | medium
  /-- Should be changed. -/
  | high
  /-- Must be changed. -/
  | critical
  deriving DecidableEq, Repr

namespace Severity

/-- The tiers in increasing order. -/
def all : List Severity :=
  [.low, .medium, .high, .critical]

/-- The place of a tier in the order. -/
def rank : Severity → Nat
  | .low => 0
  | .medium => 1
  | .high => 2
  | .critical => 3

/-- The name of a tier. -/
def name : Severity → Text
  | .low => "low"
  | .medium => "medium"
  | .high => "high"
  | .critical => "critical"

/-- The tier of a name. -/
def ofName? (name : Text) : Option Severity :=
  all.find? (·.name = name)

/-- The more severe of a tier and another one, if there is another one. -/
def raise (severity : Severity) : Option Severity → Severity
  | some other => if severity.rank < other.rank then other else severity
  | none => severity

/-- The most severe of several tiers, some of which may be missing. -/
def mostSevere (tiers : List (Option Severity)) : Severity :=
  tiers.foldl raise .low

/-- The bounds below which a score falls into a tier, the most severe tier first. -/
def bounds : List (Int × Severity) :=
  [(40, .critical), (60, .high), (75, .medium)]

/-- The tier that a score falls into. -/
def ofScore (score : Int) : Severity :=
  ((bounds.find? fun bound => score < bound.1).map Prod.snd).getD .low

end Severity

/-- A score brought into the range from zero to a hundred. -/
def clampScore (score : Int) : Int :=
  max 0 (min 100 score)

end SqlReview
