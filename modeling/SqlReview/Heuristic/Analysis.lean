import SqlReview.Decimal.Binary64
import SqlReview.Heuristic.Signals
import SqlReview.Json.Basic
import SqlReview.Review.Assessment
import SqlReview.Text.Case

/-!
# Quick analysis

What a quick review answers: a score, the broken rules, an index, a safer query and a guess of
how much faster the query could become. The index and the safer query are made from the text alone:
the index is on the first word behind FROM and the first word behind WHERE, stars become columns, and
sorted rows get a limit.
-/

namespace SqlReview
namespace Heuristic

/-! ## An index -/

/-- A word, recorded as group 1, behind a keyword that may end a longer word. -/
def wordBehind (keyword : Text) : Pattern :=
  .all [.letters keyword, .someBlanks, .group 1 (.oneOrMore Text.isWord)]

/-- The first word behind a keyword, or a word to stand for it. -/
def firstBehind (keyword missing query : Text) : Text :=
  (((wordBehind keyword).search query).map (·.groupText 1)).getD missing

/-- The statement that creates an index for the filter of a query. -/
def suggestIndex (query : Text) : Text :=
  let table := firstBehind "from" "your_table" query
  let column := firstBehind "where" "status" query
  "CREATE INDEX idx_".toList ++ table ++ "_".toList ++ column ++ "\nON ".toList ++ table ++
    "(".toList ++ column ++ ");".toList

/-! ## A safer query -/

/-- What takes the place of a selected star. -/
def replacementColumns : Text :=
  "SELECT id, status, created_at"

/-- The limit put behind a query without one. -/
def limitLine : Text :=
  "\nLIMIT 100;"

/-- A query with a limit behind it, in the place of a final semicolon. -/
def appendLimit (query : Text) : Text :=
  (if query.getLast? = some ';' then query.dropLast else query) ++ limitLine

/-- A query changed so that it no longer breaks the rules about stars and limits. -/
def saferQuery (query : Text) (codes : List RuleCode) : Text :=
  let trimmed := Text.trim query
  let explicit :=
    if codes.contains .selectStar then selectStar.replace replacementColumns trimmed else trimmed
  if codes.contains .orderByWithoutLimit then appendLimit explicit else explicit

/-! ## The review -/

/-- The answer of a quick review. -/
structure Analysis where
  /-- The score, from zero to a hundred. -/
  score : Int
  /-- The tier. -/
  severity : Severity
  /-- The messages of the broken rules, or a single message that there are none. -/
  issues : List Text
  /-- An index for the filter, if it may lack one. -/
  suggestedIndex : Text
  /-- The safer query. -/
  saferQuery : Text
  /-- The fraction of the time that could be saved. -/
  speedup : Float

/-- The fraction of the time that could be saved by settling a number of issues. -/
def estimateSpeedup (issueCount : Float) : Float :=
  if issueCount == 0 then 0.1
  else
    let estimate := 0.2 + 0.15 * issueCount
    Decimal.roundToPlaces 2 (if estimate < 0.9 then estimate else 0.9)

/-- What a quick review says when no rule is broken. -/
def noIssues : Text :=
  "No major issues found"

/-- The quick review of a query. -/
def analyze (query : Text) : Analysis :=
  let codes := signals (Text.lower query)
  let rules := codes.map RuleCode.rule
  let assessment := Assessment.ofRules rules heuristicBase
  { score := assessment.score
    severity := assessment.severity
    issues := if rules.isEmpty then [noIssues] else rules.map (·.message)
    suggestedIndex := if codes.contains .missingIndex then suggestIndex query else []
    saferQuery := Heuristic.saferQuery query codes
    speedup := estimateSpeedup codes.length.toFloat }

/-- The answer as a document. -/
def Analysis.toJson (analysis : Analysis) : Json :=
  .object [
    ("score", .int analysis.score),
    ("severity", .string analysis.severity.name),
    ("issues", .array (analysis.issues.map .string)),
    ("suggestedIndex", .string analysis.suggestedIndex),
    ("rewrittenQuery", .string analysis.saferQuery),
    ("speedupEstimate", .float analysis.speedup)]

end Heuristic
end SqlReview
