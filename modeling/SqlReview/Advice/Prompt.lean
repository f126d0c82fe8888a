import SqlReview.Json.Printer
import SqlReview.Query.Document
import SqlReview.Review.Finding
import SqlReview.Text.Blank

/-!
# The prompt

The text that asks the reasoning engine for advice: the query, its structure and the findings, the
table definitions and the execution plan if they are given, and the form of the answer.
-/

namespace SqlReview

/-- A finding as a document. -/
def Finding.toJson (finding : Finding) : Json :=
  .object [
    ("code", .string finding.code.name),
    ("message", .string finding.message),
    ("severityWeight", .nat finding.weight)]

namespace Advice

/-! ## Sections -/

/-- Lines with line breaks between them. -/
def lines (lines : List Text) : Text :=
  Text.join ['\n'] lines

/-- What the engine is for. -/
def introduction : Text :=
  lines [
    "You are an AI SQL Query Advisor.",
    "You analyze query structure, detect logical performance issues,",
    "and propose safer rewrites (CTE decomposition, DISTINCT fixes,",
    "index recommendations, avoiding join explosion)."]

/-- The query with its structure and the findings. -/
def subject (query database : Text) (structured : Structure) (findings : List Finding) : Text :=
  lines [
    "Database engine: ".toList ++ database,
    "",
    "Here is the SQL query:",
    query,
    "",
    "Here is the extracted structure:",
    Json.render structured.toJson,
    "",
    "Here are the detected patterns:",
    Json.render (.array (findings.map Finding.toJson))]

/-- The table definitions. -/
def schemaSection (schema : Text) : Text :=
  lines [
    "", "",
    "Table Schema (provided by user):",
    schema,
    "",
    "Use this schema information to provide more accurate index recommendations " ++
      "and query optimizations."]

/-- The execution plan. -/
def planSection (plan : Text) : Text :=
  lines [
    "", "",
    "Execution Plan (EXPLAIN output):",
    plan,
    "",
    "Analyze this execution plan to identify performance bottlenecks, missing indexes, " ++
      "and inefficient operations."]

/-- The form of the answer, and what to pay attention to. -/
def contract : Text :=
  lines [
    "", "",
    "Return VALID JSON with this structure:",
    "\x7b",
    "  \"analysis\": \"... detailed explanation of the query structure and issues ...\",",
    "  \"warnings\": [\"...\", \"...\", \"...\"],",
    "  \"rewrittenQuery\": \"... safer rewritten SQL query ...\",",
    "  \"recommendedIndexes\": \"... CREATE INDEX statements or index recommendations ...\",",
    "  \"notes\": \"... additional notes, best practices, or recommendations ...\"",
    "\x7d",
    "Return exactly these five keys and nothing else.",
    "",
    "Focus on:",
    "- JOIN explosion and row multiplication",
    "- COUNT(*) overcounting due to JOINs",
    "- Missing DISTINCT in aggregations with multiple JOINs",
    "- Incorrect or missing GROUP BY clauses",
    "- Non-sargable filters (LIKE %, OR conditions, LOWER()/UPPER())",
    "- Key/value metadata table JOINs (e.g. WordPress wp_postmeta)",
    "- Proper aggregation placement",
    "- Safer query rewrites using CTEs, correlated subqueries, or derived tables",
    "- Index recommendations based on WHERE, JOIN, and ORDER BY clauses",
    "",
    "If the query is already well-optimized, explain why and provide minimal suggestions.",
    "Keep the rewritten query executable and maintain the original semantics."]

/-! ## The whole -/

/-- A section about a text, left out if the text is missing or blank. -/
def optionalSection (section? : Option Text) (write : Text → Text) : Text :=
  match section? with
  | some text => if Text.isAllBlank text then [] else write text
  | none => []

/-- The prompt about a query. -/
def prompt (query database : Text) (structured : Structure) (findings : List Finding)
    (schema plan : Option Text) : Text :=
  introduction ++ "\n\n".toList ++ subject query database structured findings ++
    optionalSection schema schemaSection ++ optionalSection plan planSection ++ contract

end Advice
end SqlReview
