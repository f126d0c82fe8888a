import SqlReview.Advice.Validation
import SqlReview.Failure

/-!
# The reply

The answer of the reasoning engine must be a JSON object with exactly five keys: four texts and a
list of texts. Everything that is wrong with an answer is reported at once.
-/

namespace SqlReview
namespace Advice

/-- The advice of the engine. -/
structure Reply where
  /-- What the query does and what is wrong with it. -/
  analysis : Text
  /-- Warnings. -/
  warnings : List Text
  /-- A better query. -/
  saferQuery : Text
  /-- Indexes to create. -/
  recommendedIndexes : Text
  /-- Further notes. -/
  notes : Text
  deriving DecidableEq, Repr

namespace Reply

/-- The shape of an answer. -/
def shape : Shape where
  fields := [("analysis", .text), ("warnings", .texts), ("rewrittenQuery", .text),
    ("recommendedIndexes", .text), ("notes", .text)]
  forbidsOthers := true
  isStrict := true
  distinct := by decide

/-- The advice that the fields of an answer hold. -/
def ofMembers (members : Members) : Reply where
  analysis := members.text "analysis"
  warnings := members.texts "warnings"
  saferQuery := members.text "rewrittenQuery"
  recommendedIndexes := members.text "recommendedIndexes"
  notes := members.text "notes"

/-- The failure of an answer that is not in the agreed form. -/
def malformed (details : Fields) : Failure :=
  ⟨.engineReplyMalformed, "Invalid AI response format", details⟩

/-- The advice in an answer, or the failure that reports all that is wrong with it. -/
def parse (validate : Validation) (answer : Text) : Except Failure Reply :=
  match validate shape answer with
  | .ok members => .ok (ofMembers members)
  | .error complaints =>
    .error (malformed [("errors", .array (complaints.map fun complaint => .string complaint.kind))])

/-- The fields of the advice as documents. -/
def fields (reply : Reply) : Fields :=
  [("analysis", .string reply.analysis),
    ("warnings", .array (reply.warnings.map .string)),
    ("rewrittenQuery", .string reply.saferQuery),
    ("recommendedIndexes", .string reply.recommendedIndexes),
    ("notes", .string reply.notes)]

end Reply
end Advice
end SqlReview
