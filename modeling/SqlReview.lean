import SqlReview.Main
import SqlReview.Pattern.Outcomes
import SqlReview.Proofs.Pattern.Cover
import SqlReview.Proofs.Query.Nest
import SqlReview.Web.Application
import SqlReview.Proofs.Pattern.Word
import SqlReview.Proofs.Query.Scanners
import SqlReview.Proofs.Query.Marks
import SqlReview.Proofs.Query.SubqueryBody
import SqlReview.Proofs.Pattern.Occurrence
import SqlReview.Proofs.Query.Clauses
import SqlReview.Proofs.Query.Inertness
import SqlReview.Proofs.Query.Opacity
import SqlReview.Proofs.Plain.Agreement
import SqlReview.Proofs.Admission.History
import SqlReview.Proofs.Admission.Backends
import SqlReview.Proofs.Admission.Workers
import SqlReview.Proofs.Admission.Interruption
import SqlReview.Proofs.Access.Identity
import SqlReview.Proofs.Json.Names
import SqlReview.Proofs.Advice.Contract
import SqlReview.Proofs.Web.FreeUse
import SqlReview.Proofs.Web.Consultations
import SqlReview.Proofs.Query.Consistency
import SqlReview.Proofs.Advice.Documents
import SqlReview.Proofs.Heuristic.Layout
import SqlReview.Proofs.Review.Case
import SqlReview.Proofs.Review.Policy
import SqlReview.Proofs.Pattern.Reading
import SqlReview.Proofs.FromClause.ReadBack
import SqlReview.Proofs.Nested.Extraction
import SqlReview.Proofs.Query.Columns
import SqlReview.Proofs.WhereClause.ReadBack
import SqlReview.Proofs.SelectList.ReadBack
import SqlReview.Proofs.Literals.Contents
import SqlReview.Proofs.Literals.Items
import SqlReview.Proofs.Literals.Lists
import SqlReview.Proofs.Literals.Readings
import SqlReview.Proofs.SelectList.Selections
import SqlReview.Proofs.SelectList.Subqueries
import SqlReview.Proofs.Review.Grouping
import SqlReview.Proofs.ItemLists.ReadBack
import SqlReview.Proofs.Heuristic.SaferQuery
import SqlReview.Proofs.Heuristic.SaferWords
import SqlReview.Proofs.Heuristic.Suggestion
import SqlReview.Proofs.Query.Remarks
import SqlReview.Proofs.Access.Credentials
import SqlReview.Proofs.Query.Partition
import SqlReview.Proofs.Command.Endings
import SqlReview.Proofs.Query.TopLevel
import SqlReview.Proofs.Query.ListSpans
