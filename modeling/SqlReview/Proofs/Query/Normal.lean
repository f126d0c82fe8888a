import Mathlib.Tactic.ByContra
import SqlReview.Query.Structure

/-!
# Queries in normal form

A normalized query starts and ends with other characters than white space, so only the empty one
is blank. The structure of a query in normal form is therefore that of the text as it stands.
-/

namespace SqlReview

/-- A trimmed text is blank only if it is empty. -/
theorem Text.trim_eq_nil
    {text : Text}
    (blank : (Text.trim text).isAllBlank = true) :
    Text.trim text = [] := by
  rw [Text.isAllBlank, List.all_eq_true] at blank
  rw [Text.trim, Text.trimWhere, Text.trimEndWhere, List.reverse_eq_nil_iff] at *
  by_contra nonempty
  have first := List.head_dropWhile_not Text.isBlank nonempty
  have present := List.mem_reverse.mpr (List.head_mem nonempty)
  rw [blank _ present] at first
  exact absurd first (by decide)

namespace Query

theorem not_isAllBlank_of_normal
    [CommentRemover]
    {text : Text}
    (normal : normalize text = text)
    (nonempty : text ≠ []) :
    text.isAllBlank = false := by
  rw [Bool.eq_false_iff]
  intro blank
  rw [← normal, normalize] at blank
  exact nonempty (normal.symm.trans (Text.trim_eq_nil blank))

/-- The normal form of a text without comments. -/
theorem normalize_of_plain
    [CommentRemover]
    {text : Text}
    (plain : hasCommentMark text = false) :
    normalize text = Text.trim (dropTerminators (Text.trim (Text.collapse text))) := by
  rw [normalize, withoutComments, plain, if_neg Bool.false_ne_true]

/-- Extraction from a query in normal form takes the text as it is. -/
theorem extract_of_normal
    [CommentRemover]
    {text : Text}
    (normal : normalize text = text)
    (nonempty : text ≠ []) :
    Structure.extract text = Structure.ofNormal (indexHint.occursIn text) text := by
  have isEmpty : text.isEmpty = false := by simpa using nonempty
  simp [Structure.extract, not_isAllBlank_of_normal normal nonempty, normal, isEmpty]

end Query
end SqlReview
