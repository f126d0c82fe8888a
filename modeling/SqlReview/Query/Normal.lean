import SqlReview.Text.Blank

/-!
# Normal form of a query

The form in which a query is examined: no comments, one plain blank for every run of white space,
nothing but the query at the ends, and no semicolon behind it. The comments are taken out by a
package of its own, as far as it can.
-/

namespace SqlReview

/-- A package that takes comments out of texts. -/
class CommentRemover where
  /-- A text without its comments, if they can be taken out. -/
  withoutComments? : Text → Option Text

namespace Query

/-! ## Comments -/

/-- Whether a text holds anything that could start a comment. -/
def hasCommentMark (text : Text) : Bool :=
  Text.holds "--" text || Text.holds "/*" text || text.contains '#'

/-- A text without its comments, as far as they can be taken out. -/
def withoutComments [CommentRemover] (text : Text) : Text :=
  if hasCommentMark text then (CommentRemover.withoutComments? text).getD text else text

/-! ## Normal form -/

/-- A text without the semicolons and blanks at its end. -/
def dropTerminators (text : Text) : Text :=
  Text.trimEndWhere (fun c => c = ';' || c = ' ') text

/-- The normal form of a query. -/
def normalize [CommentRemover] (text : Text) : Text :=
  Text.trim (dropTerminators (Text.trim (Text.collapse (withoutComments text))))

end Query
end SqlReview
