import SqlReview.Query.Grouping
import SqlReview.Query.Normal

/-!
# Comment removal

One way to take comments out of a text: out of the phrases of each of its statements. A comment leaves
white space behind, so that the words around it stay apart, unless it comes first in its group or
directly behind an opening parenthesis; hints to the planner stay. The comments of a text with a
statement beyond the size limits cannot be taken out.
-/

namespace SqlReview
namespace Query

/-! ## White space in the place of comments -/

/-- The line ends at the end of a text, blanks behind them aside. -/
def finalLineBreaks (text : Text) : Text :=
  ((text.reverse.dropWhile (· = ' ')).takeWhile fun c => c = '\r' || c = '\n').reverse

/-- What a comment leaves behind: its final line ends, or else one blank. -/
def remains (comment : Text) : Token :=
  let breaks := finalLineBreaks comment
  if breaks.isEmpty then ⟨.blank, [' ']⟩ else ⟨.lineBreak, breaks⟩

namespace Phrase

/-- Whether a phrase is a hint, or a group of comments that starts with a hint. -/
def isHint : Phrase → Bool
  | .leaf token => token.isHint
  | .group kind parts => kind = .comment && parts.head?.any (·.isToken Token.isHint)

mutual

/-- A phrase without the comments inside it. -/
def uncomment : Phrase → Phrase
  | .leaf token => .leaf token
  | .group kind parts => .group kind (uncommentAll none parts)

/-- Phrases without the comments among and inside them, given the phrase that is left directly
before them. -/
def uncommentAll (before : Option Phrase) : List Phrase → List Phrase
  | [] => []
  | part :: rest =>
    let kept := part.uncomment
    if part.isComment && !kept.isHint then
      if before.any (!·.isToken (Token.isMark "(")) then
        let blank := Phrase.leaf (remains part.text)
        blank :: uncommentAll (some blank) rest
      else uncommentAll before rest
    else kept :: uncommentAll (some kept) rest

end

end Phrase

/-! ## Texts without comments -/

/-- A text without white space at the end of its last line. -/
def trimLastLine (text : Text) : Text :=
  Text.trimEndWhere (fun c => Text.isBlank c && c ≠ '\r' && c ≠ '\n') text

/-- The text of a statement without its comments, if it is within the size limits. -/
def Statement.withoutComments? (statement : Statement) : Option Text :=
  statement.phrase?.map fun phrase => trimLastLine phrase.uncomment.text

/-- A text without its comments, if all its statements are within the size limits. -/
def removeComments? (text : Text) : Option Text :=
  ((Statement.list (Token.list text)).mapM Statement.withoutComments?).map List.flatten

/-- A package that takes the comments out of the phrases of statements. -/
instance phraseRemover : CommentRemover where
  withoutComments? := removeComments?

end Query
end SqlReview
