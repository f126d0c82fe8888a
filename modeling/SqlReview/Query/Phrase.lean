import SqlReview.Query.Statement

/-!
# Phrases

A phrase is a token or a group of phrases. Building the phrases of a statement never changes its
text: the tokens of a phrase, in order, are the tokens it was built from.
-/

namespace SqlReview
namespace Query

/-- What holds a group of phrases together. -/
inductive PhraseKind where
  /-- A whole statement. -/
  | statement
  /-- Neighbouring comments and the line ends between them. -/
  | comment
  /-- What stands in square brackets, the brackets included. -/
  | brackets
  /-- What stands in parentheses, the parentheses included. -/
  | parenthesis
  /-- A case distinction. -/
  | cases
  /-- A branch of a routine. -/
  | branch
  /-- A loop of a routine. -/
  | loop
  /-- A block of a routine. -/
  | block
  /-- The window of a function. -/
  | window
  /-- A function and its arguments. -/
  | call
  /-- A filter. -/
  | filter
  /-- A name with what belongs to it. -/
  | identifier
  /-- A type and a quoted value of it. -/
  | typedValue
  /-- An operator between its operands. -/
  | operation
  /-- A comparison between its sides. -/
  | comparison
  /-- An assignment. -/
  | assignment
  deriving DecidableEq, Repr

/-- A token or a group of phrases. -/
inductive Phrase where
  /-- A single token. -/
  | leaf (token : Token)
  /-- Phrases that belong together. -/
  | group (kind : PhraseKind) (parts : List Phrase)

namespace Phrase

/-! ## Questions to the outermost layer -/

/-- Whether the phrase is a token of some class. -/
def isToken (accepts : Token → Bool) : Phrase → Bool
  | .leaf token => accepts token
  | .group _ _ => false

/-- Whether the phrase is a token of one of some kinds. -/
def isTokenOf (kinds : List TokenKind) (phrase : Phrase) : Bool :=
  phrase.isToken fun token => kinds.contains token.kind

/-- Whether the phrase is a group of one of some kinds. -/
def isGroupOf (kinds : List PhraseKind) : Phrase → Bool
  | .leaf _ => false
  | .group kind _ => kinds.contains kind

/-- Whether the phrase is a white-space token. -/
def isBlank (phrase : Phrase) : Bool :=
  phrase.isToken Token.isBlank

/-- Whether the phrase is a comment, or a group of them. -/
def isComment (phrase : Phrase) : Bool :=
  phrase.isToken Token.isComment || phrase.isGroupOf [.comment]

/-- The parts of a group of a given kind; any other phrase is its only part. -/
def partsIf (kind : PhraseKind) : Phrase → List Phrase
  | .leaf token => [.leaf token]
  | .group found parts => if found = kind then parts else [.group found parts]

/-! ## Walks through all layers -/

mutual

/-- The text of a phrase. -/
def text : Phrase → Text
  | .leaf token => token.text
  | .group _ parts => textOf parts

/-- The text of phrases one behind the other. -/
def textOf : List Phrase → Text
  | [] => []
  | part :: rest => part.text ++ textOf rest

end

mutual

/-- The number of groups that the innermost part of a phrase stands in. -/
def depth : Phrase → Nat
  | .leaf _ => 0
  | .group _ parts => depthOf parts + 1

/-- The greatest depth of some phrases. -/
def depthOf : List Phrase → Nat
  | [] => 0
  | part :: rest => max part.depth (depthOf rest)

end

mutual

/-- The greatest number of parts of a group in a phrase. -/
def width : Phrase → Nat
  | .leaf _ => 0
  | .group _ parts => max parts.length (widthOf parts)

/-- The greatest width of some phrases. -/
def widthOf : List Phrase → Nat
  | [] => 0
  | part :: rest => max part.width (widthOf rest)

end

mutual

/-- A phrase in which the parts of every group are arranged anew, inner groups first. Groups of a
kind in `closed` stay as they are. -/
def rearrange (closed : List PhraseKind) (arrange : PhraseKind → List Phrase → List Phrase) :
    Phrase → Phrase
  | .leaf token => .leaf token
  | .group kind parts =>
    if closed.contains kind then .group kind parts
    else .group kind (arrange kind (rearrangeAll closed arrange parts))

/-- Phrases in which the parts of every group are arranged anew. -/
def rearrangeAll (closed : List PhraseKind)
    (arrange : PhraseKind → List Phrase → List Phrase) : List Phrase → List Phrase
  | [] => []
  | part :: rest => part.rearrange closed arrange :: rearrangeAll closed arrange rest

end

/-- A phrase in which only the parts of the outermost group are arranged anew. -/
def rearrangeOuter (arrange : List Phrase → List Phrase) : Phrase → Phrase
  | .leaf token => .leaf token
  | .group kind parts => .group kind (arrange parts)

/-- The first phrase that is not white space. -/
def next? (phrases : List Phrase) : Option Phrase :=
  phrases.find? (!·.isBlank)

end Phrase
end Query
end SqlReview
