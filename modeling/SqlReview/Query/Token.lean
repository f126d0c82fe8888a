import SqlReview.Text.Blank
import SqlReview.Text.Case

/-!
# Tokens

A token is a stretch of query text together with the part it can play in a statement. Keywords and
names are told apart as far as the building of phrases needs it.
-/

namespace SqlReview
namespace Query

/-- The classes of keywords. -/
inductive KeywordClass where
  /-- A keyword of no narrower class. -/
  | general
  /-- A keyword that starts a statement on rows. -/
  | manipulation
  /-- A keyword that starts a statement on the schema. -/
  | definition
  /-- A keyword that starts a statement on rights. -/
  | rights
  /-- The keyword in front of named subqueries. -/
  | namedSubqueries
  /-- The direction of a sort key. -/
  | sorting
  /-- A shift to a time zone. -/
  | timeZone
  deriving DecidableEq, Repr

/-- What a token is. -/
inductive TokenKind where
  /-- A white-space character that does not end a line. -/
  | blank
  /-- The end of a line. -/
  | lineBreak
  /-- A comment up to the end of its line, the line end included. -/
  | lineComment
  /-- A comment between delimiters. -/
  | blockComment
  /-- A comment up to the end of its line that gives an instruction to the planner. -/
  | lineHint
  /-- A comment between delimiters that gives an instruction to the planner. -/
  | blockHint
  /-- A punctuation mark. -/
  | mark
  /-- The sign of an assignment. -/
  | assignment
  /-- An asterisk. -/
  | wildcard
  /-- An operator. -/
  | operator
  /-- A comparison sign or word. -/
  | comparison
  /-- A keyword. -/
  | keyword (type : KeywordClass)
  /-- A name, or a word that is no keyword. -/
  | name
  /-- The name of a type that every database knows. -/
  | builtin
  /-- A place for a value that is not yet known. -/
  | placeholder
  /-- A word behind a backslash. -/
  | command
  /-- A text between two copies of a dollar sign, perhaps with a tag. -/
  | dollarText
  /-- A text between single quotes. -/
  | quotedText
  /-- A name between double quotes. -/
  | quotedName
  /-- A whole number. -/
  | integer
  /-- A number with a point or an exponent. -/
  | decimal
  /-- A number in base sixteen. -/
  | hexadecimal
  /-- A character that starts nothing. -/
  | stray
  deriving DecidableEq, Repr

/-- A token: its kind and its text. -/
structure Token where
  /-- What the token is. -/
  kind : TokenKind
  /-- The characters of the token. -/
  text : Text
  deriving DecidableEq, Repr

namespace Token

/-- Whether the token is white space. -/
def isBlank (token : Token) : Bool :=
  token.kind = .blank || token.kind = .lineBreak

/-- Whether the token is a comment that gives no instruction. -/
def isPlainComment (token : Token) : Bool :=
  token.kind = .lineComment || token.kind = .blockComment

/-- Whether the token is a comment that gives an instruction to the planner. -/
def isHint (token : Token) : Bool :=
  token.kind = .lineHint || token.kind = .blockHint

/-- Whether the token is a comment of any kind. -/
def isComment (token : Token) : Bool :=
  token.isPlainComment || token.isHint

/-- Whether the token is a keyword of any class. -/
def isKeyword (token : Token) : Bool :=
  match token.kind with
  | .keyword _ => true
  | _ => false

/-- The text of the token in capital letters. -/
def word (token : Token) : Text :=
  Text.upper token.text

/-- Whether the token is one of a list of keywords of no narrower class. -/
def isOneOf (words : List Text) (token : Token) : Bool :=
  token.kind = .keyword .general && words.contains token.word

/-- Whether the token is a given punctuation mark. -/
def isMark (mark : Text) (token : Token) : Bool :=
  token.kind = .mark && token.text = mark

end Token
end Query
end SqlReview
