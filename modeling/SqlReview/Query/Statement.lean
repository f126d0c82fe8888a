import SqlReview.Query.Lexer

/-!
# Statements

The tokens of a query text divided into statements. A semicolon ends a statement unless it stands
inside parentheses, inside a block or inside a routine body; so does the end of a batch. Blanks and
line comments on the rest of the line still belong to the statement.
-/

namespace SqlReview
namespace Query

/-- The tokens of one statement. -/
abbrev Statement := List Token

/-- How far a statement is nested at some place. -/
structure Nesting where
  /-- The parentheses, declarations, blocks and branches that are open, less those closed. -/
  level : Int := 0
  /-- The number of blocks that are open. -/
  blocks : Nat := 0
  /-- Whether the statement creates something. -/
  creates : Bool := false
  /-- Whether a case distinction is open. -/
  inCase : Bool := false
  /-- Whether the start of a block is the last thing that has been read. -/
  startsBlock : Bool := false

namespace Nesting

/-- The words behind the start of a block by which it starts a transaction instead. -/
def transactionWords : List Text :=
  ["TRANSACTION", "WORK", "TRAN", "DISTRIBUTED", "DEFERRED", "IMMEDIATE", "EXCLUSIVE"]

/-- The words that open a branch or a loop of a routine. -/
def branchWords : List Text :=
  ["IF", "FOR", "WHILE", "CASE"]

/-- The words that close a branch or a loop of a routine. -/
def branchEnds : List Text :=
  ["END IF", "END FOR", "END WHILE"]

/-- The nesting behind a keyword. -/
def afterKeyword (nesting : Nesting) (token : Token) : Nesting :=
  let word := token.word
  if token.kind = .keyword .definition && "CREATE".toList.isPrefixOf word then
    { nesting with creates := true }
  else if word = "DECLARE".toList && nesting.creates && nesting.blocks = 0 then
    { nesting with level := nesting.level + 1 }
  else if word = "BEGIN".toList then
    { nesting with
      level := if nesting.creates then nesting.level + 1 else nesting.level
      blocks := nesting.blocks + 1
      startsBlock := true }
  else if nesting.startsBlock && token.isOneOf transactionWords then
    { nesting with blocks := nesting.blocks - 1, startsBlock := false }
  else if word = "END".toList then
    { nesting with
      level := nesting.level - 1
      blocks := if nesting.inCase then nesting.blocks else nesting.blocks - 1
      inCase := false }
  else if branchWords.contains word && nesting.creates && 0 < nesting.blocks then
    { nesting with
      level := nesting.level + 1
      inCase := nesting.inCase || word = "CASE".toList }
  else if branchEnds.contains word then
    { nesting with level := nesting.level - 1 }
  else nesting

/-- The nesting behind a token, as far as the token opens or closes something. -/
def afterToken (nesting : Nesting) (token : Token) : Nesting :=
  if token.isMark "(" then { nesting with level := nesting.level + 1 }
  else if token.isMark ")" then { nesting with level := nesting.level - 1 }
  else if token.isKeyword then nesting.afterKeyword token
  else nesting

/-- Whether nothing is open. -/
def isClosed (nesting : Nesting) : Bool :=
  nesting.level ≤ 0 && nesting.blocks = 0

/-- Whether a token leaves the start of a block the last thing that has been read. -/
def keepsBlockStart (token : Token) : Bool :=
  token.isBlank || token.isPlainComment || token.isOneOf ["BEGIN"]

/-- Whether a token is the word that ends a batch. -/
def endsBatch (token : Token) : Bool :=
  token.kind = .keyword .general && token.text.takeWhile (!Text.isBlank ·) = "GO".toList

/-- The nesting behind a token, and whether the token ends the statement. A semicolon directly
behind the start of a block makes it the start of a transaction. -/
def step (nesting : Nesting) (token : Token) : Nesting × Bool :=
  let behind := nesting.afterToken token
  if token.isMark ";" then
    let settled := { behind with
      blocks := if behind.startsBlock then behind.blocks - 1 else behind.blocks
      startsBlock := false }
    (settled, settled.isClosed)
  else if endsBatch token then (behind, true)
  else ({ behind with startsBlock := behind.startsBlock && keepsBlockStart token }, false)

end Nesting

namespace Statement

/-- Whether a token may still belong to a statement that has ended. -/
def trails (token : Token) : Bool :=
  token.kind = .blank || token.kind = .lineComment

/-- The statements of a token sequence. `ended` tells whether the statement under way has ended,
and `reading` holds its tokens, the latest first. White space alone is no statement. -/
def listFrom (nesting : Nesting) (ended : Bool) (reading : List Token) :
    List Token → List Statement
  | [] => if reading.all Token.isBlank then [] else [reading.reverse]
  | token :: rest =>
    if ended && !trails token then
      let (behind, ends) := Nesting.step {} token
      reading.reverse :: listFrom behind ends [token] rest
    else
      let (behind, ends) := nesting.step token
      listFrom behind (ended || ends) (token :: reading) rest

/-- The statements of a token sequence. -/
def list (tokens : List Token) : List Statement :=
  listFrom {} false [] tokens

end Statement
end Query
end SqlReview
