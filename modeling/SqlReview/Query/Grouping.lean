import SqlReview.Query.Enclosure
import SqlReview.Query.Junction

/-!
# Phrases of a statement

The tokens of a statement built up into phrases by a fixed sequence of passes: comments first, then
enclosures, functions and filters, then everything around dots, signs and operators, and last the
comments once more, which join the group before them. Statements beyond the size limits are not
built up.
-/

namespace SqlReview
namespace Query
namespace Grouping

/-! ## Comments -/

/-- Whether a token may continue a run of comments. -/
def continuesComments (token : Token) : Bool :=
  token.isComment || token.kind = .lineBreak

/-- Tokens with neighbouring comments put into groups, behind the first `skip` tokens, which are
already covered. -/
def commentRunsFrom : (skip : Nat) → List Token → List Phrase
  | _, [] => []
  | skip + 1, _ :: rest => commentRunsFrom skip rest
  | 0, token :: rest =>
    if token.isComment then
      let run := rest.takeWhile continuesComments
      .group .comment ((token :: run).map .leaf) :: commentRunsFrom run.length rest
    else .leaf token :: commentRunsFrom 0 rest

/-- Tokens with neighbouring comments put into groups. Comments that run to the end of the
statement stand alone. -/
def commentRuns (tokens : List Token) : List Phrase :=
  let trailing := (tokens.reverse.takeWhile continuesComments).length
  let body := tokens.length - trailing
  commentRunsFrom 0 (tokens.take body) ++ (tokens.drop body).map .leaf

/-- A comment put behind phrases that stand the latest first, into the group they start with if
there is one. -/
def attach (comment : Phrase) (done : List Phrase) : List Phrase :=
  let blanks := done.takeWhile Phrase.isBlank
  match done.drop blanks.length with
  | .group kind parts :: before => .group kind (parts ++ blanks.reverse ++ [comment]) :: before
  | _ => comment :: done

/-- Comments put into the group before them. `done` holds what has been read, the latest first. -/
def attachFrom (done : List Phrase) : List Phrase → List Phrase
  | [] => done.reverse
  | part :: rest =>
    if part.isGroupOf [.comment] then attachFrom (attach part done) rest
    else attachFrom (part :: done) rest

/-- Comments put into the group before them. -/
def attachComments : Phrase → Phrase :=
  Phrase.rearrange [] fun _ => attachFrom []

/-! ## Functions, windows and filters -/

/-- Whether a phrase is a name that something can be called by. -/
def isCallable (phrase : Phrase) : Bool :=
  phrase.isTokenOf [.name, .placeholder, .builtin]

/-- The word OVER put in front of phrases that are already arranged, together with its window. -/
def consWindow (lead : Phrase) (rest : List Phrase) : List Phrase :=
  let blanks := rest.takeWhile Phrase.isBlank
  match rest.drop blanks.length with
  | next :: others =>
    if next.isGroupOf [.parenthesis] || isCallable next then
      .group .window (lead :: blanks ++ [next]) :: others
    else lead :: rest
  | [] => lead :: rest

/-- The windows of functions put into groups. -/
def windows : Phrase → Phrase :=
  Phrase.rearrange [.window] fun _ parts => parts.foldr
    (fun part rest =>
      if part.isToken (Token.isOneOf ["OVER"]) then consWindow part rest else part :: rest)
    []

/-- A name put in front of phrases that are already arranged, together with its arguments and its
window if it has any. -/
def consCall (name : Phrase) (rest : List Phrase) : List Phrase :=
  let blanks := rest.takeWhile Phrase.isBlank
  match rest.drop blanks.length with
  | next :: behind =>
    if next.isGroupOf [.parenthesis] then
      let moreBlanks := behind.takeWhile Phrase.isBlank
      match behind.drop moreBlanks.length with
      | last :: others =>
        if last.isGroupOf [.window] then
          .group .call (name :: blanks ++ next :: moreBlanks ++ [last]) :: others
        else .group .call (name :: blanks ++ [next]) :: behind
      | [] => .group .call (name :: blanks ++ [next]) :: behind
    else name :: rest
  | [] => name :: rest

/-- Whether phrases create a table with listed columns, which look like arguments but are none. -/
def createsTable (parts : List Phrase) : Bool :=
  parts.any (·.isToken (·.word = "CREATE".toList)) &&
    parts.any (·.isToken (·.word = "TABLE".toList)) &&
    !parts.any (·.isToken (·.text = "AS".toList))

/-- Functions put into groups with their arguments. -/
def calls : Phrase → Phrase :=
  Phrase.rearrange [.call] fun _ parts =>
    if createsTable parts then parts
    else
      parts.foldr (fun part rest => if isCallable part then consCall part rest else part :: rest) []

/-- The keywords that end a filter. -/
def filterEnds : List Text :=
  ["ORDER BY", "GROUP BY", "LIMIT", "UNION", "UNION ALL", "EXCEPT", "HAVING", "RETURNING", "INTO"]

/-- Filters put into groups. `filter?` holds the filter under way, the latest phrase first. A
filter goes on to a keyword that ends it, or else to the end; `isEnclosed` tells whether the last
phrase closes an enclosure and stays outside. -/
def filtersFrom (isEnclosed : Bool) (filter? : Option (List Phrase)) :
    List Phrase → List Phrase
  | [] => (filter?.map fun parts => .group .filter parts.reverse).toList
  | part :: rest =>
    match filter? with
    | none =>
      if part.isToken (Token.isOneOf ["WHERE"]) then filtersFrom isEnclosed (some [part]) rest
      else part :: filtersFrom isEnclosed none rest
    | some parts =>
      if part.isToken (Token.isOneOf filterEnds) || (isEnclosed && rest.isEmpty) then
        .group .filter parts.reverse :: part :: filtersFrom isEnclosed none rest
      else filtersFrom isEnclosed (some (part :: parts)) rest

/-- Filters put into groups. -/
def filters : Phrase → Phrase :=
  Phrase.rearrange [.filter] fun kind =>
    filtersFrom (kind = .parenthesis || kind = .brackets) none

/-! ## Names -/

/-- Members of something, behind a point or an arrow. -/
def members : Junction :=
  { kind := .identifier
    isCenter := fun phrase =>
      phrase.isToken fun token => token.isMark "." ||
        (token.kind = .operator && (token.text = "->".toList || token.text = "->>".toList))
    fitsBefore := fun phrase =>
      phrase.isGroupOf [.brackets, .call] || phrase.isTokenOf [.name, .quotedName]
    fitsBehind := fun _ => true
    takesBehind := fun next => next.any fun phrase =>
      phrase.isGroupOf [.brackets, .call] ||
        phrase.isTokenOf [.name, .quotedName, .wildcard, .quotedText] }

/-- Elements of something, in square brackets. -/
def elements : Junction :=
  { kind := .identifier
    isCenter := Phrase.isGroupOf [.brackets]
    fitsBefore := fun phrase =>
      phrase.isGroupOf [.brackets, .identifier, .call] || phrase.isTokenOf [.name, .quotedName]
    fitsBehind := fun _ => true
    takesBehind := fun _ => false }

/-- Single names put into groups. -/
def names : Phrase → Phrase :=
  Phrase.rearrange [.identifier] fun _ parts => parts.map fun part =>
    if part.isTokenOf [.name, .quotedName] then .group .identifier [part] else part

/-- Whether a phrase is a number. -/
def isNumber (phrase : Phrase) : Bool :=
  phrase.isTokenOf [.integer, .decimal, .hexadecimal]

/-- A direction put behind phrases that stand the latest first, into a group with the sort key they
start with if there is one. -/
def attachDirection (direction : Phrase) (done : List Phrase) : List Phrase :=
  let blanks := done.takeWhile Phrase.isBlank
  match done.drop blanks.length with
  | key :: before =>
    if key.isGroupOf [.identifier] || isNumber key then
      .group .identifier (key :: blanks.reverse ++ [direction]) :: before
    else direction :: done
  | [] => direction :: done

/-- Sort keys put into groups with their directions. `done` holds what has been read, the latest
first. -/
def sortKeysFrom (done : List Phrase) : List Phrase → List Phrase
  | [] => done.reverse
  | part :: rest =>
    if part.isTokenOf [.keyword .sorting] then sortKeysFrom (attachDirection part done) rest
    else sortKeysFrom (part :: done) rest

/-- Sort keys put into groups with their directions. -/
def sortKeys : Phrase → Phrase :=
  Phrase.rearrange [.identifier] fun _ => sortKeysFrom []

/-! ## Values -/

/-- Conversions to a type. -/
def conversions : Junction :=
  { kind := .identifier
    isCenter := fun phrase => phrase.isToken (Token.isMark "::") }

/-- Shifts to a time zone that are named or continued. -/
def timeZones : Junction :=
  { kind := .identifier
    isCenter := Phrase.isTokenOf [.keyword .timeZone]
    fitsBehind := fun next => next.any fun phrase =>
      phrase.isToken (Token.isOneOf ["AS"]) || phrase.isTokenOf [.quotedText] }

/-- Quoted values behind their types. -/
def typedValues : Junction :=
  { kind := .typedValue
    isCenter := Phrase.isTokenOf [.builtin]
    fitsBehind := fun next => next.any (Phrase.isTokenOf [.quotedText])
    takesBefore := false
    grows := false }

/-- The units of a time span. -/
def spanUnits : List Text :=
  ["DAY", "HOUR", "MINUTE", "MONTH", "SECOND", "YEAR"]

/-- Time spans and their units. -/
def spans : Junction :=
  { kind := .typedValue
    isCenter := Phrase.isGroupOf [.typedValue]
    fitsBehind := fun next => next.any fun phrase => phrase.isToken (Token.isOneOf spanUnits)
    takesBefore := false }

/-- Whether a phrase is a value that is a single token. -/
def isPlainValue (phrase : Phrase) : Bool :=
  phrase.isTokenOf [.integer, .decimal, .quotedText, .quotedName, .name, .placeholder]

/-- Whether a phrase can be an operand. -/
def isOperand (phrase : Phrase) : Bool :=
  isPlainValue phrase ||
    phrase.isGroupOf [.brackets, .parenthesis, .call, .identifier, .operation, .typedValue] ||
    phrase.isToken (Token.isOneOf ["CURRENT_DATE", "CURRENT_TIME", "CURRENT_TIMESTAMP"])

/-- Operators between their operands. -/
def operations : Junction :=
  { kind := .operation
    isCenter := Phrase.isTokenOf [.operator, .wildcard]
    fitsBefore := isOperand
    fitsBehind := fun next => next.any isOperand
    grows := false }

/-- Whether a phrase is a given keyword of any class. -/
def isKeyword (word : Text) (phrase : Phrase) : Bool :=
  phrase.isToken fun token => token.isKeyword && token.word = word

/-- Whether a phrase can be compared. -/
def isComparable (phrase : Phrase) : Bool :=
  isPlainValue phrase ||
    phrase.isGroupOf [.parenthesis, .call, .identifier, .operation, .typedValue] ||
    isKeyword "NULL" phrase

/-- Comparisons between their sides. -/
def comparisons : Junction :=
  { kind := .comparison
    isCenter := Phrase.isTokenOf [.comparison]
    fitsBefore := isComparable
    fitsBehind := fun next => next.any isComparable
    grows := false }

/-! ## Aliases and assignments -/

/-- Aliases behind the word AS. -/
def namings : Junction :=
  { kind := .identifier
    isCenter := isKeyword "AS"
    fitsBefore := fun phrase => isKeyword "NULL" phrase || !phrase.isToken Token.isKeyword
    fitsBehind := fun next => next.any fun phrase => !phrase.isTokenOf
      [.keyword .manipulation, .keyword .definition, .keyword .namedSubqueries] }

/-- Whether a phrase can have an alias directly behind it. -/
def isNameable (phrase : Phrase) : Bool :=
  phrase.isGroupOf [.parenthesis, .call, .cases, .identifier, .operation, .comparison] ||
    isNumber phrase

/-- Aliases joined to what stands directly before them. `parts?` holds what an alias under way
belongs to, the latest phrase first. -/
def aliasesFrom (parts? : Option (List Phrase)) : List Phrase → List Phrase
  | [] => (parts?.getD []).reverse
  | part :: rest =>
    match parts? with
    | none =>
      if isNameable part && (Phrase.next? rest).any (Phrase.isGroupOf [.identifier]) then
        aliasesFrom (some (part.partsIf .identifier).reverse) rest
      else part :: aliasesFrom none rest
    | some parts =>
      if part.isBlank then aliasesFrom (some (part :: parts)) rest
      else .group .identifier (part :: parts).reverse :: aliasesFrom none rest

/-- Aliases joined to what stands directly before them. -/
def aliases : Phrase → Phrase :=
  Phrase.rearrange [] fun _ => aliasesFrom none

/-- Whether a phrase can stand beside the sign of an assignment. -/
def isAssignable (phrase : Phrase) : Bool :=
  !phrase.isTokenOf [.keyword .general]

/-- Assignments, up to the next semicolon. -/
def assignments : Junction :=
  { kind := .assignment
    isCenter := Phrase.isTokenOf [.assignment]
    fitsBefore := isAssignable
    fitsBehind := fun next => next.any isAssignable
    reachesTerminator := true }

/-! ## Passes -/

/-- The passes behind the one that puts comments together, in order. -/
def passes : List (Phrase → Phrase) :=
  Enclosure.list.map Enclosure.apply ++ [
    windows, calls, filters, members.apply, Phrase.rearrangeOuter elements.arrange, names,
    sortKeys, conversions.apply, timeZones.apply, typedValues.apply, spans.apply,
    operations.apply, comparisons.apply, namings.apply, aliases, assignments.apply,
    attachComments]

/-- A phrase after all passes. -/
def refine (phrase : Phrase) : Phrase :=
  passes.foldl (fun refined pass => pass refined) phrase

/-- The greatest number of groups that the parts of a statement may stand in. -/
def depthLimit : Nat := 101

/-- The greatest number of parts that a group may have. -/
def widthLimit : Nat := 10000

/-- Whether a phrase is within the size limits. -/
def isWithinLimits (phrase : Phrase) : Bool :=
  phrase.width ≤ widthLimit && phrase.depth ≤ depthLimit

end Grouping

/-- The phrases of a statement, unless it is beyond the size limits. -/
def Statement.phrase? (statement : Statement) : Option Phrase :=
  let comments := Phrase.group .statement (Grouping.commentRuns statement)
  if Grouping.isWithinLimits comments then
    (some (Grouping.refine comments)).filter Grouping.isWithinLimits
  else none

end Query
end SqlReview
