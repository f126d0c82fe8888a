import SqlReview.Text.Alphanumeric
import SqlReview.Text.Basic

/-!
# Patterns

A pattern says which stretches of a text count as an occurrence of something. Alternatives are
ordered and repetitions prefer more over fewer, so at every place where a pattern fits there is
one preferred way for it to fit. `attempt` looks for that way with the rest of the search passed
along as a continuation; a choice is revised when what follows it does not fit.
-/

namespace SqlReview

/-- A place between two characters of a text. -/
structure Place where
  /-- The character directly before the place, if there is one. -/
  before : Option Char
  /-- The number of characters before the place. -/
  index : Nat
  /-- The text behind the place. -/
  rest : Text

namespace Place

/-- The place at the start of a text. -/
def start (text : Text) : Place :=
  ⟨none, 0, text⟩

/-- The place a number of characters behind the start of a text. -/
def within (text : Text) (index : Nat) : Place :=
  ⟨(text.take index).getLast?, index, text.drop index⟩

/-- Whether exactly one of the two characters around the place belongs to a word. -/
def isWordEdge (place : Place) : Bool :=
  (place.before.any Text.isWord) != (place.rest.head?.any Text.isWord)

/-- Whether only a single final line break may still follow. -/
def isEnd (place : Place) : Bool :=
  place.rest = [] || place.rest = ['\n']

end Place

/-- A stretch of text that a numbered group of a pattern stands for. -/
structure Capture where
  /-- The number of the group. -/
  group : Nat
  /-- Where the stretch starts. -/
  start : Nat
  /-- The stretch itself. -/
  text : Text

/-- How far an attempt has come: the place reached, and the groups seen, latest first. -/
structure Progress where
  /-- The place reached. -/
  place : Place
  /-- The groups seen. -/
  captures : List Capture

namespace Progress

/-- The next character, and the progress behind it. -/
def next? (progress : Progress) : Option (Char × Progress) :=
  match progress.place.rest with
  | [] => none
  | c :: rest => some (c, ⟨⟨some c, progress.place.index + 1, rest⟩, progress.captures⟩)

/-- The progress after each number of characters of a class, the greatest number first, put in
front of given others. -/
def runsOnto (accepts : Char → Bool) (captures : List Capture) :
    (before : Option Char) → (index : Nat) → Text → List Progress → List Progress
  | before, index, [], others => ⟨⟨before, index, []⟩, captures⟩ :: others
  | before, index, c :: rest, others =>
    if accepts c then
      runsOnto accepts captures (some c) (index + 1) rest
        (⟨⟨before, index, c :: rest⟩, captures⟩ :: others)
    else
      ⟨⟨before, index, c :: rest⟩, captures⟩ :: others

/-- The progress after each number of characters of a class, the greatest number first. -/
def runs (accepts : Char → Bool) (progress : Progress) : List Progress :=
  runsOnto accepts progress.captures progress.place.before progress.place.index
    progress.place.rest []

/-- The stretch between two places recorded under the number of a group. -/
def record (group : Nat) (opened : Place) (progress : Progress) : Progress :=
  ⟨progress.place,
    ⟨group, opened.index, opened.rest.take (progress.place.index - opened.index)⟩ ::
      progress.captures⟩

end Progress

/-- A pattern over texts. -/
inductive Pattern where
  /-- Fits anywhere without taking a character. -/
  | nothing
  /-- One character of a class. -/
  | one (accepts : Char → Bool)
  /-- As many characters of a class as possible, perhaps none. -/
  | many (accepts : Char → Bool)
  /-- One pattern and directly behind it another. -/
  | seq (first second : Pattern)
  /-- One pattern or, failing that, another. -/
  | alt (first second : Pattern)
  /-- A pattern as many times as possible, perhaps never. -/
  | star (body : Pattern)
  /-- An edge of a word. -/
  | edge
  /-- The start of the text. -/
  | textStart
  /-- The end of the text, a final line break aside. -/
  | textEnd
  /-- A place that is not directly behind a character of a class. -/
  | notAfter (refuses : Char → Bool)
  /-- A pattern whose stretch is recorded under a number. -/
  | group (number : Nat) (body : Pattern)

namespace Pattern

/-! ## Derived forms -/

/-- Several patterns, each directly behind the one before. -/
def all (parts : List Pattern) : Pattern :=
  parts.foldr .seq .nothing

/-- The first of several patterns that fits. -/
def any : List Pattern → Pattern
  | [] => .nothing
  | [last] => last
  | first :: others => .alt first (any others)

/-- A pattern or nothing, preferably the pattern. -/
def optional (body : Pattern) : Pattern :=
  .alt body .nothing

/-- One or more characters of a class, as many as possible. -/
def oneOrMore (accepts : Char → Bool) : Pattern :=
  .seq (.one accepts) (.many accepts)

/-- One given character. -/
def char (c : Char) : Pattern :=
  .one (· = c)

/-! ## Attempts -/

/-- A step tried as many times as it makes progress, at most a given number of times, and then the
continuation. -/
def repeatAttempt {Answer : Type}
    (step : Progress → (Progress → Option Answer) → Option Answer) :
    (times : Nat) → Progress → (Progress → Option Answer) → Option Answer
  | 0, progress, accept => accept progress
  | times + 1, progress, accept =>
    match step progress fun later =>
        if progress.place.index < later.place.index then
          repeatAttempt step times later accept
        else none with
    | some answer => some answer
    | none => accept progress

/-- The answer of the continuation at the first place, in order of preference, that the pattern
reaches and the continuation accepts. -/
def attempt {Answer : Type} :
    Pattern → Progress → (Progress → Option Answer) → Option Answer
  | .nothing, progress, accept => accept progress
  | .one accepts, progress, accept =>
    match progress.next? with
    | some (c, later) => if accepts c then accept later else none
    | none => none
  | .many accepts, progress, accept => (progress.runs accepts).findSome? accept
  | .seq first second, progress, accept =>
    first.attempt progress fun later => second.attempt later accept
  | .alt first second, progress, accept =>
    match first.attempt progress accept with
    | some answer => some answer
    | none => second.attempt progress accept
  | .star body, progress, accept =>
    repeatAttempt (fun reached resume => body.attempt reached resume)
      progress.place.rest.length progress accept
  | .edge, progress, accept => if progress.place.isWordEdge then accept progress else none
  | .textStart, progress, accept =>
    if progress.place.before.isNone then accept progress else none
  | .textEnd, progress, accept => if progress.place.isEnd then accept progress else none
  | .notAfter refuses, progress, accept =>
    if progress.place.before.any refuses then none else accept progress
  | .group number body, progress, accept =>
    body.attempt progress fun later => accept (later.record number progress.place)

end Pattern
end SqlReview
