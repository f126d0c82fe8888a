import SqlReview.Pattern.Basic

/-!
# Searching with patterns

Where a pattern occurs in a text: at a given place, at the first place from left to right, and at
all places that do not overlap. Every search takes the preferred way of fitting at the first place
where there is one.
-/

namespace SqlReview

/-- An occurrence of a pattern in a text. -/
structure Occurrence where
  /-- Where it starts. -/
  start : Nat
  /-- Where it ends. -/
  stop : Nat
  /-- The stretch of text it covers. -/
  text : Text
  /-- The groups it recorded, latest first. -/
  captures : List Capture

namespace Occurrence

/-- The capture of a group, if the group took part in the occurrence. -/
def group? (occurrence : Occurrence) (number : Nat) : Option Capture :=
  occurrence.captures.find? (·.group = number)

/-- The text of a group, empty if the group took no part. -/
def groupText (occurrence : Occurrence) (number : Nat) : Text :=
  ((occurrence.group? number).map (·.text)).getD []

/-- The number of characters covered. -/
def length (occurrence : Occurrence) : Nat :=
  occurrence.stop - occurrence.start

end Occurrence

namespace Pattern

/-- The preferred occurrence that starts at a place. -/
def occurrenceAt? (pattern : Pattern) (place : Place) : Option Occurrence :=
  pattern.attempt ⟨place, []⟩ fun reached =>
    .some ⟨place.index, reached.place.index,
      place.rest.take (reached.place.index - place.index), reached.captures⟩

/-- Whether the pattern fits at a place. -/
def fitsAt (pattern : Pattern) (place : Place) : Bool :=
  (pattern.occurrenceAt? place).isSome

/-- The first occurrence at or behind a place. -/
def searchFrom (pattern : Pattern) (before : Option Char) (index : Nat) :
    Text → Option Occurrence
  | [] => pattern.occurrenceAt? ⟨before, index, []⟩
  | c :: rest =>
    match pattern.occurrenceAt? ⟨before, index, c :: rest⟩ with
    | some occurrence => some occurrence
    | none => searchFrom pattern (some c) (index + 1) rest

/-- The first occurrence in a text. -/
def search (pattern : Pattern) (text : Text) : Option Occurrence :=
  pattern.searchFrom none 0 text

/-- Whether the pattern occurs in a text. -/
def occursIn (pattern : Pattern) (text : Text) : Bool :=
  (pattern.search text).isSome

/-- The occurrence at the start of a text. -/
def atStart? (pattern : Pattern) (text : Text) : Option Occurrence :=
  pattern.occurrenceAt? (Place.start text)

/-- Whether the pattern fits at the start of a text. -/
def fitsStart (pattern : Pattern) (text : Text) : Bool :=
  pattern.fitsAt (Place.start text)

/-- The occurrences behind a place that do not overlap, from left to right. The first `skip`
characters are already covered. A stretch without characters is no occurrence here. -/
def occurrencesFrom (pattern : Pattern) :
    (skip : Nat) → (before : Option Char) → (index : Nat) → Text → List Occurrence
  | _, _, _, [] => []
  | skip + 1, _, index, c :: rest => occurrencesFrom pattern skip (some c) (index + 1) rest
  | 0, before, index, c :: rest =>
    match pattern.occurrenceAt? ⟨before, index, c :: rest⟩ with
    | some occurrence =>
      if 0 < occurrence.length then
        occurrence :: occurrencesFrom pattern (occurrence.length - 1) (some c) (index + 1) rest
      else
        occurrencesFrom pattern 0 (some c) (index + 1) rest
    | none => occurrencesFrom pattern 0 (some c) (index + 1) rest

/-- The occurrences in a text that do not overlap, from left to right. -/
def occurrences (pattern : Pattern) (text : Text) : List Occurrence :=
  pattern.occurrencesFrom 0 none 0 text

/-- A text with another text put in the place of every occurrence behind a place. -/
def replaceFrom (pattern : Pattern) (replacement : Text) :
    (skip : Nat) → (before : Option Char) → (index : Nat) → Text → Text
  | _, _, _, [] => []
  | skip + 1, _, index, c :: rest => replaceFrom pattern replacement skip (some c) (index + 1) rest
  | 0, before, index, c :: rest =>
    match pattern.occurrenceAt? ⟨before, index, c :: rest⟩ with
    | some occurrence =>
      if 0 < occurrence.length then
        replacement ++
          replaceFrom pattern replacement (occurrence.length - 1) (some c) (index + 1) rest
      else
        c :: replaceFrom pattern replacement 0 (some c) (index + 1) rest
    | none => c :: replaceFrom pattern replacement 0 (some c) (index + 1) rest

/-- A text with another text put in the place of every occurrence. -/
def replace (pattern : Pattern) (replacement text : Text) : Text :=
  pattern.replaceFrom replacement 0 none 0 text

/-- The beginning of a text up to the first occurrence, or the whole text. -/
def beforeFirst (pattern : Pattern) (text : Text) : Text :=
  match pattern.search text with
  | some occurrence => text.take occurrence.start
  | none => text

end Pattern
end SqlReview
