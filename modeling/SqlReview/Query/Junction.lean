import SqlReview.Query.Phrase

/-!
# Junctions

A junction joins the phrases around a centre, such as an operator, into one group. Phrases are
read from left to right, so that a chain of centres gives a group within a group, or one growing
group where a junction says so. White space between the joined phrases goes into the group.
-/

namespace SqlReview
namespace Query

/-- What is joined around which centre. -/
structure Junction where
  /-- The kind of the group. -/
  kind : PhraseKind
  /-- The phrases that may be a centre. -/
  isCenter : Phrase → Bool
  /-- The phrases that may stand before a centre. -/
  fitsBefore : Phrase → Bool := fun _ => true
  /-- What may stand behind a centre. -/
  fitsBehind : Option Phrase → Bool := Option.isSome
  /-- Whether the group starts with the phrase before the centre, and not with the centre. -/
  takesBefore : Bool := true
  /-- Whether the phrase behind the centre belongs to the group. -/
  takesBehind : Option Phrase → Bool := Option.isSome
  /-- Whether the group goes on to the next semicolon behind it, if there is one. -/
  reachesTerminator : Bool := false
  /-- Whether a group of the same kind grows where it would start another one. -/
  grows : Bool := true

namespace Junction

/-- How far the group under way has come. Its parts stand the latest first. -/
inductive Stage where
  /-- No group is under way. -/
  | free
  /-- The phrase behind the centre is still to come. -/
  | awaiting (parts : List Phrase)
  /-- The semicolon is still to come. -/
  | reaching (parts : List Phrase)

/-- The parts of the group under way, the latest first. -/
def Stage.parts : Stage → List Phrase
  | .free => []
  | .awaiting parts => parts
  | .reaching parts => parts

/-- Whether a phrase is a semicolon. -/
def isTerminator (phrase : Phrase) : Bool :=
  phrase.isToken (Token.isMark ";")

/-- Whether a phrase is the centre of a group, given the phrase before it and the ones behind
it. -/
def joins (junction : Junction) (previous : Option Phrase) (part : Phrase) (rest : List Phrase) :
    Bool :=
  junction.isCenter part && previous.any junction.fitsBefore &&
    junction.fitsBehind (Phrase.next? rest)

/-- The first parts of a group that starts with a phrase, the latest first. -/
def first (junction : Junction) (part : Phrase) : List Phrase :=
  if junction.grows then (part.partsIf junction.kind).reverse else [part]

/-- The parts of a group through its centre, and what stands before the group. Everything stands
the latest first. -/
def start (junction : Junction) (done : List Phrase) (center : Phrase) :
    List Phrase × List Phrase :=
  if junction.takesBefore then
    let blanks := done.takeWhile Phrase.isBlank
    match done.drop blanks.length with
    | before :: others => (center :: blanks ++ junction.first before, others)
    | [] => (center :: blanks, [])
  else (junction.first center, done)

/-- A group of parts that stand the latest first. -/
def close (junction : Junction) (parts : List Phrase) : Phrase :=
  .group junction.kind parts.reverse

/-- Phrases with everything joined put into groups. `done` holds what has been read, the latest
first, and `previous` the phrase that counts as standing before the next one. The last phrase of a
group may be the centre of the next group, and counts as standing before what follows. -/
def scan (junction : Junction) (done : List Phrase) (previous : Option Phrase) :
    (stage : Stage) → List Phrase → List Phrase
  | stage, [] => (stage.parts ++ done).reverse
  | .free, part :: rest =>
    if part.isBlank then junction.scan (part :: done) previous .free rest
    else if junction.joins previous part rest then
      let (parts, before) := junction.start done part
      if junction.takesBehind (Phrase.next? rest) then
        junction.scan before previous (.awaiting parts) rest
      else
        let group := junction.close parts
        junction.scan (group :: before) (some group) .free rest
    else junction.scan (part :: done) (some part) .free rest
  | .awaiting parts, part :: rest =>
    if part.isBlank then junction.scan done previous (.awaiting (part :: parts)) rest
    else if junction.reachesTerminator && rest.any isTerminator then
      junction.scan done previous (.reaching (part :: parts)) rest
    else
      let group := junction.close (part :: parts)
      if junction.joins (some group) part rest then
        junction.scan done previous (.awaiting (junction.first group)) rest
      else junction.scan (group :: done) (some part) .free rest
  | .reaching parts, part :: rest =>
    if isTerminator part then
      junction.scan (junction.close (part :: parts) :: done) (some part) .free rest
    else junction.scan done previous (.reaching (part :: parts)) rest

/-- Phrases with everything joined put into groups. -/
def arrange (junction : Junction) (parts : List Phrase) : List Phrase :=
  junction.scan [] none .free parts

/-- A phrase with everything joined put into groups. -/
def apply (junction : Junction) : Phrase → Phrase :=
  Phrase.rearrange [junction.kind] fun _ => junction.arrange

end Junction
end Query
end SqlReview
