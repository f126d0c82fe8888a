import SqlReview.Query.Phrase

/-!
# Enclosures

What stands between an opening and a closing token becomes one group. Openings that are never
closed, and closings that nothing opened, stay plain tokens.
-/

namespace SqlReview
namespace Query

/-- The tokens between which a kind of group stands. -/
structure Enclosure where
  /-- The kind of the group. -/
  kind : PhraseKind
  /-- The tokens that open it. -/
  opens : Token → Bool
  /-- The tokens that close it. -/
  closes : Token → Bool

namespace Enclosure

/-- The groups under way: the phrases of the innermost one, and those of the ones around it, the
inner ones first. All phrases stand the latest first. -/
structure Progress where
  /-- The phrases of the innermost group under way. -/
  inner : List Phrase
  /-- The phrases of the groups around it. -/
  outer : List (List Phrase)

/-- The progress behind another phrase. -/
def step (enclosure : Enclosure) (progress : Progress) (part : Phrase) : Progress :=
  if part.isToken enclosure.opens then ⟨[part], progress.inner :: progress.outer⟩
  else
    match progress.outer with
    | around :: outer =>
      if part.isToken enclosure.closes then
        ⟨.group enclosure.kind (part :: progress.inner).reverse :: around, outer⟩
      else ⟨part :: progress.inner, progress.outer⟩
    | [] => ⟨part :: progress.inner, []⟩

/-- Phrases with everything enclosed put into groups. -/
def arrange (enclosure : Enclosure) (parts : List Phrase) : List Phrase :=
  let progress := parts.foldl enclosure.step ⟨[], []⟩
  (progress.inner ++ progress.outer.flatten).reverse

/-- A phrase with everything enclosed put into groups. -/
def apply (enclosure : Enclosure) : Phrase → Phrase :=
  Phrase.rearrange [enclosure.kind] fun _ => enclosure.arrange

/-! ## The enclosures of the language -/

/-- Square brackets. -/
def brackets : Enclosure :=
  ⟨.brackets, Token.isMark "[", Token.isMark "]"⟩

/-- Parentheses. -/
def parentheses : Enclosure :=
  ⟨.parenthesis, Token.isMark "(", Token.isMark ")"⟩

/-- Case distinctions. -/
def cases : Enclosure :=
  ⟨.cases, Token.isOneOf ["CASE"], Token.isOneOf ["END"]⟩

/-- Branches of routines. -/
def branches : Enclosure :=
  ⟨.branch, Token.isOneOf ["IF"], Token.isOneOf ["END IF"]⟩

/-- Loops of routines. -/
def loops : Enclosure :=
  ⟨.loop, Token.isOneOf ["FOR", "FOREACH"], Token.isOneOf ["END LOOP"]⟩

/-- Blocks of routines. -/
def blocks : Enclosure :=
  ⟨.block, Token.isOneOf ["BEGIN"], Token.isOneOf ["END"]⟩

/-- All enclosures, in the order in which they are looked for. -/
def list : List Enclosure :=
  [brackets, parentheses, cases, branches, loops, blocks]

end Enclosure
end Query
end SqlReview
