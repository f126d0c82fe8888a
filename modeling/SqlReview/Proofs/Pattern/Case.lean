import SqlReview.Proofs.Pattern.Word

/-!
# Patterns and capital letters

A pattern whose classes do not tell plain capital letters from small ones fits in a text in the same
ways after the capital letters have become small. All searches give the same offsets then.
-/

namespace SqlReview

/-! ## Small letters -/

/-- The small letter of a plain capital letter, or the character itself. -/
def Text.smallLetter (c : Char) : Char :=
  if 'A' ≤ c && c ≤ 'Z' then Char.ofNat (c.toNat + 32) else c

/-- What does not tell the first 128 code points from their small letters does so for no
character. -/
theorem Text.eq_smallLetter
    {Value : Type}
    {value : Char → Value}
    (each : ∀ point < 0x80, value (smallLetter (Char.ofNat point)) = value (Char.ofNat point))
    (c : Char) :
    value (smallLetter c) = value c := by
  by_cases capital : ('A' ≤ c && c ≤ 'Z') = true
  · have ascii := ascii_of_between capital (by decide)
    have here := each c.toNat ascii
    rwa [Char.ofNat_toNat] at here
  · rw [smallLetter, if_neg capital]

theorem Text.isWord_smallLetter (c : Char) :
    isWord (smallLetter c) = isWord c :=
  eq_smallLetter (by decide) c

theorem Text.foldLetter_smallLetter (c : Char) :
    foldLetter (smallLetter c) = foldLetter c :=
  eq_smallLetter (by decide) c

/-- A text with small letters in the place of plain capital ones. -/
def Text.small (text : Text) : Text :=
  text.map smallLetter

/-- A place in the text with small letters. -/
def Place.small (place : Place) : Place :=
  ⟨place.before.map Text.smallLetter, place.index, place.rest.small⟩

/-- A recorded stretch with small letters. -/
def Capture.small (capture : Capture) : Capture :=
  ⟨capture.group, capture.start, capture.text.small⟩

/-- How far an attempt has come in the text with small letters. -/
def Progress.small (progress : Progress) : Progress :=
  ⟨progress.place.small, progress.captures.map Capture.small⟩

/-- An occurrence in the text with small letters. -/
def Occurrence.small (occurrence : Occurrence) : Occurrence :=
  ⟨occurrence.start, occurrence.stop, occurrence.text.small,
    occurrence.captures.map Capture.small⟩

namespace Pattern

/-! ## Patterns that ignore case -/

/-- Whether a pattern does not tell plain capital letters from small ones. -/
def IgnoresCase : Pattern → Prop
  | .nothing | .edge | .textStart | .textEnd => True
  | .one accepts | .many accepts | .notAfter accepts =>
    ∀ c, accepts (Text.smallLetter c) = accepts c
  | .seq first second | .alt first second => first.IgnoresCase ∧ second.IgnoresCase
  | .star body | .group _ body => body.IgnoresCase

theorem ignoresCase_all
    {parts : List Pattern}
    (ignore : ∀ part ∈ parts, part.IgnoresCase) :
    (all parts).IgnoresCase := by
  induction parts with
  | nil => trivial
  | cons part parts inductionHypothesis =>
      exact ⟨ignore part (.head _), inductionHypothesis fun other present =>
        ignore other (.tail _ present)⟩

theorem ignoresCase_letters (word : Text) :
    (letters word).IgnoresCase := by
  refine ignoresCase_all fun part present => ?_
  obtain ⟨c, -, rfl⟩ := List.mem_map.mp present
  intro found
  exact congrArg (fun letter => decide (letter = c)) (Text.foldLetter_smallLetter found)

theorem ignoresCase_blanks :
    blanks.IgnoresCase :=
  fun c => Text.eq_smallLetter (by decide) c

theorem ignoresCase_someBlanks :
    someBlanks.IgnoresCase :=
  ⟨ignoresCase_blanks, ignoresCase_blanks⟩

theorem ignoresCase_word (word : Text) :
    (Pattern.word word).IgnoresCase := by
  refine ignoresCase_all fun part present => ?_
  simp only [List.mem_cons, List.not_mem_nil, or_false] at present
  rcases present with rfl | rfl | rfl
  · trivial
  · exact ignoresCase_letters word
  · trivial

/-! ## Outcomes -/

theorem runsOnto_small
    {accepts : Char → Bool}
    (ignores : ∀ c, accepts (Text.smallLetter c) = accepts c)
    (captures : List Capture)
    (before : Option Char)
    (index : Nat)
    (text : Text)
    (others : List Progress) :
    Progress.runsOnto accepts (captures.map Capture.small) (before.map Text.smallLetter) index
        text.small (others.map Progress.small) =
      (Progress.runsOnto accepts captures before index text others).map Progress.small := by
  induction text generalizing before index others with
  | nil => rfl
  | cons c text inductionHypothesis =>
      rw [Text.small, List.map_cons, ← Text.small, Progress.runsOnto, Progress.runsOnto, ignores]
      split
      · exact inductionHypothesis (some c) (index + 1) (⟨⟨before, index, c :: text⟩, captures⟩ :: others)
      · rfl

theorem repeatOutcomes_small
    {step : Progress → List Progress}
    (steps : ∀ progress, step progress.small = (step progress).map Progress.small)
    (times : Nat)
    (progress : Progress) :
    repeatOutcomes step times progress.small =
      (repeatOutcomes step times progress).map Progress.small := by
  induction times generalizing progress with
  | zero => rfl
  | succ times inductionHypothesis =>
      rw [repeatOutcomes, repeatOutcomes, steps, List.map_append, List.map_flatMap,
        List.flatMap_map]
      congr 2
      funext later
      change (if progress.place.index < later.place.index then _ else _) = _
      split
      · exact inductionHypothesis later
      · rfl

/-- With small letters a pattern has the same outcomes. -/
theorem outcomes_small
    {pattern : Pattern}
    (ignores : pattern.IgnoresCase)
    (progress : Progress) :
    pattern.outcomes progress.small = (pattern.outcomes progress).map Progress.small := by
  induction pattern generalizing progress with
  | nothing => rfl
  | one accepts =>
      obtain ⟨⟨before, index, text⟩, captures⟩ := progress
      cases text with
      | nil => rfl
      | cons c text =>
          change (if accepts (Text.smallLetter c) then _ else _) =
            (if accepts c then _ else _ : List Progress).map Progress.small
          rw [ignores c]
          split <;> rfl
  | many accepts =>
      exact runsOnto_small ignores _ _ _ _ []
  | seq first second firstSmall secondSmall =>
      rw [outcomes, outcomes, firstSmall ignores.1, List.flatMap_map, List.map_flatMap]
      congr 1
      funext later
      exact secondSmall ignores.2 later
  | alt first second firstSmall secondSmall =>
      rw [outcomes, outcomes, firstSmall ignores.1, secondSmall ignores.2, List.map_append]
  | star body bodySmall =>
      rw [outcomes, outcomes]
      have length : progress.small.place.rest.length = progress.place.rest.length :=
        List.length_map _
      rw [length]
      exact repeatOutcomes_small (bodySmall ignores) _ progress
  | edge =>
      have isEdge : progress.small.place.isWordEdge = progress.place.isWordEdge := by
        obtain ⟨⟨before, index, text⟩, captures⟩ := progress
        simp [Place.isWordEdge, Progress.small, Place.small, Text.small, Option.any_map,
          Text.isWord_smallLetter]
      rw [outcomes, outcomes, isEdge]
      split <;> rfl
  | textStart =>
      rw [outcomes, outcomes]
      cases before : progress.place.before <;> simp [Progress.small, Place.small, before]
  | textEnd =>
      have isEnd : progress.small.place.isEnd = progress.place.isEnd := by
        obtain ⟨⟨before, index, text⟩, captures⟩ := progress
        have lineBreak (c : Char) : decide (Text.smallLetter c = '\n') = decide (c = '\n') :=
          @Text.eq_smallLetter Bool (fun d => decide (d = '\n')) (by decide) c
        rcases text with _ | ⟨c, _ | ⟨d, text⟩⟩
        · rfl
        · simpa [Place.isEnd, Progress.small, Place.small, Text.small] using lineBreak c
        · simp [Place.isEnd, Progress.small, Place.small, Text.small]
      rw [outcomes, outcomes, isEnd]
      split <;> rfl
  | notAfter refuses =>
      have refused : progress.small.place.before.any refuses =
          progress.place.before.any refuses := by
        cases before : progress.place.before <;> simp [Progress.small, Place.small, before]
        exact ignores _
      rw [outcomes, outcomes, refused]
      split <;> rfl
  | group number body bodySmall =>
      rw [outcomes, outcomes, bodySmall ignores, List.map_map, List.map_map]
      congr 1
      funext later
      simp [Progress.small, Progress.record, Place.small, Capture.small, Text.small]

/-! ## Searches -/

variable {pattern : Pattern}

theorem occurrenceAt?_small
    (ignores : pattern.IgnoresCase)
    (place : Place) :
    pattern.occurrenceAt? place.small = (pattern.occurrenceAt? place).map Occurrence.small := by
  rw [occurrenceAt?_eq_head?, occurrenceAt?_eq_head?]
  have same := outcomes_small ignores ⟨place, []⟩
  change pattern.outcomes ⟨place.small, []⟩ = _ at same
  rw [same, List.head?_map, Option.map_map, Option.map_map]
  congr 1
  funext reached
  simp [occurrenceOf, Occurrence.small, Progress.small, Place.small, Text.small]

theorem searchFrom_small
    (ignores : pattern.IgnoresCase)
    (before : Option Char)
    (index : Nat)
    (text : Text) :
    pattern.searchFrom (before.map Text.smallLetter) index text.small =
      (pattern.searchFrom before index text).map Occurrence.small := by
  induction text generalizing before index with
  | nil => exact occurrenceAt?_small ignores ⟨before, index, []⟩
  | cons c text inductionHypothesis =>
      have here := occurrenceAt?_small ignores ⟨before, index, c :: text⟩
      change pattern.occurrenceAt? ⟨_, index, Text.smallLetter c :: Text.small text⟩ = _ at here
      rw [Text.small, List.map_cons, ← Text.small, searchFrom, searchFrom, here]
      cases pattern.occurrenceAt? ⟨before, index, c :: text⟩ with
      | none => exact inductionHypothesis (some c) (index + 1)
      | some occurrence => rfl

theorem occursIn_small
    (ignores : pattern.IgnoresCase)
    (text : Text) :
    pattern.occursIn text.small = pattern.occursIn text := by
  have same := searchFrom_small ignores none 0 text
  rw [occursIn, occursIn, search, search]
  change pattern.searchFrom none 0 text.small = _ at same
  rw [same, Option.isSome_map]

theorem occurrencesFrom_small
    (ignores : pattern.IgnoresCase)
    (skip : Nat)
    (before : Option Char)
    (index : Nat)
    (text : Text) :
    pattern.occurrencesFrom skip (before.map Text.smallLetter) index text.small =
      (pattern.occurrencesFrom skip before index text).map Occurrence.small := by
  induction text generalizing skip before index with
  | nil => rfl
  | cons c text inductionHypothesis =>
      rw [Text.small, List.map_cons, ← Text.small]
      cases skip with
      | succ skip => exact inductionHypothesis skip (some c) (index + 1)
      | zero =>
          have here := occurrenceAt?_small ignores ⟨before, index, c :: text⟩
          change pattern.occurrenceAt? ⟨_, index, Text.smallLetter c :: Text.small text⟩ = _ at here
          rw [occurrencesFrom, occurrencesFrom, here]
          cases pattern.occurrenceAt? ⟨before, index, c :: text⟩ with
          | none => exact inductionHypothesis 0 (some c) (index + 1)
          | some occurrence =>
              simp only [Option.map_some]
              change (if 0 < occurrence.length then _ else _) = _
              split
              · rw [List.map_cons]
                exact congrArg _ (inductionHypothesis _ (some c) (index + 1))
              · exact inductionHypothesis 0 (some c) (index + 1)

/-- With small letters a pattern occurs equally often. -/
theorem length_occurrences_small
    (ignores : pattern.IgnoresCase)
    (text : Text) :
    (pattern.occurrences text.small).length = (pattern.occurrences text).length := by
  have same := occurrencesFrom_small ignores 0 none 0 text
  change pattern.occurrences text.small = _ at same
  rw [same, List.length_map]
  rfl

end Pattern
end SqlReview
